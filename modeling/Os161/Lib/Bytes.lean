import Mathlib.Tactic.Common

namespace Os161.Lib.Bytes

variable {α : Type}

-- A store with the `n` cells from `base` on replaced by `f 0 .. f (n - 1)`.
def paste (store : Nat → α) (base n : Nat) (f : Nat → α) : Nat → α :=
  fun x => if base ≤ x ∧ x < base + n then f (x - base) else store x

lemma paste_inside (hi : i < n) : paste store base n f (base + i) = f i := by
  unfold paste
  rw [if_pos (by omega), Nat.add_sub_cancel_left]

lemma paste_outside (hx : x < base ∨ base + n ≤ x) : paste store base n f x = store x := by
  unfold paste
  rw [if_neg (by omega)]

lemma paste_other_block (hne : j ≠ i) (hk : k < n) :
    paste store (i * n) n f (j * n + k) = store (j * n + k) := by
  apply paste_outside
  rcases Nat.lt_or_gt_of_ne hne with h | h
  · have := Nat.mul_le_mul_right n (show j + 1 ≤ i from h)
    rw [Nat.succ_mul] at this
    omega
  have := Nat.mul_le_mul_right n (show i + 1 ≤ j from h)
  rw [Nat.succ_mul] at this
  omega

lemma paste_congr (h : store x = store' x) :
    paste store base n f x = paste store' base n f x := by
  unfold paste
  rw [h]

lemma paste_zero : paste store base 0 f = store := by
  funext x
  exact paste_outside (by omega)

lemma paste_append :
    paste (paste store base n f) (base + n) m (fun k => f (n + k)) =
      paste store base (n + m) f := by
  funext x
  unfold paste
  by_cases hlast : base + n ≤ x ∧ x < base + n + m
  · rw [if_pos hlast, if_pos (by omega)]
    exact congrArg f (by omega)
  rw [if_neg hlast]
  by_cases hfirst : base ≤ x ∧ x < base + n
  · rw [if_pos hfirst, if_pos (by omega)]
  · rw [if_neg hfirst, if_neg (by omega)]

end Os161.Lib.Bytes
