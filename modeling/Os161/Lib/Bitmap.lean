import Mathlib.Data.UInt
import Mathlib.Logic.Function.Basic
import Mathlib.Tactic.IntervalCases

-- Bitmaps kept as bytes: bit `b` is bit `b % 8` of byte `b / 8`.

namespace Os161.Lib.Bitmap

open BitVec

def mask (b : Nat) : UInt8 := 1 <<< UInt8.ofNat (b % 8)

def marked (m : Nat → UInt8) (b : Nat) : Bool := m (b / 8) &&& mask b != 0

def mark (m : Nat → UInt8) (b : Nat) : Nat → UInt8 :=
  Function.update m (b / 8) (m (b / 8) ||| mask b)

def unmark (m : Nat → UInt8) (b : Nat) : Nat → UInt8 :=
  Function.update m (b / 8) (m (b / 8) &&& ~~~mask b)

def markRange (m : Nat → UInt8) : Nat → Nat → Nat → UInt8
  | _, 0 => m
  | first, count + 1 => markRange (mark m first) (first + 1) count

variable {m m' : Nat → UInt8} {b c i : Nat}

lemma mask_getLsbD (b i : Nat) : (mask b).toBitVec.getLsbD i = decide (i = b % 8) := by
  unfold mask
  have hb : b % 8 < 8 := Nat.mod_lt _ (by decide)
  generalize b % 8 = k at hb
  by_cases hi : i < 8
  · interval_cases k <;> interval_cases i <;> decide
  · rw [getLsbD_of_ge _ _ (by omega)]
    exact (decide_eq_false (by omega)).symm

lemma and_mask (x : UInt8) (b : Nat) : (x &&& mask b != 0) = x.toBitVec.getLsbD (b % 8) := by
  cases hbit : x.toBitVec.getLsbD (b % 8) with
  | false =>
    rw [bne_eq_false_iff_eq]
    apply UInt8.toBitVec_inj.mp
    apply eq_of_getLsbD_eq
    intro i _
    rw [UInt8.toBitVec_and, getLsbD_and, mask_getLsbD]
    by_cases hi : i = b % 8
    · simp [hi, hbit]
    · simp [hi]
  | true =>
    rw [bne_iff_ne]
    intro hzero
    have hread := congrArg (fun y : UInt8 => y.toBitVec.getLsbD (b % 8)) hzero
    simp [mask_getLsbD, hbit] at hread

lemma marked_eq : marked m b = (m (b / 8)).toBitVec.getLsbD (b % 8) := and_mask _ _

lemma marked_zero : marked (fun _ => 0) b = false := by
  rw [marked_eq]
  simp

lemma eq_of_place (hbyte : c / 8 = b / 8) : c % 8 = b % 8 ↔ c = b := by omega

lemma marked_mark : marked (mark m b) c = (decide (c = b) || marked m c) := by
  rw [marked_eq, marked_eq, mark]
  by_cases hbyte : c / 8 = b / 8
  · rw [hbyte, Function.update_self, UInt8.toBitVec_or, getLsbD_or, mask_getLsbD,
      decide_eq_decide.mpr (eq_of_place hbyte), Bool.or_comm]
  · have hne : c ≠ b := fun h => hbyte (h ▸ rfl)
    rw [Function.update_of_ne hbyte, decide_eq_false hne, Bool.false_or]

lemma marked_unmark : marked (unmark m b) c = (marked m c && decide (c ≠ b)) := by
  rw [marked_eq, marked_eq, unmark]
  by_cases hbyte : c / 8 = b / 8
  · have hc : c % 8 < 8 := Nat.mod_lt c (by decide)
    rw [hbyte, Function.update_self, UInt8.toBitVec_and, UInt8.toBitVec_not, getLsbD_and,
      getLsbD_not, mask_getLsbD, decide_eq_true hc, Bool.true_and,
      decide_eq_decide.mpr (eq_of_place hbyte), ← decide_not]
  · have hne : c ≠ b := fun h => hbyte (h ▸ rfl)
    rw [Function.update_of_ne hbyte, decide_eq_true hne, Bool.and_true]

lemma marked_markRange (first count : Nat) : marked (markRange m first count) c =
      (decide (first ≤ c ∧ c < first + count) || marked m c) := by
  induction count generalizing m first with
  | zero =>
    rw [decide_eq_false (by omega)]
    rfl
  | succ count ih =>
    rw [markRange, ih, marked_mark, ← Bool.or_assoc, ← Bool.decide_or]
    congr 1
    exact decide_eq_decide.mpr (by omega)

lemma byte_ext (h : ∀ k < 8, marked m (8 * i + k) = marked m' (8 * i + k)) : m i = m' i := by
  apply UInt8.toBitVec_inj.mp
  apply eq_of_getLsbD_eq
  intro k hk
  have hbit := h k hk
  rw [marked_eq, marked_eq, show (8 * i + k) / 8 = i by omega,
    show (8 * i + k) % 8 = k by omega] at hbit
  exact hbit

lemma ext (h : ∀ b, marked m b = marked m' b) : m = m' :=
  funext fun _ => byte_ext fun _ _ => h _

lemma and_eq_zero_of_apart (h : ∀ b, marked m b → marked m' b = false) (i : Nat) :
    m i &&& m' i = 0 := by
  have hbits : ∀ b, marked (fun i => m i &&& m' i) b = marked (fun _ => 0) b := by
    intro b
    have hbit := h b
    rw [marked_eq, marked_eq] at hbit
    rw [marked_eq, marked_zero, UInt8.toBitVec_and, getLsbD_and]
    cases hm : (m (b / 8)).toBitVec.getLsbD (b % 8) with
    | false => rfl
    | true => exact hbit hm
  exact congrFun (ext hbits) i

end Os161.Lib.Bitmap
