import Mathlib.Tactic.Common

namespace Os161.Lib.Tiling

open List

-- A row of blocks, one behind the other from an address on.

section Rows

variable {β : Type} (size : β → Nat)

def span : List β → Nat
  | [] => 0
  | b :: bs => size b + span bs

def last (prev : Nat) : List β → Nat
  | [] => prev
  | b :: bs => last (size b) bs

def lastStart (before : Option Nat) : Nat → List β → Option Nat
  | _, [] => before
  | a, b :: bs => lastStart (some a) (a + size b) bs

def Each (P : Nat → Nat → β → Prop) : Nat → Nat → List β → Prop
  | _, _, [] => True
  | a, prev, b :: bs => P a prev b ∧ Each P (a + size b) (size b) bs

def At : Nat → List β → Nat → β → Prop
  | _, [], _, _ => False
  | a, b' :: bs, x, b => (x = a ∧ b = b') ∨ At (a + size b') bs x b

end Rows

variable {β : Type} {P Q : Nat → Nat → β → Prop} {prev : Nat}

lemma span_append : span size (xs ++ ys) = span size xs + span size ys := by
  induction xs with
  | nil => simp [span]
  | cons b xs ih => simp only [cons_append, span, ih, Nat.add_assoc]

lemma last_append : last size prev (xs ++ ys) = last size (last size prev xs) ys := by
  induction xs generalizing prev with
  | nil => rfl
  | cons b xs ih => exact ih

lemma lastStart_append : lastStart size before a (xs ++ ys) =
      lastStart size (lastStart size before a xs) (a + span size xs) ys := by
  induction xs generalizing a before with
  | nil => rfl
  | cons b xs ih =>
    rw [cons_append, lastStart, ih, span, ← Nat.add_assoc]
    rfl

lemma each_append : Each size P a prev (xs ++ ys) ↔
    Each size P a prev xs ∧ Each size P (a + span size xs) (last size prev xs) ys := by
  induction xs generalizing a prev with
  | nil => simp [Each, span, last]
  | cons b xs ih => simp only [cons_append, Each, span, last, ih, Nat.add_assoc, and_assoc]

lemma at_range (h : At size a bs x b) : a ≤ x ∧ x + size b ≤ a + span size bs := by
  induction bs generalizing a with
  | nil => exact h.elim
  | cons b' bs ih =>
    rw [span]
    rcases h with ⟨rfl, rfl⟩ | h
    · omega
    · have := ih h
      omega

lemma each_at (h : Each size P a prev bs) (hx : At size a bs x b) : ∃ p, P x p b := by
  induction bs generalizing a prev with
  | nil => exact hx.elim
  | cons b' bs ih =>
    rcases hx with ⟨rfl, rfl⟩ | hx
    · exact ⟨prev, h.1⟩
    · exact ih h.2 hx

lemma each_imp (h : Each size P a prev bs)
    (himp : ∀ x p b, At size a bs x b → P x p b → Q x p b) : Each size Q a prev bs := by
  induction bs generalizing a prev with
  | nil => trivial
  | cons b' bs ih =>
    exact ⟨himp _ _ _ (.inl ⟨rfl, rfl⟩) h.1, ih h.2 fun x p b hx => himp x p b (.inr hx)⟩

end Os161.Lib.Tiling
