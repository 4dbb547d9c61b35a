import Mathlib.Logic.Function.Basic
import Mathlib.Tactic.Common

namespace Os161.Lib.Keys

open Function

variable {α κ : Type}

def Distinct (keys : α → Option κ) : Prop :=
  ∀ a b k, keys a = some k → keys b = some k → a = b

def Unused (keys : α → Option κ) (a : α) (k : κ) : Prop := ∀ b, b ≠ a → keys b ≠ some k

variable [DecidableEq α]

inductive Step (keys : α → Option κ) : Option (α × κ) → (α → Option κ) → Prop where
  | grant (a : α) (k : κ) : Step keys (some (a, k)) (update keys a (some k))
  | drop (a : α) : Step keys none (update keys a none)
  | stay : Step keys none keys

lemma distinct_drop (h : Distinct keys) (a : α) : Distinct (update keys a none) := by
  intro b c k hb hc
  have hkeeps : ∀ {b}, update keys a none b = some k → keys b = some k := by
    intro b hb
    by_cases hba : b = a
    · simp [hba] at hb
    · rwa [update_of_ne hba] at hb
  exact h b c k (hkeeps hb) (hkeeps hc)

lemma distinct_grant_iff (h : Distinct keys) (a : α) (k : κ) :
    Distinct (update keys a (some k)) ↔ Unused keys a k := by
  constructor
  · intro hgrant b hba hb
    refine hba (hgrant b a k ?_ (update_self ..))
    rwa [update_of_ne hba]
  intro hunused b c k' hb hc
  by_cases hba : b = a <;> by_cases hca : c = a
  · exact hba.trans hca.symm
  · subst hba
    rw [update_self] at hb
    rw [update_of_ne hca, ← hb] at hc
    exact absurd hc (hunused c hca)
  · subst hca
    rw [update_self] at hc
    rw [update_of_ne hba, ← hc] at hb
    exact absurd hb (hunused b hba)
  rw [update_of_ne hba] at hb
  rw [update_of_ne hca] at hc
  exact h b c k' hb hc

lemma distinct_step_iff {granted : Option (α × κ)}
    (h : Distinct keys) (hstep : Step keys granted keys') :
    Distinct keys' ↔ ∀ a k, granted = some (a, k) → Unused keys a k := by
  cases hstep with
  | grant a k =>
    rw [distinct_grant_iff h]
    constructor
    · intro hunused a' k' heq
      obtain ⟨rfl, rfl⟩ : a = a' ∧ k = k' := by simpa using heq
      exact hunused
    · exact fun hall => hall a k rfl
  | drop a => exact iff_of_true (distinct_drop h a) (by simp)
  | stay => exact iff_of_true h (by simp)

end Os161.Lib.Keys
