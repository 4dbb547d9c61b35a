import Mathlib.Tactic.Common

namespace Os161.Lib.Scan

def lastIndex (p : Nat → Bool) (n : Nat) : Option Nat :=
  (List.range n).foldl (fun last i => if p i then some i else last) none

def maxWhere (p : Nat → Bool) (value : Nat → Int) (init : Int) (n : Nat) : Int :=
  (List.range n).foldl
    (fun largest i => if p i && decide (largest < value i) then value i else largest) init

@[simp] lemma lastIndex_zero : lastIndex p 0 = none := rfl

lemma lastIndex_succ (n : Nat) : lastIndex p (n + 1) = if p n then some n else lastIndex p n := by
  simp [lastIndex, List.range_succ]

lemma lastIndex_eq_none : lastIndex p n = none ↔ ∀ i < n, p i = false := by
  induction n with
  | zero => simp
  | succ n ih =>
    rw [lastIndex_succ]
    constructor
    · intro h i hi
      by_cases hn : p n = true
      · simp [hn] at h
      rw [if_neg hn] at h
      by_cases hin : i = n
      · simpa [hin] using hn
      · exact ih.mp h i (by omega)
    intro h
    have hn := h n (by omega)
    rw [if_neg (by simp [hn])]
    exact ih.mpr (fun i hi => h i (by omega))

lemma lastIndex_eq_some :
    lastIndex p n = some i ↔ i < n ∧ p i = true ∧ ∀ j, i < j → j < n → p j = false := by
  induction n with
  | zero => simp
  | succ n ih =>
    rw [lastIndex_succ]
    by_cases hn : p n = true
    · rw [if_pos hn]
      constructor
      · intro h
        obtain rfl : n = i := by simpa using h
        exact ⟨by omega, hn, fun j h1 h2 => by omega⟩
      rintro ⟨hi, hpi, hafter⟩
      by_contra hne
      have : i < n := by
        have : n ≠ i := fun h => hne (by rw [h])
        omega
      simp [hafter n this (by omega)] at hn
    rw [if_neg hn, ih]
    constructor
    · rintro ⟨hi, hpi, hafter⟩
      refine ⟨by omega, hpi, fun j h1 h2 => ?_⟩
      by_cases hjn : j = n
      · simpa [hjn] using hn
      · exact hafter j h1 (by omega)
    rintro ⟨hi, hpi, hafter⟩
    have hne : i ≠ n := by
      rintro rfl
      exact hn hpi
    exact ⟨by omega, hpi, fun j h1 h2 => hafter j h1 (by omega)⟩

lemma maxWhere_succ (n : Nat) : maxWhere p value init (n + 1) =
      if p n && decide (maxWhere p value init n < value n) then value n
      else maxWhere p value init n := by
  simp [maxWhere, List.range_succ]

lemma le_maxWhere (hi : i < n) (hp : p i = true) : value i ≤ maxWhere p value init n := by
  induction n with
  | zero => omega
  | succ n ih =>
    rw [maxWhere_succ]
    by_cases hin : i = n
    · subst hin
      by_cases hlt : maxWhere p value init i < value i
      · simp [hp, hlt]
      · simp [hp, hlt]
        omega
    have hle := ih (by omega)
    split
    · rename_i h
      simp only [Bool.and_eq_true, decide_eq_true_eq] at h
      omega
    · exact hle

lemma maxWhere_attained (n : Nat) :
    maxWhere p value init n = init ∨ ∃ i < n, p i = true ∧ maxWhere p value init n = value i := by
  induction n with
  | zero => exact .inl rfl
  | succ n ih =>
    rw [maxWhere_succ]
    split
    · rename_i h
      simp only [Bool.and_eq_true] at h
      exact .inr ⟨n, by omega, h.1, rfl⟩
    rcases ih with h | ⟨i, hi, hpi, h⟩
    · exact .inl h
    · exact .inr ⟨i, by omega, hpi, h⟩

end Os161.Lib.Scan
