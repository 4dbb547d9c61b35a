import Mathlib.Tactic.Common

namespace Os161.Lib.FirstFit

-- First-fit search for `want` consecutive free cells: one pass that remembers where the
-- current run of free cells began, and `-1` when no run is long enough.
def search (free : Nat → Bool) (want : Int) : Nat → Nat → Int → Int
  | 0, _, _ => -1
  | count + 1, i, first =>
    if free i then
      let first := if i = 0 ∨ free (i - 1) = false then (i : Int) else first
      if want ≤ i - first + 1 then first else search free want count (i + 1) first
    else search free want count (i + 1) first

def Run (free : Nat → Bool) (start want : Nat) : Prop :=
  ∀ k, start ≤ k → k < start + want → free k = true

-- Before cell `i` is looked at: no run ends at or below `i`, and if the cell below `i` is free
-- then `first` is where the run it belongs to began.
structure Searching (free : Nat → Bool) (want i : Nat) (first : Int) : Prop where
  none_below : ∀ start, start + want ≤ i → ¬ Run free start want
  current : 0 < i → free (i - 1) = true → ∃ start : Nat, first = start ∧ start < i ∧
    (∀ k, start ≤ k → k < i → free k = true) ∧ (start = 0 ∨ free (start - 1) = false) ∧
    i < start + want

variable {free : Nat → Bool} {want : Nat}

lemma searching_zero (hwant : 1 ≤ want) (first : Int) : Searching free want 0 first where
  none_below := by
    intro start hle
    omega
  current := by
    intro h
    omega

lemma searching_skip (hwant : 1 ≤ want)
    (hs : Searching free want i first) (hfree : free i = false) :
    Searching free want (i + 1) first where
  none_below := by
    intro start hle hrun
    by_cases hlt : start + want ≤ i
    · exact hs.none_below start hlt hrun
    · have := hrun i (by omega) (by omega)
      simp [hfree] at this
  current := by
    intro _ h
    simp [hfree] at h

lemma start_of_free (hwant : 1 ≤ want)
    (hs : Searching free want i first) (hfree : free i = true) :
    ∃ start : Nat, (if i = 0 ∨ free (i - 1) = false then (i : Int) else first) = start ∧
      start ≤ i ∧ (∀ k, start ≤ k → k ≤ i → free k = true) ∧
      (start = 0 ∨ free (start - 1) = false) ∧ i < start + want := by
  by_cases hbegin : i = 0 ∨ free (i - 1) = false
  · refine ⟨i, if_pos hbegin, Nat.le_refl _, ?_, hbegin, by omega⟩
    intro k hlo hhi
    obtain rfl : k = i := by omega
    exact hfree
  have hpos : 0 < i := by
    by_contra h
    exact hbegin (.inl (by omega))
  have hprev : free (i - 1) = true := by
    by_contra h
    exact hbegin (.inr (by simpa using h))
  obtain ⟨start, hfirst, hlt, hall, hedge, hshort⟩ := hs.current hpos hprev
  refine ⟨start, by rw [if_neg hbegin, hfirst], by omega, ?_, hedge, hshort⟩
  intro k hlo hhi
  by_cases hk : k = i
  · exact hk ▸ hfree
  · exact hall k hlo (by omega)

lemma searching_extend (hs : Searching free want i first)
    (hle : start ≤ i) (hall : ∀ k, start ≤ k → k ≤ i → free k = true)
    (hedge : start = 0 ∨ free (start - 1) = false) (hshort : i + 1 < start + want) :
    Searching free want (i + 1) start where
  none_below := by
    intro other hother hrun
    by_cases hlt : other + want ≤ i
    · exact hs.none_below other hlt hrun
    -- the run would end at `i` and so begin before the cell that bounds the current run
    rcases hedge with hzero | hstop
    · omega
    · have := hrun (start - 1) (by omega) (by omega)
      simp [hstop] at this
  current := by
    intro _ _
    exact ⟨start, rfl, by omega, fun k hlo hhi => hall k hlo (by omega), hedge, hshort⟩

lemma search_spec (hwant : 1 ≤ want) (count i : Nat) (first : Int)
    (hs : Searching free want i first) :
    (∃ start : Nat, search free want count i first = start ∧ start + want ≤ i + count ∧
      Run free start want) ∨
    (search free want count i first = -1 ∧
      ∀ start, start + want ≤ i + count → ¬ Run free start want) := by
  induction count generalizing i first with
  | zero => exact .inr ⟨rfl, hs.none_below⟩
  | succ count ih =>
    have hnext : i + 1 + count = i + (count + 1) := by omega
    by_cases hfree : free i = true
    · obtain ⟨start, hstart, hle, hall, hedge, hshort⟩ := start_of_free hwant hs hfree
      by_cases hlong : (want : Int) ≤ i - start + 1
      · refine .inl ⟨start, by simp [search, hfree, hstart, hlong], by omega, ?_⟩
        intro k hlo hhi
        exact hall k hlo (by omega)
      have hcont : search free want (count + 1) i first =
          search free want count (i + 1) start := by
        simp only [search, hfree, hstart, if_true, if_neg hlong]
      rw [hcont, ← hnext]
      exact ih (i + 1) start (searching_extend hs hle hall hedge (by omega))
    have hcont : search free want (count + 1) i first =
        search free want count (i + 1) first := by
      simp [search, hfree]
    rw [hcont, ← hnext]
    exact ih (i + 1) first (searching_skip hwant hs (by simpa using hfree))

section

variable (free : Nat → Bool)

lemma search_complete (hwant : 1 ≤ want) (n : Nat) :
    (∃ start : Nat, search free want n 0 (-1) = start ∧ start + want ≤ n ∧ Run free start want) ∨
    (search free want n 0 (-1) = -1 ∧ ∀ start, start + want ≤ n → ¬ Run free start want) := by
  simpa using search_spec hwant n 0 (-1) (searching_zero hwant (-1))

lemma search_first {want : Int} (hwant : want ≤ 1) (count i : Nat)
    (first : Int) (hedge : i = 0 ∨ free (i - 1) = false) : search free want count i first =
      (((List.range' i count).find? free).map Int.ofNat).getD (-1) := by
  induction count generalizing i with
  | zero => rfl
  | succ count ih =>
    rw [search, List.range'_succ]
    by_cases hfree : free i = true
    · simp [hfree, hedge, hwant]
    have hskip : free i = false := by simpa using hfree
    rw [if_neg hfree, List.find?_cons_of_neg hfree]
    exact ih (i + 1) (.inr hskip)

lemma search_one (count i : Nat) (first : Int)
    (hedge : i = 0 ∨ free (i - 1) = false) : search free 1 count i first =
      (((List.range' i count).find? free).map Int.ofNat).getD (-1) :=
  search_first free (Int.le_refl 1) count i first hedge

end

end Os161.Lib.FirstFit
