import Mathlib.Logic.Function.Basic
import Mathlib.Tactic.Common

namespace Os161.Lib.SlotStore

open Function

variable {K V : Type}

-- An array of `n` slots, each empty or holding one key with its value, stands for the map in
-- which every key of a slot has the value of that slot.
structure Represents (n : Nat) (slots : Nat → Option (K × V)) (store : K → Option V) : Prop where
  unique : ∀ {i j k v w}, i < n → j < n → slots i = some (k, v) → slots j = some (k, w) → i = j
  stored : ∀ {k v}, store k = some v ↔ ∃ i < n, slots i = some (k, v)

variable {slots slots' : Nat → Option (K × V)}

lemma represents_empty (h : ∀ i < n, slots i = none) : Represents n slots (fun _ => none) where
  unique := by
    intro i j k v w hi _ hslot _
    simp [h i hi] at hslot
  stored := by
    intro k v
    constructor
    · intro hnone
      simp at hnone
    · rintro ⟨i, hi, hslot⟩
      simp [h i hi] at hslot

lemma Represents.congr (h : Represents n slots store) (heq : ∀ i < n, slots' i = slots i) :
    Represents n slots' store where
  unique := by
    intro i j k v w hi hj hv hw
    exact h.unique hi hj (heq i hi ▸ hv) (heq j hj ▸ hw)
  stored := by
    intro k v
    rw [h.stored]
    constructor
    · rintro ⟨i, hi, hslot⟩
      exact ⟨i, hi, (heq i hi).trans hslot⟩
    · rintro ⟨i, hi, hslot⟩
      exact ⟨i, hi, (heq i hi).symm.trans hslot⟩

variable {touched : K → Prop}

lemma Represents.lookup (h : Represents n slots store) (hi : i < n)
    (hslot : slots i = some (k, v)) : store k = some v :=
  h.stored.mpr ⟨i, hi, hslot⟩

lemma Represents.absent (h : Represents n slots store) :
    store k = none ↔ ∀ i < n, ∀ v, slots i ≠ some (k, v) := by
  rw [Option.eq_none_iff_forall_not_mem]
  constructor
  · intro hnone i hi v hslot
    exact hnone v (h.lookup hi hslot)
  intro hno v hv
  obtain ⟨i, hi, hslot⟩ := h.stored.mp hv
  exact hno i hi v hslot

def KeepsOthers (touched : K → Prop) (slots slots' : Nat → Option (K × V)) : Prop :=
  ∀ i k v, ¬ touched k → (slots i = some (k, v) ↔ slots' i = some (k, v))

lemma KeepsOthers.trans (h : KeepsOthers touched slots slots')
    (h' : KeepsOthers touched slots' slots'') : KeepsOthers touched slots slots'' :=
  fun i k v hk => (h i k v hk).trans (h' i k v hk)

lemma keepsOthers_update (hold : ∀ k v, slots i = some (k, v) → touched k)
    (hnew : ∀ k v, x = some (k, v) → touched k) : KeepsOthers touched slots (update slots i x) := by
  intro j k v hk
  by_cases hj : j = i
  · subst hj
    rw [update_self]
    exact ⟨fun h => absurd (hold k v h) hk, fun h => absurd (hnew k v h) hk⟩
  · rw [update_of_ne hj]

variable [DecidableEq K]

lemma Represents.put (h : Represents n slots store) (v : V) (hi : i < n)
    (hempty : slots i = none) (hnew : store k = none) :
    Represents n (update slots i (some (k, v))) (update store k (some v)) := by
  have hno := h.absent.mp hnew
  refine ⟨?_, ?_⟩
  · intro a b k' v' w' ha hb hv hw
    rw [update_apply] at hv hw
    split at hv <;> split at hw
    · omega
    · obtain ⟨rfl, rfl⟩ : k = k' ∧ v = v' := by simpa using hv
      exact absurd hw (hno b hb w')
    · obtain ⟨rfl, rfl⟩ : k = k' ∧ v = w' := by simpa using hw
      exact absurd hv (hno a ha v')
    · exact h.unique ha hb hv hw
  intro k' v'
  by_cases hk : k' = k
  · subst hk
    rw [update_self, Option.some.injEq]
    constructor
    · rintro rfl
      exact ⟨i, hi, update_self _ _ _⟩
    rintro ⟨j, hj, hslot⟩
    rw [update_apply] at hslot
    split at hslot
    · simpa using hslot
    · exact absurd hslot (hno j hj v')
  rw [update_of_ne hk, h.stored]
  constructor
  · rintro ⟨j, hj, hslot⟩
    refine ⟨j, hj, ?_⟩
    rwa [update_of_ne]
    rintro rfl
    simp [hempty] at hslot
  rintro ⟨j, hj, hslot⟩
  refine ⟨j, hj, ?_⟩
  rw [update_apply] at hslot
  split at hslot
  · exact absurd (by simpa using hslot : k = k' ∧ v = v').1.symm hk
  · exact hslot

lemma Represents.take (h : Represents n slots store) (hi : i < n)
    (hslot : slots i = some (k, v)) : Represents n (update slots i none) (update store k none) := by
  have hback : ∀ {j w}, update slots i none j = some w → j ≠ i ∧ slots j = some w := by
    intro j w hw
    rw [update_apply] at hw
    split at hw
    · simp at hw
    · exact ⟨by assumption, hw⟩
  refine ⟨?_, ?_⟩
  · intro a b k' v' w' ha hb hv hw
    exact h.unique ha hb (hback hv).2 (hback hw).2
  intro k' v'
  by_cases hk : k' = k
  · subst hk
    rw [update_self]
    constructor
    · intro hnone
      simp at hnone
    · rintro ⟨j, hj, hjs⟩
      exact absurd (h.unique hj hi (hback hjs).2 hslot) (hback hjs).1
  rw [update_of_ne hk, h.stored]
  constructor
  · rintro ⟨j, hj, hjs⟩
    refine ⟨j, hj, ?_⟩
    rwa [update_of_ne]
    rintro rfl
    rw [hslot] at hjs
    exact hk (by simpa using hjs : k = k' ∧ v = v').1.symm
  · rintro ⟨j, hj, hjs⟩
    exact ⟨j, hj, (hback hjs).2⟩

omit [DecidableEq K] in
lemma Represents.remove (h : Represents n slots store) (p : K → Prop) [DecidablePred p] :
    Represents n (fun i => (slots i).filter (fun x => ¬ p x.1))
      (fun k => if p k then none else store k) := by
  have hback : ∀ {i x}, (slots i).filter (fun x => decide (¬ p x.1)) = some x ↔
      slots i = some x ∧ ¬ p x.1 := by
    intro i x
    rw [Option.filter_eq_some_iff]
    simp
  refine ⟨?_, ?_⟩
  · intro a b k v w ha hb hv hw
    exact h.unique ha hb (hback.mp hv).1 (hback.mp hw).1
  intro k v
  by_cases hp : p k
  · simp only [hp, if_true, reduceCtorEq, false_iff]
    rintro ⟨i, hi, hslot⟩
    exact (hback.mp hslot).2 hp
  simp only [hp, if_false]
  rw [h.stored]
  constructor
  · rintro ⟨i, hi, hslot⟩
    exact ⟨i, hi, hback.mpr ⟨hslot, hp⟩⟩
  · rintro ⟨i, hi, hslot⟩
    exact ⟨i, hi, (hback.mp hslot).1⟩

end Os161.Lib.SlotStore
