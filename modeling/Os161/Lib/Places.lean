import Mathlib.Data.List.Nodup
import Mathlib.Data.List.Perm.Basic
import Mathlib.Logic.Function.Basic
import Mathlib.Tactic.Common

namespace Os161.Lib.Places

open Function List

variable {P T : Type} {contents : P → List T} {live : T → Prop} {p q : P} {t : T}

-- The live things are spread over the places: each one is at one place, once, and nothing
-- else is anywhere.
structure Placed (contents : P → List T) (live : T → Prop) : Prop where
  once : ∀ p, (contents p).Nodup
  one : ∀ p q t, t ∈ contents p → t ∈ contents q → p = q
  present : ∀ p t, t ∈ contents p → live t
  found : ∀ t, live t → ∃ p, t ∈ contents p

section

variable (h : Placed contents live)

include h

lemma Placed.elsewhere (hp : t ∈ contents p) (hq : q ≠ p) : t ∉ contents q :=
  fun htq => hq (h.one q p t htq hp)

lemma Placed.same (hsame : ∀ p, (contents' p).Perm (contents p)) : Placed contents' live := by
  refine ⟨fun p => ?_, fun p q t hp hq => ?_, fun p t hp => ?_, fun t ht => ?_⟩
  · exact (hsame p).nodup_iff.mpr (h.once p)
  · exact h.one p q t ((hsame p).mem_iff.mp hp) ((hsame q).mem_iff.mp hq)
  · exact h.present p t ((hsame p).mem_iff.mp hp)
  · obtain ⟨p, hp⟩ := h.found t ht
    exact ⟨p, (hsame p).mem_iff.mpr hp⟩

lemma Placed.added (ht : ¬ live t)
    (hp : (contents' p).Perm (t :: contents p))
    (hrest : ∀ r, r ≠ p → (contents' r).Perm (contents r))
    (hlive : ∀ u, live' u ↔ live u ∨ u = t) : Placed contents' live' := by
  have hmem : ∀ r u, u ∈ contents' r ↔ u ∈ contents r ∨ (r = p ∧ u = t) := by
    intro r u
    by_cases hr : r = p
    · subst hr
      rw [hp.mem_iff, mem_cons, or_comm]
      simp
    · rw [(hrest r hr).mem_iff]
      simp [hr]
  refine ⟨fun r => ?_, fun r r' u hu hu' => ?_, fun r u hu => ?_, fun u hu => ?_⟩
  · by_cases hr : r = p
    · subst hr
      exact hp.nodup_iff.mpr (nodup_cons.mpr ⟨fun hmem => ht (h.present r t hmem), h.once r⟩)
    · exact (hrest r hr).nodup_iff.mpr (h.once r)
  · rcases (hmem r u).mp hu with hu | ⟨rfl, rfl⟩
    · rcases (hmem r' u).mp hu' with hu' | ⟨rfl, rfl⟩
      · exact h.one r r' u hu hu'
      · exact absurd (h.present r _ hu) ht
    rcases (hmem r' u).mp hu' with hu' | ⟨rfl, -⟩
    · exact absurd (h.present r' _ hu') ht
    · rfl
  · rcases (hmem r u).mp hu with hu | ⟨-, rfl⟩
    · exact (hlive u).mpr (.inl (h.present r u hu))
    · exact (hlive u).mpr (.inr rfl)
  rcases (hlive u).mp hu with hu | rfl
  · obtain ⟨r, hr⟩ := h.found u hu
    exact ⟨r, (hmem r u).mpr (.inl hr)⟩
  · exact ⟨p, (hmem p u).mpr (.inr ⟨rfl, rfl⟩)⟩

lemma Placed.removed (hp : (contents p).Perm (t :: contents' p))
    (hrest : ∀ r, r ≠ p → (contents' r).Perm (contents r))
    (hlive : ∀ u, live' u ↔ live u ∧ u ≠ t) : Placed contents' live' := by
  have ht : t ∈ contents p := hp.mem_iff.mpr mem_cons_self
  have hnodup := hp.nodup_iff.mp (h.once p)
  rw [nodup_cons] at hnodup
  have hmem : ∀ r u, u ∈ contents' r ↔ u ∈ contents r ∧ u ≠ t := by
    intro r u
    by_cases hr : r = p
    · subst hr
      rw [hp.mem_iff, mem_cons]
      constructor
      · exact fun hu => ⟨.inr hu, fun heq => hnodup.1 (heq ▸ hu)⟩
      · rintro ⟨hu, hne⟩
        exact hu.resolve_left hne
    · rw [(hrest r hr).mem_iff]
      exact ⟨fun hu => ⟨hu, fun heq => h.elsewhere ht hr (heq ▸ hu)⟩, And.left⟩
  refine ⟨fun r => ?_, fun r r' u hu hu' => ?_, fun r u hu => ?_, fun u hu => ?_⟩
  · by_cases hr : r = p
    · subst hr
      exact hnodup.2
    · exact (hrest r hr).nodup_iff.mpr (h.once r)
  · exact h.one r r' u ((hmem r u).mp hu).1 ((hmem r' u).mp hu').1
  · obtain ⟨hu, hne⟩ := (hmem r u).mp hu
    exact (hlive u).mpr ⟨h.present r u hu, hne⟩
  obtain ⟨hu, hne⟩ := (hlive u).mp hu
  obtain ⟨r, hr⟩ := h.found u hu
  exact ⟨r, (hmem r u).mpr ⟨hr, hne⟩⟩

lemma Placed.moved [DecidableEq P] (hpq : p ≠ q)
    (hp : (contents p).Perm (t :: contents' p)) (hq : (contents' q).Perm (t :: contents q))
    (hrest : ∀ r, r ≠ p → r ≠ q → (contents' r).Perm (contents r)) : Placed contents' live := by
  have ht : live t := h.present p t (hp.mem_iff.mpr mem_cons_self)
  have hgone : Placed (update contents p (contents' p)) fun u => live u ∧ u ≠ t := by
    refine h.removed (p := p) (by simpa using hp) (fun r hr => ?_) fun u => Iff.rfl
    rw [update_of_ne hr]
  refine hgone.added (p := q) (t := t) (by simp) ?_ (fun r hr => ?_) fun u => ?_
  · rwa [update_of_ne hpq.symm]
  · by_cases hrp : r = p
    · subst hrp
      rw [update_self]
    · rw [update_of_ne hrp]
      exact hrest r hrp hr
  by_cases hut : u = t
  · subst hut
    simp [ht]
  · simp [hut]

end

end Os161.Lib.Places
