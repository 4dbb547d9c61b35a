import Mathlib.Data.Fintype.Option
import Os161.Thread.Steps

namespace Os161.Thread

open Lib.Threads Option
open Lib.Places

variable {C L W T : Type} {s s' : System C L W T}

lemma Booted.inv (h : Booted s) : Inv s := by
  have hhand : ∀ c, contents s (.hand c) = [s.data.curthread c] := by
    intro c
    simp [contents, h.pc c, hand, Sched.executed, h.isidle c]
  have hempty : ∀ p, (∀ c, p ≠ Place.hand c) → contents s p = [] := by
    intro p hp
    rw [contents_lists hp]
    cases p with
    | hand c => rfl
    | queue c => exact h.runqueue c
    | channel wc => exact h.wchan wc
    | zombies c => exact h.zombies c
    | newborn parent => simp [Sched.lists, h.newthread]
  have hmem : ∀ p t, t ∈ contents s p → ∃ c, p = .hand c ∧ t = s.data.curthread c := by
    intro p t ht
    by_cases hp : ∃ c, p = Place.hand c
    · obtain ⟨c, rfl⟩ := hp
      exact ⟨c, rfl, by simpa [hhand c] using ht⟩
    · rw [hempty p fun c hc => hp ⟨c, hc⟩] at ht
      cases ht
  refine ⟨⟨fun p => ?_, fun p q t hp hq => ?_, fun p t hp => ?_, fun t ht => ?_⟩, ?_, h.tCpu, ?_,
    ?_, ?_, fun c => ?_⟩
  · by_cases hp : ∃ c, p = Place.hand c
    · obtain ⟨c, rfl⟩ := hp
      simp [hhand c]
    · simp [hempty p fun c hc => hp ⟨c, hc⟩]
  · obtain ⟨c, rfl, rfl⟩ := hmem p t hp
    obtain ⟨c', rfl, hcur⟩ := hmem q _ hq
    have hcpu := h.tCpu c
    rw [hcur, h.tCpu c'] at hcpu
    rw [some.inj hcpu]
  · obtain ⟨c, -, rfl⟩ := hmem p t hp
    exact (h.live _).mpr ⟨c, rfl⟩
  · obtain ⟨c, rfl⟩ := (h.live t).mp ht
    exact ⟨.hand c, by simp [hhand c]⟩
  · exact fun c => (h.live _).mpr ⟨c, rfl⟩
  · simp [h.runqueue]
  · simp [h.zombies]
  · simp [h.newthread]
  · rw [h.pc c]
    trivial

def Spot.place : Spot C W → Place C W T
  | .executed c => .hand c
  | .queued c => .queue c
  | .waiting wc => .channel wc
  | .zombie c => .zombies c

variable {t : T}

section Run

variable [DecidableEq C] [DecidableEq L] [DecidableEq T] {lockOf : W → L}

variable {c : C} {t : T}

variable [DecidableEq W]

end Run

end Os161.Thread
