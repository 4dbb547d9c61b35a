import Mathlib.Logic.Relation
import Mathlib.Tactic.Common

namespace Os161.Lib.Run

variable {σ : Type}

-- What every step preserves holds in every state that a run from a good state reaches.
lemma invariant {Step : σ → σ → Prop} {Inv : σ → Prop}
    (hstep : ∀ s t, Inv s → Step s t → Inv t) {s t : σ} (hs : Inv s)
    (hrun : Relation.ReflTransGen Step s t) : Inv t := by
  induction hrun with
  | refl => exact hs
  | tail _ hlast ih => exact hstep _ _ ih hlast

variable {ι : Type}

def Always (step : ι → σ → σ → Prop) (P : σ → Prop) : List ι → σ → Prop
  | [], s => P s
  | op :: ops, s => P s ∧ ∀ t, step op s t → Always step P ops t

def Guarded (step : ι → σ → σ → Prop) (admits : ι → σ → Prop) : List ι → σ → Prop
  | [], _ => True
  | op :: ops, s => ∀ t, step op s t → admits op s ∧ Guarded step admits ops t

lemma guarded_congr {step : ι → σ → σ → Prop} {P Q : ι → σ → Prop}
    (h : ∀ op s t, step op s t → (P op s ↔ Q op s)) (ops : List ι) (s : σ) :
    Guarded step P ops s ↔ Guarded step Q ops s := by
  induction ops generalizing s with
  | nil => exact Iff.rfl
  | cons op ops ih =>
    exact forall_congr' fun t => forall_congr' fun hstep => and_congr (h op s t hstep) (ih t)

-- When the admitted steps keep an invariant that gives `P`, and any other step leads at once
-- to a state without `P`, the runs that keep `P` are exactly the guarded ones.
lemma always_iff_guarded {step : ι → σ → σ → Prop} {P Inv : σ → Prop} {admits : ι → σ → Prop}
    (hinv : ∀ s, Inv s → P s)
    (hkeep : ∀ op s t, Inv s → admits op s → step op s t → Inv t)
    (hbreak : ∀ op s t, Inv s → ¬ admits op s → step op s t → ¬ P t)
    (ops : List ι) {s : σ} (hs : Inv s) : Always step P ops s ↔ Guarded step admits ops s := by
  induction ops generalizing s with
  | nil => exact ⟨fun _ => trivial, fun _ => hinv s hs⟩
  | cons op ops ih =>
    constructor
    · rintro ⟨-, hrest⟩ t hstep
      have hadmits : admits op s := by
        by_contra hno
        have hP : P t := by
          have := hrest t hstep
          cases ops with
          | nil => exact this
          | cons => exact this.1
        exact hbreak op s t hs hno hstep hP
      exact ⟨hadmits, (ih (hkeep op s t hs hadmits hstep)).mp (hrest t hstep)⟩
    intro h
    refine ⟨hinv s hs, fun t hstep => ?_⟩
    obtain ⟨hadmits, hrest⟩ := h t hstep
    exact (ih (hkeep op s t hs hadmits hstep)).mpr hrest

end Os161.Lib.Run
