import Mathlib.Logic.Function.Basic
import Mathlib.Tactic.Common

namespace Os161.Lib.Exec

open EStateM (Result)

variable {ε σ α β : Type}

variable {x : EStateM ε σ α} {s t : σ} {a : α} {body : Nat → EStateM ε σ Unit}

lemma bind_ok :
    (x >>= f).run s = .ok b t ↔ ∃ a u, x.run s = .ok a u ∧ (f a).run u = .ok b t := by
  rw [EStateM.run_bind]
  cases hx : x.run s with
  | ok a u =>
    constructor
    · intro h
      exact ⟨a, u, rfl, h⟩
    rintro ⟨a', u', hu, h⟩
    obtain ⟨rfl, rfl⟩ : a = a' ∧ u = u' := by simpa using hu
    exact h
  | error e u => simp

lemma pure_ok :
    (pure a : EStateM ε σ α).run s = .ok b t ↔ b = a ∧ t = s := by
  simp [eq_comm]

lemma modify_ok {a : PUnit} :
    (modify f : EStateM ε σ PUnit).run s = .ok a t ↔ t = f s := by
  simp [eq_comm]

lemma guard_ok [Decidable c] :
    (if c then Result.ok a s else Result.error e u) = .ok b t ↔ c ∧ b = a ∧ t = s := by
  by_cases hc : c
  · simp [hc, eq_comm]
  · simp [hc]

lemma bind_run_ok (h : x.run s = .ok a t)
    (f : α → EStateM ε σ β) : (x >>= f).run s = (f a).run t := by
  rw [EStateM.run_bind, h]

lemma bind_run_error (h : x.run s = .error e t)
    (f : α → EStateM ε σ β) : (x >>= f).run s = .error e t := by
  rw [EStateM.run_bind, h]

@[simp] lemma map_run (f : α → β) (x : EStateM ε σ α) (s : σ) : (f <$> x).run s =
    match x.run s with
    | .ok a t => .ok (f a) t
    | .error e t => .error e t := rfl

-- A counted loop: the body runs on `first`, `first + 1`, ... , `first + count - 1`.
def loop (body : Nat → EStateM ε σ Unit) : Nat → Nat → EStateM ε σ Unit
  | _, 0 => pure ()
  | first, count + 1 => do
      body first
      loop body (first + 1) count

@[simp] lemma loop_zero (body : Nat → EStateM ε σ Unit) (first : Nat) (s : σ) :
    (loop body first 0).run s = .ok () s := rfl

lemma loop_succ (body : Nat → EStateM ε σ Unit) (first count : Nat) (s : σ) :
    (loop body first (count + 1)).run s =
      (body first >>= fun _ => loop body (first + 1) count).run s := rfl

-- What every iteration preserves, the loop preserves. The invariant is indexed by the
-- counter, so that it can speak about the part already visited.
lemma loop_invariant (inv : Nat → σ → Prop)
    (hstep : ∀ i s t, inv i s → (body i).run s = .ok () t → inv (i + 1) t)
    (first count : Nat) (hs : inv first s)
    (hrun : (loop body first count).run s = .ok () t) : inv (first + count) t := by
  induction count generalizing first s with
  | zero =>
    obtain ⟨-, rfl⟩ := pure_ok.mp hrun
    exact hs
  | succ count ih =>
    rw [loop_succ] at hrun
    obtain ⟨_, u, hbody, hrest⟩ := bind_ok.mp hrun
    have hu := ih (first + 1) (hstep first s u hs hbody) hrest
    rwa [show first + 1 + count = first + (count + 1) by omega] at hu

lemma loop_skip (first count : Nat)
    (hskip : ∀ i, first ≤ i → i < first + count → (body i).run s = .ok () s) :
    (loop body first count).run s = .ok () s := by
  induction count generalizing first with
  | zero => rfl
  | succ count ih =>
    rw [loop_succ, bind_run_ok (hskip first (Nat.le_refl _) (by omega))]
    exact ih (first + 1) (fun i hlo hhi => hskip i (by omega) (by omega))

lemma loop_skips (P : Nat → Prop)
    (hskip : ∀ i, P i → (body i).run s = .ok () s)
    (hstop : ∀ i, ¬ P i → ∃ e u, (body i).run s = .error e u) (first count : Nat)
    (hrun : (loop body first count).run s = .ok () t) :
    ∀ i, first ≤ i → i < first + count → P i := by
  induction count generalizing first with
  | zero =>
    intro i hlo hhi
    omega
  | succ count ih =>
    rw [loop_succ] at hrun
    by_cases hfirst : P first
    · rw [bind_run_ok (hskip first hfirst)] at hrun
      intro i hlo hhi
      by_cases heq : i = first
      · exact heq ▸ hfirst
      · exact ih (first + 1) hrun i (by omega) (by omega)
    obtain ⟨e, u, herror⟩ := hstop first hfirst
    rw [bind_run_error herror] at hrun
    cases hrun

-- A counted loop that carries a local value from one iteration to the next.
def foldLoop (body : Nat → β → EStateM ε σ β) : Nat → Nat → β → EStateM ε σ β
  | _, 0, b => pure b
  | first, count + 1, b => do
      let b ← body first b
      foldLoop body (first + 1) count b

@[simp] lemma foldLoop_zero (body : Nat → β → EStateM ε σ β) (first : Nat) (b : β) (s : σ) :
    (foldLoop body first 0 b).run s = .ok b s := rfl

lemma foldLoop_succ (body : Nat → β → EStateM ε σ β) (first count : Nat) (b : β) (s : σ) :
    (foldLoop body first (count + 1) b).run s =
      (body first b >>= fun b => foldLoop body (first + 1) count b).run s := rfl

lemma foldLoop_skip {body : Nat → β → EStateM ε σ β} (first count : Nat)
    (hskip : ∀ i, first ≤ i → i < first + count → (body i b).run s = .ok b s) :
    (foldLoop body first count b).run s = .ok b s := by
  induction count generalizing first with
  | zero => rfl
  | succ count ih =>
    rw [foldLoop_succ, bind_run_ok (hskip first (Nat.le_refl _) (by omega))]
    exact ih (first + 1) (fun i hlo hhi => hskip i (by omega) (by omega))

lemma foldLoop_reaches (body : Nat → β → EStateM ε σ β) (inv : Nat → β → σ → Prop)
    (hbody : ∀ i b s, inv i b s → ∃ b' s', (body i b).run s = .ok b' s' ∧ inv (i + 1) b' s')
    (first count : Nat) (h : inv first b s) :
    ∃ b' s', (foldLoop body first count b).run s = .ok b' s' ∧ inv (first + count) b' s' := by
  induction count generalizing first b s with
  | zero => exact ⟨b, s, rfl, h⟩
  | succ count ih =>
    obtain ⟨b', s', hrun, hinv⟩ := hbody first b s h
    obtain ⟨b'', s'', hrest, hinv'⟩ := ih (first + 1) hinv
    rw [foldLoop_succ, bind_run_ok hrun]
    exact ⟨b'', s'', hrest, by rwa [Nat.add_right_comm, Nat.add_assoc] at hinv'⟩

end Os161.Lib.Exec
