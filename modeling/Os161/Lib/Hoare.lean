import Os161.Lib.Exec

namespace Os161.Lib.Hoare

open Exec

variable {ε σ α β : Type}

-- Whenever `x` returns from a state with `P`, its result and final state satisfy `Q`.
def Triple (P : σ → Prop) (x : EStateM ε σ α) (Q : α → σ → Prop) : Prop :=
  ∀ s a t, P s → x.run s = .ok a t → Q a t

-- `P` holds after `x` where it held before, whatever `x` returns.
abbrev Maintains (P : σ → Prop) (x : EStateM ε σ α) : Prop := Triple P x (fun _ => P)

variable {P : σ → Prop} {Q : α → σ → Prop} {R : β → σ → Prop}

variable {x : EStateM ε σ α}

lemma triple_bind (hx : Triple P x Q)
    (hf : ∀ a, Triple (Q a) (f a) R) : Triple P (x >>= f) R := by
  intro s b t hs hrun
  obtain ⟨a, u, hxrun, hfrun⟩ := bind_ok.mp hrun
  exact hf a u b t (hx s a u hs hxrun) hfrun

lemma triple_pure (h : ∀ s, P s → Q a s) : Triple P (pure a : EStateM ε σ α) Q := by
  intro s a' t hs hrun
  obtain ⟨rfl, rfl⟩ := pure_ok.mp hrun
  exact h _ hs

lemma triple_throw (e : ε) : Triple P (throw e : EStateM ε σ α) Q := by
  intro s a t _ hrun
  cases hrun

lemma triple_modify {Q : PUnit → σ → Prop} (h : ∀ s, P s → Q ⟨⟩ (f s)) :
    Triple P (modify f : EStateM ε σ PUnit) Q := by
  intro s a t hs hrun
  obtain rfl := modify_ok.mp hrun
  exact h _ hs

lemma triple_ite [Decidable c] (hx : c → Triple P x Q) (hy : ¬ c → Triple P y Q) :
    Triple P (if c then x else y) Q := by
  by_cases hc : c
  · rw [if_pos hc]
    exact hx hc
  · rw [if_neg hc]
    exact hy hc

lemma maintains_bind (hx : Maintains P x)
    (hf : ∀ a, Maintains P (f a)) : Maintains P (x >>= f) :=
  triple_bind hx hf

lemma maintains_loop (h : ∀ i, Maintains P (body i))
    (first count : Nat) : Maintains P (loop body first count) := by
  induction count generalizing first with
  | zero => exact triple_pure fun _ hs => hs
  | succ count ih => exact maintains_bind (h first) fun _ => ih (first + 1)

lemma triple_read (h : ∀ s, Triple P (f s) Q) :
    Triple P (get >>= f) Q := by
  intro s a t hs hrun
  rw [bind_run_ok (EStateM.run_get s)] at hrun
  exact h s s a t hs hrun

-- The state in which a computation ends, whether it returns or stops with an error.
def finalState : EStateM.Result ε σ α → σ
  | .ok _ s => s
  | .error _ s => s

-- `P` holds in the last state of `x` where it held before, even when `x` does not return.
def Preserves (P : σ → Prop) (x : EStateM ε σ α) : Prop := ∀ s, P s → P (finalState (x.run s))

lemma preserves_pure (a : α) : Preserves P (pure a : EStateM ε σ α) := fun _ hs => hs

lemma preserves_throw (e : ε) : Preserves P (throw e : EStateM ε σ α) := fun _ hs => hs

lemma preserves_modify (h : ∀ s, P s → P (f s)) :
    Preserves P (modify f : EStateM ε σ PUnit) := h

lemma finalState_bind (hx : P (finalState (x.run s))) (hf : ∀ a, Preserves P (f a)) :
    P (finalState ((x >>= f).run s)) := by
  cases hrun : x.run s with
  | ok a t =>
    rw [hrun] at hx
    rw [bind_run_ok hrun]
    exact hf a t hx
  | error e t =>
    rw [hrun] at hx
    rw [bind_run_error hrun]
    exact hx

lemma preserves_bind (hx : Preserves P x)
    (hf : ∀ a, Preserves P (f a)) : Preserves P (x >>= f) := by
  intro s hs
  exact finalState_bind (hx s hs) hf

-- `P` holds in the last state of `x`, however `x` was started and however it ends.
def Establishes (P : σ → Prop) (x : EStateM ε σ α) : Prop := ∀ s, P (finalState (x.run s))

lemma establishes_bind (hx : Establishes P x)
    (hf : ∀ a, Preserves P (f a)) : Establishes P (x >>= f) :=
  fun s => finalState_bind (hx s) hf

lemma preserves_read (h : ∀ s, Preserves P (f s)) :
    Preserves P (get >>= f) := by
  intro s hs
  rw [bind_run_ok (EStateM.run_get s)]
  exact h s s hs

end Os161.Lib.Hoare
