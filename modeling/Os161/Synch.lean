import Os161.Lib.Threads
import Os161.Vm.Defs

namespace Os161.Synch

open Lib Lib.Threads Vm

-- The points of P. `reacquire` is the spinlock_acquire at the end of wchan_sleep.
inductive PPc where
  | acquire | test | sleep | reacquire | take | release
  deriving DecidableEq, Repr

inductive VPc where
  | acquire | raise | wake | release
  deriving DecidableEq, Repr

-- A semaphore within the data that the threads share. `access` is what a use of the structure
-- leaves on record.
structure Semaphore (δ L W : Type) where
  semLock : L
  semWchan : W
  semCount : δ → Word
  setSemCount : δ → Word → δ
  access : δ → δ

section Code

variable {ι δ L W T Pc : Type} (sem : Semaphore δ L W)

-- P called from a program that goes on at `ret`, with its points placed by `inP`. An assertion
-- that fails stops the kernel: the thread takes no step.
def P (inP : PPc → Pc) (done : δ → δ) (ret : Pc) : PPc → Instr ι δ L W T Pc
  | .acquire => .acquire sem.semLock sem.access (inP .test)
  | .test => .act fun _ d =>
    some (sem.access d, inP (if sem.semCount d = 0#32 then .sleep else .take))
  | .sleep => .sleep sem.semWchan sem.semLock sem.access (inP .reacquire)
  | .reacquire => .acquire sem.semLock sem.access (inP .test)
  | .take => .act fun _ d =>
    if 0#32 < sem.semCount d then
      some (sem.setSemCount (sem.access d) (sem.semCount d - 1#32), inP .release)
    else none
  | .release => .release sem.semLock (fun d => done (sem.access d)) ret

def V (inV : VPc → Pc) (done : δ → δ) (ret : Pc) : VPc → Instr ι δ L W T Pc
  | .acquire => .acquire sem.semLock sem.access (inV .raise)
  | .raise => .act fun _ d =>
    if 0#32 < sem.semCount d + 1#32 then
      some (sem.setSemCount (sem.access d) (sem.semCount d + 1#32), inV .wake)
    else none
  | .wake => .wakeone sem.semWchan (fun _ => sem.access) (inV .release)
  | .release => .release sem.semLock (fun d => done (sem.access d)) ret

end Code

def PPc.locked : PPc → Bool
  | .acquire | .reacquire => false
  | .test | .sleep | .take | .release => true

def VPc.locked : VPc → Bool
  | .acquire => false
  | .raise | .wake | .release => true

section Respects

-- `outer` are the spinlocks that the caller holds.
variable {ι δ L W T Pc : Type} (outer : L → Prop)

lemma P_respects (houter : ¬ outer sem.semLock)
    (hin : ∀ p m, holds (inP p) m ↔ outer m ∨ (p.locked = true ∧ m = sem.semLock))
    (hret : ∀ m, holds ret m ↔ outer m) (hwaits : waits (inP .reacquire) = some sem.semWchan)
    (p : PPc) : (P sem inP done ret p : Instr ι δ L W T Pc).Respects holds waits (inP p) := by
  have hlocked : ∀ p : PPc, p.locked = true → holds (inP p) sem.semLock := fun p hp =>
    (hin p _).mpr (.inr ⟨hp, rfl⟩)
  have hunlocked : ∀ m, outer m ↔ (outer m ∨ m = sem.semLock) ∧ m ≠ sem.semLock := by
    intro m
    constructor
    · exact fun hm => ⟨.inl hm, fun heq => houter (heq ▸ hm)⟩
    · exact fun hm => hm.1.resolve_right hm.2
  cases p with
  | acquire | reacquire => simp [P, Instr.Respects, hin, PPc.locked, houter]
  | test =>
    intro i d d' k hact m
    obtain ⟨-, rfl⟩ : _ ∧ _ = k := by simpa using hact
    split <;> simp [hin, PPc.locked]
  | sleep =>
    refine ⟨hlocked _ rfl, hwaits, fun m => ?_⟩
    simpa [hin, PPc.locked] using hunlocked m
  | take =>
    refine respects_assert fun m => ?_
    simp [hin, PPc.locked]
  | release =>
    refine ⟨hlocked _ rfl, fun m => ?_⟩
    simpa [hin, hret, PPc.locked] using hunlocked m

lemma V_respects (houter : ¬ outer sem.semLock)
    (hin : ∀ v m, holds (inV v) m ↔ outer m ∨ (v.locked = true ∧ m = sem.semLock))
    (hret : ∀ m, holds ret m ↔ outer m) (v : VPc) :
    (V sem inV done ret v : Instr ι δ L W T Pc).Respects holds waits (inV v) := by
  cases v with
  | acquire => simp [V, Instr.Respects, hin, VPc.locked, houter]
  | raise =>
    refine respects_assert fun m => ?_
    simp [hin, VPc.locked]
  | wake => simp [V, Instr.Respects, hin, VPc.locked]
  | release =>
    refine ⟨(hin _ _).mpr (.inr ⟨rfl, rfl⟩), fun m => ?_⟩
    rw [hret, hin]
    constructor
    · exact fun hm => ⟨.inl hm, fun heq => houter (heq ▸ hm)⟩
    rintro ⟨hm | ⟨-, hm⟩, hne⟩
    · exact hm
    · exact absurd hm hne

end Respects

section Steps

variable {ι δ L W T Pc : Type} [DecidableEq T] [DecidableEq L] [DecidableEq W]
  {sem : Semaphore δ L W} {code : T → Pc → Instr ι δ L W T Pc} {done : δ → δ} {ret : Pc} {t : T}
  {i : ι} {s s' : State δ L W T Pc}

lemma step_P_test (hcode : code t (s.pc t) = P sem inP done ret .test)
    (hstep : step code t i s = some s') :
    s' = s.goto t (inP (if sem.semCount s.data = 0#32 then .sleep else .take))
      (sem.access s.data) := by
  obtain ⟨d, k, hact, rfl⟩ := step_act hcode hstep
  obtain ⟨rfl, rfl⟩ : sem.access s.data = d ∧ _ = k := by simpa using hact
  rfl

lemma step_P_take (hcode : code t (s.pc t) = P sem inP done ret .take)
    (hstep : step code t i s = some s') : 0#32 < sem.semCount s.data ∧ s' = s.goto t (inP .release)
      (sem.setSemCount (sem.access s.data) (sem.semCount s.data - 1#32)) :=
  step_assert hcode hstep

lemma step_V_raise (hcode : code t (s.pc t) = V sem inV done ret .raise)
    (hstep : step code t i s = some s') :
    0#32 < sem.semCount s.data + 1#32 ∧ s' = s.goto t (inV .wake)
      (sem.setSemCount (sem.access s.data) (sem.semCount s.data + 1#32)) :=
  step_assert hcode hstep

end Steps

lemma toNat_taken (h : 0#32 < n) : (n - 1#32).toNat + 1 = n.toNat := by
  bv_omega

lemma toNat_raised (h : 0#32 < n + 1#32) : (n + 1#32).toNat = n.toNat + 1 := by
  bv_omega

end Os161.Synch
