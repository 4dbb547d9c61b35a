import Os161.Vm.Defs

namespace Os161.Vm

open Function Lib.Exec EStateM State

@[simp] lemma State.setHeld_setHeld (s : State) (first second : Lock → Bool) :
    (s.setHeld first).setHeld second = s.setHeld second := rfl

@[simp] lemma State.setHeld_self (s : State) : s.setHeld s.held = s := rfl

-- One processor runs the modelled code, so acquiring a lock that is held is the panic of
-- spinlock_acquire, not a wait.
def spinlockAcquire (env : Env) (lock : Lock) : Kern Unit := do
  let s ← get
  if env.locked then
    if s.held lock then throw (.deadlock lock)
    else set (s.setHeld (update s.held lock true))
  else pure ()

def spinlockRelease (env : Env) (lock : Lock) : Kern Unit := do
  let s ← get
  if env.locked then
    if s.held lock then set (s.setHeld (update s.held lock false))
    else throw (.kassert "splk->splk_holder == curcpu->c_self")
  else pure ()

def critical {α : Type} (env : Env) (lock : Lock) (f : State → α × State) : Kern α := do
  spinlockAcquire env lock
  let result ← modifyGet f
  spinlockRelease env lock
  pure result

def Available (env : Env) (lock : Lock) (s : State) : Prop :=
  env.locked = true → s.held lock = false

instance (env : Env) (lock : Lock) (s : State) : Decidable (Available env lock s) :=
  inferInstanceAs (Decidable (_ → _))

@[simps! -fullyApplied pageTable swap tlb coremap ram stats mem addrspaces held ioUnderLock]
def State.acquired (env : Env) (lock : Lock) (s : State) : State :=
  s.setHeld (if env.locked then update s.held lock true else s.held)

@[simps! -fullyApplied pageTable swap tlb coremap ram stats mem addrspaces held ioUnderLock]
def State.released (env : Env) (lock : Lock) (s : State) : State :=
  s.setHeld (if env.locked then update s.held lock false else s.held)

section Unlocked

variable {env : Env} (hl : env.locked = false) (lock : Lock) (s : State)

include hl

lemma available_unlocked : Available env lock s := by
  simp [Available, hl]

lemma acquired_unlocked : s.acquired env lock = s := by
  simp [acquired, hl]

lemma released_unlocked : s.released env lock = s := by
  simp [released, hl]

end Unlocked

lemma spinlockAcquire_run (env : Env) (lock : Lock) (s : State) :
    (spinlockAcquire env lock).run s =
      if Available env lock s then .ok () (s.acquired env lock) else .error (.deadlock lock) s := by
  cases hl : env.locked <;> cases hs : s.held lock <;>
    simp [spinlockAcquire, Available, acquired, hl, hs]

lemma spinlockRelease_run (env : Env) (lock : Lock) (s : State) :
    (spinlockRelease env lock).run s =
      if env.locked = true → s.held lock = true then .ok () (s.released env lock)
      else .error (.kassert "splk->splk_holder == curcpu->c_self") s := by
  cases hl : env.locked <;> cases hs : s.held lock <;>
    simp [spinlockRelease, released, hl, hs]

variable {env : Env} {lock : Lock} {s t : State} {α : Type} {f : State → α × State}

lemma spinlockAcquire_ok :
    (spinlockAcquire env lock).run s = .ok () t ↔
      Available env lock s ∧ t = s.acquired env lock := by
  rw [spinlockAcquire_run, guard_ok]
  simp

lemma spinlockRelease_ok :
    (spinlockRelease env lock).run s = .ok () t ↔
      (env.locked = true → s.held lock = true) ∧ t = s.released env lock := by
  rw [spinlockRelease_run, guard_ok]
  simp

lemma held_acquired (env : Env) (lock : Lock) (s : State) :
    env.locked = true → (s.acquired env lock).held lock = true := by
  intro hl
  simp [acquired, hl]

lemma released_of_acquired (ha : Available env lock s)
    (ht : t.held = (s.acquired env lock).held) : t.released env lock = t.setHeld s.held := by
  unfold released
  congr 1
  rw [ht]
  by_cases hl : env.locked = true
  · simp only [acquired, setHeld_held, hl, if_true, update_idem]
    rw [update_eq_self_iff]
    exact (ha hl).symm
  · simp [acquired, hl]

lemma spinlockRelease_acquired_ok (ha : Available env lock s)
    (hu : u.held = (s.acquired env lock).held) :
    (spinlockRelease env lock).run u = .ok () t ↔ t = u.setHeld s.held := by
  rw [spinlockRelease_ok, released_of_acquired ha hu, hu]
  exact and_iff_right (held_acquired env lock s)

def LockFree {α : Type} (f : State → α × State) : Prop :=
  ∀ s held, f (s.setHeld held) = ((f s).1, (f s).2.setHeld held)

lemma LockFree.held_eq (hf : LockFree f) (s : State) :
    (f s).2.held = s.held := by
  have h := congrArg (fun p => p.2.held) (hf s s.held)
  simpa using h

lemma critical_run (env : Env) (lock : Lock)
    (hf : LockFree f) (s : State) :
    (critical env lock f).run s =
      if Available env lock s then .ok (f s).1 (f s).2 else .error (.deadlock lock) s := by
  unfold critical
  rw [run_bind, spinlockAcquire_run]
  by_cases ha : Available env lock s
  · have hfs : f (s.acquired env lock) =
        ((f s).1, (f s).2.setHeld (s.acquired env lock).held) := hf s _
    have hown : env.locked = true →
        ((f s).2.setHeld (s.acquired env lock).held).held lock = true := held_acquired env lock s
    have hrel := released_of_acquired (t := (f s).2.setHeld (s.acquired env lock).held) ha rfl
    rw [setHeld_setHeld, ← hf.held_eq s, setHeld_self] at hrel
    simp only [ha, if_true, run_bind, run_modifyGet, hfs, spinlockRelease_run,
      if_pos hown, hrel, run_pure]
  · simp [ha]

lemma critical_ok (hf : LockFree f) :
    (critical env lock f).run s = .ok a t ↔ Available env lock s ∧ a = (f s).1 ∧ t = (f s).2 := by
  rw [critical_run env lock hf s, guard_ok]

end Os161.Vm
