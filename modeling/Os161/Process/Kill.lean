import Os161.Process.Teardown

-- The end of a process in vm_fault(VM_FAULT_READONLY, ..): as_destroy and thread_exit, without
-- what sys__exit does.

namespace Os161.Process

open Function Lib Lib.Exec Vm

def threadExit : Sys Unit := do
  let sys ← get
  procRemthread sys.curproc

def faultReadonly (env : Env) : Sys Unit := do
  let cur ← curProc
  onVm (asDestroy env cur)
  threadExit

-- On record is how often as_destroy was called for an address space and a status assigned.
structure Ledger where
  sys : System
  destroyed : Nat → Nat
  statuses : Nat → Nat

def Ledger.noteDestroy (l : Ledger) (as : Option Nat) : Ledger :=
  { l with destroyed := fun a => l.destroyed a + if as = some a then 1 else 0 }

def Ledger.proc (l : Ledger) (p : Nat) : Option Proc := l.sys.procs p

def Ledger.addrspace (l : Ledger) (p : Nat) : Option Nat := (l.proc p).bind Proc.pAddrspace

abbrev LedgerM (α : Type) := EStateM Stop Ledger α

def recordKill (env : Env) : LedgerM Unit := fun l =>
  match (faultReadonly env).run l.sys with
  | .ok _ sys => .ok () ({ l with sys := sys }.noteDestroy (l.addrspace l.sys.curproc))
  | .error e sys => .error e { l with sys := sys }

-- proc_wait by the process at `parent`; proc_destroy calls as_destroy for p_addrspace.
def recordWait (env : Env) (parent p : Nat) : LedgerM Word := fun l =>
  match (procWait env p).run (l.sys.setCurproc parent) with
  | .ok status sys => .ok status ({ l with sys := sys }.noteDestroy (l.addrspace p))
  | .error e sys => .error e { l with sys := sys }

-- The address space of the process at `p` is detached and destroyed once, the status has been
-- assigned, and P lets a parent through.
structure CompleteExit (env : Env) (l t : Ledger) (p : Nat) (proc : Proc) : Prop where
  detached : t.addrspace p = none
  once : ∀ a, proc.pAddrspace = some a → t.destroyed a = l.destroyed a + 1 ∧
    ∀ parent status u, (recordWait env parent p).run t = .ok status u →
      u.destroyed a = l.destroyed a + 1
  status : t.statuses p = l.statuses p + 1
  woken : ∃ now n, t.proc p = some now ∧ now.pSem = some (n + 1)

section Kill

variable {env : Env} {l t : Ledger} {sys sys' : System} {proc : Proc}

lemma procRemthread_ok (hproc : sys.procs p = some proc) :
    (procRemthread p).run sys = .ok () sys' ↔ 0 < proc.pNumthreads ∧
      sys' = sys.setProcs (update sys.procs p
        (some { proc with pNumthreads := proc.pNumthreads - 1 })) := by
  rw [procRemthread, readProc_bind_ok]
  constructor
  · rintro ⟨found, hfound, h⟩
    obtain rfl : proc = found := Option.some.inj (hproc.symm.trans hfound)
    obtain ⟨hpos, h⟩ := kassert_bind_ok.mp h
    obtain ⟨found, hfound, rfl⟩ := updateProc_ok.mp h
    obtain rfl : proc = found := Option.some.inj (hproc.symm.trans hfound)
    exact ⟨of_decide_eq_true hpos, rfl⟩
  rintro ⟨hpos, rfl⟩
  exact ⟨proc, hproc, kassert_bind_ok.mpr ⟨decide_eq_true hpos,
    updateProc_ok.mpr ⟨proc, hproc, rfl⟩⟩⟩

lemma faultReadonly_ok (hproc : sys.procs sys.curproc = some proc) :
    (faultReadonly env).run sys = .ok () sys' ↔
      ∃ vm, (asDestroy env ⟨proc.pid, proc.pAddrspace⟩).run sys.vm = .ok () vm ∧
        0 < proc.pNumthreads ∧ sys' = (sys.setVm vm).setProcs (update sys.procs sys.curproc
          (some { proc with pNumthreads := proc.pNumthreads - 1 })) := by
  rw [faultReadonly, bind_run_ok (curProc_ok.mpr ⟨proc, hproc, rfl, rfl⟩), bind_ok]
  constructor
  · rintro ⟨_, u, hdestroy, hexit⟩
    obtain ⟨vm, hvm, rfl⟩ := onVm_ok.mp hdestroy
    rw [threadExit, bind_run_ok (EStateM.run_get _)] at hexit
    have hstill : (sys.setVm vm).procs sys.curproc = some proc := hproc
    obtain ⟨hpos, rfl⟩ := (procRemthread_ok hstill).mp hexit
    exact ⟨vm, hvm, hpos, rfl⟩
  rintro ⟨vm, hvm, hpos, rfl⟩
  refine ⟨(), sys.setVm vm, onVm_ok.mpr ⟨vm, hvm, rfl⟩, ?_⟩
  rw [threadExit, bind_run_ok (EStateM.run_get _)]
  have hstill : (sys.setVm vm).procs sys.curproc = some proc := hproc
  exact (procRemthread_ok hstill).mpr ⟨hpos, rfl⟩

lemma recordKill_ok (hproc : l.proc l.sys.curproc = some proc)
    (h : (recordKill env).run l = .ok () t) :
    t.proc l.sys.curproc = some { proc with pNumthreads := proc.pNumthreads - 1 } ∧
      t.statuses = l.statuses ∧
      ∀ a, t.destroyed a = l.destroyed a + if proc.pAddrspace = some a then 1 else 0 := by
  have hspace : l.addrspace l.sys.curproc = proc.pAddrspace := by
    rw [Ledger.addrspace, hproc]
    rfl
  have hrun : (recordKill env).run l = recordKill env l := rfl
  rw [hrun, recordKill] at h
  split at h
  next sys' hkill =>
    obtain ⟨vm, -, -, rfl⟩ := (faultReadonly_ok hproc).mp hkill
    injection h with _ ht
    rw [← ht]
    refine ⟨update_self .., rfl, fun a => ?_⟩
    rw [Ledger.noteDestroy, hspace]
  next => cases h

lemma recordWait_blocked (hproc : l.proc p = some proc) (hsem : proc.pSem = some 0)
    (parent : Nat) (status : Word) : (recordWait env parent p).run l ≠ .ok status t := by
  intro h
  have hrun : (recordWait env parent p).run l = recordWait env parent p l := rfl
  rw [hrun, recordWait] at h
  split at h
  next sys' hwait =>
    rw [procWait, bind_run_ok (EStateM.run_get _)] at hwait
    obtain ⟨-, hwait⟩ := kassert_bind_ok.mp hwait
    obtain ⟨_, u, hP, -⟩ := bind_ok.mp hwait
    rw [semP, readProc_bind_ok] at hP
    obtain ⟨found, hfound, hP⟩ := hP
    obtain rfl : proc = found := Option.some.inj (hproc.symm.trans hfound)
    rw [hsem] at hP
    cases hP
  next => cases h

lemma recordWait_destroyed (h : (recordWait env parent p).run l = .ok status t) (a : Nat) :
    t.destroyed a = l.destroyed a + if l.addrspace p = some a then 1 else 0 := by
  have hrun : (recordWait env parent p).run l = recordWait env parent p l := rfl
  rw [hrun, recordWait] at h
  split at h
  next sys' _ =>
    injection h with _ ht
    rw [← ht]
    rfl
  next => cases h

-- Whatever the process, its end in vm_fault leaves the freed address space attached, assigns no
-- status and does not signal. A parent stays in P; if it ever gets through, the address space is
-- destroyed a second time.
theorem readonly_kill_incomplete (env : Env) (l t : Ledger) (proc : Proc)
    (hproc : l.proc l.sys.curproc = some proc) (h : (recordKill env).run l = .ok () t) :
    ¬ CompleteExit env l t l.sys.curproc proc ∧
      t.addrspace l.sys.curproc = proc.pAddrspace ∧ t.statuses = l.statuses ∧
      (proc.pSem = some 0 → ∀ parent status u,
        (recordWait env parent l.sys.curproc).run t ≠ .ok status u) ∧
      ∀ a, proc.pAddrspace = some a → ∀ parent status u,
        (recordWait env parent l.sys.curproc).run t = .ok status u →
        u.destroyed a = l.destroyed a + 2 := by
  obtain ⟨hnow, hstatuses, hdestroyed⟩ := recordKill_ok hproc h
  have hspace : t.addrspace l.sys.curproc = proc.pAddrspace := by
    rw [Ledger.addrspace, hnow]
    rfl
  refine ⟨fun hcomplete => ?_, hspace, hstatuses, fun hsem parent status u => ?_, ?_⟩
  · have hstatus := hcomplete.status
    rw [hstatuses] at hstatus
    omega
  · exact recordWait_blocked hnow hsem parent status
  · intro a ha parent status u hwait
    rw [recordWait_destroyed hwait, hspace, if_pos ha, hdestroyed, if_pos ha]

end Kill

def runningChild : Proc := ⟨1, some 1, 0#32, 3, some 0, 2#32⟩

def runningFamily : System where
  vm := smallMachine
  procs := fun p => [⟨1, none, 0#32, 1, some 0, 0#32⟩, oldParent, runningChild][p]?
  processTable := ⟨fun i => if 0 < i ∧ i ≤ 3 then some (i - 1) else none, 3⟩
  kproc := 0
  curproc := 2

def runningLedger : Ledger := ⟨runningFamily, fun _ => 0, fun _ => 0⟩

lemma runningChild_killed : ∃ t, (recordKill steadyEnv).run runningLedger = .ok () t := by
  have hskip : (pageTableRemoveOnPids steadyEnv 2#32).run smallMachine = .ok () smallMachine :=
    @removeOnPids_ownsNoEntry steadyEnv runningChild smallMachine (by decide) (fun _ => rfl)
      fun i => (ownsNothing_smallMachine runningChild i).1
  have hkill := (@faultReadonly_ok steadyEnv runningFamily _ runningChild rfl).mpr
    ⟨_, asDestroy_ok.mpr ⟨_, hskip, rfl⟩, by decide, rfl⟩
  have hrun : (recordKill steadyEnv).run runningLedger = recordKill steadyEnv runningLedger := rfl
  have hsys : runningLedger.sys = runningFamily := rfl
  rw [hrun, recordKill, hsys, hkill]
  exact ⟨_, rfl⟩

theorem runningChild_not_reaped : ∃ t, (recordKill steadyEnv).run runningLedger = .ok () t ∧
    t.addrspace 2 = some 1 ∧ t.destroyed 1 = 1 ∧ t.statuses 2 = 0 ∧
    (∀ parent status u, (recordWait steadyEnv parent 2).run t ≠ .ok status u) ∧
    ¬ CompleteExit steadyEnv runningLedger t 2 runningChild := by
  obtain ⟨t, h⟩ := runningChild_killed
  obtain ⟨hnow, hstatuses, hdestroyed⟩ :=
    @recordKill_ok steadyEnv runningLedger t runningChild rfl h
  refine ⟨t, h, ?_, hdestroyed 1, congrFun hstatuses 2,
    fun parent status u => recordWait_blocked hnow rfl parent status, fun hcomplete => ?_⟩
  · rw [Ledger.addrspace, show t.proc 2 = _ from hnow]
    rfl
  have hstatus := hcomplete.status
  rw [hstatuses] at hstatus
  exact absurd hstatus (by decide)

theorem readonly_kill_incomplete_runningChild :
    ∃ t, (recordKill steadyEnv).run runningLedger = .ok () t ∧
      ¬ CompleteExit steadyEnv runningLedger t 2 runningChild := by
  obtain ⟨t, h⟩ := runningChild_killed
  exact ⟨t, h, (readonly_kill_incomplete steadyEnv runningLedger t runningChild rfl h).1⟩

end Os161.Process
