import Os161.Lib.Keys
import Os161.Lib.Run
import Os161.Process.Lemmas
import Os161.Vm.LockDiscipline

namespace Os161.Process

open Function Lib Lib.Exec Vm EStateM

def Proc.key (proc : Proc) : Option Word := proc.pAddrspace.map fun _ => proc.pid

def System.keys (sys : System) (p : Nat) : Option Word := (sys.procs p).bind Proc.key

def Kmalloc.Fresh (m : Kmalloc) (sys : System) : Prop :=
  ∀ p memory, m.proc = some (p, memory) → sys.procs p = none

def Kmalloc.forked (m : Kmalloc) : Option (Nat × Word) :=
  if m.name && m.as.isSome && m.trapframe && m.thread then
    m.proc.map fun x => (x.1, x.2.pid)
  else none

-- The menu starts a process, whose own thread then gives it an address space; fork does both;
-- exit and wait end one.
inductive ProcOp where
  | commonProg (m : Kmalloc)
  | runprogram (p : Nat) (as : Option Nat)
  | fork (p : Nat) (m : Kmalloc)
  | exit (p : Nat) (status : Word)
  | wait (p c : Nat)

def ProcStep (env : Env) : ProcOp → System → System → Prop
  | .commonProg m, sys, sys' =>
    m.Fresh sys ∧ ∃ r, (commonProg env m).run (sys.setCurproc sys.kproc) = .ok r sys'
  | .runprogram p as, sys, sys' => ∃ r, (runprogram env as).run (sys.setCurproc p) = .ok r sys'
  | .fork p m, sys, sys' => m.Fresh sys ∧ ∃ r, (sysFork env m).run (sys.setCurproc p) = .ok r sys'
  | .exit p status, sys, sys' => (sysExit status).run (sys.setCurproc p) = .ok () sys'
  | .wait p c, sys, sys' => ∃ r, (procWait env c).run (sys.setCurproc p) = .ok r sys'

def ProcOp.grant (sys : System) : ProcOp → Option (Nat × Word)
  | .runprogram p (some _) => (sys.procs p).map fun proc => (p, proc.pid)
  | .fork _ m => m.forked
  | _ => none

-- Processes with an address space have different keys, so that no lookup made for one of them
-- finds what is recorded under the key of another. Ownership is by key: the last two fields
-- follow from the first, whatever the tables hold.
structure Isolated (sys : System) : Prop where
  distinct : Keys.Distinct sys.keys
  entries : ∀ p q k l vaddr i, p ≠ q → sys.keys p = some k → sys.keys q = some l →
    sys.vm.pageTable.lookup k vaddr = some i → (sys.vm.pageTable.nextEntry i).pid ≠ l
  slots : ∀ p q k l vaddr i, p ≠ q → sys.keys p = some k → sys.keys q = some l →
    sys.vm.swap.slotOf k vaddr = some i → (sys.vm.swap.track i).pid ≠ l

def ProcOp.Admitted (op : ProcOp) (sys : System) : Prop :=
  ∀ p k, op.grant sys = some (p, k) → Keys.Unused sys.keys p k

variable {sys : System}

lemma isolated_of_distinct (h : Keys.Distinct sys.keys) : Isolated sys := by
  have hne : ∀ p q k l, p ≠ q → sys.keys p = some k → sys.keys q = some l → k ≠ l := by
    rintro p q k l hpq hp hq rfl
    exact hpq (h p q k hp hq)
  refine ⟨h, ?_, ?_⟩
  · intro p q k l vaddr i hpq hp hq hlookup howner
    obtain ⟨-, hfound, -⟩ := Scan.lastIndex_eq_some.mp hlookup
    simp only [Bool.and_eq_true, decide_eq_true_eq] at hfound
    exact hne p q k l hpq hp hq (hfound.1.symm.trans howner)
  intro p q k l vaddr i hpq hp hq hslot howner
  obtain ⟨hfound, -, -⟩ := List.find?_range_eq_some.mp hslot
  simp only [Bool.and_eq_true, decide_eq_true_eq] at hfound
  exact hne p q k l hpq hp hq (hfound.1.1.symm.trans howner)

section Effects

variable {sys sys' : System} {p : Nat}

lemma keys_put (h : sys'.procs = update sys.procs p x) :
    sys'.keys = update sys.keys p (x.bind Proc.key) := by
  funext q
  unfold System.keys
  rw [h]
  by_cases hq : q = p
  · subst hq
    simp
  · simp [update_of_ne hq]

lemma keys_same (h : sys'.procs = update sys.procs p x)
    (hkey : x.bind Proc.key = sys.keys p) : sys'.keys = sys.keys := by
  rw [keys_put h, hkey, update_eq_self]

lemma keys_rewrite (hp : sys.procs p = some proc)
    (hkey : proc'.key = proc.key) :
    (sys.setProcs (update sys.procs p (some proc'))).keys = sys.keys := by
  refine keys_same rfl ?_
  simp [System.keys, hp, hkey]

lemma updateProc_keys (hrun : (updateProc p f).run sys = .ok () sys')
    (hf : ∀ proc, (f proc).key = proc.key) : sys'.keys = sys.keys := by
  obtain ⟨proc, hp, rfl⟩ := updateProc_ok.mp hrun
  exact keys_rewrite hp (hf proc)

lemma procAddthread_keys (hrun : (procAddthread p).run sys = .ok () sys') :
    sys'.keys = sys.keys :=
  updateProc_keys hrun fun _ => rfl

lemma procRemthread_keys (hrun : (procRemthread p).run sys = .ok () sys') :
    sys'.keys = sys.keys := by
  obtain ⟨proc, -, hrest⟩ := readProc_bind_ok.mp hrun
  exact updateProc_keys (kassert_bind_ok.mp hrest).2 fun _ => rfl

lemma semP_keys (hrun : (semP p).run sys = .ok () sys') : sys'.keys = sys.keys := by
  obtain ⟨proc, hp, hrest⟩ := readProc_bind_ok.mp hrun
  split at hrest
  · cases hrest
  · cases hrest
  · injection hrest with _ hsys
    exact hsys ▸ keys_rewrite hp rfl

lemma semV_keys (hrun : (semV p).run sys = .ok () sys') : sys'.keys = sys.keys := by
  obtain ⟨proc, hp, hrest⟩ := readProc_bind_ok.mp hrun
  split at hrest
  · cases hrest
  · injection hrest with _ hsys
    exact hsys ▸ keys_rewrite hp rfl

lemma procDestroy_keys (hrun : (procDestroy env p).run sys = .ok () sys') :
    sys'.keys = update sys.keys p none := by
  cases hp : sys.procs p with
  | none =>
    unfold procDestroy at hrun
    rw [bind_run_ok (run_get sys), kassert_bind_ok] at hrun
    obtain ⟨proc, hsome, -⟩ := readProc_bind_ok.mp hrun.2
    simp [hp] at hsome
  | some proc =>
    obtain ⟨-, -, -, vm, -, rfl⟩ := (procDestroy_ok hp).mp hrun
    exact keys_put (x := none) rfl

lemma creates_keys (hfresh : m.Fresh sys)
    (h : Creates m sys new sys') :
    sys'.keys = sys.keys ∧ ∀ p, new = some p → sys.keys p = none := by
  rcases h with ⟨-, rfl, rfl⟩ | ⟨q, memory, i, hproc, -, -, rfl, rfl⟩
  · exact ⟨rfl, by simp⟩
  have hnone : sys.keys q = none := by simp [System.keys, hfresh q memory hproc]
  refine ⟨keys_same rfl hnone.symm, ?_⟩
  rintro p hp
  obtain rfl : q = p := by simpa using hp
  exact hnone

lemma commonProg_keys (hfresh : m.Fresh sys)
    (hrun : (commonProg env m).run sys = .ok result sys') : sys'.keys = sys.keys := by
  unfold commonProg at hrun
  obtain ⟨new, u, hcreate, hrun⟩ := bind_ok.mp hrun
  obtain ⟨hu, hnone⟩ := creates_keys hfresh (procCreateRunprogram_ok.mp hcreate)
  cases new with
  | none =>
    obtain ⟨-, rfl⟩ := pure_ok.mp hrun
    exact hu
  | some q =>
    simp only at hrun
    split at hrun
    · obtain ⟨_, v, hadd, hpure⟩ := bind_ok.mp hrun
      obtain ⟨-, rfl⟩ := pure_ok.mp hpure
      exact (procAddthread_keys hadd).trans hu
    obtain ⟨_, v, hdestroy, hpure⟩ := bind_ok.mp hrun
    obtain ⟨-, rfl⟩ := pure_ok.mp hpure
    rw [procDestroy_keys hdestroy, hu, ← hnone q rfl, update_eq_self]

lemma runprogram_keys (hrun : (runprogram env as).run sys = .ok result sys') :
    (as = none ∧ sys'.keys = sys.keys) ∨
      ∃ a proc, as = some a ∧ sys.procs sys.curproc = some proc ∧
        sys'.keys = update sys.keys sys.curproc (some proc.pid) := by
  unfold runprogram at hrun
  rw [bind_run_ok (run_get sys)] at hrun
  obtain ⟨proc, hproc, hrest⟩ := readProc_bind_ok.mp hrun
  obtain ⟨-, hrest⟩ := kassert_bind_ok.mp hrest
  cases as with
  | none =>
    obtain ⟨-, rfl⟩ := pure_ok.mp hrest
    exact .inl ⟨rfl, rfl⟩
  | some a =>
    obtain ⟨_, v, hcreate, hrest⟩ := bind_ok.mp hrest
    obtain ⟨vm, -, rfl⟩ := onVm_ok.mp hcreate
    rw [bind_run_ok (putProc_run ..)] at hrest
    obtain ⟨_, v, hactivate, hpure⟩ := bind_ok.mp hrest
    obtain ⟨vm', -, rfl⟩ := onVm_ok.mp hactivate
    obtain ⟨-, rfl⟩ := pure_ok.mp hpure
    exact .inr ⟨a, proc, rfl, hproc, keys_put (x := some { proc with pAddrspace := some a }) rfl⟩

lemma undone_keys (hnone : sys.keys p = none)
    (hu : u.keys = update sys.keys p (u.keys p))
    (hrun : (procDestroy env p).run u = .ok () sys') : sys'.keys = sys.keys := by
  rw [procDestroy_keys hrun, hu, update_idem, ← hnone, update_eq_self]

lemma giveAddrspace_keys
    (hrun : (updateProc p fun proc => { proc with pAddrspace := some as }).run sys = .ok () sys') :
    ∃ proc, sys.procs p = some proc ∧ sys'.keys = update sys.keys p (some proc.pid) := by
  obtain ⟨proc, hp, rfl⟩ := updateProc_ok.mp hrun
  exact ⟨proc, hp, keys_put (x := some { proc with pAddrspace := some as }) rfl⟩

lemma sysFork_keys (hfresh : m.Fresh sys)
    (hrun : (sysFork env m).run sys = .ok result sys') : Keys.Step sys.keys m.forked sys'.keys := by
  unfold sysFork at hrun
  obtain ⟨new, u, hcreate, hrest⟩ := bind_ok.mp hrun
  have hcreates := procCreateRunprogram_ok.mp hcreate
  obtain ⟨hu, hnone⟩ := creates_keys hfresh hcreates
  rcases hcreates with ⟨hfail, rfl, rfl⟩ | ⟨q, memory, i, hproc, hname, -, rfl, rfl⟩
  · have hforked : m.forked = none := by
      rcases hfail with hproc | hname
      · simp [Kmalloc.forked, hproc]
      · simp [Kmalloc.forked, hname]
    obtain ⟨-, rfl⟩ := pure_ok.mp hrest
    rw [hforked]
    exact .stay
  cases has : m.as with
  | none =>
    simp only [has] at hrest
    obtain ⟨_, v, hdestroy, hpure⟩ := bind_ok.mp hrest
    obtain ⟨-, rfl⟩ := pure_ok.mp hpure
    have hforked : m.forked = none := by simp [Kmalloc.forked, has]
    rw [hforked, undone_keys (hnone q rfl) (by rw [hu, update_eq_self]) hdestroy]
    exact .stay
  | some as =>
    simp only [has] at hrest
    obtain ⟨_, v, hcopy, hrest⟩ := bind_ok.mp hrest
    obtain ⟨vm, -, rfl⟩ := onVm_ok.mp hcopy
    obtain ⟨_, v, hset, hrest⟩ := bind_ok.mp hrest
    have hkeys : v.keys = update sys.keys q (some memory.pid) := by
      obtain ⟨proc, hq, hv⟩ := giveAddrspace_keys hset
      obtain rfl : memory.created i m.sem = proc := by simpa using hq
      rw [hv, ← hu]
      rfl
    by_cases hstarts : (m.trapframe && m.thread) = true
    · rw [if_pos hstarts] at hrest
      obtain ⟨_, w, hadd, hrest⟩ := bind_ok.mp hrest
      obtain ⟨proc, -, hpure⟩ := readProc_bind_ok.mp hrest
      obtain ⟨-, rfl⟩ := pure_ok.mp hpure
      have hforked : m.forked = some (q, memory.pid) := by
        simp only [Bool.and_eq_true] at hstarts
        simp [Kmalloc.forked, hname, has, hproc, hstarts]
      rw [hforked, procAddthread_keys hadd, hkeys]
      exact .grant q memory.pid
    rw [if_neg hstarts] at hrest
    obtain ⟨_, w, hdestroy, hpure⟩ := bind_ok.mp hrest
    obtain ⟨-, rfl⟩ := pure_ok.mp hpure
    have hforked : m.forked = none := by
      rw [Kmalloc.forked, Bool.and_assoc, Bool.eq_false_iff.mpr hstarts, Bool.and_false,
        if_neg Bool.false_ne_true]
    rw [hforked, undone_keys (hnone q rfl) (by rw [hkeys, update_self]) hdestroy]
    exact .stay

lemma sysExit_keys (hrun : (sysExit status).run sys = .ok () sys') : sys'.keys = sys.keys := by
  unfold sysExit at hrun
  rw [bind_run_ok (run_get sys)] at hrun
  obtain ⟨_, u, hstatus, hrun⟩ := bind_ok.mp hrun
  obtain ⟨_, v, hthread, hV⟩ := bind_ok.mp hrun
  rw [semV_keys hV, procRemthread_keys hthread]
  exact updateProc_keys hstatus fun _ => rfl

lemma procWait_keys (hrun : (procWait env p).run sys = .ok status sys') :
    sys'.keys = update sys.keys p none := by
  unfold procWait at hrun
  rw [bind_run_ok (run_get sys)] at hrun
  obtain ⟨_, u, hP, hrest⟩ := bind_ok.mp (kassert_bind_ok.mp hrun).2
  obtain ⟨proc, -, hrest⟩ := readProc_bind_ok.mp hrest
  obtain ⟨_, w, hdestroy, hpure⟩ := bind_ok.mp hrest
  obtain ⟨-, rfl⟩ := pure_ok.mp hpure
  rw [procDestroy_keys hdestroy, semP_keys hP]

end Effects

lemma procStep_keys (hstep : ProcStep env op sys sys') :
    Keys.Step sys.keys (op.grant sys) sys'.keys := by
  cases op with
  | commonProg m =>
    obtain ⟨hfresh, r, hrun⟩ := hstep
    have hfresh' : m.Fresh (sys.setCurproc sys.kproc) := hfresh
    have hkeys : sys'.keys = sys.keys := (commonProg_keys hfresh' hrun :)
    rw [hkeys]
    exact .stay
  | runprogram p as =>
    obtain ⟨r, hrun⟩ := hstep
    rcases runprogram_keys hrun with ⟨rfl, hkeys⟩ | ⟨a, proc, rfl, hproc, hkeys⟩
    · rw [hkeys]
      exact .stay
    have hp : sys.procs p = some proc := hproc
    rw [hkeys, ProcOp.grant, hp]
    exact .grant p proc.pid
  | fork p m =>
    obtain ⟨hfresh, r, hrun⟩ := hstep
    have hfresh' : m.Fresh (sys.setCurproc p) := hfresh
    exact (sysFork_keys hfresh' hrun :)
  | exit p status =>
    have hkeys : sys'.keys = sys.keys := (sysExit_keys hstep :)
    rw [hkeys]
    exact .stay
  | wait p c =>
    obtain ⟨r, hrun⟩ := hstep
    have hkeys : sys'.keys = update sys.keys c none :=
      (procWait_keys hrun :)
    rw [hkeys]
    exact .drop c

def booted (vm : State) (p : Nat) (memory : Proc) : System where
  vm := vm
  procs := update (fun _ => none) p (some (memory.created 1 true))
  processTable := ⟨update (fun _ => none) 1 (some p), 1⟩
  kproc := p
  curproc := p

lemma procBootstrap_booted (vm : State) (p : Nat) (memory : Proc) :
    (procBootstrap ⟨some (p, memory), true, true, none, false, false⟩).run
      ⟨vm, fun _ => none, ⟨fun _ => none, 0⟩, 0, 0⟩ = .ok () (booted vm p memory) := by
  unfold procBootstrap
  rw [bind_run_ok (procCreate_ok.mpr (.inr ⟨p, memory, 1, rfl, rfl, rfl, rfl, rfl⟩))]
  rfl

lemma booted_distinct (vm : State) (p : Nat) (memory : Proc) :
    Keys.Distinct (booted vm p memory).keys := by
  have hnone : ∀ q, (booted vm p memory).keys q = none := by
    intro q
    by_cases hq : q = p
    · subst hq
      simp [System.keys, booted, Proc.key, Proc.created]
    · simp [System.keys, booted, update_of_ne hq]
  intro q r k hq
  simp [hnone q] at hq

-- The runs in which the processes stay isolated are those in which every process that gets an
-- address space happens to find an unused value in the `pid` that nobody has assigned.
theorem isolated_iff_garbage_unused (env : Env) (vm : State) (p : Nat) (memory : Proc)
    (ops : List ProcOp) : Run.Always (ProcStep env) Isolated ops (booted vm p memory) ↔
      Run.Guarded (ProcStep env) ProcOp.Admitted ops (booted vm p memory) := by
  refine Run.always_iff_guarded (fun _ => isolated_of_distinct) ?_ ?_ ops
    (booted_distinct vm p memory)
  · intro op sys sys' hdistinct hadmitted hstep
    exact (Keys.distinct_step_iff hdistinct (procStep_keys hstep)).mpr hadmitted
  · intro op sys sys' hdistinct hno hstep hisolated
    exact hno ((Keys.distinct_step_iff hdistinct (procStep_keys hstep)).mp hisolated.distinct)

def zeroProc : Proc := ⟨0, none, 0#32, 0, none, 0#32⟩

def menuKmalloc : Kmalloc := ⟨some (1, zeroProc), true, true, none, false, true⟩

def forkKmalloc : Kmalloc := ⟨some (2, zeroProc), true, true, some 1, true, true⟩

def System.put (sys : System) (p : Nat) (proc : Proc) : System :=
  sys.setProcs (update sys.procs p (some proc))

def menuStarted : System :=
  ((booted smallMachine 0 zeroProc).withNew 1 2 (zeroProc.created 2 true)).put 1
    { zeroProc.created 2 true with pNumthreads := 1 }

def programRuns (vm : State) : System :=
  ((menuStarted.setCurproc 1).put 1
    { zeroProc.created 2 true with pNumthreads := 1, pAddrspace := some 0 }).setVm vm

lemma menu_step : ProcStep steadyEnv (.commonProg menuKmalloc) (booted smallMachine 0 zeroProc)
    menuStarted := by
  refine ⟨?_, 0#32, ?_⟩
  · intro p memory hp
    obtain ⟨rfl, -⟩ : 1 = p ∧ zeroProc = memory := by simpa [menuKmalloc] using hp
    rfl
  unfold commonProg
  rw [bind_run_ok (procCreateRunprogram_ok.mpr (.inr ⟨1, zeroProc, 2, rfl, rfl, rfl, rfl, rfl⟩))]
  rfl

lemma program_step : ∃ vm, ProcStep steadyEnv (.runprogram 1 (some 0)) menuStarted
    (programRuns vm) := by
  let vm := smallMachine.setAddrspaces (update smallMachine.addrspaces 0
    { smallMachine.addrspaces 0 with
      asVbase1 := 0#32, asNpages1 := 0#32, asVbase2 := 0#32, asNpages2 := 0#32
      asStackpbase := 0#32, allocatedPages := 0 })
  have hidle : Idle vm := ⟨fun _ => rfl, rfl⟩
  -- every slot of the TLB holds zeros, and the pid of the process is zero too
  have hzero : (⟨0#32, 0#32⟩ : TlbEntry).pid = 0#32 := by decide
  have hreset : Disciplined (resetTlbPidDifferent steadyEnv 0#32) vm :=
    (resetTlbPidDifferent_disciplined hidle rfl 0#32).mpr fun _ _ => hzero
  obtain ⟨_, vm', hreset, -⟩ := hreset
  refine ⟨vm', 0#32, ?_⟩
  unfold runprogram
  rw [bind_run_ok (run_get _), readProc_bind_ok]
  refine ⟨{ zeroProc.created 2 true with pNumthreads := 1 }, rfl, kassert_bind_ok.mpr ⟨rfl, ?_⟩⟩
  simp only
  rw [bind_run_ok (onVm_ok.mpr ⟨vm, rfl, rfl⟩), bind_run_ok (putProc_run ..),
    bind_run_ok (onVm_ok.mpr ⟨vm', hreset, rfl⟩)]
  rfl

lemma fork_step (vm : State) :
    ∃ sys, ProcStep steadyEnv (.fork 1 forkKmalloc) (programRuns vm) sys := by
  have hfresh : forkKmalloc.Fresh (programRuns vm) := by
    intro p memory hp
    obtain ⟨rfl, -⟩ : 2 = p ∧ zeroProc = memory := by simpa [forkKmalloc] using hp
    rfl
  have hrun : ∃ sys, (sysFork steadyEnv forkKmalloc).run ((programRuns vm).setCurproc 1) =
      .ok (some 3) sys := by
    unfold sysFork
    rw [bind_run_ok (procCreateRunprogram_ok.mpr (.inr ⟨2, zeroProc, 3, rfl, rfl, rfl, rfl, rfl⟩))]
    exact ⟨_, rfl⟩
  obtain ⟨sys, hrun⟩ := hrun
  exact ⟨sys, hfresh, some 3, hrun⟩

theorem fork_shares_key : ¬ Run.Always (ProcStep steadyEnv) Isolated
      [.commonProg menuKmalloc, .runprogram 1 (some 0), .fork 1 forkKmalloc]
      (booted smallMachine 0 zeroProc) := by
  intro h
  obtain ⟨vm, hprogram⟩ := program_step
  obtain ⟨sys, hfork⟩ := fork_step vm
  have hisolated : Isolated sys := ((h.2 _ menu_step).2 _ hprogram).2 _ hfork
  have hunused := (Keys.distinct_step_iff ((h.2 _ menu_step).2 _ hprogram).1.distinct
    (procStep_keys hfork)).mp hisolated.distinct
  exact hunused 2 0#32 rfl 1 (by decide) rfl

end Os161.Process
