import Os161.Process

namespace Os161.Process

open Function Lib Lib.Exec Vm EStateM

variable {sys sys' : System} {p : Nat} {proc : Proc} {env : Env}

lemma onVm_ok :
    (onVm x).run sys = .ok a sys' ↔ ∃ vm, x.run sys.vm = .ok a vm ∧ sys' = sys.setVm vm := by
  unfold onVm EStateM.run
  dsimp only
  cases x sys.vm with
  | ok b vm =>
    constructor
    · intro h
      injection h with ha hsys
      exact ⟨vm, by rw [ha], hsys.symm⟩
    rintro ⟨vm', hx, rfl⟩
    injection hx with ha hvm
    rw [ha, hvm]
  | error e vm => simp

lemma readProc_ok :
    (readProc p).run sys = .ok proc sys' ↔ sys.procs p = some proc ∧ sys' = sys := by
  unfold readProc
  rw [bind_run_ok (run_get sys)]
  cases hp : sys.procs p with
  | none => exact iff_of_false (fun h => by cases h) (by simp)
  | some found => simp [eq_comm]

lemma readProc_bind_ok :
    (readProc p >>= f).run sys = .ok b sys' ↔
      ∃ proc, sys.procs p = some proc ∧ (f proc).run sys = .ok b sys' := by
  rw [bind_ok]
  constructor
  · rintro ⟨proc, u, hread, hrest⟩
    obtain ⟨hp, rfl⟩ := readProc_ok.mp hread
    exact ⟨proc, hp, hrest⟩
  · rintro ⟨proc, hp, hrest⟩
    exact ⟨proc, sys, readProc_ok.mpr ⟨hp, rfl⟩, hrest⟩

@[simp] lemma putProc_run (p : Nat) (proc : Option Proc) (sys : System) :
    (putProc p proc).run sys = .ok () (sys.setProcs (update sys.procs p proc)) := rfl

lemma updateProc_ok :
    (updateProc p f).run sys = .ok () sys' ↔
      ∃ proc, sys.procs p = some proc ∧
        sys' = sys.setProcs (update sys.procs p (some (f proc))) := by
  unfold updateProc
  rw [readProc_bind_ok]
  simp [eq_comm]

lemma curProc_ok : curProc.run sys = .ok cur sys' ↔
      ∃ proc, sys.procs sys.curproc = some proc ∧ cur = ⟨proc.pid, proc.pAddrspace⟩ ∧
        sys' = sys := by
  unfold curProc
  rw [bind_run_ok (run_get sys), readProc_bind_ok]
  simp [eq_comm]

def Proc.created (memory : Proc) (i : Nat) (sem : Bool) : Proc :=
  { memory with
    pNumthreads := 0
    pAddrspace := none
    pStatus := 0#32
    pPid := i
    pSem := if sem then some 0 else none }

@[simps]
def System.withNew (sys : System) (p i : Nat) (proc : Proc) : System :=
  { sys with
    procs := update sys.procs p (some proc)
    processTable := sys.processTable.enter i p }

-- A structure that is written again, or given back, forgets what was written before.
section Overwrites

variable (sys : System) (p i : Nat) (proc : Proc) (x : Option Proc)

lemma setProcs_withNew :
    (sys.setProcs (update sys.procs p x)).withNew p i proc = sys.withNew p i proc := by
  simp only [System.withNew, System.setProcs, update_idem]

lemma withNew_setProcs (proc' : Proc) :
    (sys.withNew p i proc).setProcs
      (update (sys.withNew p i proc).procs p (some proc')) = sys.withNew p i proc' := by
  simp only [System.withNew, System.setProcs, update_idem]

end Overwrites

lemma procInitWaitpid_ok (hp : sys.procs p = some proc) :
    (procInitWaitpid p sem).run sys = .ok () sys' ↔
      ∃ i, sys.processTable.search (MAX_PROC + 1) (nextIndex sys.processTable.lastI) =
          some (some i) ∧
        sys' = sys.withNew p i
          { proc with pPid := i, pStatus := 0#32, pSem := if sem then some 0 else none } := by
  unfold procInitWaitpid
  rw [bind_run_ok (run_get sys)]
  cases hsearch : sys.processTable.search (MAX_PROC + 1) (nextIndex sys.processTable.lastI) with
  | none => exact iff_of_false (fun h => by cases h) (by simp)
  | some found =>
    cases found with
    | none => exact iff_of_false (fun h => by cases h) (by simp)
    | some i =>
      simp only
      rw [bind_run_ok (run_modify ..), updateProc_ok]
      simp [hp, System.withNew, System.setProcs, System.setProcessTable]

def Creates (m : Kmalloc) (sys : System) (new : Option Nat) (sys' : System) : Prop :=
  ((m.proc = none ∨ m.name = false) ∧ new = none ∧ sys' = sys) ∨
    ∃ p memory i, m.proc = some (p, memory) ∧ m.name = true ∧
      sys.processTable.search (MAX_PROC + 1) (nextIndex sys.processTable.lastI) = some (some i) ∧
      new = some p ∧ sys' = sys.withNew p i (memory.created i m.sem)

lemma procCreate_ok :
    (procCreate m).run sys = .ok new sys' ↔ Creates m sys new sys' := by
  unfold procCreate Creates
  rcases hproc : m.proc with _ | ⟨p, memory⟩
  · constructor
    · intro h
      exact .inl ⟨.inl rfl, pure_ok.mp h⟩
    rintro (⟨-, rfl, rfl⟩ | ⟨_, _, _, hsome, -⟩)
    · rfl
    · cases hsome
  cases hname : m.name with
  | false =>
    constructor
    · intro h
      exact .inl ⟨.inr rfl, pure_ok.mp h⟩
    rintro (⟨-, rfl, rfl⟩ | ⟨_, _, _, -, hname, -⟩)
    · rfl
    · cases hname
  | true =>
    let blank : Proc := { memory with pNumthreads := 0, pAddrspace := none }
    let u := sys.setProcs (update sys.procs p (some blank))
    have hu : u.procs p = some blank := update_self ..
    have hnew : ∀ i, u.withNew p i { blank with
        pPid := i, pStatus := 0#32, pSem := if m.sem then some 0 else none } =
        sys.withNew p i (memory.created i m.sem) := by
      intro i
      rw [setProcs_withNew]
      rfl
    simp only [if_true, reduceCtorEq, or_self, false_and, false_or, true_and]
    rw [bind_run_ok (putProc_run ..), bind_ok]
    constructor
    · rintro ⟨_, v, hinit, hpure⟩
      obtain ⟨i, hsearch, rfl⟩ := (procInitWaitpid_ok hu).mp hinit
      obtain ⟨rfl, rfl⟩ := pure_ok.mp hpure
      exact ⟨p, memory, i, rfl, hsearch, rfl, hnew i⟩
    rintro ⟨q, memory', i, heq, hsearch, rfl, rfl⟩
    obtain ⟨rfl, rfl⟩ : p = q ∧ memory = memory' := by simpa using heq
    refine ⟨(), _, (procInitWaitpid_ok hu).mpr ⟨i, hsearch, rfl⟩, ?_⟩
    rw [hnew i]
    rfl

lemma procCreateRunprogram_ok :
    (procCreateRunprogram m).run sys = .ok new sys' ↔ Creates m sys new sys' := by
  -- the second assignment of NULL to p_addrspace changes nothing
  have hsame : ∀ p memory i, (updateProc p fun proc => { proc with pAddrspace := none }).run
      (sys.withNew p i (Proc.created memory i m.sem)) =
        .ok () (sys.withNew p i (memory.created i m.sem)) := by
    intro p memory i
    refine updateProc_ok.mpr ⟨_, update_self .., ?_⟩
    rw [withNew_setProcs]
    rfl
  unfold procCreateRunprogram
  rw [bind_ok]
  constructor
  · rintro ⟨new', u, hcreate, hrest⟩
    rcases procCreate_ok.mp hcreate with ⟨hfail, rfl, rfl⟩ |
      ⟨p, memory, i, hproc, hname, hsearch, rfl, rfl⟩
    · exact .inl ⟨hfail, pure_ok.mp hrest⟩
    simp only at hrest
    rw [bind_run_ok (hsame p memory i)] at hrest
    exact .inr ⟨p, memory, i, hproc, hname, hsearch, pure_ok.mp hrest⟩
  intro h
  refine ⟨new, sys', procCreate_ok.mpr h, ?_⟩
  rcases h with ⟨-, rfl, rfl⟩ | ⟨p, memory, i, -, -, -, rfl, rfl⟩
  · rfl
  simp only
  rw [bind_run_ok (hsame p memory i)]
  rfl

def Proc.Registered (proc : Proc) : Prop :=
  (0 < proc.pPid ∧ proc.pPid ≤ MAX_PROC) ∧ proc.pSem.isSome = true

lemma procEndWaitpid_ok
    (hp : sys.procs p = some proc) :
    (procEndWaitpid p).run sys = .ok () sys' ↔
      proc.Registered ∧ sys' = sys.setProcessTable (sys.processTable.leave proc.pPid) := by
  unfold procEndWaitpid Proc.Registered
  rw [bind_run_ok (readProc_ok.mpr ⟨hp, rfl⟩), kassert_bind_ok, decide_eq_true_eq,
    bind_run_ok (run_modify ..), kassert_run, guard_ok]
  simp [and_assoc]

def Reclaims (env : Env) (p : Nat) (proc : Proc) (sys : System) (vm : State) : Prop :=
  (proc.pAddrspace = none ∧ vm = sys.vm) ∨
    (proc.pAddrspace ≠ none ∧ ∃ cur,
      update sys.procs p (some { proc with pAddrspace := none }) sys.curproc = some cur ∧
      (asDestroy env ⟨cur.pid, cur.pAddrspace⟩).run sys.vm = .ok () vm)

lemma releaseAddrspace_ok
    (hp : sys.procs p = some proc) :
    (releaseAddrspace env p proc).run sys = .ok () sys' ↔
      ∃ vm, Reclaims env p proc sys vm ∧ sys' = (sys.setProcs (update sys.procs p
          (some { proc with pAddrspace := none }))).setVm vm := by
  unfold releaseAddrspace Reclaims
  cases has : proc.pAddrspace with
  | none =>
    have hsame :
        update sys.procs p (some { proc with pAddrspace := none }) = sys.procs := by
      rw [update_eq_self_iff, hp, ← has]
    rw [hsame]
    simp only [true_and, ne_eq, not_true_eq_false, false_and, or_false, exists_eq_left]
    exact pure_ok.trans (and_iff_right rfl)
  | some as =>
    simp only [reduceCtorEq, false_and, ne_eq, not_false_eq_true, true_and, false_or]
    rw [bind_run_ok (putProc_run ..), bind_ok]
    constructor
    · rintro ⟨cur, u, hcur, hvm⟩
      obtain ⟨curp, hcurp, rfl, rfl⟩ := curProc_ok.mp hcur
      obtain ⟨vm, hdestroy, rfl⟩ := onVm_ok.mp hvm
      exact ⟨vm, ⟨curp, hcurp, hdestroy⟩, rfl⟩
    · rintro ⟨vm, ⟨curp, hcurp, hdestroy⟩, rfl⟩
      exact ⟨_, _, curProc_ok.mpr ⟨curp, hcurp, rfl, rfl⟩, onVm_ok.mpr ⟨vm, hdestroy, rfl⟩⟩

@[simps]
def System.without (sys : System) (p : Nat) (proc : Proc) (vm : State) : System :=
  { sys with
    vm := vm
    procs := update sys.procs p none
    processTable := sys.processTable.leave proc.pPid }

lemma setProcs_without (sys : System) (p : Nat) (proc : Proc) (x : Option Proc) (vm : State) :
    (sys.setProcs (update sys.procs p x)).without p proc vm = sys.without p proc vm := by
  simp only [System.without, System.setProcs, update_idem]

lemma procDestroy_ok
    (hp : sys.procs p = some proc) :
    (procDestroy env p).run sys = .ok () sys' ↔
      p ≠ sys.kproc ∧ proc.pNumthreads = 0 ∧ proc.Registered ∧
        ∃ vm, Reclaims env p proc sys vm ∧ sys' = sys.without p proc vm := by
  let detached := fun vm => (sys.setProcs (update sys.procs p
    (some { proc with pAddrspace := none }))).setVm vm
  have hdetached : ∀ vm, (detached vm).procs p = some { proc with pAddrspace := none } :=
    fun vm => update_self ..
  have hgone : ∀ vm, ((detached vm).setProcessTable ((detached vm).processTable.leave
      proc.pPid)).setProcs (update (detached vm).procs p none) =
        sys.without p proc vm := by
    intro vm
    exact setProcs_without sys p proc _ vm
  unfold procDestroy
  rw [bind_run_ok (run_get sys), kassert_bind_ok, decide_eq_true_eq]
  refine and_congr_right fun _ => ?_
  rw [bind_run_ok (readProc_ok.mpr ⟨hp, rfl⟩), bind_ok]
  constructor
  · rintro ⟨_, u, hrelease, h⟩
    obtain ⟨vm, hreclaims, rfl⟩ := (releaseAddrspace_ok hp).mp hrelease
    obtain ⟨hthreads, h⟩ := kassert_bind_ok.mp h
    obtain ⟨_, u, hend, h⟩ := bind_ok.mp h
    obtain ⟨hregistered, rfl⟩ := (procEndWaitpid_ok (hdetached vm)).mp hend
    injection h with _ hsys
    exact ⟨of_decide_eq_true hthreads, hregistered, vm, hreclaims, hsys.symm.trans (hgone vm)⟩
  rintro ⟨hthreads, hregistered, vm, hreclaims, rfl⟩
  refine ⟨(), detached vm, (releaseAddrspace_ok hp).mpr ⟨vm, hreclaims, rfl⟩, ?_⟩
  rw [kassert_bind_ok, bind_run_ok ((procEndWaitpid_ok (hdetached vm)).mpr ⟨hregistered, rfl⟩),
    ← hgone vm]
  exact ⟨decide_eq_true hthreads, rfl⟩

-- A child that proc_wait can reap at once: it has an address space, its thread is gone and it
-- has signalled its end.
structure Reapable (sys : System) (c : Nat) (child : Proc) : Prop where
  live : sys.procs c = some child
  other : c ≠ sys.curproc
  user : c ≠ sys.kproc
  space : child.pAddrspace ≠ none
  threads : child.pNumthreads = 0
  pid : 0 < child.pPid ∧ child.pPid ≤ MAX_PROC
  ended : ∃ count, child.pSem = some (count + 1)

lemma procWait_reapable (h : Reapable sys c child)
    (hparent : sys.procs sys.curproc = some parent) :
    (procWait env c).run sys = .ok status sys' ↔
      ∃ vm, (asDestroy env ⟨parent.pid, parent.pAddrspace⟩).run sys.vm = .ok () vm ∧
        status = child.pStatus ∧ sys' = sys.without c child vm := by
  obtain ⟨count, hsem⟩ := h.ended
  let woken : Proc := { child with pSem := some count }
  let u := sys.setProcs (update sys.procs c (some woken))
  have hu : u.procs c = some woken := update_self ..
  have hP : (semP c).run sys = .ok () u := by
    unfold semP
    rw [bind_run_ok (readProc_ok.mpr ⟨h.live, rfl⟩), hsem]
    rfl
  have hgone : ∀ vm, u.without c woken vm = sys.without c child vm := by
    intro vm
    exact setProcs_without sys c child _ vm
  have hcur : ∀ proc : Proc, update u.procs c (some proc) u.curproc = some parent := by
    intro proc
    show update (update sys.procs c _) c _ sys.curproc = _
    rw [update_idem, update_of_ne h.other.symm]
    exact hparent
  unfold procWait
  rw [bind_run_ok (run_get sys), kassert_bind_ok, bind_run_ok hP,
    bind_run_ok (readProc_ok.mpr ⟨hu, rfl⟩), bind_ok]
  constructor
  · rintro ⟨-, _, v, hdestroy, hpure⟩
    obtain ⟨-, -, -, vm, hreclaims, rfl⟩ := (procDestroy_ok hu).mp hdestroy
    rcases hreclaims with ⟨hnone, -⟩ | ⟨-, cur, hcurp, hrun⟩
    · exact absurd hnone h.space
    obtain rfl : parent = cur := by simpa [hcur] using hcurp
    obtain ⟨rfl, rfl⟩ := pure_ok.mp hpure
    exact ⟨vm, hrun, rfl, hgone vm⟩
  rintro ⟨vm, hrun, rfl, rfl⟩
  refine ⟨decide_eq_true h.user, (), u.without c woken vm, ?_, ?_⟩
  · exact (procDestroy_ok hu).mpr ⟨h.user, h.threads, ⟨h.pid, rfl⟩, vm,
      .inr ⟨h.space, parent, hcur _, hrun⟩, rfl⟩
  · rw [hgone vm]
    rfl

end Os161.Process
