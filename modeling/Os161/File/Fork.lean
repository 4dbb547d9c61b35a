import Os161.File.Tables

namespace Os161.File

open Function Lib Lib.Exec Lib.Count Vm Process EStateM Kernel

def Kernel.references (k : Kernel) (p i n : Nat) : Nat :=
  count (Finset.range n) (· = some i) (k.fileTable p)

def Kernel.copied (k : Kernel) (psrc pdest n : Nat) : Kernel :=
  { k with
    fileTable := update k.fileTable pdest fun fd =>
      if fd < n then k.fileTable psrc fd else k.fileTable pdest fd
    systemFileTable := fun i => { k.systemFileTable i with
      countRef := (k.systemFileTable i).countRef + BitVec.ofNat 32 (k.references psrc i n) } }

lemma copied_zero (k : Kernel) (psrc pdest : Nat) : k.copied psrc pdest 0 = k := by
  ext1
  · rfl
  · funext i
    simp [copied, references, count]
  · simp [copied]
  · rfl
  · rfl

lemma openfileIncrRefCount_run (of : Option Nat) (k : Kernel) :
    (openfileIncrRefCount of).run k = .ok () { k with systemFileTable := fun i =>
      { k.systemFileTable i with
        countRef := (k.systemFileTable i).countRef + if of = some i then 1#32 else 0#32 } } := by
  cases of with
  | none => simp [openfileIncrRefCount]
  | some j =>
    simp only [openfileIncrRefCount, run_modify, setOpenfile]
    congr 2
    funext i
    by_cases hi : i = j
    · subst hi
      simp
    · simp [hi, Ne.symm hi]

-- One iteration: the entry read is still the one the table held at first, because earlier
-- iterations have written smaller indices only.
lemma copy_step (k : Kernel) (psrc pdest n : Nat) :
    (do
      let k' ← get
      modify fun k'' : Kernel => k''.setDescriptor pdest n (k'.fileTable psrc n)
      openfileIncrRefCount (k'.fileTable psrc n) : Syscall Unit).run (k.copied psrc pdest n) =
      .ok () (k.copied psrc pdest (n + 1)) := by
  have hread : (k.copied psrc pdest n).fileTable psrc n = k.fileTable psrc n := by
    by_cases hp : psrc = pdest
    · subst hp
      simp [copied]
    · simp [copied, hp]
  rw [bind_run_ok (run_get _), bind_run_ok (run_modify ..), openfileIncrRefCount_run, hread]
  congr 1
  ext1
  · rfl
  · funext i
    have hcount : k.references psrc i (n + 1) =
        k.references psrc i n + if k.fileTable psrc n = some i then 1 else 0 :=
      count_range_succ n
    by_cases hi : k.fileTable psrc n = some i
    · simp [copied, hcount, hi, BitVec.ofNat_add, BitVec.add_assoc]
    · simp [copied, hcount, hi]
  · funext p fd
    by_cases hp : p = pdest
    · subst hp
      by_cases hfd : fd = n
      · subst hfd
        simp [copied]
      have hlt : fd < n + 1 ↔ fd < n := by omega
      simp only [copied, setDescriptor_fileTable, update_self, update_of_ne hfd, hlt]
    · simp [copied, hp]
  · rfl
  · rfl

lemma procFileTableCopy_run (k : Kernel) (psrc pdest : Nat) :
    (procFileTableCopy psrc pdest).run k = .ok () (k.copied psrc pdest OPEN_MAX) := by
  suffices h : ∀ count n, (loop (fun fd => (do
      let k' ← get
      modify fun k'' : Kernel => k''.setDescriptor pdest fd (k'.fileTable psrc fd)
      openfileIncrRefCount (k'.fileTable psrc fd) : Syscall Unit)) n count).run
      (k.copied psrc pdest n) = .ok () (k.copied psrc pdest (n + count)) by
    have hall := h OPEN_MAX 0
    rwa [copied_zero, Nat.zero_add] at hall
  intro count
  induction count with
  | zero => exact fun n => rfl
  | succ count ih =>
    intro n
    rw [loop_succ, bind_run_ok (copy_step k psrc pdest n), ih (n + 1),
      show n + 1 + count = n + (count + 1) by omega]

variable {k k' : Kernel} {env : Env} {m : Kmalloc} {newp : Nat}

lemma copied_shares (hne : psrc ≠ pdest) (fd i : Nat)
    (hfd : fd < OPEN_MAX) :
    (k.copied psrc pdest OPEN_MAX).fileTable pdest fd = k.fileTable psrc fd ∧
      (k.copied psrc pdest OPEN_MAX).fileTable psrc fd = k.fileTable psrc fd ∧
      ((k.copied psrc pdest OPEN_MAX).systemFileTable i).countRef =
        (k.systemFileTable i).countRef + BitVec.ofNat 32 (k.references psrc i OPEN_MAX) := by
  simp [copied, hne, hfd]

-- What fork is for: both processes have the parent's descriptors, and every entry has been
-- counted once more for each of them.
structure SharesFiles (k k' : Kernel) (parent child : Nat) : Prop where
  kept : ∀ fd < OPEN_MAX, k'.fileTable parent fd = k.fileTable parent fd
  inherited : ∀ fd < OPEN_MAX, k'.fileTable child fd = k.fileTable parent fd
  counted : ∀ i < SYSTEM_OPEN_MAX, (k'.systemFileTable i).countRef.toNat =
    (k.systemFileTable i).countRef.toNat + k.references parent i OPEN_MAX

def Kernel.cleared (k : Kernel) (p : Nat) : Kernel :=
  { k with fileTable := update k.fileTable p fun _ => none }

lemma procCreateRunprogram_tables
    (hrun : (procCreateRunprogram m).run k = .ok (some newp) k') :
    (∃ memory, m.proc = some (newp, memory)) ∧
      ∃ sys, sys.curproc = k.system.curproc ∧ k' = (k.cleared newp).setSystem sys := by
  unfold procCreateRunprogram at hrun
  obtain ⟨new, u, hcreate, hrest⟩ := bind_ok.mp hrun
  obtain ⟨sys, hsys, rfl⟩ := onSystem_ok.mp hcreate
  rcases procCreateRunprogram_ok.mp hsys with ⟨-, rfl, rfl⟩ |
    ⟨p, memory, i, hproc, -, -, rfl, rfl⟩
  · cases (pure_ok.mp hrest).1
  simp only at hrest
  rw [bind_run_ok (run_modify ..)] at hrest
  obtain ⟨hp, rfl⟩ := pure_ok.mp hrest
  obtain rfl : newp = p := by simpa using hp
  exact ⟨⟨memory, hproc⟩, k.system.withNew newp i (memory.created i m.sem), rfl, rfl⟩

lemma sysFork_tables (hnew : m.proc = some (newp, memory))
    (hrun : (sysFork env m).run k = .ok (some pid) k') :
    ∃ sys, k' = ((k.cleared newp).copied newp k.system.curproc OPEN_MAX).setSystem sys := by
  unfold sysFork at hrun
  obtain ⟨new, u, hcreate, hrest⟩ := bind_ok.mp hrun
  cases new with
  | none => cases (pure_ok.mp hrest).1
  | some p =>
    obtain ⟨⟨memory', hproc⟩, sys, hcur, rfl⟩ := procCreateRunprogram_tables hcreate
    obtain ⟨rfl, -⟩ : newp = p ∧ memory = memory' := by simpa [hnew] using hproc
    cases has : m.as with
    | none =>
      simp only [has] at hrest
      obtain ⟨_, v, -, hpure⟩ := bind_ok.mp hrest
      cases (pure_ok.mp hpure).1
    | some as =>
      simp only [has] at hrest
      obtain ⟨_, v, hspace, hrest⟩ := bind_ok.mp hrest
      obtain ⟨sys₁, hvm, rfl⟩ := onSystem_ok.mp hspace
      obtain ⟨vm, -, rfl⟩ := onVm_ok.mp hvm
      obtain ⟨_, v, hset, hrest⟩ := bind_ok.mp hrest
      obtain ⟨sys₂, hupdate, rfl⟩ := onSystem_ok.mp hset
      obtain ⟨proc, -, rfl⟩ := updateProc_ok.mp hupdate
      rw [bind_run_ok (run_get _), bind_run_ok (procFileTableCopy_run ..)] at hrest
      simp only [setSystem_system, System.setProcs_curproc, System.setVm_curproc, hcur]
        at hrest
      by_cases hstarts : (m.trapframe && m.thread) = true
      · rw [if_pos hstarts] at hrest
        obtain ⟨_, v, hadd, hrest⟩ := bind_ok.mp hrest
        obtain ⟨sys₃, -, rfl⟩ := onSystem_ok.mp hadd
        obtain ⟨_, v, hread, hpure⟩ := bind_ok.mp hrest
        obtain ⟨sys₄, -, rfl⟩ := onSystem_ok.mp hread
        obtain ⟨-, rfl⟩ := pure_ok.mp hpure
        exact ⟨sys₄, rfl⟩
      rw [if_neg hstarts] at hrest
      obtain ⟨_, v, -, hpure⟩ := bind_ok.mp hrest
      cases (pure_ok.mp hpure).1

-- sys_fork passes the new process as the source of the copy. So the parent loses its
-- descriptors, and the files are shared only by a parent that has none.
theorem fork_shares_nothing (env : Env) (m : Kmalloc) (k k' : Kernel) (pid newp : Nat)
    (memory : Proc) (hnew : m.proc = some (newp, memory)) (hfresh : newp ≠ k.system.curproc)
    (hrun : (sysFork env m).run k = .ok (some pid) k') : SharesFiles k k' k.system.curproc newp ↔
      ∀ fd < OPEN_MAX, k.fileTable k.system.curproc fd = none := by
  obtain ⟨sys, rfl⟩ := sysFork_tables hnew hrun
  have hcopied := fun fd i => copied_shares (k := k.cleared newp) hfresh fd i
  have hempty : ∀ fd, (k.cleared newp).fileTable newp fd = none := by simp [cleared]
  have hunreferenced : ∀ i, (k.cleared newp).references newp i OPEN_MAX = 0 := fun i =>
    count_eq_zero.mpr fun fd _ hof => by simp [hempty] at hof
  constructor
  · intro h fd hfd
    exact (h.kept fd hfd).symm.trans ((hcopied fd 0 hfd).1.trans (hempty fd))
  intro hnone
  have hreferences : ∀ i, k.references k.system.curproc i OPEN_MAX = 0 := fun i =>
    count_eq_zero.mpr fun fd hfd hof => by simp [hnone fd (Finset.mem_range.mp hfd)] at hof
  refine ⟨fun fd hfd => ?_, fun fd hfd => ?_, fun i hi => ?_⟩
  · rw [hnone fd hfd]
    exact (hcopied fd 0 hfd).1.trans (hempty fd)
  · rw [hnone fd hfd]
    exact (hcopied fd 0 hfd).2.1.trans (hempty fd)
  rw [hreferences]
  have hcount := (hcopied 0 i (by decide)).2.2
  rw [hunreferenced] at hcount
  exact congrArg BitVec.toNat (hcount.trans (BitVec.add_zero _))

lemma sysFork_succeeds (hcreate : (procCreateRunprogram m).run k = .ok (some newp) u)
    (has : m.as = some as) (hspace : (asCreate as).run u.system.vm = .ok () vm)
    (hproc : u.system.procs newp = some proc) (hstarts : (m.trapframe && m.thread) = true) :
    ∃ k', (sysFork env m).run k = .ok (some proc.pPid) k' := by
  let sys₁ := u.system.setVm vm
  let sys₂ := sys₁.setProcs (update sys₁.procs newp
    (some { proc with pAddrspace := some as }))
  let v := (u.setSystem sys₂).copied newp (u.setSystem sys₂).system.curproc OPEN_MAX
  let proc₃ : Proc := { proc with pAddrspace := some as, pNumthreads := proc.pNumthreads + 1 }
  let sys₃ := sys₂.setProcs (update sys₂.procs newp (some proc₃))
  have hvm : (onSystem (onVm (asCreate as))).run u = .ok () (u.setSystem sys₁) :=
    onSystem_ok.mpr ⟨sys₁, onVm_ok.mpr ⟨vm, hspace, rfl⟩, rfl⟩
  have hset : (onSystem (updateProc newp fun proc => { proc with pAddrspace := some as })).run
      (u.setSystem sys₁) = .ok () (u.setSystem sys₂) :=
    onSystem_ok.mpr ⟨sys₂, updateProc_ok.mpr ⟨proc, hproc, rfl⟩, rfl⟩
  have hadd : (onSystem (procAddthread newp)).run v = .ok () (v.setSystem sys₃) :=
    onSystem_ok.mpr ⟨sys₃, updateProc_ok.mpr ⟨_, update_self .., rfl⟩, rfl⟩
  have hread : (onSystem (readProc newp)).run (v.setSystem sys₃) = .ok proc₃ (v.setSystem sys₃) :=
    onSystem_ok.mpr ⟨sys₃, readProc_ok.mpr ⟨update_self .., rfl⟩, rfl⟩
  refine ⟨v.setSystem sys₃, ?_⟩
  unfold sysFork
  rw [bind_run_ok hcreate]
  simp only [has]
  rw [bind_run_ok hvm, bind_run_ok hset, bind_run_ok (run_get _),
    bind_run_ok (procFileTableCopy_run ..), if_pos hstarts, bind_run_ok hadd, bind_run_ok hread]
  rfl

def readerRuns : Kernel := (filled 1).setSystem (programRuns smallMachine)

lemma readerRuns_consistent : Consistent {1} readerRuns := by
  have hadmitted : (FileOp.openFile 1 (some 9)).Admitted 0#32 (filled 0) :=
    .inr fun _ => ⟨3, by decide, by decide, rfl⟩
  have h := fileStep_keeps filled_zero_consistent filled_zero_inside hadmitted
    (filled_open (by decide) 0#32)
  exact ⟨h.counted, h.unused, h.balanced⟩

lemma readerRuns_fork :
    ∃ k', (sysFork steadyEnv forkKmalloc).run readerRuns = .ok (some 3) k' := by
  have hcreate : (Process.procCreateRunprogram forkKmalloc).run readerRuns.system =
      .ok (some 2) (readerRuns.system.withNew 2 3 (zeroProc.created 3 true)) :=
    procCreateRunprogram_ok.mpr (.inr ⟨2, zeroProc, 3, rfl, rfl, rfl, rfl, rfl⟩)
  have hnew : (procCreateRunprogram forkKmalloc).run readerRuns = .ok (some 2)
      ((readerRuns.cleared 2).setSystem
        (readerRuns.system.withNew 2 3 (zeroProc.created 3 true))) := by
    unfold procCreateRunprogram
    rw [bind_run_ok (onSystem_ok.mpr ⟨_, hcreate, rfl⟩)]
    rfl
  have hproc : (readerRuns.system.withNew 2 3 (zeroProc.created 3 true)).procs 2 =
      some (zeroProc.created 3 true) := rfl
  exact sysFork_succeeds hnew rfl rfl hproc rfl

theorem fork_loses_descriptor : Consistent {1} readerRuns ∧ ∃ k',
    (sysFork steadyEnv forkKmalloc).run readerRuns = .ok (some 3) k' ∧
      readerRuns.fileTable 1 3 = some 0 ∧ k'.fileTable 1 3 = none ∧
      ¬ SharesFiles readerRuns k' 1 2 := by
  obtain ⟨k', hrun⟩ := readerRuns_fork
  have hnew : forkKmalloc.proc = some (2, zeroProc) := rfl
  obtain ⟨sys, hk'⟩ := sysFork_tables hnew hrun
  have hlost : k'.fileTable 1 3 = none := by
    rw [hk']
    have hne : 2 ≠ readerRuns.system.curproc := by decide
    exact (copied_shares (k := readerRuns.cleared 2) hne 3 0 (by decide)).1.trans rfl
  refine ⟨readerRuns_consistent, k', hrun, rfl, hlost, fun h => ?_⟩
  have hkept : k'.fileTable 1 3 = some 0 := h.kept 3 (by decide)
  rw [hlost] at hkept
  cases hkept

theorem fork_shares_nothing_reader : ∃ k',
    (sysFork steadyEnv forkKmalloc).run readerRuns = .ok (some 3) k' ∧
      (SharesFiles readerRuns k' 1 2 ↔ ∀ fd < OPEN_MAX, readerRuns.fileTable 1 fd = none) := by
  obtain ⟨k', hrun⟩ := readerRuns_fork
  exact ⟨k', hrun, fork_shares_nothing steadyEnv forkKmalloc readerRuns k' 3 2 zeroProc rfl
    (by decide) hrun⟩

end Os161.File
