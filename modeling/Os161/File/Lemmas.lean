import Os161.File
import Os161.Process.Lemmas

namespace Os161.File

open Function Lib Lib.Exec Vm Process EStateM Option

variable {k k' : Kernel} {fd : Nat} {table : Word}

lemma onSystem_ok :
    (onSystem x).run k = .ok a k' ↔ ∃ sys, x.run k.system = .ok a sys ∧ k' = k.setSystem sys := by
  unfold onSystem EStateM.run
  dsimp only
  cases x k.system with
  | ok b sys =>
    constructor
    · intro h
      injection h with ha hk
      exact ⟨sys, by rw [ha], hk.symm⟩
    rintro ⟨sys', hx, rfl⟩
    injection hx with ha hsys
    rw [ha, hsys]
  | error e sys => simp

section FirstIndex

lemma firstIndex_some (h : firstIndex accepts first count = some i) :
    first ≤ i ∧ i < first + count ∧ accepts i = true := by
  have hmem := List.mem_of_find?_eq_some h
  rw [List.mem_range'_1] at hmem
  exact ⟨hmem.1, hmem.2, List.find?_some h⟩

lemma firstIndex_none : firstIndex accepts first count = none ↔
      ∀ i, first ≤ i → i < first + count → accepts i = false := by
  simp [firstIndex, List.mem_range'_1]

end FirstIndex

lemma freeEntry_some (h : k.freeEntry = some i) :
    i < SYSTEM_OPEN_MAX ∧ (k.systemFileTable i).vn = none := by
  obtain ⟨-, hi, hfree⟩ := firstIndex_some h
  exact ⟨by omega, isNone_iff_eq_none.mp hfree⟩

lemma freeEntry_none :
    k.freeEntry = none ↔ ∀ i < SYSTEM_OPEN_MAX, (k.systemFileTable i).vn ≠ none := by
  rw [Kernel.freeEntry, firstIndex_none]
  simp [isSome_iff_ne_none]

lemma freeDescriptor_some (h : k.freeDescriptor = some fd) :
    fd < OPEN_MAX ∧ k.fileTable k.system.curproc fd = none := by
  obtain ⟨-, hfd, hfree⟩ := firstIndex_some h
  have hmax : STDERR_FILENO + 1 ≤ OPEN_MAX := by decide
  exact ⟨by omega, isNone_iff_eq_none.mp hfree⟩

lemma freeDescriptor_none : k.freeDescriptor = none ↔
      ∀ fd, STDERR_FILENO < fd → fd < OPEN_MAX → k.fileTable k.system.curproc fd ≠ none := by
  have hmax : STDERR_FILENO + 1 + (OPEN_MAX - (STDERR_FILENO + 1)) = OPEN_MAX := by decide
  rw [Kernel.freeDescriptor, firstIndex_none, hmax]
  simp only [Nat.succ_le_iff, isNone_eq_false_iff, isSome_iff_ne_none]

def freshEntry (v : Nat) : OpenFile := ⟨some v, 0#64, 1#32⟩

inductive Opens (k : Kernel) : Option Nat → Except Word Nat → Kernel → Prop
  | noFile : Opens k none (.error ENOENT) k
  | noEntry (v : Nat) (hfull : k.freeEntry = none) :
      Opens k (some v) (.error ENFILE) ((k.countOpen v).countClose v)
  | noDescriptor (v i : Nat) (hentry : k.freeEntry = some i) (hfull : k.freeDescriptor = none) :
      Opens k (some v) (.error EMFILE)
        (((k.countOpen v).setOpenfile i (freshEntry v)).countClose v)
  | opened (v i fd : Nat) (hentry : k.freeEntry = some i) (hfd : k.freeDescriptor = some fd) :
      Opens k (some v) (.ok fd)
        (((k.countOpen v).setOpenfile i (freshEntry v)).setDescriptor k.system.curproc fd (some i))

lemma sysOpen_ok :
    (sysOpen vfsOpen).run k = .ok r k' ↔ Opens k vfsOpen r k' := by
  cases vfsOpen with
  | none =>
    constructor
    · intro hrun
      obtain ⟨rfl, rfl⟩ := pure_ok.mp hrun
      exact .noFile
    · rintro ⟨⟩
      rfl
  | some v =>
    simp only [sysOpen]
    rw [bind_run_ok (run_modify ..), bind_run_ok (run_get _)]
    have hentry : (k.countOpen v).freeEntry = k.freeEntry := rfl
    rw [hentry]
    cases hi : k.freeEntry with
    | none =>
      simp only
      rw [bind_run_ok (run_modify ..), pure_ok]
      constructor
      · rintro ⟨rfl, rfl⟩
        exact .noEntry v hi
      intro h
      cases h with
      | noEntry => exact ⟨rfl, rfl⟩
      | noDescriptor v i hentry | opened v i fd hentry => simp [hi] at hentry
    | some i =>
      simp only
      rw [bind_run_ok (run_modify ..), bind_run_ok (run_get _)]
      have hdescriptor : ((k.countOpen v).setOpenfile i ⟨some v, 0#64, 1#32⟩).freeDescriptor =
          k.freeDescriptor := rfl
      rw [hdescriptor]
      cases hfd : k.freeDescriptor with
      | none =>
        simp only
        rw [bind_run_ok (run_modify ..), pure_ok]
        constructor
        · rintro ⟨rfl, rfl⟩
          exact .noDescriptor v i hi hfd
        intro h
        cases h with
        | noEntry v hfull => simp [hi] at hfull
        | noDescriptor v j hentry =>
          obtain rfl : i = j := by simpa [hi] using hentry
          exact ⟨rfl, rfl⟩
        | opened v j fd hentry hfd' => simp [hfd] at hfd'
      | some fd =>
        simp only
        rw [bind_run_ok (run_modify ..), pure_ok]
        constructor
        · rintro ⟨rfl, rfl⟩
          exact .opened v i fd hi hfd
        intro h
        cases h with
        | noEntry v hfull => simp [hi] at hfull
        | noDescriptor v j hentry hfull => simp [hfd] at hfull
        | opened v j fd' hentry hfd' =>
          obtain rfl : i = j := by simpa [hi] using hentry
          obtain rfl : fd = fd' := by simpa [hfd] using hfd'
          exact ⟨rfl, rfl⟩

def OpenFile.dropped (of : OpenFile) : OpenFile :=
  { of with
    countRef := of.countRef - 1#32
    vn := if 0#32 < of.countRef - 1#32 then of.vn else none }

def OpenFile.closing (of : OpenFile) : Option Nat :=
  if 0#32 < of.countRef - 1#32 then none else of.vn

def Kernel.closeVnode (k : Kernel) : Option Nat → Kernel
  | none => k
  | some v => k.countClose v

lemma dropReference_ok (hrun : (dropReference of).run k = .ok r k') :
    ∃ i, of = .entry i ∧ k' = (k.setOpenfile i (k.systemFileTable i).dropped).closeVnode
        (k.systemFileTable i).closing := by
  cases of with
  | astray => cases hrun
  | entry i =>
    refine ⟨i, rfl, ?_⟩
    simp only [dropReference] at hrun
    rw [bind_run_ok (run_modify ..), bind_run_ok (run_get _)] at hrun
    simp only [Kernel.setOpenfile_systemFileTable, update_self] at hrun
    by_cases hmore : 0#32 < (k.systemFileTable i).countRef - 1#32
    · rw [if_pos hmore] at hrun
      obtain ⟨-, rfl⟩ := pure_ok.mp hrun
      simp only [OpenFile.closing, OpenFile.dropped, if_pos hmore, Kernel.closeVnode]
    rw [if_neg hmore, bind_run_ok (run_modify ..)] at hrun
    have htwice : (k.setOpenfile i { k.systemFileTable i with
        countRef := (k.systemFileTable i).countRef - 1#32 }).setOpenfile i
        { (k.systemFileTable i) with
          countRef := (k.systemFileTable i).countRef - 1#32, vn := none } =
        k.setOpenfile i (k.systemFileTable i).dropped := by
      simp only [Kernel.setOpenfile, update_idem, OpenFile.dropped, if_neg hmore]
    simp only [Kernel.setOpenfile_systemFileTable, update_self, htwice] at hrun
    rw [OpenFile.closing, if_neg hmore]
    cases hvn : (k.systemFileTable i).vn with
    | none =>
      simp only [hvn] at hrun
      exact (pure_ok.mp hrun).2
    | some v =>
      simp only [hvn] at hrun
      rw [bind_run_ok (run_modify ..)] at hrun
      exact (pure_ok.mp hrun).2

inductive Closes (table : Word) (k : Kernel) : Int → Kernel → Prop
  | refused (fd : Int) (hnull : fd = OPEN_MAX → ∀ proc,
      k.system.procs k.system.curproc = some proc → pointerAt table proc.pid = none) :
      Closes table k fd k
  | descriptor (fd i : Nat) (hfd : fd < OPEN_MAX)
      (hof : k.fileTable k.system.curproc fd = some i) :
      Closes table k fd (((k.setDescriptor k.system.curproc fd none).setOpenfile i
        (k.systemFileTable i).dropped).closeVnode (k.systemFileTable i).closing)
  | pastEnd (proc : Proc) (i : Nat) (hproc : k.system.procs k.system.curproc = some proc)
      (hof : pointerAt table proc.pid = some (.entry i)) :
      Closes table k OPEN_MAX (((k.setSystem (k.system.setProcs (update k.system.procs
        k.system.curproc (some { proc with pid := 0#32 })))).setOpenfile i
          (k.systemFileTable i).dropped).closeVnode (k.systemFileTable i).closing)

lemma readDescriptor_ok (hrun : (readDescriptor table fd).run k = .ok of k') :
    k' = k ∧ ((fd < OPEN_MAX ∧ of = (k.fileTable k.system.curproc fd).map .entry) ∨
      (OPEN_MAX ≤ fd ∧ ∃ proc, k.system.procs k.system.curproc = some proc ∧
        of = pointerAt table proc.pid)) := by
  unfold readDescriptor at hrun
  rw [bind_run_ok (run_get k)] at hrun
  by_cases hfd : fd < OPEN_MAX
  · rw [if_pos hfd] at hrun
    obtain ⟨rfl, rfl⟩ := pure_ok.mp hrun
    exact ⟨rfl, .inl ⟨hfd, rfl⟩⟩
  rw [if_neg hfd] at hrun
  obtain ⟨proc, u, hread, hpure⟩ := bind_ok.mp hrun
  obtain ⟨sys, hsys, rfl⟩ := onSystem_ok.mp hread
  obtain ⟨hproc, rfl⟩ := readProc_ok.mp hsys
  obtain ⟨rfl, rfl⟩ := pure_ok.mp hpure
  exact ⟨rfl, .inr ⟨by omega, proc, hproc, rfl⟩⟩

lemma sysClose_ok {fd : Int}
    (hrun : (sysClose table fd).run k = .ok r k') : Closes table k fd k' := by
  unfold sysClose at hrun
  by_cases hrange : fd < 0 ∨ (OPEN_MAX : Int) < fd
  · rw [if_pos hrange] at hrun
    obtain ⟨-, rfl⟩ := pure_ok.mp hrun
    exact .refused fd fun hfd => by omega
  rw [if_neg hrange] at hrun
  obtain ⟨n, rfl⟩ : ∃ n : Nat, fd = n := ⟨fd.toNat, by omega⟩
  obtain ⟨of, u, hread, hrest⟩ := bind_ok.mp hrun
  obtain ⟨rfl, hof⟩ := readDescriptor_ok hread
  cases of with
  | none =>
    obtain ⟨-, rfl⟩ := pure_ok.mp hrest
    refine .refused n fun hfd proc hproc => ?_
    rcases hof with ⟨hlt, -⟩ | ⟨-, proc', hproc', hof⟩
    · omega
    · obtain rfl : proc = proc' := by simpa [hproc] using hproc'
      exact hof.symm
  | some of =>
    obtain ⟨_, v, hclear, hdrop⟩ := bind_ok.mp hrest
    obtain ⟨i, rfl, rfl⟩ := dropReference_ok hdrop
    unfold clearDescriptor at hclear
    rw [bind_run_ok (run_get _)] at hclear
    simp only [Int.toNat_natCast] at hclear hof
    rcases hof with ⟨hfd, hof⟩ | ⟨hfd, proc, hproc, hof⟩
    · rw [if_pos hfd] at hclear
      obtain rfl := modify_ok.mp hclear
      refine .descriptor n i hfd ?_
      cases hentry : u.fileTable u.system.curproc n with
      | none => simp [hentry] at hof
      | some j => simpa [hentry, eq_comm] using hof
    rw [if_neg (by omega)] at hclear
    obtain ⟨sys, hupdate, rfl⟩ := onSystem_ok.mp hclear
    obtain ⟨proc', hproc', rfl⟩ := updateProc_ok.mp hupdate
    obtain rfl : proc = proc' := by simpa [hproc] using hproc'
    obtain rfl : n = OPEN_MAX := by omega
    exact .pastEnd proc i hproc hof.symm

end Os161.File
