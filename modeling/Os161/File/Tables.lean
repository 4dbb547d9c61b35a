import Os161.File.Lemmas
import Os161.Lib.Count
import Os161.Process.Keys
import Mathlib.Data.Finset.Prod

namespace Os161.File

open Function Lib Lib.Exec Lib.Count Vm Process Kernel OpenFile

def Kernel.pointers (k : Kernel) (procs : Finset Nat) (i : Nat) : Nat :=
  count (procs ×ˢ Finset.range OPEN_MAX) (· = some i) fun d => k.fileTable d.1 d.2

def Kernel.holders (k : Kernel) (v : Nat) : Nat :=
  count (Finset.range SYSTEM_OPEN_MAX) (· = some v) fun i => (k.systemFileTable i).vn

-- What the two tables say of each other. A vnode has been closed as often as it was opened,
-- except for the entries that still hold it.
structure Consistent (procs : Finset Nat) (k : Kernel) : Prop where
  counted : ∀ i < SYSTEM_OPEN_MAX, (k.systemFileTable i).vn ≠ none →
    (k.systemFileTable i).countRef.toNat = k.pointers procs i ∧ 1 ≤ k.pointers procs i
  unused : ∀ i < SYSTEM_OPEN_MAX, (k.systemFileTable i).vn = none → k.pointers procs i = 0
  balanced : ∀ v, k.opens v = k.closes v + k.holders v

def Inside (procs : Finset Nat) (k : Kernel) : Prop :=
  ∀ p ∈ procs, ∀ fd < OPEN_MAX, ∀ i, k.fileTable p fd = some i → i < SYSTEM_OPEN_MAX

section Counting

variable {k : Kernel}

lemma pointers_eq_zero :
    k.pointers procs i = 0 ↔ ∀ p ∈ procs, ∀ fd < OPEN_MAX, k.fileTable p fd ≠ some i := by
  rw [pointers, count_eq_zero]
  simp only [Finset.mem_product, Finset.mem_range, Prod.forall]
  exact ⟨fun h p hp fd hfd => h p fd ⟨hp, hfd⟩, fun h p fd hd => h p hd.1 fd hd.2⟩

@[simp] lemma pointers_setOpenfile : (k.setOpenfile i e).pointers procs j = k.pointers procs j :=
  rfl

@[simp] lemma pointers_countOpen : (k.countOpen v).pointers procs j = k.pointers procs j := rfl

@[simp] lemma holders_setDescriptor : (k.setDescriptor p fd x).holders v = k.holders v := rfl

@[simp] lemma holders_countOpen : (k.countOpen i).holders v = k.holders v := rfl

lemma pointers_setDescriptor (hp : p ∈ procs) (hfd : fd < OPEN_MAX) :
    (k.setDescriptor p fd x).pointers procs i + (if k.fileTable p fd = some i then 1 else 0) =
      k.pointers procs i + if x = some i then 1 else 0 := by
  have hmem : (p, fd) ∈ procs ×ˢ Finset.range OPEN_MAX := by simp [hp, hfd]
  have hupdate : (fun d : Nat × Nat => (k.setDescriptor p fd x).fileTable d.1 d.2) =
      update (fun d : Nat × Nat => k.fileTable d.1 d.2) (p, fd) x := by
    funext ⟨q, e⟩
    by_cases hq : q = p
    · subst hq
      by_cases he : e = fd
      · subst he
        simp
      · simp [he]
    · simp [hq]
  rw [pointers, hupdate, pointers]
  exact count_update hmem x

lemma holders_setOpenfile (hi : i < SYSTEM_OPEN_MAX) :
    (k.setOpenfile i e).holders v + (if (k.systemFileTable i).vn = some v then 1 else 0) =
      k.holders v + if e.vn = some v then 1 else 0 := by
  have hupdate : (fun j => ((k.setOpenfile i e).systemFileTable j).vn) =
      update (fun j => (k.systemFileTable j).vn) i e.vn := by
    funext j
    by_cases hj : j = i
    · subst hj
      simp
    · simp [hj]
  rw [holders, hupdate, holders]
  exact count_update (Finset.mem_range.mpr hi) e.vn

end Counting

inductive FileOp where
  | openFile (p : Nat) (vfsOpen : Option Nat)
  | close (p : Nat) (fd : Int)
  deriving DecidableEq, Repr

def Kernel.asProc (k : Kernel) (p : Nat) : Kernel := k.setSystem (k.system.setCurproc p)

def FileStep (table : Word) (procs : Finset Nat) : FileOp → Kernel → Kernel → Prop
  | .openFile p vfsOpen, k, k' => p ∈ procs ∧ ∃ r, (sysOpen vfsOpen).run (k.asProc p) = .ok r k'
  | .close p fd, k, k' => p ∈ procs ∧ ∃ r, (sysClose table fd).run (k.asProc p) = .ok r k'

def HasDescriptor (k : Kernel) (p : Nat) : Prop :=
  (∃ i < SYSTEM_OPEN_MAX, (k.systemFileTable i).vn = none) →
    ∃ fd, STDERR_FILENO < fd ∧ fd < OPEN_MAX ∧ k.fileTable p fd = none

-- The calls after which the tables still agree: an open that can be recorded in both of them,
-- and a close that does not take the field behind fileTable for a descriptor in use.
def FileOp.Admitted (table : Word) : FileOp → Kernel → Prop
  | .openFile p vfsOpen, k => vfsOpen = none ∨ HasDescriptor k p
  | .close p fd, k => fd = OPEN_MAX → ∀ proc i, k.system.procs p = some proc →
      pointerAt table proc.pid = some (.entry i) → (k.systemFileTable i).vn = none

lemma pointerAt_entry (h : pointerAt table w = some (.entry i)) : i < SYSTEM_OPEN_MAX := by
  unfold pointerAt at h
  split at h
  · cases h
  split at h
  case isTrue hentry =>
    obtain rfl : _ = i := by simpa using h
    exact hentry.2
  · simp at h

section Steps

lemma consistent_opened (h : Consistent procs k) (hp : p ∈ procs) (hi : i < SYSTEM_OPEN_MAX)
    (hfree : (k.systemFileTable i).vn = none) (hfd : fd < OPEN_MAX)
    (hnull : k.fileTable p fd = none) : Consistent procs
      (((k.countOpen v).setOpenfile i (freshEntry v)).setDescriptor p fd (some i)) := by
  have hpointers : ∀ j, (((k.countOpen v).setOpenfile i (freshEntry v)).setDescriptor p fd
      (some i)).pointers procs j = k.pointers procs j + if i = j then 1 else 0 := by
    intro j
    have := pointers_setDescriptor (k := (k.countOpen v).setOpenfile i (freshEntry v))
      (x := some i) (i := j) hp hfd
    simpa [hnull] using this
  refine ⟨fun j hj hvn => ?_, fun j hj hvn => ?_, fun w => ?_⟩
  · rw [hpointers]
    by_cases hij : i = j
    · subst hij
      simp [freshEntry, h.unused i hi hfree]
    · have hvn' : (k.systemFileTable j).vn ≠ none := by simpa [Ne.symm hij] using hvn
      simpa [Ne.symm hij, hij] using h.counted j hj hvn'
  · rw [hpointers]
    by_cases hij : i = j
    · subst hij
      simp [freshEntry] at hvn
    · have hvn' : (k.systemFileTable j).vn = none := by simpa [Ne.symm hij] using hvn
      simpa [hij] using h.unused j hj hvn'
  have hholders := holders_setOpenfile (k := k.countOpen v) (v := w) (e := freshEntry v) hi
  have hbalanced := h.balanced w
  rw [holders_setDescriptor]
  by_cases hvw : v = w
  · subst hvw
    simp [freshEntry, hfree] at hholders ⊢
    omega
  · simp [freshEntry, hfree, hvw, Ne.symm hvw] at hholders ⊢
    omega

lemma not_consistent_leaked (h : Consistent procs k) (hi : i < SYSTEM_OPEN_MAX)
    (hfree : (k.systemFileTable i).vn = none) :
    ¬ Consistent procs (((k.countOpen v).setOpenfile i (freshEntry v)).countClose v) := by
  intro h'
  have hpos := (h'.counted i hi (by simp [freshEntry])).2
  have hzero : k.pointers procs i = 0 := h.unused i hi hfree
  exact absurd hzero (by exact Nat.one_le_iff_ne_zero.mp hpos)

lemma dropped_countRef {of : OpenFile} (hn : of.countRef.toNat = n + 1) :
    of.dropped.countRef.toNat = n ∧ (0#32 < of.countRef - 1#32 ↔ 0 < n) := by
  have hsub : (of.countRef - 1#32).toNat = n := by
    have := of.countRef.isLt
    rw [BitVec.toNat_sub]
    simp only [BitVec.toNat_ofNat, hn]
    omega
  exact ⟨hsub, by rw [BitVec.lt_def, hsub]; rfl⟩

lemma closeVnode_tables (k : Kernel) (vn : Option Nat) :
    (k.closeVnode vn).systemFileTable = k.systemFileTable ∧
      (k.closeVnode vn).fileTable = k.fileTable ∧ (k.closeVnode vn).opens = k.opens ∧
      ∀ v, (k.closeVnode vn).closes v = k.closes v + if vn = some v then 1 else 0 := by
  cases vn with
  | none => simp [closeVnode]
  | some w =>
    refine ⟨rfl, rfl, rfl, fun v => ?_⟩
    by_cases hv : v = w
    · subst hv
      simp [closeVnode]
    · simp [closeVnode, hv, Ne.symm hv]

lemma consistent_closed (h : Consistent procs k) (hinside : Inside procs k) (hp : p ∈ procs)
    (hfd : fd < OPEN_MAX) (hof : k.fileTable p fd = some i) :
    Consistent procs (((k.setDescriptor p fd none).setOpenfile i
      (k.systemFileTable i).dropped).closeVnode (k.systemFileTable i).closing) := by
  have hi : i < SYSTEM_OPEN_MAX := hinside p hp fd hfd i hof
  have hused : k.pointers procs i ≠ 0 := fun hzero => pointers_eq_zero.mp hzero p hp fd hfd hof
  have hvn : (k.systemFileTable i).vn ≠ none := fun hnone => hused (h.unused i hi hnone)
  obtain ⟨n, hn⟩ := Nat.exists_eq_succ_of_ne_zero hused
  obtain ⟨hcount, hmore⟩ := dropped_countRef ((h.counted i hi hvn).1.trans hn)
  have hpointers : ∀ j, (k.setDescriptor p fd none).pointers procs j +
      (if i = j then 1 else 0) = k.pointers procs j := by
    intro j
    have := pointers_setDescriptor (k := k) (x := none) (i := j) hp hfd
    simpa [hof] using this
  obtain ⟨htable, hfiles, hopens, hcloses⟩ := closeVnode_tables
    ((k.setDescriptor p fd none).setOpenfile i (k.systemFileTable i).dropped)
    (k.systemFileTable i).closing
  have hpointers' : ∀ j, (((k.setDescriptor p fd none).setOpenfile i
      (k.systemFileTable i).dropped).closeVnode (k.systemFileTable i).closing).pointers procs j =
        (k.setDescriptor p fd none).pointers procs j := by
    intro j
    rw [pointers, hfiles]
    rfl
  refine ⟨fun j hj hvnj => ?_, fun j hj hvnj => ?_, fun w => ?_⟩
  · rw [hpointers', htable]
    rw [htable] at hvnj
    have hless := hpointers j
    by_cases hij : i = j
    · subst hij
      have hpos : 0 < n := by
        by_contra hzero
        simp [dropped, hmore, hzero] at hvnj
      simp only [setOpenfile_systemFileTable, update_self, hcount]
      simp only [if_true] at hless
      omega
    have hvn' : (k.systemFileTable j).vn ≠ none := by simpa [Ne.symm hij] using hvnj
    rw [if_neg hij, Nat.add_zero] at hless
    rw [hless]
    simpa [Ne.symm hij] using h.counted j hj hvn'
  · rw [hpointers']
    rw [htable] at hvnj
    have hless := hpointers j
    by_cases hij : i = j
    · subst hij
      have hzero : n = 0 := by
        by_contra hpos
        exact hvn (by simpa [dropped, hmore, Nat.pos_of_ne_zero hpos] using hvnj)
      simp only [if_true] at hless
      omega
    have hvn' : (k.systemFileTable j).vn = none := by simpa [Ne.symm hij] using hvnj
    rw [if_neg hij, Nat.add_zero] at hless
    rw [hless]
    exact h.unused j hj hvn'
  have hholders := holders_setOpenfile (k := k.setDescriptor p fd none) (v := w)
    (e := (k.systemFileTable i).dropped) hi
  have hleft : (((k.setDescriptor p fd none).setOpenfile i (k.systemFileTable i).dropped
      ).closeVnode (k.systemFileTable i).closing).holders w =
      ((k.setDescriptor p fd none).setOpenfile i (k.systemFileTable i).dropped).holders w := by
    rw [holders, htable]
    rfl
  have hbalanced := h.balanced w
  rw [hopens, hcloses, hleft]
  simp only [setOpenfile_opens, setDescriptor_opens, setOpenfile_closes,
    setDescriptor_closes, setDescriptor_systemFileTable,
    holders_setDescriptor] at *
  by_cases hpos : 0 < n
  · simp only [closing, dropped, if_pos (hmore.mpr hpos)] at *
    simp only [reduceCtorEq, if_false]
    omega
  simp only [closing, dropped, if_neg (hmore.not.mpr hpos)] at *
  simp only [reduceCtorEq, if_false] at hholders
  omega

lemma consistent_unusedEntry (h : Consistent procs k) (sys : System)
    (hfree : (k.systemFileTable i).vn = none) (hof : of.vn = none) :
    Consistent procs ((k.setSystem sys).setOpenfile i of) := by
  have hvn : ∀ j, (((k.setSystem sys).setOpenfile i of).systemFileTable j).vn =
      (k.systemFileTable j).vn := by
    intro j
    by_cases hj : j = i
    · subst hj
      simp [hfree, hof]
    · simp [hj]
  refine ⟨fun j hj hvnj => ?_, fun j hj hvnj => ?_, fun w => ?_⟩
  · rw [hvn] at hvnj
    have hij : j ≠ i := fun hij => hvnj (hij ▸ hfree)
    have hcounted := h.counted j hj hvnj
    rw [setOpenfile_systemFileTable, update_of_ne hij]
    exact hcounted
  · rw [hvn] at hvnj
    exact h.unused j hj hvnj
  have hholders : ((k.setSystem sys).setOpenfile i of).holders w = k.holders w := by
    simp only [holders, hvn]
  rw [hholders]
  exact h.balanced w

lemma not_consistent_undercounted (h : Consistent procs k) (sys : System)
    (hi : i < SYSTEM_OPEN_MAX) (hvn : (k.systemFileTable i).vn ≠ none) :
    ¬ Consistent procs (((k.setSystem sys).setOpenfile i (k.systemFileTable i).dropped).closeVnode
      (k.systemFileTable i).closing) := by
  intro h'
  obtain ⟨hcount, hpos⟩ := h.counted i hi hvn
  obtain ⟨n, hn⟩ := Nat.exists_eq_add_of_le' hpos
  obtain ⟨hcount', hmore⟩ := dropped_countRef (hcount.trans hn)
  obtain ⟨htable, hfiles, -, -⟩ := closeVnode_tables
    ((k.setSystem sys).setOpenfile i (k.systemFileTable i).dropped) (k.systemFileTable i).closing
  have hpointers : (((k.setSystem sys).setOpenfile i (k.systemFileTable i).dropped).closeVnode
      (k.systemFileTable i).closing).pointers procs i = n + 1 := by
    rw [← hn, pointers, hfiles]
    rfl
  by_cases hzero : 0 < n
  · have hcounted := (h'.counted i hi (by
      rw [htable]
      simpa [dropped, hmore, hzero] using hvn)).1
    rw [hpointers, htable, setOpenfile_systemFileTable, update_self, hcount']
      at hcounted
    omega
  have hunused := h'.unused i hi (by
    rw [htable]
    simp [dropped, hmore, hzero])
  omega

end Steps

section Runs

variable {k : Kernel}

lemma asProc_consistent (p : Nat) (h : Consistent procs k) : Consistent procs (k.asProc p) :=
  ⟨h.counted, h.unused, h.balanced⟩

lemma inside_setDescriptor (h : Inside procs k)
    (hx : ∀ i, x = some i → i < SYSTEM_OPEN_MAX) : Inside procs (k.setDescriptor p fd x) := by
  intro q hq e he i hi
  by_cases hqp : q = p
  · subst hqp
    by_cases hefd : e = fd
    · subst hefd
      exact hx i (by simpa using hi)
    · exact h q hq e he i (by simpa [hefd] using hi)
  · exact h q hq e he i (by simpa [hqp] using hi)

lemma fileStep_inside (h : Inside procs k) (hstep : FileStep table procs op k k') :
    Inside procs k' := by
  cases op with
  | openFile p vfsOpen =>
    obtain ⟨-, r, hrun⟩ := hstep
    cases sysOpen_ok.mp hrun with
    | noFile | noEntry v hfull | noDescriptor v i hentry hfull => exact h
    | opened v i fd hentry hfd =>
      have hk : Inside procs (((k.asProc p).countOpen v).setOpenfile i (freshEntry v)) := h
      refine inside_setDescriptor hk fun j hj => ?_
      obtain rfl : i = j := by simpa using hj
      exact (freeEntry_some hentry).1
  | close p fd =>
    obtain ⟨-, r, hrun⟩ := hstep
    cases sysClose_ok hrun with
    | refused fd hnull => exact h
    | descriptor fd i hfd hof =>
      have hk : Inside procs ((k.asProc p).setDescriptor p fd none) :=
        inside_setDescriptor (k := k.asProc p) h fun j hj => by simp at hj
      intro q hq e he j hj
      rw [(closeVnode_tables _ _).2.1] at hj
      exact hk q hq e he j hj
    | pastEnd proc i hproc hof =>
      intro q hq e he j hj
      rw [(closeVnode_tables _ _).2.1] at hj
      exact h q hq e he j hj

lemma hasDescriptor_of_freeDescriptor (hfd : (k.asProc p).freeDescriptor = some fd) :
    HasDescriptor k p := by
  intro _
  obtain ⟨hlo, -, -⟩ := firstIndex_some hfd
  obtain ⟨hhi, hnull⟩ := freeDescriptor_some hfd
  exact ⟨fd, hlo, hhi, hnull⟩

lemma not_hasDescriptor (hentry : k.freeEntry = some i)
    (hfull : (k.asProc p).freeDescriptor = none) : ¬ HasDescriptor k p := by
  intro hhas
  obtain ⟨hi, hfree⟩ := freeEntry_some hentry
  obtain ⟨fd, hlo, hhi, hnull⟩ := hhas ⟨i, hi, hfree⟩
  exact freeDescriptor_none.mp hfull fd hlo hhi hnull

lemma fileStep_keeps (h : Consistent procs k) (hinside : Inside procs k)
    (hadmitted : op.Admitted table k) (hstep : FileStep table procs op k k') :
    Consistent procs k' := by
  cases op with
  | openFile p vfsOpen =>
    obtain ⟨hp, r, hrun⟩ := hstep
    have hk := asProc_consistent p h
    cases sysOpen_ok.mp hrun with
    | noFile => exact hk
    | noEntry v hfull =>
      refine ⟨hk.counted, hk.unused, fun w => ?_⟩
      have hbalanced := hk.balanced w
      have hholders : (((k.asProc p).countOpen v).countClose v).holders w =
          (k.asProc p).holders w := rfl
      rw [hholders]
      by_cases hw : w = v
      · subst hw
        simp only [countClose_opens, countOpen_opens, countClose_closes,
          countOpen_closes, update_self]
        omega
      · simpa [hw] using hbalanced
    | noDescriptor v i hentry hfull =>
      rcases hadmitted with hnone | hhas
      · cases hnone
      · exact absurd hhas (not_hasDescriptor hentry hfull)
    | opened v i fd hentry hfd =>
      obtain ⟨hi, hfree⟩ := freeEntry_some hentry
      obtain ⟨hlt, hnull⟩ := freeDescriptor_some hfd
      exact consistent_opened hk hp hi hfree hlt hnull
  | close p fd =>
    obtain ⟨hp, r, hrun⟩ := hstep
    have hk := asProc_consistent p h
    cases sysClose_ok hrun with
    | refused fd hnull => exact hk
    | descriptor fd i hfd hof => exact consistent_closed hk hinside hp hfd hof
    | pastEnd proc i hproc hof =>
      have hfree : (k.systemFileTable i).vn = none := hadmitted rfl proc i hproc hof
      have hclosing : (k.systemFileTable i).closing = none := by simp [closing, hfree]
      have hdropped : (k.systemFileTable i).dropped.vn = none := by simp [dropped, hfree]
      show Consistent procs (closeVnode _ (k.systemFileTable i).closing)
      rw [hclosing]
      exact consistent_unusedEntry hk _ hfree hdropped

lemma fileStep_breaks (h : Consistent procs k) (hadmitted : ¬ op.Admitted table k)
    (hstep : FileStep table procs op k k') : ¬ Consistent procs k' := by
  cases op with
  | openFile p vfsOpen =>
    obtain ⟨hp, r, hrun⟩ := hstep
    cases sysOpen_ok.mp hrun with
    | noFile => exact absurd (.inl rfl) hadmitted
    | noEntry v hfull =>
      refine absurd (.inr ?_) hadmitted
      rintro ⟨i, hi, hfree⟩
      exact absurd hfree (freeEntry_none.mp hfull i hi)
    | noDescriptor v i hentry hfull =>
      obtain ⟨hi, hfree⟩ := freeEntry_some hentry
      exact not_consistent_leaked (asProc_consistent p h) hi hfree
    | opened v i fd hentry hfd =>
      exact absurd (.inr (hasDescriptor_of_freeDescriptor hfd)) hadmitted
  | close p fd =>
    obtain ⟨hp, r, hrun⟩ := hstep
    simp only [FileOp.Admitted, not_forall] at hadmitted
    obtain ⟨rfl, proc, i, hproc, hof, hvn⟩ := hadmitted
    have hcur : (k.asProc p).system.procs (k.asProc p).system.curproc = some proc := hproc
    have hk := asProc_consistent p h
    cases sysClose_ok hrun with
    | refused fd hnull => simp [hnull rfl proc hcur] at hof
    | descriptor fd i' hfd hof' => exact absurd hfd (Nat.lt_irrefl _)
    | pastEnd proc' i' hproc' hof' =>
      obtain rfl : proc = proc' := by simpa [hcur] using hproc'
      obtain rfl : i = i' := by simpa [hof] using hof'
      exact not_consistent_undercounted hk _ (pointerAt_entry hof) hvn

lemma failedOpen_tables (hrun : (sysOpen vfsOpen).run (k.asProc p) = .ok (.error e) k') :
    (k'.systemFileTable = k.systemFileTable ∧ k'.fileTable = k.fileTable) ↔
      (FileOp.openFile p vfsOpen).Admitted table k := by
  cases sysOpen_ok.mp hrun with
  | noFile => exact iff_of_true ⟨rfl, rfl⟩ (.inl rfl)
  | noEntry v hfull =>
    refine iff_of_true ⟨rfl, rfl⟩ (.inr ?_)
    rintro ⟨i, hi, hfree⟩
    exact absurd hfree (freeEntry_none.mp hfull i hi)
  | noDescriptor v i hentry hfull =>
    refine iff_of_false ?_ ?_
    · rintro ⟨htable, -⟩
      have hfree : (k.systemFileTable i).vn = none := (freeEntry_some hentry).2
      have hvn := congrArg OpenFile.vn (congrFun htable i)
      simp [freshEntry, hfree] at hvn
    rintro (hnone | hhas)
    · cases hnone
    · exact not_hasDescriptor hentry hfull hhas

end Runs

-- The tables agree along a run exactly as long as no open finds an entry but no descriptor for
-- it, and no close of OPEN_MAX decrements an entry in use.
theorem file_tables_agree (table : Word) (procs : Finset Nat) (k : Kernel) (ops : List FileOp)
    (hconsistent : Consistent procs k) (hinside : Inside procs k) :
    (Run.Always (FileStep table procs) (Consistent procs) ops k ↔
      Run.Guarded (FileStep table procs) (FileOp.Admitted table) ops k) ∧
    ∀ (k k' : Kernel) (p : Nat) (vfsOpen : Option Nat) (e : Word),
      (sysOpen vfsOpen).run (k.asProc p) = .ok (.error e) k' →
      ((k'.systemFileTable = k.systemFileTable ∧ k'.fileTable = k.fileTable) ↔
        (FileOp.openFile p vfsOpen).Admitted table k) := by
  refine ⟨?_, fun k k' p vfsOpen e hrun => failedOpen_tables hrun⟩
  refine Run.always_iff_guarded (fun k (h : Consistent procs k ∧ Inside procs k) => h.1) ?_ ?_ ops
    ⟨hconsistent, hinside⟩
  · intro op k k' h hadmitted hstep
    exact ⟨fileStep_keeps h.1 h.2 hadmitted hstep, fileStep_inside h.2 hstep⟩
  · intro op k k' h hadmitted hstep
    exact fileStep_breaks h.1 hadmitted hstep

def filled (n : Nat) : Kernel where
  system := (booted (powerOn smallRam) 0 zeroProc).setCurproc 1
  systemFileTable := fun i => if i < n then freshEntry 9 else ⟨none, 0#64, 0#32⟩
  fileTable := fun p fd => if p = 1 ∧ 3 ≤ fd ∧ fd < 3 + n then some (fd - 3) else none
  opens := fun v => if v = 9 then n else 0
  closes := fun _ => 0

lemma filled_asProc (n : Nat) : (filled n).asProc 1 = filled n := rfl

lemma filled_freeEntry (hn : n < SYSTEM_OPEN_MAX) : (filled n).freeEntry = some n := by
  refine List.find?_range'_eq_some.mpr ⟨by simp [filled], by simp [List.mem_range'_1, hn], ?_⟩
  intro j _ hj
  simp [filled, hj, freshEntry]

lemma filled_freeDescriptor (hn : n < 125) :
    (filled n).freeDescriptor = some (n + 3) := by
  refine List.find?_range'_eq_some.mpr ⟨?_, ?_, fun j hlo hj => ?_⟩
  · simp [filled, Nat.add_comm]
  · rw [List.mem_range'_1]
    simp only [STDERR_FILENO, OPEN_MAX]
    omega
  · have hlo' : 3 ≤ j := hlo
    simp [filled, hlo', show j < 3 + n by omega]

lemma filled_full : (filled 125).freeDescriptor = none := by
  refine freeDescriptor_none.mpr fun fd hlo hhi => ?_
  have hlo' : 3 ≤ fd := hlo
  have hhi' : fd < 3 + 125 := hhi
  simp [filled, hlo', hhi']

lemma filled_succ (n : Nat) :
    (((filled n).countOpen 9).setOpenfile n (freshEntry 9)).setDescriptor 1 (n + 3) (some n) =
      filled (n + 1) := by
  ext1
  · rfl
  · funext i
    by_cases hi : i = n
    · subst hi
      simp [filled]
    have hlt : i < n + 1 ↔ i < n := by omega
    simp only [filled, setDescriptor_systemFileTable,
      setOpenfile_systemFileTable, countOpen_systemFileTable,
      update_of_ne hi, hlt]
  · funext p fd
    by_cases hp : p = 1
    · subst hp
      by_cases hfd : fd = n + 3
      · subst hfd
        simp [filled, Nat.add_comm]
      have hlt : fd < 3 + (n + 1) ↔ fd < 3 + n := by omega
      simp only [filled, setDescriptor_fileTable, setOpenfile_fileTable,
        countOpen_fileTable, update_self, update_of_ne hfd, hlt]
    · simp [filled, hp]
  · funext v
    by_cases hv : v = 9
    · subst hv
      simp [filled]
    · simp [filled, hv]
  · rfl

lemma filled_open (hn : n < 125) (table : Word) :
    FileStep table {1} (.openFile 1 (some 9)) (filled n) (filled (n + 1)) := by
  have hentry := filled_freeEntry (n := n) (by simp only [SYSTEM_OPEN_MAX, OPEN_MAX]; omega)
  refine ⟨by simp, .ok (n + 3), ?_⟩
  rw [filled_asProc, ← filled_succ]
  exact sysOpen_ok.mpr (.opened 9 n (n + 3) hentry (filled_freeDescriptor hn))

lemma filled_leak (table : Word) : FileStep table {1} (.openFile 1 (some 9)) (filled 125)
    ((((filled 125).countOpen 9).setOpenfile 125 (freshEntry 9)).countClose 9) := by
  have hentry := filled_freeEntry (n := 125) (by decide)
  refine ⟨by simp, .error EMFILE, ?_⟩
  rw [filled_asProc]
  exact sysOpen_ok.mpr (.noDescriptor 9 125 hentry filled_full)

lemma filled_not_always (hmn : n + m = 125) : ¬ Run.Always (FileStep 0#32 {1}) (Consistent {1})
      (List.replicate (m + 1) (.openFile 1 (some 9))) (filled n) := by
  induction m generalizing n with
  | zero =>
    obtain rfl : n = 125 := by omega
    rintro ⟨hconsistent, hrest⟩
    refine not_consistent_leaked hconsistent (by decide) ?_ (hrest _ (filled_leak 0#32))
    exact (freeEntry_some (filled_freeEntry (by decide))).2
  | succ m ih =>
    rintro ⟨-, hrest⟩
    exact ih (n := n + 1) (by omega) (hrest _ (filled_open (by omega) 0#32))

lemma filled_zero_consistent : Consistent {1} (filled 0) := by
  refine ⟨fun i _ hvn => absurd rfl hvn, fun i _ _ => ?_, fun v => ?_⟩
  · refine pointers_eq_zero.mpr fun p _ fd _ hof => ?_
    have hnone : (filled 0).fileTable p fd = none := if_neg (by omega)
    rw [hnone] at hof
    cases hof
  have hholders : (filled 0).holders v = 0 :=
    count_eq_zero.mpr fun i _ hvn => by simp [filled] at hvn
  rw [hholders]
  simp [filled]

lemma filled_zero_inside : Inside {1} (filled 0) := by
  intro p _ fd _ i hof
  have hnone : (filled 0).fileTable p fd = none := if_neg (by omega)
  rw [hnone] at hof
  cases hof

theorem open_leaks_entry : Consistent {1} (filled 0) ∧ Inside {1} (filled 0) ∧
    ¬ Run.Always (FileStep 0#32 {1}) (Consistent {1})
      (List.replicate 126 (.openFile 1 (some 9))) (filled 0) :=
  ⟨filled_zero_consistent, filled_zero_inside, filled_not_always (m := 125) rfl⟩

theorem file_tables_agree_filled :
    Run.Always (FileStep 0#32 {1}) (Consistent {1}) [.openFile 1 (some 9)] (filled 0) := by
  have h := file_tables_agree 0#32 {1} (filled 0) [.openFile 1 (some 9)] filled_zero_consistent
    filled_zero_inside
  exact h.1.mpr fun k hstep => ⟨.inr fun _ => ⟨3, by decide, by decide, rfl⟩, trivial⟩

end Os161.File
