import Os161.File.Io.Theorems

namespace Os161.File

open Lib Lib.Exec Vm Process BitVec EStateM

def Rw.vop : Rw → Transfer → VopResult
  | .read, t => t.vopRead
  | .write, t => t.vopWrite

def Rw.OnConsole : Rw → Word → Prop
  | .read, fd => fd = BitVec.ofNat 32 STDIN_FILENO
  | .write, fd => fd = BitVec.ofNat 32 STDOUT_FILENO ∨ fd = BitVec.ofNat 32 STDERR_FILENO

instance (rw : Rw) (fd : Word) : Decidable (rw.OnConsole fd) := by
  cases rw <;> unfold Rw.OnConsole <;> infer_instance

-- What the operation behind a call comes to: an error code when the vnode layer reports one, or a
-- transfer for an open file or for the console.
inductive Outcome where
  | failed (error : Option Word)
  | moved (count : Nat) (entry : Option Nat)
  deriving DecidableEq, Repr

-- The console has moved the characters that have gone through it. It does nothing for a size
-- that is negative as an int.
def Transfer.outcome (t : Transfer) (rw : Rw) (table : Word) (k : Kernel) (passed : Nat) :
    Outcome :=
  if rw.OnConsole t.fd then
    if t.size.toInt < 0 then .failed none else .moved passed none
  else if Refuses t.fd then .failed none
  else match k.word table t.fd.toNat with
    | none => .failed none
    | some .astray => .failed none
    | some (.entry i) =>
      match (k.systemFileTable i).vn with
      | none => .failed none
      | some _ =>
        if (rw.vop t).result ≠ 0#32 then .failed (some (rw.vop t).result)
        else .moved (rw.vop t).moved.toNat (some i)

def Kernel.advance (k : Kernel) (count : Nat) : Option Nat → Kernel
  | none => k
  | some i => k.setOpenfile i { k.systemFileTable i with
      offset := (k.systemFileTable i).offset + BitVec.ofNat 64 count }

def Outcome.Reported (ans : Answer) (k k' : Kernel) : Outcome → Prop
  | .failed error => ans.a3 = 1#32 ∧ ans.v0 ≠ 0#32 ∧ (∀ e, error = some e → ans.v0 = e) ∧ k' = k
  | .moved count entry => ans.a3 = 0#32 ∧ ans.v0.toNat = count ∧ k' = k.advance count entry

def Reports (table : Word) (rw : Rw) (t : Transfer) (k : Kernel) : Prop :=
  ∃ ans m, (syscallIo table rw t).run (.start k) = .ok ans m ∧
    (t.outcome rw table k m.console.length).Reported ans k m.kernel

-- On the console the buffer can be accessed and no character typed has its high bit set; for
-- an open file the vnode operation succeeds, and moves less than 2^31 bytes.
def Transfer.Plain (t : Transfer) (rw : Rw) (table : Word) (k : Kernel) : Prop :=
  if rw.OnConsole t.fd then
    t.size.toInt < 0 ∨ ∀ i < t.size.toNat,
      (t.buffer i).isSome = true ∧ (rw = .read → t.typed i < 0x80)
  else Refuses t.fd ∨ k.word table t.fd.toNat ≠ some .astray ∧
    ∀ i vn, k.word table t.fd.toNat = some (.entry i) → (k.systemFileTable i).vn = some vn →
      (rw.vop t).result = 0#32 ∧ 0 ≤ (rw.vop t).moved.toInt

section Answers

lemma answer_neg (h : r.toInt < 0) :
    answer r (if r.toInt < 0 then ENOSYS else 0#32) = ⟨ENOSYS, 1#32⟩ := by
  rw [if_pos h]
  rfl

lemma answer_nonneg (h : 0 ≤ r.toInt) :
    answer r (if r.toInt < 0 then ENOSYS else 0#32) = ⟨r, 0#32⟩ := by
  rw [if_neg (by omega)]
  rfl

lemma reported_failed (k : Kernel) : (Outcome.failed none).Reported ⟨ENOSYS, 1#32⟩ k k :=
  ⟨rfl, by decide, fun e he => (by cases he), rfl⟩

lemma not_reported_error : ¬ (Outcome.failed (some r)).Reported
        (answer r (if r.toInt < 0 then ENOSYS else 0#32)) k k' := by
  rintro ⟨ha3, -, hv0, -⟩
  by_cases hneg : r.toInt < 0
  · rw [answer_neg hneg] at hv0
    rw [← hv0 r rfl] at hneg
    revert hneg
    decide
  rw [answer_nonneg (by omega)] at ha3
  have ha3 : 0#32 = 1#32 := ha3
  revert ha3
  decide

end Answers

section FileRuns

lemma fileIo_refused (hfd : Refuses fd) (m : Session) :
    (fileIo table vop fd size).run m = .ok (-1#32) m := by
  rw [(looks_fileIo table vop fd size).refuses hfd]
  rfl

lemma fileIo_found (hfd : ¬ Refuses fd) (hword : m.kernel.word table fd.toNat ≠ some .astray) :
    (fileIo table vop fd size).run m =
      (pointerIo vop size (m.kernel.word table fd.toNat)).run (m.index fd.toNat) := by
  rw [(looks_fileIo table vop fd size).reads hfd]
  rcases tableEntry_run table fd.toNat m with hrun | ⟨hastray, -⟩
  · rw [bind_run_ok hrun]
  · exact absurd hastray hword

lemma fileIo_astray (hfd : ¬ Refuses fd) (hword : m.kernel.word table fd.toNat = some .astray) :
    (fileIo table vop fd size).run m = .error .dangling (m.index fd.toNat) := by
  rw [(looks_fileIo table vop fd size).reads hfd]
  rcases tableEntry_run table fd.toNat m with hrun | ⟨-, hrun⟩
  · rw [bind_run_ok hrun, hword]
    rfl
  · exact bind_run_error hrun _

lemma pointerIo_error (hvn : (m.kernel.systemFileTable i).vn = some vn)
    (hresult : vop.result ≠ 0#32) :
    (pointerIo vop size (some (.entry i))).run m = .ok vop.result m := by
  unfold pointerIo entryIo
  rw [bind_run_ok (run_get m), hvn]
  simp only [if_pos hresult]
  rfl

lemma size_sub_resid (of : OpenFile) (size : Word) (vop : VopResult) :
    size - (of.uio size vop).resid = vop.moved := by
  unfold OpenFile.uio Uio.move
  bv_omega

lemma pointerIo_moved (hvn : (m.kernel.systemFileTable i).vn = some vn)
    (hresult : vop.result = 0#32) :
    (pointerIo vop size (some (.entry i))).run m = .ok vop.moved
      { m with kernel := m.kernel.advance vop.moved.toNat (some i) } := by
  have hkernel : (modify fun k => k.setOpenfile i { k.systemFileTable i with
      offset := ((k.systemFileTable i).uio size vop).offset } : Syscall Unit).run m.kernel =
        .ok () (m.kernel.advance vop.moved.toNat (some i)) := by
    rw [run_modify]
    unfold Kernel.advance OpenFile.uio Uio.move
    rw [ofNat_toNat]
  unfold pointerIo entryIo
  rw [bind_run_ok (run_get m), hvn]
  simp only [hresult, ne_eq, not_true_eq_false, if_false]
  rw [bind_run_ok (onKernel_run_ok hkernel), size_sub_resid]
  rfl

lemma pointerIo_closed (hastray : of ≠ some .astray)
    (hclosed : ∀ i vn, of = some (.entry i) → (m.kernel.systemFileTable i).vn ≠ some vn) :
    (pointerIo vop size of).run m = .ok (-1#32) m := by
  rcases of with _ | (i | _)
  · rfl
  · have hvn : (m.kernel.systemFileTable i).vn = none :=
      Option.eq_none_iff_forall_ne_some.mpr fun vn => hclosed i vn rfl
    unfold pointerIo entryIo
    rw [bind_run_ok (run_get m), hvn]
    rfl
  · exact absurd rfl hastray

end FileRuns

section Reports

variable {rw : Rw} {t : Transfer}

lemma syscallIo_run (h : (sysIo table rw t).run (.start k) = .ok r m) :
    (syscallIo table rw t).run (.start k) =
      .ok (answer r (if r.toInt < 0 then ENOSYS else 0#32)) m := by
  unfold syscallIo
  rw [bind_run_ok h]
  rfl

lemma reports_iff (h : (sysIo table rw t).run (.start k) = .ok r m) :
    Reports table rw t k ↔ (t.outcome rw table k m.console.length).Reported
      (answer r (if r.toInt < 0 then ENOSYS else 0#32)) k m.kernel := by
  unfold Reports
  rw [syscallIo_run h]
  constructor
  · rintro ⟨ans, m', heq, hreported⟩
    obtain ⟨rfl, rfl⟩ := EStateM.Result.ok.inj heq
    exact hreported
  · intro hreported
    exact ⟨_, m, rfl, hreported⟩

lemma not_reports (h : (sysIo table rw t).run (.start k) = .error e m) :
    ¬ Reports table rw t k := by
  rintro ⟨ans, m', hrun, -⟩
  unfold syscallIo at hrun
  rw [bind_run_error h] at hrun
  cases hrun

lemma sysIo_file (h : ¬ rw.OnConsole t.fd) :
    sysIo table rw t = fileIo table (rw.vop t) t.fd t.size := by
  cases rw with
  | read => exact if_pos h
  | write => exact if_pos (not_or.mp h)

section OpenFiles

variable (h : ¬ rw.OnConsole t.fd) (hfd : ¬ Refuses t.fd)
include h hfd

lemma sysIo_found (hastray : k.word table t.fd.toNat ≠ some .astray) :
    (sysIo table rw t).run (.start k) =
      (pointerIo (rw.vop t) t.size (k.word table t.fd.toNat)).run
        (Session.index (.start k) t.fd.toNat) := by
  rw [sysIo_file h]
  exact fileIo_found hfd hastray

lemma outcome_open (hword : k.word table t.fd.toNat = some (.entry i))
    (hvn : (k.systemFileTable i).vn = some vn) (passed : Nat) :
    t.outcome rw table k passed = if (rw.vop t).result ≠ 0#32 then
      .failed (some (rw.vop t).result) else .moved (rw.vop t).moved.toNat (some i) := by
  unfold Transfer.outcome
  rw [if_neg h, if_neg hfd, hword]
  simp only [hvn]

lemma outcome_closed (hclosed : ∀ i vn, k.word table t.fd.toNat = some (.entry i) →
    (k.systemFileTable i).vn ≠ some vn) (passed : Nat) :
    t.outcome rw table k passed = .failed none := by
  unfold Transfer.outcome
  rw [if_neg h, if_neg hfd]
  rcases hword : k.word table t.fd.toNat with _ | (i | _)
  · rfl
  · have hvn : (k.systemFileTable i).vn = none :=
      Option.eq_none_iff_forall_ne_some.mpr fun vn => hclosed i vn hword
    simp only [hvn]
  · rfl

-- A positive error code looks like a number of bytes, and a number of bytes from 2^31 on looks
-- like an error.
lemma reports_open_iff (hword : k.word table t.fd.toNat = some (.entry i))
    (hvn : (k.systemFileTable i).vn = some vn) :
    Reports table rw t k ↔ (rw.vop t).result = 0#32 ∧ 0 ≤ (rw.vop t).moved.toInt := by
  have hastray : k.word table t.fd.toNat ≠ some .astray := by
    rw [hword]
    simp
  have hrun := sysIo_found h hfd hastray
  have hvn' : ((Session.index (.start k) t.fd.toNat).kernel.systemFileTable i).vn = some vn := hvn
  rw [hword] at hrun
  by_cases hresult : (rw.vop t).result = 0#32
  · rw [pointerIo_moved hvn' hresult] at hrun
    rw [reports_iff hrun, outcome_open h hfd hword hvn, if_neg (not_not.mpr hresult)]
    by_cases hneg : (rw.vop t).moved.toInt < 0
    · rw [answer_neg hneg]
      refine iff_of_false (fun hreported => ?_) (by omega)
      exact absurd hreported.1 (by decide)
    · rw [answer_nonneg (by omega)]
      exact iff_of_true ⟨rfl, rfl, rfl⟩ ⟨hresult, by omega⟩
  rw [pointerIo_error hvn' hresult] at hrun
  rw [reports_iff hrun, outcome_open h hfd hword hvn, if_pos hresult]
  exact iff_of_false not_reported_error (fun hgood => hresult hgood.1)

lemma reports_closed (hastray : k.word table t.fd.toNat ≠ some .astray)
    (hclosed : ∀ i vn, k.word table t.fd.toNat = some (.entry i) →
      (k.systemFileTable i).vn ≠ some vn) : Reports table rw t k := by
  have hrun := sysIo_found h hfd hastray
  rw [pointerIo_closed hastray hclosed] at hrun
  rw [reports_iff hrun, answer_neg (by decide), outcome_closed h hfd hclosed]
  exact reported_failed k

end OpenFiles

section

variable (h : ¬ rw.OnConsole t.fd)

include h

lemma reports_refused (hfd : Refuses t.fd) : Reports table rw t k := by
  have hrun : (sysIo table rw t).run (.start k) = .ok (-1#32) (.start k) := by
    rw [sysIo_file h]
    exact fileIo_refused hfd _
  have hout : ∀ passed, t.outcome rw table k passed = .failed none := by
    intro passed
    unfold Transfer.outcome
    rw [if_neg h, if_pos hfd]
  rw [reports_iff hrun, answer_neg (by decide), hout]
  exact reported_failed k

lemma not_reports_astray (hfd : ¬ Refuses t.fd)
    (hastray : k.word table t.fd.toNat = some .astray) : ¬ Reports table rw t k := by
  have hrun : (sysIo table rw t).run (.start k) =
      .error .dangling (Session.index (.start k) t.fd.toNat) := by
    rw [sysIo_file h]
    exact fileIo_astray hfd hastray
  exact not_reports hrun

lemma reports_file_iff : Reports table rw t k ↔ t.Plain rw table k := by
  unfold Transfer.Plain
  rw [if_neg h]
  by_cases hfd : Refuses t.fd
  · exact iff_of_true (reports_refused h hfd) (.inl hfd)
  by_cases hastray : k.word table t.fd.toNat = some .astray
  · exact iff_of_false (not_reports_astray h hfd hastray) (by simp [hfd, hastray])
  by_cases hopen : ∃ i vn, k.word table t.fd.toNat = some (.entry i) ∧
      (k.systemFileTable i).vn = some vn
  · obtain ⟨i, vn, hword, hvn⟩ := hopen
    rw [reports_open_iff h hfd hword hvn]
    constructor
    · intro hgood
      exact .inr ⟨hastray, fun _ _ _ _ => hgood⟩
    rintro (hrefuses | ⟨-, hall⟩)
    · exact absurd hrefuses hfd
    · exact hall i vn hword hvn
  have hclosed : ∀ i vn, k.word table t.fd.toNat = some (.entry i) →
      (k.systemFileTable i).vn ≠ some vn :=
    fun i vn hword hvn => hopen ⟨i, vn, hword, hvn⟩
  exact iff_of_true (reports_closed h hfd hastray hclosed)
    (.inr ⟨hastray, fun i vn hword hvn => absurd hvn (hclosed i vn hword)⟩)

end

section Console

lemma loopCount_neg (h : t.size.toInt < 0) : loopCount t.size = 0 := by
  unfold loopCount
  omega

lemma loopCount_nonneg (h : 0 ≤ t.size.toInt) :
    loopCount t.size = t.size.toNat ∧ t.size.toNat < 0x80000000 := by
  have hcond := toInt_eq_toNat_cond t.size
  have hlt := t.size.isLt
  unfold loopCount
  split at hcond <;> omega

lemma sysWrite_console (h : Rw.write.OnConsole t.fd) :
    sysWrite table t = putChars t (loopCount t.size) 0 >>= fun _ => pure t.size := by
  refine if_neg fun hfile => ?_
  rcases h with h | h
  · exact hfile.1 h
  · exact hfile.2 h

lemma sysRead_console (h : Rw.read.OnConsole t.fd) :
    sysRead table t = getChars t (loopCount t.size) 0 >>= fun early =>
      pure ((early.map (BitVec.ofNat 32)).getD t.size) :=
  if_neg (not_not.mpr h)

lemma outcome_console (h : rw.OnConsole t.fd) (hsize : 0 ≤ t.size.toInt) (passed : Nat) :
    t.outcome rw table k passed = .moved passed none := by
  unfold Transfer.outcome
  rw [if_pos h, if_neg (by omega)]

lemma reports_console (h : rw.OnConsole t.fd) (hsize : 0 ≤ t.size.toInt)
    (hlen : cs.length = t.size.toNat)
    (hrun : (sysIo table rw t).run (.start k) = .ok t.size (Session.pass (.start k) cs)) :
    Reports table rw t k := by
  rw [reports_iff hrun, answer_nonneg hsize, outcome_console h hsize]
  exact ⟨rfl, hlen.symm, rfl⟩

lemma reports_console_neg (h : rw.OnConsole t.fd) (hsize : t.size.toInt < 0) :
    Reports table rw t k := by
  have hrun : (sysIo table rw t).run (.start k) = .ok t.size (.start k) := by
    cases rw with
    | read =>
      show (sysRead table t).run _ = _
      rw [sysRead_console h, loopCount_neg hsize]
      rfl
    | write =>
      show (sysWrite table t).run _ = _
      rw [sysWrite_console h, loopCount_neg hsize]
      rfl
  have hout : ∀ passed, t.outcome rw table k passed = .failed none := by
    intro passed
    unfold Transfer.outcome
    rw [if_pos h, if_pos hsize]
  rw [reports_iff hrun, answer_neg hsize, hout]
  exact reported_failed k

lemma reports_write_iff (h : Rw.write.OnConsole t.fd) (hsize : 0 ≤ t.size.toInt) :
    Reports table .write t k ↔ ∀ i < t.size.toNat, (t.buffer i).isSome = true := by
  obtain ⟨hcount, -⟩ := loopCount_nonneg hsize
  by_cases hbuf : ∀ i < t.size.toNat, (t.buffer i).isSome = true
  · refine iff_of_true ?_ hbuf
    obtain ⟨cs, hlen, hput⟩ := putChars_run (t := t) (loopCount t.size) 0 (.start k) fun j _ hj =>
      hbuf j (by omega)
    refine reports_console h hsize (hlen.trans hcount) ?_
    show (sysWrite table t).run _ = _
    rw [sysWrite_console h, bind_run_ok hput]
    rfl
  refine iff_of_false ?_ hbuf
  obtain ⟨j, hj⟩ := not_forall.mp hbuf
  obtain ⟨hlt, hnone⟩ := Classical.not_imp.mp hj
  rw [Option.not_isSome_iff_eq_none] at hnone
  obtain ⟨m, hput⟩ := putChars_stops (t := t) (loopCount t.size) 0 (.start k) (Nat.zero_le j)
    (by omega) hnone
  refine not_reports (e := .dangling) (m := m) ?_
  show (sysWrite table t).run _ = _
  rw [sysWrite_console h]
  exact bind_run_error hput _

lemma reports_read_iff (h : Rw.read.OnConsole t.fd) (hsize : 0 ≤ t.size.toInt) :
    Reports table .read t k ↔
      ∀ i < t.size.toNat, (t.buffer i).isSome = true ∧ t.typed i < 0x80 := by
  obtain ⟨hcount, hsmall⟩ := loopCount_nonneg hsize
  by_cases hbuf : ∀ i < t.size.toNat, (t.buffer i).isSome = true ∧ t.typed i < 0x80
  · refine iff_of_true ?_ hbuf
    obtain ⟨cs, hlen, hget⟩ := getChars_run (t := t) (loopCount t.size) 0 (.start k) fun j _ hj =>
      hbuf j (by omega)
    refine reports_console h hsize (hlen.trans hcount) ?_
    show (sysRead table t).run _ = _
    rw [sysRead_console h, bind_run_ok hget]
    rfl
  refine iff_of_false ?_ hbuf
  obtain ⟨j, hj⟩ := not_forall.mp hbuf
  obtain ⟨hlt, hbad⟩ := Classical.not_imp.mp hj
  rcases getChars_early (t := t) (loopCount t.size) 0 (.start k) (Nat.zero_le j) (by omega) hbad
    with ⟨m, hget⟩ | ⟨n, cs, hn, hlen, hget⟩
  · refine not_reports (e := .dangling) (m := m) ?_
    show (sysRead table t).run _ = _
    rw [sysRead_console h]
    exact bind_run_error hget _
  have hrun : (sysIo table .read t).run (.start k) =
      .ok (BitVec.ofNat 32 n) (Session.pass (.start k) cs) := by
    show (sysRead table t).run _ = _
    rw [sysRead_console h, bind_run_ok hget, Nat.zero_add]
    rfl
  have hnat : (BitVec.ofNat 32 n).toNat = n := by
    rw [toNat_ofNat]
    omega
  have hnonneg : 0 ≤ (BitVec.ofNat 32 n).toInt := by
    rw [toInt_eq_toNat_cond, hnat, if_pos (by omega)]
    omega
  rw [reports_iff hrun, answer_nonneg hnonneg, outcome_console h hsize]
  rintro ⟨-, hv0, -⟩
  have hv0 : (BitVec.ofNat 32 n).toNat = cs.length := hv0
  omega

lemma reports_console_iff (h : rw.OnConsole t.fd) :
    Reports table rw t k ↔ t.Plain rw table k := by
  unfold Transfer.Plain
  rw [if_pos h]
  by_cases hsize : t.size.toInt < 0
  · exact iff_of_true (reports_console_neg h hsize) (.inl hsize)
  cases rw with
  | read =>
    rw [reports_read_iff h (by omega)]
    simp [hsize]
  | write =>
    rw [reports_write_iff h (by omega)]
    simp [hsize]

end Console

end Reports

theorem io_reported_iff (table : Word) (rw : Rw) (t : Transfer) (k : Kernel) :
    Reports table rw t k ↔ t.Plain rw table k := by
  by_cases h : rw.OnConsole t.fd
  · exact reports_console_iff h
  · exact reports_file_iff h

def openKernel : Kernel := strayKernel.setDescriptor 0 3 (some 0)

def failedRead : Transfer := { strayTransfer with fd := 3#32, vopRead := ⟨32#32, 0#32⟩ }

theorem failed_read_reported_as_count :
    failedRead.outcome .read 0x80040000#32 openKernel 0 = .failed (some 32#32) ∧
      ∃ m, (syscallIo 0x80040000#32 .read failedRead).run (.start openKernel) =
        .ok ⟨32#32, 0#32⟩ m :=
  ⟨rfl, ⟨_, rfl⟩⟩

end Os161.File
