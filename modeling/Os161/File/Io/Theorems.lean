import Os161.File.Io.Lemmas
import Os161.Process.Keys

namespace Os161.File

open Lib Lib.Exec Lib.Hoare Vm Process List

def Session.start (k : Kernel) : Session := ⟨k, [], []⟩

-- A call uses the table inside its bounds only, and refuses every other descriptor with the
-- value `fails` before it has used the table or changed anything.
structure Guards {α : Type} (call : Io α) (fails : α) (fd : Word) (k : Kernel) : Prop where
  inside : ∀ i ∈ (finalState (call.run (.start k))).indexed, i < OPEN_MAX
  refused : ¬ (0 ≤ fd.toInt ∧ fd.toInt < OPEN_MAX) → call.run (.start k) = .ok fails (.start k)

abbrev Refuses (fd : Word) : Prop := fd.toInt < 0 ∨ (OPEN_MAX : Int) < fd.toInt

section Positions

variable {α : Type} {P : Session → Prop}

lemma preserves_onKernel (hP : ∀ m k, P m → P { m with kernel := k }) (x : Syscall α) :
    Preserves P (onKernel x) := by
  intro m hm
  cases hrun : x.run m.kernel with
  | ok a k =>
    rw [onKernel_run_ok hrun]
    exact hP m k hm
  | error e k =>
    rw [onKernel_run_error hrun]
    exact hP m k hm

lemma preserves_pointerIo (hkernel : ∀ m k, P m → P { m with kernel := k })
    (of : Option Pointer) : Preserves P (pointerIo vop size of) := by
  rcases of with _ | (i | _)
  · exact preserves_pure _
  · refine preserves_read fun m => ?_
    cases (m.kernel.systemFileTable i).vn with
    | none => exact preserves_pure _
    | some vn =>
      by_cases hresult : vop.result ≠ 0#32
      · simp only [if_pos hresult]
        exact preserves_pure _
      · simp only [if_neg hresult]
        exact preserves_bind (preserves_onKernel hkernel _) fun _ => preserves_pure _
  · exact preserves_throw _

lemma preserves_closePointer (hkernel : ∀ m k, P m → P { m with kernel := k }) {fd : Nat}
    (hindex : ∀ m, P m → P (m.index fd)) (of : Option Pointer) :
    Preserves P (closePointer fd of) := by
  cases of with
  | none => exact preserves_pure _
  | some of =>
    have hclear : Preserves P (clearEntry fd) :=
      preserves_bind (preserves_modify hindex) fun _ => preserves_onKernel hkernel _
    exact preserves_bind hclear fun _ => preserves_onKernel hkernel _

end Positions

structure Looks {α : Type} (table : Word) (call : Io α) (fails : α)
    (rest : Option Pointer → Io α) (fd : Word) : Prop where
  refuses : Refuses fd → call = pure fails
  reads : ¬ Refuses fd → call = tableEntry table fd.toNat >>= rest
  keeps : ∀ P : Session → Prop, (∀ m k, P m → P { m with kernel := k }) →
    (∀ m, P m → P (m.index fd.toNat)) → ∀ of, Preserves P (rest of)

section Bounds

variable {α : Type} {call : Io α} {fails : α} {fd : Word}

lemma tableEntry_indexed (table : Word) (n : Nat) :
    Establishes (fun m => n ∈ m.indexed) (tableEntry table n) := by
  intro m
  rcases tableEntry_run table n m with hrun | ⟨-, hrun⟩
  · rw [hrun]
    exact mem_append_right _ (mem_singleton_self n)
  · rw [hrun]
    exact mem_append_right _ (mem_singleton_self n)

lemma index_inside (hn : n < OPEN_MAX) (m : Session)
    (hm : ∀ i ∈ m.indexed, i < OPEN_MAX) : ∀ i ∈ (m.index n).indexed, i < OPEN_MAX := by
  intro i hi
  rcases mem_append.mp hi with hi | hi
  · exact hm i hi
  · rw [mem_singleton.mp hi]
    exact hn

lemma tableEntry_inside (table : Word) (hn : n < OPEN_MAX) :
    Preserves (fun m => ∀ i ∈ m.indexed, i < OPEN_MAX) (tableEntry table n) :=
  preserves_bind (preserves_modify (index_inside hn)) fun _ =>
    preserves_onKernel (fun _ _ hm => hm) _

lemma toInt_of_not_refuses (hfd : ¬ Refuses fd) :
    fd.toInt = (fd.toNat : Int) ∧ fd.toInt ≤ OPEN_MAX := by
  obtain ⟨hpos, hle⟩ := not_or.mp hfd
  have hcond := BitVec.toInt_eq_toNat_cond fd
  have hlt := fd.isLt
  split at hcond <;> omega

lemma Looks.guards_iff (h : Looks table call fails rest fd) (k : Kernel) :
    Guards call fails fd k ↔ fd.toInt ≠ OPEN_MAX := by
  by_cases hfd : Refuses fd
  · rw [h.refuses hfd]
    refine iff_of_true ⟨fun i hi => ?_, fun _ => rfl⟩ (by omega)
    cases hi
  obtain ⟨htoInt, hle⟩ := toInt_of_not_refuses hfd
  rw [h.reads hfd]
  by_cases hmax : fd.toInt = OPEN_MAX
  · refine iff_of_false (fun hguards => ?_) (not_not.mpr hmax)
    have hmem : fd.toNat ∈
        (finalState ((tableEntry table fd.toNat >>= rest).run (.start k))).indexed :=
      establishes_bind (tableEntry_indexed table fd.toNat)
        (h.keeps (fun m => fd.toNat ∈ m.indexed) (fun _ _ hm => hm)
          fun m hm => mem_append_left _ hm) (.start k)
    have := hguards.inside _ hmem
    omega
  refine iff_of_true ⟨?_, fun hout => absurd (by omega) hout⟩ hmax
  have hn : fd.toNat < OPEN_MAX := by omega
  have hinside := preserves_bind (tableEntry_inside table hn)
    (h.keeps (fun m => ∀ i ∈ m.indexed, i < OPEN_MAX) (fun _ _ hm => hm) (index_inside hn))
  exact hinside (.start k) fun i hi => by cases hi

lemma looks_fileIo (table : Word) (vop : VopResult) (fd size : Word) :
    Looks table (fileIo table vop fd size) (-1#32) (pointerIo vop size) fd where
  refuses := fun hfd => if_pos hfd
  reads := fun hfd => if_neg hfd
  keeps := fun _ hkernel _ of => preserves_pointerIo hkernel of

lemma looks_closeEntry (table fd : Word) :
    Looks table (closeEntry table fd) (-1) (closePointer fd.toNat) fd where
  refuses := fun hfd => if_pos hfd
  reads := fun hfd => if_neg hfd
  keeps := fun _ hkernel hindex of => preserves_closePointer hkernel hindex of

lemma passChar_indexed (n : List Nat) (c : UInt8) :
    Preserves (fun m => m.indexed = n) (passChar c) := fun _ hm => hm

section

variable (n : List Nat) (t : Transfer) (count : Nat)

lemma putChars_indexed : ∀ i,
    Preserves (fun m => m.indexed = n) (putChars t count i) := by
  induction count with
  | zero => exact fun i => preserves_pure _
  | succ count ih =>
    intro i
    unfold putChars
    cases t.buffer i with
    | none => exact preserves_throw _
    | some c => exact preserves_bind (passChar_indexed n c) fun _ => ih (i + 1)

lemma getChars_indexed : ∀ i,
    Preserves (fun m => m.indexed = n) (getChars t count i) := by
  induction count with
  | zero => exact fun i => preserves_pure _
  | succ count ih =>
    intro i
    unfold getChars
    by_cases hbuf : (t.buffer i).isNone = true
    · rw [if_pos hbuf]
      exact preserves_throw _
    rw [if_neg hbuf]
    refine preserves_bind (passChar_indexed n _) fun _ => ?_
    by_cases hascii : 0x80 ≤ t.typed i
    · rw [if_pos hascii]
      exact preserves_pure _
    · rw [if_neg hascii]
      exact ih (i + 1)

end

lemma guards_of_console (h : Preserves (fun m => m.indexed = []) call)
    (hfd : 0 ≤ fd.toInt ∧ fd.toInt < OPEN_MAX) (k : Kernel) : Guards call fails fd k where
  inside := fun i hi => by
    rw [h (.start k) rfl] at hi
    cases hi
  refused := fun hout => absurd hfd hout

end Bounds

section

variable (table : Word) (t : Transfer) (k : Kernel)

lemma guards_sysWrite :
    Guards (sysWrite table t) (-1#32) t.fd k ↔ t.fd.toInt ≠ OPEN_MAX := by
  unfold sysWrite
  by_cases hfile : t.fd ≠ BitVec.ofNat 32 STDOUT_FILENO ∧ t.fd ≠ BitVec.ofNat 32 STDERR_FILENO
  · rw [if_pos hfile]
    exact (looks_fileIo table t.vopWrite t.fd t.size).guards_iff k
  rw [if_neg hfile]
  have hfd : t.fd = 1#32 ∨ t.fd = 2#32 := by
    rw [not_and_or, not_not, not_not] at hfile
    exact hfile
  refine iff_of_true (guards_of_console ?_ ?_ k) ?_
  · exact preserves_bind (putChars_indexed [] t _ 0) fun _ => preserves_pure _
  · rcases hfd with hfd | hfd <;> rw [hfd] <;> decide
  · rcases hfd with hfd | hfd <;> rw [hfd] <;> decide

lemma guards_sysRead :
    Guards (sysRead table t) (-1#32) t.fd k ↔ t.fd.toInt ≠ OPEN_MAX := by
  unfold sysRead
  by_cases hfile : t.fd ≠ BitVec.ofNat 32 STDIN_FILENO
  · rw [if_pos hfile]
    exact (looks_fileIo table t.vopRead t.fd t.size).guards_iff k
  rw [if_neg hfile]
  have hfd : t.fd = 0#32 := not_not.mp hfile
  refine iff_of_true (guards_of_console ?_ ?_ k) ?_
  · exact preserves_bind (getChars_indexed [] t _ 0) fun _ => preserves_pure _
  · rw [hfd]
    decide
  · rw [hfd]
    decide

end

theorem descriptors_checked_iff (table : Word) (k : Kernel) (t : Transfer) :
    (Guards (sysRead table t) (-1#32) t.fd k ↔ t.fd.toInt ≠ OPEN_MAX) ∧
      (Guards (sysWrite table t) (-1#32) t.fd k ↔ t.fd.toInt ≠ OPEN_MAX) ∧
      (Guards (closeEntry table t.fd) (-1) t.fd k ↔ t.fd.toInt ≠ OPEN_MAX) :=
  ⟨guards_sysRead table t k, guards_sysWrite table t k,
    (looks_closeEntry table t.fd).guards_iff k⟩

-- The word after the table happens to be the address of the second entry of systemFileTable.
def strayKernel : Kernel where
  system := booted smallMachine 0 { zeroProc with pid := 0x80040018#32 }
  systemFileTable := fun _ => ⟨some 7, 0#64, 1#32⟩
  fileTable := fun _ _ => none
  opens := fun _ => 0
  closes := fun _ => 0

def strayTransfer : Transfer where
  fd := 128#32
  size := 4#32
  vopRead := ⟨0#32, 4#32⟩
  vopWrite := ⟨0#32, 4#32⟩
  typed := fun _ => 0
  buffer := fun _ => some 0

theorem descriptor_past_table :
    (∃ m, (sysRead 0x80040000#32 strayTransfer).run (.start strayKernel) = .ok 4#32 m ∧
        m.indexed = [128]) ∧
      (∃ m, (sysWrite 0x80040000#32 strayTransfer).run (.start strayKernel) = .ok 4#32 m ∧
        m.indexed = [128]) ∧
      ∃ m, (closeEntry 0x80040000#32 128#32).run (.start strayKernel) = .ok 0 m ∧
        m.indexed = [128, 128] ∧ m.kernel.closes 7 = 1 :=
  ⟨⟨_, rfl, rfl⟩, ⟨_, rfl, rfl⟩, ⟨_, rfl, rfl, rfl⟩⟩

end Os161.File
