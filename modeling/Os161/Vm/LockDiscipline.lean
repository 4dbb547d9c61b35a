import Os161.Vm.Fault.Lemmas
import Os161.Vm.PageTable.Lemmas

namespace Os161.Vm

open Lib Lib.Exec Lib.Hoare EStateM State

inductive VmOp where
  | pageTableAddEntry (pid vaddr paddr status : Word)
  | pageTableGetPaddrEntry (pid vaddr : Word)
  | pageTableResetEntry (index : Int)
  | pageTableRemoveOnPids (pid : Word)
  | swapOut (pid vaddr permissionFlag paddr : Word)
  | swapIn (as : Nat) (pid vaddr : Word)
  | addEntry (indexTlb hi lo : Word)
  | readEntry (vaddr : Word)
  | resetTlb
  | resetTlbPidDifferent (currentPid : Word)
  | getppages (npages : Word)
  | freeppages (addr : Word)
  deriving DecidableEq, Repr

structure Idle (s : State) : Prop where
  free : ∀ lock, s.held lock = false
  io : s.ioUnderLock = false

def Disciplined {α : Type} (x : Kern α) (s : State) : Prop := ∃ a t, x.run s = .ok a t ∧ Idle t

def VmOp.Disciplined (env : Env) (s : State) : VmOp → Prop
  | .pageTableAddEntry pid vaddr paddr status =>
    Vm.Disciplined (Vm.pageTableAddEntry env pid vaddr paddr status) s
  | .pageTableGetPaddrEntry pid vaddr => Vm.Disciplined (Vm.pageTableGetPaddrEntry env pid vaddr) s
  | .pageTableResetEntry index => Vm.Disciplined (Vm.pageTableResetEntry env index) s
  | .pageTableRemoveOnPids pid => Vm.Disciplined (Vm.pageTableRemoveOnPids env pid) s
  | .swapOut pid vaddr permissionFlag paddr =>
    Vm.Disciplined (Vm.swapOut env pid vaddr permissionFlag paddr) s
  | .swapIn as pid vaddr => Vm.Disciplined (Vm.swapIn env as pid vaddr) s
  | .addEntry indexTlb hi lo => Vm.Disciplined (Vm.addEntry env indexTlb hi lo) s
  | .readEntry vaddr => Vm.Disciplined (Vm.readEntry env vaddr) s
  | .resetTlb => Vm.Disciplined (Vm.resetTlb env) s
  | .resetTlbPidDifferent currentPid => Vm.Disciplined (Vm.resetTlbPidDifferent env currentPid) s
  | .getppages npages => Vm.Disciplined (Vm.getppages env npages) s
  | .freeppages addr => Vm.Disciplined (Vm.freeppages env addr) s

-- Everything that is not `True` here is a path on which the code acquires a lock twice, keeps
-- one, does I/O under one, leaves the bounds of an array, or stops in an assertion.
def VmOp.Safe (env : Env) (s : State) : VmOp → Prop
  | .pageTableAddEntry _ _ paddr _ => frameIndex paddr < s.pageTable.length
  | .pageTableGetPaddrEntry _ _ => True
  | .pageTableResetEntry index => 0 ≤ index ∧ index < s.pageTable.length
  | .pageTableRemoveOnPids pid =>
    0 ≤ pid.toInt ∧ ∀ i < s.pageTable.length, (s.pageTable.nextEntry i).pid ≠ pid
  | .swapOut _ _ _ _ => False
  | .swapIn _ pid vaddr => s.swap.slotOf pid vaddr = none
  | .addEntry indexTlb _ _ => (chooseSlot env s.tlb indexTlb).1.toNat < NUM_TLB
  | .readEntry vaddr =>
    env.nullStoreTraps = false ∧ s.tlb.probe (vaddr &&& PAGE_FRAME) ≠ none
  | .resetTlb => True
  | .resetTlbPidDifferent currentPid => ∀ i < NUM_TLB, (s.tlb.entry i).pid = currentPid
  | .getppages _ => True
  | .freeppages addr =>
    s.coremap.allocTableActive = true → addr.toNat / PAGE_SIZE < s.coremap.nRamFrames

section Calls

variable {env : Env} {s : State} (hidle : Idle s)

include hidle

lemma Idle.available (lock : Lock) : Available env lock s := fun _ => hidle.free lock

variable (hl : env.locked = true)

include hl

omit hidle in
lemma held_not_available (lock : Lock) : ¬ Available env lock (s.acquired env lock) := by
  simp [Available, hl]

omit hidle in
lemma resetTlbPidDifferent_locked_ok : (resetTlbPidDifferent env currentPid).run s = .ok () t ↔
      Available env .tlb s ∧ (∀ i < NUM_TLB, (s.tlb.entry i).pid = currentPid) ∧
        t = s.setStats ((if everyPidDifferent s.tlb currentPid then Stats.countTlbInvalidations
          else id) s.stats) := by
  unfold resetTlbPidDifferent
  by_cases havail : Available env .tlb s
  swap
  · simp [havail, bind_run_error (spinlockAcquire_run env .tlb s ▸ if_neg havail)]
  rw [bind_run_ok (spinlockAcquire_ok.mpr ⟨havail, rfl⟩), bind_run_ok (run_get _), bind_ok,
    and_iff_right havail]
  have hskip : ∀ i, (s.tlb.entry i).pid = currentPid →
      (resetIfDifferent env currentPid i).run (s.acquired env .tlb) =
        .ok () (s.acquired env .tlb) := by
    intro i heq
    unfold resetIfDifferent
    rw [bind_run_ok (run_get _), acquired_tlb, if_pos heq]
    rfl
  -- a slot to reset means acquiring the lock again
  have hstop : ∀ i, (s.tlb.entry i).pid ≠ currentPid →
      ∃ e u, (resetIfDifferent env currentPid i).run (s.acquired env .tlb) = .error e u := by
    intro i hne
    refine ⟨.deadlock .tlb, s.acquired env .tlb, ?_⟩
    unfold resetIfDifferent
    rw [bind_run_ok (run_get _), acquired_tlb, if_neg hne]
    unfold resetOneEntryByIndex
    rw [critical_run env .tlb (fun _ _ => rfl), if_neg (held_not_available hl _)]
  have hloop : (∀ i < NUM_TLB, (s.tlb.entry i).pid = currentPid) →
      (loop (resetIfDifferent env currentPid) 0 NUM_TLB).run (s.acquired env .tlb) =
        .ok () (s.acquired env .tlb) :=
    fun hall => loop_skip 0 NUM_TLB fun i _ hi => hskip i (hall i (by omega))
  constructor
  · rintro ⟨_, u, hrun, h⟩
    have hall : ∀ i < NUM_TLB, (s.tlb.entry i).pid = currentPid := fun i hi =>
      loop_skips (fun i => (s.tlb.entry i).pid = currentPid) hskip hstop 0 NUM_TLB hrun i
        (Nat.zero_le i) (by omega)
    rw [hloop hall] at hrun
    injection hrun with _ hu
    rw [← hu, bind_run_ok (increment_run ..)] at h
    exact ⟨hall, (spinlockRelease_acquired_ok havail (by rfl)).mp h⟩
  rintro ⟨hall, rfl⟩
  refine ⟨(), _, hloop hall, ?_⟩
  rw [bind_run_ok (increment_run ..)]
  exact (spinlockRelease_acquired_ok havail (by rfl)).mpr rfl

lemma resetTlbPidDifferent_disciplined (currentPid : Word) :
    Disciplined (resetTlbPidDifferent env currentPid) s ↔
      ∀ i < NUM_TLB, (s.tlb.entry i).pid = currentPid := by
  constructor
  · rintro ⟨_, t, hrun, -⟩
    exact ((resetTlbPidDifferent_locked_ok hl).mp hrun).2.1
  intro hall
  exact ⟨(), _, (resetTlbPidDifferent_locked_ok hl).mpr ⟨hidle.available _, hall, rfl⟩,
    hidle.free, hidle.io⟩

end Calls

end Os161.Vm
