import Mathlib.Data.List.Basic
import Os161.Vm.PageTable.Fifo

namespace Os161.Vm

open Lib Lib.Exec

def Table.positionOf (table : Table) (frame : Nat) : Int := (table.nextEntry frame).positionFifo

structure Ordered (table : Table) (queue : Queue) : Prop where
  distinct : ∀ pid i j, table.Owns pid i → table.Owns pid j → i ≠ j →
    table.positionOf i ≠ table.positionOf j
  order : ∀ pid i j, table.Owns pid i → table.Owns pid j →
    (table.positionOf i < table.positionOf j ↔
      (queue.of pid).idxOf (pid, i) < (queue.of pid).idxOf (pid, j))

def FifoOp.subject (s : State) : FifoOp → Option Word
  | .add pid _ _ _ => some pid
  | .reset index => some (s.pageTable.nextEntry index).pid
  | .tick => none

def LeavesOthers (op : FifoOp) (s t : State) : Prop :=
  ∀ pid ∈ op.subject s, ∀ pid' frame, pid' ≠ pid → s.pageTable.Owns pid' frame →
    t.pageTable.nextEntry frame = s.pageTable.nextEntry frame

section Order

lemma fifo_positionOf (h : Fifo table queue base) (hown : table.Owns pid frame) :
    table.positionOf frame = base pid + (queue.of pid).idxOf (pid, frame) := by
  obtain ⟨k, hk⟩ := owns_getElem h hown
  have hnodup : (queue.of pid).Nodup := h.nodup.filter _
  obtain ⟨hlt, hget⟩ := List.getElem?_eq_some_iff.mp hk
  have hidx := hnodup.idxOf_getElem k hlt
  rw [hget] at hidx
  rw [hidx]
  exact h.position pid k _ hk

lemma ordered_of_fifo (h : Fifo table queue base) : Ordered table queue where
  distinct := by
    intro pid i j hi hj hne heq
    rw [fifo_positionOf h hi, fifo_positionOf h hj] at heq
    have hidx : (queue.of pid).idxOf (pid, i) = (queue.of pid).idxOf (pid, j) := by omega
    have hmem : (pid, i) ∈ queue.of pid := mem_of.mpr ⟨(h.resident _).mpr hi, rfl⟩
    exact hne (Prod.mk.inj ((List.idxOf_inj hmem).mp hidx)).2
  order := by
    intro pid i j hi hj
    rw [fifo_positionOf h hi, fifo_positionOf h hj]
    omega

end Order

lemma fifo_step (h : ∃ base, Fifo r.1.pageTable r.2 base)
    (hstep : FifoStep env op r r') :
    ∃ base, Fifo r'.1.pageTable r'.2 base := by
  obtain ⟨s, queue⟩ := r
  obtain ⟨t, queue'⟩ := r'
  obtain ⟨base, h⟩ := h
  cases op with
  | add pid vaddr paddr status =>
    obtain ⟨hpid, hfree, hrun, rfl⟩ := hstep
    obtain ⟨hlt, -, rfl⟩ := pageTableAddEntry_ok.mp hrun
    exact ⟨_, fifo_addEntry h vaddr status hlt hfree hpid⟩
  | reset index =>
    obtain ⟨hlt, hne, hrun, rfl⟩ := hstep
    obtain ⟨-, rfl⟩ := pageTableResetEntry_ok.mp hrun
    exact ⟨_, fifo_resetEntry h ⟨hlt, rfl, hne⟩⟩
  | tick =>
    obtain ⟨hrun, rfl⟩ := hstep
    obtain ⟨-, rfl⟩ := lruUpdateCnt_ok.mp hrun
    exact ⟨_, fifo_tick h⟩

lemma fifoStep_leavesOthers (hstep : FifoStep env op r r') : LeavesOthers op r.1 r'.1 := by
  obtain ⟨s, queue⟩ := r
  obtain ⟨t, queue'⟩ := r'
  intro pid hpid pid' frame hne hown
  cases op with
  | add p vaddr paddr status =>
    obtain ⟨-, hfree, hrun, rfl⟩ := hstep
    obtain ⟨-, -, rfl⟩ := pageTableAddEntry_ok.mp hrun
    have hframe : frame ≠ frameIndex paddr := by
      rintro rfl
      exact hown.2.2 (hown.2.1.symm.trans hfree)
    exact addEntry_of_ne s.pageTable p vaddr status hframe
  | reset index =>
    obtain ⟨-, -, hrun, rfl⟩ := hstep
    obtain ⟨-, rfl⟩ := pageTableResetEntry_ok.mp hrun
    obtain rfl : (s.pageTable.nextEntry index).pid = pid := Option.some.inj hpid
    have howner : (s.pageTable.nextEntry frame).pid ≠ (s.pageTable.nextEntry index).pid := by
      rw [hown.2.1]
      exact hne
    have hframe : frame ≠ index := by
      rintro rfl
      exact howner rfl
    exact resetEntry_other hframe howner
  | tick => cases hpid

def FifoReach (env : Env) : Queued → Queued → Prop :=
  Relation.ReflTransGen fun r r' => ∃ op, FifoStep env op r r'

theorem positions_follow_additions (env : Env) (s : State) (memory : Int → Entry) (length : Nat)
    (r : Queued)
    (hreach : FifoReach env (s.setPageTable (pageTableInit memory length), []) r) :
    Ordered r.1.pageTable r.2 ∧
      ∀ op r', FifoStep env op r r' → LeavesOthers op r.1 r'.1 := by
  have hfifo : ∃ base, Fifo r.1.pageTable r.2 base := by
    induction hreach with
    | refl => exact ⟨_, fifo_init memory length⟩
    | tail _ hlast ih =>
      obtain ⟨op, hstep⟩ := hlast
      exact fifo_step ih hstep
  obtain ⟨base, hfifo⟩ := hfifo
  exact ⟨ordered_of_fifo hfifo, fun op r' hstep => fifoStep_leavesOthers hstep⟩

theorem positions_of_two_pages : ∃ r : Queued,
    FifoReach steadyEnv (freshTable, []) r ∧ r.2 = [(1#32, 2), (1#32, 3)] ∧
      Ordered r.1.pageTable r.2 := by
  let added := freshTable.setPageTable (freshTable.pageTable.addEntry 1#32 0x400000#32 2 0#32)
  let ticked := added.setPageTable added.pageTable.tick
  let both := ticked.setPageTable (ticked.pageTable.addEntry 1#32 0x401000#32 3 0#32)
  have hadd : FifoStep steadyEnv (.add 1#32 0x400000#32 0x2000#32 0#32) (freshTable, [])
      (added, [(1#32, 2)]) :=
    ⟨by decide, by decide, pageTableAddEntry_ok.mpr ⟨by decide, fun _ => rfl, rfl⟩, rfl⟩
  have htick : FifoStep steadyEnv .tick (added, [(1#32, 2)]) (ticked, [(1#32, 2)]) :=
    ⟨lruUpdateCnt_ok.mpr ⟨fun _ => rfl, rfl⟩, rfl⟩
  have hboth : FifoStep steadyEnv (.add 1#32 0x401000#32 0x3000#32 0#32) (ticked, [(1#32, 2)])
      (both, [(1#32, 2), (1#32, 3)]) :=
    ⟨by decide, by decide, pageTableAddEntry_ok.mpr ⟨by decide, fun _ => rfl, rfl⟩, rfl⟩
  have hreach : FifoReach steadyEnv (freshTable, []) (both, [(1#32, 2), (1#32, 3)]) :=
    ((Relation.ReflTransGen.single ⟨_, hadd⟩).tail ⟨_, htick⟩).tail ⟨_, hboth⟩
  exact ⟨_, hreach, rfl, (positions_follow_additions steadyEnv (powerOn ⟨0x1000#32, 0x4000#32⟩)
    (fun _ => ⟨0#32, 0#32, 0#32, 0#32, 0⟩) 4 _ hreach).1⟩

end Os161.Vm
