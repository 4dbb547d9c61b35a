import Os161.Vm.Spinlock
import Os161.Vm.Stats

namespace Os161.Vm

open Lib Lib.Exec

def NUM_TLB : Nat := 64

def TLBHI_VPAGE : Word := 0xfffff000#32
def TLBHI_PID : Word := 0x00000fc0#32
def TLBLO_DIRTY : Word := 0x00000400#32
def TLBLO_VALID : Word := 0x00000200#32
def TLBLO_GLOBAL : Word := 0x00000100#32

-- TLBHI_INVALID and TLBLO_INVALID: an unmapped kernel page, a different one for each slot.
def invalidEntry (index : Nat) : TlbEntry :=
  ⟨BitVec.ofNat 32 (0x80000 + index) <<< 12, 0#32⟩

def slotOf (index : Word) : Nat := index.toNat % NUM_TLB

def Tlb.write (tlb : Tlb) (entry : TlbEntry) (slot : Nat) : Tlb :=
  { tlb with entry := Function.update tlb.entry slot entry }

def Tlb.mark (tlb : Tlb) (index : Int) (used : Bool) : Tlb :=
  { tlb with bitmap := Function.update tlb.bitmap index used }

def tlbBootstrap (tlb : Tlb) : Tlb :=
  { tlb with bitmap := fun i => if 0 ≤ i ∧ i < NUM_TLB then false else tlb.bitmap i }

def tlbGetRrVictim (tlb : Tlb) : Nat × Tlb :=
  (tlb.nextVictim, { tlb with nextVictim := (tlb.nextVictim + 1) % NUM_TLB })

def Tlb.writeEntry (tlb : Tlb) (index : Word) (hi lo : Word) : Tlb :=
  (tlb.mark index.toInt true).write ⟨hi, lo⟩ (slotOf index)

def Tlb.firstFree (tlb : Tlb) : Option Nat :=
  (List.range NUM_TLB).find? (fun i : Nat => !tlb.bitmap i)

-- When the caller passes a slot, the local `index` keeps the value the stack happened to hold.
def chooseSlot (env : Env) (tlb : Tlb) (indexTlb : Word) : Word × Tlb × (Stats → Stats) :=
  if indexTlb = NO_SLOT then
    match tlb.firstFree with
    | some index => (BitVec.ofNat 32 index, tlb, Stats.countTlbFaultsFree)
    | none =>
      let (victim, tlb) := tlbGetRrVictim tlb
      (BitVec.ofNat 32 victim, tlb, Stats.countTlbFaultsReplace)
  else (env.addEntryIndex, tlb, Stats.countTlbFaultsFree)

def addEntry (env : Env) (indexTlb hi lo : Word) : Kern Word := do
  spinlockAcquire env .tlb
  let s ← get
  let (index, tlb, count) := chooseSlot env s.tlb indexTlb
  -- the array is written at `index`, whatever it is
  if index.toNat < NUM_TLB then
    set ((s.setTlb (tlb.writeEntry index hi lo)).setStats (count s.stats).countTlbFaults)
    spinlockRelease env .tlb
    pure index
  else throw .stray

def Tlb.probe (tlb : Tlb) (hi : Word) : Option Nat :=
  (List.range NUM_TLB).find? fun i =>
    (tlb.entry i).hi &&& TLBHI_VPAGE = hi &&& TLBHI_VPAGE &&
      ((tlb.entry i).hi &&& TLBHI_PID = hi &&& TLBHI_PID ||
        (tlb.entry i).lo &&& TLBLO_GLOBAL ≠ 0#32)

-- `none` is the return value -1; otherwise the value stored through `paddr`.
def readEntry (env : Env) (vaddr : Word) : Kern (Option Word) := do
  spinlockAcquire env .tlb
  let s ← get
  match s.tlb.probe (vaddr &&& PAGE_FRAME) with
  | none => pure none
  | some index =>
    -- tlb_read stores the entry's first word through the NULL it is given
    if env.nullStoreTraps then throw .nullAccess
    else do
      spinlockRelease env .tlb
      pure (some ((s.tlb.entry index).lo ||| vaddr &&& ~~~PAGE_FRAME))

def resetOneEntryByIndex (env : Env) (index : Nat) : Kern Unit :=
  critical env .tlb fun s =>
    ((), s.setTlb ((s.tlb.mark index false).write (invalidEntry index) index))

def Tlb.reset (tlb : Tlb) : Tlb :=
  (List.range NUM_TLB).foldl
    (fun (tlb : Tlb) (index : Nat) => (tlb.mark index false).write (invalidEntry index) index) tlb

def resetTlb (env : Env) : Kern Unit :=
  critical env .tlb fun s => ((), (s.setTlb s.tlb.reset).setStats s.stats.countTlbInvalidations)

def TlbEntry.pid (e : TlbEntry) : Word := (e.hi &&& TLBHI_PID) >>> 6

def resetIfDifferent (env : Env) (currentPid : Word) (index : Nat) : Kern Unit := do
  let s ← get
  if (s.tlb.entry index).pid = currentPid then pure ()
  else resetOneEntryByIndex env index

def everyPidDifferent (tlb : Tlb) (currentPid : Word) : Bool :=
  (List.range NUM_TLB).all fun index => (tlb.entry index).pid ≠ currentPid

-- The loop resets a slot only after it has read it, so the flag is the one of the table at entry.
def resetTlbPidDifferent (env : Env) (currentPid : Word) : Kern Unit := do
  spinlockAcquire env .tlb
  let s ← get
  loop (resetIfDifferent env currentPid) 0 NUM_TLB
  increment (if everyPidDifferent s.tlb currentPid then Stats.countTlbInvalidations else id)
  spinlockRelease env .tlb

lemma chooseSlot_entry (env : Env) (tlb : Tlb) (indexTlb : Word) :
    (chooseSlot env tlb indexTlb).2.1.entry = tlb.entry := by
  unfold chooseSlot
  split
  · split <;> rfl
  · rfl

lemma chooseSlot_count (env : Env) (tlb : Tlb) (indexTlb : Word) :
    (chooseSlot env tlb indexTlb).2.2 = Stats.countTlbFaultsFree ∨
      (chooseSlot env tlb indexTlb).2.2 = Stats.countTlbFaultsReplace := by
  unfold chooseSlot
  split
  · split
    · exact .inl rfl
    · exact .inr rfl
  · exact .inl rfl

lemma addEntry_ok :
    (addEntry env indexTlb hi lo).run s = .ok index t ↔
      (Available env .tlb s ∧ index.toNat < NUM_TLB) ∧
        index = (chooseSlot env s.tlb indexTlb).1 ∧
        t = (s.setTlb ((chooseSlot env s.tlb indexTlb).2.1.writeEntry index hi lo)).setStats
          ((chooseSlot env s.tlb indexTlb).2.2 s.stats).countTlbFaults := by
  unfold addEntry
  by_cases havail : Available env .tlb s
  swap
  · simp [havail, bind_run_error (spinlockAcquire_run env .tlb s ▸ if_neg havail)]
  rw [bind_run_ok (spinlockAcquire_ok.mpr ⟨havail, rfl⟩), bind_run_ok (EStateM.run_get _),
    State.acquired_tlb, State.acquired_stats]
  dsimp only
  by_cases hlt : (chooseSlot env s.tlb indexTlb).1.toNat < NUM_TLB
  · rw [if_pos hlt, bind_run_ok (EStateM.run_set ..),
      bind_run_ok ((spinlockRelease_acquired_ok havail (by rfl)).mpr rfl), pure_ok]
    constructor
    · rintro ⟨rfl, rfl⟩
      exact ⟨⟨havail, hlt⟩, rfl, rfl⟩
    · rintro ⟨-, rfl, rfl⟩
      exact ⟨rfl, rfl⟩
  rw [if_neg hlt]
  constructor
  · intro h
    cases h
  · rintro ⟨⟨-, hbound⟩, rfl, -⟩
    exact absurd hbound hlt

end Os161.Vm
