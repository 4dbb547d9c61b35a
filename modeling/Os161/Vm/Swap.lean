import Os161.Lib.Bytes
import Os161.Lib.Hoare
import Os161.Vm.PageTable
import Os161.Vm.Stats

namespace Os161.Vm

open Function Lib Lib.Exec

def MAX_ALLOCATED_PAGES : Int := 50

def NUMBERENTRIES : Nat := 2304

def swapBootstrap (swap : SwapArea) : SwapArea :=
  { swap with
    track := fun i => if i < NUMBERENTRIES then ⟨0#32, NO_PID, 0#32, false⟩ else swap.track i }

def SwapArea.setTrack (swap : SwapArea) (slot : Nat) (track : SwapTrack) : SwapArea :=
  { swap with track := update swap.track slot track }

def SwapArea.writePage (swap : SwapArea) (slot : Nat) (mem : Nat → UInt8) (paddr : Word) :
    SwapArea :=
  { swap with
    file := Bytes.paste swap.file (slot * PAGE_SIZE) PAGE_SIZE (fun i => mem (paddr.toNat + i)) }

def SwapArea.freeSlot (swap : SwapArea) : Option Nat :=
  (List.range NUMBERENTRIES).find? (fun i => !(swap.track i).valid)

def SwapArea.slotOf (swap : SwapArea) (pid vaddr : Word) : Option Nat :=
  (List.range NUMBERENTRIES).find? fun i =>
    (swap.track i).pid = pid && (swap.track i).vaddr = vaddr && (swap.track i).valid

def SwapArea.release (swap : SwapArea) (slot : Nat) : SwapArea :=
  swap.setTrack slot { swap.track slot with pid := NO_PID, valid := false }

def State.anyHeld (s : State) : Bool :=
  s.held .table || s.held .swap || s.held .tlb || s.held .freemem || s.held .stealmem

def noteIo : Kern Unit := modify fun s => s.setIoUnderLock (s.ioUnderLock || s.anyHeld)

def writeSwapPage (env : Env) (slot : Nat) (paddr : Word) : Kern Unit := do
  noteIo
  if env.swapWriteError slot = 0#32 then
    modify fun s => s.setSwap (s.swap.writePage slot s.mem paddr)
  else throw (.panic "[ERR] swapfile.c: write error %d\n" [env.swapWriteError slot])

@[simps -fullyApplied]
def State.loadPage (s : State) (slot : Nat) (paddr : Word) : State :=
  { s with
    mem := Bytes.paste s.mem paddr.toNat PAGE_SIZE (fun i => s.swap.file (slot * PAGE_SIZE + i)) }

def readSwapPage (env : Env) (slot : Nat) (paddr : Word) : Kern Unit := do
  noteIo
  if env.swapReadError slot ≠ 0#32 then
    throw (.panic "[ERR] swapfile.c: read error %d\n" [env.swapReadError slot])
  else if env.swapReadResid slot ≠ 0 then
    throw (.panic "[ERR] swapfile.c: uio_resid != 0\n" [])
  else modify fun s => s.loadPage slot paddr

def swapOut (env : Env) (pid vaddr permissionFlag paddr : Word) : Kern Unit :=
  if MIPS_KSEG0 ≤ vaddr then
    throw (.panic "[ERR] swapfile.c: vaddr cannot be greater than MIPS_KSEG0\n" [])
  else do
    spinlockAcquire env .swap
    let s ← get
    match s.swap.freeSlot with
    | none => throw (.panic "[ERR] swapfile.c: out of swap space\n" [])
    | some slot =>
      writeSwapPage env slot paddr
      modify fun s => s.setSwap (s.swap.setTrack slot ⟨permissionFlag, pid, vaddr, true⟩)
      spinlockRelease env .swap
      pageTableResetEntry env (paddr.toNat / PAGE_SIZE : Nat)
      incrementPageFaultsSwapout

def AddrSpace.addAllocated (as : AddrSpace) (d : Int) : AddrSpace :=
  { as with allocatedPages := as.allocatedPages + d }

@[simps -fullyApplied]
def State.addAllocated (s : State) (as : Nat) (d : Int) : State :=
  { s with addrspaces := update s.addrspaces as ((s.addrspaces as).addAllocated d) }

def zeroPage (mem : Nat → UInt8) (paddr : Word) : Nat → UInt8 :=
  Bytes.paste mem paddr.toNat PAGE_SIZE (fun _ => 0)

-- `allocated_pages++`, as_zero_region and the counter, as they follow the choice of a frame.
@[simps -fullyApplied]
def State.claimed (as : Nat) (paddr : Word) (s : State) : State :=
  { s with
    addrspaces := update s.addrspaces as ((s.addrspaces as).addAllocated 1)
    mem := zeroPage s.mem paddr
    stats := s.stats.countPageFaultsZeroed }

-- `indexTlb` is NO_SLOT for a fresh frame; for one taken from a victim it is the status that
-- vm_fault reads from the victim's entry.
structure Frame where
  paddr : Word
  indexTlb : Word
  deriving DecidableEq, Repr

def frameAddr (index : Int) : Word := BitVec.ofInt 32 (index * PAGE_SIZE)

-- The eviction written out in swap_in and in the three branches of vm_fault. There is no
-- victim when `none` is returned.
def evict (env : Env) (as : Nat) (pid : Word) : Kern (Option Frame) := do
  let s ← get
  let index := s.pageTable.replacement pid
  let victim := s.pageTable.nextEntry index
  if index = -1 then pure none
  else do
    swapOut env pid victim.vaddr victim.permissionFlag (frameAddr index)
    modify fun s => s.addAllocated as (-1)
    pure (some ⟨frameAddr index, s.pageTable.statusOnIndex index⟩)

-- `full` is the test on the number of allocated pages, which is not the same in all callers.
def takeFrame (env : Env) (as : Nat) (pid : Word) (full : Bool) : Kern (Option Frame) :=
  if full then evict env as pid
  else do
    let paddr ← getppages env 1#32
    if paddr = 0#32 then evict env as pid else pure (some ⟨paddr, NO_SLOT⟩)

def swapInto (env : Env) (as : Nat) (pid vaddr : Word) (slot : Nat) (paddr : Word) : Kern Unit := do
  modify fun s => s.claimed as paddr
  readSwapPage env slot paddr
  modify fun s => s.setSwap (s.swap.release slot)
  let s ← get
  pageTableAddEntry env vaddr paddr pid (s.swap.track (paddr.toNat / PAGE_SIZE)).permissionFlag
  incrementPageFaultsSwapin
  spinlockRelease env .swap

-- `none` is the return value 0, `some paddr` the return value 1.
def swapIn (env : Env) (as : Nat) (pid vaddr : Word) : Kern (Option Word) := do
  spinlockAcquire env .swap
  let s ← get
  match s.swap.slotOf pid vaddr with
  | none =>
    spinlockRelease env .swap
    pure none
  | some slot =>
    let frame ← takeFrame env as pid ((s.addrspaces as).allocatedPages = MAX_ALLOCATED_PAGES)
    match frame with
    | none => pure none
    | some frame =>
      swapInto env as pid vaddr slot frame.paddr
      pure (some frame.paddr)

def SwapArea.removePid (swap : SwapArea) (pid : Word) : SwapArea :=
  { swap with
    track := fun i =>
      if i < NUMBERENTRIES ∧ (swap.track i).pid = pid ∧ (swap.track i).valid then
        { swap.track i with pid := NO_PID, valid := false }
      else swap.track i }

def swapRemovePid (pid : Word) : Kern Unit :=
  modify fun s => s.setSwap (s.swap.removePid pid)

end Os161.Vm
