import Os161.Vm.Swap
import Os161.Vm.Tlb

namespace Os161.Vm

open Lib Lib.Exec

def VM_FAULT_READ : Word := 0#32
def VM_FAULT_WRITE : Word := 1#32
def VM_FAULT_READONLY : Word := 2#32

def DUMBVM_STACKPAGES : Nat := 18

structure CurProc where
  pid : Word
  as : Option Nat
  deriving DecidableEq, Repr

-- vm_bootstrap, over the memory that kmalloc returns. The arrays that addrspace.c allocates are
-- never read.
def vmBootstrap (memory : Int → Entry) (s : State) : State :=
  ((((s.setSwap (swapBootstrap s.swap)).setPageTable
    (pageTableInit memory (s.ram.lastpaddr.toNat / PAGE_SIZE))).setCoremap
    (coremapBootstrap s.ram)).setTlb (tlbBootstrap s.tlb)).setStats initStats

-- as_create over memory at `as`; the fields of `fi` keep what the memory held. as_copy calls it
-- and copies nothing.
def asCreate (as : Nat) : Kern Unit :=
  modify fun s => s.setAddrspaces (Function.update s.addrspaces as
    { s.addrspaces as with
      asVbase1 := 0#32
      asNpages1 := 0#32
      asVbase2 := 0#32
      asNpages2 := 0#32
      asStackpbase := 0#32
      allocatedPages := 0 })

def asActivate (env : Env) (cur : CurProc) : Kern Unit :=
  match cur.as with
  | none => pure ()
  | some _ => resetTlbPidDifferent env cur.pid

def asDestroy (env : Env) (cur : CurProc) : Kern Unit := do
  pageTableRemoveOnPids env cur.pid
  swapRemovePid cur.pid

structure Segment where
  base : Word
  npages : Word
  offset : BitVec 64
  sz : Word
  deriving DecidableEq, Repr

def AddrSpace.code (as : AddrSpace) : Segment :=
  ⟨as.asVbase1, as.asNpages1, as.fi.codeOffset, as.fi.codeSz⟩

def AddrSpace.data (as : AddrSpace) : Segment :=
  ⟨as.asVbase2, as.asNpages2, as.fi.dataOffset, as.fi.dataSz⟩

def Segment.top (seg : Segment) : Word := seg.base + seg.npages * 4096#32

def Segment.Has (seg : Segment) (vaddr : Word) : Prop := seg.base ≤ vaddr ∧ vaddr < seg.top

instance (seg : Segment) (vaddr : Word) : Decidable (seg.Has vaddr) :=
  inferInstanceAs (Decidable (_ ∧ _))

-- `offset & ~PAGE_FRAME`, where the mask is an unsigned 32-bit constant.
def Segment.skew (seg : Segment) : BitVec 64 := seg.offset &&& 0xfff#64

-- Sums of a size_t and an off_t are 64 bits wide; the result is stored in a size_t.
def Segment.sizeToRead (seg : Segment) (vaddr : Word) : Word :=
  if vaddr = seg.base then
    if seg.sz.toNat < PAGE_SIZE - seg.skew.toNat then seg.sz
    else BitVec.ofNat 32 (PAGE_SIZE - seg.skew.toNat)
  else if vaddr = seg.top - 4096#32 then
    seg.sz - (seg.npages - 1#32) * 4096#32 - seg.skew.truncate 32
  else 4096#32

def Segment.dest (seg : Segment) (vaddr paddr : Word) : Word :=
  if vaddr = seg.base then paddr + seg.skew.truncate 32 else paddr

def Segment.source (seg : Segment) (vaddr : Word) : BitVec 64 :=
  if vaddr = seg.base then seg.offset
  else (seg.offset &&& 0xfffff000#64) + vaddr.zeroExtend 64 - seg.base.zeroExtend 64

def VopResult.transferred (result : VopResult) (len : Nat) : List UInt8 := result.data.take len

def readElfPage (env : Env) (v : Nat) (dest : Word) (len : Word) (offset : BitVec 64) :
    Kern Word := do
  noteIo
  let result := env.vopRead v offset len.toNat
  let data := result.transferred len.toNat
  modify fun s => s.setMem (Bytes.paste s.mem dest.toNat data.length (fun i => data.getD i 0))
  pure (if result.error ≠ 0#32 then result.error
    else if data.length ≠ len.toNat then ENOEXEC
    else 0#32)

-- How vm_fault gets to a frame for the page: it has one, with the `index_tlb` it has so far,
-- or it returns at once.
inductive Resolution where
  | page (paddr indexTlb : Word)
  | done (result : Word)
  deriving DecidableEq, Repr

def statusWith (status indexTlb : Word) : Word :=
  if indexTlb = NO_SLOT then status else status ||| indexTlb <<< 2

-- A branch of the on-demand loading. The call of page_table_add_entry is the same in all, with
-- its arguments in the order in which it passes them.
def demandPage (env : Env) (as : Nat) (pid vaddr status : Word) (fill : Word → Kern Unit) :
    Kern Resolution := do
  let s ← get
  let frame ← takeFrame env as pid (MAX_ALLOCATED_PAGES ≤ (s.addrspaces as).allocatedPages)
  match frame with
  | none => pure (.done 0#32)
  | some frame =>
    modify fun s => s.claimed as frame.paddr
    fill frame.paddr
    pageTableAddEntry env vaddr frame.paddr pid (statusWith status frame.indexTlb)
    pure (.page frame.paddr frame.indexTlb)

def fillFromElf (env : Env) (v : Nat) (seg : Segment) (vaddr paddr : Word) : Kern Unit := do
  let _ ← readElfPage env v (seg.dest vaddr paddr) (seg.sizeToRead vaddr) (seg.source vaddr)
  incrementPageFaultsDisk
  incrementPageFaultsElf

def codePage (env : Env) (as : Nat) (space : AddrSpace) (pid vaddr : Word) : Kern Resolution :=
  demandPage env as pid vaddr 0x01#32 (fillFromElf env space.fi.v space.code vaddr)

def dataPage (env : Env) (as : Nat) (space : AddrSpace) (pid vaddr : Word) : Kern Resolution :=
  demandPage env as pid vaddr 0#32 (fillFromElf env space.fi.v space.data vaddr)

def stackPage (env : Env) (as : Nat) (pid vaddr : Word) : Kern Resolution :=
  demandPage env as pid vaddr 0#32 (fun _ => pure ())

def InStack (vaddr : Word) : Prop :=
  USERSTACK - BitVec.ofNat 32 (DUMBVM_STACKPAGES * PAGE_SIZE) ≤ vaddr ∧ vaddr < USERSTACK

instance (vaddr : Word) : Decidable (InStack vaddr) := inferInstanceAs (Decidable (_ ∧ _))

def loadOnDemand (env : Env) (as : Nat) (pid vaddr : Word) : Kern Resolution := do
  let s ← get
  let space := s.addrspaces as
  if space.code.Has vaddr then codePage env as space pid vaddr
  else if space.data.Has vaddr then dataPage env as space pid vaddr
  else if InStack vaddr then stackPage env as pid vaddr
  else pure (.done EFAULT)

-- The status that the swap-in path reads back is never used.
def findPage (env : Env) (as : Nat) (pid vaddr : Word) : Kern Resolution := do
  let resident ← pageTableGetPaddrEntry env pid vaddr
  match resident with
  | some (paddr, _) =>
    incrementTlbReloads
    pure (.page paddr NO_SLOT)
  | none =>
    let swapped ← swapIn env as pid vaddr
    match swapped with
    | some paddr =>
      incrementPageFaultsDisk
      pure (.page paddr NO_SLOT)
    | none => loadOnDemand env as pid vaddr

def installPage (env : Env) (pid vaddr paddr indexTlb : Word) : Kern Word := do
  kassert (paddr &&& PAGE_FRAME = paddr) "(paddr & PAGE_FRAME) == paddr"
  let index ← addEntry env indexTlb (vaddr ||| pid <<< 6) (paddr ||| TLBLO_DIRTY ||| TLBLO_VALID)
  kassert (index ≠ NO_SLOT) "index_tlb != -1"
  modify fun s => s.setPageTable
    (s.pageTable.setStatusAt ((paddr >>> 12).toNat : Int) (index <<< 2))
  pure 0#32

def checkAddrSpace (as : AddrSpace) : Kern Unit := do
  kassert (as.asVbase1 ≠ 0#32) "as->as_vbase1 != 0"
  kassert (as.asNpages1 ≠ 0#32) "as->as_npages1 != 0"
  kassert (as.asVbase2 ≠ 0#32) "as->as_vbase2 != 0"
  kassert (as.asNpages2 ≠ 0#32) "as->as_npages2 != 0"
  kassert (as.asVbase1 &&& PAGE_FRAME = as.asVbase1) "(as->as_vbase1 & PAGE_FRAME) == as->as_vbase1"
  kassert (as.asVbase2 &&& PAGE_FRAME = as.asVbase2) "(as->as_vbase2 & PAGE_FRAME) == as->as_vbase2"
  kassert (as.asStackpbase &&& PAGE_FRAME = as.asStackpbase)
    "(as->as_stackpbase & PAGE_FRAME) == as->as_stackpbase"

def resolveFault (env : Env) (as : Nat) (pid vaddr : Word) : Kern Word := do
  let s ← get
  checkAddrSpace (s.addrspaces as)
  let resolution ← findPage env as pid vaddr
  match resolution with
  | .done result => pure result
  | .page paddr indexTlb => installPage env pid vaddr paddr indexTlb

def serveFault (env : Env) (cur : Option CurProc) (vaddr : Word) : Kern Word :=
  match cur with
  | none => pure EFAULT
  | some cur =>
    match cur.as with
    | none => pure EFAULT
    | some as => resolveFault env as cur.pid vaddr

abbrev IsAccess (faulttype : Word) : Prop :=
  faulttype = VM_FAULT_READ ∨ faulttype = VM_FAULT_WRITE

def vmFault (env : Env) (cur : Option CurProc) (faulttype faultaddress : Word) : Kern Word :=
  if faulttype = VM_FAULT_READONLY then
    match cur with
    | none => throw .nullAccess
    | some cur => do
        asDestroy env cur
        throw .threadExit
  else if IsAccess faulttype then do
    incrementTlbFaults
    serveFault env cur (faultaddress &&& PAGE_FRAME)
  else pure EINVAL

def smallSpace : AddrSpace :=
  ⟨0x400000#32, 1#32, 0x10000000#32, 1#32, 0#32, 0, ⟨0#64, 4096#32, 4096#64, 4096#32, 0⟩⟩

def smallMachine : State :=
  (vmBootstrap (fun _ => ⟨0#32, 0#32, 0#32, 0#32, 0⟩) (powerOn smallRam)).setAddrspaces
    fun _ => smallSpace

end Os161.Vm
