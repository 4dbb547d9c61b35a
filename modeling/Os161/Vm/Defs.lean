import Os161.Lib.Exec

namespace Os161.Vm

-- Also `pid_t` and `int`, where only the bits matter.
abbrev Word := BitVec 32

def PAGE_SIZE : Nat := 4096
def PAGE_FRAME : Word := 0xfffff000#32
def MIPS_KSEG0 : Word := 0x80000000#32
def USERSTACK : Word := MIPS_KSEG0

def NO_SLOT : Word := -1#32

def MAX_PROC : Nat := 100

def ENOMEM : Word := 3#32
def EFAULT : Word := 6#32
def EINVAL : Word := 8#32
def ENOEXEC : Word := 13#32

-- The spinlocks of the memory modules: `page_table->table_lock`, the `slock` of swapfile.c,
-- the `slock` of vm_tlb.c, and the two locks of coremap.c.
inductive Lock where
  | table | swap | tlb | freemem | stealmem
  deriving DecidableEq, Repr

inductive Stop where
  -- panic("Deadlock on spinlock %p\n") in spinlock_acquire
  | deadlock (lock : Lock)
  | panic (message : String) (args : List Word)
  | kassert (expr : String)
  | nullAccess
  -- an index outside of its array
  | stray
  -- an access to a structure that has been given back to kfree
  | dangling
  | blocked
  -- a loop that never ends
  | hang
  | threadExit
  deriving DecidableEq, Repr

-- entry_t. The code never assigns `permission_flag`, so it holds what kmalloc left there.
structure Entry where
  vaddr : Word
  pid : Word
  status : Word
  permissionFlag : Word
  positionFifo : Int
  deriving DecidableEq, Repr

-- table_t. Positions outside `0 .. length - 1` stand for the memory around the array.
structure Table where
  nextEntry : Int → Entry
  length : Nat

structure SwapTrack where
  permissionFlag : Word
  pid : Word
  vaddr : Word
  valid : Bool
  deriving DecidableEq, Repr

structure SwapArea where
  track : Nat → SwapTrack
  file : Nat → UInt8

structure TlbEntry where
  hi : Word
  lo : Word
  deriving DecidableEq, Repr

-- The `bitmap` shadows the entries; `next_victim` is the static of tlb_get_rr_victim.
structure Tlb where
  entry : Nat → TlbEntry
  bitmap : Int → Bool
  nextVictim : Nat

structure Coremap where
  freeRamFrames : Nat → Bool
  allocSize : Nat → Word
  nRamFrames : Nat
  allocTableActive : Bool

structure Ram where
  firstpaddr : Word
  lastpaddr : Word
  deriving DecidableEq, Repr

structure Stats where
  tlbFaults : Word := 0
  tlbFaultsFree : Word := 0
  tlbFaultsReplace : Word := 0
  tlbInvalidations : Word := 0
  tlbReloads : Word := 0
  pageFaultsZeroed : Word := 0
  pageFaultsDisk : Word := 0
  pageFaultsElf : Word := 0
  pageFaultsSwapin : Word := 0
  pageFaultsSwapout : Word := 0
  swapfileWrites : Word := 0
  deriving DecidableEq, Repr

structure FileInfo where
  codeOffset : BitVec 64
  codeSz : Word
  dataOffset : BitVec 64
  dataSz : Word
  v : Nat
  deriving DecidableEq, Repr

structure AddrSpace where
  asVbase1 : Word
  asNpages1 : Word
  asVbase2 : Word
  asNpages2 : Word
  asStackpbase : Word
  allocatedPages : Int
  fi : FileInfo
  deriving DecidableEq, Repr

@[ext] structure State where
  pageTable : Table
  swap : SwapArea
  tlb : Tlb
  coremap : Coremap
  ram : Ram
  stats : Stats
  mem : Nat → UInt8
  addrspaces : Nat → AddrSpace
  held : Lock → Bool
  ioUnderLock : Bool

@[simps -fullyApplied]
def State.setPageTable (s : State) (pageTable : Table) : State := { s with pageTable := pageTable }
@[simps -fullyApplied]
def State.setSwap (s : State) (swap : SwapArea) : State := { s with swap := swap }
@[simps -fullyApplied]
def State.setTlb (s : State) (tlb : Tlb) : State := { s with tlb := tlb }
@[simps -fullyApplied]
def State.setCoremap (s : State) (coremap : Coremap) : State := { s with coremap := coremap }
@[simps -fullyApplied]
def State.setRam (s : State) (ram : Ram) : State := { s with ram := ram }
@[simps -fullyApplied]
def State.setStats (s : State) (stats : Stats) : State := { s with stats := stats }
@[simps -fullyApplied]
def State.setMem (s : State) (mem : Nat → UInt8) : State := { s with mem := mem }
@[simps -fullyApplied]
def State.setAddrspaces (s : State) (addrspaces : Nat → AddrSpace) : State :=
  { s with addrspaces := addrspaces }
@[simps -fullyApplied]
def State.setHeld (s : State) (held : Lock → Bool) : State := { s with held := held }
@[simps -fullyApplied]
def State.setIoUnderLock (s : State) (ioUnderLock : Bool) : State :=
  { s with ioUnderLock := ioUnderLock }

structure VopResult where
  error : Word
  data : List UInt8

-- What the code cannot see: whether spinlocks are checked, the answers of the file systems, and
-- the values of uninitialised locals.
structure Env where
  locked : Bool
  vopRead : Nat → BitVec 64 → Nat → VopResult
  swapWriteError : Nat → Word
  swapReadError : Nat → Word
  swapReadResid : Nat → Nat
  -- `index` of add_entry, which is not assigned when `*index_tlb != -1`
  addEntryIndex : Word
  nullStoreTraps : Bool

abbrev Kern (α : Type) := EStateM Stop State α

def kassert {σ : Type} (holds : Bool) (expr : String) : EStateM Stop σ Unit :=
  if holds then pure () else throw (.kassert expr)

@[simp] lemma kassert_run (holds : Bool) (expr : String) (s : σ) :
    (kassert holds expr).run s = if holds then .ok () s else .error (.kassert expr) s := by
  cases holds <;> rfl

lemma kassert_pass [Decidable holds] (h : holds) (expr : String)
    (s : σ) : (kassert holds expr).run s = .ok () s := by
  rw [kassert_run, if_pos (decide_eq_true h)]

lemma kassert_bind_ok :
    (kassert holds expr >>= f).run s = .ok b t ↔ holds = true ∧ (f ()).run s = .ok b t := by
  cases holds with
  | true => exact (and_iff_right rfl).symm
  | false => exact iff_of_false (fun h => by cases h) (by simp)

-- The machine before vm_bootstrap: the statics of the modules hold zeros, every TLB slot is
-- empty and no lock is held.
def powerOn (ram : Ram) : State where
  pageTable := ⟨fun _ => ⟨0#32, 0#32, 0#32, 0#32, 0⟩, 0⟩
  swap := ⟨fun _ => ⟨0#32, 0#32, 0#32, false⟩, fun _ => 0⟩
  tlb := ⟨fun _ => ⟨0#32, 0#32⟩, fun _ => false, 0⟩
  coremap := ⟨fun _ => false, fun _ => 0#32, 0, false⟩
  ram := ram
  stats := {}
  mem := fun _ => 0
  addrspaces := fun _ => ⟨0#32, 0#32, 0#32, 0#32, 0#32, 0, ⟨0#64, 0#32, 0#64, 0#32, 0⟩⟩
  held := fun _ => false
  ioUnderLock := false

def smallRam : Ram := ⟨0x4000#32, 0x10000#32⟩

def steadyEnv : Env where
  locked := true
  vopRead := fun _ _ len => ⟨0#32, List.replicate len 0⟩
  swapWriteError := fun _ => 0#32
  swapReadError := fun _ => 0#32
  swapReadResid := fun _ => 0
  addEntryIndex := 0#32
  nullStoreTraps := true

def Env.unlocked (env : Env) : Env := { env with locked := false }

end Os161.Vm
