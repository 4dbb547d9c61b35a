import Os161.Vm.Defs

-- The kernel heap of kern/vm/kmalloc.c, with GUARDS, LABELS and SLOW off. Calls come one after
-- another, so kmalloc_spinlock is left out; NULL is 0.

namespace Os161.Kmalloc

open Function Vm

def NSIZES : Nat := 8
def LARGEST_SUBPAGE_SIZE : Nat := 2048
def INVALID_OFFSET : Nat := 0xffff
def NPAGEREFS_PER_PAGE : Nat := 256
def NUM_PAGEREFPAGES : Nat := 16
def TOTAL_PAGEREFS : Nat := NUM_PAGEREFPAGES * NPAGEREFS_PER_PAGE

def PAGEREF_SIZE : Nat := 16

def sizes (blktype : Nat) : Nat := [16, 32, 64, 128, 256, 512, 1024, 2048].getD blktype 0

structure Pageref where
  nextSamesize : Nat
  nextAll : Nat
  pageaddrAndBlocktype : Nat
  freelistOffset : Nat
  nfree : Nat

def Pageref.pageaddr (pr : Pageref) : Nat := pr.pageaddrAndBlocktype / PAGE_SIZE * PAGE_SIZE
def Pageref.blocktype (pr : Pageref) : Nat := pr.pageaddrAndBlocktype % PAGE_SIZE
def mkpab (pa blk : Nat) : Nat := pa / PAGE_SIZE * PAGE_SIZE + blk % PAGE_SIZE

structure KheapRoot where
  page : Nat
  pagerefsInuse : List Word
  numinuse : Nat

structure Kheap where
  kheaproots : Nat → KheapRoot
  sizebases : Nat → Nat
  allbase : Nat
  -- the pagerefs on the pages of the roots, and the words on all other pages, by address
  pageref : Nat → Pageref
  mem : Nat → Nat
  -- the pages that alloc_kpages has handed out and that have not gone back: address and number
  kpages : List (Nat × Nat)
  -- the addresses that the next calls of alloc_kpages come up with
  answers : List Nat

abbrev Heap (α : Type) := EStateM Stop Kheap α

def Kheap.Fresh (s : Kheap) (va npages : Nat) : Prop :=
  va ≠ 0 ∧ va % PAGE_SIZE = 0 ∧ va + npages * PAGE_SIZE ≤ 0x100000000 ∧
    ∀ p ∈ s.kpages, va + npages * PAGE_SIZE ≤ p.1 ∨ p.1 + p.2 * PAGE_SIZE ≤ va

instance (s : Kheap) (va npages : Nat) : Decidable (s.Fresh va npages) :=
  inferInstanceAs (Decidable (_ ∧ _ ∧ _ ∧ _))

def allocKpages (npages : Nat) : Heap Nat :=
  modifyGet fun s =>
    match s.answers with
    | [] => (0, s)
    | va :: answers =>
      if s.Fresh va npages then
        (va, { s with kpages := (va, npages) :: s.kpages, answers := answers })
      else (0, { s with answers := answers })

def freeKpages (va : Nat) : Heap Unit := do
  let s ← get
  if s.kpages.any (·.1 = va) then
    set { s with kpages := s.kpages.eraseP (·.1 = va) }
  else throw .dangling

def KheapRoot.inuse (root : KheapRoot) (j : Nat) : Bool :=
  (root.pagerefsInuse.getD (j / 32) 0).getLsbD (j % 32)

def KheapRoot.take (root : KheapRoot) (j : Nat) : KheapRoot :=
  { root with
    pagerefsInuse := root.pagerefsInuse.modify (j / 32) (· ||| (1#32 <<< (j % 32)))
    numinuse := root.numinuse + 1 }

def KheapRoot.release (root : KheapRoot) (j : Nat) : KheapRoot :=
  { root with
    pagerefsInuse := root.pagerefsInuse.modify (j / 32) (· &&& ~~~(1#32 <<< (j % 32)))
    numinuse := root.numinuse - 1 }

def KheapRoot.holds (root : KheapRoot) (p : Nat) : Bool :=
  root.page ≤ p && (p - root.page) / PAGEREF_SIZE < NPAGEREFS_PER_PAGE

def setRoot (whichroot : Nat) (root : KheapRoot) : Heap Unit :=
  modify fun s => { s with kheaproots := update s.kheaproots whichroot root }

def setPageref (p : Nat) (pr : Pageref) : Heap Unit :=
  modify fun s => { s with pageref := update s.pageref p pr }

def allocpagerefpage (whichroot : Nat) : Heap Unit := do
  let s ← get
  kassert ((s.kheaproots whichroot).page = 0) "root->page == NULL"
  let va ← allocKpages 1
  if va = 0 then pure ()
  else do
    kassert (va % PAGE_SIZE = 0) "va % PAGE_SIZE == 0"
    let s ← get
    if (s.kheaproots whichroot).page ≠ 0 then freeKpages va
    else setRoot whichroot { s.kheaproots whichroot with page := va }

def findRoot (s : Kheap) : Option Nat :=
  (List.range NUM_PAGEREFPAGES).find? fun whichroot =>
    (s.kheaproots whichroot).numinuse < NPAGEREFS_PER_PAGE &&
      (s.kheaproots whichroot).pagerefsInuse.any (· ≠ 0xffffffff#32)

def findClear (root : KheapRoot) : Option Nat :=
  match root.pagerefsInuse.findIdx? (· ≠ 0xffffffff#32) with
  | none => none
  | some i => (List.range 32).find? (fun j => !root.inuse (i * 32 + j)) |>.map (i * 32 + ·)

-- The bit stays set, and counted, when there is no page for the pageref.
def allocpageref : Heap Nat := do
  let s ← get
  match findRoot s with
  | none => pure 0
  | some whichroot =>
    match findClear (s.kheaproots whichroot) with
    | none => throw (.kassert "0")
    | some j => do
        setRoot whichroot ((s.kheaproots whichroot).take j)
        if (s.kheaproots whichroot).page = 0 then allocpagerefpage whichroot
        let s ← get
        if (s.kheaproots whichroot).page = 0 then pure 0
        else pure ((s.kheaproots whichroot).page + PAGEREF_SIZE * j)

def freepagerefFrom (p : Nat) : Nat → Nat → Heap Unit
  | 0, _ => throw (.kassert "0")
  | count + 1, whichroot => do
      let s ← get
      let root := s.kheaproots whichroot
      if root.page = 0 then do
        kassert (root.numinuse = 0) "root->numinuse == 0"
        freepagerefFrom p count (whichroot + 1)
      else if root.holds p then do
        let j := (p - root.page) / PAGEREF_SIZE
        kassert (root.inuse j) "(root->pagerefs_inuse[i] & k) != 0"
        kassert (0 < root.numinuse) "root->numinuse > 0"
        setRoot whichroot (root.release j)
      else freepagerefFrom p count (whichroot + 1)

def freepageref (p : Nat) : Heap Unit := freepagerefFrom p NUM_PAGEREFPAGES 0

-- A loop over a list of pagerefs that tests each one and stops at the first that `stop` picks,
-- or at NULL. No list is longer than there are pagerefs.
def findRef (next : Nat → Nat) (test stop : Nat → Bool) (expr : String) : Nat → Nat → Heap Nat
  | 0, _ => throw .hang
  | fuel + 1, pr =>
    if pr = 0 then pure 0
    else do
      kassert (test pr) expr
      if stop pr then pure pr else findRef next test stop expr fuel (next pr)

def findGuy (cell : Option Nat → Nat) (pr : Nat) : Nat → Option Nat → Heap (Option Nat)
  | 0, _ => throw .hang
  | fuel + 1, guy =>
    if cell guy = 0 ∨ cell guy = pr then pure guy else findGuy cell pr fuel (some (cell guy))

def Kheap.samesizeCell (s : Kheap) (blktype : Nat) : Option Nat → Nat
  | none => s.sizebases blktype
  | some p => (s.pageref p).nextSamesize

def Kheap.allCell (s : Kheap) : Option Nat → Nat
  | none => s.allbase
  | some p => (s.pageref p).nextAll

def Kheap.setSamesizeCell (s : Kheap) (blktype : Nat) (guy : Option Nat) (value : Nat) : Kheap :=
  match guy with
  | none => { s with sizebases := update s.sizebases blktype value }
  | some p =>
    let pr := { s.pageref p with nextSamesize := value }
    { s with pageref := update s.pageref p pr }

def Kheap.setAllCell (s : Kheap) (guy : Option Nat) (value : Nat) : Kheap :=
  match guy with
  | none => { s with allbase := value }
  | some p =>
    let pr := { s.pageref p with nextAll := value }
    { s with pageref := update s.pageref p pr }

def removeLists (pr blktype : Nat) : Heap Unit := do
  kassert (blktype < NSIZES) "blktype>=0 && blktype<NSIZES"
  let s ← get
  let guy ← findGuy (s.samesizeCell blktype) pr (TOTAL_PAGEREFS + 1) none
  if s.samesizeCell blktype guy = pr then
    set (s.setSamesizeCell blktype guy (s.pageref pr).nextSamesize)
  let s ← get
  let guy ← findGuy s.allCell pr (TOTAL_PAGEREFS + 1) none
  if s.allCell guy = pr then set (s.setAllCell guy (s.pageref pr).nextAll)

def blocktype (clientsz : Nat) : Heap Nat :=
  match (List.range NSIZES).find? (clientsz ≤ sizes ·) with
  | some i => pure i
  | none =>
    throw (.panic "Subpage allocator cannot handle allocation of size %zu\n"
      [BitVec.ofNat 32 clientsz])

def setMem (addr value : Nat) : Heap Unit :=
  modify fun s => { s with mem := update s.mem addr value }

def doalloc (pr : Nat) : Heap Nat := do
  let s ← get
  let ref := s.pageref pr
  kassert (ref.freelistOffset < PAGE_SIZE) "pr->freelist_offset < PAGE_SIZE"
  let prpage := ref.pageaddr
  let retptr := prpage + ref.freelistOffset
  let fl := s.mem retptr
  let nfree := ref.nfree - 1
  if fl ≠ 0 then do
    kassert (0 < nfree) "pr->nfree > 0"
    kassert (prpage ≤ fl ∧ fl - prpage < PAGE_SIZE) "fla - prpage < PAGE_SIZE"
    setPageref pr { ref with nfree := nfree, freelistOffset := fl - prpage }
  else do
    kassert (nfree = 0) "pr->nfree == 0"
    setPageref pr { ref with nfree := nfree, freelistOffset := INVALID_OFFSET }
  pure retptr

def carve (prpage blktype : Nat) (nfree : Nat) : Heap Unit := do
  setMem prpage 0
  Lib.Exec.loop (fun i => do
    setMem (prpage + i * sizes blktype) (prpage + (i - 1) * sizes blktype)
    kassert (prpage + i * sizes blktype ≠ prpage + (i - 1) * sizes blktype) "fl != fl->next")
    1 (nfree - 1)

def subpageKmalloc (sz : Nat) : Heap Nat := do
  let blktype ← blocktype sz
  let s ← get
  let pr ← findRef (fun pr => (s.pageref pr).nextSamesize)
    (fun pr => (s.pageref pr).blocktype = blktype) (fun pr => 0 < (s.pageref pr).nfree)
    "PR_BLOCKTYPE(pr) == blktype" (TOTAL_PAGEREFS + 1) (s.sizebases blktype)
  if pr ≠ 0 then doalloc pr
  else do
    let prpage ← allocKpages 1
    if prpage = 0 then pure 0
    else do
      kassert (prpage % PAGE_SIZE = 0) "prpage % PAGE_SIZE == 0"
      let pr ← allocpageref
      if pr = 0 then do
        freeKpages prpage
        pure 0
      else do
        let nfree := PAGE_SIZE / sizes blktype
        carve prpage blktype nfree
        let offset := (nfree - 1) * sizes blktype
        let s ← get
        setPageref pr ⟨s.sizebases blktype, s.allbase, mkpab prpage blktype, offset, nfree⟩
        modify fun s =>
          { s with sizebases := update s.sizebases blktype pr, allbase := pr }
        doalloc pr

def fillDeadbeef (ptr len : Nat) : Heap Unit :=
  Lib.Exec.loop (fun i => setMem (ptr + 4 * i) 0xdeadbeef) 0 (len / 4)

def subpageKfree (ptr : Nat) : Heap Bool := do
  let s ← get
  let pr ← findRef (fun pr => (s.pageref pr).nextAll)
    (fun pr => (s.pageref pr).blocktype < NSIZES)
    (fun pr => (s.pageref pr).pageaddr ≤ ptr ∧ ptr < (s.pageref pr).pageaddr + PAGE_SIZE)
    "blktype>=0 && blktype<NSIZES" (TOTAL_PAGEREFS + 1) s.allbase
  if pr = 0 then pure false
  else do
    let prpage := (s.pageref pr).pageaddr
    let blktype := (s.pageref pr).blocktype
    let offset := ptr - prpage
    if PAGE_SIZE ≤ offset ∨ offset % sizes blktype ≠ 0 then
      throw (.panic "kfree: subpage free of invalid addr %p\n" [BitVec.ofNat 32 ptr])
    fillDeadbeef ptr (sizes blktype)
    let ref := s.pageref pr
    if ref.freelistOffset = INVALID_OFFSET then setMem ptr 0
    else do
      setMem ptr (prpage + ref.freelistOffset)
      kassert (ptr ≠ prpage + ref.freelistOffset) "fl != fl->next"
    setPageref pr { ref with freelistOffset := offset, nfree := ref.nfree + 1 }
    kassert (ref.nfree + 1 ≤ PAGE_SIZE / sizes blktype) "pr->nfree <= PAGE_SIZE / sizes[blktype]"
    if ref.nfree + 1 = PAGE_SIZE / sizes blktype then do
      removeLists pr blktype
      freepageref pr
      freeKpages prpage
    pure true

def kmalloc (sz : Nat) : Heap Nat :=
  if LARGEST_SUBPAGE_SIZE ≤ sz then do
    let address ← allocKpages ((sz + PAGE_SIZE - 1) / PAGE_SIZE)
    if address = 0 then pure 0
    else do
      kassert (address % PAGE_SIZE = 0) "address % PAGE_SIZE == 0"
      pure address
  else subpageKmalloc sz

def kfree (ptr : Nat) : Heap Unit :=
  if ptr = 0 then pure ()
  else do
    let ours ← subpageKfree ptr
    if !ours then do
      kassert (ptr % PAGE_SIZE = 0) "(vaddr_t)ptr%PAGE_SIZE==0"
      freeKpages ptr

structure Block where
  addr : Nat
  sz : Nat
deriving DecidableEq

structure Machine where
  heap : Kheap
  live : List Block
  stopped : Option Stop

inductive Op where
  -- kmalloc, with what alloc_kpages will come up with
  | kmalloc (sz : Nat) (answers : List Nat)
  | kfree (ptr : Nat)
  -- a caller writes to a word of its block
  | store (addr value : Nat)

def Op.Allowed (m : Machine) : Op → Prop
  | .kmalloc sz _ => sz ≤ 0x80000000
  | .kfree ptr => ptr = 0 ∨ ∃ b ∈ m.live, b.addr = ptr
  | .store addr _ => ∃ b ∈ m.live, b.addr ≤ addr ∧ addr < b.addr + b.sz

def Op.perform (m : Machine) : Op → Machine
  | .kmalloc sz answers =>
    match (Kmalloc.kmalloc sz).run { m.heap with answers := answers } with
    | .ok ptr heap => { m with heap, live := if ptr = 0 then m.live else ⟨ptr, sz⟩ :: m.live }
    | .error stop heap => { m with heap, stopped := some stop }
  | .kfree ptr =>
    match (Kmalloc.kfree ptr).run m.heap with
    | .ok _ heap => { m with heap, live := m.live.filter (·.addr ≠ ptr) }
    | .error stop heap => { m with heap, stopped := some stop }
  | .store addr value =>
    { m with heap := { m.heap with mem := update m.heap.mem addr value } }

def step (op : Op) (m m' : Machine) : Prop :=
  m.stopped = none ∧ op.Allowed m ∧ m' = op.perform m

def emptyRoot : KheapRoot := ⟨0, List.replicate 8 0#32, 0⟩

def boot : Machine where
  heap :=
    { kheaproots := fun _ => emptyRoot
      sizebases := fun _ => 0
      allbase := 0
      pageref := fun _ => ⟨0, 0, 0, 0, 0⟩
      mem := fun _ => 0
      kpages := []
      answers := [] }
  live := []
  stopped := none

end Os161.Kmalloc
