import Os161.Lib.Tiling

namespace Os161.Malloc

def MBLOCKSIZE : Nat := 8
def MMAGIC : Nat := 2
def PAGE_SIZE : Nat := 4096

-- struct mheader. The memory of the heap is read and written in cells of this size.
structure MHeader where
  prevblock : Nat
  pad : Nat
  magic1 : Nat
  nextblock : Nat
  inuse : Bool
  magic2 : Nat
  deriving DecidableEq, Repr

def sub (a b : Nat) : Nat := (a + 0x100000000 - b) % 0x100000000

def MHeader.nextoff (mh : MHeader) : Nat := mh.nextblock * MBLOCKSIZE

def MHeader.prevoff (mh : MHeader) : Nat := mh.prevblock * MBLOCKSIZE

def MHeader.size (mh : MHeader) : Nat := sub mh.nextoff MBLOCKSIZE

def MHeader.ok (mh : MHeader) : Bool := mh.magic1 = MMAGIC && mh.magic2 = MMAGIC

def mkfield (off : Nat) : Nat := off / MBLOCKSIZE % 0x20000000

def deadbeef : MHeader := ⟨0x1bd5b7dd, 1, 3, 0x1bd5b7dd, true, 3⟩

inductive Fault where
  | errx (message : String)
  | assert (expr : String)
  | err (message : String)
  -- a loop that never ends
  | hang
  deriving DecidableEq, Repr

-- The variables of malloc.c, the memory, and the kernel's side: the break of the process and
-- the address that sbrk does not go up to.
structure Heap where
  mem : Nat → MHeader
  heapbase : Nat
  heaptop : Nat
  brk : Nat
  limit : Nat

def Heap.set (heap : Heap) (a : Nat) (mh : MHeader) : Heap :=
  { heap with mem := Function.update heap.mem a mh }

def Heap.deadbeef (heap : Heap) (ptr size : Nat) : Heap :=
  { heap with
    mem := fun x => if ptr ≤ x ∧ x < ptr + size then Malloc.deadbeef else heap.mem x }

-- sbrk may refuse any request, and returns the old break otherwise.
def sbrk (refuse : Nat → Bool) (heap : Heap) (change : Nat) : Option (Nat × Heap) :=
  if refuse change || heap.limit ≤ heap.brk + change then none
  else some (heap.brk, { heap with brk := heap.brk + change })

def mallocInit (refuse : Nat → Bool) (heap : Heap) : Except Fault Heap :=
  if heap.heapbase ≠ 0 ∨ heap.heaptop ≠ 0 then
    .error (.errx "malloc: Internal error - bad init call")
  else
    match sbrk refuse heap 0 with
    | none => .error (.err "malloc: initial sbrk failed")
    | some (x, heap) =>
      if x = 0 then .error (.errx "malloc: Internal error - heap began at 0")
      else if x % MBLOCKSIZE = 0 then .ok { heap with heapbase := x, heaptop := x }
      else
        let adjust := MBLOCKSIZE - x % MBLOCKSIZE
        match sbrk refuse heap adjust with
        | none => .error (.err "malloc: sbrk failed aligning heap base")
        | some (y, heap) =>
          if y ≠ x then .error (.err "malloc: heap base moved during init")
          else .ok { heap with heapbase := x + adjust, heaptop := x + adjust }

def mallocSbrk (refuse : Nat → Bool) (heap : Heap) (size : Nat) :
    Except Fault (Option (Nat × Heap)) :=
  match sbrk refuse heap size with
  | none => .ok none
  | some (x, heap) =>
    if x ≠ heap.heaptop then
      .error (.errx "malloc: Internal error - heap top moved itself from 0x%lx to 0x%lx")
    else .ok (some (x, { heap with heaptop := heap.heaptop + size }))

def mallocSplit (heap : Heap) (mh size : Nat) : Except Fault Heap :=
  if size % MBLOCKSIZE ≠ 0 then
    .error (.errx "malloc: Internal error (size %lu passed to split)")
  else if sub (heap.mem mh).size size < 2 * MBLOCKSIZE then .ok heap
  else
    let mhnext := mh + (heap.mem mh).nextoff
    let oldsize := (heap.mem mh).size
    let heap := heap.set mh { heap.mem mh with nextblock := mkfield (size + MBLOCKSIZE) }
    let mhnew := mh + (heap.mem mh).nextoff
    if mhnew = mhnext then .error (.errx "malloc: Internal error (split screwed up?)")
    else
      let heap := heap.set mhnew
        ⟨mkfield (size + MBLOCKSIZE), 0, MMAGIC, mkfield (sub oldsize size), false, MMAGIC⟩
      if mhnext ≠ heap.heaptop then
        .ok (heap.set mhnext { heap.mem mhnext with prevblock := (heap.mem mhnew).nextblock })
      else .ok heap

inductive Search where
  | found (mh : Nat)
  | notFound (mh : Option Nat) (rightprevblock : Nat)
  deriving DecidableEq, Repr

def search (heap : Heap) (size : Nat) : Nat → Nat → Option Nat → Nat → Except Fault Search
  | 0, _, _, _ => .error .hang
  | fuel + 1, i, mh, rightprevblock =>
    if heap.heaptop ≤ i then
      if i ≠ heap.heaptop then .error (.errx "malloc: Heap corrupt; ran off end")
      else .ok (.notFound mh rightprevblock)
    else if (heap.mem i).ok = false then
      .error (.errx "malloc: Heap corrupt; header at 0x%lx has bad magic bits")
    else if (heap.mem i).prevblock ≠ rightprevblock then
      .error (.errx
        "malloc: Heap corrupt; header at 0x%lx has bad previous-block size %lu (should be %lu)")
    else if (heap.mem i).inuse = true ∨ (heap.mem i).size < size then
      search heap size fuel (i + (heap.mem i).nextoff) (some i) (heap.mem i).nextblock
    else .ok (.found i)

def roundUp (size : Nat) : Nat := (size + MBLOCKSIZE - 1) / MBLOCKSIZE * MBLOCKSIZE

def roundPage (size : Nat) : Nat := PAGE_SIZE * ((size + PAGE_SIZE - 1) / PAGE_SIZE)

def data (mh : Nat) : Nat := mh + MBLOCKSIZE

def mallocGrow (refuse : Nat → Bool) (heap : Heap) (size mh : Nat) :
    Except Fault (Option Nat × Heap) :=
  if ¬ (heap.mem mh).size < size then .error (.assert "size > M_SIZE(mh)")
  else
    let morespace := roundPage (sub size (heap.mem mh).size)
    match mallocSbrk refuse heap morespace with
    | .error e => .error e
    | .ok none => .ok (none, heap)
    | .ok (some (_, heap)) =>
      let heap := heap.set mh
        { heap.mem mh with
          nextblock := mkfield ((heap.mem mh).nextoff + morespace)
          inuse := true }
      match mallocSplit heap mh size with
      | .error e => .error e
      | .ok heap => .ok (some (data mh), heap)

def mallocExtend (refuse : Nat → Bool) (heap : Heap) (size rightprevblock : Nat) :
    Except Fault (Option Nat × Heap) :=
  let morespace := roundPage (MBLOCKSIZE + size)
  match mallocSbrk refuse heap morespace with
  | .error e => .error e
  | .ok none => .ok (none, heap)
  | .ok (some (p, heap)) =>
    let heap := heap.set p ⟨rightprevblock, 0, MMAGIC, mkfield morespace, true, MMAGIC⟩
    match mallocSplit heap p size with
    | .error e => .error e
    | .ok heap => .ok (some (data p), heap)

-- malloc, once the heap is set up and the size is rounded. `none` is NULL. Every block has at
-- least one byte, which bounds the number of iterations.
def mallocRounded (refuse : Nat → Bool) (heap : Heap) (size : Nat) :
    Except Fault (Option Nat × Heap) :=
  match search heap size (heap.heaptop - heap.heapbase + 1) heap.heapbase none 0 with
  | .error e => .error e
  | .ok (.found mh) =>
    match mallocSplit heap mh size with
    | .error e => .error e
    | .ok heap => .ok (some (data mh), heap.set mh { heap.mem mh with inuse := true })
  | .ok (.notFound none rightprevblock) => mallocExtend refuse heap size rightprevblock
  | .ok (.notFound (some mh) rightprevblock) =>
    if (heap.mem mh).inuse = false then mallocGrow refuse heap size mh
    else mallocExtend refuse heap size rightprevblock

def Heap.corrupt (heap : Heap) : Prop :=
  heap.heapbase = 0 ∨ heap.heaptop = 0 ∨ heap.heaptop < heap.heapbase

instance (heap : Heap) : Decidable heap.corrupt := inferInstanceAs (Decidable (_ ∨ _ ∨ _))

def malloc (refuse : Nat → Bool) (heap : Heap) (size : Nat) : Except Fault (Option Nat × Heap) :=
  match if heap.heapbase = 0 then mallocInit refuse heap else .ok heap with
  | .error e => .error e
  | .ok heap =>
    if heap.corrupt then .error (.errx "malloc: heapbase 0x%lx; heaptop 0x%lx")
    else mallocRounded refuse heap (roundUp size)

def mallocTrymerge (heap : Heap) (mh mhnext : Nat) : Except Fault Heap :=
  if (heap.mem mh).nextblock ≠ (heap.mem mhnext).prevblock then
    .error (.errx "free: Heap corrupt (%p and %p inconsistent)")
  else if (heap.mem mh).inuse = true ∨ (heap.mem mhnext).inuse = true then .ok heap
  else
    let mhnextnext := mhnext + (heap.mem mhnext).nextoff
    let heap := heap.set mh
      { heap.mem mh with
        nextblock := mkfield (MBLOCKSIZE + (heap.mem mh).size + MBLOCKSIZE +
          (heap.mem mhnext).size) }
    let heap :=
      if mhnextnext ≠ heap.heaptop then
        heap.set mhnextnext
          { heap.mem mhnextnext with prevblock := (heap.mem mh).nextblock }
      else heap
    .ok (heap.deadbeef mhnext MBLOCKSIZE)

def freeBlock (heap : Heap) (mh : Nat) : Except Fault Heap :=
  let heap := heap.set mh { heap.mem mh with inuse := false }
  let heap := heap.deadbeef (data mh) (heap.mem mh).size
  let mhnext := mh + (heap.mem mh).nextoff
  match if mhnext ≠ heap.heaptop then mallocTrymerge heap mh mhnext else .ok heap with
  | .error e => .error e
  | .ok heap =>
    if mh ≠ heap.heapbase then mallocTrymerge heap (mh - (heap.mem mh).prevoff) mh
    else .ok heap

def free (heap : Heap) (x : Nat) : Except Fault Heap :=
  if x = 0 then .ok heap
  else if heap.corrupt then .error (.errx "free: heapbase 0x%lx; heaptop 0x%lx")
  else if x < heap.heapbase ∨ heap.heaptop ≤ x then
    .error (.errx "free: Invalid pointer %p freed (out of range)")
  else
    let mh := x - MBLOCKSIZE
    if (heap.mem mh).ok = false then
      .error (.errx "free: Invalid pointer %p freed (corrupt header)")
    else if (heap.mem mh).inuse = false then
      .error (.errx "free: Invalid pointer %p freed (already free)")
    else freeBlock heap mh

end Os161.Malloc
