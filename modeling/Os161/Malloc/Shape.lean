import Os161.Malloc.Calls

namespace Os161.Malloc

open Lib.Tiling

def Coalesced (used : Bool) : List Block → Prop
  | [] => True
  | b :: bs => (used = true ∨ b.inuse = true) ∧ Coalesced b.inuse bs

def TopHasData (bs : List Block) : Prop := 2 * MBLOCKSIZE ≤ last Block.size (2 * MBLOCKSIZE) bs

section Rows

end Rows

structure Vars (heap : Heap) : Prop where
  base : 0 < heap.heapbase
  aligned : heap.heapbase % MBLOCKSIZE = 0
  brk : heap.brk = heap.heaptop
  top : heap.heaptop < heap.limit
  address : heap.limit ≤ 0x100000000
  bound : heap.limit ≤ heap.heapbase + 0x80000000

structure Shape (heap : Heap) (bs : List Block) : Prop where
  vars : Vars heap
  tiled : Tiled heap bs
  coalesced : Coalesced true bs
  top : TopHasData bs

lemma Vars.same (h : Vars heap) (hsame : SameVars heap heap') : Vars heap' := by
  rw [hsame]
  exact ⟨h.base, h.aligned, h.brk, h.top, h.address, h.bound⟩

structure Placed (a size p : Nat) (bs bs' : List Block) : Prop where
  kept : ∀ x c, At Block.size a bs x c → c.inuse = true → At Block.size a bs' x c
  block : ∃ x b, p = data x ∧ At Block.size a bs' x b ∧ b.inuse = true ∧
    size + MBLOCKSIZE ≤ b.size

section Calls

variable {heap : Heap} {bs : List Block} {size : Nat}

def Served (heap : Heap) (bs : List Block) (size : Nat) (result : Option Nat) (heap' : Heap) :
    Prop :=
  (result = none ∧ heap' = heap) ∨
    ∃ p bs', result = some p ∧ heap'.heapbase = heap.heapbase ∧ heap'.limit = heap.limit ∧
      Shape heap' bs' ∧ Placed heap.heapbase size p bs bs'

section

variable (refuse : Nat → Bool) (h : Shape heap bs) (hwhole : size % MBLOCKSIZE = 0)
  (hsize : size ≤ 0x40000000)

include h hwhole hsize

end

structure Unset (heap : Heap) : Prop where
  heapbase : heap.heapbase = 0
  heaptop : heap.heaptop = 0
  brk : 0 < heap.brk
  address : heap.limit ≤ 0x100000000
  bound : heap.limit ≤ heap.brk + 0x80000000

end Calls

section Free

variable {heap : Heap} {xs ys : List Block} {b : Block}

section

variable (h : Tiled heap (xs ++ b :: ys))

include h

end

end Free

end Os161.Malloc
