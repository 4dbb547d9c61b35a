import Mathlib.Logic.Relation
import Os161.Malloc.Shape

namespace Os161.Malloc

open Function Lib.Tiling

structure World where
  heap : Heap
  live : Nat → Option Nat

inductive Step : World → World → Prop where
  | malloc {w : World} (refuse : Nat → Bool) {size p : Nat} {heap : Heap}
      (hsize : size ≤ 0x40000000) (hrun : malloc refuse w.heap size = .ok (some p, heap)) :
      Step w ⟨heap, update w.live p (some size)⟩
  | null {w : World} (refuse : Nat → Bool) {size : Nat} {heap : Heap}
      (hsize : size ≤ 0x40000000) (hrun : malloc refuse w.heap size = .ok (none, heap)) :
      Step w ⟨heap, w.live⟩
  | free {w : World} {p size : Nat} {heap : Heap} (hlive : w.live p = some size)
      (hrun : free w.heap p = .ok heap) : Step w ⟨heap, update w.live p none⟩
  -- the program writes what it likes to the memory it holds
  | store {w : World} (mem : Nat → MHeader)
      (hmem : ∀ x, mem x ≠ w.heap.mem x → ∃ p size, w.live p = some size ∧ p ≤ x ∧ x < p + size) :
      Step w ⟨{ w.heap with mem := mem }, w.live⟩

def Owned (a : Nat) (bs : List Block) (live : Nat → Option Nat) : Prop :=
  ∀ p size, live p = some size → ∃ x b, p = data x ∧ At Block.size a bs x b ∧ b.inuse = true ∧
    size + MBLOCKSIZE ≤ b.size

def Good (w : World) : Prop :=
  (Unset w.heap ∧ w.live = fun _ => none) ∨
    ∃ bs, Shape w.heap bs ∧ Owned w.heap.heapbase bs w.live

section Runs

end Runs

structure Sound (w : World) : Prop where
  -- the headers from the base end at the top, each with the size of the block before it, and
  -- no two adjacent blocks are free
  tiled : w.heap.heapbase ≠ 0 → ∃ bs, Tiled w.heap bs ∧
    ∀ xs b c ys, bs = xs ++ b :: c :: ys → b.inuse = true ∨ c.inuse = true
  aligned : ∀ p size, w.live p = some size → p % MBLOCKSIZE = 0
  large : ∀ p size, w.live p = some size → size ≤ (w.heap.mem (p - MBLOCKSIZE)).size
  inside : ∀ p size, w.live p = some size → w.heap.heapbase ≤ p ∧
    p + (w.heap.mem (p - MBLOCKSIZE)).size ≤ w.heap.heaptop
  disjoint : ∀ p q m n, w.live p = some m → w.live q = some n → p ≠ q →
    p + (w.heap.mem (p - MBLOCKSIZE)).size ≤ q ∨ q + (w.heap.mem (q - MBLOCKSIZE)).size ≤ p
  -- no check fires; the first call alone may end in err() when sbrk fails
  malloc_returns : ∀ refuse size, size ≤ 0x40000000 →
    (∃ result heap, malloc refuse w.heap size = .ok (result, heap)) ∨
      w.heap.heapbase = 0 ∧ ∃ message, malloc refuse w.heap size = .error (.err message)
  free_returns : ∀ p size, w.live p = some size → ∃ heap, free w.heap p = .ok heap
  null_unchanged : ∀ refuse size heap, size ≤ 0x40000000 →
    malloc refuse w.heap size = .ok (none, heap) →
      heap.mem = w.heap.mem ∧ (w.heap.heapbase ≠ 0 → heap = w.heap)

section Sound

variable {w : World}

end Sound

def newProcess : Heap := ⟨fun _ => deadbeef, 0, 0, 0x10000000, 0x7f000000⟩

end Os161.Malloc
