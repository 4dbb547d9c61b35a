import Os161.Malloc

namespace Os161.Malloc

open Function Lib.Tiling

structure Block where
  size : Nat
  inuse : Bool
  deriving DecidableEq, Repr

structure Describes (mh : MHeader) (prev : Nat) (b : Block) : Prop where
  prevblock : mh.prevblock = prev / MBLOCKSIZE
  magic1 : mh.magic1 = MMAGIC
  magic2 : mh.magic2 = MMAGIC
  nextblock : mh.nextblock = b.size / MBLOCKSIZE
  inuse : mh.inuse = b.inuse
  min : MBLOCKSIZE ≤ b.size
  whole : b.size % MBLOCKSIZE = 0

abbrev Header (mem : Nat → MHeader) (x prev : Nat) (b : Block) : Prop := Describes (mem x) prev b

abbrev Row (mem : Nat → MHeader) (a prev : Nat) (bs : List Block) : Prop :=
  Each Block.size (Header mem) a prev bs

structure Tiled (heap : Heap) (bs : List Block) : Prop where
  row : Row heap.mem heap.heapbase 0 bs
  top : heap.heapbase + span Block.size bs = heap.heaptop
  bound : span Block.size bs < 0x80000000

section Words

lemma mblocksize : MBLOCKSIZE = 8 := rfl

lemma sub_of_le (hle : b ≤ a) (ha : a < 0x100000000) : sub a b = a - b := by
  unfold sub
  omega

end Words

section Headers

variable {prev : Nat} {b : Block}

variable {mh : MHeader}

section

variable (h : Describes mh prev b)

include h

lemma Describes.nextoff : mh.nextoff = b.size := by
  have hwhole := h.whole
  unfold MHeader.nextoff
  rw [h.nextblock]
  unfold MBLOCKSIZE at *
  omega

lemma Describes.dataSize (hb : b.size < 0x80000000) : mh.size = b.size - MBLOCKSIZE := by
  unfold MHeader.size
  rw [h.nextoff]
  exact sub_of_le h.min (by omega)

lemma Describes.isOk : mh.ok = true := by
  simp [MHeader.ok, h.magic1, h.magic2]

lemma Describes.pos : 0 < b.size :=
  Nat.lt_of_lt_of_le (by decide) h.min

end

lemma row_congr (h : Row mem a prev bs) (hsame : ∀ x b, At Block.size a bs x b → mem' x = mem x) :
    Row mem' a prev bs :=
  each_imp h fun x _ b hx hheader => show Describes _ _ _ from (hsame x b hx) ▸ hheader

lemma row_lt (h : Row mem a prev bs) (hx : At Block.size a bs x b) :
    x < a + span Block.size bs := by
  have hrange := at_range hx
  obtain ⟨p, hheader⟩ := each_at h hx
  have := hheader.pos
  omega

end Headers

def SameVars (heap heap' : Heap) : Prop := heap' = { heap with mem := heap'.mem }

section Tilings

variable {heap : Heap} {xs ys k : List Block}

lemma Tiled.block_lt (h : Tiled heap (xs ++ b :: ys)) : b.size < 0x80000000 := by
  have hbound := h.bound
  rw [span_append, span] at hbound
  omega

lemma Tiled.header (h : Tiled heap (xs ++ b :: ys)) :
    Header heap.mem (heap.heapbase + span Block.size xs) (last Block.size 0 xs) b :=
  (each_append.mp h.row).2.1

lemma Tiled.below (h : Tiled heap (xs ++ ys)) (hx : At Block.size heap.heapbase xs x c) :
    x < heap.heapbase + span Block.size xs :=
  row_lt (each_append.mp h.row).1 hx

section

variable (h : Tiled heap (xs ++ (k ++ ys)))

include h

lemma Tiled.replace (hbase : heap'.heapbase = heap.heapbase)
    (htop : heap'.heapbase + span Block.size (xs ++ (l ++ ys)) = heap'.heaptop)
    (hbound : span Block.size (xs ++ (l ++ ys)) < 0x80000000)
    (hxs : ∀ x < heap.heapbase + span Block.size xs, heap'.mem x = heap.mem x)
    (hmid : Row heap'.mem (heap.heapbase + span Block.size xs) (last Block.size 0 xs) l)
    (hys : Row heap'.mem (heap.heapbase + span Block.size xs + span Block.size l)
      (last Block.size (last Block.size 0 xs) l) ys) : Tiled heap' (xs ++ (l ++ ys)) := by
  refine ⟨?_, htop, hbound⟩
  rw [hbase]
  refine each_append.mpr ⟨?_, each_append.mpr ⟨hmid, hys⟩⟩
  exact row_congr (each_append.mp h.row).1 fun x c hx => hxs x (h.below hx)

lemma Tiled.rest : Row heap.mem (heap.heapbase + span Block.size xs + span Block.size k)
      (last Block.size (last Block.size 0 xs) k) ys :=
  (each_append.mp (each_append.mp h.row).2).2

end

lemma Tiled.grow (h : Tiled heap (xs ++ [b]))
    (hmore : more % MBLOCKSIZE = 0) (hbase : heap'.heapbase = heap.heapbase)
    (htop : heap'.heaptop = heap.heaptop + more)
    (hbound : heap'.heaptop < heap.heapbase + 0x80000000)
    (hfirst : heap'.mem (heap.heapbase + span Block.size xs) =
      { heap.mem (heap.heapbase + span Block.size xs) with
        nextblock := (b.size + more) / MBLOCKSIZE, inuse := true })
    (hbelow : ∀ x < heap.heapbase + span Block.size xs, heap'.mem x = heap.mem x) :
    Tiled heap' (xs ++ [⟨b.size + more, true⟩]) := by
  have hb := h.header
  have hspan := h.top
  simp only [span_append, span, Nat.add_zero] at hspan
  refine Tiled.replace (k := [b]) (l := [⟨b.size + more, true⟩])
    (show Tiled heap (xs ++ ([b] ++ [])) from h) hbase ?_ ?_ hbelow ⟨?_, trivial⟩ trivial
  · simp only [List.append_nil, span_append, span, hbase, htop]
    omega
  · simp only [List.append_nil, span_append, span]
    omega
  have hmin := hb.min
  have hwhole := hb.whole
  rw [Header, hfirst]
  refine ⟨hb.prevblock, hb.magic1, hb.magic2, rfl, rfl, ?_, ?_⟩
  · exact Nat.le_trans hmin (Nat.le_add_right _ _)
  · simp only [MBLOCKSIZE] at *
    omega

lemma Tiled.extend (h : Tiled heap bs)
    (hbase : heap'.heapbase = heap.heapbase) (htop : heap'.heaptop = heap.heaptop + more)
    (hbound : heap'.heaptop < heap.heapbase + 0x80000000)
    (hnew : Describes (heap'.mem heap.heaptop) (last Block.size 0 bs) ⟨more, true⟩)
    (hbelow : ∀ x < heap.heaptop, heap'.mem x = heap.mem x) :
    Tiled heap' (bs ++ [⟨more, true⟩]) := by
  have hspan := h.top
  refine ⟨?_, ?_, ?_⟩
  · rw [hbase]
    refine each_append.mpr ⟨row_congr h.row fun x c hx => hbelow x ?_, ?_, trivial⟩
    · have := row_lt h.row hx
      omega
    · rw [hspan]
      exact hnew
  · simp only [span_append, span]
    omega
  · simp only [span_append, span]
    omega

end Tilings

end Os161.Malloc
