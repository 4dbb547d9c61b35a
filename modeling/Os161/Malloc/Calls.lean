import Os161.Malloc.Lemmas

namespace Os161.Malloc

open Lib.Tiling

variable {heap : Heap} {b : Block} {size : Nat}

def splitFirst (mh : MHeader) (size : Nat) : MHeader :=
  { mh with nextblock := (size + MBLOCKSIZE) / MBLOCKSIZE }

def splitSecond (total size : Nat) : MHeader :=
  ⟨(size + MBLOCKSIZE) / MBLOCKSIZE, 0, MMAGIC, (total - (size + MBLOCKSIZE)) / MBLOCKSIZE, false,
    MMAGIC⟩

def Heap.split (heap : Heap) (m total size : Nat) : Heap :=
  (heap.set m (splitFirst (heap.mem m) size)).set (m + (size + MBLOCKSIZE))
    (splitSecond total size)

def Heap.link (heap : Heap) (x prev : Nat) : Heap :=
  heap.set x { heap.mem x with prevblock := prev / MBLOCKSIZE }

section Search

lemma search_spec (size fuel : Nat) (h : Tiled heap (xs ++ ys)) (hfuel : ys.length < fuel) :
    (∃ zs b ws, ys = zs ++ b :: ws ∧ b.inuse = false ∧ size + MBLOCKSIZE ≤ b.size ∧
      search heap size fuel (heap.heapbase + span Block.size xs)
          (lastStart Block.size none heap.heapbase xs) (last Block.size 0 xs / MBLOCKSIZE) =
        .ok (.found (heap.heapbase + span Block.size (xs ++ zs)))) ∨
    ((∀ b ∈ ys, b.inuse = true ∨ b.size < size + MBLOCKSIZE) ∧
      search heap size fuel (heap.heapbase + span Block.size xs)
          (lastStart Block.size none heap.heapbase xs) (last Block.size 0 xs / MBLOCKSIZE) =
        .ok (.notFound (lastStart Block.size none heap.heapbase (xs ++ ys))
          (last Block.size 0 (xs ++ ys) / MBLOCKSIZE))) := by
  induction ys generalizing xs fuel with
  | nil =>
    obtain ⟨fuel, rfl⟩ : ∃ f, fuel = f + 1 := ⟨fuel - 1, by simp at hfuel; omega⟩
    have htop := h.top
    rw [List.append_nil] at htop
    refine .inr ⟨by simp, ?_⟩
    rw [search, if_pos (by omega), if_neg (by omega), List.append_nil]
  | cons b ys ih =>
    obtain ⟨fuel, rfl⟩ : ∃ f, fuel = f + 1 := ⟨fuel - 1, by simp at hfuel; omega⟩
    have hMB := mblocksize
    have hb := h.header
    have hmin := hb.min
    have htop := h.top
    rw [span_append, span] at htop
    have hok : ¬ (heap.mem (heap.heapbase + span Block.size xs)).ok = false := by simp [hb.isOk]
    rw [search, if_neg (by omega), if_neg hok, if_neg (by simpa using hb.prevblock), hb.inuse,
      hb.dataSize h.block_lt]
    by_cases hskip : b.inuse = true ∨ b.size - MBLOCKSIZE < size
    · rw [if_pos hskip, hb.nextoff, hb.nextblock]
      have hnext : Tiled heap ((xs ++ [b]) ++ ys) := by
        rw [List.append_assoc]
        exact h
      have hrest := ih fuel hnext (by simp at hfuel; omega)
      have haddr : heap.heapbase + span Block.size (xs ++ [b]) =
          heap.heapbase + span Block.size xs + b.size := by
        simp only [span_append, span]
        omega
      have hstart : lastStart Block.size none heap.heapbase (xs ++ [b]) =
          some (heap.heapbase + span Block.size xs) := by
        rw [lastStart_append]
        rfl
      have hprev : last Block.size 0 (xs ++ [b]) = b.size := by
        rw [last_append]
        rfl
      rw [haddr, hstart, hprev] at hrest
      rcases hrest with ⟨zs, c, ws, rfl, hfree, hfit, hrun⟩ | ⟨hall, hrun⟩
      · refine .inl ⟨b :: zs, c, ws, rfl, hfree, hfit, ?_⟩
        rw [hrun, List.append_assoc]
        rfl
      refine .inr ⟨?_, ?_⟩
      · intro c hc
        rcases List.mem_cons.mp hc with rfl | hc
        · exact hskip.imp_right fun hlt => by omega
        · exact hall c hc
      · rw [hrun, List.append_assoc]
        rfl
    rw [if_neg hskip]
    push Not at hskip
    refine .inl ⟨[], b, ys, rfl, by simpa using hskip.1, by omega, ?_⟩
    rw [List.append_nil]

end Search

section Merge

end Merge

end Os161.Malloc
