import Mathlib.Data.Finset.Card
import Mathlib.Data.Finset.Range
import Mathlib.Tactic.Common

namespace Os161.Lib.Count

open Function Finset

variable {α β : Type}

def count (S : Finset α) (q : β → Prop) [DecidablePred q] (f : α → β) : Nat :=
  (S.filter fun a => q (f a)).card

variable {S : Finset α} {q : β → Prop} [DecidablePred q]

lemma count_eq_zero : count S q f = 0 ↔ ∀ a ∈ S, ¬ q (f a) := by
  rw [count, card_eq_zero, filter_eq_empty_iff]

lemma count_congr (h : ∀ a ∈ S, q (f a) ↔ q (g a)) : count S q f = count S q g := by
  rw [count, count, filter_congr h]

lemma count_range_succ (n : Nat) :
    count (Finset.range (n + 1)) q f = count (Finset.range n) q f + if q (f n) then 1 else 0 := by
  rw [count, count, range_add_one, filter_insert]
  by_cases hq : q (f n)
  · rw [if_pos hq, if_pos hq, card_insert_of_notMem (by simp)]
  · rw [if_neg hq, if_neg hq, Nat.add_zero]

lemma count_lt_count [DecidablePred q'] (h : ∀ b ∈ S, q (f b) → q' (g b)) (ha : a ∈ S)
    (hg : q' (g a)) (hf : ¬ q (f a)) : count S q f < count S q' g := by
  refine card_lt_card (ssubset_iff_of_subset ?_ |>.mpr ⟨a, ?_, ?_⟩)
  · exact fun b hb => mem_filter.mpr
      ⟨(mem_filter.mp hb).1, h b (mem_filter.mp hb).1 (mem_filter.mp hb).2⟩
  · exact mem_filter.mpr ⟨ha, hg⟩
  · exact fun hmem => hf (mem_filter.mp hmem).2

variable [DecidableEq α]

lemma count_erase (ha : a ∈ S) :
    count S q f = count (S.erase a) q f + if q (f a) then 1 else 0 := by
  rw [count, count, filter_erase]
  by_cases hq : q (f a)
  · rw [if_pos hq, card_erase_add_one (mem_filter.mpr ⟨ha, hq⟩)]
  · rw [if_neg hq, erase_eq_of_notMem (by simp [hq]), Nat.add_zero]

lemma count_update (ha : a ∈ S) (b : β) : count S q (update f a b) + (if q (f a) then 1 else 0) =
      count S q f + if q b then 1 else 0 := by
  have hrest : count (S.erase a) q (update f a b) = count (S.erase a) q f :=
    count_congr fun c hc => by rw [update_of_ne (ne_of_mem_erase hc)]
  rw [count_erase ha (f := update f a b), count_erase ha (f := f), hrest, update_self]
  omega

end Os161.Lib.Count
