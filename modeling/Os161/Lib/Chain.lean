import Mathlib.Data.List.Nodup
import Mathlib.Logic.Function.Basic
import Mathlib.Tactic.Common

namespace Os161.Lib.Chain

open Function List

variable {α : Type}

-- The nodes of a linked list: from the pointer `a`, `next` leads through `xs` and to `null`.
def Linked (null : α) (next : α → α) : α → List α → Prop
  | a, [] => a = null
  | a, x :: xs => a = x ∧ x ≠ null ∧ Linked null next (next x) xs

variable {null x : α} {next : α → α} {ys : List α}

lemma Linked.not_null (h : Linked null next a xs) (hx : x ∈ xs) : x ≠ null := by
  induction xs generalizing a with
  | nil => cases hx
  | cons y ys ih =>
    rcases mem_cons.mp hx with rfl | hx
    · exact h.2.1
    · exact ih h.2.2 hx

lemma Linked.unique (hx : Linked null next a xs) (hy : Linked null next a ys) : xs = ys := by
  induction xs generalizing a ys with
  | nil =>
    cases ys with
    | nil => rfl
    | cons y ys => exact absurd (hy.1.symm.trans hx) hy.2.1
  | cons x xs ih =>
    cases ys with
    | nil => exact absurd (hx.1.symm.trans hy) hx.2.1
    | cons y ys =>
      obtain rfl : x = y := hx.1.symm.trans hy.1
      rw [ih hx.2.2 hy.2.2]

lemma Linked.suffix (h : Linked null next a (xs ++ x :: ys)) : Linked null next x (x :: ys) := by
  induction xs generalizing a with
  | nil => exact ⟨rfl, h.2.1, h.2.2⟩
  | cons z zs ih => exact ih h.2.2

lemma Linked.nodup (h : Linked null next a xs) : xs.Nodup := by
  induction xs generalizing a with
  | nil => exact nodup_nil
  | cons x xs ih =>
    refine nodup_cons.mpr ⟨fun hmem => ?_, ih h.2.2⟩
    obtain ⟨pre, post, hsplit⟩ := append_of_mem hmem
    have hrest := h.2.2
    rw [hsplit] at hrest
    have hagain : Linked null next x (x :: (pre ++ x :: post)) := ⟨rfl, h.2.1, hrest⟩
    have hlength := congrArg List.length (hrest.suffix.unique hagain)
    simp only [length_cons, length_append] at hlength
    omega

lemma Linked.congr (h : Linked null next a xs) (hnext : ∀ x ∈ xs, next' x = next x) :
    Linked null next' a xs := by
  induction xs generalizing a with
  | nil => exact h
  | cons x xs ih =>
    refine ⟨h.1, h.2.1, ?_⟩
    rw [hnext x mem_cons_self]
    exact ih h.2.2 fun y hy => hnext y (mem_cons_of_mem x hy)

lemma Linked.push (h : Linked null next a xs) (hx : x ≠ null) (hfirst : next' x = a)
    (hnext : ∀ y ∈ xs, next' y = next y) : Linked null next' x (x :: xs) := by
  refine ⟨rfl, hx, ?_⟩
  rw [hfirst]
  exact h.congr hnext

-- The pointers that a loop over a list goes through: the head of the list, which is `none`, or
-- the `next` of a node. `cell` says what a pointer holds.
section Cells

variable {cell : Option α → α} {pre post : List α} {c : Option α}

-- The pointer behind the nodes `pre`, which come after `c`.
def lastCell (c : Option α) : List α → Option α
  | [] => c
  | y :: ys => lastCell (some y) ys

lemma lastCell_mem (y : α) (ys : List α) : ∃ z ∈ y :: ys, lastCell (some y) ys = some z := by
  induction ys generalizing y with
  | nil => exact ⟨y, mem_cons_self, rfl⟩
  | cons z zs ih =>
    obtain ⟨w, hw, hlast⟩ := ih z
    exact ⟨w, mem_cons_of_mem y hw, hlast⟩

section

variable (h : Linked null (fun x => cell (some x)) (cell c) (pre ++ x :: post))

include h

lemma Linked.cell_eq : cell (lastCell c pre) = x := by
  induction pre generalizing c with
  | nil => exact h.1
  | cons y ys ih => exact ih h.2.2

lemma Linked.unlink [DecidableEq α]
    (hc : ∀ y ∈ pre ++ x :: post, c ≠ some y) :
    Linked null (fun y => update cell (lastCell c pre) (cell (some x)) (some y))
      (update cell (lastCell c pre) (cell (some x)) c) (pre ++ post) := by
  induction pre generalizing c with
  | nil =>
    simp only [lastCell, update_self]
    refine h.2.2.congr fun y hy => update_of_ne (Ne.symm ?_) ..
    exact hc y (mem_cons_of_mem x hy)
  | cons y ys ih =>
    have hy : y ∉ ys ++ x :: post := (nodup_cons.mp h.nodup).1
    have hrest := ih h.2.2 fun z hz heq => hy (Option.some.inj heq ▸ hz)
    -- the pointer that changes is behind `y`, so `c` still leads to `y`
    obtain ⟨z, hz, hlast⟩ := lastCell_mem y ys
    have hne : c ≠ lastCell (some y) ys := by
      rw [hlast]
      refine hc z ?_
      rcases mem_cons.mp hz with rfl | hz
      · exact mem_cons_self
      · exact mem_cons_of_mem y (mem_append_left _ hz)
    refine ⟨?_, h.2.1, hrest⟩
    rw [lastCell, update_of_ne hne]
    exact h.1

end

end Cells

end Os161.Lib.Chain
