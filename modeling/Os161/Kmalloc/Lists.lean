import Os161.Kmalloc
import Os161.Lib.Chain

namespace Os161.Kmalloc

open Lib.Chain
open Vm Kheap

variable {s : Kheap} {pr : Nat}

lemma findRef_run (fuel a : Nat) (h : Linked 0 next a xs) (hfuel : xs.length < fuel)
    (htest : ∀ x ∈ xs, test x = true) :
    (findRef next test stop expr fuel a).run s = .ok ((xs.find? stop).getD 0) s := by
  induction xs generalizing fuel a with
  | nil =>
    obtain ⟨n, rfl⟩ := Nat.exists_eq_add_one_of_ne_zero (Nat.ne_of_gt hfuel)
    obtain rfl : a = 0 := h
    simp [findRef]
  | cons x xs ih =>
    obtain ⟨n, rfl⟩ := Nat.exists_eq_add_one_of_ne_zero (show fuel ≠ 0 by omega)
    obtain ⟨rfl, hnull, hrest⟩ := h
    have htail := ih n (next a) hrest (by simpa using hfuel)
      fun y hy => htest y (List.mem_cons_of_mem a hy)
    cases hstop : stop a with
    | true => simp [findRef, hnull, htest a List.mem_cons_self, hstop, kassert]
    | false => simpa [findRef, hnull, htest a List.mem_cons_self, hstop] using htail

lemma findGuy_run (fuel : Nat) (c : Option Nat)
    (h : Linked 0 (fun x => cell (some x)) (cell c) (pre ++ pr :: post))
    (hfuel : pre.length < fuel) :
    (findGuy cell pr fuel c).run s = .ok (lastCell c pre) s := by
  induction pre generalizing fuel c with
  | nil =>
    obtain ⟨n, rfl⟩ := Nat.exists_eq_add_one_of_ne_zero (Nat.ne_of_gt hfuel)
    simp [findGuy, lastCell, h.1]
  | cons y ys ih =>
    obtain ⟨n, rfl⟩ := Nat.exists_eq_add_one_of_ne_zero (show fuel ≠ 0 by omega)
    have hne : y ≠ pr := by
      rintro rfl
      exact (List.nodup_cons.mp h.nodup).1 (by simp)
    have htail := ih n (some y) h.2.2 (by simpa using hfuel)
    simpa [findGuy, lastCell, h.1, h.2.1, hne] using htail

lemma samesizeCell_set (s : Kheap) (b : Nat) (guy : Option Nat) (value : Nat) :
    (s.setSamesizeCell b guy value).samesizeCell b =
      Function.update (s.samesizeCell b) guy value := by
  funext c
  cases guy with
  | none => cases c <;> simp [setSamesizeCell, samesizeCell]
  | some p =>
    cases c with
    | none => simp [setSamesizeCell, samesizeCell]
    | some q =>
      by_cases hq : q = p
      · simp [setSamesizeCell, samesizeCell, hq]
      · simp [setSamesizeCell, samesizeCell, hq]

lemma allCell_set (s : Kheap) (guy : Option Nat) (value : Nat) :
    (s.setAllCell guy value).allCell = Function.update s.allCell guy value := by
  funext c
  cases guy with
  | none => cases c <;> simp [setAllCell, allCell]
  | some p =>
    cases c with
    | none => simp [setAllCell, allCell]
    | some q =>
      by_cases hq : q = p
      · simp [setAllCell, allCell, hq]
      · simp [setAllCell, allCell, hq]

def Pageref.info (pr : Pageref) : Nat × Nat × Nat :=
  (pr.pageaddrAndBlocktype, pr.freelistOffset, pr.nfree)

structure Relinked (s t : Kheap) : Prop where
  kheaproots : t.kheaproots = s.kheaproots
  mem : t.mem = s.mem
  kpages : t.kpages = s.kpages
  info : ∀ p, (t.pageref p).info = (s.pageref p).info

lemma relinked_samesize (s : Kheap) (b : Nat) (guy : Option Nat) (value : Nat) :
    Relinked s (s.setSamesizeCell b guy value) := by
  cases guy with
  | none => exact ⟨rfl, rfl, rfl, fun _ => rfl⟩
  | some q =>
    refine ⟨rfl, rfl, rfl, fun p => ?_⟩
    by_cases hp : p = q
    · subst hp
      simp [setSamesizeCell, Pageref.info]
    · simp [setSamesizeCell, hp]

lemma relinked_all (s : Kheap) (guy : Option Nat) (value : Nat) :
    Relinked s (s.setAllCell guy value) := by
  cases guy with
  | none => exact ⟨rfl, rfl, rfl, fun _ => rfl⟩
  | some q =>
    refine ⟨rfl, rfl, rfl, fun p => ?_⟩
    by_cases hp : p = q
    · subst hp
      simp [setAllCell, Pageref.info]
    · simp [setAllCell, hp]

lemma Relinked.trans (h : Relinked s t) (h' : Relinked t u) : Relinked s u :=
  ⟨h'.kheaproots.trans h.kheaproots, h'.mem.trans h.mem, h'.kpages.trans h.kpages,
    fun p => (h'.info p).trans (h.info p)⟩

section

variable (s : Kheap) (b : Nat) (guy : Option Nat) (value : Nat)

lemma allCell_setSamesize :
    (s.setSamesizeCell b guy value).allCell = s.allCell := by
  funext c
  cases guy with
  | none => cases c <;> rfl
  | some p =>
    cases c with
    | none => rfl
    | some q =>
      by_cases hq : q = p
      · simp [setSamesizeCell, allCell, hq]
      · simp [setSamesizeCell, allCell, hq]

lemma samesizeCell_setAll :
    (s.setAllCell guy value).samesizeCell b = s.samesizeCell b := by
  funext c
  cases guy with
  | none => cases c <;> rfl
  | some p =>
    cases c with
    | none => rfl
    | some q =>
      by_cases hq : q = p
      · simp [setAllCell, samesizeCell, hq]
      · simp [setAllCell, samesizeCell, hq]

end

lemma linked_setSamesize_other (hb : b' ≠ b) (hguy : ∀ x ∈ xs, guy ≠ some x)
    (h : Linked 0 (fun x => s.samesizeCell b' (some x)) (s.samesizeCell b' none) xs) :
    Linked 0 (fun x => (s.setSamesizeCell b guy value).samesizeCell b' (some x))
      ((s.setSamesizeCell b guy value).samesizeCell b' none) xs := by
  cases guy with
  | none => simpa [setSamesizeCell, samesizeCell, hb] using h
  | some p =>
    refine h.congr fun x hx => ?_
    have hne : x ≠ p := fun heq => hguy x hx (by rw [heq])
    simp [setSamesizeCell, samesizeCell, hne]

lemma removeLists_run (hb : b < NSIZES)
    (hsame : Linked 0 (fun x => s.samesizeCell b (some x)) (s.samesizeCell b none)
      (pre ++ pr :: post))
    (hall : Linked 0 (fun x => s.allCell (some x)) (s.allCell none) (pre' ++ pr :: post'))
    (hfuel : pre.length ≤ TOTAL_PAGEREFS) (hfuel' : pre'.length ≤ TOTAL_PAGEREFS) :
    ∃ t, (removeLists pr b).run s = .ok () t ∧ Relinked s t ∧
      Linked 0 (fun x => t.samesizeCell b (some x)) (t.samesizeCell b none) (pre ++ post) ∧
      Linked 0 (fun x => t.allCell (some x)) (t.allCell none) (pre' ++ post') ∧
      ∀ b' ≠ b, ∀ xs, (∀ x ∈ xs, x ∉ pre) →
        Linked 0 (fun x => s.samesizeCell b' (some x)) (s.samesizeCell b' none) xs →
        Linked 0 (fun x => t.samesizeCell b' (some x)) (t.samesizeCell b' none) xs := by
  let u := s.setSamesizeCell b (lastCell none pre) (s.pageref pr).nextSamesize
  have hcell := hsame.cell_eq
  have hguy := findGuy_run (s := s) (TOTAL_PAGEREFS + 1) none hsame (by omega)
  have hall' : Linked 0 (fun x => u.allCell (some x)) (u.allCell none) (pre' ++ pr :: post') := by
    rw [allCell_setSamesize]
    exact hall
  have hcell' := hall'.cell_eq
  have hguy' := findGuy_run (s := u) (TOTAL_PAGEREFS + 1) none hall' (by omega)
  refine ⟨u.setAllCell (lastCell none pre') (u.pageref pr).nextAll, ?_,
    (relinked_samesize s ..).trans (relinked_all u ..), ?_, ?_, ?_⟩
  · simp [removeLists, hb, hguy, hcell, u, hguy', hcell']
  · rw [samesizeCell_setAll, samesizeCell_set]
    exact hsame.unlink (by simp)
  · rw [allCell_set]
    exact hall'.unlink (by simp)
  intro b' hb' xs hxs h
  rw [samesizeCell_setAll]
  refine linked_setSamesize_other hb' (fun x hx heq => ?_) h
  cases pre with
  | nil => cases heq
  | cons y ys =>
    obtain ⟨z, hz, hlast⟩ := lastCell_mem y ys
    rw [lastCell, hlast] at heq
    exact hxs x hx (Option.some.inj heq ▸ hz)

end Os161.Kmalloc
