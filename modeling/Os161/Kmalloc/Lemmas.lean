import Mathlib.Data.List.Pairwise
import Mathlib.Data.List.Perm.Basic
import Os161.Kmalloc.Lists
import Os161.Kmalloc.Roots

namespace Os161.Kmalloc

open Lib.Chain List
open Vm

section Sizes

variable {sz page : Nat}

def classOf (sz : Nat) : Nat := ((List.range NSIZES).find? (sz ≤ sizes ·)).getD NSIZES

lemma sizes_spec : ∀ b < NSIZES, sizes b ∣ PAGE_SIZE ∧ 16 ≤ sizes b ∧ sizes b ≤ 2048 := by
  decide

lemma sizes_mul (hb : b < NSIZES) : PAGE_SIZE / sizes b * sizes b = PAGE_SIZE :=
  Nat.div_mul_cancel (sizes_spec b hb).1

lemma classOf_spec (hsz : sz ≤ LARGEST_SUBPAGE_SIZE) :
    classOf sz < NSIZES ∧ sz ≤ sizes (classOf sz) := by
  cases hfind : (List.range NSIZES).find? (sz ≤ sizes ·) with
  | none =>
    have := find?_eq_none.mp hfind 7 (by decide)
    exact absurd hsz (by simpa [sizes, LARGEST_SUBPAGE_SIZE] using this)
  | some b =>
    have hb : b < NSIZES := mem_range.mp (mem_of_find?_eq_some hfind)
    have hle := find?_some hfind
    rw [classOf, hfind, Option.getD_some]
    exact ⟨hb, of_decide_eq_true hle⟩

lemma blocktype_run (hsz : sz ≤ LARGEST_SUBPAGE_SIZE) (s : Kheap) :
    (blocktype sz).run s = .ok (classOf sz) s := by
  cases hfind : (List.range NSIZES).find? (sz ≤ sizes ·) with
  | none =>
    have hlt := (classOf_spec hsz).1
    simp [classOf, hfind] at hlt
  | some b => simp [blocktype, classOf, hfind]

def blocksOf (page size : Nat) : List Nat :=
  (List.range (PAGE_SIZE / size)).map fun k => page + k * size

lemma mem_blocksOf (hb : b < NSIZES) (hx : x ∈ blocksOf page (sizes b)) :
    page ≤ x ∧ x + sizes b ≤ page + PAGE_SIZE ∧ (x - page) % sizes b = 0 := by
  obtain ⟨k, hk, rfl⟩ := mem_map.mp hx
  rw [mem_range] at hk
  have hle : (k + 1) * sizes b ≤ PAGE_SIZE / sizes b * sizes b := Nat.mul_le_mul_right _ hk
  rw [sizes_mul hb, Nat.succ_mul] at hle
  refine ⟨Nat.le_add_right .., by omega, ?_⟩
  rw [Nat.add_sub_cancel_left, Nat.mul_mod_left]

lemma length_blocksOf (page size : Nat) : (blocksOf page size).length = PAGE_SIZE / size := by
  simp [blocksOf]

lemma nodup_blocksOf (hb : b < NSIZES) : (blocksOf page (sizes b)).Nodup := by
  refine List.Nodup.map_on (fun i _ j _ heq => ?_) nodup_range
  have hpos : 0 < sizes b := by
    have := (sizes_spec b hb).2.1
    omega
  exact Nat.eq_of_mul_eq_mul_right hpos (by omega)

lemma blocksOf_apart (hx : x ∈ blocksOf page (sizes b))
    (hy : y ∈ blocksOf page (sizes b)) (hxy : x ≠ y) : x + sizes b ≤ y ∨ y + sizes b ≤ x := by
  obtain ⟨i, -, rfl⟩ := mem_map.mp hx
  obtain ⟨j, -, rfl⟩ := mem_map.mp hy
  rcases Nat.lt_trichotomy i j with hij | rfl | hij
  · have := Nat.mul_le_mul_right (sizes b) hij
    rw [Nat.succ_mul] at this
    exact .inl (by omega)
  · exact absurd rfl hxy
  have := Nat.mul_le_mul_right (sizes b) hij
  rw [Nat.succ_mul] at this
  exact .inr (by omega)

lemma mkpab_spec (hpa : pa % PAGE_SIZE = 0) (hblk : blk < NSIZES)
    (same all offset nfree : Nat) :
    (⟨same, all, mkpab pa blk, offset, nfree⟩ : Pageref).pageaddr = pa ∧
      (⟨same, all, mkpab pa blk, offset, nfree⟩ : Pageref).blocktype = blk := by
  simp only [Pageref.pageaddr, Pageref.blocktype, mkpab, PAGE_SIZE, NSIZES] at *
  omega

end Sizes

section Pages

def Apart (p q : Nat × Nat) : Prop :=
  p.1 + p.2 * PAGE_SIZE ≤ q.1 ∨ q.1 + q.2 * PAGE_SIZE ≤ p.1

lemma Apart.symm (h : Apart p q) : Apart q p := Or.symm h

def Block.npages (b : Block) : Nat := (b.sz + PAGE_SIZE - 1) / PAGE_SIZE

lemma Block.npages_pos (b : Block) (hbig : LARGEST_SUBPAGE_SIZE ≤ b.sz) : 0 < b.npages := by
  simp only [Block.npages, LARGEST_SUBPAGE_SIZE, PAGE_SIZE] at *
  omega

def Block.pages (b : Block) : Option (Nat × Nat) :=
  if b.sz < LARGEST_SUBPAGE_SIZE then none else some (b.addr, b.npages)

def KheapRoot.pages (root : KheapRoot) : Option (Nat × Nat) :=
  if root.page = 0 then none else some (root.page, 1)

def rootPages (roots : Nat → KheapRoot) : List (Nat × Nat) :=
  (List.range NUM_PAGEREFPAGES).filterMap fun w => (roots w).pages

-- Every page from alloc_kpages is a page of pagerefs, a page under management, or part of a
-- big block; `extra` has those that are on the way between these uses.
structure Accounted (s : Kheap) (live : List Block) (extra : List (Nat × Nat))
    (all : List Nat) : Prop where
  kpages : s.kpages.Perm (extra ++ (rootPages s.kheaproots ++
    (all.map (fun p => ((s.pageref p).pageaddr, 1)) ++ live.filterMap Block.pages)))
  apart : s.kpages.Pairwise Apart
  aligned : ∀ q ∈ s.kpages, q.1 ≠ 0 ∧ q.1 % PAGE_SIZE = 0 ∧ 0 < q.2

end Pages

def Pageref.freelistHead (pr : Pageref) : Nat :=
  if pr.freelistOffset = INVALID_OFFSET then 0 else pr.pageaddr + pr.freelistOffset

def liveOn (page : Nat) (live : List Block) : List Nat :=
  (live.filter fun b => page ≤ b.addr ∧ b.addr < page + PAGE_SIZE).map Block.addr

structure Page (s : Kheap) (live : List Block) (p : Nat) (free : List Nat) : Prop where
  chain : Linked 0 s.mem (s.pageref p).freelistHead free
  nfree : (s.pageref p).nfree = free.length
  blocks : (free ++ liveOn (s.pageref p).pageaddr live).Perm
    (blocksOf (s.pageref p).pageaddr (sizes (s.pageref p).blocktype))

structure Layout where
  all : List Nat
  same : Nat → List Nat
  free : Nat → List Nat

def Slot (roots : Nat → KheapRoot) (p : Nat) : Prop :=
  ∃ w < NUM_PAGEREFPAGES, ∃ j < NPAGEREFS_PER_PAGE, (roots w).page ≠ 0 ∧
    p = (roots w).page + PAGEREF_SIZE * j ∧ (roots w).inuse j = true

structure Listed (s : Kheap) (g : Layout) : Prop where
  all : Linked 0 (fun x => s.allCell (some x)) (s.allCell none) g.all
  same : ∀ b < NSIZES,
    Linked 0 (fun x => s.samesizeCell b (some x)) (s.samesizeCell b none) (g.same b)
  mem_same : ∀ b < NSIZES, ∀ p, p ∈ g.same b ↔ p ∈ g.all ∧ (s.pageref p).blocktype = b
  type_lt : ∀ p ∈ g.all, (s.pageref p).blocktype < NSIZES
  slot : ∀ p ∈ g.all, Slot s.kheaproots p

structure Inv (s : Kheap) (live : List Block) (extra : List (Nat × Nat)) (g : Layout) : Prop where
  rooted : Rooted s.kheaproots
  listed : Listed s g
  pages : ∀ p ∈ g.all, Page s live p (g.free p)
  small : ∀ b ∈ live, b.sz < LARGEST_SUBPAGE_SIZE → ∃ p ∈ g.all,
    (s.pageref p).blocktype = classOf b.sz ∧ b.addr ∈ liveOn (s.pageref p).pageaddr live
  accounted : Accounted s live extra g.all

section Accounted

variable {s : Kheap} {live : List Block} {extra : List (Nat × Nat)} {all : List Nat}

section

variable (h : Accounted s live extra all)

include h

lemma Accounted.pairwise :
    (extra ++ (rootPages s.kheaproots ++
      (all.map (fun p => ((s.pageref p).pageaddr, 1)) ++ live.filterMap Block.pages))).Pairwise
        Apart :=
  (h.kpages.pairwise_iff fun hab => Apart.symm hab).mp h.apart

lemma Accounted.mem_page (hp : p ∈ all) :
    ((s.pageref p).pageaddr, 1) ∈ s.kpages := by
  refine h.kpages.mem_iff.mpr (mem_append_right _ (mem_append_right _ ?_))
  exact mem_append_left _ (mem_map.mpr ⟨p, hp, rfl⟩)

lemma Accounted.pageaddr_ne_zero (hp : p ∈ all) :
    (s.pageref p).pageaddr ≠ 0 :=
  (h.aligned _ (h.mem_page hp)).1

lemma Accounted.apart_pages (hp : p ∈ all) (hq : q ∈ all)
    (hpq : p ≠ q) : (s.pageref p).pageaddr + PAGE_SIZE ≤ (s.pageref q).pageaddr ∨
      (s.pageref q).pageaddr + PAGE_SIZE ≤ (s.pageref p).pageaddr := by
  have hpair := (pairwise_append.mp (pairwise_append.mp
    (pairwise_append.mp h.pairwise).2.1).2.1).1
  rw [pairwise_map] at hpair
  have : Std.Symm fun a b => Apart ((s.pageref a).pageaddr, 1) ((s.pageref b).pageaddr, 1) :=
    ⟨fun _ _ hab => hab.symm⟩
  simpa [Apart] using hpair.forall hp hq hpq

lemma Accounted.apart_big (hb : b ∈ live)
    (hbig : LARGEST_SUBPAGE_SIZE ≤ b.sz) (hp : p ∈ all) :
    (s.pageref p).pageaddr + PAGE_SIZE ≤ b.addr ∨
      b.addr + b.npages * PAGE_SIZE ≤ (s.pageref p).pageaddr := by
  have hcross := (pairwise_append.mp (pairwise_append.mp
    (pairwise_append.mp h.pairwise).2.1).2.1).2.2
  have hpages : (b.addr, b.npages) ∈ live.filterMap Block.pages :=
    mem_filterMap.mpr ⟨b, hb, by simp [Block.pages, Nat.not_lt.mpr hbig]⟩
  have hapart := hcross _ (mem_map.mpr ⟨p, hp, rfl⟩) _ hpages
  simpa [Apart] using hapart

end

lemma Accounted.apart_extra (h : Accounted s live ((va, n) :: extra) all) (hp : p ∈ all) :
    va + n * PAGE_SIZE ≤ (s.pageref p).pageaddr ∨ (s.pageref p).pageaddr + PAGE_SIZE ≤ va := by
  have hcross := (pairwise_append.mp h.pairwise).2.2
  have hapart := hcross (va, n) mem_cons_self _ (mem_append_right _
    (mem_append_left _ (mem_map.mpr ⟨p, hp, rfl⟩)))
  simpa [Apart] using hapart

lemma Accounted.apart_extra_big (h : Accounted s live ((va, n) :: extra) all) (hb : b ∈ live)
    (hbig : LARGEST_SUBPAGE_SIZE ≤ b.sz) :
    va + n * PAGE_SIZE ≤ b.addr ∨ b.addr + b.npages * PAGE_SIZE ≤ va := by
  have hcross := (pairwise_append.mp h.pairwise).2.2
  have hpages : (b.addr, b.npages) ∈ live.filterMap Block.pages :=
    mem_filterMap.mpr ⟨b, hb, by simp [Block.pages, Nat.not_lt.mpr hbig]⟩
  exact hcross (va, n) mem_cons_self _ (mem_append_right _ (mem_append_right _ hpages))

lemma Accounted.apart_roots (h : Accounted s live extra all) (hw : w < NUM_PAGEREFPAGES)
    (hv : v < NUM_PAGEREFPAGES) (hpage : (s.kheaproots w).page ≠ 0)
    (hpage' : (s.kheaproots v).page ≠ 0) (hwv : w ≠ v) :
    (s.kheaproots w).page + PAGE_SIZE ≤ (s.kheaproots v).page ∨
      (s.kheaproots v).page + PAGE_SIZE ≤ (s.kheaproots w).page := by
  have hpair := (pairwise_append.mp (pairwise_append.mp h.pairwise).2.1).1
  rw [rootPages, pairwise_filterMap] at hpair
  have : Std.Symm fun x y => ∀ b, (s.kheaproots x).pages = some b →
      ∀ b', (s.kheaproots y).pages = some b' → Apart b b' :=
    ⟨fun _ _ hxy b hb b' hb' => (hxy b' hb' b hb).symm⟩
  have hapart := hpair.forall (mem_range.mpr hw) (mem_range.mpr hv) hwv
    _ (if_neg hpage) _ (if_neg hpage')
  simpa [Apart] using hapart

lemma Accounted.alloc (h : Accounted s live extra all) (hfresh : s.Fresh va n) (hn : 0 < n)
    (hkpages : t.kpages = (va, n) :: s.kpages) (hroots : t.kheaproots = s.kheaproots)
    (hrefs : t.pageref = s.pageref) : Accounted t live ((va, n) :: extra) all := by
  obtain ⟨hva, haligned, -, hapart⟩ := hfresh
  refine ⟨?_, ?_, ?_⟩
  · rw [hkpages, hroots, hrefs]
    exact h.kpages.cons (va, n)
  · rw [hkpages]
    exact pairwise_cons.mpr ⟨hapart, h.apart⟩
  rw [hkpages]
  intro q hq
  rcases mem_cons.mp hq with rfl | hq
  · exact ⟨hva, haligned, hn⟩
  · exact h.aligned q hq

lemma Accounted.free (h : Accounted s live ((va, n) :: extra) all) :
    ∃ kpages, (freeKpages va).run s = .ok () { s with kpages := kpages } ∧
      Accounted { s with kpages := kpages } live extra all := by
  have hmem : (va, n) ∈ s.kpages := h.kpages.mem_iff.mpr mem_cons_self
  obtain ⟨q, pre, post, -, hq, hsplit, herase⟩ := exists_of_eraseP (p := (·.1 = va)) hmem
    (by simp)
  have hqva : q = (va, n) := by
    by_contra hne
    have : Std.Symm Apart := ⟨fun _ _ hab => hab.symm⟩
    have hqmem : q ∈ s.kpages := by simp [hsplit]
    have hapart := h.apart.forall hqmem hmem hne
    have hpos := (h.aligned _ hmem).2.2
    have hpos' := (h.aligned _ hqmem).2.2
    simp only [Apart, PAGE_SIZE, decide_eq_true_eq] at hapart hq hpos
    omega
  subst hqva
  have hperm : s.kpages.Perm ((va, n) :: s.kpages.eraseP (·.1 = va)) := by
    rw [herase, hsplit]
    exact perm_middle
  refine ⟨s.kpages.eraseP (·.1 = va), ?_, ?_, ?_, fun q hq => ?_⟩
  · have hany : s.kpages.any (·.1 = va) = true := any_eq_true.mpr ⟨_, hmem, by simp⟩
    simp only [freeKpages, EStateM.run_bind, EStateM.run_get, hany, if_true, EStateM.run_set]
  · exact (hperm.symm.trans h.kpages).cons_inv
  · exact h.apart.sublist (eraseP_sublist)
  · exact h.aligned q (mem_of_mem_eraseP hq)

lemma Accounted.use (h : Accounted s live extra all) (hkpages : t.kpages = s.kpages)
    (hperm : (extra ++ (rootPages s.kheaproots ++
        (all.map (fun p => ((s.pageref p).pageaddr, 1)) ++ live.filterMap Block.pages))).Perm
      (extra' ++ (rootPages t.kheaproots ++
        (all'.map (fun p => ((t.pageref p).pageaddr, 1)) ++ live'.filterMap Block.pages)))) :
    Accounted t live' extra' all' := by
  refine ⟨?_, ?_, ?_⟩
  · rw [hkpages]
    exact h.kpages.trans hperm
  · rw [hkpages]
    exact h.apart
  · rw [hkpages]
    exact h.aligned

end Accounted

section Page

variable {s : Kheap} {live : List Block} {p : Nat} {free : List Nat}

lemma info_eq {pr pr' : Pageref} (h : pr'.info = pr.info) : pr'.pageaddr = pr.pageaddr ∧
    pr'.blocktype = pr.blocktype ∧ pr'.freelistHead = pr.freelistHead ∧ pr'.nfree = pr.nfree := by
  simp only [Pageref.info, Prod.mk.injEq] at h
  simp only [Pageref.pageaddr, Pageref.blocktype, Pageref.freelistHead, h, and_self]

section

variable (h : Page s live p free)

include h

lemma Page.congr (hinfo : (t.pageref p).info = (s.pageref p).info)
    (hmem : ∀ x ∈ free, t.mem x = s.mem x)
    (hlive : liveOn (s.pageref p).pageaddr live' = liveOn (s.pageref p).pageaddr live) :
    Page t live' p free := by
  obtain ⟨hpage, htype, hhead, hnfree⟩ := info_eq hinfo
  refine ⟨?_, hnfree.trans h.nfree, ?_⟩
  · rw [hhead]
    exact h.chain.congr hmem
  · rw [hpage, htype, hlive]
    exact h.blocks

lemma Page.mem_blocks (hx : x ∈ free) :
    x ∈ blocksOf (s.pageref p).pageaddr (sizes (s.pageref p).blocktype) :=
  h.blocks.mem_iff.mp (mem_append_left _ hx)

lemma Page.live_mem_blocks (hx : x ∈ liveOn (s.pageref p).pageaddr live) :
    x ∈ blocksOf (s.pageref p).pageaddr (sizes (s.pageref p).blocktype) :=
  h.blocks.mem_iff.mp (mem_append_right _ hx)

lemma Page.length_live : free.length +
    (liveOn (s.pageref p).pageaddr live).length = PAGE_SIZE / sizes (s.pageref p).blocktype := by
  rw [← length_append, h.blocks.length_eq, length_blocksOf]

end

lemma mem_liveOn : x ∈ liveOn page live ↔
    ∃ b ∈ live, b.addr = x ∧ page ≤ x ∧ x < page + PAGE_SIZE := by
  simp only [liveOn, mem_map, mem_filter, Bool.decide_and, Bool.and_eq_true, decide_eq_true_eq]
  constructor
  · rintro ⟨b, ⟨hb, hlo, hhi⟩, rfl⟩
    exact ⟨b, hb, rfl, hlo, hhi⟩
  · rintro ⟨b, hb, rfl, hlo, hhi⟩
    exact ⟨b, ⟨hb, hlo, hhi⟩, rfl⟩

lemma liveOn_cons_self (hlo : page ≤ b.addr) (hhi : b.addr < page + PAGE_SIZE) :
    liveOn page (b :: live) = b.addr :: liveOn page live := by
  simp [liveOn, hlo, hhi]

lemma liveOn_cons_other (h : b.addr < page ∨ page + PAGE_SIZE ≤ b.addr) :
    liveOn page (b :: live) = liveOn page live := by
  have hout : ¬ (page ≤ b.addr ∧ b.addr < page + PAGE_SIZE) := by omega
  simp [liveOn, hout]

lemma Listed.congr (h : Listed s g) (hall : t.allCell = s.allCell)
    (hsame : ∀ b, t.samesizeCell b = s.samesizeCell b)
    (htype : ∀ p ∈ g.all, (t.pageref p).blocktype = (s.pageref p).blocktype)
    (hroots : ∀ w, (t.kheaproots w).page = (s.kheaproots w).page ∨ (s.kheaproots w).page = 0)
    (hinuse : ∀ w j, (s.kheaproots w).inuse j = true → (t.kheaproots w).inuse j = true)
    {free : Nat → List Nat} : Listed t { g with free := free } := by
  refine ⟨?_, fun b hb => ?_, fun b hb p => ?_, fun p hp => ?_, fun p hp => ?_⟩
  · rw [hall]
    exact h.all
  · rw [hsame]
    exact h.same b hb
  · rw [h.mem_same b hb p]
    exact and_congr_right fun hp => by rw [htype p hp]
  · rw [htype p hp]
    exact h.type_lt p hp
  obtain ⟨w, hw, j, hj, hpage, rfl, hset⟩ := h.slot p hp
  have hpage' := (hroots w).resolve_right hpage
  exact ⟨w, hw, j, hj, by rwa [hpage'], by rw [hpage'], hinuse w j hset⟩

end Page

end Os161.Kmalloc
