import Os161.Kmalloc.Lemmas

namespace Os161.Kmalloc

open Function Lib.Chain List
open Lib.Exec
open Vm

variable {s t : Kheap} {g : Layout} {p : Nat}

structure Refilled (s t : Kheap) (p : Nat) : Prop where
  kheaproots : t.kheaproots = s.kheaproots
  kpages : t.kpages = s.kpages
  allCell : t.allCell = s.allCell
  samesizeCell : ∀ b, t.samesizeCell b = s.samesizeCell b
  pab : ∀ q, (t.pageref q).pageaddrAndBlocktype = (s.pageref q).pageaddrAndBlocktype
  others : ∀ q ≠ p, t.pageref q = s.pageref q

lemma refilled_update (s : Kheap) (p offset nfree : Nat) (mem : Nat → Nat) : Refilled s
    { s with
      mem := mem, pageref := update s.pageref p
        { s.pageref p with freelistOffset := offset, nfree := nfree } } p := by
  refine ⟨rfl, rfl, funext fun c => ?_, fun b => funext fun c => ?_, fun q => ?_, fun q hq => ?_⟩
  · cases c with
    | none => rfl
    | some q => by_cases hq : q = p <;> simp [Kheap.allCell, hq]
  · cases c with
    | none => rfl
    | some q => by_cases hq : q = p <;> simp [Kheap.samesizeCell, hq]
  · by_cases hq : q = p <;> simp [hq]
  · simp [hq]

lemma Refilled.pageaddr (h : Refilled s t p) (q : Nat) :
    (t.pageref q).pageaddr = (s.pageref q).pageaddr := by
  rw [Pageref.pageaddr, Pageref.pageaddr, h.pab q]

lemma Refilled.blocktype (h : Refilled s t p) (q : Nat) :
    (t.pageref q).blocktype = (s.pageref q).blocktype := by
  rw [Pageref.blocktype, Pageref.blocktype, h.pab q]

lemma Inv.refilled (h : Inv s live extra g) (ht : Refilled s t p)
    (hp : p ∈ g.all → Page t live' p free)
    (hmem : ∀ q ∈ g.all, q ≠ p → ∀ y ∈ g.free q, t.mem y = s.mem y)
    (hlive : ∀ q ∈ g.all, q ≠ p →
      liveOn (s.pageref q).pageaddr live' = liveOn (s.pageref q).pageaddr live)
    (hsmall : ∀ b ∈ live', b.sz < LARGEST_SUBPAGE_SIZE → ∃ q ∈ g.all,
      (s.pageref q).blocktype = classOf b.sz ∧ b.addr ∈ liveOn (s.pageref q).pageaddr live')
    (hbig : live'.filterMap Block.pages = live.filterMap Block.pages) :
    Inv t live' extra { g with free := update g.free p free } := by
  refine ⟨?_, ?_, fun q hq => ?_, fun b hb hsz => ?_, ?_⟩
  · rw [ht.kheaproots]
    exact h.rooted
  · refine h.listed.congr ht.allCell ht.samesizeCell (fun q _ => ht.blocktype q) (fun w => ?_)
      fun w j => ?_
    · exact .inl (by rw [ht.kheaproots])
    · rw [ht.kheaproots]
      exact id
  · by_cases hqp : q = p
    · subst hqp
      simpa using hp hq
    simp only [update_of_ne hqp]
    refine (h.pages q hq).congr ?_ (hmem q hq hqp) (hlive q hq hqp)
    rw [ht.others q hqp]
  · obtain ⟨q, hq, hclass, hon⟩ := hsmall b hb hsz
    exact ⟨q, hq, (ht.blocktype q).trans hclass, by rwa [ht.pageaddr q]⟩
  refine h.accounted.use ht.kpages ?_
  simp only [ht.kheaproots, ht.pageaddr, hbig]
  exact .refl _

lemma Inv.head_eq (h : Inv s live extra g) (hp : p ∈ g.all) (hfree : g.free p = x :: xs) :
    (s.pageref p).freelistOffset = x - (s.pageref p).pageaddr ∧ (s.pageref p).pageaddr ≤ x ∧
      x < (s.pageref p).pageaddr + PAGE_SIZE ∧ x ≠ 0 ∧
      (s.pageref p).freelistOffset < PAGE_SIZE ∧ Linked 0 s.mem (s.mem x) xs := by
  have hpage := h.pages p hp
  rw [hfree] at hpage
  obtain ⟨hhead, hx, hrest⟩ := hpage.chain
  obtain ⟨hlo, hhi, -⟩ := mem_blocksOf (h.listed.type_lt p hp)
    (hpage.mem_blocks mem_cons_self)
  have hsize := (sizes_spec _ (h.listed.type_lt p hp)).2.1
  rw [Pageref.freelistHead] at hhead
  by_cases hinvalid : (s.pageref p).freelistOffset = INVALID_OFFSET
  · rw [if_pos hinvalid] at hhead
    exact absurd hhead.symm hx
  · rw [if_neg hinvalid] at hhead
    exact ⟨by omega, hlo, by omega, hx, by omega, hrest⟩

def offsetOf (page : Nat) : List Nat → Nat
  | [] => INVALID_OFFSET
  | y :: _ => y - page

lemma freelistHead_offsetOf {pr : Pageref} (hoffset : pr.freelistOffset = offsetOf pr.pageaddr xs)
    (hin : ∀ y ∈ xs, pr.pageaddr ≤ y ∧ y < pr.pageaddr + PAGE_SIZE) (h : Linked 0 mem a xs) :
    pr.freelistHead = a := by
  rw [Pageref.freelistHead, hoffset]
  cases xs with
  | nil => exact h.symm
  | cons y ys =>
    obtain ⟨hlo, hhi⟩ := hin y mem_cons_self
    have hvalid : y - pr.pageaddr ≠ INVALID_OFFSET := by
      simp only [INVALID_OFFSET, PAGE_SIZE] at *
      omega
    rw [offsetOf, if_neg hvalid, h.1]
    omega

lemma doalloc_run (h : Inv s live extra g) (hp : p ∈ g.all) (hfree : g.free p = x :: xs)
    (hsz : sz < LARGEST_SUBPAGE_SIZE) (hclass : (s.pageref p).blocktype = classOf sz) :
    ∃ t, (doalloc p).run s = .ok x t ∧ Refilled s t p ∧
      Inv t (⟨x, sz⟩ :: live) extra { g with free := update g.free p xs } := by
  obtain ⟨hoffset, hlo, hhi, hx, hlt, hrest⟩ := h.head_eq hp hfree
  have hpage := h.pages p hp
  have htype := h.listed.type_lt p hp
  rw [hfree] at hpage
  have hin : ∀ y ∈ x :: xs, (s.pageref p).pageaddr ≤ y ∧
      y < (s.pageref p).pageaddr + PAGE_SIZE := by
    intro y hy
    have hblock := mem_blocksOf htype (hpage.mem_blocks hy)
    have hsize := (sizes_spec _ htype).2.1
    omega
  have hnfree : (s.pageref p).nfree = xs.length + 1 := by rw [hpage.nfree, length_cons]
  let offset := offsetOf (s.pageref p).pageaddr xs
  let pr := { s.pageref p with freelistOffset := offset, nfree := xs.length }
  let t : Kheap := { s with pageref := update s.pageref p pr }
  have ht : Refilled s t p := refilled_update s p _ _ s.mem
  refine ⟨t, ?_, ht, ?_⟩
  · have hret : (s.pageref p).pageaddr + (s.pageref p).freelistOffset = x := by omega
    cases xs with
    | nil =>
      have hmem : s.mem x = 0 := hrest
      simp [doalloc, hlt, hret, hmem, hnfree, setPageref, t, pr, offset, offsetOf]
    | cons y ys =>
      obtain ⟨hmem, hy, -⟩ := hrest
      obtain ⟨hylo, hyhi⟩ := hin y (by simp)
      have hylt : y - (s.pageref p).pageaddr < PAGE_SIZE := by omega
      simp [doalloc, hlt, hret, hmem, hy, hnfree, hylo, hylt, setPageref, t, pr, offset,
        offsetOf]
  refine h.refilled ht (fun _ => ?_) (fun _ _ _ _ _ => rfl) (fun q hq hqp => ?_)
    (fun b hb hbsz => ?_) ?_
  · refine ⟨?_, ?_, ?_⟩
    · rw [freelistHead_offsetOf (a := s.mem x) (by simp [t, pr, offset, Pageref.pageaddr]) ?_ hrest]
      · exact hrest
      · rw [ht.pageaddr]
        exact fun y hy => hin y (mem_cons_of_mem x hy)
    · simp [t, pr]
    · rw [ht.pageaddr, ht.blocktype, liveOn_cons_self hlo hhi]
      exact perm_middle.trans hpage.blocks
  · refine liveOn_cons_other ?_
    have hapart := h.accounted.apart_pages hp hq (Ne.symm hqp)
    show x < _ ∨ _ ≤ x
    omega
  · rcases mem_cons.mp hb with rfl | hb
    · exact ⟨p, hp, hclass, mem_liveOn.mpr ⟨_, mem_cons_self, rfl, hlo, hhi⟩⟩
    obtain ⟨q, hq, hqclass, hon⟩ := h.small b hb hbsz
    obtain ⟨b', hb', haddr, hlo', hhi'⟩ := mem_liveOn.mp hon
    exact ⟨q, hq, hqclass, mem_liveOn.mpr ⟨b', mem_cons_of_mem _ hb', haddr, hlo', hhi'⟩⟩
  · rw [filterMap_cons_none (by simp [Block.pages, hsz])]

section Carve

lemma carve_loop (hb : b < NSIZES) (page count first : Nat) (hfirst : 0 < first) (s : Kheap) :
    ∃ mem, (loop (fun i => do
        setMem (page + i * sizes b) (page + (i - 1) * sizes b)
        kassert (page + i * sizes b ≠ page + (i - 1) * sizes b) "fl != fl->next")
        first count).run s = .ok () { s with mem := mem } ∧
      (∀ i, first ≤ i → i < first + count → mem (page + i * sizes b) = page + (i - 1) * sizes b) ∧
      ∀ y, (∀ i, first ≤ i → i < first + count → y ≠ page + i * sizes b) → mem y = s.mem y := by
  have hpos : 0 < sizes b := by
    have := (sizes_spec b hb).2.1
    omega
  have hinj : ∀ i k, page + i * sizes b = page + k * sizes b → i = k := fun i k hik =>
    Nat.eq_of_mul_eq_mul_right hpos (by omega)
  induction count generalizing first s with
  | zero => exact ⟨s.mem, rfl, fun i hlo hhi => by omega, fun _ _ => rfl⟩
  | succ count ih =>
    let u : Kheap := { s with
      mem := update s.mem (page + first * sizes b) (page + (first - 1) * sizes b) }
    obtain ⟨mem, hrun, hin, hout⟩ := ih (first + 1) (by omega) u
    refine ⟨mem, ?_, fun i hlo hhi => ?_, fun y hy => ?_⟩
    · have hne : first * sizes b ≠ (first - 1) * sizes b := fun heq => by
        have := Nat.eq_of_mul_eq_mul_right hpos heq
        omega
      rw [loop_succ, bind_run_ok (a := ()) (t := u) (by simp [setMem, hne, u])]
      exact hrun
    · by_cases hi : i = first
      · subst hi
        rw [hout _ fun k hk _ heq => by
          have := hinj _ _ heq
          omega]
        exact update_self ..
      · exact hin i (by omega) (by omega)
    · rw [hout y fun i hlo hhi => hy i (by omega) (by omega)]
      exact update_of_ne (hy first (Nat.le_refl _) (by omega)) ..

lemma carve_run (hb : b < NSIZES) (page n : Nat) (s : Kheap) :
    ∃ mem, (carve page b n).run s = .ok () { s with mem := mem } ∧ mem page = 0 ∧
      (∀ i, 0 < i → i < n → mem (page + i * sizes b) = page + (i - 1) * sizes b) ∧
      ∀ y, y ≠ page → (∀ i < n, y ≠ page + i * sizes b) → mem y = s.mem y := by
  let u : Kheap := { s with mem := update s.mem page 0 }
  obtain ⟨mem, hrun, hin, hout⟩ := carve_loop hb page (n - 1) 1 (by omega) u
  have hpos := (sizes_spec b hb).2.1
  refine ⟨mem, ?_, ?_, fun i hlo hhi => hin i (by omega) (by omega), fun y hy hblocks => ?_⟩
  · simpa [carve, setMem, u] using hrun
  · rw [hout page fun i hi _ heq => by
      have := Nat.mul_pos (show 0 < i by omega) (show 0 < sizes b by omega)
      omega]
    exact update_self ..
  · rw [hout y fun i _ hi => hblocks i (by omega)]
    exact update_of_ne hy ..

lemma linked_carved (hpage : page ≠ 0) (hfirst : mem page = 0)
    (hnext : ∀ i, 0 < i → i < n → mem (page + i * sizes b) = page + (i - 1) * sizes b) (k : Nat)
    (hk : k < n) : Linked 0 mem (page + k * sizes b)
      ((List.range (k + 1)).reverse.map fun i => page + i * sizes b) := by
  induction k with
  | zero =>
    rw [show (List.range 1).reverse.map (fun i => page + i * sizes b) = [page] by simp]
    exact ⟨by omega, hpage, hfirst⟩
  | succ k ih =>
    rw [range_succ, reverse_append, reverse_singleton, singleton_append, map_cons]
    refine ⟨rfl, by omega, ?_⟩
    rw [hnext (k + 1) (by omega) hk, Nat.add_sub_cancel]
    exact ih (by omega)

lemma carve_page (hb : b < NSIZES) (hpage : page ≠ 0) (s : Kheap) :
    ∃ mem, (carve page b (PAGE_SIZE / sizes b)).run s = .ok () { s with mem := mem } ∧
      Linked 0 mem (page + (PAGE_SIZE / sizes b - 1) * sizes b)
        (blocksOf page (sizes b)).reverse ∧
      ∀ y, y < page ∨ page + PAGE_SIZE ≤ y → mem y = s.mem y := by
  obtain ⟨mem, hrun, hfirst, hnext, hout⟩ := carve_run hb page (PAGE_SIZE / sizes b) s
  have hpos : 0 < PAGE_SIZE / sizes b := by
    have hmul := sizes_mul hb
    by_contra hzero
    rw [Nat.eq_zero_of_not_pos hzero, Nat.zero_mul] at hmul
    exact absurd hmul (by decide)
  refine ⟨mem, hrun, ?_, fun y hy => hout y ?_ fun i hi => ?_⟩
  · have hlinked := linked_carved hpage hfirst hnext (PAGE_SIZE / sizes b - 1) (by omega)
    rw [Nat.sub_add_cancel hpos, map_reverse] at hlinked
    exact hlinked
  · have hsize : 0 < PAGE_SIZE := by decide
    omega
  have hblock := mem_blocksOf hb (mem_map.mpr ⟨i, mem_range.mpr hi, rfl⟩ :
    page + i * sizes b ∈ blocksOf page (sizes b))
  have hsize := (sizes_spec b hb).2.1
  omega

end Carve

section Pagerefs

variable {roots : Nat → KheapRoot}

lemma rootPages_congr (h : root.page = (roots w).page) :
    rootPages (update roots w root) = rootPages roots := by
  refine filterMap_congr fun v _ => ?_
  by_cases hv : v = w
  · subst hv
    rw [update_self, KheapRoot.pages, KheapRoot.pages, h]
  · rw [update_of_ne hv]

lemma rootPages_update (hw : w < NUM_PAGEREFPAGES) (hnone : (roots w).page = 0)
    (hpage : root.page ≠ 0) :
    (rootPages (update roots w root)).Perm ((root.page, 1) :: rootPages roots) := by
  obtain ⟨pre, post, hsplit⟩ := append_of_mem (mem_range.mpr hw)
  have hnodup : (pre ++ w :: post).Nodup := hsplit ▸ nodup_range
  have hother : ∀ v ∈ pre ++ post, (update roots w root v).pages = (roots v).pages := by
    intro v hv
    have hne : v ≠ w := by
      rintro rfl
      exact (nodup_middle.mp hnodup |> nodup_cons.mp).1 hv
    rw [update_of_ne hne]
  have hpre := filterMap_congr fun v hv => hother v (mem_append_left post hv)
  have hpost := filterMap_congr fun v hv => hother v (mem_append_right pre hv)
  rw [rootPages, rootPages, hsplit, filterMap_append, filterMap_append, hpre,
    filterMap_cons_some (b := (root.page, 1)) (by simp [KheapRoot.pages, hpage]), hpost,
    filterMap_cons_none (by simp [KheapRoot.pages, hnone])]
  exact perm_middle

lemma Inv.taken (h : Inv s live extra g) (hw : w < NUM_PAGEREFPAGES)
    (hj : j < NPAGEREFS_PER_PAGE) (hclear : (s.kheaproots w).inuse j = false)
    (hroot : root = { (s.kheaproots w).take j with page := page })
    (hpage : (page = (s.kheaproots w).page ∧ kpages = s.kpages) ∨
      ((s.kheaproots w).page = 0 ∧ s.Fresh page 1 ∧ kpages = (page, 1) :: s.kpages)) : Inv { s with
      kheaproots := update s.kheaproots w root, kpages := kpages
      answers := answers } live extra g := by
  have hrootpage : root.page = page := by rw [hroot]
  have hroots : ∀ v, (update s.kheaproots w root v).page = (s.kheaproots v).page ∨
      (s.kheaproots v).page = 0 := by
    intro v
    by_cases hv : v = w
    · subst hv
      rw [update_self, hrootpage]
      exact hpage.imp And.left And.left
    · rw [update_of_ne hv]
      exact .inl rfl
  have hinuse : ∀ v i, (s.kheaproots v).inuse i = true →
      (update s.kheaproots w root v).inuse i = true := by
    intro v i hi
    by_cases hv : v = w
    · subst hv
      have htake : root.inuse = update (s.kheaproots v).inuse j true := by
        rw [hroot]
        exact inuse_take (h.rooted.words v hw) hj
      rw [update_self, htake]
      by_cases hij : i = j
      · rw [hij, update_self]
      · rwa [update_of_ne hij]
    · rwa [update_of_ne hv]
  refine ⟨?_, ?_, fun p hp => (h.pages p hp).congr rfl (fun _ _ => rfl) rfl, h.small, ?_⟩
  · rw [hroot]
    exact h.rooted.take hw hj hclear page
  · refine h.listed.congr (funext fun c => ?_) (fun b => funext fun c => ?_) (fun _ _ => ?_) ?_ ?_
    · cases c <;> rfl
    · cases c <;> rfl
    · rfl
    · exact hroots
    · exact hinuse
  rcases hpage with ⟨rfl, rfl⟩ | ⟨hnone, hfresh, rfl⟩
  · refine h.accounted.use rfl (.of_eq ?_)
    simp only [rootPages_congr hrootpage]
  have halloc := h.accounted.alloc (t := { s with kpages := (page, 1) :: s.kpages }) hfresh
    Nat.one_pos rfl rfl rfl
  refine halloc.use rfl ?_
  have hpos : root.page ≠ 0 := hrootpage ▸ hfresh.1
  have hperm := rootPages_update hw hnone hpos
  rw [hrootpage] at hperm
  refine List.Perm.trans ?_ ((hperm.symm.append_right _).append_left extra)
  exact perm_middle.symm

lemma allocpageref_inv (h : Inv s live extra g) : ∃ p t, allocpageref.run s = .ok p t ∧
    Inv t live extra g ∧ t.mem = s.mem ∧ t.pageref = s.pageref ∧ t.sizebases = s.sizebases ∧
      t.allbase = s.allbase ∧ (p ≠ 0 → p ∉ g.all ∧ Slot t.kheaproots p) := by
  obtain ⟨p, t, hrun, ⟨rfl, rfl⟩ | ⟨w, j, page, answers, kpages, hw, hj, hclear, ht, hpage,
    hp⟩⟩ := allocpageref_run h.rooted
  · exact ⟨0, t, hrun, h, rfl, rfl, rfl, rfl, fun hne => absurd rfl hne⟩
  have hinv : Inv t live extra g := by
    rw [ht]
    exact h.taken hw hj hclear rfl hpage
  have hroot : t.kheaproots w = { (s.kheaproots w).take j with page := page } := by
    rw [ht]
    exact update_self ..
  refine ⟨p, t, hrun, hinv, by rw [ht], by rw [ht], by rw [ht], by rw [ht], fun hne => ?_⟩
  have hsome : page ≠ 0 := by
    rintro rfl
    exact hne (by simpa using hp)
  rw [if_neg hsome] at hp
  refine ⟨fun hmem => ?_, w, hw, j, hj, by rwa [hroot], by rw [hroot, hp], ?_⟩
  · -- the slot of a pageref on the list has its bit set, on this page or on another one
    obtain ⟨v, hv, i, hi, hvpage, hvp, hset⟩ := h.listed.slot p hmem
    by_cases hvw : v = w
    · subst hvw
      have hsame : page = (s.kheaproots v).page := by
        rcases hpage with hpage | hpage
        · exact hpage.1
        · exact absurd hpage.1 hvpage
      have hij : i = j := by
        simp only [PAGEREF_SIZE] at hvp hp
        omega
      rw [hij, hclear] at hset
      cases hset
    have hother : t.kheaproots v = s.kheaproots v := by
      rw [ht]
      exact update_of_ne hvw ..
    have hapart := hinv.accounted.apart_roots hw hv (by rwa [hroot]) (by rwa [hother])
      (Ne.symm hvw)
    rw [hroot, hother] at hapart
    simp only [PAGEREF_SIZE, NPAGEREFS_PER_PAGE, PAGE_SIZE] at hi hj hvp hp hapart
    omega
  rw [hroot]
  have htake := congrFun (inuse_take (h.rooted.words w hw) hj) j
  rwa [update_self] at htake

def slots (roots : Nat → KheapRoot) : List Nat :=
  (List.range NUM_PAGEREFPAGES).flatMap fun w =>
    (List.range NPAGEREFS_PER_PAGE).map fun j => (roots w).page + PAGEREF_SIZE * j

lemma length_slots (roots : Nat → KheapRoot) : (slots roots).length = TOTAL_PAGEREFS := by
  simp [slots, length_flatMap, TOTAL_PAGEREFS]

lemma Inv.length_all (h : Inv s live extra g) : g.all.length ≤ TOTAL_PAGEREFS := by
  have hsub : g.all ⊆ slots s.kheaproots := by
    intro p hp
    obtain ⟨w, hw, j, hj, -, rfl, -⟩ := h.listed.slot p hp
    exact mem_flatMap.mpr ⟨w, mem_range.mpr hw, mem_map.mpr ⟨j, mem_range.mpr hj, rfl⟩⟩
  have hle := (h.listed.all.nodup.subperm hsub).length_le
  rwa [length_slots] at hle

lemma Inv.length_same (h : Inv s live extra g) (hb : b < NSIZES) :
    (g.same b).length ≤ TOTAL_PAGEREFS :=
  ((h.listed.same b hb).nodup.subperm fun p hp =>
    ((h.listed.mem_same b hb p).mp hp).1).length_le.trans h.length_all

end Pagerefs

section NewPage

lemma Inv.liveOn_extra (h : Inv s live ((page, 1) :: extra) g) : liveOn page live = [] := by
  refine eq_nil_iff_forall_not_mem.mpr fun x hx => ?_
  obtain ⟨b, hb, rfl, hlo, hhi⟩ := mem_liveOn.mp hx
  by_cases hsz : b.sz < LARGEST_SUBPAGE_SIZE
  · obtain ⟨p, hp, -, hon⟩ := h.small b hb hsz
    obtain ⟨-, -, -, hplo, hphi⟩ := mem_liveOn.mp hon
    have hapart := h.accounted.apart_extra hp
    omega
  have hapart := h.accounted.apart_extra_big hb (Nat.le_of_not_lt hsz)
  have hpos := b.npages_pos (Nat.le_of_not_lt hsz)
  simp only [PAGE_SIZE] at hapart hhi
  omega

lemma Listed.push (h : Listed s g) (hb : b < NSIZES) (hp : p ∉ g.all) (hnull : p ≠ 0)
    (hslot : Slot s.kheaproots p) (hall : pr.nextAll = s.allbase)
    (hsame : pr.nextSamesize = s.sizebases b) (htype : pr.blocktype = b) (mem : Nat → Nat)
    (free : Nat → List Nat) : Listed { s with
      mem := mem, pageref := update s.pageref p pr, sizebases := update s.sizebases b p
      allbase := p } ⟨p :: g.all, update g.same b (p :: g.same b), free⟩ := by
  let t : Kheap := { s with
    mem := mem, pageref := update s.pageref p pr
    sizebases := update s.sizebases b p, allbase := p }
  have hself : t.pageref p = pr := update_self ..
  have hother : ∀ q ∈ g.all, t.pageref q = s.pageref q := fun q hq =>
    update_of_ne (ne_of_mem_of_not_mem hq hp) ..
  show Listed t _
  refine ⟨?_, fun b' hb' => ?_, fun b' hb' q => ?_, fun q hq => ?_, fun q hq => ?_⟩
  · refine h.all.push hnull ((congrArg Pageref.nextAll hself).trans hall) fun q hq => ?_
    exact congrArg Pageref.nextAll (hother q hq)
  · have hnext : ∀ q ∈ g.same b', t.samesizeCell b' (some q) = s.samesizeCell b' (some q) :=
      fun q hq => congrArg Pageref.nextSamesize (hother q ((h.mem_same b' hb' q).mp hq).1)
    by_cases hbb : b' = b
    · subst hbb
      have hcell : t.samesizeCell b' none = p := update_self ..
      simp only [hcell, update_self]
      exact (h.same b' hb').push hnull ((congrArg Pageref.nextSamesize hself).trans hsame) hnext
    have hcell : t.samesizeCell b' none = s.samesizeCell b' none := update_of_ne hbb ..
    simp only [hcell, update_of_ne hbb]
    exact (h.same b' hb').congr hnext
  · have hold := h.mem_same b' hb' q
    by_cases hq : q = p
    · subst hq
      rw [hself, htype]
      by_cases hbb : b' = b
      · subst hbb
        simp
      · have hno : q ∉ g.same b' := fun hmem => hp (hold.mp hmem).1
        simp [update_of_ne hbb, hno, Ne.symm hbb]
    have hrefs : t.pageref q = s.pageref q := update_of_ne hq ..
    rw [hrefs, mem_cons, or_iff_right hq, ← hold]
    by_cases hbb : b' = b
    · subst hbb
      simp only [update_self, mem_cons, or_iff_right hq]
    · simp only [update_of_ne hbb]
  · rcases mem_cons.mp hq with rfl | hq
    · rwa [hself, htype]
    · rw [hother q hq]
      exact h.type_lt q hq
  rcases mem_cons.mp hq with rfl | hq
  · exact hslot
  · exact h.slot q hq

lemma Inv.newPage (h : Inv s live ((page, 1) :: extra) g) (hb : b < NSIZES) (hp : p ∉ g.all)
    (hnull : p ≠ 0) (hslot : Slot s.kheaproots p)
    (hmem : ∀ y, y < page ∨ page + PAGE_SIZE ≤ y → mem y = s.mem y)
    (hchain : Linked 0 mem (page + (PAGE_SIZE / sizes b - 1) * sizes b)
      (blocksOf page (sizes b)).reverse) : Inv { s with
      mem := mem, pageref := update s.pageref p ⟨s.sizebases b, s.allbase, mkpab page b,
        (PAGE_SIZE / sizes b - 1) * sizes b, PAGE_SIZE / sizes b⟩
      sizebases := update s.sizebases b p, allbase := p } live extra
      ⟨p :: g.all, update g.same b (p :: g.same b),
        update g.free p (blocksOf page (sizes b)).reverse⟩ := by
  let pr : Pageref := ⟨s.sizebases b, s.allbase, mkpab page b,
    (PAGE_SIZE / sizes b - 1) * sizes b, PAGE_SIZE / sizes b⟩
  let t : Kheap := { s with
    mem := mem, pageref := update s.pageref p pr
    sizebases := update s.sizebases b p, allbase := p }
  have haligned := (h.accounted.aligned (page, 1)
    (h.accounted.kpages.mem_iff.mpr mem_cons_self)).2.1
  obtain ⟨hpage, htype⟩ : pr.pageaddr = page ∧ pr.blocktype = b := mkpab_spec haligned hb ..
  have hself : t.pageref p = pr := update_self ..
  have hne : ∀ q ∈ g.all, q ≠ p := fun q hq => ne_of_mem_of_not_mem hq hp
  have hother : ∀ q ∈ g.all, t.pageref q = s.pageref q := fun q hq =>
    update_of_ne (hne q hq) ..
  show Inv t live extra _
  refine ⟨h.rooted, h.listed.push hb hp hnull hslot rfl rfl htype mem _, fun q hq => ?_,
    fun blk hblk hsz => ?_, ?_⟩
  · rcases mem_cons.mp hq with rfl | hq
    · simp only [update_self]
      refine ⟨?_, ?_, ?_⟩
      · have hoffset : pr.freelistOffset ≠ INVALID_OFFSET := by
          have hle := Nat.mul_le_mul_right (sizes b) (Nat.sub_le (PAGE_SIZE / sizes b) 1)
          rw [sizes_mul hb] at hle
          simp only [pr, INVALID_OFFSET, PAGE_SIZE] at hle ⊢
          omega
        rw [hself, Pageref.freelistHead, hpage, if_neg hoffset]
        exact hchain
      · rw [hself, length_reverse, length_blocksOf]
      · rw [hself, hpage, htype, h.liveOn_extra, append_nil]
        exact reverse_perm _
    simp only [update_of_ne (hne q hq)]
    refine (h.pages q hq).congr ?_ (fun x hx => hmem x ?_) rfl
    · rw [hother q hq]
    have hblock := mem_blocksOf (h.listed.type_lt q hq) ((h.pages q hq).mem_blocks hx)
    have hapart := h.accounted.apart_extra hq
    have hpos := (sizes_spec _ (h.listed.type_lt q hq)).2.1
    omega
  · obtain ⟨q, hq, hclass, hon⟩ := h.small blk hblk hsz
    rw [← hother q hq] at hclass hon
    exact ⟨q, mem_cons_of_mem p hq, hclass, hon⟩
  refine h.accounted.use rfl ?_
  have hmap : g.all.map (fun q => ((t.pageref q).pageaddr, 1)) =
      g.all.map (fun q => ((s.pageref q).pageaddr, 1)) :=
    map_congr_left fun q hq => by rw [hother q hq]
  rw [map_cons, hself, hpage, hmap, cons_append, cons_append]
  refine List.Perm.trans ?_ (perm_middle.symm.append_left extra)
  exact perm_middle.symm

end NewPage

section Kmalloc

lemma Inv.recount (h : Inv s live extra g)
    (hacc : Accounted { s with kpages := kpages, answers := answers } live' extra' g.all)
    (hsmall : ∀ b ∈ live', b.sz < LARGEST_SUBPAGE_SIZE → b ∈ live)
    (hlive : ∀ p ∈ g.all,
      liveOn (s.pageref p).pageaddr live' = liveOn (s.pageref p).pageaddr live) :
    Inv { s with kpages := kpages, answers := answers } live' extra' g := by
  refine ⟨h.rooted, ⟨h.listed.all, h.listed.same, h.listed.mem_same, h.listed.type_lt,
    h.listed.slot⟩, fun p hp => (h.pages p hp).congr rfl (fun _ _ => rfl) (hlive p hp),
    fun b hb hsz => ?_, hacc⟩
  obtain ⟨p, hp, hclass, hon⟩ := h.small b (hsmall b hb hsz) hsz
  refine ⟨p, hp, hclass, ?_⟩
  rw [← hlive p hp] at hon
  exact hon

lemma allocKpages_inv (h : Inv s live extra g) (npages : Nat) (hpos : 0 < npages) :
    ∃ va t, (allocKpages npages).run s = .ok va t ∧ t.mem = s.mem ∧ t.pageref = s.pageref ∧
      ((va = 0 ∧ Inv t live extra g) ∨
        (va ≠ 0 ∧ va % PAGE_SIZE = 0 ∧ Inv t live ((va, npages) :: extra) g)) := by
  obtain ⟨answers, hrun | ⟨va, hfresh, hrun⟩⟩ := allocKpages_run npages s
  · refine ⟨0, _, hrun, rfl, rfl, .inl ⟨rfl, ?_⟩⟩
    exact h.recount (h.accounted.use rfl (.refl _)) (fun _ hb _ => hb) fun _ _ => rfl
  · refine ⟨va, _, hrun, rfl, rfl, .inr ⟨hfresh.1, hfresh.2.1, ?_⟩⟩
    exact h.recount (h.accounted.alloc hfresh hpos rfl rfl rfl) (fun _ hb _ => hb) fun _ _ => rfl

def Busy (s : Kheap) (g : Layout) : Prop :=
  ∀ p ∈ g.all, (g.free p).length < PAGE_SIZE / sizes (s.pageref p).blocktype

lemma Busy.doalloc (h : ∀ q ∈ g.all, q ≠ p →
      (free q).length < PAGE_SIZE / sizes (s.pageref q).blocktype)
    (hp : p ∈ g.all → xs.length < PAGE_SIZE / sizes (s.pageref p).blocktype)
    (ht : Refilled s t p) : Busy t { g with free := update free p xs } := by
  intro q hq
  rw [ht.blocktype q]
  by_cases hqp : q = p
  · subst hqp
    simpa using hp hq
  · simpa [hqp] using h q hq hqp

lemma subpageKmalloc_inv (h : Inv s live [] g) (hbusy : Busy s g)
    (hsz : sz < LARGEST_SUBPAGE_SIZE) : ∃ ptr t g', (subpageKmalloc sz).run s = .ok ptr t ∧
      Inv t (if ptr = 0 then live else ⟨ptr, sz⟩ :: live) [] g' ∧ Busy t g' := by
  obtain ⟨hclass, -⟩ := classOf_spec (Nat.le_of_lt hsz)
  have hblk := blocktype_run (Nat.le_of_lt hsz) s
  have hfind : (findRef (fun p => (s.pageref p).nextSamesize)
      (fun p => (s.pageref p).blocktype = classOf sz) (fun p => 0 < (s.pageref p).nfree)
      "PR_BLOCKTYPE(pr) == blktype" (TOTAL_PAGEREFS + 1) (s.sizebases (classOf sz))).run s =
        .ok (((g.same (classOf sz)).find? (fun p => 0 < (s.pageref p).nfree)).getD 0) s :=
    findRef_run _ _ (h.listed.same _ hclass) (Nat.lt_succ_of_le (h.length_same hclass))
      fun p hp => by simpa using ((h.listed.mem_same _ hclass p).mp hp).2
  cases hsome : (g.same (classOf sz)).find? (fun p => 0 < (s.pageref p).nfree) with
  | some p =>
    obtain ⟨hp, htype⟩ := (h.listed.mem_same _ hclass p).mp (mem_of_find?_eq_some hsome)
    have hnfree : 0 < (s.pageref p).nfree := by simpa using find?_some hsome
    have hpage := h.pages p hp
    have hnull := h.listed.all.not_null hp
    cases hfree : g.free p with
    | nil =>
      rw [hpage.nfree, hfree] at hnfree
      exact absurd hnfree (Nat.lt_irrefl 0)
    | cons x xs =>
      obtain ⟨t, hrun, ht, hinv⟩ := doalloc_run h hp hfree hsz htype
      have hx := (h.head_eq hp hfree).2.2.2.1
      refine ⟨x, t, _, ?_, by rwa [if_neg hx], Busy.doalloc (fun q hq _ => hbusy q hq)
        (fun _ => ?_) ht⟩
      · simp only [hsome, Option.getD_some] at hfind
        simp [subpageKmalloc, hblk, hfind, hnull, hrun]
      have hlt := hbusy p hp
      rw [hfree, length_cons] at hlt
      omega
  | none =>
    simp only [hsome, Option.getD_none] at hfind
    obtain ⟨page, u, halloc, hmem, hrefs, ⟨rfl, hu⟩ | ⟨hpage, haligned, hu⟩⟩ :=
      allocKpages_inv h 1 Nat.one_pos
    · refine ⟨0, u, g, ?_, hu, fun q hq => ?_⟩
      · simp [subpageKmalloc, hblk, hfind, halloc]
      · rw [hrefs]
        exact hbusy q hq
    obtain ⟨p, v, hpageref, hv, hvmem, hvrefs, -, -, hp⟩ := allocpageref_inv hu
    by_cases hnull : p = 0
    · subst hnull
      obtain ⟨kpages, hfreed, hacc⟩ := hv.accounted.free
      refine ⟨0, _, g, ?_, hv.recount hacc (fun _ hb _ => hb) fun _ _ => rfl, fun q hq => ?_⟩
      · simp [subpageKmalloc, hblk, hfind, halloc, hpage, haligned, hpageref, hfreed]
      show _ < PAGE_SIZE / sizes (v.pageref q).blocktype
      rw [hvrefs, hrefs]
      exact hbusy q hq
    obtain ⟨hnew, hslot⟩ := hp hnull
    obtain ⟨mem, hcarve, hchain, hout⟩ := carve_page hclass hpage v
    have hinv := hv.newPage hclass hnew hnull hslot hout hchain
    have htype := (mkpab_spec haligned hclass (v.sizebases (classOf sz)) v.allbase
      ((PAGE_SIZE / sizes (classOf sz) - 1) * sizes (classOf sz))
      (PAGE_SIZE / sizes (classOf sz))).2
    have hlength := length_blocksOf page (sizes (classOf sz))
    cases hfree : (blocksOf page (sizes (classOf sz))).reverse with
    | nil =>
      rw [hfree] at hchain
      have : page = 0 := by
        have : page + _ = 0 := hchain
        omega
      exact absurd this hpage
    | cons x xs =>
      obtain ⟨t, hrun, ht, hdone⟩ := doalloc_run hinv mem_cons_self
        (show _ = x :: xs by simpa using hfree) hsz (by simpa using htype)
      have hx := (hinv.head_eq mem_cons_self (by simpa using hfree)).2.2.2.1
      refine ⟨x, t, _, ?_, by rwa [if_neg hx], Busy.doalloc (fun q hq hqp => ?_)
        (fun _ => ?_) ht⟩
      · simp [subpageKmalloc, hblk, hfind, halloc, hpage, haligned, hpageref, hnull, hcarve,
          setPageref, hrun]
      · have hold := hbusy q (mem_of_ne_of_mem hqp hq)
        simpa [hqp, hvrefs, hrefs] using hold
      rw [← length_reverse, hfree, length_cons] at hlength
      simp only [update_self, htype]
      omega

lemma kmalloc_inv (h : Inv s live [] g) (hbusy : Busy s g) (sz : Nat) :
    ∃ ptr t g', (kmalloc sz).run s = .ok ptr t ∧
      Inv t (if ptr = 0 then live else ⟨ptr, sz⟩ :: live) [] g' ∧ Busy t g' := by
  by_cases hsz : sz < LARGEST_SUBPAGE_SIZE
  · obtain ⟨ptr, t, g', hrun, hrest⟩ := subpageKmalloc_inv h hbusy hsz
    exact ⟨ptr, t, g', by simpa [kmalloc, Nat.not_le.mpr hsz] using hrun, hrest⟩
  have hbig := Nat.le_of_not_lt hsz
  let b : Block := ⟨0, sz⟩
  obtain ⟨va, t, halloc, -, hrefs, ⟨rfl, ht⟩ | ⟨hva, haligned, ht⟩⟩ :=
    allocKpages_inv h b.npages (b.npages_pos hbig)
  · refine ⟨0, t, g, ?_, ht, fun q hq => ?_⟩
    · simp only [b, Block.npages] at halloc
      simp [kmalloc, hbig, halloc]
    · rw [hrefs]
      exact hbusy q hq
  refine ⟨va, t, g, ?_, ?_, fun q hq => ?_⟩
  · simp only [b, Block.npages] at halloc
    simp [kmalloc, hbig, halloc, hva, haligned]
  · rw [if_neg hva]
    refine ht.recount (ht.accounted.use rfl ?_) (fun c hc hcsz => ?_) fun q hq => ?_
    · have hpages : (⟨va, sz⟩ : Block).pages = some (va, b.npages) := if_neg hsz
      rw [filterMap_cons_some hpages, ← append_assoc (rootPages _),
        ← append_assoc (rootPages _), singleton_append, nil_append]
      exact perm_middle.symm
    · rcases mem_cons.mp hc with rfl | hc
      · exact absurd hcsz hsz
      · exact hc
    have hapart := ht.accounted.apart_extra hq
    have hpos := b.npages_pos hbig
    refine liveOn_cons_other ?_
    simp only [PAGE_SIZE] at hapart ⊢
    omega
  · rw [hrefs]
    exact hbusy q hq

end Kmalloc

end Os161.Kmalloc
