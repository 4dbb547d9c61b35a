import Mathlib.Data.Nat.SuccPred
import Os161.Kmalloc.Alloc

namespace Os161.Kmalloc

open Function Lib.Chain List
open Lib.Exec
open Vm

variable {s : Kheap} {live : List Block} {extra : List (Nat × Nat)} {g : Layout} {b : Block}
  {p : Nat}

section Live

def Block.extent (b : Block) : Nat :=
  if b.sz < LARGEST_SUBPAGE_SIZE then sizes (classOf b.sz) else b.npages * PAGE_SIZE

def Block.Apart (b c : Block) : Prop :=
  b.addr + b.extent ≤ c.addr ∨ c.addr + c.extent ≤ b.addr

lemma Block.extent_small (hsz : b.sz < LARGEST_SUBPAGE_SIZE) :
    b.extent = sizes (classOf b.sz) := if_pos hsz

lemma Block.extent_big (hsz : ¬ b.sz < LARGEST_SUBPAGE_SIZE) :
    b.extent = b.npages * PAGE_SIZE := if_neg hsz

lemma Block.extent_pos (b : Block) : 0 < b.extent := by
  by_cases hsz : b.sz < LARGEST_SUBPAGE_SIZE
  · rw [extent_small hsz]
    have := (sizes_spec _ (classOf_spec (Nat.le_of_lt hsz)).1).2.1
    omega
  · rw [extent_big hsz]
    exact Nat.mul_pos (b.npages_pos (Nat.le_of_not_lt hsz)) (by decide)

lemma Block.le_extent (b : Block) : b.sz ≤ b.extent := by
  by_cases hsz : b.sz < LARGEST_SUBPAGE_SIZE
  · rw [extent_small hsz]
    exact (classOf_spec (Nat.le_of_lt hsz)).2
  rw [extent_big hsz]
  simp only [npages, PAGE_SIZE]
  omega

section

variable (h : Inv s live extra g)

include h

lemma Inv.on_page (hb : b ∈ live)
    (hsz : b.sz < LARGEST_SUBPAGE_SIZE) : ∃ p ∈ g.all, (s.pageref p).blocktype = classOf b.sz ∧
      b.addr ∈ blocksOf (s.pageref p).pageaddr (sizes (classOf b.sz)) ∧
      (s.pageref p).pageaddr ≤ b.addr ∧ b.addr + b.extent ≤ (s.pageref p).pageaddr + PAGE_SIZE := by
  obtain ⟨p, hp, hclass, hon⟩ := h.small b hb hsz
  have hblock := (h.pages p hp).live_mem_blocks hon
  obtain ⟨hlo, hhi, -⟩ := mem_blocksOf (h.listed.type_lt p hp) hblock
  rw [hclass] at hblock hhi
  refine ⟨p, hp, hclass, hblock, hlo, ?_⟩
  rwa [Block.extent_small hsz]

lemma Inv.page_unique (hp : p ∈ g.all) (hq : q ∈ g.all)
    (hpx : (s.pageref p).pageaddr ≤ x ∧ x < (s.pageref p).pageaddr + PAGE_SIZE)
    (hqx : (s.pageref q).pageaddr ≤ x ∧ x < (s.pageref q).pageaddr + PAGE_SIZE) : p = q := by
  by_contra hne
  have hapart := h.accounted.apart_pages hp hq hne
  omega

lemma Inv.nodup_liveOn (hp : p ∈ g.all) :
    (liveOn (s.pageref p).pageaddr live).Nodup := by
  have hnodup := (h.pages p hp).blocks.nodup_iff.mpr (nodup_blocksOf (h.listed.type_lt p hp))
  exact (nodup_append.mp hnodup).2.1

lemma Inv.apart_small (hsub : [b, c].Sublist live)
    (hb : b.sz < LARGEST_SUBPAGE_SIZE) (hc : c.sz < LARGEST_SUBPAGE_SIZE) : b.Apart c := by
  obtain ⟨p, hp, hclass, hblock, hlo, hhi⟩ := h.on_page (hsub.subset (by simp)) hb
  obtain ⟨q, hq, hclass', hblock', hlo', hhi'⟩ := h.on_page (hsub.subset (by simp)) hc
  by_cases hpq : p = q
  · subst hpq
    have hposb := b.extent_pos
    have hposc := c.extent_pos
    have hon : [b.addr, c.addr].Sublist (liveOn (s.pageref p).pageaddr live) := by
      have hkept := (hsub.filter fun b => (s.pageref p).pageaddr ≤ b.addr ∧
        b.addr < (s.pageref p).pageaddr + PAGE_SIZE).map Block.addr
      rwa [filter_cons_of_pos (by simp; omega), filter_cons_of_pos (by simp; omega),
        filter_nil] at hkept
    have hne : b.addr ≠ c.addr := by simpa using (h.nodup_liveOn hp).sublist hon
    have hsame : classOf c.sz = classOf b.sz := hclass'.symm.trans hclass
    rw [hsame] at hblock'
    have hapart := blocksOf_apart hblock hblock' hne
    rwa [Block.Apart, Block.extent_small hb, Block.extent_small hc, hsame]
  have hapart := h.accounted.apart_pages hp hq hpq
  rw [Block.Apart]
  omega

lemma Inv.apart_small_big (hb : b ∈ live) (hc : c ∈ live)
    (hsmall : b.sz < LARGEST_SUBPAGE_SIZE) (hbig : ¬ c.sz < LARGEST_SUBPAGE_SIZE) : b.Apart c := by
  obtain ⟨p, hp, -, -, hlo, hhi⟩ := h.on_page hb hsmall
  have hapart := h.accounted.apart_big hc (Nat.le_of_not_lt hbig) hp
  rw [Block.Apart, Block.extent_big hbig]
  omega

lemma Inv.disjoint : live.Pairwise Block.Apart := by
  rw [pairwise_iff_forall_sublist]
  intro b c hsub
  have hb : b ∈ live := hsub.subset (by simp)
  have hc : c ∈ live := hsub.subset (by simp)
  by_cases hbsz : b.sz < LARGEST_SUBPAGE_SIZE
  · by_cases hcsz : c.sz < LARGEST_SUBPAGE_SIZE
    · exact h.apart_small hsub hbsz hcsz
    · exact h.apart_small_big hb hc hbsz hcsz
  by_cases hcsz : c.sz < LARGEST_SUBPAGE_SIZE
  · exact Or.symm (h.apart_small_big hc hb hcsz hbsz)
  have hpages := hsub.filterMap Block.pages
  have hpair := (pairwise_append.mp (pairwise_append.mp
    (pairwise_append.mp h.accounted.pairwise).2.1).2.1).2.1
  have hapart := hpair.sublist hpages
  rw [Block.Apart, Block.extent_big hbsz, Block.extent_big hcsz]
  simpa [Block.pages, hbsz, hcsz, Kmalloc.Apart] using hapart

lemma Inv.split (hb : b ∈ live) : ∃ pre post,
    live = pre ++ b :: post ∧ live.filter (·.addr ≠ b.addr) = pre ++ post := by
  obtain ⟨pre, post, rfl⟩ := append_of_mem hb
  obtain ⟨-, hpost, hpre⟩ := pairwise_append.mp h.disjoint
  have hpos := b.extent_pos
  refine ⟨pre, post, rfl, ?_⟩
  rw [filter_append, filter_cons_of_neg (by simp), filter_eq_self.mpr, filter_eq_self.mpr]
  · intro c hc
    have hapart := (pairwise_cons.mp hpost).1 c hc
    have hposc := c.extent_pos
    rw [Block.Apart] at hapart
    simp only [ne_eq, decide_not, Bool.not_eq_eq_eq_not, Bool.not_true, decide_eq_false_iff_not]
    omega
  intro c hc
  have hapart := hpre c hc b mem_cons_self
  have hposc := c.extent_pos
  rw [Block.Apart] at hapart
  simp only [ne_eq, decide_not, Bool.not_eq_eq_eq_not, Bool.not_true, decide_eq_false_iff_not]
  omega

end

lemma liveOn_append (page : Nat) (pre post : List Block) :
    liveOn page (pre ++ post) = liveOn page pre ++ liveOn page post := by
  simp [liveOn]

lemma liveOn_middle_other (h : b.addr < page ∨ page + PAGE_SIZE ≤ b.addr) :
    liveOn page (pre ++ b :: post) = liveOn page (pre ++ post) := by
  rw [liveOn_append, liveOn_append, liveOn_cons_other h]

lemma liveOn_middle_self (hlo : page ≤ b.addr) (hhi : b.addr < page + PAGE_SIZE) :
    (liveOn page (pre ++ b :: post)).Perm (b.addr :: liveOn page (pre ++ post)) := by
  rw [liveOn_append, liveOn_append, liveOn_cons_self hlo hhi]
  exact perm_middle

end Live

section Release

variable {mem : Nat → Nat}

lemma fillDeadbeef_run (ptr len : Nat) (s : Kheap) : ∃ mem,
    (fillDeadbeef ptr len).run s = .ok () { s with mem := mem } ∧
      ∀ y, y < ptr ∨ ptr + len ≤ y → mem y = s.mem y := by
  have hloop : ∀ count first (s : Kheap), first + count ≤ len / 4 → ∃ mem,
      (loop (fun i => setMem (ptr + 4 * i) 0xdeadbeef) first count).run s =
        .ok () { s with mem := mem } ∧ ∀ y, y < ptr ∨ ptr + len ≤ y → mem y = s.mem y := by
    intro count
    induction count with
    | zero => exact fun _ s _ => ⟨s.mem, rfl, fun _ _ => rfl⟩
    | succ count ih =>
      intro first s hle
      obtain ⟨mem, hrun, hout⟩ := ih (first + 1)
        { s with mem := update s.mem (ptr + 4 * first) 0xdeadbeef } (by omega)
      refine ⟨mem, ?_, fun y hy => (hout y hy).trans (update_of_ne (by omega) ..)⟩
      rw [loop_succ]
      exact hrun
  exact hloop (len / 4) 0 s (by omega)

def pushed (s : Kheap) (mem : Nat → Nat) (p ptr : Nat) : Kheap :=
  { s with
    mem := mem
    pageref := update s.pageref p { s.pageref p with
      freelistOffset := ptr - (s.pageref p).pageaddr, nfree := (s.pageref p).nfree + 1 } }

lemma Inv.push (h : Inv s (pre ++ b :: post) extra g) (hsz : b.sz < LARGEST_SUBPAGE_SIZE)
    (hp : p ∈ g.all) (hclass : (s.pageref p).blocktype = classOf b.sz)
    (hon : (s.pageref p).pageaddr ≤ b.addr ∧ b.addr < (s.pageref p).pageaddr + PAGE_SIZE)
    (hmem : ∀ y, y < b.addr ∨ b.addr + sizes (classOf b.sz) ≤ y → mem y = s.mem y)
    (hfirst : mem b.addr = (s.pageref p).freelistHead) :
    Refilled s (pushed s mem p b.addr) p ∧ Inv (pushed s mem p b.addr) (pre ++ post) extra
      { g with free := update g.free p (b.addr :: g.free p) } := by
  have ht : Refilled s (pushed s mem p b.addr) p := refilled_update s p _ _ mem
  have hpage := h.pages p hp
  have htype := h.listed.type_lt p hp
  have hlive : b.addr ∈ liveOn (s.pageref p).pageaddr (pre ++ b :: post) :=
    mem_liveOn.mpr ⟨b, by simp, rfl, hon⟩
  have hblock := hpage.live_mem_blocks hlive
  refine ⟨ht, h.refilled ht (fun _ => ⟨?_, ?_, ?_⟩) (fun q hq hqp y hy => hmem y ?_)
    (fun q hq hqp => ?_) (fun c hc hcsz => ?_) ?_⟩
  · -- the head of the freelist is the block, and the blocks behind it are untouched
    have hnull : b.addr ≠ 0 := by
      have := h.accounted.pageaddr_ne_zero hp
      omega
    have hhead : ((pushed s mem p b.addr).pageref p).freelistHead = b.addr := by
      have hoffset : b.addr - (s.pageref p).pageaddr ≠ INVALID_OFFSET := by
        simp only [INVALID_OFFSET, PAGE_SIZE] at *
        omega
      rw [Pageref.freelistHead, ht.pageaddr]
      simp only [pushed, update_self, if_neg hoffset]
      omega
    rw [hhead]
    refine hpage.chain.push hnull hfirst fun y hy => hmem y ?_
    have hne : y ≠ b.addr := by
      rintro rfl
      have hnodup := hpage.blocks.nodup_iff.mpr (nodup_blocksOf htype)
      exact (nodup_append.mp hnodup).2.2 _ hy _ hlive rfl
    have hapart := blocksOf_apart (hpage.mem_blocks hy) hblock hne
    have hpos := (sizes_spec _ htype).2.1
    rw [hclass] at hapart hpos
    omega
  · simp only [pushed, update_self, length_cons, hpage.nfree]
  · rw [ht.pageaddr, ht.blocktype]
    refine List.Perm.trans ?_ hpage.blocks
    refine List.Perm.trans ?_ ((liveOn_middle_self hon.1 hon.2).append_left _).symm
    exact perm_middle.symm
  · have hy := mem_blocksOf (h.listed.type_lt q hq) ((h.pages q hq).mem_blocks hy)
    have hapart := h.accounted.apart_pages hp hq (Ne.symm hqp)
    have hpos := (sizes_spec _ (h.listed.type_lt q hq)).2.1
    have hin := mem_blocksOf htype hblock
    rw [hclass] at hin
    omega
  · refine (liveOn_middle_other ?_).symm
    have hapart := h.accounted.apart_pages hp hq (Ne.symm hqp)
    omega
  · have hmem : c ∈ pre ++ b :: post := by
      rcases mem_append.mp hc with hc | hc
      · exact mem_append_left _ hc
      · exact mem_append_right _ (mem_cons_of_mem b hc)
    obtain ⟨q, hq, hqclass, hqon⟩ := h.small c hmem hcsz
    obtain ⟨-, -, -, hlo, hhi⟩ := mem_liveOn.mp hqon
    exact ⟨q, hq, hqclass, mem_liveOn.mpr ⟨c, hc, rfl, hlo, hhi⟩⟩
  · simp [Block.pages, hsz]

end Release

section Drop

def Layout.drop (g : Layout) (p blktype : Nat) : Layout :=
  ⟨g.all.erase p, update g.same blktype ((g.same blktype).erase p), g.free⟩

lemma removeLists_listed (h : Inv s live extra g) (hp : p ∈ g.all) :
    ∃ t, (removeLists p (s.pageref p).blocktype).run s = .ok () t ∧ Relinked s t ∧
      Listed t (g.drop p (s.pageref p).blocktype) := by
  have htype := h.listed.type_lt p hp
  have hps : p ∈ g.same (s.pageref p).blocktype := (h.listed.mem_same _ htype p).mpr ⟨hp, rfl⟩
  have hnodup := h.listed.all.nodup
  have hnodup' := (h.listed.same _ htype).nodup
  have hlen := h.length_all
  have hlen' := h.length_same htype
  have hsame := h.listed.same _ htype
  have hall := h.listed.all
  obtain ⟨pre, post, -, hsplit, herase⟩ := exists_erase_eq hps
  obtain ⟨pre', post', -, hsplit', herase'⟩ := exists_erase_eq hp
  rw [hsplit] at hsame hlen'
  rw [hsplit'] at hall hlen
  simp only [length_append, length_cons] at hlen hlen'
  obtain ⟨t, hrun, hrelinked, hsame', hall', hothers⟩ := removeLists_run htype hsame hall
    (by omega) (by omega)
  have htypes : ∀ q, (t.pageref q).blocktype = (s.pageref q).blocktype := fun q =>
    (info_eq (hrelinked.info q)).2.1
  refine ⟨t, hrun, hrelinked, ?_, fun b hb => ?_, fun b hb q => ?_, fun q hq => ?_, fun q hq => ?_⟩
  · rw [Layout.drop, herase']
    exact hall'
  · by_cases hbb : b = (s.pageref p).blocktype
    · subst hbb
      simp only [Layout.drop, update_self, herase]
      exact hsame'
    simp only [Layout.drop, update_of_ne hbb]
    refine hothers b hbb _ (fun x hx hpre => ?_) (h.listed.same b hb)
    have hx' : x ∈ g.same (s.pageref p).blocktype := by
      rw [hsplit]
      exact mem_append_left _ hpre
    exact hbb (((h.listed.mem_same b hb x).mp hx).2.symm.trans
      ((h.listed.mem_same _ htype x).mp hx').2)
  · rw [htypes q]
    simp only [Layout.drop]
    rw [hnodup.mem_erase_iff, and_assoc, ← h.listed.mem_same b hb q]
    by_cases hbb : b = (s.pageref p).blocktype
    · subst hbb
      rw [update_self, hnodup'.mem_erase_iff]
    rw [update_of_ne hbb]
    refine ⟨fun hq => ⟨?_, hq⟩, And.right⟩
    rintro rfl
    exact hbb ((h.listed.mem_same b hb q).mp hq).2.symm
  · rw [htypes q]
    exact h.listed.type_lt q (mem_of_mem_erase hq)
  · rw [hrelinked.kheaproots]
    exact h.listed.slot q (mem_of_mem_erase hq)

lemma Slot.release (hq : Slot roots q) (hne : q ≠ p)
    (hpj : p = (roots w).page + PAGEREF_SIZE * j) :
    Slot (update roots w ((roots w).release j)) q := by
  obtain ⟨v, hv, i, hi, hpage, rfl, hset⟩ := hq
  by_cases hvw : v = w
  · subst hvw
    refine ⟨v, hv, i, hi, ?_, ?_, ?_⟩
    · rwa [update_self]
    · rw [update_self]
      rfl
    have hij : i ≠ j := by
      rintro rfl
      exact hne hpj.symm
    rwa [update_self, inuse_release, update_of_ne hij]
  · exact ⟨v, hv, i, hi, by rwa [update_of_ne hvw], by rw [update_of_ne hvw],
      by rwa [update_of_ne hvw]⟩

lemma leaked_congr (hroots : t.kheaproots = s.kheaproots) : Leaked t p ↔ Leaked s p := by
  rw [Leaked, Leaked, hroots]

lemma Inv.freepageref_clears (h : Inv s live extra g) (hp : p ∈ g.all)
    (hroots : t.kheaproots = s.kheaproots) (hleak : ¬ Leaked s p) :
    ∃ w j, w < NUM_PAGEREFPAGES ∧ j < NPAGEREFS_PER_PAGE ∧
      p = (s.kheaproots w).page + PAGEREF_SIZE * j ∧ (s.kheaproots w).inuse j = true ∧
      (freepageref p).run t = .ok () { t with
        kheaproots := update s.kheaproots w ((s.kheaproots w).release j) } := by
  obtain ⟨w, hw, j, hj, hpage, rfl, hset⟩ := h.listed.slot p hp
  refine ⟨w, j, hw, hj, rfl, hset, ?_⟩
  rw [← leaked_congr hroots] at hleak
  rw [← hroots] at hleak hpage hset ⊢
  refine freepageref_run (hroots ▸ h.rooted) hw hj hpage hset (fun v hv hvw hvpage => ?_) hleak
  rw [hroots] at hpage hvpage ⊢
  have hapart := h.accounted.apart_roots hw hv hpage hvpage (Ne.symm hvw)
  rw [KheapRoot.holds, Bool.and_eq_false_iff, decide_eq_false_iff_not, decide_eq_false_iff_not]
  simp only [PAGEREF_SIZE, NPAGEREFS_PER_PAGE, PAGE_SIZE] at *
  omega

lemma Inv.drop (h : Inv s live [] g) (hp : p ∈ g.all)
    (hfull : (g.free p).length = PAGE_SIZE / sizes (s.pageref p).blocktype)
    (hleak : ¬ Leaked s p) : ∃ u v t,
      (removeLists p (s.pageref p).blocktype).run s = .ok () u ∧
      (freepageref p).run u = .ok () v ∧
      (freeKpages (s.pageref p).pageaddr).run v = .ok () t ∧
      Inv t live [] (g.drop p (s.pageref p).blocktype) ∧
      ∀ q, (t.pageref q).blocktype = (s.pageref q).blocktype := by
  obtain ⟨u, hremove, hrelinked, hlisted⟩ := removeLists_listed h hp
  obtain ⟨w, j, hw, hj, hpj, hset, hfreed⟩ := h.freepageref_clears hp hrelinked.kheaproots hleak
  let v : Kheap := { u with
    kheaproots := update s.kheaproots w ((s.kheaproots w).release j) }
  have hinfo : ∀ q, (v.pageref q).info = (s.pageref q).info := hrelinked.info
  have hempty : liveOn (s.pageref p).pageaddr live = [] := by
    have hlen := (h.pages p hp).length_live
    exact eq_nil_of_length_eq_zero (by omega)
  have hnodup := h.listed.all.nodup
  have hlisted' : Listed v (g.drop p (s.pageref p).blocktype) := by
    refine ⟨hlisted.all, hlisted.same, hlisted.mem_same, hlisted.type_lt, fun q hq => ?_⟩
    have hq' := hnodup.mem_erase_iff.mp hq
    exact (h.listed.slot q hq'.2).release hq'.1 hpj
  have hacc : Accounted v live [((s.pageref p).pageaddr, 1)]
      (g.drop p (s.pageref p).blocktype).all := by
    refine h.accounted.use hrelinked.kpages ?_
    have hroots : rootPages v.kheaproots = rootPages s.kheaproots := rootPages_congr rfl
    have hmap : (g.all.erase p).map (fun q => ((v.pageref q).pageaddr, 1)) =
        (g.all.erase p).map (fun q => ((s.pageref q).pageaddr, 1)) :=
      map_congr_left fun q _ => by rw [(info_eq (hinfo q)).1]
    have hperm := (perm_cons_erase hp).map fun q => ((s.pageref q).pageaddr, 1)
    rw [hroots, Layout.drop, hmap, nil_append, singleton_append]
    exact ((hperm.append_right _).append_left _).trans perm_middle
  have hinv : Inv v live [((s.pageref p).pageaddr, 1)] (g.drop p (s.pageref p).blocktype) := by
    refine ⟨(h.rooted.release hw hj hset).2, hlisted', fun q hq => ?_, fun c hc hcsz => ?_, hacc⟩
    · exact (h.pages q (mem_of_mem_erase hq)).congr (hinfo q)
        (fun x _ => congrFun hrelinked.mem x) rfl
    obtain ⟨q, hq, hclass, hon⟩ := h.small c hc hcsz
    have hqp : q ≠ p := by
      rintro rfl
      rw [hempty] at hon
      cases hon
    obtain ⟨haddr, htype, -, -⟩ := info_eq (hinfo q)
    exact ⟨q, hnodup.mem_erase_iff.mpr ⟨hqp, hq⟩, htype.trans hclass, by rwa [haddr]⟩
  obtain ⟨kpages, hback, hacc'⟩ := hacc.free
  refine ⟨u, v, { v with kpages := kpages }, hremove, hfreed, hback, ?_,
    fun q => (info_eq (hinfo q)).2.1⟩
  exact hinv.recount (show Accounted { v with kpages := kpages, answers := v.answers } _ _ _
    from hacc') (fun _ hb _ => hb) fun _ _ => rfl

end Drop

section Kfree

def OnAll (s : Kheap) (p : Nat) : Prop :=
  ∃ all, Linked 0 (fun x => s.allCell (some x)) (s.allCell none) all ∧ p ∈ all

lemma Inv.onAll_iff (h : Inv s live extra g) : OnAll s p ↔ p ∈ g.all := by
  refine ⟨?_, fun hp => ⟨g.all, h.listed.all, hp⟩⟩
  rintro ⟨all, hall, hp⟩
  rwa [h.listed.all.unique hall]

-- The last block of a page comes back while the search for its pageref meets a root that has
-- lost a pageref.
def Stuck (s : Kheap) (ptr : Nat) : Prop :=
  ∃ p, OnAll s p ∧ (s.pageref p).pageaddr ≤ ptr ∧ ptr < (s.pageref p).pageaddr + PAGE_SIZE ∧
    (s.pageref p).nfree + 1 = PAGE_SIZE / sizes (s.pageref p).blocktype ∧ Leaked s p

lemma findPage_some (h : Inv s live extra g) (hp : p ∈ g.all)
    (hon : (s.pageref p).pageaddr ≤ x ∧ x < (s.pageref p).pageaddr + PAGE_SIZE) :
    g.all.find? (fun q => (s.pageref q).pageaddr ≤ x ∧ x < (s.pageref q).pageaddr + PAGE_SIZE) =
      some p := by
  cases hfind : g.all.find? (fun q => (s.pageref q).pageaddr ≤ x ∧
      x < (s.pageref q).pageaddr + PAGE_SIZE) with
  | none => exact absurd hon (by simpa using find?_eq_none.mp hfind p hp)
  | some q =>
    have hq : (s.pageref q).pageaddr ≤ x ∧ x < (s.pageref q).pageaddr + PAGE_SIZE := by
      simpa using find?_some hfind
    rw [h.page_unique (mem_of_find?_eq_some hfind) hp hq hon]

lemma findRef_all (h : Inv s live extra g) (x : Nat) :
    (findRef (fun p => (s.pageref p).nextAll) (fun p => (s.pageref p).blocktype < NSIZES)
      (fun p => (s.pageref p).pageaddr ≤ x ∧ x < (s.pageref p).pageaddr + PAGE_SIZE)
      "blktype>=0 && blktype<NSIZES" (TOTAL_PAGEREFS + 1) s.allbase).run s =
        .ok ((g.all.find? (fun p => (s.pageref p).pageaddr ≤ x ∧
          x < (s.pageref p).pageaddr + PAGE_SIZE)).getD 0) s :=
  findRef_run _ _ h.listed.all (Nat.lt_succ_of_le h.length_all)
    fun p hp => by simpa using h.listed.type_lt p hp

lemma Inv.pushed (h : Inv s live [] g) (hb : b ∈ live) (hsz : b.sz < LARGEST_SUBPAGE_SIZE) :
    ∃ p mem, p ∈ g.all ∧ (s.pageref p).pageaddr ≤ b.addr ∧
      b.addr < (s.pageref p).pageaddr + PAGE_SIZE ∧
      (g.free p).length < PAGE_SIZE / sizes (s.pageref p).blocktype ∧
      Refilled s (pushed s mem p b.addr) p ∧
      Inv (pushed s mem p b.addr) (live.filter (·.addr ≠ b.addr)) []
        { g with free := update g.free p (b.addr :: g.free p) } ∧
      (subpageKfree b.addr).run s = ((do
        if (s.pageref p).nfree + 1 = PAGE_SIZE / sizes (s.pageref p).blocktype then do
          removeLists p (s.pageref p).blocktype
          freepageref p
          freeKpages (s.pageref p).pageaddr
        pure true : Heap Bool).run (pushed s mem p b.addr)) := by
  obtain ⟨p, hp, hclass, hblock, hlo, hhi⟩ := h.on_page hb hsz
  have hpos := b.extent_pos
  have hon : (s.pageref p).pageaddr ≤ b.addr ∧ b.addr < (s.pageref p).pageaddr + PAGE_SIZE :=
    ⟨hlo, by omega⟩
  have hpage := h.pages p hp
  have hlive : b.addr ∈ liveOn (s.pageref p).pageaddr live := mem_liveOn.mpr ⟨b, hb, rfl, hon⟩
  have hroom : (g.free p).length < PAGE_SIZE / sizes (s.pageref p).blocktype := by
    have hlen := hpage.length_live
    have := length_pos_of_mem hlive
    omega
  obtain ⟨filled, hfill, hout⟩ := fillDeadbeef_run b.addr (sizes (s.pageref p).blocktype) s
  let mem := update filled b.addr (s.pageref p).freelistHead
  obtain ⟨pre, post, rfl, hrest⟩ := h.split hb
  have hmem : ∀ y, y < b.addr ∨ b.addr + sizes (classOf b.sz) ≤ y → mem y = s.mem y := by
    intro y hy
    rw [Block.extent_small hsz] at hpos
    refine (update_of_ne (by omega) ..).trans (hout y ?_)
    rwa [hclass]
  obtain ⟨ht, hinv⟩ := h.push hsz hp hclass hon hmem (update_self ..)
  refine ⟨p, mem, hp, hon.1, hon.2, hroom, ht, hrest ▸ hinv, ?_⟩
  have hfind := findRef_all h b.addr
  rw [findPage_some h hp hon, Option.getD_some] at hfind
  simp only [Bool.decide_and] at hfind
  have hnull := h.listed.all.not_null hp
  have hoffset : b.addr - (s.pageref p).pageaddr < PAGE_SIZE ∧
      (b.addr - (s.pageref p).pageaddr) % sizes (s.pageref p).blocktype = 0 := by
    refine ⟨by omega, ?_⟩
    rw [hclass]
    exact (mem_blocksOf (hclass ▸ h.listed.type_lt p hp) hblock).2.2
  have hlt : (s.pageref p).nfree < PAGE_SIZE / sizes (s.pageref p).blocktype := by
    rw [hpage.nfree]
    exact hroom
  by_cases hinvalid : (s.pageref p).freelistOffset = INVALID_OFFSET
  · have hhead : (s.pageref p).freelistHead = 0 := if_pos hinvalid
    simp [subpageKfree, hfind, hnull, Nat.not_le.mpr hoffset.1, hoffset.2, hfill, hinvalid, setMem,
      setPageref, hlt, Kmalloc.pushed, mem, hhead]
  have hhead : (s.pageref p).freelistHead =
      (s.pageref p).pageaddr + (s.pageref p).freelistOffset := if_neg hinvalid
  have hne : b.addr ≠ (s.pageref p).pageaddr + (s.pageref p).freelistOffset := by
    rw [← hhead]
    rintro heq
    have hnodup := hpage.blocks.nodup_iff.mpr (nodup_blocksOf (h.listed.type_lt p hp))
    have hchain := hpage.chain
    cases hfree : g.free p with
    | nil =>
      rw [hfree] at hchain
      have := h.accounted.pageaddr_ne_zero hp
      have hzero : (s.pageref p).freelistHead = 0 := hchain
      omega
    | cons y ys =>
      rw [hfree] at hchain hnodup
      have hy : y = b.addr := hchain.1.symm.trans heq.symm
      exact (nodup_append.mp hnodup).2.2 y mem_cons_self _ hlive hy
  simp [subpageKfree, hfind, hnull, Nat.not_le.mpr hoffset.1, hoffset.2, hfill, hinvalid, setMem,
    setPageref, hlt, Kmalloc.pushed, mem, hhead, hne]

lemma Inv.stuck_iff (h : Inv s live extra g) (hp : p ∈ g.all)
    (hon : (s.pageref p).pageaddr ≤ x ∧ x < (s.pageref p).pageaddr + PAGE_SIZE) : Stuck s x ↔
      (s.pageref p).nfree + 1 = PAGE_SIZE / sizes (s.pageref p).blocktype ∧ Leaked s p := by
  constructor
  · rintro ⟨q, hq, hlo, hhi, hfull, hleak⟩
    obtain rfl := h.page_unique hp (h.onAll_iff.mp hq) hon ⟨hlo, hhi⟩
    exact ⟨hfull, hleak⟩
  · rintro ⟨hfull, hleak⟩
    exact ⟨p, h.onAll_iff.mpr hp, hon.1, hon.2, hfull, hleak⟩

section

variable (h : Inv s live [] g)

include h

lemma Inv.kfree_small (hbusy : Busy s g) (hb : b ∈ live)
    (hsz : b.sz < LARGEST_SUBPAGE_SIZE) :
    (Stuck s b.addr → ∃ t, (kfree b.addr).run s = .error (.kassert "root->numinuse == 0") t) ∧
      (¬ Stuck s b.addr → ∃ t g', (kfree b.addr).run s = .ok () t ∧
        Inv t (live.filter (·.addr ≠ b.addr)) [] g' ∧ Busy t g') := by
  obtain ⟨p, mem, hp, hlo, hhi, hroom, ht, hinv, hrun⟩ := h.pushed hb hsz
  let u := Kmalloc.pushed s mem p b.addr
  have hu : Inv u _ [] _ := hinv
  have hnull : b.addr ≠ 0 := by
    have := h.accounted.pageaddr_ne_zero hp
    omega
  have hleak : Leaked u p ↔ Leaked s p := leaked_congr ht.kheaproots
  have hfree := (h.pages p hp).nfree
  rw [h.stuck_iff hp ⟨hlo, hhi⟩]
  by_cases hfull : (s.pageref p).nfree + 1 = PAGE_SIZE / sizes (s.pageref p).blocktype
  · refine ⟨fun hstuck => ?_, fun hfine => ?_⟩
    · obtain ⟨v, hremove, hrelinked, -⟩ := removeLists_listed hu hp
      have herror := freepageref_leaked ((leaked_congr hrelinked.kheaproots).mpr
        (hleak.mpr hstuck.2))
      rw [ht.blocktype] at hremove
      exact ⟨v, by simp [kfree, hnull, hrun, hfull, hremove, herror, u]⟩
    have hlength : (update g.free p (b.addr :: g.free p) p).length =
        PAGE_SIZE / sizes (u.pageref p).blocktype := by
      rw [update_self, length_cons, ht.blocktype, ← hfull, hfree]
    obtain ⟨v, w, t, hremove, hfreed, hback, hdone, htypes⟩ := hu.drop hp hlength
      (fun hbad => hfine ⟨hfull, hleak.mp hbad⟩)
    rw [ht.blocktype] at hremove
    rw [ht.pageaddr] at hback
    refine ⟨t, _, by simp [kfree, hnull, hrun, hfull, hremove, hfreed, hback, u], hdone,
      fun q hq => ?_⟩
    obtain ⟨hqp, hq⟩ := h.listed.all.nodup.mem_erase_iff.mp hq
    have hold := hbusy q hq
    rw [htypes q, ht.blocktype q]
    simpa [Layout.drop, hqp] using hold
  refine ⟨fun hstuck => absurd hstuck.1 hfull, fun _ => ⟨u, _, ?_, hu, ?_⟩⟩
  · simp [kfree, hnull, hrun, hfull, u]
  refine Busy.doalloc (fun q hq _ => hbusy q hq) (fun _ => ?_) ht
  rw [hfree] at hfull
  rw [length_cons]
  omega

lemma Inv.big_pages (hb : b ∈ live)
    (hsz : ¬ b.sz < LARGEST_SUBPAGE_SIZE) : b.addr ≠ 0 ∧ b.addr % PAGE_SIZE = 0 := by
  have hmem : (b.addr, b.npages) ∈ s.kpages := by
    refine h.accounted.kpages.mem_iff.mpr (mem_append_right _ (mem_append_right _
      (mem_append_right _ ?_)))
    exact mem_filterMap.mpr ⟨b, hb, if_neg hsz⟩
  obtain ⟨hnull, haligned, -⟩ := h.accounted.aligned _ hmem
  exact ⟨hnull, haligned⟩

lemma Inv.kfree_big (hbusy : Busy s g) (hb : b ∈ live)
    (hsz : ¬ b.sz < LARGEST_SUBPAGE_SIZE) : ¬ Stuck s b.addr ∧
      ∃ t g', (kfree b.addr).run s = .ok () t ∧
        Inv t (live.filter (·.addr ≠ b.addr)) [] g' ∧ Busy t g' := by
  have hpos := b.npages_pos (Nat.le_of_not_lt hsz)
  have hnone : ∀ p ∈ g.all, ¬ ((s.pageref p).pageaddr ≤ b.addr ∧
      b.addr < (s.pageref p).pageaddr + PAGE_SIZE) := by
    intro p hp
    have hapart := h.accounted.apart_big hb (Nat.le_of_not_lt hsz) hp
    simp only [PAGE_SIZE] at *
    omega
  have hpages : b.pages = some (b.addr, b.npages) := if_neg hsz
  obtain ⟨hnull, haligned⟩ := h.big_pages hb hsz
  have hfind := findRef_all h b.addr
  rw [find?_eq_none.mpr fun p hp => by simpa using hnone p hp, Option.getD_none] at hfind
  simp only [Bool.decide_and] at hfind
  have hsub : (subpageKfree b.addr).run s = .ok false s := by simp [subpageKfree, hfind]
  obtain ⟨pre, post, rfl, hrest⟩ := h.split hb
  have hacc : Accounted s (pre ++ post) [(b.addr, b.npages)] g.all := by
    refine h.accounted.use rfl ?_
    rw [filterMap_append, filterMap_cons_some hpages, filterMap_append,
      nil_append, singleton_append]
    refine List.Perm.trans ?_ perm_middle
    refine List.Perm.append_left _ (List.Perm.trans ?_ perm_middle)
    exact List.Perm.append_left _ perm_middle
  obtain ⟨kpages, hback, hacc'⟩ := hacc.free
  refine ⟨?_, { s with kpages := kpages }, g, ?_, ?_, hbusy⟩
  · rintro ⟨p, hp, hlo, hhi, -⟩
    exact hnone p (h.onAll_iff.mp hp) ⟨hlo, hhi⟩
  · simp [kfree, hnull, hsub, haligned, hback]
  rw [hrest]
  refine h.recount (show Accounted { s with kpages := kpages, answers := s.answers } _ _ _
    from hacc') (fun c hc _ => ?_) fun p hp => (liveOn_middle_other ?_).symm
  · rcases mem_append.mp hc with hc | hc
    · exact mem_append_left _ hc
    · exact mem_append_right _ (mem_cons_of_mem b hc)
  · have := hnone p hp
    omega

lemma kfree_inv (hbusy : Busy s g) (hb : b ∈ live) :
    (Stuck s b.addr → ∃ t, (kfree b.addr).run s = .error (.kassert "root->numinuse == 0") t) ∧
      (¬ Stuck s b.addr → ∃ t g', (kfree b.addr).run s = .ok () t ∧
        Inv t (live.filter (·.addr ≠ b.addr)) [] g' ∧ Busy t g') := by
  by_cases hsz : b.sz < LARGEST_SUBPAGE_SIZE
  · exact h.kfree_small hbusy hb hsz
  · obtain ⟨hfine, hdone⟩ := h.kfree_big hbusy hb hsz
    exact ⟨fun hstuck => absurd hstuck hfine, fun _ => hdone⟩

end

lemma Inv.free_apart (h : Inv s live extra g) (hp : p ∈ g.all) (hx : x ∈ g.free p)
    (hb : b ∈ live) : x + sizes (s.pageref p).blocktype ≤ b.addr ∨ b.addr + b.extent ≤ x := by
  have hpage := h.pages p hp
  have htype := h.listed.type_lt p hp
  have hblock := hpage.mem_blocks hx
  obtain ⟨hlo, hhi, -⟩ := mem_blocksOf htype hblock
  by_cases hsz : b.sz < LARGEST_SUBPAGE_SIZE
  · obtain ⟨q, hq, hclass, hblock', hlo', hhi'⟩ := h.on_page hb hsz
    by_cases hpq : p = q
    · subst hpq
      have hpos := b.extent_pos
      have hlive : b.addr ∈ liveOn (s.pageref p).pageaddr live :=
        mem_liveOn.mpr ⟨b, hb, rfl, hlo', by omega⟩
      have hne : x ≠ b.addr := by
        have hnodup := hpage.blocks.nodup_iff.mpr (nodup_blocksOf htype)
        exact (nodup_append.mp hnodup).2.2 x hx _ hlive
      have hapart := blocksOf_apart hblock (hclass ▸ hblock') hne
      rwa [Block.extent_small hsz, ← hclass]
    · have hapart := h.accounted.apart_pages hp hq hpq
      omega
  have hapart := h.accounted.apart_big hb (Nat.le_of_not_lt hsz) hp
  rw [Block.extent_big hsz]
  omega

lemma Inv.store (h : Inv s live extra g) (hb : b ∈ live) (hlo : b.addr ≤ addr)
    (hhi : addr < b.addr + b.sz) : Inv { s with mem := update s.mem addr value } live extra g := by
  refine ⟨h.rooted, ⟨h.listed.all, h.listed.same, h.listed.mem_same, h.listed.type_lt,
    h.listed.slot⟩, fun p hp => (h.pages p hp).congr rfl (fun x hx => ?_) rfl, h.small,
    h.accounted.use rfl (.refl _)⟩
  refine update_of_ne ?_ ..
  rintro rfl
  have hapart := h.free_apart hp hx hb
  have hpos := (sizes_spec _ (h.listed.type_lt p hp)).2.1
  have hle := b.le_extent
  omega

end Kfree

end Os161.Kmalloc
