import Os161.Vm.Fault.Usable

namespace Os161.Vm

open Lib Lib.Exec BitVec

def ENOSYS : Word := 1#32

def regionSegment (vaddr sz : Word) (offset : BitVec 64) : Segment where
  base := vaddr &&& PAGE_FRAME
  npages := ((sz + (vaddr &&& ~~~PAGE_FRAME) + 4096#32 - 1#32) &&& PAGE_FRAME) / 4096#32
  offset := offset
  sz := sz

def asDefineRegion (as : AddrSpace) (vaddr sz : Word) (offset : BitVec 64) : Word × AddrSpace :=
  let seg := regionSegment vaddr sz offset
  if as.asVbase1 = 0#32 then
    (0#32, { as with
      asVbase1 := seg.base
      asNpages1 := seg.npages
      fi := { as.fi with codeOffset := offset, codeSz := sz } })
  else if as.asVbase2 = 0#32 then
    (0#32, { as with
      asVbase2 := seg.base
      asNpages2 := seg.npages
      fi := { as.fi with dataOffset := offset, dataSz := sz } })
  else (ENOSYS, as)

-- The page starts in the region, which is neither empty nor at 0.
def Segment.HasPage (seg : Segment) (page : Word) : Prop :=
  seg.base ≠ 0#32 ∧ seg.npages ≠ 0#32 ∧ page &&& PAGE_FRAME = page ∧ seg.Has page

-- vm_fault takes the page from the region: its assertions about both regions and the stack hold,
-- and this is the first region that has the page.
def AddrSpace.Serves (space : AddrSpace) (seg : Segment) (page : Word) : Prop :=
  space.SetUp ∧ page &&& PAGE_FRAME = page ∧ space.segmentOf page = some seg

def Segment.start (seg : Segment) (page : Word) : Nat := (seg.dest page 0#32).toNat

structure Exactly (seg : Segment) (served : Word → Prop) (vaddr sz : Word) (offset : BitVec 64) :
    Prop where
  inPage : ∀ page, served page → seg.start page + (seg.sizeToRead page).toNat ≤ PAGE_SIZE
  covers : ∀ k < sz.toNat, ∃ page j, served page ∧ j < (seg.sizeToRead page).toNat ∧
    page.toNat + seg.start page + j = vaddr.toNat + k ∧
    seg.source page + BitVec.ofNat 64 j = offset + BitVec.ofNat 64 k
  only : ∀ page j, served page → j < (seg.sizeToRead page).toNat →
    ∃ k < sz.toNat, page.toNat + seg.start page + j = vaddr.toNat + k ∧
      seg.source page + BitVec.ofNat 64 j = offset + BitVec.ofNat 64 k

abbrev Segment.LoadsExactly (seg : Segment) (vaddr sz : Word) (offset : BitVec 64) : Prop :=
  Exactly seg seg.HasPage vaddr sz offset

-- The reads for all the pages that vm_fault serves from the region.
abbrev AddrSpace.LoadsExactly (space : AddrSpace) (seg : Segment) (vaddr sz : Word)
    (offset : BitVec 64) : Prop :=
  Exactly seg (space.Serves seg) vaddr sz offset

section Arithmetic

lemma toNat_0 : (0#32 : Word).toNat = 0 := rfl
lemma toNat_1 : (1#32 : Word).toNat = 1 := rfl
lemma toNat_4096 : (4096#32 : Word).toNat = 4096 := rfl

lemma lowBits_toNat (w : Word) : (w &&& 0xfff#32).toNat = w.toNat % 4096 := by
  rw [toNat_and, show (0xfff#32).toNat = 2 ^ 12 - 1 from rfl, Nat.and_two_pow_sub_one_eq_mod]

lemma pageFrame_toNat (w : Word) : (w &&& PAGE_FRAME).toNat = w.toNat / 4096 * 4096 := by
  have hsplit : (w &&& PAGE_FRAME) + (w &&& 0xfff#32) = w := by
    rw [add_eq_or_of_and_eq_zero, ← and_or_distrib_left,
      show PAGE_FRAME ||| 0xfff#32 = BitVec.allOnes 32 by decide, and_allOnes]
    rw [BitVec.and_comm w (0xfff#32), BitVec.and_assoc, ← BitVec.and_assoc PAGE_FRAME,
      show PAGE_FRAME &&& 0xfff#32 = 0#32 by decide, zero_and, and_zero]
  have hnat := congrArg BitVec.toNat hsplit
  rw [toNat_add, lowBits_toNat] at hnat
  have hmod : (w &&& PAGE_FRAME).toNat % 4096 = 0 :=
    aligned_mod (by rw [BitVec.and_assoc, BitVec.and_self])
  have hlt := (w &&& PAGE_FRAME).isLt
  omega

lemma skew_toNat (seg : Segment) : seg.skew.toNat = seg.offset.toNat % 4096 := by
  rw [Segment.skew, toNat_and, show (0xfff#64).toNat = 2 ^ 12 - 1 from rfl,
    Nat.and_two_pow_sub_one_eq_mod]

lemma skew_truncate_toNat (seg : Segment) :
    (seg.skew.truncate 32).toNat = seg.offset.toNat % 4096 := by
  rw [truncate_eq_setWidth, toNat_setWidth, skew_toNat]
  omega

lemma aligned_iff (w : Word) : w &&& PAGE_FRAME = w ↔ w.toNat % 4096 = 0 := by
  rw [toNat_eq, pageFrame_toNat]
  omega

lemma offset_page_toNat (offset : BitVec 64) :
    (offset &&& 0xfffff000#64).toNat = offset.toNat % 0x100000000 / 4096 * 4096 := by
  have hmask : ∀ i : Fin 64, (0xfffff000#64).getLsbD i =
      (decide (i.val < 32) && PAGE_FRAME.getLsbD i) := by decide
  have hlow : offset &&& 0xfffff000#64 = (offset.setWidth 32 &&& PAGE_FRAME).setWidth 64 := by
    refine eq_of_getLsbD_eq fun i hi => ?_
    rw [getLsbD_and, hmask ⟨i, hi⟩]
    simp only [getLsbD_setWidth, getLsbD_and, hi, decide_true, Bool.true_and]
    cases offset.getLsbD i <;> cases decide (i < 32) <;> rfl
  rw [hlow, toNat_setWidth, pageFrame_toNat, toNat_setWidth]
  omega

end Arithmetic

section Region

variable {vaddr sz : Word}

lemma region_base (vaddr sz : Word) (offset : BitVec 64) :
    (regionSegment vaddr sz offset).base.toNat = vaddr.toNat / 4096 * 4096 :=
  pageFrame_toNat vaddr

lemma region_npages (hsz : vaddr.toNat % 4096 + sz.toNat + 4095 < 0x100000000) :
    (regionSegment vaddr sz offset).npages.toNat =
      (vaddr.toNat % 4096 + sz.toNat + 4095) / 4096 := by
  have hlow : (vaddr &&& ~~~PAGE_FRAME).toNat = vaddr.toNat % 4096 := lowBits_toNat vaddr
  have hsum : (sz + (vaddr &&& ~~~PAGE_FRAME) + 4096#32 - 1#32).toNat =
      vaddr.toNat % 4096 + sz.toNat + 4095 := by
    simp only [toNat_sub, toNat_add, hlow, toNat_ofNat]
    omega
  show (((sz + (vaddr &&& ~~~PAGE_FRAME) + 4096#32 - 1#32) &&& PAGE_FRAME) / 4096#32).toNat = _
  rw [toNat_udiv, pageFrame_toNat, hsum]
  show _ / 4096 = _
  omega

structure InRange (vaddr sz : Word) : Prop where
  pos : 0 < sz.toNat
  low : 4096 ≤ vaddr.toNat
  high : vaddr.toNat + sz.toNat ≤ 0xfffff000

variable (h : InRange vaddr sz)

include h

lemma InRange.npages (offset : BitVec 64) : (regionSegment vaddr sz offset).npages.toNat =
    (vaddr.toNat % 4096 + sz.toNat + 4095) / 4096 := by
  obtain ⟨hpos, hlow, hhigh⟩ := h
  exact region_npages (by omega)

lemma InRange.top (offset : BitVec 64) :
    (regionSegment vaddr sz offset).top.toNat =
      vaddr.toNat / 4096 * 4096 + (vaddr.toNat % 4096 + sz.toNat + 4095) / 4096 * 4096 := by
  have hnpages := h.npages offset
  obtain ⟨hpos, hlow, hhigh⟩ := h
  rw [Segment.top, toNat_add, toNat_mul, region_base, hnpages, toNat_4096]
  omega

lemma InRange.last (offset : BitVec 64) : ((regionSegment vaddr sz offset).top - 4096#32).toNat =
    vaddr.toNat / 4096 * 4096 + (vaddr.toNat % 4096 + sz.toNat - 1) / 4096 * 4096 := by
  have htop := h.top offset
  obtain ⟨hpos, hlow, hhigh⟩ := h
  rw [toNat_sub, htop, toNat_4096]
  omega

lemma InRange.hasPage (page : Word) : (regionSegment vaddr sz offset).HasPage page ↔
    page.toNat % 4096 = 0 ∧ vaddr.toNat / 4096 * 4096 ≤ page.toNat ∧
      page.toNat < vaddr.toNat + sz.toNat := by
  have hbase := region_base vaddr sz offset
  have htop := h.top offset
  have hnpages := h.npages offset
  obtain ⟨hpos, hlow, hhigh⟩ := h
  unfold Segment.HasPage Segment.Has
  rw [aligned_iff, le_def, lt_def, hbase, htop, Ne, Ne, toNat_eq, toNat_eq, hbase, hnpages, toNat_0]
  omega

lemma InRange.size_last (hcongr : offset.toNat % 4096 = vaddr.toNat % 4096)
    (hne : page ≠ (regionSegment vaddr sz offset).base)
    (hlast : page = (regionSegment vaddr sz offset).top - 4096#32) :
    ((regionSegment vaddr sz offset).sizeToRead page).toNat =
      (0x100000000 + sz.toNat - (vaddr.toNat % 4096 + sz.toNat - 1) / 4096 * 4096 -
        vaddr.toNat % 4096) % 0x100000000 := by
  have hskew := skew_truncate_toNat (regionSegment vaddr sz offset)
  rw [show (regionSegment vaddr sz offset).offset = offset from rfl, hcongr] at hskew
  obtain ⟨q, hq⟩ : ∃ q, q = (vaddr.toNat % 4096 + sz.toNat - 1) / 4096 := ⟨_, rfl⟩
  have hbefore : (((regionSegment vaddr sz offset).npages - 1#32) * 4096#32).toNat = q * 4096 := by
    have hnpages := h.npages offset
    obtain ⟨hpos, hlow, hhigh⟩ := h
    have hcount : ((regionSegment vaddr sz offset).npages - 1#32).toNat = q := by
      rw [toNat_sub, hnpages, toNat_1]
      omega
    rw [toNat_mul, hcount, toNat_4096]
    omega
  have hle : q * 4096 ≤ vaddr.toNat % 4096 + sz.toNat := by omega
  rw [Segment.sizeToRead, if_neg hne, if_pos hlast, show (regionSegment vaddr sz offset).sz = sz
    from rfl, toNat_sub, toNat_sub, hbefore, hskew, ← hq]
  have hlt := sz.isLt
  have hbelow : q * 4096 < 0x100000000 := by
    rw [← hbefore]
    exact BitVec.isLt _
  have hsmall : vaddr.toNat % 4096 < 4096 := Nat.mod_lt _ (by decide)
  clear hq hbefore hskew hcongr hlast hne h
  generalize q * 4096 = before at hle hbelow ⊢
  generalize vaddr.toNat % 4096 = skew at hle hsmall ⊢
  generalize sz.toNat = n at hle hlt ⊢
  omega

omit h

lemma size_first (sz : Word) (hcongr : offset.toNat % 4096 = vaddr.toNat % 4096) :
    ((regionSegment vaddr sz offset).sizeToRead (regionSegment vaddr sz offset).base).toNat =
      min sz.toNat (4096 - vaddr.toNat % 4096) := by
  have hskew := skew_toNat (regionSegment vaddr sz offset)
  rw [show (regionSegment vaddr sz offset).offset = offset from rfl, hcongr] at hskew
  rw [Segment.sizeToRead, if_pos rfl, hskew]
  rw [show (regionSegment vaddr sz offset).sz = sz from rfl, PAGE_SIZE]
  by_cases hsmall : sz.toNat < 4096 - vaddr.toNat % 4096
  · rw [if_pos hsmall]
    omega
  · rw [if_neg hsmall, toNat_ofNat]
    omega

lemma size_middle (hne : page ≠ (regionSegment vaddr sz offset).base)
    (hlast : page ≠ (regionSegment vaddr sz offset).top - 4096#32) :
    ((regionSegment vaddr sz offset).sizeToRead page).toNat = 4096 := by
  rw [Segment.sizeToRead, if_neg hne, if_neg hlast]
  rfl

lemma start_first (sz : Word) (hcongr : offset.toNat % 4096 = vaddr.toNat % 4096) :
    (regionSegment vaddr sz offset).start (regionSegment vaddr sz offset).base =
      vaddr.toNat % 4096 := by
  have hskew := skew_truncate_toNat (regionSegment vaddr sz offset)
  rw [show (regionSegment vaddr sz offset).offset = offset from rfl, hcongr] at hskew
  rw [Segment.start, Segment.dest, if_pos rfl, BitVec.zero_add, hskew]

lemma start_other (hne : page ≠ (regionSegment vaddr sz offset).base) :
    (regionSegment vaddr sz offset).start page = 0 := by
  rw [Segment.start, Segment.dest, if_neg hne]
  rfl

lemma source_other (hne : page ≠ (regionSegment vaddr sz offset).base)
    (hge : vaddr.toNat / 4096 * 4096 ≤ page.toNat) :
    ((regionSegment vaddr sz offset).source page).toNat =
      offset.toNat % 0x100000000 / 4096 * 4096 + (page.toNat - vaddr.toNat / 4096 * 4096) := by
  have hbase := region_base vaddr sz offset
  have hpage := page.isLt
  rw [Segment.source, if_neg hne, toNat_sub, toNat_add,
    show (regionSegment vaddr sz offset).offset = offset from rfl, offset_page_toNat]
  simp only [BitVec.zeroExtend, toNat_setWidth, hbase]
  omega

end Region

section Loads

variable {vaddr sz : Word} {offset : BitVec 64}

lemma page_of_byte (halign : page % 4096 = 0) (hin : start + j < 4096)
    (hx : page + start + j = x) : page = x / 4096 * 4096 := by
  omega

section

variable (h : InRange vaddr sz)

include h

lemma Segment.LoadsExactly.byte
    (hl : (regionSegment vaddr sz offset).LoadsExactly vaddr sz offset) (hk : k < sz.toNat) :
    ∃ page : Word, page.toNat = (vaddr.toNat + k) / 4096 * 4096 ∧
      ∃ j < ((regionSegment vaddr sz offset).sizeToRead page).toNat,
        page.toNat + (regionSegment vaddr sz offset).start page + j = vaddr.toNat + k ∧
        (regionSegment vaddr sz offset).start page +
          ((regionSegment vaddr sz offset).sizeToRead page).toNat ≤ 4096 ∧
        (regionSegment vaddr sz offset).source page + BitVec.ofNat 64 j =
          offset + BitVec.ofNat 64 k := by
  obtain ⟨page, j, hserves, hj, haddr, hsource⟩ := hl.covers k hk
  have hin : (regionSegment vaddr sz offset).start page +
    ((regionSegment vaddr sz offset).sizeToRead page).toNat ≤ 4096 := hl.inPage page hserves
  refine ⟨page, page_of_byte ((h.hasPage page).mp hserves).1 (by omega) haddr, j, hj, haddr, hin,
    hsource⟩

section

variable (hcongr : offset.toNat % 4096 = vaddr.toNat % 4096)

include hcongr

lemma not_loadsExactly_skewed (hskew : vaddr.toNat % 4096 ≠ 0)
    (hpages : 4096 < vaddr.toNat % 4096 + sz.toNat) :
    ¬ (regionSegment vaddr sz offset).LoadsExactly vaddr sz offset := by
  intro hl
  have hpos := h.pos
  obtain ⟨page, hpage, j, hj, haddr, hin, -⟩ := hl.byte h (k := sz.toNat - 1) (by omega)
  have hlast := h.last offset
  have hpageLast : page = (regionSegment vaddr sz offset).top - 4096#32 := by
    apply eq_of_toNat_eq
    rw [hpage, hlast]
    omega
  have hne : page ≠ (regionSegment vaddr sz offset).base := by
    intro hbase
    have hnat := congrArg BitVec.toNat hbase
    rw [hpage, region_base] at hnat
    omega
  rw [h.size_last hcongr hne hpageLast] at hj hin
  rw [start_other hne] at haddr hin
  have hhigh := h.high
  omega

lemma not_loadsExactly_far (hskew : vaddr.toNat % 4096 = 0)
    (hpages : 4096 < sz.toNat) (hfar : 0x100000000 ≤ offset.toNat) :
    ¬ (regionSegment vaddr sz offset).LoadsExactly vaddr sz offset := by
  intro hl
  obtain ⟨page, hpage, j, hj, haddr, hin, hsource⟩ := hl.byte h (k := 4096) hpages
  have hne : page ≠ (regionSegment vaddr sz offset).base := by
    intro hbase
    have hnat := congrArg BitVec.toNat hbase
    rw [hpage, region_base] at hnat
    omega
  rw [start_other hne] at haddr
  have hsrc := source_other hne (by omega)
  have hj0 : j = 0 := by omega
  have hnat := congrArg BitVec.toNat hsource
  rw [hj0, toNat_add, toNat_add, hsrc, toNat_ofNat, toNat_ofNat] at hnat
  have hlt := offset.isLt
  have hdist : page.toNat - vaddr.toNat / 4096 * 4096 = 4096 := by omega
  rw [hdist] at hnat
  clear hsource hsrc hdist hpage haddr hj hin hl
  omega

lemma loadsExactly_one (hpages : vaddr.toNat % 4096 + sz.toNat ≤ 4096) :
    (regionSegment vaddr sz offset).LoadsExactly vaddr sz offset := by
  have hbase := region_base vaddr sz offset
  have hsize := size_first sz hcongr
  have hstart := start_first sz hcongr
  have honly : ∀ page, (regionSegment vaddr sz offset).HasPage page →
      page = (regionSegment vaddr sz offset).base := by
    intro page hserves
    obtain ⟨halign, hlo, hhi⟩ := (h.hasPage page).mp hserves
    apply eq_of_toNat_eq
    rw [hbase]
    omega
  have hserves : (regionSegment vaddr sz offset).HasPage (regionSegment vaddr sz offset).base := by
    rw [h.hasPage, hbase]
    have := h.pos
    omega
  have hsource : (regionSegment vaddr sz offset).source (regionSegment vaddr sz offset).base =
      offset := if_pos rfl
  refine ⟨fun page hp => ?_, fun k hk => ?_, fun page j hp hj => ?_⟩
  · rw [honly page hp, hsize, hstart]
    show _ ≤ 4096
    omega
  · refine ⟨_, k, hserves, ?_, ?_, by rw [hsource]⟩
    · rw [hsize]
      omega
    · rw [hbase, hstart]
      omega
  rw [honly page hp] at hj ⊢
  rw [hsize] at hj
  refine ⟨j, by omega, ?_, by rw [hsource]⟩
  rw [hbase, hstart]
  omega

section

variable (hskew : vaddr.toNat % 4096 = 0) (hpages : 4096 < sz.toNat)
  (hnear : offset.toNat < 0x100000000)

include hskew hpages hnear

lemma aligned_page (hp : (regionSegment vaddr sz offset).HasPage page) :
    (regionSegment vaddr sz offset).start page = 0 ∧
      ((regionSegment vaddr sz offset).sizeToRead page).toNat =
        min 4096 (vaddr.toNat + sz.toNat - page.toNat) ∧
      ((regionSegment vaddr sz offset).source page).toNat =
        offset.toNat + (page.toNat - vaddr.toNat) := by
  obtain ⟨halign, hlo, hhi⟩ := (h.hasPage page).mp hp
  have hbase := region_base vaddr sz offset
  have hhigh := h.high
  by_cases hfirst : page = (regionSegment vaddr sz offset).base
  · have hnat : page.toNat = vaddr.toNat / 4096 * 4096 := by rw [hfirst, hbase]
    have hsource : (regionSegment vaddr sz offset).source (regionSegment vaddr sz offset).base =
      offset := if_pos rfl
    refine ⟨?_, ?_, ?_⟩
    · rw [hfirst, start_first sz hcongr, hskew]
    · rw [hnat, hfirst, size_first sz hcongr]
      omega
    · rw [hnat, hfirst, hsource]
      omega
  refine ⟨start_other hfirst, ?_, ?_⟩
  · by_cases hlast : page = (regionSegment vaddr sz offset).top - 4096#32
    · have hnat := congrArg BitVec.toNat hlast
      rw [h.last] at hnat
      rw [h.size_last hcongr hfirst hlast]
      omega
    have hnat : page.toNat ≠ vaddr.toNat / 4096 * 4096 +
        (vaddr.toNat % 4096 + sz.toNat - 1) / 4096 * 4096 := by
      rw [← h.last offset]
      exact fun heq => hlast (eq_of_toNat_eq heq)
    rw [size_middle hfirst hlast]
    omega
  · rw [source_other hfirst hlo]
    omega

lemma loadsExactly_aligned :
    (regionSegment vaddr sz offset).LoadsExactly vaddr sz offset := by
  have hhigh := h.high
  refine ⟨fun page hp => ?_, fun k hk => ?_, fun page j hp hj => ?_⟩
  · obtain ⟨hstart, hsize, -⟩ := aligned_page h hcongr hskew hpages hnear hp
    rw [hstart, hsize, PAGE_SIZE]
    omega
  · have hnat : (BitVec.ofNat 32 ((vaddr.toNat + k) / 4096 * 4096)).toNat =
        (vaddr.toNat + k) / 4096 * 4096 := by
      rw [toNat_ofNat]
      omega
    have hp : (regionSegment vaddr sz offset).HasPage
        (BitVec.ofNat 32 ((vaddr.toNat + k) / 4096 * 4096)) := by
      rw [h.hasPage, hnat]
      omega
    obtain ⟨hstart, hsize, hsource⟩ := aligned_page h hcongr hskew hpages hnear hp
    rw [hnat] at hsize hsource
    refine ⟨_, (vaddr.toNat + k) % 4096, hp, ?_, ?_, ?_⟩
    · rw [hsize]
      omega
    · rw [hnat, hstart]
      omega
    apply eq_of_toNat_eq
    rw [toNat_add, toNat_add, hsource, toNat_ofNat, toNat_ofNat]
    omega
  obtain ⟨hstart, hsize, hsource⟩ := aligned_page h hcongr hskew hpages hnear hp
  obtain ⟨halign, hlo, hhi⟩ := (h.hasPage page).mp hp
  rw [hsize] at hj
  refine ⟨page.toNat - vaddr.toNat + j, by omega, ?_, ?_⟩
  · rw [hstart]
    omega
  apply eq_of_toNat_eq
  rw [toNat_add, toNat_add, hsource, toNat_ofNat, toNat_ofNat]
  omega

end

end

end

lemma not_hasPage (hsz : 0 < sz.toNat) (hwrap : vaddr.toNat + sz.toNat ≤ 0x100000000)
    (h : ¬ InRange vaddr sz) (page : Word) : ¬ (regionSegment vaddr sz offset).HasPage page := by
  rintro ⟨hbase, -, -, -, htop⟩
  have hbaseNat := region_base vaddr sz offset
  have hlow : 4096 ≤ vaddr.toNat := by
    by_contra hlow
    apply hbase
    apply eq_of_toNat_eq
    rw [hbaseNat, toNat_0]
    omega
  have hhigh : 0xfffff000 < vaddr.toNat + sz.toNat := by
    by_contra hhigh
    exact h ⟨hsz, hlow, by omega⟩
  rw [lt_def, Segment.top, toNat_add, toNat_mul, hbaseNat,
    region_npages (by omega), toNat_4096] at htop
  omega

lemma segment_loadsExactly_iff (hsz : 0 < sz.toNat)
    (hcongr : offset.toNat % 4096 = vaddr.toNat % 4096)
    (hwrap : vaddr.toNat + sz.toNat ≤ 0x100000000) :
    (regionSegment vaddr sz offset).LoadsExactly vaddr sz offset ↔
      4096 ≤ vaddr.toNat ∧ vaddr.toNat + sz.toNat ≤ 0xfffff000 ∧
        (vaddr.toNat % 4096 + sz.toNat ≤ 4096 ∨
          vaddr.toNat % 4096 = 0 ∧ offset.toNat < 0x100000000) := by
  refine ⟨fun hl => ?_, fun hcond => ?_⟩
  · have h : InRange vaddr sz := by
      by_contra hout
      obtain ⟨page, j, hserves, -⟩ := hl.covers 0 hsz
      exact not_hasPage hsz hwrap hout page hserves
    refine ⟨h.low, h.high, ?_⟩
    by_contra hcase
    by_cases hskew : vaddr.toNat % 4096 = 0
    · exact not_loadsExactly_far h hcongr hskew (by omega) (by omega) hl
    · exact not_loadsExactly_skewed h hcongr hskew (by omega) hl
  obtain ⟨hlow, hhigh, hcase⟩ := hcond
  have h : InRange vaddr sz := ⟨hsz, hlow, hhigh⟩
  by_cases hpages : vaddr.toNat % 4096 + sz.toNat ≤ 4096
  · exact loadsExactly_one h hcongr hpages
  · obtain ⟨hskew, hnear⟩ := hcase.resolve_left hpages
    exact loadsExactly_aligned h hcongr hskew (by omega) hnear

section Served

variable {space : AddrSpace} {seg : Segment}

lemma segmentOf_eq_some (h : space.segmentOf page = some seg) :
    seg.Has page ∧ (seg = space.code ∨ seg = space.data) := by
  unfold AddrSpace.segmentOf at h
  by_cases hcode : space.code.Has page
  · rw [if_pos hcode] at h
    cases h
    exact ⟨hcode, .inl rfl⟩
  rw [if_neg hcode] at h
  by_cases hdata : space.data.Has page
  · rw [if_pos hdata] at h
    cases h
    exact ⟨hdata, .inr rfl⟩
  · rw [if_neg hdata] at h
    cases h

lemma AddrSpace.Serves.hasPage (h : space.Serves seg page) : seg.HasPage page := by
  obtain ⟨hsetUp, haligned, hseg⟩ := h
  obtain ⟨hhas, rfl | rfl⟩ := segmentOf_eq_some hseg
  · exact ⟨hsetUp.vbase1, hsetUp.npages1, haligned, hhas⟩
  · exact ⟨hsetUp.vbase2, hsetUp.npages2, haligned, hhas⟩

-- No page of the region lies in a region that vm_fault looks at before.
def AddrSpace.Unshadowed (space : AddrSpace) (seg : Segment) : Prop :=
  ∀ page, page &&& PAGE_FRAME = page → seg.Has page → space.segmentOf page = some seg

lemma serves_iff (hsetUp : space.SetUp) (hclear : space.Unshadowed seg) :
    space.Serves seg = seg.HasPage := by
  funext page
  refine propext ⟨fun h => h.hasPage, fun h => ?_⟩
  exact ⟨hsetUp, h.2.2.1, hclear page h.2.2.1 h.2.2.2⟩

-- Every page of the region holds a byte of it, so that a region that is loaded is not shadowed.
lemma unshadowed_of_loads (hsz : 0 < sz.toNat) (hwrap : vaddr.toNat + sz.toNat ≤ 0x100000000)
    (hl : space.LoadsExactly (regionSegment vaddr sz offset) vaddr sz offset) :
    space.SetUp ∧ space.Unshadowed (regionSegment vaddr sz offset) := by
  obtain ⟨first, -, hfirst, -⟩ := hl.covers 0 hsz
  have h : InRange vaddr sz := by
    by_contra hout
    exact not_hasPage hsz hwrap hout first hfirst.hasPage
  refine ⟨hfirst.1, fun page haligned hhas => ?_⟩
  have hhasPage : (regionSegment vaddr sz offset).HasPage page :=
    ⟨hfirst.hasPage.1, hfirst.hasPage.2.1, haligned, hhas⟩
  have hpage := (h.hasPage page).mp hhasPage
  obtain ⟨served, j, hserved, hj, haddr, -⟩ :=
    hl.covers (page.toNat - vaddr.toNat) (by omega)
  have hin : _ ≤ 4096 := hl.inPage served hserved
  have hmod := (h.hasPage served).mp hserved.hasPage
  obtain rfl : served = page := by
    apply eq_of_toNat_eq
    rw [page_of_byte hmod.1 (by omega) haddr]
    omega
  exact hserved.2.2

end Served

section Fault

variable {env : Env} {s t : State}

lemma findPage_absent_ok (habsent : s.pageTable.lookup pid vaddr = none)
    (hout : s.swap.slotOf pid vaddr = none)
    (hrun : (findPage env as pid vaddr).run s = .ok resolution t) :
    (loadOnDemand env as pid vaddr).run s = .ok resolution t := by
  unfold findPage at hrun
  obtain ⟨resident, u, hget, hrun⟩ := bind_ok.mp hrun
  obtain ⟨-, hresident, rfl⟩ := pageTableGetPaddrEntry_ok.mp hget
  rw [habsent, Option.map_none] at hresident
  subst hresident
  obtain ⟨swapped, u, hswap, hload⟩ := bind_ok.mp hrun
  obtain ⟨-, rfl, rfl⟩ := (swapIn_none_ok hout).mp hswap
  exact hload

-- The frame holds zeros and, where the segment's formula puts them, the bytes that the read of
-- the segment's formulas has given.
def Segment.Loaded (seg : Segment) (env : Env) (v : Nat) (page paddr : Word) (mem : Nat → UInt8) :
    Prop :=
  ∀ i < PAGE_SIZE, mem (paddr.toNat + i) = Bytes.paste (fun _ => 0) (seg.dest page paddr).toNat
    (seg.bytes env v page).length (fun k => (seg.bytes env v page).getD k 0) (paddr.toNat + i)

lemma vmFault_loads (haccess : IsAccess faulttype)
    (hrun : (vmFault env (some ⟨pid, some as⟩) faulttype faultaddress).run s = .ok result t)
    (habsent : s.pageTable.lookup pid (faultaddress &&& PAGE_FRAME) = none)
    (hout : s.swap.slotOf pid (faultaddress &&& PAGE_FRAME) = none)
    (hseg : (s.addrspaces as).segmentOf (faultaddress &&& PAGE_FRAME) = some seg)
    (hframe : ¬ s.NoFrame as pid) :
    (s.addrspaces as).Serves seg (faultaddress &&& PAGE_FRAME) ∧
      ∃ paddr, seg.Loaded env (s.addrspaces as).fi.v (faultaddress &&& PAGE_FRAME) paddr t.mem := by
  rw [vmFault_access haccess] at hrun
  have hcovers : ((s.setStats s.stats.countTlbFaults).addrspaces as).Covers
      (faultaddress &&& PAGE_FRAME) := .inl (by rw [State.setStats_addrspaces, hseg]; simp)
  obtain ⟨hsetUp, hfind⟩ := resolveFault_ok.mp hrun
  refine ⟨⟨hsetUp, pageFrame_aligned _, hseg⟩, ?_⟩
  have hloads : ∀ resolution u,
      (findPage env as pid (faultaddress &&& PAGE_FRAME)).run (s.setStats s.stats.countTlbFaults) =
        .ok resolution u → ∃ paddr indexTlb, resolution = .page paddr indexTlb ∧
          seg.Loaded env (s.addrspaces as).fi.v (faultaddress &&& PAGE_FRAME) paddr u.mem := by
    intro resolution u hrun
    rcases loadOnDemand_result hcovers (findPage_absent_ok habsent hout hrun) with
      ⟨-, hnone⟩ | ⟨paddr, indexTlb, hpage, -, helf, -⟩
    · exact absurd hnone hframe
    · exact ⟨paddr, indexTlb, hpage, helf seg hseg⟩
  rcases hfind with hfind | ⟨paddr, indexTlb, u, hfind, hinstall⟩
  · obtain ⟨_, _, hpage, -⟩ := hloads _ _ hfind
    cases hpage
  obtain ⟨_, _, hpage, hmem⟩ := hloads _ _ hfind
  cases hpage
  obtain ⟨-, -, -, -, rfl⟩ := installPage_ok.mp hinstall
  exact ⟨paddr, hmem⟩

end Fault

-- The pages of a region are read exactly when vm_fault gets to the region for each of them, and it
-- lies in one page, or starts on a page boundary with its part of the file below 4 GB; in the
-- range where vm_fault finds it at all. A fault reads just what the region's formulas say.
theorem loadsExactly_iff (hsz : 0 < sz.toNat) (hcongr : offset.toNat % 4096 = vaddr.toNat % 4096)
    (hwrap : vaddr.toNat + sz.toNat ≤ 0x100000000) :
    (∀ as : AddrSpace, as.asVbase1 = 0#32 →
        (asDefineRegion as vaddr sz offset).2.code = regionSegment vaddr sz offset) ∧
      (∀ as : AddrSpace, as.asVbase1 ≠ 0#32 → as.asVbase2 = 0#32 →
        (asDefineRegion as vaddr sz offset).2.data = regionSegment vaddr sz offset) ∧
      (∀ space : AddrSpace, space.LoadsExactly (regionSegment vaddr sz offset) vaddr sz offset ↔
        (space.SetUp ∧ space.Unshadowed (regionSegment vaddr sz offset)) ∧
          4096 ≤ vaddr.toNat ∧ vaddr.toNat + sz.toNat ≤ 0xfffff000 ∧
          (vaddr.toNat % 4096 + sz.toNat ≤ 4096 ∨
            vaddr.toNat % 4096 = 0 ∧ offset.toNat < 0x100000000)) ∧
      ∀ (env : Env) (s t : State) (as : Nat) (pid faulttype page result : Word) (seg : Segment),
        IsAccess faulttype → page &&& PAGE_FRAME = page →
        (vmFault env (some ⟨pid, some as⟩) faulttype page).run s = .ok result t →
        s.pageTable.lookup pid page = none → s.swap.slotOf pid page = none →
        (s.addrspaces as).segmentOf page = some seg → ¬ s.NoFrame as pid →
        (s.addrspaces as).Serves seg page ∧
          ∃ paddr, seg.Loaded env (s.addrspaces as).fi.v page paddr t.mem := by
  refine ⟨fun as h1 => ?_, fun as h1 h2 => ?_, fun space => ?_, ?_⟩
  · simp only [asDefineRegion, h1, if_true]
    rfl
  · simp only [asDefineRegion, h1, h2, if_true, if_false]
    rfl
  · rw [← segment_loadsExactly_iff hsz hcongr hwrap]
    constructor
    · intro hl
      obtain ⟨hsetUp, hclear⟩ := unshadowed_of_loads hsz hwrap hl
      rw [AddrSpace.LoadsExactly, serves_iff hsetUp hclear] at hl
      exact ⟨⟨hsetUp, hclear⟩, hl⟩
    · rintro ⟨⟨hsetUp, hclear⟩, hl⟩
      rwa [AddrSpace.LoadsExactly, serves_iff hsetUp hclear]
  intro env s t as pid faulttype page result seg haccess haligned hrun habsent hout hseg hframe
  rw [← haligned] at habsent hout hseg
  have h := vmFault_loads haccess hrun habsent hout hseg hframe
  rwa [haligned] at h

-- A program with a page of code from 0x400100 on and three pages of data at 0x10000000.
def twoRegions : AddrSpace :=
  (asDefineRegion (asDefineRegion ⟨0#32, 0#32, 0#32, 0#32, 0#32, 0, ⟨0#64, 0#32, 0#64, 0#32, 0⟩⟩
    0x400100#32 0x200#32 0x100#64).2 0x10000000#32 0x2800#32 0x1000#64).2

theorem loadsExactly_twoRegions :
    twoRegions.LoadsExactly (regionSegment 0x400100#32 0x200#32 0x100#64) 0x400100#32 0x200#32
        0x100#64 ∧
      twoRegions.LoadsExactly (regionSegment 0x10000000#32 0x2800#32 0x1000#64) 0x10000000#32
        0x2800#32 0x1000#64 := by
  have hsetUp : twoRegions.SetUp :=
    ⟨by decide, by decide, by decide, by decide, by decide, by decide, by decide⟩
  refine ⟨((loadsExactly_iff (by decide) (by decide) (by decide)).2.2.1 twoRegions).mpr
    ⟨⟨hsetUp, fun page _ hhas => if_pos hhas⟩, by decide⟩,
    ((loadsExactly_iff (by decide) (by decide) (by decide)).2.2.1 twoRegions).mpr
    ⟨⟨hsetUp, fun page _ hhas => ?_⟩, by decide⟩⟩
  have hcode : ¬ twoRegions.code.Has page := by
    intro h
    have hlow : 0x10000000#32 ≤ page := hhas.1
    have hhigh : page < 0x401000#32 := h.2
    bv_omega
  exact (if_neg hcode).trans (if_pos hhas)

-- A segment of 0x1000 bytes from 0x400100 on: its second page should get 0x100 bytes and asks
-- for almost 4 GB.
theorem sizeToRead_wraps : (0x100#64 : BitVec 64).toNat % 4096 = (0x400100#32 : Word).toNat % 4096 ∧
    (regionSegment 0x400100#32 0x1000#32 0x100#64).sizeToRead 0x401000#32 = 0xffffff00#32 := by
  decide

end Loads

end Os161.Vm
