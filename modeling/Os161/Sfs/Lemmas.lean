import Os161.Sfs

namespace Os161.Sfs

open Function Lib.Bytes EStateM List
open Lib.Exec
open Vm (Word Stop kassert)

section Words

lemma wordAt_ofWords (hw : w k < 0x100000000) : wordAt (ofWords w) k = w k := by
  have h0 : (4 * k) % 4 = 0 ∧ (4 * k) / 4 = k := by omega
  have h1 : (4 * k + 1) % 4 = 1 ∧ (4 * k + 1) / 4 = k := by omega
  have h2 : (4 * k + 2) % 4 = 2 ∧ (4 * k + 2) / 4 = k := by omega
  have h3 : (4 * k + 3) % 4 = 3 ∧ (4 * k + 3) / 4 = k := by omega
  simp only [wordAt, ofWords, h0, h1, h2, h3, UInt8.toNat_ofNat']
  omega

lemma wordAt_lt (b : Block) (k : Nat) : wordAt b k < 0x100000000 := by
  have h0 := (b (4 * k)).toNat_lt
  have h1 := (b (4 * k + 1)).toNat_lt
  have h2 := (b (4 * k + 2)).toNat_lt
  have h3 := (b (4 * k + 3)).toNat_lt
  simp only [wordAt]
  omega

lemma wordAt_zeroBlock (k : Nat) : wordAt zeroBlock k = 0 := by simp [wordAt, zeroBlock]

end Words

def MAXBLOCKS : Nat := SFS_NDIRECT + SFS_DBPERIDB

def blockOf (disk : Nat → Block) (sv : Vnode) (fileblock : Nat) : Nat :=
  if fileblock < SFS_NDIRECT then sv.direct fileblock
  else if sv.indirect = 0 then 0
  else wordAt (disk sv.indirect) (fileblock - SFS_NDIRECT)

def byteOf (disk : Nat → Block) (sv : Vnode) (i : Nat) : UInt8 :=
  if blockOf disk sv (i / SFS_BLOCKSIZE) = 0 then 0
  else disk (blockOf disk sv (i / SFS_BLOCKSIZE)) (i % SFS_BLOCKSIZE)

def Owns (disk : Nat → Block) (sv : Vnode) (b : Nat) : Prop :=
  b ≠ 0 ∧ (b = sv.indirect ∨ ∃ fileblock < MAXBLOCKS, blockOf disk sv fileblock = b)

structure Vol (s : Fs) : Prop where
  super : s.freemap 0 = true
  past : ∀ b, s.nblocks ≤ b → b < s.freemapbits → s.freemap b = true
  small : s.nblocks ≤ 0x800000

structure File (s : Fs) (sv : Vnode) : Prop where
  marked : ∀ b, Owns s.disk sv b → s.freemap b = true ∧ b < s.nblocks
  inj : ∀ i < MAXBLOCKS, ∀ j < MAXBLOCKS, blockOf s.disk sv i ≠ 0 →
    blockOf s.disk sv i = blockOf s.disk sv j → i = j
  indirect : ∀ i < MAXBLOCKS, sv.indirect ≠ 0 → blockOf s.disk sv i ≠ sv.indirect

structure Loaded (s : Fs) (ino : Nat) (sv : Vnode) : Prop where
  quiet : s.failures = []
  vol : Vol s
  vnode : s.vnodes ino = some sv
  file : File s sv

section Frame

variable {s t : Fs} {ino : Nat} {sv sv' : Vnode} {b : Nat}

-- What an operation on a file leaves alone: the other vnodes, the marks, and every block that
-- is marked and does not belong to the file.
structure Frame (s t : Fs) (ino : Nat) (sv sv' : Vnode) : Prop where
  nblocks : t.nblocks = s.nblocks
  vnodes : ∀ i ≠ ino, t.vnodes i = s.vnodes i
  marks : ∀ b, s.freemap b = true → t.freemap b = true
  disk : ∀ b, s.freemap b = true → ¬ Owns s.disk sv b → t.disk b = s.disk b
  owns : ∀ b, Owns t.disk sv' b → Owns s.disk sv b ∨ s.freemap b = false

lemma Frame.refl (s : Fs) (ino : Nat) (sv : Vnode) : Frame s s ino sv sv :=
  ⟨rfl, fun _ _ => rfl, fun _ h => h, fun _ _ _ => rfl, fun _ h => .inl h⟩

lemma Frame.trans (h : Frame s t ino sv sv') (h' : Frame t u ino sv' sv'') :
    Frame s u ino sv sv'' := by
  refine ⟨h'.nblocks.trans h.nblocks, fun i hi => (h'.vnodes i hi).trans (h.vnodes i hi),
    fun b hb => h'.marks b (h.marks b hb), fun b hb hno => ?_, fun b hb => ?_⟩
  · refine (h'.disk b (h.marks b hb) fun howns => ?_).trans (h.disk b hb hno)
    rcases h.owns b howns with howns | hfree
    · exact hno howns
    · rw [hb] at hfree
      cases hfree
  rcases h'.owns b hb with howns | hfree
  · exact h.owns b howns
  refine .inr ?_
  cases hmark : s.freemap b with
  | false => rfl
  | true => rw [h.marks b hmark] at hfree; cases hfree

end Frame

section Alloc

variable {s t : Fs} {b : Nat}

lemma firstFree_some (h : s.firstFree = some b) : b < s.freemapbits ∧ s.freemap b = false := by
  have hmem := mem_of_find?_eq_some h
  have hfree := find?_some h
  exact ⟨mem_range.mp hmem, by simpa using hfree⟩

structure Allocated (s t : Fs) (b : Nat) : Prop where
  free : s.freemap b = false
  lt : b < s.nblocks
  nblocks : t.nblocks = s.nblocks
  freemap : t.freemap = update s.freemap b true
  disk : t.disk = update s.disk b zeroBlock
  vnodes : t.vnodes = s.vnodes
  failures : t.failures = []

lemma sfsBalloc_run (hquiet : s.failures = []) (hvol : Vol s) :
    (s.firstFree = none ∧ sfsBalloc.run s = .ok (.error ENOSPC) s) ∨
      ∃ b t, sfsBalloc.run s = .ok (.ok b) t ∧ Allocated s t b := by
  cases hfree : s.firstFree with
  | none => exact .inl ⟨rfl, by simp [sfsBalloc, hfree]⟩
  | some b =>
    obtain ⟨hbits, hclear⟩ := firstFree_some hfree
    have hlt : b < s.nblocks := by
      by_contra hge
      have := hvol.past b (Nat.le_of_not_lt hge) hbits
      rw [hclear] at this
      cases this
    refine .inr ⟨b, { s with
      freemap := update s.freemap b true
      disk := update s.disk b zeroBlock
      failures := []
      transfers := s.transfers ++ [⟨true, .clear, b, false⟩] }, ?_, ?_⟩
    · simp [sfsBalloc, hfree, Nat.not_le.mpr hlt, setMark, sfsClearblock, sfsWriteblock,
        sfsRwblock, hquiet]
    · exact ⟨hclear, hlt, rfl, rfl, rfl, rfl, rfl⟩

end Alloc

section Grow

variable {s t : Fs} {ino b : Nat} {sv sv' : Vnode}

lemma owns_indirect (h : sv.indirect ≠ 0) (disk : Nat → Block) : Owns disk sv sv.indirect :=
  ⟨h, .inl rfl⟩

lemma owns_block (hfb : fb < MAXBLOCKS) (h : blockOf disk sv fb ≠ 0) :
    Owns disk sv (blockOf disk sv fb) :=
  ⟨h, .inr ⟨fb, hfb, rfl⟩⟩

lemma blockOf_congr (h : sv.indirect ≠ 0 → disk' sv.indirect = disk sv.indirect) (i : Nat) :
    blockOf disk' sv i = blockOf disk sv i := by
  unfold blockOf
  by_cases hi : sv.indirect = 0
  · simp only [hi, if_true]
  · rw [h hi]

lemma byteOf_congr
    (hblock : blockOf disk' sv' (i / SFS_BLOCKSIZE) = blockOf disk sv (i / SFS_BLOCKSIZE))
    (hdisk : blockOf disk sv (i / SFS_BLOCKSIZE) ≠ 0 →
      disk' (blockOf disk sv (i / SFS_BLOCKSIZE)) = disk (blockOf disk sv (i / SFS_BLOCKSIZE))) :
    byteOf disk' sv' i = byteOf disk sv i := by
  unfold byteOf
  rw [hblock]
  by_cases h : blockOf disk sv (i / SFS_BLOCKSIZE) = 0
  · rw [if_pos h, if_pos h]
  · rw [if_neg h, if_neg h, hdisk h]

structure Grown (s t : Fs) (ino : Nat) (sv sv' : Vnode) : Prop where
  loaded : Loaded t ino sv'
  size : sv'.size = sv.size
  bytes : ∀ i < MAXBLOCKS * SFS_BLOCKSIZE, byteOf t.disk sv' i = byteOf s.disk sv i
  frame : Frame s t ino sv sv'
  keeps : ∀ b, Owns s.disk sv b → Owns t.disk sv' b
  fresh : ∀ b, t.freemap b = true → s.freemap b = true ∨ Owns t.disk sv' b

lemma Grown.refl (h : Loaded s ino sv) : Grown s s ino sv sv :=
  ⟨h, rfl, fun _ _ => rfl, Frame.refl s ino sv, fun _ hb => hb, fun _ hb => .inl hb⟩

lemma Grown.trans (h : Grown s t ino sv sv') (h' : Grown t u ino sv' sv'') :
    Grown s u ino sv sv'' :=
  ⟨h'.loaded, h'.size.trans h.size, fun i hi => (h'.bytes i hi).trans (h.bytes i hi),
    h.frame.trans h'.frame, fun b hb => h'.keeps b (h.keeps b hb), fun b hb =>
      (h'.fresh b hb).elim (fun hb => (h.fresh b hb).imp_right (h'.keeps b)) .inr⟩

lemma Allocated.vol (h : Vol s) (ha : Allocated s t b) (hnb : u.nblocks = t.nblocks)
    (hmap : u.freemap = t.freemap) : Vol u := by
  have hmark : ∀ c, s.freemap c = true → u.freemap c = true := by
    intro c hc
    rw [hmap, ha.freemap]
    by_cases hcb : c = b
    · rw [hcb, update_self]
    · rwa [update_of_ne hcb]
  have hbits : u.freemapbits = s.freemapbits := by rw [Fs.freemapbits, hnb, ha.nblocks]; rfl
  refine ⟨hmark 0 h.super, fun c hc hlt => ?_, ?_⟩
  · rw [hnb, ha.nblocks] at hc
    rw [hbits] at hlt
    exact hmark c (h.past c hc hlt)
  · rw [hnb, ha.nblocks]
    exact h.small

lemma Loaded.grow (h : Loaded s ino sv) (ha : Allocated s t b) (hfb : fb < MAXBLOCKS)
    (hhole : blockOf s.disk sv fb = 0) (hnb : u.nblocks = t.nblocks)
    (hfreemap : u.freemap = t.freemap) (hfail : u.failures = [])
    (hvnodes : u.vnodes = update s.vnodes ino (some sv'))
    (hsize : sv'.size = sv.size) (hind : sv'.indirect = sv.indirect)
    (hmap : ∀ i, blockOf u.disk sv' i = if i = fb then b else blockOf s.disk sv i)
    (hzero : u.disk b = zeroBlock)
    (hdisk : ∀ c, c ≠ b → (sv.indirect ≠ 0 → c ≠ sv.indirect) → u.disk c = s.disk c) :
    Grown s u ino sv sv' := by
  have hb0 : b ≠ 0 := by
    rintro rfl
    have := h.vol.super
    rw [ha.free] at this
    cases this
  have hmark : ∀ c, s.freemap c = true → u.freemap c = true ∧ c ≠ b := by
    intro c hc
    have hcb : c ≠ b := by
      rintro rfl
      rw [ha.free] at hc
      cases hc
    exact ⟨by rw [hfreemap, ha.freemap, update_of_ne hcb]; exact hc, hcb⟩
  have hself : u.freemap b = true := by rw [hfreemap, ha.freemap, update_self]
  -- the blocks of the file are the old ones and the new one
  have howns : ∀ c, Owns u.disk sv' c → c = b ∨ Owns s.disk sv c := by
    rintro c ⟨hc, rfl | ⟨i, hi, rfl⟩⟩
    · rw [hind] at hc ⊢
      exact .inr (owns_indirect hc _)
    rw [hmap i] at hc ⊢
    by_cases hif : i = fb
    · rw [if_pos hif]
      exact .inl rfl
    · rw [if_neg hif] at hc ⊢
      exact .inr (owns_block hi hc)
  have hold : ∀ i < MAXBLOCKS, blockOf s.disk sv i ≠ b := by
    intro i hi heq
    have := (h.file.marked _ (owns_block hi (heq ▸ hb0))).1
    rw [heq, ha.free] at this
    cases this
  have hfile : File u sv' := by
    refine ⟨fun c hc => ?_, fun i hi j hj hne heq => ?_, fun i hi hne => ?_⟩
    · rw [hnb, ha.nblocks]
      rcases howns c hc with rfl | hc
      · exact ⟨hself, ha.lt⟩
      · obtain ⟨hcm, hlt⟩ := h.file.marked c hc
        exact ⟨(hmark c hcm).1, hlt⟩
    · rw [hmap i, hmap j] at heq
      rw [hmap i] at hne
      by_cases hif : i = fb
      · by_cases hjf : j = fb
        · rw [hif, hjf]
        · rw [if_pos hif, if_neg hjf] at heq
          exact absurd heq.symm (hold j hj)
      by_cases hjf : j = fb
      · rw [if_neg hif, if_pos hjf] at heq
        exact absurd heq (hold i hi)
      rw [if_neg hif, if_neg hjf] at heq
      rw [if_neg hif] at hne
      exact h.file.inj i hi j hj hne heq
    rw [hind] at hne ⊢
    rw [hmap i]
    by_cases hif : i = fb
    · rw [if_pos hif]
      exact Ne.symm (hmark _ (h.file.marked _ (owns_indirect hne _)).1).2
    · rw [if_neg hif]
      exact h.file.indirect i hi hne
  have hkeeps : ∀ c, Owns s.disk sv c → Owns u.disk sv' c := by
    rintro c ⟨hc, rfl | ⟨i, hi, rfl⟩⟩
    · rw [← hind] at hc ⊢
      exact owns_indirect hc _
    have hif : i ≠ fb := by
      rintro rfl
      exact hc hhole
    have hsame : blockOf u.disk sv' i = blockOf s.disk sv i := by rw [hmap i, if_neg hif]
    rw [← hsame] at hc ⊢
    exact owns_block hi hc
  have hnew : Owns u.disk sv' b := ⟨hb0, .inr ⟨fb, hfb, by rw [hmap fb, if_pos rfl]⟩⟩
  refine ⟨⟨hfail, ha.vol h.vol hnb hfreemap, by rw [hvnodes, update_self], hfile⟩, hsize,
    fun i hi => ?_, ?_, hkeeps, fun c hc => ?_⟩
  · by_cases hif : i / SFS_BLOCKSIZE = fb
    · unfold byteOf
      rw [hmap, if_pos hif, if_neg hb0, hzero, hif, if_pos hhole]
      rfl
    have hlt : i / SFS_BLOCKSIZE < MAXBLOCKS := Nat.div_lt_of_lt_mul (by rwa [Nat.mul_comm])
    refine byteOf_congr (by rw [hmap, if_neg hif]) fun hne => hdisk _ (hold _ hlt) fun hi0 => ?_
    exact h.file.indirect _ hlt hi0
  · refine ⟨hnb.trans ha.nblocks, fun i hi => by rw [hvnodes, update_of_ne hi],
      fun c hc => (hmark c hc).1, fun c hc hno => hdisk c (hmark c hc).2 fun hi0 => ?_,
      fun c hc => ?_⟩
    · rintro rfl
      exact hno (owns_indirect hi0 _)
    rcases howns c hc with rfl | hc
    · exact .inr ha.free
    · exact .inl hc
  by_cases hcb : c = b
  · rw [hcb]
    exact .inr hnew
  · rw [hfreemap, ha.freemap, update_of_ne hcb] at hc
    exact .inl hc

end Grow

section Bmap

variable {s t : Fs} {ino b fb : Nat} {sv : Vnode}

lemma getSv_run (h : s.vnodes ino = some sv) : (getSv ino).run s = .ok sv s := by
  simp [getSv, h]

lemma handBack_run (h : Loaded s ino sv) (hfb : fb < MAXBLOCKS)
    (hmap : blockOf s.disk sv fb = b) (k : Nat) : (handBack b k ino).run s = .ok (.ok b) s := by
  by_cases hne : b = 0
  · simp [handBack, hne]
  · obtain ⟨hmark, hlt⟩ := h.file.marked b (hmap ▸ owns_block hfb (hmap ▸ hne))
    simp [handBack, hne, sfsBused, Nat.not_le.mpr hlt, hmark]

def Fs.traced (s : Fs) (transfers : List Transfer) : Fs :=
  { s with failures := [], transfers }

def Fs.putVnode (s : Fs) (ino : Nat) (sv : Vnode) : Fs :=
  { s with vnodes := update s.vnodes ino (some sv) }

def Fs.putBlock (s : Fs) (b : Nat) (data : Block) : Fs :=
  { s with disk := update s.disk b data }

lemma setSv_run (s : Fs) (ino : Nat) (sv : Vnode) :
    (setSv ino sv).run s = .ok () (s.putVnode ino sv) := rfl

lemma Loaded.traced (h : Loaded s ino sv) (tr : List Transfer) : Loaded (s.traced tr) ino sv :=
  ⟨rfl, ⟨h.vol.super, h.vol.past, h.vol.small⟩, h.vnode,
    ⟨h.file.marked, h.file.inj, h.file.indirect⟩⟩

lemma Grown.traced (h : Loaded s ino sv) (tr : List Transfer) : Grown s (s.traced tr) ino sv sv :=
  ⟨h.traced tr, rfl, fun _ _ => rfl, ⟨rfl, fun _ _ => rfl, fun _ hb => hb, fun _ _ _ => rfl,
    fun _ hb => .inl hb⟩, fun _ hb => hb, fun _ hb => .inl hb⟩

lemma sfsReadblock_run (hquiet : s.failures = []) (purpose : Purpose) (b : Nat) :
    ∃ tr, (sfsReadblock purpose b).run s = .ok (.ok (s.disk b)) (s.traced tr) :=
  ⟨s.transfers ++ [⟨false, purpose, b, false⟩], by
    simp [sfsReadblock, sfsRwblock, hquiet, Fs.traced]⟩

lemma sfsWriteblock_run (hquiet : s.failures = []) (purpose : Purpose) (b : Nat) (data : Block) :
    ∃ tr, (sfsWriteblock purpose b data).run s = .ok (.ok ()) ((s.putBlock b data).traced tr) :=
  ⟨s.transfers ++ [⟨true, purpose, b, false⟩], by
    simp [sfsWriteblock, sfsRwblock, hquiet, Fs.traced, Fs.putBlock]⟩

def Held (s : Fs) (ino : Nat) (sv : Vnode) : Prop := Loaded (s.traced []) ino sv

lemma Loaded.held (h : Loaded s ino sv) : Held s ino sv := h.traced []

lemma Held.loaded (h : Held s ino sv) (hquiet : s.failures = []) : Loaded s ino sv :=
  ⟨hquiet, ⟨h.vol.super, h.vol.past, h.vol.small⟩, h.vnode,
    ⟨h.file.marked, h.file.inj, h.file.indirect⟩⟩

def Fs.moved (s : Fs) (transfers : List Transfer) : Fs :=
  { s with failures := s.failures.tail, transfers }

def Mild (s : Fs) : Prop := ∀ fault ∈ s.failures, ∀ b, fault true .indirect b = false

lemma Mild.of_tail (h : Mild s) (hfail : t.failures = s.failures.tail) : Mild t := by
  intro fault hmem
  rw [hfail] at hmem
  exact h fault (mem_of_mem_tail hmem)

lemma sfsReadblock_any (s : Fs) (purpose : Purpose) (b : Nat) :
    ∃ r tr, (sfsReadblock purpose b).run s = .ok r (s.moved tr) ∧
      (r = .ok (s.disk b) ∨ r = .error EIO ∧ s.failures ≠ []) := by
  cases hfail : s.failures.headD (fun _ _ _ => false) false purpose b with
  | false =>
    refine ⟨.ok (s.disk b), s.transfers ++ [⟨false, purpose, b, false⟩], ?_, .inl rfl⟩
    simp only [sfsReadblock, sfsRwblock, run_bind, run_modifyGet, hfail]
    rfl
  | true =>
    refine ⟨.error EIO, s.transfers ++ [⟨false, purpose, b, true⟩], ?_, .inr ⟨rfl, ?_⟩⟩
    · simp only [sfsReadblock, sfsRwblock, run_bind, run_modifyGet, hfail]
      rfl
    intro hnil
    rw [hnil] at hfail
    cases hfail

lemma sfsWriteblock_any (s : Fs) (purpose : Purpose) (b : Nat) (data : Block) :
    ∃ tr, (sfsWriteblock purpose b data).run s = .ok (.ok ()) ((s.putBlock b data).moved tr) ∨
      (sfsWriteblock purpose b data).run s = .ok (.error EIO) (s.moved tr) ∧
        s.failures ≠ [] ∧ (Mild s → purpose ≠ .indirect) := by
  cases hfail : s.failures.headD (fun _ _ _ => false) true purpose b with
  | false =>
    refine ⟨s.transfers ++ [⟨true, purpose, b, false⟩], .inl ?_⟩
    simp only [sfsWriteblock, sfsRwblock, run_bind, run_modifyGet, hfail]
    rfl
  | true =>
    refine ⟨s.transfers ++ [⟨true, purpose, b, true⟩], .inr ⟨?_, ?_, ?_⟩⟩
    · simp only [sfsWriteblock, sfsRwblock, run_bind, run_modifyGet, hfail]
      rfl
    · intro hnil
      rw [hnil] at hfail
      cases hfail
    rintro hmild rfl
    cases hlist : s.failures with
    | nil =>
      rw [hlist] at hfail
      cases hfail
    | cons fault rest =>
      rw [hlist, headD_cons, hmild fault (by rw [hlist]; exact mem_cons_self)] at hfail
      cases hfail

def Mapped (s : Fs) (ino : Nat) (sv : Vnode) (fb : Nat) (r : Except Word Nat) (t : Fs) : Prop :=
  ∃ sv', Grown s t ino sv sv' ∧
    (r = .error ENOSPC ∧ t.firstFree = none ∨
      ∃ b, r = .ok b ∧ b ≠ 0 ∧ blockOf t.disk sv' fb = b)

lemma Mapped.after (h : Grown s t ino sv sv') (h' : Mapped t ino sv' fb r u) :
    Mapped s ino sv fb r u := by
  obtain ⟨sv'', hg, hend⟩ := h'
  exact ⟨sv'', h.trans hg, hend⟩

lemma Allocated.ne_zero (h : Vol s) (ha : Allocated s t b) : b ≠ 0 := by
  rintro rfl
  have := h.super
  rw [ha.free] at this
  cases this

lemma Allocated.ne_of_marked (ha : Allocated s t b) (hc : s.freemap c = true) : c ≠ b := by
  rintro rfl
  rw [ha.free] at hc
  cases hc

lemma Allocated.marked_of {u : Fs} (ha : Allocated s t b) (hmap : u.freemap = t.freemap)
    (hnb : u.nblocks = t.nblocks) : u.freemap b = true ∧ b < u.nblocks := by
  rw [hmap, hnb, ha.freemap, ha.nblocks, update_self]
  exact ⟨rfl, ha.lt⟩

def Vnode.setDirect (sv : Vnode) (fb b : Nat) : Vnode :=
  { sv with direct := update sv.direct fb b, dirty := true }

lemma blockOf_setDirect (hdisk : sv.indirect ≠ 0 → disk' sv.indirect = disk sv.indirect)
    (hfb : fb < SFS_NDIRECT)
    (b i : Nat) :
    blockOf disk' (sv.setDirect fb b) i = if i = fb then b else blockOf disk sv i := by
  show (if i < SFS_NDIRECT then update sv.direct fb b i
    else if sv.indirect = 0 then 0 else wordAt (disk' sv.indirect) (i - SFS_NDIRECT)) = _
  by_cases hif : i = fb
  · rw [if_pos hif, if_pos (hif ▸ hfb), hif, update_self]
  · rw [if_neg hif, update_of_ne hif, ← blockOf_congr hdisk]
    rfl

section

variable (h : Loaded s ino sv)

include h

lemma bmapDirect_alloc (hfb : fb < SFS_NDIRECT) :
    ∃ r t, (bmapDirect ino fb true).run s = .ok r t ∧ Mapped s ino sv fb r t := by
  have hmap : ∀ disk, blockOf disk sv fb = sv.direct fb := fun disk => if_pos hfb
  have hfb' : fb < MAXBLOCKS := Nat.lt_of_lt_of_le hfb (by decide)
  rw [bmapDirect, bind_run_ok (getSv_run h.vnode)]
  by_cases hz : sv.direct fb = 0
  · simp only [hz, true_and, if_true]
    rcases sfsBalloc_run h.quiet h.vol with ⟨hnone, hrun⟩ | ⟨b, t, hrun, ha⟩
    · rw [bind_run_ok hrun]
      exact ⟨_, _, rfl, sv, Grown.refl h, .inl ⟨rfl, hnone⟩⟩
    rw [bind_run_ok hrun]
    have hind : sv.indirect ≠ 0 → sv.indirect ≠ b := fun hne =>
      ha.ne_of_marked (h.file.marked _ (owns_indirect hne _)).1
    have hdisk : sv.indirect ≠ 0 → t.disk sv.indirect = s.disk sv.indirect := fun hne => by
      rw [ha.disk, update_of_ne (hind hne)]
    have hmap' := blockOf_setDirect hdisk hfb b
    have hg : Grown s (t.putVnode ino (sv.setDirect fb b)) ino sv (sv.setDirect fb b) :=
      h.grow ha hfb' ((hmap _).trans hz) rfl rfl ha.failures
        (by rw [Fs.putVnode, ha.vnodes]) rfl rfl hmap'
        (by rw [Fs.putVnode, ha.disk, update_self])
        (fun c hc _ => by rw [Fs.putVnode, ha.disk, update_of_ne hc])
    refine ⟨.ok b, _, ?_, _, hg, .inr ⟨b, rfl, ha.ne_zero h.vol, ?_⟩⟩
    · show (setSv ino (sv.setDirect fb b) >>= fun _ => handBack b fb ino).run t = _
      rw [bind_run_ok (setSv_run ..)]
      exact handBack_run hg.loaded hfb' ((hmap' fb).trans (if_pos rfl)) fb
    · exact (hmap' fb).trans (if_pos rfl)
  · simp only [hz, false_and, if_false]
    exact ⟨_, _, handBack_run h hfb' (hmap _) fb, sv, Grown.refl h, .inr ⟨_, rfl, hz, hmap _⟩⟩

lemma Loaded.growIndirect (hz : sv.indirect = 0) (ha : Allocated s t b) :
    Grown s (t.putVnode ino { sv with indirect := b, dirty := true }) ino sv
      { sv with indirect := b, dirty := true } := by
  have hmap : ∀ i, blockOf t.disk { sv with indirect := b, dirty := true } i =
      blockOf s.disk sv i := by
    intro i
    unfold blockOf
    by_cases hi : i < SFS_NDIRECT
    · rw [if_pos hi, if_pos hi]
    · rw [if_neg hi, if_neg hi, if_pos hz, ha.disk, update_self, wordAt_zeroBlock, ite_self]
  have hold : ∀ c, s.freemap c = true → t.freemap c = true ∧ c ≠ b := fun c hc =>
    ⟨by rwa [ha.freemap, update_of_ne (ha.ne_of_marked hc)], ha.ne_of_marked hc⟩
  have howns : ∀ c, Owns t.disk { sv with indirect := b, dirty := true } c →
      c = b ∨ Owns s.disk sv c := by
    rintro c ⟨hc, rfl | ⟨i, hi, rfl⟩⟩
    · exact .inl rfl
    · rw [hmap i] at hc ⊢
      exact .inr (owns_block hi hc)
  have hfile : File (t.putVnode ino { sv with indirect := b, dirty := true })
      { sv with indirect := b, dirty := true } := by
    refine ⟨fun c hc => ?_, fun i hi j hj hne heq => ?_, fun i hi hne heq => ?_⟩
    · rcases howns c hc with rfl | hc
      · exact ha.marked_of rfl rfl
      · obtain ⟨hm, hlt⟩ := h.file.marked c hc
        exact ⟨(hold c hm).1, lt_of_lt_of_eq hlt ha.nblocks.symm⟩
    · have hne : blockOf s.disk sv i ≠ 0 := hmap i ▸ hne
      have heq : blockOf s.disk sv i = blockOf s.disk sv j :=
        (hmap i).symm.trans (heq.trans (hmap j))
      exact h.file.inj i hi j hj hne heq
    have heq : blockOf s.disk sv i = b := (hmap i).symm.trans heq
    have hm := (h.file.marked _ (owns_block hi (heq ▸ ha.ne_zero h.vol))).1
    exact (hold _ hm).2 heq
  have hkeeps : ∀ c, Owns s.disk sv c →
      Owns t.disk { sv with indirect := b, dirty := true } c := by
    rintro c ⟨hc, rfl | ⟨i, hi, rfl⟩⟩
    · exact absurd hz hc
    · rw [← hmap i] at hc ⊢
      exact owns_block hi hc
  refine ⟨⟨ha.failures, ha.vol h.vol rfl rfl, update_self .., hfile⟩, rfl,
    fun i hi => ?_, ⟨ha.nblocks, fun i hi => ?_, fun c hc => (hold c hc).1, fun c hc _ => ?_,
    fun c hc => ?_⟩, hkeeps, fun c hc => ?_⟩
  · refine byteOf_congr (hmap _) fun hne => ?_
    have hlt : i / SFS_BLOCKSIZE < MAXBLOCKS := Nat.div_lt_of_lt_mul (by rwa [Nat.mul_comm])
    rw [Fs.putVnode, ha.disk, update_of_ne (hold _ (h.file.marked _ (owns_block hlt hne)).1).2]
  · exact (update_of_ne hi _ _).trans (congrFun ha.vnodes i)
  · rw [Fs.putVnode, ha.disk, update_of_ne (hold c hc).2]
  · rcases howns c hc with rfl | hc
    · exact .inr ha.free
    · exact .inl hc
  by_cases hcb : c = b
  · rw [hcb]
    exact .inr ⟨ha.ne_zero h.vol, .inl rfl⟩
  have hc : t.freemap c = true := hc
  rw [ha.freemap, update_of_ne hcb] at hc
  exact .inl hc

lemma bmapEntry_alloc (hi0 : sv.indirect ≠ 0) (hk : k < SFS_DBPERIDB)
    (hbuf : idbuf = wordAt (s.disk sv.indirect)) :
    ∃ r t, (bmapEntry ino sv.indirect idbuf k true).run s = .ok r t ∧
      Mapped s ino sv (SFS_NDIRECT + k) r t := by
  have hmap : blockOf s.disk sv (SFS_NDIRECT + k) = idbuf k := by
    rw [blockOf, if_neg (by omega), if_neg hi0, Nat.add_sub_cancel_left, hbuf]
  have hfb : SFS_NDIRECT + k < MAXBLOCKS := Nat.add_lt_add_left hk _
  unfold bmapEntry
  by_cases hz : idbuf k = 0
  · simp only [hz, true_and, if_true]
    rcases sfsBalloc_run h.quiet h.vol with ⟨hnone, hrun⟩ | ⟨b, t, hrun, ha⟩
    · rw [bind_run_ok hrun]
      exact ⟨_, _, rfl, sv, Grown.refl h, .inl ⟨rfl, hnone⟩⟩
    rw [bind_run_ok hrun]
    have hne : sv.indirect ≠ b := ha.ne_of_marked (h.file.marked _ (owns_indirect hi0 _)).1
    obtain ⟨tr, hwrite⟩ := sfsWriteblock_run ha.failures .indirect sv.indirect
      (ofWords (update idbuf k b))
    rw [bind_run_ok hwrite]
    have hword : ∀ j, wordAt (ofWords (update idbuf k b)) j =
        update idbuf k b j := by
      intro j
      refine wordAt_ofWords ?_
      by_cases hjk : j = k
      · rw [hjk, update_self]
        have := h.vol.small
        have := ha.lt
        omega
      · rw [update_of_ne hjk, hbuf]
        exact wordAt_lt _ _
    have hmap' : ∀ i, blockOf (update t.disk sv.indirect
        (ofWords (update idbuf k b))) sv i =
        if i = SFS_NDIRECT + k then b else blockOf s.disk sv i := by
      intro i
      unfold blockOf
      by_cases hi : i < SFS_NDIRECT
      · rw [if_pos hi, if_neg (by omega), if_pos hi]
      rw [if_neg hi, if_neg hi0, update_self, hword, if_neg hi, if_neg hi0]
      by_cases hik : i = SFS_NDIRECT + k
      · rw [if_pos hik, hik, Nat.add_sub_cancel_left, update_self]
      · rw [if_neg hik, update_of_ne (by omega), hbuf]
    have hg : Grown s ((t.putBlock sv.indirect (ofWords (update idbuf k b))).traced tr)
        ino sv sv := h.grow ha hfb
      (hmap.trans hz) rfl rfl rfl
      (by rw [← h.vnode, update_eq_self]; exact ha.vnodes) rfl rfl hmap'
      (by
        show update t.disk sv.indirect _ b = zeroBlock
        rw [update_of_ne hne.symm, ha.disk, update_self])
      (fun c hc hci => by
        show update t.disk sv.indirect _ c = s.disk c
        rw [update_of_ne (hci hi0), ha.disk, update_of_ne hc])
    refine ⟨.ok b, _, ?_, _, hg, .inr ⟨b, rfl, ha.ne_zero h.vol, ?_⟩⟩
    · exact handBack_run hg.loaded hfb ((hmap' _).trans (if_pos rfl)) k
    · exact (hmap' _).trans (if_pos rfl)
  · simp only [hz, false_and, if_false]
    exact ⟨_, _, handBack_run h hfb hmap k, sv, Grown.refl h, .inr ⟨_, rfl, hz, hmap⟩⟩

lemma sfsBmap_alloc (hfb : fb < MAXBLOCKS) :
    ∃ r t, (sfsBmap ino fb true).run s = .ok r t ∧ Mapped s ino sv fb r t := by
  unfold sfsBmap
  by_cases hd : fb < SFS_NDIRECT
  · rw [if_pos hd]
    exact bmapDirect_alloc h hd
  obtain ⟨k, rfl⟩ : ∃ k, fb = SFS_NDIRECT + k := ⟨fb - SFS_NDIRECT, by omega⟩
  have hk : k < SFS_DBPERIDB := by unfold MAXBLOCKS at hfb; omega
  have hidnum : ¬ SFS_NINDIRECT ≤ k / SFS_DBPERIDB := by
    rw [Nat.div_eq_of_lt hk]
    decide
  rw [if_neg hd]
  simp only [Nat.add_sub_cancel_left, hidnum, if_false, Nat.mod_eq_of_lt hk]
  rw [bind_run_ok (getSv_run h.vnode)]
  simp only [Bool.not_true, Bool.false_eq_true, and_false, if_false]
  by_cases hi0 : sv.indirect = 0
  · rcases sfsBalloc_run h.quiet h.vol with ⟨hnone, hrun⟩ | ⟨b, t, hrun, ha⟩
    · have hid : (bmapIndirect ino).run s = .ok (.error ENOSPC) s := by
        rw [bmapIndirect, bind_run_ok (getSv_run h.vnode), if_pos hi0, bind_run_ok hrun]
        rfl
      rw [bind_run_ok hid]
      exact ⟨_, _, rfl, sv, Grown.refl h, .inl ⟨rfl, hnone⟩⟩
    have hg := h.growIndirect hi0 ha
    have hid : (bmapIndirect ino).run s = .ok (.ok (b, fun _ => 0))
        (t.putVnode ino { sv with indirect := b, dirty := true }) := by
      rw [bmapIndirect, bind_run_ok (getSv_run h.vnode), if_pos hi0, bind_run_ok hrun]
      rfl
    rw [bind_run_ok hid]
    have hbuf : (fun _ => 0) = wordAt (t.disk b) := by
      funext j
      rw [ha.disk, update_self, wordAt_zeroBlock]
    obtain ⟨r, u, hentry, hend⟩ := bmapEntry_alloc hg.loaded (ha.ne_zero h.vol) hk hbuf
    exact ⟨r, u, hentry, Mapped.after hg hend⟩
  obtain ⟨tr, hread⟩ := sfsReadblock_run h.quiet .indirect sv.indirect
  have hid : (bmapIndirect ino).run s =
      .ok (.ok (sv.indirect, wordAt (s.disk sv.indirect))) (s.traced tr) := by
    rw [bmapIndirect, bind_run_ok (getSv_run h.vnode), if_neg hi0, bind_run_ok hread]
    rfl
  rw [bind_run_ok hid]
  obtain ⟨r, u, hentry, hend⟩ := bmapEntry_alloc (h.traced tr) hi0 hk rfl
  exact ⟨r, u, hentry, Mapped.after (Grown.traced h tr) hend⟩

lemma sfsBmap_lookup (hfb : fb < MAXBLOCKS) :
    ∃ tr, (sfsBmap ino fb false).run s = .ok (.ok (blockOf s.disk sv fb)) (s.traced tr) := by
  have hself : s.traced s.transfers = s := by rw [Fs.traced, ← h.quiet]
  unfold sfsBmap
  by_cases hd : fb < SFS_NDIRECT
  · have hmap : blockOf s.disk sv fb = sv.direct fb := if_pos hd
    refine ⟨s.transfers, ?_⟩
    rw [if_pos hd, bmapDirect, bind_run_ok (getSv_run h.vnode), hself, hmap]
    simp only [Bool.false_eq_true, and_false, if_false]
    exact handBack_run h hfb hmap fb
  obtain ⟨k, rfl⟩ : ∃ k, fb = SFS_NDIRECT + k := ⟨fb - SFS_NDIRECT, by omega⟩
  have hk : k < SFS_DBPERIDB := by unfold MAXBLOCKS at hfb; omega
  have hidnum : ¬ SFS_NINDIRECT ≤ k / SFS_DBPERIDB := by
    rw [Nat.div_eq_of_lt hk]
    decide
  rw [if_neg hd]
  simp only [Nat.add_sub_cancel_left, hidnum, if_false, Nat.mod_eq_of_lt hk]
  rw [bind_run_ok (getSv_run h.vnode)]
  by_cases hi0 : sv.indirect = 0
  · have hmap : blockOf s.disk sv (SFS_NDIRECT + k) = 0 := by rw [blockOf, if_neg hd, if_pos hi0]
    refine ⟨s.transfers, ?_⟩
    rw [hself, hmap]
    simp only [hi0, Bool.not_false, and_self, if_true]
    rfl
  have hmap : blockOf s.disk sv (SFS_NDIRECT + k) = wordAt (s.disk sv.indirect) k := by
    rw [blockOf, if_neg hd, if_neg hi0, Nat.add_sub_cancel_left]
  obtain ⟨tr, hread⟩ := sfsReadblock_run h.quiet .indirect sv.indirect
  have hid : (bmapIndirect ino).run s =
      .ok (.ok (sv.indirect, wordAt (s.disk sv.indirect))) (s.traced tr) := by
    rw [bmapIndirect, bind_run_ok (getSv_run h.vnode), if_neg hi0, bind_run_ok hread]
    rfl
  refine ⟨tr, ?_⟩
  simp only [hi0, false_and, if_false]
  rw [bind_run_ok hid, hmap]
  simp only [bmapEntry, Bool.false_eq_true, and_false, if_false]
  exact handBack_run (h.traced tr) hfb hmap k

end

end Bmap

end Os161.Sfs
