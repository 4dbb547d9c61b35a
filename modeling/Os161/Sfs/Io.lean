import Os161.Sfs.Lemmas

namespace Os161.Sfs

open Function Lib.Bytes List Nat
open Lib.Exec
open Vm (Word Stop kassert)

variable {s t : Fs} {ino : Nat} {sv sv' : Vnode} {uio : Uio}

section Write

def Uio.after (uio : Uio) (n : Nat) : Uio :=
  { uio with offset := uio.offset + n, resid := uio.resid - n, data := uio.data.drop n }

lemma Uio.after_after (uio : Uio) (n m : Nat) : (uio.after n).after m = uio.after (n + m) := by
  simp only [Uio.after, drop_drop, Nat.add_assoc, Nat.sub_sub]

structure Wrote (s t : Fs) (ino : Nat) (sv sv' : Vnode) (off n : Nat) (data : List UInt8) :
    Prop where
  loaded : Loaded t ino sv'
  size : sv'.size = sv.size
  bytes : ∀ i < MAXBLOCKS * SFS_BLOCKSIZE,
    byteOf t.disk sv' i = paste (byteOf s.disk sv) off n (fun k => data.getD k 0) i
  frame : Frame s t ino sv sv'

lemma Grown.wrote (h : Grown s t ino sv sv') (off : Nat) (data : List UInt8) :
    Wrote s t ino sv sv' off 0 data :=
  ⟨h.loaded, h.size, by rw [paste_zero]; exact h.bytes, h.frame⟩

variable {len : Nat}

lemma Wrote.trans (h : Wrote s t ino sv sv' off n data)
    (h' : Wrote t u ino sv' sv'' (off + n) m (data.drop n)) :
    Wrote s u ino sv sv'' off (n + m) data := by
  refine ⟨h'.loaded, h'.size.trans h.size, fun i hi => ?_, h.frame.trans h'.frame⟩
  have hdrop : (fun k => (data.drop n).getD k 0) = fun k => data.getD (n + k) 0 := by
    funext k
    simp [getD_eq_getElem?_getD, getElem?_drop]
  rw [h'.bytes i hi, hdrop, ← paste_append]
  exact paste_congr (h.bytes i hi)

lemma Loaded.store (h : Loaded s ino sv) (hfb : fb < MAXBLOCKS)
    (hne : blockOf s.disk sv fb ≠ 0) (buf : Block) (tr : List Transfer) :
    Loaded ((s.putBlock (blockOf s.disk sv fb) buf).traced tr) ino sv ∧
      Frame s ((s.putBlock (blockOf s.disk sv fb) buf).traced tr) ino sv sv ∧
      ∀ i < MAXBLOCKS * SFS_BLOCKSIZE, byteOf (s.putBlock (blockOf s.disk sv fb) buf).disk sv i =
          if i / SFS_BLOCKSIZE = fb then buf (i % SFS_BLOCKSIZE) else byteOf s.disk sv i := by
  have hmap : ∀ i, blockOf (s.putBlock (blockOf s.disk sv fb) buf).disk sv i =
      blockOf s.disk sv i := fun i => blockOf_congr (fun hi0 =>
        update_of_ne (Ne.symm (h.file.indirect fb hfb hi0)) _ _) i
  have howns : ∀ c, Owns (s.putBlock (blockOf s.disk sv fb) buf).disk sv c ↔ Owns s.disk sv c := by
    intro c
    simp only [Owns, hmap]
  refine ⟨⟨rfl, ⟨h.vol.super, h.vol.past, h.vol.small⟩, h.vnode, ?_⟩, ?_, fun i hi => ?_⟩
  · refine ⟨fun c hc => h.file.marked c ((howns c).mp hc), fun i hi j hj hni heq => ?_,
      fun i hi hi0 heq => ?_⟩
    · exact h.file.inj i hi j hj ((hmap i).symm.trans_ne hni)
        ((hmap i).symm.trans (heq.trans (hmap j)))
    · exact h.file.indirect i hi hi0 ((hmap i).symm.trans heq)
  · refine ⟨rfl, fun _ _ => rfl, fun _ hc => hc, fun c _ hno => ?_,
      fun c hc => .inl ((howns c).mp hc)⟩
    refine update_of_ne ?_ _ _
    rintro rfl
    exact hno (owns_block hfb hne)
  have hlt : i / SFS_BLOCKSIZE < MAXBLOCKS := Nat.div_lt_of_lt_mul (by rwa [Nat.mul_comm])
  by_cases hif : i / SFS_BLOCKSIZE = fb
  · rw [if_pos hif, byteOf, hmap, hif, if_neg hne]
    exact congrFun (update_self ..) _
  rw [if_neg hif]
  refine byteOf_congr (hmap _) fun hni => update_of_ne (fun heq => hif ?_) _ _
  exact h.file.inj _ hlt fb hfb hni heq

def WriteEnds (s : Fs) (ino : Nat) (sv : Vnode) (uio : Uio) (len : Nat)
    (r : Except Word Unit × Uio) (t : Fs) : Prop :=
  ∃ n sv', n ≤ len ∧ r.2 = uio.after n ∧ Wrote s t ino sv sv' uio.offset n uio.data ∧
    (r.1 = .ok () ∧ n = len ∨ r.1 = .error ENOSPC ∧ t.firstFree = none)

lemma WriteEnds.full (h : Grown s t ino sv sv') (hnone : t.firstFree = none) (len : Nat) :
    WriteEnds s ino sv uio len (.error ENOSPC, uio) t :=
  ⟨0, sv', Nat.zero_le _, rfl, h.wrote _ _, .inr ⟨rfl, hnone⟩⟩

lemma WriteEnds.trans (h : Wrote s t ino sv sv' uio.offset n uio.data)
    (h' : WriteEnds t ino sv' (uio.after n) m r u) : WriteEnds s ino sv uio (n + m) r u := by
  obtain ⟨k, sv'', hle, hr, hw, hend⟩ := h'
  refine ⟨n + k, sv'', by omega, hr.trans (uio.after_after n k), h.trans hw, ?_⟩
  rcases hend with ⟨hok, hk⟩ | hfull
  · exact .inl ⟨hok, by omega⟩
  · exact .inr hfull

lemma Grown.piece (h : Grown s t ino sv sv') (hfb : fb < MAXBLOCKS)
    (hne : blockOf t.disk sv' fb ≠ 0) (tr : List Transfer)
    (hbuf : ∀ i, (if i / SFS_BLOCKSIZE = fb then buf (i % SFS_BLOCKSIZE) else byteOf t.disk sv' i) =
      paste (byteOf t.disk sv') off len (fun k => data.getD k 0) i) :
    Wrote s ((t.putBlock (blockOf t.disk sv' fb) buf).traced tr) ino sv sv' off len data := by
  obtain ⟨hloaded, hframe, hbytes⟩ := h.loaded.store hfb hne buf tr
  refine ⟨hloaded, h.size, fun i hi => ?_, h.frame.trans hframe⟩
  refine ((hbytes i hi).trans (hbuf i)).trans ?_
  exact paste_congr (h.bytes i hi)

lemma paste_piece (hfb : off / SFS_BLOCKSIZE = fb)
    (hlen : off % SFS_BLOCKSIZE + len ≤ SFS_BLOCKSIZE)
    (hblock : ∀ i, i / SFS_BLOCKSIZE = fb → store i = block (i % SFS_BLOCKSIZE)) (i : Nat) :
    (if i / SFS_BLOCKSIZE = fb then paste block (off % SFS_BLOCKSIZE) len f (i % SFS_BLOCKSIZE)
      else store i) = paste store off len f i := by
  unfold SFS_BLOCKSIZE at *
  by_cases hif : i / 512 = fb
  · rw [if_pos hif]
    by_cases hin : off % 512 ≤ i % 512 ∧ i % 512 < off % 512 + len
    · rw [paste, if_pos hin, paste, if_pos (by omega)]
      exact congrArg f (by omega)
    · rw [paste, if_neg hin, paste, if_neg (by omega), hblock i hif]
  · rw [if_neg hif, paste_outside (by omega)]

lemma paste_whole
    (hfb : off / SFS_BLOCKSIZE = fb) (hoff : off % SFS_BLOCKSIZE = 0) (i : Nat) :
    (if i / SFS_BLOCKSIZE = fb then paste zeroBlock 0 SFS_BLOCKSIZE f (i % SFS_BLOCKSIZE)
      else store i) = paste store off SFS_BLOCKSIZE f i := by
  unfold SFS_BLOCKSIZE at *
  by_cases hif : i / 512 = fb
  · rw [if_pos hif, paste, if_pos (by omega), paste, if_pos (by omega)]
    exact congrArg f (by omega)
  · rw [if_neg hif, paste_outside (by omega)]

lemma byteOf_block (hi : i / SFS_BLOCKSIZE = fb)
    (hne : blockOf disk sv fb ≠ 0) :
    byteOf disk sv i = disk (blockOf disk sv fb) (i % SFS_BLOCKSIZE) := by
  rw [byteOf, hi, if_neg hne]

lemma byteOf_hole (hi : i / SFS_BLOCKSIZE = fb)
    (hz : blockOf disk sv fb = 0) : byteOf disk sv i = zeroBlock (i % SFS_BLOCKSIZE) := by
  rw [byteOf, hi, if_pos hz]
  rfl

lemma kassert_pass (hc : c = true) (e : String) (s : Fs) :
    (kassert c e).run s = .ok () s := by
  simp [hc]

lemma sfsPartialio_write (uio : Uio) (len : Nat) (h : Loaded s ino sv) (hw : uio.write = true)
    (hlen : uio.offset % SFS_BLOCKSIZE + len ≤ SFS_BLOCKSIZE)
    (hfb : uio.offset / SFS_BLOCKSIZE < MAXBLOCKS) :
    ∃ r t, (sfsPartialio ino uio (uio.offset % SFS_BLOCKSIZE) len).run s = .ok r t ∧
      WriteEnds s ino sv uio len r t := by
  obtain ⟨r, t, hmap, sv', hg, hend⟩ := sfsBmap_alloc h hfb
  rw [sfsPartialio, bind_run_ok (kassert_pass (decide_eq_true hlen) _ s), hw, bind_run_ok hmap]
  rcases hend with ⟨rfl, hnone⟩ | ⟨b, rfl, hne, hb⟩
  · exact ⟨_, _, rfl, WriteEnds.full hg hnone len⟩
  obtain ⟨tr, hread⟩ := sfsReadblock_run hg.loaded.quiet .data b
  obtain ⟨tr', hwrite⟩ := sfsWriteblock_run (hg.loaded.traced tr).quiet .data b
    (uiomove (t.disk b) (uio.offset % SFS_BLOCKSIZE) len uio).1
  simp only [hne, if_false]
  rw [bind_run_ok hread]
  simp only [uiomove, hw, if_true] at hwrite ⊢
  rw [bind_run_ok hwrite]
  subst hb
  exact ⟨_, _, rfl, len, sv', Nat.le_refl _, by rw [Uio.after, hw], hg.piece hfb hne tr'
    (paste_piece rfl hlen fun i hi => byteOf_block hi hne), .inl ⟨rfl, rfl⟩⟩

lemma sfsBlockio_write (uio : Uio) (h : Loaded s ino sv) (hw : uio.write = true)
    (hoff : uio.offset % SFS_BLOCKSIZE = 0) (hresid : SFS_BLOCKSIZE ≤ uio.resid)
    (hfb : uio.offset / SFS_BLOCKSIZE < MAXBLOCKS) :
    ∃ r t, (sfsBlockio ino uio).run s = .ok r t ∧ WriteEnds s ino sv uio SFS_BLOCKSIZE r t := by
  obtain ⟨r, t, hmap, sv', hg, hend⟩ := sfsBmap_alloc h hfb
  rw [sfsBlockio, hw, bind_run_ok hmap]
  rcases hend with ⟨rfl, hnone⟩ | ⟨b, rfl, hne, hb⟩
  · exact ⟨_, _, rfl, WriteEnds.full hg hnone _⟩
  obtain ⟨tr, hwrite⟩ := sfsWriteblock_run hg.loaded.quiet .data b
    (uiomove zeroBlock 0 SFS_BLOCKSIZE uio).1
  simp only [hne, if_false]
  rw [bind_run_ok (kassert_pass (decide_eq_true hresid) _ t)]
  simp only [uiomove, hw, if_true] at hwrite ⊢
  rw [bind_run_ok hwrite]
  subst hb
  exact ⟨_, _, rfl, SFS_BLOCKSIZE, sv', Nat.le_refl _, by rw [Uio.after, hw],
    hg.piece hfb hne tr (paste_whole rfl hoff), .inl ⟨rfl, rfl⟩⟩

lemma wholeBlocks_write (count : Nat) : ∀ {s : Fs} {sv : Vnode} (uio : Uio),
    Loaded s ino sv → uio.write = true → uio.offset % SFS_BLOCKSIZE = 0 →
    count * SFS_BLOCKSIZE ≤ uio.resid →
    uio.offset + count * SFS_BLOCKSIZE ≤ MAXBLOCKS * SFS_BLOCKSIZE →
    ∃ r t, (wholeBlocks ino count uio).run s = .ok r t ∧
      WriteEnds s ino sv uio (count * SFS_BLOCKSIZE) r t := by
  induction count with
  | zero =>
    intro s sv uio h _ _ _ _
    exact ⟨_, _, rfl, 0, sv, by omega, rfl, (Grown.refl h).wrote _ _, .inl ⟨rfl, by omega⟩⟩
  | succ count ih =>
    intro s sv uio h hw hoff hresid hmax
    have hfb : uio.offset / SFS_BLOCKSIZE < MAXBLOCKS := by unfold SFS_BLOCKSIZE at *; omega
    rw [succ_mul] at hresid hmax
    obtain ⟨⟨r, uio'⟩, t, hrun, n, sv', hn, hr, hwrote, hend⟩ :=
      sfsBlockio_write uio h hw hoff (by omega) hfb
    rw [wholeBlocks, bind_run_ok hrun]
    rcases hend with ⟨hok, rfl⟩ | ⟨hfull, hnone⟩
    · obtain rfl : r = .ok () := hok
      obtain rfl : uio' = uio.after SFS_BLOCKSIZE := hr
      obtain ⟨r, u, hrest, hends⟩ := ih (uio.after SFS_BLOCKSIZE) hwrote.loaded hw
        (by simpa only [Uio.after, add_mod_right] using hoff)
        (by simp only [Uio.after]; omega) (by simp only [Uio.after]; omega)
      refine ⟨r, u, hrest, ?_⟩
      rw [succ_mul, Nat.add_comm]
      exact WriteEnds.trans hwrote hends
    obtain rfl : r = .error ENOSPC := hfull
    refine ⟨_, _, rfl, n, sv', ?_, hr, hwrote, .inr ⟨rfl, hnone⟩⟩
    rw [succ_mul]
    omega

section

variable (uio : Uio) (h : Loaded s ino sv) (hw : uio.write = true)

include h hw

lemma alignedIo_write (hoff : uio.resid ≠ 0 → uio.offset % SFS_BLOCKSIZE = 0)
    (hmax : uio.offset + uio.resid ≤ MAXBLOCKS * SFS_BLOCKSIZE) :
    ∃ r t, (alignedIo ino uio).run s = .ok r t ∧ WriteEnds s ino sv uio uio.resid r t := by
  unfold alignedIo
  by_cases hz : uio.resid = 0
  · rw [if_pos hz]
    exact ⟨_, _, rfl, 0, sv, by omega, rfl, (Grown.refl h).wrote _ _, .inl ⟨rfl, hz.symm⟩⟩
  have hoff := hoff hz
  have hwhole : uio.resid / SFS_BLOCKSIZE * SFS_BLOCKSIZE ≤ uio.resid := div_mul_le_self ..
  have hsplit := div_add_mod' uio.resid SFS_BLOCKSIZE
  have hmod : uio.resid % SFS_BLOCKSIZE < SFS_BLOCKSIZE := mod_lt _ (by decide)
  rw [if_neg hz, bind_run_ok (kassert_pass (decide_eq_true hoff) _ s)]
  obtain ⟨⟨r, uio'⟩, t, hrun, n, sv', hn, hr, hwrote, hend⟩ :=
    wholeBlocks_write (uio.resid / SFS_BLOCKSIZE) uio h hw hoff hwhole (by omega)
  rw [bind_run_ok hrun]
  rcases hend with ⟨hok, rfl⟩ | ⟨hfull, hnone⟩
  · obtain rfl : r = .ok () := hok
    obtain rfl : uio' = uio.after (uio.resid / SFS_BLOCKSIZE * SFS_BLOCKSIZE) := hr
    have hleft : (uio.after (uio.resid / SFS_BLOCKSIZE * SFS_BLOCKSIZE)).resid =
        uio.resid % SFS_BLOCKSIZE := by
      simp only [Uio.after]
      omega
    have hoff' : (uio.after (uio.resid / SFS_BLOCKSIZE * SFS_BLOCKSIZE)).offset %
        SFS_BLOCKSIZE = 0 := by
      simp only [Uio.after, add_mul_mod_self_right]
      exact hoff
    simp only
    rw [bind_run_ok (kassert_pass (decide_eq_true (by omega)) _ t), hleft]
    by_cases hlast : 0 < uio.resid % SFS_BLOCKSIZE
    · rw [if_pos hlast]
      obtain ⟨r, u, hrest, hends⟩ := sfsPartialio_write
        (uio.after (uio.resid / SFS_BLOCKSIZE * SFS_BLOCKSIZE)) (uio.resid % SFS_BLOCKSIZE)
        hwrote.loaded hw (by omega)
        ((Nat.div_lt_iff_lt_mul (by decide)).mpr (by simp only [Uio.after]; omega))
      rw [hoff'] at hrest
      refine ⟨r, u, hrest, ?_⟩
      have := WriteEnds.trans hwrote hends
      rwa [hsplit] at this
    · rw [if_neg hlast]
      refine ⟨_, _, rfl, _, sv', hwhole, rfl, hwrote, .inl ⟨rfl, by omega⟩⟩
  · obtain rfl : r = .error ENOSPC := hfull
    exact ⟨_, _, rfl, n, sv', by omega, hr, hwrote, .inr ⟨rfl, hnone⟩⟩

lemma pieces_write (hmax : uio.offset + uio.resid ≤ MAXBLOCKS * SFS_BLOCKSIZE) :
    ∃ r t, (pieces ino uio).run s = .ok r t ∧ WriteEnds s ino sv uio uio.resid r t := by
  unfold pieces
  by_cases hblk : uio.offset % SFS_BLOCKSIZE = 0
  · simp only [hblk, ne_eq, not_true_eq_false, if_false]
    exact alignedIo_write uio h hw (fun _ => hblk) hmax
  have hmod : uio.offset % SFS_BLOCKSIZE < SFS_BLOCKSIZE := mod_lt _ (by decide)
  have hfb : uio.offset / SFS_BLOCKSIZE < MAXBLOCKS := by unfold SFS_BLOCKSIZE at *; omega
  simp only [hblk, ne_eq, not_false_eq_true, if_true]
  obtain ⟨len, hlen⟩ : ∃ len, len = min (SFS_BLOCKSIZE - uio.offset % SFS_BLOCKSIZE) uio.resid :=
    ⟨_, rfl⟩
  rw [← hlen]
  obtain ⟨⟨r, uio'⟩, t, hrun, n, sv', hn, hr, hwrote, hend⟩ :=
    sfsPartialio_write uio len h hw (by omega) hfb
  rw [bind_run_ok hrun]
  rcases hend with ⟨hok, rfl⟩ | ⟨hfull, hnone⟩
  · obtain rfl : r = .ok () := hok
    obtain rfl : uio' = uio.after n := hr
    obtain ⟨r, u, hrest, hends⟩ := alignedIo_write (uio.after n) hwrote.loaded hw
      (by simp only [Uio.after]; unfold SFS_BLOCKSIZE at *; omega)
      (by simp only [Uio.after]; omega)
    refine ⟨r, u, hrest, ?_⟩
    have := WriteEnds.trans hwrote hends
    rwa [show n + (uio.after n).resid = uio.resid by simp only [Uio.after]; omega] at this
  · obtain rfl : r = .error ENOSPC := hfull
    exact ⟨_, _, rfl, n, sv', by omega, hr, hwrote, .inr ⟨rfl, hnone⟩⟩

end

end Write

section Read

def Uio.got (uio : Uio) (f : Nat → UInt8) (n : Nat) : Uio :=
  { uio with
    offset := uio.offset + n
    resid := uio.resid - n
    data := uio.data ++ (List.range n).map fun k => f (uio.offset + k) }

lemma Uio.got_zero (uio : Uio) (f : Nat → UInt8) : uio.got f 0 = uio := by
  simp [Uio.got]

lemma Uio.got_got (uio : Uio) (f : Nat → UInt8) (n m : Nat) :
    (uio.got f n).got f m = uio.got f (n + m) := by
  simp only [Uio.got, range_add, map_append, map_map, append_assoc,
    Nat.add_assoc, Nat.sub_sub, Function.comp_def]

lemma Uio.got_piece (hr : uio.write = false)
    (hlen : uio.offset % SFS_BLOCKSIZE + len ≤ SFS_BLOCKSIZE)
    (hbuf : ∀ i, i / SFS_BLOCKSIZE = uio.offset / SFS_BLOCKSIZE →
      byteOf disk sv i = buf (i % SFS_BLOCKSIZE)) :
    (uiomove buf (uio.offset % SFS_BLOCKSIZE) len uio).2 = uio.got (byteOf disk sv) len := by
  have hdata : (List.range len).map (fun k => buf (uio.offset % SFS_BLOCKSIZE + k)) =
      (List.range len).map fun k => byteOf disk sv (uio.offset + k) := by
    refine map_congr_left fun k hk => ?_
    have hk := mem_range.mp hk
    unfold SFS_BLOCKSIZE at *
    rw [hbuf _ (by omega)]
    exact congrArg buf (by omega)
  simp only [uiomove, hr, Bool.false_eq_true, if_false, Uio.got, hdata]

lemma sfsPartialio_read (uio : Uio) (len : Nat) (h : Loaded s ino sv) (hr : uio.write = false)
    (hlen : uio.offset % SFS_BLOCKSIZE + len ≤ SFS_BLOCKSIZE)
    (hfb : uio.offset / SFS_BLOCKSIZE < MAXBLOCKS) :
    ∃ tr, (sfsPartialio ino uio (uio.offset % SFS_BLOCKSIZE) len).run s =
      .ok (.ok (), uio.got (byteOf s.disk sv) len) (s.traced tr) := by
  obtain ⟨tr, hmap⟩ := sfsBmap_lookup h hfb
  rw [sfsPartialio, bind_run_ok (kassert_pass (decide_eq_true hlen) _ s), hr, bind_run_ok hmap]
  by_cases hz : blockOf s.disk sv (uio.offset / SFS_BLOCKSIZE) = 0
  · refine ⟨tr, ?_⟩
    have hgot := Uio.got_piece hr hlen (fun i hi => byteOf_hole hi hz)
    simp only [hz, if_true, uiomove, hr, Bool.not_false, Bool.false_eq_true, if_false] at hgot ⊢
    rw [← hgot]
    rfl
  obtain ⟨tr', hread⟩ := sfsReadblock_run (h.traced tr).quiet .data
    (blockOf s.disk sv (uio.offset / SFS_BLOCKSIZE))
  refine ⟨tr', ?_⟩
  have hgot := Uio.got_piece hr hlen (fun i hi => byteOf_block hi hz)
  simp only [hz, if_false]
  rw [bind_run_ok hread]
  simp only [uiomove, hr, Bool.false_eq_true, if_false] at hgot ⊢
  rw [← hgot]
  rfl

lemma sfsBlockio_read (uio : Uio) (h : Loaded s ino sv) (hr : uio.write = false)
    (hoff : uio.offset % SFS_BLOCKSIZE = 0) (hresid : SFS_BLOCKSIZE ≤ uio.resid)
    (hfb : uio.offset / SFS_BLOCKSIZE < MAXBLOCKS) :
    ∃ tr, (sfsBlockio ino uio).run s =
      .ok (.ok (), uio.got (byteOf s.disk sv) SFS_BLOCKSIZE) (s.traced tr) := by
  obtain ⟨tr, hmap⟩ := sfsBmap_lookup h hfb
  have hlen : uio.offset % SFS_BLOCKSIZE + SFS_BLOCKSIZE ≤ SFS_BLOCKSIZE := by omega
  rw [sfsBlockio, hr, bind_run_ok hmap]
  by_cases hz : blockOf s.disk sv (uio.offset / SFS_BLOCKSIZE) = 0
  · refine ⟨tr, ?_⟩
    have hgot := Uio.got_piece hr hlen (fun i hi => byteOf_hole hi hz)
    rw [hoff] at hgot
    simp only [hz, if_true, uiomove, hr, Bool.not_false, Bool.false_eq_true, if_false] at hgot ⊢
    rw [← hgot]
    rfl
  obtain ⟨tr', hread⟩ := sfsReadblock_run (h.traced tr).quiet .data
    (blockOf s.disk sv (uio.offset / SFS_BLOCKSIZE))
  refine ⟨tr', ?_⟩
  have hgot := Uio.got_piece hr hlen (fun i hi => byteOf_block hi hz)
  rw [hoff] at hgot
  simp only [hz, if_false]
  rw [bind_run_ok (kassert_pass (decide_eq_true hresid) _ _)]
  simp only [Bool.false_eq_true, if_false]
  rw [bind_run_ok hread]
  simp only [uiomove, hr, Bool.false_eq_true, if_false] at hgot ⊢
  rw [← hgot]
  rfl

lemma wholeBlocks_read (count : Nat) : ∀ {s : Fs} (uio : Uio),
    Loaded s ino sv → uio.write = false → uio.offset % SFS_BLOCKSIZE = 0 →
    count * SFS_BLOCKSIZE ≤ uio.resid →
    uio.offset + count * SFS_BLOCKSIZE ≤ MAXBLOCKS * SFS_BLOCKSIZE →
    ∃ tr, (wholeBlocks ino count uio).run s =
      .ok (.ok (), uio.got (byteOf s.disk sv) (count * SFS_BLOCKSIZE)) (s.traced tr) := by
  induction count with
  | zero =>
    intro s uio h _ _ _ _
    refine ⟨s.transfers, ?_⟩
    rw [show s.traced s.transfers = s by rw [Fs.traced, ← h.quiet], Nat.zero_mul, Uio.got_zero]
    rfl
  | succ count ih =>
    intro s uio h hr hoff hresid hmax
    have hfb : uio.offset / SFS_BLOCKSIZE < MAXBLOCKS := by unfold SFS_BLOCKSIZE at *; omega
    rw [succ_mul] at hresid hmax
    obtain ⟨tr, hrun⟩ := sfsBlockio_read uio h hr hoff (by omega) hfb
    obtain ⟨tr', hrest⟩ := ih (uio.got (byteOf s.disk sv) SFS_BLOCKSIZE) (h.traced tr) hr
      (by simpa only [Uio.got, add_mod_right] using hoff)
      (by simp only [Uio.got]; omega) (by simp only [Uio.got]; omega)
    refine ⟨tr', ?_⟩
    rw [wholeBlocks, bind_run_ok hrun]
    refine hrest.trans ?_
    rw [show (s.traced tr).disk = s.disk from rfl, Uio.got_got, succ_mul, Nat.add_comm]
    rfl

section

variable (uio : Uio) (h : Loaded s ino sv) (hr : uio.write = false)

include h hr

lemma alignedIo_read (hoff : uio.resid ≠ 0 → uio.offset % SFS_BLOCKSIZE = 0)
    (hmax : uio.offset + uio.resid ≤ MAXBLOCKS * SFS_BLOCKSIZE) :
    ∃ tr, (alignedIo ino uio).run s =
      .ok (.ok (), uio.got (byteOf s.disk sv) uio.resid) (s.traced tr) := by
  unfold alignedIo
  by_cases hz : uio.resid = 0
  · refine ⟨s.transfers, ?_⟩
    rw [show s.traced s.transfers = s by rw [Fs.traced, ← h.quiet], if_pos hz, hz, Uio.got_zero]
    rfl
  have hoff := hoff hz
  have hwhole : uio.resid / SFS_BLOCKSIZE * SFS_BLOCKSIZE ≤ uio.resid := div_mul_le_self ..
  have hsplit := div_add_mod' uio.resid SFS_BLOCKSIZE
  have hmod : uio.resid % SFS_BLOCKSIZE < SFS_BLOCKSIZE := mod_lt _ (by decide)
  rw [if_neg hz, bind_run_ok (kassert_pass (decide_eq_true hoff) _ s)]
  obtain ⟨tr, hrun⟩ :=
    wholeBlocks_read (uio.resid / SFS_BLOCKSIZE) uio h hr hoff hwhole (by omega)
  obtain ⟨uio', huio⟩ : ∃ u, u =
    uio.got (byteOf s.disk sv) (uio.resid / SFS_BLOCKSIZE * SFS_BLOCKSIZE) := ⟨_, rfl⟩
  rw [bind_run_ok hrun, ← huio]
  have hleft : uio'.resid = uio.resid % SFS_BLOCKSIZE := by
    simp only [huio, Uio.got]
    omega
  have hoff' : uio'.offset % SFS_BLOCKSIZE = 0 := by
    simp only [huio, Uio.got, add_mul_mod_self_right]
    exact hoff
  have hend : uio'.offset + uio'.resid ≤ MAXBLOCKS * SFS_BLOCKSIZE := by
    rw [hleft]
    simp only [huio, Uio.got]
    omega
  simp only
  rw [bind_run_ok (kassert_pass (decide_eq_true (by omega)) _ _)]
  by_cases hlast : 0 < uio'.resid
  · rw [if_pos hlast]
    obtain ⟨tr', hrest⟩ := sfsPartialio_read uio' uio'.resid (h.traced tr) (by rw [huio]; exact hr)
      (by omega) ((Nat.div_lt_iff_lt_mul (by decide)).mpr (by omega))
    rw [hoff'] at hrest
    refine ⟨tr', hrest.trans ?_⟩
    rw [hleft, huio, show (s.traced tr).disk = s.disk from rfl, Uio.got_got, hsplit]
    rfl
  rw [if_neg hlast]
  refine ⟨tr, ?_⟩
  rw [huio, show uio.resid / SFS_BLOCKSIZE * SFS_BLOCKSIZE = uio.resid by omega]
  rfl

lemma pieces_read (hmax : uio.offset + uio.resid ≤ MAXBLOCKS * SFS_BLOCKSIZE) :
    ∃ tr, (pieces ino uio).run s =
      .ok (.ok (), uio.got (byteOf s.disk sv) uio.resid) (s.traced tr) := by
  unfold pieces
  by_cases hblk : uio.offset % SFS_BLOCKSIZE = 0
  · simp only [hblk, ne_eq, not_true_eq_false, if_false]
    exact alignedIo_read uio h hr (fun _ => hblk) hmax
  have hmod : uio.offset % SFS_BLOCKSIZE < SFS_BLOCKSIZE := mod_lt _ (by decide)
  have hfb : uio.offset / SFS_BLOCKSIZE < MAXBLOCKS := by unfold SFS_BLOCKSIZE at *; omega
  simp only [hblk, ne_eq, not_false_eq_true, if_true]
  obtain ⟨len, hlen⟩ : ∃ len, len = min (SFS_BLOCKSIZE - uio.offset % SFS_BLOCKSIZE) uio.resid :=
    ⟨_, rfl⟩
  rw [← hlen]
  obtain ⟨tr, hrun⟩ := sfsPartialio_read uio len h hr (by omega) hfb
  rw [bind_run_ok hrun]
  obtain ⟨tr', hrest⟩ := alignedIo_read (uio.got (byteOf s.disk sv) len) (h.traced tr) hr
    (by simp only [Uio.got]; unfold SFS_BLOCKSIZE at *; omega)
    (by simp only [Uio.got]; omega)
  refine ⟨tr', hrest.trans ?_⟩
  rw [show (s.traced tr).disk = s.disk from rfl, Uio.got_got,
    show len + (uio.got (byteOf s.disk sv) len).resid = uio.resid by simp only [Uio.got]; omega]
  rfl

end

end Read

section Request

lemma sfsIo_read (h : Loaded s ino sv) (off len : Nat)
    (hmax : off + len ≤ MAXBLOCKS * SFS_BLOCKSIZE) :
    ∃ r t, (sfsIo ino ⟨false, off, len, []⟩).run s = .ok (.ok (), r) (s.traced t) ∧
      r.data = (List.range (min len (sv.size - off))).map fun k => byteOf s.disk sv (off + k) := by
  have hself : s.traced s.transfers = s := by rw [Fs.traced, ← h.quiet]
  rw [sfsIo, bind_run_ok (getSv_run h.vnode)]
  by_cases hend : sv.size ≤ off
  · simp only [hend, Bool.not_false, and_self, if_true]
    refine ⟨_, s.transfers, by rw [hself]; rfl, ?_⟩
    rw [Nat.sub_eq_zero_of_le hend, Nat.min_zero]
    rfl
  simp only [hend, and_false, if_false, Bool.false_eq_true]
  obtain ⟨tr, hrun⟩ := pieces_read ⟨false, off, len - (off + len - sv.size), []⟩ h rfl
    (by show off + (len - (off + len - sv.size)) ≤ _; omega)
  rw [bind_run_ok hrun]
  simp only
  rw [bind_run_ok (getSv_run (h.traced tr).vnode), if_neg (fun hw => Bool.noConfusion hw.2.1)]
  refine ⟨_, tr, rfl, ?_⟩
  show [] ++ (List.range (len - (off + len - sv.size))).map _ = _
  rw [nil_append, show len - (off + len - sv.size) = min len (sv.size - off) by omega]

def Vnode.resize (sv : Vnode) (size : Nat) : Vnode := { sv with size, dirty := true }

lemma Loaded.resize (h : Loaded s ino sv) (n : Nat) :
    Loaded (s.putVnode ino (sv.resize n)) ino (sv.resize n) :=
  ⟨h.quiet, ⟨h.vol.super, h.vol.past, h.vol.small⟩, update_self ..,
    ⟨h.file.marked, h.file.inj, h.file.indirect⟩⟩

lemma sfsIo_write (h : Loaded s ino sv) (off : Nat) (data : List UInt8)
    (hmax : off + data.length ≤ MAXBLOCKS * SFS_BLOCKSIZE) :
    ∃ r t n sv', (sfsIo ino ⟨true, off, data.length, data⟩).run s = .ok r t ∧
      n ≤ data.length ∧ Loaded t ino sv' ∧
      sv'.size = (if n = 0 then sv.size else max sv.size (off + n)) ∧
      (∀ i < MAXBLOCKS * SFS_BLOCKSIZE,
        byteOf t.disk sv' i = paste (byteOf s.disk sv) off n (fun k => data.getD k 0) i) ∧
      Frame s t ino sv sv' ∧
      (r.1 = .ok () ∧ n = data.length ∨ r.1 = .error ENOSPC ∧ t.firstFree = none) := by
  obtain ⟨⟨r, uio'⟩, t, hrun, n, sv', hn, hr, hwrote, hend⟩ :=
    pieces_write ⟨true, off, data.length, data⟩ h rfl hmax
  obtain rfl : uio' = Uio.after ⟨true, off, data.length, data⟩ n := hr
  rw [sfsIo, bind_run_ok (getSv_run h.vnode)]
  simp only [Bool.not_true, Bool.false_eq_true, false_and, if_false, if_true, Nat.sub_zero]
  rw [bind_run_ok hrun]
  simp only
  rw [bind_run_ok (getSv_run hwrote.loaded.vnode)]
  have hsize := hwrote.size
  have hn : n ≤ data.length := hn
  by_cases hext : n ≠ 0 ∧ sv'.size < off + n
  · have hcond : (Uio.after ⟨true, off, data.length, data⟩ n).resid ≠ data.length ∧
        (Uio.after ⟨true, off, data.length, data⟩ n).write = true ∧
        sv'.size < (Uio.after ⟨true, off, data.length, data⟩ n).offset := by
      refine ⟨?_, rfl, hext.2⟩
      show data.length - n ≠ data.length
      omega
    rw [if_pos hcond]
    refine ⟨_, t.putVnode ino (sv'.resize (off + n)), n, sv'.resize (off + n), rfl, hn,
      hwrote.loaded.resize _, ?_, hwrote.bytes, ?_, hend⟩
    · rw [if_neg hext.1, ← hsize, Nat.max_eq_right (Nat.le_of_lt hext.2)]
      rfl
    exact ⟨hwrote.frame.nblocks, fun i hi =>
      (update_of_ne hi _ _).trans (hwrote.frame.vnodes i hi), hwrote.frame.marks,
      hwrote.frame.disk, hwrote.frame.owns⟩
  have hcond : ¬ ((Uio.after ⟨true, off, data.length, data⟩ n).resid ≠ data.length ∧
      (Uio.after ⟨true, off, data.length, data⟩ n).write = true ∧
      sv'.size < (Uio.after ⟨true, off, data.length, data⟩ n).offset) := by
    rintro ⟨hne, -, hlt⟩
    refine hext ⟨?_, hlt⟩
    rintro rfl
    exact hne rfl
  rw [if_neg hcond]
  refine ⟨_, t, n, sv', rfl, hn, hwrote.loaded, ?_, hwrote.bytes, hwrote.frame, hend⟩
  by_cases hn0 : n = 0
  · rw [if_pos hn0, hsize]
  · rw [if_neg hn0, ← hsize, Nat.max_eq_left (by omega)]

end Request

end Os161.Sfs
