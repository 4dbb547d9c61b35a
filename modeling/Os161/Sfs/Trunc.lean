import Os161.Sfs.Io

namespace Os161.Sfs

open Function Lib.Bytes List
open Lib.Exec
open Vm (Word Stop kassert)

variable {s t : Fs} {ino : Nat} {sv : Vnode}

section Sound

structure Sound (s : Fs) (map : Nat → Nat) (ind : Nat) : Prop where
  marked : ∀ i < MAXBLOCKS, map i ≠ 0 → s.freemap (map i) = true ∧ map i < s.nblocks
  indMarked : ind ≠ 0 → s.freemap ind = true ∧ ind < s.nblocks
  inj : ∀ i < MAXBLOCKS, ∀ j < MAXBLOCKS, map i ≠ 0 → map i = map j → i = j
  indirect : ∀ i < MAXBLOCKS, ind ≠ 0 → map i ≠ ind

lemma File.sound (h : File s sv) : Sound s (blockOf s.disk sv) sv.indirect :=
  ⟨fun _ hi hne => h.marked _ (owns_block hi hne), fun hne => h.marked _ (owns_indirect hne _),
    h.inj, h.indirect⟩

variable {map : Nat → Nat} {ind b : Nat}

lemma Sound.congr (h : Sound s map ind)
    (hmap : ∀ i < MAXBLOCKS, map' i = map i) : Sound s map' ind := by
  refine ⟨fun i hi hne => ?_, h.indMarked, fun i hi j hj hne heq => ?_, fun i hi hne => ?_⟩
  · rw [hmap i hi] at hne ⊢
    exact h.marked i hi hne
  · rw [hmap i hi] at hne heq
    rw [hmap j hj] at heq
    exact h.inj i hi j hj hne heq
  · rw [hmap i hi]
    exact h.indirect i hi hne

lemma Sound.of_eq (h : Sound s map ind)
    (hmap : t.freemap = s.freemap) (hnb : t.nblocks = s.nblocks) : Sound t map ind :=
  ⟨by rw [hmap, hnb]; exact h.marked, by rw [hmap, hnb]; exact h.indMarked, h.inj, h.indirect⟩

lemma Vol.of_eq (h : Vol s) (hmap : t.freemap = s.freemap) (hnb : t.nblocks = s.nblocks) :
    Vol t := by
  refine ⟨hmap ▸ h.super, fun b hb hlt => ?_, hnb ▸ h.small⟩
  rw [hmap]
  refine h.past b (hnb ▸ hb) ?_
  unfold Fs.freemapbits at *
  rwa [← hnb]

lemma Sound.file (h : Sound s (blockOf s.disk sv) sv.indirect) : File s sv := by
  refine ⟨?_, h.inj, h.indirect⟩
  rintro b ⟨hne, rfl | ⟨i, hi, rfl⟩⟩
  · exact h.indMarked hne
  · exact h.marked i hi hne

def Fs.clearMark (s : Fs) (b : Nat) : Fs :=
  { s with freemap := update s.freemap b false }

lemma sfsBfree_run (h : s.freemap b = true ∧ b < s.nblocks) :
    (sfsBfree b).run s = .ok () (s.clearMark b) := by
  have hbits : b < s.freemapbits := by
    unfold Fs.freemapbits SFS_BITSPERBLOCK
    omega
  simp [sfsBfree, bitmapUnmark, hbits, h.1, setMark, Fs.clearMark]

lemma Vol.clearMark (h : Vol s) (hne : b ≠ 0) (hlt : b < s.nblocks) : Vol (s.clearMark b) := by
  refine ⟨(update_of_ne hne.symm _ _).trans h.super, fun c hc hbits => ?_, h.small⟩
  have hcb : c ≠ b := by
    rintro rfl
    exact Nat.not_lt.mpr hc hlt
  exact (update_of_ne hcb _ _).trans (h.past c hc hbits)

lemma Sound.drop (h : Sound s map ind) (hk : k < MAXBLOCKS)
    (hne : map k ≠ 0) : Sound (s.clearMark (map k)) (update map k 0) ind := by
  refine ⟨fun i hi hi0 => ?_, fun hi0 => ?_, fun i hi j hj hi0 heq => ?_, fun i hi hi0 => ?_⟩
  · have hik : i ≠ k := by
      rintro rfl
      rw [update_self] at hi0
      exact hi0 rfl
    rw [update_of_ne hik] at hi0 ⊢
    obtain ⟨hmark, hlt⟩ := h.marked i hi hi0
    refine ⟨(update_of_ne (fun heq => hik ?_) _ _).trans hmark, hlt⟩
    exact h.inj i hi k hk hi0 heq
  · obtain ⟨hmark, hlt⟩ := h.indMarked hi0
    exact ⟨(update_of_ne (Ne.symm (h.indirect k hk hi0)) _ _).trans hmark, hlt⟩
  · have hik : i ≠ k := by
      rintro rfl
      rw [update_self] at hi0
      exact hi0 rfl
    rw [update_of_ne hik] at hi0 heq
    by_cases hjk : j = k
    · rw [hjk, update_self] at heq
      exact absurd heq hi0
    · rw [update_of_ne hjk] at heq
      exact h.inj i hi j hj hi0 heq
  by_cases hik : i = k
  · rw [hik, update_self]
    exact hi0.symm
  · rw [update_of_ne hik]
    exact h.indirect i hi hi0

lemma Sound.dropIndirect (h : Sound s map ind) (hne : ind ≠ 0) :
    Sound (s.clearMark ind) map 0 := by
  refine ⟨fun i hi hi0 => ?_, fun h0 => absurd rfl h0, h.inj, fun _ _ h0 => absurd rfl h0⟩
  obtain ⟨hmark, hlt⟩ := h.marked i hi hi0
  exact ⟨(update_of_ne (h.indirect i hi hne) _ _).trans hmark, hlt⟩

end Sound

section Shrinks

structure Shrinks (s t : Fs) (ino : Nat) (sv sv' : Vnode) : Prop where
  held : Held t ino sv'
  nblocks : t.nblocks = s.nblocks
  vnodes : ∀ i ≠ ino, t.vnodes i = s.vnodes i
  marks : ∀ b, t.freemap b = true → s.freemap b = true
  kept : ∀ b, s.freemap b = true → ¬ Owns s.disk sv b → t.freemap b = true
  disk : ∀ b, ¬ Owns s.disk sv b → t.disk b = s.disk b
  owns : ∀ b, Owns t.disk sv' b → Owns s.disk sv b

lemma Shrinks.refl (h : Held s ino sv) : Shrinks s s ino sv sv :=
  ⟨h, rfl, fun _ _ => rfl, fun _ hb => hb, fun _ hb _ => hb, fun _ _ => rfl, fun _ hb => hb⟩

variable {sv' : Vnode}

lemma Shrinks.trans (h : Shrinks s t ino sv sv')
    (h' : Shrinks t u ino sv' sv'') : Shrinks s u ino sv sv'' :=
  ⟨h'.held, h'.nblocks.trans h.nblocks, fun i hi => (h'.vnodes i hi).trans (h.vnodes i hi),
    fun b hb => h.marks b (h'.marks b hb),
    fun b hb hno => h'.kept b (h.kept b hb hno) fun howns => hno (h.owns b howns),
    fun b hno => (h'.disk b fun howns => hno (h.owns b howns)).trans (h.disk b hno),
    fun b hb => h.owns b (h'.owns b hb)⟩

def Freed (s t : Fs) (sv sv' : Vnode) : Prop :=
  ∀ b, Owns s.disk sv b → ¬ Owns t.disk sv' b → t.freemap b = false

lemma Freed.refl (s : Fs) (sv : Vnode) : Freed s s sv sv := fun _ howns hno => absurd howns hno

lemma Freed.trans (h : Freed s t sv sv')
    (h' : Freed t u sv' sv'') (hshrinks : Shrinks t u ino sv' sv'') : Freed s u sv sv'' := by
  intro b howns hno
  by_cases howns' : Owns t.disk sv' b
  · exact h' b howns' hno
  have hfree := h b howns howns'
  cases hmark : u.freemap b with
  | false => rfl
  | true =>
    rw [hshrinks.marks b hmark] at hfree
    cases hfree

def Tight (disk : Nat → Block) (sv : Vnode) : Prop :=
  sv.indirect ≠ 0 → ∃ fb < MAXBLOCKS, SFS_NDIRECT ≤ fb ∧ blockOf disk sv fb ≠ 0

end Shrinks

section Direct

lemma freeDirect_run (blocklen : Nat) (h : Held s ino sv) (hi : i < SFS_NDIRECT) :
    ∃ t sv', (freeDirect ino blocklen i).run s = .ok () t ∧ Shrinks s t ino sv sv' ∧
      Freed s t sv sv' ∧ t.failures = s.failures ∧ t.disk = s.disk ∧ sv'.indirect = sv.indirect ∧
      ∀ j, sv'.direct j = if j = i ∧ blocklen ≤ j then 0 else sv.direct j := by
  rw [freeDirect, bind_run_ok (getSv_run (s := s) h.vnode)]
  by_cases hdrop : blocklen ≤ i ∧ sv.direct i ≠ 0
  · have hmax : i < MAXBLOCKS := Nat.lt_of_lt_of_le hi (by decide)
    have hmap : blockOf s.disk sv i = sv.direct i := if_pos hi
    have howns : Owns s.disk sv (sv.direct i) := hmap ▸ owns_block hmax (hmap ▸ hdrop.2)
    have hsound : Sound (s.clearMark (sv.direct i)) (update (blockOf s.disk sv) i 0)
        sv.indirect := by
      rw [← hmap]
      have hne : blockOf s.disk sv i ≠ 0 := hmap ▸ hdrop.2
      exact (h.file.sound.drop hmax hne).of_eq rfl rfl
    have hmark : s.freemap (sv.direct i) = true ∧ sv.direct i < s.nblocks := h.file.marked _ howns
    have hmap' : ∀ j, blockOf s.disk (sv.setDirect i 0) j =
        if j = i then 0 else blockOf s.disk sv j := fun j => blockOf_setDirect (fun _ => rfl) hi 0 j
    rw [if_pos hdrop, bind_run_ok (sfsBfree_run hmark)]
    refine ⟨_, sv.setDirect i 0, setSv_run .., ⟨⟨rfl, ?_, update_self .., Sound.file ?_⟩,
      rfl, fun j hj => update_of_ne hj _ _, fun b hb => ?_, fun b hb hno => ?_,
      fun _ _ => rfl, fun b hb => ?_⟩, fun b hb hno => ?_, rfl, rfl, rfl, fun j => ?_⟩
    · exact (Vol.clearMark h.vol hdrop.2 hmark.2).of_eq rfl rfl
    · refine (hsound.congr fun j _ => ?_).of_eq rfl rfl
      rw [update_apply]
      exact hmap' j
    · by_cases hb' : b = sv.direct i
      · rw [hb'] at hb ⊢
        exact hmark.1
      · exact (update_of_ne hb' _ _).symm.trans hb
    · refine (update_of_ne ?_ _ _).trans hb
      rintro rfl
      exact hno howns
    · obtain ⟨hb0, rfl | ⟨j, hj, rfl⟩⟩ := hb
      · exact owns_indirect (show sv.indirect ≠ 0 from hb0) _
      have hjb : blockOf s.disk (sv.setDirect i 0) j = blockOf s.disk sv j := by
        by_cases hji : j = i
        · refine absurd ?_ hb0
          exact (hmap' j).trans (if_pos hji)
        · exact (hmap' j).trans (if_neg hji)
      have hb0 : blockOf s.disk (sv.setDirect i 0) j ≠ 0 := hb0
      show Owns s.disk sv (blockOf s.disk (sv.setDirect i 0) j)
      rw [hjb] at hb0 ⊢
      exact owns_block hj hb0
    · have hb' : b = sv.direct i := by
        by_contra hne
        refine hno ⟨hb.1, hb.2.imp id ?_⟩
        rintro ⟨j, hj, rfl⟩
        refine ⟨j, hj, (hmap' j).trans (if_neg ?_)⟩
        rintro rfl
        exact hne hmap
      rw [hb']
      exact update_self ..
    show update sv.direct i 0 j = _
    by_cases hj : j = i
    · rw [hj, update_self, if_pos ⟨rfl, hdrop.1⟩]
    · rw [update_of_ne hj, if_neg (fun hc => hj hc.1)]
  rw [if_neg hdrop]
  refine ⟨s, sv, rfl, Shrinks.refl h, Freed.refl s sv, rfl, rfl, rfl, fun j => ?_⟩
  by_cases hj : j = i ∧ blocklen ≤ j
  · rw [if_pos hj]
    obtain ⟨rfl, hle⟩ := hj
    by_contra hne
    exact hdrop ⟨hle, hne⟩
  · rw [if_neg hj]

lemma truncDirect_loop (blocklen count : Nat) : ∀ (first : Nat) {s : Fs} {sv : Vnode},
    Held s ino sv → first + count ≤ SFS_NDIRECT →
    ∃ t sv', (loop (freeDirect ino blocklen) first count).run s = .ok () t ∧
      Shrinks s t ino sv sv' ∧ Freed s t sv sv' ∧ t.failures = s.failures ∧ t.disk = s.disk ∧
      sv'.indirect = sv.indirect ∧
      ∀ j, sv'.direct j =
        if first ≤ j ∧ j < first + count ∧ blocklen ≤ j then 0 else sv.direct j := by
  induction count with
  | zero =>
    intro first s sv h _
    refine ⟨s, sv, rfl, Shrinks.refl h, Freed.refl s sv, rfl, rfl, rfl, fun j => ?_⟩
    rw [if_neg (by omega)]
  | succ count ih =>
    intro first s sv h hle
    obtain ⟨t, sv', hstep, hshrinks, hfreed, hfail, hdisk, hind, hdirect⟩ :=
      freeDirect_run blocklen h (show first < SFS_NDIRECT by omega)
    obtain ⟨u, sv'', hrest, hshrinks', hfreed', hfail', hdisk', hind', hdirect'⟩ :=
      ih (first + 1) hshrinks.held (by omega)
    rw [loop_succ, bind_run_ok hstep]
    refine ⟨u, sv'', hrest, hshrinks.trans hshrinks', hfreed.trans hfreed' hshrinks',
      hfail'.trans hfail, hdisk'.trans hdisk, hind'.trans hind, fun j => ?_⟩
    rw [hdirect' j, hdirect j]
    by_cases hin : first ≤ j ∧ j < first + (count + 1) ∧ blocklen ≤ j
    · rw [if_pos hin]
      by_cases hlater : first + 1 ≤ j ∧ j < first + 1 + count ∧ blocklen ≤ j
      · rw [if_pos hlater]
      · rw [if_neg hlater, if_pos (by omega)]
    · rw [if_neg hin, if_neg (by omega), if_neg (by omega)]

lemma truncDirect_run (h : Held s ino sv) (blocklen : Nat) :
    ∃ t sv', (truncDirect ino blocklen).run s = .ok () t ∧ Shrinks s t ino sv sv' ∧
      Freed s t sv sv' ∧ t.failures = s.failures ∧ t.disk = s.disk ∧
      sv'.indirect = sv.indirect ∧ ∀ fb, blockOf t.disk sv' fb =
        if fb < SFS_NDIRECT ∧ blocklen ≤ fb then 0 else blockOf s.disk sv fb := by
  obtain ⟨t, sv', hrun, hshrinks, hfreed, hfail, hdisk, hind, hdirect⟩ :=
    truncDirect_loop blocklen SFS_NDIRECT 0 h (by omega)
  refine ⟨t, sv', hrun, hshrinks, hfreed, hfail, hdisk, hind, fun fb => ?_⟩
  unfold blockOf
  rw [hdisk, hind, hdirect]
  by_cases hfb : fb < SFS_NDIRECT
  · rw [if_pos hfb, if_pos hfb]
    by_cases hle : blocklen ≤ fb
    · rw [if_pos (by omega), if_pos ⟨hfb, hle⟩]
    · rw [if_neg (by omega), if_neg (fun hc => hle hc.2)]
  · rw [if_neg hfb, if_neg hfb, if_neg (show ¬ (fb < SFS_NDIRECT ∧ blocklen ≤ fb) from
      fun hc => hfb hc.1)]

end Direct

section Indirect

def mapOf (direct words : Nat → Nat) (fb : Nat) : Nat :=
  if fb < SFS_NDIRECT then direct fb else words (fb - SFS_NDIRECT)

variable {words : Nat → Nat} {first count blocklen : Nat} {freemap : Nat → Bool}

lemma mapOf_update (k fb : Nat) : mapOf direct (update words k 0) fb =
      update (mapOf direct words) (SFS_NDIRECT + k) 0 fb := by
  unfold mapOf
  by_cases hfb : fb = SFS_NDIRECT + k
  · rw [hfb, update_self, if_neg (by omega), Nat.add_sub_cancel_left, update_self]
  rw [update_of_ne hfb]
  by_cases hd : fb < SFS_NDIRECT
  · rw [if_pos hd, if_pos hd]
  · rw [if_neg hd, if_neg hd, update_of_ne (by omega)]

structure Emptied (blocklen first count : Nat) (id id' : Idbuf) : Prop where
  words : ∀ k, id'.words k =
    if first ≤ k ∧ k < first + count ∧ blocklen < SFS_NDIRECT + k then 0 else id.words k
  kept : id'.hasnonzero = false →
    id.hasnonzero = false ∧ ∀ k, first ≤ k → k < first + count → id'.words k = 0
  clean : id'.iddirty = false → id.iddirty = false ∧ id'.words = id.words

structure Unmarked (first count : Nat) (words : Nat → Nat) (freemap freemap' : Nat → Bool) :
    Prop where
  marks : ∀ b, freemap' b = true → freemap b = true
  kept : ∀ b, freemap b = true → (∀ k, first ≤ k → k < first + count → words k ≠ b) →
    freemap' b = true

lemma Unmarked.later (h : Unmarked (first + 1) count words freemap freemap') :
    Unmarked first (count + 1) words freemap freemap' :=
  ⟨h.marks, fun b hb hno => h.kept b hb fun k hlo hhi => hno k (by omega) (by omega)⟩

structure Cleared (blocklen first count : Nat) (id id' : Idbuf) (freemap : Nat → Bool) : Prop where
  freed : ∀ k, first ≤ k → k < first + count → blocklen < SFS_NDIRECT + k → id.words k ≠ 0 →
    freemap (id.words k) = false
  left : id'.hasnonzero = true →
    id.hasnonzero = true ∨ ∃ k, first ≤ k ∧ k < first + count ∧ id'.words k ≠ 0

lemma Cleared.later {id id' : Idbuf}
    (h : Cleared blocklen (first + 1) count id id' freemap)
    (hfirst : ¬ (blocklen < SFS_NDIRECT + first ∧ id.words first ≠ 0)) :
    Cleared blocklen first (count + 1) id id' freemap := by
  refine ⟨fun k hlo hhi hlen hne => ?_, fun hleft => (h.left hleft).imp_right ?_⟩
  · by_cases hk : k = first
    · rw [hk] at hlen hne
      exact absurd ⟨hlen, hne⟩ hfirst
    · exact h.freed k (by omega) (by omega) hlen hne
  · rintro ⟨k, hlo, hhi, hne⟩
    exact ⟨k, by omega, by omega, hne⟩

lemma truncEntries_run (blocklen count : Nat) :
    ∀ (first : Nat) {s : Fs} (id : Idbuf), Vol s → Sound s (mapOf direct id.words) ind →
      first + count ≤ SFS_DBPERIDB →
      ∃ freemap id', (truncEntries blocklen count first id).run s = .ok id' { s with freemap } ∧
        Vol { s with freemap } ∧ Sound { s with freemap } (mapOf direct id'.words) ind ∧
        Emptied blocklen first count id id' ∧ Unmarked first count id.words s.freemap freemap ∧
        Cleared blocklen first count id id' freemap := by
  induction count with
  | zero =>
    intro first s id hvol hsound _
    refine ⟨s.freemap, id, rfl, hvol, hsound,
      ⟨fun k => ?_, fun h => ⟨h, fun k hlo hhi => ?_⟩, fun h => ⟨h, rfl⟩⟩,
      ⟨fun _ hb => hb, fun _ hb _ => hb⟩, fun k hlo hhi => ?_, .inl⟩
    · rw [if_neg (by omega)]
    · omega
    · omega
  | succ count ih =>
    intro first s id hvol hsound hle
    rw [truncEntries]
    have hmap : mapOf direct id.words (SFS_NDIRECT + first) = id.words first := by
      rw [mapOf, if_neg (by omega), Nat.add_sub_cancel_left]
    have hmax : SFS_NDIRECT + first < MAXBLOCKS := Nat.add_lt_add_left (by omega) _
    by_cases hdrop : blocklen < SFS_NDIRECT + first ∧ id.words first ≠ 0
    · have hdropped := hsound.drop hmax (hmap ▸ hdrop.2)
      have hmark := hsound.marked _ hmax (hmap ▸ hdrop.2)
      rw [hmap] at hmark hdropped
      rw [if_pos hdrop, bind_run_ok (sfsBfree_run hmark)]
      obtain ⟨freemap, id', hrun, hvol', hsound', hem, hun, hcl⟩ := ih (first + 1)
        { id with words := update id.words first 0, iddirty := true }
        (hvol.clearMark hdrop.2 hmark.2) (hdropped.congr fun fb _ => mapOf_update first fb)
        (by omega)
      refine ⟨freemap, id', hrun, hvol', hsound', ⟨fun k => ?_, fun h => ?_, fun h => ?_⟩,
        ⟨fun b hb => ?_, fun b hb hno => hun.kept b ?_ fun k hlo hhi => ?_⟩,
        fun k hlo hhi hlen hne => ?_, fun hleft => (hcl.left hleft).imp_right ?_⟩
      · rw [hem.words k]
        by_cases hk : k = first
        · rw [hk, if_neg (by omega), if_pos (by omega)]
          exact update_self ..
        show (if _ then 0 else update id.words first 0 k) = _
        rw [update_of_ne hk]
        exact if_congr (by omega) rfl rfl
      · obtain ⟨hz, hrest⟩ := hem.kept h
        refine ⟨hz, fun k hlo hhi => ?_⟩
        by_cases hk : k = first
        · rw [hem.words k, hk, if_neg (by omega)]
          exact update_self ..
        · exact hrest k (by omega) (by omega)
      · exact absurd (hem.clean h).1 (by simp)
      · have hb' := hun.marks b hb
        by_cases heq : b = id.words first
        · rw [heq]
          exact hmark.1
        · exact (update_of_ne heq _ _).symm.trans hb'
      · have heq : b ≠ id.words first := fun heq => hno first (Nat.le_refl _) (by omega) heq.symm
        exact (update_of_ne heq _ _).trans hb
      · show update id.words first 0 k ≠ b
        rw [update_of_ne (by omega)]
        exact hno k (by omega) (by omega)
      · by_cases hk : k = first
        · rw [hk]
          refine Bool.eq_false_iff.mpr fun hmarked => ?_
          have hclear : update s.freemap (id.words first) false (id.words first) =
              true := hun.marks _ hmarked
          rw [update_self] at hclear
          cases hclear
        have hword : update id.words first 0 k = id.words k :=
          update_of_ne hk _ _
        rw [← hword] at hne ⊢
        exact hcl.freed k (by omega) (by omega) hlen hne
      · rintro ⟨k, hlo, hhi, hne⟩
        exact ⟨k, by omega, by omega, hne⟩
    rw [if_neg hdrop]
    have hfirst : ∀ id' : Idbuf, (∀ k, id'.words k =
        if first + 1 ≤ k ∧ k < first + 1 + count ∧ blocklen < SFS_NDIRECT + k then 0
        else id.words k) → ∀ k, id'.words k =
        if first ≤ k ∧ k < first + (count + 1) ∧ blocklen < SFS_NDIRECT + k then 0
        else id.words k := by
      intro id' hwords k
      rw [hwords k]
      by_cases hk : k = first
      · rw [if_neg (by omega)]
        by_cases hlen : blocklen < SFS_NDIRECT + k
        · rw [if_pos (by omega)]
          by_contra hne
          exact hdrop ⟨hk ▸ hlen, hk ▸ hne⟩
        · rw [if_neg (fun hc => hlen hc.2.2)]
      · exact if_congr (by omega) rfl rfl
    by_cases hne : id.words first ≠ 0
    · rw [if_pos hne]
      obtain ⟨freemap, id', hrun, hvol', hsound', hem, hun, hcl⟩ := ih (first + 1)
        { id with hasnonzero := true } hvol hsound (by omega)
      refine ⟨freemap, id', hrun, hvol', hsound',
        ⟨hfirst id' hem.words, fun h => ?_, hem.clean⟩, hun.later,
        (hcl.later hdrop).freed, fun _ => .inr ⟨first, Nat.le_refl _, by omega, ?_⟩⟩
      · exact absurd (hem.kept h).1 (by simp)
      · rwa [hfirst id' hem.words first, if_neg fun hc => hdrop ⟨hc.2.2, hne⟩]
    rw [if_neg hne]
    obtain ⟨freemap, id', hrun, hvol', hsound', hem, hun, hcl⟩ :=
      ih (first + 1) id hvol hsound (by omega)
    refine ⟨freemap, id', hrun, hvol', hsound',
      ⟨hfirst id' hem.words, fun h => ?_, hem.clean⟩, hun.later, hcl.later hdrop⟩
    obtain ⟨hz, hrest⟩ := hem.kept h
    refine ⟨hz, fun k hlo hhi => ?_⟩
    by_cases hk : k = first
    · rw [hfirst id' hem.words k, hk, not_not.mp hne, ite_self]
    · exact hrest k (by omega) (by omega)

structure Trimmed (s t : Fs) (sv sv' : Vnode) (blocklen : Nat) : Prop where
  map : ∀ fb < MAXBLOCKS, blockOf t.disk sv' fb =
    if SFS_NDIRECT ≤ fb ∧ blocklen < fb then 0 else blockOf s.disk sv fb
  disk : ∀ b ≠ sv.indirect, t.disk b = s.disk b
  tight : blocklen < SFS_NDIRECT + SFS_DBPERIDB - 1 → Tight t.disk sv'
  indirect : sv'.indirect = sv.indirect ∨
    sv'.indirect = 0 ∧ blocklen < SFS_NDIRECT + SFS_DBPERIDB - 1

structure Scanned (s : Fs) (sv : Vnode) (blocklen : Nat) (id : Idbuf) (freemap : Nat → Bool) :
    Prop where
  vol : Vol { s with freemap }
  sound : Sound { s with freemap } (mapOf sv.direct id.words) sv.indirect
  map : ∀ fb < MAXBLOCKS, mapOf sv.direct id.words fb =
    if SFS_NDIRECT ≤ fb ∧ blocklen < fb then 0 else blockOf s.disk sv fb
  marks : ∀ b, freemap b = true → s.freemap b = true
  kept : ∀ b, s.freemap b = true → ¬ Owns s.disk sv b → freemap b = true
  freed : ∀ fb < MAXBLOCKS, SFS_NDIRECT ≤ fb ∧ blocklen < fb → blockOf s.disk sv fb ≠ 0 →
    freemap (blockOf s.disk sv fb) = false
  used : id.hasnonzero = true →
    ∃ fb < MAXBLOCKS, SFS_NDIRECT ≤ fb ∧ mapOf sv.direct id.words fb ≠ 0
  empty : id.hasnonzero = false → ∀ k < SFS_DBPERIDB, id.words k = 0
  clean : id.iddirty = false → id.words = wordAt (s.disk sv.indirect)
  small : ∀ k < SFS_DBPERIDB, id.words k < 0x100000000

lemma mapOf_indirect (disk : Nat → Block) (hi0 : sv.indirect ≠ 0) (fb : Nat) :
    mapOf sv.direct (wordAt (disk sv.indirect)) fb = blockOf disk sv fb := by
  rw [mapOf, blockOf, if_neg hi0]

lemma truncEntries_scanned (h : Held s ino sv) (hi0 : sv.indirect ≠ 0) (blocklen : Nat)
    (tr : List Transfer) : ∃ freemap id,
      (truncEntries blocklen SFS_DBPERIDB 0 ⟨wordAt (s.disk sv.indirect), false, false⟩).run
        (s.moved tr) = .ok id { s.moved tr with freemap } ∧ Scanned s sv blocklen id freemap := by
  have hmapOf := mapOf_indirect s.disk hi0
  have hsound₀ : Sound (s.moved tr) (mapOf sv.direct (wordAt (s.disk sv.indirect))) sv.indirect :=
    (h.file.sound.congr fun fb _ => hmapOf fb).of_eq rfl rfl
  have hvol₀ : Vol (s.moved tr) := Vol.of_eq h.vol rfl rfl
  obtain ⟨freemap, id, hrun, hvol, hsound, hem, hun, hcl⟩ := truncEntries_run blocklen
    SFS_DBPERIDB 0 ⟨wordAt (s.disk sv.indirect), false, false⟩ hvol₀ hsound₀ (by omega)
  have hword : ∀ k < SFS_DBPERIDB, id.words k =
      if blocklen < SFS_NDIRECT + k then 0 else wordAt (s.disk sv.indirect) k := by
    intro k hk
    rw [hem.words k]
    exact if_congr (by omega) rfl rfl
  refine ⟨freemap, id, hrun, hvol.of_eq rfl rfl, hsound.of_eq rfl rfl, fun fb hfb => ?_, hun.marks,
    fun b hb hno => ?_, fun fb hfb hpast hne => ?_, fun hz => ?_,
    fun hz k hk => (hem.kept hz).2 k (Nat.zero_le _) (by omega), fun hd => (hem.clean hd).2,
    fun k hk => ?_⟩
  · unfold MAXBLOCKS at hfb
    rw [← hmapOf, mapOf, mapOf]
    by_cases hd : fb < SFS_NDIRECT
    · rw [if_pos hd, if_pos hd, if_neg (by omega)]
    · rw [if_neg hd, if_neg hd, hword _ (by omega)]
      exact if_congr (by omega) rfl rfl
  · by_cases hb0 : b = 0
    · rw [hb0]
      exact hvol.super
    refine hun.kept b hb fun k _ hk heq => hno ⟨hb0, .inr ⟨SFS_NDIRECT + k, ?_, ?_⟩⟩
    · unfold MAXBLOCKS
      omega
    · rw [← hmapOf, mapOf, if_neg (by omega), Nat.add_sub_cancel_left]
      exact heq
  · have hfb : fb < SFS_NDIRECT + SFS_DBPERIDB := hfb
    have hentry : wordAt (s.disk sv.indirect) (fb - SFS_NDIRECT) = blockOf s.disk sv fb := by
      rw [blockOf, if_neg (Nat.not_lt.mpr hpast.1), if_neg hi0]
    rw [← hentry] at hne ⊢
    exact hcl.freed (fb - SFS_NDIRECT) (Nat.zero_le _) (by omega) (by omega) hne
  · rcases hcl.left hz with hc | ⟨k, -, hk, hne⟩
    · cases hc
    · refine ⟨SFS_NDIRECT + k, Nat.add_lt_add_left (by omega) _, Nat.le_add_right _ _, ?_⟩
      rwa [mapOf, if_neg (by omega), Nat.add_sub_cancel_left]
  rw [hword k hk]
  split
  · decide
  · exact wordAt_lt _ _

section Scanned

variable {sv' : Vnode} {blocklen : Nat} {id : Idbuf} {freemap : Nat → Bool} {disk : Nat → Block}

variable {b : Nat}

section

variable (h : Scanned s sv blocklen id freemap)
  (hmap : ∀ fb < MAXBLOCKS, blockOf disk sv' fb = mapOf sv.direct id.words fb)

include h hmap

lemma Scanned.owns (hind : sv'.indirect = sv.indirect ∨ sv'.indirect = 0) (hb : Owns disk sv' b) :
    Owns s.disk sv b := by
  obtain ⟨hb0, hb | ⟨fb, hfb, hb⟩⟩ := hb
  · rcases hind with hind | hind
    · exact ⟨hb0, .inl (hb.trans hind)⟩
    · exact absurd (hb.trans hind) hb0
  rw [hmap fb hfb, h.map fb hfb] at hb
  by_cases hpast : SFS_NDIRECT ≤ fb ∧ blocklen < fb
  · rw [if_pos hpast] at hb
    exact absurd hb.symm hb0
  · rw [if_neg hpast] at hb
    exact ⟨hb0, .inr ⟨fb, hfb, hb⟩⟩

lemma Scanned.lost (howns : Owns s.disk sv b) (hno : ¬ Owns disk sv' b) :
    b = sv.indirect ∨ freemap b = false := by
  obtain ⟨hb0, hind | ⟨fb, hfb, rfl⟩⟩ := howns
  · exact .inl hind
  refine .inr ?_
  by_cases hpast : SFS_NDIRECT ≤ fb ∧ blocklen < fb
  · exact h.freed fb hfb hpast hb0
  · exact absurd ⟨hb0, .inr ⟨fb, hfb, (hmap fb hfb).trans ((h.map fb hfb).trans
      (if_neg hpast))⟩⟩ hno

lemma Scanned.tight (hz : id.hasnonzero = true) : Tight disk sv' := by
  intro _
  obtain ⟨fb, hfb, hge, hne⟩ := h.used hz
  exact ⟨fb, hfb, hge, by rwa [hmap fb hfb]⟩

end

structure Rewritten (s t : Fs) (ino : Nat) (sv sv' : Vnode) (id : Idbuf) : Prop where
  nblocks : t.nblocks = s.nblocks
  vnode : t.vnodes ino = some sv'
  vnodes : ∀ i ≠ ino, t.vnodes i = s.vnodes i
  disk : ∀ b ≠ sv.indirect, t.disk b = s.disk b
  map : ∀ fb < MAXBLOCKS, blockOf t.disk sv' fb = mapOf sv.direct id.words fb

lemma Rewritten.disk_other (h : Rewritten s t ino sv sv' id) (hi0 : sv.indirect ≠ 0)
    (hno : ¬ Owns s.disk sv b) : t.disk b = s.disk b := by
  refine h.disk b ?_
  rintro rfl
  exact hno (owns_indirect hi0 _)

section

variable (h : Scanned s sv blocklen id freemap)

include h

section

variable (hi0 : sv.indirect ≠ 0) (ht : Rewritten s t ino sv sv' id)

include hi0 ht

lemma Scanned.stays (hmarks : t.freemap = freemap)
    (hind : sv'.indirect = sv.indirect) : Shrinks s t ino sv sv' ∧ Freed s t sv sv' := by
  have hsound : Sound t (blockOf t.disk sv') sv'.indirect := by
    rw [hind]
    exact (h.sound.congr ht.map).of_eq hmarks ht.nblocks
  have hvol : Vol t := h.vol.of_eq hmarks ht.nblocks
  refine ⟨⟨⟨rfl, hvol.of_eq rfl rfl, ht.vnode, Sound.file (hsound.of_eq rfl rfl)⟩, ht.nblocks,
    ht.vnodes, fun b hb => h.marks b (hmarks ▸ hb), fun b hb hno => hmarks ▸ h.kept b hb hno,
    fun b hno => ht.disk_other hi0 hno, fun b hb => h.owns ht.map (.inl hind) hb⟩,
    fun b howns hno => ?_⟩
  rw [hmarks]
  refine (h.lost ht.map howns hno).resolve_left ?_
  rintro rfl
  exact hno ⟨hi0, .inl hind.symm⟩

lemma Scanned.goes (hmarks : t.freemap = update freemap sv.indirect false)
    (hind : sv'.indirect = 0) :
    Shrinks s t ino sv sv' ∧ Freed s t sv sv' := by
  have hsound : Sound t (blockOf t.disk sv') sv'.indirect := by
    rw [hind]
    exact ((h.sound.dropIndirect hi0).congr ht.map).of_eq hmarks ht.nblocks
  have hvol : Vol t := (h.vol.clearMark hi0 (h.sound.indMarked hi0).2).of_eq hmarks ht.nblocks
  refine ⟨⟨⟨rfl, hvol.of_eq rfl rfl, ht.vnode, Sound.file (hsound.of_eq rfl rfl)⟩, ht.nblocks,
    ht.vnodes, fun b hb => ?_, fun b hb hno => ?_, fun b hno => ht.disk_other hi0 hno,
    fun b hb => h.owns ht.map (.inr hind) hb⟩, fun b howns hno => ?_⟩
  · by_cases heq : b = sv.indirect
    · rw [heq]
      exact h.marks _ (h.sound.indMarked hi0).1
    · rw [hmarks, update_of_ne heq] at hb
      exact h.marks b hb
  · have heq : b ≠ sv.indirect := by
      rintro rfl
      exact hno (owns_indirect hi0 _)
    rw [hmarks, update_of_ne heq]
    exact h.kept b hb hno
  rw [hmarks]
  by_cases heq : b = sv.indirect
  · rw [heq, update_self]
  · rw [update_of_ne heq]
    exact (h.lost ht.map howns hno).resolve_left heq

end

lemma Scanned.map_without (hz : id.hasnonzero = false) :
    ∀ fb < MAXBLOCKS, blockOf s.disk { sv with indirect := 0, dirty := true } fb =
      mapOf sv.direct id.words fb := by
  intro fb hfb
  unfold MAXBLOCKS at hfb
  rw [blockOf, mapOf]
  by_cases hd : fb < SFS_NDIRECT
  · rw [if_pos hd, if_pos hd]
  · rw [if_neg hd, if_neg hd, if_pos rfl, h.empty hz _ (by omega)]

lemma Scanned.map_written (hi0 : sv.indirect ≠ 0) :
    ∀ fb < MAXBLOCKS, blockOf (update s.disk sv.indirect (ofWords id.words)) sv fb =
      mapOf sv.direct id.words fb := by
  intro fb hfb
  unfold MAXBLOCKS at hfb
  rw [blockOf, mapOf, if_neg hi0, update_self]
  by_cases hd : fb < SFS_NDIRECT
  · rw [if_pos hd, if_pos hd]
  · rw [if_neg hd, if_neg hd]
    exact wordAt_ofWords (h.small _ (by omega))

end

end Scanned

lemma truncIndirect_run (h : Held s ino sv) (hi0 : sv.indirect ≠ 0)
    (hlen : blocklen < SFS_NDIRECT + SFS_DBPERIDB - 1) :
    ∃ r t sv', (truncIndirect ino blocklen sv.indirect).run s = .ok r t ∧
      (Mild s ∨ r = .ok () → Shrinks s t ino sv sv' ∧ Freed s t sv sv') ∧ (Mild s → Mild t) ∧
      (s.failures = [] → r = .ok () ∧ t.failures = []) ∧
      (r = .ok () → Trimmed s t sv sv' blocklen) := by
  obtain ⟨r, tr, hread, hend⟩ := sfsReadblock_any s .indirect sv.indirect
  rw [truncIndirect, bind_run_ok hread]
  rcases hend with rfl | ⟨rfl, hfail⟩
  swap
  · refine ⟨.error EIO, s.moved tr, sv, rfl, fun _ => ⟨⟨h, rfl, fun _ _ => rfl, fun _ hb => hb,
      fun _ hb _ => hb, fun _ _ => rfl, fun _ hb => hb⟩, fun _ howns hno => absurd howns hno⟩,
      fun hmild => hmild.of_tail rfl, fun hquiet => absurd hquiet hfail, fun hok => ?_⟩
    cases hok
  obtain ⟨freemap, id, hrun, hscan⟩ := truncEntries_scanned h hi0 blocklen tr
  have htail : s.failures = [] → s.failures.tail = [] := by
    intro hquiet
    rw [hquiet]
    rfl
  simp only
  rw [bind_run_ok hrun]
  by_cases hz : id.hasnonzero = false
  · simp only [hz, Bool.not_false, if_true]
    have hmark : freemap sv.indirect = true ∧ sv.indirect < s.nblocks := hscan.sound.indMarked hi0
    rw [bind_run_ok (sfsBfree_run (s := { s.moved tr with freemap }) hmark), bind_run_ok (getSv_run
      (s := ({ s.moved tr with freemap } : Fs).clearMark sv.indirect) h.vnode)]
    have hmap := hscan.map_without hz
    refine ⟨_, _, { sv with indirect := 0, dirty := true }, rfl, fun _ => ?_,
      fun hmild => hmild.of_tail rfl, fun hquiet => ⟨rfl, htail hquiet⟩,
      fun _ => ⟨fun fb hfb => (hmap fb hfb).trans (hscan.map fb hfb), fun _ _ => rfl,
        fun _ hne => absurd rfl hne, .inr ⟨rfl, hlen⟩⟩⟩
    exact hscan.goes hi0 ⟨rfl, update_self .., fun i hi => update_of_ne hi _ _,
      fun _ _ => rfl, hmap⟩ rfl rfl
  have hz' : id.hasnonzero = true := Bool.not_eq_false _ ▸ hz
  simp only [hz, Bool.not_true, Bool.false_eq_true, if_false]
  by_cases hdirty : id.iddirty = true
  · rw [if_pos hdirty]
    obtain ⟨tr', hwrite | ⟨hwrite, hfail, hno⟩⟩ := sfsWriteblock_any { s.moved tr with freemap }
      .indirect sv.indirect (ofWords id.words)
    swap
    · have hwild : ¬ Mild s := fun hmild => hno (hmild.of_tail rfl) rfl
      refine ⟨.error EIO, _, sv, hwrite, ?_, fun hmild => absurd hmild hwild,
        fun hquiet => absurd (htail hquiet) hfail, ?_⟩
      · rintro (hmild | hc)
        · exact absurd hmild hwild
        · cases hc
      · intro hc
        cases hc
    have hmap := hscan.map_written hi0
    refine ⟨_, _, sv, hwrite, fun _ => ?_,
      fun hmild => Mild.of_tail (hmild.of_tail (t := s.moved tr) rfl) rfl,
      fun hquiet => ⟨rfl, ?_⟩,
      fun _ => ⟨fun fb hfb => (hmap fb hfb).trans (hscan.map fb hfb),
        fun b hb => update_of_ne hb _ _, fun _ => hscan.tight hmap hz', .inl rfl⟩⟩
    · exact hscan.stays hi0 ⟨rfl, h.vnode, fun _ _ => rfl,
        fun b hb => update_of_ne hb _ _, hmap⟩ rfl rfl
    show s.failures.tail.tail = []
    rw [htail hquiet]
    rfl
  rw [if_neg hdirty]
  have hmap : ∀ fb < MAXBLOCKS, blockOf s.disk sv fb = mapOf sv.direct id.words fb := by
    intro fb _
    rw [hscan.clean (Bool.eq_false_iff.mpr hdirty), mapOf_indirect s.disk hi0]
  refine ⟨_, _, sv, rfl, fun _ => ?_, fun hmild => hmild.of_tail rfl,
    fun hquiet => ⟨rfl, htail hquiet⟩,
    fun _ => ⟨fun fb hfb => (hmap fb hfb).trans (hscan.map fb hfb), fun _ _ => rfl,
      fun _ => hscan.tight hmap hz', .inl rfl⟩⟩
  exact hscan.stays hi0 ⟨rfl, h.vnode, fun _ _ => rfl, fun _ _ => rfl, hmap⟩ rfl rfl

end Indirect

section Truncate

def blocksFor (len : Nat) : Nat := (len + SFS_BLOCKSIZE - 1) / SFS_BLOCKSIZE

-- The blocks that stay when a file is truncated: those below the new end, and, in the part
-- that the indirect block maps, one more.
def Kept (len fb : Nat) : Prop := fb < blocksFor len ∨ SFS_NDIRECT ≤ fb ∧ fb = blocksFor len

instance (len fb : Nat) : Decidable (Kept len fb) := inferInstanceAs (Decidable (_ ∨ _))

lemma truncIndirect_part (h : Held s ino sv) (blocklen : Nat) :
    ∃ r t sv', (if blocklen < SFS_NDIRECT + SFS_DBPERIDB - 1 ∧ sv.indirect ≠ 0 then
        truncIndirect ino blocklen sv.indirect else pure (.ok ())).run s = .ok r t ∧
      (Mild s ∨ r = .ok () → Shrinks s t ino sv sv' ∧ Freed s t sv sv') ∧ (Mild s → Mild t) ∧
      (s.failures = [] → r = .ok () ∧ t.failures = []) ∧
      (r = .ok () → Trimmed s t sv sv' blocklen) := by
  by_cases hpart : blocklen < SFS_NDIRECT + SFS_DBPERIDB - 1 ∧ sv.indirect ≠ 0
  · rw [if_pos hpart]
    exact truncIndirect_run h hpart.2 hpart.1
  rw [if_neg hpart]
  refine ⟨_, s, sv, rfl, fun _ => ⟨Shrinks.refl h, Freed.refl s sv⟩, fun hmild => hmild,
    fun hquiet => ⟨rfl, hquiet⟩, fun _ => ⟨fun fb hfb => ?_, fun _ _ => rfl,
      fun hlen hne => absurd ⟨hlen, hne⟩ hpart, .inl rfl⟩⟩
  by_cases hpast : SFS_NDIRECT ≤ fb ∧ blocklen < fb
  · have hi0 : sv.indirect = 0 := by
      by_contra hne
      refine hpart ⟨?_, hne⟩
      unfold MAXBLOCKS at hfb
      omega
    rw [if_pos hpast, blockOf, if_neg (Nat.not_lt.mpr hpast.1), if_pos hi0]
  · rw [if_neg hpast]

structure Shortened (s t : Fs) (sv sv' : Vnode) (len : Nat) : Prop where
  size : sv'.size = len
  map : ∀ fb < MAXBLOCKS, blockOf t.disk sv' fb =
    if Kept len fb then blockOf s.disk sv fb else 0
  disk : ∀ b ≠ sv.indirect, t.disk b = s.disk b
  tight : blocksFor len < SFS_NDIRECT + SFS_DBPERIDB - 1 → Tight t.disk sv'
  indirect : sv'.indirect = sv.indirect ∨
    sv'.indirect = 0 ∧ blocksFor len < SFS_NDIRECT + SFS_DBPERIDB - 1

lemma sfsItrunc_cases (h : Held s ino sv) (len : Nat) :
    ∃ r t sv', (sfsItrunc ino len).run s = .ok r t ∧
      (Mild s ∨ r = .ok () → Shrinks s t ino sv sv' ∧ Freed s t sv sv') ∧ (Mild s → Mild t) ∧
      (s.failures = [] → r = .ok () ∧ t.failures = []) ∧
      (r = .ok () → Shortened s t sv sv' len) := by
  obtain ⟨t, sv₁, hdirect, hshrinks, hfreed, hfail, hdisk, hind, hmap⟩ :=
    truncDirect_run h (blocksFor len)
  have hmild₁ : Mild s → Mild t := fun hmild fault hmem => hmild fault (hfail ▸ hmem)
  obtain ⟨r, u, sv₂, hindirect, hshrinks', hmild', hquiet, hok⟩ :=
    truncIndirect_part hshrinks.held (blocksFor len)
  have hall : Mild s ∨ r = .ok () → Shrinks s u ino sv sv₂ ∧ Freed s u sv sv₂ := by
    intro hend
    obtain ⟨hpart, hpart'⟩ := hshrinks' (hend.imp_left hmild₁)
    exact ⟨hshrinks.trans hpart, hfreed.trans hpart' hpart⟩
  cases r with
  | error e =>
    refine ⟨.error e, u, sv₂, ?_, ?_, fun hmild => hmild' (hmild₁ hmild), fun hq => ?_,
      fun hc => ?_⟩
    · show (truncDirect ino (blocksFor len) >>= _).run s = _
      rw [bind_run_ok hdirect, bind_run_ok (getSv_run (s := t) hshrinks.held.vnode)]
      exact (bind_run_ok hindirect _).trans rfl
    · rintro (hmild | hc)
      · exact hall (.inl hmild)
      · cases hc
    · cases (hquiet (hfail.trans hq)).1
    · cases hc
  | ok _ =>
  obtain ⟨hwhole, hwhole'⟩ := hall (.inr rfl)
  have htrim := hok rfl
  refine ⟨.ok (), u.putVnode ino (sv₂.resize len), sv₂.resize len, ?_, fun _ => ⟨?_, hwhole'⟩,
    fun hmild => hmild' (hmild₁ hmild), fun hq => ⟨rfl, (hquiet (hfail.trans hq)).2⟩,
    fun _ => ⟨rfl, fun fb hfb => ?_, fun b hb => ?_, htrim.tight, hind ▸ htrim.indirect⟩⟩
  · show (truncDirect ino (blocksFor len) >>= _).run s = _
    rw [bind_run_ok hdirect, bind_run_ok (getSv_run (s := t) hshrinks.held.vnode)]
    refine (bind_run_ok hindirect _).trans ?_
    simp only
    rw [bind_run_ok (getSv_run (s := u) hwhole.held.vnode)]
    rfl
  · exact ⟨hwhole.held.resize len, hwhole.nblocks, fun i hi =>
      (update_of_ne hi _ _).trans (hwhole.vnodes i hi), hwhole.marks, hwhole.kept,
      hwhole.disk, hwhole.owns⟩
  · show blockOf u.disk sv₂ fb = _
    rw [htrim.map fb hfb, hmap]
    by_cases hpast : SFS_NDIRECT ≤ fb ∧ blocksFor len < fb
    · rw [if_pos hpast, if_neg (by unfold Kept; omega)]
    rw [if_neg hpast]
    by_cases hpast' : fb < SFS_NDIRECT ∧ blocksFor len ≤ fb
    · rw [if_pos hpast', if_neg (by unfold Kept; omega)]
    · rw [if_neg hpast', if_pos (by unfold Kept; omega)]
  · show u.disk b = s.disk b
    rw [htrim.disk b (hind ▸ hb), hdisk]

lemma Shortened.bytes (h : Held s ino sv)
    (hshort : Shortened s t sv sv' len) (hi : i < MAXBLOCKS * SFS_BLOCKSIZE) :
    byteOf t.disk sv' i = if Kept len (i / SFS_BLOCKSIZE) then byteOf s.disk sv i else 0 := by
  have hlt : i / SFS_BLOCKSIZE < MAXBLOCKS := Nat.div_lt_of_lt_mul (by rwa [Nat.mul_comm])
  have hblock := hshort.map _ hlt
  by_cases hkept : Kept len (i / SFS_BLOCKSIZE)
  · rw [if_pos hkept]
    rw [if_pos hkept] at hblock
    refine byteOf_congr hblock fun hne => hshort.disk _ ?_
    by_cases hi0 : sv.indirect = 0
    · rw [hi0]
      exact hne
    · exact h.file.indirect _ hlt hi0
  rw [if_neg hkept]
  rw [if_neg hkept] at hblock
  exact if_pos hblock

lemma sfsItrunc_any (h : Held s ino sv) (hmild : Mild s) (len : Nat) :
    ∃ r t sv', (sfsItrunc ino len).run s = .ok r t ∧ Shrinks s t ino sv sv' ∧ Mild t ∧
      (s.failures = [] → r = .ok () ∧ t.failures = []) ∧
      (r = .ok () → sv'.size = len ∧ ∀ i < MAXBLOCKS * SFS_BLOCKSIZE, byteOf t.disk sv' i =
        if Kept len (i / SFS_BLOCKSIZE) then byteOf s.disk sv i else 0) := by
  obtain ⟨r, t, sv', hrun, hend, hmild', hquiet, hok⟩ := sfsItrunc_cases h len
  exact ⟨r, t, sv', hrun, (hend (.inl hmild)).1, hmild' hmild, hquiet,
    fun hr => ⟨(hok hr).size, fun i hi => (hok hr).bytes h hi⟩⟩

lemma sfsItrunc_run (h : Loaded s ino sv) (len : Nat) :
    ∃ t sv', (sfsItrunc ino len).run s = .ok (.ok ()) t ∧ Loaded t ino sv' ∧ sv'.size = len ∧
      ∀ i < MAXBLOCKS * SFS_BLOCKSIZE, byteOf t.disk sv' i =
        if Kept len (i / SFS_BLOCKSIZE) then byteOf s.disk sv i else 0 := by
  have hmild : Mild s := fun fault hmem => by
    rw [h.quiet] at hmem
    cases hmem
  obtain ⟨r, t, sv', hrun, hshrinks, -, hquiet, hok⟩ := sfsItrunc_any h.held hmild len
  obtain ⟨rfl, hquiet'⟩ := hquiet h.quiet
  exact ⟨t, sv', hrun, hshrinks.held.loaded hquiet', (hok rfl).1, (hok rfl).2⟩

-- What is read back between the new end of a file and the start of a later write is zero
-- exactly when the write is empty or the blocks that stay had zeros there already.
theorem truncation_discards_iff (h : Loaded s ino sv) {len off : Nat} {data : List UInt8}
    (hoff : len ≤ off)
    (hmax : off + data.length ≤ MAXBLOCKS * SFS_BLOCKSIZE) :
    ∃ t r u, (sfsItrunc ino len).run s = .ok (.ok ()) t ∧
      (sfsIo ino ⟨true, off, data.length, data⟩).run t = .ok r u ∧
      (r.1 = .ok () ∨ r.1 = .error ENOSPC ∧ u.firstFree = none) ∧
      (r.1 = .ok () → ∃ uio v,
        (sfsIo ino ⟨false, len, off - len, []⟩).run u = .ok (.ok (), uio) v ∧
        ((∀ b ∈ uio.data, b = 0) ↔ data = [] ∨
          ∀ i, len ≤ i → i < off → Kept len (i / SFS_BLOCKSIZE) → byteOf s.disk sv i = 0)) := by
  obtain ⟨t, sv₁, htrunc, hloaded, hsize, hbytes⟩ := sfsItrunc_run h len
  obtain ⟨r, u, n, sv₂, hwrite, hn, hloaded', hsize', hbytes', -, hend⟩ :=
    sfsIo_write hloaded off data hmax
  refine ⟨t, r, u, htrunc, hwrite, hend.imp And.left id, fun hok => ?_⟩
  obtain rfl : n = data.length := by
    rcases hend with ⟨-, hn⟩ | ⟨herr, -⟩
    · exact hn
    · rw [hok] at herr
      cases herr
  obtain ⟨uio, tr, hread, hdata⟩ := sfsIo_read hloaded' len (off - len) (by omega)
  refine ⟨uio, _, hread, ?_⟩
  have hgap : ∀ i, len ≤ i → i < off → byteOf u.disk sv₂ i =
      if Kept len (i / SFS_BLOCKSIZE) then byteOf s.disk sv i else 0 := by
    intro i hlo hhi
    rw [hbytes' i (by omega), paste_outside (.inl hhi), hbytes i (by omega)]
  rw [hdata]
  cases data with
  | nil =>
    have hsame : sv₂.size = len := by rw [hsize', if_pos length_nil, hsize]
    simp [hsame]
  | cons b rest =>
    have hcount : min (off - len) (sv₂.size - len) = off - len := by
      rw [hsize', if_neg (by simp), hsize]
      omega
    rw [hcount]
    constructor
    · intro hzero
      refine .inr fun i hlo hhi hkept => ?_
      have hlt : i - len < off - len := by omega
      have hmem := hzero _ (mem_map_of_mem (mem_range.mpr hlt))
      rw [Nat.add_sub_cancel' hlo, hgap i hlo hhi, if_pos hkept] at hmem
      exact hmem
    rintro (hnil | hstale) x hx
    · cases hnil
    obtain ⟨k, hk, rfl⟩ := mem_map.mp hx
    have hk := mem_range.mp hk
    rw [hgap _ (by omega) (by omega)]
    split
    · exact hstale _ (by omega) (by omega) (by assumption)
    · rfl

def sampleVnode : Vnode :=
  ⟨512, 1, 1, fun i => if i = 0 then 5 else 0, 0, false⟩

def sampleFs : Fs where
  nblocks := 16
  freemap b := b < 6 ∨ 16 ≤ b
  disk b := if b = 5 then fun _ => 0x41 else zeroBlock
  vnodes ino := if ino = 4 then some sampleVnode else none
  failures := []
  transfers := []

lemma sampleFs_blockOf (fb : Nat) :
    blockOf sampleFs.disk sampleVnode fb = if fb = 0 then 5 else 0 := by
  unfold blockOf sampleVnode
  by_cases hfb : fb < SFS_NDIRECT
  · rw [if_pos hfb]
  rw [if_neg hfb, if_pos rfl, if_neg]
  rintro rfl
  exact hfb (by decide)

lemma sampleFs_loaded : Loaded sampleFs 4 sampleVnode := by
  refine ⟨rfl, ⟨rfl, fun b hb _ => by simpa [sampleFs] using .inr hb, by decide⟩, rfl,
    Sound.file ?_⟩
  have hmap : Sound sampleFs (fun fb => if fb = 0 then 5 else 0) 0 := ?_
  · exact hmap.congr fun fb _ => sampleFs_blockOf fb
  refine ⟨fun i _ hne => ?_, fun h => absurd rfl h, fun i _ j _ hne heq => ?_,
    fun i _ h => absurd rfl h⟩
  · have hi : i = 0 := by
      by_contra hi
      simp [hi] at hne
    subst hi
    exact ⟨rfl, by decide⟩
  have heq : (if i = 0 then 5 else 0) = if j = 0 then 5 else 0 := heq
  have hi : i = 0 := by
    by_contra hi
    exact hne (if_neg hi)
  rw [if_pos hi] at heq
  by_contra hij
  rw [if_neg (fun hj => hij (hi.trans hj.symm))] at heq
  cases heq

theorem truncation_discards_sample :
    ∃ t r u, (sfsItrunc 4 100).run sampleFs = .ok (.ok ()) t ∧
      (sfsIo 4 ⟨true, 102, ([7] : List UInt8).length, [7]⟩).run t = .ok r u ∧
      (r.1 = .ok () ∨ r.1 = .error ENOSPC ∧ u.firstFree = none) ∧
      (r.1 = .ok () → ∃ uio v,
        (sfsIo 4 ⟨false, 100, 102 - 100, []⟩).run u = .ok (.ok (), uio) v ∧
        ((∀ b ∈ uio.data, b = 0) ↔ [(7 : UInt8)] = [] ∨
          ∀ i, 100 ≤ i → i < 102 → Kept 100 (i / SFS_BLOCKSIZE) →
            byteOf sampleFs.disk sampleVnode i = 0)) :=
  truncation_discards_iff sampleFs_loaded (by decide) (by decide)

def readBack (ino len off : Nat) (data : List UInt8) : Action (Option (List UInt8)) := do
  let truncated ← sfsItrunc ino len
  let (written, _) ← sfsIo ino ⟨true, off, data.length, data⟩
  let (read, uio) ← sfsIo ino ⟨false, len, off - len, []⟩
  pure (if truncated.isOk && written.isOk && read.isOk then some uio.data else none)

theorem truncation_keeps_tail : 100 < sampleVnode.size ∧
    (readBack 4 100 102 [7]).run' sampleFs = some (some [0x41, 0x41]) := by
  refine ⟨by decide, ?_⟩
  decide +kernel

end Truncate

end Os161.Sfs
