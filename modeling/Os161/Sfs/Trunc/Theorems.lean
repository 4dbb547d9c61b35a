import Os161.Sfs.Trunc

namespace Os161.Sfs

open Lib.Exec
open Vm (Word Stop)

variable {s t : Fs} {ino : Nat} {sv sv' : Vnode} {len : Nat}

-- The blocks below the new end stay and no others, the indirect block stays only for an entry of
-- it, and the marks that go are those of the blocks that went.
structure Exact (s t : Fs) (sv sv' : Vnode) (len : Nat) : Prop where
  size : sv'.size = len
  map : ∀ fb < MAXBLOCKS, blockOf t.disk sv' fb =
    if fb < blocksFor len then blockOf s.disk sv fb else 0
  indirect : sv'.indirect = sv.indirect ∨ sv'.indirect = 0
  tight : Tight t.disk sv'
  marks : ∀ b, t.freemap b = true ↔ s.freemap b = true ∧ (Owns s.disk sv b → Owns t.disk sv' b)

-- The file has no block right at the new end where the indirect block would map it, and its
-- indirect block is in use if the new end is so high that sfs_itrunc does not look at it.
structure Clean (disk : Nat → Block) (sv : Vnode) (len : Nat) : Prop where
  border : SFS_NDIRECT ≤ blocksFor len → blocksFor len < MAXBLOCKS →
    blockOf disk sv (blocksFor len) = 0
  high : MAXBLOCKS ≤ blocksFor len + 1 → Tight disk sv

lemma Shrinks.marks_iff (hshrinks : Shrinks s t ino sv sv') (hfreed : Freed s t sv sv')
    (b : Nat) :
    t.freemap b = true ↔ s.freemap b = true ∧ (Owns s.disk sv b → Owns t.disk sv' b) := by
  constructor
  · intro hmark
    refine ⟨hshrinks.marks b hmark, fun howns => ?_⟩
    by_contra hno
    rw [hfreed b howns hno] at hmark
    cases hmark
  rintro ⟨hmark, howns⟩
  by_cases hb : Owns s.disk sv b
  · exact (hshrinks.held.file.marked b (howns hb)).1
  · exact hshrinks.kept b hmark hb

section

variable (h : Shortened s t sv sv' len)

include h

lemma Shortened.map_clean (hclean : Clean s.disk sv len)
    (hfb : fb < MAXBLOCKS) :
    blockOf t.disk sv' fb = if fb < blocksFor len then blockOf s.disk sv fb else 0 := by
  rw [h.map fb hfb]
  by_cases hlt : fb < blocksFor len
  · have hkept : Kept len fb := .inl hlt
    rw [if_pos hlt, if_pos hkept]
  rw [if_neg hlt]
  by_cases hkept : Kept len fb
  · obtain ⟨hge, rfl⟩ := hkept.resolve_left hlt
    rw [if_pos hkept]
    exact hclean.border hge hfb
  · rw [if_neg hkept]

lemma Shortened.tight_clean (hclean : Clean s.disk sv len) :
    Tight t.disk sv' := by
  by_cases hlow : blocksFor len < SFS_NDIRECT + SFS_DBPERIDB - 1
  · exact h.tight hlow
  intro hne
  have hind : sv'.indirect = sv.indirect := h.indirect.resolve_right fun hc => hlow hc.2
  have hhigh : MAXBLOCKS ≤ blocksFor len + 1 := by
    unfold MAXBLOCKS
    omega
  obtain ⟨fb, hfb, hge, huse⟩ := hclean.high hhigh (hind ▸ hne)
  refine ⟨fb, hfb, hge, ?_⟩
  rwa [h.map fb hfb, if_pos (by unfold Kept; omega)]

lemma Shortened.clean (hexact : Exact s t sv sv' len) :
    Clean s.disk sv len := by
  refine ⟨fun hge hlt => ?_, fun hhigh hne => ?_⟩
  · have hkept : Kept len (blocksFor len) := .inr ⟨hge, rfl⟩
    rw [← if_pos hkept (e := 0) (t := blockOf s.disk sv (blocksFor len)), ← h.map _ hlt,
      hexact.map _ hlt, if_neg (Nat.lt_irrefl _)]
  have hind : sv'.indirect = sv.indirect := by
    refine h.indirect.resolve_right fun hc => ?_
    have hlow := hc.2
    unfold MAXBLOCKS at hhigh
    omega
  obtain ⟨fb, hfb, hge, huse⟩ := hexact.tight (hind ▸ hne)
  refine ⟨fb, hfb, hge, fun hzero => huse ?_⟩
  rw [h.map fb hfb, hzero, ite_self]

end

-- A truncation that succeeds does exactly what it is for when the file is clean at the new end,
-- and it does succeed where no transfer fails.
theorem truncation_exact_iff (h : Held s ino sv) (len : Nat) :
    (s.failures = [] → ∃ t, (sfsItrunc ino len).run s = .ok (.ok ()) t) ∧
      ∀ t, (sfsItrunc ino len).run s = .ok (.ok ()) t → ∃ sv', t.vnodes ino = some sv' ∧
        (Exact s t sv sv' len ↔ Clean s.disk sv len) := by
  obtain ⟨r, u, sv', hrun, hend, -, hquiet, hok⟩ := sfsItrunc_cases h len
  constructor
  · intro hq
    obtain ⟨rfl, -⟩ := hquiet hq
    exact ⟨u, hrun⟩
  intro t ht
  obtain ⟨rfl, rfl⟩ : r = .ok () ∧ u = t := by
    rw [hrun] at ht
    cases ht
    exact ⟨rfl, rfl⟩
  obtain ⟨hshrinks, hfreed⟩ := hend (.inr rfl)
  have hshort := hok rfl
  refine ⟨sv', hshrinks.held.vnode, hshort.clean, fun hclean => ?_⟩
  exact ⟨hshort.size, fun fb hfb => hshort.map_clean hclean hfb,
    hshort.indirect.imp_right And.left, hshort.tight_clean hclean, hshrinks.marks_iff hfreed⟩

theorem truncation_exact_sample :
    (sampleFs.failures = [] → ∃ t, (sfsItrunc 4 100).run sampleFs = .ok (.ok ()) t) ∧
      ∀ t, (sfsItrunc 4 100).run sampleFs = .ok (.ok ()) t → ∃ sv', t.vnodes 4 = some sv' ∧
        (Exact sampleFs t sampleVnode sv' 100 ↔ Clean sampleFs.disk sampleVnode 100) :=
  truncation_exact_iff sampleFs_loaded.held 100

def borderVnode : Vnode := ⟨16 * 512, 1, 1, fun _ => 0, 6, false⟩

def borderFs : Fs where
  nblocks := 16
  freemap b := b < 7 ∨ 16 ≤ b
  disk b := if b = 6 then ofWords fun k => if k = 0 then 5 else 0 else zeroBlock
  vnodes ino := if ino = 4 then some borderVnode else none
  failures := []
  transfers := []

lemma borderFs_blockOf (fb : Nat) :
    blockOf borderFs.disk borderVnode fb = if fb = SFS_NDIRECT then 5 else 0 := by
  unfold blockOf
  by_cases hd : fb < SFS_NDIRECT
  · rw [if_pos hd, if_neg (by omega)]
    rfl
  rw [if_neg hd, if_neg (by decide)]
  show wordAt (ofWords fun k => if k = 0 then 5 else 0) (fb - SFS_NDIRECT) = _
  rw [wordAt_ofWords]
  · exact if_congr (by omega) rfl rfl
  · split <;> decide

lemma borderFs_loaded : Loaded borderFs 4 borderVnode := by
  refine ⟨rfl, ⟨rfl, fun b hb _ => by simpa [borderFs] using .inr hb, by decide⟩, rfl,
    Sound.file ?_⟩
  have hmap : Sound borderFs (fun fb => if fb = SFS_NDIRECT then 5 else 0) 6 := ?_
  · exact hmap.congr fun fb _ => borderFs_blockOf fb
  have hentry : ∀ i, (if i = SFS_NDIRECT then 5 else 0) ≠ 0 → i = SFS_NDIRECT := by
    intro i hne
    by_contra hi
    exact hne (if_neg hi)
  refine ⟨fun i _ hne => ?_, fun _ => ⟨rfl, by decide⟩, fun i _ j _ hne heq => ?_,
    fun i _ _ heq => ?_⟩
  · rw [hentry i hne]
    exact ⟨rfl, by decide⟩
  · have hj : (if j = SFS_NDIRECT then 5 else 0) ≠ 0 := fun hzero => hne (heq.trans hzero)
    rw [hentry i hne, hentry j hj]
  · have heq : (if i = SFS_NDIRECT then 5 else 0) = 6 := heq
    split at heq <;> cases heq

theorem truncation_keeps_border_block : ∃ t sv',
    (sfsItrunc 4 (15 * 512)).run borderFs = .ok (.ok ()) t ∧ t.vnodes 4 = some sv' ∧
      blocksFor (15 * 512) = 15 ∧ blockOf t.disk sv' 15 = 5 ∧ t.freemap 5 = true := by
  obtain ⟨r, t, sv', hrun, hend, -, hquiet, hok⟩ := sfsItrunc_cases borderFs_loaded.held (15 * 512)
  obtain ⟨rfl, -⟩ := hquiet rfl
  obtain ⟨hshrinks, -⟩ := hend (.inr rfl)
  have hfive : blockOf t.disk sv' 15 = 5 := by
    rw [(hok rfl).map 15 (by decide), if_pos (by decide), borderFs_blockOf]
    rfl
  refine ⟨t, sv', hrun, hshrinks.held.vnode, by decide, hfive, ?_⟩
  have howns : Owns t.disk sv' 5 := ⟨by decide, .inr ⟨15, by decide, hfive⟩⟩
  exact (hshrinks.held.file.marked 5 howns).1

end Os161.Sfs
