import Os161.Sfsck.Theorems

namespace Os161.Sfsck

open Function Lib.Bitmap Lib.Exec
open Sfs

def sizeBlocks (size : Nat) : Nat := (size + SFS_BLOCKSIZE - 1) / SFS_BLOCKSIZE

def FileInfo.kept (file : FileInfo) (fileblock pointer : Nat) : Nat :=
  if pointer < file.volblocks ∧ fileblock < file.fileblocks then pointer else 0

variable (file : FileInfo)

lemma FileInfo.kept_le (fileblock pointer : Nat) : file.kept fileblock pointer ≤ pointer := by
  unfold kept
  split <;> omega

lemma freemapBlockinuse_disk (how : BlockUsage) (block : Nat) (s : Check) :
    ∃ t, (freemapBlockinuse how block).run s = .ok () t ∧ t.disk = s.disk := by
  unfold freemapBlockinuse complainIf
  cases hused : marked s.freemapdata block <;> simp [hused]

lemma checkPointer_disk (fileblock pointer : Nat) (s : Check) :
    ∃ past t, (checkPointer file fileblock pointer).run s =
      .ok (file.kept fileblock pointer, past) t ∧ t.disk = s.disk := by
  unfold checkPointer FileInfo.kept
  by_cases hout : file.volblocks ≤ pointer
  · rw [if_pos hout, if_neg (by omega)]
    exact ⟨_, _, rfl, rfl⟩
  rw [if_neg hout]
  by_cases hzero : pointer = 0
  · rw [if_neg (not_not.mpr hzero), hzero, ite_self]
    exact ⟨_, _, rfl, rfl⟩
  rw [if_pos hzero]
  by_cases hin : fileblock < file.fileblocks
  · obtain ⟨t, hrun, hdisk⟩ := freemapBlockinuse_disk file.usagetype pointer s
    rw [if_pos hin, if_pos ⟨Nat.not_le.mp hout, hin⟩, bind_run_ok hrun]
    exact ⟨_, _, rfl, hdisk⟩
  rw [if_neg hin, if_neg (fun h => hin h.2)]
  refine ⟨_, _, rfl, ?_⟩
  dsimp only
  split_ifs <;> rfl

lemma checkEntries_disk (first count : Nat) (e : Entries) (s : Check) :
    ∃ e' t, (foldLoop (checkEntry file) first count e).run s = .ok e' t ∧ t.disk = s.disk ∧
      e'.ibs.curfileblock = e.ibs.curfileblock + count ∧
      (∀ k, e'.entries k = if first ≤ k ∧ k < first + count then
        file.kept (e.ibs.curfileblock + (k - first)) (e.entries k) else e.entries k) ∧
      (e'.changed = false → e.changed = false ∧ e'.entries = e.entries) := by
  induction count generalizing first e s with
  | zero => exact ⟨e, s, rfl, rfl, rfl, fun k => by rw [if_neg (by omega)], fun h => ⟨h, rfl⟩⟩
  | succ count ih =>
    obtain ⟨past, u, hrun, hdisk⟩ := checkPointer_disk file e.ibs.curfileblock
      (e.entries first) s
    obtain ⟨e', t, hrest, hdisk', hcur, hentries, hchanged⟩ := ih (first + 1)
      ⟨update e.entries first (file.kept e.ibs.curfileblock (e.entries first)),
        ⟨e.ibs.curfileblock + 1, if past then e.ibs.pasteofcount + 1 else e.ibs.pasteofcount⟩,
        e.changed ||
          decide (file.kept e.ibs.curfileblock (e.entries first) ≠ e.entries first)⟩ u
    dsimp only at hcur hentries hchanged
    refine ⟨e', t, ?_, hdisk'.trans hdisk, by omega, fun k => ?_, fun hsame => ?_⟩
    · rw [foldLoop_succ, checkEntry, bind_assoc, bind_run_ok hrun]
      exact hrest
    · rw [hentries]
      by_cases hk : k = first
      · subst hk
        rw [if_neg (by omega), if_pos (by omega), update_self, Nat.sub_self, Nat.add_zero]
      rw [update_of_ne hk]
      by_cases hin : first + 1 ≤ k ∧ k < first + 1 + count
      · rw [if_pos hin, if_pos (by omega),
          show e.ibs.curfileblock + 1 + (k - (first + 1)) = e.ibs.curfileblock + (k - first)
            by omega]
      · rw [if_neg hin, if_neg (by omega)]
    obtain ⟨hbefore, hentries'⟩ := hchanged hsame
    obtain ⟨hfalse, hkept⟩ : e.changed = false ∧
        file.kept e.ibs.curfileblock (e.entries first) = e.entries first := by
      simpa using hbefore
    exact ⟨hfalse, by rw [hentries', hkept, update_eq_self]⟩

def indirectEntry (disk : Nat → Block) (volblocks indirect k : Nat) : Nat :=
  if 0 < indirect ∧ indirect < volblocks then wordAt (disk indirect) k else 0

lemma checkIndirectBlock_disk (ientry : Nat) (ibs : Ibstate) (s : Check) :
    ∃ p ibs' t, (checkIndirectBlock file ientry ibs).run s = .ok (p, ibs') t ∧
      ibs'.curfileblock = ibs.curfileblock + SFS_DBPERIDB ∧
      ∀ k < SFS_DBPERIDB, indirectEntry t.disk file.volblocks p k =
        file.kept (ibs.curfileblock + k) (indirectEntry s.disk file.volblocks ientry k) := by
  unfold checkIndirectBlock
  by_cases hin : 0 < ientry ∧ ientry < file.volblocks
  · obtain ⟨u, hused, hdisk⟩ := freemapBlockinuse_disk .iblock ientry s
    obtain ⟨e, t, hloop, hdisk', hcur, hentries, hchanged⟩ := checkEntries_disk file 0
      SFS_DBPERIDB ⟨wordAt (s.disk ientry), ibs, false⟩ u
    have hkept : ∀ k < SFS_DBPERIDB, e.entries k =
        file.kept (ibs.curfileblock + k) (wordAt (s.disk ientry) k) := by
      intro k hk
      rw [hentries, if_pos ⟨Nat.zero_le k, by omega⟩, Nat.sub_zero]
    rw [if_pos hin, bind_run_ok (diskread_run ientry), bind_run_ok hused, bind_run_ok hloop]
    by_cases hall : (List.range SFS_DBPERIDB).all fun i => e.entries i = 0
    · rw [if_pos hall]
      refine ⟨_, _, _, rfl, hcur, fun k hk => ?_⟩
      have hzero : e.entries k = 0 := by simpa using List.all_eq_true.mp hall k (by simpa using hk)
      rw [indirectEntry, if_neg (by omega), indirectEntry, if_pos hin, ← hkept k hk, hzero]
    rw [if_neg hall]
    cases hwrite : e.changed with
    | true =>
      refine ⟨_, _, _, rfl, hcur, fun k hk => ?_⟩
      rw [indirectEntry, if_pos hin, indirectEntry, if_pos hin, ← hkept k hk]
      simp only [update_self]
      refine wordAt_ofWords ?_
      rw [hkept k hk]
      exact Nat.lt_of_le_of_lt (FileInfo.kept_le file _ _) (wordAt_lt _ _)
    | false =>
      refine ⟨_, _, _, rfl, hcur, fun k hk => ?_⟩
      rw [indirectEntry, if_pos hin, indirectEntry, if_pos hin, ← hkept k hk, hdisk', hdisk,
        (hchanged hwrite).2]
  rw [if_neg hin]
  have hrun : ∃ t, (complainIf (file.volblocks ≤ ientry) EXIT_RECOV).run s = .ok () t := by
    unfold complainIf
    split <;> exact ⟨_, rfl⟩
  obtain ⟨t, hrun⟩ := hrun
  rw [bind_run_ok hrun]
  refine ⟨_, _, _, rfl, rfl, fun k _ => ?_⟩
  rw [indirectEntry, if_neg (by omega), indirectEntry, if_neg hin, FileInfo.kept, ite_self]

def fileblocks (sfi : Dinode) : Nat := roundup sfi.size SFS_BLOCKSIZE / SFS_BLOCKSIZE

def pointerAt (disk : Nat → Block) (volblocks : Nat) (sfi : Dinode) (fileblock : Nat) : Nat :=
  if fileblock < SFS_NDIRECT then sfi.direct fileblock
  else indirectEntry disk volblocks sfi.indirect (fileblock - SFS_NDIRECT)

def VisitsAll (sfi : Dinode) (isdir : Bool) (s : Check) : Prop :=
  ∃ sfi' changed t, (checkInodeBlocks sfi isdir).run s = .ok (sfi', changed) t ∧
    ∀ k < SFS_NDIRECT + SFS_DBPERIDB, pointerAt t.disk s.sb.nblocks sfi' k =
      if pointerAt s.disk s.sb.nblocks sfi k < s.sb.nblocks ∧ k < fileblocks sfi then
        pointerAt s.disk s.sb.nblocks sfi k else 0

lemma checkInodeBlocks_visits (sfi : Dinode) (isdir : Bool) (s : Check) :
    VisitsAll sfi isdir s := by
  obtain ⟨e, t, hloop, hdisk, hcur, hentries, -⟩ := checkEntries_disk
    ⟨fileblocks sfi, s.sb.nblocks, if isdir then .dirdata else .data⟩ 0 SFS_NDIRECT
    ⟨sfi.direct, ⟨0, 0⟩, false⟩ s
  obtain ⟨p, ibs, u, hind, -, hwords⟩ := checkIndirectBlock_disk
    ⟨fileblocks sfi, s.sb.nblocks, if isdir then .dirdata else .data⟩ sfi.indirect e.ibs t
  have hcomplain : ∃ v, (complainIf (0 < ibs.pasteofcount) EXIT_RECOV).run u = .ok () v ∧
      v.disk = u.disk := by
    unfold complainIf
    split <;> exact ⟨_, rfl, rfl⟩
  obtain ⟨v, hcomplain, hdisk'⟩ := hcomplain
  refine ⟨{ sfi with direct := e.entries, indirect := p },
    e.changed || decide (p ≠ sfi.indirect), v, ?_, fun k hk => ?_⟩
  · rw [checkInodeBlocks, bind_run_ok get_run]
    show (foldLoop (checkEntry ⟨fileblocks sfi, _, _⟩) _ _ _ >>= _).run s = _
    rw [bind_run_ok hloop]
    show (checkIndirectBlock ⟨fileblocks sfi, _, _⟩ _ _ >>= _).run t = _
    rw [bind_run_ok hind, bind_run_ok hcomplain, EStateM.run_pure]
  rw [hdisk']
  unfold pointerAt
  by_cases hdirect : k < SFS_NDIRECT
  · simp only [if_pos hdirect]
    rw [hentries, if_pos (by omega)]
    simp only [FileInfo.kept, Nat.zero_add, Nat.sub_zero]
  simp only [if_neg hdirect]
  rw [hwords _ (by omega), hdisk, hcur]
  simp only [FileInfo.kept]
  rw [show 0 + SFS_NDIRECT + (k - SFS_NDIRECT) = k by omega]

def ClearsPastEnd (sfi : Dinode) (isdir : Bool) (s : Check) : Prop :=
  ∃ sfi' changed t, (checkInodeBlocks sfi isdir).run s = .ok (sfi', changed) t ∧
    ∀ k < SFS_NDIRECT + SFS_DBPERIDB, ∀ pointer, pointerAt s.disk s.sb.nblocks sfi k = pointer →
      pointerAt t.disk s.sb.nblocks sfi' k = pointer ∨
        pointerAt t.disk s.sb.nblocks sfi' k = 0 ∧
          (s.sb.nblocks ≤ pointer ∨ sizeBlocks sfi.size ≤ k)

lemma fileblocks_exact (sfi : Dinode) (h : sfi.size + 511 < 0x100000000) :
    fileblocks sfi = sizeBlocks sfi.size := by
  simp only [fileblocks, roundup, sizeBlocks, SFS_BLOCKSIZE]
  omega

lemma fileblocks_wraps (sfi : Dinode) (hsize : sfi.size < 0x100000000)
    (h : 0x100000000 ≤ sfi.size + 511) : fileblocks sfi = 0 := by
  simp only [fileblocks, roundup, SFS_BLOCKSIZE]
  omega

-- The checker keeps the data of every file but those whose size, rounded up to a block, does not
-- fit in 32 bits: of these it drops every block.
theorem checkInodeBlocks_keeps_iff (sfi : Dinode) (isdir : Bool) (s : Check)
    (hsize : sfi.size < 0x100000000) : VisitsAll sfi isdir s ∧
      (ClearsPastEnd sfi isdir s ↔ sfi.size ≤ 0xfffffe00 ∨
        ∀ k < SFS_NDIRECT + SFS_DBPERIDB, pointerAt s.disk s.sb.nblocks sfi k = 0 ∨
          s.sb.nblocks ≤ pointerAt s.disk s.sb.nblocks sfi k) := by
  refine ⟨checkInodeBlocks_visits sfi isdir s, ?_⟩
  obtain ⟨sfi', changed, t, hrun, hvisits⟩ := checkInodeBlocks_visits sfi isdir s
  have hsizes : SFS_NDIRECT + SFS_DBPERIDB = 143 := rfl
  constructor
  · rintro ⟨sfi₁, changed₁, t₁, hrun₁, hclears⟩
    obtain ⟨⟨rfl, -⟩, rfl⟩ : (sfi' = sfi₁ ∧ changed = changed₁) ∧ t = t₁ := by
      simpa using hrun.symm.trans hrun₁
    by_cases hsmall : sfi.size ≤ 0xfffffe00
    · exact .inl hsmall
    refine .inr fun k hk => ?_
    have hzero : pointerAt t.disk s.sb.nblocks sfi' k = 0 := by
      rw [hvisits k hk, fileblocks_wraps sfi hsize (by omega), if_neg (by omega)]
    rcases hclears k hk _ rfl with hsame | ⟨-, hout | hpast⟩
    · exact .inl (hsame.symm.trans hzero)
    · exact .inr hout
    · simp only [sizeBlocks, SFS_BLOCKSIZE] at hpast
      omega
  intro hcase
  refine ⟨sfi', changed, t, hrun, fun k hk pointer hpointer => ?_⟩
  rw [hvisits k hk, hpointer]
  by_cases hkept : pointer < s.sb.nblocks ∧ k < fileblocks sfi
  · exact .inl (if_pos hkept)
  rw [if_neg hkept]
  rcases hcase with hsmall | hnone
  · rw [fileblocks_exact sfi (by omega)] at hkept
    exact .inr ⟨rfl, by omega⟩
  rcases hnone k hk with hzero | hout
  · exact .inl (hpointer.symm.trans hzero).symm
  · exact .inr ⟨rfl, .inl (hpointer ▸ hout)⟩

def hugeFile : Dinode :=
  ⟨0xffffffff, SFS_TYPE_FILE, 1, fun i => if i = 0 then 5 else 0, 0, fun _ => 0⟩

def eightBlocks : Check :=
  { Check.start fun _ => zeroBlock with sb := ⟨SFS_MAGIC, 8, fun _ => 0, fun _ => 0⟩ }

theorem checkInodeBlocks_keeps_small : ClearsPastEnd { hugeFile with size := 512 } false
    eightBlocks :=
  (checkInodeBlocks_keeps_iff { hugeFile with size := 512 } false eightBlocks (by decide)).2.mpr
    (.inl (by decide))

theorem checkInodeBlocks_drops_huge : pointerAt eightBlocks.disk 8 hugeFile 0 = 5 ∧
    sizeBlocks hugeFile.size = 0x800000 ∧ ∃ sfi' changed t,
      (checkInodeBlocks hugeFile false).run eightBlocks = .ok (sfi', changed) t ∧
        pointerAt t.disk 8 sfi' 0 = 0 := by
  refine ⟨rfl, by decide, ?_⟩
  obtain ⟨sfi', changed, t, hrun, hvisits⟩ := checkInodeBlocks_visits hugeFile false eightBlocks
  exact ⟨sfi', changed, t, hrun, (hvisits 0 (by decide)).trans (if_neg (by decide))⟩

end Os161.Sfsck
