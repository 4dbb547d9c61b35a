import Mathlib.Data.List.GetD
import Mathlib.Data.List.Sort
import Mathlib.Data.List.TakeWhile
import Os161.Mksfs.Theorems
import Os161.Sfsck

namespace Os161.Sfsck

open Function Lib.Bitmap Lib.Exec List
open Mksfs (assert assert_run colon slash newSuper newRootdir emptyMap emptyVolume)
open Sfs Mksfs

section Steps

variable {s : Check}

lemma get_run : (get : Fsck Check).run s = .ok s s := rfl

@[simp] lemma diskread_run (block : Nat) : (diskread block).run s = .ok (s.disk block) s := rfl

@[simp] lemma sfsReadinode_run (ino : Nat) :
    (sfsReadinode ino).run s = .ok (Dinode.ofBlock (s.disk ino)) s := rfl

@[simp] lemma setbadness_run (code : Nat) :
    (setbadness code).run s = .ok () { s with badness := max s.badness code } := rfl

@[simp] lemma complainIf_false (code : Nat) : (complainIf false code).run s = .ok () s := rfl

variable {how : BlockUsage} {first count : Nat} {file : FileInfo}

lemma freemapBlockinuse_run (hused : marked s.freemapdata block = false)
    (hfreed : marked s.tofreedata block = false) :
    (freemapBlockinuse how block).run s = .ok () { s with
      freemapdata := mark s.freemapdata block
      blocksinuse := if how ≠ .pastend then s.blocksinuse + 1 else s.blocksinuse } := by
  simp [freemapBlockinuse, hused, hfreed]

lemma freemapBlockinuse_loop
    (hused : ∀ c, first ≤ c → c < first + count → marked s.freemapdata c = false)
    (hfreed : ∀ c, marked s.tofreedata c = false) :
    (loop (freemapBlockinuse how) first count).run s = .ok () { s with
      freemapdata := markRange s.freemapdata first count
      blocksinuse := if how ≠ .pastend then s.blocksinuse + count else s.blocksinuse } := by
  induction count generalizing first s with
  | zero =>
    simp only [loop_zero, markRange, Nat.add_zero, ite_self]
  | succ count ih =>
    have hfirst := hused first (Nat.le_refl _) (by omega)
    rw [loop_succ, bind_run_ok (freemapBlockinuse_run hfirst (hfreed first)), ih]
    · by_cases hhow : how = .pastend
      · simp only [hhow, ne_eq, not_true_eq_false, if_false, markRange]
      · simp only [hhow, ne_eq, not_false_eq_true, if_true, markRange, Nat.add_assoc,
          Nat.add_comm 1]
    · intro c hlo hhi
      show marked (mark s.freemapdata first) c = false
      rw [marked_mark, hused c (by omega) (by omega), decide_eq_false (by omega)]
      rfl
    · exact hfreed

lemma checkEntry_loop (hvol : 0 < file.volblocks) :
    (foldLoop (checkEntry file) first count ⟨fun _ => 0, ibs, changed⟩).run s =
      .ok ⟨fun _ => 0, { ibs with curfileblock := ibs.curfileblock + count }, changed⟩ s := by
  induction count generalizing first ibs with
  | zero => rfl
  | succ count ih =>
    have hentry : (checkEntry file first ⟨fun _ => 0, ibs, changed⟩).run s =
        .ok ⟨fun _ => 0, { ibs with curfileblock := ibs.curfileblock + 1 }, changed⟩ s := by
      simp [checkEntry, checkPointer, Nat.not_le.mpr hvol]
    rw [foldLoop_succ, bind_run_ok hentry, ih, Nat.add_assoc, Nat.add_comm 1]

lemma checkIndirectBlock_zero (hvol : 0 < file.volblocks) :
    (checkIndirectBlock file 0 ibs).run s =
      .ok (0, { ibs with curfileblock := ibs.curfileblock + SFS_DBPERIDB }) s := by
  simp [checkIndirectBlock, complainIf, Nat.not_le.mpr hvol]

lemma checkInodeBlocks_empty (hvol : 0 < s.sb.nblocks)
    (hdirect : sfi.direct = fun _ => 0) (hindirect : sfi.indirect = 0) :
    (checkInodeBlocks sfi isdir).run s = .ok (sfi, false) s := by
  obtain ⟨size, type, linkcount, direct, indirect, waste⟩ := sfi
  subst hdirect hindirect
  rw [checkInodeBlocks]
  show (foldLoop _ _ _ _ >>= _).run s = _
  rw [bind_run_ok (checkEntry_loop hvol), bind_run_ok (checkIndirectBlock_zero hvol)]
  rfl

lemma checknullstring_terminated
    (h : ∃ i < maxlen, buf i = 0) : checknullstring maxlen buf = (buf, false) := by
  obtain ⟨i, hi, hzero⟩ := h
  refine if_pos (any_eq_true.mpr ⟨i, mem_range.mpr hi, ?_⟩)
  exact decide_eq_true hzero

lemma checkbadstring_good
    (h : ∀ i < maxlen, isBad (buf i) = false) : checkbadstring maxlen buf = (buf, false) := by
  have hlen : (cstring maxlen buf).length ≤ maxlen := by
    have hle := (takeWhile_sublist (· ≠ 0) (l := (List.range maxlen).map buf)).length_le
    rwa [length_map, length_range] at hle
  refine Prod.ext (funext fun i => if_neg ?_) (any_eq_false.mpr ?_)
  · rintro ⟨hi, hbad⟩
    rw [h i (by omega)] at hbad
    cases hbad
  intro i hi
  rw [h i (Nat.lt_of_lt_of_le (mem_range.mp hi) hlen)]
  exact Bool.false_ne_true

lemma checkzeroed_zero : checkzeroed len (fun _ => 0) = (fun _ => 0, false) := by
  refine Prod.ext (funext fun i => ite_self _) (any_eq_false.mpr ?_)
  intro i _ hdirty
  exact of_decide_eq_true hdirty rfl

lemma sbCheck_clean (hnul : ∃ i < SFS_VOLNAME_SIZE, s.sb.volname i = 0)
    (hgood : ∀ i < SFS_VOLNAME_SIZE, isBad (s.sb.volname i) = false)
    (hzero : s.sb.reserved = fun _ => 0) : sbCheck.run s = .ok () s := by
  have hname := checknullstring_terminated hnul
  have hchars := checkbadstring_good hgood
  have hreserved : checkzeroed SB_RESERVED_SIZE s.sb.reserved = (s.sb.reserved, false) := by
    rw [hzero, checkzeroed_zero]
  simp [sbCheck, hname, hchars, hreserved]

lemma sbLoad_run (hsb : Superblock.ofBlock (s.disk SFS_SUPER_BLOCK) = sb)
    (hmagic : sb.magic = SFS_MAGIC) (hblocks : 0 < sb.nblocks) (hmax : sb.nblocks ≤ 131072) :
    sbLoad.run s = .ok () { s with sb := sb } := by
  have hmap := freemapblocks_pos hblocks hmax
  rw [sbLoad, bind_run_ok (diskread_run _), hsb]
  simp [hmagic, hblocks, hmap]

def setupMap (n : Nat) : Nat → UInt8 :=
  markRange (mark (markRange (fun _ => 0) n (freemapblocks n * SFS_BITSPERBLOCK - n))
    SFS_SUPER_BLOCK) SFS_FREEMAP_START (freemapblocks n)

lemma freemapSetup_run (hn : 3 ≤ n) (hsb : s.sb.nblocks = n) :
    freemapSetup.run s = .ok () { s with
      freemapdata := setupMap n, tofreedata := fun _ => 0
      blocksinuse := s.blocksinuse + 1 + freemapblocks n } := by
  have hinside := freemap_inside hn
  have hzero : ∀ c, marked (fun _ => 0) c = false := fun _ => marked_zero
  have hpast : ∀ c < n, marked (markRange (fun _ => 0) n (freemapblocks n * SFS_BITSPERBLOCK - n))
      c = false := by
    intro c hc
    rw [marked_markRange, hzero, decide_eq_false (fun h => by omega)]
    rfl
  have hmap : ∀ c, SFS_FREEMAP_START ≤ c → c < SFS_FREEMAP_START + freemapblocks n →
      marked (mark (markRange (fun _ => 0) n (freemapblocks n * SFS_BITSPERBLOCK - n))
        SFS_SUPER_BLOCK) c = false := by
    intro c hlo hhi
    have hsuper : c ≠ SFS_SUPER_BLOCK := Nat.ne_of_gt (Nat.lt_of_lt_of_le (by decide) hlo)
    rw [marked_mark, hpast c (by omega), decide_eq_false hsuper]
    rfl
  rw [freemapSetup]
  show (loop (freemapBlockinuse .pastend) s.sb.nblocks
    (freemapblocks s.sb.nblocks * SFS_BITSPERBLOCK - s.sb.nblocks) >>= _).run
    { s with freemapdata := fun _ => 0, tofreedata := fun _ => 0 } = _
  rw [hsb, bind_run_ok (freemapBlockinuse_loop (s := { s with
    freemapdata := fun _ => 0, tofreedata := fun _ => 0 }) (fun c _ _ => hzero c) hzero),
    bind_run_ok (freemapBlockinuse_run ?_ ?_), freemapBlockinuse_loop ?_ ?_]
  · rfl
  · exact hmap
  · exact hzero
  · exact hpast _ (Nat.lt_of_lt_of_le (by decide) hn)
  · exact hzero _

lemma newRootdir_read : Dinode.ofBlock newRootdir.toBlock = newRootdir := by
  have hword : ∀ k, wordAt newRootdir.toBlock k = if k = 1 then 0x20001 else 0 := by
    intro k
    have hvalue : (if k = 0 then newRootdir.size
        else if k = 1 then newRootdir.type * 0x10000 + newRootdir.linkcount
        else if k < 17 then newRootdir.direct (k - 2)
        else if k = 17 then newRootdir.indirect
        else newRootdir.waste (k - 18)) = if k = 1 then 0x20001 else 0 := by
      by_cases hone : k = 1
      · subst hone
        rfl
      · rw [if_neg hone, if_neg hone]
        split <;> [rfl; (split <;> [rfl; (split <;> rfl)])]
    rw [Dinode.toBlock, wordAt_ofWords]
    · exact hvalue
    · rw [hvalue]
      split <;> decide
  have hdirect : ∀ i, ¬ 2 + i = 1 := fun i => by omega
  have hwaste : ∀ i, ¬ 18 + i = 1 := fun i => by omega
  rw [Dinode.ofBlock]
  simp only [hword, hdirect, hwaste, if_false]
  rfl

lemma inodeAdd_first (hnew : s.inodes = []) :
    (inodeAdd ino type).run s =
      .ok false { s with inodes := [⟨ino, 0, false, type⟩], inodesSorted := false } := by
  simp [inodeAdd, hnew]

lemma pass1Inode_empty (hvol : 0 < s.sb.nblocks) (hnew : s.inodes = [])
    (hused : marked s.freemapdata ino = false) (hfreed : marked s.tofreedata ino = false) :
    (pass1Inode ino newRootdir false).run s = .ok (false, newRootdir) { s with
      inodes := [⟨ino, 0, false, SFS_TYPE_DIR⟩], inodesSorted := false
      freemapdata := mark s.freemapdata ino, blocksinuse := s.blocksinuse + 1 } := by
  have hclean : ((List.range SFI_WASTE_WORDS).any fun i => newRootdir.waste i ≠ 0) = false := by
    rw [any_eq_false]
    intro i _ hdirty
    exact of_decide_eq_true hdirty rfl
  rw [pass1Inode, bind_run_ok (inodeAdd_first hnew)]
  show (freemapBlockinuse .inode ino >>= _).run _ = _
  rw [bind_run_ok (freemapBlockinuse_run (s := { s with
    inodes := [⟨ino, 0, false, newRootdir.type⟩], inodesSorted := false }) hused hfreed), hclean,
    bind_run_ok (complainIf_false _), bind_run_ok (checkInodeBlocks_empty ?_ ?_ ?_)]
  · rfl
  · exact hvol
  · rfl
  · rfl

lemma pass1Dir_empty (hroot : s.disk ino = newRootdir.toBlock)
    (hvol : 0 < s.sb.nblocks) (hnew : s.inodes = []) (hused : marked s.freemapdata ino = false)
    (hfreed : marked s.tofreedata ino = false) :
    (pass1Dir (depth + 1) ino).run s = .ok () { s with
      countDirs := s.countDirs + 1, inodes := [⟨ino, 0, false, SFS_TYPE_DIR⟩], inodesSorted := false
      freemapdata := mark s.freemapdata ino, blocksinuse := s.blocksinuse + 1 } := by
  have hread := newRootdir_read
  rw [pass1Dir, bind_run_ok (sfsReadinode_run ino), hroot, hread]
  show (pass1Inode ino newRootdir false >>= _).run { s with countDirs := s.countDirs + 1 } = _
  rw [bind_run_ok (pass1Inode_empty (s := { s with countDirs := s.countDirs + 1 }) hvol hnew
    hused hfreed)]
  rfl

lemma pass1_empty (hroot : s.disk SFS_ROOTDIR_INO = newRootdir.toBlock)
    (hvol : 0 < s.sb.nblocks) (hnew : s.inodes = [])
    (hused : marked s.freemapdata SFS_ROOTDIR_INO = false)
    (hfreed : marked s.tofreedata SFS_ROOTDIR_INO = false) : pass1.run s = .ok () { s with
      countDirs := s.countDirs + 1, inodes := [⟨SFS_ROOTDIR_INO, 0, false, SFS_TYPE_DIR⟩]
      inodesSorted := false, freemapdata := mark s.freemapdata SFS_ROOTDIR_INO
      blocksinuse := s.blocksinuse + 1 } := by
  have hfix : fixRootType.run s = .ok () s := by
    rw [fixRootType, bind_run_ok (sfsReadinode_run _), hroot, newRootdir_read]
    rfl
  rw [pass1, bind_run_ok hfix, bind_run_ok get_run]
  exact pass1Dir_empty hroot hvol hnew hused hfreed

lemma freemapCheck_clean
    (hsame : ∀ i < freemapblocks s.sb.nblocks, ∀ j < SFS_BLOCKSIZE,
      s.disk (SFS_FREEMAP_START + i) j = s.freemapdata (i * SFS_BLOCKSIZE + j))
    (hfreed : s.tofreedata = fun _ => 0) : freemapCheck.run s = .ok () s := by
  have hblock : ∀ i, 0 ≤ i → i < 0 + freemapblocks s.sb.nblocks →
      (freemapBlock i (0, 0)).run s = .ok (0, 0) s := by
    intro i _ hi
    have hbyte : ∀ j, 0 ≤ j → j < 0 + SFS_BLOCKSIZE →
        (freemapByte i j ⟨s.disk (SFS_FREEMAP_START + i), false, 0, 0⟩).run s =
          .ok ⟨s.disk (SFS_FREEMAP_START + i), false, 0, 0⟩ s := by
      intro j _ hj
      have hequal := hsame i (by omega) j (by omega)
      simp [freemapByte, hfreed, hequal]
    rw [freemapBlock, bind_run_ok (diskread_run _), bind_run_ok (foldLoop_skip 0 _ hbyte)]
    rfl
  rw [freemapCheck]
  show (foldLoop _ _ _ _ >>= _).run s = _
  rw [bind_run_ok (foldLoop_skip 0 _ hblock)]
  rfl

lemma inodeSorttable_one (hone : s.inodes = [inf]) :
    (inodeSorttable q).run s = .ok () { s with inodesSorted := true } := by
  have hsort : q.sort inodeCompare s.inodes = s.inodes := by
    rw [hone]
    exact perm_singleton.mp (q.perm ..)
  show EStateM.Result.ok () { s with
    inodes := q.sort inodeCompare s.inodes, inodesSorted := true } = _
  rw [hsort]

lemma inodeVisitdir_one (hsorted : s.inodesSorted = true)
    (hone : s.inodes = [⟨ino, 0, false, SFS_TYPE_DIR⟩]) :
    (inodeVisitdir ino).run s = .ok false { s with inodes := [⟨ino, 0, true, SFS_TYPE_DIR⟩] } := by
  have hfind : findIndex [⟨ino, 0, false, SFS_TYPE_DIR⟩] ino 0 1 = some 0 := by
    rw [findIndex]
    simp
  simp [inodeVisitdir, inodeFind, setInode, hsorted, hone, hfind]

def fixedRootdir : Dinode := { newRootdir with linkcount := 2 }

lemma pass2Dir_empty (hroot : s.disk ino = newRootdir.toBlock) (hsorted : s.inodesSorted = true)
    (hone : s.inodes = [⟨ino, 0, false, SFS_TYPE_DIR⟩]) :
    (pass2Dir q (depth + 1) ino parentino).run s = .ok false { s with
      inodes := [⟨ino, 0, true, SFS_TYPE_DIR⟩]
      badness := max (max (max s.badness EXIT_UNRECOV) EXIT_UNRECOV) EXIT_RECOV
      disk := update s.disk ino fixedRootdir.toBlock } := by
  rw [pass2Dir, bind_run_ok (inodeVisitdir_one hsorted hone)]
  show (sfsReadinode ino >>= _).run _ = _
  rw [bind_run_ok (sfsReadinode_run ino), hroot, newRootdir_read]
  rfl

lemma pass2_empty (hroot : s.disk SFS_ROOTDIR_INO = newRootdir.toBlock)
    (hsorted : s.inodesSorted = true)
    (hone : s.inodes = [⟨SFS_ROOTDIR_INO, 0, false, SFS_TYPE_DIR⟩]) :
    (pass2 q).run s = .ok () { s with
      inodes := [⟨SFS_ROOTDIR_INO, 0, true, SFS_TYPE_DIR⟩]
      badness := max (max (max s.badness EXIT_UNRECOV) EXIT_UNRECOV) EXIT_RECOV
      disk := update s.disk SFS_ROOTDIR_INO fixedRootdir.toBlock } := by
  rw [pass2, bind_run_ok get_run, bind_run_ok (pass2Dir_empty hroot hsorted hone)]
  rfl

lemma inodeAdjustFilelinks_dir (hone : s.inodes = [inf])
    (hdir : inf.type = SFS_TYPE_DIR) : inodeAdjustFilelinks.run s = .ok () s := by
  simp [inodeAdjustFilelinks, hone, adjustFilelink, hdir]

end Steps

section Fresh

variable {n : Nat} {volname name : List UInt8} {disk : Nat → Block}

lemma setupMap_root (n : Nat) : mark (setupMap n) SFS_ROOTDIR_INO = emptyMap n := by
  refine ext fun c => ?_
  have hbits : freemapblocks n * SFS_BITSPERBLOCK = freemapbits n := freemapbits_eq.symm
  rw [setupMap, emptyMap, marked_mark, marked_markRange, marked_mark, marked_markRange, hbits,
    marked_markRange, marked_markRange, marked_mark, marked_mark]
  ac_rfl

lemma setupMap_free (hn : 3 ≤ n) : marked (setupMap n) SFS_ROOTDIR_INO = false := by
  have hroot : ¬ n ≤ SFS_ROOTDIR_INO := by
    unfold SFS_ROOTDIR_INO
    omega
  have hmap : ¬ SFS_FREEMAP_START ≤ SFS_ROOTDIR_INO := by decide
  rw [setupMap, marked_markRange, marked_mark, marked_markRange, marked_zero,
    decide_eq_false (fun h => hmap h.1),
    decide_eq_false (fun h : n ≤ SFS_ROOTDIR_INO ∧ _ => hroot h.1)]
  rfl

lemma volumeName_good (hname : Mksfs.volumeName volname = .ok name) :
    ∀ c ∈ name, isBad c = false := by
  unfold volumeName at hname
  dsimp only at hname
  split at hname
  · cases hname
  split at hname
  · cases hname
  rename_i hslash
  obtain rfl := Except.ok.inj hname
  intro c hc
  have hcolon : c ≠ colon := by simpa using mem_takeWhile_imp hc
  have hne : c ≠ slash := fun h => hslash (h ▸ hc)
  simp [isBad, hcolon, hne]

def freshSuper (name : List UInt8) (n : Nat) : Superblock :=
  Superblock.ofBlock (newSuper name n).toBlock

lemma freshSuper_volname (hi : i < SFS_VOLNAME_SIZE) :
    (freshSuper name n).volname i = name.getD i 0 := by
  have hfirst : ¬ 8 + i < 8 := by omega
  have hlast : 8 + i < 40 := Nat.add_lt_add_left hi 8
  show (newSuper name n).toBlock (8 + i) = _
  rw [Superblock.toBlock, if_neg hfirst, if_pos hlast, Nat.add_sub_cancel_left]
  rfl

lemma freshSuper_reserved : (freshSuper name n).reserved = fun _ => 0 := by
  funext i
  have hfirst : ¬ 40 + i < 8 := by omega
  have hlast : ¬ 40 + i < 40 := by omega
  show (newSuper name n).toBlock (40 + i) = _
  rw [Superblock.toBlock, if_neg hfirst, if_neg hlast]
  rfl

-- The states of the checker on an empty volume: with the superblock read, with its freemap set
-- up, after each pass.
def afterLoad (n : Nat) (name : List UInt8) (disk : Nat → Block) : Check :=
  { Check.start disk with sb := freshSuper name n }

def afterSetup (n : Nat) (name : List UInt8) (disk : Nat → Block) : Check :=
  { afterLoad n name disk with
    freemapdata := setupMap n
    tofreedata := fun _ => 0
    blocksinuse := 0 + 1 + freemapblocks n }

def afterPass1 (n : Nat) (name : List UInt8) (disk : Nat → Block) : Check :=
  { afterSetup n name disk with
    freemapdata := emptyMap n
    blocksinuse := 0 + 1 + freemapblocks n + 1
    inodes := [⟨SFS_ROOTDIR_INO, 0, false, SFS_TYPE_DIR⟩]
    countDirs := 0 + 1 }

def afterPass2 (n : Nat) (name : List UInt8) (disk : Nat → Block) : Check :=
  { afterPass1 n name disk with
    inodes := [⟨SFS_ROOTDIR_INO, 0, true, SFS_TYPE_DIR⟩]
    inodesSorted := true
    badness := EXIT_UNRECOV
    disk := update disk SFS_ROOTDIR_INO fixedRootdir.toBlock }

lemma afterPass2_root :
    (afterPass2 n name disk).disk SFS_ROOTDIR_INO = fixedRootdir.toBlock := by
  have hdisk : (afterPass2 n name disk).disk =
      update disk SFS_ROOTDIR_INO fixedRootdir.toBlock := rfl
  rw [hdisk, update_self]

lemma freshSuper_words (hmax : n ≤ 131072) :
    (freshSuper name n).magic = SFS_MAGIC ∧ (freshSuper name n).nblocks = n :=
  super_words (show SFS_MAGIC < 0x100000000 by decide) (show n < 0x100000000 by omega)

lemma freshSuper_pos (hn : 3 ≤ n) (hmax : n ≤ 131072) : 0 < (freshSuper name n).nblocks := by
  rw [(freshSuper_words hmax).2]
  omega

lemma sbLoad_fresh (hn : 3 ≤ n) (hmax : n ≤ 131072) :
    sbLoad.run (Check.start (emptyVolume n name disk)) =
      .ok () (afterLoad n name (emptyVolume n name disk)) := by
  have hsb : Superblock.ofBlock (emptyVolume n name disk SFS_SUPER_BLOCK) = freshSuper name n := by
    rw [emptyVolume_super]
    rfl
  exact sbLoad_run (s := Check.start (emptyVolume n name disk)) hsb (freshSuper_words hmax).1
    (freshSuper_pos hn hmax) ((freshSuper_words hmax).2.symm ▸ hmax)

lemma sbCheck_fresh (hname : Mksfs.volumeName volname = .ok name)
    (hlen : name.length < SFS_VOLNAME_SIZE) :
    sbCheck.run (afterLoad n name disk) = .ok () (afterLoad n name disk) := by
  refine sbCheck_clean (s := afterLoad n name disk) ⟨name.length, hlen, ?_⟩ (fun i hi => ?_)
    freshSuper_reserved
  · exact (freshSuper_volname hlen).trans (getD_eq_default _ _ (Nat.le_refl _))
  refine (congrArg isBad (freshSuper_volname hi)).trans ?_
  by_cases hlong : i < name.length
  · rw [getD_eq_getElem _ _ hlong]
    exact volumeName_good hname _ (getElem_mem hlong)
  · rw [getD_eq_default _ _ (by omega)]
    decide

lemma pass1_fresh (hn : 3 ≤ n) (hmax : n ≤ 131072) :
    pass1.run (afterSetup n name (emptyVolume n name disk)) =
      .ok () (afterPass1 n name (emptyVolume n name disk)) := by
  have hrun := pass1_empty (s := afterSetup n name (emptyVolume n name disk))
    (@emptyVolume_root n name disk) (freshSuper_pos hn hmax) rfl (setupMap_free hn)
    marked_zero
  rw [hrun, afterPass1, ← setupMap_root n]
  rfl

lemma freemapCheck_fresh (hmax : n ≤ 131072) :
    freemapCheck.run (afterPass1 n name (emptyVolume n name disk)) =
      .ok () (afterPass1 n name (emptyVolume n name disk)) := by
  refine freemapCheck_clean (s := afterPass1 n name (emptyVolume n name disk)) ?_ rfl
  intro i hi j _
  have hblocks : (afterPass1 n name (emptyVolume n name disk)).sb.nblocks = n :=
    (freshSuper_words hmax).2
  rw [hblocks] at hi
  exact congrFun (emptyVolume_freemap hi) j

-- For any empty volume: the missing `.` and `..` are errors that cannot be repaired, and the root
-- inode is rewritten for its link count.
lemma main_run (q : Qsort) (hn : 3 ≤ n) (hmax : n ≤ 131072)
    (hname : Mksfs.volumeName volname = .ok name) (hlen : name.length < SFS_VOLNAME_SIZE) :
    (main q).run (Check.start (emptyVolume n name disk)) =
      .ok EXIT_UNRECOV (afterPass2 n name (emptyVolume n name disk)) := by
  have hsetup : freemapSetup.run (afterLoad n name (emptyVolume n name disk)) =
      .ok () (afterSetup n name (emptyVolume n name disk)) :=
    freemapSetup_run (s := afterLoad n name (emptyVolume n name disk)) hn (freshSuper_words hmax).2
  have hsort : (inodeSorttable q).run (afterPass1 n name (emptyVolume n name disk)) = .ok ()
      { afterPass1 n name (emptyVolume n name disk) with inodesSorted := true } :=
    inodeSorttable_one (s := afterPass1 n name (emptyVolume n name disk)) rfl
  have hpass2 : (pass2 q).run
      { afterPass1 n name (emptyVolume n name disk) with inodesSorted := true } =
        .ok () (afterPass2 n name (emptyVolume n name disk)) :=
    pass2_empty (s := { afterPass1 n name (emptyVolume n name disk) with inodesSorted := true })
      (@emptyVolume_root n name disk) rfl rfl
  have hadjust : inodeAdjustFilelinks.run (afterPass2 n name (emptyVolume n name disk)) =
      .ok () (afterPass2 n name (emptyVolume n name disk)) :=
    inodeAdjustFilelinks_dir (s := afterPass2 n name (emptyVolume n name disk)) rfl rfl
  rw [main, bind_run_ok (sbLoad_fresh hn hmax), bind_run_ok (sbCheck_fresh hname hlen),
    bind_run_ok hsetup, bind_run_ok (pass1_fresh hn hmax), bind_run_ok (freemapCheck_fresh hmax),
    bind_run_ok hsort, bind_run_ok hpass2, bind_run_ok hadjust]
  rfl

def ChecksClean (q : Qsort) (disk : Nat → Block) : Prop :=
  ∃ s, (main q).run (Check.start disk) = .ok EXIT_CLEAN s ∧ SameBlocks disk s.disk

def ToolsAgree (q : Qsort) (n : Nat) (volname : List UInt8) (disk : Nat → Block) : Prop :=
  ∃ m, (Mksfs.main volname n).run (Mksfs.Maker.start disk) = .ok () m ∧
    Mksfs.FreemapExact n m.disk ∧ Mksfs.Mounts n m.disk ∧ ChecksClean q m.disk

theorem tools_never_agree (q : Qsort) {n : Nat} {volname : List UInt8} (disk : Nat → Block)
    (hn : 3 ≤ n) (hmax : n ≤ 131072) (hlegal : Mksfs.LegalName volname) :
    (∃ m, (Mksfs.main volname n).run (Mksfs.Maker.start disk) = .ok () m ∧
      Mksfs.FreemapExact n m.disk ∧ Mksfs.Mounts n m.disk) ∧ ¬ ToolsAgree q n volname disk := by
  obtain ⟨-, name, hname, hlen⟩ := hlegal
  have hmade := @Mksfs.main_run n volname name disk hn hmax hname hlen
  refine ⟨⟨_, hmade, emptyVolume_freemapExact hmax, emptyVolume_mounts hn hmax⟩, ?_⟩
  rintro ⟨m, hmake, -, -, s, hcheck, -⟩
  rw [hmade] at hmake
  obtain rfl := (EStateM.Result.ok.inj hmake).2
  rw [main_run q hn hmax hname hlen] at hcheck
  have hcode : EXIT_UNRECOV = EXIT_CLEAN := (EStateM.Result.ok.inj hcheck).1
  exact absurd hcode (by decide)

def insertionQsort : Qsort where
  sort compare l := l.insertionSort fun a b => compare a b ≤ 0
  perm _ l := List.perm_insertionSort _ l

def volumeV : List UInt8 := [86, colon]

lemma volumeV_legal : Mksfs.LegalName volumeV := ⟨by decide, [86], rfl, by decide⟩

theorem tools_never_agree_three :
    (∃ m, (Mksfs.main volumeV 3).run (Mksfs.Maker.start fun _ => zeroBlock) = .ok () m ∧
      Mksfs.FreemapExact 3 m.disk ∧ Mksfs.Mounts 3 m.disk) ∧
      ¬ ToolsAgree insertionQsort 3 volumeV fun _ => zeroBlock :=
  tools_never_agree insertionQsort (fun _ => zeroBlock) (by decide) (by decide) volumeV_legal

theorem checker_rejects_new_volume :
    ∃ m s, (Mksfs.main volumeV 3).run (Mksfs.Maker.start fun _ => zeroBlock) = .ok () m ∧
      (main insertionQsort).run (Check.start m.disk) = .ok EXIT_UNRECOV s ∧
      m.disk SFS_ROOTDIR_INO 7 = 1 ∧ s.disk SFS_ROOTDIR_INO 7 = 2 := by
  have hname : volumeName volumeV = .ok [86] := rfl
  refine ⟨_, _, Mksfs.main_run (by decide) (by decide) hname (by decide),
    main_run insertionQsort (by decide) (by decide) hname (by decide), ?_, ?_⟩
  · exact congrFun (@emptyVolume_root 3 [86] fun _ => zeroBlock) 7
  · exact congrFun afterPass2_root 7

end Fresh

end Os161.Sfsck
