import Os161.Mksfs
import Os161.Sfs.Lemmas
import Os161.Sfs.Mount

namespace Os161.Mksfs

open Function Lib.Bitmap Lib.Exec Lib.Bytes
open Sfs

section Sizes

variable {n : Nat}

lemma freemapblocks_eq : freemapblocks n = (n + 4095) % 0x100000000 / 4096 :=
  Nat.mul_div_cancel _ (by decide)

lemma freemapbits_eq : freemapbits n = freemapblocks n * 4096 := by
  rw [freemapblocks_eq]
  rfl

lemma freemapblocks_pos (hn : 0 < n) (hmax : n ≤ 131072) : 0 < freemapblocks n := by
  rw [freemapblocks_eq]
  omega

lemma freemapbits_ge (hmax : n ≤ 131072) : n ≤ freemapbits n := by
  rw [freemapbits_eq, freemapblocks_eq]
  omega

lemma freemap_inside (hn : 3 ≤ n) : SFS_FREEMAP_START + freemapblocks n ≤ n := by
  rw [freemapblocks_eq]
  show 2 + _ ≤ n
  omega

lemma freemapblocks_le (hn : n ≤ 131072) : freemapblocks n ≤ MAXFREEMAPBLOCKS := by
  rw [freemapblocks_eq]
  show _ ≤ 32
  omega

end Sizes

section Image

variable {n : Nat} {volname name : List UInt8} {disk : Nat → Block}

def emptyMap (n : Nat) : Nat → UInt8 :=
  markRange (markRange (mark (mark (fun _ => 0) SFS_SUPER_BLOCK) SFS_ROOTDIR_INO)
    SFS_FREEMAP_START (freemapblocks n)) n (freemapbits n - n)

def putFreemap (buf : Nat → UInt8) (disk : Nat → Block) (first count : Nat) : Nat → Block :=
  fun b =>
    if SFS_FREEMAP_START + first ≤ b ∧ b < SFS_FREEMAP_START + first + count then
      fun k => buf ((b - SFS_FREEMAP_START) * SFS_BLOCKSIZE + k)
    else disk b

def emptyVolume (n : Nat) (name : List UInt8) (disk : Nat → Block) : Nat → Block :=
  update (putFreemap (emptyMap n)
    (update disk SFS_SUPER_BLOCK (newSuper name n).toBlock) 0 (freemapblocks n))
    SFS_ROOTDIR_INO newRootdir.toBlock

variable {c first count : Nat} {s : Maker} {sb : Superblock} {freemap : Nat → UInt8} {dev : Device}

lemma marked_emptyMap (hmax : n ≤ 131072) : marked (emptyMap n) c = true ↔
    c = SFS_SUPER_BLOCK ∨ c = SFS_ROOTDIR_INO ∨
      SFS_FREEMAP_START ≤ c ∧ c < SFS_FREEMAP_START + freemapblocks n ∨
      n ≤ c ∧ c < freemapbits n := by
  have hbits := freemapbits_ge hmax
  rw [emptyMap, marked_markRange, marked_markRange, marked_mark, marked_mark, marked_zero]
  simp only [Bool.or_eq_true, decide_eq_true_eq, Bool.or_false]
  rw [Nat.add_sub_cancel' hbits]
  tauto

lemma allocblock_run (hfree : marked s.freemapbuf block = false) :
    (allocblock block).run s = .ok () { s with freemapbuf := mark s.freemapbuf block } := by
  simp [allocblock, hfree]

lemma allocblock_loop
    (hfree : ∀ c, first ≤ c → c < first + count → marked s.freemapbuf c = false) :
    (loop allocblock first count).run s =
      .ok () { s with freemapbuf := markRange s.freemapbuf first count } := by
  induction count generalizing first s with
  | zero => rfl
  | succ count ih =>
    rw [loop_succ, bind_run_ok (allocblock_run (hfree first (Nat.le_refl _) (by omega)))]
    refine ih fun c hlo hhi => ?_
    rw [marked_mark, hfree c (by omega) (by omega), decide_eq_false (by omega)]
    rfl

lemma unmarked_from (hc : 2 ≤ c) :
    marked (mark (mark (fun _ => 0) SFS_SUPER_BLOCK) SFS_ROOTDIR_INO) c = false := by
  have hroot : c ≠ SFS_ROOTDIR_INO := by
    unfold SFS_ROOTDIR_INO
    omega
  have hsuper : c ≠ SFS_SUPER_BLOCK := by
    unfold SFS_SUPER_BLOCK
    omega
  rw [marked_mark, marked_mark, marked_zero, decide_eq_false hroot, decide_eq_false hsuper]
  rfl

lemma initfreemap_run (hn : 3 ≤ n) (hmax : n ≤ 131072) :
    (initfreemap n).run (Maker.start disk) = .ok () ⟨emptyMap n, disk⟩ := by
  have hsuper : (allocblock SFS_SUPER_BLOCK).run (Maker.start disk) =
      .ok () ⟨mark (fun _ => 0) SFS_SUPER_BLOCK, disk⟩ :=
    allocblock_run (s := Maker.start disk) marked_zero
  have hunmarked : marked (mark (fun _ => 0) SFS_SUPER_BLOCK) SFS_ROOTDIR_INO = false := by
    rw [marked_mark, marked_zero]
    rfl
  have hroot : (allocblock SFS_ROOTDIR_INO).run ⟨mark (fun _ => 0) SFS_SUPER_BLOCK, disk⟩ =
      .ok () ⟨mark (mark (fun _ => 0) SFS_SUPER_BLOCK) SFS_ROOTDIR_INO, disk⟩ :=
    allocblock_run (s := ⟨mark (fun _ => 0) SFS_SUPER_BLOCK, disk⟩) hunmarked
  rw [initfreemap, if_neg (Nat.not_lt.mpr (freemapblocks_le hmax)), bind_run_ok hsuper,
    bind_run_ok hroot, bind_run_ok (allocblock_loop ?_), allocblock_loop ?_]
  · rfl
  · intro c hlo _
    have hinside := freemap_inside hn
    rw [marked_markRange, decide_eq_false (show ¬ (SFS_FREEMAP_START ≤ c ∧ c < _) by omega)]
    exact unmarked_from (by omega)
  · intro c hlo _
    exact unmarked_from hlo

lemma putFreemap_succ :
    putFreemap buf (update disk (SFS_FREEMAP_START + first)
      (fun k => buf (first * SFS_BLOCKSIZE + k))) (first + 1) count =
      putFreemap buf disk first (count + 1) := by
  funext b
  unfold putFreemap
  by_cases hb : b = SFS_FREEMAP_START + first
  · subst hb
    rw [if_neg (by omega), if_pos (by omega), update_self, Nat.add_sub_cancel_left]
  rw [update_of_ne hb]
  by_cases hlater : SFS_FREEMAP_START + (first + 1) ≤ b ∧
      b < SFS_FREEMAP_START + (first + 1) + count
  · rw [if_pos hlater, if_pos (by omega)]
  · rw [if_neg hlater, if_neg (by omega)]

lemma writefreemap_loop (first count : Nat) :
    (loop (fun i => do
      let s ← get
      diskwrite (fun k => s.freemapbuf (i * SFS_BLOCKSIZE + k)) (SFS_FREEMAP_START + i))
      first count).run s =
        .ok () { s with disk := putFreemap s.freemapbuf s.disk first count } := by
  induction count generalizing first s with
  | zero =>
    have hnone : putFreemap s.freemapbuf s.disk first 0 = s.disk := by
      funext b
      exact if_neg (by omega)
    rw [hnone]
    rfl
  | succ count ih =>
    rw [loop_succ]
    refine (ih (first + 1)).trans ?_
    show EStateM.Result.ok () (Maker.mk s.freemapbuf (putFreemap s.freemapbuf _ _ _)) = _
    rw [putFreemap_succ]

lemma main_run (hn : 3 ≤ n) (hmax : n ≤ 131072) (hname : volumeName volname = .ok name)
    (hlen : name.length < SFS_VOLNAME_SIZE) :
    (main volname n).run (Maker.start disk) = .ok () ⟨emptyMap n, emptyVolume n name disk⟩ := by
  rw [main, hname]
  show (initfreemap n >>= _).run _ = _
  rw [bind_run_ok (initfreemap_run hn hmax), writesuper, if_neg (by omega)]
  show (writefreemap n >>= _).run _ = _
  rw [writefreemap, bind_run_ok (writefreemap_loop 0 _)]
  rfl

lemma emptyVolume_super :
    emptyVolume n name disk SFS_SUPER_BLOCK = (newSuper name n).toBlock := by
  rw [emptyVolume, update_of_ne (by decide), putFreemap, if_neg (fun h => absurd h.1 (by decide)),
    update_self]

lemma emptyVolume_root : emptyVolume n name disk SFS_ROOTDIR_INO = newRootdir.toBlock :=
  update_self ..

lemma emptyVolume_freemap (hi : i < freemapblocks n) :
    emptyVolume n name disk (SFS_FREEMAP_START + i) =
      fun k => emptyMap n (i * SFS_BLOCKSIZE + k) := by
  have hne : SFS_FREEMAP_START + i ≠ SFS_ROOTDIR_INO := by
    show 2 + i ≠ 1
    omega
  rw [emptyVolume, update_of_ne hne, putFreemap, if_pos (by omega), Nat.add_sub_cancel_left]

def freemapOn (disk : Nat → Block) : Nat → UInt8 :=
  fun i => disk (SFS_FREEMAP_START + i / SFS_BLOCKSIZE) (i % SFS_BLOCKSIZE)

def FreemapExact (n : Nat) (disk : Nat → Block) : Prop :=
  ∀ c < freemapbits n, marked (freemapOn disk) c = true ↔
    c = SFS_SUPER_BLOCK ∨ c = SFS_ROOTDIR_INO ∨
      SFS_FREEMAP_START ≤ c ∧ c < SFS_FREEMAP_START + freemapblocks n ∨ n ≤ c

lemma freemapOn_emptyVolume (hc : c < freemapbits n) :
    marked (freemapOn (emptyVolume n name disk)) c = marked (emptyMap n) c := by
  rw [freemapbits_eq] at hc
  have hblock : c / 8 / 512 < freemapblocks n := by omega
  have hbyte : freemapOn (emptyVolume n name disk) (c / 8) = emptyMap n (c / 8) := by
    rw [freemapOn, SFS_BLOCKSIZE, emptyVolume_freemap hblock]
    exact congrArg (emptyMap n) (show c / 8 / 512 * 512 + c / 8 % 512 = c / 8 by omega)
  unfold marked
  rw [hbyte]

lemma emptyVolume_freemapExact (hmax : n ≤ 131072) :
    FreemapExact n (emptyVolume n name disk) := by
  intro c hc
  rw [freemapOn_emptyVolume hc, marked_emptyMap hmax]
  tauto

lemma super_words (hmagic : sb.magic < 0x100000000)
    (hblocks : sb.nblocks < 0x100000000) :
    (Superblock.ofBlock sb.toBlock).magic = sb.magic ∧
      (Superblock.ofBlock sb.toBlock).nblocks = sb.nblocks := by
  have hword : ∀ k < 2, wordAt sb.toBlock k =
      wordAt (ofWords fun k => if k = 0 then sb.magic else sb.nblocks) k := by
    intro k hk
    unfold wordAt Superblock.toBlock
    rw [if_pos (by omega), if_pos (by omega), if_pos (by omega), if_pos (by omega)]
  constructor
  · exact (hword 0 (by decide)).trans (wordAt_ofWords hmagic)
  · exact (hword 1 (by decide)).trans (wordAt_ofWords hblocks)

lemma emptyVolume_sb (hmax : n ≤ 131072) :
    (Superblock.ofBlock (emptyVolume n name disk SFS_SUPER_BLOCK)).magic = SFS_MAGIC ∧
      (Superblock.ofBlock (emptyVolume n name disk SFS_SUPER_BLOCK)).nblocks = n := by
  rw [emptyVolume_super]
  exact super_words (show SFS_MAGIC < 0x100000000 by decide) (show n < 0x100000000 by omega)

def wholeDevice (n : Nat) (disk : Nat → Block) : Device := ⟨SFS_BLOCKSIZE, n, disk, fun _ => false⟩

def Mounts (n : Nat) (disk : Nat → Block) : Prop :=
  ∃ m, sfsDomount (true, true) (wholeDevice n disk) = .ok (.ok m)

lemma readblock_inside (hb : b < n) :
    (wholeDevice n disk).readblock b = .ok (.ok (disk b)) := by
  have hrange : ¬ (wholeDevice n disk).blocks ≤ b := Nat.not_le.mpr hb
  rw [Device.readblock, if_neg hrange]
  rfl

lemma sfsFreemapio_inside (hinside : SFS_FREEMAP_START + j + count ≤ n) :
    ∃ freemap', sfsFreemapio (wholeDevice n disk) freemap j count = .ok (.ok freemap') := by
  induction count generalizing freemap j with
  | zero => exact ⟨freemap, rfl⟩
  | succ count ih =>
    rw [sfsFreemapio, readblock_inside (show SFS_FREEMAP_START + j < n by omega)]
    exact ih (by omega)

lemma mountVolume_accepts
    (hmagic : sb.magic = SFS_MAGIC) (hblocks : sb.nblocks = n)
    (hread : sfsFreemapio dev (fun _ => 0) 0 (freemapblocks n) = .ok (.ok freemap)) :
    ∃ m, mountVolume true dev sb = .ok (.ok m) := by
  rw [mountVolume, if_neg (not_not.mpr hmagic), if_neg (by decide), hblocks, hread]
  exact ⟨_, rfl⟩

lemma sfsDomount_reads (hsize : dev.blocksize = SFS_BLOCKSIZE)
    (hread : dev.readblock SFS_SUPER_BLOCK = .ok (.ok data)) :
    sfsDomount (true, true) dev = mountVolume true dev (Superblock.ofBlock data) := by
  rw [sfsDomount, if_neg (not_not.mpr hsize), if_neg (by decide), hread]

lemma emptyVolume_mounts (hn : 3 ≤ n) (hmax : n ≤ 131072) :
    Mounts n (emptyVolume n name disk) := by
  obtain ⟨hmagic, hblocks⟩ := @emptyVolume_sb n name disk hmax
  have hinside : SFS_FREEMAP_START + 0 + freemapblocks n ≤ n := freemap_inside hn
  obtain ⟨freemap, hread⟩ :=
    @sfsFreemapio_inside n (emptyVolume n name disk) (freemapblocks n) (fun _ => 0) 0 hinside
  have hsuper : SFS_SUPER_BLOCK < n := Nat.lt_of_lt_of_le (by decide) hn
  have hmount := sfsDomount_reads rfl (@readblock_inside n (emptyVolume n name disk) _ hsuper)
  rw [Mounts, hmount]
  exact mountVolume_accepts hmagic hblocks hread

end Image

end Os161.Mksfs
