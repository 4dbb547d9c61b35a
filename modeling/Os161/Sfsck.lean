import Mathlib.Data.List.Perm.Basic
import Os161.Mksfs

-- The checker, userland/sbin/sfsck. Its messages are left out, its memory suffices, and reads
-- and writes of the disk succeed. SFS_NDINDIRECT and SFS_NTINDIRECT are 0 in this tree, so
-- indirect blocks have one level.

namespace Os161.Sfsck

open Function Lib.Bitmap Lib.Exec
open Mksfs (Exit assert)
open Sfs

def EXIT_FATAL : Nat := 3
def EXIT_UNRECOV : Nat := 2
def EXIT_RECOV : Nat := 1
def EXIT_CLEAN : Nat := 0

-- qsort of libc: which of two equal elements comes first is its own business.
structure Qsort where
  sort : {α : Type} → (α → α → Int) → List α → List α
  perm : ∀ {α : Type} (compare : α → α → Int) (l : List α), (sort compare l).Perm l

structure Inodeinfo where
  ino : Nat
  linkcount : Nat
  visited : Bool
  type : Nat

inductive BlockUsage where
  | superblock | freemapblock | inode | iblock | dirdata | data | pastend
  deriving DecidableEq, Repr

structure Check where
  disk : Nat → Block
  sb : Superblock
  freemapdata : Nat → UInt8
  tofreedata : Nat → UInt8
  blocksinuse : Nat
  inodes : List Inodeinfo
  inodesSorted : Bool
  countDirs : Nat
  countFiles : Nat
  uniquecounter : Nat
  badness : Nat

def Check.start (disk : Nat → Block) : Check where
  disk := disk
  sb := ⟨0, 0, fun _ => 0, fun _ => 0⟩
  freemapdata := fun _ => 0
  tofreedata := fun _ => 0
  blocksinuse := 0
  inodes := []
  inodesSorted := false
  countDirs := 0
  countFiles := 0
  uniquecounter := 0
  badness := EXIT_CLEAN

abbrev Fsck (α : Type) := EStateM Exit Check α

def setbadness (code : Nat) : Fsck Unit :=
  modify fun s => { s with badness := max s.badness code }

def complainIf (bad : Bool) (code : Nat) : Fsck Unit :=
  if bad then setbadness code else pure ()

def diskread (block : Nat) : Fsck Block := do
  let s ← get
  pure (s.disk block)

def diskwrite (data : Block) (block : Nat) : Fsck Unit :=
  modify fun s => { s with disk := update s.disk block data }

section Utils

def uniqueid : Fsck Nat :=
  modifyGet fun s =>
    (s.uniquecounter, { s with uniquecounter := (s.uniquecounter + 1) % 0x100000000 })

def checknullstring (maxlen : Nat) (buf : Nat → UInt8) : (Nat → UInt8) × Bool :=
  if (List.range maxlen).any fun i => buf i = 0 then (buf, false)
  else (update buf (maxlen - 1) 0, true)

def isBad (c : UInt8) : Bool := c = Mksfs.colon || c = Mksfs.slash

def checkbadstring (maxlen : Nat) (buf : Nat → UInt8) : (Nat → UInt8) × Bool :=
  let len := (cstring maxlen buf).length
  (fun i => if i < len ∧ isBad (buf i) then 95 else buf i,
    (List.range len).any fun i => isBad (buf i))

def checkzeroed (len : Nat) (buf : Nat → UInt8) : (Nat → UInt8) × Bool :=
  (fun i => if i < len then 0 else buf i, (List.range len).any fun i => buf i ≠ 0)

def strcpy (field : Nat → UInt8) (text : List UInt8) : Nat → UInt8 :=
  fun i => if i ≤ text.length then text.getD i 0 else field i

def fsckName (ino id : Nat) : List UInt8 :=
  (("FSCK." ++ toString ino ++ "." ++ toString id).toList.map
    fun c => UInt8.ofNat c.toNat).take (SFS_NAMELEN - 1)

def dotName : List UInt8 := [46]
def dotdotName : List UInt8 := [46, 46]

def nameText (sfd : Direntry) : List UInt8 := cstring SFS_NAMELEN sfd.name

end Utils

section Superblock

def sbLoad : Fsck Unit := do
  let b ← diskread SFS_SUPER_BLOCK
  modify fun s => { s with sb := Superblock.ofBlock b }
  let s ← get
  if s.sb.magic ≠ SFS_MAGIC then throw (.errx EXIT_FATAL "Not an sfs filesystem")
  else do
    assert (0 < s.sb.nblocks) "sb.sb_nblocks > 0"
    assert (0 < freemapblocks s.sb.nblocks) "SFS_FREEMAPBLOCKS(sb.sb_nblocks) > 0"

def sbCheck : Fsck Unit := do
  let s ← get
  let (volname, unterminated) := checknullstring SFS_VOLNAME_SIZE s.sb.volname
  complainIf unterminated EXIT_RECOV
  let (volname, bad) := checkbadstring SFS_VOLNAME_SIZE volname
  complainIf bad EXIT_RECOV
  let (reserved, dirty) := checkzeroed SB_RESERVED_SIZE s.sb.reserved
  complainIf dirty EXIT_RECOV
  let sb : Superblock := ⟨s.sb.magic, s.sb.nblocks, volname, reserved⟩
  modify fun s => { s with sb := sb }
  if unterminated || bad || dirty then diskwrite sb.toBlock SFS_SUPER_BLOCK else pure ()

end Superblock

section Freemap

def freemapBlockinuse (how : BlockUsage) (block : Nat) : Fsck Unit := do
  let s ← get
  complainIf (marked s.freemapdata block) EXIT_UNRECOV
  modify fun s => { s with
    tofreedata := if marked s.tofreedata block then unmark s.tofreedata block else s.tofreedata
    freemapdata := mark s.freemapdata block
    blocksinuse := if how ≠ .pastend then s.blocksinuse + 1 else s.blocksinuse }

def freemapBlockfree (block : Nat) : Fsck Unit :=
  modify fun s =>
    if marked s.tofreedata block then s
    else if marked s.freemapdata block then s
    else { s with tofreedata := mark s.tofreedata block }

def freemapSetup : Fsck Unit := do
  let s ← get
  let fsblocks := s.sb.nblocks
  let mapblocks := freemapblocks fsblocks
  modify fun s => { s with freemapdata := fun _ => 0, tofreedata := fun _ => 0 }
  loop (freemapBlockinuse .pastend) fsblocks (mapblocks * SFS_BITSPERBLOCK - fsblocks)
  freemapBlockinuse .superblock SFS_SUPER_BLOCK
  loop (freemapBlockinuse .freemapblock) SFS_FREEMAP_START mapblocks

def countbits (val : UInt8) : Nat :=
  ((List.range 8).filter fun k => val &&& (1 <<< UInt8.ofNat k) != 0).length

structure Scan where
  actual : Block
  bchanged : Bool
  alloccount : Nat
  freecount : Nat

def freemapByte (i j : Nat) (scan : Scan) : Fsck Scan := do
  let s ← get
  let expected := s.freemapdata (i * SFS_BLOCKSIZE + j)
  let tofree := s.tofreedata (i * SFS_BLOCKSIZE + j)
  let actual := scan.actual j
  assert (expected &&& tofree = 0) "(expected[j] & tofree[j])==0"
  if actual = expected then pure scan
  else if actual = expected ||| tofree then
    pure { scan with actual := update scan.actual j expected, bchanged := true }
  else
    let actual := actual &&& ~~~tofree
    pure {
      actual := update scan.actual j expected
      bchanged := true
      alloccount :=
        if actual &&& expected ≠ expected then
          scan.alloccount + countbits (expected &&& ~~~actual)
        else scan.alloccount
      freecount :=
        if actual &&& expected ≠ actual then scan.freecount + countbits (actual &&& ~~~expected)
        else scan.freecount }

def freemapBlock (i : Nat) (counts : Nat × Nat) : Fsck (Nat × Nat) := do
  let actual ← diskread (SFS_FREEMAP_START + i)
  let scan ← foldLoop (freemapByte i) 0 SFS_BLOCKSIZE ⟨actual, false, counts.1, counts.2⟩
  if scan.bchanged then diskwrite scan.actual (SFS_FREEMAP_START + i) else pure ()
  pure (scan.alloccount, scan.freecount)

def freemapCheck : Fsck Unit := do
  let s ← get
  let counts ← foldLoop freemapBlock 0 (freemapblocks s.sb.nblocks) (0, 0)
  complainIf (0 < counts.1) EXIT_RECOV
  complainIf (0 < counts.2) EXIT_RECOV

end Freemap

section Inodes

def inodeAdd (ino type : Nat) : Fsck Bool := do
  let s ← get
  match s.inodes.find? fun inf => inf.ino = ino with
  | some inf => do
      assert (inf.linkcount = 0) "inodes[i].linkcount == 0"
      assert (inf.type = type) "inodes[i].type == type"
      pure true
  | none => do
      modify fun s => { s with
        inodes := s.inodes ++ [⟨ino, 0, false, type⟩]
        inodesSorted := false }
      pure false

def inodeCompare (a b : Inodeinfo) : Int :=
  if a.ino < b.ino then -1 else if b.ino < a.ino then 1 else 0

def inodeSorttable (q : Qsort) : Fsck Unit :=
  modify fun s => { s with inodes := q.sort inodeCompare s.inodes, inodesSorted := true }

def findIndex (inodes : List Inodeinfo) (ino min max : Nat) : Option Nat :=
  if _h : min < max then
    let i := min + (max - min) / 2
    match inodes[i]? with
    | none => none
    | some inf =>
      if inf.ino < ino then findIndex inodes ino (i + 1) max
      else if ino < inf.ino then findIndex inodes ino min i
      else some i
  else none
  termination_by max - min
  decreasing_by all_goals omega

def inodeFind (ino : Nat) : Fsck (Nat × Inodeinfo) := do
  let s ← get
  assert s.inodesSorted "inodes_sorted"
  assert (0 < s.inodes.length) "ninodes > 0"
  match findIndex s.inodes ino 0 s.inodes.length with
  | none => throw (.errx EXIT_UNRECOV "FATAL: inode %u wasn't found in my inode table")
  | some i => pure (i, s.inodes.getD i ⟨ino, 0, false, 0⟩)

def setInode (i : Nat) (inf : Inodeinfo) : Fsck Unit :=
  modify fun s => { s with inodes := s.inodes.set i inf }

def inodeVisitdir (ino : Nat) : Fsck Bool := do
  let (i, inf) ← inodeFind ino
  assert (inf.type = SFS_TYPE_DIR) "inf->type == SFS_TYPE_DIR"
  assert (inf.linkcount = 0) "inf->linkcount == 0"
  if inf.visited then pure true
  else do
    setInode i { inf with visited := true }
    pure false

def inodeAddlink (ino : Nat) : Fsck Unit := do
  let (i, inf) ← inodeFind ino
  assert (inf.type = SFS_TYPE_FILE) "inf->type == SFS_TYPE_FILE"
  assert (!inf.visited) "inf->visited == 0"
  setInode i { inf with linkcount := (inf.linkcount + 1) % 0x100000000 }

def sfsReadinode (ino : Nat) : Fsck Dinode := do
  let b ← diskread ino
  pure (Dinode.ofBlock b)

def sfsWriteinode (ino : Nat) (sfi : Dinode) : Fsck Unit := diskwrite sfi.toBlock ino

def adjustFilelink (inf : Inodeinfo) : Fsck Unit := do
  if inf.type = SFS_TYPE_DIR then pure ()
  else do
    assert (inf.type = SFS_TYPE_FILE) "inodes[i].type == SFS_TYPE_FILE"
    assert (0 < inf.linkcount) "inodes[i].linkcount > 0"
    let sfi ← sfsReadinode inf.ino
    assert (sfi.type = SFS_TYPE_FILE) "sfi.sfi_type == SFS_TYPE_FILE"
    if sfi.linkcount ≠ inf.linkcount then do
      setbadness EXIT_RECOV
      sfsWriteinode inf.ino { sfi with linkcount := inf.linkcount % 0x10000 }
    else pure ()

def inodeAdjustFilelinks : Fsck Unit := do
  let s ← get
  s.inodes.forM adjustFilelink

end Inodes

section Directories

def bmap (sfi : Dinode) (fileblock : Nat) : Fsck Nat :=
  if fileblock < SFS_NDIRECT then pure (sfi.direct fileblock)
  else if fileblock < SFS_NDIRECT + SFS_DBPERIDB then
    if sfi.indirect = 0 then pure 0
    else do
      let entries ← diskread sfi.indirect
      pure (wordAt entries (fileblock - SFS_NDIRECT))
  else pure 0

def sfsReaddirblock (diskblock : Nat) : Fsck (Nat → Direntry) := do
  if diskblock ≠ 0 then do
    let b ← diskread diskblock
    pure (direntriesOf b)
  else pure fun _ => Direntry.empty

def dirblocks (nd : Nat) : Nat := roundup nd DIRENTRIES / DIRENTRIES

def sfsReaddir (sfi : Dinode) (nd : Nat) : Fsck (Nat → Direntry) :=
  foldLoop (fun i d => do
    let diskblock ← bmap sfi i
    let buffer ← sfsReaddirblock diskblock
    pure fun k =>
      if i * DIRENTRIES ≤ k ∧ k < min nd ((i + 1) * DIRENTRIES) then buffer (k - i * DIRENTRIES)
      else d k) 0 (dirblocks nd) fun _ => Direntry.empty

def sfsWritedirblock (d : Nat → Direntry) (diskblock : Nat) : Fsck Unit :=
  if diskblock ≠ 0 then diskwrite (direntryBlock d) diskblock
  else complainIf ((List.range DIRENTRIES).any fun j => (d j).ino ≠ SFS_NOINO ∨ (d j).name 0 ≠ 0)
    EXIT_UNRECOV

def sfsWritedir (sfi : Dinode) (d : Nat → Direntry) (nd : Nat) : Fsck Unit :=
  loop (fun i => do
    let diskblock ← bmap sfi i
    sfsWritedirblock (fun j =>
      if i * DIRENTRIES + j < nd then d (i * DIRENTRIES + j) else Direntry.empty) diskblock)
    0 (dirblocks nd)

def strcmp (a b : List UInt8) : Int := if a < b then -1 else if b < a then 1 else 0

def dirsortfunc (d : Nat → Direntry) (a b : Nat) : Int :=
  if (d a).ino = SFS_NOINO ∧ (d b).ino = SFS_NOINO then 0
  else if (d a).ino = SFS_NOINO then 1
  else if (d b).ino = SFS_NOINO then -1
  else strcmp (nameText (d a)) (nameText (d b))

def sfsdirSort (q : Qsort) (d : Nat → Direntry) (nd : Nat) : List Nat :=
  q.sort (dirsortfunc d) (List.range nd)

def sfsdirTryadd (d : Nat → Direntry) (nd : Nat) (name : List UInt8) (ino : Nat) :
    Option (Nat → Direntry) :=
  ((List.range nd).find? fun i => (d i).ino = SFS_NOINO).map fun i =>
    update d i ⟨ino, strcpy (d i).name name⟩

end Directories

section Pass1

structure Ibstate where
  curfileblock : Nat
  pasteofcount : Nat

structure FileInfo where
  fileblocks : Nat
  volblocks : Nat
  usagetype : BlockUsage

-- One block pointer, direct or in an indirect block: what becomes of it, and whether it lay
-- past the end of the file.
def checkPointer (file : FileInfo) (curfileblock pointer : Nat) : Fsck (Nat × Bool) := do
  if file.volblocks ≤ pointer then do
    setbadness EXIT_RECOV
    pure (0, false)
  else if pointer ≠ 0 then
    if curfileblock < file.fileblocks then do
      freemapBlockinuse file.usagetype pointer
      pure (pointer, false)
    else do
      setbadness EXIT_RECOV
      freemapBlockfree pointer
      pure (0, true)
  else pure (0, false)

structure Entries where
  entries : Nat → Nat
  ibs : Ibstate
  changed : Bool

def checkEntry (file : FileInfo) (i : Nat) (e : Entries) : Fsck Entries := do
  let (pointer, pasteof) ← checkPointer file e.ibs.curfileblock (e.entries i)
  pure ⟨update e.entries i pointer,
    ⟨e.ibs.curfileblock + 1, if pasteof then e.ibs.pasteofcount + 1 else e.ibs.pasteofcount⟩,
    e.changed || decide (pointer ≠ e.entries i)⟩

def checkIndirectBlock (file : FileInfo) (ientry : Nat) (ibs : Ibstate) :
    Fsck (Nat × Ibstate) := do
  if 0 < ientry ∧ ientry < file.volblocks then do
    let b ← diskread ientry
    freemapBlockinuse .iblock ientry
    let e ← foldLoop (checkEntry file) 0 SFS_DBPERIDB ⟨wordAt b, ibs, false⟩
    if (List.range SFS_DBPERIDB).all fun i => e.entries i = 0 then do
      setbadness EXIT_RECOV
      freemapBlockfree ientry
      pure (0, e.ibs)
    else do
      if e.changed then diskwrite (ofWords e.entries) ientry else pure ()
      pure (ientry, e.ibs)
  else do
    complainIf (file.volblocks ≤ ientry) EXIT_RECOV
    pure (0, { ibs with curfileblock := ibs.curfileblock + SFS_DBPERIDB })

def checkInodeBlocks (sfi : Dinode) (isdir : Bool) : Fsck (Dinode × Bool) := do
  let s ← get
  let file : FileInfo := ⟨roundup sfi.size SFS_BLOCKSIZE / SFS_BLOCKSIZE, s.sb.nblocks,
    if isdir then .dirdata else .data⟩
  let d ← foldLoop (checkEntry file) 0 SFS_NDIRECT ⟨sfi.direct, ⟨0, 0⟩, false⟩
  let (indirect, ibs) ← checkIndirectBlock file sfi.indirect d.ibs
  complainIf (0 < ibs.pasteofcount) EXIT_RECOV
  pure ({ sfi with direct := d.entries, indirect := indirect },
    d.changed || decide (indirect ≠ sfi.indirect))

def pass1Inode (ino : Nat) (sfi : Dinode) (alreadychanged : Bool) : Fsck (Bool × Dinode) := do
  if ← inodeAdd ino sfi.type then do
    assert (!alreadychanged) "changed == 0"
    pure (true, sfi)
  else do
    freemapBlockinuse .inode ino
    let dirty := (List.range SFI_WASTE_WORDS).any fun i => sfi.waste i ≠ 0
    complainIf dirty EXIT_RECOV
    let (sfi, changed) ← checkInodeBlocks { sfi with waste := fun _ => 0 }
      (sfi.type = SFS_TYPE_DIR)
    if alreadychanged || dirty || changed then sfsWriteinode ino sfi else pure ()
    pure (false, sfi)

def pass1Direntry (sfd : Direntry) : Fsck (Direntry × Bool) := do
  let s ← get
  if sfd.ino = SFS_NOINO then do
    if sfd.name 0 ≠ 0 then do
      setbadness EXIT_RECOV
      pure ({ sfd with name := update sfd.name 0 0 }, true)
    else pure (sfd, false)
  else if s.sb.nblocks ≤ sfd.ino then do
    setbadness EXIT_RECOV
    pure (⟨SFS_NOINO, update sfd.name 0 0⟩, true)
  else do
    let name ← if sfd.name 0 = 0 then do
        setbadness EXIT_RECOV
        let id ← uniqueid
        pure (strcpy sfd.name (fsckName sfd.ino id))
      else pure sfd.name
    let (terminated, fixed) := checknullstring SFS_NAMELEN name
    complainIf fixed EXIT_RECOV
    let (clean, bad) := checkbadstring SFS_NAMELEN terminated
    complainIf bad EXIT_RECOV
    pure (⟨sfd.ino, clean⟩, decide (sfd.name 0 = 0) || fixed || bad)

structure Dir where
  direntries : Nat → Direntry
  dchanged : Bool

def Dir.put (dir : Dir) (i : Nat) (sfd : Direntry) (changed : Bool) : Dir :=
  ⟨update dir.direntries i sfd, dir.dchanged || changed⟩

def Dir.remove (dir : Dir) (i : Nat) : Dir :=
  dir.put i ⟨SFS_NOINO, update (dir.direntries i).name 0 0⟩ true

def isSkipped (sfd : Direntry) : Bool :=
  sfd.ino = SFS_NOINO || nameText sfd = dotName || nameText sfd = dotdotName

def pass1Entry (visit : Nat → Fsck Unit) (i : Nat) (dir : Dir) : Fsck Dir := do
  let sfd := dir.direntries i
  if isSkipped sfd then pure dir
  else do
    let subsfi ← sfsReadinode sfd.ino
    if subsfi.type = SFS_TYPE_FILE then do
      let result ← pass1Inode sfd.ino subsfi false
      if result.1 then pure ()
      else modify fun s => { s with countFiles := s.countFiles + 1 }
      pure dir
    else if subsfi.type = SFS_TYPE_DIR then do
      visit sfd.ino
      pure dir
    else do
      setbadness EXIT_RECOV
      pure (dir.remove i)

-- pass1_dir. A directory is entered once, so the depth is bounded by the number of inodes.
def pass1Dir : Nat → Nat → Fsck Unit
  | 0, _ => throw (.assertion "stack")
  | depth + 1, ino => do
      let sfi ← sfsReadinode ino
      let ichanged := sfi.size % DIRENTRY_SIZE ≠ 0
      complainIf ichanged EXIT_RECOV
      modify fun s => { s with countDirs := s.countDirs + 1 }
      let size := if ichanged then roundup sfi.size DIRENTRY_SIZE else sfi.size
      let (seen, sfi) ← pass1Inode ino { sfi with size := size } ichanged
      if seen then pure ()
      else do
        let ndirentries := sfi.size / DIRENTRY_SIZE
        let direntries ← sfsReaddir sfi ndirentries
        let dir ← foldLoop (fun i dir => do
          let (sfd, changed) ← pass1Direntry (dir.direntries i)
          pure (dir.put i sfd changed)) 0 ndirentries ⟨direntries, false⟩
        let dir ← foldLoop (pass1Entry (pass1Dir depth)) 0 ndirentries dir
        if dir.dchanged then sfsWritedir sfi dir.direntries ndirentries else pure ()

def fixRootType : Fsck Unit := do
  let sfi ← sfsReadinode SFS_ROOTDIR_INO
  if sfi.type = SFS_TYPE_DIR then pure ()
  else do
    setbadness EXIT_RECOV
    sfsWriteinode SFS_ROOTDIR_INO { sfi with type := SFS_TYPE_DIR }

def pass1 : Fsck Unit := do
  fixRootType
  let s ← get
  pass1Dir (s.sb.nblocks + 1) SFS_ROOTDIR_INO

end Pass1

section Pass2

def pass2Duplicate (sorted : List Nat) (i : Nat) (dir : Dir) : Fsck Dir := do
  let a := sorted.getD i 0
  let d1 := dir.direntries a
  let d2 := dir.direntries (sorted.getD (i + 1) 0)
  if d1.ino = SFS_NOINO ∨ d2.ino = SFS_NOINO then pure dir
  else if nameText d1 = nameText d2 then
    if d1.ino = d2.ino then do
      setbadness EXIT_RECOV
      pure (dir.remove a)
    else do
      let id ← uniqueid
      setbadness EXIT_RECOV
      pure (dir.put a { d1 with name := strcpy d1.name (fsckName d1.ino id) } true)
  else pure dir

structure Dots where
  dir : Dir
  dotseen : Bool
  dotdotseen : Bool

def pass2FixIno (i ino : Nat) (dir : Dir) : Fsck Dir := do
  let sfd := dir.direntries i
  if sfd.ino ≠ ino then do
    setbadness EXIT_RECOV
    pure (dir.put i { sfd with ino := ino } true)
  else pure dir

def pass2Dots (ino parentino i : Nat) (dots : Dots) : Fsck Dots := do
  let sfd := dots.dir.direntries i
  if nameText sfd = dotName then do
    let dir ← pass2FixIno i ino dots.dir
    assert (!dots.dotseen) "dotseen==0"
    pure { dots with dir := dir, dotseen := true }
  else if nameText sfd = dotdotName then do
    let dir ← pass2FixIno i parentino dots.dir
    assert (!dots.dotdotseen) "dotdotseen==0"
    pure { dots with dir := dir, dotdotseen := true }
  else pure dots

structure Grown where
  dir : Dir
  ndirentries : Nat
  sfi : Dinode
  ichanged : Bool

def pass2Insert (seen : Bool) (maxdirentries : Nat) (name : List UInt8) (ino : Nat) (g : Grown) :
    Fsck Grown := do
  if seen then pure g
  else
    match sfsdirTryadd g.dir.direntries g.ndirentries name ino with
    | some d => do
        setbadness EXIT_RECOV
        pure { g with dir := ⟨d, true⟩ }
    | none =>
      match sfsdirTryadd g.dir.direntries maxdirentries name ino with
      | some d => do
          setbadness EXIT_RECOV
          pure ⟨⟨d, true⟩, g.ndirentries + 1,
            { g.sfi with size := (g.sfi.size + DIRENTRY_SIZE) % 0x100000000 }, true⟩
      | none => do
          setbadness EXIT_UNRECOV
          pure g

def pass2Entry (visit : Nat → Fsck Bool) (i : Nat) (acc : Dir × Nat) : Fsck (Dir × Nat) := do
  let (dir, subdircount) := acc
  let sfd := dir.direntries i
  if isSkipped sfd then pure (dir, subdircount)
  else do
    let subsfi ← sfsReadinode sfd.ino
    if subsfi.type = SFS_TYPE_FILE then do
      inodeAddlink sfd.ino
      pure (dir, subdircount)
    else if subsfi.type = SFS_TYPE_DIR then do
      if ← visit sfd.ino then do
        setbadness EXIT_RECOV
        pure (dir.remove i, subdircount)
      else pure (dir, subdircount + 1)
    else do
      setbadness EXIT_RECOV
      pure (dir.remove i, subdircount)

def pass2Dir (q : Qsort) : Nat → Nat → Nat → Fsck Bool
  | 0, _, _ => throw (.assertion "stack")
  | depth + 1, ino, parentino => do
      if ← inodeVisitdir ino then pure true
      else do
        let sfi ← sfsReadinode ino
        let ndirentries := sfi.size / DIRENTRY_SIZE
        let maxdirentries := roundup ndirentries DIRENTRIES
        let direntries ← sfsReaddir sfi ndirentries
        let sorted := sfsdirSort q direntries ndirentries
        let dir ← foldLoop (pass2Duplicate sorted) 0 (ndirentries - 1) ⟨direntries, false⟩
        let dots ← foldLoop (pass2Dots ino parentino) 0 ndirentries ⟨dir, false, false⟩
        let g ← pass2Insert dots.dotseen maxdirentries dotName ino
          ⟨dots.dir, ndirentries, sfi, false⟩
        let g ← pass2Insert dots.dotdotseen maxdirentries dotdotName parentino g
        let (dir, subdircount) ← foldLoop (pass2Entry fun sub => pass2Dir q depth sub ino) 0
          g.ndirentries (g.dir, 0)
        let wrong := g.sfi.linkcount ≠ subdircount + 2
        complainIf wrong EXIT_RECOV
        let sfi := if wrong then { g.sfi with linkcount := (subdircount + 2) % 0x10000 } else g.sfi
        if dir.dchanged then sfsWritedir sfi dir.direntries g.ndirentries else pure ()
        if g.ichanged || wrong then sfsWriteinode ino sfi else pure ()
        pure false

def pass2 (q : Qsort) : Fsck Unit := do
  let s ← get
  let _ ← pass2Dir q (s.sb.nblocks + 1) SFS_ROOTDIR_INO SFS_ROOTDIR_INO

end Pass2

def main (q : Qsort) : Fsck Nat := do
  sbLoad
  sbCheck
  freemapSetup
  pass1
  freemapCheck
  inodeSorttable q
  pass2 q
  inodeAdjustFilelinks
  let s ← get
  assert (s.badness ≤ EXIT_UNRECOV) "0"
  pure s.badness

end Os161.Sfsck
