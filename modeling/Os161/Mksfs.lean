import Os161.Lib.Bitmap
import Os161.Sfs.Format

-- The formatter, userland/sbin/mksfs/mksfs.c. Reads and writes of the disk succeed.

namespace Os161.Mksfs

open Lib.Bitmap Lib.Exec
open Sfs

def MAXFREEMAPBLOCKS : Nat := 32

inductive Exit where
  | errx (code : Nat) (text : String)
  | assertion (expr : String)
  deriving DecidableEq, Repr

structure Maker where
  freemapbuf : Nat → UInt8
  disk : Nat → Block

abbrev Make (α : Type) := EStateM Exit Maker α

def assert {σ : Type} (holds : Bool) (expr : String) : EStateM Exit σ Unit :=
  if holds then pure () else throw (.assertion expr)

@[simp] lemma assert_run (holds : Bool) (expr : String) (s : σ) :
    (assert holds expr).run s = if holds then .ok () s else .error (.assertion expr) s := by
  cases holds <;> rfl

def allocblock (block : Nat) : Make Unit := do
  let s ← get
  assert (!marked s.freemapbuf block) "(freemapbuf[mapbyte] & mask) == 0"
  set { s with freemapbuf := mark s.freemapbuf block }

def initfreemap (fsblocks : Nat) : Make Unit := do
  if MAXFREEMAPBLOCKS < freemapblocks fsblocks then
    throw (.errx 1 "Filesystem too large -- increase MAXFREEMAPBLOCKS and recompile")
  else do
    allocblock SFS_SUPER_BLOCK
    allocblock SFS_ROOTDIR_INO
    loop allocblock SFS_FREEMAP_START (freemapblocks fsblocks)
    loop allocblock fsblocks (freemapbits fsblocks - fsblocks)

def diskwrite (data : Block) (block : Nat) : Make Unit :=
  modify fun s => { s with disk := Function.update s.disk block data }

def newSuper (volname : List UInt8) (nblocks : Nat) : Superblock :=
  ⟨SFS_MAGIC, nblocks, ofCstring volname, fun _ => 0⟩

def writesuper (volname : List UInt8) (nblocks : Nat) : Make Unit :=
  if SFS_VOLNAME_SIZE ≤ volname.length then throw (.errx 1 "Volume name %s too long")
  else diskwrite (newSuper volname nblocks).toBlock SFS_SUPER_BLOCK

def writefreemap (fsblocks : Nat) : Make Unit :=
  loop (fun i => do
    let s ← get
    diskwrite (fun k => s.freemapbuf (i * SFS_BLOCKSIZE + k)) (SFS_FREEMAP_START + i))
    0 (freemapblocks fsblocks)

def newRootdir : Dinode := ⟨0, SFS_TYPE_DIR, 1, fun _ => 0, 0, fun _ => 0⟩

def writerootdir : Make Unit := diskwrite newRootdir.toBlock SFS_ROOTDIR_INO

def colon : UInt8 := 58
def slash : UInt8 := 47

def volumeName (volname : List UInt8) : Except Exit (List UInt8) :=
  let s := volname.dropWhile (· ≠ colon)
  if s ≠ [] ∧ s.length ≠ 1 then .error (.errx 1 "Illegal volume name %s")
  else
    let name := volname.takeWhile (· ≠ colon)
    if slash ∈ name then .error (.errx 1 "Illegal volume name %s") else .ok name

def main (volname : List UInt8) (size : Nat) : Make Unit := do
  match volumeName volname with
  | .error e => throw e
  | .ok volname => do
      initfreemap size
      writesuper volname size
      writefreemap size
      writerootdir

def Maker.start (disk : Nat → Block) : Maker := ⟨fun _ => 0, disk⟩

def LegalName (volname : List UInt8) : Prop :=
  0 ∉ volname ∧ ∃ name, volumeName volname = .ok name ∧ name.length < SFS_VOLNAME_SIZE

end Os161.Mksfs
