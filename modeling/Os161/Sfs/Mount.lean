import Os161.Sfs.Format

-- Mounting, sfs_domount and sfs_freemapio of kern/fs/sfs/sfs_fsops.c.

namespace Os161.Sfs

open Vm (Word Stop ENOMEM EINVAL)

def ENXIO : Word := 26#32

structure Device where
  blocksize : Nat
  blocks : Nat
  disk : Nat → Block
  bad : Nat → Bool

structure Mounted where
  sb : Superblock
  freemap : Nat → UInt8

def Device.readblock (dev : Device) (block : Nat) : Except Stop (Except Word Block) :=
  if dev.blocks ≤ block then .error (.panic "sfs: %s: DEVOP_IO returned EINVAL\n" [])
  else if dev.bad block then .ok (.error EIO)
  else .ok (.ok (dev.disk block))

def sfsFreemapio (dev : Device) (freemap : Nat → UInt8) :
    Nat → Nat → Except Stop (Except Word (Nat → UInt8))
  | _, 0 => .ok (.ok freemap)
  | j, count + 1 =>
    match dev.readblock (SFS_FREEMAP_START + j) with
    | .error e => .error e
    | .ok (.error result) => .ok (.error result)
    | .ok (.ok data) =>
      sfsFreemapio dev (Lib.Bytes.paste freemap (j * SFS_BLOCKSIZE) SFS_BLOCKSIZE data)
        (j + 1) count

-- The volume with this superblock, its name NUL-terminated; `memory` says whether
-- bitmap_create gets its memory.
def mountVolume (memory : Bool) (dev : Device) (sb : Superblock) :
    Except Stop (Except Word Mounted) :=
  if sb.magic ≠ SFS_MAGIC then .ok (.error EINVAL)
  else if !memory then .ok (.error ENOMEM)
  else
    match sfsFreemapio dev (fun _ => 0) 0 (freemapblocks sb.nblocks) with
    | .error e => .error e
    | .ok (.error result) => .ok (.error result)
    | .ok (.ok freemap) =>
      .ok (.ok ⟨{ sb with volname := Function.update sb.volname (SFS_VOLNAME_SIZE - 1) 0 },
        freemap⟩)

def sfsDomount (memory : Bool × Bool) (dev : Device) : Except Stop (Except Word Mounted) :=
  if dev.blocksize ≠ SFS_BLOCKSIZE then .ok (.error ENXIO)
  else if !memory.1 then .ok (.error ENOMEM)
  else
    match dev.readblock SFS_SUPER_BLOCK with
    | .error e => .error e
    | .ok (.error result) => .ok (.error result)
    | .ok (.ok data) => mountVolume memory.2 dev (Superblock.ofBlock data)

end Os161.Sfs
