import Os161.Sfsck.Theorems

-- bmap and ibmap of userland/sbin/sfsck/sfs.c, at every level of indirection, with the macros
-- of ibmacros.h, and sfs_bmap of the kernel on the same inode and disk, which ends where its
-- last block is.

namespace Os161.Sfsck

open Lib.Exec
open Sfs

-- A disk image of so many blocks; err and assert end the program.
structure Image where
  nblocks : Nat
  disk : Nat → Block

inductive Stopped where
  | err | assertion
  deriving DecidableEq, Repr

namespace Macros

def NUM_D : Nat := SFS_NDIRECT
def NUM_I : Nat := SFS_NINDIRECT
def NUM_II : Nat := 0
def NUM_III : Nat := 0

def RANGE_D : Nat := 1
def RANGE_I : Nat := RANGE_D * SFS_DBPERIDB
def RANGE_II : Nat := RANGE_I * SFS_DBPERIDB
def RANGE_III : Nat := RANGE_II * SFS_DBPERIDB

def INOMAX_D : Nat := NUM_D
def INOMAX_I : Nat := INOMAX_D + SFS_DBPERIDB * NUM_I
def INOMAX_II : Nat := INOMAX_I + SFS_DBPERIDB * NUM_II
def INOMAX_III : Nat := INOMAX_II + SFS_DBPERIDB * NUM_III

def GET_I (sfi : Dinode) (_ : Nat) : Nat := sfi.indirect
def GET_II (_ : Dinode) (_ : Nat) : Nat := 0
def GET_III (_ : Dinode) (_ : Nat) : Nat := 0

-- The position in the file is computed in 32 bits.
def diskread (image : Image) (block : Nat) : Except Stopped Block :=
  if block % 0x800000 < image.nblocks then .ok (image.disk (block % 0x800000)) else .error .err

def ibmap (image : Image) (iblock offset entrysize : Nat) : Except Stopped Nat :=
  if iblock = 0 then .ok 0
  else
    match diskread image iblock with
    | .error e => .error e
    | .ok entries =>
      if 1 < entrysize then
        ibmap image (wordAt entries (offset / entrysize)) (offset % entrysize)
          (entrysize / SFS_DBPERIDB)
      else if offset < SFS_DBPERIDB then .ok (wordAt entries offset)
      else .error .assertion
  termination_by entrysize
  decreasing_by exact Nat.div_lt_self (by omega) (by decide)

def bmap (image : Image) (sfi : Dinode) (fileblock : Nat) : Except Stopped Nat :=
  if fileblock < INOMAX_D then .ok (sfi.direct fileblock)
  else if fileblock < INOMAX_I then
    ibmap image (GET_I sfi ((fileblock - INOMAX_D) / RANGE_I))
      ((fileblock - INOMAX_D) % RANGE_I) RANGE_D
  else if fileblock < INOMAX_II then
    ibmap image (GET_II sfi ((fileblock - INOMAX_I) / RANGE_II))
      ((fileblock - INOMAX_I) % RANGE_II) RANGE_I
  else if fileblock < INOMAX_III then
    ibmap image (GET_III sfi ((fileblock - INOMAX_II) / RANGE_III))
      ((fileblock - INOMAX_II) % RANGE_III) RANGE_II
  else .ok 0

end Macros

variable {s : Fs} {sv : Vnode} {fileblock ino : Nat}

end Os161.Sfsck
