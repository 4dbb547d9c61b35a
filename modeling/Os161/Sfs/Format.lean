import Os161.Sfs

-- The on-disk format of kern/include/kern/sfs.h. The kernel and the tools read and write words
-- with the high byte first. Volumes have fewer than 2^23 blocks, so the seek positions of the
-- tools are exact.

namespace Os161.Sfs

def SFS_MAGIC : Nat := 0xabadf001
def SFS_VOLNAME_SIZE : Nat := 32
def SFS_NAMELEN : Nat := 60
def SFS_SUPER_BLOCK : Nat := 0
def SFS_FREEMAP_START : Nat := 2
def SFS_NOINO : Nat := 0
def SFS_ROOTDIR_INO : Nat := 1
def SFS_TYPE_FILE : Nat := 1
def SFS_TYPE_DIR : Nat := 2

def SB_RESERVED_SIZE : Nat := 472
def SFI_WASTE_WORDS : Nat := 110

def DIRENTRY_SIZE : Nat := 64
def DIRENTRIES : Nat := 8

def roundup (a b : Nat) : Nat := (a + b - 1) % 0x100000000 / b * b

def freemapbits (nblocks : Nat) : Nat := roundup nblocks SFS_BITSPERBLOCK

def freemapblocks (nblocks : Nat) : Nat := freemapbits nblocks / SFS_BITSPERBLOCK

structure Superblock where
  magic : Nat
  nblocks : Nat
  volname : Nat → UInt8
  reserved : Nat → UInt8

def Superblock.ofBlock (b : Block) : Superblock :=
  ⟨wordAt b 0, wordAt b 1, fun i => b (8 + i), fun i => b (40 + i)⟩

def Superblock.toBlock (sb : Superblock) : Block := fun i =>
  if i < 8 then ofWords (fun k => if k = 0 then sb.magic else sb.nblocks) i
  else if i < 40 then sb.volname (i - 8)
  else sb.reserved (i - 40)

structure Dinode where
  size : Nat
  type : Nat
  linkcount : Nat
  direct : Nat → Nat
  indirect : Nat
  waste : Nat → Nat

def Dinode.ofBlock (b : Block) : Dinode where
  size := wordAt b 0
  type := wordAt b 1 / 0x10000
  linkcount := wordAt b 1 % 0x10000
  direct i := wordAt b (2 + i)
  indirect := wordAt b 17
  waste i := wordAt b (18 + i)

def Dinode.toBlock (sfi : Dinode) : Block := ofWords fun k =>
  if k = 0 then sfi.size
  else if k = 1 then sfi.type * 0x10000 + sfi.linkcount
  else if k < 17 then sfi.direct (k - 2)
  else if k = 17 then sfi.indirect
  else sfi.waste (k - 18)

structure Direntry where
  ino : Nat
  name : Nat → UInt8

def Direntry.empty : Direntry := ⟨SFS_NOINO, fun _ => 0⟩

def direntriesOf (b : Block) (j : Nat) : Direntry :=
  ⟨wordAt b (16 * j), fun i => b (64 * j + 4 + i)⟩

def direntryBlock (d : Nat → Direntry) : Block := fun i =>
  if i % 64 < 4 then ofWords (fun _ => (d (i / 64)).ino) (i % 64)
  else (d (i / 64)).name (i % 64 - 4)

def cstring (size : Nat) (field : Nat → UInt8) : List UInt8 :=
  ((List.range size).map field).takeWhile (· ≠ 0)

def ofCstring (text : List UInt8) : Nat → UInt8 := fun i => text.getD i 0

def SameBlocks (disk disk' : Nat → Block) : Prop :=
  ∀ b i, i < SFS_BLOCKSIZE → disk' b i = disk b i

end Os161.Sfs
