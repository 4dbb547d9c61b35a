import Os161.Lib.Bytes
import Os161.Vm.Defs

-- The simple file system, kern/fs/sfs. The big lock is held throughout. Volumes have at most 2^23
-- blocks, so the product in sfs_blockio is exact, and a request is one buffer that does not
-- fault.

namespace Os161.Sfs

open Function Lib.Bytes
open Vm (Word Stop kassert)

def SFS_BLOCKSIZE : Nat := 512
def SFS_NDIRECT : Nat := 15
def SFS_NINDIRECT : Nat := 1
def SFS_DBPERIDB : Nat := 128
def SFS_BITSPERBLOCK : Nat := 4096
def ENOSPC : Word := 36#32
def EFBIG : Word := 38#32
def EIO : Word := 32#32

-- The bytes of a disk block; those from 512 on have no meaning.
abbrev Block := Nat → UInt8

def zeroBlock : Block := fun _ => 0

def wordAt (b : Block) (k : Nat) : Nat :=
  (b (4 * k)).toNat * 0x1000000 + (b (4 * k + 1)).toNat * 0x10000 +
    (b (4 * k + 2)).toNat * 0x100 + (b (4 * k + 3)).toNat

def ofWords (w : Nat → Nat) : Block := fun i =>
  UInt8.ofNat (match i % 4 with
    | 0 => w (i / 4) / 0x1000000
    | 1 => w (i / 4) / 0x10000
    | 2 => w (i / 4) / 0x100
    | _ => w (i / 4))

structure Vnode where
  size : Nat
  type : Nat
  linkcount : Nat
  direct : Nat → Nat
  indirect : Nat
  dirty : Bool

def Vnode.dinode (sv : Vnode) : Block := ofWords fun k =>
  if k = 0 then sv.size
  else if k = 1 then sv.type * 0x10000 + sv.linkcount
  else if k < 2 + SFS_NDIRECT then sv.direct (k - 2)
  else if k = 2 + SFS_NDIRECT then sv.indirect
  else 0

inductive Purpose where
  | clear | indirect | data | inode
  deriving DecidableEq, Repr

structure Transfer where
  write : Bool
  purpose : Purpose
  block : Nat
  failed : Bool
  deriving DecidableEq, Repr

-- Whether a transfer fails, by its direction, its purpose and its block.
abbrev Fault := Bool → Purpose → Nat → Bool

structure Fs where
  nblocks : Nat
  freemap : Nat → Bool
  disk : Nat → Block
  vnodes : Nat → Option Vnode
  -- what the coming transfers meet, one fault each, and those that have been made
  failures : List Fault
  transfers : List Transfer

abbrev Action (α : Type) := EStateM Stop Fs α

def Fs.freemapbits (s : Fs) : Nat :=
  (s.nblocks + SFS_BITSPERBLOCK - 1) / SFS_BITSPERBLOCK * SFS_BITSPERBLOCK

def sfsRwblock (write : Bool) (purpose : Purpose) (block : Nat) : Action Bool :=
  modifyGet fun s =>
    let failed := s.failures.headD (fun _ _ _ => false) write purpose block
    (failed, { s with
      failures := s.failures.tail
      transfers := s.transfers ++ [⟨write, purpose, block, failed⟩] })

def sfsReadblock (purpose : Purpose) (block : Nat) : Action (Except Word Block) := do
  let failed ← sfsRwblock false purpose block
  let s ← get
  pure (if failed then .error EIO else .ok (s.disk block))

def sfsWriteblock (purpose : Purpose) (block : Nat) (data : Block) : Action (Except Word Unit) := do
  let failed ← sfsRwblock true purpose block
  if failed then pure (.error EIO)
  else do
    modify fun s => { s with disk := update s.disk block data }
    pure (.ok ())

def setMark (block : Nat) (mark : Bool) : Action Unit :=
  modify fun s => { s with freemap := update s.freemap block mark }

def bitmapUnmark (block : Nat) : Action Unit := do
  let s ← get
  kassert (block < s.freemapbits) "index < b->nbits"
  kassert (s.freemap block) "(b->v[ix] & mask)!=0"
  setMark block false

def Fs.firstFree (s : Fs) : Option Nat :=
  (List.range s.freemapbits).find? fun block => !s.freemap block

def sfsClearblock (block : Nat) : Action (Except Word Unit) := sfsWriteblock .clear block zeroBlock

def sfsBalloc : Action (Except Word Nat) := do
  let s ← get
  match s.firstFree with
  | none => pure (.error ENOSPC)
  | some block => do
      setMark block true
      if s.nblocks ≤ block then
        throw (.panic "sfs: %s: balloc: invalid block %u\n" [BitVec.ofNat 32 block])
      else do
        match ← sfsClearblock block with
        | .error result => do
            bitmapUnmark block
            pure (.error result)
        | .ok _ => pure (.ok block)

def sfsBfree (block : Nat) : Action Unit := bitmapUnmark block

def sfsBused (block : Nat) : Action Bool := do
  let s ← get
  if s.nblocks ≤ block then
    throw (.panic "sfs: %s: sfs_bused called on out of range block %u\n" [BitVec.ofNat 32 block])
  else pure (s.freemap block)

def getSv (ino : Nat) : Action Vnode := do
  let s ← get
  match s.vnodes ino with
  | none => throw .dangling
  | some sv => pure sv

def setSv (ino : Nat) (sv : Vnode) : Action Unit :=
  modify fun s => { s with vnodes := update s.vnodes ino (some sv) }

def handBack (block fileblock ino : Nat) : Action (Except Word Nat) :=
  if block = 0 then pure (.ok 0)
  else do
    let used ← sfsBused block
    if used then pure (.ok block)
    else throw (.panic "sfs: %s: Data block %u (block %u of file %u) marked free\n"
      [BitVec.ofNat 32 block, BitVec.ofNat 32 fileblock, BitVec.ofNat 32 ino])

def bmapDirect (ino fileblock : Nat) (doalloc : Bool) : Action (Except Word Nat) := do
  let sv ← getSv ino
  let block := sv.direct fileblock
  if block = 0 ∧ doalloc then do
    match ← sfsBalloc with
    | .error result => pure (.error result)
    | .ok block => do
        setSv ino { sv with direct := update sv.direct fileblock block, dirty := true }
        handBack block fileblock ino
  else handBack block fileblock ino

def bmapIndirect (ino : Nat) : Action (Except Word (Nat × (Nat → Nat))) := do
  let sv ← getSv ino
  if sv.indirect = 0 then do
    match ← sfsBalloc with
    | .error result => pure (.error result)
    | .ok idblock => do
        setSv ino { sv with indirect := idblock, dirty := true }
        pure (.ok (idblock, fun _ => 0))
  else do
    match ← sfsReadblock .indirect sv.indirect with
    | .error result => pure (.error result)
    | .ok idbuf => pure (.ok (sv.indirect, wordAt idbuf))

def bmapEntry (ino idblock : Nat) (idbuf : Nat → Nat) (idoff : Nat) (doalloc : Bool) :
    Action (Except Word Nat) := do
  let block := idbuf idoff
  if block = 0 ∧ doalloc then do
    match ← sfsBalloc with
    | .error result => pure (.error result)
    | .ok block => do
        match ← sfsWriteblock .indirect idblock (ofWords (update idbuf idoff block)) with
        | .error result => pure (.error result)
        | .ok _ => handBack block idoff ino
  else handBack block idoff ino

def sfsBmap (ino fileblock : Nat) (doalloc : Bool) : Action (Except Word Nat) := do
  if fileblock < SFS_NDIRECT then bmapDirect ino fileblock doalloc
  else do
    let idnum := (fileblock - SFS_NDIRECT) / SFS_DBPERIDB
    let idoff := (fileblock - SFS_NDIRECT) % SFS_DBPERIDB
    if SFS_NINDIRECT ≤ idnum then pure (.error EFBIG)
    else do
      let sv ← getSv ino
      if sv.indirect = 0 ∧ !doalloc then pure (.ok 0)
      else do
        match ← bmapIndirect ino with
        | .error result => pure (.error result)
        | .ok (idblock, idbuf) => bmapEntry ino idblock idbuf idoff doalloc

def freeDirect (ino blocklen i : Nat) : Action Unit := do
  let sv ← getSv ino
  if blocklen ≤ i ∧ sv.direct i ≠ 0 then do
    sfsBfree (sv.direct i)
    setSv ino { sv with direct := update sv.direct i 0, dirty := true }

def truncDirect (ino blocklen : Nat) : Action Unit :=
  Lib.Exec.loop (freeDirect ino blocklen) 0 SFS_NDIRECT

structure Idbuf where
  words : Nat → Nat
  hasnonzero : Bool
  iddirty : Bool

-- An entry goes when the new length in blocks is below its number in the file.
def truncEntries (blocklen : Nat) : Nat → Nat → Idbuf → Action Idbuf
  | 0, _, id => pure id
  | count + 1, j, id =>
    if blocklen < SFS_NDIRECT + j ∧ id.words j ≠ 0 then do
      sfsBfree (id.words j)
      truncEntries blocklen count (j + 1)
        { id with words := update id.words j 0, iddirty := true }
    else if id.words j ≠ 0 then
      truncEntries blocklen count (j + 1) { id with hasnonzero := true }
    else truncEntries blocklen count (j + 1) id

def truncIndirect (ino blocklen idblock : Nat) : Action (Except Word Unit) := do
  match ← sfsReadblock .indirect idblock with
  | .error result => pure (.error result)
  | .ok idbuf => do
      let id ← truncEntries blocklen SFS_DBPERIDB 0 ⟨wordAt idbuf, false, false⟩
      if !id.hasnonzero then do
        sfsBfree idblock
        let sv ← getSv ino
        setSv ino { sv with indirect := 0, dirty := true }
        pure (.ok ())
      else if id.iddirty then sfsWriteblock .indirect idblock (ofWords id.words)
      else pure (.ok ())

def sfsItrunc (ino len : Nat) : Action (Except Word Unit) := do
  let blocklen := (len + SFS_BLOCKSIZE - 1) / SFS_BLOCKSIZE
  truncDirect ino blocklen
  let sv ← getSv ino
  let highblock := SFS_NDIRECT + SFS_DBPERIDB - 1
  let done ← (if blocklen < highblock ∧ sv.indirect ≠ 0 then
    truncIndirect ino blocklen sv.indirect else pure (.ok ()))
  match done with
  | .error result => pure (.error result)
  | .ok _ => do
      let sv ← getSv ino
      setSv ino { sv with size := len, dirty := true }
      pure (.ok ())

-- A request: for a write `data` has the bytes still to come, for a read those delivered.
structure Uio where
  write : Bool
  offset : Nat
  resid : Nat
  data : List UInt8

def uiomove (buf : Block) (skip len : Nat) (uio : Uio) : Block × Uio :=
  let uio' := { uio with offset := uio.offset + len, resid := uio.resid - len }
  if uio.write then
    (paste buf skip len (fun i => uio.data.getD i 0), { uio' with data := uio.data.drop len })
  else
    (buf, { uio' with data := uio.data ++ (List.range len).map fun i => buf (skip + i) })

def sfsPartialio (ino : Nat) (uio : Uio) (skipstart len : Nat) :
    Action (Except Word Unit × Uio) := do
  kassert (skipstart + len ≤ SFS_BLOCKSIZE) "skipstart + len <= SFS_BLOCKSIZE"
  match ← sfsBmap ino (uio.offset / SFS_BLOCKSIZE) uio.write with
  | .error result => pure (.error result, uio)
  | .ok diskblock => do
      let buf ← (if diskblock = 0 then do
          kassert (!uio.write) "uio->uio_rw == UIO_READ"
          pure (.ok zeroBlock)
        else sfsReadblock .data diskblock)
      match buf with
      | .error result => pure (.error result, uio)
      | .ok buf => do
          let (buf, uio) := uiomove buf skipstart len uio
          if uio.write then do
            let result ← sfsWriteblock .data diskblock buf
            pure (result, uio)
          else pure (.ok (), uio)

-- A whole block goes between the disk and the request. The driver takes the bytes of a write
-- from the request before it starts the operation.
def sfsBlockio (ino : Nat) (uio : Uio) : Action (Except Word Unit × Uio) := do
  match ← sfsBmap ino (uio.offset / SFS_BLOCKSIZE) uio.write with
  | .error result => pure (.error result, uio)
  | .ok diskblock =>
    if diskblock = 0 then do
      kassert (!uio.write) "uio->uio_rw == UIO_READ"
      pure (.ok (), (uiomove zeroBlock 0 SFS_BLOCKSIZE uio).2)
    else do
      kassert (SFS_BLOCKSIZE ≤ uio.resid) "uio->uio_resid >= SFS_BLOCKSIZE"
      if uio.write then do
        let (buf, uio) := uiomove zeroBlock 0 SFS_BLOCKSIZE uio
        let result ← sfsWriteblock .data diskblock buf
        pure (result, uio)
      else do
        match ← sfsReadblock .data diskblock with
        | .error result => pure (.error result, uio)
        | .ok buf => pure (.ok (), (uiomove buf 0 SFS_BLOCKSIZE uio).2)

def wholeBlocks (ino : Nat) : Nat → Uio → Action (Except Word Unit × Uio)
  | 0, uio => pure (.ok (), uio)
  | count + 1, uio => do
      match ← sfsBlockio ino uio with
      | (.error result, uio) => pure (.error result, uio)
      | (.ok _, uio) => wholeBlocks ino count uio

def alignedIo (ino : Nat) (uio : Uio) : Action (Except Word Unit × Uio) :=
  if uio.resid = 0 then pure (.ok (), uio)
  else do
    kassert (uio.offset % SFS_BLOCKSIZE = 0) "uio->uio_offset % SFS_BLOCKSIZE == 0"
    match ← wholeBlocks ino (uio.resid / SFS_BLOCKSIZE) uio with
    | (.error result, uio) => pure (.error result, uio)
    | (.ok _, uio) => do
        kassert (uio.resid < SFS_BLOCKSIZE) "uio->uio_resid < SFS_BLOCKSIZE"
        if 0 < uio.resid then sfsPartialio ino uio 0 uio.resid else pure (.ok (), uio)

def pieces (ino : Nat) (uio : Uio) : Action (Except Word Unit × Uio) := do
  let blkoff := uio.offset % SFS_BLOCKSIZE
  if blkoff ≠ 0 then do
    match ← sfsPartialio ino uio blkoff (min (SFS_BLOCKSIZE - blkoff) uio.resid) with
    | (.error result, uio) => pure (.error result, uio)
    | (.ok _, uio) => alignedIo ino uio
  else alignedIo ino uio

def sfsIo (ino : Nat) (uio : Uio) : Action (Except Word Unit × Uio) := do
  let sv ← getSv ino
  let origresid := uio.resid
  if !uio.write ∧ sv.size ≤ uio.offset then pure (.ok (), uio)
  else do
    let extraresid := if uio.write then 0 else uio.offset + uio.resid - sv.size
    let (result, uio) ← pieces ino { uio with resid := uio.resid - extraresid }
    let sv ← getSv ino
    if uio.resid ≠ origresid ∧ uio.write ∧ sv.size < uio.offset then
      setSv ino { sv with size := uio.offset, dirty := true }
    pure (result, { uio with resid := uio.resid + extraresid })

end Os161.Sfs
