import Os161.Uiomove

-- The LAMEbus disk, kern/dev/lamebus/lhd.c, and the block transfers of kern/fs/sfs/sfs_io.c. One
-- thread uses the disk: lh_clear and the memory barriers are left out.

namespace Os161.Lhd

open Copyinout Uiomove
open Vm (Word EINVAL Stop)

def EAGAIN : Word := 4#32
def EIO : Word := 32#32

def LHD_IDLE : Word := 0#32
def LHD_WORKING : Word := 1#32
def LHD_OK : Word := 4#32
def LHD_INVSECT : Word := 12#32
def LHD_MEDIA : Word := 20#32
def LHD_STATEMASK : Word := 0x1d#32
def LHD_SECTSIZE : Word := 512#32
def SFS_BLOCKSIZE : Word := 512#32

def lhdCodeToErrno (code : Word) : Word :=
  if code &&& LHD_STATEMASK = LHD_OK then 0#32
  else if code &&& LHD_STATEMASK = LHD_INVSECT then EINVAL
  else if code &&& LHD_STATEMASK = LHD_MEDIA then EIO
  else EAGAIN

def lhdIrq (val : Word) : Option Word :=
  if val &&& LHD_STATEMASK = LHD_IDLE ∨ val &&& LHD_STATEMASK = LHD_WORKING then none
  else if val &&& LHD_STATEMASK = LHD_OK ∨ val &&& LHD_STATEMASK = LHD_INVSECT ∨
      val &&& LHD_STATEMASK = LHD_MEDIA then some (lhdCodeToErrno val)
  else none

-- An operation that the disk has completed, with the 512 bytes of a write.
structure Request where
  sector : Word
  write : Bool
  data : List UInt8
  result : Word
  deriving DecidableEq, Repr

structure Device where
  mem : State
  blocks : Word
  buf : Word
  zeros : Word
  sectors : Word → List UInt8
  -- what the coming interrupts will find in the status register
  interrupts : List Word
  requests : List Request

abbrev Disk (α : Type) := EStateM Exit Device α

def onMem {α : Type} (x : Copy α) : Disk α := fun d =>
  match x.run d.mem with
  | .ok a mem => .ok a { d with mem := mem }
  | .error e mem => .error e { d with mem := mem }

def lhdWait : List Word → Option (Word × List Word)
  | [] => none
  | val :: vals =>
    match lhdIrq val with
    | some result => some (result, vals)
    | none => lhdWait vals

def cardData (mem : State) (buf : Word) : List UInt8 :=
  (List.range LHD_SECTSIZE.toNat).map fun i => mem.kernel (buf + BitVec.ofNat 32 i)

def operate (sector : Word) (write : Bool) : Disk Word := do
  let d ← get
  match lhdWait d.interrupts with
  | none => throw (.stop .blocked)
  | some (result, interrupts) => do
      let data := if write then cardData d.mem d.buf else []
      let request : Request := ⟨sector, write, data, result⟩
      set { d with interrupts := interrupts, requests := d.requests ++ [request] }
      if result = 0 then
        if write then
          modify fun d => { d with sectors := Function.update d.sectors sector data }
        else
          onMem (Lib.Exec.loop (fun i =>
            storeKernel (d.buf + BitVec.ofNat 32 i) ((d.sectors sector).getD i 0)) 0
              LHD_SECTSIZE.toNat)
      pure result

def moveCard (uio : Uio) : Disk (Word × Uio) := do
  let d ← get
  onMem (uiomove d.buf LHD_SECTSIZE uio)

def lhdIoLoop (sector : Word) : Nat → Nat → Uio → Disk (Word × Uio)
  | 0, _, uio => pure (0, uio)
  | left + 1, i, uio => do
      let (result, uio) ← (if uio.rw = .write then moveCard uio else pure (0, uio))
      if result ≠ 0 then pure (result, uio)
      else do
        let result ← operate (sector + BitVec.ofNat 32 i) (uio.rw = .write)
        let (result, uio) ←
          (if result = 0 ∧ uio.rw = .read then moveCard uio else pure (result, uio))
        if result ≠ 0 then pure (result, uio) else lhdIoLoop sector left (i + 1) uio

def lhdIo (uio : Uio) : Disk (Word × Uio) := do
  let sector := BitVec.ofInt 32 (uio.offset.tdiv LHD_SECTSIZE.toNat)
  let sectoff := BitVec.ofInt 32 (uio.offset.tmod LHD_SECTSIZE.toNat)
  let len := uio.resid / LHD_SECTSIZE
  let lenoff := uio.resid % LHD_SECTSIZE
  let d ← get
  if sectoff ≠ 0 ∨ lenoff ≠ 0 then pure (EINVAL, uio)
  else if d.blocks < sector + len then pure (EINVAL, uio)
  else lhdIoLoop sector len.toNat 0 uio

-- sfs_rwblock with `left` retries to go. The name of the volume in its panic is left out.
def sfsRwblockFrom (left : Nat) (uio : Uio) : Disk (Word × Uio) := do
  let (result, uio) ← lhdIo uio
  if result = EINVAL then throw (.stop (.panic "sfs: %s: DEVOP_IO returned EINVAL\n" []))
  else if result = EIO then
    match left with
    | 0 => pure (result, uio)
    | left + 1 => sfsRwblockFrom left uio
  else pure (result, uio)

def sfsRwblock (uio : Uio) : Disk (Word × Uio) := sfsRwblockFrom 10 uio

def sfsUio (data block : Word) (rw : UioRw) : Uio :=
  ⟨[⟨data, SFS_BLOCKSIZE⟩], block.toNat * SFS_BLOCKSIZE.toNat, SFS_BLOCKSIZE, .sysspace, rw⟩

def sfsWriteblock (block data : Word) : Disk Word := do
  let (result, _) ← sfsRwblock (sfsUio data block .write)
  pure result

def uiomovezerosLoop (zeros : Word) : Nat → Word → Uio → Copy (Word × Uio)
  | 0, _, _ => throw (.stop .hang)
  | fuel + 1, n, uio =>
    if 0 < n then do
      let amt : Word := if n < 16#32 then n else 16#32
      let (result, uio) ← uiomove zeros amt uio
      if result ≠ 0 then pure (result, uio)
      else uiomovezerosLoop zeros fuel (n - amt) uio
    else pure (0, uio)

def uiomovezeros (zeros n : Word) (uio : Uio) : Copy (Word × Uio) :=
  if uio.rw ≠ .read then throw (.stop (.kassert "uio->uio_rw == UIO_READ"))
  else uiomovezerosLoop zeros (n.toNat + 1) n uio

-- The request for the device. diskoff, the product, is taken in 32 bits.
def blockioUio (diskblock : Word) (uio : Uio) : Uio :=
  { uio with offset := (diskblock * SFS_BLOCKSIZE).toNat, resid := SFS_BLOCKSIZE }

-- The uio after the request, with what it has moved taken from saveoff and saveres.
def restoreUio (request saved after : Uio) : Uio :=
  { after with
    offset := after.offset - request.offset + saved.offset
    resid := after.resid - request.resid + saved.resid }

-- The block map of the file is a parameter: what sfs_bmap answers for a block of the file and
-- doalloc, an error or a block of the disk.
def sfsBlockio (bmap : Word → Bool → Except Word Word) (uio : Uio) : Disk (Word × Uio) := do
  let fileblock := BitVec.ofInt 32 (uio.offset.tdiv SFS_BLOCKSIZE.toNat)
  match bmap fileblock (uio.rw = .write) with
  | .error result => pure (result, uio)
  | .ok diskblock =>
    if diskblock = 0 then do
      let d ← get
      if uio.rw ≠ .read then throw (.stop (.kassert "uio->uio_rw == UIO_READ"))
      else onMem (uiomovezeros d.zeros SFS_BLOCKSIZE uio)
    else if uio.resid < SFS_BLOCKSIZE then
      throw (.stop (.kassert "uio->uio_resid >= SFS_BLOCKSIZE"))
    else do
      let (result, after) ← sfsRwblock (blockioUio diskblock uio)
      pure (result, restoreUio (blockioUio diskblock uio) uio after)

end Os161.Lhd
