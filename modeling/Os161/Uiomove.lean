import Os161.Copyinout

-- kern/lib/uio.c. The functions return what is left of the uio. uio_space, which uiomove only
-- asserts to be the current address space, is left out.

namespace Os161.Uiomove

open Copyinout Vm

inductive UioRw where
  -- from the kernel to the buffers of the uio, and the other way
  | read | write
  deriving DecidableEq, Repr

inductive UioSeg where
  | userispace | userspace | sysspace
  deriving DecidableEq, Repr

structure Iovec where
  base : Word
  len : Word
  deriving DecidableEq, Repr

-- The offset, 64 bits wide in the source, is not bounded here.
structure Uio where
  iov : List Iovec
  offset : Int
  resid : Word
  segflg : UioSeg
  rw : UioRw
  deriving DecidableEq, Repr

def memmove (dest src : Word) (size : Nat) : Copy Unit := do
  let s ← get
  Lib.Exec.loop (fun i =>
    storeKernel (dest + BitVec.ofNat 32 i) (s.kernel (src + BitVec.ofNat 32 i))) 0 size

def transfer (seg : UioSeg) (rw : UioRw) (ptr base size : Word) : Copy Word :=
  match seg, rw with
  | .sysspace, .read => do
      memmove base ptr size.toNat
      pure 0
  | .sysspace, .write => do
      memmove ptr base size.toNat
      pure 0
  | _, .read => copyout ptr base size
  | _, .write => copyin base ptr size

-- The loop of uiomove. Each round moves at least a byte or drops an iovec.
def uiomoveLoop : Nat → Word → Word → Uio → Copy (Word × Uio)
  | 0, _, _, _ => throw (.stop .hang)
  | fuel + 1, ptr, n, uio =>
    if 0 < n ∧ 0 < uio.resid then
      match uio.iov with
      | [] => throw (.stop .dangling)
      | iov :: rest =>
        let size := if n < iov.len then n else iov.len
        if size = 0 then
          if rest = [] then throw (.stop (.panic "uiomove: ran out of buffers\n" []))
          else uiomoveLoop fuel ptr n { uio with iov := rest }
        else do
          let result ← transfer uio.segflg uio.rw ptr iov.base size
          if result ≠ 0 then pure (result, uio)
          else
            let uio' : Uio := { uio with
              iov := ⟨iov.base + size, iov.len - size⟩ :: rest
              resid := uio.resid - size
              offset := uio.offset + size.toNat }
            uiomoveLoop fuel (ptr + size) (n - size) uio'
    else pure (0, uio)

def uiomove (ptr n : Word) (uio : Uio) : Copy (Word × Uio) :=
  uiomoveLoop (n.toNat + uio.iov.length + 1) ptr n uio

end Os161.Uiomove
