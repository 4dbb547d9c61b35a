import Os161.File.Lemmas
import Os161.Vm.Fault.Segments

namespace Os161.File

open Lib Lib.Exec Vm Process

def STDIN_FILENO : Nat := 0
def STDOUT_FILENO : Nat := 1

-- With the positions of curproc->fileTable that the call has used and the characters that went
-- through the console.
structure Session where
  kernel : Kernel
  indexed : List Nat
  console : List UInt8

abbrev Io (α : Type) := EStateM Stop Session α

def onKernel {α : Type} (x : Syscall α) : Io α := fun m =>
  match x.run m.kernel with
  | .ok a k => .ok a { m with kernel := k }
  | .error e k => .error e { m with kernel := k }

def Session.index (m : Session) (fd : Nat) : Session := { m with indexed := m.indexed ++ [fd] }

def tableEntry (table : Word) (fd : Nat) : Io (Option Pointer) := do
  modify fun m => m.index fd
  onKernel (readDescriptor table fd)

def clearEntry (fd : Nat) : Io Unit := do
  modify fun m => m.index fd
  onKernel (clearDescriptor fd)

-- How VOP_READ or VOP_WRITE returns: its result, and how many bytes it has moved.
structure VopResult where
  result : Word
  moved : Word
  deriving DecidableEq, Repr

structure Uio where
  resid : Word
  offset : BitVec 64
  deriving DecidableEq, Repr

def Uio.move (u : Uio) (n : Word) : Uio := ⟨u.resid - n, u.offset + n.setWidth 64⟩

-- The arguments of read and write, with what the call meets on its way: the results of the
-- vnode operations, the characters typed, and the user's buffer, `none` where the kernel
-- cannot access it.
structure Transfer where
  fd : Word
  size : Word
  vopRead : VopResult
  vopWrite : VopResult
  typed : Nat → UInt8
  buffer : Nat → Option UInt8

def OpenFile.uio (of : OpenFile) (size : Word) (vop : VopResult) : Uio :=
  Uio.move ⟨size, of.offset⟩ vop.moved

-- file_read and file_write, which differ in the vnode operation only: what they do with the
-- open file, with the pointer, and with the descriptor.
def entryIo (vop : VopResult) (i : Nat) (size : Word) : Io Word := do
  let m ← get
  match (m.kernel.systemFileTable i).vn with
  | none => pure (-1#32)
  | some _ =>
    if vop.result ≠ 0#32 then pure vop.result
    else do
      onKernel (modify fun k => k.setOpenfile i { k.systemFileTable i with
        offset := ((k.systemFileTable i).uio size vop).offset })
      pure (size - ((m.kernel.systemFileTable i).uio size vop).resid)

def pointerIo (vop : VopResult) (size : Word) : Option Pointer → Io Word
  | none => pure (-1#32)
  | some .astray => throw .dangling
  | some (.entry i) => entryIo vop i size

def fileIo (table : Word) (vop : VopResult) (fd size : Word) : Io Word :=
  if fd.toInt < 0 ∨ (OPEN_MAX : Int) < fd.toInt then pure (-1#32)
  else do
    let of ← tableEntry table fd.toNat
    pointerIo vop size of

def fileRead (table : Word) (t : Transfer) : Io Word := fileIo table t.vopRead t.fd t.size
def fileWrite (table : Word) (t : Transfer) : Io Word := fileIo table t.vopWrite t.fd t.size

def passChar (c : UInt8) : Io Unit := modify fun m => { m with console := m.console ++ [c] }

def putChars (t : Transfer) : Nat → Nat → Io Unit
  | 0, _ => pure ()
  | count + 1, i =>
    match t.buffer i with
    | none => throw .dangling
    | some c => do
        passChar c
        putChars t count (i + 1)

-- The character is stored before it is looked at, as a signed char.
def getChars (t : Transfer) : Nat → Nat → Io (Option Nat)
  | 0, _ => pure none
  | count + 1, i =>
    if (t.buffer i).isNone then throw .dangling
    else do
      passChar (t.typed i)
      if 0x80 ≤ t.typed i then pure (some i)
      else getChars t count (i + 1)

def loopCount (size : Word) : Nat := size.toInt.toNat

def sysWrite (table : Word) (t : Transfer) : Io Word :=
  if t.fd ≠ BitVec.ofNat 32 STDOUT_FILENO ∧ t.fd ≠ BitVec.ofNat 32 STDERR_FILENO then
    fileWrite table t
  else do
    putChars t (loopCount t.size) 0
    pure t.size

def sysRead (table : Word) (t : Transfer) : Io Word :=
  if t.fd ≠ BitVec.ofNat 32 STDIN_FILENO then fileRead table t
  else do
    let early ← getChars t (loopCount t.size) 0
    pure ((early.map (BitVec.ofNat 32)).getD t.size)

def closePointer (fd : Nat) : Option Pointer → Io Int
  | none => pure (-1)
  | some of => do
      clearEntry fd
      onKernel (dropReference of)

def closeEntry (table fd : Word) : Io Int :=
  if fd.toInt < 0 ∨ (OPEN_MAX : Int) < fd.toInt then pure (-1)
  else do
    let of ← tableEntry table fd.toNat
    closePointer fd.toNat of

inductive Rw where
  | read
  | write
  deriving DecidableEq, Repr

def sysIo (table : Word) : Rw → Transfer → Io Word
  | .read => sysRead table
  | .write => sysWrite table

structure Answer where
  v0 : Word
  a3 : Word
  deriving DecidableEq, Repr

def answer (retval err : Word) : Answer := if err ≠ 0#32 then ⟨err, 1#32⟩ else ⟨retval, 0#32⟩

def syscallIo (table : Word) (rw : Rw) (t : Transfer) : Io Answer := do
  let retval ← sysIo table rw t
  let err := if retval.toInt < 0 then ENOSYS else 0#32
  pure (answer retval err)

end Os161.File
