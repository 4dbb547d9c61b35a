import Os161.Process

namespace Os161.File

open Function Lib Lib.Exec Vm Process

def OPEN_MAX : Nat := 128
def SYSTEM_OPEN_MAX : Nat := 10 * OPEN_MAX
def STDERR_FILENO : Nat := 2

def ENOENT : Word := 19#32
def EMFILE : Word := 28#32
def ENFILE : Word := 29#32

-- struct openfile. `vn` is a vnode by its address, `none` for NULL.
structure OpenFile where
  vn : Option Nat
  offset : BitVec 64
  countRef : Word
  deriving DecidableEq, Repr

-- A pointer into systemFileTable is the index of the entry.
@[ext] structure Kernel where
  system : System
  systemFileTable : Nat → OpenFile
  fileTable : Nat → Nat → Option Nat
  -- how often vfs_open has handed out a vnode, and how often vfs_close was called on it
  opens : Nat → Nat
  closes : Nat → Nat

@[simps]
def Kernel.setSystem (k : Kernel) (system : System) : Kernel := { k with system := system }
@[simps]
def Kernel.setOpenfile (k : Kernel) (i : Nat) (of : OpenFile) : Kernel :=
  { k with systemFileTable := update k.systemFileTable i of }
@[simps]
def Kernel.setDescriptor (k : Kernel) (p fd : Nat) (of : Option Nat) : Kernel :=
  { k with fileTable := update k.fileTable p (update (k.fileTable p) fd of) }
@[simps]
def Kernel.countOpen (k : Kernel) (v : Nat) : Kernel :=
  { k with opens := update k.opens v (k.opens v + 1) }
@[simps]
def Kernel.countClose (k : Kernel) (v : Nat) : Kernel :=
  { k with closes := update k.closes v (k.closes v + 1) }

abbrev Syscall (α : Type) := EStateM Stop Kernel α

def onSystem {α : Type} (x : Sys α) : Syscall α := fun k =>
  match x.run k.system with
  | .ok a sys => .ok a (k.setSystem sys)
  | .error e sys => .error e (k.setSystem sys)

def firstIndex (accepts : Nat → Bool) (first count : Nat) : Option Nat :=
  (List.range' first count).find? accepts

def Kernel.freeEntry (k : Kernel) : Option Nat :=
  firstIndex (fun i => (k.systemFileTable i).vn.isNone) 0 SYSTEM_OPEN_MAX

def Kernel.freeDescriptor (k : Kernel) : Option Nat :=
  firstIndex (fun fd => (k.fileTable k.system.curproc fd).isNone) (STDERR_FILENO + 1)
    (OPEN_MAX - (STDERR_FILENO + 1))

-- `vfsOpen` is the vnode that vfs_open finds for the path, `none` when it fails. The result is
-- the descriptor, or the value stored through `errp` when -1 is returned.
def sysOpen (vfsOpen : Option Nat) : Syscall (Except Word Nat) :=
  match vfsOpen with
  | none => pure (.error ENOENT)
  | some v => do
      modify fun k => k.countOpen v
      let k ← get
      match k.freeEntry with
      | none => do
          modify fun k => k.countClose v
          pure (.error ENFILE)
      | some i => do
          modify fun k => k.setOpenfile i ⟨some v, 0#64, 1#32⟩
          let k ← get
          match k.freeDescriptor with
          | some fd => do
              modify fun k => k.setDescriptor k.system.curproc fd (some i)
              pure (.ok fd)
          | none => do
              modify fun k => k.countClose v
              pure (.error EMFILE)

inductive Pointer where
  | entry (i : Nat)
  | astray
  deriving DecidableEq, Repr

def OPENFILE_SIZE : Nat := 24

-- A word read as a pointer, when systemFileTable lies at address `table`.
def pointerAt (table w : Word) : Option Pointer :=
  if w = 0#32 then none
  else if (w - table).toNat % OPENFILE_SIZE = 0 ∧
      (w - table).toNat / OPENFILE_SIZE < SYSTEM_OPEN_MAX then
    some (.entry ((w - table).toNat / OPENFILE_SIZE))
  else some .astray

-- `curproc->fileTable[fd]`. Index OPEN_MAX is past the array: in struct proc the field `pid`
-- comes next.
def readDescriptor (table : Word) (fd : Nat) : Syscall (Option Pointer) := do
  let k ← get
  if fd < OPEN_MAX then pure ((k.fileTable k.system.curproc fd).map .entry)
  else do
    let proc ← onSystem (readProc k.system.curproc)
    pure (pointerAt table proc.pid)

def clearDescriptor (fd : Nat) : Syscall Unit := do
  let k ← get
  if fd < OPEN_MAX then modify fun k => k.setDescriptor k.system.curproc fd none
  else onSystem (updateProc k.system.curproc fun proc => { proc with pid := 0#32 })

def dropReference : Pointer → Syscall Int
  | .astray => throw .dangling
  | .entry i => do
      modify fun k => k.setOpenfile i
        { k.systemFileTable i with countRef := (k.systemFileTable i).countRef - 1#32 }
      let k ← get
      if 0#32 < (k.systemFileTable i).countRef then pure 0
      else do
        modify fun k => k.setOpenfile i { k.systemFileTable i with vn := none }
        match (k.systemFileTable i).vn with
        | none => pure (-1)
        | some vn => do
            modify fun k => k.countClose vn
            pure 0

def sysClose (table : Word) (fd : Int) : Syscall Int :=
  if fd < 0 ∨ (OPEN_MAX : Int) < fd then pure (-1)
  else do
    let of ← readDescriptor table fd.toNat
    match of with
    | none => pure (-1)
    | some of => do
        clearDescriptor fd.toNat
        dropReference of

def openfileIncrRefCount (of : Option Nat) : Syscall Unit :=
  match of with
  | none => pure ()
  | some i => modify fun k => k.setOpenfile i
      { k.systemFileTable i with countRef := (k.systemFileTable i).countRef + 1#32 }

def procFileTableCopy (psrc pdest : Nat) : Syscall Unit :=
  loop (fun fd => do
    let k ← get
    modify fun k' => k'.setDescriptor pdest fd (k.fileTable psrc fd)
    openfileIncrRefCount (k.fileTable psrc fd)) 0 OPEN_MAX

def procCreateRunprogram (m : Kmalloc) : Syscall (Option Nat) := do
  let newproc ← onSystem (Process.procCreateRunprogram m)
  match newproc with
  | none => pure none
  | some p => do
      modify fun k => { k with fileTable := update k.fileTable p fun _ => none }
      pure (some p)

def sysFork (env : Env) (m : Kmalloc) : Syscall (Option Nat) := do
  let newproc ← procCreateRunprogram m
  match newproc with
  | none => pure none
  | some newp =>
    match m.as with
    | none => do
        onSystem (procDestroy env newp)
        pure none
    | some as => do
        onSystem (onVm (asCreate as))
        onSystem (updateProc newp fun proc => { proc with pAddrspace := some as })
        let k ← get
        procFileTableCopy newp k.system.curproc
        if m.trapframe && m.thread then do
          onSystem (procAddthread newp)
          let proc ← onSystem (readProc newp)
          pure (some proc.pPid)
        else do
          onSystem (procDestroy env newp)
          pure none

end Os161.File
