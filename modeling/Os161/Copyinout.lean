import Os161.Vm.Defs

-- Copying between the kernel and user memory, kern/vm/copyinout.c. Memory is seen through two
-- kinds of pointers: `user` through the ones that a user program supplies, `kernel` through
-- those of the kernel.

namespace Os161.Copyinout

open Vm

def USERSPACETOP : Word := MIPS_KSEG0
inductive Access where
  | load | store
  deriving DecidableEq, Repr

-- Why straight-line code does not go on: a fault takes it to copyfail, or the kernel stops.
inductive Exit where
  | copyfail
  | stop (stop : Stop)
  deriving DecidableEq, Repr

structure State where
  user : Word → UInt8
  kernel : Word → UInt8
  -- the accesses to user memory that end in a fault that the VM system cannot handle
  faults : Access → Word → Bool
  -- whether tm_badfaultfunc of the current thread is copyfail, or else NULL
  badfaultfunc : Bool
  -- the accesses that have been made through user pointers
  accesses : List (Access × Word)

abbrev Copy (α : Type) := EStateM Exit State α

def setBadfaultfunc (copyfail : Bool) : Copy Unit :=
  modify fun s => { s with badfaultfunc := copyfail }

-- An access through a user pointer. Without copyfail a fatal fault is a panic of mips_trap.
def access (kind : Access) (addr : Word) : Copy Unit := do
  modify fun s => { s with accesses := s.accesses ++ [(kind, addr)] }
  let s ← get
  if s.faults kind addr then
    throw (if s.badfaultfunc then .copyfail
      else .stop (.panic "I can't handle this... I think I'll just die now...\n" []))

def loadUser (addr : Word) : Copy UInt8 := do
  access .load addr
  let s ← get
  pure (s.user addr)

def storeUser (addr : Word) (value : UInt8) : Copy Unit := do
  access .store addr
  modify fun s => { s with user := Function.update s.user addr value }

def loadKernel (addr : Word) : Copy UInt8 := do
  let s ← get
  pure (s.kernel addr)

def storeKernel (addr : Word) (value : UInt8) : Copy Unit :=
  modify fun s => { s with kernel := Function.update s.kernel addr value }

def copycheck (userptr len : Word) : Word × Word :=
  let bot := userptr
  let top := bot + len - 1
  if top < bot then (EFAULT, len)
  else if USERSPACETOP ≤ bot then (EFAULT, len)
  else if USERSPACETOP ≤ top then (0, USERSPACETOP - bot)
  else (0, len)

-- The code after setjmp; the longjmp of copyfail comes back to `recover`.
def setjmp {α : Type} (body recover : Copy α) : Copy α := fun s =>
  match body.run s with
  | .error .copyfail t => recover.run t
  | result => result

def guarded {α : Type} (fail : α) (body : Copy α) : Copy α := do
  setBadfaultfunc true
  setjmp (do
      let result ← body
      setBadfaultfunc false
      pure result)
    (do
      setBadfaultfunc false
      pure fail)

def copyin (usersrc dest len : Word) : Copy Word :=
  let (result, stoplen) := copycheck usersrc len
  if result ≠ 0 then pure result
  else if stoplen ≠ len then pure EFAULT
  else guarded EFAULT do
    Lib.Exec.loop (fun i => do
      let c ← loadUser (usersrc + BitVec.ofNat 32 i)
      storeKernel (dest + BitVec.ofNat 32 i) c) 0 len.toNat
    pure 0

def copyout (src userdest len : Word) : Copy Word :=
  let (result, stoplen) := copycheck userdest len
  if result ≠ 0 then pure result
  else if stoplen ≠ len then pure EFAULT
  else guarded EFAULT do
    Lib.Exec.loop (fun i => do
      let c ← loadKernel (src + BitVec.ofNat 32 i)
      storeUser (userdest + BitVec.ofNat 32 i) c) 0 len.toNat
    pure 0

end Os161.Copyinout
