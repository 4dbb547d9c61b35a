import Os161.Vm.Defs

namespace Os161.Spl

open Lib Lib.Exec Vm

def IPL_NONE : Int := 0
def IPL_HIGH : Int := 1

structure Spinlock (C : Type) where
  lock : Bool
  holder : Option C
  deriving DecidableEq, Repr

-- `curcpu` is `none` before its initialization; `irq` says whether the CPU takes interrupts.
structure Machine (C L : Type) where
  curcpu : Option C
  curspl : Int
  iplhighCount : Int
  irq : Bool
  spinlocks : Nat
  splk : L → Spinlock C

variable {C L : Type}

@[simps]
def Machine.setCurspl (s : Machine C L) (spl : Int) : Machine C L := { s with curspl := spl }
@[simps]
def Machine.setIrq (s : Machine C L) (on : Bool) : Machine C L := { s with irq := on }
@[simps]
def Machine.setCount (s : Machine C L) (count : Int) : Machine C L :=
  { s with iplhighCount := count }
@[simps]
def Machine.setSpinlocks (s : Machine C L) (n : Nat) : Machine C L := { s with spinlocks := n }
@[simps]
def Machine.setSplk [DecidableEq L] (s : Machine C L) (l : L) (splk : Spinlock C) : Machine C L :=
  { s with splk := Function.update s.splk l splk }

abbrev OnCpu (C L α : Type) := EStateM Stop (Machine C L) α

def cpuIrqoff : OnCpu C L Unit := modify fun s => s.setIrq false
def cpuIrqon : OnCpu C L Unit := modify fun s => s.setIrq true

def splraise (oldspl newspl : Int) : OnCpu C L Unit := do
  kassert (oldspl = IPL_NONE) "oldspl == IPL_NONE"
  kassert (newspl = IPL_HIGH) "newspl == IPL_HIGH"
  let s ← get
  if s.curcpu.isNone then pure ()
  else do
    if s.iplhighCount = 0 then cpuIrqoff else pure ()
    modify fun s => s.setCount (s.iplhighCount + 1)

def spllower (oldspl newspl : Int) : OnCpu C L Unit := do
  kassert (oldspl = IPL_HIGH) "oldspl == IPL_HIGH"
  kassert (newspl = IPL_NONE) "newspl == IPL_NONE"
  let s ← get
  if s.curcpu.isNone then pure ()
  else do
    modify fun s => s.setCount (s.iplhighCount - 1)
    if s.iplhighCount - 1 = 0 then cpuIrqon else pure ()

def splx (spl : Int) : OnCpu C L Int := do
  let s ← get
  if s.curcpu.isNone then pure spl
  else if s.curspl < spl then do
    splraise s.curspl spl
    modify fun s => s.setCurspl spl
    pure s.curspl
  else if spl < s.curspl then do
    modify fun s => s.setCurspl spl
    spllower s.curspl spl
    pure s.curspl
  else pure spl

def spl0 : OnCpu C L Int := splx IPL_NONE
def splhigh : OnCpu C L Int := splx IPL_HIGH

variable [DecidableEq C] [DecidableEq L]

def enterSpinlock (l : L) : OnCpu C L Unit := do
  let s ← get
  match s.curcpu with
  | some mycpu =>
    if (s.splk l).holder = some mycpu then throw (.panic "Deadlock on spinlock %p\n" [])
    else modify fun s => s.setSpinlocks (s.spinlocks + 1)
  | none => pure ()

-- While another CPU has the lock the loop goes round: `blocked` says that it has to move first.
def spinlockAcquire (l : L) : OnCpu C L Unit := do
  splraise IPL_NONE IPL_HIGH
  enterSpinlock l
  let s ← get
  if (s.splk l).lock then throw .blocked
  else modify fun s => s.setSplk l ⟨true, s.curcpu⟩

def spinlockRelease (l : L) : OnCpu C L Unit := do
  let s ← get
  if s.curcpu.isSome then do
    kassert ((s.splk l).holder = s.curcpu) "splk->splk_holder == curcpu->c_self"
    kassert (0 < s.spinlocks) "curcpu->c_spinlocks > 0"
    modify fun s => s.setSpinlocks (s.spinlocks - 1)
  else pure ()
  modify fun s => s.setSplk l ⟨false, none⟩
  spllower IPL_HIGH IPL_NONE

inductive Call (L : Type) where
  | acquire (l : L)
  | release (l : L)
  | splx (spl : Int)
  | splhigh
  | spl0

def Call.perform : Call L → OnCpu C L Unit
  | .acquire l => spinlockAcquire l
  | .release l => spinlockRelease l
  | .splx spl => discard (Spl.splx spl)
  | .splhigh => discard Spl.splhigh
  | .spl0 => discard Spl.spl0

end Os161.Spl
