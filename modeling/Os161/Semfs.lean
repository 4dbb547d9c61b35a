import Os161.Lib.Threads
import Os161.Vm.Defs

-- The semaphores of kern/fs/semfs/semfs_vnops.c: threads read, write and truncate one of them,
-- over a lock and a condition variable that behave as specified.

namespace Os161.Semfs

open Lib Lib.Threads
open Vm (Word)

inductive Call where
  | read (resid : Word)
  | write (resid : Word)
  | truncate (len : Int)
  deriving DecidableEq, Repr

inductive Pc where
  | outside
  | readAcquire (resid : Word)
  -- the top of the loop of semfs_read, for the first time or after cv_wait
  | readTest (woken : Bool) (resid : Word)
  | readWait (resid : Word)
  | readRelock (resid : Word)
  | writeAcquire (resid : Word)
  | writeTest (resid : Word)
  | truncateAcquire (newcount : Word)
  | truncateTest (newcount : Word)
  -- cv_signal and cv_broadcast of semfs_wakeup, and the assignment after semfs_wakeup
  | signal (newcount : Word)
  | broadcast (newcount : Word)
  | assign (newcount : Word)
  | unlock
  deriving DecidableEq, Repr

-- sems_count is all of the data; there is one lock and one condition variable.
abbrev Instruction (T : Type) := Instr Call Word Unit Unit T Pc

abbrev SemfsState (T : Type) := State Word Unit Unit T Pc

def Call.enter : Call → Pc
  | .read resid => .readAcquire resid
  | .write resid => .writeAcquire resid
  | .truncate len =>
    if len < 0 ∨ 0xffffffff < len then .outside else .truncateAcquire (BitVec.ofInt 32 len)

def readRound (resid count : Word) : Word × Pc :=
  if resid = 0#32 then (count, .unlock)
  else
    let consume := if 0#32 < count then (if count < resid then count else resid) else 0#32
    let count := count - consume
    let resid := resid - consume
    (count, if resid = 0#32 then .unlock
      else if count = 0#32 then .readWait resid
      else .readTest false resid)

def semfsWakeup (count newcount : Word) : Pc :=
  if 0#32 < count ∨ newcount = 0#32 then .assign newcount
  else if newcount = 1#32 then .signal newcount
  else .broadcast newcount

variable {T : Type}

def semfsCode (_ : T) : Pc → Instruction T
  | .outside => .act fun call count => some (count, call.enter)
  | .readAcquire resid => .acquire () id (.readTest false resid)
  | .readTest _ resid => .act fun _ count => some (readRound resid count)
  | .readWait resid => .sleep () () id (.readRelock resid)
  | .readRelock resid => .acquire () id (.readTest true resid)
  | .writeAcquire resid => .acquire () id (.writeTest resid)
  -- the loop of semfs_write ends after one round; a sum that overflows is EFBIG
  | .writeTest resid => .act fun _ count => some (count,
      if resid = 0#32 ∨ count + resid < count then .unlock else semfsWakeup count (count + resid))
  | .truncateAcquire newcount => .acquire () id (.truncateTest newcount)
  | .truncateTest newcount => .act fun _ count => some (count, semfsWakeup count newcount)
  | .signal newcount => .wakeone () (fun _ => id) (.assign newcount)
  | .broadcast newcount => .wakeall () (fun _ => id) (.assign newcount)
  | .assign newcount => .act fun _ _ => some (newcount, .unlock)
  | .unlock => .release () id .outside

def semfsCreate (count : Word) : SemfsState T where
  pc := fun _ => .outside
  asleep := fun _ => false
  holder := fun _ => none
  chan := fun _ => []
  data := count

end Os161.Semfs
