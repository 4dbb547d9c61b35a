import Os161.Synch

namespace Os161.Synch

open Function Lib Lib.Threads Vm

inductive Caller (Cv : Type) where
  | user
  | cvWait (c : Cv)
  deriving DecidableEq, Repr

-- lock_do_i_hold, and the place where it is called. lock_acquire calls it twice; `wake` is
-- cv_signal or cv_broadcast.
inductive HoldPc where
  | acquire | test | release (res : Bool)
  deriving DecidableEq, Repr

inductive HoldSite (Cv : Type) where
  | acquire (caller : Caller Cv)
  | acquireAgain (caller : Caller Cv)
  | release (caller : Caller Cv)
  | wait (c : Cv)
  | wake (all : Bool) (c : Cv)
  deriving DecidableEq, Repr

-- lock_acquire from P or the first spinlock_acquire on. `reacquire` is the spinlock_acquire at
-- the end of wchan_sleep.
inductive AcquirePc where
  | inP (p : PPc) | lock | test | sleep | reacquire | own | unlock
  deriving DecidableEq, Repr

inductive ReleasePc where
  | lock | clear | inV (v : VPc) | wakeone | unlock
  deriving DecidableEq, Repr

inductive CvWaitPc where
  | lock | sleep | reacquire | unlock | returned
  deriving DecidableEq, Repr

inductive CvWakePc where
  | lock | wake | unlock
  deriving DecidableEq, Repr

-- A thread whose assertion on the result of lock_do_i_hold has failed is at `failed`.
inductive LockPc (Lk Cv : Type) where
  | outside
  | doIHold (site : HoldSite Cv) (l : Lk) (h : HoldPc)
  | acquire (caller : Caller Cv) (l : Lk) (a : AcquirePc)
  | release (caller : Caller Cv) (l : Lk) (r : ReleasePc)
  | wait (c : Cv) (l : Lk) (w : CvWaitPc)
  | wake (all : Bool) (c : Cv) (l : Lk) (w : CvWakePc)
  | failed (site : HoldSite Cv)
  deriving DecidableEq, Repr

inductive LockCall (Lk Cv : Type) where
  | lockAcquire (l : Lk)
  | lockRelease (l : Lk)
  | cvWait (c : Cv) (l : Lk)
  | cvSignal (c : Cv) (l : Lk)
  | cvBroadcast (c : Cv) (l : Lk)
  deriving DecidableEq, Repr

inductive Sync (Lk Cv : Type) where
  | lk (l : Lk)
  | sem (l : Lk)
  | cv (c : Cv)
  deriving DecidableEq, Repr

-- On record are who is between lock_acquire and lock_release, and which threads have released
-- the lock in cv_wait and have not been woken since.
structure LockData (T Lk Cv : Type) where
  lkOwner : Lk → Option T
  semCount : Lk → Word
  held : T × Lk → Bool
  waiting : T → Option Cv

variable {T Lk Cv : Type} [DecidableEq T] [DecidableEq Lk] [DecidableEq Cv]

abbrev LockInstr (T Lk Cv : Type) :=
  Instr (LockCall Lk Cv) (LockData T Lk Cv) (Sync Lk Cv) (Sync Lk Cv) T (LockPc Lk Cv)

def lkSem (l : Lk) : Semaphore (LockData T Lk Cv) (Sync Lk Cv) (Sync Lk Cv) where
  semLock := .sem l
  semWchan := .sem l
  semCount := fun d => d.semCount l
  setSemCount := fun d n => { d with semCount := update d.semCount l n }
  access := id

def LockCall.enter : LockCall Lk Cv → LockPc Lk Cv
  | .lockAcquire l => .doIHold (.acquire .user) l .acquire
  | .lockRelease l => .doIHold (.release .user) l .acquire
  | .cvWait c l => .doIHold (.wait c) l .acquire
  | .cvSignal c l => .doIHold (.wake false c) l .acquire
  | .cvBroadcast c l => .doIHold (.wake true c) l .acquire

def HoldSite.next (useSemaphore : Bool) (l : Lk) (res : Bool) : HoldSite Cv → LockPc Lk Cv
  | .acquire caller => .doIHold (.acquireAgain caller) l .acquire
  | .acquireAgain caller =>
    if res then .failed (.acquireAgain caller)
    else .acquire caller l (if useSemaphore then .inP .acquire else .lock)
  | .release caller => if res then .release caller l .lock else .failed (.release caller)
  | .wait c => if res then .wait c l .lock else .failed (.wait c)
  | .wake all c => if res then .wake all c l .lock else .failed (.wake all c)

def doIHoldCode (useSemaphore : Bool) (t : T) (site : HoldSite Cv) (l : Lk) :
    HoldPc → LockInstr T Lk Cv
  | .acquire => .acquire (.lk l) id (.doIHold site l .test)
  | .test => .act fun _ d =>
    some (d, .doIHold site l (.release (decide (d.lkOwner l = some t))))
  | .release res => .release (.lk l) id (site.next useSemaphore l res)

def Caller.acquired (l : Lk) : Caller Cv → LockPc Lk Cv
  | .user => .outside
  | .cvWait c => .wait c l .returned

def acquireCode (useSemaphore : Bool) (t : T) (caller : Caller Cv) (l : Lk) :
    AcquirePc → LockInstr T Lk Cv
  | .inP p => P (lkSem l) (fun p => .acquire caller l (.inP p)) id (.acquire caller l .lock) p
  | .lock => .acquire (.lk l) id (.acquire caller l (if useSemaphore then .own else .test))
  | .test => .act fun _ d =>
    some (d, .acquire caller l (if d.lkOwner l = none then .own else .sleep))
  | .sleep => .sleep (.lk l) (.lk l) id (.acquire caller l .reacquire)
  | .reacquire => .acquire (.lk l) id (.acquire caller l .test)
  | .own => .act fun _ d =>
    if d.lkOwner l = none then
      some ({ d with lkOwner := update d.lkOwner l (some t) }, .acquire caller l .unlock)
    else none
  | .unlock => .release (.lk l)
      (fun d => { d with held := update d.held (t, l) true }) (caller.acquired l)

def Caller.released (l : Lk) : Caller Cv → LockPc Lk Cv
  | .user => .outside
  | .cvWait c => .wait c l .sleep

def Caller.waitsOn : Caller Cv → Option Cv
  | .user => none
  | .cvWait c => some c

def releaseCode (useSemaphore : Bool) (t : T) (caller : Caller Cv) (l : Lk) :
    ReleasePc → LockInstr T Lk Cv
  | .lock => .acquire (.lk l) id (.release caller l .clear)
  | .clear => .act fun _ d =>
    some ({ d with
      lkOwner := update d.lkOwner l none
      held := update d.held (t, l) false
      waiting := update d.waiting t caller.waitsOn },
      .release caller l (if useSemaphore then .inV .acquire else .wakeone))
  | .inV v => V (lkSem l) (fun v => .release caller l (.inV v)) id (.release caller l .unlock) v
  | .wakeone => .wakeone (.lk l) (fun _ => id) (.release caller l .unlock)
  | .unlock => .release (.lk l) id (caller.released l)

def cvWaitCode (c : Cv) (l : Lk) : CvWaitPc → LockInstr T Lk Cv
  | .lock => .acquire (.cv c) id (.doIHold (.release (.cvWait c)) l .acquire)
  | .sleep => .sleep (.cv c) (.cv c) id (.wait c l .reacquire)
  | .reacquire => .acquire (.cv c) id (.wait c l .unlock)
  | .unlock => .release (.cv c) id (.doIHold (.acquire (.cvWait c)) l .acquire)
  | .returned => .act fun _ d => some (d, .outside)

def LockData.woken (us : List T) (d : LockData T Lk Cv) : LockData T Lk Cv :=
  { d with waiting := fun u => if u ∈ us then none else d.waiting u }

def cvWakeCode (all : Bool) (c : Cv) (l : Lk) : CvWakePc → LockInstr T Lk Cv
  | .lock => .acquire (.cv c) id (.wake all c l .wake)
  | .wake =>
    if all then .wakeall (.cv c) LockData.woken (.wake all c l .unlock)
    else .wakeone (.cv c) (fun u => LockData.woken u.toList) (.wake all c l .unlock)
  | .unlock => .release (.cv c) id .outside

def lockCode (useSemaphore : Bool) (t : T) : LockPc Lk Cv → LockInstr T Lk Cv
  | .outside => .act fun call d => some (d, call.enter)
  | .doIHold site l h => doIHoldCode useSemaphore t site l h
  | .acquire caller l a => acquireCode useSemaphore t caller l a
  | .release caller l r => releaseCode useSemaphore t caller l r
  | .wait c l w => cvWaitCode c l w
  | .wake all c l w => cvWakeCode all c l w
  | .failed _ => .act fun _ _ => none

abbrev LockState (T Lk Cv : Type) :=
  State (LockData T Lk Cv) (Sync Lk Cv) (Sync Lk Cv) T (LockPc Lk Cv)

def lockCreate : LockState T Lk Cv where
  pc := fun _ => .outside
  asleep := fun _ => false
  holder := fun _ => none
  chan := fun _ => []
  data := ⟨fun _ => none, fun _ => 1#32, fun _ => false, fun _ => none⟩

end Os161.Synch
