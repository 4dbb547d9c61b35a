import Os161.Lib.Threads

-- The threads of kern/thread/thread.c on any number of CPUs, which take the steps: what a CPU
-- does between two operations on a spinlock, or less.

namespace Os161.Thread

open Function Lib.Threads

inductive ThreadState where
  | run | ready | sleep | zombie
deriving DecidableEq

inductive Spinlock (C L : Type) where
  | runqueue (c : C)
  | channel (l : L)
deriving DecidableEq

-- What thread_switch is called with: S_READY, S_SLEEP and the wait channel, S_ZOMBIE.
inductive Newstate (W : Type) where
  | ready
  | sleep (wc : W)
  | zombie
deriving DecidableEq

def Newstate.state {W : Type} : Newstate W → ThreadState
  | .ready => .ready
  | .sleep _ => .sleep
  | .zombie => .zombie

-- wchan_wakeall has the rest of its private list to do afterwards.
inductive Caller (T : Type) where
  | fork
  | wakeone
  | wakeall (list : List T)
deriving DecidableEq

inductive Phase (C L W T : Type) where
  -- in the code of its thread or in an interrupt handler; in cpu_idle when c_isidle is set
  | free
  | locking (l : L)
  | unlocking (l : L)
  | switch (newstate : Newstate W)
  | place (newstate : Newstate W)
  | unlockEmpty
  | unlockChannel (wc : W)
  | setState (newstate : Newstate W)
  | pick
  | idle
  | unidle
  | dispatch (next : T)
  | resume
  | unlockQueue
  | exorcise
  | destroy (z : T)
  | relock (lk : L)
  | wakeone (wc : W)
  | collect (wc : W) (list : List T)
  | wakeall (list : List T)
  | lockTarget (target : T) (targetcpu : C) (caller : Caller T)
  | makeRunnable (target : T) (targetcpu : C) (caller : Caller T)
  | unlockTarget (targetcpu : C) (caller : Caller T)
deriving DecidableEq

def Caller.next {C L W T : Type} : Caller T → Phase C L W T
  | .fork => .free
  | .wakeone => .free
  | .wakeall list => .wakeall list

structure Pc (C L W T : Type) where
  -- the spinlocks that the CPU holds: c_spinlocks is their number
  held : List (Spinlock C L)
  phase : Phase C L W T

structure Sched (C L W T : Type) where
  live : T → Bool
  tCpu : T → Option C
  tState : T → ThreadState
  curthread : C → T
  isidle : C → Bool
  runqueue : C → List T
  zombies : C → List T
  wchan : W → List T
  -- on the stack of a thread: the newthread of its thread_fork, and the lk of its wchan_sleep
  newthread : T → Option T
  lk : T → Option L

inductive Call (L W T : Type) where
  | lock (l : L)
  | unlock (l : L)
  -- thread_fork with the address that kmalloc finds, its failures and its further steps
  | fork (newthread : T)
  | forkFails
  | forkGoesOn
  | yield
  | sleep (wc : W)
  | exit
  | wakeone (wc : W)
  | wakeall (wc : W)
  | unidle

abbrev Code (C L W T : Type) :=
  Instr (Call L W T) (Sched C L W T) (Spinlock C L) Empty C (Pc C L W T)

abbrev System (C L W T : Type) := State (Sched C L W T) (Spinlock C L) Empty C (Pc C L W T)

variable {C L W T : Type} [DecidableEq C] [DecidableEq L] [DecidableEq W] [DecidableEq T]

def spinlockAcquire (held : List (Spinlock C L)) (l : Spinlock C L)
    (note : Sched C L W T → Sched C L W T) (phase : Phase C L W T) : Code C L W T :=
  if l ∈ held then .act fun _ _ => none else .acquire l note ⟨l :: held, phase⟩

def spinlockRelease (held : List (Spinlock C L)) (l : Spinlock C L) (phase : Phase C L W T) :
    Code C L W T :=
  if l ∈ held then .release l id ⟨held.filter (· ≠ l), phase⟩ else .act fun _ _ => none

def threadCreate (cur newthread : T) (d : Sched C L W T) : Sched C L W T :=
  { d with
    live := update d.live newthread true
    tCpu := update d.tCpu newthread none
    tState := update d.tState newthread .ready
    newthread := update d.newthread cur (some newthread)
    lk := update d.lk newthread none }

def threadDestroy (cur thread : T) (d : Sched C L W T) : Option (Sched C L W T) :=
  if thread ≠ cur ∧ d.tState thread ≠ .run then
    some { d with live := update d.live thread false }
  else none

-- thread_make_runnable once the run queue of the target's cpu is locked. The interrupt that is
-- sent to an idle CPU only makes its cpu_idle return.
def threadMakeRunnable (target : T) (targetcpu : C) (d : Sched C L W T) : Sched C L W T :=
  { d with
    tState := update d.tState target .ready
    runqueue := update d.runqueue targetcpu (d.runqueue targetcpu ++ [target]) }

def wake (held : List (Spinlock C L)) (target : T) (caller : Caller T) (d : Sched C L W T) :
    Option (Sched C L W T × Pc C L W T) :=
  match d.tCpu target with
  | none => none
  | some targetcpu => some (d, ⟨held, .lockTarget target targetcpu caller⟩)

-- Either a part of thread_fork fails and the new thread is destroyed, or it becomes runnable on
-- the cpu of its parent.
def forkFails (held : List (Spinlock C L)) (cur : T) (d : Sched C L W T) :
    Option (Sched C L W T × Pc C L W T) :=
  match d.newthread cur with
  | none => none
  | some newthread =>
    (threadDestroy cur newthread d).map fun d' =>
      ({ d' with newthread := update d'.newthread cur none }, ⟨held, .free⟩)

def forkGoesOn (held : List (Spinlock C L)) (cur : T) (d : Sched C L W T) :
    Option (Sched C L W T × Pc C L W T) :=
  match d.newthread cur with
  | none => none
  | some newthread =>
    if d.tCpu newthread = none then
      some ({ d with tCpu := update d.tCpu newthread (d.tCpu cur) }, ⟨held, .free⟩)
    else wake held newthread .fork d

def call (lockOf : W → L) (c : C) (held : List (Spinlock C L)) (d : Sched C L W T) :
    Call L W T → Option (Sched C L W T × Pc C L W T)
  | .lock l => some (d, ⟨held, .locking l⟩)
  | .unlock l => some (d, ⟨held, .unlocking l⟩)
  | .fork newthread =>
    if d.isidle c = false ∧ d.newthread (d.curthread c) = none ∧ d.live newthread = false then
      some (threadCreate (d.curthread c) newthread d, ⟨held, .free⟩)
    else none
  | .forkFails => if d.isidle c = false then forkFails held (d.curthread c) d else none
  | .forkGoesOn => if d.isidle c = false then forkGoesOn held (d.curthread c) d else none
  -- when the timer interrupts the idle loop, thread_switch returns without doing anything
  | .yield =>
    if d.isidle c = true then some (d, ⟨held, .free⟩) else some (d, ⟨held, .switch .ready⟩)
  | .sleep wc =>
    if d.isidle c = false ∧ held = [.channel (lockOf wc)] then
      some ({ d with lk := update d.lk (d.curthread c) (some (lockOf wc)) },
        ⟨held, .switch (.sleep wc)⟩)
    else none
  | .exit =>
    if d.isidle c = false ∧ d.newthread (d.curthread c) = none then
      some (d, ⟨held, .switch .zombie⟩)
    else none
  | .wakeone wc => if .channel (lockOf wc) ∈ held then some (d, ⟨held, .wakeone wc⟩) else none
  | .wakeall wc => if .channel (lockOf wc) ∈ held then some (d, ⟨held, .collect wc []⟩) else none
  | .unidle => if d.isidle c = true then some (d, ⟨held, .unidle⟩) else none

def place (c : C) (held : List (Spinlock C L)) (d : Sched C L W T) :
    Newstate W → Option (Sched C L W T × Pc C L W T)
  | .ready =>
    if d.runqueue c = [] then some (d, ⟨held, .unlockEmpty⟩)
    else match d.tCpu (d.curthread c) with
      | none => none
      | some targetcpu =>
        if .runqueue targetcpu ∈ held then
          some (threadMakeRunnable (d.curthread c) targetcpu d, ⟨held, .setState .ready⟩)
        else none
  | .sleep wc =>
    some ({ d with wchan := update d.wchan wc (d.wchan wc ++ [d.curthread c]) },
      ⟨held, .unlockChannel wc⟩)
  | .zombie =>
    some ({ d with zombies := update d.zombies c (d.zombies c ++ [d.curthread c]) },
      ⟨held, .setState .zombie⟩)

def pick (c : C) (held : List (Spinlock C L)) (d : Sched C L W T) :
    Option (Sched C L W T × Pc C L W T) :=
  match d.runqueue c with
  | [] => some (d, ⟨held, .idle⟩)
  | next :: rest =>
    some ({ d with runqueue := update d.runqueue c rest }, ⟨held, .dispatch next⟩)

-- One round of the loop in exorcise. After it thread_switch returns, to wchan_sleep if the
-- thread had gone to sleep; a new thread goes on in thread_startup, which ends in the same way.
def exorcise (c : C) (held : List (Spinlock C L)) (d : Sched C L W T) :
    Option (Sched C L W T × Pc C L W T) :=
  match d.zombies c with
  | [] =>
    match d.lk (d.curthread c) with
    | none => some (d, ⟨held, .free⟩)
    | some lk => some (d, ⟨held, .relock lk⟩)
  | z :: rest =>
    if z ≠ d.curthread c ∧ d.tState z = .zombie then
      some ({ d with zombies := update d.zombies c rest }, ⟨held, .destroy z⟩)
    else none

def wchanWakeone (held : List (Spinlock C L)) (wc : W) (d : Sched C L W T) :
    Option (Sched C L W T × Pc C L W T) :=
  match d.wchan wc with
  | [] => some (d, ⟨held, .free⟩)
  | target :: rest =>
    wake held target .wakeone { d with wchan := update d.wchan wc rest }

def wchanCollect (held : List (Spinlock C L)) (wc : W) (list : List T) (d : Sched C L W T) :
    Option (Sched C L W T × Pc C L W T) :=
  match d.wchan wc with
  | [] => some (d, ⟨held, .wakeall list⟩)
  | target :: rest =>
    some ({ d with wchan := update d.wchan wc rest },
      ⟨held, .collect wc (list ++ [target])⟩)

def wchanWakeall (held : List (Spinlock C L)) (list : List T) (d : Sched C L W T) :
    Option (Sched C L W T × Pc C L W T) :=
  match list with
  | [] => some (d, ⟨held, .free⟩)
  | target :: rest => wake held target (.wakeall rest) d

def makeRunnable (cur target : T) (targetcpu : C) (caller : Caller T) (d : Sched C L W T) :
    Sched C L W T :=
  match caller with
  | .fork =>
    let d := threadMakeRunnable target targetcpu d
    { d with newthread := update d.newthread cur none }
  | _ => threadMakeRunnable target targetcpu d

def code (lockOf : W → L) (c : C) (pc : Pc C L W T) : Code C L W T :=
  match pc.phase with
  | .free => .act fun i d => call lockOf c pc.held d i
  | .locking l => spinlockAcquire pc.held (.channel l) id .free
  | .unlocking l => spinlockRelease pc.held (.channel l) .free
  | .switch newstate => spinlockAcquire pc.held (.runqueue c) id (.place newstate)
  | .place newstate => .act fun _ d => place c pc.held d newstate
  | .unlockEmpty => spinlockRelease pc.held (.runqueue c) .free
  | .unlockChannel wc => spinlockRelease pc.held (.channel (lockOf wc)) (.setState (.sleep wc))
  | .setState newstate => .act fun _ d =>
    some ({ d with
      tState := update d.tState (d.curthread c) newstate.state
      isidle := update d.isidle c true }, ⟨pc.held, .pick⟩)
  | .pick => .act fun _ d => pick c pc.held d
  | .idle => spinlockRelease pc.held (.runqueue c) .free
  | .unidle => spinlockAcquire pc.held (.runqueue c) id .pick
  | .dispatch next => .act fun _ d =>
    some ({ d with
      isidle := update d.isidle c false
      curthread := update d.curthread c next }, ⟨pc.held, .resume⟩)
  | .resume => .act fun _ d =>
    some ({ d with tState := update d.tState (d.curthread c) .run },
      ⟨pc.held, .unlockQueue⟩)
  | .unlockQueue => spinlockRelease pc.held (.runqueue c) .exorcise
  | .exorcise => .act fun _ d => exorcise c pc.held d
  | .destroy z => .act fun _ d =>
    (threadDestroy (d.curthread c) z d).map fun d' => (d', ⟨pc.held, .exorcise⟩)
  | .relock lk => spinlockAcquire pc.held (.channel lk)
      (fun d => { d with lk := update d.lk (d.curthread c) none }) .free
  | .wakeone wc => .act fun _ d => wchanWakeone pc.held wc d
  | .collect wc list => .act fun _ d => wchanCollect pc.held wc list d
  | .wakeall list => .act fun _ d => wchanWakeall pc.held list d
  | .lockTarget target targetcpu caller =>
    spinlockAcquire pc.held (.runqueue targetcpu) id (.makeRunnable target targetcpu caller)
  | .makeRunnable target targetcpu caller => .act fun _ d =>
    some (makeRunnable (d.curthread c) target targetcpu caller d,
      ⟨pc.held, .unlockTarget targetcpu caller⟩)
  | .unlockTarget targetcpu caller => spinlockRelease pc.held (.runqueue targetcpu) caller.next

structure Booted (s : System C L W T) : Prop where
  pc : ∀ c, s.pc c = ⟨[], .free⟩
  asleep : ∀ c, s.asleep c = false
  holder : ∀ l, s.holder l = none
  live : ∀ t, s.data.live t = true ↔ ∃ c, s.data.curthread c = t
  tCpu : ∀ c, s.data.tCpu (s.data.curthread c) = some c
  isidle : ∀ c, s.data.isidle c = false
  runqueue : ∀ c, s.data.runqueue c = []
  zombies : ∀ c, s.data.zombies c = []
  wchan : ∀ wc, s.data.wchan wc = []
  newthread : ∀ t, s.data.newthread t = none
  lk : ∀ t, s.data.lk t = none

def Caller.list {T : Type} : Caller T → List T
  | .wakeall list => list
  | _ => []

def Phase.list {C L W T : Type} : Phase C L W T → List T
  | .collect _ list | .wakeall list => list
  | .lockTarget _ _ caller | .makeRunnable _ _ caller | .unlockTarget _ caller => caller.list
  | _ => []

inductive Spot (C W : Type) where
  | executed (c : C)
  | queued (c : C)
  | waiting (wc : W)
  | zombie (c : C)

def Sched.At (d : Sched C L W T) (t : T) : Spot C W → Prop
  | .executed c => d.isidle c = false ∧ d.curthread c = t
  | .queued c => t ∈ d.runqueue c
  | .waiting wc => t ∈ d.wchan wc
  | .zombie c => t ∈ d.zombies c

end Os161.Thread
