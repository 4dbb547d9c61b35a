import Os161.Lib.Threads

namespace Os161.Process

open Function Lib Lib.Threads

-- proc_addthread and proc_remthread. The count is read and written back under `p_lock`, `t_proc`
-- is changed outside of it.
inductive AddPc where
  | check | acquire | load | store (n : Nat) | release | attach
  deriving DecidableEq, Repr

inductive RemPc where
  | acquire | load | store (n : Nat) | release | detach
  deriving DecidableEq, Repr

-- Who calls proc_remthread: sys__exit, thread_exit after the entry function has returned, or
-- thread_exit when sys__exit calls it.
inductive ExitPath where
  | sysExit | returns | again
  deriving DecidableEq, Repr

-- A thread structure is `unborn` until the `ready` of thread_fork has made it runnable. `signal`
-- is the proc_signal_end of sys__exit, `check` the assertion of thread_exit.
inductive MemberPc (T Pr : Type) where
  | unborn
  | running
  | fork (proc : Option Pr) (u : T)
  | add (a : AddPc) (proc : Pr) (u : T)
  | ready (u : T)
  | exit
  | remthread (path : ExitPath)
  | rem (r : RemPc) (proc : Pr) (path : ExitPath)
  | signal
  | check
  | zombie
  deriving DecidableEq, Repr

inductive MemberCall (T Pr : Type) where
  | threadFork (proc : Option Pr) (newthread : Option T)
  | sysExit
  | threadExit
  deriving DecidableEq, Repr

-- `created` are the structures that thread_create has returned so far.
structure MemberData (T Pr : Type) where
  tProc : T → Option Pr
  pNumthreads : Pr → Nat
  created : T → Bool
  runnable : T → Bool

variable {T Pr : Type} [DecidableEq T] [DecidableEq Pr]

abbrev MemberInstr (T Pr : Type) :=
  Instr (MemberCall T Pr) (MemberData T Pr) Pr Empty T (MemberPc T Pr)

def addthreadCode (proc : Pr) (u : T) : AddPc → MemberInstr T Pr
  | .check => .act fun _ d => if d.tProc u = none then some (d, .add .acquire proc u) else none
  | .acquire => .acquire proc id (.add .load proc u)
  | .load => .act fun _ d => some (d, .add (.store (d.pNumthreads proc)) proc u)
  | .store n => .act fun _ d =>
    some ({ d with pNumthreads := update d.pNumthreads proc (n + 1) },
      .add .release proc u)
  | .release => .release proc id (.add .attach proc u)
  | .attach => .act fun _ d =>
    some ({ d with tProc := update d.tProc u (some proc) }, .ready u)

def ExitPath.ret : ExitPath → MemberPc T Pr
  | .sysExit => .signal
  | .returns | .again => .check

def remthreadCode (t : T) (proc : Pr) (path : ExitPath) : RemPc → MemberInstr T Pr
  | .acquire => .acquire proc id (.rem .load proc path)
  | .load => .act fun _ d =>
    if 0 < d.pNumthreads proc then some (d, .rem (.store (d.pNumthreads proc)) proc path)
    else none
  | .store n => .act fun _ d =>
    some ({ d with pNumthreads := update d.pNumthreads proc (n - 1) },
      .rem .release proc path)
  | .release => .release proc id (.rem .detach proc path)
  | .detach => .act fun _ d =>
    some ({ d with tProc := update d.tProc t none }, path.ret)

def memberCode (t : T) : MemberPc T Pr → MemberInstr T Pr
  | .unborn => .act fun _ d => if d.runnable t = true then some (d, .running) else none
  | .running => .act fun call d =>
    match call with
    | .threadFork _ none => some (d, .running)
    | .threadFork proc (some u) =>
      if d.created u = true then none
      else some ({ d with
        created := update d.created u true
        tProc := update d.tProc u none }, .fork proc u)
    | .sysExit => some (d, .exit)
    | .threadExit => some (d, .remthread .returns)
  | .fork (some proc) u => .act fun _ d => some (d, .add .check proc u)
  | .fork none u => .act fun _ d =>
    match d.tProc t with
    | none => none
    | some proc => some (d, .add .check proc u)
  | .add a proc u => addthreadCode proc u a
  | .ready u => .act fun _ d =>
    some ({ d with runnable := update d.runnable u true }, .running)
  | .exit => .act fun _ d =>
    match d.tProc t with
    | none => none
    | some _ => some (d, .remthread .sysExit)
  | .remthread path => .act fun _ d =>
    match d.tProc t with
    | none => none
    | some proc => some (d, .rem .acquire proc path)
  | .rem r proc path => remthreadCode t proc path r
  | .signal => .act fun _ d => some (d, .remthread .again)
  | .check => .act fun _ d => if d.tProc t = none then some (d, .zombie) else none
  | .zombie => .act fun _ _ => none

abbrev MemberState (T Pr : Type) := State (MemberData T Pr) Pr Empty T (MemberPc T Pr)

def memberBoot (first : T) (kproc : Pr) : MemberState T Pr where
  pc := fun t => if t = first then .running else .unborn
  asleep := fun _ => false
  holder := fun _ => none
  chan := fun _ => []
  data := {
    tProc := fun t => if t = first then some kproc else none
    pNumthreads := fun p => if p = kproc then 1 else 0
    created := fun t => decide (t = first)
    runnable := fun _ => false }

end Os161.Process
