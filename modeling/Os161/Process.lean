import Os161.Vm.Fault

namespace Os161.Process

open Function Lib Lib.Exec Vm

-- struct proc, without its name, its directory, its files and its lock. `pPid` is the identifier
-- of proc.c; `pid` is the field that the memory code reads.
structure Proc where
  pNumthreads : Nat
  pAddrspace : Option Nat
  pStatus : Word
  pPid : Nat
  -- the count of `p_sem`, `none` when sem_create has returned NULL
  pSem : Option Nat
  pid : Word
  deriving DecidableEq, Repr

structure ProcessTable where
  proc : Nat → Option Nat
  lastI : Nat

-- Process structures are found by address. An address without a structure is free memory.
structure System where
  vm : State
  procs : Nat → Option Proc
  processTable : ProcessTable
  kproc : Nat
  curproc : Nat

@[simps]
def System.setVm (sys : System) (vm : State) : System := { sys with vm := vm }
@[simps]
def System.setProcs (sys : System) (procs : Nat → Option Proc) : System :=
  { sys with procs := procs }
@[simps]
def System.setProcessTable (sys : System) (processTable : ProcessTable) : System :=
  { sys with processTable := processTable }
@[simps]
def System.setKproc (sys : System) (kproc : Nat) : System := { sys with kproc := kproc }
@[simps]
def System.setCurproc (sys : System) (curproc : Nat) : System := { sys with curproc := curproc }

abbrev Sys (α : Type) := EStateM Stop System α

def onVm {α : Type} (x : Kern α) : Sys α := fun sys =>
  match x.run sys.vm with
  | .ok a vm => .ok a (sys.setVm vm)
  | .error e vm => .error e (sys.setVm vm)

def readProc (p : Nat) : Sys Proc := do
  let sys ← get
  match sys.procs p with
  | some proc => pure proc
  | none => throw .dangling

def putProc (p : Nat) (proc : Option Proc) : Sys Unit :=
  modify fun sys => sys.setProcs (update sys.procs p proc)

def updateProc (p : Nat) (f : Proc → Proc) : Sys Unit := do
  let proc ← readProc p
  putProc p (some (f proc))

def curProc : Sys CurProc := do
  let sys ← get
  let proc ← readProc sys.curproc
  pure ⟨proc.pid, proc.pAddrspace⟩

-- What the allocator answers while a process is set up. The memory of the process structure
-- comes with the contents it had before.
structure Kmalloc where
  proc : Option (Nat × Proc)
  name : Bool
  sem : Bool
  as : Option Nat
  trapframe : Bool
  thread : Bool
  deriving DecidableEq, Repr

def nextIndex (i : Nat) : Nat := if MAX_PROC < i + 1 then 1 else i + 1

-- The search loop of proc_init_waitpid from `i` on. The outer `none` says that it is still
-- running when the fuel is used up.
def ProcessTable.search (table : ProcessTable) : Nat → Nat → Option (Option Nat)
  | 0, _ => none
  | fuel + 1, i =>
    if i = table.lastI then some none
    else if table.proc i = none then some (some i)
    else table.search fuel (nextIndex i)

def ProcessTable.enter (table : ProcessTable) (i p : Nat) : ProcessTable :=
  { proc := update table.proc i (some p), lastI := i }

def ProcessTable.leave (table : ProcessTable) (i : Nat) : ProcessTable :=
  { table with proc := update table.proc i none }

-- After MAX_PROC + 1 iterations an index has come up twice, so the loop never ends.
def procInitWaitpid (p : Nat) (sem : Bool) : Sys Unit := do
  let sys ← get
  match sys.processTable.search (MAX_PROC + 1) (nextIndex sys.processTable.lastI) with
  | none => throw .hang
  | some none => throw (.panic "too many processes. proc table is full\n" [])
  | some (some i) => do
      modify fun sys => sys.setProcessTable (sys.processTable.enter i p)
      updateProc p fun proc =>
        { proc with pPid := i, pStatus := 0#32, pSem := if sem then some 0 else none }

def procEndWaitpid (p : Nat) : Sys Unit := do
  let proc ← readProc p
  kassert (0 < proc.pPid ∧ proc.pPid ≤ MAX_PROC) "i>0 && i<=MAX_PROC"
  modify fun sys => sys.setProcessTable (sys.processTable.leave proc.pPid)
  kassert proc.pSem.isSome "sem != NULL"

-- `none` is the return value NULL. No field of the new structure is cleared beyond those that
-- are assigned here: `pid` keeps what the memory held.
def procCreate (m : Kmalloc) : Sys (Option Nat) :=
  match m.proc with
  | none => pure none
  | some (p, memory) =>
    if m.name then do
      putProc p (some { memory with pNumthreads := 0, pAddrspace := none })
      procInitWaitpid p m.sem
      pure (some p)
    else pure none

def procCreateRunprogram (m : Kmalloc) : Sys (Option Nat) := do
  let newproc ← procCreate m
  match newproc with
  | none => pure none
  | some p => do
      updateProc p fun proc => { proc with pAddrspace := none }
      pure (some p)

def procAddthread (p : Nat) : Sys Unit :=
  updateProc p fun proc => { proc with pNumthreads := proc.pNumthreads + 1 }

def procRemthread (p : Nat) : Sys Unit := do
  let proc ← readProc p
  kassert (0 < proc.pNumthreads) "proc->p_numthreads > 0"
  updateProc p fun proc => { proc with pNumthreads := proc.pNumthreads - 1 }

-- The address space is taken from the process whether or not it is the current one, and destroyed
-- on behalf of the current one.
def releaseAddrspace (env : Env) (p : Nat) (proc : Proc) : Sys Unit :=
  match proc.pAddrspace with
  | none => pure ()
  | some _ => do
      putProc p (some { proc with pAddrspace := none })
      let cur ← curProc
      onVm (asDestroy env cur)

def procDestroy (env : Env) (p : Nat) : Sys Unit := do
  let sys ← get
  kassert (p ≠ sys.kproc) "proc != kproc"
  let proc ← readProc p
  releaseAddrspace env p proc
  kassert (proc.pNumthreads = 0) "proc->p_numthreads == 0"
  procEndWaitpid p
  putProc p none

def semP (p : Nat) : Sys Unit := do
  let proc ← readProc p
  match proc.pSem with
  | none => throw (.kassert "sem != NULL")
  | some 0 => throw .blocked
  | some (count + 1) => putProc p (some { proc with pSem := some count })

def semV (p : Nat) : Sys Unit := do
  let proc ← readProc p
  match proc.pSem with
  | none => throw (.kassert "sem != NULL")
  | some count => putProc p (some { proc with pSem := some (count + 1) })

def procWait (env : Env) (p : Nat) : Sys Word := do
  let sys ← get
  kassert (p ≠ sys.kproc) "proc != kproc"
  semP p
  let proc ← readProc p
  procDestroy env p
  pure proc.pStatus

-- NULL is what an empty slot holds, and `p->p_pid` is read before anybody asks for it.
def procSearchPid (pid : Word) : Sys (Option Nat) := do
  kassert (0 ≤ pid.toInt ∧ pid.toInt < MAX_PROC) "pid>=0&&pid<MAX_PROC"
  let sys ← get
  match sys.processTable.proc pid.toNat with
  | none => throw .dangling
  | some p => do
      let proc ← readProc p
      kassert (proc.pPid = pid.toNat) "p->p_pid==pid"
      pure (some p)

-- sys_waitpid up to the store through `statusp`: the status of the process, or `none` for the
-- return value -1.
def sysWaitpid (env : Env) (pid : Word) : Sys (Option Word) := do
  let found ← procSearchPid pid
  match found with
  | none => pure none
  | some p => do
      let s ← procWait env p
      pure (some s)

-- Up to thread_exit, whose own proc_remthread is in Process/Membership.
def sysExit (status : Word) : Sys Unit := do
  let sys ← get
  updateProc sys.curproc fun proc => { proc with pStatus := status &&& 0xff#32 }
  procRemthread sys.curproc
  semV sys.curproc

def commonProg (env : Env) (m : Kmalloc) : Sys Word := do
  let newproc ← procCreateRunprogram m
  match newproc with
  | none => pure ENOMEM
  | some p =>
    if m.thread then do
      procAddthread p
      pure 0#32
    else do
      procDestroy env p
      pure ENOMEM

def runprogram (env : Env) (as : Option Nat) : Sys Word := do
  let sys ← get
  let proc ← readProc sys.curproc
  kassert (proc.pAddrspace = none) "proc_getas() == NULL"
  match as with
  | none => pure ENOMEM
  | some as => do
      onVm (asCreate as)
      putProc sys.curproc (some { proc with pAddrspace := some as })
      onVm (asActivate env ⟨proc.pid, some as⟩)
      pure 0#32

-- The result is the child's identifier when 0 is returned, and `none` for ENOMEM.
def sysFork (env : Env) (m : Kmalloc) : Sys (Option Nat) := do
  let newproc ← procCreateRunprogram m
  match newproc with
  | none => pure none
  | some p =>
    match m.as with
    | none => do
        procDestroy env p
        pure none
    | some as => do
        onVm (asCreate as)
        updateProc p fun proc => { proc with pAddrspace := some as }
        if m.trapframe && m.thread then do
          procAddthread p
          let proc ← readProc p
          pure (some proc.pPid)
        else do
          procDestroy env p
          pure none

def procBootstrap (m : Kmalloc) : Sys Unit := do
  let kproc ← procCreate m
  match kproc with
  | none => throw (.panic "proc_create for kproc failed\n" [])
  | some p => modify fun sys => (sys.setKproc p).setCurproc p

end Os161.Process
