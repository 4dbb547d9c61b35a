import Os161.Synch

namespace Os161.Process

open Lib Lib.Threads Vm Synch

-- One process whose thread calls sys__exit, at the points where it touches the process structure
-- or its semaphore: `remAcquire` to `detach` are proc_remthread, `signal` reads `p_sem`.
inductive ExitPc where
  | status | remAcquire | remDrop | remRelease | detach | signal | inV (v : VPc) | threadExit
  deriving DecidableEq, Repr

-- proc_destroy: the fields up to the assertion on `p_numthreads`, spinlock_cleanup,
-- proc_end_waitpid with sem_destroy, and kfree.
inductive DestroyPc where
  | fields | cleanup | acquire | clear | release | semDestroy | free
  deriving DecidableEq, Repr

-- sys_waitpid: proc_search_pid in two steps, then proc_wait. From `destroy` on the thread has
-- read the status.
inductive WaitPc where
  | search | check | sem | inP (p : PPc) | status | destroy (d : DestroyPc) (s : Word)
  | store (s : Word)
  deriving DecidableEq, Repr

-- `statusp` says whether the caller's pointer is not NULL, `stored` is what was written there.
-- A thread that has followed a NULL pointer is `trapped`.
inductive WaitpidPc where
  | outside
  | exit (e : ExitPc)
  | wait (statusp : Bool) (w : WaitPc)
  | returned (stored : Option Word)
  | trapped
  deriving DecidableEq, Repr

inductive WaitLock where
  | pLock | tableLock | semLock
  deriving DecidableEq, Repr

-- The entry in the process table, the count of `p_sem`, and how often the structure and the
-- semaphore were freed.
structure Life where
  entry : Bool
  semCount : Word
  procDestroyed : Nat
  semDestroyed : Nat
  deriving DecidableEq, Repr

-- `misused` is on record once the structure or the semaphore is used after it was freed.
structure WaitData extends Life where
  pStatus : Word
  pNumthreads : Nat
  misused : Bool
  deriving DecidableEq, Repr

def WaitData.useProc (d : WaitData) : WaitData :=
  { d with misused := d.misused || decide (0 < d.procDestroyed) }

def WaitData.useSem (d : WaitData) : WaitData :=
  { d with misused := d.misused || decide (0 < d.semDestroyed) }

def pSem : Semaphore WaitData WaitLock Unit where
  semLock := .semLock
  semWchan := ()
  semCount := fun d => d.semCount
  setSemCount := fun d n => { d with semCount := n }
  access := WaitData.useSem

abbrev WaitInstr (T : Type) := Instr Bool WaitData WaitLock Unit T WaitpidPc

variable {T : Type}

-- thread_exit calls proc_remthread once more, and its assertion stops the kernel.
def exitCode (exitStatus : Word) : ExitPc → WaitInstr T
  | .status => .act fun _ d =>
    some ({ d.useProc with pStatus := exitStatus &&& 0xff#32 }, .exit .remAcquire)
  | .remAcquire => .acquire .pLock WaitData.useProc (.exit .remDrop)
  | .remDrop => .act fun _ d =>
    if 0 < d.pNumthreads then
      some ({ d.useProc with pNumthreads := d.pNumthreads - 1 }, .exit .remRelease)
    else none
  | .remRelease => .release .pLock WaitData.useProc (.exit .detach)
  | .detach => .act fun _ d => some (d, .exit .signal)
  | .signal => .act fun _ d => some (d.useProc, .exit (.inV .acquire))
  | .inV v => V pSem (fun v => .exit (.inV v)) id (.exit .threadExit) v
  | .threadExit => .act fun _ _ => none

def destroyCode (next : DestroyPc → WaitpidPc) (ret : WaitpidPc) : DestroyPc → WaitInstr T
  | .fields => .act fun _ d =>
    if d.pNumthreads = 0 then some (d.useProc, next .cleanup) else none
  | .cleanup => .cleanup .pLock none WaitData.useProc (next .acquire)
  | .acquire => .acquire .tableLock id (next .clear)
  | .clear => .act fun _ d => some ({ d.useProc with entry := false }, next .release)
  | .release => .release .tableLock id (next .semDestroy)
  | .semDestroy => .cleanup .semLock (some ())
      (fun d => { d.useProc.useSem with semDestroyed := d.semDestroyed + 1 }) (next .free)
  | .free => .act fun _ d => some ({ d.useProc with procDestroyed := d.procDestroyed + 1 }, ret)

def waitCode (statusp : Bool) : WaitPc → WaitInstr T
  | .search => .act fun _ d => some (d, if d.entry then .wait statusp .check else .trapped)
  | .check => .act fun _ d => some (d.useProc, .wait statusp .sem)
  | .sem => .act fun _ d => some (d.useProc, .wait statusp (.inP .acquire))
  | .inP p => P pSem (fun p => .wait statusp (.inP p)) id (.wait statusp .status) p
  | .status => .act fun _ d => some (d.useProc, .wait statusp (.destroy .fields d.pStatus))
  | .destroy p s => destroyCode (fun p => .wait statusp (.destroy p s)) (.wait statusp (.store s)) p
  | .store s => .act fun _ d => some (d, .returned (if statusp then some s else none))

def waitpidCode (exitStatus : Word) (_ : T) : WaitpidPc → WaitInstr T
  | .outside => .act fun statusp d => some (d, .wait statusp .search)
  | .exit e => exitCode exitStatus e
  | .wait statusp w => waitCode statusp w
  | .returned _ => .act fun _ d => some (d, .outside)
  | .trapped => .act fun _ _ => none

abbrev WaitState (T : Type) := State WaitData WaitLock Unit T WaitpidPc

def beforeExit [DecidableEq T] (exiter : T) (numthreads : Nat) : WaitState T where
  pc := fun t => if t = exiter then .exit .status else .outside
  asleep := fun _ => false
  holder := fun _ => none
  chan := fun _ => []
  data := ⟨⟨true, 0#32, 0, 0⟩, 0#32, numthreads, false⟩

end Os161.Process
