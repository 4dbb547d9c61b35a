import Os161.Lib.Run
import Os161.Process.Kill
import Os161.Vfs.Theorems
import Os161.Vm.Tlb.Theorems

-- runprogram and the life of the process. The reference that vfs_open takes on the executable is
-- counted in the vnode.

namespace Os161.Process

open Function Lib Lib.Exec Vm
open Vfs (FileSystems Path Vnode vfsOpen vnodeDecref O_RDONLY Own)

variable {σ α β : Type}

structure Kernel (σ : Type) where
  sys : System
  vfs : Vfs.State σ

abbrev KernelM (σ α : Type) := EStateM Stop (Kernel σ) α

def onSys (x : Sys α) : KernelM σ α := fun k =>
  match x.run k.sys with
  | .ok a sys => .ok a { k with sys := sys }
  | .error e sys => .error e { k with sys := sys }

def onVfs (x : Vfs.Action σ α) : KernelM σ α := fun k =>
  match x.run k.vfs with
  | .ok a vfs => .ok a { k with vfs := vfs }
  | .error e vfs => .error e { k with vfs := vfs }

def setFileV (as : Nat) (v : Vnode) : Kern Unit :=
  modify fun s => s.setAddrspaces (update s.addrspaces as
    { s.addrspaces as with fi := { (s.addrspaces as).fi with v := v } })

def setLoaded (as : Nat) (load : AddrSpace → AddrSpace) : Kern Unit :=
  modify fun s => s.setAddrspaces (update s.addrspaces as
    { load (s.addrspaces as) with
      fi := { (load (s.addrspaces as)).fi with v := (s.addrspaces as).fi.v } })

-- runprogram up to enter_new_process. `as` is what kmalloc gives as_create, and `load` is the
-- error of load_elf or its effect.
def runprogramFile (fs : FileSystems σ) (env : Env) (progname : Path) (as : Option Nat)
    (load : Except Word (AddrSpace → AddrSpace)) : KernelM σ Word := do
  match ← onVfs (vfsOpen fs progname O_RDONLY 0#32) with
  | .error result => pure result
  | .ok v => do
      let result ← onSys (runprogram env as)
      match as with
      | none => do
          onVfs (vnodeDecref fs v)
          pure result
      | some as => do
          onSys (onVm (setFileV as v))
          match load with
          | .error result => pure result
          | .ok load => do
              onSys (onVm (setLoaded as load))
              pure 0#32

-- What happens to the process later. None of these functions closes the vnode; the call in
-- as_destroy is commented out.
inductive LifeOp where
  | fault (faulttype faultaddress : Word)
  | readonly
  | exit (status : Word)
  | wait (p : Nat)
  | fork (m : Kmalloc)
  | switch (p : Nat)

def LifeOp.action (env : Env) : LifeOp → Sys Unit
  | .fault faulttype faultaddress => do
      let cur ← curProc
      let _ ← onVm (vmFault env (some cur) faulttype faultaddress)
      pure ()
  | .readonly => faultReadonly env
  | .exit status => sysExit status
  | .wait p => do
      let _ ← procWait env p
      pure ()
  | .fork m => do
      let _ ← sysFork env m
      pure ()
  | .switch p => modify fun sys => sys.setCurproc p

-- Also an operation that stops (a parent that waits, a thread that ends) leaves its state behind.
def LifeOp.step (env : Env) (op : LifeOp) (k k' : Kernel σ) : Prop :=
  k' = Hoare.finalState ((onSys (op.action env) : KernelM σ Unit).run k)

def Lives (env : Env) (k k' : Kernel σ) : Prop :=
  Relation.ReflTransGen (fun a b => ∃ op, LifeOp.step env op a b) k k'

variable {k k' : Kernel σ}

lemma onVfs_ok :
    (onVfs x).run k = .ok a k' ↔
      ∃ vfs, x.run k.vfs = .ok a vfs ∧ k' = { k with vfs := vfs } := by
  have hrun : (onVfs x).run k = onVfs x k := rfl
  rw [hrun, onVfs]
  cases x.run k.vfs with
  | ok b vfs =>
    constructor
    · intro h
      injection h with ha hk
      exact ⟨vfs, by rw [ha], hk.symm⟩
    rintro ⟨vfs', hx, rfl⟩
    injection hx with ha hvfs
    rw [ha, hvfs]
  | error e vfs => simp

lemma onSys_run (h : x.run k.sys = .ok a sys) :
    (onSys x).run k = .ok a { k with sys := sys } := by
  have hrun : (onSys x).run k = onSys x k := rfl
  rw [hrun, onSys, h]

lemma onSys_vfs (h : (onSys x).run k = .ok a k') : k'.vfs = k.vfs := by
  have hrun : (onSys x).run k = onSys x k := rfl
  rw [hrun, onSys] at h
  split at h
  · injection h with _ hk
    rw [← hk]
  · cases h

lemma step_vfs {op : LifeOp} (h : op.step env k k') : k'.vfs = k.vfs := by
  rw [h]
  have hrun : (onSys (op.action env) : KernelM σ Unit).run k = onSys (op.action env) k := rfl
  rw [hrun, onSys]
  split <;> rfl

lemma lives_vfs (h : Lives env k k') : k'.vfs = k.vfs := by
  have hstep : ∀ a b : Kernel σ, a.vfs = k.vfs → (∃ op, LifeOp.step env op a b) →
      b.vfs = k.vfs := by
    rintro a b ha ⟨op, hop⟩
    rw [step_vfs hop, ha]
  exact Run.invariant hstep rfl h

def HeldAtFaults (env : Env) (k mid k' : Kernel σ) (v : Vnode) : Prop :=
  ∀ faulttype faultaddress x y, Lives env mid x →
    LifeOp.step env (.fault faulttype faultaddress) x y → Lives env y k' →
    x.vfs.refs v = k.vfs.refs v + 1

-- All counts are again what they were before runprogram, and that of the executable was not yet
-- at any fault of an address space that uses it. The steps of fork and wait here are without the
-- references to p_cwd.
def Accounted (env : Env) (as : Option Nat) (k mid k' : Kernel σ) (v : Vnode) : Prop :=
  k'.vfs.refs = k.vfs.refs ∧ ∀ a, as = some a → HeldAtFaults env k mid k' v

section Accounting

variable {fs : FileSystems σ} {progname : Path} {opened : Vfs.State σ} {v : Vnode}

section

variable (hopen : (vfsOpen fs progname O_RDONLY 0#32).run k.vfs = .ok (.ok v) opened)

include hopen

lemma opened_own : Own k.vfs.refs [v] opened := by
  have hopens : Vfs.Balanced [] (vfsOpen fs progname O_RDONLY 0#32) fun v => [v] :=
    Vfs.vfsOpen_balanced progname O_RDONLY 0#32
  have hbalanced := hopens k.vfs.refs k.vfs (Vfs.own_nil.mpr rfl)
  rw [hopen] at hbalanced
  exact hbalanced

lemma runprogramFile_own
    (hrun : (runprogramFile fs env progname as load).run k = .ok result mid) :
    Own k.vfs.refs (if as = none then [] else [v]) mid.vfs := by
  have hown := opened_own hopen
  rw [runprogramFile, bind_run_ok (onVfs_ok.mpr ⟨opened, hopen, rfl⟩)] at hrun
  obtain ⟨r, u, hprogram, hrun⟩ := bind_ok.mp hrun
  have hu : u.vfs = opened := onSys_vfs hprogram
  cases as with
  | none =>
    obtain ⟨_, w, hclose, hrun⟩ := bind_ok.mp hrun
    obtain ⟨-, rfl⟩ := pure_ok.mp hrun
    obtain ⟨vfs, hdecref, rfl⟩ := onVfs_ok.mp hclose
    have hlast : ∃ t, (vnodeDecref fs v).run opened = .ok () t ∧ Own k.vfs.refs [] t :=
      Vfs.vnodeDecref_run hown
    obtain ⟨vfs', hdecref', hleft⟩ := hlast
    rw [hu, hdecref'] at hdecref
    injection hdecref with _ hsame
    rw [← hsame]
    exact hleft
  | some a =>
    obtain ⟨_, w, hfile, hrun⟩ := bind_ok.mp hrun
    have hw : w.vfs = opened := (onSys_vfs hfile).trans hu
    cases load with
    | error e =>
      obtain ⟨-, rfl⟩ := pure_ok.mp hrun
      rw [hw]
      exact hown
    | ok load =>
      obtain ⟨_, x, hload, hrun⟩ := bind_ok.mp hrun
      obtain ⟨-, rfl⟩ := pure_ok.mp hrun
      rw [onSys_vfs hload, hw]
      exact hown

end

end Accounting

-- Over the whole life of a program, also after its process has ended and has been waited for, the
-- reference on its file is released exactly when as_create failed.
theorem executable_accounted_iff (fs : FileSystems σ) (env : Env) (progname : Path)
    (as : Option Nat) (load : Except Word (AddrSpace → AddrSpace)) (k mid k' : Kernel σ)
    (opened : Vfs.State σ) (v : Vnode) (result : Word)
    (hopen : (vfsOpen fs progname O_RDONLY 0#32).run k.vfs = .ok (.ok v) opened)
    (hrun : (runprogramFile fs env progname as load).run k = .ok result mid)
    (hlife : Lives env mid k') : Accounted env as k mid k' v ↔ as = none := by
  have hown := runprogramFile_own hopen hrun
  rw [← lives_vfs hlife] at hown
  constructor
  · rintro ⟨hrefs, -⟩
    by_contra hsome
    rw [if_neg hsome] at hown
    have hv := hown v
    rw [hrefs, List.count_singleton_self] at hv
    omega
  · rintro rfl
    exact ⟨Vfs.own_nil.mp hown, fun a ha => by cases ha⟩

def progname : Path := ['l', 'h', 'd', '0', ':', '/', 'f']

def newProcess : Kernel Unit where
  sys :=
    { vm := smallMachine
      procs := fun p => [⟨1, none, 0#32, 1, some 0, 0#32⟩, ⟨1, none, 0#32, 2, some 0, 1#32⟩][p]?
      processTable := ⟨fun i => if 0 < i ∧ i ≤ 2 then some (i - 1) else none, 2⟩
      kproc := 0
      curproc := 1 }
  vfs := Vfs.flatState

lemma newProcess_runs :
    ∃ sys, (runprogram steadyEnv.unlocked (some 0)).run newProcess.sys = .ok 0#32 sys := by
  let vm := smallMachine.setAddrspaces (update smallMachine.addrspaces 0
    { smallMachine.addrspaces 0 with
      asVbase1 := 0#32, asNpages1 := 0#32, asVbase2 := 0#32, asNpages2 := 0#32
      asStackpbase := 0#32, allocatedPages := 0 })
  obtain ⟨vm', hreset, -⟩ := @resetTlbPidDifferent_run steadyEnv.unlocked rfl 1#32 vm
  have hproc : newProcess.sys.procs newProcess.sys.curproc =
      some ⟨1, none, 0#32, 2, some 0, 1#32⟩ := rfl
  unfold runprogram
  rw [bind_run_ok (EStateM.run_get _), bind_run_ok (readProc_ok.mpr ⟨hproc, rfl⟩),
    bind_run_ok (kassert_pass rfl _ _)]
  simp only
  rw [bind_run_ok (onVm_ok.mpr ⟨vm, rfl, rfl⟩), bind_run_ok (putProc_run ..),
    bind_run_ok (onVm_ok.mpr ⟨vm', hreset, rfl⟩)]
  exact ⟨_, rfl⟩

theorem executable_kept : ∃ mid, (runprogramFile Vfs.flatFs steadyEnv.unlocked progname (some 0)
      (.ok fun as => as)).run newProcess = .ok 0#32 mid ∧
    newProcess.vfs.refs 2 = 0 ∧ ∀ k', Lives steadyEnv.unlocked mid k' → k'.vfs.refs 2 = 1 := by
  obtain ⟨sys, hprogram⟩ := newProcess_runs
  obtain ⟨opened, hopen, hcount⟩ : ∃ opened, (vfsOpen Vfs.flatFs progname O_RDONLY 0#32).run
      newProcess.vfs = .ok (.ok 2) opened ∧ opened.refs 2 = 1 := ⟨_, rfl, rfl⟩
  have hstart : (onSys (runprogram steadyEnv.unlocked (some 0))).run
      { newProcess with vfs := opened } = .ok 0#32 { newProcess with sys := sys, vfs := opened } :=
    onSys_run hprogram
  rw [runprogramFile, bind_run_ok (onVfs_ok.mpr ⟨opened, hopen, rfl⟩)]
  simp only
  rw [bind_run_ok hstart]
  refine ⟨_, rfl, rfl, fun k' hlife => ?_⟩
  rw [lives_vfs hlife]
  exact hcount

theorem executable_accounted_noMemory : ∃ mid,
    (runprogramFile Vfs.flatFs steadyEnv progname none (.ok fun as => as)).run newProcess =
      .ok ENOMEM mid ∧
    (Accounted steadyEnv none newProcess mid mid 2 ↔ (none : Option Nat) = none) :=
  ⟨_, rfl, executable_accounted_iff Vfs.flatFs steadyEnv progname none (.ok fun as => as)
    newProcess _ _ _ 2 ENOMEM rfl rfl .refl⟩

end Os161.Process
