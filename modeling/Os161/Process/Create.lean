import Os161.Process

namespace Os161.Process.Create

open Function Lib.Exec
open Vm (Stop MAX_PROC kassert)

-- The fields of struct proc that creation acquires something for: blocks of the heap, a slot of
-- the process table and a reference to a directory.
structure Proc where
  pName : Nat
  pPid : Nat
  pSem : Option Nat
  pCwd : Option Nat

-- `answers n` is what kmalloc returns at its n-th call from here on.
structure Kernel where
  answers : Nat → Option Nat
  heap : List Nat
  procs : Nat → Option Proc
  processTable : ProcessTable
  -- `curproc->p_cwd` and the reference counts of the vnodes
  cwd : Option Nat
  refcount : Nat → Nat

abbrev Kern (α : Type) := EStateM Stop Kernel α

def kmalloc : Kern (Option Nat) := do
  let k ← get
  set { k with answers := fun n => k.answers (n + 1), heap := (k.answers 0).toList ++ k.heap }
  pure (k.answers 0)

def kfree (block : Nat) : Kern Unit := modify fun k => { k with heap := k.heap.erase block }

def semCreate : Kern (Option Nat) := do
  let some sem ← kmalloc | pure none
  let some name ← kmalloc | do kfree sem; pure none
  let some _wchan ← kmalloc | do kfree name; kfree sem; pure none
  pure (some sem)

-- A function without a result: nothing tells the caller that sem_create has failed.
def procInitWaitpid (p name : Nat) : Kern Unit := do
  let k ← get
  match k.processTable.search (MAX_PROC + 1) (nextIndex k.processTable.lastI) with
  | none => throw .hang
  | some none => throw (.panic "too many processes. proc table is full\n" [])
  | some (some i) => do
      set { k with processTable := k.processTable.enter i p }
      let sem ← semCreate
      modify fun k => { k with procs := update k.procs p (some ⟨name, i, sem, none⟩) }

def procCreate : Kern (Option Nat) := do
  let some p ← kmalloc | pure none
  let some name ← kmalloc | do kfree p; pure none
  procInitWaitpid p name
  pure (some p)

def procCreateRunprogram : Kern (Option Nat) := do
  let some newproc ← procCreate | pure none
  let k ← get
  match k.cwd, k.procs newproc with
  | some dir, some proc =>
      set { k with
            refcount := update k.refcount dir (k.refcount dir + 1)
            procs := update k.procs newproc (some { proc with pCwd := some dir }) }
  | _, _ => pure ()
  pure (some newproc)

-- V(proc->p_sem), up to the first access to the semaphore
def procSignalEnd (p : Nat) : Kern Unit := do
  let k ← get
  kassert ((k.procs p).any fun proc => proc.pSem.isSome) "sem != NULL"

def Complete (k : Kernel) (p : Nat) : Prop :=
  ∃ proc sem, k.procs p = some proc ∧ proc.pName ∈ k.heap ∧ proc.pSem = some sem ∧
    sem ∈ k.heap ∧ k.processTable.proc proc.pPid = some p

def Sound (k : Kernel) : EStateM.Result Stop Kernel (Option Nat) → Prop
  | .ok none k' =>
    k'.processTable = k.processTable ∧ k'.refcount = k.refcount ∧ k'.heap = k.heap
  | .ok (some p) k' => Complete k' p
  | .error _ _ => False

@[simp] lemma kmalloc_run (k : Kernel) : kmalloc.run k = .ok (k.answers 0)
    { k with answers := fun n => k.answers (n + 1)
             heap := (k.answers 0).toList ++ k.heap } := rfl

@[simp] lemma kfree_run (block : Nat) (k : Kernel) :
    (kfree block).run k = .ok () { k with heap := k.heap.erase block } := rfl

-- The semaphore exists when all three allocations succeed; otherwise the heap is given back.
lemma semCreate_run (k : Kernel) : ∃ sem answers heap,
    semCreate.run k = .ok sem { k with answers := answers, heap := heap } ∧
    (∀ b ∈ k.heap, b ∈ heap) ∧ (∀ b, sem = some b → b ∈ heap) ∧
    (sem ≠ none ↔ k.answers 0 ≠ none ∧ k.answers 1 ≠ none ∧ k.answers 2 ≠ none) := by
  cases h0 : k.answers 0 with
  | none => exact ⟨none, _, k.heap, by simp [semCreate, h0]; rfl, by simp⟩
  | some sem =>
    cases h1 : k.answers 1 with
    | none => exact ⟨none, _, k.heap, by simp [semCreate, h0, h1]; rfl, by simp⟩
    | some name =>
      cases h2 : k.answers 2 with
      | none => exact ⟨none, _, k.heap, by simp [semCreate, h0, h1, h2]; rfl, by simp⟩
      | some wchan =>
        refine ⟨some sem, fun n => k.answers (n + 3), wchan :: name :: sem :: k.heap, ?_, ?_,
          by simp⟩
        · simp [semCreate, h0, h1, h2]
        · intro b hb
          simp [hb]

theorem procCreateRunprogram_sound (k : Kernel) : Sound k (procCreateRunprogram.run k) ↔
    k.answers 0 = none ∨ k.answers 1 = none ∨ (∀ n < 5, k.answers n ≠ none) ∧
      ∃ i, k.processTable.search (MAX_PROC + 1) (nextIndex k.processTable.lastI) =
        some (some i) := by
  cases h0 : k.answers 0 with
  | none => simp [procCreateRunprogram, procCreate, h0, Sound]
  | some p =>
    cases h1 : k.answers 1 with
    | none => simp [procCreateRunprogram, procCreate, h0, h1, Sound]
    | some name =>
      cases hs : k.processTable.search (MAX_PROC + 1) (nextIndex k.processTable.lastI) with
      | none => simp [procCreateRunprogram, procCreate, procInitWaitpid, h0, h1, hs, Sound]
      | some found =>
        cases found with
        | none => simp [procCreateRunprogram, procCreate, procInitWaitpid, h0, h1, hs, Sound]
        | some i =>
          obtain ⟨sem, answers, heap, hrun, hkeep, hsem, hall⟩ := semCreate_run
            { k with answers := fun n => k.answers (n + 1 + 1), heap := name :: p :: k.heap
                     processTable := k.processTable.enter i p }
          have hfive : (∀ n < 5, k.answers n ≠ none) ↔ sem ≠ none := by
            rw [hall]
            refine ⟨fun h => ⟨h 2 (by decide), h 3 (by decide), h 4 (by decide)⟩, ?_⟩
            rintro ⟨h2, h3, h4⟩ n hn
            obtain rfl | rfl | rfl | rfl | rfl : n = 0 ∨ n = 1 ∨ n = 2 ∨ n = 3 ∨ n = 4 := by omega
            · simp [h0]
            · simp [h1]
            · exact h2
            · exact h3
            · exact h4
          have hcreate : procCreate.run k = .ok (some p) { k with
              answers := answers, heap := heap
              processTable := k.processTable.enter i p
              procs := update k.procs p (some ⟨name, i, sem, none⟩) } := by
            simp [procCreate, h0, h1, procInitWaitpid, hs, hrun]
          have hname : name ∈ heap := hkeep name (by simp)
          have hexists : (∃ b, sem = some b ∧ b ∈ heap) ↔ sem ≠ none := by
            rw [Option.ne_none_iff_exists']
            exact ⟨fun ⟨b, hb, _⟩ => ⟨b, hb⟩, fun ⟨b, hb⟩ => ⟨b, hb, hsem b hb⟩⟩
          rw [hfive, ← hexists]
          cases hc : k.cwd with
          | none =>
            simp [procCreateRunprogram, hcreate, hc, Sound, Complete, ProcessTable.enter, hname]
          | some dir =>
            simp [procCreateRunprogram, hcreate, hc, Sound, Complete,
              ProcessTable.enter, hname]

-- Memory runs out after the process structure and its name.
def starved : Kernel where
  answers n := if n < 2 then some (n + 100) else none
  heap := []
  procs _ := none
  processTable := ⟨fun _ => none, 0⟩
  cwd := none
  refcount _ := 0

-- The process has no semaphore, and the kernel stops when it exits.
theorem procCreateRunprogram_starved :
    (∃ k, procCreateRunprogram.run starved = .ok (some 100) k ∧ ¬ Complete k 100) ∧
    ∃ k, (procCreateRunprogram >>= fun _ => procSignalEnd 100).run starved =
      .error (.kassert "sem != NULL") k := by
  refine ⟨⟨_, rfl, ?_⟩, ⟨_, rfl⟩⟩
  rintro ⟨proc, sem, hproc, -, hsem, -⟩
  obtain rfl : _ = proc := Option.some.inj hproc
  cases hsem

end Os161.Process.Create
