import Os161.Lib.Scan
import Os161.Vm.Coremap

namespace Os161.Vm

open Function Lib Lib.Exec

def NO_PID : Word := -1#32

def pageTableInit (memory : Int → Entry) (length : Nat) : Table where
  nextEntry := fun i =>
    if 0 ≤ i ∧ i < length then
      { memory i with pid := NO_PID, vaddr := 0#32, status := 0#32, positionFifo := 0 }
    else memory i
  length := length

def Table.tick (table : Table) : Table :=
  { table with
    nextEntry := fun i =>
      let e := table.nextEntry i
      if 0 ≤ i ∧ i < table.length ∧ e.pid ≠ NO_PID then
        { e with positionFifo := e.positionFifo + 1 }
      else e }

def Table.lastPosition (table : Table) (pid : Word) : Int :=
  Scan.maxWhere (fun i => pid = (table.nextEntry i).pid) (fun i => (table.nextEntry i).positionFifo)
    (-1) table.length

def Table.addEntry (table : Table) (pid vaddr : Word) (frameIndex : Nat) (status : Word) : Table :=
  { table with
    nextEntry := update table.nextEntry frameIndex
      { table.nextEntry frameIndex with
        pid := pid
        vaddr := vaddr
        status := status
        positionFifo := table.lastPosition pid + 1 } }

def Table.lookup (table : Table) (pid vaddr : Word) : Option Nat :=
  Scan.lastIndex
    (fun i => (table.nextEntry i).pid = pid && (table.nextEntry i).vaddr = vaddr) table.length

-- page_table_replacement; the entry it copies out is `table.nextEntry` at the result.
def Table.replacement (table : Table) (pid : Word) : Int :=
  match (List.range table.length).find?
      (fun i : Nat => (table.nextEntry i).positionFifo = 0 && (table.nextEntry i).pid = pid) with
  | some i => i
  | none => -1

def Table.clear (table : Table) (index : Int) : Int → Entry :=
  update table.nextEntry index
    { table.nextEntry index with
      pid := NO_PID
      vaddr := 0#32
      status := 0#32
      positionFifo := 0 }

def Table.resetEntry (table : Table) (index : Int) : Table :=
  { table with
    nextEntry := fun i =>
      let e := table.clear index i
      if 0 ≤ i ∧ i < table.length ∧ (table.nextEntry index).pid = e.pid ∧
          (table.nextEntry index).positionFifo < e.positionFifo then
        { e with positionFifo := e.positionFifo - 1 }
      else e }

def Table.statusOnIndex (table : Table) (index : Int) : Word :=
  (table.nextEntry index).status &&& 0xff#32

def Table.setStatusAt (table : Table) (index : Int) (val : Word) : Table :=
  { table with
    nextEntry := update table.nextEntry index
      { table.nextEntry index with
        status := (table.nextEntry index).status ||| (val &&& 0xff#32) } }

def frameIndex (paddr : Word) : Nat := (paddr.sshiftRight 12).toNat

def lruUpdateCnt (env : Env) : Kern Unit :=
  critical env .table fun s => ((), s.setPageTable s.pageTable.tick)

def pageTableAddEntry (env : Env) (pid vaddr paddr status : Word) : Kern Unit := do
  let s ← get
  kassert (frameIndex paddr < s.pageTable.length) "frame_index < page_table->length"
  critical env .table fun s =>
    ((), s.setPageTable (s.pageTable.addEntry pid vaddr (frameIndex paddr) status))

-- The result is the pair that the C function stores through its pointers when it returns 1.
def pageTableGetPaddrEntry (env : Env) (pid vaddr : Word) : Kern (Option (Word × Word)) :=
  critical env .table fun s =>
    ((s.pageTable.lookup pid vaddr).map fun last =>
      (BitVec.ofNat 32 (last * PAGE_SIZE), (s.pageTable.nextEntry last).status), s)

def pageTableResetEntry (env : Env) (index : Int) : Kern Unit := do
  let s ← get
  if 0 ≤ index ∧ index < s.pageTable.length then
    critical env .table fun s => ((), s.setPageTable (s.pageTable.resetEntry index))
  else throw .stray

def removeOnPid (env : Env) (pid : Word) (i : Nat) : Kern Unit := do
  let s ← get
  if (s.pageTable.nextEntry i).pid = pid then
    pageTableResetEntry env i
    let _ ← freeppages env (BitVec.ofNat 32 (i * PAGE_SIZE))
    pure ()
  else pure ()

def pageTableRemoveOnPids (env : Env) (pid : Word) : Kern Unit :=
  if pid.toInt < 0 then throw (.panic "error on pid: it is invalid\n" [])
  else do
    spinlockAcquire env .table
    let s ← get
    loop (removeOnPid env pid) 0 s.pageTable.length
    spinlockRelease env .table

lemma pageTableAddEntry_ok :
    (pageTableAddEntry env pid vaddr paddr status).run s = .ok () t ↔
      frameIndex paddr < s.pageTable.length ∧ Available env .table s ∧
        t = s.setPageTable (s.pageTable.addEntry pid vaddr (frameIndex paddr) status) := by
  unfold pageTableAddEntry
  rw [bind_run_ok (EStateM.run_get s), kassert_bind_ok, decide_eq_true_eq,
    critical_ok (fun _ _ => rfl), eq_self, true_and]

lemma pageTableGetPaddrEntry_ok :
    (pageTableGetPaddrEntry env pid vaddr).run s = .ok result t ↔ Available env .table s ∧
        result = ((s.pageTable.lookup pid vaddr).map fun last =>
          (BitVec.ofNat 32 (last * PAGE_SIZE), (s.pageTable.nextEntry last).status)) ∧ t = s :=
  critical_ok (fun _ _ => rfl)

lemma pageTableResetEntry_ok :
    (pageTableResetEntry env index).run s = .ok () t ↔
      (Available env .table s ∧ 0 ≤ index ∧ index < s.pageTable.length) ∧
        t = s.setPageTable (s.pageTable.resetEntry index) := by
  unfold pageTableResetEntry
  rw [bind_run_ok (EStateM.run_get s)]
  by_cases hindex : 0 ≤ index ∧ index < s.pageTable.length
  · rw [if_pos hindex, critical_ok (fun _ _ => rfl)]
    simp [hindex]
  · simp [hindex]

lemma lruUpdateCnt_ok :
    (lruUpdateCnt env).run s = .ok () t ↔
      Available env .table s ∧ t = s.setPageTable s.pageTable.tick := by
  unfold lruUpdateCnt
  rw [critical_ok (fun _ _ => rfl)]
  simp

end Os161.Vm
