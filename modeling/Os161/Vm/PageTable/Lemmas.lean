import Os161.Vm.PageTable

namespace Os161.Vm

open Function Lib Lib.Exec EStateM

def Entry.page (e : Entry) : Word × Word := (e.pid, e.vaddr)

section Entries

variable (table : Table) (index : Int) (i : Int)

lemma resetEntry_page :
    ((table.resetEntry index).nextEntry i).page =
      if i = index then (NO_PID, 0#32) else (table.nextEntry i).page := by
  have hclear : (table.clear index i).page =
      if i = index then (NO_PID, 0#32) else (table.nextEntry i).page := by
    rw [Table.clear, update_apply]
    split <;> rfl
  rw [← hclear]
  simp only [Table.resetEntry]
  split <;> rfl

section

variable (pid vaddr : Word) (frame : Nat) (status : Word)

lemma addEntry_page :
    ((table.addEntry pid vaddr frame status).nextEntry i).page =
      if i = frame then (pid, vaddr) else (table.nextEntry i).page := by
  simp only [Table.addEntry, update_apply]
  split <;> rfl

lemma addEntry_self :
    (table.addEntry pid vaddr frame status).nextEntry frame =
      { table.nextEntry frame with
        pid := pid, vaddr := vaddr, status := status,
        positionFifo := table.lastPosition pid + 1 } :=
  update_self ..

end

lemma addEntry_of_ne (pid vaddr : Word) {frame i : Nat} (status : Word) (hi : i ≠ frame) :
    (table.addEntry pid vaddr frame status).nextEntry i = table.nextEntry i :=
  update_of_ne (by omega) ..

lemma setStatusAt_page (val : Word) :
    ((table.setStatusAt index val).nextEntry i).page = (table.nextEntry i).page := by
  simp only [Table.setStatusAt, update_apply]
  split
  · rename_i hi
    rw [hi]
    rfl
  · rfl

lemma resetEntry_pid :
    ((table.resetEntry index).nextEntry i).pid =
      if i = index then NO_PID else (table.nextEntry i).pid := by
  have hpage := congrArg Prod.fst (resetEntry_page table index i)
  rwa [apply_ite Prod.fst] at hpage

end Entries

lemma lookup_eq_none {table : Table} {pid vaddr : Word} : table.lookup pid vaddr = none ↔
      ∀ i < table.length, (table.nextEntry i).page ≠ (pid, vaddr) := by
  unfold Table.lookup
  rw [Scan.lastIndex_eq_none]
  simp [Entry.page]

section Removal

lemma removeOnPid_skip {i : Nat} (h : (s.pageTable.nextEntry i).pid ≠ pid) :
    (removeOnPid env pid i).run s = .ok () s := by
  unfold removeOnPid
  rw [bind_run_ok (run_get _), if_neg h]
  rfl

lemma removeOnPid_ok {i : Nat} (h : (s.pageTable.nextEntry i).pid = pid)
    (hrun : (removeOnPid env pid i).run s = .ok () t) :
    Available env .table s ∧ t.pageTable = s.pageTable.resetEntry i := by
  unfold removeOnPid at hrun
  rw [bind_run_ok (run_get _), if_pos h] at hrun
  obtain ⟨_, u, hreset, hrun⟩ := bind_ok.mp hrun
  obtain ⟨⟨havail, -⟩, rfl⟩ := pageTableResetEntry_ok.mp hreset
  obtain ⟨_, v, hfree, hrun⟩ := bind_ok.mp hrun
  injection hrun with _ ht
  subst ht
  have hfreed := (freeppages_ok.mp hfree).2
  split at hfreed
  · obtain ⟨-, -, rfl⟩ := hfreed
    exact ⟨havail, rfl⟩
  · obtain ⟨-, rfl⟩ := hfreed
    exact ⟨havail, rfl⟩

lemma pageTableRemoveOnPids_skip (hpid : 0 ≤ pid.toInt) (havail : Available env .table s)
    (hnone : ∀ i < s.pageTable.length, (s.pageTable.nextEntry i).pid ≠ pid) :
    (pageTableRemoveOnPids env pid).run s = .ok () s := by
  unfold pageTableRemoveOnPids
  rw [if_neg (by omega), bind_run_ok (spinlockAcquire_ok.mpr ⟨havail, rfl⟩),
    bind_run_ok (run_get _)]
  have hloop : (loop (removeOnPid env pid) 0 s.pageTable.length).run (s.acquired env .table) =
      .ok () (s.acquired env .table) :=
    loop_skip 0 _ fun i _ hi => removeOnPid_skip (hnone i (by omega))
  exact (bind_run_ok hloop _).trans ((spinlockRelease_acquired_ok havail rfl).mpr rfl)

lemma pageTableRemoveOnPids_clears (hrun : (pageTableRemoveOnPids env pid).run s = .ok () t) :
    0 ≤ pid.toInt ∧ Available env .table s ∧
      ∀ i < s.pageTable.length, (t.pageTable.nextEntry i).pid ≠ pid := by
  unfold pageTableRemoveOnPids at hrun
  by_cases hneg : pid.toInt < 0
  · rw [if_pos hneg] at hrun
    cases hrun
  rw [if_neg hneg] at hrun
  have hno : NO_PID ≠ pid := by
    rintro rfl
    exact hneg (by decide)
  obtain ⟨_, u, hacquire, hrun⟩ := bind_ok.mp hrun
  obtain ⟨havail, rfl⟩ := spinlockAcquire_ok.mp hacquire
  rw [bind_run_ok (run_get _)] at hrun
  obtain ⟨_, u, hloop, hrelease⟩ := bind_ok.mp hrun
  obtain ⟨-, rfl⟩ := spinlockRelease_ok.mp hrelease
  -- after `k` iterations the first `k` entries are not the process's
  have hclear := loop_invariant (fun k u => ∀ i < k, (u.pageTable.nextEntry i).pid ≠ pid)
    (fun k u v hu hbody => by
      by_cases howner : (u.pageTable.nextEntry k).pid = pid
      · obtain ⟨-, htable⟩ := removeOnPid_ok howner hbody
        intro i hi
        rw [htable, resetEntry_pid]
        split
        · exact hno
        · exact hu i (by omega)
      rw [removeOnPid_skip howner] at hbody
      injection hbody with _ hv
      subst hv
      intro i hi
      by_cases heq : i = k
      · exact heq ▸ howner
      · exact hu i (by omega)) 0 _ (by simp) hloop
  exact ⟨by omega, havail, fun i hi => hclear i (by simpa using hi)⟩

end Removal

end Os161.Vm
