import Os161.Lib.Run
import Os161.Vm.Fault.Record

namespace Os161.Vm

open Lib Lib.Exec Lib.Hoare

structure Balanced (c : Stats) : Prop where
  slots : c.tlbFaults = c.tlbFaultsFree + c.tlbFaultsReplace
  pages : c.tlbFaults = c.tlbReloads + c.pageFaultsDisk + c.pageFaultsZeroed
  disk : c.pageFaultsDisk = c.pageFaultsElf + c.pageFaultsSwapin
  silent : printAllStatistics c = [statisticsText c]

lemma balanced_initial (s : State) (h : s.stats = initStats) : Balanced s.stats := by
  rw [h]
  refine ⟨rfl, rfl, rfl, ?_⟩
  rw [printAllStatistics, warnings_eq_nil.mpr ⟨rfl, rfl, rfl⟩]

def Stats.excess (c : Stats) : Word := c.tlbFaults - (c.tlbFaultsFree + c.tlbFaultsReplace)

lemma excess_balanced (h : Balanced c) : c.excess = 0#32 := by
  rw [Stats.excess, h.slots, BitVec.sub_self]

lemma stable_excess (pid vaddr excess : Word) :
    Stable pid vaddr (fun _ c => c.excess = excess) where
  reset := fun _ h => h
  add := fun _ _ h => h
  reload := fun h => h
  zeroed := fun h => h
  disk := fun h => h
  elf := fun h => h
  swapin := fun h => h

lemma excess_countTlbFaults (c : Stats) : c.countTlbFaults.excess = c.excess + 1#32 := by
  simp only [Stats.excess, Stats.countTlbFaults]
  bv_omega

lemma excess_installed (env : Env) (pid vaddr paddr indexTlb : Word) (s : State) :
    (s.installed env pid vaddr paddr indexTlb).stats.excess = s.stats.excess := by
  rw [State.installed_stats]
  rcases chooseSlot_count env s.tlb indexTlb with hfree | hreplace
  · rw [hfree]
    simp only [Stats.excess, Stats.countTlbFaults, Stats.countTlbFaultsFree]
    bv_omega
  rw [hreplace]
  simp only [Stats.excess, Stats.countTlbFaults, Stats.countTlbFaultsReplace]
  bv_omega

variable {env : Env} {result faulttype faultaddress : Word} {s t : State} {cur : Option CurProc}

lemma resolveFault_excess (hrun : (resolveFault env as pid vaddr).run s = .ok result t) :
    t.stats.excess = s.stats.excess := by
  have hfind : Maintains (Over _ s.tlb) (findPage env as pid vaddr) :=
    findPage_over (stable_excess pid vaddr s.stats.excess)
  rcases (resolveFault_ok.mp hrun).2 with hdone | ⟨paddr, indexTlb, u, hpage, hinstall⟩
  · exact (hfind s _ t ⟨rfl, rfl⟩ hdone).1
  obtain ⟨-, -, -, -, rfl⟩ := installPage_ok.mp hinstall
  rw [excess_installed]
  exact (hfind s _ u ⟨rfl, rfl⟩ hpage).1

lemma vmFault_excess (h : IsAccess faulttype)
    (hrun : (vmFault env cur faulttype faultaddress).run s = .ok result t) :
    t.stats.excess = s.stats.excess + 1#32 := by
  rw [vmFault_access h] at hrun
  rw [← excess_countTlbFaults]
  have hkept : ∀ {u : State}, (pure EFAULT : Kern Word).run u = .ok result t →
      t.stats.excess = u.stats.excess := by
    intro u hpure
    injection hpure with _ ht
    rw [ht]
  cases cur with
  | none => exact hkept hrun
  | some cur =>
    obtain ⟨pid, as⟩ := cur
    cases as with
    | none => exact hkept hrun
    | some as => exact resolveFault_excess hrun

lemma vmFault_other (h : ¬ IsAccess faulttype)
    (hrun : (vmFault env cur faulttype faultaddress).run s = .ok result t) : t = s := by
  unfold vmFault at hrun
  split at hrun
  · cases cur with
    | none => cases hrun
    | some cur =>
      obtain ⟨_, u, -, hthrow⟩ := bind_ok.mp hrun
      cases hthrow
  · injection hrun with _ ht
    exact ht.symm

structure FaultCall where
  env : Env
  cur : Option CurProc
  faulttype : Word
  faultaddress : Word

def FaultStep (call : FaultCall) (s t : State) : Prop :=
  ∃ u result, u.stats = s.stats ∧
    (vmFault call.env call.cur call.faulttype call.faultaddress).run u = .ok result t

section

variable (call : FaultCall) (s t : State) (h : s.stats = initStats)

include h

lemma initial_kept (hother : ¬ IsAccess call.faulttype) (hstep : FaultStep call s t) :
    t.stats = initStats := by
  obtain ⟨u, result, hu, hrun⟩ := hstep
  rw [vmFault_other hother hrun, hu, h]

lemma initial_unbalanced (haccess : ¬ ¬ IsAccess call.faulttype) (hstep : FaultStep call s t) :
    ¬ Balanced t.stats := by
  obtain ⟨u, result, hu, hrun⟩ := hstep
  intro hbalanced
  have hone := vmFault_excess (not_not.mp haccess) hrun
  rw [excess_balanced hbalanced, hu, h] at hone
  exact absurd hone (by decide)

end

theorem counters_balanced (s : State) (calls : List FaultCall) :
    Run.Always FaultStep (fun t => Balanced t.stats) calls (s.setStats initStats) ↔
      Run.Guarded FaultStep (fun call _ => ¬ IsAccess call.faulttype) calls
        (s.setStats initStats) :=
  Run.always_iff_guarded balanced_initial initial_kept initial_unbalanced calls rfl

theorem stack_fault_unbalanced : ¬ Run.Always FaultStep (fun t => Balanced t.stats)
      [⟨steadyEnv, some ⟨1#32, some 0⟩, VM_FAULT_WRITE, 0x7ffff000#32⟩] smallMachine := by
  intro h
  obtain ⟨t, hrun, -⟩ := stack_fault_run steadyEnv
  have hbalanced : Balanced t.stats := h.2 t ⟨smallMachine, 0#32, rfl, hrun⟩
  have hone := vmFault_excess (.inr rfl) hrun
  rw [excess_balanced hbalanced] at hone
  exact absurd hone (by decide)

end Os161.Vm
