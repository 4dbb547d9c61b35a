import Os161.Vm.Fault.Usable

-- The protection of the code pages: what vm_fault puts into the TLB, and what a store through
-- such an entry does.

namespace Os161.Vm

open Lib Lib.Exec Lib.Run

structure PageFault where
  pid : Word
  as : Nat
  faulttype : Word
  faultaddress : Word
  deriving DecidableEq, Repr

def PageFault.page (f : PageFault) : Word := f.faultaddress &&& PAGE_FRAME

def PageFault.handle (f : PageFault) (env : Env) : Kern Word :=
  vmFault env (some ⟨f.pid, some f.as⟩) f.faulttype f.faultaddress

def PageFault.step (env : Env) (f : PageFault) (s t : State) : Prop :=
  ∃ result, (f.handle env).run s = .ok result t

def PageFault.Installs (f : PageFault) (env : Env) (s t : State) (e : TlbEntry) : Prop :=
  IsAccess f.faulttype ∧ (f.handle env).run s = .ok 0#32 t ∧
    ∃ paddr indexTlb u,
      (findPage env f.as f.pid f.page).run (s.setStats s.stats.countTlbFaults) =
        .ok (.page paddr indexTlb) u ∧
      (installPage env f.pid f.page paddr indexTlb).run u = .ok 0#32 t ∧
      e = t.tlb.entry (slotOf (chooseSlot env u.tlb indexTlb).1)

def TlbEntry.storeFault (e : TlbEntry) : Option Word :=
  if e.lo &&& TLBLO_VALID = 0#32 then some VM_FAULT_WRITE
  else if e.lo &&& TLBLO_DIRTY = 0#32 then some VM_FAULT_READONLY
  else none

def PageFault.Protects (env : Env) (f : PageFault) (s : State) : Prop :=
  ∀ t e, f.Installs env s t e →
    ((s.addrspaces f.as).code.Has f.page →
      e.lo &&& TLBLO_DIRTY = 0#32 ∧ e.storeFault = some VM_FAULT_READONLY) ∧
    (¬ (s.addrspaces f.as).code.Has f.page →
      (s.addrspaces f.as).data.Has f.page ∨ InStack f.page →
      e.lo &&& TLBLO_DIRTY ≠ 0#32 ∧ e.storeFault = none)

-- The access is to a page of code that is resident or for which there is a frame.
def PageFault.ServesCode (f : PageFault) (s : State) : Prop :=
  IsAccess f.faulttype ∧ (s.addrspaces f.as).code.Has f.page ∧ s.HasFrame f.as f.pid f.page

section Entry

variable {env : Env} {f : PageFault} {s t : State} {e : TlbEntry}

lemma lo_bits (paddr : Word) :
    (paddr ||| TLBLO_DIRTY ||| TLBLO_VALID) &&& TLBLO_DIRTY ≠ 0#32 ∧
      (paddr ||| TLBLO_DIRTY ||| TLBLO_VALID) &&& TLBLO_VALID ≠ 0#32 := by
  constructor
  · intro h
    have hbit := congrArg (fun w : Word => w.getLsbD 10) h
    simp [TLBLO_DIRTY, TLBLO_VALID] at hbit
  intro h
  have hbit := congrArg (fun w : Word => w.getLsbD 9) h
  simp [TLBLO_DIRTY, TLBLO_VALID] at hbit

lemma installs_writable (h : f.Installs env s t e) :
    e.lo &&& TLBLO_DIRTY ≠ 0#32 ∧ e.storeFault = none := by
  obtain ⟨-, -, paddr, indexTlb, u, -, hinstall, rfl⟩ := h
  obtain ⟨-, -, -, -, rfl⟩ := installPage_ok.mp hinstall
  have hentry : (u.installed env f.pid f.page paddr indexTlb).tlb.entry
      (slotOf (chooseSlot env u.tlb indexTlb).1) =
      ⟨f.page ||| f.pid <<< 6, paddr ||| TLBLO_DIRTY ||| TLBLO_VALID⟩ := by
    simp [Tlb.writeEntry, Tlb.write]
  obtain ⟨hdirty, hvalid⟩ := lo_bits paddr
  rw [hentry]
  refine ⟨hdirty, ?_⟩
  rw [TlbEntry.storeFault, if_neg hvalid, if_neg hdirty]

lemma covers_code {space : AddrSpace} (h : space.code.Has vaddr) : space.Covers vaddr := by
  refine .inl ?_
  rw [AddrSpace.segmentOf, if_pos h]
  simp

lemma findPage_code_iff (hcode : (s.addrspaces as).code.Has vaddr)
    (hrun : (findPage env as pid vaddr).run (s.setStats c) = .ok resolution t) :
    (∃ paddr indexTlb, resolution = .page paddr indexTlb) ↔ s.HasFrame as pid vaddr := by
  have hcovers : ((s.setStats c).addrspaces as).Covers vaddr := covers_code hcode
  rw [findPage_page_iff hcovers hrun, hasFrame_setStats]

lemma installs_of_hasFrame (haccess : IsAccess f.faulttype)
    (hcode : (s.addrspaces f.as).code.Has f.page) (hframe : s.HasFrame f.as f.pid f.page)
    (hstep : f.step env s t) : ∃ e, f.Installs env s t e := by
  obtain ⟨result, hrun⟩ := hstep
  have hserve := hrun
  rw [PageFault.handle, vmFault_access haccess] at hserve
  obtain ⟨-, hfind | ⟨paddr, indexTlb, u, hfind, hinstall⟩⟩ := resolveFault_ok.mp hserve
  · obtain ⟨paddr, indexTlb, hpage⟩ := (findPage_code_iff hcode hfind).mpr hframe
    cases hpage
  · obtain ⟨-, -, -, rfl, -⟩ := installPage_ok.mp hinstall
    exact ⟨_, haccess, hrun, paddr, indexTlb, u, hfind, hinstall, rfl⟩

lemma protects_iff (hstep : f.step env s t) : f.Protects env s ↔ ¬ f.ServesCode s := by
  constructor
  · rintro hprotects ⟨haccess, hcode, hframe⟩
    obtain ⟨e, hinstalls⟩ := installs_of_hasFrame haccess hcode hframe hstep
    exact (installs_writable hinstalls).1 ((hprotects t e hinstalls).1 hcode).1
  intro hnone u e hinstalls
  refine ⟨fun hcode => absurd ?_ hnone, fun _ _ => installs_writable hinstalls⟩
  obtain ⟨haccess, -, paddr, indexTlb, v, hfind, -⟩ := hinstalls
  exact ⟨haccess, hcode, (findPage_code_iff hcode hfind).mp ⟨_, _, rfl⟩⟩

end Entry

-- A sequence of faults keeps the code read-only exactly when none of them is on a page of code
-- that can be served. Pages of data and of the stack are writable in any case.
theorem text_readonly_iff (env : Env) (faults : List PageFault) (s : State) :
    Guarded (PageFault.step env) (PageFault.Protects env) faults s ↔
      Guarded (PageFault.step env) (fun f s => ¬ f.ServesCode s) faults s :=
  guarded_congr (fun _ _ _ hstep => protects_iff hstep) faults s

lemma codePage_fresh (as : Nat) (space : AddrSpace) (pid vaddr : Word)
    (hlocks : ∀ lock, Available env lock s)
    (hroom : (s.addrspaces as).allocatedPages < MAX_ALLOCATED_PAGES)
    (haddr : allocAddr s.coremap s.ram 1#32 ≠ 0#32) (hindex : frameIndex pid < s.pageTable.length) :
    ∃ t, (codePage env as space pid vaddr).run s =
        .ok (.page (allocAddr s.coremap s.ram 1#32) NO_SLOT) t ∧ t.tlb = s.tlb ∧
      t.held = s.held := by
  have htake := takeFrame_fresh pid hlocks hroom haddr
  let v := ((s.tried false).claimed as (allocAddr s.coremap s.ram 1#32)).filled env space.fi.v
    space.code vaddr (allocAddr s.coremap s.ram 1#32)
  have hv : Available env .table v := hlocks .table
  refine ⟨v.setPageTable (v.pageTable.addEntry vaddr (allocAddr s.coremap s.ram 1#32)
    (frameIndex pid) (statusWith 0x01#32 NO_SLOT)), ?_, rfl, rfl⟩
  exact demandPage_ok.mpr ⟨_, _, htake,
    .inr ⟨_, v, rfl, fillFromElf_ok.mpr rfl, hindex, hv, rfl, rfl⟩⟩

def firstFetch : PageFault := ⟨1#32, 0, VM_FAULT_READ, 0x400000#32⟩

lemma firstFetch_installs : ∃ t e, firstFetch.Installs steadyEnv smallMachine t e := by
  let s := smallMachine.setStats smallMachine.stats.countTlbFaults
  have hlocks : ∀ lock, Available steadyEnv lock s := fun _ _ => rfl
  have habsent : s.pageTable.lookup 1#32 0x400000#32 = none := by decide
  have hout : s.swap.slotOf 1#32 0x400000#32 = none := slotOf_swapBootstrap _ _ _
  have haddr : allocAddr s.coremap s.ram 1#32 = 0x4000#32 := by decide
  obtain ⟨u, hpage, htlb, hheld⟩ := codePage_fresh 0 (s.addrspaces 0) 1#32 0x400000#32
    hlocks (by decide) (by decide) (by decide)
  have hload : (loadOnDemand steadyEnv 0 1#32 0x400000#32).run s =
      (codePage steadyEnv 0 (s.addrspaces 0) 1#32 0x400000#32).run s := by
    rw [loadOnDemand, bind_run_ok (EStateM.run_get s)]
    simp only [if_pos (show (s.addrspaces 0).code.Has 0x400000#32 by decide)]
  have hfind : (findPage steadyEnv 0 1#32 0x400000#32).run s = .ok (.page 0x4000#32 NO_SLOT) u := by
    rw [findPage_absent (hlocks .table) (hlocks .swap) habsent hout, hload, hpage, haddr]
  have hchoice : chooseSlot steadyEnv u.tlb NO_SLOT = (0#32, s.tlb, Stats.countTlbFaultsFree) := by
    rw [htlb]
    rfl
  have hinstall : (installPage steadyEnv 1#32 0x400000#32 0x4000#32 NO_SLOT).run u =
      .ok 0#32 (u.installed steadyEnv 1#32 0x400000#32 0x4000#32 NO_SLOT) := by
    refine installPage_ok.mpr ⟨by decide, fun _ => congrFun hheld _, ?_, rfl, rfl⟩
    rw [hchoice]
    decide
  have hrun : (firstFetch.handle steadyEnv).run smallMachine =
      .ok 0#32 (u.installed steadyEnv 1#32 0x400000#32 0x4000#32 NO_SLOT) := by
    rw [PageFault.handle, vmFault_access (show IsAccess firstFetch.faulttype from .inl rfl)]
    exact resolveFault_ok.mpr ⟨smallMachine_setUp, .inr ⟨_, _, u, hfind, hinstall⟩⟩
  exact ⟨_, _, .inl rfl, hrun, _, _, u, hfind, hinstall, rfl⟩

theorem firstFetch_writable :
    (smallMachine.addrspaces firstFetch.as).code.Has firstFetch.page ∧
      (∃ t e, firstFetch.Installs steadyEnv smallMachine t e ∧ e.lo &&& TLBLO_DIRTY ≠ 0#32 ∧
        e.storeFault = none) ∧
      ¬ Guarded (PageFault.step steadyEnv) (PageFault.Protects steadyEnv) [firstFetch]
        smallMachine := by
  obtain ⟨t, e, hinstalls⟩ := firstFetch_installs
  have hcode : (smallMachine.addrspaces firstFetch.as).code.Has firstFetch.page := by decide
  obtain ⟨hdirty, hstore⟩ := installs_writable hinstalls
  refine ⟨hcode, ⟨t, e, hinstalls, hdirty, hstore⟩, fun hguarded => ?_⟩
  have hprotects := (hguarded t ⟨_, hinstalls.2.1⟩).1
  exact hdirty ((hprotects t e hinstalls).1 hcode).1

end Os161.Vm
