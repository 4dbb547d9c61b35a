import Os161.Vm.Fault.Lemmas
import Os161.Vm.PageTable.Lemmas

namespace Os161.Vm

open Lib Lib.Exec Lib.Hoare

def IsProcessId (pid : Word) : Prop := 1 ≤ pid.toNat ∧ pid.toNat ≤ MAX_PROC

instance (pid : Word) : Decidable (IsProcessId pid) := inferInstanceAs (Decidable (_ ∧ _))

def PutInTlb (s t : State) (pid vaddr : Word) (frame : Nat) : Prop :=
  ∃ slot < NUM_TLB, t.tlb.entry = Function.update s.tlb.entry slot
    ⟨vaddr ||| pid <<< 6, BitVec.ofNat 32 (frame * PAGE_SIZE) ||| TLBLO_DIRTY ||| TLBLO_VALID⟩

-- The page can be found in its frame afterwards, and only the entries of the frame and of the
-- process's victim have changed.
def Recorded (env : Env) (s t : State) (pid vaddr : Word) (frame : Nat) : Prop :=
  (∃ status, (pageTableGetPaddrEntry env pid vaddr).run t =
    .ok (some (BitVec.ofNat 32 (frame * PAGE_SIZE), status)) t) ∧
  ∀ i < s.pageTable.length, i ≠ frame → (i : Int) ≠ s.pageTable.replacement pid →
    t.pageTable.nextEntry i = s.pageTable.nextEntry i

variable {pid vaddr : Word} {env : Env} {s t : State}

lemma isProcessId_cases {P : Word → Prop} (h : IsProcessId pid)
    (hall : ∀ n : Fin (MAX_PROC + 1), 1 ≤ n.val → P (BitVec.ofNat 32 n)) : P pid := by
  have hpid := hall ⟨pid.toNat, Nat.lt_succ_of_le h.2⟩ h.1
  simpa using hpid

lemma isProcessId_ne_noPid (h : IsProcessId pid) : pid ≠ NO_PID := by
  rintro rfl
  exact absurd h (by decide)

lemma aligned_mod (h : addr &&& PAGE_FRAME = addr) : addr.toNat % PAGE_SIZE = 0 := by
  have hlow : addr &&& 0xfff#32 = 0#32 := by
    rw [← h, BitVec.and_assoc, show PAGE_FRAME &&& 0xfff#32 = 0#32 from by decide, BitVec.and_zero]
  have hnat := congrArg BitVec.toNat hlow
  rwa [BitVec.toNat_and, show (0xfff#32).toNat = 2 ^ 12 - 1 from rfl,
    Nat.and_two_pow_sub_one_eq_mod] at hnat

lemma aligned_div_mul (h : addr &&& PAGE_FRAME = addr) :
    addr.toNat / PAGE_SIZE * PAGE_SIZE = addr.toNat :=
  Nat.div_mul_cancel (Nat.dvd_of_mod_eq_zero (aligned_mod h))

lemma isProcessId_ne_page (h : IsProcessId pid) (addr : Word) : addr &&& PAGE_FRAME ≠ pid := by
  rintro rfl
  have hmod : (addr &&& PAGE_FRAME).toNat % PAGE_SIZE = 0 :=
    aligned_mod (by rw [BitVec.and_assoc, BitVec.and_self])
  obtain ⟨hpos, hle⟩ := h
  simp only [MAX_PROC, PAGE_SIZE] at hle hmod
  omega

-- The entry that is written carries the page's address where its pid should be.
lemma stable_absent (hpid : pid ≠ NO_PID) (hne : vaddr ≠ pid) :
    Stable pid vaddr (fun table _ => table.lookup pid vaddr = none) where
  reset := by
    intro table c index habsent
    rw [lookup_eq_none] at habsent ⊢
    intro i hi
    rw [resetEntry_page]
    split
    · exact fun heq => hpid (congrArg Prod.fst heq).symm
    · exact habsent i hi
  add := by
    intro table c paddr status habsent
    rw [lookup_eq_none] at habsent ⊢
    intro i hi
    rw [addEntry_page]
    split
    · exact fun heq => hne (congrArg Prod.fst heq)
    · exact habsent i hi
  reload := fun h => h
  zeroed := fun h => h
  disk := fun h => h
  elf := fun h => h
  swapin := fun h => h

lemma installPage_absent (habsent : s.pageTable.lookup pid vaddr = none)
    (hrun : (installPage env pid vaddr paddr indexTlb).run s = .ok result t) :
    t.pageTable.lookup pid vaddr = none := by
  obtain ⟨-, -, -, -, rfl⟩ := installPage_ok.mp hrun
  rw [lookup_eq_none] at habsent ⊢
  intro i hi
  rw [State.installed_pageTable, setStatusAt_page]
  exact habsent i hi

lemma resolveFault_absent (hpid : pid ≠ NO_PID) (hne : vaddr ≠ pid)
    (habsent : s.pageTable.lookup pid vaddr = none)
    (hrun : (resolveFault env as pid vaddr).run s = .ok result t) :
    t.pageTable.lookup pid vaddr = none := by
  have hfind : Maintains (Over _ s.tlb) (findPage env as pid vaddr) :=
    findPage_over (stable_absent hpid hne)
  rcases (resolveFault_ok.mp hrun).2 with hdone | ⟨paddr, indexTlb, u, hpage, hinstall⟩
  · exact (hfind s _ t ⟨habsent, rfl⟩ hdone).1
  · exact installPage_absent (hfind s _ u ⟨habsent, rfl⟩ hpage).1 hinstall

lemma not_recorded_of_absent (habsent : t.pageTable.lookup pid vaddr = none) :
    ¬ Recorded env s t pid vaddr frame := by
  rintro ⟨⟨status, hget⟩, -⟩
  obtain ⟨-, hsome, -⟩ := pageTableGetPaddrEntry_ok.mp hget
  simp [habsent] at hsome

-- Whatever the segment, with or without an eviction, and also when it comes back from swap: a
-- page that was not resident is not found in the page table after its fault.
theorem fault_never_recorded (env : Env) (s : State) (as : Nat) {pid faulttype : Word}
    (faultaddress : Word) (hpid : IsProcessId pid)
    (haccess : IsAccess faulttype)
    (habsent : s.pageTable.lookup pid (faultaddress &&& PAGE_FRAME) = none) :
    (∀ t frame, (vmFault env (some ⟨pid, some as⟩) faulttype faultaddress).run s = .ok 0#32 t →
      PutInTlb s t pid (faultaddress &&& PAGE_FRAME) frame →
      ¬ Recorded env s t pid (faultaddress &&& PAGE_FRAME) frame) ∧
    (∀ t paddr, (swapIn env as pid (faultaddress &&& PAGE_FRAME)).run s = .ok (some paddr) t →
      ¬ Recorded env s t pid (faultaddress &&& PAGE_FRAME) (paddr.toNat / PAGE_SIZE)) := by
  have hno := isProcessId_ne_noPid hpid
  have hne := isProcessId_ne_page hpid faultaddress
  refine ⟨?_, ?_⟩
  · intro t frame hrun _
    rw [vmFault_access haccess] at hrun
    exact not_recorded_of_absent
      (resolveFault_absent (s := s.setStats s.stats.countTlbFaults) hno hne habsent hrun)
  intro t paddr hrun
  have hkept : Maintains (Over _ s.tlb) (swapIn env as pid (faultaddress &&& PAGE_FRAME)) :=
    swapIn_over (stable_absent hno hne)
  exact not_recorded_of_absent (hkept s _ t ⟨habsent, rfl⟩ hrun).1

lemma smallMachine_setUp : smallSpace.SetUp :=
  ⟨by decide, by decide, by decide, by decide, by decide, by decide, by decide⟩

lemma stack_fault_run (env : Env) :
    ∃ t, (vmFault env (some ⟨1#32, some 0⟩) VM_FAULT_WRITE 0x7ffff000#32).run smallMachine =
        .ok 0#32 t ∧ PutInTlb smallMachine t 1#32 0x7ffff000#32 4 := by
  let s := smallMachine.setStats smallMachine.stats.countTlbFaults
  have hlocks : ∀ lock, Available env lock s := fun _ _ => rfl
  have habsent : s.pageTable.lookup 1#32 0x7ffff000#32 = none := by decide
  have hout : s.swap.slotOf 1#32 0x7ffff000#32 = none := slotOf_swapBootstrap _ _ _
  have haddr : allocAddr s.coremap s.ram 1#32 = 0x4000#32 := by decide
  obtain ⟨u, hpage, htlb, hheld⟩ := stackPage_fresh 0 1#32 0x7ffff000#32
    hlocks (by decide) (by decide) (by decide)
  have hfind : (findPage env 0 1#32 0x7ffff000#32).run s = .ok (.page 0x4000#32 NO_SLOT) u := by
    rw [findPage_absent (hlocks .table) (hlocks .swap) habsent hout,
      loadOnDemand_stack (by decide) (by decide) (by decide), hpage, haddr]
  have hchoice : chooseSlot env u.tlb NO_SLOT = (0#32, s.tlb, Stats.countTlbFaultsFree) := by
    rw [htlb]
    rfl
  refine ⟨u.installed env 1#32 0x7ffff000#32 0x4000#32 NO_SLOT, ?_, 0, by decide, ?_⟩
  · rw [vmFault_access (.inr rfl)]
    refine resolveFault_ok.mpr ⟨smallMachine_setUp, .inr ⟨_, _, u, hfind, ?_⟩⟩
    refine installPage_ok.mpr ⟨by decide, fun _ => congrFun hheld _, ?_, rfl, rfl⟩
    rw [hchoice]
    decide
  · simp only [State.installed, hchoice]
    rfl

-- The first fault on the stack of process 1, on a page that is neither resident nor in swap,
-- maps frame 4, and a lookup right afterwards does not find the page.
theorem stack_fault_not_recorded :
    InStack 0x7ffff000#32 ∧ smallMachine.pageTable.lookup 1#32 0x7ffff000#32 = none ∧
      smallMachine.swap.slotOf 1#32 0x7ffff000#32 = none ∧
      ∃ t, (vmFault steadyEnv (some ⟨1#32, some 0⟩) VM_FAULT_WRITE 0x7ffff000#32).run
          smallMachine = .ok 0#32 t ∧ PutInTlb smallMachine t 1#32 0x7ffff000#32 4 ∧
        ¬ Recorded steadyEnv smallMachine t 1#32 0x7ffff000#32 4 := by
  have habsent : smallMachine.pageTable.lookup 1#32 0x7ffff000#32 = none := by decide
  obtain ⟨t, hrun, hput⟩ := stack_fault_run steadyEnv
  refine ⟨by decide, habsent, slotOf_swapBootstrap _ _ _, t, hrun, hput, not_recorded_of_absent ?_⟩
  rw [vmFault_access (.inr rfl)] at hrun
  exact resolveFault_absent (s := smallMachine.setStats smallMachine.stats.countTlbFaults)
    (by decide) (by decide) habsent hrun

theorem fault_never_recorded_stack :
    ∃ t, (vmFault steadyEnv (some ⟨1#32, some 0⟩) VM_FAULT_WRITE 0x7ffff000#32).run smallMachine =
        .ok 0#32 t ∧ ¬ Recorded steadyEnv smallMachine t 1#32 (0x7ffff000#32 &&& PAGE_FRAME) 4 := by
  obtain ⟨t, hrun, hput⟩ := stack_fault_run steadyEnv
  exact ⟨t, hrun, (fault_never_recorded steadyEnv smallMachine 0 0x7ffff000#32 (by decide)
    (.inr rfl) (by decide)).1 t 4 hrun hput⟩

end Os161.Vm
