import Os161.Vm.Fault.Record

namespace Os161.Vm

open Function Lib Lib.Exec Lib.Hoare BitVec State

def TlbEntry.isValid (e : TlbEntry) : Prop := e.lo &&& TLBLO_VALID ≠ 0#32

def TlbEntry.frame (e : TlbEntry) : Nat := (e.lo >>> 12).toNat

def TlbEntry.For (e : TlbEntry) (pid vaddr : Word) : Prop := e.hi = vaddr ||| pid <<< 6

def Tlb.Maps (tlb : Tlb) (slot : Nat) (pid vaddr : Word) (frame : Nat) : Prop :=
  slot < NUM_TLB ∧ (tlb.entry slot).isValid ∧ (tlb.entry slot).For pid vaddr ∧
    (tlb.entry slot).frame = frame

def Agree (s : State) : Prop :=
  ∀ slot < NUM_TLB, (s.tlb.entry slot).isValid →
    ∃ pid vaddr, (s.tlb.entry slot).For pid vaddr ∧ pid ≠ NO_PID ∧
      (s.pageTable.nextEntry (s.tlb.entry slot).frame).pid = pid ∧
      (s.pageTable.nextEntry (s.tlb.entry slot).frame).vaddr = vaddr

structure Evicts (s t : State) (pid vaddr : Word) (frame : Nat) : Prop where
  chosen : s.pageTable.replacement pid = frame
  page : (s.pageTable.nextEntry frame).vaddr = vaddr
  counted : t.stats.pageFaultsSwapout ≠ s.stats.pageFaultsSwapout

-- What the eviction owes to the TLB: agreement, no translation of the victim, and exactly one
-- of the new page, in the slot where the victim was if it was in one.
structure EvictionSound (s t : State) (pid vaddr victim : Word) (frame : Nat) : Prop where
  agree : Agree t
  gone : ∀ slot, ¬ t.tlb.Maps slot pid victim frame
  mapped : ∃ slot, t.tlb.Maps slot pid vaddr frame ∧
    (∀ other, t.tlb.Maps other pid vaddr frame → other = slot) ∧
    (∀ old, s.tlb.Maps old pid victim frame → old = slot)

-- The entry of the frame is free, or it is the entry that the fault has written with its
-- arguments in the wrong places.
def Lost (pid vaddr paddr : Word) (table : Table) : Prop :=
  (table.nextEntry (paddr.toNat / PAGE_SIZE : Nat)).pid = NO_PID ∨
    (paddr.toNat / PAGE_SIZE = frameIndex pid ∧
      (table.nextEntry (paddr.toNat / PAGE_SIZE : Nat)).pid = vaddr ∧
      (table.nextEntry (paddr.toNat / PAGE_SIZE : Nat)).vaddr = paddr)

variable {pid vaddr paddr : Word} {s : State}

lemma lost_iff : Lost pid vaddr paddr table ↔
      (table.nextEntry (paddr.toNat / PAGE_SIZE : Nat)).page.1 = NO_PID ∨
        (paddr.toNat / PAGE_SIZE = frameIndex pid ∧
          (table.nextEntry (paddr.toNat / PAGE_SIZE : Nat)).page = (vaddr, paddr)) := by
  simp only [Lost, Entry.page, Prod.mk.injEq]

lemma lost_addEntry (status : Word)
    (h : Lost pid vaddr paddr table) :
    Lost pid vaddr paddr (table.addEntry vaddr paddr (frameIndex pid) status) := by
  rw [lost_iff] at h ⊢
  rw [addEntry_page]
  by_cases hsame : paddr.toNat / PAGE_SIZE = frameIndex pid
  · simp [hsame]
  · have hne : ¬ ((paddr.toNat / PAGE_SIZE : Nat) : Int) = (frameIndex pid : Nat) := by omega
    rwa [if_neg hne]

lemma lost_setStatusAt (index : Int) (val : Word)
    (h : Lost pid vaddr paddr table) : Lost pid vaddr paddr (table.setStatusAt index val) := by
  rw [lost_iff] at h ⊢
  rwa [setStatusAt_page]

-- Either nothing has been swapped out since the counter read `count`, or the frame that was
-- found is lost to the page table.
def Evicted (count pid vaddr paddr : Word) (s : State) : Prop :=
  s.stats.pageFaultsSwapout = count ∨ Lost pid vaddr paddr s.pageTable

section Search

variable {pid vaddr count : Word}

def FrameFound (count pid vaddr : Word) (frame : Option Frame) (s : State) : Prop :=
  match frame with
  | none => s.stats.pageFaultsSwapout = count
  | some frame => Evicted count pid vaddr frame.paddr s

lemma takeFrame_found (vaddr : Word) (full : Bool) :
    Triple (fun s => s.stats.pageFaultsSwapout = count) (takeFrame env as pid full)
      (FrameFound count pid vaddr) := by
  refine takeFrame_triple (fun s hs => ?_) (fun s paddr hs => .inl hs) ?_
  · rwa [tried_stats]
  refine evict_triple (fun s hs _ => hs) ?_
  intro s victim permissionFlag slot frame _
  refine .inr (.inl ?_)
  simp only [addAllocated_pageTable, swappedOut_pageTable]
  rw [resetEntry_pid, if_pos rfl]

def PageFound (count pid vaddr : Word) (page : Option Word) (s : State) : Prop :=
  match page with
  | none => s.stats.pageFaultsSwapout = count
  | some paddr => Evicted count pid vaddr paddr s

lemma swapIn_found : Triple (fun s => s.stats.pageFaultsSwapout = count) (swapIn env as pid vaddr)
      (PageFound count pid vaddr) := by
  intro s result t hs hrun
  cases hslot : s.swap.slotOf pid vaddr with
  | none =>
    obtain ⟨-, rfl, rfl⟩ := (swapIn_none_ok hslot).mp hrun
    exact hs
  | some slot =>
    obtain ⟨-, frame, u, htake, hcase⟩ := (swapIn_some_ok hslot).mp hrun
    have hu := takeFrame_found vaddr _ (s.acquired env .swap) frame u hs htake
    rcases hcase with ⟨rfl, rfl, rfl⟩ | ⟨f, rfl, hinto, rfl⟩
    · exact hu
    obtain ⟨-, -, -, -, -, rfl⟩ := swapInto_ok.mp hinto
    simp only [PageFound, Evicted, released_stats, released_pageTable,
      swappedIn_stats, swappedIn_pageTable]
    exact hu.imp id (lost_addEntry _)

def Resolved (count pid vaddr : Word) (resolution : Resolution) (s : State) : Prop :=
  match resolution with
  | .done _ => s.stats.pageFaultsSwapout = count
  | .page paddr _ => Evicted count pid vaddr paddr s

lemma fillFromElf_evicted (v : Nat) (seg : Segment) (paddr : Word) :
    Maintains (Evicted count pid vaddr paddr) (fillFromElf env v seg vaddr paddr) := by
  intro s a t hs hrun
  obtain rfl := fillFromElf_ok.mp hrun
  exact hs

lemma demandPage_found (status : Word) {fill : Word → Kern Unit}
    (hfill : ∀ paddr, Maintains (Evicted count pid vaddr paddr) (fill paddr)) :
    Triple (fun s => s.stats.pageFaultsSwapout = count) (demandPage env as pid vaddr status fill)
      (Resolved count pid vaddr) := by
  intro s resolution t hs hrun
  obtain ⟨frame, u, htake, hcase⟩ := demandPage_ok.mp hrun
  have hu := takeFrame_found vaddr _ s frame u hs htake
  rcases hcase with ⟨rfl, rfl, rfl⟩ | ⟨f, v, rfl, hfilled, -, -, rfl, rfl⟩
  · exact hu
  · have hv := hfill f.paddr (u.claimed as f.paddr) () v hu hfilled
    exact hv.imp id (lost_addEntry _)

lemma loadOnDemand_found :
    Triple (fun s => s.stats.pageFaultsSwapout = count) (loadOnDemand env as pid vaddr)
      (Resolved count pid vaddr) := by
  refine triple_read fun s => ?_
  refine triple_ite (fun _ => demandPage_found _ (fillFromElf_evicted _ _)) fun _ => ?_
  refine triple_ite (fun _ => demandPage_found _ (fillFromElf_evicted _ _)) fun _ => ?_
  refine triple_ite (fun _ => demandPage_found _ fun _ => triple_pure fun _ h => h) fun _ => ?_
  exact triple_pure fun _ h => h

lemma findPage_found :
    Triple (fun s => s.stats.pageFaultsSwapout = count) (findPage env as pid vaddr)
      (Resolved count pid vaddr) := by
  refine triple_bind (Q := fun _ s => s.stats.pageFaultsSwapout = count) ?_ fun resident => ?_
  · intro s result t hs hrun
    obtain ⟨-, -, rfl⟩ := pageTableGetPaddrEntry_ok.mp hrun
    exact hs
  cases resident with
  | some entry =>
    refine triple_bind (Q := fun _ s => s.stats.pageFaultsSwapout = count)
      (triple_modify fun _ hs => hs) fun _ => ?_
    exact triple_pure fun _ hs => .inl hs
  | none =>
    refine triple_bind swapIn_found fun swapped => ?_
    cases swapped with
    | some paddr =>
      refine triple_bind (Q := fun _ s => Evicted count pid vaddr paddr s)
        (triple_modify fun _ hs => hs) fun _ => ?_
      exact triple_pure fun _ hs => hs
    | none => exact loadOnDemand_found

end Search

lemma resolveFault_evicted (hrun : (resolveFault env as pid vaddr).run s = .ok result t)
    (hcount : t.stats.pageFaultsSwapout ≠ s.stats.pageFaultsSwapout) :
    ∃ slot < NUM_TLB, ∃ paddr, paddr &&& PAGE_FRAME = paddr ∧ Lost pid vaddr paddr t.pageTable ∧
      t.tlb.entry slot = ⟨vaddr ||| pid <<< 6, paddr ||| TLBLO_DIRTY ||| TLBLO_VALID⟩ := by
  rcases (resolveFault_ok.mp hrun).2 with hdone | ⟨paddr, indexTlb, u, hpage, hinstall⟩
  · exact absurd (findPage_found s _ t rfl hdone) hcount
  have hfound : Evicted s.stats.pageFaultsSwapout pid vaddr paddr u :=
    findPage_found s _ u rfl hpage
  obtain ⟨halign, -, -, -, rfl⟩ := installPage_ok.mp hinstall
  have hsame : (u.installed env pid vaddr paddr indexTlb).stats.pageFaultsSwapout =
      u.stats.pageFaultsSwapout := by
    rw [installed_stats]
    rcases chooseSlot_count env u.tlb indexTlb with hfree | hreplace
    · rw [hfree]
      rfl
    · rw [hreplace]
      rfl
  rw [hsame] at hcount
  refine ⟨_, Nat.mod_lt _ (by decide), paddr, halign, ?_, update_self _ _ _⟩
  exact lost_setStatusAt _ _ (hfound.resolve_left hcount)

section Bits

lemma frame_of_flags (paddr : Word) :
    ((paddr ||| TLBLO_DIRTY ||| TLBLO_VALID) >>> 12).toNat = paddr.toNat / PAGE_SIZE := by
  have hflags : (paddr ||| TLBLO_DIRTY ||| TLBLO_VALID) >>> 12 = paddr >>> 12 := by
    rw [ushiftRight_or_distrib, ushiftRight_or_distrib,
      show TLBLO_DIRTY >>> 12 = 0#32 from by decide, show TLBLO_VALID >>> 12 = 0#32 from by decide,
      or_zero, or_zero]
  rw [hflags, toNat_ushiftRight, Nat.shiftRight_eq_div_pow]
  rfl

lemma valid_of_flags (paddr : Word) :
    (paddr ||| TLBLO_DIRTY ||| TLBLO_VALID) &&& TLBLO_VALID ≠ 0#32 := by
  intro h
  have hbit := congrArg (fun w : Word => w.getLsbD 9) h
  simp [TLBLO_VALID] at hbit

lemma page_ne_misplaced (hpid : IsProcessId pid) (addr : Word) :
    (addr &&& PAGE_FRAME) ||| pid <<< 6 ≠ 0#32 ||| (addr &&& PAGE_FRAME) <<< 6 := by
  intro h
  have hright : (0#32 ||| (addr &&& PAGE_FRAME) <<< 6) &&& 0x3ffc0#32 = 0#32 := by
    rw [zero_or, shiftLeft_and_distrib, BitVec.and_assoc,
      show PAGE_FRAME <<< 6 &&& 0x3ffc0#32 = 0#32 from by decide, and_zero]
  have hleft := congrArg (· &&& 0x3ffc0#32) h
  simp only [hright, and_or_distrib_right, or_eq_zero_iff] at hleft
  have hpos : pid <<< 6 &&& 0x3ffc0#32 ≠ 0#32 :=
    isProcessId_cases (P := fun pid => pid <<< 6 &&& 0x3ffc0#32 ≠ 0#32) hpid (by decide)
  exact hpos hleft.2

lemma aligned_eq_zero (halign : paddr &&& PAGE_FRAME = paddr)
    (hzero : paddr.toNat / PAGE_SIZE = 0) : paddr = 0#32 := by
  apply eq_of_toNat_eq
  rw [← aligned_div_mul halign, hzero]
  rfl

end Bits

lemma not_agree_of_lost (hpid : IsProcessId pid)
    (hslot : slot < NUM_TLB) (halign : paddr &&& PAGE_FRAME = paddr)
    (hlost : Lost pid (addr &&& PAGE_FRAME) paddr s.pageTable)
    (hentry : s.tlb.entry slot =
      ⟨(addr &&& PAGE_FRAME) ||| pid <<< 6, paddr ||| TLBLO_DIRTY ||| TLBLO_VALID⟩) :
    ¬ Agree s := by
  intro hagree
  have hframe : (s.tlb.entry slot).frame = paddr.toNat / PAGE_SIZE := by
    rw [hentry]
    exact frame_of_flags paddr
  have hvalid : (s.tlb.entry slot).isValid := by
    rw [hentry]
    exact valid_of_flags paddr
  obtain ⟨_, _, hfor, hne, rfl, rfl⟩ := hagree slot hslot hvalid
  rw [hframe] at hfor hne
  rcases hlost with hfree | ⟨hindex, howner, hvaddr⟩
  · exact hne hfree
  have hzero : frameIndex pid = 0 :=
    isProcessId_cases (P := fun pid => frameIndex pid = 0) hpid (by decide)
  have hpaddr := aligned_eq_zero halign (hindex.trans hzero)
  rw [howner, hvaddr, hpaddr, TlbEntry.For, hentry] at hfor
  exact page_ne_misplaced hpid addr hfor

-- Whatever the history, a fault that evicts a page never leaves the TLB and the page table in
-- agreement.
theorem eviction_never_sound (env : Env) {s t : State} (as : Nat) {pid faulttype : Word}
    (faultaddress : Word) {victim : Word} {frame : Nat} (hpid : IsProcessId pid)
    (haccess : IsAccess faulttype)
    (hrun : (vmFault env (some ⟨pid, some as⟩) faulttype faultaddress).run s = .ok 0#32 t)
    (hevicts : Evicts s t pid victim frame) :
    ¬ EvictionSound s t pid (faultaddress &&& PAGE_FRAME) victim frame := by
  rw [vmFault_access haccess] at hrun
  obtain ⟨slot, hslot, paddr, halign, hlost, hentry⟩ :=
    resolveFault_evicted (s := s.setStats s.stats.countTlbFaults) hrun hevicts.counted
  intro hsound
  exact not_agree_of_lost hpid hslot halign hlost hentry hsound.agree

def evictionMachine : State :=
  ((smallMachine.setPageTable { smallMachine.pageTable with
      nextEntry := update smallMachine.pageTable.nextEntry 2
        ⟨0x7fffe000#32, 1#32, 20#32, 0#32, 0⟩ }).setTlb
    (smallMachine.tlb.writeEntry 5#32 (0x7fffe000#32 ||| 1#32 <<< 6)
      (0x2000#32 ||| TLBLO_DIRTY ||| TLBLO_VALID))).setAddrspaces
    fun _ => { smallSpace with allocatedPages := 50 }

lemma evictionMachine_agree : Agree evictionMachine := by
  have hslots : ∀ slot < NUM_TLB, slot ≠ 5 → evictionMachine.tlb.entry slot = ⟨0#32, 0#32⟩ := by
    intro slot _ hne
    exact update_of_ne hne _ _
  intro slot hslot hvalid
  by_cases hfive : slot = 5
  · subst hfive
    exact ⟨1#32, 0x7fffe000#32, rfl, by decide, rfl, rfl⟩
  · rw [hslots slot hslot hfive] at hvalid
    exact absurd rfl hvalid

lemma eviction_run :
    ∃ t, (vmFault steadyEnv (some ⟨1#32, some 0⟩) VM_FAULT_WRITE 0x7ffff000#32).run
        evictionMachine = .ok 0#32 t ∧ Evicts evictionMachine t 1#32 0x7fffe000#32 2 ∧
      t.tlb.entry = update evictionMachine.tlb.entry 0
        ⟨0x7ffff000#32 ||| 1#32 <<< 6, 0x2000#32 ||| TLBLO_DIRTY ||| TLBLO_VALID⟩ := by
  let s := evictionMachine.setStats evictionMachine.stats.countTlbFaults
  have hlocks : ∀ lock, Available steadyEnv lock s := fun _ _ => rfl
  have habsent : s.pageTable.lookup 1#32 0x7ffff000#32 = none := by decide
  have hout : s.swap.slotOf 1#32 0x7ffff000#32 = none := slotOf_swapBootstrap _ _ _
  have hvictim : s.pageTable.replacement 1#32 = 2 := by decide
  obtain ⟨u, hpage, htlb, hheld, hcount⟩ := stackPage_evict 0 1#32 0x7ffff000#32
    hlocks (by decide) (by decide) (by decide) (freeSlot_swapBootstrap _) rfl (by decide)
  have hfind : (findPage steadyEnv 0 1#32 0x7ffff000#32).run s = .ok (.page 0x2000#32 20#32) u := by
    rw [findPage_absent (hlocks .table) (hlocks .swap) habsent hout,
      loadOnDemand_stack (by decide) (by decide) (by decide), hpage, hvictim,
      show frameAddr 2 = 0x2000#32 from by decide,
      show s.pageTable.statusOnIndex 2 = 20#32 from by decide]
  have hchoice : chooseSlot steadyEnv u.tlb 20#32 = (0#32, s.tlb, Stats.countTlbFaultsFree) := by
    rw [htlb]
    rfl
  refine ⟨u.installed steadyEnv 1#32 0x7ffff000#32 0x2000#32 20#32, ?_, ⟨hvictim, rfl, ?_⟩, ?_⟩
  · rw [vmFault_access (.inr rfl)]
    refine resolveFault_ok.mpr ⟨?_, .inr ⟨_, _, u, hfind, ?_⟩⟩
    · exact ⟨by decide, by decide, by decide, by decide, by decide, by decide, by decide⟩
    refine installPage_ok.mpr ⟨by decide, fun _ => congrFun hheld _, ?_, rfl, rfl⟩
    rw [hchoice]
    decide
  · rw [installed_stats, hchoice]
    change u.stats.pageFaultsSwapout ≠ _
    rw [hcount]
    decide
  · simp only [installed_tlb, hchoice]
    rfl

theorem eviction_leaves_stale_entry : Agree evictionMachine ∧ ∃ t,
      (vmFault steadyEnv (some ⟨1#32, some 0⟩) VM_FAULT_WRITE 0x7ffff000#32).run evictionMachine =
        .ok 0#32 t ∧ Evicts evictionMachine t 1#32 0x7fffe000#32 2 ∧
      t.tlb.Maps 5 1#32 0x7fffe000#32 2 ∧ t.tlb.Maps 0 1#32 0x7ffff000#32 2 ∧
      ¬ EvictionSound evictionMachine t 1#32 0x7ffff000#32 0x7fffe000#32 2 := by
  refine ⟨evictionMachine_agree, ?_⟩
  obtain ⟨t, hrun, hevicts, hentry⟩ := eviction_run
  have hstale : t.tlb.Maps 5 1#32 0x7fffe000#32 2 := by
    unfold Tlb.Maps
    rw [hentry]
    exact ⟨by decide, by unfold TlbEntry.isValid; decide, rfl, rfl⟩
  have hnew : t.tlb.Maps 0 1#32 0x7ffff000#32 2 := by
    unfold Tlb.Maps
    rw [hentry]
    exact ⟨by decide, by unfold TlbEntry.isValid; decide, rfl, rfl⟩
  exact ⟨t, hrun, hevicts, hstale, hnew, fun hsound => hsound.gone 5 hstale⟩

theorem eviction_never_sound_stack :
    ∃ t, (vmFault steadyEnv (some ⟨1#32, some 0⟩) VM_FAULT_WRITE 0x7ffff000#32).run
        evictionMachine = .ok 0#32 t ∧
      ¬ EvictionSound evictionMachine t 1#32 (0x7ffff000#32 &&& PAGE_FRAME) 0x7fffe000#32 2 := by
  obtain ⟨t, hrun, hevicts, -⟩ := eviction_run
  exact ⟨t, hrun,
    eviction_never_sound steadyEnv 0 0x7ffff000#32 (by decide) (.inr rfl) hrun hevicts⟩

end Os161.Vm
