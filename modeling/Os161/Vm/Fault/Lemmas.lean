import Os161.Vm.Fault
import Os161.Vm.Swap.Lemmas

namespace Os161.Vm

open Lib Lib.Exec Lib.Hoare EStateM

def Segment.bytes (env : Env) (v : Nat) (seg : Segment) (vaddr : Word) : List UInt8 :=
  (env.vopRead v (seg.source vaddr) (seg.sizeToRead vaddr).toNat).transferred
    (seg.sizeToRead vaddr).toNat

@[simps -fullyApplied]
def State.filled (env : Env) (v : Nat) (seg : Segment) (vaddr paddr : Word) (s : State) : State :=
  { s with
    mem := Bytes.paste s.mem (seg.dest vaddr paddr).toNat (seg.bytes env v vaddr).length
      (fun i => (seg.bytes env v vaddr).getD i 0)
    stats := s.stats.countPageFaultsDisk.countPageFaultsElf
    ioUnderLock := s.ioUnderLock || s.anyHeld }

variable {env : Env} {vaddr pid : Word} {s : State} {as : Nat}

lemma fillFromElf_ok :
    (fillFromElf env v seg vaddr paddr).run s = .ok () t ↔ t = s.filled env v seg vaddr paddr := by
  have hrun : (fillFromElf env v seg vaddr paddr).run s =
      .ok () (s.filled env v seg vaddr paddr) := rfl
  rw [hrun]
  constructor
  · intro h
    injection h with _ ht
    exact ht.symm
  · rintro rfl
    rfl

-- What the search for a frame for the page `(pid, vaddr)` may do to the page table and to the
-- counters, as closure conditions on a predicate over the two.
structure Stable (pid vaddr : Word) (P : Table → Stats → Prop) : Prop where
  reset : ∀ {table c} index, P table c → P (table.resetEntry index) c.countPageFaultsSwapout
  add : ∀ {table c} paddr status, P table c →
    P (table.addEntry vaddr paddr (frameIndex pid) status) c
  reload : ∀ {table c}, P table c → P table c.countTlbReloads
  zeroed : ∀ {table c}, P table c → P table c.countPageFaultsZeroed
  disk : ∀ {table c}, P table c → P table c.countPageFaultsDisk
  elf : ∀ {table c}, P table c → P table c.countPageFaultsElf
  swapin : ∀ {table c}, P table c → P table c.countPageFaultsSwapin

def Over (P : Table → Stats → Prop) (tlb : Tlb) (s : State) : Prop :=
  P s.pageTable s.stats ∧ s.tlb = tlb

section Search

variable {pid vaddr : Word} {P : Table → Stats → Prop} (h : Stable pid vaddr P)

include h

lemma takeFrame_over (full : Bool) : Maintains (Over P tlb) (takeFrame env as pid full) := by
  refine takeFrame_triple (fun s hs => ?_) (fun s paddr hs => hs) ?_
  · simpa only [Over, tried_pageTable, tried_stats, tried_tlb] using hs
  · refine evict_triple (fun s hs _ => hs) ?_
    exact fun s vaddr permissionFlag slot frame hs => ⟨h.reset _ hs.1, hs.2⟩

lemma swapInto_over (slot : Nat) (paddr : Word) :
    Maintains (Over P tlb) (swapInto env as pid vaddr slot paddr) := by
  intro s a t hs hrun
  obtain ⟨-, -, -, -, -, rfl⟩ := swapInto_ok.mp hrun
  simp only [Over, State.released_pageTable, State.released_stats, State.released_tlb,
    State.swappedIn_pageTable, State.swappedIn_stats, State.swappedIn_tlb]
  exact ⟨h.swapin (h.add paddr _ (h.zeroed hs.1)), hs.2⟩

lemma swapIn_over : Maintains (Over P tlb) (swapIn env as pid vaddr) := by
  intro s result t hs hrun
  cases hslot : s.swap.slotOf pid vaddr with
  | none =>
    obtain ⟨-, -, rfl⟩ := (swapIn_none_ok hslot).mp hrun
    exact hs
  | some slot =>
    obtain ⟨-, frame, u, htake, hcase⟩ := (swapIn_some_ok hslot).mp hrun
    have hu : Over P tlb u := takeFrame_over h _ (s.acquired env .swap) frame u hs htake
    rcases hcase with ⟨-, -, rfl⟩ | ⟨f, -, hinto, -⟩
    · exact hu
    · exact swapInto_over h slot f.paddr u () t hu hinto

lemma fillFromElf_over (v : Nat) (seg : Segment) (paddr : Word) :
    Maintains (Over P tlb) (fillFromElf env v seg vaddr paddr) := by
  intro s a t hs hrun
  obtain rfl := fillFromElf_ok.mp hrun
  exact ⟨h.elf (h.disk hs.1), hs.2⟩

lemma demandPage_over (status : Word) (hfill : ∀ paddr, Maintains (Over P tlb) (fill paddr)) :
    Maintains (Over P tlb) (demandPage env as pid vaddr status fill) := by
  refine triple_read fun s => maintains_bind (takeFrame_over h _) fun frame => ?_
  cases frame with
  | none => exact triple_pure fun _ hs => hs
  | some frame =>
    refine maintains_bind (triple_modify fun _ hs => ⟨h.zeroed hs.1, hs.2⟩) fun _ => ?_
    refine maintains_bind (hfill frame.paddr) fun _ => ?_
    refine maintains_bind ?_ fun _ => triple_pure fun _ hs => hs
    intro s a t hs hrun
    obtain ⟨-, -, rfl⟩ := pageTableAddEntry_ok.mp hrun
    exact ⟨h.add _ _ hs.1, hs.2⟩

lemma loadOnDemand_over : Maintains (Over P tlb) (loadOnDemand env as pid vaddr) := by
  refine triple_read fun s => ?_
  refine triple_ite (fun _ => demandPage_over h _ (fillFromElf_over h _ _)) fun _ => ?_
  refine triple_ite (fun _ => demandPage_over h _ (fillFromElf_over h _ _)) fun _ => ?_
  refine triple_ite (fun _ => demandPage_over h _ fun _ => triple_pure fun _ hs => hs) fun _ => ?_
  exact triple_pure fun _ hs => hs

lemma findPage_over : Maintains (Over P tlb) (findPage env as pid vaddr) := by
  refine maintains_bind (P := Over P tlb) ?_ fun resident => ?_
  · intro s result t hs hrun
    obtain ⟨-, -, rfl⟩ := pageTableGetPaddrEntry_ok.mp hrun
    exact hs
  cases resident with
  | some entry =>
    refine maintains_bind (triple_modify fun _ hs => ⟨h.reload hs.1, hs.2⟩) fun _ => ?_
    exact triple_pure fun _ hs => hs
  | none =>
    refine maintains_bind (swapIn_over h) fun swapped => ?_
    cases swapped with
    | some paddr =>
      refine maintains_bind (triple_modify fun _ hs => ⟨h.disk hs.1, hs.2⟩) fun _ => ?_
      exact triple_pure fun _ hs => hs
    | none => exact loadOnDemand_over h

end Search

@[simps -fullyApplied]
def State.installed (env : Env) (pid vaddr paddr indexTlb : Word) (s : State) : State :=
  { s with
    tlb := (chooseSlot env s.tlb indexTlb).2.1.writeEntry (chooseSlot env s.tlb indexTlb).1
      (vaddr ||| pid <<< 6) (paddr ||| TLBLO_DIRTY ||| TLBLO_VALID)
    stats := ((chooseSlot env s.tlb indexTlb).2.2 s.stats).countTlbFaults
    pageTable := s.pageTable.setStatusAt ((paddr >>> 12).toNat : Int)
      ((chooseSlot env s.tlb indexTlb).1 <<< 2) }

lemma installPage_ok :
    (installPage env pid vaddr paddr indexTlb).run s = .ok result t ↔
      paddr &&& PAGE_FRAME = paddr ∧ Available env .tlb s ∧
        (chooseSlot env s.tlb indexTlb).1.toNat < NUM_TLB ∧ result = 0#32 ∧
        t = s.installed env pid vaddr paddr indexTlb := by
  unfold installPage
  rw [kassert_bind_ok, decide_eq_true_eq, and_congr_right_iff, bind_ok]
  intro _
  constructor
  · rintro ⟨index, u, hadd, h⟩
    obtain ⟨⟨havail, hslot⟩, rfl, rfl⟩ := addEntry_ok.mp hadd
    rw [kassert_bind_ok, decide_eq_true_eq, bind_run_ok (run_modify ..)] at h
    obtain ⟨rfl, rfl⟩ := pure_ok.mp h.2
    exact ⟨havail, hslot, rfl, rfl⟩
  rintro ⟨havail, hslot, rfl, rfl⟩
  refine ⟨_, _, addEntry_ok.mpr ⟨⟨havail, hslot⟩, rfl, rfl⟩, ?_⟩
  rw [kassert_bind_ok, decide_eq_true_eq]
  refine ⟨fun hnone => absurd hslot ?_, rfl⟩
  rw [hnone]
  decide

structure AddrSpace.SetUp (as : AddrSpace) : Prop where
  vbase1 : as.asVbase1 ≠ 0#32
  npages1 : as.asNpages1 ≠ 0#32
  vbase2 : as.asVbase2 ≠ 0#32
  npages2 : as.asNpages2 ≠ 0#32
  aligned1 : as.asVbase1 &&& PAGE_FRAME = as.asVbase1
  aligned2 : as.asVbase2 &&& PAGE_FRAME = as.asVbase2
  stack : as.asStackpbase &&& PAGE_FRAME = as.asStackpbase

lemma checkAddrSpace_ok {as : AddrSpace} :
    (checkAddrSpace as).run s = .ok () t ↔ as.SetUp ∧ t = s := by
  unfold checkAddrSpace
  simp only [bind_ok, kassert_run, guard_ok, decide_eq_true_eq]
  constructor
  · rintro ⟨_, _, ⟨h1, -, rfl⟩, _, _, ⟨h2, -, rfl⟩, _, _, ⟨h3, -, rfl⟩, _, _, ⟨h4, -, rfl⟩, _, _,
      ⟨h5, -, rfl⟩, _, _, ⟨h6, -, rfl⟩, h7, -, rfl⟩
    exact ⟨⟨h1, h2, h3, h4, h5, h6, h7⟩, rfl⟩
  rintro ⟨h, rfl⟩
  exact ⟨(), _, ⟨h.vbase1, trivial, rfl⟩, (), _, ⟨h.npages1, trivial, rfl⟩,
    (), _, ⟨h.vbase2, trivial, rfl⟩, (), _, ⟨h.npages2, trivial, rfl⟩,
    (), _, ⟨h.aligned1, trivial, rfl⟩, (), _, ⟨h.aligned2, trivial, rfl⟩, h.stack, trivial, rfl⟩

lemma demandPage_ok :
    (demandPage env as pid vaddr status fill).run s = .ok resolution t ↔
      ∃ frame u, (takeFrame env as pid
          (MAX_ALLOCATED_PAGES ≤ (s.addrspaces as).allocatedPages)).run s = .ok frame u ∧
        ((frame = none ∧ resolution = .done 0#32 ∧ t = u) ∨
          ∃ f v, frame = some f ∧ (fill f.paddr).run (u.claimed as f.paddr) = .ok () v ∧
            frameIndex pid < v.pageTable.length ∧ Available env .table v ∧
            resolution = .page f.paddr f.indexTlb ∧
            t = v.setPageTable (v.pageTable.addEntry vaddr f.paddr (frameIndex pid)
              (statusWith status f.indexTlb))) := by
  unfold demandPage
  rw [bind_run_ok (run_get s), bind_ok]
  refine exists_congr fun frame => exists_congr fun u => and_congr_right fun _ => ?_
  cases frame with
  | none =>
    constructor
    · intro h
      injection h with hresolution ht
      exact .inl ⟨rfl, hresolution.symm, ht.symm⟩
    rintro (⟨-, rfl, rfl⟩ | ⟨f, v, hf, -⟩)
    · rfl
    · exact absurd hf (by simp)
  | some f =>
    simp only
    rw [bind_run_ok (run_modify ..), bind_ok]
    constructor
    · rintro ⟨_, v, hfill, h⟩
      obtain ⟨_, w, hadd, h⟩ := bind_ok.mp h
      obtain ⟨hindex, havail, rfl⟩ := pageTableAddEntry_ok.mp hadd
      injection h with hresolution ht
      exact .inr ⟨f, v, rfl, hfill, hindex, havail, hresolution.symm, ht.symm⟩
    rintro (⟨hf, -⟩ | ⟨f', v, hf, hfill, hindex, havail, rfl, rfl⟩)
    · exact absurd hf (by simp)
    obtain rfl : f = f' := by simpa using hf
    refine ⟨(), v, hfill, bind_ok.mpr ⟨(), _, ?_, rfl⟩⟩
    exact pageTableAddEntry_ok.mpr ⟨hindex, havail, rfl⟩

inductive IsFill (env : Env) (vaddr : Word) : (Word → Kern Unit) → Prop where
  | elf (v : Nat) (seg : Segment) : IsFill env vaddr (fillFromElf env v seg vaddr)
  | zero : IsFill env vaddr (fun _ => pure ())

lemma loadOnDemand_cases (env : Env) (as : Nat) (pid vaddr : Word) (space : AddrSpace) :
    (∀ s : State, s.addrspaces as = space →
      (loadOnDemand env as pid vaddr).run s = .ok (.done EFAULT) s) ∨
    ∃ status fill, IsFill env vaddr fill ∧ ∀ s : State, s.addrspaces as = space →
      (loadOnDemand env as pid vaddr).run s = (demandPage env as pid vaddr status fill).run s := by
  have hrun : ∀ s : State, s.addrspaces as = space → (loadOnDemand env as pid vaddr).run s =
      (if space.code.Has vaddr then codePage env as space pid vaddr
        else if space.data.Has vaddr then dataPage env as space pid vaddr
        else if InStack vaddr then stackPage env as pid vaddr
        else pure (.done EFAULT)).run s := by
    rintro s rfl
    rfl
  by_cases hcode : space.code.Has vaddr
  · simp only [if_pos hcode] at hrun
    exact .inr ⟨_, _, .elf _ _, hrun⟩
  by_cases hdata : space.data.Has vaddr
  · simp only [if_neg hcode, if_pos hdata] at hrun
    exact .inr ⟨_, _, .elf _ _, hrun⟩
  by_cases hstack : InStack vaddr
  · simp only [if_neg hcode, if_neg hdata, if_pos hstack] at hrun
    exact .inr ⟨_, _, .zero, hrun⟩
  · simp only [if_neg hcode, if_neg hdata, if_neg hstack] at hrun
    exact .inl hrun

lemma resolveFault_ok {result : Word} :
    (resolveFault env as pid vaddr).run s = .ok result t ↔
      (s.addrspaces as).SetUp ∧
        ((findPage env as pid vaddr).run s = .ok (.done result) t ∨
          ∃ paddr indexTlb u, (findPage env as pid vaddr).run s = .ok (.page paddr indexTlb) u ∧
            (installPage env pid vaddr paddr indexTlb).run u = .ok result t) := by
  unfold resolveFault
  rw [bind_run_ok (run_get s), bind_ok]
  constructor
  · rintro ⟨_, u, hcheck, hrun⟩
    obtain ⟨hsetup, hu⟩ := checkAddrSpace_ok.mp hcheck
    subst u
    refine ⟨hsetup, ?_⟩
    obtain ⟨resolution, v, hfind, hinstall⟩ := bind_ok.mp hrun
    cases resolution with
    | done result' =>
      injection hinstall with hresult hv
      subst hresult hv
      exact .inl hfind
    | page paddr indexTlb => exact .inr ⟨paddr, indexTlb, v, hfind, hinstall⟩
  rintro ⟨hsetup, h⟩
  refine ⟨(), s, checkAddrSpace_ok.mpr ⟨hsetup, rfl⟩, bind_ok.mpr ?_⟩
  rcases h with hfind | ⟨paddr, indexTlb, u, hfind, hinstall⟩
  · exact ⟨_, _, hfind, rfl⟩
  · exact ⟨_, u, hfind, hinstall⟩

lemma findPage_absent
    (htable : Available env .table s) (hswap : Available env .swap s)
    (habsent : s.pageTable.lookup pid vaddr = none) (hout : s.swap.slotOf pid vaddr = none) :
    (findPage env as pid vaddr).run s = (loadOnDemand env as pid vaddr).run s := by
  unfold findPage
  rw [bind_run_ok (pageTableGetPaddrEntry_ok.mpr ⟨htable, rfl, rfl⟩), habsent]
  simp only [Option.map_none]
  rw [bind_run_ok ((swapIn_none_ok hout).mpr ⟨hswap, rfl, rfl⟩)]

lemma loadOnDemand_stack
    (hcode : ¬ (s.addrspaces as).code.Has vaddr) (hdata : ¬ (s.addrspaces as).data.Has vaddr)
    (hstack : InStack vaddr) :
    (loadOnDemand env as pid vaddr).run s = (stackPage env as pid vaddr).run s := by
  unfold loadOnDemand
  rw [bind_run_ok (run_get s)]
  simp only [if_neg hcode, if_neg hdata, if_pos hstack]

lemma takeFrame_fresh (pid : Word) (hlocks : ∀ lock, Available env lock s)
    (hroom : (s.addrspaces as).allocatedPages < MAX_ALLOCATED_PAGES)
    (haddr : allocAddr s.coremap s.ram 1#32 ≠ 0#32) :
    (takeFrame env as pid (MAX_ALLOCATED_PAGES ≤ (s.addrspaces as).allocatedPages)).run s =
      .ok (some ⟨allocAddr s.coremap s.ram 1#32, NO_SLOT⟩) (s.tried false) := by
  have hfull : decide (MAX_ALLOCATED_PAGES ≤ (s.addrspaces as).allocatedPages) = false := by
    simpa using hroom
  rw [takeFrame_ok, hfull, if_pos ⟨rfl, haddr⟩]
  exact ⟨fun _ => ⟨hlocks .freemem, fun _ => hlocks .stealmem⟩, rfl, rfl⟩

section

variable (as : Nat) (pid vaddr : Word) (hlocks : ∀ lock, Available env lock s)

include hlocks

lemma stackPage_fresh (hroom : (s.addrspaces as).allocatedPages < MAX_ALLOCATED_PAGES)
    (haddr : allocAddr s.coremap s.ram 1#32 ≠ 0#32) (hindex : frameIndex pid < s.pageTable.length) :
    ∃ t, (stackPage env as pid vaddr).run s =
        .ok (.page (allocAddr s.coremap s.ram 1#32) NO_SLOT) t ∧ t.tlb = s.tlb ∧
      t.held = s.held := by
  have htake := takeFrame_fresh pid hlocks hroom haddr
  let v := (s.tried false).claimed as (allocAddr s.coremap s.ram 1#32)
  have hv : Available env .table v := hlocks .table
  refine ⟨v.setPageTable (v.pageTable.addEntry vaddr (allocAddr s.coremap s.ram 1#32)
    (frameIndex pid) (statusWith 0#32 NO_SLOT)), ?_, rfl, rfl⟩
  exact demandPage_ok.mpr ⟨_, _, htake, .inr ⟨_, v, rfl, rfl, hindex, hv, rfl, rfl⟩⟩

lemma stackPage_evict (hfull : MAX_ALLOCATED_PAGES ≤ (s.addrspaces as).allocatedPages)
    (hvictim : s.pageTable.replacement pid ≠ -1)
    (huser : (s.pageTable.nextEntry (s.pageTable.replacement pid)).vaddr < MIPS_KSEG0)
    (hslot : s.swap.freeSlot = some slot) (hwrite : env.swapWriteError slot = 0#32)
    (hindex : frameIndex pid < s.pageTable.length) :
    ∃ t, (stackPage env as pid vaddr).run s = .ok (.page (frameAddr (s.pageTable.replacement pid))
          (s.pageTable.statusOnIndex (s.pageTable.replacement pid))) t ∧
      t.tlb = s.tlb ∧ t.held = s.held ∧
      t.stats.pageFaultsSwapout = s.stats.pageFaultsSwapout + 1#32 := by
  have hdecide : decide (MAX_ALLOCATED_PAGES ≤ (s.addrspaces as).allocatedPages) = true := by
    simpa using hfull
  let u := (s.swappedOut env pid (s.pageTable.nextEntry (s.pageTable.replacement pid)).vaddr
    (s.pageTable.nextEntry (s.pageTable.replacement pid)).permissionFlag
    (frameAddr (s.pageTable.replacement pid)) slot).addAllocated as (-1)
  let frame : Frame := ⟨frameAddr (s.pageTable.replacement pid),
    s.pageTable.statusOnIndex (s.pageTable.replacement pid)⟩
  have hevict : (evict env as pid).run s = .ok (some frame) u :=
    evict_ok.mpr (.inr ⟨hvictim, rfl, _, swapOut_ok.mpr
      ⟨huser, hlocks .swap, ⟨hlocks .table, replacement_frame_lt hvictim⟩, slot, hslot, hwrite,
        rfl⟩, rfl⟩)
  let v := u.claimed as frame.paddr
  have hv : Available env .table v := hlocks .table
  refine ⟨v.setPageTable (v.pageTable.addEntry vaddr frame.paddr (frameIndex pid)
    (statusWith 0#32 frame.indexTlb)), ?_, rfl, rfl, rfl⟩
  have htake : (takeFrame env as pid
      (MAX_ALLOCATED_PAGES ≤ (s.addrspaces as).allocatedPages)).run s = .ok (some frame) u := by
    rw [hdecide]
    exact hevict
  exact demandPage_ok.mpr ⟨_, u, htake, .inr ⟨frame, v, rfl, rfl, hindex, hv, rfl, rfl⟩⟩

end

lemma vmFault_access (h : IsAccess faulttype) (s : State) :
    (vmFault env cur faulttype faultaddress).run s =
      (serveFault env cur (faultaddress &&& PAGE_FRAME)).run
        (s.setStats s.stats.countTlbFaults) := by
  have hne : faulttype ≠ VM_FAULT_READONLY := by
    rcases h with rfl | rfl <;> decide
  unfold vmFault
  rw [if_neg hne, if_pos h, bind_run_ok (increment_run ..)]

end Os161.Vm
