import Os161.Vm.Fault.Record

namespace Os161.Vm

open Lib Lib.Exec Lib.Hoare

@[simps -fullyApplied pageTable swap tlb coremap ram stats mem addrspaces held ioUnderLock]
def State.twin (s : State) (mem file : Nat → UInt8) : State :=
  { s with
    mem := mem
    swap := { s.swap with file := file } }

lemma slotOf_twin (s : State) (mem file : Nat → UInt8) (pid vaddr : Word) :
    (s.twin mem file).swap.slotOf pid vaddr = s.swap.slotOf pid vaddr := by
  simp only [SwapArea.slotOf, State.twin_swap]

def SamePage (bytes bytes' : Nat → UInt8) (base : Nat) : Prop :=
  ∀ k < PAGE_SIZE, bytes (base + k) = bytes' (base + k)

variable {env : Env} {as : Nat} {pid vaddr : Word} {s t : State}

lemma takeFrame_none (hrun : (takeFrame env as pid full).run s = .ok none t) :
    s.pageTable.replacement pid = -1 := by
  have hfound : Triple (fun u => u.pageTable.replacement pid = s.pageTable.replacement pid)
      (takeFrame env as pid full) (fun frame _ => frame = none →
        s.pageTable.replacement pid = -1) := by
    refine takeFrame_triple (fun u hu => ?_) (fun u paddr _ => by simp) ?_
    · rwa [tried_pageTable]
    · exact evict_triple (fun u hu hnone _ => hu ▸ hnone) (fun _ _ _ _ _ _ => by simp)
  exact hfound s none t rfl hrun rfl

variable {fill : Word → Kern Unit}

lemma demandPage_done
    (hrun : (demandPage env as pid vaddr status fill).run s = .ok (.done result) t) :
    s.pageTable.replacement pid = -1 := by
  obtain ⟨frame, u, htake, ⟨rfl, -, -⟩ | ⟨f, v, -, -, -, -, hresolution, -⟩⟩ :=
    demandPage_ok.mp hrun
  · exact takeFrame_none htake
  · simp at hresolution

lemma loadOnDemand_done
    (hrun : (loadOnDemand env as pid vaddr).run s = .ok (.done 0#32) t) :
    s.pageTable.replacement pid = -1 := by
  rcases loadOnDemand_cases env as pid vaddr (s.addrspaces as) with hfault | ⟨_, _, -, hbranch⟩
  · rw [hfault s rfl] at hrun
    injection hrun with hresolution
    simp [EFAULT] at hresolution
  · rw [hbranch s rfl] at hrun
    exact demandPage_done hrun

lemma findPage_done
    (hrun : (findPage env as pid vaddr).run s = .ok (.done 0#32) t) :
    s.pageTable.replacement pid = -1 := by
  unfold findPage at hrun
  obtain ⟨resident, u, hresident, hrun⟩ := bind_ok.mp hrun
  obtain ⟨-, -, hu⟩ := pageTableGetPaddrEntry_ok.mp hresident
  subst u
  cases resident with
  | some entry =>
    injection hrun with hresolution
    simp at hresolution
  | none =>
    obtain ⟨swapped, u, hswapped, hload⟩ := bind_ok.mp hrun
    cases swapped with
    | some paddr =>
      injection hload with hresolution
      simp at hresolution
    | none =>
      cases hslot : s.swap.slotOf pid vaddr with
      | none =>
        obtain ⟨-, -, rfl⟩ := (swapIn_none_ok hslot).mp hswapped
        exact loadOnDemand_done hload
      | some slot =>
        obtain ⟨-, frame, v, htake, ⟨rfl, -, -⟩ | ⟨f, -, -, hsome⟩⟩ :=
          (swapIn_some_ok hslot).mp hswapped
        · exact takeFrame_none (s := s.acquired env .swap) htake
        · simp at hsome

def FillsAlike (fill : Word → Kern Unit) : Prop :=
  ∀ (s t : State) paddr mem file, SamePage s.mem mem paddr.toNat →
    (fill paddr).run s = .ok () t →
    ∃ mem', (fill paddr).run (s.twin mem file) = .ok () (t.twin mem' file) ∧
      SamePage t.mem mem' paddr.toNat

lemma fillFromElf_alike (v : Nat) (seg : Segment) : FillsAlike (fillFromElf env v seg vaddr) := by
  intro s t paddr mem file hsame hrun
  obtain rfl := fillFromElf_ok.mp hrun
  refine ⟨((s.twin mem file).filled env v seg vaddr paddr).mem, fillFromElf_ok.mpr rfl, ?_⟩
  intro k hk
  simp only [State.filled_mem, State.twin_mem]
  exact Bytes.paste_congr (hsame k hk)

lemma noFill_alike : FillsAlike (fun _ => pure ()) := by
  intro s t paddr mem file hsame hrun
  injection hrun with _ ht
  subst ht
  exact ⟨mem, rfl, hsame⟩

lemma isFill_alike
    (h : IsFill env vaddr fill) : FillsAlike fill := by
  cases h with
  | elf v seg => exact fillFromElf_alike v seg
  | zero => exact noFill_alike

def ResolvesAlike (resolution : Resolution) (mem mem' : Nat → UInt8) : Prop :=
  ∀ paddr indexTlb, resolution = .page paddr indexTlb → SamePage mem mem' paddr.toNat

lemma resolvesAlike_done (result : Word) (mem mem' : Nat → UInt8) :
    ResolvesAlike (.done result) mem mem' := by
  intro paddr indexTlb h
  simp at h

lemma resolvesAlike_page (indexTlb : Word) (h : SamePage mem mem' paddr.toNat) :
    ResolvesAlike (.page paddr indexTlb) mem mem' := by
  intro paddr' indexTlb' heq
  obtain ⟨rfl, -⟩ : paddr = paddr' ∧ indexTlb = indexTlb' := by simpa using heq
  exact h

section Twins

variable {env : Env} (hl : env.locked = false) (mem : Nat → UInt8)

include hl

lemma swapOut_twin (hrun : (swapOut env pid vaddr permissionFlag paddr).run s = .ok () t) :
    ∃ file, (swapOut env pid vaddr permissionFlag paddr).run (s.twin mem s.swap.file) =
        .ok () (t.twin mem file) ∧
      ∀ i, (s.swap.track i).valid = true → SamePage t.swap.file file (i * PAGE_SIZE) := by
  obtain ⟨huser, -, hindex, slot, hslot, hwrite, rfl⟩ := swapOut_ok.mp hrun
  refine ⟨(s.swap.writePage slot mem paddr).file, swapOut_ok.mpr ⟨huser, available_unlocked hl _ _,
    ⟨available_unlocked hl _ _, hindex.2⟩, slot, hslot, hwrite, rfl⟩, ?_⟩
  intro i hvalid k hk
  have hne : i ≠ slot := by
    rintro rfl
    obtain ⟨hfree, -, -⟩ := List.find?_range_eq_some.mp hslot
    simp [hvalid] at hfree
  calc (s.swap.writePage slot s.mem paddr).file (i * PAGE_SIZE + k)
      = s.swap.file (i * PAGE_SIZE + k) := writePage_file_other s.swap s.mem paddr hne hk
    _ = (s.swap.writePage slot mem paddr).file (i * PAGE_SIZE + k) :=
        (writePage_file_other s.swap mem paddr hne hk).symm

lemma evict_twin (hrun : (evict env as pid).run s = .ok frame t) :
    ∃ file, (evict env as pid).run (s.twin mem s.swap.file) = .ok frame (t.twin mem file) ∧
      (frame = none → file = t.swap.file) ∧
      ∀ i, (s.swap.track i).valid = true → SamePage t.swap.file file (i * PAGE_SIZE) := by
  rcases evict_ok.mp hrun with ⟨hnone, rfl, rfl⟩ | ⟨hvictim, rfl, u, hout, rfl⟩
  · exact ⟨t.swap.file, evict_ok.mpr (.inl ⟨hnone, rfl, rfl⟩), fun _ => rfl, fun _ _ _ _ => rfl⟩
  · obtain ⟨file, hout', hsame⟩ := swapOut_twin hl mem hout
    exact ⟨file, evict_ok.mpr (.inr ⟨hvictim, rfl, _, hout', rfl⟩), by simp, hsame⟩

lemma takeFrame_twin (hrun : (takeFrame env as pid full).run s = .ok frame t) :
    ∃ file, (takeFrame env as pid full).run (s.twin mem s.swap.file) = .ok frame (t.twin mem file) ∧
      (frame = none → file = t.swap.file) ∧
      ∀ i, (s.swap.track i).valid = true → SamePage t.swap.file file (i * PAGE_SIZE) := by
  have hmemory : MemoryAvailable env (s.twin mem s.swap.file) :=
    ⟨available_unlocked hl _ _, fun _ => available_unlocked hl _ _⟩
  have htried : (s.twin mem s.swap.file).tried full = (s.tried full).twin mem s.swap.file := by
    cases full <;> rfl
  have hswap := tried_swap s full
  obtain ⟨-, hcase⟩ := takeFrame_ok.mp hrun
  by_cases hfresh : full = false ∧ allocAddr s.coremap s.ram 1#32 ≠ 0#32
  · rw [if_pos hfresh] at hcase
    obtain ⟨rfl, rfl⟩ := hcase
    refine ⟨s.swap.file, takeFrame_ok.mpr ⟨fun _ => hmemory, ?_⟩, by simp, ?_⟩
    · rw [← htried]
      exact (if_pos hfresh).mpr ⟨rfl, rfl⟩
    · intro i _ k _
      rw [hswap]
  rw [if_neg hfresh] at hcase
  obtain ⟨file, hevict, hnone, hsame⟩ := evict_twin hl mem hcase
  rw [hswap] at hevict hsame
  refine ⟨file, takeFrame_ok.mpr ⟨fun _ => hmemory, ?_⟩, hnone, hsame⟩
  rw [htried]
  exact (if_neg hfresh).mpr hevict

lemma swapInto_twin (hfile : SamePage s.swap.file file (slot * PAGE_SIZE))
    (hrun : (swapInto env as pid vaddr slot paddr).run s = .ok () t) :
    ∃ mem' file', (swapInto env as pid vaddr slot paddr).run (s.twin mem file) =
        .ok () (t.twin mem' file') ∧ SamePage t.mem mem' paddr.toNat := by
  obtain ⟨herror, hresid, hindex, -, -, rfl⟩ := swapInto_ok.mp hrun
  refine ⟨((s.twin mem file).swappedIn as pid vaddr slot paddr).mem, file,
    swapInto_ok.mpr ⟨herror, hresid, hindex, available_unlocked hl _ _, by simp [hl], ?_⟩, ?_⟩
  · rw [released_unlocked hl, released_unlocked hl]
    rfl
  rw [released_unlocked hl]
  intro k hk
  rw [State.swappedIn_mem, State.swappedIn_mem, Bytes.paste_inside hk, Bytes.paste_inside hk]
  exact hfile k hk

lemma swapIn_twin (hrun : (swapIn env as pid vaddr).run s = .ok page t) :
    ∃ mem' file', (swapIn env as pid vaddr).run (s.twin mem s.swap.file) =
        .ok page (t.twin mem' file') ∧
      (page = none → mem' = mem ∧ file' = t.swap.file) ∧
      ∀ paddr, page = some paddr → SamePage t.mem mem' paddr.toNat := by
  have havail : Available env .swap (s.twin mem s.swap.file) := available_unlocked hl _ _
  have hslot' := slotOf_twin s mem s.swap.file pid vaddr
  cases hslot : s.swap.slotOf pid vaddr with
  | none =>
    rw [hslot] at hslot'
    obtain ⟨-, rfl, rfl⟩ := (swapIn_none_ok hslot).mp hrun
    exact ⟨mem, t.swap.file, (swapIn_none_ok hslot').mpr ⟨havail, rfl, rfl⟩, by simp, by simp⟩
  | some slot =>
    rw [hslot] at hslot'
    obtain ⟨-, frame, u, htake, hcase⟩ := (swapIn_some_ok hslot).mp hrun
    rw [acquired_unlocked hl] at htake
    obtain ⟨file, htake', hnone, hsame⟩ := takeFrame_twin hl mem htake
    rcases hcase with ⟨rfl, rfl, rfl⟩ | ⟨f, rfl, hinto, rfl⟩
    · refine ⟨mem, file, (swapIn_some_ok hslot').mpr ⟨havail, none, _, ?_, .inl ⟨rfl, rfl, rfl⟩⟩,
        fun _ => ⟨rfl, hnone rfl⟩, by simp⟩
      rwa [acquired_unlocked hl]
    obtain ⟨hvalid, -, -⟩ := List.find?_range_eq_some.mp hslot
    simp only [Bool.and_eq_true] at hvalid
    obtain ⟨mem', file', hinto', hframe⟩ := swapInto_twin hl mem (hsame slot hvalid.2) hinto
    refine ⟨mem', file', (swapIn_some_ok hslot').mpr ⟨havail, some f, _, ?_,
      .inr ⟨f, rfl, hinto', rfl⟩⟩, by simp, ?_⟩
    · rwa [acquired_unlocked hl]
    rintro paddr hpaddr
    obtain rfl : f.paddr = paddr := by simpa using hpaddr
    exact hframe

lemma demandPage_twin (hfill : FillsAlike fill)
    (hrun : (demandPage env as pid vaddr status fill).run s = .ok resolution t) :
    ∃ mem' file', (demandPage env as pid vaddr status fill).run (s.twin mem s.swap.file) =
        .ok resolution (t.twin mem' file') ∧ ResolvesAlike resolution t.mem mem' := by
  obtain ⟨frame, u, htake, hcase⟩ := demandPage_ok.mp hrun
  obtain ⟨file, htake', -, -⟩ := takeFrame_twin hl mem htake
  rcases hcase with ⟨rfl, rfl, rfl⟩ | ⟨f, v, rfl, hfilled, hindex, -, rfl, rfl⟩
  · exact ⟨mem, file, demandPage_ok.mpr ⟨none, _, htake', .inl ⟨rfl, rfl, rfl⟩⟩,
      resolvesAlike_done _ _ _⟩
  have hzero : SamePage (u.claimed as f.paddr).mem (zeroPage mem f.paddr) f.paddr.toNat := by
    intro k hk
    rw [State.claimed_mem, zeroPage, zeroPage, Bytes.paste_inside hk, Bytes.paste_inside hk]
  obtain ⟨mem', hfilled', hsame⟩ := hfill _ _ _ _ file hzero hfilled
  exact ⟨mem', file, demandPage_ok.mpr ⟨some f, _, htake', .inr ⟨f, _, rfl, hfilled', hindex,
    available_unlocked hl _ _, rfl, rfl⟩⟩, resolvesAlike_page f.indexTlb hsame⟩

lemma loadOnDemand_twin
    (hrun : (loadOnDemand env as pid vaddr).run s = .ok resolution t) :
    ∃ mem' file', (loadOnDemand env as pid vaddr).run (s.twin mem s.swap.file) =
        .ok resolution (t.twin mem' file') ∧ ResolvesAlike resolution t.mem mem' := by
  rcases loadOnDemand_cases env as pid vaddr (s.addrspaces as) with
    hfault | ⟨_, _, hfill, hbranch⟩
  · rw [hfault s rfl] at hrun
    injection hrun with hresolution ht
    subst hresolution ht
    exact ⟨mem, s.swap.file, hfault (s.twin mem s.swap.file) rfl, resolvesAlike_done _ _ _⟩
  rw [hbranch s rfl] at hrun
  rw [hbranch (s.twin mem s.swap.file) rfl]
  exact demandPage_twin hl mem (isFill_alike hfill) hrun

lemma findPage_twin (habsent : s.pageTable.lookup pid vaddr = none)
    (hrun : (findPage env as pid vaddr).run s = .ok resolution t) :
    ∃ mem' file', (findPage env as pid vaddr).run (s.twin mem s.swap.file) =
        .ok resolution (t.twin mem' file') ∧ ResolvesAlike resolution t.mem mem' := by
  unfold findPage at hrun ⊢
  have hget : ∀ s : State, s.pageTable.lookup pid vaddr = none →
      (pageTableGetPaddrEntry env pid vaddr).run s = .ok none s := fun s h =>
    pageTableGetPaddrEntry_ok.mpr ⟨available_unlocked hl _ _, by simp [h], rfl⟩
  rw [bind_run_ok (hget s habsent)] at hrun
  rw [bind_run_ok (hget (s.twin mem s.swap.file) habsent)]
  obtain ⟨swapped, u, hswapped, hrun⟩ := bind_ok.mp hrun
  obtain ⟨mem', file', hswapped', hnone, hsome⟩ := swapIn_twin hl mem hswapped
  simp only
  rw [bind_run_ok hswapped']
  cases swapped with
  | some paddr =>
    injection hrun with hresolution ht
    subst hresolution ht
    exact ⟨mem', file', rfl, resolvesAlike_page NO_SLOT (hsome paddr rfl)⟩
  | none =>
    obtain ⟨rfl, rfl⟩ := hnone rfl
    exact loadOnDemand_twin hl mem' hrun

omit hl in
lemma installPage_twin (file : Nat → UInt8)
    (hrun : (installPage env pid vaddr paddr indexTlb).run s = .ok result t) :
    (installPage env pid vaddr paddr indexTlb).run (s.twin mem file) =
      .ok result (t.twin mem file) := by
  obtain ⟨halign, havail, hslot, rfl, rfl⟩ := installPage_ok.mp hrun
  exact installPage_ok.mpr ⟨halign, havail, hslot, rfl, rfl⟩

end Twins

lemma installPage_putInTlb (htlb : u.tlb = s.tlb)
    (hrun : (installPage env pid vaddr paddr indexTlb).run u = .ok result t) :
    PutInTlb s t pid vaddr (paddr.toNat / PAGE_SIZE) ∧
      paddr.toNat / PAGE_SIZE * PAGE_SIZE = paddr.toNat ∧ t.mem = u.mem := by
  obtain ⟨halign, -, -, -, rfl⟩ := installPage_ok.mp hrun
  have hmul := aligned_div_mul halign
  refine ⟨⟨slotOf (chooseSlot env u.tlb indexTlb).1, Nat.mod_lt _ (by decide), ?_⟩, hmul, rfl⟩
  rw [hmul, BitVec.ofNat_toNat, BitVec.setWidth_eq, State.installed_tlb, ← htlb,
    ← chooseSlot_entry env u.tlb indexTlb]
  rfl

lemma findPage_tlb
    (hrun : (findPage env as pid vaddr).run s = .ok resolution t) : t.tlb = s.tlb := by
  have htrivial : Stable pid vaddr (fun _ _ => True) := by
    constructor <;> intros <;> trivial
  exact (findPage_over htrivial s resolution t ⟨trivial, rfl⟩ hrun).2

def MappedAlike (s t t' : State) (pid vaddr : Word) : Prop :=
  ∃ frame, PutInTlb s t pid vaddr frame ∧ PutInTlb s t' pid vaddr frame ∧
    SamePage t.mem t'.mem (frame * PAGE_SIZE)

-- A fault on a page that is not resident maps nothing, or bytes that do not depend on what was in
-- memory before: runs from different memories map the same frame with the same bytes.
theorem no_stale_data {env : Env} (hl : env.locked = false) {s t : State} (as : Nat)
    {pid faulttype : Word} (faultaddress : Word) (mem : Nat → UInt8) (haccess : IsAccess faulttype)
    (habsent : s.pageTable.lookup pid (faultaddress &&& PAGE_FRAME) = none)
    (hrun : (vmFault env (some ⟨pid, some as⟩) faulttype faultaddress).run s = .ok 0#32 t) :
    ∃ t', (vmFault env (some ⟨pid, some as⟩) faulttype faultaddress).run (s.setMem mem) =
        .ok 0#32 t' ∧
      ((s.pageTable.replacement pid = -1 ∧ t.tlb = s.tlb ∧ t'.tlb = s.tlb) ∨
        MappedAlike s t t' pid (faultaddress &&& PAGE_FRAME)) := by
  rw [vmFault_access haccess] at hrun
  simp only [vmFault_access haccess]
  obtain ⟨hsetup, hdone | ⟨paddr, indexTlb, u, hpage, hinstall⟩⟩ := resolveFault_ok.mp hrun
  · obtain ⟨mem', file', hdone', -⟩ :=
      findPage_twin (s := s.setStats s.stats.countTlbFaults) hl mem habsent hdone
    have htlb : t.tlb = s.tlb := (findPage_tlb hdone :)
    have hvictim : s.pageTable.replacement pid = -1 := (findPage_done hdone :)
    exact ⟨t.twin mem' file', resolveFault_ok.mpr ⟨hsetup, .inl hdone'⟩, .inl ⟨hvictim, htlb, htlb⟩⟩
  obtain ⟨mem', file', hpage', halike⟩ :=
    findPage_twin (s := s.setStats s.stats.countTlbFaults) hl mem habsent hpage
  have hinstall' := installPage_twin mem' file' hinstall
  have htlb : u.tlb = s.tlb := (findPage_tlb hpage :)
  obtain ⟨hput, hmul, hmem⟩ := installPage_putInTlb htlb hinstall
  obtain ⟨hput', -, -⟩ := installPage_putInTlb (u := u.twin mem' file') htlb hinstall'
  refine ⟨t.twin mem' file', resolveFault_ok.mpr ⟨hsetup, .inr ⟨paddr, indexTlb, _, hpage',
    hinstall'⟩⟩, .inr ⟨paddr.toNat / PAGE_SIZE, hput, hput', ?_⟩⟩
  rw [hmul, hmem]
  exact halike paddr indexTlb rfl

theorem no_stale_data_stack :
    ∃ t t', (vmFault steadyEnv.unlocked (some ⟨1#32, some 0⟩) VM_FAULT_WRITE 0x7ffff000#32).run
        smallMachine = .ok 0#32 t ∧
      (vmFault steadyEnv.unlocked (some ⟨1#32, some 0⟩) VM_FAULT_WRITE 0x7ffff000#32).run
        (smallMachine.setMem fun _ => 1) = .ok 0#32 t' ∧
      MappedAlike smallMachine t t' 1#32 (0x7ffff000#32 &&& PAGE_FRAME) := by
  obtain ⟨t, hrun, slot, -, hentry⟩ := stack_fault_run steadyEnv.unlocked
  obtain ⟨t', hrun', hsame⟩ := no_stale_data rfl 0 0x7ffff000#32 (fun _ => 1) (.inr rfl)
    (by decide) hrun
  refine ⟨t, t', hrun, hrun', hsame.resolve_left ?_⟩
  rintro ⟨-, htlb, -⟩
  have hslot : (0#32 : Word) = BitVec.ofNat 32 (4 * PAGE_SIZE) ||| TLBLO_DIRTY ||| TLBLO_VALID := by
    have hlo := congrArg TlbEntry.lo (congrFun hentry slot)
    rwa [htlb, Function.update_self] at hlo
  exact absurd hslot (by decide)

end Os161.Vm
