import Os161.Vm.Fault.Agreement
import Os161.Vm.Fault.Stale
import Os161.Vm.Fault.Tags
import Os161.Vm.Swap.Permission

namespace Os161.Vm

open Lib Lib.Exec BitVec Option

def AddrSpace.segmentOf (space : AddrSpace) (vaddr : Word) : Option Segment :=
  if space.code.Has vaddr then some space.code
  else if space.data.Has vaddr then some space.data
  else none

def AddrSpace.Covers (space : AddrSpace) (vaddr : Word) : Prop :=
  space.segmentOf vaddr ≠ none ∨ InStack vaddr

def ReadComplete (env : Env) (v : Nat) (seg : Segment) (vaddr : Word) : Prop :=
  (env.vopRead v (seg.source vaddr) (seg.sizeToRead vaddr).toNat).error = 0#32 ∧
    (seg.bytes env v vaddr).length = (seg.sizeToRead vaddr).toNat

def State.NoFrame (s : State) (as : Nat) (pid : Word) : Prop :=
  (MAX_ALLOCATED_PAGES ≤ (s.addrspaces as).allocatedPages ∨ s.nextPaddr = 0#32) ∧
    s.pageTable.replacement pid = -1

def State.NoFrameForSwap (s : State) (as : Nat) (pid : Word) : Prop :=
  s.evicts as ∧ s.pageTable.replacement pid = -1

-- What a swap_in that finds no frame leaves: it has asked for a fresh one unless the process has
-- its share.
def State.askedForFrame (s : State) (as : Nat) : State :=
  s.tried (decide ((s.addrspaces as).allocatedPages = MAX_ALLOCATED_PAGES))

-- The page is resident, or there is a frame for it; when swap_in finds none, vm_fault asks again.
def State.HasFrame (s : State) (as : Nat) (pid vaddr : Word) : Prop :=
  s.pageTable.lookup pid vaddr ≠ none ∨
    (s.swap.slotOf pid vaddr ≠ none ∧
      ¬ (s.NoFrameForSwap as pid ∧ (s.askedForFrame as).NoFrame as pid)) ∨
    (s.swap.slotOf pid vaddr = none ∧ ¬ s.NoFrame as pid)

section Outcomes

variable (env : Env) (s : State) (as : Nat) (pid vaddr : Word)

inductive Fails : Prop where
  | swap (hresident : s.pageTable.lookup pid vaddr = none)
      (hslot : s.swap.slotOf pid vaddr ≠ none) (hnone : s.NoFrameForSwap as pid)
  | victim (hresident : s.pageTable.lookup pid vaddr = none)
      (hslot : s.swap.slotOf pid vaddr = none) (hcovers : (s.addrspaces as).Covers vaddr)
      (hnone : s.NoFrame as pid)
  | read (hresident : s.pageTable.lookup pid vaddr = none)
      (hslot : s.swap.slotOf pid vaddr = none) (hframe : ¬ s.NoFrame as pid) (seg : Segment)
      (hseg : (s.addrspaces as).segmentOf vaddr = some seg)
      (hread : ¬ ReadComplete env (s.addrspaces as).fi.v seg vaddr)

structure Refused : Prop where
  resident : s.pageTable.lookup pid vaddr = none
  swapped : s.swap.slotOf pid vaddr = none ∨ s.NoFrameForSwap as pid
  uncovered : ¬ (s.addrspaces as).Covers vaddr

-- The frame at `paddr` holds the page: untouched if it was resident, else what the swap file,
-- the executable or nothing but zeros put there.
structure Filled (paddr : Word) (mem : Nat → UInt8) : Prop where
  resident : ∀ last, s.pageTable.lookup pid vaddr = some last →
    paddr = BitVec.ofNat 32 (last * PAGE_SIZE) ∧ mem = s.mem
  swapped : ∀ slot, s.pageTable.lookup pid vaddr = none → s.swap.slotOf pid vaddr = some slot →
    ∀ i < PAGE_SIZE, mem (paddr.toNat + i) = s.swap.file (slot * PAGE_SIZE + i)
  elf : ∀ seg, s.pageTable.lookup pid vaddr = none → s.swap.slotOf pid vaddr = none →
    (s.addrspaces as).segmentOf vaddr = some seg →
    ReadComplete env (s.addrspaces as).fi.v seg vaddr ∧
      ∀ i < PAGE_SIZE, mem (paddr.toNat + i) =
        Bytes.paste (fun _ => 0) (seg.dest vaddr paddr).toNat
          (seg.bytes env (s.addrspaces as).fi.v vaddr).length
          (fun k => (seg.bytes env (s.addrspaces as).fi.v vaddr).getD k 0) (paddr.toNat + i)
  stack : s.pageTable.lookup pid vaddr = none → s.swap.slotOf pid vaddr = none →
    (s.addrspaces as).segmentOf vaddr = none → ∀ i < PAGE_SIZE, mem (paddr.toNat + i) = 0

end Outcomes

def Tlb.Translates (tlb : Tlb) (pid vaddr paddr : Word) : Prop :=
  ∃ slot < NUM_TLB, (tlb.entry slot).hi &&& TLBHI_VPAGE = vaddr ∧ (tlb.entry slot).pid = pid ∧
    (tlb.entry slot).isValid ∧ (tlb.entry slot).frame = paddr.toNat / PAGE_SIZE

structure Honest (env : Env) (s t : State) (cur : Option CurProc) (page result : Word) :
    Prop where
  usable : result = 0#32 → ∃ pid as paddr, cur = some ⟨pid, some as⟩ ∧
    t.tlb.Translates pid page paddr ∧ Filled env s as pid page paddr t.mem
  reported : ∀ pid as, cur = some ⟨pid, some as⟩ → Fails env s as pid page → result ≠ 0#32

def Answerable (env : Env) (s : State) (cur : Option CurProc) (faulttype page : Word) : Prop :=
  ∀ pid as, cur = some ⟨pid, some as⟩ → IsAccess faulttype →
    Refused s as pid page ∨ pid.toNat < 64 ∧ ¬ Fails env s as pid page

section Tag

lemma shifted_low (pid : Word) : (pid <<< 6 &&& TLBHI_PID) >>> 6 = pid &&& 0x3f#32 := by
  have hmask : TLBHI_PID = 0x3f#32 <<< 6 := by decide
  rw [hmask, ← shiftLeft_and_distrib]
  ext i hi
  have hback : (6 + i < 32) ∨ (0x3f#32).getLsbD i = false := by
    by_cases h : 6 + i < 32
    · exact .inl h
    refine .inr ?_
    rw [getLsbD_ofNat, Nat.testBit_lt_two_pow (i := i)
      (Nat.lt_of_lt_of_le (by decide : 63 < 2 ^ 6) (Nat.pow_le_pow_right (by decide) (by omega))),
      Bool.and_false]
  rcases hback with h | h
  · simp [h]
  · simp [← getLsbD_eq_getElem, h]

lemma low_eq_self (pid : Word) : pid &&& 0x3f#32 = pid ↔ pid.toNat < 64 := by
  rw [← toNat_inj, toNat_and, show (0x3f#32).toNat = 2 ^ 6 - 1 from rfl,
    Nat.and_two_pow_sub_one_eq_mod]
  omega

lemma shifted_high {pid : Word} (h : pid.toNat < 64) : pid <<< 6 &&& TLBHI_VPAGE = 0#32 := by
  obtain ⟨k, rfl⟩ : ∃ k : Fin 64, pid = BitVec.ofNat 32 k := ⟨⟨pid.toNat, h⟩, by simp⟩
  revert k
  decide

lemma tag_reads_back {vaddr : Word} (ha : vaddr &&& PAGE_FRAME = vaddr) (pid : Word) :
    (tag vaddr pid &&& TLBHI_VPAGE = vaddr ∧ (tag vaddr pid &&& TLBHI_PID) >>> 6 = pid) ↔
      pid.toNat < 64 := by
  rw [tag_page ha, tag_pid ha, shifted_low, low_eq_self]
  constructor
  · exact fun h => h.2
  · intro h
    exact ⟨by rw [shifted_high h, or_zero], h⟩

end Tag

section Frames

lemma tried_addrspaces (s : State) (full : Bool) : (s.tried full).addrspaces = s.addrspaces := by
  cases full <;> rfl

lemma takeFrame_result (hrun : (takeFrame env as pid full).run s = .ok frame t) :
    (frame = none ↔ (full = true ∨ s.nextPaddr = 0#32) ∧ s.pageTable.replacement pid = -1) ∧
      (frame = none → t = s.tried full) := by
  obtain ⟨-, hcase⟩ := takeFrame_ok.mp hrun
  rw [allocAddr_one] at hcase
  by_cases hfresh : full = false ∧ s.nextPaddr ≠ 0#32
  · rw [if_pos hfresh] at hcase
    obtain ⟨rfl, -⟩ := hcase
    simp [hfresh.1, hfresh.2]
  have hevicts : full = true ∨ s.nextPaddr = 0#32 := by
    by_contra hno
    push Not at hno
    exact hfresh ⟨by simpa using hno.1, hno.2⟩
  rw [if_neg hfresh] at hcase
  rcases evict_ok.mp hcase with ⟨hnone, rfl, rfl⟩ | ⟨hvictim, rfl, -⟩
  · rw [tried_pageTable] at hnone
    exact ⟨⟨fun _ => ⟨hevicts, hnone⟩, fun _ => rfl⟩, fun _ => rfl⟩
  · rw [tried_pageTable] at hvictim
    simp [hvictim]

lemma takeFrame_file (hvalid : (s.swap.track slot).valid = true)
    (hrun : (takeFrame env as pid full).run s = .ok frame t) (hi : i < PAGE_SIZE) :
    t.swap.file (slot * PAGE_SIZE + i) = s.swap.file (slot * PAGE_SIZE + i) := by
  obtain ⟨-, hcase⟩ := takeFrame_ok.mp hrun
  split at hcase
  · obtain ⟨-, rfl⟩ := hcase
    rw [tried_swap]
  rcases evict_ok.mp hcase with ⟨-, -, rfl⟩ | ⟨-, -, u, hout, rfl⟩
  · rw [tried_swap]
  obtain ⟨-, -, -, free, hfree, -, rfl⟩ := swapOut_ok.mp hout
  rw [tried_swap] at hfree
  have hne : slot ≠ free := by
    rintro rfl
    have hinvalid := (List.find?_range_eq_some.mp hfree).1
    simp [hvalid] at hinvalid
  simp only [State.addAllocated_swap, State.swappedOut_swap, SwapArea.setTrack,
    SwapArea.writePage, tried_swap]
  exact Bytes.paste_other_block hne hi

end Frames

section Search

variable {env : Env} {as : Nat} {pid vaddr : Word} {s : State}

variable {resolution : Resolution}

lemma swapIn_result (hslot : s.swap.slotOf pid vaddr = some slot)
    (hrun : (swapIn env as pid vaddr).run s = .ok result t) :
    (result = none ∧ s.NoFrameForSwap as pid ∧ t = (s.acquired env .swap).askedForFrame as) ∨
      ∃ paddr, result = some paddr ∧ ¬ s.NoFrameForSwap as pid ∧
        ∀ i < PAGE_SIZE, t.mem (paddr.toNat + i) = s.swap.file (slot * PAGE_SIZE + i) := by
  have hvalid : (s.swap.track slot).valid = true := by
    have hp := (List.find?_range_eq_some.mp hslot).1
    simp only [Bool.and_eq_true] at hp
    exact hp.2
  obtain ⟨-, frame, u, htake, hcase⟩ := (swapIn_some_ok hslot).mp hrun
  have hresult := takeFrame_result htake
  have hnone : frame = none ↔ s.NoFrameForSwap as pid := by
    rw [hresult.1, decide_eq_true_eq]
    exact Iff.rfl
  rcases hcase with ⟨hframe, rfl, rfl⟩ | ⟨f, rfl, hinto, rfl⟩
  · exact .inl ⟨rfl, hnone.mp hframe, hresult.2 hframe⟩
  refine .inr ⟨f.paddr, rfl, fun h => absurd (hnone.mpr h) (by simp), ?_⟩
  intro i hi
  obtain ⟨-, -, -, -, -, rfl⟩ := swapInto_ok.mp hinto
  rw [State.released_mem, State.swappedIn_mem, Bytes.paste_inside hi]
  exact takeFrame_file (s := s.acquired env .swap) hvalid htake hi

lemma demandPage_result {fill : Word → Kern Unit}
    (hrun : (demandPage env as pid vaddr status fill).run s = .ok resolution t) :
    (resolution = .done 0#32 ∧ s.NoFrame as pid) ∨
      ∃ paddr indexTlb u v, resolution = .page paddr indexTlb ∧ ¬ s.NoFrame as pid ∧
        (fill paddr).run (State.claimed as paddr u) = .ok () v ∧ t.mem = v.mem := by
  obtain ⟨frame, u, htake, hcase⟩ := demandPage_ok.mp hrun
  have hnone : frame = none ↔ s.NoFrame as pid := by
    rw [(takeFrame_result htake).1, decide_eq_true_eq]
    exact Iff.rfl
  rcases hcase with ⟨hframe, rfl, -⟩ | ⟨f, v, rfl, hfill, -, -, rfl, rfl⟩
  · exact .inl ⟨rfl, hnone.mp hframe⟩
  · exact .inr ⟨_, _, u, v, rfl, fun h => absurd (hnone.mpr h) (by simp), hfill, rfl⟩

lemma loadOnDemand_segment (hseg : (s.addrspaces as).segmentOf vaddr = some seg) :
    ∃ status, (loadOnDemand env as pid vaddr).run s =
      (demandPage env as pid vaddr status
        (fillFromElf env (s.addrspaces as).fi.v seg vaddr)).run s := by
  unfold AddrSpace.segmentOf at hseg
  unfold loadOnDemand
  rw [bind_run_ok (EStateM.run_get s)]
  by_cases hcode : (s.addrspaces as).code.Has vaddr
  · rw [if_pos hcode] at hseg
    obtain rfl := some.inj hseg
    exact ⟨_, by rw [if_pos hcode]; rfl⟩
  by_cases hdata : (s.addrspaces as).data.Has vaddr
  · rw [if_neg hcode, if_pos hdata] at hseg
    obtain rfl := some.inj hseg
    exact ⟨_, by rw [if_neg hcode, if_pos hdata]; rfl⟩
  · rw [if_neg hcode, if_neg hdata] at hseg
    exact absurd hseg (by simp)

lemma loadOnDemand_noSegment (hseg : (s.addrspaces as).segmentOf vaddr = none) :
    (loadOnDemand env as pid vaddr).run s =
      if InStack vaddr then (stackPage env as pid vaddr).run s else .ok (.done EFAULT) s := by
  unfold AddrSpace.segmentOf at hseg
  have hcode : ¬ (s.addrspaces as).code.Has vaddr := fun h => by simp [h] at hseg
  have hdata : ¬ (s.addrspaces as).data.Has vaddr := fun h => by simp [hcode, h] at hseg
  unfold loadOnDemand
  rw [bind_run_ok (EStateM.run_get s), if_neg hcode, if_neg hdata]
  split <;> rfl

lemma loadOnDemand_uncovered (hcovers : ¬ (s.addrspaces as).Covers vaddr) :
    (loadOnDemand env as pid vaddr).run s = .ok (.done EFAULT) s := by
  unfold AddrSpace.Covers at hcovers
  push Not at hcovers
  rw [loadOnDemand_noSegment hcovers.1, if_neg hcovers.2]

lemma loadOnDemand_result (hcovers : (s.addrspaces as).Covers vaddr)
    (hrun : (loadOnDemand env as pid vaddr).run s = .ok resolution t) :
    (resolution = .done 0#32 ∧ s.NoFrame as pid) ∨
      ∃ paddr indexTlb, resolution = .page paddr indexTlb ∧ ¬ s.NoFrame as pid ∧
        (∀ seg, (s.addrspaces as).segmentOf vaddr = some seg → ∀ i < PAGE_SIZE,
          t.mem (paddr.toNat + i) = Bytes.paste (fun _ => 0) (seg.dest vaddr paddr).toNat
              (seg.bytes env (s.addrspaces as).fi.v vaddr).length
              (fun k => (seg.bytes env (s.addrspaces as).fi.v vaddr).getD k 0) (paddr.toNat + i)) ∧
        ((s.addrspaces as).segmentOf vaddr = none → ∀ i < PAGE_SIZE,
          t.mem (paddr.toNat + i) = 0) := by
  cases hseg : (s.addrspaces as).segmentOf vaddr with
  | some seg =>
    obtain ⟨status, hload⟩ := @loadOnDemand_segment env as pid vaddr s seg hseg
    rw [hload] at hrun
    rcases demandPage_result hrun with hdone | ⟨paddr, indexTlb, u, v, rfl, hframe, hfill, hmem⟩
    · exact .inl hdone
    obtain rfl := fillFromElf_ok.mp hfill
    refine .inr ⟨paddr, indexTlb, rfl, hframe, ?_, by simp⟩
    intro seg' hseg' i hi
    obtain rfl := some.inj hseg'
    rw [hmem, State.filled_mem, State.claimed_mem]
    exact Bytes.paste_congr (Bytes.paste_inside hi)
  | none =>
    have hstack : InStack vaddr := hcovers.resolve_left fun h => h hseg
    rw [loadOnDemand_noSegment hseg, if_pos hstack] at hrun
    rcases demandPage_result hrun with hdone | ⟨paddr, indexTlb, u, v, rfl, hframe, hfill, hmem⟩
    · exact .inl hdone
    obtain ⟨-, rfl⟩ := pure_ok.mp hfill
    refine .inr ⟨paddr, indexTlb, rfl, hframe, by simp, ?_⟩
    intro _ i hi
    rw [hmem, State.claimed_mem]
    exact Bytes.paste_inside hi

lemma askedForFrame_addrspaces (s : State) (as : Nat) :
    ((s.acquired env .swap).askedForFrame as).addrspaces = s.addrspaces :=
  tried_addrspaces (s.acquired env .swap) _

def Ends (env : Env) (s : State) (as : Nat) (pid vaddr : Word) (resolution : Resolution)
    (mem : Nat → UInt8) : Prop :=
  (Refused s as pid vaddr ∧ resolution = .done EFAULT) ∨
    (¬ Refused s as pid vaddr ∧
      ((resolution = .done 0#32 ∧ Fails env s as pid vaddr) ∨
        ∃ paddr indexTlb, resolution = .page paddr indexTlb ∧
          (Fails env s as pid vaddr ∨ Filled env s as pid vaddr paddr mem)))

lemma ends_resident (indexTlb : Word)
    (hresident : s.pageTable.lookup pid vaddr = some last) :
    Ends env s as pid vaddr (.page (BitVec.ofNat 32 (last * PAGE_SIZE)) indexTlb) s.mem := by
  refine .inr ⟨fun h => ?_, .inr ⟨_, _, rfl, .inr ?_⟩⟩
  · exact absurd (hresident.symm.trans h.resident) (by simp)
  refine ⟨fun last' hlast' => ?_, fun _ h => ?_, fun _ h => ?_, fun h => ?_⟩
  · obtain rfl := some.inj (hresident.symm.trans hlast')
    exact ⟨rfl, rfl⟩
  all_goals exact absurd (hresident.symm.trans h) (by simp)

lemma ends_swapped (indexTlb : Word)
    (hresident : s.pageTable.lookup pid vaddr = none)
    (hslot : s.swap.slotOf pid vaddr = some slot) (hframe : ¬ s.NoFrameForSwap as pid)
    (hmem : ∀ i < PAGE_SIZE, mem (paddr.toNat + i) = s.swap.file (slot * PAGE_SIZE + i)) :
    Ends env s as pid vaddr (.page paddr indexTlb) mem := by
  refine .inr ⟨fun h => ?_, .inr ⟨_, _, rfl, .inr ?_⟩⟩
  · rcases h.swapped with hnone | hnone
    · exact absurd (hslot.symm.trans hnone) (by simp)
    · exact hframe hnone
  refine ⟨fun _ h => ?_, fun slot' _ hslot' => ?_, fun _ _ h => ?_, fun _ h => ?_⟩
  · exact absurd (hresident.symm.trans h) (by simp)
  · obtain rfl := some.inj (hslot.symm.trans hslot')
    exact hmem
  all_goals exact absurd (hslot.symm.trans h) (by simp)

lemma ends_given_up (hresident : s.pageTable.lookup pid vaddr = none)
    (hslot : s.swap.slotOf pid vaddr = some slot) (hnone : s.NoFrameForSwap as pid)
    (hspace : u.addrspaces = s.addrspaces)
    (hrun : (loadOnDemand env as pid vaddr).run u = .ok resolution t) :
    Ends env s as pid vaddr resolution t.mem := by
  have hfails : Fails env s as pid vaddr := .swap hresident (by simp [hslot]) hnone
  by_cases hcovers : (s.addrspaces as).Covers vaddr
  · refine .inr ⟨fun h => h.uncovered hcovers, ?_⟩
    rw [← hspace] at hcovers
    rcases loadOnDemand_result hcovers hrun with ⟨rfl, -⟩ | ⟨paddr, indexTlb, rfl, -⟩
    · exact .inl ⟨rfl, hfails⟩
    · exact .inr ⟨paddr, indexTlb, rfl, .inl hfails⟩
  refine .inl ⟨⟨hresident, .inr hnone, hcovers⟩, ?_⟩
  rw [← hspace] at hcovers
  rw [loadOnDemand_uncovered hcovers] at hrun
  exact (EStateM.Result.ok.inj hrun).1.symm

lemma ends_absent (hresident : s.pageTable.lookup pid vaddr = none)
    (hslot : s.swap.slotOf pid vaddr = none)
    (hrun : (loadOnDemand env as pid vaddr).run s = .ok resolution t) :
    Ends env s as pid vaddr resolution t.mem := by
  by_cases hcovers : (s.addrspaces as).Covers vaddr
  swap
  · rw [loadOnDemand_uncovered hcovers] at hrun
    exact .inl ⟨⟨hresident, .inl hslot, hcovers⟩, (EStateM.Result.ok.inj hrun).1.symm⟩
  refine .inr ⟨fun h => h.uncovered hcovers, ?_⟩
  rcases loadOnDemand_result hcovers hrun with
    ⟨rfl, hnone⟩ | ⟨paddr, indexTlb, rfl, hframe, helf, hstack⟩
  · exact .inl ⟨rfl, .victim hresident hslot hcovers hnone⟩
  refine .inr ⟨paddr, indexTlb, rfl, ?_⟩
  by_cases hread : ∀ seg, (s.addrspaces as).segmentOf vaddr = some seg →
      ReadComplete env (s.addrspaces as).fi.v seg vaddr
  · refine .inr ⟨fun _ h => ?_, fun _ _ h => ?_, fun seg _ _ hseg => ?_, fun _ _ => hstack⟩
    · exact absurd (hresident.symm.trans h) (by simp)
    · exact absurd (hslot.symm.trans h) (by simp)
    · exact ⟨hread seg hseg, helf seg hseg⟩
  push Not at hread
  obtain ⟨seg, hseg, hincomplete⟩ := hread
  exact .inl (.read hresident hslot hframe seg hseg hincomplete)

lemma findPage_ends
    (hrun : (findPage env as pid vaddr).run s = .ok resolution t) :
    Ends env s as pid vaddr resolution t.mem := by
  unfold findPage at hrun
  obtain ⟨resident, u, hget, hrun⟩ := bind_ok.mp hrun
  obtain ⟨-, hresident, hu⟩ := pageTableGetPaddrEntry_ok.mp hget
  subst u
  cases hlookup : s.pageTable.lookup pid vaddr with
  | some last =>
    rw [hlookup, map_some] at hresident
    subst hresident
    injection hrun with hresolution ht
    subst hresolution ht
    exact ends_resident NO_SLOT hlookup
  | none =>
    rw [hlookup, map_none] at hresident
    subst hresident
    obtain ⟨swapped, u, hswap, hload⟩ := bind_ok.mp hrun
    cases hslot : s.swap.slotOf pid vaddr with
    | none =>
      obtain ⟨-, rfl, rfl⟩ := (swapIn_none_ok hslot).mp hswap
      exact ends_absent hlookup hslot hload
    | some slot =>
      rcases swapIn_result hslot hswap with
        ⟨rfl, hnone, rfl⟩ | ⟨paddr, rfl, hframe, hmem⟩
      · exact ends_given_up hlookup hslot hnone (askedForFrame_addrspaces s as) hload
      injection hload with hresolution ht
      subst hresolution ht
      exact ends_swapped NO_SLOT hlookup hslot hframe hmem

lemma loadOnDemand_page_iff (hcovers : (s.addrspaces as).Covers vaddr)
    (hrun : (loadOnDemand env as pid vaddr).run s = .ok resolution t) :
    (∃ paddr indexTlb, resolution = .page paddr indexTlb) ↔ ¬ s.NoFrame as pid := by
  rcases loadOnDemand_result hcovers hrun with ⟨rfl, hnone⟩ | ⟨paddr, indexTlb, rfl, hframe, -⟩
  · exact iff_of_false (by simp) (not_not.mpr hnone)
  · exact iff_of_true ⟨paddr, indexTlb, rfl⟩ hframe

lemma askedForFrame_noFrame (s : State) (as : Nat) (lock : Lock) :
    ((s.acquired env lock).askedForFrame as).NoFrame as pid ↔
      (s.askedForFrame as).NoFrame as pid := by
  unfold State.askedForFrame
  rw [State.acquired_addrspaces]
  cases decide ((s.addrspaces as).allocatedPages = MAX_ALLOCATED_PAGES) <;> exact Iff.rfl

lemma findPage_page_iff (hcovers : (s.addrspaces as).Covers vaddr)
    (hrun : (findPage env as pid vaddr).run s = .ok resolution t) :
    (∃ paddr indexTlb, resolution = .page paddr indexTlb) ↔ s.HasFrame as pid vaddr := by
  unfold findPage at hrun
  unfold State.HasFrame
  obtain ⟨resident, u, hget, hrun⟩ := bind_ok.mp hrun
  obtain ⟨-, hresident, hu⟩ := pageTableGetPaddrEntry_ok.mp hget
  subst u
  cases hlookup : s.pageTable.lookup pid vaddr with
  | some last =>
    rw [hlookup, map_some] at hresident
    subst hresident
    injection hrun with hresolution ht
    exact iff_of_true ⟨_, _, hresolution.symm⟩ (.inl (by simp))
  | none =>
    rw [hlookup, map_none] at hresident
    subst hresident
    obtain ⟨swapped, u, hswap, hload⟩ := bind_ok.mp hrun
    cases hslot : s.swap.slotOf pid vaddr with
    | none =>
      obtain ⟨-, rfl, rfl⟩ := (swapIn_none_ok hslot).mp hswap
      rw [loadOnDemand_page_iff hcovers hload]
      simp
    | some slot =>
      rcases swapIn_result hslot hswap with ⟨rfl, hnone, rfl⟩ | ⟨paddr, rfl, hframe, -⟩
      · have hspace := @askedForFrame_addrspaces env s as
        rw [loadOnDemand_page_iff (hspace.symm ▸ hcovers) hload, askedForFrame_noFrame]
        simp [hnone]
      · injection hload with hresolution ht
        exact iff_of_true ⟨_, _, hresolution.symm⟩ (.inr (.inl ⟨by simp, fun h => hframe h.1⟩))

end Search

section Faults

variable {env : Env} {pid result : Word} {s t : State}

lemma installPage_translates (ha : vaddr &&& PAGE_FRAME = vaddr)
    (hrun : (installPage env pid vaddr paddr indexTlb).run s = .ok result t)
    (hpid : pid.toNat < 64) : t.tlb.Translates pid vaddr paddr := by
  obtain ⟨-, -, -, -, rfl⟩ := installPage_ok.mp hrun
  have htag := (tag_reads_back ha pid).mpr hpid
  refine ⟨slotOf (chooseSlot env s.tlb indexTlb).1, Nat.mod_lt _ (by decide), ?_⟩
  have hentry : (s.installed env pid vaddr paddr indexTlb).tlb.entry
      (slotOf (chooseSlot env s.tlb indexTlb).1) =
        ⟨tag vaddr pid, paddr ||| TLBLO_DIRTY ||| TLBLO_VALID⟩ := by
    rw [State.installed_tlb]
    exact Function.update_self ..
  rw [hentry]
  exact ⟨htag.1, htag.2, valid_of_flags paddr, frame_of_flags paddr⟩

lemma Tlb.Translates.pid_lt {tlb : Tlb} (h : tlb.Translates pid vaddr paddr) :
    pid.toNat < 64 := by
  obtain ⟨slot, -, -, hpid, -⟩ := h
  rw [← hpid, TlbEntry.pid, toNat_ushiftRight, toNat_and, Nat.shiftRight_eq_div_pow]
  have hle := Nat.and_le_right (n := (tlb.entry slot).hi.toNat) (m := TLBHI_PID.toNat)
  have hmask : TLBHI_PID.toNat = 4032 := rfl
  omega

lemma resolveFault_result (ha : vaddr &&& PAGE_FRAME = vaddr)
    (hrun : (resolveFault env as pid vaddr).run s = .ok result t) :
    (Refused s as pid vaddr ∧ result = EFAULT) ∨
      (¬ Refused s as pid vaddr ∧ result = 0#32 ∧
        (Fails env s as pid vaddr ∨ ∃ paddr, Filled env s as pid vaddr paddr t.mem ∧
          (pid.toNat < 64 → t.tlb.Translates pid vaddr paddr))) := by
  obtain ⟨-, hfind | ⟨paddr, indexTlb, u, hfind, hinstall⟩⟩ := resolveFault_ok.mp hrun
  · rcases findPage_ends hfind with
      ⟨hrefused, hdone⟩ | ⟨hnot, ⟨hdone, hfails⟩ | ⟨paddr, indexTlb, hpage, -⟩⟩
    · injection hdone with hresult
      exact .inl ⟨hrefused, hresult⟩
    · injection hdone with hresult
      exact .inr ⟨hnot, hresult, .inl hfails⟩
    · simp at hpage
  obtain ⟨-, -, -, hresult, ht⟩ := installPage_ok.mp hinstall
  rcases findPage_ends hfind with
    ⟨-, hdone⟩ | ⟨hnot, ⟨hdone, -⟩ | ⟨paddr', indexTlb', hpage, hfilled⟩⟩
  · simp at hdone
  · simp at hdone
  injection hpage with hpaddr
  subst hpaddr
  refine .inr ⟨hnot, hresult, hfilled.imp_right fun h => ⟨paddr, ?_, ?_⟩⟩
  · rw [ht]
    exact h
  · exact installPage_translates ha hinstall

lemma pageFrame_aligned (vaddr : Word) :
    vaddr &&& PAGE_FRAME &&& PAGE_FRAME = vaddr &&& PAGE_FRAME := by
  rw [BitVec.and_assoc, BitVec.and_self]

lemma refused_setStats (c : Stats) :
    Refused (s.setStats c) as pid vaddr ↔ Refused s as pid vaddr :=
  ⟨fun h => ⟨h.resident, h.swapped, h.uncovered⟩, fun h => ⟨h.resident, h.swapped, h.uncovered⟩⟩

lemma fails_setStats (c : Stats) :
    Fails env (s.setStats c) as pid vaddr ↔ Fails env s as pid vaddr := by
  constructor
  · rintro (⟨h1, h2, h3⟩ | ⟨h1, h2, h3, h4⟩ | ⟨h1, h2, h3, seg, h4, h5⟩)
    · exact .swap h1 h2 h3
    · exact .victim h1 h2 h3 h4
    · exact .read h1 h2 h3 seg h4 h5
  rintro (⟨h1, h2, h3⟩ | ⟨h1, h2, h3, h4⟩ | ⟨h1, h2, h3, seg, h4, h5⟩)
  · exact .swap h1 h2 h3
  · exact .victim h1 h2 h3 h4
  · exact .read h1 h2 h3 seg h4 h5

lemma hasFrame_setStats (c : Stats) :
    (s.setStats c).HasFrame as pid vaddr ↔ s.HasFrame as pid vaddr := by
  have hasked : ((s.setStats c).askedForFrame as).NoFrame as pid ↔
      (s.askedForFrame as).NoFrame as pid := by
    unfold State.askedForFrame
    rw [State.setStats_addrspaces]
    cases decide ((s.addrspaces as).allocatedPages = MAX_ALLOCATED_PAGES) <;> exact Iff.rfl
  exact or_congr Iff.rfl (or_congr (and_congr Iff.rfl (not_congr (and_congr Iff.rfl hasked)))
    Iff.rfl)

lemma filled_setStats (c : Stats) :
    Filled env (s.setStats c) as pid vaddr paddr mem ↔ Filled env s as pid vaddr paddr mem :=
  ⟨fun h => ⟨h.resident, h.swapped, h.elf, h.stack⟩,
    fun h => ⟨h.resident, h.swapped, h.elf, h.stack⟩⟩

lemma vmFault_error (hcur : ∀ pid as, cur = some ⟨pid, some as⟩ → ¬ IsAccess faulttype)
    (hrun : (vmFault env cur faulttype faultaddress).run s = .ok result t) : result ≠ 0#32 := by
  by_cases haccess : IsAccess faulttype
  · rw [vmFault_access haccess] at hrun
    have hefault : result = EFAULT := by
      cases cur with
      | none => exact (pure_ok.mp hrun).1
      | some cur =>
        obtain ⟨pid, as⟩ := cur
        cases as with
        | none => exact (pure_ok.mp hrun).1
        | some as => exact absurd haccess (hcur pid as rfl)
    rw [hefault]
    decide
  unfold vmFault at hrun
  by_cases hreadonly : faulttype = VM_FAULT_READONLY
  · rw [if_pos hreadonly] at hrun
    cases cur with
    | none => injection hrun
    | some cur =>
      obtain ⟨_, u, -, hthrow⟩ := bind_ok.mp hrun
      injection hthrow
  rw [if_neg hreadonly, if_neg haccess] at hrun
  rw [(pure_ok.mp hrun).1]
  decide

theorem vmFault_honest_iff {cur : Option CurProc} {faulttype faultaddress : Word}
    (hrun : (vmFault env cur faulttype faultaddress).run s = .ok result t) :
    Honest env s t cur (faultaddress &&& PAGE_FRAME) result ↔
      Answerable env s cur faulttype (faultaddress &&& PAGE_FRAME) := by
  by_cases hcur : ∃ pid as, cur = some ⟨pid, some as⟩ ∧ IsAccess faulttype
  swap
  · have herror := vmFault_error (fun pid as h haccess => hcur ⟨pid, as, h, haccess⟩) hrun
    exact ⟨fun _ pid as h haccess => absurd ⟨pid, as, h, haccess⟩ hcur,
      fun _ => ⟨fun h => absurd h herror, fun _ _ _ _ => herror⟩⟩
  obtain ⟨pid, as, rfl, haccess⟩ := hcur
  rw [vmFault_access haccess] at hrun
  have hresult := resolveFault_result (s := s.setStats s.stats.countTlbFaults)
    (pageFrame_aligned faultaddress) hrun
  simp only [refused_setStats, fails_setStats, filled_setStats] at hresult
  constructor
  · rintro hhonest pid' as' hcur -
    obtain ⟨rfl, rfl⟩ : pid = pid' ∧ as = as' := by simpa using hcur
    rcases hresult with ⟨hrefused, -⟩ | ⟨-, hzero, -⟩
    · exact .inl hrefused
    obtain ⟨pid', as', paddr, hsame, htlb, -⟩ := hhonest.usable hzero
    obtain ⟨rfl, -⟩ : pid = pid' ∧ as = as' := by simpa using hsame
    exact .inr ⟨htlb.pid_lt, fun hfails => hhonest.reported pid as rfl hfails hzero⟩
  intro hanswerable
  rcases hanswerable pid as rfl haccess with hrefused | ⟨hpid, hnot⟩
  · have hne : result ≠ 0#32 := by
      rcases hresult with ⟨-, rfl⟩ | ⟨hno, -⟩
      · decide
      · exact absurd hrefused hno
    exact ⟨fun h => absurd h hne, fun _ _ _ _ => hne⟩
  rcases hresult with ⟨-, rfl⟩ | ⟨-, rfl, hfails | ⟨paddr, hfilled, htlb⟩⟩
  · exact ⟨fun h => absurd h (by decide), fun _ _ _ _ => by decide⟩
  · exact absurd hfails hnot
  refine ⟨fun _ => ⟨pid, as, paddr, rfl, htlb hpid, hfilled⟩, fun pid' as' hcur hfails => ?_⟩
  obtain ⟨rfl, rfl⟩ : pid = pid' ∧ as = as' := by simpa using hcur
  exact absurd hfails hnot

end Faults

theorem vmFault_honest_stack :
    ∃ t, (vmFault steadyEnv (some ⟨1#32, some 0⟩) VM_FAULT_WRITE 0x7ffff000#32).run smallMachine =
        .ok 0#32 t ∧
      Honest steadyEnv smallMachine t (some ⟨1#32, some 0⟩) (0x7ffff000#32 &&& PAGE_FRAME)
        0#32 := by
  obtain ⟨t, hrun, -⟩ := stack_fault_run steadyEnv
  refine ⟨t, hrun, (vmFault_honest_iff hrun).mpr fun pid as hcur _ => .inr ?_⟩
  obtain ⟨rfl, rfl⟩ : 1#32 = pid ∧ 0 = as := by simpa using hcur
  have hframe : ¬ smallMachine.NoFrame 0 1#32 := by
    rintro ⟨hmax | hzero, -⟩
    · exact absurd hmax (by decide)
    · exact absurd hzero (by decide)
  refine ⟨by decide, ?_⟩
  rintro (⟨-, hslot, -⟩ | ⟨-, -, -, hnone⟩ | ⟨-, -, -, seg, hseg, -⟩)
  · exact hslot (slotOf_swapBootstrap _ _ _)
  · exact hframe hnone
  have hnone : (smallMachine.addrspaces 0).segmentOf (0x7ffff000#32 &&& PAGE_FRAME) = none := by
    decide
  exact absurd (hnone.symm.trans hseg) (by simp)

def fullMachine : State :=
  smallMachine.setAddrspaces fun _ => { smallSpace with allocatedPages := 50 }

theorem vmFault_no_victim :
    ∃ t, (vmFault steadyEnv (some ⟨1#32, some 0⟩) VM_FAULT_WRITE 0x7ffff000#32).run fullMachine =
        .ok 0#32 t ∧ fullMachine.pageTable.replacement 1#32 = -1 ∧ t.tlb = fullMachine.tlb ∧
      ∀ slot, ¬ (t.tlb.entry slot).isValid := by
  let s := fullMachine.setStats fullMachine.stats.countTlbFaults
  have hnone : s.pageTable.replacement 1#32 = -1 := by decide
  have habsent : s.pageTable.lookup 1#32 0x7ffff000#32 = none := by decide
  have hout : s.swap.slotOf 1#32 0x7ffff000#32 = none := slotOf_swapBootstrap _ _ _
  have htake : (takeFrame steadyEnv 0 1#32
      (MAX_ALLOCATED_PAGES ≤ (s.addrspaces 0).allocatedPages)).run s = .ok none s :=
    takeFrame_ok.mpr ⟨fun h => absurd h (by decide), evict_ok.mpr (.inl ⟨hnone, rfl, rfl⟩)⟩
  have hfind : (findPage steadyEnv 0 1#32 0x7ffff000#32).run s = .ok (.done 0#32) s := by
    rw [findPage_absent (fun _ => rfl) (fun _ => rfl) habsent hout,
      loadOnDemand_stack (by decide) (by decide) (by decide)]
    exact demandPage_ok.mpr ⟨none, s, htake, .inl ⟨rfl, rfl, rfl⟩⟩
  refine ⟨s, ?_, hnone, rfl, fun slot hvalid => hvalid (show 0#32 &&& TLBLO_VALID = 0#32 by decide)⟩
  rw [vmFault_access (.inr rfl)]
  exact resolveFault_ok.mpr ⟨⟨by decide, by decide, by decide, by decide, by decide, by decide,
    by decide⟩, .inl hfind⟩

end Os161.Vm
