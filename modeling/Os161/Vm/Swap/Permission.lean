import Os161.Vm.Swap.Store

namespace Os161.Vm

open Function Lib Lib.Exec Option State

def Coremap.lowestFree (coremap : Coremap) : Option Nat :=
  if coremap.allocTableActive then
    (List.range coremap.nRamFrames).find? coremap.freeRamFrames
  else none

def State.nextPaddr (s : State) : Word :=
  let recycled := BitVec.ofNat 32 (s.coremap.lowestFree.getD 0 * PAGE_SIZE)
  if recycled ≠ 0#32 then recycled
  else if s.ram.lastpaddr < s.ram.firstpaddr + 4096#32 then 0#32
  else s.ram.firstpaddr

lemma takeRun_one (coremap : Coremap) :
    (coremap.takeRun 1#32).1 = BitVec.ofNat 32
      (((List.range coremap.nRamFrames).find? coremap.freeRamFrames).getD 0 * PAGE_SIZE) := by
  have hsearch := FirstFit.search_one coremap.freeRamFrames coremap.nRamFrames 0 (-1) (.inl rfl)
  rw [← List.range_eq_range'] at hsearch
  simp only [Coremap.takeRun, show (1#32 : Word).toInt = 1 from rfl, hsearch]
  cases (List.range coremap.nRamFrames).find? coremap.freeRamFrames with
  | none => simp
  | some i =>
    simp only [map_some, getD_some, Int.ofNat_eq_natCast, Int.natCast_nonneg, if_true, PAGE_SIZE]
    rw [BitVec.ofInt_natCast, BitVec.ofNat_mul]

lemma allocAddr_one (s : State) : allocAddr s.coremap s.ram 1#32 = s.nextPaddr := by
  have hrecycle : (s.coremap.recycle 1#32).1 =
      BitVec.ofNat 32 (s.coremap.lowestFree.getD 0 * PAGE_SIZE) := by
    unfold Coremap.recycle Coremap.lowestFree
    by_cases hactive : s.coremap.allocTableActive = true
    · simp only [hactive, if_true]
      exact takeRun_one s.coremap
    · simp [hactive]
  unfold allocAddr nextPaddr
  rw [hrecycle]
  by_cases hzero : BitVec.ofNat 32 (s.coremap.lowestFree.getD 0 * PAGE_SIZE) = 0#32
  · simp only [Ram.stealUnless, Ram.stealmem, hzero, if_true, ne_eq, not_true_eq_false, if_false,
      BitVec.one_mul]
    split <;> rfl
  · simp [Ram.stealUnless, hzero]

def State.evicts (s : State) (as : Nat) : Prop :=
  (s.addrspaces as).allocatedPages = MAX_ALLOCATED_PAGES ∨ s.nextPaddr = 0#32

instance (s : State) (as : Nat) : Decidable (s.evicts as) :=
  inferInstanceAs (Decidable (_ ∨ _))

def State.incomingFrame (s : State) (as : Nat) (pid : Word) : Nat :=
  (if s.evicts as then frameAddr (s.pageTable.replacement pid) else s.nextPaddr).toNat / PAGE_SIZE

-- The permission flag at a position of the track array once the victim, if there is one, has
-- been recorded in the first free slot.
def State.flagAfterEviction (s : State) (as : Nat) (pid : Word) (i : Nat) : Word :=
  if s.evicts as ∧ s.swap.freeSlot = some i then
    (s.pageTable.nextEntry (s.pageTable.replacement pid)).permissionFlag
  else (s.swap.track i).permissionFlag

-- The positions of the track array that swap_in reads or writes when it brings in a page at
-- `paddr`.
def TrackIndex (s : State) (as : Nat) (pid vaddr paddr : Word) (i : Nat) : Prop :=
  (∃ slot, s.swap.slotOf pid vaddr = some slot ∧ i ≤ slot) ∨
    (s.evicts as ∧ ∃ slot, s.swap.freeSlot = some slot ∧ i ≤ slot) ∨
      i = paddr.toNat / PAGE_SIZE

-- The value handed to page_table_add_entry is stored as the status of the entry that the call
-- writes, at the position that its third argument gives.
def PermissionKept (s t : State) (as : Nat) (pid vaddr paddr : Word) : Prop :=
  (∃ slot, s.swap.slotOf pid vaddr = some slot ∧
    (t.pageTable.nextEntry (frameIndex pid)).status = (s.swap.track slot).permissionFlag) ∧
  ∀ i, TrackIndex s as pid vaddr paddr i → i < NUMBERENTRIES

def FrameFlagMatches (s : State) (as : Nat) (pid vaddr : Word) : Prop :=
  s.incomingFrame as pid < NUMBERENTRIES ∧
    ∀ slot, s.swap.slotOf pid vaddr = some slot →
      s.flagAfterEviction as pid (s.incomingFrame as pid) = (s.swap.track slot).permissionFlag

section Calls

variable {env : Env} {as : Nat} {pid vaddr paddr : Word} {s t : State}

lemma release_permissionFlag (swap : SwapArea) (slot i : Nat) :
    ((swap.release slot).track i).permissionFlag = (swap.track i).permissionFlag := by
  unfold SwapArea.release SwapArea.setTrack
  by_cases hi : i = slot
  · subst hi
    simp
  · simp [update_of_ne hi]

lemma takeFrame_track (hrun : (takeFrame env as pid
      ((s.addrspaces as).allocatedPages = MAX_ALLOCATED_PAGES)).run s = .ok (some f) t) :
    f.paddr.toNat / PAGE_SIZE = s.incomingFrame as pid ∧
      ∀ i, (t.swap.track i).permissionFlag = s.flagAfterEviction as pid i := by
  obtain ⟨-, hcase⟩ := takeFrame_ok.mp hrun
  rw [allocAddr_one] at hcase
  by_cases hevicts : s.evicts as
  · have hnot : ¬ (decide ((s.addrspaces as).allocatedPages = MAX_ALLOCATED_PAGES) = false ∧
        s.nextPaddr ≠ 0#32) := by
      rintro ⟨hbelow, hpaddr⟩
      rcases hevicts with hmax | hzero
      · simp [hmax] at hbelow
      · exact hpaddr hzero
    rw [if_neg hnot] at hcase
    rcases evict_ok.mp hcase with ⟨-, hnone, -⟩ | ⟨-, hf, u, hout, rfl⟩
    · exact absurd hnone (by simp)
    obtain ⟨-, -, -, slot, hslot, -, rfl⟩ := swapOut_ok.mp hout
    rw [tried_pageTable] at hf
    obtain rfl : f = _ := some.inj hf
    refine ⟨by rw [incomingFrame, if_pos hevicts], ?_⟩
    intro i
    rw [tried_swap] at hslot
    simp only [flagAfterEviction, hevicts, hslot, true_and, some.injEq,
      addAllocated_swap, swappedOut_swap, SwapArea.setTrack, tried_pageTable]
    by_cases hi : slot = i
    · subst hi
      simp
    · rw [if_neg hi, update_of_ne (Ne.symm hi)]
      simp [SwapArea.writePage]
  have hfresh : decide ((s.addrspaces as).allocatedPages = MAX_ALLOCATED_PAGES) = false ∧
      s.nextPaddr ≠ 0#32 := by
    unfold evicts at hevicts
    push Not at hevicts
    simpa using hevicts
  rw [if_pos hfresh] at hcase
  obtain ⟨hf, rfl⟩ := hcase
  obtain rfl : f = _ := some.inj hf
  refine ⟨by rw [incomingFrame, if_neg hevicts], ?_⟩
  intro i
  rw [tried_swap, flagAfterEviction, if_neg (fun h => hevicts h.1)]

lemma swapIn_some_track (hrun : (swapIn env as pid vaddr).run s = .ok (some paddr) t) :
    ∃ slot, s.swap.slotOf pid vaddr = some slot ∧ paddr.toNat / PAGE_SIZE = s.incomingFrame as pid ∧
      (t.pageTable.nextEntry (frameIndex pid)).status =
        s.flagAfterEviction as pid (s.incomingFrame as pid) := by
  cases hslot : s.swap.slotOf pid vaddr with
  | none => exact absurd ((swapIn_none_ok hslot).mp hrun).2.1 (by simp)
  | some slot =>
    obtain ⟨-, frame, u, htake, hcase⟩ := (swapIn_some_ok hslot).mp hrun
    rcases hcase with ⟨-, hnone, -⟩ | ⟨f, rfl, hinto, hpaddr⟩
    · exact absurd hnone (by simp)
    obtain rfl := some.inj hpaddr
    obtain ⟨hframe, htrack⟩ := takeFrame_track (s := s.acquired env .swap) htake
    obtain ⟨-, -, -, -, -, rfl⟩ := swapInto_ok.mp hinto
    have hframe' : f.paddr.toNat / PAGE_SIZE = s.incomingFrame as pid := hframe
    refine ⟨slot, rfl, hframe', ?_⟩
    rw [released_pageTable, swappedIn_pageTable]
    simp only [Table.addEntry, update_self]
    rw [release_permissionFlag, htrack, hframe']
    rfl

lemma trackIndex_below (hframe : paddr.toNat / PAGE_SIZE < NUMBERENTRIES)
    (hi : TrackIndex s as pid vaddr paddr i) : i < NUMBERENTRIES := by
  rcases hi with ⟨slot, hslot, hle⟩ | ⟨-, slot, hslot, hle⟩ | rfl
  · exact Nat.lt_of_le_of_lt hle (slotOf_some hslot).1
  · exact Nat.lt_of_le_of_lt hle (freeSlot_some hslot).1
  · exact hframe

theorem swapIn_permission_iff (hrun : (swapIn env as pid vaddr).run s = .ok (some paddr) t) :
    PermissionKept s t as pid vaddr paddr ↔ FrameFlagMatches s as pid vaddr := by
  obtain ⟨slot, hslot, hframe, hstatus⟩ := swapIn_some_track hrun
  unfold PermissionKept FrameFlagMatches
  constructor
  · rintro ⟨⟨slot', hslot', hkept⟩, hbelow⟩
    refine ⟨hframe ▸ hbelow _ (.inr (.inr rfl)), ?_⟩
    intro other hother
    obtain rfl : slot' = other := some.inj (hslot'.symm.trans hother)
    exact hstatus.symm.trans hkept
  rintro ⟨hbelow, hflag⟩
  exact ⟨⟨slot, hslot, hstatus.trans (hflag slot hslot)⟩,
    fun i hi => trackIndex_below (hframe ▸ hbelow) hi⟩

end Calls

def oneSlot : SwapArea :=
  (swapBootstrap (powerOn ⟨0#32, 0#32⟩).swap).setTrack 5 ⟨6#32, 1#32, 0x400000#32, true⟩

def oneSwappedPage (frame : Word) : State :=
  (((powerOn ⟨frame * 4096#32, 0x20000000#32⟩).setCoremap
    (coremapBootstrap ⟨frame * 4096#32, 0x20000000#32⟩)).setSwap oneSlot).setPageTable
    (pageTableInit (fun _ => ⟨0#32, 0#32, 0#32, 0#32, 0⟩) 131072)

section OneSwappedPage

variable {frame : Word}

lemma oneSlot_slotOf : oneSlot.slotOf 1#32 0x400000#32 = some 5 := by
  decide +kernel

section

variable (hroom : ¬ 0x20000000#32 < frame * 4096#32 + 4096#32)

include hroom

lemma oneSwappedPage_nextPaddr :
    (oneSwappedPage frame).nextPaddr = frame * 4096#32 := by
  have hfree : (oneSwappedPage frame).coremap.lowestFree = none := by
    simp [oneSwappedPage, Coremap.lowestFree, coremapBootstrap]
  have hram : (oneSwappedPage frame).ram = ⟨frame * 4096#32, 0x20000000#32⟩ := rfl
  simp only [nextPaddr, hfree, hram, getD_none, Nat.zero_mul, ne_eq,
    not_true_eq_false, if_false, if_neg hroom]

section

variable (hne : frame * 4096#32 ≠ 0#32)

include hne

lemma oneSwappedPage_fresh :
    ¬ (oneSwappedPage frame).evicts 0 := by
  rintro (hmax | hzero)
  · have hmax' : (0 : Int) = 50 := hmax
    omega
  · exact hne ((oneSwappedPage_nextPaddr hroom).symm.trans hzero)

lemma oneSwappedPage_incomingFrame :
    (oneSwappedPage frame).incomingFrame 0 1#32 = (frame * 4096#32).toNat / PAGE_SIZE := by
  rw [incomingFrame, if_neg (oneSwappedPage_fresh hroom hne), oneSwappedPage_nextPaddr hroom]

lemma oneSwappedPage_flag (i : Nat) :
    (oneSwappedPage frame).flagAfterEviction 0 1#32 i = (oneSlot.track i).permissionFlag := by
  rw [flagAfterEviction, if_neg fun h => oneSwappedPage_fresh hroom hne h.1]
  rfl

lemma swapIn_oneSwappedPage :
    ∃ t, (swapIn steadyEnv 0 1#32 0x400000#32).run (oneSwappedPage frame) =
      .ok (some (frame * 4096#32)) t := by
  have htake : (takeFrame steadyEnv 0 1#32 false).run
      ((oneSwappedPage frame).acquired steadyEnv .swap) =
        .ok (some ⟨frame * 4096#32, NO_SLOT⟩)
          (((oneSwappedPage frame).acquired steadyEnv .swap).tried false) := by
    refine takeFrame_ok.mpr ⟨fun _ => ⟨fun _ => rfl, fun _ _ => rfl⟩, ?_⟩
    have hpaddr : ((oneSwappedPage frame).acquired steadyEnv .swap).nextPaddr = frame * 4096#32 :=
      oneSwappedPage_nextPaddr hroom
    rw [allocAddr_one, hpaddr, if_pos ⟨rfl, hne⟩]
    exact ⟨rfl, rfl⟩
  have hindex : frameIndex 1#32 < 131072 := by decide
  obtain ⟨t, hinto⟩ : ∃ t, (swapInto steadyEnv 0 1#32 0x400000#32 5 (frame * 4096#32)).run
      (((oneSwappedPage frame).acquired steadyEnv .swap).tried false) = .ok () t :=
    ⟨_, swapInto_ok.mpr ⟨rfl, rfl, hindex, fun _ => rfl, fun _ => rfl, rfl⟩⟩
  exact ⟨t, (swapIn_some_ok (s := oneSwappedPage frame) oneSlot_slotOf).mpr
    ⟨fun _ => rfl, _, _, htake, .inr ⟨_, rfl, hinto, rfl⟩⟩⟩

end

end

end OneSwappedPage

theorem swapIn_permission_same_number :
    ∃ t, (swapIn steadyEnv 0 1#32 0x400000#32).run (oneSwappedPage 5#32) =
        .ok (some (5#32 * 4096#32)) t ∧
      PermissionKept (oneSwappedPage 5#32) t 0 1#32 0x400000#32 (5#32 * 4096#32) := by
  obtain ⟨t, hrun⟩ := @swapIn_oneSwappedPage 5#32 (by decide) (by decide)
  have hframe := @oneSwappedPage_incomingFrame 5#32 (by decide) (by decide)
  refine ⟨t, hrun, (swapIn_permission_iff hrun).mpr ⟨hframe ▸ by decide, ?_⟩⟩
  intro slot hslot
  obtain rfl : slot = 5 := some.inj (hslot.symm.trans oneSlot_slotOf)
  rw [oneSwappedPage_flag (by decide) (by decide), hframe]
  rfl

theorem swapIn_permission_past_track :
    ∃ t, (swapIn steadyEnv 0 1#32 0x400000#32).run (oneSwappedPage 4096#32) =
        .ok (some 0x1000000#32) t ∧
      TrackIndex (oneSwappedPage 4096#32) 0 1#32 0x400000#32 0x1000000#32 4096 ∧
      ¬ 4096 < NUMBERENTRIES ∧
      (oneSwappedPage 4096#32).swap.slotOf 1#32 0x400000#32 = some 5 ∧
      ((oneSwappedPage 4096#32).swap.track 5).permissionFlag = 6#32 ∧
      (t.pageTable.nextEntry (frameIndex 1#32)).status = 0#32 := by
  obtain ⟨t, hrun⟩ := @swapIn_oneSwappedPage 4096#32 (by decide) (by decide)
  obtain ⟨-, -, -, hstatus⟩ := swapIn_some_track hrun
  refine ⟨t, hrun, .inr (.inr rfl), by decide, oneSlot_slotOf, rfl, hstatus.trans ?_⟩
  rw [oneSwappedPage_flag (by decide) (by decide),
    oneSwappedPage_incomingFrame (by decide) (by decide)]
  decide

end Os161.Vm
