import Os161.Vm.Swap

namespace Os161.Vm

open Lib Lib.Exec Lib.Hoare EStateM

@[simp] lemma noteIo_run (s : State) :
    noteIo.run s = .ok () (s.setIoUnderLock (s.ioUnderLock || s.anyHeld)) := rfl

variable {slot as : Nat} {env : Env} {paddr pid vaddr : Word} {s t : State}

lemma writePage_file_other (swap : SwapArea) (mem : Nat → UInt8) (paddr : Word) (hne : i ≠ slot)
    (hk : k < PAGE_SIZE) :
    (swap.writePage slot mem paddr).file (i * PAGE_SIZE + k) = swap.file (i * PAGE_SIZE + k) := by
  simp only [SwapArea.writePage, Bytes.paste_other_block hne hk]

lemma writeSwapPage_ok :
    (writeSwapPage env slot paddr).run s = .ok () t ↔ env.swapWriteError slot = 0#32 ∧
        t = (s.setIoUnderLock (s.ioUnderLock || s.anyHeld)).setSwap
          (s.swap.writePage slot s.mem paddr) := by
  unfold writeSwapPage
  rw [bind_run_ok (noteIo_run s)]
  by_cases he : env.swapWriteError slot = 0#32
  · simp [he, eq_comm]
  · simp [he]

lemma readSwapPage_ok :
    (readSwapPage env slot paddr).run s = .ok () t ↔
      env.swapReadError slot = 0#32 ∧ env.swapReadResid slot = 0 ∧
        t = (s.setIoUnderLock (s.ioUnderLock || s.anyHeld)).loadPage slot paddr := by
  unfold readSwapPage
  rw [bind_run_ok (noteIo_run s)]
  by_cases he : env.swapReadError slot = 0#32
  · by_cases hr : env.swapReadResid slot = 0
    · simp [he, hr, eq_comm]
    · simp [he, hr]
  · simp [he]

@[simps -fullyApplied]
def State.swappedOut (env : Env) (pid vaddr permissionFlag paddr : Word) (slot : Nat) (s : State) :
    State :=
  { s with
    swap := (s.swap.writePage slot s.mem paddr).setTrack slot ⟨permissionFlag, pid, vaddr, true⟩
    pageTable := s.pageTable.resetEntry (paddr.toNat / PAGE_SIZE : Nat)
    stats := s.stats.countPageFaultsSwapout
    ioUnderLock := s.ioUnderLock || (s.acquired env .swap).anyHeld }

lemma swapOut_ok :
    (swapOut env pid vaddr permissionFlag paddr).run s = .ok () t ↔
      vaddr < MIPS_KSEG0 ∧ Available env .swap s ∧
        (Available env .table s ∧ paddr.toNat / PAGE_SIZE < s.pageTable.length) ∧
        ∃ slot, s.swap.freeSlot = some slot ∧ env.swapWriteError slot = 0#32 ∧
          t = s.swappedOut env pid vaddr permissionFlag paddr slot := by
  unfold swapOut
  by_cases hv : MIPS_KSEG0 ≤ vaddr
  · simp [hv, BitVec.not_lt.mpr hv]
  rw [if_neg hv]
  have hlt : vaddr < MIPS_KSEG0 := BitVec.not_le.mp hv
  by_cases hswap : Available env .swap s
  swap
  · simp [hswap, bind_run_error (spinlockAcquire_run env .swap s ▸ if_neg hswap)]
  rw [bind_run_ok (spinlockAcquire_ok.mpr ⟨hswap, rfl⟩), bind_run_ok (run_get _)]
  cases hslot : s.swap.freeSlot with
  | none => simp [hslot]
  | some slot =>
    simp only [State.acquired_swap, hslot, Option.some.injEq]
    by_cases he : env.swapWriteError slot = 0#32
    swap
    · constructor
      · intro h
        obtain ⟨_, u, hwrite, -⟩ := bind_ok.mp h
        exact absurd (writeSwapPage_ok.mp hwrite).1 he
      · rintro ⟨-, -, -, _, rfl, hok, -⟩
        exact absurd hok he
    rw [bind_run_ok (writeSwapPage_ok.mpr ⟨he, rfl⟩), bind_run_ok (run_modify ..), bind_ok]
    constructor
    · rintro ⟨_, u, hrelease, h⟩
      obtain rfl := (spinlockRelease_acquired_ok hswap (by rfl)).mp hrelease
      obtain ⟨_, u, hreset, hcount⟩ := bind_ok.mp h
      obtain ⟨htable, rfl⟩ := pageTableResetEntry_ok.mp hreset
      injection hcount with _ ht
      exact ⟨hlt, hswap, ⟨htable.1, Int.ofNat_lt.mp htable.2.2⟩, slot, rfl, he, ht.symm⟩
    rintro ⟨-, -, htable, _, rfl, -, rfl⟩
    refine ⟨_, _, (spinlockRelease_acquired_ok hswap (by rfl)).mpr rfl, ?_⟩
    rw [bind_ok]
    exact ⟨_, _, pageTableResetEntry_ok.mpr
      ⟨⟨htable.1, Int.natCast_nonneg _, Int.ofNat_lt.mpr htable.2⟩, rfl⟩, rfl⟩

lemma replacement_frame_lt {table : Table} (h : table.replacement pid ≠ -1) :
    (frameAddr (table.replacement pid)).toNat / PAGE_SIZE < table.length := by
  unfold Table.replacement at h ⊢
  split at h
  · rename_i i hfind
    have hlt : i < table.length := List.mem_range.mp (List.mem_of_find?_eq_some hfind)
    rw [frameAddr, BitVec.toNat_ofInt]
    simp only [PAGE_SIZE]
    omega
  · exact absurd rfl h

lemma evict_ok :
    (evict env as pid).run s = .ok result t ↔
      (s.pageTable.replacement pid = -1 ∧ result = none ∧ t = s) ∨
      (s.pageTable.replacement pid ≠ -1 ∧ result = some ⟨frameAddr (s.pageTable.replacement pid),
          s.pageTable.statusOnIndex (s.pageTable.replacement pid)⟩ ∧
        ∃ u, (swapOut env pid (s.pageTable.nextEntry (s.pageTable.replacement pid)).vaddr
            (s.pageTable.nextEntry (s.pageTable.replacement pid)).permissionFlag
            (frameAddr (s.pageTable.replacement pid))).run s = .ok () u ∧
          t = u.addAllocated as (-1)) := by
  unfold evict
  rw [bind_run_ok (run_get s)]
  by_cases hindex : s.pageTable.replacement pid = -1
  · simp [hindex, eq_comm]
  simp only [hindex, if_false, false_and, false_or, ne_eq, not_false_eq_true, true_and]
  rw [bind_ok]
  constructor
  · rintro ⟨_, u, hswap, h⟩
    injection h with hresult ht
    exact ⟨hresult.symm, u, hswap, ht.symm⟩
  · rintro ⟨rfl, u, hswap, rfl⟩
    exact ⟨(), u, hswap, rfl⟩

def State.tried (s : State) (full : Bool) : State :=
  if full then s
  else (s.setCoremap (allocCoremap s.coremap s.ram 1#32)).setRam (allocRam s.coremap s.ram 1#32)

section Tried

variable (s : State) (full : Bool)

@[simp] lemma tried_pageTable : (s.tried full).pageTable = s.pageTable := by
  cases full <;> rfl

@[simp] lemma tried_swap : (s.tried full).swap = s.swap := by
  cases full <;> rfl

@[simp] lemma tried_tlb : (s.tried full).tlb = s.tlb := by
  cases full <;> rfl

@[simp] lemma tried_stats : (s.tried full).stats = s.stats := by
  cases full <;> rfl

@[simp] lemma tried_mem : (s.tried full).mem = s.mem := by
  cases full <;> rfl

end Tried

def MemoryAvailable (env : Env) (s : State) : Prop :=
  Available env .freemem s ∧ ((s.coremap.recycle 1#32).1 = 0#32 → Available env .stealmem s)

lemma takeFrame_ok :
    (takeFrame env as pid full).run s = .ok result t ↔
      (full = false → MemoryAvailable env s) ∧
        if full = false ∧ allocAddr s.coremap s.ram 1#32 ≠ 0#32 then
          result = some ⟨allocAddr s.coremap s.ram 1#32, NO_SLOT⟩ ∧ t = s.tried full
        else (evict env as pid).run (s.tried full) = .ok result t := by
  unfold takeFrame
  cases full with
  | true => simp [State.tried]
  | false =>
    simp only [Bool.false_eq_true, if_false, true_and, true_imp_iff, State.tried]
    rw [bind_ok]
    constructor
    · rintro ⟨paddr, u, hget, h⟩
      obtain ⟨hfree, hsteal, rfl, rfl⟩ := getppages_ok.mp hget
      refine ⟨⟨hfree, hsteal⟩, ?_⟩
      by_cases hzero : allocAddr s.coremap s.ram 1#32 = 0#32
      · simpa only [hzero, if_true, ne_eq, not_true_eq_false, if_false] using h
      simp only [hzero, if_false, ne_eq, not_false_eq_true, if_true] at h ⊢
      injection h with hresult ht
      exact ⟨hresult.symm, ht.symm⟩
    rintro ⟨⟨hfree, hsteal⟩, h⟩
    refine ⟨_, _, getppages_ok.mpr ⟨hfree, hsteal, rfl, rfl⟩, ?_⟩
    by_cases hzero : allocAddr s.coremap s.ram 1#32 = 0#32
    · simpa only [hzero, if_true, ne_eq, not_true_eq_false, if_false] using h
    simp only [hzero, if_false, ne_eq, not_false_eq_true, if_true] at h ⊢
    obtain ⟨rfl, rfl⟩ := h
    rfl

section Rules

variable {P : State → Prop} {Q : Option Frame → State → Prop}

lemma evict_triple (hnone : ∀ s, P s → s.pageTable.replacement pid = -1 → Q none s)
    (hsome : ∀ s vaddr permissionFlag slot frame, P s → Q (some frame)
      ((s.swappedOut env pid vaddr permissionFlag frame.paddr slot).addAllocated as (-1))) :
    Triple P (evict env as pid) Q := by
  intro s result t hs hrun
  rcases evict_ok.mp hrun with ⟨hvictim, rfl, rfl⟩ | ⟨-, rfl, u, hout, rfl⟩
  · exact hnone _ hs hvictim
  · obtain ⟨-, -, -, slot, -, -, rfl⟩ := swapOut_ok.mp hout
    exact hsome _ _ _ slot ⟨_, _⟩ hs

lemma takeFrame_triple (htried : ∀ s, P s → P (s.tried full))
    (hfresh : ∀ s paddr, P s → Q (some ⟨paddr, NO_SLOT⟩) s)
    (hevict : Triple P (evict env as pid) Q) : Triple P (takeFrame env as pid full) Q := by
  intro s result t hs hrun
  obtain ⟨-, hcase⟩ := takeFrame_ok.mp hrun
  split at hcase
  · obtain ⟨rfl, rfl⟩ := hcase
    exact hfresh _ _ (htried s hs)
  · exact hevict _ result t (htried s hs) hcase

end Rules

@[simps -fullyApplied]
def State.swappedIn (as : Nat) (pid vaddr : Word) (slot : Nat) (paddr : Word) (s : State) : State :=
  { s with
    addrspaces := Function.update s.addrspaces as ((s.addrspaces as).addAllocated 1)
    mem := Bytes.paste (zeroPage s.mem paddr) paddr.toNat PAGE_SIZE
      (fun i => s.swap.file (slot * PAGE_SIZE + i))
    swap := s.swap.release slot
    pageTable := s.pageTable.addEntry vaddr paddr (frameIndex pid)
      ((s.swap.release slot).track (paddr.toNat / PAGE_SIZE)).permissionFlag
    stats := s.stats.countPageFaultsZeroed.countPageFaultsSwapin
    ioUnderLock := s.ioUnderLock || s.anyHeld }

lemma swapInto_ok :
    (swapInto env as pid vaddr slot paddr).run s = .ok () t ↔
      env.swapReadError slot = 0#32 ∧ env.swapReadResid slot = 0 ∧
        frameIndex pid < s.pageTable.length ∧ Available env .table s ∧
        (env.locked = true → s.held .swap = true) ∧
        t = (s.swappedIn as pid vaddr slot paddr).released env .swap := by
  unfold swapInto
  rw [bind_run_ok (run_modify ..), bind_ok]
  constructor
  · rintro ⟨_, u, hread, h⟩
    obtain ⟨herror, hresid, rfl⟩ := readSwapPage_ok.mp hread
    rw [bind_run_ok (run_modify ..), bind_run_ok (run_get _), bind_ok] at h
    obtain ⟨_, u, hadd, h⟩ := h
    obtain ⟨hindex, htable, rfl⟩ := pageTableAddEntry_ok.mp hadd
    rw [bind_run_ok (increment_run ..), spinlockRelease_ok] at h
    exact ⟨herror, hresid, hindex, htable, h.1, h.2⟩
  rintro ⟨herror, hresid, hindex, htable, hheld, rfl⟩
  refine ⟨_, _, readSwapPage_ok.mpr ⟨herror, hresid, rfl⟩, ?_⟩
  rw [bind_run_ok (run_modify ..), bind_run_ok (run_get _), bind_ok]
  refine ⟨_, _, pageTableAddEntry_ok.mpr ⟨hindex, htable, rfl⟩, ?_⟩
  rw [bind_run_ok (increment_run ..), spinlockRelease_ok]
  exact ⟨hheld, rfl⟩

lemma swapIn_none_ok
    (hslot : s.swap.slotOf pid vaddr = none) :
    (swapIn env as pid vaddr).run s = .ok result t ↔
      Available env .swap s ∧ result = none ∧ t = s := by
  have hslot' : (s.acquired env .swap).swap.slotOf pid vaddr = none := hslot
  unfold swapIn
  rw [bind_ok]
  constructor
  · rintro ⟨_, u, hacquire, h⟩
    obtain ⟨ha, rfl⟩ := spinlockAcquire_ok.mp hacquire
    rw [bind_run_ok (run_get _)] at h
    simp only [hslot'] at h
    obtain ⟨_, u, hrelease, h⟩ := bind_ok.mp h
    obtain rfl := (spinlockRelease_acquired_ok ha (by rfl)).mp hrelease
    injection h with hresult ht
    exact ⟨ha, hresult.symm, ht.symm⟩
  rintro ⟨ha, rfl, rfl⟩
  refine ⟨_, _, spinlockAcquire_ok.mpr ⟨ha, rfl⟩, ?_⟩
  rw [bind_run_ok (run_get _)]
  simp only [hslot']
  rw [bind_ok]
  exact ⟨_, _, (spinlockRelease_acquired_ok ha (by rfl)).mpr rfl, rfl⟩

lemma swapIn_some_ok
    (hslot : s.swap.slotOf pid vaddr = some slot) :
    (swapIn env as pid vaddr).run s = .ok result t ↔ Available env .swap s ∧
        ∃ frame u, (takeFrame env as pid
            ((s.addrspaces as).allocatedPages = MAX_ALLOCATED_PAGES)).run (s.acquired env .swap) =
              .ok frame u ∧
          ((frame = none ∧ result = none ∧ t = u) ∨
            ∃ f, frame = some f ∧ (swapInto env as pid vaddr slot f.paddr).run u = .ok () t ∧
              result = some f.paddr) := by
  have hslot' : (s.acquired env .swap).swap.slotOf pid vaddr = some slot := hslot
  unfold swapIn
  rw [bind_ok]
  constructor
  · rintro ⟨_, u, hacquire, h⟩
    obtain ⟨ha, rfl⟩ := spinlockAcquire_ok.mp hacquire
    rw [bind_run_ok (run_get _)] at h
    simp only [hslot'] at h
    obtain ⟨frame, u, htake, h⟩ := bind_ok.mp h
    refine ⟨ha, frame, u, htake, ?_⟩
    cases frame with
    | none =>
      injection h with hresult ht
      exact .inl ⟨rfl, hresult.symm, ht.symm⟩
    | some f =>
      obtain ⟨_, v, hinto, h⟩ := bind_ok.mp h
      injection h with hresult ht
      exact .inr ⟨f, rfl, ht ▸ hinto, hresult.symm⟩
  rintro ⟨ha, frame, u, htake, h⟩
  refine ⟨_, _, spinlockAcquire_ok.mpr ⟨ha, rfl⟩, ?_⟩
  rw [bind_run_ok (run_get _)]
  simp only [hslot']
  rw [bind_ok]
  refine ⟨frame, u, htake, ?_⟩
  rcases h with ⟨rfl, rfl, rfl⟩ | ⟨f, rfl, hinto, rfl⟩
  · rfl
  · exact bind_ok.mpr ⟨_, _, hinto, rfl⟩

lemma slotOf_swapBootstrap (swap : SwapArea) (pid vaddr : Word) :
    (swapBootstrap swap).slotOf pid vaddr = none := by
  refine List.find?_range_eq_none.mpr fun i hi => ?_
  simp [swapBootstrap, hi]

lemma freeSlot_swapBootstrap (swap : SwapArea) : (swapBootstrap swap).freeSlot = some 0 := by
  refine List.find?_range_eq_some.mpr ⟨rfl, List.mem_range.mpr (by decide), ?_⟩
  intro j hj
  omega

end Os161.Vm
