import Os161.Lib.Run
import Os161.Lib.SlotStore
import Os161.Vm.Swap.Lemmas

namespace Os161.Vm

open Function Lib Lib.Exec Lib.SlotStore List Option SwapArea

abbrev Key := Word × Word
abbrev Page := Fin PAGE_SIZE → UInt8
abbrev Pages := Key → Option Page

def pageAt (bytes : Nat → UInt8) (base : Nat) : Page := fun i => bytes (base + i)

lemma pageAt_paste_self (bytes : Nat → UInt8) (base : Nat) (f : Nat → UInt8) :
    pageAt (Bytes.paste bytes base PAGE_SIZE f) base = (fun i : Fin PAGE_SIZE => f i) := by
  funext k
  exact Bytes.paste_inside k.isLt

variable {i j : Nat}

lemma pageAt_paste_other (bytes : Nat → UInt8) (hne : j ≠ i) (f : Nat → UInt8) :
    pageAt (Bytes.paste bytes (i * PAGE_SIZE) PAGE_SIZE f) (j * PAGE_SIZE) =
      pageAt bytes (j * PAGE_SIZE) := by
  funext k
  exact Bytes.paste_other_block hne k.isLt

def SwapArea.slots (swap : SwapArea) (i : Nat) : Option (Key × Page) :=
  if (swap.track i).valid then
    some (((swap.track i).pid, (swap.track i).vaddr), pageAt swap.file (i * PAGE_SIZE))
  else none

section Slots

variable {swap : SwapArea}

lemma slots_put (slot : Nat) (mem : Nat → UInt8) (pid vaddr permissionFlag paddr : Word) :
    ((swap.writePage slot mem paddr).setTrack slot ⟨permissionFlag, pid, vaddr, true⟩).slots =
      update swap.slots slot (some ((pid, vaddr), pageAt mem paddr.toNat)) := by
  funext i
  by_cases hi : i = slot
  · subst hi
    rw [update_self]
    have hpage : pageAt (swap.writePage i mem paddr).file (i * PAGE_SIZE) =
        pageAt mem paddr.toNat := by
      rw [writePage, pageAt_paste_self]
      rfl
    simp [slots, setTrack, hpage]
  rw [update_of_ne hi]
  have hpage : pageAt (swap.writePage slot mem paddr).file (i * PAGE_SIZE) =
      pageAt swap.file (i * PAGE_SIZE) := by
    rw [writePage, pageAt_paste_other swap.file hi]
  simp only [slots, setTrack, update_of_ne hi, hpage]
  rfl

lemma slots_release (slot : Nat) :
    (swap.release slot).slots = update swap.slots slot none := by
  funext i
  by_cases hi : i = slot
  · subst hi
    simp [slots, release, setTrack]
  · rw [update_of_ne hi]
    simp [slots, release, setTrack, update_of_ne hi]

lemma slots_removePid (pid : Word) (hi : i < NUMBERENTRIES) :
    (swap.removePid pid).slots i = (swap.slots i).filter (fun x => ¬ x.1.1 = pid) := by
  unfold slots removePid
  by_cases hv : (swap.track i).valid = true
  · by_cases hp : (swap.track i).pid = pid
    · simp [hi, hv, hp, Option.filter]
    · simp [hi, hv, hp, Option.filter]
  · simp [hv]

lemma freeSlot_some (h : swap.freeSlot = some slot) :
    slot < NUMBERENTRIES ∧ swap.slots slot = none := by
  obtain ⟨hp, hmem, -⟩ := find?_range_eq_some.mp h
  exact ⟨mem_range.mp hmem, by simpa [slots] using hp⟩

lemma slotOf_some (h : swap.slotOf pid vaddr = some slot) : slot < NUMBERENTRIES ∧
      swap.slots slot = some ((pid, vaddr), pageAt swap.file (slot * PAGE_SIZE)) := by
  obtain ⟨hp, hmem, -⟩ := find?_range_eq_some.mp h
  simp only [Bool.and_eq_true, decide_eq_true_eq] at hp
  obtain ⟨⟨rfl, rfl⟩, hvalid⟩ := hp
  exact ⟨mem_range.mp hmem, by simp [slots, hvalid]⟩

lemma slotOf_none (h : swap.slotOf pid vaddr = none)
    (hi : i < NUMBERENTRIES) (page : Page) : swap.slots i ≠ some ((pid, vaddr), page) := by
  intro hslot
  have hno := find?_range_eq_none.mp h i hi
  unfold slots at hslot
  split at hslot
  · rename_i hvalid
    simp only [some.injEq, Prod.mk.injEq] at hslot
    obtain ⟨⟨hpid, hvaddr⟩, -⟩ := hslot
    simp [hvalid, hpid, hvaddr] at hno
  · simp at hslot

end Slots

def State.needsVictim (s : State) (as : Nat) : Prop :=
  (s.addrspaces as).allocatedPages = MAX_ALLOCATED_PAGES ∨
    allocAddr s.coremap s.ram 1#32 = 0#32

instance (s : State) (as : Nat) : Decidable (s.needsVictim as) :=
  inferInstanceAs (Decidable (_ ∨ _))

lemma fresh_of_not_needsVictim {s : State} (h : ¬ s.needsVictim as) :
    decide ((s.addrspaces as).allocatedPages = MAX_ALLOCATED_PAGES) = false ∧
      allocAddr s.coremap s.ram 1#32 ≠ 0#32 := by
  unfold State.needsVictim at h
  push Not at h
  simpa using h

def State.victimKey (s : State) (pid : Word) : Key :=
  (pid, (s.pageTable.nextEntry (s.pageTable.replacement pid)).vaddr)

def Pages.evicted (store : Pages) (s : State) (as : Nat) (pid : Word) : Pages :=
  if s.needsVictim as then
    update store (s.victimKey pid)
      (some (pageAt s.mem (frameAddr (s.pageTable.replacement pid)).toNat))
  else store

def VictimReady (s : State) (as : Nat) (pid : Word) (store : Pages) : Prop :=
  s.needsVictim as → s.pageTable.replacement pid ≠ -1 ∧ store (s.victimKey pid) = none

-- Only the swap area is carried from call to call: everything else may have changed in between.
-- The store is what the calls have put in it.
inductive SwapStep (env : Env) : SwapArea × Pages → SwapArea × Pages → Prop
  | out {s t : State} {store : Pages} {pid vaddr permissionFlag paddr : Word}
      (hnew : store (pid, vaddr) = none)
      (hrun : (swapOut env pid vaddr permissionFlag paddr).run s = .ok () t) :
      SwapStep env (s.swap, store)
        (t.swap, update store (pid, vaddr) (some (pageAt s.mem paddr.toNat)))
  | inHeld {s t : State} {store : Pages} {as : Nat} {pid vaddr : Word} {page : Page}
      {result : Option Word} (hheld : store (pid, vaddr) = some page)
      (hready : VictimReady s as pid store)
      (hrun : (swapIn env as pid vaddr).run s = .ok result t) :
      SwapStep env (s.swap, store)
        (t.swap, update (store.evicted s as pid) (pid, vaddr) none)
  | inAbsent {s t : State} {store : Pages} {as : Nat} {pid vaddr : Word} {result : Option Word}
      (habsent : store (pid, vaddr) = none)
      (hrun : (swapIn env as pid vaddr).run s = .ok result t) :
      SwapStep env (s.swap, store) (t.swap, store)
  | remove {s t : State} {store : Pages} {pid : Word}
      (hrun : (swapRemovePid pid).run s = .ok () t) :
      SwapStep env (s.swap, store) (t.swap, fun key => if key.1 = pid then none else store key)

abbrev Holds (swap : SwapArea) (store : Pages) : Prop :=
  Represents NUMBERENTRIES swap.slots store

lemma holds_swapBootstrap (swap : SwapArea) : Holds (swapBootstrap swap) (fun _ => none) :=
  represents_empty fun i hi => by simp [slots, swapBootstrap, hi]

section Calls

variable {env : Env} {s t : State} {store : Pages} {as : Nat} {pid vaddr : Word}

lemma holds_swapOut (h : Holds s.swap store)
    (hnew : store (pid, vaddr) = none)
    (hrun : (swapOut env pid vaddr permissionFlag paddr).run s = .ok () t) :
    Holds t.swap (update store (pid, vaddr) (some (pageAt s.mem paddr.toNat))) := by
  obtain ⟨-, -, -, slot, hslot, -, rfl⟩ := swapOut_ok.mp hrun
  obtain ⟨hlt, hempty⟩ := freeSlot_some hslot
  have hput := h.put (pageAt s.mem paddr.toNat) hlt hempty hnew
  rwa [← slots_put slot s.mem pid vaddr permissionFlag paddr] at hput

lemma slots_swapOut (hslot : s.swap.slots slot = some x)
    (hrun : (swapOut env pid vaddr permissionFlag paddr).run s = .ok () t) :
    t.swap.slots slot = some x := by
  obtain ⟨-, -, -, used, hused, -, rfl⟩ := swapOut_ok.mp hrun
  have hne : slot ≠ used := by
    rintro rfl
    simp [(freeSlot_some hused).2] at hslot
  change ((s.swap.writePage used s.mem paddr).setTrack used _).slots slot = _
  rw [slots_put, update_of_ne hne, hslot]

lemma holds_swapIn_absent (hl : env.locked = false) (h : Holds s.swap store)
    (habsent : store (pid, vaddr) = none) :
    (swapIn env as pid vaddr).run s = .ok none s := by
  have hnone : s.swap.slotOf pid vaddr = none := by
    rw [eq_none_iff_forall_not_mem]
    intro slot hslot
    obtain ⟨hlt, hpage⟩ := slotOf_some hslot
    exact h.absent.mp habsent slot hlt _ hpage
  exact (swapIn_none_ok hnone).mpr ⟨available_unlocked hl .swap s, rfl, rfl⟩

lemma holds_slotOf (h : Holds s.swap store)
    (hheld : store (pid, vaddr) = some page) :
    ∃ slot, s.swap.slotOf pid vaddr = some slot ∧ slot < NUMBERENTRIES ∧
      s.swap.slots slot = some ((pid, vaddr), page) := by
  cases hslot : s.swap.slotOf pid vaddr with
  | none =>
    obtain ⟨i, hi, hpage⟩ := h.stored.mp hheld
    exact absurd hpage (slotOf_none hslot hi page)
  | some slot =>
    obtain ⟨hlt, hpage⟩ := slotOf_some hslot
    have hstored := h.lookup hlt hpage
    rw [hheld, some.injEq] at hstored
    exact ⟨slot, rfl, hlt, hstored ▸ hpage⟩

lemma holds_takeFrame (h : Holds s.swap store) (hready : VictimReady s as pid store)
    (hrun : (takeFrame env as pid
      ((s.addrspaces as).allocatedPages = MAX_ALLOCATED_PAGES)).run s = .ok frame t) :
    frame ≠ none ∧ Holds t.swap (store.evicted s as pid) ∧
      ∀ slot x, s.swap.slots slot = some x → t.swap.slots slot = some x := by
  obtain ⟨-, hcase⟩ := takeFrame_ok.mp hrun
  by_cases hneed : s.needsVictim as
  · have hno : ¬ (decide ((s.addrspaces as).allocatedPages = MAX_ALLOCATED_PAGES) = false ∧
        allocAddr s.coremap s.ram 1#32 ≠ 0#32) := by
      rcases hneed with hfull | hzero
      · simp [hfull]
      · simp [hzero]
    rw [if_neg hno] at hcase
    obtain ⟨hvictim, hnew⟩ := hready hneed
    have htable := tried_pageTable s ((s.addrspaces as).allocatedPages = MAX_ALLOCATED_PAGES)
    have hswap := tried_swap s ((s.addrspaces as).allocatedPages = MAX_ALLOCATED_PAGES)
    rcases evict_ok.mp hcase with ⟨hnone, -, -⟩ | ⟨-, rfl, u, hout, rfl⟩
    · exact absurd (htable ▸ hnone) hvictim
    refine ⟨by simp, ?_, ?_⟩
    · rw [htable] at hout
      have hput := holds_swapOut (hswap.symm ▸ h) hnew hout
      rw [tried_mem] at hput
      unfold Pages.evicted
      rw [if_pos hneed]
      exact hput
    intro slot x hslot
    have hkept : u.swap.slots slot = some x := slots_swapOut (hswap.symm ▸ hslot) hout
    exact hkept
  have hyes := fresh_of_not_needsVictim hneed
  rw [if_pos hyes] at hcase
  obtain ⟨rfl, rfl⟩ := hcase
  unfold Pages.evicted State.tried
  rw [if_neg hneed, hyes.1]
  exact ⟨by simp, h, fun _ _ hslot => hslot⟩

lemma holds_swapIn_held (hl : env.locked = false) (h : Holds s.swap store)
    (hheld : store (pid, vaddr) = some page) (hready : VictimReady s as pid store)
    (hrun : (swapIn env as pid vaddr).run s = .ok result t) :
    ∃ paddr, result = some paddr ∧ pageAt t.mem paddr.toNat = page ∧
      Holds t.swap (update (store.evicted s as pid) (pid, vaddr) none) := by
  obtain ⟨slot, hslot, hlt, hpage⟩ := holds_slotOf h hheld
  obtain ⟨-, frame, u, htake, hcase⟩ := (swapIn_some_ok hslot).mp hrun
  rw [acquired_unlocked hl] at htake
  obtain ⟨hsome, hu, hkeep⟩ := holds_takeFrame h hready htake
  have hpage' := hkeep slot _ hpage
  rcases hcase with ⟨hnone, -⟩ | ⟨f, -, hinto, rfl⟩
  · exact absurd hnone hsome
  obtain ⟨-, -, -, -, -, rfl⟩ := swapInto_ok.mp hinto
  rw [released_unlocked hl]
  refine ⟨f.paddr, rfl, ?_, ?_⟩
  · -- the slot still holds the page when it is read over the zeroed frame
    have hbytes : pageAt u.swap.file (slot * PAGE_SIZE) = page := by
      unfold slots at hpage'
      split at hpage'
      · simp only [some.injEq, Prod.mk.injEq] at hpage'
        exact hpage'.2
      · simp at hpage'
    rw [← hbytes, State.swappedIn_mem, pageAt_paste_self]
    rfl
  · have htaken := hu.take hlt hpage'
    rwa [← slots_release] at htaken

lemma holds_swapRemovePid (h : Holds s.swap store)
    (hrun : (swapRemovePid pid).run s = .ok () t) :
    Holds t.swap (fun key => if key.1 = pid then none else store key) := by
  obtain rfl : s.setSwap (s.swap.removePid pid) = t := by
    injection hrun with _ ht
  exact (h.remove (fun key : Key => key.1 = pid)).congr fun i hi => slots_removePid pid hi

lemma keepsOthers_swapOut
    (hrun : (swapOut env pid vaddr permissionFlag paddr).run s = .ok () t) :
    KeepsOthers (· = (pid, vaddr)) s.swap.slots t.swap.slots := by
  obtain ⟨-, -, -, slot, hslot, -, rfl⟩ := swapOut_ok.mp hrun
  change KeepsOthers _ _ ((s.swap.writePage slot s.mem paddr).setTrack slot _).slots
  rw [slots_put]
  refine keepsOthers_update ?_ ?_
  · intro k v h
    simp [(freeSlot_some hslot).2] at h
  intro k v h
  simp only [some.injEq, Prod.mk.injEq] at h
  exact h.1.symm

def Touched (s : State) (as : Nat) (pid vaddr : Word) (key : Key) : Prop :=
  key = (pid, vaddr) ∨ (s.needsVictim as ∧ key = s.victimKey pid)

lemma keepsOthers_takeFrame (vaddr : Word)
    (hrun : (takeFrame env as pid
      ((s.addrspaces as).allocatedPages = MAX_ALLOCATED_PAGES)).run s = .ok frame t) :
    KeepsOthers (Touched s as pid vaddr) s.swap.slots t.swap.slots := by
  have hsame : KeepsOthers (Touched s as pid vaddr) s.swap.slots s.swap.slots :=
    fun _ _ _ _ => Iff.rfl
  obtain ⟨-, hcase⟩ := takeFrame_ok.mp hrun
  split at hcase
  · obtain ⟨-, rfl⟩ := hcase
    rw [tried_swap]
    exact hsame
  rename_i hno
  have hneed : s.needsVictim as := by
    by_contra hneed
    exact hno (fresh_of_not_needsVictim hneed)
  rcases evict_ok.mp hcase with ⟨-, -, rfl⟩ | ⟨-, -, u, hout, rfl⟩
  · rw [tried_swap]
    exact hsame
  have hkeep : KeepsOthers _ (s.tried _).swap.slots u.swap.slots := keepsOthers_swapOut hout
  rw [tried_swap, tried_pageTable] at hkeep
  intro i key page hkey
  exact hkeep i key page fun heq => hkey (.inr ⟨hneed, heq⟩)

lemma keepsOthers_swapIn (hl : env.locked = false)
    (hrun : (swapIn env as pid vaddr).run s = .ok result t) :
    KeepsOthers (Touched s as pid vaddr) s.swap.slots t.swap.slots := by
  cases hslot : s.swap.slotOf pid vaddr with
  | none =>
    obtain ⟨-, -, rfl⟩ := (swapIn_none_ok hslot).mp hrun
    exact fun _ _ _ _ => Iff.rfl
  | some slot =>
    obtain ⟨-, frame, u, htake, hcase⟩ := (swapIn_some_ok hslot).mp hrun
    rw [acquired_unlocked hl] at htake
    have hkeep := keepsOthers_takeFrame vaddr htake
    rcases hcase with ⟨-, -, rfl⟩ | ⟨f, -, hinto, -⟩
    · exact hkeep
    obtain ⟨-, -, -, -, -, rfl⟩ := swapInto_ok.mp hinto
    rw [released_unlocked hl]
    refine hkeep.trans ?_
    change KeepsOthers _ _ (u.swap.release slot).slots
    rw [slots_release]
    refine keepsOthers_update ?_ (by simp)
    -- the slot that is released still has the key it was found by
    intro key page h
    by_contra hkey
    have hback := (hkeep slot key page hkey).mpr h
    rw [(slotOf_some hslot).2, some.injEq, Prod.mk.injEq] at hback
    exact hkey (.inl hback.1.symm)

lemma keepsOthers_swapRemovePid (hrun : (swapRemovePid pid).run s = .ok () t)
    (hi : i < NUMBERENTRIES) (hkey : key.1 ≠ pid) (page : Page) :
    s.swap.slots i = some (key, page) ↔ t.swap.slots i = some (key, page) := by
  obtain rfl : s.setSwap (s.swap.removePid pid) = t := by
    injection hrun with _ ht
  change _ ↔ (s.swap.removePid pid).slots i = _
  rw [slots_removePid pid hi, filter_eq_some_iff]
  simp [hkey]

-- What a swap_in needs to come back: the transfers succeed, the assertion of page_table_add_entry
-- holds, and a victim can be written out.
structure Servable (env : Env) (s : State) (as : Nat) (pid : Word) : Prop where
  reads : ∀ slot, env.swapReadError slot = 0#32 ∧ env.swapReadResid slot = 0
  writes : ∀ slot, env.swapWriteError slot = 0#32
  recorded : frameIndex pid < s.pageTable.length
  victim : s.needsVictim as →
    s.pageTable.replacement pid ≠ -1 ∧ (s.victimKey pid).2 < MIPS_KSEG0 ∧ s.swap.freeSlot ≠ none

lemma swapOut_returns (pid : Word) (hl : env.locked = false)
    (hwrite : ∀ slot, env.swapWriteError slot = 0#32)
    (huser : vaddr < MIPS_KSEG0) (hfree : s.swap.freeSlot ≠ none) (permissionFlag : Word)
    (hindex : paddr.toNat / PAGE_SIZE < s.pageTable.length) :
    ∃ t, (swapOut env pid vaddr permissionFlag paddr).run s = .ok () t ∧
      t.pageTable.length = s.pageTable.length := by
  obtain ⟨slot, hslot⟩ := ne_none_iff_exists'.mp hfree
  exact ⟨_, swapOut_ok.mpr ⟨huser, available_unlocked hl _ _, ⟨available_unlocked hl _ _, hindex⟩,
    slot, hslot, hwrite slot, rfl⟩, rfl⟩

lemma takeFrame_returns (as : Nat) (hl : env.locked = false)
    (hwrite : ∀ slot, env.swapWriteError slot = 0#32)
    (full : Bool)
    (hvictim : ¬ (full = false ∧ allocAddr s.coremap s.ram 1#32 ≠ 0#32) →
      s.pageTable.replacement pid ≠ -1 ∧ (s.victimKey pid).2 < MIPS_KSEG0 ∧
        s.swap.freeSlot ≠ none) :
    ∃ f t, (takeFrame env as pid full).run s = .ok (some f) t ∧
      t.pageTable.length = s.pageTable.length := by
  have hmemory : MemoryAvailable env s :=
    ⟨available_unlocked hl _ _, fun _ => available_unlocked hl _ _⟩
  have htable := tried_pageTable s full
  by_cases hfresh : full = false ∧ allocAddr s.coremap s.ram 1#32 ≠ 0#32
  · refine ⟨⟨allocAddr s.coremap s.ram 1#32, NO_SLOT⟩, s.tried full, ?_, by rw [htable]⟩
    rw [takeFrame_ok, if_pos hfresh]
    exact ⟨fun _ => hmemory, rfl, rfl⟩
  obtain ⟨hfound, huser, hfree⟩ := hvictim hfresh
  obtain ⟨u, hout, hlength⟩ := swapOut_returns pid hl hwrite huser
    (show (s.tried full).swap.freeSlot ≠ none from (tried_swap s full).symm ▸ hfree)
    (s.pageTable.nextEntry (s.pageTable.replacement pid)).permissionFlag
    (show (frameAddr (s.pageTable.replacement pid)).toNat / PAGE_SIZE <
      (s.tried full).pageTable.length from htable.symm ▸ replacement_frame_lt hfound)
  refine ⟨⟨frameAddr (s.pageTable.replacement pid), s.pageTable.statusOnIndex
    (s.pageTable.replacement pid)⟩, u.addAllocated as (-1), ?_, hlength.trans (by rw [htable])⟩
  rw [takeFrame_ok, if_neg hfresh, evict_ok, htable]
  exact ⟨fun _ => hmemory, .inr ⟨hfound, rfl, u, hout, rfl⟩⟩

lemma swapIn_returns (hl : env.locked = false) (h : Servable env s as pid) :
    ∃ result t, (swapIn env as pid vaddr).run s = .ok result t := by
  cases hslot : s.swap.slotOf pid vaddr with
  | none => exact ⟨none, s, (swapIn_none_ok hslot).mpr ⟨available_unlocked hl _ _, rfl, rfl⟩⟩
  | some slot =>
    obtain ⟨f, u, htake, hlength⟩ := takeFrame_returns as hl h.writes
      ((s.addrspaces as).allocatedPages = MAX_ALLOCATED_PAGES)
      (fun hno => h.victim (by_contra fun hneed => hno (fresh_of_not_needsVictim hneed)))
    obtain ⟨t, hinto⟩ : ∃ t, (swapInto env as pid vaddr slot f.paddr).run u = .ok () t :=
      ⟨_, swapInto_ok.mpr ⟨(h.reads slot).1, (h.reads slot).2, hlength ▸ h.recorded,
        available_unlocked hl _ _, by simp [hl], rfl⟩⟩
    refine ⟨some f.paddr, t, (swapIn_some_ok hslot).mpr ⟨available_unlocked hl _ _, some f, u, ?_,
      .inr ⟨f, rfl, hinto, rfl⟩⟩⟩
    rwa [acquired_unlocked hl]

end Calls

lemma holds_step (hl : env.locked = false) (a b : SwapArea × Pages)
    (h : Holds a.1 a.2) (hstep : SwapStep env a b) : Holds b.1 b.2 := by
  cases hstep with
  | out hnew hrun => exact holds_swapOut h hnew hrun
  | inHeld hheld hready hrun =>
    obtain ⟨-, -, -, hholds⟩ := holds_swapIn_held hl h hheld hready hrun
    exact hholds
  | inAbsent habsent hrun =>
    rw [holds_swapIn_absent hl h habsent] at hrun
    injection hrun with _ ht
    exact ht ▸ h
  | remove hrun => exact holds_swapRemovePid h hrun

structure FaithfulStore (env : Env) (swap : SwapArea) (store : Pages) : Prop where
  one_slot : ∀ i j, i < NUMBERENTRIES → j < NUMBERENTRIES →
    (swap.track i).valid = true → (swap.track j).valid = true →
    (swap.track i).pid = (swap.track j).pid → (swap.track i).vaddr = (swap.track j).vaddr → i = j
  swap_in_held : ∀ (s t : State) as pid vaddr page result, s.swap = swap →
    store (pid, vaddr) = some page → VictimReady s as pid store →
    (swapIn env as pid vaddr).run s = .ok result t →
    ∃ paddr, result = some paddr ∧ pageAt t.mem paddr.toNat = page
  swap_in_returns : ∀ (s : State) as pid vaddr, s.swap = swap → Servable env s as pid →
    ∃ result t, (swapIn env as pid vaddr).run s = .ok result t
  swap_in_absent : ∀ (s : State) as pid vaddr, s.swap = swap → store (pid, vaddr) = none →
    (swapIn env as pid vaddr).run s = .ok none s
  swap_in_others : ∀ (s t : State) as pid vaddr result, s.swap = swap →
    (swapIn env as pid vaddr).run s = .ok result t →
    KeepsOthers (Touched s as pid vaddr) swap.slots t.swap.slots
  swap_out_others : ∀ (s t : State) pid vaddr permissionFlag paddr, s.swap = swap →
    (swapOut env pid vaddr permissionFlag paddr).run s = .ok () t →
    KeepsOthers (· = (pid, vaddr)) swap.slots t.swap.slots
  swap_remove_pid_others : ∀ (s t : State) pid, s.swap = swap →
    (swapRemovePid pid).run s = .ok () t →
    ∀ i < NUMBERENTRIES, ∀ key page, key.1 ≠ pid →
      (swap.slots i = some (key, page) ↔ t.swap.slots i = some (key, page))

lemma holds_one_slot {swap : SwapArea} (h : Holds swap store)
    (hi : i < NUMBERENTRIES) (hj : j < NUMBERENTRIES) (hvi : (swap.track i).valid = true)
    (hvj : (swap.track j).valid = true) (hpid : (swap.track i).pid = (swap.track j).pid)
    (hvaddr : (swap.track i).vaddr = (swap.track j).vaddr) : i = j := by
  refine h.unique (w := pageAt swap.file (j * PAGE_SIZE)) hi hj (if_pos hvi) ?_
  rw [hpid, hvaddr]
  exact if_pos hvj

theorem swap_store_faithful {env : Env} (hl : env.locked = false) {start swap : SwapArea}
    {store : Pages}
    (hrun : Relation.ReflTransGen (SwapStep env) (swapBootstrap start, fun _ => none)
      (swap, store)) :
    FaithfulStore env swap store := by
  have h : Holds swap store :=
    Run.invariant (holds_step hl) (holds_swapBootstrap start) hrun
  refine ⟨?_, ?_, ?_, ?_, ?_, ?_, ?_⟩
  · intro i j hi hj hvi hvj hpid hvaddr
    exact holds_one_slot h hi hj hvi hvj hpid hvaddr
  · rintro s t as pid vaddr page result rfl hheld hready hin
    obtain ⟨paddr, hresult, hpage, -⟩ := holds_swapIn_held hl h hheld hready hin
    exact ⟨paddr, hresult, hpage⟩
  · rintro s as pid vaddr rfl hservable
    exact swapIn_returns hl hservable
  · rintro s as pid vaddr rfl habsent
    exact holds_swapIn_absent hl h habsent
  · rintro s t as pid vaddr result rfl hin
    exact keepsOthers_swapIn hl hin
  · rintro s t pid vaddr permissionFlag paddr rfl hout
    exact keepsOthers_swapOut hout
  · rintro s t pid rfl hremove i hi key page hkey
    exact keepsOthers_swapRemovePid hremove hi hkey page

def swapStart : State :=
  (((powerOn ⟨0x1000#32, 0x4000#32⟩).setSwap (swapBootstrap (powerOn ⟨0#32, 0#32⟩).swap)).setMem
    (fun i => if i < 0x3000 then 7 else 0)).setPageTable
      (pageTableInit (fun _ => ⟨0#32, 0#32, 0#32, 0#32, 0⟩) 4)

-- Two pages go out, and the process that owns the second one is removed.
theorem swap_store_faithful_two_pages :
    ∃ swap store, FaithfulStore steadyEnv.unlocked swap store ∧
      store (1#32, 0x400000#32) = some (fun _ => 7) ∧ store (2#32, 0x401000#32) = none := by
  let first := swapStart.swappedOut steadyEnv.unlocked 1#32 0x400000#32 0#32 0x2000#32 0
  let second := first.swappedOut steadyEnv.unlocked 2#32 0x401000#32 0#32 0x3000#32 1
  have hfirst : (swapOut steadyEnv.unlocked 1#32 0x400000#32 0#32 0x2000#32).run swapStart =
      .ok () first :=
    swapOut_ok.mpr ⟨by decide, available_unlocked rfl _ _,
      ⟨available_unlocked rfl _ _, by decide⟩, 0, freeSlot_swapBootstrap _, rfl, rfl⟩
  have hslot : first.swap.freeSlot = some 1 :=
    List.find?_range_eq_some.mpr ⟨rfl, List.mem_range.mpr (by decide), by decide⟩
  have hsecond : (swapOut steadyEnv.unlocked 2#32 0x401000#32 0#32 0x3000#32).run first =
      .ok () second :=
    swapOut_ok.mpr ⟨by decide, available_unlocked rfl _ _,
      ⟨available_unlocked rfl _ _, by decide⟩, 1, hslot, rfl, rfl⟩
  obtain ⟨t, hremove⟩ : ∃ t, (swapRemovePid 2#32).run second = .ok () t := ⟨_, rfl⟩
  refine ⟨t.swap, _, swap_store_faithful rfl
    (((Relation.ReflTransGen.single (.out rfl hfirst)).tail (.out rfl hsecond)).tail
      (.remove hremove)), ?_, rfl⟩
  refine congrArg some (funext fun i => ?_)
  have hi : (0x2000#32).toNat + i.val < 0x3000 := by
    have := i.isLt
    simp only [PAGE_SIZE] at this
    simp only [BitVec.reduceToNat]
    omega
  exact if_pos hi

end Os161.Vm
