import Os161.Process.Lemmas
import Os161.Vm.PageTable.Lemmas
import Os161.Vm.Swap.Lemmas

namespace Os161.Process

open Lib Lib.Exec Vm

def Proc.OwnsEntry (proc : Proc) (vm : State) (i : Nat) : Prop :=
  i < vm.pageTable.length ∧ (vm.pageTable.nextEntry i).pid ≠ NO_PID ∧
    (vm.pageTable.nextEntry i).pid = proc.pid

def Proc.OwnsSlot (proc : Proc) (vm : State) (i : Nat) : Prop :=
  i < NUMBERENTRIES ∧ (vm.swap.track i).valid = true ∧ (vm.swap.track i).pid = proc.pid

def Proc.OwnsNothing (proc : Proc) (vm : State) : Prop :=
  ∀ i, ¬ proc.OwnsEntry vm i ∧ ¬ proc.OwnsSlot vm i

def SameFrame (s t : State) (i : Nat) : Prop :=
  t.pageTable.nextEntry i = s.pageTable.nextEntry i ∧
    t.coremap.freeRamFrames i = s.coremap.freeRamFrames i ∧
    ∀ k < PAGE_SIZE, t.mem (i * PAGE_SIZE + k) = s.mem (i * PAGE_SIZE + k)

def SameSlot (s t : State) (i : Nat) : Prop :=
  t.swap.track i = s.swap.track i ∧
    ∀ k < PAGE_SIZE, t.swap.file (i * PAGE_SIZE + k) = s.swap.file (i * PAGE_SIZE + k)

def System.Other (sys : System) (c : Nat) (proc : Proc) : Prop :=
  ∃ q, q ≠ c ∧ sys.procs q = some proc

structure TornDown (sys : System) (c : Nat) (child : Proc) (t : State) : Prop where
  entries : ∀ i, child.OwnsEntry sys.vm i →
    (t.pageTable.nextEntry i).pid = NO_PID ∧ t.coremap.freeRamFrames i = true
  slots : ∀ i, child.OwnsSlot sys.vm i → (t.swap.track i).valid = false
  otherEntries : ∀ i proc, sys.Other c proc → proc.OwnsEntry sys.vm i → SameFrame sys.vm t i
  otherSlots : ∀ i proc, sys.Other c proc → proc.OwnsSlot sys.vm i → SameSlot sys.vm t i
  freeEntries : ∀ i < sys.vm.pageTable.length, ¬ child.OwnsEntry sys.vm i → SameFrame sys.vm t i
  freeSlots : ∀ i < NUMBERENTRIES, ¬ child.OwnsSlot sys.vm i → SameSlot sys.vm t i

variable {env : Env} {i c : Nat} {sys : System} {child parent : Proc}

lemma asDestroy_ok :
    (asDestroy env cur).run s = .ok () t ↔
      ∃ u, (pageTableRemoveOnPids env cur.pid).run s = .ok () u ∧
        t = u.setSwap (u.swap.removePid cur.pid) := by
  unfold asDestroy
  rw [bind_ok]
  constructor
  · rintro ⟨_, u, hremove, hswap⟩
    injection hswap with _ ht
    exact ⟨u, hremove, ht.symm⟩
  · rintro ⟨u, hremove, rfl⟩
    exact ⟨(), u, hremove, rfl⟩

lemma removePid_clears (swap : SwapArea) (pid : Word) (hi : i < NUMBERENTRIES) :
    ¬ (((swap.removePid pid).track i).valid = true ∧ ((swap.removePid pid).track i).pid = pid) := by
  rintro ⟨hvalid, hpid⟩
  simp only [SwapArea.removePid] at hvalid hpid
  split at hvalid
  · simp at hvalid
  rename_i hkept
  rw [if_neg hkept] at hpid
  exact hkept ⟨hi, hpid, hvalid⟩

lemma removePid_track_other (swap : SwapArea)
    (h : (swap.track i).valid = true → (swap.track i).pid ≠ pid) :
    (swap.removePid pid).track i = swap.track i := by
  simp only [SwapArea.removePid]
  rw [if_neg fun hgone => h hgone.2.2 hgone.2.1]

lemma removeOnPids_ownsNoEntry {proc : Proc} {vm : State} (hpid : 0 ≤ proc.pid.toInt)
    (htable : Available env .table vm) (hnone : ∀ i, ¬ proc.OwnsEntry vm i) :
    (pageTableRemoveOnPids env proc.pid).run vm = .ok () vm := by
  have hno : proc.pid ≠ NO_PID := by
    intro heq
    rw [heq] at hpid
    exact absurd hpid (by decide)
  exact pageTableRemoveOnPids_skip hpid htable fun i hi hown =>
    hnone i ⟨hi, fun hfree => hno (hown.symm.trans hfree), hown⟩

lemma ownsNothing_of_tornDown (hother : sys.Other c parent)
    (hrun : (asDestroy env ⟨parent.pid, parent.pAddrspace⟩).run sys.vm = .ok () t)
    (htorn : TornDown sys c child t) :
    0 ≤ parent.pid.toInt ∧ parent.OwnsNothing sys.vm ∧ child.OwnsNothing sys.vm := by
  obtain ⟨u, hremove, rfl⟩ := asDestroy_ok.mp hrun
  obtain ⟨hpid, havail, hclear⟩ := pageTableRemoveOnPids_clears hremove
  have hentries : ∀ i, ¬ parent.OwnsEntry sys.vm i := by
    intro i howns
    have hsame : u.pageTable.nextEntry i = sys.vm.pageTable.nextEntry i :=
      (htorn.otherEntries i parent hother howns).1
    exact hclear i howns.1 (by rw [hsame, howns.2.2])
  have hslots : ∀ i, ¬ parent.OwnsSlot sys.vm i := by
    intro i howns
    have hsame : (u.swap.removePid parent.pid).track i = sys.vm.swap.track i :=
      (htorn.otherSlots i parent hother howns).1
    refine removePid_clears u.swap parent.pid howns.1 ?_
    rw [hsame]
    exact howns.2
  refine ⟨hpid, fun i => ⟨hentries i, hslots i⟩, ?_⟩
  -- there was nothing to remove, so the child's entries and slots are still there
  obtain rfl : sys.vm = u := by simpa [removeOnPids_ownsNoEntry hpid havail hentries] using hremove
  refine fun i => ⟨fun howns => howns.2.1 (htorn.entries i howns).1, fun howns => ?_⟩
  have hreleased : ((sys.vm.swap.removePid parent.pid).track i).valid = false := htorn.slots i howns
  rw [removePid_track_other sys.vm.swap fun hvalid hpid => hslots i ⟨howns.1, hvalid, hpid⟩,
    howns.2.1] at hreleased
  simp at hreleased

lemma tornDown_of_ownsNothing
    (hparent : parent.OwnsNothing sys.vm) (hchild : child.OwnsNothing sys.vm) :
    TornDown sys c child (sys.vm.setSwap (sys.vm.swap.removePid parent.pid)) := by
  have hframe : ∀ i, SameFrame sys.vm (sys.vm.setSwap (sys.vm.swap.removePid parent.pid)) i :=
    fun i => ⟨rfl, rfl, fun _ _ => rfl⟩
  have hslot : ∀ i < NUMBERENTRIES,
      SameSlot sys.vm (sys.vm.setSwap (sys.vm.swap.removePid parent.pid)) i := fun i hi =>
    ⟨removePid_track_other sys.vm.swap fun hvalid hpid => (hparent i).2 ⟨hi, hvalid, hpid⟩,
      fun _ _ => rfl⟩
  exact
    { entries := fun i howns => absurd howns (hchild i).1
      slots := fun i howns => absurd howns (hchild i).2
      otherEntries := fun i _ _ _ => hframe i
      otherSlots := fun i _ _ howns => hslot i howns.1
      freeEntries := fun i _ _ => hframe i
      freeSlots := fun i hi _ => hslot i hi }

-- proc_wait tears a child down as it should exactly when there is nothing to tear down: neither
-- the child nor the parent, whose pid is used in place of the child's, has a page anywhere.
theorem teardown_only_of_nothing {env : Env} {sys : System} {c : Nat} {child parent : Proc}
    (hchild : Reapable sys c child) (hparent : sys.procs sys.curproc = some parent)
    (htable : Available env .table sys.vm) :
    (∃ sys', (procWait env c).run sys = .ok child.pStatus sys' ∧ TornDown sys c child sys'.vm) ↔
      0 ≤ parent.pid.toInt ∧ parent.OwnsNothing sys.vm ∧ child.OwnsNothing sys.vm := by
  constructor
  · rintro ⟨sys', hrun, htorn⟩
    obtain ⟨vm, hdestroy, -, rfl⟩ := (procWait_reapable hchild hparent).mp hrun
    exact ownsNothing_of_tornDown ⟨_, hchild.other.symm, hparent⟩ hdestroy htorn
  rintro ⟨hpid, hp, hc⟩
  have hskip := removeOnPids_ownsNoEntry hpid htable fun i => (hp i).1
  refine ⟨_, (procWait_reapable hchild hparent).mpr ⟨_, ?_, rfl, rfl⟩,
    tornDown_of_ownsNothing hp hc⟩
  exact asDestroy_ok.mpr ⟨_, hskip, rfl⟩

def oldParent : Proc := ⟨1, some 0, 0#32, 2, some 0, 1#32⟩

def deadChild : Proc := ⟨0, some 1, 0#32, 3, some 1, 2#32⟩

def family (vm : State) : System where
  vm := vm
  procs := fun p => [⟨1, none, 0#32, 1, some 0, 0#32⟩, oldParent, deadChild][p]?
  processTable := ⟨fun i => if 0 < i ∧ i ≤ 3 then some (i - 1) else none, 3⟩
  kproc := 0
  curproc := 1

lemma family_reapable (vm : State) : Reapable (family vm) 2 deadChild where
  live := rfl
  other := show 2 ≠ 1 by decide
  user := show 2 ≠ 0 by decide
  space := by decide
  threads := rfl
  pid := by decide
  ended := ⟨0, rfl⟩

lemma pageTableInit_pid (memory : Int → Entry) (hi : i < length) :
    ((pageTableInit memory length).nextEntry i).pid = NO_PID := by
  simp [pageTableInit, hi]

lemma swapBootstrap_valid (swap : SwapArea) (hi : i < NUMBERENTRIES) :
    ((swapBootstrap swap).track i).valid = false := by
  simp [swapBootstrap, hi]

lemma ownsNothing_smallMachine (proc : Proc) : proc.OwnsNothing smallMachine := by
  refine fun i => ⟨?_, ?_⟩
  · rintro ⟨hi, hused, -⟩
    exact hused (pageTableInit_pid _ hi)
  · rintro ⟨hi, hvalid, -⟩
    exact absurd ((swapBootstrap_valid _ hi).symm.trans hvalid) (by decide)

theorem teardown_of_fresh_child :
    ∃ sys', (procWait steadyEnv 2).run (family smallMachine) = .ok 0#32 sys' ∧
      TornDown (family smallMachine) 2 deadChild sys'.vm :=
  (teardown_only_of_nothing (family_reapable smallMachine) rfl (fun _ => rfl)).mpr
    ⟨by decide, ownsNothing_smallMachine _, ownsNothing_smallMachine _⟩

def swappedMachine : State :=
  smallMachine.setSwap ((smallMachine.swap.setTrack 0 ⟨0#32, 2#32, 0x400000#32, true⟩).setTrack 1
    ⟨0#32, 1#32, 0x400000#32, true⟩)

theorem teardown_releases_parent : Reapable (family swappedMachine) 2 deadChild ∧
      ∃ sys', (procWait steadyEnv 2).run (family swappedMachine) = .ok 0#32 sys' ∧
        (sys'.vm.swap.track 0).valid = true ∧ (sys'.vm.swap.track 1).valid = false ∧
        ¬ TornDown (family swappedMachine) 2 deadChild sys'.vm := by
  have hskip : (pageTableRemoveOnPids steadyEnv 1#32).run swappedMachine = .ok () swappedMachine :=
    @removeOnPids_ownsNoEntry steadyEnv oldParent swappedMachine (by decide) (fun _ => rfl)
      fun i => (ownsNothing_smallMachine oldParent i).1
  have hrun : (procWait steadyEnv 2).run (family swappedMachine) = .ok 0#32
      ((family swappedMachine).without 2 deadChild
        (swappedMachine.setSwap (swappedMachine.swap.removePid 1#32))) :=
    (procWait_reapable (family_reapable swappedMachine) rfl).mpr
      ⟨_, asDestroy_ok.mpr ⟨_, hskip, rfl⟩, rfl, rfl⟩
  refine ⟨family_reapable swappedMachine, _, hrun, by decide, by decide, fun htorn => ?_⟩
  have hreleased := htorn.slots 0 ⟨by decide, by decide, by decide⟩
  exact absurd hreleased (by decide)

end Os161.Process
