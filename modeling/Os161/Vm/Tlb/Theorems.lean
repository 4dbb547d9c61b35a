import Mathlib.Data.List.GetD
import Mathlib.Logic.Relation
import Os161.Vm.Tlb

namespace Os161.Vm

open Function Lib Lib.Exec List Option

section Functions

variable {env : Env} (hl : env.locked = false)

include hl

lemma resetOneEntryByIndex_run (index : Nat) (s : State) :
    (resetOneEntryByIndex env index).run s =
      .ok () (s.setTlb ((s.tlb.mark index false).write (invalidEntry index) index)) := by
  unfold resetOneEntryByIndex
  rw [critical_run env .tlb (fun _ _ => rfl), if_pos (available_unlocked hl .tlb s)]

lemma resetTlb_run (s : State) :
    (resetTlb env).run s =
      .ok () ((s.setTlb s.tlb.reset).setStats s.stats.countTlbInvalidations) := by
  unfold resetTlb
  rw [critical_run env .tlb (fun _ _ => rfl), if_pos (available_unlocked hl .tlb s)]

lemma resetIfDifferent_run (pid : Word) (index : Nat) (s : State) :
    ∃ t, (resetIfDifferent env pid index).run s = .ok () t ∧ t.tlb.nextVictim = s.tlb.nextVictim ∧
      (∀ i : Nat, t.tlb.entry i =
        if i = index ∧ (s.tlb.entry i).pid ≠ pid then invalidEntry i else s.tlb.entry i) ∧
      ∀ i : Nat, t.tlb.bitmap i =
        if i = index ∧ (s.tlb.entry i).pid ≠ pid then false else s.tlb.bitmap i := by
  unfold resetIfDifferent
  rw [bind_run_ok (EStateM.run_get s)]
  by_cases hpid : (s.tlb.entry index).pid = pid
  · rw [if_pos hpid]
    refine ⟨s, rfl, rfl, fun i => ?_, fun i => ?_⟩
    · rw [if_neg (fun hi => hi.2 (hi.1 ▸ hpid))]
    · rw [if_neg (fun hi => hi.2 (hi.1 ▸ hpid))]
  rw [if_neg hpid]
  refine ⟨_, resetOneEntryByIndex_run hl index s, rfl, fun i => ?_, fun i => ?_⟩
  · by_cases hi : i = index
    · subst hi
      rw [if_pos ⟨rfl, hpid⟩]
      exact update_self ..
    · rw [if_neg (fun h => hi h.1)]
      exact update_of_ne hi _ _
  by_cases hi : i = index
  · subst hi
    rw [if_pos ⟨rfl, hpid⟩]
    exact update_self ..
  · rw [if_neg (fun h => hi h.1)]
    exact update_of_ne (fun h => hi (Int.ofNat.inj h)) _ _

lemma resetLoop_run (pid : Word) (count : Nat) : ∀ (first : Nat) (s : State),
    ∃ t, (loop (resetIfDifferent env pid) first count).run s = .ok () t ∧
      t.tlb.nextVictim = s.tlb.nextVictim ∧
      (∀ i : Nat, t.tlb.entry i =
        if first ≤ i ∧ i < first + count ∧ (s.tlb.entry i).pid ≠ pid then invalidEntry i
        else s.tlb.entry i) ∧
      ∀ i : Nat, t.tlb.bitmap i =
        if first ≤ i ∧ i < first + count ∧ (s.tlb.entry i).pid ≠ pid then false
        else s.tlb.bitmap i := by
  induction count with
  | zero =>
    intro first s
    refine ⟨s, rfl, rfl, fun i => ?_, fun i => ?_⟩
    · rw [if_neg (by omega)]
    · rw [if_neg (by omega)]
  | succ count ih =>
    intro first s
    obtain ⟨t, hstep, hvictim, hentry, hbitmap⟩ := resetIfDifferent_run hl pid first s
    obtain ⟨u, hrest, hvictim', hentry', hbitmap'⟩ := ih (first + 1) t
    rw [loop_succ, bind_run_ok hstep]
    refine ⟨u, hrest, hvictim'.trans hvictim, fun i => ?_, fun i => ?_⟩
    all_goals
      by_cases hi : i = first
      · subst hi
        by_cases hpid : (s.tlb.entry i).pid = pid
        · simp [hentry', hbitmap', hentry, hbitmap, hpid]
        · simp [hentry', hbitmap', hentry, hbitmap, hpid]
      have hrange : (first + 1 ≤ i ∧ i < first + 1 + count ∧ (s.tlb.entry i).pid ≠ pid) ↔
          (first ≤ i ∧ i < first + (count + 1) ∧ (s.tlb.entry i).pid ≠ pid) :=
        ⟨fun h => ⟨by omega, by omega, h.2.2⟩, fun h => ⟨by omega, by omega, h.2.2⟩⟩
      simp only [hentry', hbitmap', hentry, hbitmap, hi, false_and, if_false]
      exact if_congr hrange rfl rfl

lemma resetTlbPidDifferent_run (pid : Word) (s : State) :
    ∃ t, (resetTlbPidDifferent env pid).run s = .ok () t ∧ t.tlb.nextVictim = s.tlb.nextVictim ∧
      (∀ i < NUM_TLB, t.tlb.entry i =
        if (s.tlb.entry i).pid = pid then s.tlb.entry i else invalidEntry i) ∧
      ∀ i < NUM_TLB, t.tlb.bitmap i =
        if (s.tlb.entry i).pid = pid then s.tlb.bitmap i else false := by
  obtain ⟨t, hloop, hvictim, hentry, hbitmap⟩ := resetLoop_run hl pid NUM_TLB 0 s
  have hacquire : (spinlockAcquire env .tlb).run s = .ok () s := by
    rw [spinlockAcquire_run, if_pos (available_unlocked hl .tlb s), acquired_unlocked hl]
  have hrelease : ∀ u, (spinlockRelease env .tlb).run u = .ok () u := by
    intro u
    rw [spinlockRelease_run, if_pos (fun h => by rw [hl] at h; cases h), released_unlocked hl]
  rw [resetTlbPidDifferent, bind_run_ok hacquire, bind_run_ok (EStateM.run_get s),
    bind_run_ok hloop]
  refine ⟨_, hrelease _, hvictim, fun i hi => ?_, fun i hi => ?_⟩
  · refine (hentry i).trans ?_
    by_cases hpid : (s.tlb.entry i).pid = pid
    · rw [if_neg (fun h => h.2.2 hpid), if_pos hpid]
    · rw [if_pos ⟨Nat.zero_le _, by omega, hpid⟩, if_neg hpid]
  refine (hbitmap i).trans ?_
  by_cases hpid : (s.tlb.entry i).pid = pid
  · rw [if_neg (fun h => h.2.2 hpid), if_pos hpid]
  · rw [if_pos ⟨Nat.zero_le _, by omega, hpid⟩, if_neg hpid]

end Functions

lemma resetFold (n : Nat) (tlb : Tlb) :
    let tlb' := (List.range n).foldl
      (fun (tlb : Tlb) (index : Nat) => (tlb.mark index false).write (invalidEntry index) index) tlb
    tlb'.nextVictim = tlb.nextVictim ∧ (∀ i < n, tlb'.entry i = invalidEntry i) ∧
      ∀ i < n, tlb'.bitmap i = false := by
  induction n with
  | zero => exact ⟨rfl, fun i hi => absurd hi (by omega), fun i hi => absurd hi (by omega)⟩
  | succ n ih =>
    obtain ⟨hvictim, hentry, hbitmap⟩ := ih
    simp only [range_succ, foldl_append, foldl_cons, foldl_nil]
    refine ⟨hvictim, fun i hi => ?_, fun i hi => ?_⟩
    · by_cases hin : i = n
      · rw [hin]
        exact update_self ..
      · exact (update_of_ne hin _ _).trans (hentry i (by omega))
    by_cases hin : i = n
    · rw [hin]
      exact update_self ..
    · exact (update_of_ne (fun h => hin (Int.ofNat.inj h)) _ _).trans
        (hbitmap i (by omega))

section Add

variable {tlb : Tlb}

variable {i : Nat}

lemma firstFree_some (h : tlb.firstFree = some i) : i < NUM_TLB ∧ tlb.bitmap i = false := by
  have hmem := mem_of_find?_eq_some h
  have hfree := find?_some h
  exact ⟨mem_range.mp hmem, by simpa using hfree⟩

lemma firstFree_none (h : tlb.firstFree = none) (hi : i < NUM_TLB) : tlb.bitmap i = true := by
  have := find?_eq_none.mp h i (mem_range.mpr hi)
  simpa using this

lemma slot_of_index (hi : i < NUM_TLB) :
    (BitVec.ofNat 32 i).toInt = i ∧ slotOf (BitVec.ofNat 32 i) = i ∧
      (BitVec.ofNat 32 i).toNat = i := by
  unfold NUM_TLB at hi
  have hnat : (BitVec.ofNat 32 i).toNat = i := by
    rw [BitVec.toNat_ofNat]
    omega
  refine ⟨?_, ?_, hnat⟩
  · rw [BitVec.toInt_eq_toNat_of_lt (by omega), hnat]
  · rw [slotOf, hnat, NUM_TLB]
    omega

structure Added (tlb tlb' : Tlb) (i : Nat) (entry : TlbEntry) : Prop where
  lt : i < NUM_TLB
  entry : tlb'.entry = update tlb.entry i entry
  bitmap : tlb'.bitmap = update tlb.bitmap i true
  choice : tlb.firstFree = some i ∧ tlb'.nextVictim = tlb.nextVictim ∨
    tlb.firstFree = none ∧ i = tlb.nextVictim ∧ tlb'.nextVictim = (tlb.nextVictim + 1) % NUM_TLB

lemma addEntry_run (hl : env.locked = false) (hi lo : Word) (s : State)
    (hvictim : s.tlb.nextVictim < NUM_TLB) :
    ∃ i t, (addEntry env NO_SLOT hi lo).run s = .ok (BitVec.ofNat 32 i) t ∧
      Added s.tlb t.tlb i ⟨hi, lo⟩ := by
  have hok : ∀ index t, index.toNat < NUM_TLB → index = (chooseSlot env s.tlb NO_SLOT).1 →
      t = (s.setTlb ((chooseSlot env s.tlb NO_SLOT).2.1.writeEntry index hi lo)).setStats
        ((chooseSlot env s.tlb NO_SLOT).2.2 s.stats).countTlbFaults →
      (addEntry env NO_SLOT hi lo).run s = .ok index t := fun index t hlt hindex ht =>
    addEntry_ok.mpr ⟨⟨available_unlocked hl .tlb s, hlt⟩, hindex, ht⟩
  cases hfree : s.tlb.firstFree with
  | some i =>
    obtain ⟨hlt, -⟩ := firstFree_some hfree
    obtain ⟨hint, hslot, hnat⟩ := slot_of_index hlt
    have hchoose : chooseSlot env s.tlb NO_SLOT =
        (BitVec.ofNat 32 i, s.tlb, Stats.countTlbFaultsFree) := by
      simp [chooseSlot, hfree]
    rw [hchoose] at hok
    refine ⟨i, _, hok _ _ (by rwa [hnat]) rfl rfl, hlt, ?_, ?_, .inl ⟨hfree, rfl⟩⟩
    · show update s.tlb.entry (slotOf (BitVec.ofNat 32 i)) _ = _
      rw [hslot]
    · show update s.tlb.bitmap (BitVec.ofNat 32 i).toInt true = _
      rw [hint]
  | none =>
    obtain ⟨hint, hslot, hnat⟩ := slot_of_index hvictim
    have hchoose : chooseSlot env s.tlb NO_SLOT = (BitVec.ofNat 32 s.tlb.nextVictim,
        { s.tlb with nextVictim := (s.tlb.nextVictim + 1) % NUM_TLB },
        Stats.countTlbFaultsReplace) := by
      simp [chooseSlot, hfree, tlbGetRrVictim]
    rw [hchoose] at hok
    refine ⟨s.tlb.nextVictim, _, hok _ _ (by rwa [hnat]) rfl rfl, hvictim, ?_, ?_,
      .inr ⟨hfree, rfl, rfl⟩⟩
    · show update s.tlb.entry (slotOf (BitVec.ofNat 32 s.tlb.nextVictim)) _ = _
      rw [hslot]
    · show update s.tlb.bitmap (BitVec.ofNat 32 s.tlb.nextVictim).toInt true = _
      rw [hint]

end Add

section Runs

inductive TlbCall where
  | add (hi lo : Word)
  | resetOne (index : Fin NUM_TLB)
  | reset
  | resetPidDifferent (pid : Word)

def TlbCall.perform (env : Env) : TlbCall → Kern (Option Nat)
  | .add hi lo => do
      let index ← addEntry env NO_SLOT hi lo
      pure (some index.toNat)
  | .resetOne index => do
      resetOneEntryByIndex env index
      pure none
  | .reset => do
      resetTlb env
      pure none
  | .resetPidDifferent pid => do
      resetTlbPidDifferent env pid
      pure none

abbrev Slots := Nat → Option TlbEntry

def TlbCall.effect (slots : Slots) (reported : Option Nat) : TlbCall → Slots
  | .add hi lo => fun i => if some i = reported then some ⟨hi, lo⟩ else slots i
  | .resetOne index => fun i => if i = index then none else slots i
  | .reset => fun _ => none
  | .resetPidDifferent pid => fun i => (slots i).filter fun entry => entry.pid = pid

-- The machine with what has happened to its TLB: the entries in use and the slots that were
-- replaced, in order.
structure History where
  state : State
  slots : Slots
  replaced : List Nat

def Slots.loses (slots : Slots) : Option Nat → List Nat
  | none => []
  | some i => if (slots i).isSome then [i] else []

def TlbCall.Step (env : Env) (call : TlbCall) (h h' : History) : Prop :=
  ∃ reported, (call.perform env).run h.state = .ok reported h'.state ∧
    h'.slots = call.effect h.slots reported ∧
    h'.replaced = h.replaced ++ h.slots.loses reported

structure Shadows (first : Nat) (h : History) : Prop where
  bitmap : ∀ i < NUM_TLB, h.state.tlb.bitmap i = (h.slots i).isSome
  entry : ∀ i < NUM_TLB, ∀ entry, h.slots i = some entry → h.state.tlb.entry i = entry
  replaced : ∀ k < h.replaced.length, h.replaced.getD k 0 = (first + k) % NUM_TLB
  victim : h.state.tlb.nextVictim = (first + h.replaced.length) % NUM_TLB

variable {h h' : History} {env : Env}

lemma Shadows.victim_lt (hs : Shadows first h) : h.state.tlb.nextVictim < NUM_TLB := by
  rw [hs.victim]
  exact Nat.mod_lt _ (by decide)

lemma Shadows.reset (hs : Shadows first h)
    (hbitmap : ∀ i < NUM_TLB, h'.state.tlb.bitmap i = (h'.slots i).isSome)
    (hslots : ∀ i < NUM_TLB, ∀ entry, h'.slots i = some entry →
      h.slots i = some entry ∧ h'.state.tlb.entry i = h.state.tlb.entry i)
    (hvictim : h'.state.tlb.nextVictim = h.state.tlb.nextVictim)
    (hreplaced : h'.replaced = h.replaced ++ h.slots.loses none) : Shadows first h' := by
  have hsame : h'.replaced = h.replaced := by rw [hreplaced, Slots.loses, append_nil]
  refine ⟨hbitmap, fun i hi entry he => ?_, ?_, ?_⟩
  · obtain ⟨hold, hentry⟩ := hslots i hi entry he
    exact hentry.trans (hs.entry i hi entry hold)
  · rw [hsame]
    exact hs.replaced
  · rw [hsame, hvictim]
    exact hs.victim

lemma Shadows.added {entry : TlbEntry} (hs : Shadows first h)
    (hadd : Added h.state.tlb h'.state.tlb i entry)
    (hslots : h'.slots = fun j => if some j = some i then some entry else h.slots j)
    (hreplaced : h'.replaced = h.replaced ++ h.slots.loses (some i)) : Shadows first h' := by
  have hslot : ∀ j, h'.slots j = if j = i then some entry else h.slots j := by
    intro j
    rw [hslots]
    exact if_congr (by rw [some.injEq]) rfl rfl
  have hring : (∀ k < h'.replaced.length, h'.replaced.getD k 0 = (first + k) % NUM_TLB) ∧
      h'.state.tlb.nextVictim = (first + h'.replaced.length) % NUM_TLB := by
    have hbit := hs.bitmap i hadd.lt
    rcases hadd.choice with ⟨hfree, hvictim⟩ | ⟨hfull, hi, hvictim⟩
    · -- a free slot: nothing is replaced
      have hnone : (h.slots i).isSome = false := by rw [← hbit, (firstFree_some hfree).2]
      have hsame : h'.replaced = h.replaced := by
        rw [hreplaced, Slots.loses, hnone]
        exact append_nil _
      rw [hsame, hvictim]
      exact ⟨hs.replaced, hs.victim⟩
    -- the round-robin victim
    have hsome : (h.slots i).isSome = true := by rw [← hbit, firstFree_none hfull hadd.lt]
    have hmore : h'.replaced = h.replaced ++ [i] := by
      rw [hreplaced, Slots.loses, hsome]
      rfl
    rw [hmore, hvictim, length_append, length_singleton]
    refine ⟨fun k hk => ?_, ?_⟩
    · by_cases hlast : k < h.replaced.length
      · rw [getD_append _ _ _ _ hlast]
        exact hs.replaced k hlast
      obtain rfl : k = h.replaced.length := by omega
      rw [getD_append_right _ _ _ _ (Nat.le_refl _), Nat.sub_self, hi, hs.victim]
      rfl
    rw [hs.victim]
    unfold NUM_TLB
    omega
  refine ⟨fun j hj => ?_, fun j hj e he => ?_, hring.1, hring.2⟩
  · rw [hadd.bitmap, hslot j]
    by_cases hji : j = i
    · rw [hji, update_self, if_pos rfl]
      rfl
    · rw [update_of_ne (show (j : Int) ≠ (i : Int) by omega), if_neg hji]
      exact hs.bitmap j hj
  rw [hslot j] at he
  rw [hadd.entry]
  by_cases hji : j = i
  · rw [if_pos hji] at he
    rw [hji, update_self]
    exact some.inj he
  rw [if_neg hji] at he
  rw [update_of_ne hji]
  exact hs.entry j hj e he

lemma TlbCall.step_shadows (hl : env.locked = false)
    (hs : Shadows first h) (call : TlbCall) :
    ∃ reported t, (call.perform env).run h.state = .ok reported t ∧
      Shadows first ⟨t, call.effect h.slots reported, h.replaced ++ h.slots.loses reported⟩ := by
  cases call with
  | add hi lo =>
    obtain ⟨i, t, hrun, hadd⟩ := addEntry_run hl hi lo h.state hs.victim_lt
    refine ⟨some i, t, ?_, hs.added hadd rfl rfl⟩
    rw [TlbCall.perform, bind_run_ok hrun, (slot_of_index hadd.lt).2.2]
    rfl
  | resetOne index =>
    refine ⟨none, h.state.setTlb ((h.state.tlb.mark (index : Nat) false).write
      (invalidEntry index) index), ?_, ?_⟩
    · rw [TlbCall.perform, bind_run_ok (resetOneEntryByIndex_run hl index h.state)]
      rfl
    refine hs.reset (fun i hi => ?_) (fun i hi entry he => ?_) rfl rfl
    · show update h.state.tlb.bitmap (index : Nat) false i =
        (if i = index then none else h.slots i).isSome
      by_cases hin : i = index
      · rw [hin, update_self, if_pos rfl]
        rfl
      · rw [update_of_ne (show (i : Int) ≠ ((index : Nat) : Int) by omega), if_neg hin]
        exact hs.bitmap i hi
    have he : (if i = index then none else h.slots i) = some entry := he
    by_cases hin : i = index
    · rw [if_pos hin] at he
      cases he
    · rw [if_neg hin] at he
      exact ⟨he, update_of_ne hin _ _⟩
  | reset =>
    obtain ⟨hvictim, -, hbitmap⟩ := resetFold NUM_TLB h.state.tlb
    refine ⟨none, (h.state.setTlb h.state.tlb.reset).setStats
      h.state.stats.countTlbInvalidations, ?_, ?_⟩
    · rw [TlbCall.perform, bind_run_ok (resetTlb_run hl h.state)]
      rfl
    · refine hs.reset (fun i hi => hbitmap i hi) (fun i hi entry he => ?_) hvictim rfl
      cases he
  | resetPidDifferent pid =>
    obtain ⟨t, hrun, hvictim, hentry, hbitmap⟩ := resetTlbPidDifferent_run hl pid h.state
    refine ⟨none, t, ?_, ?_⟩
    · rw [TlbCall.perform, bind_run_ok hrun]
      rfl
    have hpid : ∀ i < NUM_TLB, ∀ entry, h.slots i = some entry →
        (h.state.tlb.entry i).pid = entry.pid := fun i hi entry he => by
      rw [hs.entry i hi entry he]
    refine hs.reset (fun i hi => ?_) (fun i hi entry he => ?_) hvictim rfl
    · show t.tlb.bitmap i = ((h.slots i).filter fun entry => entry.pid = pid).isSome
      rw [hbitmap i hi, hs.bitmap i hi]
      cases hslot : h.slots i with
      | none => simp
      | some entry =>
        rw [hpid i hi entry hslot]
        by_cases hp : entry.pid = pid
        · simp [hp]
        · simp [hp]
    have he : ((h.slots i).filter fun entry => entry.pid = pid) = some entry := he
    obtain ⟨hslot, hp⟩ := filter_eq_some_iff.mp he
    refine ⟨hslot, ?_⟩
    rw [hentry i hi, hpid i hi entry hslot, if_pos (by simpa using hp)]

def History.boot (s : State) : History :=
  ⟨s.setTlb (tlbBootstrap s.tlb), fun _ => none, []⟩

lemma shadows_boot (hvictim : s.tlb.nextVictim < NUM_TLB) :
    Shadows s.tlb.nextVictim (History.boot s) := by
  refine ⟨fun i hi => ?_, fun i _ entry he => (by cases he), fun k hk => ?_, ?_⟩
  · show (if 0 ≤ (i : Int) ∧ (i : Int) < NUM_TLB then false else s.tlb.bitmap i) = false
    rw [if_pos (by omega)]
  · exact absurd hk (Nat.not_lt_zero k)
  · exact (Nat.mod_eq_of_lt hvictim).symm

lemma shadows_run (hl : env.locked = false)
    (hs : Shadows first h)
    (hrun : Relation.ReflTransGen (fun h h' => ∃ call : TlbCall, call.Step env h h') h h') :
    Shadows first h' := by
  induction hrun with
  | refl => exact hs
  | tail _ hlast ih =>
    obtain ⟨call, reported, hperform, hslots, hreplaced⟩ := hlast
    obtain ⟨reported', t, hperform', hshadows⟩ := call.step_shadows hl ih
    rw [hperform'] at hperform
    obtain ⟨rfl, ht⟩ : reported' = reported ∧ t = _ := by simpa using hperform
    rw [← hslots, ← hreplaced, ht] at hshadows
    exact hshadows

-- The bitmap is exact after any calls, add_entry takes a slot that is not in use while there is
-- one and changes that slot alone, and replacements go round the whole TLB.
theorem tlb_bitmap_exact {env : Env} (hl : env.locked = false) {s : State}
    (hvictim : s.tlb.nextVictim < NUM_TLB) {h : History}
    (hrun : Relation.ReflTransGen (fun h h' => ∃ call : TlbCall, call.Step env h h')
      (History.boot s) h) :
    (∀ i < NUM_TLB, h.state.tlb.bitmap i = true ↔ ∃ entry, h.slots i = some entry) ∧
      (∀ i < NUM_TLB, ∀ entry, h.slots i = some entry → h.state.tlb.entry i = entry) ∧
      (∀ call : TlbCall, ∃ h', call.Step env h h') ∧
      (∀ hi lo, ∃ i t, i < NUM_TLB ∧
        (addEntry env NO_SLOT hi lo).run h.state = .ok (BitVec.ofNat 32 i) t ∧
        t.tlb.entry = update h.state.tlb.entry i ⟨hi, lo⟩ ∧
        t.tlb.bitmap = update h.state.tlb.bitmap i true ∧
        ((∃ j < NUM_TLB, h.slots j = none) → h.slots i = none)) ∧
      ∀ j k, j < k → k < h.replaced.length → k < j + NUM_TLB →
        h.replaced.getD j 0 ≠ h.replaced.getD k 0 := by
  have hs := shadows_run hl (shadows_boot hvictim) hrun
  refine ⟨fun i hi => ?_, hs.entry, fun call => ?_, fun hi lo => ?_, fun j k hjk hk hwindow => ?_⟩
  · rw [hs.bitmap i hi]
    exact isSome_iff_exists
  · obtain ⟨reported, t, hperform, -⟩ := call.step_shadows hl hs
    exact ⟨⟨t, call.effect h.slots reported, h.replaced ++ h.slots.loses reported⟩, reported,
      hperform, rfl, rfl⟩
  · obtain ⟨i, t, hperform, hadd⟩ := addEntry_run hl hi lo h.state hs.victim_lt
    refine ⟨i, t, hadd.lt, hperform, hadd.entry, hadd.bitmap, ?_⟩
    rintro ⟨j, hj, hnone⟩
    rcases hadd.choice with ⟨hfree, -⟩ | ⟨hfull, -⟩
    · have hbit := hs.bitmap i hadd.lt
      rw [(firstFree_some hfree).2] at hbit
      exact isSome_eq_false_iff.mp hbit.symm |> isNone_iff_eq_none.mp
    have hbit := hs.bitmap j hj
    rw [firstFree_none hfull hj, hnone] at hbit
    cases hbit
  rw [hs.replaced j (by omega), hs.replaced k hk]
  unfold NUM_TLB at *
  omega

lemma Shadows.step_add (hl : env.locked = false) (hs : Shadows first h) (hi lo : Word) :
    ∃ i h', (TlbCall.add hi lo).Step env h h' ∧ Shadows first h' ∧
      h'.slots = update h.slots i (some ⟨hi, lo⟩) ∧
      ((i < NUM_TLB ∧ h.slots i = none ∧ (∀ j < i, (h.slots j).isSome) ∧
          h'.replaced = h.replaced) ∨
        ((∀ j < NUM_TLB, (h.slots j).isSome) ∧ i = (first + h.replaced.length) % NUM_TLB ∧
          h'.replaced = h.replaced ++ [i])) := by
  obtain ⟨i, t, hrun, hadd⟩ := addEntry_run hl hi lo h.state hs.victim_lt
  have hperform : ((TlbCall.add hi lo).perform env).run h.state = .ok (some i) t := by
    rw [TlbCall.perform, bind_run_ok hrun, (slot_of_index hadd.lt).2.2]
    rfl
  refine ⟨i, ⟨t, (TlbCall.add hi lo).effect h.slots (some i), h.replaced ++ h.slots.loses (some i)⟩,
    ⟨some i, hperform, rfl, rfl⟩, hs.added hadd rfl rfl, ?_, ?_⟩
  · refine funext fun j => ?_
    simp only [TlbCall.effect, some.injEq, update_apply]
  rcases hadd.choice with ⟨hfree, -⟩ | ⟨hfull, hvictim, -⟩
  · obtain ⟨hbit, -, hbefore⟩ := find?_range_eq_some.mp hfree
    have hnone : h.slots i = none := by
      have := hs.bitmap i hadd.lt
      simp_all
    refine .inl ⟨hadd.lt, hnone, fun j hj => ?_, ?_⟩
    · have := hs.bitmap j (Nat.lt_trans hj hadd.lt)
      have := hbefore j hj
      simp_all
    · show h.replaced ++ h.slots.loses (some i) = _
      simp [Slots.loses, hnone]
  have hsome : ∀ j < NUM_TLB, (h.slots j).isSome := fun j hj => by
    rw [← hs.bitmap j hj]
    exact firstFree_none hfull hj
  refine .inr ⟨hsome, hvictim.trans hs.victim, ?_⟩
  show h.replaced ++ h.slots.loses (some i) = _
  rw [Slots.loses, if_pos (hsome i hadd.lt)]

lemma Shadows.step_free (hl : env.locked = false) (hs : Shadows first h) (hi lo : Word)
    (hn : n < NUM_TLB) (hnone : h.slots n = none) (hbefore : ∀ j < n, (h.slots j).isSome) :
    ∃ h', (TlbCall.add hi lo).Step env h h' ∧ Shadows first h' ∧
      h'.slots = update h.slots n (some ⟨hi, lo⟩) ∧ h'.replaced = h.replaced := by
  obtain ⟨i, h', hstep, hs', hslots, ⟨-, hi', hbefore', hsame⟩ | ⟨hfull, -⟩⟩ := hs.step_add hl hi lo
  · obtain rfl : i = n := by
      have h1 := hbefore i
      have h2 := hbefore' n
      rw [hi'] at h1
      rw [hnone] at h2
      simp only [isSome_none, Bool.false_eq_true, imp_false] at h1 h2
      omega
    exact ⟨h', hstep, hs', hslots, hsame⟩
  have := hfull n hn
  rw [hnone] at this
  cases this

lemma Shadows.step_full (hl : env.locked = false) (hs : Shadows first h) (hi lo : Word)
    (hfull : ∀ j < NUM_TLB, (h.slots j).isSome) (hn : n = (first + h.replaced.length) % NUM_TLB) :
    ∃ h', (TlbCall.add hi lo).Step env h h' ∧ Shadows first h' ∧
      h'.slots = update h.slots n (some ⟨hi, lo⟩) ∧ h'.replaced = h.replaced ++ [n] := by
  obtain ⟨i, h', hstep, hs', hslots, ⟨hi', hnone, -⟩ | ⟨-, rfl, hmore⟩⟩ := hs.step_add hl hi lo
  · have := hfull i hi'
    rw [hnone] at this
    cases this
  · exact ⟨h', hstep, hs', hn ▸ hslots, hn ▸ hmore⟩

lemma tlb_fills (hl : env.locked = false) (hvictim : s.tlb.nextVictim < NUM_TLB) (hi lo : Word) :
    ∀ n ≤ NUM_TLB, ∃ h, Relation.ReflTransGen (fun h h' => ∃ call : TlbCall, call.Step env h h')
      (History.boot s) h ∧ Shadows s.tlb.nextVictim h ∧
        h.slots = (fun i => if i < n then some ⟨hi, lo⟩ else none) ∧ h.replaced = [] := by
  intro n
  induction n with
  | zero => exact fun _ => ⟨_, .refl, shadows_boot hvictim, rfl, rfl⟩
  | succ n ih =>
    intro hn
    obtain ⟨h, hrun, hs, hslots, hreplaced⟩ := ih (by omega)
    obtain ⟨h', hstep, hs', hslots', hsame⟩ := hs.step_free hl hi lo (n := n) (by omega)
      (by simp [hslots]) (fun j hj => by simp [hslots, hj])
    refine ⟨h', hrun.tail ⟨_, hstep⟩, hs', funext fun j => ?_, hsame.trans hreplaced⟩
    rw [hslots', hslots, update_apply]
    grind

-- The TLB fills up, slot 5 is reset and taken again, and two more entries replace slots 0 and 1.
theorem tlb_bitmap_exact_replacing : ∃ h : History,
    h.replaced = [0, 1] ∧ h.slots 5 = some ⟨0x401040#32, 0x2000#32⟩ ∧
      h.slots 1 = some ⟨0x403040#32, 0x4000#32⟩ ∧
      h.state.tlb.entry 5 = ⟨0x401040#32, 0x2000#32⟩ ∧
      h.state.tlb.entry 1 = ⟨0x403040#32, 0x4000#32⟩ ∧ h.state.tlb.bitmap 63 = true := by
  have hl : steadyEnv.unlocked.locked = false := rfl
  have hvictim : (powerOn smallRam).tlb.nextVictim < NUM_TLB := by decide
  obtain ⟨h₀, hrun₀, hs₀, hslots₀, hreplaced₀⟩ :=
    tlb_fills hl hvictim 0x400040#32 0x1000#32 NUM_TLB (Nat.le_refl _)
  obtain ⟨reported, t, hperform, hs₁⟩ := (TlbCall.resetOne ⟨5, by decide⟩).step_shadows hl hs₀
  obtain rfl : reported = none := by
    obtain ⟨_, u, -, hpure⟩ := bind_ok.mp hperform
    injection hpure with hreported
    exact hreported.symm
  obtain ⟨h₂, hstep₂, hs₂, hslots₂, hreplaced₂⟩ := hs₁.step_free hl 0x401040#32 0x2000#32 (n := 5)
    (by decide) (by simp [TlbCall.effect]) (fun j hj => by
      simp only [TlbCall.effect, hslots₀, NUM_TLB]
      grind)
  have hfull : ∀ j < NUM_TLB, (h₂.slots j).isSome := fun j hj => by
    simp only [hslots₂, update_apply, TlbCall.effect, hslots₀]
    grind
  have hnone : h₂.replaced = [] := by rw [hreplaced₂, hreplaced₀]; rfl
  obtain ⟨h₃, hstep₃, hs₃, hslots₃, hreplaced₃⟩ := hs₂.step_full hl 0x402040#32 0x3000#32 hfull
    (n := 0) (by rw [hnone]; rfl)
  obtain ⟨h₄, hstep₄, -, hslots₄, hreplaced₄⟩ := hs₃.step_full hl 0x403040#32 0x4000#32
    (n := 1) (fun j hj => by
      rw [hslots₃, update_apply]
      split
      · rfl
      · exact hfull j hj)
    (by rw [hreplaced₃, hnone]; rfl)
  have hfive : h₄.slots 5 = some ⟨0x401040#32, 0x2000#32⟩ := by
    rw [hslots₄, hslots₃, hslots₂]
    rfl
  have hone : h₄.slots 1 = some ⟨0x403040#32, 0x4000#32⟩ := by
    rw [hslots₄]
    rfl
  have hlast : h₄.slots 63 = some ⟨0x400040#32, 0x1000#32⟩ := by
    rw [hslots₄, hslots₃, hslots₂]
    simp only [update_apply, TlbCall.effect, hslots₀]
    rfl
  obtain ⟨hbitmap, hentry, -⟩ := tlb_bitmap_exact hl hvictim
    ((((hrun₀.tail ⟨_, none, hperform, rfl, rfl⟩).tail ⟨_, hstep₂⟩).tail ⟨_, hstep₃⟩).tail
      ⟨_, hstep₄⟩)
  exact ⟨h₄, by rw [hreplaced₄, hreplaced₃, hnone]; rfl, hfive, hone,
    hentry 5 (by decide) _ hfive, hentry 1 (by decide) _ hone,
    (hbitmap 63 (by decide)).mpr ⟨_, hlast⟩⟩

end Runs

end Os161.Vm
