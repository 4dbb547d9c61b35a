import Os161.Semfs

namespace Os161.Semfs

open Function Lib Lib.Threads
open Vm (Word)

variable {T : Type}

section Annotation

def Pc.locked : Pc → Bool
  | .outside | .readAcquire _ | .readRelock _ | .writeAcquire _ | .truncateAcquire _ => false
  | _ => true

def semfsHolds (pc : Pc) (_ : Unit) : Prop := pc.locked = true

def semfsWaits : Pc → Option Unit
  | .readRelock _ => some ()
  | _ => none

lemma enter_locked (call : Call) : call.enter.locked = false := by
  cases call with
  | read resid | write resid => rfl
  | truncate len =>
    rw [Call.enter]
    split <;> rfl

lemma readRound_waits (h : count < resid) :
    readRound resid count = (0#32, .readWait (resid - count)) := by
  have hresid : resid ≠ 0#32 := by bv_omega
  rw [readRound, if_neg hresid]
  by_cases hcount : 0#32 < count
  · have hleft : resid - count ≠ 0#32 := by bv_omega
    simp [hcount, h, hleft]
  · obtain rfl : count = 0#32 := by bv_omega
    simp [hresid]

lemma readRound_takes (h : ¬ count < resid) :
    readRound resid count = (count - resid, .unlock) := by
  by_cases hresid : resid = 0#32
  · rw [readRound, if_pos hresid, hresid, BitVec.sub_zero]
  · have hcount : 0#32 < count := by bv_omega
    simp [readRound, hresid, hcount, h]

lemma readRound_locked (resid count : Word) : (readRound resid count).2.locked = true := by
  by_cases h : count < resid
  · rw [readRound_waits h]
    rfl
  · rw [readRound_takes h]
    rfl

lemma semfsWakeup_locked (count newcount : Word) :
    (semfsWakeup count newcount).locked = true := by
  unfold semfsWakeup
  split
  · rfl
  · split <;> rfl

lemma semfsCode_respects (t : T) (pc : Pc) :
    (semfsCode t pc).Respects semfsHolds semfsWaits pc := by
  have hact : ∀ {f : Call → Word → Word × Pc} {b : Bool}, pc.locked = b →
      (∀ call count, (f call count).2.locked = b) →
      (Instr.act fun call count => some (f call count) : Instruction T).Respects semfsHolds
        semfsWaits pc := by
    intro f b hpc hf call d d' k hk m
    have hk' : f call d = (d', k) := Option.some.inj hk
    have hlocked := hf call d
    rw [hk'] at hlocked
    rw [semfsHolds, semfsHolds, hlocked, hpc]
  cases pc with
  | outside => exact hact rfl fun call _ => enter_locked call
  | readTest woken resid => exact hact rfl fun _ count => readRound_locked resid count
  | writeTest resid =>
    refine hact rfl fun _ count => ?_
    simp only
    split
    · rfl
    · exact semfsWakeup_locked ..
  | truncateTest newcount => exact hact rfl fun _ count => semfsWakeup_locked ..
  | assign newcount => exact hact rfl fun _ _ => rfl
  | _ => simp [semfsCode, Instr.Respects, semfsHolds, semfsWaits, Pc.locked]

lemma relock_of_waits (h : semfsWaits pc = some ()) :
    ∃ resid, pc = .readRelock resid := by
  cases pc with
  | readRelock resid => exact ⟨resid, rfl⟩
  | _ => cases h

lemma semfsCreate_fresh (count : Word) : (semfsCreate count : SemfsState T).Fresh semfsHolds where
  holder := fun _ => rfl
  holds := fun _ _ => Bool.false_ne_true
  asleep := fun _ => rfl
  chan := fun _ => rfl

end Annotation

section Wakeups

-- A reader that cv_wait has put on the list and that has been taken off it, until it has tested
-- the count again.
def woken : Pc × Bool → Bool
  | (.readRelock _, asleep) => !asleep
  | (.readTest again _, _) => again
  | _ => false

abbrev Woken (s : SemfsState T) (t : T) : Prop := woken (s.here t) = true

def Lost (s : SemfsState T) : Prop :=
  0#32 < s.data ∧ s.chan () ≠ [] ∧ ∀ t, ¬ Woken s t

def Pc.newcount (count : Word) : Pc → Option Word
  | .writeTest resid =>
    if resid = 0#32 ∨ count + resid < count then none else some (count + resid)
  | .truncateTest newcount => some newcount
  | _ => none

def Admits (t : T) (_ : Call) (s : SemfsState T) : Prop :=
  ((s.pc t).newcount s.data).any (fun newcount => 0#32 < s.data ∧ s.data < newcount) = true →
    s.chan () = []

def Covered (n : Word) (s : SemfsState T) : Prop :=
  s.chan () = [] ∨ n = 0#32 ∨ (n = 1#32 ∧ ∃ t, Woken s t)

-- What a call has with it: a reader that waits needs something, and only a count of 1 is
-- announced to one reader alone.
def Pc.Sound : Pc → Prop
  | .readWait resid | .readRelock resid | .readTest true resid => resid ≠ 0#32
  | .signal newcount => newcount = 1#32
  | _ => True

structure Inv (s : SemfsState T) : Prop where
  sound : ∀ t, (s.pc t).Sound
  waits : ∀ t resid, s.pc t = .readWait resid → s.data = 0#32
  assigns : ∀ t n, s.pc t = .assign n → Covered n s
  covered : Covered s.data s

lemma semfsCreate_inv (count : Word) : Inv (semfsCreate count : SemfsState T) where
  sound := fun _ => trivial
  waits := fun t resid h => by cases h
  assigns := fun t n h => by cases h
  covered := .inl rfl

lemma Inv.not_lost (h : Inv s) : ¬ Lost s := by
  rintro ⟨hpos, hchan, hnone⟩
  rcases h.covered with hempty | hzero | ⟨-, t, ht⟩
  · exact hchan hempty
  · rw [hzero] at hpos
    exact absurd hpos (by decide)
  · exact hnone t ht

variable {s s' : SemfsState T} {t : T} {call : Call}

lemma semfsWakeup_covered (h : Inv s)
    (hadmits : 0#32 < s.data → s.data < newcount → s.chan () = []) :
    (∀ resid, semfsWakeup s.data newcount ≠ .readWait resid) ∧
      (semfsWakeup s.data newcount).Sound ∧
      (∀ n, semfsWakeup s.data newcount = .assign n → Covered n s) := by
  unfold semfsWakeup
  by_cases hquiet : 0#32 < s.data ∨ newcount = 0#32
  · rw [if_pos hquiet]
    refine ⟨by simp, trivial, fun n hn => ?_⟩
    obtain rfl : newcount = n := by simpa using hn
    rcases hquiet with hpos | hzero
    · by_cases hraise : s.data < newcount
      · exact .inl (hadmits hpos hraise)
      rcases h.covered with hempty | hzero | ⟨hone, hwoken⟩
      · exact .inl hempty
      · rw [hzero] at hpos
        exact absurd hpos (by decide)
      by_cases hnew : newcount = 0#32
      · exact .inr (.inl hnew)
      · exact .inr (.inr ⟨by bv_omega, hwoken⟩)
    · exact .inr (.inl hzero)
  rw [if_neg hquiet]
  by_cases hone : newcount = 1#32
  · rw [if_pos hone]
    exact ⟨by simp, hone, by simp⟩
  · rw [if_neg hone]
    exact ⟨by simp, trivial, by simp⟩

variable [DecidableEq T]

lemma enter_sound (call : Call) : call.enter.Sound := by
  cases call with
  | read resid | write resid => trivial
  | truncate len =>
    rw [Call.enter]
    split <;> trivial

lemma covered_goto (h : Covered n s) (ht : Woken s t → Woken s' t)
    (hpc : ∀ u ≠ t, s'.pc u = s.pc u) (hasleep : s'.asleep = s.asleep)
    (hchan : s'.chan = s.chan) : Covered n s' := by
  rcases h with hempty | hzero | ⟨hone, u, hu⟩
  · exact .inl (by rw [hchan, hempty])
  · exact .inr (.inl hzero)
  refine .inr (.inr ⟨hone, u, ?_⟩)
  by_cases hut : u = t
  · exact hut ▸ ht (hut ▸ hu)
  · simp only [Woken, State.here] at hu ⊢
    rwa [hpc u hut, hasleep]

lemma only_locked (horderly : Orderly semfsHolds semfsWaits s) (ht : (s.pc t).locked = true)
    (hpc : ∀ u ≠ t, s'.pc u = s.pc u) (u : T) (hu : (s'.pc u).locked = true) : u = t := by
  by_contra hut
  rw [hpc u hut] at hu
  exact hut (horderly.exclusive (l := ()) hu ht)

lemma sound_moved (h : Inv s) (hs' : s'.pc = update s.pc t k) (hk : k.Sound) (u : T) :
    (s'.pc u).Sound := by
  rcases moved_cases hs' u with ⟨-, heq⟩ | ⟨-, heq⟩
  · rwa [heq]
  · rw [heq]
    exact h.sound u

omit [DecidableEq T] in
lemma not_woken (hpc : s.pc t = k) (hk : ∀ asleep, woken (k, asleep) = false) : ¬ Woken s t := by
  simp [Woken, State.here, hpc, hk]

lemma Inv.passes (h : Inv s) (hs' : s'.pc = update s.pc t k) (hdata : s'.data = s.data)
    (hchan : s'.chan = s.chan) (hasleep : s'.asleep = s.asleep) (ht : Woken s t → Woken s' t)
    (hwaits : ∀ resid, k = .readWait resid → s.data = 0#32) (hsound : k.Sound)
    (hassigns : ∀ n, k = .assign n → Covered n s) : Inv s' := by
  have hpc : ∀ u ≠ t, s'.pc u = s.pc u := fun u hut => by rw [hs', update_of_ne hut]
  have hcovered : ∀ n, Covered n s → Covered n s' := fun n hn =>
    covered_goto hn ht hpc hasleep hchan
  refine ⟨sound_moved h hs' hsound, fun u resid hu => ?_, fun u n hu => hcovered n ?_, ?_⟩
  · rw [hdata]
    rcases moved_cases hs' u with ⟨-, heq⟩ | ⟨-, heq⟩
    · exact hwaits resid (heq.symm.trans hu)
    · exact h.waits u resid (heq.symm.trans hu)
  · rcases moved_cases hs' u with ⟨-, heq⟩ | ⟨-, heq⟩
    · exact hassigns n (heq.symm.trans hu)
    · exact h.assigns u n (heq.symm.trans hu)
  · rw [hdata]
    exact hcovered _ h.covered

lemma Inv.alone (h : Inv s) (horderly : Orderly semfsHolds semfsWaits s)
    (ht : (s.pc t).locked = true) (hs' : s'.pc = update s.pc t k)
    (hwaits : ∀ resid, k = .readWait resid → s'.data = 0#32) (hsound : k.Sound)
    (hassigns : ∀ n, k = .assign n → Covered n s') (hcovered : Covered s'.data s') : Inv s' := by
  have hpc : ∀ u ≠ t, s'.pc u = s.pc u := fun u hut => by rw [hs', update_of_ne hut]
  have hself : s'.pc t = k := by rw [hs', update_self]
  refine ⟨sound_moved h hs' hsound, fun u resid hu => ?_, fun u n hu => ?_, hcovered⟩
  · obtain rfl := only_locked horderly ht hpc u (by rw [hu]; rfl)
    exact hwaits resid (hself.symm.trans hu)
  · obtain rfl := only_locked horderly ht hpc u (by rw [hu]; rfl)
    exact hassigns n (hself.symm.trans hu)

lemma inv_step (horderly : Orderly semfsHolds semfsWaits s) (h : Inv s)
    (hadmits : Admits t call s) (hstep : step semfsCode t call s = some s') : Inv s' := by
  have hawake := step_awake hstep
  cases hpc : s.pc t with
  | outside =>
    have hcode := congrArg (semfsCode t) hpc
    obtain ⟨d, k, hact, rfl⟩ := step_act hcode hstep
    obtain ⟨rfl, rfl⟩ : s.data = d ∧ call.enter = k := by simpa using hact
    have hunlocked := enter_locked call
    refine h.passes rfl rfl rfl rfl (fun ht => ?_) (fun resid hk => ?_) (enter_sound call)
      fun n hk => ?_
    · exact absurd ht (not_woken hpc fun _ => rfl)
    · rw [hk] at hunlocked
      cases hunlocked
    · rw [hk] at hunlocked
      cases hunlocked
  | readAcquire n | writeAcquire n | truncateAcquire n =>
    have hcode := congrArg (semfsCode t) hpc
    obtain ⟨-, rfl⟩ := step_acquire hcode hstep
    have hwoken := not_woken hpc fun _ => rfl
    exact h.passes rfl rfl rfl rfl (fun ht => absurd ht hwoken) (by simp) trivial (by simp)
  | readTest again resid =>
    have hcode := congrArg (semfsCode t) hpc
    obtain ⟨d, k, hact, rfl⟩ := step_act hcode hstep
    have hlocked : (s.pc t).locked = true := by
      rw [hpc]
      rfl
    by_cases hlt : s.data < resid
    · obtain ⟨rfl, rfl⟩ : 0#32 = d ∧ .readWait (resid - s.data) = k := by
        simpa [readRound_waits hlt] using hact
      have hleft : resid - s.data ≠ 0#32 := by bv_omega
      exact h.alone horderly hlocked rfl (fun _ _ => rfl) hleft (by simp) (.inr (.inl rfl))
    obtain ⟨rfl, rfl⟩ : s.data - resid = d ∧ .unlock = k := by
      simpa [readRound_takes hlt] using hact
    refine h.alone horderly hlocked rfl (by simp) trivial (by simp) ?_
    rcases h.covered with hempty | hzero | ⟨hone, u, hu⟩
    · exact .inl hempty
    · exact .inr (.inl (by simp only [State.goto_data]; bv_omega))
    by_cases hresid : resid = 0#32
    · -- a call that asks for nothing is not the one that was woken
      have hne : u ≠ t := by
        rintro rfl
        have hsound := h.sound u
        rw [hpc] at hsound
        obtain rfl : again = true := by simpa [Woken, woken, State.here, hpc] using hu
        exact hsound hresid
      refine .inr (.inr ⟨by simp [hresid, hone], u, ?_⟩)
      simpa [Woken, State.here, hne] using hu
    · exact .inr (.inl (by simp only [State.goto_data]; bv_omega))
  | readWait resid =>
    have hcode := congrArg (semfsCode t) hpc
    obtain ⟨-, rfl⟩ := step_sleep hcode hstep
    have hsound := h.sound t
    rw [hpc] at hsound
    refine h.alone (k := .readRelock resid) horderly ?_ rfl (by simp) hsound (by simp) ?_
    · rw [hpc]
      rfl
    · exact .inr (.inl (h.waits t resid hpc))
  | readRelock resid =>
    have hcode := congrArg (semfsCode t) hpc
    obtain ⟨-, rfl⟩ := step_acquire hcode hstep
    have hsound := h.sound t
    rw [hpc] at hsound
    exact h.passes rfl rfl rfl rfl (fun _ => by simp [Woken, woken, State.here]) (by simp) hsound
      (by simp)
  | writeTest resid =>
    have hcode := congrArg (semfsCode t) hpc
    obtain ⟨d, k, hact, rfl⟩ := step_act hcode hstep
    have hwoken := not_woken hpc fun _ => rfl
    by_cases hskip : resid = 0#32 ∨ s.data + resid < s.data
    · obtain ⟨rfl, rfl⟩ : s.data = d ∧ .unlock = k := by simpa [hskip] using hact
      exact h.passes rfl rfl rfl rfl (fun ht => absurd ht hwoken) (by simp) trivial (by simp)
    obtain ⟨rfl, rfl⟩ : s.data = d ∧ semfsWakeup s.data (s.data + resid) = k := by
      simpa [hskip] using hact
    have hraise : 0#32 < s.data → s.data < s.data + resid → s.chan () = [] :=
      fun hpos hlt => hadmits (by simp [hpc, Pc.newcount, hskip, hpos, hlt])
    obtain ⟨hwaits, hsound, hassigns⟩ := semfsWakeup_covered h hraise
    exact h.passes rfl rfl rfl rfl (fun ht => absurd ht hwoken)
      (fun resid hk => absurd hk (hwaits resid)) hsound hassigns
  | truncateTest newcount =>
    have hcode := congrArg (semfsCode t) hpc
    obtain ⟨d, k, hact, rfl⟩ := step_act hcode hstep
    obtain ⟨rfl, rfl⟩ : s.data = d ∧ semfsWakeup s.data newcount = k := by simpa using hact
    have hraise : 0#32 < s.data → s.data < newcount → s.chan () = [] :=
      fun hpos hlt => hadmits (by simp [hpc, Pc.newcount, hpos, hlt])
    obtain ⟨hwaits, hsound, hassigns⟩ := semfsWakeup_covered h hraise
    have hwoken := not_woken hpc fun _ => rfl
    exact h.passes rfl rfl rfl rfl (fun ht => absurd ht hwoken)
      (fun resid hk => absurd hk (hwaits resid)) hsound hassigns
  | signal newcount =>
    have hcode := congrArg (semfsCode t) hpc
    have hlocked : (s.pc t).locked = true := by
      rw [hpc]
      rfl
    have hone : newcount = 1#32 := by
      have hsound := h.sound t
      rwa [hpc] at hsound
    rcases step_wakeone hcode hstep with ⟨hchan, rfl⟩ | ⟨u, us, hchan, rfl⟩
    · refine h.alone (k := .assign newcount) horderly hlocked rfl (by simp) trivial
        (fun n _ => .inl hchan) (.inl hchan)
    have hu : u ∈ s.chan () := by simp [hchan]
    have hne : u ≠ t := fun heq => horderly.lists.unlisted hawake () (heq ▸ hu)
    obtain ⟨resid, hrelock⟩ := relock_of_waits (horderly.lists.listed () u hu).2
    -- the reader that was taken off the list will test the count
    have hcovered : ∀ n, n = 0#32 ∨ n = 1#32 → Covered n
        ((s.goto t (.assign newcount) s.data).dequeue () u us) := by
      rintro n (hn | hn)
      · exact .inr (.inl hn)
      · exact .inr (.inr ⟨hn, u, by simp [Woken, woken, State.here, hne, hrelock]⟩)
    refine h.alone (k := .assign newcount) horderly hlocked rfl (by simp) trivial
      (fun n hn => hcovered n (.inr ?_)) ?_
    · obtain rfl : newcount = n := by simpa using hn
      exact hone
    rcases h.covered with hempty | hzero | ⟨hdata, -⟩
    · rw [hempty] at hchan
      cases hchan
    · exact hcovered _ (.inl hzero)
    · exact hcovered _ (.inr hdata)
  | broadcast newcount =>
    have hcode := congrArg (semfsCode t) hpc
    obtain rfl := step_wakeall hcode hstep
    refine h.alone (k := .assign newcount) horderly ?_ rfl (by simp) trivial
      (fun n _ => .inl (by simp)) (.inl (by simp))
    rw [hpc]
    rfl
  | assign newcount =>
    have hcode := congrArg (semfsCode t) hpc
    obtain ⟨d, k, hact, rfl⟩ := step_act hcode hstep
    obtain ⟨rfl, rfl⟩ : newcount = d ∧ .unlock = k := by simpa using hact
    refine h.alone horderly ?_ rfl (by simp) trivial (by simp) ?_
    · rw [hpc]
      rfl
    refine covered_goto (t := t) (h.assigns t newcount hpc) (fun ht => ?_) (fun u hu => ?_) rfl
      rfl
    · exact absurd ht (not_woken hpc fun _ => rfl)
    · simp [hu]
  | unlock =>
    have hcode := congrArg (semfsCode t) hpc
    obtain ⟨-, rfl⟩ := step_release hcode hstep
    have hwoken := not_woken hpc fun _ => rfl
    exact h.passes rfl rfl rfl rfl (fun ht => absurd ht hwoken) (by simp) trivial (by simp)

theorem semfs_loses_no_wakeup (count : Word)
    (hreaches : GuardedReaches semfsCode Admits (semfsCreate count) s) : ¬ Lost s :=
  (guarded_invariant semfsCode_respects
    (fun _ _ _ _ horderly h hadmits hstep => inv_step horderly h hadmits hstep)
    (semfsCreate_fresh count) (semfsCreate_inv count) hreaches).2.not_lost

instance (t : T) (call : Call) (s : SemfsState T) : Decidable (Admits t call s) :=
  inferInstanceAs (Decidable (_ = true → _))

end Wakeups

section Parties

inductive Party where
  | reader | other | writer
  deriving DecidableEq, Repr

def goes (t : Party) (call : Call) (n : Nat) : List (Party × Call) :=
  List.replicate (n + 1) (t, call)

def twoWrites : List (Party × Call) :=
  goes .reader (.read 1#32) 3 ++ goes .other (.read 1#32) 3 ++ goes .writer (.write 1#32) 5 ++
    goes .writer (.write 1#32) 4 ++ goes .reader (.read 1#32) 2

theorem semfs_loses_wakeup :
    ∃ s : SemfsState Party, Reaches semfsCode (semfsCreate 0) s ∧ Lost s := by
  obtain ⟨s, hreaches, hpos, hchan, hreader, hother, hwriter⟩ := reaches_of_run semfsCode
    (semfsCreate 0 : SemfsState Party)
    (fun s => 0#32 < s.data ∧ s.chan () ≠ [] ∧ ¬ Woken s .reader ∧ ¬ Woken s .other ∧
      ¬ Woken s .writer) twoWrites (by decide +kernel)
  refine ⟨s, hreaches, hpos, hchan, fun t => ?_⟩
  cases t with
  | reader => exact hreader
  | other => exact hother
  | writer => exact hwriter

theorem semfs_loses_no_wakeup_oneWrite : ∃ s : SemfsState Party,
    GuardedReaches semfsCode Admits (semfsCreate 0) s ∧
      (0#32 < s.data ∧ s.chan () = [.other]) ∧ ¬ Lost s := by
  obtain ⟨s, hreaches, hs⟩ := guardedReaches_of_run semfsCode Admits
    (semfsCreate 0 : SemfsState Party) (fun s => 0#32 < s.data ∧ s.chan () = [.other])
    (twoWrites.take 13) (by decide +kernel)
  exact ⟨s, hreaches, hs, semfs_loses_no_wakeup 0 hreaches⟩

end Parties

end Os161.Semfs
