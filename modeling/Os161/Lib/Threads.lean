import Mathlib.Data.List.Nodup
import Mathlib.Logic.Function.Basic
import Mathlib.Logic.Relation
import Mathlib.Tactic.Common

namespace Os161.Lib.Threads

open Function Option

-- What a thread does at one point of its program, with where it goes on. `ι` is what a step may
-- choose; a `note` changes the data in the same step.
inductive Instr (ι δ L W T Pc : Type) where
  | acquire (lock : L) (note : δ → δ) (next : Pc)
  | release (lock : L) (note : δ → δ) (next : Pc)
  -- go to sleep on a channel, with the lock released once the thread is on the list
  | sleep (chan : W) (lock : L) (note : δ → δ) (next : Pc)
  | wakeone (chan : W) (note : Option T → δ → δ) (next : Pc)
  | wakeall (chan : W) (note : List T → δ → δ) (next : Pc)
  -- destroy a lock that nobody may hold, or a lock with a channel that nobody may be on
  | cleanup (lock : L) (chan : Option W) (note : δ → δ) (next : Pc)
  | act (f : ι → δ → Option (δ × Pc))

structure State (δ L W T Pc : Type) where
  pc : T → Pc
  asleep : T → Bool
  holder : L → Option T
  chan : W → List T
  data : δ

variable {ι δ L W T Pc : Type}

section Listed

-- The sleeping threads are those on the channels. `waiting` says which channel a thread can be
-- on.
structure Listed (waiting : T → Option W) (asleep : T → Bool) (chan : W → List T) : Prop where
  listed : ∀ w t, t ∈ chan w → asleep t = true ∧ waiting t = some w
  sleeping : ∀ t, asleep t = true → ∃ w, t ∈ chan w
  once : ∀ w, (chan w).Nodup

variable {waiting : T → Option W} {asleep : T → Bool} {chan : W → List T}

section

variable (h : Listed waiting asleep chan)

include h

lemma Listed.unlisted (ht : asleep t = false) (w : W) : t ∉ chan w := by
  intro hmem
  have := (h.listed w t hmem).1
  rw [ht] at this
  cases this

lemma Listed.moved (ht : asleep t = false)
    (hsame : ∀ u, u ≠ t → waiting' u = waiting u) : Listed waiting' asleep chan := by
  refine ⟨fun w u hu => ?_, h.sleeping, h.once⟩
  have hne : u ≠ t := fun heq => h.unlisted ht w (heq ▸ hu)
  rw [hsame u hne]
  exact h.listed w u hu

lemma Listed.slept [DecidableEq T] [DecidableEq W] (ht : asleep t = false)
    (hw : waiting t = some w) :
    Listed waiting (update asleep t true) (update chan w (chan w ++ [t])) := by
  have hmem : ∀ w' u, u ∈ update chan w (chan w ++ [t]) w' ↔
      u ∈ chan w' ∨ (w' = w ∧ u = t) := by
    intro w' u
    by_cases hw' : w' = w
    · subst hw'
      simp
    · simp [hw']
  refine ⟨fun w' u hu => ?_, fun u hu => ?_, fun w' => ?_⟩
  · rcases (hmem w' u).mp hu with hu | ⟨rfl, rfl⟩
    · have hne : u ≠ t := fun heq => h.unlisted ht w' (heq ▸ hu)
      rw [update_of_ne hne]
      exact h.listed w' u hu
    · exact ⟨update_self .., hw⟩
  · by_cases hut : u = t
    · exact ⟨w, (hmem w u).mpr (.inr ⟨rfl, hut⟩)⟩
    rw [update_of_ne hut] at hu
    obtain ⟨w', hw'⟩ := h.sleeping u hu
    exact ⟨w', (hmem w' u).mpr (.inl hw')⟩
  by_cases hw' : w' = w
  · subst hw'
    rw [update_self]
    exact List.Nodup.append (h.once w') (List.nodup_singleton t) (by
      simpa using h.unlisted ht w')
  · rw [update_of_ne hw']
    exact h.once w'

lemma Listed.channel (hu : u ∈ chan w)
    (hu' : u ∈ chan w') : w' = w :=
  some.inj ((h.listed w' u hu').2.symm.trans (h.listed w u hu).2)

lemma Listed.wokeone [DecidableEq T] [DecidableEq W] (hchan : chan w = u :: us) :
    Listed waiting (update asleep u false) (update chan w us) := by
  have hu : u ∈ chan w := by simp [hchan]
  have hnodup := h.once w
  rw [hchan, List.nodup_cons] at hnodup
  have hmem : ∀ w' v, v ∈ update chan w us w' ↔ v ∈ chan w' ∧ v ≠ u := by
    intro w' v
    by_cases hw' : w' = w
    · subst hw'
      rw [update_self, hchan, List.mem_cons]
      constructor
      · exact fun hv => ⟨.inr hv, fun heq => hnodup.1 (heq ▸ hv)⟩
      · rintro ⟨hv, hne⟩
        exact hv.resolve_left hne
    · rw [update_of_ne hw']
      refine ⟨fun hv => ⟨hv, fun heq => hw' (h.channel hu (heq ▸ hv))⟩, And.left⟩
  refine ⟨fun w' v hv => ?_, fun v hv => ?_, fun w' => ?_⟩
  · obtain ⟨hv, hne⟩ := (hmem w' v).mp hv
    rw [update_of_ne hne]
    exact h.listed w' v hv
  · by_cases hvu : v = u
    · subst hvu
      simp at hv
    rw [update_of_ne hvu] at hv
    obtain ⟨w', hw'⟩ := h.sleeping v hv
    exact ⟨w', (hmem w' v).mpr ⟨hw', hvu⟩⟩
  by_cases hw' : w' = w
  · subst hw'
    rw [update_self]
    exact hnodup.2
  · rw [update_of_ne hw']
    exact h.once w'

lemma Listed.wokeall [DecidableEq T] [DecidableEq W] (w : W) :
    Listed waiting (fun u => if u ∈ chan w then false else asleep u)
      (update chan w []) := by
  have hmem : ∀ w' v, v ∈ update chan w [] w' ↔ v ∈ chan w' ∧ v ∉ chan w := by
    intro w' v
    by_cases hw' : w' = w
    · subst hw'
      simp
    · rw [update_of_ne hw']
      exact ⟨fun hv => ⟨hv, fun hvw => hw' (h.channel hvw hv)⟩, And.left⟩
  refine ⟨fun w' v hv => ?_, fun v hv => ?_, fun w' => ?_⟩
  · obtain ⟨hv, hne⟩ := (hmem w' v).mp hv
    rw [if_neg hne]
    exact h.listed w' v hv
  · by_cases hvw : v ∈ chan w
    · simp [hvw] at hv
    rw [if_neg hvw] at hv
    obtain ⟨w', hw'⟩ := h.sleeping v hv
    exact ⟨w', (hmem w' v).mpr ⟨hw', hvw⟩⟩
  by_cases hw' : w' = w
  · subst hw'
    simp
  · rw [update_of_ne hw']
    exact h.once w'

end

end Listed

section Orderly

-- Which spinlocks a thread holds at a point of the program, and on which channel a thread that
-- continues there has slept.
variable (holds : Pc → L → Prop) (waits : Pc → Option W)

def Instr.Respects (pc : Pc) : Instr ι δ L W T Pc → Prop
  | .acquire l _ k => ¬ holds pc l ∧ ∀ m, holds k m ↔ holds pc m ∨ m = l
  | .release l _ k => holds pc l ∧ ∀ m, holds k m ↔ holds pc m ∧ m ≠ l
  | .sleep w l _ k => holds pc l ∧ waits k = some w ∧ ∀ m, holds k m ↔ holds pc m ∧ m ≠ l
  | .wakeone _ _ k => ∀ m, holds k m ↔ holds pc m
  | .wakeall _ _ k => ∀ m, holds k m ↔ holds pc m
  | .cleanup _ _ _ k => ∀ m, holds k m ↔ holds pc m
  | .act f => ∀ i d d' k, f i d = some (d', k) → ∀ m, holds k m ↔ holds pc m

variable {holds waits} in
lemma respects_to {f : ι → δ → δ} (hk : ∀ m, holds k m ↔ holds pc m) :
    (Instr.act fun i d => some (f i d, k) : Instr ι δ L W T Pc).Respects holds waits pc := by
  intro i d d' k' hact
  obtain ⟨-, rfl⟩ : f i d = d' ∧ k = k' := by simpa using hact
  exact hk

variable {holds waits} in
lemma respects_assert [DecidablePred c] {f : δ → δ}
    (hk : ∀ m, holds k m ↔ holds pc m) :
    (Instr.act fun _ d => if c d then some (f d, k) else none : Instr ι δ L W T Pc).Respects
      holds waits pc := by
  intro i d d' k' hact
  simp only [ite_none_right_eq_some, some.injEq, Prod.mk.injEq] at hact
  obtain ⟨-, -, rfl⟩ := hact
  exact hk

structure Orderly (s : State δ L W T Pc) : Prop where
  locked : ∀ l t, s.holder l = some t ↔ holds (s.pc t) l
  lists : Listed (fun t => waits (s.pc t)) s.asleep s.chan

variable {holds waits} {s : State δ L W T Pc}

lemma Orderly.exclusive (h : Orderly holds waits s) (ht : holds (s.pc t) l)
    (hu : holds (s.pc u) l) : t = u := by
  have htu := ((h.locked l t).mpr ht).symm.trans ((h.locked l u).mpr hu)
  exact some.inj htu

lemma Orderly.free (h : Orderly holds waits s) (hl : s.holder l = none) (t : T) :
    ¬ holds (s.pc t) l := by
  intro ht
  have := (h.locked l t).mpr ht
  rw [hl] at this
  cases this

structure State.Fresh (holds : Pc → L → Prop) (s : State δ L W T Pc) : Prop where
  holder : ∀ l, s.holder l = none
  holds : ∀ t l, ¬ holds (s.pc t) l
  asleep : ∀ t, s.asleep t = false
  chan : ∀ w, s.chan w = []

lemma State.Fresh.orderly (h : s.Fresh holds) : Orderly holds waits s := by
  refine ⟨fun l t => ?_, fun w t ht => ?_, fun t ht => ?_, fun w => ?_⟩
  · simp [h.holder, h.holds]
  · simp [h.chan] at ht
  · simp [h.asleep] at ht
  · simp [h.chan]

end Orderly

section Next

variable {i : ι} {k k' : Pc}

def Instr.Next (i : ι) (k : Pc) : Instr ι δ L W T Pc → Prop
  | .acquire _ _ k' | .release _ _ k' | .sleep _ _ _ k' => k = k'
  | .wakeone _ _ k' | .wakeall _ _ k' | .cleanup _ _ _ k' => k = k'
  | .act f => ∃ d d', f i d = some (d', k)

lemma next_to {f : ι → δ → δ}
    (h : (Instr.act fun i d => some (f i d, k') : Instr ι δ L W T Pc).Next i k) : k = k' := by
  obtain ⟨d, d', hact⟩ := h
  obtain ⟨-, rfl⟩ : f i d = d' ∧ k' = k := by simpa using hact
  rfl

lemma next_assert [DecidablePred c] {f : δ → δ}
    (h : (Instr.act fun _ d => if c d then some (f d, k') else none :
      Instr ι δ L W T Pc).Next i k) : k = k' := by
  obtain ⟨d, d', hact⟩ := h
  simp only [ite_none_right_eq_some, some.injEq, Prod.mk.injEq] at hact
  exact hact.2.2.symm

end Next

section Step

variable [DecidableEq T]

@[simps]
def State.goto (s : State δ L W T Pc) (t : T) (k : Pc) (d : δ) : State δ L W T Pc :=
  { s with pc := update s.pc t k, data := d }

@[simps]
def State.setHolder [DecidableEq L] (s : State δ L W T Pc) (l : L) (t : Option T) :
    State δ L W T Pc :=
  { s with holder := update s.holder l t }

@[simps]
def State.enqueue [DecidableEq W] (s : State δ L W T Pc) (w : W) (t : T) : State δ L W T Pc :=
  { s with
    asleep := update s.asleep t true
    chan := update s.chan w (s.chan w ++ [t]) }

@[simps]
def State.dequeue [DecidableEq W] (s : State δ L W T Pc) (w : W) (u : T) (us : List T) :
    State δ L W T Pc :=
  { s with
    asleep := update s.asleep u false
    chan := update s.chan w us }

@[simps]
def State.dequeueAll [DecidableEq W] (s : State δ L W T Pc) (w : W) : State δ L W T Pc :=
  { s with
    asleep := fun u => if u ∈ s.chan w then false else s.asleep u
    chan := update s.chan w [] }

variable [DecidableEq L] [DecidableEq W]

def step (code : T → Pc → Instr ι δ L W T Pc) (t : T) (i : ι) (s : State δ L W T Pc) :
    Option (State δ L W T Pc) :=
  if s.asleep t then none
  else match code t (s.pc t) with
    | .acquire l note k =>
      if s.holder l = none then some ((s.goto t k (note s.data)).setHolder l (some t)) else none
    | .release l note k =>
      if s.holder l = some t then some ((s.goto t k (note s.data)).setHolder l none) else none
    | .sleep w l note k =>
      if s.holder l = some t then
        some (((s.goto t k (note s.data)).enqueue w t).setHolder l none)
      else none
    | .wakeone w note k =>
      match s.chan w with
      | [] => some (s.goto t k (note none s.data))
      | u :: us => some ((s.goto t k (note (some u) s.data)).dequeue w u us)
    | .wakeall w note k => some ((s.goto t k (note (s.chan w) s.data)).dequeueAll w)
    | .cleanup l w note k =>
      if s.holder l = none ∧ ∀ c ∈ w, s.chan c = [] then some (s.goto t k (note s.data))
      else none
    | .act f =>
      match f i s.data with
      | none => none
      | some (d, k) => some (s.goto t k d)

def run (code : T → Pc → Instr ι δ L W T Pc) :
    List (T × ι) → State δ L W T Pc → Option (State δ L W T Pc)
  | [], s => some s
  | (t, i) :: rest, s => (step code t i s).bind (run code rest)

def Steps (code : T → Pc → Instr ι δ L W T Pc) (s s' : State δ L W T Pc) : Prop :=
  ∃ t i, step code t i s = some s'

abbrev Reaches (code : T → Pc → Instr ι δ L W T Pc) := Relation.ReflTransGen (Steps code)

abbrev GuardedReaches (code : T → Pc → Instr ι δ L W T Pc)
    (admits : T → ι → State δ L W T Pc → Prop) :=
  Relation.ReflTransGen fun s s' => ∃ t i, admits t i s ∧ step code t i s = some s'

def guardedRun (code : T → Pc → Instr ι δ L W T Pc) (admits : T → ι → State δ L W T Pc → Prop)
    [∀ t i s, Decidable (admits t i s)] :
    List (T × ι) → State δ L W T Pc → Option (State δ L W T Pc)
  | [], s => some s
  | (t, i) :: rest, s =>
    if admits t i s then (step code t i s).bind (guardedRun code admits rest) else none

variable {code : T → Pc → Instr ι δ L W T Pc} {t : T} {i : ι} {s s' : State δ L W T Pc} {k : Pc}

lemma run_reaches (h : run code schedule s = some s') : Reaches code s s' := by
  induction schedule generalizing s with
  | nil =>
    obtain rfl : s = s' := by simpa [run] using h
    exact .refl
  | cons move rest ih =>
    obtain ⟨u, hstep, hrest⟩ := bind_eq_some_iff.mp h
    exact .head ⟨move.1, move.2, hstep⟩ (ih hrest)

lemma guardedRun_reaches [∀ t i s, Decidable (admits t i s)]
    (h : guardedRun code admits schedule s = some s') : GuardedReaches code admits s s' := by
  induction schedule generalizing s with
  | nil =>
    obtain rfl : s = s' := by simpa [guardedRun] using h
    exact .refl
  | cons move rest ih =>
    simp only [guardedRun, ite_none_right_eq_some] at h
    obtain ⟨hadmits, h⟩ := h
    obtain ⟨u, hstep, hrest⟩ := bind_eq_some_iff.mp h
    exact .head ⟨move.1, move.2, hadmits, hstep⟩ (ih hrest)

section

variable (code : T → Pc → Instr ι δ L W T Pc)

lemma reaches_of_run (s : State δ L W T Pc)
    (p : State δ L W T Pc → Prop) [DecidablePred p] (schedule : List (T × ι))
    (h : (run code schedule s).any p = true) : ∃ s', Reaches code s s' ∧ p s' := by
  obtain ⟨s', hrun, hp⟩ := any_eq_true _ _ |>.mp h
  exact ⟨s', run_reaches hrun, of_decide_eq_true hp⟩

lemma guardedReaches_of_run (admits : T → ι → State δ L W T Pc → Prop)
    [∀ t i s, Decidable (admits t i s)]
    (s : State δ L W T Pc) (p : State δ L W T Pc → Prop) [DecidablePred p]
    (schedule : List (T × ι)) (h : (guardedRun code admits schedule s).any p = true) :
    ∃ s', GuardedReaches code admits s s' ∧ p s' := by
  obtain ⟨s', hrun, hp⟩ := any_eq_true _ _ |>.mp h
  exact ⟨s', guardedRun_reaches hrun, of_decide_eq_true hp⟩

end

lemma step_awake (h : step code t i s = some s') : s.asleep t = false := by
  by_contra hasleep
  simp [step, hasleep] at h

lemma step_acquire (hcode : code t (s.pc t) = .acquire l note k)
    (h : step code t i s = some s') :
    s.holder l = none ∧ s' = (s.goto t k (note s.data)).setHolder l (some t) := by
  simpa [step, step_awake h, hcode, eq_comm] using h

lemma step_release (hcode : code t (s.pc t) = .release l note k)
    (h : step code t i s = some s') :
    s.holder l = some t ∧ s' = (s.goto t k (note s.data)).setHolder l none := by
  simpa [step, step_awake h, hcode, eq_comm] using h

lemma step_sleep (hcode : code t (s.pc t) = .sleep w l note k) (h : step code t i s = some s') :
    s.holder l = some t ∧ s' = ((s.goto t k (note s.data)).enqueue w t).setHolder l none := by
  simpa [step, step_awake h, hcode, eq_comm] using h

lemma step_wakeone (hcode : code t (s.pc t) = .wakeone w note k)
    (h : step code t i s = some s') :
    (s.chan w = [] ∧ s' = s.goto t k (note none s.data)) ∨
      ∃ u us, s.chan w = u :: us ∧ s' = (s.goto t k (note (some u) s.data)).dequeue w u us := by
  cases hchan : s.chan w with
  | nil =>
    refine .inl ⟨rfl, ?_⟩
    simpa [step, step_awake h, hcode, hchan, eq_comm] using h
  | cons u us =>
    refine .inr ⟨u, us, rfl, ?_⟩
    simpa [step, step_awake h, hcode, hchan, eq_comm] using h

lemma step_wakeall (hcode : code t (s.pc t) = .wakeall w note k)
    (h : step code t i s = some s') : s' = (s.goto t k (note (s.chan w) s.data)).dequeueAll w := by
  simpa [step, step_awake h, hcode, eq_comm] using h

lemma step_cleanup (hcode : code t (s.pc t) = .cleanup l w note k)
    (h : step code t i s = some s') :
    (s.holder l = none ∧ ∀ c ∈ w, s.chan c = []) ∧ s' = s.goto t k (note s.data) := by
  simp only [step, step_awake h, hcode, Bool.false_eq_true, if_false,
    ite_none_right_eq_some, some.injEq] at h
  exact ⟨h.1, h.2.symm⟩

lemma step_act (hcode : code t (s.pc t) = .act f)
    (h : step code t i s = some s') : ∃ d k, f i s.data = some (d, k) ∧ s' = s.goto t k d := by
  cases hf : f i s.data with
  | none => simp [step, step_awake h, hcode, hf] at h
  | some next =>
    refine ⟨next.1, next.2, rfl, ?_⟩
    simpa [step, step_awake h, hcode, hf, eq_comm] using h

lemma step_to {f : ι → δ → δ} (hcode : code t (s.pc t) = .act fun i d => some (f i d, k))
    (h : step code t i s = some s') : s' = s.goto t k (f i s.data) := by
  obtain ⟨d, k', hact, rfl⟩ := step_act hcode h
  obtain ⟨rfl, rfl⟩ : f i s.data = d ∧ k = k' := by simpa using hact
  rfl

lemma step_assert [DecidablePred c] {f : δ → δ}
    (hcode : code t (s.pc t) = .act fun _ d => if c d then some (f d, k) else none)
    (h : step code t i s = some s') : c s.data ∧ s' = s.goto t k (f s.data) := by
  obtain ⟨d, k', hact, rfl⟩ := step_act hcode h
  simp only [ite_none_right_eq_some, some.injEq, Prod.mk.injEq] at hact
  obtain ⟨hc, rfl, rfl⟩ := hact
  exact ⟨hc, rfl⟩

lemma step_next (h : step code t i s = some s') :
    ∃ k, (code t (s.pc t)).Next i k ∧ s'.pc = update s.pc t k := by
  cases hinstr : code t (s.pc t) with
  | acquire l note k =>
    obtain ⟨-, rfl⟩ := step_acquire hinstr h
    exact ⟨k, rfl, rfl⟩
  | release l note k =>
    obtain ⟨-, rfl⟩ := step_release hinstr h
    exact ⟨k, rfl, rfl⟩
  | sleep w l note k =>
    obtain ⟨-, rfl⟩ := step_sleep hinstr h
    exact ⟨k, rfl, rfl⟩
  | wakeone w note k =>
    rcases step_wakeone hinstr h with ⟨-, rfl⟩ | ⟨u, us, -, rfl⟩
    · exact ⟨k, rfl, rfl⟩
    · exact ⟨k, rfl, rfl⟩
  | wakeall w note k =>
    obtain rfl := step_wakeall hinstr h
    exact ⟨k, rfl, rfl⟩
  | cleanup l w note k =>
    obtain ⟨-, rfl⟩ := step_cleanup hinstr h
    exact ⟨k, rfl, rfl⟩
  | act f =>
    obtain ⟨d, k, hf, rfl⟩ := step_act hinstr h
    exact ⟨k, ⟨s.data, d, hf⟩, rfl⟩

end Step

section Moved

lemma moved_cases [DecidableEq T] {s s' : State δ L W T Pc} {k : Pc}
    (hs' : s'.pc = update s.pc t k) (v : T) :
    (v = t ∧ s'.pc v = k) ∨ (v ≠ t ∧ s'.pc v = s.pc v) := by
  rw [hs']
  by_cases hvt : v = t
  · exact .inl ⟨hvt, by rw [hvt, update_self]⟩
  · exact .inr ⟨hvt, update_of_ne hvt ..⟩

end Moved

section Here

variable {s : State δ L W T Pc} {t : T}

def State.here (s : State δ L W T Pc) (t : T) : Pc × Bool := (s.pc t, s.asleep t)

lemma here_goto [DecidableEq T] (ht : s.asleep t = false) :
    (s.goto t k d).here = update s.here t (k, false) := by
  funext u
  by_cases hu : u = t
  · subst hu
    simp [State.here, ht]
  · simp [State.here, hu]

@[simp] lemma here_setHolder [DecidableEq L] (l : L) (x : Option T) :
    (s.setHolder l x).here = s.here := rfl

lemma here_dequeue [DecidableEq T] [DecidableEq W] (w : W) (us : List T) :
    (s.dequeue w u us).here = update s.here u (s.pc u, false) := by
  funext v
  by_cases hv : v = u
  · subst hv
    simp [State.here]
  · simp [State.here, hv]

end Here

section Preservation

variable {code : T → Pc → Instr ι δ L W T Pc} {t : T} {holds : Pc → L → Prop}
  {waits : Pc → Option W}

lemma Orderly.still_locked [DecidableEq T] (h : Orderly holds waits s)
    (hk : ∀ m, holds k m ↔ holds (s.pc t) m) (l : L) (u : T) :
    s.holder l = some u ↔ holds (update s.pc t k u) l := by
  rw [h.locked l u]
  by_cases hu : u = t
  · subst hu
    rw [update_self, hk]
  · rw [update_of_ne hu]

lemma Orderly.released [DecidableEq L] [DecidableEq T] (h : Orderly holds waits s)
    (hl : holds (s.pc t) l) (hk : ∀ m, holds k m ↔ holds (s.pc t) m ∧ m ≠ l) (m : L)
    (u : T) : update s.holder l none m = some u ↔ holds (update s.pc t k u) m := by
  by_cases hm : m = l
  · subst hm
    rw [update_self]
    refine iff_of_false (by simp) fun hu => ?_
    by_cases hut : u = t
    · subst hut
      rw [update_self, hk] at hu
      exact hu.2 rfl
    · rw [update_of_ne hut] at hu
      exact hut (h.exclusive hu hl)
  rw [update_of_ne hm, h.locked m u]
  by_cases hut : u = t
  · subst hut
    rw [update_self, hk]
    exact (and_iff_left hm).symm
  · rw [update_of_ne hut]

lemma Orderly.acquired [DecidableEq L] [DecidableEq T] (h : Orderly holds waits s)
    (hfree : s.holder l = none) (hk : ∀ m, holds k m ↔ holds (s.pc t) m ∨ m = l) (m : L)
    (u : T) : update s.holder l (some t) m = some u ↔ holds (update s.pc t k u) m := by
  by_cases hm : m = l
  · subst hm
    rw [update_self]
    by_cases hut : u = t
    · subst hut
      rw [update_self, hk]
      exact iff_of_true rfl (.inr rfl)
    · rw [update_of_ne hut]
      exact iff_of_false (fun heq => hut (some.inj heq).symm) (h.free hfree u)
  rw [update_of_ne hm, h.locked m u]
  by_cases hut : u = t
  · subst hut
    rw [update_self, hk]
    exact (or_iff_left hm).symm
  · rw [update_of_ne hut]

variable [DecidableEq L] [DecidableEq W] [DecidableEq T]

section

variable (hcode : ∀ t pc, (code t pc).Respects holds waits pc)

include hcode

lemma orderly_step (h : Orderly holds waits s) (hstep : step code t i s = some s') :
    Orderly holds waits s' := by
  have hawake := step_awake hstep
  have hrespects := hcode t (s.pc t)
  -- the lists as they are once the thread is at its next point
  have hlists : ∀ k, Listed (fun u => waits (update s.pc t k u)) s.asleep s.chan :=
    fun k => h.lists.moved hawake fun u hu => by rw [update_of_ne hu]
  cases hinstr : code t (s.pc t) with
  | acquire l note k =>
    rw [hinstr] at hrespects
    obtain ⟨hfree, rfl⟩ := step_acquire hinstr hstep
    exact ⟨h.acquired hfree hrespects.2, hlists k⟩
  | release l note k =>
    rw [hinstr] at hrespects
    obtain ⟨-, rfl⟩ := step_release hinstr hstep
    exact ⟨h.released hrespects.1 hrespects.2, hlists k⟩
  | sleep w l note k =>
    rw [hinstr] at hrespects
    obtain ⟨hl, hwaits, hk⟩ := hrespects
    obtain ⟨-, rfl⟩ := step_sleep hinstr hstep
    have hwaits' : waits (update s.pc t k t) = some w := by rwa [update_self]
    exact ⟨h.released hl hk, (hlists k).slept hawake hwaits'⟩
  | wakeone w note k =>
    rw [hinstr] at hrespects
    rcases step_wakeone hinstr hstep with ⟨-, rfl⟩ | ⟨u, us, hchan, rfl⟩
    · exact ⟨h.still_locked hrespects, hlists k⟩
    · exact ⟨h.still_locked hrespects, (hlists k).wokeone hchan⟩
  | wakeall w note k =>
    rw [hinstr] at hrespects
    obtain rfl := step_wakeall hinstr hstep
    exact ⟨h.still_locked hrespects, (hlists k).wokeall w⟩
  | cleanup l w note k =>
    rw [hinstr] at hrespects
    obtain ⟨-, rfl⟩ := step_cleanup hinstr hstep
    exact ⟨h.still_locked hrespects, hlists k⟩
  | act f =>
    rw [hinstr] at hrespects
    obtain ⟨d, k, hf, rfl⟩ := step_act hinstr hstep
    exact ⟨h.still_locked (hrespects i s.data d k hf), hlists k⟩

-- What every admitted step preserves, given that locks and lists are in order, holds in every
-- state that threads which have not started can reach.
lemma guarded_invariant {Inv : State δ L W T Pc → Prop}
    (hinv : ∀ s s' t i, Orderly holds waits s → Inv s → admits t i s →
      step code t i s = some s' → Inv s')
    (hfresh : s.Fresh holds) (hs : Inv s) (hreaches : GuardedReaches code admits s s') :
    Orderly holds waits s' ∧ Inv s' := by
  induction hreaches with
  | refl => exact ⟨hfresh.orderly, hs⟩
  | tail _ hlast ih =>
    obtain ⟨t, i, hadmits, hstep⟩ := hlast
    exact ⟨orderly_step hcode ih.1 hstep, hinv _ _ t i ih.1 ih.2 hadmits hstep⟩

lemma reaches_invariant {Inv : State δ L W T Pc → Prop}
    (hinv : ∀ s s' t i, Orderly holds waits s → Inv s → step code t i s = some s' → Inv s')
    (hfresh : s.Fresh holds) (hs : Inv s) (hreaches : Reaches code s s') :
    Orderly holds waits s' ∧ Inv s' := by
  have hguarded : GuardedReaches code (fun _ _ _ => True) s s' :=
    Relation.ReflTransGen.mono (fun _ _ ⟨t, i, hstep⟩ => ⟨t, i, trivial, hstep⟩) _ _ hreaches
  exact guarded_invariant hcode (fun s s' t i ho hi _ => hinv s s' t i ho hi) hfresh hs hguarded

end

end Preservation

end Os161.Lib.Threads
