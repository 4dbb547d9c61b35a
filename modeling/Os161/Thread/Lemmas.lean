import Os161.Lib.Places
import Os161.Thread

namespace Os161.Thread

open Function Lib.Threads Option
open Lib.Places

variable {C L W T : Type}

def Sched.executed (d : Sched C L W T) (c : C) : List T :=
  if d.isidle c then [] else [d.curthread c]

-- The threads that thread_make_runnable is still to put on a run queue. The new thread of
-- thread_fork is not among them: it is with its parent.
def Caller.pending (target : T) : Caller T → List T
  | .fork => []
  | .wakeone => [target]
  | .wakeall list => target :: list

def hand (d : Sched C L W T) (c : C) : Phase C L W T → List T
  | .unlockChannel _ | .setState _ => []
  | .dispatch next => [next]
  | .destroy z => d.executed c ++ [z]
  | .collect _ list | .wakeall list => d.executed c ++ list
  | .lockTarget target _ caller => d.executed c ++ caller.pending target
  | .makeRunnable target _ caller => d.executed c ++ caller.pending target
  | .unlockTarget _ caller => d.executed c ++ caller.list
  | _ => d.executed c

inductive Place (C W T : Type) where
  | hand (c : C)
  | queue (c : C)
  | channel (wc : W)
  | zombies (c : C)
  | newborn (parent : T)
deriving DecidableEq

def Sched.lists (d : Sched C L W T) : Place C W T → List T
  | .hand _ => []
  | .queue c => d.runqueue c
  | .channel wc => d.wchan wc
  | .zombies c => d.zombies c
  | .newborn parent => (d.newthread parent).toList

def contents (s : System C L W T) : Place C W T → List T
  | .hand c => hand s.data c (s.pc c).phase
  | p => s.data.lists p

def Fits (d : Sched C L W T) (c : C) : Phase C L W T → Prop
  | .switch _ | .place _ | .unlockEmpty | .unlockChannel _ | .setState _ => d.isidle c = false
  | .pick | .idle | .unidle => d.isidle c = true
  | .dispatch next => d.isidle c = true ∧ d.tCpu next = some c
  | .resume | .unlockQueue | .exorcise | .relock _ => d.isidle c = false
  | .destroy z => d.isidle c = false ∧ d.tCpu z = some c
  | .lockTarget target targetcpu .fork | .makeRunnable target targetcpu .fork =>
    d.tCpu target = some targetcpu ∧ d.isidle c = false ∧
      d.newthread (d.curthread c) = some target
  | .lockTarget target targetcpu _ | .makeRunnable target targetcpu _ =>
    d.tCpu target = some targetcpu
  | _ => True

structure Inv (s : System C L W T) : Prop where
  placed : Placed (contents s) fun t => s.data.live t = true
  curLive : ∀ c, s.data.live (s.data.curthread c) = true
  curCpu : ∀ c, s.data.tCpu (s.data.curthread c) = some c
  queueCpu : ∀ c t, t ∈ s.data.runqueue c → s.data.tCpu t = some c
  zombieCpu : ∀ c t, t ∈ s.data.zombies c → s.data.tCpu t = some c
  curBorn : ∀ c p, s.data.newthread p ≠ some (s.data.curthread c)
  fits : ∀ c, Fits s.data c (s.pc c).phase

structure Sched.Same (d d' : Sched C L W T) : Prop where
  live : d'.live = d.live
  tCpu : d'.tCpu = d.tCpu
  curthread : d'.curthread = d.curthread
  isidle : d'.isidle = d.isidle

section Hand

variable {d : Sched C L W T}

lemma hand_congr (hidle : d'.isidle c = d.isidle c) (hcur : d'.curthread c = d.curthread c)
    (phase : Phase C L W T) : hand d' c phase = hand d c phase := by
  have hexecuted : d'.executed c = d.executed c := by
    rw [Sched.executed, Sched.executed, hidle, hcur]
  cases phase <;> simp only [hand, hexecuted]

lemma Sched.Same.hand (h : d.Same d') (c : C) (phase : Phase C L W T) :
    Thread.hand d' c phase = Thread.hand d c phase :=
  hand_congr (by rw [h.isidle]) (by rw [h.curthread]) phase

lemma executed_idle (h : d.isidle c = true) : d.executed c = [] := by simp [Sched.executed, h]

lemma executed_busy (h : d.isidle c = false) : d.executed c = [d.curthread c] := by
  simp [Sched.executed, h]

lemma wake_eq (h : wake held target caller d₀ = some (d, k)) : d = d₀ ∧
      ∃ targetcpu, d₀.tCpu target = some targetcpu ∧
        k = ⟨held, .lockTarget target targetcpu caller⟩ := by
  cases hcpu : d₀.tCpu target with
  | none => simp [wake, hcpu] at h
  | some targetcpu =>
    simp only [wake, hcpu, some.injEq, Prod.mk.injEq] at h
    exact ⟨h.1.symm, targetcpu, rfl, h.2.symm⟩

lemma threadDestroy_eq [DecidableEq T] (h : threadDestroy cur thread d₀ = some d) :
    thread ≠ cur ∧ d = { d₀ with live := update d₀.live thread false } := by
  simp only [threadDestroy, ite_none_right_eq_some, some.injEq] at h
  exact ⟨h.1.1, h.2.symm⟩

end Hand

section Inv

variable {s s' : System C L W T} {c : C}

lemma Inv.curthread_injective (h : Inv s) : Function.Injective s.data.curthread := by
  intro c c' heq
  have hc := h.curCpu c
  rw [heq, h.curCpu c'] at hc
  exact (some.inj hc).symm

lemma Inv.fits_frame (h : Inv s) (hidle : d.isidle c = s.data.isidle c)
    (hcur : d.curthread c = s.data.curthread c)
    (hcpu : ∀ t x, s.data.live t = true → s.data.tCpu t = some x → d.tCpu t = some x)
    (hnew : d.newthread (s.data.curthread c) = s.data.newthread (s.data.curthread c)) :
    Fits d c (s.pc c).phase := by
  have hfits := h.fits c
  have hlive : ∀ t, t ∈ hand s.data c (s.pc c).phase → s.data.live t = true :=
    h.placed.present (.hand c)
  have hborn : ∀ t, s.data.newthread (s.data.curthread c) = some t → s.data.live t = true := by
    intro t ht
    exact h.placed.present (.newborn (s.data.curthread c)) t (by simp [contents, Sched.lists, ht])
  cases hphase : (s.pc c).phase with
  | dispatch next =>
    rw [hphase] at hfits hlive
    exact ⟨hidle.trans hfits.1, hcpu _ _ (hlive next (by simp [hand])) hfits.2⟩
  | destroy z =>
    rw [hphase] at hfits hlive
    exact ⟨hidle.trans hfits.1, hcpu _ _ (hlive z (by simp [hand])) hfits.2⟩
  | lockTarget target targetcpu caller | makeRunnable target targetcpu caller =>
    rw [hphase] at hfits hlive
    cases caller with
    | fork =>
      obtain ⟨htarget, hbusy, hnewthread⟩ := hfits
      refine ⟨hcpu _ _ (hborn target hnewthread) htarget, hidle.trans hbusy, ?_⟩
      rw [hcur, hnew, hnewthread]
    | wakeone | wakeall list => exact hcpu _ _ (hlive target (by simp [hand, Caller.pending])) hfits
  | _ =>
    rw [hphase] at hfits
    simp only [Fits, hidle] at hfits ⊢ <;> exact hfits

lemma contents_lists (hp : ∀ c, p ≠ .hand c) : contents s p = s.data.lists p := by
  cases p with
  | hand c => exact absurd rfl (hp c)
  | _ => rfl

lemma Inv.zombie_unexecuted (h : Inv s) (hphase : (s.pc c).phase = .destroy z) (c' : C) :
    s.data.curthread c' ≠ z := by
  rintro rfl
  obtain ⟨hbusy, hcpu⟩ : s.data.isidle c = false ∧
      s.data.tCpu (s.data.curthread c') = some c := by simpa [Fits, hphase] using h.fits c
  obtain rfl : c' = c := some.inj ((h.curCpu c').symm.trans hcpu)
  have honce := h.placed.once (.hand c')
  simp [contents, hphase, hand, executed_busy hbusy] at honce

variable [DecidableEq C] {k : Pc C L W T}

lemma Inv.moved (h : Inv s) (hpc : s'.pc = update s.pc c k)
    (hidle : ∀ c', c' ≠ c → s'.data.isidle c' = s.data.isidle c')
    (hcur : ∀ c', c' ≠ c → s'.data.curthread c' = s.data.curthread c')
    (hcpu : ∀ t x, s.data.live t = true → s.data.tCpu t = some x → s'.data.tCpu t = some x)
    (hnew : ∀ p, p ≠ s.data.curthread c → s'.data.newthread p = s.data.newthread p)
    (hplaced : Placed (contents s') fun t => s'.data.live t = true)
    (hlive : ∀ c, s'.data.live (s'.data.curthread c) = true)
    (hcurCpu : s'.data.tCpu (s'.data.curthread c) = some c)
    (hqueue : ∀ c t, t ∈ s'.data.runqueue c → s'.data.tCpu t = some c)
    (hzombie : ∀ c t, t ∈ s'.data.zombies c → s'.data.tCpu t = some c)
    (hborn : ∀ c p, s'.data.newthread p ≠ some (s'.data.curthread c))
    (hfits : Fits s'.data c k.phase) : Inv s' := by
  refine ⟨hplaced, hlive, fun c' => ?_, hqueue, hzombie, hborn, fun c' => ?_⟩
  · by_cases hc' : c' = c
    · rw [hc']
      exact hcurCpu
    · rw [hcur c' hc']
      exact hcpu _ _ (h.curLive c') (h.curCpu c')
  rcases moved_cases hpc c' with ⟨rfl, hk⟩ | ⟨hc', hk⟩
  · rw [hk]
    exact hfits
  rw [hk]
  refine h.fits_frame (hidle c' hc') (hcur c' hc') hcpu (hnew _ fun heq => hc' ?_)
  exact h.curthread_injective heq

section

variable (hpc : s'.pc = update s.pc c k)

include hpc

lemma contents_hand :
    contents s' (.hand c) = hand s'.data c k.phase := by
  rw [contents, hpc, update_self]

lemma contents_other (hidle : ∀ c', c' ≠ c → s'.data.isidle c' = s.data.isidle c')
    (hcur : ∀ c', c' ≠ c → s'.data.curthread c' = s.data.curthread c')
    (hp : p ≠ .hand c) (hlists : s'.data.lists p = s.data.lists p) :
    contents s' p = contents s p := by
  cases p with
  | hand c' =>
    have hc' : c' ≠ c := fun heq => hp (congrArg _ heq)
    rw [contents, hpc, update_of_ne hc']
    exact hand_congr (hidle c' hc') (hcur c' hc') _
  | _ => exact hlists

lemma contents_unmoved (hidle : s'.data.isidle = s.data.isidle)
    (hcur : s'.data.curthread = s.data.curthread)
    (hhand : hand s.data c k.phase = hand s.data c (s.pc c).phase)
    (hlists : s'.data.lists p = s.data.lists p) : contents s' p = contents s p := by
  by_cases hp : p = .hand c
  · subst hp
    rw [contents_hand hpc, hand_congr (congrFun hidle c) (congrFun hcur c), hhand, contents]
  · exact contents_other hpc (fun c' _ => congrFun hidle c') (fun c' _ => congrFun hcur c') hp
      hlists

end

section

variable (h : Inv s) (hpc : s'.pc = update s.pc c k)

include h hpc

lemma Inv.framed (hsame : s.data.Same s'.data)
    (hnew : ∀ p, p ≠ s.data.curthread c → s'.data.newthread p = s.data.newthread p)
    (hborn : ∀ p n, s'.data.newthread p = some n → s.data.newthread p = some n)
    (hplaced : Placed (contents s') fun t => s.data.live t = true)
    (hqueue : ∀ c t, t ∈ s'.data.runqueue c → s.data.tCpu t = some c)
    (hzombie : ∀ c t, t ∈ s'.data.zombies c → s.data.tCpu t = some c)
    (hfits : Fits s'.data c k.phase) : Inv s' := by
  obtain ⟨hlive, htCpu, hcurthread, hisidle⟩ := hsame
  refine h.moved hpc ?_ ?_ ?_ hnew ?_ ?_ ?_ ?_ ?_ (fun c' p hp => ?_) hfits
  · simp [hisidle]
  · simp [hcurthread]
  · simp [htCpu]
  · rwa [hlive]
  · rw [hlive, hcurthread]
    exact h.curLive
  · rw [htCpu, hcurthread]
    exact h.curCpu c
  · rwa [htCpu]
  · rwa [htCpu]
  · rw [hcurthread] at hp
    exact h.curBorn c' p (hborn p _ hp)

lemma Inv.kept (hsame : s.data.Same s'.data) (hlists : s'.data.lists = s.data.lists)
    (hnew : s'.data.newthread = s.data.newthread)
    (hhand : hand s.data c k.phase = hand s.data c (s.pc c).phase)
    (hfits : Fits s'.data c k.phase) : Inv s' := by
  have hcontents : contents s' = contents s := by
    funext p
    exact contents_unmoved hpc hsame.isidle hsame.curthread hhand (by rw [hlists])
  have hqueue : s'.data.runqueue = s.data.runqueue := funext fun c' => congrFun hlists (.queue c')
  have hzombies : s'.data.zombies = s.data.zombies :=
    funext fun c' => congrFun hlists (.zombies c')
  refine h.framed hpc hsame (fun _ _ => by rw [hnew]) (by simp [hnew]) ?_ ?_ ?_ hfits
  · rw [hcontents]
    exact h.placed
  · rw [hqueue]
    exact h.queueCpu
  · rw [hzombies]
    exact h.zombieCpu

lemma Inv.passes (hdata : s'.data = s.data)
    (hhand : hand s.data c k.phase = hand s.data c (s.pc c).phase)
    (hfits : Fits s.data c k.phase) : Inv s' := by
  rw [← hdata] at hfits
  exact h.kept hpc (by rw [hdata]; exact ⟨rfl, rfl, rfl, rfl⟩) (by rw [hdata]) (by rw [hdata])
    hhand hfits

end

end Inv

section Transfer

variable {s s' : System C L W T} {c : C} {k : Pc C L W T} [DecidableEq C] [DecidableEq W]
  [DecidableEq T]

section

variable (h : Inv s) (hpc : s'.pc = update s.pc c k) (hsame : s.data.Same s'.data)
  (hnew : s'.data.newthread = s.data.newthread)

include h hpc hsame hnew

lemma Inv.put (hlists : s'.data.lists = update s.data.lists q (s.data.lists q ++ [t]))
    (hq : ∀ c', q ≠ .hand c')
    (hcpu : ∀ c', q = .queue c' ∨ q = .zombies c' → s.data.tCpu t = some c')
    (hhand : (hand s.data c (s.pc c).phase).Perm (t :: hand s.data c k.phase))
    (hfits : Fits s'.data c k.phase) : Inv s' := by
  have hmem : ∀ p u, u ∈ s'.data.lists p → u ∈ s.data.lists p ∨ (p = q ∧ u = t) := by
    intro p u hu
    rw [hlists] at hu
    by_cases hp : p = q
    · subst hp
      simpa using hu
    · rw [update_of_ne hp] at hu
      exact .inl hu
  refine h.framed hpc hsame (fun _ _ => by rw [hnew]) (by simp [hnew]) ?_ (fun c' u hu => ?_)
    (fun c' u hu => ?_) hfits
  · refine h.placed.moved (p := .hand c) (q := q) (t := t) (hq c).symm ?_ ?_ ?_
    · rw [contents_hand hpc, hsame.hand]
      exact hhand
    · rw [contents_lists hq, contents_lists hq, hlists, update_self]
      exact List.perm_append_singleton t _
    intro p hp hpq
    rw [contents_other hpc (fun c' _ => congrFun hsame.isidle c')
      (fun c' _ => congrFun hsame.curthread c') hp (by rw [hlists, update_of_ne hpq])]
  · rcases hmem (.queue c') u hu with hu | ⟨hp, rfl⟩
    · exact h.queueCpu c' u hu
    · exact hcpu c' (.inl hp.symm)
  rcases hmem (.zombies c') u hu with hu | ⟨hp, rfl⟩
  · exact h.zombieCpu c' u hu
  · exact hcpu c' (.inr hp.symm)

lemma Inv.taken (hlists : s'.data.lists = update s.data.lists q l) (hl : s.data.lists q = t :: l)
    (hq : ∀ c', q ≠ .hand c')
    (hhand : (hand s.data c k.phase).Perm (t :: hand s.data c (s.pc c).phase))
    (hfits : Fits s'.data c k.phase) : Inv s' := by
  have hmem : ∀ p u, u ∈ s'.data.lists p → u ∈ s.data.lists p := by
    intro p u hu
    rw [hlists] at hu
    by_cases hp : p = q
    · subst hp
      rw [update_self] at hu
      rw [hl]
      exact List.mem_cons_of_mem t hu
    · rwa [update_of_ne hp] at hu
  refine h.framed hpc hsame (fun _ _ => by rw [hnew]) (by simp [hnew]) ?_
    (fun c' u hu => h.queueCpu c' u (hmem (.queue c') u hu))
    (fun c' u hu => h.zombieCpu c' u (hmem (.zombies c') u hu)) hfits
  refine h.placed.moved (p := q) (q := .hand c) (t := t) (hq c) ?_ ?_ ?_
  · rw [contents_lists hq, contents_lists hq, hlists, update_self, hl]
  · rw [contents_hand hpc, hsame.hand]
    exact hhand
  intro p hpq hp
  rw [contents_other hpc (fun c' _ => congrFun hsame.isidle c')
      (fun c' _ => congrFun hsame.curthread c') hp (by rw [hlists, update_of_ne hpq])]

end

end Transfer

end Os161.Thread
