import Os161.Thread.Lemmas

namespace Os161.Thread

open Function Lib.Threads List Option
open Lib.Places Sched

variable {C L W T : Type} [DecidableEq C] {s : System C L W T} {c : C}

section Steps

variable [DecidableEq L] [DecidableEq W] [DecidableEq T]

lemma step_spinlockAcquire
    (hcode : code lockOf c (s.pc c) = spinlockAcquire held l note phase)
    (h : step (code lockOf) c i s = some s') :
    s'.pc = update s.pc c ⟨l :: held, phase⟩ ∧ s'.data = note s.data := by
  by_cases hl : l ∈ held
  · rw [spinlockAcquire, if_pos hl] at hcode
    obtain ⟨d, k, hnone, -⟩ := step_act hcode h
    cases hnone
  rw [spinlockAcquire, if_neg hl] at hcode
  obtain ⟨-, rfl⟩ := step_acquire hcode h
  exact ⟨rfl, rfl⟩

lemma step_spinlockRelease (hcode : code lockOf c (s.pc c) = spinlockRelease held l phase)
    (h : step (code lockOf) c i s = some s') :
    s'.pc = update s.pc c ⟨held.filter (· ≠ l), phase⟩ ∧ s'.data = s.data := by
  by_cases hl : l ∈ held
  · rw [spinlockRelease, if_pos hl] at hcode
    obtain ⟨-, rfl⟩ := step_release hcode h
    exact ⟨rfl, rfl⟩
  rw [spinlockRelease, if_neg hl] at hcode
  obtain ⟨d, k, hnone, -⟩ := step_act hcode h
  cases hnone

end Steps

section Phases

lemma inv_wakeall (h : Inv s) (hphase : (s.pc c).phase = .wakeall list)
    (hwake : wchanWakeall held list s.data = some (d, k)) : Inv (s.goto c k d) := by
  cases list with
  | nil =>
    simp only [wchanWakeall, some.injEq, Prod.mk.injEq] at hwake
    obtain ⟨rfl, rfl⟩ := hwake
    exact h.passes rfl rfl (by simp [hphase, hand]) trivial
  | cons target rest =>
    obtain ⟨rfl, targetcpu, hcpu, rfl⟩ := wake_eq hwake
    exact h.passes rfl rfl (by rw [hphase]; rfl) hcpu

variable [DecidableEq T]

lemma inv_destroy (h : Inv s) (hphase : (s.pc c).phase = .destroy z)
    (hdestroy : threadDestroy (s.data.curthread c) z s.data = some d) :
    Inv (s.goto c ⟨held, .exorcise⟩ d) := by
  obtain ⟨-, rfl⟩ := threadDestroy_eq hdestroy
  have hbusy : s.data.isidle c = false := by
    have hfits := h.fits c
    rw [hphase] at hfits
    exact hfits.1
  refine h.moved rfl (fun _ _ => rfl) (fun _ _ => rfl) (fun _ _ _ ht => ht) (fun _ _ => rfl) ?_
    (fun c' => ?_) (h.curCpu c) h.queueCpu h.zombieCpu h.curBorn hbusy
  · refine h.placed.removed (p := .hand c) (t := z) ?_ ?_ ?_
    · rw [contents, hphase, contents_hand (by rfl)]
      exact perm_append_singleton z _
    · intro p hp
      rw [contents_other (by rfl) (by intros; rfl) (by intros; rfl) hp (by rfl)]
    · intro u
      by_cases hu : u = z <;> simp [hu]
  · have hne := h.zombie_unexecuted hphase c'
    simpa [hne] using h.curLive c'

section

variable (h : Inv s) (hphase : (s.pc c).phase = .free)

include h hphase

lemma inv_fork (hnone : s.data.newthread (s.data.curthread c) = none)
    (hdead : s.data.live n = false) :
    Inv (s.goto c ⟨held, .free⟩ (threadCreate (s.data.curthread c) n s.data)) := by
  have hlive : ∀ t, s.data.live t = true → t ≠ n := by
    rintro t ht rfl
    simp [hdead] at ht
  have hcpu : ∀ t x, s.data.live t = true → s.data.tCpu t = some x →
      (threadCreate (s.data.curthread c) n s.data).tCpu t = some x := by
    intro t x ht hx
    simpa [threadCreate, hlive t ht] using hx
  refine h.moved rfl (fun _ _ => rfl) (fun _ _ => rfl) hcpu
    (fun p hp => update_of_ne hp ..) ?_ (fun c' => ?_)
    (hcpu _ _ (h.curLive c) (h.curCpu c)) (fun c' t ht => ?_) (fun c' t ht => ?_)
    (fun c' p hp => ?_) trivial
  · refine h.placed.added (p := .newborn (s.data.curthread c)) (t := n) (by simp [hdead]) ?_ ?_ ?_
    · simp [contents, lists, threadCreate, hnone]
    · intro p hp
      rw [contents_unmoved (c := c) (by rfl) (by rfl) (by rfl) (by rw [hphase])]
      cases p <;> simp_all [lists, threadCreate]
    · intro u
      by_cases hu : u = n <;> simp [threadCreate, hu]
  · simp [threadCreate, hlive _ (h.curLive c'), h.curLive c']
  · exact hcpu t c' (h.placed.present (.queue c') t ht) (h.queueCpu c' t ht)
  · exact hcpu t c' (h.placed.present (.zombies c') t ht) (h.zombieCpu c' t ht)
  by_cases hcur : p = s.data.curthread c
  · have hn : n = s.data.curthread c' := by simpa [threadCreate, hcur] using hp
    exact hlive _ (h.curLive c') hn.symm
  · exact h.curBorn c' p (by simpa [threadCreate, hcur] using hp)

lemma inv_forkFails (hfork : forkFails held (s.data.curthread c) s.data = some (d, k)) :
    Inv (s.goto c k d) := by
  cases hnew : s.data.newthread (s.data.curthread c) with
  | none => simp [forkFails, hnew] at hfork
  | some n =>
    simp only [forkFails, hnew, map_eq_some_iff, Prod.mk.injEq] at hfork
    obtain ⟨d', hdestroy, rfl, rfl⟩ := hfork
    obtain ⟨-, rfl⟩ := threadDestroy_eq hdestroy
    refine h.moved rfl (fun _ _ => rfl) (fun _ _ => rfl) (fun _ _ _ ht => ht)
      (fun p hp => update_of_ne hp ..) ?_ (fun c' => ?_) (h.curCpu c) h.queueCpu
      h.zombieCpu (fun c' p hp => ?_) trivial
    · refine h.placed.removed (p := .newborn (s.data.curthread c)) (t := n) ?_ ?_ ?_
      · simp [contents, lists, hnew]
      · intro p hp
        rw [contents_unmoved (c := c) (by rfl) (by rfl) (by rfl) (by rw [hphase])]
        cases p <;> simp_all [lists]
      · intro u
        by_cases hu : u = n <;> simp [hu]
    · have hne : s.data.curthread c' ≠ n := fun heq => h.curBorn c' _ (heq ▸ hnew)
      simpa [hne] using h.curLive c'
    by_cases hcur : p = s.data.curthread c
    · simp [hcur] at hp
    · exact h.curBorn c' p (by simpa [hcur] using hp)

lemma inv_forkGoesOn (hbusy : s.data.isidle c = false)
    (hfork : forkGoesOn held (s.data.curthread c) s.data = some (d, k)) : Inv (s.goto c k d) := by
  cases hnew : s.data.newthread (s.data.curthread c) with
  | none => simp [forkGoesOn, hnew] at hfork
  | some n =>
    by_cases hcpu : s.data.tCpu n = none
    · simp only [forkGoesOn, hnew, hcpu, if_true, some.injEq, Prod.mk.injEq] at hfork
      obtain ⟨rfl, rfl⟩ := hfork
      have hcpus : ∀ t x, s.data.tCpu t = some x →
          update s.data.tCpu n (s.data.tCpu (s.data.curthread c)) t = some x := by
        intro t x ht
        have hne : t ≠ n := by
          rintro rfl
          simp [hcpu] at ht
        rwa [update_of_ne hne]
      refine h.moved rfl (fun _ _ => rfl) (fun _ _ => rfl) (fun t x _ ht => hcpus t x ht)
        (fun _ _ => rfl) (h.placed.same fun p => ?_) h.curLive (hcpus _ _ (h.curCpu c))
        (fun c' t ht => hcpus t c' (h.queueCpu c' t ht))
        (fun c' t ht => hcpus t c' (h.zombieCpu c' t ht)) h.curBorn trivial
      rw [contents_unmoved (c := c) (by rfl) (by rfl) (by rfl) (by rw [hphase])]
      rfl
    simp only [forkGoesOn, hnew, hcpu, if_false] at hfork
    obtain ⟨rfl, targetcpu, htarget, rfl⟩ := wake_eq hfork
    exact h.passes rfl rfl (by simp [hphase, hand, Caller.pending]) ⟨htarget, hbusy, hnew⟩

lemma inv_call [DecidableEq L] (hcall : call lockOf c held s.data i = some (d, k)) :
    Inv (s.goto c k d) := by
  cases i with
  | lock l | unlock l =>
    obtain ⟨rfl, rfl⟩ := Prod.mk.inj (some.inj hcall)
    exact h.passes rfl rfl (by rw [hphase]; rfl) trivial
  | fork n =>
    simp only [call, ite_none_right_eq_some, some.injEq, Prod.mk.injEq] at hcall
    obtain ⟨⟨-, hnone, hdead⟩, rfl, rfl⟩ := hcall
    exact inv_fork h hphase hnone hdead
  | forkFails =>
    obtain ⟨-, hfork⟩ := ite_none_right_eq_some.mp hcall
    exact inv_forkFails h hphase hfork
  | forkGoesOn =>
    obtain ⟨hbusy, hfork⟩ := ite_none_right_eq_some.mp hcall
    exact inv_forkGoesOn h hphase hbusy hfork
  | yield =>
    by_cases hidle : s.data.isidle c = true
    · simp only [call, hidle, if_true, some.injEq, Prod.mk.injEq] at hcall
      obtain ⟨rfl, rfl⟩ := hcall
      exact h.passes rfl rfl (by rw [hphase]) trivial
    rw [call, if_neg hidle] at hcall
    obtain ⟨rfl, rfl⟩ := Prod.mk.inj (some.inj hcall)
    refine h.passes rfl rfl (by rw [hphase]; rfl) ?_
    simpa [Fits] using hidle
  | sleep wc =>
    simp only [call, ite_none_right_eq_some, some.injEq, Prod.mk.injEq] at hcall
    obtain ⟨⟨hbusy, -⟩, rfl, rfl⟩ := hcall
    exact h.kept rfl ⟨rfl, rfl, rfl, rfl⟩ rfl rfl (by rw [hphase]; rfl) hbusy
  | exit =>
    simp only [call, ite_none_right_eq_some, some.injEq, Prod.mk.injEq] at hcall
    obtain ⟨⟨hbusy, -⟩, rfl, rfl⟩ := hcall
    exact h.passes rfl rfl (by rw [hphase]; rfl) hbusy
  | wakeone wc =>
    simp only [call, ite_none_right_eq_some, some.injEq, Prod.mk.injEq] at hcall
    obtain ⟨-, rfl, rfl⟩ := hcall
    exact h.passes rfl rfl (by rw [hphase]; rfl) trivial
  | wakeall wc =>
    simp only [call, ite_none_right_eq_some, some.injEq, Prod.mk.injEq] at hcall
    obtain ⟨-, rfl, rfl⟩ := hcall
    exact h.passes rfl rfl (by simp [hphase, hand]) trivial
  | unidle =>
    simp only [call, ite_none_right_eq_some, some.injEq, Prod.mk.injEq] at hcall
    obtain ⟨hidle, rfl, rfl⟩ := hcall
    exact h.passes rfl rfl (by rw [hphase]; rfl) hidle

end

variable [DecidableEq W]

section

variable (h : Inv s)

include h

lemma inv_pick (hphase : (s.pc c).phase = .pick)
    (hpick : pick c held s.data = some (d, k)) : Inv (s.goto c k d) := by
  have hidle : s.data.isidle c = true := by simpa [Fits, hphase] using h.fits c
  cases hqueue : s.data.runqueue c with
  | nil =>
    simp only [pick, hqueue, some.injEq, Prod.mk.injEq] at hpick
    obtain ⟨rfl, rfl⟩ := hpick
    exact h.passes rfl rfl (by rw [hphase]; rfl) hidle
  | cons next rest =>
    simp only [pick, hqueue, some.injEq, Prod.mk.injEq] at hpick
    obtain ⟨rfl, rfl⟩ := hpick
    have hcpu : s.data.tCpu next = some c := h.queueCpu c next (by simp [hqueue])
    refine h.taken (q := .queue c) (t := next) rfl ⟨rfl, rfl, rfl, rfl⟩ rfl ?_ hqueue (by simp)
      ?_ ⟨hidle, hcpu⟩
    · funext p
      cases p <;> simp [lists, update_apply]
    · simp [hand, hphase, executed_idle hidle]

lemma inv_exorcise (hphase : (s.pc c).phase = .exorcise)
    (hexorcise : exorcise c held s.data = some (d, k)) : Inv (s.goto c k d) := by
  have hbusy : s.data.isidle c = false := by simpa [Fits, hphase] using h.fits c
  cases hzombies : s.data.zombies c with
  | nil =>
    cases hlk : s.data.lk (s.data.curthread c) with
    | none =>
      simp only [exorcise, hzombies, hlk, some.injEq, Prod.mk.injEq] at hexorcise
      obtain ⟨rfl, rfl⟩ := hexorcise
      exact h.passes rfl rfl (by rw [hphase]; rfl) trivial
    | some lk =>
      simp only [exorcise, hzombies, hlk, some.injEq, Prod.mk.injEq] at hexorcise
      obtain ⟨rfl, rfl⟩ := hexorcise
      exact h.passes rfl rfl (by rw [hphase]; rfl) hbusy
  | cons z rest =>
    simp only [exorcise, hzombies, ite_none_right_eq_some, some.injEq, Prod.mk.injEq] at hexorcise
    obtain ⟨-, rfl, rfl⟩ := hexorcise
    have hcpu : s.data.tCpu z = some c := h.zombieCpu c z (by simp [hzombies])
    refine h.taken (q := .zombies c) (t := z) rfl ⟨rfl, rfl, rfl, rfl⟩ rfl ?_ hzombies (by simp)
      ?_ ⟨hbusy, hcpu⟩
    · funext p
      cases p <;> simp [lists, update_apply]
    · rw [hphase]
      exact perm_append_singleton z _

lemma inv_wakeone (hphase : (s.pc c).phase = .wakeone wc)
    (hwake : wchanWakeone held wc s.data = some (d, k)) : Inv (s.goto c k d) := by
  cases hchan : s.data.wchan wc with
  | nil =>
    simp only [wchanWakeone, hchan, some.injEq, Prod.mk.injEq] at hwake
    obtain ⟨rfl, rfl⟩ := hwake
    exact h.passes rfl rfl (by rw [hphase]; rfl) trivial
  | cons target rest =>
    simp only [wchanWakeone, hchan] at hwake
    obtain ⟨rfl, targetcpu, hcpu, rfl⟩ := wake_eq hwake
    refine h.taken (q := .channel wc) (t := target) rfl ⟨rfl, rfl, rfl, rfl⟩ rfl ?_ hchan
      (by simp) ?_ hcpu
    · funext p
      cases p <;> simp [lists, update_apply]
    · rw [hphase]
      exact perm_append_singleton target _

lemma inv_collect (hphase : (s.pc c).phase = .collect wc list)
    (hcollect : wchanCollect held wc list s.data = some (d, k)) : Inv (s.goto c k d) := by
  cases hchan : s.data.wchan wc with
  | nil =>
    simp only [wchanCollect, hchan, some.injEq, Prod.mk.injEq] at hcollect
    obtain ⟨rfl, rfl⟩ := hcollect
    exact h.passes rfl rfl (by rw [hphase]; rfl) trivial
  | cons target rest =>
    simp only [wchanCollect, hchan, some.injEq, Prod.mk.injEq] at hcollect
    obtain ⟨rfl, rfl⟩ := hcollect
    refine h.taken (q := .channel wc) (t := target) rfl ⟨rfl, rfl, rfl, rfl⟩ rfl ?_ hchan
      (by simp) ?_ trivial
    · funext p
      cases p <;> simp [lists, update_apply]
    · rw [hphase, hand, hand, ← append_assoc]
      exact perm_append_singleton target _

lemma inv_forked (hphase : (s.pc c).phase = .makeRunnable target targetcpu .fork) :
    Inv (s.goto c ⟨held, .unlockTarget targetcpu .fork⟩
      (makeRunnable (s.data.curthread c) target targetcpu .fork s.data)) := by
  obtain ⟨hcpu, hbusy, hnewthread⟩ : s.data.tCpu target = some targetcpu ∧
      s.data.isidle c = false ∧ s.data.newthread (s.data.curthread c) = some target := by
    simpa [Fits, hphase] using h.fits c
  refine h.framed rfl ⟨rfl, rfl, rfl, rfl⟩ (fun p hp => update_of_ne hp ..) ?_ ?_ ?_
    h.zombieCpu trivial
  · intro p n hn
    by_cases hp : p = s.data.curthread c
    · simp [makeRunnable, hp] at hn
    · simpa [makeRunnable, threadMakeRunnable, hp] using hn
  · refine h.placed.moved (p := .newborn (s.data.curthread c)) (q := .queue targetcpu)
      (t := target) (by simp) ?_ ?_ ?_
    · simp [contents, lists, makeRunnable, hnewthread]
    · simp [contents, lists, makeRunnable, threadMakeRunnable]
    intro p hp hq
    rw [contents_unmoved (c := c) (by rfl) (by rfl) (by rfl) (by rw [hphase]; rfl)]
    cases p <;> simp_all [lists, makeRunnable, threadMakeRunnable]
  intro c' t ht
  by_cases hc' : c' = targetcpu
  · subst hc'
    rcases (by simpa [makeRunnable, threadMakeRunnable] using ht) with ht | rfl
    · exact h.queueCpu c' t ht
    · exact hcpu
  · exact h.queueCpu c' t (by simpa [makeRunnable, threadMakeRunnable, hc'] using ht)

lemma inv_makeRunnable (hphase : (s.pc c).phase = .makeRunnable target targetcpu caller) :
    Inv (s.goto c ⟨held, .unlockTarget targetcpu caller⟩
      (makeRunnable (s.data.curthread c) target targetcpu caller s.data)) := by
  cases caller with
  | fork => exact inv_forked h hphase
  | wakeone =>
    have hcpu : s.data.tCpu target = some targetcpu := by simpa [Fits, hphase] using h.fits c
    refine h.put (q := .queue targetcpu) (t := target) rfl ⟨rfl, rfl, rfl, rfl⟩ rfl ?_ (by simp)
      (by simp [hcpu]) ?_ trivial
    · funext p
      cases p <;> simp [lists, makeRunnable, threadMakeRunnable, update_apply]
    · rw [hphase, hand, hand, show Caller.wakeone.list = ([] : List T) from rfl, append_nil]
      exact perm_append_singleton target _
  | wakeall list =>
    have hcpu : s.data.tCpu target = some targetcpu := by simpa [Fits, hphase] using h.fits c
    refine h.put (q := .queue targetcpu) (t := target) rfl ⟨rfl, rfl, rfl, rfl⟩ rfl ?_ (by simp)
      (by simp [hcpu]) ?_ trivial
    · funext p
      cases p <;> simp [lists, makeRunnable, threadMakeRunnable, update_apply]
    · rw [hphase]
      exact perm_middle

lemma inv_place [DecidableEq L] (hphase : (s.pc c).phase = .place newstate)
    (hplace : place c held s.data newstate = some (d, k)) : Inv (s.goto c k d) := by
  have hbusy : s.data.isidle c = false := by simpa [Fits, hphase] using h.fits c
  have hhand : hand s.data c (s.pc c).phase = [s.data.curthread c] := by
    rw [hphase]
    exact executed_busy hbusy
  cases newstate with
  | ready =>
    by_cases hempty : s.data.runqueue c = []
    · simp only [place, hempty, if_true, some.injEq, Prod.mk.injEq] at hplace
      obtain ⟨rfl, rfl⟩ := hplace
      exact h.passes rfl rfl (by rw [hphase]; rfl) hbusy
    simp only [place, hempty, if_false, h.curCpu c, ite_none_right_eq_some,
      some.injEq, Prod.mk.injEq] at hplace
    obtain ⟨-, rfl, rfl⟩ := hplace
    refine h.put (q := .queue c) (t := s.data.curthread c) rfl ⟨rfl, rfl, rfl, rfl⟩ rfl ?_
      (by simp) ?_ ?_ hbusy
    · funext p
      cases p <;> simp [lists, threadMakeRunnable, update_apply]
    · simp [h.curCpu c]
    · rw [hhand]
      exact .refl _
  | sleep wc =>
    obtain ⟨rfl, rfl⟩ := Prod.mk.inj (some.inj hplace)
    refine h.put (q := .channel wc) (t := s.data.curthread c) rfl ⟨rfl, rfl, rfl, rfl⟩ rfl ?_
      (by simp) (by simp) ?_ hbusy
    · funext p
      cases p <;> simp [lists, update_apply]
    · rw [hhand]
      exact .refl _
  | zombie =>
    obtain ⟨rfl, rfl⟩ := Prod.mk.inj (some.inj hplace)
    refine h.put (q := .zombies c) (t := s.data.curthread c) rfl ⟨rfl, rfl, rfl, rfl⟩ rfl ?_
      (by simp) ?_ ?_ hbusy
    · funext p
      cases p <;> simp [lists, update_apply]
    · simp [h.curCpu c]
    · rw [hhand]
      exact .refl _

end

end Phases

section Run

variable [DecidableEq L] [DecidableEq W] [DecidableEq T]

lemma inv_setState (h : Inv s) (hphase : (s.pc c).phase = .setState newstate)
    (hstep : step (code lockOf) c i s = some s') : Inv s' := by
  obtain ⟨d, k, hact, rfl⟩ := step_act (by rw [code, hphase]) hstep
  obtain ⟨rfl, rfl⟩ := Prod.mk.inj (some.inj hact)
  refine h.moved rfl (fun c' hc' => update_of_ne hc' ..) (fun _ _ => rfl)
    (fun _ _ _ ht => ht) (fun _ _ => rfl) (h.placed.same fun p => ?_) h.curLive (h.curCpu c)
    h.queueCpu h.zombieCpu h.curBorn (update_self ..)
  by_cases hp : p = .hand c
  · subst hp
    rw [contents_hand (by rfl), contents, hphase]
    exact .of_eq (executed_idle (update_self ..))
  · rw [contents_other (by rfl) (fun c' hc' => ?_) (by intros; rfl) hp (by rfl)]
    exact update_of_ne hc' ..

lemma inv_dispatch (h : Inv s) {next : T} (hphase : (s.pc c).phase = .dispatch next)
    (hstep : step (code lockOf) c i s = some s') : Inv s' := by
  obtain ⟨d, k, hact, rfl⟩ := step_act (by rw [code, hphase]) hstep
  obtain ⟨rfl, rfl⟩ := Prod.mk.inj (some.inj hact)
  obtain ⟨-, hcpu⟩ : s.data.isidle c = true ∧ s.data.tCpu next = some c := by
    simpa [Fits, hphase] using h.fits c
  have hnext : next ∈ contents s (.hand c) := by simp [contents, hphase, hand]
  have hcur : ∀ q : T → Prop, (∀ c', q (s.data.curthread c')) → q next →
      ∀ c', q (update s.data.curthread c next c') := by
    intro q hq hqnext c'
    by_cases hc' : c' = c
    · rwa [hc', update_self]
    · rw [update_of_ne hc']
      exact hq c'
  refine h.moved rfl (fun c' hc' => update_of_ne hc' ..)
    (fun c' hc' => update_of_ne hc' ..) (fun _ _ _ ht => ht) (fun _ _ => rfl)
    (h.placed.same fun p => ?_) ?_ ?_ h.queueCpu h.zombieCpu ?_ (update_self ..)
  · by_cases hp : p = .hand c
    · subst hp
      rw [contents_hand (by rfl), contents, hphase]
      simp [hand, executed]
    rw [contents_other (by rfl) (fun c' hc' => ?_) (fun c' hc' => ?_) hp (by rfl)]
    · exact update_of_ne hc' ..
    · exact update_of_ne hc' ..
  · exact hcur (s.data.live · = true) h.curLive (h.placed.present _ _ hnext)
  · simpa using hcpu
  refine hcur (fun t => ∀ p, s.data.newthread p ≠ some t) h.curBorn fun p hp => ?_
  have := h.placed.one (.newborn p) _ next (by simp [contents, lists, hp]) hnext
  cases this

lemma inv_step (h : Inv s) (hstep : step (code lockOf) c i s = some s') : Inv s' := by
  have hfits := h.fits c
  cases hphase : (s.pc c).phase with
  | free =>
    obtain ⟨d, k, hact, rfl⟩ := step_act (by rw [code, hphase]) hstep
    exact inv_call h hphase hact
  | locking l =>
    obtain ⟨hpc, hdata⟩ := step_spinlockAcquire (by rw [code, hphase]) hstep
    exact h.passes hpc hdata (by rw [hphase]; rfl) trivial
  | unlocking l | unlockEmpty | idle =>
    obtain ⟨hpc, hdata⟩ := step_spinlockRelease (by rw [code, hphase]) hstep
    exact h.passes hpc hdata (by rw [hphase]; rfl) trivial
  | switch newstate | unidle =>
    rw [hphase] at hfits
    obtain ⟨hpc, hdata⟩ := step_spinlockAcquire (by rw [code, hphase]) hstep
    exact h.passes hpc hdata (by rw [hphase]; rfl) hfits
  | place newstate =>
    obtain ⟨d, k, hact, rfl⟩ := step_act (by rw [code, hphase]) hstep
    exact inv_place h hphase hact
  | unlockChannel wc | unlockQueue =>
    rw [hphase] at hfits
    obtain ⟨hpc, hdata⟩ := step_spinlockRelease (by rw [code, hphase]) hstep
    exact h.passes hpc hdata (by rw [hphase]; rfl) hfits
  | setState newstate => exact inv_setState h hphase hstep
  | pick =>
    obtain ⟨d, k, hact, rfl⟩ := step_act (by rw [code, hphase]) hstep
    exact inv_pick h hphase hact
  | dispatch next => exact inv_dispatch h hphase hstep
  | resume =>
    rw [hphase] at hfits
    obtain ⟨d, k, hact, rfl⟩ := step_act (by rw [code, hphase]) hstep
    obtain ⟨rfl, rfl⟩ := Prod.mk.inj (some.inj hact)
    exact h.kept rfl ⟨rfl, rfl, rfl, rfl⟩ rfl rfl (by rw [hphase]; rfl) hfits
  | exorcise =>
    obtain ⟨d, k, hact, rfl⟩ := step_act (by rw [code, hphase]) hstep
    exact inv_exorcise h hphase hact
  | destroy z =>
    obtain ⟨d, k, hact, rfl⟩ := step_act (by rw [code, hphase]) hstep
    simp only [map_eq_some_iff, Prod.mk.injEq] at hact
    obtain ⟨d', hdestroy, rfl, rfl⟩ := hact
    exact inv_destroy h hphase hdestroy
  | relock lk =>
    obtain ⟨hpc, hdata⟩ := step_spinlockAcquire (by rw [code, hphase]) hstep
    refine h.kept hpc ?_ (by rw [hdata]; rfl) (by rw [hdata]) (by rw [hphase]; rfl) trivial
    rw [hdata]
    exact ⟨rfl, rfl, rfl, rfl⟩
  | wakeone wc =>
    obtain ⟨d, k, hact, rfl⟩ := step_act (by rw [code, hphase]) hstep
    exact inv_wakeone h hphase hact
  | collect wc list =>
    obtain ⟨d, k, hact, rfl⟩ := step_act (by rw [code, hphase]) hstep
    exact inv_collect h hphase hact
  | wakeall list =>
    obtain ⟨d, k, hact, rfl⟩ := step_act (by rw [code, hphase]) hstep
    exact inv_wakeall h hphase hact
  | lockTarget target targetcpu caller =>
    rw [hphase] at hfits
    obtain ⟨hpc, hdata⟩ := step_spinlockAcquire (by rw [code, hphase]) hstep
    exact h.passes hpc hdata (by rw [hphase]; rfl) (by cases caller <;> exact hfits)
  | makeRunnable target targetcpu caller =>
    obtain ⟨d, k, hact, rfl⟩ := step_act (by rw [code, hphase]) hstep
    obtain ⟨rfl, rfl⟩ := Prod.mk.inj (some.inj hact)
    exact inv_makeRunnable h hphase
  | unlockTarget targetcpu caller =>
    obtain ⟨hpc, hdata⟩ := step_spinlockRelease (by rw [code, hphase]) hstep
    refine h.passes hpc hdata ?_ ?_
    · cases caller <;> simp [hphase, hand, Caller.next, Caller.list]
    · cases caller <;> trivial

end Run

end Os161.Thread
