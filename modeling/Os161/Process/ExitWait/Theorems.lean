import Os161.Process.ExitWait.Lemmas
import Mathlib.Data.Fintype.Basic

namespace Os161.Process

open Function Lib Lib.Threads Vm Synch Place WaitpidPc

variable {T : Type}

section Protocol

variable {exiter t : T} {exitStatus : Word} {s s' : WaitState T}

-- The structure is destroyed at most once, and neither it nor the semaphore is used after that.
-- Nobody sleeps on the semaphore when a thread calls sem_destroy. Whoever has waited has the
-- status.
structure WaitSafe (exitStatus : Word) (s : WaitState T) : Prop where
  once : s.data.procDestroyed ≤ 1
  unused : s.data.misused = false
  nobody : ∀ t statusp v, s.pc t = .wait statusp (.destroy .semDestroy v) → s.chan () = []
  status : ∀ t v, (s.pc t).value = some v → v.toNat = exitStatus.toNat % 256

variable {i : Bool}

lemma waiting_of_waits (h : waitpidWaits pc = some ()) : pc.place = .waiting := by
  revert h
  fun_cases waitpidWaits pc <;> simp [place, WaitPc.place]

lemma Protocol.safe (horderly : Orderly waitpidHolds waitpidWaits s)
    (h : Protocol exiter exitStatus s) : WaitSafe exitStatus s := by
  refine ⟨?_, h.unused, fun t statusp v hpc => ?_, fun t v hv => ?_⟩
  · cases h.phase with
    | running _ _ _ hintact | signalled _ _ _ hintact => simp [hintact.proc]
    | reaped _ _ _ hreaping => simp [hreaping.proc]
    | gone _ _ _ hproc => simp [hproc]
  · refine List.eq_nil_iff_forall_not_mem.mpr fun u hu => ?_
    have hwaiting := waiting_of_waits (horderly.lists.listed () u hu).2
    obtain rfl := h.alone u t (by rw [hwaiting]; rfl) (by rw [hpc]; rfl)
    rw [hpc] at hwaiting
    cases hwaiting
  · rw [h.values t v hv, BitVec.toNat_and]
    exact Nat.and_two_pow_sub_one_eq_mod exitStatus.toNat 8

variable [DecidableEq T]

lemma protocol_V (h : Protocol exiter exitStatus s)
    (hpc : s.pc t = .exit (.inV v)) (hstep : step (waitpidCode exitStatus) t statusp s = some s') :
    Protocol exiter exitStatus s' := by
  have hcode : waitpidCode exitStatus t (s.pc t) =
      V pSem (fun v => .exit (.inV v)) id (.exit .threadExit) v := by
    rw [hpc, waitpidCode, exitCode]
  have hplaces : ((s.pc t).place = .exiting ∨ (s.pc t).place = .signalling) ∨
      ((s.pc t).place.pointer = true ∧ (s.pc t).place ≠ .freeing) := by
    rw [hpc]
    cases v <;> simp [place]
  have huse : pSem.access s.data = s.data := h.useSem_eq hplaces
  cases v with
  | acquire =>
    obtain ⟨-, rfl⟩ := step_acquire hcode hstep
    rw [huse]
    exact exit_passes h hpc rfl rfl (by simp) rfl rfl rfl
  | raise =>
    obtain ⟨-, rfl⟩ := step_V_raise hcode hstep
    rw [huse]
    refine exit_moves h hpc rfl (by simp) rfl rfl ?_
    have hplace : (s.pc exiter).place = .exiting := by rw [← h.exits t _ hpc, hpc]; rfl
    cases h.phase with
    | running _ hcount hnobody hintact =>
      refine .signalled (.inl ?_) ?_ (none_moved reaps hnobody rfl)
        ⟨hintact.entry, hintact.sem, hintact.proc⟩
      · rw [← h.exits t _ hpc, update_self]
        rfl
      · simp [pSem, hcount]
    | signalled hexit | reaped hexit | gone hexit => simp [hplace] at hexit
  | wake =>
    rcases step_wakeone hcode hstep with ⟨-, rfl⟩ | ⟨u, us, -, rfl⟩
    · rw [huse]
      exact exit_passes h hpc rfl rfl (by simp) rfl rfl rfl
    · rw [huse]
      exact exit_passes h hpc rfl rfl (by simp) rfl rfl rfl
  | release =>
    obtain ⟨-, rfl⟩ := step_release hcode hstep
    rw [huse]
    refine exit_moves h hpc rfl (by simp) rfl rfl ?_
    have hplace : (s.pc exiter).place = .signalling := by rw [← h.exits t _ hpc, hpc]; rfl
    cases h.phase with
    | running hexit | reaped hexit | gone hexit => simp [hplace] at hexit
    | signalled _ hcount hnobody hintact =>
      refine .signalled (.inr ?_) hcount (none_moved reaps hnobody rfl) hintact
      rw [← h.exits t _ hpc, update_self]
      rfl

lemma protocol_exit (h : Protocol exiter exitStatus s)
    (hpc : s.pc t = .exit e) (hstep : step (waitpidCode exitStatus) t statusp s = some s') :
    Protocol exiter exitStatus s' := by
  have hcode : waitpidCode exitStatus t (s.pc t) = exitCode exitStatus e := by rw [hpc, waitpidCode]
  cases e with
  | status =>
    obtain rfl := step_to hcode hstep
    rw [h.useProc_eq (t := t) (by simp [hpc, place])]
    exact protocol_passes h rfl (fun _ _ => h.exits t _ hpc) (by simp [value])
      (.inr rfl) h.unused (by rw [hpc]; rfl) rfl
  | remAcquire =>
    obtain ⟨-, rfl⟩ := step_acquire hcode hstep
    rw [h.useProc_eq (t := t) (by simp [hpc, place])]
    exact exit_passes h hpc rfl rfl (by simp) rfl rfl rfl
  | remDrop =>
    obtain ⟨-, rfl⟩ := step_assert hcode hstep
    rw [h.useProc_eq (t := t) (by simp [hpc, place])]
    exact exit_passes h hpc rfl rfl (by simp) rfl rfl rfl
  | remRelease =>
    obtain ⟨-, rfl⟩ := step_release hcode hstep
    rw [h.useProc_eq (t := t) (by simp [hpc, place])]
    exact exit_passes h hpc rfl rfl (by simp) rfl rfl rfl
  | detach =>
    obtain rfl := step_to hcode hstep
    exact exit_passes h hpc rfl rfl (by simp) rfl rfl rfl
  | signal =>
    obtain rfl := step_to hcode hstep
    rw [h.useProc_eq (t := t) (by simp [hpc, place])]
    exact exit_passes h hpc rfl rfl (by simp) rfl rfl rfl
  | inV v => exact protocol_V h hpc hstep
  | threadExit =>
    obtain ⟨d, k, hact, -⟩ := step_act hcode hstep
    cases hact

lemma signalling_locked (h : pc.place = .signalling) : waitpidHolds pc .semLock := by
  obtain ⟨e, rfl⟩ := exit_of_place (.inr h)
  cases e with
  | inV v => cases v <;> simp_all [place, waitpidHolds, VPc.locked]
  | _ => simp [place] at h

lemma protocol_P (horderly : Orderly waitpidHolds waitpidWaits s)
    (h : Protocol exiter exitStatus s) (hpc : s.pc t = .wait statusp (.inP p))
    (hstep : step (waitpidCode exitStatus) t i s = some s') : Protocol exiter exitStatus s' := by
  have hcode : waitpidCode exitStatus t (s.pc t) =
      P pSem (fun p => .wait statusp (.inP p)) id (.wait statusp .status) p := by
    rw [hpc, waitpidCode, waitCode]
  have hpointer : (WaitPc.inP p).place.pointer = true := by cases p <;> rfl
  have hplaces : ((s.pc t).place = .exiting ∨ (s.pc t).place = .signalling) ∨
      ((s.pc t).place.pointer = true ∧ (s.pc t).place ≠ .freeing) := by
    rw [hpc]
    exact .inr ⟨hpointer, by cases p <;> simp [place, WaitPc.place]⟩
  have huse : pSem.access s.data = s.data := h.useSem_eq hplaces
  cases p with
  | acquire | reacquire =>
    obtain ⟨-, rfl⟩ := step_acquire hcode hstep
    exact wait_passes h hpc rfl hpointer rfl (by simp [value]) huse
  | test =>
    obtain rfl := step_P_test hcode hstep
    refine wait_passes h hpc rfl hpointer ?_ (by simp [value]) huse
    split <;> rfl
  | sleep =>
    obtain ⟨-, rfl⟩ := step_sleep hcode hstep
    exact wait_passes h hpc rfl hpointer rfl (by simp [value]) huse
  | take =>
    obtain ⟨hpos, rfl⟩ := step_P_take hcode hstep
    rw [huse]
    refine wait_moves h hpc rfl hpointer (by simp [value]) rfl rfl ?_
    have hplace : (s.pc t).place = .waiting := by rw [hpc]; rfl
    cases h.phase with
    | running _ hcount | reaped _ hcount => simp [pSem, hcount] at hpos
    | signalled hexit hcount hnobody hintact =>
      -- V has been left, since this thread holds the spinlock
      have hexited : (s.pc exiter).place = .exited := by
        refine hexit.resolve_left fun hsignalling => ?_
        have hlocked : waitpidHolds (s.pc t) .semLock := by rw [hpc]; exact ⟨rfl, rfl⟩
        obtain rfl := horderly.exclusive (signalling_locked hsignalling) hlocked
        simp [hplace] at hsignalling
      refine .reaped (exiter_stays hexited (by simp [hplace])) ?_ t ?_
      · simp [pSem, hcount]
      · rw [update_self]
        exact .reaping ⟨hintact.entry, hintact.sem, hintact.proc⟩
    | gone _ hnobody =>
      have := hnobody t
      simp [hplace, pointer] at this
  | release =>
    obtain ⟨-, rfl⟩ := step_release hcode hstep
    exact wait_passes h hpc rfl hpointer rfl (by simp [value]) huse

lemma protocol_destroy (h : Protocol exiter exitStatus s)
    (hpc : s.pc t = .wait statusp (.destroy p v))
    (hstep : step (waitpidCode exitStatus) t i s = some s') : Protocol exiter exitStatus s' := by
  have hcode : waitpidCode exitStatus t (s.pc t) =
      destroyCode (fun p => .wait statusp (.destroy p v)) (.wait statusp (.store v)) p := by
    rw [hpc, waitpidCode, waitCode]
  have hreaps : (WaitPc.destroy p v).place.reaps = true := by cases p <;> rfl
  have hpointer := pointer_of_reaps hreaps
  obtain ⟨hexited, hcount, hreaping⟩ := h.reaper (t := t) (by rw [hpc]; exact hreaps)
  have huse : s.data.useProc = s.data := h.useProc_eq (t := t) (by rw [hpc]; exact .inr hpointer)
  have hstays : ∀ p', update (fun u => (s.pc u).place) t p' exiter = .exited := by
    refine fun p' => exiter_stays hexited ?_
    rw [hpc]
    cases p <;> simp [place, WaitPc.place, DestroyPc.place]
  rw [hpc] at hreaping
  cases p with
  | fields =>
    obtain ⟨-, rfl⟩ := step_assert hcode hstep
    exact wait_passes h hpc rfl hpointer rfl (by simp [value]) huse
  | cleanup =>
    obtain ⟨-, rfl⟩ := step_cleanup hcode hstep
    exact wait_passes h hpc rfl hpointer rfl (by simp [value]) huse
  | acquire =>
    obtain ⟨-, rfl⟩ := step_acquire hcode hstep
    exact wait_passes h hpc rfl hpointer rfl (by simp [value]) rfl
  | clear =>
    obtain rfl := step_to hcode hstep
    rw [huse]
    refine wait_moves h hpc rfl hpointer (by simp [value]) rfl rfl ?_
    obtain ⟨hintact⟩ := hreaping
    refine .reaped (hstays _) hcount t ?_
    rw [update_self]
    exact .cleared rfl hintact.sem hintact.proc
  | release =>
    obtain ⟨-, rfl⟩ := step_release hcode hstep
    exact wait_passes h hpc rfl hpointer rfl (by simp [value]) rfl
  | semDestroy =>
    obtain ⟨-, rfl⟩ := step_cleanup hcode hstep
    have husem : s.data.useSem = s.data := h.useSem_eq (t := t) (by
      rw [hpc]
      exact .inr ⟨hpointer, by simp [place, WaitPc.place, DestroyPc.place]⟩)
    rw [huse, husem]
    refine wait_moves h hpc rfl hpointer (by simp [value]) rfl rfl ?_
    cases hreaping with
    | cleared hentry hsem hproc =>
      refine .reaped (hstays _) hcount t ?_
      rw [update_self]
      exact .freeing hentry hproc
  | free =>
    obtain rfl := step_to hcode hstep
    rw [huse]
    refine wait_moves h hpc rfl hpointer (by simp [value]) rfl rfl ?_
    cases hreaping with
    | freeing hentry hproc =>
      refine .gone (hstays _) (fun u => ?_) hentry (by simp [hproc])
      by_cases hut : u = t
      · subst hut
        rw [update_self]
        rfl
      rw [update_of_ne hut]
      refine Bool.eq_false_iff.mpr fun hu => hut (h.alone u t hu ?_)
      rw [hpc]
      rfl

-- A waiter may look the structure up while no other thread has a pointer to it. When the table
-- has no entry any more, there is nothing to look up.
def SoleWaiter (t : T) (_ : Bool) (s : WaitState T) : Prop :=
  ∀ statusp, s.pc t = .wait statusp .search → s.data.entry = true →
    ∀ u, (s.pc u).place.pointer = false

lemma protocol_search (h : Protocol exiter exitStatus s)
    (hsole : SoleWaiter t i s) (hpc : s.pc t = .wait statusp .search)
    (hstep : step (waitpidCode exitStatus) t i s = some s') : Protocol exiter exitStatus s' := by
  have hcode : waitpidCode exitStatus t (s.pc t) = waitCode statusp .search := by
    rw [hpc, waitpidCode]
  obtain ⟨d, k, hact, rfl⟩ := step_act hcode hstep
  obtain ⟨rfl, rfl⟩ : s.data = d ∧ _ = k := by simpa using hact
  have hplace : (s.pc t).place = .elsewhere := by rw [hpc]; rfl
  by_cases hentry : s.data.entry = true
  · rw [if_pos hentry]
    have hnone := hsole statusp hpc hentry
    refine protocol_moved h rfl (by simp) (fun _ => .inr hnone) (by simp [value])
      (.inl ⟨rfl, by simp [hpc]⟩) h.unused ?_
    cases h.phase with
    | running hexit hcount hnobody hintact =>
      exact .running (exiter_stays hexit (by simp [hplace])) hcount
        (none_moved reaps hnobody rfl) hintact
    | signalled hexit hcount hnobody hintact =>
      refine .signalled (hexit.imp ?_ ?_) hcount (none_moved reaps hnobody rfl) hintact
      · exact fun hexit => exiter_stays hexit (by simp [hplace])
      · exact fun hexit => exiter_stays hexit (by simp [hplace])
    | reaped _ _ u hreaping =>
      have := pointer_of_reaps hreaping.reaps
      rw [hnone u] at this
      cases this
    | gone _ _ hgone _ =>
      rw [hgone] at hentry
      cases hentry
  rw [if_neg hentry]
  exact protocol_passes h rfl (by simp) (by simp [value])
    (.inl ⟨rfl, by simp [hpc]⟩) h.unused (by rw [hplace]; rfl) rfl

section

variable (horderly : Orderly waitpidHolds waitpidWaits s) (h : Protocol exiter exitStatus s)
  (hsole : SoleWaiter t i s)

include horderly h hsole

lemma protocol_wait (hpc : s.pc t = .wait statusp w)
    (hstep : step (waitpidCode exitStatus) t i s = some s') : Protocol exiter exitStatus s' := by
  have hcode : waitpidCode exitStatus t (s.pc t) = waitCode statusp w := by rw [hpc, waitpidCode]
  cases w with
  | search => exact protocol_search h hsole hpc hstep
  | check | sem =>
    obtain rfl := step_to hcode hstep
    exact wait_passes h hpc rfl rfl rfl (by simp [value])
      (h.useProc_eq (t := t) (by rw [hpc]; exact .inr rfl))
  | inP p => exact protocol_P horderly h hpc hstep
  | status =>
    obtain ⟨d, k, hact, rfl⟩ := step_act hcode hstep
    obtain ⟨rfl, rfl⟩ : s.data.useProc = d ∧ _ = k := by simpa using hact
    obtain ⟨hexited, -⟩ := h.reaper (t := t) (by rw [hpc]; rfl)
    have hset := h.status fun hexiter => by
      rw [hexiter] at hexited
      cases hexited
    refine wait_passes h hpc rfl rfl rfl ?_ (h.useProc_eq (t := t) (by rw [hpc]; exact .inr rfl))
    simp [value, hset]
  | destroy p v => exact protocol_destroy h hpc hstep
  | store v =>
    obtain rfl := step_to hcode hstep
    refine protocol_passes h rfl (by simp) ?_ (.inl ⟨rfl, by simp [hpc]⟩) h.unused
      (by rw [hpc]; rfl) rfl
    rw [hpc]
    cases statusp <;> simp [value]

lemma protocol_step (hstep : step (waitpidCode exitStatus) t i s = some s') :
    Protocol exiter exitStatus s' := by
  cases hpc : s.pc t with
  | outside =>
    have hcode : waitpidCode exitStatus t (s.pc t) = waitpidCode exitStatus t .outside := by
      rw [hpc]
    obtain ⟨d, k, hact, rfl⟩ := step_act hcode hstep
    obtain ⟨rfl, rfl⟩ : s.data = d ∧ _ = k := by simpa using hact
    exact protocol_passes h rfl (by simp) (by simp [value])
      (.inl ⟨rfl, by simp [hpc]⟩) h.unused (by rw [hpc]; rfl) rfl
  | exit e => exact protocol_exit h hpc hstep
  | wait statusp w => exact protocol_wait horderly h hsole hpc hstep
  | returned stored =>
    have hcode : waitpidCode exitStatus t (s.pc t) =
        waitpidCode exitStatus t (.returned stored) := by
      rw [hpc]
    obtain rfl := step_to hcode hstep
    exact protocol_passes h rfl (by simp) (by simp [value])
      (.inl ⟨rfl, by simp [hpc]⟩) h.unused (by rw [hpc]; rfl) rfl
  | trapped =>
    have hcode : waitpidCode exitStatus t (s.pc t) = waitpidCode exitStatus t .trapped := by
      rw [hpc]
    obtain ⟨d, k, hact, -⟩ := step_act hcode hstep
    cases hact

end

lemma beforeExit_protocol (exiter : T) (exitStatus : Word) (numthreads : Nat) :
    Protocol exiter exitStatus (beforeExit exiter numthreads) := by
  have hplace : ∀ t, ((beforeExit exiter numthreads).pc t).place.pointer = false := by
    intro t
    by_cases ht : t = exiter <;> simp [beforeExit, ht, place, pointer, reaps]
  refine ⟨fun t e ht => ?_, fun t u ht => ?_, .running ?_ rfl (fun t => ?_) ⟨rfl, rfl, rfl⟩,
    fun hnot => ?_, fun t v hv => ?_, rfl⟩
  · by_contra hne
    simp [beforeExit, hne] at ht
  · rw [hplace t] at ht
    cases ht
  · simp [beforeExit, place]
  · refine Bool.eq_false_iff.mpr fun hreaps => ?_
    have := pointer_of_reaps hreaps
    rw [hplace t] at this
    cases this
  · simp [beforeExit] at hnot
  · by_cases ht : t = exiter <;> simp [beforeExit, ht, value] at hv

lemma beforeExit_fresh (exiter : T) (numthreads : Nat) :
    (beforeExit exiter numthreads).Fresh waitpidHolds := by
  refine ⟨fun _ => rfl, fun t l => ?_, fun _ => rfl, fun _ => rfl⟩
  by_cases ht : t = exiter <;> simp [beforeExit, ht, waitpidHolds]

theorem exit_wait_protocol (exiter : T) (exitStatus : Word) (numthreads : Nat)
    (hreaches : GuardedReaches (waitpidCode exitStatus) SoleWaiter
      (beforeExit exiter numthreads) s) : WaitSafe exitStatus s := by
  have hinv := guarded_invariant (waitpidCode_respects exitStatus)
    (fun s s' t i horderly h hsole hstep => protocol_step horderly h hsole hstep)
    (beforeExit_fresh exiter numthreads) (beforeExit_protocol exiter exitStatus numthreads) hreaches
  exact hinv.2.safe hinv.1

end Protocol

def overtaken : List (Fin 3 × Bool) :=
  List.replicate 2 (2, true) ++ List.replicate 10 (0, true) ++ List.replicate 16 (1, true) ++
    [(2, true)]

def bothSleep : List (Fin 3 × Bool) :=
  List.replicate 7 (1, true) ++ List.replicate 7 (2, true) ++ List.replicate 10 (0, true) ++
    List.replicate 10 (1, true)

theorem second_waiter_unsafe :
    (∃ s, Reaches (waitpidCode 3#32) (beforeExit (0 : Fin 3) 1) s ∧
      s.data.procDestroyed = 1 ∧ s.data.misused = true) ∧
    (∃ s, Reaches (waitpidCode 3#32) (beforeExit (0 : Fin 3) 1) s ∧
      s.pc 1 = .wait true (.destroy .semDestroy 3#32) ∧ s.chan () = [2]) := by
  constructor
  · exact reaches_of_run (waitpidCode 3#32) (beforeExit (0 : Fin 3) 1)
      (fun s => s.data.procDestroyed = 1 ∧ s.data.misused = true) overtaken (by decide)
  exact reaches_of_run (waitpidCode 3#32) (beforeExit (0 : Fin 3) 1)
    (fun s => s.pc 1 = .wait true (.destroy .semDestroy 3#32) ∧ s.chan () = [2]) bothSleep
    (by decide)

instance [Fintype T] (t : T) (i : Bool) (s : WaitState T) : Decidable (SoleWaiter t i s) := by
  unfold SoleWaiter
  infer_instance

def waitsAlone : List (Fin 2 × Bool) :=
  List.replicate 7 (1, true) ++ List.replicate 10 (0, true) ++ List.replicate 13 (1, true)

theorem exit_wait_protocol_waitsAlone :
    ∃ s, GuardedReaches (waitpidCode 259#32) SoleWaiter (beforeExit (0 : Fin 2) 1) s ∧
      s.pc 1 = .returned (some 3#32) ∧ WaitSafe 259#32 s := by
  obtain ⟨s, hreaches, hpc⟩ := guardedReaches_of_run (waitpidCode 259#32) SoleWaiter
    (beforeExit (0 : Fin 2) 1) (fun s => s.pc 1 = .returned (some 3#32)) waitsAlone (by decide)
  exact ⟨s, hreaches, hpc, exit_wait_protocol 0 259#32 1 hreaches⟩

end Os161.Process
