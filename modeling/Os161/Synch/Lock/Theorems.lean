import Os161.Synch.Lock.Lemmas

namespace Os161.Synch

open Function Lib Lib.Threads Vm LockPc

variable {T Lk Cv : Type} [DecidableEq T] [DecidableEq Lk] [DecidableEq Cv] {useSemaphore : Bool}
  {s : LockState T Lk Cv}

lemma lockInv_doIHold (h : LockInv useSemaphore s)
    (hpc : s.pc t = .doIHold site l p)
    (hstep : step (lockCode useSemaphore) t call s = some s') : LockInv useSemaphore s' := by
  have hcode : lockCode useSemaphore t (s.pc t) = doIHoldCode useSemaphore t site l p := by
    rw [hpc, lockCode]
  have howns := h.owns t l
  rw [hpc] at howns
  cases p with
  | acquire =>
    obtain ⟨-, rfl⟩ := step_acquire hcode hstep
    refine lock_passes h rfl rfl (fun _ => rfl) ?_ (by simp) (by simp)
      (by simp [hpc, passing]) (by simp [hpc, dozing])
    rintro l' ⟨rfl, hsite | htest⟩
    · exact howns ⟨rfl, .inl hsite⟩
    · cases htest
  | test =>
    obtain ⟨d, k, hact, rfl⟩ := step_act hcode hstep
    obtain ⟨rfl, rfl⟩ : s.data = d ∧ _ = k := by simpa using hact
    refine lock_passes h rfl rfl (fun _ => rfl) ?_ (by simp) (by simp)
      (by simp [hpc, passing]) (by simp [hpc, dozing])
    rintro l' ⟨rfl, hsite | hres⟩
    · exact howns ⟨rfl, .inl hsite⟩
    · simpa using hres
  | release res =>
    obtain ⟨-, rfl⟩ := step_release hcode hstep
    refine lock_passes h rfl rfl (fun _ => rfl) (fun l' hk => ?_) ?_ ?_ (fun hsem l' => ?_)
      (by simp [hpc, dozing])
    · obtain ⟨rfl, rfl⟩ := owns_next hk
      exact howns ⟨rfl, .inr rfl⟩
    · cases site <;> cases res <;> simp [HoldSite.next]
    · cases site <;> cases res <;> cases useSemaphore <;> simp [HoldSite.next]
    · rw [hpc]
      cases site <;> cases res <;> simp [HoldSite.next, passing, hsem]

lemma lockInv_P (h : LockInv useSemaphore s)
    (hpc : s.pc t = .acquire caller l (.inP p))
    (hstep : step (lockCode useSemaphore) t call s = some s') : LockInv useSemaphore s' := by
  have hcode : lockCode useSemaphore t (s.pc t) =
      P (lkSem l) (fun p => .acquire caller l (.inP p)) id (.acquire caller l .lock) p := by
    rw [hpc, lockCode, acquireCode]
  cases p with
  | acquire | reacquire =>
    obtain ⟨-, rfl⟩ := step_acquire hcode hstep
    exact lock_passes h rfl rfl (fun _ => rfl) (by simp [owns]) (by simp) (by simp)
      (by simp [hpc, passing]) (by simp [hpc, dozing])
  | test =>
    obtain rfl := step_P_test hcode hstep
    refine lock_passes h rfl rfl (fun _ => rfl) (by simp [owns]) (by simp) (by simp)
      (fun _ l' => ?_) (by simp [hpc, dozing])
    rw [hpc]
    split <;> simp [passing]
  | sleep =>
    obtain ⟨-, rfl⟩ := step_sleep hcode hstep
    exact lock_passes h rfl rfl (by simp [lkSem]) (by simp [owns]) (by simp) (by simp)
      (by simp [hpc, passing]) (by simp [hpc, dozing])
  | take =>
    obtain ⟨hpos, hs'⟩ := step_P_take hcode hstep
    have hpc' : s'.pc = update s.pc t (.acquire caller l (.inP .release)) := by
      rw [hs']
      rfl
    have hcount : s'.data.semCount =
        update s.data.semCount l (s.data.semCount l - 1#32) := by
      rw [hs']
      rfl
    refine lock_goes h hpc' (by rw [hs']; rfl) (fun u l' hu => .inl (by rwa [hs'] at hu))
      (fun u l' hu => by rwa [hs']) (by simp [owns]) (by simp) (by simp) (fun hsem => ?_)
      (waiting_moved h hpc' (by rw [hs']; exact fun _ => rfl) (by rw [hs']; rfl)
        (by simp [hpc, dozing]))
    subst hsem
    refine token_moved (l := l) h hpc' (fun l' hl => ?_) (fun _ _ => rfl) (fun l' hl => ?_) ?_
    · rw [hcount, update_of_ne hl]
    · simp [hpc, passing, Ne.symm hl]
    · rw [hcount, update_self]
      exact (h.token rfl l).take hpos (passing_begins hpc' rfl)
  | release =>
    obtain ⟨-, rfl⟩ := step_release hcode hstep
    exact lock_passes h rfl rfl (fun _ => rfl) (by simp [owns]) (by simp) (by simp)
      (by simp [hpc, passing]) (by simp [hpc, dozing])

lemma lockInv_own (horderly : Orderly lockHolds lockWaits s)
    (h : LockInv useSemaphore s) (hpc : s.pc t = .acquire caller l .own)
    (hstep : step (lockCode useSemaphore) t call s = some s') : LockInv useSemaphore s' := by
  have hcode : lockCode useSemaphore t (s.pc t) = acquireCode useSemaphore t caller l .own := by
    rw [hpc, lockCode]
  obtain ⟨hnone, hs'⟩ := step_assert hcode hstep
  have hpc' : s'.pc = update s.pc t (.acquire caller l .unlock) := by rw [hs']; rfl
  have howner : s'.data.lkOwner = update s.data.lkOwner l (some t) := by rw [hs']; rfl
  have hheld : s'.data.held = s.data.held := by rw [hs']; rfl
  have hkeeps : ∀ u l', s.data.lkOwner l' = some u → s'.data.lkOwner l' = some u := by
    intro u l' hu
    have hne : l' ≠ l := by
      rintro rfl
      rw [hnone] at hu
      cases hu
    rwa [howner, update_of_ne hne]
  refine ⟨fun u l' hu => ?_, fun u l' hu => ?_, fun u c l' hu => ?_, fun u caller' l' hu => ?_,
    fun hsem => ?_, ?_⟩
  · rcases moved_cases hpc' u with ⟨rfl, huk⟩ | ⟨-, huk⟩
    · rw [huk] at hu
      obtain rfl : l = l' := hu
      rw [howner, update_self]
    · exact hkeeps u l' (h.owns u l' (huk ▸ hu))
  · rw [hheld] at hu
    exact hkeeps u l' (h.held u l' hu)
  · rw [hheld]
    rcases moved_cases hpc' u with ⟨-, huk⟩ | ⟨-, huk⟩
    · cases huk.symm.trans hu
    · exact h.returned u c l' (huk.symm.trans hu)
  · rcases moved_cases hpc' u with ⟨-, huk⟩ | ⟨hut, huk⟩
    · cases huk.symm.trans hu
    rw [huk] at hu
    have hne : l' ≠ l := by
      rintro rfl
      have hu' : lockHolds (s.pc u) (.lk l') := by rw [hu]; rfl
      have ht' : lockHolds (s.pc t) (.lk l') := by rw [hpc]; rfl
      exact hut (horderly.exclusive hu' ht')
    rw [howner, update_of_ne hne]
    exact h.free u caller' l' hu
  · subst hsem
    have hcount : s'.data.semCount = s.data.semCount := by rw [hs']; rfl
    refine token_moved (l := l) h hpc' (fun _ _ => by rw [hcount]) (fun l' hl => ?_)
      (fun l' hl => ?_) ?_
    · rw [howner, update_of_ne hl]
    · simp [hpc, passing, Ne.symm hl]
    rw [howner, update_self, hcount]
    have hpassing : (s.pc t).passing l := by rw [hpc]; rfl
    exact (h.token rfl l).own hpassing (passing_ends hpc' id)
  · exact waiting_moved h hpc' (by rw [hs']; exact fun _ => rfl) (by rw [hs']; rfl)
      (by simp [hpc, dozing])

lemma lockInv_clear (h : LockInv useSemaphore s)
    (hpc : s.pc t = .release caller l .clear)
    (hstep : step (lockCode useSemaphore) t call s = some s') : LockInv useSemaphore s' := by
  have hcode : lockCode useSemaphore t (s.pc t) = releaseCode useSemaphore t caller l .clear := by
    rw [hpc, lockCode]
  have hs' := step_to hcode hstep
  have hmine : s.data.lkOwner l = some t := h.owns t l (by rw [hpc]; rfl)
  have hpc' : s'.pc = update s.pc t
      (.release caller l (if useSemaphore then .inV .acquire else .wakeone)) := by
    rw [hs']
    rfl
  have howner : s'.data.lkOwner = update s.data.lkOwner l none := by rw [hs']; rfl
  have hheld : s'.data.held = update s.data.held (t, l) false := by rw [hs']; rfl
  have hkeeps : ∀ u l', u ≠ t → s.data.lkOwner l' = some u → s'.data.lkOwner l' = some u := by
    intro u l' hut hu
    have hne : l' ≠ l := by
      rintro rfl
      exact hut (Option.some.inj (hu.symm.trans hmine))
    rwa [howner, update_of_ne hne]
  refine ⟨fun u l' hu => ?_, fun u l' hu => ?_, fun u c l' hu => ?_, fun u caller' l' hu => ?_,
    fun hsem => ?_, fun u c hu => ?_⟩
  · rcases moved_cases hpc' u with ⟨-, huk⟩ | ⟨hut, huk⟩
    · rw [huk] at hu
      cases useSemaphore <;> cases hu
    · exact hkeeps u l' hut (h.owns u l' (huk ▸ hu))
  · have hne : (u, l') ≠ (t, l) := by
      intro heq
      rw [hheld, heq, update_self] at hu
      cases hu
    rw [hheld, update_of_ne hne] at hu
    have hold := h.held u l' hu
    by_cases hl : l' = l
    · subst hl
      obtain rfl := Option.some.inj (hold.symm.trans hmine)
      exact absurd rfl hne
    · rwa [howner, update_of_ne hl]
  · rcases moved_cases hpc' u with ⟨-, huk⟩ | ⟨hut, huk⟩
    · cases huk.symm.trans hu
    · rw [hheld, update_of_ne (by simp [hut])]
      exact h.returned u c l' (huk.symm.trans hu)
  · rcases moved_cases hpc' u with ⟨-, huk⟩ | ⟨-, huk⟩
    · cases huk.symm.trans hu
    by_cases hl : l' = l
    · rw [howner, hl, update_self]
    · rw [howner, update_of_ne hl]
      exact h.free u caller' l' (huk.symm.trans hu)
  · subst hsem
    have hcount : s'.data.semCount = s.data.semCount := by rw [hs']; rfl
    refine token_moved (l := l) h hpc' (fun _ _ => by rw [hcount]) (fun l' hl => ?_)
      (fun l' hl => ?_) ?_
    · rw [howner, update_of_ne hl]
    · simp [hpc, passing, Ne.symm hl]
    rw [howner, update_self, hcount]
    have htoken := h.token rfl l
    rw [hmine] at htoken
    exact htoken.clear (passing_begins hpc' rfl)
  have hchan : s'.chan = s.chan := by rw [hs']; rfl
  have hwaiting : s'.data.waiting = update s.data.waiting t caller.waitsOn := by
    rw [hs']
    rfl
  rw [hwaiting] at hu
  rcases moved_cases hpc' u with ⟨rfl, huk⟩ | ⟨hut, huk⟩
  · rw [update_self] at hu
    left
    rw [huk]
    cases caller with
    | user => cases hu
    | cvWait c' => cases useSemaphore <;> exact Option.some.inj hu
  rw [update_of_ne hut] at hu
  rw [huk, hchan]
  exact h.waiting u c hu

lemma lockInv_acquire (horderly : Orderly lockHolds lockWaits s) (h : LockInv useSemaphore s)
    (hpc : s.pc t = .acquire caller l a)
    (hstep : step (lockCode useSemaphore) t call s = some s') : LockInv useSemaphore s' := by
  have hcode : lockCode useSemaphore t (s.pc t) = acquireCode useSemaphore t caller l a := by
    rw [hpc, lockCode]
  cases a with
  | inP p => exact lockInv_P h hpc hstep
  | lock =>
    obtain ⟨-, rfl⟩ := step_acquire hcode hstep
    refine lock_passes h rfl rfl (fun _ => rfl) ?_ (by simp) (fun caller' l' hk => ?_)
      (fun hsem l' => ?_) (by simp [hpc, dozing])
    · cases useSemaphore <;> simp [owns]
    · cases useSemaphore with
      | false => simp at hk
      | true =>
        obtain ⟨-, rfl⟩ : caller = caller' ∧ l = l' := by simpa using hk
        have hpassing : (s.pc t).passing l := by rw [hpc]; rfl
        exact ((h.token rfl l).unowned hpassing).2.1
    · simp [hsem, hpc, passing]
  | test =>
    obtain ⟨d, k, hact, rfl⟩ := step_act hcode hstep
    obtain ⟨rfl, rfl⟩ : s.data = d ∧ _ = k := by simpa using hact
    by_cases hnone : s.data.lkOwner l = none
    · rw [if_pos hnone]
      refine lock_passes h rfl rfl (fun _ => rfl) (by simp [owns]) (by simp)
        (fun caller' l' hk => ?_) (by simp [hpc, passing]) (by simp [hpc, dozing])
      obtain ⟨-, rfl⟩ : caller = caller' ∧ l = l' := by simpa using hk
      exact hnone
    rw [if_neg hnone]
    exact lock_passes h rfl rfl (fun _ => rfl) (by simp [owns]) (by simp) (by simp)
      (by simp [hpc, passing]) (by simp [hpc, dozing])
  | sleep =>
    obtain ⟨-, rfl⟩ := step_sleep hcode hstep
    exact lock_passes h rfl rfl (by simp) (by simp [owns]) (by simp) (by simp)
      (by simp [hpc, passing]) (by simp [hpc, dozing])
  | reacquire =>
    obtain ⟨-, rfl⟩ := step_acquire hcode hstep
    exact lock_passes h rfl rfl (fun _ => rfl) (by simp [owns]) (by simp) (by simp)
      (by simp [hpc, passing]) (by simp [hpc, dozing])
  | own => exact lockInv_own horderly h hpc hstep
  | unlock =>
    obtain ⟨-, hs'⟩ := step_release hcode hstep
    have hmine : s.data.lkOwner l = some t := h.owns t l (by rw [hpc]; rfl)
    have hpc' : s'.pc = update s.pc t (caller.acquired l) := by rw [hs']; rfl
    have hheld : s'.data.held = update s.data.held (t, l) true := by rw [hs']; rfl
    refine lock_goes h hpc' (by rw [hs']; rfl) (fun u l' hu => ?_) (fun u l' hu => ?_)
      (fun l' hk => ?_) (fun c l' hk => ?_) ?_ (fun hsem l' => ?_)
      (waiting_moved h hpc' (by rw [hs']; exact fun _ => rfl) (by rw [hs']; rfl)
        (by simp [hpc, dozing]))
    · by_cases heq : (u, l') = (t, l)
      · obtain ⟨rfl, rfl⟩ := Prod.mk.inj heq
        exact .inr hmine
      · rw [hheld, update_of_ne heq] at hu
        exact .inl hu
    · by_cases heq : (u, l') = (t, l)
      · rw [hheld, heq, update_self]
      · rwa [hheld, update_of_ne heq]
    · cases caller with
      | user => cases hk
      | cvWait c =>
        obtain rfl : l = l' := hk
        exact hmine
    · cases caller with
      | user => cases hk
      | cvWait c' =>
        cases hk
        rw [hheld, update_self]
    · cases caller <;> simp [Caller.acquired]
    have hcount : s'.data.semCount = s.data.semCount := by rw [hs']; rfl
    rw [hcount]
    refine (h.token hsem l').congr (passing_moved hpc' ?_)
    rw [hpc]
    cases caller <;> simp [Caller.acquired, passing]

section

variable (h : LockInv useSemaphore s)

include h

lemma lockInv_V (hpc : s.pc t = .release caller l (.inV v))
    (hstep : step (lockCode useSemaphore) t call s = some s') : LockInv useSemaphore s' := by
  have hcode : lockCode useSemaphore t (s.pc t) =
      V (lkSem l) (fun v => .release caller l (.inV v)) id (.release caller l .unlock) v := by
    rw [hpc, lockCode, releaseCode]
  have hdozing : ∀ v' c, (s.pc t).dozing c → (LockPc.release caller l (.inV v')).dozing c := by
    intro v' c
    rw [hpc]
    cases caller <;> exact id
  cases v with
  | acquire =>
    obtain ⟨-, rfl⟩ := step_acquire hcode hstep
    exact lock_passes h rfl rfl (fun _ => rfl) (by simp [owns]) (by simp) (by simp)
      (by simp [hpc, passing]) (hdozing _)
  | raise =>
    obtain ⟨-, hs'⟩ := step_V_raise hcode hstep
    have hpc' : s'.pc = update s.pc t (.release caller l (.inV .wake)) := by
      rw [hs']
      rfl
    have hcount : s'.data.semCount =
        update s.data.semCount l (s.data.semCount l + 1#32) := by
      rw [hs']
      rfl
    refine lock_goes h hpc' (by rw [hs']; rfl) (fun u l' hu => .inl (by rwa [hs'] at hu))
      (fun u l' hu => by rwa [hs']) (by simp [owns]) (by simp) (by simp) (fun hsem => ?_)
      (waiting_moved h hpc' (by rw [hs']; exact fun _ => rfl) (by rw [hs']; rfl) (hdozing _))
    subst hsem
    refine token_moved (l := l) h hpc' (fun l' hl => ?_) (fun _ _ => rfl) (fun l' hl => ?_) ?_
    · rw [hcount, update_of_ne hl]
    · simp [hpc, passing, Ne.symm hl]
    rw [hcount, update_self]
    have hpassing : (s.pc t).passing l := by rw [hpc]; rfl
    exact (h.token rfl l).raise hpassing (passing_ends hpc' id)
  | wake =>
    rcases step_wakeone hcode hstep with ⟨-, rfl⟩ | ⟨u, us, -, rfl⟩
    · exact lock_passes h rfl rfl (fun _ => rfl) (by simp [owns]) (by simp) (by simp)
        (by simp [hpc, passing]) (hdozing _)
    · exact lock_passes h rfl rfl (by simp [lkSem]) (by simp [owns]) (by simp) (by simp)
        (by simp [hpc, passing]) (hdozing _)
  | release =>
    obtain ⟨-, rfl⟩ := step_release hcode hstep
    refine lock_passes h rfl rfl (fun _ => rfl) (by simp [owns]) (by simp) (by simp)
      (by simp [hpc, passing]) (fun c => ?_)
    rw [hpc]
    cases caller <;> exact id

lemma lockInv_release (hpc : s.pc t = .release caller l r)
    (hstep : step (lockCode useSemaphore) t call s = some s') : LockInv useSemaphore s' := by
  have hcode : lockCode useSemaphore t (s.pc t) = releaseCode useSemaphore t caller l r := by
    rw [hpc, lockCode]
  cases r with
  | lock =>
    obtain ⟨-, rfl⟩ := step_acquire hcode hstep
    refine lock_passes h rfl rfl (fun _ => rfl) (fun l' hk => ?_) (by simp) (by simp)
      (by simp [hpc, passing]) (by cases caller <;> simp [hpc, dozing])
    exact h.owns t l' (by rw [hpc]; exact hk)
  | clear => exact lockInv_clear h hpc hstep
  | inV v => exact lockInv_V h hpc hstep
  | wakeone =>
    have hdozing : ∀ c, (s.pc t).dozing c → (LockPc.release caller l .unlock).dozing c := by
      intro c
      rw [hpc]
      cases caller <;> exact id
    rcases step_wakeone hcode hstep with ⟨-, rfl⟩ | ⟨u, us, -, rfl⟩
    · exact lock_passes h rfl rfl (fun _ => rfl) (by simp [owns]) (by simp) (by simp)
        (by simp [hpc, passing]) hdozing
    · exact lock_passes h rfl rfl (by simp) (by simp [owns]) (by simp) (by simp)
        (by simp [hpc, passing]) hdozing
  | unlock =>
    obtain ⟨-, rfl⟩ := step_release hcode hstep
    refine lock_passes h rfl rfl (fun _ => rfl) ?_ ?_ ?_ (fun _ l' => ?_) (fun c => ?_)
    · cases caller <;> simp [Caller.released, owns]
    · cases caller <;> simp [Caller.released]
    · cases caller <;> simp [Caller.released]
    · rw [hpc]
      cases caller <;> simp [Caller.released, passing]
    · rw [hpc]
      cases caller <;> exact id

lemma lockInv_wait (hpc : s.pc t = .wait c l w)
    (hstep : step (lockCode useSemaphore) t call s = some s') : LockInv useSemaphore s' := by
  have hcode : lockCode useSemaphore t (s.pc t) = cvWaitCode c l w := by rw [hpc, lockCode]
  cases w with
  | lock =>
    obtain ⟨-, rfl⟩ := step_acquire hcode hstep
    refine lock_passes h rfl rfl (fun _ => rfl) ?_ (by simp) (by simp)
      (by simp [hpc, passing]) (by simp [hpc, dozing])
    rintro l' ⟨rfl, -⟩
    exact h.owns t l (by rw [hpc]; rfl)
  | sleep =>
    -- the thread is on the channel before it lets go of `cv_lock`
    obtain ⟨-, hs'⟩ := step_sleep hcode hstep
    have hpc' : s'.pc = update s.pc t (.wait c l .reacquire) := by rw [hs']; rfl
    have hchan : s'.chan = update s.chan (.cv c) (s.chan (.cv c) ++ [t]) := by
      rw [hs']
      rfl
    have hdata : s'.data = s.data := by rw [hs']; rfl
    refine lock_goes h hpc' (by rw [hdata]) (fun u l' hu => .inl (by rwa [hdata] at hu))
      (fun u l' hu => by rwa [hdata]) (by simp [owns]) (by simp) (by simp)
      (fun hsem l' => ?_) (fun u c' hu => ?_)
    · rw [hdata]
      exact (h.token hsem l').congr (passing_moved hpc' (by simp [hpc, passing]))
    rw [hdata] at hu
    have hstays : ∀ v, v ∈ s.chan (.cv c') → v ∈ s'.chan (.cv c') := by
      intro v hv
      rw [hchan]
      by_cases hc : c' = c
      · subst hc
        simp [hv]
      · simpa [hc] using hv
    rcases h.waiting u c' hu with hdozing | hlisted
    · rcases moved_cases hpc' u with ⟨rfl, huk⟩ | ⟨-, huk⟩
      · rw [hpc] at hdozing
        obtain rfl : c = c' := hdozing
        right
        rw [hchan]
        simp
      · rw [huk]
        exact .inl hdozing
    · exact .inr (hstays u hlisted)
  | reacquire =>
    obtain ⟨-, rfl⟩ := step_acquire hcode hstep
    exact lock_passes h rfl rfl (fun _ => rfl) (by simp [owns]) (by simp) (by simp)
      (by simp [hpc, passing]) (by simp [hpc, dozing])
  | unlock =>
    obtain ⟨-, rfl⟩ := step_release hcode hstep
    exact lock_passes h rfl rfl (fun _ => rfl) (by simp [owns]) (by simp) (by simp)
      (by simp [hpc, passing]) (by simp [hpc, dozing])
  | returned =>
    obtain rfl := step_to hcode hstep
    exact lock_passes h rfl rfl (fun _ => rfl) (by simp [owns]) (by simp) (by simp)
      (by simp [hpc, passing]) (by simp [hpc, dozing])

lemma lockInv_wake (hpc : s.pc t = .wake all c l w)
    (hstep : step (lockCode useSemaphore) t call s = some s') : LockInv useSemaphore s' := by
  have hcode : lockCode useSemaphore t (s.pc t) = cvWakeCode all c l w := by rw [hpc, lockCode]
  cases w with
  | lock =>
    obtain ⟨-, rfl⟩ := step_acquire hcode hstep
    refine lock_passes h rfl rfl (fun _ => rfl) (fun l' hk => ?_) (by simp) (by simp)
      (by simp [hpc, passing]) (by simp [hpc, dozing])
    exact h.owns t l' (by rw [hpc]; exact hk)
  | wake =>
    cases all with
    | true =>
      obtain rfl := step_wakeall hcode hstep
      refine lockInv_woken h hpc rfl rfl fun c' u hu hnot => ?_
      have hc : (.cv c' : Sync Lk Cv) ≠ .cv c := fun heq => hnot (heq ▸ hu)
      simpa [hc] using hu
    | false =>
      rcases step_wakeone hcode hstep with ⟨hchan, rfl⟩ | ⟨u, us, hchan, rfl⟩
      · exact lockInv_woken h hpc rfl rfl fun c' u hu _ => hu
      refine lockInv_woken h hpc rfl rfl fun c' v hv hnot => ?_
      by_cases hc : c' = c
      · subst hc
        rw [hchan] at hv
        simp_all
      · simpa [hc] using hv
  | unlock =>
    obtain ⟨-, rfl⟩ := step_release hcode hstep
    exact lock_passes h rfl rfl (fun _ => rfl) (by simp [owns]) (by simp) (by simp)
      (by simp [hpc, passing]) (by simp [hpc, dozing])

end

lemma lockInv_step (horderly : Orderly lockHolds lockWaits s) (h : LockInv useSemaphore s)
    (hstep : step (lockCode useSemaphore) t call s = some s') : LockInv useSemaphore s' := by
  cases hpc : s.pc t with
  | outside =>
    have hcode : lockCode useSemaphore t (s.pc t) = lockCode useSemaphore t .outside := by rw [hpc]
    obtain ⟨d, k, hact, rfl⟩ := step_act hcode hstep
    obtain ⟨rfl, rfl⟩ : s.data = d ∧ call.enter = k := by simpa using hact
    refine lock_passes h rfl rfl (fun _ => rfl) ?_ ?_ ?_ (fun _ l' => ?_)
      (by simp [hpc, dozing])
    · cases call <;> simp [LockCall.enter, owns]
    · cases call <;> simp [LockCall.enter]
    · cases call <;> simp [LockCall.enter]
    · rw [hpc]
      cases call <;> simp [LockCall.enter, passing]
  | doIHold site l p => exact lockInv_doIHold h hpc hstep
  | acquire caller l a => exact lockInv_acquire horderly h hpc hstep
  | release caller l r => exact lockInv_release h hpc hstep
  | wait c l w => exact lockInv_wait h hpc hstep
  | wake all c l w => exact lockInv_wake h hpc hstep
  | failed site =>
    have hcode : lockCode useSemaphore t (s.pc t) = lockCode useSemaphore t (.failed site) := by
      rw [hpc]
    obtain ⟨d, k, hact, -⟩ := step_act hcode hstep
    cases hact

theorem lock_and_cv_safe (useSemaphore : Bool)
    (hreaches : Reaches (lockCode useSemaphore) lockCreate s) : LockSafe s := by
  have hinv := reaches_invariant (lockCode_respects useSemaphore)
    (fun s s' t call horderly h hstep => lockInv_step horderly h hstep)
    lockCreate_fresh lockCreate_inv hreaches
  exact hinv.2.safe hinv.1

def signalled : List (Bool × LockCall Unit Unit) :=
  List.replicate 14 (false, .lockAcquire ()) ++ List.replicate 16 (false, .cvWait () ()) ++
    List.replicate 14 (true, .lockAcquire ()) ++ List.replicate 5 (true, .cvSignal () ())

theorem lock_and_cv_safe_signalled :
    ∃ s : LockState Bool Unit Unit, Reaches (lockCode true) lockCreate s ∧
      s.pc true = .wake false () () .wake ∧ s.data.held (true, ()) = true ∧
      s.data.waiting false = some () ∧ LockSafe s := by
  obtain ⟨s, hreaches, hpc, hheld, hwaiting⟩ := reaches_of_run (lockCode true)
    (lockCreate : LockState Bool Unit Unit)
    (fun s => s.pc true = .wake false () () .wake ∧ s.data.held (true, ()) = true ∧
      s.data.waiting false = some ()) signalled (by decide)
  exact ⟨s, hreaches, hpc, hheld, hwaiting, lock_and_cv_safe true hreaches⟩

end Os161.Synch
