import Os161.Process.Membership.Lemmas

namespace Os161.Process

open Function Lib Lib.Threads Lib.Count Option MemberPc

variable {T Pr : Type} [DecidableEq T] [DecidableEq Pr] {s s' : MemberState T Pr} {t : T}
  {call : MemberCall T Pr}

lemma memberBoot_fresh (first : T) (kproc : Pr) :
    (memberBoot first kproc).Fresh memberHolds := by
  refine ⟨fun _ => rfl, fun t l => ?_, fun _ => rfl, fun _ => rfl⟩
  by_cases ht : t = first <;> simp [memberBoot, ht, memberHolds]

def NoSysExit (t : T) (call : MemberCall T Pr) (s : MemberState T Pr) : Prop :=
  s.pc t = .running → call ≠ .sysExit

lemma memberCode_inSysExit (hnext : (memberCode t pc).Next call k)
    (hk : k.inSysExit = true) : pc.inSysExit = true ∨ (pc = .running ∧ call = .sysExit) := by
  cases pc with
  | unborn | check =>
    obtain rfl := next_assert hnext
    cases hk
  | running =>
    obtain ⟨d, d', hact⟩ := hnext
    match call, hact with
    | .threadFork _ none, hact =>
      obtain ⟨-, rfl⟩ : _ ∧ _ = k := by simpa using hact
      cases hk
    | .threadFork proc (some u), hact =>
      simp only [ite_none_left_eq_some, some.injEq, Prod.mk.injEq] at hact
      obtain ⟨-, -, rfl⟩ := hact
      cases hk
    | .sysExit, _ => exact .inr ⟨rfl, rfl⟩
    | .threadExit, hact =>
      obtain ⟨-, rfl⟩ : _ ∧ _ = k := by simpa using hact
      cases hk
  | fork proc u =>
    cases proc with
    | some p =>
      obtain rfl := next_to hnext
      cases hk
    | none =>
      obtain ⟨d, d', hact⟩ := hnext
      cases hproc : d.tProc t with
      | none => simp [hproc] at hact
      | some p =>
        obtain ⟨-, rfl⟩ : _ ∧ _ = k := by simpa [hproc] using hact
        cases hk
  | add a proc u =>
    have hout : k.inSysExit = false := by
      cases a with
      | check => rw [next_assert hnext]; rfl
      | load =>
        obtain ⟨d, d', hact⟩ := hnext
        obtain ⟨-, rfl⟩ : _ ∧ _ = k := by simpa using hact
        rfl
      | store n | attach => rw [next_to hnext]; rfl
      | _ => obtain rfl := hnext; rfl
    rw [hout] at hk
    cases hk
  | ready u =>
    obtain rfl := next_to hnext
    cases hk
  | exit | signal => exact .inl rfl
  | remthread path =>
    obtain ⟨d, d', hact⟩ := hnext
    cases hproc : d.tProc t with
    | none => simp [hproc] at hact
    | some p =>
      obtain ⟨-, rfl⟩ : _ ∧ _ = k := by simpa [hproc] using hact
      exact .inl hk
  | rem r proc path =>
    left
    cases r with
    | load =>
      obtain ⟨d, d', hact⟩ := hnext
      simp only [ite_none_right_eq_some, some.injEq, Prod.mk.injEq] at hact
      obtain ⟨-, -, rfl⟩ := hact
      exact hk
    | store n =>
      obtain rfl := next_to hnext
      exact hk
    | detach =>
      obtain rfl := next_to hnext
      cases path with
      | sysExit | again => rfl
      | returns => cases hk
    | _ => obtain rfl := hnext; exact hk
  | zombie =>
    obtain ⟨d, d', hact⟩ := hnext
    cases hact

lemma noSysExit_step (h : ∀ u, (s.pc u).inSysExit = false) (hadmits : NoSysExit t call s)
    (hstep : step memberCode t call s = some s') (u : T) : (s'.pc u).inSysExit = false := by
  obtain ⟨k, hnext, hs'⟩ := step_next hstep
  rcases moved_cases hs' u with ⟨-, huk⟩ | ⟨-, huk⟩
  · rw [huk]
    refine Bool.eq_false_iff.mpr fun hk => ?_
    rcases memberCode_inSysExit hnext hk with hold | ⟨hrunning, hcall⟩
    · rw [h t] at hold
      cases hold
    · exact hadmits hrunning hcall
  · rw [huk]
    exact h u

section Membership

variable [Fintype T]

section

variable (h : Membership s)

include h

lemma membership_unborn (hpc : s.pc t = .unborn)
    (hstep : step memberCode t call s = some s') : Membership s' := by
  have hcode : memberCode t (s.pc t) = memberCode t .unborn := by rw [hpc]
  obtain ⟨hrunnable, rfl⟩ := step_assert hcode hstep
  have hattached := h.standing t
  rw [hpc] at hattached
  exact membership_passes h rfl rfl (.inr hrunnable) (by simp [hpc, leaves])
    (by simp [hpc, joins]) (by simp [reads]) (hattached hrunnable)
    (by simp [child]) (by simp [newborn]) (by simp)

lemma membership_create (hpc : s.pc t = .running)
    (hu : s.data.created u = false) (hs' : s'.pc = update s.pc t (.fork proc u))
    (hdata : s'.data = { s.data with
      created := update s.data.created u true
      tProc := update s.data.tProc u none }) : Membership s' := by
  obtain ⟨hunborn, hnone, hidle⟩ := h.uncreated u hu
  have hattached := h.standing t
  rw [hpc] at hattached
  have htProc : s'.data.tProc = s.data.tProc := by
    rw [hdata, ← hnone]
    exact update_eq_self u s.data.tProc
  refine membership_child h hs' (by simp [hpc]) u hunborn (fun v _ hv => ?_)
    (fun p => count_stays h hs' htProc ?_) (reads_moved h hs' (by rw [hdata]) ?_)
    (fun v hv => ⟨by rw [htProc], by rw [hdata], ?_⟩) ?_ ?_ ?_ ?_ hattached
  · rw [(h.child v u hv).2.1] at hu
    cases hu
  · simp [hdata, hpc, leaves, joins]
  · simp [reads]
  · rw [hdata]
    exact update_of_ne hv ..
  · rw [hdata]
    exact update_self ..
  · simp [hdata, hidle]
  · intro w _
    rw [htProc, hnone]
  · intro w hw
    exact ⟨(some.inj hw).symm, by rw [hdata]; exact hidle⟩

lemma membership_running (hpc : s.pc t = .running)
    (hstep : step memberCode t call s = some s') : Membership s' := by
  have hcode : memberCode t (s.pc t) = memberCode t .running := by rw [hpc]
  have hattached := h.standing t
  rw [hpc] at hattached
  obtain ⟨d, k, hact, rfl⟩ := step_act hcode hstep
  match call, hact with
  | .threadFork _ none, hact =>
    obtain ⟨rfl, rfl⟩ : _ = d ∧ _ = k := by simpa using hact
    exact membership_passes h rfl rfl (by simp [hpc]) (by simp [hpc]) (by simp [hpc])
      (by simp [reads]) hattached (by simp [hpc]) (by simp [hpc]) (by simp)
  | .threadFork proc (some u), hact =>
    simp only [ite_none_left_eq_some, some.injEq, Prod.mk.injEq] at hact
    obtain ⟨hcreated, rfl, rfl⟩ := hact
    exact membership_create h hpc (by simpa using hcreated) rfl rfl
  | .sysExit, hact =>
    obtain ⟨rfl, rfl⟩ : _ = d ∧ _ = k := by simpa using hact
    exact membership_passes h rfl rfl (by simp [hpc]) (by simp [hpc, leaves])
      (by simp [hpc, joins]) (by simp [reads]) hattached
      (by simp [child]) (by simp [newborn]) (by simp)
  | .threadExit, hact =>
    obtain ⟨rfl, rfl⟩ : _ = d ∧ _ = k := by simpa using hact
    exact membership_passes h rfl rfl (by simp [hpc]) (by simp [hpc, leaves])
      (by simp [hpc, joins]) (by simp [reads]) hattached
      (by simp [child]) (by simp [newborn]) (by simp)

lemma membership_fork (hpc : s.pc t = .fork proc u)
    (hstep : step memberCode t call s = some s') : Membership s' := by
  have hcode : memberCode t (s.pc t) = memberCode t (.fork proc u) := by rw [hpc]
  have hgoes : ∀ p d, s' = s.goto t (.add .check p u) d → d = s.data → Membership s' := by
    rintro p d rfl rfl
    exact newborn_passes (u := u) h rfl rfl (by rw [hpc]; rfl) rfl (by rw [hpc]; rfl) rfl
      (by simp [hpc, leaves]) (by simp [hpc, joins]) (by simp [reads])
  cases proc with
  | some p => exact hgoes p _ (step_to hcode hstep) rfl
  | none =>
    obtain ⟨d, k, hact, hs'⟩ := step_act hcode hstep
    cases hproc : s.data.tProc t with
    | none => simp [hproc] at hact
    | some p =>
      obtain ⟨rfl, rfl⟩ : s.data = d ∧ _ = k := by simpa [hproc] using hact
      exact hgoes p _ hs' rfl

end

lemma membership_add (horderly : Orderly memberHolds (fun _ => none) s) (h : Membership s)
    (hpc : s.pc t = .add a proc u) (hstep : step memberCode t call s = some s') :
    Membership s' := by
  have hcode : memberCode t (s.pc t) = addthreadCode proc u a := by rw [hpc, memberCode]
  have hattached := h.standing t
  have hnone := h.newborn t u (by rw [hpc]; rfl)
  rw [hpc] at hattached
  cases a with
  | check =>
    obtain ⟨-, rfl⟩ := step_assert hcode hstep
    exact newborn_passes (u := u) h rfl rfl (by rw [hpc]; rfl) rfl (by rw [hpc]; rfl) rfl
      (by simp [hpc, leaves]) (by simp [hpc, joins]) (by simp [reads])
  | acquire =>
    obtain ⟨-, rfl⟩ := step_acquire hcode hstep
    exact newborn_passes (u := u) h rfl rfl (by rw [hpc]; rfl) rfl (by rw [hpc]; rfl) rfl
      (by simp [hpc, leaves]) (by simp [hpc, joins]) (by simp [reads])
  | load =>
    obtain ⟨d, k, hact, rfl⟩ := step_act hcode hstep
    obtain ⟨rfl, rfl⟩ : s.data = d ∧ _ = k := by simpa using hact
    exact newborn_passes (u := u) h rfl rfl (by rw [hpc]; rfl) rfl (by rw [hpc]; rfl) rfl
      (by simp [hpc, leaves]) (by simp [hpc, joins])
      (by simp +contextual [reads])
  | store n =>
    obtain rfl := step_to hcode hstep
    have hread := h.reads t proc n (by rw [hpc]; rfl)
    refine membership_goes h rfl (by simp [hpc])
      (fun p => count_stays (t := t) (k := .add .release proc u) h ?_ ?_ ?_)
      (reads_stored horderly h (by rw [hpc]; rfl) rfl rfl rfl) (fun _ _ => rfl) rfl rfl hattached
      (by simp [hpc, child]) (by simp [hpc, newborn]) (by simp)
    · rfl
    · rfl
    by_cases hp : p = proc
    · subst hp
      simp [hpc, leaves, joins, hread]
    · simp [hpc, leaves, joins, hp, Ne.symm hp]
  | release =>
    obtain ⟨-, rfl⟩ := step_release hcode hstep
    exact newborn_passes (u := u) h rfl rfl (by rw [hpc]; rfl) rfl (by rw [hpc]; rfl) rfl
      (by simp [hpc, leaves]) (by simp [hpc, joins]) (by simp [reads])
  | attach =>
    obtain rfl := step_to hcode hstep
    have hchild : (s.pc t).child = some u := by rw [hpc]; rfl
    obtain ⟨hunborn, hborn, hidle⟩ := h.child t u hchild
    refine membership_child h rfl (by simp [hpc]) u hunborn
      (fun v hv hvu => hv (h.sole v t u hvu hchild)) (fun p => count_moved h rfl rfl ?_)
      (reads_moved h rfl rfl (by simp [reads])) (fun v hv => ⟨?_, rfl, rfl⟩) hborn ?_ ?_
      (fun w hw => ⟨(some.inj hw).symm, hidle⟩) hattached
    · simp [hpc, hnone, leaves, joins]
    · exact update_of_ne hv ..
    · simp
    · simp [newborn]

lemma membership_ready (h : Membership s) (hpc : s.pc t = .ready u)
    (hstep : step memberCode t call s = some s') : Membership s' := by
  have hcode : memberCode t (s.pc t) = memberCode t (.ready u) := by rw [hpc]
  have hattached := h.standing t
  rw [hpc] at hattached
  obtain rfl := step_to hcode hstep
  have hchild : (s.pc t).child = some u := by rw [hpc]; rfl
  obtain ⟨hunborn, hborn, hidle⟩ := h.child t u hchild
  refine membership_child h rfl (by simp [hpc]) u hunborn
    (fun v hv hvu => hv (h.sole v t u hvu hchild))
    (fun p => count_stays (t := t) (k := .running) h ?_ ?_ ?_)
    (reads_moved h rfl rfl (by simp [reads])) (fun v hv => ⟨rfl, ?_, rfl⟩) hborn
    (fun _ => h.placed t u hpc) ?_ ?_ hattached
  · rfl
  · rfl
  · simp [hpc, leaves, joins]
  · exact update_of_ne hv ..
  · simp [newborn]
  · simp [child]

lemma membership_exit (h : Membership s) (hpc : s.pc t = .exit)
    (hstep : step memberCode t call s = some s') : Membership s' := by
  have hcode : memberCode t (s.pc t) = memberCode t .exit := by rw [hpc]
  obtain ⟨d, k, hact, rfl⟩ := step_act hcode hstep
  cases hproc : s.data.tProc t with
  | none => simp [hproc] at hact
  | some p =>
    obtain ⟨rfl, rfl⟩ : s.data = d ∧ _ = k := by simpa [hproc] using hact
    exact leaving_passes h rfl rfl (by simp [hpc])
      (by simp [standing, Standing.Fits, hproc]) rfl (by simp [hpc, leaves])
      (by simp [hpc, joins]) (by simp [reads])

lemma membership_remthread (h : Membership s) (hpc : s.pc t = .remthread path)
    (hstep : step memberCode t call s = some s') : Membership s' := by
  have hcode : memberCode t (s.pc t) = memberCode t (.remthread path) := by rw [hpc]
  obtain ⟨d, k, hact, rfl⟩ := step_act hcode hstep
  cases hproc : s.data.tProc t with
  | none => simp [hproc] at hact
  | some p =>
    obtain ⟨rfl, rfl⟩ : s.data = d ∧ _ = k := by simpa [hproc] using hact
    exact leaving_passes h rfl rfl (by simp [hpc]) hproc rfl (by simp [hpc, leaves])
      (by simp [hpc, joins]) (by simp [reads])

section

variable (horderly : Orderly memberHolds (fun _ => none) s) (h : Membership s)

include horderly h

lemma membership_rem (hpc : s.pc t = .rem r proc path)
    (hstep : step memberCode t call s = some s') :
    Membership s' := by
  have hcode : memberCode t (s.pc t) = remthreadCode t proc path r := by rw [hpc, memberCode]
  have hproc : s.data.tProc t = some proc := by
    have := h.standing t
    rwa [hpc] at this
  cases r with
  | acquire =>
    obtain ⟨-, rfl⟩ := step_acquire hcode hstep
    exact leaving_passes h rfl rfl (by simp [hpc]) hproc rfl (by simp [hpc, leaves])
      (by simp [hpc, joins]) (by simp [reads])
  | load =>
    obtain ⟨d, k, hact, rfl⟩ := step_act hcode hstep
    simp only [ite_none_right_eq_some, some.injEq, Prod.mk.injEq] at hact
    obtain ⟨-, rfl, rfl⟩ := hact
    exact leaving_passes h rfl rfl (by simp [hpc]) hproc rfl (by simp [hpc, leaves])
      (by simp [hpc, joins]) (by simp +contextual [reads])
  | store n =>
    obtain rfl := step_to hcode hstep
    have hread := h.reads t proc n (by rw [hpc]; rfl)
    have hpos := h.counted hproc (by rw [hpc]; rfl)
    refine membership_goes h rfl (by simp [hpc])
      (fun p => count_stays (t := t) (k := .rem .release proc path) h ?_ ?_ ?_)
      (reads_stored horderly h (by rw [hpc]; rfl) rfl rfl rfl) (fun _ _ => rfl) rfl rfl hproc
      (by simp [child]) (by simp [newborn]) (by simp)
    · rfl
    · rfl
    by_cases hp : p = proc
    · subst hp
      simp [hpc, leaves, joins]
      omega
    · simp [hpc, leaves, joins, hp, Ne.symm hp]
  | release =>
    obtain ⟨-, rfl⟩ := step_release hcode hstep
    exact leaving_passes h rfl rfl (by simp [hpc]) hproc rfl (by simp [hpc, leaves])
      (by simp [hpc, joins]) (by simp [reads])
  | detach =>
    obtain rfl := step_to hcode hstep
    have hret : (path.ret : MemberPc T Pr).standing = .detached := by cases path <;> rfl
    refine membership_goes h rfl (by simp [hpc]) (fun p => count_moved h rfl rfl ?_)
      (reads_moved h rfl rfl ?_) (fun u hu => ?_) rfl rfl ?_ ?_ ?_ ?_
    · cases path <;> simp [hpc, hproc, leaves, joins, ExitPath.ret]
    · cases path <;> simp [ExitPath.ret, reads]
    · exact update_of_ne hu ..
    · rw [hret]
      exact update_self ..
    · cases path <;> simp [ExitPath.ret, child]
    · cases path <;> simp [ExitPath.ret, newborn]
    · cases path <;> simp [ExitPath.ret]

lemma membership_step (hstep : step memberCode t call s = some s') : Membership s' := by
  cases hpc : s.pc t with
  | unborn => exact membership_unborn h hpc hstep
  | running => exact membership_running h hpc hstep
  | fork proc u => exact membership_fork h hpc hstep
  | add a proc u => exact membership_add horderly h hpc hstep
  | ready u => exact membership_ready h hpc hstep
  | exit => exact membership_exit h hpc hstep
  | remthread path => exact membership_remthread h hpc hstep
  | rem r proc path => exact membership_rem horderly h hpc hstep
  | signal =>
    have hcode : memberCode t (s.pc t) = memberCode t .signal := by rw [hpc]
    obtain rfl := step_to hcode hstep
    have hdetached := h.standing t
    rw [hpc] at hdetached
    exact leaving_passes h rfl rfl (by simp [hpc]) hdetached rfl (by simp [hpc, leaves])
      (by simp [hpc, joins]) (by simp [reads])
  | check =>
    have hcode : memberCode t (s.pc t) = memberCode t .check := by rw [hpc]
    obtain ⟨hdetached, rfl⟩ := step_assert hcode hstep
    exact leaving_passes h rfl rfl (by simp [hpc]) hdetached rfl (by simp [hpc, leaves])
      (by simp [hpc, joins]) (by simp [reads])
  | zombie =>
    have hcode : memberCode t (s.pc t) = memberCode t .zombie := by rw [hpc]
    obtain ⟨d, k, hact, -⟩ := step_act hcode hstep
    cases hact

end

lemma memberBoot_membership (first : T) (kproc : Pr) : Membership (memberBoot first kproc) := by
  have hchild : ∀ t, ((memberBoot first kproc).pc t).child = none := by
    intro t
    by_cases ht : t = first <;> simp [memberBoot, ht, child]
  have hnewborn : ∀ t, ((memberBoot first kproc).pc t).newborn = none := by
    intro t
    by_cases ht : t = first <;> simp [memberBoot, ht, newborn]
  refine ⟨fun p => ?_, fun t p n ht => ?_, fun t => ?_, fun t u ht => ?_, fun t t' u ht => ?_,
    fun t u ht => ?_, fun t u ht => ?_, fun t ht => ?_⟩
  · have hleaves : count Finset.univ (·.leaves p = true) (memberBoot first kproc).pc = 0 := by
      refine count_eq_zero.mpr fun t _ => ?_
      by_cases ht : t = first <;> simp [memberBoot, ht, leaves]
    have hjoins : count Finset.univ (·.joins p = true) (memberBoot first kproc).pc = 0 := by
      refine count_eq_zero.mpr fun t _ => ?_
      by_cases ht : t = first <;> simp [memberBoot, ht, joins]
    have hprocs : (memberBoot first kproc).data.tProc =
        update (fun _ => none) first (some kproc) := by
      funext t
      simp [memberBoot, update_apply]
    have hnone : count Finset.univ (· = some p) (fun _ : T => (none : Option Pr)) = 0 :=
      count_eq_zero.mpr fun t _ => by simp
    have hfirst := count_update (q := (· = some p)) (f := fun _ : T => (none : Option Pr))
      (Finset.mem_univ first) (some kproc)
    rw [hleaves, hjoins, hprocs]
    by_cases hp : p = kproc
    · simp [memberBoot, hp] at hfirst hnone ⊢
      omega
    · simp [memberBoot, hp, Ne.symm hp] at hfirst hnone ⊢
      omega
  · by_cases hfirst : t = first <;> simp [memberBoot, hfirst, reads] at ht
  · by_cases hfirst : t = first <;>
      simp [memberBoot, hfirst, standing, Standing.Fits]
  · simp [hchild] at ht
  · simp [hchild] at ht
  · simp [hnewborn] at ht
  · by_cases hfirst : t = first <;> simp [memberBoot, hfirst] at ht
  · have hfirst : t ≠ first := by simpa [memberBoot] using ht
    simp [memberBoot, hfirst]

-- As long as no thread calls sys__exit. From sys__exit thread_exit is called by a thread that is
-- detached.
theorem thread_membership (first : T) (kproc : Pr) :
    (∀ s, GuardedReaches memberCode NoSysExit (memberBoot first kproc) s → MembershipSafe s) ∧
      ∀ s t, Reaches memberCode (memberBoot first kproc) s → s.pc t = .remthread .again →
        s.data.tProc t = none ∧ ¬ MembershipSafe s := by
  constructor
  · intro s hreaches
    have hboot : ∀ t, ((memberBoot first kproc).pc t).inSysExit = false := by
      intro t
      by_cases ht : t = first <;> simp [memberBoot, ht, inSysExit]
    have hinv := guarded_invariant memberCode_respects
      (fun s s' t call horderly (h : Membership s ∧ ∀ u, (s.pc u).inSysExit = false) hadmits
        hstep => ⟨membership_step horderly h.1 hstep, noSysExit_step h.2 hadmits hstep⟩)
      (memberBoot_fresh first kproc) ⟨memberBoot_membership first kproc, hboot⟩ hreaches
    exact hinv.2.1.safe hinv.2.2
  intro s t hreaches ht
  have hinv := reaches_invariant memberCode_respects
    (fun s s' t call horderly h hstep => membership_step horderly h hstep)
    (memberBoot_fresh first kproc) (memberBoot_membership first kproc) hreaches
  have hnone := hinv.2.standing t
  rw [ht] at hnone
  exact ⟨hnone, fun hsafe => hsafe.attached t .again ht hnone⟩

end Membership

theorem sys_exit_detaches_twice :
    ∃ s, Reaches memberCode (memberBoot (0 : Fin 1) (0 : Fin 1)) s ∧
      s.pc 0 = .remthread .again ∧ s.data.tProc 0 = none :=
  reaches_of_run memberCode (memberBoot (0 : Fin 1) (0 : Fin 1))
    (fun s => s.pc 0 = .remthread .again ∧ s.data.tProc 0 = none)
    (List.replicate 9 (0, .sysExit)) (by decide)

instance (t : T) (call : MemberCall T Pr) (s : MemberState T Pr) :
    Decidable (NoSysExit t call s) := by
  unfold NoSysExit
  infer_instance

theorem thread_membership_forked :
    ∃ s, GuardedReaches memberCode NoSysExit (memberBoot (0 : Fin 2) (0 : Fin 2)) s ∧
      s.pc 1 = .zombie ∧ MembershipSafe s := by
  obtain ⟨s, hreaches, hpc⟩ := guardedReaches_of_run memberCode NoSysExit
    (memberBoot (0 : Fin 2) (0 : Fin 2)) (fun s => s.pc 1 = .zombie)
    (List.replicate 9 (0, .threadFork (some 1) (some 1)) ++ List.replicate 9 (1, .threadExit))
    (by decide)
  exact ⟨s, hreaches, hpc, (thread_membership 0 0).1 s hreaches⟩

end Os161.Process
