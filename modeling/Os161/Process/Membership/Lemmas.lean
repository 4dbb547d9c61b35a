import Os161.Process.Membership
import Os161.Lib.Count
import Mathlib.Data.Fintype.Basic

namespace Os161.Process

open Function Lib Lib.Threads Lib.Count Finset Option MemberPc

variable {T Pr : Type}

def memberHolds : MemberPc T Pr → Pr → Prop
  | .add .load proc _, m | .add (.store _) proc _, m | .add .release proc _, m => m = proc
  | .rem .load proc _, m | .rem (.store _) proc _, m | .rem .release proc _, m => m = proc
  | _, _ => False

section Respects

variable [DecidableEq T] [DecidableEq Pr]

lemma memberCode_respects (t : T) (pc : MemberPc T Pr) :
    (memberCode t pc).Respects memberHolds (fun _ => none) pc := by
  cases pc with
  | unborn | check => exact respects_assert fun m => Iff.rfl
  | running =>
    intro call d d' k hact m
    match call, hact with
    | .threadFork _ none, hact =>
      obtain ⟨-, rfl⟩ : _ ∧ _ = k := by simpa using hact
      rfl
    | .threadFork proc (some u), hact =>
      simp only [ite_none_left_eq_some, some.injEq, Prod.mk.injEq] at hact
      obtain ⟨-, -, rfl⟩ := hact
      rfl
    | .sysExit, hact =>
      obtain ⟨-, rfl⟩ : _ ∧ _ = k := by simpa using hact
      rfl
    | .threadExit, hact =>
      obtain ⟨-, rfl⟩ : _ ∧ _ = k := by simpa using hact
      rfl
  | fork proc u =>
    cases proc with
    | some proc => exact respects_to fun m => Iff.rfl
    | none =>
      intro i d d' k hact m
      cases hproc : d.tProc t with
      | none => simp [hproc] at hact
      | some proc =>
        obtain ⟨-, rfl⟩ : _ ∧ _ = k := by simpa [hproc] using hact
        rfl
  | add a proc u =>
    cases a with
    | check => exact respects_assert fun m => Iff.rfl
    | acquire => exact ⟨id, fun m => by simp [memberHolds]⟩
    | load =>
      intro i d d' k hact m
      obtain ⟨-, rfl⟩ : _ ∧ _ = k := by simpa [addthreadCode] using hact
      rfl
    | store n | attach => exact respects_to fun m => Iff.rfl
    | release => exact ⟨rfl, fun m => by simp [memberHolds]⟩
  | ready u | signal => exact respects_to fun m => Iff.rfl
  | exit | remthread path =>
    intro i d d' k hact m
    cases hproc : d.tProc t with
    | none => simp [hproc] at hact
    | some proc =>
      obtain ⟨-, rfl⟩ : _ ∧ _ = k := by simpa [hproc] using hact
      rfl
  | rem r proc path =>
    cases r with
    | acquire => exact ⟨id, fun m => by simp [memberHolds]⟩
    | load =>
      intro i d d' k hact m
      simp only [ite_none_right_eq_some, some.injEq, Prod.mk.injEq] at hact
      obtain ⟨-, -, rfl⟩ := hact
      rfl
    | store n => exact respects_to fun m => Iff.rfl
    | release => exact ⟨rfl, fun m => by simp [memberHolds]⟩
    | detach => exact respects_to fun m => by cases path <;> rfl
  | zombie => intro i d d' k hact; cases hact

end Respects

inductive Standing (Pr : Type) where
  | unborn | attached | leaving (proc : Pr) | detached

def MemberPc.standing : MemberPc T Pr → Standing Pr
  | .unborn => .unborn
  | .running | .fork _ _ | .add _ _ _ | .ready _ | .exit => .attached
  | .remthread .sysExit | .remthread .returns => .attached
  | .rem _ proc _ => .leaving proc
  | .signal | .remthread .again | .check | .zombie => .detached

def Standing.Fits (runnable : Bool) (proc : Option Pr) : Standing Pr → Prop
  | .unborn => runnable = true → proc ≠ none
  | .attached => proc ≠ none
  | .leaving p => proc = some p
  | .detached => proc = none

def MemberPc.child : MemberPc T Pr → Option T
  | .fork _ u | .add _ _ u | .ready u => some u
  | _ => none

def MemberPc.newborn : MemberPc T Pr → Option T
  | .fork _ u | .add _ _ u => some u
  | _ => none

def MemberPc.joins [DecidableEq Pr] (p : Pr) : MemberPc T Pr → Bool
  | .add .release proc _ | .add .attach proc _ => decide (proc = p)
  | _ => false

def MemberPc.leaves [DecidableEq Pr] (p : Pr) : MemberPc T Pr → Bool
  | .rem .release proc _ | .rem .detach proc _ => decide (proc = p)
  | _ => false

def MemberPc.reads : MemberPc T Pr → Option (Pr × Nat)
  | .add (.store n) proc _ | .rem (.store n) proc _ => some (proc, n)
  | _ => none

def MemberPc.inSysExit : MemberPc T Pr → Bool
  | .exit | .signal => true
  | .remthread path | .rem _ _ path => path != .returns
  | _ => false

structure Membership [Fintype T] [DecidableEq Pr] (s : MemberState T Pr) : Prop where
  counts : ∀ p, s.data.pNumthreads p + count Finset.univ (·.leaves p) s.pc =
    count Finset.univ (· = some p) s.data.tProc + count Finset.univ (·.joins p) s.pc
  reads : ∀ t p n, (s.pc t).reads = some (p, n) → s.data.pNumthreads p = n
  standing : ∀ t, (s.pc t).standing.Fits (s.data.runnable t) (s.data.tProc t)
  child : ∀ t u, (s.pc t).child = some u →
    s.pc u = .unborn ∧ s.data.created u = true ∧ s.data.runnable u = false
  sole : ∀ t t' u, (s.pc t).child = some u → (s.pc t').child = some u → t = t'
  newborn : ∀ t u, (s.pc t).newborn = some u → s.data.tProc u = none
  placed : ∀ t u, s.pc t = .ready u → s.data.tProc u ≠ none
  uncreated : ∀ t, s.data.created t = false →
    s.pc t = .unborn ∧ s.data.tProc t = none ∧ s.data.runnable t = false

lemma MemberPc.child_of_newborn {pc : MemberPc T Pr} (h : pc.newborn = some u) :
    pc.child = some u := by
  cases pc <;> simp_all [MemberPc.newborn, MemberPc.child]

section Membership

variable [Fintype T] [DecidableEq Pr] {s s' : MemberState T Pr} {t : T} {k : MemberPc T Pr}

lemma Membership.moving (h : Membership s)
    (ht : s.pc t ≠ .unborn ∨ s.data.runnable t = true) :
    (∀ u, (s.pc u).child ≠ some t) ∧ s.data.created t = true := by
  constructor
  · intro u hu
    obtain ⟨hunborn, -, hrunnable⟩ := h.child u t hu
    rcases ht with ht | ht
    · exact ht hunborn
    · rw [hrunnable] at ht
      cases ht
  refine Bool.of_not_eq_false fun huncreated => ?_
  obtain ⟨hunborn, -, hrunnable⟩ := h.uncreated t huncreated
  rcases ht with ht | ht
  · exact ht hunborn
  · rw [hrunnable] at ht
    cases ht

lemma Membership.counted (h : Membership s) (hproc : s.data.tProc t = some p)
    (hleaves : (s.pc t).leaves p = false) : 0 < s.data.pNumthreads p := by
  have hlt : count Finset.univ (·.leaves p = true) s.pc <
      count Finset.univ (· = some p) s.data.tProc := by
    refine count_lt_count (fun u _ hu => ?_) (mem_univ t) hproc (by simp [hleaves])
    have hstanding := h.standing u
    generalize s.pc u = pc at hu hstanding
    revert hu hstanding
    fun_cases leaves p pc <;> simp +contextual [MemberPc.standing, Standing.Fits]
  have := h.counts p
  omega

-- When no thread is between counting and attaching, or uncounting and detaching, the count is the
-- number of members. No assertion fails.
structure MembershipSafe (s : MemberState T Pr) : Prop where
  counts : ∀ p, (∀ t, (s.pc t).joins p = false ∧ (s.pc t).leaves p = false) →
    s.data.pNumthreads p = count Finset.univ (· = some p) s.data.tProc
  unattached : ∀ t p u, s.pc t = .add .check p u → s.data.tProc u = none
  attached : ∀ t path, s.pc t = .remthread path → s.data.tProc t ≠ none
  positive : ∀ t p path, s.pc t = .rem .load p path → 0 < s.data.pNumthreads p
  detached : ∀ t, s.pc t = .check → s.data.tProc t = none

lemma Membership.safe (h : Membership s) (hout : ∀ t, (s.pc t).inSysExit = false) :
    MembershipSafe s := by
  refine ⟨fun p hp => ?_, fun t p u ht => ?_, fun t path ht => ?_, fun t p path ht => ?_,
    fun t ht => ?_⟩
  · have hcounts := h.counts p
    have hleaves : count Finset.univ (·.leaves p = true) s.pc = 0 :=
      count_eq_zero.mpr fun t _ => by simp [(hp t).2]
    have hjoins : count Finset.univ (·.joins p = true) s.pc = 0 :=
      count_eq_zero.mpr fun t _ => by simp [(hp t).1]
    omega
  · exact h.newborn t u (by rw [ht]; rfl)
  · have hstanding := h.standing t
    have hnot := hout t
    rw [ht] at hstanding hnot
    cases path with
    | returns => exact hstanding
    | _ => cases hnot
  · have hstanding := h.standing t
    rw [ht] at hstanding
    exact h.counted hstanding (by rw [ht]; rfl)
  · have hstanding := h.standing t
    rwa [ht] at hstanding

variable [DecidableEq T]

section

variable (h : Membership s) (hs' : s'.pc = update s.pc t k)

include h hs'

lemma count_moved (htProc : s'.data.tProc = update s.data.tProc u x)
    (hnum : s'.data.pNumthreads p + (k.leaves p).toNat + ((s.pc t).joins p).toNat +
        (decide (s.data.tProc u = some p)).toNat =
      s.data.pNumthreads p + ((s.pc t).leaves p).toNat + (k.joins p).toNat +
        (decide (x = some p)).toNat) :
    s'.data.pNumthreads p + count Finset.univ (·.leaves p) s'.pc =
      count Finset.univ (· = some p) s'.data.tProc + count Finset.univ (·.joins p) s'.pc := by
  have hleaves := count_update (q := (·.leaves p)) (f := s.pc) (mem_univ t) k
  have hjoins := count_update (q := (·.joins p)) (f := s.pc) (mem_univ t) k
  have hproc := count_update (q := (· = some p)) (f := s.data.tProc) (mem_univ u) x
  have hcount := h.counts p
  simp only [Bool.toNat, Bool.cond_eq_ite, decide_eq_true_eq] at hnum
  rw [hs', htProc]
  omega

lemma count_stays (htProc : s'.data.tProc = s.data.tProc)
    (hnum : s'.data.pNumthreads p + (k.leaves p).toNat + ((s.pc t).joins p).toNat =
      s.data.pNumthreads p + ((s.pc t).leaves p).toNat + (k.joins p).toNat) :
    s'.data.pNumthreads p + count Finset.univ (·.leaves p) s'.pc =
      count Finset.univ (· = some p) s'.data.tProc + count Finset.univ (·.joins p) s'.pc := by
  have hsame : s'.data.tProc = update s.data.tProc t (s.data.tProc t) := by
    rw [htProc, update_eq_self]
  exact count_moved h hs' hsame (by omega)

lemma reads_moved (hnum : s'.data.pNumthreads = s.data.pNumthreads)
    (hk : ∀ p n, k.reads = some (p, n) → s.data.pNumthreads p = n) (u : T) (p : Pr) (n : Nat)
    (hu : (s'.pc u).reads = some (p, n)) : s'.data.pNumthreads p = n := by
  rw [hnum]
  rcases moved_cases hs' u with ⟨-, huk⟩ | ⟨-, huk⟩
  · exact hk p n (huk ▸ hu)
  · exact h.reads u p n (huk ▸ hu)

lemma membership_goes (hmoving : s.pc t ≠ .unborn ∨ s.data.runnable t = true)
    (hcount : ∀ p, s'.data.pNumthreads p + count Finset.univ (·.leaves p) s'.pc =
      count Finset.univ (· = some p) s'.data.tProc + count Finset.univ (·.joins p) s'.pc)
    (hreads : ∀ u p n, (s'.pc u).reads = some (p, n) → s'.data.pNumthreads p = n)
    (htProc : ∀ u, u ≠ t → s'.data.tProc u = s.data.tProc u)
    (hcreated : s'.data.created = s.data.created) (hrunnable : s'.data.runnable = s.data.runnable)
    (hstanding : k.standing.Fits (s.data.runnable t) (s'.data.tProc t))
    (hchild : ∀ u, k.child = some u → (s.pc t).child = some u)
    (hnewborn : ∀ u, k.newborn = some u → (s.pc t).newborn = some u)
    (hready : ∀ u, k ≠ .ready u) : Membership s' := by
  obtain ⟨hnochild, hborn⟩ := h.moving hmoving
  have hwt : ∀ v w, (s.pc v).child = some w → w ≠ t := fun v w hv heq => hnochild v (heq ▸ hv)
  have hstays : ∀ w, w ≠ t → s'.pc w = s.pc w := fun w hw => by rw [hs', update_of_ne hw]
  have hchild' : ∀ v u, (s'.pc v).child = some u → (s.pc v).child = some u := by
    intro v u hv
    rcases moved_cases hs' v with ⟨rfl, hvk⟩ | ⟨-, hvk⟩
    · exact hchild u (hvk ▸ hv)
    · rwa [hvk] at hv
  refine ⟨hcount, hreads, fun u => ?_, fun v u hv => ?_,
    fun v v' u hv hv' => h.sole v v' u (hchild' v u hv) (hchild' v' u hv'), fun v u hv => ?_,
    fun v u hv => ?_, fun u hu => ?_⟩
  · rw [hrunnable]
    rcases moved_cases hs' u with ⟨rfl, huk⟩ | ⟨hut, huk⟩
    · rwa [huk]
    · rw [huk, htProc u hut]
      exact h.standing u
  · have hold := hchild' v u hv
    rw [hstays u (hwt v u hold), hcreated, hrunnable]
    exact h.child v u hold
  · have hold : (s.pc v).newborn = some u := by
      rcases moved_cases hs' v with ⟨rfl, hvk⟩ | ⟨-, hvk⟩
      · exact hnewborn u (hvk ▸ hv)
      · rwa [hvk] at hv
    rw [htProc u (hwt v u (child_of_newborn hold))]
    exact h.newborn v u hold
  · rcases moved_cases hs' v with ⟨rfl, hvk⟩ | ⟨-, hvk⟩
    · exact absurd (hvk.symm.trans hv) (hready u)
    rw [hvk] at hv
    rw [htProc u (hwt v u (by rw [hv]; rfl))]
    exact h.placed v u hv
  rw [hcreated] at hu
  have hut : u ≠ t := fun heq => by
    rw [heq, hborn] at hu
    cases hu
  rw [hstays u hut, htProc u hut, hrunnable]
  exact h.uncreated u hu

lemma membership_passes (hdata : s'.data = s.data)
    (hmoving : s.pc t ≠ .unborn ∨ s.data.runnable t = true)
    (hleaves : ∀ p, k.leaves p = (s.pc t).leaves p) (hjoins : ∀ p, k.joins p = (s.pc t).joins p)
    (hreads : ∀ p n, k.reads = some (p, n) → s.data.pNumthreads p = n)
    (hstanding : k.standing.Fits (s.data.runnable t) (s.data.tProc t))
    (hchild : ∀ u, k.child = some u → (s.pc t).child = some u)
    (hnewborn : ∀ u, k.newborn = some u → (s.pc t).newborn = some u)
    (hready : ∀ u, k ≠ .ready u) : Membership s' := by
  refine membership_goes h hs' hmoving
    (fun p => count_stays h hs' (by rw [hdata]) (by rw [hdata, hleaves, hjoins]))
    (reads_moved h hs' (by rw [hdata]) hreads) (fun u _ => by rw [hdata]) (by rw [hdata])
    (by rw [hdata]) ?_ hchild hnewborn hready
  rwa [hdata]

lemma membership_child (hmoving : s.pc t ≠ .unborn) (u : T) (hunborn : s.pc u = .unborn)
    (hsole : ∀ v, v ≠ t → (s.pc v).child ≠ some u)
    (hcount : ∀ p, s'.data.pNumthreads p + count Finset.univ (·.leaves p) s'.pc =
      count Finset.univ (· = some p) s'.data.tProc + count Finset.univ (·.joins p) s'.pc)
    (hreads : ∀ u p n, (s'.pc u).reads = some (p, n) → s'.data.pNumthreads p = n)
    (hrecords : ∀ v, v ≠ u → s'.data.tProc v = s.data.tProc v ∧
      s'.data.runnable v = s.data.runnable v ∧ s'.data.created v = s.data.created v)
    (hborn : s'.data.created u = true)
    (hready : s'.data.runnable u = true ∨ (∃ w, k = .ready w) → s'.data.tProc u ≠ none)
    (hnewborn : ∀ w, k.newborn = some w → s'.data.tProc u = none)
    (hchild : ∀ w, k.child = some w → w = u ∧ s'.data.runnable u = false)
    (hstanding : k.standing.Fits (s.data.runnable t) (s.data.tProc t)) : Membership s' := by
  obtain ⟨hnochild, htborn⟩ := h.moving (.inl hmoving)
  have hut : u ≠ t := fun heq => hmoving (heq ▸ hunborn)
  have hstays : ∀ w, w ≠ t → s'.pc w = s.pc w := fun w hw => by rw [hs', update_of_ne hw]
  have hwt : ∀ v w, (s.pc v).child = some w → w ≠ t := fun v w hv heq => hnochild v (heq ▸ hv)
  have hwu : ∀ v w, v ≠ t → (s.pc v).child = some w → w ≠ u := fun v w hv hw heq =>
    hsole v hv (heq ▸ hw)
  refine ⟨hcount, hreads, fun v => ?_, fun v w hv => ?_, fun v v' w hv hv' => ?_,
    fun v w hv => ?_, fun v w hv => ?_, fun v hv => ?_⟩
  · rcases moved_cases hs' v with ⟨rfl, hvk⟩ | ⟨-, hvk⟩
    · rw [hvk, (hrecords v hut.symm).1, (hrecords v hut.symm).2.1]
      exact hstanding
    rw [hvk]
    by_cases hvu : v = u
    · rw [hvu, hunborn]
      exact fun hrunnable => hready (.inl hrunnable)
    · rw [(hrecords v hvu).1, (hrecords v hvu).2.1]
      exact h.standing v
  · rcases moved_cases hs' v with ⟨rfl, hvk⟩ | ⟨hvt, hvk⟩
    · rw [hvk] at hv
      obtain ⟨rfl, hidle⟩ := hchild w hv
      rw [hstays w hut]
      exact ⟨hunborn, hborn, hidle⟩
    rw [hvk] at hv
    have hne := hwu v w hvt hv
    rw [hstays w (hwt v w hv), (hrecords w hne).2.2, (hrecords w hne).2.1]
    exact h.child v w hv
  · rcases moved_cases hs' v with ⟨hvt, hvk⟩ | ⟨hvt, hvk⟩ <;>
      rcases moved_cases hs' v' with ⟨hv't, hv'k⟩ | ⟨hv't, hv'k⟩ <;> rw [hvk] at hv <;>
      rw [hv'k] at hv'
    · rw [hvt, hv't]
    · exact absurd (hchild w hv).1 (hwu v' w hv't hv')
    · exact absurd (hchild w hv').1 (hwu v w hvt hv)
    · exact h.sole v v' w hv hv'
  · rcases moved_cases hs' v with ⟨-, hvk⟩ | ⟨hvt, hvk⟩
    · rw [hvk] at hv
      rw [(hchild w (child_of_newborn hv)).1]
      exact hnewborn w hv
    rw [hvk] at hv
    have hw := child_of_newborn hv
    rw [(hrecords w (hwu v w hvt hw)).1]
    exact h.newborn v w hv
  · rcases moved_cases hs' v with ⟨-, hvk⟩ | ⟨hvt, hvk⟩
    · have hw := hvk.symm.trans hv
      rw [(hchild w (by rw [hw]; rfl)).1]
      exact hready (.inr ⟨w, hw⟩)
    rw [hvk] at hv
    have hw : (s.pc v).child = some w := by rw [hv]; rfl
    rw [(hrecords w (hwu v w hvt hw)).1]
    exact h.placed v w hv
  have hvu : v ≠ u := by
    rintro rfl
    rw [hborn] at hv
    cases hv
  rw [(hrecords v hvu).2.2] at hv
  have hvt : v ≠ t := by
    rintro rfl
    rw [htborn] at hv
    cases hv
  rw [hstays v hvt, (hrecords v hvu).1, (hrecords v hvu).2.1]
  exact h.uncreated v hv

lemma newborn_passes (hdata : s'.data = s.data) (ha : (s.pc t).newborn = some u)
    (hk : k.newborn = some u)
    (hstanding : (s.pc t).standing = .attached) (hstanding' : k.standing = .attached)
    (hleaves : ∀ p, k.leaves p = (s.pc t).leaves p) (hjoins : ∀ p, k.joins p = (s.pc t).joins p)
    (hreads : ∀ p n, k.reads = some (p, n) → s.data.pNumthreads p = n) : Membership s' := by
  have hattached := h.standing t
  rw [hstanding] at hattached
  refine membership_passes h hs' hdata (.inl fun hunborn => ?_) hleaves hjoins hreads
    (by rw [hstanding']; exact hattached) ?_ ?_ ?_
  · rw [hunborn] at ha
    cases ha
  · rw [child_of_newborn hk, child_of_newborn ha]
    exact fun _ h => h
  · rw [hk, ha]
    exact fun _ h => h
  · rintro w rfl
    cases hk

end

lemma reads_stored (horderly : Orderly memberHolds (fun _ => none) s)
    (h : Membership s)
    (hpc : (s.pc t).reads = some (proc, n)) (hs' : s'.pc = update s.pc t k)
    (hk : k.reads = none)
    (hnum : s'.data.pNumthreads = update s.data.pNumthreads proc n') (u : T) (p : Pr)
    (m : Nat) (hu : (s'.pc u).reads = some (p, m)) : s'.data.pNumthreads p = m := by
  have hholds : ∀ v q l, (s.pc v).reads = some (q, l) → memberHolds (s.pc v) q := by
    intro v q l hv
    generalize s.pc v = pc at hv
    revert hv
    fun_cases MemberPc.reads pc <;> simp +contextual [memberHolds]
  rcases moved_cases hs' u with ⟨-, huk⟩ | ⟨hut, huk⟩
  · rw [huk, hk] at hu
    cases hu
  rw [huk] at hu
  have hne : p ≠ proc := by
    rintro rfl
    exact hut (horderly.exclusive (hholds u p m hu) (hholds t p n hpc))
  rw [hnum, update_of_ne hne]
  exact h.reads u p m hu

lemma leaving_passes (h : Membership s) (hs' : s'.pc = update s.pc t k)
    (hdata : s'.data = s.data) (hmoving : s.pc t ≠ .unborn)
    (hstanding : k.standing.Fits (s.data.runnable t) (s.data.tProc t)) (hchild : k.child = none)
    (hleaves : ∀ p, k.leaves p = (s.pc t).leaves p) (hjoins : ∀ p, k.joins p = (s.pc t).joins p)
    (hreads : ∀ p n, k.reads = some (p, n) → s.data.pNumthreads p = n) : Membership s' := by
  refine membership_passes h hs' hdata (.inl hmoving) hleaves hjoins hreads hstanding ?_ ?_ ?_
  · simp [hchild]
  · intro u hu
    rw [child_of_newborn hu] at hchild
    cases hchild
  · rintro u rfl
    cases hchild

end Membership

end Os161.Process
