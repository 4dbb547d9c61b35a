import Os161.Synch
import Os161.Lib.Count
import Mathlib.Data.Fintype.Option

namespace Os161.Synch

open Function Lib Lib.Threads Lib.Count Vm Finset

inductive SemPc where
  | outside
  | inP (p : PPc)
  | inV (v : VPc)
  deriving DecidableEq, Repr

inductive SemCall where
  | P | V
  deriving DecidableEq, Repr

structure SemData where
  semCount : Word
  completedP : Nat
  completedV : Nat
  deriving DecidableEq, Repr

def theSemaphore : Semaphore SemData Unit Unit where
  semLock := ()
  semWchan := ()
  semCount := SemData.semCount
  setSemCount := fun d n => { d with semCount := n }
  access := id

def SemData.returnP (d : SemData) : SemData := { d with completedP := d.completedP + 1 }

def SemData.returnV (d : SemData) : SemData := { d with completedV := d.completedV + 1 }

variable {T : Type}

def semCode (_ : T) : SemPc → Instr SemCall SemData Unit Unit T SemPc
  | .outside => .act fun call d => some (d, match call with
      | .P => .inP .acquire
      | .V => .inV .acquire)
  | .inP p => P theSemaphore .inP SemData.returnP .outside p
  | .inV v => V theSemaphore .inV SemData.returnV .outside v

abbrev SemState (T : Type) := State SemData Unit Unit T SemPc

def semCreate (initialCount : Word) : SemState T where
  pc := fun _ => .outside
  asleep := fun _ => false
  holder := fun _ => none
  chan := fun _ => []
  data := ⟨initialCount, 0, 0⟩

def SemPc.locked : SemPc → Bool
  | .outside => false
  | .inP p => p.locked
  | .inV v => v.locked

def semHolds (pc : SemPc) (_ : Unit) : Prop := pc.locked = true

def semWaits : SemPc → Option Unit
  | .inP .reacquire => some ()
  | _ => none

lemma semCreate_fresh (initialCount : Word) :
    (semCreate initialCount : SemState T).Fresh semHolds where
  holder := fun _ => rfl
  holds := fun _ _ => Bool.false_ne_true
  asleep := fun _ => rfl
  chan := fun _ => rfl

lemma semCode_respects (t : T) (pc : SemPc) : (semCode t pc).Respects semHolds semWaits pc := by
  have hnone : ∀ m : Unit, semHolds .outside m ↔ False := fun m => by simp [semHolds, SemPc.locked]
  cases pc with
  | outside =>
    intro call d d' k hact m
    cases call with
    | P | V =>
      obtain ⟨-, rfl⟩ : _ ∧ _ = k := by simpa using hact
      rfl
  | inP p =>
    have hin : ∀ p m, semHolds (.inP p) m ↔
        False ∨ (p.locked = true ∧ m = theSemaphore.semLock) := by
      simp [semHolds, SemPc.locked]
    have hwaits : semWaits (.inP .reacquire) = some theSemaphore.semWchan := rfl
    simp only [semCode]
    exact P_respects (fun _ => False) id hin hnone hwaits p
  | inV v =>
    have hin : ∀ v m, semHolds (.inV v) m ↔
        False ∨ (v.locked = true ∧ m = theSemaphore.semLock) := by
      simp [semHolds, SemPc.locked]
    simp only [semCode]
    exact V_respects (fun _ => False) id hin hnone v

def SemPc.taken : SemPc → Bool
  | .inP .release => true
  | _ => false

def SemPc.given : SemPc → Bool
  | .inV .wake | .inV .release => true
  | _ => false

lemma SemPc.locked_of_taken {pc : SemPc} (h : pc.taken = true) : pc.locked = true := by
  revert h
  fun_cases SemPc.taken pc <;> simp [SemPc.locked, PPc.locked]

lemma SemPc.locked_of_given {pc : SemPc} (h : pc.given = true) : pc.locked = true := by
  revert h
  fun_cases SemPc.given pc <;> simp [SemPc.locked, VPc.locked]

-- A thread that has been woken and has not tested the count again, also with the lock held; a V
-- that is about to wake one.
def served : SemPc × Bool → Bool
  | (.inP .reacquire, false) | (.inP .test, _) | (.inP .take, _) | (.inV .wake, _) => true
  | _ => false

lemma nobody_sleeps [DecidableEq T] (horderly : Orderly semHolds semWaits s)
    (ht : (s.pc t).locked = true)
    (hk : k ≠ .inP .sleep) (u : T) : update s.pc t k u ≠ .inP .sleep := by
  by_cases hut : u = t
  · subst hut
    rwa [update_self]
  rw [update_of_ne hut]
  intro hu
  have hsleeps : semHolds (s.pc u) () := by rw [hu]; rfl
  exact hut (horderly.exclusive hsleeps ht)

def Woken (here : SemPc × Bool) : Prop := here = (.inP .reacquire, false)

instance : DecidablePred Woken := fun here => decEq here _

section Balance

variable [Fintype T]

-- Whoever finds the count at zero sleeps before it can change. Once somebody sleeps, each unit of
-- the count has a thread that will take it.
structure Balanced (initialCount : Word) (s : SemState T) : Prop where
  balance : s.data.semCount.toNat + s.data.completedP + count Finset.univ (·.taken) s.pc =
    initialCount.toNat + s.data.completedV + count Finset.univ (·.given) s.pc
  zero : ∀ t, s.pc t = .inP .sleep → s.data.semCount = 0#32
  covered : s.chan () ≠ [] → s.data.semCount.toNat ≤ count Finset.univ (served ·) s.here

variable {s s' : SemState T} {t : T} {initialCount : Word}

lemma semCreate_balanced : Balanced initialCount (semCreate initialCount : SemState T) := by
  have htaken : count Finset.univ (·.taken = true) (semCreate initialCount : SemState T).pc = 0 :=
    count_eq_zero.mpr fun t _ => Bool.false_ne_true
  have hgiven : count Finset.univ (·.given = true) (semCreate initialCount : SemState T).pc = 0 :=
    count_eq_zero.mpr fun t _ => Bool.false_ne_true
  refine ⟨?_, fun t ht => (by cases ht), fun hchan => absurd rfl hchan⟩
  rw [htaken, hgiven]
  rfl

lemma count_served_free (horderly : Orderly semHolds semWaits s) (hfree : s.holder () = none) :
    count Finset.univ (served ·) s.here = count Finset.univ Woken s.here := by
  rw [count, count]
  congr 1
  refine filter_congr fun t _ => ?_
  have hunlocked := horderly.free hfree t
  unfold State.here
  generalize s.asleep t = asleep
  cases hpc : s.pc t with
  | outside => simp [Woken, served]
  | inP p =>
    cases p <;> cases asleep <;> simp_all [Woken, served, semHolds, SemPc.locked, PPc.locked]
  | inV v => cases v <;> simp_all [Woken, served, semHolds, SemPc.locked, VPc.locked]

variable [DecidableEq T]

section

variable (h : Balanced initialCount s)

include h

lemma balance_moved (hs' : s'.pc = update s.pc t k)
    (hdata : s'.data.semCount.toNat + s'.data.completedP + k.taken.toNat +
        (s.data.completedV + (s.pc t).given.toNat) =
      s.data.semCount.toNat + s.data.completedP + (s.pc t).taken.toNat +
        (s'.data.completedV + k.given.toNat)) :
    s'.data.semCount.toNat + s'.data.completedP + count Finset.univ (·.taken) s'.pc =
      initialCount.toNat + s'.data.completedV + count Finset.univ (·.given) s'.pc := by
  have htaken := count_update (q := (·.taken)) (f := s.pc) (mem_univ t) k
  have hgiven := count_update (q := (·.given)) (f := s.pc) (mem_univ t) k
  have hbalance := h.balance
  simp only [Bool.toNat, Bool.cond_eq_ite] at hdata
  rw [hs']
  omega

lemma covered_moved (hs' : s'.here = update s.here t (k, b))
    (hchan : s'.chan () ≠ [] → s.chan () ≠ [])
    (hdata : s'.data.semCount.toNat ≤
      s.data.semCount.toNat + (served (k, b)).toNat - (served (s.here t)).toNat) :
    s'.chan () ≠ [] → s'.data.semCount.toNat ≤ count Finset.univ (served ·) s'.here := by
  intro hsleepers
  have hserved := count_update (q := (served ·)) (f := s.here) (mem_univ t) (k, b)
  have hcovered := h.covered (hchan hsleepers)
  simp only [Bool.toNat, Bool.cond_eq_ite] at hdata
  rw [hs']
  omega

lemma zero_moved (hs' : s'.pc = update s.pc t k)
    (hk : k ≠ .inP .sleep) (hcount : s'.data.semCount = s.data.semCount) (u : T)
    (hu : s'.pc u = .inP .sleep) : s'.data.semCount = 0#32 := by
  rw [hcount]
  rw [hs'] at hu
  by_cases hut : u = t
  · subst hut
    rw [update_self] at hu
    exact absurd hu hk
  · rw [update_of_ne hut] at hu
    exact h.zero u hu

lemma balanced_goto (ht : s.asleep t = false) (hs' : s'.pc = (s.goto t k d).pc)
    (hhere : s'.here = (s.goto t k d).here)
    (hchan : s'.chan = s.chan) (hd : s'.data = d)
    (hbalance : d.semCount.toNat + d.completedP + k.taken.toNat +
        (s.data.completedV + (s.pc t).given.toNat) =
      s.data.semCount.toNat + s.data.completedP + (s.pc t).taken.toNat +
        (d.completedV + k.given.toNat))
    (hserved : d.semCount.toNat ≤
      s.data.semCount.toNat + (served (k, false)).toNat - (served (s.pc t, false)).toNat)
    (hzero : ∀ u, s'.pc u = .inP .sleep → d.semCount = 0#32) : Balanced initialCount s' := by
  subst hd
  refine ⟨balance_moved h hs' hbalance, hzero, ?_⟩
  rw [here_goto ht] at hhere
  refine covered_moved h hhere (by rw [hchan]; exact id) ?_
  rw [State.here, ht]
  exact hserved

lemma balanced_passes (ht : s.asleep t = false)
    (hs' : s'.pc = (s.goto t k s.data).pc) (hhere : s'.here = (s.goto t k s.data).here)
    (hchan : s'.chan = s.chan) (hd : s'.data = s.data) (hk : k ≠ .inP .sleep)
    (htaken : k.taken = (s.pc t).taken) (hgiven : k.given = (s.pc t).given)
    (hserved : (served (s.pc t, false)).toNat ≤ (served (k, false)).toNat) :
    Balanced initialCount s' := by
  refine balanced_goto h ht hs' hhere hchan hd (by rw [htaken, hgiven]) (by omega) ?_
  intro u hu
  rw [← hd]
  exact zero_moved h hs' hk (by rw [hd]) u hu

lemma balanced_outside (hpc : s.pc t = .outside)
    (hstep : step semCode t call s = some s') : Balanced initialCount s' := by
  have hawake := step_awake hstep
  have hcode : semCode t (s.pc t) = semCode t .outside := by rw [hpc]
  obtain ⟨d, k, hact, rfl⟩ := step_act hcode hstep
  cases call with
  | P =>
    obtain ⟨rfl, rfl⟩ : s.data = d ∧ .inP .acquire = k := by simpa using hact
    exact balanced_passes h hawake rfl rfl rfl rfl (by simp) (by rw [hpc]; rfl)
      (by rw [hpc]; rfl) (by rw [hpc]; rfl)
  | V =>
    obtain ⟨rfl, rfl⟩ : s.data = d ∧ .inV .acquire = k := by simpa using hact
    exact balanced_passes h hawake rfl rfl rfl rfl (by simp) (by rw [hpc]; rfl)
      (by rw [hpc]; rfl) (by rw [hpc]; rfl)

end

section

variable (horderly : Orderly semHolds semWaits s)

include horderly

lemma balanced_P (h : Balanced initialCount s) (hpc : s.pc t = .inP p)
    (hstep : step semCode t call s = some s') : Balanced initialCount s' := by
  have hawake := step_awake hstep
  have hcode : semCode t (s.pc t) = P theSemaphore .inP SemData.returnP .outside p := by
    rw [hpc, semCode]
  cases p with
  | acquire =>
    obtain ⟨-, rfl⟩ := step_acquire hcode hstep
    exact balanced_passes h hawake rfl rfl rfl rfl (by simp) (by rw [hpc]; rfl)
      (by rw [hpc]; rfl) (by rw [hpc]; exact Nat.zero_le _)
  | test =>
    obtain rfl := step_P_test hcode hstep
    by_cases hzero : s.data.semCount = 0#32
    · have hsleep : theSemaphore.semCount s.data = 0#32 := hzero
      rw [if_pos hsleep]
      refine balanced_goto h hawake rfl rfl rfl rfl ?_ ?_ fun u _ => hzero
      · rw [hpc]
        rfl
      · simp [theSemaphore, hzero]
    have htake : theSemaphore.semCount s.data ≠ 0#32 := hzero
    rw [if_neg htake]
    exact balanced_passes h hawake rfl rfl rfl rfl (by simp) (by rw [hpc]; rfl)
      (by rw [hpc]; rfl) (by rw [hpc]; rfl)
  | sleep =>
    obtain ⟨-, rfl⟩ := step_sleep hcode hstep
    have hcount := h.zero t hpc
    refine ⟨?_, zero_moved (k := .inP .reacquire) h rfl (by simp) rfl, fun _ => ?_⟩
    · refine balance_moved h rfl ?_
      rw [hpc]
      rfl
    · simp [hcount, theSemaphore]
  | reacquire =>
    obtain ⟨-, rfl⟩ := step_acquire hcode hstep
    exact balanced_passes h hawake rfl rfl rfl rfl (by simp) (by rw [hpc]; rfl)
      (by rw [hpc]; rfl) (by rw [hpc]; rfl)
  | take =>
    obtain ⟨hpos, rfl⟩ := step_P_take hcode hstep
    have hcount := toNat_taken hpos
    simp only [theSemaphore] at hcount
    refine balanced_goto h hawake rfl rfl rfl rfl ?_ ?_ fun u hu => ?_
    · simp [hpc, SemPc.taken, SemPc.given, theSemaphore]
      omega
    · simp [hpc, served, theSemaphore]
      omega
    · exact absurd hu (nobody_sleeps horderly (by rw [hpc]; rfl) (by simp) u)
  | release =>
    obtain ⟨-, rfl⟩ := step_release hcode hstep
    refine balanced_goto h hawake rfl rfl rfl rfl ?_ ?_
      (zero_moved (k := .outside) h rfl (by simp) rfl)
    · simp [hpc, SemPc.taken, SemPc.given, theSemaphore, SemData.returnP]
      omega
    · simp [hpc, served, theSemaphore, SemData.returnP]

lemma served_wakes (ht : s.asleep t = false)
    (hpc : s.pc t = .inV .wake) (hchan : s.chan () = u :: us) :
    count Finset.univ (served ·) ((s.goto t (.inV .release) d).dequeue () u us).here =
      count Finset.univ (served ·) s.here := by
  have hu : u ∈ s.chan () := by simp [hchan]
  obtain ⟨hasleep, hwaits⟩ := horderly.lists.listed () u hu
  have hne : u ≠ t := fun heq => horderly.lists.unlisted ht () (heq ▸ hu)
  have hupc : s.pc u = .inP .reacquire := by
    cases hp : s.pc u with
    | inP p => cases p <;> simp_all [semWaits]
    | _ => simp_all [semWaits]
  have hmoves := count_update (q := (served ·)) (f := s.here) (mem_univ t)
    (.inV .release, false)
  have hwakes := count_update (q := (served ·))
    (f := update s.here t (.inV .release, false)) (mem_univ u)
    (.inP .reacquire, false)
  have hwaker : served (s.here t) = true := by
    rw [State.here, hpc]
    rfl
  have hsleeper : ¬ served (update s.here t (.inV .release, false) u) = true := by
    rw [update_of_ne hne, State.here, hasleep, hupc]
    exact Bool.false_ne_true
  have hreleases : ¬ served (.inV .release, false) = true := Bool.false_ne_true
  have htests : served (.inP .reacquire, false) = true := rfl
  rw [if_pos hwaker, if_neg hreleases] at hmoves
  rw [if_neg hsleeper, if_pos htests] at hwakes
  rw [here_dequeue, here_goto ht, State.goto_pc, update_of_ne hne, hupc]
  omega

lemma balanced_V (h : Balanced initialCount s) (hpc : s.pc t = .inV v)
    (hstep : step semCode t call s = some s') : Balanced initialCount s' := by
  have hawake := step_awake hstep
  have hcode : semCode t (s.pc t) = V theSemaphore .inV SemData.returnV .outside v := by
    rw [hpc, semCode]
  cases v with
  | acquire =>
    obtain ⟨-, rfl⟩ := step_acquire hcode hstep
    exact balanced_passes h hawake rfl rfl rfl rfl (by simp) (by rw [hpc]; rfl)
      (by rw [hpc]; rfl) (by rw [hpc]; rfl)
  | raise =>
    obtain ⟨hpos, rfl⟩ := step_V_raise hcode hstep
    have hcount := toNat_raised hpos
    simp only [theSemaphore] at hcount
    refine balanced_goto h hawake rfl rfl rfl rfl ?_ ?_ fun u hu => ?_
    · simp [hpc, SemPc.taken, SemPc.given, theSemaphore]
      omega
    · simp [hpc, served, theSemaphore]
      omega
    · exact absurd hu (nobody_sleeps horderly (by rw [hpc]; rfl) (by simp) u)
  | wake =>
    rcases step_wakeone hcode hstep with ⟨hchan, rfl⟩ | ⟨u, us, hchan, rfl⟩
    · refine ⟨?_, zero_moved (k := .inV .release) h rfl (by simp) rfl, fun hsleeper => ?_⟩
      · refine balance_moved h rfl ?_
        rw [hpc]
        rfl
      · exact absurd hchan hsleeper
    refine ⟨?_, zero_moved (k := .inV .release) h rfl (by simp) rfl, fun _ => ?_⟩
    · refine balance_moved h rfl ?_
      rw [hpc]
      rfl
    · rw [show theSemaphore.semWchan = () from rfl, served_wakes horderly hawake hpc hchan]
      exact h.covered (by simp [hchan])
  | release =>
    obtain ⟨-, rfl⟩ := step_release hcode hstep
    refine balanced_goto h hawake rfl rfl rfl rfl ?_ ?_
      (zero_moved (k := .outside) h rfl (by simp) rfl)
    · simp [hpc, SemPc.taken, SemPc.given, theSemaphore, SemData.returnV]
    · simp [hpc, served, theSemaphore, SemData.returnV]

lemma balanced_step (h : Balanced initialCount s)
    (hstep : step semCode t call s = some s') : Balanced initialCount s' := by
  cases hpc : s.pc t with
  | outside => exact balanced_outside h hpc hstep
  | inP p => exact balanced_P horderly h hpc hstep
  | inV v => exact balanced_V horderly h hpc hstep

end

lemma balanced_reaches (h : Reaches semCode (semCreate initialCount) s) :
    Orderly semHolds semWaits s ∧ Balanced initialCount s := by
  refine reaches_invariant semCode_respects ?_ (semCreate_fresh initialCount) semCreate_balanced h
  intro s s' t call horderly hbalanced hstep
  exact balanced_step horderly hbalanced hstep

theorem semaphore_loses_no_wakeup (initialCount : Word)
    (hreaches : Reaches semCode (semCreate initialCount) s) (hfree : s.holder () = none) :
    s.data.semCount.toNat + s.data.completedP = initialCount.toNat + s.data.completedV ∧
      (s.chan () ≠ [] → s.data.semCount.toNat ≤ count Finset.univ Woken s.here) ∧
      ¬ (0#32 < s.data.semCount ∧ s.chan () ≠ [] ∧ ∀ t, ¬ Woken (s.here t)) := by
  obtain ⟨horderly, hbalanced⟩ := balanced_reaches hreaches
  have hcovered : s.chan () ≠ [] → s.data.semCount.toNat ≤ count Finset.univ Woken s.here := by
    rw [← count_served_free horderly hfree]
    exact hbalanced.covered
  refine ⟨?_, hcovered, ?_⟩
  · have hbalance := hbalanced.balance
    have htaken : count Finset.univ (·.taken = true) s.pc = 0 := by
      exact count_eq_zero.mpr fun t _ htaken => horderly.free hfree t (SemPc.locked_of_taken htaken)
    have hgiven : count Finset.univ (·.given = true) s.pc = 0 := by
      exact count_eq_zero.mpr fun t _ hgiven => horderly.free hfree t (SemPc.locked_of_given hgiven)
    omega
  rintro ⟨hpos, hsleepers, hnobody⟩
  have hnone : count Finset.univ Woken s.here = 0 := count_eq_zero.mpr fun t _ => hnobody t
  have hle := hcovered hsleepers
  rw [hnone] at hle
  bv_omega

end Balance

def firstWoken : List (Option Bool × SemCall) :=
  List.replicate 4 (some false, .P) ++ List.replicate 4 (some true, .P) ++
    List.replicate 5 (none, .V)

def afterFirstWoken : SemState (Option Bool) :=
  (run semCode firstWoken (semCreate 0#32)).getD (semCreate 0#32)

lemma run_firstWoken : run semCode firstWoken (semCreate 0#32) = some afterFirstWoken := rfl

theorem semaphore_loses_no_wakeup_afterFirstWoken :
    afterFirstWoken.data.semCount = 1#32 ∧ afterFirstWoken.chan () = [some true] ∧
      afterFirstWoken.data.semCount.toNat ≤ count Finset.univ Woken afterFirstWoken.here := by
  refine ⟨rfl, rfl, ?_⟩
  have h := semaphore_loses_no_wakeup 0#32 (run_reaches run_firstWoken) rfl
  exact h.2.1 (by decide)

end Os161.Synch
