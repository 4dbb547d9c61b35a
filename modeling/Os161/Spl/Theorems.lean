import Mathlib.Data.Set.Card
import Os161.Lib.Run
import Os161.Spl

namespace Os161.Spl

open Function Lib Lib.Exec Vm EStateM

variable {C L : Type}

def Machine.held (s : Machine C L) (mycpu : C) : Set L := {l | (s.splk l).holder = some mycpu}

def Machine.raise (s : Machine C L) : Machine C L :=
  (if s.iplhighCount = 0 then s.setIrq false else s).setCount (s.iplhighCount + 1)

def Machine.lower (s : Machine C L) : Machine C L :=
  if s.iplhighCount - 1 = 0 then (s.setCount (s.iplhighCount - 1)).setIrq true
  else s.setCount (s.iplhighCount - 1)

section Runs

variable {s : Machine C L} {mycpu : C}

section

variable (hcpu : s.curcpu = some mycpu)

include hcpu

lemma splraise_run :
    (splraise IPL_NONE IPL_HIGH).run s = .ok () s.raise := by
  have hsome : ¬ s.curcpu.isNone = true := by simp [hcpu]
  unfold splraise Machine.raise
  rw [bind_run_ok (kassert_pass rfl ..), bind_run_ok (kassert_pass rfl ..),
    bind_run_ok (run_get s), if_neg hsome]
  by_cases hzero : s.iplhighCount = 0
  · simp only [if_pos hzero]
    rfl
  · simp only [if_neg hzero]
    rfl

lemma spllower_run :
    (spllower IPL_HIGH IPL_NONE).run s = .ok () s.lower := by
  have hsome : ¬ s.curcpu.isNone = true := by simp [hcpu]
  unfold spllower Machine.lower
  rw [bind_run_ok (kassert_pass rfl ..), bind_run_ok (kassert_pass rfl ..),
    bind_run_ok (run_get s), if_neg hsome, bind_run_ok (run_modify ..)]
  by_cases hone : s.iplhighCount - 1 = 0
  · simp only [if_pos hone]
    rfl
  · simp only [if_neg hone]
    rfl

lemma splx_raises (hspl : s.curspl = IPL_NONE) :
    (splx IPL_HIGH).run s = .ok IPL_NONE (s.raise.setCurspl IPL_HIGH) := by
  have hsome : ¬ s.curcpu.isNone = true := by simp [hcpu]
  unfold splx
  rw [bind_run_ok (run_get s), if_neg hsome, hspl, if_pos (by decide),
    bind_run_ok (splraise_run hcpu), bind_run_ok (run_modify ..)]
  rfl

lemma splx_lowers (hspl : s.curspl = IPL_HIGH) :
    (splx IPL_NONE).run s = .ok IPL_HIGH (s.setCurspl IPL_NONE).lower := by
  have hsome : ¬ s.curcpu.isNone = true := by simp [hcpu]
  have hcpu' : (s.setCurspl IPL_NONE).curcpu = some mycpu := hcpu
  unfold splx
  rw [bind_run_ok (run_get s), if_neg hsome, hspl, if_neg (by decide),
    if_pos (by decide), bind_run_ok (run_modify ..), bind_run_ok (spllower_run hcpu')]
  rfl

lemma splx_same : (splx s.curspl).run s = .ok s.curspl s := by
  have hsome : ¬ s.curcpu.isNone = true := by simp [hcpu]
  unfold splx
  rw [bind_run_ok (run_get s), if_neg hsome, if_neg (Int.lt_irrefl _), if_neg (Int.lt_irrefl _)]
  rfl

end

end Runs

-- Every spinlock that is held and the thread's own level raise the priority once each, and
-- interrupts are off as long as anything does.
structure Balanced (mycpu : C) (s : Machine C L) : Prop where
  cpu : s.curcpu = some mycpu
  level : s.curspl = IPL_NONE ∨ s.curspl = IPL_HIGH
  finite : (s.held mycpu).Finite
  count : s.iplhighCount = (s.held mycpu).ncard + if s.curspl = IPL_HIGH then 1 else 0
  irq : s.irq = true ↔ s.iplhighCount = 0
  spinlocks : s.spinlocks = (s.held mycpu).ncard
  locked : ∀ l ∈ s.held mycpu, (s.splk l).lock = true

section Counts

variable {s : Machine C L}

lemma raise_frame : s.raise.curcpu = s.curcpu ∧ s.raise.splk = s.splk ∧
    s.raise.spinlocks = s.spinlocks ∧ s.raise.curspl = s.curspl := by
  unfold Machine.raise
  split <;> exact ⟨rfl, rfl, rfl, rfl⟩

lemma lower_frame : s.lower.curcpu = s.curcpu ∧ s.lower.splk = s.splk ∧
    s.lower.spinlocks = s.spinlocks ∧ s.lower.curspl = s.curspl := by
  unfold Machine.lower
  split <;> exact ⟨rfl, rfl, rfl, rfl⟩

lemma raise_count : s.raise.iplhighCount = s.iplhighCount + 1 := rfl

lemma raise_irq (h : s.irq = true ↔ s.iplhighCount = 0) : s.raise.irq = false := by
  unfold Machine.raise
  by_cases hzero : s.iplhighCount = 0
  · rw [if_pos hzero]
    rfl
  · rw [if_neg hzero]
    exact Bool.eq_false_iff.mpr fun hirq => hzero (h.mp hirq)

lemma lower_count : s.lower.iplhighCount = s.iplhighCount - 1 := by
  unfold Machine.lower
  split <;> rfl

lemma lower_irq (h : s.irq = true ↔ s.iplhighCount = 0) (hpos : 0 < s.iplhighCount) :
    s.lower.irq = true ↔ s.lower.iplhighCount = 0 := by
  rw [lower_count]
  unfold Machine.lower
  by_cases hone : s.iplhighCount - 1 = 0
  · rw [if_pos hone]
    exact iff_of_true rfl hone
  rw [if_neg hone]
  refine iff_of_false (fun hirq => ?_) hone
  have := h.mp hirq
  omega

lemma Balanced.relevel {t : Machine C L} (h : Balanced mycpu s)
    (hcpu : t.curcpu = s.curcpu) (hsplk : t.splk = s.splk) (hspinlocks : t.spinlocks = s.spinlocks)
    (hlevel : t.curspl = IPL_NONE ∨ t.curspl = IPL_HIGH)
    (hcount : t.iplhighCount = (s.held mycpu).ncard + if t.curspl = IPL_HIGH then 1 else 0)
    (hirq : t.irq = true ↔ t.iplhighCount = 0) : Balanced mycpu t := by
  have hheld : t.held mycpu = s.held mycpu := by
    unfold Machine.held
    rw [hsplk]
  exact ⟨hcpu.trans h.cpu, hlevel, hheld ▸ h.finite, hheld ▸ hcount, hirq,
    hspinlocks.trans (hheld ▸ h.spinlocks), by rw [hheld, hsplk]; exact h.locked⟩

end Counts

section Splx

variable {s : Machine C L} {mycpu : C}

section

variable (h : Balanced mycpu s)

include h

lemma Balanced.count_nonneg : 0 ≤ s.iplhighCount := by
  rw [h.count]
  split <;> omega

lemma balanced_splx_high :
    ∃ old t, (splx IPL_HIGH).run s = .ok old t ∧ Balanced mycpu t := by
  rcases h.level with hnone | hhigh
  · obtain ⟨hcpu, hsplk, hspinlocks, -⟩ := raise_frame (s := s)
    have hcount := h.count
    rw [hnone, if_neg (by decide)] at hcount
    refine ⟨_, _, splx_raises h.cpu hnone, h.relevel hcpu hsplk hspinlocks (.inr rfl) ?_ ?_⟩
    · rw [Machine.setCurspl_curspl, if_pos rfl, Machine.setCurspl_iplhighCount, raise_count]
      omega
    rw [Machine.setCurspl_irq, Machine.setCurspl_iplhighCount, raise_irq h.irq, raise_count]
    refine iff_of_false Bool.false_ne_true ?_
    omega
  have hsame := splx_same h.cpu
  rw [hhigh] at hsame
  exact ⟨_, _, hsame, h⟩

lemma balanced_splx_none :
    ∃ old t, (splx IPL_NONE).run s = .ok old t ∧ Balanced mycpu t := by
  rcases h.level with hnone | hhigh
  · have hsame := splx_same h.cpu
    rw [hnone] at hsame
    exact ⟨_, _, hsame, h⟩
  obtain ⟨hcpu, hsplk, hspinlocks, hcurspl⟩ := lower_frame (s := s.setCurspl IPL_NONE)
  rw [Machine.setCurspl_curspl] at hcurspl
  have hcount := h.count
  rw [hhigh, if_pos rfl] at hcount
  have hpos : 0 < (s.setCurspl IPL_NONE).iplhighCount := by
    rw [Machine.setCurspl_iplhighCount]
    omega
  refine ⟨_, _, splx_lowers h.cpu hhigh,
    h.relevel hcpu hsplk hspinlocks (.inl hcurspl) ?_ (lower_irq h.irq hpos)⟩
  rw [hcurspl, if_neg (by decide), lower_count, Machine.setCurspl_iplhighCount]
  omega

lemma balanced_splx (hspl : spl = IPL_NONE ∨ spl = IPL_HIGH) :
    ∃ old t, (splx spl).run s = .ok old t ∧ Balanced mycpu t := by
  rcases hspl with rfl | rfl
  · exact balanced_splx_none h
  · exact balanced_splx_high h

end

end Splx

section Spinlocks

variable {s : Machine C L} {mycpu : C} {l : L}

lemma held_congr {t : Machine C L} (h : t.splk = s.splk) : t.held mycpu = s.held mycpu := by
  unfold Machine.held
  rw [h]

lemma enterSpinlock_run [DecidableEq C] (hcpu : s.curcpu = some mycpu)
    (hfree : (s.splk l).holder ≠ some mycpu) :
    (enterSpinlock l).run s.raise = .ok () (s.raise.setSpinlocks (s.spinlocks + 1)) := by
  obtain ⟨hcpu', hsplk', hspinlocks', -⟩ := raise_frame (s := s)
  unfold enterSpinlock
  rw [bind_run_ok (run_get _), hcpu', hcpu]
  simp only [hsplk', if_neg hfree]
  rw [run_modify, hspinlocks']

variable [DecidableEq L]

lemma held_setSplk_some (lock : Bool) :
    (s.setSplk l ⟨lock, some mycpu⟩).held mycpu = insert l (s.held mycpu) := by
  ext k
  by_cases hk : k = l
  · subst hk
    simp [Machine.held]
  · simp [Machine.held, hk]

lemma held_setSplk_none (lock : Bool) :
    (s.setSplk l ⟨lock, none⟩).held mycpu = s.held mycpu \ {l} := by
  ext k
  by_cases hk : k = l
  · subst hk
    simp [Machine.held]
  · simp [Machine.held, hk]

def Machine.taken (s : Machine C L) (mycpu : C) (l : L) : Machine C L :=
  (s.raise.setSpinlocks (s.spinlocks + 1)).setSplk l ⟨true, some mycpu⟩

lemma spinlockAcquire_run [DecidableEq C] (hcpu : s.curcpu = some mycpu)
    (hfree : (s.splk l).holder ≠ some mycpu) (hlock : (s.splk l).lock = false) :
    (spinlockAcquire l).run s = .ok () (s.taken mycpu l) := by
  obtain ⟨hcpu', hsplk', -⟩ := raise_frame (s := s)
  unfold spinlockAcquire
  rw [bind_run_ok (splraise_run hcpu), bind_run_ok (enterSpinlock_run hcpu hfree),
    bind_run_ok (run_get _)]
  simp only [Machine.setSpinlocks_splk, hsplk', hlock]
  show EStateM.Result.ok () ((s.raise.setSpinlocks (s.spinlocks + 1)).setSplk l
    ⟨true, (s.raise.setSpinlocks (s.spinlocks + 1)).curcpu⟩) = _
  rw [Machine.setSpinlocks_curcpu, hcpu', hcpu]
  rfl

lemma spinlockAcquire_cases [DecidableEq C] (hcpu : s.curcpu = some mycpu) (l : L) :
    (∃ t, (spinlockAcquire l).run s = .error (.panic "Deadlock on spinlock %p\n" []) t) ∨
      (∃ t, (spinlockAcquire l).run s = .error .blocked t) ∨
      ((s.splk l).holder ≠ some mycpu ∧
        (spinlockAcquire l).run s = .ok () (s.taken mycpu l)) := by
  obtain ⟨hcpu', hsplk', -⟩ := raise_frame (s := s)
  by_cases hmine : (s.splk l).holder = some mycpu
  · refine .inl ⟨s.raise, ?_⟩
    unfold spinlockAcquire
    rw [bind_run_ok (splraise_run hcpu)]
    refine bind_run_error ?_ _
    unfold enterSpinlock
    rw [bind_run_ok (run_get _), hcpu', hcpu]
    simp only [hsplk', if_pos hmine]
    rfl
  by_cases hlock : (s.splk l).lock = false
  · exact .inr (.inr ⟨hmine, spinlockAcquire_run hcpu hmine hlock⟩)
  refine .inr (.inl ⟨s.raise.setSpinlocks (s.spinlocks + 1), ?_⟩)
  unfold spinlockAcquire
  rw [bind_run_ok (splraise_run hcpu), bind_run_ok (enterSpinlock_run hcpu hmine),
    bind_run_ok (run_get _)]
  simp only [Machine.setSpinlocks_splk, hsplk', Bool.not_eq_false _ ▸ hlock]
  rfl

lemma Balanced.taken (h : Balanced mycpu s) (hfree : (s.splk l).holder ≠ some mycpu) :
    Balanced mycpu (s.taken mycpu l) := by
  obtain ⟨hcpu', hsplk', -, hcurspl'⟩ := raise_frame (s := s)
  have hheld : (s.taken mycpu l).held mycpu = insert l (s.held mycpu) := by
    have hsplk : (s.raise.setSpinlocks (s.spinlocks + 1)).splk = s.splk := hsplk'
    unfold Machine.taken
    rw [held_setSplk_some, held_congr hsplk]
  have hncard : (insert l (s.held mycpu)).ncard = (s.held mycpu).ncard + 1 :=
    Set.ncard_insert_of_notMem hfree h.finite
  have hcurspl : (s.taken mycpu l).curspl = s.curspl := hcurspl'
  have hcount : (s.taken mycpu l).iplhighCount = s.iplhighCount + 1 := raise_count
  have hnonneg := h.count_nonneg
  refine ⟨hcpu'.trans h.cpu, by rw [hcurspl]; exact h.level, ?_, ?_, ?_, ?_, ?_⟩
  · rw [hheld]
    exact h.finite.insert l
  · rw [hcount, hheld, hncard, hcurspl, h.count]
    omega
  · have hirq : (s.taken mycpu l).irq = false := raise_irq h.irq
    rw [hirq, hcount]
    refine iff_of_false Bool.false_ne_true ?_
    omega
  · rw [hheld, hncard, ← h.spinlocks]
    rfl
  intro k hk
  rw [hheld] at hk
  show (update s.raise.splk l ⟨true, some mycpu⟩ k).lock = true
  by_cases hkl : k = l
  · rw [hkl, update_self]
  · rw [update_of_ne hkl, hsplk']
    exact h.locked k (hk.resolve_left hkl)

def Machine.released (s : Machine C L) (l : L) : Machine C L :=
  ((s.setSpinlocks (s.spinlocks - 1)).setSplk l ⟨false, none⟩).lower

lemma spinlockRelease_run [DecidableEq C] (h : Balanced mycpu s) (hl : l ∈ s.held mycpu) :
    (spinlockRelease l).run s = .ok () (s.released l) := by
  have hholder : (s.splk l).holder = s.curcpu := hl.trans h.cpu.symm
  have hpos : 0 < s.spinlocks := by
    rw [h.spinlocks]
    exact (Set.ncard_pos h.finite).mpr ⟨l, hl⟩
  have hcpu : ((s.setSpinlocks (s.spinlocks - 1)).setSplk l ⟨false, none⟩).curcpu = some mycpu :=
    h.cpu
  have hsome : s.curcpu.isSome = true := by simp [h.cpu]
  unfold spinlockRelease
  rw [bind_run_ok (run_get s), if_pos hsome]
  simp only
  rw [bind_run_ok (kassert_pass hholder ..), bind_run_ok (kassert_pass hpos ..),
    bind_run_ok (run_modify ..), bind_run_ok (run_modify ..)]
  exact spllower_run hcpu

lemma Balanced.released (h : Balanced mycpu s) (hl : l ∈ s.held mycpu) :
    Balanced mycpu (s.released l) := by
  let u := (s.setSpinlocks (s.spinlocks - 1)).setSplk l ⟨false, none⟩
  obtain ⟨hcpu', hsplk', hspinlocks', hcurspl'⟩ := lower_frame (s := u)
  have hheld : (s.released l).held mycpu = s.held mycpu \ {l} := by
    have hu : u.held mycpu = s.held mycpu \ {l} := held_setSplk_none false
    rw [← hu]
    exact held_congr hsplk'
  have hncard : (s.held mycpu \ {l}).ncard + 1 = (s.held mycpu).ncard :=
    Set.ncard_sdiff_singleton_add_one hl h.finite
  have hcurspl : (s.released l).curspl = s.curspl := hcurspl'
  have hcount : (s.released l).iplhighCount = s.iplhighCount - 1 := lower_count
  have hold := h.count
  refine ⟨hcpu'.trans h.cpu, by rw [hcurspl]; exact h.level, ?_, ?_, ?_, ?_, ?_⟩
  · rw [hheld]
    exact h.finite.sdiff
  · rw [hcount, hheld, hcurspl]
    omega
  · refine lower_irq (s := u) h.irq ?_
    show 0 < s.iplhighCount
    split at hold <;> omega
  · show u.lower.spinlocks = _
    rw [hspinlocks', hheld]
    show s.spinlocks - 1 = _
    rw [h.spinlocks]
    omega
  intro k hk
  rw [hheld] at hk
  show (u.lower.splk k).lock = true
  rw [hsplk']
  show (update s.splk l ⟨false, none⟩ k).lock = true
  rw [update_of_ne hk.2]
  exact h.locked k hk.1

end Spinlocks

section Sequences

def Call.Allowed (mycpu : C) (s : Machine C L) : Call L → Prop
  | .acquire _ => True
  | .release l => l ∈ s.held mycpu
  | .splx spl => spl = IPL_NONE ∨ spl = IPL_HIGH
  | .splhigh => True
  | .spl0 => True

structure Others (mycpu : C) (s t : Machine C L) : Prop where
  rest : t = { s with splk := t.splk }
  held : t.held mycpu = s.held mycpu
  mine : ∀ l ∈ s.held mycpu, t.splk l = s.splk l

inductive Step [DecidableEq C] [DecidableEq L] (mycpu : C) (s t : Machine C L) : Prop where
  | call (call : Call L) (hallowed : call.Allowed mycpu s)
      (hrun : (call.perform : OnCpu C L Unit).run s = .ok () t)
  | others (h : Others mycpu s t)

-- A thread that runs with no spinlock held: at level 0 with interrupts on, or as thread_create
-- has made it.
structure Start (mycpu : C) (s : Machine C L) : Prop where
  cpu : s.curcpu = some mycpu
  held : s.held mycpu = ∅
  spinlocks : s.spinlocks = 0
  level : (s.curspl = IPL_NONE ∧ s.iplhighCount = 0 ∧ s.irq = true) ∨
    (s.curspl = IPL_HIGH ∧ s.iplhighCount = 1 ∧ s.irq = false)

variable {s : Machine C L}

lemma Start.balanced (h : Start mycpu s) : Balanced mycpu s := by
  have hncard : (s.held mycpu).ncard = 0 := by
    rw [h.held]
    exact Set.ncard_empty L
  have hfinite : (s.held mycpu).Finite := by
    rw [h.held]
    exact Set.finite_empty
  have hlocked : ∀ l ∈ s.held mycpu, (s.splk l).lock = true := by
    intro l hl
    rw [h.held] at hl
    cases hl
  rcases h.level with ⟨hspl, hcount, hirq⟩ | ⟨hspl, hcount, hirq⟩
  · refine ⟨h.cpu, .inl hspl, hfinite, ?_, iff_of_true hirq hcount, ?_, hlocked⟩
    · rw [hcount, hncard, hspl]
      rfl
    · rw [h.spinlocks, hncard]
  refine ⟨h.cpu, .inr hspl, hfinite, ?_, ?_, ?_, hlocked⟩
  · rw [hcount, hncard, hspl]
    rfl
  · rw [hirq, hcount]
    decide
  · rw [h.spinlocks, hncard]

lemma discard_run (h : x.run s = .ok a t) :
    (discard x : OnCpu C L Unit).run s = .ok () t := by
  show (_ <$> x).run s = _
  rw [map_run, h]

lemma call_outcome [DecidableEq C] [DecidableEq L] (h : Balanced mycpu s) {call : Call L}
    (hallowed : call.Allowed mycpu s) :
    (∃ t, (call.perform : OnCpu C L Unit).run s = .ok () t ∧ Balanced mycpu t) ∨
      (∃ t, (call.perform : OnCpu C L Unit).run s =
        .error (.panic "Deadlock on spinlock %p\n" []) t) ∨
      ∃ t, (call.perform : OnCpu C L Unit).run s = .error .blocked t := by
  cases call with
  | acquire l =>
    rcases spinlockAcquire_cases h.cpu l with hpanic | hblocked | ⟨hfree, hrun⟩
    · exact .inr (.inl hpanic)
    · exact .inr (.inr hblocked)
    · exact .inl ⟨_, hrun, h.taken hfree⟩
  | release l => exact .inl ⟨_, spinlockRelease_run h hallowed, h.released hallowed⟩
  | splx spl =>
    obtain ⟨old, t, hrun, ht⟩ := balanced_splx h hallowed
    exact .inl ⟨t, discard_run hrun, ht⟩
  | splhigh =>
    obtain ⟨old, t, hrun, ht⟩ := balanced_splx_high h
    exact .inl ⟨t, discard_run hrun, ht⟩
  | spl0 =>
    obtain ⟨old, t, hrun, ht⟩ := balanced_splx_none h
    exact .inl ⟨t, discard_run hrun, ht⟩

lemma Balanced.others (h : Balanced mycpu s) (hothers : Others mycpu s t) : Balanced mycpu t := by
  obtain ⟨hrest, hheld, hmine⟩ := hothers
  rw [hrest]
  refine ⟨h.cpu, h.level, ?_, ?_, h.irq, ?_, ?_⟩
  · exact hheld.symm ▸ h.finite
  · exact hheld.symm ▸ h.count
  · exact hheld.symm ▸ h.spinlocks
  intro l hl
  have hl : l ∈ s.held mycpu := hheld ▸ hl
  show (t.splk l).lock = true
  rw [hmine l hl]
  exact h.locked l hl

lemma balanced_step [DecidableEq C] [DecidableEq L] (h : Balanced mycpu s)
    (hstep : Step mycpu s t) : Balanced mycpu t := by
  cases hstep with
  | call call hallowed hrun =>
    rcases call_outcome h hallowed with ⟨t', hrun', ht'⟩ | ⟨t', hrun'⟩ | ⟨t', hrun'⟩
    · rw [hrun] at hrun'
      obtain rfl := (EStateM.Result.ok.inj hrun').2
      exact ht'
    · rw [hrun] at hrun'
      cases hrun'
    · rw [hrun] at hrun'
      cases hrun'
  | others hothers => exact h.others hothers

end Sequences

theorem priority_level_balanced [DecidableEq C] [DecidableEq L] (mycpu : C) (s t : Machine C L)
    (hstart : Start mycpu s) (hreach : Relation.ReflTransGen (Step mycpu) s t) :
    (t.iplhighCount = (t.held mycpu).ncard + if t.curspl = IPL_HIGH then 1 else 0) ∧
      (t.irq = true ↔ t.iplhighCount = 0) ∧
      ∀ call : Call L, call.Allowed mycpu t → ∀ expr u,
        (call.perform : OnCpu C L Unit).run t ≠ .error (.kassert expr) u := by
  have hstep : ∀ u v : Machine C L, Balanced mycpu u → Step mycpu u v → Balanced mycpu v :=
    fun _ _ => balanced_step
  have h : Balanced mycpu t := Run.invariant hstep hstart.balanced hreach
  refine ⟨h.count, h.irq, fun call hallowed expr u hrun => ?_⟩
  rcases call_outcome h hallowed with ⟨t', hrun', -⟩ | ⟨t', hrun'⟩ | ⟨t', hrun'⟩
  · rw [hrun] at hrun'
    cases hrun'
  · rw [hrun] at hrun'
    cases hrun'
  · rw [hrun] at hrun'
    cases hrun'

def quiet : Machine Unit Bool := ⟨some (), 0, 0, true, 0, fun _ => ⟨false, none⟩⟩

lemma quiet_start : Start () quiet :=
  ⟨rfl, Set.eq_empty_of_forall_notMem fun _ hl => (by cases hl), rfl, .inl ⟨rfl, rfl, rfl⟩⟩

theorem priority_level_of_red_and_blue : ∃ t : Machine Unit Bool,
    Relation.ReflTransGen (Step ()) quiet t ∧ t.curspl = IPL_NONE ∧ t.irq = false ∧
      t.iplhighCount = (t.held ()).ncard + if t.curspl = IPL_HIGH then 1 else 0 := by
  have hred : Relation.ReflTransGen (Step ()) quiet _ := .single (.call (.acquire true) trivial rfl)
  have hhigh := hred.tail (.call .splhigh trivial rfl)
  have hblue := hhigh.tail (.call (.acquire false) trivial rfl)
  have hlow := hblue.tail (.call (.splx IPL_NONE) (.inl rfl) rfl)
  have hreach := hlow.tail (.call (.release true) rfl rfl)
  exact ⟨_, hreach, rfl, rfl, (priority_level_balanced () quiet _ quiet_start hreach).1⟩

end Os161.Spl
