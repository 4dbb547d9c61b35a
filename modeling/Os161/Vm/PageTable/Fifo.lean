import Os161.Lib.Run
import Os161.Vm.PageTable.Lemmas

namespace Os161.Vm

open Function Lib List

abbrev Queue := List (Word × Nat)

def Queue.of (queue : Queue) (pid : Word) : Queue := queue.filter (fun x => x.1 = pid)

def Table.Owns (table : Table) (pid : Word) (frame : Nat) : Prop :=
  frame < table.length ∧ (table.nextEntry frame).pid = pid ∧ pid ≠ NO_PID

lemma Table.le_lastPosition {table : Table} (hi : i < table.length)
    (hp : (table.nextEntry i).pid = pid) :
    (table.nextEntry i).positionFifo ≤ table.lastPosition pid :=
  Scan.le_maxWhere hi (by simp [hp])

lemma Table.lastPosition_attained (table : Table) (pid : Word) :
    table.lastPosition pid = -1 ∨ ∃ i < table.length, (table.nextEntry i).pid = pid ∧
      table.lastPosition pid = (table.nextEntry i).positionFifo := by
  rcases Scan.maxWhere_attained (p := fun i => pid = (table.nextEntry i).pid) table.length with
    h | ⟨i, hi, hp, h⟩
  · exact .inl h
  · exact .inr ⟨i, hi, (of_decide_eq_true hp).symm, h⟩

section Owners

variable {table : Table} {pid pid' : Word} {frame i : Nat}

lemma owns_addEntry (vaddr status : Word) (hlt : frame < table.length) (hpid : pid ≠ NO_PID) :
    (table.addEntry pid vaddr frame status).Owns pid' i ↔
      if i = frame then pid' = pid else table.Owns pid' i := by
  by_cases hi : i = frame
  · subst hi
    rw [if_pos rfl, Table.Owns, addEntry_self]
    constructor
    · exact fun h => h.2.1.symm
    · rintro rfl
      exact ⟨hlt, rfl, hpid⟩
  · rw [if_neg hi, Table.Owns, addEntry_of_ne table pid vaddr status hi]
    rfl

lemma owns_resetEntry :
    (table.resetEntry frame).Owns pid i ↔ i ≠ frame ∧ table.Owns pid i := by
  rw [Table.Owns, resetEntry_pid]
  by_cases hi : i = frame
  · rw [if_pos (by rw [hi])]
    exact iff_of_false (fun h => h.2.2 h.2.1.symm) (fun h => h.1 hi)
  · rw [if_neg (by omega), and_iff_right hi]
    rfl

lemma owns_tick : table.tick.Owns pid i ↔ table.Owns pid i := by
  have hpid : (table.tick.nextEntry i).pid = (table.nextEntry i).pid := by
    simp only [Table.tick]
    split <;> rfl
  rw [Table.Owns, hpid]
  rfl

lemma resetEntry_position (hi : i < table.length) (hne : i ≠ frame)
    (hsame : (table.nextEntry i).pid = (table.nextEntry frame).pid) :
    ((table.resetEntry frame).nextEntry i).positionFifo =
      if (table.nextEntry frame).positionFifo < (table.nextEntry i).positionFifo then
        (table.nextEntry i).positionFifo - 1 else (table.nextEntry i).positionFifo := by
  have hclear : table.clear frame i = table.nextEntry i := update_of_ne (by omega) _ _
  have hin : (0 : Int) ≤ i ∧ (i : Int) < table.length := by omega
  simp only [Table.resetEntry, hclear, hin, hsame, true_and]
  split <;> rfl

lemma resetEntry_other (hne : i ≠ frame)
    (hother : (table.nextEntry i).pid ≠ (table.nextEntry frame).pid) :
    (table.resetEntry frame).nextEntry i = table.nextEntry i := by
  have hclear : table.clear frame i = table.nextEntry i := update_of_ne (by omega) _ _
  simp only [Table.resetEntry, hclear]
  exact if_neg fun h => hother h.2.2.1.symm

end Owners

-- The table implements the queue: the pages of each process stand at consecutive positions in
-- the order of the queue, from a first position on that only the clock moves.
structure Fifo (table : Table) (queue : Queue) (base : Word → Int) : Prop where
  nodup : queue.Nodup
  resident : ∀ x, x ∈ queue ↔ table.Owns x.1 x.2
  position : ∀ pid (k : Nat) x, (queue.of pid)[k]? = some x →
    (table.nextEntry x.2).positionFifo = base pid + k
  base_nonneg : ∀ pid, 0 ≤ base pid

section Lemmas

variable {table : Table} {queue : Queue} {base : Word → Int}

variable {x : Word × Nat} {pid pid' : Word} {frame k i : Nat}

lemma mem_of : x ∈ queue.of pid ↔ x ∈ queue ∧ x.1 = pid := by
  simp [Queue.of]

lemma fifo_init (memory : Int → Entry) (length : Nat) :
    Fifo (pageTableInit memory length) [] (fun _ => 0) where
  nodup := nodup_nil
  resident := by
    intro x
    have hno : ¬ (pageTableInit memory length).Owns x.1 x.2 := by
      rintro ⟨hlt, hpid, hne⟩
      have hin : (0 : Int) ≤ x.2 ∧ (x.2 : Int) < length := ⟨by omega, Int.ofNat_lt.mpr hlt⟩
      simp only [pageTableInit, hin, if_true, and_self] at hpid
      exact hne hpid.symm
    simp [hno]
  position := by
    intro pid k x h
    simp [Queue.of] at h
  base_nonneg := fun _ => Int.le_refl 0

variable (hf : Fifo table queue base)

include hf

lemma owns_getElem (h : table.Owns pid frame) :
    ∃ k : Nat, (queue.of pid)[k]? = some (pid, frame) := by
  have hmem : (pid, frame) ∈ queue.of pid := mem_of.mpr ⟨(hf.resident _).mpr h, rfl⟩
  exact mem_iff_getElem?.mp hmem

lemma getElem_owns (h : (queue.of pid)[k]? = some x) : x.1 = pid ∧ table.Owns pid x.2 := by
  obtain ⟨hmem, hpid⟩ := mem_of.mp (mem_of_getElem? h)
  exact ⟨hpid, hpid ▸ (hf.resident x).mp hmem⟩

lemma lastPosition_eq (hpid : pid ≠ NO_PID) : table.lastPosition pid =
      if queue.of pid = [] then -1 else base pid + ((queue.of pid).length - 1 : Nat) := by
  have hbase := hf.base_nonneg pid
  have hmatch : ∀ i < table.length, (table.nextEntry i).pid = pid →
      ∃ k : Nat, k < (queue.of pid).length ∧
        (table.nextEntry i).positionFifo = base pid + k := by
    intro i hi hp
    obtain ⟨k, hk⟩ := owns_getElem hf ⟨hi, hp, hpid⟩
    exact ⟨k, (List.getElem?_eq_some_iff.mp hk).1, hf.position pid k _ hk⟩
  by_cases hempty : queue.of pid = []
  · rw [if_pos hempty]
    rcases table.lastPosition_attained pid with h | ⟨i, hi, hp, -⟩
    · exact h
    · obtain ⟨k, hk, -⟩ := hmatch i hi hp
      simp [hempty] at hk
  rw [if_neg hempty]
  have hlen := length_pos_iff.mpr hempty
  -- the last page of the queue bounds the maximum from below
  obtain ⟨y, hy⟩ : ∃ y, (queue.of pid)[(queue.of pid).length - 1]? = some y :=
    ⟨_, getElem?_eq_getElem (by omega)⟩
  obtain ⟨-, hylt, hyowner, -⟩ := getElem_owns hf hy
  have hle := table.le_lastPosition hylt hyowner
  rw [hf.position pid _ y hy] at hle
  rcases table.lastPosition_attained pid with h | ⟨i, hi, hp, h⟩
  · omega
  · obtain ⟨k, hk, hpos⟩ := hmatch i hi hp
    omega

def rebase (base : Word → Int) (queue : Queue) (pid : Word) : Word → Int :=
  if queue.of pid = [] then update base pid 0 else base

omit hf in
lemma rebase_of_ne_nil (hne : queue.of pid' ≠ []) : rebase base queue pid pid' = base pid' := by
  unfold rebase
  split
  · exact update_of_ne (by rintro rfl; contradiction) _ _
  · rfl

lemma rebase_nonneg (pid pid' : Word) : 0 ≤ rebase base queue pid pid' := by
  unfold rebase
  split
  · by_cases hp : pid' = pid
    · simp [hp]
    · simpa [hp] using hf.base_nonneg pid'
  · exact hf.base_nonneg pid'

omit hf in
lemma getElem_of_append
    (hx : (Queue.of (queue ++ [(pid, frame)]) pid')[k]? = some x) :
    (queue.of pid')[k]? = some x ∨
      (pid' = pid ∧ k = (queue.of pid).length ∧ x = (pid, frame)) := by
  rw [Queue.of, filter_append] at hx
  change (queue.of pid' ++ _)[k]? = some x at hx
  rcases Nat.lt_or_ge k (queue.of pid').length with hk | hk
  · rw [getElem?_append_left hk] at hx
    exact .inl hx
  rw [getElem?_append_right hk] at hx
  by_cases hp : pid = pid'
  · subst hp
    have hlt : k - (queue.of pid).length < 1 := by simpa using (List.getElem?_eq_some_iff.mp hx).1
    have hzero : k - (queue.of pid).length = 0 := by omega
    rw [hzero] at hx
    exact .inr ⟨rfl, by omega, by simpa using hx.symm⟩
  · simp [hp] at hx

lemma fifo_addEntry (vaddr status : Word) (hlt : frame < table.length)
    (hfree : (table.nextEntry frame).pid = NO_PID) (hpid : pid ≠ NO_PID) :
    Fifo (table.addEntry pid vaddr frame status) (queue ++ [(pid, frame)])
      (rebase base queue pid) := by
  have hunowned : ∀ pid', ¬ table.Owns pid' frame := by
    rintro pid' ⟨-, howner, hne⟩
    exact hne (howner.symm.trans hfree)
  have hnew : ∀ x ∈ queue, x.2 ≠ frame := by
    rintro x hx rfl
    exact hunowned x.1 ((hf.resident x).mp hx)
  refine ⟨?_, ?_, ?_, rebase_nonneg hf pid⟩
  · refine nodup_append.mpr ⟨hf.nodup, by simp, ?_⟩
    rintro x hx y hy rfl
    obtain rfl := mem_singleton.mp hy
    exact hnew _ hx rfl
  · rintro ⟨pid', i⟩
    rw [mem_append, mem_singleton, hf.resident, owns_addEntry vaddr status hlt hpid, Prod.mk.injEq]
    by_cases hi : i = frame
    · simp [hi, hunowned]
    · simp [hi]
  intro pid' k x hx
  rcases getElem_of_append hx with hold | ⟨rfl, rfl, rfl⟩
  · -- the pages that were there keep their positions
    have hmem := (mem_of.mp (mem_of_getElem? hold)).1
    have hne : queue.of pid' ≠ [] := ne_nil_of_mem (mem_of_getElem? hold)
    rw [addEntry_of_ne table pid vaddr status (hnew x hmem), hf.position pid' k x hold,
      rebase_of_ne_nil hne]
  simp only [addEntry_self]
  rw [lastPosition_eq hf hpid]
  by_cases hempty : queue.of pid' = []
  · simp [hempty, rebase]
  have hlen := length_pos_iff.mpr hempty
  rw [if_neg hempty, rebase_of_ne_nil hempty]
  omega

lemma fifo_tick : Fifo table.tick queue (fun pid => base pid + 1) := by
  have hentry : ∀ i : Nat, i < table.length → (table.nextEntry i).pid ≠ NO_PID →
      table.tick.nextEntry i =
        { table.nextEntry i with positionFifo := (table.nextEntry i).positionFifo + 1 } := by
    intro i hi hne
    exact if_pos ⟨by omega, by omega, hne⟩
  refine ⟨hf.nodup, ?_, ?_, ?_⟩
  · intro x
    rw [hf.resident, owns_tick]
  · intro pid k x hx
    obtain ⟨-, hlt, howner, hne⟩ := getElem_owns hf hx
    rw [hentry x.2 hlt (howner ▸ hne), hf.position pid k x hx]
    exact Int.add_right_comm _ _ _
  intro pid
  have := hf.base_nonneg pid
  omega

lemma of_erase_self (hk : (queue.of pid)[k]? = some (pid, frame)) :
    Queue.of (queue.erase (pid, frame)) pid = (queue.of pid).eraseIdx k := by
  have hnodup : (queue.of pid).Nodup := hf.nodup.filter _
  have hget := List.getElem?_eq_some_iff.mp hk
  have hidx : (queue.of pid).idxOf (pid, frame) = k := by
    rw [← hget.2]
    exact hnodup.idxOf_getElem k hget.1
  rw [← hidx, ← erase_eq_eraseIdx_of_idxOf rfl, hnodup.erase_eq_filter, Queue.of,
    hf.nodup.erase_eq_filter, filter_filter, Queue.of, filter_filter]
  congr 1
  funext x
  exact Bool.and_comm _ _

lemma of_erase_other (hne : pid' ≠ pid) :
    Queue.of (queue.erase (pid, frame)) pid' = queue.of pid' := by
  rw [Queue.of, hf.nodup.erase_eq_filter, filter_filter, Queue.of]
  refine filter_congr fun x _ => ?_
  by_cases hx : x.1 = pid'
  · have : x ≠ (pid, frame) := by
      rintro rfl
      exact hne hx.symm
    simp [hx, this]
  · simp [hx]

lemma mem_erase_iff_owns (hown : table.Owns pid frame) :
    (pid', i) ∈ queue.erase (pid, frame) ↔ i ≠ frame ∧ table.Owns pid' i := by
  rw [hf.nodup.mem_erase_iff, hf.resident, ne_eq, Prod.mk.injEq]
  refine and_congr_left fun hown' => not_congr ⟨fun h => h.2, fun hi => ⟨?_, hi⟩⟩
  subst hi
  exact hown'.2.1.symm.trans hown.2.1

lemma fifo_resetEntry (hown : table.Owns pid frame) :
    Fifo (table.resetEntry frame) (queue.erase (pid, frame)) base := by
  obtain ⟨k₀, hk₀⟩ := owns_getElem hf hown
  have hpos₀ : (table.nextEntry frame).positionFifo = base pid + k₀ := hf.position pid k₀ _ hk₀
  refine ⟨hf.nodup.erase _, ?_, ?_, hf.base_nonneg⟩
  · rintro ⟨pid', i⟩
    rw [mem_erase_iff_owns hf hown, owns_resetEntry]
  intro pid' k x hx
  have hne : x.2 ≠ frame :=
    ((mem_erase_iff_owns hf hown).mp (mem_of.mp (mem_of_getElem? hx)).1).1
  by_cases hp : pid' = pid
  · subst hp
    rw [of_erase_self hf hk₀, getElem?_eraseIdx] at hx
    by_cases hk : k < k₀
    · rw [if_pos hk] at hx
      obtain ⟨-, hxlt, hxowner, -⟩ := getElem_owns hf hx
      have hpos := hf.position _ _ _ hx
      rw [resetEntry_position hxlt hne (hxowner.trans hown.2.1.symm), if_neg (by omega), hpos]
    rw [if_neg hk] at hx
    obtain ⟨-, hxlt, hxowner, -⟩ := getElem_owns hf hx
    have hpos := hf.position _ _ _ hx
    rw [resetEntry_position hxlt hne (hxowner.trans hown.2.1.symm), if_pos (by omega), hpos]
    omega
  rw [of_erase_other hf hp] at hx
  obtain ⟨-, -, hxowner, -⟩ := getElem_owns hf hx
  have hother : (table.nextEntry x.2).pid ≠ (table.nextEntry frame).pid := by
    rw [hxowner, hown.2.1]
    exact hp
  rw [resetEntry_other hne hother, hf.position pid' k x hx]

lemma position_zero_iff (hi : i < table.length) (hpid : pid ≠ NO_PID) :
    (table.nextEntry i).positionFifo = 0 ∧ (table.nextEntry i).pid = pid ↔
      base pid = 0 ∧ (queue.of pid)[0]? = some (pid, i) := by
  have hbase := hf.base_nonneg pid
  constructor
  · rintro ⟨hzero, howner⟩
    obtain ⟨k, hk⟩ := owns_getElem hf ⟨hi, howner, hpid⟩
    have hpos := hf.position pid k _ hk
    simp only at hpos
    obtain rfl : k = 0 := by omega
    exact ⟨by omega, hk⟩
  rintro ⟨hzero, hhead⟩
  have hpos := hf.position pid 0 _ hhead
  obtain ⟨-, -, howner, -⟩ := getElem_owns hf hhead
  exact ⟨by simp only at hpos; omega, howner⟩

lemma replacement_oldest (hpid : pid ≠ NO_PID) (hzero : base pid = 0)
    (hhead : (queue.of pid)[0]? = some (pid, i)) : table.replacement pid = i := by
  have hi : i < table.length := (getElem_owns hf hhead).2.1
  have hfind : (List.range table.length).find? (fun i : Nat =>
      (table.nextEntry i).positionFifo = 0 && (table.nextEntry i).pid = pid) = some i := by
    rw [find?_range_eq_some]
    refine ⟨?_, by simpa using hi, ?_⟩
    · simpa using (position_zero_iff hf hi hpid).mpr ⟨hzero, hhead⟩
    intro j hj
    simp only [Bool.not_eq_true', Bool.and_eq_false_imp, decide_eq_true_eq, decide_eq_false_iff_not]
    intro hpos howner
    obtain ⟨-, hj'⟩ := (position_zero_iff hf (by omega) hpid).mp ⟨hpos, howner⟩
    simp only [hhead, Option.some.injEq, Prod.mk.injEq, true_and] at hj'
    omega
  rw [Table.replacement, hfind]

lemma replacement_none (hpid : pid ≠ NO_PID) (hpos : base pid ≠ 0) :
    table.replacement pid = -1 := by
  have hfind : (List.range table.length).find? (fun i : Nat =>
      (table.nextEntry i).positionFifo = 0 && (table.nextEntry i).pid = pid) = none := by
    rw [find?_range_eq_none]
    intro i hi
    simp only [Bool.not_eq_true', Bool.and_eq_false_imp, decide_eq_true_eq, decide_eq_false_iff_not]
    intro hzero howner
    exact hpos ((position_zero_iff hf hi hpid).mp ⟨hzero, howner⟩).1
  rw [Table.replacement, hfind]

end Lemmas

inductive FifoOp where
  | add (pid vaddr paddr status : Word)
  | reset (index : Nat)
  | tick

abbrev Queued := State × Queue

def FifoStep (env : Env) : FifoOp → Queued → Queued → Prop
  | .add pid vaddr paddr status, (s, queue), (t, queue') =>
    pid ≠ NO_PID ∧ (s.pageTable.nextEntry (frameIndex paddr)).pid = NO_PID ∧
      (pageTableAddEntry env pid vaddr paddr status).run s = .ok () t ∧
      queue' = queue ++ [(pid, frameIndex paddr)]
  | .reset index, (s, queue), (t, queue') =>
    index < s.pageTable.length ∧ (s.pageTable.nextEntry index).pid ≠ NO_PID ∧
      (pageTableResetEntry env index).run s = .ok () t ∧
      queue' = queue.erase ((s.pageTable.nextEntry index).pid, index)
  | .tick, (s, queue), (t, queue') => (lruUpdateCnt env).run s = .ok () t ∧ queue' = queue

def FindsOldest : Queued → Prop
  | (s, queue) => ∀ pid, (∃ frame, s.pageTable.Owns pid frame) →
      s.pageTable.replacement pid ≠ -1 ∧
        ∃ frame : Nat, (queue.of pid).head? = some (pid, frame) ∧
          s.pageTable.replacement pid = frame

def Calm : FifoOp → Queued → Prop
  | .tick, (s, _) => ∀ pid frame, ¬ s.pageTable.Owns pid frame
  | _, _ => True

def Aligned : Queued → Prop
  | (s, queue) => Fifo s.pageTable queue (fun _ => 0)

lemma aligned_findsOldest (r : Queued) (h : Aligned r) : FindsOldest r := by
  obtain ⟨s, queue⟩ := r
  rintro pid ⟨frame, hown⟩
  obtain ⟨k, hk⟩ := owns_getElem h hown
  have hlen := (List.getElem?_eq_some_iff.mp hk).1
  obtain ⟨x, hx⟩ : ∃ x, (queue.of pid)[0]? = some x := ⟨_, getElem?_eq_getElem (by omega)⟩
  obtain ⟨hxpid, -⟩ := getElem_owns h hx
  have hhead : (queue.of pid)[0]? = some (pid, x.2) := by rw [hx, ← hxpid]
  have hrepl := replacement_oldest h hown.2.2 rfl hhead
  refine ⟨by omega, x.2, ?_, hrepl⟩
  rw [head?_eq_getElem?, hhead]

lemma aligned_step (op : FifoOp) (r r' : Queued) (h : Aligned r) (hcalm : Calm op r)
    (hstep : FifoStep env op r r') : Aligned r' := by
  obtain ⟨s, queue⟩ := r
  obtain ⟨t, queue'⟩ := r'
  have hzero : rebase (fun _ => 0) queue = fun _ _ => 0 := by
    funext pid pid'
    unfold rebase
    split <;> simp [update_apply]
  cases op with
  | add pid vaddr paddr status =>
    obtain ⟨hpid, hfree, hrun, rfl⟩ := hstep
    obtain ⟨hlt, -, rfl⟩ := pageTableAddEntry_ok.mp hrun
    have := fifo_addEntry h vaddr status hlt hfree hpid
    rwa [hzero] at this
  | reset index =>
    obtain ⟨hlt, hne, hrun, rfl⟩ := hstep
    obtain ⟨-, rfl⟩ := pageTableResetEntry_ok.mp hrun
    exact fifo_resetEntry h ⟨hlt, rfl, hne⟩
  | tick =>
    obtain ⟨hrun, rfl⟩ := hstep
    obtain ⟨-, rfl⟩ := lruUpdateCnt_ok.mp hrun
    -- nothing is resident, so that the positions of the queue say nothing
    have hempty : queue' = [] := by
      rw [eq_nil_iff_forall_not_mem]
      exact fun x hx => hcalm _ _ ((h.resident x).mp hx)
    have htick := fifo_tick h
    exact ⟨htick.nodup, htick.resident, by simp [hempty, Queue.of], h.base_nonneg⟩

lemma tick_loses (op : FifoOp) (r r' : Queued) (h : Aligned r) (hcalm : ¬ Calm op r)
    (hstep : FifoStep env op r r') : ¬ FindsOldest r' := by
  obtain ⟨s, queue⟩ := r
  obtain ⟨t, queue'⟩ := r'
  cases op with
  | add pid vaddr paddr status | reset index => exact absurd trivial hcalm
  | tick =>
    obtain ⟨hrun, rfl⟩ := hstep
    obtain ⟨-, rfl⟩ := lruUpdateCnt_ok.mp hrun
    simp only [Calm, not_forall, not_not] at hcalm
    obtain ⟨pid, frame, hown⟩ := hcalm
    have htick : Fifo s.pageTable.tick queue' (fun _ => 1) := fifo_tick h
    intro hfinds
    have hown' : s.pageTable.tick.Owns pid frame :=
      (htick.resident (pid, frame)).mp ((h.resident (pid, frame)).mpr hown)
    exact (hfinds pid ⟨frame, hown'⟩).1 (replacement_none htick hown.2.2 (by decide))

theorem fifo_replacement (env : Env) (s : State) (memory : Int → Entry) (length : Nat)
    (ops : List FifoOp) :
    Run.Always (FifoStep env) FindsOldest ops (s.setPageTable (pageTableInit memory length), []) ↔
      Run.Guarded (FifoStep env) Calm ops (s.setPageTable (pageTableInit memory length), []) :=
  Run.always_iff_guarded aligned_findsOldest aligned_step tick_loses ops
    (fifo_init memory length)

def freshTable : State :=
  (powerOn ⟨0x1000#32, 0x4000#32⟩).setPageTable
    (pageTableInit (fun _ => ⟨0#32, 0#32, 0#32, 0#32, 0⟩) 4)

theorem replacement_lost_after_tick :
    ¬ Run.Always (FifoStep steadyEnv) FindsOldest [.add 1#32 0x400000#32 0x2000#32 0#32, .tick]
      (freshTable, []) := by
  intro h
  let added := freshTable.setPageTable (freshTable.pageTable.addEntry 1#32 0x400000#32 2 0#32)
  let ticked := added.setPageTable added.pageTable.tick
  have hadd : FifoStep steadyEnv (.add 1#32 0x400000#32 0x2000#32 0#32) (freshTable, [])
      (added, [(1#32, 2)]) :=
    ⟨by decide, by decide, pageTableAddEntry_ok.mpr ⟨by decide, fun _ => rfl, rfl⟩, rfl⟩
  have htick : FifoStep steadyEnv .tick (added, [(1#32, 2)]) (ticked, [(1#32, 2)]) :=
    ⟨lruUpdateCnt_ok.mpr ⟨fun _ => rfl, rfl⟩, rfl⟩
  have hfinds : FindsOldest (ticked, [(1#32, 2)]) := (h.2 _ hadd).2 _ htick
  exact (hfinds 1#32 ⟨2, by decide, by decide, by decide⟩).1 (by decide)

end Os161.Vm
