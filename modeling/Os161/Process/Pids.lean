import Mathlib.Data.Set.Card
import Mathlib.Order.Interval.Finset.Nat
import Os161.Process.Keys

namespace Os161.Process

open Function Lib Lib.Exec Vm ProcessTable

def System.Live (sys : System) : Set Nat := {p | sys.procs p ≠ none}

-- Code that leaves the process table and the identifiers alone.
structure LeavesPids (sys sys' : System) : Prop where
  table : sys'.processTable = sys.processTable
  pids : ∀ p, (sys'.procs p).map Proc.pPid = (sys.procs p).map Proc.pPid

inductive PidStep (env : Env) (sys sys' : System) : Prop where
  | create (m : Kmalloc) (new : Option Nat) (hfresh : m.Fresh sys)
      (hrun : (procCreate m).run sys = .ok new sys')
  | destroy (p : Nat) (hrun : (procDestroy env p).run sys = .ok () sys')
  | other (hleaves : LeavesPids sys sys')

def unbooted (vm : State) : System := ⟨vm, fun _ => none, ⟨fun _ => none, 0⟩, 0, 0⟩

def PidsReach (env : Env) (vm : State) (sys : System) : Prop :=
  Relation.ReflTransGen (PidStep env) (unbooted vm) sys

-- Every structure is in the slot of its identifier, and every slot in use holds a structure with
-- that identifier. `last_i` is 0 only as long as no slot has been used.
structure Pids (sys : System) : Prop where
  lastI : sys.processTable.lastI ≤ MAX_PROC
  unused : sys.processTable.lastI = 0 → ∀ i, sys.processTable.proc i = none
  inTable : ∀ p proc, sys.procs p = some proc →
    (1 ≤ proc.pPid ∧ proc.pPid ≤ MAX_PROC) ∧ sys.processTable.proc proc.pPid = some p
  inUse : ∀ i p, sys.processTable.proc i = some p →
    ∃ proc, sys.procs p = some proc ∧ proc.pPid = i

lemma pids_unbooted (vm : State) : Pids (unbooted vm) where
  lastI := Nat.zero_le _
  unused := fun _ _ => rfl
  inTable := fun _ _ h => by cases h
  inUse := fun _ _ h => by cases h

section Search

variable {table : ProcessTable} {i : Nat}

def ProcessTable.ahead (table : ProcessTable) (i : Nat) : Nat :=
  (table.lastI + MAX_PROC - i) % MAX_PROC

lemma ahead_nextIndex (hlast : 1 ≤ table.lastI) (hlast' : table.lastI ≤ MAX_PROC) (hi : 1 ≤ i)
    (hi' : i ≤ MAX_PROC) (hne : i ≠ table.lastI) :
    table.ahead (nextIndex i) + 1 = table.ahead i := by
  unfold ahead nextIndex MAX_PROC at *
  split <;> omega

lemma nextIndex_range (i : Nat) : 1 ≤ nextIndex i ∧ nextIndex i ≤ MAX_PROC := by
  unfold nextIndex MAX_PROC
  split <;> omega

-- Induction on the fuel: each increment brings the index one step closer to `last_i`, where the
-- loop ends with every slot on the way in use.
lemma search_spec (hlast : 1 ≤ table.lastI) (hlast' : table.lastI ≤ MAX_PROC) (fuel : Nat)
    (hi : 1 ≤ i) (hi' : i ≤ MAX_PROC) (hfuel : table.ahead i < fuel) :
    (table.search fuel i = some none ∧ ∀ j, 1 ≤ j → j ≤ MAX_PROC → j ≠ table.lastI →
        table.ahead j ≤ table.ahead i → table.proc j ≠ none) ∨
      ∃ j, table.search fuel i = some (some j) ∧ (1 ≤ j ∧ j ≤ MAX_PROC) ∧ j ≠ table.lastI ∧
        table.proc j = none := by
  induction fuel generalizing i with
  | zero => omega
  | succ fuel ih =>
    unfold search
    by_cases hend : i = table.lastI
    · refine .inl ⟨if_pos hend, fun j hj hj' hne hle => ?_⟩
      subst hend
      exfalso
      unfold ahead MAX_PROC at hle
      unfold MAX_PROC at hj' hlast'
      omega
    rw [if_neg hend]
    by_cases hfree : table.proc i = none
    · exact .inr ⟨i, if_pos hfree, ⟨hi, hi'⟩, hend, hfree⟩
    rw [if_neg hfree]
    have hnext := ahead_nextIndex hlast hlast' hi hi' hend
    rcases ih (nextIndex_range i).1 (nextIndex_range i).2 (by omega) with ⟨hrun, hused⟩ | hfound
    · refine .inl ⟨hrun, fun j hj hj' hne hle => ?_⟩
      by_cases hji : j = i
      · rw [hji]
        exact hfree
      refine hused j hj hj' hne ?_
      -- a slot between the two indices would be `i` itself
      have hdiff : table.ahead j ≠ table.ahead i := by
        unfold ahead MAX_PROC at *
        omega
      omega
    · exact .inr hfound

end Search

variable {sys : System} {n : Nat}

lemma search_finds (h : Pids sys) :
    (sys.processTable.search (MAX_PROC + 1) (nextIndex sys.processTable.lastI) = some none ∧
        1 ≤ sys.processTable.lastI ∧
        ∀ j, 1 ≤ j → j ≤ MAX_PROC → j ≠ sys.processTable.lastI → sys.processTable.proc j ≠ none) ∨
      ∃ j, sys.processTable.search (MAX_PROC + 1) (nextIndex sys.processTable.lastI) =
          some (some j) ∧
        (1 ≤ j ∧ j ≤ MAX_PROC) ∧ j ≠ sys.processTable.lastI ∧ sys.processTable.proc j = none := by
  have hrange := nextIndex_range sys.processTable.lastI
  by_cases hzero : sys.processTable.lastI = 0
  · refine .inr ⟨nextIndex sys.processTable.lastI, ?_, hrange, by omega, h.unused hzero _⟩
    unfold search
    rw [if_neg (by omega), if_pos (h.unused hzero _)]
  have hlast : 1 ≤ sys.processTable.lastI := by omega
  have hahead : ∀ j, sys.processTable.ahead j < MAX_PROC :=
    fun j => Nat.mod_lt _ (by decide)
  rcases search_spec hlast h.lastI (MAX_PROC + 1) hrange.1 hrange.2
    (Nat.lt_succ_of_lt (hahead _)) with ⟨hrun, hused⟩ | hfound
  · refine .inl ⟨hrun, hlast, fun j hj hj' hne => hused j hj hj' hne ?_⟩
    -- the index after `last_i` is the farthest from it
    have hfar : sys.processTable.ahead (nextIndex sys.processTable.lastI) = MAX_PROC - 1 := by
      have := h.lastI
      unfold ahead nextIndex MAX_PROC at *
      split <;> omega
    have := hahead j
    omega
  · exact .inr hfound

lemma search_range (h : Pids sys)
    (hi : sys.processTable.search (MAX_PROC + 1) (nextIndex sys.processTable.lastI) =
      some (some i)) : (1 ≤ i ∧ i ≤ MAX_PROC) ∧ sys.processTable.proc i = none := by
  rcases search_finds h with ⟨hnone, -⟩ | ⟨j, hj, hrange, -, hfree⟩
  · rw [hnone] at hi
    cases hi
  obtain rfl : j = i := by
    rw [hj] at hi
    exact Option.some.inj (Option.some.inj hi)
  exact ⟨hrange, hfree⟩

lemma procInitWaitpid_full (p : Nat) (sem : Bool)
    (h : sys.processTable.search (MAX_PROC + 1) (nextIndex sys.processTable.lastI) = some none) :
    (procInitWaitpid p sem).run sys =
      .error (.panic "too many processes. proc table is full\n" []) sys := by
  unfold procInitWaitpid
  rw [bind_run_ok (EStateM.run_get sys), h]
  rfl

section Steps

variable {env : Env} {sys sys' : System}

variable {p : Nat} {proc : Proc}

lemma Pids.enter (h : Pids sys) (hp : sys.procs p = none)
    (hi : 1 ≤ i ∧ i ≤ MAX_PROC) (hfree : sys.processTable.proc i = none) (hpid : proc.pPid = i) :
    Pids (sys.withNew p i proc) where
  lastI := hi.2
  unused := fun hzero => by
    have hzero : i = 0 := hzero
    omega
  inTable := by
    intro q proc' hq
    rw [System.withNew_procs] at hq
    show _ ∧ update sys.processTable.proc i (some p) proc'.pPid = some q
    by_cases hqp : q = p
    · subst hqp
      rw [update_self] at hq
      obtain rfl := Option.some.inj hq
      rw [hpid, update_self]
      exact ⟨hi, rfl⟩
    rw [update_of_ne hqp] at hq
    obtain ⟨hrange, hslot⟩ := h.inTable q proc' hq
    have hne : proc'.pPid ≠ i := by
      rintro rfl
      rw [hfree] at hslot
      cases hslot
    rw [update_of_ne hne]
    exact ⟨hrange, hslot⟩
  inUse := by
    intro j q hj
    have hj : update sys.processTable.proc i (some p) j = some q := hj
    rw [System.withNew_procs]
    by_cases hji : j = i
    · subst hji
      rw [update_self] at hj
      obtain rfl := Option.some.inj hj
      exact ⟨proc, update_self .., hpid⟩
    rw [update_of_ne hji] at hj
    obtain ⟨proc', hq, hpid'⟩ := h.inUse j q hj
    have hne : q ≠ p := by
      rintro rfl
      rw [hp] at hq
      cases hq
    exact ⟨proc', by rw [update_of_ne hne]; exact hq, hpid'⟩

lemma Pids.leave (h : Pids sys) (hp : sys.procs p = some proc)
    (vm : State) : Pids (sys.without p proc vm) where
  lastI := h.lastI
  unused := fun hzero i => by
    show update sys.processTable.proc proc.pPid none i = none
    rw [funext (h.unused hzero), update_apply, ite_self]
  inTable := by
    intro q proc' hq
    rw [System.without_procs] at hq
    show _ ∧ update sys.processTable.proc proc.pPid none proc'.pPid = some q
    have hqp : q ≠ p := by
      rintro rfl
      rw [update_self] at hq
      cases hq
    rw [update_of_ne hqp] at hq
    obtain ⟨hrange, hslot⟩ := h.inTable q proc' hq
    have hne : proc'.pPid ≠ proc.pPid := by
      intro heq
      rw [heq, (h.inTable p proc hp).2] at hslot
      exact hqp (Option.some.inj hslot).symm
    rw [update_of_ne hne]
    exact ⟨hrange, hslot⟩
  inUse := by
    intro j q hj
    have hj : update sys.processTable.proc proc.pPid none j = some q := hj
    have hne : j ≠ proc.pPid := by
      rintro rfl
      rw [update_self] at hj
      cases hj
    rw [update_of_ne hne] at hj
    obtain ⟨proc', hq, hpid'⟩ := h.inUse j q hj
    have hqp : q ≠ p := by
      rintro rfl
      rw [hp] at hq
      obtain rfl := Option.some.inj hq
      exact hne hpid'.symm
    exact ⟨proc', by rw [System.without_procs, update_of_ne hqp]; exact hq, hpid'⟩

lemma Pids.leaves (h : Pids sys) (hleaves : LeavesPids sys sys') : Pids sys' where
  lastI := by
    rw [hleaves.table]
    exact h.lastI
  unused := by
    rw [hleaves.table]
    exact h.unused
  inTable := by
    intro p proc hp
    have hmap := hleaves.pids p
    rw [hp] at hmap
    obtain ⟨proc', hp', hpid⟩ := Option.map_eq_some_iff.mp hmap.symm
    rw [hleaves.table, ← hpid]
    exact h.inTable p proc' hp'
  inUse := by
    intro i p hslot
    rw [hleaves.table] at hslot
    obtain ⟨proc, hp, hpid⟩ := h.inUse i p hslot
    have hmap := hleaves.pids p
    rw [hp] at hmap
    obtain ⟨proc', hp', hpid'⟩ := Option.map_eq_some_iff.mp hmap
    exact ⟨proc', hp', hpid'.trans hpid⟩

lemma procDestroy_live (hrun : (procDestroy env p).run sys = .ok () sys') :
    ∃ proc, sys.procs p = some proc := by
  unfold procDestroy at hrun
  rw [bind_run_ok (EStateM.run_get sys)] at hrun
  obtain ⟨proc, hp, -⟩ := readProc_bind_ok.mp (kassert_bind_ok.mp hrun).2
  exact ⟨proc, hp⟩

lemma pids_step (h : Pids sys) (hstep : PidStep env sys sys') : Pids sys' := by
  cases hstep with
  | create m new hfresh hrun =>
    rcases procCreate_ok.mp hrun with ⟨-, -, rfl⟩ | ⟨p, memory, i, hproc, -, hsearch, -, rfl⟩
    · exact h
    · obtain ⟨hrange, hfree⟩ := search_range h hsearch
      exact h.enter (hfresh p memory hproc) hrange hfree rfl
  | destroy p hrun =>
    obtain ⟨proc, hp⟩ := procDestroy_live hrun
    obtain ⟨-, -, -, vm, -, rfl⟩ := (procDestroy_ok hp).mp hrun
    exact h.leave hp vm
  | other hleaves => exact h.leaves hleaves

lemma pids_reach (hreach : PidsReach env vm sys) : Pids sys := by
  have hstep : ∀ s t, Pids s → PidStep env s t → Pids t := fun _ _ => pids_step
  exact Run.invariant hstep (pids_unbooted vm) hreach

end Steps

section Live

variable {sys : System}

def ProcessTable.occupied (table : ProcessTable) : Finset Nat :=
  (Finset.Icc 1 MAX_PROC).filter fun i => table.proc i ≠ none

lemma live_ncard (h : Pids sys) : sys.Live.ncard = sys.processTable.occupied.card := by
  have himage : sys.Live =
      (fun i => (sys.processTable.proc i).getD 0) '' (sys.processTable.occupied : Set Nat) := by
    ext p
    constructor
    · intro hp
      obtain ⟨proc, hproc⟩ := Option.ne_none_iff_exists'.mp hp
      obtain ⟨hrange, hslot⟩ := h.inTable p proc hproc
      refine ⟨proc.pPid, ?_, by simp [hslot]⟩
      simp [occupied, hslot, hrange.1, hrange.2]
    rintro ⟨i, hi, rfl⟩
    obtain ⟨q, hq⟩ := Option.ne_none_iff_exists'.mp (Finset.mem_filter.mp hi).2
    obtain ⟨proc, hproc, -⟩ := h.inUse i q hq
    simp [System.Live, hq, hproc]
  have hinj : Set.InjOn (fun i => (sys.processTable.proc i).getD 0)
      (sys.processTable.occupied : Set Nat) := by
    intro i hi j hj heq
    obtain ⟨p, hp⟩ := Option.ne_none_iff_exists'.mp (Finset.mem_filter.mp hi).2
    obtain ⟨q, hq⟩ := Option.ne_none_iff_exists'.mp (Finset.mem_filter.mp hj).2
    obtain ⟨proc, hproc, hi'⟩ := h.inUse i p hp
    obtain ⟨proc', hproc', hj'⟩ := h.inUse j q hq
    have hpq : p = q := by simpa [hp, hq] using heq
    subst hpq
    rw [hproc] at hproc'
    rw [← hi', ← hj', Option.some.inj hproc']
  rw [himage, hinj.ncard_image, Set.ncard_coe_finset]

lemma occupied_subset (table : ProcessTable) : table.occupied ⊆ Finset.Icc 1 MAX_PROC :=
  Finset.filter_subset ..

lemma occupied_all_but (h : Pids sys) (hlast : 1 ≤ sys.processTable.lastI)
    (hempty : sys.processTable.proc sys.processTable.lastI = none) :
    (∀ j, 1 ≤ j → j ≤ MAX_PROC → j ≠ sys.processTable.lastI → sys.processTable.proc j ≠ none) ↔
      sys.processTable.occupied.card + 1 = MAX_PROC := by
  have hmem : sys.processTable.lastI ∈ Finset.Icc 1 MAX_PROC :=
    Finset.mem_Icc.mpr ⟨hlast, h.lastI⟩
  have hsub : sys.processTable.occupied ⊆ (Finset.Icc 1 MAX_PROC).erase
      sys.processTable.lastI := by
    intro j hj
    refine Finset.mem_erase.mpr ⟨?_, occupied_subset _ hj⟩
    rintro rfl
    exact (Finset.mem_filter.mp hj).2 hempty
  have hcard : ((Finset.Icc 1 MAX_PROC).erase sys.processTable.lastI).card + 1 = MAX_PROC := by
    rw [Finset.card_erase_add_one hmem, Nat.card_Icc]
    rfl
  constructor
  · intro hall
    have heq : sys.processTable.occupied = (Finset.Icc 1 MAX_PROC).erase
        sys.processTable.lastI := by
      refine hsub.antisymm fun j hj => ?_
      obtain ⟨hne, hj⟩ := Finset.mem_erase.mp hj
      have hrange := Finset.mem_Icc.mp hj
      exact Finset.mem_filter.mpr ⟨hj, hall j hrange.1 hrange.2 hne⟩
    rw [heq, hcard]
  intro hmany j hj hj' hne
  have heq := Finset.eq_of_subset_of_card_le hsub (by omega)
  have hjmem : j ∈ sys.processTable.occupied := by
    rw [heq]
    exact Finset.mem_erase.mpr ⟨hne, Finset.mem_Icc.mpr ⟨hj, hj'⟩⟩
  exact (Finset.mem_filter.mp hjmem).2

end Live

def Creatable (sys : System) : Prop :=
  ∀ m p memory, m.Fresh sys → m.proc = some (p, memory) → m.name = true →
    ∃ sys', (procCreate m).run sys = .ok (some p) sys'

structure PidsSafe (sys : System) : Prop where
  ends : (sys.processTable.search (MAX_PROC + 1) (nextIndex sys.processTable.lastI)).isSome = true
  range : ∀ p proc, sys.procs p = some proc → 1 ≤ proc.pPid ∧ proc.pPid ≤ MAX_PROC
  back : ∀ p proc, sys.procs p = some proc → sys.processTable.proc proc.pPid = some p
  distinct : ∀ p q proc proc', sys.procs p = some proc → sys.procs q = some proc' → p ≠ q →
    proc.pPid ≠ proc'.pPid
  complete : sys.Live.ncard < MAX_PROC → Creatable sys

lemma creatable_iff (hfree : ∃ p, sys.procs p = none) :
    Creatable sys ↔ ∃ i, sys.processTable.search (MAX_PROC + 1)
      (nextIndex sys.processTable.lastI) = some (some i) := by
  constructor
  · intro h
    obtain ⟨p, hp⟩ := hfree
    let memory : Proc := ⟨0, none, 0#32, 0, none, 0#32⟩
    have hfresh : Kmalloc.Fresh ⟨some (p, memory), true, true, none, true, true⟩ sys := by
      intro q memory' heq
      obtain ⟨rfl, -⟩ : p = q ∧ memory = memory' := by simpa using heq
      exact hp
    obtain ⟨sys', hrun⟩ := h _ p memory hfresh rfl rfl
    rcases procCreate_ok.mp hrun with ⟨-, hnone, -⟩ | ⟨_, _, i, -, -, hsearch, -⟩
    · cases hnone
    · exact ⟨i, hsearch⟩
  · rintro ⟨i, hsearch⟩ m p memory - hproc hname
    exact ⟨_, procCreate_ok.mpr (.inr ⟨p, memory, i, hproc, hname, hsearch, rfl, rfl⟩)⟩

lemma exists_free (h : Pids sys) : ∃ p, sys.procs p = none := by
  by_contra hno
  have hall : ∀ p, sys.procs p ≠ none := not_exists.mp hno
  have hinj : Set.InjOn (fun p => ((sys.procs p).map Proc.pPid).getD 0) Set.univ := by
    intro p _ q _ heq
    obtain ⟨proc, hp⟩ := Option.ne_none_iff_exists'.mp (hall p)
    obtain ⟨proc', hq⟩ := Option.ne_none_iff_exists'.mp (hall q)
    have hpid : proc.pPid = proc'.pPid := by simpa [hp, hq] using heq
    have hslot := (h.inTable p proc hp).2
    rw [hpid, (h.inTable q proc' hq).2] at hslot
    exact (Option.some.inj hslot).symm
  have hmaps : Set.MapsTo (fun p => ((sys.procs p).map Proc.pPid).getD 0) Set.univ
      (Set.Icc 1 MAX_PROC) := by
    intro p _
    obtain ⟨proc, hp⟩ := Option.ne_none_iff_exists'.mp (hall p)
    simpa [hp] using (h.inTable p proc hp).1
  exact Set.infinite_univ ((Set.finite_Icc 1 MAX_PROC).of_injOn hmaps hinj)

theorem pid_allocation_complete_iff (env : Env) (vm : State) (sys : System)
    (hreach : PidsReach env vm sys) : PidsSafe sys ↔ ¬ (sys.Live.ncard + 1 = MAX_PROC ∧
      sys.processTable.proc sys.processTable.lastI = none) := by
  have h := pids_reach hreach
  have hcard := live_ncard h
  constructor
  · rintro hsafe ⟨hmany, hempty⟩
    obtain ⟨i, hi⟩ := (creatable_iff (exists_free h)).mp (hsafe.complete (by omega))
    rcases search_finds h with ⟨hnone, -⟩ | ⟨j, -, hrange, hne, hfree⟩
    · rw [hnone] at hi
      cases hi
    by_cases hzero : sys.processTable.lastI = 0
    · have hnone : sys.processTable.occupied = ∅ := by
        refine Finset.filter_eq_empty_iff.mpr fun j _ => ?_
        simp [h.unused hzero j]
      rw [hcard, hnone] at hmany
      cases hmany
    · rw [hcard] at hmany
      exact (occupied_all_but h (by omega) hempty).mpr hmany j hrange.1 hrange.2 hne hfree
  intro hcond
  refine ⟨?_, fun p proc hp => (h.inTable p proc hp).1, fun p proc hp => (h.inTable p proc hp).2,
    ?_, ?_⟩
  · rcases search_finds h with ⟨hnone, -⟩ | ⟨j, hj, -⟩
    · rw [hnone]
      rfl
    · rw [hj]
      rfl
  · intro p q proc proc' hp hq hne heq
    have hslot := (h.inTable p proc hp).2
    rw [heq, (h.inTable q proc' hq).2] at hslot
    exact hne (Option.some.inj hslot).symm
  intro hfew
  refine (creatable_iff (exists_free h)).mpr ?_
  rcases search_finds h with ⟨-, hlast, hused⟩ | ⟨j, hj, -⟩
  · exfalso
    by_cases hempty : sys.processTable.proc sys.processTable.lastI = none
    · have hmany := (occupied_all_but h hlast hempty).mp hused
      exact hcond ⟨by omega, hempty⟩
    -- every slot is in use
    have hall : sys.processTable.occupied = Finset.Icc 1 MAX_PROC := by
      refine (occupied_subset _).antisymm fun j hj => ?_
      have hrange := Finset.mem_Icc.mp hj
      refine Finset.mem_filter.mpr ⟨hj, ?_⟩
      by_cases hjl : j = sys.processTable.lastI
      · rw [hjl]
        exact hempty
      · exact hused j hrange.1 hrange.2 hjl
    rw [hcard, hall, Nat.card_Icc] at hfew
    omega
  · exact ⟨j, hj⟩

def crowd (vm : State) (n : Nat) : System where
  vm := vm
  procs := fun p => if 1 ≤ p ∧ p ≤ n then some (zeroProc.created p true) else none
  processTable := ⟨fun i => if 1 ≤ i ∧ i ≤ n then some i else none, n⟩
  kproc := 1
  curproc := 1

def crowdKmalloc (p : Nat) : Kmalloc := ⟨some (p, zeroProc), true, true, none, true, true⟩

lemma crowdKmalloc_fresh (hp : sys.procs p = none) :
    (crowdKmalloc p).Fresh sys := by
  intro q memory heq
  obtain ⟨rfl, -⟩ : p = q ∧ zeroProc = memory := by simpa [crowdKmalloc] using heq
  exact hp

lemma crowd_create (vm : State) (hn : n < MAX_PROC) :
    (procCreate (crowdKmalloc (n + 1))).run (crowd vm n) =
      .ok (some (n + 1)) (crowd vm (n + 1)) := by
  have hnext : nextIndex n = n + 1 := if_neg (by omega)
  have hfree : (crowd vm n).processTable.proc (n + 1) = none := if_neg (by omega)
  refine procCreate_ok.mpr (.inr ⟨n + 1, zeroProc, n + 1, rfl, rfl, ?_, rfl, ?_⟩)
  · show (crowd vm n).processTable.search (MAX_PROC + 1) (nextIndex n) = _
    rw [hnext]
    unfold search
    exact (if_neg (Nat.succ_ne_self n)).trans (if_pos hfree)
  simp only [crowd, System.withNew, enter, System.mk.injEq, true_and,
    ProcessTable.mk.injEq, and_true]
  constructor
  · funext p
    by_cases hp : p = n + 1
    · subst hp
      simp
      rfl
    · rw [update_of_ne hp]
      exact if_congr (by omega) rfl rfl
  funext i
  by_cases hi : i = n + 1
  · subst hi
    simp
  · rw [update_of_ne hi]
    exact if_congr (by omega) rfl rfl

lemma crowd_reach (env : Env) (vm : State) (hn : n ≤ MAX_PROC) :
    PidsReach env vm (crowd vm n) := by
  induction n with
  | zero =>
    have htable : (crowd vm 0).processTable = (unbooted vm).processTable := by
      refine congrArg (ProcessTable.mk · 0) (funext fun i => if_neg ?_)
      omega
    have hprocs : ∀ p, (crowd vm 0).procs p = none := fun p => if_neg (by omega)
    refine Relation.ReflTransGen.single (.other ⟨htable, fun p => ?_⟩)
    rw [hprocs p]
    rfl
  | succ n ih =>
    have hfree : (crowd vm n).procs (n + 1) = none := if_neg (by omega)
    exact (ih (by omega)).tail
      (.create _ _ (crowdKmalloc_fresh hfree) (crowd_create vm (by omega)))

def vacated (vm : State) : System := (crowd vm 100).without 100 (zeroProc.created 100 true) vm

lemma vacated_reach (env : Env) (vm : State) : PidsReach env vm (vacated vm) := by
  have hlive : (crowd vm 100).procs 100 = some (zeroProc.created 100 true) := rfl
  refine (crowd_reach env vm (le_refl MAX_PROC)).tail (.destroy 100 ((procDestroy_ok hlive).mpr ?_))
  have hother : 100 ≠ (crowd vm 100).kproc := (by decide : 100 ≠ 1)
  exact ⟨hother, rfl, ⟨by decide, rfl⟩, vm, .inl ⟨rfl, rfl⟩, rfl⟩

lemma vacated_live (vm : State) : (vacated vm).Live.ncard = 99 := by
  have hlive : (vacated vm).Live = (Finset.Icc 1 99 : Finset Nat) := by
    ext p
    simp only [System.Live, vacated, System.without_procs, Set.mem_ofPred_eq, Finset.coe_Icc,
      Set.mem_Icc]
    by_cases hp : p = 100
    · subst hp
      simp
    rw [update_of_ne hp]
    simp only [crowd, ne_eq, ite_eq_right_iff, reduceCtorEq, imp_false, not_not]
    omega
  rw [hlive, Set.ncard_coe_finset, Nat.card_Icc]

theorem pid_missed_at_last_index : PidsReach steadyEnv smallMachine (vacated smallMachine) ∧
      (vacated smallMachine).Live.ncard < MAX_PROC ∧
      (vacated smallMachine).processTable.proc 100 = none ∧
      ∃ t, (procCreate (crowdKmalloc 100)).run (vacated smallMachine) =
        .error (.panic "too many processes. proc table is full\n" []) t := by
  have hreach := vacated_reach steadyEnv smallMachine
  have hlive := vacated_live smallMachine
  refine ⟨hreach, by rw [hlive]; decide, rfl, ?_⟩
  have hsearch : (vacated smallMachine).processTable.search (MAX_PROC + 1)
      (nextIndex (vacated smallMachine).processTable.lastI) = some none := by
    rcases search_finds (pids_reach hreach) with ⟨hnone, -⟩ | ⟨j, -, hrange, hne, hfree⟩
    · exact hnone
    have hne : j ≠ 100 := hne
    have hfree : update (crowd smallMachine 100).processTable.proc 100 none j = none :=
      hfree
    rw [update_of_ne hne] at hfree
    exact absurd hfree (by simp [crowd, hrange.1, show j ≤ 100 from hrange.2])
  unfold procCreate crowdKmalloc
  simp only [if_true]
  rw [bind_run_ok (putProc_run ..)]
  have hfull : ∀ procs, (procInitWaitpid 100 true).run ((vacated smallMachine).setProcs procs) =
      .error (.panic "too many processes. proc table is full\n" [])
        ((vacated smallMachine).setProcs procs) :=
    fun procs => procInitWaitpid_full 100 true hsearch
  exact ⟨_, bind_run_error (hfull _) _⟩

theorem pid_allocation_of_crowd : PidsReach steadyEnv smallMachine (crowd smallMachine 100) ∧
    PidsSafe (crowd smallMachine 100) := by
  have hreach := crowd_reach steadyEnv smallMachine (le_refl MAX_PROC)
  refine ⟨hreach, (pid_allocation_complete_iff _ _ _ hreach).mpr fun h => ?_⟩
  exact absurd h.2 (by decide)

def reap (env : Env) (p : Nat) : Sys (Option Word) := do
  let proc ← readProc p
  procDestroy env p
  pure (some proc.pStatus)

-- The lookup finds the live process with this identifier, and the call waits on its semaphore.
structure WaitsFor (env : Env) (pid : Word) (sys : System) (p : Nat) (proc : Proc) : Prop where
  live : sys.procs p = some proc
  named : proc.pPid = pid.toNat
  found : (procSearchPid pid).run sys = .ok (some p) sys
  sem : proc.pSem ≠ none
  waits : (sysWaitpid env pid).run sys = (semP p >>= fun _ => reap env p).run sys

def NoneLive (pid : Word) (sys : System) : Prop :=
  ∀ p proc, sys.procs p = some proc → proc.pPid ≠ pid.toNat

def WaitpidAnswers (env : Env) (pid : Word) (sys : System) : Prop :=
  (∃ p proc, WaitsFor env pid sys p proc) ∨
    NoneLive pid sys ∧ (sysWaitpid env pid).run sys = .ok none sys

section Waitpid

variable {env : Env} {sys : System} {pid : Word} {p : Nat} {proc : Proc}

lemma procSearchPid_found (h : Pids sys) (hp : sys.procs p = some proc)
    (hpid : proc.pPid = pid.toNat) (hlt : pid.toNat < MAX_PROC) :
    (procSearchPid pid).run sys = .ok (some p) sys := by
  have hint : pid.toInt = (pid.toNat : Int) :=
    BitVec.toInt_eq_toNat_of_lt (by unfold MAX_PROC at hlt; omega)
  have hslot := (h.inTable p proc hp).2
  rw [hpid] at hslot
  unfold procSearchPid
  rw [kassert_bind_ok, bind_run_ok (EStateM.run_get sys), hslot]
  refine ⟨decide_eq_true ⟨by omega, by omega⟩, ?_⟩
  simp only
  rw [bind_run_ok (readProc_ok.mpr ⟨hp, rfl⟩), kassert_bind_ok]
  exact ⟨decide_eq_true hpid, rfl⟩

lemma procSearchPid_ok (hrun : (procSearchPid pid).run sys = .ok found t) :
    pid.toNat < MAX_PROC ∧ ∃ p, found = some p ∧ sys.processTable.proc pid.toNat = some p := by
  unfold procSearchPid at hrun
  obtain ⟨hrange, hrun⟩ := kassert_bind_ok.mp hrun
  have hrange := of_decide_eq_true hrange
  rw [bind_run_ok (EStateM.run_get sys)] at hrun
  have hlt : pid.toNat < MAX_PROC := by
    have := pid.isLt
    rw [BitVec.toInt_eq_toNat_cond] at hrange
    split at hrange <;> omega
  refine ⟨hlt, ?_⟩
  cases hslot : sys.processTable.proc pid.toNat with
  | none =>
    rw [hslot] at hrun
    cases hrun
  | some p =>
    rw [hslot] at hrun
    obtain ⟨proc, -, hrun⟩ := readProc_bind_ok.mp hrun
    exact ⟨p, (pure_ok.mp (kassert_bind_ok.mp hrun).2).1, rfl⟩

lemma sysWaitpid_user (hfound : (procSearchPid pid).run sys = .ok (some p) sys)
    (huser : p ≠ sys.kproc) :
    (sysWaitpid env pid).run sys = (semP p >>= fun _ => reap env p).run sys := by
  unfold sysWaitpid procWait reap
  rw [bind_run_ok hfound]
  simp only [bind_assoc, pure_bind]
  rw [bind_run_ok (EStateM.run_get sys), bind_run_ok (kassert_pass huser ..)]

lemma sysWaitpid_kproc (hfound : (procSearchPid pid).run sys = .ok (some sys.kproc) sys) :
    (sysWaitpid env pid).run sys = .error (.kassert "proc != kproc") sys := by
  unfold sysWaitpid procWait
  rw [bind_run_ok hfound]
  simp only [bind_assoc]
  rw [bind_run_ok (EStateM.run_get sys)]
  refine bind_run_error ?_ _
  rw [kassert_run, if_neg (by simp)]

lemma procDestroy_kproc (hp : p = sys.kproc) :
    (procDestroy env p).run sys = .error (.kassert "proc != kproc") sys := by
  unfold procDestroy
  rw [bind_run_ok (EStateM.run_get sys)]
  refine bind_run_error ?_ _
  rw [kassert_run, if_neg (by simp [hp])]

lemma WaitsFor.user (h : WaitsFor env pid sys p proc) : p ≠ sys.kproc := by
  rintro rfl
  have hrun : (semP sys.kproc >>= fun _ => reap env sys.kproc).run sys =
      .error (.kassert "proc != kproc") sys := h.waits.symm.trans (sysWaitpid_kproc h.found)
  obtain ⟨count, hsem⟩ := Option.ne_none_iff_exists'.mp h.sem
  cases count with
  | zero =>
    have hP : (semP sys.kproc).run sys = .error .blocked sys := by
      unfold semP
      rw [bind_run_ok (readProc_ok.mpr ⟨h.live, rfl⟩), hsem]
      rfl
    rw [bind_run_error hP] at hrun
    cases hrun
  | succ count =>
    let woken : Proc := { proc with pSem := some count }
    let u := sys.setProcs (update sys.procs sys.kproc (some woken))
    have hP : (semP sys.kproc).run sys = .ok () u := by
      unfold semP
      rw [bind_run_ok (readProc_ok.mpr ⟨h.live, rfl⟩), hsem]
      rfl
    have hu : u.procs sys.kproc = some woken := update_self ..
    have hdestroy : (procDestroy env sys.kproc).run u = .error (.kassert "proc != kproc") u :=
      procDestroy_kproc rfl
    have hreap : (reap env sys.kproc).run u = .error (.kassert "proc != kproc") u := by
      unfold reap
      rw [bind_run_ok (readProc_ok.mpr ⟨hu, rfl⟩)]
      exact bind_run_error hdestroy _
    rw [bind_run_ok hP, hreap] at hrun
    have hsame : u = sys := (EStateM.Result.error.inj hrun).2
    rw [hsame, h.live] at hu
    rw [Option.some.inj hu] at hsem
    exact absurd (Option.some.inj hsem) (Nat.succ_ne_self count).symm

end Waitpid

theorem waitpid_answers_iff (env : Env) (vm : State) (sys : System) (pid : Word)
    (hreach : PidsReach env vm sys) :
    WaitpidAnswers env pid sys ↔ ∃ p proc, sys.procs p = some proc ∧ proc.pPid = pid.toNat ∧
      pid.toNat < MAX_PROC ∧ p ≠ sys.kproc ∧ proc.pSem ≠ none := by
  have h := pids_reach hreach
  constructor
  · rintro (⟨p, proc, hwaits⟩ | ⟨-, hrun⟩)
    · exact ⟨p, proc, hwaits.live, hwaits.named, (procSearchPid_ok hwaits.found).1, hwaits.user,
        hwaits.sem⟩
    -- a lookup that returns has found somebody
    obtain ⟨found, t, hfound, hrest⟩ := bind_ok.mp hrun
    obtain ⟨-, p, rfl, -⟩ := procSearchPid_ok hfound
    obtain ⟨status, u, -, hpure⟩ := bind_ok.mp hrest
    cases (pure_ok.mp hpure).1
  rintro ⟨p, proc, hp, hpid, hlt, huser, hsem⟩
  have hfound := procSearchPid_found h hp hpid hlt
  exact .inl ⟨p, proc, hp, hpid, hfound, hsem, sysWaitpid_user hfound huser⟩

theorem waitpid_rejects_last_pid : PidsReach steadyEnv smallMachine (crowd smallMachine 100) ∧
      (crowd smallMachine 100).procs 100 = some (zeroProc.created 100 true) ∧
      (sysWaitpid steadyEnv 100#32).run (crowd smallMachine 100) =
        .error (.kassert "pid>=0&&pid<MAX_PROC") (crowd smallMachine 100) :=
  ⟨crowd_reach steadyEnv smallMachine (le_refl MAX_PROC), rfl, rfl⟩

theorem waitpid_answers_for_second : ∃ p proc,
    WaitsFor steadyEnv 2#32 (crowd smallMachine 2) p proc := by
  have hreach := crowd_reach steadyEnv smallMachine (by decide : 2 ≤ MAX_PROC)
  rcases (waitpid_answers_iff steadyEnv smallMachine _ 2#32 hreach).mpr
    ⟨2, zeroProc.created 2 true, rfl, rfl, by decide, (by decide : 2 ≠ 1), by decide⟩ with
    hwaits | ⟨hnone, -⟩
  · exact hwaits
  · exact absurd rfl (hnone 2 (zeroProc.created 2 true) rfl)

end Os161.Process
