import Os161.Lib.Run
import Mathlib.Algebra.Order.Group.Multiset
import Mathlib.Data.List.Perm.Subperm

-- thread_consider_migration: the timer interrupt of a CPU moves threads from its own run queue
-- to those of the other CPUs, which go on meanwhile.

namespace Os161.Thread

open Function

structure Cpus (C T : Type) where
  allcpus : List C
  self : C
  curthread : T
  nodup : allcpus.Nodup
  all : ∀ c, c ∈ allcpus

-- The lock of a run queue is held within a phase or not at all, so what a phase does is one step.
inductive Migrating (T : Type) where
  | count (i myCount totalCount : Nat)
  | take (toSend oneShare : Nat)
  | send (i toSend oneShare : Nat) (victims : List T)
  | putBack (oneShare : Nat) (victims : List T)
  | returned

namespace Migrating

variable {T : Type}

def victims : Migrating T → List T
  | .send _ _ _ victims => victims
  | .putBack _ victims => victims
  | _ => []

def oneShare : Migrating T → Nat
  | .take _ oneShare => oneShare
  | .send _ _ oneShare _ => oneShare
  | .putBack oneShare _ => oneShare
  | _ => 0

def remaining (numcpus : Nat) : Migrating T → Nat
  | .count i _ _ => numcpus - i + numcpus + 4
  | .take _ _ => numcpus + 3
  | .send i _ _ _ => numcpus - i + 2
  | .putBack _ _ => 1
  | .returned => 0

end Migrating

-- With what the other CPUs have added to the run queues and taken from them since the call.
structure Balance (C T : Type) where
  runqueue : C → List T
  tCpu : T → C
  phase : Migrating T
  gained : Multiset T
  lost : Multiset T

section Loops

variable {C T : Type}

def takeVictims : Nat → List T → List T → Option (List T × List T)
  | 0, runqueue, victims => some (runqueue, victims)
  | toSend + 1, runqueue, victims =>
    match runqueue.getLast? with
    | none => none
    | some t => takeVictims toSend runqueue.dropLast (t :: victims)

structure Sending (C T : Type) where
  runqueue : List T
  tCpu : T → C
  victims : List T
  toSend : Nat

def sendVictims [DecidableEq T] (curthread : T) (c : C) (oneShare : Nat) :
    Nat → List T → (T → C) → List T → Option (Sending C T)
  | 0, runqueue, tCpu, victims => some ⟨runqueue, tCpu, victims, 0⟩
  | toSend + 1, runqueue, tCpu, victims =>
    if runqueue.length < oneShare then
      match victims with
      | [] => none
      | t :: rest =>
        if t = curthread then
          sendVictims curthread c oneShare toSend runqueue tCpu (rest ++ [t])
        else
          sendVictims curthread c oneShare toSend (runqueue ++ [t])
            (update tCpu t c) rest
    else some ⟨runqueue, tCpu, victims, toSend + 1⟩

def putBackVictims : List T → List T → List T × List T
  | runqueue, [] => (runqueue, [])
  | runqueue, t :: rest => putBackVictims (runqueue ++ [t]) rest

end Loops

namespace Cpus

variable {C T : Type}

def queued (k : Cpus C T) (runqueue : C → List T) : Multiset T := k.allcpus.flatMap runqueue

def runnable (k : Cpus C T) (s : Balance C T) : Multiset T :=
  k.queued s.runqueue + (s.phase.victims : Multiset T)

def numcpus (k : Cpus C T) : Nat := k.allcpus.length

def oneShare (k : Cpus C T) (totalCount : Nat) : Nat := (totalCount + k.numcpus - 1) / k.numcpus

variable [DecidableEq C] [DecidableEq T]

def sample (k : Cpus C T) (s : Balance C T) (c : C) (i myCount totalCount : Nat) : Migrating T :=
  .count (i + 1) (if c = k.self then (s.runqueue c).length else myCount)
    (totalCount + (s.runqueue c).length)

def plan (k : Cpus C T) (myCount totalCount : Nat) : Migrating T :=
  if myCount < k.oneShare totalCount then .returned
  else .take (myCount - k.oneShare totalCount) (k.oneShare totalCount)

def sendTo (k : Cpus C T) (s : Balance C T) (c : C) (i toSend oneShare : Nat) (victims : List T) :
    Option (Balance C T) :=
  if c = k.self then some { s with phase := .send (i + 1) toSend oneShare victims }
  else
    (sendVictims k.curthread c oneShare toSend (s.runqueue c) s.tCpu victims).map fun r =>
      { s with
        runqueue := update s.runqueue c r.runqueue
        tCpu := r.tCpu
        phase := .send (i + 1) r.toSend oneShare r.victims }

-- A step of the function. There is none where it would follow a NULL or fail the assertion at
-- its end.
def next (k : Cpus C T) (s : Balance C T) : Option (Balance C T) :=
  match s.phase with
  | .count i myCount totalCount =>
    match k.allcpus[i]? with
    | none => some { s with phase := k.plan myCount totalCount }
    | some c => some { s with phase := k.sample s c i myCount totalCount }
  | .take toSend oneShare =>
    (takeVictims toSend (s.runqueue k.self) []).map fun r =>
      { s with
        runqueue := update s.runqueue k.self r.1
        phase := .send 0 toSend oneShare r.2 }
  | .send i toSend oneShare victims =>
    match k.allcpus[i]? with
    | none => some { s with phase := .putBack oneShare victims }
    | some c =>
      if toSend = 0 then some { s with phase := .putBack oneShare victims }
      else k.sendTo s c i toSend oneShare victims
  | .putBack _ victims =>
    if (putBackVictims (s.runqueue k.self) victims).2 = [] then
      some { s with
        runqueue := update s.runqueue k.self
          (putBackVictims (s.runqueue k.self) victims).1
        phase := .returned }
    else none
  | .returned => some s

-- What the other CPUs do between two steps: anything with their own run queues, while that of
-- this CPU only grows. They keep t_cpu right and do not know of the victims.
structure Interferes (k : Cpus C T) (s t : Balance C T) : Prop where
  phase : t.phase = s.phase
  grows : (s.runqueue k.self).Subperm (t.runqueue k.self)
  placed : ∀ c, ∀ x ∈ t.runqueue c, t.tCpu x = c
  victims : ∀ x ∈ s.phase.victims, t.tCpu x = s.tCpu x
  apart : (k.runnable t).Nodup
  ledger : ∃ gained lost, t.gained = s.gained + gained ∧ t.lost = s.lost + lost ∧
    k.queued t.runqueue + lost = k.queued s.runqueue + gained

inductive Step (k : Cpus C T) : Balance C T → Balance C T → Prop
  | own {s t : Balance C T} : k.next s = some t → Step k s t
  | others {s t : Balance C T} : k.Interferes s t → Step k s t

structure Start (k : Cpus C T) (s : Balance C T) : Prop where
  phase : s.phase = .count 0 0 0
  placed : ∀ c, ∀ x ∈ s.runqueue c, s.tCpu x = c
  apart : (k.queued s.runqueue).Nodup
  gained : s.gained = 0
  lost : s.lost = 0

end Cpus

section Loops

variable {C T : Type}

lemma takeVictims_spec (toSend : Nat) : ∀ (runqueue victims : List T),
    toSend ≤ runqueue.length → ∃ rest taken,
      takeVictims toSend runqueue victims = some (rest, taken ++ victims) ∧
        runqueue = rest ++ taken ∧ taken.length = toSend := by
  induction toSend with
  | zero =>
    intro runqueue victims _
    exact ⟨runqueue, [], rfl, (List.append_nil _).symm, rfl⟩
  | succ toSend ih =>
    intro runqueue victims hle
    have hne : runqueue ≠ [] := by
      rintro rfl
      exact Nat.not_succ_le_zero _ hle
    obtain ⟨rest, taken, hrun, hsplit, hlen⟩ :=
      ih runqueue.dropLast (runqueue.getLast hne :: victims)
        (by rw [List.length_dropLast]; omega)
    refine ⟨rest, taken ++ [runqueue.getLast hne], ?_, ?_, ?_⟩
    · rw [takeVictims, List.getLast?_eq_some_getLast hne]
      rw [List.append_assoc]
      exact hrun
    · rw [← List.append_assoc, ← hsplit, List.dropLast_append_getLast]
    · rw [List.length_append, hlen]
      rfl

structure Sent [DecidableEq T] (curthread : T) (c : C) (oneShare : Nat) (runqueue : List T)
    (tCpu : T → C) (victims moved : List T) (r : Sending C T) : Prop where
  runqueue : r.runqueue = runqueue ++ moved
  victims : (moved ++ r.victims).Perm victims
  cur : curthread ∉ moved
  tCpu : ∀ t, r.tCpu t = if t ∈ moved then c else tCpu t
  fits : moved = [] ∨ r.runqueue.length ≤ oneShare
  enough : r.toSend ≤ r.victims.length

lemma sendVictims_spec [DecidableEq T] (curthread : T) (c : C) (oneShare toSend : Nat) :
    ∀ (runqueue : List T) (tCpu : T → C) (victims : List T), toSend ≤ victims.length →
      ∃ r moved, sendVictims curthread c oneShare toSend runqueue tCpu victims = some r ∧
        Sent curthread c oneShare runqueue tCpu victims moved r := by
  induction toSend with
  | zero =>
    intro runqueue tCpu victims _
    exact ⟨_, [], rfl, (List.append_nil _).symm, .refl _, List.not_mem_nil,
      fun _ => (if_neg List.not_mem_nil).symm, .inl rfl, Nat.zero_le _⟩
  | succ toSend ih =>
    intro runqueue tCpu victims hle
    cases victims with
    | nil => exact absurd hle (Nat.not_succ_le_zero _)
    | cons t rest =>
      rw [sendVictims]
      by_cases hroom : runqueue.length < oneShare
      · rw [if_pos hroom]
        have hle : toSend ≤ rest.length := Nat.le_of_succ_le_succ hle
        by_cases hcur : t = curthread
        · -- curthread goes to the end of the victims and counts as sent
          rw [if_pos hcur]
          obtain ⟨r, moved, hrun, hsent⟩ := ih runqueue tCpu (rest ++ [t])
            (by rw [List.length_append]; omega)
          exact ⟨r, moved, hrun, hsent.runqueue,
            hsent.victims.trans (List.perm_append_singleton t rest), hsent.cur, hsent.tCpu,
            hsent.fits, hsent.enough⟩
        rw [if_neg hcur]
        obtain ⟨r, moved, hrun, hsent⟩ := ih (runqueue ++ [t])
          (update tCpu t c) rest hle
        refine ⟨r, t :: moved, hrun, ?_, hsent.victims.cons t, ?_, fun x => ?_, .inr ?_,
          hsent.enough⟩
        · rw [hsent.runqueue, List.append_assoc]
          rfl
        · rw [List.mem_cons, not_or]
          exact ⟨Ne.symm hcur, hsent.cur⟩
        · rw [hsent.tCpu x]
          by_cases hx : x ∈ moved
          · rw [if_pos hx, if_pos (List.mem_cons_of_mem t hx)]
          rw [if_neg hx]
          by_cases hxt : x = t
          · rw [hxt, update_self, if_pos List.mem_cons_self]
          rw [update_of_ne hxt, if_neg]
          rw [List.mem_cons, not_or]
          exact ⟨hxt, hx⟩
        rcases hsent.fits with hnil | hfits
        · rw [hsent.runqueue, hnil, List.append_nil, List.length_append]
          exact hroom
        · exact hfits
      rw [if_neg hroom]
      exact ⟨_, [], rfl, (List.append_nil _).symm, .refl _, List.not_mem_nil,
        fun _ => (if_neg List.not_mem_nil).symm, .inl rfl, hle⟩

lemma putBackVictims_eq (victims : List T) : ∀ runqueue : List T,
    putBackVictims runqueue victims = (runqueue ++ victims, []) := by
  induction victims with
  | nil =>
    intro runqueue
    rw [List.append_nil]
    rfl
  | cons t rest ih =>
    intro runqueue
    rw [putBackVictims, ih, List.append_assoc]
    rfl

end Loops

namespace Cpus

variable {C T : Type}

lemma mem_queued {k : Cpus C T} (h : x ∈ runqueue c) :
    x ∈ k.queued runqueue :=
  Multiset.mem_coe.mpr (List.mem_flatMap.mpr ⟨c, k.all c, h⟩)

variable [DecidableEq C]

lemma flatMap_update {cpus : List C} (hnodup : cpus.Nodup) (hc : c ∈ cpus)
    (runqueue : C → List T) (added : List T) :
    (cpus.flatMap (update runqueue c (runqueue c ++ added)) : Multiset T) =
      (cpus.flatMap runqueue : Multiset T) + (added : Multiset T) := by
  induction cpus with
  | nil => cases hc
  | cons d rest ih =>
    obtain ⟨hd, hrest⟩ := List.nodup_cons.mp hnodup
    rw [List.flatMap_cons, List.flatMap_cons, ← Multiset.coe_add, ← Multiset.coe_add]
    by_cases hdc : d = c
    · subst hdc
      have hsame : rest.flatMap (update runqueue d (runqueue d ++ added)) =
          rest.flatMap runqueue := by
        refine List.flatMap_congr fun x hx => update_of_ne ?_ _ _
        rintro rfl
        exact hd hx
      rw [hsame, update_self, ← Multiset.coe_add]
      ac_rfl
    have hc' : c ∈ rest := (List.mem_cons.mp hc).resolve_left (Ne.symm hdc)
    rw [update_of_ne hdc, ih hrest hc']
    ac_rfl

lemma queued_append (k : Cpus C T) (runqueue : C → List T) (c : C) (added : List T) :
    k.queued (update runqueue c (runqueue c ++ added)) = k.queued runqueue + (added : Multiset T) :=
  flatMap_update k.nodup (k.all c) runqueue added

lemma queued_split (k : Cpus C T) {rest taken : List T}
    (h : runqueue c = rest ++ taken) :
    k.queued runqueue = k.queued (update runqueue c rest) + (taken : Multiset T) := by
  have happend := k.queued_append (update runqueue c rest) c taken
  rw [update_self, update_idem, ← h, update_eq_self] at happend
  exact happend

end Cpus

end Os161.Thread
