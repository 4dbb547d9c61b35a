import Os161.Thread.Migration

namespace Os161.Thread

open Function Lib.Run

def Migrating.Enough {T : Type} (runqueue : List T) : Migrating T → Prop
  | .count _ myCount _ => myCount ≤ runqueue.length
  | .take toSend _ => toSend ≤ runqueue.length
  | .send _ toSend _ victims => toSend ≤ victims.length
  | _ => True

lemma Migrating.Enough.grows {T : Type} {phase : Migrating T} {runqueue runqueue' : List T}
    (h : phase.Enough runqueue) (hgrows : runqueue.Subperm runqueue') : phase.Enough runqueue' := by
  cases phase with
  | count | take => exact Nat.le_trans h hgrows.length_le
  | send => exact h
  | putBack | returned => trivial

namespace Cpus

variable {C T : Type}

structure Good (k : Cpus C T) (start : Multiset T) (s : Balance C T) : Prop where
  placed : ∀ c, ∀ x ∈ s.runqueue c, s.tCpu x = c
  held : ∀ x ∈ s.phase.victims, s.tCpu x = k.self
  apart : (k.runnable s).Nodup
  ledger : k.runnable s + s.lost = start + s.gained
  enough : s.phase.Enough (s.runqueue k.self)

structure Own (k : Cpus C T) (s t : Balance C T) : Prop where
  placed : ∀ c, ∀ x ∈ t.runqueue c, t.tCpu x = c
  held : ∀ x ∈ t.phase.victims, t.tCpu x = k.self
  runnable : k.runnable t = k.runnable s
  gained : t.gained = s.gained
  lost : t.lost = s.lost
  enough : t.phase.Enough (t.runqueue k.self)
  remaining : s.phase ≠ .returned → t.phase.remaining k.numcpus < s.phase.remaining k.numcpus
  cur : ∀ c ≠ k.self, k.curthread ∈ t.runqueue c → k.curthread ∈ s.runqueue c
  share : ∀ c ≠ k.self, t.runqueue c = s.runqueue c ∨ (t.runqueue c).length ≤ s.phase.oneShare

variable {k : Cpus C T} {s t : Balance C T} {start : Multiset T}

lemma Good.own_phase (h : k.Good start s) (hvictims : phase.victims = s.phase.victims)
    (henough : phase.Enough (s.runqueue k.self))
    (hless : phase.remaining k.numcpus < s.phase.remaining k.numcpus) :
    k.Own s { s with phase } := by
  refine ⟨h.placed, fun x hx => h.held x (hvictims ▸ hx), ?_, rfl, rfl, henough, fun _ => hless,
    fun _ _ hx => hx, fun _ _ => .inl rfl⟩
  show k.queued s.runqueue + (phase.victims : Multiset T) = _
  rw [hvictims]
  rfl

variable {c : C} {oneShare : Nat}

lemma Good.victims_apart (h : k.Good start s) (hx : x ∈ s.runqueue c) :
    x ∉ s.phase.victims := fun hvictim =>
  Multiset.disjoint_left.mp (Multiset.nodup_add.mp h.apart).2.2 (mem_queued hx)
    (Multiset.mem_coe.mpr hvictim)

lemma Own.good (h : k.Good start s) (hown : k.Own s t) : k.Good start t := by
  refine ⟨hown.placed, hown.held, hown.runnable ▸ h.apart, ?_, hown.enough⟩
  rw [hown.runnable, hown.lost, hown.gained]
  exact h.ledger

lemma Interferes.good (h : k.Good start s) (hother : k.Interferes s t) : k.Good start t := by
  obtain ⟨gained, lost, hgained, hlost, hqueued⟩ := hother.ledger
  have hvictims : t.phase.victims = s.phase.victims := by rw [hother.phase]
  refine ⟨hother.placed, fun x hx => ?_, hother.apart, ?_, ?_⟩
  · rw [hvictims] at hx
    rw [hother.victims x hx]
    exact h.held x hx
  · have hledger := h.ledger
    rw [Cpus.runnable] at hledger ⊢
    rw [hvictims, hgained, hlost]
    calc k.queued t.runqueue + (s.phase.victims : Multiset T) + (s.lost + lost)
        = k.queued t.runqueue + lost + ((s.phase.victims : Multiset T) + s.lost) := by ac_rfl
      _ = k.queued s.runqueue + gained + ((s.phase.victims : Multiset T) + s.lost) := by
          rw [hqueued]
      _ = k.queued s.runqueue + (s.phase.victims : Multiset T) + s.lost + gained := by ac_rfl
      _ = start + (s.gained + gained) := by rw [hledger, Multiset.add_assoc]
  · rw [hother.phase]
    exact Migrating.Enough.grows h.enough hother.grows

lemma Start.good (h : k.Start s) : k.Good (k.queued s.runqueue) s := by
  have hvictims : s.phase.victims = [] := by rw [h.phase]; rfl
  have hrunnable : k.runnable s = k.queued s.runqueue := by
    rw [Cpus.runnable, hvictims]
    exact Multiset.add_zero _
  refine ⟨h.placed, fun x hx => ?_, hrunnable ▸ h.apart, ?_, ?_⟩
  · rw [hvictims] at hx
    cases hx
  · rw [hrunnable, h.gained, h.lost]
  · rw [h.phase]
    exact Nat.zero_le _

lemma plan_victims (k : Cpus C T) (myCount totalCount : Nat) :
    (k.plan myCount totalCount).victims = [] := by
  unfold plan
  split <;> rfl

lemma plan_enough (k : Cpus C T) (totalCount : Nat) (h : myCount ≤ runqueue.length) :
    (k.plan myCount totalCount).Enough runqueue := by
  unfold plan
  split
  · trivial
  · exact Nat.le_trans (Nat.sub_le _ _) h

lemma plan_remaining (k : Cpus C T) (myCount totalCount : Nat) :
    (k.plan myCount totalCount).remaining k.numcpus ≤ k.numcpus + 3 := by
  unfold plan
  split
  · exact Nat.zero_le _
  · exact Nat.le_refl _

variable [DecidableEq C] [DecidableEq T]

section

variable (h : k.Good start s)

include h

lemma Good.count (hphase : s.phase = .count i myCount totalCount) :
    ∃ t, k.next s = some t ∧ k.Own s t := by
  have henough := h.enough
  rw [hphase] at henough
  have hvictims : s.phase.victims = [] := by rw [hphase]; rfl
  rw [next, hphase]
  simp only
  cases hc : k.allcpus[i]? with
  | none =>
    refine ⟨_, rfl, h.own_phase ?_ (plan_enough k totalCount henough) ?_⟩
    · rw [plan_victims, hvictims]
    refine Nat.lt_of_le_of_lt (plan_remaining k _ _) ?_
    rw [hphase, Migrating.remaining]
    omega
  | some c =>
    obtain ⟨hi, -⟩ := List.getElem?_eq_some_iff.mp hc
    have hi : i < k.numcpus := hi
    refine ⟨_, rfl, h.own_phase hvictims.symm ?_ ?_⟩
    · show (if c = k.self then (s.runqueue c).length else myCount) ≤ _
      split
      · rename_i hself
        rw [hself]
      · exact henough
    · rw [hphase, sample, Migrating.remaining, Migrating.remaining]
      omega

lemma Good.take (hphase : s.phase = .take toSend oneShare) :
    ∃ t, k.next s = some t ∧ k.Own s t := by
  have henough := h.enough
  rw [hphase] at henough
  obtain ⟨rest, taken, hrun, hsplit, hlen⟩ := takeVictims_spec toSend _ [] henough
  rw [List.append_nil] at hrun
  rw [next, hphase]
  simp only [hrun, Option.map_some]
  refine ⟨_, rfl, fun c x hx => ?_, fun x hx => ?_, ?_, rfl, rfl, Nat.le_of_eq hlen.symm,
    fun _ => ?_, fun c hc hx => ?_, fun c hc => .inl (update_of_ne hc _ _)⟩
  · have hx : x ∈ update s.runqueue k.self rest c := hx
    refine h.placed c x ?_
    by_cases hc : c = k.self
    · rw [hc, update_self] at hx
      rw [hc, hsplit]
      exact List.mem_append_left _ hx
    · rwa [update_of_ne hc] at hx
  · refine h.placed k.self x ?_
    rw [hsplit]
    exact List.mem_append_right _ hx
  · show k.queued (update s.runqueue k.self rest) + (taken : Multiset T) = _
    rw [← k.queued_split hsplit, Cpus.runnable, hphase]
    exact (Multiset.add_zero _).symm
  · rw [hphase, Migrating.remaining, Migrating.remaining]
    omega
  · exact (update_of_ne hc _ _ : update s.runqueue k.self rest c = _) ▸ hx

lemma Good.sendTo (hphase : s.phase = .send i toSend oneShare victims) (hi : i < k.numcpus) :
    ∃ t, k.sendTo s c i toSend oneShare victims = some t ∧ k.Own s t := by
  have henough := h.enough
  rw [hphase] at henough
  have hless : k.numcpus - (i + 1) + 2 < k.numcpus - i + 2 := by omega
  rw [Cpus.sendTo]
  by_cases hself : c = k.self
  · rw [if_pos hself]
    refine ⟨_, rfl, h.own_phase ?_ henough ?_⟩
    · rw [hphase]
      rfl
    · rw [hphase]
      exact hless
  rw [if_neg hself]
  obtain ⟨r, moved, hrun, hsent⟩ := sendVictims_spec k.curthread c oneShare toSend
    (s.runqueue c) s.tCpu victims henough
  have hqueue := hsent.runqueue
  have hnodup : (moved ++ r.victims).Nodup := by
    have hvictims := (Multiset.nodup_add.mp h.apart).2.1
    rw [hphase] at hvictims
    exact hsent.victims.nodup_iff.mpr (Multiset.coe_nodup.mp hvictims)
  have hvictim : ∀ x, x ∈ moved ∨ x ∈ r.victims → x ∈ s.phase.victims := by
    intro x hx
    rw [hphase]
    exact hsent.victims.mem_iff.mp (List.mem_append.mpr hx)
  rw [hrun, Option.map_some]
  refine ⟨_, rfl, fun d x hx => ?_, fun x hx => ?_, ?_, rfl, rfl, hsent.enough, fun _ => ?_,
    fun d hd hx => ?_, fun d hd => ?_⟩
  · have hx : x ∈ update s.runqueue c r.runqueue d := hx
    show r.tCpu x = d
    rw [hsent.tCpu]
    by_cases hd : d = c
    · rw [hd, update_self, hqueue] at hx
      by_cases hmoved : x ∈ moved
      · rw [if_pos hmoved, hd]
      · rw [if_neg hmoved, hd]
        exact h.placed c x ((List.mem_append.mp hx).resolve_right hmoved)
    rw [update_of_ne hd] at hx
    rw [if_neg fun hmoved => h.victims_apart hx (hvictim x (.inl hmoved))]
    exact h.placed d x hx
  · have hx : x ∈ r.victims := hx
    show r.tCpu x = k.self
    rw [hsent.tCpu, if_neg fun hmoved => (List.disjoint_of_nodup_append hnodup) hmoved hx]
    exact h.held x (hvictim x (.inr hx))
  · show k.queued (update s.runqueue c r.runqueue) + (r.victims : Multiset T) = _
    rw [hqueue, queued_append, Cpus.runnable, hphase, Multiset.add_assoc, Multiset.coe_add,
      Multiset.coe_eq_coe.mpr hsent.victims]
    rfl
  · rw [hphase]
    exact hless
  · have hx : k.curthread ∈ update s.runqueue c r.runqueue d := hx
    by_cases hdc : d = c
    · rw [hdc, update_self, hqueue] at hx
      rw [hdc]
      exact (List.mem_append.mp hx).resolve_right hsent.cur
    · rwa [update_of_ne hdc] at hx
  show update s.runqueue c r.runqueue d = _ ∨
    (update s.runqueue c r.runqueue d).length ≤ _
  by_cases hdc : d = c
  · rw [hdc, update_self, hphase]
    refine hsent.fits.imp_left fun hnil => ?_
    rw [hqueue, hnil, List.append_nil]
  · exact .inl (update_of_ne hdc _ _)

lemma Good.send (hphase : s.phase = .send i toSend oneShare victims) :
    ∃ t, k.next s = some t ∧ k.Own s t := by
  have hback : k.Own s { s with phase := .putBack oneShare victims } := by
    refine h.own_phase ?_ trivial ?_
    · rw [hphase]
      rfl
    · rw [hphase, Migrating.remaining, Migrating.remaining]
      omega
  rw [next, hphase]
  simp only
  cases hc : k.allcpus[i]? with
  | none => exact ⟨_, rfl, hback⟩
  | some c =>
    obtain ⟨hi, -⟩ := List.getElem?_eq_some_iff.mp hc
    simp only
    by_cases hzero : toSend = 0
    · rw [if_pos hzero]
      exact ⟨_, rfl, hback⟩
    · rw [if_neg hzero]
      exact h.sendTo hphase hi

lemma Good.putBack (hphase : s.phase = .putBack oneShare victims) :
    ∃ t, k.next s = some t ∧ k.Own s t := by
  rw [next, hphase]
  simp only [putBackVictims_eq, if_true]
  refine ⟨_, rfl, fun c x hx => ?_, fun x hx => ?_, ?_, rfl, rfl, trivial, fun _ => ?_,
    fun c hc hx => ?_, fun c hc => .inl (update_of_ne hc _ _)⟩
  · have hx : x ∈ update s.runqueue k.self (s.runqueue k.self ++ victims) c := hx
    by_cases hc : c = k.self
    · rw [hc, update_self] at hx
      rw [hc]
      rcases List.mem_append.mp hx with hx | hx
      · exact h.placed _ x hx
      · exact h.held x (by rw [hphase]; exact hx)
    · rw [update_of_ne hc] at hx
      exact h.placed c x hx
  · cases hx
  · show k.queued (update s.runqueue k.self (s.runqueue k.self ++ victims)) + 0 = _
    rw [queued_append, Cpus.runnable, hphase]
    exact Multiset.add_zero _
  · rw [hphase]
    exact Nat.one_pos
  · have hx : k.curthread ∈ update s.runqueue k.self _ c := hx
    rwa [update_of_ne hc] at hx

lemma Good.own : ∃ t, k.next s = some t ∧ k.Own s t := by
  cases hphase : s.phase with
  | count i myCount totalCount => exact h.count hphase
  | take toSend oneShare => exact h.take hphase
  | send i toSend oneShare victims => exact h.send hphase
  | putBack oneShare victims => exact h.putBack hphase
  | returned =>
    refine ⟨s, ?_, h.placed, h.held, rfl, rfl, rfl, h.enough, fun hne => absurd hphase hne,
      fun _ _ hx => hx, fun _ _ => .inl rfl⟩
    rw [next, hphase]

end

-- Whatever the other CPUs do, no thread is lost or doubled, t_cpu of a queued thread is right,
-- and no list is empty when something is taken from it. curthread stays, and no CPU gets more
-- than its share.
theorem migration_conserves {s₀ : Balance C T} (hstart : k.Start s₀)
    (hrun : Relation.ReflTransGen k.Step s₀ s) :
    (∀ c, ∀ x ∈ s.runqueue c, s.tCpu x = c) ∧
      k.runnable s + s.lost = k.queued s₀.runqueue + s.gained ∧
      (s.phase = .returned → k.runnable s = k.queued s.runqueue) ∧
      ∃ t, k.next s = some t ∧ k.runnable t = k.runnable s ∧
        (s.phase ≠ .returned → t.phase.remaining k.numcpus < s.phase.remaining k.numcpus) ∧
        ∀ c ≠ k.self, (k.curthread ∈ t.runqueue c → k.curthread ∈ s.runqueue c) ∧
          (t.runqueue c = s.runqueue c ∨ (t.runqueue c).length ≤ s.phase.oneShare) := by
  have hstep : ∀ u v, k.Good (k.queued s₀.runqueue) u → k.Step u v →
      k.Good (k.queued s₀.runqueue) v := by
    intro u v hu huv
    cases huv with
    | own hnext =>
      obtain ⟨w, hw, hown⟩ := hu.own
      rw [hnext] at hw
      cases hw
      exact Own.good hu hown
    | others hother => exact Interferes.good hu hother
  have hgood := invariant hstep hstart.good hrun
  obtain ⟨t, hnext, hown⟩ := hgood.own
  refine ⟨hgood.placed, hgood.ledger, fun hphase => ?_, t, hnext, hown.runnable, hown.remaining,
    fun c hc => ⟨hown.cur c hc, hown.share c hc⟩⟩
  rw [Cpus.runnable, hphase]
  exact Multiset.add_zero _

def pair : Cpus Bool Nat := ⟨[false, true], false, 3, by decide, by decide⟩

def crowded : Balance Bool Nat where
  runqueue c := if c then [] else [1, 2, 3, 4]
  tCpu _ := false
  phase := .count 0 0 0
  gained := 0
  lost := 0

lemma crowded_start : pair.Start crowded := by
  refine ⟨rfl, fun c x hx => ?_, by decide, rfl, rfl⟩
  cases c with
  | false => rfl
  | true => cases hx

theorem migration_of_crowded : ∃ s : Balance Bool Nat,
    s.phase = .returned ∧ s.runqueue false = [1, 2, 3] ∧ s.runqueue true = [4] ∧
      (∀ c, ∀ x ∈ s.runqueue c, s.tCpu x = c) ∧
      pair.runnable s + s.lost = pair.queued crowded.runqueue + s.gained ∧
      (s.phase = .returned → pair.runnable s = pair.queued s.runqueue) ∧
      ∃ t, pair.next s = some t ∧ pair.runnable t = pair.runnable s ∧
        (s.phase ≠ .returned → t.phase.remaining pair.numcpus < s.phase.remaining pair.numcpus) ∧
        ∀ c ≠ pair.self, (pair.curthread ∈ t.runqueue c → pair.curthread ∈ s.runqueue c) ∧
          (t.runqueue c = s.runqueue c ∨ (t.runqueue c).length ≤ s.phase.oneShare) := by
  have hcounted := ((Relation.ReflTransGen.refl (r := pair.Step) (a := crowded)).tail
    (.own rfl)).tail (.own rfl)
  have htaken := (hcounted.tail (.own rfl)).tail (.own rfl)
  have hsent := ((htaken.tail (.own rfl)).tail (.own rfl)).tail (.own rfl)
  exact ⟨_, rfl, rfl, rfl, migration_conserves crowded_start (hsent.tail (.own rfl))⟩

end Cpus

end Os161.Thread
