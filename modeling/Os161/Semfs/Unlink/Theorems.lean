import Os161.Lib.Run
import Os161.Semfs.Unlink

namespace Os161.Semfs.Unlink

open Function Lib Lib.Threads Bool List Option Pc

variable {T : Type} [DecidableEq T]

section Annotation

def Pc.holds : Pc → Lock → Bool
  | .rmFind, .dir | .rmGetTable, .dir | .rmLock, .dir | .rmDestroy, .dir | .rmDent, .dir => true
  | .rmUndir, .dir | .luFind, .dir | .luTable, .dir | .luUndir, .dir => true
  | .rmGet, .dir | .rmGet, .table | .rmGetUntable, .dir | .rmGetUntable, .table => true
  | .rmUnlink, .dir | .rmUnlink, .sem | .rmTest, .dir | .rmTest, .sem => true
  | .rmTable, .dir | .rmTable, .sem | .rmUnlock _, .dir | .rmUnlock _, .sem => true
  | .rmSlot, _ | .rmUntable, _ => true
  | .luGet, .dir | .luGet, .table | .luUntable, .dir | .luUntable, .table => true
  | .clCount, .table | .clTake, .table | .clFlag, .table | .clTest, .table => true
  | .clSlot, .table | .clDestroy, .table | .clUntable, .table => true
  | _, _ => false

def unlinkHolds (pc : Pc) (l : Lock) : Prop := pc.holds l = true

def unlinkWaits (_ : Pc) : Option Unit := none

lemma enter_holds {d : Data T} {choice : Choice} {k : Pc}
    (h : enter t d choice = some k) (l : Lock) : k.holds l = false := by
  cases choice with
  | remove | lookup =>
    cases h
    rfl
  | close =>
    rw [enter] at h
    split at h
    · cases h
      rfl
    · cases h
  | noMemory => cases h

omit [DecidableEq T] in
lemma getvnode_holds (t : T) (choice : Choice) (d : Data T) (l : Lock) :
    (getvnode t choice d).2.holds l = Pc.luGet.holds l := by
  rw [getvnode]
  split_ifs <;> cases l <;> rfl

lemma code_respects (t : T) (pc : Pc) : (code t pc).Respects unlinkHolds unlinkWaits pc := by
  have hact : ∀ {pc : Pc} {f : Choice → Data T → Data T × Pc},
      (∀ choice d l, (f choice d).2.holds l = pc.holds l) →
      (Instr.act fun choice d => some (f choice d) : Instruction T).Respects unlinkHolds
        unlinkWaits pc := by
    intro pc f hf choice d d' k hk m
    have hf' := hf choice d m
    rw [some.inj hk] at hf'
    rw [unlinkHolds, unlinkHolds, hf']
  have hto : ∀ {pc k : Pc} {f : Choice → Data T → Data T}, (∀ l, k.holds l = pc.holds l) →
      (Instr.act fun choice d => some (f choice d, k) : Instruction T).Respects unlinkHolds
        unlinkWaits pc := fun hk => hact fun _ _ l => hk l
  cases pc with
  | outside =>
    intro choice d d' k hk m
    obtain ⟨k', hk', heq⟩ := map_eq_some_iff.mp hk
    cases heq
    have houtside : Pc.outside.holds m = false := by cases m <;> rfl
    rw [unlinkHolds, unlinkHolds, enter_holds hk', houtside]
  | luGet => exact hact fun choice d l => getvnode_holds t choice d l
  | rmFind | rmGet | rmUnlink | rmTest | luFind | clDecref | clCount | clFlag | clTest =>
    exact hact fun _ d l => by split <;> cases l <;> rfl
  | rmSlot | rmDestroy | rmDent | clTake | clSlot | clDestroy =>
    exact hto fun l => by cases l <;> rfl
  | rmUnlock destroy =>
    cases destroy <;>
      exact ⟨by simp [unlinkHolds, Pc.holds], fun m => by cases m <;> simp [unlinkHolds, Pc.holds]⟩
  | _ =>
    exact ⟨by simp [unlinkHolds, Pc.holds], fun m => by cases m <;> simp [unlinkHolds, Pc.holds]⟩

omit [DecidableEq T] in
lemma linkedSem_fresh (owners : List T) : (linkedSem owners).Fresh unlinkHolds where
  holder := fun _ => rfl
  holds := fun _ _ => Bool.false_ne_true
  asleep := fun _ => rfl
  chan := fun _ => rfl

end Annotation

section Invariant

-- From the unlinking to the removal of the entry; about to destroy the semaphore; about to find
-- that it is to be destroyed.
def Pc.mid : Pc → Bool
  | .rmTest | .rmTable | .rmSlot | .rmUntable | .rmUnlock _ | .rmDestroy | .rmDent => true
  | _ => false

def Pc.rmDrops : Pc → Bool
  | .rmUntable | .rmUnlock true | .rmDestroy => true
  | _ => false

def Pc.drops (pc : Pc) : Bool := pc.rmDrops || pc = .clDestroy

def Pc.dooms : Pc → Bool
  | .rmTest | .rmTable | .rmSlot | .clTest | .clSlot => true
  | _ => false

def Pc.Fits (t : T) (d : Data T) : Pc → Prop
  | .rmGetTable | .rmGet | .rmGetUntable | .rmLock | .rmUnlink | .luTable | .luGet =>
    d.linked = true
  | .rmTest | .rmUnlock false | .rmDent => d.linked = false ∧ d.dent = true
  | .rmTable => d.linked = false ∧ d.dent = true ∧ d.hasvnode = false
  | .rmSlot => d.linked = false ∧ d.dent = true ∧ d.hasvnode = false ∧ d.slot = true
  | .rmUntable | .rmUnlock true | .rmDestroy =>
    d.linked = false ∧ d.dent = true ∧ d.hasvnode = false ∧ d.slot = false
  | .clDecref | .clTable | .clCount => t ∈ d.owners
  | .clTake => d.owners = [t]
  | .clFlag => d.hasvnode = true ∧ d.vnode = false
  | .clTest => d.hasvnode = false ∧ d.slot = true
  | .clSlot => d.hasvnode = false ∧ d.slot = true ∧ d.linked = false
  | .clDestroy => d.hasvnode = false ∧ d.slot = false ∧ d.linked = false
  | _ => True

structure Shape (d : Data T) : Prop where
  dent : d.linked = true → d.dent = true
  linked : d.linked = true → d.slot = true
  hasvnode : d.hasvnode = true → d.slot = true
  slot : d.slot = true → d.destroyed = 0
  once : d.destroyed ≤ 1
  vnode : d.vnode = true → d.hasvnode = true
  owners : d.vnode = true ↔ d.owners ≠ []
  runs : d.crashed = false

structure Inv (s : UnlinkState T) : Prop where
  fits : ∀ t, (s.pc t).Fits t s.data
  shape : Shape s.data
  mid : s.data.dent = true ∧ s.data.linked = false → ∃ t, (s.pc t).mid = true
  null : s.data.slot = false ∧ s.data.destroyed = 0 → ∃ t, (s.pc t).drops = true
  flag : s.data.hasvnode = true ∧ s.data.vnode = false → ∃ t, s.pc t = .clFlag
  doomed : s.data.linked = false ∧ s.data.hasvnode = false ∧ s.data.slot = true →
    ∃ t, (s.pc t).dooms = true
  apart : ∀ t u, (s.pc t).rmDrops = true → s.pc u ≠ .clDestroy
  alive : ∀ t, (s.pc t).uses = true → s.data.destroyed = 0

variable {s s' : UnlinkState T} {t : T} {k : Pc}

omit [DecidableEq T] in
lemma Inv.sound (h : Inv s) : Sound s := by
  have hdestroyed : s.data.slot = false → (∀ t, (s.pc t).uses = false) → s.data.destroyed = 1 := by
    intro hslot hquiet
    by_contra hne
    have honce := h.shape.once
    obtain ⟨t, ht⟩ := h.null ⟨hslot, by omega⟩
    have hidle := hquiet t
    revert ht hidle
    cases s.pc t <;> simp [drops, rmDrops, uses]
  refine ⟨h.shape.once, fun hpos => ?_, fun hpos t => ?_, h.shape.runs,
    fun hquiet hlinked hhas => ?_, fun hquiet hslot => hdestroyed hslot hquiet⟩
  · have hslot : s.data.slot = false := by
      rw [eq_false_iff]
      intro hslot
      have := h.shape.slot hslot
      omega
    refine ⟨?_, ?_, hslot⟩
    · rw [eq_false_iff]
      intro hlinked
      rw [h.shape.linked hlinked] at hslot
      cases hslot
    rw [eq_false_iff]
    intro hhas
    rw [h.shape.hasvnode hhas] at hslot
    cases hslot
  · rw [eq_false_iff]
    intro huses
    have := h.alive t huses
    omega
  refine hdestroyed ?_ hquiet
  rw [eq_false_iff]
  intro hslot
  obtain ⟨t, ht⟩ := h.doomed ⟨hlinked, hhas, hslot⟩
  have hidle := hquiet t
  revert ht hidle
  cases s.pc t <;> simp [dooms, uses]

omit [DecidableEq T] in
lemma linkedSem_inv (owners : List T) : Inv (linkedSem owners) := by
  refine ⟨?_, ?_, ?_, ?_, ?_, ?_, ?_, ?_⟩
  · simp [linkedSem, Pc.Fits]
  · constructor <;> simp [linkedSem]
  all_goals simp [linkedSem, rmDrops, uses]

lemma Inv.moved (h : Inv s)
    (hpc : s'.pc = update s.pc t k) (hdata : s'.data = d) (hshape : Shape d)
    (hself : k.Fits t d) (hothers : ∀ u, u ≠ t → (s.pc u).Fits u d)
    (hmid : d.dent = true ∧ d.linked = false → k.mid = true ∨
      (s.data.dent = true ∧ s.data.linked = false) ∧ (s.pc t).mid = false)
    (hnull : d.slot = false ∧ d.destroyed = 0 → k.drops = true ∨
      (s.data.slot = false ∧ s.data.destroyed = 0) ∧ (s.pc t).drops = false)
    (hflag : d.hasvnode = true ∧ d.vnode = false → k = .clFlag ∨
      (s.data.hasvnode = true ∧ s.data.vnode = false) ∧ s.pc t ≠ .clFlag)
    (hdoomed : d.linked = false ∧ d.hasvnode = false ∧ d.slot = true → k.dooms = true ∨
      (s.data.linked = false ∧ s.data.hasvnode = false ∧ s.data.slot = true) ∧
        (s.pc t).dooms = false)
    (hrm : k.rmDrops = true → (s.pc t).rmDrops = true ∨ ∀ u, u ≠ t → s.pc u ≠ .clDestroy)
    (hcl : k = .clDestroy → ∀ u, u ≠ t → (s.pc u).rmDrops = false)
    (halive : ∀ u, u ≠ t → (s.pc u).uses = true → d.destroyed = 0)
    (huses : k.uses = true → d.destroyed = 0) : Inv s' := by
  have hwitness : ∀ {p : Pc → Prop}, (p k ∨ (∃ u, p (s.pc u)) ∧ ¬ p (s.pc t)) →
      ∃ u, p (s'.pc u) := by
    rintro p (hk | ⟨⟨u, hu⟩, hnot⟩)
    · exact ⟨t, by rw [hpc, update_self]; exact hk⟩
    have hut : u ≠ t := by
      rintro rfl
      exact hnot hu
    exact ⟨u, by rw [hpc, update_of_ne hut]; exact hu⟩
  have hboth : ∀ {p : Pc → Bool}, (∃ u, p (s.pc u) = true) → p (s.pc t) = false →
      (∃ u, p (s.pc u) = true) ∧ ¬ p (s.pc t) = true := by
    intro p hex hnot
    exact ⟨hex, by rw [hnot]; simp⟩
  subst hdata
  refine ⟨?_, hshape, ?_, ?_, ?_, ?_, ?_, ?_⟩
  · intro u
    rcases moved_cases hpc u with ⟨rfl, hu⟩ | ⟨hut, hu⟩
    · rw [hu]
      exact hself
    · rw [hu]
      exact hothers u hut
  · intro hd
    refine hwitness (p := fun pc => pc.mid = true) ((hmid hd).imp id fun ⟨hold, hnot⟩ => ?_)
    exact hboth (p := Pc.mid) (h.mid hold) hnot
  · intro hd
    refine hwitness (p := fun pc => pc.drops = true) ((hnull hd).imp id fun ⟨hold, hnot⟩ => ?_)
    exact hboth (p := drops) (h.null hold) hnot
  · intro hd
    exact hwitness (p := fun pc => pc = .clFlag)
      ((hflag hd).imp id fun ⟨hold, hnot⟩ => ⟨h.flag hold, hnot⟩)
  · intro hd
    refine hwitness (p := fun pc => pc.dooms = true) ((hdoomed hd).imp id fun ⟨hold, hnot⟩ => ?_)
    exact hboth (p := dooms) (h.doomed hold) hnot
  · intro u v hu hv
    have hrmk : k.rmDrops = true → k ≠ .clDestroy := by
      intro hk heq
      rw [heq] at hk
      cases hk
    rcases moved_cases hpc u with ⟨rfl, hu'⟩ | ⟨hut, hu'⟩
    · rw [hu'] at hu
      rcases moved_cases hpc v with ⟨rfl, hv'⟩ | ⟨hvt, hv'⟩
      · exact hrmk hu (hv' ▸ hv)
      rcases hrm hu with hold | hno
      · exact h.apart u v hold (hv' ▸ hv)
      · exact hno v hvt (hv' ▸ hv)
    rw [hu'] at hu
    rcases moved_cases hpc v with ⟨rfl, hv'⟩ | ⟨hvt, hv'⟩
    · rw [hcl (hv' ▸ hv) u hut] at hu
      cases hu
    · exact h.apart u v hu (hv' ▸ hv)
  intro u hu
  rcases moved_cases hpc u with ⟨rfl, hu'⟩ | ⟨hut, hu'⟩
  · exact huses (hu' ▸ hu)
  · exact halive u hut (hu' ▸ hu)

lemma Inv.walked (h : Inv s)
    (hpc : s'.pc = update s.pc t k) (hdata : s'.data = s.data)
    (hself : k.Fits t s.data) (hmid : k.mid = (s.pc t).mid) (hdrops : k.drops = (s.pc t).drops)
    (hflag : s.pc t ≠ .clFlag)
    (hdooms : (s.pc t).dooms = true → k.dooms = true ∨ s.data.linked = true ∨
      s.data.hasvnode = true)
    (hrm : k.rmDrops = (s.pc t).rmDrops) (hcl : k ≠ .clDestroy)
    (huses : k.uses = true → (s.pc t).uses = true ∨ s.data.destroyed = 0) : Inv s' := by
  refine h.moved hpc hdata h.shape hself (fun u _ => h.fits u) ?_ ?_ ?_ ?_ ?_ ?_ ?_ ?_
  · intro hd
    rw [hmid]
    cases (s.pc t).mid with
    | true => exact .inl rfl
    | false => exact .inr ⟨hd, rfl⟩
  · intro hd
    rw [hdrops]
    cases (s.pc t).drops with
    | true => exact .inl rfl
    | false => exact .inr ⟨hd, rfl⟩
  · exact fun hd => .inr ⟨hd, hflag⟩
  · intro hd
    cases hold : (s.pc t).dooms with
    | false => exact .inr ⟨hd, rfl⟩
    | true =>
      rcases hdooms hold with hk | hl | hv
      · exact .inl hk
      · rw [hd.1] at hl
        cases hl
      · rw [hd.2.1] at hv
        cases hv
  · exact fun hk => .inl (hrm ▸ hk)
  · exact fun hk => absurd hk hcl
  · exact fun u _ hu => h.alive u hu
  intro hk
  rcases huses hk with hold | hzero
  · exact h.alive t hold
  · exact hzero

def Pc.walks (a b : Pc) : Bool :=
  b.mid = a.mid && b.drops = a.drops && b.rmDrops = a.rmDrops && a ≠ .clFlag && b ≠ .clDestroy &&
    (!a.dooms || b.dooms) && (!b.uses || a.uses)

lemma Inv.walk (h : Inv s) (ha : s.pc t = a)
    (hpc : s'.pc = update s.pc t k) (hdata : s'.data = s.data)
    (hself : k.Fits t s.data) (hwalks : a.walks k = true) : Inv s' := by
  subst ha
  simp only [walks, and_eq_true, decide_eq_true_eq, or_eq_true, not_eq_true'] at hwalks
  obtain ⟨⟨⟨⟨⟨⟨hmid, hdrops⟩, hrm⟩, hflag⟩, hcl⟩, hdooms⟩, huses⟩ := hwalks
  refine h.walked hpc hdata hself hmid hdrops hflag (fun hd => ?_) hrm hcl (fun hk => ?_)
  · rw [hd] at hdooms
    exact .inl (hdooms.resolve_left (by simp))
  · rw [hk] at huses
    exact .inl (huses.resolve_left (by simp))

end Invariant

section Steps

variable {s s' : UnlinkState T} {t : T}

omit [DecidableEq T] in
lemma Inv.fits_at (h : Inv s) (hpc : s.pc t = a) : a.Fits t s.data :=
  hpc ▸ h.fits t

omit [DecidableEq T] in
lemma other_holds (ho : Orderly unlinkHolds unlinkWaits s) {l : Lock}
    (hl : (s.pc t).holds l = true) (u : T) (hut : u ≠ t) : (s.pc u).holds l = false := by
  rw [eq_false_iff]
  exact fun hu => hut (ho.exclusive hu hl)

section Fits

variable {pc : Pc} {u : T}

omit [DecidableEq T] in
lemma fits_unlink (h : pc.Fits u d) (hdir : pc.holds .dir = false) :
    pc.Fits u { d with linked := false } := by
  cases pc with
  | clSlot | clDestroy => exact ⟨h.1, h.2.1, rfl⟩
  | _ => first | exact h | cases hdir

omit [DecidableEq T] in
lemma fits_null (h : pc.Fits u d) (htable : pc.holds .table = false) :
    pc.Fits u { d with slot := false } := by
  cases pc with
  | rmUnlock destroy =>
    cases destroy with
    | true => exact ⟨h.1, h.2.1, h.2.2.1, rfl⟩
    | false => exact h
  | rmDestroy => exact ⟨h.1, h.2.1, h.2.2.1, rfl⟩
  | _ => first | exact h | cases htable

omit [DecidableEq T] in
lemma fits_nodent (h : pc.Fits u d) (hdir : pc.holds .dir = false) :
    pc.Fits u { d with dent := false } := by
  cases pc with
  | _ => first | exact h | cases hdir

omit [DecidableEq T] in
lemma fits_incref (h : pc.Fits u d) (htable : pc.holds .table = false) (t : T) :
    pc.Fits u { d with owners := t :: d.owners } := by
  cases pc with
  | clDecref | clTable => exact mem_cons_of_mem t h
  | rmUnlock destroy => cases destroy <;> exact h
  | _ => first | exact h | cases htable

omit [DecidableEq T] in
lemma fits_create (h : pc.Fits u d) (hdir : pc.holds .dir = false)
    (htable : pc.holds .table = false) (t : T) :
    pc.Fits u { d with vnode := true, owners := t :: d.owners, hasvnode := true } := by
  cases pc with
  | clDecref | clTable => exact mem_cons_of_mem t h
  | rmUnlock destroy => cases hdir
  | _ => first | exact h | exact absurd hdir (by decide) | exact absurd htable (by decide)

variable {t : T}

lemma fits_decref (h : pc.Fits u d) (hut : u ≠ t) (hmany : 1 < d.owners.length) :
    pc.Fits u { d with owners := d.owners.erase t } := by
  cases pc with
  | clDecref | clTable | clCount => exact (mem_erase_of_ne hut).mpr h
  | clTake =>
    have hone : d.owners = [u] := h
    rw [hone] at hmany
    exact absurd hmany (Nat.lt_irrefl 1)
  | rmUnlock destroy => cases destroy <;> exact h
  | _ => exact h

lemma fits_take (h : pc.Fits u d) (hut : u ≠ t) (htable : pc.holds .table = false)
    (hone : d.owners = [t]) : pc.Fits u { d with vnode := false, owners := d.owners.erase t } := by
  have hout : u ∉ d.owners := by
    rw [hone, mem_singleton]
    exact hut
  cases pc with
  | clDecref | clTable => exact absurd h hout
  | rmUnlock destroy => cases destroy <;> exact h
  | _ => first | exact h | cases htable

omit [DecidableEq T] in
lemma fits_unflag (h : pc.Fits u d) (htable : pc.holds .table = false) :
    pc.Fits u { d with hasvnode := false } := by
  cases pc with
  | rmTable => exact ⟨h.1, h.2.1, rfl⟩
  | rmUnlock destroy =>
    cases destroy with
    | true => exact ⟨h.1, h.2.1, rfl, h.2.2.2⟩
    | false => exact h
  | rmDestroy => exact ⟨h.1, h.2.1, rfl, h.2.2.2⟩
  | _ => first | exact h | cases htable

end Fits

section

variable (h : Inv s) (ho : Orderly unlinkHolds unlinkWaits s)

include h ho

lemma Inv.unlink (hpc : s.pc t = .rmUnlink)
    (hs' : s'.pc = update s.pc t .rmTest)
    (hdata : s'.data = { s.data with linked := false }) : Inv s' := by
  have hdir := @other_holds _ s t ho .dir (by rw [hpc]; rfl)
  have hlinked : s.data.linked = true := h.fits_at hpc
  have hslot := h.shape.linked hlinked
  have hzero := h.shape.slot hslot
  refine h.moved hs' hdata
    { h.shape with dent := (fun hl => nomatch hl), linked := (fun hl => nomatch hl) }
    ⟨rfl, h.shape.dent hlinked⟩ (fun u hut => fits_unlink (h.fits u) (hdir u hut))
    (fun _ => .inl rfl) (fun hd => .inr ⟨hd, by rw [hpc]; rfl⟩)
    (fun hd => .inr ⟨hd, by rw [hpc]; simp⟩) (fun _ => .inl rfl) (fun hk => by cases hk)
    (fun hk => by cases hk) (fun _ _ _ => hzero) (fun _ => hzero)

lemma Inv.rmSlot (hpc : s.pc t = .rmSlot)
    (hs' : s'.pc = update s.pc t .rmUntable)
    (hdata : s'.data = { s.data with slot := false }) : Inv s' := by
  have htable := @other_holds _ s t ho .table (by rw [hpc]; rfl)
  obtain ⟨hlinked, hdent, hhas, hslot⟩ := h.fits_at hpc
  have hzero := h.shape.slot hslot
  have hno : ∀ u, u ≠ t → s.pc u ≠ .clDestroy := by
    intro u hut hu
    have hfree := htable u hut
    rw [hu] at hfree
    cases hfree
  refine h.moved hs' hdata { h.shape with
      linked := by simp [hlinked]
      hasvnode := by simp [hhas]
      slot := fun hs => nomatch hs }
    ⟨hlinked, hdent, hhas, rfl⟩ (fun u hut => fits_null (h.fits u) (htable u hut))
    (fun _ => .inl rfl) (fun _ => .inl rfl) (fun hd => .inr ⟨hd, by rw [hpc]; simp⟩)
    (fun hd => by cases hd.2.2) (fun _ => .inr hno) (fun hk => by cases hk)
    (fun _ _ _ => hzero) (fun _ => hzero)

lemma Inv.clSlot (hpc : s.pc t = .clSlot)
    (hs' : s'.pc = update s.pc t .clDestroy)
    (hdata : s'.data = { s.data with slot := false }) : Inv s' := by
  have htable := @other_holds _ s t ho .table (by rw [hpc]; rfl)
  obtain ⟨hhas, hslot, hlinked⟩ := h.fits_at hpc
  have hzero := h.shape.slot hslot
  -- a remover that has emptied the slot would have found it empty before
  have hno : ∀ u, u ≠ t → (s.pc u).rmDrops = false := by
    intro u _
    have hfits := h.fits u
    rw [eq_false_iff]
    intro hdrops
    have hnull : s.data.slot = false := by
      revert hfits hdrops
      cases s.pc u with
      | rmUntable | rmDestroy => exact fun hfits _ => hfits.2.2.2
      | rmUnlock destroy =>
        cases destroy with
        | true => exact fun hfits _ => hfits.2.2.2
        | false => exact fun _ hdrops => by cases hdrops
      | _ => exact fun _ hdrops => by cases hdrops
    rw [hslot] at hnull
    cases hnull
  refine h.moved hs' hdata { h.shape with
      linked := by simp [hlinked]
      hasvnode := by simp [hhas]
      slot := fun hs => nomatch hs }
    ⟨hhas, rfl, hlinked⟩ (fun u hut => fits_null (h.fits u) (htable u hut))
    (fun hd => .inr ⟨hd, by rw [hpc]; rfl⟩) (fun _ => .inl rfl)
    (fun hd => .inr ⟨hd, by rw [hpc]; simp⟩) (fun hd => by cases hd.2.2)
    (fun hk => by cases hk) (fun _ => hno) (fun _ _ _ => hzero) (fun _ => hzero)

lemma Inv.rmDestroy (hpc : s.pc t = .rmDestroy) (hs' : s'.pc = update s.pc t .rmDent)
    (hdata : s'.data = { s.data with destroyed := s.data.destroyed + 1 }) : Inv s' := by
  have hdir := @other_holds _ s t ho .dir (by rw [hpc]; rfl)
  have hself := h.fits t
  have hzero := h.alive t (by rw [hpc]; rfl)
  have hdrops : (s.pc t).rmDrops = true := by rw [hpc]; rfl
  rw [hpc] at hself
  obtain ⟨hlinked, hdent, hhas, hslot⟩ := hself
  -- the directory keeps out the removers, the empty slot and `apart` those who close
  have hquiet : ∀ u, u ≠ t → (s.pc u).uses = false := by
    intro u hut
    have hfits := h.fits u
    have hfree := hdir u hut
    have hcl := h.apart t u hdrops
    revert hfits hfree hcl
    cases s.pc u with
    | clTest =>
      intro hfits
      rw [hfits.2] at hslot
      cases hslot
    | clSlot =>
      intro hfits
      rw [hfits.2.1] at hslot
      cases hslot
    | clDestroy => exact fun _ _ hcl => absurd rfl hcl
    | _ => exact fun _ hfree _ => by first | rfl | cases hfree
  refine h.moved hs' hdata
    { h.shape with slot := by simp [hslot], once := by simp [hzero] } ⟨hlinked, hdent⟩
    (fun u _ => h.fits u) (fun _ => .inl rfl) (fun hd => by cases hd.2)
    (fun hd => .inr ⟨hd, by rw [hpc]; simp⟩) (fun hd => .inr ⟨hd, by rw [hpc]; rfl⟩)
    (fun hk => by cases hk) (fun hk => by cases hk) (fun u hut huses => ?_) (fun hk => by cases hk)
  rw [hquiet u hut] at huses
  cases huses

end

lemma Inv.clDestroy (h : Inv s) (hpc : s.pc t = .clDestroy)
    (hadmits : ∀ u, u ≠ t → (s.pc u).uses = false)
    (hs' : s'.pc = update s.pc t .clUntable)
    (hdata : s'.data = { s.data with destroyed := s.data.destroyed + 1 }) : Inv s' := by
  have hself := h.fits t
  have hzero := h.alive t (by rw [hpc]; rfl)
  rw [hpc] at hself
  obtain ⟨hhas, hslot, hlinked⟩ := hself
  refine h.moved hs' hdata { h.shape with slot := by simp [hslot], once := by simp [hzero] } trivial
    (fun u _ => h.fits u) (fun hd => .inr ⟨hd, by rw [hpc]; rfl⟩) (fun hd => by cases hd.2)
    (fun hd => .inr ⟨hd, by rw [hpc]; simp⟩) (fun hd => .inr ⟨hd, by rw [hpc]; rfl⟩)
    (fun hk => by cases hk) (fun hk => by cases hk) (fun u hut huses => ?_) (fun hk => by cases hk)
  rw [hadmits u hut] at huses
  cases huses

section

variable (h : Inv s) (ho : Orderly unlinkHolds unlinkWaits s)

include h ho

lemma Inv.rmDent (hpc : s.pc t = .rmDent)
    (hs' : s'.pc = update s.pc t .rmUndir)
    (hdata : s'.data = { s.data with dent := false }) : Inv s' := by
  have hdir := @other_holds _ s t ho .dir (by rw [hpc]; rfl)
  obtain ⟨hlinked, hdent⟩ := h.fits_at hpc
  refine h.moved hs' hdata { h.shape with dent := by simp [hlinked] } trivial
    (fun u hut => fits_nodent (h.fits u) (hdir u hut)) (fun hd => by cases hd.1)
    (fun hd => .inr ⟨hd, by rw [hpc]; rfl⟩) (fun hd => .inr ⟨hd, by rw [hpc]; simp⟩)
    (fun hd => .inr ⟨hd, by rw [hpc]; rfl⟩) (fun hk => by cases hk) (fun hk => by cases hk)
    (fun u _ => h.alive u) (fun hk => by cases hk)

lemma Inv.incref (hpc : s.pc t = .luGet)
    (hvnode : s.data.vnode = true) (hs' : s'.pc = update s.pc t .luUntable)
    (hdata : s'.data = { s.data with owners := t :: s.data.owners }) : Inv s' := by
  have htable := @other_holds _ s t ho .table (by rw [hpc]; rfl)
  refine h.moved hs' hdata { h.shape with owners := by simp [hvnode] } trivial
    (fun u hut => fits_incref (h.fits u) (htable u hut) t)
    (fun hd => .inr ⟨hd, by rw [hpc]; rfl⟩) (fun hd => .inr ⟨hd, by rw [hpc]; rfl⟩)
    (fun hd => .inr ⟨hd, by rw [hpc]; simp⟩) (fun hd => .inr ⟨hd, by rw [hpc]; rfl⟩)
    (fun hk => by cases hk) (fun hk => by cases hk) (fun u _ => h.alive u) (fun hk => by cases hk)

lemma Inv.create (hpc : s.pc t = .luGet)
    (hs' : s'.pc = update s.pc t .luUntable)
    (hdata : s'.data = { s.data with
      vnode := true, owners := t :: s.data.owners, hasvnode := true }) : Inv s' := by
  have hdir := @other_holds _ s t ho .dir (by rw [hpc]; rfl)
  have htable := @other_holds _ s t ho .table (by rw [hpc]; rfl)
  have hlinked : s.data.linked = true := h.fits_at hpc
  have hslot := h.shape.linked hlinked
  refine h.moved hs' hdata
    { h.shape with hasvnode := fun _ => hslot, vnode := fun _ => rfl, owners := by simp } trivial
    (fun u hut => fits_create (h.fits u) (hdir u hut) (htable u hut) t)
    (fun hd => .inr ⟨hd, by rw [hpc]; rfl⟩) (fun hd => .inr ⟨hd, by rw [hpc]; rfl⟩)
    (fun hd => by cases hd.2) (fun hd => by cases hd.2.1)
    (fun hk => by cases hk) (fun hk => by cases hk) (fun u _ => h.alive u) (fun hk => by cases hk)

end

variable {k : Pc} {choice : Choice}

lemma Inv.decref (h : Inv s) (hpc : s.pc t = .clDecref ∨ s.pc t = .clCount)
    (hk : k = .outside ∨ k = .clUntable) (hmany : 1 < s.data.owners.length)
    (hs' : s'.pc = update s.pc t k)
    (hdata : s'.data = { s.data with owners := s.data.owners.erase t }) : Inv s' := by
  have hmem : t ∈ s.data.owners := by
    rcases hpc with hpc | hpc <;> exact h.fits_at hpc
  have hleft : s.data.owners.erase t ≠ [] := by
    intro hnil
    have := length_erase_of_mem hmem
    rw [hnil] at this
    simp only [length_nil] at this
    omega
  have hvnode : s.data.vnode = true := h.shape.owners.mpr (ne_nil_of_mem hmem)
  have hquiet : k.Fits t { s.data with owners := s.data.owners.erase t } ∧ k.uses = false ∧
      k.rmDrops = false ∧ k ≠ .clDestroy := by
    rcases hk with rfl | rfl <;> exact ⟨trivial, rfl, rfl, by simp⟩
  have hpoint : (s.pc t).mid = false ∧ (s.pc t).drops = false ∧ (s.pc t).dooms = false ∧
      s.pc t ≠ .clFlag := by
    rcases hpc with hpc | hpc <;> rw [hpc] <;> exact ⟨rfl, by decide, rfl, by simp⟩
  exact h.moved hs' hdata { h.shape with owners := by simp [hvnode, hleft] } hquiet.1
    (fun u hut => fits_decref (h.fits u) hut hmany)
    (fun hd => .inr ⟨hd, hpoint.1⟩) (fun hd => .inr ⟨hd, hpoint.2.1⟩)
    (fun hd => .inr ⟨hd, hpoint.2.2.2⟩) (fun hd => .inr ⟨hd, hpoint.2.2.1⟩)
    (fun hrm => absurd hrm (by rw [hquiet.2.2.1]; simp)) (fun hcl => absurd hcl hquiet.2.2.2)
    (fun u _ => h.alive u) (fun huses => absurd huses (by rw [hquiet.2.1]; simp))

lemma Inv.take (h : Inv s) (ho : Orderly unlinkHolds unlinkWaits s) (hpc : s.pc t = .clTake)
    (hs' : s'.pc = update s.pc t .clFlag)
    (hdata : s'.data = { s.data with vnode := false, owners := s.data.owners.erase t }) :
    Inv s' := by
  have htable := @other_holds _ s t ho .table (by rw [hpc]; rfl)
  have hone : s.data.owners = [t] := h.fits_at hpc
  have hvnode : s.data.vnode = true := h.shape.owners.mpr (by rw [hone]; simp)
  exact h.moved hs' hdata { h.shape with vnode := (fun hv => nomatch hv), owners := by simp [hone] }
    ⟨h.shape.vnode hvnode, rfl⟩ (fun u hut => fits_take (h.fits u) hut (htable u hut) hone)
    (fun hd => .inr ⟨hd, by rw [hpc]; rfl⟩) (fun hd => .inr ⟨hd, by rw [hpc]; rfl⟩)
    (fun _ => .inl rfl) (fun hd => .inr ⟨hd, by rw [hpc]; rfl⟩)
    (fun hk => by cases hk) (fun hk => by cases hk) (fun u _ => h.alive u) (fun hk => by cases hk)

lemma Inv.unflag (h : Inv s) (ho : Orderly unlinkHolds unlinkWaits s) (hpc : s.pc t = .clFlag)
    (hs' : s'.pc = update s.pc t .clTest)
    (hdata : s'.data = { s.data with hasvnode := false }) : Inv s' := by
  have htable := @other_holds _ s t ho .table (by rw [hpc]; rfl)
  obtain ⟨hhas, hvnode⟩ := h.fits_at hpc
  have hslot := h.shape.hasvnode hhas
  have hzero := h.shape.slot hslot
  exact h.moved hs' hdata
    { h.shape with hasvnode := (fun hh => nomatch hh), vnode := by simp [hvnode] } ⟨rfl, hslot⟩
    (fun u hut => fits_unflag (h.fits u) (htable u hut))
    (fun hd => .inr ⟨hd, by rw [hpc]; rfl⟩) (fun hd => .inr ⟨hd, by rw [hpc]; rfl⟩)
    (fun hd => by cases hd.1) (fun _ => .inl rfl) (fun hk => by cases hk) (fun hk => by cases hk)
    (fun _ _ _ => hzero) (fun _ => hzero)

omit [DecidableEq T] in
lemma Inv.dent_linked (h : Inv s) (ho : Orderly unlinkHolds unlinkWaits s)
    (hdir : (s.pc t).holds .dir = true) (hmid : (s.pc t).mid = false)
    (hdent : s.data.dent = true) : s.data.linked = true := by
  by_contra hnot
  obtain ⟨u, hu⟩ := h.mid ⟨hdent, eq_false_iff.mpr hnot⟩
  have hut : u ≠ t := by
    rintro rfl
    rw [hmid] at hu
    cases hu
  have hfree := other_holds ho hdir u hut
  revert hu hfree
  cases s.pc u <;> simp [Pc.mid, Pc.holds]

omit [DecidableEq T] in
lemma Inv.slot_there (h : Inv s) (ho : Orderly unlinkHolds unlinkWaits s)
    (hpc : s.pc t = .rmTable) (hfree : s.holder .table = none) : s.data.slot = true := by
  by_contra hnot
  have hzero := h.alive t (by rw [hpc]; rfl)
  obtain ⟨u, hu⟩ := h.null ⟨eq_false_iff.mpr hnot, hzero⟩
  have hut : u ≠ t := by
    rintro rfl
    rw [hpc] at hu
    exact absurd hu (by decide)
  have hdir := @other_holds _ s t ho .dir (by rw [hpc]; rfl) u hut
  have htable : (s.pc u).holds .table = false := eq_false_iff.mpr (ho.free hfree u)
  revert hu hdir htable
  cases s.pc u <;> simp [drops, rmDrops, Pc.holds]

lemma Inv.lookup (h : Inv s) (ho : Orderly unlinkHolds unlinkWaits s)
    (hpc : s.pc t = .luGet)
    (hs' : s' = s.goto t (getvnode t choice s.data).2 (getvnode t choice s.data).1) : Inv s' := by
  have hlinked : s.data.linked = true := h.fits_at hpc
  have hslot := h.shape.linked hlinked
  rw [getvnode] at hs'
  by_cases hvnode : s.data.vnode = true
  · rw [if_pos hvnode] at hs'
    subst hs'
    exact h.incref ho hpc hvnode rfl rfl
  rw [if_neg hvnode] at hs'
  have hvnode' : s.data.vnode = false := eq_false_iff.mpr hvnode
  -- whoever has taken the vnode still has the table
  have hhas : s.data.hasvnode = false := by
    rw [eq_false_iff]
    intro hhas
    obtain ⟨u, hu⟩ := h.flag ⟨hhas, hvnode'⟩
    have hut : u ≠ t := by
      rintro rfl
      rw [hpc] at hu
      cases hu
    have hfree := @other_holds _ s t ho .table (by rw [hpc]; rfl) u hut
    rw [hu] at hfree
    cases hfree
  by_cases hmemory : choice = .noMemory
  · rw [if_pos hmemory] at hs'
    subst hs'
    refine h.walked rfl rfl trivial ?_ ?_ ?_ ?_ ?_ ?_ ?_ <;>
      simp [hpc, Pc.mid, drops, rmDrops, dooms, uses]
  rw [if_neg hmemory, if_neg (by simp [hslot, hhas])] at hs'
  subst hs'
  exact h.create ho hpc rfl rfl

lemma enter_fits (h : enter t d choice = some k) :
    k.Fits t d ∧ Pc.outside.walks k = true := by
  cases choice with
  | remove | lookup =>
    cases h
    exact ⟨trivial, rfl⟩
  | close =>
    rw [enter] at h
    by_cases hmem : t ∈ d.owners
    · rw [if_pos hmem] at h
      cases h
      exact ⟨hmem, rfl⟩
    · rw [if_neg hmem] at h
      cases h
  | noMemory => cases h

lemma Inv.step (h : Inv s) (ho : Orderly unlinkHolds unlinkWaits s)
    (hadmits : Admits (t, choice) s) (hstep : step code t choice s = some s') : Inv s' := by
  have hself := h.fits t
  cases hpc : s.pc t with rw [hpc] at hself
  | outside =>
    obtain ⟨d, k, hact, rfl⟩ := step_act (by rw [hpc]; rfl) hstep
    obtain ⟨k', hk, heq⟩ := map_eq_some_iff.mp hact
    cases heq
    exact h.walk hpc rfl rfl (enter_fits hk).1 (enter_fits hk).2
  | rmDir | luDir =>
    obtain ⟨-, rfl⟩ := step_acquire (by rw [hpc]; rfl) hstep
    exact h.walk hpc rfl rfl trivial rfl
  | rmFind | luFind =>
    obtain ⟨d, k, hact, rfl⟩ := step_act (by rw [hpc]; rfl) hstep
    cases hact
    by_cases hdent : s.data.dent = true
    · rw [if_pos hdent]
      have hlinked := h.dent_linked ho (by rw [hpc]; rfl) (by rw [hpc]; rfl) hdent
      exact h.walk hpc rfl rfl hlinked rfl
    · rw [if_neg hdent]
      exact h.walk hpc rfl rfl trivial rfl
  | rmGetTable | rmLock | luTable | clTable =>
    obtain ⟨-, rfl⟩ := step_acquire (by rw [hpc]; rfl) hstep
    exact h.walk hpc rfl rfl hself rfl
  | rmGet =>
    obtain ⟨d, k, hact, rfl⟩ := step_act (by rw [hpc]; rfl) hstep
    have hslot := h.shape.linked hself
    have hzero := h.shape.slot hslot
    rw [if_pos hslot] at hact
    cases hact
    refine h.walked rfl rfl hself ?_ ?_ ?_ ?_ ?_ ?_ (fun _ => .inr hzero) <;>
      simp [hpc, Pc.mid, drops, rmDrops, dooms]
  | rmGetUntable | rmUntable =>
    obtain ⟨-, rfl⟩ := step_release (by rw [hpc]; rfl) hstep
    exact h.walk hpc rfl rfl hself rfl
  | rmUnlink =>
    obtain ⟨d, k, hact, rfl⟩ := step_act (by rw [hpc]; rfl) hstep
    have hlinked : s.data.linked = true := hself
    rw [if_pos hlinked] at hact
    cases hact
    exact h.unlink ho hpc rfl rfl
  | rmTest =>
    obtain ⟨d, k, hact, rfl⟩ := step_act (by rw [hpc]; rfl) hstep
    cases hact
    by_cases hhas : s.data.hasvnode = false
    · rw [if_pos hhas]
      exact h.walk hpc rfl rfl ⟨hself.1, hself.2, hhas⟩ rfl
    rw [if_neg hhas]
    have hhas' : s.data.hasvnode = true := by simpa using hhas
    refine h.walked rfl rfl hself ?_ ?_ ?_ (fun _ => .inr (.inr hhas')) ?_ ?_ ?_ <;>
      simp [hpc, Pc.mid, drops, rmDrops, uses]
  | rmTable =>
    obtain ⟨hfree, rfl⟩ := step_acquire (by rw [hpc]; rfl) hstep
    have hslot := h.slot_there ho hpc hfree
    exact h.walk hpc rfl rfl ⟨hself.1, hself.2.1, hself.2.2, hslot⟩ rfl
  | rmSlot =>
    obtain rfl := step_to (by rw [hpc]; rfl) hstep
    exact h.rmSlot ho hpc rfl rfl
  | rmUnlock destroy =>
    cases destroy with
    | true | false =>
      obtain ⟨-, rfl⟩ := step_release (by rw [hpc]; rfl) hstep
      exact h.walk hpc rfl rfl hself rfl
  | rmDestroy =>
    obtain rfl := step_to (by rw [hpc]; rfl) hstep
    exact h.rmDestroy ho hpc rfl rfl
  | rmDent =>
    obtain rfl := step_to (by rw [hpc]; rfl) hstep
    exact h.rmDent ho hpc rfl rfl
  | rmUndir | luUntable | luUndir | clUntable =>
    obtain ⟨-, rfl⟩ := step_release (by rw [hpc]; rfl) hstep
    exact h.walk hpc rfl rfl trivial rfl
  | luGet =>
    obtain ⟨d, k, hact, rfl⟩ := step_act (by rw [hpc]; rfl) hstep
    have hget : getvnode t choice s.data = (d, k) := some.inj hact
    have hs' : s.goto t k d =
        s.goto t (getvnode t choice s.data).2 (getvnode t choice s.data).1 := by rw [hget]
    exact h.lookup ho hpc hs'
  | clDecref =>
    obtain ⟨d, k, hact, rfl⟩ := step_act (by rw [hpc]; rfl) hstep
    by_cases hmany : 1 < s.data.owners.length
    · rw [if_pos hmany] at hact
      cases hact
      exact h.decref (.inl hpc) (.inl rfl) hmany rfl rfl
    rw [if_neg hmany] at hact
    cases hact
    exact h.walk hpc rfl rfl hself rfl
  | clCount =>
    obtain ⟨d, k, hact, rfl⟩ := step_act (by rw [hpc]; rfl) hstep
    by_cases hmany : 1 < s.data.owners.length
    · rw [if_pos hmany] at hact
      cases hact
      exact h.decref (.inr hpc) (.inr rfl) hmany rfl rfl
    rw [if_neg hmany] at hact
    cases hact
    have hone : s.data.owners.length = 1 :=
      Nat.le_antisymm (Nat.le_of_not_lt hmany) (length_pos_of_mem hself)
    obtain ⟨u, hu⟩ := length_eq_one_iff.mp hone
    have htu : t = u := by
      rw [Pc.Fits, hu] at hself
      exact mem_singleton.mp hself
    exact h.walk hpc rfl rfl (htu ▸ hu) rfl
  | clTake =>
    obtain rfl := step_to (by rw [hpc]; rfl) hstep
    exact h.take ho hpc rfl rfl
  | clFlag =>
    obtain ⟨d, k, hact, rfl⟩ := step_act (by rw [hpc]; rfl) hstep
    rw [if_pos ⟨h.shape.hasvnode hself.1, hself.1⟩] at hact
    cases hact
    exact h.unflag ho hpc rfl rfl
  | clTest =>
    obtain ⟨d, k, hact, rfl⟩ := step_act (by rw [hpc]; rfl) hstep
    cases hact
    by_cases hlinked : s.data.linked = false
    · rw [if_pos hlinked]
      exact h.walk hpc rfl rfl ⟨hself.1, hself.2, hlinked⟩ rfl
    rw [if_neg hlinked]
    have hlinked' : s.data.linked = true := by simpa using hlinked
    refine h.walked rfl rfl trivial ?_ ?_ ?_ (fun _ => .inr (.inl hlinked')) ?_ ?_ ?_ <;>
      simp [hpc, Pc.mid, drops, rmDrops, uses]
  | clSlot =>
    obtain rfl := step_to (by rw [hpc]; rfl) hstep
    exact h.clSlot ho hpc rfl rfl
  | clDestroy =>
    obtain rfl := step_to (by rw [hpc]; rfl) hstep
    exact h.clDestroy hpc (hadmits hpc) rfl rfl

end Steps

-- From a linked semaphore that threads have open, a run is sound exactly when semfs_reclaim never
-- destroys the semaphore under a remover that is not done with it.
theorem unlink_sound_iff (owners : List T) (moves : List (T × Choice)) :
    Run.Always unlinkStep Sound moves (linkedSem owners) ↔
      Run.Guarded unlinkStep Admits moves (linkedSem owners) := by
  let Good := fun s : UnlinkState T => Orderly unlinkHolds unlinkWaits s ∧ Inv s
  have hgood : ∀ s, Good s → Sound s := fun s hs => hs.2.sound
  have hkeep : ∀ move s s', Good s → Admits move s → unlinkStep move s s' → Good s' := by
    rintro ⟨t, choice⟩ s s' ⟨ho, hi⟩ hadmits hstep
    exact ⟨orderly_step code_respects ho hstep, hi.step ho hadmits hstep⟩
  have hbreak : ∀ move s s', Good s → ¬ Admits move s → unlinkStep move s s' → ¬ Sound s' := by
    rintro ⟨t, choice⟩ s s' ⟨ho, hi⟩ hnot hstep hsound
    rw [Admits] at hnot
    push Not at hnot
    obtain ⟨hpc, u, hut, huses⟩ := hnot
    obtain rfl := step_to (by rw [hpc]; rfl) hstep
    have hunused := hsound.unused (Nat.succ_pos _) u
    rw [State.goto_pc, update_of_ne hut] at hunused
    exact huses hunused
  exact Run.always_iff_guarded hgood hkeep hbreak moves
    ⟨(linkedSem_fresh owners).orderly, linkedSem_inv owners⟩

section Race

lemma always_run {P : UnlinkState T → Prop} {moves : List (T × Choice)} {s s' : UnlinkState T}
    (h : Run.Always unlinkStep P moves s) (hrun : run code moves s = some s') : P s' := by
  induction moves generalizing s with
  | nil =>
    cases hrun
    exact h
  | cons move moves ih =>
    obtain ⟨u, hstep, hrest⟩ := bind_eq_some_iff.mp hrun
    exact ih (h.2 u hstep) hrest

def race : List (Bool × Choice) :=
  List.replicate 8 (true, .remove) ++ List.replicate 10 (false, .close) ++
    List.replicate 6 (true, .remove)

theorem race_destroysTwice :
    (∃ s, run code race (linkedSem [false]) = some s ∧ s.data.destroyed = 2) ∧
      ¬ Run.Always unlinkStep Sound race (linkedSem [false]) := by
  have hrun : (run code race (linkedSem [false])).map (fun s => s.data.destroyed) = some 2 := by
    decide +kernel
  obtain ⟨s, hs, htwo⟩ := map_eq_some_iff.mp hrun
  refine ⟨⟨s, hs, htwo⟩, fun h => ?_⟩
  have honce := (always_run h hs).once
  omega

end Race

end Os161.Semfs.Unlink
