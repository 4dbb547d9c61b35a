import Mathlib.Data.Set.Card
import Os161.Lhd
import Os161.Lib.Run

-- lhd_io of kern/dev/lamebus/lhd.c in any threads, with lhd_irq and the device. P and V are one
-- step each. The checks before the loop touch nothing that is shared and are left out.

namespace Os161.Lhd.Exclusion

open Function Option
open Vm (Word)

def LHD_ISWRITE : Word := 2#32

structure Io where
  sector : Word
  len : Nat
  write : Bool

def Io.statval (io : Io) : Word :=
  if io.write then LHD_WORKING ||| LHD_ISWRITE else LHD_WORKING

inductive Pc where
  | outside
  | clear (io : Io) (i : Nat)
  | moveIn (io : Io) (i : Nat)
  | sect (io : Io) (i : Nat)
  | stat (io : Io) (i : Nat)
  | done (io : Io) (i : Nat)
  | load (io : Io) (i : Nat)
  | moveOut (io : Io) (i : Nat) (result : Word)
  | release (io : Io) (i : Nat) (result : Word)

inductive Irq where
  | idle
  | clear (err : Word)
  | store (err : Word)
  | post

structure Op (T : Type) where
  owner : T
  sector : Word
  stat : Word

structure Answer (T β : Type) where
  op : Op T
  code : Word
  left : β

structure Data (T β : Type) where
  clear : Nat
  done : Nat
  result : Word
  buf : β
  sectReg : Word
  statReg : Word
  irq : Irq
  -- what each thread moved to the buffer, the operations started and not completed, and how a
  -- thread's last operation was completed
  given : T → β
  outstanding : List (Op T)
  answer : T → Option (Answer T β)

structure State (T β : Type) where
  data : Data T β
  pc : T → Pc

inductive Event (T β : Type) where
  -- with the call that the thread makes, and what uiomove returns and leaves in the buffer
  | thread (t : T) (call : Io) (moved : Word) (buf : β)
  | finish (code : Word) (left : β)
  | irq

variable {T β : Type}

def Io.op (io : Io) (t : T) (i : Nat) : Op T := ⟨t, io.sector + BitVec.ofNat 32 i, io.statval⟩

def lhdIo [DecidableEq T] (t : T) (call : Io) (moved : Word) (buf : β) (d : Data T β) :
    Pc → Option (Data T β × Pc)
  | .outside => some (d, .clear call 0)
  | .clear io i =>
    if i < io.len then
      if d.clear = 0 then none
      else some ({ d with clear := d.clear - 1 }, if io.write then .moveIn io i else .sect io i)
    else some (d, .outside)
  | .moveIn io i =>
    some ({ d with buf := buf, given := update d.given t buf },
      if moved = 0 then .sect io i else .release io i moved)
  | .sect io i => some ({ d with sectReg := io.sector + BitVec.ofNat 32 i }, .stat io i)
  | .stat io i =>
    some ({ d with
      statReg := io.statval
      outstanding := d.outstanding ++ [io.op t i]
      answer := update d.answer t none }, .done io i)
  | .done io i => if d.done = 0 then none else some ({ d with done := d.done - 1 }, .load io i)
  | .load io i => some (d, .moveOut io i d.result)
  | .moveOut io i result =>
    some (d, .release io i (if result = 0 ∧ io.write = false then moved else result))
  | .release io i result =>
    some ({ d with clear := d.clear + 1 }, if result = 0 then .clear io (i + 1) else .outside)

-- The device completes the operation it was told first, with a code that lhd_irq takes for one.
def finish [DecidableEq T] (code : Word) (left : β) (d : Data T β) : Option (Data T β) :=
  match d.outstanding with
  | [] => none
  | op :: rest =>
    if (lhdIrq code).isSome then
      some { d with
        statReg := code
        buf := left
        outstanding := rest
        answer := update d.answer op.owner (some ⟨op, code, left⟩) }
    else none

def lhdIrqStep (d : Data T β) : Data T β :=
  match d.irq with
  | .idle => { d with irq := (lhdIrq d.statReg).elim .idle .clear }
  | .clear err => { d with statReg := 0, irq := .store err }
  | .store err => { d with result := err, irq := .post }
  | .post => { d with done := d.done + 1, irq := .idle }

def step [DecidableEq T] : Event T β → State T β → Option (State T β)
  | .thread t call moved buf, s => (lhdIo t call moved buf s.data (s.pc t)).map fun next =>
    ⟨next.1, update s.pc t next.2⟩
  | .finish code left, s => (finish code left s.data).map fun d => { s with data := d }
  | .irq, s => some { s with data := lhdIrqStep s.data }

def Step [DecidableEq T] (s s' : State T β) : Prop := ∃ event, step event s = some s'

def attached (result sectReg : Word) (buf : β) : State T β :=
  ⟨⟨1, 0, result, buf, sectReg, LHD_IDLE, .idle, fun _ => buf, [], fun _ => none⟩,
    fun _ => .outside⟩

def Pc.holds : Pc → Bool
  | .outside | .clear .. => false
  | _ => true

structure Exclusive (s : State T β) : Prop where
  one : s.data.outstanding.length ≤ 1
  clear : (s.data.clear : ℕ∞) + {t | (s.pc t).holds = true}.encard = 1
  done : s.data.done ≤ 1
  -- what the device finds is what the thread that started the operation put there
  serves : ∀ op ∈ s.data.outstanding, s.data.sectReg = op.sector ∧ s.data.statReg = op.stat ∧
    ∃ io i, s.pc op.owner = .done io i ∧ op = io.op op.owner i ∧
      (io.write = true → s.data.buf = s.data.given op.owner)
  -- a thread takes the code and the data of the operation that it started last
  code : ∀ t io i, s.pc t = .load io i → ∃ code,
    s.data.answer t = some ⟨io.op t i, code, s.data.buf⟩ ∧ lhdIrq code = some s.data.result
  buffer : ∀ t io i result, s.pc t = .moveOut io i result → ∃ code,
    s.data.answer t = some ⟨io.op t i, code, s.data.buf⟩ ∧ lhdIrq code = some result
  released : (∀ t, (s.pc t).holds = false) →
    s.data.clear = 1 ∧ s.data.done = 0 ∧ s.data.outstanding = []

section Invariant

structure Quiet (d : Data T β) : Prop where
  done : d.done = 0
  stat : lhdIrq d.statReg = none
  irq : d.irq = .idle
  outstanding : d.outstanding = []

inductive Stage (d : Data T β) (code err : Word) : Prop where
  | finished (stat : d.statReg = code) (irq : d.irq = .idle) (done : d.done = 0)
  | clear (irq : d.irq = .clear err) (done : d.done = 0)
  | store (stat : lhdIrq d.statReg = none) (irq : d.irq = .store err) (done : d.done = 0)
  | post (stat : lhdIrq d.statReg = none) (irq : d.irq = .post) (result : d.result = err)
    (done : d.done = 0)
  | done (stat : lhdIrq d.statReg = none) (irq : d.irq = .idle) (result : d.result = err)
    (done : d.done = 1)

inductive Serving (d : Data T β) (t : T) (io : Io) (i : Nat) : Prop where
  | working (outstanding : d.outstanding = [io.op t i]) (stat : d.statReg = io.statval)
    (sect : d.sectReg = io.sector + BitVec.ofNat 32 i)
    (given : io.write = true → d.buf = d.given t) (irq : d.irq = .idle) (done : d.done = 0)
  | answered (code err : Word) (outstanding : d.outstanding = [])
    (answer : d.answer t = some ⟨io.op t i, code, d.buf⟩) (irq : lhdIrq code = some err)
    (stage : Stage d code err)

def Fits (d : Data T β) (t : T) : Pc → Prop
  | .outside | .clear .. | .moveIn .. | .release .. => Quiet d
  | .sect io _ => Quiet d ∧ (io.write = true → d.buf = d.given t)
  | .stat io i => Quiet d ∧ (io.write = true → d.buf = d.given t) ∧
    d.sectReg = io.sector + BitVec.ofNat 32 i
  | .done io i => Serving d t io i
  | .load io i => Quiet d ∧ ∃ code, d.answer t = some ⟨io.op t i, code, d.buf⟩ ∧
    lhdIrq code = some d.result
  | .moveOut io i result => Quiet d ∧ ∃ code, d.answer t = some ⟨io.op t i, code, d.buf⟩ ∧
    lhdIrq code = some result

inductive Inv (s : State T β) : Prop where
  | free (clear : s.data.clear = 1) (quiet : Quiet s.data) (all : ∀ t, (s.pc t).holds = false)
  | held (t : T) (clear : s.data.clear = 0) (holds : (s.pc t).holds = true)
    (others : ∀ u, u ≠ t → (s.pc u).holds = false) (fits : Fits s.data t (s.pc t))

lemma statval_working (io : Io) : lhdIrq io.statval = none := by
  rw [Io.statval]
  split <;> decide

variable {d : Data T β} {t : T}

lemma lhdIrqStep_idle (hirq : d.irq = .idle) (hstat : lhdIrq d.statReg = none) :
    lhdIrqStep d = d := by
  rw [lhdIrqStep, hirq]
  simp only [hstat, elim_none]
  rw [← hirq]

lemma Fits.quiet (h : Fits d t pc) (hpc : ∀ io i, pc ≠ .done io i) : Quiet d := by
  cases pc with
  | done io i => exact absurd rfl (hpc io i)
  | outside | clear | moveIn | release => exact h
  | sect | stat | load | moveOut => exact h.1

lemma Serving.lhdIrqStep (h : Serving d t io i) : Serving (lhdIrqStep d) t io i := by
  cases h with
  | working hout hstat hsect hgiven hirq hdone =>
    rw [lhdIrqStep_idle hirq (hstat ▸ statval_working io)]
    exact .working hout hstat hsect hgiven hirq hdone
  | answered code err hout hanswer hcode hstage =>
    rw [Exclusion.lhdIrqStep]
    cases hstage with
    | finished hstat hirq hdone =>
      rw [hirq]
      exact .answered code err hout hanswer hcode (.clear (by simp [hstat, hcode]) hdone)
    | clear hirq hdone =>
      rw [hirq]
      exact .answered code err hout hanswer hcode (.store (by simp; decide) rfl hdone)
    | store hstat hirq hdone =>
      rw [hirq]
      exact .answered code err hout hanswer hcode (.post hstat rfl rfl hdone)
    | post hstat hirq hresult hdone =>
      rw [hirq]
      exact .answered code err hout hanswer hcode (.done hstat rfl hresult (by simp [hdone]))
    | done hstat hirq hresult hdone =>
      rw [hirq]
      exact .answered code err hout hanswer hcode (.done hstat (by simp [hstat]) hresult hdone)

lemma lhdIrqStep_clear (d : Data T β) : (lhdIrqStep d).clear = d.clear := by
  rw [lhdIrqStep]
  split <;> rfl

variable [DecidableEq T]

lemma lhdIo_waits (hpc : pc.holds = false)
    (hstep : lhdIo t call moved buf d pc = some (d', k)) : d' = d ∧ k.holds = false ∨
      0 < d.clear ∧ k.holds = true ∧ d' = { d with clear := d.clear - 1 } ∧
        (Quiet d → Fits d' t k) := by
  cases pc with
  | outside =>
    cases hstep
    exact .inl ⟨rfl, rfl⟩
  | clear io i =>
    rw [lhdIo] at hstep
    split_ifs at hstep with hlt hzero hwrite
    · cases hstep
      exact .inr ⟨Nat.pos_of_ne_zero hzero, rfl, rfl, fun h => { h with }⟩
    · cases hstep
      exact .inr ⟨Nat.pos_of_ne_zero hzero, rfl, rfl, fun h =>
        ⟨{ h with }, fun hw => absurd hw hwrite⟩⟩
    · cases hstep
      exact .inl ⟨rfl, rfl⟩
  | _ => cases hpc

lemma lhdIo_holds (hpc : pc.holds = true) (hclear : d.clear = 0) (hfits : Fits d t pc)
    (hstep : lhdIo t call moved buf d pc = some (d', k)) :
    k.holds = true ∧ d'.clear = 0 ∧ Fits d' t k ∨ k.holds = false ∧ d'.clear = 1 ∧ Quiet d' := by
  cases pc with
  | outside => cases hpc
  | clear io i => cases hpc
  | moveIn io i =>
    cases hstep
    have hquiet : Quiet { d with buf := buf, given := update d.given t buf } :=
      { (show Quiet d from hfits) with }
    split
    · exact .inl ⟨rfl, hclear, hquiet, fun _ => (update_self t buf d.given).symm⟩
    · exact .inl ⟨rfl, hclear, hquiet⟩
  | sect io i =>
    cases hstep
    obtain ⟨h, hgiven⟩ := hfits
    exact .inl ⟨rfl, hclear, { h with }, hgiven, rfl⟩
  | stat io i =>
    cases hstep
    obtain ⟨h, hgiven, hsect⟩ := hfits
    exact .inl ⟨rfl, hclear, .working (by simp [h.outstanding]) rfl hsect hgiven h.irq h.done⟩
  | done io i =>
    rw [lhdIo] at hstep
    split at hstep
    · cases hstep
    rename_i hdone
    cases hstep
    -- only a posted completion lets the thread on
    cases hfits with
    | working _ _ _ _ _ hzero => exact absurd hzero hdone
    | answered code err hout hanswer hcode hstage =>
      cases hstage with
      | finished _ _ hzero | clear _ hzero | store _ _ hzero | post _ _ _ hzero =>
        exact absurd hzero hdone
      | done hstat hirq hresult hone =>
        exact .inl ⟨rfl, hclear, ⟨by simp [hone], hstat, hirq, hout⟩, code, hanswer,
          hresult ▸ hcode⟩
  | load io i =>
    cases hstep
    exact .inl ⟨rfl, hclear, hfits⟩
  | moveOut io i result =>
    cases hstep
    exact .inl ⟨rfl, hclear, hfits.1⟩
  | release io i result =>
    cases hstep
    refine .inr ⟨?_, by simp [hclear], hfits.done, hfits.stat, hfits.irq, hfits.outstanding⟩
    split <;> rfl

lemma Quiet.finish (h : Quiet d) (code : Word) (left : β) : finish code left d = none := by
  rw [Exclusion.finish, h.outstanding]

lemma Serving.finish (h : Serving d t io i)
    (hstep : finish code left d = some d') : Serving d' t io i := by
  cases h with
  | answered _ _ hout =>
    rw [Exclusion.finish, hout] at hstep
    cases hstep
  | working hout hstat hsect hgiven hirq hdone =>
    rw [Exclusion.finish, hout] at hstep
    dsimp only at hstep
    split at hstep
    · rename_i hsome
      cases hstep
      obtain ⟨err, herr⟩ := isSome_iff_exists.mp hsome
      exact .answered code err rfl (update_self ..) herr (.finished rfl hirq hdone)
    · cases hstep

end Invariant

section Runs

variable {s : State T β}

lemma Inv.device (h : Inv s) (hclear : d.clear = s.data.clear)
    (hquiet : Quiet s.data → d = s.data)
    (hserving : ∀ t io i, Serving s.data t io i → Serving d t io i) : Inv { s with data := d } := by
  cases h with
  | free hfree hq hall =>
    rw [hquiet hq]
    exact .free hfree hq hall
  | held t hheld hholds hothers hfits =>
    refine .held t (hclear.trans hheld) hholds hothers ?_
    dsimp only
    cases hpc : s.pc t with
    | done io i =>
      rw [hpc] at hfits
      exact hserving t io i hfits
    | _ =>
      rw [hquiet (hfits.quiet (by simp [hpc])), ← hpc]
      exact hfits

variable [DecidableEq T]

lemma Inv.finish (h : Inv s) (hd : finish code left s.data = some d) :
    Inv { s with data := d } := by
  have hnot : ¬ Quiet s.data := by
    intro hq
    rw [hq.finish] at hd
    cases hd
  have hclear : d.clear = s.data.clear := by
    rw [Exclusion.finish] at hd
    split at hd
    · cases hd
    · split at hd <;> cases hd
      rfl
  exact h.device hclear (fun hq => absurd hq hnot) fun _ _ _ hserving => hserving.finish hd

lemma Inv.thread (h : Inv s) (hnext : lhdIo u call moved buf s.data (s.pc u) = some (d, k))
    (hself : pc u = k) (hsame : ∀ v, v ≠ u → pc v = s.pc v) : Inv ⟨d, pc⟩ := by
  subst hself
  have hmove : ∀ v, (v = u → (pc u).holds = false) → (v ≠ u → (s.pc v).holds = false) →
      (pc v).holds = false := by
    intro v hself hother
    by_cases hv : v = u
    · exact hv ▸ hself hv
    · rw [hsame v hv]
      exact hother hv
  cases h with
  | free hfree hq hall =>
    rcases lhdIo_waits (hall u) hnext with ⟨rfl, hk⟩ | ⟨-, hk, rfl, hfits⟩
    · exact .free hfree hq fun v => hmove v (fun _ => hk) fun _ => hall v
    · exact .held u (by simp [hfree]) hk (fun v hv => hmove v (absurd · hv) fun _ => hall v)
        (hfits hq)
  | held t hclear hholds hothers hfits =>
    by_cases hut : u = t
    · subst hut
      rcases lhdIo_holds hholds hclear hfits hnext with ⟨hk, hzero, hfits'⟩ | ⟨hk, hone, hq⟩
      · exact .held u hzero hk (fun v hv => hmove v (absurd · hv) (hothers v)) hfits'
      · exact .free hone hq fun v => hmove v (fun _ => hk) (hothers v)
    rcases lhdIo_waits (hothers u hut) hnext with ⟨rfl, hk⟩ | ⟨hpos, -⟩
    · rw [← hsame t (Ne.symm hut)] at hholds hfits
      exact .held t hclear hholds (fun v hv => hmove v (fun _ => hk) fun _ => hothers v hv) hfits
    · omega

lemma Inv.step (h : Inv s) (hstep : step event s = some s') : Inv s' := by
  cases event with
  | irq =>
    cases hstep
    exact h.device (lhdIrqStep_clear _) (fun hq => lhdIrqStep_idle hq.irq hq.stat)
      fun _ _ _ => Serving.lhdIrqStep
  | finish code left =>
    obtain ⟨d, hd, rfl⟩ := map_eq_some_iff.mp hstep
    exact h.finish hd
  | thread u call moved buf =>
    obtain ⟨⟨d, k⟩, hnext, rfl⟩ := map_eq_some_iff.mp hstep
    exact h.thread hnext (update_self ..) fun v hv => update_of_ne hv ..

omit [DecidableEq T] in
lemma Inv.encard (h : Inv s) :
    (s.data.clear : ℕ∞) + {t | (s.pc t).holds = true}.encard = 1 := by
  cases h with
  | free hfree hq hall =>
    have hnone : {t | (s.pc t).holds = true} = ∅ := by
      ext t
      simp [hall t]
    simp [hnone, hfree]
  | held t hclear hholds hothers hfits =>
    have hone : {t | (s.pc t).holds = true} = {t} := by
      refine Set.ext fun u => ⟨fun hu => ?_, fun hu => (hu : u = t) ▸ hholds⟩
      by_contra hut
      exact absurd hu (by simp [hothers u hut])
    simp [hone, hclear]

omit [DecidableEq T] in
lemma Inv.fits (h : Inv s) (hpc : s.pc t = pc) (ht : pc.holds = true) : Fits s.data t pc := by
  subst hpc
  cases h with
  | free hfree hq hall =>
    rw [hall t] at ht
    cases ht
  | held u hclear hholds hothers hfits =>
    obtain rfl : t = u := by
      by_contra htu
      rw [hothers t htu] at ht
      cases ht
    exact hfits

omit [DecidableEq T] in
lemma Inv.exclusive (h : Inv s) : Exclusive s := by
  have hserving : Quiet s.data ∨ ∃ t io i, s.pc t = .done io i ∧ Serving s.data t io i := by
    cases h with
    | free hfree hq hall => exact .inl hq
    | held t hclear hholds hothers hfits =>
      cases hpc : s.pc t with
      | done io i =>
        rw [hpc] at hfits
        exact .inr ⟨t, io, i, hpc, hfits⟩
      | _ => exact .inl (hfits.quiet (by simp [hpc]))
  refine ⟨?_, h.encard, ?_, fun op hop => ?_, fun t io i hpc => ?_, fun t io i result hpc => ?_,
    fun hall => ?_⟩
  · rcases hserving with hq | ⟨t, io, i, -, hwork | ⟨_, _, hout⟩⟩
    · simp [hq.outstanding]
    · simp [hwork]
    · simp [hout]
  · rcases hserving with hq | ⟨t, io, i, -, ⟨_, _, _, _, _, hdone⟩ | ⟨_, _, _, _, _, hstage⟩⟩
    · simp [hq.done]
    · simp [hdone]
    cases hstage with
    | finished _ _ hdone | clear _ hdone | store _ _ hdone | post _ _ _ hdone
    | done _ _ _ hdone => simp [hdone]
  · rcases hserving with hq | ⟨t, io, i, hpc, ⟨hout, hstat, hsect, hgiven, _, _⟩ | ⟨_, _, hout⟩⟩
    · simp [hq.outstanding] at hop
    · obtain rfl : op = io.op t i := by simpa [hout] using hop
      exact ⟨hsect, hstat, io, i, hpc, rfl, hgiven⟩
    · simp [hout] at hop
  · exact (h.fits hpc rfl).2
  · exact (h.fits hpc rfl).2
  cases h with
  | free hfree hq _ => exact ⟨hfree, hq.done, hq.outstanding⟩
  | held t _ hholds _ _ =>
    rw [hall t] at hholds
    cases hholds

-- However the threads, the device and the interrupts interleave, one thread at a time has the
-- disk, and what it gets is the outcome of its own operation.
theorem lhd_exclusive {result sectReg : Word} {buf : β}
    (hrun : Relation.ReflTransGen Step (attached result sectReg buf) s) : Exclusive s := by
  have hattached : Inv (attached result sectReg buf : State T β) :=
    .free rfl ⟨rfl, (by decide : lhdIrq LHD_IDLE = none), rfl, rfl⟩ fun _ => rfl
  have hkeep : ∀ s s' : State T β, Inv s → Step s s' → Inv s' :=
    fun _ _ h ⟨_, hstep⟩ => h.step hstep
  exact (Lib.Run.invariant hkeep hattached hrun).exclusive

theorem lhd_exclusive_working : ∃ s : State Bool Nat, Exclusive s ∧
    s.data.outstanding = [⟨true, 5, LHD_WORKING⟩] ∧ s.data.clear = 0 :=
  ⟨_, lhd_exclusive ((((Relation.ReflTransGen.refl.tail
    (b := attached 0 0 0) ⟨.thread true ⟨5, 1, false⟩ 0 0, rfl⟩).tail
    ⟨.thread true ⟨5, 1, false⟩ 0 0, rfl⟩).tail ⟨.thread true ⟨5, 1, false⟩ 0 0, rfl⟩).tail
    ⟨.thread true ⟨5, 1, false⟩ 0 0, rfl⟩), rfl, rfl⟩

end Runs

end Os161.Lhd.Exclusion
