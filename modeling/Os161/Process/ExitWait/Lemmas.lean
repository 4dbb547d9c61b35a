import Os161.Process.ExitWait

namespace Os161.Process

open Function Lib Lib.Threads Vm Synch

variable {T : Type}

def waitpidHolds : WaitpidPc → WaitLock → Prop
  | .exit .remDrop, m | .exit .remRelease, m => m = .pLock
  | .exit (.inV v), m => v.locked = true ∧ m = .semLock
  | .wait _ (.inP p), m => p.locked = true ∧ m = .semLock
  | .wait _ (.destroy .clear _), m | .wait _ (.destroy .release _), m => m = .tableLock
  | _, _ => False

def waitpidWaits : WaitpidPc → Option Unit
  | .wait _ (.inP .reacquire) => some ()
  | _ => none

lemma exitCode_respects (exitStatus : Word) (e : ExitPc) :
    (exitCode exitStatus e : WaitInstr T).Respects waitpidHolds waitpidWaits (.exit e) := by
  cases e with
  | status | detach => exact respects_to fun m => Iff.rfl
  | remAcquire => exact ⟨id, fun m => by simp [waitpidHolds]⟩
  | remDrop => exact respects_assert fun m => Iff.rfl
  | remRelease => exact ⟨rfl, fun m => by simp [waitpidHolds]⟩
  | signal => exact respects_to fun m => by simp [waitpidHolds, VPc.locked]
  | inV v =>
    have hin : ∀ v m, waitpidHolds (.exit (.inV v)) m ↔
        False ∨ (v.locked = true ∧ m = pSem.semLock) := by
      simp [waitpidHolds, pSem]
    have hret : ∀ m, waitpidHolds (.exit .threadExit) m ↔ False := fun m => Iff.rfl
    exact V_respects (fun _ => False) id hin hret v
  | threadExit => intro i d d' k hact; cases hact

lemma destroyCode_respects (statusp : Bool) (s : Word) (p : DestroyPc) :
    (destroyCode (fun p => .wait statusp (.destroy p s)) (.wait statusp (.store s)) p :
      WaitInstr T).Respects waitpidHolds waitpidWaits (.wait statusp (.destroy p s)) := by
  cases p with
  | fields => exact respects_assert fun m => Iff.rfl
  | cleanup | semDestroy => exact fun m => Iff.rfl
  | acquire => exact ⟨id, fun m => by simp [waitpidHolds]⟩
  | clear | free => exact respects_to fun m => Iff.rfl
  | release => exact ⟨rfl, fun m => by simp [waitpidHolds]⟩

lemma waitCode_respects (statusp : Bool) (w : WaitPc) :
    (waitCode statusp w : WaitInstr T).Respects waitpidHolds waitpidWaits (.wait statusp w) := by
  cases w with
  | search =>
    intro i d d' k hact m
    obtain ⟨-, rfl⟩ : _ ∧ _ = k := by simpa using hact
    split <;> rfl
  | check | store s => exact respects_to fun m => Iff.rfl
  | sem => exact respects_to fun m => by simp [waitpidHolds, PPc.locked]
  | inP p =>
    have hin : ∀ p m, waitpidHolds (.wait statusp (.inP p)) m ↔
        False ∨ (p.locked = true ∧ m = pSem.semLock) := by
      simp [waitpidHolds, pSem]
    have hret : ∀ m, waitpidHolds (.wait statusp .status) m ↔ False := fun m => Iff.rfl
    have hwaits : waitpidWaits (.wait statusp (.inP .reacquire)) = some pSem.semWchan := rfl
    exact P_respects (fun _ => False) id hin hret hwaits p
  | status =>
    intro i d d' k hact m
    obtain ⟨-, rfl⟩ : _ ∧ _ = k := by simpa using hact
    rfl
  | destroy p s => exact destroyCode_respects statusp s p

lemma waitpidCode_respects (exitStatus : Word) (t : T) (pc : WaitpidPc) :
    (waitpidCode exitStatus t pc).Respects waitpidHolds waitpidWaits pc := by
  cases pc with
  | outside =>
    intro statusp d d' k hact m
    obtain ⟨-, rfl⟩ : _ ∧ _ = k := by simpa using hact
    rfl
  | exit e => exact exitCode_respects exitStatus e
  | wait statusp w => exact waitCode_respects statusp w
  | returned stored => exact respects_to fun m => Iff.rfl
  | trapped => intro i d d' k hact; cases hact

-- Where a thread is in the life of the process structure: before V has raised the count, in V, at
-- thread_exit, with the pointer, and after P on the way to freeing the structure.
inductive Place where
  | elsewhere | exiting | signalling | exited | waiting | reaping | cleared | freeing
  deriving DecidableEq, Repr

def DestroyPc.place : DestroyPc → Place
  | .fields | .cleanup | .acquire | .clear => .reaping
  | .release | .semDestroy => .cleared
  | .free => .freeing

def WaitPc.place : WaitPc → Place
  | .search | .store _ => .elsewhere
  | .inP .release | .status => .reaping
  | .destroy p _ => p.place
  | .check | .sem | .inP _ => .waiting

def WaitpidPc.place : WaitpidPc → Place
  | .outside | .returned _ | .trapped => .elsewhere
  | .exit (.inV .wake) | .exit (.inV .release) => .signalling
  | .exit .threadExit => .exited
  | .exit _ => .exiting
  | .wait _ w => w.place

def Place.reaps : Place → Bool
  | .reaping | .cleared | .freeing => true
  | _ => false

def Place.pointer (p : Place) : Bool := p == .waiting || p.reaps

structure Intact (d : Life) : Prop where
  entry : d.entry = true
  sem : d.semDestroyed = 0
  proc : d.procDestroyed = 0

inductive Reaping : Place → Life → Prop where
  | reaping {d : Life} (h : Intact d) : Reaping .reaping d
  | cleared {d : Life} (hentry : d.entry = false) (hsem : d.semDestroyed = 0)
      (hproc : d.procDestroyed = 0) : Reaping .cleared d
  | freeing {d : Life} (hentry : d.entry = false) (hproc : d.procDestroyed = 0) :
      Reaping .freeing d

inductive Phase (exiter : T) (place : T → Place) (d : Life) : Prop where
  | running (hexit : place exiter = .exiting) (hcount : d.semCount = 0#32)
      (hnobody : ∀ t, (place t).reaps = false) (hintact : Intact d)
  | signalled (hexit : place exiter = .signalling ∨ place exiter = .exited)
      (hcount : d.semCount = 1#32) (hnobody : ∀ t, (place t).reaps = false) (hintact : Intact d)
  | reaped (hexit : place exiter = .exited) (hcount : d.semCount = 0#32) (t : T)
      (hreaping : Reaping (place t) d)
  | gone (hexit : place exiter = .exited) (hnobody : ∀ t, (place t).pointer = false)
      (hentry : d.entry = false) (hproc : d.procDestroyed = 1)

def WaitpidPc.value : WaitpidPc → Option Word
  | .wait _ (.destroy _ s) | .wait _ (.store s) => some s
  | .returned stored => stored
  | _ => none

structure Protocol (exiter : T) (exitStatus : Word) (s : WaitState T) : Prop where
  exits : ∀ t e, s.pc t = .exit e → t = exiter
  alone : ∀ t u, (s.pc t).place.pointer = true → (s.pc u).place.pointer = true → t = u
  phase : Phase exiter (fun t => (s.pc t).place) s.data.toLife
  status : s.pc exiter ≠ .exit .status → s.data.pStatus = exitStatus &&& 0xff#32
  values : ∀ t v, (s.pc t).value = some v → v = exitStatus &&& 0xff#32
  unused : s.data.misused = false

section Protocol

variable {exiter t : T} {exitStatus : Word} {s s' : WaitState T} {k : WaitpidPc}

variable {p : Place} {place : T → Place} {e : ExitPc} {statusp : Bool} {w w' : WaitPc}

lemma Place.pointer_of_reaps (h : p.reaps = true) : p.pointer = true := by
  simp [Place.pointer, h]

lemma Reaping.reaps (h : Reaping p d) : p.reaps = true := by
  cases h <;> rfl

lemma Reaping.proc (h : Reaping p d) : d.procDestroyed = 0 := by
  cases h with
  | reaping h => exact h.proc
  | cleared _ _ hproc | freeing _ hproc => exact hproc

lemma WaitpidPc.exit_of_place {pc : WaitpidPc}
    (h : pc.place = .exiting ∨ pc.place = .signalling) : ∃ e, pc = .exit e := by
  cases pc with
  | exit e => exact ⟨e, rfl⟩
  | wait statusp w =>
    exfalso
    cases w with
    | inP p => cases p <;> simp [WaitpidPc.place, WaitPc.place] at h
    | destroy p s => cases p <;> simp [WaitpidPc.place, WaitPc.place, DestroyPc.place] at h
    | _ => simp [WaitpidPc.place, WaitPc.place] at h
  | _ => simp [WaitpidPc.place] at h

section

variable (h : Protocol exiter exitStatus s)

include h

lemma Protocol.exiter_place (ht : (s.pc t).place = .exiting ∨ (s.pc t).place = .signalling) :
    (s.pc exiter).place ≠ .exited := by
  obtain ⟨e, hpc⟩ := WaitpidPc.exit_of_place ht
  obtain rfl := h.exits t e hpc
  rcases ht with ht | ht <;> simp [ht]

lemma Protocol.proc_alive (ht : ((s.pc t).place = .exiting ∨ (s.pc t).place = .signalling) ∨
      (s.pc t).place.pointer = true) : s.data.procDestroyed = 0 := by
  cases h.phase with
  | running _ _ _ hintact | signalled _ _ _ hintact => exact hintact.proc
  | reaped _ _ u hreaping => exact hreaping.proc
  | gone hexit hnobody _ _ =>
    rcases ht with ht | ht
    · exact absurd hexit (h.exiter_place ht)
    · rw [hnobody t] at ht
      cases ht

lemma Protocol.sem_alive (ht : ((s.pc t).place = .exiting ∨ (s.pc t).place = .signalling) ∨
      ((s.pc t).place.pointer = true ∧ (s.pc t).place ≠ .freeing)) : s.data.semDestroyed = 0 := by
  cases h.phase with
  | running _ _ _ hintact | signalled _ _ _ hintact => exact hintact.sem
  | reaped hexit _ u hreaping =>
    rcases ht with ht | ⟨ht, hnot⟩
    · exact absurd hexit (h.exiter_place ht)
    obtain rfl := h.alone t u ht (Place.pointer_of_reaps hreaping.reaps)
    generalize hp : (s.pc t).place = p at hreaping hnot
    cases hreaping with
    | reaping hintact => exact hintact.sem
    | cleared _ hsem _ => exact hsem
    | freeing => exact absurd rfl hnot
  | gone hexit hnobody _ _ =>
    rcases ht with ht | ⟨ht, -⟩
    · exact absurd hexit (h.exiter_place ht)
    · rw [hnobody t] at ht
      cases ht

lemma Protocol.useProc_eq (ht : ((s.pc t).place = .exiting ∨ (s.pc t).place = .signalling) ∨
      (s.pc t).place.pointer = true) : s.data.useProc = s.data := by
  simp [WaitData.useProc, h.proc_alive ht]

lemma Protocol.useSem_eq (ht : ((s.pc t).place = .exiting ∨ (s.pc t).place = .signalling) ∨
      ((s.pc t).place.pointer = true ∧ (s.pc t).place ≠ .freeing)) : s.data.useSem = s.data := by
  simp [WaitData.useSem, h.sem_alive ht]

lemma Protocol.reaper (ht : (s.pc t).place.reaps = true) :
    (s.pc exiter).place = .exited ∧ s.data.semCount = 0#32 ∧
      Reaping (s.pc t).place s.data.toLife := by
  cases h.phase with
  | running _ _ hnobody _ | signalled _ _ hnobody _ =>
    rw [hnobody t] at ht
    cases ht
  | reaped hexit hcount u hreaping =>
    obtain rfl := h.alone t u (Place.pointer_of_reaps ht) (Place.pointer_of_reaps hreaping.reaps)
    exact ⟨hexit, hcount, hreaping⟩
  | gone _ hnobody _ _ =>
    have := Place.pointer_of_reaps ht
    rw [hnobody t] at this
    cases this

end

variable [DecidableEq T]

section

variable (h : Protocol exiter exitStatus s) (hs' : s'.pc = update s.pc t k)
  (hexits : ∀ e, k = .exit e → t = exiter)

include h hs' hexits

lemma protocol_moved (halone : k.place.pointer = true → (s.pc t).place.pointer = true ∨
      ∀ u, (s.pc u).place.pointer = false)
    (hvalue : ∀ v, k.value = some v → (s.pc t).value = some v ∨ v = exitStatus &&& 0xff#32)
    (hstatus : (s'.data.pStatus = s.data.pStatus ∧ s.pc t ≠ .exit .status) ∨
      s'.data.pStatus = exitStatus &&& 0xff#32)
    (hunused : s'.data.misused = false)
    (hphase : Phase exiter (update (fun u => (s.pc u).place) t k.place)
      s'.data.toLife) : Protocol exiter exitStatus s' := by
  have hplace : (fun u => (s'.pc u).place) =
      update (fun u => (s.pc u).place) t k.place := by
    rw [hs']
    exact Function.comp_update WaitpidPc.place s.pc t k
  have hother : ∀ u, u ≠ t → s'.pc u = s.pc u := fun u hu => by rw [hs', update_of_ne hu]
  have hself : s'.pc t = k := by rw [hs', update_self]
  refine ⟨fun u e hu => ?_, fun u v hu hv => ?_, by rwa [hplace], fun hnot => ?_,
    fun u v hu => ?_, hunused⟩
  · by_cases hut : u = t
    · subst hut
      exact hexits e (hself.symm.trans hu)
    · exact h.exits u e ((hother u hut).symm.trans hu)
  · have hmoved : ∀ w, w ≠ t → (s'.pc w).place.pointer = true →
        (s'.pc t).place.pointer = true → w = t := by
      intro w hwt hw ht
      rw [hother w hwt] at hw
      rw [hself] at ht
      rcases halone ht with hold | hnone
      · exact h.alone w t hw hold
      · rw [hnone w] at hw
        cases hw
    by_cases hut : u = t
    · subst hut
      by_cases hvu : v = u
      · exact hvu.symm
      · exact (hmoved v hvu hv hu).symm
    by_cases hvt : v = t
    · subst hvt
      exact hmoved u hut hu hv
    rw [hother u hut] at hu
    rw [hother v hvt] at hv
    exact h.alone u v hu hv
  · rcases hstatus with ⟨hsame, hnot'⟩ | hset
    · rw [hsame]
      refine h.status fun hexiter => ?_
      by_cases hxt : exiter = t
      · exact hnot' (hxt ▸ hexiter)
      · exact hnot ((hother exiter hxt).trans hexiter)
    · exact hset
  by_cases hut : u = t
  · subst hut
    rw [hself] at hu
    rcases hvalue v hu with hold | hv
    · exact h.values u v hold
    · exact hv
  · rw [hother u hut] at hu
    exact h.values u v hu

lemma protocol_passes
    (hvalue : ∀ v, k.value = some v → (s.pc t).value = some v ∨ v = exitStatus &&& 0xff#32)
    (hstatus : (s'.data.pStatus = s.data.pStatus ∧ s.pc t ≠ .exit .status) ∨
      s'.data.pStatus = exitStatus &&& 0xff#32)
    (hunused : s'.data.misused = false) (hplace : k.place = (s.pc t).place)
    (hlife : s'.data.toLife = s.data.toLife) : Protocol exiter exitStatus s' := by
  refine protocol_moved h hs' hexits (fun hk => .inl (hplace ▸ hk)) hvalue hstatus hunused ?_
  rw [hplace, update_eq_self, hlife]
  exact h.phase

end

lemma exiter_stays (hexit : place exiter = q)
    (ht : place t ≠ q) : update place t p exiter = q := by
  have hne : exiter ≠ t := by
    rintro rfl
    exact ht hexit
  rw [update_of_ne hne, hexit]

lemma none_moved (f : Place → Bool)
    (h : ∀ u, f (place u) = false) (hp : f p = false) (u : T) : f (update place t p u) = false := by
  by_cases hut : u = t
  · subst hut
    rwa [update_self]
  · rw [update_of_ne hut]
    exact h u

lemma exit_pointer (e : ExitPc) : (WaitpidPc.exit e).place.pointer = false := by
  cases e with
  | inV v => cases v <;> rfl
  | _ => rfl

section

variable (h : Protocol exiter exitStatus s)

include h

section

variable (hpc : s.pc t = .exit e) (hs' : s'.pc = update s.pc t (.exit e'))

include hpc hs'

lemma exit_moves (he : e ≠ .status)
    (hstatus : s'.data.pStatus = s.data.pStatus) (hunused : s'.data.misused = s.data.misused)
    (hphase : Phase exiter
      (update (fun u => (s.pc u).place) t (WaitpidPc.exit e').place) s'.data.toLife) :
    Protocol exiter exitStatus s' := by
  refine protocol_moved h hs' (fun _ _ => h.exits t e hpc) ?_ ?_ (.inl ⟨hstatus, ?_⟩)
    (hunused.trans h.unused) hphase
  · simp [exit_pointer]
  · simp [WaitpidPc.value]
  · simp [hpc, he]

lemma exit_passes (hplace : (WaitpidPc.exit e').place = (WaitpidPc.exit e).place)
    (he : e ≠ .status)
    (hstatus : s'.data.pStatus = s.data.pStatus) (hunused : s'.data.misused = s.data.misused)
    (hlife : s'.data.toLife = s.data.toLife) : Protocol exiter exitStatus s' := by
  refine exit_moves h hpc hs' he hstatus hunused ?_
  rw [hplace, ← hpc, update_eq_self, hlife]
  exact h.phase

end

section

variable (hpc : s.pc t = .wait statusp w) (hs' : s'.pc = update s.pc t (.wait statusp w'))
  (hpointer : w.place.pointer = true)

include hpc hs' hpointer

lemma wait_moves (hvalue : ∀ v, (WaitpidPc.wait statusp w').value = some v →
      (WaitpidPc.wait statusp w).value = some v ∨ v = exitStatus &&& 0xff#32)
    (hstatus : s'.data.pStatus = s.data.pStatus) (hunused : s'.data.misused = s.data.misused)
    (hphase : Phase exiter (update (fun u => (s.pc u).place) t w'.place)
      s'.data.toLife) : Protocol exiter exitStatus s' := by
  refine protocol_moved h hs' (by simp) (fun _ => .inl ?_) ?_ (.inl ⟨hstatus, by simp [hpc]⟩)
    (hunused.trans h.unused) hphase
  · rw [hpc]
    exact hpointer
  · rw [hpc]
    exact hvalue

lemma wait_passes (hplace : w'.place = w.place)
    (hvalue : ∀ v, (WaitpidPc.wait statusp w').value = some v →
      (WaitpidPc.wait statusp w).value = some v ∨ v = exitStatus &&& 0xff#32)
    (hdata : s'.data = s.data) : Protocol exiter exitStatus s' := by
  refine wait_moves h hpc hs' hpointer hvalue (by rw [hdata]) (by rw [hdata]) ?_
  have hsame : w'.place = (s.pc t).place := by rw [hpc, hplace]; rfl
  rw [hsame, update_eq_self, hdata]
  exact h.phase

end

end

end Protocol

end Os161.Process
