import Os161.Vm.Coremap

-- The address spaces of kern/arch/mips/vm/dumbvm.c (DUMBVM_WITH_FREE), over coremap.c; freeppages
-- is told how many pages to free. The structure comes out of a page that kmalloc has already.

namespace Os161.Dumbvm

open Lib.Exec Vm EStateM

def DUMBVM_STACKPAGES : Word := 18#32

structure AddrSpace where
  asVbase1 : Word
  asPbase1 : Word
  asNpages1 : Word
  asVbase2 : Word
  asPbase2 : Word
  asNpages2 : Word
  asStackpbase : Word
  deriving DecidableEq, Repr

def freeppages (env : Env) (addr npages : Word) : Kern Word := do
  let active ← isTableActive env
  if active then
    let s ← get
    kassert (addr.toNat / PAGE_SIZE < s.coremap.nRamFrames) "nRamFrames>first"
    critical env .freemem fun s =>
      ((), s.setCoremap (s.coremap.putRun (addr.toNat / PAGE_SIZE) npages.toInt))
    pure 1#32
  else pure 0#32

def asCreate : AddrSpace := ⟨0#32, 0#32, 0#32, 0#32, 0#32, 0#32, 0#32⟩

def asDestroy (env : Env) (as : AddrSpace) : Kern Unit := do
  let _ ← freeppages env as.asPbase1 as.asNpages1
  let _ ← freeppages env as.asPbase2 as.asNpages2
  let _ ← freeppages env as.asStackpbase DUMBVM_STACKPAGES
  pure ()

def asZeroRegion (paddr npages : Word) : Kern Unit :=
  modify fun s => s.setMem fun i =>
    if paddr.toNat ≤ i ∧ i < paddr.toNat + npages.toNat * PAGE_SIZE then 0 else s.mem i

def copyRegion (dst src npages : Word) : Kern Unit :=
  modify fun s => s.setMem fun i =>
    if dst.toNat ≤ i ∧ i < dst.toNat + npages.toNat * PAGE_SIZE then
      s.mem (src.toNat + (i - dst.toNat))
    else s.mem i

def asPrepareLoad (env : Env) (as : AddrSpace) : Kern (Word × AddrSpace) := do
  kassert (as.asPbase1 = 0) "as->as_pbase1 == 0"
  kassert (as.asPbase2 = 0) "as->as_pbase2 == 0"
  kassert (as.asStackpbase = 0) "as->as_stackpbase == 0"
  let pbase1 ← getppages env as.asNpages1
  if pbase1 = 0#32 then pure (ENOMEM, { as with asPbase1 := pbase1 })
  else do
    let pbase2 ← getppages env as.asNpages2
    if pbase2 = 0#32 then pure (ENOMEM, { as with asPbase1 := pbase1, asPbase2 := pbase2 })
    else do
      let stackpbase ← getppages env DUMBVM_STACKPAGES
      let as := { as with asPbase1 := pbase1, asPbase2 := pbase2, asStackpbase := stackpbase }
      if stackpbase = 0#32 then pure (ENOMEM, as)
      else do
        asZeroRegion as.asPbase1 as.asNpages1
        asZeroRegion as.asPbase2 as.asNpages2
        asZeroRegion as.asStackpbase DUMBVM_STACKPAGES
        pure (0#32, as)

def asCopy (env : Env) (kmallocFails : Bool) (old : AddrSpace) : Kern (Except Word AddrSpace) := do
  if kmallocFails then pure (.error ENOMEM)
  else do
    let (result, new) ← asPrepareLoad env { asCreate with
      asVbase1 := old.asVbase1
      asNpages1 := old.asNpages1
      asVbase2 := old.asVbase2
      asNpages2 := old.asNpages2 }
    if result ≠ 0 then do
      asDestroy env new
      pure (.error ENOMEM)
    else do
      kassert (new.asPbase1 ≠ 0) "new->as_pbase1 != 0"
      kassert (new.asPbase2 ≠ 0) "new->as_pbase2 != 0"
      kassert (new.asStackpbase ≠ 0) "new->as_stackpbase != 0"
      copyRegion new.asPbase1 old.asPbase1 old.asNpages1
      copyRegion new.asPbase2 old.asPbase2 old.asNpages2
      copyRegion new.asStackpbase old.asStackpbase DUMBVM_STACKPAGES
      pure (.ok new)

-- The allocator after the requests of as_prepare_load, and what they were answered. The bases
-- after a refused request are zero.
structure Reserved where
  coremap : Coremap
  ram : Ram
  pbase1 : Word
  pbase2 : Word
  stackpbase : Word

def reserve (coremap : Coremap) (ram : Ram) (npages1 npages2 : Word) : Reserved :=
  let pbase1 := allocAddr coremap ram npages1
  let coremap1 := allocCoremap coremap ram npages1
  let ram1 := allocRam coremap ram npages1
  if pbase1 = 0#32 then ⟨coremap1, ram1, 0#32, 0#32, 0#32⟩
  else
    let pbase2 := allocAddr coremap1 ram1 npages2
    let coremap2 := allocCoremap coremap1 ram1 npages2
    let ram2 := allocRam coremap1 ram1 npages2
    if pbase2 = 0#32 then ⟨coremap2, ram2, pbase1, 0#32, 0#32⟩
    else ⟨allocCoremap coremap2 ram2 DUMBVM_STACKPAGES, allocRam coremap2 ram2 DUMBVM_STACKPAGES,
      pbase1, pbase2, allocAddr coremap2 ram2 DUMBVM_STACKPAGES⟩

def Refused (coremap : Coremap) (ram : Ram) (old : AddrSpace) : Prop :=
  (reserve coremap ram old.asNpages1 old.asNpages2).stackpbase = 0#32

def Covers (base npages : Word) (i : Nat) : Prop :=
  base.toNat / PAGE_SIZE ≤ i ∧ (i : Int) < (base.toNat / PAGE_SIZE : Nat) + npages.toInt

def Reserved.stole (r : Reserved) (ram : Ram) (i : Nat) : Prop :=
  ram.firstpaddr.toNat ≤ i * PAGE_SIZE ∧ i * PAGE_SIZE < r.ram.firstpaddr.toNat

def Reserved.frees (r : Reserved) (old : AddrSpace) (i : Nat) : Prop :=
  Covers r.pbase1 old.asNpages1 i ∨ Covers r.pbase2 old.asNpages2 i ∨
    Covers r.stackpbase DUMBVM_STACKPAGES i

-- With the table, what is marked free was free before, what was taken is marked again, and fresh
-- memory had its mark already; without it nothing was handed out.
def FailsCleanly (coremap : Coremap) (ram : Ram) (old : AddrSpace) : Prop :=
  let r := reserve coremap ram old.asNpages1 old.asNpages2
  if coremap.allocTableActive then
    (∀ i, r.frees old i → coremap.freeRamFrames i = true) ∧
      (∀ i, coremap.freeRamFrames i = true → r.coremap.freeRamFrames i = true ∨ r.frees old i) ∧
      ∀ i, r.stole ram i → coremap.freeRamFrames i = true
  else ∀ i, ¬ r.stole ram i

def Restored (coremap : Coremap) (ram : Ram) (t : State) : Prop :=
  t.coremap.freeRamFrames = coremap.freeRamFrames ∧
    ∀ i, ram.firstpaddr.toNat ≤ i * PAGE_SIZE → i * PAGE_SIZE < t.ram.firstpaddr.toNat →
      t.coremap.allocTableActive = true ∧ t.coremap.freeRamFrames i = true

variable {env : Env} {s t : State} {coremap : Coremap} {npages : Word} {i : Nat}

lemma takeRun_free (h : (coremap.takeRun npages).2.freeRamFrames i = true) :
    coremap.freeRamFrames i = true := by
  unfold Coremap.takeRun at h
  simp only at h
  split at h
  · simp only at h
    split at h
    · cases h
    · exact h
  · exact h

lemma recordSize_free (addr : Word) :
    (coremap.recordSize npages addr).freeRamFrames = coremap.freeRamFrames := by
  unfold Coremap.recordSize
  split <;> rfl

lemma allocCoremap_free (h : (allocCoremap coremap ram npages).freeRamFrames i = true) :
    coremap.freeRamFrames i = true := by
  rw [allocCoremap, recordSize_free, Coremap.recycle] at h
  split at h
  · exact takeRun_free h
  · exact h

lemma allocCoremap_active :
    (allocCoremap coremap ram npages).allocTableActive = coremap.allocTableActive := by
  unfold allocCoremap Coremap.recordSize Coremap.recycle Coremap.takeRun
  simp only
  split <;> split <;> (try split) <;> rfl

lemma reserve_free (h : (reserve coremap ram npages1 npages2).coremap.freeRamFrames i = true) :
    coremap.freeRamFrames i = true := by
  unfold reserve at h
  simp only at h
  split at h
  · exact allocCoremap_free h
  split at h
  · dsimp only at h
    exact allocCoremap_free (allocCoremap_free h)
  · dsimp only at h
    exact allocCoremap_free (allocCoremap_free (allocCoremap_free h))

lemma reserve_active (npages1 npages2 : Word) :
    (reserve coremap ram npages1 npages2).coremap.allocTableActive = coremap.allocTableActive := by
  unfold reserve
  simp only
  split
  · exact allocCoremap_active
  split
  · rw [allocCoremap_active, allocCoremap_active]
  · rw [allocCoremap_active, allocCoremap_active, allocCoremap_active]

lemma allocCoremap_inactive (h : coremap.allocTableActive = false) :
    (allocCoremap coremap ram npages).freeRamFrames = coremap.freeRamFrames := by
  rw [allocCoremap, recordSize_free, Coremap.recycle, h]
  rfl

lemma reserve_inactive (h : coremap.allocTableActive = false) (npages1 npages2 : Word) :
    (reserve coremap ram npages1 npages2).coremap.freeRamFrames = coremap.freeRamFrames := by
  unfold reserve
  simp only
  have h1 : (allocCoremap coremap ram npages1).allocTableActive = false :=
    allocCoremap_active.trans h
  split
  · exact allocCoremap_inactive h
  split
  · dsimp only
    rw [allocCoremap_inactive h1, allocCoremap_inactive h]
  dsimp only
  rw [allocCoremap_inactive (allocCoremap_active.trans h1), allocCoremap_inactive h1,
    allocCoremap_inactive h]

lemma getppages_result (h : (getppages env npages).run s = .ok addr t) :
    addr = allocAddr s.coremap s.ram npages ∧ t.coremap = allocCoremap s.coremap s.ram npages ∧
        t.ram = allocRam s.coremap s.ram npages := by
  obtain ⟨-, -, rfl, rfl⟩ := getppages_ok.mp h
  exact ⟨rfl, rfl, rfl⟩

section Copy

variable {old : AddrSpace}

lemma asPrepareLoad_result (hzero : as.asPbase1 = 0#32 ∧ as.asPbase2 = 0#32 ∧
      as.asStackpbase = 0#32)
    (h : (asPrepareLoad env as).run s = .ok (result, new) t) :
    let r := reserve s.coremap s.ram as.asNpages1 as.asNpages2
    t.coremap = r.coremap ∧ t.ram = r.ram ∧ (result ≠ 0 ↔ r.stackpbase = 0#32) ∧ new = { as with
        asPbase1 := r.pbase1, asPbase2 := r.pbase2, asStackpbase := r.stackpbase } := by
  obtain ⟨vbase1, pbase1, npages1, vbase2, pbase2, npages2, stackpbase⟩ := as
  obtain ⟨rfl, rfl, rfl⟩ := hzero
  rw [asPrepareLoad] at h
  obtain ⟨-, h⟩ := kassert_bind_ok.mp h
  obtain ⟨-, h⟩ := kassert_bind_ok.mp h
  obtain ⟨-, h⟩ := kassert_bind_ok.mp h
  obtain ⟨a1, u1, h1, h⟩ := bind_ok.mp h
  obtain ⟨ha1, hc1, hr1⟩ := getppages_result h1
  dsimp only at ha1 hc1 hr1 h ⊢
  unfold reserve
  by_cases hz1 : a1 = 0#32
  · rw [if_pos hz1] at h
    obtain ⟨hres, rfl⟩ := pure_ok.mp h
    obtain ⟨rfl, rfl⟩ := Prod.mk.inj hres
    simp only [← ha1, hz1, if_true, hc1, hr1]
    exact ⟨trivial, trivial, by decide, trivial⟩
  rw [if_neg hz1] at h
  simp only [← ha1, if_neg hz1, ← hc1, ← hr1]
  obtain ⟨a2, u2, h2, h⟩ := bind_ok.mp h
  obtain ⟨ha2, hc2, hr2⟩ := getppages_result h2
  simp only [← ha2, ← hc2, ← hr2]
  by_cases hz2 : a2 = 0#32
  · rw [if_pos hz2] at h
    obtain ⟨hres, rfl⟩ := pure_ok.mp h
    obtain ⟨rfl, rfl⟩ := Prod.mk.inj hres
    simp only [hz2, if_true]
    exact ⟨trivial, trivial, by decide, trivial⟩
  rw [if_neg hz2] at h
  simp only [if_neg hz2]
  obtain ⟨a3, u3, h3, h⟩ := bind_ok.mp h
  obtain ⟨ha3, hc3, hr3⟩ := getppages_result h3
  simp only [← ha3, ← hc3, ← hr3]
  by_cases hz3 : a3 = 0#32
  · rw [if_pos hz3] at h
    obtain ⟨hres, rfl⟩ := pure_ok.mp h
    obtain ⟨rfl, rfl⟩ := Prod.mk.inj hres
    exact ⟨rfl, rfl, by simp [hz3, ENOMEM], rfl⟩
  rw [if_neg hz3] at h
  simp only [asZeroRegion] at h
  rw [bind_run_ok (run_modify _ _), bind_run_ok (run_modify _ _), bind_run_ok (run_modify _ _)] at h
  obtain ⟨hres, rfl⟩ := pure_ok.mp h
  obtain ⟨rfl, rfl⟩ := Prod.mk.inj hres
  exact ⟨rfl, rfl, by simp [hz3], rfl⟩

lemma freeppages_result (h : (freeppages env addr npages).run s = .ok result t) :
    t.ram = s.ram ∧ t.coremap.allocTableActive = s.coremap.allocTableActive ∧
      ∀ i, t.coremap.freeRamFrames i = true ↔ s.coremap.freeRamFrames i = true ∨
        (s.coremap.allocTableActive = true ∧ Covers addr npages i) := by
  rw [freeppages, isTableActive_bind_ok] at h
  obtain ⟨hfree, h⟩ := h
  by_cases ha : s.coremap.allocTableActive = true
  · rw [if_pos ha, bind_run_ok (run_get s)] at h
    obtain ⟨-, h⟩ := kassert_bind_ok.mp h
    rw [bind_run_ok ((critical_ok (fun _ _ => rfl)).mpr ⟨hfree, rfl, rfl⟩)] at h
    obtain ⟨-, rfl⟩ := pure_ok.mp h
    refine ⟨rfl, rfl, fun i => ?_⟩
    simp only [State.setCoremap_coremap, Coremap.putRun]
    split
    next hi => exact iff_of_true rfl (.inr ⟨ha, hi⟩)
    next hi => exact (or_iff_left fun hcover => hi hcover.2).symm
  rw [if_neg ha] at h
  obtain ⟨-, rfl⟩ := pure_ok.mp h
  exact ⟨rfl, rfl, fun i => by simp [ha]⟩

lemma asDestroy_result (h : (asDestroy env as).run s = .ok () t) :
    t.ram = s.ram ∧ t.coremap.allocTableActive = s.coremap.allocTableActive ∧
      ∀ i, t.coremap.freeRamFrames i = true ↔ s.coremap.freeRamFrames i = true ∨
        (s.coremap.allocTableActive = true ∧ (Covers as.asPbase1 as.asNpages1 i ∨
          Covers as.asPbase2 as.asNpages2 i ∨ Covers as.asStackpbase DUMBVM_STACKPAGES i)) := by
  rw [asDestroy] at h
  obtain ⟨_, u1, h1, h⟩ := bind_ok.mp h
  obtain ⟨_, u2, h2, h⟩ := bind_ok.mp h
  obtain ⟨_, u3, h3, h⟩ := bind_ok.mp h
  obtain ⟨-, rfl⟩ := pure_ok.mp h
  obtain ⟨hr1, ha1, hf1⟩ := freeppages_result h1
  obtain ⟨hr2, ha2, hf2⟩ := freeppages_result h2
  obtain ⟨hr3, ha3, hf3⟩ := freeppages_result h3
  refine ⟨by rw [hr3, hr2, hr1], by rw [ha3, ha2, ha1], fun i => ?_⟩
  rw [hf3, hf2, hf1, ha2, ha1]
  tauto

lemma asCopy_error (h : (asCopy env false old).run s = .ok (.error e) t) :
    let r := reserve s.coremap s.ram old.asNpages1 old.asNpages2
    Refused s.coremap s.ram old ∧ t.ram = r.ram ∧
      t.coremap.allocTableActive = s.coremap.allocTableActive ∧
      ∀ i, t.coremap.freeRamFrames i = true ↔ r.coremap.freeRamFrames i = true ∨
        (s.coremap.allocTableActive = true ∧ r.frees old i) := by
  rw [asCopy, if_neg (by decide)] at h
  obtain ⟨⟨result, new⟩, u, hload, h⟩ := bind_ok.mp h
  obtain ⟨hc, hr, hres, rfl⟩ := asPrepareLoad_result ⟨rfl, rfl, rfl⟩ hload
  dsimp only [asCreate] at hc hr hres h ⊢
  by_cases hfail : result ≠ 0
  · rw [if_pos hfail] at h
    obtain ⟨_, u2, hdestroy, h⟩ := bind_ok.mp h
    obtain ⟨-, rfl⟩ := pure_ok.mp h
    obtain ⟨hr2, ha2, hf2⟩ := asDestroy_result hdestroy
    have hactive : u.coremap.allocTableActive = s.coremap.allocTableActive := by
      rw [hc]
      exact reserve_active _ _
    refine ⟨hres.mp hfail, by rw [hr2, hr], by rw [ha2, hactive], fun i => ?_⟩
    rw [hf2, hactive, hc]
    rfl
  rw [if_neg hfail] at h
  obtain ⟨-, h⟩ := kassert_bind_ok.mp h
  obtain ⟨-, h⟩ := kassert_bind_ok.mp h
  obtain ⟨-, h⟩ := kassert_bind_ok.mp h
  simp only [copyRegion] at h
  rw [bind_run_ok (run_modify _ _), bind_run_ok (run_modify _ _),
    bind_run_ok (run_modify _ _)] at h
  cases (pure_ok.mp h).1

lemma refused_frees_low (h : Refused s.coremap s.ram old) (hi : i < 18) :
    (reserve s.coremap s.ram old.asNpages1 old.asNpages2).frees old i := by
  refine .inr (.inr ?_)
  rw [show (reserve s.coremap s.ram old.asNpages1 old.asNpages2).stackpbase = 0#32 from h]
  exact ⟨Nat.zero_le _, by simp [DUMBVM_STACKPAGES]; omega⟩

-- When as_copy cannot get a block, the map of free frames is as before exactly when the marks of
-- as_destroy happen to agree with it. In particular none of the first eighteen frames may have
-- been in use.
theorem asCopy_failure_restores_iff (env : Env) (s t : State) (old : AddrSpace) {e : Word}
    (h : (asCopy env false old).run s = .ok (.error e) t) :
    (Restored s.coremap s.ram t ↔ FailsCleanly s.coremap s.ram old) ∧
      (s.coremap.allocTableActive = true → ∀ i < 18, t.coremap.freeRamFrames i = true) := by
  obtain ⟨hrefused, hram, hactive, hmarks⟩ := asCopy_error h
  refine ⟨?_, fun ha i hi => (hmarks i).mpr (.inr ⟨ha, refused_frees_low hrefused hi⟩)⟩
  unfold Restored FailsCleanly
  rw [hram, hactive]
  have hsame : t.coremap.freeRamFrames = s.coremap.freeRamFrames ↔
      ∀ i, t.coremap.freeRamFrames i = true ↔ s.coremap.freeRamFrames i = true := by
    rw [funext_iff]
    exact forall_congr' fun i => Bool.eq_iff_iff
  have hless : ∀ i, (reserve s.coremap s.ram old.asNpages1 old.asNpages2).coremap.freeRamFrames i =
      true → s.coremap.freeRamFrames i = true := fun i => reserve_free
  by_cases ha : s.coremap.allocTableActive = true
  · simp only [ha, if_true, true_and]
    simp only [ha, true_and] at hmarks
    constructor
    · rintro ⟨heq, hstolen⟩
      have heq' := hsame.mp heq
      refine ⟨fun i hi => (heq' i).mp ((hmarks i).mpr (.inr hi)),
        fun i hi => (hmarks i).mp ((heq' i).mpr hi), fun i hi => ?_⟩
      exact (heq' i).mp (hstolen i hi.1 hi.2)
    rintro ⟨hfreed, htaken, hstolen⟩
    have heq : ∀ i, t.coremap.freeRamFrames i = true ↔ s.coremap.freeRamFrames i = true :=
      fun i => ⟨fun hi => ((hmarks i).mp hi).elim (hless i) (hfreed i),
        fun hi => (hmarks i).mpr (htaken i hi)⟩
    exact ⟨hsame.mpr heq, fun i hlo hhi => (heq i).mpr (hstolen i ⟨hlo, hhi⟩)⟩
  have hoff : s.coremap.allocTableActive = false := Bool.eq_false_iff.mpr ha
  simp only [hoff, Bool.false_eq_true, if_false, false_and]
  have heq : t.coremap.freeRamFrames = s.coremap.freeRamFrames := by
    refine hsame.mpr fun i => ?_
    rw [hmarks, reserve_inactive hoff]
    simp [hoff]
  constructor
  · rintro ⟨-, hstolen⟩ i hi
    exact hstolen i hi.1 hi.2
  · intro hnone
    exact ⟨heq, fun i hlo hhi => hnone i ⟨hlo, hhi⟩⟩

end Copy

def fullMemory : State :=
  (powerOn ⟨0x20000#32, 0x20000#32⟩).setCoremap ⟨fun _ => false, fun _ => 0#32, 32, true⟩

def smallSpace : AddrSpace :=
  ⟨0x400000#32, 0x10000#32, 1#32, 0x10000000#32, 0x11000#32, 1#32, 0x12000#32⟩

theorem asCopy_fullMemory : ∃ t, (asCopy steadyEnv false smallSpace).run fullMemory =
    .ok (.error ENOMEM) t ∧ fullMemory.coremap.freeRamFrames 0 = false ∧
    t.coremap.freeRamFrames 0 = true ∧ ¬ Restored fullMemory.coremap fullMemory.ram t := by
  refine ⟨_, rfl, rfl, rfl, ?_⟩
  intro h
  cases congrFun h.1 0

theorem asCopy_failure_restores_fullMemory : ∃ t,
    (asCopy steadyEnv false smallSpace).run fullMemory = .ok (.error ENOMEM) t ∧
    (Restored fullMemory.coremap fullMemory.ram t ↔
      FailsCleanly fullMemory.coremap fullMemory.ram smallSpace) ∧
    (fullMemory.coremap.allocTableActive = true → ∀ i < 18, t.coremap.freeRamFrames i = true) :=
  ⟨_, rfl, asCopy_failure_restores_iff steadyEnv fullMemory _ smallSpace rfl⟩

end Os161.Dumbvm
