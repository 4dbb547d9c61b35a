import Os161.Lib.FirstFit
import Os161.Vm.Spinlock

namespace Os161.Vm

open Lib Lib.Exec

def Ram.stealmem (ram : Ram) (npages : Word) : Word × Ram :=
  let size := npages * 4096#32
  if ram.lastpaddr < ram.firstpaddr + size then (0#32, ram)
  else (ram.firstpaddr, { ram with firstpaddr := ram.firstpaddr + size })

-- What coremap_bootstrap leaves. Its two kmallocs take pages through ram_stealmem, so `ram` is
-- the one after them.
def coremapBootstrap (ram : Ram) : Coremap where
  freeRamFrames := fun _ => false
  allocSize := fun _ => 0#32
  nRamFrames := ram.lastpaddr.toNat / PAGE_SIZE
  allocTableActive := true

def Coremap.takeRun (coremap : Coremap) (npages : Word) : Word × Coremap :=
  let np := npages.toInt
  let found := FirstFit.search coremap.freeRamFrames np coremap.nRamFrames 0 (-1)
  if 0 ≤ found then
    (BitVec.ofInt 32 found * 4096#32,
      { coremap with
        freeRamFrames := fun i =>
          if found ≤ i ∧ (i : Int) < found + np then false else coremap.freeRamFrames i
        allocSize := Function.update coremap.allocSize found.toNat npages })
  else (0#32, coremap)

def Coremap.putRun (coremap : Coremap) (first : Nat) (np : Int) : Coremap :=
  { coremap with
    freeRamFrames := fun i =>
      if first ≤ i ∧ (i : Int) < first + np then true else coremap.freeRamFrames i }

def Coremap.recordSize (coremap : Coremap) (npages addr : Word) : Coremap :=
  if addr ≠ 0#32 ∧ coremap.allocTableActive then
    { coremap with allocSize := Function.update coremap.allocSize (addr.toNat / PAGE_SIZE) npages }
  else coremap

def isTableActive (env : Env) : Kern Bool :=
  critical env .freemem fun s => (s.coremap.allocTableActive, s)

def getfreeppages (env : Env) (npages : Word) : Kern Word := do
  let active ← isTableActive env
  if active then
    critical env .freemem fun s =>
      ((s.coremap.takeRun npages).1, s.setCoremap (s.coremap.takeRun npages).2)
  else pure 0#32

-- The assertion that `allocSize` is not NULL is left out: the table is active only after
-- coremap_bootstrap has allocated it.
def freeppages (env : Env) (addr : Word) : Kern Word := do
  let active ← isTableActive env
  if active then
    let s ← get
    let first := addr.toNat / PAGE_SIZE
    kassert (first < s.coremap.nRamFrames) "nRamFrames>first"
    let np := (s.coremap.allocSize first).toInt
    critical env .freemem fun s => ((), s.setCoremap (s.coremap.putRun first np))
    pure 1#32
  else pure 0#32

def stealppages (env : Env) (npages recycled : Word) : Kern Word :=
  if recycled = 0#32 then
    critical env .stealmem fun s =>
      ((s.ram.stealmem npages).1, s.setRam (s.ram.stealmem npages).2)
  else pure recycled

def recordSize (env : Env) (npages addr : Word) : Kern Unit :=
  if addr = 0#32 then pure ()
  else do
    let active ← isTableActive env
    if active then
      critical env .freemem fun s => ((), s.setCoremap (s.coremap.recordSize npages addr))
    else pure ()

def getppages (env : Env) (npages : Word) : Kern Word := do
  let recycled ← getfreeppages env npages
  let addr ← stealppages env npages recycled
  recordSize env npages addr
  pure addr

def Coremap.recycle (coremap : Coremap) (npages : Word) : Word × Coremap :=
  if coremap.allocTableActive then coremap.takeRun npages else (0#32, coremap)

def Ram.stealUnless (ram : Ram) (npages recycled : Word) : Word × Ram :=
  if recycled = 0#32 then ram.stealmem npages else (recycled, ram)

def allocAddr (coremap : Coremap) (ram : Ram) (npages : Word) : Word :=
  (ram.stealUnless npages (coremap.recycle npages).1).1

def allocCoremap (coremap : Coremap) (ram : Ram) (npages : Word) : Coremap :=
  (coremap.recycle npages).2.recordSize npages (allocAddr coremap ram npages)

def allocRam (coremap : Coremap) (ram : Ram) (npages : Word) : Ram :=
  (ram.stealUnless npages (coremap.recycle npages).1).2

lemma isTableActive_ok :
    (isTableActive env).run s = .ok a t ↔
      Available env .freemem s ∧ a = s.coremap.allocTableActive ∧ t = s :=
  critical_ok (fun _ _ => rfl)

lemma isTableActive_bind_ok :
    (isTableActive env >>= f).run s = .ok a t ↔
      Available env .freemem s ∧ (f s.coremap.allocTableActive).run s = .ok a t := by
  rw [bind_ok]
  constructor
  · rintro ⟨active, u, hactive, hrest⟩
    obtain ⟨hfree, rfl, rfl⟩ := isTableActive_ok.mp hactive
    exact ⟨hfree, hrest⟩
  · rintro ⟨hfree, hrest⟩
    exact ⟨_, s, isTableActive_ok.mpr ⟨hfree, rfl, rfl⟩, hrest⟩

lemma getfreeppages_ok :
    (getfreeppages env npages).run s = .ok addr t ↔
      Available env .freemem s ∧ addr = (s.coremap.recycle npages).1 ∧
        t = s.setCoremap (s.coremap.recycle npages).2 := by
  unfold getfreeppages Coremap.recycle
  rw [isTableActive_bind_ok, and_congr_right_iff]
  intro hfree
  by_cases ha : s.coremap.allocTableActive = true
  · simp only [ha, if_true]
    rw [critical_ok (fun _ _ => rfl)]
    exact and_iff_right hfree
  · simp only [ha]
    exact pure_ok

lemma stealppages_ok :
    (stealppages env npages recycled).run s = .ok addr t ↔
      (recycled = 0#32 → Available env .stealmem s) ∧ addr = (s.ram.stealUnless npages recycled).1 ∧
        t = s.setRam (s.ram.stealUnless npages recycled).2 := by
  unfold stealppages Ram.stealUnless
  by_cases hr : recycled = 0#32
  · simp only [hr, if_true, true_imp_iff]
    exact critical_ok (fun _ _ => rfl)
  · simp only [hr, if_false, false_imp_iff, true_and]
    exact pure_ok

lemma recordSize_ok :
    (recordSize env npages addr).run s = .ok () t ↔
      (addr ≠ 0#32 → Available env .freemem s) ∧
        t = s.setCoremap (s.coremap.recordSize npages addr) := by
  have hsame : ¬ (addr ≠ 0#32 ∧ s.coremap.allocTableActive) →
      s.setCoremap (s.coremap.recordSize npages addr) = s := by
    intro h
    rw [Coremap.recordSize, if_neg h]
    rfl
  unfold recordSize
  by_cases haddr : addr = 0#32
  · rw [hsame (by simp [haddr])]
    simp [haddr, eq_comm]
  rw [if_neg haddr, isTableActive_bind_ok, imp_iff_right haddr, and_congr_right_iff]
  intro hfree
  by_cases ha : s.coremap.allocTableActive = true
  · simp only [ha, if_true]
    rw [critical_ok (fun _ _ => rfl)]
    simp [hfree]
  · rw [hsame (by simp [ha])]
    simp [ha, eq_comm]

lemma getppages_ok :
    (getppages env npages).run s = .ok addr t ↔ Available env .freemem s ∧
        ((s.coremap.recycle npages).1 = 0#32 → Available env .stealmem s) ∧
        addr = allocAddr s.coremap s.ram npages ∧
        t = (s.setCoremap (allocCoremap s.coremap s.ram npages)).setRam
          (allocRam s.coremap s.ram npages) := by
  unfold getppages
  rw [bind_ok]
  constructor
  · rintro ⟨recycled, u, hrecycled, h⟩
    obtain ⟨hfree, rfl, rfl⟩ := getfreeppages_ok.mp hrecycled
    obtain ⟨addr', u, hstolen, h⟩ := bind_ok.mp h
    obtain ⟨hsteal, rfl, rfl⟩ := stealppages_ok.mp hstolen
    obtain ⟨_, u, hrecord, h⟩ := bind_ok.mp h
    obtain ⟨-, rfl⟩ := recordSize_ok.mp hrecord
    obtain ⟨rfl, rfl⟩ := pure_ok.mp h
    exact ⟨hfree, hsteal, rfl, rfl⟩
  rintro ⟨hfree, hsteal, rfl, rfl⟩
  refine ⟨_, _, getfreeppages_ok.mpr ⟨hfree, rfl, rfl⟩, ?_⟩
  rw [bind_ok]
  refine ⟨_, _, stealppages_ok.mpr ⟨hsteal, rfl, rfl⟩, ?_⟩
  rw [bind_ok]
  exact ⟨_, _, recordSize_ok.mpr ⟨fun _ => hfree, rfl⟩, rfl⟩

lemma freeppages_ok :
    (freeppages env addr).run s = .ok result t ↔ Available env .freemem s ∧
        if s.coremap.allocTableActive then
          addr.toNat / PAGE_SIZE < s.coremap.nRamFrames ∧ result = 1#32 ∧
            t = s.setCoremap (s.coremap.putRun (addr.toNat / PAGE_SIZE)
              (s.coremap.allocSize (addr.toNat / PAGE_SIZE)).toInt) else result = 0#32 ∧ t = s := by
  unfold freeppages
  rw [isTableActive_bind_ok, and_congr_right_iff]
  intro hfree
  by_cases ha : s.coremap.allocTableActive = true
  · simp only [ha, if_true]
    rw [bind_run_ok (EStateM.run_get s), kassert_bind_ok, decide_eq_true_eq, and_congr_right_iff]
    intro _
    rw [bind_run_ok ((critical_ok (fun _ _ => rfl)).mpr ⟨hfree, rfl, rfl⟩)]
    exact pure_ok
  · simp only [ha]
    exact pure_ok

end Os161.Vm
