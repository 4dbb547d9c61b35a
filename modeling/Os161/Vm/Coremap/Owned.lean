import Os161.Vm.Coremap

namespace Os161.Vm

open Lib BitVec List Nat

structure Block where
  first : Nat
  len : Nat
  deriving DecidableEq, Repr

def Block.Has (block : Block) (frame : Nat) : Prop :=
  block.first ≤ frame ∧ frame < block.first + block.len

def Block.Disjoint (a b : Block) : Prop := ∀ frame, ¬ (a.Has frame ∧ b.Has frame)

def Block.addr (block : Block) : Word := BitVec.ofNat 32 (block.first * PAGE_SIZE)

def Coremap.taken (coremap : Coremap) (start : Nat) (npages : Word) : Coremap :=
  { coremap with
    freeRamFrames := fun i =>
      if start ≤ i ∧ i < start + npages.toNat then false else coremap.freeRamFrames i
    allocSize := Function.update coremap.allocSize start npages }

def Coremap.sized (coremap : Coremap) (frame : Nat) (npages : Word) : Coremap :=
  { coremap with allocSize := Function.update coremap.allocSize frame npages }

def Coremap.NoRun (coremap : Coremap) (npages : Word) : Prop :=
  ∀ start, start + npages.toNat ≤ coremap.nRamFrames →
    ¬ FirstFit.Run coremap.freeRamFrames start npages.toNat

section Request

variable {npages : Word}

lemma toInt_of_small {w : Word} (h : w.toNat < 0x80000000) : w.toInt = w.toNat := by
  exact toInt_eq_toNat_of_lt (by omega)

lemma frameAddr_toNat (h : frame * PAGE_SIZE < 0x100000000) :
    (BitVec.ofNat 32 (frame * PAGE_SIZE)).toNat = frame * PAGE_SIZE := by
  rw [toNat_ofNat, mod_eq_of_lt h]

lemma takeRun_found {coremap : Coremap} {start : Nat} (hnp : npages.toNat < 0x80000000)
    (hsearch :
      FirstFit.search coremap.freeRamFrames npages.toNat coremap.nRamFrames 0 (-1) = start) :
    coremap.takeRun npages = (BitVec.ofNat 32 (start * PAGE_SIZE), coremap.taken start npages) := by
  unfold Coremap.takeRun Coremap.taken
  simp only [toInt_of_small hnp, hsearch]
  rw [if_pos (by omega)]
  refine Prod.ext ?_ ?_
  · apply eq_of_toNat_eq
    simp [PAGE_SIZE]
  have hmark : (fun i : Nat => if (start : Int) ≤ i ∧ (i : Int) < start + npages.toNat then false
        else coremap.freeRamFrames i) = fun i =>
      if start ≤ i ∧ i < start + npages.toNat then false else coremap.freeRamFrames i := by
    funext i
    have hiff : ((start : Int) ≤ i ∧ (i : Int) < start + npages.toNat) ↔
        start ≤ i ∧ i < start + npages.toNat := by omega
    simp only [hiff]
  simp only [hmark, Int.toNat_natCast]

lemma takeRun_none {coremap : Coremap} (hnp : npages.toNat < 0x80000000)
    (hsearch : FirstFit.search coremap.freeRamFrames npages.toNat coremap.nRamFrames 0 (-1) = -1) :
    coremap.takeRun npages = (0#32, coremap) := by
  unfold Coremap.takeRun
  simp [toInt_of_small hnp, hsearch]

lemma Coremap.taken_free (coremap : Coremap) (start frame : Nat) (npages : Word) :
    (coremap.taken start npages).freeRamFrames frame =
      if start ≤ frame ∧ frame < start + npages.toNat then false
      else coremap.freeRamFrames frame := rfl

lemma size_toNat_of_lt (hfit : npages.toNat * PAGE_SIZE < 0x100000000) :
    (npages * 4096#32).toNat = npages.toNat * PAGE_SIZE := by
  rw [toNat_mul]
  exact mod_eq_of_lt hfit

end Request

-- The blocks in use against the tables of coremap.c and the rest of memory. What lies below
-- `base` belongs to the kernel from the start.
structure Owned (base : Nat) (coremap : Coremap) (ram : Ram) (live : List Block) : Prop where
  last_le : ram.lastpaddr.toNat ≤ 512 * 1024 * 1024
  first_le : ram.firstpaddr.toNat ≤ ram.lastpaddr.toNat
  base_pos : 0 < base
  base_le : base ≤ ram.firstpaddr.toNat
  aligned : ram.firstpaddr.toNat % PAGE_SIZE = 0
  frames : coremap.nRamFrames * PAGE_SIZE ≤ ram.lastpaddr.toNat
  disjoint : live.Pairwise Block.Disjoint
  inside : ∀ b ∈ live, 1 ≤ b.len ∧ base ≤ b.first * PAGE_SIZE ∧
    (b.first + b.len) * PAGE_SIZE ≤ ram.firstpaddr.toNat
  used : coremap.allocTableActive = true → ∀ b ∈ live, ∀ frame, b.Has frame →
    coremap.freeRamFrames frame = false
  recycled : coremap.allocTableActive = true → ∀ frame, coremap.freeRamFrames frame = true →
    base ≤ frame * PAGE_SIZE ∧ (frame + 1) * PAGE_SIZE ≤ ram.firstpaddr.toNat

section Owned

variable {base : Nat} {coremap : Coremap} {ram : Ram} {live : List Block} {npages : Word}

section

variable (h : Owned base coremap ram live)

include h

lemma Owned.sized (frame : Nat) (npages : Word) :
    Owned base (coremap.sized frame npages) ram live := { h with }

lemma Owned.recordSize (npages addr : Word) :
    Owned base (coremap.recordSize npages addr) ram live := by
  unfold Coremap.recordSize
  split
  · exact h.sized _ npages
  · exact h

lemma Owned.end_le (hb : b ∈ live) :
    (b.first + b.len) * PAGE_SIZE ≤ ram.lastpaddr.toNat :=
  Nat.le_trans (h.inside b hb).2.2 h.first_le

lemma Owned.start_le (hb : b ∈ live) : b.first * PAGE_SIZE ≤ ram.lastpaddr.toNat :=
  Nat.le_trans (Nat.mul_le_mul_right _ (Nat.le_add_right _ _)) (h.end_le hb)

lemma Owned.firstpaddr_eq :
    ram.firstpaddr = BitVec.ofNat 32 (ram.firstpaddr.toNat / PAGE_SIZE * PAGE_SIZE) := by
  rw [Nat.div_mul_cancel (dvd_of_mod_eq_zero h.aligned), ofNat_toNat, setWidth_eq]

lemma Owned.frame_addr (hlo : base ≤ frame * PAGE_SIZE)
    (hhi : frame * PAGE_SIZE ≤ ram.lastpaddr.toNat) :
    BitVec.ofNat 32 (frame * PAGE_SIZE) ≠ 0#32 := by
  intro hzero
  have hpos := h.base_pos
  have hlast := h.last_le
  have hnat := congrArg BitVec.toNat hzero
  rw [frameAddr_toNat (by omega)] at hnat
  have hnat : frame * PAGE_SIZE = 0 := hnat
  omega

lemma Owned.run_inside (hactive : coremap.allocTableActive = true) (hn : 1 ≤ n)
    (hrun : FirstFit.Run coremap.freeRamFrames start n) :
    base ≤ start * PAGE_SIZE ∧ (start + n) * PAGE_SIZE ≤ ram.firstpaddr.toNat := by
  have hfirst := h.recycled hactive start (hrun start (Nat.le_refl _) (by omega))
  have hlast := h.recycled hactive (start + n - 1) (hrun _ (by omega) (by omega))
  rw [show start + n - 1 + 1 = start + n by omega] at hlast
  exact ⟨hfirst.1, hlast.2⟩

end

lemma Coremap.recycle_cases (coremap : Coremap) (hn : 1 ≤ npages.toNat)
    (hsmall : npages.toNat < 0x80000000) :
    (∃ start, coremap.allocTableActive = true ∧ start + npages.toNat ≤ coremap.nRamFrames ∧
      FirstFit.Run coremap.freeRamFrames start npages.toNat ∧
      coremap.recycle npages = (BitVec.ofNat 32 (start * PAGE_SIZE), coremap.taken start npages)) ∨
    coremap.recycle npages = (0#32, coremap) := by
  unfold Coremap.recycle
  by_cases hactive : coremap.allocTableActive = true
  · rw [if_pos hactive]
    rcases FirstFit.search_complete coremap.freeRamFrames hn coremap.nRamFrames with
      ⟨start, hsearch, hle, hrun⟩ | ⟨hsearch, -⟩
    · exact .inl ⟨start, hactive, hle, hrun, takeRun_found hsmall hsearch⟩
    · exact .inr (takeRun_none hsmall hsearch)
  · rw [if_neg hactive]
    exact .inr rfl

section

variable (h : Owned base coremap ram live)

include h

lemma Owned.taken (hactive : coremap.allocTableActive = true)
    (hn : 1 ≤ npages.toNat)
    (hrun : FirstFit.Run coremap.freeRamFrames start npages.toNat) :
    Owned base (coremap.taken start npages) ram (⟨start, npages.toNat⟩ :: live) := by
  have hapart : ∀ b ∈ live, ∀ frame, b.Has frame →
      ¬ (start ≤ frame ∧ frame < start + npages.toNat) := by
    intro b hb frame hf hin
    have hused := h.used hactive b hb frame hf
    rw [hrun frame hin.1 hin.2] at hused
    cases hused
  refine { h with disjoint := ?_, inside := ?_, used := ?_, recycled := ?_ }
  · refine pairwise_cons.mpr ⟨?_, h.disjoint⟩
    intro b hb frame hf
    exact hapart b hb frame hf.2 hf.1
  · intro b hb
    rcases mem_cons.mp hb with rfl | hb
    · exact ⟨hn, h.run_inside hactive hn hrun⟩
    · exact h.inside b hb
  · intro _ b hb frame hf
    rw [Coremap.taken_free]
    rcases mem_cons.mp hb with rfl | hb
    · exact if_pos hf
    · exact (if_neg (hapart b hb frame hf)).trans (h.used hactive b hb frame hf)
  intro _ frame hf
  rw [Coremap.taken_free] at hf
  by_cases hin : start ≤ frame ∧ frame < start + npages.toNat
  · rw [if_pos hin] at hf
    cases hf
  · rw [if_neg hin] at hf
    exact h.recycled hactive frame hf

lemma Owned.stolen (hn : 1 ≤ npages.toNat) {next : Word}
    (hnext : next.toNat = ram.firstpaddr.toNat + npages.toNat * PAGE_SIZE)
    (hroom : next.toNat ≤ ram.lastpaddr.toNat) : Owned base coremap { ram with firstpaddr := next }
      (⟨ram.firstpaddr.toNat / PAGE_SIZE, npages.toNat⟩ :: live) := by
  have hbase := h.base_le
  have hdiv : ram.firstpaddr.toNat / PAGE_SIZE * PAGE_SIZE = ram.firstpaddr.toNat :=
    Nat.div_mul_cancel (dvd_of_mod_eq_zero h.aligned)
  have hbelow : ∀ b ∈ live, b.first + b.len ≤ ram.firstpaddr.toNat / PAGE_SIZE := fun b hb =>
    (Nat.le_div_iff_mul_le (by decide)).mpr (h.inside b hb).2.2
  refine { h with
    first_le := hroom, base_le := ?_, aligned := ?_, disjoint := ?_, inside := ?_, used := ?_,
    recycled := ?_ }
  · show base ≤ next.toNat
    omega
  · show next.toNat % PAGE_SIZE = 0
    rw [hnext, add_mul_mod_self_right]
    exact h.aligned
  · refine pairwise_cons.mpr ⟨?_, h.disjoint⟩
    intro b hb frame hf
    have hle := hbelow b hb
    have hlo : ram.firstpaddr.toNat / PAGE_SIZE ≤ frame := hf.1.1
    have hhi := hf.2.2
    omega
  · intro b hb
    show 1 ≤ b.len ∧ base ≤ b.first * PAGE_SIZE ∧ (b.first + b.len) * PAGE_SIZE ≤ next.toNat
    rcases mem_cons.mp hb with rfl | hb
    · simp only [Nat.add_mul, hdiv]
      omega
    · have hin := h.inside b hb
      omega
  · intro hactive b hb frame hf
    rcases mem_cons.mp hb with rfl | hb
    · refine Bool.eq_false_iff.mpr fun hfree => ?_
      have htop := (h.recycled hactive frame hfree).2
      have hlo := Nat.mul_le_mul_right PAGE_SIZE hf.1
      simp only [Nat.add_mul, PAGE_SIZE] at htop hlo hdiv
      omega
    · exact h.used hactive b hb frame hf
  intro hactive frame hf
  have hin := h.recycled hactive frame hf
  show base ≤ _ ∧ (frame + 1) * PAGE_SIZE ≤ next.toNat
  omega

lemma Owned.request (hn : 1 ≤ npages.toNat)
    (hfit : ram.firstpaddr.toNat + npages.toNat * PAGE_SIZE < 0x100000000) :
    (allocRam coremap ram npages).lastpaddr = ram.lastpaddr ∧
    (allocAddr coremap ram npages = 0#32 ∧
      Owned base (allocCoremap coremap ram npages) (allocRam coremap ram npages) live ∨
    ∃ first, allocAddr coremap ram npages = BitVec.ofNat 32 (first * PAGE_SIZE) ∧
      Owned base (allocCoremap coremap ram npages) (allocRam coremap ram npages)
        (⟨first, npages.toNat⟩ :: live)) := by
  have hsmall : npages.toNat < 0x80000000 := by
    simp only [PAGE_SIZE] at hfit
    omega
  unfold allocCoremap allocAddr allocRam Ram.stealUnless
  rcases coremap.recycle_cases hn hsmall with
    ⟨start, hactive, -, hrun, hrecycle⟩ | hrecycle
  · obtain ⟨hlo, hhi⟩ := h.run_inside hactive hn hrun
    have hne : BitVec.ofNat 32 (start * PAGE_SIZE) ≠ 0#32 := by
      refine h.frame_addr hlo (Nat.le_trans ?_ (Nat.le_trans hhi h.first_le))
      exact Nat.mul_le_mul_right _ (Nat.le_add_right _ _)
    rw [hrecycle]
    simp only [if_neg hne]
    exact ⟨trivial, .inr ⟨start, rfl, (h.taken hactive hn hrun).recordSize _ _⟩⟩
  rw [hrecycle]
  simp only [if_true]
  have hsum : (ram.firstpaddr + npages * 4096#32).toNat =
      ram.firstpaddr.toNat + npages.toNat * PAGE_SIZE := by
    rw [toNat_add, size_toNat_of_lt (by omega)]
    exact mod_eq_of_lt hfit
  unfold Ram.stealmem
  by_cases hroom : ram.lastpaddr < ram.firstpaddr + npages * 4096#32
  · simp only [if_pos hroom]
    exact ⟨trivial, .inl ⟨trivial, h.recordSize _ _⟩⟩
  simp only [if_neg hroom]
  rw [lt_def] at hroom
  refine ⟨trivial, .inr ⟨_, h.firstpaddr_eq, ?_⟩⟩
  exact (h.stolen hn hsum (Nat.le_of_not_lt hroom)).recordSize _ _

lemma Owned.request_wraps (hpages : npages.toNat ≤ 0xfffff)
    (hwraps : npages.toNat = 0 ∨ 0x100000000 ≤ ram.firstpaddr.toNat + npages.toNat * PAGE_SIZE) :
    ∃ first, allocAddr coremap ram npages = BitVec.ofNat 32 (first * PAGE_SIZE) ∧
      base ≤ first * PAGE_SIZE ∧ first * PAGE_SIZE ≤ ram.lastpaddr.toNat := by
  have hlast := h.last_le
  have hfirst := h.first_le
  have hframes := h.frames
  have hsteal : (ram.stealmem npages).1 = ram.firstpaddr := by
    unfold Ram.stealmem
    refine congrArg Prod.fst (if_neg ?_)
    rw [lt_def, toNat_add, size_toNat_of_lt (by simp only [PAGE_SIZE]; omega)]
    simp only [PAGE_SIZE] at hwraps ⊢
    omega
  have hfresh : coremap.recycle npages = (0#32, coremap) → ∃ first,
      allocAddr coremap ram npages = BitVec.ofNat 32 (first * PAGE_SIZE) ∧
        base ≤ first * PAGE_SIZE ∧ first * PAGE_SIZE ≤ ram.lastpaddr.toNat := by
    intro hrecycle
    refine ⟨ram.firstpaddr.toNat / PAGE_SIZE, ?_, ?_⟩
    · rw [← h.firstpaddr_eq, allocAddr, hrecycle, Ram.stealUnless, if_pos rfl, hsteal]
    · rw [Nat.div_mul_cancel (dvd_of_mod_eq_zero h.aligned)]
      exact ⟨h.base_le, hfirst⟩
  by_cases hzero : npages.toNat = 0
  · -- the search for no frames stops at the first free one
    obtain rfl : npages = 0#32 := eq_of_toNat_eq hzero
    by_cases hactive : coremap.allocTableActive = true
    · have hsearch := FirstFit.search_first coremap.freeRamFrames (show (0 : Int) ≤ 1 by decide)
        coremap.nRamFrames 0 (-1) (.inl rfl)
      cases hfind : (List.range' 0 coremap.nRamFrames).find? coremap.freeRamFrames with
      | none =>
        rw [hfind] at hsearch
        refine hfresh ?_
        rw [Coremap.recycle, if_pos hactive]
        exact takeRun_none (by decide) hsearch
      | some frame =>
        rw [hfind] at hsearch
        have hin := h.recycled hactive frame (find?_some hfind)
        have htop : frame * PAGE_SIZE ≤ ram.lastpaddr.toNat :=
          Nat.le_trans (Nat.mul_le_mul_right _ (le_succ _)) (Nat.le_trans hin.2 hfirst)
        have htake : coremap.takeRun 0#32 = _ := takeRun_found (by decide) hsearch
        refine ⟨frame, ?_, hin.1, htop⟩
        rw [allocAddr, Coremap.recycle, if_pos hactive, htake, Ram.stealUnless,
          if_neg (h.frame_addr hin.1 htop)]
    · refine hfresh ?_
      rw [Coremap.recycle, if_neg hactive]
  have hwraps := hwraps.resolve_left hzero
  refine hfresh ((coremap.recycle_cases (by omega) (by omega)).resolve_left ?_)
  rintro ⟨start, -, hle, -⟩
  simp only [PAGE_SIZE] at hwraps hframes
  omega

end

end Owned

end Os161.Vm
