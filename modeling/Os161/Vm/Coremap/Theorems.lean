import Os161.Lib.Run
import Os161.Vm.Coremap.Owned

namespace Os161.Vm

open Function Lib BitVec List

-- The memory that is left when coremap_bootstrap returns: at most 512 MB of RAM, and the part
-- taken so far ends at a page boundary inside it.
structure Booted (ram : Ram) : Prop where
  last_le : ram.lastpaddr.toNat ≤ 512 * 1024 * 1024
  first_le : ram.firstpaddr.toNat ≤ ram.lastpaddr.toNat
  first_pos : 0 < ram.firstpaddr.toNat
  aligned : ram.firstpaddr.toNat % PAGE_SIZE = 0

-- The blocks in use and the tables of coremap.c, seen together. `boot` is the memory at the
-- start of the run.
structure Pool (boot : Ram) (s : State) (live : List Block) : Prop where
  active : s.coremap.allocTableActive = true
  frames : s.coremap.nRamFrames = boot.lastpaddr.toNat / PAGE_SIZE
  last : s.ram.lastpaddr = boot.lastpaddr
  first_ge : boot.firstpaddr.toNat ≤ s.ram.firstpaddr.toNat
  first_le : s.ram.firstpaddr.toNat ≤ boot.lastpaddr.toNat
  aligned : s.ram.firstpaddr.toNat % PAGE_SIZE = 0
  disjoint : live.Pairwise Block.Disjoint
  inside : ∀ b ∈ live, boot.firstpaddr.toNat ≤ b.first * PAGE_SIZE ∧
    (b.first + b.len) * PAGE_SIZE ≤ s.ram.firstpaddr.toNat
  used : ∀ b ∈ live, ∀ frame, b.Has frame → s.coremap.freeRamFrames frame = false
  size : ∀ b ∈ live, 1 ≤ b.len ∧ s.coremap.allocSize b.first = BitVec.ofNat 32 b.len
  recycled : ∀ frame, s.coremap.freeRamFrames frame = true →
    boot.firstpaddr.toNat ≤ frame * PAGE_SIZE ∧
      (frame + 1) * PAGE_SIZE ≤ s.ram.firstpaddr.toNat

variable {boot : Ram} {s : State} {env : Env}

lemma Pool.owned (hboot : Booted boot)
    (hp : Pool boot s live) : Owned boot.firstpaddr.toNat s.coremap s.ram live where
  last_le := hp.last ▸ hboot.last_le
  first_le := hp.last ▸ hp.first_le
  base_pos := hboot.first_pos
  base_le := hp.first_ge
  aligned := hp.aligned
  frames := by
    rw [hp.frames, hp.last]
    exact Nat.div_mul_le_self _ _
  disjoint := hp.disjoint
  inside := fun b hb => ⟨(hp.size b hb).1, hp.inside b hb⟩
  used := fun _ => hp.used
  recycled := fun _ => hp.recycled

lemma pool_boot (hboot : Booted s.ram) (hcore : s.coremap = coremapBootstrap s.ram) :
    Pool s.ram s [] where
  active := by rw [hcore]; rfl
  frames := by rw [hcore]; rfl
  last := rfl
  first_ge := Nat.le_refl _
  first_le := hboot.first_le
  aligned := hboot.aligned
  disjoint := List.Pairwise.nil
  inside := by simp
  used := by simp
  size := by simp
  recycled := by
    intro frame h
    rw [hcore] at h
    cases h

section Request

variable {boot : Ram} {s : State} {live : List Block} {npages : Word}

inductive Outcome (s : State) (npages : Word) : Prop where
  | recycled (start : Nat) (hrun : FirstFit.Run s.coremap.freeRamFrames start npages.toNat)
      (haddr : allocAddr s.coremap s.ram npages = BitVec.ofNat 32 (start * PAGE_SIZE))
      (hcoremap : allocCoremap s.coremap s.ram npages = s.coremap.taken start npages)
      (hram : allocRam s.coremap s.ram npages = s.ram)
  | fresh (hnone : s.coremap.NoRun npages)
      (hroom : s.ram.firstpaddr.toNat + npages.toNat * PAGE_SIZE ≤ s.ram.lastpaddr.toNat)
      (haddr : allocAddr s.coremap s.ram npages = s.ram.firstpaddr)
      (hcoremap : allocCoremap s.coremap s.ram npages =
        s.coremap.sized (s.ram.firstpaddr.toNat / PAGE_SIZE) npages)
      (hram : allocRam s.coremap s.ram npages =
        { s.ram with firstpaddr := s.ram.firstpaddr + npages * 4096#32 })
  | exhausted (hnone : s.coremap.NoRun npages)
      (hfull : s.ram.lastpaddr.toNat < s.ram.firstpaddr.toNat + npages.toNat * PAGE_SIZE)
      (haddr : allocAddr s.coremap s.ram npages = 0#32)
      (hcoremap : allocCoremap s.coremap s.ram npages = s.coremap)
      (hram : allocRam s.coremap s.ram npages = s.ram)

variable (hboot : Booted boot) (hp : Pool boot s live)

include hboot hp

lemma run_addr (hn : 1 ≤ npages.toNat)
    (hrun : FirstFit.Run s.coremap.freeRamFrames start npages.toNat) :
    start * PAGE_SIZE < 0x100000000 ∧ BitVec.ofNat 32 (start * PAGE_SIZE) ≠ 0#32 := by
  have howned := hp.owned hboot
  obtain ⟨hlo, hhi⟩ := howned.run_inside hp.active hn hrun
  have hlast := howned.last_le
  have hfirst := howned.first_le
  rw [Nat.add_mul] at hhi
  exact ⟨by omega, howned.frame_addr hlo (by omega)⟩

lemma firstpaddr_ne_zero : s.ram.firstpaddr ≠ 0#32 := by
  intro h
  have hge := hp.first_ge
  have hpos := hboot.first_pos
  rw [h] at hge
  simp at hge
  omega

lemma size_toNat (hle : npages.toNat ≤ s.coremap.nRamFrames) :
    (npages * 4096#32).toNat = npages.toNat * PAGE_SIZE ∧
      npages.toNat * PAGE_SIZE ≤ 0x20000000 := by
  have hlast := hboot.last_le
  have hframes := hp.frames
  have hbound : npages.toNat * PAGE_SIZE ≤ 0x20000000 := by
    have h := Nat.div_mul_le_self boot.lastpaddr.toNat PAGE_SIZE
    have := Nat.mul_le_mul_right PAGE_SIZE hle
    rw [hframes] at this
    omega
  refine ⟨?_, hbound⟩
  rw [toNat_mul]
  exact Nat.mod_eq_of_lt (by simp only [PAGE_SIZE] at hbound; simp; omega)

lemma steal_toNat (hle : npages.toNat ≤ s.coremap.nRamFrames) :
    (s.ram.firstpaddr + npages * 4096#32).toNat =
      s.ram.firstpaddr.toNat + npages.toNat * PAGE_SIZE := by
  obtain ⟨hsize, hbound⟩ := size_toNat hboot hp hle
  have hfirst := hp.first_le
  have hlast := hboot.last_le
  rw [toNat_add, hsize]
  exact Nat.mod_eq_of_lt (by omega)

lemma outcome (hn : 1 ≤ npages.toNat) (hle : npages.toNat ≤ s.coremap.nRamFrames) :
    Outcome s npages := by
  obtain ⟨-, hbound⟩ := size_toNat hboot hp hle
  have hsmall : npages.toNat < 0x80000000 := by simp only [PAGE_SIZE] at hbound; omega
  have hrecycle : s.coremap.recycle npages = s.coremap.takeRun npages := by
    simp [Coremap.recycle, hp.active]
  rcases FirstFit.search_complete s.coremap.freeRamFrames hn s.coremap.nRamFrames with
    ⟨start, hsearch, -, hrun⟩ | ⟨hsearch, hnone⟩
  · have htake := takeRun_found hsmall hsearch
    obtain ⟨hstart, hne⟩ := run_addr hboot hp hn hrun
    have haddr : allocAddr s.coremap s.ram npages = BitVec.ofNat 32 (start * PAGE_SIZE) := by
      simp [allocAddr, hrecycle, htake, Ram.stealUnless, hne]
    refine .recycled start hrun haddr ?_ (by simp [allocRam, hrecycle, htake, Ram.stealUnless, hne])
    have hframe : start * PAGE_SIZE / PAGE_SIZE = start := Nat.mul_div_cancel _ (by decide)
    simp [allocCoremap, haddr, hrecycle, htake, Coremap.recordSize, hne, frameAddr_toNat hstart,
      hframe, Coremap.taken, hp.active]
  have htake := takeRun_none hsmall hsearch
  have hsteal := steal_toNat hboot hp hle
  by_cases hroom : s.ram.firstpaddr.toNat + npages.toNat * PAGE_SIZE ≤ s.ram.lastpaddr.toNat
  · have hnlt : ¬ s.ram.lastpaddr < s.ram.firstpaddr + npages * 4096#32 := by
      rw [lt_def, hsteal]
      omega
    have hne := firstpaddr_ne_zero hboot hp
    have haddr : allocAddr s.coremap s.ram npages = s.ram.firstpaddr := by
      simp [allocAddr, hrecycle, htake, Ram.stealUnless, Ram.stealmem, hnlt]
    exact .fresh hnone hroom haddr
      (by simp [allocCoremap, haddr, hrecycle, htake, Coremap.recordSize, Coremap.sized, hne,
        hp.active])
      (by simp [allocRam, hrecycle, htake, Ram.stealUnless, Ram.stealmem, hnlt])
  have hlt : s.ram.lastpaddr < s.ram.firstpaddr + npages * 4096#32 := by
    rw [lt_def, hsteal]
    omega
  have haddr : allocAddr s.coremap s.ram npages = 0#32 := by
    simp [allocAddr, hrecycle, htake, Ram.stealUnless, Ram.stealmem, hlt]
  exact .exhausted hnone (by omega) haddr
    (by simp [allocCoremap, haddr, hrecycle, htake, Coremap.recordSize])
    (by simp [allocRam, hrecycle, htake, Ram.stealUnless, Ram.stealmem, hlt])

omit hboot hp in
lemma Owned.pool (h : Owned boot.firstpaddr.toNat s.coremap s.ram live)
    (hactive : s.coremap.allocTableActive = true)
    (hframes : s.coremap.nRamFrames = boot.lastpaddr.toNat / PAGE_SIZE)
    (hlast : s.ram.lastpaddr = boot.lastpaddr)
    (hsize : ∀ b ∈ live, s.coremap.allocSize b.first = BitVec.ofNat 32 b.len) :
    Pool boot s live where
  active := hactive
  frames := hframes
  last := hlast
  first_ge := h.base_le
  first_le := hlast ▸ h.first_le
  aligned := h.aligned
  disjoint := h.disjoint
  inside := fun b hb => (h.inside b hb).2
  used := h.used hactive
  size := fun b hb => ⟨(h.inside b hb).1, hsize b hb⟩
  recycled := h.recycled hactive

omit hboot in
lemma size_recorded (hdisjoint : ∀ b ∈ live, block.Disjoint b) (hlen : 1 ≤ block.len)
    (hrecord : allocSize = update s.coremap.allocSize block.first
      (BitVec.ofNat 32 block.len)) :
    ∀ b ∈ block :: live, allocSize b.first = BitVec.ofNat 32 b.len := by
  intro b hb
  rw [hrecord]
  rcases mem_cons.mp hb with rfl | hb
  · exact update_self ..
  obtain ⟨hblen, hsize⟩ := hp.size b hb
  have hne : b.first ≠ block.first := by
    intro heq
    refine hdisjoint b hb b.first ⟨?_, Nat.le_refl _, by omega⟩
    exact ⟨Nat.le_of_eq heq.symm, by omega⟩
  rw [update_of_ne hne, hsize]

lemma pool_recycled (hn : 1 ≤ npages.toNat)
    (hrun : FirstFit.Run s.coremap.freeRamFrames start npages.toNat) :
    Pool boot ((s.setCoremap (s.coremap.taken start npages)).setRam s.ram)
      (⟨start, npages.toNat⟩ :: live) := by
  have howned := (hp.owned hboot).taken hp.active hn hrun
  refine Owned.pool howned hp.active hp.frames hp.last ?_
  refine size_recorded hp (pairwise_cons.mp howned.disjoint).1 hn ?_
  rw [ofNat_toNat, setWidth_eq]
  rfl

lemma pool_fresh (hn : 1 ≤ npages.toNat) (hle : npages.toNat ≤ s.coremap.nRamFrames)
    (hroom : s.ram.firstpaddr.toNat + npages.toNat * PAGE_SIZE ≤ s.ram.lastpaddr.toNat) : Pool boot
      ((s.setCoremap (s.coremap.sized (s.ram.firstpaddr.toNat / PAGE_SIZE) npages)).setRam
        { s.ram with firstpaddr := s.ram.firstpaddr + npages * 4096#32 })
      (⟨s.ram.firstpaddr.toNat / PAGE_SIZE, npages.toNat⟩ :: live) := by
  have hsum := steal_toNat hboot hp hle
  have howned := (hp.owned hboot).stolen hn hsum (hsum ▸ hroom)
  refine Owned.pool (howned.sized _ npages) hp.active hp.frames hp.last ?_
  refine size_recorded hp (pairwise_cons.mp howned.disjoint).1 hn ?_
  rw [ofNat_toNat, setWidth_eq]
  rfl

omit hboot in
lemma pool_freed (hb : b ∈ live) :
    Pool boot (s.setCoremap (s.coremap.putRun b.first b.len)) (live.erase b) := by
  have hsymm : ∀ {x y : Block}, x.Disjoint y → y.Disjoint x := by
    intro x y h frame hf
    exact h frame ⟨hf.2, hf.1⟩
  have hapart : ∀ other ∈ live.erase b, b.Disjoint other :=
    (pairwise_cons.mp
      ((perm_cons_erase hb).pairwise hp.disjoint hsymm)).1
  have hmem : ∀ other ∈ live.erase b, other ∈ live := fun _ h => mem_of_mem_erase h
  refine { hp with disjoint := ?_, inside := ?_, used := ?_, size := ?_, recycled := ?_ }
  · exact hp.disjoint.sublist erase_sublist
  · exact fun other h => hp.inside other (hmem other h)
  · intro other h frame hf
    have hout : ¬ (b.first ≤ frame ∧ (frame : Int) < b.first + (b.len : Int)) := by
      intro hin
      exact hapart other h frame ⟨⟨hin.1, by omega⟩, hf⟩
    simp only [State.setCoremap_coremap, Coremap.putRun, if_neg hout]
    exact hp.used other (hmem other h) frame hf
  · exact fun other h => hp.size other (hmem other h)
  intro frame hf
  simp only [State.setCoremap_coremap, Coremap.putRun] at hf
  by_cases hin : b.first ≤ frame ∧ (frame : Int) < b.first + (b.len : Int)
  · have hinside := hp.inside b hb
    have hlo := Nat.mul_le_mul_right PAGE_SIZE hin.1
    have hhi := Nat.mul_le_mul_right PAGE_SIZE (show frame + 1 ≤ b.first + b.len by omega)
    simp only [State.setCoremap_ram]
    omega
  · rw [if_neg hin] at hf
    exact hp.recycled frame hf

lemma live_bound (hb : b ∈ live) :
    b.first < s.coremap.nRamFrames ∧ (b.first + b.len) * PAGE_SIZE ≤ boot.lastpaddr.toNat ∧
      b.addr.toNat = b.first * PAGE_SIZE ∧ (BitVec.ofNat 32 b.len).toNat = b.len ∧
      (BitVec.ofNat 32 b.len).toInt = b.len := by
  have hlast := hboot.last_le
  have hin := Nat.le_trans (hp.inside b hb).2 hp.first_le
  have hlen := (hp.size b hb).1
  have hexp : b.first * PAGE_SIZE + b.len * PAGE_SIZE ≤ boot.lastpaddr.toNat := by
    rwa [← Nat.add_mul]
  have hlt : b.first + 1 ≤ boot.lastpaddr.toNat / PAGE_SIZE := by
    apply (Nat.le_div_iff_mul_le (by decide)).mpr
    exact Nat.le_trans
      (Nat.mul_le_mul_right PAGE_SIZE (show b.first + 1 ≤ b.first + b.len by omega)) hin
  have hsmall : (BitVec.ofNat 32 b.len).toNat = b.len := by
    rw [toNat_ofNat]
    exact Nat.mod_eq_of_lt (by simp only [PAGE_SIZE] at hexp; omega)
  refine ⟨?_, hin, frameAddr_toNat (by omega), hsmall, ?_⟩
  · rw [hp.frames]
    omega
  · rw [toInt_of_small (by rw [hsmall]; simp only [PAGE_SIZE] at hexp; omega), hsmall]

end Request

-- The list is the blocks in use: a block enters it with the address getppages returns and leaves
-- it when that address is freed.
inductive Call (env : Env) : State × List Block → State × List Block → Prop where
  | get {s t : State} {live : List Block} (npages addr : Word) (hn : 1 ≤ npages.toNat)
      (hle : npages.toNat ≤ s.coremap.nRamFrames)
      (hrun : (getppages env npages).run s = .ok addr t) :
      Call env (s, live)
        (t, if addr = 0#32 then live else ⟨addr.toNat / PAGE_SIZE, npages.toNat⟩ :: live)
  | free {s t : State} {live : List Block} (block : Block) (result : Word) (hlive : block ∈ live)
      (hrun : (freeppages env block.addr).run s = .ok result t) :
      Call env (s, live) (t, live.erase block)

lemma call_pool (hboot : Booted boot) (w w' : State × List Block)
    (hp : Pool boot w.1 w.2) (hcall : Call env w w') : Pool boot w'.1 w'.2 := by
  cases hcall with
  | get npages addr hn hle hrun =>
    obtain ⟨-, -, rfl, rfl⟩ := getppages_ok.mp hrun
    cases outcome hboot hp hn hle with
    | recycled start hfree haddr hcoremap hram =>
      obtain ⟨hstart, hne⟩ := run_addr hboot hp hn hfree
      rw [haddr, hcoremap, hram, if_neg hne, frameAddr_toNat hstart,
        Nat.mul_div_cancel _ (by decide)]
      exact pool_recycled hboot hp hn hfree
    | fresh hnone hroom haddr hcoremap hram =>
      rw [haddr, hcoremap, hram, if_neg (firstpaddr_ne_zero hboot hp)]
      exact pool_fresh hboot hp hn hle hroom
    | exhausted hnone hfull haddr hcoremap hram =>
      rw [haddr, hcoremap, hram, if_pos rfl]
      exact hp
  | free block result hlive hrun =>
    obtain ⟨-, h⟩ := freeppages_ok.mp hrun
    rw [if_pos hp.active] at h
    obtain ⟨-, -, rfl⟩ := h
    obtain ⟨-, -, haddr, -, hint⟩ := live_bound hboot hp hlive
    rw [haddr, Nat.mul_div_cancel _ (by decide), (hp.size block hlive).2, hint]
    exact pool_freed hp hlive

lemma call_held (w w' : State × List Block) (hw : w.1.held = held) (hcall : Call env w w') :
    w'.1.held = held := by
  cases hcall with
  | get npages addr hn hle hrun =>
    obtain ⟨-, -, rfl, rfl⟩ := getppages_ok.mp hrun
    exact hw
  | free block result hlive hrun =>
    obtain ⟨-, h⟩ := freeppages_ok.mp hrun
    split at h
    · obtain ⟨-, -, rfl⟩ := h
      exact hw
    · obtain ⟨-, rfl⟩ := h
      exact hw

-- From coremap_bootstrap on, whatever is requested and returned, the blocks in use stay apart
-- from each other and from the frames marked free, and both calls return.
theorem frame_allocator (env : Env) {s t : State} {live : List Block} (hboot : Booted s.ram)
    (hcore : s.coremap = coremapBootstrap s.ram) (hlocks : ∀ lock, Available env lock s)
    (hrun : Relation.ReflTransGen (Call env) (s, []) (t, live)) : live.Pairwise Block.Disjoint ∧
    (∀ b ∈ live, s.ram.firstpaddr.toNat ≤ b.first * PAGE_SIZE ∧
      (b.first + b.len) * PAGE_SIZE ≤ s.ram.lastpaddr.toNat ∧
      (∀ frame, b.Has frame → t.coremap.freeRamFrames frame = false) ∧
      (t.coremap.allocSize b.first).toNat = b.len) ∧
    (∀ b ∈ live, ∃ u, (freeppages env b.addr).run t = .ok 1#32 u ∧
      (∀ frame, u.coremap.freeRamFrames frame = true ↔
        t.coremap.freeRamFrames frame = true ∨ b.Has frame) ∧ u.setCoremap t.coremap = t) ∧
    (∀ npages : Word, 1 ≤ npages.toNat → npages.toNat ≤ t.coremap.nRamFrames →
      ∃ addr u, (getppages env npages).run t = .ok addr u ∧
        (addr = 0#32 →
          (∀ start, start + npages.toNat ≤ t.coremap.nRamFrames →
            ¬ FirstFit.Run t.coremap.freeRamFrames start npages.toNat) ∧
          (t.ram.lastpaddr.toNat - t.ram.firstpaddr.toNat) / PAGE_SIZE < npages.toNat)) := by
  have hp : Pool s.ram t live :=
    Run.invariant (call_pool hboot) (pool_boot hboot hcore) hrun
  have hheld : t.held = s.held :=
    Run.invariant (fun w w' (hw : w.1.held = s.held) h => call_held w w' hw h) rfl hrun
  have hfree : ∀ lock, Available env lock t := by
    intro lock hl
    rw [hheld]
    exact hlocks lock hl
  refine ⟨hp.disjoint, ?_, ?_, ?_⟩
  · intro b hb
    obtain ⟨-, htop, -, hlen, -⟩ := live_bound hboot hp hb
    exact ⟨(hp.inside b hb).1, htop, hp.used b hb, by rw [(hp.size b hb).2, hlen]⟩
  · intro b hb
    obtain ⟨hframe, -, haddr, -, hint⟩ := live_bound hboot hp hb
    have hfirst : b.addr.toNat / PAGE_SIZE = b.first := by
      rw [haddr, Nat.mul_div_cancel _ (by decide)]
    refine ⟨t.setCoremap (t.coremap.putRun b.first b.len), ?_, ?_, rfl⟩
    · apply freeppages_ok.mpr
      rw [if_pos hp.active, hfirst, (hp.size b hb).2, hint]
      exact ⟨hfree .freemem, hframe, rfl, rfl⟩
    intro frame
    have hiff : (b.first ≤ frame ∧ (frame : Int) < b.first + (b.len : Int)) ↔ b.Has frame := by
      unfold Block.Has
      omega
    simp only [State.setCoremap_coremap, Coremap.putRun]
    by_cases hin : b.Has frame
    · simp [if_pos (hiff.mpr hin), hin]
    · simp [if_neg (fun h => hin (hiff.mp h)), hin]
  intro npages hn hle
  refine ⟨_, _, getppages_ok.mpr ⟨hfree .freemem, fun _ => hfree .stealmem, rfl, rfl⟩, ?_⟩
  intro hzero
  cases outcome hboot hp hn hle with
  | recycled start hrun' haddr hcoremap hram =>
    exact absurd (haddr.symm.trans hzero) (run_addr hboot hp hn hrun').2
  | fresh hnone hroom haddr hcoremap hram =>
    exact absurd (haddr.symm.trans hzero) (firstpaddr_ne_zero hboot hp)
  | exhausted hnone hfull haddr hcoremap hram =>
    refine ⟨hnone, ?_⟩
    have hpos : 0 < npages.toNat * PAGE_SIZE := Nat.mul_pos hn (by decide)
    rw [Nat.div_lt_iff_lt_mul (by decide)]
    omega

def smallPool : State := (powerOn smallRam).setCoremap (coremapBootstrap smallRam)

theorem frame_allocator_two_frames :
    ∃ t, (getppages steadyEnv 2#32).run smallPool = .ok 0x4000#32 t ∧
      (t.coremap.allocSize 4).toNat = 2 := by
  have hlocks : ∀ lock, Available steadyEnv lock smallPool := fun _ _ => rfl
  have haddr : 0x4000#32 = allocAddr smallPool.coremap smallPool.ram 2#32 := by decide
  obtain ⟨t, hget⟩ : ∃ t, (getppages steadyEnv 2#32).run smallPool = .ok 0x4000#32 t :=
    ⟨_, getppages_ok.mpr ⟨hlocks .freemem, fun _ => hlocks .stealmem, haddr, rfl⟩⟩
  have hcall : Call steadyEnv (smallPool, []) (t, [⟨4, 2⟩]) :=
    Call.get 2#32 0x4000#32 (by decide) (by decide) hget
  have h := frame_allocator steadyEnv (s := smallPool)
    ⟨by decide, by decide, by decide, by decide⟩ rfl hlocks (Relation.ReflTransGen.single hcall)
  exact ⟨t, hget, (h.2.1 ⟨4, 2⟩ (by simp)).2.2.2⟩

-- A frame taken since the start is free unless a block in use has it.
def Covered (boot : Ram) (w : State × List Block) : Prop :=
  ∀ frame, boot.firstpaddr.toNat ≤ frame * PAGE_SIZE →
    (frame + 1) * PAGE_SIZE ≤ w.1.ram.firstpaddr.toNat → (∀ b ∈ w.2, ¬ b.Has frame) →
      w.1.coremap.freeRamFrames frame = true

lemma call_covered (hboot : Booted boot) (w w' : State × List Block)
    (h : Pool boot w.1 w.2 ∧ Covered boot w) (hcall : Call env w w') :
    Pool boot w'.1 w'.2 ∧ Covered boot w' := by
  obtain ⟨hp, h⟩ := h
  refine ⟨call_pool hboot w w' hp hcall, ?_⟩
  cases hcall with
  | get npages addr hn hle hrun =>
    obtain ⟨-, -, rfl, rfl⟩ := getppages_ok.mp hrun
    cases outcome hboot hp hn hle with
    | recycled start hfree haddr hcoremap hram =>
      obtain ⟨hstart, hne⟩ := run_addr hboot hp hn hfree
      rw [haddr, hcoremap, hram, if_neg hne, frameAddr_toNat hstart,
        Nat.mul_div_cancel _ (by decide)]
      intro frame hlo hhi hnone
      obtain ⟨hout, hrest⟩ := forall_mem_cons.mp hnone
      exact (if_neg hout).trans (h frame hlo hhi hrest)
    | fresh hnone hroom haddr hcoremap hram =>
      rw [haddr, hcoremap, hram, if_neg (firstpaddr_ne_zero hboot hp)]
      intro frame hlo hhi hnone
      obtain ⟨hout, hrest⟩ := forall_mem_cons.mp hnone
      refine h frame hlo ?_ hrest
      have hsum := steal_toNat hboot hp hle
      have haligned := hp.aligned
      simp only [Block.Has, PAGE_SIZE, State.setRam_ram] at *
      omega
    | exhausted hnone hfull haddr hcoremap hram =>
      rw [haddr, hcoremap, hram, if_pos rfl]
      exact h
  | free block result hlive hrun =>
    obtain ⟨-, hfreed⟩ := freeppages_ok.mp hrun
    rw [if_pos hp.active] at hfreed
    obtain ⟨-, -, rfl⟩ := hfreed
    obtain ⟨-, -, haddr, -, hint⟩ := live_bound hboot hp hlive
    rw [haddr, Nat.mul_div_cancel _ (by decide), (hp.size block hlive).2, hint]
    intro frame hlo hhi hnone
    show (if _ then true else _) = true
    split_ifs with hin
    · rfl
    refine h frame hlo hhi fun b hb hhas => hnone b ((mem_erase_of_ne ?_).mpr hb) hhas
    rintro rfl
    unfold Block.Has at hhas
    omega

-- No frame is lost, whatever is requested and returned.
theorem frames_conserved {s t : State} {live : List Block} (hboot : Booted s.ram)
    (hcore : s.coremap = coremapBootstrap s.ram)
    (hrun : Relation.ReflTransGen (Call env) (s, []) (t, live)) : Covered s.ram (t, live) := by
  refine (Run.invariant (call_covered hboot) ⟨pool_boot hboot hcore, ?_⟩ hrun).2
  intro frame hlo hhi
  simp only [PAGE_SIZE] at *
  omega

theorem frames_conserved_two : ∃ t u, (getppages steadyEnv 2#32).run smallPool = .ok 0x4000#32 t ∧
    (freeppages steadyEnv 0x4000#32).run t = .ok 1#32 u ∧ Covered smallPool.ram (u, []) := by
  have haddr : 0x4000#32 = allocAddr smallPool.coremap smallPool.ram 2#32 := by decide
  obtain ⟨t, u, hget, hfree⟩ : ∃ t u, (getppages steadyEnv 2#32).run smallPool = .ok 0x4000#32 t ∧
      (freeppages steadyEnv 0x4000#32).run t = .ok 1#32 u :=
    ⟨_, _, getppages_ok.mpr ⟨fun _ => rfl, fun _ _ => rfl, haddr, rfl⟩,
      freeppages_ok.mpr ⟨fun _ => rfl, (if_pos rfl).mpr ⟨by decide, rfl, rfl⟩⟩⟩
  exact ⟨t, u, hget, hfree, frames_conserved ⟨by decide, by decide, by decide, by decide⟩ rfl
    (.tail (.single (.get 2#32 0x4000#32 (by decide) (by decide) hget))
      (.free ⟨4, 2⟩ 1#32 (by decide) hfree))⟩

end Os161.Vm
