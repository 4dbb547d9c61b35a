import Os161.Lhd
import Os161.Uiomove.Theorems

-- The driver empties the uio before it knows how the operation ends, so what sfs_rwblock retries
-- is a request for nothing.

namespace Os161.Lhd

open Function Copyinout Uiomove Lib.Exec BitVec List
open Vm (Word EINVAL EFAULT Stop)

section Payload

variable {s : State} {seg : UioSeg} {ptr a : Word}

def byteAt (s : State) (seg : UioSeg) (a : Word) : UInt8 :=
  if seg = .sysspace then s.kernel a else s.user a

lemma moveByte_kernel (seg : UioSeg) (ptr a : Word) (s : State) :
    (moveByte seg .write ptr a s).kernel = update s.kernel ptr (byteAt s seg a) := by
  cases seg <;> rfl

lemma moveByte_byteAt (h : seg = .sysspace → b ≠ ptr) :
    byteAt (moveByte seg .write ptr a s) seg b = byteAt s seg b := by
  cases seg with
  | sysspace =>
    simp only [byteAt, if_true, moveByte_kernel]
    exact update_of_ne (h rfl) _ _
  | userispace | userspace => rfl

lemma moveBytes_frame (h : ∀ i < as.length, b ≠ ptr + BitVec.ofNat 32 i) :
    (moveBytes seg .write ptr as s).kernel b = s.kernel b := by
  induction as generalizing ptr s with
  | nil => rfl
  | cons a as ih =>
    rw [moveBytes, ih, moveByte_kernel]
    · exact update_of_ne (by simpa using h 0 (by simp)) _ _
    intro i hi heq
    refine h (i + 1) (by simpa using hi) (heq.trans ?_)
    bv_omega

lemma moveBytes_dest (hlen : as.length < 0x100000000)
    (hsep : Separate seg ptr as.length as) (i : Nat) (hi : i < as.length) :
    (moveBytes seg .write ptr as s).kernel (ptr + BitVec.ofNat 32 i) = byteAt s seg as[i] := by
  induction as generalizing ptr s i with
  | nil => exact absurd hi (Nat.not_lt_zero i)
  | cons a as ih =>
    rw [length_cons] at hlen
    rw [moveBytes]
    cases i with
    | zero =>
      rw [moveBytes_frame, moveByte_kernel]
      · simp
      · intro j hj
        bv_omega
    | succ i =>
      have haddr : ptr + BitVec.ofNat 32 (i + 1) = ptr + 1 + BitVec.ofNat 32 i := by bv_omega
      have hsep' : Separate seg (ptr + 1) as.length as := by
        intro hseg j hj b hb heq
        refine hsep hseg (j + 1) (by simpa using hj) b (mem_cons_of_mem a hb) ?_
        rw [← heq]
        bv_omega
      rw [haddr, ih (by omega) hsep' i (by simpa using hi), getElem_cons_succ, moveByte_byteAt]
      intro hseg heq
      have hmem : ptr ∈ a :: as := mem_cons_of_mem a (heq ▸ getElem_mem _)
      exact hsep hseg 0 (by simp) ptr hmem (by simp)

lemma cardData_moved (hlen : as.length = 512) (hsep : Separate seg ptr 512 as) :
    cardData (moveBytes seg .write ptr as s) ptr = as.map (byteAt s seg) := by
  refine ext_getElem (by simp [cardData, LHD_SECTSIZE, hlen]) fun i hi hi' => ?_
  rw [length_map] at hi'
  simp only [cardData, getElem_map, getElem_range]
  exact moveBytes_dest (by omega) (hlen ▸ hsep) i hi'

end Payload

section Transfer

variable {d : Device} {uio : Uio} {sector result : Word} {rest : List Word}

def firstBlock (uio : Uio) : List Word := (stream uio.iov).take 512

def payload (d : Device) (uio : Uio) : List UInt8 :=
  (firstBlock uio).map (byteAt d.mem uio.segflg)

structure BlockWrite (d : Device) (sector : Word) (uio : Uio) : Prop where
  write : uio.rw = .write
  offset : uio.offset = ((sector.toNat * 512 : Nat) : Int)
  resid : uio.resid = 512#32
  total : 512 ≤ total uio.iov
  quiet : d.mem.badfaultfunc = false
  separate : Separate uio.segflg d.buf 512 (firstBlock uio)

def completed (d : Device) (mem : State) (sector : Word) (data : List UInt8) (result : Word)
    (rest : List Word) : Device :=
  { d with
    mem := mem
    interrupts := rest
    requests := d.requests ++ [⟨sector, true, data, result⟩]
    sectors := if result = 0 then update d.sectors sector data else d.sectors }

lemma operate_write (hwait : lhdWait d.interrupts = some (result, rest)) :
    (operate sector true).run { d with mem := mem } =
      .ok result (completed d mem sector (cardData mem d.buf) result rest) := by
  by_cases hzero : result = 0#32
  · simp [operate, hwait, hzero, completed]
  · simp [operate, hwait, hzero, completed]

lemma operate_blocked (hwait : lhdWait d.interrupts = none) :
    (operate sector true).run d = .error (.stop .blocked) d := by
  rw [operate, EStateM.run_bind, EStateM.run_get]
  simp only [hwait]
  rfl

lemma onMem_run (x : Copy α) (d : Device) : (onMem x).run d =
    match x.run d.mem with
    | .ok a mem => .ok a { d with mem := mem }
    | .error e mem => .error e { d with mem := mem } := rfl

lemma lhdIo_aligned (first : Nat) (hoffset : uio.offset = ((first * 512 : Nat) : Int))
    (hresid : uio.resid % 512#32 = 0#32) : (lhdIo uio).run d =
      if d.blocks < BitVec.ofNat 32 first + uio.resid / 512#32 then .ok (EINVAL, uio) d
      else (lhdIoLoop (BitVec.ofNat 32 first) (uio.resid / 512#32).toNat 0 uio).run d := by
  have hdiv : BitVec.ofInt 32 (uio.offset.tdiv 512) = BitVec.ofNat 32 first := by
    have hcancel : (((first * 512 : Nat) : Int)).tdiv 512 = first :=
      Int.mul_tdiv_cancel (b := 512) (first : Int) (by decide)
    rw [hoffset, hcancel]
    exact ofInt_natCast ..
  have hmod : BitVec.ofInt 32 (uio.offset.tmod 512) = 0#32 := by
    have hcancel : (((first * 512 : Nat) : Int)).tmod 512 = 0 :=
      Int.mul_tmod_left (first : Int) 512
    rw [hoffset, hcancel]
    rfl
  have hrun : (lhdIo uio).run d =
      ((if BitVec.ofInt 32 (uio.offset.tmod 512) ≠ 0 ∨ uio.resid % 512#32 ≠ 0 then
        pure (EINVAL, uio)
      else if d.blocks < BitVec.ofInt 32 (uio.offset.tdiv 512) + uio.resid / 512#32 then
        pure (EINVAL, uio)
      else lhdIoLoop (BitVec.ofInt 32 (uio.offset.tdiv 512)) (uio.resid / 512#32).toNat 0 uio :
        Disk (Word × Uio)).run d) := rfl
  rw [hrun, hdiv, hmod, hresid, if_neg (by simp)]
  by_cases hblocks : d.blocks < BitVec.ofNat 32 first + uio.resid / 512#32
  · rw [if_pos hblocks, if_pos hblocks]
    rfl
  · rw [if_neg hblocks, if_neg hblocks]

lemma BlockWrite.lhdIo_eq (h : BlockWrite d sector uio) : (lhdIo uio).run d =
    if d.blocks < sector + 1 then .ok (EINVAL, uio) d else (lhdIoLoop sector 1 0 uio).run d := by
  rw [lhdIo_aligned sector.toNat h.offset (by rw [h.resid]; rfl), h.resid]
  simp only [ofNat_toNat, setWidth_eq]
  rfl

lemma BlockWrite.lhdIo_again (h : BlockWrite d sector uio)
    (hblocks : ¬ d.blocks < sector + 1) (ht : t.blocks = d.blocks) :
    (lhdIo (uio.advance 512)).run t = .ok (0, uio.advance 512) t := by
  have hoffset : (uio.advance 512).offset = (((sector.toNat + 1) * 512 : Nat) : Int) := by
    have hadvance : (uio.advance 512).offset = uio.offset + (512 : Nat) := rfl
    rw [hadvance, h.offset]
    omega
  have hresid : (uio.advance 512).resid = 0#32 := by
    have hadvance : (uio.advance 512).resid = uio.resid - 512#32 := rfl
    rw [hadvance, h.resid]
    rfl
  rw [lhdIo_aligned (sector.toNat + 1) hoffset (by rw [hresid]; rfl), hresid, if_neg]
  · rfl
  have hnone : 0#32 / 512#32 = 0#32 := rfl
  rw [ht, hnone]
  bv_omega

lemma moveCard_run (uio : Uio) (d : Device) : (moveCard uio).run d =
    (onMem (uiomove d.buf LHD_SECTSIZE uio)).run d := rfl

section

variable (h : BlockWrite d sector uio)

include h

lemma BlockWrite.loop_unclear (hbad : ¬ Clear d.mem uio.segflg uio.rw (firstBlock uio))
    (hrun : (lhdIoLoop sector 1 0 uio).run d = .ok (result, uio') t) :
    result = EFAULT ∧ t.requests = d.requests := by
  rw [lhdIoLoop, if_pos h.write] at hrun
  obtain ⟨⟨moved, uio''⟩, u, hmove, hrun⟩ := bind_ok.mp hrun
  rw [moveCard_run, onMem_run] at hmove
  cases hmem : (uiomove d.buf LHD_SECTSIZE uio).run d.mem with
  | error e mem =>
    rw [hmem] at hmove
    cases hmove
  | ok a mem =>
    rw [hmem] at hmove
    obtain ⟨rfl, rfl⟩ := EStateM.Result.ok.inj hmove
    have hn : LHD_SECTSIZE.toNat ≤ uio.resid.toNat := by
      rw [h.resid]
      decide
    have hfault := uiomoveLoop_unclear _ h.quiet hn hbad hmem
    simp only [hfault] at hrun
    rw [if_pos (by decide)] at hrun
    obtain ⟨heq, rfl⟩ := pure_ok.mp hrun
    exact ⟨(Prod.mk.inj heq).1, rfl⟩

lemma BlockWrite.loop_move (hclear : Clear d.mem uio.segflg uio.rw (firstBlock uio)) :
    ∃ mem, cardData mem d.buf = payload d uio ∧
      (lhdIoLoop sector 1 0 uio).run d = ((do
        let result ← operate sector true
        pure (result, uio.advance 512) : Disk (Word × Uio)).run { d with mem := mem }) := by
  have hn : LHD_SECTSIZE.toNat = 512 := rfl
  have hresid : uio.resid.toNat = 512 := by rw [h.resid]; rfl
  obtain ⟨mem, hrun, -, -, hmoved⟩ := uiomoveLoop_run (n := LHD_SECTSIZE) d.buf _
    (Nat.lt_succ_self _) (by rw [hresid]; exact h.total)
    (.inl (Nat.le_of_eq (hn.trans hresid.symm))) (by rw [hn, hresid]; exact hclear)
  rw [hn, hresid, Nat.min_self] at hmoved
  rw [hn, hresid, Nat.min_self] at hrun
  refine ⟨mem, ?_, ?_⟩
  · have hlen : (firstBlock uio).length = 512 := by
      rw [firstBlock, length_take, length_stream, Nat.min_eq_left h.total]
    rw [hmoved h.separate, h.write]
    exact cardData_moved hlen h.separate
  have hmove : (moveCard uio).run d = .ok (0, uio.advance 512) { d with mem := mem } := by
    rw [moveCard_run, onMem_run, uiomove, hn, hrun]
  rw [lhdIoLoop, if_pos h.write, bind_run_ok hmove]
  have hrw : (uio.advance 512).rw = .write := h.write
  have hsector : sector + BitVec.ofNat 32 0 = sector := by simp
  simp only [ne_eq, not_true_eq_false, if_false, hrw, decide_true, hsector]
  cases hop : (operate sector true).run { d with mem := mem } with
  | error e t => rw [bind_run_error hop, bind_run_error hop]
  | ok result t =>
    rw [bind_run_ok hop, bind_run_ok hop, if_neg (by simp), pure_bind]
    by_cases hzero : result = 0
    · simp only [hzero, not_true_eq_false, if_false]
      rfl
    · simp only [hzero, not_false_eq_true, if_true]

section

variable (hblocks : ¬ d.blocks < sector + 1)
  (hclear : Clear d.mem uio.segflg uio.rw (firstBlock uio))

include hblocks hclear

lemma BlockWrite.lhdIo_clear (hwait : lhdWait d.interrupts = some (result, rest)) : ∃ mem,
      (lhdIo uio).run d = .ok (result, uio.advance 512)
        (completed d mem sector (payload d uio) result rest) := by
  obtain ⟨mem, hdata, hrun⟩ := h.loop_move hclear
  refine ⟨mem, ?_⟩
  rw [h.lhdIo_eq, if_neg hblocks, hrun, bind_run_ok (operate_write hwait), hdata]
  rfl

lemma BlockWrite.lhdIo_blocked (hwait : lhdWait d.interrupts = none) :
    ∃ e t, (lhdIo uio).run d = .error e t := by
  obtain ⟨mem, -, hrun⟩ := h.loop_move hclear
  refine ⟨.stop .blocked, { d with mem := mem }, ?_⟩
  have hop : (operate sector true).run { d with mem := mem } =
      .error (.stop .blocked) { d with mem := mem } := operate_blocked hwait
  rw [h.lhdIo_eq, if_neg hblocks, hrun, bind_run_error hop]

end

end

end Transfer

section Report

variable {d : Device} {uio : Uio} {sector block result : Word}

-- 0 is reported when the last request the disk took is that write of `bytes`, and not when every
-- request failed.
def Reported {α : Type} (code : α → Word) (block : Word) (bytes : List UInt8) (d : Device) :
    EStateM.Result Exit Device α → Prop
  | .ok a t => ∃ made, t.requests = d.requests ++ made ∧
      (code a = 0 → made.getLast? = some ⟨block, true, bytes, 0⟩) ∧
      ((∀ request ∈ made, request.result ≠ 0) → code a ≠ 0)
  | .error _ _ => True

-- The request is past the end of the disk, or its first completion is no media error and a
-- success is one on the right block.
def Kept (d : Device) (sector block : Word) : Prop :=
  d.blocks < sector + 1 ∨ ∀ result rest, lhdWait d.interrupts = some (result, rest) →
    result ≠ EIO ∧ (result = 0 → sector = block)

variable {t : Device}

lemma reported_failed (hresult : result ≠ 0)
    (ht : t.requests = d.requests ++ made) :
    Reported Prod.fst block bytes d (.ok (result, uio) t) :=
  ⟨made, ht, fun hzero => absurd hzero hresult, fun _ => hresult⟩

lemma reported_success (ht : t.requests = d.requests ++ [⟨sector, true, data, code⟩]) :
    Reported Prod.fst block bytes d (.ok (0, uio) t) ↔
      sector = block ∧ data = bytes ∧ code = 0 := by
  constructor
  · rintro ⟨made, hmade, hlast, -⟩
    obtain rfl := append_cancel_left (ht.symm.trans hmade)
    simpa using hlast rfl
  rintro ⟨rfl, rfl, rfl⟩
  refine ⟨_, ht, fun _ => rfl, fun hfailed => ?_⟩
  exact absurd rfl (hfailed _ (mem_singleton.mpr rfl))

lemma sfsRwblockFrom_attempt (left : Nat)
    (h : (lhdIo uio).run d = .ok (result, uio') t) : (sfsRwblockFrom (left + 1) uio).run d =
      ((if result = EINVAL then throw (.stop (.panic "sfs: %s: DEVOP_IO returned EINVAL\n" []))
      else if result = EIO then sfsRwblockFrom left uio'
      else pure (result, uio') : Disk (Word × Uio)).run t) := by
  rw [sfsRwblockFrom, bind_run_ok h]

lemma BlockWrite.reported_iff (h : BlockWrite d sector uio) :
    Reported Prod.fst block (payload d uio) d ((sfsRwblock uio).run d) ↔
      (Clear d.mem uio.segflg uio.rw (firstBlock uio) → Kept d sector block) := by
  by_cases hblocks : d.blocks < sector + 1
  · refine iff_of_true ?_ fun _ => .inl hblocks
    have hio := h.lhdIo_eq
    rw [if_pos hblocks] at hio
    rw [sfsRwblock, sfsRwblockFrom_attempt 9 hio, if_pos rfl]
    trivial
  by_cases hclear : Clear d.mem uio.segflg uio.rw (firstBlock uio)
  · cases hwait : lhdWait d.interrupts with
    | none =>
      refine iff_of_true ?_ fun _ => .inr fun _ _ hsome => ?_
      · obtain ⟨e, t, hio⟩ := h.lhdIo_blocked hblocks hclear hwait
        rw [sfsRwblock, sfsRwblockFrom, bind_run_error hio]
        trivial
      · rw [hwait] at hsome
        cases hsome
    | some done =>
      obtain ⟨result, rest⟩ := done
      obtain ⟨mem, hio⟩ := h.lhdIo_clear hblocks hclear hwait
      have hkept : (Clear d.mem uio.segflg uio.rw (firstBlock uio) → Kept d sector block) ↔
          result ≠ EIO ∧ (result = 0 → sector = block) := by
        refine ⟨fun hkept => ?_, fun hkept _ => .inr fun r vals hsome => ?_⟩
        · exact ((hkept hclear).resolve_left hblocks) result rest hwait
        · obtain ⟨rfl, rfl⟩ := Prod.mk.inj (Option.some.inj (hwait.symm.trans hsome))
          exact hkept
      rw [hkept, sfsRwblock, sfsRwblockFrom_attempt 9 hio]
      by_cases hinval : result = EINVAL
      · rw [if_pos hinval]
        refine iff_of_true trivial ⟨by rw [hinval]; decide, fun hzero => ?_⟩
        rw [hinval] at hzero
        cases hzero
      rw [if_neg hinval]
      by_cases hmedia : result = EIO
      · -- the retry of the emptied uio succeeds
        have hagain := h.lhdIo_again (t := completed d mem sector (payload d uio) result rest)
          hblocks rfl
        rw [if_pos hmedia, sfsRwblockFrom_attempt 8 hagain, if_neg (by decide), if_neg (by decide)]
        refine iff_of_false (fun hreported => ?_) fun hkept => hkept.1 hmedia
        have hcode := ((reported_success rfl).mp hreported).2.2
        rw [hmedia] at hcode
        cases hcode
      rw [if_neg hmedia]
      by_cases hzero : result = 0
      · subst hzero
        refine (reported_success rfl).trans ⟨fun hblock => ⟨hmedia, fun _ => hblock.1⟩, ?_⟩
        exact fun hkept => ⟨hkept.2 rfl, rfl, rfl⟩
      · refine iff_of_true (reported_failed hzero rfl) ⟨hmedia, fun h => absurd h hzero⟩
  refine iff_of_true ?_ fun h => absurd h hclear
  cases hio : (lhdIo uio).run d with
  | error e t =>
    rw [sfsRwblock, sfsRwblockFrom, bind_run_error hio]
    trivial
  | ok a t =>
    obtain ⟨result, uio'⟩ := a
    have hloop := h.lhdIo_eq.symm.trans hio
    rw [if_neg hblocks] at hloop
    obtain ⟨rfl, hrequests⟩ := h.loop_unclear hclear hloop
    rw [sfsRwblock, sfsRwblockFrom_attempt 9 hio, if_neg (by decide), if_neg (by decide)]
    exact reported_failed (by decide) (hrequests.trans (append_nil _).symm)

def wrapped (diskblock : Word) : Word := BitVec.ofNat 32 (diskblock.toNat % 0x800000)

lemma wrapped_offset (diskblock : Word) :
    (diskblock * SFS_BLOCKSIZE).toNat = (wrapped diskblock).toNat * 512 := by
  simp only [wrapped, SFS_BLOCKSIZE, toNat_mul, toNat_ofNat]
  omega

def BlockioReported (bmap : Word → Bool → Except Word Word) (uio : Uio) (d : Device) : Prop :=
  match bmap (BitVec.ofInt 32 (uio.offset.tdiv SFS_BLOCKSIZE.toNat)) true with
  | .error result => (sfsBlockio bmap uio).run d = .ok (result, uio) d
  | .ok diskblock => Reported Prod.fst diskblock (payload d uio) d ((sfsBlockio bmap uio).run d)

-- The map gives no block for the write, the buffer cannot be read, or the request is kept.
def BlockioKept (bmap : Word → Bool → Except Word Word) (uio : Uio) (d : Device) : Prop :=
  ∀ diskblock, bmap (BitVec.ofInt 32 (uio.offset.tdiv SFS_BLOCKSIZE.toNat)) true =
      .ok diskblock → diskblock ≠ 0 → ¬ uio.resid < SFS_BLOCKSIZE →
    Clear d.mem uio.segflg uio.rw (firstBlock uio) → Kept d (wrapped diskblock) diskblock

lemma reported_map (code : β → Word) (x : Disk α) (f : α → β) :
    Reported code block bytes d ((x >>= fun a => pure (f a)).run d) ↔
      Reported (fun a => code (f a)) block bytes d (x.run d) := by
  rw [EStateM.run_bind]
  cases x.run d with
  | ok a t | error e t => rfl

lemma sfsBlockio_reported_iff (bmap : Word → Bool → Except Word Word)
    (hfunc : d.mem.badfaultfunc = false) (hrw : uio.rw = .write)
    (htotal : uio.resid.toNat ≤ total uio.iov)
    (hsep : Separate uio.segflg d.buf 512 (firstBlock uio)) :
    BlockioReported bmap uio d ↔ BlockioKept bmap uio d := by
  have hdo : decide (uio.rw = .write) = true := by simp [hrw]
  unfold BlockioReported BlockioKept
  cases hmap : bmap (BitVec.ofInt 32 (uio.offset.tdiv SFS_BLOCKSIZE.toNat)) true with
  | error result =>
    refine iff_of_true ?_ fun _ hok => nomatch hok
    simp only [sfsBlockio, hdo, hmap]
    rfl
  | ok diskblock =>
    simp only [sfsBlockio, hdo, hmap]
    by_cases hzero : diskblock = 0
    · rw [if_pos hzero]
      refine iff_of_true ?_ fun other hok hne => ?_
      · simp only [hrw]
        trivial
      · exact absurd (Except.ok.inj hok ▸ hzero) hne
    rw [if_neg hzero]
    by_cases hshort : uio.resid < SFS_BLOCKSIZE
    · rw [if_pos hshort]
      exact iff_of_true trivial fun _ _ _ hlong => absurd hshort hlong
    rw [if_neg hshort]
    have hwrite : BlockWrite d (wrapped diskblock) (blockioUio diskblock uio) := by
      refine ⟨hrw, congrArg Nat.cast (wrapped_offset diskblock), rfl, ?_, hfunc, hsep⟩
      have hlong : ¬ uio.resid < 512#32 := hshort
      exact Nat.le_trans (by bv_omega) htotal
    refine (reported_map Prod.fst (sfsRwblock (blockioUio diskblock uio)) _).trans
      (hwrite.reported_iff.trans ⟨fun hkept => ?_, fun hkept => ?_⟩)
    · rintro other hok - - hclear
      exact Except.ok.inj hok ▸ hkept hclear
    · exact hkept diskblock rfl hzero hshort

-- A block write that is reported has happened exactly where the first completion of the disk is
-- not a media error and sfs_blockio does not lose the upper bits of the block number.
theorem block_writes_reported_iff (d : Device) (block data : Word)
    (bmap : Word → Bool → Except Word Word) (uio : Uio) (hfunc : d.mem.badfaultfunc = false)
    (hdata : Separate .sysspace d.buf 512 (chunk data 512)) (hrw : uio.rw = .write)
    (htotal : uio.resid.toNat ≤ total uio.iov)
    (hsep : Separate uio.segflg d.buf 512 (firstBlock uio)) :
    (Reported id block ((chunk data 512).map d.mem.kernel) d ((sfsWriteblock block data).run d) ∧
        BlockioReported bmap uio d) ↔ Kept d block block ∧ BlockioKept bmap uio d := by
  refine and_congr ?_ (sfsBlockio_reported_iff bmap hfunc hrw htotal hsep)
  have hfirst : firstBlock (sfsUio data block .write) = chunk data 512 := by
    have hlen : SFS_BLOCKSIZE.toNat = 512 := rfl
    simp only [firstBlock, sfsUio, stream, flatMap_cons, flatMap_nil, append_nil, hlen]
    exact take_of_length_le (Nat.le_of_eq (length_chunk data 512))
  have hpayload : payload d (sfsUio data block .write) = (chunk data 512).map d.mem.kernel := by
    rw [payload, hfirst]
    rfl
  have hwrite : BlockWrite d block (sfsUio data block .write) := by
    refine ⟨rfl, rfl, rfl, Nat.le_refl 512, hfunc, ?_⟩
    rw [hfirst]
    exact hdata
  have hclear : Clear d.mem .sysspace .write (firstBlock (sfsUio data block .write)) :=
    ⟨hfunc, fun hseg => absurd rfl hseg⟩
  rw [← hpayload]
  refine (reported_map id (sfsRwblock (sfsUio data block .write)) Prod.fst).trans
    (hwrite.reported_iff.trans ⟨fun hkept => hkept hclear, fun hkept _ => hkept⟩)

def smallDisk (codes : List Word) : Device :=
  ⟨zeroedUser, 8#32, 0xbfe08000#32, 0x80001000#32, fun _ => [], codes, []⟩

lemma separate_chunk (data : Word) (hdata : data < 0xb0000000#32) :
    Separate .sysspace 0xbfe08000#32 512 (chunk data 512) := by
  intro _ i hi a ha
  obtain ⟨j, hj, rfl⟩ := mem_map.mp ha
  rw [mem_range] at hj
  bv_omega

def blockUio : Uio := ⟨[⟨0x80003000#32, 512#32⟩], 1024, 512#32, .sysspace, .write⟩

theorem block_writes_reported_ok :
    Reported id 3#32 ((chunk 0x80002000#32 512).map zeroedUser.kernel) (smallDisk [LHD_OK])
        ((sfsWriteblock 3#32 0x80002000#32).run (smallDisk [LHD_OK])) ∧
      BlockioReported (fun _ _ => .ok 5#32) blockUio (smallDisk [LHD_OK]) := by
  have hfirst : firstBlock blockUio = chunk 0x80003000#32 512 := by decide +kernel
  have hkept : ∀ block, wrapped block = block →
      Kept (smallDisk [LHD_OK]) (wrapped block) block := by
    refine fun block hblock => .inr fun result rest hwait => ?_
    obtain ⟨rfl, rfl⟩ := Prod.mk.inj (Option.some.inj hwait.symm)
    exact ⟨by decide, fun _ => hblock⟩
  refine (block_writes_reported_iff (smallDisk [LHD_OK]) 3#32 0x80002000#32 (fun _ _ => .ok 5#32)
    blockUio rfl (separate_chunk _ (by decide)) rfl (by decide) ?_).mpr ⟨hkept 3#32 rfl, ?_⟩
  · rw [hfirst]
    exact separate_chunk _ (by decide)
  intro diskblock hmap _ _ _
  obtain rfl := Except.ok.inj hmap
  exact hkept 5#32 rfl

def answer : EStateM.Result Exit Device Word → Option (Word × List Word)
  | .ok result t => some (result, t.requests.map (·.result))
  | .error _ _ => none

-- One media error, and the write that never happened is reported as done.
theorem sfsWriteblock_reports_failed :
    answer ((sfsWriteblock 3#32 0x80002000#32).run (smallDisk [LHD_MEDIA])) = some (0, [ EIO]) := by
  decide +kernel

end Report

end Os161.Lhd
