import Os161.Lhd.Theorems

namespace Os161.Lhd

open Copyinout Uiomove Lib.Exec BitVec EStateM List
open Vm (Word EINVAL EFAULT Stop)

section Results

variable {α : Type}

lemma guarded_cases (h : (guarded fail body).run s = .ok a t) :
    a = fail ∨ ∃ u v, body.run u = .ok a v := by
  obtain ⟨_, u, -, h⟩ := bind_ok.mp h
  simp only [setjmp, EStateM.run] at h
  split at h
  · obtain ⟨_, _, -, h⟩ := bind_ok.mp h
    exact .inl (pure_ok.mp h).1
  obtain ⟨b, v, hbody, h⟩ := bind_ok.mp h
  obtain ⟨_, _, -, h⟩ := bind_ok.mp h
  exact .inr ⟨u, v, (pure_ok.mp h).1 ▸ hbody⟩

lemma copy_result (h : (if (copycheck ptr len).1 ≠ 0 then pure (copycheck ptr len).1
      else if (copycheck ptr len).2 ≠ len then pure EFAULT else guarded EFAULT do
        body
        pure 0 : Copy Word).run s = .ok r t) : r = 0 ∨ r = EFAULT := by
  have hcheck : (copycheck ptr len).1 = 0 ∨ (copycheck ptr len).1 = EFAULT := by
    simp only [copycheck]
    split_ifs <;> simp
  split at h
  · rw [(pure_ok.mp h).1]
    exact hcheck
  split at h
  · exact .inr (pure_ok.mp h).1
  rcases guarded_cases h with hfail | ⟨u, v, hbody⟩
  · exact .inr hfail
  · obtain ⟨_, _, -, hbody⟩ := bind_ok.mp hbody
    exact .inl (pure_ok.mp hbody).1

lemma transfer_result (h : (transfer seg rw ptr base size).run s = .ok r t) :
    r = 0 ∨ r = EFAULT := by
  cases seg with
  | sysspace =>
    cases rw with
    | read | write =>
      obtain ⟨_, _, -, h⟩ := bind_ok.mp h
      exact .inl (pure_ok.mp h).1
  | userspace | userispace =>
    cases rw with
    | read | write => exact copy_result h

lemma uiomoveLoop_result (fuel : Nat) (h : (uiomoveLoop fuel ptr n uio).run s = .ok (r, uio') t) :
    r = 0 ∨ r = EFAULT := by
  induction fuel generalizing ptr n uio s with
  | zero => cases h
  | succ fuel ih =>
    rw [uiomoveLoop] at h
    split at h
    · split at h
      · cases h
      dsimp only at h
      generalize (if n < _ then n else _) = size at h
      split at h
      · split at h
        · cases h
        · exact ih h
      obtain ⟨result, u, htransfer, h⟩ := bind_ok.mp h
      split at h
      · rw [(Prod.mk.inj (pure_ok.mp h).1).1]
        exact transfer_result htransfer
      · exact ih h
    · exact .inl (Prod.mk.inj (pure_ok.mp h).1).1

end Results

def after {α : Type} : EStateM.Result Exit Device α → Device
  | .ok _ t => t
  | .error _ t => t

def sectorsOf (d : Device) : List Word := d.requests.map (·.sector)

section Requests

variable {α β : Type} {sector : Word} {uio : Uio}

lemma bind_sectors (x : Disk α) {f : α → Disk β} (d : Device)
    (h : ∀ a t, sectorsOf (after ((f a).run t)) = sectorsOf t) :
    sectorsOf (after ((x >>= f).run d)) = sectorsOf (after (x.run d)) := by
  rw [run_bind]
  cases x.run d with
  | ok a t => exact h a t
  | error e t => rfl

lemma onMem_sectors (x : Copy α) (d : Device) :
    sectorsOf (after ((onMem x).run d)) = sectorsOf d := by
  rw [onMem_run]
  split <;> rfl

lemma moveCard_sectors (uio : Uio) (d : Device) :
    sectorsOf (after ((moveCard uio).run d)) = sectorsOf d := onMem_sectors _ d

lemma moveCard_result (h : (moveCard uio).run d = .ok (result, uio') t) :
    result = 0 ∨ result = EFAULT := by
  rw [moveCard_run, onMem_run] at h
  split at h
  · rename_i hrun
    obtain ⟨rfl, -⟩ := EStateM.Result.ok.inj h
    exact uiomoveLoop_result _ hrun
  · cases h

lemma operate_sectors (sector : Word) (write : Bool) (d : Device) :
    (operate sector write).run d = .error (.stop .blocked) d ∨
      sectorsOf (after ((operate sector write).run d)) = sectorsOf d ++ [sector] := by
  unfold operate
  rw [run_bind, run_get]
  dsimp only
  split
  · exact .inl rfl
  refine .inr ((bind_sectors (set _) d fun _ t => ?_).trans ?_)
  · split
    · split
      · rfl
      · exact (bind_sectors _ t fun _ _ => rfl).trans (onMem_sectors _ t)
    · rfl
  · exact map_append

def oneSector (sector : Word) (uio : Uio) : Disk (Word × Uio) := do
  let (result, uio) ← (if uio.rw = .write then moveCard uio else pure (0, uio))
  if result ≠ 0 then pure (result, uio)
  else do
    let result ← operate sector (uio.rw = .write)
    if result = 0 ∧ uio.rw = .read then moveCard uio else pure (result, uio)

lemma lhdIoLoop_succ (sector : Word) (left i : Nat) (uio : Uio) :
    lhdIoLoop sector (left + 1) i uio = (do
      let moved ← oneSector (sector + BitVec.ofNat 32 i) uio
      if moved.1 ≠ 0 then pure moved else lhdIoLoop sector left (i + 1) moved.2) := by
  rw [lhdIoLoop, oneSector, bind_assoc]
  congr 1
  funext moved
  obtain ⟨result, uio⟩ := moved
  by_cases hzero : result = 0
  · simp only [hzero, ne_eq, not_true_eq_false, if_false, bind_assoc]
  · simp only [hzero, ne_eq, not_false_eq_true, if_true, pure_bind]

lemma oneSector_sectors (sector : Word) (uio : Uio) (d : Device) :
    sectorsOf (after ((oneSector sector uio).run d)) = sectorsOf d ++ [sector] ∨
      sectorsOf (after ((oneSector sector uio).run d)) = sectorsOf d ∧
        ∀ result uio' t, (oneSector sector uio).run d = .ok (result, uio') t → result = EFAULT := by
  have hoperate : ∀ (uio : Uio) (u : Device), sectorsOf u = sectorsOf d → ∀ x : Disk (Word × Uio),
      x = (do
        let result ← operate sector (uio.rw = .write)
        if result = 0 ∧ uio.rw = .read then moveCard uio else pure (result, uio)) →
      sectorsOf (after (x.run u)) = sectorsOf d ++ [sector] ∨
        sectorsOf (after (x.run u)) = sectorsOf d ∧
          ∀ result uio' t, x.run u = .ok (result, uio') t → result = EFAULT := by
    rintro uio u hu x rfl
    rcases operate_sectors sector (uio.rw = .write) u with hrun | hasked
    · refine .inr ⟨?_, fun result uio' t h => ?_⟩
      · rw [bind_run_error hrun]
        exact hu
      · rw [bind_run_error hrun] at h
        cases h
    rw [bind_sectors _ u, hasked, hu]
    · exact .inl rfl
    intro result t
    split
    · exact moveCard_sectors _ t
    · rfl
  by_cases hwrite : uio.rw = .write
  · rw [oneSector, if_pos hwrite]
    cases hmove : (moveCard uio).run d with
    | error e t =>
      have ht : sectorsOf t = sectorsOf d := by
        have := moveCard_sectors uio d
        rwa [hmove] at this
      rw [bind_run_error hmove]
      exact .inr ⟨ht, nofun⟩
    | ok a t =>
      obtain ⟨result, uio'⟩ := a
      have ht : sectorsOf t = sectorsOf d := by
        have := moveCard_sectors uio d
        rwa [hmove] at this
      rw [bind_run_ok hmove]
      by_cases hzero : result = 0
      · simp only [hzero, ne_eq, not_true_eq_false, if_false]
        exact hoperate uio' t ht _ rfl
      simp only [hzero, ne_eq, not_false_eq_true, if_true]
      refine .inr ⟨ht, fun r u v h => ?_⟩
      obtain ⟨heq, -⟩ := pure_ok.mp h
      rw [(Prod.mk.inj heq).1]
      exact (moveCard_result hmove).resolve_left hzero
  rw [oneSector, if_neg hwrite, pure_bind]
  simp only [ne_eq, not_true_eq_false, if_false]
  exact hoperate uio d rfl _ rfl

lemma lhdIoLoop_sectors (sector : Word) (left i : Nat) (uio : Uio) (d : Device) :
    ∃ n ≤ left, sectorsOf (after ((lhdIoLoop sector left i uio).run d)) = sectorsOf d ++
        (List.range n).map (fun k => sector + BitVec.ofNat 32 (i + k)) ∧
      ∀ result uio' t, (lhdIoLoop sector left i uio).run d = .ok (result, uio') t →
        (result = 0 → n = left) ∧ (result = EINVAL → 0 < n) := by
  induction left generalizing i uio d with
  | zero => exact ⟨0, Nat.le_refl 0, by simp [lhdIoLoop, after], fun result uio' t h =>
    ⟨fun _ => rfl, fun hbad => by
      have hzero := (Prod.mk.inj (pure_ok.mp h).1).1
      rw [hbad] at hzero
      cases hzero⟩⟩
  | succ left ih =>
    rw [lhdIoLoop_succ]
    have hone := oneSector_sectors (sector + BitVec.ofNat 32 i) uio d
    cases hrun : (oneSector (sector + BitVec.ofNat 32 i) uio).run d with
    | error e t =>
      rw [bind_run_error hrun]
      rw [hrun] at hone
      rcases hone with hasked | ⟨hsame, -⟩
      · exact ⟨1, by omega, by simpa [after] using hasked, fun _ _ _ h => by cases h⟩
      · exact ⟨0, by omega, by simpa [after] using hsame, fun _ _ _ h => by cases h⟩
    | ok a t =>
      obtain ⟨result, uio'⟩ := a
      rw [bind_run_ok hrun]
      rw [hrun] at hone
      by_cases hzero : result = 0
      · subst hzero
        simp only [ne_eq, not_true_eq_false, if_false]
        obtain ⟨n, hn, hasked', hends⟩ := ih (i + 1) uio' t
        have hasked : sectorsOf t = sectorsOf d ++ [sector + BitVec.ofNat 32 i] := by
          rcases hone with hasked | ⟨-, hfault⟩
          · exact hasked
          · exact absurd (hfault 0 uio' t rfl) (by decide)
        refine ⟨n + 1, by omega, ?_, fun r u v h => ?_⟩
        · rw [hasked', hasked, range_succ_eq_map]
          simp [Function.comp_def, Nat.add_assoc, Nat.add_comm 1]
        · exact ⟨fun hr => congrArg Nat.succ ((hends r u v h).1 hr), fun _ => Nat.succ_pos n⟩
      simp only [ne_eq, hzero, not_false_eq_true, if_true]
      rcases hone with hasked | ⟨hsame, hfault⟩
      · refine ⟨1, by omega, by simpa [after] using hasked, fun r u v h => ⟨fun hr => ?_,
          fun _ => Nat.one_pos⟩⟩
        exact absurd ((Prod.mk.inj (pure_ok.mp h).1).1.symm.trans hr) hzero
      refine ⟨0, by omega, by simpa [after] using hsame, fun r u v h => ?_⟩
      have hr : r = EFAULT := (Prod.mk.inj (pure_ok.mp h).1).1.trans (hfault _ _ _ rfl)
      rw [hr]
      exact ⟨fun h => absurd h (by decide), fun h => absurd h (by decide)⟩

end Requests

def wanted (uio : Uio) : List Nat :=
  (List.range (uio.resid.toNat / 512)).map fun k => uio.offset.toNat / 512 + k

def asked (d t : Device) : List Nat := ((sectorsOf t).drop d.requests.length).map BitVec.toNat

-- A request is refused, or it is carried out on its own sectors, all of them on the disk. One
-- that fails on the way has only been carried out in part.
def OnDisk (d : Device) (uio : Uio) : Prop :=
  (lhdIo uio).run d = .ok (EINVAL, uio) d ∨
    (∀ sector ∈ wanted uio, sector < d.blocks.toNat) ∧
      asked d (after ((lhdIo uio).run d)) <+: wanted uio ∧
      ∀ uio' t, (lhdIo uio).run d = .ok (0, uio') t → asked d t = wanted uio

-- The test passes only because the sum wraps around, or because the first sector has already lost
-- its upper bits.
def Wraps (d : Device) (uio : Uio) : Prop :=
  uio.offset.toNat % 512 = 0 ∧ uio.resid.toNat % 512 = 0 ∧ 0 < uio.resid.toNat / 512 ∧
    0x100000000 ≤ uio.offset.toNat / 512 + uio.resid.toNat / 512 ∧
    (uio.offset.toNat / 512 + uio.resid.toNat / 512) % 0x100000000 ≤ d.blocks.toNat

section Theorem

variable {d : Device} {uio : Uio}

lemma lhdIo_unaligned (hoffset : 0 ≤ uio.offset)
    (h : ¬ (uio.offset.toNat % 512 = 0 ∧ uio.resid.toNat % 512 = 0)) :
    (lhdIo uio).run d = .ok (EINVAL, uio) d := by
  have hmod : uio.offset.tmod LHD_SECTSIZE.toNat = ((uio.offset.toNat % 512 : Nat) : Int) := by
    rw [Int.tmod_eq_emod_of_nonneg hoffset]
    show uio.offset % 512 = _
    omega
  have hbad : BitVec.ofInt 32 (uio.offset.tmod LHD_SECTSIZE.toNat) ≠ 0 ∨
      uio.resid % LHD_SECTSIZE ≠ 0 := by
    rw [hmod, ofInt_natCast]
    rw [not_and_or] at h
    refine h.imp (fun h h' => h ?_) fun h h' => h ?_
    · have hzero : uio.offset.toNat % 512 % 0x100000000 = 0 := by
        simpa using congrArg BitVec.toNat h'
      omega
    · simpa [LHD_SECTSIZE] using congrArg BitVec.toNat h'
  rw [lhdIo, run_bind, run_get]
  exact congrArg (fun x : Disk (Word × Uio) => x.run d) (if_pos hbad)

lemma asked_of (h : sectorsOf t = sectorsOf d ++
    (List.range n).map (fun k => sector + BitVec.ofNat 32 (0 + k))) :
    asked d t = (List.range n).map fun k => (sector + BitVec.ofNat 32 k).toNat := by
  have hlen : (sectorsOf d).length = d.requests.length := length_map _
  rw [asked, h, ← hlen, drop_left, map_map]
  simp [Function.comp_def]

lemma onDisk_iff (d : Device) (uio : Uio) (hoffset : 0 ≤ uio.offset) :
    OnDisk d uio ↔ ¬ Wraps d uio := by
  have hwords : (uio.resid / 512#32).toNat = uio.resid.toNat / 512 := by simp
  have hresid := uio.resid.isLt
  have hblocks := d.blocks.isLt
  by_cases haligned : uio.offset.toNat % 512 = 0 ∧ uio.resid.toNat % 512 = 0
  swap
  · exact iff_of_true (.inl (lhdIo_unaligned hoffset haligned)) fun h => haligned ⟨h.1, h.2.1⟩
  have hfirst : uio.offset = ((uio.offset.toNat / 512 * 512 : Nat) : Int) := by omega
  have hrun := lhdIo_aligned (d := d) (uio.offset.toNat / 512) hfirst
    (eq_of_toNat_eq haligned.2)
  obtain ⟨n, hn, hasked, hends⟩ := lhdIoLoop_sectors (BitVec.ofNat 32 (uio.offset.toNat / 512))
    (uio.resid / 512#32).toNat 0 uio d
  have hsum : (BitVec.ofNat 32 (uio.offset.toNat / 512) + uio.resid / 512#32).toNat =
      (uio.offset.toNat / 512 + uio.resid.toNat / 512) % 0x100000000 := by
    simp
  by_cases hrefused : d.blocks < BitVec.ofNat 32 (uio.offset.toNat / 512) + uio.resid / 512#32
  · rw [if_pos hrefused] at hrun
    refine iff_of_true (.inl hrun) fun h => ?_
    have := h.2.2.2.2
    rw [lt_def, hsum] at hrefused
    omega
  rw [if_neg hrefused] at hrun
  rw [lt_def, hsum] at hrefused
  by_cases hlong : 0 < uio.resid.toNat / 512 ∧
      0x100000000 ≤ uio.offset.toNat / 512 + uio.resid.toNat / 512
  · refine iff_of_false ?_ (not_not.mpr ⟨haligned.1, haligned.2, hlong.1, hlong.2, by omega⟩)
    rintro (heinval | ⟨hall, -⟩)
    · have hmade := (hends _ _ _ (hrun.symm.trans heinval)).2 rfl
      rw [← hrun, heinval] at hasked
      have := congrArg List.length hasked
      simp only [after, length_append, length_map, length_range] at this
      omega
    have hlast := hall (uio.offset.toNat / 512 + (uio.resid.toNat / 512 - 1))
      (mem_map.mpr ⟨_, mem_range.mpr (by omega), rfl⟩)
    omega
  rw [← hrun] at hasked hends
  have hmade : asked d (after ((lhdIo uio).run d)) =
      (List.range n).map fun k => uio.offset.toNat / 512 + k := by
    refine (asked_of hasked).trans (map_congr_left fun k hk => ?_)
    rw [mem_range] at hk
    simp only [toNat_add, toNat_ofNat]
    omega
  refine iff_of_true (.inr ⟨fun sector hsector => ?_, ?_, fun uio' t h => ?_⟩)
    fun h => hlong ⟨h.2.2.1, h.2.2.2.1⟩
  · obtain ⟨k, hk, rfl⟩ := mem_map.mp hsector
    rw [mem_range] at hk
    omega
  · have htake : List.range n = (List.range (uio.resid.toNat / 512)).take n := by
      rw [take_range, Nat.min_eq_left (hwords ▸ hn)]
    rw [hmade, htake]
    have hfirst := take_prefix n (List.range (uio.resid.toNat / 512))
    exact hfirst.map _
  · rw [h] at hmade
    rw [show asked d t = _ from hmade, (hends 0 uio' t h).1 rfl, hwords, wanted]

lemma blockioUio_offset_iff (diskblock data : Word) (uio : Uio) (rw : UioRw) :
    (blockioUio diskblock uio).offset = (sfsUio data diskblock rw).offset ↔
      diskblock.toNat < 0x800000 := by
  have hlt := diskblock.isLt
  have hproduct : (diskblock * SFS_BLOCKSIZE).toNat = diskblock.toNat * 512 % 0x100000000 :=
    toNat_mul ..
  show ((diskblock * SFS_BLOCKSIZE).toNat : Int) = diskblock.toNat * 512 ↔ _
  rw [hproduct]
  omega

lemma sfsBlockio_uio (hmap : bmap (BitVec.ofInt 32 (uio.offset.tdiv SFS_BLOCKSIZE.toNat))
      (uio.rw = .write) = .ok diskblock) (hblock : diskblock ≠ 0)
    (hresid : ¬ uio.resid < SFS_BLOCKSIZE) :
    sfsBlockio bmap uio = sfsRwblock (blockioUio diskblock uio) >>= fun r =>
      pure (r.1, restoreUio (blockioUio diskblock uio) uio r.2) := by
  simp only [sfsBlockio, hmap, if_neg hblock, if_neg hresid]

-- A request on a disk goes to its own sectors unless its last sector has a number of more than 32
-- bits; the block that sfs_blockio asks for, where the map gives it one, is the right one unless
-- its offset has.
theorem disk_requests_iff (d : Device) (uio : Uio) (hoffset : 0 ≤ uio.offset)
    (bmap : Word → Bool → Except Word Word) (diskblock data : Word) (rw : UioRw) :
    (OnDisk d uio ↔ ¬ Wraps d uio) ∧
      (bmap (BitVec.ofInt 32 (uio.offset.tdiv SFS_BLOCKSIZE.toNat)) (uio.rw = .write) =
          .ok diskblock → diskblock ≠ 0 → ¬ uio.resid < SFS_BLOCKSIZE →
        sfsBlockio bmap uio = sfsRwblock (blockioUio diskblock uio) >>= fun r =>
          pure (r.1, restoreUio (blockioUio diskblock uio) uio r.2)) ∧
      ((blockioUio diskblock uio).offset = (sfsUio data diskblock rw).offset ↔
        diskblock.toNat < 0x800000) :=
  ⟨onDisk_iff d uio hoffset, sfsBlockio_uio, blockioUio_offset_iff diskblock data uio rw⟩

-- Blocks 2 and 3 of a disk, and a write of the file's first block, which is block 5 of the disk.
theorem disk_requests_small :
    OnDisk (smallDisk [LHD_OK, LHD_OK])
        ⟨[⟨0x80003000#32, 1024#32⟩], 1024, 1024#32, .sysspace, .read⟩ ∧
      sfsBlockio (fun _ _ => .ok 5#32) blockUio =
        (sfsRwblock (blockioUio 5#32 blockUio) >>= fun r =>
        pure (r.1, restoreUio (blockioUio 5#32 blockUio) blockUio r.2)) ∧
      (blockioUio 5#32 blockUio).offset = (sfsUio 0x80002000#32 5#32 .write).offset := by
  obtain ⟨honDisk, -⟩ := disk_requests_iff (smallDisk [LHD_OK, LHD_OK])
    ⟨[⟨0x80003000#32, 1024#32⟩], 1024, 1024#32, .sysspace, .read⟩ (by decide)
    (fun _ _ => .ok 5#32) 5#32 0#32 .read
  obtain ⟨-, hblockio, hoffset⟩ := disk_requests_iff (smallDisk []) blockUio (by decide)
    (fun _ _ => .ok 5#32) 5#32 0x80002000#32 .write
  exact ⟨honDisk.mpr fun h => absurd h.2.2.2.1 (by decide),
    hblockio rfl (by decide) (by decide), hoffset.mpr (by decide)⟩

theorem disk_requests_redirected :
    ¬ OnDisk (smallDisk [LHD_OK]) ⟨[⟨0x80003000#32, 512#32⟩], 0x20000000000, 512#32, .sysspace,
      .read⟩ ∧ (blockioUio 0x800000#32 (sfsUio 0#32 0#32 .read)).offset = 0 :=
  ⟨fun h => (onDisk_iff _ _ (by decide)).mp h ⟨rfl, rfl, by decide, by decide, by decide⟩, rfl⟩

end Theorem

end Os161.Lhd
