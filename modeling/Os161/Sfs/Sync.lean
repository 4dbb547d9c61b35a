import Os161.Sfs.Mount

-- sfs_sync and sfs_unmount of kern/fs/sfs/sfs_fsops.c, and sfs_sync_inode of sfs_inode.c. The big
-- lock is held throughout.

namespace Os161.Sfs.Sync

open Function Lib.Exec Bool EStateM List
open Vm (Word Stop kassert kassert_pass)

def EBUSY : Word := 27#32

structure Volume where
  vnodes : List (Nat × Vnode)
  freemap : Nat → UInt8
  freemapdirty : Bool
  sb : Superblock
  superdirty : Bool
  disk : Nat → Block
  writes : List Bool

abbrev Action (α : Type) := EStateM Stop Volume α

def Volume.freemapBlock (v : Volume) (j : Nat) : Block := fun i => v.freemap (j * SFS_BLOCKSIZE + i)

def Volume.freemapblocks (v : Volume) : Nat := Sfs.freemapblocks v.sb.nblocks

-- `fails n` says that the block write with number n fails, retries and all. Such a write leaves
-- the block as it was.
variable (fails : Nat → Bool)

def sfsWriteblock (block : Nat) (data : Block) : Action Word := fun v =>
  if fails v.writes.length then .ok EIO { v with writes := v.writes ++ [true] }
  else .ok 0#32 { v with
    writes := v.writes ++ [false]
    disk := update v.disk block data }

def sfsSyncInode (ino : Nat) (sv : Vnode) : Action (Word × Vnode) := do
  if sv.dirty then do
    let result ← sfsWriteblock fails ino sv.dinode
    if result ≠ 0 then pure (result, sv)
    else pure (0#32, { sv with dirty := false })
  else pure (0#32, sv)

def syncVnodes : List (Nat × Vnode) → Action (List (Nat × Vnode))
  | [] => pure []
  | (ino, sv) :: vnodes => do
      let synced ← sfsSyncInode fails ino sv
      let rest ← syncVnodes vnodes
      pure ((ino, synced.2) :: rest)

def sfsSyncVnodes : Action Word := do
  let v ← get
  let vnodes ← syncVnodes fails v.vnodes
  modify fun v => { v with vnodes := vnodes }
  pure 0#32

def sfsFreemapio : Nat → Nat → Action Word
  | _, 0 => pure 0#32
  | j, count + 1 => do
      let v ← get
      let result ← sfsWriteblock fails (SFS_FREEMAP_START + j) (v.freemapBlock j)
      if result ≠ 0 then pure result else sfsFreemapio (j + 1) count

def sfsSyncFreemap : Action Word := do
  let v ← get
  if v.freemapdirty then do
    let result ← sfsFreemapio fails 0 v.freemapblocks
    if result ≠ 0 then pure result
    else do
      modify fun v => { v with freemapdirty := false }
      pure 0#32
  else pure 0#32

def sfsSyncSuperblock : Action Word := do
  let v ← get
  if v.superdirty then do
    let result ← sfsWriteblock fails SFS_SUPER_BLOCK v.sb.toBlock
    if result ≠ 0 then pure result
    else do
      modify fun v => { v with superdirty := false }
      pure 0#32
  else pure 0#32

def syncMaps : Action Word := do
  let result ← sfsSyncFreemap fails
  if result ≠ 0 then pure result else sfsSyncSuperblock fails

def sfsSync : Action Word := do
  let result ← sfsSyncVnodes fails
  if result ≠ 0 then pure result else syncMaps fails

def sfsUnmount : Action Word := do
  let v ← get
  if 0 < v.vnodes.length then pure EBUSY
  else do
    kassert (v.superdirty = false) "sfs->sfs_superdirty == false"
    kassert (v.freemapdirty = false) "sfs->sfs_freemapdirty == false"
    pure 0#32

def SameBlock (b b' : Block) : Prop := ∀ i, i < SFS_BLOCKSIZE → b i = b' i

structure Volume.Written (v : Volume) : Prop where
  inodes : ∀ p ∈ v.vnodes, SameBlock (v.disk p.1) p.2.dinode
  freemap : ∀ j < v.freemapblocks, SameBlock (v.disk (SFS_FREEMAP_START + j)) (v.freemapBlock j)
  super : SameBlock (v.disk SFS_SUPER_BLOCK) v.sb.toBlock

structure Volume.Consistent (v : Volume) : Prop where
  inodes : ∀ p ∈ v.vnodes, p.2.dirty = false → SameBlock (v.disk p.1) p.2.dinode
  freemap : v.freemapdirty = false →
    ∀ j < v.freemapblocks, SameBlock (v.disk (SFS_FREEMAP_START + j)) (v.freemapBlock j)
  super : v.superdirty = false → SameBlock (v.disk SFS_SUPER_BLOCK) v.sb.toBlock

structure Volume.Apart (v : Volume) : Prop where
  nodup : (v.vnodes.map Prod.fst).Nodup
  super : ∀ p ∈ v.vnodes, p.1 ≠ SFS_SUPER_BLOCK
  freemap : ∀ p ∈ v.vnodes, ∀ j < v.freemapblocks, p.1 ≠ SFS_FREEMAP_START + j

def SyncOutcome (v : Volume) : Prop :=
  ∃ result t, (sfsSync fails).run v = .ok result t ∧
    (result = 0#32 → t.Written) ∧
    (true ∈ t.writes.drop v.writes.length → result ≠ 0#32) ∧
    (result = 0#32 → ∃ result' u, sfsUnmount.run t = .ok result' u ∧
      (result' = 0#32 → u.disk = t.disk ∧ t.Written))

def dirtyVnodes (vnodes : List (Nat × Vnode)) : Nat := (vnodes.filter fun p => p.2.dirty).length

def Volume.mapWrites (v : Volume) : Nat :=
  (if v.freemapdirty then v.freemapblocks else 0) + if v.superdirty then 1 else 0

def Volume.InodesWritten (v : Volume) : Prop :=
  ∀ k < dirtyVnodes v.vnodes, fails (v.writes.length + k) = false

def Volume.MapsFail (v : Volume) : Prop :=
  ∃ k < v.mapWrites, fails (v.writes.length + dirtyVnodes v.vnodes + k) = true

section Writes

variable {fails}

lemma sfsWriteblock_fails (h : fails v.writes.length = true) (block : Nat) (data : Block) :
    (sfsWriteblock fails block data).run v = .ok EIO { v with writes := v.writes ++ [true] } := by
  have hrun : (sfsWriteblock fails block data).run v = sfsWriteblock fails block data v := rfl
  rw [hrun, sfsWriteblock, if_pos h]

lemma sfsWriteblock_writes (h : fails v.writes.length = false) (block : Nat) (data : Block) :
    (sfsWriteblock fails block data).run v = .ok 0#32 { v with
      writes := v.writes ++ [false], disk := update v.disk block data } := by
  have hrun : (sfsWriteblock fails block data).run v = sfsWriteblock fails block data v := rfl
  rw [hrun, sfsWriteblock, if_neg (by rw [h]; simp)]

def flags (fails : Nat → Bool) (start n : Nat) : List Bool :=
  (List.range n).map fun k => fails (start + k)

lemma true_mem_flags : true ∈ flags fails start n ↔ ∃ k < n, fails (start + k) = true := by
  simp [flags]

lemma flags_succ (start n : Nat) :
    flags fails start (n + 1) = fails start :: flags fails (start + 1) n := by
  simp only [flags, range_succ_eq_map, map_cons, map_map, Nat.add_zero]
  congr 1
  refine map_congr_left fun k _ => ?_
  rw [Function.comp, Nat.add_right_comm, Nat.add_assoc]

end Writes

section Vnodes

variable {fails} {v : Volume}

@[simp] lemma dirtyVnodes_nil : dirtyVnodes [] = 0 := rfl

lemma dirtyVnodes_dirty (h : sv.dirty = true)
    (vnodes : List (Nat × Vnode)) : dirtyVnodes ((ino, sv) :: vnodes) = dirtyVnodes vnodes + 1 := by
  simp [dirtyVnodes, h]

lemma dirtyVnodes_clean (h : sv.dirty = false)
    (vnodes : List (Nat × Vnode)) : dirtyVnodes ((ino, sv) :: vnodes) = dirtyVnodes vnodes := by
  simp [dirtyVnodes, h]

lemma sfsSyncInode_clean (h : sv.dirty = false) (ino : Nat) :
    (sfsSyncInode fails ino sv).run v = .ok (0#32, sv) v := by
  rw [sfsSyncInode, if_neg (by rw [h]; simp)]
  rfl

lemma sfsSyncInode_fails (h : sv.dirty = true) (ino : Nat)
    (hfail : fails v.writes.length = true) :
    (sfsSyncInode fails ino sv).run v = .ok ( EIO, sv) { v with writes := v.writes ++ [true] } := by
  rw [sfsSyncInode, if_pos h, bind_run_ok (sfsWriteblock_fails hfail ..)]
  rfl

lemma sfsSyncInode_writes (h : sv.dirty = true) (ino : Nat)
    (hfine : fails v.writes.length = false) :
    (sfsSyncInode fails ino sv).run v = .ok (0#32, { sv with dirty := false }) { v with
      writes := v.writes ++ [false], disk := update v.disk ino sv.dinode } := by
  rw [sfsSyncInode, if_pos h, bind_run_ok (sfsWriteblock_writes hfine ..)]
  rfl

structure Synced (fails : Nat → Bool) (v : Volume) (vnodes vnodes' : List (Nat × Vnode))
    (disk : Nat → Block) : Prop where
  same : vnodes'.map (fun p => (p.1, p.2.dinode)) = vnodes.map fun p => (p.1, p.2.dinode)
  other : ∀ b, b ∉ vnodes.map Prod.fst → disk b = v.disk b
  written : (vnodes.map Prod.fst).Nodup →
    (∀ k < dirtyVnodes vnodes, fails (v.writes.length + k) = false) →
    ∀ p ∈ vnodes, disk p.1 = if p.2.dirty then p.2.dinode else v.disk p.1

lemma syncVnodes_run (vnodes : List (Nat × Vnode)) : ∀ v : Volume, ∃ vnodes' disk,
    (syncVnodes fails vnodes).run v = .ok vnodes' { v with
      disk := disk, writes := v.writes ++ flags fails v.writes.length (dirtyVnodes vnodes) } ∧
    Synced fails v vnodes vnodes' disk := by
  induction vnodes with
  | nil =>
    intro v
    refine ⟨[], v.disk, ?_, rfl, fun _ _ => rfl, fun _ _ p hp => absurd hp (by simp)⟩
    rw [dirtyVnodes_nil, flags, range_zero, map_nil, append_nil]
    rfl
  | cons p vnodes ih =>
    intro v
    obtain ⟨ino, sv⟩ := p
    rw [syncVnodes]
    by_cases hdirty : sv.dirty = true
    swap
    · -- a clean vnode costs no write
      have hclean : sv.dirty = false := eq_false_iff.mpr hdirty
      obtain ⟨vnodes', disk, hrun, hsynced⟩ := ih v
      rw [bind_run_ok (sfsSyncInode_clean hclean ino), bind_run_ok hrun, dirtyVnodes_clean hclean]
      refine ⟨_, disk, rfl, ?_, ?_, ?_⟩
      · rw [map_cons, map_cons, hsynced.same]
      · intro b hb
        exact hsynced.other b fun hmem => hb (mem_cons_of_mem _ hmem)
      intro hnodup hok q hq
      rw [dirtyVnodes_clean hclean] at hok
      obtain ⟨hnot, hrest⟩ := nodup_cons.mp hnodup
      rcases mem_cons.mp hq with rfl | hq
      · rw [if_neg hdirty]
        exact hsynced.other ino hnot
      · exact hsynced.written hrest hok q hq
    rw [dirtyVnodes_dirty hdirty, flags_succ]
    by_cases hfail : fails v.writes.length = true
    · obtain ⟨vnodes', disk, hrun, hsynced⟩ := ih { v with writes := v.writes ++ [true] }
      dsimp only at hrun
      rw [length_append, length_singleton, append_assoc, singleton_append] at hrun
      rw [bind_run_ok (sfsSyncInode_fails hdirty ino hfail), bind_run_ok hrun, hfail]
      refine ⟨_, disk, rfl, ?_, ?_, ?_⟩
      · rw [map_cons, map_cons, hsynced.same]
      · intro b hb
        exact hsynced.other b fun hmem => hb (mem_cons_of_mem _ hmem)
      intro _ hok
      have h0 := hok 0 (by rw [dirtyVnodes_dirty hdirty]; omega)
      rw [Nat.add_zero, hfail] at h0
      cases h0
    have hfine : fails v.writes.length = false := eq_false_iff.mpr hfail
    let u : Volume := { v with
      writes := v.writes ++ [false]
      disk := update v.disk ino sv.dinode }
    obtain ⟨vnodes', disk, hrun, hsynced⟩ := ih u
    dsimp only [u] at hrun
    rw [length_append, length_singleton, append_assoc, singleton_append] at hrun
    rw [bind_run_ok (sfsSyncInode_writes hdirty ino hfine), bind_run_ok hrun, hfine]
    refine ⟨_, disk, rfl, ?_, ?_, ?_⟩
    · rw [map_cons, map_cons, hsynced.same]
      rfl
    · intro b hb
      obtain ⟨hne, hout⟩ := not_or.mp (mt mem_cons.mpr hb)
      rw [hsynced.other b hout]
      exact update_of_ne hne _ _
    intro hnodup hok q hq
    obtain ⟨hnot, hrest⟩ := nodup_cons.mp hnodup
    rw [dirtyVnodes_dirty hdirty] at hok
    have hok' : ∀ k < dirtyVnodes vnodes, fails (u.writes.length + k) = false := by
      intro k hk
      have := hok (k + 1) (by omega)
      rw [show u.writes.length = v.writes.length + 1 from by simp [u]]
      rw [← this]
      congr 1
      omega
    rcases mem_cons.mp hq with rfl | hlater
    · rw [if_pos hdirty, hsynced.other ino hnot]
      exact update_self ..
    rw [hsynced.written hrest hok' q hlater]
    have hne : q.1 ≠ ino := by
      rintro rfl
      exact hnot (mem_map.mpr ⟨q, hlater, rfl⟩)
    rw [show u.disk q.1 = v.disk q.1 from update_of_ne hne _ _]

end Vnodes

section Maps

variable {fails}

lemma sfsFreemapio_fails (count : Nat) : ∀ (j : Nat) (v : Volume),
    (∃ k < count, fails (v.writes.length + k) = true) →
    ∃ t, (sfsFreemapio fails j count).run v = .ok EIO t := by
  induction count with
  | zero =>
    rintro j v ⟨k, hk, -⟩
    omega
  | succ count ih =>
    rintro j v ⟨k, hk, hfail⟩
    rw [sfsFreemapio, bind_run_ok (run_get v)]
    by_cases hfirst : fails v.writes.length = true
    · rw [bind_run_ok (sfsWriteblock_fails hfirst ..)]
      exact ⟨_, rfl⟩
    rw [bind_run_ok (sfsWriteblock_writes (eq_false_iff.mpr hfirst) ..), if_neg (by decide)]
    refine ih (j + 1) _ ⟨k - 1, ?_, ?_⟩
    · have : k ≠ 0 := by
        rintro rfl
        exact hfirst hfail
      omega
    have hpos : k ≠ 0 := by
      rintro rfl
      exact hfirst hfail
    rw [← hfail]
    congr 1
    simp only [length_append, length_singleton]
    omega

lemma sfsFreemapio_writes (count : Nat) : ∀ (j : Nat) (v : Volume),
    (∀ k < count, fails (v.writes.length + k) = false) →
    ∃ disk, (sfsFreemapio fails j count).run v = .ok 0#32 { v with
        disk := disk, writes := v.writes ++ List.replicate count false } ∧
      (∀ b, (∀ k < count, b ≠ SFS_FREEMAP_START + (j + k)) → disk b = v.disk b) ∧
      ∀ k < count, disk (SFS_FREEMAP_START + (j + k)) = v.freemapBlock (j + k) := by
  induction count with
  | zero =>
    intro j v _
    refine ⟨v.disk, ?_, fun _ _ => rfl, fun k hk => absurd hk (Nat.not_lt_zero k)⟩
    rw [replicate_zero, append_nil]
    rfl
  | succ count ih =>
    intro j v hok
    have h0 := hok 0 (Nat.succ_pos _)
    rw [Nat.add_zero] at h0
    let u : Volume := { v with
      writes := v.writes ++ [false]
      disk := update v.disk (SFS_FREEMAP_START + j) (v.freemapBlock j) }
    have hok' : ∀ k < count, fails (u.writes.length + k) = false := by
      intro k hk
      rw [← hok (k + 1) (by omega)]
      congr 1
      simp only [u, length_append, length_singleton]
      omega
    obtain ⟨disk, hrun, hother, hwritten⟩ := ih (j + 1) u hok'
    dsimp only [u] at hrun
    rw [append_assoc, singleton_append, ← replicate_succ] at hrun
    rw [sfsFreemapio, bind_run_ok (run_get v),
      bind_run_ok (sfsWriteblock_writes h0 ..), if_neg (by decide), hrun]
    refine ⟨disk, rfl, ?_, ?_⟩
    · intro b hb
      rw [hother b fun k hk => by
        rw [Nat.add_assoc, Nat.add_comm 1]
        exact hb (k + 1) (by omega)]
      exact update_of_ne (hb 0 (Nat.succ_pos _)) _ _
    intro k hk
    by_cases hzero : k = 0
    · subst hzero
      rw [Nat.add_zero, hother _ fun k hk => by omega]
      exact update_self ..
    have hlast := hwritten (k - 1) (by omega)
    rw [show j + 1 + (k - 1) = j + k by omega] at hlast
    exact hlast

variable {v : Volume}

lemma sfsSyncFreemap_fails (hdirty : v.freemapdirty = true)
    (h : ∃ k < v.freemapblocks, fails (v.writes.length + k) = true) :
    ∃ t, (sfsSyncFreemap fails).run v = .ok EIO t := by
  obtain ⟨t, hrun⟩ := sfsFreemapio_fails v.freemapblocks 0 v h
  rw [sfsSyncFreemap, bind_run_ok (run_get v), if_pos hdirty, bind_run_ok hrun]
  exact ⟨t, rfl⟩

lemma sfsSyncFreemap_writes (h : v.freemapdirty = true →
      ∀ k < v.freemapblocks, fails (v.writes.length + k) = false) :
    ∃ disk, (sfsSyncFreemap fails).run v = .ok 0#32 { v with
        disk := disk, freemapdirty := false, writes := v.writes ++
          List.replicate (if v.freemapdirty then v.freemapblocks else 0) false } ∧
      (∀ b, (∀ j < v.freemapblocks, b ≠ SFS_FREEMAP_START + j) → disk b = v.disk b) ∧
      ∀ j < v.freemapblocks, disk (SFS_FREEMAP_START + j) =
        if v.freemapdirty then v.freemapBlock j else v.disk (SFS_FREEMAP_START + j) := by
  rw [sfsSyncFreemap, bind_run_ok (run_get v)]
  by_cases hdirty : v.freemapdirty = true
  · obtain ⟨disk, hrun, hother, hwritten⟩ := sfsFreemapio_writes v.freemapblocks 0 v (h hdirty)
    simp only [Nat.zero_add] at hother hwritten
    rw [if_pos hdirty, if_pos hdirty, bind_run_ok hrun]
    refine ⟨disk, rfl, hother, fun j hj => ?_⟩
    rw [if_pos hdirty, hwritten j hj]
  have hclean : v.freemapdirty = false := eq_false_iff.mpr hdirty
  rw [if_neg hdirty, if_neg hdirty, replicate_zero, append_nil, ← hclean]
  refine ⟨v.disk, rfl, fun _ _ => rfl, fun j _ => ?_⟩
  rw [if_neg hdirty]

lemma sfsSyncSuperblock_fails (hdirty : v.superdirty = true)
    (h : fails v.writes.length = true) : ∃ t, (sfsSyncSuperblock fails).run v = .ok EIO t := by
  rw [sfsSyncSuperblock, bind_run_ok (run_get v), if_pos hdirty,
    bind_run_ok (sfsWriteblock_fails h ..)]
  exact ⟨_, rfl⟩

lemma sfsSyncSuperblock_writes (h : v.superdirty = true → fails v.writes.length = false) :
    (sfsSyncSuperblock fails).run v = .ok 0#32 { v with
      disk := if v.superdirty then update v.disk SFS_SUPER_BLOCK v.sb.toBlock else v.disk
      superdirty := false
      writes := v.writes ++ List.replicate (if v.superdirty then 1 else 0) false } := by
  rw [sfsSyncSuperblock, bind_run_ok (run_get v)]
  by_cases hdirty : v.superdirty = true
  · rw [if_pos hdirty, if_pos hdirty, if_pos hdirty,
      bind_run_ok (sfsWriteblock_writes (h hdirty) ..)]
    rfl
  have hclean : v.superdirty = false := eq_false_iff.mpr hdirty
  rw [if_neg hdirty, if_neg hdirty, if_neg hdirty, replicate_zero, append_nil, ← hclean]
  rfl

lemma syncMaps_fails (h : ∃ k < v.mapWrites, fails (v.writes.length + k) = true) :
    ∃ t, (syncMaps fails).run v = .ok EIO t := by
  obtain ⟨k, hk, hfail⟩ := h
  rw [Volume.mapWrites] at hk
  rw [syncMaps]
  by_cases hfirst : v.freemapdirty = true ∧
      ∃ k < v.freemapblocks, fails (v.writes.length + k) = true
  · obtain ⟨t, hrun⟩ := sfsSyncFreemap_fails hfirst.1 hfirst.2
    rw [bind_run_ok hrun]
    exact ⟨t, rfl⟩
  have hok : v.freemapdirty = true →
      ∀ k < v.freemapblocks, fails (v.writes.length + k) = false := by
    intro hdirty k hk
    rw [eq_false_iff]
    exact fun hfail => hfirst ⟨hdirty, k, hk, hfail⟩
  obtain ⟨disk, hrun, -⟩ := sfsSyncFreemap_writes hok
  have hsuper : v.superdirty = true ∧ k = if v.freemapdirty then v.freemapblocks else 0 := by
    by_cases hdirty : v.freemapdirty = true
    · rw [if_pos hdirty] at hk ⊢
      have hnot : ¬ k < v.freemapblocks := fun hlt => hfirst ⟨hdirty, k, hlt, hfail⟩
      by_cases hs : v.superdirty = true
      · rw [if_pos hs] at hk
        exact ⟨hs, by omega⟩
      · rw [if_neg hs] at hk
        omega
    rw [if_neg hdirty] at hk ⊢
    by_cases hs : v.superdirty = true
    · rw [if_pos hs] at hk
      exact ⟨hs, by omega⟩
    · rw [if_neg hs] at hk
      omega
  rw [bind_run_ok hrun, if_neg (by decide)]
  refine sfsSyncSuperblock_fails hsuper.1 ?_
  dsimp only
  rw [length_append, length_replicate, ← hsuper.2]
  exact hfail

structure MapsWritten (v : Volume) (disk : Nat → Block) : Prop where
  freemap : ∀ j < v.freemapblocks, disk (SFS_FREEMAP_START + j) =
    if v.freemapdirty then v.freemapBlock j else v.disk (SFS_FREEMAP_START + j)
  super : disk SFS_SUPER_BLOCK = if v.superdirty then v.sb.toBlock else v.disk SFS_SUPER_BLOCK
  other : ∀ b, b ≠ SFS_SUPER_BLOCK → (∀ j < v.freemapblocks, b ≠ SFS_FREEMAP_START + j) →
    disk b = v.disk b

lemma syncMaps_writes (h : ∀ k < v.mapWrites, fails (v.writes.length + k) = false) :
    ∃ disk, (syncMaps fails).run v = .ok 0#32 { v with
        disk := disk, freemapdirty := false, superdirty := false
        writes := v.writes ++ List.replicate v.mapWrites false } ∧ MapsWritten v disk := by
  have hok : v.freemapdirty = true →
      ∀ k < v.freemapblocks, fails (v.writes.length + k) = false := by
    intro hdirty k hk
    refine h k ?_
    rw [Volume.mapWrites, if_pos hdirty]
    omega
  obtain ⟨disk, hrun, hother, hfreemap⟩ := sfsSyncFreemap_writes hok
  let n := if v.freemapdirty then v.freemapblocks else 0
  let u : Volume := { v with
    disk := disk, freemapdirty := false, writes := v.writes ++ List.replicate n false }
  have hlast : u.superdirty = true → fails u.writes.length = false := by
    intro hdirty
    have hn := h n (by
      rw [Volume.mapWrites, if_pos (show v.superdirty = true from hdirty)]
      exact Nat.lt_succ_self _)
    rw [show u.writes.length = v.writes.length + n from by simp [u], hn]
  have hsuper := sfsSyncSuperblock_writes hlast
  have hzero : ∀ j, SFS_FREEMAP_START + j ≠ SFS_SUPER_BLOCK := by
    intro j
    rw [SFS_FREEMAP_START, SFS_SUPER_BLOCK]
    omega
  have hkeep : disk SFS_SUPER_BLOCK = v.disk SFS_SUPER_BLOCK :=
    hother _ fun j _ => (hzero j).symm
  have hwrites : u.writes ++ List.replicate (if u.superdirty then 1 else 0) false =
      v.writes ++ List.replicate v.mapWrites false := by
    rw [append_assoc, replicate_append_replicate]
    rfl
  rw [hwrites] at hsuper
  rw [syncMaps, bind_run_ok hrun, if_neg (by decide)]
  refine ⟨_, hsuper, ?_, ?_, ?_⟩
  · intro j hj
    rw [← hfreemap j hj]
    by_cases hdirty : v.superdirty = true
    · rw [if_pos hdirty]
      exact update_of_ne (hzero j) _ _
    · rw [if_neg hdirty]
  · by_cases hdirty : v.superdirty = true
    · rw [if_pos hdirty, if_pos hdirty]
      exact update_self ..
    · rw [if_neg hdirty, if_neg hdirty]
      exact hkeep
  intro b hb hout
  rw [← hother b hout]
  by_cases hdirty : v.superdirty = true
  · rw [if_pos hdirty]
    exact update_of_ne hb _ _
  · rw [if_neg hdirty]

end Maps

section Outcome

variable {fails} {v : Volume}

lemma sfsSync_run (fails : Nat → Bool) (v : Volume) : ∃ u : Volume, ∃ vnodes disk, u = { v with
      vnodes := vnodes, disk := disk
      writes := v.writes ++ flags fails v.writes.length (dirtyVnodes v.vnodes) } ∧
    (sfsSync fails).run v = (syncMaps fails).run u ∧ Synced fails v v.vnodes vnodes disk := by
  obtain ⟨vnodes, disk, hrun, hsynced⟩ := @syncVnodes_run fails v.vnodes v
  refine ⟨_, vnodes, disk, rfl, ?_, hsynced⟩
  have hvnodes : (sfsSyncVnodes fails).run v = .ok 0#32 { v with
      vnodes := vnodes
      disk := disk
      writes := v.writes ++ flags fails v.writes.length (dirtyVnodes v.vnodes) } := by
    rw [sfsSyncVnodes, bind_run_ok (run_get v), bind_run_ok hrun]
    rfl
  rw [sfsSync, bind_run_ok hvnodes, if_neg (by decide)]

lemma flags_length (start n : Nat) : (flags fails start n).length = n := by
  simp [flags]

lemma syncOutcome_mapsFail (h : v.MapsFail fails) : SyncOutcome fails v := by
  obtain ⟨u, vnodes, disk, rfl, hrun, -⟩ := sfsSync_run fails v
  obtain ⟨k, hk, hfail⟩ := h
  obtain ⟨t, hmaps⟩ := syncMaps_fails (v := { v with
      vnodes := vnodes
      disk := disk
      writes := v.writes ++ flags fails v.writes.length (dirtyVnodes v.vnodes) })
    ⟨k, hk, by rw [length_append, flags_length]; exact hfail⟩
  refine ⟨ EIO, t, hrun.trans hmaps, ?_, fun _ => by decide, ?_⟩
  · exact fun h => absurd h (by decide)
  · exact fun h => absurd h (by decide)

lemma forall_synced {disk disk' : Nat → Block}
    (h : Synced fails v vnodes vnodes' disk) :
    (∀ p ∈ vnodes', SameBlock (disk' p.1) p.2.dinode) ↔
      ∀ p ∈ vnodes, SameBlock (disk' p.1) p.2.dinode := by
  have hmap : ∀ l : List (Nat × Vnode), (∀ p ∈ l, SameBlock (disk' p.1) p.2.dinode) ↔
      ∀ q ∈ l.map (fun p => (p.1, p.2.dinode)), SameBlock (disk' q.1) q.2 := by
    intro l
    rw [forall_mem_map]
  rw [hmap, h.same, ← hmap]

lemma syncOutcome_mapsFine (hapart : v.Apart) (h : ¬ v.MapsFail fails) :
    SyncOutcome fails v ↔ v.InodesWritten fails ∧ v.Consistent := by
  obtain ⟨u, vnodes, disk, hu, hrun, hsynced⟩ := sfsSync_run fails v
  have hfine : ∀ k < u.mapWrites, fails (u.writes.length + k) = false := by
    intro k hk
    rw [eq_false_iff]
    intro hfail
    refine h ⟨k, by rw [hu] at hk; exact hk, ?_⟩
    rw [hu] at hfail
    rw [← hfail, length_append, flags_length]
  obtain ⟨disk', hmaps, hwritten⟩ := syncMaps_writes hfine
  let t : Volume := { u with
    disk := disk'
    freemapdirty := false
    superdirty := false
    writes := u.writes ++ List.replicate u.mapWrites false }
  have hsync : (sfsSync fails).run v = .ok 0#32 t := hrun.trans hmaps
  have hfailed : true ∈ t.writes.drop v.writes.length ↔ ¬ v.InodesWritten fails := by
    have hwrites : t.writes.drop v.writes.length =
        flags fails v.writes.length (dirtyVnodes v.vnodes) ++ List.replicate u.mapWrites false := by
      dsimp only [t]
      rw [hu, append_assoc, drop_left]
    rw [hwrites, mem_append, true_mem_flags, Volume.InodesWritten]
    simp
  have hmem : ∀ p ∈ v.vnodes, disk' p.1 = disk p.1 := by
    intro p hp
    have hother := hwritten.other p.1 (hapart.super p hp) (by rw [hu]; exact hapart.freemap p hp)
    rw [hother, hu]
  have hout : ∀ b, (∀ p ∈ v.vnodes, p.1 ≠ b) → u.disk b = v.disk b := by
    intro b hb
    rw [hu]
    refine hsynced.other b fun hmem => ?_
    obtain ⟨p, hp, rfl⟩ := mem_map.mp hmem
    exact hb p hp rfl
  have hiff : v.InodesWritten fails → (t.Written ↔ v.Consistent) := by
    intro hok
    have hinode : ∀ p ∈ v.vnodes, disk' p.1 = if p.2.dirty then p.2.dinode else v.disk p.1 := by
      intro p hp
      rw [hmem p hp]
      exact hsynced.written hapart.nodup hok p hp
    have hfreemap : ∀ j < v.freemapblocks, disk' (SFS_FREEMAP_START + j) =
        if v.freemapdirty then v.freemapBlock j else v.disk (SFS_FREEMAP_START + j) := by
      intro j hj
      rw [hwritten.freemap j (by rw [hu]; exact hj),
        hout _ fun p hp => hapart.freemap p hp j hj, hu]
      rfl
    have hsuper : disk' SFS_SUPER_BLOCK =
        if v.superdirty then v.sb.toBlock else v.disk SFS_SUPER_BLOCK := by
      rw [hwritten.super, hout _ fun p hp => hapart.super p hp, hu]
    have hvnodes : t.vnodes = vnodes := by
      dsimp only [t]
      rw [hu]
    have htmap : ∀ j, t.freemapBlock j = v.freemapBlock j := by
      intro j
      dsimp only [t]
      rw [hu]
      rfl
    have htsb : t.sb = v.sb := by
      dsimp only [t]
      rw [hu]
    constructor
    · intro ht
      refine ⟨?_, ?_, ?_⟩
      · intro p hp hclean
        have hall := ht.inodes
        rw [hvnodes, forall_synced hsynced] at hall
        have := hall p hp
        rw [show t.disk p.1 = disk' p.1 from rfl, hinode p hp, hclean] at this
        exact this
      · intro hclean j hj
        have := ht.freemap j (by rw [Volume.freemapblocks, htsb]; exact hj)
        rw [show t.disk _ = disk' (SFS_FREEMAP_START + j) from rfl, hfreemap j hj, hclean,
          htmap] at this
        exact this
      intro hclean
      have := ht.super
      rw [show t.disk _ = disk' SFS_SUPER_BLOCK from rfl, hsuper, hclean, htsb] at this
      exact this
    intro hc
    refine ⟨?_, ?_, ?_⟩
    · rw [hvnodes, forall_synced hsynced]
      intro p hp
      rw [show t.disk p.1 = disk' p.1 from rfl, hinode p hp]
      by_cases hdirty : p.2.dirty = true
      · rw [if_pos hdirty]
        exact fun _ _ => rfl
      · rw [if_neg hdirty]
        exact hc.inodes p hp (eq_false_iff.mpr hdirty)
    · intro j hj
      rw [Volume.freemapblocks, htsb] at hj
      rw [show t.disk _ = disk' (SFS_FREEMAP_START + j) from rfl, hfreemap j hj, htmap]
      by_cases hdirty : v.freemapdirty = true
      · rw [if_pos hdirty]
        exact fun _ _ => rfl
      · rw [if_neg hdirty]
        exact hc.freemap (eq_false_iff.mpr hdirty) j hj
    rw [show t.disk _ = disk' SFS_SUPER_BLOCK from rfl, hsuper, htsb]
    by_cases hdirty : v.superdirty = true
    · rw [if_pos hdirty]
      exact fun _ _ => rfl
    · rw [if_neg hdirty]
      exact hc.super (eq_false_iff.mpr hdirty)
  constructor
  · rintro ⟨result, t', hsync', hzero, hfail, -⟩
    rw [hsync] at hsync'
    cases hsync'
    have hok : v.InodesWritten fails := by
      by_contra hnot
      exact hfail (hfailed.mpr hnot) rfl
    exact ⟨hok, (hiff hok).mp (hzero rfl)⟩
  rintro ⟨hok, hc⟩
  have ht : t.Written := (hiff hok).mpr hc
  refine ⟨0#32, t, hsync, fun _ => ht, fun hfail => absurd hok (hfailed.mp hfail), fun _ => ?_⟩
  rw [sfsUnmount, bind_run_ok (run_get t)]
  by_cases hloaded : 0 < t.vnodes.length
  · rw [if_pos hloaded]
    exact ⟨EBUSY, t, rfl, fun heq => absurd heq (by decide)⟩
  · rw [if_neg hloaded]
    exact ⟨0#32, t, rfl, fun _ => ⟨rfl, ht⟩⟩

-- sfs_sync keeps its word exactly when one of its last writes fails, or all inodes reach the
-- disk and nothing that is out of date on it is unmarked.
theorem syncOutcome_iff (hapart : v.Apart) (fails : Nat → Bool) :
    SyncOutcome fails v ↔ v.MapsFail fails ∨ v.InodesWritten fails ∧ v.Consistent := by
  by_cases h : v.MapsFail fails
  · exact ⟨fun _ => .inl h, fun _ => syncOutcome_mapsFail h⟩
  · rw [syncOutcome_mapsFine hapart h]
    exact ⟨.inr, fun hor => hor.resolve_left h⟩

def oneDirty : Volume where
  vnodes := [(3, ⟨1, SFS_TYPE_FILE, 1, fun _ => 0, 0, true⟩)]
  freemap := fun _ => 0
  freemapdirty := false
  sb := ⟨SFS_MAGIC, 16, fun _ => 0, fun _ => 0⟩
  superdirty := false
  disk := update (fun _ => zeroBlock) SFS_SUPER_BLOCK
    (Superblock.toBlock ⟨SFS_MAGIC, 16, fun _ => 0, fun _ => 0⟩)
  writes := []

lemma oneDirty_apart : oneDirty.Apart := by
  refine ⟨by decide, by simp [oneDirty, SFS_SUPER_BLOCK], ?_⟩
  intro p hp j hj
  have hp3 : p.1 = 3 := by rw [mem_singleton.mp hp]
  have hone : oneDirty.freemapblocks = 1 := by decide
  rw [hp3, SFS_FREEMAP_START]
  omega

lemma oneDirty_consistent : oneDirty.Consistent := by
  refine ⟨?_, ?_, fun _ _ _ => rfl⟩
  · intro p hp hclean
    rw [mem_singleton.mp hp] at hclean
    cases hclean
  intro _ j _ i _
  have hne : SFS_FREEMAP_START + j ≠ SFS_SUPER_BLOCK := by
    rw [SFS_FREEMAP_START, SFS_SUPER_BLOCK]
    omega
  rw [oneDirty]
  dsimp only
  rw [update_of_ne hne]
  rfl

theorem syncOutcome_oneDirty : oneDirty.Apart ∧
    (SyncOutcome (fun _ => false) oneDirty ↔ oneDirty.MapsFail (fun _ => false) ∨
        oneDirty.InodesWritten (fun _ => false) ∧ oneDirty.Consistent) :=
  ⟨oneDirty_apart, syncOutcome_iff oneDirty_apart _⟩

theorem sync_losesInode : oneDirty.Apart ∧ oneDirty.Consistent ∧
    (∃ t, (sfsSync fun _ => true).run oneDirty = .ok 0#32 t ∧ t.writes = [true]) ∧
    ¬ SyncOutcome (fun _ => true) oneDirty := by
  refine ⟨oneDirty_apart, oneDirty_consistent, ⟨_, rfl, rfl⟩, ?_⟩
  have hmaps : ¬ oneDirty.MapsFail (fun _ => true) := by
    rintro ⟨k, hk, -⟩
    exact Nat.not_lt_zero k hk
  rw [syncOutcome_mapsFine oneDirty_apart hmaps]
  rintro ⟨hok, -⟩
  have h0 := hok 0 (by decide)
  cases h0

end Outcome

end Os161.Sfs.Sync
