import Os161.Sfsck.Theorems

-- The two maps that the checker keeps of the blocks, freemapdata and tofreedata.

namespace Os161.Sfsck

open Function Lib.Bitmap Lib.Exec Sfs
open Mksfs (assert_run)

inductive Report where
  | inUse (how : BlockUsage) (block : Nat)
  | free (block : Nat)

def Report.make : Report → Fsck Unit
  | .inUse how block => freemapBlockinuse how block
  | .free block => freemapBlockfree block

def reportAll : List Report → Fsck Unit
  | [] => pure ()
  | report :: reports => do
    report.make
    reportAll reports

-- What reports do: the blocks of `used` have been reported in use.
structure Marks (s t : Check) (used : Nat → Prop) : Prop where
  disk : t.disk = s.disk
  sb : t.sb = s.sb
  inUse : ∀ b, marked t.freemapdata b ↔ marked s.freemapdata b ∨ used b
  apart : (∀ b, marked s.freemapdata b → marked s.tofreedata b = false) →
    ∀ b, marked t.freemapdata b → marked t.tofreedata b = false

variable {t : Check}

lemma Marks.trans (h : Marks s t used) (h' : Marks t u used')
    (hall : ∀ b, all b ↔ used b ∨ used' b) : Marks s u all where
  disk := h'.disk.trans h.disk
  sb := h'.sb.trans h.sb
  inUse b := by rw [h'.inUse, h.inUse, hall, or_assoc]
  apart hs := h'.apart (h.apart hs)

lemma freemapBlockinuse_marks (how : BlockUsage) (block : Nat) (s : Check) :
    ∃ t, (freemapBlockinuse how block).run s = .ok () t ∧ Marks s t (· = block) := by
  have htofree : ∀ b, marked (if marked s.tofreedata block then unmark s.tofreedata block
      else s.tofreedata) b = (marked s.tofreedata b && decide (b ≠ block)) := by
    intro b
    split_ifs with hblock
    · exact marked_unmark
    by_cases hb : b = block
    · simp [hb, hblock]
    · simp [hb]
  have hmarks : ∀ badness blocksinuse, Marks s { s with
      badness := badness
      tofreedata := if marked s.tofreedata block then unmark s.tofreedata block else s.tofreedata
      freemapdata := mark s.freemapdata block
      blocksinuse := blocksinuse } (· = block) := by
    intro badness blocksinuse
    refine ⟨rfl, rfl, fun b => ?_, fun hapart b hb => ?_⟩
    · simp [marked_mark, or_comm]
    simp only [marked_mark, Bool.or_eq_true, decide_eq_true_eq] at hb
    rw [htofree]
    by_cases hne : b = block
    · simp [hne]
    · rw [hapart b (hb.resolve_left hne), Bool.false_and]
  refine ⟨_, ?_, hmarks (if marked s.freemapdata block then max s.badness EXIT_UNRECOV
    else s.badness) (if how ≠ .pastend then s.blocksinuse + 1 else s.blocksinuse)⟩
  cases hused : marked s.freemapdata block <;> simp [freemapBlockinuse, complainIf, hused]

lemma freemapBlockfree_marks (block : Nat) (s : Check) :
    ∃ t, (freemapBlockfree block).run s = .ok () t ∧ Marks s t fun _ => False := by
  refine ⟨_, rfl, ?_⟩
  dsimp only
  split_ifs with htofree hused
  · exact ⟨rfl, rfl, fun b => by simp, id⟩
  · exact ⟨rfl, rfl, fun b => by simp, id⟩
  refine ⟨rfl, rfl, fun b => by simp, fun hapart b hb => ?_⟩
  have hne : b ≠ block := fun h => hused (h ▸ hb)
  rw [marked_mark, hapart b hb, decide_eq_false hne, Bool.or_false]

lemma freemapBlockinuse_loop_marks (how : BlockUsage) (first count : Nat) (s : Check) :
    ∃ t, (loop (freemapBlockinuse how) first count).run s = .ok () t ∧
      Marks s t fun b => first ≤ b ∧ b < first + count := by
  induction count generalizing first s with
  | zero => exact ⟨s, rfl, rfl, rfl, fun b => by simp, id⟩
  | succ count ih =>
    obtain ⟨t, hrun, hmarks⟩ := freemapBlockinuse_marks how first s
    obtain ⟨u, hrest, hmarks'⟩ := ih (first + 1) t
    rw [loop_succ, bind_run_ok hrun]
    exact ⟨u, hrest, hmarks.trans hmarks' fun b => by omega⟩

lemma reportAll_marks (reports : List Report) (s : Check) :
    ∃ t, (reportAll reports).run s = .ok () t ∧
      Marks s t fun b => ∃ how, .inUse how b ∈ reports := by
  induction reports generalizing s with
  | nil => exact ⟨s, rfl, rfl, rfl, fun b => by simp, id⟩
  | cons report reports ih =>
    cases report with
    | inUse how block =>
      obtain ⟨t, hrun, hmarks⟩ := freemapBlockinuse_marks how block s
      obtain ⟨u, hrest, hmarks'⟩ := ih t
      refine ⟨u, (bind_run_ok hrun _).trans hrest, hmarks.trans hmarks' fun b => ?_⟩
      simp [exists_or]
    | free block =>
      obtain ⟨t, hrun, hmarks⟩ := freemapBlockfree_marks block s
      obtain ⟨u, hrest, hmarks'⟩ := ih t
      exact ⟨u, (bind_run_ok hrun _).trans hrest, hmarks.trans hmarks' fun b => by simp⟩

-- What freemap_setup reports in use on a volume of `n` blocks.
def SetupUses (n b : Nat) : Prop :=
  (n ≤ b ∧ b < freemapblocks n * SFS_BITSPERBLOCK) ∨ b = SFS_SUPER_BLOCK ∨
    (SFS_FREEMAP_START ≤ b ∧ b < SFS_FREEMAP_START + freemapblocks n)

lemma freemapSetup_marks (s : Check) : ∃ t, freemapSetup.run s = .ok () t ∧
    Marks { s with freemapdata := fun _ => 0, tofreedata := fun _ => 0 } t
      (SetupUses s.sb.nblocks) := by
  let blank : Check := { s with freemapdata := fun _ => 0, tofreedata := fun _ => 0 }
  obtain ⟨t, ht, hpast⟩ := freemapBlockinuse_loop_marks .pastend s.sb.nblocks
    (freemapblocks s.sb.nblocks * SFS_BITSPERBLOCK - s.sb.nblocks) blank
  obtain ⟨u, hu, hsuper⟩ := freemapBlockinuse_marks .superblock SFS_SUPER_BLOCK t
  obtain ⟨v, hv, hmap⟩ := freemapBlockinuse_loop_marks .freemapblock SFS_FREEMAP_START
    (freemapblocks s.sb.nblocks) u
  refine ⟨v, ?_, hpast.trans (hsuper.trans hmap fun b => Iff.rfl) fun b => ?_⟩
  · show (loop (freemapBlockinuse .pastend) _ _ >>= _).run blank = _
    rw [bind_run_ok ht, bind_run_ok hu]
    exact hv
  unfold SetupUses
  refine or_congr_left ?_
  omega

lemma freemapByte_run (i j : Nat) (scan : Scan)
    (hapart : s.freemapdata (i * SFS_BLOCKSIZE + j) &&& s.tofreedata (i * SFS_BLOCKSIZE + j) = 0) :
    ∃ scan', (freemapByte i j scan).run s = .ok scan' s ∧
      scan'.actual = update scan.actual j (s.freemapdata (i * SFS_BLOCKSIZE + j)) ∧
      (scan'.bchanged = false → scan.bchanged = false ∧ scan'.actual = scan.actual) := by
  unfold freemapByte
  rw [bind_run_ok get_run, bind_run_ok (by rw [assert_run, if_pos (decide_eq_true hapart)])]
  split_ifs with hequal
  · exact ⟨scan, rfl, (update_eq_self_iff.mpr hequal.symm).symm, fun h => ⟨h, rfl⟩⟩
  · exact ⟨_, rfl, rfl, fun h => by cases h⟩
  · exact ⟨_, rfl, rfl, fun h => by cases h⟩

lemma freemapBlock_run (i : Nat) (counts : Nat × Nat)
    (hapart : ∀ k, s.freemapdata k &&& s.tofreedata k = 0) :
    ∃ counts' actual, (freemapBlock i counts).run s = .ok counts'
        { s with disk := update s.disk (SFS_FREEMAP_START + i) actual } ∧
      ∀ j < SFS_BLOCKSIZE, actual j = s.freemapdata (i * SFS_BLOCKSIZE + j) := by
  have hbytes := foldLoop_reaches (freemapByte i)
    (fun j scan u => u = s ∧ (∀ k < j, scan.actual k = s.freemapdata (i * SFS_BLOCKSIZE + k)) ∧
      (scan.bchanged = false → scan.actual = s.disk (SFS_FREEMAP_START + i)))
    (fun j scan u hinv => ?_) 0 SFS_BLOCKSIZE
    (b := ⟨s.disk (SFS_FREEMAP_START + i), false, counts.1, counts.2⟩) (s := s)
    ⟨rfl, fun k hk => absurd hk (Nat.not_lt_zero k), fun _ => rfl⟩
  · obtain ⟨scan, u, hrun, rfl, hactual, hsame⟩ := hbytes
    refine ⟨(scan.alloccount, scan.freecount), scan.actual, ?_, fun j hj => hactual j (by omega)⟩
    rw [freemapBlock, bind_run_ok (diskread_run _), bind_run_ok hrun]
    cases hchanged : scan.bchanged with
    | true => rfl
    | false =>
      rw [hsame hchanged, update_eq_self]
      rfl
  obtain ⟨rfl, hactual, hsame⟩ := hinv
  obtain ⟨scan', hrun, hactual', hsame'⟩ := freemapByte_run i j scan (hapart _)
  refine ⟨scan', u, hrun, rfl, fun k hk => ?_, fun h => ?_⟩
  · rw [hactual']
    by_cases hkj : k = j
    · rw [hkj, update_self]
    · rw [update_of_ne hkj]
      exact hactual k (by omega)
  · rw [(hsame' h).2]
    exact hsame (hsame' h).1

lemma freemapCheck_run (hapart : ∀ k, s.freemapdata k &&& s.tofreedata k = 0) :
    ∃ t, freemapCheck.run s = .ok () t ∧
      (∀ i < freemapblocks s.sb.nblocks, ∀ j < SFS_BLOCKSIZE,
        t.disk (SFS_FREEMAP_START + i) j = s.freemapdata (i * SFS_BLOCKSIZE + j)) ∧
      ∀ b, b < SFS_FREEMAP_START ∨ SFS_FREEMAP_START + freemapblocks s.sb.nblocks ≤ b →
        t.disk b = s.disk b := by
  have hblocks := foldLoop_reaches freemapBlock
    (fun i _ u => u.freemapdata = s.freemapdata ∧ u.tofreedata = s.tofreedata ∧
      (∀ k < i, ∀ j < SFS_BLOCKSIZE,
        u.disk (SFS_FREEMAP_START + k) j = s.freemapdata (k * SFS_BLOCKSIZE + j)) ∧
      ∀ b, b < SFS_FREEMAP_START ∨ SFS_FREEMAP_START + i ≤ b → u.disk b = s.disk b)
    (fun i counts u hinv => ?_) 0 (freemapblocks s.sb.nblocks) (b := (0, 0)) (s := s)
    ⟨rfl, rfl, fun k hk => absurd hk (Nat.not_lt_zero k), fun _ _ => rfl⟩
  · obtain ⟨counts, u, hrun, -, -, hdone, hother⟩ := hblocks
    rw [Nat.zero_add] at hdone hother
    rw [freemapCheck, bind_run_ok get_run, bind_run_ok hrun]
    unfold complainIf
    split_ifs <;> exact ⟨_, rfl, hdone, hother⟩
  obtain ⟨hmap, htofree, hdone, hother⟩ := hinv
  obtain ⟨counts', actual, hrun, hactual⟩ := freemapBlock_run (s := u) i counts fun k => by
    rw [hmap, htofree, hapart]
  refine ⟨counts', _, hrun, hmap, htofree, fun k hk j hj => ?_, fun b hb => ?_⟩
  · dsimp only
    by_cases hki : k = i
    · rw [hki, update_self, hactual j hj, hmap]
    · rw [update_of_ne (by omega)]
      exact hdone k (by omega) j hj
  dsimp only
  rw [update_of_ne (by omega)]
  exact hother b (by omega)

-- For any reports in any order: no block is in both maps, freemapdata has the blocks that were
-- reported in use, and freemap_check leaves it on the disk, whatever was there.
theorem shadow_maps (s : Check) (reports : List Report) :
    ∃ t, (do freemapSetup; reportAll reports).run s = .ok () t ∧
      (∀ b, ¬ (marked t.freemapdata b ∧ marked t.tofreedata b)) ∧
      (∀ b, marked t.freemapdata b ↔
        SetupUses s.sb.nblocks b ∨ ∃ how, .inUse how b ∈ reports) ∧
      ∃ u, freemapCheck.run t = .ok () u ∧
        (∀ i < freemapblocks s.sb.nblocks, ∀ j < SFS_BLOCKSIZE,
          u.disk (SFS_FREEMAP_START + i) j = t.freemapdata (i * SFS_BLOCKSIZE + j)) ∧
        ∀ b, b < SFS_FREEMAP_START ∨ SFS_FREEMAP_START + freemapblocks s.sb.nblocks ≤ b →
          u.disk b = s.disk b := by
  obtain ⟨r, hsetup, hmarks⟩ := freemapSetup_marks s
  obtain ⟨t, hreports, hmarks'⟩ := reportAll_marks reports r
  have hall := hmarks.trans hmarks' fun b => Iff.rfl
  have hapart := hall.apart fun b hb => by rw [marked_zero] at hb; cases hb
  obtain ⟨u, hcheck, hdone, hother⟩ := freemapCheck_run (and_eq_zero_of_apart hapart)
  rw [hall.sb] at hdone hother
  refine ⟨t, (bind_run_ok hsetup _).trans hreports, fun b hb => ?_, fun b => ?_, u, hcheck, hdone,
    fun b hb => ?_⟩
  · rw [hapart b hb.1] at hb
    cases hb.2
  · rw [hall.inUse, marked_zero]
    simp
  · rw [hother b hb, hall.disk]

end Os161.Sfsck
