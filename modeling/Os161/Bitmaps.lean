import Mathlib.Data.Finset.Insert
import Os161.Lib.Bitmap

-- kern/lib/bitmap.c, with BITS_PER_WORD 8. The result `none` is an assertion that fails. The
-- allocations of bitmap_create succeed.

namespace Os161.Bitmaps

open Function Lib.Bitmap List

def WORD_ALLBITS : UInt8 := 0xff

structure Bitmap where
  nbits : Nat
  v : Nat → UInt8

-- DIVROUNDUP on unsigned.
def divroundup (a b : Nat) : Nat := (a + b - 1) % 0x100000000 / b

def bitmapCreate (nbits : Nat) : Option Bitmap :=
  let words := divroundup nbits 8
  if nbits / 8 < words then
    let ix := words - 1
    let overbits := nbits - ix * 8
    if nbits / 8 = words - 1 ∧ 0 < overbits ∧ overbits < 8 then
      -- bits overbits to 7 of byte ix
      some ⟨nbits, markRange (fun _ => 0) (ix * 8 + overbits) (8 - overbits)⟩
    else none
  else some ⟨nbits, fun _ => 0⟩

-- The index, or `none` for ENOSPC.
def bitmapAlloc (b : Bitmap) : Option (Option Nat × Bitmap) :=
  match (List.range (divroundup b.nbits 8)).find? fun ix => b.v ix ≠ WORD_ALLBITS with
  | none => some (none, b)
  | some ix =>
    match (List.range 8).find? fun offset => b.v ix &&& mask offset = 0 with
    | none => none
    | some offset =>
      let index := ix * 8 + offset
      if index < b.nbits then
        some (some index, { b with v := update b.v ix (b.v ix ||| mask offset) })
      else none

def bitmapMark (b : Bitmap) (index : Nat) : Option Bitmap :=
  if index < b.nbits ∧ marked b.v index = false then some { b with v := mark b.v index } else none

def bitmapUnmark (b : Bitmap) (index : Nat) : Option Bitmap :=
  if index < b.nbits ∧ marked b.v index then some { b with v := unmark b.v index } else none

def bitmapIsset (b : Bitmap) (index : Nat) : Bool := marked b.v index

inductive Op where
  | alloc
  | mark (index : Nat)
  | unmark (index : Nat)
  | isset (index : Nat)

inductive Answer where
  | index (result : Option Nat)
  | set (result : Bool)
  | done
  deriving DecidableEq, Repr

def Op.run (b : Bitmap) : Op → Option (Answer × Bitmap)
  | .alloc => (bitmapAlloc b).map fun (result, b) => (.index result, b)
  | .mark index => (bitmapMark b index).map fun b => (.done, b)
  | .unmark index => (bitmapUnmark b index).map fun b => (.done, b)
  | .isset index => some (.set (bitmapIsset b index), b)

def runAll (b : Bitmap) : List Op → Option (List Answer × Bitmap)
  | [] => some ([], b)
  | op :: ops => do
    let (answer, b) ← op.run b
    let (answers, b) ← runAll b ops
    pure (answer :: answers, b)

-- The same operations on a subset of the first `n` numbers.
def Op.onSet (n : Nat) (s : Finset Nat) : Op → Answer × Finset Nat
  | .alloc =>
    match (List.range n).find? (· ∉ s) with
    | none => (.index none, s)
    | some i => (.index (some i), insert i s)
  | .mark index => (.done, insert index s)
  | .unmark index => (.done, s.erase index)
  | .isset index => (.set (index ∈ s), s)

def setAll (n : Nat) (s : Finset Nat) : List Op → List Answer × Finset Nat
  | [] => ([], s)
  | op :: ops =>
    let rest := setAll n (op.onSet n s).2 ops
    ((op.onSet n s).1 :: rest.1, rest.2)

-- What the operations assert. bitmap_isset asserts nothing, but reads inside the bitmap.
def Op.Asserted (n : Nat) (s : Finset Nat) : Op → Prop
  | .alloc => True
  | .mark index => index < n ∧ index ∉ s
  | .unmark index => index < n ∧ index ∈ s
  | .isset index => index < n

def AssertedAll (n : Nat) (s : Finset Nat) : List Op → Prop
  | [] => True
  | op :: ops => op.Asserted n s ∧ AssertedAll n (op.onSet n s).2 ops

-- The bits past the end are those of the last byte.
structure Represents (n : Nat) (b : Bitmap) (s : Finset Nat) : Prop where
  nbits : b.nbits = n
  inside : ∀ i ∈ s, i < n
  bits : ∀ i < n, marked b.v i = decide (i ∈ s)
  padding : ∀ i, n ≤ i → i < divroundup n 8 * 8 → marked b.v i

variable {n : Nat}

lemma words_eq (hn : n ≤ 0x80000000) : divroundup n 8 = n / 8 + (if n % 8 = 0 then 0 else 1) := by
  unfold divroundup
  split_ifs <;> omega

lemma bitmapCreate_represents (hn : n ≤ 0x80000000) :
    ∃ b, bitmapCreate n = some b ∧ Represents n b ∅ := by
  have hwords := words_eq hn
  unfold bitmapCreate
  dsimp only
  by_cases hrest : n % 8 = 0
  · rw [if_pos hrest] at hwords
    rw [hwords, if_neg (by omega)]
    refine ⟨_, rfl, rfl, fun i hi => by simp at hi, fun i _ => by simp [marked_zero], ?_⟩
    intro i hlo hhi
    omega
  rw [if_neg hrest] at hwords
  rw [hwords, if_pos (by omega), if_pos (by omega)]
  refine ⟨_, rfl, rfl, fun i hi => by simp at hi, fun i hi => ?_, fun i hlo hhi => ?_⟩
  · rw [marked_markRange, marked_zero, decide_eq_false (by omega)]
    simp
  · rw [marked_markRange, decide_eq_true (by omega), Bool.true_or]

lemma Represents.insert (h : Represents n b s) (hi : i < n) :
    Represents n { b with v := mark b.v i } (insert i s) where
  nbits := h.nbits
  inside j hj := (Finset.mem_insert.mp hj).elim (fun hji => hji ▸ hi) (h.inside j)
  bits j hj := by
    rw [marked_mark, h.bits j hj, ← Bool.decide_or]
    exact decide_eq_decide.mpr Finset.mem_insert.symm
  padding j hlo hhi := by rw [marked_mark, h.padding j hlo hhi, Bool.or_true]

lemma Represents.erase (h : Represents n b s) (hi : i < n) :
    Represents n { b with v := unmark b.v i } (s.erase i) where
  nbits := h.nbits
  inside j hj := h.inside j (Finset.mem_of_mem_erase hj)
  bits j hj := by
    rw [marked_unmark, h.bits j hj, ← Bool.decide_and]
    exact decide_eq_decide.mpr (and_comm.trans Finset.mem_erase.symm)
  padding j hlo hhi := by
    have hne : j ≠ i := by omega
    rw [marked_unmark, h.padding j hlo hhi, decide_eq_true hne, Bool.and_self]

section

variable (v : Nat → UInt8) (ix : Nat)

lemma and_mask_eq_zero (h : offset < 8) :
    v ix &&& mask offset = 0 ↔ marked v (ix * 8 + offset) = false := by
  have hbit := and_mask (v ix) offset
  rw [marked_eq, show (ix * 8 + offset) / 8 = ix by omega,
    show (ix * 8 + offset) % 8 = offset % 8 by omega, ← hbit, bne_eq_false_iff_eq]

lemma eq_allbits_iff :
    v ix = WORD_ALLBITS ↔ ∀ offset < 8, marked v (ix * 8 + offset) := by
  have hall : ∀ k < 8, WORD_ALLBITS.toBitVec.getLsbD k = true := by decide
  constructor
  · intro h offset hlt
    rw [marked_eq, show (ix * 8 + offset) / 8 = ix by omega, h]
    exact hall _ (Nat.mod_lt _ (by decide))
  intro h
  have hbyte := @byte_ext v (fun _ => WORD_ALLBITS) ix fun k hk => by
    rw [Nat.mul_comm, h k hk, marked_eq, hall _ (Nat.mod_lt _ (by decide))]
  exact hbyte

lemma mark_place (h : offset < 8) :
    update v ix (v ix ||| mask offset) = mark v (ix * 8 + offset) := by
  unfold mark mask
  rw [show (ix * 8 + offset) / 8 = ix by omega, show (ix * 8 + offset) % 8 = offset % 8 by omega]

end

lemma bitmapAlloc_full (h : Represents n b s) (hall : ∀ i < n, i ∈ s) :
    bitmapAlloc b = some (none, b) := by
  have hix : (List.range (divroundup n 8)).find? (b.v · ≠ WORD_ALLBITS) = none := by
    refine find?_range_eq_none.mpr fun ix hix => ?_
    have hfull := (eq_allbits_iff b.v ix).mpr fun offset ho => by
      by_cases hlt : ix * 8 + offset < n
      · rw [h.bits _ hlt, decide_eq_true (hall _ hlt)]
      · exact h.padding _ (by omega) (by omega)
    simp [hfull]
  unfold bitmapAlloc
  rw [h.nbits, hix]

-- The first byte that is not full has the least bit that is not set.
lemma bitmapAlloc_least (hn : n ≤ 0x80000000) (h : Represents n b s) (hi : i < n)
    (habsent : i ∉ s) (hleast : ∀ j < i, j ∈ s) :
    bitmapAlloc b = some (some i, { b with v := mark b.v i }) := by
  have hclear : marked b.v i = false := by rw [h.bits i hi, decide_eq_false habsent]
  have hlow : ∀ j < i, marked b.v j := fun j hj => by
    rw [h.bits j (by omega), decide_eq_true (hleast j hj)]
  have hplace : i / 8 * 8 + i % 8 = i := Nat.div_add_mod' i 8
  have hlt : i % 8 < 8 := Nat.mod_lt i (by decide)
  have hix : (List.range (divroundup n 8)).find? (b.v · ≠ WORD_ALLBITS) = some (i / 8) := by
    refine find?_range_eq_some.mpr ⟨?_, ?_, fun j hj => ?_⟩
    · refine decide_eq_true fun hfull => ?_
      have hbit := (eq_allbits_iff b.v (i / 8)).mp hfull (i % 8) hlt
      rw [hplace, hclear] at hbit
      cases hbit
    · rw [mem_range, words_eq hn]
      split_ifs <;> omega
    · have hfull := (eq_allbits_iff b.v j).mpr fun offset ho => hlow _ (by omega)
      simp [hfull]
  have hoffset : (List.range 8).find? (b.v (i / 8) &&& mask · = 0) = some (i % 8) := by
    refine find?_range_eq_some.mpr ⟨?_, mem_range.mpr hlt, fun j hj => ?_⟩
    · rw [decide_eq_true_eq, and_mask_eq_zero b.v _ hlt, hplace, hclear]
    have hset : ¬ b.v (i / 8) &&& mask j = 0 := by
      rw [and_mask_eq_zero b.v _ (by omega), hlow _ (by omega)]
      exact Bool.noConfusion
    simp [hset]
  unfold bitmapAlloc
  rw [h.nbits, hix]
  dsimp only
  rw [hoffset]
  dsimp only
  rw [mark_place b.v _ hlt, hplace, if_pos hi]

lemma run_represents (hn : n ≤ 0x80000000) (h : Represents n b s) {op : Op}
    (hop : op.Asserted n s) :
    ∃ b', op.run b = some ((op.onSet n s).1, b') ∧ Represents n b' (op.onSet n s).2 := by
  cases op with
  | alloc =>
    unfold Op.run Op.onSet
    cases hfind : (List.range n).find? (· ∉ s) with
    | none =>
      have hall := find?_range_eq_none.mp hfind
      rw [bitmapAlloc_full h fun i hi => by simpa using hall i hi]
      exact ⟨b, rfl, h⟩
    | some i =>
      obtain ⟨habsent, hi, hleast⟩ := find?_range_eq_some.mp hfind
      rw [bitmapAlloc_least hn h (mem_range.mp hi) (by simpa using habsent)
        fun j hj => by simpa using hleast j hj]
      exact ⟨_, rfl, h.insert (mem_range.mp hi)⟩
  | mark i =>
    obtain ⟨hi, habsent⟩ := hop
    have hclear : i < b.nbits ∧ marked b.v i = false := by
      rw [h.nbits, h.bits i hi, decide_eq_false habsent]
      exact ⟨hi, rfl⟩
    refine ⟨_, ?_, h.insert hi⟩
    rw [Op.run, bitmapMark, if_pos hclear]
    rfl
  | unmark i =>
    obtain ⟨hi, hmem⟩ := hop
    have hset : i < b.nbits ∧ marked b.v i := by
      rw [h.nbits, h.bits i hi, decide_eq_true hmem]
      exact ⟨hi, rfl⟩
    refine ⟨_, ?_, h.erase hi⟩
    rw [Op.run, bitmapUnmark, if_pos hset]
    rfl
  | isset i =>
    refine ⟨b, ?_, h⟩
    rw [Op.run, bitmapIsset, h.bits i hop]
    rfl

lemma runAll_represents (hn : n ≤ 0x80000000) (ops : List Op) (h : Represents n b s)
    (hops : AssertedAll n s ops) :
    ∃ b', runAll b ops = some ((setAll n s ops).1, b') ∧ Represents n b' (setAll n s ops).2 := by
  induction ops generalizing b s with
  | nil => exact ⟨b, rfl, h⟩
  | cons op ops ih =>
    obtain ⟨b', hrun, hb'⟩ := run_represents hn h hops.1
    obtain ⟨b'', hrest, hb''⟩ := ih hb' hops.2
    refine ⟨b'', ?_, hb''⟩
    rw [runAll, hrun]
    show (runAll b' ops >>= _) = _
    rw [hrest]
    rfl

-- From its creation on a bitmap is a set of numbers below `n`: no assertion fails, the answers
-- are those of the set, and the bits behind the last one stay set.
theorem bitmap_is_set (n : Nat) (hn : n ≤ 0x80000000) :
    ∃ b, bitmapCreate n = some b ∧ ∀ ops, AssertedAll n ∅ ops →
      ∃ b', runAll b ops = some ((setAll n ∅ ops).1, b') ∧ Represents n b' (setAll n ∅ ops).2 := by
  obtain ⟨b, hcreate, h⟩ := bitmapCreate_represents hn
  exact ⟨b, hcreate, fun ops hops => runAll_represents hn ops h hops⟩

theorem bitmap_is_set_ten : ∃ b b', bitmapCreate 10 = some b ∧
    runAll b [.mark 0, .alloc, .isset 1, .unmark 0, .alloc] =
      some ([.done, .index (some 1), .set true, .done, .index (some 0)], b') ∧
    Represents 10 b' {0, 1} := by
  obtain ⟨b, hb, hrun⟩ := bitmap_is_set 10 (by decide)
  obtain ⟨b', hb', hset⟩ := hrun [.mark 0, .alloc, .isset 1, .unmark 0, .alloc]
    ⟨⟨by decide, by decide⟩, trivial, show 1 < 10 by decide, ⟨by decide, by decide⟩, trivial,
      trivial⟩
  exact ⟨b, b', hb, hb', hset⟩

end Os161.Bitmaps
