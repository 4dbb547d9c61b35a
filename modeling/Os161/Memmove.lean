import Os161.Lib.Bytes

-- memcpy and memmove, common/libc/string/memcpy.c and memmove.c, on the bytes of a 32-bit
-- memory. An element of `w` bytes is read as a whole before it is written.

namespace Os161.Memmove

open Lib.Bytes Nat

abbrev Word := BitVec 32

def sizeofLong : Nat := 4

-- d[i] = s[i]
def assign (w d s i : Nat) (mem : Nat → UInt8) : Nat → UInt8 :=
  paste mem ((d + i * w) % 0x100000000) w fun k => mem ((s + i * w + k) % 0x100000000)

def memcpyLoop (w d s : Nat) : Nat → Nat → (Nat → UInt8) → Nat → UInt8
  | 0, _, mem => mem
  | left + 1, i, mem => memcpyLoop w d s left (i + 1) (assign w d s i mem)

def wordAligned (dst src len : Word) : Prop :=
  dst.toNat % sizeofLong = 0 ∧ src.toNat % sizeofLong = 0 ∧ len.toNat % sizeofLong = 0

instance (dst src len : Word) : Decidable (wordAligned dst src len) :=
  inferInstanceAs (Decidable (_ ∧ _))

def memcpy (dst src len : Word) (mem : Nat → UInt8) : Nat → UInt8 :=
  if wordAligned dst src len then
    memcpyLoop sizeofLong dst.toNat src.toNat (len.toNat / sizeofLong) 0 mem
  else memcpyLoop 1 dst.toNat src.toNat len.toNat 0 mem

def memmoveLoop (w d s : Nat) : Nat → (Nat → UInt8) → Nat → UInt8
  | 0, mem => mem
  | i + 1, mem => memmoveLoop w d s i (assign w d s i mem)

def memmove (dst src len : Word) (mem : Nat → UInt8) : Nat → UInt8 :=
  if dst < src then memcpy dst src len mem
  else if wordAligned dst src len then
    memmoveLoop sizeofLong dst.toNat src.toNat (len.toNat / sizeofLong) mem
  else memmoveLoop 1 dst.toNat src.toNat len.toNat mem

-- The memory with the bytes `a` to `b - 1` moved and the others not yet.
def moved (mem : Nat → UInt8) (d s a b : Nat) : Nat → UInt8 := fun x =>
  if d + a ≤ x ∧ x < d + b then mem (s + (x - d)) else mem x

section Loops

variable (mem : Nat → UInt8)

-- An element next to the part that has been moved, whose source has not been written.
lemma assign_moved (lo hi : Nat) (hd : d + (i * w + w) ≤ 0x100000000)
    (hs : s + (i * w + w) ≤ 0x100000000) (hw : 0 < w)
    (hgrows : ∀ j, lo ≤ j ∧ j < hi ↔ a ≤ j ∧ j < b ∨ i * w ≤ j ∧ j < i * w + w)
    (hclear : ∀ j, i * w ≤ j → j < i * w + w → s + j < d + a ∨ d + b ≤ s + j) :
    assign w d s i (moved mem d s a b) = moved mem d s lo hi := by
  funext x
  rw [assign, mod_eq_of_lt (show d + i * w < 0x100000000 by omega)]
  by_cases hx : d + i * w ≤ x ∧ x < d + i * w + w
  · obtain ⟨k, rfl⟩ : ∃ k, x = d + i * w + k := ⟨x - (d + i * w), by omega⟩
    have hk : k < w := by omega
    have hin := (hgrows (i * w + k)).mpr (.inr (by omega))
    have hout := hclear (i * w + k) (by omega) (by omega)
    rw [paste_inside hk, mod_eq_of_lt (by omega), moved, if_neg (by omega), moved,
      if_pos (by omega)]
    exact congrArg mem (by omega)
  rw [paste_outside (by omega), moved, moved]
  by_cases hlo : d ≤ x
  · have hgrow := hgrows (x - d)
    exact if_congr (by omega) rfl rfl
  · rw [if_neg (by omega), if_neg (by omega)]

lemma memcpyLoop_moved (hw : 0 < w) (hds : d ≤ s) (left i : Nat)
    (hs : s + (i + left) * w ≤ 0x100000000) :
    memcpyLoop w d s left i (moved mem d s 0 (i * w)) = moved mem d s 0 ((i + left) * w) := by
  induction left generalizing i with
  | zero => rfl
  | succ left ih =>
    have hnext : (i + 1) * w = i * w + w := succ_mul i w
    have hlast : (i + 1) * w ≤ (i + (left + 1)) * w := Nat.mul_le_mul_right w (by omega)
    rw [memcpyLoop, assign_moved mem 0 ((i + 1) * w) (by omega) (by omega) hw
      (fun j => by omega) fun j _ _ => by omega, ih (i + 1) (by rwa [succ_add_eq_add_succ])]
    rw [succ_add_eq_add_succ]

lemma memmoveLoop_moved (hw : 0 < w) (hsd : s ≤ d) (i : Nat) (hle : i * w ≤ n)
    (hd : d + n ≤ 0x100000000) :
    memmoveLoop w d s i (moved mem d s (i * w) n) = moved mem d s 0 n := by
  induction i with
  | zero => rw [memmoveLoop, Nat.zero_mul]
  | succ i ih =>
    have hnext : (i + 1) * w = i * w + w := succ_mul i w
    rw [memmoveLoop, assign_moved mem (i * w) n (by omega) (by omega) hw
      (fun j => by omega) fun j _ _ => by omega]
    exact ih (by omega)

lemma moved_nothing (a : Nat) : moved mem d s a a = mem := by
  funext x
  rw [moved, if_neg (by omega)]

end Loops

lemma memmove_eq (dst src len : Word) (mem : Nat → UInt8)
    (hdst : dst.toNat + len.toNat ≤ 0x100000000) (hsrc : src.toNat + len.toNat ≤ 0x100000000) :
    memmove dst src len mem = moved mem dst.toNat src.toNat 0 len.toNat := by
  have hwords : wordAligned dst src len → len.toNat / sizeofLong * sizeofLong = len.toNat :=
    fun h => Nat.div_mul_cancel (dvd_of_mod_eq_zero h.2.2)
  by_cases hlt : dst < src
  · have hle : dst.toNat ≤ src.toNat := Nat.le_of_lt hlt
    have hloop : ∀ w n, 0 < w → n * w = len.toNat →
        memcpyLoop w dst.toNat src.toNat n 0 mem = moved mem dst.toNat src.toNat 0 len.toNat := by
      intro w n hw hn
      have hrun := memcpyLoop_moved mem hw hle n 0 (by rwa [Nat.zero_add, hn])
      rwa [Nat.zero_mul, moved_nothing, Nat.zero_add, hn] at hrun
    rw [memmove, if_pos hlt, memcpy]
    split
    · exact hloop _ _ (by decide) (hwords ‹_›)
    · exact hloop _ _ Nat.one_pos (Nat.mul_one _)
  have hle : src.toNat ≤ dst.toNat := Nat.le_of_not_lt hlt
  have hloop : ∀ w n, 0 < w → n * w = len.toNat →
      memmoveLoop w dst.toNat src.toNat n mem = moved mem dst.toNat src.toNat 0 len.toNat := by
    intro w n hw hn
    have hrun := memmoveLoop_moved mem hw hle n (Nat.le_of_eq hn) hdst
    rwa [hn, moved_nothing] at hrun
  rw [memmove, if_neg hlt]
  split
  · exact hloop _ _ (by decide) (hwords ‹_›)
  · exact hloop _ _ Nat.one_pos (Nat.mul_one _)

-- The destination gets the old bytes of the source, however the two overlap.
theorem memmove_moves (dst src len : Word) (mem : Nat → UInt8)
    (hdst : dst.toNat + len.toNat ≤ 0x100000000) (hsrc : src.toNat + len.toNat ≤ 0x100000000) :
    (∀ i < len.toNat, memmove dst src len mem (dst.toNat + i) = mem (src.toNat + i)) ∧
      ∀ x, x < dst.toNat ∨ dst.toNat + len.toNat ≤ x → memmove dst src len mem x = mem x := by
  rw [memmove_eq dst src len mem hdst hsrc]
  refine ⟨fun i hi => ?_, fun x hx => ?_⟩
  · rw [moved, if_pos (by omega), Nat.add_sub_cancel_left]
  · rw [moved, if_neg (by omega)]

theorem memmove_moves_overlapping :
    memmove 0x1004#32 0x1000#32 8#32 UInt8.ofNat (0x1004 + 7) = .ofNat (0x1000 + 7) :=
  (memmove_moves 0x1004#32 0x1000#32 8#32 UInt8.ofNat (by decide) (by decide)).1 7 (by decide)

end Os161.Memmove
