import Mathlib.Data.List.GetD
import Os161.Lib.Bytes
import Os161.Printf

namespace Os161.Printf

open Function Lib BitVec List

def NUMBER_BUF_SIZE : Nat := 64 / 3 + 2

lemma pfDigits_length {base : Nat} (hbase : 8 ≤ base) (n : Nat) :
    ∀ xnum done, xnum < Nat.pow 8 n → 1 ≤ n →
      (pfDigits base xnum done).length ≤ done.length + n := by
  induction n with
  | zero =>
    intro xnum done _ hn
    omega
  | succ n ih =>
    intro xnum done hx _
    unfold pfDigits
    split
    · rename_i h
      have hdiv : xnum / base ≤ xnum / 8 := Nat.div_le_div_left hbase (by decide)
      have hlt : xnum / 8 < Nat.pow 8 n := by
        rw [Nat.div_lt_iff_lt_mul (by decide)]
        exact hx
      have hn : 1 ≤ n := by
        by_contra hzero
        obtain rfl : n = 0 := by omega
        have hlow : xnum / 8 < 1 := hlt
        omega
      have hrest := ih (xnum / base) (digits.getD (xnum % base) 0 :: done) (by omega) hn
      rw [length_cons] at hrest
      omega
    · rw [length_cons]
      omega

theorem pfDigits_fits {base : Nat} (hbase : 8 ≤ base) (num : BitVec 64) :
    (pfDigits base num.toNat []).length + 1 ≤ NUMBER_BUF_SIZE := by
  have hnum : num.toNat < Nat.pow 8 22 := Nat.lt_of_lt_of_le num.isLt (by decide)
  have hlen := pfDigits_length hbase 22 num.toNat [] hnum (by decide)
  rw [length_nil] at hlen
  unfold NUMBER_BUF_SIZE
  omega

theorem pfDigits_fits_largest : (pfDigits 8 (-1#64).toNat []).length + 1 ≤ NUMBER_BUF_SIZE :=
  pfDigits_fits (by decide) _

-- The number that digits stand for when `n` has been read before them.
def readDigits (base n : Nat) (s : List UInt8) : Nat :=
  s.foldl (fun n c => n * base + digits.idxOf c) n

lemma readDigits_pfDigits (hbase : 2 ≤ base) (hmax : base ≤ 16) (xnum : Nat) (done : List UInt8) :
    readDigits base 0 (pfDigits base xnum done) = readDigits base xnum done := by
  have hdigit : ∀ k < 16, digits.idxOf (digits.getD k 0) = k := by decide
  have hread : ∀ n k s, readDigits base n (digits.getD (k % base) 0 :: s) =
      readDigits base (n * base + k % base) s := fun n k s => by
    rw [readDigits, foldl_cons, hdigit _ (Nat.lt_of_lt_of_le (Nat.mod_lt k (by omega)) hmax)]
    rfl
  fun_induction pfDigits base xnum done with
  | case1 xnum done h ih => rw [ih, hread, Nat.div_add_mod']
  | case2 xnum done h =>
    have hlast : xnum / base = 0 := Nat.eq_zero_of_not_pos fun hpos => h ⟨hbase, hpos⟩
    rw [hread, ← hlast, Nat.div_add_mod']

-- The digits that are printed of a number read back as the number.
theorem pfDigits_read_back (hbase : 2 ≤ base) (hmax : base ≤ 16) (xnum : Nat) :
    readDigits base 0 (pfDigits base xnum []) = xnum :=
  readDigits_pfDigits hbase hmax xnum []

theorem pfDigits_read_back_hex : readDigits 16 0 (pfDigits 16 0xbeef []) = 0xbeef :=
  pfDigits_read_back (by decide) (by decide) _

@[simps -fullyApplied]
def Pf.withData {σ τ α : Type} (pf : Pf σ α) (d : τ) : Pf τ α :=
  ⟨d, pf.ap, pf.charcount, pf.inPct, pf.size, pf.num, pf.sign, pf.spacing, pf.rightspc,
    pf.fillchar, pf.base, pf.baseprefix, pf.altformat⟩

-- Two runs that differ in the client only. `R` ties their data to the number of characters sent
-- so far.
def Linked {σ τ α : Type} (R : σ → τ → BitVec 32 → Prop) (pf : Pf σ α) (pf' : Pf τ α) : Prop :=
  ∃ d, pf' = pf.withData d ∧ R pf.clientdata d pf.charcount

section Runs

variable {σ τ α : Type} {send : σ → List UInt8 → σ} {send' : τ → List UInt8 → τ}
  {R : σ → τ → BitVec 32 → Prop}
  (hsend : ∀ c d n txt, R c d n → R (send c txt) (send' d txt) (n + BitVec.ofNat 32 txt.length))

include hsend

lemma pfPrint_linked (txt : List UInt8) (h : Linked R pf pf') :
    Linked R (pfPrint send pf txt) (pfPrint send' pf' txt) := by
  obtain ⟨d, rfl, hR⟩ := h
  exact ⟨send' d txt, rfl, hsend _ _ _ txt hR⟩

lemma pfFill_linked (spc : Nat) (h : Linked R pf pf') :
    Linked R (pfFill send pf spc) (pfFill send' pf' spc) := by
  induction spc generalizing pf pf' with
  | zero => exact h
  | succ spc ih =>
    have hfill : pf'.fillchar = pf.fillchar := by
      obtain ⟨d, rfl, -⟩ := h
      rfl
    rw [pfFill, pfFill, hfill]
    exact ih (pfPrint_linked hsend _ h)

lemma pfPad_linked (spc : BitVec 32) (here : Bool)
    (h : Linked R pf pf') : Linked R (pfPad send pf spc here) (pfPad send' pf' spc here) := by
  unfold pfPad
  split
  · exact pfFill_linked hsend _ h
  · exact h

lemma pfPrintstuff_linked (pre pre2 stuff : List UInt8)
    (h : Linked R pf pf') :
    Linked R (pfPrintstuff send pf pre pre2 stuff) (pfPrintstuff send' pf' pre pre2 stuff) := by
  have hsame : pf'.spacing = pf.spacing ∧ pf'.rightspc = pf.rightspc ∧
      pf'.fillchar = pf.fillchar := by
    obtain ⟨d, rfl, -⟩ := h
    exact ⟨rfl, rfl, rfl⟩
  obtain ⟨hspacing, hright, hfill⟩ := hsame
  unfold pfPrintstuff
  rw [hspacing, hright, hfill]
  refine pfPad_linked hsend _ _ (pfPrint_linked hsend _ (pfPad_linked hsend _ _ ?_))
  exact pfPrint_linked hsend _ (pfPrint_linked hsend _ (pfPad_linked hsend _ _ h))

lemma pfPrintnum_linked (h : Linked R pf pf') :
    Linked R (pfPrintnum send pf) (pfPrintnum send' pf') := by
  have hlinked := h
  obtain ⟨d, rfl, -⟩ := hlinked
  exact pfPrintstuff_linked hsend _ _ _ h

omit hsend in
lemma pfEndfield_linked (h : Linked R pf pf') : Linked R (pfEndfield pf) (pfEndfield pf') := by
  obtain ⟨d, rfl, hR⟩ := h
  exact ⟨d, rfl, hR⟩

omit hsend in
lemma pfModifier_linked (c : UInt8) (h : Linked R pf pf') :
    Linked R (pfModifier pf c) (pfModifier pf' c) := by
  obtain ⟨d, rfl, hR⟩ := h
  unfold pfModifier
  simp only [Pf.withData_spacing, Pf.withData_size]
  split_ifs <;> exact ⟨d, rfl, hR⟩

omit hsend in
lemma pfGetnum_linked (va : VarArgs α) (c : UInt8)
    (h : Linked R pf pf') : Linked R (pfGetnum va pf c) (pfGetnum va pf' c) := by
  obtain ⟨d, rfl, hR⟩ := h
  unfold pfGetnum
  simp only [Pf.withData_size, Pf.withData_ap]
  split_ifs <;> exact ⟨d, rfl, hR⟩

omit hsend in
lemma pfSetbase_linked (c : UInt8) (h : Linked R pf pf') :
    Linked R (pfSetbase pf c) (pfSetbase pf' c) := by
  obtain ⟨d, rfl, hR⟩ := h
  exact ⟨d, rfl, hR⟩

lemma pfSend_linked (va : VarArgs α) (c : UInt8)
    (h : Linked R pf pf') : Linked R (pfSend send va pf c) (pfSend send' va pf' c) := by
  have hlinked := h
  obtain ⟨d, rfl, hR⟩ := hlinked
  unfold pfSend
  simp only [Pf.withData_inPct, Pf.withData_ap]
  split_ifs
  · exact pfPrint_linked hsend _ h
  · exact ⟨d, rfl, hR⟩
  · exact pfModifier_linked c h
  · exact pfEndfield_linked (pfPrintnum_linked hsend (pfSetbase_linked c (pfGetnum_linked va c h)))
  · exact pfEndfield_linked (pfPrintstuff_linked hsend _ _ _ ⟨d, rfl, hR⟩)
  · exact pfEndfield_linked (pfPrintstuff_linked hsend _ _ _ ⟨d, rfl, hR⟩)
  · exact pfEndfield_linked (pfPrintstuff_linked hsend _ _ _ h)

lemma pfLoop_linked (va : VarArgs α) (format : List UInt8)
    (h : Linked R pf pf') :
    Linked R (format.foldl (pfSend send va) pf) (format.foldl (pfSend send' va) pf') := by
  induction format generalizing pf pf' with
  | nil => exact h
  | cons c format ih => exact ih (pfSend_linked hsend va c h)

lemma vprintf_linked (va : VarArgs α) (format : List UInt8) (ap : α) (hstart : R c d 0#32) :
    R (vprintf send va c format ap).1 (vprintf send' va d format ap).1
        (vprintf send va c format ap).2 ∧
      (vprintf send' va d format ap).2 = (vprintf send va c format ap).2 := by
  have hlinked : Linked R (pfStart c ap) (pfStart d ap) := ⟨d, rfl, hstart⟩
  obtain ⟨e, hrun, hR⟩ := pfLoop_linked hsend va (cstring format) hlinked
  simp only [vprintf, hrun]
  exact ⟨hR, rfl⟩

end Runs

def output {α : Type} (va : VarArgs α) (format : List UInt8) (ap : α) : List UInt8 :=
  (vprintf (fun out txt => out ++ txt) va [] format ap).1

section Buffer

structure Stored (start : Snp) (out : List UInt8) (snp : Snp) : Prop where
  buflen : snp.buflen = start.buflen
  bufpos : snp.bufpos = min start.buflen out.length
  buf : snp.buf = Bytes.paste start.buf 0 (min start.buflen out.length) (fun i => out.getD i 0)

lemma stored_nil (hpos : start.bufpos = 0) : Stored start [] start where
  buflen := rfl
  bufpos := by simp [hpos]
  buf := by simp [Bytes.paste_zero]

lemma stored_put {snp : Snp} {out : List UInt8} (c : UInt8) (h : Stored start out snp) :
    Stored start (out ++ [c]) (snp.put c) := by
  unfold Snp.put
  rw [h.bufpos, h.buflen]
  split
  · rename_i hroom
    have hlen : out.length < start.buflen := by omega
    have hpos : min start.buflen out.length = out.length := by omega
    have hnext : min start.buflen (out ++ [c]).length = out.length + 1 := by
      rw [length_append, length_singleton]
      omega
    refine ⟨rfl, by rw [hnext, hpos], ?_⟩
    simp only
    rw [hnext, hpos, h.buf, hpos]
    funext i
    unfold Bytes.paste
    by_cases hi : i = out.length
    · subst hi
      simp
    rw [update_of_ne hi]
    by_cases hlt : i < out.length
    · rw [if_pos (by omega), if_pos (by omega), Nat.sub_zero]
      exact (getD_append out [c] 0 i hlt).symm
    · rw [if_neg (by omega), if_neg (by omega)]
  rename_i hfull
  have hlen : start.buflen ≤ out.length := by omega
  have hsame : min start.buflen (out ++ [c]).length = min start.buflen out.length := by
    rw [length_append]
    omega
  refine ⟨h.buflen, by rw [h.bufpos, hsame], ?_⟩
  rw [h.buf, hsame]
  funext i
  unfold Bytes.paste
  by_cases hlt : i < min start.buflen out.length
  · rw [if_pos (by omega), if_pos (by omega), Nat.sub_zero]
    exact (getD_append out [c] 0 i (by omega)).symm
  · rw [if_neg (by omega), if_neg (by omega)]

lemma stored_send (txt : List UInt8) {snp : Snp} {out : List UInt8}
    (h : Stored start out snp) : Stored start (out ++ txt) (snprintfSend snp txt) := by
  induction txt generalizing snp out with
  | nil => simpa [snprintfSend] using h
  | cons c txt ih =>
    have hnext := ih (stored_put c h)
    rw [List.append_assoc] at hnext
    exact hnext

end Buffer

lemma vprintf_stored (va : VarArgs α) {start : Snp} (hpos : start.bufpos = 0)
    (format : List UInt8) (ap : α) :
    Stored start (output va format ap) (vprintf snprintfSend va start format ap).1 ∧
      (vprintf snprintfSend va start format ap).2 =
        BitVec.ofNat 32 (output va format ap).length := by
  have hsend : ∀ (out : List UInt8) (snp : Snp) (n : BitVec 32) (txt : List UInt8),
      (Stored start out snp ∧ n = BitVec.ofNat 32 out.length) →
        Stored start (out ++ txt) (snprintfSend snp txt) ∧
          n + BitVec.ofNat 32 txt.length = BitVec.ofNat 32 (out ++ txt).length := by
    rintro out snp n txt ⟨hstored, rfl⟩
    exact ⟨stored_send txt hstored, by rw [length_append, ofNat_add]⟩
  obtain ⟨⟨hstored, hcount⟩, hsame⟩ := vprintf_linked hsend va format ap ⟨stored_nil hpos, rfl⟩
  exact ⟨hstored, hsame.trans hcount⟩

-- `N` characters were produced, the first of them are in the buffer with a NUL behind them, and
-- the memory is otherwise as it was.
structure BoundedView (out : List UInt8) (len : Nat) (buf buf' : Nat → UInt8)
    (result : BitVec 32) : Prop where
  count : out.length < 0x80000000 → result.toInt = out.length
  copied : 0 < len → ∀ i < min (len - 1) out.length, buf' i = out.getD i 0
  terminated : 0 < len → buf' (min (len - 1) out.length) = 0
  untouched : ∀ i, len ≤ i ∨ min (len - 1) out.length < i → buf' i = buf i

lemma vsnprintf_view (va : VarArgs α) (buf : Nat → UInt8) (len : Nat)
    (format : List UInt8) (ap : α) :
    BoundedView (output va format ap) len buf (vsnprintf va buf len format ap).1
      (vsnprintf va buf len format ap).2 := by
  let start : Snp := ⟨buf, if len = 0 then 0 else len - 1, 0⟩
  have hbuflen : start.buflen = len - 1 := by
    by_cases hlen : len = 0
    · simp [start, hlen]
    · simp [start, hlen]
  obtain ⟨hstored, hcount⟩ := @vprintf_stored α va start rfl format ap
  have hpos := hstored.bufpos
  have hbuf := hstored.buf
  rw [hbuflen] at hpos hbuf
  have hfinal : (vsnprintf va buf len format ap).1 =
      if 0 < len then
        update (vprintf snprintfSend va start format ap).1.buf
          (vprintf snprintfSend va start format ap).1.bufpos 0
      else (vprintf snprintfSend va start format ap).1.buf := rfl
  rw [hpos, hbuf] at hfinal
  generalize output va format ap = out at *
  refine ⟨fun hlt => ?_, fun hlen i hi => ?_, fun hlen => ?_, fun i hi => ?_⟩
  · have hresult : (vsnprintf va buf len format ap).2 = BitVec.ofNat 32 out.length := hcount
    rw [hresult, toInt_eq_toNat_of_lt, toNat_ofNat]
    · omega
    · rw [toNat_ofNat]
      omega
  · rw [hfinal, if_pos hlen, update_of_ne (by omega)]
    exact (congrArg _ (Nat.zero_add i).symm).trans (Bytes.paste_inside hi)
  · rw [hfinal, if_pos hlen, update_self]
  have hout : Bytes.paste buf 0 (min (len - 1) out.length) (fun i => out.getD i 0) i = buf i :=
    Bytes.paste_outside (by omega)
  by_cases hlen : 0 < len
  · rw [hfinal, if_pos hlen, update_of_ne (by omega)]
    exact hout
  · rw [hfinal, if_neg hlen]
    exact hout

theorem vsnprintf_bounded {α : Type} (va : VarArgs α) (buf : Nat → UInt8) (len : Nat)
    (format : List UInt8) (ap : α) :
    BoundedView (output va format ap) len buf (vsnprintf va buf len format ap).1
      (vsnprintf va buf len format ap).2 :=
  vsnprintf_view va buf len format ap

def wordArgs : VarArgs (List (BitVec 32)) where
  word ap := (ap.headD 0#32, ap.tail)
  longlong ap := ((ap.headD 0#32).zeroExtend 64, ap.tail)
  string ap := (none, ap)

example : (List.range 11).map
    (vsnprintf wordArgs (fun _ => 7) 10 (text "[%5d|%-4x|%s]") [-42#32, 255#32]).1 =
      text "[  -42|ff" ++ [0, 7] := by
  decide +kernel

example : (vsnprintf wordArgs (fun _ => 7) 10 (text "[%5d|%-4x|%s]") [-42#32, 255#32]).2 =
    19#32 := by
  decide +kernel

end Os161.Printf
