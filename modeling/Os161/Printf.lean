import Mathlib.Tactic.Common

namespace Os161.Printf

def ch (c : Char) : UInt8 := UInt8.ofNat c.toNat

def text (s : String) : List UInt8 := s.toList.map ch

-- What strlen and the functions that use it see of a string.
def cstring (s : List UInt8) : List UInt8 := s.takeWhile (· ≠ 0)

-- How va_arg takes values out of a va_list. On this machine int, long, size_t, their unsigned
-- forms and pointers to void are all one word. A string is NULL or the bytes it points to.
structure VarArgs (α : Type) where
  word : α → BitVec 32 × α
  longlong : α → BitVec 64 × α
  string : α → Option (List UInt8) × α

inductive IntSize where
  | INTSZ | LONGSZ | LLONGSZ | SIZETSZ
  deriving DecidableEq, Repr

structure Pf (σ α : Type) where
  clientdata : σ
  ap : α
  charcount : BitVec 32
  inPct : Bool
  size : IntSize
  num : BitVec 64
  sign : Bool
  spacing : BitVec 32
  rightspc : Bool
  fillchar : UInt8
  base : Nat
  baseprefix : Bool
  altformat : Bool

section Formatter

variable {σ α : Type}

def pfPrint (send : σ → List UInt8 → σ) (pf : Pf σ α) (txt : List UInt8) : Pf σ α :=
  { pf with
    clientdata := send pf.clientdata txt
    charcount := pf.charcount + BitVec.ofNat 32 txt.length }

def pfEndfield (pf : Pf σ α) : Pf σ α :=
  { pf with
    inPct := false
    size := .INTSZ
    num := 0#64
    sign := false
    spacing := 0#32
    rightspc := false
    fillchar := ch ' '
    base := 0
    baseprefix := false
    altformat := false }

-- Two asserts are left out: __pf_send passes on only digits to the last case here, and the loop
-- over the format ends at the NUL that __pf_send may not get.
def pfModifier (pf : Pf σ α) (c : UInt8) : Pf σ α :=
  if c = ch '#' then { pf with altformat := true }
  else if c = ch '-' then { pf with rightspc := true }
  else if c = ch 'l' then
    { pf with size := if pf.size = .LONGSZ then .LLONGSZ else .LONGSZ }
  else if c = ch 'z' then { pf with size := .SIZETSZ }
  else if c = ch '0' then
    if 0 < pf.spacing.toInt then { pf with spacing := pf.spacing * 10#32 }
    else { pf with fillchar := ch '0' }
  else { pf with spacing := pf.spacing * 10#32 + BitVec.ofNat 32 (c - ch '0').toNat }

def vaNumber (va : VarArgs α) (size : IntSize) (extend : BitVec 32 → BitVec 64) (ap : α) :
    BitVec 64 × α :=
  if size = .LLONGSZ then va.longlong ap else ((extend (va.word ap).1), (va.word ap).2)

def pfGetnum (va : VarArgs α) (pf : Pf σ α) (c : UInt8) : Pf σ α :=
  if c = ch 'p' then
    { pf with
      num := (va.word pf.ap).1.zeroExtend 64
      ap := (va.word pf.ap).2 }
  else if c = ch 'd' then
    let (signednum, ap) := vaNumber va pf.size (BitVec.signExtend 64) pf.ap
    if signednum.toInt < 0 then { pf with sign := true, num := -signednum, ap := ap }
    else { pf with num := signednum, ap := ap }
  else
    let (num, ap) := vaNumber va pf.size (BitVec.zeroExtend 64) pf.ap
    { pf with num := num, ap := ap }

def pfSetbase (pf : Pf σ α) (c : UInt8) : Pf σ α :=
  { pf with
    base :=
      if c = ch 'd' ∨ c = ch 'u' then 10
      else if c = ch 'x' ∨ c = ch 'p' then 16
      else if c = ch 'o' then 8
      else pf.base
    baseprefix := pf.altformat || c = ch 'p' || pf.baseprefix }

def pfFill (send : σ → List UInt8 → σ) (pf : Pf σ α) : Nat → Pf σ α
  | 0 => pf
  | spc + 1 => pfFill send (pfPrint send pf [pf.fillchar]) spc

def padding (spacing : BitVec 32) (len : Nat) : BitVec 32 :=
  if (BitVec.ofNat 32 len).slt spacing then spacing - BitVec.ofNat 32 len else 0#32

def pfPad (send : σ → List UInt8 → σ) (pf : Pf σ α) (spc : BitVec 32) (here : Bool) : Pf σ α :=
  if 0 < spc.toInt ∧ here then pfFill send pf spc.toInt.toNat else pf

def pfPrintstuff (send : σ → List UInt8 → σ) (pf : Pf σ α) (pre pre2 stuff : List UInt8) :
    Pf σ α :=
  let spc := padding pf.spacing
    ((cstring pre).length + (cstring pre2).length + (cstring stuff).length)
  let right := pf.rightspc
  let zeros := pf.fillchar = ch '0'
  let pf := pfPad send pf spc (!right && !zeros)
  let pf := pfPrint send pf (cstring pre)
  let pf := pfPrint send pf (cstring pre2)
  let pf := pfPad send pf spc (!right && zeros)
  let pf := pfPrint send pf (cstring stuff)
  pfPad send pf spc right

def digits : List UInt8 := text "0123456789abcdef"

-- The loop of __pf_printnum, from the last digit to the first. The base is 8, 10 or 16 when it
-- is reached; for a smaller base the loop would not end.
def pfDigits (base xnum : Nat) (done : List UInt8) : List UInt8 :=
  if _h : 1 < base ∧ 0 < xnum / base then
    pfDigits base (xnum / base) (digits.getD (xnum % base) 0 :: done)
  else digits.getD (xnum % base) 0 :: done
  termination_by xnum
  decreasing_by exact Nat.div_lt_self (Nat.pos_of_div_pos _h.2) _h.1

def pfPrintnum (send : σ → List UInt8 → σ) (pf : Pf σ α) : Pf σ α :=
  let bprefix :=
    if pf.baseprefix ∧ pf.base = 16 then text "0x"
    else if pf.baseprefix ∧ pf.base = 8 then text "0"
    else []
  let sprefix := if pf.sign then text "-" else []
  pfPrintstuff send pf sprefix bprefix (pfDigits pf.base pf.num.toNat [])

def modifiers : List UInt8 := text "#-lz0123456789"

def integerTypes : List UInt8 := text "doupx"

def pfSend (send : σ → List UInt8 → σ) (va : VarArgs α) (pf : Pf σ α) (c : UInt8) : Pf σ α :=
  if pf.inPct = false ∧ c ≠ ch '%' then pfPrint send pf [c]
  else if pf.inPct = false then { pf with inPct := true }
  else if c ∈ modifiers then pfModifier pf c
  else if c ∈ integerTypes then
    pfEndfield (pfPrintnum send (pfSetbase (pfGetnum va pf c) c))
  else if c = ch 's' then
    let (str, ap) := va.string pf.ap
    pfEndfield (pfPrintstuff send { pf with ap := ap } [] [] (str.getD (text "(null)")))
  else if c = ch 'c' then
    let (x, ap) := va.word pf.ap
    pfEndfield (pfPrintstuff send { pf with ap := ap } [] [] [UInt8.ofNat x.toNat])
  else pfEndfield (pfPrintstuff send pf [] [] [c])

def pfStart (clientdata : σ) (ap : α) : Pf σ α :=
  ⟨clientdata, ap, 0#32, false, .INTSZ, 0#64, false, 0#32, false, ch ' ', 0, false, false⟩

def vprintf (send : σ → List UInt8 → σ) (va : VarArgs α) (clientdata : σ) (format : List UInt8)
    (ap : α) : σ × BitVec 32 :=
  let pf := (cstring format).foldl (pfSend send va) (pfStart clientdata ap)
  (pf.clientdata, pf.charcount)

end Formatter

structure Snp where
  buf : Nat → UInt8
  buflen : Nat
  bufpos : Nat

def Snp.put (snp : Snp) (c : UInt8) : Snp :=
  if snp.bufpos < snp.buflen then
    { snp with
      buf := Function.update snp.buf snp.bufpos c
      bufpos := snp.bufpos + 1 }
  else snp

def snprintfSend (snp : Snp) (data : List UInt8) : Snp := data.foldl Snp.put snp

def vsnprintf {α : Type} (va : VarArgs α) (buf : Nat → UInt8) (len : Nat) (format : List UInt8)
    (ap : α) : (Nat → UInt8) × BitVec 32 :=
  let start : Snp := ⟨buf, if len = 0 then 0 else len - 1, 0⟩
  let (snp, chars) := vprintf snprintfSend va start format ap
  (if 0 < len then Function.update snp.buf snp.bufpos 0 else snp.buf, chars)

end Os161.Printf
