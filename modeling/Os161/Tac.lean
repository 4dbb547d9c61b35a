import Mathlib.Data.List.SplitBy
import Mathlib.Tactic.Common

-- userland/bin/tac/tac.c. A file is what the calls of read return for it; the scratch files
-- are the bytes and the entries written to them. Opening and removing files succeeds.

namespace Os161.Tac

open List

inductive Stop where
  | assertion
  | shortRead
  deriving DecidableEq, Repr

structure IndexEntry where
  pos : Nat
  len : Nat
  deriving DecidableEq, Repr

def sizeofBuf : Nat := 4096

structure Scratch where
  data : List UInt8
  index : List IndexEntry

def newline : UInt8 := 10

-- The loop over one buffer, with the entries it writes. `here` bytes have been searched by
-- memchr since the last newline.
def scan (x : IndexEntry) (here : Nat) : List UInt8 → IndexEntry × List IndexEntry
  | [] => ({ x with len := x.len + here }, [])
  | ch :: s =>
    if ch = newline then
      let entry : IndexEntry := { x with len := x.len + (here + 1) }
      let (x, entries) := scan ⟨entry.pos + entry.len, 0⟩ 0 s
      (x, entry :: entries)
    else scan x (here + 1) s

def readLoop (x : IndexEntry) (scratch : Scratch) : List (List UInt8) → IndexEntry × Scratch
  | [] => (x, scratch)
  | buf :: reads =>
    if buf.length = 0 then (x, scratch)
    else
      let (x, entries) := scan x 0 buf
      readLoop x ⟨scratch.data ++ buf, scratch.index ++ entries⟩ reads

def readfile (scratch : Scratch) (reads : List (List UInt8)) : Scratch :=
  let (x, scratch) := readLoop ⟨0, 0⟩ scratch reads
  if 0 < x.len then { scratch with index := scratch.index ++ [x] } else scratch

-- The loop that copies one line to stdout, `done` bytes of which have been written.
def dumpLine (data : List UInt8) (x : IndexEntry) : Nat → Nat → Except Stop (List UInt8)
  | 0, _ => .ok []
  | fuel + 1, done =>
    if done < x.len then
      let amount := min sizeofBuf (x.len - done)
      let buf := (data.drop (x.pos + done)).take amount
      if buf.length ≠ amount then .error .shortRead
      else do
        let rest ← dumpLine data x fuel (done + amount)
        pure (buf ++ rest)
    else .ok []

-- The loop of dumpdata with `pos` at the end of the first `n` entries.
def dumpLoop (scratch : Scratch) : Nat → Except Stop (List UInt8)
  | 0 => .error .assertion
  | n + 1 =>
    if n = 0 then .ok []
    else match scratch.index[n]? with
      | none => .error .shortRead
      | some x => do
        let line ← dumpLine scratch.data x (x.len + 1) 0
        let rest ← dumpLoop scratch n
        pure (line ++ rest)

def dumpdata (scratch : Scratch) : Except Stop (List UInt8) :=
  dumpLoop scratch scratch.index.length

def tac (files : List (List (List UInt8))) : Except Stop (List UInt8) :=
  dumpdata (files.foldl readfile ⟨[], []⟩)

-- What tac is for.
def contents (reads : List (List UInt8)) : List UInt8 :=
  (reads.takeWhile fun buf => buf.length ≠ 0).flatten

def lines (s : List UInt8) : List (List UInt8) := s.splitBy fun ch _ => ch ≠ newline

def reversed (files : List (List (List UInt8))) : List UInt8 :=
  (lines (files.flatMap contents)).reverse.flatten

lemma reversed_length (files : List (List (List UInt8))) :
    (reversed files).length = (files.flatMap contents).length := by
  have hperm : (reversed files).Perm (lines (files.flatMap contents)).flatten :=
    (reverse_perm _).flatten
  rw [hperm.length_eq, lines, flatten_splitBy]

def total : List IndexEntry → Nat
  | [] => 0
  | x :: index => x.len + total index

lemma total_append (a b : List IndexEntry) : total (a ++ b) = total a + total b := by
  induction a with
  | nil => exact (Nat.zero_add _).symm
  | cons x a ih => rw [cons_append, total, total, ih, Nat.add_assoc]

-- Every byte that is scanned is in an entry or in the line that has not ended.
lemma scan_spec (s : List UInt8) (x : IndexEntry) (here : Nat) :
    total (scan x here s).2 + (scan x here s).1.len = x.len + here + s.length ∧
      ∀ y ∈ (scan x here s).2, 0 < y.len := by
  induction s generalizing x here with
  | nil => simp [scan, total]
  | cons ch s ih =>
    rw [scan]
    split_ifs
    · obtain ⟨hsum, hpos⟩ := ih ⟨x.pos + (x.len + (here + 1)), 0⟩ 0
      refine ⟨?_, fun y hy => ?_⟩
      · simp only [total, length_cons] at hsum ⊢
        omega
      rcases mem_cons.mp hy with rfl | hy
      · exact Nat.lt_add_left _ (Nat.succ_pos here)
      · exact hpos y hy
    obtain ⟨hsum, hpos⟩ := ih x (here + 1)
    refine ⟨?_, hpos⟩
    rw [hsum, length_cons]
    omega

structure Indexed (scratch : Scratch) (bytes : Nat) : Prop where
  sum : total scratch.index = bytes
  pos : ∀ x ∈ scratch.index, 0 < x.len

lemma readLoop_spec (reads : List (List UInt8)) (x : IndexEntry) (scratch : Scratch)
    (h : Indexed scratch bytes) :
    ∃ more, Indexed (readLoop x scratch reads).2 (bytes + more) ∧
      more + (readLoop x scratch reads).1.len = x.len + (contents reads).length := by
  induction reads generalizing x scratch bytes with
  | nil => exact ⟨0, h, by simp [readLoop, contents]⟩
  | cons buf reads ih =>
    rw [readLoop]
    split_ifs with hempty
    · obtain rfl := length_eq_zero_iff.mp hempty
      exact ⟨0, h, by simp [contents]⟩
    obtain ⟨hsum, hpos⟩ := scan_spec buf x 0
    have hnext : Indexed ⟨scratch.data ++ buf, scratch.index ++ (scan x 0 buf).2⟩
        (bytes + total (scan x 0 buf).2) := by
      refine ⟨by rw [total_append, h.sum], fun y hy => ?_⟩
      rcases mem_append.mp hy with hy | hy
      · exact h.pos y hy
      · exact hpos y hy
    obtain ⟨more, hindexed, hmore⟩ := ih (scan x 0 buf).1 _ hnext
    refine ⟨total (scan x 0 buf).2 + more, by rwa [← Nat.add_assoc], ?_⟩
    have hcontents : (contents (buf :: reads)).length = buf.length + (contents reads).length := by
      rw [contents, takeWhile_cons_of_pos (by simpa using hempty), flatten_cons,
        length_append, contents]
    rw [hcontents]
    dsimp only
    omega

lemma readfile_spec (h : Indexed scratch bytes)
    (reads : List (List UInt8)) :
    Indexed (readfile scratch reads) (bytes + (contents reads).length) := by
  obtain ⟨more, hindexed, hmore⟩ := readLoop_spec reads ⟨0, 0⟩ scratch h
  rw [readfile]
  dsimp only at hmore ⊢
  split_ifs with hlast
  · refine ⟨?_, fun y hy => ?_⟩
    · rw [total_append, hindexed.sum, total, total]
      omega
    rcases mem_append.mp hy with hy | hy
    · exact hindexed.pos y hy
    · rw [mem_singleton.mp hy]
      exact hlast
  · have hall : more = (contents reads).length := by omega
    exact hall ▸ hindexed

lemma files_spec (files : List (List (List UInt8)))
    (h : Indexed scratch bytes) :
    Indexed (files.foldl readfile scratch) (bytes + (files.flatMap contents).length) := by
  induction files generalizing scratch bytes with
  | nil => exact h
  | cons reads files ih =>
    rw [foldl_cons, flatMap_cons, length_append, ← Nat.add_assoc]
    exact ih (readfile_spec h reads)

lemma bind_eq_ok {f : α → Except Stop β} :
    (x >>= f) = .ok b ↔ ∃ a, x = .ok a ∧ f a = .ok b := by
  cases x with
  | error e => simp [bind, Except.bind]
  | ok a => simp [bind, Except.bind]

lemma dumpLine_length (data : List UInt8) (x : IndexEntry) (fuel done : Nat)
    (hfuel : x.len - done < fuel) (h : dumpLine data x fuel done = .ok out) :
    out.length = x.len - done := by
  induction fuel generalizing done out with
  | zero => omega
  | succ fuel ih =>
    rw [dumpLine] at h
    dsimp only at h
    split_ifs at h with hlt hshort
    · have hbuf : 0 < sizeofBuf := by decide
      obtain ⟨rest, hrest, hout⟩ := bind_eq_ok.mp h
      cases hout
      have hlen := ih _ (by omega) hrest
      rw [length_append, hlen, not_not.mp hshort]
      omega
    cases h
    simp only [length_nil]
    omega

-- The first entry is never read.
lemma dumpLoop_length (scratch : Scratch) (n : Nat) (hn : n ≤ scratch.index.length)
    (h : dumpLoop scratch n = .ok out) :
    ∃ x rest, scratch.index.take n = x :: rest ∧ out.length = total rest := by
  induction n generalizing out with
  | zero => cases h
  | succ n ih =>
    rw [dumpLoop] at h
    have htake := take_succ_eq_append_getElem (show n < scratch.index.length from hn)
    split_ifs at h with hzero
    · subst hzero
      cases h
      exact ⟨scratch.index[0], [], by simpa using htake, rfl⟩
    rw [getElem?_eq_getElem hn] at h
    obtain ⟨line, hline, h⟩ := bind_eq_ok.mp h
    obtain ⟨before, hbefore, hout⟩ := bind_eq_ok.mp h
    cases hout
    obtain ⟨x, rest, hx, hlength⟩ := ih (by omega) hbefore
    have hlen := dumpLine_length _ _ _ _ (by omega) hline
    refine ⟨x, rest ++ [scratch.index[n]], by rw [htake, hx, cons_append], ?_⟩
    rw [length_append, hlen, hlength, total_append]
    simp [total, Nat.add_comm]

-- Whatever the files, what is written is not the lines in reverse order: the first line is
-- missing, and when there is none the assertion fails.
theorem tac_never_reverses (files : List (List (List UInt8))) :
    tac files ≠ .ok (reversed files) := by
  intro h
  have hempty : Indexed ⟨[], []⟩ 0 := ⟨rfl, fun x hx => by cases hx⟩
  have hindexed := files_spec files hempty
  obtain ⟨x, rest, htake, hout⟩ := dumpLoop_length _ _ (Nat.le_refl _) h
  rw [take_length] at htake
  have hx := hindexed.pos x (htake ▸ mem_cons_self)
  have hsum := hindexed.sum
  rw [htake, total] at hsum
  rw [reversed_length] at hout
  omega

theorem tac_drops_first : tac [[[97, 10, 98, 10]]] = .ok [98, 10] ∧
    reversed [[[97, 10, 98, 10]]] = [98, 10, 97, 10] ∧ tac [[]] = .error .assertion := by
  decide

end Os161.Tac
