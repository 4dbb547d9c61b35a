import Mathlib.Data.List.TakeWhile
import Os161.Printf.Theorems

-- userland/lib/libc/unix/execvp.c. Strings are the bytes before their NUL.

namespace Os161.Execvp

open Printf List

def PATH_MAX : Nat := 1024
def ENOEXEC : BitVec 32 := 13#32
def ENOTDIR : BitVec 32 := 17#32
def ENOENT : BitVec 32 := 19#32

def oneString : VarArgs (Option (List UInt8)) where
  word ap := (0#32, ap)
  longlong ap := (0#64, ap)
  string ap := (ap, none)

-- What execv finds in `progpath`, whose memory behind the component was `buf`.
def progpath (buf : Nat → UInt8) (prog dir : List UInt8) : List UInt8 :=
  let size := PATH_MAX - dir.length
  let buf := (vsnprintf oneString buf size (text "/%s") (some prog)).1
  dir ++ cstring ((List.range size).map buf)

structure Attempt where
  dir : List UInt8
  path : List UInt8

-- `execv n path` is how the call with number n ends: it does not return, or it fails.
variable (execv : Nat → List UInt8 → Option (BitVec 32))

-- The loop over the components: which of them are skipped, and the path made of the others.
def search (skip : List UInt8 → Bool) (path : List UInt8 → List UInt8) :
    List (List UInt8) → Nat → List Attempt × Option (BitVec 32)
  | [], _ => ([], some ENOENT)
  | dir :: dirs, n =>
    if skip dir then search skip path dirs n
    else match execv n (path dir) with
      | none => ([⟨dir, path dir⟩], none)
      | some errno =>
        if errno = ENOENT ∨ errno = ENOTDIR ∨ errno = ENOEXEC then
          let rest := search skip path dirs (n + 1)
          (⟨dir, path dir⟩ :: rest.1, rest.2)
        else ([⟨dir, path dir⟩], some errno)

def skipped (dir : List UInt8) : Bool := dir.length = 0 || PATH_MAX ≤ dir.length

-- What is handed to execv, and errno unless the last call has not returned.
def execvp (buf : Nat → UInt8) (searchpath : Option (List UInt8)) (prog : List UInt8) :
    List Attempt × Option (BitVec 32) :=
  if ch '/' ∈ prog then ([⟨[], prog⟩], execv 0 prog)
  else match searchpath with
    | none => ([], some ENOENT)
    | some path => search execv skipped (progpath buf prog) (path.splitOn (ch ':')) 0

def joined (prog dir : List UInt8) : List UInt8 := dir ++ ch '/' :: cstring prog

abbrev Fits (prog dir : List UInt8) : Prop := (joined prog dir).length < PATH_MAX

-- What is asked for: a component is skipped when it is empty or its full path does not fit.
def asked (searchpath : Option (List UInt8)) (prog : List UInt8) :
    List Attempt × Option (BitVec 32) :=
  match searchpath with
  | none => ([], some ENOENT)
  | some path =>
    search execv (fun dir => dir = [] || ¬ Fits prog dir) (joined prog) (path.splitOn (ch ':')) 0

lemma pfPrintstuff_plain (send : σ → List UInt8 → σ) (pf : Pf σ α)
    (stuff : List UInt8) (hspacing : pf.spacing = 0#32)
    (h : padding 0#32 (0 + 0 + (cstring stuff).length) = 0#32) :
    (pfPrintstuff send pf [] [] stuff).clientdata =
      send (send (send pf.clientdata []) []) (cstring stuff) := by
  have hpad : ∀ (pf : Pf σ α) here, pfPad send pf 0#32 here = pf := fun _ _ => if_neg (by simp)
  unfold pfPrintstuff
  dsimp only
  rw [hspacing, show padding 0#32 ((cstring []).length + (cstring []).length +
    (cstring stuff).length) = 0#32 from h]
  simp only [hpad]
  rfl

lemma output_slash (h : (cstring prog).length < PATH_MAX) :
    output oneString (text "/%s") (some prog) = ch '/' :: cstring prog := by
  have hformat : cstring (text "/%s") = [ch '/', ch '%', ch 's'] := by decide
  have hpad : padding 0#32 (0 + 0 + (cstring prog).length) = 0#32 := by
    have hpos : ¬ (BitVec.ofNat 32 (0 + 0 + (cstring prog).length)).slt 0#32 := by
      rw [BitVec.slt_iff_toInt_lt]
      unfold PATH_MAX at h
      rw [BitVec.toInt_eq_toNat_of_lt (by simp; omega)]
      simp only [BitVec.toInt_zero]
      omega
    exact if_neg hpos
  unfold output vprintf
  rw [hformat]
  simp +decide only [List.foldl, pfSend, pfStart, pfPrint, pfEndfield, oneString, ↓reduceIte]
  exact pfPrintstuff_plain _ _ prog rfl hpad

lemma progpath_fits (buf : Nat → UInt8) (h : Fits prog dir) :
    progpath buf prog dir = joined prog dir := by
  unfold Fits joined at h
  rw [length_append, length_cons] at h
  have hout := output_slash (show (cstring prog).length < PATH_MAX by omega)
  have hview := vsnprintf_view oneString buf (PATH_MAX - dir.length) (text "/%s") (some prog)
  rw [hout] at hview
  have hlt : (ch '/' :: cstring prog).length < PATH_MAX - dir.length := by
    rw [length_cons]
    omega
  have hpos : 0 < PATH_MAX - dir.length := by omega
  have hcopied := hview.copied hpos
  have hend := hview.terminated hpos
  rw [Nat.min_eq_right (by omega)] at hcopied hend
  unfold progpath joined
  dsimp only
  generalize (vsnprintf oneString buf (PATH_MAX - dir.length) (text "/%s") (some prog)).1 = b at *
  generalize PATH_MAX - dir.length = size at *
  generalize hgen : ch '/' :: cstring prog = out at *
  have hzero : ∀ c ∈ out, decide (c ≠ 0) = true := by
    rw [← hgen]
    intro c hc
    rcases mem_cons.mp hc with rfl | hc
    · decide
    rw [cstring] at hc
    have hne := mem_takeWhile_imp hc
    exact hne
  have hout : (List.range out.length).map b = out := by
    refine ext_getElem (by simp) fun i hi hi' => ?_
    rw [getElem_map, getElem_range, hcopied i hi', getD_eq_getElem _ _ hi']
  obtain ⟨k, rfl⟩ : ∃ k, size = out.length + (k + 1) := ⟨size - out.length - 1, by omega⟩
  rw [range_add, map_append, hout, cstring, takeWhile_append_of_pos hzero, range_succ_eq_map]
  simp [hend]

lemma search_kept (dirs : List (List UInt8)) (n : Nat) (a : Attempt)
    (ha : a ∈ (search execv skip path dirs n).1) : ¬ skip a.dir := by
  induction dirs generalizing n with
  | nil => cases ha
  | cons dir dirs ih =>
    rw [search] at ha
    split_ifs at ha with hskip
    · exact ih n ha
    cases hexec : execv n (path dir) with
    | none =>
      rw [hexec] at ha
      rwa [mem_singleton.mp ha]
    | some errno =>
      rw [hexec] at ha
      dsimp only at ha
      split_ifs at ha
      · rcases mem_cons.mp ha with rfl | ha
        · exact hskip
        · exact ih (n + 1) ha
      · rwa [mem_singleton.mp ha]

lemma search_head (hskip : ¬ skip dir) (dirs : List (List UInt8)) (n : Nat) :
    ⟨dir, path dir⟩ ∈ (search execv skip path (dir :: dirs) n).1 := by
  rw [search, if_neg hskip]
  cases execv n (path dir) with
  | none => exact mem_cons_self
  | some errno =>
    dsimp only
    split_ifs <;> exact mem_cons_self

-- execv has failed in a way that lets the search go on for the first `i` of `dirs`, which it is
-- asked for from its call `n` on.
def Passed (prog : List UInt8) (dirs : List (List UInt8)) (n i : Nat) : Prop :=
  ∀ j < i, execv (n + j) (joined prog (dirs.getD j [])) ∈
    [some ENOENT, some ENOTDIR, some ENOEXEC]

-- Each of `dirs` that the search gets to leaves room for the slash, the name and the NUL.
def Roomy (prog : List UInt8) (dirs : List (List UInt8)) (n : Nat) : Prop :=
  ∀ i < dirs.length, Passed execv prog dirs n i → Fits prog (dirs.getD i [])

lemma passed_succ : Passed execv prog (dir :: dirs) n (i + 1) ↔
    execv n (joined prog dir) ∈ [some ENOENT, some ENOTDIR, some ENOEXEC] ∧
      Passed execv prog dirs (n + 1) i := by
  unfold Passed
  rw [Nat.forall_lt_succ_left]
  refine and_congr Iff.rfl (forall₂_congr fun j _ => ?_)
  rw [Nat.add_right_comm]
  rfl

lemma roomy_cons : Roomy execv prog (dir :: dirs) n ↔ Fits prog dir ∧
    (execv n (joined prog dir) ∈ [some ENOENT, some ENOTDIR, some ENOEXEC] →
      Roomy execv prog dirs (n + 1)) := by
  unfold Roomy
  rw [length_cons, Nat.forall_lt_succ_left]
  refine and_congr ⟨fun h => h fun j hj => absurd hj (Nat.not_lt_zero j), fun h _ => h⟩
    ⟨fun h hgo i hi hp => h i hi ((passed_succ execv).mpr ⟨hgo, hp⟩), fun h i hi hp => ?_⟩
  obtain ⟨hgo, hp⟩ := (passed_succ execv).mp hp
  exact h hgo i hi hp

lemma search_iff (buf : Nat → UInt8) (prog : List UInt8) (dirs : List (List UInt8)) (n : Nat) :
    search execv skipped (progpath buf prog) dirs n =
      search execv (fun dir => dir = [] || ¬ Fits prog dir) (joined prog) dirs n ↔
    Roomy execv prog (dirs.filter (!skipped ·)) n := by
  induction dirs generalizing n with
  | nil => exact iff_of_true rfl fun i hi => absurd hi (Nat.not_lt_zero i)
  | cons dir dirs ih =>
    by_cases hskip : skipped dir
    · have hskip' : (dir = [] || ¬ Fits prog dir) = true := by
        simp only [skipped, Bool.or_eq_true, decide_eq_true_eq, length_eq_zero_iff] at hskip ⊢
        refine hskip.imp_right fun hlong hfits => ?_
        rw [Fits, joined, length_append] at hfits
        omega
      rw [search, if_pos hskip, search, if_pos hskip', filter_cons_of_neg (by simp [hskip])]
      exact ih n
    rw [filter_cons_of_pos (by simp [hskip]), roomy_cons]
    by_cases hfits : Fits prog dir
    swap
    · -- the component is tried although its full path does not fit
      refine iff_of_false (fun h => ?_) fun h => hfits h.1
      have htried : (⟨dir, progpath buf prog dir⟩ : Attempt) ∈
          (search execv _ (progpath buf prog) (dir :: dirs) n).1 := search_head execv hskip dirs n
      rw [h] at htried
      exact search_kept execv _ n _ htried (by simp [hfits])
    have hskip' : ¬ (dir = [] || ¬ Fits prog dir) = true := by
      simp only [skipped, Bool.or_eq_true, decide_eq_true_eq, length_eq_zero_iff] at hskip ⊢
      exact fun hor => hor.elim (fun hnil => hskip (.inl hnil)) fun hno => hno hfits
    rw [search, if_neg hskip, progpath_fits buf hfits, search, if_neg hskip']
    cases execv n (joined prog dir) with
    | none => simp [hfits]
    | some errno =>
      by_cases hgo : errno = ENOENT ∨ errno = ENOTDIR ∨ errno = ENOEXEC
      · simpa [hgo, hfits, Prod.ext_iff] using ih (n + 1)
      · simp [hgo, hfits]

-- The components of the search path that are not skipped at once.
def components (searchpath : Option (List UInt8)) : List (List UInt8) :=
  (searchpath.elim [] (·.splitOn (ch ':'))).filter (!skipped ·)

-- execvp runs what is asked for exactly when every component that the search gets to, going by
-- what execv answers for the full paths, leaves room in the buffer.
theorem execvp_runs_asked_iff (buf : Nat → UInt8) (searchpath : Option (List UInt8))
    (prog : List UInt8) (hprog : ch '/' ∉ prog) :
    execvp execv buf searchpath prog = asked execv searchpath prog ↔
      Roomy execv prog (components searchpath) 0 := by
  simp only [execvp, if_neg hprog]
  cases searchpath with
  | none => exact iff_of_true rfl fun i hi => absurd hi (Nat.not_lt_zero i)
  | some path => exact search_iff execv buf prog (path.splitOn (ch ':')) 0

-- Two components are tried, one empty one is skipped, and the last is never reached.
theorem execvp_runs_asked_second :
    execvp (fun n _ => if n = 0 then some ENOENT else none) (fun _ => 1)
        (some (text "/sbin::/bin:/usr/bin")) (text "ls") =
      ([⟨text "/sbin", text "/sbin/ls"⟩, ⟨text "/bin", text "/bin/ls"⟩], none) :=
  ((execvp_runs_asked_iff _ _ _ _ (by decide)).mpr fun i hi _ =>
    (show ∀ i < 3, Fits (text "ls") ((components (some (text "/sbin::/bin:/usr/bin"))).getD i [])
      by decide) i hi).trans rfl

-- With a component of 1022 bytes only the slash still fits, and the directory is handed over.
theorem execvp_truncates :
    (execvp (fun _ _ => none) (fun _ => 0) (some (List.replicate 1022 (ch 'd'))) (text "ls")).1.map
      Attempt.path = [List.replicate 1022 (ch 'd') ++ [ch '/']] := by
  decide +kernel

end Os161.Execvp
