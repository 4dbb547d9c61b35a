import Mathlib.Data.List.ReduceOption
import Os161.Lib.Hoare
import Os161.Semfs.Dir.Remove

-- The offset of a semfs directory counts bytes but is used as the number of a slot, so the names
-- that are found depend on where the lengths lead.

namespace Os161.Semfs

open Lib.Exec EStateM List Option
open Lib.Hoare (finalState)
open Vfs (Path)

variable {s t : Fs} {o r : Nat} {text : Path}

def Fs.nameOf (s : Fs) (a : Addr) : Option Path :=
  ((s.heap a).bind Object.asDent).bind fun d => (s.heap d.name).bind Object.asName

def Fs.slotNames (s : Fs) : List (Option Path) := s.dents.v.map fun slot => slot.bind s.nameOf

def Fs.liveNames (s : Fs) : List Path := s.slotNames.reduceOption

-- Each name leads to the next one: no other name starts before its length has been passed, and
-- there is a name or the end.
structure SpacedFrom (names : List (Option Path)) (o : Nat) : Prop where
  start : o < names.length → ∃ text, names[o]? = some (some text)
  step : ∀ i text, o ≤ i → names[i]? = some (some text) → text ≠ [] ∧
    (∀ j, i < j → j < i + text.length → ∀ other, names[j]? ≠ some (some other)) ∧
    (i + text.length < names.length → ∃ next, names[i + text.length]? = some (some next))

def Fs.Spaced (s : Fs) : Prop := SpacedFrom s.slotNames 0

def Fs.ListsAll (s : Fs) (room : Nat) : Prop :=
  ∃ fuel names, (listing fuel ⟨0, room⟩).run s = .ok names s ∧ names.Perm s.liveNames

section Call

lemma slotNames_getElem? (s : Fs) (i : Nat) :
    s.slotNames[i]? = s.dents.v[i]?.map fun slot => slot.bind s.nameOf := getElem?_map

lemma slotNames_length (s : Fs) : s.slotNames.length = s.dents.v.length := length_map ..

lemma semfsGetdirentry_end (hsmall : o < 0x100000000) (hend : s.slotNames.length ≤ o) :
    (semfsGetdirentry ⟨o, r⟩).run s = .ok ([], ⟨o, r⟩) s := by
  rw [slotNames_length] at hend
  rw [semfsGetdirentry, bind_run_ok (run_get s)]
  dsimp only
  rw [Nat.mod_eq_of_lt hsmall, if_pos hend]
  rfl

lemma arrayGet_run (h : arr.v[i]? = some x) :
    (arrayGet arr i).run s = .ok x s := by
  rw [arrayGet, h]
  rfl

lemma semfsGetdirentry_null (hs : Sound s) (hsmall : o < 0x100000000)
    (hslot : s.slotNames[o]? = some none) :
    (semfsGetdirentry ⟨o, r⟩).run s = .error .nullAccess s := by
  have hlt : o < s.dents.v.length := by
    rw [← slotNames_length]
    exact (List.getElem?_eq_some_iff.mp hslot).choose
  rw [slotNames_getElem?, getElem?_eq_getElem hlt, map_some, some_inj] at hslot
  rw [semfsGetdirentry, bind_run_ok (run_get s)]
  dsimp only
  rw [Nat.mod_eq_of_lt hsmall, if_neg (Nat.not_le_of_lt hlt),
    bind_run_ok (arrayGet_run (getElem?_eq_getElem hlt))]
  cases hget : s.dents.v[o] with
  | none => rfl
  | some a =>
    obtain ⟨d, text, hd, htext⟩ := hs.dentLive a (hget ▸ getElem_mem hlt)
    rw [hget, bind_some, Fs.nameOf, hd] at hslot
    simp [Object.asDent, Object.asName, htext] at hslot

lemma semfsGetdirentry_name (hs : Sound s) (hsmall : o < 0x100000000)
    (hslot : s.slotNames[o]? = some (some text)) (hroom : text.length ≤ r) :
    (semfsGetdirentry ⟨o, r⟩).run s = .ok (text, ⟨o + text.length, r - text.length⟩) s := by
  have hlt : o < s.dents.v.length := by
    rw [← slotNames_length]
    exact (List.getElem?_eq_some_iff.mp hslot).choose
  rw [slotNames_getElem?, getElem?_eq_getElem hlt, map_some, some_inj] at hslot
  rw [semfsGetdirentry, bind_run_ok (run_get s)]
  dsimp only
  rw [Nat.mod_eq_of_lt hsmall, if_neg (Nat.not_le_of_lt hlt),
    bind_run_ok (arrayGet_run (getElem?_eq_getElem hlt))]
  cases hget : s.dents.v[o] with
  | none =>
    rw [hget] at hslot
    cases hslot
  | some a =>
    obtain ⟨d, text', hd, htext⟩ := hs.dentLive a (hget ▸ getElem_mem hlt)
    have hsame : text' = text := by
      rw [hget, bind_some, Fs.nameOf, hd] at hslot
      simpa [Object.asDent, Object.asName, htext] using hslot
    subst hsame
    rw [deref, bind_run_ok (run_pure ..), bind_run_ok (load_dent hd),
      bind_run_ok (load_name htext), uiomove, Nat.min_eq_left hroom, take_length]
    rfl

end Call

section Walk

lemma listing_end (hsmall : o < 0x100000000) (hend : s.slotNames.length ≤ o) (fuel : Nat) :
    (listing (fuel + 1) ⟨o, r⟩).run s = .ok [] s := by
  rw [listing, bind_run_ok (semfsGetdirentry_end hsmall hend)]
  rfl

lemma listing_null (hs : Sound s) (hsmall : o < 0x100000000)
    (hslot : s.slotNames[o]? = some none) (fuel : Nat) :
    (listing (fuel + 1) ⟨o, r⟩).run s = .error .nullAccess s := by
  rw [listing, bind_run_error (semfsGetdirentry_null hs hsmall hslot)]

lemma listing_name (hs : Sound s) (hsmall : o < 0x100000000)
    (hslot : s.slotNames[o]? = some (some text)) (hroom : text.length ≤ r) (fuel : Nat) :
    (listing (fuel + 1) ⟨o, r⟩).run s =
      (if text = [] then pure [] else do
        let rest ← listing fuel ⟨o + text.length, r - text.length⟩
        pure (text :: rest) : Action (List Path)).run s := by
  rw [listing, bind_run_ok (semfsGetdirentry_name hs hsmall hslot hroom)]

variable {names : List (Option Path)}

lemma drop_eq_name (h : names[o]? = some (some text)) :
    names.drop o = some text :: names.drop (o + 1) := by
  obtain ⟨hlt, hget⟩ := List.getElem?_eq_some_iff.mp h
  rw [drop_eq_getElem_cons hlt, hget]

lemma reduceOption_after (names : List (Option Path)) (o : Nat) (htext : text ≠ []) :
    (names.drop (o + 1)).reduceOption =
      ((names.drop (o + 1)).take (text.length - 1)).reduceOption ++
        (names.drop (o + text.length)).reduceOption := by
  have hpos : 1 ≤ text.length := length_pos_of_ne_nil htext
  have hsplit : names.drop (o + text.length) = (names.drop (o + 1)).drop (text.length - 1) := by
    rw [drop_drop]
    congr 1
    omega
  rw [hsplit, ← reduceOption_append, take_append_drop]

lemma room_after (h : names[o]? = some (some text))
    (hroom : (names.drop o).reduceOption.flatten.length ≤ r) : text.length ≤ r ∧ (text ≠ [] →
      (names.drop (o + text.length)).reduceOption.flatten.length ≤ r - text.length) := by
  rw [drop_eq_name h, reduceOption_cons_of_some, flatten_cons, length_append]
    at hroom
  refine ⟨by omega, fun htext => ?_⟩
  rw [reduceOption_after names o htext, flatten_append, length_append] at hroom
  omega

lemma listing_sublist (hs : Sound s) :
    ∀ {o r : Nat} {found : List Path} {t : Fs},
    (s.slotNames.drop o).reduceOption.flatten.length ≤ r → o + r < 0x100000000 →
    (listing fuel ⟨o, r⟩).run s = .ok found t →
    found.Sublist (s.slotNames.drop o).reduceOption := by
  induction fuel with
  | zero =>
    intro o r found t _ _ hrun
    cases hrun
  | succ fuel ih =>
    intro o r found t hroom hsmall hrun
    by_cases hlt : o < s.slotNames.length
    swap
    · rw [listing_end (by omega) (Nat.le_of_not_lt hlt)] at hrun
      cases hrun
      exact nil_sublist _
    cases hslot : s.slotNames[o] with
    | none =>
      rw [listing_null hs (by omega) (by rw [getElem?_eq_getElem hlt, hslot])] at hrun
      cases hrun
    | some text =>
      have hget : s.slotNames[o]? = some (some text) := by rw [getElem?_eq_getElem hlt, hslot]
      obtain ⟨hfits, hrest⟩ := room_after hget hroom
      rw [listing_name hs (by omega) hget hfits] at hrun
      by_cases htext : text = []
      · rw [if_pos htext] at hrun
        cases hrun
        exact nil_sublist _
      rw [if_neg htext, bind_ok] at hrun
      obtain ⟨rest, u, hrun, hpure⟩ := hrun
      obtain ⟨rfl, -⟩ := pure_ok.mp hpure
      have hsub := ih (hrest htext) (by omega) hrun
      rw [drop_eq_name hget, reduceOption_cons_of_some, reduceOption_after _ _ htext]
      exact (hsub.trans (sublist_append_right ..)).cons_cons _

lemma listing_spaced (hs : Sound s) (left : Nat) : ∀ {o r : Nat}, s.slotNames.length - o ≤ left →
    SpacedFrom s.slotNames o → (s.slotNames.drop o).reduceOption.flatten.length ≤ r →
    o + r < 0x100000000 →
    (listing (left + 1) ⟨o, r⟩).run s = .ok (s.slotNames.drop o).reduceOption s := by
  induction left with
  | zero =>
    intro o r hleft _ _ hsmall
    rw [listing_end (by omega) (by omega), drop_eq_nil_of_le (by omega)]
    rfl
  | succ left ih =>
    intro o r hleft hspaced hroom hsmall
    by_cases hlt : o < s.slotNames.length
    swap
    · rw [listing_end (by omega) (by omega), drop_eq_nil_of_le (by omega)]
      rfl
    obtain ⟨text, hget⟩ := hspaced.start hlt
    obtain ⟨htext, hbetween, hnext⟩ := hspaced.step o text (Nat.le_refl o) hget
    obtain ⟨hfits, hrest⟩ := room_after hget hroom
    have hpos : 1 ≤ text.length := length_pos_of_ne_nil htext
    have hrec := ih (o := o + text.length) (r := r - text.length) (by omega)
      ⟨hnext, fun i other hi => hspaced.step i other (by omega)⟩ (hrest htext) (by omega)
    have hskip : ((s.slotNames.drop (o + 1)).take (text.length - 1)).reduceOption = [] := by
      rw [eq_nil_iff_forall_not_mem]
      intro other hmem
      obtain ⟨j, hj⟩ := mem_iff_getElem?.mp (reduceOption_mem_iff.mp hmem)
      rw [getElem?_take] at hj
      split at hj
      · rw [getElem?_drop] at hj
        exact hbetween (o + 1 + j) (by omega) (by omega) other hj
      · cases hj
    rw [listing_name hs (by omega) hget hfits, if_neg htext, bind_run_ok hrec, drop_eq_name hget,
      reduceOption_cons_of_some, reduceOption_after _ _ htext, hskip]
    rfl

lemma spaced_of_listing (hs : Sound s) :
    ∀ {o r : Nat} {found : List Path} {t : Fs},
    (s.slotNames.drop o).reduceOption.flatten.length ≤ r → o + r < 0x100000000 →
    (listing fuel ⟨o, r⟩).run s = .ok found t →
    found.Perm (s.slotNames.drop o).reduceOption → SpacedFrom s.slotNames o := by
  induction fuel with
  | zero =>
    intro o r found t _ _ hrun
    cases hrun
  | succ fuel ih =>
    intro o r found t hroom hsmall hrun hperm
    by_cases hlt : o < s.slotNames.length
    swap
    · refine ⟨fun h => absurd h hlt, fun i text hi hslot => ?_⟩
      have := (List.getElem?_eq_some_iff.mp hslot).choose
      omega
    cases hslot : s.slotNames[o] with
    | none =>
      rw [listing_null hs (by omega) (by rw [getElem?_eq_getElem hlt, hslot])] at hrun
      cases hrun
    | some text =>
      have hget : s.slotNames[o]? = some (some text) := by rw [getElem?_eq_getElem hlt, hslot]
      obtain ⟨hfits, hrest⟩ := room_after hget hroom
      rw [drop_eq_name hget, reduceOption_cons_of_some] at hperm
      rw [listing_name hs (by omega) hget hfits] at hrun
      by_cases htext : text = []
      · rw [if_pos htext] at hrun
        cases hrun
        exact absurd hperm.symm.eq_nil (by simp)
      rw [if_neg htext, bind_ok] at hrun
      obtain ⟨rest, u, hrun, hpure⟩ := hrun
      obtain ⟨rfl, -⟩ := pure_ok.mp hpure
      have hperm' := hperm.cons_inv
      have hsub := listing_sublist hs (hrest htext) (by omega) hrun
      -- as many names as there are after this one, all of them behind its length
      have hlength := hperm'.length_eq
      have hle := hsub.length_le
      rw [reduceOption_after _ _ htext, length_append] at hlength
      have hskip : ((s.slotNames.drop (o + 1)).take (text.length - 1)).reduceOption = [] :=
        eq_nil_of_length_eq_zero (by omega)
      rw [reduceOption_after _ _ htext, hskip, nil_append] at hperm'
      have hspaced := ih (hrest htext) (by omega) hrun hperm'
      have hbetween : ∀ j, o < j → j < o + text.length →
          ∀ other, s.slotNames[j]? ≠ some (some other) := by
        intro j hj hj' other hother
        have hmem :
            other ∈ ((s.slotNames.drop (o + 1)).take (text.length - 1)).reduceOption := by
          rw [reduceOption_mem_iff, mem_iff_getElem?]
          refine ⟨j - (o + 1), ?_⟩
          rw [getElem?_take_of_lt (by omega), getElem?_drop, ← hother]
          congr 1
          omega
        rw [hskip] at hmem
        cases hmem
      refine ⟨fun _ => ⟨text, hget⟩, fun i other hi hother => ?_⟩
      by_cases hio : i = o
      · subst hio
        rw [hget] at hother
        cases hother
        exact ⟨htext, hbetween, hspaced.start⟩
      by_cases hjump : i < o + text.length
      · exact absurd hother (hbetween i (by omega) hjump other)
      · exact hspaced.step i other (by omega) hother

end Walk

lemma listsAll_iff (hs : Sound s) (hsize : room < 0x100000000)
    (hroom : s.liveNames.flatten.length ≤ room) : s.ListsAll room ↔ s.Spaced := by
  have hroom' : (s.slotNames.drop 0).reduceOption.flatten.length ≤ room := hroom
  constructor
  · rintro ⟨fuel, names, hrun, hperm⟩
    exact spaced_of_listing hs hroom' (by omega) hrun hperm
  · intro hspaced
    exact ⟨_, _, listing_spaced hs _ (Nat.le_refl _) hspaced hroom' (by omega), List.Perm.refl _⟩

-- After every sequence of calls on a new semfs, the listing is right exactly when the names lead
-- to each other. `uio_resid` has 32 bits.
theorem listing_iff (fails : Nat → Bool) (ops : List DirOp) {room : Nat}
    (hsize : room < 0x100000000) :
    ∃ s, (dirRun fails ops).run emptySemfs = .ok () s ∧
      (s.liveNames.flatten.length ≤ room → (s.ListsAll room ↔ s.Spaced)) := by
  obtain ⟨s, hrun, hs⟩ := @dirRun_sound emptySemfs fails emptySemfs_sound ops
  exact ⟨s, hrun, listsAll_iff hs hsize⟩

theorem listing_iff_single :
    ∃ s, (dirRun (fun _ => false) [.creat ['a'] true, .creat ['b'] true]).run emptySemfs =
        .ok () s ∧
      s.liveNames = [['a'], ['b']] ∧ (s.ListsAll 2 ↔ s.Spaced) := by
  obtain ⟨s, hrun, hiff⟩ := listing_iff (fun _ => false) [.creat ['a'] true, .creat ['b'] true]
    (show 2 < 0x100000000 by decide)
  have hnames : (finalState ((dirRun (fun _ => false) [.creat ['a'] true, .creat ['b'] true]).run
      emptySemfs)).liveNames = [['a'], ['b']] := by decide +kernel
  rw [hrun, finalState] at hnames
  have hroom : s.liveNames.flatten.length ≤ 2 := by
    rw [hnames]
    decide
  exact ⟨s, hrun, hnames, hiff hroom⟩

-- With "ab" in slot 0 and "c" in slot 1, the offset after the first call is past both. With "a"
-- removed from slot 0, the first call follows a NULL pointer.
theorem listing_wrong :
    (∃ s, (dirRun (fun _ => false) [.creat ['a', 'b'] true, .creat ['c'] true]).run emptySemfs =
        .ok () s ∧ s.liveNames = [['a', 'b'], ['c']] ∧ ¬ s.ListsAll 3) ∧
    ∃ s, (dirRun (fun _ => false)
        [.creat ['a'] true, .creat ['b'] true, .remove ['a']]).run emptySemfs = .ok () s ∧
      s.liveNames = [['b']] ∧
      ∀ fuel, (listing (fuel + 1) ⟨0, 1⟩).run s = .error .nullAccess s := by
  constructor
  · obtain ⟨s, hrun, hs⟩ := @dirRun_sound emptySemfs (fun _ => false) emptySemfs_sound
      [.creat ['a', 'b'] true, .creat ['c'] true]
    have hnames : (finalState ((dirRun (fun _ => false)
        [.creat ['a', 'b'] true, .creat ['c'] true]).run emptySemfs)).slotNames =
        [some ['a', 'b'], some ['c']] := by decide +kernel
    rw [hrun, finalState] at hnames
    have hlive : s.liveNames = [['a', 'b'], ['c']] := by
      rw [Fs.liveNames, hnames]
      rfl
    refine ⟨s, hrun, hlive, ?_⟩
    rw [listsAll_iff hs (by decide) (by rw [hlive]; decide), Fs.Spaced, hnames]
    intro hspaced
    exact (hspaced.step 0 ['a', 'b'] (Nat.le_refl 0) rfl).2.1 1 (by decide) (by decide) ['c'] rfl
  obtain ⟨s, hrun, hs⟩ := @dirRun_sound emptySemfs (fun _ => false) emptySemfs_sound
    [.creat ['a'] true, .creat ['b'] true, .remove ['a']]
  have hnames : (finalState ((dirRun (fun _ => false)
      [.creat ['a'] true, .creat ['b'] true, .remove ['a']]).run emptySemfs)).slotNames =
      [none, some ['b']] := by decide +kernel
  rw [hrun, finalState] at hnames
  refine ⟨s, hrun, by rw [Fs.liveNames, hnames]; rfl, fun fuel => ?_⟩
  exact listing_null hs (by decide) (by rw [hnames]; rfl) fuel

end Os161.Semfs
