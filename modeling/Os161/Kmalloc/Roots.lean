import Os161.Kmalloc
import Os161.Lib.Count

namespace Os161.Kmalloc

open Function Lib.Count BitVec EStateM
open Lib.Exec
open Vm Kheap KheapRoot

variable {root : KheapRoot} {j : Nat}

lemma getLsbD_bit (i j : Nat) (hi : i < 32) : (1#32 <<< j).getLsbD i = decide (i = j) := by
  rw [getLsbD_shiftLeft, getLsbD_one]
  by_cases hij : i = j
  · simp [hij, hij ▸ hi]
  by_cases hlt : i < j
  · simp [hlt, hij]
  · simp [hlt, hij, hi]
    omega

variable {p : Nat} {roots : Nat → KheapRoot}

lemma getLsbD_set (w : Word) (j : Nat) (hi : i < 32) :
    (w ||| 1#32 <<< j).getLsbD i = (w.getLsbD i || decide (i = j)) := by
  rw [getLsbD_or, getLsbD_bit i j hi]

lemma getLsbD_clear (w : Word) (j : Nat) (hi : i < 32) :
    (w &&& ~~~(1#32 <<< j)).getLsbD i = (w.getLsbD i && !decide (i = j)) := by
  rw [getLsbD_and, getLsbD_not, getLsbD_bit i j hi]
  simp [hi]

lemma inuse_eq (root : KheapRoot) (i : Nat) :
    root.inuse i = (root.pagerefsInuse[i / 32]?.getD 0).getLsbD (i % 32) := by
  rw [inuse, List.getD_eq_getElem?_getD]

@[simp] lemma take_page (root : KheapRoot) (j : Nat) : (root.take j).page = root.page := rfl

@[simp] lemma release_page (root : KheapRoot) (j : Nat) : (root.release j).page = root.page :=
  rfl

lemma inuse_take (hwords : root.pagerefsInuse.length = 8) (hj : j < 256) :
    (root.take j).inuse = update root.inuse j true := by
  funext i
  have hlt : i % 32 < 32 := Nat.mod_lt i (by omega)
  rw [inuse_eq, take, List.getElem?_modify]
  by_cases hij : i = j
  · subst hij
    have hlt' : i / 32 < root.pagerefsInuse.length := by omega
    simp only [List.getElem?_eq_getElem hlt', if_true, Option.map_eq_map, Option.map_some,
      Option.getD_some, getLsbD_set _ _ hlt, decide_true, Bool.or_true, update_self]
  rw [update_of_ne hij, inuse_eq]
  by_cases hword : j / 32 = i / 32
  · have hne : i % 32 ≠ j % 32 := by omega
    cases hget : root.pagerefsInuse[i / 32]? with
    | none => rfl
    | some w =>
      simp only [hword, if_true, Option.map_eq_map, Option.map_some, Option.getD_some,
        getLsbD_set _ _ hlt, decide_eq_false hne, Bool.or_false]
  · simp only [hword, if_false, Option.map_eq_map, Option.map_id_fun', id_eq]

lemma inuse_release (root : KheapRoot) (j : Nat) :
    (root.release j).inuse = update root.inuse j false := by
  funext i
  have hlt : i % 32 < 32 := Nat.mod_lt i (by omega)
  rw [inuse_eq, release, List.getElem?_modify]
  by_cases hij : i = j
  · subst hij
    rw [update_self]
    cases hget : root.pagerefsInuse[i / 32]? with
    | none => simp
    | some w =>
      simp only [if_true, Option.map_eq_map, Option.map_some, Option.getD_some,
        getLsbD_clear _ _ hlt, decide_true, Bool.not_true, Bool.and_false]
  rw [update_of_ne hij, inuse_eq]
  by_cases hword : j / 32 = i / 32
  · have hne : i % 32 ≠ j % 32 := by omega
    cases hget : root.pagerefsInuse[i / 32]? with
    | none => rfl
    | some w =>
      simp only [hword, if_true, Option.map_eq_map, Option.map_some, Option.getD_some,
        getLsbD_clear _ _ hlt, decide_eq_false hne, Bool.not_false, Bool.and_true]
  · simp only [hword, if_false, Option.map_eq_map, Option.map_id_fun', id_eq]

lemma findClear_some (hwords : root.pagerefsInuse.length = 8) (h : findClear root = some j) :
    j < 256 ∧ root.inuse j = false := by
  rw [findClear] at h
  cases hword : root.pagerefsInuse.findIdx? (· ≠ 0xffffffff#32) with
  | none =>
    rw [hword] at h
    cases h
  | some i =>
    obtain ⟨hi, -⟩ := List.findIdx?_eq_some_iff_getElem.mp hword
    simp only [hword, Option.map_eq_some_iff] at h
    obtain ⟨k, hk, rfl⟩ := h
    have hk32 := List.mem_of_find?_eq_some hk
    have hclear := List.find?_some hk
    rw [List.mem_range] at hk32
    exact ⟨by omega, by simpa using hclear⟩

lemma findClear_ne_none (hany : root.pagerefsInuse.any (· ≠ 0xffffffff#32) = true) :
    findClear root ≠ none := by
  rw [findClear]
  cases hword : root.pagerefsInuse.findIdx? (· ≠ 0xffffffff#32) with
  | none =>
    obtain ⟨w, hw, hne⟩ := List.any_eq_true.mp hany
    have hfull := List.findIdx?_eq_none_iff.mp hword w hw
    rw [hne] at hfull
    cases hfull
  | some i =>
    obtain ⟨hi, hne, -⟩ := List.findIdx?_eq_some_iff_getElem.mp hword
    intro hnone
    have hset : ∀ k < 32, root.inuse (i * 32 + k) = true := by simpa using hnone
    refine of_decide_eq_true hne (eq_of_getLsbD_eq fun k hk => ?_)
    have hbit := hset k hk
    rw [inuse_eq, show (i * 32 + k) / 32 = i by omega, show (i * 32 + k) % 32 = k by omega,
      List.getElem?_eq_getElem hi, Option.getD_some] at hbit
    rw [hbit, show (0xffffffff#32) = BitVec.allOnes 32 from rfl, getLsbD_allOnes, decide_eq_true hk]

-- The roots as the search for pagerefs needs them: each bitmap has its eight words, and
-- numinuse counts the bits that are set.
structure Rooted (roots : Nat → KheapRoot) : Prop where
  words : ∀ w < NUM_PAGEREFPAGES, (roots w).pagerefsInuse.length = 8
  counted : ∀ w < NUM_PAGEREFPAGES,
    (roots w).numinuse = count (Finset.range NPAGEREFS_PER_PAGE) (· = true) (roots w).inuse

variable {s : Kheap} {w : Nat}

section

variable (h : Rooted roots) (hw : w < NUM_PAGEREFPAGES) (hj : j < NPAGEREFS_PER_PAGE)

include h hw hj

lemma Rooted.take (hclear : (roots w).inuse j = false) (page : Nat) :
    Rooted (update roots w { (roots w).take j with page := page }) := by
  refine ⟨fun v hv => ?_, fun v hv => ?_⟩
  · by_cases hvw : v = w
    · subst hvw
      simp [take, h.words v hv]
    · simpa [hvw] using h.words v hv
  by_cases hvw : v = w
  · subst hvw
    have hinuse : ({ (roots v).take j with page := page } : KheapRoot).inuse =
        update (roots v).inuse j true := inuse_take (h.words v hv) hj
    have hcount := count_update (f := (roots v).inuse) (q := (· = true))
      (Finset.mem_range.mpr hj) true
    rw [update_self, hinuse]
    simp only [hclear, Bool.false_eq_true, if_false, if_true] at hcount
    simp only [take, h.counted v hv]
    omega
  · rw [update_of_ne hvw]
    exact h.counted v hv

lemma Rooted.release (hset : (roots w).inuse j = true) :
    0 < (roots w).numinuse ∧ Rooted (update roots w ((roots w).release j)) := by
  have hcount := count_update (f := (roots w).inuse) (q := (· = true))
    (Finset.mem_range.mpr hj) false
  simp only [hset, Bool.false_eq_true, if_false, if_true] at hcount
  have hnum := h.counted w hw
  refine ⟨by omega, fun v hv => ?_, fun v hv => ?_⟩
  · by_cases hvw : v = w
    · subst hvw
      simp [release, h.words v hv]
    · simpa [hvw] using h.words v hv
  by_cases hvw : v = w
  · subst hvw
    rw [update_self, inuse_release]
    simp only [release]
    omega
  · rw [update_of_ne hvw]
    exact h.counted v hv

end

def Kheap.slot (s : Kheap) (w j : Nat) : Nat := (s.kheaproots w).page + PAGEREF_SIZE * j

def Kheap.withRoot (s : Kheap) (w : Nat) (root : KheapRoot) : Kheap :=
  { s with kheaproots := update s.kheaproots w root }

def Kheap.withTaken (s : Kheap) (w j page : Nat) : Kheap :=
  s.withRoot w { (s.kheaproots w).take j with page := page }

lemma allocKpages_served
    (hanswers : s.answers = va :: rest) (hfresh : s.Fresh va npages) :
    (allocKpages npages).run s =
      .ok va { s with kpages := (va, npages) :: s.kpages, answers := rest } := by
  rw [allocKpages, run_modifyGet, hanswers]
  simp only [if_pos hfresh]

lemma allocKpages_fails
    (h : ¬ ∃ va rest, s.answers = va :: rest ∧ s.Fresh va npages) :
    (allocKpages npages).run s = .ok 0 { s with answers := s.answers.tail } := by
  rw [allocKpages, run_modifyGet]
  cases hanswers : s.answers with
  | nil =>
    cases s
    cases hanswers
    rfl
  | cons va rest =>
    have hfresh : ¬ s.Fresh va npages := fun hfresh => h ⟨va, rest, hanswers, hfresh⟩
    simp only [if_neg hfresh, List.tail_cons]

lemma allocKpages_run (npages : Nat) (s : Kheap) :
    ∃ answers, ((allocKpages npages).run s = .ok 0 { s with answers := answers }) ∨
      ∃ va, s.Fresh va npages ∧ (allocKpages npages).run s =
        .ok va { s with kpages := (va, npages) :: s.kpages, answers := answers } := by
  by_cases hserved : ∃ va rest, s.answers = va :: rest ∧ s.Fresh va npages
  · obtain ⟨va, rest, hanswers, hfresh⟩ := hserved
    exact ⟨rest, .inr ⟨va, hfresh, allocKpages_served hanswers hfresh⟩⟩
  · exact ⟨_, .inl (allocKpages_fails hserved)⟩

lemma allocpageref_full (hroot : findRoot s = none) : allocpageref.run s = .ok 0 s := by
  simp [allocpageref, hroot]

lemma setRoot_run (w : Nat) (root : KheapRoot) (s : Kheap) :
    (setRoot w root).run s = .ok () (s.withRoot w root) := rfl

lemma withRoot_self (s : Kheap) (w : Nat) (root : KheapRoot) :
    (s.withRoot w root).kheaproots w = root := update_self ..

lemma withRoot_withRoot (s : Kheap) (w : Nat) (root root' : KheapRoot) :
    (s.withRoot w root).withRoot w root' = s.withRoot w root' := by
  unfold withRoot
  rw [update_idem]

lemma allocpagerefpage_served (hpage : (s.kheaproots w).page = 0)
    (hanswers : s.answers = va :: rest) (hfresh : s.Fresh va 1) :
    (allocpagerefpage w).run s = .ok () { s.withRoot w { s.kheaproots w with page := va } with
      kpages := (va, 1) :: s.kpages, answers := rest } := by
  have hva : va ≠ 0 := hfresh.1
  have haligned : va % PAGE_SIZE = 0 := hfresh.2.1
  simp [allocpagerefpage, hpage, allocKpages_served hanswers hfresh, hva, haligned, setRoot,
    withRoot]

lemma allocpagerefpage_fails (hpage : (s.kheaproots w).page = 0)
    (hfails : ¬ ∃ va rest, s.answers = va :: rest ∧ s.Fresh va 1) :
    (allocpagerefpage w).run s = .ok () { s with answers := s.answers.tail } := by
  simp [allocpagerefpage, hpage, allocKpages_fails hfails]

section

variable (hroot : findRoot s = some w) (hclear : findClear (s.kheaproots w) = some j)

include hroot hclear

lemma allocpageref_paged (hpage : (s.kheaproots w).page ≠ 0) :
    allocpageref.run s = .ok (s.slot w j) (s.withTaken w j (s.kheaproots w).page) := by
  simp [allocpageref, hroot, hclear, hpage, setRoot, take, withTaken, withRoot, slot]

section

variable (hpage : (s.kheaproots w).page = 0)

include hpage

lemma allocpageref_pageless
    (hrun : (allocpagerefpage w).run (s.withRoot w ((s.kheaproots w).take j)) = .ok () t) :
    allocpageref.run s = .ok (if (t.kheaproots w).page = 0 then 0 else t.slot w j) t := by
  unfold allocpageref
  rw [bind_run_ok (run_get s)]
  simp only [hroot, hclear]
  rw [bind_run_ok (setRoot_run ..), if_pos hpage, bind_run_ok hrun, bind_run_ok (run_get t)]
  by_cases hnone : (t.kheaproots w).page = 0
  · rw [if_pos hnone, if_pos hnone]
    rfl
  · rw [if_neg hnone, if_neg hnone]
    rfl

lemma allocpageref_served (hanswers : s.answers = va :: rest) (hfresh : s.Fresh va 1) :
    allocpageref.run s = .ok ((s.withTaken w j va).slot w j)
      { s.withTaken w j va with kpages := (va, 1) :: s.kpages, answers := rest } := by
  have hu : ((s.withRoot w ((s.kheaproots w).take j)).kheaproots w).page = 0 := by
    rw [withRoot_self, take_page, hpage]
  have hrun := allocpagerefpage_served (s := s.withRoot w ((s.kheaproots w).take j)) hu hanswers
    hfresh
  rw [withRoot_withRoot, withRoot_self] at hrun
  rw [allocpageref_pageless hroot hclear hpage hrun]
  have hne : ((s.withTaken w j va).kheaproots w).page ≠ 0 := by
    unfold withTaken
    rw [withRoot_self]
    exact hfresh.1
  exact congrArg (EStateM.Result.ok · _) (if_neg hne)

lemma allocpageref_unserved (hfails : ¬ ∃ va rest, s.answers = va :: rest ∧ s.Fresh va 1) :
    allocpageref.run s = .ok 0 { s.withTaken w j 0 with answers := s.answers.tail } := by
  have hu : ((s.withRoot w ((s.kheaproots w).take j)).kheaproots w).page = 0 := by
    rw [withRoot_self, take_page, hpage]
  have htaken : s.withRoot w ((s.kheaproots w).take j) = s.withTaken w j 0 := by
    unfold withTaken take
    rw [hpage]
  have hrun := allocpagerefpage_fails (s := s.withRoot w ((s.kheaproots w).take j)) hu hfails
  rw [allocpageref_pageless hroot hclear hpage hrun, if_pos hu, htaken]
  rfl

end

end

lemma allocpageref_run (h : Rooted s.kheaproots) : ∃ p t, allocpageref.run s = .ok p t ∧
    ((p = 0 ∧ t = s) ∨ ∃ w j page answers kpages, w < NUM_PAGEREFPAGES ∧ j < NPAGEREFS_PER_PAGE ∧
      (s.kheaproots w).inuse j = false ∧ t = { s with
        kheaproots := update s.kheaproots w { (s.kheaproots w).take j with page := page }
        kpages := kpages, answers := answers } ∧
      ((page = (s.kheaproots w).page ∧ kpages = s.kpages) ∨
        ((s.kheaproots w).page = 0 ∧ s.Fresh page 1 ∧ kpages = (page, 1) :: s.kpages)) ∧
      p = if page = 0 then 0 else page + PAGEREF_SIZE * j) := by
  cases hroot : findRoot s with
  | none => exact ⟨0, s, allocpageref_full hroot, .inl ⟨rfl, rfl⟩⟩
  | some w =>
    have hw : w < NUM_PAGEREFPAGES := List.mem_range.mp (List.mem_of_find?_eq_some hroot)
    have hany : (s.kheaproots w).pagerefsInuse.any (· ≠ 0xffffffff#32) = true := by
      have := List.find?_some hroot
      rw [Bool.and_eq_true] at this
      exact this.2
    cases hclear : findClear (s.kheaproots w) with
    | none => exact absurd hclear (findClear_ne_none hany)
    | some j =>
      obtain ⟨hj, hinuse⟩ := findClear_some (h.words w hw) hclear
      by_cases hpage : (s.kheaproots w).page = 0
      · by_cases hserved : ∃ va rest, s.answers = va :: rest ∧ s.Fresh va 1
        · obtain ⟨va, rest, hanswers, hfresh⟩ := hserved
          refine ⟨_, _, allocpageref_served hroot hclear hpage hanswers hfresh, .inr ⟨w, j,
            va, rest, (va, 1) :: s.kpages, hw, hj, hinuse, rfl, .inr ⟨hpage, hfresh, rfl⟩, ?_⟩⟩
          rw [if_neg hfresh.1, slot, withTaken, withRoot_self]
        · exact ⟨0, _, allocpageref_unserved hroot hclear hpage hserved, .inr ⟨w, j, 0,
            s.answers.tail, s.kpages, hw, hj, hinuse, rfl, .inl ⟨hpage.symm, rfl⟩, rfl⟩⟩
      · exact ⟨_, _, allocpageref_paged hroot hclear hpage, .inr ⟨w, j, (s.kheaproots w).page,
          s.answers, s.kpages, hw, hj, hinuse, rfl, .inl ⟨rfl, rfl⟩, (if_neg hpage).symm⟩⟩

-- A root before the one that holds the pageref which has no page but counts pagerefs: what the
-- search for the pageref does not accept.
def Leaked (s : Kheap) (p : Nat) : Prop :=
  ∃ w < NUM_PAGEREFPAGES, (s.kheaproots w).page = 0 ∧ (s.kheaproots w).numinuse ≠ 0 ∧
    ∀ v < w, (s.kheaproots v).page ≠ 0 → (s.kheaproots v).holds p = false

section

variable (count first : Nat) (hw : first ≤ w) (hw' : w < first + count)

include hw hw'

lemma freepagerefFrom_run (hbefore : ∀ v, first ≤ v → v < w →
      ((s.kheaproots v).page = 0 ∧ (s.kheaproots v).numinuse = 0) ∨
        ((s.kheaproots v).page ≠ 0 ∧ (s.kheaproots v).holds p = false))
    (hpage : (s.kheaproots w).page ≠ 0) (hholds : (s.kheaproots w).holds p = true)
    (hinuse : (s.kheaproots w).inuse ((p - (s.kheaproots w).page) / PAGEREF_SIZE) = true)
    (hnum : 0 < (s.kheaproots w).numinuse) :
    (freepagerefFrom p count first).run s = .ok () { s with
      kheaproots := update s.kheaproots w
        ((s.kheaproots w).release ((p - (s.kheaproots w).page) / PAGEREF_SIZE)) } := by
  induction count generalizing first with
  | zero => omega
  | succ count ih =>
    by_cases hfirst : first = w
    · subst hfirst
      simp [freepagerefFrom, hpage, hholds, hinuse, hnum, setRoot]
    have hrest := ih (first + 1) (by omega) (by omega)
      fun v hlo hhi => hbefore v (by omega) hhi
    rcases hbefore first (Nat.le_refl _) (by omega) with ⟨hnone, hzero⟩ | ⟨hsome, helse⟩
    · simpa [freepagerefFrom, hnone, hzero] using hrest
    · simpa [freepagerefFrom, hsome, helse] using hrest

lemma freepagerefFrom_leaked (hnone : (s.kheaproots w).page = 0)
    (hnum : (s.kheaproots w).numinuse ≠ 0)
    (hbefore : ∀ v, v < w → (s.kheaproots v).page ≠ 0 → (s.kheaproots v).holds p = false) :
    (freepagerefFrom p count first).run s = .error (.kassert "root->numinuse == 0") s := by
  induction count generalizing first with
  | zero => omega
  | succ count ih =>
    by_cases hfirst : first = w
    · subst hfirst
      simp [freepagerefFrom, hnone, hnum]
    have hrest := ih (first + 1) (by omega) (by omega)
    by_cases hpage : (s.kheaproots first).page = 0
    · by_cases hzero : (s.kheaproots first).numinuse = 0
      · simpa [freepagerefFrom, hpage, hzero] using hrest
      · simp [freepagerefFrom, hpage, hzero]
    · have helse := hbefore first (by omega) hpage
      simpa [freepagerefFrom, hpage, helse] using hrest

end

lemma freepageref_leaked (h : Leaked s p) :
    (freepageref p).run s = .error (.kassert "root->numinuse == 0") s := by
  obtain ⟨w, hw, hnone, hnum, hbefore⟩ := h
  exact freepagerefFrom_leaked _ _ (Nat.zero_le w) (by omega) hnone hnum hbefore

lemma freepageref_run (hroots : Rooted s.kheaproots) (hw : w < NUM_PAGEREFPAGES)
    (hj : j < NPAGEREFS_PER_PAGE) (hpage : (s.kheaproots w).page ≠ 0)
    (hinuse : (s.kheaproots w).inuse j = true)
    (hothers : ∀ v < NUM_PAGEREFPAGES, v ≠ w → (s.kheaproots v).page ≠ 0 →
      (s.kheaproots v).holds ((s.kheaproots w).page + PAGEREF_SIZE * j) = false)
    (hleak : ¬ Leaked s ((s.kheaproots w).page + PAGEREF_SIZE * j)) :
    (freepageref ((s.kheaproots w).page + PAGEREF_SIZE * j)).run s = .ok () { s with
      kheaproots := update s.kheaproots w ((s.kheaproots w).release j) } := by
  have hslot : ((s.kheaproots w).page + PAGEREF_SIZE * j - (s.kheaproots w).page) / PAGEREF_SIZE
      = j := by
    simp [PAGEREF_SIZE]
  have hholds : (s.kheaproots w).holds ((s.kheaproots w).page + PAGEREF_SIZE * j) = true := by
    rw [holds, hslot]
    simpa using hj
  have hrun := freepagerefFrom_run (s := s) (w := w) NUM_PAGEREFPAGES 0 (Nat.zero_le w)
    (by omega) (fun v _ hv => ?_) hpage hholds (by rwa [hslot]) (hroots.release hw hj hinuse).1
  · rwa [hslot] at hrun
  by_cases hnone : (s.kheaproots v).page = 0
  · refine .inl ⟨hnone, ?_⟩
    by_contra hnum
    refine hleak ⟨v, by omega, hnone, hnum, fun u hu husome => ?_⟩
    exact hothers u (by omega) (by omega) husome
  · exact .inr ⟨hnone, hothers v (by omega) (by omega) hnone⟩

end Os161.Kmalloc
