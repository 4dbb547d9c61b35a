import Os161.Kmalloc.Roots
import Os161.Lib.Run

namespace Os161.Kmalloc

open Function Vm Lib Lib.Exec Lib.Count Lib.Run List

-- The pagerefs that have been handed out and not given back, and whether every failed
-- allocation has left the roots as it found them.
structure Refs where
  heap : Kheap
  live : List Nat
  undone : Bool
  stopped : Option Stop

inductive RefOp where
  | alloc (answers : List Nat)
  | free (p : Nat)

def sameRoots (s t : Kheap) : Bool :=
  (List.range NUM_PAGEREFPAGES).all fun w =>
    (s.kheaproots w).page = (t.kheaproots w).page &&
      (s.kheaproots w).pagerefsInuse = (t.kheaproots w).pagerefsInuse &&
      (s.kheaproots w).numinuse = (t.kheaproots w).numinuse

def RefOp.perform (m : Refs) : RefOp → Refs
  | .alloc answers =>
    match allocpageref.run { m.heap with answers := answers } with
    | .ok p heap =>
      if p = 0 then { m with heap := heap, undone := m.undone && sameRoots m.heap heap }
      else { m with heap := heap, live := p :: m.live }
    | .error stop heap => { m with heap := heap, stopped := some stop }
  | .free p =>
    match (freepageref p).run m.heap with
    | .ok _ heap => { m with heap := heap, live := m.live.filter (· ≠ p) }
    | .error stop heap => { m with heap := heap, stopped := some stop }

def RefOp.Allowed (m : Refs) : RefOp → Prop
  | .alloc _ => True
  | .free p => p ∈ m.live

def RefStep (op : RefOp) (m m' : Refs) : Prop :=
  m.stopped = none ∧ op.Allowed m ∧ m' = op.perform m

-- The bits that are set are those of the live pagerefs, which are all different; the counters
-- count them; no assertion has failed, and no failed allocation has changed anything.
structure RefsExact (m : Refs) : Prop where
  bits : ∀ w < NUM_PAGEREFPAGES, ∀ j < NPAGEREFS_PER_PAGE,
    (m.heap.kheaproots w).inuse j = true ↔
      (m.heap.kheaproots w).page ≠ 0 ∧ m.heap.slot w j ∈ m.live
  located : ∀ p ∈ m.live, ∃ w < NUM_PAGEREFPAGES, ∃ j < NPAGEREFS_PER_PAGE,
    (m.heap.kheaproots w).page ≠ 0 ∧ p = m.heap.slot w j
  counted : ∀ w < NUM_PAGEREFPAGES, (m.heap.kheaproots w).numinuse =
    count (Finset.range NPAGEREFS_PER_PAGE) (· = true) (m.heap.kheaproots w).inuse
  distinct : m.live.Nodup
  running : m.stopped = none
  undone : m.undone = true

def RefOp.Served (op : RefOp) (m : Refs) : Prop :=
  match op with
  | .alloc answers => ∀ w, findRoot m.heap = some w → (m.heap.kheaproots w).page = 0 →
      ∃ va rest, answers = va :: rest ∧ m.heap.Fresh va 1
  | .free _ => True

structure RefsInv (m : Refs) : Prop where
  exact : RefsExact m
  words : ∀ w < NUM_PAGEREFPAGES, (m.heap.kheaproots w).pagerefsInuse.length = 8
  kept : ∀ w < NUM_PAGEREFPAGES, (m.heap.kheaproots w).page ≠ 0 →
    ((m.heap.kheaproots w).page, 1) ∈ m.heap.kpages
  apart : ∀ w < NUM_PAGEREFPAGES, ∀ v < NUM_PAGEREFPAGES, w ≠ v →
    (m.heap.kheaproots w).page ≠ 0 → (m.heap.kheaproots v).page ≠ 0 →
    (m.heap.kheaproots w).page + PAGE_SIZE ≤ (m.heap.kheaproots v).page ∨
      (m.heap.kheaproots v).page + PAGE_SIZE ≤ (m.heap.kheaproots w).page

lemma RefsInv.rooted (h : RefsInv m) : Rooted m.heap.kheaproots :=
  ⟨h.words, h.exact.counted⟩

section Kept

variable {m : Refs} {w j : Nat}

lemma RefsInv.inuse_paged (h : RefsInv m) (hw : w < NUM_PAGEREFPAGES)
    (hj : j < NPAGEREFS_PER_PAGE) (hnone : (m.heap.kheaproots w).page = 0) :
    (m.heap.kheaproots w).inuse j = false :=
  Bool.eq_false_iff.mpr fun hset => ((h.exact.bits w hw j hj).mp hset).1 hnone

variable {page k v : Nat} {kpages : List (Nat × Nat)}

lemma slot_ne (hj : j < NPAGEREFS_PER_PAGE) (hk : k < NPAGEREFS_PER_PAGE)
    (hapart : page + PAGE_SIZE ≤ page' ∨ page' + PAGE_SIZE ≤ page) :
    page + PAGEREF_SIZE * j ≠ page' + PAGEREF_SIZE * k := by
  unfold NPAGEREFS_PER_PAGE at hj hk
  unfold PAGE_SIZE at hapart
  unfold PAGEREF_SIZE
  omega

structure Provides (m : Refs) (w page : Nat) (kpages : List (Nat × Nat)) : Prop where
  nonzero : page ≠ 0
  source : (page = (m.heap.kheaproots w).page ∧ kpages = m.heap.kpages) ∨
    ((m.heap.kheaproots w).page = 0 ∧ m.heap.Fresh page 1 ∧ kpages = (page, 1) :: m.heap.kpages)

section

variable (hp : Provides m w page kpages) (h : RefsInv m) (hw : w < NUM_PAGEREFPAGES)

include hp h hw

lemma Provides.apart (hv : v < NUM_PAGEREFPAGES) (hne : v ≠ w)
    (hpage : (m.heap.kheaproots v).page ≠ 0) : page + PAGE_SIZE ≤ (m.heap.kheaproots v).page ∨
      (m.heap.kheaproots v).page + PAGE_SIZE ≤ page := by
  rcases hp.source with ⟨heq, -⟩ | ⟨-, hfresh, -⟩
  · rw [heq]
    exact h.apart w hw v hv hne.symm (heq ▸ hp.nonzero) hpage
  · have := hfresh.2.2.2 _ (h.kept v hv hpage)
    omega

lemma Provides.fresh (hk : k < NPAGEREFS_PER_PAGE)
    (hclear : (m.heap.kheaproots w).inuse k = false) : page + PAGEREF_SIZE * k ∉ m.live := by
  intro hmem
  obtain ⟨v, hv, i, hi, hpage, heq⟩ := h.exact.located _ hmem
  by_cases hvw : v = w
  · subst hvw
    rcases hp.source with ⟨hsame, -⟩ | ⟨hnone, -⟩
    · have hset := (h.exact.bits v hv k hk).mpr ⟨hpage, by rw [Kheap.slot, ← hsame]; exact hmem⟩
      rw [hclear] at hset
      cases hset
    · exact hpage hnone
  · exact slot_ne hk hi (hp.apart h hw hv hvw hpage) heq

end

lemma withTaken_of_ne (s : Kheap) (j page : Nat) (hne : v ≠ w) :
    (s.withTaken w j page).kheaproots v = s.kheaproots v := update_of_ne hne ..

lemma withTaken_self (s : Kheap) (w j page : Nat) :
    (s.withTaken w j page).kheaproots w = { (s.kheaproots w).take j with page := page } :=
  update_self ..

section Taken

variable {page : Nat} {kpages : List (Nat × Nat)} (h : RefsInv m)
  (hp : Provides m w page kpages) (hw : w < NUM_PAGEREFPAGES)
include h hp hw

omit h hw in
lemma Provides.page_eq (hpage : (m.heap.kheaproots v).page ≠ 0) (j : Nat) :
    ((m.heap.withTaken w j page).kheaproots v).page = (m.heap.kheaproots v).page := by
  by_cases hvw : v = w
  · subst hvw
    rw [withTaken_self]
    rcases hp.source with ⟨hsame, -⟩ | ⟨hnone, -⟩
    · exact hsame
    · exact absurd hnone hpage
  · rw [withTaken_of_ne _ _ _ hvw]

lemma taken_bits (hj : j < NPAGEREFS_PER_PAGE) :
    ∀ v < NUM_PAGEREFPAGES, ∀ k < NPAGEREFS_PER_PAGE,
      ((m.heap.withTaken w j page).kheaproots v).inuse k = true ↔
        ((m.heap.withTaken w j page).kheaproots v).page ≠ 0 ∧
          (m.heap.withTaken w j page).slot v k ∈ (page + PAGEREF_SIZE * j) :: m.live := by
  intro v hv k hk
  unfold Kheap.slot
  by_cases hvw : v = w
  · subst hvw
    have hinuse : ({ (m.heap.kheaproots v).take j with page := page } : KheapRoot).inuse =
        update (m.heap.kheaproots v).inuse j true := inuse_take (h.words v hv) hj
    rw [withTaken_self, hinuse]
    by_cases hkj : k = j
    · subst hkj
      rw [update_self]
      exact iff_of_true rfl ⟨hp.nonzero, mem_cons_self⟩
    rw [update_of_ne hkj]
    have hother : page + PAGEREF_SIZE * k ≠ page + PAGEREF_SIZE * j := by
      unfold PAGEREF_SIZE
      omega
    rw [mem_cons, or_iff_right hother]
    by_cases hset : (m.heap.kheaproots v).inuse k = true
    · obtain ⟨hpage, hmem⟩ := (h.exact.bits v hv k hk).mp hset
      have hsame := hp.page_eq hpage j
      rw [withTaken_self] at hsame
      have hsame : page = (m.heap.kheaproots v).page := hsame
      exact iff_of_true hset ⟨hp.nonzero, hsame ▸ hmem⟩
    · refine iff_of_false hset fun hin => ?_
      exact hp.fresh h hv hk (Bool.eq_false_iff.mpr hset) hin.2
  rw [withTaken_of_ne _ _ _ hvw, h.exact.bits v hv k hk]
  refine and_congr_right fun hpage => ?_
  have hother := slot_ne hk hj (hp.apart h hw hv hvw hpage).symm
  rw [mem_cons, or_iff_right hother]
  rfl

lemma taken_located (hj : j < NPAGEREFS_PER_PAGE) :
    ∀ p ∈ (page + PAGEREF_SIZE * j) :: m.live, ∃ v < NUM_PAGEREFPAGES,
      ∃ k < NPAGEREFS_PER_PAGE, ((m.heap.withTaken w j page).kheaproots v).page ≠ 0 ∧
        p = (m.heap.withTaken w j page).slot v k := by
  intro p hmem
  rcases mem_cons.mp hmem with rfl | hmem
  · refine ⟨w, hw, j, hj, ?_, ?_⟩
    · rw [withTaken_self]
      exact hp.nonzero
    · rw [Kheap.slot, withTaken_self]
  obtain ⟨v, hv, k, hk, hpage, rfl⟩ := h.exact.located p hmem
  refine ⟨v, hv, k, hk, ?_, ?_⟩
  · rw [hp.page_eq hpage]
    exact hpage
  · rw [Kheap.slot, Kheap.slot, hp.page_eq hpage]

lemma taken_kept : ∀ v < NUM_PAGEREFPAGES, ((m.heap.withTaken w j page).kheaproots v).page ≠ 0 →
    (((m.heap.withTaken w j page).kheaproots v).page, 1) ∈ kpages := by
  intro v hv hpage
  by_cases hvw : v = w
  · subst hvw
    rw [withTaken_self]
    rcases hp.source with ⟨hsame, rfl⟩ | ⟨-, -, rfl⟩
    · rw [hsame]
      exact h.kept v hv (hsame ▸ hp.nonzero)
    · exact mem_cons_self
  rw [withTaken_of_ne _ _ _ hvw] at hpage ⊢
  have hmem := h.kept v hv hpage
  rcases hp.source with ⟨-, rfl⟩ | ⟨-, -, rfl⟩
  · exact hmem
  · exact mem_cons_of_mem _ hmem

lemma taken_apart : ∀ u < NUM_PAGEREFPAGES, ∀ v < NUM_PAGEREFPAGES, u ≠ v →
    ((m.heap.withTaken w j page).kheaproots u).page ≠ 0 →
    ((m.heap.withTaken w j page).kheaproots v).page ≠ 0 →
    ((m.heap.withTaken w j page).kheaproots u).page + PAGE_SIZE ≤
        ((m.heap.withTaken w j page).kheaproots v).page ∨
      ((m.heap.withTaken w j page).kheaproots v).page + PAGE_SIZE ≤
        ((m.heap.withTaken w j page).kheaproots u).page := by
  intro u hu v hv huv hupage hvpage
  by_cases huw : u = w
  · subst huw
    rw [withTaken_of_ne _ _ _ huv.symm] at hvpage ⊢
    rw [withTaken_self]
    exact hp.apart h hw hv huv.symm hvpage
  rw [withTaken_of_ne _ _ _ huw] at hupage ⊢
  by_cases hvw : v = w
  · subst hvw
    rw [withTaken_self]
    exact (hp.apart h hw hu huw hupage).symm
  · rw [withTaken_of_ne _ _ _ hvw] at hvpage ⊢
    exact h.apart u hu v hv huv hupage hvpage

lemma RefsInv.taken (hj : j < NPAGEREFS_PER_PAGE)
    (hclear : (m.heap.kheaproots w).inuse j = false) (answers : List Nat) : RefsInv { m with
      heap := { m.heap.withTaken w j page with kpages := kpages, answers := answers }
      live := (page + PAGEREF_SIZE * j) :: m.live } := by
  have hrooted := h.rooted.take hw hj hclear page
  have hdistinct := nodup_cons.mpr ⟨hp.fresh h hw hj hclear, h.exact.distinct⟩
  exact ⟨⟨taken_bits h hp hw hj, taken_located h hp hw hj, hrooted.counted, hdistinct,
    h.exact.running, h.exact.undone⟩, hrooted.words, taken_kept h hp hw, taken_apart h hp hw⟩

end Taken

lemma RefsInv.not_leaked (h : RefsInv m) (p : Nat) : ¬ Leaked m.heap p := by
  rintro ⟨w, hw, hnone, hnum, -⟩
  refine hnum ((h.exact.counted w hw).trans (count_eq_zero.mpr fun j hj => ?_))
  rw [h.inuse_paged hw (Finset.mem_range.mp hj) hnone]
  exact Bool.false_ne_true

section

variable (h : RefsInv m) (hw : w < NUM_PAGEREFPAGES) (hj : j < NPAGEREFS_PER_PAGE)
  (hpage : (m.heap.kheaproots w).page ≠ 0) (hmem : m.heap.slot w j ∈ m.live)

include h hw hj hpage hmem

lemma RefsInv.freepageref :
    (Kmalloc.freepageref (m.heap.slot w j)).run m.heap =
      .ok () (m.heap.withRoot w ((m.heap.kheaproots w).release j)) := by
  have hset := (h.exact.bits w hw j hj).mpr ⟨hpage, hmem⟩
  refine freepageref_run h.rooted hw hj hpage hset (fun v hv hvw hvpage => ?_) (h.not_leaked _)
  have hapart := h.apart v hv w hw hvw hvpage hpage
  unfold KheapRoot.holds NPAGEREFS_PER_PAGE
  unfold NPAGEREFS_PER_PAGE at hj
  unfold PAGE_SIZE at hapart
  unfold PAGEREF_SIZE
  simp only [Bool.and_eq_false_imp, decide_eq_true_eq, decide_eq_false_iff_not]
  omega

lemma RefsInv.released : RefsInv { m with
      heap := m.heap.withRoot w ((m.heap.kheaproots w).release j)
      live := m.live.filter (· ≠ m.heap.slot w j) } := by
  have hset := (h.exact.bits w hw j hj).mpr ⟨hpage, hmem⟩
  have hrooted := (h.rooted.release hw hj hset).2
  have hpages : ∀ v, ((m.heap.withRoot w ((m.heap.kheaproots w).release j)).kheaproots v).page =
      (m.heap.kheaproots v).page := by
    intro v
    by_cases hvw : v = w
    · subst hvw
      rw [withRoot_self, release_page]
    · exact congrArg KheapRoot.page (update_of_ne hvw ..)
  have hslots : ∀ v k, (m.heap.withRoot w ((m.heap.kheaproots w).release j)).slot v k =
      m.heap.slot v k := fun v k => congrArg (· + PAGEREF_SIZE * k) (hpages v)
  refine ⟨⟨?_, ?_, hrooted.counted, h.exact.distinct.filter _, h.exact.running, h.exact.undone⟩,
    hrooted.words, ?_, ?_⟩
  · intro v hv k hk
    show ((m.heap.withRoot w ((m.heap.kheaproots w).release j)).kheaproots v).inuse k = true ↔
      ((m.heap.withRoot w ((m.heap.kheaproots w).release j)).kheaproots v).page ≠ 0 ∧
        (m.heap.withRoot w ((m.heap.kheaproots w).release j)).slot v k ∈ _
    rw [hslots, hpages, mem_filter, decide_eq_true_eq]
    by_cases hvw : v = w
    · subst hvw
      rw [withRoot_self, inuse_release]
      by_cases hkj : k = j
      · subst hkj
        rw [update_self]
        exact iff_of_false Bool.false_ne_true fun hin => hin.2.2 rfl
      rw [update_of_ne hkj, h.exact.bits v hv k hk]
      have hother : m.heap.slot v k ≠ m.heap.slot v j := by
        unfold Kheap.slot PAGEREF_SIZE
        omega
      rw [and_iff_left hother]
    have hroot : (m.heap.withRoot w ((m.heap.kheaproots w).release j)).kheaproots v =
        m.heap.kheaproots v := update_of_ne hvw ..
    rw [hroot, h.exact.bits v hv k hk]
    refine and_congr_right fun hvpage => ?_
    have hother : m.heap.slot v k ≠ m.heap.slot w j :=
      slot_ne hk hj (h.apart v hv w hw hvw hvpage hpage)
    rw [and_iff_left hother]
  · intro p hin
    obtain ⟨v, hv, k, hk, hvpage, rfl⟩ := h.exact.located p (mem_of_mem_filter hin)
    refine ⟨v, hv, k, hk, ?_, ?_⟩
    · exact (hpages v).symm ▸ hvpage
    · exact (hslots v k).symm
  · intro v hv hvpage
    have hvpage : (m.heap.kheaproots v).page ≠ 0 := (hpages v) ▸ hvpage
    have hkept := h.kept v hv hvpage
    rw [← hpages v] at hkept
    exact hkept
  intro u hu v hv huv hupage hvpage
  have hupage : (m.heap.kheaproots u).page ≠ 0 := (hpages u) ▸ hupage
  have hvpage : (m.heap.kheaproots v).page ≠ 0 := (hpages v) ▸ hvpage
  have hapart := h.apart u hu v hv huv hupage hvpage
  rw [← hpages u, ← hpages v] at hapart
  exact hapart

end

end Kept

section Steps

variable {m : Refs}

lemma findRoot_lt (hroot : findRoot s = some w) :
    w < NUM_PAGEREFPAGES := mem_range.mp (mem_of_find?_eq_some hroot)

lemma RefsInv.findClear (h : RefsInv m) (hroot : findRoot m.heap = some w) :
    ∃ j, Kmalloc.findClear (m.heap.kheaproots w) = some j ∧ j < NPAGEREFS_PER_PAGE ∧
      (m.heap.kheaproots w).inuse j = false := by
  have hany : (m.heap.kheaproots w).pagerefsInuse.any (· ≠ 0xffffffff#32) = true := by
    have hfound := find?_some hroot
    rw [Bool.and_eq_true] at hfound
    exact hfound.2
  obtain ⟨j, hj⟩ := Option.ne_none_iff_exists'.mp (findClear_ne_none hany)
  obtain ⟨hlt, hclear⟩ := findClear_some (h.words w (findRoot_lt hroot)) hj
  exact ⟨j, hj, hlt, hclear⟩

lemma perform_alloc_some (hp : p ≠ 0)
    (hrun : allocpageref.run { m.heap with answers := answers } = .ok p t) :
    (RefOp.alloc answers).perform m = { m with heap := t, live := p :: m.live } := by
  unfold RefOp.perform
  simp only [hrun, if_neg hp]

lemma perform_alloc_none
    (hrun : allocpageref.run { m.heap with answers := answers } = .ok 0 t) :
    (RefOp.alloc answers).perform m =
      { m with heap := t, undone := m.undone && sameRoots m.heap t } := by
  unfold RefOp.perform
  simp only [hrun, if_true]

lemma sameRoots_self (s : Kheap) (answers : List Nat) :
    sameRoots s { s with answers := answers } = true := by
  simp [sameRoots]

section

variable (h : RefsInv m)

include h

lemma RefsInv.setAnswers (answers : List Nat) :
    RefsInv { m with heap := { m.heap with answers := answers } } :=
  ⟨⟨h.exact.bits, h.exact.located, h.exact.counted, h.exact.distinct, h.exact.running,
    h.exact.undone⟩, h.words, h.kept, h.apart⟩

lemma RefsInv.alloc (hserved : (RefOp.alloc answers).Served m) :
    RefsInv ((RefOp.alloc answers).perform m) := by
  let s : Kheap := { m.heap with answers := answers }
  cases hroot : findRoot m.heap with
  | none =>
    have hrun : allocpageref.run s = .ok 0 s := allocpageref_full hroot
    rw [perform_alloc_none hrun, sameRoots_self, Bool.and_true]
    exact h.setAnswers answers
  | some w =>
    have hw := findRoot_lt hroot
    obtain ⟨j, hfind, hj, hclear⟩ := h.findClear hroot
    by_cases hpage : (m.heap.kheaproots w).page = 0
    · obtain ⟨va, rest, hanswers, hfresh⟩ := hserved w hroot hpage
      have hrun := allocpageref_served (s := s) hroot hfind hpage hanswers hfresh
      have hslot : (s.withTaken w j va).slot w j = va + PAGEREF_SIZE * j := by
        rw [Kheap.slot, withTaken_self]
      rw [hslot] at hrun
      have hne : va + PAGEREF_SIZE * j ≠ 0 := by
        have := hfresh.1
        omega
      rw [perform_alloc_some hne hrun]
      exact h.taken ⟨hfresh.1, .inr ⟨hpage, hfresh, rfl⟩⟩ hw hj hclear rest
    have hrun := allocpageref_paged (s := s) hroot hfind hpage
    have hne : s.slot w j ≠ 0 := by
      show (m.heap.kheaproots w).page + PAGEREF_SIZE * j ≠ 0
      omega
    rw [perform_alloc_some hne hrun]
    exact h.taken ⟨hpage, .inl ⟨rfl, rfl⟩⟩ hw hj hclear answers

lemma RefsInv.unserved (hserved : ¬ (RefOp.alloc answers).Served m) :
    ¬ RefsExact ((RefOp.alloc answers).perform m) := by
  let s : Kheap := { m.heap with answers := answers }
  obtain ⟨w, hw⟩ := not_forall.mp hserved
  obtain ⟨hroot, hw⟩ := Classical.not_imp.mp hw
  obtain ⟨hpage, hfails⟩ := Classical.not_imp.mp hw
  have hlt := findRoot_lt hroot
  obtain ⟨j, hfind, hj, hclear⟩ := h.findClear hroot
  have hrun := allocpageref_unserved (s := s) hroot hfind hpage hfails
  rw [perform_alloc_none hrun]
  intro hexact
  have hroot' : (s.withTaken w j 0).kheaproots w =
      { (m.heap.kheaproots w).take j with page := 0 } := withTaken_self s w j 0
  have hset : ((s.withTaken w j 0).kheaproots w).inuse j = true := by
    have hinuse : ({ (m.heap.kheaproots w).take j with page := 0 } : KheapRoot).inuse =
        update (m.heap.kheaproots w).inuse j true := inuse_take (h.words w hlt) hj
    rw [hroot', hinuse, update_self]
  have hnone : ((s.withTaken w j 0).kheaproots w).page = 0 := by rw [hroot']
  exact ((hexact.bits w hlt j hj).mp hset).1 hnone

lemma RefsInv.free (hp : p ∈ m.live) : RefsInv ((RefOp.free p).perform m) := by
  obtain ⟨w, hw, j, hj, hpage, rfl⟩ := h.exact.located p hp
  have hrun := h.freepageref hw hj hpage hp
  have hperform : (RefOp.free (m.heap.slot w j)).perform m = { m with
      heap := m.heap.withRoot w ((m.heap.kheaproots w).release j)
      live := m.live.filter (· ≠ m.heap.slot w j) } := by
    unfold RefOp.perform
    simp only [hrun]
  rw [hperform]
  exact h.released hw hj hpage hp

lemma RefsInv.step (hserved : op.Served m)
    (hstep : RefStep op m m') : RefsInv m' := by
  obtain ⟨-, hallowed, rfl⟩ := hstep
  cases op with
  | alloc answers => exact h.alloc hserved
  | free p => exact h.free hallowed

lemma RefsInv.breaks (hserved : ¬ op.Served m)
    (hstep : RefStep op m m') : ¬ RefsExact m' := by
  obtain ⟨-, -, rfl⟩ := hstep
  cases op with
  | alloc answers => exact h.unserved hserved
  | free p => exact absurd trivial hserved

end

end Steps

def refsBoot : Refs := ⟨boot.heap, [], true, none⟩

lemma emptyRoot_inuse (j : Nat) : emptyRoot.inuse j = false := by
  rw [inuse_eq]
  show ((List.replicate 8 0#32)[j / 32]?.getD 0#32).getLsbD (j % 32) = false
  rw [getElem?_replicate]
  split <;> simp

lemma refsInv_boot : RefsInv refsBoot := by
  have hroot : ∀ w j, ¬ (refsBoot.heap.kheaproots w).inuse j = true := by
    intro w j
    show ¬ emptyRoot.inuse j = true
    rw [emptyRoot_inuse]
    exact Bool.false_ne_true
  refine ⟨⟨?_, ?_, ?_, nodup_nil, rfl, rfl⟩, fun _ _ => rfl, ?_, ?_⟩
  · intro w _ j _
    exact iff_of_false (hroot w j) fun hin => hin.1 rfl
  · intro p hp
    cases hp
  · intro w _
    exact (count_eq_zero.mpr fun j _ => hroot w j).symm
  · intro w _ hpage
    exact absurd rfl hpage
  · intro w _ v _ _ hpage
    exact absurd rfl hpage

-- The runs in which the bits are exact are those in which no root goes without a page.
theorem pagerefs_exact_iff (ops : List RefOp) :
    Always RefStep RefsExact ops refsBoot ↔ Guarded RefStep RefOp.Served ops refsBoot :=
  always_iff_guarded (fun m (h : RefsInv m) => h.exact) (fun _ _ _ h => h.step)
    (fun _ _ _ h => h.breaks) ops refsInv_boot

def lostRefs : List RefOp :=
  List.replicate 256 (.alloc []) ++ [.alloc [0x80200000], .free 0x80200000]

theorem failed_allocpageref_keeps_bit : ¬ Always RefStep RefsExact [.alloc []] refsBoot ∧
      (lostRefs.foldl RefOp.perform refsBoot).stopped = some (.kassert "root->numinuse == 0") := by
  constructor
  · intro h
    have hexact : RefsExact ((RefOp.alloc []).perform refsBoot) := h.2 _ ⟨rfl, trivial, rfl⟩
    exact ((hexact.bits 0 (by decide) 0 (by decide)).mp (by decide)).1 rfl
  · decide +kernel

end Os161.Kmalloc
