import Os161.Kmalloc.Free
import Os161.Lib.Run

namespace Os161.Kmalloc

open Lib.Chain
open Lib.Run
open Vm

-- The freelist of a page under management: as long as nfree says, of different blocks of the
-- page that no caller has, and not of all blocks.
structure FreelistOk (s : Kheap) (live : List Block) (p : Nat) (free : List Nat) : Prop where
  chain : Linked 0 s.mem (s.pageref p).freelistHead free
  nfree : (s.pageref p).nfree = free.length
  nodup : free.Nodup
  inside : ∀ x ∈ free, (s.pageref p).pageaddr ≤ x ∧
    x + sizes (s.pageref p).blocktype ≤ (s.pageref p).pageaddr + PAGE_SIZE ∧
    (x - (s.pageref p).pageaddr) % sizes (s.pageref p).blocktype = 0
  apart : ∀ x ∈ free, ∀ b ∈ live,
    x + sizes (s.pageref p).blocktype ≤ b.addr ∨ b.addr + b.extent ≤ x
  busy : (s.pageref p).nfree < PAGE_SIZE / sizes (s.pageref p).blocktype

-- Every pageref under management is on the list of all pagerefs and on that of its size, once
-- each, and the pages that have not gone back are in use.
structure ListsOk (s : Kheap) (live : List Block) (all : List Nat) : Prop where
  linked : Linked 0 (fun x => s.allCell (some x)) (s.allCell none) all
  nodup : all.Nodup
  same : ∀ b < NSIZES, ∃ same : List Nat,
    Linked 0 (fun x => s.samesizeCell b (some x)) (s.samesizeCell b none) same ∧ same.Nodup ∧
      ∀ p, p ∈ same ↔ p ∈ all ∧ (s.pageref p).blocktype = b
  type_lt : ∀ p ∈ all, (s.pageref p).blocktype < NSIZES
  free : ∀ p ∈ all, ∃ free, FreelistOk s live p free
  kpages : s.kpages.Perm (rootPages s.kheaproots ++
    (all.map (fun p => ((s.pageref p).pageaddr, 1)) ++ live.filterMap Block.pages))
  small : ∀ b ∈ live, b.sz < LARGEST_SUBPAGE_SIZE → ∃ p ∈ all,
    (s.pageref p).blocktype = classOf b.sz ∧ (s.pageref p).pageaddr ≤ b.addr ∧
      b.addr + b.extent ≤ (s.pageref p).pageaddr + PAGE_SIZE

structure Integrity (s : Kheap) (live : List Block) : Prop where
  disjoint : live.Pairwise Block.Apart
  long : ∀ b ∈ live, b.sz ≤ b.extent
  aligned : ∀ b ∈ live, b.sz ≤ LARGEST_SUBPAGE_SIZE → b.addr % sizes (classOf b.sz) = 0
  lists : ∃ all, ListsOk s live all

section Integrity

variable {s : Kheap} {live : List Block} {g : Layout}

section

variable (h : Inv s live [] g)

include h

lemma Inv.freelistOk (hbusy : Busy s g) (hp : p ∈ g.all) : FreelistOk s live p (g.free p) := by
  have hpage := h.pages p hp
  have htype := h.listed.type_lt p hp
  have hnodup := hpage.blocks.nodup_iff.mpr (nodup_blocksOf htype)
  refine ⟨hpage.chain, hpage.nfree, (List.nodup_append.mp hnodup).1, fun x hx => ?_,
    fun x hx b hb => h.free_apart hp hx hb, ?_⟩
  · exact mem_blocksOf htype (hpage.mem_blocks hx)
  · rw [hpage.nfree]
    exact hbusy p hp

lemma Inv.listsOk (hbusy : Busy s g) : ListsOk s live g.all := by
  refine ⟨h.listed.all, h.listed.all.nodup, fun b hb => ?_, h.listed.type_lt, fun p hp => ?_,
    h.accounted.kpages, fun b hb hsz => ?_⟩
  · exact ⟨g.same b, h.listed.same b hb, (h.listed.same b hb).nodup, h.listed.mem_same b hb⟩
  · exact ⟨g.free p, h.freelistOk hbusy hp⟩
  · obtain ⟨p, hp, hclass, -, hlo, hhi⟩ := h.on_page hb hsz
    exact ⟨p, hp, hclass, hlo, hhi⟩

lemma Inv.aligned (hb : b ∈ live) (hsz : b.sz ≤ LARGEST_SUBPAGE_SIZE) :
    b.addr % sizes (classOf b.sz) = 0 := by
  obtain ⟨hdvd, -⟩ := sizes_spec _ (classOf_spec hsz).1
  by_cases hsmall : b.sz < LARGEST_SUBPAGE_SIZE
  · obtain ⟨p, hp, -, hblock, -⟩ := h.on_page hb hsmall
    obtain ⟨k, -, haddr⟩ := List.mem_map.mp hblock
    have hpage := (h.accounted.aligned _ (h.accounted.mem_page hp)).2.1
    rw [← haddr]
    exact Nat.mod_eq_zero_of_dvd ((Nat.dvd_add_left (Nat.dvd_mul_left _ _)).mpr
      (Nat.dvd_trans hdvd (Nat.dvd_of_mod_eq_zero hpage)))
  · exact Nat.mod_eq_zero_of_dvd (Nat.dvd_trans hdvd
      (Nat.dvd_of_mod_eq_zero (h.big_pages hb hsmall).2))

lemma Inv.integrity (hbusy : Busy s g) : Integrity s live :=
  ⟨h.disjoint, fun b _ => b.le_extent, fun _ hb hsz => h.aligned hb hsz,
    g.all, h.listsOk hbusy⟩

lemma Inv.addr_ne_zero (hb : b ∈ live) : b.addr ≠ 0 := by
  by_cases hsmall : b.sz < LARGEST_SUBPAGE_SIZE
  · obtain ⟨p, hp, -, -, hlo, -⟩ := h.on_page hb hsmall
    have := h.accounted.pageaddr_ne_zero hp
    omega
  · exact (h.big_pages hb hsmall).1

end

end Integrity

section Runs

variable {m : Machine}

def Sound (m : Machine) : Prop := m.stopped = none ∧ Integrity m.heap m.live

-- What a call must not do to keep it so: free the last block of a page while the search for
-- the pageref meets a root that has lost one.
def Op.Admits (op : Op) (m : Machine) : Prop :=
  match op with
  | .kfree ptr => ¬ Stuck m.heap ptr
  | _ => True

def Kept (m : Machine) : Prop :=
  m.stopped = none ∧ ∃ g, Inv m.heap m.live [] g ∧ Busy m.heap g

lemma Kept.sound (h : Kept m) : Sound m := by
  obtain ⟨hrun, g, hinv, hbusy⟩ := h
  exact ⟨hrun, hinv.integrity hbusy⟩

lemma Kept.kmalloc (h : Kept m) (sz : Nat) (answers : List Nat) :
    Kept ((Op.kmalloc sz answers).perform m) := by
  obtain ⟨hrun, g, hinv, hbusy⟩ := h
  have hstart : Inv { m.heap with kpages := m.heap.kpages, answers := answers } m.live [] g :=
    hinv.recount (hinv.accounted.use rfl (.refl _)) (fun _ hb _ => hb) fun _ _ => rfl
  obtain ⟨ptr, t, g', hcall, hinv', hbusy'⟩ := kmalloc_inv hstart hbusy sz
  rw [Op.perform, hcall]
  exact ⟨hrun, g', hinv', hbusy'⟩

lemma Kept.kfree (h : Kept m) (hallowed : (Op.kfree ptr).Allowed m) :
    (Stuck m.heap ptr → ((Op.kfree ptr).perform m).stopped ≠ none) ∧
      (¬ Stuck m.heap ptr → Kept ((Op.kfree ptr).perform m)) := by
  obtain ⟨hrun, g, hinv, hbusy⟩ := h
  rcases hallowed with rfl | ⟨b, hb, rfl⟩
  · have hcall : (Kmalloc.kfree 0).run m.heap = .ok () m.heap := rfl
    have hlive : m.live.filter (·.addr ≠ 0) = m.live :=
      List.filter_eq_self.mpr fun b hb => by simpa using hinv.addr_ne_zero hb
    refine ⟨?_, fun _ => ?_⟩
    · rintro ⟨p, hp, hlo, -⟩
      exact absurd (Nat.le_zero.mp hlo) (hinv.accounted.pageaddr_ne_zero (hinv.onAll_iff.mp hp))
    · rw [Op.perform, hcall]
      exact ⟨hrun, g, hlive.symm ▸ hinv, hbusy⟩
  obtain ⟨hstuck, hfine⟩ := kfree_inv hinv hbusy hb
  refine ⟨fun hbad => ?_, fun hok => ?_⟩
  · obtain ⟨t, hcall⟩ := hstuck hbad
    rw [Op.perform, hcall]
    exact Option.some_ne_none _
  obtain ⟨t, g', hcall, hinv', hbusy'⟩ := hfine hok
  rw [Op.perform, hcall]
  exact ⟨hrun, g', hinv', hbusy'⟩

lemma Kept.admitted (h : Kept m) (hadmits : op.Admits m) (hstep : step op m m') : Kept m' := by
  obtain ⟨-, hallowed, rfl⟩ := hstep
  cases op with
  | kmalloc sz answers => exact h.kmalloc sz answers
  | kfree ptr => exact (h.kfree hallowed).2 hadmits
  | store addr value =>
    obtain ⟨hrun, g, hinv, hbusy⟩ := h
    obtain ⟨b, hb, hlo, hhi⟩ := hallowed
    exact ⟨hrun, g, hinv.store hb hlo hhi, hbusy⟩

lemma Kept.stuck (h : Kept m) (hadmits : ¬ op.Admits m) (hstep : step op m m') : ¬ Sound m' := by
  obtain ⟨-, hallowed, rfl⟩ := hstep
  cases op with
  | kmalloc sz answers | store addr value => exact absurd trivial hadmits
  | kfree ptr =>
    refine fun hsound => (h.kfree hallowed).1 (Classical.not_not.mp hadmits) hsound.1

lemma kept_boot : Kept boot := by
  refine ⟨rfl, ⟨[], fun _ => [], fun _ => []⟩,
    ⟨⟨fun _ _ => rfl, fun w _ => ?_⟩, ?_, ?_, ?_, ?_⟩, ?_⟩
  · show emptyRoot.numinuse = Lib.Count.count _ _ emptyRoot.inuse
    decide +kernel
  · exact ⟨rfl, fun _ _ => rfl, fun _ _ p => by simp, by simp, by simp⟩
  · simp
  · simp [boot]
  · exact ⟨by decide, List.Pairwise.nil, by simp [boot]⟩
  · intro p hp
    cases hp

-- The heap keeps its integrity exactly in the runs that free no last block of a page while a
-- root in the way has lost a pageref.
theorem kheap_integrity_iff (ops : List Op) :
    Always step Sound ops boot ↔ Guarded step Op.Admits ops boot :=
  always_iff_guarded (fun m (h : Kept m) => h.sound) (fun _ _ _ h => h.admitted)
    (fun _ _ _ h => h.stuck) ops kept_boot

instance (m : Machine) (op : Op) : Decidable (op.Allowed m) :=
  match op with
  | .kmalloc sz _ => inferInstanceAs (Decidable (sz ≤ 0x80000000))
  | .kfree ptr => inferInstanceAs (Decidable (ptr = 0 ∨ ∃ b ∈ m.live, b.addr = ptr))
  | .store addr _ =>
    inferInstanceAs (Decidable (∃ b ∈ m.live, b.addr ≤ addr ∧ addr < b.addr + b.sz))

def replay : List Op → Machine → Option Machine
  | [], m => some m
  | op :: ops, m => if m.stopped = none ∧ op.Allowed m then replay ops (op.perform m) else none

def leakOps : List Op :=
  List.replicate 256 (.kmalloc 16 [0x80100000, 0]) ++
    [.kmalloc 16 [0x80100000, 0x80200000], .kfree (0x80100000 + 4080)]

theorem kfree_stops_at_leak :
    (replay leakOps boot).map (·.stopped) = some (some (.kassert "root->numinuse == 0")) := by
  decide +kernel

-- Nothing is lost: once every block has been freed, the heap has no page left but those of its
-- pagerefs.
theorem heap_drained
    (hrun : Relation.ReflTransGen (fun m m' => ∃ op : Op, op.Admits m ∧ step op m m') boot m)
    (hlive : m.live = []) : m.heap.kpages.Perm (rootPages m.heap.kheaproots) := by
  have hkept : Kept m := by
    refine invariant (fun m m' h hstep => ?_) kept_boot hrun
    obtain ⟨op, hadmits, hstep⟩ := hstep
    exact h.admitted hadmits hstep
  obtain ⟨-, g, hinv, hbusy⟩ := hkept
  rw [hlive] at hinv
  have hnone : g.all = [] := List.eq_nil_iff_forall_not_mem.mpr fun p hp => by
    have hblocks := (hinv.pages p hp).blocks.length_eq
    rw [length_blocksOf, show liveOn _ [] = [] from rfl, List.append_nil] at hblocks
    exact absurd hblocks (Nat.ne_of_lt (hbusy p hp))
  simpa [hnone] using hinv.accounted.kpages

theorem heap_drained_page :
    ((Op.kfree 0x80100000).perform ((Op.kmalloc 4096 [0x80100000]).perform boot)).heap.kpages.Perm
      [] := by
  refine heap_drained (.tail (.single ⟨.kmalloc 4096 [0x80100000], trivial, rfl, by decide, rfl⟩)
    ⟨.kfree 0x80100000, ?_, rfl, .inr ⟨_, List.mem_cons_self, rfl⟩, rfl⟩) rfl
  rintro ⟨p, ⟨all, hall, hp⟩, -⟩
  cases all with
  | nil => cases hp
  | cons x all => exact hall.2.1 hall.1.symm

end Runs

end Os161.Kmalloc
