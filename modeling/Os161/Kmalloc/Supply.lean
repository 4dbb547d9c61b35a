import Os161.Kmalloc.Theorems
import Os161.Lib.Hoare

-- The pages that the heap has come from the page allocator, those that it asks for next too.

namespace Os161.Kmalloc

open Lib.Exec
open Lib.Hoare
open Vm

structure Stocked (kind : Nat × Nat → Prop) (s : Kheap) : Prop where
  pages : ∀ p ∈ s.kpages, kind p
  answers : ∀ va ∈ s.answers, va = 0 ∨ kind (va, 1)

section Stocked

lemma kassert_maintains (P : σ → Prop) (holds : Bool) (expr : String) :
    Maintains P (kassert holds expr) := by
  unfold kassert
  exact triple_ite (fun _ => triple_pure fun _ hs => hs) fun _ => triple_throw _

lemma setRoot_stocked (whichroot : Nat) (root : KheapRoot) :
    Maintains (Stocked kind) (setRoot whichroot root) :=
  triple_modify fun _ hs => ⟨hs.pages, hs.answers⟩

lemma setPageref_stocked (p : Nat) (pr : Pageref) : Maintains (Stocked kind) (setPageref p pr) :=
  triple_modify fun _ hs => ⟨hs.pages, hs.answers⟩

lemma setMem_stocked (addr value : Nat) : Maintains (Stocked kind) (setMem addr value) :=
  triple_modify fun _ hs => ⟨hs.pages, hs.answers⟩

lemma allocKpages_stocked : Maintains (Stocked kind) (allocKpages 1) := by
  intro s va t hs hrun
  unfold allocKpages at hrun
  rw [EStateM.run_modifyGet] at hrun
  cases hlist : s.answers with
  | nil =>
    simp only [hlist] at hrun
    cases hrun
    exact hs
  | cons answer answers =>
    have hanswers : ∀ va ∈ answers, va = 0 ∨ kind (va, 1) := fun va hva =>
      hs.answers va (hlist ▸ List.mem_cons_of_mem _ hva)
    simp only [hlist] at hrun
    by_cases hfresh : s.Fresh answer 1
    · rw [if_pos hfresh] at hrun
      cases hrun
      refine ⟨fun p hp => ?_, hanswers⟩
      rcases List.mem_cons.mp hp with rfl | hp
      · exact (hs.answers _ (hlist ▸ List.mem_cons_self)).resolve_left hfresh.1
      · exact hs.pages p hp
    rw [if_neg hfresh] at hrun
    cases hrun
    exact ⟨hs.pages, hanswers⟩

lemma freeKpages_stocked (va : Nat) : Maintains (Stocked kind) (freeKpages va) := by
  intro s a t hs hrun
  unfold freeKpages at hrun
  rw [bind_run_ok (EStateM.run_get s)] at hrun
  split at hrun
  · cases hrun
    exact ⟨fun p hp => hs.pages p (List.mem_of_mem_eraseP hp), hs.answers⟩
  · cases hrun

lemma findRef_stocked (next : Nat → Nat) (test stop : Nat → Bool) (expr : String) (fuel : Nat) :
    ∀ pr, Maintains (Stocked kind) (findRef next test stop expr fuel pr) := by
  induction fuel with
  | zero => exact fun _ => triple_throw _
  | succ fuel ih =>
    intro pr
    rw [findRef]
    refine triple_ite (fun _ => triple_pure fun _ hs => hs) fun _ => ?_
    refine maintains_bind (kassert_maintains _ _ _) fun _ => ?_
    exact triple_ite (fun _ => triple_pure fun _ hs => hs) fun _ => ih (next pr)

lemma allocpagerefpage_stocked (whichroot : Nat) :
    Maintains (Stocked kind) (allocpagerefpage whichroot) := by
  unfold allocpagerefpage
  refine triple_read fun _ => maintains_bind (kassert_maintains _ _ _) fun _ => ?_
  refine maintains_bind allocKpages_stocked fun va => ?_
  refine triple_ite (fun _ => triple_pure fun _ hs => hs) fun _ => ?_
  refine maintains_bind (kassert_maintains _ _ _) fun _ => triple_read fun _ => ?_
  exact triple_ite (fun _ => freeKpages_stocked va) fun _ => setRoot_stocked _ _

lemma allocpageref_stocked : Maintains (Stocked kind) allocpageref := by
  have hend : ∀ whichroot j, Maintains (Stocked kind) (do
      let s ← get
      if (s.kheaproots whichroot).page = 0 then pure 0
      else pure ((s.kheaproots whichroot).page + PAGEREF_SIZE * j) : Heap Nat) := fun _ _ =>
    triple_read fun _ => triple_ite (fun _ => triple_pure fun _ hs => hs)
      fun _ => triple_pure fun _ hs => hs
  unfold allocpageref
  refine triple_read fun s => ?_
  split
  · exact triple_pure fun _ hs => hs
  split
  · exact triple_throw _
  refine maintains_bind (setRoot_stocked _ _) fun _ => ?_
  exact triple_ite (fun _ => maintains_bind (allocpagerefpage_stocked _) fun _ => hend _ _)
    fun _ => hend _ _

lemma doalloc_stocked (pr : Nat) : Maintains (Stocked kind) (doalloc pr) := by
  have hend : ∀ (ref : Pageref) retptr, Maintains (Stocked kind) (do
      setPageref pr ref
      pure retptr : Heap Nat) := fun _ _ =>
    maintains_bind (setPageref_stocked _ _) fun _ => triple_pure fun _ hs => hs
  unfold doalloc
  refine triple_read fun s => maintains_bind (kassert_maintains _ _ _) fun _ => ?_
  refine triple_ite (fun _ => ?_) fun _ => ?_
  · refine maintains_bind (kassert_maintains _ _ _) fun _ => ?_
    exact maintains_bind (kassert_maintains _ _ _) fun _ => hend _ _
  · exact maintains_bind (kassert_maintains _ _ _) fun _ => hend _ _

lemma carve_stocked (prpage blktype nfree : Nat) :
    Maintains (Stocked kind) (carve prpage blktype nfree) := by
  unfold carve
  refine maintains_bind (setMem_stocked _ _) fun _ => maintains_loop (fun i => ?_) _ _
  exact maintains_bind (setMem_stocked _ _) fun _ => kassert_maintains _ _ _

lemma blocktype_stocked (sz : Nat) : Maintains (Stocked kind) (blocktype sz) := by
  unfold blocktype
  split
  · exact triple_pure fun _ hs => hs
  · exact triple_throw _

lemma subpageKmalloc_stocked (sz : Nat) : Maintains (Stocked kind) (subpageKmalloc sz) := by
  unfold subpageKmalloc
  refine maintains_bind (blocktype_stocked sz) fun blktype => triple_read fun s => ?_
  refine maintains_bind (findRef_stocked _ _ _ _ _ _) fun pr => ?_
  refine triple_ite (fun _ => doalloc_stocked pr) fun _ => ?_
  refine maintains_bind allocKpages_stocked fun prpage => ?_
  refine triple_ite (fun _ => triple_pure fun _ hs => hs) fun _ => ?_
  refine maintains_bind (kassert_maintains _ _ _) fun _ => ?_
  refine maintains_bind allocpageref_stocked fun pr => ?_
  refine triple_ite (fun _ => ?_) fun _ => ?_
  · exact maintains_bind (freeKpages_stocked prpage) fun _ => triple_pure fun _ hs => hs
  refine maintains_bind (carve_stocked _ _ _) fun _ => triple_read fun s => ?_
  refine maintains_bind (setPageref_stocked _ _) fun _ => ?_
  exact maintains_bind (triple_modify fun _ hs => ⟨hs.pages, hs.answers⟩) fun _ =>
    doalloc_stocked pr

end Stocked

end Os161.Kmalloc
