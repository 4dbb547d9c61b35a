import Os161.Kmalloc.Supply
import Os161.Vm.Coremap.Theorems

-- kmalloc on top of the page allocator of coremap.c, in the 32 bits that its numbers have.

namespace Os161.Kmalloc

open Lib.Exec
open Lib.Hoare
open Vm

structure Kernel where
  vm : State
  heap : Kheap

namespace Kernel

def allocKpages (env : Env) (npages : Word) : Kern Word := do
  let pa ← getppages env npages
  if pa = 0#32 then pure 0#32 else pure (pa + MIPS_KSEG0)

def npages (sz : Word) : Word := (sz + 4096#32 - 1#32) / 4096#32

def kmallocPages (env : Env) (sz : Word) : Kern Word := do
  let address ← allocKpages env (npages sz)
  if address = 0#32 then pure 0#32
  else do
    kassert (address % 4096#32 = 0#32) "address % PAGE_SIZE == 0"
    pure address

def onVm {α : Type} (x : Kern α) : EStateM Stop Kernel α := fun k =>
  match x.run k.vm with
  | .ok a vm => .ok a { k with vm }
  | .error e vm => .error e { k with vm }

def onHeap {α : Type} (answers : List Nat) (x : Heap α) : EStateM Stop Kernel α := fun k =>
  match x.run { k.heap with answers } with
  | .ok a heap => .ok a { k with heap }
  | .error e heap => .error e { k with heap }

-- `answers` are the pages that subpage_kmalloc gets when it calls alloc_kpages. A page that it
-- gives back goes after its last call, so the tables of coremap.c are not followed through it.
def kmalloc (env : Env) (answers : List Nat) (sz : Word) : EStateM Stop Kernel Nat :=
  if LARGEST_SUBPAGE_SIZE ≤ sz.toNat then do
    let address ← onVm (kmallocPages env sz)
    pure address.toNat
  else onHeap answers (subpageKmalloc sz.toNat)

def Supplied (env : Env) : State → List Nat → Prop
  | _, [] => True
  | s, va :: rest => ∃ address t, (allocKpages env 1#32).run s = .ok address t ∧
      va = address.toNat ∧ Supplied env t rest

end Kernel

def kvaddr (b : Vm.Block) : Nat := 0x80000000 + b.first * PAGE_SIZE

-- The owners of frames and the tables agree, the heap is in order, and its pages are among the
-- frames in use.
structure Consistent (env : Env) (base : Nat) (live : List Vm.Block) (blocks : List Block)
    (k : Kernel) : Prop where
  locks : ∀ lock, Available env lock k.vm
  owned : Owned base k.vm.coremap k.vm.ram live
  heap : ∃ g, Inv k.heap blocks [] g ∧ Busy k.heap g
  backed : ∀ p ∈ k.heap.kpages, ∃ b ∈ live, p = (kvaddr b, b.len)

-- `sz` bytes at `ptr`: in memory, and no part of what somebody has, except that a small block
-- lies on a page of the subpage allocator.
structure Room (base : Nat) (live : List Vm.Block) (blocks : List Block) (k k' : Kernel)
    (ptr sz : Nat) : Prop where
  low : 0x80000000 + base ≤ ptr
  high : ptr + sz ≤ 0x80000000 + k.vm.ram.lastpaddr.toNat
  blocks : ∀ b ∈ blocks, ptr + sz ≤ b.addr ∨ b.addr + b.extent ≤ ptr
  frames : ∀ b ∈ live, (ptr + sz ≤ kvaddr b ∨ kvaddr b + b.len * PAGE_SIZE ≤ ptr) ∨
    ∃ pr, OnAll k'.heap pr ∧ (k'.heap.pageref pr).pageaddr = kvaddr b ∧ b.len = 1

def Granted (base : Nat) (live : List Vm.Block) (blocks : List Block) (k k' : Kernel) (ptr : Nat)
    (sz : Word) : Prop :=
  sz.toNat ≤ (Kernel.npages sz * 4096#32).toNat ∧
    (ptr = 0 ∨ Room base live blocks k k' ptr sz.toNat)

def Fits (ram : Ram) (sz : Word) : Prop :=
  ram.firstpaddr.toNat + (sz.toNat + PAGE_SIZE - 1) / PAGE_SIZE * PAGE_SIZE < 0x100000000

section Pages

variable {s : State}

lemma onVm_ok (h : x.run k.vm = .ok a vm) :
    (Kernel.onVm x).run k = .ok a { k with vm } := by
  show Kernel.onVm x k = _
  unfold Kernel.onVm
  rw [h]

lemma onHeap_ok (h : x.run { k.heap with answers } = .ok a heap) :
    (Kernel.onHeap answers x).run k = .ok a { k with heap } := by
  show Kernel.onHeap answers x k = _
  unfold Kernel.onHeap
  rw [h]

lemma npages_toNat (sz : Word) :
    (Kernel.npages sz).toNat = (sz.toNat + 4095) % 0x100000000 / 4096 := by
  unfold Kernel.npages
  rw [BitVec.toNat_udiv, BitVec.toNat_sub, BitVec.toNat_add]
  show (0x100000000 - 1 + (sz.toNat + 4096) % 0x100000000) % 0x100000000 / 4096 = _
  omega

instance : Std.Symm Vm.Block.Disjoint := ⟨fun _ _ h frame hf => h frame ⟨hf.2, hf.1⟩⟩

lemma disjoint_apart (h : a.Disjoint b) (ha : 1 ≤ a.len) (hb : 1 ≤ b.len) :
    kvaddr a + a.len * PAGE_SIZE ≤ kvaddr b ∨ kvaddr b + b.len * PAGE_SIZE ≤ kvaddr a := by
  have hab := h a.first
  have hba := h b.first
  simp only [Vm.Block.Has, kvaddr, PAGE_SIZE] at *
  omega

def afterRequest (s : State) (npages : Word) : State :=
  (s.setCoremap (allocCoremap s.coremap s.ram npages)).setRam (allocRam s.coremap s.ram npages)

lemma Kernel.allocKpages_run (hlocks : ∀ lock, Available env lock s) (npages : Word) :
    (Kernel.allocKpages env npages).run s =
      .ok (if allocAddr s.coremap s.ram npages = 0#32 then 0#32
        else allocAddr s.coremap s.ram npages + MIPS_KSEG0) (afterRequest s npages) := by
  unfold Kernel.allocKpages
  rw [bind_run_ok (getppages_ok.mpr ⟨hlocks .freemem, fun _ => hlocks .stealmem, rfl, rfl⟩)]
  split <;> rfl

lemma frame_kvaddr (hle : first * PAGE_SIZE ≤ 512 * 1024 * 1024) :
    (BitVec.ofNat 32 (first * PAGE_SIZE) + MIPS_KSEG0).toNat = 0x80000000 + first * PAGE_SIZE := by
  rw [BitVec.toNat_add, frameAddr_toNat (by omega)]
  show (first * PAGE_SIZE + 0x80000000) % 0x100000000 = _
  omega

lemma kmallocPages_run (hlocks : ∀ lock, Available env lock s)
    (haddr : allocAddr s.coremap s.ram (Kernel.npages sz) = BitVec.ofNat 32 (first * PAGE_SIZE))
    (hne : BitVec.ofNat 32 (first * PAGE_SIZE) ≠ 0#32)
    (hle : first * PAGE_SIZE ≤ 512 * 1024 * 1024) :
    ∃ address, (Kernel.kmallocPages env sz).run s =
        .ok address (afterRequest s (Kernel.npages sz)) ∧
      address.toNat = 0x80000000 + first * PAGE_SIZE := by
  have htoNat := frame_kvaddr hle
  have hnull : BitVec.ofNat 32 (first * PAGE_SIZE) + MIPS_KSEG0 ≠ 0#32 := by
    intro hzero
    have hnat : (0#32).toNat = 0x80000000 + first * PAGE_SIZE := hzero ▸ htoNat
    exact absurd hnat (by simp only [BitVec.toNat_ofNat]; omega)
  have haligned : (BitVec.ofNat 32 (first * PAGE_SIZE) + MIPS_KSEG0) % 4096#32 = 0#32 := by
    apply BitVec.eq_of_toNat_eq
    rw [BitVec.toNat_umod, htoNat]
    show (0x80000000 + first * 4096) % 4096 = 0
    omega
  refine ⟨_, ?_, htoNat⟩
  rw [Kernel.kmallocPages, bind_run_ok (Kernel.allocKpages_run hlocks _), haddr, if_neg hne,
    if_neg hnull, bind_run_ok (kassert_pass haligned _ _)]
  rfl

lemma kmallocPages_null (hlocks : ∀ lock, Available env lock s)
    (haddr : allocAddr s.coremap s.ram (Kernel.npages sz) = 0#32) :
    (Kernel.kmallocPages env sz).run s = .ok 0#32 (afterRequest s (Kernel.npages sz)) := by
  rw [Kernel.kmallocPages, bind_run_ok (Kernel.allocKpages_run hlocks _), haddr, if_pos rfl,
    if_pos rfl]
  rfl

lemma Inv.on_kpages (hinv : Inv h blocks [] g) (hb : b ∈ blocks) :
    ∃ p ∈ h.kpages, p.1 ≤ b.addr ∧ b.addr + b.extent ≤ p.1 + p.2 * PAGE_SIZE := by
  by_cases hsz : b.sz < LARGEST_SUBPAGE_SIZE
  · obtain ⟨pr, hpr, -, -, hlo, hhi⟩ := hinv.on_page hb hsz
    refine ⟨_, hinv.accounted.mem_page hpr, hlo, ?_⟩
    rwa [Nat.one_mul]
  refine ⟨(b.addr, b.npages), hinv.accounted.kpages.mem_iff.mpr (List.mem_append_right _
    (List.mem_append_right _ (List.mem_append_right _ ?_))), Nat.le_refl _, ?_⟩
  · exact List.mem_filterMap.mpr ⟨b, hb, if_neg hsz⟩
  · rw [Block.extent, if_neg hsz]

end Pages

section Supply

variable {live : List Vm.Block} {answers : List Nat}

structure Supply (live live' : List Vm.Block) (answers : List Nat) : Prop where
  sub : live ⊆ live'
  new : ∀ va ∈ answers, va = 0 ∨
    ∃ b ∈ live', (va, 1) = (kvaddr b, b.len) ∧ ∀ c ∈ live, b.Disjoint c
  apart : answers.Pairwise fun va vb => va = 0 ∨ vb = 0 ∨ Apart (va, 1) (vb, 1)

lemma supplied_spec : ∀ {s : State} {live : List Vm.Block},
    Owned base s.coremap s.ram live → (∀ lock, Available env lock s) →
    Kernel.Supplied env s answers → ∃ live' coremap ram, Owned base coremap ram live' ∧
      ram.lastpaddr = s.ram.lastpaddr ∧ Supply live live' answers := by
  induction answers with
  | nil =>
    intro s live h _ _
    exact ⟨live, _, _, h, rfl, fun _ hb => hb, by simp, List.Pairwise.nil⟩
  | cons va rest ih =>
    rintro s live h hlocks ⟨address, t, hrun, hva, hrest⟩
    rw [Kernel.allocKpages_run hlocks] at hrun
    cases hrun
    have hlast := h.last_le
    have hfirst := h.first_le
    have hlocks' : ∀ lock, Available env lock (afterRequest s 1#32) := hlocks
    obtain ⟨hram, ⟨haddr, howned⟩ | ⟨first, haddr, howned⟩⟩ :=
      h.request (show 1 ≤ (1#32 : Word).toNat by decide)
        (show s.ram.firstpaddr.toNat + 1 * 4096 < 0x100000000 by omega)
    · obtain ⟨live', coremap, ram, howned', hram', hsupply⟩ := ih howned hlocks' hrest
      have hva : va = 0 := by
        rw [hva, if_pos haddr]
        rfl
      refine ⟨live', coremap, ram, howned', hram'.trans hram, hsupply.sub, ?_, ?_⟩
      · rintro vb hvb
        rcases List.mem_cons.mp hvb with rfl | hvb
        · exact .inl hva
        · exact hsupply.new vb hvb
      · exact List.pairwise_cons.mpr ⟨fun _ _ => .inl hva, hsupply.apart⟩
    obtain ⟨live', coremap, ram, howned', hram', hsupply⟩ := ih howned hlocks' hrest
    have htop := howned.start_le List.mem_cons_self
    have hne := howned.frame_addr (howned.inside _ List.mem_cons_self).2.1 htop
    have hva : va = kvaddr ⟨first, 1⟩ := by
      rw [hva, haddr, if_neg hne, frame_kvaddr (Nat.le_trans htop howned.last_le)]
      rfl
    refine ⟨live', coremap, ram, howned', hram'.trans hram,
      fun b hb => hsupply.sub (List.mem_cons_of_mem _ hb), ?_, ?_⟩
    · intro vb hvb
      rcases List.mem_cons.mp hvb with rfl | hvb
      · refine .inr ⟨⟨first, 1⟩, hsupply.sub List.mem_cons_self, by rw [hva], ?_⟩
        exact (List.pairwise_cons.mp howned.disjoint).1
      refine (hsupply.new vb hvb).imp_right ?_
      rintro ⟨b, hb, heq, hdisjoint⟩
      exact ⟨b, hb, heq, fun c hc => hdisjoint c (List.mem_cons_of_mem _ hc)⟩
    refine List.pairwise_cons.mpr ⟨fun vb hvb => .inr ?_, hsupply.apart⟩
    refine (hsupply.new vb hvb).imp_right ?_
    rintro ⟨b, hb, heq, hdisjoint⟩
    rw [hva, heq]
    have hlen : b.len = 1 := (congrArg Prod.snd heq).symm
    exact (disjoint_apart (hdisjoint _ List.mem_cons_self) (Nat.le_of_eq hlen.symm)
      (Nat.le_refl 1)).symm

end Supply

end Os161.Kmalloc
