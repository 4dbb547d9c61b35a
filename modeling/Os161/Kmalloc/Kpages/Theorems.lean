import Os161.Kmalloc.Kpages

namespace Os161.Kmalloc

open Lib.Exec List
open Lib.Hoare
open Vm

variable {env : Env} {base : Nat} {live : List Vm.Block} {blocks : List Block} {k : Kernel}
  {answers : List Nat} {sz : Word}

section

variable (h : Consistent env base live blocks k)

include h

lemma Consistent.fresh (howned : Owned base coremap ram live')
    (hsupply : Supply live live' answers) (hva : va ∈ answers) (hne : va ≠ 0) :
    k.heap.Fresh va 1 := by
  obtain ⟨b, hb, heq, hdisjoint⟩ := (hsupply.new va hva).resolve_left hne
  obtain ⟨rfl, hlen⟩ := Prod.mk.inj heq
  have htop := howned.start_le hb
  have hmax := howned.last_le
  refine ⟨hne, ?_, ?_, ?_⟩
  · simp only [kvaddr, PAGE_SIZE]
    omega
  · simp only [kvaddr, PAGE_SIZE] at htop ⊢
    omega
  intro p hp
  obtain ⟨c, hc, rfl⟩ := h.backed p hp
  have hapart := disjoint_apart (hdisjoint c hc) (Nat.le_of_eq hlen)
    (h.owned.inside c hc).1
  rwa [← hlen] at hapart

lemma Consistent.room (hram : ram.lastpaddr = k.vm.ram.lastpaddr)
    (howned : Owned base coremap ram (⟨first, n⟩ :: live))
    (hsize : size ≤ n * PAGE_SIZE) :
    Room base live blocks k k' (0x80000000 + first * PAGE_SIZE) size := by
  obtain ⟨hn, hbase, -⟩ := howned.inside _ mem_cons_self
  have hn : 1 ≤ n := hn
  have hbase : base ≤ first * PAGE_SIZE := hbase
  have hend := howned.end_le (b := ⟨first, n⟩) mem_cons_self
  have htop : first * PAGE_SIZE + n * PAGE_SIZE ≤ k.vm.ram.lastpaddr.toNat := by
    rw [← Nat.add_mul, ← hram]
    exact hend
  have hframes : ∀ b ∈ live, 0x80000000 + first * PAGE_SIZE + n * PAGE_SIZE ≤ kvaddr b ∨
      kvaddr b + b.len * PAGE_SIZE ≤ 0x80000000 + first * PAGE_SIZE := by
    intro b hb
    have hapart := disjoint_apart ((pairwise_cons.mp howned.disjoint).1 b hb) hn
      (h.owned.inside b hb).1
    unfold kvaddr at hapart ⊢
    exact hapart
  refine ⟨by omega, by omega, fun b hb => ?_, fun b hb => .inl ?_⟩
  · obtain ⟨g, hinv, -⟩ := h.heap
    obtain ⟨p, hp, hlo, hhi⟩ := hinv.on_kpages hb
    obtain ⟨c, hc, rfl⟩ := h.backed p hp
    have hlo : kvaddr c ≤ b.addr := hlo
    have hhi : b.addr + b.extent ≤ kvaddr c + c.len * PAGE_SIZE := hhi
    rcases hframes c hc with hc | hc
    · exact .inl (by omega)
    · exact .inr (by omega)
  rcases hframes b hb with hb | hb
  · exact .inl (by omega)
  · exact .inr hb

lemma Consistent.subpage (howned : Owned base coremap ram live')
    (hram : ram.lastpaddr = k.vm.ram.lastpaddr) (hsupply : Supply live live' answers)
    (hsize : size < LARGEST_SUBPAGE_SIZE) :
    ∃ ptr heap, (subpageKmalloc size).run { k.heap with answers } = .ok ptr heap ∧
      (ptr = 0 ∨ Room base live blocks k { k with heap } ptr size) := by
  obtain ⟨g, hinv, hbusy⟩ := h.heap
  have hstart : Inv { k.heap with kpages := k.heap.kpages, answers } blocks [] g :=
    hinv.recount (hinv.accounted.use rfl (.refl _)) (fun _ hb _ => hb) fun _ _ => rfl
  obtain ⟨ptr, heap, g', hrun, hinv', -⟩ := subpageKmalloc_inv hstart hbusy hsize
  refine ⟨ptr, heap, hrun, ?_⟩
  by_cases hnull : ptr = 0
  · exact .inl hnull
  rw [if_neg hnull] at hinv'
  have hstocked : Stocked (fun p => ∃ b ∈ live', p = (kvaddr b, b.len)) heap := by
    refine subpageKmalloc_stocked size _ ptr heap ⟨fun p hp => ?_, fun va hva => ?_⟩ hrun
    · obtain ⟨b, hb, heq⟩ := h.backed p hp
      exact ⟨b, hsupply.sub hb, heq⟩
    refine (hsupply.new va hva).imp_right ?_
    rintro ⟨b, hb, heq, -⟩
    exact ⟨b, hb, heq⟩
  obtain ⟨pr, hpr, -, -, hlo, hhi⟩ := hinv'.on_page mem_cons_self hsize
  obtain ⟨b, hb, heq⟩ := hstocked.pages _ (hinv'.accounted.mem_page hpr)
  obtain ⟨haddr, hlen⟩ := Prod.mk.inj heq
  have hlong := (⟨ptr, size⟩ : Block).le_extent
  have hlo : kvaddr b ≤ ptr := haddr ▸ hlo
  have hhi : ptr + size ≤ kvaddr b + PAGE_SIZE := haddr ▸ Nat.le_trans
    (Nat.add_le_add_left hlong ptr) hhi
  have hbase := (howned.inside b hb).2.1
  have htop := howned.end_le hb
  rw [hram, ← hlen, Nat.add_mul, Nat.one_mul] at htop
  refine .inr ⟨?_, ?_, fun c hc => ?_, fun c hc => ?_⟩
  · unfold kvaddr at hlo
    omega
  · unfold kvaddr at hhi
    show ptr + size ≤ 0x80000000 + k.vm.ram.lastpaddr.toNat
    omega
  · rcases (pairwise_cons.mp hinv'.disjoint).1 c hc with hapart | hapart
    · exact .inl (Nat.le_trans (Nat.add_le_add_left hlong ptr) hapart)
    · exact .inr hapart
  by_cases hcb : c = b
  · rw [hcb]
    exact .inr ⟨pr, hinv'.onAll_iff.mpr hpr, haddr, hlen.symm⟩
  have hdisjoint : c.Disjoint b := howned.disjoint.forall (hsupply.sub hc) hb hcb
  rcases disjoint_apart hdisjoint (h.owned.inside c hc).1 (Nat.le_of_eq hlen) with hcb | hcb
  · exact .inl (.inr (Nat.le_trans hcb hlo))
  · rw [← hlen, Nat.one_mul] at hcb
    exact .inl (.inl (Nat.le_trans hhi hcb))

end

lemma fits_request (hfits : Fits ram sz) :
    (Kernel.npages sz).toNat = (sz.toNat + PAGE_SIZE - 1) / PAGE_SIZE ∧
      sz.toNat ≤ (Kernel.npages sz).toNat * PAGE_SIZE ∧
      (Kernel.npages sz * 4096#32).toNat = (Kernel.npages sz).toNat * PAGE_SIZE ∧
      ram.firstpaddr.toNat + (Kernel.npages sz).toNat * PAGE_SIZE < 0x100000000 := by
  unfold Fits at hfits
  have hround : (Kernel.npages sz).toNat = (sz.toNat + PAGE_SIZE - 1) / PAGE_SIZE := by
    rw [npages_toNat]
    simp only [PAGE_SIZE] at hfits ⊢
    omega
  rw [← hround] at hfits
  refine ⟨hround, ?_, size_toNat_of_lt (by omega), hfits⟩
  rw [hround]
  simp only [PAGE_SIZE]
  omega

lemma Consistent.pages (h : Consistent env base live blocks k)
    (hbig : LARGEST_SUBPAGE_SIZE ≤ sz.toNat) (hfits : Fits k.vm.ram sz) :
    ∃ address vm, (Kernel.kmallocPages env sz).run k.vm = .ok address vm ∧
      (address.toNat = 0 ∨ Room base live blocks k { k with vm } address.toNat sz.toNat) := by
  obtain ⟨hround, hsz, -, hfit⟩ := fits_request hfits
  have hn : 1 ≤ (Kernel.npages sz).toNat := by
    rw [hround]
    simp only [PAGE_SIZE, LARGEST_SUBPAGE_SIZE] at hbig ⊢
    omega
  obtain ⟨hram, ⟨haddr, -⟩ | ⟨first, haddr, howned⟩⟩ := h.owned.request hn hfit
  · exact ⟨0#32, _, kmallocPages_null h.locks haddr, .inl rfl⟩
  have htop := howned.start_le mem_cons_self
  obtain ⟨address, hrun, hptr⟩ := kmallocPages_run h.locks haddr
    (howned.frame_addr (howned.inside _ mem_cons_self).2.1 htop)
    (Nat.le_trans htop howned.last_le)
  refine ⟨address, _, hrun, .inr ?_⟩
  rw [hptr]
  exact h.room hram howned hsz

lemma Consistent.wraps (h : Consistent env base live blocks k) (hfits : ¬ Fits k.vm.ram sz) :
    ∃ address vm, (Kernel.kmallocPages env sz).run k.vm = .ok address vm ∧ address.toNat ≠ 0 ∧
      ∀ k', ¬ Room base live blocks k k' address.toNat sz.toNat := by
  have hlast := h.owned.last_le
  have hfirst := h.owned.first_le
  have hword := sz.isLt
  unfold Fits at hfits
  have hpages : (Kernel.npages sz).toNat ≤ 0xfffff := by
    rw [npages_toNat]
    omega
  have hwraps : (Kernel.npages sz).toNat = 0 ∨
      0x100000000 ≤ k.vm.ram.firstpaddr.toNat + (Kernel.npages sz).toNat * PAGE_SIZE := by
    rw [npages_toNat]
    simp only [PAGE_SIZE] at hfits ⊢
    omega
  obtain ⟨first, haddr, hlo, hhi⟩ := h.owned.request_wraps hpages hwraps
  obtain ⟨address, hrun, hptr⟩ := kmallocPages_run h.locks haddr (h.owned.frame_addr hlo hhi)
    (Nat.le_trans hhi hlast)
  refine ⟨address, _, hrun, by omega, fun k' hroom => ?_⟩
  have hhigh := hroom.high
  rw [hptr] at hhigh
  simp only [PAGE_SIZE] at hfits
  omega

-- Whatever is asked for, kmalloc returns; it keeps its promise exactly for the requests that
-- fit below 4 GB.
theorem kmalloc_granted_iff (h : Consistent env base live blocks k)
    (hsupplied : Kernel.Supplied env k.vm answers) (sz : Word) :
    (∃ ptr k', (Kernel.kmalloc env answers sz).run k = .ok ptr k' ∧
      (Granted base live blocks k k' ptr sz ↔ Fits k.vm.ram sz)) ∧
    (∀ va ∈ answers, va ≠ 0 → k.heap.Fresh va 1) ∧
    answers.Pairwise fun va vb => va = 0 ∨ vb = 0 ∨ Apart (va, 1) (vb, 1) := by
  obtain ⟨live', coremap, ram, howned, hram, hsupply⟩ := supplied_spec h.owned h.locks hsupplied
  refine ⟨?_, fun va hva hne => h.fresh howned hsupply hva hne, hsupply.apart⟩
  unfold Kernel.kmalloc
  by_cases hbig : LARGEST_SUBPAGE_SIZE ≤ sz.toNat
  · rw [if_pos hbig]
    by_cases hfits : Fits k.vm.ram sz
    · obtain ⟨address, vm, hrun, hresult⟩ := h.pages hbig hfits
      obtain ⟨-, hsz, hsize, -⟩ := fits_request hfits
      refine ⟨_, _, (bind_run_ok (onVm_ok hrun) _).trans rfl, fun _ => hfits, fun _ => ?_⟩
      exact ⟨hsize ▸ hsz, hresult⟩
    obtain ⟨address, vm, hrun, hne, hnone⟩ := h.wraps hfits
    refine ⟨_, _, (bind_run_ok (onVm_ok hrun) _).trans rfl, fun hgranted => ?_,
      fun hc => absurd hc hfits⟩
    exact absurd (hgranted.2.resolve_left hne) (hnone _)
  rw [if_neg hbig]
  have hsmall := Nat.lt_of_not_le hbig
  have hfits : Fits k.vm.ram sz := by
    have hlast := h.owned.last_le
    have hfirst := h.owned.first_le
    unfold Fits
    simp only [PAGE_SIZE, LARGEST_SUBPAGE_SIZE] at hsmall ⊢
    omega
  obtain ⟨ptr, heap, hrun, hresult⟩ := h.subpage howned hram hsupply hsmall
  obtain ⟨-, hsz, hsize, -⟩ := fits_request hfits
  exact ⟨ptr, _, onHeap_ok hrun, fun _ => hfits, fun _ => ⟨hsize ▸ hsz, hresult⟩⟩

def freshKernel : Kernel := ⟨smallPool, boot.heap⟩

lemma freshKernel_consistent : Consistent steadyEnv 0x4000 [] [] freshKernel := by
  have hboot : Booted smallRam := ⟨by decide, by decide, by decide, by decide⟩
  have hpool : Pool smallRam smallPool [] := pool_boot (s := smallPool) hboot rfl
  obtain ⟨-, g, hinv, hbusy⟩ := kept_boot
  exact ⟨fun _ _ => rfl, hpool.owned hboot, ⟨g, hinv, hbusy⟩, fun p hp => by cases hp⟩

theorem kmalloc_granted_page :
    ∃ ptr k', (Kernel.kmalloc steadyEnv [] 4096#32).run freshKernel = .ok ptr k' ∧
      Granted 0x4000 [] [] freshKernel k' ptr 4096#32 := by
  obtain ⟨⟨ptr, k', hrun, hiff⟩, -⟩ := kmalloc_granted_iff freshKernel_consistent
    (show Kernel.Supplied steadyEnv freshKernel.vm [] from trivial) 4096#32
  exact ⟨ptr, k', hrun, hiff.mpr (by unfold Fits; decide)⟩

def twice (first second : Word) : EStateM Stop Kernel (Nat × Nat) := do
  let a ← Kernel.kmalloc steadyEnv [] first
  let b ← Kernel.kmalloc steadyEnv [] second
  pure (a, b)

-- Almost 4 GB are granted from 48 kB: rounded up they are no page at all, and the next caller
-- gets the same memory; or the end of the block wraps around below its start.
theorem kmalloc_wraps :
    (twice 0xffffffff#32 4096#32).run' freshKernel = some (0x80004000, 0x80004000) ∧
      (twice 0xffffd000#32 4096#32).run' freshKernel = some (0x80004000, 0x80001000) ∧
      freshKernel.vm.ram.lastpaddr.toNat = 0x10000 := by
  decide +kernel

end Os161.Kmalloc
