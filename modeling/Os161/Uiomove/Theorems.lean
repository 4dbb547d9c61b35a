import Mathlib.Algebra.BigOperators.Group.List.Basic
import Os161.Copyinout.Theorems
import Os161.Uiomove

namespace Os161.Uiomove

open Function Copyinout Lib.Exec BitVec List
open Vm (Word EFAULT MIPS_KSEG0)

section Iovecs

variable {v : Iovec} {vs : List Iovec} {k m : Nat}

def total (iov : List Iovec) : Nat := iov.foldr (fun v n => v.len.toNat + n) 0

def chunk (base : Word) (n : Nat) : List Word :=
  (List.range n).map fun i => base + BitVec.ofNat 32 i

def stream (iov : List Iovec) : List Word := iov.flatMap fun v => chunk v.base v.len.toNat

def consume : Nat → List Iovec → List Iovec
  | _, [] => []
  | k, v :: vs =>
    if k = 0 then v :: vs
    else if k ≤ v.len.toNat then ⟨v.base + BitVec.ofNat 32 k, v.len - BitVec.ofNat 32 k⟩ :: vs
    else consume (k - v.len.toNat) vs

@[simp] lemma total_nil : total [] = 0 := rfl

@[simp] lemma total_cons (v : Iovec) (vs : List Iovec) :
    total (v :: vs) = v.len.toNat + total vs := rfl

@[simp] lemma consume_zero (iov : List Iovec) : consume 0 iov = iov := by
  cases iov <;> simp [consume]

lemma consume_skip (hk : 0 < k) (hv : v.len = 0) : consume k (v :: vs) = consume k vs := by
  have hlen : v.len.toNat = 0 := by rw [hv]; rfl
  rw [consume, if_neg (by omega), if_neg (by omega), hlen, Nat.sub_zero]

lemma consume_front (hk : 0 < k) (hle : k ≤ v.len.toNat) : consume k (v :: vs) =
    ⟨v.base + BitVec.ofNat 32 k, v.len - BitVec.ofNat 32 k⟩ :: vs := by
  rw [consume, if_neg (by omega), if_pos hle]

lemma toNat_sub_ofNat (hk : k ≤ w.toNat) :
    (w - BitVec.ofNat 32 k).toNat = w.toNat - k := by
  bv_omega

lemma consume_add (k m : Nat) (iov : List Iovec) :
    consume (k + m) iov = consume m (consume k iov) := by
  induction iov generalizing k with
  | nil => simp [consume]
  | cons v vs ih =>
    rcases Nat.eq_zero_or_pos k with rfl | hk
    · simp
    rcases Nat.eq_zero_or_pos m with rfl | hm
    · simp
    by_cases hle : k ≤ v.len.toNat
    · have hleft := toNat_sub_ofNat hle
      rw [consume_front hk hle]
      by_cases hle' : k + m ≤ v.len.toNat
      · rw [consume_front (by omega) hle', consume_front hm (by simp only; omega)]
        congr 2
        · bv_omega
        · bv_omega
      have hover : ¬ m ≤ v.len.toNat - k := by omega
      rw [consume, if_neg (by omega), if_neg hle', consume, if_neg (by omega)]
      simp only [hleft, if_neg hover]
      congr 1
      omega
    rw [consume, if_neg (by omega), if_neg (by omega)]
    conv_rhs => rw [consume, if_neg (by omega), if_neg hle]
    rw [← ih]
    congr 1
    omega

lemma total_consume (hk : k ≤ total vs) : total (consume k vs) = total vs - k := by
  induction vs generalizing k with
  | nil => simp [consume]
  | cons v vs ih =>
    rcases Nat.eq_zero_or_pos k with rfl | hpos
    · simp
    by_cases hle : k ≤ v.len.toNat
    · rw [consume_front hpos hle, total_cons, total_cons, toNat_sub_ofNat hle]
      omega
    rw [consume, if_neg (by omega), if_neg hle, ih, total_cons]
    · omega
    · rw [total_cons] at hk
      omega

def Cuts (m : Nat) (iov : List Iovec) : Prop := ∃ j, total (iov.take j) = m

lemma cuts_cons (hm : 0 < m) (h : Cuts m (v :: vs)) :
    v.len.toNat ≤ m ∧ Cuts (m - v.len.toNat) vs := by
  obtain ⟨j, hj⟩ := h
  cases j with
  | zero =>
    rw [take_zero, total_nil] at hj
    omega
  | succ j =>
    rw [take_succ_cons, total_cons] at hj
    exact ⟨by omega, j, by omega⟩

lemma cuts_of_rest (hle : v.len.toNat ≤ m) (h : Cuts (m - v.len.toNat) vs) :
    Cuts m (v :: vs) := by
  obtain ⟨j, hj⟩ := h
  refine ⟨j + 1, ?_⟩
  rw [take_succ_cons, total_cons, hj]
  omega

lemma cuts_consume (hk : k ≤ m) (h : Cuts m vs) : Cuts (m - k) (consume k vs) := by
  induction vs generalizing k m with
  | nil =>
    obtain ⟨j, hj⟩ := h
    rw [take_nil, total_nil] at hj
    exact ⟨0, by simp; omega⟩
  | cons v vs ih =>
    rcases Nat.eq_zero_or_pos k with rfl | hpos
    · simpa using h
    obtain ⟨hle, j, hj⟩ := cuts_cons (by omega) h
    by_cases hkv : k ≤ v.len.toNat
    · rw [consume_front hpos hkv]
      refine ⟨j + 1, ?_⟩
      rw [take_succ_cons, total_cons, hj, toNat_sub_ofNat hkv]
      omega
    rw [consume, if_neg (by omega), if_neg hkv]
    have := ih (show k - v.len.toNat ≤ m - v.len.toNat by omega) ⟨j, hj⟩
    rwa [show m - v.len.toNat - (k - v.len.toNat) = m - k by omega] at this

lemma length_chunk (base : Word) (n : Nat) : (chunk base n).length = n := by simp [chunk]

lemma chunk_add (base : Word) (k m : Nat) :
    chunk base (k + m) = chunk base k ++ chunk (base + BitVec.ofNat 32 k) m := by
  simp only [chunk, range_add, map_append, map_map]
  congr 1
  refine map_congr_left fun i _ => ?_
  simp only [Function.comp_apply]
  bv_omega

lemma stream_front (hle : k ≤ v.len.toNat) : stream (v :: vs) = chunk v.base k ++
    stream (⟨v.base + BitVec.ofNat 32 k, v.len - BitVec.ofNat 32 k⟩ :: vs) := by
  simp only [stream, flatMap_cons, toNat_sub_ofNat hle, ← List.append_assoc]
  rw [← chunk_add, Nat.add_sub_cancel' hle]

lemma stream_skip (hv : v.len = 0) : stream (v :: vs) = stream vs := by
  simp [stream, hv, chunk]

lemma stream_consume (k : Nat) (iov : List Iovec) :
    stream (consume k iov) = (stream iov).drop k := by
  induction iov generalizing k with
  | nil => simp [consume, stream]
  | cons v vs ih =>
    rcases Nat.eq_zero_or_pos k with rfl | hk
    · simp
    by_cases hle : k ≤ v.len.toNat
    · have hchunk : (chunk v.base k).drop k = [] :=
        drop_of_length_le (Nat.le_of_eq (length_chunk v.base k))
      rw [consume_front hk hle, stream_front hle, drop_append, hchunk, length_chunk,
        Nat.sub_self, drop_zero, nil_append]
    have hchunk : (chunk v.base v.len.toNat).drop k = [] :=
      drop_of_length_le (by rw [length_chunk]; omega)
    rw [consume, if_neg (by omega), if_neg hle, ih]
    simp only [stream, flatMap_cons]
    rw [drop_append, hchunk, length_chunk, nil_append]

lemma length_stream (iov : List Iovec) : (stream iov).length = total iov := by
  induction iov with
  | nil => rfl
  | cons v vs ih =>
    rw [total_cons, ← ih, ← length_chunk v.base v.len.toNat]
    exact length_append

end Iovecs

section Bytes

variable {s : State} {seg : UioSeg} {rw : UioRw} {ptr base a size : Word} {n : Nat} {as : List Word}

def moveByte (seg : UioSeg) (rw : UioRw) (ptr a : Word) (s : State) : State :=
  match seg, rw with
  | .sysspace, .read => { s with kernel := update s.kernel a (s.kernel ptr) }
  | .sysspace, .write => { s with kernel := update s.kernel ptr (s.kernel a) }
  | _, .read =>
    { s with
      user := update s.user a (s.kernel ptr)
      accesses := s.accesses ++ [(.store, a)] }
  | _, .write =>
    { s with
      kernel := update s.kernel ptr (s.user a)
      accesses := s.accesses ++ [(.load, a)] }

def moveBytes (seg : UioSeg) (rw : UioRw) : Word → List Word → State → State
  | _, [], s => s
  | ptr, a :: as, s => moveBytes seg rw (ptr + 1) as (moveByte seg rw ptr a s)

lemma moveByte_faults (seg : UioSeg) (rw : UioRw) (ptr a : Word) (s : State) :
    (moveByte seg rw ptr a s).faults = s.faults ∧
    (moveByte seg rw ptr a s).badfaultfunc = s.badfaultfunc := by
  cases seg <;> cases rw <;> exact ⟨rfl, rfl⟩

lemma moveByte_badfaultfunc (b : Bool) (s : State) :
    moveByte seg rw ptr a { s with badfaultfunc := b } =
      { moveByte seg rw ptr a s with badfaultfunc := b } := by
  cases seg <;> cases rw <;> rfl

lemma moveBytes_faults (seg : UioSeg) (rw : UioRw) (ptr : Word) (as : List Word) (s : State) :
    (moveBytes seg rw ptr as s).faults = s.faults ∧
      (moveBytes seg rw ptr as s).badfaultfunc = s.badfaultfunc := by
  induction as generalizing ptr s with
  | nil => exact ⟨rfl, rfl⟩
  | cons a as ih =>
    obtain ⟨hfaults, hfunc⟩ := ih (ptr + 1) (moveByte seg rw ptr a s)
    obtain ⟨hfaults', hfunc'⟩ := moveByte_faults seg rw ptr a s
    exact ⟨hfaults.trans hfaults', hfunc.trans hfunc'⟩

lemma moveBytes_badfaultfunc (b : Bool) (ptr : Word) (as : List Word) (s : State) :
    moveBytes seg rw ptr as { s with badfaultfunc := b } =
      { moveBytes seg rw ptr as s with badfaultfunc := b } := by
  induction as generalizing ptr s with
  | nil => rfl
  | cons a as ih =>
    rw [moveBytes, moveByte_badfaultfunc, ih]
    rfl

lemma moveBytes_append (ptr : Word) (as bs : List Word) (s : State) :
    moveBytes seg rw ptr (as ++ bs) s =
      moveBytes seg rw (ptr + BitVec.ofNat 32 as.length) bs (moveBytes seg rw ptr as s) := by
  induction as generalizing ptr s with
  | nil => simp [moveBytes]
  | cons a as ih =>
    rw [List.cons_append, moveBytes, ih, moveBytes]
    congr 1
    simp only [length_cons]
    bv_omega

lemma loop_moves {body : Nat → Copy Unit} (good : State → Prop)
    (hbody : ∀ i < n, ∀ u, good u → (body i).run u =
      .ok () (moveByte seg rw (ptr + BitVec.ofNat 32 i) (base + BitVec.ofNat 32 i) u) ∧
        good (moveByte seg rw (ptr + BitVec.ofNat 32 i) (base + BitVec.ofNat 32 i) u))
    (first count : Nat) (hn : first + count ≤ n) (hs : good s) :
    (loop body first count).run s = .ok () (moveBytes seg rw (ptr + BitVec.ofNat 32 first)
      (chunk (base + BitVec.ofNat 32 first) count) s) := by
  induction count generalizing first s with
  | zero => rfl
  | succ count ih =>
    obtain ⟨hrun, hgood⟩ := hbody first (by omega) s hs
    have hchunk : chunk (base + BitVec.ofNat 32 first) (count + 1) =
        (base + BitVec.ofNat 32 first) :: chunk (base + BitVec.ofNat 32 (first + 1)) count := by
      rw [Nat.add_comm count 1, chunk_add]
      simp only [chunk, range_one, map_cons, map_nil, singleton_append]
      congr 1
      · bv_omega
      congr 1
      funext i
      bv_omega
    rw [loop_succ, bind_run_ok hrun, ih (first + 1) (by omega) hgood, hchunk, moveBytes]
    congr 2
    bv_omega

def UioRw.access : UioRw → Access
  | .read => .store
  | .write => .load

def Clear (s : State) (seg : UioSeg) (rw : UioRw) (as : List Word) : Prop :=
  s.badfaultfunc = false ∧ (seg ≠ .sysspace →
    ∀ a ∈ as, a < USERSPACETOP ∧ s.faults rw.access a = false)

def Separate (seg : UioSeg) (ptr : Word) (n : Nat) (as : List Word) : Prop :=
  seg = .sysspace → ∀ i < n, ∀ a ∈ as, ptr + BitVec.ofNat 32 i ≠ a

lemma chunk_below (hsize : size ≠ 0)
    (h : ∀ a ∈ chunk base size.toNat, a < USERSPACETOP) :
    base.toNat + size.toNat ≤ USERSPACETOP.toNat := by
  have hmem : ∀ i < size.toNat, base + BitVec.ofNat 32 i < USERSPACETOP := fun i hi =>
    h _ (mem_map.mpr ⟨i, mem_range.mpr hi, rfl⟩)
  have hfirst := hmem 0 (by bv_omega)
  by_contra hover
  have hcross := hmem (USERSPACETOP.toNat - base.toNat)
  simp only [USERSPACETOP, MIPS_KSEG0] at *
  bv_omega

lemma transfer_copied {body : Nat → Copy Unit}
    (hbody : ∀ i < size.toNat, ∀ u : State, u.faults = s.faults → (body i).run u =
      .ok () (moveByte seg rw (ptr + BitVec.ofNat 32 i) (base + BitVec.ofNat 32 i) u))
    (hfunc : s.badfaultfunc = false) :
    (guarded EFAULT do
      loop body 0 size.toNat
      pure 0).run s = .ok 0 (moveBytes seg rw ptr (chunk base size.toNat) s) := by
  let u : State := { s with badfaultfunc := true }
  have hloop := loop_moves (s := u) (fun u => u.faults = s.faults)
    (fun i hi u hu => ⟨hbody i hi u hu, (moveByte_faults ..).1.trans hu⟩) 0 size.toNat
    (by omega) rfl
  have hzero : ∀ w : Word, w + BitVec.ofNat 32 0 = w := fun w => by bv_omega
  rw [hzero, hzero] at hloop
  rw [guarded_ok (by rw [bind_run_ok hloop]; rfl), moveBytes_badfaultfunc]
  have hkept := (moveBytes_faults seg rw ptr (chunk base size.toNat) s).2
  rw [hfunc] at hkept
  rw [← hkept]

lemma memmove_ok (dest src : Word) (n : Nat) (s : State) :
    ∃ kernel, (memmove dest src n).run s = .ok () { s with kernel := kernel } := by
  have hloop : ∀ (orig : State) (first count : Nat) (s : State), ∃ kernel,
      (loop (fun i => storeKernel (dest + BitVec.ofNat 32 i)
        (orig.kernel (src + BitVec.ofNat 32 i))) first count).run s =
          .ok () { s with kernel := kernel } := by
    intro orig first count s
    induction count generalizing first s with
    | zero => exact ⟨s.kernel, rfl⟩
    | succ count ih =>
      obtain ⟨kernel, hrun⟩ := ih (first + 1) { s with
        kernel := update s.kernel (dest + BitVec.ofNat 32 first)
          (orig.kernel (src + BitVec.ofNat 32 first)) }
      exact ⟨kernel, hrun⟩
  obtain ⟨kernel, hrun⟩ := hloop s 0 n s
  exact ⟨kernel, by simpa [memmove] using hrun⟩

section

variable (h : ∀ i < n, ∀ j < n, ptr + BitVec.ofNat 32 i ≠ base + BitVec.ofNat 32 j)

include h

lemma memmove_read :
    (memmove base ptr n).run s = .ok () (moveBytes .sysspace .read ptr (chunk base n) s) := by
  have hloop : (loop (fun i => storeKernel (base + BitVec.ofNat 32 i)
      (s.kernel (ptr + BitVec.ofNat 32 i))) 0 n).run s =
        .ok () (moveBytes .sysspace .read (ptr + BitVec.ofNat 32 0)
          (chunk (base + BitVec.ofNat 32 0) n) s) := by
    refine loop_moves (n := n)
      (fun u => ∀ i < n, u.kernel (ptr + BitVec.ofNat 32 i) = s.kernel (ptr + BitVec.ofNat 32 i))
      (fun i hi u hu => ⟨?_, fun j hj => ?_⟩) 0 n (by omega) fun _ _ => rfl
    · simp [storeKernel, moveByte, hu i hi]
    simp only [moveByte]
    rw [update_of_ne (h j hj i hi)]
    exact hu j hj
  simpa [memmove] using hloop

lemma memmove_write :
    (memmove ptr base n).run s = .ok () (moveBytes .sysspace .write ptr (chunk base n) s) := by
  have hloop : (loop (fun i => storeKernel (ptr + BitVec.ofNat 32 i)
      (s.kernel (base + BitVec.ofNat 32 i))) 0 n).run s =
        .ok () (moveBytes .sysspace .write (ptr + BitVec.ofNat 32 0)
          (chunk (base + BitVec.ofNat 32 0) n) s) := by
    refine loop_moves (n := n)
      (fun u => ∀ i < n, u.kernel (base + BitVec.ofNat 32 i) = s.kernel (base + BitVec.ofNat 32 i))
      (fun i hi u hu => ⟨?_, fun j hj => ?_⟩) 0 n (by omega) fun _ _ => rfl
    · simp [storeKernel, moveByte, hu i hi]
    simp only [moveByte]
    rw [update_of_ne (Ne.symm (h i hi j hj))]
    exact hu j hj
  simpa [memmove] using hloop

end

lemma mem_chunk (hi : i < n) : base + BitVec.ofNat 32 i ∈ chunk base n :=
  mem_map.mpr ⟨i, mem_range.mpr hi, rfl⟩

lemma transfer_user (hseg : seg ≠ .sysspace) (hsize : size ≠ 0)
    (hclear : Clear s seg rw (chunk base size.toNat)) :
    (transfer seg rw ptr base size).run s =
      .ok 0 (moveBytes seg rw ptr (chunk base size.toNat) s) := by
  have hbytes := hclear.2 hseg
  have hrange := chunk_below hsize fun a ha => (hbytes a ha).1
  have hcheck := copycheck_whole hsize hrange
  have hfaults : ∀ i < size.toNat, s.faults rw.access (base + BitVec.ofNat 32 i) = false :=
    fun i hi => (hbytes _ (mem_chunk hi)).2
  cases seg with
  | sysspace => exact absurd rfl hseg
  | userspace | userispace =>
    cases rw with
    | read =>
      simp only [transfer, copyout, hcheck, ne_eq, not_true_eq_false, if_false]
      refine transfer_copied (fun i hi u hu => ?_) hclear.1
      have hfine : u.faults .store (base + BitVec.ofNat 32 i) = false := hu ▸ hfaults i hi
      simp [loadKernel, storeUser, access, hfine, moveByte]
    | write =>
      simp only [transfer, copyin, hcheck, ne_eq, not_true_eq_false, if_false]
      refine transfer_copied (fun i hi u hu => ?_) hclear.1
      have hfine : u.faults .load (base + BitVec.ofNat 32 i) = false := hu ▸ hfaults i hi
      simp [loadUser, storeKernel, access, hfine, moveByte]

lemma transfer_run (ptr : Word) (hsize : size ≠ 0)
    (hclear : Clear s seg rw (chunk base size.toNat)) :
    ∃ t, (transfer seg rw ptr base size).run s = .ok 0 t ∧ t.faults = s.faults ∧
      t.badfaultfunc = s.badfaultfunc ∧
      (Separate seg ptr size.toNat (chunk base size.toNat) →
        t = moveBytes seg rw ptr (chunk base size.toNat) s) := by
  by_cases hseg : seg = .sysspace
  · subst hseg
    cases rw with
    | read =>
      obtain ⟨kernel, hrun⟩ := memmove_ok base ptr size.toNat s
      refine ⟨{ s with kernel := kernel }, by simp [transfer, hrun], rfl, rfl,
        fun hsep => ?_⟩
      have heq := memmove_read (s := s) fun i hi j hj => hsep rfl i hi _ (mem_chunk hj)
      rw [hrun] at heq
      simpa using heq
    | write =>
      obtain ⟨kernel, hrun⟩ := memmove_ok ptr base size.toNat s
      refine ⟨{ s with kernel := kernel }, by simp [transfer, hrun], rfl, rfl,
        fun hsep => ?_⟩
      have heq := memmove_write (s := s) fun i hi j hj => hsep rfl i hi _ (mem_chunk hj)
      rw [hrun] at heq
      simpa using heq
  refine ⟨_, transfer_user hseg hsize hclear, ?_, ?_, fun _ => rfl⟩
  · exact (moveBytes_faults seg rw ptr _ s).1
  · exact (moveBytes_faults seg rw ptr _ s).2

end Bytes

section Loop

variable {s : State} {uio : Uio} {ptr n : Word} {k : Nat}

def Uio.advance (uio : Uio) (k : Nat) : Uio :=
  { uio with
    iov := consume k uio.iov
    resid := uio.resid - BitVec.ofNat 32 k
    offset := uio.offset + k }

lemma advance_zero (uio : Uio) : uio.advance 0 = uio := by
  simp [Uio.advance]

lemma advance_advance (uio : Uio) (k m : Nat) :
    (uio.advance k).advance m = uio.advance (k + m) := by
  simp only [Uio.advance, consume_add, Uio.mk.injEq, true_and, and_true]
  refine ⟨by push_cast; omega, by bv_omega⟩

def Fits (n : Nat) (uio : Uio) : Prop := n ≤ uio.resid.toNat ∨ Cuts uio.resid.toNat uio.iov

variable {seg : UioSeg} {t : State}

lemma Clear.mono (h : Clear s seg rw as) (hsub : ∀ a ∈ bs, a ∈ as) (hfaults : t.faults = s.faults)
    (hfunc : t.badfaultfunc = s.badfaultfunc) : Clear t seg rw bs := by
  refine ⟨hfunc.trans h.1, fun hseg a ha => ?_⟩
  rw [hfaults]
  exact h.2 hseg a (hsub a ha)

lemma Separate.mono (h : Separate seg ptr m as) (hsub : ∀ a ∈ bs, a ∈ as)
    (hptr : ptr' = ptr + BitVec.ofNat 32 j)
    (hm : j + m' ≤ m) : Separate seg ptr' m' bs := by
  intro hseg i hi a ha
  have := h hseg (j + i) (by omega) a (hsub a ha)
  rw [hptr]
  intro heq
  refine this ?_
  rw [← heq]
  bv_omega

lemma Clear.taken (h : Clear s seg rw as) : Clear s seg rw (as.take k) :=
  h.mono (fun _ ha => mem_of_mem_take ha) rfl rfl

lemma Separate.taken (h : Separate seg ptr m as) : Separate seg ptr m (as.take k) :=
  fun hseg i hi a ha => h hseg i hi a (mem_of_mem_take ha)

lemma uiomoveLoop_run (ptr : Word) (fuel : Nat) (hfuel : n.toNat + uio.iov.length < fuel)
    (htotal : uio.resid.toNat ≤ total uio.iov) (hfits : Fits n.toNat uio)
    (hclear : Clear s uio.segflg uio.rw
      ((stream uio.iov).take (min n.toNat uio.resid.toNat))) :
    ∃ t, (uiomoveLoop fuel ptr n uio).run s = .ok (0, uio.advance (min n.toNat uio.resid.toNat)) t ∧
      t.faults = s.faults ∧ t.badfaultfunc = s.badfaultfunc ∧
      (Separate uio.segflg ptr n.toNat ((stream uio.iov).take (min n.toNat uio.resid.toNat)) →
        t = moveBytes uio.segflg uio.rw ptr
          ((stream uio.iov).take (min n.toNat uio.resid.toNat)) s) := by
  induction fuel generalizing ptr n uio s with
  | zero => omega
  | succ fuel ih =>
    by_cases hgo : 0 < n ∧ 0 < uio.resid
    · have hn : 0 < n.toNat := lt_def.mp hgo.1
      have hresid : 0 < uio.resid.toNat := lt_def.mp hgo.2
      cases hiov : uio.iov with
      | nil =>
        rw [hiov, total_nil] at htotal
        omega
      | cons v vs =>
        rw [hiov] at htotal hclear hfuel
        rw [total_cons] at htotal
        rw [length_cons] at hfuel
        by_cases hempty : v.len = 0
        · -- an empty iovec is dropped
          have hlen : v.len.toNat = 0 := by rw [hempty]; rfl
          have hvs : vs ≠ [] := by
            rintro rfl
            rw [total_nil] at htotal
            omega
          have hsize : (if n < v.len then n else v.len) = 0 := by rw [hempty, if_neg (by bv_omega)]
          have hfits' : Fits n.toNat { uio with iov := vs } := by
            refine hfits.imp id fun hcuts => ?_
            rw [hiov] at hcuts
            have := (cuts_cons hresid hcuts).2
            rwa [hlen, Nat.sub_zero] at this
          rw [stream_skip hempty] at hclear ⊢
          obtain ⟨t, hrun, hfaults, hfunc, hmoved⟩ := @ih s { uio with iov := vs } n ptr
            (by simp only; omega) (by simp only; omega) hfits' hclear
          refine ⟨t, ?_, hfaults, hfunc, hmoved⟩
          have hadvance : ({ uio with iov := vs } : Uio).advance
              (min n.toNat uio.resid.toNat) = uio.advance (min n.toNat uio.resid.toNat) := by
            have hpos : 0 < min n.toNat uio.resid.toNat := by omega
            simp only [Uio.advance, hiov, consume_skip hpos hempty]
          rw [← hadvance, ← hrun, uiomoveLoop, if_pos hgo]
          simp only [hiov, hsize, if_true, if_neg hvs]
        obtain ⟨size, hsize⟩ : ∃ size, (if n < v.len then n else v.len) = size := ⟨_, rfl⟩
        have hbounds : 0 < size.toNat ∧ size.toNat ≤ n.toNat ∧ size.toNat ≤ v.len.toNat := by
          rw [← hsize]
          by_cases hlt : n < v.len
          · rw [if_pos hlt]
            bv_omega
          · rw [if_neg hlt]
            bv_omega
        obtain ⟨hpos, hlen, hlev⟩ := hbounds
        have hne : size ≠ 0 := by bv_omega
        have hle : size.toNat ≤ uio.resid.toNat := by
          rcases hfits with hfits | hcuts
          · omega
          rw [hiov] at hcuts
          have := (cuts_cons hresid hcuts).1
          omega
        have hword : BitVec.ofNat 32 size.toNat = size := by simp
        have hfront : consume size.toNat (v :: vs) = _ := consume_front hpos hlev
        have hadvance : uio.advance size.toNat = { uio with
            iov := ⟨v.base + size, v.len - size⟩ :: vs
            resid := uio.resid - size
            offset := uio.offset + size.toNat } := by
          simp only [Uio.advance, hiov, hfront, hword]
        have hstream : stream (v :: vs) = chunk v.base size.toNat ++
            stream (uio.advance size.toNat).iov := by
          rw [stream_front hlev, hadvance, hword]
        have hrest : (n - size).toNat = n.toNat - size.toNat := by bv_omega
        have hresid' : (uio.advance size.toNat).resid.toNat =
            uio.resid.toNat - size.toNat := by
          rw [hadvance]
          bv_omega
        have hmin : min n.toNat uio.resid.toNat = size.toNat +
            min (n - size).toNat (uio.advance size.toNat).resid.toNat := by
          rw [hrest, hresid']
          omega
        have htake : (stream (v :: vs)).take (min n.toNat uio.resid.toNat) =
            chunk v.base size.toNat ++ (stream (uio.advance size.toNat).iov).take
              (min (n - size).toNat (uio.advance size.toNat).resid.toNat) := by
          rw [hmin, hstream, take_append, length_chunk, Nat.add_sub_cancel_left,
            take_of_length_le (by rw [length_chunk]; omega)]
        rw [htake] at hclear
        rw [htake]
        obtain ⟨u, htransfer, hufaults, hufunc, humoved⟩ := transfer_run ptr hne
          (hclear.mono (fun a ha => mem_append_left _ ha) rfl rfl)
        have hfits' : Fits (n - size).toNat (uio.advance size.toNat) := by
          rw [Fits, hrest, hresid']
          refine hfits.imp (fun _ => by omega) fun hcuts => ?_
          exact cuts_consume hle hcuts
        obtain ⟨t, hrun, hfaults, hfunc, hmoved⟩ := @ih u (uio.advance size.toNat)
          (n - size) (ptr + size)
          (by
            rw [hadvance, hrest, length_cons]
            omega)
          (by
            rw [hresid', Uio.advance, total_consume (by rw [hiov, total_cons]; omega), hiov,
              total_cons]
            omega)
          hfits'
          (hclear.mono (fun a ha => mem_append_right _ ha) hufaults hufunc)
        refine ⟨t, ?_, hfaults.trans hufaults, hfunc.trans hufunc, fun hsep => ?_⟩
        · rw [uiomoveLoop, if_pos hgo]
          simp only [hiov, hsize, if_neg hne]
          rw [bind_run_ok htransfer, if_neg (by simp), ← hadvance, hrun, advance_advance, ← hmin]
        have hu := humoved (hsep.mono (j := 0) (fun a ha => mem_append_left _ ha)
          (by bv_omega) (by omega))
        have ht := hmoved (hsep.mono (j := size.toNat)
          (fun a ha => mem_append_right _ ha) (by rw [hword]) (by omega))
        rw [moveBytes_append, length_chunk, hword, ← hu]
        exact ht
    have hmin : min n.toNat uio.resid.toNat = 0 := by bv_omega
    refine ⟨s, ?_, rfl, rfl, fun _ => ?_⟩
    · rw [uiomoveLoop, if_neg hgo, hmin, advance_zero]
      rfl
    · rw [hmin, take_zero]
      rfl

lemma transfer_unclear (ptr : Word)
    (hsize : size ≠ 0)
    (hfunc : s.badfaultfunc = false) (hbad : ¬ Clear s seg rw (chunk base size.toNat)) :
    ∃ t, (transfer seg rw ptr base size).run s = .ok EFAULT t := by
  have hspec : BlockSpec rw.access base size s (transfer seg rw ptr base size) := by
    have hseg : seg ≠ .sysspace := by
      rintro rfl
      exact hbad ⟨hfunc, fun hseg => absurd rfl hseg⟩
    cases seg with
    | sysspace => exact absurd rfl hseg
    | userispace | userspace =>
      cases rw with
      | read => exact block_spec rfl fun _ hi => touches_out hi _
      | write => exact block_spec rfl fun _ hi => touches_in hi _
  obtain ⟨result, t, hrun, -, hresult⟩ := hspec
  obtain ⟨hzero, hfault⟩ := hresult (by bv_omega)
  by_cases h : result = 0
  · obtain ⟨hrange, hfine⟩ := hzero.mp h
    refine absurd ⟨hfunc, fun _ a ha => ?_⟩ hbad
    obtain ⟨i, hi, rfl⟩ := mem_map.mp ha
    rw [mem_range] at hi
    refine ⟨?_, hfine i hi⟩
    simp only [USERSPACETOP, MIPS_KSEG0] at *
    bv_omega
  · exact ⟨t, hfault h ▸ hrun⟩

lemma uiomoveLoop_unclear (fuel : Nat)
    (hfunc : s.badfaultfunc = false) (hn : n.toNat ≤ uio.resid.toNat)
    (hbad : ¬ Clear s uio.segflg uio.rw ((stream uio.iov).take n.toNat))
    (h : (uiomoveLoop fuel ptr n uio).run s = .ok (result, uio') t) : result = EFAULT := by
  induction fuel generalizing ptr n uio s with
  | zero => cases h
  | succ fuel ih =>
    rw [uiomoveLoop] at h
    by_cases hgo : 0 < n ∧ 0 < uio.resid
    · rw [if_pos hgo] at h
      cases hiov : uio.iov with
      | nil =>
        rw [hiov] at h
        cases h
      | cons v vs =>
        rw [hiov] at hbad
        simp only [hiov] at h
        obtain ⟨size, hsize⟩ : ∃ size, (if n < v.len then n else v.len) = size := ⟨_, rfl⟩
        rw [hsize] at h
        by_cases hempty : size = 0
        · rw [if_pos hempty] at h
          by_cases hvs : vs = []
          · rw [if_pos hvs] at h
            cases h
          rw [if_neg hvs] at h
          have hlen : v.len = 0 := by
            by_cases hlt : n < v.len
            · rw [if_pos hlt] at hsize
              bv_omega
            · rw [if_neg hlt] at hsize
              exact hsize.trans hempty
          rw [stream_skip hlen] at hbad
          exact @ih s { uio with iov := vs } ptr n hfunc hn hbad h
        rw [if_neg hempty] at h
        have hbounds : size.toNat ≤ n.toNat ∧ size.toNat ≤ v.len.toNat := by
          rw [← hsize]
          by_cases hlt : n < v.len
          · rw [if_pos hlt]
            bv_omega
          · rw [if_neg hlt]
            bv_omega
        have hword : BitVec.ofNat 32 size.toNat = size := by simp
        have hrest : (n - size).toNat = n.toNat - size.toNat := by bv_omega
        have htake : (stream (v :: vs)).take n.toNat = chunk v.base size.toNat ++
            (stream (⟨v.base + size, v.len - size⟩ :: vs)).take (n - size).toNat := by
          rw [stream_front hbounds.2, take_append, length_chunk, ← hrest, hword,
            take_of_length_le (by rw [length_chunk]; omega)]
        by_cases hchunk : Clear s uio.segflg uio.rw (chunk v.base size.toNat)
        · obtain ⟨u, hrun, hufaults, hufunc, -⟩ := transfer_run ptr hempty hchunk
          rw [bind_run_ok hrun, if_neg (by simp)] at h
          refine @ih u _ (ptr + size) (n - size) (hufunc.trans hfunc) (by bv_omega)
            (fun hclear => hbad ?_) h
          rw [htake]
          refine ⟨hfunc, fun hseg a ha => ?_⟩
          rcases mem_append.mp ha with ha | ha
          · exact hchunk.2 hseg a ha
          · rw [← hufaults]
            exact hclear.2 hseg a ha
        obtain ⟨u, hrun⟩ := transfer_unclear ptr hempty hfunc hchunk
        rw [bind_run_ok hrun, if_pos (by decide)] at h
        obtain ⟨heq, -⟩ := pure_ok.mp h
        exact (Prod.mk.inj heq).1
    have hzero : n.toNat = 0 := by bv_omega
    rw [hzero, take_zero] at hbad
    exact absurd ⟨hfunc, fun _ a ha => absurd ha (not_mem_nil)⟩ hbad

lemma uiomoveLoop_offset (fuel : Nat)
    (h : (uiomoveLoop fuel ptr n uio).run s = .ok (result, uio') t) : uio.offset ≤ uio'.offset := by
  induction fuel generalizing ptr n uio s with
  | zero => cases h
  | succ fuel ih =>
    rw [uiomoveLoop] at h
    by_cases hgo : 0 < n ∧ 0 < uio.resid
    · rw [if_pos hgo] at h
      cases hiov : uio.iov with
      | nil =>
        simp only [hiov] at h
        cases h
      | cons v vs =>
        simp only [hiov] at h
        obtain ⟨size, hsize⟩ : ∃ size, (if n < v.len then n else v.len) = size := ⟨_, rfl⟩
        rw [hsize] at h
        by_cases hzero : size = 0
        · rw [if_pos hzero] at h
          by_cases hvs : vs = []
          · rw [if_pos hvs] at h
            cases h
          rw [if_neg hvs] at h
          have hle := ih h
          exact hle
        rw [if_neg hzero] at h
        obtain ⟨r, u, -, h⟩ := bind_ok.mp h
        by_cases hr : r ≠ 0
        · rw [if_pos hr] at h
          obtain ⟨heq, -⟩ := pure_ok.mp h
          exact Int.le_of_eq (congrArg Uio.offset (Prod.mk.inj heq).2.symm)
        rw [if_neg hr] at h
        have hle := ih h
        simp only at hle
        omega
    rw [if_neg hgo] at h
    obtain ⟨heq, -⟩ := pure_ok.mp h
    exact Int.le_of_eq (congrArg Uio.offset (Prod.mk.inj heq).2.symm)

lemma uiomoveLoop_overrun (fuel : Nat)
    (hmore : uio.resid.toNat < n.toNat) (hcuts : ¬ Cuts uio.resid.toNat uio.iov)
    (hclear : Clear s uio.segflg uio.rw (stream uio.iov))
    (h : (uiomoveLoop fuel ptr n uio).run s = .ok (result, uio') t) :
    uio.offset + uio.resid.toNat < uio'.offset := by
  induction fuel generalizing ptr n uio s with
  | zero => cases h
  | succ fuel ih =>
    have hresid : 0 < uio.resid.toNat := by
      by_contra hzero
      exact hcuts ⟨0, by rw [take_zero, total_nil]; omega⟩
    have hgo : 0 < n ∧ 0 < uio.resid := by
      constructor
      · bv_omega
      · bv_omega
    rw [uiomoveLoop, if_pos hgo] at h
    cases hiov : uio.iov with
    | nil =>
      simp only [hiov] at h
      cases h
    | cons v vs =>
      simp only [hiov] at h
      rw [hiov] at hclear hcuts
      by_cases hempty : v.len = 0
      · have hlen : v.len.toNat = 0 := by rw [hempty]; rfl
        have hsize : (if n < v.len then n else v.len) = 0 := by rw [hempty, if_neg (by bv_omega)]
        rw [hsize, if_pos rfl] at h
        by_cases hvs : vs = []
        · rw [if_pos hvs] at h
          cases h
        rw [if_neg hvs] at h
        rw [stream_skip hempty] at hclear
        refine @ih s { uio with iov := vs } ptr n hmore (fun hrest => ?_) hclear h
        refine hcuts (cuts_of_rest (by omega) ?_)
        rwa [hlen, Nat.sub_zero]
      obtain ⟨size, hsize⟩ : ∃ size, (if n < v.len then n else v.len) = size := ⟨_, rfl⟩
      have hbounds : 0 < size.toNat ∧ size.toNat ≤ v.len.toNat ∧
          (size.toNat = n.toNat ∨ size = v.len) := by
        rw [← hsize]
        by_cases hlt : n < v.len
        · rw [if_pos hlt]
          exact ⟨by omega, by bv_omega, .inl rfl⟩
        · rw [if_neg hlt]
          exact ⟨by bv_omega, Nat.le_refl _, .inr rfl⟩
      obtain ⟨hpos, hlev, hwhich⟩ := hbounds
      have hne : size ≠ 0 := by bv_omega
      have hword : BitVec.ofNat 32 size.toNat = size := by simp
      have hstream : stream (v :: vs) = _ := stream_front hlev
      rw [hword] at hstream
      have hchunk : Clear s uio.segflg uio.rw (chunk v.base size.toNat) :=
        hclear.mono (fun a ha => by rw [hstream]; exact mem_append_left _ ha) rfl rfl
      obtain ⟨u, htransfer, hufaults, hufunc, -⟩ := transfer_run ptr hne hchunk
      rw [hsize, if_neg hne, bind_run_ok htransfer, if_neg (by simp)] at h
      by_cases hover : uio.resid.toNat < size.toNat
      · have hle := uiomoveLoop_offset fuel h
        simp only at hle
        omega
      -- the iovec ends within the residual count, so all of it has gone through
      obtain rfl : size = v.len := by
        rcases hwhich with heq | heq
        · omega
        · exact heq
      have hdone : (v.len - v.len).toNat = 0 := by bv_omega
      have hresid' : (uio.resid - v.len).toNat = uio.resid.toNat - v.len.toNat := by
        bv_omega
      have hno : ¬ Cuts (uio.resid.toNat - v.len.toNat) vs := fun hrest =>
        hcuts (cuts_of_rest (by omega) hrest)
      have hleft : 0 < uio.resid.toNat - v.len.toNat := by
        by_contra hzero
        exact hno ⟨0, by rw [take_zero, total_nil]; omega⟩
      let next : Uio := { uio with
        iov := ⟨v.base + v.len, v.len - v.len⟩ :: vs
        resid := uio.resid - v.len
        offset := uio.offset + v.len.toNat }
      have hclear' : Clear u next.segflg next.rw (stream next.iov) :=
        hclear.mono (fun a ha => by rw [hstream]; exact mem_append_right _ ha) hufaults
          hufunc
      have hcuts' : ¬ Cuts next.resid.toNat next.iov := fun hrest => by
        rw [show next.resid.toNat = _ from hresid'] at hrest
        have hvs := (cuts_cons hleft hrest).2
        rw [hdone, Nat.sub_zero] at hvs
        exact hno hvs
      have hmore' : next.resid.toNat < (n - v.len).toNat := by
        simp only [next]
        bv_omega
      have hlt := @ih u next (ptr + v.len) (n - v.len) hmore' hcuts' hclear' h
      simp only [next, hresid'] at hlt
      omega

end Loop

section Accounting

variable {s : State} {uio : Uio} {ptr n n' : Word}

def Exact (s : State) (ptr n : Word) (uio : Uio) : Prop :=
  ∃ uio' t, (uiomove ptr n uio).run s = .ok (0, uio') t ∧
    uio'.resid.toNat = uio.resid.toNat - min n.toNat uio.resid.toNat ∧
    uio'.offset = uio.offset + min n.toNat uio.resid.toNat ∧
    (Separate uio.segflg ptr n.toNat (stream uio.iov) →
      t = moveBytes uio.segflg uio.rw ptr
        ((stream uio.iov).take (min n.toNat uio.resid.toNat)) s)

def uiomoveTwice (ptr n n' : Word) (uio : Uio) : Copy (Word × Uio) := do
  let (result, uio) ← uiomove ptr n uio
  if result ≠ 0 then pure (result, uio) else uiomove (ptr + n) n' uio

def Additive (s : State) (ptr n n' : Word) (uio : Uio) : Prop :=
  ∃ uio' t t', (uiomoveTwice ptr n n' uio).run s = .ok (0, uio') t ∧
    (uiomove ptr (n + n') uio).run s = .ok (0, uio') t' ∧
    (Separate uio.segflg ptr (n + n').toNat (stream uio.iov) → t = t')

section

variable (htotal : uio.resid.toNat ≤ total uio.iov)
  (hclear : Clear s uio.segflg uio.rw (stream uio.iov))

include htotal hclear

lemma exact_of_fits (hfits : Fits n.toNat uio) : Exact s ptr n uio := by
  obtain ⟨t, hrun, -, -, hmoved⟩ := uiomoveLoop_run ptr _ (Nat.lt_succ_self _) htotal
    hfits hclear.taken
  refine ⟨_, t, hrun, ?_, rfl, fun hsep => hmoved hsep.taken⟩
  exact toNat_sub_ofNat (by omega)

lemma additive_of_fits (hadd : n.toNat + n'.toNat < 0x100000000)
    (hfits : Fits (n + n').toNat uio) : Additive s ptr n n' uio := by
  have hsum : (n + n').toNat = n.toNat + n'.toNat := by bv_omega
  let k := min n.toNat uio.resid.toNat
  have hk : k = min n.toNat uio.resid.toNat := rfl
  have hresid : (uio.advance k).resid.toNat = uio.resid.toNat - k := toNat_sub_ofNat (by omega)
  have hdrop : stream (uio.advance k).iov = (stream uio.iov).drop k := stream_consume k uio.iov
  have hstream : ∀ a ∈ stream (uio.advance k).iov, a ∈ stream uio.iov := fun a ha => by
    rw [hdrop] at ha
    exact mem_of_mem_drop ha
  have hfirst : Fits n.toNat uio := hfits.imp (fun _ => by omega) id
  have hsecond : Fits n'.toNat (uio.advance k) := by
    rw [Fits, hresid]
    refine hfits.imp (fun _ => by omega) fun hcuts => cuts_consume (by omega) hcuts
  obtain ⟨u, hrun, hfaults, hfunc, hu⟩ := uiomoveLoop_run ptr _ (Nat.lt_succ_self _)
    htotal hfirst hclear.taken
  obtain ⟨t, hrun', -, -, ht⟩ := uiomoveLoop_run (ptr + n) _ (Nat.lt_succ_self _)
    (by
      rw [hresid, Uio.advance, total_consume (by omega)]
      omega)
    hsecond (hclear.mono hstream hfaults hfunc).taken
  obtain ⟨t', hrun'', -, -, ht'⟩ := uiomoveLoop_run ptr _ (Nat.lt_succ_self _) htotal
    hfits hclear.taken
  have hmin : min (n + n').toNat uio.resid.toNat =
      k + min n'.toNat (uio.advance k).resid.toNat := by
    rw [hsum, hresid]
    omega
  refine ⟨uio.advance (min (n + n').toNat uio.resid.toNat), t, t', ?_, hrun'', fun hsep => ?_⟩
  · rw [uiomoveTwice, uiomove, bind_run_ok hrun, hmin, ← advance_advance]
    exact hrun'
  have hut := hu (hsep.mono (j := 0) (fun _ ha => ha) (by bv_omega) (by omega)).taken
  have htt := ht (hsep.mono (j := n.toNat) hstream (by simp) (by omega)).taken
  rw [ht' hsep.taken, hmin, take_add, moveBytes_append, ← hut, htt, hdrop]
  -- a first call that stops short of its amount leaves nothing for the second one
  by_cases hshort : n.toNat ≤ uio.resid.toNat
  · congr 1
    rw [length_take, length_stream]
    have hlen : min k (total uio.iov) = n.toNat := by omega
    rw [hlen, ofNat_toNat, setWidth_eq]
  have hzero : min n'.toNat (uio.advance k).resid.toNat = 0 := by omega
  rw [hzero, take_zero]
  rfl

end

-- The accounting is right exactly when the amount is within the residual count or that count
-- ends where an iovec ends.
theorem uiomove_accounting_iff (s : State) (ptr n n' : Word) (uio : Uio)
    (htotal : uio.resid.toNat ≤ total uio.iov)
    (hclear : Clear s uio.segflg uio.rw (stream uio.iov))
    (hadd : n.toNat + n'.toNat < 0x100000000) :
    Exact s ptr (n + n') uio ∧ Additive s ptr n n' uio ↔ Fits (n + n').toNat uio := by
  constructor
  · rintro ⟨⟨uio', t, hrun, -, hoffset, -⟩, -⟩
    by_contra hfits
    have hmore : uio.resid.toNat < (n + n').toNat := by
      by_contra hle
      exact hfits (.inl (by omega))
    have hover := uiomoveLoop_overrun _ hmore (fun hcuts => hfits (.inr hcuts)) hclear hrun
    omega
  · intro hfits
    exact ⟨exact_of_fits htotal hclear hfits, additive_of_fits htotal hclear hadd hfits⟩

def segmentUio : Uio := ⟨[⟨0x80002000#32, 16#32⟩], 0, 4#32, .sysspace, .read⟩

lemma clear_segmentUio :
    Clear zeroedUser segmentUio.segflg segmentUio.rw (stream segmentUio.iov) :=
  ⟨rfl, fun hseg => absurd rfl hseg⟩

theorem uiomove_accounting_segment : Exact zeroedUser 0x80001000#32 (3#32 + 1#32) segmentUio ∧
      Additive zeroedUser 0x80001000#32 3#32 1#32 segmentUio :=
  (uiomove_accounting_iff zeroedUser 0x80001000#32 3#32 1#32 segmentUio (by decide)
    clear_segmentUio (by decide)).mpr (.inl (by decide))

def outcome : EStateM.Result Exit State (Word × Uio) → Option (Word × Word × Int)
  | .ok (result, uio) _ => some (result, uio.resid, uio.offset)
  | .error _ _ => none

theorem uiomove_wraps_resid : segmentUio.resid.toNat ≤ total segmentUio.iov ∧
    outcome ((uiomove 0x80001000#32 8#32 segmentUio).run zeroedUser) =
      some (0, 0xfffffffc#32, 8) := by
  decide

end Accounting

end Os161.Uiomove
