import Os161.Copyinout

namespace Os161.Copyinout

open Lib.Exec
open Vm

section Check

lemma copycheck_bad (h : 0x100000000 < ptr.toNat + len.toNat ∨ USERSPACETOP ≤ ptr ∨
    (len = 0 ∧ ptr ≠ 0)) : (copycheck ptr len).1 = EFAULT := by
  simp only [copycheck]
  by_cases htop : ptr + len - 1 < ptr
  · rw [if_pos htop]
  rw [if_neg htop]
  by_cases hbot : USERSPACETOP ≤ ptr
  · rw [if_pos hbot]
  · simp only [USERSPACETOP, MIPS_KSEG0] at *
    bv_omega

lemma copycheck_whole (hlen : len ≠ 0)
    (h : ptr.toNat + len.toNat ≤ USERSPACETOP.toNat) : copycheck ptr len = (0, len) := by
  have htop : ¬ ptr + len - 1 < ptr := by
    simp only [USERSPACETOP, MIPS_KSEG0] at *
    bv_omega
  have hbot : ¬ USERSPACETOP ≤ ptr := by
    simp only [USERSPACETOP, MIPS_KSEG0] at *
    bv_omega
  have hlast : ¬ USERSPACETOP ≤ ptr + len - 1 := by
    simp only [USERSPACETOP, MIPS_KSEG0] at *
    bv_omega
  simp only [copycheck, if_neg htop, if_neg hbot, if_neg hlast]

lemma copycheck_cut (hbot : ptr < USERSPACETOP) (hwrap : ptr.toNat + len.toNat ≤ 0x100000000)
    (h : USERSPACETOP.toNat < ptr.toNat + len.toNat) :
    copycheck ptr len = (0, USERSPACETOP - ptr) := by
  have htop : ¬ ptr + len - 1 < ptr := by
    simp only [USERSPACETOP, MIPS_KSEG0] at *
    bv_omega
  have hbot : ¬ USERSPACETOP ≤ ptr := BitVec.not_le.mpr hbot
  have hlast : USERSPACETOP ≤ ptr + len - 1 := by
    simp only [USERSPACETOP, MIPS_KSEG0] at *
    bv_omega
  simp only [copycheck, if_neg htop, if_neg hbot, if_pos hlast]

end Check

section Accesses

variable {s t : State} {kind : Access} {ptr : Word} {n i : Nat} {α : Type}

structure Frame (ptr : Word) (n : Nat) (s t : State) : Prop where
  faults : t.faults = s.faults
  badfaultfunc : t.badfaultfunc = s.badfaultfunc
  accesses : ∃ new, t.accesses = s.accesses ++ new ∧
    ∀ a ∈ new, ∃ i < n, a.2 = ptr + BitVec.ofNat 32 i

lemma Frame.refl (ptr : Word) (n : Nat) (s : State) : Frame ptr n s s :=
  ⟨rfl, rfl, [], by simp, by simp⟩

lemma Frame.trans (h : Frame ptr n s t) (h' : Frame ptr n t u) : Frame ptr n s u := by
  obtain ⟨new, hnew, hin⟩ := h.accesses
  obtain ⟨new', hnew', hin'⟩ := h'.accesses
  refine ⟨h'.faults.trans h.faults, h'.badfaultfunc.trans h.badfaultfunc, new ++ new', ?_, ?_⟩
  · rw [hnew', hnew, List.append_assoc]
  intro a ha
  rcases List.mem_append.mp ha with ha | ha
  · exact hin a ha
  · exact hin' a ha

lemma access_ok (hi : i < n) (h : s.faults kind (ptr + BitVec.ofNat 32 i) = false) :
    ∃ t, (access kind (ptr + BitVec.ofNat 32 i)).run s = .ok () t ∧ Frame ptr n s t ∧
      t.user = s.user ∧ t.kernel = s.kernel := by
  refine ⟨{ s with accesses := s.accesses ++ [(kind, ptr + BitVec.ofNat 32 i)] }, ?_,
    ⟨rfl, rfl, _, rfl, ?_⟩, rfl, rfl⟩
  · simp [access, h]
  intro a ha
  obtain rfl := List.mem_singleton.mp ha
  exact ⟨i, hi, rfl⟩

lemma access_fault (hi : i < n) (hfunc : s.badfaultfunc = true)
    (h : s.faults kind (ptr + BitVec.ofNat 32 i) = true) :
    ∃ t, (access kind (ptr + BitVec.ofNat 32 i)).run s = .error .copyfail t ∧ Frame ptr n s t := by
  refine ⟨{ s with accesses := s.accesses ++ [(kind, ptr + BitVec.ofNat 32 i)] }, ?_,
    ⟨rfl, rfl, _, rfl, ?_⟩⟩
  · simp [access, h, hfunc]
  intro a ha
  obtain rfl := List.mem_singleton.mp ha
  exact ⟨i, hi, rfl⟩

structure Touches (kind : Access) (ptr : Word) (n i : Nat) (x : Copy α) : Prop where
  ok : ∀ s, s.faults kind (ptr + BitVec.ofNat 32 i) = false →
    ∃ a t, x.run s = .ok a t ∧ Frame ptr n s t
  fault : ∀ s, s.badfaultfunc = true → s.faults kind (ptr + BitVec.ofNat 32 i) = true →
    ∃ t, x.run s = .error .copyfail t ∧ Frame ptr n s t

lemma touches_in (hi : i < n) (dest : Word) : Touches .load ptr n i (do
      let c ← loadUser (ptr + BitVec.ofNat 32 i)
      storeKernel dest c) := by
  refine ⟨fun s h => ?_, fun s hfunc h => ?_⟩
  · obtain ⟨t, hrun, hframe, -, -⟩ := access_ok hi h
    refine ⟨(), _, by simp [loadUser, storeKernel, hrun]; rfl, hframe.trans ?_⟩
    exact ⟨rfl, rfl, [], by simp, by simp⟩
  · obtain ⟨t, hrun, hframe⟩ := access_fault hi hfunc h
    exact ⟨t, by simp [loadUser, hrun], hframe⟩

lemma touches_out (hi : i < n) (src : Word) : Touches .store ptr n i (do
      let c ← loadKernel src
      storeUser (ptr + BitVec.ofNat 32 i) c) := by
  refine ⟨fun s h => ?_, fun s hfunc h => ?_⟩
  · obtain ⟨t, hrun, hframe, -, -⟩ := access_ok hi h
    refine ⟨(), _, by simp [loadKernel, storeUser, hrun]; rfl, hframe.trans ?_⟩
    exact ⟨rfl, rfl, [], by simp, by simp⟩
  · obtain ⟨t, hrun, hframe⟩ := access_fault hi hfunc h
    exact ⟨t, by simp [loadKernel, storeUser, hrun], hframe⟩

lemma copy_loop (hbody : ∀ i < n, Touches kind ptr n i (body i))
    (first count : Nat) (hcount : first + count ≤ n) (hfunc : s.badfaultfunc = true) :
    ((∀ i, first ≤ i → i < first + count → s.faults kind (ptr + BitVec.ofNat 32 i) = false) ∧
      ∃ t, (loop body first count).run s = .ok () t ∧ Frame ptr n s t) ∨
    ((∃ i < first + count, s.faults kind (ptr + BitVec.ofNat 32 i) = true) ∧
      ∃ t, (loop body first count).run s = .error .copyfail t ∧ Frame ptr n s t) := by
  induction count generalizing first s with
  | zero => exact .inl ⟨fun i _ _ => by omega, s, rfl, .refl ..⟩
  | succ count ih =>
    cases hfault : s.faults kind (ptr + BitVec.ofNat 32 first) with
    | true =>
      obtain ⟨t, hrun, hframe⟩ := (hbody first (by omega)).fault s hfunc hfault
      refine .inr ⟨⟨first, by omega, hfault⟩, t, ?_, hframe⟩
      rw [loop_succ, bind_run_error hrun]
    | false =>
      obtain ⟨_, u, hrun, hframe⟩ := (hbody first (by omega)).ok s hfault
      have hrest := ih (first + 1) (by omega) (hframe.badfaultfunc.trans hfunc)
      rw [hframe.faults] at hrest
      rw [loop_succ, bind_run_ok hrun]
      rcases hrest with ⟨hnone, t, hrun', hframe'⟩ | ⟨⟨i, hi, hsome⟩, t, hrun', hframe'⟩
      · refine .inl ⟨fun i hlo hhi => ?_, t, hrun', hframe.trans hframe'⟩
        by_cases hi : i = first
        · rwa [hi]
        · exact hnone i (by omega) (by omega)
      · exact .inr ⟨⟨i, by omega, hsome⟩, t, hrun', hframe.trans hframe'⟩

end Accesses

section Guarded

variable {s t : State} {α : Type}

structure Safe (s t : State) : Prop where
  badfaultfunc : s.badfaultfunc = false → t.badfaultfunc = false
  accesses : ∃ new, t.accesses = s.accesses ++ new ∧ ∀ a ∈ new, a.2 < USERSPACETOP

lemma Safe.refl (s : State) : Safe s s := ⟨id, [], by simp, by simp⟩

lemma safe_of_frame (h : Frame ptr n { s with badfaultfunc := true } t)
    (hn : ptr.toNat + n ≤ USERSPACETOP.toNat) : Safe s { t with badfaultfunc := false } := by
  obtain ⟨new, hnew, hin⟩ := h.accesses
  refine ⟨fun _ => rfl, new, hnew, fun a ha => ?_⟩
  obtain ⟨i, hi, haddr⟩ := hin a ha
  rw [haddr]
  simp only [USERSPACETOP, MIPS_KSEG0] at *
  bv_omega

lemma setjmp_ok (h : body.run s = .ok result t) :
    (setjmp body recover).run s = .ok result t := by
  simp only [setjmp, EStateM.run] at h ⊢
  rw [h]

lemma setjmp_fault (h : body.run s = .error .copyfail t) :
    (setjmp body recover).run s = recover.run t := by
  simp only [setjmp, EStateM.run] at h ⊢
  rw [h]

lemma guarded_ok (h : body.run { s with badfaultfunc := true } = .ok result t) :
    (guarded fail body).run s = .ok result { t with badfaultfunc := false } := by
  have hset : (setBadfaultfunc true).run s = .ok () { s with badfaultfunc := true } := rfl
  rw [guarded, bind_run_ok hset]
  refine setjmp_ok ?_
  rw [bind_run_ok h]
  rfl

lemma guarded_fault (h : body.run { s with badfaultfunc := true } = .error .copyfail t) :
    (guarded fail body).run s = .ok fail { t with badfaultfunc := false } := by
  have hset : (setBadfaultfunc true).run s = .ok () { s with badfaultfunc := true } := rfl
  rw [guarded, bind_run_ok hset, setjmp_fault (bind_run_error h _)]
  rfl

end Guarded

section Blocks

variable {kind : Access} {ptr len : Word} {s : State}

def BlockSpec (kind : Access) (ptr len : Word) (s : State) (copy : Copy Word) : Prop :=
  ∃ result t, copy.run s = .ok result t ∧ Safe s t ∧ (1 ≤ len.toNat →
    (result = 0 ↔ ptr.toNat + len.toNat ≤ USERSPACETOP.toNat ∧
      ∀ i < len.toNat, s.faults kind (ptr + BitVec.ofNat 32 i) = false) ∧
    (result ≠ 0 → result = EFAULT))

lemma block_spec (hcopy : copy =
      (if (copycheck ptr len).1 ≠ 0 then pure (copycheck ptr len).1
      else if (copycheck ptr len).2 ≠ len then pure EFAULT else guarded EFAULT do
        loop body 0 len.toNat
        pure 0))
    (hbody : ∀ i < len.toNat, Touches kind ptr len.toNat i (body i)) :
    BlockSpec kind ptr len s copy := by
  subst hcopy
  by_cases hrange : len ≠ 0 ∧ ptr.toNat + len.toNat ≤ USERSPACETOP.toNat
  · simp only [copycheck_whole hrange.1 hrange.2, ne_eq, not_true_eq_false, if_false]
    rcases copy_loop (s := { s with badfaultfunc := true }) hbody 0 len.toNat (by omega) rfl with
      ⟨hnone, t, hrun, hframe⟩ | ⟨⟨i, hi, hsome⟩, t, hrun, hframe⟩
    · refine ⟨0, _, guarded_ok (by rw [bind_run_ok hrun]; rfl), safe_of_frame hframe hrange.2,
        fun _ => ⟨iff_of_true rfl ⟨hrange.2, fun i hi => ?_⟩, fun h => absurd rfl h⟩⟩
      exact hnone i (Nat.zero_le i) (by omega)
    refine ⟨EFAULT, _, guarded_fault (bind_run_error hrun _), safe_of_frame hframe hrange.2,
      fun _ => ⟨iff_of_false (by decide) fun h => ?_, fun _ => rfl⟩⟩
    have hfine := h.2 i (by omega)
    simp only at hsome
    rw [hsome] at hfine
    cases hfine
  have hlong : 1 ≤ len.toNat → ¬ ptr.toNat + len.toNat ≤ USERSPACETOP.toNat := fun hlen h =>
    hrange ⟨by bv_omega, h⟩
  -- copycheck refuses the range or cuts it
  have hfail : (if (copycheck ptr len).1 ≠ 0 then pure (copycheck ptr len).1
      else if (copycheck ptr len).2 ≠ len then pure EFAULT
      else guarded EFAULT do
        loop body 0 len.toNat
        pure 0 : Copy Word) = pure EFAULT := by
    by_cases hbad : 0x100000000 < ptr.toNat + len.toNat ∨ USERSPACETOP ≤ ptr ∨
        (len = 0 ∧ ptr ≠ 0)
    · rw [copycheck_bad hbad]
      rfl
    by_cases hzero : len = 0
    · obtain rfl : ptr = 0 := by
        by_contra hptr
        exact hbad (.inr (.inr ⟨hzero, hptr⟩))
      rw [hzero]
      rfl
    have hover : USERSPACETOP.toNat < ptr.toNat + len.toNat := by
      by_contra hle
      exact hrange ⟨hzero, by omega⟩
    have hbot : ptr < USERSPACETOP := by
      by_contra hle
      exact hbad (.inr (.inl (BitVec.not_lt.mp hle)))
    have hcut : USERSPACETOP - ptr ≠ len := by
      simp only [USERSPACETOP, MIPS_KSEG0] at *
      bv_omega
    simp only [copycheck_cut hbot (by omega) hover, ne_eq, not_true_eq_false, if_false,
      hcut, not_false_eq_true, if_true]
  rw [hfail]
  exact ⟨EFAULT, s, rfl, .refl s, fun hlen =>
    ⟨iff_of_false (by decide) fun h => hlong hlen h.1, fun _ => rfl⟩⟩

end Blocks

section Strings

variable {s : State} {kind : Access} {ptr len : Word} {n : Nat} {char : State → Nat → UInt8}

end Strings

def zeroedUser : State := ⟨fun _ => 0, fun _ => 1, fun _ _ => false, false, []⟩

end Os161.Copyinout
