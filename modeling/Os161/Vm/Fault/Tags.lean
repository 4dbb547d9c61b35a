import Os161.Vm.Fault.Record
import Os161.Vm.LockDiscipline
import Os161.Vm.Tlb.Theorems

namespace Os161.Vm

open Lib Lib.Exec BitVec

def tag (vaddr pid : Word) : Word := vaddr ||| pid <<< 6

def IsUserPage (vaddr : Word) : Prop := vaddr &&& PAGE_FRAME = vaddr ∧ vaddr < MIPS_KSEG0

instance (vaddr : Word) : Decidable (IsUserPage vaddr) := inferInstanceAs (Decidable (_ ∧ _))

section Fields

lemma tag_page (ha : a &&& PAGE_FRAME = a) (pid : Word) :
    tag a pid &&& TLBHI_VPAGE = a ||| pid <<< 6 &&& TLBHI_VPAGE := by
  have hsame : a &&& TLBHI_VPAGE = a := ha
  rw [tag, BitVec.and_comm, and_or_distrib_left, BitVec.and_comm _ a, hsame,
    BitVec.and_comm TLBHI_VPAGE]

lemma tag_pid (ha : a &&& PAGE_FRAME = a) (pid : Word) :
    tag a pid &&& TLBHI_PID = pid <<< 6 &&& TLBHI_PID := by
  have hnone : a &&& TLBHI_PID = 0#32 := by
    rw [← ha, BitVec.and_assoc, show PAGE_FRAME &&& TLBHI_PID = 0#32 by decide, and_zero]
  rw [tag, BitVec.and_comm, and_or_distrib_left, BitVec.and_comm _ a, hnone,
    zero_or, BitVec.and_comm TLBHI_PID]

lemma shifted_pid (hpid : IsProcessId pid) :
    (pid <<< 6 &&& TLBHI_PID) >>> 6 = BitVec.ofNat 32 (pid.toNat % 64) ∧
      pid <<< 6 &&& TLBHI_VPAGE = (if pid.toNat < 64 then 0#32 else 0x1000#32) ∧
      (pid <<< 6).msb = false :=
  isProcessId_cases (P := fun pid => (pid <<< 6 &&& TLBHI_PID) >>> 6 =
      BitVec.ofNat 32 (pid.toNat % 64) ∧
    pid <<< 6 &&& TLBHI_VPAGE = (if pid.toNat < 64 then 0#32 else 0x1000#32) ∧
    (pid <<< 6).msb = false) hpid (by decide)

lemma shifted_large (hpid : IsProcessId pid) (h : 65 ≤ pid.toNat) :
    0x1000#32 ||| (pid - 64#32) <<< 6 = pid <<< 6 ∧ (pid - 64#32).toNat < 64 ∧
      IsProcessId (pid - 64#32) :=
  isProcessId_cases (P := fun pid => 65 ≤ pid.toNat →
    0x1000#32 ||| (pid - 64#32) <<< 6 = pid <<< 6 ∧ (pid - 64#32).toNat < 64 ∧
      IsProcessId (pid - 64#32)) hpid (by decide) h

lemma shifted_small (hpid : IsProcessId pid) (h : pid.toNat ≤ 36) :
    0x1000#32 ||| pid <<< 6 = (pid + 64#32) <<< 6 ∧ IsProcessId (pid + 64#32) ∧
      pid + 64#32 ≠ pid :=
  isProcessId_cases (P := fun pid => pid.toNat ≤ 36 → 0x1000#32 ||| pid <<< 6 =
    (pid + 64#32) <<< 6 ∧ IsProcessId (pid + 64#32) ∧ pid + 64#32 ≠ pid) hpid (by decide) h

lemma tag_field (ha : IsUserPage a) (hpid : IsProcessId pid) :
    ((tag a pid &&& TLBHI_PID) >>> 6).toNat = pid.toNat % 64 := by
  rw [tag_pid ha.1, (shifted_pid hpid).1, toNat_ofNat]
  omega

lemma tag_decode (ha : IsUserPage a) (hpid : IsProcessId pid) :
    (tag a pid &&& TLBHI_PID) >>> 6 = pid ↔ pid.toNat < 64 := by
  rw [tag_pid ha.1, (shifted_pid hpid).1]
  constructor
  · intro h
    have hnat := congrArg BitVec.toNat h
    rw [toNat_ofNat] at hnat
    omega
  · intro h
    rw [Nat.mod_eq_of_lt h, ofNat_toNat, setWidth_eq]

lemma tag_page_small (ha : IsUserPage a) (hpid : IsProcessId pid) (h : pid.toNat < 64) :
    tag a pid &&& TLBHI_VPAGE = a := by
  rw [tag_page ha.1, (shifted_pid hpid).2.1, if_pos h, or_zero]

lemma msb_of_user (ha : IsUserPage a) : a.msb = false := by
  rw [msb_eq_false_iff_two_mul_lt]
  have hlt := lt_def.mp ha.2
  have hseg : MIPS_KSEG0.toNat = 0x80000000 := rfl
  omega

lemma user_of_msb (h : a.msb = false) : a < MIPS_KSEG0 := by
  rw [msb_eq_false_iff_two_mul_lt] at h
  have hseg : MIPS_KSEG0.toNat = 0x80000000 := rfl
  rw [lt_def]
  omega

lemma tag_user (ha : IsUserPage a) (hpid : IsProcessId pid) : (tag a pid).msb = false := by
  rw [tag, msb_or, msb_of_user ha, (shifted_pid hpid).2.2]
  rfl

lemma invalidEntry_kernel : ∀ slot : Fin NUM_TLB, (invalidEntry slot).hi.msb = true := by
  decide

lemma invalidEntry_ne_tag (ha : IsUserPage a) (hpid : IsProcessId pid) (hslot : slot < NUM_TLB)
    (lo : Word) : invalidEntry slot ≠ ⟨tag a pid, lo⟩ := by
  intro h
  have hmsb := invalidEntry_kernel ⟨slot, hslot⟩
  rw [congrArg TlbEntry.hi h, tag_user ha hpid] at hmsb
  cases hmsb

end Fields

-- The pairs with a tag of their own.
def HasOwnTag (a pid : Word) : Prop := pid.toNat < 64 ∧ (36 < pid.toNat ∨ a.getLsbD 12 = false)

lemma tag_inj (ha : IsUserPage a) (ha' : IsUserPage a') (hpid : IsProcessId pid)
    (hpid' : IsProcessId pid') (h : HasOwnTag a pid) (heq : tag a' pid' = tag a pid) :
    a' = a ∧ pid' = pid := by
  have hfield := tag_field ha' hpid'
  rw [heq, tag_field ha hpid] at hfield
  have hpage := tag_page ha'.1 pid'
  rw [heq, tag_page_small ha hpid h.1, (shifted_pid hpid').2.1] at hpage
  have hmax : pid'.toNat ≤ 100 := hpid'.2
  by_cases hsmall : pid'.toNat < 64
  · rw [if_pos hsmall, or_zero] at hpage
    exact ⟨hpage.symm, eq_of_toNat_eq (by have := h.1; omega)⟩
  -- the identifier has spilled over into bit 12 of the page
  rw [if_neg hsmall] at hpage
  have hbit : a.getLsbD 12 = true := by
    rw [hpage, getLsbD_or]
    exact Bool.or_true _
  rcases h.2 with hlarge | hclear
  · have := h.1
    omega
  · rw [hclear] at hbit
    cases hbit

lemma tag_shared (ha : IsUserPage a) (hpid : IsProcessId pid) (h : ¬ HasOwnTag a pid) :
    ∃ a' pid', IsUserPage a' ∧ IsProcessId pid' ∧ tag a' pid' = tag a pid ∧
      ¬ (a' = a ∧ pid' = pid) := by
  by_cases hlow : pid.toNat < 64
  · obtain ⟨hle, hbit⟩ : pid.toNat ≤ 36 ∧ a.getLsbD 12 = true := by
      simpa [HasOwnTag, hlow] using h
    obtain ⟨hshift, hpid', hne⟩ := shifted_small hpid hle
    refine ⟨a, pid + 64#32, ha, hpid', ?_, fun hsame => hne hsame.2⟩
    have hset : a ||| 0x1000#32 = a := by
      refine eq_of_getLsbD_eq fun i hi => ?_
      have hmask : ∀ i : Fin 32, (0x1000#32 : Word).getLsbD i = decide (i.val = 12) := by decide
      rw [getLsbD_or, hmask ⟨i, hi⟩]
      obtain rfl | hi12 := eq_or_ne i 12
      · simp [hbit]
      · simp [hi12]
    rw [tag, ← hshift, ← BitVec.or_assoc, hset, tag]
  by_cases hsplit : pid.toNat = 64
  · obtain rfl : pid = 64#32 := eq_of_toNat_eq hsplit
    refine ⟨a ^^^ 0x1000#32, 64#32, ⟨?_, ?_⟩, hpid, ?_, fun hsame => ?_⟩
    · refine eq_of_getLsbD_eq fun i hi => ?_
      have ha' := congrArg (fun w : Word => w.getLsbD i) ha.1
      have hc' := congrArg (fun w : Word => w.getLsbD i)
        (show 0x1000#32 &&& PAGE_FRAME = 0x1000#32 by decide)
      simp only [getLsbD_and, getLsbD_xor] at ha' hc' ⊢
      rw [Bool.and_xor_distrib_right, ha', hc']
    · refine user_of_msb ?_
      rw [msb_xor, msb_of_user ha]
      rfl
    · show a ^^^ 0x1000#32 ||| 0x1000#32 = a ||| 0x1000#32
      refine eq_of_getLsbD_eq fun i hi => ?_
      simp only [getLsbD_or, getLsbD_xor]
      cases a.getLsbD i <;> cases (0x1000#32 : Word).getLsbD i <;> rfl
    have hzero : a ^^^ (a ^^^ 0x1000#32) = a ^^^ a := by rw [hsame.1]
    rw [← xor_assoc, BitVec.xor_self, BitVec.zero_xor] at hzero
    cases hzero
  have hbig : 65 ≤ pid.toNat := by omega
  obtain ⟨hshift, hsub, hpid'⟩ := shifted_large hpid hbig
  refine ⟨a ||| 0x1000#32, pid - 64#32, ⟨?_, ?_⟩, hpid', ?_, fun hsame => ?_⟩
  · rw [BitVec.and_comm, and_or_distrib_left, BitVec.and_comm _ a, ha.1]
    rfl
  · refine user_of_msb ?_
    rw [msb_or, msb_of_user ha]
    rfl
  · rw [tag, BitVec.or_assoc, hshift, tag]
  · rw [hsame.2] at hsub
    omega

lemma asActivate_returns_iff (havail : Available env .tlb s) (as : Nat) (current : Word) :
    (∃ t, (asActivate env ⟨current, some as⟩).run s = .ok () t) ↔
      (env.locked = true → ∀ i < NUM_TLB, (s.tlb.entry i).pid = current) := by
  cases hl : env.locked with
  | false =>
    obtain ⟨t, hrun, -⟩ := resetTlbPidDifferent_run hl current s
    exact iff_of_true ⟨t, hrun⟩ nofun
  | true =>
    constructor
    · rintro ⟨t, hrun⟩ -
      exact ((resetTlbPidDifferent_locked_ok hl).mp hrun).2.1
    · intro hall
      exact ⟨_, (resetTlbPidDifferent_locked_ok hl).mpr ⟨havail, hall rfl, rfl⟩⟩

lemma asActivate_entry (hrun : (asActivate env ⟨current, some as⟩).run s = .ok () t)
    (hslot : slot < NUM_TLB) : t.tlb.entry slot =
      if (s.tlb.entry slot).pid = current then s.tlb.entry slot else invalidEntry slot := by
  cases hl : env.locked with
  | false =>
    obtain ⟨u, hrun', -, hentry, -⟩ := resetTlbPidDifferent_run hl current s
    obtain rfl : t = u := by simpa using hrun.symm.trans hrun'
    exact hentry slot hslot
  | true =>
    obtain ⟨-, hall, rfl⟩ := (resetTlbPidDifferent_locked_ok hl).mp hrun
    rw [if_pos (hall slot hslot)]
    rfl

lemma asActivate_keeps_iff (ha : IsUserPage a) (hpid : IsProcessId pid)
    (hentry : s.tlb.entry slot = ⟨tag a pid, lo⟩) (hslot : slot < NUM_TLB)
    (hrun : (asActivate env ⟨current, some as⟩).run s = .ok () t) :
    t.tlb.entry slot = ⟨tag a pid, lo⟩ ↔ current.toNat = pid.toNat % 64 := by
  have hfield : (s.tlb.entry slot).pid.toNat = pid.toNat % 64 := by
    rw [hentry]
    exact tag_field ha hpid
  rw [asActivate_entry hrun hslot]
  by_cases hsame : (s.tlb.entry slot).pid = current
  · rw [if_pos hsame, ← hsame]
    exact iff_of_true hentry hfield
  rw [if_neg hsame]
  refine iff_of_false (invalidEntry_ne_tag ha hpid hslot lo) fun h => hsame ?_
  exact eq_of_toNat_eq (hfield.trans h.symm)

-- The tag of a page has the address and the identifier in their fields exactly for identifiers
-- of six bits, and is shared with no other pair exactly when it is the pair's own. as_activate
-- comes back when it takes no lock or has no slot to reset.
theorem tag_sound_iff {a pid : Word} (ha : IsUserPage a) (hpid : IsProcessId pid) :
    ((tag a pid &&& TLBHI_VPAGE = a ∧ (tag a pid &&& TLBHI_PID) >>> 6 = pid) ↔ pid.toNat < 64) ∧
      ((∀ a' pid', IsUserPage a' → IsProcessId pid' → tag a' pid' = tag a pid →
        a' = a ∧ pid' = pid) ↔ HasOwnTag a pid) ∧
      ∀ (env : Env) (s : State) (as slot : Nat) (lo current : Word), Available env .tlb s →
        slot < NUM_TLB → s.tlb.entry slot = ⟨tag a pid, lo⟩ →
        ((∃ t, (asActivate env ⟨current, some as⟩).run s = .ok () t ∧
            (t.tlb.entry slot = ⟨tag a pid, lo⟩ ↔ current = pid)) ↔
          (env.locked = true → ∀ i < NUM_TLB, (s.tlb.entry i).pid = current) ∧
            (pid.toNat < 64 ∨ current ≠ pid ∧ current.toNat ≠ pid.toNat - 64)) := by
  refine ⟨⟨fun h => (tag_decode ha hpid).mp h.2, fun h => ⟨tag_page_small ha hpid h,
    (tag_decode ha hpid).mpr h⟩⟩, ⟨fun hunique => ?_, fun h a' pid' ha' hpid' heq =>
    tag_inj ha ha' hpid hpid' h heq⟩, fun env s as slot lo current havail hslot hentry => ?_⟩
  · by_contra hshared
    obtain ⟨a', pid', ha', hpid', heq, hne⟩ := tag_shared ha hpid hshared
    exact hne (hunique a' pid' ha' hpid' heq)
  rw [← asActivate_returns_iff havail as current]
  have hmax : pid.toNat ≤ 100 := hpid.2
  have harith : (current.toNat = pid.toNat % 64 ↔ current = pid) ↔
      pid.toNat < 64 ∨ current ≠ pid ∧ current.toNat ≠ pid.toNat - 64 := by
    rw [← toNat_inj, ne_eq, ← toNat_inj]
    omega
  constructor
  · rintro ⟨t, hrun, hkeeps⟩
    rw [asActivate_keeps_iff ha hpid hentry hslot hrun] at hkeeps
    exact ⟨⟨t, hrun⟩, harith.mp hkeeps⟩
  rintro ⟨⟨t, hrun⟩, hcond⟩
  refine ⟨t, hrun, ?_⟩
  rw [asActivate_keeps_iff ha hpid hentry hslot hrun]
  exact harith.mpr hcond

-- Process 40 with a page whose bit 12 is set: its entries survive its own as_activate.
theorem tag_sound_forty :
    HasOwnTag 0x401000#32 40#32 ∧
      (∀ a' pid', IsUserPage a' → IsProcessId pid' → tag a' pid' = tag 0x401000#32 40#32 →
        a' = 0x401000#32 ∧ pid' = 40#32) ∧
      ∃ t, (asActivate steadyEnv ⟨40#32, some 0⟩).run ((powerOn smallRam).setTlb
          ⟨fun _ => ⟨tag 0x401000#32 40#32, 0#32⟩, fun _ => true, 0⟩) = .ok () t ∧
        (t.tlb.entry 5 = ⟨tag 0x401000#32 40#32, 0#32⟩ ↔ (40#32 : Word) = 40#32) := by
  have hown : HasOwnTag 0x401000#32 40#32 := ⟨by decide, .inl (by decide)⟩
  obtain ⟨-, hunique, hkeeps⟩ := tag_sound_iff
    (show IsUserPage 0x401000#32 by decide) (show IsProcessId 40#32 by decide)
  refine ⟨hown, hunique.mpr hown, (hkeeps _ _ 0 5 0#32 40#32 (fun _ => rfl) (by decide) rfl).mpr
    ⟨fun _ i _ => ?_, .inl hown.1⟩⟩
  show (tag 0x401000#32 40#32 &&& TLBHI_PID) >>> 6 = 40#32
  decide

theorem tag_of_64 : IsUserPage 0x400000#32 ∧ IsProcessId 64#32 ∧
    tag 0x400000#32 64#32 &&& TLBHI_VPAGE = 0x401000#32 ∧
    (tag 0x400000#32 64#32 &&& TLBHI_PID) >>> 6 = 0#32 ∧
    tag 0x400000#32 64#32 = tag 0x401000#32 64#32 := by
  decide

end Os161.Vm
