import Mathlib.Data.List.Nodup
import Mathlib.Logic.Function.Basic
import Mathlib.Tactic.Common

-- The CPUs of kern/dev/lamebus/lamebus.c and cpu_create of kern/thread/thread.c. The mainboard
-- without CPU registers, on which both functions return at once, is left out.

namespace Os161.Lamebus

open Function List

abbrev Word := BitVec 32

structure Cpu where
  number : Nat
  hardwareNumber : Nat
  deriving DecidableEq, Repr

def bit (i : Nat) : Word := 1#32 <<< i

-- cpuarray_add stores the index of the new element in c_number.
def cpuCreate (allcpus : List Cpu) (hardwareNumber : Nat) : List Cpu :=
  allcpus ++ [⟨allcpus.length, hardwareNumber⟩]

-- The variables of lamebus_find_cpus; numcpus is the length of hwnum.
structure Scan where
  bootcpu : Nat
  hwnum : List Nat
  curcpu : Cpu

def scanCpu (cpumask self : Word) (s : Scan) (i : Nat) : Scan :=
  if cpumask &&& bit i ≠ 0#32 then
    let s :=
      if self &&& bit i ≠ 0#32 then
        { s with bootcpu := s.hwnum.length, curcpu := { s.curcpu with hardwareNumber := i } }
      else s
    { s with hwnum := s.hwnum ++ [i] }
  else s

def createCpus (bootcpu : Nat) : Nat → List Nat → List Cpu → List Cpu
  | _, [], allcpus => allcpus
  | i, hw :: hwnum, allcpus =>
    createCpus bootcpu (i + 1) hwnum (if i ≠ bootcpu then cpuCreate allcpus hw else allcpus)

def lamebusFindCpus (cpumask self : Word) (curcpu : Cpu) : List Cpu :=
  let s := (List.range 32).foldl (scanCpu cpumask self) ⟨0, [], curcpu⟩
  createCpus s.bootcpu 0 s.hwnum [s.curcpu]

-- The number that is next, and cram[1] of each CPU.
def startCpu (cpumask self : Word) (s : Nat × (Nat → Option Nat)) (i : Nat) :
    Nat × (Nat → Option Nat) :=
  if cpumask &&& bit i ≠ 0#32 then
    if self &&& bit i ≠ 0#32 then s else (s.1 + 1, update s.2 i (some s.1))
  else s

def lamebusStartCpus (cpumask self : Word) : Nat → Option Nat :=
  ((List.range 32).foldl (startCpu cpumask self) (1, fun _ => none)).2

-- cpu_start_secondary takes curcpu from the table that cpu_create fills at c_number; the test is
-- the assertion of cpu_hatch.
def cpuHatch (allcpus : List Cpu) (softwareNumber : Nat) : Option Cpu := do
  let curcpu ← allcpus[softwareNumber]?
  if curcpu.number = softwareNumber then some curcpu else none

variable {cpumask : Word} {boot : Nat} {xs : List Nat}

abbrev Present (cpumask : Word) (i : Nat) : Prop := cpumask &&& bit i ≠ 0#32

lemma bit_and_bit : ∀ b < 32, ∀ i < 32, (bit b &&& bit i ≠ 0#32 ↔ i = b) := by
  decide +kernel

-- Hardware CPUs other than the boot CPU.
def Others (boot : Nat) (xs : List Nat) : Prop := ∀ i ∈ xs, i < 32 ∧ i ≠ boot

lemma Others.self (hxs : Others boot xs) (hboot : boot < 32) (i : Nat) (hi : i ∈ xs) :
    ¬ bit boot &&& bit i ≠ 0#32 := fun h =>
  (hxs i hi).2 ((bit_and_bit boot hboot i (hxs i hi).1).mp h)

lemma scan_others (hboot : boot < 32) (hxs : Others boot xs) (s : Scan) :
    xs.foldl (scanCpu cpumask (bit boot)) s =
      { s with hwnum := s.hwnum ++ xs.filter (Present cpumask) } := by
  induction xs generalizing s with
  | nil => simp
  | cons i xs ih =>
    rw [foldl_cons, ih fun j hj => hxs j (mem_cons_of_mem i hj), scanCpu,
      if_neg (hxs.self hboot i mem_cons_self)]
    by_cases hp : Present cpumask i <;> simp [hp]

lemma createCpus_others (bootcpu : Nat) (xs ys : List Nat) (i : Nat) (allcpus : List Cpu)
    (hi : bootcpu < i ∨ i + xs.length ≤ bootcpu) : createCpus bootcpu i (xs ++ ys) allcpus =
      createCpus bootcpu (i + xs.length) ys (xs.foldl cpuCreate allcpus) := by
  induction xs generalizing i allcpus with
  | nil => rfl
  | cons hw xs ih =>
    rw [length_cons] at hi
    have hne : i ≠ bootcpu := by omega
    rw [cons_append, createCpus, if_pos hne, ih _ _ (by omega), foldl_cons,
      length_cons, Nat.add_assoc, Nat.add_comm 1]

lemma createCpus_skips (xs ys : List Nat) (hw : Nat) (allcpus : List Cpu) :
    createCpus xs.length 0 (xs ++ hw :: ys) allcpus = (xs ++ ys).foldl cpuCreate allcpus := by
  rw [createCpus_others _ _ _ _ _ (.inr (by omega)), createCpus, if_neg (by omega),
    ← append_nil ys, createCpus_others _ _ _ _ _ (.inl (by omega)), append_nil,
    foldl_append, createCpus]

def store (s : Nat × (Nat → Option Nat)) (i : Nat) : Nat × (Nat → Option Nat) :=
  (s.1 + 1, update s.2 i (some s.1))

lemma start_others (hboot : boot < 32) (hxs : Others boot xs) (s : Nat × (Nat → Option Nat)) :
    xs.foldl (startCpu cpumask (bit boot)) s = (xs.filter (Present cpumask)).foldl store s := by
  rw [foldl_filter]
  refine foldl_ext _ _ _ fun s i hi => ?_
  rw [startCpu, if_neg (hxs.self hboot i hi)]
  simp [store]

-- Over one list the numbers stored are those of the structures.
lemma store_numbers (allcpus : List Cpu) (cram : Nat → Option Nat)
    (h : ∀ i n, cram i = some n → allcpus[n]? = some ⟨n, i⟩) (i : Nat)
    (hi : i ∈ xs ∨ ∃ n, cram i = some n) :
    ∃ n, (xs.foldl store (allcpus.length, cram)).2 i = some n ∧
      (xs.foldl cpuCreate allcpus)[n]? = some ⟨n, i⟩ := by
  induction xs generalizing allcpus cram with
  | nil =>
    obtain ⟨n, hn⟩ := hi.resolve_left not_mem_nil
    exact ⟨n, hn, h i n hn⟩
  | cons x xs ih =>
    have hlen : (cpuCreate allcpus x).length = allcpus.length + 1 := length_append
    rw [foldl_cons, foldl_cons, store, ← hlen]
    refine ih _ _ (fun j n hj => ?_) ?_
    · by_cases hjx : j = x
      · subst hjx
        rw [update_self] at hj
        cases hj
        exact getElem?_concat_length
      rw [update_of_ne hjx] at hj
      have hold := h j n hj
      exact (getElem?_append_left (List.getElem?_eq_some_iff.mp hold).1).trans hold
    by_cases hix : i = x
    · exact .inr ⟨allcpus.length, by rw [hix, update_self]⟩
    · rw [update_of_ne hix]
      exact hi.imp_left fun hmem => (mem_cons.mp hmem).resolve_left hix

lemma foldl_cpuCreate_hardware (allcpus : List Cpu) :
    (xs.foldl cpuCreate allcpus).map Cpu.hardwareNumber = allcpus.map Cpu.hardwareNumber ++ xs := by
  induction xs generalizing allcpus with
  | nil => simp
  | cons x xs ih => rw [foldl_cons, ih, cpuCreate, map_append, append_assoc]; rfl

-- Whatever CPUs are present and whichever is the boot CPU, the number stored for another one is
-- that of the one structure with its hardware number.
theorem cpu_numbers_agree (cpumask : Word) (boot : Nat) (hboot : boot < 32)
    (hpresent : cpumask &&& bit boot ≠ 0#32) (curcpu : Cpu) (hzero : curcpu.number = 0) :
    ∀ i < 32, cpumask &&& bit i ≠ 0#32 → i ≠ boot →
      ∃ c ∈ lamebusFindCpus cpumask (bit boot) curcpu, c.hardwareNumber = i ∧
        (∀ c' ∈ lamebusFindCpus cpumask (bit boot) curcpu, c'.hardwareNumber = i → c' = c) ∧
        lamebusStartCpus cpumask (bit boot) i = some c.number ∧
        cpuHatch (lamebusFindCpus cpumask (bit boot) curcpu) c.number = some c := by
  intro i hi hp hne
  obtain ⟨pre, post, hsplit⟩ := append_of_mem (mem_range.mpr hboot)
  have hrange : ∀ j, j ∈ boot :: (pre ++ post) ↔ j < 32 := fun j => by
    rw [← perm_middle.mem_iff, ← hsplit, mem_range]
  have hnodup : (boot :: (pre ++ post)).Nodup := by
    rw [← perm_middle.nodup_iff, ← hsplit]
    exact nodup_range
  have hothers : Others boot (pre ++ post) := fun j hj =>
    ⟨(hrange j).mp (mem_cons_of_mem boot hj), fun h => (nodup_cons.mp hnodup).1 (h ▸ hj)⟩
  have hpre : Others boot pre := fun j hj => hothers j (mem_append_left _ hj)
  have hpost : Others boot post := fun j hj => hothers j (mem_append_right _ hj)
  have hself := (bit_and_bit boot hboot boot hboot).mpr rfl
  have hfind : lamebusFindCpus cpumask (bit boot) curcpu =
      ((pre ++ post).filter (Present cpumask)).foldl cpuCreate [⟨0, boot⟩] := by
    rw [lamebusFindCpus, hsplit, foldl_append, scan_others hboot hpre, foldl_cons,
      scan_others hboot hpost, scanCpu, if_pos hpresent, if_pos hself]
    dsimp only
    rw [nil_append, append_assoc, singleton_append, createCpus_skips, hzero, filter_append]
  have hstart : lamebusStartCpus cpumask (bit boot) =
      (((pre ++ post).filter (Present cpumask)).foldl store (1, fun _ => none)).2 := by
    rw [lamebusStartCpus, hsplit, foldl_append, start_others hboot hpre, foldl_cons,
      start_others hboot hpost, startCpu, if_pos hpresent, if_pos hself, filter_append,
      foldl_append]
  have hmem : i ∈ (pre ++ post).filter (Present cpumask) :=
    mem_filter.mpr
      ⟨(mem_cons.mp ((hrange i).mpr hi)).resolve_left hne, by simpa using hp⟩
  obtain ⟨n, hn, hcpu⟩ := store_numbers [⟨0, boot⟩] (fun _ => none) (fun j n hj => by cases hj) i
    (.inl hmem)
  rw [← hfind] at hcpu
  have hunique : ((lamebusFindCpus cpumask (bit boot) curcpu).map Cpu.hardwareNumber).Nodup := by
    rw [hfind, foldl_cpuCreate_hardware]
    obtain ⟨hboot, hrest⟩ := nodup_cons.mp hnodup
    exact nodup_cons.mpr ⟨fun h => hboot (mem_of_mem_filter h), hrest.filter _⟩
  have hc := mem_of_getElem? hcpu
  refine ⟨⟨n, i⟩, hc, rfl, fun c' hc' hci => ?_, ?_, ?_⟩
  · exact inj_on_of_nodup_map hunique hc' hc hci
  · rw [hstart]
    exact hn
  · rw [cpuHatch, hcpu]
    exact if_pos rfl

theorem cpu_numbers_agree_third : ∃ c ∈ lamebusFindCpus 0b1101#32 (bit 2) ⟨0, 0⟩,
    c.hardwareNumber = 3 ∧
      (∀ c' ∈ lamebusFindCpus 0b1101#32 (bit 2) ⟨0, 0⟩, c'.hardwareNumber = 3 → c' = c) ∧
      lamebusStartCpus 0b1101#32 (bit 2) 3 = some c.number ∧
      cpuHatch (lamebusFindCpus 0b1101#32 (bit 2) ⟨0, 0⟩) c.number = some c :=
  cpu_numbers_agree _ 2 (by decide) (by decide) _ rfl 3 (by decide) (by decide) (by decide)

end Os161.Lamebus
