import Os161.Lib.Run

-- The input queue of kern/dev/generic/console.c. con_input runs in the interrupt handler, so the
-- one reader does not move while it does; a reader that finds the count 0 sleeps.

namespace Os161.Console

open Function List

def CONSOLE_INPUT_BUFFER_SIZE : Nat := 32

structure Softc where
  gotchars : Nat → UInt8
  gotcharsHead : Nat
  gotcharsTail : Nat
  rsem : Nat

def V (count : Nat) : Option Nat :=
  let count := (count + 1) % 0x100000000
  if 0 < count then some count else none

def conInput (ch : UInt8) (cs : Softc) : Option (Bool × Softc) :=
  let nexthead := (cs.gotcharsHead + 1) % CONSOLE_INPUT_BUFFER_SIZE
  if nexthead = cs.gotcharsTail then some (false, cs)
  else (V cs.rsem).map fun rsem => (true,
    { cs with
      gotchars := update cs.gotchars cs.gotcharsHead ch
      gotcharsHead := nexthead
      rsem })

inductive Pc where
  | P | load | advance (ret : UInt8) | back (ret : UInt8)
  deriving DecidableEq

-- What has been accepted and what getch has returned stand beside the console.
structure State where
  cs : Softc
  pc : Pc
  accepted : List UInt8
  returned : List UInt8

inductive Event where
  | input (ch : UInt8)
  | reader

def getchIntr (s : State) : Option State :=
  match s.pc with
  | .P => if s.cs.rsem = 0 then none
      else some { s with cs := { s.cs with rsem := s.cs.rsem - 1 }, pc := .load }
  | .load => some { s with pc := .advance (s.cs.gotchars s.cs.gotcharsTail) }
  | .advance ret => some { s with
      cs := { s.cs with gotcharsTail := (s.cs.gotcharsTail + 1) % CONSOLE_INPUT_BUFFER_SIZE }
      pc := .back ret }
  | .back ret => some { s with returned := s.returned ++ [ret], pc := .P }

def step : Event → State → Option State
  | .input ch, s => (conInput ch s.cs).map fun (accepted, cs) =>
    { s with cs, accepted := if accepted then s.accepted ++ [ch] else s.accepted }
  | .reader, s => getchIntr s

def Step (s t : State) : Prop := ∃ event, step event s = some t

-- The buffer is what kmalloc has left in it.
def start (gotchars : Nat → UInt8) : State := ⟨⟨gotchars, 0, 0, 0⟩, .P, [], []⟩

def Softc.waiting (cs : Softc) : Nat :=
  (cs.gotcharsHead + CONSOLE_INPUT_BUFFER_SIZE - cs.gotcharsTail) % CONSOLE_INPUT_BUFFER_SIZE

def Softc.queue (cs : Softc) : List UInt8 := (List.range cs.waiting).map fun i =>
  cs.gotchars ((cs.gotcharsTail + i) % CONSOLE_INPUT_BUFFER_SIZE)

def Pc.claimed : Pc → Nat
  | .load | .advance _ => 1
  | .P | .back _ => 0

def Pc.taken : Pc → List UInt8
  | .back ret => [ret]
  | .P | .load | .advance _ => []

structure Sound (s : State) : Prop where
  order : s.accepted = s.returned ++ s.pc.taken ++ s.cs.queue
  count : s.cs.rsem + s.pc.claimed = s.cs.waiting
  granted : ∀ ret, s.pc = .advance ret → s.cs.queue.head? = some ret

structure Delivered (s t : State) (ch : UInt8) : Prop where
  accepted : t.accepted = if s.cs.waiting = CONSOLE_INPUT_BUFFER_SIZE - 1 then s.accepted
    else s.accepted ++ [ch]
  kept : ∀ i < s.cs.waiting,
    t.cs.gotchars ((s.cs.gotcharsTail + i) % CONSOLE_INPUT_BUFFER_SIZE) =
      s.cs.gotchars ((s.cs.gotcharsTail + i) % CONSOLE_INPUT_BUFFER_SIZE)

structure Inv (s : State) (taken : Nat) : Prop where
  tail : s.cs.gotcharsTail = taken % 32
  head : s.cs.gotcharsHead = s.accepted.length % 32
  le : taken ≤ s.accepted.length
  room : s.accepted.length < taken + 32
  count : s.cs.rsem + s.pc.claimed = s.accepted.length - taken
  slots : ∀ k, taken ≤ k → (h : k < s.accepted.length) → s.cs.gotchars (k % 32) = s.accepted[k]
  order : s.returned ++ s.pc.taken = s.accepted.take taken
  granted : ∀ ret, s.pc = .advance ret → s.cs.gotchars (taken % 32) = ret

variable {s t : State} {taken : Nat}

section

variable (h : Inv s taken)

include h

lemma Inv.waiting_eq : s.cs.waiting = s.accepted.length - taken := by
  have hle := h.le
  have hroom := h.room
  simp only [Softc.waiting, CONSOLE_INPUT_BUFFER_SIZE, h.head, h.tail]
  omega

lemma Inv.queue_eq : s.cs.queue = s.accepted.drop taken := by
  have hle := h.le
  refine ext_getElem (by simp [Softc.queue, h.waiting_eq]) fun i hi _ => ?_
  have hlt : taken + i < s.accepted.length := by
    simp only [Softc.queue, length_map, length_range, h.waiting_eq] at hi
    omega
  simp only [Softc.queue, getElem_map, getElem_range, getElem_drop, h.tail,
    CONSOLE_INPUT_BUFFER_SIZE, Nat.mod_add_mod]
  exact h.slots _ (by omega) hlt

lemma Inv.sound : Sound s := by
  refine ⟨?_, ?_, fun ret hret => ?_⟩
  · rw [h.order, h.queue_eq, take_append_drop]
  · rw [h.waiting_eq, h.count]
  have hcount := h.count
  have hlt : taken < s.accepted.length := by
    rw [hret] at hcount
    simp only [Pc.claimed] at hcount
    omega
  rw [h.queue_eq, head?_drop, getElem?_eq_getElem hlt,
    ← h.slots taken (Nat.le_refl _) hlt, h.granted ret hret]

lemma Inv.delivered (ch : UInt8) :
    ∃ t, step (.input ch) s = some t ∧ Delivered s t ch ∧ Inv t taken := by
  have hle := h.le
  have hroom := h.room
  have hcount := h.count
  by_cases hfull : s.accepted.length = taken + 31
  · have hnext : (s.cs.gotcharsHead + 1) % CONSOLE_INPUT_BUFFER_SIZE = s.cs.gotcharsTail := by
      simp only [CONSOLE_INPUT_BUFFER_SIZE, h.head, h.tail]
      omega
    have hsame : step (.input ch) s = some s := by simp [step, conInput, hnext]
    refine ⟨s, hsame, ⟨?_, fun _ _ => rfl⟩, h⟩
    rw [if_pos (by rw [h.waiting_eq, hfull, CONSOLE_INPUT_BUFFER_SIZE]; omega)]
  have hnext : ¬ (s.cs.gotcharsHead + 1) % CONSOLE_INPUT_BUFFER_SIZE = s.cs.gotcharsTail := by
    simp only [CONSOLE_INPUT_BUFFER_SIZE, h.head, h.tail]
    omega
  have hV : V s.cs.rsem = some (s.cs.rsem + 1) := by
    rw [V, Nat.mod_eq_of_lt (by omega)]
    exact if_pos (Nat.succ_pos _)
  have hfree : ∀ k, taken ≤ k → k < s.accepted.length → k % 32 ≠ s.cs.gotcharsHead := by
    intro k hlo hhi
    rw [h.head]
    omega
  refine ⟨_, by simp only [step, conInput, if_neg hnext, hV, Option.map_some]; rfl, ⟨?_, ?_⟩, ?_⟩
  · have hroom' : s.cs.waiting ≠ CONSOLE_INPUT_BUFFER_SIZE - 1 := by
      rw [h.waiting_eq, CONSOLE_INPUT_BUFFER_SIZE]
      omega
    exact (if_neg hroom').symm
  · intro i hi
    rw [h.waiting_eq] at hi
    refine update_of_ne ?_ _ _
    rw [h.tail, CONSOLE_INPUT_BUFFER_SIZE, Nat.mod_add_mod]
    exact hfree _ (by omega) (by omega)
  refine ⟨h.tail, ?_, ?_, ?_, ?_, ?_, ?_, ?_⟩
  · simp only [h.head, CONSOLE_INPUT_BUFFER_SIZE, if_true, length_append, length_singleton]
    omega
  · simp
    omega
  · simp
    omega
  · simp
    omega
  · intro k hlo hhi
    simp only [if_true, length_append, length_singleton] at hhi
    simp only [if_true]
    by_cases hk : k = s.accepted.length
    · subst hk
      simp [h.head]
    rw [update_of_ne (hfree k hlo (by omega)), getElem_append_left (by omega)]
    exact h.slots k hlo (by omega)
  · simp [h.order, take_append_of_le_length hle]
  intro ret hret
  have hlt : taken < s.accepted.length := by
    rw [show s.pc = .advance ret from hret] at hcount
    simp only [Pc.claimed] at hcount
    omega
  rw [← h.granted ret hret]
  exact update_of_ne (hfree taken (Nat.le_refl _) hlt) _ _

lemma Inv.reader (hstep : getchIntr s = some t) : ∃ taken', Inv t taken' := by
  have hcount := h.count
  have horder := h.order
  unfold getchIntr at hstep
  cases hpc : s.pc with
  | P =>
    simp only [hpc] at hstep hcount horder
    split at hstep
    · cases hstep
    cases hstep
    refine ⟨taken, h.tail, h.head, h.le, h.room, ?_, h.slots, horder, nofun⟩
    simp only [Pc.claimed] at hcount ⊢
    omega
  | load =>
    simp only [hpc] at hstep hcount horder
    cases hstep
    refine ⟨taken, h.tail, h.head, h.le, h.room, hcount, h.slots, horder, ?_⟩
    rintro ret ⟨⟩
    rw [h.tail]
  | advance ret =>
    simp only [hpc] at hstep hcount horder
    cases hstep
    simp only [Pc.claimed, Pc.taken, append_nil] at hcount horder
    have hlt : taken < s.accepted.length := by omega
    refine ⟨taken + 1, ?_, h.head, hlt, by have := h.room; simp only; omega, ?_,
      fun k hlo => h.slots k (by omega), ?_, nofun⟩
    · simp [h.tail, CONSOLE_INPUT_BUFFER_SIZE]
    · simp only [Pc.claimed]
      omega
    simp only [Pc.taken]
    rw [take_add_one, ← horder, getElem?_eq_getElem hlt,
      ← h.slots taken (Nat.le_refl _) hlt, h.granted ret hpc]
    rfl
  | back ret =>
    simp only [hpc] at hstep hcount horder
    cases hstep
    refine ⟨taken, h.tail, h.head, h.le, h.room, hcount, h.slots, ?_, nofun⟩
    simpa [Pc.taken] using horder

end

-- However the interrupts fall between the statements of getch, the characters come back in the
-- order in which they were accepted, and the count of the semaphore is right.
theorem console_queue (hrun : Relation.ReflTransGen Step (start gotchars) s) :
    Sound s ∧ ∀ ch, ∃ t, step (.input ch) s = some t ∧ Delivered s t ch := by
  have hstart : ∃ taken, Inv (start gotchars) taken :=
    ⟨0, rfl, rfl, Nat.le_refl _, Nat.zero_lt_succ _, rfl, (fun _ _ h => nomatch h), rfl, nofun⟩
  have hkeep : ∀ s t, (∃ taken, Inv s taken) → Step s t → ∃ taken, Inv t taken := by
    rintro s t ⟨taken, h⟩ ⟨event, hstep⟩
    cases event with
    | input ch =>
      obtain ⟨t', hstep', -, ht'⟩ := h.delivered ch
      obtain rfl : t' = t := Option.some.inj (hstep'.symm.trans hstep)
      exact ⟨taken, ht'⟩
    | reader => exact h.reader hstep
  obtain ⟨taken, h⟩ := Lib.Run.invariant hkeep hstart hrun
  refine ⟨h.sound, fun ch => ?_⟩
  obtain ⟨t, hstep, ht, -⟩ := h.delivered ch
  exact ⟨t, hstep, ht⟩

def typed : State := ⟨⟨update (update (fun _ => 7) 0 97) 1 98, 2, 1, 1⟩, .P, [97, 98], [97]⟩

theorem console_queue_typed : Sound typed ∧ typed.cs.queue = [98] ∧ typed.returned = [97] := by
  have hrun : Relation.ReflTransGen Step (start fun _ => 7) typed :=
    .head ⟨.input 97, rfl⟩ (.head ⟨.input 98, rfl⟩ (.head ⟨.reader, rfl⟩ (.head ⟨.reader, rfl⟩
      (.head ⟨.reader, rfl⟩ (.single ⟨.reader, rfl⟩)))))
  exact ⟨(console_queue hrun).1, rfl, rfl⟩

end Os161.Console
