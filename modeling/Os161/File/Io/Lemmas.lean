import Os161.File.Io

namespace Os161.File

open Lib Lib.Exec Lib.Hoare Vm Process EStateM

def Kernel.word (k : Kernel) (table : Word) (fd : Nat) : Option Pointer :=
  if fd < OPEN_MAX then (k.fileTable k.system.curproc fd).map .entry
  else match k.system.procs k.system.curproc with
    | some proc => pointerAt table proc.pid
    | none => some .astray

section Runs

variable {α : Type} {m : Session}

variable {x : Syscall α} {e : Stop}

lemma onKernel_run_ok (h : x.run m.kernel = .ok a k) :
    (onKernel x).run m = .ok a { m with kernel := k } := by
  unfold onKernel EStateM.run at *
  dsimp only
  rw [h]

lemma onKernel_run_error
    (h : x.run m.kernel = .error e k) :
    (onKernel x).run m = .error e { m with kernel := k } := by
  unfold onKernel EStateM.run at *
  dsimp only
  rw [h]

lemma onSystem_run_error {x : Sys α} {sys : System}
    (h : x.run k.system = .error e sys) : (onSystem x).run k = .error e (k.setSystem sys) := by
  unfold onSystem EStateM.run at *
  dsimp only
  rw [h]

lemma readDescriptor_run (table : Word) (fd : Nat) (k : Kernel) :
    (readDescriptor table fd).run k = .ok (k.word table fd) k ∨
      k.word table fd = some .astray ∧ (readDescriptor table fd).run k = .error .dangling k := by
  unfold readDescriptor Kernel.word
  rw [bind_run_ok (run_get k)]
  by_cases hfd : fd < OPEN_MAX
  · rw [if_pos hfd, if_pos hfd]
    exact .inl rfl
  rw [if_neg hfd, if_neg hfd]
  cases hproc : k.system.procs k.system.curproc with
  | some proc =>
    have hread : (onSystem (readProc k.system.curproc)).run k = .ok proc k :=
      onSystem_ok.mpr ⟨k.system, readProc_ok.mpr ⟨hproc, rfl⟩, rfl⟩
    rw [bind_run_ok hread]
    exact .inl rfl
  | none =>
    have hread : (readProc k.system.curproc).run k.system = .error .dangling k.system := by
      unfold readProc
      rw [bind_run_ok (run_get _), hproc]
      rfl
    exact .inr ⟨rfl, bind_run_error (onSystem_run_error hread) _⟩

lemma tableEntry_run (table : Word) (fd : Nat) (m : Session) :
    (tableEntry table fd).run m = .ok (m.kernel.word table fd) (m.index fd) ∨
      m.kernel.word table fd = some .astray ∧
        (tableEntry table fd).run m = .error .dangling (m.index fd) := by
  unfold tableEntry
  rw [bind_run_ok (run_modify ..)]
  rcases readDescriptor_run table fd m.kernel with hrun | ⟨hword, hrun⟩
  · exact .inl (onKernel_run_ok hrun)
  · exact .inr ⟨hword, onKernel_run_error hrun⟩

end Runs

-- What a call that reaches the console does there. Each character goes through, up to and with
-- the first one that ends the loop.
section Console

def Session.pass (m : Session) (cs : List UInt8) : Session :=
  { m with console := m.console ++ cs }

lemma passChar_run (c : UInt8) (m : Session) :
    (passChar c).run m = .ok () (m.pass [c]) := rfl

lemma pass_pass (m : Session) (cs ds : List UInt8) : (m.pass cs).pass ds = m.pass (cs ++ ds) := by
  simp [Session.pass]

lemma putChars_run (count : Nat) : ∀ (i : Nat) (m : Session),
    (∀ j, i ≤ j → j < i + count → (t.buffer j).isSome = true) →
    ∃ cs, cs.length = count ∧ (putChars t count i).run m = .ok () (m.pass cs) := by
  induction count with
  | zero =>
    intro i m _
    refine ⟨[], rfl, ?_⟩
    simp [putChars, Session.pass]
  | succ count ih =>
    intro i m hbuf
    obtain ⟨c, hc⟩ := Option.isSome_iff_exists.mp (hbuf i (Nat.le_refl i) (by omega))
    obtain ⟨cs, hlen, hrun⟩ := ih (i + 1) (m.pass [c]) fun j hlo hhi =>
      hbuf j (by omega) (by omega)
    refine ⟨c :: cs, by simp [hlen], ?_⟩
    unfold putChars
    rw [hc]
    simp only
    rw [bind_run_ok (passChar_run c m), hrun, pass_pass]
    rfl

lemma putChars_stops (count : Nat) : ∀ (i : Nat) (m : Session) {j : Nat}, i ≤ j →
    j < i + count → t.buffer j = none → ∃ m', (putChars t count i).run m = .error .dangling m' := by
  induction count with
  | zero =>
    intro i m j hlo hhi
    omega
  | succ count ih =>
    intro i m j hlo hhi hj
    unfold putChars
    cases hc : t.buffer i with
    | none => exact ⟨m, rfl⟩
    | some c =>
      have hne : i ≠ j := by
        rintro rfl
        rw [hc] at hj
        cases hj
      obtain ⟨m', hrun⟩ := ih (i + 1) (m.pass [c]) (by omega) (by omega) hj
      refine ⟨m', ?_⟩
      simp only
      rw [bind_run_ok (passChar_run c m)]
      exact hrun

lemma getChars_run (count : Nat) : ∀ (i : Nat) (m : Session),
    (∀ j, i ≤ j → j < i + count → (t.buffer j).isSome = true ∧ t.typed j < 0x80) →
    ∃ cs, cs.length = count ∧ (getChars t count i).run m = .ok none (m.pass cs) := by
  induction count with
  | zero =>
    intro i m _
    refine ⟨[], rfl, ?_⟩
    simp [getChars, Session.pass]
  | succ count ih =>
    intro i m hbuf
    obtain ⟨hc, hascii⟩ := hbuf i (Nat.le_refl i) (by omega)
    obtain ⟨cs, hlen, hrun⟩ := ih (i + 1) (m.pass [t.typed i]) fun j hlo hhi =>
      hbuf j (by omega) (by omega)
    refine ⟨t.typed i :: cs, by simp [hlen], ?_⟩
    unfold getChars
    rw [if_neg (by simpa [Option.isSome_iff_ne_none] using hc), bind_run_ok (passChar_run _ m),
      if_neg (by simpa using hascii), hrun, pass_pass]
    rfl

lemma getChars_early (count : Nat) : ∀ (i : Nat) (m : Session) {j : Nat}, i ≤ j →
    j < i + count → ¬ ((t.buffer j).isSome = true ∧ t.typed j < 0x80) →
    (∃ m', (getChars t count i).run m = .error .dangling m') ∨
      ∃ n cs, n < count ∧ cs.length = n + 1 ∧
        (getChars t count i).run m = .ok (some (i + n)) (m.pass cs) := by
  induction count with
  | zero =>
    intro i m j hlo hhi
    omega
  | succ count ih =>
    intro i m j hlo hhi hj
    unfold getChars
    by_cases hc : (t.buffer i).isNone = true
    · exact .inl ⟨m, by rw [if_pos hc]; rfl⟩
    rw [if_neg hc, bind_run_ok (passChar_run _ m)]
    by_cases hascii : 0x80 ≤ t.typed i
    · refine .inr ⟨0, [t.typed i], by omega, rfl, ?_⟩
      rw [if_pos hascii]
      rfl
    rw [if_neg hascii]
    have hne : i ≠ j := by
      rintro rfl
      exact hj ⟨by simpa [Option.isSome_iff_ne_none] using hc, by simpa using hascii⟩
    rcases ih (i + 1) (m.pass [t.typed i]) (by omega) (by omega) hj with hstop |
      ⟨n, cs, hn, hlen, hrun⟩
    · exact .inl hstop
    refine .inr ⟨n + 1, t.typed i :: cs, by omega, by simp [hlen], ?_⟩
    rw [hrun, pass_pass, show i + 1 + n = i + (n + 1) by omega]
    rfl

end Console

end Os161.File
