import Mathlib.Data.List.TakeWhile
import Os161.Vfs

namespace Os161.Vfs

open List

open Vm (Word)

variable {σ : Type}

-- How a path may begin, with the parts that follow.
inductive Form where
  | relative (path : Path)
  | device (dev rest : Path)
  | boot (rest : Path)
  | current (rest : Path)
  deriving DecidableEq, Repr

def Form.text : Form → Path
  | .relative path => path
  | .device dev rest => dev ++ ':' :: rest
  | .boot rest => '/' :: rest
  | .current rest => ':' :: rest

def Form.Legal : Form → Prop
  | .relative path => ':' ∉ path.takeWhile (· ≠ '/') ∧ path.head? ≠ some '/'
  | .device dev _ => dev ≠ [] ∧ ':' ∉ dev ∧ '/' ∉ dev
  | .boot _ | .current _ => True

def Form.start (fs : FileSystems σ) : Form → Action σ (Except Word Vnode)
  | .relative _ => vfsGetcurdir
  | .device dev _ => vfsGetroot fs dev
  | .boot _ => do
    match (← get).bootfs with
    | none => pure (.error ENOENT)
    | some startvn => do
      vnodeIncref startvn
      pure (.ok startvn)
  | .current _ => do
    match ← vfsGetcurdir with
    | .error result => pure (.error result)
    | .ok vn => do
      match (← get).vnFs vn with
      | none => throw (.kassert "vn->vn_fs!=NULL")
      | some f => do
        let result ← perform (fs.getroot f)
        vnodeDecref fs vn
        pure result

def Form.name : Form → Path
  | .relative path => path
  | .device _ rest | .boot rest | .current rest => rest.dropWhile (· = '/')

def resolve (fs : FileSystems σ) (form : Form) : Action σ (Except Word Vnode) := do
  match ← form.start fs with
  | .error result => pure (.error result)
  | .ok startvn =>
    if form.name = [] then pure (.ok startvn)
    else do
      let result ← perform (fs.lookup startvn form.name)
      vnodeDecref fs startvn
      pure result

section Separators

def plain (c : Char) : Bool := c ≠ ':' && c ≠ '/'

def classify (path : Path) : Form :=
  match path.takeWhile plain, path.dropWhile plain with
  | [], ':' :: rest => .current rest
  | [], '/' :: rest => .boot rest
  | c :: dev, ':' :: rest => .device (c :: dev) rest
  | _, _ => .relative path

variable {path dev rest : Path}

lemma path_cases (path : Path) : (∀ a ∈ path, plain a = true) ∨
    ∃ dev c rest, (∀ a ∈ dev, plain a = true) ∧ (c = ':' ∨ c = '/') ∧ path = dev ++ c :: rest := by
  induction path with
  | nil => exact .inl fun a ha => by cases ha
  | cons a path ih =>
    by_cases ha : plain a = true
    · rcases ih with hall | ⟨dev, c, rest, hdev, hc, rfl⟩
      · exact .inl (forall_mem_cons.mpr ⟨ha, hall⟩)
      · exact .inr ⟨a :: dev, c, rest, forall_mem_cons.mpr ⟨ha, hdev⟩, hc, rfl⟩
    refine .inr ⟨[], a, path, (fun b hb => by cases hb), ?_, rfl⟩
    simp only [plain, Bool.and_eq_true, decide_eq_true_eq] at ha
    tauto

lemma separators_plain (h : ∀ a ∈ path, plain a = true) : separators path = (none, none) := by
  have hnone : path.findIdx? (fun c => c = ':' ∨ c = '/') = none := by
    rw [findIdx?_eq_none_iff]
    intro a ha
    simpa [plain] using h a ha
  rw [separators, hnone]

lemma separators_split (hdev : ∀ a ∈ dev, plain a = true) (hc : c = ':' ∨ c = '/') :
    separators (dev ++ c :: rest) =
      if c = ':' then (some dev.length, none) else (none, some dev.length) := by
  have hnone : dev.findIdx? (fun c => c = ':' ∨ c = '/') = none := by
    rw [findIdx?_eq_none_iff]
    intro a ha
    simpa [plain] using hdev a ha
  have hfound : (dev ++ c :: rest).findIdx? (fun c => c = ':' ∨ c = '/') = some dev.length := by
    rw [findIdx?_append, hnone, findIdx?_cons]
    simp [hc]
  rw [separators, hfound]
  simp

lemma legal_device (h : (Form.device dev rest).Legal) :
    ∀ a ∈ dev, plain a = true := by
  intro a ha
  simp only [plain, Bool.and_eq_true, decide_eq_true_eq]
  exact ⟨fun heq => h.2.1 (heq ▸ ha), fun heq => h.2.2 (heq ▸ ha)⟩

lemma legal_relative (h : (Form.relative path).Legal) : (∀ a ∈ path, plain a = true) ∨
    ∃ a dev rest, (∀ b ∈ a :: dev, plain b = true) ∧ path = a :: dev ++ '/' :: rest := by
  rcases path_cases path with hall | ⟨dev, c, rest, hdev, rfl | rfl, rfl⟩
  · exact .inl hall
  · have hslash : ∀ a ∈ dev, decide (a ≠ '/') = true := by
      intro a ha
      have := hdev a ha
      simp only [plain, Bool.and_eq_true] at this
      exact this.2
    refine absurd ?_ h.1
    rw [takeWhile_append_of_pos hslash]
    simp
  cases dev with
  | nil => exact absurd rfl h.2
  | cons a dev => exact .inr ⟨a, dev, rest, hdev, rfl⟩

end Separators

lemma getdevice_form (fs : FileSystems σ) (form : Form) (h : form.Legal) :
    getdevice fs form.text = (do
      let result ← form.start fs
      pure (result.map fun startvn => (form.name, startvn))) := by
  cases form with
  | relative path =>
    have hdevice : getdevice fs path = fromCurdir path := by
      rcases legal_relative h with hall | ⟨a, dev, rest, hdev, rfl⟩
      · rw [getdevice, separators_plain hall]
      · rw [getdevice, separators_split hdev (.inr rfl)]
        rfl
    rw [Form.text, hdevice, fromCurdir, Form.start]
    congr 1
    funext result
    cases result <;> rfl
  | device dev rest =>
    obtain ⟨n, hn⟩ := Nat.exists_eq_succ_of_ne_zero (length_eq_zero_iff.not.mpr h.1)
    have htake : (dev ++ ':' :: rest).take (n + 1) = dev := by
      rw [← Nat.succ_eq_add_one, ← hn, take_left]
    have hsub : subpath (dev ++ ':' :: rest) (n + 1) = rest.dropWhile (· = '/') := by
      rw [subpath, ← Nat.succ_eq_add_one n, ← hn]
      simp
    rw [Form.text, getdevice, separators_split (legal_device h) (.inl rfl), if_pos rfl, hn]
    dsimp only
    rw [htake, hsub, Form.start]
    congr 1
    funext result
    cases result <;> rfl
  | boot rest =>
    have hsep : separators ('/' :: rest) = (none, some 0) :=
      @separators_split [] rest '/' (fun b hb => by cases hb) (.inr rfl)
    rw [Form.text, getdevice, Form.start, bind_assoc]
    simp only [hsep]
    congr 1
    funext s
    cases s.bootfs <;> rfl
  | current rest =>
    have hsep : separators (':' :: rest) = (some 0, none) :=
      @separators_split [] rest ':' (fun b hb => by cases hb) (.inl rfl)
    rw [Form.text, getdevice, hsep, Form.start, bind_assoc]
    dsimp only
    congr 1
    funext result
    cases result with
    | error result => rfl
    | ok vn =>
      dsimp only
      rw [bind_assoc]
      congr 1
      funext s
      cases s.vnFs vn with
      | none => rfl
      | some f =>
        dsimp only
        rw [bind_assoc]
        congr 1
        funext result
        rw [bind_assoc]
        congr 1
        funext _
        cases result <;> rfl

lemma vfsLookup_form (fs : FileSystems σ) (form : Form) (h : form.Legal) :
    vfsLookup fs form.text = resolve fs form := by
  rw [vfsLookup, getdevice_form fs form h, resolve, bind_assoc]
  congr 1
  funext result
  cases result <;> rfl

lemma exists_form (path : Path) : ∃ form : Form, form.Legal ∧ form.text = path := by
  rcases path_cases path with hall | ⟨dev, c, rest, hdev, rfl | rfl, rfl⟩
  · have hmem : ':' ∉ path ∧ '/' ∉ path :=
      ⟨fun h => absurd (hall _ h) (by decide), fun h => absurd (hall _ h) (by decide)⟩
    exact ⟨.relative path, ⟨fun h => hmem.1 ((takeWhile_sublist _).subset h),
      fun h => hmem.2 (mem_of_mem_head? h)⟩, rfl⟩
  · by_cases hnil : dev = []
    · exact ⟨.current rest, trivial, by rw [hnil]; rfl⟩
    · exact ⟨.device dev rest, ⟨hnil, fun h => absurd (hdev _ h) (by decide),
        fun h => absurd (hdev _ h) (by decide)⟩, rfl⟩
  cases dev with
  | nil => exact ⟨.boot rest, trivial, rfl⟩
  | cons a dev =>
    have hslash : ∀ b ∈ a :: dev, decide (b ≠ '/') = true := by
      intro b hb
      have := hdev b hb
      simp only [plain, Bool.and_eq_true] at this
      exact this.2
    refine ⟨.relative (a :: dev ++ '/' :: rest), ⟨fun h => ?_, fun h => ?_⟩, rfl⟩
    · rw [takeWhile_append_of_pos hslash] at h
      have hmem : ':' ∈ a :: dev := by simpa using h
      exact absurd (hdev _ hmem) (by decide)
    · obtain rfl : a = '/' := Option.some.inj h
      exact absurd (hdev _ mem_cons_self) (by decide)

lemma classify_split (rest : Path) (hdev : ∀ a ∈ dev, plain a = true)
    (hc : plain c = false) : (dev ++ c :: rest).takeWhile plain = dev ∧
      (dev ++ c :: rest).dropWhile plain = c :: rest := by
  rw [takeWhile_append_of_pos hdev, dropWhile_append_of_pos hdev]
  simp [hc]

lemma classify_text (form : Form) (h : form.Legal) : classify form.text = form := by
  cases form with
  | relative path =>
    rcases legal_relative h with hall | ⟨a, dev, rest, hdev, rfl⟩
    · rw [Form.text, classify, dropWhile_eq_nil_iff.mpr hall]
      cases path.takeWhile plain <;> rfl
    obtain ⟨htake, hdrop⟩ := classify_split rest hdev (show plain '/' = false by decide)
    rw [Form.text, classify, htake, hdrop]
    rfl
  | device dev rest =>
    obtain ⟨htake, hdrop⟩ := classify_split rest (legal_device h)
      (show plain ':' = false by decide)
    rw [Form.text, classify, htake, hdrop]
    cases dev with
    | nil => exact absurd rfl h.1
    | cons a dev => rfl
  | boot rest | current rest => rfl

-- Every path begins in exactly one of the four ways, and that decides where its name is looked up.
theorem path_prefixes (fs : FileSystems σ) (path : Path) :
    (∃! form : Form, form.Legal ∧ form.text = path) ∧
      ∀ form : Form, form.Legal → form.text = path → vfsLookup fs path = resolve fs form := by
  obtain ⟨form, hlegal, rfl⟩ := exists_form path
  refine ⟨⟨form, ⟨hlegal, rfl⟩, fun other hother => ?_⟩, fun other hother htext => ?_⟩
  · rw [← classify_text other hother.1, hother.2, classify_text form hlegal]
  · rw [← htext, vfsLookup_form fs other hother]

end Os161.Vfs
