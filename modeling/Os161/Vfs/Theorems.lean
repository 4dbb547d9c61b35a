import Os161.Vfs

-- References are balanced: what a function holds at each point, over the counts it started
-- with, is a list of vnodes.

namespace Os161.Vfs

open Function Lib.Exec List
open Vm (Word EINVAL Stop kassert)

variable {σ α β : Type} {fs : FileSystems σ} {base : Vnode → Nat} {held pre : List Vnode}
  {vn : Vnode} {s t : State σ}

def Own (base : Vnode → Nat) (held : List Vnode) (s : State σ) : Prop :=
  ∀ v, s.refs v = base v + held.count v

lemma Own.perm (h : Own base pre s) (hperm : pre.Perm pre') : Own base pre' s :=
  fun v => by rw [h v, hperm.count_eq]

lemma own_append : Own base (pre ++ held) s ↔ Own (fun v => base v + held.count v) pre s := by
  refine forall_congr' fun v => ?_
  rw [count_append, Nat.add_assoc, Nat.add_comm (pre.count v)]

def deviceAsserts : List Stop :=
  [.kassert "vn->vn_fs!=NULL", .kassert "kd->kd_fs==NULL", .kassert "kd->kd_rawname==NULL",
    .kassert "kd->kd_device != NULL"]

def Balanced (pre : List Vnode) (x : Action σ (Except Word α)) (got : α → List Vnode) : Prop :=
  ∀ base s, Own base pre s → match x.run s with
    | .ok (.ok a) t => Own base (got a) t
    | .ok (.error _) t => Own base [] t
    | .error stop _ => stop ∈ deviceAsserts

section Rules

variable {got : α → List Vnode} {post : β → List Vnode}

lemma balanced_ok (got : α → List Vnode) (a : α) :
    Balanced (got a) (pure (.ok a) : Action σ (Except Word α)) got :=
  fun _ _ h => h

lemma balanced_error (e : Word) : Balanced [] (pure (.error e) : Action σ (Except Word α)) got :=
  fun _ _ h => h

lemma Balanced.perm (h : Balanced pre x got) (hperm : pre'.Perm pre) : Balanced pre' x got :=
  fun base s hs => h base s (hs.perm hperm)

lemma Balanced.bind (hx : Balanced [] x got)
    (hok : ∀ a, Balanced (got a ++ held) (f (.ok a)) post)
    (herror : ∀ e, Balanced held (f (.error e)) post) : Balanced held (x >>= f) post := by
  intro base s hs
  have hcall := hx _ s (own_append.mp hs)
  rw [EStateM.run_bind]
  cases hrun : x.run s with
  | error stop t =>
    rw [hrun] at hcall
    exact hcall
  | ok result t =>
    rw [hrun] at hcall
    cases result with
    | ok a => exact hok a base t (own_append.mpr hcall)
    | error e => exact herror e base t (own_append.mpr hcall)

lemma balanced_get (h : ∀ s, Balanced pre (f s) post) : Balanced pre (get >>= f) post :=
  fun base s hs => h s base s hs

lemma balanced_perform (h : Gives got call) : Balanced [] (perform call) got := by
  intro base s hs
  have hcall := h s
  have hrun : (perform call).run s = .ok (call s).1 (call s).2 := rfl
  rw [hrun]
  generalize call s = done at hcall
  obtain ⟨result, t⟩ := done
  cases result with
  | ok a =>
    intro v
    rw [hcall v, hs v, count_nil, Nat.add_zero]
  | error e =>
    intro v
    rw [show t.refs = s.refs from hcall]
    exact hs v

lemma Balanced.incref (h : Balanced (vn :: pre) k post) :
    Balanced pre (vnodeIncref vn >>= fun _ => k) post := by
  intro base s hs
  refine h base { s with refs := update s.refs vn (s.refs vn + 1) } fun v => ?_
  by_cases hv : v = vn
  · subst hv
    simp only [update_self, count_cons_self, hs v]
    omega
  · simp only [update_of_ne hv, count_cons_of_ne (Ne.symm hv), hs v]

lemma vnodeDecref_run (h : Own base (vn :: held) s) :
    ∃ t, (vnodeDecref fs vn).run s = .ok () t ∧ Own base held t := by
  have hvn := h vn
  rw [count_cons_self] at hvn
  have hother : ∀ v ≠ vn, s.refs v = base v + held.count v := fun v hv => by
    rw [h v, count_cons_of_ne (Ne.symm hv)]
  by_cases hlast : 1 < s.refs vn
  · refine ⟨{ s with refs := update s.refs vn (s.refs vn - 1) }, ?_, fun v => ?_⟩
    · simp [vnodeDecref, hlast, Nat.zero_lt_of_lt hlast]
    by_cases hv : v = vn
    · subst hv
      simp only [update_self]
      omega
    · simp only [update_of_ne hv, hother v hv]
  have hone : s.refs vn = 1 := by omega
  refine ⟨fs.reclaim vn s, ?_, fun v => ?_⟩
  · simp [vnodeDecref, hone]
  rw [fs.reclaim_refs]
  by_cases hv : v = vn
  · subst hv
    rw [update_self]
    omega
  · rw [update_of_ne hv, hother v hv]

lemma Balanced.decref (h : Balanced held k post) :
    Balanced (vn :: held) (vnodeDecref fs vn >>= fun _ => k) post := by
  intro base s hs
  obtain ⟨t, hrun, ht⟩ := vnodeDecref_run hs
  rw [bind_run_ok hrun]
  exact h base t ht

lemma Balanced.assert (h : Balanced pre k post) (hexpr : .kassert expr ∈ deviceAsserts) :
    Balanced pre (kassert c expr >>= fun _ => k) post := by
  intro base s hs
  cases c with
  | true => exact h base s hs
  | false => exact hexpr

lemma Balanced.release (hx : Balanced [] x got) : Balanced [vn] (do
      let result ← x
      vnodeDecref fs vn
      pure result) got := by
  refine hx.bind (fun a => ?_) fun e => ?_
  · refine (Balanced.decref (balanced_ok got a)).perm ?_
    exact perm_append_singleton vn (got a)
  · exact Balanced.decref (balanced_error e)

end Rules

section Walks

variable {path : Path}

lemma vfsGetcurdir_balanced :
    Balanced [] (vfsGetcurdir : Action σ (Except Word Vnode)) (fun v => [v]) := by
  refine balanced_get fun s => ?_
  cases s.cwd with
  | none => exact balanced_error ENOENT
  | some vn => exact Balanced.incref (balanced_ok (fun v => [v]) vn)

lemma deviceVnode_balanced (kd : Knowndev) :
    Balanced [] (deviceVnode kd : Action σ (Except Word Vnode)) (fun v => [v]) :=
  .assert (.incref (balanced_ok (fun v => [v]) kd.vnode)) (by decide)

lemma namedDevice_balanced (kd : Knowndev) (devname : Path)
    (hnext : Balanced [] rest fun v => [v]) :
    Balanced [] (namedDevice kd devname rest) (fun v => [v]) := by
  rw [namedDevice]
  by_cases hname : kd.name = devname
  · rw [if_pos hname]
    exact .assert (.assert (deviceVnode_balanced kd) (by decide)) (by decide)
  rw [if_neg hname]
  by_cases hraw : kd.rawname = some devname
  · rw [if_pos hraw]
    exact deviceVnode_balanced kd
  · rw [if_neg hraw]
    exact hnext

lemma vfsGetrootFrom_balanced (devname : Path) (kds : List Knowndev) :
    Balanced [] (vfsGetrootFrom fs devname kds) (fun v => [v]) := by
  induction kds with
  | nil => exact balanced_error ENODEV
  | cons kd kds ih =>
    refine balanced_get fun s => ?_
    have hnamed := namedDevice_balanced kd devname ih
    have hother : Balanced [] (if kd.rawname ≠ none ∧ kd.name = devname then
        pure (.error ENXIO)
      else namedDevice kd devname (vfsGetrootFrom fs devname kds)) (fun v => [v]) := by
      by_cases hmountable : kd.rawname ≠ none ∧ kd.name = devname
      · rw [if_pos hmountable]
        exact balanced_error ENXIO
      · rw [if_neg hmountable]
        exact hnamed
    cases kd.fs with
    | none | swap => exact hother
    | fs f =>
      by_cases hnames : kd.name = devname ∨ fs.getvolname f s = some devname
      · simp only [if_pos hnames]
        exact balanced_perform (fs.getroot_gives f)
      · simp only [if_neg hnames]
        exact hnamed

lemma vfsGetroot_balanced (devname : Path) : Balanced [] (vfsGetroot fs devname) (fun v => [v]) :=
  balanced_get fun s => vfsGetrootFrom_balanced devname s.knowndevs

section

variable (path : Path)

lemma fromCurdir_balanced :
    Balanced [] (fromCurdir path : Action σ (Except Word (Path × Vnode))) (fun r => [r.2]) :=
  vfsGetcurdir_balanced.bind
    (fun vn => balanced_ok (fun r : Path × Vnode => [r.2]) (path, vn)) balanced_error

lemma getdevice_balanced : Balanced [] (getdevice fs path) (fun r => [r.2]) := by
  rw [getdevice]
  generalize separators path = found
  obtain ⟨colon, slash⟩ := found
  cases colon with
  | none =>
    cases slash with
    | none => exact fromCurdir_balanced path
    | some i =>
      cases i with
      | zero =>
        refine balanced_get fun s => ?_
        cases s.bootfs with
        | none => exact balanced_error ENOENT
        | some vn =>
          exact .incref (balanced_ok (fun r : Path × Vnode => [r.2]) (subpath path 0, vn))
      | succ i => exact fromCurdir_balanced path
  | some i =>
    cases i with
    | zero =>
      refine vfsGetcurdir_balanced.bind (fun vn => balanced_get fun s => ?_) balanced_error
      cases s.vnFs vn with
      | none => exact fun _ _ _ => mem_cons_self
      | some f =>
        refine (balanced_perform (fs.getroot_gives f)).bind (fun root => ?_) fun e => ?_
        · -- the reference to the root stays, the one to the current directory goes
          refine Balanced.perm ?_ (List.Perm.swap vn root [])
          exact .decref (balanced_ok (fun r : Path × Vnode => [r.2]) (subpath path 0, root))
        · exact .decref (balanced_error e)
    | succ i =>
      refine (vfsGetroot_balanced (path.take (i + 1))).bind (fun root => ?_) balanced_error
      exact balanced_ok (fun r : Path × Vnode => [r.2]) (subpath path (i + 1), root)

lemma vfsLookparent_balanced (buflen : Nat) :
    Balanced [] (vfsLookparent fs path buflen) (fun r => [r.1]) := by
  refine (getdevice_balanced path).bind (fun r => ?_) balanced_error
  obtain ⟨sub, startvn⟩ := r
  refine Balanced.release ?_
  by_cases hempty : sub = []
  · rw [if_pos hempty]
    exact balanced_error EINVAL
  · rw [if_neg hempty]
    exact balanced_perform (fs.lookparent_gives startvn sub buflen)

lemma vfsLookup_balanced : Balanced [] (vfsLookup fs path) (fun v => [v]) := by
  refine (getdevice_balanced path).bind (fun r => ?_) balanced_error
  obtain ⟨sub, startvn⟩ := r
  by_cases hempty : sub = []
  · simp only [if_pos hempty]
    exact balanced_ok (fun v => [v]) startvn
  · simp only [if_neg hempty]
    exact (balanced_perform (fs.lookup_gives startvn sub)).release

lemma openVnode_balanced (openflags mode : Word) :
    Balanced [] (openVnode fs path openflags mode) (fun v => [v]) := by
  rw [openVnode]
  by_cases hcreat : openflags &&& O_CREAT ≠ 0
  · rw [if_pos hcreat]
    refine (vfsLookparent_balanced path _).bind (fun r => ?_) balanced_error
    exact (balanced_perform (fs.creat_gives r.1 r.2 _ mode)).release
  · rw [if_neg hcreat]
    exact vfsLookup_balanced path

end

lemma balanced_drop (vn : Vnode) (e : Word) : Balanced [vn] (do
    vnodeDecref fs vn
    pure (.error e) : Action σ (Except Word α)) got := .decref (balanced_error e)

lemma vfsOpen_balanced (path : Path) (openflags mode : Word) :
    Balanced [] (vfsOpen fs path openflags mode) (fun v => [v]) := by
  simp only [vfsOpen]
  by_cases hhow : openflags &&& O_ACCMODE ≠ O_RDONLY ∧ openflags &&& O_ACCMODE ≠ O_WRONLY ∧
      openflags &&& O_ACCMODE ≠ O_RDWR
  · rw [if_pos hhow]
    exact balanced_error EINVAL
  rw [if_neg hhow]
  refine (openVnode_balanced path openflags mode).bind (fun vn => ?_) balanced_error
  refine (balanced_perform (fs.eachopen_gives vn openflags)).bind (fun _ => ?_) (balanced_drop vn)
  by_cases htrunc : openflags &&& O_TRUNC ≠ 0
  · simp only [if_pos htrunc]
    have htruncate : Balanced [] (if openflags &&& O_ACCMODE = O_RDONLY then
        pure (.error EINVAL) else perform (fs.truncate vn 0)) (fun _ => []) := by
      by_cases hread : openflags &&& O_ACCMODE = O_RDONLY
      · rw [if_pos hread]
        exact balanced_error EINVAL
      · rw [if_neg hread]
        exact balanced_perform (fs.truncate_gives vn 0)
    exact htruncate.bind (fun _ => balanced_ok (fun v => [v]) vn) (balanced_drop vn)
  · simp only [if_neg htrunc]
    exact balanced_ok (fun v => [v]) vn

lemma own_nil : Own base [] s ↔ s.refs = base := by
  simp only [Own, count_nil, Nat.add_zero, funext_iff]

def hand (vn : Vnode) (a : α) : Call Unit α := fun s =>
  (.ok a, { s with refs := update s.refs vn (s.refs vn + 1) })

lemma hand_gives (h : got a = [vn]) : Gives got (hand vn a) := by
  intro s v
  rw [h]
  by_cases hv : v = vn
  · subst hv
    simp
  · simp [hv, Ne.symm hv]

def keep : Call Unit Unit := fun s => (.ok (), s)

lemma keep_gives : Gives (fun _ => []) keep := fun _ _ => rfl

def flatFs : FileSystems Unit where
  getvolname := fun _ _ => none
  getroot := fun _ => hand 1 1
  lookup := fun _ _ => hand 2 2
  lookparent := fun _ path _ => hand 1 (1, path)
  creat := fun _ _ _ _ => hand 2 2
  eachopen := fun _ _ => keep
  truncate := fun _ _ => keep
  remove := fun _ _ => keep
  rename := fun _ _ _ _ => keep
  link := fun _ _ _ => keep
  reclaim := fun vn s => { s with refs := update s.refs vn 0 }
  getroot_gives := fun _ => hand_gives rfl
  lookup_gives := fun _ _ => hand_gives rfl
  lookparent_gives := fun _ _ _ => hand_gives rfl
  creat_gives := fun _ _ _ _ => hand_gives rfl
  eachopen_gives := fun _ _ => keep_gives
  truncate_gives := fun _ _ => keep_gives
  remove_gives := fun _ _ => keep_gives
  rename_gives := fun _ _ _ _ => keep_gives
  link_gives := fun _ _ _ => keep_gives
  reclaim_refs := fun _ _ => rfl

def flatState : State Unit where
  refs := fun _ => 0
  vnFs := fun _ => some 0
  cwd := none
  bootfs := none
  knowndevs := [⟨['l', 'h', 'd', '0'], none, true, 9, .fs 0⟩]
  fsdata := ()

def counts : EStateM.Result Stop (State Unit) (Except Word Vnode) → Option (Vnode × Nat × Nat)
  | .ok (.ok vn) t => some (vn, t.refs 1, t.refs 2)
  | _ => none

example : counts ((vfsLookup flatFs ['l', 'h', 'd', '0', ':', '/', 'f']).run flatState) =
    some (2, 0, 1) := by
  decide

end Walks

end Os161.Vfs
