import Os161.Lib.Run
import Os161.Vfs.Theorems

-- The table of devices of kern/vfs/vfslist.c and the names that lead into it.

namespace Os161.Vfs

open Lib.Exec Lib.Run EStateM List
open Vm (Word EINVAL ENOMEM Stop kassert kassert_bind_ok)

def EEXIST : Word := 22#32
def EBUSY : Word := 27#32

variable {σ : Type}

def FileSystems.named (fs : FileSystems σ) (volname : FsId → Option Path) : FileSystems σ :=
  { fs with getvolname := fun f _ => volname f }

def KdFs.volname (volname : FsId → Option Path) : KdFs → Option Path
  | .fs f => volname f
  | _ => .none

def samestring : Option Path → Option Path → Bool
  | some a, some b => a = b
  | _, _ => false

def samestring3 (a b c d : Option Path) : Bool := samestring a b || samestring a c || samestring a d

def mkrawname (name : Path) : Path := name ++ ['r', 'a', 'w']

def rawnameFor (mountable : Bool) (name : Path) : Option Path :=
  if mountable then some (mkrawname name) else none

section Operations

variable (volname : FsId → Option Path)

def badnames (n1 n2 n3 : Option Path) (knowndevs : List Knowndev) : Bool :=
  knowndevs.any fun kd => samestring3 (kd.fs.volname volname) n1 n2 n3 ||
    (samestring3 kd.rawname n1 n2 n3 || samestring3 (some kd.name) n1 n2 n3)

-- Which of the allocations of vfs_doadd fail: kstrdup, mkrawname, dev_create_vnode, the
-- structure and knowndevarray_add.
structure AddFails where
  name : Bool
  rawname : Bool
  vnode : Bool
  kd : Bool
  array : Bool
  deriving DecidableEq, Repr

def vfsDoadd (dname : Path) (mountable dev : Bool) (fs : KdFs) (fails : AddFails)
    (vnode : Vnode) : Action σ Word := do
  let s ← get
  if fails.name ∨ (mountable ∧ fails.rawname) ∨ fails.vnode ∨ fails.kd then pure ENOMEM
  else if badnames volname (some dname) (rawnameFor mountable dname) (fs.volname volname)
    s.knowndevs then pure EEXIST
  else if fails.array then pure ENOMEM
  else do
    modify fun s => { s with knowndevs := s.knowndevs ++
      [⟨dname, rawnameFor mountable dname, dev, vnode, fs⟩] }
    pure 0#32

def vfsAdddev (devname : Path) (mountable : Bool) (fails : AddFails) (vnode : Vnode) :
    Action σ Word :=
  vfsDoadd volname devname mountable true .none fails vnode

def vfsAddfs (devname : Path) (fs : FsId) (fails : AddFails) (vnode : Vnode) : Action σ Word :=
  vfsDoadd volname devname false false (.fs fs) fails vnode

end Operations

def findmount (devname : Path) (knowndevs : List Knowndev) : Option Nat :=
  knowndevs.findIdx? fun kd => kd.rawname ≠ none ∧ devname = kd.name

def setFs (i : Nat) (fs : KdFs) : Action σ Unit :=
  modify fun s => { s with knowndevs := s.knowndevs.modify i fun kd => { kd with fs := fs } }

-- The start of vfs_mount, vfs_swapon and vfs_unmount: the device, which `wanted` accepts by what
-- is on it.
def withMount (devname : Path) (wanted : KdFs → Bool) (refused : Word)
    (rest : Nat → Knowndev → Action σ Word) : Action σ Word := do
  let s ← get
  match findmount devname s.knowndevs with
  | none => pure ENODEV
  | some i =>
    match s.knowndevs[i]? with
    | none => throw .dangling
    | some kd =>
      if wanted kd.fs then do
        kassert (kd.rawname ≠ none) "kd->kd_rawname != NULL"
        kassert kd.device "kd->kd_device != NULL"
        rest i kd
      else pure refused

def vfsMount (devname : Path) (mountfunc : Except Word FsId) : Action σ Word :=
  withMount devname (· = .none) EBUSY fun i _ =>
    match mountfunc with
    | .error result => pure result
    | .ok fs => do
        setFs i (.fs fs)
        pure 0#32

def vfsSwapon (devname : Path) (dupFails : Bool) : Action σ Word :=
  if devname.getLast? = some ':' ∧ dupFails then pure ENOMEM
  else
    withMount (if devname.getLast? = some ':' then devname.dropLast else devname) (· = .none) EBUSY
      fun i kd => do
        setFs i .swap
        vnodeIncref kd.vnode
        pure 0#32

def vfsUnmount (devname : Path) (sync unmount : Word) : Action σ Word :=
  withMount devname (fun fs => fs ≠ .none ∧ fs ≠ .swap) EINVAL fun i _ =>
    if sync ≠ 0 then pure sync
    else if unmount ≠ 0 then pure unmount
    else do
      setFs i .none
      pure 0#32

inductive DeviceOp where
  | adddev (devname : Path) (mountable : Bool) (fails : AddFails) (vnode : Vnode)
  | addfs (devname : Path) (fs : FsId) (fails : AddFails) (vnode : Vnode)
  | mount (devname : Path) (mountfunc : Except Word FsId)
  | swapon (devname : Path) (dupFails : Bool)
  | unmount (devname : Path) (sync unmount : Word)

def DeviceOp.action (volname : FsId → Option Path) : DeviceOp → Action σ Word
  | .adddev devname mountable fails vnode => vfsAdddev volname devname mountable fails vnode
  | .addfs devname fs fails vnode => vfsAddfs volname devname fs fails vnode
  | .mount devname mountfunc => vfsMount devname mountfunc
  | .swapon devname dupFails => vfsSwapon devname dupFails
  | .unmount devname sync result => vfsUnmount devname sync result

def DeviceOp.step (volname : FsId → Option Path) (op : DeviceOp) (s t : State σ) : Prop :=
  ∃ result, (op.action volname).run s = .ok result t

def Knowndev.names (volname : FsId → Option Path) (kd : Knowndev) : List Path :=
  kd.name :: (kd.rawname.toList ++ (kd.fs.volname volname).toList)

def Unambiguous (volname : FsId → Option Path) (knowndevs : List Knowndev) : Prop :=
  knowndevs.Pairwise fun a b => ∀ name ∈ a.names volname, name ∉ b.names volname

def DeviceOp.admits (volname : FsId → Option Path) (op : DeviceOp) (s : State σ) : Prop :=
  match op with
  | .mount devname (.ok f) => ∀ i kd, findmount devname s.knowndevs = some i →
      s.knowndevs[i]? = some kd → kd.fs = .none → ∀ name, volname f = some name →
      ∀ (j : Nat) other, s.knowndevs[j]? = some other → j ≠ i → name ∉ other.names volname
  | _ => True

section Names

variable {volname : FsId → Option Path} {kd : Knowndev} {name : Path}

lemma samestring_iff : samestring a b = true ↔ ∃ x, a = some x ∧ b = some x := by
  cases a with
  | none => simp [samestring]
  | some x =>
    cases b with
    | none => simp [samestring]
    | some y => simp [samestring, eq_comm]

lemma samestring3_iff : samestring3 a b c d = true ↔
    ∃ x, a = some x ∧ (b = some x ∨ c = some x ∨ d = some x) := by
  simp only [samestring3, Bool.or_eq_true, samestring_iff]
  constructor
  · rintro ((⟨x, ha, hb⟩ | ⟨x, ha, hc⟩) | ⟨x, ha, hd⟩)
    · exact ⟨x, ha, .inl hb⟩
    · exact ⟨x, ha, .inr (.inl hc)⟩
    · exact ⟨x, ha, .inr (.inr hd)⟩
  rintro ⟨x, ha, hb | hc | hd⟩
  · exact .inl (.inl ⟨x, ha, hb⟩)
  · exact .inl (.inr ⟨x, ha, hc⟩)
  · exact .inr ⟨x, ha, hd⟩

lemma mem_names : name ∈ kd.names volname ↔
    name = kd.name ∨ kd.rawname = some name ∨ kd.fs.volname volname = some name := by
  simp [Knowndev.names]

lemma badnames_eq_false (h : badnames volname n1 n2 n3 knowndevs = false) (hkd : kd ∈ knowndevs)
    (hname : name ∈ kd.names volname) : n1 ≠ some name ∧ n2 ≠ some name ∧ n3 ≠ some name := by
  by_contra hno
  have hsome : n1 = some name ∨ n2 = some name ∨ n3 = some name := by
    by_contra hall
    simp only [not_or] at hall
    exact hno hall
  have hbad : badnames volname n1 n2 n3 knowndevs = true := by
    refine any_eq_true.mpr ⟨kd, hkd, ?_⟩
    rw [Bool.or_eq_true, Bool.or_eq_true]
    rcases mem_names.mp hname with hn | hraw | hvol
    · exact .inr (.inr (samestring3_iff.mpr ⟨name, by rw [hn], hsome⟩))
    · exact .inr (.inl (samestring3_iff.mpr ⟨name, hraw, hsome⟩))
    · exact .inl (samestring3_iff.mpr ⟨name, hvol, hsome⟩)
  rw [hbad] at h
  cases h

end Names

lemma unambiguous_iff :
    Unambiguous volname knowndevs ↔ ∀ (i j : Nat) a b, knowndevs[i]? = some a →
      knowndevs[j]? = some b → i ≠ j → ∀ name ∈ a.names volname, name ∉ b.names volname := by
  rw [Unambiguous, pairwise_iff_getElem]
  constructor
  · intro h i j a b ha hb hne name hna hnb
    obtain ⟨hi, rfl⟩ := List.getElem?_eq_some_iff.mp ha
    obtain ⟨hj, rfl⟩ := List.getElem?_eq_some_iff.mp hb
    rcases Nat.lt_or_gt_of_ne hne with hlt | hgt
    · exact h i j hi hj hlt name hna hnb
    · exact h j i hj hi hgt name hnb hna
  intro h i j hi hj hlt name hna hnb
  exact h i j _ _ (getElem?_eq_getElem hi) (getElem?_eq_getElem hj) (Nat.ne_of_lt hlt)
    name hna hnb

section Steps

variable {volname : FsId → Option Path} {s t : State σ} {knowndevs : List Knowndev} {i : Nat}
  {kd : Knowndev}

lemma Unambiguous.add (h : Unambiguous volname knowndevs)
    (hnew : ∀ other ∈ knowndevs, ∀ name ∈ other.names volname, name ∉ kd.names volname) :
    Unambiguous volname (knowndevs ++ [kd]) := by
  refine pairwise_append.mpr ⟨h, pairwise_singleton _ _, ?_⟩
  intro other hother last hlast
  obtain rfl := mem_singleton.mp hlast
  exact hnew other hother

lemma Unambiguous.change (h : Unambiguous volname knowndevs) (fs : KdFs)
    (hnew : ∀ name, fs.volname volname = some name → ∀ (j : Nat) other,
      knowndevs[j]? = some other → j ≠ i → name ∉ other.names volname) :
    Unambiguous volname (knowndevs.modify i fun kd => { kd with fs := fs }) := by
  rw [unambiguous_iff] at h ⊢
  -- a name of the changed device is an old one or that of the volume
  have hnames : ∀ (a : Knowndev) (j : Nat) b, knowndevs[i]? = some a → knowndevs[j]? = some b →
      j ≠ i → ∀ name ∈ ({ a with fs := fs } : Knowndev).names volname,
      name ∉ b.names volname := by
    intro a j b ha hb hne name hname
    rcases mem_names.mp hname with hn | hraw | hvol
    · exact h i j a b ha hb (Ne.symm hne) name (mem_names.mpr (.inl hn))
    · exact h i j a b ha hb (Ne.symm hne) name (mem_names.mpr (.inr (.inl hraw)))
    · exact hnew name hvol j b hb hne
  intro j k a b ha hb hne name hna hnb
  rw [getElem?_modify] at ha hb
  obtain ⟨a', ha', rfl⟩ := Option.map_eq_some_iff.mp ha
  obtain ⟨b', hb', rfl⟩ := Option.map_eq_some_iff.mp hb
  by_cases hj : i = j
  · subst hj
    rw [if_pos rfl] at hna
    rw [if_neg hne] at hnb
    exact hnames a' k b' ha' hb' (Ne.symm hne) name hna hnb
  by_cases hk : i = k
  · subst hk
    rw [if_pos rfl] at hnb
    rw [if_neg hj] at hna
    exact hnames b' j a' hb' ha' (Ne.symm hj) name hnb hna
  rw [if_neg hj] at hna
  rw [if_neg hk] at hnb
  exact h j k a' b' ha' hb' hne name hna hnb

lemma withMount_ok (h : (withMount devname wanted refused rest).run s = .ok result t) :
    (t = s ∧ ∀ i kd, findmount devname s.knowndevs = some i → s.knowndevs[i]? = some kd →
      wanted kd.fs = false) ∨
    ∃ i kd, findmount devname s.knowndevs = some i ∧ s.knowndevs[i]? = some kd ∧
      wanted kd.fs = true ∧ (rest i kd).run s = .ok result t := by
  rw [withMount, bind_run_ok (run_get s)] at h
  cases hfind : findmount devname s.knowndevs with
  | none =>
    rw [hfind] at h
    exact .inl ⟨(pure_ok.mp h).2, fun i kd hi => by cases hi⟩
  | some i =>
    rw [hfind] at h
    cases hkd : s.knowndevs[i]? with
    | none =>
      simp only [hkd] at h
      cases h
    | some kd =>
      simp only [hkd] at h
      by_cases hwanted : wanted kd.fs = true
      · rw [if_pos hwanted] at h
        exact .inr ⟨i, kd, rfl, hkd, hwanted, (kassert_bind_ok.mp (kassert_bind_ok.mp h).2).2⟩
      rw [if_neg hwanted] at h
      refine .inl ⟨(pure_ok.mp h).2, fun j other hj hother => ?_⟩
      obtain rfl := Option.some.inj hj
      obtain rfl := Option.some.inj (hkd.symm.trans hother)
      exact Bool.eq_false_iff.mpr hwanted

lemma setFs_run (i : Nat) (fs : KdFs) (s : State σ) : (setFs i fs).run s = .ok () { s with
    knowndevs := s.knowndevs.modify i fun kd => { kd with fs := fs } } := rfl

lemma vfsDoadd_ok (h : (vfsDoadd volname dname mountable dev fs fails vnode).run s = .ok result t) :
    t = s ∨ ∃ kd : Knowndev, t = { s with knowndevs := s.knowndevs ++ [kd] } ∧
      ∀ other ∈ s.knowndevs, ∀ name ∈ other.names volname, name ∉ kd.names volname := by
  rw [vfsDoadd, bind_run_ok (run_get s)] at h
  split at h
  · exact .inl (pure_ok.mp h).2
  split at h
  · exact .inl (pure_ok.mp h).2
  next hgood =>
    split at h
    · exact .inl (pure_ok.mp h).2
    refine .inr ⟨⟨dname, rawnameFor mountable dname, dev, vnode, fs⟩, ?_, ?_⟩
    · rw [bind_run_ok (run_modify _ s)] at h
      exact (pure_ok.mp h).2
    intro other hother name hname hmem
    have hbad := badnames_eq_false (Bool.eq_false_iff.mpr hgood) hother hname
    rcases mem_names.mp hmem with hn | hraw | hvol
    · exact hbad.1 (congrArg some hn.symm)
    · exact hbad.2.1 hraw
    · exact hbad.2.2 hvol

lemma step_cases {op : DeviceOp} (h : op.step volname s t) : t.knowndevs = s.knowndevs ∨
    (∃ kd : Knowndev, t.knowndevs = s.knowndevs ++ [kd] ∧
      ∀ other ∈ s.knowndevs, ∀ name ∈ other.names volname, name ∉ kd.names volname) ∨
    (∃ i fs, fs.volname volname = none ∧
      t.knowndevs = s.knowndevs.modify i fun kd => { kd with fs := fs }) ∨
    (∃ devname f i kd, op = .mount devname (.ok f) ∧ findmount devname s.knowndevs = some i ∧
      s.knowndevs[i]? = some kd ∧ kd.fs = .none ∧
      t.knowndevs = s.knowndevs.modify i fun kd => { kd with fs := .fs f }) := by
  obtain ⟨result, hrun⟩ := h
  have hadd : ∀ {dname : Path} {mountable dev : Bool} {fs : KdFs} {fails : AddFails}
      {vnode : Vnode}, (vfsDoadd volname dname mountable dev fs fails vnode).run s = .ok result t →
      t.knowndevs = s.knowndevs ∨ ∃ kd : Knowndev, t.knowndevs = s.knowndevs ++ [kd] ∧
        ∀ other ∈ s.knowndevs, ∀ name ∈ other.names volname, name ∉ kd.names volname := by
    intro dname mountable dev fs fails vnode hdo
    rcases vfsDoadd_ok hdo with rfl | ⟨kd, rfl, hnew⟩
    · exact .inl rfl
    · exact .inr ⟨kd, rfl, hnew⟩
  cases op with
  | adddev devname mountable fails vnode | addfs devname fs fails vnode =>
    rcases hadd hrun with hsame | hnew
    · exact .inl hsame
    · exact .inr (.inl hnew)
  | mount devname mountfunc =>
    have hrun : (vfsMount devname mountfunc).run s = .ok result t := hrun
    rw [vfsMount] at hrun
    rcases withMount_ok hrun with ⟨rfl, -⟩ | ⟨i, kd, hfind, hkd, hfree, hrest⟩
    · exact .inl rfl
    cases mountfunc with
    | error e => exact .inl (by rw [(pure_ok.mp hrest).2])
    | ok f =>
      rw [bind_run_ok (setFs_run i (.fs f) s)] at hrest
      obtain ⟨-, rfl⟩ := pure_ok.mp hrest
      exact .inr (.inr (.inr ⟨devname, f, i, kd, rfl, hfind, hkd, of_decide_eq_true hfree, rfl⟩))
  | swapon devname dupFails =>
    have hrun : (vfsSwapon devname dupFails).run s = .ok result t := hrun
    rw [vfsSwapon] at hrun
    split at hrun
    · exact .inl (by rw [(pure_ok.mp hrun).2])
    rcases withMount_ok hrun with ⟨rfl, -⟩ | ⟨i, kd, -, -, -, hrest⟩
    · exact .inl rfl
    rw [bind_run_ok (setFs_run i .swap s), vnodeIncref, bind_run_ok (run_modify _ _)] at hrest
    obtain ⟨-, rfl⟩ := pure_ok.mp hrest
    exact .inr (.inr (.inl ⟨i, .swap, rfl, rfl⟩))
  | unmount devname sync res =>
    have hrun : (vfsUnmount devname sync res).run s = .ok result t := hrun
    rw [vfsUnmount] at hrun
    rcases withMount_ok hrun with ⟨rfl, -⟩ | ⟨i, kd, -, -, -, hrest⟩
    · exact .inl rfl
    split at hrest
    · exact .inl (by rw [(pure_ok.mp hrest).2])
    split at hrest
    · exact .inl (by rw [(pure_ok.mp hrest).2])
    rw [bind_run_ok (setFs_run i .none s)] at hrest
    obtain ⟨-, rfl⟩ := pure_ok.mp hrest
    exact .inr (.inr (.inl ⟨i, .none, rfl, rfl⟩))

lemma step_unambiguous {op : DeviceOp} (hs : Unambiguous volname s.knowndevs)
    (hadmits : op.admits volname s) (h : op.step volname s t) :
    Unambiguous volname t.knowndevs := by
  rcases step_cases h with hsame | ⟨kd, ht, hnew⟩ | ⟨i, fs, hnone, ht⟩ |
    ⟨devname, f, i, kd, rfl, hfind, hkd, hfree, ht⟩
  · rw [hsame]
    exact hs
  · rw [ht]
    exact hs.add hnew
  · rw [ht]
    exact hs.change fs fun name hname => by simp [hnone] at hname
  · rw [ht]
    exact hs.change (.fs f) (hadmits i kd hfind hkd hfree)

lemma step_ambiguous {op : DeviceOp} (hadmits : ¬ op.admits volname s)
    (h : op.step volname s t) : ¬ Unambiguous volname t.knowndevs := by
  cases op with
  | mount devname mountfunc =>
    cases mountfunc with
    | error e => exact absurd trivial hadmits
    | ok f =>
      simp only [DeviceOp.admits, not_forall, not_not] at hadmits
      obtain ⟨i, kd, hfind, hkd, hfree, name, hname, j, other, hother, hne, hmem⟩ := hadmits
      obtain ⟨result, hrun⟩ := h
      have hrun : (vfsMount devname (.ok f)).run s = .ok result t := hrun
      rw [vfsMount] at hrun
      rcases withMount_ok hrun with ⟨-, hrefused⟩ | ⟨i', kd', hfind', hkd', -, hrest⟩
      · have hno := hrefused i kd hfind hkd
        simp [hfree] at hno
      obtain rfl : i = i' := Option.some.inj (hfind.symm.trans hfind')
      rw [bind_run_ok (setFs_run i (.fs f) s)] at hrest
      obtain ⟨-, rfl⟩ := pure_ok.mp hrest
      intro hu
      rw [unambiguous_iff] at hu
      refine hu i j { kd with fs := .fs f } other ?_ ?_ (Ne.symm hne) name
        (mem_names.mpr (.inr (.inr hname))) hmem
      · simp [hkd]
      · simp [Ne.symm hne, hother]
  | _ => exact absurd trivial hadmits

end Steps

section Order

variable (fs : FileSystems σ) {volname : FsId → Option Path} {devname : Path}
  {knowndevs knowndevs' : List Knowndev}

lemma namedDevice_next (h : kd.name = devname ∨ kd.rawname = some devname)
    (x y : Action σ (Except Word Vnode)) : namedDevice kd devname x = namedDevice kd devname y := by
  rw [namedDevice, namedDevice]
  by_cases hname : kd.name = devname
  · rw [if_pos hname, if_pos hname]
  · have hraw := h.resolve_left hname
    rw [if_neg hname, if_neg hname, if_pos hraw, if_pos hraw]

lemma vfsGetrootFrom_hit (h : devname ∈ kd.names volname) :
    vfsGetrootFrom (fs.named volname) devname (kd :: knowndevs) =
      vfsGetrootFrom (fs.named volname) devname (kd :: knowndevs') := by
  rw [vfsGetrootFrom, vfsGetrootFrom]
  congr 1
  funext s
  have hnames := mem_names.mp h
  cases hfs : kd.fs with
  | fs f =>
    have hvol : (fs.named volname).getvolname f s = volname f := rfl
    simp only [hvol]
    by_cases hanswers : kd.name = devname ∨ volname f = some devname
    · rw [if_pos hanswers, if_pos hanswers]
    rw [if_neg hanswers, if_neg hanswers]
    rw [hfs] at hnames
    exact namedDevice_next (.inr ((hnames.resolve_left
      fun hname => hanswers (.inl hname.symm)).resolve_right
      fun hv => hanswers (.inr hv))) _ _
  | none | swap =>
    rw [hfs] at hnames
    rw [namedDevice_next ((hnames.imp_left Eq.symm).imp_right fun hr => hr.resolve_right nofun)]

lemma vfsGetrootFrom_miss (h : devname ∉ kd.names volname) (s : State σ) :
    (vfsGetrootFrom (fs.named volname) devname (kd :: knowndevs)).run s =
      (vfsGetrootFrom (fs.named volname) devname knowndevs).run s := by
  have hname : ¬ kd.name = devname := fun hn => h (mem_names.mpr (.inl hn.symm))
  have hraw : ¬ kd.rawname = some devname := fun hr => h (mem_names.mpr (.inr (.inl hr)))
  rw [vfsGetrootFrom, bind_run_ok (run_get s)]
  have hnamed : ∀ next : Action σ (Except Word Vnode), namedDevice kd devname next = next := by
    intro next
    rw [namedDevice, if_neg hname, if_neg hraw]
  cases hfs : kd.fs with
  | fs f =>
    have hvol : ¬ volname f = some devname := fun hv =>
      h (mem_names.mpr (.inr (.inr (by rw [hfs]; exact hv))))
    have hvol' : ¬ (fs.named volname).getvolname f s = some devname := hvol
    simp only [hname, hvol', or_self, if_false, hnamed]
  | none | swap => simp only [hname, and_false, if_false, hnamed]

lemma vfsGetrootFrom_perm (hperm : knowndevs.Perm knowndevs')
    (h : Unambiguous volname knowndevs) (s : State σ) :
    (vfsGetrootFrom (fs.named volname) devname knowndevs).run s =
      (vfsGetrootFrom (fs.named volname) devname knowndevs').run s := by
  induction hperm with
  | nil => rfl
  | cons kd hperm ih =>
    by_cases hmem : devname ∈ kd.names volname
    · rw [vfsGetrootFrom_hit fs hmem]
    · rw [vfsGetrootFrom_miss fs hmem, vfsGetrootFrom_miss fs hmem]
      exact ih (pairwise_cons.mp h).2
  | swap a b rest =>
    by_cases ha : devname ∈ a.names volname
    · have hb : devname ∉ b.names volname := fun hb =>
        (pairwise_cons.mp h).1 a mem_cons_self devname hb ha
      rw [vfsGetrootFrom_miss fs hb, vfsGetrootFrom_hit fs ha]
    by_cases hb : devname ∈ b.names volname
    · rw [vfsGetrootFrom_miss fs ha, vfsGetrootFrom_hit fs hb]
    · rw [vfsGetrootFrom_miss fs hb, vfsGetrootFrom_miss fs ha, vfsGetrootFrom_miss fs ha,
        vfsGetrootFrom_miss fs hb]
  | trans hab hbc ih₁ ih₂ =>
    have hsymm : ∀ {a b : Knowndev}, (∀ name ∈ a.names volname, name ∉ b.names volname) →
        ∀ name ∈ b.names volname, name ∉ a.names volname :=
      fun hab name hb ha => hab name ha hb
    rw [ih₁ h, ih₂ (hab.pairwise h hsymm)]

end Order

def OrderFree (fs : FileSystems σ) (volname : FsId → Option Path) (s : State σ) : Prop :=
  ∀ devname knowndevs, s.knowndevs.Perm knowndevs →
    (vfsGetroot (fs.named volname) devname).run s =
      (vfsGetrootFrom (fs.named volname) devname knowndevs).run s

def State.noDevices (s : State σ) : State σ := { s with knowndevs := [] }

-- The names stay unambiguous exactly as long as no volume is mounted under a name that leads to
-- another device, which vfs_mount does not check.
theorem devices_unambiguous_iff (fs : FileSystems σ) (volname : FsId → Option Path)
    (ops : List DeviceOp) (s : State σ) : Always (DeviceOp.step volname)
        (fun t => Unambiguous volname t.knowndevs ∧ OrderFree fs volname t) ops s.noDevices ↔
      Guarded (DeviceOp.step volname) (DeviceOp.admits volname) ops s.noDevices := by
  have hgood : ∀ t : State σ, Unambiguous volname t.knowndevs →
      Unambiguous volname t.knowndevs ∧ OrderFree fs volname t :=
    fun t ht => ⟨ht, fun devname knowndevs hperm => vfsGetrootFrom_perm fs hperm ht t⟩
  have hkeep : ∀ (op : DeviceOp) (u t : State σ), Unambiguous volname u.knowndevs →
      op.admits volname u → op.step volname u t → Unambiguous volname t.knowndevs :=
    fun op u t hu hadmits hstep => step_unambiguous hu hadmits hstep
  have hbreak : ∀ (op : DeviceOp) (u t : State σ), Unambiguous volname u.knowndevs →
      ¬ op.admits volname u → op.step volname u t →
      ¬ (Unambiguous volname t.knowndevs ∧ OrderFree fs volname t) :=
    fun op u t _ hadmits hstep hboth => step_ambiguous hadmits hstep hboth.1
  exact always_iff_guarded hgood hkeep hbreak ops List.Pairwise.nil

def noFails : AddFails := ⟨false, false, false, false, false⟩

def volumeNamedLikeDevice : List DeviceOp :=
  [.adddev ['l', 'h', 'd', '0'] true noFails 10, .adddev ['l', 'h', 'd', '1'] true noFails 11,
    .mount ['l', 'h', 'd', '0'] (.ok 7)]

theorem mount_ambiguous : ¬ Always (DeviceOp.step fun _ => some ['l', 'h', 'd', '1'])
    (fun t : State Unit => Unambiguous (fun _ => some ['l', 'h', 'd', '1']) t.knowndevs ∧
      OrderFree flatFs (fun _ => some ['l', 'h', 'd', '1']) t)
    volumeNamedLikeDevice flatState.noDevices := by
  intro h
  obtain ⟨-, h⟩ := h
  obtain ⟨-, h⟩ := h _ ⟨_, rfl⟩
  obtain ⟨-, h⟩ := h _ ⟨_, rfl⟩
  have hlast := (h _ ⟨_, rfl⟩).1
  have hpair := (pairwise_cons.mp hlast).1 _ mem_cons_self ['l', 'h', 'd', '1']
  exact hpair (by decide) (by decide)

end Os161.Vfs
