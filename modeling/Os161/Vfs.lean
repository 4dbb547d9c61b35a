import Os161.Vm.Defs

-- The path layer of the VFS, kern/vfs. The file systems below and their data are a parameter. The
-- big lock is held throughout, so calls come one after another.

namespace Os161.Vfs

open Vm (Word EINVAL Stop kassert)

def ENOENT : Word := 19#32
def ENODEV : Word := 25#32
def ENXIO : Word := 26#32

def O_RDONLY : Word := 0#32
def O_WRONLY : Word := 1#32
def O_RDWR : Word := 2#32
def O_ACCMODE : Word := 3#32
def O_CREAT : Word := 4#32
def O_EXCL : Word := 8#32
def O_TRUNC : Word := 16#32

def NAME_MAX : Nat := 255

-- Vnodes and file systems are known by their addresses, and strings by the characters before
-- the NUL.
abbrev Vnode := Nat
abbrev FsId := Nat
abbrev Path := List Char

inductive KdFs where
  | none
  | swap
  | fs (fs : FsId)
  deriving DecidableEq, Repr

structure Knowndev where
  name : Path
  rawname : Option Path
  device : Bool
  vnode : Vnode
  fs : KdFs

structure State (σ : Type) where
  refs : Vnode → Nat
  vnFs : Vnode → Option FsId
  -- p_cwd of the current process, and bootfs_vnode
  cwd : Option Vnode
  bootfs : Option Vnode
  knowndevs : List Knowndev
  fsdata : σ

variable {σ α : Type}

abbrev Call (σ α : Type) := State σ → Except Word α × State σ

-- The references after an operation that hands out the vnodes `got a`: one more for each of
-- them when it succeeds, and none when it fails.
def Gives (got : α → List Vnode) (call : Call σ α) : Prop :=
  ∀ s, match call s with
    | (.ok a, t) => ∀ v, t.refs v = s.refs v + (got a).count v
    | (.error _, t) => t.refs = s.refs

structure FileSystems (σ : Type) where
  getvolname : FsId → State σ → Option Path
  getroot : FsId → Call σ Vnode
  lookup : Vnode → Path → Call σ Vnode
  lookparent : Vnode → Path → Nat → Call σ (Vnode × Path)
  creat : Vnode → Path → Bool → Word → Call σ Vnode
  eachopen : Vnode → Word → Call σ Unit
  truncate : Vnode → Int → Call σ Unit
  remove : Vnode → Path → Call σ Unit
  rename : Vnode → Path → Vnode → Path → Call σ Unit
  link : Vnode → Path → Vnode → Call σ Unit
  reclaim : Vnode → State σ → State σ
  getroot_gives : ∀ fs, Gives (fun v => [v]) (getroot fs)
  lookup_gives : ∀ v path, Gives (fun v => [v]) (lookup v path)
  lookparent_gives : ∀ v path len, Gives (fun r => [r.1]) (lookparent v path len)
  creat_gives : ∀ v name excl mode, Gives (fun v => [v]) (creat v name excl mode)
  eachopen_gives : ∀ v flags, Gives (fun _ => []) (eachopen v flags)
  truncate_gives : ∀ v len, Gives (fun _ => []) (truncate v len)
  remove_gives : ∀ v name, Gives (fun _ => []) (remove v name)
  rename_gives : ∀ v name w name', Gives (fun _ => []) (rename v name w name')
  link_gives : ∀ v name w, Gives (fun _ => []) (link v name w)
  reclaim_refs : ∀ v s, (reclaim v s).refs = Function.update s.refs v 0

abbrev Action (σ α : Type) := EStateM Stop (State σ) α

def perform (call : Call σ α) : Action σ (Except Word α) := fun s => .ok (call s).1 (call s).2

def vnodeIncref (vn : Vnode) : Action σ Unit :=
  modify fun s => { s with refs := Function.update s.refs vn (s.refs vn + 1) }

def vnodeDecref (fs : FileSystems σ) (vn : Vnode) : Action σ Unit := do
  let s ← get
  kassert (0 < s.refs vn) "vn->vn_refcount > 0"
  if 1 < s.refs vn then set { s with refs := Function.update s.refs vn (s.refs vn - 1) }
  else set (fs.reclaim vn s)

def vfsGetcurdir : Action σ (Except Word Vnode) := do
  let s ← get
  match s.cwd with
  | some vn => do
      vnodeIncref vn
      pure (.ok vn)
  | none => pure (.error ENOENT)

def deviceVnode (kd : Knowndev) : Action σ (Except Word Vnode) := do
  kassert kd.device "kd->kd_device != NULL"
  vnodeIncref kd.vnode
  pure (.ok kd.vnode)

def namedDevice (kd : Knowndev) (devname : Path) (next : Action σ (Except Word Vnode)) :
    Action σ (Except Word Vnode) :=
  if kd.name = devname then do
    kassert (kd.fs = .none) "kd->kd_fs==NULL"
    kassert (kd.rawname = none) "kd->kd_rawname==NULL"
    deviceVnode kd
  else if kd.rawname = some devname then deviceVnode kd
  else next

def vfsGetrootFrom (fs : FileSystems σ) (devname : Path) :
    List Knowndev → Action σ (Except Word Vnode)
  | [] => pure (.error ENODEV)
  | kd :: kds => do
      let s ← get
      match kd.fs with
      | .fs f =>
        if kd.name = devname ∨ fs.getvolname f s = some devname then perform (fs.getroot f)
        else namedDevice kd devname (vfsGetrootFrom fs devname kds)
      | _ =>
        if kd.rawname ≠ none ∧ kd.name = devname then pure (.error ENXIO)
        else namedDevice kd devname (vfsGetrootFrom fs devname kds)

def vfsGetroot (fs : FileSystems σ) (devname : Path) : Action σ (Except Word Vnode) := do
  let s ← get
  vfsGetrootFrom fs devname s.knowndevs

-- The place of the first colon, when no slash comes before it, and that of the first slash,
-- when no colon does.
def separators (path : Path) : Option Nat × Option Nat :=
  match path.findIdx? (fun c => c = ':' ∨ c = '/') with
  | none => (none, none)
  | some i => if path[i]? = some ':' then (some i, none) else (none, some i)

def subpath (path : Path) (i : Nat) : Path := (path.drop (i + 1)).dropWhile (· = '/')

def fromCurdir (path : Path) : Action σ (Except Word (Path × Vnode)) := do
  match ← vfsGetcurdir with
  | .error result => pure (.error result)
  | .ok startvn => pure (.ok (path, startvn))

def getdevice (fs : FileSystems σ) (path : Path) : Action σ (Except Word (Path × Vnode)) :=
  match separators path with
  | (some (colon + 1), _) => do
      match ← vfsGetroot fs (path.take (colon + 1)) with
      | .error result => pure (.error result)
      | .ok startvn => pure (.ok (subpath path (colon + 1), startvn))
  | (some 0, _) => do
      match ← vfsGetcurdir with
      | .error result => pure (.error result)
      | .ok vn => do
          let s ← get
          match s.vnFs vn with
          | none => throw (.kassert "vn->vn_fs!=NULL")
          | some f => do
              let result ← perform (fs.getroot f)
              vnodeDecref fs vn
              match result with
              | .error result => pure (.error result)
              | .ok startvn => pure (.ok (subpath path 0, startvn))
  | (none, some 0) => do
      let s ← get
      match s.bootfs with
      | none => pure (.error ENOENT)
      | some startvn => do
          vnodeIncref startvn
          pure (.ok (subpath path 0, startvn))
  | (none, _) => fromCurdir path

def vfsLookparent (fs : FileSystems σ) (path : Path) (buflen : Nat) :
    Action σ (Except Word (Vnode × Path)) := do
  match ← getdevice fs path with
  | .error result => pure (.error result)
  | .ok (path, startvn) => do
      let result ←
        (if path = [] then pure (.error EINVAL) else perform (fs.lookparent startvn path buflen))
      vnodeDecref fs startvn
      pure result

def vfsLookup (fs : FileSystems σ) (path : Path) : Action σ (Except Word Vnode) := do
  match ← getdevice fs path with
  | .error result => pure (.error result)
  | .ok (path, startvn) =>
    if path = [] then pure (.ok startvn)
    else do
      let result ← perform (fs.lookup startvn path)
      vnodeDecref fs startvn
      pure result

def openVnode (fs : FileSystems σ) (path : Path) (openflags mode : Word) :
    Action σ (Except Word Vnode) :=
  if openflags &&& O_CREAT ≠ 0 then do
    match ← vfsLookparent fs path (NAME_MAX + 1) with
    | .error result => pure (.error result)
    | .ok (dir, name) => do
        let result ← perform (fs.creat dir name (openflags &&& O_EXCL ≠ 0) mode)
        vnodeDecref fs dir
        pure result
  else vfsLookup fs path

def vfsOpen (fs : FileSystems σ) (path : Path) (openflags mode : Word) :
    Action σ (Except Word Vnode) :=
  let how := openflags &&& O_ACCMODE
  if how ≠ O_RDONLY ∧ how ≠ O_WRONLY ∧ how ≠ O_RDWR then pure (.error EINVAL)
  else do
    match ← openVnode fs path openflags mode with
    | .error result => pure (.error result)
    | .ok vn => do
        match ← perform (fs.eachopen vn openflags) with
        | .error result => do
            vnodeDecref fs vn
            pure (.error result)
        | .ok _ =>
          if openflags &&& O_TRUNC ≠ 0 then do
            match ← (if how = O_RDONLY then pure (.error EINVAL)
              else perform (fs.truncate vn 0)) with
            | .error result => do
                vnodeDecref fs vn
                pure (.error result)
            | .ok _ => pure (.ok vn)
          else pure (.ok vn)

end Os161.Vfs
