import Os161.Vfs

-- The directory of semfs, kern/fs/semfs/semfs_vnops.c with semfs_obj.c and kern/lib/array.c, each
-- call from start to end. A lock or a condition variable is one allocation; the memory behind an
-- array is not part of the heap.

namespace Os161.Semfs

open Vfs (Path ENOENT)
open Vm (Word EINVAL ENOMEM Stop kassert)

def EEXIST : Word := 22#32
def EBUSY : Word := 27#32
def ENOSPC : Word := 36#32

def SEMFS_ROOTDIR : Nat := 0xffffffff

abbrev Addr := Nat

structure Sem where
  lock : Addr
  cv : Addr
  count : Word
  hasvnode : Bool
  linked : Bool
  deriving DecidableEq, Repr

structure Direntry where
  name : Addr
  semnum : Nat
  deriving DecidableEq, Repr

structure SemfsVnode where
  semnum : Nat
  refcount : Nat
  deriving DecidableEq, Repr

inductive Object where
  | lock
  | cv
  | name (text : Path)
  | sem (sem : Sem)
  | dent (dent : Direntry)
  | vnode (vnode : SemfsVnode)
  deriving DecidableEq, Repr

def Object.asName : Object → Option Path
  | .name x => some x
  | _ => none

def Object.asSem : Object → Option Sem
  | .sem x => some x
  | _ => none

def Object.asDent : Object → Option Direntry
  | .dent x => some x
  | _ => none

def Object.asVnode : Object → Option SemfsVnode
  | .vnode x => some x
  | _ => none

structure Arr (α : Type) where
  v : List α
  max : Nat
  deriving DecidableEq, Repr

abbrev Heap := Addr → Option Object

structure Fs where
  heap : Heap
  -- addresses from here on have not been given out
  next : Addr
  calls : Nat
  vnodes : Arr Addr
  sems : Arr (Option Addr)
  dents : Arr (Option Addr)

abbrev Action (α : Type) := EStateM Stop Fs α

@[simps]
def Fs.tick (s : Fs) : Fs := { s with calls := s.calls + 1 }

@[simps]
def Fs.alloc (s : Fs) (object : Object) : Fs :=
  { s with
    heap := Function.update s.heap s.next (some object)
    next := s.next + 1
    calls := s.calls + 1 }

@[simps]
def Fs.free (s : Fs) (a : Addr) : Fs := { s with heap := Function.update s.heap a none }

@[simps]
def Fs.put (s : Fs) (a : Addr) (object : Object) : Fs :=
  { s with heap := Function.update s.heap a (some object) }

def load {α : Type} (kind : Object → Option α) (a : Addr) : Action α := fun s =>
  match (s.heap a).bind kind with
  | some x => .ok x s
  | none => .error .dangling s

def store (a : Addr) (object : Object) : Action Unit := modify fun s => s.put a object

def kfree (a : Addr) : Action Unit := fun s =>
  if s.heap a = none then .error .dangling s else .ok () (s.free a)

def deref : Option Addr → Action Addr
  | some a => pure a
  | none => throw .nullAccess

def arrayGet {α : Type} (arr : Arr α) (index : Nat) : Action α :=
  match arr.v[index]? with
  | some x => pure x
  | none => throw (.kassert "index < a->num")

-- `fails n` says that the call of kmalloc with number n returns NULL.
variable (fails : Nat → Bool)

def kmalloc (object : Object) : Action (Option Addr) := fun s =>
  if fails s.calls then .ok none s.tick else .ok (some s.next) (s.alloc object)

def arrayAdd {α : Type} (arr : Arr α) (val : α) : Action (Option (Arr α)) := fun s =>
  if arr.v.length < arr.max then .ok (some ⟨arr.v ++ [val], arr.max⟩) s
  else if fails s.calls then .ok none s.tick
  else .ok (some ⟨arr.v ++ [val], if arr.max = 0 then 4 else arr.max * 2⟩) s.tick

def semfsSemCreate : Action (Option Addr) := do
  match ← kmalloc fails (.sem ⟨0, 0, 0#32, false, false⟩) with
  | none => pure none
  | some sem => do
      match ← kmalloc fails .lock with
      | none => do
          kfree sem
          pure none
      | some lock => do
          match ← kmalloc fails .cv with
          | none => do
              kfree lock
              kfree sem
              pure none
          | some cv => do
              store sem (.sem ⟨lock, cv, 0#32, false, false⟩)
              pure (some sem)

def semfsSemDestroy (a : Addr) : Action Unit := do
  let sem ← load Object.asSem a
  kfree sem.cv
  kfree sem.lock
  kfree a

def setSem (semnum : Nat) (sem : Option Addr) : Action Unit := do
  let s ← get
  kassert (semnum < s.sems.v.length) "index < a->num"
  modify fun s => { s with sems := ⟨s.sems.v.set semnum sem, s.sems.max⟩ }

def semfsSemInsert (sem : Addr) : Action (Word × Nat) := do
  let s ← get
  if s.sems.v.length = SEMFS_ROOTDIR then pure (ENOSPC, 0)
  else
    match s.sems.v.findIdx? (· = none) with
    | some i => do
        setSem i (some sem)
        pure (0#32, i)
    | none => do
        match ← arrayAdd fails s.sems (some sem) with
        | none => pure (ENOMEM, 0)
        | some sems => do
            modify fun s => { s with sems := sems }
            pure (0#32, s.sems.v.length)

def semfsDirentryCreate (name : Path) (semnum : Nat) : Action (Option Addr) := do
  match ← kmalloc fails (.dent ⟨0, semnum⟩) with
  | none => pure none
  | some dent => do
      match ← kmalloc fails (.name name) with
      | none => do
          kfree dent
          pure none
      | some text => do
          store dent (.dent ⟨text, semnum⟩)
          pure (some dent)

def semfsDirentryDestroy (a : Addr) : Action Unit := do
  let dent ← load Object.asDent a
  kfree dent.name
  kfree a

def setDent (i : Nat) (dent : Option Addr) : Action Unit := do
  let s ← get
  kassert (i < s.dents.v.length) "index < a->num"
  modify fun s => { s with dents := ⟨s.dents.v.set i dent, s.dents.max⟩ }

def findVnode (semnum : Nat) : List Addr → Action (Option Addr)
  | [] => pure none
  | vn :: vns => do
      let semv ← load Object.asVnode vn
      if semv.semnum = semnum then pure (some vn) else findVnode semnum vns

def vnodeIncref (vn : Addr) : Action Unit := do
  let semv ← load Object.asVnode vn
  store vn (.vnode { semv with refcount := semv.refcount + 1 })

def semfsVnodeDestroy (vn : Addr) : Action Unit := do
  let semv ← load Object.asVnode vn
  kassert (semv.refcount = 1) "vn->vn_refcount == 1"
  kfree vn

def markVnode (semnum : Nat) : Action Unit := do
  if semnum ≠ SEMFS_ROOTDIR then do
    let s ← get
    let slot ← arrayGet s.sems semnum
    match slot with
    | none => throw (.kassert "sem != NULL")
    | some a => do
        let sem ← load Object.asSem a
        kassert (sem.hasvnode = false) "sem->sems_hasvnode == false"
        store a (.sem { sem with hasvnode := true })

def semfsGetvnode (semnum : Nat) : Action (Word × Option Addr) := do
  let s ← get
  match ← findVnode semnum s.vnodes.v with
  | some vn => do
      vnodeIncref vn
      pure (0#32, some vn)
  | none => do
      match ← kmalloc fails (.vnode ⟨semnum, 1⟩) with
      | none => pure (ENOMEM, none)
      | some vn => do
          match ← arrayAdd fails s.vnodes vn with
          | none => do
              semfsVnodeDestroy vn
              pure (ENOMEM, none)
          | some vnodes => do
              modify fun s => { s with vnodes := vnodes }
              markVnode semnum
              pure (0#32, some vn)

-- The loop of semfs_creat: the entry of that name, and the first empty slot before it.
def creatLoop (name : Path) (num : Nat) :
    List (Option Addr) → Nat → Nat → Action (Option Direntry × Nat)
  | [], _, empty => pure (none, empty)
  | none :: dents, i, empty => creatLoop name num dents (i + 1) (if empty = num then i else empty)
  | some a :: dents, i, empty => do
      let dent ← load Object.asDent a
      let text ← load Object.asName dent.name
      if text = name then pure (some dent, empty) else creatLoop name num dents (i + 1) empty

def failUncreate (sem : Addr) (result : Word) : Action (Word × Option Addr) := do
  semfsSemDestroy sem
  pure (result, none)

def failUninsert (sem : Addr) (semnum : Nat) (result : Word) : Action (Word × Option Addr) := do
  setSem semnum none
  failUncreate sem result

def failUndent (sem : Addr) (semnum : Nat) (dent : Addr) (result : Word) :
    Action (Word × Option Addr) := do
  semfsDirentryDestroy dent
  failUninsert sem semnum result

def failUndir (sem : Addr) (semnum : Nat) (dent : Addr) (empty : Nat) (result : Word) :
    Action (Word × Option Addr) := do
  setDent empty none
  failUndent sem semnum dent result

def creatOpen (sem : Addr) (semnum : Nat) (dent : Addr) (empty : Nat) :
    Action (Word × Option Addr) := do
  match ← semfsGetvnode fails semnum with
  | (result, vn) =>
    if result ≠ 0 then failUndir sem semnum dent empty result
    else do
      let x ← load Object.asSem sem
      store sem (.sem { x with linked := true })
      pure (0#32, vn)

def creatEnter (sem : Addr) (semnum : Nat) (dent : Addr) (empty num : Nat) :
    Action (Word × Option Addr) := do
  if empty < num then do
    setDent empty (some dent)
    creatOpen fails sem semnum dent empty
  else do
    let s ← get
    match ← arrayAdd fails s.dents (some dent) with
    | none => failUndent sem semnum dent ENOMEM
    | some dents => do
        modify fun s => { s with dents := dents }
        creatOpen fails sem semnum dent s.dents.v.length

-- semfs_creat after the loop has not found the name. Where semfs_direntry_create fails, the
-- variable result still holds the 0 of semfs_sem_insert.
def creatNew (name : Path) (empty num : Nat) : Action (Word × Option Addr) := do
  match ← semfsSemCreate fails with
  | none => pure (ENOMEM, none)
  | some sem => do
      match ← semfsSemInsert fails sem with
      | (result, semnum) =>
        if result ≠ 0 then failUncreate sem result
        else do
          match ← semfsDirentryCreate fails name semnum with
          | none => failUninsert sem semnum result
          | some dent => creatEnter fails sem semnum dent empty num

def semfsCreat (name : Path) (excl : Bool) : Action (Word × Option Addr) :=
  if name = ['.'] ∨ name = ['.', '.'] then pure (EEXIST, none)
  else do
    let s ← get
    let num := s.dents.v.length
    match ← creatLoop name num s.dents.v 0 num with
    | (some dent, _) =>
      if excl then pure (EEXIST, none) else semfsGetvnode fails dent.semnum
    | (none, empty) => creatNew fails name empty num

-- The loops of semfs_remove and semfs_lookup: the slot, the address and the entry of a name.
def findDent (name : Path) : List (Option Addr) → Nat → Action (Option (Nat × Addr × Direntry))
  | [], _ => pure none
  | none :: dents, i => findDent name dents (i + 1)
  | some a :: dents, i => do
      let dent ← load Object.asDent a
      let text ← load Object.asName dent.name
      if text = name then pure (some (i, a, dent)) else findDent name dents (i + 1)

def semfsGetsembynum (semnum : Nat) : Action (Option Addr) := do
  let s ← get
  arrayGet s.sems semnum

def removeSem (semnum : Nat) : Action Unit := do
  let sem ← deref (← semfsGetsembynum semnum)
  let x ← load Object.asSem sem
  kassert x.linked "sem->sems_linked"
  store sem (.sem { x with linked := false })
  if x.hasvnode = false then do
    setSem semnum none
    semfsSemDestroy sem

def semfsRemove (name : Path) : Action Word :=
  if name = ['.'] ∨ name = ['.', '.'] then pure EINVAL
  else do
    let s ← get
    match ← findDent name s.dents.v 0 with
    | none => pure ENOENT
    | some (i, a, dent) => do
        removeSem dent.semnum
        setDent i none
        semfsDirentryDestroy a
        pure 0#32

def semfsLookup (dirvn : Addr) (path : Path) : Action (Word × Option Addr) :=
  if path = ['.'] ∨ path = ['.', '.'] then do
    vnodeIncref dirvn
    pure (0#32, some dirvn)
  else do
    let s ← get
    match ← findDent path s.dents.v 0 with
    | none => pure (ENOENT, none)
    | some (_, _, dent) => semfsGetvnode fails dent.semnum

def reclaimSem (semnum : Nat) : Action Unit := do
  if semnum ≠ SEMFS_ROOTDIR then do
    let s ← get
    let slot ← arrayGet s.sems semnum
    let a ← deref slot
    let sem ← load Object.asSem a
    kassert sem.hasvnode "sem->sems_hasvnode"
    store a (.sem { sem with hasvnode := false })
    if sem.linked = false then do
      setSem semnum none
      semfsSemDestroy a

-- Nothing runs between VOP_DECREF and semfs_reclaim here, so that the count is still 1.
def semfsReclaim (vn : Addr) : Action Word := do
  let semv ← load Object.asVnode vn
  if 1 < semv.refcount then do
    store vn (.vnode { semv with refcount := semv.refcount - 1 })
    pure EBUSY
  else do
    modify fun s => { s with vnodes := ⟨s.vnodes.v.erase vn, s.vnodes.max⟩ }
    reclaimSem semv.semnum
    semfsVnodeDestroy vn
    pure 0#32

def vnodeDecref (vn : Addr) : Action Unit := do
  let semv ← load Object.asVnode vn
  kassert (0 < semv.refcount) "vn->vn_refcount > 0"
  if 1 < semv.refcount then store vn (.vnode { semv with refcount := semv.refcount - 1 })
  else do
    let _ ← semfsReclaim vn
    pure ()

-- A uio with room: where it stands, how much room is left, and what uiomove has put there, one
-- piece for each call.
structure Uio where
  offset : Nat
  resid : Nat
  deriving DecidableEq, Repr

def uiomove (text : Path) (uio : Uio) : Path × Uio :=
  let n := min text.length uio.resid
  (text.take n, ⟨uio.offset + n, uio.resid - n⟩)

-- What the call transfers. `pos` is an unsigned, the offset has 64 bits.
def semfsGetdirentry (uio : Uio) : Action (Path × Uio) := do
  let s ← get
  let pos := uio.offset % 0x100000000
  if s.dents.v.length ≤ pos then pure ([], uio)
  else do
    let a ← deref (← arrayGet s.dents pos)
    let dent ← load Object.asDent a
    let text ← load Object.asName dent.name
    pure (uiomove text uio)

def listing : Nat → Uio → Action (List Path)
  | 0, _ => throw .hang
  | fuel + 1, uio => do
      let (text, uio) ← semfsGetdirentry uio
      if text = [] then pure []
      else do
        let rest ← listing fuel uio
        pure (text :: rest)

def emptySemfs : Fs where
  heap := fun _ => none
  next := 0
  calls := 0
  vnodes := ⟨[], 0⟩
  sems := ⟨[], 0⟩
  dents := ⟨[], 0⟩

end Os161.Semfs
