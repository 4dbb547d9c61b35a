import Os161.Lib.Threads

-- One semaphore of semfs while threads remove its name, look it up and close it:
-- kern/fs/semfs/semfs_vnops.c with vnode_decref, lock by lock.

namespace Os161.Semfs.Unlink

open Lib Lib.Threads

inductive Lock where
  | dir | table | sem
  deriving DecidableEq, Repr

structure Data (T : Type) where
  linked : Bool
  hasvnode : Bool
  -- whether the slot of the table is not NULL, and whether the directory has the entry
  slot : Bool
  dent : Bool
  -- whether the table has the vnode, and the references to it, each with the thread that has it;
  -- vn_refcount is their number
  vnode : Bool
  owners : List T
  destroyed : Nat
  -- whether an assertion has failed or NULL has been followed
  crashed : Bool
  deriving DecidableEq, Repr

inductive Choice where
  | remove
  | lookup
  | close
  | noMemory
  deriving DecidableEq, Repr

inductive Pc where
  | outside
  | rmDir
  | rmFind
  | rmGetTable
  | rmGet
  | rmGetUntable
  | rmLock
  | rmUnlink
  | rmTest
  | rmTable
  | rmSlot
  | rmUntable
  | rmUnlock (destroy : Bool)
  | rmDestroy
  | rmDent
  | rmUndir
  | luDir
  | luFind
  | luTable
  | luGet
  | luUntable
  | luUndir
  | clDecref
  | clTable
  | clCount
  | clTake
  | clFlag
  | clTest
  | clSlot
  | clDestroy
  | clUntable
  deriving DecidableEq, Repr

variable {T : Type} [DecidableEq T]

abbrev Instruction (T : Type) := Instr Choice (Data T) Lock Unit T Pc

abbrev UnlinkState (T : Type) := State (Data T) Lock Unit T Pc

def enter (t : T) (d : Data T) : Choice → Option Pc
  | .remove => some .rmDir
  | .lookup => some .luDir
  -- VOP_DECREF is for those who have a reference
  | .close => if t ∈ d.owners then some .clDecref else none
  | .noMemory => none

def getvnode (t : T) (choice : Choice) (d : Data T) : Data T × Pc :=
  if d.vnode then ({ d with owners := t :: d.owners }, .luUntable)
  else if choice = .noMemory then (d, .luUntable)
  else if d.slot = false ∨ d.hasvnode then ({ d with crashed := true }, .luGet)
  else ({ d with vnode := true, owners := t :: d.owners, hasvnode := true }, .luUntable)

def code (t : T) : Pc → Instruction T
  | .outside => .act fun choice d => (enter t d choice).map fun k => (d, k)
  | .rmDir => .acquire .dir id .rmFind
  | .rmFind => .act fun _ d => some (d, if d.dent then .rmGetTable else .rmUndir)
  | .rmGetTable => .acquire .table id .rmGet
  | .rmGet => .act fun _ d =>
    some (if d.slot then (d, .rmGetUntable) else ({ d with crashed := true }, .rmGet))
  | .rmGetUntable => .release .table id .rmLock
  | .rmLock => .acquire .sem id .rmUnlink
  | .rmUnlink => .act fun _ d =>
    some (if d.linked then ({ d with linked := false }, .rmTest)
      else ({ d with crashed := true }, .rmUnlink))
  | .rmTest => .act fun _ d => some (d, if d.hasvnode = false then .rmTable else .rmUnlock false)
  | .rmTable => .acquire .table id .rmSlot
  | .rmSlot => .act fun _ d => some ({ d with slot := false }, .rmUntable)
  | .rmUntable => .release .table id (.rmUnlock true)
  | .rmUnlock true => .release .sem id .rmDestroy
  | .rmUnlock false => .release .sem id .rmDent
  | .rmDestroy => .act fun _ d => some ({ d with destroyed := d.destroyed + 1 }, .rmDent)
  | .rmDent => .act fun _ d => some ({ d with dent := false }, .rmUndir)
  | .rmUndir => .release .dir id .outside
  | .luDir => .acquire .dir id .luFind
  | .luFind => .act fun _ d => some (d, if d.dent then .luTable else .luUndir)
  | .luTable => .acquire .table id .luGet
  | .luGet => .act fun choice d => some (getvnode t choice d)
  | .luUntable => .release .table id .luUndir
  | .luUndir => .release .dir id .outside
  -- under vn_countlock, which nobody keeps
  | .clDecref => .act fun _ d =>
    some (if 1 < d.owners.length then ({ d with owners := d.owners.erase t }, .outside)
      else (d, .clTable))
  | .clTable => .acquire .table id .clCount
  | .clCount => .act fun _ d =>
    some (if 1 < d.owners.length then ({ d with owners := d.owners.erase t }, .clUntable)
      else (d, .clTake))
  -- the vnode goes, and the last reference with it
  | .clTake => .act fun _ d => some ({ d with vnode := false, owners := d.owners.erase t }, .clFlag)
  | .clFlag => .act fun _ d =>
    some (if d.slot ∧ d.hasvnode then ({ d with hasvnode := false }, .clTest)
      else ({ d with crashed := true }, .clFlag))
  | .clTest => .act fun _ d => some (d, if d.linked = false then .clSlot else .clUntable)
  | .clSlot => .act fun _ d => some ({ d with slot := false }, .clDestroy)
  | .clDestroy => .act fun _ d => some ({ d with destroyed := d.destroyed + 1 }, .clUntable)
  | .clUntable => .release .table id .outside

def Pc.uses : Pc → Bool
  | .rmGetUntable | .rmLock | .rmUnlink | .rmTest | .rmTable | .rmSlot | .rmUntable => true
  | .rmUnlock _ | .rmDestroy | .clTest | .clSlot | .clDestroy => true
  | _ => false

-- The semaphore is destroyed once, when it is neither linked nor has a vnode, with its slot
-- NULL, and not before the last thread is done with it.
structure Sound (s : UnlinkState T) : Prop where
  once : s.data.destroyed ≤ 1
  dead : 0 < s.data.destroyed →
    s.data.linked = false ∧ s.data.hasvnode = false ∧ s.data.slot = false
  unused : 0 < s.data.destroyed → ∀ t, (s.pc t).uses = false
  runs : s.data.crashed = false
  gone : (∀ t, (s.pc t).uses = false) → s.data.linked = false → s.data.hasvnode = false →
    s.data.destroyed = 1
  null : (∀ t, (s.pc t).uses = false) → s.data.slot = false → s.data.destroyed = 1

def Admits (move : T × Choice) (s : UnlinkState T) : Prop :=
  s.pc move.1 = .clDestroy → ∀ u, u ≠ move.1 → (s.pc u).uses = false

def unlinkStep (move : T × Choice) (s s' : UnlinkState T) : Prop :=
  step code move.1 move.2 s = some s'

def linkedSem (owners : List T) : UnlinkState T where
  pc := fun _ => .outside
  asleep := fun _ => false
  holder := fun _ => none
  chan := fun _ => []
  data := ⟨true, !owners.isEmpty, true, true, !owners.isEmpty, owners, 0, false⟩

end Os161.Semfs.Unlink
