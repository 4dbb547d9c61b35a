import Os161.Sfs.Trunc

namespace Os161.Sfs

open Lib.Bytes List
open Lib.Exec
open Vm (Word Stop kassert)

structure Contents where
  bytes : Nat → UInt8
  size : Nat

inductive Request where
  | read (off len : Nat)
  | write (off : Nat) (data : List UInt8)

def Request.fits : Request → Prop
  | .read off len => off + len ≤ MAXBLOCKS * SFS_BLOCKSIZE
  | .write off data => off + data.length ≤ MAXBLOCKS * SFS_BLOCKSIZE

def Request.Covers (i : Nat) : Request → Prop
  | .read _ _ => False
  | .write off data => off ≤ i ∧ i < off + data.length

def Contents.answer (c : Contents) : Request → Contents × List UInt8
  | .read off len => (c, (List.range (min len (c.size - off))).map fun k => c.bytes (off + k))
  | .write off data =>
    if data = [] then (c, [])
    else (⟨paste c.bytes off data.length (fun k => data.getD k 0),
      max c.size (off + data.length)⟩, [])

def Contents.answers (c : Contents) : List Request → Contents × List (List UInt8)
  | [] => (c, [])
  | req :: rest =>
    (((c.answer req).1.answers rest).1, (c.answer req).2 :: ((c.answer req).1.answers rest).2)

def request (ino : Nat) : Request → Action (Except Word (List UInt8))
  | .read off len => do
      let (result, uio) ← sfsIo ino ⟨false, off, len, []⟩
      pure (result.map fun _ => uio.data)
  | .write off data => do
      let (result, _) ← sfsIo ino ⟨true, off, data.length, data⟩
      pure (result.map fun _ => [])

def requests (ino : Nat) : List Request → Action (Except Word (List (List UInt8)))
  | [] => pure (.ok [])
  | req :: rest => do
      match ← request ino req with
      | .error result => pure (.error result)
      | .ok bytes => do
          let answers ← requests ino rest
          pure (answers.map (bytes :: ·))

structure Represents (s : Fs) (ino : Nat) (sv : Vnode) (c : Contents) : Prop where
  loaded : Loaded s ino sv
  size : sv.size = c.size
  bytes : ∀ i < MAXBLOCKS * SFS_BLOCKSIZE, byteOf s.disk sv i = c.bytes i

def Apart (s : Fs) (sv other : Vnode) : Prop :=
  File s other ∧ ∀ b, Owns s.disk other b → ¬ Owns s.disk sv b

variable {s t u : Fs} {ino : Nat} {sv sv' sv'' : Vnode} {c : Contents}

end Os161.Sfs
