import Os161.Semfs.Dir

namespace Os161.Semfs

open Fs

open Function Lib.Exec Bool EStateM List
open Vfs (Path)
open Vm (Word ENOMEM Stop kassert kassert_pass)

variable {s t : Fs} {a : Addr} {fails : Nat → Bool}

section Heap

lemma load_run (h : (s.heap a).bind kind = some x) :
    (load kind a).run s = .ok x s := by
  have hrun : (load kind a).run s = load kind a s := rfl
  rw [hrun, load, h]

variable {x : Sem} {d : Direntry} {text : Path} {h : Heap}

lemma load_sem (h : s.heap a = some (.sem x)) :
    (load Object.asSem a).run s = .ok x s := load_run (by rw [h]; rfl)

lemma load_dent (h : s.heap a = some (.dent d)) :
    (load Object.asDent a).run s = .ok d s := load_run (by rw [h]; rfl)

lemma load_name (h : s.heap a = some (.name text)) :
    (load Object.asName a).run s = .ok text s := load_run (by rw [h]; rfl)

lemma load_vnode (h : s.heap a = some (.vnode v)) :
    (load Object.asVnode a).run s = .ok v s := load_run (by rw [h]; rfl)

lemma store_run (a : Addr) (object : Object) (s : Fs) :
    (store a object).run s = .ok () (s.put a object) := rfl

lemma kfree_run (h : s.heap a = some object) :
    (kfree a).run s = .ok () (s.free a) := by
  have hrun : (kfree a).run s = kfree a s := rfl
  rw [hrun, kfree, if_neg (by rw [h]; simp)]

lemma kmalloc_fails (h : fails s.calls = true) (object : Object) :
    (kmalloc fails object).run s = .ok none s.tick := by
  have hrun : (kmalloc fails object).run s = kmalloc fails object s := rfl
  rw [hrun, kmalloc, if_pos h]

lemma kmalloc_gives (h : fails s.calls = false) (object : Object) :
    (kmalloc fails object).run s = .ok (some s.next) (s.alloc object) := by
  have hrun : (kmalloc fails object).run s = kmalloc fails object s := rfl
  rw [hrun, kmalloc, if_neg (by rw [h]; simp)]

def withSem (h : Heap) (a : Addr) (x : Sem) : Heap :=
  update (update (update h a (some (.sem x))) x.lock (some .lock)) x.cv
    (some .cv)

def withDent (h : Heap) (a : Addr) (d : Direntry) (text : Path) : Heap :=
  update (update h a (some (.dent d))) d.name (some (.name text))

structure NewSem (h : Heap) (a : Addr) (x : Sem) : Prop where
  sem : h a = none
  lock : h x.lock = none
  cv : h x.cv = none
  sem_lock : a ≠ x.lock
  sem_cv : a ≠ x.cv
  lock_cv : x.lock ≠ x.cv

structure NewDent (h : Heap) (a : Addr) (d : Direntry) : Prop where
  dent : h a = none
  name : h d.name = none
  apart : a ≠ d.name

lemma semfsSemDestroy_run (hnew : NewSem h a x)
    (hheap : s.heap = withSem h a x) :
    (semfsSemDestroy a).run s = .ok () { s with heap := h } := by
  have hsem : s.heap a = some (.sem x) := by
    rw [hheap, withSem, update_of_ne hnew.sem_cv, update_of_ne hnew.sem_lock, update_self]
  have hcv : s.heap x.cv = some .cv := by rw [hheap, withSem, update_self]
  have hlock : (s.free x.cv).heap x.lock = some .lock := by
    rw [free_heap, update_of_ne hnew.lock_cv, hheap, withSem,
      update_of_ne hnew.lock_cv, update_self]
  have hlast : ((s.free x.cv).free x.lock).heap a = some (.sem x) := by
    rw [free_heap, update_of_ne hnew.sem_lock, free_heap, update_of_ne hnew.sem_cv, hsem]
  rw [semfsSemDestroy, bind_run_ok (load_sem hsem), bind_run_ok (kfree_run hcv),
    bind_run_ok (kfree_run hlock), kfree_run hlast]
  have hgone : (((s.free x.cv).free x.lock).free a).heap = h := by
    funext b
    simp only [free_heap, hheap, withSem, update_apply]
    by_cases hb : b = a
    · rw [if_pos hb, hb, hnew.sem]
    by_cases hbl : b = x.lock
    · rw [if_neg hb, if_pos hbl, hbl, hnew.lock]
    by_cases hbc : b = x.cv
    · rw [if_neg hb, if_neg hbl, if_pos hbc, hbc, hnew.cv]
    · simp only [if_neg hb, if_neg hbl, if_neg hbc]
  rw [← hgone]
  rfl

lemma semfsDirentryDestroy_run (hnew : NewDent h a d)
    (hheap : s.heap = withDent h a d text) :
    (semfsDirentryDestroy a).run s = .ok () { s with heap := h } := by
  have hdent : s.heap a = some (.dent d) := by
    rw [hheap, withDent, update_of_ne hnew.apart, update_self]
  have hname : s.heap d.name = some (.name text) := by rw [hheap, withDent, update_self]
  have hlast : (s.free d.name).heap a = some (.dent d) := by
    rw [free_heap, update_of_ne hnew.apart, hdent]
  rw [semfsDirentryDestroy, bind_run_ok (load_dent hdent), bind_run_ok (kfree_run hname),
    kfree_run hlast]
  have hgone : ((s.free d.name).free a).heap = h := by
    funext b
    simp only [free_heap, hheap, withDent, update_apply]
    by_cases hb : b = a
    · rw [if_pos hb, hb, hnew.dent]
    by_cases hbn : b = d.name
    · rw [if_neg hb, if_pos hbn, hbn, hnew.name]
    · simp only [if_neg hb, if_neg hbn]
  rw [← hgone]
  rfl

end Heap

def Fs.Fresh (s : Fs) : Prop := ∀ a, s.next ≤ a → s.heap a = none

structure Kept (s t : Fs) : Prop where
  heap : t.heap = s.heap
  vnodes : t.vnodes = s.vnodes
  sems : t.sems = s.sems
  dents : t.dents = s.dents
  next : s.next ≤ t.next

section Create

def Fs.newSem (s : Fs) : Sem := ⟨s.next + 1, s.next + 2, 0#32, false, false⟩

def Fs.semCreated (s : Fs) : Fs :=
  { s with heap := withSem s.heap s.next s.newSem, next := s.next + 3, calls := s.calls + 3 }

lemma newSem_new (hs : s.Fresh) : NewSem s.heap s.next s.newSem where
  sem := hs _ (Nat.le_refl _)
  lock := hs _ (by simp [newSem])
  cv := hs _ (by simp [newSem])
  sem_lock := by simp [newSem]
  sem_cv := by simp [newSem]
  lock_cv := by simp [newSem]

lemma semfsSemCreate_gives (h : ∀ k < 3, fails (s.calls + k) = false) :
    (semfsSemCreate fails).run s = .ok (some s.next) s.semCreated := by
  let s1 := s.alloc (.sem ⟨0, 0, 0#32, false, false⟩)
  have h0 : fails s.calls = false := h 0 (by decide)
  have h1 : fails s1.calls = false := h 1 (by decide)
  have h2 : fails (s1.alloc .lock).calls = false := h 2 (by decide)
  rw [semfsSemCreate, bind_run_ok (kmalloc_gives h0 _)]
  simp only
  rw [bind_run_ok (kmalloc_gives h1 _)]
  simp only
  rw [bind_run_ok (kmalloc_gives h2 _)]
  simp only
  rw [bind_run_ok (store_run ..)]
  have hheap : (((s1.alloc .lock).alloc .cv).put s.next (.sem s.newSem)).heap =
      s.semCreated.heap := by
    funext b
    simp only [s1, semCreated, withSem, newSem, put_heap, alloc_heap, alloc_next, update_apply]
    by_cases hb : b = s.next
    · subst hb
      rw [if_pos rfl, if_neg, if_neg, if_pos rfl]
      · exact Nat.ne_of_lt (by omega)
      · exact Nat.ne_of_lt (by omega)
    · simp only [if_neg hb]
  have hstate : ((s1.alloc .lock).alloc .cv).put s.next (.sem s.newSem) = s.semCreated := by
    have hput : ((s1.alloc .lock).alloc .cv).put s.next (.sem s.newSem) =
        { s.semCreated with
          heap := (((s1.alloc .lock).alloc .cv).put s.next (.sem s.newSem)).heap } := rfl
    rw [hput, hheap]
  exact congrArg (EStateM.Result.ok (some s.next)) hstate

lemma free_alloc (hs : s.Fresh) (object : Object) :
    ((s.alloc object).free s.next).heap = s.heap := by
  funext b
  simp only [free_heap, alloc_heap, update_apply]
  by_cases hb : b = s.next
  · rw [if_pos hb, hb, hs _ (Nat.le_refl _)]
  · rw [if_neg hb, if_neg hb]

lemma alloc_fresh (hs : s.Fresh) (object : Object) : (s.alloc object).Fresh := by
  intro b hb
  have hlt : s.next < b := hb
  rw [alloc_heap, update_of_ne (Nat.ne_of_gt hlt)]
  exact hs b (Nat.le_of_lt hlt)

lemma semfsSemCreate_fails (hs : s.Fresh) (h : ∃ k < 3, fails (s.calls + k) = true) :
    ∃ t, (semfsSemCreate fails).run s = .ok none t ∧ Kept s t := by
  let sem : Object := .sem ⟨0, 0, 0#32, false, false⟩
  rw [semfsSemCreate]
  by_cases h0 : fails s.calls = true
  · rw [bind_run_ok (kmalloc_fails h0 _)]
    exact ⟨_, rfl, rfl, rfl, rfl, rfl, Nat.le_refl _⟩
  rw [bind_run_ok (kmalloc_gives (eq_false_iff.mpr h0) _)]
  simp only
  have hsem : (s.alloc sem).heap s.next = some sem := by rw [alloc_heap, update_self]
  by_cases h1 : fails (s.alloc sem).calls = true
  · rw [bind_run_ok (kmalloc_fails h1 _)]
    simp only
    have hthere : (s.alloc sem).tick.heap s.next = some sem := hsem
    rw [bind_run_ok (kfree_run hthere)]
    exact ⟨_, rfl, free_alloc hs sem, rfl, rfl, rfl, Nat.le_succ _⟩
  rw [bind_run_ok (kmalloc_gives (eq_false_iff.mpr h1) _)]
  simp only
  have h2 : fails ((s.alloc sem).alloc .lock).calls = true := by
    obtain ⟨k, hk, hfail⟩ := h
    have hcases : k = 0 ∨ k = 1 ∨ k = 2 := by omega
    rcases hcases with rfl | rfl | rfl
    · exact absurd hfail h0
    · exact absurd hfail h1
    · exact hfail
  rw [bind_run_ok (kmalloc_fails h2 _)]
  simp only
  have hlock : ((s.alloc sem).alloc .lock).tick.heap (s.alloc sem).next = some .lock := by
    rw [tick_heap, alloc_heap, update_self]
  have hback : (((s.alloc sem).alloc .lock).tick.free (s.alloc sem).next).heap =
      (s.alloc sem).heap := free_alloc (alloc_fresh hs sem) .lock
  have hthere : (((s.alloc sem).alloc .lock).tick.free (s.alloc sem).next).heap s.next =
      some sem := by rw [hback, hsem]
  rw [bind_run_ok (kfree_run hlock), bind_run_ok (kfree_run hthere)]
  refine ⟨_, rfl, ?_, rfl, rfl, rfl, Nat.le_add_right _ 2⟩
  have hfirst := free_alloc hs sem
  rw [free] at hfirst ⊢
  dsimp only at hfirst ⊢
  rw [hback, hfirst]

def Fs.newDent (s : Fs) (semnum : Nat) : Direntry := ⟨s.next + 1, semnum⟩

def Fs.dentCreated (s : Fs) (name : Path) (semnum : Nat) : Fs :=
  { s with
    heap := withDent s.heap s.next (s.newDent semnum) name
    next := s.next + 2
    calls := s.calls + 2 }

lemma semfsDirentryCreate_gives (h : ∀ k < 2, fails (s.calls + k) = false) (name : Path)
    (semnum : Nat) :
    (semfsDirentryCreate fails name semnum).run s =
      .ok (some s.next) (s.dentCreated name semnum) := by
  let s1 := s.alloc (.dent ⟨0, semnum⟩)
  have h0 : fails s.calls = false := h 0 (by decide)
  have h1 : fails s1.calls = false := h 1 (by decide)
  rw [semfsDirentryCreate, bind_run_ok (kmalloc_gives h0 _)]
  simp only
  rw [bind_run_ok (kmalloc_gives h1 _)]
  simp only
  rw [bind_run_ok (store_run ..)]
  have hheap : ((s1.alloc (.name name)).put s.next (.dent (s.newDent semnum))).heap =
      (s.dentCreated name semnum).heap := by
    funext b
    simp only [s1, dentCreated, withDent, newDent, put_heap, alloc_heap, alloc_next, update_apply]
    by_cases hb : b = s.next
    · subst hb
      rw [if_pos rfl, if_neg, if_pos rfl]
      exact Nat.ne_of_lt (by omega)
    · simp only [if_neg hb]
  have hstate : (s1.alloc (.name name)).put s.next (.dent (s.newDent semnum)) =
      s.dentCreated name semnum := by
    have hput : (s1.alloc (.name name)).put s.next (.dent (s.newDent semnum)) =
        { s.dentCreated name semnum with
          heap := ((s1.alloc (.name name)).put s.next (.dent (s.newDent semnum))).heap } := rfl
    rw [hput, hheap]
  exact congrArg (EStateM.Result.ok (some s.next)) hstate

lemma semfsDirentryCreate_fails (hs : s.Fresh) (h : ∃ k < 2, fails (s.calls + k) = true)
    (name : Path) (semnum : Nat) :
    ∃ t, (semfsDirentryCreate fails name semnum).run s = .ok none t ∧ Kept s t := by
  let dent : Object := .dent ⟨0, semnum⟩
  rw [semfsDirentryCreate]
  by_cases h0 : fails s.calls = true
  · rw [bind_run_ok (kmalloc_fails h0 _)]
    exact ⟨_, rfl, rfl, rfl, rfl, rfl, Nat.le_refl _⟩
  rw [bind_run_ok (kmalloc_gives (eq_false_iff.mpr h0) _)]
  simp only
  have h1 : fails (s.alloc dent).calls = true := by
    obtain ⟨k, hk, hfail⟩ := h
    have hcases : k = 0 ∨ k = 1 := by omega
    rcases hcases with rfl | rfl
    · exact absurd hfail h0
    · exact hfail
  rw [bind_run_ok (kmalloc_fails h1 _)]
  simp only
  have hdent : (s.alloc dent).tick.heap s.next = some dent := by
    rw [tick_heap, alloc_heap, update_self]
  rw [bind_run_ok (kfree_run hdent)]
  exact ⟨_, rfl, free_alloc hs dent, rfl, rfl, rfl, Nat.le_succ _⟩

end Create

section Arrays

variable {α : Type}

def Entered (v : List (Option α)) (n : Nat) (x : α) (v' : List (Option α)) : Prop :=
  v[n]? = some none ∧ v' = v.set n (some x) ∨ n = v.length ∧ v' = v ++ [some x]

def Padded (v v' : List (Option α)) : Prop := ∃ k, v' = v ++ List.replicate k none

lemma Padded.refl (v : List (Option α)) : Padded v v := ⟨0, by simp⟩

lemma Padded.slot (h : Padded v v') (i : Nat) (x : α) :
    v'[i]? = some (some x) ↔ v[i]? = some (some x) := by
  obtain ⟨k, rfl⟩ := h
  by_cases hi : i < v.length
  · rw [getElem?_append_left hi]
  rw [getElem?_append_right (by omega), getElem?_eq_none (by omega : v.length ≤ i),
    getElem?_replicate]
  split <;> simp

variable {v v' : List (Option α)} {n : Nat} {x : α}

section

variable (h : Entered v n x v')

include h

lemma Entered.empty (y : α) : v[n]? ≠ some (some y) := by
  rcases h with ⟨hslot, -⟩ | ⟨rfl, -⟩
  · rw [hslot]
    simp
  · simp

lemma Entered.slot (i : Nat) (y : α) :
    v'[i]? = some (some y) ↔ v[i]? = some (some y) ∨ i = n ∧ y = x := by
  have hempty := h.empty y
  by_cases hi : i = n
  · subst hi
    rcases h with ⟨hslot, rfl⟩ | ⟨rfl, rfl⟩
    · rw [getElem?_set_self (List.getElem?_eq_some_iff.mp hslot).choose]
      simp [hempty, eq_comm]
    · simp [eq_comm]
  rcases h with ⟨hslot, rfl⟩ | ⟨rfl, rfl⟩
  · rw [getElem?_set_ne (Ne.symm hi)]
    simp [hi]
  by_cases hlt : i < v.length
  · rw [getElem?_append_left hlt]
    simp [hi]
  · rw [getElem?_eq_none (by simp; omega), getElem?_eq_none (by omega)]
    simp [hi]

lemma Entered.lt : n < v'.length := by
  rcases h with ⟨hslot, rfl⟩ | ⟨rfl, rfl⟩
  · rw [length_set]
    exact (List.getElem?_eq_some_iff.mp hslot).choose
  · simp

lemma Entered.length_le : v'.length ≤ v.length + 1 := by
  rcases h with ⟨-, rfl⟩ | ⟨-, rfl⟩
  · simp
  · simp

lemma Entered.undo : Padded v (v'.set n none) := by
  rcases h with ⟨hslot, rfl⟩ | ⟨rfl, rfl⟩
  · refine ⟨0, ?_⟩
    obtain ⟨hlt, hget⟩ := List.getElem?_eq_some_iff.mp hslot
    rw [set_set, replicate_zero, append_nil]
    conv_lhs => rw [← hget]
    exact set_getElem_self hlt
  · exact ⟨1, by simp⟩

end

def addCalls (arr : Arr α) : Nat := if arr.v.length < arr.max then 0 else 1

lemma arrayAdd_gives (h : arr.v.length < arr.max ∨ fails s.calls = false) (x : α) :
    ∃ m, (arrayAdd fails arr x).run s =
      .ok (some ⟨arr.v ++ [x], m⟩) { s with calls := s.calls + addCalls arr } := by
  have hrun : (arrayAdd fails arr x).run s = arrayAdd fails arr x s := rfl
  rw [hrun, arrayAdd, addCalls]
  by_cases hroom : arr.v.length < arr.max
  · exact ⟨_, by rw [if_pos hroom, if_pos hroom]; rfl⟩
  · have hgrow : fails s.calls = false := h.resolve_left hroom
    exact ⟨_, by rw [if_neg hroom, if_neg hroom, hgrow]; rfl⟩

lemma arrayAdd_fails (h : ¬ (arr.v.length < arr.max ∨ fails s.calls = false))
    (x : α) : (arrayAdd fails arr x).run s = .ok none s.tick := by
  obtain ⟨hroom, hgrow⟩ := not_or.mp h
  have hrun : (arrayAdd fails arr x).run s = arrayAdd fails arr x s := rfl
  rw [hrun, arrayAdd, if_neg hroom, if_pos (not_eq_false _ ▸ hgrow)]

end Arrays

lemma setSem_run (h : n < s.sems.v.length) (x : Option Addr) :
    (setSem n x).run s = .ok () { s with sems := ⟨s.sems.v.set n x, s.sems.max⟩ } := by
  rw [setSem, bind_run_ok (run_get s), bind_run_ok (kassert_pass h _ s)]
  rfl

lemma setDent_run (h : i < s.dents.v.length) (x : Option Addr) :
    (setDent i x).run s = .ok () { s with dents := ⟨s.dents.v.set i x, s.dents.max⟩ } := by
  rw [setDent, bind_run_ok (run_get s), bind_run_ok (kassert_pass h _ s)]
  rfl

section Insert

def CanInsert (fails : Nat → Bool) (sems : Arr (Option Addr)) (calls : Nat) : Prop :=
  sems.v.length ≠ SEMFS_ROOTDIR ∧
    (none ∈ sems.v ∨ sems.v.length < sems.max ∨ fails calls = false)

def insertCalls (sems : Arr (Option Addr)) : Nat := if none ∈ sems.v then 0 else addCalls sems

lemma semfsSemInsert_gives (h : CanInsert fails s.sems s.calls) (a : Addr) :
    ∃ n sems, (semfsSemInsert fails a).run s =
        .ok (0#32, n) { s with sems := sems, calls := s.calls + insertCalls s.sems } ∧
      Entered s.sems.v n a sems.v := by
  obtain ⟨hlength, hroom⟩ := h
  rw [semfsSemInsert, bind_run_ok (run_get s), if_neg hlength]
  cases hfind : s.sems.v.findIdx? (· = none) with
  | some i =>
    obtain ⟨hi, hslot, -⟩ := findIdx?_eq_some_iff_getElem.mp hfind
    have hslot : s.sems.v[i] = none := of_decide_eq_true hslot
    have hmem : none ∈ s.sems.v := hslot ▸ getElem_mem hi
    simp only
    rw [bind_run_ok (setSem_run hi _), insertCalls, if_pos hmem]
    exact ⟨i, _, rfl, .inl ⟨by rw [getElem?_eq_getElem hi, hslot], rfl⟩⟩
  | none =>
    have hmem : none ∉ s.sems.v := by
      intro hmem
      simpa using findIdx?_eq_none_iff.mp hfind none hmem
    obtain ⟨m, hadd⟩ := arrayAdd_gives (hroom.resolve_left hmem) (some a)
    simp only
    rw [bind_run_ok hadd, insertCalls, if_neg hmem]
    exact ⟨s.sems.v.length, ⟨s.sems.v ++ [some a], m⟩, rfl, .inr ⟨rfl, rfl⟩⟩

lemma semfsSemInsert_fails (h : ¬ CanInsert fails s.sems s.calls) (a : Addr) :
    ∃ result t, (semfsSemInsert fails a).run s = .ok (result, 0) t ∧ result ≠ 0#32 ∧
      (t = s ∨ t = s.tick) := by
  rw [semfsSemInsert, bind_run_ok (run_get s)]
  by_cases hlength : s.sems.v.length = SEMFS_ROOTDIR
  · rw [if_pos hlength]
    exact ⟨ENOSPC, s, rfl, by decide, .inl rfl⟩
  have hroom : ¬ (none ∈ s.sems.v ∨ s.sems.v.length < s.sems.max ∨ fails s.calls = false) :=
    fun hroom => h ⟨hlength, hroom⟩
  obtain ⟨hmem, hadd⟩ := not_or.mp hroom
  have hfind : s.sems.v.findIdx? (· = none) = none := by
    rw [findIdx?_eq_none_iff]
    intro x hx
    exact decide_eq_false fun heq => hmem (heq ▸ hx)
  rw [if_neg hlength, hfind]
  simp only
  rw [bind_run_ok (arrayAdd_fails hadd (some a))]
  exact ⟨ENOMEM, s.tick, rfl, by decide, .inr rfl⟩

end Insert

section Loops

def Fs.DentAt (s : Fs) (a : Addr) (d : Direntry) (text : Path) : Prop :=
  s.heap a = some (.dent d) ∧ s.heap d.name = some (.name text)

variable {dents : List (Option Addr)}

lemma creatLoop_run (name : Path) (num : Nat)
    (hlive : ∀ a, some a ∈ dents → ∃ d text, s.DentAt a d text) :
    ∀ i empty, ∃ r, (creatLoop name num dents i empty).run s = .ok r s ∧
      ((∃ d a, r.1 = some d ∧ some a ∈ dents ∧ s.DentAt a d name) ∨
        r.1 = none ∧ (∀ a d, some a ∈ dents → ¬ s.DentAt a d name) ∧
          (r.2 = empty ∧ (none ∈ dents → empty ≠ num) ∨
            ∃ j, dents[j]? = some none ∧ r.2 = i + j)) := by
  induction dents with
  | nil =>
    intro i empty
    exact ⟨_, rfl, .inr ⟨rfl, by simp, .inl ⟨rfl, by simp⟩⟩⟩
  | cons slot dents ih =>
    intro i empty
    have hrest := ih fun a ha => hlive a (mem_cons_of_mem _ ha)
    cases slot with
    | none =>
      obtain ⟨r, hrun, hr⟩ := hrest (i + 1) (if empty = num then i else empty)
      refine ⟨r, hrun, ?_⟩
      rcases hr with ⟨d, a, hd, ha, hat⟩ | ⟨hd, hno, hslot⟩
      · exact .inl ⟨d, a, hd, mem_cons_of_mem _ ha, hat⟩
      refine .inr ⟨hd, fun a d ha => hno a d (by simpa using ha), ?_⟩
      rcases hslot with ⟨hsame, -⟩ | ⟨j, hj, hr⟩
      · by_cases hempty : empty = num
        · rw [if_pos hempty] at hsame
          exact .inr ⟨0, rfl, hsame⟩
        · rw [if_neg hempty] at hsame
          exact .inl ⟨hsame, fun _ => hempty⟩
      · exact .inr ⟨j + 1, hj, by omega⟩
    | some a =>
      obtain ⟨d, text, hd, htext⟩ := hlive a (mem_cons_self ..)
      rw [creatLoop, bind_run_ok (load_dent hd), bind_run_ok (load_name htext)]
      by_cases hname : text = name
      · rw [if_pos hname]
        exact ⟨_, rfl, .inl ⟨d, a, rfl, mem_cons_self .., hd, hname ▸ htext⟩⟩
      rw [if_neg hname]
      obtain ⟨r, hrun, hr⟩ := hrest (i + 1) empty
      refine ⟨r, hrun, ?_⟩
      rcases hr with ⟨e, b, he, hb, hat⟩ | ⟨he, hno, hslot⟩
      · exact .inl ⟨e, b, he, mem_cons_of_mem _ hb, hat⟩
      refine .inr ⟨he, ?_, ?_⟩
      · rintro b e hb ⟨hbe, hbname⟩
        rcases mem_cons.mp hb with heq | hb
        · cases heq
          rw [hd] at hbe
          cases hbe
          rw [htext] at hbname
          cases hbname
          exact hname rfl
        · exact hno b e hb ⟨hbe, hbname⟩
      rcases hslot with ⟨hsame, hnone⟩ | ⟨j, hj, hr⟩
      · exact .inl ⟨hsame, fun hmem => hnone (by simpa using hmem)⟩
      · exact .inr ⟨j + 1, hj, by omega⟩

lemma findDent_run (name : Path) (hlive : ∀ a, some a ∈ dents → ∃ d text, s.DentAt a d text) :
    ∀ i, ∃ r, (findDent name dents i).run s = .ok r s ∧
      ((∃ j a d, r = some (i + j, a, d) ∧ dents[j]? = some (some a) ∧ s.DentAt a d name) ∨
        r = none ∧ ∀ a d, some a ∈ dents → ¬ s.DentAt a d name) := by
  induction dents with
  | nil =>
    intro i
    exact ⟨_, rfl, .inr ⟨rfl, by simp⟩⟩
  | cons slot dents ih =>
    intro i
    obtain ⟨r, hrun, hr⟩ := ih (fun a ha => hlive a (mem_cons_of_mem _ ha)) (i + 1)
    have hlater : (∃ j a d, r = some (i + 1 + j, a, d) ∧ dents[j]? = some (some a) ∧
        s.DentAt a d name) → ∃ j a d, r = some (i + j, a, d) ∧
        (slot :: dents)[j]? = some (some a) ∧ s.DentAt a d name := by
      rintro ⟨j, a, d, hr, hslot, hat⟩
      exact ⟨j + 1, a, d, by rw [hr, Nat.add_assoc, Nat.add_comm 1], hslot, hat⟩
    cases slot with
    | none =>
      refine ⟨r, hrun, ?_⟩
      rcases hr with hfound | ⟨hnone, hno⟩
      · exact .inl (hlater hfound)
      · exact .inr ⟨hnone, fun a d ha => hno a d (by simpa using ha)⟩
    | some a =>
      obtain ⟨d, text, hd, htext⟩ := hlive a (mem_cons_self ..)
      rw [findDent, bind_run_ok (load_dent hd), bind_run_ok (load_name htext)]
      by_cases hname : text = name
      · rw [if_pos hname]
        exact ⟨_, rfl, .inl ⟨0, a, d, rfl, rfl, hd, hname ▸ htext⟩⟩
      rw [if_neg hname]
      refine ⟨r, hrun, ?_⟩
      rcases hr with hfound | ⟨hnone, hno⟩
      · exact .inl (hlater hfound)
      refine .inr ⟨hnone, ?_⟩
      rintro b e hb ⟨hbe, hbname⟩
      rcases mem_cons.mp hb with heq | hb
      · cases heq
        rw [hd] at hbe
        cases hbe
        rw [htext] at hbname
        cases hbname
        exact hname rfl
      · exact hno b e hb ⟨hbe, hbname⟩

lemma findVnode_run (n : Nat) (hlive : ∀ vn ∈ vns, ∃ v, s.heap vn = some (.vnode v)) :
    ∃ r, (findVnode n vns).run s = .ok r s ∧
      ((∃ vn v, r = some vn ∧ vn ∈ vns ∧ s.heap vn = some (.vnode v) ∧ v.semnum = n) ∨
        r = none ∧ ∀ vn ∈ vns, ∀ v, s.heap vn = some (.vnode v) → v.semnum ≠ n) := by
  induction vns with
  | nil => exact ⟨_, rfl, .inr ⟨rfl, by simp⟩⟩
  | cons vn vns ih =>
    obtain ⟨v, hv⟩ := hlive vn (mem_cons_self ..)
    rw [findVnode, bind_run_ok (load_vnode hv)]
    by_cases hnum : v.semnum = n
    · rw [if_pos hnum]
      exact ⟨_, rfl, .inl ⟨vn, v, rfl, mem_cons_self .., hv, hnum⟩⟩
    rw [if_neg hnum]
    obtain ⟨r, hrun, hr⟩ := ih fun wn hwn => hlive wn (mem_cons_of_mem _ hwn)
    refine ⟨r, hrun, ?_⟩
    rcases hr with ⟨wn, w, hr, hwn, hw, hwnum⟩ | ⟨hr, hno⟩
    · exact .inl ⟨wn, w, hr, mem_cons_of_mem _ hwn, hw, hwnum⟩
    refine .inr ⟨hr, fun wn hwn w hw => ?_⟩
    rcases mem_cons.mp hwn with rfl | hwn
    · rw [hv] at hw
      cases hw
      exact hnum
    · exact hno wn hwn w hw

end Loops

section Getvnode

def Fs.withVnode (s : Fs) (n : Nat) (a : Addr) (x : Sem) (m c : Nat) : Fs where
  heap := update (update s.heap s.next (some (.vnode ⟨n, 1⟩))) a
    (some (.sem { x with hasvnode := true }))
  next := s.next + 1
  calls := c
  vnodes := ⟨s.vnodes.v ++ [s.next], m⟩
  sems := s.sems
  dents := s.dents

lemma vnodeIncref_run (hv : s.heap a = some (.vnode v)) :
    (vnodeIncref a).run s = .ok () (s.put a (.vnode { v with refcount := v.refcount + 1 })) := by
  rw [vnodeIncref, bind_run_ok (load_vnode hv)]
  rfl

-- There is no memory for a vnode, or none for a longer table of vnodes that is needed.
def NoVnode (fails : Nat → Bool) (vnodes : Arr Addr) (calls : Nat) : Prop :=
  fails calls = true ∨ ¬ vnodes.v.length < vnodes.max ∧ fails (calls + 1) = true

lemma semfsGetvnode_run (hs : s.Fresh)
    (hlive : ∀ vn ∈ s.vnodes.v, ∃ v, s.heap vn = some (.vnode v))
    (hroot : n ≠ SEMFS_ROOTDIR) (hslot : s.sems.v[n]? = some (some a))
    (hx : s.heap a = some (.sem x))
    (hhas : x.hasvnode = true →
      ∃ vn ∈ s.vnodes.v, ∃ v, s.heap vn = some (.vnode v) ∧ v.semnum = n) :
    (∃ vn v, (semfsGetvnode fails n).run s =
        .ok (0#32, some vn) (s.put vn (.vnode { v with refcount := v.refcount + 1 })) ∧
      vn ∈ s.vnodes.v ∧ s.heap vn = some (.vnode v) ∧ v.semnum = n) ∨
    (∀ vn ∈ s.vnodes.v, ∀ v, s.heap vn = some (.vnode v) → v.semnum ≠ n) ∧ x.hasvnode = false ∧
      ((NoVnode fails s.vnodes s.calls ∧
          ∃ t, (semfsGetvnode fails n).run s = .ok (ENOMEM, none) t ∧ Kept s t) ∨
        ¬ NoVnode fails s.vnodes s.calls ∧ ∃ m c,
          (semfsGetvnode fails n).run s = .ok (0#32, some s.next) (s.withVnode n a x m c)) := by
  obtain ⟨r, hfind, hr⟩ := findVnode_run n hlive
  rw [semfsGetvnode, bind_run_ok (run_get s), bind_run_ok hfind]
  rcases hr with ⟨vn, v, rfl, hvn, hv, hnum⟩ | ⟨rfl, hno⟩
  · simp only
    rw [bind_run_ok (vnodeIncref_run hv)]
    exact .inl ⟨vn, v, rfl, hvn, hv, hnum⟩
  have hnot : x.hasvnode = false := by
    rw [eq_false_iff]
    intro hyes
    obtain ⟨vn, hvn, v, hv, hnum⟩ := hhas hyes
    exact hno vn hvn v hv hnum
  refine .inr ⟨hno, hnot, ?_⟩
  simp only
  by_cases hfail : fails s.calls = true
  · rw [bind_run_ok (kmalloc_fails hfail _)]
    exact .inl ⟨.inl hfail, _, rfl, rfl, rfl, rfl, rfl, Nat.le_refl _⟩
  rw [bind_run_ok (kmalloc_gives (eq_false_iff.mpr hfail) _)]
  simp only
  let s1 := s.alloc (.vnode ⟨n, 1⟩)
  by_cases hadd : s.vnodes.v.length < s.vnodes.max ∨ fails s1.calls = false
  · obtain ⟨m, hrun⟩ := arrayAdd_gives hadd s.next
    rw [bind_run_ok hrun]
    simp only
    refine .inr ⟨?_, m, s1.calls + addCalls s.vnodes, ?_⟩
    · rintro (hno | ⟨hfull, hno⟩)
      · exact hfail hno
      · exact absurd hno (eq_false_iff.mp (hadd.resolve_left hfull))
    let s2 : Fs := { s1 with
      calls := s1.calls + addCalls s.vnodes, vnodes := ⟨s.vnodes.v ++ [s.next], m⟩ }
    have hmod : (modify fun s3 : Fs => { s3 with vnodes := ⟨s.vnodes.v ++ [s.next], m⟩ } :
        Action Unit).run { s1 with calls := s1.calls + addCalls s.vnodes } = .ok () s2 := rfl
    have hne : a ≠ s.next := by
      intro heq
      rw [heq, hs _ (Nat.le_refl _)] at hx
      cases hx
    have hx2 : s2.heap a = some (.sem x) := by
      rw [show s2.heap = update s.heap s.next (some (.vnode ⟨n, 1⟩)) from rfl, update_of_ne hne, hx]
    have hget : (arrayGet s2.sems n).run s2 = .ok (some a) s2 := by
      rw [arrayGet, show s2.sems.v[n]? = some (some a) from hslot]
      rfl
    have hmark : (markVnode n).run s2 =
        .ok () (s2.put a (.sem { x with hasvnode := true })) := by
      rw [markVnode, if_pos hroot, bind_run_ok (run_get s2), bind_run_ok hget]
      simp only
      rw [bind_run_ok (load_sem hx2), bind_run_ok (kassert_pass hnot _ s2)]
      rfl
    rw [bind_run_ok hmod, bind_run_ok hmark]
    rfl
  rw [bind_run_ok (arrayAdd_fails hadd s.next)]
  simp only
  have hvn : s1.tick.heap s.next = some (.vnode ⟨n, 1⟩) := by
    rw [tick_heap, alloc_heap, update_self]
  have hdestroy : (semfsVnodeDestroy s.next).run s1.tick = .ok () (s1.tick.free s.next) := by
    rw [semfsVnodeDestroy, bind_run_ok (load_vnode hvn), bind_run_ok (kassert_pass rfl _ _),
      kfree_run hvn]
  rw [bind_run_ok hdestroy]
  have hfull : ¬ s.vnodes.v.length < s.vnodes.max ∧ fails (s.calls + 1) = true :=
    ⟨fun hroom => hadd (.inl hroom), eq_true_of_ne_false fun hno => hadd (.inr hno)⟩
  exact .inl ⟨.inr hfull, _, rfl, free_alloc hs _, rfl, rfl, rfl, Nat.le_succ _⟩

end Getvnode

end Os161.Semfs
