import Os161.Semfs.Dir.Sound

-- semfs_creat: what it returns and what it leaves, for every pattern of allocation failures.

namespace Os161.Semfs

open Padded

open Function Lib.Exec List Nat
open Vfs (Path)
open Vm (Word ENOMEM)

variable {s t : Fs} {fails : Nat → Bool} {name : Path} {excl : Bool}

def Fs.NamedVnode (s : Fs) (name : Path) (vn : Addr) : Prop :=
  ∃ v i a d b x, vn ∈ s.vnodes.v ∧ s.heap vn = some (.vnode v) ∧
    s.DentSlot i a ∧ s.DentAt a d name ∧ d.semnum = v.semnum ∧ s.SemAt v.semnum b x ∧
    x.linked = true

structure Undone (s t : Fs) : Prop where
  heap : t.heap = s.heap
  vnodes : t.vnodes = s.vnodes
  sems : Padded s.sems.v t.sems.v
  dents : t.dents.v = s.dents.v

def CreatOutcome (fails : Nat → Bool) (name : Path) (excl : Bool) (s : Fs) : Prop :=
  ∃ result vn t, (semfsCreat fails name excl).run s = .ok (result, vn) t ∧
    (result = 0#32 ∧ (∃ v, vn = some v ∧ t.NamedVnode name v) ∨ result ≠ 0#32 ∧ Undone s t)

def EntryFails (fails : Nat → Bool) (s : Fs) : Prop :=
  (∀ k < 3, fails (s.calls + k) = false) ∧ CanInsert fails s.sems (s.calls + 3) ∧
    ∃ k < 2, fails (s.calls + 3 + insertCalls s.sems + k) = true

-- The directory has no empty slot and gets one, and then there is no vnode: the slot stays, as a
-- NULL entry.
def SlotStays (fails : Nat → Bool) (s : Fs) (calls : Nat) : Prop :=
  none ∉ s.dents.v ∧ (s.dents.v.length < s.dents.max ∨ fails calls = false) ∧
    NoVnode fails s.vnodes (calls + addCalls s.dents)

def EntryStays (fails : Nat → Bool) (s : Fs) : Prop :=
  (∀ k < 3, fails (s.calls + k) = false) ∧ CanInsert fails s.sems (s.calls + 3) ∧
    (∀ k < 2, fails (s.calls + 3 + insertCalls s.sems + k) = false) ∧
    SlotStays fails s (s.calls + 3 + insertCalls s.sems + 2)

def DirentryFails (fails : Nat → Bool) (name : Path) (s : Fs) : Prop :=
  ¬ (name = ['.'] ∨ name = ['.', '.']) ∧ (∀ i a d, s.DentSlot i a → ¬ s.DentAt a d name) ∧
    EntryFails fails s

def VnodeFails (fails : Nat → Bool) (name : Path) (s : Fs) : Prop :=
  ¬ (name = ['.'] ∨ name = ['.', '.']) ∧ (∀ i a d, s.DentSlot i a → ¬ s.DentAt a d name) ∧
    EntryStays fails s

lemma Tables.counters (ht : Tables s) (n c : Nat) : Tables { s with next := n, calls := c } :=
  ht.agree (fun _ _ _ => rfl) (fun _ _ _ _ _ => ⟨rfl, rfl⟩) (fun _ _ => rfl) n c

lemma Undone.sound_padded (h : Undone s { t with dents := s.dents }) (hs : Sound s)
    (hdents : Padded s.dents.v t.dents.v) (hnext : s.next ≤ t.next)
    (hfew : t.sems.v.length ≤ SEMFS_ROOTDIR) : Sound t := by
  have hheap : t.heap = s.heap := h.heap
  have hvnodes : t.vnodes = s.vnodes := h.vnodes
  have hsem : ∀ i a, t.SemSlot i a ↔ s.SemSlot i a := h.sems.slot
  have hdent : ∀ i a, t.DentSlot i a ↔ s.DentSlot i a := hdents.slot
  have hat : ∀ i a x, t.SemAt i a x ↔ s.SemAt i a x := by
    intro i a x
    rw [Fs.SemAt, Fs.SemAt, hsem, hheap]
  refine ⟨?_, hheap ▸ hs.sorted, ?_⟩
  · intro a ha
    rw [hheap]
    exact hs.fresh a (Nat.le_trans hnext ha)
  refine ⟨?_, ?_, ?_, hfew, ?_, ?_, ?_, ?_, ?_⟩ <;>
    simp only [hsem, hdent, hat, hheap, hvnodes]
  · exact hs.tables.sem
  · exact hs.tables.semVnode
  · exact hs.tables.semApart
  · exact hs.tables.dent
  · exact hs.tables.dentApart
  · exact hs.tables.vnode
  · exact hs.tables.vnodeApart
  · exact hs.tables.nodup

lemma Undone.sound (h : Undone s t) (hs : Sound s) (hnext : s.next ≤ t.next)
    (hfew : t.sems.v.length ≤ SEMFS_ROOTDIR) : Sound t :=
  sound_padded ⟨h.heap, h.vnodes, h.sems, rfl⟩ hs (h.dents ▸ refl _) hnext hfew

lemma Kept.undone (h : Kept s t) : Undone s t :=
  ⟨h.heap, h.vnodes, h.sems ▸ refl _, h.dents ▸ rfl⟩

section Live

lemma Sound.dentLive (hs : Sound s) : ∀ a, some a ∈ s.dents.v → ∃ d text, s.DentAt a d text := by
  intro a ha
  obtain ⟨i, hi⟩ := mem_iff_getElem?.mp ha
  obtain ⟨d, hd, -⟩ := hs.tables.dent i a hi
  obtain ⟨text, htext⟩ := hs.sorted.name a d hd
  exact ⟨d, text, hd, htext⟩

lemma Sound.vnodeLive (hs : Sound s) : ∀ vn ∈ s.vnodes.v, ∃ v, s.heap vn = some (.vnode v) := by
  intro vn hvn
  obtain ⟨v, hv, -⟩ := hs.tables.vnode vn hvn
  exact ⟨v, hv⟩

lemma Sound.slot_ne_root (hs : Sound s) (hslot : s.SemSlot n a) : n ≠ SEMFS_ROOTDIR :=
  Nat.ne_of_lt (Nat.lt_of_lt_of_le (List.getElem?_eq_some_iff.mp hslot).choose hs.tables.few)

end Live

section Getvnode

lemma Sound.incref (hs : Sound s) (hv : s.heap vn = some (.vnode v)) (c : Nat)
    (hc : 0 < c) : Sound (s.put vn (.vnode { v with refcount := c })) := by
  refine ⟨?_, hs.sorted.putVnode _ (.inr ⟨v, hv⟩), hs.tables.putRefcount hs.sorted hv rfl hc⟩
  intro a ha
  have hne : a ≠ vn := by
    rintro rfl
    rw [hs.fresh a ha] at hv
    cases hv
  rw [Fs.put_heap, update_of_ne hne]
  exact hs.fresh a ha

lemma Sound.withVnode (hs : Sound s) (hx : s.SemAt n a x)
    (hhas : x.hasvnode = false) : Sound (s.withVnode n a x m c) := by
  have hnone : s.heap s.next = none := hs.fresh _ (Nat.le_refl _)
  have hne : a ≠ s.next := by
    intro heq
    have hsem := hx.2
    rw [heq, hnone] at hsem
    cases hsem
  have hsem : (update s.heap s.next (some (.vnode ⟨n, 1⟩))) a = some (.sem x) := by
    rw [update_of_ne hne, hx.2]
  refine ⟨?_, (hs.sorted.putVnode _ (.inl hnone)).putSem hsem rfl rfl, ?_⟩
  · intro b hb
    have hlt : s.next < b := hb
    have hba : b ≠ a := by
      rintro rfl
      have hold := hx.2
      rw [hs.fresh b (Nat.le_of_lt hlt)] at hold
      cases hold
    dsimp only [Fs.withVnode]
    rw [update_of_ne hba, update_of_ne (Nat.ne_of_gt hlt)]
    exact hs.fresh b (Nat.le_of_lt hlt)
  · have ht := hs.tables.newVnode hs.sorted (m := m) hx hhas hnone (hs.slot_ne_root hx.1)
    exact ht.counters (s.next + 1) c

lemma withVnode_old (hs : s.Fresh) (hb : s.heap b = some o) (hne : b ≠ a) :
    (s.withVnode n a x m c).heap b = some o := by
  have hnext : b ≠ s.next := by
    rintro rfl
    rw [hs _ (Nat.le_refl _)] at hb
    cases hb
  exact (update_of_ne hne _ _).trans ((update_of_ne hnext _ _).trans hb)

lemma Sound.putLinked (hs : Sound s) (hx : s.SemAt n a x)
    (hnamed : linked = false →
      ∀ i b d, s.DentSlot i b → s.heap b = some (.dent d) → d.semnum ≠ n) :
    Sound (s.put a (.sem { x with linked := linked })) := by
  refine ⟨?_, hs.sorted.putSem hx.2 rfl rfl, hs.tables.putLinked hs.sorted hx rfl hnamed⟩
  intro b hb
  have hne : b ≠ a := by
    rintro rfl
    have hold := hx.2
    rw [hs.fresh b hb] at hold
    cases hold
  rw [Fs.put_heap, update_of_ne hne]
  exact hs.fresh b hb

end Getvnode

section Undo

variable {h : Heap} {a b : Addr} {x : Sem} {d : Direntry} {n : Nat}

lemma failUncreate_run (hnew : NewSem h a x) (hheap : s.heap = withSem h a x) (result : Word) :
    (failUncreate a result).run s = .ok (result, none) { s with heap := h } := by
  rw [failUncreate, bind_run_ok (semfsSemDestroy_run hnew hheap)]
  rfl

lemma failUninsert_run (hnew : NewSem h a x) (hheap : s.heap = withSem h a x)
    (hn : n < s.sems.v.length) (result : Word) :
    (failUninsert a n result).run s =
      .ok (result, none) { s with heap := h, sems := ⟨s.sems.v.set n none, s.sems.max⟩ } := by
  rw [failUninsert, bind_run_ok (setSem_run hn none)]
  let u : Fs := { s with sems := ⟨s.sems.v.set n none, s.sems.max⟩ }
  exact failUncreate_run (s := u) hnew hheap result

section

variable (hnew : NewSem h a x) (hdent : NewDent (withSem h a x) b d)
  (hheap : s.heap = withDent (withSem h a x) b d name) (hn : n < s.sems.v.length)

include hnew hdent hheap hn

lemma failUndent_run (result : Word) :
    (failUndent a n b result).run s =
      .ok (result, none) { s with heap := h, sems := ⟨s.sems.v.set n none, s.sems.max⟩ } := by
  rw [failUndent, bind_run_ok (semfsDirentryDestroy_run hdent hheap)]
  let u : Fs := { s with heap := withSem h a x }
  exact failUninsert_run (s := u) hnew rfl hn result

lemma failUndir_run (hi : i < s.dents.v.length) (result : Word) :
    (failUndir a n b i result).run s = .ok (result, none)
        { s with
          heap := h, sems := ⟨s.sems.v.set n none, s.sems.max⟩
          dents := ⟨s.dents.v.set i none, s.dents.max⟩ } := by
  rw [failUndir, bind_run_ok (setDent_run hi none)]
  let u : Fs := { s with dents := ⟨s.dents.v.set i none, s.dents.max⟩ }
  exact failUndent_run (s := u) hnew hdent hheap hn result

end

end Undo

section New

def Fs.inserted (s : Fs) (sems : Arr (Option Addr)) (c : Nat) : Fs :=
  { s.semCreated with sems := sems, calls := c }

def Fs.named (s : Fs) (sems : Arr (Option Addr)) (c : Nat) (name : Path) (n : Nat) : Fs :=
  (s.inserted sems c).dentCreated name n

variable {sems : Arr (Option Addr)} {n c : Nat}

lemma withSem_fresh (hs : s.Fresh) :
    ∀ b, s.next + 3 ≤ b → withSem s.heap s.next s.newSem b = none := by
  intro b hb
  have h2 : s.next + 2 < b := hb
  have h1 : s.next + 1 < b := lt_of_succ_lt h2
  have h0 : s.next < b := lt_of_succ_lt h1
  have hcv : b ≠ s.newSem.cv := Nat.ne_of_gt h2
  have hlock : b ≠ s.newSem.lock := Nat.ne_of_gt h1
  rw [withSem, update_of_ne hcv, update_of_ne hlock, update_of_ne (Nat.ne_of_gt h0)]
  exact hs b (Nat.le_of_lt h0)

variable {a : Addr}

lemma withSem_old (hs : s.Fresh) (ha : s.heap a = some o) :
    withSem s.heap s.next s.newSem a = some o := by
  have hnew := newSem_new hs
  have h0 : a ≠ s.next := by
    rintro rfl
    rw [hnew.sem] at ha
    cases ha
  have h1 : a ≠ s.newSem.lock := by
    rintro rfl
    rw [hnew.lock] at ha
    cases ha
  have h2 : a ≠ s.newSem.cv := by
    rintro rfl
    rw [hnew.cv] at ha
    cases ha
  rw [withSem, update_of_ne h2, update_of_ne h1, update_of_ne h0, ha]

lemma withSem_sem (hs : s.Fresh) :
    withSem s.heap s.next s.newSem s.next = some (.sem s.newSem) := by
  have hnew := newSem_new hs
  rw [withSem, update_of_ne hnew.sem_cv, update_of_ne hnew.sem_lock, update_self]

lemma Sound.grow (hs : Sound s) (hold : ∀ a o, s.heap a = some o → h a = some o)
    (hsorted : Sorted h) (hfresh : ∀ a, m ≤ a → h a = none) (c : Nat) :
    Sound { s with heap := h, next := m, calls := c } := by
  refine ⟨hfresh, hsorted, hs.tables.agree ?_ ?_ ?_ m c⟩
  · intro i a hslot
    obtain ⟨x, hx⟩ := hs.tables.sem i a hslot
    rw [hx, hold a _ hx]
  · intro i a d hslot hd
    obtain ⟨text, htext⟩ := hs.sorted.name a d hd
    exact ⟨by rw [hd, hold a _ hd], by rw [htext, hold _ _ htext]⟩
  intro vn hvn
  obtain ⟨v, hv⟩ := hs.vnodeLive vn hvn
  rw [hv, hold vn _ hv]

lemma inserted_sound (hs : Sound s) (hin : Entered s.sems.v n s.next sems.v)
    (hroom : s.sems.v.length ≠ SEMFS_ROOTDIR) : Sound (s.inserted sems c) := by
  have hcreated : Sound { s with
      heap := withSem s.heap s.next s.newSem, next := s.next + 3, calls := c } :=
    hs.grow (fun a o => withSem_old hs.fresh) (hs.sorted.withSem (newSem_new hs.fresh))
      (withSem_fresh hs.fresh) c
  refine ⟨hcreated.fresh, hcreated.sorted, ?_⟩
  have hfew := hs.tables.few
  have hlength := hin.length_le
  refine hcreated.tables.insertSem hin.slot (by omega) (withSem_sem hs.fresh) rfl ?_
  intro i hslot
  obtain ⟨x, hx⟩ := hs.tables.sem i s.next hslot
  rw [hs.fresh _ (Nat.le_refl _)] at hx
  cases hx

lemma inserted_newDent (hs : Sound s) : NewDent (withSem s.heap s.next s.newSem) (s.next + 3)
    ((s.inserted sems c).newDent n) where
  dent := withSem_fresh hs.fresh _ (Nat.le_refl _)
  name := withSem_fresh hs.fresh _ (le_succ _)
  apart := Nat.ne_of_lt (lt_succ_self _)

lemma named_old (hs : Sound s)
    (ha : withSem s.heap s.next s.newSem a = some o) :
    (s.named sems c name n).heap a = some o := by
  have hnew : NewDent (withSem s.heap s.next s.newSem) (s.next + 3)
      ((s.inserted sems c).newDent n) := inserted_newDent hs
  have h0 : a ≠ s.next + 3 := by
    rintro rfl
    rw [hnew.dent] at ha
    cases ha
  have h1 : a ≠ ((s.inserted sems c).newDent n).name := by
    rintro rfl
    rw [hnew.name] at ha
    cases ha
  rw [show (s.named sems c name n).heap = withDent (withSem s.heap s.next s.newSem) (s.next + 3)
    ((s.inserted sems c).newDent n) name from rfl, withDent, update_of_ne h1,
    update_of_ne h0, ha]

lemma named_dentAt (s : Fs) :
    (s.named sems c name n).DentAt (s.next + 3) ⟨s.next + 4, n⟩ name := by
  refine ⟨?_, update_self ..⟩
  exact (update_of_ne (Nat.ne_of_lt (lt_succ_self _)) _ _).trans (update_self ..)

section

variable (hs : Sound s) (hin : Entered s.sems.v n s.next sems.v)

include hs hin

lemma named_sound (hroom : s.sems.v.length ≠ SEMFS_ROOTDIR) : Sound (s.named sems c name n) := by
  have hinserted := inserted_sound (c := c) hs hin hroom
  refine hinserted.grow (fun a o ha => named_old hs ha)
    (hinserted.sorted.withDent (inserted_newDent hs)) ?_ (c + 2)
  intro a ha
  have h4 : s.next + 4 < a := ha
  have h3 : s.next + 3 < a := lt_of_succ_lt h4
  have hname : a ≠ ((s.inserted sems c).newDent n).name := Nat.ne_of_gt h4
  exact (update_of_ne hname _ _).trans ((update_of_ne (Nat.ne_of_gt h3) _ _).trans
      (withSem_fresh hs.fresh a (Nat.le_of_lt h3)))

lemma named_semAt :
    (s.named sems c name n).SemAt n s.next s.newSem :=
  ⟨(hin.slot n s.next).mpr (.inr ⟨rfl, rfl⟩), named_old hs (withSem_sem hs.fresh)⟩

lemma named_apart (hno : ∀ i a d, s.DentSlot i a → ¬ s.DentAt a d name) (hslot : s.DentSlot i a)
    (he : (s.named sems c name n).heap a = some (.dent e)) :
    n ≠ e.semnum ∧ (s.named sems c name n).heap (s.next + 4) ≠
      (s.named sems c name n).heap e.name := by
  obtain ⟨d, hd, b, x, hat, -⟩ := hs.tables.dent i a hslot
  have hsame : d = e := by
    rw [named_old hs (withSem_old hs.fresh hd)] at he
    cases he
    rfl
  subst hsame
  constructor
  · rintro rfl
    exact hin.empty b hat.1
  obtain ⟨text, htext⟩ := hs.sorted.name a d hd
  rw [(named_dentAt s).2, named_old hs (withSem_old hs.fresh htext)]
  intro heq
  cases heq
  exact hno i a d hslot ⟨hd, htext⟩

section

variable (hroom : s.sems.v.length ≠ SEMFS_ROOTDIR)
  (hno : ∀ i a d, s.DentSlot i a → ¬ s.DentAt a d name)

include hroom hno

lemma creatOpen_cases (hent : Entered s.dents.v k (s.next + 3) dents.v)
    (hu : u = { s.named sems c name n with dents := dents, calls := c' }) :
    (¬ NoVnode fails s.vnodes c' ∧
      ∃ vn t, (creatOpen fails s.next n (s.next + 3) k).run u = .ok (0#32, some vn) t ∧
        Sound t ∧ t.NamedVnode name vn) ∨
    NoVnode fails s.vnodes c' ∧
      ∃ t, (creatOpen fails s.next n (s.next + 3) k).run u = .ok (ENOMEM, none) t ∧
        Undone s { t with dents := s.dents } ∧ t.dents.v = dents.v.set k none ∧
        s.next ≤ t.next ∧ t.sems.v.length = sems.v.length := by
  have hnamed : Sound (s.named sems c name n) := named_sound hs hin hroom
  have hat : (s.named sems c name n).SemAt n s.next s.newSem := named_semAt hs hin
  have hold : ∀ vn ∈ s.vnodes.v, ∀ v, (s.named sems c name n).heap vn = some (.vnode v) →
      v.semnum ≠ n := by
    intro vn hvn v hv hnum
    obtain ⟨w, hw, -, hroot⟩ := hs.tables.vnode vn hvn
    have hsame : w = v := by
      rw [named_old hs (withSem_old hs.fresh hw)] at hv
      cases hv
      rfl
    subst hsame
    obtain ⟨b, x, hb, -⟩ := hroot (hnum ▸ hnamed.slot_ne_root hat.1)
    exact hin.empty b (hnum ▸ hb.1)
  have hdents : u.dents = dents := by rw [hu]
  have hfresh : u.Fresh := hu ▸ hnamed.fresh
  have hsem : u.heap s.next = some (.sem s.newSem) := hu ▸ hat.2
  rw [creatOpen]
  rcases semfsGetvnode_run hfresh (hu ▸ hnamed.vnodeLive) (hnamed.slot_ne_root hat.1)
    (hu ▸ hat.1) hsem (fun hhas => absurd hhas (by simp [Fs.newSem])) with
    ⟨vn, v, hrun, hvn, hv, hnum⟩ | ⟨-, -, ⟨hno', t, hrun, hkept⟩ | ⟨hgives, m, c'', hrun⟩⟩
  · exact absurd hnum (hold vn (by rw [hu] at hvn; exact hvn) v (by rw [hu] at hv; exact hv))
  · rw [bind_run_ok hrun]
    dsimp only
    have hheap : t.heap = withDent (withSem s.heap s.next s.newSem) (s.next + 3)
        ((s.inserted sems c).newDent n) name := hkept.heap.trans (hu ▸ rfl)
    have hsems : t.sems = sems := hkept.sems.trans (hu ▸ rfl)
    have htdents : t.dents = dents := hkept.dents.trans hdents
    have hvnodes : t.vnodes = s.vnodes := hkept.vnodes.trans (hu ▸ rfl)
    rw [if_pos (by decide), failUndir_run (newSem_new hs.fresh) (inserted_newDent hs) hheap
      (hsems ▸ hin.lt) (htdents ▸ hent.lt)]
    refine .inr ⟨by rw [hu] at hno'; exact hno', _, rfl, ⟨rfl, hvnodes, ?_, rfl⟩, ?_, ?_, ?_⟩
    · dsimp only
      rw [hsems]
      exact hin.undo
    · dsimp only
      rw [htdents]
    · have hnext : u.next = s.next + 5 := by rw [hu]; rfl
      have hle := hkept.next
      rw [hnext] at hle
      exact Nat.le_trans (Nat.le_add_right _ 5) hle
    · dsimp only
      rw [length_set, hsems]
  rw [bind_run_ok hrun]
  dsimp only
  let w := (s.named sems c name n).withVnode n s.next s.newSem m c''
  have hw : Sound w := hnamed.withVnode hat rfl
  have hwat : w.SemAt n s.next { s.newSem with hasvnode := true } :=
    ⟨hat.1, update_self ..⟩
  have hload : (u.withVnode n s.next s.newSem m c'').heap s.next =
      some (.sem { s.newSem with hasvnode := true }) := update_self ..
  rw [if_neg (by decide), bind_run_ok (load_sem hload), bind_run_ok (store_run ..)]
  let x : Sem := { s.newSem with hasvnode := true, linked := true }
  let w' := w.put s.next (.sem x)
  have hw' : Sound w' := hw.putLinked hwat (by simp)
  have hstate : (u.withVnode n s.next s.newSem m c'').put s.next (.sem x) =
      { w' with dents := dents } := by rw [hu]; rfl
  have hlive : ∀ b o, (s.named sems c name n).heap b = some o → (∀ y, o ≠ .sem y) →
      w'.heap b = some o := by
    intro b o hb ho
    have hne : b ≠ s.next := by
      rintro rfl
      rw [hat.2] at hb
      cases hb
      exact ho _ rfl
    exact (update_of_ne hne _ _).trans (withVnode_old hnamed.fresh hb hne)
  have hdent : w'.heap (s.next + 3) = some (.dent ⟨s.next + 4, n⟩) :=
    hlive _ _ (named_dentAt s).1 (by simp)
  have hname : w'.heap (s.next + 4) = some (.name name) :=
    hlive _ _ (named_dentAt s).2 (by simp)
  have hw'at : w'.SemAt n s.next x := ⟨hat.1, update_self ..⟩
  have hnew : ∀ i b e, w'.DentSlot i b → w'.heap b = some (.dent e) →
      n ≠ e.semnum ∧ w'.heap (s.next + 4) ≠ w'.heap e.name := by
    intro i b e hslot he
    obtain ⟨d, hd, -⟩ := hs.tables.dent i b hslot
    obtain ⟨text, htext⟩ := hs.sorted.name b d hd
    have hd' : (s.named sems c name n).heap b = some (.dent d) :=
      named_old hs (withSem_old hs.fresh hd)
    have htext' : (s.named sems c name n).heap d.name = some (.name text) :=
      named_old hs (withSem_old hs.fresh htext)
    have hsame : d = e := by
      rw [hlive b _ hd' (by simp)] at he
      cases he
      rfl
    subst hsame
    obtain ⟨hnum, hapart⟩ := named_apart hs hin hno hslot hd'
    rw [(named_dentAt s).2, htext'] at hapart
    exact ⟨hnum, by rw [hname, hlive _ _ htext' (by simp)]; exact hapart⟩
  have hsound : Sound { w' with dents := dents } :=
    ⟨hw'.fresh, hw'.sorted, hw'.tables.enterDent hent.slot hdent hw'at rfl hnew⟩
  refine .inl ⟨by rw [hu] at hgives; exact hgives, _, _, rfl, hstate ▸ hsound, ?_⟩
  have hnext : u.next = s.next + 5 := by rw [hu]; rfl
  rw [hstate, hnext]
  refine ⟨⟨n, 1⟩, k, s.next + 3, ⟨s.next + 4, n⟩, s.next, x, ?_, ?_,
    (hent.slot _ _).mpr (.inr ⟨rfl, rfl⟩), ⟨hdent, hname⟩, rfl, hw'at, rfl⟩
  · exact mem_append_right _ (mem_singleton_self _)
  have hne : s.next + 5 ≠ s.next := Nat.ne_of_gt (Nat.lt_add_of_pos_right (by decide))
  exact (update_of_ne hne _ _).trans ((update_of_ne hne _ _).trans (update_self ..))

lemma creatEnter_cases
    (hempty : empty = s.dents.v.length ∧ none ∉ s.dents.v ∨ s.dents.v[empty]? = some none) :
    (¬ SlotStays fails s (c + 2) ∧
      ∃ vn t, (creatEnter fails s.next n (s.next + 3) empty s.dents.v.length).run
        (s.named sems c name n) = .ok (0#32, some vn) t ∧ Sound t ∧ t.NamedVnode name vn) ∨
    ∃ t, (creatEnter fails s.next n (s.next + 3) empty s.dents.v.length).run
        (s.named sems c name n) = .ok (ENOMEM, none) t ∧
      Undone s { t with dents := s.dents } ∧ s.next ≤ t.next ∧
      t.sems.v.length = sems.v.length ∧
      (¬ SlotStays fails s (c + 2) ∧ t.dents.v = s.dents.v ∨
        SlotStays fails s (c + 2) ∧ t.dents.v = s.dents.v ++ [none]) := by
  rw [creatEnter]
  by_cases hlt : empty < s.dents.v.length
  · have hslot := hempty.resolve_left fun h => Nat.ne_of_lt hlt h.1
    have hnot : ¬ SlotStays fails s (c + 2) := fun h => h.1 (mem_iff_getElem?.mpr ⟨_, hslot⟩)
    let dents : Arr (Option Addr) := ⟨s.dents.v.set empty (some (s.next + 3)), s.dents.max⟩
    have hent : Entered s.dents.v empty (s.next + 3) dents.v := .inl ⟨hslot, rfl⟩
    rw [if_pos hlt, bind_run_ok (setDent_run (s := s.named sems c name n) hlt _)]
    rcases creatOpen_cases (u := { s.named sems c name n with dents := dents, calls := c + 2 })
      hs hin hroom hno hent rfl with
      ⟨-, hgives⟩ | ⟨-, t, hrun, hundone, hdents, hnext, hlength⟩
    · exact .inl ⟨hnot, hgives⟩
    refine .inr ⟨t, hrun, hundone, hnext, hlength, .inl ⟨hnot, hdents.trans ?_⟩⟩
    obtain ⟨hi, hget⟩ := List.getElem?_eq_some_iff.mp hslot
    rw [set_set, ← hget, set_getElem_self]
  obtain ⟨hend, hfull⟩ : empty = s.dents.v.length ∧ none ∉ s.dents.v := by
    rcases hempty with heq | hslot
    · exact heq
    · exact absurd (List.getElem?_eq_some_iff.mp hslot).choose hlt
  rw [if_neg hlt, bind_run_ok (EStateM.run_get _),
    show (s.named sems c name n).dents = s.dents from rfl]
  by_cases hadd : s.dents.v.length < s.dents.max ∨ fails (s.named sems c name n).calls = false
  · obtain ⟨m, hrun⟩ := arrayAdd_gives hadd (some (s.next + 3))
    let dents : Arr (Option Addr) := ⟨s.dents.v ++ [some (s.next + 3)], m⟩
    have hent : Entered s.dents.v s.dents.v.length (s.next + 3) dents.v := .inr ⟨rfl, rfl⟩
    rw [bind_run_ok hrun]
    rcases creatOpen_cases (u := { s.named sems c name n with
        dents := _, calls := c + 2 + addCalls s.dents }) hs hin hroom hno hent rfl with
      ⟨hvnode, hgives⟩ | ⟨hvnode, t, hrun, hundone, hdents, hnext, hlength⟩
    · exact .inl ⟨fun h => hvnode h.2.2, hgives⟩
    · refine .inr ⟨t, hrun, hundone, hnext, hlength, .inr ⟨⟨hfull, hadd, hvnode⟩, ?_⟩⟩
      simpa [dents] using hdents
  have hnot : ¬ SlotStays fails s (c + 2) := fun h => hadd h.2.1
  rw [bind_run_ok (arrayAdd_fails hadd (some (s.next + 3)))]
  dsimp only
  rw [failUndent_run (newSem_new hs.fresh) (inserted_newDent hs) rfl hin.lt]
  exact .inr ⟨_, rfl, ⟨rfl, rfl, hin.undo, rfl⟩, Nat.le_add_right _ 5, length_set,
    .inl ⟨hnot, rfl⟩⟩

end

end

lemma creatNew_cases (hs : Sound s) (hno : ∀ i a d, s.DentSlot i a → ¬ s.DentAt a d name)
    (hempty : empty = s.dents.v.length ∧ none ∉ s.dents.v ∨ s.dents.v[empty]? = some none) :
    ∃ result vn t, (creatNew fails name empty s.dents.v.length).run s = .ok (result, vn) t ∧
      Sound t ∧
      ((¬ (EntryFails fails s ∨ EntryStays fails s) ∧
          (result = 0#32 ∧ (∃ v, vn = some v ∧ t.NamedVnode name v) ∨
            result ≠ 0#32 ∧ Undone s t)) ∨
        (EntryFails fails s ∧ result = 0#32 ∧ vn = none) ∨
        (EntryStays fails s ∧ result ≠ 0#32 ∧ t.dents.v = s.dents.v ++ [none])) := by
  rw [creatNew]
  by_cases hsem : ∀ k < 3, fails (s.calls + k) = false
  swap
  · obtain ⟨t, hrun, hkept⟩ := semfsSemCreate_fails hs.fresh (by simpa using hsem)
    rw [bind_run_ok hrun]
    exact ⟨ENOMEM, none, t, rfl, hkept.undone.sound hs hkept.next (hkept.sems ▸ hs.tables.few),
      .inl ⟨fun hf => hsem (hf.elim And.left And.left), .inr ⟨by decide, hkept.undone⟩⟩⟩
  rw [bind_run_ok (semfsSemCreate_gives hsem)]
  dsimp only
  by_cases hcan : CanInsert fails s.sems (s.calls + 3)
  swap
  · obtain ⟨result, t, hrun, hresult, ht⟩ :=
      semfsSemInsert_fails (s := s.semCreated) hcan s.next
    have hheap : t.heap = withSem s.heap s.next s.newSem := by rcases ht with rfl | rfl <;> rfl
    have hundone : Undone s { t with heap := s.heap } := by
      rcases ht with rfl | rfl <;> exact ⟨rfl, rfl, refl _, rfl⟩
    have hnext : t.next = s.next + 3 := by rcases ht with rfl | rfl <;> rfl
    have hfew : t.sems = s.sems := by rcases ht with rfl | rfl <;> rfl
    rw [bind_run_ok hrun]
    dsimp only
    rw [if_pos (show result ≠ 0 from hresult), failUncreate_run (newSem_new hs.fresh) hheap]
    exact ⟨result, none, _, rfl,
      hundone.sound hs (hnext ▸ Nat.le_add_right _ 3) (hfew ▸ hs.tables.few),
      .inl ⟨fun hf => hcan (hf.elim (·.2.1) (·.2.1)), .inr ⟨hresult, hundone⟩⟩⟩
  obtain ⟨n, sems, hrun, hin⟩ := semfsSemInsert_gives (s := s.semCreated) hcan s.next
  have hfew : sems.v.length ≤ SEMFS_ROOTDIR := by
    have hle := hs.tables.few
    have hlength : sems.v.length ≤ s.sems.v.length + 1 := hin.length_le
    have hne := hcan.1
    omega
  let c := s.calls + 3 + insertCalls s.sems
  let u := s.inserted sems c
  have hinsert : (semfsSemInsert fails s.next).run s.semCreated = .ok (0#32, n) u := hrun
  rw [bind_run_ok hinsert]
  dsimp only
  rw [if_neg (by decide)]
  by_cases hdent : ∀ k < 2, fails (c + k) = false
  swap
  · have hfail : ∃ k < 2, fails (c + k) = true := by simpa using hdent
    obtain ⟨t, hcreate, hkept⟩ := semfsDirentryCreate_fails (s := u)
      (inserted_sound hs hin hcan.1).fresh hfail name n
    have hsems : t.sems = sems := hkept.sems
    have hundone : Undone s { t with heap := s.heap, sems := ⟨t.sems.v.set n none, t.sems.max⟩ } :=
      ⟨rfl, hkept.vnodes, by dsimp only; rw [hsems]; exact hin.undo,
        by dsimp only; rw [hkept.dents]; rfl⟩
    rw [bind_run_ok hcreate]
    dsimp only
    rw [failUninsert_run (newSem_new hs.fresh) hkept.heap (hsems ▸ hin.lt)]
    refine ⟨0#32, none, _, rfl, hundone.sound hs ?_ ?_, .inr (.inl ⟨⟨hsem, hcan, hfail⟩, rfl, rfl⟩)⟩
    · exact Nat.le_trans (Nat.le_add_right _ 3) hkept.next
    dsimp only
    rw [length_set, hsems]
    exact hfew
  have hnot : ¬ EntryFails fails s := by
    rintro ⟨-, -, k, hk, hfail⟩
    rw [hdent k hk] at hfail
    cases hfail
  rw [bind_run_ok (semfsDirentryCreate_gives (s := u) hdent name n)]
  dsimp only
  rcases creatEnter_cases hs hin hcan.1 hno hempty with
    ⟨hstays, vn, t, hrun, hsound, hnamed⟩ | ⟨t, hrun, hundone, hnext, hlength, hslots⟩
  · exact ⟨0#32, some vn, t, hrun, hsound,
      .inl ⟨fun h => h.elim hnot fun h => hstays h.2.2.2, .inl ⟨rfl, vn, rfl, hnamed⟩⟩⟩
  rcases hslots with ⟨hstays, hsame⟩ | ⟨hstays, hmore⟩
  · have hdone : Undone s t := ⟨hundone.heap, hundone.vnodes, hundone.sems, hsame⟩
    exact ⟨ENOMEM, none, t, hrun, hdone.sound hs hnext (hlength ▸ hfew),
      .inl ⟨fun h => h.elim hnot fun h => hstays h.2.2.2, .inr ⟨by decide, hdone⟩⟩⟩
  exact ⟨ENOMEM, none, t, hrun,
    hundone.sound_padded hs ⟨1, hmore⟩ hnext (hlength ▸ hfew),
    .inr (.inr ⟨⟨hsem, hcan, hdent, hstays⟩, by decide, hmore⟩)⟩

end New

lemma getNamed_cases (hs : Sound s) (hslot : s.DentSlot i a) (hat : s.DentAt a d name) :
    (∃ vn t, (semfsGetvnode fails d.semnum).run s = .ok (0#32, some vn) t ∧ Sound t ∧
      t.NamedVnode name vn ∧ t.dents = s.dents) ∨
    ∃ t, (semfsGetvnode fails d.semnum).run s = .ok (ENOMEM, none) t ∧ Kept s t := by
  obtain ⟨e, he, b, x, hsem, hlinked⟩ := hs.tables.dent i a hslot
  have hsame : e = d := by
    rw [hat.1] at he
    cases he
    rfl
  subst hsame
  rcases semfsGetvnode_run hs.fresh hs.vnodeLive (hs.slot_ne_root hsem.1) hsem.1 hsem.2
    (hs.tables.semVnode _ _ _ hsem) with
    ⟨vn, v, hrun, hvn, hv, hnum⟩ | ⟨-, hhas, ⟨-, t, hrun, hkept⟩ | ⟨-, m, c, hrun⟩⟩
  · let t := s.put vn (.vnode { v with refcount := v.refcount + 1 })
    have hother : ∀ b o, s.heap b = some o → (∀ w, o ≠ .vnode w) → t.heap b = some o := by
      intro b o hb ho
      have hne : b ≠ vn := by
        rintro rfl
        rw [hv] at hb
        cases hb
        exact ho v rfl
      exact (update_of_ne hne _ _).trans hb
    refine .inl ⟨vn, t, hrun, hs.incref hv _ (succ_pos _), ?_, rfl⟩
    exact ⟨_, i, a, e, b, x, hvn, update_self .., hslot,
      ⟨hother _ _ hat.1 (by simp), hother _ _ hat.2 (by simp)⟩, hnum.symm,
      hnum ▸ ⟨hsem.1, hother _ _ hsem.2 (by simp)⟩, hlinked⟩
  · exact .inr ⟨t, hrun, hkept⟩
  let t := s.withVnode e.semnum b x m c
  have hne : ∀ c' o, s.heap c' = some o → (∀ y, o ≠ .sem y) → t.heap c' = some o := by
    intro c' o hc ho
    refine withVnode_old hs.fresh hc ?_
    rintro rfl
    rw [hsem.2] at hc
    cases hc
    exact ho x rfl
  have hnext : s.next ≠ b := by
    rintro rfl
    have hnone := hs.fresh _ (Nat.le_refl s.next)
    rw [hsem.2] at hnone
    cases hnone
  refine .inl ⟨s.next, t, hrun, hs.withVnode hsem hhas, ?_, rfl⟩
  exact ⟨⟨e.semnum, 1⟩, i, a, e, b, { x with hasvnode := true },
    mem_append_right _ (mem_singleton_self _),
    (update_of_ne hnext _ _).trans (update_self ..), hslot,
    ⟨hne _ _ hat.1 (by simp), hne _ _ hat.2 (by simp)⟩, rfl,
    ⟨hsem.1, update_self ..⟩, hlinked⟩

lemma semfsCreat_cases (hs : Sound s) :
    ∃ result vn t, (semfsCreat fails name excl).run s = .ok (result, vn) t ∧ Sound t ∧
      ((¬ (DirentryFails fails name s ∨ VnodeFails fails name s) ∧
          (result = 0#32 ∧ (∃ v, vn = some v ∧ t.NamedVnode name v) ∨
            result ≠ 0#32 ∧ Undone s t)) ∨
        (DirentryFails fails name s ∧ result = 0#32 ∧ vn = none) ∨
        (VnodeFails fails name s ∧ result ≠ 0#32 ∧ t.dents.v = s.dents.v ++ [none])) := by
  have hself : Undone s s := ⟨rfl, rfl, refl _, rfl⟩
  rw [semfsCreat]
  by_cases hdot : name = ['.'] ∨ name = ['.', '.']
  · rw [if_pos hdot]
    exact ⟨EEXIST, none, s, rfl, hs, .inl ⟨fun hf => hf.elim (·.1 hdot) (·.1 hdot),
      .inr ⟨by decide, hself⟩⟩⟩
  obtain ⟨⟨found, empty⟩, hloop, hr⟩ :=
    creatLoop_run name s.dents.v.length hs.dentLive 0 s.dents.v.length
  rw [if_neg hdot, bind_run_ok (EStateM.run_get s)]
  dsimp only
  rw [bind_run_ok hloop]
  rcases hr with ⟨d, a, rfl, ha, hat⟩ | ⟨rfl, hno, hempty⟩
  · obtain ⟨i, hslot⟩ := mem_iff_getElem?.mp ha
    have hnot : ¬ (DirentryFails fails name s ∨ VnodeFails fails name s) := fun hf =>
      hf.elim (·.2.1 i a d hslot hat) (·.2.1 i a d hslot hat)
    dsimp only
    cases excl with
    | true => exact ⟨EEXIST, none, s, rfl, hs, .inl ⟨hnot, .inr ⟨by decide, hself⟩⟩⟩
    | false =>
      rw [if_neg (by decide)]
      rcases getNamed_cases hs hslot hat with
        ⟨vn, t, hrun, hsound, hnamed, -⟩ | ⟨t, hrun, hkept⟩
      · exact ⟨0#32, some vn, t, hrun, hsound, .inl ⟨hnot, .inl ⟨rfl, vn, rfl, hnamed⟩⟩⟩
      exact ⟨ENOMEM, none, t, hrun, hkept.undone.sound hs hkept.next (hkept.sems ▸ hs.tables.few),
        .inl ⟨hnot, .inr ⟨by decide, hkept.undone⟩⟩⟩
  have hno' : ∀ i a d, s.DentSlot i a → ¬ s.DentAt a d name := fun i a d hslot =>
    hno a d (mem_iff_getElem?.mpr ⟨i, hslot⟩)
  have hfails : DirentryFails fails name s ↔ EntryFails fails s :=
    ⟨fun hf => hf.2.2, fun hf => ⟨hdot, hno', hf⟩⟩
  have hstays : VnodeFails fails name s ↔ EntryStays fails s :=
    ⟨fun hf => hf.2.2, fun hf => ⟨hdot, hno', hf⟩⟩
  have hempty' : empty = s.dents.v.length ∧ none ∉ s.dents.v ∨ s.dents.v[empty]? = some none := by
    rcases hempty with ⟨heq, hfull⟩ | ⟨j, hj, heq⟩
    · exact .inl ⟨heq, fun hmem => hfull hmem rfl⟩
    · dsimp only at heq
      exact .inr (by rw [heq, Nat.zero_add, hj])
  rw [hfails, hstays]
  exact creatNew_cases hs hno' hempty'

lemma emptySemfs_sound : Sound emptySemfs := by
  refine ⟨fun _ _ => rfl, ?_, ?_⟩
  · constructor <;> simp [emptySemfs]
  · constructor <;> simp [emptySemfs, Fs.SemAt, Fs.SemSlot, Fs.DentSlot]

theorem creat_outcome_iff (hs : Sound s) (fails : Nat → Bool) (name : Path) (excl : Bool) :
    CreatOutcome fails name excl s ↔
      ¬ (DirentryFails fails name s ∨ VnodeFails fails name s) := by
  obtain ⟨result, vn, t, hrun, -, hcases⟩ := semfsCreat_cases hs
  constructor
  · rintro ⟨result', vn', t', hrun', houtcome⟩ hf
    rw [hrun] at hrun'
    cases hrun'
    rcases hcases with ⟨hnot, -⟩ | ⟨-, hresult, hvn⟩ | ⟨-, hresult, hmore⟩
    · exact hnot hf
    · rcases houtcome with ⟨-, v, hv, -⟩ | ⟨hne, -⟩
      · rw [hvn] at hv
        cases hv
      · exact hne hresult
    rcases houtcome with ⟨hzero, -⟩ | ⟨-, hundone⟩
    · exact hresult hzero
    · rw [hundone.dents] at hmore
      exact absurd (congrArg length hmore) (by simp)
  intro hnot
  rcases hcases with ⟨-, houtcome⟩ | ⟨hf, -⟩ | ⟨hf, -⟩
  · exact ⟨result, vn, t, hrun, houtcome⟩
  · exact absurd (.inl hf) hnot
  · exact absurd (.inr hf) hnot

-- With one semaphore there, the next one is created, or undone when its lock cannot be allocated.
theorem creat_outcome_second : ∃ s, (semfsCreat (fun _ => false) ['b'] false).run emptySemfs =
      .ok (0#32, some 5) s ∧ Sound s ∧ CreatOutcome (fun _ => false) ['a'] false s ∧
        CreatOutcome (fun n => n == s.calls + 1) ['a'] false s := by
  obtain ⟨result, vn, s, hrun, hs, -⟩ : ∃ result vn t,
      (semfsCreat (fun _ => false) ['b'] false).run emptySemfs = .ok (result, vn) t ∧ Sound t ∧ _ :=
    semfsCreat_cases emptySemfs_sound
  have hsame : result = 0#32 ∧ vn = some 5 := by
    have hfirst : ∃ t, (semfsCreat (fun _ => false) ['b'] false).run emptySemfs =
        .ok (0#32, some 5) t := ⟨_, rfl⟩
    obtain ⟨t, ht⟩ := hfirst
    rw [hrun] at ht
    cases ht
    exact ⟨rfl, rfl⟩
  refine ⟨s, hsame.1 ▸ hsame.2 ▸ hrun, hs, (creat_outcome_iff hs _ _ _).mpr ?_,
    (creat_outcome_iff hs _ _ _).mpr ?_⟩
  · rintro (⟨-, -, -, -, k, -, hfail⟩ | ⟨-, -, -, -, -, -, -, hfail | ⟨-, hfail⟩⟩)
    all_goals cases hfail
  have hlock : ¬ ∀ k < 3, (s.calls + k == s.calls + 1) = false := fun h => by simpa using h 1
  rintro (h | h)
  · exact hlock h.2.2.1
  · exact hlock h.2.2.1

theorem creat_noEntry : Sound emptySemfs ∧
    (∃ t, (semfsCreat (fun n => n == 4) ['a'] false).run emptySemfs = .ok (0#32, none) t) ∧
    ¬ CreatOutcome (fun n => n == 4) ['a'] false emptySemfs := by
  have hrun : ∃ t, (semfsCreat (fun n => n == 4) ['a'] false).run emptySemfs =
      .ok (0#32, none) t := ⟨_, rfl⟩
  refine ⟨emptySemfs_sound, hrun, ?_⟩
  rintro ⟨result, vn, t, hrun', houtcome⟩
  obtain ⟨t', hrun⟩ := hrun
  rw [hrun] at hrun'
  cases hrun'
  rcases houtcome with ⟨-, v, hv, -⟩ | ⟨hne, -⟩
  · cases hv
  · exact hne rfl

end Os161.Semfs
