import Os161.Semfs.Dir.Creat

-- semfs_remove, semfs_lookup and the closing of a vnode keep a state sound, and so does every
-- sequence of calls on a new semfs.

namespace Os161.Semfs

open Function Lib.Exec EStateM
open Vfs (Path ENOENT)
open Vm (Word EINVAL ENOMEM kassert kassert_pass)

variable {s : Fs} {h : Heap} {a : Addr} {fails : Nat → Bool} {name : Path}

section Drop

def withoutSem (h : Heap) (a : Addr) (x : Sem) : Heap :=
  update (update (update h a none) x.lock none) x.cv none

def withoutDent (h : Heap) (a : Addr) (d : Direntry) : Heap :=
  update (update h a none) d.name none

lemma withoutSem_new (hs : Sorted h) (hx : h a = some (.sem x)) :
    NewSem (withoutSem h a x) a x ∧ h = withSem (withoutSem h a x) a x := by
  have hlock := hs.lock a x hx
  have hcv := hs.cv a x hx
  refine ⟨⟨?_, ?_, ?_, by grind, by grind, by grind⟩, ?_⟩
  · simp [withoutSem, update_apply]
  · simp [withoutSem, update_apply]
  · simp [withoutSem]
  funext b
  simp only [withoutSem, withSem, update_apply]
  grind

lemma withoutDent_new (hd : h a = some (.dent d))
    (htext : h d.name = some (.name text)) :
    NewDent (withoutDent h a d) a d ∧ h = withDent (withoutDent h a d) a d text := by
  refine ⟨⟨?_, ?_, by grind⟩, ?_⟩
  · simp [withoutDent, update_apply]
  · simp [withoutDent]
  funext b
  simp only [withoutDent, withDent, update_apply]
  grind

lemma withoutSem_other (hs : Sorted h) (hx : h a = some (.sem x))
    (hb : h b = some o) (hne : b ≠ a) (hlock : o ≠ .lock) (hcv : o ≠ .cv) :
    withoutSem h a x b = h b := by
  have h1 : b ≠ x.lock := by
    rintro rfl
    rw [hs.lock a x hx] at hb
    cases hb
    exact hlock rfl
  have h2 : b ≠ x.cv := by
    rintro rfl
    rw [hs.cv a x hx] at hb
    cases hb
    exact hcv rfl
  rw [withoutSem, update_of_ne h2, update_of_ne h1, update_of_ne hne]

lemma withoutDent_other (hne : b ≠ a)
    (hname : b ≠ d.name) : withoutDent h a d b = h b := by
  rw [withoutDent, update_of_ne hname, update_of_ne hne]

lemma Sound.dropSem (hs : Sound s) (hx : s.SemAt n a x)
    (hhas : x.hasvnode = false)
    (hnamed : ∀ i b d, s.DentSlot i b → s.heap b = some (.dent d) → d.semnum ≠ n) :
    Sound { s with heap := withoutSem s.heap a x, sems := ⟨s.sems.v.set n none, s.sems.max⟩ } := by
  obtain ⟨hnew, hheap⟩ := withoutSem_new hs.sorted hx.2
  let sems : Arr (Option Addr) := ⟨s.sems.v.set n none, s.sems.max⟩
  have hslots : ∀ i b, sems.v[i]? = some (some b) ↔ s.SemSlot i b ∧ i ≠ n := by
    intro i b
    have hn := (List.getElem?_eq_some_iff.mp hx.1).choose
    simp only [sems, Fs.SemSlot]
    grind
  have hlength : sems.v.length ≤ SEMFS_ROOTDIR := by
    rw [show sems.v.length = s.sems.v.length from List.length_set]
    exact hs.tables.few
  have htables := hs.tables.dropSem hslots hlength hx hhas hnamed
  refine ⟨?_, Sorted.of_withSem hnew (hheap ▸ hs.sorted), htables.agree ?_ ?_ ?_ s.next s.calls⟩
  · intro b hb
    simp only [withoutSem, update_apply]
    have := hs.fresh b hb
    grind
  · intro i b hslot
    obtain ⟨hold, hne⟩ := (hslots i b).mp hslot
    obtain ⟨y, hy⟩ := hs.tables.sem i b hold
    refine withoutSem_other hs.sorted hx.2 hy ?_ (by simp) (by simp)
    rintro rfl
    exact hne (hs.tables.semApart i n b hold hx.1)
  · intro i b d hslot hd
    obtain ⟨text, htext⟩ := hs.sorted.name b d hd
    refine ⟨withoutSem_other hs.sorted hx.2 hd ?_ (by simp) (by simp),
      withoutSem_other hs.sorted hx.2 htext ?_ (by simp) (by simp)⟩
    · rintro rfl
      rw [hx.2] at hd
      cases hd
    rintro rfl
    rw [hx.2] at htext
    cases htext
  intro vn hvn
  obtain ⟨v, hv⟩ := hs.vnodeLive vn hvn
  refine withoutSem_other hs.sorted hx.2 hv ?_ (by simp) (by simp)
  rintro rfl
  rw [hx.2] at hv
  cases hv

lemma Sound.dropDent (hs : Sound s) (hd : s.heap a = some (.dent d))
    (hout : ∀ i, ¬ s.DentSlot i a) : Sound { s with heap := withoutDent s.heap a d } := by
  obtain ⟨text, htext⟩ := hs.sorted.name a d hd
  obtain ⟨hnew, hheap⟩ := withoutDent_new hd htext
  have hother : ∀ b o, s.heap b = some o → (∀ e, o ≠ .dent e) → (∀ text, o ≠ .name text) →
      withoutDent s.heap a d b = s.heap b := by
    intro b o hb hdent hname
    refine withoutDent_other ?_ ?_
    · rintro rfl
      rw [hd] at hb
      cases hb
      exact hdent d rfl
    rintro rfl
    rw [htext] at hb
    cases hb
    exact hname text rfl
  refine ⟨?_, Sorted.of_withDent hnew (hheap ▸ hs.sorted), hs.tables.agree ?_ ?_ ?_ s.next s.calls⟩
  · intro b hb
    simp only [withoutDent, update_apply]
    have := hs.fresh b hb
    grind
  · intro i b hslot
    obtain ⟨y, hy⟩ := hs.tables.sem i b hslot
    exact hother b _ hy (by simp) (by simp)
  · intro i b e hslot he
    obtain ⟨text', htext'⟩ := hs.sorted.name b e he
    have hne : b ≠ a := by
      rintro rfl
      exact hout i hslot
    refine ⟨withoutDent_other hne ?_, withoutDent_other ?_ ?_⟩
    · rintro rfl
      rw [htext] at he
      cases he
    · intro heq
      rw [heq, hd] at htext'
      cases htext'
    · exact fun heq => hne (hs.sorted.nameApart b a e d he hd heq)
  intro vn hvn
  obtain ⟨v, hv⟩ := hs.vnodeLive vn hvn
  exact hother vn _ hv (by simp) (by simp)

end Drop

section Remove

def Fs.unlinked (s : Fs) (n : Nat) (a : Addr) (x : Sem) : Fs :=
  let t := s.put a (.sem { x with linked := false })
  if x.hasvnode = false then
    { t with
      heap := withoutSem t.heap a { x with linked := false }
      sems := ⟨s.sems.v.set n none, s.sems.max⟩ }
  else t

variable {n : Nat} {x : Sem}

section

variable (hs : Sound s) (hx : s.SemAt n a x)

include hs hx

lemma removeSem_run (hlinked : x.linked = true) :
    (removeSem n).run s = .ok () (s.unlinked n a x) := by
  let t := s.put a (.sem { x with linked := false })
  have hget : (semfsGetsembynum n).run s = .ok (some a) s := by
    rw [semfsGetsembynum, bind_run_ok (run_get s), arrayGet, hx.1]
    rfl
  have hassert : (kassert x.linked "sem->sems_linked").run s = .ok () s := by
    rw [hlinked]
    rfl
  rw [removeSem, bind_run_ok hget, deref, bind_run_ok (run_pure ..),
    bind_run_ok (load_sem hx.2), bind_run_ok hassert, bind_run_ok (store_run ..), Fs.unlinked]
  by_cases hhas : x.hasvnode = false
  · have hsorted : Sorted t.heap := hs.sorted.putSem hx.2 rfl rfl
    have hat : t.heap a = some (.sem { x with linked := false }) := update_self ..
    obtain ⟨hnew, hheap⟩ := withoutSem_new hsorted hat
    have hn : n < t.sems.v.length := (List.getElem?_eq_some_iff.mp hx.1).choose
    rw [if_pos hhas, if_pos hhas, bind_run_ok (setSem_run hn none)]
    exact semfsSemDestroy_run hnew hheap
  · rw [if_neg hhas, if_neg hhas]
    rfl

lemma unlinked_sound
    (hnamed : ∀ i b d, s.DentSlot i b → s.heap b = some (.dent d) → d.semnum ≠ n) :
    Sound (s.unlinked n a x) := by
  have hput : Sound (s.put a (.sem { x with linked := false })) :=
    hs.putLinked hx fun _ => hnamed
  rw [Fs.unlinked]
  by_cases hhas : x.hasvnode = false
  · rw [if_pos hhas]
    refine hput.dropSem ⟨hx.1, update_self ..⟩ hhas ?_
    intro i b d hslot hd
    have hne : b ≠ a := by
      rintro rfl
      rw [Fs.put_heap, update_self] at hd
      cases hd
    rw [Fs.put_heap, update_of_ne hne] at hd
    exact hnamed i b d hslot hd
  · rw [if_neg hhas]
    exact hput

lemma unlinked_heap (hb : s.heap b = some o) (hsem : ∀ y, o ≠ .sem y) (hlock : o ≠ .lock)
    (hcv : o ≠ .cv) :
    (s.unlinked n a x).heap b = some o := by
  have hne : b ≠ a := by
    rintro rfl
    rw [hx.2] at hb
    cases hb
    exact hsem x rfl
  have hput : (s.put a (.sem { x with linked := false })).heap b = some o :=
    (update_of_ne hne _ _).trans hb
  rw [Fs.unlinked]
  by_cases hhas : x.hasvnode = false
  · rw [if_pos hhas]
    have hsorted : Sorted (s.put a (.sem { x with linked := false })).heap :=
      hs.sorted.putSem hx.2 rfl rfl
    exact (withoutSem_other hsorted (update_self ..) hput hne hlock hcv).trans hput
  · rw [if_neg hhas]
    exact hput

end

lemma semfsRemove_sound (hs : Sound s) :
    ∃ result t, (semfsRemove name).run s = .ok result t ∧ Sound t := by
  rw [semfsRemove]
  by_cases hdot : name = ['.'] ∨ name = ['.', '.']
  · rw [if_pos hdot]
    exact ⟨EINVAL, s, rfl, hs⟩
  obtain ⟨r, hfind, hr⟩ := findDent_run name hs.dentLive 0
  rw [if_neg hdot, bind_run_ok (run_get s), bind_run_ok hfind]
  rcases hr with ⟨i, a, d, rfl, hslot, hat⟩ | ⟨rfl, -⟩
  swap
  · exact ⟨ENOENT, s, rfl, hs⟩
  obtain ⟨e, he, b, x, hsem, hlinked⟩ := hs.tables.dent i a hslot
  have hsame : e = d := by
    rw [hat.1] at he
    cases he
    rfl
  subst hsame
  let dents : Arr (Option Addr) := ⟨s.dents.v.set i none, s.dents.max⟩
  let u : Fs := { s with dents := dents }
  have hslots : ∀ j c, u.DentSlot j c → s.DentSlot j c ∧ j ≠ i := by
    intro j c hj
    have hi := (List.getElem?_eq_some_iff.mp hslot).choose
    simp only [u, dents, Fs.DentSlot] at hj ⊢
    grind
  have hu : Sound u :=
    ⟨hs.fresh, hs.sorted, hs.tables.leaveDent fun j c hj => (hslots j c hj).1⟩
  have hnamed : ∀ j c d, u.DentSlot j c → u.heap c = some (.dent d) → d.semnum ≠ e.semnum := by
    intro j c d hj hd hnum
    obtain ⟨hold, hne⟩ := hslots j c hj
    exact hne (hs.tables.dentApart j i c a d e hold hslot hd hat.1 (.inl hnum))
  have hunlinked : Sound (u.unlinked e.semnum b x) := unlinked_sound hu hsem hnamed
  have hstate : u.unlinked e.semnum b x = { s.unlinked e.semnum b x with dents := dents } := by
    rw [Fs.unlinked, Fs.unlinked]
    split <;> rfl
  have hsdents : (s.unlinked e.semnum b x).dents = s.dents := by
    rw [Fs.unlinked]
    split <;> rfl
  have hi : i < (s.unlinked e.semnum b x).dents.v.length :=
    hsdents ▸ (List.getElem?_eq_some_iff.mp hslot).choose
  have hset := setDent_run hi none
  rw [hsdents, ← hstate] at hset
  have hd : (u.unlinked e.semnum b x).heap a = some (.dent e) :=
    unlinked_heap hu hsem hat.1 (by simp) (by simp) (by simp)
  have htext : (u.unlinked e.semnum b x).heap e.name = some (.name name) :=
    unlinked_heap hu hsem hat.2 (by simp) (by simp) (by simp)
  obtain ⟨hnew, hheap⟩ := withoutDent_new hd htext
  have hout : ∀ j, ¬ (u.unlinked e.semnum b x).DentSlot j a := by
    intro j hj
    rw [hstate] at hj
    obtain ⟨hold, hne⟩ := hslots j a hj
    exact hne (hs.tables.dentApart j i a a e e hold hslot hat.1 hat.1 (.inl rfl))
  dsimp only
  rw [bind_run_ok (removeSem_run hs hsem hlinked), Nat.zero_add, bind_run_ok hset,
    bind_run_ok (semfsDirentryDestroy_run hnew hheap)]
  exact ⟨0#32, _, rfl, hunlinked.dropDent hd hout⟩

end Remove

section Close

lemma Sound.dropVnode (hs : Sound s)
    (hv : s.heap vn = some (.vnode v)) (hout : vn ∉ s.vnodes.v) : Sound (s.free vn) := by
  have hother : ∀ b o, s.heap b = some o → (∀ w, o ≠ .vnode w) →
      (s.free vn).heap b = s.heap b := by
    intro b o hb ho
    refine update_of_ne ?_ _ _
    rintro rfl
    rw [hv] at hb
    cases hb
    exact ho v rfl
  refine ⟨?_, ?_, hs.tables.agree ?_ ?_ ?_ s.next s.calls⟩
  · intro b hb
    have := hs.fresh b hb
    rw [Fs.free_heap, update_apply]
    split
    · rfl
    · exact this
  · obtain ⟨hlock, hcv, hlockApart, hcvApart, hname, hnameApart⟩ := hs.sorted
    constructor <;> simp only [Fs.free_heap, update_apply] <;> grind
  · intro i b hslot
    obtain ⟨x, hx⟩ := hs.tables.sem i b hslot
    exact hother b _ hx (by simp)
  · intro i b d hslot hd
    obtain ⟨text, htext⟩ := hs.sorted.name b d hd
    exact ⟨hother b _ hd (by simp), hother _ _ htext (by simp)⟩
  intro wn hwn
  refine update_of_ne ?_ _ _
  rintro rfl
  exact hout hwn

lemma semfsVnodeDestroy_run (hv : s.heap vn = some (.vnode v))
    (hcount : v.refcount = 1) : (semfsVnodeDestroy vn).run s = .ok () (s.free vn) := by
  rw [semfsVnodeDestroy, bind_run_ok (load_vnode hv), bind_run_ok (kassert_pass hcount _ s),
    kfree_run hv]

lemma reclaimSem_sound (hs : Sound s) (hvn : vn ∈ s.vnodes.v)
    (hv : s.heap vn = some (.vnode v)) :
    ∃ t, (reclaimSem v.semnum).run
        { s with vnodes := ⟨s.vnodes.v.erase vn, s.vnodes.max⟩ } = .ok () t ∧ Sound t ∧
      t.heap vn = some (.vnode v) ∧ vn ∉ t.vnodes.v := by
  let u : Fs := { s with vnodes := ⟨s.vnodes.v.erase vn, s.vnodes.max⟩ }
  have hout : vn ∉ s.vnodes.v.erase vn := fun hmem =>
    (hs.tables.nodup.mem_erase_iff.mp hmem).1 rfl
  obtain ⟨w, hw, -, hsem⟩ := hs.tables.vnode vn hvn
  have hsame : w = v := by
    rw [hv] at hw
    cases hw
    rfl
  subst hsame
  rw [reclaimSem]
  by_cases hroot : w.semnum = SEMFS_ROOTDIR
  · rw [if_neg (not_not.mpr hroot)]
    exact ⟨u, rfl, ⟨hs.fresh, hs.sorted, hs.tables.leaveRoot hv hroot⟩, hv, hout⟩
  obtain ⟨b, x, hat, hhas⟩ := hsem hroot
  let y : Sem := { x with hasvnode := false }
  let t := u.put b (.sem y)
  have hget : (arrayGet u.sems w.semnum).run u = .ok (some b) u := by
    rw [arrayGet, hat.1]
    rfl
  have hassert : (kassert x.hasvnode "sem->sems_hasvnode").run u = .ok () u := by
    rw [hhas]
    rfl
  have hne : vn ≠ b := by
    rintro rfl
    rw [hat.2] at hv
    cases hv
  have ht : Sound t := by
    refine ⟨?_, hs.sorted.putSem hat.2 rfl rfl, hs.tables.leaveVnode hs.sorted hvn hv hat⟩
    intro c hc
    have hcb : c ≠ b := by
      rintro rfl
      have hold := hat.2
      rw [hs.fresh c hc] at hold
      cases hold
    exact (update_of_ne hcb _ _).trans (hs.fresh c hc)
  have hty : t.heap b = some (.sem y) := update_self ..
  have htv : t.heap vn = some (.vnode w) := (update_of_ne hne _ _).trans hv
  have hload : u.heap b = some (.sem x) := hat.2
  rw [if_pos hroot, bind_run_ok (run_get u), bind_run_ok hget, deref,
    bind_run_ok (run_pure ..), bind_run_ok (load_sem hload), bind_run_ok hassert,
    bind_run_ok (store_run ..)]
  by_cases hlinked : x.linked = false
  · have hn : w.semnum < t.sems.v.length := (List.getElem?_eq_some_iff.mp hat.1).choose
    obtain ⟨hnew, hheap⟩ := withoutSem_new ht.sorted hty
    rw [if_pos hlinked, bind_run_ok (setSem_run hn none)]
    refine ⟨_, semfsSemDestroy_run hnew hheap, ht.dropSem ⟨hat.1, hty⟩ rfl ?_, ?_, hout⟩
    · intro i c d hslot hd hnum
      obtain ⟨e, he, b', z, hz, hlinked'⟩ := ht.tables.dent i c hslot
      rw [hd] at he
      cases he
      rw [hnum] at hz
      have hslots := hz.1
      rw [Fs.SemSlot, show t.sems.v[w.semnum]? = some (some b) from hat.1] at hslots
      cases hslots
      have hzy := hz.2
      rw [hty] at hzy
      cases hzy
      rw [show y.linked = x.linked from rfl, hlinked] at hlinked'
      cases hlinked'
    · exact (withoutSem_other ht.sorted hty htv hne (by simp) (by simp)).trans htv
  · rw [if_neg hlinked]
    exact ⟨t, rfl, ht, htv, hout⟩

lemma vnodeDecref_sound (hs : Sound s) (hvn : vn ∈ s.vnodes.v) :
    ∃ t, (vnodeDecref vn).run s = .ok () t ∧ Sound t := by
  obtain ⟨v, hv, hcount, -⟩ := hs.tables.vnode vn hvn
  rw [vnodeDecref, bind_run_ok (load_vnode hv), bind_run_ok (kassert_pass hcount _ s)]
  by_cases hmany : 1 < v.refcount
  · rw [if_pos hmany]
    exact ⟨_, rfl, hs.incref hv _ (Nat.sub_pos_of_lt hmany)⟩
  obtain ⟨t, hrun, ht, htv, hout⟩ := reclaimSem_sound hs hvn hv
  have hone : v.refcount = 1 := by omega
  have hreclaim : (semfsReclaim vn).run s = .ok 0#32 (t.free vn) := by
    rw [semfsReclaim, bind_run_ok (load_vnode hv), if_neg hmany,
      bind_run_ok (run_modify ..), bind_run_ok hrun,
      bind_run_ok (semfsVnodeDestroy_run htv hone)]
    rfl
  rw [if_neg hmany, bind_run_ok hreclaim]
  exact ⟨_, rfl, ht.dropVnode htv hout⟩

end Close

lemma semfsLookup_sound (hs : Sound s) (hdir : dirvn ∈ s.vnodes.v) :
    ∃ result t, (semfsLookup fails dirvn name).run s = .ok result t ∧ Sound t := by
  rw [semfsLookup]
  by_cases hdot : name = ['.'] ∨ name = ['.', '.']
  · obtain ⟨v, hv⟩ := hs.vnodeLive dirvn hdir
    rw [if_pos hdot, bind_run_ok (vnodeIncref_run hv)]
    exact ⟨_, _, rfl, hs.incref hv _ (Nat.succ_pos _)⟩
  obtain ⟨r, hfind, hr⟩ := findDent_run name hs.dentLive 0
  rw [if_neg hdot, bind_run_ok (run_get s), bind_run_ok hfind]
  rcases hr with ⟨i, a, d, rfl, hslot, hat⟩ | ⟨rfl, -⟩
  · rcases getNamed_cases hs hslot hat with ⟨vn, t, hrun, hsound, -⟩ | ⟨t, hrun, hkept⟩
    · exact ⟨_, t, hrun, hsound⟩
    · exact ⟨_, t, hrun, hkept.undone.sound hs hkept.next (hkept.sems ▸ hs.tables.few)⟩
  · exact ⟨_, s, rfl, hs⟩

section Run

-- What is done to a semfs from outside. A vnode that is not in the table has been closed, and
-- nothing is done with it.
inductive DirOp where
  | creat (name : Path) (excl : Bool)
  | remove (name : Path)
  | lookup (dirvn : Addr) (path : Path)
  | close (vn : Addr)
  deriving DecidableEq, Repr

def dirStep (fails : Nat → Bool) : DirOp → Action Unit
  | .creat name excl => do
      let _ ← semfsCreat fails name excl
  | .remove name => do
      let _ ← semfsRemove name
  | .lookup dirvn path => do
      let s ← get
      if dirvn ∈ s.vnodes.v then do
        let _ ← semfsLookup fails dirvn path
  | .close vn => do
      let s ← get
      if vn ∈ s.vnodes.v then vnodeDecref vn

def dirRun (fails : Nat → Bool) : List DirOp → Action Unit
  | [] => pure ()
  | op :: ops => do
      dirStep fails op
      dirRun fails ops

lemma dirStep_sound (hs : Sound s) (op : DirOp) :
    ∃ t, (dirStep fails op).run s = .ok () t ∧ Sound t := by
  cases op with
  | creat name excl =>
    obtain ⟨result, vn, t, hrun, ht, -⟩ := semfsCreat_cases hs
    rw [dirStep, bind_run_ok hrun]
    exact ⟨t, rfl, ht⟩
  | remove name =>
    obtain ⟨result, t, hrun, ht⟩ := semfsRemove_sound hs
    rw [dirStep, bind_run_ok hrun]
    exact ⟨t, rfl, ht⟩
  | lookup dirvn path =>
    rw [dirStep, bind_run_ok (run_get s)]
    by_cases hdir : dirvn ∈ s.vnodes.v
    · obtain ⟨result, t, hrun, ht⟩ := semfsLookup_sound hs hdir
      rw [if_pos hdir, bind_run_ok hrun]
      exact ⟨t, rfl, ht⟩
    · rw [if_neg hdir]
      exact ⟨s, rfl, hs⟩
  | close vn =>
    rw [dirStep, bind_run_ok (run_get s)]
    by_cases hvn : vn ∈ s.vnodes.v
    · rw [if_pos hvn]
      exact vnodeDecref_sound hs hvn
    · rw [if_neg hvn]
      exact ⟨s, rfl, hs⟩

lemma dirRun_sound (hs : Sound s) (ops : List DirOp) :
    ∃ t, (dirRun fails ops).run s = .ok () t ∧ Sound t := by
  induction ops generalizing s with
  | nil => exact ⟨s, rfl, hs⟩
  | cons op ops ih =>
    obtain ⟨u, hrun, hu⟩ := dirStep_sound hs op
    obtain ⟨t, hrest, ht⟩ := ih hu
    rw [dirRun, bind_run_ok hrun]
    exact ⟨t, hrest, ht⟩

end Run

end Os161.Semfs
