import Os161.Semfs.Dir.Lemmas

-- What holds of semfs between two calls: blocks have one owner, an entry names a linked
-- semaphore, and a semaphore has a vnode in the table exactly when it says so.

namespace Os161.Semfs

open Function

open Vfs (Path)

variable {s : Fs} {h : Heap} {a b : Addr}

def Fs.SemSlot (s : Fs) (i : Nat) (a : Addr) : Prop := s.sems.v[i]? = some (some a)

def Fs.DentSlot (s : Fs) (i : Nat) (a : Addr) : Prop := s.dents.v[i]? = some (some a)

def Fs.SemAt (s : Fs) (i : Nat) (a : Addr) (x : Sem) : Prop :=
  s.SemSlot i a ∧ s.heap a = some (.sem x)

structure Sorted (h : Heap) : Prop where
  lock : ∀ a x, h a = some (.sem x) → h x.lock = some .lock
  cv : ∀ a x, h a = some (.sem x) → h x.cv = some .cv
  lockApart : ∀ a b x y, h a = some (.sem x) → h b = some (.sem y) → x.lock = y.lock → a = b
  cvApart : ∀ a b x y, h a = some (.sem x) → h b = some (.sem y) → x.cv = y.cv → a = b
  name : ∀ a d, h a = some (.dent d) → ∃ text, h d.name = some (.name text)
  nameApart : ∀ a b d e, h a = some (.dent d) → h b = some (.dent e) → d.name = e.name → a = b

structure Tables (s : Fs) : Prop where
  sem : ∀ i a, s.SemSlot i a → ∃ x, s.heap a = some (.sem x)
  semVnode : ∀ i a x, s.SemAt i a x → x.hasvnode = true →
    ∃ vn ∈ s.vnodes.v, ∃ v, s.heap vn = some (.vnode v) ∧ v.semnum = i
  semApart : ∀ i j a, s.SemSlot i a → s.SemSlot j a → i = j
  few : s.sems.v.length ≤ SEMFS_ROOTDIR
  dent : ∀ i a, s.DentSlot i a → ∃ d, s.heap a = some (.dent d) ∧
    ∃ b x, s.SemAt d.semnum b x ∧ x.linked = true
  dentApart : ∀ i j a b d e, s.DentSlot i a → s.DentSlot j b →
    s.heap a = some (.dent d) → s.heap b = some (.dent e) →
    d.semnum = e.semnum ∨ s.heap d.name = s.heap e.name → i = j
  vnode : ∀ vn ∈ s.vnodes.v, ∃ v, s.heap vn = some (.vnode v) ∧ 0 < v.refcount ∧
    (v.semnum ≠ SEMFS_ROOTDIR → ∃ b x, s.SemAt v.semnum b x ∧ x.hasvnode = true)
  vnodeApart : ∀ vn ∈ s.vnodes.v, ∀ wn ∈ s.vnodes.v, ∀ v w, s.heap vn = some (.vnode v) →
    s.heap wn = some (.vnode w) → v.semnum = w.semnum → vn = wn
  nodup : s.vnodes.v.Nodup

structure Sound (s : Fs) : Prop where
  fresh : s.Fresh
  sorted : Sorted s.heap
  tables : Tables s

namespace Sorted

lemma withSem (hs : Sorted h) (hnew : NewSem h a x) : Sorted (withSem h a x) := by
  obtain ⟨hsem, hl, hc, hsl, hsc, hlc⟩ := hnew
  obtain ⟨hlock, hcv, hlockApart, hcvApart, hname, hnameApart⟩ := hs
  constructor <;> simp only [Semfs.withSem, update_apply]
  · grind
  · grind
  · clear hcvApart hname hnameApart hcv
    grind
  · clear hlockApart hname hnameApart hlock
    grind
  · grind
  · grind

lemma withDent (hs : Sorted h) (hnew : NewDent h a d) :
    Sorted (withDent h a d text) := by
  obtain ⟨hdent, hn, hapart⟩ := hnew
  obtain ⟨hlock, hcv, hlockApart, hcvApart, hname, hnameApart⟩ := hs
  constructor <;> simp only [Semfs.withDent, update_apply]
  · grind
  · grind
  · grind
  · grind
  · intro b e hb
    by_cases hnamed : e.name = d.name
    · exact ⟨text, if_pos hnamed⟩
    have hother : b ≠ a := by grind
    obtain ⟨text', htext⟩ := hname b e (by grind)
    exact ⟨text', by grind⟩
  · grind

lemma of_withSem (hnew : NewSem h a x) (hs : Sorted (Semfs.withSem h a x)) : Sorted h := by
  obtain ⟨hsem, hl, hc, hsl, hsc, hlc⟩ := hnew
  obtain ⟨hlock, hcv, hlockApart, hcvApart, hname, hnameApart⟩ := hs
  simp only [Semfs.withSem, update_apply] at hlock hcv hlockApart hcvApart hname hnameApart
  constructor
  · grind
  · grind
  · clear hcvApart hname hnameApart hcv
    grind
  · clear hlockApart hname hnameApart hlock
    grind
  · grind
  · grind

lemma of_withDent (hnew : NewDent h a d)
    (hs : Sorted (Semfs.withDent h a d text)) : Sorted h := by
  obtain ⟨hdent, hn, hapart⟩ := hnew
  obtain ⟨hlock, hcv, hlockApart, hcvApart, hname, hnameApart⟩ := hs
  simp only [Semfs.withDent, update_apply]
    at hlock hcv hlockApart hcvApart hname hnameApart
  constructor
  all_goals grind

lemma putSem (hs : Sorted h) (hold : h a = some (.sem x)) (hlock : y.lock = x.lock)
    (hcv : y.cv = x.cv) : Sorted (update h a (some (.sem y))) := by
  obtain ⟨hlocks, hcvs, hlockApart, hcvApart, hname, hnameApart⟩ := hs
  constructor <;> simp only [update_apply]
  · grind
  · grind
  · clear hcvApart hname hnameApart hcvs
    grind
  · clear hlockApart hname hnameApart hlocks
    grind
  · grind
  · grind

lemma putVnode (hs : Sorted h) (v : SemfsVnode)
    (hold : h a = none ∨ ∃ w, h a = some (.vnode w)) : Sorted (update h a (some (.vnode v))) := by
  obtain ⟨hlocks, hcvs, hlockApart, hcvApart, hname, hnameApart⟩ := hs
  constructor <;> simp only [update_apply]
  all_goals grind

end Sorted

namespace Tables

section

variable (ht : Tables s)

include ht

lemma agree (hsem : ∀ i a, s.SemSlot i a → h a = s.heap a)
    (hdent : ∀ i a d, s.DentSlot i a → s.heap a = some (.dent d) →
      h a = s.heap a ∧ h d.name = s.heap d.name)
    (hvnode : ∀ vn ∈ s.vnodes.v, h vn = s.heap vn) (n c : Nat) :
    Tables { s with heap := h, next := n, calls := c } := by
  have hdent' : ∀ i a, s.DentSlot i a → h a = s.heap a := by
    intro i a hslot
    obtain ⟨d, hd, -⟩ := ht.dent i a hslot
    exact (hdent i a d hslot hd).1
  refine ⟨?_, ?_, ht.semApart, ht.few, ?_, ?_, ?_, ?_, ht.nodup⟩
  · intro i a hslot
    obtain ⟨x, hx⟩ := ht.sem i a hslot
    exact ⟨x, (hsem i a hslot).trans hx⟩
  · rintro i a x ⟨hslot, hx⟩ hhas
    obtain ⟨vn, hvn, v, hv, hnum⟩ := ht.semVnode i a x ⟨hslot, (hsem i a hslot).symm.trans hx⟩ hhas
    exact ⟨vn, hvn, v, (hvnode vn hvn).trans hv, hnum⟩
  · intro i a hslot
    obtain ⟨d, hd, b, x, ⟨hb, hx⟩, hlinked⟩ := ht.dent i a hslot
    exact ⟨d, (hdent' i a hslot).trans hd, b, x, ⟨hb, (hsem _ b hb).trans hx⟩, hlinked⟩
  · intro i j a b d e ha hb hd he hsame
    dsimp only at hd he hsame
    rw [hdent' i a ha] at hd
    rw [hdent' j b hb] at he
    rw [(hdent i a d ha hd).2, (hdent j b e hb he).2] at hsame
    exact ht.dentApart i j a b d e ha hb hd he hsame
  · intro vn hvn
    obtain ⟨v, hv, hcount, hroot⟩ := ht.vnode vn hvn
    refine ⟨v, (hvnode vn hvn).trans hv, hcount, fun hne => ?_⟩
    obtain ⟨b, x, ⟨hb, hx⟩, hhas⟩ := hroot hne
    exact ⟨b, x, ⟨hb, (hsem _ b hb).trans hx⟩, hhas⟩
  intro vn hvn wn hwn v w hv hw
  dsimp only at hv hw
  rw [hvnode vn hvn] at hv
  rw [hvnode wn hwn] at hw
  exact ht.vnodeApart vn hvn wn hwn v w hv hw

lemma insertSem (hslots : ∀ i b, sems.v[i]? = some (some b) ↔ s.SemSlot i b ∨ i = n ∧ b = a)
    (hlength : sems.v.length ≤ SEMFS_ROOTDIR) (hx : s.heap a = some (.sem x))
    (hhas : x.hasvnode = false) (hout : ∀ i, ¬ s.SemSlot i a) : Tables { s with sems := sems } := by
  have hmono : ∀ i b y, s.SemAt i b y → Fs.SemAt { s with sems := sems } i b y := by
    rintro i b y ⟨hslot, hy⟩
    exact ⟨(hslots i b).mpr (.inl hslot), hy⟩
  refine ⟨?_, ?_, ?_, hlength, ?_, ht.dentApart, ?_, ht.vnodeApart, ht.nodup⟩
  · intro i b hslot
    rcases (hslots i b).mp hslot with hold | ⟨rfl, rfl⟩
    · exact ht.sem i b hold
    · exact ⟨x, hx⟩
  · rintro i b y ⟨hslot, hy⟩ hyes
    rcases (hslots i b).mp hslot with hold | ⟨rfl, rfl⟩
    · exact ht.semVnode i b y ⟨hold, hy⟩ hyes
    have hsame : y = x := by
      dsimp only at hy
      rw [hx] at hy
      cases hy
      rfl
    rw [hsame, hhas] at hyes
    exact absurd hyes (by decide)
  · intro i j b hi hj
    rcases (hslots i b).mp hi with hi | ⟨rfl, rfl⟩
    · rcases (hslots j b).mp hj with hj | ⟨rfl, rfl⟩
      · exact ht.semApart i j b hi hj
      · exact absurd hi (hout i)
    rcases (hslots j b).mp hj with hj | ⟨rfl, -⟩
    · exact absurd hj (hout j)
    · rfl
  · intro i b hslot
    obtain ⟨d, hd, c, y, hat, hlinked⟩ := ht.dent i b hslot
    exact ⟨d, hd, c, y, hmono _ _ _ hat, hlinked⟩
  intro vn hvn
  obtain ⟨v, hv, hcount, hroot⟩ := ht.vnode vn hvn
  refine ⟨v, hv, hcount, fun hne => ?_⟩
  obtain ⟨c, y, hat, hhas⟩ := hroot hne
  exact ⟨c, y, hmono _ _ _ hat, hhas⟩

lemma dropSem (hslots : ∀ i b, sems.v[i]? = some (some b) ↔ s.SemSlot i b ∧ i ≠ n)
    (hlength : sems.v.length ≤ SEMFS_ROOTDIR) (hx : s.SemAt n a x) (hhas : x.hasvnode = false)
    (hnamed : ∀ i b d, s.DentSlot i b → s.heap b = some (.dent d) → d.semnum ≠ n) :
    Tables { s with sems := sems } := by
  have hkeep : ∀ i b y, s.SemAt i b y → i ≠ n → Fs.SemAt { s with sems := sems } i b y := by
    rintro i b y ⟨hslot, hy⟩ hne
    exact ⟨(hslots i b).mpr ⟨hslot, hne⟩, hy⟩
  refine ⟨?_, ?_, ?_, hlength, ?_, ht.dentApart, ?_, ht.vnodeApart, ht.nodup⟩
  · intro i b hslot
    exact ht.sem i b ((hslots i b).mp hslot).1
  · rintro i b y ⟨hslot, hy⟩ hyes
    exact ht.semVnode i b y ⟨((hslots i b).mp hslot).1, hy⟩ hyes
  · intro i j b hi hj
    exact ht.semApart i j b ((hslots i b).mp hi).1 ((hslots j b).mp hj).1
  · intro i b hslot
    obtain ⟨d, hd, c, y, hat, hlinked⟩ := ht.dent i b hslot
    exact ⟨d, hd, c, y, hkeep _ _ _ hat (hnamed i b d hslot hd), hlinked⟩
  intro vn hvn
  obtain ⟨v, hv, hcount, hroot⟩ := ht.vnode vn hvn
  refine ⟨v, hv, hcount, fun hne => ?_⟩
  obtain ⟨c, y, hat, hyes⟩ := hroot hne
  refine ⟨c, y, hkeep _ _ _ hat fun heq => ?_, hyes⟩
  -- the slot of a vnode holds a semaphore that has one
  have hca : c = a := by
    have hc := hat.1
    rw [heq, Fs.SemSlot, hx.1] at hc
    cases hc
    rfl
  have hsame := hat.2
  rw [hca, hx.2] at hsame
  cases hsame
  rw [hhas] at hyes
  exact absurd hyes (by decide)

lemma enterDent (hslots : ∀ i b, dents.v[i]? = some (some b) ↔ s.DentSlot i b ∨ i = k ∧ b = a)
    (hd : s.heap a = some (.dent d)) (hsem : s.SemAt d.semnum c x) (hlinked : x.linked = true)
    (hnew : ∀ i b e, s.DentSlot i b → s.heap b = some (.dent e) →
      d.semnum ≠ e.semnum ∧ s.heap d.name ≠ s.heap e.name) : Tables { s with dents := dents } := by
  refine ⟨ht.sem, ht.semVnode, ht.semApart, ht.few, ?_, ?_, ht.vnode, ht.vnodeApart, ht.nodup⟩
  · intro i b hslot
    rcases (hslots i b).mp hslot with hold | ⟨rfl, rfl⟩
    · exact ht.dent i b hold
    · exact ⟨d, hd, c, x, hsem, hlinked⟩
  intro i j b b' e e' hi hj he he' hsame
  dsimp only at he he' hsame
  rcases (hslots i b).mp hi with hi | ⟨rfl, rfl⟩
  · rcases (hslots j b').mp hj with hj | ⟨rfl, rfl⟩
    · exact ht.dentApart i j b b' e e' hi hj he he' hsame
    rw [hd] at he'
    cases he'
    obtain ⟨hnum, hname⟩ := hnew i b e hi he
    exact absurd hsame (not_or.mpr ⟨hnum.symm, hname.symm⟩)
  rw [hd] at he
  cases he
  rcases (hslots j b').mp hj with hj | ⟨rfl, -⟩
  · exact absurd hsame (not_or.mpr (hnew j b' e' hj he'))
  · rfl

lemma leaveDent (hslots : ∀ i b, dents.v[i]? = some (some b) → s.DentSlot i b) :
    Tables { s with dents := dents } := by
  refine ⟨ht.sem, ht.semVnode, ht.semApart, ht.few, ?_, ?_, ht.vnode, ht.vnodeApart, ht.nodup⟩
  · intro i b hslot
    exact ht.dent i b (hslots i b hslot)
  · intro i j b b' e e' hi hj
    exact ht.dentApart i j b b' e e' (hslots i b hi) (hslots j b' hj)

end

lemma dentApart_kept {p : Nat → Addr → Prop}
    (hname : ∀ b d, s.heap b = some (.dent d) → ∃ text, s.heap d.name = some (.name text))
    (happart : ∀ i j b b' d e, p i b → p j b' → s.heap b = some (.dent d) →
      s.heap b' = some (.dent e) → d.semnum = e.semnum ∨ s.heap d.name = s.heap e.name → i = j)
    (hdent : ∀ b d, h b = some (.dent d) → s.heap b = some (.dent d))
    (htext : ∀ b text, s.heap b = some (.name text) → h b = s.heap b) :
    ∀ i j b b' d e, p i b → p j b' → h b = some (.dent d) → h b' = some (.dent e) →
      d.semnum = e.semnum ∨ h d.name = h e.name → i = j := by
  intro i j b b' d e hi hj hd he hsame
  obtain ⟨text, hbt⟩ := hname b d (hdent b d hd)
  obtain ⟨text', hbt'⟩ := hname b' e (hdent b' e he)
  rw [htext _ _ hbt, htext _ _ hbt'] at hsame
  exact happart i j b b' d e hi hj (hdent b d hd) (hdent b' e he) hsame

section

variable (ht : Tables s) (hs : Sorted s.heap)

include ht hs

lemma putLinked (hx : s.SemAt n a x)
    (hhas : y.hasvnode = x.hasvnode)
    (hnamed : y.linked = false →
      ∀ i b d, s.DentSlot i b → s.heap b = some (.dent d) → d.semnum ≠ n) :
    Tables (s.put a (.sem y)) := by
  obtain ⟨hslot, hx⟩ := hx
  obtain ⟨hsem, hsemVnode, hsemApart, hfew, hdent, hdentApart, hvnode, hvnodeApart, hnodup⟩ := ht
  have hname := hs.name
  refine ⟨?_, ?_, hsemApart, hfew, ?_, ?_, ?_, ?_, hnodup⟩ <;>
    simp only [Fs.put, Fs.SemAt, Fs.SemSlot, Fs.DentSlot, update_apply] at *
  · grind
  · grind
  · intro i b hb
    obtain ⟨d, hd, c, z, ⟨hc, hz⟩, hlinked⟩ := hdent i b hb
    refine ⟨d, by grind, c, ?_⟩
    by_cases hca : c = a
    · exact ⟨y, by grind⟩
    · exact ⟨z, by grind⟩
  · exact dentApart_kept hname hdentApart (by grind) (by grind)
  · intro vn hvn
    obtain ⟨v, hv, hcount, hroot⟩ := hvnode vn hvn
    refine ⟨v, by grind, hcount, fun hne => ?_⟩
    obtain ⟨c, z, ⟨hc, hz⟩, hyes⟩ := hroot hne
    by_cases hca : c = a
    · exact ⟨c, y, by grind⟩
    · exact ⟨c, z, by grind⟩
  · grind

lemma newVnode (hx : s.SemAt n a x) (hhas : x.hasvnode = false) (hvn : s.heap vn = none)
    (hn : n ≠ SEMFS_ROOTDIR) :
    Tables { (s.put vn (.vnode ⟨n, 1⟩)).put a (.sem { x with hasvnode := true }) with
      vnodes := ⟨s.vnodes.v ++ [vn], m⟩ } := by
  obtain ⟨hslot, hx⟩ := hx
  obtain ⟨hsem, hsemVnode, hsemApart, hfew, hdent, hdentApart, hvnode, hvnodeApart, hnodup⟩ := ht
  have hname := hs.name
  have hold : ∀ wn ∈ s.vnodes.v, ∀ w, s.heap wn = some (.vnode w) → w.semnum ≠ n := by
    grind [Fs.SemAt, Fs.SemSlot]
  refine ⟨?_, ?_, hsemApart, hfew, ?_, ?_, ?_, ?_, ?_⟩ <;>
    simp only [Fs.put, Fs.SemAt, Fs.SemSlot, Fs.DentSlot, update_apply] at *
  · grind
  · intro i b y hb hyes
    by_cases hba : b = a
    · exact ⟨vn, by grind, ⟨n, 1⟩, by grind⟩
    · obtain ⟨wn, hwn, w, hw, hnum⟩ := hsemVnode i b y (by grind) hyes
      exact ⟨wn, by grind, w, by grind⟩
  · intro i b hb
    obtain ⟨d, hd, c, z, ⟨hc, hz⟩, hlinked⟩ := hdent i b hb
    refine ⟨d, by grind, c, ?_⟩
    by_cases hca : c = a
    · exact ⟨{ x with hasvnode := true }, by grind⟩
    · exact ⟨z, by grind⟩
  · exact dentApart_kept hname hdentApart (by grind) (by grind)
  · intro wn hwn
    rcases List.mem_append.mp hwn with hwn | hwn
    · obtain ⟨w, hw, hcount, hroot⟩ := hvnode wn hwn
      refine ⟨w, by grind, hcount, fun hne => ?_⟩
      obtain ⟨c, z, ⟨hc, hz⟩, hyes⟩ := hroot hne
      exact ⟨c, z, by grind⟩
    · exact ⟨⟨n, 1⟩, by grind, Nat.one_pos, fun _ => ⟨a, { x with hasvnode := true }, by grind⟩⟩
  · grind
  · grind

lemma putRefcount {w : SemfsVnode}
    (hv : s.heap vn = some (.vnode v)) (hnum : w.semnum = v.semnum) (hcount : 0 < w.refcount) :
    Tables (s.put vn (.vnode w)) := by
  obtain ⟨hsem, hsemVnode, hsemApart, hfew, hdent, hdentApart, hvnode, hvnodeApart, hnodup⟩ := ht
  have hname := hs.name
  refine ⟨?_, ?_, hsemApart, hfew, ?_, ?_, ?_, ?_, hnodup⟩ <;>
    simp only [Fs.put, Fs.SemAt, Fs.SemSlot, Fs.DentSlot, update_apply] at *
  · grind
  · intro i b y hb hyes
    obtain ⟨wn, hwn, u, hu, hnum⟩ := hsemVnode i b y (by grind) hyes
    by_cases hsame : wn = vn
    · exact ⟨wn, hwn, w, by grind⟩
    · exact ⟨wn, hwn, u, by grind⟩
  · grind
  · exact dentApart_kept hname hdentApart (by grind) (by grind)
  · intro wn hwn
    obtain ⟨u, hu, hpos, hroot⟩ := hvnode wn hwn
    by_cases hsame : wn = vn
    · exact ⟨w, by grind⟩
    · exact ⟨u, by grind⟩
  · grind

lemma leaveVnode (hvn : vn ∈ s.vnodes.v)
    (hv : s.heap vn = some (.vnode v)) (hx : s.SemAt v.semnum a x) :
    Tables { s.put a (.sem { x with hasvnode := false }) with
      vnodes := ⟨s.vnodes.v.erase vn, m⟩ } := by
  obtain ⟨hslot, hx⟩ := hx
  obtain ⟨hsem, hsemVnode, hsemApart, hfew, hdent, hdentApart, hvnode, hvnodeApart, hnodup⟩ := ht
  have hname := hs.name
  have hother : ∀ wn, wn ∈ s.vnodes.v.erase vn ↔ wn ≠ vn ∧ wn ∈ s.vnodes.v :=
    fun wn => hnodup.mem_erase_iff
  refine ⟨?_, ?_, hsemApart, hfew, ?_, ?_, ?_, ?_, hnodup.erase vn⟩ <;>
    simp only [Fs.put, Fs.SemAt, Fs.SemSlot, Fs.DentSlot, update_apply] at *
  · grind
  · intro i b y hb hyes
    have hba : b ≠ a := by grind
    obtain ⟨wn, hwn, w, hw, hnum⟩ := hsemVnode i b y (by grind) hyes
    exact ⟨wn, by grind, w, by grind⟩
  · intro i b hb
    obtain ⟨d, hd, c, z, ⟨hc, hz⟩, hlinked⟩ := hdent i b hb
    refine ⟨d, by grind, c, ?_⟩
    by_cases hca : c = a
    · exact ⟨{ x with hasvnode := false }, by grind⟩
    · exact ⟨z, by grind⟩
  · exact dentApart_kept hname hdentApart (by grind) (by grind)
  · intro wn hwn
    obtain ⟨hne, hwn⟩ := (hother wn).mp hwn
    obtain ⟨w, hw, hcount, hroot⟩ := hvnode wn hwn
    refine ⟨w, by grind, hcount, fun hnum => ?_⟩
    obtain ⟨c, z, ⟨hc, hz⟩, hyes⟩ := hroot hnum
    exact ⟨c, z, by grind⟩
  · grind

end

lemma leaveRoot (ht : Tables s)
    (hv : s.heap vn = some (.vnode v)) (hroot : v.semnum = SEMFS_ROOTDIR) :
    Tables { s with vnodes := ⟨s.vnodes.v.erase vn, m⟩ } := by
  refine ⟨ht.sem, ?_, ht.semApart, ht.few, ht.dent, ht.dentApart, ?_, ?_, ht.nodup.erase vn⟩
  · intro i b y hat hyes
    obtain ⟨wn, hwn, w, hw, hnum⟩ := ht.semVnode i b y hat hyes
    refine ⟨wn, (List.mem_erase_of_ne ?_).mpr hwn, w, hw, hnum⟩
    rintro rfl
    have hlt : i < s.sems.v.length := (List.getElem?_eq_some_iff.mp hat.1).choose
    have hfew := ht.few
    rw [hv] at hw
    cases hw
    omega
  · intro wn hwn
    exact ht.vnode wn (List.mem_of_mem_erase hwn)
  · intro wn hwn wn' hwn'
    exact ht.vnodeApart wn (List.mem_of_mem_erase hwn) wn' (List.mem_of_mem_erase hwn')

end Tables

end Os161.Semfs
