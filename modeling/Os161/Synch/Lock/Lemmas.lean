import Os161.Synch.Lock

namespace Os161.Synch

open Function Lib Lib.Threads Vm

variable {T Lk Cv : Type}

def Caller.outer (caller : Caller Cv) (m : Sync Lk Cv) : Prop :=
  match caller with
  | .user => False
  | .cvWait c => m = .cv c

def HoldSite.outer (site : HoldSite Cv) (m : Sync Lk Cv) : Prop :=
  match site with
  | .release caller => caller.outer m
  | _ => False

def lockHolds : LockPc Lk Cv → Sync Lk Cv → Prop
  | .doIHold site l h, m => site.outer m ∨ (h ≠ .acquire ∧ m = .lk l)
  | .acquire _ l (.inP p), m => p.locked = true ∧ m = .sem l
  | .acquire _ l .test, m | .acquire _ l .sleep, m => m = .lk l
  | .acquire _ l .own, m | .acquire _ l .unlock, m => m = .lk l
  | .release caller _ .lock, m => caller.outer m
  | .release caller l (.inV v), m => (caller.outer m ∨ m = .lk l) ∨ (v.locked = true ∧ m = .sem l)
  | .release caller l .clear, m | .release caller l .wakeone, m => caller.outer m ∨ m = .lk l
  | .release caller l .unlock, m => caller.outer m ∨ m = .lk l
  | .wait c _ .sleep, m | .wait c _ .unlock, m => m = .cv c
  | .wake _ c _ .wake, m | .wake _ c _ .unlock, m => m = .cv c
  | .failed site, m => site.outer m
  | _, _ => False

def lockWaits : LockPc Lk Cv → Option (Sync Lk Cv)
  | .acquire _ l (.inP .reacquire) => some (.sem l)
  | .acquire _ l .reacquire => some (.lk l)
  | .wait c _ .reacquire => some (.cv c)
  | _ => none

section Respects

lemma Caller.outer_lk (caller : Caller Cv) (l : Lk) : ¬ caller.outer (.lk l) := by
  cases caller <;> simp [Caller.outer]

lemma Caller.outer_sem (caller : Caller Cv) (l : Lk) : ¬ caller.outer (.sem l) := by
  cases caller <;> simp [Caller.outer]

lemma HoldSite.outer_lk (site : HoldSite Cv) (l : Lk) : ¬ site.outer (.lk l) := by
  cases site <;> simp [HoldSite.outer, Caller.outer_lk]

lemma outer_without_lk {outer : Sync Lk Cv → Prop} (h : ¬ outer (.lk l))
    (m : Sync Lk Cv) : outer m ↔ (outer m ∨ m = .lk l) ∧ m ≠ .lk l := by
  constructor
  · exact fun hm => ⟨.inl hm, fun heq => h (heq ▸ hm)⟩
  · exact fun hm => hm.1.resolve_right hm.2

lemma next_holds (useSemaphore : Bool) (l : Lk) (res : Bool) (site : HoldSite Cv)
    (m : Sync Lk Cv) : lockHolds (site.next useSemaphore l res) m ↔ site.outer m := by
  cases site <;> cases res <;> cases useSemaphore <;>
    simp [HoldSite.next, lockHolds, HoldSite.outer, PPc.locked]

variable [DecidableEq T]

lemma doIHoldCode_respects (useSemaphore : Bool) (t : T) (site : HoldSite Cv) (l : Lk)
    (h : HoldPc) :
    (doIHoldCode useSemaphore t site l h).Respects lockHolds lockWaits (.doIHold site l h) := by
  cases h with
  | acquire => exact ⟨by simp [lockHolds, site.outer_lk], fun m => by simp [lockHolds]⟩
  | test =>
    intro i d d' k hact m
    obtain ⟨-, rfl⟩ : _ ∧ _ = k := by simpa using hact
    simp [lockHolds]
  | release res =>
    refine ⟨by simp [lockHolds], fun m => ?_⟩
    rw [next_holds]
    simpa [lockHolds] using outer_without_lk (site.outer_lk l) m

variable [DecidableEq Lk]

section

variable (useSemaphore : Bool) (t : T) (caller : Caller Cv) (l : Lk)

lemma acquireCode_respects (a : AcquirePc) :
    (acquireCode useSemaphore t caller l a).Respects lockHolds lockWaits (.acquire caller l a) := by
  cases a with
  | inP p =>
    have hin : ∀ p m, lockHolds (.acquire caller l (.inP p)) m ↔
        False ∨ (p.locked = true ∧ m = (lkSem l : Semaphore (LockData T Lk Cv) _ _).semLock) := by
      simp [lockHolds, lkSem]
    have hret : ∀ m, lockHolds (.acquire caller l .lock) m ↔ False := fun m => Iff.rfl
    exact P_respects (fun _ => False) id hin hret rfl p
  | lock => cases useSemaphore <;> exact ⟨id, fun m => by simp [lockHolds]⟩
  | test =>
    intro i d d' k hact m
    obtain ⟨-, rfl⟩ : _ ∧ _ = k := by simpa using hact
    split <;> rfl
  | sleep => exact ⟨rfl, rfl, fun m => by simp [lockHolds]⟩
  | reacquire => exact ⟨id, fun m => by simp [lockHolds]⟩
  | own => exact respects_assert fun m => Iff.rfl
  | unlock =>
    refine ⟨rfl, fun m => ?_⟩
    cases caller <;> simp [Caller.acquired, lockHolds]

lemma releaseCode_respects (r : ReleasePc) :
    (releaseCode useSemaphore t caller l r).Respects lockHolds lockWaits (.release caller l r) := by
  cases r with
  | lock => exact ⟨caller.outer_lk l, fun m => Iff.rfl⟩
  | clear => cases useSemaphore <;> exact respects_to fun m => by simp [lockHolds, VPc.locked]
  | inV v =>
    have hin : ∀ v m, lockHolds (.release caller l (.inV v)) m ↔ (caller.outer m ∨ m = .lk l) ∨
        (v.locked = true ∧ m = (lkSem l : Semaphore (LockData T Lk Cv) _ _).semLock) :=
      fun v m => Iff.rfl
    have hret : ∀ m, lockHolds (.release caller l .unlock) m ↔ caller.outer m ∨ m = .lk l :=
      fun m => Iff.rfl
    have houter : ¬ (caller.outer (.sem l) ∨ (.sem l : Sync Lk Cv) = .lk l) := by
      simp [caller.outer_sem]
    exact V_respects (fun m => caller.outer m ∨ m = .lk l) houter hin hret v
  | wakeone => exact fun m => Iff.rfl
  | unlock =>
    refine ⟨.inr rfl, fun m => ?_⟩
    have hret : lockHolds (caller.released l) m ↔ caller.outer m := by
      cases caller <;> simp [Caller.released, lockHolds, Caller.outer]
    rw [hret]
    exact outer_without_lk (caller.outer_lk l) m

end

lemma lockCode_respects (useSemaphore : Bool) (t : T) (pc : LockPc Lk Cv) :
    (lockCode useSemaphore t pc).Respects lockHolds lockWaits pc := by
  cases pc with
  | outside =>
    intro call d d' k hact m
    obtain ⟨-, rfl⟩ : _ ∧ _ = k := by simpa using hact
    cases call <;> simp [LockCall.enter, lockHolds, HoldSite.outer, Caller.outer]
  | doIHold site l h => exact doIHoldCode_respects useSemaphore t site l h
  | acquire caller l a => exact acquireCode_respects useSemaphore t caller l a
  | release caller l r => exact releaseCode_respects useSemaphore t caller l r
  | wait c l w =>
    cases w with
    | lock => exact ⟨id, fun m => by simp [lockHolds, HoldSite.outer, Caller.outer]⟩
    | sleep => exact ⟨rfl, rfl, fun m => by simp [lockHolds]⟩
    | reacquire => exact ⟨id, fun m => by simp [lockHolds]⟩
    | unlock => exact ⟨rfl, fun m => by simp [lockHolds, HoldSite.outer]⟩
    | returned => exact respects_to fun m => Iff.rfl
  | wake all c l w =>
    cases w with
    | lock => exact ⟨id, fun m => by simp [lockHolds]⟩
    | wake => cases all <;> exact fun m => Iff.rfl
    | unlock => exact ⟨rfl, fun m => by simp [lockHolds]⟩
  | failed site => intro i d d' k hact; cases hact

end Respects

def LockPc.owns (l : Lk) : LockPc Lk Cv → Prop
  | .doIHold site l' p => l' = l ∧ ((∃ c, site = .release (.cvWait c)) ∨ p = .release true)
  | .acquire _ l' .unlock => l' = l
  | .release _ l' .lock | .release _ l' .clear => l' = l
  | .wait _ l' .lock | .wait _ l' .returned => l' = l
  | .wake _ _ l' _ => l' = l
  | _ => False

def LockPc.passing (l : Lk) : LockPc Lk Cv → Prop
  | .acquire _ l' (.inP .release) | .acquire _ l' .lock | .acquire _ l' .test => l' = l
  | .acquire _ l' .sleep | .acquire _ l' .reacquire | .acquire _ l' .own => l' = l
  | .release _ l' (.inV .acquire) | .release _ l' (.inV .raise) => l' = l
  | _ => False

def LockPc.dozing (c : Cv) : LockPc Lk Cv → Prop
  | .release (.cvWait c') _ (.inV _) | .release (.cvWait c') _ .wakeone => c' = c
  | .release (.cvWait c') _ .unlock | .wait c' _ .sleep => c' = c
  | _ => False

-- The semaphore's one unit is in the count, or with the one thread that is on its way to become
-- the owner or to give the unit back, or with the owner.
inductive Token (count : Word) (owner : Option T) (passing : T → Prop) : Prop where
  | free (hcount : count = 1#32) (howner : owner = none) (hpassing : ∀ u, ¬ passing u)
  | passes (t : T) (hcount : count = 0#32) (howner : owner = none)
      (hpassing : ∀ u, passing u ↔ u = t)
  | owned (t : T) (hcount : count = 0#32) (howner : owner = some t) (hpassing : ∀ u, ¬ passing u)

structure LockInv (useSemaphore : Bool) (s : LockState T Lk Cv) : Prop where
  owns : ∀ t l, (s.pc t).owns l → s.data.lkOwner l = some t
  held : ∀ t l, s.data.held (t, l) = true → s.data.lkOwner l = some t
  returned : ∀ t c l, s.pc t = .wait c l .returned → s.data.held (t, l) = true
  free : ∀ t caller l, s.pc t = .acquire caller l .own → s.data.lkOwner l = none
  token : useSemaphore = true → ∀ l,
    Token (s.data.semCount l) (s.data.lkOwner l) fun t => (s.pc t).passing l
  waiting : ∀ t c, s.data.waiting t = some c → (s.pc t).dozing c ∨ t ∈ s.chan (.cv c)

lemma owns_next {site : HoldSite Cv} {res : Bool}
    (h : (site.next useSemaphore l' res).owns l) : l' = l ∧ res = true := by
  cases site <;> cases res <;> cases useSemaphore <;>
    simp_all [HoldSite.next, LockPc.owns]

section Token

variable {count : Word} {owner : Option T} {passing : T → Prop}

section

variable (h : Token count owner passing)

include h

lemma Token.congr (hsame : ∀ u, passing' u ↔ passing u) : Token count owner passing' := by
  obtain rfl : passing' = passing := funext fun u => propext (hsame u)
  exact h

lemma Token.take (hcount : 0#32 < count)
    (hpassing : ∀ u, passing' u ↔ passing u ∨ u = t) : Token (count - 1#32) owner passing' := by
  cases h with
  | free hone howner hnone => exact .passes t (by simp [hone]) howner (by simp [hpassing, hnone])
  | passes u hzero | owned u hzero => simp [hzero] at hcount

lemma Token.unowned (ht : passing t) : count = 0#32 ∧ owner = none ∧ ∀ u, passing u ↔ u = t := by
  cases h with
  | free _ _ hnone | owned u _ _ hnone => exact absurd ht (hnone t)
  | passes u hcount howner hpassing =>
    obtain rfl := (hpassing t).mp ht
    exact ⟨hcount, howner, hpassing⟩

lemma Token.own (ht : passing t)
    (hpassing : ∀ u, passing' u ↔ passing u ∧ u ≠ t) : Token count (some t) passing' := by
  obtain ⟨hcount, -, hsole⟩ := h.unowned ht
  exact .owned t hcount rfl (by simp [hpassing, hsole])

end

lemma Token.clear (h : Token count (some t) passing)
    (hpassing : ∀ u, passing' u ↔ passing u ∨ u = t) : Token count none passing' := by
  cases h with
  | free _ howner | passes _ _ howner => cases howner
  | owned u hcount _ hnone => exact .passes t hcount rfl (by simp [hpassing, hnone])

lemma Token.raise (h : Token count owner passing) (ht : passing t)
    (hpassing : ∀ u, passing' u ↔ passing u ∧ u ≠ t) : Token (count + 1#32) owner passing' := by
  obtain ⟨hcount, howner, hsole⟩ := h.unowned ht
  exact .free (by simp [hcount]) howner (by simp [hpassing, hsole])

end Token

lemma lockCreate_inv : LockInv useSemaphore (lockCreate : LockState T Lk Cv) where
  owns := fun t l h => (by cases h)
  held := fun t l h => (by cases h)
  returned := fun t c l h => (by cases h)
  free := fun t caller l h => (by cases h)
  token := fun _ l => .free rfl rfl fun u h => (by cases h)
  waiting := fun t c h => (by cases h)

lemma lockCreate_fresh : (lockCreate : LockState T Lk Cv).Fresh lockHolds where
  holder := fun _ => rfl
  holds := fun _ _ => id
  asleep := fun _ => rfl
  chan := fun _ => rfl

-- Between lock_acquire and lock_release a thread is the owner, and cv_wait returns with the lock
-- held. A thread that has released the lock in cv_wait is on the channel until it is woken.
structure LockSafe (s : LockState T Lk Cv) : Prop where
  owner : ∀ t l, s.data.held (t, l) = true → s.data.lkOwner l = some t
  exclusive : ∀ t u l, s.data.held (t, l) = true → s.data.held (u, l) = true → t = u
  unowned : ∀ t caller l, s.pc t = .acquire caller l .own → s.data.lkOwner l = none
  returns : ∀ t c l, s.pc t = .wait c l .returned →
    s.data.held (t, l) = true ∧ s.data.lkOwner l = some t
  listed : ∀ t all c l, s.pc t = .wake all c l .wake →
    ∀ u, s.data.waiting u = some c → u ∈ s.chan (.cv c)

lemma dozing_locked (h : pc.dozing c) : lockHolds pc (.cv c) := by
  revert h
  fun_cases LockPc.dozing c pc <;> simp +contextual [lockHolds, Caller.outer]

lemma LockInv.safe (horderly : Orderly lockHolds lockWaits s)
    (h : LockInv useSemaphore s) : LockSafe s := by
  refine ⟨h.held, fun t u l ht hu => ?_, h.free, fun t c l ht => ?_, fun t all c l ht u hu => ?_⟩
  · exact Option.some.inj ((h.held t l ht).symm.trans (h.held u l hu))
  · exact ⟨h.returned t c l ht, h.held t l (h.returned t c l ht)⟩
  refine (h.waiting u c hu).resolve_left fun hdozing => ?_
  have hlocked : lockHolds (s.pc t) (.cv c) := by rw [ht]; rfl
  obtain rfl := horderly.exclusive (dozing_locked hdozing) hlocked
  rw [ht] at hdozing
  cases hdozing

section LockInv

variable [DecidableEq T] {s s' : LockState T Lk Cv} {t : T} {k : LockPc Lk Cv}

lemma lock_goes (h : LockInv useSemaphore s) (hs' : s'.pc = update s.pc t k)
    (howner : s'.data.lkOwner = s.data.lkOwner)
    (hheld : ∀ u l, s'.data.held (u, l) = true →
      s.data.held (u, l) = true ∨ s.data.lkOwner l = some u)
    (hstill : ∀ u l, s.data.held (u, l) = true → s'.data.held (u, l) = true)
    (howns : ∀ l, k.owns l → s.data.lkOwner l = some t)
    (hreturned : ∀ c l, k = .wait c l .returned → s'.data.held (t, l) = true)
    (hfree : ∀ caller l, k = .acquire caller l .own → s.data.lkOwner l = none)
    (htoken : useSemaphore = true → ∀ l,
      Token (s'.data.semCount l) (s.data.lkOwner l) fun u => (s'.pc u).passing l)
    (hwaiting : ∀ u c, s'.data.waiting u = some c → (s'.pc u).dozing c ∨ u ∈ s'.chan (.cv c)) :
    LockInv useSemaphore s' := by
  refine ⟨fun u l hu => ?_, fun u l hu => ?_, fun u c l hu => ?_, fun u caller l hu => ?_,
    fun hsem l => ?_, hwaiting⟩
  · rw [howner]
    rcases moved_cases hs' u with ⟨rfl, huk⟩ | ⟨-, huk⟩
    · exact howns l (huk ▸ hu)
    · exact h.owns u l (huk ▸ hu)
  · rw [howner]
    exact (hheld u l hu).elim (h.held u l) id
  · rcases moved_cases hs' u with ⟨rfl, huk⟩ | ⟨-, huk⟩
    · exact hreturned c l (huk.symm.trans hu)
    · exact hstill u l (h.returned u c l (huk.symm.trans hu))
  · rw [howner]
    rcases moved_cases hs' u with ⟨-, huk⟩ | ⟨-, huk⟩
    · exact hfree caller l (huk.symm.trans hu)
    · exact h.free u caller l (huk.symm.trans hu)
  · rw [howner]
    exact htoken hsem l

section

variable (hs' : s'.pc = update s.pc t k)

include hs'

lemma passing_moved (hk : k.passing l ↔ (s.pc t).passing l)
    (u : T) :
    (s'.pc u).passing l ↔ (s.pc u).passing l := by
  rcases moved_cases hs' u with ⟨rfl, huk⟩ | ⟨-, huk⟩
  · rw [huk, hk]
  · rw [huk]

lemma passing_begins (hk : k.passing l)
    (u : T) : (s'.pc u).passing l ↔ (s.pc u).passing l ∨ u = t := by
  rcases moved_cases hs' u with ⟨rfl, huk⟩ | ⟨hut, huk⟩
  · simp [huk, hk]
  · simp [huk, hut]

lemma passing_ends (hk : ¬ k.passing l)
    (u : T) : (s'.pc u).passing l ↔ (s.pc u).passing l ∧ u ≠ t := by
  rcases moved_cases hs' u with ⟨rfl, huk⟩ | ⟨hut, huk⟩
  · simp [huk, hk]
  · simp [huk, hut]

end

lemma token_moved {count' : Lk → Word} {owner' : Lk → Option T}
    (h : LockInv true s) (hs' : s'.pc = update s.pc t k)
    (hcount : ∀ l', l' ≠ l → count' l' = s.data.semCount l')
    (howner : ∀ l', l' ≠ l → owner' l' = s.data.lkOwner l')
    (hpassing : ∀ l', l' ≠ l → (k.passing l' ↔ (s.pc t).passing l'))
    (hl : Token (count' l) (owner' l) fun u => (s'.pc u).passing l) (l' : Lk) :
    Token (count' l') (owner' l') fun u => (s'.pc u).passing l' := by
  by_cases hne : l' = l
  · rwa [hne]
  · rw [hcount l' hne, howner l' hne]
    exact (h.token rfl l').congr (passing_moved hs' (hpassing l' hne))

section

variable (h : LockInv useSemaphore s)

include h

lemma waiting_moved (hs' : s'.pc = update s.pc t k)
    (hchan : ∀ c, s'.chan (.cv c) = s.chan (.cv c)) (hwaiting : s'.data.waiting = s.data.waiting)
    (hk : ∀ c, (s.pc t).dozing c → k.dozing c) (u : T) (c : Cv)
    (hu : s'.data.waiting u = some c) : (s'.pc u).dozing c ∨ u ∈ s'.chan (.cv c) := by
  rw [hwaiting] at hu
  rw [hchan c]
  refine (h.waiting u c hu).imp (fun hdozing => ?_) id
  rcases moved_cases hs' u with ⟨rfl, huk⟩ | ⟨-, huk⟩
  · rw [huk]
    exact hk c hdozing
  · rwa [huk]

lemma lock_passes (hs' : s'.pc = update s.pc t k)
    (hdata : s'.data = s.data) (hchan : ∀ c, s'.chan (.cv c) = s.chan (.cv c))
    (howns : ∀ l, k.owns l → s.data.lkOwner l = some t)
    (hreturned : ∀ c l, k ≠ .wait c l .returned)
    (hfree : ∀ caller l, k = .acquire caller l .own → s.data.lkOwner l = none)
    (hpassing : useSemaphore = true → ∀ l, k.passing l ↔ (s.pc t).passing l)
    (hdozing : ∀ c, (s.pc t).dozing c → k.dozing c) : LockInv useSemaphore s' := by
  refine lock_goes h hs' (by rw [hdata]) (fun u l hu => .inl (by rwa [hdata] at hu))
    (fun u l hu => by rwa [hdata]) howns (fun c l hk => absurd hk (hreturned c l)) hfree
    (fun hsem l => ?_) (waiting_moved h hs' hchan (by rw [hdata]) hdozing)
  rw [hdata]
  exact (h.token hsem l).congr (passing_moved hs' (hpassing hsem l))

lemma lockInv_woken (hpc : s.pc t = .wake all c l .wake)
    (hs' : s'.pc = update s.pc t (.wake all c l .unlock))
    (hdata : s'.data = s.data.woken us)
    (hchan : ∀ c' u, u ∈ s.chan (.cv c') → u ∉ us → u ∈ s'.chan (.cv c')) :
    LockInv useSemaphore s' := by
  refine lock_goes h hs' (by rw [hdata]; rfl) (fun u l' hu => .inl (by rwa [hdata] at hu))
    (fun u l' hu => by rwa [hdata]) (fun l' hk => ?_) (by simp) (by simp) (fun hsem l' => ?_)
    (fun u c' hu => ?_)
  · exact h.owns t l' (by rw [hpc]; exact hk)
  · rw [hdata]
    exact (h.token hsem l').congr (passing_moved hs' (by simp [hpc, LockPc.passing]))
  have hnot : u ∉ us ∧ s.data.waiting u = some c' := by
    rw [hdata] at hu
    simpa [LockData.woken] using hu
  refine (h.waiting u c' hnot.2).imp (fun hdozing => ?_) fun hlisted => hchan c' u hlisted hnot.1
  rcases moved_cases hs' u with ⟨rfl, huk⟩ | ⟨-, huk⟩
  · rw [hpc] at hdozing
    cases hdozing
  · rwa [huk]

end

end LockInv

end Os161.Synch
