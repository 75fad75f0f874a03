/-
**Taking the locks of a session and its partner.**

A handler reads its session, takes the locks of the session and of the partner that it names, and
reads again; when the partner is another one by then, it gives back what it has and starts over.
What comes of this is proved here for any company: of the others only those rules are asked that the
proof needs, so that handlers can be put into pools with different invariants.

Main definitions:

* `Rooms.Kept` — a program keeps to its guard among others, when no command fails;
* `Rooms.LockRules` — what is asked of the others, and of the guard;
* `Rooms.Locked` — what holds when a handler has its locks.

Main results:

* `Rooms.kept_releaseAll` — giving back all that may be held leaves nothing;
* `Rooms.kept_lockSessionAndPartner` — **a handler has the locks that it wants, or none at all**.
-/

import Pairline.Rooms.Postconditions

set_option relaxedAutoImplicit false
set_option autoImplicit false

namespace Rooms

open Matchmaker (SessionId)
open Sessions (Session Runtime Updates)
open Sessions.SessionLock (orderedIds mem_orderedIds)
open Program

/-! ### Programs among others -/

section Kept

variable (rt : Runtime) (rely : RoomStore → RoomStore → Prop) (guard : RoomCmd → RoomStore → Prop)
  {α β : Type}

/-- **A program keeps to the guard and ends in `Φ`**, while the others keep to the rely and no command
fails. -/
def Kept (p : RoomProg α) (Φ : α → RoomStore → Prop) (s : RoomStore) : Prop :=
  p.Secure (exec rt) rely guard (fun _ => False) Φ s

variable {rt rely guard} {pid : Pid} {sid : SessionId} {s t : RoomStore}

@[simp] theorem kept_ret {a : α} {Φ : α → RoomStore → Prop} :
    Kept rt rely guard (.ret a) Φ s ↔ Φ a s := Iff.rfl

/-- **One command**, with what comes after it. -/
theorem kept_room {op : RoomOp} {f : Except RoomError (RoomCmd.Reply ⟨pid, op⟩) → RoomProg α}
    {Φ : α → RoomStore → Prop} (hguard : ∀ t, rely s t → guard ⟨pid, op⟩ t)
    (hok : ∀ t x, rely s t → Kept rt rely guard (f (.ok (exec rt x ⟨pid, op⟩ t).1)) Φ
      (exec rt x ⟨pid, op⟩ t).2) :
    Kept rt rely guard ((room pid op).bind f) Φ s :=
  fun t ht => ⟨hguard t ht, fun x => hok t x ht, fun _ he => he.elim⟩

theorem Kept.mono {p : RoomProg α} {Φ Ψ : α → RoomStore → Prop} (h : Kept rt rely guard p Φ s)
    (hΦ : ∀ a s, Φ a s → Ψ a s) : Kept rt rely guard p Ψ s :=
  Secure.mono h hΦ

theorem Kept.bind {p : RoomProg α} {f : α → RoomProg β} {Ψ : β → RoomStore → Prop}
    (h : Kept rt rely guard p (fun a s => Kept rt rely guard (f a) Ψ s) s) :
    Kept rt rely guard (p.bind f) Ψ s :=
  Secure.bind h

/-- **A look at a session**, with what comes after it. -/
theorem kept_readSession {f : Option Session → RoomProg α} {Φ : α → RoomStore → Prop}
    (hguard : ∀ t, rely s t → guard ⟨pid, .getSession sid⟩ t)
    (hfound : ∀ t, rely s t → Kept rt rely guard (f (t.find sid)) Φ t) :
    Kept rt rely guard ((readSession pid sid).bind f) Φ s := by
  unfold readSession
  rw [bind_eq, bind_assoc]
  exact kept_room hguard fun t x ht => hfound t ht

/-- **An update of a session**, with what comes after it. -/
theorem kept_updateSession {updates : Updates} {f : Except RoomError Session → RoomProg α}
    {Φ : α → RoomStore → Prop} (hguard : ∀ t, rely s t → guard ⟨pid, .updateSession sid updates⟩ t)
    (hnone : ∀ t, rely s t → t.find sid = none → Kept rt rely guard (f (.error .notFound)) Φ t)
    (hsome : ∀ t x session, rely s t → t.find sid = some session →
      Kept rt rely guard (f (.ok ((session.merge updates).touchLastActivity x.now))) Φ
        (exec rt x ⟨pid, .updateSession sid updates⟩ t).2) :
    Kept rt rely guard ((updateSession pid sid updates).bind f) Φ s := by
  unfold updateSession
  rw [bind_eq, bind_assoc]
  refine kept_room hguard fun t x ht => ?_
  cases hfind : t.find sid with
  | none =>
      simp only [exec, hfind]
      exact hnone t ht hfind
  | some session =>
      have hreply := hsome t x session ht hfind
      simp only [exec, hfind] at hreply ⊢
      exact hreply

/-! ### Giving back -/

/-- The process holds no lock. -/
def HoldsNone (pid : Pid) (s : RoomStore) : Prop := ∀ sid, s.lock sid ≠ some pid

theorem lock_unlock {x : World} {sid' : SessionId} :
    (exec rt x ⟨pid, .unlock sid⟩ s).2.lock sid' = some pid ↔
      s.lock sid' = some pid ∧ sid' ≠ sid := by
  simp only [exec]
  split
  next hheld =>
      rcases eq_or_ne sid' sid with rfl | hne
      · simp
      · simp [hne]
  next hheld =>
      refine ⟨fun h => ⟨h, ?_⟩, And.left⟩
      rintro rfl
      exact hheld h

/-- **Giving back all that may be held leaves nothing.**  What has to hold meanwhile is up to the
guard. -/
theorem kept_releaseAll {J : RoomStore → Prop} (hrely : ∀ s t, J s → rely s t → J t)
    (hlocks : ∀ s t, rely s t → ∀ sid, t.lock sid = some pid ↔ s.lock sid = some pid)
    (hguard : ∀ sid s, J s → guard ⟨pid, .unlock sid⟩ s)
    (hunlock : ∀ x sid s, J s → J (exec rt x ⟨pid, .unlock sid⟩ s).2) {acquired : List SessionId}
    (hs : J s) (hheld : ∀ sid, s.lock sid = some pid → sid ∈ acquired) :
    Kept rt rely guard (releaseAll pid acquired) (fun _ t => J t ∧ HoldsNone pid t) s := by
  induction acquired generalizing s with
  | nil => exact ⟨hs, fun sid h => List.not_mem_nil (hheld sid h)⟩
  | cons sid acquired ih =>
      refine kept_room (fun t ht => hguard sid t (hrely s t hs ht)) fun t x ht => ?_
      refine ih (hunlock x sid t (hrely s t hs ht)) fun sid' h => ?_
      obtain ⟨hlock, hne⟩ := lock_unlock.1 h
      have hmem := hheld sid' ((hlocks s t ht sid').1 hlock)
      exact (List.mem_cons.1 hmem).resolve_left hne

end Kept

/-! ### Taking -/

/-- **What the locks of a process need.**  `Wanted` are the sessions whose locks it must have unless they
are gone; of these it must be `Known`, when it comes to their locks, that they never come back.  While
it is `Idle`, it may give back its locks. -/
structure LockRules (rt : Runtime) (rely : RoomStore → RoomStore → Prop)
    (guard : RoomCmd → RoomStore → Prop) (pid : Pid) (Wanted : SessionId → Prop)
    (Known : SessionId → RoomStore → Prop) (Idle : RoomStore → Prop) : Prop where
  locks : ∀ {s t}, rely s t → ∀ sid, t.lock sid = some pid ↔ s.lock sid = some pid
  idle : ∀ {s t}, rely s t → Idle s → Idle t
  known : ∀ {s t sid}, rely s t → Known sid s → Known sid t
  gone : ∀ {s t sid}, rely s t → Wanted sid → Known sid s → s.find sid = none → t.find sid = none
  seen : ∀ {s t sid partnerId session}, rely s t → t.find sid = some session →
    session.partnerId = some partnerId → Wanted partnerId → Known partnerId t
  relock : ∀ {s} x sid, Idle s → Idle (exec rt x ⟨pid, .lock sid⟩ s).2 ∧
    Idle (exec rt x ⟨pid, .unlock sid⟩ s).2
  reknow : ∀ {s sid} (lock : SessionId → Option Pid), Known sid s → Known sid { s with lock := lock }
  look : ∀ {s t} sid, rely s t → guard ⟨pid, .getSession sid⟩ t
  take : ∀ {s t} sid, rely s t → guard ⟨pid, .lock sid⟩ t
  give : ∀ {s} sid, Idle s → guard ⟨pid, .unlock sid⟩ s

section Taking

variable {rt : Runtime} {rely : RoomStore → RoomStore → Prop} {guard : RoomCmd → RoomStore → Prop}
  {pid : Pid} {Wanted : SessionId → Prop} {Known : SessionId → RoomStore → Prop}
  {Idle : RoomStore → Prop} {s t : RoomStore} {sid : SessionId}

/-- Exactly these locks are held. -/
def HoldsExactly (pid : Pid) (acquired : List SessionId) (s : RoomStore) : Prop :=
  ∀ sid, s.lock sid = some pid ↔ sid ∈ acquired

/-- What is known stays known, and what is wanted and gone stays gone. -/
structure Since (Wanted : SessionId → Prop) (Known : SessionId → RoomStore → Prop)
    (s t : RoomStore) : Prop where
  known : ∀ {sid}, Known sid s → Known sid t
  gone : ∀ {sid}, Wanted sid → Known sid s → s.find sid = none → t.find sid = none

theorem Since.refl (s : RoomStore) : Since Wanted Known s s := ⟨id, fun _ _ => id⟩

theorem Since.trans {u : RoomStore} (h : Since Wanted Known s t) (h' : Since Wanted Known t u) :
    Since Wanted Known s u :=
  ⟨fun hs => h'.known (h.known hs), fun hwanted hs hnone =>
    h'.gone hwanted (h.known hs) (h.gone hwanted hs hnone)⟩

namespace LockRules

variable (rules : LockRules rt rely guard pid Wanted Known Idle)

include rules

/-- What the others leave alone may be counted on as well. -/
theorem and {K : RoomStore → Prop} (hrely : ∀ {s t}, rely s t → K s → K t)
    (hrelock : ∀ {s} x sid, K s → K (exec rt x ⟨pid, .lock sid⟩ s).2 ∧
      K (exec rt x ⟨pid, .unlock sid⟩ s).2) :
    LockRules rt rely guard pid Wanted Known fun s => Idle s ∧ K s :=
  { rules with
    idle := fun ht h => ⟨rules.idle ht h.1, hrely ht h.2⟩
    relock := fun x sid h => ⟨⟨(rules.relock x sid h.1).1, (hrelock x sid h.2).1⟩,
      ⟨(rules.relock x sid h.1).2, (hrelock x sid h.2).2⟩⟩
    give := fun sid h => rules.give sid h.1 }

theorem since (ht : rely s t) : Since Wanted Known s t :=
  ⟨fun h => rules.known ht h, fun hwanted h hnone => rules.gone ht hwanted h hnone⟩

theorem since_relock {lock : SessionId → Option Pid} :
    Since Wanted Known s { s with lock := lock } :=
  ⟨fun h => rules.reknow lock h, fun _ _ hnone => hnone⟩

/-- A lock that is given back is all that changes. -/
theorem keeps_unlock {x : World} (hs : Idle s) : Idle (exec rt x ⟨pid, .unlock sid⟩ s).2 ∧
    Since Wanted Known s (exec rt x ⟨pid, .unlock sid⟩ s).2 := by
  refine ⟨(rules.relock x sid hs).2, ?_⟩
  simp only [exec]
  split
  · exact rules.since_relock
  · exact .refl s

theorem kept_releaseAll {acquired : List SessionId} (hs : Idle s)
    (hheld : ∀ sid, s.lock sid = some pid → sid ∈ acquired) :
    Kept rt rely guard (releaseAll pid acquired)
      (fun _ t => Idle t ∧ Since Wanted Known s t ∧ HoldsNone pid t) s := by
  have hkept := @Rooms.kept_releaseAll rt rely guard pid s (fun t => Idle t ∧ Since Wanted Known s t)
    (fun t u h hu => ⟨rules.idle hu h.1, h.2.trans (rules.since hu)⟩) (fun _ _ ht => rules.locks ht)
    (fun sid _ h => rules.give sid h.1) (fun x sid t h => ?_) acquired ⟨hs, .refl s⟩ hheld
  · exact hkept.mono fun _ t ht => ⟨ht.1.1, ht.1.2, ht.2⟩
  · obtain ⟨hidle, hsince⟩ := rules.keeps_unlock h.1
    exact ⟨hidle, h.2.trans hsince⟩

/-- What is known when the locks are taken, or one of them is not free. -/
def Acquires (pid : Pid) (Wanted : SessionId → Prop) (sids taken : List SessionId)
    (result : Option (List SessionId)) (s : RoomStore) : Prop :=
  match result with
  | some acquired => HoldsExactly pid acquired s ∧ (∀ sid ∈ taken, sid ∈ acquired) ∧
      ∀ sid ∈ sids, Wanted sid → sid ∈ acquired ∨ s.find sid = none
  | none => HoldsNone pid s

/-- **Taking the locks one by one**: all that are wanted, or none. -/
theorem kept_acquireAll {sids taken : List SessionId} (hs : Idle s)
    (hknown : ∀ sid ∈ sids, Wanted sid → Known sid s) (htaken : HoldsExactly pid taken s) :
    Kept rt rely guard (acquireAll pid sids taken)
      (fun result t => Idle t ∧ Since Wanted Known s t ∧ Acquires pid Wanted sids taken result t)
      s := by
  induction sids generalizing s taken with
  | nil => exact ⟨hs, .refl s, htaken, fun _ => id, fun _ h => absurd h List.not_mem_nil⟩
  | cons sid sids ih =>
      refine kept_room (fun t ht => rules.take sid ht) fun t x ht => ?_
      have hidle := rules.idle ht hs
      have hsince : Since Wanted Known s t := rules.since ht
      have hexactly : HoldsExactly pid taken t := fun sid' => (rules.locks ht sid').trans (htaken sid')
      have hknown' : ∀ sid' ∈ sid :: sids, Wanted sid' → Known sid' t := fun sid' hsid' hwanted =>
        rules.known ht (hknown sid' hsid' hwanted)
      by_cases hgone : (t.find sid).isNone = true
      · -- without a route there is no lock, now or later
        simp only [exec, if_pos hgone]
        refine (ih hidle (fun sid' hsid' => hknown' sid' (List.mem_cons_of_mem _ hsid'))
          hexactly).mono fun result u hu => ?_
        obtain ⟨hidle', hsince', hresult⟩ := hu
        refine ⟨hidle', hsince.trans hsince', ?_⟩
        cases result with
        | none => exact hresult
        | some acquired =>
            obtain ⟨hall, hsubset, hrest⟩ := hresult
            refine ⟨hall, hsubset, List.forall_mem_cons.2 ⟨fun hwanted => .inr ?_, hrest⟩⟩
            exact hsince'.gone hwanted (hknown' sid List.mem_cons_self hwanted)
              (Option.isNone_iff_eq_none.1 hgone)
      · by_cases hheld : (t.lock sid).isSome = true
        · simp only [exec, if_neg hgone, if_pos hheld]
          refine Kept.bind ((rules.kept_releaseAll hidle fun sid' h => (hexactly sid').1 h).mono ?_)
          rintro ⟨⟩ u ⟨hidle', hsince', hnone⟩
          exact ⟨hidle', hsince.trans hsince', hnone⟩
        · simp only [exec, if_neg hgone, if_neg hheld]
          have hfree : t.lock sid = none := by simpa using hheld
          have hidle' := (rules.relock x sid hidle).1
          simp only [exec, if_neg hgone, if_neg hheld] at hidle'
          have hnow : HoldsExactly pid (taken ++ [sid])
              { t with lock := Function.update t.lock sid (some pid) } := by
            intro sid'
            rw [List.mem_append, List.mem_singleton, ← hexactly sid']
            rcases eq_or_ne sid' sid with rfl | hne
            · simp
            · simp [hne]
          refine (ih hidle' (fun sid' hsid' hwanted => rules.reknow _
            (hknown' sid' (List.mem_cons_of_mem _ hsid') hwanted)) hnow).mono fun result u hu => ?_
          obtain ⟨hidle', hsince', hresult⟩ := hu
          refine ⟨hidle', hsince.trans (rules.since_relock.trans hsince'), ?_⟩
          cases result with
          | none => exact hresult
          | some acquired =>
              obtain ⟨hall, hsubset, hrest⟩ := hresult
              refine ⟨hall, fun sid' h => hsubset sid' (List.mem_append_left _ h),
                List.forall_mem_cons.2 ⟨fun _ => .inl ?_, hrest⟩⟩
              exact hsubset sid (List.mem_append_right _ (List.mem_singleton_self sid))

end LockRules

/-- **A handler has its locks**: those that it has acquired and no others, and with them those of the
session and of the partner that the session names, unless they are gone. -/
structure Locked (pid : Pid) (Wanted : SessionId → Prop) (sid : SessionId) (held : Held)
    (s : RoomStore) : Prop where
  exactly : HoldsExactly pid held.acquired s
  session : held.session = s.find sid
  own : Wanted sid → s.lock sid = some pid ∨ s.find sid = none
  partner : ∀ session partnerId, held.session = some session → session.partnerId = some partnerId →
    Wanted partnerId → s.lock partnerId = some pid ∨ s.find partnerId = none

/-- **The locks of a session and its partner**: they are all held in the end, or none is. -/
theorem LockRules.kept_lockSessionAndPartner
    (rules : LockRules rt rely guard pid Wanted Known Idle) {attempts lockRetries partnerRetries : ℕ}
    (hs : Idle s) (hknown : Known sid s) (hnone : HoldsNone pid s) :
    Kept rt rely guard (lockSessionAndPartner pid sid attempts lockRetries partnerRetries)
      (fun held t => Idle t ∧ Known sid t ∧ match held with
        | some held => Locked pid Wanted sid held t
        | none => HoldsNone pid t) s := by
  induction attempts generalizing s lockRetries partnerRetries with
  | zero => exact ⟨hs, hknown, hnone⟩
  | succ attempts ih =>
      rcases lockRetries with _ | lockRetries
      · exact ⟨hs, hknown, hnone⟩
      rcases partnerRetries with _ | partnerRetries
      · exact ⟨hs, hknown, hnone⟩
      unfold lockSessionAndPartner
      rw [bind_eq]
      refine kept_readSession (fun t ht => rules.look sid ht) fun t ht => ?_
      have hidle := rules.idle ht hs
      have hknown' := rules.known ht hknown
      -- the partner that the session names now is the one whose lock is taken
      generalize hpartner : (t.find sid).bind Session.partnerId = partnerId
      have hids : ∀ sid' ∈ orderedIds [some sid, partnerId], Wanted sid' → Known sid' t := by
        intro sid' hmem hwanted
        rcases List.mem_cons.1 (mem_orderedIds.1 hmem) with hself | hmem
        · exact Option.some_inj.1 hself ▸ hknown'
        · obtain ⟨session, hfind, hnames⟩ := Option.bind_eq_some_iff.1
            (hpartner.trans (List.mem_singleton.1 hmem).symm)
          exact rules.seen ht hfind hnames hwanted
      have hempty : HoldsExactly pid [] t := fun sid' =>
        ⟨fun h => absurd ((rules.locks ht sid').1 h) (hnone sid'), fun h => absurd h List.not_mem_nil⟩
      rw [bind_eq]
      refine Kept.bind ((rules.kept_acquireAll hidle hids hempty).mono fun result u hu => ?_)
      obtain ⟨hidle', hsince, hresult⟩ := hu
      cases result with
      | none => exact ih hidle' (hsince.known hknown') hresult
      | some acquired =>
          obtain ⟨hexactly, -, hall⟩ := hresult
          refine kept_readSession (fun v hv => rules.look sid hv) fun v hv => ?_
          have hidle'' := rules.idle hv hidle'
          have hknown'' := rules.known hv (hsince.known hknown')
          have hexactly' : HoldsExactly pid acquired v :=
            fun sid' => (rules.locks hv sid').trans (hexactly sid')
          have hall' : ∀ sid', some sid' ∈ [some sid, partnerId] → Wanted sid' →
              v.lock sid' = some pid ∨ v.find sid' = none := by
            intro sid' hmem hwanted
            have hmem' := mem_orderedIds.2 hmem
            rcases hall sid' hmem' hwanted with hheld | hgone
            · exact .inl ((hexactly' sid').2 hheld)
            · exact .inr (rules.gone hv hwanted (hsince.known (hids sid' hmem' hwanted)) hgone)
          have hown := hall' sid List.mem_cons_self
          cases hfind : v.find sid with
          | none =>
              exact ⟨hidle'', hknown'', hexactly', hfind.symm, hown, fun _ _ h =>
                absurd h (Option.some_ne_none _).symm⟩
          | some session =>
              dsimp only
              split
              next hchanged =>
                  refine Kept.bind ((rules.kept_releaseAll hidle'' fun sid' h => ?_).mono ?_)
                  · exact List.mem_reverse.2 ((hexactly' sid').1 h)
                  · rintro ⟨⟩ w ⟨hidle, hsince, hnone⟩
                    exact ih hidle (hsince.known hknown'') hnone
              next hsame =>
                  refine ⟨hidle'', hknown'', hexactly', hfind.symm, hown, ?_⟩
                  rintro found partnerId' hfound hnames hwanted
                  obtain rfl := Option.some_inj.1 hfound
                  refine hall' partnerId' ?_ hwanted
                  rw [← hnames, not_not.1 hsame]
                  exact List.mem_cons_of_mem _ (List.mem_singleton_self _)

end Taking

end Rooms
