/-
**Refreshes and updates that respect a deletion.**

Refreshes, updates and deletions of a session read where the session is and write there afterwards.
An operation on a session keeps to a guard: it writes a record only where it belongs, and to a session
without a record it adds nothing.  It keeps to this guard when the others, while it is under way, do
not take the record away that it has found.

Main definitions:

* `Sessions.Entry.Gone`, `Sessions.Entry.Cleared`, `Sessions.Entry.Shrinks` — a session without a
  record, one that is deleted, and the shrinking of its keys;
* `Sessions.Placed` — every record lies where it belongs;
* `Sessions.Steady`, `Sessions.Rely`, `Sessions.Guard` — what an operation relies on and keeps to;
* `Sessions.Live`, `Sessions.Absent`, `Sessions.Found` — what it knows of the session.

Main results:

* `Sessions.placed_execAll`, `Sessions.present_execAll` — what a command does to the records;
* `Sessions.guarded_resolveSessionRoute` — **what an operation knows of the route it has found**;
* `Sessions.guarded_refreshSession`, `Sessions.guarded_updateSession` — refreshes and updates keep to
  the guard.
-/

import Pairline.Sessions.Deletion

set_option relaxedAutoImplicit false
set_option autoImplicit false

namespace Sessions

open Matchmaker (SessionId)
open Program Transition

/-! ### Sessions without a record -/

/-- **The session has no record**, under any route. -/
def Entry.Gone (entry : Entry) : Prop := ∀ route, (entry.hot route).data = none

/-- **The session is deleted**: it has no record, no locator and is not active. -/
structure Entry.Cleared (entry : Entry) : Prop where
  gone : entry.Gone
  locator : entry.locator = none
  active : entry.active = false

/-- **Nothing is there that was not there before**: no record, no active locator and no membership
in an index. -/
structure Entry.Shrinks (before after : Entry) : Prop where
  record : ∀ route, (before.hot route).data = none → (after.hot route).data = none
  locator : before.locator = none → after.locator = none
  ipLocator : before.ipLocator = none → after.ipLocator = none
  active : before.active = false → after.active = false
  ipSessions : ∀ ip, before.ipSessions ip = false → after.ipSessions ip = false

theorem Entry.Shrinks.refl (entry : Entry) : entry.Shrinks entry :=
  ⟨fun _ => id, id, id, id, fun _ => id⟩

theorem Entry.Shrinks.trans {a b c : Entry} (h : a.Shrinks b) (h' : b.Shrinks c) : a.Shrinks c :=
  ⟨fun route ha => h'.record route (h.record route ha), fun ha => h'.locator (h.locator ha),
    fun ha => h'.ipLocator (h.ipLocator ha), fun ha => h'.active (h.active ha),
    fun ip ha => h'.ipSessions ip (h.ipSessions ip ha)⟩

theorem Entry.Shrinks.gone {a b : Entry} (h : a.Shrinks b) (ha : a.Gone) : b.Gone :=
  fun route => h.record route (ha route)

theorem Entry.Shrinks.cleared {a b : Entry} (h : a.Shrinks b) (ha : a.Cleared) : b.Cleared :=
  ⟨h.gone ha.gone, h.locator ha.locator, h.active ha.active⟩

section Place

variable (rt : Runtime) (routeOf : SessionId → Route)

/-- Every record lies under the route of its session and bears its name. -/
def Placed (s : Store) : Prop :=
  ∀ sid route session, ((s sid).hot route).data = some session →
    route = routeOf sid ∧ session.id = sid ∧ routeForSession rt session = routeOf sid

/-- An update keeps the name and the route of a session. -/
def KeepsPlace (sid : SessionId) (updates : Updates) : Prop :=
  updates.id.getD sid = sid ∧ ∀ session : Session, routeForSession rt session = routeOf sid →
    routeForSession rt (session.merge updates) = routeOf sid

/-- A command writes a record only where it belongs. -/
def Sound : StoreCmd → Prop
  | .inl ⟨sid, .persistScript route session _ _⟩ =>
      route = routeOf sid ∧ session.id = sid ∧ routeForSession rt session = routeOf sid
  | .inl ⟨sid, .updateScript _ updates _⟩ => KeepsPlace rt routeOf sid updates
  | _ => True

/-- A command removes the record of the session. -/
def Removes (sid : SessionId) : StoreCmd → Prop
  | .inl ⟨sid', .delHot _⟩ => sid' = sid
  | .inr ⟨sid', .deleteScript _⟩ => sid' = sid
  | _ => False

end Place

variable {rt : Runtime} {routeOf : SessionId → Route}

theorem atRoute_data {entry : Entry} {route route' : Route} {f : Hot → Hot} :
    ((entry.atRoute route f).hot route').data =
      if route' = route then (f (entry.hot route)).data else (entry.hot route').data := by
  simp only [Entry.atRoute, Function.update_apply]
  split_ifs with h <;> rfl

theorem routeForSession_touchLastActivity (session : Session) (now : ℤ) :
    routeForSession rt (session.touchLastActivity now) = routeForSession rt session := rfl

/-- The keys of the session after a command. -/
theorem execAll_snd_self (c : StoreCmd) (s : Store) : (execAll c s).2 c.sid =
    match c with
    | .inl c => (c.op.exec (s c.sid)).2
    | .inr c => c.op.exec (s c.sid) := by
  cases c with
  | inl c => exact Function.update_self _ _ _
  | inr c => exact Function.update_self _ _ _

/-- **Where a record comes from**: it was there, it was touched or updated in place, or it was
written as a whole. -/
theorem data_of_exec {op : Op} {entry : Entry} {route : Route} {session : Session}
    (h : ((op.exec entry).2.hot route).data = some session) :
    (entry.hot route).data = some session ∨
      (∃ old, (entry.hot route).data = some old ∧
        ((∃ now, op = .touchScript route now ∧ session = old.touchLastActivity now) ∨
          ∃ updates now, op = .updateScript route updates now ∧
            session = (old.merge updates).touchLastActivity now)) ∨
      ∃ token queueMeta, op = .persistScript route session token queueMeta := by
  cases op <;> simp only [Op.exec, atRoute_data] at h
  case touchScript route' now =>
    split at h
    next => exact .inl h
    next old hget =>
      simp only [atRoute_data] at h
      split_ifs at h with hroute
      · subst hroute
        exact .inr (.inl ⟨old, hget, .inl ⟨now, rfl, (Option.some_inj.1 h).symm⟩⟩)
      · exact .inl h
  case updateScript route' updates now =>
    split at h
    next => exact .inl h
    next old hget =>
      simp only [atRoute_data] at h
      split_ifs at h with hroute
      · subst hroute
        exact .inr (.inl ⟨old, hget, .inr ⟨updates, now, rfl, (Option.some_inj.1 h).symm⟩⟩)
      · exact .inl h
  case persistScript route' session' token queueMeta =>
    split_ifs at h with hroute
    · subst hroute
      obtain rfl := Option.some_inj.1 h
      exact .inr (.inr ⟨token, queueMeta, rfl⟩)
    · exact .inl h
  case delHot route' =>
    split_ifs at h
    exact .inl h
  case setexOwner route' owner =>
    split_ifs at h with hroute
    · exact .inl (hroute ▸ h)
    · exact .inl h
  all_goals exact .inl h

theorem data_of_deletion {op : DeletionOp} {entry : Entry} {route : Route} {session : Session}
    (h : ((op.exec entry).hot route).data = some session) :
    (entry.hot route).data = some session := by
  cases op <;> simp only [DeletionOp.exec, atRoute_data] at h
  case deleteScript route' =>
    split_ifs at h
    exact h
  all_goals exact h

/-- **Sound commands keep every record in its place.** -/
theorem placed_execAll {c : StoreCmd} {s : Store} (hs : Placed rt routeOf s)
    (hc : Sound rt routeOf c) : Placed rt routeOf (execAll c s).2 := by
  intro sid route session hdata
  rcases eq_or_ne c.sid sid with rfl | hne
  · rw [execAll_snd_self] at hdata
    rcases c with ⟨sid, op⟩ | ⟨sid, op⟩
    · rcases data_of_exec hdata with hdata | ⟨old, hget, hop⟩ | ⟨token, queueMeta, rfl⟩
      · exact hs sid route session hdata
      · obtain ⟨hroute, hid, hplace⟩ := hs sid route old hget
        rcases hop with ⟨now, rfl, rfl⟩ | ⟨updates, now, rfl, rfl⟩
        · exact ⟨hroute, hid, hplace⟩
        · exact ⟨hroute, (congrArg updates.id.getD hid).trans hc.1, hc.2 old hplace⟩
      · exact hc
    · exact hs sid route session (data_of_deletion hdata)
  · rw [execAll_snd_of_ne hne] at hdata
    exact hs sid route session hdata

/-- **Only a removal takes away a record.** -/
theorem present_execAll {c : StoreCmd} {s : Store} {sid : SessionId} (hc : ¬ Removes sid c)
    (hs : ¬ (s sid).Gone) : ¬ ((execAll c s).2 sid).Gone := by
  intro hgone
  refine hs fun route => ?_
  have hnone := hgone route
  rcases eq_or_ne c.sid sid with rfl | hne
  · rw [execAll_snd_self] at hnone
    rcases c with ⟨sid, op⟩ | ⟨sid, op⟩
    · cases op <;> simp only [Op.exec, atRoute_data] at hnone
      case touchScript route' now =>
        split at hnone
        next => exact hnone
        next old hget =>
          simp only [atRoute_data] at hnone
          split_ifs at hnone
          exact hnone
      case updateScript route' updates now =>
        split at hnone
        next => exact hnone
        next old hget =>
          simp only [atRoute_data] at hnone
          split_ifs at hnone
          exact hnone
      case persistScript route' session token queueMeta =>
        split_ifs at hnone
        exact hnone
      case setexOwner route' owner =>
        split_ifs at hnone with hroute
        · exact hroute ▸ hnone
        · exact hnone
      case delHot route' => exact absurd rfl hc
      all_goals exact hnone
    · cases op <;> simp only [DeletionOp.exec, atRoute_data] at hnone
      case deleteScript route' => exact absurd rfl hc
      all_goals exact hnone
  · rwa [execAll_snd_of_ne hne] at hnone

/-! ### Commands that only take away -/

/-- The command leaves nothing that was not there. -/
def Op.Shrinking (op : Op) : Prop := ∀ entry, Entry.Shrinks entry (op.exec entry).2

/-- The command changes nothing. -/
def Op.Reading (op : Op) : Prop := ∀ entry, (op.exec entry).2 = entry

theorem Op.Reading.shrinking {op : Op} (h : op.Reading) : op.Shrinking := by
  intro entry
  rw [h entry]
  exact .refl entry

theorem shrinking_delLocator : Op.delLocator.Shrinking :=
  fun _ => ⟨fun _ => id, fun _ => rfl, id, id, fun _ => id⟩

theorem shrinking_delReportLocator : Op.delReportLocator.Shrinking :=
  fun _ => ⟨fun _ => id, id, id, id, fun _ => id⟩

theorem shrinking_delReportKind : Op.delReportKind.Shrinking :=
  fun _ => ⟨fun _ => id, id, id, id, fun _ => id⟩

theorem shrinking_delIpLocator : Op.delIpLocator.Shrinking :=
  fun _ => ⟨fun _ => id, id, fun _ => rfl, id, fun _ => id⟩

theorem shrinking_sremActive : Op.sremActive.Shrinking :=
  fun _ => ⟨fun _ => id, id, id, fun _ => rfl, fun _ => id⟩

/-- Taking an address out of the index of a session leaves the other addresses as they are. -/
theorem ipSessions_update_false {ipSessions : String → Bool} {ip ip' : String}
    (h : ipSessions ip' = false) : Function.update ipSessions ip false ip' = false := by
  rw [Function.update_apply]
  split_ifs
  · rfl
  · exact h

theorem shrinking_sremIp (ip : String) : (Op.sremIp ip).Shrinking :=
  fun _ => ⟨fun _ => id, id, id, id, fun _ => ipSessions_update_false⟩

theorem shrinking_delHot (route : Route) : (Op.delHot route).Shrinking := by
  refine fun entry => ⟨fun route' h => ?_, id, id, id, fun _ => id⟩
  simp only [Op.exec, atRoute_data]
  split_ifs
  · rfl
  · exact h

/-- The commands of a deletion only take away, reports aside. -/
theorem shrinks_deletion (op : DeletionOp) (entry : Entry) : entry.Shrinks (op.exec entry) := by
  cases op with
  | deleteScript route =>
      refine ⟨fun route' h => ?_, id, id, id, fun _ => id⟩
      simp only [DeletionOp.exec, atRoute_data]
      split_ifs
      · rfl
      · exact h
  | cleanupIpSessionsScript ip => exact ⟨fun _ => id, id, id, id, fun _ => ipSessions_update_false⟩
  | _ => exact ⟨fun _ => id, id, id, id, fun _ => id⟩

/-! ### What the operations rely on and keep to -/

/-- **The rest of the world leaves the session's record where it is**, and adds nothing to a session
without one. -/
structure Steady (sid : SessionId) (s t : Store) : Prop where
  shrinks : (s sid).Gone → (s sid).Shrinks (t sid)
  present : ¬ (s sid).Gone → ¬ (t sid).Gone

theorem Steady.refl (sid : SessionId) (s : Store) : Steady sid s s :=
  ⟨fun _ => .refl _, id⟩

theorem Steady.trans {sid : SessionId} {s t u : Store} (h : Steady sid s t) (h' : Steady sid t u) :
    Steady sid s u :=
  ⟨fun hs => (h.shrinks hs).trans (h'.shrinks ((h.shrinks hs).gone hs)),
    fun hs => h'.present (h.present hs)⟩

/-- The errors with which a command can fail. -/
def Faulty : Reason → Prop
  | .redis _ => True
  | _ => False

section Rules

variable (rt routeOf) (sid o : SessionId)

/-- What an operation on the session `o` relies on, where `sid` is the session in question. -/
def Rely (s t : Store) : Prop := Placed rt routeOf t ∧ (o = sid → Steady sid s t)

/-- What an operation on the session `o` keeps to: it writes records where they belong, and adds
nothing to a session without one. -/
def Guard (c : StoreCmd) (s : Store) : Prop :=
  c.sid = o ∧ Sound rt routeOf c ∧
    (o = sid → (s sid).Gone → (s sid).Shrinks ((execAll c s).2 sid))

/-- A program of the store keeps to the guard and ends in `Φ`. -/
def Guarded {α : Type} (p : Prog α) (Φ : α → Store → Prop) (s : Store) : Prop :=
  p.Secure (fun _ : Unit => exec) (Rely rt routeOf sid o) (fun c => Guard rt routeOf sid o (.inl c))
    Faulty Φ s

/-- The session has a record, if it is the one in question. -/
def Live (s : Store) : Prop := Placed rt routeOf s ∧ (o = sid → ¬ (s sid).Gone)

end Rules

section Rules

variable {sid o : SessionId} {s t : Store} {α β : Type} {Φ : α → Store → Prop}

theorem Live.rely (h : Live rt routeOf sid o s) (hrely : Rely rt routeOf sid o s t) :
    Live rt routeOf sid o t :=
  ⟨hrely.1, fun ho => (hrely.2 ho).present (h.2 ho)⟩

theorem Live.exec {op : Op} (h : Live rt routeOf sid o s) (hsound : Sound rt routeOf (.inl ⟨o, op⟩))
    (hop : ¬ Removes sid (.inl ⟨o, op⟩)) : Live rt routeOf sid o (exec ⟨o, op⟩ s).2 :=
  ⟨@placed_execAll rt routeOf (.inl ⟨o, op⟩) s h.1 hsound,
    fun ho => @present_execAll (.inl ⟨o, op⟩) s sid hop (h.2 ho)⟩

/-- A session that is found under a route is there. -/
theorem live_of_data {route : Route} {session : Session} (hs : Placed rt routeOf s)
    (h : ((s o).hot route).data = some session) :
    Live rt routeOf sid o s ∧ route = routeOf o ∧ session.id = o ∧
      routeForSession rt session = routeOf o := by
  refine ⟨⟨hs, ?_⟩, hs o route session h⟩
  rintro rfl hgone
  rw [hgone route] at h
  cases h

theorem guarded_ret {a : α} : Guarded rt routeOf sid o (.ret a) Φ s ↔ Φ a s := Iff.rfl

theorem Guarded.bind {p : Prog α} {f : α → Prog β} {Ψ : β → Store → Prop}
    (h : Guarded rt routeOf sid o p Φ s)
    (hf : ∀ a t, Φ a t → Guarded rt routeOf sid o (f a) Ψ t) :
    Guarded rt routeOf sid o (p.bind f) Ψ s :=
  Secure.bind (h.mono hf)

/-- **One command**, with what comes after it. -/
theorem guarded_redis {op : Op} {f : Except Reason op.Reply → Prog α}
    (hguard : ∀ t, Rely rt routeOf sid o s t → Guard rt routeOf sid o (.inl ⟨o, op⟩) t)
    (hok : ∀ t, Rely rt routeOf sid o s t →
      Guarded rt routeOf sid o (f (.ok (op.exec (t o)).1)) Φ (exec ⟨o, op⟩ t).2)
    (herror : ∀ t e, Rely rt routeOf sid o s t → Faulty e →
      Guarded rt routeOf sid o (f (.error e)) Φ t) :
    Guarded rt routeOf sid o ((redis o op).bind f) Φ s :=
  fun t ht => ⟨hguard t ht, fun _ => hok t ht, fun e he => herror t e ht he⟩

theorem exec_shrinks {op : Op} (hop : op.Shrinking) :
    (s sid).Shrinks ((exec ⟨o, op⟩ s).2 sid) := by
  rcases eq_or_ne o sid with rfl | hne
  · exact (hop (s o)).trans (by
      rw [show (exec ⟨o, op⟩ s).2 o = (op.exec (s o)).2 from Function.update_self _ _ _]
      exact .refl _)
  · rw [exec_snd_of_ne hne]
    exact .refl _

/-- A command that only takes away keeps to the guard in any store. -/
theorem guard_of_shrinking {op : Op} (hsound : Sound rt routeOf (.inl ⟨o, op⟩))
    (hop : op.Shrinking) : Guard rt routeOf sid o (.inl ⟨o, op⟩) s :=
  ⟨rfl, hsound, fun _ _ => exec_shrinks hop⟩

/-- Any sound command keeps to the guard while the session has a record. -/
theorem Live.guard {op : Op} (hsound : Sound rt routeOf (.inl ⟨o, op⟩))
    (h : Live rt routeOf sid o s) : Guard rt routeOf sid o (.inl ⟨o, op⟩) s :=
  ⟨rfl, hsound, fun ho hgone => absurd hgone (h.2 ho)⟩

/-- A command that reads. -/
theorem guarded_read {op : Op} {f : Except Reason op.Reply → Prog α}
    (hsound : Sound rt routeOf (.inl ⟨o, op⟩)) (hop : op.Reading)
    (hok : ∀ t, Rely rt routeOf sid o s t →
      Guarded rt routeOf sid o (f (.ok (op.exec (t o)).1)) Φ t)
    (herror : ∀ t e, Rely rt routeOf sid o s t → Faulty e →
      Guarded rt routeOf sid o (f (.error e)) Φ t) :
    Guarded rt routeOf sid o ((redis o op).bind f) Φ s := by
  refine guarded_redis (fun _ _ => guard_of_shrinking hsound hop.shrinking) (fun t ht => ?_) herror
  have hsame : (exec ⟨o, op⟩ t).2 = t := by
    rw [exec, hop (t o), Function.update_eq_self]
  rw [hsame]
  exact hok t ht

/-- **What the others leave alone, a program that reads leaves alone.** -/
theorem Guarded.frame {p : Prog α} {F : Store → Prop} (h : Guarded rt routeOf sid o p Φ s)
    (hreading : p.All fun c => c.op.Reading)
    (hF : ∀ s t, F s → Rely rt routeOf sid o s t → F t) (hs : F s) :
    Guarded rt routeOf sid o p (fun a t => Φ a t ∧ F t) s := by
  induction p generalizing s with
  | ret a => exact ⟨h, hs⟩
  | call c next ih =>
      intro t ht
      obtain ⟨hguard, hok, herror⟩ := h t ht
      have hsame : (exec c t).2 = t := by
        rw [exec, hreading.1 (t c.sid), Function.update_eq_self]
      refine ⟨hguard, fun x => ?_, fun e he => ih _ (herror e he) (hreading.2 _) (hF s t hs ht)⟩
      exact ih _ (hok x) (hreading.2 _) (hsame.symm ▸ hF s t hs ht)

/-- **A pipeline of commands that only take away.** -/
theorem guarded_pipeline_of_shrinking {ops : List Op}
    (hops : ∀ op ∈ ops, Sound rt routeOf (.inl ⟨o, op⟩) ∧ op.Shrinking) {f : Except Reason Unit → Prog α}
    (hf : ∀ result t, Guarded rt routeOf sid o (f result) Φ t) :
    Guarded rt routeOf sid o ((pipeline o ops).bind f) Φ s := by
  induction ops generalizing s f with
  | nil => exact hf _ s
  | cons op ops ih =>
      obtain ⟨hop, hops⟩ := List.forall_mem_cons.1 hops
      rw [pipeline, List.map_cons, pipeline_cons_bind]
      exact fun t _ => ⟨guard_of_shrinking hop.1 hop.2,
        fun _ => ih hops fun result t => hf _ t, fun _ _ => ih hops fun result t => hf _ t⟩

/-- **A pipeline of commands while the session has a record.** -/
theorem guarded_pipeline_of_live {ops : List Op}
    (hops : ∀ op ∈ ops, Sound rt routeOf (.inl ⟨o, op⟩) ∧ ¬ Removes sid (.inl ⟨o, op⟩))
    (hs : Live rt routeOf sid o s) {f : Except Reason Unit → Prog α}
    (hf : ∀ result t, Live rt routeOf sid o t → Guarded rt routeOf sid o (f result) Φ t) :
    Guarded rt routeOf sid o ((pipeline o ops).bind f) Φ s := by
  induction ops generalizing s f with
  | nil => exact hf _ s hs
  | cons op ops ih =>
      obtain ⟨hop, hops⟩ := List.forall_mem_cons.1 hops
      rw [pipeline, List.map_cons, pipeline_cons_bind]
      intro t ht
      have hlive := hs.rely ht
      exact ⟨hlive.guard hop.1,
        fun _ => ih hops (hlive.exec hop.1 hop.2) fun result t => hf _ t,
        fun _ _ => ih hops hlive fun result t => hf _ t⟩

end Rules

/-! ### Finding the session -/

section Finding

variable {sid o : SessionId} {s t : Store}

/-- The session has no record, if it is the one in question. -/
def Absent (sid o : SessionId) (s : Store) : Prop := o = sid → (s sid).Gone

theorem Absent.rely (h : Absent sid o s) (hrely : Rely rt routeOf sid o s t) : Absent sid o t :=
  fun ho => ((hrely.2 ho).shrinks (h ho)).gone (h ho)

/-- A route under which no record is found is not that of a session with a record. -/
theorem absent_of_data (hs : Placed rt routeOf s) (h : ((s o).hot (routeOf o)).data = none) :
    Absent sid o s := by
  rintro rfl route
  by_contra hsome
  obtain ⟨session, hsession⟩ := Option.ne_none_iff_exists'.1 hsome
  rw [(hs o route session hsession).1, h] at hsession
  cases hsession

/-- What a pipeline of `EXISTS` tells of a route. -/
def Tells (rt : Runtime) (routeOf : SessionId → Route) (sid o : SessionId) (s : Store)
    (found : Route × Bool) : Prop :=
  (found.2 = true → Live rt routeOf sid o s ∧ found.1 = routeOf o) ∧
    (found.2 = false → found.1 = routeOf o → Absent sid o s)

theorem Tells.rely {found : Route × Bool} (h : Tells rt routeOf sid o s found)
    (hrely : Rely rt routeOf sid o s t) : Tells rt routeOf sid o t found :=
  ⟨fun hfound => ⟨(h.1 hfound).1.rely hrely, (h.1 hfound).2⟩,
    fun hfound hroute => (h.2 hfound hroute).rely hrely⟩

theorem tells_exists (hs : Placed rt routeOf s) (route : Route) :
    Tells rt routeOf sid o s (route, ((s o).hot route).data.isSome) := by
  constructor
  · intro hfound
    obtain ⟨session, hsession⟩ := Option.isSome_iff_exists.1 hfound
    obtain ⟨hlive, hroute, -⟩ := live_of_data hs hsession
    exact ⟨hlive, hroute⟩
  · rintro hfound rfl
    exact absent_of_data hs (Option.isSome_eq_false_iff.1 hfound |> Option.isNone_iff_eq_none.1)

theorem reading_existsPipeline (routes : List Route) :
    (existsPipeline o routes).All fun c => c.op.Reading := by
  induction routes with
  | nil => trivial
  | cons route routes ih =>
      refine ⟨fun _ => rfl, fun reply => ih.bind fun rest => ?_⟩
      cases reply <;> trivial

/-- The error of a failed command, or none. -/
def OkOrFaulty {α : Type} (result : Except Reason α) : Prop := ∀ e, result = .error e → Faulty e

theorem okOrFaulty_error {α : Type} {e : Reason} (he : Faulty e) :
    OkOrFaulty (.error e : Except Reason α) := by
  intro e' h
  obtain rfl := Except.error.inj h
  exact he

/-- What a pipeline of `EXISTS` tells when it has ended. -/
theorem guarded_existsPipeline (routes : List Route) (hs : Placed rt routeOf s) :
    Guarded rt routeOf sid o (existsPipeline o routes) (fun result t => Placed rt routeOf t ∧
      OkOrFaulty result ∧ ∀ results, result = .ok results → results.length = routes.length ∧
        ∀ found ∈ routes.zip results, Tells rt routeOf sid o t found) s := by
  induction routes generalizing s with
  | nil =>
      refine ⟨hs, (fun e h => by cases h), fun results h => ?_⟩
      obtain rfl := Except.ok.inj h
      exact ⟨rfl, fun _ h => absurd h List.not_mem_nil⟩
  | cons route routes ih =>
      refine guarded_read trivial (fun _ => rfl) (fun t ht => ?_) fun t e ht he => ?_
      · -- what the first reply tells stays known through the rest
        have hrest := (ih ht.1).frame (reading_existsPipeline routes)
          (fun _ _ h hrely => Tells.rely h hrely) (tells_exists ht.1 route)
        refine hrest.bind fun result u hu => ?_
        obtain ⟨⟨hplaced, herror, hok⟩, htells⟩ := hu
        cases result with
        | ok results =>
            refine ⟨hplaced, (fun e h => by cases h), ?_⟩
            rintro _ h
            obtain rfl := Except.ok.inj h
            obtain ⟨hlength, htells'⟩ := hok results rfl
            refine ⟨congrArg (· + 1) hlength, fun found hfound => ?_⟩
            rcases List.mem_cons.1 hfound with rfl | hfound
            · exact htells
            · exact htells' found hfound
        | error e => exact ⟨hplaced, okOrFaulty_error (herror e rfl), fun _ h => by cases h⟩
      · refine (ih ht.1).bind fun result u hu => ⟨hu.1, okOrFaulty_error he, fun _ h => by cases h⟩

/-- Every route that was asked for has its reply. -/
theorem exists_mem_zip {routes : List Route} {results : List Bool} {route : Route}
    (hlength : results.length = routes.length) (h : route ∈ routes) :
    ∃ found, (route, found) ∈ routes.zip results := by
  induction routes generalizing results with
  | nil => exact absurd h List.not_mem_nil
  | cons route' routes ih =>
      cases results with
      | nil => cases hlength
      | cons found results =>
          rcases List.mem_cons.1 h with rfl | h
          · exact ⟨found, List.mem_cons_self⟩
          · obtain ⟨found', hfound'⟩ := ih (Nat.succ.inj hlength) h
            exact ⟨found', List.mem_cons_of_mem _ hfound'⟩

theorem mem_candidateRoutes (hshards : 0 < rt.matchShardCount) (session : Session) :
    routeForSession rt session ∈ candidateRoutes rt := by
  have hmode : Matchmaker.normalizeMode session.preferences.mode ∈ Matchmaker.allowedModes := by
    unfold Matchmaker.normalizeMode
    split_ifs with h
    · exact h
    · decide
  refine List.mem_flatMap.2 ⟨_, hmode, List.mem_map.2 ⟨_, ?_, rfl⟩⟩
  exact List.mem_range.2 (Nat.mod_lt _ hshards)

/-- What an operation knows of the route that it has found, or not found. -/
structure Found (rt : Runtime) (routeOf : SessionId → Route) (sid o : SessionId)
    (result : Except Reason Route) (s : Store) : Prop where
  placed : Placed rt routeOf s
  live : ∀ route, result = .ok route → Live rt routeOf sid o s ∧ route = routeOf o
  absent : result = .error .notFound → Absent sid o s

theorem found_of_faulty {e : Reason} (hs : Placed rt routeOf s) (he : Faulty e) :
    Found rt routeOf sid o (.error e) s := by
  refine ⟨hs, (fun _ h => by cases h), fun h => ?_⟩
  obtain rfl := Except.error.inj h
  exact absurd he id

theorem found_of_live (hs : Live rt routeOf sid o s) :
    Found rt routeOf sid o (.ok (routeOf o)) s := by
  refine ⟨hs.1, fun route h => ?_, fun h => by cases h⟩
  obtain rfl := Except.ok.inj h
  exact ⟨hs, rfl⟩

/-- **Where the record of a session is found, and when it is not.** -/
theorem guarded_findSessionRoute (hshards : 0 < rt.matchShardCount)
    (hs : Placed rt routeOf s) :
    Guarded rt routeOf sid o (findSessionRoute rt o) (Found rt routeOf sid o) s := by
  refine (guarded_existsPipeline (candidateRoutes rt) hs).bind fun result t ht => ?_
  obtain ⟨hplaced, herror, hok⟩ := ht
  cases result with
  | error e => exact found_of_faulty hplaced (herror e rfl)
  | ok results =>
      obtain ⟨hlength, htells⟩ := hok results rfl
      cases hfind : ((candidateRoutes rt).zip results).find? Prod.snd with
      | some found =>
          obtain ⟨route, b⟩ := found
          simp only [hfind]
          obtain ⟨hlive, rfl⟩ :=
            (htells _ (List.mem_of_find?_eq_some hfind)).1 (List.find?_some hfind)
          exact found_of_live hlive
      | none =>
          simp only [hfind]
          refine ⟨hplaced, (fun _ h => by cases h), fun _ ho => ?_⟩
          by_contra hpresent
          obtain ⟨route, hroute⟩ := not_forall.1 hpresent
          obtain ⟨session, hsession⟩ := Option.ne_none_iff_exists'.1 hroute
          subst ho
          -- the record lies under one of the routes that were asked for
          obtain ⟨-, -, hplace⟩ := hplaced o route session hsession
          have hmem := mem_candidateRoutes hshards session
          rw [hplace] at hmem
          obtain ⟨found, hpair⟩ := exists_mem_zip hlength hmem
          have hfalse := List.find?_eq_none.1 hfind _ hpair
          exact hpresent ((htells _ hpair).2 (by simpa using hfalse) rfl rfl)

theorem guarded_persistRepairedSessionLocator {route : Route} (hs : Live rt routeOf sid o s) :
    Guarded rt routeOf sid o (persistRepairedSessionLocator o route)
      (fun result t => Live rt routeOf sid o t ∧ OkOrFaulty result) s := by
  refine guarded_read trivial (fun _ => rfl) (fun t ht => ?_) fun t e ht he => ?_
  · refine guarded_redis (fun u hu => ((hs.rely ht).rely hu).guard trivial) (fun u hu => ?_)
      fun u e hu he => ?_
    · exact ⟨((hs.rely ht).rely hu).exec trivial id, fun _ h => by cases h⟩
    · exact ⟨(hs.rely ht).rely hu, okOrFaulty_error he⟩
  · exact ⟨hs.rely ht, okOrFaulty_error he⟩

theorem guarded_maybeVerifySessionExists {route : Route} {verifyExists : Bool}
    (hs : Placed rt routeOf s) :
    Guarded rt routeOf sid o (maybeVerifySessionExists o route verifyExists)
      (fun result t => Placed rt routeOf t ∧
        (verifyExists = true → result = .ok () → Live rt routeOf sid o t ∧ route = routeOf o) ∧
        (result = .error .notFound → route = routeOf o → Absent sid o t)) s := by
  unfold maybeVerifySessionExists
  split_ifs with hverify
  · refine guarded_read trivial (fun _ => rfl) (fun t ht => ?_) fun t e ht he => ?_
    · have htells := @tells_exists rt routeOf sid o t ht.1 route
      cases hfound : ((t o).hot route).data.isSome with
      | true =>
          simp only [Op.exec, hfound]
          exact ⟨ht.1, fun _ _ => htells.1 hfound, fun h => by cases h⟩
      | false =>
          simp only [Op.exec, hfound]
          exact ⟨ht.1, (fun _ h => by cases h), fun _ hroute => htells.2 hfound hroute⟩
    · refine ⟨ht.1, (fun _ h => by cases h), fun h => ?_⟩
      obtain rfl := Except.error.inj h
      exact absurd he id
  · exact ⟨hs, fun h => absurd h hverify, fun h => by cases h⟩

theorem reading_maybeVerifySessionExists (route : Route) (verifyExists : Bool) :
    (maybeVerifySessionExists o route verifyExists).All fun c => c.op.Reading := by
  unfold maybeVerifySessionExists
  split_ifs
  · refine ⟨fun _ => rfl, fun reply => ?_⟩
    match reply with
    | .ok true => trivial
    | .ok false => trivial
    | .error e => trivial
  · trivial

theorem guarded_repairMissingSessionRoute (hshards : 0 < rt.matchShardCount)
    {verifyExists : Bool} (hs : Placed rt routeOf s) :
    Guarded rt routeOf sid o (repairMissingSessionRoute rt o verifyExists)
      (Found rt routeOf sid o) s := by
  refine (guarded_findSessionRoute hshards hs).bind fun result t ht => ?_
  cases result with
  | error e =>
      refine ⟨ht.placed, (fun _ h => by cases h), fun h => ?_⟩
      obtain rfl := Except.error.inj h
      exact ht.absent rfl
  | ok route =>
      obtain ⟨hlive, rfl⟩ := ht.live route rfl
      have hverify := (guarded_maybeVerifySessionExists hlive.1).frame
        (reading_maybeVerifySessionExists (routeOf o) verifyExists)
        (fun _ _ h hrely => Live.rely h hrely) hlive
      refine hverify.bind fun result u hu => ?_
      obtain ⟨⟨hplaced, -, habsent⟩, hlive⟩ := hu
      cases result with
      | error e =>
          refine ⟨hplaced, (fun _ h => by cases h), fun h => ?_⟩
          obtain rfl := Except.error.inj h
          exact habsent rfl rfl
      | ok _ =>
          refine (guarded_persistRepairedSessionLocator hlive).bind fun result v hv => ?_
          cases result with
          | ok _ => exact found_of_live hv.1
          | error e => exact found_of_faulty hv.1.1 (hv.2 e rfl)

/-- **What an operation knows of the route of a session**, when it has verified that the record
exists; without, it may have the route of the locator only. -/
theorem guarded_resolveSessionRoute (hshards : 0 < rt.matchShardCount) {verifyExists : Bool} :
    Guarded rt routeOf sid o (resolveSessionRoute rt o verifyExists)
      (fun result t => Placed rt routeOf t ∧
        (verifyExists = true → Found rt routeOf sid o result t)) s := by
  have hrepair : ∀ {t}, Placed rt routeOf t →
      Guarded rt routeOf sid o (repairMissingSessionRoute rt o verifyExists)
        (fun result t => Placed rt routeOf t ∧
          (verifyExists = true → Found rt routeOf sid o result t)) t :=
    fun ht => (guarded_repairMissingSessionRoute hshards ht).mono fun _ _ h => ⟨h.placed, fun _ => h⟩
  refine guarded_read trivial (fun _ => rfl) (fun t ht => ?_) fun t e ht he => ?_
  · cases hlocator : (t o).locator with
    | none =>
        simp only [Op.exec, hlocator]
        exact hrepair ht.1
    | some route =>
        simp only [Op.exec, hlocator]
        refine (guarded_maybeVerifySessionExists ht.1).bind fun result u hu => ?_
        obtain ⟨hplaced, hok, -⟩ := hu
        match result with
        | .ok _ =>
            refine ⟨hplaced, fun hverify => ?_⟩
            obtain ⟨hlive, rfl⟩ := hok hverify rfl
            exact found_of_live hlive
        | .error .notFound =>
            -- a locator that leads nowhere is deleted
            refine guarded_redis (fun _ _ => guard_of_shrinking trivial shrinking_delLocator)
              (fun v hv => ?_) fun v e hv he => ?_
            · exact hrepair (@placed_execAll rt routeOf (.inl ⟨o, .delLocator⟩) v hv.1 trivial)
            · exact hrepair hv.1
        | .error .missingQueueMeta =>
            exact ⟨hplaced, fun _ => ⟨hplaced, (fun _ h => by cases h), fun h => by cases h⟩⟩
        | .error (.redis text) => exact ⟨hplaced, fun _ => found_of_faulty hplaced trivial⟩
  · exact ⟨ht.1, fun _ => found_of_faulty ht.1 he⟩

/-- **A session that has been read is there**, under its own name and route. -/
theorem guarded_getSession (hshards : 0 < rt.matchShardCount) :
    Guarded rt routeOf sid o (getSession rt o) (fun result t => Placed rt routeOf t ∧
      ∀ session, result = .ok session → Live rt routeOf sid o t ∧ session.id = o ∧
        routeForSession rt session = routeOf o) s := by
  refine (guarded_resolveSessionRoute hshards).bind fun result t ht => ?_
  cases result with
  | error e => exact ⟨ht.1, fun _ h => by cases h⟩
  | ok route =>
      refine guarded_read trivial (fun _ => rfl) (fun u hu => ?_) fun u e hu he => ?_
      · cases hdata : ((u o).hot route).data with
        | some session =>
            simp only [Op.exec, hdata]
            refine ⟨hu.1, fun session' h => ?_⟩
            obtain rfl := Except.ok.inj h
            obtain ⟨hlive, -, hid, hplace⟩ := live_of_data hu.1 hdata
            exact ⟨hlive, hid, hplace⟩
        | none =>
            simp only [Op.exec, hdata]
            refine guarded_redis (fun _ _ => guard_of_shrinking trivial shrinking_delLocator)
              (fun v hv => ?_) fun v e hv he => ?_
            · exact ⟨@placed_execAll rt routeOf (.inl ⟨o, .delLocator⟩) v hv.1 trivial,
                fun _ h => by cases h⟩
            · exact ⟨hv.1, fun _ h => by cases h⟩
      · exact ⟨hu.1, fun _ h => by cases h⟩

end Finding

/-! ### Refreshing and updating -/

section Writing

variable {sid o : SessionId} {s t : Store}

/-- A pipeline that writes locators, while the session has a record. -/
theorem guarded_doRefreshActiveLocators {ops : List Op}
    (hops : ∀ op ∈ ops, Sound rt routeOf (.inl ⟨o, op⟩) ∧ ¬ Removes sid (.inl ⟨o, op⟩)) (n : ℕ)
    (hs : Live rt routeOf sid o s) :
    Guarded rt routeOf sid o (doRefreshActiveLocators o ops n)
      (fun _ t => Live rt routeOf sid o t) s := by
  induction n generalizing s with
  | zero =>
      have hpipeline := guarded_pipeline_of_live hops hs (f := .ret)
        (Φ := fun _ t => Live rt routeOf sid o t) fun _ _ ht => ht
      rwa [bind_ret] at hpipeline
  | succ n ih =>
      refine guarded_pipeline_of_live hops hs fun result t ht => ?_
      cases result with
      | ok _ => exact ht
      | error e => exact ih ht

/-- **The refresh of the locators of a session with a record** keeps to the guard. -/
theorem guarded_refreshActiveLocators {route : Route} (hs : Live rt routeOf sid o s) :
    Guarded rt routeOf sid o (refreshActiveLocators o route) (fun _ _ => True) s := by
  have hwrite : ∀ {t} (ip : String), Live rt routeOf sid o t →
      Guarded rt routeOf sid o ((doRefreshActiveLocators o [.setexLocator route, .setexIpLocator ip]
        2).bind fun _ => .ret ()) (fun _ _ => True) t := by
    intro t ip ht
    refine (guarded_doRefreshActiveLocators (fun op hop => ?_) 2 ht).bind fun _ _ _ => trivial
    rcases List.mem_cons.1 hop with rfl | hop
    · exact ⟨trivial, id⟩
    · obtain rfl := List.mem_singleton.1 hop
      exact ⟨trivial, id⟩
  have hload : Guarded rt routeOf sid o (loadActiveLocatorIp o route)
      (fun _ t => Live rt routeOf sid o t) s := by
    have hlocator : ∀ {t}, Live rt routeOf sid o t → Guarded rt routeOf sid o
        (loadActiveLocatorIp.fromLocator o) (fun _ t => Live rt routeOf sid o t) t := by
      intro t ht
      refine guarded_read trivial (fun _ => rfl) (fun u hu => ?_) fun u e hu he => ht.rely hu
      cases hip : (u o).ipLocator with
      | none =>
          simp only [Op.exec, hip]
          exact ht.rely hu
      | some ip =>
          simp only [Op.exec, hip]
          split_ifs <;> exact ht.rely hu
    refine guarded_read trivial (fun _ => rfl) (fun t ht => ?_) fun t e ht he => hs.rely ht
    cases hip : ((t o).hot route).ip with
    | none =>
        simp only [Op.exec, hip]
        exact hlocator (hs.rely ht)
    | some ip =>
        simp only [Op.exec, hip]
        split_ifs
        · exact hlocator (hs.rely ht)
        · exact hs.rely ht
  refine hload.bind fun ip t ht => ?_
  cases ip with
  | none => exact trivial
  | some ip => exact hwrite ip ht

/-- A script on a session with a record, and the refresh of its locators. -/
theorem guarded_execAndRefresh {route : Route} {op : Op}
    (hsound : Sound rt routeOf (.inl ⟨o, op⟩)) (hop : ¬ Removes sid (.inl ⟨o, op⟩))
    (hs : Live rt routeOf sid o s) :
    Guarded rt routeOf sid o (execAndRefresh o route op) (fun _ _ => True) s := by
  refine guarded_redis (fun t ht => (hs.rely ht).guard hsound) (fun t ht => ?_)
    fun t e ht he => trivial
  exact (guarded_refreshActiveLocators ((hs.rely ht).exec hsound hop)).bind fun _ _ _ => trivial

theorem guarded_touchSession (hshards : 0 < rt.matchShardCount) {now : ℤ} :
    Guarded rt routeOf sid o (touchSession rt o now) (fun _ _ => True) s := by
  refine (guarded_resolveSessionRoute hshards).bind fun result t ht => ?_
  cases result with
  | error e => trivial
  | ok route =>
      exact guarded_execAndRefresh trivial id ((ht.2 rfl).live route rfl).1

theorem guarded_updateSessionFields (hshards : 0 < rt.matchShardCount) {updates : Updates} {now : ℤ}
    (hupdates : KeepsPlace rt routeOf o updates) :
    Guarded rt routeOf sid o (updateSessionFields rt o updates now) (fun _ _ => True) s := by
  refine (guarded_resolveSessionRoute hshards).bind fun result t ht => ?_
  cases result with
  | error e => trivial
  | ok route =>
      obtain ⟨hlive, -⟩ := (ht.2 rfl).live route rfl
      refine guarded_read trivial (fun _ => rfl) (fun u hu => ?_) fun u e hu he => trivial
      cases hqueueMeta : ((u o).hot route).queueMeta.isSome with
      | true =>
          simp only [Op.exec, hqueueMeta]
          exact guarded_execAndRefresh hupdates id (hlive.rely hu)
      | false =>
          simp only [Op.exec, hqueueMeta]
          trivial

/-- **The writing of a whole record**, in its place and while the session has one. -/
theorem guarded_writeSession {session : Session} (hid : session.id = o)
    (hplace : routeForSession rt session = routeOf o) (hs : Live rt routeOf sid o s) :
    Guarded rt routeOf sid o (writeSession rt session) (fun _ _ => True) s := by
  subst hid
  have hsound : Sound rt routeOf (.inl ⟨session.id, .persistScript (routeForSession rt session)
      session (rt.hashedToken session.token) (buildQueueMeta rt session)⟩) := ⟨hplace, rfl, hplace⟩
  refine guarded_redis (fun t ht => (hs.rely ht).guard hsound) (fun t ht => ?_)
    fun t e ht he => trivial
  have hops : ∀ op ∈ [Op.setexLocator (routeForSession rt session), .setexIpLocator session.ip,
      .saddActive, .saddIp session.ip, .expireIp session.ip],
      Sound rt routeOf (.inl ⟨session.id, op⟩) ∧ ¬ Removes sid (.inl ⟨session.id, op⟩) := by
    intro op hop
    simp only [List.mem_cons, List.not_mem_nil, or_false] at hop
    rcases hop with rfl | rfl | rfl | rfl | rfl <;> exact ⟨trivial, id⟩
  have hlocators := guarded_pipeline_of_live hops ((hs.rely ht).exec hsound id) (f := .ret)
    (Φ := fun _ _ => True) fun _ _ _ => trivial
  rwa [bind_ret] at hlocators

/-- Taking back what was written only takes away. -/
theorem guarded_rollbackSession {session : Session} (hid : session.id = o) :
    Guarded rt routeOf sid o (rollbackSession rt session) (fun _ _ => True) s := by
  subst hid
  refine guarded_pipeline_of_shrinking (fun op hop => ?_) fun _ t =>
    guarded_pipeline_of_shrinking (fun op hop => ?_) fun _ u => ?_
  · simp only [List.mem_cons, List.not_mem_nil, or_false] at hop
    rcases hop with rfl | rfl | rfl | rfl
    · exact ⟨trivial, shrinking_delLocator⟩
    · exact ⟨trivial, shrinking_delReportLocator⟩
    · exact ⟨trivial, shrinking_delReportKind⟩
    · exact ⟨trivial, shrinking_delIpLocator⟩
  · simp only [List.mem_cons, List.not_mem_nil, or_false] at hop
    rcases hop with rfl | rfl
    · exact ⟨trivial, shrinking_sremActive⟩
    · exact ⟨trivial, shrinking_sremIp session.ip⟩
  · exact guarded_redis (fun _ _ => guard_of_shrinking trivial (shrinking_delHot _))
      (fun _ _ => trivial) fun _ _ _ _ => trivial

theorem guarded_persistSession {session : Session} (hid : session.id = o)
    (hplace : routeForSession rt session = routeOf o) (hs : Live rt routeOf sid o s) :
    Guarded rt routeOf sid o (persistSession rt session) (fun _ _ => True) s := by
  refine (guarded_writeSession hid hplace hs).bind fun result t _ => ?_
  cases result with
  | ok _ => trivial
  | error e => exact (guarded_rollbackSession hid).bind fun _ _ _ => trivial

theorem guarded_persistUpdatedSession (hshards : 0 < rt.matchShardCount) {updates : Updates}
    {now : ℤ} (hupdates : KeepsPlace rt routeOf o updates) :
    Guarded rt routeOf sid o (persistUpdatedSession rt o updates now) (fun _ _ => True) s := by
  refine (guarded_getSession hshards).bind fun result t ht => ?_
  cases result with
  | error e => trivial
  | ok session =>
      obtain ⟨hlive, hid, hplace⟩ := ht.2 session rfl
      have hid' : ((session.merge updates).touchLastActivity now).id = o :=
        (congrArg updates.id.getD hid).trans hupdates.1
      refine (guarded_persistSession hid' (hupdates.2 session hplace) hlive).bind
        fun result _ _ => ?_
      cases result <;> trivial

theorem guarded_refreshSession (hshards : 0 < rt.matchShardCount) {now : ℤ} :
    Guarded rt routeOf sid o (refreshSession rt o now) (fun _ _ => True) s :=
  (guarded_touchSession hshards).bind fun _ _ _ => trivial

/-- **An update that keeps the place of the session** keeps to the guard. -/
theorem guarded_updateSession (hshards : 0 < rt.matchShardCount) {updates : Updates} {now : ℤ}
    (hupdates : KeepsPlace rt routeOf o updates) :
    Guarded rt routeOf sid o (updateSession rt o updates now) (fun _ _ => True) s := by
  unfold updateSession
  split_ifs
  · refine (guarded_refreshSession hshards).bind fun result _ _ => ?_
    cases result with
    | ok _ => exact (guarded_getSession hshards).mono fun _ _ _ => trivial
    | error e => trivial
  · refine (guarded_updateSessionFields hshards hupdates).bind fun result _ _ => ?_
    match result with
    | .ok (some updated) => trivial
    | .ok none => trivial
    | .error .notFound => trivial
    | .error .missingQueueMeta => exact guarded_persistUpdatedSession hshards hupdates
    | .error (.redis text) => trivial
  · exact guarded_persistUpdatedSession hshards hupdates

end Writing

end Sessions
