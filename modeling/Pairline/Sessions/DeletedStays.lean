/-
**What is deleted stays deleted.**

A refresh or an update reads where a session is and writes there afterwards.  When the session is
deleted in between, the script of a refresh reports that the record is missing, and the refresh
writes the locators all the same; an update that carries the whole record writes it anew.  Without
another operation under way at the removal of the record nothing comes back: every operation that
begins later finds no record and writes nothing.

Main definitions:

* `Sessions.DeletedStaysDeleted` — the law;
* `Sessions.RemovedAlone` — no other operation on the session is in progress when its record is
  removed;
* `Sessions.deletionContract` — what each operation relies on, keeps to and achieves.

Main results:

* `Sessions.secured_deleteSession` — **a deletion that succeeds has cleared the session**;
* `Sessions.deletedStaysDeleted_of_removedAlone` — **the law holds in every run in which records are
  removed alone**;
* `Sessions.refresh_after_deletion` — a refresh that the deletion overtakes.
-/

import Pairline.Sessions.FailedWrites
import Pairline.Sessions.Guarding

set_option relaxedAutoImplicit false
set_option autoImplicit false

namespace Sessions

open Matchmaker (SessionId)
open Program Transition

variable {rt : Runtime} {routeOf : SessionId → Route}

/-! ### Deleting -/

section Deleting

variable {sid o : SessionId} {s t : Store} {α β : Type} {Φ : α → Store → Prop}

/-- A program of the deletion keeps to the guard and ends in `Φ`. -/
def Secured (rt : Runtime) (routeOf : SessionId → Route) (sid o : SessionId) (p : StoreProg α)
    (Φ : α → Store → Prop) (s : Store) : Prop :=
  p.Secure (fun _ : Unit => execAll) (Rely rt routeOf sid o) (Guard rt routeOf sid o) Faulty Φ s

theorem Guarded.secured {p : Prog α} (h : Guarded rt routeOf sid o p Φ s) :
    Secured rt routeOf sid o p.left Φ s :=
  Secure.left (fun _ _ _ => rfl) (fun _ _ => id) h

theorem Secured.bind {p : StoreProg α} {f : α → StoreProg β} {Ψ : β → Store → Prop}
    (h : Secured rt routeOf sid o p Φ s)
    (hf : ∀ a t, Φ a t → Secured rt routeOf sid o (f a) Ψ t) :
    Secured rt routeOf sid o (p.bind f) Ψ s :=
  Secure.bind (h.mono hf)

/-- What a session without a record keeps, as nothing is added to it. -/
def Stays (P : Entry → Prop) : Prop := ∀ a b : Entry, a.Shrinks b → P a → P b

theorem stays_locator : Stays fun entry => entry.locator = none := fun _ _ h => h.locator

theorem stays_active : Stays fun entry => entry.active = false := fun _ _ h => h.active

/-- The session has no record and `P`, if it is the one in question. -/
def Bare (sid o : SessionId) (P : Entry → Prop) (s : Store) : Prop :=
  o = sid → (s sid).Gone ∧ P (s sid)

theorem Bare.rely {P : Entry → Prop} (hP : Stays P) (h : Bare sid o P s)
    (hrely : Rely rt routeOf sid o s t) : Bare sid o P t := by
  intro ho
  have hshrinks := (hrely.2 ho).shrinks (h ho).1
  exact ⟨hshrinks.gone (h ho).1, hP _ _ hshrinks (h ho).2⟩

theorem Bare.exec {P : Entry → Prop} (hP : Stays P) (h : Bare sid o P s) {c : StoreCmd}
    (hc : Guard rt routeOf sid o c s) : Bare sid o P (execAll c s).2 := by
  intro ho
  have hshrinks := hc.2.2 ho (h ho).1
  exact ⟨hshrinks.gone (h ho).1, hP _ _ hshrinks (h ho).2⟩

/-- What a command brings about, and what stays so. -/
def Brings (sid : SessionId) (c : StoreCmd) (P : Entry → Prop) : Prop :=
  Stays P ∧ ∀ s, P ((execAll c s).2 sid)

/-- **A pipeline that is answered without an error has brought about what each of its commands
does**, to a session without a record. -/
theorem secured_pipeline {cs : List StoreCmd} {P : Entry → Prop} (hP : Stays P)
    (hcs : ∀ c ∈ cs, ∀ s, Guard rt routeOf sid o c s) (hs : Bare sid o P s) :
    Secured rt routeOf sid o (Program.pipeline cs) (fun result t => Bare sid o P t ∧
      (result = .ok () → ∀ c ∈ cs, ∀ P, Brings sid c P → Bare sid o P t)) s := by
  induction cs generalizing s P with
  | nil => exact ⟨hs, fun _ _ h => absurd h List.not_mem_nil⟩
  | cons c cs ih =>
      obtain ⟨hc, hcs⟩ := List.forall_mem_cons.1 hcs
      intro t ht
      have hbare := hs.rely hP ht
      refine ⟨hc t, fun _ => ?_, fun e he => ?_⟩
      · -- what the first command has brought about stays through the rest
        have hnow : Bare sid o (fun entry => P entry ∧ ∀ P', Brings sid c P' → P' entry)
            (execAll c t).2 :=
          fun ho => ⟨(hbare.exec hP (hc t) ho).1, (hbare.exec hP (hc t) ho).2,
            fun P' hP' => hP'.2 t⟩
        refine (ih ?_ hcs hnow).bind fun result u hu => ?_
        · exact fun a b hab h => ⟨hP a b hab h.1, fun P' hP' => hP'.1 a b hab (h.2 P' hP')⟩
        · refine ⟨fun ho => ⟨(hu.1 ho).1, (hu.1 ho).2.1⟩, fun hresult d hd P' hP' => ?_⟩
          rcases List.mem_cons.1 hd with rfl | hd
          · exact fun ho => ⟨(hu.1 ho).1, (hu.1 ho).2.2 P' hP'⟩
          · exact hu.2 hresult d hd P' hP'
      · exact (ih hP hcs hbare).bind fun result u hu => ⟨hu.1, fun h => by cases h⟩

/-- What a deletion that is answered `ok` has achieved. -/
def Deleted (sid o : SessionId) (result : Except Reason Unit) (s : Store) : Prop :=
  result = .ok () → o = sid → (s sid).Cleared

theorem guard_deletion (op : DeletionOp) : Guard rt routeOf sid o (.inr ⟨o, op⟩) s := by
  refine ⟨rfl, trivial, fun ho _ => ?_⟩
  subst ho
  have hself : (execAll (.inr ⟨o, op⟩) s).2 o = op.exec (s o) := Function.update_self _ _ _
  rw [hself]
  exact shrinks_deletion op _

theorem guard_plain {op : Op} (hsound : Sound rt routeOf (.inl ⟨o, op⟩)) (hop : op.Shrinking) :
    Guard rt routeOf sid o (.inl ⟨o, op⟩) s :=
  guard_of_shrinking hsound hop

theorem brings_delLocator : Brings sid (.inl ⟨sid, .delLocator⟩) fun entry => entry.locator = none := by
  refine ⟨stays_locator, fun s => ?_⟩
  have hself : (execAll (.inl ⟨sid, .delLocator⟩) s).2 sid = (Op.delLocator.exec (s sid)).2 :=
    Function.update_self _ _ _
  rw [hself]
  rfl

theorem brings_sremActive : Brings sid (.inl ⟨sid, .sremActive⟩) fun entry => entry.active = false := by
  refine ⟨stays_active, fun s => ?_⟩
  have hself : (execAll (.inl ⟨sid, .sremActive⟩) s).2 sid = (Op.sremActive.exec (s sid)).2 :=
    Function.update_self _ _ _
  rw [hself]
  rfl

/-- The script of a deletion leaves the session without a record. -/
theorem bare_deleteScript (hs : Live rt routeOf sid o s) :
    Bare sid o (fun _ => True) (execAll (.inr ⟨o, .deleteScript (routeOf o)⟩) s).2 := by
  rintro rfl
  refine ⟨fun route => ?_, trivial⟩
  have hself : (execAll (.inr ⟨o, .deleteScript (routeOf o)⟩) s).2 o =
      DeletionOp.exec (.deleteScript (routeOf o)) (s o) := Function.update_self _ _ _
  rw [hself]
  simp only [DeletionOp.exec, atRoute_data]
  split_ifs with hroute
  · rfl
  · by_contra hsome
    obtain ⟨session, hsession⟩ := Option.ne_none_iff_exists'.1 hsome
    exact hroute (hs.1 o route session hsession).1

theorem guard_reportGraceCommands {route : Route} {kind : SessionKind} :
    ∀ c ∈ reportGraceCommands o route kind, ∀ s, Guard rt routeOf sid o c s := by
  intro c hc s
  have hcases : c = .inl ⟨o, .delLocator⟩ ∨ ∃ op, c = .inr ⟨o, op⟩ := by
    unfold reportGraceCommands at hc
    rcases List.mem_append.1 hc with hc | hc
    · simp only [List.mem_cons, List.not_mem_nil, or_false] at hc
      rcases hc with rfl | rfl | rfl
      · exact .inr ⟨_, rfl⟩
      · exact .inl rfl
      · exact .inr ⟨_, rfl⟩
    · cases kind with
      | human => exact absurd hc List.not_mem_nil
      | bot =>
          obtain rfl := List.mem_singleton.1 hc
          exact .inr ⟨_, rfl⟩
  rcases hcases with rfl | ⟨op, rfl⟩
  · exact guard_plain trivial shrinking_delLocator
  · exact guard_deletion op

/-- **Deleting a session that is there**: once the script has gone through, the rest takes away the
locator and the membership among the active sessions. -/
theorem secured_deleteAt {ip : String} {kind : SessionKind} (hs : Live rt routeOf sid o s) :
    Secured rt routeOf sid o (deleteAt o (routeOf o) ip kind) (Deleted sid o) s := by
  intro t ht
  refine ⟨guard_deletion _, fun _ => ?_, fun e he h => by cases h⟩
  have hgone := bare_deleteScript (hs.rely ht)
  generalize (execAll (.inr ⟨o, .deleteScript (routeOf o)⟩) t).2 = t at hgone
  intro u hu
  have hactive : Bare sid o (fun entry => entry.active = false)
      (execAll (.inl ⟨o, .sremActive⟩) u).2 := by
    have hguard : Guard rt routeOf sid o (.inl ⟨o, .sremActive⟩) u :=
      guard_plain trivial shrinking_sremActive
    have hbare := (hgone.rely (fun _ _ _ => id) hu).exec (fun _ _ _ => id) hguard
    intro ho
    subst ho
    exact ⟨(hbare rfl).1, brings_sremActive.2 u⟩
  refine ⟨guard_plain trivial shrinking_sremActive, fun _ => ?_, fun e he h => by cases h⟩
  refine (secured_pipeline stays_active guard_reportGraceCommands hactive).bind
    fun result v hv => ?_
  cases result with
  | error e => exact fun h => by cases h
  | ok _ =>
      have hcleared : Bare sid o (fun entry => entry.active = false ∧ entry.locator = none) v := by
        intro ho
        subst ho
        have hlocator := hv.2 rfl (.inl ⟨o, .delLocator⟩)
          (by simp [reportGraceCommands]) _ brings_delLocator
        exact ⟨(hv.1 rfl).1, (hv.1 rfl).2, (hlocator rfl).2⟩
      have hstays : Stays fun entry => entry.active = false ∧ entry.locator = none :=
        fun a b hab h => ⟨hab.active h.1, hab.locator h.2⟩
      intro w hw
      have hw' := hcleared.rely hstays hw
      refine ⟨guard_deletion _, fun _ _ ho => ?_, fun e he _ ho => ?_⟩
      · have hguard : Guard rt routeOf sid o (.inr ⟨o, .startIndexCleanup ip⟩) w :=
          guard_deletion _
        have hdone := hw'.exec hstays hguard ho
        exact ⟨hdone.1, hdone.2.2, hdone.2.1⟩
      · exact ⟨(hw' ho).1, (hw' ho).2.2, (hw' ho).2.1⟩


/-- **Deleting the locators of a session without a record** clears it. -/
theorem secured_cleanupLocators {ops : List Op}
    (hops : ∀ op ∈ ops, Sound rt routeOf (.inl ⟨o, op⟩) ∧ op.Shrinking)
    (hlocator : .delLocator ∈ ops) (hactive : .sremActive ∈ ops) (hs : Absent sid o s) :
    Secured rt routeOf sid o (pipeline o ops).left (Deleted sid o) s := by
  rw [pipeline, left_pipeline]
  have hguard : ∀ c ∈ (ops.map fun op => (⟨o, op⟩ : Cmd)).map Sum.inl,
      ∀ s, Guard rt routeOf sid o c s := by
    intro c hc s
    obtain ⟨_, hmem, rfl⟩ := List.mem_map.1 hc
    obtain ⟨op, hop, rfl⟩ := List.mem_map.1 hmem
    exact guard_plain (hops op hop).1 (hops op hop).2
  have hmem : ∀ op ∈ ops, Sum.inl ⟨o, op⟩ ∈ (ops.map fun op => (⟨o, op⟩ : Cmd)).map
      (Sum.inl : Cmd → StoreCmd) :=
    fun op hop => List.mem_map_of_mem (List.mem_map_of_mem hop)
  have hbare : Bare sid o (fun _ => True) s := fun ho => ⟨hs ho, trivial⟩
  refine (secured_pipeline (fun _ _ _ => id) hguard hbare).mono ?_
  rintro result t ⟨-, hdone⟩ hresult rfl
  obtain ⟨hgone, hnone⟩ := hdone hresult _ (hmem _ hlocator) _ brings_delLocator rfl
  exact ⟨hgone, hnone, (hdone hresult _ (hmem _ hactive) _ brings_sremActive rfl).2⟩

theorem secured_cleanupUnroutedOrphanedSession (hs : Absent sid o s) :
    Secured rt routeOf sid o (cleanupUnroutedOrphanedSession o).left (Deleted sid o) s := by
  have hlocatorOps : ∀ op ∈ cleanupUnroutedOrphanedSession.locatorOps,
      Sound rt routeOf (.inl ⟨o, op⟩) ∧ op.Shrinking := by
    intro op hop
    simp only [cleanupUnroutedOrphanedSession.locatorOps, List.mem_cons, List.not_mem_nil,
      or_false] at hop
    rcases hop with rfl | rfl | rfl | rfl | rfl
    · exact ⟨trivial, shrinking_sremActive⟩
    · exact ⟨trivial, shrinking_delLocator⟩
    · exact ⟨trivial, shrinking_delReportLocator⟩
    · exact ⟨trivial, shrinking_delReportKind⟩
    · exact ⟨trivial, shrinking_delIpLocator⟩
  have hlocators : ∀ {t}, Absent sid o t → Secured rt routeOf sid o
      (pipeline o cleanupUnroutedOrphanedSession.locatorOps).left (Deleted sid o) t :=
    fun ht => secured_cleanupLocators hlocatorOps (by simp [cleanupUnroutedOrphanedSession.locatorOps])
      (by simp [cleanupUnroutedOrphanedSession.locatorOps]) ht
  intro t ht
  have habsent := hs.rely ht
  have hreading : Op.getIpLocator.Reading := fun _ => rfl
  have hsame : (execAll (.inl ⟨o, .getIpLocator⟩) t).2 = t := Function.update_eq_self _ _
  refine ⟨guard_plain trivial hreading.shrinking, fun _ => ?_, fun e he => hlocators habsent⟩
  rw [hsame]
  cases hip : (execAll (.inl ⟨o, .getIpLocator⟩) t).1 with
  | none => exact hlocators habsent
  | some ip =>
      change Secured rt routeOf sid o (Program.left (if ip = "" then
        pipeline o cleanupUnroutedOrphanedSession.locatorOps else
        pipeline o (cleanupUnroutedOrphanedSession.locatorOps ++ [.sremIp ip]))) _ _
      split_ifs
      · exact hlocators habsent
      · refine secured_cleanupLocators (fun op hop => ?_)
          (by simp [cleanupUnroutedOrphanedSession.locatorOps])
          (by simp [cleanupUnroutedOrphanedSession.locatorOps]) habsent
        rcases List.mem_append.1 hop with hop | hop
        · exact hlocatorOps op hop
        · obtain rfl := List.mem_singleton.1 hop
          exact ⟨trivial, shrinking_sremIp ip⟩

/-- The search for the address of a session changes nothing and may be overtaken. -/
theorem guarded_ipOfSession {route : Route} {F : Store → Prop}
    (hF : ∀ s t, F s → Rely rt routeOf sid o s t → F t) (hs : F s) :
    Guarded rt routeOf sid o (ipOfSession o route) (fun _ t => F t) s := by
  have hlocator : ∀ {t}, F t → Guarded rt routeOf sid o (ipOfSession.fromLocator o)
      (fun _ t => F t) t := by
    intro t ht
    refine guarded_read trivial (fun _ => rfl) (fun u hu => ?_) fun u e hu he => hF t u ht hu
    cases hip : (u o).ipLocator with
    | none =>
        simp only [Op.exec, hip]
        exact hF t u ht hu
    | some ip =>
        simp only [Op.exec, hip]
        split_ifs <;> exact hF t u ht hu
  refine guarded_read trivial (fun _ => rfl) (fun t ht => ?_) fun t e ht he => hF s t hs ht
  cases hip : ((t o).hot route).ip with
  | none =>
      simp only [Op.exec, hip]
      exact hlocator (hF s t hs ht)
  | some ip =>
      simp only [Op.exec, hip]
      split_ifs
      · exact hlocator (hF s t hs ht)
      · exact hF s t hs ht

theorem secured_cleanupRoutedSession (hshards : 0 < rt.matchShardCount) {route : Route} :
    Secured rt routeOf sid o (cleanupRoutedSession rt o route) (Deleted sid o) s := by
  have hip := @guarded_ipOfSession rt routeOf sid o s route (fun _ => True) (fun _ _ _ _ => trivial)
    trivial
  refine hip.secured.bind fun ip t _ => ?_
  cases ip with
  | error e => exact fun h => by cases h
  | ok ip =>
      refine (guarded_resolveSessionRoute hshards).secured.bind fun result u hu => ?_
      cases result with
      | error e => exact fun h => by cases h
      | ok route =>
          obtain ⟨hlive, rfl⟩ := (hu.2 rfl).live route rfl
          exact secured_deleteAt hlive

theorem secured_cleanupOrphanedSession (hshards : 0 < rt.matchShardCount) :
    Secured rt routeOf sid o (cleanupOrphanedSession rt o) (Deleted sid o) s := by
  refine (guarded_resolveSessionRoute hshards).secured.bind fun result t ht => ?_
  match result with
  | .ok route => exact secured_cleanupRoutedSession hshards
  | .error .notFound => exact secured_cleanupUnroutedOrphanedSession ((ht.2 rfl).absent rfl)
  | .error .missingQueueMeta => exact fun h => by cases h
  | .error (.redis text) => exact fun h => by cases h

/-- **A deletion that succeeds has cleared the session.** -/
theorem secured_deleteSession (hshards : 0 < rt.matchShardCount) :
    Secured rt routeOf sid o (deleteSession rt o) (Deleted sid o) s := by
  refine (guarded_getSession hshards).secured.bind fun result t ht => ?_
  match result with
  | .error .notFound => exact secured_cleanupOrphanedSession hshards
  | .error .missingQueueMeta => exact fun h => by cases h
  | .error (.redis text) => exact fun h => by cases h
  | .ok session =>
      obtain ⟨hlive, -, hplace⟩ := ht.2 session rfl
      have hip := @guarded_ipOfSession rt routeOf sid o t (routeForSession rt session) _
        (fun _ _ h hrely => Live.rely h hrely) hlive
      refine hip.secured.bind fun ip u hu => ?_
      match ip with
      | .ok ip =>
          simp only [deleteFound, hplace]
          exact secured_deleteAt hu
      | .error .notFound => exact secured_cleanupOrphanedSession hshards
      | .error .missingQueueMeta => exact fun h => by cases h
      | .error (.redis text) => exact fun h => by cases h

end Deleting

/-! ### The law -/

/-- The operation reads or writes where the session is; the cleanup of an index does not. -/
def SessionOp.ActsOn (sid : SessionId) : SessionOp → Prop
  | .refresh o _ => o = sid
  | .update o _ _ => o = sid
  | .delete o => o = sid
  | .indexCleanup _ _ => False

instance (sid : SessionId) : DecidablePred (SessionOp.ActsOn sid) := fun op =>
  match op with
  | .refresh _ _ => inferInstanceAs (Decidable (_ = _))
  | .update _ _ _ => inferInstanceAs (Decidable (_ = _))
  | .delete _ => inferInstanceAs (Decidable (_ = _))
  | .indexCleanup _ _ => inferInstanceAs (Decidable False)

theorem SessionOp.ActsOn.sid_eq {sid : SessionId} {op : SessionOp} (h : op.ActsOn sid) :
    op.sid = sid := by
  cases op with
  | indexCleanup o ip => exact h.elim
  | _ => exact h

variable (rt routeOf)

/-- **What is deleted stays deleted**: once a deletion of the session has succeeded, the session has
no record and no locator and is not active, and nothing of it comes back. -/
def DeletedStaysDeleted (sid : SessionId) (ok : SessionConfig → SessionEvent → Prop) : Prop :=
  ∀ s, Placed rt routeOf s → ∀ l cfg, Run (Pool.step (sessionSystem rt)) ok (Pool.idle s) l cfg →
    (∃ p ∈ cfg.procs, p.op = .delete sid ∧ p.rest = .ret (.ok ())) →
    ∀ l' cfg', Run (Pool.step (sessionSystem rt)) ok cfg l' cfg' →
      (cfg'.store sid).Cleared ∧ (cfg.store sid).Shrinks (cfg'.store sid)

/-- **The record of the session is removed while no other operation on the session is in
progress**, updates keep every session in its place, and commands fail with an error of the store. -/
def RemovedAlone (sid : SessionId) (cfg : SessionConfig) : SessionEvent → Prop
  | .start (.update o updates _) => KeepsPlace rt routeOf o updates
  | .start _ => True
  | .advance i _ => ∀ op c next, cfg.procs[i]? = some ⟨op, .call c next⟩ → Removes sid c →
      ¬ (cfg.store sid).Gone → ∀ j q, j ≠ i → cfg.procs[j]? = some q → q.op.ActsOn sid →
        q.rest.result?.isSome
  | .fail _ e => Faulty e
  | .env _ => True

/-- What an operation has achieved when it has ended. -/
def SessionOp.Achieves (sid : SessionId) : SessionOp → Except Reason Unit → Store → Prop
  | .delete o, result, s => Deleted sid o result s
  | _, _, _ => True

/-- **What each operation relies on, keeps to and achieves.** -/
def deletionContract (sid : SessionId) :
    Pool.Contract SessionOp StoreCmd Reason Store (Except Reason Unit) where
  inv := Placed rt routeOf
  rely op s t := Placed rt routeOf t ∧ (op.ActsOn sid → Steady sid s t)
  guard op := Guard rt routeOf sid op.sid
  post := SessionOp.Achieves sid
  faults := Faulty

variable {rt routeOf} {sid : SessionId} {s t : Store}

theorem lawful_deletionContract : (deletionContract rt routeOf sid).Lawful where
  refl _ s hs := ⟨hs, fun _ => .refl sid s⟩
  trans _ _ _ _ h h' := ⟨h'.1, fun hop => (h.2 hop).trans (h'.2 hop)⟩
  stable op result s t hpost hrely := by
    cases op with
    | delete o =>
        intro hresult ho
        have hcleared := hpost hresult ho
        exact ((hrely.2 ho).shrinks hcleared.gone).cleared hcleared
    | _ => trivial

/-- Every operation begins secure. -/
theorem secures_launch (hshards : 0 < rt.matchShardCount) {op : SessionOp}
    (hop : ∀ o updates now, op = .update o updates now → KeepsPlace rt routeOf o updates) :
    (deletionContract rt routeOf sid).Secures (sessionSystem rt) ((sessionSystem rt).launch op)
      s := by
  cases op with
  | refresh o now =>
      have hguarded : Guarded rt routeOf sid o (refreshSession rt o now) (fun _ _ => True) s :=
        guarded_refreshSession hshards
      exact hguarded.secured
  | update o updates now =>
      have hguarded : Guarded rt routeOf sid o (updateSession rt o updates now) (fun _ _ => True) s :=
        guarded_updateSession hshards (hop o updates now rfl)
      exact hguarded.secured.bind fun _ _ _ => trivial
  | delete o => exact secured_deleteSession hshards
  | indexCleanup o ip => exact fun t _ => ⟨guard_deletion _, fun _ => trivial, fun _ _ => trivial⟩

/-- A command that keeps to its guard leaves the keys of the session as they are, or adds nothing
to a session without a record. -/
theorem shrinks_of_guard {o : SessionId} {c : StoreCmd} (h : Guard rt routeOf sid o c s)
    (hgone : (s sid).Gone) : (s sid).Shrinks ((execAll c s).2 sid) := by
  by_cases ho : o = sid
  · exact h.2.2 ho hgone
  · rw [execAll_snd_of_ne (h.1.trans_ne ho)]
    exact .refl _

/-- **In every run in which the record of the session is removed alone every operation keeps its
contract.** -/
theorem keeps_of_removedAlone (hshards : 0 < rt.matchShardCount) {cfg₀ cfg : SessionConfig}
    (h₀ : (deletionContract rt routeOf sid).Keeps (sessionSystem rt) cfg₀)
    {l : List SessionEvent}
    (h : Run (Pool.step (sessionSystem rt)) (RemovedAlone rt routeOf sid) cfg₀ l cfg) :
    (deletionContract rt routeOf sid).Keeps (sessionSystem rt) cfg := by
  refine Pool.Contract.keeps_of_run lawful_deletionContract ?_ ?_ ?_ ?_ h₀ h
  · intro cfg op _ hok
    refine secures_launch hshards fun o updates now hop => ?_
    subst hop
    exact hok
  · intro cfg i x op c next hkeeps hok hget hguard
    have hplaced : Placed rt routeOf (execAll c cfg.store).2 := placed_execAll hkeeps.1 hguard.2.1
    refine ⟨hplaced, fun op' hop' => secures_launch hshards ?_, fun j q hne hq => ?_⟩
    · -- a command starts the cleanup of an index at most
      rintro o updates now rfl
      exfalso
      revert hop'
      change SessionOp.update o updates now ∈ startedBy c → False
      unfold startedBy
      split <;> simp
    · by_cases hacts : q.op.ActsOn sid
      · by_cases hgone : (cfg.store sid).Gone
        · exact .inl ⟨hplaced, fun _ => ⟨fun _ => shrinks_of_guard hguard hgone,
            fun hpresent => absurd hgone hpresent⟩⟩
        · by_cases hremoves : Removes sid c
          · -- the other operations on the session have ended, and none of them has cleared it
            have hended := hok op c next hget hremoves hgone j q hne hq hacts
            obtain ⟨result, hresult⟩ := Option.isSome_iff_exists.1 hended
            refine .inr ⟨result, result?_eq_some.1 hresult, fun hpost => ?_⟩
            obtain ⟨o, rest⟩ := q
            cases o with
            | delete o => exact fun hok ho => absurd (hpost hok ho).gone hgone
            | _ => trivial
          · exact .inl ⟨hplaced, fun _ => ⟨fun h => absurd h hgone, present_execAll hremoves⟩⟩
      · exact .inl ⟨hplaced, fun h => absurd h hacts⟩
  · intro cfg n
    exact n.elim
  · intro cfg i e hok
    exact hok

/-- Nothing is added to a session without a record by a step. -/
theorem shrinks_of_step {cfg cfg' : SessionConfig} {ev : SessionEvent}
    (hkeeps : (deletionContract rt routeOf sid).Keeps (sessionSystem rt) cfg)
    (hgone : (cfg.store sid).Gone) (hs : Pool.step (sessionSystem rt) cfg ev = some cfg') :
    (cfg.store sid).Shrinks (cfg'.store sid) := by
  rcases Pool.step_cases hs with ⟨op, -, rfl⟩ | ⟨i, x, op, c, next, -, hget, rfl⟩ |
    ⟨i, e, op, c, next, -, hget, rfl⟩ | ⟨n, -⟩
  · exact .refl _
  · exact shrinks_of_guard (hkeeps.guard lawful_deletionContract hget) hgone
  · exact .refl _
  · exact n.elim

/-- **What is deleted stays deleted, where records are removed alone.** -/
theorem deletedStaysDeleted_of_removedAlone (rt : Runtime) (routeOf : SessionId → Route)
    (sid : SessionId) (hshards : 0 < rt.matchShardCount) :
    DeletedStaysDeleted rt routeOf sid (RemovedAlone rt routeOf sid) := by
  intro s hs l cfg hrun hdone l' cfg' hrun'
  have hidle : (deletionContract rt routeOf sid).Keeps (sessionSystem rt) (Pool.idle s) :=
    ⟨hs, fun p hp => absurd hp List.not_mem_nil⟩
  have hkeeps := keeps_of_removedAlone hshards hidle hrun
  obtain ⟨⟨op, rest⟩, hp, rfl, rfl⟩ := hdone
  have hcleared : (cfg.store sid).Cleared := hkeeps.2 _ hp rfl rfl
  have hboth := hrun'.relates
    (I := fun cfg => (deletionContract rt routeOf sid).Keeps (sessionSystem rt) cfg ∧
      (cfg.store sid).Gone)
    (R := fun cfg cfg' => (cfg.store sid).Shrinks (cfg'.store sid))
    (fun _ => .refl _) (fun _ _ _ => .trans) ?_ ⟨hkeeps, hcleared.gone⟩
  · exact ⟨hboth.2.cleared hcleared, hboth.2⟩
  · rintro cfg ev cfg' ⟨hkeeps, hgone⟩ hok hs
    have hshrinks := shrinks_of_step hkeeps hgone hs
    exact ⟨⟨keeps_of_removedAlone hshards hkeeps (.single hok hs), hshrinks.gone hgone⟩, hshrinks⟩

/-! ### Two runs -/

/-- In these runs at most one operation on the session is under way. -/
def runsAlone (sid : SessionId) (cfg : SessionConfig) : SessionEvent → Bool
  | .start (.update _ _ _) => false
  | .start _ => true
  | .advance i _ => (cfg.procs.eraseIdx i).all fun q =>
      !decide (q.op.ActsOn sid) || q.rest.result?.isSome
  | .fail _ _ => false
  | .env _ => false

theorem removedAlone_of_runsAlone (rt : Runtime) (routeOf : SessionId → Route) {cfg : SessionConfig} {ev : SessionEvent}
    (h : runsAlone sid cfg ev = true) : RemovedAlone rt routeOf sid cfg ev := by
  cases ev with
  | start op =>
      cases op with
      | update o updates now => cases h
      | _ => trivial
  | advance i x =>
      intro op c next _ _ _ j q hne hq hacts
      have hended := List.all_eq_true.1 h q (List.mem_eraseIdx_iff_getElem?.2 ⟨j, hne, hq⟩)
      simpa only [hacts, decide_true, Bool.not_true, Bool.false_or] using hended
  | fail i e => cases h
  | env n => cases h

/-- The deletion of session a has succeeded. -/
def aIsDeleted (cfg : SessionConfig) : Bool :=
  cfg.procs.any fun p => decide (p.op = .delete "a") && p.rest.result?.any Except.isOk

theorem exists_of_aIsDeleted {cfg : SessionConfig} (h : aIsDeleted cfg = true) :
    ∃ p ∈ cfg.procs, p.op = .delete "a" ∧ p.rest = .ret (.ok ()) := by
  obtain ⟨p, hp, hdone⟩ := List.any_eq_true.1 h
  rw [Bool.and_eq_true, decide_eq_true_eq, Option.any_eq_true] at hdone
  obtain ⟨hop, result, hresult, hok⟩ := hdone
  refine ⟨p, hp, hop, ?_⟩
  rw [result?_eq_some.1 hresult]
  cases result with
  | ok _ => rfl
  | error e => cases hok

theorem placed_waitingStore : Placed asciiRuntime (fun _ => ⟨"text", 4⟩) waitingStore := by
  intro sid route session hdata
  unfold waitingStore at hdata
  split_ifs at hdata with hsid
  · unfold waitingEntry at hdata
    dsimp only at hdata
    split_ifs at hdata with hroute
    obtain rfl := Option.some_inj.1 hdata
    have hplace : routeForSession asciiRuntime waitingSession = ⟨"text", 4⟩ := by decide +kernel
    exact ⟨hroute, hsid.symm, hplace⟩

/-- Session a is deleted, from its locator to the cleanup of its report keys. -/
def deleteA : List SessionEvent := .start (.delete "a") :: List.replicate 9 (.advance 0 ())

/-- A refresh of session a that begins afterwards, and asks for its record under every route. -/
def lateRefresh : List SessionEvent :=
  .start (.refresh "a" 60) :: List.replicate 25 (.advance 2 ())

/-- A refresh that begins after the deletion finds nothing and leaves nothing. -/
theorem deletedStaysDeleted_of_removedAlone_lateRefresh :
    ∃ cfg cfg', Run (Pool.step (sessionSystem asciiRuntime))
        (RemovedAlone asciiRuntime (fun _ => ⟨"text", 4⟩) "a") (Pool.idle waitingStore) deleteA cfg ∧
      Run (Pool.step (sessionSystem asciiRuntime))
        (RemovedAlone asciiRuntime (fun _ => ⟨"text", 4⟩) "a") cfg lateRefresh cfg' ∧
      (cfg'.store "a").Cleared ∧ (cfg.store "a").Shrinks (cfg'.store "a") := by
  obtain ⟨cfg, hrun, hcfg⟩ :
      ∃ cfg, Run (Pool.step (sessionSystem asciiRuntime)) (fun cfg ev => runsAlone "a" cfg ev = true)
        (Pool.idle waitingStore) deleteA cfg ∧ (aIsDeleted cfg &&
          (execWhere (Pool.step (sessionSystem asciiRuntime))
            (fun cfg ev => runsAlone "a" cfg ev = true) cfg lateRefresh).any fun _ => true) = true :=
    exists_run_of_execWhere (by decide +kernel)
  rw [Bool.and_eq_true] at hcfg
  obtain ⟨cfg', hrun', -⟩ := exists_run_of_execWhere hcfg.2
  have hlaw := deletedStaysDeleted_of_removedAlone asciiRuntime (fun _ => ⟨"text", 4⟩) "a" (by decide)
  have hrun := hrun.mono fun _ _ => removedAlone_of_runsAlone asciiRuntime fun _ => ⟨"text", 4⟩
  have hrun' := hrun'.mono fun _ _ => removedAlone_of_runsAlone asciiRuntime fun _ => ⟨"text", 4⟩
  exact ⟨cfg, cfg', hrun, hrun', hlaw _ placed_waitingStore _ cfg hrun
    (exists_of_aIsDeleted hcfg.1) _ cfg' hrun'⟩

/-- A refresh of session a finds its record, and the session is deleted. -/
def refreshOvertaken : List SessionEvent :=
  .start (.refresh "a" 60) :: List.replicate 2 (.advance 0 ()) ++
    .start (.delete "a") :: List.replicate 9 (.advance 1 ())

/-- The script of the refresh finds no record, and the refresh goes on. -/
def refreshGoesOn : List SessionEvent := List.replicate 4 (.advance 0 ())

/-- **A refresh that the deletion overtakes brings the locators back**: the script reports that the
record is missing, and the locator is written all the same. -/
theorem refresh_after_deletion :
    ¬ DeletedStaysDeleted asciiRuntime (fun _ => ⟨"text", 4⟩) "a" Always := by
  intro h
  obtain ⟨cfg, hrun, hcfg⟩ :
      ∃ cfg, Run (Pool.step (sessionSystem asciiRuntime)) Always (Pool.idle waitingStore)
        refreshOvertaken cfg ∧ (aIsDeleted cfg &&
          (execWhere (Pool.step (sessionSystem asciiRuntime)) Always cfg refreshGoesOn).any
            fun cfg' => decide ((cfg'.store "a").locator = some ⟨"text", 4⟩)) = true :=
    exists_run_of_execWhere (by decide +kernel)
  rw [Bool.and_eq_true] at hcfg
  obtain ⟨cfg', hrun', hlocator⟩ := exists_run_of_execWhere hcfg.2
  rw [decide_eq_true_eq] at hlocator
  have hcleared := (h _ placed_waitingStore _ cfg hrun (exists_of_aIsDeleted hcfg.1) _ cfg' hrun').1
  rw [hcleared.locator] at hlocator
  cases hlocator

end Sessions
