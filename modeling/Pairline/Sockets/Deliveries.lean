/-
**What is delivered of what is routed.**

A message that is routed to a session goes to one process of the own node that was registered for it
there, or to all within reach who have subscribed to its topic, and neither happens twice.  Between
the commands of the call other processes register and end, links break and records go; the message
still reaches only processes that registered for the session.

Main definitions:

* `Sockets.Router.Cmd.Delivers` — a command that delivers;
* `Sockets.Router.DeliveriesLaw` — the law.

Main results:

* `Sockets.Router.once_route` — a call delivers at most once;
* `Sockets.Router.deliveriesLaw` — **the law holds**.
-/

import Pairline.Sockets.Records

set_option relaxedAutoImplicit false
set_option autoImplicit false

namespace Sockets.Router

open Program (All Once)
open Sessions (Route)
open Transition

section Deliveries

variable {M : Type}

/-! ### The law -/

/-- Messages are put into mailboxes. -/
def Cmd.Delivers : Cmd M → Prop
  | .send _ _ | .broadcast _ _ _ => True
  | _ => False

/-- **What is delivered is a message that is being routed**, to processes that registered for its
session: one on the node of the call, or all who have subscribed on it and on the nodes connected to
it; and what is left of the call delivers nothing more. -/
def DeliveriesLaw (M : Type) : Prop :=
  ∀ links l cfg ev cfg', Run (Pool.step (clusterSystem M)) Always (Pool.idle (newCluster M links)) l cfg →
    Pool.step (clusterSystem M) cfg ev = some cfg' →
      cfg'.store.delivered = cfg.store.delivered ∨
      ∃ i x self sessionId message ownerHint routeHint rest rest' receivers,
        let call := Call.route self sessionId message ownerHint routeHint
        ev = .advance i x ∧ cfg.procs[i]? = some ⟨call, rest⟩ ∧ cfg'.procs[i]? = some ⟨call, rest'⟩ ∧
          cfg'.store.delivered =
            cfg.store.delivered ++ receivers.map (fun receiver => (receiver, message)) ∧
          (∀ receiver ∈ receivers, cfg.store.Registered receiver sessionId) ∧
          (receivers = cfg.store.reached self.node sessionId ∨ ∃ pid, receivers = [⟨self.node, pid⟩]) ∧
          rest'.All fun c => ¬ c.Delivers

/-! ### A call delivers at most once -/

variable {self : Proc} {sessionId : String} {message : M} {α : Type}

theorem all_perform {P : Cmd M → Prop} {c : Cmd M} (h : P c) : (perform c).All P :=
  ⟨h, fun reply => by
    cases reply with
    | ok reply => trivial
    | error e => exact e.elim⟩

/-- A command that delivers nothing, and what follows it. -/
theorem once_bind_of_quiet {c : Cmd M} {f : c.Reply → ClusterProg M α} (hc : ¬ c.Delivers)
    (hf : ∀ reply, (f reply).Once Cmd.Delivers) : ((perform c).bind f).Once Cmd.Delivers :=
  All.once_bind (all_perform hc) hf

/-- A command, and after it what delivers nothing. -/
theorem once_bind_of_all {c : Cmd M} {f : c.Reply → ClusterProg M α}
    (hf : ∀ reply, (f reply).All fun c => ¬ c.Delivers) : ((perform c).bind f).Once Cmd.Delivers := by
  refine Once.bind_all ⟨fun _ reply => ?_, fun reply => ?_⟩ hf <;>
  · cases reply with
    | ok reply => trivial
    | error e => exact e.elim

theorem quiet_ownerKey {routeHint : Option Route} :
    (ownerKey sessionId routeHint : ClusterProg M _).All fun c => ¬ c.Delivers := by
  cases routeHint with
  | some route => trivial
  | none => exact all_perform id

theorem quiet_compareAndDeleteOwnerValue {value : String} :
    (compareAndDeleteOwnerValue sessionId value : ClusterProg M _).All fun c => ¬ c.Delivers := by
  refine All.bind quiet_ownerKey fun route? => ?_
  cases route? with
  | error reason => trivial
  | ok route => exact all_perform id

theorem quiet_ownerRecord {routeHint : Option Route} :
    (ownerRecord sessionId routeHint : ClusterProg M _).All fun c => ¬ c.Delivers := by
  refine All.bind quiet_ownerKey fun route? => ?_
  cases route? with
  | error reason => trivial
  | ok route =>
      refine All.bind (all_perform id) fun encoded? => ?_
      rcases encoded? with reason | _ | encodedOwner
      · trivial
      · trivial
      · dsimp only
        cases decodeOwnerRecord encodedOwner with
        | some owner => trivial
        | none => exact All.bind quiet_compareAndDeleteOwnerValue fun _ => trivial

/-- **A message that was taken on the node goes nowhere else.** -/
theorem once_dispatchLocal_bind {f : Bool → ClusterProg M α}
    (htaken : (f true).All fun c => ¬ c.Delivers) (hf : ∀ b, (f b).Once Cmd.Delivers) :
    ((dispatchLocal self sessionId message).bind f).Once Cmd.Delivers := by
  refine ⟨fun h => absurd h id, fun row => ?_⟩
  rcases row with e | _ | ⟨pid, token⟩
  · exact e.elim
  · exact hf false
  refine ⟨fun h => absurd h id, fun alive => ?_⟩
  rcases alive with e | _ | _
  · exact e.elim
  · change Once _ (((perform (.deleteRow self.node sessionId)).bind fun _ => .ret false).bind f)
    rw [Program.bind_assoc]
    exact once_bind_of_quiet id fun _ => hf false
  · -- what follows a message that was sent goes the way of `true`, which is quiet
    change Once _ (((perform (.send ⟨self.node, pid⟩ message)).bind fun _ => .ret true).bind f)
    rw [Program.bind_assoc]
    exact once_bind_of_all fun _ => htaken

theorem once_dispatchRemote {ownerNode : String} {token? : Option String} :
    (dispatchRemote self sessionId ownerNode token? message).Once Cmd.Delivers := by
  have hlocal : ((dispatchLocal self sessionId message).bind fun _ =>
      (.ret .ok : ClusterProg M Outcome)).Once Cmd.Delivers :=
    once_dispatchLocal_bind trivial fun _ => trivial
  unfold dispatchRemote
  by_cases hself : ownerNode = self.node.text
  · rw [if_pos hself]
    exact hlocal
  · rw [if_neg hself]
    refine once_bind_of_quiet id fun connected => ?_
    cases connected with
    | true => exact once_bind_of_all fun _ => trivial
    | false =>
        cases token? with
        | none => trivial
        | some token => exact All.once_bind quiet_compareAndDeleteOwnerValue fun _ => hlocal

theorem once_routeViaOwnerRecord {routeHint : Option Route} :
    (routeViaOwnerRecord self sessionId message routeHint).Once Cmd.Delivers := by
  refine All.once_bind quiet_ownerRecord fun owner? => ?_
  rcases owner? with reason | _ | owner
  · exact once_bind_of_all fun _ => trivial
  · exact once_bind_of_all fun _ => trivial
  · change Once _ (if owner.node = self.node.text then
      (perform (.broadcast self.node sessionId message)).bind fun _ => .ret .ok
      else dispatchRemote self sessionId owner.node (some owner.token) message)
    by_cases hself : owner.node = self.node.text
    · rw [if_pos hself]
      exact once_bind_of_all fun _ => trivial
    · rw [if_neg hself]
      exact once_dispatchRemote

/-- **A call delivers at most once.** -/
theorem once_route {ownerHint : Option String} {routeHint : Option Route} :
    (route self sessionId message ownerHint routeHint).Once Cmd.Delivers := by
  refine once_dispatchLocal_bind trivial fun dispatched => ?_
  cases dispatched with
  | true => trivial
  | false =>
      simp only [Bool.false_eq_true, if_false]
      cases ownerHintRecord self ownerHint with
      | none => exact once_routeViaOwnerRecord
      | some ownerNode =>
          dsimp only
          unfold dispatchRemoteWithHintFallback
          by_cases hself : ownerNode = self.node.text
          · rw [if_pos hself]
            refine once_dispatchLocal_bind trivial fun dispatched => ?_
            cases dispatched with
            | true => trivial
            | false => exact once_routeViaOwnerRecord
          · rw [if_neg hself]
            refine once_bind_of_quiet id fun connected => ?_
            cases connected with
            | true =>
                change Once _ (dispatchRemote self sessionId ownerNode none message)
                exact once_dispatchRemote
            | false => exact once_routeViaOwnerRecord

/-! ### The law holds -/

variable {s : Cluster M} {cfg : Pool.Config (Call M) (Cmd.Reply (M := M)) Empty (Cluster M) Outcome}

/-- A call that routes delivers at most once from now on. -/
def Call.OnceMore : Call M → ClusterProg M Outcome → Prop
  | .route _ _ _ _ _, p => p.Once Cmd.Delivers
  | _, _ => True

theorem onceMore_of_run {links : NodeName → String → Bool}
    {l : List (Pool.Event (Call M) World Outside Empty)}
    (hrun : Run (Pool.step (clusterSystem M)) Always (Pool.idle (newCluster M links)) l cfg) :
    ∀ p ∈ cfg.procs, p.op.OnceMore p.rest := by
  intro p hp
  have hall := Pool.everywhere_of_run (T := fun _ _ => True) (Q := Call.OnceMore)
    (fun _ _ _ => trivial) (fun _ _ => trivial) (fun call => ?_) hrun p hp
  · exact hall.here
  · cases call with
    | route self sessionId message ownerHint routeHint => exact once_route.everywhere
    | _ => exact Program.everywhere_of_forall (fun _ => trivial) _

/-- A command that does not deliver leaves what was delivered. -/
theorem delivered_exec {x : World} {c : Cmd M} (h : ¬ c.Delivers) :
    (clusterExec x c s).2.delivered = s.delivered := by
  obtain ⟨route?, fate⟩ := x
  cases c with
  | send _ _ | broadcast _ _ _ => exact absurd trivial h
  | setex sessionId route value => cases fate <;> rfl
  | compareDelete sessionId route value =>
      have hdelete : (s.compareDelete sessionId route value).delivered = s.delivered := by
        unfold Cluster.compareDelete
        split <;> rfl
      cases fate with
      | failed => rfl
      | answered | lost => exact hdelete
  | _ => rfl

theorem delivered_env {n : Outside} {t : Cluster M} (henv : clusterEnv s n = some t) :
    t.delivered = s.delivered := by
  cases n with
  | handled node =>
      obtain ⟨-, hmap⟩ := Option.ite_none_right_eq_some.1 henv
      obtain ⟨router, -, rfl⟩ := Option.map_eq_some_iff.1 hmap
      rfl
  | fires node ref =>
      obtain ⟨-, hmap⟩ := Option.ite_none_right_eq_some.1 henv
      obtain ⟨router, -, rfl⟩ := Option.map_eq_some_iff.1 hmap
      rfl
  | deleted node x =>
      unfold clusterEnv at henv
      dsimp only at henv
      split at henv
      · cases henv
      next =>
          obtain rfl := Option.some_inj.1 henv
          rfl
      next =>
          obtain rfl := Option.some_inj.1 henv
          exact delivered_exec (fun h => h)
  | ends proc | expires sessionId route | link node other up =>
      obtain rfl := Option.some_inj.1 henv
      rfl

/-- **The law of the deliveries holds.** -/
theorem deliveriesLaw (M : Type) : DeliveriesLaw M := by
  intro links l cfg ev cfg' hrun hstep
  have hkeeps := keeps_clusterContract hrun
  rcases Pool.step_cases hstep with ⟨call, rfl, rfl⟩ | ⟨i, x, call, c, next, rfl, hget, rfl⟩ |
    ⟨i, e, call, c, next, rfl, hget, rfl⟩ | ⟨n, store, rfl, henv, rfl⟩
  · exact .inl rfl
  · by_cases hc : c.Delivers
    · have hguard : clusterGuard call c cfg.store := hkeeps.guard lawful_clusterContract hget
      have honce := onceMore_of_run hrun _ (Pool.mem_of_getElem? hget)
      have hlt := (List.getElem?_eq_some_iff.1 hget).1
      -- the call stays at its place, with what is left of it
      have hset : ∀ rest, ((clusterSystem M).advance cfg i x call c next).procs[i]? =
          some ⟨call, rest⟩ ↔ next (.ok (clusterExec x c cfg.store).1) = rest := by
        intro rest
        simp only [Pool.System.advance, clusterSystem, List.map_nil, List.append_nil]
        rw [List.getElem?_set_self hlt]
        simp
      cases c with
      | send proc message =>
          obtain ⟨self, sessionId, ownerHint, routeHint, rfl, hnode, hregistered⟩ := hguard
          refine .inr ⟨i, x, self, sessionId, message, ownerHint, routeHint, _, _, [proc], rfl, hget,
            (hset _).2 rfl, rfl, fun receiver hreceiver => ?_, .inr ⟨proc.pid, ?_⟩, honce.1 trivial _⟩
          · exact List.mem_singleton.1 hreceiver ▸ hregistered
          · rw [← hnode]
      | broadcast node sessionId message =>
          obtain ⟨self, ownerHint, routeHint, rfl, rfl⟩ := hguard
          exact .inr ⟨i, x, self, sessionId, message, ownerHint, routeHint, _, _,
            cfg.store.reached self.node sessionId, rfl, hget, (hset _).2 rfl, rfl,
            fun receiver hreceiver =>
              hkeeps.1.subscribers sessionId receiver (List.mem_of_mem_filter hreceiver),
            .inl rfl, honce.1 trivial _⟩
      | _ => exact absurd hc id
    · exact .inl (delivered_exec hc)
  · exact .inl rfl
  · exact .inl (delivered_env henv)

end Deliveries

end Sockets.Router
