/-
**The records of owners.**

A record is deleted only if it is still the one that was meant, and no token is given twice on a
node.  So a record that goes was never somebody else's: the process itself unregisters it, the
router of its node deletes it after its end, or a process that routes a message deletes it after it
has found the node of the record missing.  This holds however the calls, the routers and the store
take their turns.

Main definitions:

* `Sockets.Router.GoesRightly` — how the record of a process may go;
* `Sockets.Router.RecordsLaw` — the law;
* `Sockets.Router.Owned` — **every token that is about was given to the process that is named**;
* `Sockets.Router.clusterGuard` — what a call asks of its commands.

Main results:

* `Sockets.Router.decodeOwnerRecord_encodeOwnerRecord` — a record is read as it was written;
* `Sockets.Router.Granting.handled` — what a router handles keeps its tokens;
* `Sockets.Router.Owned.exec`, `Sockets.Router.Owned.env` — so does every command, and what happens
  beside the calls;
* `Sockets.Router.safe_clusterProgram` — every call keeps to its guard;
* `Sockets.Router.recordsLaw` — **the law holds**.
-/

import Pairline.Sockets.Cluster

set_option relaxedAutoImplicit false
set_option autoImplicit false

namespace Sockets.Router

open Monitors (Inbox)
open Numerals (cut)
open Sessions (Route)
open Transition

/-! ### The law -/

section Law

variable {M : Type}

/-- The token was given to the process, for the session. -/
def Cluster.Granted (s : Cluster M) (proc : Proc) (sessionId token : String) : Prop :=
  s.issued proc.node token = some (proc.pid, sessionId)

/-- The process has begun to register for the session. -/
def Cluster.Registered (s : Cluster M) (proc : Proc) (sessionId : String) : Prop :=
  ∃ token, s.Granted proc sessionId token

/-- The process names itself as the owner of the session. -/
def Call.RegistersAs (proc : Proc) (sessionId : String) : Call M → Prop
  | .register self sessionId' _ | .refreshOwner self sessionId' _ =>
      self = proc ∧ sessionId' = sessionId
  | _ => False

/-- **How the record of a process may go**: by its own call, after its end, because a node that routes a
message has found its node not connected, or with time. -/
inductive GoesRightly (cfg : Pool.Config (Call M) (Cmd.Reply (M := M)) Empty (Cluster M) Outcome)
    (proc : Proc) (sessionId : String) : Pool.Event (Call M) World Outside Empty → Prop
  | unregistered (i : ℕ) (x : World) (rest : ClusterProg M Outcome)
      (hcall : cfg.procs[i]? = some ⟨.unregister proc sessionId, rest⟩) :
      GoesRightly cfg proc sessionId (.advance i x)
  | ended (x : World) (hended : cfg.store.ended proc = true) :
      GoesRightly cfg proc sessionId (.env (.deleted proc.node x))
  | missed (i : ℕ) (x : World) (rest : ClusterProg M Outcome) (self : Proc) (message : M)
      (ownerHint : Option String) (routeHint : Option Route)
      (hcall : cfg.procs[i]? = some ⟨.route self sessionId message ownerHint routeHint, rest⟩)
      (hmissed : cfg.store.missed self.node proc.node.text = true) :
      GoesRightly cfg proc sessionId (.advance i x)
  | expired (route : Route) : GoesRightly cfg proc sessionId (.env (.expires sessionId route))

/-- **Every record is that of one process, which registered; it stays, or is replaced by the record of
a process that registers, or goes rightly.** -/
def RecordsLaw (M : Type) : Prop :=
  ∀ links l cfg ev cfg', Run (Pool.step (clusterSystem M)) Always (Pool.idle (newCluster M links)) l cfg →
    Pool.step (clusterSystem M) cfg ev = some cfg' → ∀ sessionId route value,
      cfg.store.records sessionId route = some value → ∃ proc token,
        value = encodeOwnerRecord (buildLocalOwnerRecord proc token) ∧
        cfg.store.Granted proc sessionId token ∧
        (cfg'.store.records sessionId route = some value ∨
          (∃ i x call rest proc' token', ev = .advance i x ∧ cfg.procs[i]? = some ⟨call, rest⟩ ∧
            call.RegistersAs proc' sessionId ∧ cfg.store.Granted proc' sessionId token' ∧
            cfg'.store.records sessionId route =
              some (encodeOwnerRecord (buildLocalOwnerRecord proc' token'))) ∨
          (cfg'.store.records sessionId route = none ∧ GoesRightly cfg proc sessionId ev))

end Law

/-! ### Records as texts -/

/-- **A record is read as it was written.** -/
theorem decodeOwnerRecord_encodeOwnerRecord {owner : OwnerRecord} (hplain : '|' ∉ owner.node.toList)
    (hnode : owner.node ≠ "") (htoken : owner.token ≠ "") :
    decodeOwnerRecord (encodeOwnerRecord owner) = some owner := by
  have hcut : cut '|' (encodeOwnerRecord owner).toList = some (owner.node.toList, owner.token.toList) := by
    simpa [encodeOwnerRecord] using Numerals.cut_append hplain owner.token.toList
  have hparts : owner.node.toList ≠ [] ∧ owner.token.toList ≠ [] := by simpa using ⟨hnode, htoken⟩
  simp only [decodeOwnerRecord, hcut, if_pos hparts, String.ofList_toList]

/-- What is read as a record was written as it. -/
theorem encodeOwnerRecord_of_decodeOwnerRecord {value : String} {owner : OwnerRecord}
    (h : decodeOwnerRecord value = some owner) : value = encodeOwnerRecord owner := by
  unfold decodeOwnerRecord at h
  split at h
  next node token hcut =>
      obtain ⟨-, heq⟩ := Option.ite_none_right_eq_some.1 h
      cases heq
      have hvalue := (Numerals.eq_of_cut_eq_some hcut).1
      refine String.toList_inj.1 ?_
      simpa [encodeOwnerRecord] using hvalue
  next => cases h

theorem toString_ne_empty (n : ℕ) : toString n ≠ "" := fun h =>
  Numerals.toList_toString_ne_nil n (by rw [h]; rfl)

theorem toString_injective {m n : ℕ} (h : toString m = toString n) : m = n := by
  have hdigits := Numerals.digits?_toString m
  rw [h, Numerals.digits?_toString] at hdigits
  exact (Option.some_inj.1 hdigits).symm

/-! ### Tokens on one node -/

/-- **Every token that a router or its table has was granted to the process that is named with it**,
and what is to be deleted after the end of a process was its own. -/
structure Granting (granted : ℕ → String → String → Prop) (ended : ℕ → Prop) (r : State) : Prop where
  rows : ∀ sessionId pid token, r.ownerTable sessionId = some (pid, token) → granted pid sessionId token
  owners : ∀ sessionId owner, r.owners sessionId = some owner →
    granted owner.pid sessionId owner.token
  casts : ∀ sessionId pid token, .info (.trackOwner sessionId pid token) ∈ r.inbox.mailbox →
    granted pid sessionId token
  downs : ∀ ref pid, .down ref pid ∈ r.inbox.mailbox → ended pid
  deletes : ∀ sessionId token, (sessionId, token) ∈ r.compareAndDelete →
    ∃ pid, granted pid sessionId token ∧ ended pid

section Granting

variable {granted granted' : ℕ → String → String → Prop} {ended ended' : ℕ → Prop} {r r' : State}

theorem Granting.mono (h : Granting granted ended r)
    (hgranted : ∀ pid sessionId token, granted pid sessionId token → granted' pid sessionId token)
    (hended : ∀ pid, ended pid → ended' pid) : Granting granted' ended' r where
  rows sessionId pid token hrow := hgranted _ _ _ (h.rows sessionId pid token hrow)
  owners sessionId owner howner := hgranted _ _ _ (h.owners sessionId owner howner)
  casts sessionId pid token hcast := hgranted _ _ _ (h.casts sessionId pid token hcast)
  downs ref pid hdown := hended _ (h.downs ref pid hdown)
  deletes sessionId token hdelete := by
    obtain ⟨pid, hpid, hend⟩ := h.deletes sessionId token hdelete
    exact ⟨pid, hgranted _ _ _ hpid, hended _ hend⟩

/-- Messages go. -/
theorem Granting.of_inbox (h : Granting granted ended r) {inbox : Inbox ℕ Request}
    (hsub : ∀ m ∈ inbox.mailbox, m ∈ r.inbox.mailbox) :
    Granting granted ended { r with inbox := inbox } where
  rows := h.rows
  owners := h.owners
  casts sessionId pid token hcast := h.casts sessionId pid token (hsub _ hcast)
  downs ref pid hdown := h.downs ref pid (hsub _ hdown)
  deletes := h.deletes

/-- A row is written, or goes. -/
theorem Granting.setRow (h : Granting granted ended r) (sessionId : String) (row : Option (ℕ × String))
    (hrow : ∀ pid token, row = some (pid, token) → granted pid sessionId token) :
    Granting granted ended { r with ownerTable := Function.update r.ownerTable sessionId row } where
  rows sessionId' pid token hlookup := by
    rcases eq_or_ne sessionId' sessionId with rfl | hne
    · exact hrow pid token (by simpa using hlookup)
    · exact h.rows sessionId' pid token (by simpa [Function.update_of_ne hne] using hlookup)
  owners := h.owners
  casts := h.casts
  downs := h.downs
  deletes := h.deletes

theorem Granting.send (h : Granting granted ended r) {request : Request}
    (hrequest : ∀ sessionId pid token, request = .trackOwner sessionId pid token →
      granted pid sessionId token) :
    Granting granted ended { r with inbox := r.inbox.send request } where
  rows := h.rows
  owners := h.owners
  casts sessionId pid token hcast := by
    rcases List.mem_append.1 hcast with hold | hnew
    · exact h.casts sessionId pid token hold
    · have heq := List.mem_singleton.1 hnew
      cases heq
      exact hrequest sessionId pid token rfl
  downs ref pid hdown := by
    rcases List.mem_append.1 hdown with hold | hnew
    · exact h.downs ref pid hold
    · cases List.mem_singleton.1 hnew
  deletes := h.deletes

theorem Granting.fire (h : Granting granted ended r) {ref : ℕ} {inbox : Inbox ℕ Request}
    (hfire : r.inbox.fire ref = some inbox)
    (hended : ∀ m ∈ r.inbox.monitors, m.1 = ref → ended m.2) :
    Granting granted ended { r with inbox := inbox } := by
  obtain ⟨m, hm, rfl⟩ := Option.map_eq_some_iff.1 hfire
  refine ⟨h.rows, h.owners, fun sessionId pid token hcast => ?_, fun ref' pid hdown => ?_, h.deletes⟩
  · rcases List.mem_append.1 hcast with hold | hnew
    · exact h.casts sessionId pid token hold
    · cases List.mem_singleton.1 hnew
  · rcases List.mem_append.1 hdown with hold | hnew
    · exact h.downs ref' pid hold
    · cases List.mem_singleton.1 hnew
      exact hended m (List.mem_of_find?_eq_some hm) (by simpa using List.find?_some hm)

/-- An entry goes. -/
theorem Granting.removeOwner (h : Granting granted ended r) (sessionId : String) (owner : Owner) :
    Granting granted ended (removeOwner r sessionId owner) where
  rows := (h.setRow sessionId none (fun _ _ heq => by cases heq)).rows
  owners sessionId' owner' howner := by
    rcases eq_or_ne sessionId' sessionId with rfl | hne
    · exact absurd howner (by simp [Router.removeOwner])
    · exact h.owners sessionId' owner' (by
        simpa [Router.removeOwner, Function.update_of_ne hne] using howner)
  casts := h.casts
  downs := h.downs
  deletes := h.deletes

/-- A monitor is taken back. -/
theorem Granting.demonitor (h : Granting granted ended r) (ref : Option ℕ) :
    Granting granted ended (demonitor (r, ref)) := by
  cases ref with
  | none => exact h
  | some ref => exact h.of_inbox fun m hm => List.mem_of_mem_filter hm

/-- An entry comes. -/
theorem Granting.addOwner (h : Granting granted ended r) {sessionId : String} {pid : ℕ}
    {token : String} (hgranted : granted pid sessionId token) :
    Granting granted ended (addOwner r sessionId pid token) where
  rows := (h.setRow sessionId (some (pid, token)) (fun _ _ heq => by
    cases heq
    exact hgranted)).rows
  owners sessionId' owner' howner := by
    rcases eq_or_ne sessionId' sessionId with rfl | hne
    · have heq : ⟨pid, r.inbox.nextRef, token⟩ = owner' := by
        simpa [Router.addOwner] using howner
      rw [← heq]
      exact hgranted
    · exact h.owners sessionId' owner' (by
        simpa [Router.addOwner, Function.update_of_ne hne] using howner)
  casts := h.casts
  downs := h.downs
  deletes := h.deletes

theorem Granting.handleTrackOwner (h : Granting granted ended r) {sessionId : String} {pid : ℕ}
    {token : String} (hgranted : granted pid sessionId token) :
    Granting granted ended (handleTrackOwner r sessionId pid token) := by
  unfold Router.handleTrackOwner dropOwner
  split
  · exact ((h.removeOwner _ _).demonitor _).addOwner hgranted
  · exact (h.demonitor none).addOwner hgranted

theorem Granting.handleUntrackOwner (h : Granting granted ended r) (sessionId : String) (pid : ℕ) :
    Granting granted ended (handleUntrackOwner r sessionId pid) := by
  unfold Router.handleUntrackOwner dropOwnerOf
  split
  · split_ifs
    · exact (h.removeOwner _ _).demonitor _
    · exact h.demonitor none
  · exact h.demonitor none

/-- **What the message of a monitor does**: what is to be deleted then is a token of the process that
has ended. -/
theorem Granting.handleDown (h : Granting granted ended r) {ref pid : ℕ} (hended : ended pid)
    (hdown : handleDown r ref pid = some r') : Granting granted ended r' := by
  have hkeep (sid : String) : Granting granted ended
      { r with ownerRefs := Function.update r.ownerRefs ref none } :=
    ⟨h.rows, h.owners, h.casts, h.downs, h.deletes⟩
  unfold Router.handleDown at hdown
  split at hdown
  next => exact Option.some_inj.1 hdown ▸ h
  next sessionId pid' href =>
      split_ifs at hdown with hpid
      split at hdown
      next owner howner =>
          split_ifs at hdown with hmatches
          · obtain rfl := Option.some_inj.1 hdown
            have hremoved := h.removeOwner sessionId owner
            refine ⟨hremoved.rows, hremoved.owners, hremoved.casts, hremoved.downs, ?_⟩
            intro sid token hmem
            rcases List.mem_append.1 hmem with hold | hnew
            · exact h.deletes sid token hold
            · cases List.mem_singleton.1 hnew
              refine ⟨pid, ?_, hended⟩
              have howned := h.owners sessionId owner howner
              rwa [hmatches.1] at howned
          · exact Option.some_inj.1 hdown ▸ hkeep sessionId
      next => exact Option.some_inj.1 hdown ▸ hkeep sessionId

/-- **What the router handles.** -/
theorem Granting.handled (h : Granting granted ended r) (hstep : step r .handled = some r') :
    Granting granted ended r' := by
  obtain ⟨⟨m, inbox⟩, hreceive, hhandle⟩ := Option.bind_eq_some_iff.1 hstep
  have hmailbox : r.inbox.mailbox = m :: inbox.mailbox := by
    unfold Inbox.receive at hreceive
    split at hreceive
    next => cases hreceive
    next m' rest hmailbox =>
        cases hreceive
        exact hmailbox
  have hinbox : Granting granted ended { r with inbox := inbox } :=
    h.of_inbox fun m' hm' => by rw [hmailbox]; exact List.mem_cons_of_mem m hm'
  have hhead : m ∈ r.inbox.mailbox := by rw [hmailbox]; exact List.mem_cons_self
  cases m with
  | info request =>
      cases request with
      | trackOwner sessionId pid token =>
          obtain rfl := Option.some.inj hhandle
          exact hinbox.handleTrackOwner (h.casts _ _ _ hhead)
      | untrackOwner sessionId pid =>
          obtain rfl := Option.some.inj hhandle
          exact hinbox.handleUntrackOwner sessionId pid
      | other =>
          obtain rfl := Option.some.inj hhandle
          exact hinbox
  | down ref pid => exact hinbox.handleDown (h.downs ref pid hhead) hhandle

end Granting

/-! ### Tokens of the cluster -/

section Owned

variable {M : Type} {s t u : Cluster M} {proc : Proc} {sessionId token : String}

/-- **Every token that is about was given to the process that is named with it.** -/
structure Owned (s : Cluster M) : Prop where
  routers : ∀ node, Granting (fun pid sessionId token => s.Granted ⟨node, pid⟩ sessionId token)
    (fun pid => s.ended ⟨node, pid⟩ = true) (s.routers node)
  records : ∀ sessionId route value, s.records sessionId route = some value → ∃ proc token,
    value = encodeOwnerRecord (buildLocalOwnerRecord proc token) ∧ s.Granted proc sessionId token
  subscribers : ∀ sessionId, ∀ proc ∈ s.subscribed sessionId, s.Registered proc sessionId
  numbers : ∀ node token entry, s.issued node token = some entry →
    ∃ n < s.nextToken node, token = toString n

/-- **What is never taken back**: a token that was given, and that a node was found missing. -/
structure Cluster.Grows (s t : Cluster M) : Prop where
  issued : ∀ node token entry, s.issued node token = some entry → t.issued node token = some entry
  missed : ∀ node other, s.missed node other = true → t.missed node other = true
  ended : ∀ proc, s.ended proc = true → t.ended proc = true

theorem Cluster.Grows.refl (s : Cluster M) : s.Grows s := ⟨fun _ _ _ h => h, fun _ _ h => h, fun _ h => h⟩

theorem Cluster.Grows.trans (h : s.Grows t) (h' : t.Grows u) : s.Grows u where
  issued _ _ _ hentry := h'.issued _ _ _ (h.issued _ _ _ hentry)
  missed _ _ hmissed := h'.missed _ _ (h.missed _ _ hmissed)
  ended _ hended := h'.ended _ (h.ended _ hended)

theorem Cluster.Grows.granted (h : s.Grows t) (hgranted : s.Granted proc sessionId token) :
    t.Granted proc sessionId token := h.issued _ _ _ hgranted

theorem Cluster.Grows.registered (h : s.Grows t) (hregistered : s.Registered proc sessionId) :
    t.Registered proc sessionId := by
  obtain ⟨token, hgranted⟩ := hregistered
  exact ⟨token, h.granted hgranted⟩

/-- A token that was given is a number. -/
theorem Owned.token_ne_empty (h : Owned s) (hgranted : s.Granted proc sessionId token) :
    token ≠ "" := by
  obtain ⟨n, -, rfl⟩ := h.numbers _ _ _ hgranted
  exact toString_ne_empty n

/-- A record of the cluster can be read. -/
theorem Owned.decodeOwnerRecord (h : Owned s) (hgranted : s.Granted proc sessionId token) :
    decodeOwnerRecord (encodeOwnerRecord (buildLocalOwnerRecord proc token)) =
      some (buildLocalOwnerRecord proc token) :=
  decodeOwnerRecord_encodeOwnerRecord proc.node.plain proc.node.ne_empty (h.token_ne_empty hgranted)

/-- Two processes of which a record is are one. -/
theorem Owned.proc_unique (h : Owned s) {proc' : Proc} {sessionId' token' : String}
    (hgranted : s.Granted proc sessionId token) (hgranted' : s.Granted proc' sessionId' token')
    (heq : encodeOwnerRecord (buildLocalOwnerRecord proc token) =
      encodeOwnerRecord (buildLocalOwnerRecord proc' token')) : proc = proc' ∧ token = token' := by
  have hread := h.decodeOwnerRecord hgranted
  rw [heq, h.decodeOwnerRecord hgranted', Option.some.injEq] at hread
  have hnode : proc.node = proc'.node := by
    have htext := congrArg OwnerRecord.node hread
    rcases proc with ⟨⟨node, _, _⟩, pid⟩
    rcases proc' with ⟨⟨node', _, _⟩, pid'⟩
    cases htext
    rfl
  have htoken : token = token' := (congrArg OwnerRecord.token hread).symm
  refine ⟨?_, htoken⟩
  -- a token of one node was given to one process
  unfold Cluster.Granted at hgranted hgranted'
  rw [hnode, htoken, hgranted', Option.some.injEq, Prod.mk.injEq] at hgranted
  rcases proc with ⟨node, pid⟩
  rcases proc' with ⟨node', pid'⟩
  cases hnode
  cases hgranted.1
  rfl

/-! ### What a step keeps -/

/-- What changes nothing of the tokens. -/
theorem Owned.frame (h : Owned s) (hgrows : s.Grows t) (hissued : t.issued = s.issued)
    (hnext : t.nextToken = s.nextToken)
    (hrouters : ∀ node, Granting (fun pid sessionId token => s.Granted ⟨node, pid⟩ sessionId token)
      (fun pid => s.ended ⟨node, pid⟩ = true) (t.routers node))
    (hrecords : ∀ sessionId route value, t.records sessionId route = some value →
      s.records sessionId route = some value ∨ ∃ proc token,
        value = encodeOwnerRecord (buildLocalOwnerRecord proc token) ∧
          s.Granted proc sessionId token)
    (hsubscribers : ∀ sessionId, ∀ proc ∈ t.subscribed sessionId, s.Registered proc sessionId) :
    Owned t where
  routers node := (hrouters node).mono (fun _ _ _ hgranted => hgrows.granted hgranted)
    fun _ hended => hgrows.ended _ hended
  records sessionId route value hvalue := by
    rcases hrecords sessionId route value hvalue with hold | ⟨proc, token, hvalue, hgranted⟩
    · obtain ⟨proc, token, hvalue, hgranted⟩ := h.records sessionId route value hold
      exact ⟨proc, token, hvalue, hgrows.granted hgranted⟩
    · exact ⟨proc, token, hvalue, hgrows.granted hgranted⟩
  subscribers sessionId proc hproc := hgrows.registered (hsubscribers sessionId proc hproc)
  numbers node token entry hentry := by
    rw [hissued] at hentry
    rw [hnext]
    exact h.numbers node token entry hentry

/-- The router of a node changes. -/
theorem Owned.setRouter (h : Owned s) {node : NodeName} (router : State)
    (hrouter : Granting (fun pid sessionId token => s.Granted ⟨node, pid⟩ sessionId token)
      (fun pid => s.ended ⟨node, pid⟩ = true) router) :
    Owned (s.setRouter node router) ∧ s.Grows (s.setRouter node router) := by
  have hgrows : s.Grows (s.setRouter node router) := ⟨fun _ _ _ h => h, fun _ _ h => h, fun _ h => h⟩
  refine ⟨h.frame hgrows rfl rfl (fun node' => ?_) (fun _ _ _ hvalue => .inl hvalue) h.subscribers,
    hgrows⟩
  rcases eq_or_ne node' node with rfl | hne
  · simpa [Cluster.setRouter] using hrouter
  · simpa [Cluster.setRouter, Function.update_of_ne hne] using h.routers node'

/-- A record is written, or goes. -/
theorem Owned.setRecord (h : Owned s) (sessionId : String) (route : Route) (value : Option String)
    (hvalue : ∀ text, value = some text → ∃ proc token,
      text = encodeOwnerRecord (buildLocalOwnerRecord proc token) ∧ s.Granted proc sessionId token) :
    Owned (s.setRecord sessionId route value) ∧ s.Grows (s.setRecord sessionId route value) := by
  have hgrows : s.Grows (s.setRecord sessionId route value) :=
    ⟨fun _ _ _ h => h, fun _ _ h => h, fun _ h => h⟩
  refine ⟨h.frame hgrows rfl rfl h.routers (fun sessionId' route' text htext => ?_) h.subscribers,
    hgrows⟩
  unfold Cluster.setRecord at htext
  rcases eq_or_ne sessionId' sessionId with rfl | hne
  · rcases eq_or_ne route' route with rfl | hroute
    · exact .inr (hvalue text (by simpa using htext))
    · exact .inl (by simpa [Function.update_of_ne hroute] using htext)
  · exact .inl (by simpa [Function.update_of_ne hne] using htext)

theorem Owned.compareDelete (h : Owned s) (sessionId : String) (route : Route) (value : String) :
    Owned (s.compareDelete sessionId route value) ∧ s.Grows (s.compareDelete sessionId route value) := by
  unfold Cluster.compareDelete
  split
  · exact h.setRecord sessionId route none fun text htext => by cases htext
  · exact ⟨h, .refl s⟩

/-- **A token is given that nobody has.** -/
theorem Owned.giveToken (h : Owned s) (self : Proc) (sessionId : String) :
    Owned (s.giveToken self sessionId) ∧ s.Grows (s.giveToken self sessionId) ∧
      (s.giveToken self sessionId).Granted self sessionId (toString (s.nextToken self.node)) := by
  have hissued : ∀ node token entry, s.issued node token = some entry →
      (s.giveToken self sessionId).issued node token = some entry := by
    intro node token entry hentry
    unfold Cluster.giveToken
    dsimp only
    rcases eq_or_ne node self.node with rfl | hnode
    · -- the next number is above all that were given on the node
      have htoken : token ≠ toString (s.nextToken self.node) := by
        rintro rfl
        obtain ⟨n, hlt, heq⟩ := h.numbers _ _ _ hentry
        have hn := toString_injective heq
        omega
      rw [Function.update_self, Function.update_of_ne htoken]
      exact hentry
    · rw [Function.update_of_ne hnode]
      exact hentry
  have hgrows : s.Grows (s.giveToken self sessionId) := ⟨hissued, fun _ _ h => h, fun _ h => h⟩
  refine ⟨⟨fun node => ?_, fun sessionId' route value hvalue => ?_, fun sessionId' proc hproc => ?_,
    fun node token entry hentry => ?_⟩, hgrows, by simp [Cluster.Granted, Cluster.giveToken]⟩
  · exact (h.routers node).mono (fun _ _ _ hgranted => hgrows.granted hgranted) fun _ hended => hended
  · obtain ⟨proc, token, heq, hgranted⟩ := h.records sessionId' route value hvalue
    exact ⟨proc, token, heq, hgrows.granted hgranted⟩
  · exact hgrows.registered (h.subscribers sessionId' proc hproc)
  · unfold Cluster.giveToken at hentry ⊢
    dsimp only at hentry ⊢
    rcases eq_or_ne node self.node with rfl | hnode
    · rw [Function.update_self] at hentry ⊢
      by_cases htoken : token = toString (s.nextToken self.node)
      · exact ⟨s.nextToken self.node, Nat.lt_succ_self _, htoken⟩
      · rw [Function.update_of_ne htoken] at hentry
        obtain ⟨n, hlt, heq⟩ := h.numbers _ _ _ hentry
        exact ⟨n, by omega, heq⟩
    · rw [Function.update_of_ne hnode] at hentry ⊢
      exact h.numbers _ _ _ hentry

/-! ### Guards -/

/-- Which record a call may delete: that of the process that unregisters, or one whose node the process
that routes has found missing, or what is no record. -/
def Call.MayDelete (call : Call M) (sessionId value : String) (s : Cluster M) : Prop :=
  decodeOwnerRecord value = none ∨
    match call with
    | .unregister self sessionId' => sessionId' = sessionId ∧ ∃ token,
        value = encodeOwnerRecord (buildLocalOwnerRecord self token) ∧ s.Granted self sessionId token
    | .route self sessionId' _ _ _ => sessionId' = sessionId ∧ ∃ owner,
        decodeOwnerRecord value = some owner ∧ s.missed self.node owner.node = true
    | _ => False

/-- What a call asks of its commands. -/
def clusterGuard (call : Call M) (c : Cmd M) (s : Cluster M) : Prop :=
  match c with
  | .subscribe self sessionId => s.Registered self sessionId
  | .insert node sessionId pid token => s.Granted ⟨node, pid⟩ sessionId token
  | .cast node (.trackOwner sessionId pid token) => s.Granted ⟨node, pid⟩ sessionId token
  | .setex sessionId _ value => ∃ proc token, call.RegistersAs proc sessionId ∧
      value = encodeOwnerRecord (buildLocalOwnerRecord proc token) ∧ s.Granted proc sessionId token
  | .compareDelete sessionId _ value => call.MayDelete sessionId value s
  | .send proc message => ∃ self sessionId ownerHint routeHint,
      call = .route self sessionId message ownerHint routeHint ∧ proc.node = self.node ∧
        s.Registered proc sessionId
  | .broadcast node sessionId message => ∃ self ownerHint routeHint,
      call = .route self sessionId message ownerHint routeHint ∧ node = self.node
  | _ => True

/-- **Every command that keeps to its guard keeps the tokens.** -/
theorem Owned.exec (h : Owned s) {call : Call M} {c : Cmd M} (hguard : clusterGuard call c s)
    (x : World) : Owned (clusterExec x c s).2 ∧ s.Grows (clusterExec x c s).2 := by
  -- what changes neither the routers nor the records
  have hframe {t : Cluster M} (hgrows : s.Grows t) (hissued : t.issued = s.issued)
      (hnext : t.nextToken = s.nextToken) (hrouters : t.routers = s.routers)
      (hrecords : t.records = s.records)
      (hsubscribers : ∀ sessionId, ∀ proc ∈ t.subscribed sessionId, s.Registered proc sessionId) :
      Owned t ∧ s.Grows t :=
    ⟨h.frame hgrows hissued hnext (fun node => hrouters ▸ h.routers node)
      (fun _ _ _ hvalue => .inl (hrecords ▸ hvalue)) hsubscribers, hgrows⟩
  have hsame : s.Grows s := .refl s
  cases c with
  | ownerToken self sessionId => exact ⟨(h.giveToken self sessionId).1, (h.giveToken self sessionId).2.1⟩
  | subscribe self sessionId =>
      refine hframe ⟨fun _ _ _ hentry => hentry, fun _ _ hmissed => hmissed, fun _ hended => hended⟩
        rfl rfl rfl rfl fun sessionId' proc hproc => ?_
      simp only [clusterExec] at hproc
      rcases eq_or_ne sessionId' sessionId with rfl | hne
      · rw [Function.update_self] at hproc
        rcases List.mem_append.1 hproc with hold | hnew
        · exact h.subscribers _ proc hold
        · exact List.mem_singleton.1 hnew ▸ hguard
      · rw [Function.update_of_ne hne] at hproc
        exact h.subscribers _ proc hproc
  | unsubscribe self sessionId =>
      refine hframe ⟨fun _ _ _ hentry => hentry, fun _ _ hmissed => hmissed, fun _ hended => hended⟩
        rfl rfl rfl rfl fun sessionId' proc hproc => ?_
      simp only [clusterExec] at hproc
      rcases eq_or_ne sessionId' sessionId with rfl | hne
      · rw [Function.update_self] at hproc
        exact h.subscribers _ proc (List.mem_of_mem_filter hproc)
      · rw [Function.update_of_ne hne] at hproc
        exact h.subscribers _ proc hproc
  | insert node sessionId pid token =>
      refine h.setRouter _ ((h.routers node).setRow sessionId _ fun pid' token' heq => ?_)
      cases heq
      exact hguard
  | deleteRow node sessionId =>
      exact h.setRouter _ ((h.routers node).setRow sessionId none fun _ _ heq => by cases heq)
  | cast node request =>
      refine h.setRouter _ ((h.routers node).send fun sessionId pid token heq => ?_)
      subst heq
      exact hguard
  | inNodeList node other =>
      refine hframe ⟨fun _ _ _ hentry => hentry, fun node' other' hmissed => ?_, fun _ hended => hended⟩
        rfl rfl rfl rfl h.subscribers
      -- a node that was found missing is not forgotten when it is found again
      simp only [clusterExec]
      rcases eq_or_ne node' node with rfl | hnode
      · rw [Function.update_self]
        rcases eq_or_ne other' other with rfl | hother
        · rw [Function.update_self, hmissed, Bool.true_or]
        · rw [Function.update_of_ne hother, hmissed]
      · rw [Function.update_of_ne hnode, hmissed]
  | setex sessionId route value =>
      obtain ⟨proc, token, -, hvalue, hgranted⟩ := hguard
      have hset := h.setRecord sessionId route (some value) fun text htext => by
        cases htext
        exact ⟨proc, token, hvalue, hgranted⟩
      -- a write whose reply is lost has been made
      obtain ⟨route', fate⟩ := x
      cases fate with
      | answered => exact hset
      | failed => exact ⟨h, hsame⟩
      | lost => exact hset
  | compareDelete sessionId route value =>
      obtain ⟨route', fate⟩ := x
      cases fate with
      | failed => exact ⟨h, hsame⟩
      | answered | lost => exact h.compareDelete sessionId route value
  | _ =>
      exact hframe ⟨fun _ _ _ hentry => hentry, fun _ _ hmissed => hmissed, fun _ hended => hended⟩
        rfl rfl rfl rfl h.subscribers

/-- **What happens beside the calls keeps the tokens.** -/
theorem Owned.env (h : Owned s) {n : Outside} (henv : clusterEnv s n = some t) :
    Owned t ∧ s.Grows t := by
  cases n with
  | handled node =>
      obtain ⟨-, hmap⟩ := Option.ite_none_right_eq_some.1 henv
      obtain ⟨router, hstep, rfl⟩ := Option.map_eq_some_iff.1 hmap
      exact h.setRouter _ ((h.routers node).handled hstep)
  | deleted node x =>
      have hrest {first : String × String} {rest : List (String × String)}
          (hdeletes : (s.routers node).compareAndDelete = first :: rest) :=
        h.setRouter { s.routers node with compareAndDelete := rest }
          ⟨(h.routers node).rows, (h.routers node).owners, (h.routers node).casts,
            (h.routers node).downs, fun sessionId token hmem =>
              (h.routers node).deletes sessionId token (by
                rw [hdeletes]
                exact List.mem_cons_of_mem first hmem)⟩
      unfold clusterEnv at henv
      dsimp only at henv
      split at henv
      · cases henv
      next first rest reason hdeletes _ =>
          obtain rfl := Option.some_inj.1 henv
          exact hrest hdeletes
      next sessionId token rest route hdeletes _ =>
          obtain rfl := Option.some_inj.1 henv
          obtain ⟨howned, hgrows⟩ := hrest hdeletes
          obtain ⟨route', fate⟩ := x
          cases fate with
          | failed => exact ⟨howned, hgrows⟩
          | answered | lost =>
              obtain ⟨howned', hgrows'⟩ := howned.compareDelete sessionId route
                (encodeOwnerRecord ⟨node.text, token⟩)
              exact ⟨howned', hgrows.trans hgrows'⟩
  | ends proc =>
      obtain rfl := Option.some_inj.1 henv
      have hgrows : s.Grows { s with ended := Function.update s.ended proc true } := by
        refine ⟨fun _ _ _ hentry => hentry, fun _ _ hmissed => hmissed, fun proc' hended => ?_⟩
        rcases eq_or_ne proc' proc with rfl | hne
        · exact Function.update_self _ _ _
        · exact (Function.update_of_ne hne _ _).trans hended
      exact ⟨h.frame hgrows rfl rfl h.routers (fun _ _ _ hvalue => .inl hvalue) h.subscribers, hgrows⟩
  | fires node ref =>
      obtain ⟨hended, hmap⟩ := Option.ite_none_right_eq_some.1 henv
      obtain ⟨router, hstep, rfl⟩ := Option.map_eq_some_iff.1 hmap
      obtain ⟨inbox, hfire, rfl⟩ := Option.map_eq_some_iff.1 hstep
      exact h.setRouter _ ((h.routers node).fire hfire hended)
  | expires sessionId route =>
      obtain rfl := Option.some_inj.1 henv
      exact h.setRecord sessionId route none fun text htext => by cases htext
  | link node other up =>
      obtain rfl := Option.some_inj.1 henv
      have hgrows : s.Grows { s with
          links := Function.update s.links node (Function.update (s.links node) other up) } :=
        ⟨fun _ _ _ h => h, fun _ _ h => h, fun _ h => h⟩
      exact ⟨h.frame hgrows rfl rfl h.routers (fun _ _ _ hvalue => .inl hvalue) h.subscribers, hgrows⟩

theorem owned_newCluster (links : NodeName → String → Bool) : Owned (newCluster M links) where
  routers _ := ⟨nofun, nofun, nofun, nofun, nofun⟩
  records := nofun
  subscribers _ _ hproc := absurd hproc List.not_mem_nil
  numbers := nofun

/-! ### The calls keep to their guards -/

/-- What holds at any time from now on. -/
def Cluster.Later {α : Type} (s : Cluster M) (Φ : α → Cluster M → Prop) : Prop :=
  ∀ a t, s.Grows t → Owned t → Φ a t

theorem Cluster.Later.of_grows {α : Type} {Φ : α → Cluster M → Prop} (h : s.Later Φ)
    (hgrows : s.Grows t) : t.Later Φ := fun a u hu howned => h a u (hgrows.trans hu) howned

/-- What is left of a call is secure among the others. -/
def Safe {α : Type} (call : Call M) (p : ClusterProg M α) (Φ : α → Cluster M → Prop) (s : Cluster M) :
    Prop :=
  p.Secure clusterExec (fun s t => s.Grows t ∧ Owned t) (clusterGuard call) (fun _ => True) Φ s

variable {call : Call M} {α β : Type}

theorem safe_ret {a : α} {Φ : α → Cluster M → Prop} (hs : Owned s) (hΦ : s.Later Φ) :
    Safe call (.ret a) Φ s := hΦ a s (.refl s) hs

theorem Safe.bind {p : ClusterProg M α} {f : α → ClusterProg M β} {Φ : β → Cluster M → Prop}
    (h : Safe call p (fun a t => Safe call (f a) Φ t) s) : Safe call (p.bind f) Φ s :=
  Program.Secure.bind h

/-- **A command with its guard**: what it leaves is known. -/
theorem safe_perform {c : Cmd M} {Φ : c.Reply → Cluster M → Prop}
    (hguard : ∀ t, s.Grows t → Owned t → clusterGuard call c t)
    (hΦ : ∀ t x, s.Grows t → Owned t → s.Grows (clusterExec x c t).2 → Owned (clusterExec x c t).2 →
      Φ (clusterExec x c t).1 (clusterExec x c t).2) : Safe call (perform c) Φ s := by
  rintro t ⟨hgrows, howned⟩
  have hc := hguard t hgrows howned
  refine ⟨hc, fun x => ?_, fun e => e.elim⟩
  obtain ⟨howned', hgrows'⟩ := howned.exec hc x
  exact hΦ t x hgrows howned (hgrows.trans hgrows') howned'

/-- A command whose reply does not matter. -/
theorem safe_perform_of_later {c : Cmd M} {Φ : c.Reply → Cluster M → Prop}
    (hguard : ∀ t, s.Grows t → Owned t → clusterGuard call c t) (hΦ : s.Later Φ) :
    Safe call (perform c) Φ s :=
  safe_perform hguard fun _ _ _ _ hgrows howned => hΦ _ _ hgrows howned

theorem safe_ownerKey {sessionId : String} {routeHint : Option Route}
    {Φ : Except Reason Route → Cluster M → Prop} (hs : Owned s) (hΦ : s.Later Φ) :
    Safe call (ownerKey sessionId routeHint) Φ s := by
  cases routeHint with
  | some route => exact safe_ret hs hΦ
  | none => exact safe_perform_of_later (fun _ _ _ => trivial) hΦ

/-- **A record that is persisted is that of a process that registers.** -/
theorem safe_persistOwner {self : Proc} {Φ : Except Reason Unit → Cluster M → Prop}
    (hs : Owned s) (hcall : call.RegistersAs self sessionId)
    (hgranted : s.Granted self sessionId token) (hΦ : s.Later Φ) :
    Safe call (persistOwner sessionId (buildLocalOwnerRecord self token)) Φ s := by
  refine Safe.bind (safe_ownerKey hs fun route? t hgrows howned => ?_)
  cases route? with
  | error reason => exact safe_ret howned (hΦ.of_grows hgrows)
  | ok route =>
      refine safe_perform_of_later (fun u hu _ => ?_) (hΦ.of_grows hgrows)
      exact ⟨self, token, hcall, rfl, (hgrows.trans hu).granted hgranted⟩

theorem safe_compareAndDeleteOwnerValue {value : String} {Φ : Unit → Cluster M → Prop} (hs : Owned s)
    (hmay : ∀ t, s.Grows t → call.MayDelete sessionId value t) (hΦ : s.Later Φ) :
    Safe call (compareAndDeleteOwnerValue sessionId value) Φ s := by
  refine Safe.bind (safe_ownerKey hs fun route? t hgrows howned => ?_)
  cases route? with
  | error reason => exact safe_ret howned (hΦ.of_grows hgrows)
  | ok route =>
      exact safe_perform_of_later (fun u hu _ => hmay u (hgrows.trans hu)) (hΦ.of_grows hgrows)

theorem safe_trackLocalOwner {self : Proc} {Φ : Unit → Cluster M → Prop}
    (hgranted : s.Granted self sessionId token) (hΦ : s.Later Φ) :
    Safe call (trackLocalOwner self sessionId token) Φ s := by
  refine Safe.bind (safe_perform_of_later (fun t hgrows _ => hgrows.granted hgranted) ?_)
  intro _ t hgrows howned
  exact safe_perform_of_later (fun u hu _ => (hgrows.trans hu).granted hgranted) (hΦ.of_grows hgrows)

theorem safe_untrackLocalOwner {self : Proc} {Φ : Unit → Cluster M → Prop} (hΦ : s.Later Φ) :
    Safe call (untrackLocalOwner self sessionId) Φ s := by
  have hcast : s.Later fun (_ : Unit) t =>
      Safe call (perform (.cast self.node (.untrackOwner sessionId self.pid))) Φ t :=
    fun _ t hgrows _ => safe_perform_of_later (fun _ _ _ => trivial) (hΦ.of_grows hgrows)
  refine Safe.bind (Safe.bind (safe_perform_of_later (fun _ _ _ => trivial) ?_))
  intro row t hgrows howned
  rcases row with _ | ⟨pid, token⟩
  · exact safe_ret howned (hcast.of_grows hgrows)
  · change Safe call (if pid = self.pid then perform (.deleteRow self.node sessionId) else .ret ()) _ t
    by_cases hpid : pid = self.pid
    · rw [if_pos hpid]
      exact safe_perform_of_later (fun _ _ _ => trivial) (hcast.of_grows hgrows)
    · rw [if_neg hpid]
      exact safe_ret howned (hcast.of_grows hgrows)

/-- The token of a row of this process was given to it. -/
theorem safe_localOwner {self : Proc} {Φ : Option String → Cluster M → Prop}
    (hΦ : ∀ token? t, s.Grows t → Owned t → (∀ token ∈ token?, t.Granted self sessionId token) →
      Φ token? t) : Safe call (localOwner self sessionId) Φ s := by
  refine Safe.bind (safe_perform (fun _ _ _ => trivial) ?_)
  intro t x _ howned hgrows _
  rcases hrow : (clusterExec x (.lookup self.node sessionId) t).1 with _ | ⟨pid, token⟩
  · exact hΦ none t hgrows howned nofun
  · refine hΦ _ t hgrows howned fun token' htoken => ?_
    by_cases hpid : pid = self.pid
    · rw [if_pos hpid, Option.mem_some_iff] at htoken
      obtain rfl := htoken
      have hgranted := (howned.routers self.node).rows sessionId pid token hrow
      rwa [hpid] at hgranted
    · rw [if_neg hpid] at htoken
      cases htoken

/-- A new token is given to the process that asks. -/
theorem safe_ownerToken {self : Proc} {Φ : String → Cluster M → Prop}
    (hΦ : ∀ token t, s.Grows t → Owned t → t.Granted self sessionId token → Φ token t) :
    Safe call (perform (.ownerToken self sessionId)) Φ s := by
  refine safe_perform (fun _ _ _ => trivial) fun t x _ howned hgrows howned' => ?_
  exact hΦ _ _ hgrows howned' (howned.giveToken self sessionId).2.2

/-- **A message is sent to a process that registered for the session.** -/
theorem safe_dispatchLocal {self : Proc} {message : M} {ownerHint : Option String}
    {routeHint : Option Route} {Φ : Bool → Cluster M → Prop} (hΦ : s.Later Φ) :
    Safe (.route self sessionId message ownerHint routeHint) (dispatchLocal self sessionId message) Φ
      s := by
  refine Safe.bind (safe_perform (fun _ _ _ => trivial) ?_)
  intro t x _ howned hgrows _
  rcases hrow : (clusterExec x (.lookup self.node sessionId) t).1 with _ | ⟨pid, token⟩
  · exact safe_ret howned (hΦ.of_grows hgrows)
  · have hregistered : t.Registered ⟨self.node, pid⟩ sessionId :=
      ⟨token, (howned.routers self.node).rows sessionId pid token hrow⟩
    refine Safe.bind (safe_perform_of_later (fun _ _ _ => trivial) ?_)
    -- the row may have changed since; that the process registered remains
    intro alive u hu _
    cases alive with
    | true =>
        refine Safe.bind (safe_perform_of_later (fun v hv _ => ?_) fun _ v hv hv' => ?_)
        · exact ⟨self, sessionId, ownerHint, routeHint, rfl, rfl, (hu.trans hv).registered hregistered⟩
        · exact safe_ret hv' (hΦ.of_grows ((hgrows.trans hu).trans hv))
    | false =>
        refine Safe.bind (safe_perform_of_later (fun _ _ _ => trivial) fun _ v hv hv' => ?_)
        exact safe_ret hv' (hΦ.of_grows ((hgrows.trans hu).trans hv))

/-- What is read as the record of a session. -/
theorem safe_ownerRecord {routeHint : Option Route}
    {Φ : Except Reason (Option OwnerRecord) → Cluster M → Prop} (hs : Owned s)
    (hΦ : ∀ owner? t, s.Grows t → Owned t →
      (∀ owner, owner? = .ok (some owner) → decodeOwnerRecord (encodeOwnerRecord owner) = some owner) →
        Φ owner? t) : Safe call (ownerRecord sessionId routeHint) Φ s := by
  refine Safe.bind (safe_ownerKey hs fun route? t hgrows howned => ?_)
  cases route? with
  | error reason => exact hΦ _ t hgrows howned nofun
  | ok route =>
      refine Safe.bind (safe_perform_of_later (fun _ _ _ => trivial) ?_)
      intro encoded? u hu howned'
      rcases encoded? with reason | _ | encodedOwner
      · exact hΦ _ u (hgrows.trans hu) howned' nofun
      · exact hΦ _ u (hgrows.trans hu) howned' nofun
      · dsimp only
        cases hread : Router.decodeOwnerRecord encodedOwner with
        | some owner =>
            refine hΦ _ u (hgrows.trans hu) howned' fun owner' heq => ?_
            cases heq
            rw [← encodeOwnerRecord_of_decodeOwnerRecord hread, hread]
        | none =>
            refine Safe.bind (safe_compareAndDeleteOwnerValue howned' (fun _ _ => .inl hread) ?_)
            exact fun _ v hv howned'' => hΦ _ v ((hgrows.trans hu).trans hv) howned'' nofun

/-- A call may end anyhow. -/
abbrev Anyhow {α : Type} (_ : α) (_ : Cluster M) : Prop := True

theorem later_anyhow : s.Later (Anyhow (α := α)) := fun _ _ _ _ => trivial

/-- A call may end now. -/
theorem safe_end {a : α} : Safe call (.ret a) Anyhow s := trivial

theorem safe_register (self : Proc) (pid : ℕ) :
    Safe (.register self sessionId pid) (register self sessionId pid) Anyhow s := by
  have hcall : (Call.register self sessionId pid : Call M).RegistersAs self sessionId := ⟨rfl, rfl⟩
  unfold register
  by_cases hpid : pid ≠ self.pid
  · rw [if_pos hpid]
    exact safe_end
  · rw [if_neg hpid]
    refine Safe.bind (safe_ownerToken fun token t _ howned hgranted => ?_)
    refine Safe.bind (safe_perform_of_later (fun u hu _ => ?_) fun _ u hu _ => ?_)
    · exact ⟨token, hu.granted hgranted⟩
    refine Safe.bind (safe_trackLocalOwner (hu.granted hgranted) fun _ v hv howned' => ?_)
    refine Safe.bind (safe_persistOwner howned' hcall ((hu.trans hv).granted hgranted) ?_)
    intro result w _ _
    cases result with
    | ok _ => exact safe_end
    | error reason =>
        refine Safe.bind (safe_perform_of_later (fun _ _ _ => trivial) fun _ _ _ _ => ?_)
        exact Safe.bind (safe_untrackLocalOwner fun _ _ _ _ => safe_end)

theorem safe_restoreOwner {self : Proc} (hcall : call.RegistersAs self sessionId) :
    Safe call (restoreOwner self sessionId) Anyhow s := by
  refine Safe.bind (safe_ownerToken fun token t _ howned hgranted => ?_)
  refine Safe.bind (safe_trackLocalOwner hgranted fun _ u hu howned' => ?_)
  refine Safe.bind (safe_persistOwner howned' hcall (hu.granted hgranted) fun result _ _ _ => ?_)
  cases result with
  | ok _ => exact safe_end
  | error reason => exact Safe.bind (safe_untrackLocalOwner fun _ _ _ _ => safe_end)

theorem safe_refreshOwner (self : Proc) (pid : ℕ) :
    Safe (.refreshOwner self sessionId pid) (refreshOwner self sessionId pid) Anyhow s := by
  have hcall : (Call.refreshOwner self sessionId pid : Call M).RegistersAs self sessionId := ⟨rfl, rfl⟩
  unfold refreshOwner
  by_cases hpid : pid ≠ self.pid
  · rw [if_pos hpid]
    exact safe_end
  · rw [if_neg hpid]
    refine Safe.bind (safe_localOwner fun token? t _ howned hgranted => ?_)
    cases token? with
    | none => exact safe_restoreOwner hcall
    | some token =>
        refine Safe.bind (safe_persistOwner howned hcall (hgranted token rfl) fun result _ _ _ => ?_)
        cases result with
        | ok _ => exact safe_end
        | error reason => exact safe_end

/-- **A process that unregisters deletes a record of its own**, whoever has registered since. -/
theorem safe_unregister (self : Proc) :
    Safe (.unregister self sessionId) (unregister self sessionId) Anyhow s := by
  refine Safe.bind (safe_localOwner fun token? t _ _ hgranted => ?_)
  refine Safe.bind (safe_perform_of_later (fun _ _ _ => trivial) fun _ u hu _ => ?_)
  refine Safe.bind (safe_untrackLocalOwner fun _ v hv howned => ?_)
  cases token? with
  | none => exact safe_end
  | some token =>
      refine Safe.bind (safe_compareAndDeleteOwnerValue howned (fun w hw => .inr ⟨rfl, token, rfl, ?_⟩)
        fun _ _ _ _ => safe_end)
      exact ((hu.trans hv).trans hw).granted (hgranted token rfl)

theorem safe_ownerNode (hs : Owned s) {routeHint : Option Route} :
    Safe call (ownerNode sessionId routeHint) Anyhow s := by
  refine Safe.bind (safe_ownerRecord hs fun owner? t _ _ _ => ?_)
  rcases owner? with reason | _ | owner
  · exact safe_end
  · exact safe_end
  · exact safe_end

section Route

variable {self : Proc} {message : M} {ownerHint : Option String} {routeHint hint : Option Route}

/-- **A process that routes deletes the record of a node that it has found missing.** -/
theorem safe_dispatchRemote {ownerNode : String} {token? : Option String}
    (hread : ∀ token ∈ token?,
      decodeOwnerRecord (encodeOwnerRecord ⟨ownerNode, token⟩) = some ⟨ownerNode, token⟩) :
    Safe (.route self sessionId message ownerHint routeHint)
      (dispatchRemote self sessionId ownerNode token? message) Anyhow s := by
  unfold dispatchRemote
  by_cases hself : ownerNode = self.node.text
  · rw [if_pos hself]
    exact Safe.bind (safe_dispatchLocal fun _ _ _ _ => safe_end)
  · rw [if_neg hself]
    refine Safe.bind (safe_perform (fun _ _ _ => trivial) fun t x _ _ _ howned => ?_)
    have hmissed : (clusterExec x (.inNodeList self.node ownerNode) t).1 = false →
        (clusterExec x (.inNodeList self.node ownerNode) t).2.missed self.node ownerNode = true := by
      intro hlink
      have hdown : t.links self.node ownerNode = false := hlink
      simp [clusterExec, hdown]
    rcases hconnected : (clusterExec x (.inNodeList self.node ownerNode) t).1 with _ | _
    · cases token? with
      | none => exact safe_end
      | some token =>
          -- only the record that names the missing node is deleted
          refine Safe.bind (safe_compareAndDeleteOwnerValue howned (fun u hu => ?_) fun _ _ _ _ => ?_)
          · exact .inr ⟨rfl, _, hread token rfl, hu.missed _ _ (hmissed hconnected)⟩
          · exact Safe.bind (safe_dispatchLocal fun _ _ _ _ => safe_end)
    · exact Safe.bind (safe_perform_of_later (fun _ _ _ => ⟨self, ownerHint, routeHint, rfl, rfl⟩)
        fun _ _ _ _ => safe_end)

theorem safe_routeViaOwnerRecord (hs : Owned s) :
    Safe (.route self sessionId message ownerHint routeHint)
      (routeViaOwnerRecord self sessionId message hint) Anyhow s := by
  refine Safe.bind (safe_ownerRecord hs fun owner? t _ _ hread => ?_)
  rcases owner? with reason | _ | owner
  · exact Safe.bind (safe_perform_of_later (fun _ _ _ => trivial) fun _ _ _ _ => safe_end)
  · exact Safe.bind (safe_perform_of_later (fun _ _ _ => trivial) fun _ _ _ _ => safe_end)
  · change Safe _ (if owner.node = self.node.text then
      (perform (.broadcast self.node sessionId message)).bind fun _ => .ret .ok
      else dispatchRemote self sessionId owner.node (some owner.token) message) _ t
    by_cases hself : owner.node = self.node.text
    · rw [if_pos hself]
      exact Safe.bind (safe_perform_of_later (fun _ _ _ => ⟨self, ownerHint, routeHint, rfl, rfl⟩)
        fun _ _ _ _ => safe_end)
    · rw [if_neg hself]
      refine safe_dispatchRemote fun token htoken => ?_
      obtain rfl := Option.some_inj.1 htoken
      exact hread owner rfl

theorem safe_route : Safe (.route self sessionId message ownerHint routeHint)
    (route self sessionId message ownerHint routeHint) Anyhow s := by
  refine Safe.bind (safe_dispatchLocal fun dispatched t _ howned => ?_)
  cases dispatched with
  | true => exact safe_end
  | false =>
      simp only [Bool.false_eq_true, if_false]
      cases ownerHintRecord self ownerHint with
      | none => exact safe_routeViaOwnerRecord howned
      | some ownerNode =>
          dsimp only
          unfold dispatchRemoteWithHintFallback
          by_cases hself : ownerNode = self.node.text
          · rw [if_pos hself]
            refine Safe.bind (safe_dispatchLocal fun dispatched u _ howned' => ?_)
            cases dispatched with
            | true => exact safe_end
            | false => exact safe_routeViaOwnerRecord howned'
          · rw [if_neg hself]
            refine Safe.bind (safe_perform_of_later (fun _ _ _ => trivial) fun connected u _ howned' => ?_)
            cases connected with
            | true =>
                change Safe _ (dispatchRemote self sessionId ownerNode none message) _ u
                exact safe_dispatchRemote fun _ h => absurd h (Option.not_mem_none _)
            | false => exact safe_routeViaOwnerRecord howned'

end Route

/-- **Every call keeps to its guard.** -/
theorem safe_clusterProgram (hs : Owned s) (call : Call M) :
    Safe call (clusterProgram call) Anyhow s := by
  cases call with
  | register self sessionId pid => exact safe_register self pid
  | refreshOwner self sessionId pid => exact safe_refreshOwner self pid
  | unregister self sessionId => exact safe_unregister self
  | route self sessionId message ownerHint routeHint => exact safe_route
  | ownerNode sessionId routeHint => exact safe_ownerNode hs

/-! ### The law holds -/

/-- **What the calls keep of the cluster.** -/
def clusterContract (M : Type) : Pool.Contract (Call M) (Cmd M) Empty (Cluster M) Outcome where
  inv := Owned
  rely _ s t := s.Grows t ∧ Owned t
  guard := clusterGuard
  post _ _ _ := True
  faults _ := True

theorem lawful_clusterContract : (clusterContract M).Lawful where
  refl _ s hs := ⟨.refl s, hs⟩
  trans _ _ _ _ h h' := ⟨h.1.trans h'.1, h'.2⟩
  stable _ _ _ _ _ _ := trivial

/-- **Every call keeps its contract in every run.** -/
theorem keeps_clusterContract {links : NodeName → String → Bool}
    {l : List (Pool.Event (Call M) World Outside Empty)}
    {cfg : Pool.Config (Call M) (Cmd.Reply (M := M)) Empty (Cluster M) Outcome}
    (hrun : Run (Pool.step (clusterSystem M)) Always (Pool.idle (newCluster M links)) l cfg) :
    (clusterContract M).Keeps (clusterSystem M) cfg := by
  have hidle : (clusterContract M).Keeps (clusterSystem M) (Pool.idle (newCluster M links)) :=
    ⟨owned_newCluster links, fun _ h => absurd h List.not_mem_nil⟩
  refine Pool.Contract.keeps_of_run lawful_clusterContract ?_ ?_ ?_ (fun _ _ _ _ => trivial) hidle hrun
  · intro cfg call hkeeps _
    exact safe_clusterProgram hkeeps.1 call
  · intro cfg i x call c next hkeeps _ _ hguard
    obtain ⟨howned, hgrows⟩ := hkeeps.1.exec hguard x
    exact ⟨howned, fun _ h => absurd h List.not_mem_nil, fun _ _ _ _ => .inl ⟨hgrows, howned⟩⟩
  · intro cfg n store hkeeps _ henv
    obtain ⟨howned, hgrows⟩ := hkeeps.1.env henv
    exact ⟨howned, fun _ _ => .inl ⟨hgrows, howned⟩⟩

/-- What a write leaves of another record, and of its own. -/
theorem records_setRecord (s : Cluster M) (sessionId sessionId' : String) (route route' : Route)
    (value : Option String) :
    (s.setRecord sessionId route value).records sessionId' route' =
      if sessionId' = sessionId ∧ route' = route then value else s.records sessionId' route' := by
  unfold Cluster.setRecord
  dsimp only
  by_cases hsession : sessionId' = sessionId
  · subst hsession
    rw [Function.update_self]
    by_cases hroute : route' = route
    · subst hroute
      rw [Function.update_self, if_pos ⟨rfl, rfl⟩]
    · rw [Function.update_of_ne hroute, if_neg fun h => hroute h.2]
  · rw [Function.update_of_ne hsession, if_neg fun h => hsession h.1]

/-- What a deletion does to a record. -/
theorem records_compareDelete (sessionId : String) (route : Route) (value : String)
    {sessionId' : String} {route' : Route} {value' : String}
    (h : s.records sessionId' route' = some value') :
    (s.compareDelete sessionId route value).records sessionId' route' = some value' ∨
      ((s.compareDelete sessionId route value).records sessionId' route' = none ∧
        sessionId' = sessionId ∧ value' = value) := by
  unfold Cluster.compareDelete
  split
  next hsame =>
      rw [records_setRecord]
      split_ifs with hkey
      · obtain ⟨rfl, rfl⟩ := hkey
        exact .inr ⟨rfl, rfl, Option.some_inj.1 (h.symm.trans hsame)⟩
      · exact .inl h
  next => exact .inl h

/-- **What a command does to a record.** -/
theorem records_exec {x : World} {c : Cmd M} {sessionId' : String} {route' : Route} {value' : String}
    (h : s.records sessionId' route' = some value') :
    (clusterExec x c s).2.records sessionId' route' = some value' ∨
      (∃ route value, c = .setex sessionId' route value ∧
        (clusterExec x c s).2.records sessionId' route' = some value) ∨
      (∃ route, c = .compareDelete sessionId' route value' ∧
        (clusterExec x c s).2.records sessionId' route' = none) := by
  cases c with
  | setex sessionId route value =>
      have hset : (s.setRecord sessionId route (some value)).records sessionId' route' = some value' ∨
          sessionId' = sessionId ∧
            (s.setRecord sessionId route (some value)).records sessionId' route' = some value := by
        rw [records_setRecord]
        split_ifs with hkey
        · exact .inr ⟨hkey.1, rfl⟩
        · exact .inl h
      obtain ⟨route?, fate⟩ := x
      cases fate with
      | failed => exact .inl h
      | answered | lost =>
          rcases hset with hset | ⟨rfl, hset⟩
          · exact .inl hset
          · exact .inr (.inl ⟨route, value, rfl, hset⟩)
  | compareDelete sessionId route value =>
      obtain ⟨route?, fate⟩ := x
      cases fate with
      | failed => exact .inl h
      | answered | lost =>
          rcases records_compareDelete sessionId route value h with
            hkept | ⟨hgone, rfl, rfl⟩
          · exact .inl hkept
          · exact .inr (.inr ⟨route, rfl, hgone⟩)
  | _ => exact .inl h

/-- **What happens beside the calls does to a record.** -/
theorem records_env {n : Outside} (hs : Owned s) (henv : clusterEnv s n = some t)
    {sessionId' : String} {route' : Route} {value' : String}
    (h : s.records sessionId' route' = some value') :
    t.records sessionId' route' = some value' ∨ (t.records sessionId' route' = none ∧
      ((∃ route, n = .expires sessionId' route) ∨ ∃ node x pid token, n = .deleted node x ∧
        value' = encodeOwnerRecord (buildLocalOwnerRecord ⟨node, pid⟩ token) ∧
          s.Granted ⟨node, pid⟩ sessionId' token ∧ s.ended ⟨node, pid⟩ = true)) := by
  cases n with
  | handled node =>
      obtain ⟨-, hmap⟩ := Option.ite_none_right_eq_some.1 henv
      obtain ⟨router, -, rfl⟩ := Option.map_eq_some_iff.1 hmap
      exact .inl h
  | fires node ref =>
      obtain ⟨-, hmap⟩ := Option.ite_none_right_eq_some.1 henv
      obtain ⟨router, -, rfl⟩ := Option.map_eq_some_iff.1 hmap
      exact .inl h
  | ends proc =>
      obtain rfl := Option.some_inj.1 henv
      exact .inl h
  | link node other up =>
      obtain rfl := Option.some_inj.1 henv
      exact .inl h
  | expires sessionId route =>
      obtain rfl := Option.some_inj.1 henv
      rw [records_setRecord]
      split_ifs with hkey
      · obtain ⟨rfl, rfl⟩ := hkey
        exact .inr ⟨rfl, .inl ⟨route', rfl⟩⟩
      · exact .inl h
  | deleted node x =>
      unfold clusterEnv at henv
      dsimp only at henv
      split at henv
      · cases henv
      next =>
          obtain rfl := Option.some_inj.1 henv
          exact .inl h
      next sessionId token rest route hdeletes _ =>
          obtain rfl := Option.some_inj.1 henv
          obtain ⟨pid, hgranted, hended⟩ := (hs.routers node).deletes sessionId token (by
            rw [hdeletes]
            exact List.mem_cons_self)
          obtain ⟨route?, fate⟩ := x
          cases fate with
          | failed => exact .inl h
          | answered | lost =>
              refine (@records_compareDelete _ (s.setRouter node
                { s.routers node with compareAndDelete := rest }) _ _ _ _ _ _ h).imp_right ?_
              rintro ⟨hgone, rfl, rfl⟩
              exact ⟨hgone, .inr ⟨node, _, pid, token, rfl, rfl, hgranted, hended⟩⟩

/-- **The law of the records holds.** -/
theorem recordsLaw (M : Type) : RecordsLaw M := by
  intro links l cfg ev cfg' hrun hstep sessionId route value hrecord
  have hkeeps := keeps_clusterContract hrun
  have hs : Owned cfg.store := hkeeps.1
  obtain ⟨proc, token, rfl, hgranted⟩ := hs.records sessionId route value hrecord
  refine ⟨proc, token, rfl, hgranted, ?_⟩
  rcases Pool.step_cases hstep with ⟨call, rfl, rfl⟩ | ⟨i, x, call, c, next, rfl, hget, rfl⟩ |
    ⟨i, e, call, c, next, rfl, hget, rfl⟩ | ⟨n, store, rfl, henv, rfl⟩
  · exact .inl hrecord
  · have hguard : clusterGuard call c cfg.store := hkeeps.guard lawful_clusterContract hget
    rcases records_exec (x := x) (c := c) hrecord with hkept | ⟨route', text, rfl, hset⟩ |
      ⟨route', rfl, hgone⟩
    · exact .inl hkept
    · obtain ⟨proc', token', hcall, rfl, hgranted'⟩ := hguard
      exact .inr (.inl ⟨i, x, call, _, proc', token', rfl, hget, hcall, hgranted', hset⟩)
    · refine .inr (.inr ⟨hgone, ?_⟩)
      -- the record can be read, so the call had its own reason to delete it
      have hread := hs.decodeOwnerRecord hgranted
      rcases hguard with hnone | hmay
      · rw [hnone] at hread
        cases hread
      · cases call with
        | unregister self sessionId' =>
            obtain ⟨rfl, token', hvalue, hgranted'⟩ := hmay
            obtain ⟨rfl, -⟩ := hs.proc_unique hgranted hgranted' hvalue
            exact .unregistered i x _ hget
        | route self sessionId' message ownerHint routeHint =>
            obtain ⟨rfl, owner, howner, hmissed⟩ := hmay
            rw [hread, Option.some.injEq] at howner
            subst howner
            exact .missed i x _ self message ownerHint routeHint hget hmissed
        | register _ _ _ | refreshOwner _ _ _ | ownerNode _ _ => exact hmay.elim
  · exact .inl hrecord
  · rcases records_env hs henv hrecord with hkept | ⟨hgone, ⟨route', rfl⟩ |
      ⟨node, x, pid, token', rfl, hvalue, hgranted', hended⟩⟩
    · exact .inl hkept
    · exact .inr (.inr ⟨hgone, .expired route'⟩)
    · obtain ⟨rfl, -⟩ := hs.proc_unique hgranted hgranted' hvalue
      exact .inr (.inr ⟨hgone, .ended x hended⟩)

end Owned

end Sockets.Router
