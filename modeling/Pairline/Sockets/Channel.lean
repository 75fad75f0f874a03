/-
**The channel of a client, and the match it holds.**

A channel learns of matches, messages and disconnects from the router, in any order, and of what its
client wants from the client.  It holds a partner and a generation, and passes messages on that agree
with them; a match message it takes as it is, and so it does with a message that names no sender.

Which match a message is of is recorded beside it.  The channel does not read it.

Main definitions:

* `Sockets.Socket`, `Sockets.Incoming`, `Sockets.handleInfo` — what a channel holds, and what it does
  with what the router brings;
* `Sockets.Room.step` — **a channel, its client, and the matches of its sessions**;
* `Sockets.Fenced` — the channel holds a match that its client has not ended, and pushes messages of
  that match only;
* `Sockets.InTime` — nothing that names no match is overtaken.

Main results:

* `Sockets.Sound.step` — what the messages on their way are about;
* `Sockets.fenced_of_inTime` — **a channel whose messages arrive in time is fenced**;
* `Sockets.skippedMatch_comesBack` — a match that has been skipped is taken up again.
-/

import Pairline.Sessions.Record
import Pairline.Transition

set_option relaxedAutoImplicit false
set_option autoImplicit false

namespace Sockets

open Matchmaker (SessionId)
open Sessions (Route)
open Transition

/-! ### The channel -/

abbrev Generation := String

/-- What a channel keeps of its session and of the match it is in. -/
structure Socket where
  mode : String
  sessionId : Option SessionId
  partnerId : Option SessionId
  matchGeneration : Option Generation
  partnerRoute : Option Route
  partnerOwnerNode : Option String
  deriving DecidableEq

/-- What the router brings.  A message may lack its sender, and then or otherwise its generation. -/
inductive Incoming
  | routerMatch (partnerId : SessionId) (commonInterests : List String)
      (matchGeneration : Option Generation) (partnerRoute : Option Route)
      (partnerOwnerNode : Option String) (videoEnabled : Option Bool)
  | routerMessage (type : String) (sender : Option SessionId)
      (matchGeneration : Option (Option Generation)) (data : String)
  | routerDisconnect (reason : String) (matchGeneration : Option Generation)
  | routerTimeout
  | routerBanned (reason : String)
  deriving DecidableEq

/-- What the client is sent. -/
inductive Push
  | matched (peerId : SessionId) (commonInterests : List String) (reportable videoEnabled : Bool)
  | message (type : String) (sender : Option SessionId) (data : String)
  | disconnected (reason : String)
  | timeout
  | banned (reason : String)

def normalizePartnerOwnerNode (ownerNode : Option String) : Option String :=
  ownerNode.filter (· ≠ "")

def partnerVideoEnabled (socket : Socket) (videoEnabled : Option Bool) : Bool :=
  socket.mode = "video" && videoEnabled.getD true

def clearMatchAssigns (socket : Socket) : Socket :=
  { socket with
    partnerId := none, matchGeneration := none, partnerRoute := none, partnerOwnerNode := none }

def clearSessionAssigns (socket : Socket) : Socket :=
  clearMatchAssigns { socket with sessionId := none }

/-- The message is from the partner, and of the match, that the socket holds. -/
def currentMatchMessage (socket : Socket) (sender : SessionId) (generation : Option Generation) :
    Bool :=
  some sender = socket.partnerId && generation = socket.matchGeneration

/-- **What a channel does with what the router brings.** -/
def handleInfo (socket : Socket) : Incoming → Socket × Option Push
  | .routerMatch partnerId commonInterests matchGeneration partnerRoute partnerOwnerNode video =>
      ({ socket with
          partnerId := some partnerId
          matchGeneration := matchGeneration
          partnerRoute := partnerRoute
          partnerOwnerNode := normalizePartnerOwnerNode partnerOwnerNode },
        some (.matched partnerId commonInterests true (partnerVideoEnabled socket video)))
  | .routerMessage type (some sender) (some generation) data =>
      if currentMatchMessage socket sender generation then
        (socket, some (.message type (some sender) data))
      else (socket, none)
  -- a sender without a generation
  | .routerMessage _ (some _) none _ => (socket, none)
  | .routerMessage type none _ data => (socket, some (.message type none data))
  | .routerDisconnect reason none => (clearMatchAssigns socket, some (.disconnected reason))
  | .routerDisconnect reason (some generation) =>
      if socket.matchGeneration = some generation then
        (clearMatchAssigns socket, some (.disconnected reason))
      else (socket, none)
  | .routerTimeout => (clearMatchAssigns socket, some .timeout)
  | .routerBanned reason => (clearMatchAssigns socket, some (.banned reason))

/-- The message names neither its sender nor its match. -/
def Incoming.isUntagged : Incoming → Bool
  | .routerMessage _ none _ _ => true
  | _ => false

def Incoming.isMatch : Incoming → Bool
  | .routerMatch _ _ _ _ _ _ => true
  | _ => false

/-! ### A room -/

/-- A match of a session: whether the store has it, and whether a later event of the client has put
an end to it. -/
structure StoredMatch where
  sessionId : SessionId
  partnerId : SessionId
  generation : Generation
  current : Bool
  past : Bool
  deriving DecidableEq

/-- A message on its way, and the number of the match it is of. -/
structure Parcel where
  message : Incoming
  of : Option ℕ
  deriving DecidableEq

structure Room where
  socket : Socket
  history : List StoredMatch
  /-- What is on its way to the channel, in no order. -/
  mailbox : List Parcel
  /-- The number of the match the socket holds. -/
  held : Option ℕ

/-- What a client asks for and is granted. -/
inductive ClientEvent
  /-- The session is torn down, and a new one created unless that fails. -/
  | search (sessionId : Option SessionId)
  | skip
  | stop
  | disconnect
  deriving DecidableEq

inductive RoomEvent
  | client (ev : ClientEvent)
  /-- The match has ended in the store, but the client is answered with an error. -/
  | clientFails
  | matched (partnerId : SessionId) (generation : Generation) (commonInterests : List String)
      (partnerRoute : Option Route) (partnerOwnerNode : Option String)
      (videoEnabled : Option Bool)
  | partnerEnds (reason : String)
  /-- The channel of a partner sends a message of a match. -/
  | partnerSends (m : ℕ) (type : String) (data : String)
  /-- Both sides of the match in the store are ready. -/
  | webrtcStart
  /-- A disconnect, a timeout or a ban from elsewhere. -/
  | notified (message : Incoming)
  /-- The channel takes what is on its way, in any order. -/
  | handle (k : ℕ)

/-- A message that takes no match up and is none of a chat. -/
def Incoming.isNotice : Incoming → Bool
  | .routerDisconnect _ _ | .routerTimeout | .routerBanned _ => true
  | _ => false

namespace Room

def start (mode : String) : Room :=
  { socket := ⟨mode, none, none, none, none, none⟩
    history := []
    mailbox := []
    held := none }

def current (s : Room) : Option ℕ := s.history.findIdx? StoredMatch.current

def endCurrent (s : Room) : Room :=
  { s with history := s.history.map fun r => { r with current := false } }

/-- Whatever has been matched so far is past for the client. -/
def endAll (s : Room) : Room :=
  { s with history := s.history.map fun r => { r with current := false, past := true } }

def post (s : Room) (message : Incoming) (of : Option ℕ) : Room :=
  { s with mailbox := s.mailbox ++ [⟨message, of⟩] }

/-- The match a socket holds after it has taken a message. -/
def heldAfter (s : Room) (parcel : Parcel) : Option ℕ :=
  if parcel.message.isMatch then parcel.of
  else if (handleInfo s.socket parcel.message).1.partnerId = none then none else s.held

/-- **A channel, its client, and the matches of its sessions**, one event at a time. -/
def step (s : Room) : RoomEvent → Option Room
  | .client (.search sessionId) =>
      some { s.endAll with
        socket := { clearSessionAssigns s.socket with sessionId := sessionId }, held := none }
  | .client .skip => do
      let _ ← s.current
      return { s.endAll with socket := clearMatchAssigns s.socket, held := none }
  | .client .stop => some { s.endAll with socket := clearMatchAssigns s.socket, held := none }
  | .client .disconnect =>
      some { s.endAll with socket := clearSessionAssigns s.socket, held := none }
  | .clientFails => do
      let _ ← s.current
      return s.endAll
  | .matched partnerId generation commonInterests route ownerNode video => do
      let sessionId ← s.socket.sessionId
      guard (s.current = none)
      return { s.post (.routerMatch partnerId commonInterests generation route ownerNode video)
          s.history.length with
        history := s.history ++ [⟨sessionId, partnerId, generation, true, false⟩] }
  | .partnerEnds reason => do
      let m ← s.current
      let r ← s.history[m]?
      return s.endCurrent.post (.routerDisconnect reason r.generation) m
  | .partnerSends m type data => do
      let r ← s.history[m]?
      return s.post (.routerMessage type r.partnerId (some r.generation) data) m
  | .webrtcStart => do
      let m ← s.current
      let r ← s.history[m]?
      return s.post (.routerMessage "webrtc_start" none none r.partnerId) m
  | .notified message => do
      guard message.isNotice
      return s.post message none
  | .handle k => do
      let parcel ← s.mailbox[k]?
      return { s with
        socket := (handleInfo s.socket parcel.message).1
        mailbox := s.mailbox.eraseIdx k
        held := s.heldAfter parcel }

end Room

/-! ### The law -/

/-- **The socket holds no match, or one of its session that is not past for the client.** -/
def Scoped (s : Room) : Prop :=
  ∀ partnerId ∈ s.socket.partnerId, ∃ r ∈ s.history, s.socket.sessionId = some r.sessionId ∧
    partnerId = r.partnerId ∧ s.socket.matchGeneration = some r.generation ∧ r.past = false

instance (s : Room) : Decidable (Scoped s) := by
  unfold Scoped
  infer_instance

/-- **A message that is pushed to the client is of the match that the socket holds.** -/
def OfHeld (s : Room) (parcel : Parcel) : Prop :=
  match (handleInfo s.socket parcel.message).2 with
  | some (.message _ _ _) => s.held.isSome ∧ parcel.of = s.held
  | _ => True

instance (s : Room) (parcel : Parcel) : Decidable (OfHeld s parcel) := by
  unfold OfHeld
  split <;> infer_instance

/-- **A channel is fenced**: the match it comes to hold is not past for its client, and messages of
another match are not pushed. -/
def Fenced (s : Room) (ev : RoomEvent) : Prop :=
  (∀ t ∈ s.step ev, Scoped t) ∧
    match ev with
    | .handle k => ∀ parcel ∈ s.mailbox[k]?, OfHeld s parcel
    | _ => True

instance (s : Room) (ev : RoomEvent) : Decidable (Fenced s ev) := by
  cases ev <;> unfold Fenced <;> infer_instance

/-- No message on its way lacks both sender and match. -/
def NoneUntagged (s : Room) : Prop := ∀ parcel ∈ s.mailbox, parcel.message.isUntagged = false

instance (s : Room) : Decidable (NoneUntagged s) := by
  unfold NoneUntagged
  infer_instance

/-- No match is on its way. -/
def NoneMatched (s : Room) : Prop := ∀ parcel ∈ s.mailbox, parcel.message.isMatch = false

instance (s : Room) : Decidable (NoneMatched s) := by
  unfold NoneMatched
  infer_instance

/-- **Messages arrive in time**: the client puts an end to its match when neither a match message nor
an untagged one is on its way, and is not answered with an error then while the socket holds a
match; an untagged message is sent when the socket holds its match, and taken before the socket
changes; and no generation is used twice with one partner. -/
def InTime (s : Room) : RoomEvent → Prop
  | .client _ => NoneMatched s ∧ NoneUntagged s
  | .clientFails => NoneMatched s ∧ NoneUntagged s ∧ s.socket.partnerId = none
  | .matched partnerId generation _ _ _ _ =>
      ∀ r ∈ s.history, r.partnerId = partnerId → r.generation ≠ generation
  | .webrtcStart => s.held.isSome ∧ s.current = s.held
  | .handle k => ∀ parcel ∈ s.mailbox[k]?,
      (handleInfo s.socket parcel.message).1 = s.socket ∨ NoneUntagged s
  | _ => True

instance (s : Room) (ev : RoomEvent) : Decidable (InTime s ev) := by
  cases ev <;> unfold InTime <;> infer_instance

/-! ### What the messages are about -/

/-- What a message says of the match it is of. -/
def Parcel.Truthful (parcel : Parcel) (s : Room) : Prop :=
  match parcel.message with
  | .routerMatch partnerId _ generation _ _ _ => ∃ m r, parcel.of = some m ∧
      s.history[m]? = some r ∧ s.socket.sessionId = some r.sessionId ∧ partnerId = r.partnerId ∧
      generation = some r.generation ∧ r.past = false
  | .routerMessage _ (some sender) (some generation) _ => ∃ m r, parcel.of = some m ∧
      s.history[m]? = some r ∧ sender = r.partnerId ∧ generation = some r.generation
  | .routerMessage _ none _ _ => s.held.isSome ∧ parcel.of = s.held
  | _ => True

/-- **What the messages on their way, and the socket, are about.** -/
structure Sound (s : Room) : Prop where
  held : ∀ m, s.held = some m → ∃ r, s.history[m]? = some r ∧
    s.socket.sessionId = some r.sessionId ∧ s.socket.partnerId = some r.partnerId ∧
    s.socket.matchGeneration = some r.generation ∧ r.past = false
  alone : s.held = none → s.socket.partnerId = none
  mailbox : ∀ parcel ∈ s.mailbox, parcel.Truthful s
  distinct : ∀ (i j : ℕ) (r r' : StoredMatch), s.history[i]? = some r → s.history[j]? = some r' →
    r.partnerId = r'.partnerId → r.generation = r'.generation → i = j

/-- A list in which no two elements are of one kind may be extended by one of a new kind. -/
theorem index_unique_append {α : Type*} {l : List α} {a : α} {Same : α → α → Prop}
    (hsymm : ∀ x y, Same x y → Same y x)
    (hl : ∀ (i j : ℕ) (x y : α), l[i]? = some x → l[j]? = some y → Same x y → i = j)
    (hfresh : ∀ x ∈ l, ¬ Same x a) {i j : ℕ} {x y : α} (hi : (l ++ [a])[i]? = some x)
    (hj : (l ++ [a])[j]? = some y) (hsame : Same x y) : i = j := by
  rw [List.getElem?_append] at hi hj
  split at hi <;> split at hj
  case isTrue.isTrue => exact hl i j x y hi hj hsame
  case isTrue.isFalse =>
    obtain rfl := List.mem_singleton.1 (List.mem_of_getElem? hj)
    exact absurd hsame (hfresh x (List.mem_of_getElem? hi))
  case isFalse.isTrue =>
    obtain rfl := List.mem_singleton.1 (List.mem_of_getElem? hi)
    exact absurd (hsymm x y hsame) (hfresh y (List.mem_of_getElem? hj))
  case isFalse.isFalse =>
    have hi' := (List.getElem?_eq_some_iff.1 hi).1
    have hj' := (List.getElem?_eq_some_iff.1 hj).1
    simp only [List.length_singleton] at hi' hj'
    omega

namespace Sound

variable {s t : Room}

theorem start (mode : String) : Sound (Room.start mode) where
  held m h := by cases h
  alone _ := rfl
  mailbox parcel h := by cases h
  distinct i j r r' h := by
    simp [Room.start] at h

theorem isScoped (h : Sound s) : Scoped s := by
  intro partnerId hpartner
  cases hheld : s.held with
  | none =>
      have hnone := h.alone hheld
      rw [hnone] at hpartner
      cases hpartner
  | some m =>
      obtain ⟨r, hr, hsession, hpartner', hgeneration, hpast⟩ := h.held m hheld
      refine ⟨r, List.mem_of_getElem? hr, hsession, ?_, hgeneration, hpast⟩
      exact Option.some_inj.1 (hpartner.symm.trans hpartner')

/-- **A message that is pushed is of the match the socket holds.** -/
theorem ofHeld (h : Sound s) {parcel : Parcel} (hmem : parcel ∈ s.mailbox) : OfHeld s parcel := by
  have htrue := h.mailbox parcel hmem
  obtain ⟨message, of⟩ := parcel
  unfold OfHeld
  match message with
  | .routerMatch _ _ _ _ _ _ => simp [handleInfo]
  | .routerMessage type (some sender) (some generation) data =>
      by_cases hcurrent : currentMatchMessage s.socket sender generation = true
      · simp only [handleInfo, if_pos hcurrent]
        obtain ⟨m, r, rfl, hr, rfl, rfl⟩ := htrue
        simp only [currentMatchMessage, Bool.and_eq_true, decide_eq_true_eq] at hcurrent
        obtain ⟨hpartner, hgeneration⟩ := hcurrent
        cases hheld : s.held with
        | none =>
            have hnone := h.alone hheld
            rw [hnone] at hpartner
            cases hpartner
        | some m' =>
            obtain ⟨r', hr', -, hpartner', hgeneration', -⟩ := h.held m' hheld
            have hsame := h.distinct m m' r r' hr hr'
              (Option.some_inj.1 (hpartner.trans hpartner'))
              (Option.some_inj.1 (hgeneration.trans hgeneration'))
            exact ⟨rfl, congrArg some hsame⟩
      · simp only [handleInfo, if_neg hcurrent]
  | .routerMessage _ (some _) none _ => simp [handleInfo]
  | .routerMessage _ none _ _ =>
      simp only [handleInfo]
      exact htrue
  | .routerDisconnect _ none => simp [handleInfo]
  | .routerDisconnect _ (some generation) =>
      by_cases hgeneration : s.socket.matchGeneration = some generation
      · simp only [handleInfo, if_pos hgeneration]
      · simp only [handleInfo, if_neg hgeneration]
  | .routerTimeout => simp [handleInfo]
  | .routerBanned _ => simp [handleInfo]

/-- What a message says stays true as long as the matches keep what it says of them. -/
theorem carry {parcel : Parcel} (h : parcel.Truthful s)
    (hhistory : ∀ (m : ℕ) (r : StoredMatch), s.history[m]? = some r → ∃ r',
      t.history[m]? = some r' ∧ r'.partnerId = r.partnerId ∧ r'.generation = r.generation ∧
        (parcel.message.isMatch = true → r'.sessionId = r.sessionId ∧ r'.past = r.past))
    (hsession : parcel.message.isMatch = true → t.socket.sessionId = s.socket.sessionId)
    (hheld : parcel.message.isUntagged = true → t.held = s.held) : parcel.Truthful t := by
  obtain ⟨message, of⟩ := parcel
  match message with
  | .routerMatch _ _ _ _ _ _ =>
      obtain ⟨m, r, hof, hr, hs, hpartner, hgeneration, hpast⟩ := h
      obtain ⟨r', hr', hpartner', hgeneration', hrest⟩ := hhistory m r hr
      obtain ⟨hsession', hpast'⟩ := hrest rfl
      exact ⟨m, r', hof, hr', (hsession rfl).trans (hs.trans (congrArg some hsession'.symm)),
        hpartner.trans hpartner'.symm, hgeneration.trans (congrArg some hgeneration'.symm),
        hpast'.trans hpast⟩
  | .routerMessage _ (some _) (some _) _ =>
      obtain ⟨m, r, hof, hr, hpartner, hgeneration⟩ := h
      obtain ⟨r', hr', hpartner', hgeneration', -⟩ := hhistory m r hr
      exact ⟨m, r', hof, hr', hpartner.trans hpartner'.symm,
        hgeneration.trans (congrArg some hgeneration'.symm)⟩
  | .routerMessage _ (some _) none _ => trivial
  | .routerMessage _ none _ _ =>
      obtain ⟨hsome, hof⟩ := h
      exact ⟨by rw [hheld rfl]; exact hsome, hof.trans (hheld rfl).symm⟩
  | .routerDisconnect _ _ => trivial
  | .routerTimeout => trivial
  | .routerBanned _ => trivial

theorem mem_post {message : Incoming} {of : Option ℕ} {parcel : Parcel}
    (hmem : parcel ∈ (s.post message of).mailbox) : parcel ∈ s.mailbox ∨ parcel = ⟨message, of⟩ := by
  rcases List.mem_append.1 hmem with hmem | hmem
  · exact .inl hmem
  · exact .inr (List.mem_singleton.1 hmem)

/-- A message is sent that says what is true. -/
theorem post (h : Sound s) {message : Incoming} {of : Option ℕ}
    (htrue : Parcel.Truthful ⟨message, of⟩ s) : Sound (s.post message of) where
  held := h.held
  alone := h.alone
  mailbox parcel hmem := by
    rcases mem_post hmem with hmem | rfl
    · exact h.mailbox parcel hmem
    · exact htrue
  distinct := h.distinct

/-- **The client puts an end to its match.** -/
theorem endAll (h : Sound s) (hmatched : NoneMatched s) (huntagged : NoneUntagged s)
    {socket : Socket} (hsocket : socket.partnerId = none) :
    Sound { s.endAll with socket := socket, held := none } where
  held m hm := by cases hm
  alone _ := hsocket
  mailbox parcel hmem := by
    refine carry (h.mailbox parcel hmem) ?_ ?_ ?_
    · intro m r hr
      have hget : (s.history.map fun r => { r with current := false, past := true })[m]? =
          some { r with current := false, past := true } := by
        rw [List.getElem?_map, hr]
        rfl
      refine ⟨_, hget, rfl, rfl, fun hmatch => ?_⟩
      rw [hmatched parcel hmem] at hmatch
      cases hmatch
    · intro hmatch
      rw [hmatched parcel hmem] at hmatch
      cases hmatch
    · intro htag
      rw [huntagged parcel hmem] at htag
      cases htag
  distinct i j r r' hi hj hpartner hgeneration := by
    have hi' : (s.history.map fun r => { r with current := false, past := true })[i]? = some r := hi
    have hj' : (s.history.map fun r => { r with current := false, past := true })[j]? = some r' := hj
    rw [List.getElem?_map] at hi' hj'
    obtain ⟨q, hq, rfl⟩ := Option.map_eq_some_iff.1 hi'
    obtain ⟨q', hq', rfl⟩ := Option.map_eq_some_iff.1 hj'
    exact h.distinct i j q q' hq hq' hpartner hgeneration

/-- **The match in the store is ended by the partner.** -/
theorem endCurrent (h : Sound s) : Sound s.endCurrent := by
  have hget : ∀ (m : ℕ) (r : StoredMatch), s.history[m]? = some r →
      s.endCurrent.history[m]? = some { r with current := false } := by
    intro m r hr
    unfold Room.endCurrent
    simp only [List.getElem?_map, hr, Option.map_some]
  constructor
  case held =>
    intro m hm
    obtain ⟨r, hr, hrest⟩ := h.held m hm
    exact ⟨_, hget m r hr, hrest⟩
  case alone => exact h.alone
  case mailbox =>
    intro parcel hmem
    exact carry (h.mailbox parcel hmem)
      (fun m r hr => ⟨_, hget m r hr, rfl, rfl, fun _ => ⟨rfl, rfl⟩⟩) (fun _ => rfl) fun _ => rfl
  case distinct =>
    intro i j r r' hi hj hpartner hgeneration
    have hi' : (s.history.map fun r => { r with current := false })[i]? = some r := hi
    have hj' : (s.history.map fun r => { r with current := false })[j]? = some r' := hj
    rw [List.getElem?_map] at hi' hj'
    obtain ⟨q, hq, rfl⟩ := Option.map_eq_some_iff.1 hi'
    obtain ⟨q', hq', rfl⟩ := Option.map_eq_some_iff.1 hj'
    exact h.distinct i j q q' hq hq' hpartner hgeneration

/-- **A session is matched.** -/
theorem addMatch (h : Sound s) {r : StoredMatch}
    (hfresh : ∀ r' ∈ s.history, r'.partnerId = r.partnerId → r'.generation ≠ r.generation) :
    Sound { s with history := s.history ++ [r] } := by
  have hget : ∀ (m : ℕ) (r' : StoredMatch), s.history[m]? = some r' →
      (s.history ++ [r])[m]? = some r' := by
    intro m r' hr'
    rwa [List.getElem?_append_left (List.getElem?_eq_some_iff.1 hr').1]
  constructor
  case held =>
    intro m hm
    obtain ⟨r', hr', hrest⟩ := h.held m hm
    exact ⟨r', hget m r' hr', hrest⟩
  case alone => exact h.alone
  case mailbox =>
    intro parcel hmem
    exact carry (h.mailbox parcel hmem)
      (fun m r' hr' => ⟨r', hget m r' hr', rfl, rfl, fun _ => ⟨rfl, rfl⟩⟩) (fun _ => rfl)
      fun _ => rfl
  case distinct =>
    intro i j q q' hi hj hpartner hgeneration
    refine @index_unique_append StoredMatch s.history r
      (fun x y => x.partnerId = y.partnerId ∧ x.generation = y.generation) ?_ ?_ ?_ i j q q' hi hj
      ⟨hpartner, hgeneration⟩
    · exact fun _ _ hsame => ⟨hsame.1.symm, hsame.2.symm⟩
    · exact fun i j x y hi hj hsame => h.distinct i j x y hi hj hsame.1 hsame.2
    · exact fun x hx hsame => hfresh x hx hsame.1 hsame.2

/-- A message either leaves the socket as it is, or clears it, or takes a match up. -/
theorem handleInfo_cases (socket : Socket) {message : Incoming} (h : message.isMatch = false) :
    (handleInfo socket message).1 = socket ∨
      (handleInfo socket message).1 = clearMatchAssigns socket := by
  match message with
  | .routerMatch _ _ _ _ _ _ => cases h
  | .routerMessage _ (some sender) (some generation) _ =>
      left
      simp only [handleInfo]
      split <;> rfl
  | .routerMessage _ (some _) none _ => exact .inl rfl
  | .routerMessage _ none _ _ => exact .inl rfl
  | .routerDisconnect _ none => exact .inr rfl
  | .routerDisconnect _ (some generation) =>
      simp only [handleInfo]
      split
      · exact .inr rfl
      · exact .inl rfl
  | .routerTimeout => exact .inr rfl
  | .routerBanned _ => exact .inr rfl

/-- A socket without a partner holds no match. -/
theorem held_eq_none (h : Sound s) (hpartner : s.socket.partnerId = none) : s.held = none := by
  cases hheld : s.held with
  | none => rfl
  | some m =>
      obtain ⟨r, -, -, hpartner', -⟩ := h.held m hheld
      rw [hpartner] at hpartner'
      cases hpartner'

/-- **A match is taken up.** -/
theorem takeUp (h : Sound s) {mailbox : List Parcel} (hsub : ∀ parcel ∈ mailbox, parcel ∈ s.mailbox)
    {m : ℕ} {r : StoredMatch} {socket : Socket} (hr : s.history[m]? = some r)
    (hpast : r.past = false) (hold : s.socket.sessionId = some r.sessionId)
    (hsession : socket.sessionId = s.socket.sessionId)
    (hpartner : socket.partnerId = some r.partnerId)
    (hgeneration : socket.matchGeneration = some r.generation)
    (hok : socket = s.socket ∨ NoneUntagged s) :
    Sound { s with socket := socket, mailbox := mailbox, held := some m } where
  held m' hm' := by
    cases hm'
    exact ⟨r, hr, hsession.trans hold, hpartner, hgeneration, hpast⟩
  alone hnone := by cases hnone
  mailbox parcel hmem := by
    refine carry (h.mailbox parcel (hsub parcel hmem))
      (fun m r hr => ⟨r, hr, rfl, rfl, fun _ => ⟨rfl, rfl⟩⟩) (fun _ => hsession) fun htag => ?_
    rcases hok with rfl | hnone
    · -- the socket holds this match already
      cases hheld : s.held with
      | none =>
          have halone := h.alone hheld
          rw [hpartner] at halone
          cases halone
      | some m' =>
          obtain ⟨r', hr', -, hpartner', hgeneration', -⟩ := h.held m' hheld
          exact congrArg some (h.distinct m m' r r' hr hr'
            (Option.some_inj.1 (hpartner.symm.trans hpartner'))
            (Option.some_inj.1 (hgeneration.symm.trans hgeneration')))
    · rw [hnone parcel (hsub parcel hmem)] at htag
      cases htag
  distinct := h.distinct

/-- **The channel takes a message.** -/
theorem handle (h : Sound s) {k : ℕ} {parcel : Parcel} (hk : s.mailbox[k]? = some parcel)
    (hok : (handleInfo s.socket parcel.message).1 = s.socket ∨ NoneUntagged s) :
    Sound { s with
      socket := (handleInfo s.socket parcel.message).1
      mailbox := s.mailbox.eraseIdx k
      held := s.heldAfter parcel } := by
  have hsub : ∀ other ∈ s.mailbox.eraseIdx k, other ∈ s.mailbox :=
    fun other hmem => List.mem_of_mem_eraseIdx hmem
  cases hmatch : parcel.message.isMatch with
  | true =>
      have htrue := h.mailbox parcel (List.mem_of_getElem? hk)
      have hheld : s.heldAfter parcel = parcel.of := by rw [Room.heldAfter, if_pos hmatch]
      obtain ⟨message, of⟩ := parcel
      match message with
      | .routerMatch partnerId _ generation _ _ _ =>
          obtain ⟨m, r, rfl, hr, hsession, rfl, rfl, hpast⟩ := htrue
          rw [hheld]
          exact h.takeUp hsub hr hpast hsession rfl rfl rfl hok
  | false =>
      have hheld : s.heldAfter parcel =
          if (handleInfo s.socket parcel.message).1.partnerId = none then none else s.held := by
        rw [Room.heldAfter, if_neg (by simp [hmatch])]
      rw [hheld]
      rcases handleInfo_cases s.socket hmatch with hsame | hclear
      · have hkept : (if s.socket.partnerId = none then none else s.held) = s.held := by
          split
          case isTrue hpartner => exact (h.held_eq_none hpartner).symm
          case isFalse => rfl
        rw [hsame, hkept]
        exact ⟨h.held, h.alone, fun other hmem => h.mailbox other (hsub other hmem), h.distinct⟩
      · rw [hclear] at hok ⊢
        rw [if_pos (show (clearMatchAssigns s.socket).partnerId = none from rfl)]
        constructor
        case held =>
          intro m hm
          cases hm
        case alone => exact fun _ => rfl
        case mailbox =>
          intro other hmem
          refine carry (h.mailbox other (hsub other hmem))
            (fun m r hr => ⟨r, hr, rfl, rfl, fun _ => ⟨rfl, rfl⟩⟩) (fun _ => rfl) fun htag => ?_
          rcases hok with hsame | hnone
          · exact (h.held_eq_none (by rw [← hsame]; rfl)).symm
          · rw [hnone other (hsub other hmem)] at htag
            cases htag
        case distinct => exact h.distinct

/-- **One event in time keeps messages and socket true.** -/
theorem step (h : Sound s) {ev : RoomEvent} (hok : InTime s ev) (hs : s.step ev = some t) :
    Sound t := by
  cases ev with
  | client ev =>
      cases ev with
      | search sessionId =>
          cases hs
          exact h.endAll hok.1 hok.2 rfl
      | skip =>
          simp only [Room.step, Option.bind_eq_bind, Option.bind_eq_some_iff] at hs
          obtain ⟨-, -, hs⟩ := hs
          cases hs
          exact h.endAll hok.1 hok.2 rfl
      | stop =>
          cases hs
          exact h.endAll hok.1 hok.2 rfl
      | disconnect =>
          cases hs
          exact h.endAll hok.1 hok.2 rfl
  | clientFails =>
      simp only [Room.step, Option.bind_eq_bind, Option.bind_eq_some_iff] at hs
      obtain ⟨-, -, hs⟩ := hs
      cases hs
      have hheld := h.held_eq_none hok.2.2
      have hended := h.endAll hok.1 hok.2.1 hok.2.2
      rw [← hheld] at hended
      exact hended
  | matched partnerId generation commonInterests route ownerNode video =>
      simp only [Room.step, Option.bind_eq_bind, Option.bind_eq_some_iff] at hs
      obtain ⟨sessionId, hsession, -, -, hs⟩ := hs
      cases hs
      have hadded := h.addMatch (r := ⟨sessionId, partnerId, generation, true, false⟩) hok
      have hget : (s.history ++ [⟨sessionId, partnerId, generation, true, false⟩])[s.history.length]? =
          some ⟨sessionId, partnerId, generation, true, false⟩ := List.getElem?_concat_length
      exact hadded.post ⟨s.history.length, _, rfl, hget, hsession, rfl, rfl, rfl⟩
  | partnerEnds reason =>
      simp only [Room.step, Option.bind_eq_bind, Option.bind_eq_some_iff] at hs
      obtain ⟨m, -, r, -, hs⟩ := hs
      cases hs
      exact h.endCurrent.post trivial
  | partnerSends m type data =>
      simp only [Room.step, Option.bind_eq_bind, Option.bind_eq_some_iff] at hs
      obtain ⟨r, hr, hs⟩ := hs
      cases hs
      exact h.post ⟨m, r, rfl, hr, rfl, rfl⟩
  | webrtcStart =>
      simp only [Room.step, Option.bind_eq_bind, Option.bind_eq_some_iff] at hs
      obtain ⟨m, hm, r, -, hs⟩ := hs
      cases hs
      exact h.post ⟨hok.1, hm.symm.trans hok.2⟩
  | notified message =>
      simp only [Room.step, Option.bind_eq_bind, Option.bind_eq_some_iff] at hs
      obtain ⟨_, hnotice, hs⟩ := hs
      cases hs
      have hnotice' : message.isNotice = true := by
        by_contra hne
        simp [guard, hne] at hnotice
      refine h.post ?_
      match message with
      | .routerMatch _ _ _ _ _ _ => cases hnotice'
      | .routerMessage _ _ _ _ => cases hnotice'
      | .routerDisconnect _ _ => trivial
      | .routerTimeout => trivial
      | .routerBanned _ => trivial
  | handle k =>
      simp only [Room.step, Option.bind_eq_bind, Option.bind_eq_some_iff] at hs
      obtain ⟨parcel, hk, hs⟩ := hs
      cases hs
      exact h.handle hk (hok parcel hk)

/-- What is in time is fenced. -/
theorem fenced (h : Sound s) {ev : RoomEvent} (hok : InTime s ev) : Fenced s ev := by
  refine ⟨fun t ht => (h.step hok ht).isScoped, ?_⟩
  cases ev with
  | handle k => exact fun parcel hparcel => h.ofHeld (List.mem_of_getElem? hparcel)
  | _ => trivial

end Sound

/-- **A channel whose messages arrive in time is fenced**: whatever the order of arrival and whatever
its client does. -/
theorem fenced_of_inTime {mode : String} {l : List RoomEvent} {s : Room}
    (h : Run Room.step InTime (Room.start mode) l s) : Run Room.step Fenced (Room.start mode) l s :=
  h.exchange (I := Sound) (fun _ _ _ hs hok hstep => ⟨hs.fenced hok, hs.step hok hstep⟩)
    (Sound.start mode)

/-- A chat that is ended by the partner, and another that is skipped. -/
def twoChats : List RoomEvent :=
  [.client (.search "a"), .matched "b" "1" [] none none none, .handle 0, .webrtcStart,
    .partnerSends 0 "message" "hello", .handle 1, .handle 0, .partnerEnds "partner skipped",
    .handle 0, .matched "c" "2" [] none none none, .partnerSends 0 "message" "still there?",
    .handle 0, .handle 0, .client .skip]

theorem twoChats_fenced : ∃ s, Run Room.step InTime (Room.start "video") twoChats s ∧
    Run Room.step Fenced (Room.start "video") twoChats s := by
  have hrun : (execWhere Room.step InTime (Room.start "video") twoChats).any
      (fun _ => true) = true := by
    decide +kernel
  obtain ⟨s, hs, -⟩ := exists_run_of_execWhere hrun
  exact ⟨s, hs, fenced_of_inTime hs⟩

/-- The client skips while the match message is on its way. -/
def skippedEarly : List RoomEvent :=
  [.client (.search "a"), .matched "b" "1" [] none none none, .client .skip, .handle 0]

/-- **A match that the client has skipped is taken up again.** -/
theorem skippedMatch_comesBack : ¬ ∀ (mode : String) (l : List RoomEvent) (s : Room),
    Run Room.step Always (Room.start mode) l s → Run Room.step Fenced (Room.start mode) l s := by
  intro h
  have hrun : (execWhere Room.step Always (Room.start "text") skippedEarly).any
      (fun _ => true) = true := by
    decide +kernel
  obtain ⟨s, hs, -⟩ := exists_run_of_execWhere hrun
  have hnone : (execWhere Room.step Fenced (Room.start "text") skippedEarly).isSome = false := by
    decide +kernel
  rw [execWhere_of_run (h _ _ s hs)] at hnone
  cases hnone

/-- A message without a sender is pushed after its match as well. -/
example : (execWhere Room.step Fenced (Room.start "video")
    [.client (.search "a"), .matched "b" "1" [] none none none, .handle 0, .webrtcStart,
      .partnerEnds "partner skipped", .handle 1, .handle 0]).isSome = false := by
  decide +kernel

end Sockets
