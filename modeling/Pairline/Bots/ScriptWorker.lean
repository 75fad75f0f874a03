/-
**The pace of a script bot.**

The worker of a script bot queues a reply to each user message, chosen from its script, and delivers
one at a time: a timer runs while the bot is said to type, then the message is sent and the timer
for the next one is set.  Openings, replies and the timers themselves all put messages into the
queue or take them out.

The other timers of the worker are events that may come at any time, also when they were set long
ago.  A worker that stops or crashes makes no further step.

Main definitions:

* `Bots.ScriptWorker.Script` — the replies of a bot and the patterns that call for them;
* `Bots.ScriptWorker.State`, `Bots.ScriptWorker.step` — the worker and its handlers;
* `Bots.ScriptWorker.line` — the line of the messages before the worker;
* `Bots.ScriptWorker.PacingLaw` — the messages are within the maximum, one send timer is pending
  exactly while a message is in flight, and the order of delivery is the order of the queue.

Main results:

* `Bots.ScriptWorker.inv_step` — what every event keeps;
* `Bots.ScriptWorker.pacingLaw_of_run` — **the law holds in every reachable state**.
-/

import Pairline.Bots.Worker
import Pairline.Transition
import Pairline.WaitingLine
import Pairline.Whitespace

set_option relaxedAutoImplicit false
set_option autoImplicit false

namespace Bots.ScriptWorker

open Transition

/-! ### The script -/

/-- A field of the decoded script, as far as a reply looks at it. -/
inductive Field
  | null
  | no
  | text (s : String)
  | other
  deriving DecidableEq

/-- A list of the script: `none` for what is no list, and an element that is no string is `none`. -/
abbrev MessageList := Option (List (Option String))

/-- A trigger of two strings, the pattern and the reply; any other is `none`. -/
abbrev Trigger := Option (String × String)

/-- What the worker reads of a script; an absent field is `null` or `none`. -/
structure Script where
  openingMessages : MessageList
  replyMessages : MessageList
  closingMessage : Field
  fallbackMessage : Field
  triggers : Option (List Trigger)
  deriving DecidableEq

/-- What the worker reads of its definition; a script that is no map is `none`. -/
structure Definition where
  messageLimit : Option Json
  script : Option Script
  deriving DecidableEq

def maxMessages (definition : Definition) : ℕ := messageLimit definition.messageLimit 4

/-- The text of a list's element, if there is one. -/
def Field.ofText : Option String → Field
  | some s => .text s
  | none => .null

/-- The `||` of two fields. -/
def Field.orElse : Field → Field → Field
  | .null, field => field
  | .no, field => field
  | field, _ => field

def firstOrNil : MessageList → Field
  | some (some value :: _) => .text value
  | _ => .null

def nextFromList (messages : MessageList) (index : ℕ) : Field :=
  match messages with
  | none => .null
  | some items =>
      let filtered := items.filterMap id
      Field.ofText filtered[index % filtered.length]?

section Replies

variable (regexMatch : String → String → Bool)

/-- The reply of the first trigger whose pattern compiles and matches the text. -/
def matchTrigger (script : Script) (text : String) : Option String :=
  match script.triggers with
  | none => none
  | some triggers =>
      triggers.findSome? fun
        | some (regex, reply) => if regexMatch regex text then some reply else none
        | none => none

/-- The next reply; `none` when the script is no map. -/
def nextReply (definition : Definition) (botMessagesSent : ℕ) (userContent : String) :
    Option Field :=
  definition.script.map fun script =>
    if botMessagesSent + 1 ≥ maxMessages definition then
      script.closingMessage.orElse script.fallbackMessage
    else if Whitespace.trim userContent = "" then script.fallbackMessage
    else
      match matchTrigger regexMatch script userContent with
      | none => nextFromList script.replyMessages botMessagesSent
      | some reply => .text reply

end Replies

def openingMessage (definition : Definition) : Option Field :=
  definition.script.map fun script => firstOrNil script.openingMessages

/-! ### The worker -/

/-- The state of a worker, with what it has sent, the send timers that are pending and the messages
it has queued so far. -/
structure State where
  humanSessionID : String
  botSessionID : String
  definition : Definition
  matchGeneration : Option String
  botMessagesSent : ℕ
  maxMessages : ℕ
  deliveryInFlight : Bool
  deliveryTimer : Option ℕ
  queuedReplies : List String
  outbox : List Outgoing
  timers : List (ℕ × String)
  nextTimer : ℕ
  enqueued : List String

/-- The state after `init`. -/
def init (humanSessionID botSessionID : String) (definition : Definition) : State where
  humanSessionID := humanSessionID
  botSessionID := botSessionID
  definition := definition
  matchGeneration := none
  botMessagesSent := 0
  maxMessages := ScriptWorker.maxMessages definition
  deliveryInFlight := false
  deliveryTimer := none
  queuedReplies := []
  outbox := []
  timers := []
  nextTimer := 0
  enqueued := []

/-- `Router.send_message` to the partner. -/
def sendMessage (state : State) (message : String → Option String → Outgoing) : State :=
  { state with outbox := state.outbox ++ [message state.humanSessionID state.matchGeneration] }

def replySlotsReserved (state : State) : ℕ :=
  state.botMessagesSent + state.queuedReplies.length + if state.deliveryInFlight then 1 else 0

/-- The head of the queue is put in flight, unless a message is. -/
def maybeStartNextDelivery (state : State) : State :=
  if state.deliveryInFlight then state
  else
    match state.queuedReplies with
    | [] => state
    | content :: rest =>
        let state := sendMessage state fun recipient generation => .typing recipient generation true
        { state with
          queuedReplies := rest
          deliveryInFlight := true
          deliveryTimer := some state.nextTimer
          timers := state.timers ++ [(state.nextTimer, content)]
          nextTimer := state.nextTimer + 1 }

/-- A reply is queued; one that is neither text nor absent crashes the worker. -/
def enqueueReply (state : State) : Field → Option State
  | .null => some state
  | .text content =>
      let trimmed := Whitespace.trim content
      if trimmed = "" then some state
      else if replySlotsReserved state ≥ state.maxMessages then some state
      else
        some (maybeStartNextDelivery
          { state with
            queuedReplies := state.queuedReplies ++ [trimmed]
            enqueued := state.enqueued ++ [trimmed] })
  | .no => none
  | .other => none

def enqueueUserReply (regexMatch : String → String → Bool) (state : State) (content : String) :
    Option State :=
  let trimmed := Whitespace.trim content
  if trimmed = "" then some state
  else if replySlotsReserved state ≥ state.maxMessages then some state
  else
    (nextReply regexMatch state.definition (replySlotsReserved state) trimmed).bind
      (enqueueReply state)

/-- The send timer has run out: the message is sent, and the next one is put in flight. -/
def handleDeliverMessage (state : State) (content : String) : State :=
  let state := sendMessage state fun recipient generation => .typing recipient generation false
  let state := sendMessage state fun recipient generation => .message recipient generation content
  maybeStartNextDelivery
    { state with
      deliveryInFlight := false
      deliveryTimer := none
      botMessagesSent := state.botMessagesSent + 1 }

/-- What the worker may receive. -/
inductive Event
  /-- A match; the flag tells whether the partner is found to be a bot. -/
  | routerMatch (partner : String) (generation : Option String) (partnerIsBot : Bool)
  | sendOpeningMessage
  | routerMessage (sender : String) (generation : Option String) (data : MessageData)
  /-- The send timer of the given number. -/
  | deliverMessage (timer : ℕ)
  | idleTimeoutReached
  | sessionTTLReached
  | disconnectBot
  | routerDisconnect
  | routerTimeout
  | other

/-- **An event at the worker**: `none` when the worker ends, or when no such timer is pending. -/
def step (regexMatch : String → String → Bool) (state : State) : Event → Option State
  | .routerMatch partner generation partnerIsBot =>
      if partnerIsBot then none
      else some { state with humanSessionID := partner, matchGeneration := generation }
  | .sendOpeningMessage => (openingMessage state.definition).bind (enqueueReply state)
  | .routerMessage sender generation data =>
      if sender ≠ state.humanSessionID ∨ generation ≠ state.matchGeneration then some state
      else enqueueUserReply regexMatch state data.content
  | .deliverMessage timer =>
      (state.timers.find? fun pending => pending.1 = timer).map fun pending =>
        handleDeliverMessage { state with timers := state.timers.erase pending } pending.2
  | .idleTimeoutReached => none
  | .sessionTTLReached => none
  | .disconnectBot => none
  | .routerDisconnect => none
  | .routerTimeout => none
  | .other => some state

/-! ### The law -/

/-- **The line of the messages before the worker**: those it has sent, the one that the send timer
is pending for, and the queue. -/
def line (state : State) : WaitingLine String where
  served := delivered state.outbox
  current := (state.timers.map Prod.snd).head?
  waiting := state.queuedReplies

/-- **What was sent, what is queued and what is in flight is within the maximum, one send timer is
pending exactly while a message is in flight, and the messages are delivered as they were queued.** -/
structure PacingLaw (definition : Definition) (state : State) : Prop where
  bounded : (delivered state.outbox).length + state.queuedReplies.length +
    (if state.deliveryInFlight then 1 else 0) ≤ maxMessages definition
  oneTimer : state.deliveryInFlight = true ↔ ∃ content, state.timers = [content]
  noTimer : state.deliveryInFlight = false ↔ state.timers = []
  inOrder : delivered state.outbox ++ state.timers.map Prod.snd ++ state.queuedReplies =
    state.enqueued

/-- **What every event keeps.** -/
structure Inv (definition : Definition) (state : State) : Prop where
  limit : state.maxMessages = ScriptWorker.maxMessages definition
  counted : (delivered state.outbox).length = state.botMessagesSent
  reserved : replySlotsReserved state ≤ state.maxMessages
  timer : state.timers.map Prod.fst = state.deliveryTimer.toList
  flight : state.deliveryInFlight = state.deliveryTimer.isSome
  inOrder : (line state).order = state.enqueued

section Law

variable {regexMatch : String → String → Bool} {definition : Definition} {state state' : State}

/-- No timer is pending while nothing is in flight. -/
theorem Inv.timers_of_idle (h : Inv definition state) (hidle : state.deliveryInFlight = false) :
    state.timers = [] := by
  have hnone : state.deliveryTimer = none := by
    rw [h.flight] at hidle
    exact Option.isSome_eq_false_iff.1 hidle |> Option.isNone_iff_eq_none.1
  have hfst := h.timer
  rw [hnone] at hfst
  exact List.map_eq_nil_iff.1 hfst

/-- One timer is pending while something is. -/
theorem Inv.timers_of_flight (h : Inv definition state) (hflight : state.deliveryInFlight = true) :
    ∃ timer content, state.timers = [(timer, content)] := by
  rw [h.flight] at hflight
  obtain ⟨timer, htimer⟩ := Option.isSome_iff_exists.1 hflight
  have hfst := h.timer
  rw [htimer] at hfst
  obtain ⟨pending, hpending, rfl⟩ := List.map_eq_singleton_iff.1 hfst
  exact ⟨pending.1, pending.2, hpending⟩

theorem Inv.pacingLaw (h : Inv definition state) : PacingLaw definition state := by
  have hbounded := h.reserved
  rw [replySlotsReserved, ← h.counted, h.limit] at hbounded
  have horder := h.inOrder
  cases hflight : state.deliveryInFlight with
  | false =>
      have hnil := h.timers_of_idle hflight
      refine ⟨hbounded, ?_, ?_, ?_⟩
      · simp [hflight, hnil]
      · simp [hflight, hnil]
      · simpa [WaitingLine.order, line, hnil] using horder
  | true =>
      obtain ⟨timer, content, hone⟩ := h.timers_of_flight hflight
      refine ⟨hbounded, ?_, ?_, ?_⟩
      · simp [hflight, hone]
      · simp [hflight, hone]
      · simpa [WaitingLine.order, line, hone] using horder

/-! ### The handlers keep it -/

/-- An idle worker calls the head of the line. -/
theorem line_maybeStartNextDelivery (hidle : state.deliveryInFlight = false)
    (hnil : state.timers = []) : line (maybeStartNextDelivery state) = (line state).call := by
  unfold maybeStartNextDelivery
  rw [hidle]
  cases hqueue : state.queuedReplies with
  | nil => simp [line, WaitingLine.call, hqueue]
  | cons content rest => simp [line, WaitingLine.call, hqueue, hnil, sendMessage]

theorem inv_maybeStartNextDelivery (h : Inv definition state) : Inv definition (maybeStartNextDelivery state) := by
  cases hflight : state.deliveryInFlight with
  | true =>
      rw [maybeStartNextDelivery, hflight]
      exact h
  | false =>
      have hnil := h.timers_of_idle hflight
      have horder : (line (maybeStartNextDelivery state)).order = (line state).order := by
        rw [line_maybeStartNextDelivery hflight hnil, WaitingLine.order_call]
        simp [line, hnil]
      have hreserved := h.reserved
      unfold maybeStartNextDelivery at horder ⊢
      rw [hflight] at horder ⊢
      cases hqueue : state.queuedReplies with
      | nil => exact h
      | cons content rest =>
          rw [hqueue] at horder
          refine ⟨h.limit, ?_, ?_, ?_, rfl, horder.trans h.inOrder⟩
          · simp [sendMessage, h.counted]
          · -- the message moves from the queue into flight
            simp only [replySlotsReserved, hqueue, hflight, List.length_cons, Bool.false_eq_true,
              if_false, if_true, sendMessage] at hreserved ⊢
            omega
          · simp [sendMessage, hnil]

/-- A reply is queued where there is room for it. -/
theorem inv_enqueue (h : Inv definition state) (hroom : replySlotsReserved state < state.maxMessages)
    (content : String) :
    Inv definition
      { state with
        queuedReplies := state.queuedReplies ++ [content]
        enqueued := state.enqueued ++ [content] } where
  limit := h.limit
  counted := h.counted
  reserved := by
    simp only [replySlotsReserved, List.length_append, List.length_singleton] at hroom ⊢
    omega
  timer := h.timer
  flight := h.flight
  inOrder := by
    have hjoin := WaitingLine.order_join (l := line state) (x := content)
    rw [h.inOrder] at hjoin
    exact hjoin

theorem inv_enqueueReply (h : Inv definition state) {field : Field}
    (hstep : enqueueReply state field = some state') : Inv definition state' := by
  cases field with
  | null =>
      cases hstep
      exact h
  | text content =>
      simp only [enqueueReply] at hstep
      split at hstep
      · cases hstep
        exact h
      · split at hstep
        · cases hstep
          exact h
        · next hfull =>
            cases hstep
            exact inv_maybeStartNextDelivery (inv_enqueue h (Nat.lt_of_not_le hfull) _)
  | no => cases hstep
  | other => cases hstep

theorem inv_enqueueUserReply (h : Inv definition state) {content : String}
    (hstep : enqueueUserReply regexMatch state content = some state') : Inv definition state' := by
  simp only [enqueueUserReply] at hstep
  split at hstep
  · cases hstep
    exact h
  · split at hstep
    · cases hstep
      exact h
    · obtain ⟨field, -, hfield⟩ := Option.bind_eq_some_iff.1 hstep
      exact inv_enqueueReply h hfield

/-- The message in flight is delivered, and no timer is pending any more. -/
theorem inv_handleDeliverMessage (h : Inv definition state) {timer : ℕ} {content : String}
    (hone : state.timers = [(timer, content)]) :
    Inv definition (handleDeliverMessage { state with timers := [] } content) := by
  have hflight : state.deliveryInFlight = true := by
    by_contra hne
    rw [h.timers_of_idle (Bool.eq_false_iff.2 hne)] at hone
    cases hone
  have hreserved := h.reserved
  have horder := h.inOrder
  apply inv_maybeStartNextDelivery
  refine ⟨h.limit, ?_, ?_, rfl, rfl, ?_⟩
  · simp only [sendMessage, delivered_message, delivered_typing, List.length_append,
      List.length_singleton, h.counted]
  · -- what was in flight has been sent
    simp only [replySlotsReserved, hflight, if_true, sendMessage, Bool.false_eq_true,
      if_false] at hreserved ⊢
    omega
  · rw [← WaitingLine.order_leave] at horder
    simp only [line, sendMessage, delivered_message, delivered_typing, List.map_nil, List.head?_nil]
    simpa only [line, WaitingLine.leave, hone, List.map_cons, List.head?_cons, Option.toList_some]
      using horder

/-- **Every event keeps the invariant.** -/
theorem inv_step {e : Event} (h : Inv definition state) (hstep : step regexMatch state e = some state') :
    Inv definition state' := by
  cases e with
  | routerMatch partner generation partnerIsBot =>
      cases partnerIsBot with
      | true => cases hstep
      | false =>
          cases hstep
          exact ⟨h.limit, h.counted, h.reserved, h.timer, h.flight, h.inOrder⟩
  | sendOpeningMessage =>
      obtain ⟨field, -, hfield⟩ := Option.bind_eq_some_iff.1 hstep
      exact inv_enqueueReply h hfield
  | routerMessage sender generation data =>
      simp only [step] at hstep
      split at hstep
      · cases hstep
        exact h
      · exact inv_enqueueUserReply h hstep
  | deliverMessage timer =>
      obtain ⟨pending, hpending, hdeliver⟩ := Option.map_eq_some_iff.1 hstep
      have hmem : pending ∈ state.timers := List.mem_of_find?_eq_some hpending
      cases hflight : state.deliveryInFlight with
      | false =>
          rw [h.timers_of_idle hflight] at hmem
          cases hmem
      | true =>
          -- the timer that ran out is the only one
          obtain ⟨number, content, hone⟩ := h.timers_of_flight hflight
          rw [hone] at hmem
          obtain rfl := List.mem_singleton.1 hmem
          rw [← hdeliver, hone, List.erase_cons_head]
          exact inv_handleDeliverMessage h hone
  | other =>
      cases hstep
      exact h
  | _ => cases hstep

theorem inv_init (humanSessionID botSessionID : String) (definition : Definition) :
    Inv definition (init humanSessionID botSessionID definition) :=
  ⟨rfl, rfl, Nat.zero_le _, rfl, rfl, rfl⟩

/-- **In every reachable state of a worker what was sent, what is queued and what is in flight is
within the maximum, one send timer is pending exactly while a message is in flight, and the messages
are delivered as they were queued.** -/
theorem pacingLaw_of_run {humanSessionID botSessionID : String} {l : List Event}
    (h : Run (step regexMatch) Always (init humanSessionID botSessionID definition) l state) :
    PacingLaw definition state :=
  (h.invariant (I := Inv definition) (fun _ _ _ hs _ => inv_step hs) (inv_init _ _ _)).pacingLaw

/-- A bot that greets, answers to one word and has one reply to all others. -/
def greeter : Definition :=
  ⟨none, some ⟨some [some "hi"], some [some "so"], .text "bye", .null, some [some ("ping", "pong")]⟩⟩

/-- An opening message, and two replies of which the second waits. -/
def talk : List Event :=
  [.routerMatch "human" (some "g") false, .sendOpeningMessage, .deliverMessage 0,
    .routerMessage "human" (some "g") ⟨some "ping", none⟩,
    .routerMessage "human" (some "g") ⟨some "well", none⟩]

theorem pacingLaw_of_run_talk :
    ∃ state, Run (step fun regex text => regex == text) Always (init "human" "bot" greeter) talk
        state ∧
      (state.timers = [(1, "pong")] ∧ state.queuedReplies = ["so"]) ∧ PacingLaw greeter state := by
  obtain ⟨state, hrun, hstate⟩ : ∃ state, Run (step fun regex text => regex == text) Always
        (init "human" "bot" greeter) talk state ∧
      decide (state.timers = [(1, "pong")] ∧ state.queuedReplies = ["so"]) = true :=
    exists_run_of_execWhere (by decide +kernel)
  exact ⟨state, hrun, of_decide_eq_true hstate, pacingLaw_of_run hrun⟩

end Law

end Bots.ScriptWorker
