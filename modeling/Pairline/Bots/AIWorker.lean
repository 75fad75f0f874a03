/-
**The order in which an AI bot answers.**

The worker of an AI bot asks a language model for one reply at a time.  A user message that arrives
while a reply is on its way waits in a queue, and the next one is taken when the reply has come.
After a reply that failed the worker sends a fallback, and leaves within a second; what waits is not
taken, and a user message that arrives in that second is taken at once.

The timers of the worker are events that may come at any time, also when they were set long ago.
Each user message carries the number of its arrival, which the code has not.

Main definitions:

* `Bots.AIWorker.State`, `Bots.AIWorker.handleInfo` — the worker and its handlers;
* `Bots.AIWorker.World`, `Bots.AIWorker.step` — the worker together with what it has answered;
* `Bots.AIWorker.line` — the line of the user messages before the worker;
* `Bots.AIWorker.TurnLaw`, `Bots.AIWorker.Undisturbed` — the messages have their turns as they
  arrived and the replies are within the maximum; no message arrives at an idle worker while others
  wait.

Main results:

* `Bots.AIWorker.line_step` — what an event makes of the line;
* `Bots.AIWorker.bounded_step` — the replies are within the maximum, whatever happens;
* `Bots.AIWorker.turnLaw_iff_undisturbed` — **the law holds all along a run exactly when no message
  arrives at an idle worker while others wait**.
-/

import Pairline.Bots.Worker
import Pairline.Transition
import Pairline.WaitingLine
import Pairline.Whitespace

set_option relaxedAutoImplicit false
set_option autoImplicit false

namespace Bots.AIWorker

open Transition

/-! ### The worker -/

/-- What the worker reads of its definition; an absent field is `none`. -/
structure Definition where
  messageLimit : Option Json
  fallbackMessage : Option Json
  deriving DecidableEq

def maxMessages (definition : Definition) : ℕ := messageLimit definition.messageLimit 20

def defaultFallbackMessage : String := "Sorry, I need to go for now."

def fallbackMessage (definition : Definition) : String :=
  match definition.fallbackMessage.getD (.string defaultFallbackMessage) with
  | .string message => if message ≠ "" then message else defaultFallbackMessage
  | _ => defaultFallbackMessage

/-- A user message, trimmed, with the number of its arrival. -/
structure UserMessage where
  content : String
  arrival : ℕ
  deriving DecidableEq

/-- What a reply is asked for. -/
inductive Request
  | opening
  | user (message : UserMessage)
  deriving DecidableEq

/-- What the model is shown of the conversation so far. -/
inductive HistoryMessage
  | user (content : String)
  | assistant (content : String)
  deriving DecidableEq

/-- The state of a worker, with what it has sent; a running task is known by its reference. -/
structure State where
  humanSessionID : String
  botSessionID : String
  definition : Definition
  matchGeneration : Option String
  botMessagesSent : ℕ
  maxMessages : ℕ
  history : List HistoryMessage
  llmTask : Option ℕ
  pendingRequest : Option Request
  queuedUserMessages : List UserMessage
  nextRef : ℕ
  outbox : List Outgoing
  deriving DecidableEq

/-- The state after `init`. -/
def init (humanSessionID botSessionID : String) (definition : Definition) : State where
  humanSessionID := humanSessionID
  botSessionID := botSessionID
  definition := definition
  matchGeneration := none
  botMessagesSent := 0
  maxMessages := AIWorker.maxMessages definition
  history := []
  llmTask := none
  pendingRequest := none
  queuedUserMessages := []
  nextRef := 0
  outbox := []

/-! ### Requests and replies -/

def sendTyping (state : State) (typing : Bool) : State :=
  if state.matchGeneration.isSome then
    { state with
      outbox := state.outbox ++ [.typing state.humanSessionID state.matchGeneration typing] }
  else state

def maxRetainedHistoryMessages : ℕ := 8

/-- `Enum.take(-8)`: the last messages. -/
def trimHistory (history : List HistoryMessage) : List HistoryMessage :=
  history.drop (history.length - maxRetainedHistoryMessages)

def deliverBotMessage (state : State) (content : String) : State :=
  let trimmed := Whitespace.trim content
  if trimmed = "" then state
  else
    { state with
      outbox := state.outbox ++ [.message state.humanSessionID state.matchGeneration trimmed]
      botMessagesSent := state.botMessagesSent + 1 }

/-- A reply is asked for, unless one is on its way or the maximum is reached. -/
def maybeStartRequest (state : State) (request : Request) : State :=
  if state.botMessagesSent ≥ state.maxMessages then state
  else if state.llmTask.isSome then state
  else
    sendTyping
      { state with
        llmTask := some state.nextRef
        pendingRequest := some request
        nextRef := state.nextRef + 1 }
      true

def queueOrStartUserMessage (state : State) (message : UserMessage) : State :=
  let trimmed := Whitespace.trim message.content
  if trimmed = "" then state
  else if state.botMessagesSent ≥ state.maxMessages then state
  else if state.llmTask.isSome then
    { state with
      queuedUserMessages := state.queuedUserMessages ++ [{ message with content := trimmed }] }
  else maybeStartRequest state (.user { message with content := trimmed })

def startNextOrDisconnect (state : State) : State :=
  if state.botMessagesSent ≥ state.maxMessages then state
  else
    match state.queuedUserMessages with
    | [] => state
    | nextMessage :: rest =>
        maybeStartRequest { state with queuedUserMessages := rest } (.user nextMessage)

def applySuccessfulReply (state : State) (content : String) : State :=
  let updatedHistory :=
    match state.pendingRequest.getD .opening with
    | .user m => state.history ++ [.user m.content, .assistant content]
    | .opening => state.history ++ [.assistant content]
  deliverBotMessage
    { state with pendingRequest := none, history := trimHistory updatedHistory } content

/-! ### The handlers -/

/-- What a task that has not crashed replies with. -/
inductive TaskResult
  | ok (content : String)
  | error
  deriving DecidableEq

/-- What the worker may receive. -/
inductive Event
  /-- A match; the flag tells whether the partner is found to be a bot. -/
  | routerMatch (partner : String) (generation : Option String) (partnerIsBot : Bool)
  | sendOpeningMessage
  | routerMessage (sender : String) (generation : Option String) (data : MessageData)
  | taskReply (ref : ℕ) (result : TaskResult)
  | taskDown (ref : ℕ)
  | idleTimeoutReached
  | sessionTTLReached
  | disconnectBot
  | routerDisconnect
  | routerTimeout
  | other

/-- Whether the worker goes on. -/
inductive Outcome
  | noreply (state : State)
  | stop (state : State)

def Outcome.state : Outcome → State
  | .noreply state => state
  | .stop state => state

def handleTaskReply (state : State) (result : TaskResult) : State :=
  let state := sendTyping { state with llmTask := none } false
  match result with
  | .ok content =>
      let trimmed := Whitespace.trim content
      if trimmed = "" then startNextOrDisconnect state
      else startNextOrDisconnect (applySuccessfulReply state trimmed)
  | .error =>
      deliverBotMessage { state with pendingRequest := none } (fallbackMessage state.definition)

def handleTaskDown (state : State) : State :=
  deliverBotMessage (sendTyping { state with llmTask := none, pendingRequest := none } false)
    (fallbackMessage state.definition)

/-- **A handler of the worker; `arrival` is the number of the event.** -/
def handleInfo (arrival : ℕ) (state : State) : Event → Outcome
  | .routerMatch partner generation partnerIsBot =>
      if partnerIsBot then .stop state
      else .noreply { state with humanSessionID := partner, matchGeneration := generation }
  | .sendOpeningMessage => .noreply (maybeStartRequest state .opening)
  | .routerMessage sender generation data =>
      if sender ≠ state.humanSessionID ∨ generation ≠ state.matchGeneration then .noreply state
      else .noreply (queueOrStartUserMessage state ⟨data.content, arrival⟩)
  | .taskReply ref result =>
      if state.llmTask = some ref then .noreply (handleTaskReply state result) else .noreply state
  | .taskDown ref =>
      if state.llmTask = some ref then .noreply (handleTaskDown state) else .noreply state
  | .idleTimeoutReached => .stop state
  | .sessionTTLReached => .stop state
  | .disconnectBot => .stop state
  | .routerDisconnect => .stop state
  | .routerTimeout => .stop state
  | .other => .noreply state

/-! ### The worker among its events -/

/-- The user message that the running task is to answer. -/
def State.answering (state : State) : Option UserMessage :=
  match state.llmTask, state.pendingRequest with
  | some _, some (.user message) => some message
  | _, _ => none

/-- The event is the end of the running task. -/
def State.finishes (state : State) : Event → Bool
  | .taskReply ref _ => state.llmTask == some ref
  | .taskDown ref => state.llmTask == some ref
  | _ => false

/-- The user message that the event answers, and the answer. -/
def State.answered (state : State) : Event → Option (UserMessage × String)
  | .taskReply ref (.ok content) =>
      if state.llmTask = some ref ∧ Whitespace.trim content ≠ "" then
        state.answering.map fun message => (message, Whitespace.trim content)
      else none
  | _ => none

/-- A worker, the number of the events so far, the user messages whose tasks have ended, and the
answers that were given, in the order of time. -/
structure World where
  worker : State
  stopped : Bool
  arrivals : ℕ
  served : List UserMessage
  answers : List (UserMessage × String)

def start (humanSessionID botSessionID : String) (definition : Definition) : World where
  worker := init humanSessionID botSessionID definition
  stopped := false
  arrivals := 0
  served := []
  answers := []

/-- **An event at the worker; nothing happens to one that has stopped.** -/
def step (w : World) (e : Event) : Option World :=
  if w.stopped then none
  else
    let outcome := handleInfo w.arrivals w.worker e
    some
      { worker := outcome.state
        stopped := match outcome with
          | .noreply _ => false
          | .stop _ => true
        arrivals := w.arrivals + 1
        served := if w.worker.finishes e then w.served ++ w.worker.answering.toList else w.served
        answers := w.answers ++ (w.worker.answered e).toList }

/-- The line of the user messages before a worker, behind those that were served. -/
def State.line (state : State) (served : List UserMessage) : WaitingLine UserMessage where
  served := served
  current := state.answering
  waiting := state.queuedUserMessages

/-- **The line of the user messages before the worker.** -/
def line (w : World) : WaitingLine UserMessage := w.worker.line w.served

/-- One message arrived before the other. -/
def Earlier (m m' : UserMessage) : Prop := m.arrival < m'.arrival

instance : DecidableRel Earlier := fun m m' => inferInstanceAs (Decidable (m.arrival < m'.arrival))

/-- The replies that were sent, the fallback among them. -/
def State.replies (state : State) : List String := delivered state.outbox

/-- **The user messages have their turns in the order of their arrival, they are answered in that
order, and the replies are within the maximum.** -/
structure TurnLaw (definition : Definition) (w : World) : Prop where
  inTurn : (line w).order.Pairwise Earlier
  answered : (w.answers.map Prod.fst).Pairwise Earlier
  limited : w.worker.replies.length ≤ maxMessages definition

/-- The event is a user message that the worker takes at once. -/
def TakenAtOnce (state : State) : Event → Prop
  | .routerMessage sender generation data =>
      sender = state.humanSessionID ∧ generation = state.matchGeneration ∧
        Whitespace.trim data.content ≠ "" ∧ state.botMessagesSent < state.maxMessages ∧
        state.llmTask = none
  | _ => False

/-- **No user message is taken at once while others wait.** -/
def Undisturbed (w : World) (e : Event) : Prop :=
  TakenAtOnce w.worker e → w.worker.queuedUserMessages = []

instance (state : State) (e : Event) : Decidable (TakenAtOnce state e) := by
  cases e <;> unfold TakenAtOnce <;> infer_instance

instance (w : World) (e : Event) : Decidable (Undisturbed w e) := by
  unfold Undisturbed
  infer_instance

/-! ### What the functions leave alone -/

section Frames

variable (state : State)

@[simp] theorem sendTyping_llmTask (b : Bool) : (sendTyping state b).llmTask = state.llmTask := by
  unfold sendTyping
  split <;> rfl

@[simp] theorem sendTyping_pendingRequest (b : Bool) :
    (sendTyping state b).pendingRequest = state.pendingRequest := by
  unfold sendTyping
  split <;> rfl

@[simp] theorem sendTyping_queuedUserMessages (b : Bool) :
    (sendTyping state b).queuedUserMessages = state.queuedUserMessages := by
  unfold sendTyping
  split <;> rfl

@[simp] theorem sendTyping_botMessagesSent (b : Bool) :
    (sendTyping state b).botMessagesSent = state.botMessagesSent := by
  unfold sendTyping
  split <;> rfl

@[simp] theorem sendTyping_maxMessages (b : Bool) :
    (sendTyping state b).maxMessages = state.maxMessages := by
  unfold sendTyping
  split <;> rfl

@[simp] theorem sendTyping_replies (b : Bool) : (sendTyping state b).replies = state.replies := by
  unfold sendTyping State.replies
  split
  · exact delivered_typing _ _ _ _
  · rfl

@[simp] theorem deliverBotMessage_llmTask (content : String) :
    (deliverBotMessage state content).llmTask = state.llmTask := by
  simp only [deliverBotMessage]
  split <;> rfl

@[simp] theorem deliverBotMessage_queuedUserMessages (content : String) :
    (deliverBotMessage state content).queuedUserMessages = state.queuedUserMessages := by
  simp only [deliverBotMessage]
  split <;> rfl

@[simp] theorem maybeStartRequest_queuedUserMessages (request : Request) :
    (maybeStartRequest state request).queuedUserMessages = state.queuedUserMessages := by
  unfold maybeStartRequest
  split
  · rfl
  · split
    · rfl
    · exact sendTyping_queuedUserMessages _ _

end Frames

/-! ### The line before the worker -/

section Line

variable {state : State} {served : List UserMessage}

theorem answering_of_free (h : state.llmTask = none) : state.answering = none := by
  simp only [State.answering, h]

/-- An idle worker below the maximum starts a task. -/
theorem maybeStartRequest_of_free (hlimit : state.botMessagesSent < state.maxMessages)
    (hfree : state.llmTask = none) (request : Request) :
    maybeStartRequest state request =
      sendTyping
        { state with
          llmTask := some state.nextRef
          pendingRequest := some request
          nextRef := state.nextRef + 1 }
        true := by
  rw [maybeStartRequest, if_neg (Nat.not_le.2 hlimit), hfree]
  rfl

theorem answering_maybeStartRequest (hlimit : state.botMessagesSent < state.maxMessages)
    (hfree : state.llmTask = none) (message : UserMessage) :
    (maybeStartRequest state (.user message)).answering = some message := by
  simp only [maybeStartRequest_of_free hlimit hfree, State.answering, sendTyping_llmTask,
    sendTyping_pendingRequest]

/-- The opening message is none of the line. -/
theorem line_maybeStartRequest_opening :
    (maybeStartRequest state .opening).line served = state.line served := by
  have hanswering : (maybeStartRequest state .opening).answering = state.answering := by
    by_cases hlimit : state.botMessagesSent < state.maxMessages
    · cases hfree : state.llmTask with
      | none =>
          rw [answering_of_free hfree, maybeStartRequest_of_free hlimit hfree]
          simp only [State.answering, sendTyping_llmTask, sendTyping_pendingRequest]
      | some ref => rw [maybeStartRequest, if_neg (Nat.not_le.2 hlimit), hfree]; rfl
    · rw [maybeStartRequest, if_pos (Nat.not_lt.1 hlimit)]
  simp only [State.line, hanswering, maybeStartRequest_queuedUserMessages]

/-- A message taken at once has its turn now. -/
theorem line_maybeStartRequest_user (hlimit : state.botMessagesSent < state.maxMessages)
    (hfree : state.llmTask = none) (message : UserMessage) :
    (maybeStartRequest state (.user message)).line served = (state.line served).serveNow message := by
  simp only [State.line, WaitingLine.serveNow, answering_maybeStartRequest hlimit hfree,
    maybeStartRequest_queuedUserMessages]

/-- After a reply the head of the line is called, or nobody. -/
theorem line_startNextOrDisconnect (hfree : state.llmTask = none) :
    (startNextOrDisconnect state).line served = state.line served ∨
      (startNextOrDisconnect state).line served = (state.line served).call := by
  by_cases hlimit : state.botMessagesSent < state.maxMessages
  · cases hqueue : state.queuedUserMessages with
    | nil =>
        left
        simp only [startNextOrDisconnect, if_neg (Nat.not_le.2 hlimit), hqueue]
    | cons message rest =>
        right
        simp only [startNextOrDisconnect, if_neg (Nat.not_le.2 hlimit), hqueue]
        rw [line_maybeStartRequest_user (by exact hlimit) (by exact hfree)]
        simp only [State.line, WaitingLine.serveNow, WaitingLine.call, hqueue]
  · left
    rw [startNextOrDisconnect, if_pos (Nat.not_lt.1 hlimit)]

/-- An idle worker that has kept the queue has served whom it answered. -/
theorem line_eq_leave {state' : State} (hfree : state'.llmTask = none)
    (hqueue : state'.queuedUserMessages = state.queuedUserMessages) :
    state'.line (served ++ state.answering.toList) = (state.line served).leave := by
  simp only [State.line, WaitingLine.leave, answering_of_free hfree, hqueue]

theorem line_handleTaskReply (result : TaskResult) :
    (handleTaskReply state result).line (served ++ state.answering.toList) =
        (state.line served).leave ∨
      (handleTaskReply state result).line (served ++ state.answering.toList) =
        (state.line served).leave.call := by
  have hnext : ∀ state' : State, state'.llmTask = none →
      state'.queuedUserMessages = state.queuedUserMessages →
      (startNextOrDisconnect state').line (served ++ state.answering.toList) =
          (state.line served).leave ∨
        (startNextOrDisconnect state').line (served ++ state.answering.toList) =
          (state.line served).leave.call := by
    intro state' hfree hqueue
    rw [← line_eq_leave hfree hqueue]
    exact line_startNextOrDisconnect hfree
  cases result with
  | ok content =>
      simp only [handleTaskReply]
      split
      · exact hnext _ (by simp) (by simp)
      · exact hnext _ (by simp [applySuccessfulReply]) (by simp [applySuccessfulReply])
  | error => exact .inl (line_eq_leave (by simp [handleTaskReply]) (by simp [handleTaskReply]))

theorem line_handleTaskDown :
    (handleTaskDown state).line (served ++ state.answering.toList) = (state.line served).leave :=
  line_eq_leave (by simp [handleTaskDown]) (by simp [handleTaskDown])

end Line

/-- A message taken at once is admitted to the free worker. -/
theorem line_step_of_takenAtOnce {w w' : World} {e : Event} (h : step w e = some w')
    (htaken : TakenAtOnce w.worker e) :
    ∃ message : UserMessage, message.arrival = w.arrivals ∧ (line w).current = none ∧
      line w' = (line w).serveNow message := by
  cases e with
  | routerMessage sender generation data =>
      obtain ⟨rfl, rfl, htext, hlimit, hfree⟩ := htaken
      unfold step at h
      split at h
      · cases h
      · cases h
        refine ⟨⟨Whitespace.trim data.content, w.arrivals⟩, rfl, answering_of_free hfree, ?_⟩
        simp only [line, State.finishes, handleInfo, ne_eq, not_true_eq_false, or_self, if_false,
          Outcome.state, queueOrStartUserMessage, if_neg htext, if_neg (Nat.not_le.2 hlimit),
          hfree, Option.isSome_none, Bool.false_eq_true]
        exact line_maybeStartRequest_user hlimit hfree _
  | _ => exact htaken.elim

/-- **What any other event makes of the line**: nothing, a newcomer at its end, or the one who was
served leaves it and perhaps the next is called. -/
theorem line_step {w w' : World} {e : Event} (h : step w e = some w')
    (htaken : ¬TakenAtOnce w.worker e) :
    line w' = line w ∨
      (∃ message : UserMessage, message.arrival = w.arrivals ∧ line w' = (line w).join message) ∨
      line w' = (line w).leave ∨ line w' = (line w).leave.call := by
  unfold step at h
  split at h
  · cases h
  · cases h
    cases e with
    | routerMatch partner generation partnerIsBot =>
        left
        cases partnerIsBot <;> rfl
    | sendOpeningMessage => exact .inl line_maybeStartRequest_opening
    | routerMessage sender generation data =>
        simp only [line, State.finishes, handleInfo, Bool.false_eq_true, if_false]
        split
        · exact .inl rfl
        · next hpartner =>
            simp only [Outcome.state, queueOrStartUserMessage]
            split
            · exact .inl rfl
            · next htext =>
                split
                · exact .inl rfl
                · next hlimit =>
                    split
                    · exact .inr (.inl ⟨_, rfl, rfl⟩)
                    · next hfree =>
                        refine absurd ⟨?_, ?_, htext, Nat.lt_of_not_le hlimit, ?_⟩ htaken
                        · exact Decidable.not_not.1 (not_or.1 hpartner).1
                        · exact Decidable.not_not.1 (not_or.1 hpartner).2
                        · exact Option.not_isSome_iff_eq_none.1 hfree
    | taskReply ref result =>
        simp only [line, State.finishes, handleInfo, beq_iff_eq]
        by_cases href : w.worker.llmTask = some ref
        · simp only [if_pos href, Outcome.state]
          exact .inr (.inr (line_handleTaskReply result))
        · simp only [if_neg href, Outcome.state, true_or]
    | taskDown ref =>
        simp only [line, State.finishes, handleInfo, beq_iff_eq]
        by_cases href : w.worker.llmTask = some ref
        · simp only [if_pos href, Outcome.state]
          exact .inr (.inr (.inl line_handleTaskDown))
        · simp only [if_neg href, Outcome.state, true_or]
    | _ => exact .inl rfl

/-! ### The maximum -/

/-- **The replies that were sent are counted and within the maximum; while a task runs there is room
for its reply.** -/
structure State.Bounded (definition : Definition) (state : State) : Prop where
  limit : state.maxMessages = AIWorker.maxMessages definition
  counted : state.replies.length = state.botMessagesSent
  sent_le : state.botMessagesSent ≤ state.maxMessages
  room : state.llmTask.isSome → state.botMessagesSent < state.maxMessages

section Bounded

variable {definition : Definition} {state : State}

theorem bounded_sendTyping (h : state.Bounded definition) (b : Bool) :
    (sendTyping state b).Bounded definition where
  limit := by rw [sendTyping_maxMessages, h.limit]
  counted := by rw [sendTyping_replies, sendTyping_botMessagesSent, h.counted]
  sent_le := by
    rw [sendTyping_botMessagesSent, sendTyping_maxMessages]
    exact h.sent_le
  room := by
    rw [sendTyping_llmTask, sendTyping_botMessagesSent, sendTyping_maxMessages]
    exact h.room

/-- Where there is room an idle worker may send a reply. -/
theorem bounded_deliverBotMessage (h : state.Bounded definition) (hfree : state.llmTask = none)
    (hroom : state.botMessagesSent < state.maxMessages) (content : String) :
    (deliverBotMessage state content).Bounded definition := by
  simp only [deliverBotMessage]
  split
  · exact h
  · refine ⟨h.limit, ?_, hroom, fun hsome => ?_⟩
    · have hcounted := h.counted
      unfold State.replies at hcounted ⊢
      simp only [delivered_message, List.length_append, List.length_cons, List.length_nil, hcounted]
    · simp only [hfree, Option.isSome_none, Bool.false_eq_true] at hsome

theorem bounded_maybeStartRequest (h : state.Bounded definition) (request : Request) :
    (maybeStartRequest state request).Bounded definition := by
  unfold maybeStartRequest
  split
  · exact h
  · next hlimit =>
      split
      · exact h
      · have hstarted : State.Bounded definition
            { state with
              llmTask := some state.nextRef
              pendingRequest := some request
              nextRef := state.nextRef + 1 } :=
          ⟨h.limit, h.counted, h.sent_le, fun _ => Nat.lt_of_not_le hlimit⟩
        exact bounded_sendTyping hstarted true

/-- The queue plays no part. -/
theorem State.Bounded.withQueue (h : state.Bounded definition) (queue : List UserMessage) :
    State.Bounded definition { state with queuedUserMessages := queue } :=
  ⟨h.limit, h.counted, h.sent_le, h.room⟩

theorem bounded_startNextOrDisconnect (h : state.Bounded definition) :
    (startNextOrDisconnect state).Bounded definition := by
  unfold startNextOrDisconnect
  split
  · exact h
  · split
    · exact h
    · exact bounded_maybeStartRequest (h.withQueue _) _

theorem bounded_queueOrStartUserMessage (h : state.Bounded definition) (message : UserMessage) :
    (queueOrStartUserMessage state message).Bounded definition := by
  simp only [queueOrStartUserMessage]
  split
  · exact h
  · split
    · exact h
    · split
      · exact h.withQueue _
      · exact bounded_maybeStartRequest h _

/-- Nor does the conversation. -/
theorem State.Bounded.withConversation (h : state.Bounded definition) (pending : Option Request)
    (history : List HistoryMessage) :
    State.Bounded definition { state with pendingRequest := pending, history := history } :=
  ⟨h.limit, h.counted, h.sent_le, h.room⟩

/-- The end of the task takes no room. -/
theorem State.Bounded.withoutTask (h : state.Bounded definition) :
    State.Bounded definition { state with llmTask := none } :=
  ⟨h.limit, h.counted, h.sent_le, fun hsome => by cases hsome⟩

theorem bounded_applySuccessfulReply (h : state.Bounded definition) (hfree : state.llmTask = none)
    (hroom : state.botMessagesSent < state.maxMessages) (content : String) :
    (applySuccessfulReply state content).Bounded definition := by
  unfold applySuccessfulReply
  exact bounded_deliverBotMessage (h.withConversation none _) hfree hroom content

theorem bounded_handleTaskReply (h : state.Bounded definition)
    (hroom : state.botMessagesSent < state.maxMessages) (result : TaskResult) :
    (handleTaskReply state result).Bounded definition := by
  have hidle := bounded_sendTyping h.withoutTask false
  have hfree := sendTyping_llmTask { state with llmTask := none } false
  have hroom' : (sendTyping { state with llmTask := none } false).botMessagesSent <
      (sendTyping { state with llmTask := none } false).maxMessages := by
    rw [sendTyping_botMessagesSent, sendTyping_maxMessages]
    exact hroom
  unfold handleTaskReply
  generalize sendTyping { state with llmTask := none } false = idle at hidle hfree hroom'
  -- a reply, or the fallback, takes the room that the task had
  cases result with
  | ok content =>
      simp only
      split
      · exact bounded_startNextOrDisconnect hidle
      · exact bounded_startNextOrDisconnect (bounded_applySuccessfulReply hidle hfree hroom' _)
  | error => exact bounded_deliverBotMessage (hidle.withConversation none idle.history) hfree hroom' _

theorem bounded_handleTaskDown (h : state.Bounded definition)
    (hroom : state.botMessagesSent < state.maxMessages) :
    (handleTaskDown state).Bounded definition := by
  refine bounded_deliverBotMessage
    (bounded_sendTyping (h.withConversation none state.history).withoutTask false)
    (sendTyping_llmTask _ _) ?_ _
  rw [sendTyping_botMessagesSent, sendTyping_maxMessages]
  exact hroom

/-- **The replies stay within the maximum, whatever happens.** -/
theorem bounded_step {w w' : World} {e : Event} (h : step w e = some w')
    (hw : w.worker.Bounded definition) : w'.worker.Bounded definition := by
  unfold step at h
  split at h
  · cases h
  · cases h
    show (handleInfo w.arrivals w.worker e).state.Bounded definition
    cases e with
    | routerMatch partner generation partnerIsBot =>
        cases partnerIsBot with
        | true => exact hw
        | false => exact ⟨hw.limit, hw.counted, hw.sent_le, hw.room⟩
    | sendOpeningMessage =>
        simp only [handleInfo, Outcome.state]
        exact bounded_maybeStartRequest hw _
    | routerMessage sender generation data =>
        simp only [handleInfo]
        split
        · exact hw
        · simp only [Outcome.state]
          exact bounded_queueOrStartUserMessage hw _
    | taskReply ref result =>
        simp only [handleInfo]
        split
        · next href =>
            have hroom := hw.room (by rw [href]; rfl)
            simp only [Outcome.state]
            exact bounded_handleTaskReply hw hroom result
        · exact hw
    | taskDown ref =>
        simp only [handleInfo]
        split
        · next href =>
            have hroom := hw.room (by rw [href]; rfl)
            simp only [Outcome.state]
            exact bounded_handleTaskDown hw hroom
        · exact hw
    | _ => exact hw

end Bounded

/-! ### The law of the turns -/

/-- Answers are given to messages that were served, in the order in which they were. -/
theorem answers_step {w w' : World} {e : Event} (h : step w e = some w')
    (hw : (w.answers.map Prod.fst).Sublist w.served) :
    (w'.answers.map Prod.fst).Sublist w'.served := by
  unfold step at h
  split at h
  · cases h
  · cases h
    have hgrow : ∀ l : List UserMessage, (w.answers.map Prod.fst).Sublist (w.served ++ l) :=
      fun l => hw.trans (List.sublist_append_left _ _)
    cases e with
    | taskReply ref result =>
        simp only [State.finishes, beq_iff_eq]
        by_cases href : w.worker.llmTask = some ref
        · rw [if_pos href]
          cases result with
          | error => simpa [State.answered] using hgrow _
          | ok content =>
              by_cases htext : Whitespace.trim content = ""
              · simpa [State.answered, htext] using hgrow _
              · simp only [State.answered, href, ne_eq, htext, not_false_eq_true, and_self, if_true,
                  List.map_append]
                refine hw.append ?_
                cases w.worker.answering <;> simp
        · rw [if_neg href]
          cases result <;> simpa [State.answered, href] using hw
    | taskDown ref =>
        simp only [State.finishes, beq_iff_eq, State.answered, Option.toList_none, List.append_nil]
        split
        · exact hgrow _
        · exact hw
    | _ => simpa [State.answered, State.finishes] using hw

/-- What the allowed events keep: the law, and that all arrivals were numbered before. -/
structure Inv (definition : Definition) (w : World) : Prop where
  inTurn : (line w).order.Pairwise Earlier
  numbered : ∀ message ∈ (line w).order, message.arrival < w.arrivals
  answers : (w.answers.map Prod.fst).Sublist w.served
  bounded : w.worker.Bounded definition

section Law

variable {definition : Definition} {w w' : World} {e : Event}

theorem arrivals_step (h : step w e = some w') : w'.arrivals = w.arrivals + 1 := by
  unfold step at h
  split at h
  · cases h
  · cases h
    rfl

theorem Inv.turnLaw (h : Inv definition w) : TurnLaw definition w where
  inTurn := h.inTurn
  answered := by
    -- whoever was served has had a turn
    have hserved : w.served.Sublist (line w).order := by
      simp only [WaitingLine.order, line, State.line, List.append_assoc]
      exact List.sublist_append_left _ _
    exact h.inTurn.sublist (h.answers.trans hserved)
  limited := by
    rw [h.bounded.counted, ← h.bounded.limit]
    exact h.bounded.sent_le

/-- A newcomer comes after all that came before. -/
theorem Inv.earlier (h : Inv definition w) {message : UserMessage}
    (hnew : message.arrival = w.arrivals) : ∀ m ∈ (line w).order, Earlier m message := by
  intro m hm
  show m.arrival < message.arrival
  rw [hnew]
  exact h.numbered m hm

/-- An order of turns with a newcomer at its end. -/
theorem Inv.of_order_append (h : Inv definition w) (hstep : step w e = some w')
    {message : UserMessage} (hnew : message.arrival = w.arrivals)
    (horder : (line w').order = (line w).order ++ [message]) : Inv definition w' where
  inTurn := by
    rw [horder, List.pairwise_append]
    refine ⟨h.inTurn, List.pairwise_singleton _ _, fun m hm m' hm' => ?_⟩
    obtain rfl := List.mem_singleton.1 hm'
    exact h.earlier hnew m hm
  numbered := by
    intro m hm
    rw [arrivals_step hstep]
    rw [horder, List.mem_append, List.mem_singleton] at hm
    obtain hm | rfl := hm
    · have := h.numbered m hm
      omega
    · omega
  answers := answers_step hstep h.answers
  bounded := bounded_step hstep h.bounded

/-- An order of turns that stays. -/
theorem Inv.of_order_eq (h : Inv definition w) (hstep : step w e = some w')
    (horder : (line w').order = (line w).order) : Inv definition w' where
  inTurn := by
    rw [horder]
    exact h.inTurn
  numbered := by
    intro m hm
    rw [horder] at hm
    have := h.numbered m hm
    rw [arrivals_step hstep]
    omega
  answers := answers_step hstep h.answers
  bounded := bounded_step hstep h.bounded

/-- **An allowed event keeps the invariant.** -/
theorem inv_step (h : Inv definition w) (hok : Undisturbed w e) (hstep : step w e = some w') :
    Inv definition w' := by
  by_cases htaken : TakenAtOnce w.worker e
  · obtain ⟨message, hnew, hfree, hline⟩ := line_step_of_takenAtOnce hstep htaken
    have hnobody : (line w).waiting = [] := hok htaken
    refine h.of_order_append hstep hnew ?_
    rw [hline, WaitingLine.order_serveNow, WaitingLine.order_of_free hfree, hnobody, List.append_nil]
  · obtain hline | ⟨message, hnew, hline⟩ | hline | hline := line_step hstep htaken
    · exact h.of_order_eq hstep (by rw [hline])
    · exact h.of_order_append hstep hnew (by rw [hline, WaitingLine.order_join])
    · exact h.of_order_eq hstep (by rw [hline, WaitingLine.order_leave])
    · refine h.of_order_eq hstep ?_
      rw [hline, WaitingLine.order_call WaitingLine.leave_current, WaitingLine.order_leave]

/-- **An event that keeps the law is allowed.** -/
theorem undisturbed_of_turnLaw (h : Inv definition w) (hstep : step w e = some w')
    (hlaw : TurnLaw definition w') : Undisturbed w e := by
  intro htaken
  obtain ⟨message, hnew, hfree, hline⟩ := line_step_of_takenAtOnce hstep htaken
  have hturn := hlaw.inTurn
  rw [hline] at hturn
  exact (WaitingLine.pairwise_serveNow_iff (fun _ _ hab hba => Nat.lt_asymm hab hba) hfree h.inTurn
    (h.earlier hnew)).1 hturn

theorem inv_start (humanSessionID botSessionID : String) (definition : Definition) :
    Inv definition (start humanSessionID botSessionID definition) where
  inTurn := List.Pairwise.nil
  numbered := fun _ hm => absurd hm List.not_mem_nil
  answers := List.Sublist.refl _
  bounded := ⟨rfl, rfl, Nat.zero_le _, fun h => by cases h⟩

/-- **All along a run the user messages have their turns as they arrived and the replies are within
the maximum, exactly when no message is taken at once while others wait.** -/
theorem turnLaw_iff_undisturbed {humanSessionID botSessionID : String} {l : List Event}
    (h : Run step Always (start humanSessionID botSessionID definition) l w) :
    (∀ l' v, l' <+: l → Run step Always (start humanSessionID botSessionID definition) l' v →
        TurnLaw definition v) ↔
      Run step Undisturbed (start humanSessionID botSessionID definition) l w :=
  h.law_iff (I := Inv definition) (fun _ _ _ => inv_step) (fun _ hs => hs.turnLaw)
    (fun _ _ _ => undisturbed_of_turnLaw) (inv_start humanSessionID botSessionID definition)

/-- The partner writes. -/
def writes (text : String) : Event := .routerMessage "human" (some "g") ⟨some text, none⟩

/-- A message waits for the opening message, another one for the reply to the first. -/
def talk : List Event :=
  [.routerMatch "human" (some "g") false, .sendOpeningMessage, writes "one", .taskReply 0 (.ok "hi"),
    writes "two", .taskReply 1 (.ok "first"), .taskReply 2 (.ok "second")]

theorem turnLaw_iff_undisturbed_talk :
    ∃ w, Run step Always (start "human" "bot" ⟨none, none⟩) talk w ∧
      w.answers.map Prod.snd = ["first", "second"] ∧ TurnLaw ⟨none, none⟩ w := by
  obtain ⟨w, hrun, hw⟩ : ∃ w, Run step Undisturbed (start "human" "bot" ⟨none, none⟩) talk w ∧
      decide (w.answers.map Prod.snd = ["first", "second"]) = true :=
    exists_run_of_execWhere (by decide +kernel)
  exact ⟨w, hrun.always, of_decide_eq_true hw,
    (turnLaw_iff_undisturbed hrun.always).2 hrun _ w (List.prefix_refl _) hrun.always⟩

/-- The reply to the first message fails while the second waits; the third is answered before the
second. -/
def failedTalk : List Event :=
  [.routerMatch "human" (some "g") false, .sendOpeningMessage, .taskReply 0 (.ok "hi"), writes "one",
    writes "two", .taskReply 1 .error, writes "three", .taskReply 2 (.ok "third"),
    .taskReply 3 (.ok "second")]

theorem failedTalk_overtakes :
    ¬∀ (definition : Definition) (l : List Event) (w : World),
      Run step Always (start "human" "bot" definition) l w → TurnLaw definition w := by
  intro hall
  obtain ⟨w, hrun, hw⟩ : ∃ w, Run step Always (start "human" "bot" ⟨none, none⟩) failedTalk w ∧
      decide ((w.answers.map fun answer => answer.1.content) = ["three", "two"] ∧
        ¬(w.answers.map Prod.fst).Pairwise Earlier) = true :=
    exists_run_of_execWhere (by decide +kernel)
  exact (of_decide_eq_true hw).2 (hall _ _ w hrun).answered

/-- **The replies stay within the maximum in every run.** -/
theorem replies_le {humanSessionID botSessionID : String} {l : List Event}
    (h : Run step Always (start humanSessionID botSessionID definition) l w) :
    w.worker.replies.length ≤ maxMessages definition := by
  have hb := h.invariant (I := fun w => w.worker.Bounded definition)
    (fun _ _ _ hs _ hstep => bounded_step hstep hs)
    (inv_start humanSessionID botSessionID definition).bounded
  rw [hb.counted, ← hb.limit]
  exact hb.sent_le

end Law

end Bots.AIWorker
