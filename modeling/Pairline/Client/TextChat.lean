/-
**What becomes of the messages of a text chat.**

The client shows a message of its user at once, as pending, and asks the server to deliver it. The
answer may come late: the partner may have left by then, a search may have begun, or another chat.
An answer is compared with the chat in which its message was written, by a number that goes up
whenever a chat begins or ends. A message that is on display keeps the status that its answer gave
it.

A handler that runs again may have been made for an earlier status, so the status that it tests is
part of the event. Which answers have come, and in which chat, is recorded; no step reads it.

Main definitions:

* `Client.TextChat`, `Client.TextChat.step` — the client, and what it does on an event;
* `Client.TextChat.Sending.status` — what an answer says of its message;
* `Client.TextChat.DisplayLaw` — the law.

Main results:

* `Client.TextChat.noted_or_sends_or_settles` — **what a step can do to the messages**;
* `Client.TextChat.Sound.step`, `Client.TextChat.Follows.step` — what each step keeps;
* `Client.TextChat.displayLaw` — **the law holds**.
-/

import Mathlib.Data.List.Infix
import Pairline.Client.IceServers
import Pairline.Transition

set_option relaxedAutoImplicit false
set_option autoImplicit false

namespace Client

open Transition

namespace TextChat

/-! ### Messages -/

inductive Status
  | idle
  | searching
  | connected
  | disconnected
  deriving DecidableEq

inductive Sender
  | me
  | peer
  | system
  deriving DecidableEq

inductive DeliveryStatus
  | pending
  | sent
  | blocked
  | failed
  deriving DecidableEq

structure ChatMessage where
  id : ℕ
  text : String
  sender : Sender
  deliveryStatus : Option DeliveryStatus
  systemReason : Option String

/-- The fields of the data of a message that the client reads; `json` is all of it as a text. -/
structure Data where
  message : Option String
  error : Option String
  reason : Option String
  reasonCode : Option String
  json : Option String

/-- What the server answers to a message. -/
structure Payload where
  type : Option String
  data : Data

/-- How the promise of an answer ends. -/
inductive Answer
  | resolved (payload : Payload)
  | rejected

inductive Body
  | matched (peerId : Option String) (commonInterests : List String) (reportable : Bool)
  | message (content : Option String)
  | system (data : Data)
  | disconnected
  | banned (reason : Option String)
  | error (data : Data)
  | timeout
  | stopped
  | typing (isTyping : Option Bool)
  | other

/-- What the server sends. -/
structure Message where
  sessionId : Option String
  sessionToken : Option String
  body : Body

def blockedPhraseNotice : String :=
  "This message was not sent due to containing a banned phrase."

def bannedPhraseReason : String := "banned_phrase"

/-- A text that is there and not empty. -/
def truthy (text : Option String) : Option String := text.filter (· ≠ "")

/-- The answer says that the message has a banned phrase. -/
def Payload.isBlock (payload : Payload) : Bool :=
  payload.data.reasonCode = some bannedPhraseReason || payload.data.message = some blockedPhraseNotice

/-- **The status that an answer gives its message**, if it is heard. -/
def Answer.status : Answer → DeliveryStatus
  | .rejected => .failed
  | .resolved payload =>
      if payload.type = some "system" then if payload.isBlock then .blocked else .pending
      else if payload.type = some "error" then .failed
      else .sent

/-- A message that was sent, the chat in which it was, and the answer with the chat in which it
came. -/
structure Sending where
  messageId : ℕ
  text : String
  chatEpoch : ℕ
  answer : Option (Answer × ℕ)

/-- **What has become of a message**: what its answer says, when it came in the chat of the message.
-/
def Sending.status (sending : Sending) : DeliveryStatus :=
  match sending.answer with
  | some (answer, epoch) => if epoch = sending.chatEpoch then answer.status else .pending
  | none => .pending

end TextChat

/-! ### The client -/

open TextChat in
/-- **The client.**  Messages are numbered, and so are the promises of answers. -/
structure TextChat where
  connected : Bool
  peerId : Option String
  sessionId : Option String
  sessionToken : Option String
  reportPeerId : Option String
  status : Status
  messages : List ChatMessage
  showReconnectMessage : Bool
  peerTyping : Bool
  peerTypingTimeout : Bool
  chatEpoch : ℕ
  nextId : ℕ
  sendings : List Sending

namespace TextChat

def start : TextChat where
  connected := false
  peerId := none
  sessionId := none
  sessionToken := none
  reportPeerId := none
  status := .idle
  messages := []
  showReconnectMessage := false
  peerTyping := false
  peerTypingTimeout := false
  chatEpoch := 0
  nextId := 0
  sendings := []

def beginNewChatEpoch (chat : TextChat) : TextChat := { chat with chatEpoch := chat.chatEpoch + 1 }

def push (chat : TextChat) (text : String) (sender : Sender) (systemReason : Option String) :
    TextChat :=
  { chat with
    messages := chat.messages ++ [⟨chat.nextId, text, sender, none, systemReason⟩]
    nextId := chat.nextId + 1 }

def pushSystemMessage (chat : TextChat) (text : String) (systemReason : Option String) : TextChat :=
  chat.push text .system systemReason

/-- A message with another status; its text stays. -/
def mark (messageId : ℕ) (deliveryStatus : DeliveryStatus) (message : ChatMessage) : ChatMessage :=
  if message.id = messageId then { message with deliveryStatus := some deliveryStatus } else message

def updateDeliveryStatus (chat : TextChat) (messageId : ℕ) (deliveryStatus : DeliveryStatus) :
    TextChat :=
  { chat with messages := chat.messages.map (mark messageId deliveryStatus) }

def showConnectionStatusMessage (chat : TextChat) (text : String) : TextChat :=
  if chat.showReconnectMessage then chat
  else { chat.pushSystemMessage text none with showReconnectMessage := true }

def cleanup (chat : TextChat) : TextChat :=
  { chat.beginNewChatEpoch with
    peerId := none
    sessionId := none
    sessionToken := none
    reportPeerId := none
    messages := []
    showReconnectMessage := false
    peerTyping := false
    peerTypingTimeout := false }

/-- The ids of a message are taken over, whatever it says. -/
def noteSession (chat : TextChat) (message : Message) : TextChat :=
  { chat with
    sessionId := truthy message.sessionId <|> chat.sessionId
    sessionToken := truthy message.sessionToken <|> chat.sessionToken }

def matched (chat : TextChat) (peerId : Option String) (commonInterests : List String)
    (reportable : Bool) : TextChat :=
  let begun := { chat.beginNewChatEpoch with
    peerId := some (peerId.getD "")
    reportPeerId := if reportable then truthy peerId else none
    status := .connected
    showReconnectMessage := false
    peerTyping := false
    peerTypingTimeout := false
    messages := [] }
  let told := if commonInterests = [] then begun
    else begun.pushSystemMessage ("You both like: " ++ ", ".intercalate commonInterests) none
  told.pushSystemMessage "You are talking to a random stranger." none

/-- The partner is gone, or nobody has come. -/
def gone (chat : TextChat) : TextChat :=
  { chat.beginNewChatEpoch with status := .disconnected, peerId := none, peerTyping := false }

def stopped (chat : TextChat) : TextChat :=
  { chat.beginNewChatEpoch with
    status := .idle
    peerId := none
    sessionId := none
    sessionToken := none
    reportPeerId := none
    messages := []
    peerTyping := false }

/-- What is shown for an error. -/
def errorText (data : Data) : String :=
  (truthy data.message <|> truthy data.error <|> truthy data.reason <|> truthy data.json).getD
    "An error occurred"

/-- `handleMessage`. -/
def handleBody (chat : TextChat) : Body → TextChat
  | .matched peerId commonInterests reportable => chat.matched peerId commonInterests reportable
  | .message content =>
      match truthy content with
      | some content => chat.push content .peer none
      | none => chat
  | .system data =>
      match truthy data.message with
      | some message => chat.pushSystemMessage message data.reasonCode
      | none => chat
  | .disconnected => chat.gone.pushSystemMessage "Stranger has disconnected." none
  | .banned reason =>
      { chat.beginNewChatEpoch with status := .disconnected, peerTyping := false }.pushSystemMessage
        ("You have been banned: " ++ (truthy reason).getD "Banned by an administrator") none
  | .error data =>
      let errorMessage := errorText data
      let reverted :=
        if "CAPTCHA".toList <:+: errorMessage.toList then { chat with status := .idle } else chat
      reverted.pushSystemMessage ("Error: " ++ errorMessage) none
  | .timeout =>
      chat.gone.pushSystemMessage "Matchmaking timeout: No strangers are available right now." none
  | .stopped => chat.stopped
  | .typing (some isTyping) => { chat with peerTyping := isTyping, peerTypingTimeout := isTyping }
  | .typing none => chat
  | .other => chat

def handleMessage (chat : TextChat) (message : Message) : TextChat :=
  (chat.noteSession message).handleBody message.body

/-- `onClose`: what is shown does not go, and the chat does not end. -/
def closed (chat : TextChat) : TextChat :=
  let shown := if chat.status = .connected ∨ chat.status = .searching then
      { chat.showConnectionStatusMessage "Connection to server lost. Reconnecting..." with
        status := .disconnected }
    else chat
  { shown with
    connected := false
    peerId := none
    sessionId := none
    sessionToken := none
    reportPeerId := none
    peerTyping := false }

def opened (chat : TextChat) : TextChat :=
  { chat with
    connected := true
    showReconnectMessage := false
    status := if chat.status = .disconnected then .idle else chat.status }

def connectFailed (chat : TextChat) : TextChat :=
  { chat with connected := false, status := .disconnected }.showConnectionStatusMessage
    "Failed to connect to server. Please refresh the page."

/-- `startSearch` once the client is connected; a request that cannot be sent ends the search. -/
def startSearch (chat : TextChat) (connects isSent : Bool) : TextChat :=
  { chat.beginNewChatEpoch with
    connected := connects || chat.connected
    messages := []
    showReconnectMessage := false
    reportPeerId := none
    status := if isSent then .searching else .idle }

def stopSearch (chat : TextChat) : TextChat :=
  { chat with status := .idle, sessionId := none, sessionToken := none, reportPeerId := none }

def disconnect (chat : TextChat) (isSent : Bool) : TextChat :=
  if isSent then chat.gone.pushSystemMessage "You have disconnected." none else chat

def skip (chat : TextChat) (rendered : Status) (isSent : Bool) : TextChat :=
  if rendered = .connected ∧ isSent then
    { chat.beginNewChatEpoch with
      peerId := none
      reportPeerId := none
      messages := []
      peerTyping := false
      status := .searching }
  else chat

/-- The message is shown, and sent. -/
def sent (chat : TextChat) (text : String) : TextChat :=
  { chat with
    messages := chat.messages ++ [⟨chat.nextId, text, .me, some .pending, none⟩]
    nextId := chat.nextId + 1
    sendings := chat.sendings ++ [⟨chat.nextId, text, chat.chatEpoch, none⟩] }

def sendMessage (chat : TextChat) (rendered : Status) (text : String) : TextChat :=
  if trim text.toList ≠ [] ∧ rendered = .connected then chat.sent text else chat

/-- What is done with an answer that is heard. -/
def afterAnswer (chat : TextChat) (messageId : ℕ) : Answer → TextChat
  | .resolved payload =>
      if payload.type = some "system" then
        if payload.isBlock then
          (chat.updateDeliveryStatus messageId .blocked).pushSystemMessage
            ((truthy payload.data.message).getD blockedPhraseNotice)
            (some ((truthy payload.data.reasonCode).getD bannedPhraseReason))
        else chat
      else if payload.type = some "error" then
        (chat.updateDeliveryStatus messageId .failed).pushSystemMessage
          ("Message could not be sent: " ++
            (truthy payload.data.message <|> truthy payload.data.error <|>
              truthy payload.data.reason).getD "Message could not be sent. Please try again.") none
      else chat.updateDeliveryStatus messageId .sent
  | .rejected =>
      (chat.updateDeliveryStatus messageId .failed).pushSystemMessage
        "Message could not be sent right now. Please try again." none

/-- The answer to a message is noted. -/
def noteAnswer (chat : TextChat) (k : ℕ) (sending : Sending) (answer : Answer) : TextChat :=
  { chat with
    sendings := chat.sendings.set k { sending with answer := some (answer, chat.chatEpoch) } }

/-- The promise of an answer ends; an answer of another chat is not heard. -/
def answered (chat : TextChat) (k : ℕ) (sending : Sending) (answer : Answer) : TextChat :=
  if chat.chatEpoch = sending.chatEpoch then
    (chat.noteAnswer k sending answer).afterAnswer sending.messageId answer
  else chat.noteAnswer k sending answer

inductive Event
  | receive (message : Message)
  | opens
  | closes
  | connects
  | connectFails
  | startSearch (connects isSent : Bool)
  /-- … when the client cannot connect. -/
  | searchFails
  | stopSearch
  | disconnect (isSent : Bool)
  | skip (rendered : Status) (isSent : Bool)
  | sendMessage (rendered : Status) (text : String)
  /-- A promise ends, once. -/
  | answer (k : ℕ) (answer : Answer)
  | typingTimeout
  | cleanup

/-- **What the client does on an event.** -/
def step (chat : TextChat) : Event → Option TextChat
  | .receive message => some (chat.handleMessage message)
  | .opens => some chat.opened
  | .closes => some chat.closed
  | .connects => some { chat with connected := true, showReconnectMessage := false }
  | .connectFails => some chat.connectFailed
  | .startSearch connects isSent => some (chat.startSearch connects isSent)
  | .searchFails => some { chat with status := .idle }
  | .stopSearch => some chat.stopSearch
  | .disconnect isSent => some (chat.disconnect isSent)
  | .skip rendered isSent => some (chat.skip rendered isSent)
  | .sendMessage rendered text => some (chat.sendMessage rendered text)
  | .answer k answer =>
      (chat.sendings[k]?.filter fun sending => sending.answer.isNone).map fun sending =>
        chat.answered k sending answer
  | .typingTimeout =>
      if chat.peerTypingTimeout then
        some { chat with peerTyping := false, peerTypingTimeout := false }
      else none
  | .cleanup => some chat.cleanup

/-! ### The law -/

/-- The answer to the message is still to come, and its chat is on. -/
def Awaits (chat : TextChat) (message : ChatMessage) : Prop :=
  ∃ sending ∈ chat.sendings, sending.messageId = message.id ∧ sending.answer = none ∧
    sending.chatEpoch = chat.chatEpoch

/-- The same message, perhaps with another status. -/
def Restated (message message' : ChatMessage) : Prop :=
  message' = { message with deliveryStatus := message'.deliveryStatus }

/-- **A message of the user that is on display has the status that its answer gives it**, when the
answer came in the chat of the message, and is pending otherwise; and nothing that is on display
changes later, but the status of a message whose answer is awaited in its chat. -/
def DisplayLaw : Prop :=
  ∀ l s, Run step Always start l s →
    (∀ message ∈ s.messages, message.sender = .me → ∃ sending ∈ s.sendings,
      sending.messageId = message.id ∧ sending.text = message.text ∧
        message.deliveryStatus = some sending.status ∧
        ∀ other ∈ s.sendings, other.messageId = message.id → other = sending) ∧
    ∀ l' t, Run step Always s l' t → ∀ message ∈ s.messages, ∀ message' ∈ t.messages,
      message'.id = message.id → message' = message ∨ s.Awaits message ∧ Restated message message'

/-! ### What a step can do to the messages -/

variable {s t u : TextChat}

/-- **Messages of others are added, perhaps after all have gone.** -/
structure Noted (s t : TextChat) : Prop where
  sendings : t.sendings = s.sendings
  epoch : s.chatEpoch ≤ t.chatEpoch
  nextId : s.nextId ≤ t.nextId
  messages : ∃ kept fresh, t.messages = kept ++ fresh ∧ (kept = s.messages ∨ kept = []) ∧
    (∀ message ∈ fresh, message.sender ≠ .me ∧ s.nextId ≤ message.id ∧ message.id < t.nextId) ∧
    (fresh.map ChatMessage.id).Nodup

theorem Noted.refl (s : TextChat) : Noted s s where
  sendings := rfl
  epoch := le_rfl
  nextId := le_rfl
  messages := ⟨s.messages, [], by simp, .inl rfl, by simp, by simp⟩

/-- What else changes does not matter. -/
theorem Noted.frame (h : Noted s t) (hsendings : u.sendings = t.sendings)
    (hepoch : t.chatEpoch ≤ u.chatEpoch) (hnext : u.nextId = t.nextId)
    (hmessages : u.messages = t.messages) : Noted s u where
  sendings := hsendings.trans h.sendings
  epoch := h.epoch.trans hepoch
  nextId := h.nextId.trans hnext.ge
  messages := by
    rw [hmessages, hnext]
    exact h.messages

theorem Noted.clear (h : Noted s t) (hsendings : u.sendings = t.sendings)
    (hepoch : t.chatEpoch ≤ u.chatEpoch) (hnext : u.nextId = t.nextId)
    (hmessages : u.messages = []) : Noted s u where
  sendings := hsendings.trans h.sendings
  epoch := h.epoch.trans hepoch
  nextId := h.nextId.trans hnext.ge
  messages := ⟨[], [], hmessages, .inr rfl, by simp, by simp⟩

theorem Noted.push (h : Noted s t) {sender : Sender} (hsender : sender ≠ .me) (text : String)
    (systemReason : Option String) : Noted s (t.push text sender systemReason) where
  sendings := h.sendings
  epoch := h.epoch
  nextId := h.nextId.trans (Nat.le_succ _)
  messages := by
    obtain ⟨kept, fresh, hmessages, hkept, hfresh, hnodup⟩ := h.messages
    refine ⟨kept, fresh ++ [⟨t.nextId, text, sender, none, systemReason⟩], ?_, hkept, ?_, ?_⟩
    · simp [TextChat.push, hmessages]
    · intro message hmessage
      rcases List.mem_append.1 hmessage with hold | hnew
      · obtain ⟨hother, hle, hlt⟩ := hfresh message hold
        exact ⟨hother, hle, hlt.trans (Nat.lt_succ_self _)⟩
      · obtain rfl := List.mem_singleton.1 hnew
        exact ⟨hsender, h.nextId, Nat.lt_succ_self _⟩
    · -- the new number is above those that were given before
      rw [List.map_append, List.nodup_append]
      refine ⟨hnodup, by simp, ?_⟩
      intro id hid id' hid'
      obtain ⟨message, hmessage, rfl⟩ := List.mem_map.1 hid
      obtain rfl := List.mem_singleton.1 hid'
      have hlt := (hfresh message hmessage).2.2
      simp only [ne_eq]
      omega

theorem Noted.pushSystemMessage (h : Noted s t) (text : String) (systemReason : Option String) :
    Noted s (t.pushSystemMessage text systemReason) :=
  h.push (by decide) text systemReason

theorem Noted.showConnectionStatusMessage (h : Noted s t) (text : String) :
    Noted s (t.showConnectionStatusMessage text) := by
  unfold TextChat.showConnectionStatusMessage
  split
  · exact h
  · exact (h.pushSystemMessage text none).frame rfl le_rfl rfl rfl

/-- **A message of the server answers nothing.** -/
theorem noted_handleMessage (s : TextChat) (message : Message) :
    Noted s (s.handleMessage message) := by
  have h : Noted s (s.noteSession message) := (Noted.refl s).frame rfl le_rfl rfl rfl
  unfold handleMessage
  generalize s.noteSession message = chat at h
  have hgone : Noted s chat.gone := h.frame rfl (Nat.le_succ _) rfl rfl
  cases message.body with
  | matched peerId commonInterests reportable =>
      simp only [handleBody, matched]
      refine Noted.pushSystemMessage ?_ _ _
      split
      · exact h.clear rfl (Nat.le_succ _) rfl rfl
      · refine Noted.pushSystemMessage ?_ _ _
        exact h.clear rfl (Nat.le_succ _) rfl rfl
  | message content =>
      simp only [handleBody]
      split
      · exact h.push (by decide) _ _
      · exact h
  | system data =>
      simp only [handleBody]
      split
      · exact h.pushSystemMessage _ _
      · exact h
  | disconnected => exact hgone.pushSystemMessage _ _
  | banned reason =>
      refine Noted.pushSystemMessage ?_ _ _
      exact h.frame rfl (Nat.le_succ _) rfl rfl
  | error data =>
      refine Noted.pushSystemMessage ?_ _ _
      split
      · exact h.frame rfl le_rfl rfl rfl
      · exact h
  | timeout => exact hgone.pushSystemMessage _ _
  | stopped => exact h.clear rfl (Nat.le_succ _) rfl rfl
  | typing isTyping =>
      cases isTyping with
      | some isTyping => exact h.frame rfl le_rfl rfl rfl
      | none => exact h
  | other => exact h

theorem noted_closed (s : TextChat) : Noted s s.closed := by
  have h : Noted s (if s.status = .connected ∨ s.status = .searching then
      { s.showConnectionStatusMessage "Connection to server lost. Reconnecting..." with
        status := .disconnected }
      else s) := by
    split
    · exact ((Noted.refl s).showConnectionStatusMessage _).frame rfl le_rfl rfl rfl
    · exact Noted.refl s
  exact h.frame rfl le_rfl rfl rfl

/-! ### Answers -/

/-- The sending with its answer. -/
def Sending.withAnswer (sending : Sending) (answer : Answer) (epoch : ℕ) : Sending :=
  { sending with answer := some (answer, epoch) }

/-- The answer is noted, and its message has the status that it gives. -/
def settled (s : TextChat) (k : ℕ) (sending : Sending) (answer : Answer) : TextChat :=
  { s.noteAnswer k sending answer with
    messages := s.messages.map
      (mark sending.messageId (sending.withAnswer answer s.chatEpoch).status) }

/-- **What is kept of the messages**: they and the sendings are numbered, every message of the user
was sent, and each has the status that its answer gives it. -/
structure Sound (s : TextChat) : Prop where
  ids : (s.messages.map ChatMessage.id).Nodup
  below : ∀ message ∈ s.messages, message.id < s.nextId
  keys : (s.sendings.map Sending.messageId).Nodup
  keysBelow : ∀ sending ∈ s.sendings, sending.messageId < s.nextId
  epochs : ∀ sending ∈ s.sendings, sending.chatEpoch ≤ s.chatEpoch
  told : ∀ message ∈ s.messages, message.sender = .me →
    ∃ sending ∈ s.sendings, sending.messageId = message.id
  own : ∀ message ∈ s.messages, ∀ sending ∈ s.sendings, sending.messageId = message.id →
    sending.text = message.text ∧ message.deliveryStatus = some sending.status

theorem sound_start : Sound start where
  ids := by simp [start]
  below := by simp [start]
  keys := by simp [start]
  keysBelow := by simp [start]
  epochs := by simp [start]
  told := by simp [start]
  own := by simp [start]

@[simp] theorem mark_id (messageId : ℕ) (deliveryStatus : DeliveryStatus) (message : ChatMessage) :
    (mark messageId deliveryStatus message).id = message.id := by
  unfold mark
  split <;> rfl

@[simp] theorem mark_sender (messageId : ℕ) (deliveryStatus : DeliveryStatus)
    (message : ChatMessage) : (mark messageId deliveryStatus message).sender = message.sender := by
  unfold mark
  split <;> rfl

theorem restated_mark (messageId : ℕ) (deliveryStatus : DeliveryStatus) (message : ChatMessage) :
    Restated message (mark messageId deliveryStatus message) := by
  unfold Restated mark
  split <;> rfl

theorem Restated.trans {message message' message'' : ChatMessage} (h : Restated message message')
    (h' : Restated message' message'') : Restated message message'' := by
  unfold Restated at *
  rw [h'] at *
  rw [h]

/-- An answer that says nothing leaves its message pending, as it is. -/
theorem Sound.map_mark_pending (hs : Sound s) {sending : Sending} (hmem : sending ∈ s.sendings)
    (hanswer : sending.answer = none) :
    s.messages.map (mark sending.messageId .pending) = s.messages := by
  refine (List.map_congr_left fun message hmessage => ?_).trans (List.map_id _)
  unfold mark
  split
  next hid =>
    have hstatus := (hs.own message hmessage sending hmem hid.symm).2
    simp only [Sending.status, hanswer] at hstatus
    simp [← hstatus]
  next => rfl

/-- **An answer settles its message, and may be followed by a notice.** -/
theorem Sound.noted_answered (hs : Sound s) {k : ℕ} {sending : Sending} (answer : Answer)
    (hget : s.sendings[k]? = some sending) (hanswer : sending.answer = none) :
    Noted (s.settled k sending answer) (s.answered k sending answer) := by
  -- an answer that is not heard, or says nothing, settles its message as pending
  have hpending := hs.map_mark_pending (List.mem_of_getElem? hget) hanswer
  unfold answered settled Sending.withAnswer Sending.status
  by_cases hepoch : s.chatEpoch = sending.chatEpoch
  · simp only [if_pos hepoch]
    cases answer with
    | rejected => exact (Noted.refl _).pushSystemMessage _ _
    | resolved payload =>
        simp only [afterAnswer, Answer.status]
        split_ifs
        · exact (Noted.refl _).pushSystemMessage _ _
        · rw [hpending]
          exact Noted.refl _
        · exact (Noted.refl _).pushSystemMessage _ _
        · exact Noted.refl _
  · simp only [if_neg hepoch, hpending]
    exact Noted.refl _

/-- **What a step can do to the messages.** -/
theorem Sound.noted_or_sends_or_settles (hs : Sound s) {ev : Event} (h : step s ev = some t) :
    Noted s t ∨ (∃ text, t = s.sent text) ∨
      ∃ k sending answer, s.sendings[k]? = some sending ∧ sending.answer = none ∧
        Noted (s.settled k sending answer) t := by
  have hrefl := Noted.refl s
  cases ev with
  | receive message =>
      obtain rfl := Option.some_inj.1 h
      exact .inl (noted_handleMessage s message)
  | opens | connects | searchFails | stopSearch =>
      obtain rfl := Option.some_inj.1 h
      exact .inl (hrefl.frame rfl le_rfl rfl rfl)
  | closes =>
      obtain rfl := Option.some_inj.1 h
      exact .inl (noted_closed s)
  | connectFails =>
      obtain rfl := Option.some_inj.1 h
      refine .inl (Noted.showConnectionStatusMessage ?_ _)
      exact hrefl.frame rfl le_rfl rfl rfl
  | startSearch connects isSent =>
      obtain rfl := Option.some_inj.1 h
      exact .inl (hrefl.clear rfl (Nat.le_succ _) rfl rfl)
  | disconnect isSent =>
      obtain rfl := Option.some_inj.1 h
      cases isSent with
      | true =>
          refine .inl (Noted.pushSystemMessage (t := s.gone) ?_ _ _)
          exact hrefl.frame rfl (Nat.le_succ _) rfl rfl
      | false => exact .inl hrefl
  | skip rendered isSent =>
      obtain rfl := Option.some_inj.1 h
      unfold skip
      split
      · exact .inl (hrefl.clear rfl (Nat.le_succ _) rfl rfl)
      · exact .inl hrefl
  | sendMessage rendered text =>
      obtain rfl := Option.some_inj.1 h
      unfold sendMessage
      split
      · exact .inr (.inl ⟨text, rfl⟩)
      · exact .inl hrefl
  | answer k answer =>
      obtain ⟨sending, hfilter, rfl⟩ := Option.map_eq_some_iff.1 h
      obtain ⟨hget, hnone⟩ := Option.filter_eq_some_iff.1 hfilter
      have hanswer : sending.answer = none := Option.isNone_iff_eq_none.1 hnone
      exact .inr (.inr ⟨k, sending, answer, hget, hanswer, hs.noted_answered answer hget hanswer⟩)
  | typingTimeout =>
      obtain ⟨-, heq⟩ := Option.ite_none_right_eq_some.1 h
      obtain rfl := Option.some_inj.1 heq
      exact .inl (hrefl.frame rfl le_rfl rfl rfl)
  | cleanup =>
      obtain rfl := Option.some_inj.1 h
      exact .inl (hrefl.clear rfl (Nat.le_succ _) rfl rfl)

/-! ### What each step keeps -/

theorem Sound.noted (hs : Sound s) (h : Noted s t) : Sound t := by
  obtain ⟨kept, fresh, hmessages, hkept, hfresh, hnodup⟩ := h.messages
  have hold : ∀ message ∈ kept, message ∈ s.messages := by
    rcases hkept with rfl | rfl <;> simp
  have hkeptIds : (kept.map ChatMessage.id).Nodup := by
    rcases hkept with rfl | rfl
    · exact hs.ids
    · simp
  have hmem : ∀ message ∈ t.messages, message ∈ s.messages ∨ message ∈ fresh := by
    intro message hmessage
    rw [hmessages] at hmessage
    exact (List.mem_append.1 hmessage).imp (hold message) id
  constructor
  · rw [hmessages, List.map_append, List.nodup_append]
    refine ⟨hkeptIds, hnodup, ?_⟩
    intro id hid id' hid'
    obtain ⟨message, hmessage, rfl⟩ := List.mem_map.1 hid
    obtain ⟨message', hmessage', rfl⟩ := List.mem_map.1 hid'
    have hlt := hs.below message (hold message hmessage)
    have hle := (hfresh message' hmessage').2.1
    omega
  · intro message hmessage
    rcases hmem message hmessage with hmessage | hmessage
    · exact (hs.below message hmessage).trans_le h.nextId
    · exact (hfresh message hmessage).2.2
  · rw [h.sendings]
    exact hs.keys
  · intro sending hsending
    rw [h.sendings] at hsending
    exact (hs.keysBelow sending hsending).trans_le h.nextId
  · intro sending hsending
    rw [h.sendings] at hsending
    exact (hs.epochs sending hsending).trans h.epoch
  · intro message hmessage hsender
    rw [h.sendings]
    rcases hmem message hmessage with hmessage | hmessage
    · exact hs.told message hmessage hsender
    · exact absurd hsender (hfresh message hmessage).1
  · intro message hmessage sending hsending hid
    rw [h.sendings] at hsending
    rcases hmem message hmessage with hmessage | hmessage
    · exact hs.own message hmessage sending hsending hid
    · -- a new message has a number that no sending has
      have hlt := hs.keysBelow sending hsending
      have hle := (hfresh message hmessage).2.1
      omega

theorem Sound.sent (hs : Sound s) (text : String) : Sound (s.sent text) := by
  constructor
  · simp only [TextChat.sent, List.map_append, List.map_cons, List.map_nil, List.nodup_append]
    refine ⟨hs.ids, by simp, ?_⟩
    intro id hid id' hid'
    obtain ⟨message, hmessage, rfl⟩ := List.mem_map.1 hid
    obtain rfl := List.mem_singleton.1 hid'
    exact (hs.below message hmessage).ne
  · intro message hmessage
    rcases List.mem_append.1 hmessage with hold | hnew
    · exact (hs.below message hold).trans (Nat.lt_succ_self _)
    · obtain rfl := List.mem_singleton.1 hnew
      exact Nat.lt_succ_self _
  · simp only [TextChat.sent, List.map_append, List.map_cons, List.map_nil, List.nodup_append]
    refine ⟨hs.keys, by simp, ?_⟩
    intro id hid id' hid'
    obtain ⟨sending, hsending, rfl⟩ := List.mem_map.1 hid
    obtain rfl := List.mem_singleton.1 hid'
    exact (hs.keysBelow sending hsending).ne
  · intro sending hsending
    rcases List.mem_append.1 hsending with hold | hnew
    · exact (hs.keysBelow sending hold).trans (Nat.lt_succ_self _)
    · obtain rfl := List.mem_singleton.1 hnew
      exact Nat.lt_succ_self _
  · intro sending hsending
    rcases List.mem_append.1 hsending with hold | hnew
    · exact hs.epochs sending hold
    · obtain rfl := List.mem_singleton.1 hnew
      exact le_rfl
  · intro message hmessage hsender
    rcases List.mem_append.1 hmessage with hold | hnew
    · obtain ⟨sending, hsending, hid⟩ := hs.told message hold hsender
      exact ⟨sending, List.mem_append_left _ hsending, hid⟩
    · obtain rfl := List.mem_singleton.1 hnew
      exact ⟨_, List.mem_append_right _ (List.mem_singleton_self _), rfl⟩
  · intro message hmessage sending hsending hid
    rcases List.mem_append.1 hmessage with hold | hnew
    · rcases List.mem_append.1 hsending with hsending | hsending
      · exact hs.own message hold sending hsending hid
      · obtain rfl := List.mem_singleton.1 hsending
        exact absurd hid.symm (hs.below message hold).ne
    · obtain rfl := List.mem_singleton.1 hnew
      rcases List.mem_append.1 hsending with hsending | hsending
      · exact absurd hid (hs.keysBelow sending hsending).ne
      · obtain rfl := List.mem_singleton.1 hsending
        exact ⟨rfl, rfl⟩

/-- Two sendings of one message are one. -/
theorem Sound.sending_unique (hs : Sound s) {sending sending' : Sending} (h : sending ∈ s.sendings)
    (h' : sending' ∈ s.sendings) (hid : sending.messageId = sending'.messageId) :
    sending = sending' :=
  List.inj_on_of_nodup_map hs.keys h h' hid

theorem messageIds_noteAnswer {k : ℕ} {sending : Sending} {answer : Answer}
    (hget : s.sendings[k]? = some sending) :
    (s.noteAnswer k sending answer).sendings.map Sending.messageId =
      s.sendings.map Sending.messageId := by
  obtain ⟨hlt, rfl⟩ := List.getElem?_eq_some_iff.1 hget
  refine List.ext_getElem (by simp [noteAnswer]) fun i hi hi' => ?_
  simp only [noteAnswer, List.getElem_map, List.getElem_set]
  split
  next heq =>
    subst heq
    rfl
  next => rfl

/-- A sending after an answer was noted: the one that was answered, or another. -/
theorem mem_noteAnswer {k : ℕ} {sending other : Sending} {answer : Answer}
    (h : other ∈ (s.noteAnswer k sending answer).sendings) :
    other = sending.withAnswer answer s.chatEpoch ∨ other ∈ s.sendings :=
  (List.mem_or_eq_of_mem_set h).symm

theorem Sound.settled (hs : Sound s) {k : ℕ} {sending : Sending} (answer : Answer)
    (hget : s.sendings[k]? = some sending) : Sound (s.settled k sending answer) := by
  have hlt : k < s.sendings.length := (List.getElem?_eq_some_iff.1 hget).1
  have hmem : sending ∈ s.sendings := List.mem_of_getElem? hget
  have hkeys : (((s.settled k sending answer).sendings).map Sending.messageId).Nodup := by
    change ((s.noteAnswer k sending answer).sendings.map Sending.messageId).Nodup
    rw [messageIds_noteAnswer hget]
    exact hs.keys
  have hnew : sending.withAnswer answer s.chatEpoch ∈ (s.settled k sending answer).sendings :=
    List.mem_set hlt _
  constructor
  · simpa [TextChat.settled, Function.comp_def] using hs.ids
  · intro message hmessage
    obtain ⟨message, hold, rfl⟩ := List.mem_map.1 hmessage
    rw [mark_id]
    exact hs.below message hold
  · exact hkeys
  · intro other hother
    rcases mem_noteAnswer hother with rfl | hother
    · exact hs.keysBelow sending hmem
    · exact hs.keysBelow other hother
  · intro other hother
    rcases mem_noteAnswer hother with rfl | hother
    · exact hs.epochs sending hmem
    · exact hs.epochs other hother
  · intro message hmessage hsender
    obtain ⟨message, hold, rfl⟩ := List.mem_map.1 hmessage
    rw [mark_sender] at hsender
    obtain ⟨sending', hsending', hid⟩ := hs.told message hold hsender
    have hids : sending'.messageId ∈
        (s.settled k sending answer).sendings.map Sending.messageId := by
      change _ ∈ (s.noteAnswer k sending answer).sendings.map Sending.messageId
      rw [messageIds_noteAnswer hget]
      exact List.mem_map_of_mem hsending'
    obtain ⟨other, hother, heq⟩ := List.mem_map.1 hids
    exact ⟨other, hother, by rw [heq, hid, mark_id]⟩
  · intro message hmessage other hother hid
    obtain ⟨message, hold, rfl⟩ := List.mem_map.1 hmessage
    rw [mark_id] at hid
    by_cases hone : other.messageId = sending.messageId
    · -- the message that was answered
      obtain rfl : other = sending.withAnswer answer s.chatEpoch :=
        List.inj_on_of_nodup_map hkeys hother hnew hone
      have hthis : message.id = sending.messageId := hid.symm
      refine ⟨?_, ?_⟩
      · have htext := (hs.own message hold sending hmem hid).1
        simpa [mark, if_pos hthis, Sending.withAnswer] using htext
      · simp [mark, if_pos hthis]
    · rcases mem_noteAnswer hother with rfl | hother
      · exact absurd rfl hone
      · have hthis : message.id ≠ sending.messageId := fun heq => hone (hid.trans heq)
        have hown := hs.own message hold other hother hid
        simpa [mark, if_neg hthis] using hown

/-! ### What is on display -/

/-- **What is on display later was there before, as it is or with another status**, unless it is
new; and an answer that has come is not taken back. -/
structure Follows (s t : TextChat) : Prop where
  epoch : s.chatEpoch ≤ t.chatEpoch
  nextId : s.nextId ≤ t.nextId
  sendings : ∀ sending' ∈ t.sendings, sending'.messageId < s.nextId → ∃ sending ∈ s.sendings,
    sending.messageId = sending'.messageId ∧ sending.chatEpoch = sending'.chatEpoch ∧
      (sending'.answer = none → sending.answer = none)
  messages : ∀ message' ∈ t.messages, message'.id < s.nextId → ∃ message ∈ s.messages,
    message.id = message'.id ∧ (message' = message ∨ s.Awaits message ∧ Restated message message')

theorem Follows.refl (s : TextChat) : Follows s s where
  epoch := le_rfl
  nextId := le_rfl
  sendings := fun sending hsending _ => ⟨sending, hsending, rfl, rfl, id⟩
  messages := fun message hmessage _ => ⟨message, hmessage, rfl, .inl rfl⟩

theorem Follows.trans (hs : Sound s) (h : Follows s t) (h' : Follows t u) : Follows s u where
  epoch := h.epoch.trans h'.epoch
  nextId := h.nextId.trans h'.nextId
  sendings := by
    intro sending'' hsending'' hlt
    obtain ⟨sending', hsending', hid', hepoch', hanswer'⟩ :=
      h'.sendings sending'' hsending'' (hlt.trans_le h.nextId)
    obtain ⟨sending, hsending, hid, hepoch, hanswer⟩ := h.sendings sending' hsending' (hid' ▸ hlt)
    exact ⟨sending, hsending, hid.trans hid', hepoch.trans hepoch', hanswer ∘ hanswer'⟩
  messages := by
    intro message'' hmessage'' hlt
    obtain ⟨message', hmessage', hid', hrest'⟩ :=
      h'.messages message'' hmessage'' (hlt.trans_le h.nextId)
    obtain ⟨message, hmessage, hid, hrest⟩ := h.messages message' hmessage' (hid' ▸ hlt)
    refine ⟨message, hmessage, hid.trans hid', ?_⟩
    rcases hrest' with rfl | ⟨⟨sending', hsending', hmessageId, hanswer, hon⟩, hrestated'⟩
    · exact hrest
    · -- the answer was awaited before, and the chat was on, as its number does not go down
      obtain ⟨sending, hsending, hid₀, hepoch₀, hanswer₀⟩ :=
        h.sendings sending' hsending' (hmessageId ▸ hid' ▸ hlt)
      have hle := hs.epochs sending hsending
      have hle' := h.epoch
      have hawaits : s.Awaits message :=
        ⟨sending, hsending, hid₀.trans (hmessageId.trans hid.symm), hanswer₀ hanswer, by omega⟩
      rcases hrest with rfl | ⟨-, hrestated⟩
      · exact .inr ⟨hawaits, hrestated'⟩
      · exact .inr ⟨hawaits, hrestated.trans hrestated'⟩

theorem Follows.noted (h : Noted s t) : Follows s t where
  epoch := h.epoch
  nextId := h.nextId
  sendings := by
    intro sending hsending _
    rw [h.sendings] at hsending
    exact ⟨sending, hsending, rfl, rfl, id⟩
  messages := by
    intro message hmessage hlt
    obtain ⟨kept, fresh, hmessages, hkept, hfresh, -⟩ := h.messages
    rw [hmessages] at hmessage
    rcases List.mem_append.1 hmessage with hold | hnew
    · refine ⟨message, ?_, rfl, .inl rfl⟩
      rcases hkept with rfl | rfl
      · exact hold
      · exact absurd hold List.not_mem_nil
    · exact absurd hlt (hfresh message hnew).2.1.not_gt

theorem Follows.sent (s : TextChat) (text : String) : Follows s (s.sent text) where
  epoch := le_rfl
  nextId := Nat.le_succ _
  sendings := by
    intro sending hsending hlt
    rcases List.mem_append.1 hsending with hold | hnew
    · exact ⟨sending, hold, rfl, rfl, id⟩
    · obtain rfl := List.mem_singleton.1 hnew
      exact absurd hlt (lt_irrefl _)
  messages := by
    intro message hmessage hlt
    rcases List.mem_append.1 hmessage with hold | hnew
    · exact ⟨message, hold, rfl, .inl rfl⟩
    · obtain rfl := List.mem_singleton.1 hnew
      exact absurd hlt (lt_irrefl _)

/-- **An answer changes its message only**, and only when it comes in its chat. -/
theorem Follows.settled (hs : Sound s) {k : ℕ} {sending : Sending} (answer : Answer)
    (hget : s.sendings[k]? = some sending) (hanswer : sending.answer = none) :
    Follows s (s.settled k sending answer) where
  epoch := le_rfl
  nextId := le_rfl
  sendings := by
    intro other hother _
    rcases mem_noteAnswer hother with rfl | hother
    · exact ⟨sending, List.mem_of_getElem? hget, rfl, rfl, fun _ => hanswer⟩
    · exact ⟨other, hother, rfl, rfl, id⟩
  messages := by
    intro message' hmessage' _
    have hmem := List.mem_of_getElem? hget
    by_cases hepoch : s.chatEpoch = sending.chatEpoch
    · obtain ⟨message, hmessage, rfl⟩ := List.mem_map.1 hmessage'
      refine ⟨message, hmessage, (mark_id _ _ _).symm, ?_⟩
      by_cases hid : message.id = sending.messageId
      · exact .inr ⟨⟨sending, hmem, hid.symm, hanswer, hepoch.symm⟩, restated_mark _ _ _⟩
      · exact .inl (if_neg hid)
    · -- an answer of another chat changes nothing on display
      have hstatus : (sending.withAnswer answer s.chatEpoch).status = .pending := if_neg hepoch
      have hmessages : (s.settled k sending answer).messages = s.messages := by
        simp only [TextChat.settled, hstatus, hs.map_mark_pending hmem hanswer]
      rw [hmessages] at hmessage'
      exact ⟨message', hmessage', rfl, .inl rfl⟩

/-- **What each step keeps.** -/
theorem Sound.step (hs : Sound s) {ev : Event} (h : step s ev = some t) : Sound t ∧ Follows s t := by
  rcases hs.noted_or_sends_or_settles h with hnoted | ⟨text, rfl⟩ |
    ⟨k, sending, answer, hget, hanswer, hnoted⟩
  · exact ⟨hs.noted hnoted, .noted hnoted⟩
  · exact ⟨hs.sent text, .sent s text⟩
  · have hsettled := hs.settled answer hget
    exact ⟨hsettled.noted hnoted, (Follows.settled hs answer hget hanswer).trans hs (.noted hnoted)⟩

/-- … and each run. -/
theorem Sound.run (hs : Sound s) {l : List Event} (h : Run TextChat.step Always s l t) :
    Sound t ∧ Follows s t := by
  induction h with
  | refl s => exact ⟨hs, .refl s⟩
  | head _ hstep _ ih =>
      obtain ⟨hnext, hfollows⟩ := hs.step hstep
      obtain ⟨ht, hfollows'⟩ := ih hnext
      exact ⟨ht, hfollows.trans hs hfollows'⟩

/-! ### The law holds -/

/-- **The law of the messages holds.** -/
theorem displayLaw : DisplayLaw := by
  intro l s hrun
  have hs : Sound s := (sound_start.run hrun).1
  refine ⟨fun message hmessage hsender => ?_,
    fun l' t hrun' message hmessage message' hmessage' hid => ?_⟩
  · obtain ⟨sending, hsending, hid⟩ := hs.told message hmessage hsender
    obtain ⟨htext, hstatus⟩ := hs.own message hmessage sending hsending hid
    exact ⟨sending, hsending, hid, htext, hstatus, fun other hother hother' =>
      hs.sending_unique hother hsending (hother'.trans hid.symm)⟩
  · obtain ⟨before, hbefore, hsame, hrest⟩ :=
      (hs.run hrun').2.messages message' hmessage' (hid ▸ hs.below message hmessage)
    obtain rfl : before = message :=
      List.inj_on_of_nodup_map hs.ids hbefore hmessage (hsame.trans hid)
    exact hrest

end TextChat

end Client
