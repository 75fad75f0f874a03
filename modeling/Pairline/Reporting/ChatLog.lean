/-
**The chat log of a report.**

A report comes with a chat log, in JSON.  The server reads its messages, strips their texts of markup,
checks the sizes and writes the messages again; the worker stores what was written in a column of JSON.
Only the texts are stripped: the identifiers of the messages are written as they were read.

The decoder finds the fields of a message under their names in any case, the last one counts, and null
leaves a field as it is.

Main definitions:

* `Reporting.ChatLogMessage`, `Reporting.unmarshalMessages` — the messages, read;
* `Reporting.normalizeChatLog` — **what is stored of a chat log**;
* `Reporting.StorableLog` — it is an array of few and short messages, a database takes it, and it is
  normalised to itself;
* `Reporting.CleanLog` — the chat log is not null, and no identifier holds U+0000.

Main results:

* `Reporting.id_of_unmarshal` — the identifier of a message is the last text under its name;
* `Reporting.normalizeChatLog_stripped` — what was written is normalised to itself;
* `Reporting.storableLog_iff` — **what is accepted can be stored exactly when it is clean**;
* `Reporting.nullLog_accepted` — null is no array, and an identifier with U+0000 cannot be stored.
-/

import Pairline.Admin.Phrases
import Pairline.Documents
import Pairline.Utf8

set_option relaxedAutoImplicit false
set_option autoImplicit false

namespace Reporting

open BannedWords (stripHTML stripHTML_sublist stripHTML_stripHTML kept_of_mem_stripHTML)
open Documents

/-! ### Reading the messages -/

/-- `chatLogMessage`. -/
structure ChatLogMessage where
  id : String
  text : String
  sender : String
  timestamp : ℤ
  deriving DecidableEq

/-- A message none of whose fields is set. -/
def emptyMessage : ChatLogMessage := ⟨"", "", "", 0⟩

/-- A name as the decoder compares it with the name of a field, which is ASCII: beside ASCII letters two
runes fold to one. -/
def foldName (name : String) : String :=
  String.ofList (name.toList.map fun c =>
    if c = 'ſ' then 'S' else if c.toNat = 0x212A then 'K' else c.toUpper)

/-- A text for a field; null leaves it as it is. -/
def stringField (old : String) : Document → Option String
  | .null => some old
  | .string s => some s
  | _ => none

/-- A 64-bit integer for a field; null leaves it as it is. -/
def int64Field (old : ℤ) : Document → Option ℤ
  | .null => some old
  | .integer n => if -2 ^ 63 ≤ n ∧ n < 2 ^ 63 then some n else none
  | _ => none

/-- A member of a message; one with another name is passed over. -/
def setField (message : ChatLogMessage) (e : String × Document) : Option ChatLogMessage :=
  let name := foldName e.1
  if name = "ID" then (stringField message.id e.2).map fun id => { message with id := id }
  else if name = "TEXT" then
    (stringField message.text e.2).map fun text => { message with text := text }
  else if name = "SENDER" then
    (stringField message.sender e.2).map fun sender => { message with sender := sender }
  else if name = "TIMESTAMP" then
    (int64Field message.timestamp e.2).map fun timestamp => { message with timestamp := timestamp }
  else some message

def unmarshalMessage : Document → Option ChatLogMessage
  | .null => some emptyMessage
  | .object members => members.foldlM setField emptyMessage
  | _ => none

/-- `json.Unmarshal` into a slice of messages; null is the slice nil, which is `some none`. -/
def unmarshalMessages : Document → Option (Option (List ChatLogMessage))
  | .null => some none
  | .array values => (values.mapM unmarshalMessage).map some
  | _ => none

def marshalMessage (message : ChatLogMessage) : Document :=
  .object [("id", .string message.id), ("text", .string message.text),
    ("sender", .string message.sender), ("timestamp", .integer message.timestamp)]

/-- `json.Marshal` of a slice of messages. -/
def marshalMessages : Option (List ChatLogMessage) → Document
  | none => .null
  | some messages => .array (messages.map marshalMessage)

/-! ### Checking them -/

def senders : List String := ["me", "peer", "system"]

/-- The message with its text sanitised. -/
def ChatLogMessage.stripped (message : ChatLogMessage) : ChatLogMessage :=
  { message with text := stripHTML message.text }

@[simp] theorem stripped_id (message : ChatLogMessage) : message.stripped.id = message.id := by
  simp only [ChatLogMessage.stripped]

@[simp] theorem stripped_sender (message : ChatLogMessage) :
    message.stripped.sender = message.sender := by
  simp only [ChatLogMessage.stripped]

@[simp] theorem stripped_timestamp (message : ChatLogMessage) :
    message.stripped.timestamp = message.timestamp := by
  simp only [ChatLogMessage.stripped]

/-- One round of the loop over the messages. -/
def sanitizeMessage (message : ChatLogMessage) : Except String ChatLogMessage :=
  if message.text.utf8ByteSize > 2000 then .error "chat_log contains an oversized message"
  else if message.sender ∉ senders then .error "chat_log contains an invalid sender value"
  else .ok message.stripped

/-- The loop: it ends with the first message that is refused. -/
def sanitizeMessages : List ChatLogMessage → Except String (List ChatLogMessage)
  | [] => .ok []
  | message :: messages =>
      match sanitizeMessage message with
      | .error e => .error e
      | .ok sanitized =>
          match sanitizeMessages messages with
          | .error e => .error e
          | .ok rest => .ok (sanitized :: rest)

def totalBytes (messages : List ChatLogMessage) : ℕ :=
  (messages.map fun message => message.text.utf8ByteSize).sum

/-- The checks of the messages, of a slice that may be nil. -/
def checkMessages (messages : Option (List ChatLogMessage)) : Except String Document :=
  if (messages.getD []).length > 50 then .error "chat_log exceeds maximum message count"
  else
    match sanitizeMessages (messages.getD []) with
    | .error e => .error e
    | .ok sanitized =>
        if totalBytes sanitized > 32000 then .error "chat_log exceeds maximum total size"
        else .ok (marshalMessages (messages.map fun _ => sanitized))

/-- **What is stored of a chat log.** -/
def normalizeChatLog : Option Document → Except String Document
  | none => .ok (.array [])
  | some raw =>
      match unmarshalMessages raw with
      | none => .error "chat_log must be a JSON array of chat messages"
      | some messages => checkMessages messages

/-! ### The law -/

/-- **A chat log that can be stored, and stays as it is.** -/
structure StorableLog (out : Document) : Prop where
  array : ∃ messages, out = .array (messages.map marshalMessage) ∧ messages.length ≤ 50 ∧
    (∀ message ∈ messages, message.sender ∈ senders ∧
      '<' ∉ message.text.toList ∧ '>' ∉ message.text.toList) ∧
    totalBytes messages ≤ 32000
  storable : out.storable = true
  stable : normalizeChatLog (some out) = .ok out

/-- The text of a member under the name of a field. -/
def textFor (name : String) (e : String × Document) : Option String :=
  match e.2 with
  | .string s => if foldName e.1 = name then some s else none
  | _ => none

/-- The text that the decoder takes for a field: the last one under its name. -/
def lastText (members : Object) (name : String) : String :=
  ((members.filterMap (textFor name)).getLast?).getD ""

/-- **The chat log is not null, and no identifier holds U+0000.** -/
def CleanLog : Option Document → Prop
  | some .null => False
  | some (.array values) =>
      ∀ members, Document.object members ∈ values → storableText (lastText members "ID") = true
  | _ => True

/-! ### The messages that are read -/

section Messages

variable {message : ChatLogMessage} {messages sanitized : List ChatLogMessage}

/-- The fields of a message that was written are read as they were. -/
theorem unmarshalMessage_marshal (h : -2 ^ 63 ≤ message.timestamp ∧ message.timestamp < 2 ^ 63) :
    unmarshalMessage (marshalMessage message) = some message := by
  have hid : foldName "id" = "ID" := by decide
  have htext : foldName "text" = "TEXT" := by decide
  have hsender : foldName "sender" = "SENDER" := by decide
  have htimestamp : foldName "timestamp" = "TIMESTAMP" := by decide
  simp [unmarshalMessage, marshalMessage, List.foldlM_cons, setField, hid, htext, hsender, htimestamp,
    stringField, int64Field]
  omega

/-- The number of a message that is read fits its field. -/
theorem timestamp_of_setField {message message' : ChatLogMessage} {e : String × Document}
    (hrange : -2 ^ 63 ≤ message.timestamp ∧ message.timestamp < 2 ^ 63)
    (h : setField message e = some message') :
    -2 ^ 63 ≤ message'.timestamp ∧ message'.timestamp < 2 ^ 63 := by
  simp only [setField] at h
  split_ifs at h
  · obtain ⟨id, -, rfl⟩ := Option.map_eq_some_iff.1 h
    exact hrange
  · obtain ⟨text, -, rfl⟩ := Option.map_eq_some_iff.1 h
    exact hrange
  · obtain ⟨sender, -, rfl⟩ := Option.map_eq_some_iff.1 h
    exact hrange
  · obtain ⟨timestamp, htimestamp, rfl⟩ := Option.map_eq_some_iff.1 h
    cases hvalue : e.2 with
    | null =>
        rw [hvalue] at htimestamp
        cases htimestamp
        exact hrange
    | integer n =>
        rw [hvalue, int64Field] at htimestamp
        split_ifs at htimestamp with hfits
        cases htimestamp
        exact hfits
    | _ =>
        rw [hvalue] at htimestamp
        cases htimestamp
  · cases h
    exact hrange

/-- The number of a message that is read fits its field. -/
theorem timestamp_of_unmarshal {value : Document} (h : unmarshalMessage value = some message) :
    -2 ^ 63 ≤ message.timestamp ∧ message.timestamp < 2 ^ 63 := by
  have hfold : ∀ (members : Object) (start : ChatLogMessage),
      -2 ^ 63 ≤ start.timestamp ∧ start.timestamp < 2 ^ 63 →
        members.foldlM setField start = some message →
          -2 ^ 63 ≤ message.timestamp ∧ message.timestamp < 2 ^ 63 := by
    intro members
    induction members with
    | nil =>
        rintro start hstart ⟨⟩
        exact hstart
    | cons e members ih =>
        intro start hstart hmembers
        rw [List.foldlM_cons] at hmembers
        obtain ⟨next, hnext, hrest⟩ := Option.bind_eq_some_iff.1 hmembers
        exact ih next (timestamp_of_setField hstart hnext) hrest
  cases value with
  | null =>
      cases h
      decide
  | object members => exact hfold members emptyMessage (by decide) h
  | _ => cases h

theorem id_of_setField {next : ChatLogMessage} {e : String × Document}
    (h : setField message e = some next) : next.id = (textFor "ID" e).getD message.id := by
  obtain ⟨name, value⟩ := e
  simp only [setField] at h
  by_cases hid : foldName name = "ID"
  · rw [if_pos hid] at h
    obtain ⟨id, hvalue, rfl⟩ := Option.map_eq_some_iff.1 h
    cases value with
    | null =>
        cases hvalue
        rfl
    | string s =>
        cases hvalue
        simp [textFor, hid]
    | _ => cases hvalue
  · have hnone : textFor "ID" (name, value) = none := by
      cases value <;> simp [textFor, hid]
    rw [if_neg hid] at h
    rw [hnone, Option.getD_none]
    split_ifs at h
    · obtain ⟨text, -, rfl⟩ := Option.map_eq_some_iff.1 h
      rfl
    · obtain ⟨sender, -, rfl⟩ := Option.map_eq_some_iff.1 h
      rfl
    · obtain ⟨timestamp, -, rfl⟩ := Option.map_eq_some_iff.1 h
      rfl
    · cases h
      rfl

/-- **The identifier of a message is the last text under its name.** -/
theorem id_of_unmarshal {members : Object}
    (h : unmarshalMessage (.object members) = some message) : message.id = lastText members "ID" := by
  have hfold : ∀ (members : Object) (start : ChatLogMessage),
      members.foldlM setField start = some message →
        message.id = ((members.filterMap (textFor "ID")).getLast?).getD start.id := by
    intro members
    induction members with
    | nil =>
        rintro start ⟨⟩
        rfl
    | cons e members ih =>
        intro start hmembers
        rw [List.foldlM_cons] at hmembers
        obtain ⟨next, hnext, hrest⟩ := Option.bind_eq_some_iff.1 hmembers
        rw [ih next hrest, id_of_setField hnext, List.filterMap_cons]
        cases textFor "ID" e with
        | none => rfl
        | some s => simp [List.getLast?_cons]
  exact hfold members emptyMessage h

/-! ### The messages that are sanitised -/

theorem sanitizeMessage_eq_ok {result : ChatLogMessage} :
    sanitizeMessage message = .ok result ↔
      (message.text.utf8ByteSize ≤ 2000 ∧ message.sender ∈ senders) ∧ result = message.stripped := by
  rw [sanitizeMessage]
  split_ifs with hsize hsender
  · constructor
    · rintro ⟨⟩
    · rintro ⟨⟨hle, -⟩, -⟩
      omega
  · rw [Except.ok.injEq, eq_comm]
    exact (and_iff_right ⟨Nat.le_of_not_gt hsize, hsender⟩).symm
  · constructor
    · rintro ⟨⟩
    · rintro ⟨⟨-, hmem⟩, -⟩
      exact absurd hmem hsender

theorem sanitizeMessages_eq_ok :
    sanitizeMessages messages = .ok sanitized ↔
      (∀ message ∈ messages, message.text.utf8ByteSize ≤ 2000 ∧ message.sender ∈ senders) ∧
        sanitized = messages.map ChatLogMessage.stripped := by
  induction messages generalizing sanitized with
  | nil =>
      rw [sanitizeMessages, Except.ok.injEq, eq_comm]
      simp
  | cons message messages ih =>
      rw [sanitizeMessages, List.forall_mem_cons]
      cases hmessage : sanitizeMessage message with
      | error e =>
          simp only [reduceCtorEq, false_iff]
          rintro ⟨⟨hgood, -⟩, -⟩
          rw [sanitizeMessage_eq_ok.2 ⟨hgood, rfl⟩] at hmessage
          cases hmessage
      | ok result =>
          obtain ⟨hgood, rfl⟩ := sanitizeMessage_eq_ok.1 hmessage
          cases hrest : sanitizeMessages messages with
          | error e =>
              simp only [reduceCtorEq, false_iff]
              rintro ⟨⟨-, hall⟩, -⟩
              rw [ih.2 ⟨hall, rfl⟩] at hrest
              cases hrest
          | ok rest =>
              obtain ⟨hall, rfl⟩ := ih.1 hrest
              simp only [Except.ok.injEq, List.map_cons]
              constructor
              · rintro rfl
                exact ⟨⟨hgood, hall⟩, rfl⟩
              · rintro ⟨-, rfl⟩
                rfl

theorem stripped_stripped (message : ChatLogMessage) :
    message.stripped.stripped = message.stripped := by
  simp only [ChatLogMessage.stripped, stripHTML_stripHTML]

theorem size_stripped_le (message : ChatLogMessage) :
    message.stripped.text.utf8ByteSize ≤ message.text.utf8ByteSize :=
  Utf8.byteSize_le_of_sublist (stripHTML_sublist message.text)

/-- What is sanitised is sanitised to itself. -/
theorem sanitizeMessages_stripped
    (h : ∀ message ∈ messages, message.text.utf8ByteSize ≤ 2000 ∧ message.sender ∈ senders) :
    sanitizeMessages (messages.map ChatLogMessage.stripped) =
      .ok (messages.map ChatLogMessage.stripped) := by
  refine sanitizeMessages_eq_ok.2 ⟨?_, ?_⟩
  · intro result hresult
    obtain ⟨message, hmessage, rfl⟩ := List.mem_map.1 hresult
    obtain ⟨hsize, hsender⟩ := h message hmessage
    have hle := size_stripped_le message
    rw [stripped_sender]
    exact ⟨by omega, hsender⟩
  · rw [List.map_map]
    exact List.map_congr_left fun message _ => (stripped_stripped message).symm

end Messages

/-! ### What is stored -/

section Stored

variable {values : List Document} {messages : List ChatLogMessage} {out : Document}

/-- A text that was stripped holds no bracket and no U+0000. -/
theorem storable_stripHTML (s : String) : storableText (stripHTML s) = true := by
  refine List.all_eq_true.2 fun c hc => decide_eq_true ?_
  rintro rfl
  obtain ⟨-, -, hline | htab | hprint⟩ := kept_of_mem_stripHTML hc
  · exact absurd hline (by decide)
  · exact absurd htab (by decide)
  · exact absurd hprint (by decide)

/-- A message that was sanitised can be stored when its identifier can be. -/
theorem storable_marshalMessage {message : ChatLogMessage} (h : message.sender ∈ senders) :
    (marshalMessage message.stripped).storable = storableText message.id := by
  have hsender : storableText message.sender = true := by
    have hall : ∀ sender ∈ senders, storableText sender = true := by decide
    exact hall _ h
  have hnames : storableText "id" = true ∧ storableText "text" = true ∧
      storableText "sender" = true ∧ storableText "timestamp" = true := by decide
  simp [marshalMessage, Document.storable, Document.storableMembers, ChatLogMessage.stripped,
    storable_stripHTML, hsender, hnames]

theorem storableValues_eq_true :
    Document.storableValues values = true ↔ ∀ value ∈ values, value.storable = true := by
  induction values with
  | nil => simp [Document.storableValues]
  | cons value values ih => simp [Document.storableValues, ih]

/-- The values of a list that was decoded. -/
theorem forall_of_mapM {α β : Type} {f : α → Option β} {l : List α} {result : List β}
    (h : l.mapM f = some result) :
    (∀ b ∈ result, ∃ a ∈ l, f a = some b) ∧ ∀ a ∈ l, ∃ b ∈ result, f a = some b := by
  induction l generalizing result with
  | nil =>
      cases h
      exact ⟨nofun, nofun⟩
  | cons a l ih =>
      rw [List.mapM_cons] at h
      obtain ⟨b, hb, hrest⟩ := Option.bind_eq_some_iff.1 h
      obtain ⟨rest, hmapM, heq⟩ := Option.bind_eq_some_iff.1 hrest
      cases heq
      obtain ⟨hfrom, hto⟩ := ih hmapM
      constructor
      · rintro x (_ | ⟨_, hx⟩)
        · exact ⟨a, List.mem_cons_self, hb⟩
        · obtain ⟨a', ha', hfa'⟩ := hfrom x hx
          exact ⟨a', List.mem_cons_of_mem _ ha', hfa'⟩
      · rintro x (_ | ⟨_, hx⟩)
        · exact ⟨b, List.mem_cons_self, hb⟩
        · obtain ⟨b', hb', hfb'⟩ := hto x hx
          exact ⟨b', List.mem_cons_of_mem _ hb', hfb'⟩

theorem mapM_eq_some_of_forall {α β : Type} {f : α → Option β} {g : β → α} {l : List β}
    (h : ∀ b ∈ l, f (g b) = some b) : (l.map g).mapM f = some l := by
  induction l with
  | nil => rfl
  | cons b l ih =>
      obtain ⟨hb, hl⟩ := List.forall_mem_cons.1 h
      rw [List.map_cons, List.mapM_cons, hb, ih hl]
      rfl

/-- **What is accepted of an array**: few and short messages of the three senders. -/
theorem normalizeChatLog_array (h : normalizeChatLog (some (.array values)) = .ok out) :
    ∃ messages, values.mapM unmarshalMessage = some messages ∧ messages.length ≤ 50 ∧
      (∀ message ∈ messages, message.text.utf8ByteSize ≤ 2000 ∧ message.sender ∈ senders) ∧
      totalBytes (messages.map ChatLogMessage.stripped) ≤ 32000 ∧
      out = .array ((messages.map ChatLogMessage.stripped).map marshalMessage) := by
  rw [normalizeChatLog, unmarshalMessages] at h
  cases hmessages : values.mapM unmarshalMessage with
  | none =>
      rw [hmessages] at h
      cases h
  | some messages =>
      rw [hmessages] at h
      simp only [Option.map_some, checkMessages, Option.getD_some] at h
      split at h
      · cases h
      · next hlength =>
          split at h
          · cases h
          · next sanitized hsanitized =>
              obtain ⟨hgood, rfl⟩ := sanitizeMessages_eq_ok.1 hsanitized
              split at h
              · cases h
              · next htotal =>
                  cases h
                  exact ⟨messages, rfl, Nat.le_of_not_gt hlength, hgood, Nat.le_of_not_gt htotal, rfl⟩

/-- Messages that pass the checks are written as they were sanitised. -/
theorem normalizeChatLog_of_sanitized {raw : Document} {sanitized : List ChatLogMessage}
    (hread : unmarshalMessages raw = some (some messages)) (hlength : messages.length ≤ 50)
    (hsanitized : sanitizeMessages messages = .ok sanitized) (htotal : totalBytes sanitized ≤ 32000) :
    normalizeChatLog (some raw) = .ok (.array (sanitized.map marshalMessage)) := by
  have hshort : ¬messages.length > 50 := by omega
  have hsmall : ¬totalBytes sanitized > 32000 := by omega
  rw [normalizeChatLog, hread]
  simp only [checkMessages, Option.getD_some, if_neg hshort, hsanitized, if_neg hsmall]
  rfl

/-- What was written is normalised to itself. -/
theorem normalizeChatLog_stripped (hmessages : values.mapM unmarshalMessage = some messages)
    (hlength : messages.length ≤ 50)
    (hgood : ∀ message ∈ messages, message.text.utf8ByteSize ≤ 2000 ∧ message.sender ∈ senders)
    (htotal : totalBytes (messages.map ChatLogMessage.stripped) ≤ 32000) :
    normalizeChatLog (some (.array ((messages.map ChatLogMessage.stripped).map marshalMessage))) =
      .ok (.array ((messages.map ChatLogMessage.stripped).map marshalMessage)) := by
  have hread : ((messages.map ChatLogMessage.stripped).map marshalMessage).mapM unmarshalMessage =
      some (messages.map ChatLogMessage.stripped) := by
    refine mapM_eq_some_of_forall fun result hresult => ?_
    obtain ⟨message, hmessage, rfl⟩ := List.mem_map.1 hresult
    obtain ⟨value, -, hvalue⟩ := (forall_of_mapM hmessages).1 message hmessage
    refine unmarshalMessage_marshal ?_
    rw [stripped_timestamp]
    exact timestamp_of_unmarshal hvalue
  refine normalizeChatLog_of_sanitized ?_ ?_ (sanitizeMessages_stripped hgood) htotal
  · rw [unmarshalMessages, hread]
    rfl
  · rwa [List.length_map]

/-- What is written of an array can be stored when it holds no U+0000. -/
theorem storableLog_array_iff (h : normalizeChatLog (some (.array values)) = .ok out) :
    StorableLog out ↔ out.storable = true := by
  obtain ⟨messages, hmessages, hlength, hgood, htotal, rfl⟩ := normalizeChatLog_array h
  refine ⟨StorableLog.storable, fun hstorable => ⟨?_, hstorable, ?_⟩⟩
  · refine ⟨messages.map ChatLogMessage.stripped, rfl, ?_, ?_, htotal⟩
    · rwa [List.length_map]
    · intro result hresult
      obtain ⟨message, hmessage, rfl⟩ := List.mem_map.1 hresult
      have hkept (c : Char) (hc : c ∈ message.stripped.text.toList) := kept_of_mem_stripHTML hc
      rw [stripped_sender]
      exact ⟨(hgood message hmessage).2, fun hc => (hkept _ hc).1 rfl,
        fun hc => (hkept _ hc).2.1 rfl⟩
  · exact normalizeChatLog_stripped hmessages hlength hgood htotal

/-- What is written of an array holds no U+0000 when its identifiers hold none. -/
theorem storable_iff_clean (h : normalizeChatLog (some (.array values)) = .ok out) :
    out.storable = true ↔ CleanLog (some (.array values)) := by
  obtain ⟨messages, hmessages, -, hgood, -, rfl⟩ := normalizeChatLog_array h
  obtain ⟨hfrom, hto⟩ := forall_of_mapM hmessages
  rw [Document.storable, storableValues_eq_true, List.map_map, List.forall_mem_map, CleanLog]
  constructor
  · intro hall members hmembers
    obtain ⟨message, hmessage, hread⟩ := hto _ hmembers
    have hstorable := hall message hmessage
    rw [Function.comp_apply, storable_marshalMessage (hgood message hmessage).2] at hstorable
    rwa [← id_of_unmarshal hread]
  · intro hall message hmessage
    rw [Function.comp_apply, storable_marshalMessage (hgood message hmessage).2]
    obtain ⟨value, hvalue, hread⟩ := hfrom message hmessage
    cases value with
    | object members =>
        rw [id_of_unmarshal hread]
        exact hall members hvalue
    | null =>
        -- a message that is null has no sender
        cases hread
        exact absurd (hgood _ hmessage).2 (by decide)
    | _ => cases hread

end Stored

/-! ### The law holds of clean logs -/

/-- **What is accepted can be stored, and stays as it is, exactly when it is clean.** -/
theorem storableLog_iff {raw : Option Document} {out : Document}
    (h : normalizeChatLog raw = .ok out) : StorableLog out ↔ CleanLog raw := by
  match raw with
  | none =>
      cases h
      refine iff_of_true ⟨⟨[], rfl, ?_⟩, rfl, rfl⟩ trivial
      exact ⟨by decide, nofun, by decide⟩
  | some .null =>
      cases h
      refine iff_of_false ?_ not_false
      rintro ⟨⟨messages, harray, -⟩, -, -⟩
      cases harray
  | some (.array values) => exact (storableLog_array_iff h).trans (storable_iff_clean h)
  | some (.bool _) => cases h
  | some (.integer _) => cases h
  | some (.decimal _) => cases h
  | some (.string _) => cases h
  | some (.object _) => cases h

/-- A greeting in bold. -/
def greeting : Document :=
  .array [.object [("id", .string "1"), ("text", .string "<b>Hello</b>"), ("sender", .string "peer"),
    ("timestamp", .integer 1)]]

/-- What is stored of it. -/
def storedGreeting : Document :=
  .array [marshalMessage ⟨"1", "Hello", "peer", 1⟩]

theorem storableLog_iff_greeting :
    normalizeChatLog (some greeting) = .ok storedGreeting ∧
      (StorableLog storedGreeting ↔ CleanLog (some greeting)) := by
  have hread : unmarshalMessages greeting = some (some [⟨"1", "<b>Hello</b>", "peer", 1⟩]) := by
    decide
  have h : normalizeChatLog (some greeting) = .ok storedGreeting :=
    @normalizeChatLog_of_sanitized _ _ [⟨"1", "Hello", "peer", 1⟩] hread (by decide)
      (by decide) (by decide)
  exact ⟨h, storableLog_iff h⟩

/-- A message whose identifier holds U+0000. -/
def nullIdentifier : Document :=
  .array [.object [("id", .string "\u0000"), ("sender", .string "me")]]

/-- **Null is accepted, and is no array; an identifier with U+0000 is accepted, and cannot be stored.** -/
theorem nullLog_accepted :
    (normalizeChatLog (some .null) = .ok .null ∧ ¬StorableLog .null) ∧
      ∃ out, normalizeChatLog (some nullIdentifier) = .ok out ∧ ¬StorableLog out := by
  refine ⟨⟨rfl, ?_⟩, .array [marshalMessage ⟨"\u0000", "", "me", 0⟩], ?_, ?_⟩
  · rintro ⟨⟨messages, harray, -⟩, -, -⟩
    cases harray
  · have hread : unmarshalMessages nullIdentifier = some (some [⟨"\u0000", "", "me", 0⟩]) := by
      decide
    exact @normalizeChatLog_of_sanitized _ _ [⟨"\u0000", "", "me", 0⟩] hread (by decide)
      (by decide) (by decide)
  · rintro ⟨-, hstorable, -⟩
    exact absurd hstorable (by decide)

end Reporting
