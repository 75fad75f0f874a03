/-
**What the two kinds of bot workers share.**

A worker reads its partner's messages, sends typing signals and messages of its own, and sends no
more messages than the limit of its definition.

Main definitions:

* `Bots.messageLimit` — the limit of a definition, or a default;
* `Bots.MessageData`, `Bots.Outgoing` — what a worker receives and sends;
* `Bots.delivered` — the messages among what a worker has sent.
-/

import Pairline.Bots.Slots

set_option relaxedAutoImplicit false
set_option autoImplicit false

namespace Bots

/-- `max_messages`: the limit of a definition if it is a positive integer, else a default. -/
def messageLimit (limit : Option Json) (default : ℕ) : ℕ :=
  match limit.getD (.integer default) with
  | .integer n => if n > 0 then n.toNat else default
  | _ => default

theorem messageLimit_pos (limit : Option Json) {default : ℕ} (h : 0 < default) :
    0 < messageLimit limit default := by
  unfold messageLimit
  split
  · split <;> omega
  · exact h

/-- The content of a message, under either of two keys. -/
structure MessageData where
  atomContent : Option String
  stringContent : Option String
  deriving DecidableEq

def MessageData.content (data : MessageData) : String :=
  data.atomContent.getD (data.stringContent.getD "")

/-- What a worker sends to its partner. -/
inductive Outgoing
  | message (recipient : String) (generation : Option String) (content : String)
  | typing (recipient : String) (generation : Option String) (typing : Bool)
  deriving DecidableEq

def Outgoing.content : Outgoing → Option String
  | .message _ _ content => some content
  | .typing _ _ _ => none

/-- The messages among what a worker has sent. -/
def delivered (outbox : List Outgoing) : List String := outbox.filterMap Outgoing.content

@[simp] theorem delivered_message (outbox : List Outgoing) (recipient : String)
    (generation : Option String) (content : String) :
    delivered (outbox ++ [.message recipient generation content]) =
      delivered outbox ++ [content] := by
  simp [delivered, Outgoing.content]

@[simp] theorem delivered_typing (outbox : List Outgoing) (recipient : String)
    (generation : Option String) (typing : Bool) :
    delivered (outbox ++ [.typing recipient generation typing]) = delivered outbox := by
  simp [delivered, Outgoing.content]

end Bots
