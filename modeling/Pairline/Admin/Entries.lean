/-
**The entries of the streams, and what is written in them.**

An entry is read from a stream with its fields, or without them when it is still pending but was
trimmed off the stream.  The payload of an admin entry is JSON.  Its values end up in log lines and
in commands, where they are converted to text; some values cannot be.

Main definitions:

* `Admin.Json`, `Admin.Json.toText` — values, and their conversion to text;
* `Admin.StreamEntry`, `Admin.field` — entries and their fields;
* `Admin.uuid` — the identifiers that are accepted for sessions;
* `Admin.Reader` — what the consumers take from their runtime.
-/

import Mathlib.Data.String.Basic

set_option relaxedAutoImplicit false
set_option autoImplicit false

namespace Admin

/-! ### Values -/

/-- A decoded JSON value; a float is kept as it is printed. -/
inductive Json
  | null
  | bool (b : Bool)
  | integer (n : ℤ)
  | float (text : String)
  | string (s : String)
  | array (values : List Json)
  | object (members : List (String × Json))

namespace Json

mutual

/-- The text of a list of characters: code points, strings and such lists. -/
def chardata : Json → Option (List Char)
  | .integer n => if 0 ≤ n ∧ n.toNat.isValidChar then some [Char.ofNat n.toNat] else none
  | .string s => some s.toList
  | .array values => chardataList values
  | _ => none

def chardataList : List Json → Option (List Char)
  | [] => some []
  | value :: values => do
      let head ← chardata value
      let tail ← chardataList values
      return head ++ tail

end

/-- `normalize_value` of a command; nothing when it raises, as `to_string` does in a log line.  It raises
for an object, and for an array that is no list of characters. -/
def toText : Json → Option String
  | .null => some "nil"
  | .bool b => some (if b then "true" else "false")
  | .integer n => some (toString n)
  | .float text => some text
  | .string s => some s
  | .array values => (chardataList values).map String.ofList
  | .object _ => none

/-- The value can be converted to text. -/
def printable (value : Json) : Bool := value.toText.isSome

end Json

/-- `Map.get`; of two members with one name the last one counts. -/
def member (data : List (String × Json)) (name : String) : Option Json :=
  data.reverse.lookup name

/-! ### Entries -/

abbrev EntryId := String

/-- An entry as it is read; a trimmed one has no fields. -/
structure StreamEntry where
  id : EntryId
  fields : Option (List String)

/-- The fields in pairs of names and values; an odd one out is dropped. -/
def fieldPairs : List String → List (String × String)
  | name :: value :: fields => (name, value) :: fieldPairs fields
  | _ => []

def field (fields : List String) (name : String) : Option String :=
  (fieldPairs fields).reverse.lookup name

/-! ### Identifiers -/

def isHex (c : Char) : Bool := c.isDigit || ('a' ≤ c && c ≤ 'f') || ('A' ≤ c && c ≤ 'F')

/-- Groups of hexadecimal digits with hyphens between them. -/
def hexGroups : List ℕ → List Char → Bool
  | [], cs => cs.isEmpty
  | [n], cs => cs.length = n && cs.all isHex
  | n :: groups, cs =>
      (cs.take n).length = n && (cs.take n).all isHex && (cs.drop n).head? = some '-' &&
        hexGroups groups (cs.drop (n + 1))

/-- `uuid?`; the end of the pattern also matches before a last line feed. -/
def uuid (s : String) : Bool :=
  hexGroups [8, 4, 4, 4, 12] s.toList ||
    (s.toList.getLast? = some '\n' && hexGroups [8, 4, 4, 4, 12] s.toList.dropLast)

/-- What the consumers take from their runtime: the JSON decoder and the parser of addresses. -/
structure Reader where
  decode : String → Option Json
  validIp : String → Bool

/-- The members of the payload of an entry, when it is an object with an action. -/
def payload (reader : Reader) (fields : List String) : Option (Json × List (String × Json)) :=
  match (field fields "payload").bind reader.decode with
  | some (.object data) => (member data "action").map fun action => (action, data)
  | _ => none

/-- The session that an action is about. -/
def sessionTarget (data : List (String × Json)) : Option String :=
  match member data "session_id" with
  | some (.string sid) => if uuid sid then some sid else none
  | _ => none

def ipTarget (reader : Reader) (data : List (String × Json)) : Option String :=
  match member data "ip" with
  | some (.string ip) => if reader.validIp ip then some ip else none
  | _ => none

def reasonOf (data : List (String × Json)) : Json :=
  (member data "reason").getD (.string "admin action")

end Admin
