/-
**JSON documents, and what a decoder makes of them.**

A document is a tree; a number keeps how it is written, as an integer or as a decimal.  A decoder that
is not told what to expect makes every number a double and every object a map, where the last of two
members with one name counts; it fails when a number is out of range.  The encoder writes the members
of a map in order.

Main definitions:

* `Documents.Document`, `Documents.Value` — documents and decoded values;
* `Documents.unmarshal`, `Documents.marshal` — the decoder and the encoder;
* `Documents.Document.storable` — no string holds the character that a database refuses.

Main results:

* `Documents.readNumber_printNumber` — a double that is written is read as it was;
* `Documents.get_unmarshalObject` — **a member of a decoded map**;
* `Documents.unmarshalObject_congr` — objects that list the same values of each name are decoded alike.
-/

import Pairline.Doubles
import Pairline.Members
import Mathlib.Data.String.Basic

set_option relaxedAutoImplicit false
set_option autoImplicit false

namespace Documents

open Doubles (nearest shortest Decimal)
open Members (get sorted listed)

/-! ### Documents -/

/-- A JSON document. -/
inductive Document
  | null
  | bool (b : Bool)
  | integer (n : ℤ)
  | decimal (d : Decimal)
  | string (s : String)
  | array (values : List Document)
  | object (members : List (String × Document))

/-- The members of an object. -/
abbrev Object := List (String × Document)

/-- A text that a database takes. -/
def storableText (s : String) : Bool := s.toList.all fun c => c ≠ '\u0000'

namespace Document

mutual

/-- **No string of the document holds U+0000.** -/
def storable : Document → Bool
  | null => true
  | bool _ => true
  | integer _ => true
  | decimal _ => true
  | string s => storableText s
  | array values => storableValues values
  | object members => storableMembers members

def storableValues : List Document → Bool
  | [] => true
  | value :: values => storable value && storableValues values

def storableMembers : Object → Bool
  | [] => true
  | (name, value) :: members => storableText name && storable value && storableMembers members

end

end Document

/-! ### Numbers -/

/-- A number as a double; none when it is out of range, or no number. -/
def readNumber : Document → Option ℚ
  | .integer n => nearest n
  | .decimal d => nearest d.value
  | _ => none

/-- How a double is written.  Up to 53 binary digits an integer is written as it is. -/
def printNumber (q : ℚ) : Document :=
  if q.den = 1 ∧ |q.num| ≤ 2 ^ 53 then .integer q.num
  else if q.den = 1 ∧ |q| < 10 ^ 21 then .integer (shortest q).value.num
  else .decimal (shortest q)

theorem printNumber_intCast {n : ℤ} (h : |n| ≤ 2 ^ 53) : printNumber n = .integer n := by
  rw [printNumber, if_pos ⟨Rat.den_intCast n, by rwa [Rat.num_intCast]⟩, Rat.num_intCast]

/-- A double is written as an integer of its own value, or as a decimal. -/
theorem printNumber_cases {q : ℚ} (h : |q| ≤ 2 ^ 53) :
    printNumber q = .integer q.num ∧ q = q.num ∨ printNumber q = .decimal (shortest q) := by
  by_cases hden : q.den = 1
  · have hq : q = q.num := (Rat.den_eq_one_iff q).1 hden |>.symm
    have hnum : |q.num| ≤ 2 ^ 53 := by
      rw [hq, ← Int.cast_abs] at h
      exact_mod_cast h
    exact .inl ⟨if_pos ⟨hden, hnum⟩, hq⟩
  · right
    rw [printNumber, if_neg fun h => hden h.1, if_neg fun h => hden h.1]

/-- **A double that is written is read as it was.** -/
theorem readNumber_printNumber {q r : ℚ} (h : nearest q = some r) (hr : |r| ≤ 2 ^ 53) :
    readNumber (printNumber r) = some r := by
  rcases printNumber_cases hr with ⟨hprint, hint⟩ | hprint
  · rw [hprint, readNumber, ← hint]
    exact Doubles.nearest_nearest h
  · rw [hprint, readNumber]
    exact Doubles.nearest_shortest h

/-! ### Decoding -/

/-- What the decoder makes of a document. -/
inductive Value
  | nil
  | bool (b : Bool)
  | float64 (q : ℚ)
  | string (s : String)
  | slice (values : List Value)
  | map (members : List (String × Value))

mutual

/-- **`json.Unmarshal` into a value of any type.** -/
def unmarshal : Document → Option Value
  | .null => some .nil
  | .bool b => some (.bool b)
  | .integer n => (nearest n).map .float64
  | .decimal d => (nearest d.value).map .float64
  | .string s => some (.string s)
  | .array values => (unmarshalValues values).map .slice
  | .object members => (unmarshalMembers members).map fun decoded => .map (sorted decoded)

def unmarshalValues : List Document → Option (List Value)
  | [] => some []
  | value :: values =>
      (unmarshal value).bind fun v => (unmarshalValues values).map fun vs => v :: vs

def unmarshalMembers : Object → Option (List (String × Value))
  | [] => some []
  | (name, value) :: members =>
      (unmarshal value).bind fun v => (unmarshalMembers members).map fun ms => (name, v) :: ms

end

/-- `json.Unmarshal` into a map. -/
def unmarshalObject : Document → Option (List (String × Value))
  | .object members => (unmarshalMembers members).map sorted
  | _ => none

mutual

/-- **`json.Marshal`** of a decoded value. -/
def marshal : Value → Document
  | .nil => .null
  | .bool b => .bool b
  | .float64 q => printNumber q
  | .string s => .string s
  | .slice values => .array (marshalValues values)
  | .map members => .object (marshalMembers members)

def marshalValues : List Value → List Document
  | [] => []
  | value :: values => marshal value :: marshalValues values

def marshalMembers : List (String × Value) → Object
  | [] => []
  | (name, value) :: members => (name, marshal value) :: marshalMembers members

end

/-- A decoded number is a double. -/
theorem nearest_of_unmarshal {raw : Document} {q : ℚ} (h : unmarshal raw = some (.float64 q)) :
    ∃ x, nearest x = some q := by
  cases raw with
  | integer n =>
      obtain ⟨r, hr, heq⟩ := Option.map_eq_some_iff.1 h
      cases heq
      exact ⟨n, hr⟩
  | decimal d =>
      obtain ⟨r, hr, heq⟩ := Option.map_eq_some_iff.1 h
      cases heq
      exact ⟨d.value, hr⟩
  | array values =>
      obtain ⟨_, -, heq⟩ := Option.map_eq_some_iff.1 h
      cases heq
  | object members =>
      obtain ⟨_, -, heq⟩ := Option.map_eq_some_iff.1 h
      cases heq
  | _ => cases h

/-- A number is decoded as the double that it is read as. -/
theorem unmarshal_of_readNumber {value : Document} {q : ℚ} (h : readNumber value = some q) :
    unmarshal value = some (.float64 q) := by
  cases value with
  | integer n =>
      rw [readNumber] at h
      rw [unmarshal, h]
      rfl
  | decimal d =>
      rw [readNumber] at h
      rw [unmarshal, h]
      rfl
  | _ => cases h

/-- A double that is written is decoded as it was. -/
theorem unmarshal_printNumber {q r : ℚ} (h : nearest q = some r) (hr : |r| ≤ 2 ^ 53) :
    unmarshal (printNumber r) = some (.float64 r) :=
  unmarshal_of_readNumber (readNumber_printNumber h hr)

/-! ### The members of a decoded object -/

section Objects

variable {members members' : Object} {decoded decoded' : List (String × Value)}

/-- An object is decoded when all its values are. -/
theorem isSome_unmarshalMembers :
    (unmarshalMembers members).isSome = true ↔ ∀ e ∈ members, (unmarshal e.2).isSome = true := by
  induction members with
  | nil => simp [unmarshalMembers]
  | cons e members ih =>
      obtain ⟨name, value⟩ := e
      rw [unmarshalMembers, List.forall_mem_cons, ← ih]
      cases unmarshal value <;> simp

/-- The values of a name are decoded one by one. -/
theorem mapM_listed (h : unmarshalMembers members = some decoded) (k : String) :
    (listed members k).mapM unmarshal = some (listed decoded k) := by
  induction members generalizing decoded with
  | nil =>
      cases h
      rfl
  | cons e members ih =>
      obtain ⟨name, value⟩ := e
      obtain ⟨v, hvalue, hrest⟩ := Option.bind_eq_some_iff.1 h
      obtain ⟨rest, hdecoded, rfl⟩ := Option.map_eq_some_iff.1 hrest
      have hlisted := ih hdecoded
      by_cases hname : name = k
      · have hcons : listed ((name, value) :: members) k = value :: listed members k := by
          simp [listed, hname]
        have hcons' : listed ((name, v) :: rest) k = v :: listed rest k := by simp [listed, hname]
        rw [hcons, hcons', List.mapM_cons, hvalue, hlisted]
        rfl
      · have hcons : listed ((name, value) :: members) k = listed members k := by
          simp [listed, hname]
        have hcons' : listed ((name, v) :: rest) k = listed rest k := by simp [listed, hname]
        rw [hcons, hcons', hlisted]

/-- **A member of a decoded object.** -/
theorem get_unmarshalMembers (h : unmarshalMembers members = some decoded) (k : String) :
    get decoded k = (get members k).bind unmarshal := by
  induction members generalizing decoded with
  | nil =>
      cases h
      rfl
  | cons e members ih =>
      obtain ⟨name, value⟩ := e
      obtain ⟨v, hvalue, hrest⟩ := Option.bind_eq_some_iff.1 h
      obtain ⟨rest, hdecoded, rfl⟩ := Option.map_eq_some_iff.1 hrest
      by_cases hname : k = name
      · subst hname
        rw [Members.get_cons_self, Members.get_cons_self, ih hdecoded]
        cases hget : get members k with
        | none => exact hvalue.symm
        | some last =>
            -- the last value that is listed counts, and it is decoded
            have hsome : (unmarshal last).isSome = true :=
              isSome_unmarshalMembers.1 (by rw [hdecoded]; rfl) _ (Members.mem_of_get hget)
            obtain ⟨w, hw⟩ := Option.isSome_iff_exists.1 hsome
            simp [hw]
      · rw [Members.get_cons_of_ne hname, Members.get_cons_of_ne hname, ih hdecoded]

theorem get_unmarshalObject (h : unmarshalObject (.object members) = some decoded) (k : String) :
    get decoded k = (get members k).bind unmarshal := by
  obtain ⟨ms, hms, rfl⟩ := Option.map_eq_some_iff.1 h
  rw [Members.get_sorted, get_unmarshalMembers hms]

/-- The values that are listed of a name settle what it is decoded to. -/
theorem get_unmarshalObject_congr (h : unmarshalObject (.object members) = some decoded)
    (h' : unmarshalObject (.object members') = some decoded') {k : String}
    (hlisted : listed members k = listed members' k) : get decoded k = get decoded' k := by
  rw [get_unmarshalObject h, get_unmarshalObject h', Members.get_eq_getLast_listed,
    Members.get_eq_getLast_listed, hlisted]

theorem increasing_unmarshalObject {raw : Document} (h : unmarshalObject raw = some decoded) :
    Members.Increasing decoded := by
  cases raw with
  | object members =>
      obtain ⟨ms, -, rfl⟩ := Option.map_eq_some_iff.1 h
      exact Members.increasing_sorted ms
  | _ => cases h

end Objects

end Documents
