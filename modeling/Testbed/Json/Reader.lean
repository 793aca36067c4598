/-
This file reads JSON text straight into values of a given form. A reader takes the front of a text
and leaves the rest, so that the first problem in the order of the text decides how reading fails.
Arrays and objects nest to a fixed depth. A record is read from an object, whose unknown members
are passed over, or from an array of all its fields in order.
-/

import Testbed.Json.Scan

namespace Testbed.Json

/-- The greatest depth to which arrays and objects nest. -/
def greatestDepth : Nat := 127

/-- Reads the front of a text in which arrays and objects may nest to a depth. -/
abbrev Reader (Value : Type) := (depth : Nat) → List Char → Front Value

variable {Value First Second : Type}

/-! ### Values of a wrong form -/

/-- The fault of a value of a wrong form: a mismatch, unless the value breaks off or is no value. -/
def mismatchAt : List Char → Fault
  | [] => .ended
  | 'n' :: rest => match word ['u', 'l', 'l'] rest with
    | .ok _ => .mismatched
    | .error fault => fault
  | 't' :: rest => match word ['r', 'u', 'e'] rest with
    | .ok _ => .mismatched
    | .error fault => fault
  | 'f' :: rest => match word ['a', 'l', 's', 'e'] rest with
    | .ok _ => .mismatched
    | .error fault => fault
  | '"' :: rest => match stringBody rest with
    | .ok _ => .mismatched
    | .error fault => fault
  | '-' :: rest => match numberBody true rest with
    | .ok _ => .mismatched
    | .error fault => fault
  | '[' :: _ => .mismatched
  | '\x7b' :: _ => .mismatched
  | next :: rest =>
    if isDigit next then
      match numberBody false (next :: rest) with
      | .ok _ => .mismatched
      | .error fault => fault
    else .malformed

/-! ### Plain values -/

/-- What a reader makes of its value, where it refuses values with a mismatch. -/
def refine (convert : First → Option Second) (front : Front First) : Front Second :=
  match front with
  | .error fault => .error fault
  | .ok (value, rest) =>
    match convert value with
    | some converted => .ok (converted, rest)
    | none => .error .mismatched

/-- Reads a string. -/
def readString : Reader String := fun _ text =>
  match skipSpace text with
  | '"' :: rest => (stringBody rest).map fun (characters, rest) => (String.ofList characters, rest)
  | other => .error (mismatchAt other)

/-- Reads a truth value. -/
def readBool : Reader Bool := fun _ text =>
  match skipSpace text with
  | 't' :: rest => (word ['r', 'u', 'e'] rest).map fun rest => (true, rest)
  | 'f' :: rest => (word ['a', 'l', 's', 'e'] rest).map fun rest => (false, rest)
  | other => .error (mismatchAt other)

/-- Reads a number. -/
def readNumber : Reader Number := fun _ text =>
  match skipSpace text with
  | [] => .error .ended
  | '-' :: rest => numberBody true rest
  | next :: rest =>
    if isDigit next then numberBody false (next :: rest) else .error (mismatchAt (next :: rest))

/-- Reads a number as a double. -/
def readDouble : Reader Float := fun depth text =>
  (readNumber depth text).map fun (value, rest) => (value.toDouble, rest)

/-- Reads a signed integer of 64 bits. -/
def readInt64 : Reader Int64 := fun depth text =>
  refine Number.toInt64? (readNumber depth text)

/-- Reads a natural number of 16 bits. -/
def readUInt16 : Reader UInt16 := fun depth text =>
  refine (fun read => read.toInt?.bind fun value =>
    if 0 ≤ value ∧ value < 0x10000 then some (UInt16.ofNat value.toNat) else none)
    (readNumber depth text)

/-- Reads a value, or null for none. -/
def readOption (read : Reader Value) : Reader (Option Value) := fun depth text =>
  match skipSpace text with
  | 'n' :: rest => (word ['u', 'l', 'l'] rest).map fun rest => (none, rest)
  | other => (read depth other).map fun (value, rest) => (some value, rest)

/-! ### Arrays -/

/-- Goes to the next element of an array; none at its closing bracket. -/
def nextElement (isFirst : Bool) (text : List Char) : Except Fault (Option (List Char)) :=
  match skipSpace text with
  | [] => .error .ended
  | ']' :: _ => .ok none
  | next :: rest =>
    if isFirst then .ok (some (next :: rest))
    else if next = ',' then
      match skipSpace rest with
      | [] => .error .ended
      | ']' :: _ => .error .malformed
      | element => .ok (some element)
    else .error .malformed

/-- Leaves an array whose elements were read. -/
def closeArray (text : List Char) : Except Fault (List Char) :=
  match skipSpace text with
  | [] => .error .ended
  | ']' :: rest => .ok rest
  | _ => .error .malformed

/-- Reads what an array holds, behind its opening bracket, and leaves the array. -/
def inArray (read : List Char → Front Value) (text : List Char) : Front Value :=
  match read text with
  | .error fault => .error fault
  | .ok (value, rest) => (closeArray rest).map fun rest => (value, rest)

/-- Reads the elements of an array up to its closing bracket. Every element takes a character at
least, so the text gets shorter with each. -/
def elementsFrom (read : List Char → Front Value) (isFirst : Bool) (text : List Char) :
    Front (List Value) :=
  match nextElement isFirst text with
  | .error fault => .error fault
  | .ok none => .ok ([], text)
  | .ok (some element) =>
    match read element with
    | .error fault => .error fault
    | .ok (value, rest) =>
      if rest.length < text.length then
        (elementsFrom read false rest).map fun (values, rest) => (value :: values, rest)
      else .error .malformed
termination_by text.length

/-- Reads an array of any number of elements. -/
def readList (read : Reader Value) : Reader (List Value) := fun depth text =>
  match skipSpace text, depth with
  | '[' :: _, 0 => .error .malformed
  | '[' :: rest, deeper + 1 => inArray (elementsFrom (read deeper) true) rest
  | other, _ => .error (mismatchAt other)

/-- Reads one of a fixed number of elements; an array that ends before is a mismatch. -/
def readElement (read : List Char → Front Value) (isFirst : Bool) (text : List Char) :
    Front Value :=
  match nextElement isFirst text with
  | .error fault => .error fault
  | .ok none => .error .mismatched
  | .ok (some element) => read element

/-- Reads an array of two elements. -/
def readPair (readFirst : Reader First) (readSecond : Reader Second) : Reader (First × Second) :=
  fun depth text =>
    match skipSpace text, depth with
    | '[' :: _, 0 => .error .malformed
    | '[' :: rest, deeper + 1 =>
      inArray (fun text =>
        match readElement (readFirst deeper) true text with
        | .error fault => .error fault
        | .ok (first, rest) =>
          (readElement (readSecond deeper) false rest).map fun (second, rest) =>
            ((first, second), rest)) rest
    | other, _ => .error (mismatchAt other)

/-! ### Objects -/

/-- Reads the next key of an object, behind which a colon is to come; none at the closing brace. -/
def nextKey (isFirst : Bool) (text : List Char) : Except Fault (Option (String × List Char)) :=
  let keyAt (text : List Char) : Except Fault (Option (String × List Char)) :=
    match text with
    | '"' :: rest => (stringBody rest).map fun (characters, rest) =>
      some (String.ofList characters, rest)
    | _ => .error .malformed
  match skipSpace text with
  | [] => .error .ended
  | '\x7d' :: _ => .ok none
  | next :: rest =>
    if isFirst then keyAt (next :: rest)
    else if next = ',' then
      match skipSpace rest with
      | [] => .error .ended
      | key => keyAt key
    else .error .malformed

/-- Passes over the colon behind a key. -/
def skipColon (text : List Char) : Except Fault (List Char) :=
  match skipSpace text with
  | [] => .error .ended
  | ':' :: rest => .ok rest
  | _ => .error .malformed

/-- Reads the value of a member behind its key. -/
def memberValue (read : List Char → Front Value) (text : List Char) : Front Value :=
  match skipColon text with
  | .error fault => .error fault
  | .ok rest => read rest

/-- Leaves an object at its closing brace. -/
def closeObject (text : List Char) : Except Fault (List Char) :=
  match skipSpace text with
  | '\x7d' :: rest => .ok rest
  | [] => .error .ended
  | _ => .error .malformed

/-- Reads the members of an object up to its closing brace, in the order of the text. -/
def membersFrom (read : List Char → Front Value) (isFirst : Bool) (text : List Char) :
    Front (List (String × Value)) :=
  match nextKey isFirst text with
  | .error fault => .error fault
  | .ok none => .ok ([], text)
  | .ok (some (key, afterKey)) =>
    match memberValue read afterKey with
    | .error fault => .error fault
    | .ok (value, rest) =>
      if rest.length < text.length then
        (membersFrom read false rest).map fun (members, rest) => ((key, value) :: members, rest)
      else .error .malformed
termination_by text.length

/-- Reads what an object holds, behind its opening brace, and leaves the object. -/
def inObject (read : List Char → Front Value) (text : List Char) : Front Value :=
  match read text with
  | .error fault => .error fault
  | .ok (value, rest) => (closeObject rest).map fun rest => (value, rest)

/-- Reads an object whose values are all of one form. Of members with one key the last counts. -/
def readMap (read : Reader Value) : Reader (List (String × Value)) := fun depth text =>
  match skipSpace text, depth with
  | '\x7b' :: _, 0 => .error .malformed
  | '\x7b' :: rest, deeper + 1 =>
    (inObject (membersFrom (read deeper) true) rest).map fun (members, rest) =>
      (Sorted.putAll members [], rest)
  | other, _ => .error (mismatchAt other)

/-! ### Values of any form -/

/-- Reads a value that is neither an array nor an object. -/
def readScalar (text : List Char) : Front Json :=
  match text with
  | [] => .error .ended
  | 'n' :: rest => (word ['u', 'l', 'l'] rest).map fun rest => (null, rest)
  | 't' :: rest => (word ['r', 'u', 'e'] rest).map fun rest => (bool true, rest)
  | 'f' :: rest => (word ['a', 'l', 's', 'e'] rest).map fun rest => (bool false, rest)
  | '"' :: rest => (stringBody rest).map fun (characters, rest) =>
    (string (String.ofList characters), rest)
  | '-' :: rest => (numberBody true rest).map fun (value, rest) => (number value, rest)
  | next :: rest =>
    if isDigit next then
      (numberBody false (next :: rest)).map fun (value, rest) => (number value, rest)
    else .error .malformed

/-- Reads a value of any form. -/
def readValue : Reader Json
  | 0, text =>
    match skipSpace text with
    | '[' :: _ => .error .malformed
    | '\x7b' :: _ => .error .malformed
    | other => readScalar other
  | deeper + 1, text =>
    match skipSpace text with
    | '[' :: rest =>
      (inArray (elementsFrom (readValue deeper) true) rest).map fun (elements, rest) =>
        (array elements, rest)
    | '\x7b' :: rest =>
      (inObject (membersFrom (readValue deeper) true) rest).map fun (members, rest) =>
        (ofMembers members, rest)
    | other => readScalar other

/-! ### Values that are passed over -/

/-- A bracket that is open around the value passed over. -/
inductive Bracket where
  | array
  | object
  deriving DecidableEq

/-- What passing over a step of a value leads to. -/
inductive Skipped where
  /-- A value was complete. -/
  | complete (rest : List Char)
  /-- A bracket was opened. -/
  | opened (bracket : Bracket) (rest : List Char)

/-- Passes over a plain value or an opening bracket. -/
def skipStart (text : List Char) : Except Fault Skipped :=
  match skipSpace text with
  | [] => .error .ended
  | 'n' :: rest => (word ['u', 'l', 'l'] rest).map .complete
  | 't' :: rest => (word ['r', 'u', 'e'] rest).map .complete
  | 'f' :: rest => (word ['a', 'l', 's', 'e'] rest).map .complete
  | '"' :: rest => (skipString rest).map .complete
  | '-' :: rest => (skipNumber rest).map .complete
  | '[' :: rest => .ok (.opened .array rest)
  | '\x7b' :: rest => .ok (.opened .object rest)
  | next :: rest =>
    if isDigit next then (skipNumber (next :: rest)).map .complete else .error .malformed

/-- Closes the brackets that end here. Gives the brackets still open, or none when the value is
complete, and the text behind the comma that was passed. -/
def skipClosings : (afterValue : Bool) → List Bracket → List Char →
    Except Fault (List Bracket × List Char)
  | _, [], text => .ok ([], text)
  | afterValue, bracket :: outer, text =>
    match skipSpace text with
    | [] => .error .ended
    | next :: rest =>
      if next = ',' ∧ afterValue = true then .ok (bracket :: outer, rest)
      else if (next = ']' ∧ bracket = .array) ∨ (next = '\x7d' ∧ bracket = .object) then
        skipClosings true outer rest
      else if afterValue then .error .malformed
      else .ok (bracket :: outer, next :: rest)

/-- Passes over a key with its colon. -/
def skipKey (text : List Char) : Except Fault (List Char) :=
  match skipSpace text with
  | [] => .error .ended
  | '"' :: rest => match skipString rest with
    | .error fault => .error fault
    | .ok rest => skipColon rest
  | _ => .error .malformed

/-- Passes over the key that stands before a value inside an object. -/
def skipLead : Bracket → List Char → Except Fault (List Char)
  | .array, text => .ok text
  | .object, text => skipKey text

/-- Passes over the rest of a value inside the open brackets, innermost first. Every step takes a
character at least. Depth is not bounded here. -/
def skipWithin (brackets : List Bracket) (text : List Char) : Except Fault (List Char) :=
  match skipStart text with
  | .error fault => .error fault
  | .ok step =>
    let closed := match step with
      | .complete rest => skipClosings true brackets rest
      | .opened bracket rest => skipClosings false (bracket :: brackets) rest
    match closed with
    | .error fault => .error fault
    | .ok ([], rest) => .ok rest
    | .ok (bracket :: outer, rest) =>
      match skipLead bracket rest with
      | .error fault => .error fault
      | .ok rest =>
        if rest.length < text.length then skipWithin (bracket :: outer) rest
        else .error .malformed
termination_by text.length

/-- Passes over a value. -/
def skipValue (text : List Char) : Except Fault (List Char) :=
  skipWithin [] text

/-! ### Records -/

/-- The fields of a record: how each is read into a draft and how a draft is finished. -/
structure Columns (Value : Type) where
  /-- The fields read so far. -/
  Draft : Type
  empty : Draft
  /-- The readers of the fields in their order. -/
  inOrder : List (Draft → Reader Draft)
  /-- The field of a name, if there is one: whether the draft has it, and its reader. -/
  named : String → Option ((Draft → Bool) × (Draft → Reader Draft))
  /-- The record, unless a field is missing. -/
  finish? : Draft → Option Value

/-- Reads into a place of a draft. -/
def readInto (read : Reader First) (place : First → Second) : Reader Second := fun depth text =>
  (read depth text).map fun (value, rest) => (place value, rest)

/-- A field that must be there. -/
def Columns.field (name : String) (read : Reader Value) : Columns Value where
  Draft := Option Value
  empty := none
  inOrder := [fun _ => readInto read some]
  named key := if key = name then some (Option.isSome, fun _ => readInto read some) else none
  finish? draft := draft

/-- A field that may be null, or be missing from an object. -/
def Columns.optional (name : String) (read : Reader Value) : Columns (Option Value) where
  Draft := Option (Option Value)
  empty := none
  inOrder := [fun _ => readInto (readOption read) some]
  named key :=
    if key = name then some (Option.isSome, fun _ => readInto (readOption read) some) else none
  finish? draft := some draft.join

/-- Fields followed by other fields. -/
def Columns.and (first : Columns First) (second : Columns Second) : Columns (First × Second) where
  Draft := first.Draft × second.Draft
  empty := (first.empty, second.empty)
  inOrder :=
    first.inOrder.map (fun read draft => readInto (read draft.1) fun held => (held, draft.2))
      ++ second.inOrder.map (fun read draft => readInto (read draft.2) fun held => (draft.1, held))
  named key := match first.named key with
    | some (isSet, read) =>
      some (fun draft => isSet draft.1, fun draft =>
        readInto (read draft.1) fun held => (held, draft.2))
    | none => match second.named key with
      | some (isSet, read) =>
        some (fun draft => isSet draft.2, fun draft =>
          readInto (read draft.2) fun held => (draft.1, held))
      | none => none
  finish? draft := match first.finish? draft.1, second.finish? draft.2 with
    | some one, some other => some (one, other)
    | _, _ => none

/-- The record built from its fields. -/
def Columns.build (columns : Columns First) (make : First → Second) : Columns Second where
  Draft := columns.Draft
  empty := columns.empty
  inOrder := columns.inOrder
  named := columns.named
  finish? draft := (columns.finish? draft).map make

/-- Reads the fields of a record as elements of an array. -/
def readInOrder {Draft : Type} (depth : Nat) : List (Draft → Reader Draft) → (isFirst : Bool) →
    Draft → List Char → Front Draft
  | [], _, draft, text => .ok (draft, text)
  | read :: others, isFirst, draft, text =>
    match readElement (read draft depth) isFirst text with
    | .error fault => .error fault
    | .ok (draft, rest) => readInOrder depth others false draft rest

/-- Reads the members of an object into a draft. A field that comes twice is a mismatch, and a
member that is no field is passed over. -/
def readMembers (columns : Columns Value) (depth : Nat) (isFirst : Bool) (draft : columns.Draft)
    (text : List Char) : Front columns.Draft :=
  match nextKey isFirst text with
  | .error fault => .error fault
  | .ok none => .ok (draft, text)
  | .ok (some (key, afterKey)) =>
    match columns.named key with
    | some (isSet, read) =>
      if isSet draft then .error .mismatched
      else match memberValue (read draft depth) afterKey with
        | .error fault => .error fault
        | .ok (draft, rest) =>
          if rest.length < text.length then readMembers columns depth false draft rest
          else .error .malformed
    | none =>
      match memberValue (fun text => (skipValue text).map fun rest => ((), rest)) afterKey with
      | .error fault => .error fault
      | .ok ((), rest) =>
        if rest.length < text.length then readMembers columns depth false draft rest
        else .error .malformed
termination_by text.length

/-- Reads a record. -/
def readRecord (columns : Columns Value) : Reader Value := fun depth text =>
  match skipSpace text, depth with
  | '[' :: _, 0 => .error .malformed
  | '[' :: rest, deeper + 1 =>
    inArray (fun text => refine columns.finish?
      (readInOrder deeper columns.inOrder true columns.empty text)) rest
  | '\x7b' :: _, 0 => .error .malformed
  | '\x7b' :: rest, deeper + 1 =>
    inObject (fun text => refine columns.finish?
      (readMembers columns deeper true columns.empty text)) rest
  | other, _ => .error (mismatchAt other)

/-! ### Whole texts -/

/-- Reads a whole text. Nothing but blanks may follow the value. -/
def readAll (read : Reader Value) (text : List Char) : Except Fault Value :=
  match read greatestDepth text with
  | .error fault => .error fault
  | .ok (value, rest) => if (skipSpace rest).isEmpty then .ok value else .error .malformed

/-- Reads a whole text as a value of any form. -/
def parse (text : List Char) : Except Fault Json :=
  readAll readValue text

end Testbed.Json
