/-
This file defines the wire form of messages: fields with a number and bytes, one after another.
Fields written by others may have other forms, which are read over; groups of fields must balance
and nest to a bounded depth.
-/

namespace Testbed.Wire

/-! ### Variable-length numbers -/

/-- The bytes of a number, seven bits each, the lowest first. -/
def numberBytes (value : Nat) : List UInt8 :=
  if value < 128 then [UInt8.ofNat value]
  else UInt8.ofNat (value % 128 + 128) :: numberBytes (value / 128)

/-- Reads the places of a number that are left, up to the one that does not continue. In the last
place stands one bit only. -/
def numberPlaces? : (places : Nat) → List UInt8 → Option (Nat × List UInt8)
  | 0, _ => none
  | _, [] => none
  | places + 1, byte :: rest =>
    if byte < 128 then
      if places = 0 ∧ 1 < byte then none else some (byte.toNat, rest)
    else (numberPlaces? places rest).map fun (higher, rest) =>
      (byte.toNat - 128 + 128 * higher, rest)

/-- Reads a number of 64 bits. -/
def number? (bytes : List UInt8) : Option (Nat × List UInt8) :=
  numberPlaces? 10 bytes

/-! ### Keys -/

/-- The forms in which a field can be written. -/
inductive FieldForm where
  | number
  | eightBytes
  | bytes
  | groupStart
  | groupEnd
  | fourBytes
  deriving DecidableEq, Repr

/-- The form that three bits stand for. -/
def FieldForm.ofBits? : Nat → Option FieldForm
  | 0 => some number
  | 1 => some eightBytes
  | 2 => some bytes
  | 3 => some groupStart
  | 4 => some groupEnd
  | 5 => some fourBytes
  | _ => none

/-- Reads the key of a field: its number, which is not zero, and its form. -/
def key? (bytes : List UInt8) : Option (Nat × FieldForm × List UInt8) :=
  match number? bytes with
  | none => none
  | some (key, rest) =>
    if 0x100000000 ≤ key ∨ key / 8 = 0 then none
    else (FieldForm.ofBits? (key % 8)).map fun form => (key / 8, form, rest)

/-! ### Fields -/

/-- The bytes of a field: its key, the number of its bytes, and the bytes. -/
def fieldBytes (field : Nat × List UInt8) : List UInt8 :=
  numberBytes (field.1 * 8 + 2) ++ numberBytes field.2.length ++ field.2

/-- Splits off a number of bytes. -/
def split? (count : Nat) (bytes : List UInt8) : Option (List UInt8 × List UInt8) :=
  if count ≤ bytes.length then some (bytes.take count, bytes.drop count) else none

/-- Reads over fields up to the end of their group. Every field takes a byte at least. -/
def skipGroup (skip : FieldForm → Nat → List UInt8 → Option (List UInt8)) (group : Nat)
    (bytes : List UInt8) : Option (List UInt8) :=
  match key? bytes with
  | none => none
  | some (number, form, rest) =>
    if form = .groupEnd then if number = group then some rest else none
    else
      match skip form number rest with
      | none => none
      | some rest => if rest.length < bytes.length then skipGroup skip group rest else none
termination_by bytes.length

/-- Reads over a field behind its key, with so many levels of groups left. -/
def skipField : (levels : Nat) → FieldForm → Nat → List UInt8 → Option (List UInt8)
  | 0, _, _, _ => none
  | levels + 1, form, number, bytes =>
    match form with
    | .number => (number? bytes).map (·.2)
    | .eightBytes => (split? 8 bytes).map (·.2)
    | .fourBytes => (split? 4 bytes).map (·.2)
    | .bytes => match number? bytes with
      | none => none
      | some (count, rest) => (split? count rest).map (·.2)
    | .groupStart => skipGroup (skipField levels) number bytes
    | .groupEnd => none

/-- The levels of groups that are read over. -/
def greatestLevels : Nat := 100

/-- Reads a field: its number, its bytes if it is written as bytes, and the rest. -/
def field? (levels : Nat) (bytes : List UInt8) :
    Option ((Nat × Option (List UInt8)) × List UInt8) :=
  match key? bytes with
  | none => none
  | some (number, form, rest) =>
    if form = .bytes then
      match number? rest with
      | none => none
      | some (count, rest) =>
        (split? count rest).map fun (payload, rest) => ((number, some payload), rest)
    else (skipField levels form number rest).map fun rest => ((number, none), rest)

/-- Reads all fields. Every field takes a byte at least. -/
def fields? (levels : Nat) (bytes : List UInt8) : Option (List (Nat × Option (List UInt8))) :=
  if bytes.isEmpty then some []
  else
    match field? levels bytes with
    | none => none
    | some (field, rest) =>
      if rest.length < bytes.length then (fields? levels rest).map (field :: ·) else none
termination_by bytes.length

/-! ### Messages -/

/-- The form of a message on the wire. -/
structure Form (Message : Type) where
  /-- The message without any field. -/
  empty : Message
  /-- The fields of a message in the order of their numbers. -/
  fields : Message → List (Nat × List UInt8)
  /-- How the bytes of a field are taken into a message, if the number is one of its fields. -/
  take : (levels : Nat) → Nat → Option (List UInt8 → Message → Option Message)

namespace Form

variable {Message : Type}

/-- The bytes of a message. -/
def encode (form : Form Message) (message : Message) : List UInt8 :=
  (form.fields message).flatMap fieldBytes

/-- Takes a field into a message. A field of another number is left out. -/
def takeField (form : Form Message) (levels : Nat) (message : Message)
    (field : Nat × Option (List UInt8)) : Option Message :=
  match form.take levels field.1, field.2 with
  | none, _ => some message
  | some _, none => none
  | some take, some bytes => take bytes message

/-- Takes the fields of bytes into a message. -/
def mergeWithin (form : Form Message) (levels : Nat) (message : Message) (bytes : List UInt8) :
    Option Message :=
  match fields? levels bytes with
  | none => none
  | some fields => fields.foldlM (form.takeField levels) message

/-- Takes the fields of bytes into a message. -/
def merge? (form : Form Message) (message : Message) (bytes : List UInt8) : Option Message :=
  form.mergeWithin greatestLevels message bytes

/-- Reads a message from its bytes. -/
def decode? (form : Form Message) (bytes : List UInt8) : Option Message :=
  form.merge? form.empty bytes

end Form

end Testbed.Wire
