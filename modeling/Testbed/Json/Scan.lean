/-
This file reads the tokens of JSON text: blanks, literal words, strings and numbers. A text that is
not JSON and a text that ends too early are told apart, and the first problem in the order of the
text decides.
-/

import Testbed.Json.Basic
import Testbed.Text.Excerpt
import Testbed.Text.Numeral

namespace Testbed.Json

open Testbed.Text (digitValue? byteCount)

/-- Why a text is not read. -/
inductive Fault where
  /-- The text is not JSON. -/
  | malformed
  /-- The text ends before its value does. -/
  | ended
  /-- The text is JSON so far, but not of the form that is read. -/
  | mismatched
  deriving DecidableEq, Repr

/-- The words for a fault. -/
def Fault.message : Fault → String
  | malformed => "the text is not JSON"
  | ended => "the text ends early"
  | mismatched => "the value has another form"

/-- What reading the front of a text gives: what was read and the text behind it. -/
abbrev Front (Value : Type) := Except Fault (Value × List Char)

/-- A blank between tokens. -/
def isSpace (character : Char) : Bool :=
  character = ' ' || character = '\n' || character = '\t' || character = '\r'

/-- The text without the blanks in front. -/
def skipSpace (text : List Char) : List Char :=
  text.dropWhile isSpace

/-- Reads the rest of a literal word. -/
def word : List Char → List Char → Except Fault (List Char)
  | [], text => .ok text
  | _ :: _, [] => .error .ended
  | expected :: more, character :: rest =>
    if character = expected then word more rest else .error .malformed

/-! ### Strings -/

/-- The value of a hexadecimal digit. -/
def hexValue? (character : Char) : Option Nat :=
  if '0' ≤ character ∧ character ≤ '9' then some (character.toNat - '0'.toNat)
  else if 'a' ≤ character ∧ character ≤ 'f' then some (character.toNat - 'a'.toNat + 10)
  else if 'A' ≤ character ∧ character ≤ 'F' then some (character.toNat - 'A'.toNat + 10)
  else none

/-- The number of four hexadecimal digits. -/
def hexUnit? (first second third fourth : Char) : Option Nat := do
  let first ← hexValue? first
  let second ← hexValue? second
  let third ← hexValue? third
  let fourth ← hexValue? fourth
  some (((first * 16 + second) * 16 + third) * 16 + fourth)

/-- The fault of a text too short for four digits: it ends early, unless its characters fill the
four bytes that the digits would take. -/
def shortUnit (text : List Char) : Fault :=
  if byteCount text < 4 then .ended else .malformed

/-- The character that a letter behind a backslash stands for. -/
def escapedCharacter? (letter : Char) : Option Char :=
  if letter = '"' then some '"'
  else if letter = '\\' then some '\\'
  else if letter = '/' then some '/'
  else if letter = 'b' then some '\x08'
  else if letter = 'f' then some '\x0c'
  else if letter = 'n' then some '\n'
  else if letter = 'r' then some '\r'
  else if letter = 't' then some '\t'
  else none

/-- A unit that opens a pair of surrogates. -/
def isLeading (unit : Nat) : Bool := 0xD800 ≤ unit && unit ≤ 0xDBFF

/-- A unit that closes a pair of surrogates. -/
def isTrailing (unit : Nat) : Bool := 0xDC00 ≤ unit && unit ≤ 0xDFFF

/-- The character of a pair of surrogates. -/
def pairedCharacter (leading trailing : Nat) : Char :=
  Char.ofNat (0x10000 + (leading - 0xD800) * 0x400 + (trailing - 0xDC00))

/-- Puts a character in front of what was read. -/
def prepend (character : Char) (front : Front (List Char)) : Front (List Char) :=
  front.map fun (characters, rest) => (character :: characters, rest)

/-- Reads a string behind its opening quotation mark, up to and with the closing one. Surrogates
stand in pairs, and control characters are written as escapes. -/
def stringBody : List Char → Front (List Char)
  | [] => .error .ended
  | '"' :: rest => .ok ([], rest)
  | ['\\'] => .error .ended
  | '\\' :: 'u' :: text =>
    match text with
    | first :: second :: third :: fourth :: rest =>
      match hexUnit? first second third fourth with
      | none => .error .malformed
      | some unit =>
        if isTrailing unit then .error .malformed
        else if isLeading unit then
          match rest with
          | [] => .error .ended
          | ['\\'] => .error .ended
          | '\\' :: 'u' :: pair =>
            match pair with
            | first' :: second' :: third' :: fourth' :: rest' =>
              match hexUnit? first' second' third' fourth' with
              | none => .error .malformed
              | some trailing =>
                if isTrailing trailing then
                  prepend (pairedCharacter unit trailing) (stringBody rest')
                else .error .malformed
            | few => .error (shortUnit few)
          | _ => .error .malformed
        else prepend (Char.ofNat unit) (stringBody rest)
    | few => .error (shortUnit few)
  | '\\' :: letter :: rest =>
    match escapedCharacter? letter with
    | some character => prepend character (stringBody rest)
    | none => .error .malformed
  | character :: rest =>
    if character.toNat < 0x20 then .error .malformed
    else prepend character (stringBody rest)

/-- Passes over a string behind its opening quotation mark. Escapes are complete, but surrogates
need not pair up. -/
def skipString : List Char → Except Fault (List Char)
  | [] => .error .ended
  | '"' :: rest => .ok rest
  | ['\\'] => .error .ended
  | '\\' :: 'u' :: text =>
    match text with
    | first :: second :: third :: fourth :: rest =>
      match hexUnit? first second third fourth with
      | none => .error .malformed
      | some _ => skipString rest
    | few => .error (shortUnit few)
  | '\\' :: letter :: rest =>
    if (escapedCharacter? letter).isSome then skipString rest else .error .malformed
  | character :: rest =>
    if character.toNat < 0x20 then .error .malformed else skipString rest

/-! ### Numbers -/

/-- A decimal digit. -/
def isDigit (character : Char) : Bool := (digitValue? character).isSome

/-- Whether a digit is next. -/
def digitNext : List Char → Bool
  | [] => false
  | character :: _ => isDigit character

/-- Adds digits to a significand as long as it stays below 2^64; also counts the digits added. -/
def significandFrom : Nat → Nat → List Char → Nat × Nat × List Char
  | significand, count, [] => (significand, count, [])
  | significand, count, character :: rest =>
    match digitValue? character with
    | none => (significand, count, character :: rest)
    | some digit =>
      if significand * 10 + digit < 0x10000000000000000 then
        significandFrom (significand * 10 + digit) (count + 1) rest
      else (significand, count, character :: rest)

/-- Ten to a power up to 308, as a double. -/
def powerOfTen (power : Nat) : Float :=
  Float.ofScientific 1 false power

/-- The significand as a double, scaled by a power of ten with one multiplication or division, or
two divisions below ten to the -308. A value beyond the doubles is refused. -/
def scaled (significand : Nat) (exponent : Int) : Except Fault Float :=
  let value := Float.ofNat significand
  if exponent < -616 then .ok 0.0
  else if exponent < -308 then
    .ok (value / powerOfTen 308 / powerOfTen (-exponent - 308).toNat)
  else if exponent < 0 then .ok (value / powerOfTen (-exponent).toNat)
  else if exponent ≤ 308 then
    let product := value * powerOfTen exponent.toNat
    if product.isInf then .error .malformed else .ok product
  else if significand = 0 then .ok 0.0
  else .error .malformed

/-- A double with its sign. -/
def signed (negative : Bool) (value : Float) : Number :=
  .double (if negative then -value else value)

/-- The greatest exponent that is read as a number; a greater one means zero or out of range. -/
def greatestExponent : Nat := 0x7FFFFFFF

/-- Adds digits to an exponent; none if it grows beyond the greatest one. -/
def exponentFrom : Nat → List Char → Option Nat × List Char
  | value, [] => (some value, [])
  | value, character :: rest =>
    match digitValue? character with
    | none => (some value, character :: rest)
    | some digit =>
      if value * 10 + digit ≤ greatestExponent then exponentFrom (value * 10 + digit) rest
      else (none, rest.dropWhile isDigit)

/-- The sign of an exponent, a missing one counting as plus, and the text behind it. -/
def exponentSign : List Char → Bool × List Char
  | '+' :: rest => (false, rest)
  | '-' :: rest => (true, rest)
  | text => (false, text)

/-- Reads the exponent behind its letter and finishes the number. -/
def exponentPart (negative : Bool) (significand : Nat) (scale : Int) (text : List Char) :
    Front Number :=
  let (lowers, digits) := exponentSign text
  match digits with
  | [] => .error .ended
  | next :: _ =>
    if isDigit next then
      match exponentFrom 0 digits with
      | (some power, rest) =>
        (scaled significand (if lowers then scale - power else scale + power)).map
          fun value => (signed negative value, rest)
      | (none, rest) =>
        if significand ≠ 0 ∧ lowers = false then .error .malformed
        else .ok (signed negative 0.0, rest)
    else .error .malformed

/-- Finishes a number that is a double: with its exponent, if one follows. -/
def doublePart (negative : Bool) (significand : Nat) (scale : Int) : List Char → Front Number
  | 'e' :: rest => exponentPart negative significand scale rest
  | 'E' :: rest => exponentPart negative significand scale rest
  | rest => (scaled significand scale).map fun value => (signed negative value, rest)

/-- Reads the digits behind the point and finishes the number. Digits beyond 2^64 are dropped. -/
def fractionPart (negative : Bool) (significand : Nat) (scale : Int) (text : List Char) :
    Front Number :=
  match text with
  | [] => .error .ended
  | next :: _ =>
    if isDigit next then
      let (grown, count, rest) := significandFrom significand 0 text
      doublePart negative grown (scale - count) (rest.dropWhile isDigit)
    else .error .malformed

/-- An integer, or the double it becomes: below -2^63, and for minus zero. -/
def wholeNumber (negative : Bool) (significand : Nat) : Number :=
  if negative then
    if significand = 0 then .double (-0.0)
    else match Integer.ofInt? (-significand) with
      | some exact => .integer exact
      | none => .double (-Float.ofNat significand)
  else match Integer.ofInt? significand with
    | some exact => .integer exact
    | none => .double (Float.ofNat significand)

/-- Finishes a number whose whole part was read. -/
def afterWhole (negative : Bool) (significand : Nat) (text : List Char) : Front Number :=
  match text with
  | '.' :: rest => fractionPart negative significand 0 rest
  | 'e' :: rest => exponentPart negative significand 0 rest
  | 'E' :: rest => exponentPart negative significand 0 rest
  | rest =>
    if digitNext rest then
      let more := rest.takeWhile isDigit
      match rest.dropWhile isDigit with
      | '.' :: rest => fractionPart negative significand more.length rest
      | rest => doublePart negative significand more.length rest
    else .ok (wholeNumber negative significand, rest)

/-- Reads a number behind its sign. A zero in front stands alone. -/
def numberBody (negative : Bool) (text : List Char) : Front Number :=
  match text with
  | [] => .error .ended
  | '0' :: rest =>
    if digitNext rest then .error .malformed else afterWhole negative 0 rest
  | next :: _ =>
    if isDigit next then
      let (significand, _, rest) := significandFrom 0 0 text
      afterWhole negative significand rest
    else .error .malformed

/-- Passes over the exponent behind its letter. -/
def skipExponent (text : List Char) : Except Fault (List Char) :=
  let digits := (exponentSign text).2
  if digitNext digits then .ok (digits.dropWhile isDigit) else .error .malformed

/-- Passes over what may follow the digits of a number: its exponent. -/
def skipScale : List Char → Except Fault (List Char)
  | 'e' :: rest => skipExponent rest
  | 'E' :: rest => skipExponent rest
  | rest => .ok rest

/-- Passes over a number behind its sign, of any size. -/
def skipNumber (text : List Char) : Except Fault (List Char) :=
  match text with
  | [] => .error .malformed
  | next :: rest =>
    if !isDigit next || (next = '0' && digitNext rest) then .error .malformed
    else match rest.dropWhile isDigit with
      | '.' :: fraction =>
        if digitNext fraction then skipScale (fraction.dropWhile isDigit) else .error .malformed
      | rest => skipScale rest

end Testbed.Json
