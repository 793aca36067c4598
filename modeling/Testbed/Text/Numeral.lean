/-
This file reads numerals. A decimal numeral of a bounded range is an optional plus sign and one or
more digits; the first character that is no digit, or that makes the number too large, decides the
error. Digits of other bases are read without a bound.
-/

namespace Testbed.Text

/-- Why a text is not a numeral of the range. -/
inductive NumeralError where
  | empty
  | invalidDigit
  | tooLarge
  deriving DecidableEq, Repr

/-- The words for a numeral error. -/
def NumeralError.message : NumeralError → String
  | empty => "cannot parse integer from empty string"
  | invalidDigit => "invalid digit found in string"
  | tooLarge => "number too large to fit in target type"

/-- The value of a decimal digit. -/
def digitValue? (character : Char) : Option Nat :=
  if '0' ≤ character ∧ character ≤ '9' then some (character.toNat - '0'.toNat) else none

/-- Reads digits behind a number already read, up to the greatest number of the range. -/
def numeralFrom (greatest : Nat) : Nat → List Char → Except NumeralError Nat
  | value, [] => .ok value
  | value, character :: rest =>
    match digitValue? character with
    | none => .error .invalidDigit
    | some digit =>
      if value * 10 + digit ≤ greatest then numeralFrom greatest (value * 10 + digit) rest
      else .error .tooLarge

/-- Reads a numeral of a number up to the greatest of the range. -/
def numeral (greatest : Nat) (text : String) : Except NumeralError Nat :=
  match text.toList with
  | [] => .error .empty
  | ['+'] => .error .invalidDigit
  | '+' :: digits => numeralFrom greatest 0 digits
  | digits => numeralFrom greatest 0 digits

/-- The value of a digit of a base up to sixteen, in letters of either case. -/
def digitIn? (base : Nat) (character : Char) : Option Nat :=
  let lower := character.toLower
  let value :=
    if lower.isDigit then lower.toNat - '0'.toNat
    else if 'a' ≤ lower ∧ lower ≤ 'f' then lower.toNat - 'a'.toNat + 10
    else base
  if value < base then some value else none

/-- The number that digits of a base stand for; no digits stand for zero. -/
def numberIn? (base : Nat) (digits : List Char) : Option Nat :=
  digits.foldlM (fun value character => (digitIn? base character).map (value * base + ·)) 0

end Testbed.Text
