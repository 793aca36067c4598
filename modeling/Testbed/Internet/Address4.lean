/-
This file defines addresses of four bytes, the forms in which they are written, and their one normal
form. The strict form has four decimal numbers between points. The loose form has one to four
numbers in decimal, octal or hexadecimal digits, of which the last fills the bytes that are left.
-/

import Testbed.Text.Blank
import Testbed.Text.Numeral

namespace Testbed.Internet

open Text

/-- An address of four bytes. -/
structure Address4 where
  bits : UInt32
  deriving DecidableEq

namespace Address4

/-- The bytes of an address, the highest first. -/
def bytes (address : Address4) : List Nat :=
  [16777216, 65536, 256, 1].map fun place => address.bits.toNat / place % 256

/-- The normal form of an address: its bytes in decimal digits, with points between them. -/
def text (address : Address4) : String :=
  ".".intercalate (address.bytes.map toString)

/-- The address of bytes. -/
def ofBytes (bytes : List Nat) : Address4 where
  bits := UInt32.ofNat (bytes.foldl (fun value byte => value * 256 + byte) 0)

/-! ### The strict form -/

/-- A byte in decimal digits without zeros in front. -/
def byte? (digits : List Char) : Option Nat :=
  if digits.isEmpty || digits.length > 3 || (digits.length > 1 && digits.head? == some '0') then
    none
  else (numberIn? 10 digits).filter (· < 256)

/-- The address of four decimal numbers between points. -/
def ofQuad? (text : List Char) : Option Address4 :=
  match (splitAt '.' text).mapM byte? with
  | some [first, second, third, fourth] => some (ofBytes [first, second, third, fourth])
  | _ => none

/-! ### The loose form -/

/-- A number in decimal digits, in octal digits behind a zero, or in hexadecimal digits behind a
zero and a letter. The letter alone stands for zero. -/
def looseNumber? : List Char → Option Nat
  | [] => none
  | '0' :: 'x' :: digits => numberIn? 16 digits
  | '0' :: 'X' :: digits => numberIn? 16 digits
  | '0' :: digits => numberIn? 8 digits
  | digits => numberIn? 10 digits

/-- The number of bytes that the last of several numbers fills. -/
def lastWidth (count : Nat) : Nat :=
  5 - count

/-- The address of one to four numbers: each but the last is a byte. -/
def ofNumbers? (numbers : List Nat) : Option Address4 := do
  let last ← numbers.getLast?
  let others := numbers.dropLast
  let room := Nat.pow 256 (lastWidth numbers.length)
  if numbers.length ≤ 4 ∧ others.all (· < 256) ∧ last < room then
    some ⟨UInt32.ofNat (others.foldl (fun value byte => value * 256 + byte) 0 * room + last)⟩
  else none

/-- The address of numbers between points. -/
def ofLooseNumbers? (labels : List (List Char)) : Option Address4 := do
  ofNumbers? (← labels.mapM looseNumber?)

example : (ofLooseNumbers? [['1', '2', '7'], ['1']]).map text = some "127.0.0.1" := by
  decide +kernel
example : ofLooseNumbers? [['2', '5', '6'], ['1']] = none := by decide +kernel

end Address4

end Testbed.Internet
