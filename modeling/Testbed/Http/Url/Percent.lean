/-
This file defines percent encoding: a character that may not stand in a part of a URL is written as
the bytes of its UTF-8 form, each as two hexadecimal digits behind a percent sign. Which characters
may stand as they are differs from part to part. The main statement is that the bytes of an encoded
byte read back.
-/

import Testbed.Text.Numeral
import Testbed.Text.Utf8

namespace Testbed.Url

open Text

/-! ### Encoding -/

/-- A digit of a percent-encoded byte. -/
def percentDigit (value : Nat) : Char :=
  (Nat.digitChar value).toUpper

/-- A byte behind a percent sign. -/
def percentByte (byte : UInt8) : List Char :=
  ['%', percentDigit (byte.toNat / 16), percentDigit (byte.toNat % 16)]

/-- The characters with those that are not safe encoded byte by byte. -/
def percentEncoded (isSafe : Char → Bool) (text : List Char) : List Char :=
  text.flatMap fun character =>
    if isSafe character then [character]
    else (String.utf8EncodeChar character).flatMap percentByte

/-- An ASCII character that is no control and none of those given. -/
def isPlainExcept (excluded : List Char) (character : Char) : Bool :=
  0x20 ≤ character.toNat && character.toNat < 0x7F && !excluded.contains character

/-- The characters that are encoded in a fragment, apart from controls. -/
def fragmentSigns : List Char := [' ', '"', '<', '>', '\x60']

/-- The characters that are encoded in a path, apart from controls. -/
def pathSigns : List Char := ['#', '?', '\x7b', '\x7d'] ++ fragmentSigns

/-- The characters that are encoded in a name and a password, apart from controls. -/
def credentialSigns : List Char := ['/', ':', ';', '=', '@', '[', '\\', ']', '^', '|'] ++ pathSigns

/-- The characters that are encoded in a query, apart from controls. -/
def querySigns : List Char := [' ', '"', '#', '<', '>']

/-! ### Decoding -/

/-- The bytes behind percent signs and the other bytes as they are. A percent sign without two
digits stands for itself. -/
def percentDecoded : List Char → List UInt8
  | [] => []
  | '%' :: high :: low :: rest =>
    match digitIn? 16 high, digitIn? 16 low with
    | some high, some low => UInt8.ofNat (high * 16 + low) :: percentDecoded rest
    | _, _ => String.utf8EncodeChar '%' ++ percentDecoded (high :: low :: rest)
  | character :: rest => String.utf8EncodeChar character ++ percentDecoded rest

/-- The text that is encoded, unless its bytes are no text. -/
def percentDecoded? (text : List Char) : Option String :=
  ofBytes? (percentDecoded text)

/-- A digit of an encoded byte has the value that it is written for. -/
theorem digitIn?_percentDigit : ∀ value < 16, digitIn? 16 (percentDigit value) = some value := by
  decide

/-- An encoded byte reads back. -/
theorem percentDecoded_percentByte (byte : UInt8) (rest : List Char) :
    percentDecoded (percentByte byte ++ rest) = byte :: percentDecoded rest := by
  have bound := byte.toNat_lt
  have whole : byte.toNat / 16 * 16 + byte.toNat % 16 = byte.toNat := by omega
  simp only [percentByte, List.cons_append, List.nil_append, percentDecoded,
    digitIn?_percentDigit (byte.toNat / 16) (by omega),
    digitIn?_percentDigit (byte.toNat % 16) (by omega), whole, UInt8.ofNat_toNat]

/-! ### Forms -/

/-- A part of a form, with a plus sign for a blank. -/
def formEncoded (text : String) : String :=
  String.ofList (text.toList.flatMap fun character =>
    if character = ' ' then ['+']
    else if character.isAlphanum || ['*', '-', '.', '_'].contains character then [character]
    else (String.utf8EncodeChar character).flatMap percentByte)

end Testbed.Url
