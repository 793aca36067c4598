/-
This file writes bytes as hexadecimal digits, two for each byte and the high half first, and reads
digits of either case. The main statement is that the digits of bytes read back as these bytes.
-/

import Testbed.Json.Scan
import Testbed.Json.Text

namespace Testbed.Text

open Json

/-- The digits of bytes. -/
def hexDigits (bytes : List UInt8) : List Char :=
  bytes.flatMap fun byte => [hexDigit (byte.toNat / 16), hexDigit (byte.toNat % 16)]

/-- The bytes of digits, of which there are two for each byte. -/
def bytesOfHex? : List Char → Option (List UInt8)
  | [] => some []
  | high :: low :: rest => do
    let high ← hexValue? high
    let low ← hexValue? low
    let bytes ← bytesOfHex? rest
    return UInt8.ofNat (high * 16 + low) :: bytes
  | [_] => none

/-- A digit has the value that it is written for. -/
theorem hexValue?_hexDigit : ∀ number < 16, hexValue? (hexDigit number) = some number := by
  decide

/-- The digits of bytes read back as these bytes. -/
theorem bytesOfHex?_hexDigits (bytes : List UInt8) :
    bytesOfHex? (hexDigits bytes) = some bytes := by
  induction bytes with
  | nil => rfl
  | cons byte rest inductionHypothesis =>
    have high := hexValue?_hexDigit (byte.toNat / 16) (by have := byte.toNat_lt; omega)
    have low := hexValue?_hexDigit (byte.toNat % 16) (by omega)
    have whole : byte.toNat / 16 * 16 + byte.toNat % 16 = byte.toNat := by omega
    have step : bytesOfHex? (hexDigits (byte :: rest)) =
        some (UInt8.ofNat (byte.toNat / 16 * 16 + byte.toNat % 16) :: rest) := by
      simp only [hexDigits] at inductionHypothesis
      simp only [hexDigits, List.flatMap_cons, List.cons_append, List.nil_append, bytesOfHex?,
        high, low, inductionHypothesis, bind, Option.bind, pure]
    rw [step, whole, UInt8.ofNat_toNat]

end Testbed.Text
