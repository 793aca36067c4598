/-
This file defines blank characters, the trimming of blank ends, the search for a part, and the lines
of a text. A line ends at a line feed, and a carriage return before that line feed belongs to the
line end.
-/

import Testbed.Text.Ranges

namespace Testbed.Text

/-- The code points with the property White_Space. -/
def blankRanges : Ranges :=
  [(0x09, 0x0D), (0x20, 0x20), (0x85, 0x85), (0xA0, 0xA0), (0x1680, 0x1680), (0x2000, 0x200A),
    (0x2028, 0x2029), (0x202F, 0x202F), (0x205F, 0x205F), (0x3000, 0x3000)]

/-- A character of white space. -/
def isBlank (character : Char) : Bool :=
  blankRanges.contains character.toNat

/-- A text of blank characters only. -/
def allBlank (text : List Char) : Bool :=
  text.all isBlank

/-- The text without the blanks at its ends. -/
def trim (text : String) : String :=
  String.ofList ((text.toList.dropWhile isBlank).reverse.dropWhile isBlank).reverse

/-- The text without the given character at its end, however often it stands there. -/
def dropTrailing (character : Char) (text : String) : String :=
  String.ofList (text.toList.reverse.dropWhile (· == character)).reverse

/-- Whether a text occurs at some place of another. -/
def occursIn (part : List Char) : List Char → Bool
  | [] => part.isEmpty
  | character :: rest => part.isPrefixOf (character :: rest) || occursIn part rest

theorem occursIn_iff (part text : List Char) : occursIn part text = true ↔ part <:+: text := by
  induction text with
  | nil =>
    unfold occursIn
    rw [List.isEmpty_iff, List.infix_nil]
  | cons character rest inductionHypothesis =>
    unfold occursIn
    rw [Bool.or_eq_true, List.isPrefixOf_iff_prefix, inductionHypothesis, List.infix_cons_iff]

/-- The pieces between the separators, always at least one. -/
def splitAt (separator : Char) : List Char → List (List Char)
  | [] => [[]]
  | character :: rest =>
    if character = separator then [] :: splitAt separator rest
    else match splitAt separator rest with
      | [] => [[character]]
      | piece :: pieces => (character :: piece) :: pieces

/-- A line without the carriage return of its line end. -/
def dropCarriageReturn (line : List Char) : List Char :=
  if line.getLast? = some '\r' then line.dropLast else line

/-- The pieces that a line feed ends lose one carriage return; the last piece, which the end of the
text ends, keeps it and counts only if it is not empty. -/
def endLines : List (List Char) → List (List Char)
  | [] => []
  | [last] => if last.isEmpty then [] else [last]
  | piece :: next :: pieces => dropCarriageReturn piece :: endLines (next :: pieces)

/-- The lines of a text. -/
def lines (text : List Char) : List (List Char) :=
  endLines (splitAt '\n' text)

example : lines ['a', '\r', '\n', '\r', '\n', 'b', '\r'] = [['a'], [], ['b', '\r']] := by decide
example : lines ['a', '\n'] = [['a']] ∧ lines [] = [] := by decide

end Testbed.Text
