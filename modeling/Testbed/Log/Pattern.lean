/-
This file checks the patterns that the values of fields are matched with. A pattern is a regular
expression that is compiled to an automaton over characters: it has alternatives, groups with flags,
repetitions and classes, but no look around, no references to groups and no bounds of Unicode words,
and without tables of Unicode it has named classes and letters of either case for bytes only. A
value ends at a brace, so a repetition with a count is never closed. What nests too deep is no
pattern.
-/

import Testbed.Log.Pattern.Nesting
import Testbed.Text.Alphanumeric
import Testbed.Text.Blank
import Testbed.Text.Numeral
import Testbed.Text.Numeric

namespace Testbed.Pattern

open Text

/-- How a part of a pattern is read. -/
structure Mode where
  /-- Whether blanks and comments are left out. -/
  isSpaced : Bool := false
  ignoresCase : Bool := false
  /-- Whether classes hold bytes, not characters. -/
  isBytewise : Bool := false
  deriving DecidableEq, Repr

/-- The text behind the end of a comment. -/
def behindComment (text : List Char) : List Char :=
  (text.dropWhile (· ≠ '\n')).drop 1

/-- The text behind blanks and comments, so many at most. -/
def behindBlanks : Nat → List Char → List Char
  | 0, text => text
  | _ + 1, [] => []
  | more + 1, character :: rest =>
    if isBlank character then behindBlanks more rest
    else if character = '#' then behindBlanks more (behindComment rest)
    else character :: rest

/-- The text from where reading goes on. -/
def Mode.skip (mode : Mode) (text : List Char) : List Char :=
  if mode.isSpaced then behindBlanks text.length text else text

/-! ### Escapes -/

/-- What an escape stands for. -/
inductive Escape where
  /-- A character, perhaps given as a byte. -/
  | character (value : Char) (isByte : Bool)
  /-- A named class or the characters outside it. -/
  | named (isNegated : Bool)
  /-- The beginning or the end of the text. -/
  | edge
  /-- A place where a word begins or ends, or one where none does. -/
  | wordBound
  deriving DecidableEq, Repr

/-- Reads so many hexadecimal digits behind a number. -/
def digits? (mode : Mode) : Nat → Nat → List Char → Option (Nat × List Char)
  | 0, value, text => some (value, text)
  | more + 1, value, text =>
    match mode.skip text with
    | [] => none
    | digit :: rest => do digits? mode more (value * 16 + (← digitIn? 16 digit)) rest

/-- Reads a character that is given by its number in so many digits. -/
def numbered? (mode : Mode) (count : Nat) (text : List Char) : Option (Escape × List Char) := do
  let (value, rest) ← digits? mode count 0 text
  if value.isValidChar then return (.character (Char.ofNat value) (count == 2), rest) else none

/-- The characters that letters stand for. -/
def controls : List (Char × Char) :=
  [('a', '\x07'), ('f', '\x0c'), ('t', '\t'), ('n', '\n'), ('r', '\r'), ('v', '\x0b')]

/-- Reads an escape behind its backslash. Signs stand for themselves. -/
def escape? (mode : Mode) : List Char → Option (Escape × List Char)
  | [] => none
  | 'x' :: rest => numbered? mode 2 rest
  | 'u' :: rest => numbered? mode 4 rest
  | 'U' :: rest => numbered? mode 8 rest
  | sign :: rest =>
    if ['d', 's', 'w'].contains sign then some (.named false, rest)
    else if ['D', 'S', 'W'].contains sign then some (.named true, rest)
    else if ['A', 'z'].contains sign then some (.edge, rest)
    else if ['b', 'B', '<', '>'].contains sign then some (.wordBound, rest)
    else match controls.lookup sign with
      | some character => some (.character character false, rest)
      | none =>
        if sign.toNat < 0x80 && !sign.isAlphanum then some (.character sign false, rest) else none

/-- Whether a character can be matched. -/
def Mode.takes (mode : Mode) (character : Char) (isByte : Bool) : Bool :=
  if mode.isBytewise then !isByte || character.toNat < 0x80 else !mode.ignoresCase

/-- Whether what an escape stands for can be matched. -/
def Mode.takesEscape (mode : Mode) : Escape → Bool
  | .character character isByte => mode.takes character isByte
  | .named isNegated => mode.isBytewise && !isNegated
  | .edge => true
  | .wordBound => mode.isBytewise

/-! ### Classes -/

/-- Whether a class can hold a character. -/
def Mode.holds (mode : Mode) (character : Char) : Bool :=
  if mode.isBytewise then character.toNat < 0x80 else !mode.ignoresCase

/-- Whether a class can hold all that another, or its contrary, holds. -/
def Mode.holdsClass (mode : Mode) (isNegated : Bool) : Bool :=
  if mode.isBytewise then !isNegated else !mode.ignoresCase

/-- The names of classes between brackets and colons. -/
def classNames : List String :=
  ["alnum", "alpha", "ascii", "blank", "cntrl", "digit", "graph", "lower", "print", "punct",
    "space", "upper", "word", "xdigit"]

/-- Reads a class that is named between colons, behind its bracket: whether it is negated, and the
rest. -/
def named? : List Char → Option (Bool × List Char)
  | ':' :: text =>
    let isNegated := text.head? == some '^'
    let text := if isNegated then text.drop 1 else text
    let name := text.takeWhile (· ≠ ':')
    match text.drop name.length with
    | ':' :: ']' :: rest =>
      if classNames.contains (String.ofList name) then some (isNegated, rest) else none
    | _ => none
  | _ => none

/-- The dashes at the beginning of a class, and the text behind them. -/
def dashes (mode : Mode) : Nat → List Char → Nat × List Char
  | 0, text => (0, text)
  | more + 1, text =>
    match text with
    | '-' :: rest =>
      let (count, behind) := dashes mode more (mode.skip rest)
      (count + 1, behind)
    | text => (0, text)

/-- The members at the beginning of a class, whose bracket was read, and the text behind them. A
dash stands for itself there, and so does a closing bracket. -/
def opened? (mode : Mode) (text : List Char) : Option (Nesting × List Char) :=
  let text := mode.skip text
  let isNegated := text.head? == some '^'
  let text := if isNegated then mode.skip (text.drop 1) else text
  let (count, behind) := dashes mode text.length text
  let closesFirst := count == 0 && behind.head? == some ']'
  if mode.isBytewise && isNegated || (0 < count || closesFirst) && !mode.holds ']' then none
  else some (if closesFirst then ({ parts := 1 }, mode.skip (behind.drop 1))
    else ({ parts := count }, behind))

/-- Reads a member of a class: a character, or none for more than one. -/
def member? (mode : Mode) : List Char → Option (Option Char × List Char)
  | [] => none
  | '\\' :: rest => do
    let (escape, behind) ← escape? mode rest
    match escape with
    | .character character _ =>
      if mode.holds character then return (some character, behind) else none
    | .named isNegated =>
      if mode.takesEscape (.named isNegated) then return (none, behind) else none
    | .edge => none
    | .wordBound => none
  | character :: rest => if mode.holds character then some (some character, rest) else none

/-- Reads a member of a class or a range from one to another. -/
def range? (mode : Mode) (text : List Char) : Option (List Char) := do
  let (first, behind) ← member? mode text
  match mode.skip behind with
  | [] => none
  | '-' :: rest =>
    let next := (mode.skip rest).head?
    if next == some ']' || next == some '-' then return '-' :: rest
    let (last, behind) ← member? mode (mode.skip rest)
    match first, last with
    | some first, some last => if first ≤ last then return behind else none
    | _, _ => none
  | behind => return behind

/-- Reads members of a class up to its end, and of the classes around it up to theirs, in so many
steps at most: the depth of the outermost class, and the text behind it. -/
def closed? (mode : Mode) :
    Nat → (inner : Nesting) → (outer : List Nesting) → List Char → Option (Nat × List Char)
  | 0, _, _, _ => none
  | fuel + 1, inner, outer, text =>
    match mode.skip text with
    | [] => none
    | '[' :: rest =>
      match named? rest with
      | some (isNegated, behind) =>
        if mode.holdsClass isNegated then closed? mode fuel (inner.add 0) outer behind else none
      | none => do
        let (nesting, behind) ← opened? mode rest
        closed? mode fuel nesting (inner :: outer) behind
    | ']' :: rest =>
      match outer with
      | [] => some (inner.whole + 1, rest)
      | around :: outer => closed? mode fuel (around.add (inner.whole + 1)) outer rest
    | '&' :: '&' :: rest => closed? mode fuel inner.operator outer rest
    | '-' :: '-' :: rest => closed? mode fuel inner.operator outer rest
    | '~' :: '~' :: rest => closed? mode fuel inner.operator outer rest
    | text => do
      let behind ← range? mode text
      closed? mode fuel (inner.add 0) outer behind

/-- The depth of a class whose bracket was read, and the text behind it. -/
def class? (mode : Mode) (text : List Char) : Option (Nat × List Char) := do
  let (nesting, behind) ← opened? mode text
  closed? mode (text.length + 1) nesting [] behind

/-! ### Groups -/

/-- The mode that a flag leads to. -/
def Mode.set? (mode : Mode) (flag : Char) (value : Bool) : Option Mode :=
  if flag = 'i' then some { mode with ignoresCase := value }
  else if flag = 'u' then some { mode with isBytewise := !value }
  else if flag = 'x' then some { mode with isSpaced := value }
  else if ['m', 's', 'U', 'R'].contains flag then some mode
  else none

/-- Reads flags, none of them twice: the mode that they lead to, and the text from their end on. -/
def flags? : List Char → (seen : List Char) → Mode → Option (Mode × List Char)
  | [], _, _ => none
  | flag :: rest, seen, mode =>
    if flag = ':' ∨ flag = ')' then
      if seen.head? = some '-' then none else some (mode, flag :: rest)
    else if seen.contains flag then none
    else if flag = '-' then flags? rest ('-' :: seen) mode
    else do flags? rest (flag :: seen) (← mode.set? flag (!seen.contains '-'))

/-- A character of the name of a group. -/
def isNamePart (character : Char) : Bool :=
  ['_', '.', '[', ']'].contains character || isAlphanumeric character

/-- A character with which the name of a group begins. -/
def opensName (character : Char) : Bool :=
  character = '_' || isAlphanumeric character && !isNumeric character

/-- What an opening bracket leads to. -/
inductive Opening where
  /-- Flags for what follows. -/
  | flags (mode : Mode) (rest : List Char)
  /-- A group, with a name or without one. -/
  | group (name : Option (List Char)) (mode : Mode) (rest : List Char)

/-- Reads the name of a group up to its end. -/
def nameOf? (mode : Mode) (text : List Char) : Option Opening :=
  let name := text.takeWhile (· ≠ '>')
  match text.drop name.length with
  | _ :: rest =>
    if name.head?.any opensName && name.all isNamePart then some (.group (some name) mode rest)
    else none
  | [] => none

/-- Reads what stands behind an opening bracket. -/
def opening? (mode : Mode) : List Char → Option Opening
  | '?' :: 'P' :: '<' :: rest => nameOf? mode rest
  | '?' :: '<' :: rest => nameOf? mode rest
  | '?' :: rest => do
    let (inner, behind) ← flags? rest [] mode
    match behind with
    | ':' :: behind => return .group none inner behind
    | behind => if rest.head? = some ')' then none else return .flags inner (behind.drop 1)
  | rest => some (.group none mode rest)

/-! ### Patterns -/

/-- How far a pattern was read. -/
structure Reading where
  mode : Mode := {}
  /-- What was read of the innermost group that is open. -/
  nesting : Nesting := {}
  /-- The modes of the groups that are open, and what was read in front of them, the innermost
  first. -/
  groups : List (Mode × Nesting) := []
  names : List (List Char) := []
  /-- Whether something stands in front that can be repeated. -/
  isRepeatable : Bool := false

/-- A part of a depth was read. -/
def Reading.add (reading : Reading) (depth : Nat) : Reading :=
  { reading with nesting := reading.nesting.add depth, isRepeatable := true }

/-- Flags were read that lead to a mode. -/
def Reading.addFlags (reading : Reading) (mode : Mode) : Reading :=
  { reading with mode, nesting := reading.nesting.add 0, isRepeatable := false }

/-- The sign of a repetition was read. -/
def Reading.repeatLast (reading : Reading) : Reading :=
  { reading with nesting := reading.nesting.repeated }

/-- A bar was read. -/
def Reading.bar (reading : Reading) : Reading :=
  { reading with nesting := reading.nesting.bar, isRepeatable := false }

/-- A group was opened. -/
def Reading.openGroup (reading : Reading) (name : Option (List Char)) (mode : Mode) : Reading where
  mode
  groups := (reading.mode, reading.nesting) :: reading.groups
  names := name.toList ++ reading.names

/-- A group was closed, if one was open. -/
def Reading.closeGroup? (reading : Reading) : Option Reading :=
  match reading.groups with
  | [] => none
  | (mode, nesting) :: groups =>
    some ({ reading with mode, nesting, groups }.add (reading.nesting.whole + 1))

/-- Whether the rest of a pattern is well formed, as far as so many steps lead. -/
def Reading.accepts : Nat → Reading → List Char → Bool
  | 0, _, _ => false
  | fuel + 1, reading, text =>
    match reading.mode.skip text with
    | [] => reading.groups.isEmpty && reading.nesting.whole ≤ depthLimit
    | '(' :: rest =>
      match opening? reading.mode (reading.mode.skip rest) with
      | none => false
      | some (.flags mode rest) => accepts fuel (reading.addFlags mode) rest
      | some (.group name mode rest) =>
        name.all (!reading.names.contains ·) && accepts fuel (reading.openGroup name mode) rest
    | ')' :: rest =>
      match reading.closeGroup? with
      | none => false
      | some reading => accepts fuel reading rest
    | '|' :: rest => accepts fuel reading.bar rest
    | '[' :: rest =>
      match class? reading.mode rest with
      | none => false
      | some (depth, rest) => accepts fuel (reading.add depth) rest
    | '\x7b' :: _ => false
    | '\\' :: rest =>
      match escape? reading.mode rest with
      | none => false
      | some (escape, rest) =>
        reading.mode.takesEscape escape && accepts fuel (reading.add 0) rest
    | sign :: rest =>
      if sign = '*' ∨ sign = '+' ∨ sign = '?' then
        reading.isRepeatable
          && accepts fuel reading.repeatLast (if rest.head? = some '?' then rest.drop 1 else rest)
      else if sign = '.' then !reading.mode.isBytewise && accepts fuel (reading.add 0) rest
      else if sign = '^' ∨ sign = '$' then accepts fuel (reading.add 0) rest
      else reading.mode.takes sign false && accepts fuel (reading.add 0) rest

/-- Whether a text is a pattern. -/
def isPattern (text : List Char) : Bool :=
  Reading.accepts (text.length + 1) {} text

end Testbed.Pattern
