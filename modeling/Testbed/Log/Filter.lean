/-
This file defines filters of log events. A filter is a list of rules between commas; each rule names
the beginning of the targets it is for and how detailed their events may be. For each target the
rule with the longest such beginning decides, and without one nothing is let through. Rules for the
events within a span or with a certain value of a field decide nothing for a target as a whole. A
text with one rule that is not well formed is no filter. The filter of a run is chosen once: the one
that the test asks for, or that of a variable, or the one that holds otherwise.
-/

import Testbed.Log.Event
import Testbed.Log.Pattern
import Testbed.Text.Excerpt
import Testbed.Text.Numeral

namespace Testbed

open Text

/-- How detailed the events may be that are let through; none if no event is. -/
abbrev Detail := Option Level

namespace Level

/-- All levels, the least detailed first. -/
def byDetail : List Level := [error, warn, info, debug, trace]

/-- Whether a text is the name of a level, in letters of either case. -/
def isNamed (level : Level) (text : List Char) : Bool :=
  text.map Char.toUpper == level.name.toList

end Level

namespace Detail

/-- The detail of a number: zero lets nothing through, and each one more lets one more level
through. -/
def ofNumber? : Nat → Option Detail
  | 0 => some none
  | number + 1 => Level.byDetail[number]?.map some

/-- The detail of a name: that of a level, or the word for nothing. -/
def ofName? (text : List Char) : Option Detail :=
  if text.map Char.toUpper = ['O', 'F', 'F'] then some none
  else (Level.byDetail.find? fun level => level.isNamed text).map some

/-- The detail that a text stands for, as a number or as a name. -/
def ofText? (text : List Char) : Option Detail :=
  match numeral 0xFFFFFFFFFFFFFFFF (String.ofList text) with
  | .ok number => ofNumber? number
  | .error _ => ofName? text

end Detail

/-- What a field has to be like for a rule. -/
structure FieldCondition where
  name : List Char
  /-- Whether the field has to have a certain value. -/
  hasValue : Bool
  deriving DecidableEq

namespace FieldCondition

/-- Digits, of which there is one at least. -/
def isDigits (text : List Char) : Bool :=
  !text.isEmpty && text.all Char.isDigit

/-- Whether a text is an exponent of ten, with a sign or without one. -/
def isExponent : List Char → Bool
  | '+' :: digits => isDigits digits
  | '-' :: digits => isDigits digits
  | digits => isDigits digits

/-- Whether a text is a number without a sign: digits with a point or without one and an exponent or
none, or a word for what is not finite. -/
def isMagnitude (text : List Char) : Bool :=
  let whole := text.takeWhile Char.isDigit
  let behind := text.drop whole.length
  let (fraction, exponent) := match behind with
    | '.' :: rest => (rest.takeWhile Char.isDigit, rest.dropWhile Char.isDigit)
    | rest => ([], rest)
  ["inf", "infinity", "nan"].contains (String.ofList (text.map Char.toLower))
    || !(whole ++ fraction).isEmpty && match exponent with
      | [] => true
      | mark :: rest => mark.toLower = 'e' && isExponent rest

/-- Whether a text is a number. -/
def isNumber : List Char → Bool
  | '+' :: magnitude => isMagnitude magnitude
  | '-' :: magnitude => isMagnitude magnitude
  | magnitude => isMagnitude magnitude

/-- Whether a text is a value of a field: a number, or a pattern for a text. -/
def isValue (text : List Char) : Bool :=
  isNumber text || Pattern.isPattern text

/-- Reads a name, and a value behind an equals sign. What stands behind one more is left out. -/
def ofText? (text : List Char) : Option FieldCondition :=
  match splitAt '=' text with
  | [] => none
  | [name] => some { name, hasValue := false }
  | name :: value :: _ => if isValue value then some { name, hasValue := true } else none

end FieldCondition

/-- A rule of a filter. -/
structure FilterRule where
  /-- What targets begin with; none for every target. -/
  target : Option (List Char) := none
  /-- The name of the span within which the rule holds. -/
  span : Option (List Char) := none
  field : Option FieldCondition := none
  detail : Detail

namespace FilterRule

/-- A character with which a rule begins, apart from a bracket. -/
def opensTarget (character : Char) : Bool :=
  character = '-' || character = ':' || character = '_' || isAlphanumeric character

/-- The detail behind the equals sign of a rule. Without one all events are let through. -/
def detailBehind? (text : List Char) : Option Detail :=
  if text.isEmpty then some (some .trace) else Detail.ofText? text

/-- The rule for a text without equals sign and brackets: the detail for every target, or a target
all of whose events are let through. -/
def ofName (text : List Char) : FilterRule :=
  match Detail.ofText? text with
  | some detail => { detail }
  | none => { target := some text, detail := some .trace }

/-! A rule is read from its text without the blanks at the ends, but its parts are cut from the text
as it is written, at the same places counted in bytes. -/

/-- The detail of a rule whose target and condition end at a place. -/
def detailFrom? (text : List Char) (place : Nat) : (rest : List Char) → Option Detail
  | [] => some (some .trace)
  | '=' :: _ => (dropBytes? (place + 1) text).bind detailBehind?
  | _ => none

/-- The rule whose condition begins at a place: the name of a span, one field in braces, or both. -/
def ofCondition? (text : List Char) (target : Option (List Char)) (place : Nat)
    (condition : List Char) : Option FilterRule := do
  let span := condition.takeWhile fun character => character ≠ ']' ∧ character ≠ '\x7b'
  let spanEnd := place + byteCount span
  match condition.drop span.length with
  | ']' :: rest =>
    let detail ← detailFrom? text (spanEnd + 1) rest
    return { target, span := some (← between? place spanEnd text), detail }
  | '\x7b' :: inner =>
    let field := inner.takeWhile (· ≠ '\x7d')
    let fieldEnd := spanEnd + 1 + byteCount field
    match inner.drop field.length with
    | '\x7d' :: ']' :: rest =>
      let condition ← FieldCondition.ofText? (← between? (spanEnd + 1) fieldEnd text)
      let detail ← detailFrom? text (fieldEnd + 2) rest
      let name ← between? place spanEnd text
      if field.isEmpty then none
      else return { target, span := if name.isEmpty then none else some name,
                    field := some condition, detail }
    | _ => none
  | _ => none

/-- The rule of a text. -/
def ofText? (text : List Char) : Option FilterRule := do
  let trimmed := (trim (String.ofList text)).toList
  let first ← trimmed.head?
  if opensTarget first || first = '[' then
    let name := trimmed.takeWhile fun character => character ≠ '=' ∧ character ≠ '['
    let nameEnd := byteCount name
    let target ← between? 0 nameEnd text
    match trimmed.drop name.length with
    | [] => return ofName text
    | '[' :: condition =>
      ofCondition? text (if target.isEmpty then none else some target) (nameEnd + 1) condition
    | rest => return { target := some target, detail := ← detailFrom? text nameEnd rest }
  else none

/-- The length of what targets begin with. -/
def reach (rule : FilterRule) : Nat :=
  match rule.target with
  | none => 0
  | some target => target.length

/-- Whether a rule is for all events of a target: it names no span and no value of a field. -/
def covers (rule : FilterRule) (target : List Char) : Bool :=
  rule.span.isNone && !rule.field.any (·.hasValue) && match rule.target with
    | none => true
    | some beginning => beginning.isPrefixOf target

/-- The name of the field of a rule. -/
def fieldName (rule : FilterRule) : Option String :=
  rule.field.map fun field => String.ofList field.name

/-- Whether a rule gives way to a later one: that one reaches as far at least, and of two that reach
as far, it names a field that does not come before the field of the other. -/
def yieldsTo (earlier later : FilterRule) : Bool :=
  if earlier.reach = later.reach then
    match earlier.fieldName, later.fieldName with
    | none, _ => true
    | some _, none => false
    | some earlier, some later => !(later < earlier)
  else earlier.reach < later.reach

/-- The rule that decides between the one held so far and a later one. -/
def decisive (held : Option FilterRule) (later : FilterRule) : Option FilterRule :=
  match held with
  | none => some later
  | some earlier => if earlier.yieldsTo later then some later else some earlier

end FilterRule

/-- A filter of log events. -/
structure Filter where
  rules : List FilterRule

namespace Filter

/-- The filter of a text: its rules between commas. Nothing between two commas is no rule. -/
def ofText? (text : String) : Option Filter :=
  (((splitAt ',' text.toList).filter (!·.isEmpty)).mapM FilterRule.ofText?).map Filter.mk

/-- The most detailed events of a target that are let through. -/
def detail (filter : Filter) (target : String) : Detail :=
  let covering := filter.rules.filter fun rule => rule.covers target.toList
  (covering.foldl FilterRule.decisive none).bind (·.detail)

/-- The filter that holds unless another is asked for. -/
def usualText : String := "lake_harness=debug,lake=debug,sqlx=warn,rdkafka=info"

/-- The filter of a run: the first that is well formed of the one asked for, the one of the variable
and the usual one. -/
def choose (asked variableText : Option String) : Filter :=
  ((asked.bind ofText?).or ((variableText.bind ofText?).or (ofText? usualText))).getD ⟨[]⟩

end Filter

/-- The filter in force: none before one was asked for, and the first one from then on. -/
def Filter.inForce (requests : List (Option String)) (variableText : Option String) :
    Option Filter :=
  requests.head?.map fun asked => choose asked variableText

end Testbed
