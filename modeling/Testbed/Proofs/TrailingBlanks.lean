/-
This file proves that a blank behind a text changes nothing of the token at its front. A reading
that succeeds leaves the blank behind what it left before, and a reading that fails still fails,
though the fault may be another one: what broke off before is malformed with a blank at its end.
Each reading is compared with itself on the longer text, and the induction is on the text.
-/

import Testbed.Proofs.ReadBack

namespace Testbed.Json

open Text

variable {Value First Second Third Fourth : Type}

/-! ### Readings that agree -/

/-- Whether two readings agree: both fail, or both succeed and the second one gives what the first
one gives, carried over. -/
def Agree (carry : First → Second) (short : Except Fault First) (long : Except Fault Second) :
    Prop :=
  (∃ fault longFault, short = .error fault ∧ long = .error longFault) ∨
    ∃ value, short = .ok value ∧ long = .ok (carry value)

theorem Agree.error {carry : First → Second} (fault longFault : Fault) :
    Agree carry (.error fault) (.error longFault) :=
  .inl ⟨fault, longFault, rfl, rfl⟩

theorem Agree.ok {carry : First → Second} (value : First) :
    Agree carry (.ok value) (.ok (carry value)) :=
  .inr ⟨value, rfl, rfl⟩

theorem Agree.bind {carry : First → Second} {carryOn : Third → Fourth} {short : Except Fault First}
    {long : Except Fault Second} (agree : Agree carry short long)
    {next : First → Except Fault Third} {nextLong : Second → Except Fault Fourth}
    (onward : ∀ value, short = .ok value → Agree carryOn (next value) (nextLong (carry value))) :
    Agree carryOn (short.bind next) (long.bind nextLong) := by
  obtain ⟨fault, longFault, rfl, rfl⟩ | ⟨value, rfl, rfl⟩ := agree
  · exact .error fault longFault
  · exact onward value rfl

theorem Agree.map {carry : First → Second} {carryOn : Third → Fourth} {short : Except Fault First}
    {long : Except Fault Second} (agree : Agree carry short long) {make : First → Third}
    {makeLong : Second → Fourth} (same : ∀ value, makeLong (carry value) = carryOn (make value)) :
    Agree carryOn (short.map make) (long.map makeLong) := by
  obtain ⟨fault, longFault, rfl, rfl⟩ | ⟨value, rfl, rfl⟩ := agree
  · exact .error fault longFault
  · exact .inr ⟨make value, rfl, congrArg Except.ok (same value)⟩

theorem Agree.ite {carry : First → Second} {condition : Prop} {_ : Decidable condition}
    {short other : Except Fault First} {long otherLong : Except Fault Second}
    (whenTrue : Agree carry short long) (whenFalse : Agree carry other otherLong) :
    Agree carry (if condition then short else other) (if condition then long else otherLong) := by
  split
  · exact whenTrue
  · exact whenFalse

/-- A text with a blank behind it. -/
def withBlank (blank : Char) (text : List Char) : List Char :=
  text ++ [blank]

/-- What was read with the text behind it, once a blank stands behind that text. -/
def beforeBlank (blank : Char) : Value × List Char → Value × List Char :=
  Prod.map id (withBlank blank)

@[simp] theorem withBlank_nil (blank : Char) : withBlank blank [] = [blank] := rfl

@[simp] theorem withBlank_cons (blank next : Char) (rest : List Char) :
    withBlank blank (next :: rest) = next :: withBlank blank rest := rfl

@[simp] theorem beforeBlank_mk (blank : Char) (value : Value) (rest : List Char) :
    beforeBlank blank (value, rest) = (value, withBlank blank rest) := rfl

@[simp] theorem length_withBlank (blank : Char) (text : List Char) :
    (withBlank blank text).length = text.length + 1 :=
  List.length_append

theorem Agree.prepend {blank : Char} {short long : Front (List Char)}
    (agree : Agree (beforeBlank blank) short long) (character : Char) :
    Agree (beforeBlank blank) (prepend character short) (prepend character long) :=
  agree.map fun _ => rfl

theorem Agree.ofShorter {carry : First → Second} {blank : Char} {text rest : List Char}
    {short : Except Fault First} {long : Except Fault Second}
    (agree : rest.length < text.length → Agree carry short long) :
    Agree carry (if rest.length < text.length then short else .error .malformed)
      (if (withBlank blank rest).length < (withBlank blank text).length then long
        else .error .malformed) := by
  rw [length_withBlank, length_withBlank]
  by_cases shorter : rest.length < text.length
  · rw [if_pos shorter, if_pos (Nat.succ_lt_succ shorter)]
    exact agree shorter
  · rw [if_neg shorter, if_neg (mt Nat.lt_of_succ_lt_succ shorter)]
    exact .error _ _

theorem Agree.behind {blank : Char} (result : Except Fault First) (make : First → Value)
    (rest : List Char) :
    Agree (beforeBlank blank) (result.map fun read => (make read, rest))
      (result.map fun read => (make read, withBlank blank rest)) := by
  cases result with
  | error fault => exact .error fault fault
  | ok read => exact .ok (make read, rest)

/-! ### Units of strings -/

/-- Reads the four digits of a unit, as strings that are read and strings that are passed over both
have it. -/
def unitOf : List Char → Front Nat
  | first :: second :: third :: fourth :: rest =>
    match hexUnit? first second third fourth with
    | none => .error .malformed
    | some unit => .ok (unit, rest)
  | few => .error (shortUnit few)

/-- Reads the unit that stands behind a leading one, with its backslash. -/
def trailingOf : List Char → Front Nat
  | [] => .error .ended
  | ['\\'] => .error .ended
  | '\\' :: 'u' :: text => unitOf text
  | _ => .error .malformed

theorem exists_trailingOf_eq_error {text : List Char}
    (noPair : ¬ ∃ pair, text = '\\' :: 'u' :: pair) : ∃ fault, trailingOf text = .error fault := by
  unfold trailingOf
  split
  next => exact ⟨_, rfl⟩
  next => exact ⟨_, rfl⟩
  next pair => exact absurd ⟨pair, rfl⟩ noPair
  next => exact ⟨_, rfl⟩

theorem unitOf_bind (text : List Char) (next : Nat × List Char → Except Fault Value) :
    (unitOf text).bind next = match text with
      | first :: second :: third :: fourth :: rest =>
        match hexUnit? first second third fourth with
        | none => .error .malformed
        | some unit => next (unit, rest)
      | few => .error (shortUnit few) := by
  unfold unitOf
  split
  next => split <;> rfl
  next => rfl

theorem trailingOf_bind (text : List Char) (next : Nat × List Char → Except Fault Value) :
    (trailingOf text).bind next = match text with
      | [] => .error .ended
      | ['\\'] => .error .ended
      | '\\' :: 'u' :: pair => (unitOf pair).bind next
      | _ => .error .malformed := by
  unfold trailingOf
  split <;> rfl

/-- The string goes on behind its units. -/
theorem stringBody_unit (text : List Char) :
    stringBody ('\\' :: 'u' :: text) = (unitOf text).bind fun (unit, rest) =>
      if isTrailing unit then .error .malformed
      else if isLeading unit then (trailingOf rest).bind fun (trailing, rest) =>
        if isTrailing trailing then prepend (pairedCharacter unit trailing) (stringBody rest)
        else .error .malformed
      else prepend (Char.ofNat unit) (stringBody rest) := by
  rw [unitOf_bind]
  simp only [trailingOf_bind, unitOf_bind]
  rw [stringBody.eq_def]
  rfl

theorem stringBody_escape {letter : Char} (notUnit : letter ≠ 'u') (rest : List Char) :
    stringBody ('\\' :: letter :: rest) = match escapedCharacter? letter with
      | some character => prepend character (stringBody rest)
      | none => .error .malformed := by
  cases escaped : escapedCharacter? letter with
  | none =>
    rw [stringBody, escaped]
    exact notUnit
  | some character =>
    rw [stringBody, escaped]
    exact notUnit

theorem stringBody_visible {character : Char} (notQuote : character ≠ '"')
    (notBackslash : character ≠ '\\') (rest : List Char) :
    stringBody (character :: rest) =
      if character.toNat < 0x20 then .error .malformed
      else prepend character (stringBody rest) := by
  rw [stringBody]
  all_goals simp [notQuote, notBackslash]

theorem skipString_unit (text : List Char) :
    skipString ('\\' :: 'u' :: text) = (unitOf text).bind fun (_, rest) => skipString rest := by
  rw [unitOf_bind, skipString.eq_def]
  rfl

theorem skipString_escape {letter : Char} (notUnit : letter ≠ 'u') (rest : List Char) :
    skipString ('\\' :: letter :: rest) =
      if (escapedCharacter? letter).isSome then skipString rest else .error .malformed := by
  rw [skipString]
  exact notUnit

theorem skipString_visible {character : Char} (notQuote : character ≠ '"')
    (notBackslash : character ≠ '\\') (rest : List Char) :
    skipString (character :: rest) =
      if character.toNat < 0x20 then .error .malformed else skipString rest := by
  rw [skipString]
  all_goals simp [notQuote, notBackslash]

theorem length_of_unitOf {text : List Char} {unit : Nat} {rest : List Char}
    (isRead : unitOf text = .ok (unit, rest)) : rest.length < text.length := by
  unfold unitOf at isRead
  split at isRead
  next =>
    split at isRead
    · cases isRead
    · cases isRead
      simp +arith
  next => cases isRead

theorem length_of_trailingOf {text : List Char} {unit : Nat} {rest : List Char}
    (isRead : trailingOf text = .ok (unit, rest)) : rest.length < text.length := by
  unfold trailingOf at isRead
  split at isRead
  next => cases isRead
  next => cases isRead
  next => exact Nat.lt_add_right 2 (length_of_unitOf isRead)
  next => cases isRead

/-! ### Letters of numbers -/

theorem doublePart_cons (negative : Bool) (significand : Nat) (scale : Int) (next : Char)
    (rest : List Char) :
    doublePart negative significand scale (next :: rest) =
      if next = 'e' ∨ next = 'E' then exponentPart negative significand scale rest
      else (scaled significand scale).map fun value => (signed negative value, next :: rest) := by
  unfold doublePart
  split <;> simp_all

/-- Finishes a number whose whole part was too long to be read as an integer. -/
def pointPart (negative : Bool) (significand : Nat) (scale : Int) : List Char → Front Number
  | '.' :: rest => fractionPart negative significand scale rest
  | rest => doublePart negative significand scale rest

theorem pointPart_cons (negative : Bool) (significand : Nat) (scale : Int) (next : Char)
    (rest : List Char) :
    pointPart negative significand scale (next :: rest) =
      if next = '.' then fractionPart negative significand scale rest
      else doublePart negative significand scale (next :: rest) := by
  unfold pointPart
  split <;> simp_all

theorem afterWhole_cons (negative : Bool) (significand : Nat) (next : Char) (rest : List Char) :
    afterWhole negative significand (next :: rest) =
      if isDigit next then
        pointPart negative significand ((next :: rest).takeWhile isDigit).length
          ((next :: rest).dropWhile isDigit)
      else if next = '.' then fractionPart negative significand 0 rest
      else if next = 'e' ∨ next = 'E' then exponentPart negative significand 0 rest
      else .ok (wholeNumber negative significand, next :: rest) := by
  unfold afterWhole
  split
  next => simp_all [show isDigit '.' = false by decide]
  next => simp_all [show isDigit 'e' = false by decide]
  next => simp_all [show isDigit 'E' = false by decide]
  next noPoint noLower noUpper =>
    have notPoint : next ≠ '.' := fun same => noPoint rest (same ▸ rfl)
    have notLetter : ¬ (next = 'e' ∨ next = 'E') :=
      not_or.2 ⟨fun same => noLower rest (same ▸ rfl), fun same => noUpper rest (same ▸ rfl)⟩
    rw [if_neg notPoint, if_neg notLetter]
    rfl

theorem numberBody_cons (negative : Bool) (next : Char) (rest : List Char) :
    numberBody negative (next :: rest) =
      if next = '0' then if digitNext rest then .error .malformed else afterWhole negative 0 rest
      else if isDigit next then
        afterWhole negative (significandFrom 0 0 (next :: rest)).1
          (significandFrom 0 0 (next :: rest)).2.2
      else .error .malformed := by
  unfold numberBody
  split <;> simp_all

theorem skipScale_cons (next : Char) (rest : List Char) :
    skipScale (next :: rest) = if next = 'e' ∨ next = 'E' then skipExponent rest
      else .ok (next :: rest) := by
  unfold skipScale
  split <;> simp_all

/-- Passes over what may follow the whole part of a number. -/
def skipPoint : List Char → Except Fault (List Char)
  | '.' :: fraction =>
    if digitNext fraction then skipScale (fraction.dropWhile isDigit) else .error .malformed
  | rest => skipScale rest

theorem skipPoint_cons (next : Char) (rest : List Char) :
    skipPoint (next :: rest) =
      if next = '.' then
        if digitNext rest then skipScale (rest.dropWhile isDigit) else .error .malformed
      else skipScale (next :: rest) := by
  unfold skipPoint
  split <;> simp_all

theorem skipNumber_cons (next : Char) (rest : List Char) :
    skipNumber (next :: rest) =
      if !isDigit next || (next = '0' && digitNext rest) then .error .malformed
      else skipPoint (rest.dropWhile isDigit) :=
  rfl

/-! ### Blanks behind tokens -/

section

variable {blank : Char} (isBlank : isSpace blank = true)

include isBlank

theorem ne_of_isSpace {letter : Char} (visible : isSpace letter = false) : blank ≠ letter := by
  rintro rfl
  rw [visible] at isBlank
  cases isBlank

theorem eq_of_isSpace : blank = ' ' ∨ blank = '\n' ∨ blank = '\t' ∨ blank = '\r' := by
  simpa [isSpace, or_assoc] using isBlank

theorem isDigit_of_isSpace : isDigit blank = false := by
  obtain rfl | rfl | rfl | rfl := eq_of_isSpace isBlank <;> decide

theorem hexUnit?_of_isSpace (first second third : Char) :
    hexUnit? first second third blank = none := by
  have noDigit : hexValue? blank = none := by
    obtain rfl | rfl | rfl | rfl := eq_of_isSpace isBlank <;> decide
  simp [hexUnit?, noDigit]

theorem escapedCharacter?_of_isSpace : escapedCharacter? blank = none := by
  obtain rfl | rfl | rfl | rfl := eq_of_isSpace isBlank <;> decide

/-- The blank is passed over with the blanks before it, or it stays behind what comes next. -/
theorem skipSpace_withBlank (text : List Char) :
    (skipSpace text = [] ∧ skipSpace (withBlank blank text) = []) ∨
      ∃ next rest, skipSpace text = next :: rest ∧
        skipSpace (withBlank blank text) = next :: withBlank blank rest := by
  unfold skipSpace withBlank
  rw [List.dropWhile_append]
  cases List.dropWhile isSpace text with
  | nil => exact .inl ⟨rfl, by simp [isBlank]⟩
  | cons next rest => exact .inr ⟨next, rest, rfl, rfl⟩

theorem word_withBlank {expected : List Char}
    (visible : ∀ letter ∈ expected, isSpace letter = false) (text : List Char) :
    Agree (withBlank blank) (word expected text) (word expected (withBlank blank text)) := by
  induction expected generalizing text with
  | nil => exact .ok text
  | cons letter more inductionHypothesis =>
    have others := fun other member => visible other (List.mem_cons_of_mem letter member)
    cases text with
    | nil =>
      have notLetter := ne_of_isSpace isBlank (visible letter List.mem_cons_self)
      rw [withBlank_nil, word, word, if_neg notLetter]
      exact .error _ _
    | cons next rest =>
      rw [withBlank_cons, word, word]
      split
      · exact inductionHypothesis others rest
      · exact .error _ _

theorem unitOf_withBlank (text : List Char) :
    Agree (beforeBlank blank) (unitOf text) (unitOf (withBlank blank text)) := by
  match text with
  | first :: second :: third :: fourth :: rest =>
    simp only [withBlank_cons, unitOf]
    cases hexUnit? first second third fourth with
    | none => exact .error _ _
    | some unit => exact .ok (unit, rest)
  | [] | [_] | [_, _] => exact .error _ _
  | [first, second, third] =>
    simp only [withBlank_cons, withBlank_nil, unitOf, hexUnit?_of_isSpace isBlank]
    exact .error _ _

theorem trailingOf_withBlank (text : List Char) :
    Agree (beforeBlank blank) (trailingOf text) (trailingOf (withBlank blank text)) := by
  -- The blank is neither a backslash nor a letter, so it can not make a pair of what was none.
  by_cases isPair : ∃ pair, text = '\\' :: 'u' :: pair
  · obtain ⟨pair, rfl⟩ := isPair
    exact unitOf_withBlank isBlank pair
  · have noPair : ¬ ∃ pair, withBlank blank text = '\\' :: 'u' :: pair := by
      match text with
      | [] => simp
      | [_] =>
        have notUnit : blank ≠ 'u' := ne_of_isSpace isBlank rfl
        simp [notUnit]
      | _ :: _ :: _ => simpa using isPair
    obtain ⟨fault, short⟩ := exists_trailingOf_eq_error isPair
    obtain ⟨longFault, long⟩ := exists_trailingOf_eq_error noPair
    rw [short, long]
    exact .error fault longFault

theorem stringBody_withBlank (text : List Char) :
    Agree (beforeBlank blank) (stringBody text) (stringBody (withBlank blank text)) := by
  have notQuote : blank ≠ '"' := ne_of_isSpace isBlank rfl
  have notBackslash : blank ≠ '\\' := ne_of_isSpace isBlank rfl
  have notUnit : blank ≠ 'u' := ne_of_isSpace isBlank rfl
  match text with
  | [] =>
    rw [withBlank_nil, stringBody_visible notQuote notBackslash]
    split <;> exact .error _ _
  | character :: rest =>
    rw [withBlank_cons]
    by_cases quote : character = '"'
    · subst quote
      exact .ok ([], rest)
    by_cases backslash : character = '\\'
    · subst backslash
      match rest with
      | [] =>
        rw [withBlank_nil, stringBody_escape notUnit, escapedCharacter?_of_isSpace isBlank]
        exact .error _ _
      | letter :: others =>
        rw [withBlank_cons]
        by_cases unit : letter = 'u'
        · subst unit
          rw [stringBody_unit, stringBody_unit]
          -- The string goes on behind one unit or two, so the text gets shorter by more than one.
          refine (unitOf_withBlank isBlank others).bind fun (unit, behind) isRead => ?_
          have shorter := length_of_unitOf isRead
          refine .ite (.error _ _) (.ite ?_ ((stringBody_withBlank behind).prepend _))
          refine (trailingOf_withBlank isBlank behind).bind fun (trailing, last) isRead => ?_
          have shortest := length_of_trailingOf isRead
          exact .ite ((stringBody_withBlank last).prepend _) (.error _ _)
        · rw [stringBody_escape unit, stringBody_escape unit]
          cases escapedCharacter? letter with
          | none => exact .error _ _
          | some character => exact (stringBody_withBlank others).prepend character
    · rw [stringBody_visible quote backslash, stringBody_visible quote backslash]
      exact .ite (.error _ _) ((stringBody_withBlank rest).prepend character)
termination_by text.length

theorem skipString_withBlank (text : List Char) :
    Agree (withBlank blank) (skipString text) (skipString (withBlank blank text)) := by
  have notQuote : blank ≠ '"' := ne_of_isSpace isBlank rfl
  have notBackslash : blank ≠ '\\' := ne_of_isSpace isBlank rfl
  have notUnit : blank ≠ 'u' := ne_of_isSpace isBlank rfl
  match text with
  | [] =>
    rw [withBlank_nil, skipString_visible notQuote notBackslash]
    split <;> exact .error _ _
  | character :: rest =>
    rw [withBlank_cons]
    by_cases quote : character = '"'
    · subst quote
      exact .ok rest
    by_cases backslash : character = '\\'
    · subst backslash
      match rest with
      | [] =>
        rw [withBlank_nil, skipString_escape notUnit, escapedCharacter?_of_isSpace isBlank]
        exact .error _ _
      | letter :: others =>
        rw [withBlank_cons]
        by_cases unit : letter = 'u'
        · subst unit
          rw [skipString_unit, skipString_unit]
          refine (unitOf_withBlank isBlank others).bind fun (_, behind) isRead => ?_
          have shorter := length_of_unitOf isRead
          exact skipString_withBlank behind
        · rw [skipString_escape unit, skipString_escape unit]
          exact .ite (skipString_withBlank others) (.error _ _)
    · rw [skipString_visible quote backslash, skipString_visible quote backslash]
      exact .ite (.error _ _) (skipString_withBlank rest)
termination_by text.length

/-! ### Blanks behind numbers -/

theorem digitNext_withBlank (text : List Char) :
    digitNext (withBlank blank text) = digitNext text := by
  cases text with
  | nil => exact isDigit_of_isSpace isBlank
  | cons next rest => rfl

theorem dropWhile_isDigit_withBlank (text : List Char) :
    (withBlank blank text).dropWhile isDigit = withBlank blank (text.dropWhile isDigit) := by
  unfold withBlank
  rw [List.dropWhile_append]
  cases text.dropWhile isDigit with
  | nil => simp [isDigit_of_isSpace isBlank]
  | cons next rest => rfl

theorem takeWhile_isDigit_withBlank (text : List Char) :
    (withBlank blank text).takeWhile isDigit = text.takeWhile isDigit := by
  induction text with
  | nil => simp [isDigit_of_isSpace isBlank]
  | cons next rest inductionHypothesis =>
    rw [withBlank_cons, List.takeWhile_cons, List.takeWhile_cons, inductionHypothesis]

theorem digitValue?_of_isSpace : digitValue? blank = none := by
  simpa [isDigit] using isDigit_of_isSpace isBlank

theorem significandFrom_withBlank (significand count : Nat) (text : List Char) :
    significandFrom significand count (withBlank blank text) =
      Prod.map id (beforeBlank blank) (significandFrom significand count text) := by
  induction text generalizing significand count with
  | nil =>
    simp only [withBlank_nil, significandFrom, digitValue?_of_isSpace isBlank]
    rfl
  | cons next rest inductionHypothesis =>
    rw [withBlank_cons, significandFrom, significandFrom]
    cases digitValue? next with
    | none => rfl
    | some digit =>
      simp only [inductionHypothesis]
      split <;> rfl

theorem exponentFrom_withBlank (value : Nat) (text : List Char) :
    exponentFrom value (withBlank blank text) = beforeBlank blank (exponentFrom value text) := by
  induction text generalizing value with
  | nil =>
    simp only [withBlank_nil, exponentFrom, digitValue?_of_isSpace isBlank]
    rfl
  | cons next rest inductionHypothesis =>
    rw [withBlank_cons, exponentFrom, exponentFrom]
    cases digitValue? next with
    | none => rfl
    | some digit =>
      simp only [inductionHypothesis, dropWhile_isDigit_withBlank isBlank]
      split <;> rfl

theorem exponentSign_withBlank (text : List Char) :
    exponentSign (withBlank blank text) = beforeBlank blank (exponentSign text) := by
  cases text with
  | nil =>
    unfold exponentSign
    split
    all_goals simp_all [isSpace]
  | cons next rest =>
    unfold exponentSign
    rw [withBlank_cons]
    split <;> simp_all

/-- An exponent without digits fails with a blank as it fails at the end of the text. -/
theorem exponentPart_withBlank (negative : Bool) (significand : Nat) (scale : Int)
    (text : List Char) :
    Agree (beforeBlank blank) (exponentPart negative significand scale text)
      (exponentPart negative significand scale (withBlank blank text)) := by
  unfold exponentPart
  rw [exponentSign_withBlank isBlank]
  obtain ⟨lowers, digits⟩ := exponentSign text
  cases digits with
  | nil =>
    simp only [beforeBlank_mk, withBlank_nil, isDigit_of_isSpace isBlank]
    exact .error _ _
  | cons next rest =>
    simp only [beforeBlank_mk, withBlank_cons]
    refine .ite ?_ (.error _ _)
    rw [← withBlank_cons, exponentFrom_withBlank isBlank]
    obtain ⟨power, behind⟩ := exponentFrom 0 (next :: rest)
    cases power with
    | none => exact .ite (.error _ _) (.ok (_, behind))
    | some power => exact .behind _ _ behind

theorem doublePart_withBlank (negative : Bool) (significand : Nat) (scale : Int)
    (text : List Char) :
    Agree (beforeBlank blank) (doublePart negative significand scale text)
      (doublePart negative significand scale (withBlank blank text)) := by
  cases text with
  | nil =>
    have noLetter : ¬ (blank = 'e' ∨ blank = 'E') :=
      not_or.2 ⟨ne_of_isSpace isBlank rfl, ne_of_isSpace isBlank rfl⟩
    rw [withBlank_nil, doublePart_cons, if_neg noLetter]
    exact .behind _ _ []
  | cons next rest =>
    rw [withBlank_cons, doublePart_cons, doublePart_cons]
    exact .ite (exponentPart_withBlank isBlank negative significand scale rest)
      (.behind _ _ (next :: rest))

theorem fractionPart_withBlank (negative : Bool) (significand : Nat) (scale : Int)
    (text : List Char) :
    Agree (beforeBlank blank) (fractionPart negative significand scale text)
      (fractionPart negative significand scale (withBlank blank text)) := by
  cases text with
  | nil =>
    rw [withBlank_nil, fractionPart, fractionPart, isDigit_of_isSpace isBlank]
    exact .error _ _
  | cons next rest =>
    rw [withBlank_cons, fractionPart, fractionPart, ← withBlank_cons,
      significandFrom_withBlank isBlank]
    refine .ite ?_ (.error _ _)
    obtain ⟨grown, count, behind⟩ := significandFrom significand 0 (next :: rest)
    simp only [Prod.map_apply, id, beforeBlank_mk, dropWhile_isDigit_withBlank isBlank]
    exact doublePart_withBlank isBlank negative grown (scale - count) (behind.dropWhile isDigit)

theorem pointPart_withBlank (negative : Bool) (significand : Nat) (scale : Int)
    (text : List Char) :
    Agree (beforeBlank blank) (pointPart negative significand scale text)
      (pointPart negative significand scale (withBlank blank text)) := by
  cases text with
  | nil =>
    rw [withBlank_nil, pointPart_cons, if_neg (ne_of_isSpace isBlank rfl)]
    exact doublePart_withBlank isBlank negative significand scale []
  | cons next rest =>
    rw [withBlank_cons, pointPart_cons, pointPart_cons]
    exact .ite (fractionPart_withBlank isBlank negative significand scale rest)
      (doublePart_withBlank isBlank negative significand scale (next :: rest))

theorem afterWhole_withBlank (negative : Bool) (significand : Nat) (text : List Char) :
    Agree (beforeBlank blank) (afterWhole negative significand text)
      (afterWhole negative significand (withBlank blank text)) := by
  cases text with
  | nil =>
    have stops : StopsNumber [blank] := ⟨isDigit_of_isSpace isBlank, ne_of_isSpace isBlank rfl,
      ne_of_isSpace isBlank rfl, ne_of_isSpace isBlank rfl⟩
    rw [withBlank_nil, afterWhole_of_stops negative significand stops]
    exact .ok (_, [])
  | cons next rest =>
    rw [withBlank_cons, afterWhole_cons, afterWhole_cons, ← withBlank_cons,
      takeWhile_isDigit_withBlank isBlank, dropWhile_isDigit_withBlank isBlank]
    exact .ite (pointPart_withBlank isBlank _ _ _ _)
      (.ite (fractionPart_withBlank isBlank _ _ _ rest)
        (.ite (exponentPart_withBlank isBlank _ _ _ rest) (.ok (_, next :: rest))))

theorem numberBody_withBlank (negative : Bool) (text : List Char) :
    Agree (beforeBlank blank) (numberBody negative text)
      (numberBody negative (withBlank blank text)) := by
  have noDigit := isDigit_of_isSpace isBlank
  cases text with
  | nil =>
    have notZero : blank ≠ '0' := fun same => absurd noDigit (same ▸ by decide)
    rw [withBlank_nil, numberBody_cons, if_neg notZero, noDigit]
    exact .error _ _
  | cons next rest =>
    rw [withBlank_cons, numberBody_cons, numberBody_cons, digitNext_withBlank isBlank,
      ← withBlank_cons, significandFrom_withBlank isBlank]
    exact .ite (.ite (.error _ _) (afterWhole_withBlank isBlank negative 0 rest))
      (.ite (afterWhole_withBlank isBlank negative _ _) (.error _ _))

theorem skipExponent_withBlank (text : List Char) :
    Agree (withBlank blank) (skipExponent text) (skipExponent (withBlank blank text)) := by
  unfold skipExponent
  rw [exponentSign_withBlank isBlank]
  obtain ⟨lowers, digits⟩ := exponentSign text
  simp only [beforeBlank_mk, digitNext_withBlank isBlank, dropWhile_isDigit_withBlank isBlank]
  exact .ite (.ok (digits.dropWhile isDigit)) (.error _ _)

theorem skipScale_withBlank (text : List Char) :
    Agree (withBlank blank) (skipScale text) (skipScale (withBlank blank text)) := by
  cases text with
  | nil =>
    have noLetter : ¬ (blank = 'e' ∨ blank = 'E') :=
      not_or.2 ⟨ne_of_isSpace isBlank rfl, ne_of_isSpace isBlank rfl⟩
    rw [withBlank_nil, skipScale_cons, if_neg noLetter]
    exact .ok []
  | cons next rest =>
    rw [withBlank_cons, skipScale_cons, skipScale_cons]
    exact .ite (skipExponent_withBlank isBlank rest) (.ok (next :: rest))

theorem skipPoint_withBlank (text : List Char) :
    Agree (withBlank blank) (skipPoint text) (skipPoint (withBlank blank text)) := by
  cases text with
  | nil =>
    rw [withBlank_nil, skipPoint_cons, if_neg (ne_of_isSpace isBlank rfl)]
    exact skipScale_withBlank isBlank []
  | cons next rest =>
    rw [withBlank_cons, skipPoint_cons, skipPoint_cons, digitNext_withBlank isBlank,
      dropWhile_isDigit_withBlank isBlank]
    exact .ite (.ite (skipScale_withBlank isBlank _) (.error _ _))
      (skipScale_withBlank isBlank (next :: rest))

theorem skipNumber_withBlank (text : List Char) :
    Agree (withBlank blank) (skipNumber text) (skipNumber (withBlank blank text)) := by
  cases text with
  | nil =>
    rw [withBlank_nil, skipNumber_cons, isDigit_of_isSpace isBlank]
    exact .error _ _
  | cons next rest =>
    rw [withBlank_cons, skipNumber_cons, skipNumber_cons, digitNext_withBlank isBlank,
      dropWhile_isDigit_withBlank isBlank]
    exact .ite (.error _ _) (skipPoint_withBlank isBlank _)

end

end Testbed.Json
