/-
This file proves that the compact text of a JSON value is read back as this value. What is read goes
on to the end of a value and no further, so each statement is about the text with any rest behind
it; only a number needs a rest that it can not go on with. Numbers are integers here, since a double
need not be read as the nearest one, and arrays and objects nest no deeper than the reader goes. The
induction is on the value, with the elements of an array and the members of an object one by one.
-/

import Testbed.Json.Reader
import Testbed.Text.Hex

namespace Testbed.Json

open Text

/-! ### Values and what they hold -/

mutual

/-- Whether something holds of a value and of all values in it. -/
def Everywhere (holds : Json → Prop) : Json → Prop
  | array elements => holds (array elements) ∧ EverywhereIn holds elements
  | object members => holds (object members) ∧ EverywhereAmong holds members
  | value => holds value

/-- Whether something holds of all values of a list and of all values in them. -/
def EverywhereIn (holds : Json → Prop) : List Json → Prop
  | [] => True
  | element :: rest => Everywhere holds element ∧ EverywhereIn holds rest

/-- Whether something holds of the values of all members and of all values in them. -/
def EverywhereAmong (holds : Json → Prop) : List (String × Json) → Prop
  | [] => True
  | (_, value) :: rest => Everywhere holds value ∧ EverywhereAmong holds rest

end

/-- Whether the members, where a value is an object, are listed by key in ascending order, none of
them twice. -/
def HasOrderedMembers : Json → Prop
  | object members => Sorted.Ascending members
  | _ => True

/-- Whether a value is anything but a double. -/
def IsNoDouble : Json → Prop
  | number (.double _) => False
  | _ => True

/-- Whether the members of all objects are ordered, as they are in every value that was read or put
together by `ofMembers`. -/
def IsOrdered : Json → Prop :=
  Everywhere HasOrderedMembers

/-- Whether all numbers are integers. -/
def IsIntegral : Json → Prop :=
  Everywhere IsNoDouble

mutual

/-- How deep arrays and objects nest. -/
def depth : Json → Nat
  | array elements => depthOfElements elements + 1
  | object members => depthOfMembers members + 1
  | _ => 0

/-- How deep the values of a list nest at most. -/
def depthOfElements : List Json → Nat
  | [] => 0
  | element :: rest => max (depth element) (depthOfElements rest)

/-- How deep the values of members nest at most. -/
def depthOfMembers : List (String × Json) → Nat
  | [] => 0
  | (_, value) :: rest => max (depth value) (depthOfMembers rest)

end

/-! ### Strings -/

theorem hexUnit?_hexDigits {number : Nat} (small : number < 0x20) :
    hexUnit? '0' '0' (hexDigit (number / 16)) (hexDigit (number % 16)) = some number := by
  have zero : hexValue? '0' = some 0 := by decide
  have high := hexValue?_hexDigit (number / 16) (by omega)
  have low := hexValue?_hexDigit (number % 16) (by omega)
  simp only [hexUnit?, zero, high, low, bind, Option.bind]
  congr 1
  omega

/-- A character of a string is read back as it is written. -/
theorem stringBody_escaped (character : Char) (rest : List Char) :
    stringBody (escaped character ++ rest) = prepend character (stringBody rest) := by
  unfold escaped
  split
  next quote => subst quote; rfl
  split
  next backslash => subst backslash; rfl
  split
  next back => subst back; rfl
  split
  next feed => subst feed; rfl
  split
  next line => subst line; rfl
  split
  next carriage => subst carriage; rfl
  split
  next tab => subst tab; rfl
  split
  next control =>
    have unit := hexUnit?_hexDigits control
    have notTrailing : isTrailing character.toNat = false := by simp [isTrailing]; omega
    have notLeading : isLeading character.toNat = false := by simp [isLeading]; omega
    simp only [List.cons_append, List.nil_append]
    rw [stringBody]
    simp [unit, notTrailing, notLeading]
  next notQuote notBackslash _ _ _ _ _ visible =>
    rw [List.singleton_append, stringBody]
    · exact if_neg visible
    all_goals simp [notQuote, notBackslash]

theorem stringBody_flatMap_escaped (text rest : List Char) :
    stringBody (text.flatMap escaped ++ '"' :: rest) = .ok (text, rest) := by
  induction text with
  | nil => rfl
  | cons character others inductionHypothesis =>
    rw [List.flatMap_cons, List.append_assoc, stringBody_escaped, inductionHypothesis]
    rfl

/-- A string is read back, whatever is made of it. -/
theorem map_stringBody {Value : Type} (make : String → List Char → Value) (text : String)
    (rest : List Char) :
    ((stringBody (text.toList.flatMap escaped ++ '"' :: rest)).map fun (characters, rest) =>
      make (String.ofList characters) rest) = .ok (make text rest) := by
  rw [stringBody_flatMap_escaped]
  exact congrArg (fun text => Except.ok (make text rest)) String.ofList_toList

theorem stringText_append (text : String) (rest : List Char) :
    stringText text ++ rest = '"' :: (text.toList.flatMap escaped ++ '"' :: rest) := by
  simp [stringText]

/-! ### Integers -/

/-- Whether a number can not go on with what comes behind it. -/
def StopsNumber : List Char → Prop
  | [] => True
  | next :: _ => isDigit next = false ∧ next ≠ '.' ∧ next ≠ 'e' ∧ next ≠ 'E'

theorem StopsNumber.digitNext {rest : List Char} (stops : StopsNumber rest) :
    digitNext rest = false := by
  cases rest with
  | nil => rfl
  | cons next others => exact stops.1

theorem between_iff_isDigit (character : Char) :
    ('0' ≤ character ∧ character ≤ '9') ↔ character.isDigit = true := by
  rw [Char.isDigit, Bool.and_eq_true, decide_eq_true_iff, decide_eq_true_iff]
  exact Iff.rfl

theorem digitValue?_of_isDigit {character : Char} (digit : character.isDigit = true) :
    digitValue? character = some (character.toNat - '0'.toNat) :=
  if_pos ((between_iff_isDigit character).2 digit)

theorem isDigit_eq (character : Char) : isDigit character = character.isDigit := by
  unfold isDigit digitValue?
  rw [Bool.eq_iff_iff, ← between_iff_isDigit]
  split <;> simp [*]

theorem ne_of_isDigit {next letter : Char} (digit : isDigit next = true)
    (noDigit : isDigit letter = false) : next ≠ letter := by
  rintro rfl
  rw [noDigit] at digit
  cases digit

theorem isDigit_of_mem_digitsOf {number : Nat} {digit : Char}
    (member : digit ∈ Decimal.digitsOf number) : digit.isDigit = true :=
  Nat.isDigit_of_mem_toDigits (by decide) (by decide) member

theorem exists_digitsOf_eq_cons (number : Nat) :
    ∃ first others, Decimal.digitsOf number = first :: others ∧ isDigit first = true := by
  cases digits : Decimal.digitsOf number with
  | nil => exact absurd digits Nat.toDigits_ne_nil
  | cons first others =>
    have member : first ∈ Decimal.digitsOf number := digits ▸ List.mem_cons_self
    exact ⟨first, others, rfl, (isDigit_eq first).trans (isDigit_of_mem_digitsOf member)⟩

/-- Reading digits on makes no number smaller. -/
theorem le_ofDigitChars (digits : List Char) (value : Nat) :
    value ≤ Nat.ofDigitChars 10 digits value := by
  induction digits generalizing value with
  | nil => exact Nat.le_refl _
  | cons digit rest inductionHypothesis =>
    rw [Nat.ofDigitChars_cons]
    exact Nat.le_trans (by omega) (inductionHypothesis _)

/-- All digits of a number below 2^64 are read. -/
theorem significandFrom_append {digits rest : List Char} {value : Nat} (count : Nat)
    (areDigits : ∀ digit ∈ digits, digit.isDigit = true) (stops : StopsNumber rest)
    (fits : Nat.ofDigitChars 10 digits value < 0x10000000000000000) :
    significandFrom value count (digits ++ rest) =
      (Nat.ofDigitChars 10 digits value, count + digits.length, rest) := by
  induction digits generalizing value count with
  | nil =>
    cases rest with
    | nil => rfl
    | cons next others =>
      have noDigit : digitValue? next = none := by simpa [isDigit] using stops.1
      simp [significandFrom, noDigit]
  | cons digit others inductionHypothesis =>
    have isOne := digitValue?_of_isDigit (areDigits digit List.mem_cons_self)
    have areDigitsToo := fun other member => areDigits other (List.mem_cons_of_mem _ member)
    rw [Nat.ofDigitChars_cons, Nat.mul_comm] at fits
    have small := Nat.lt_of_le_of_lt (le_ofDigitChars others _) fits
    rw [List.cons_append, significandFrom]
    simp only [isOne]
    rw [if_pos small, inductionHypothesis (count + 1) areDigitsToo fits, Nat.ofDigitChars_cons,
      Nat.mul_comm 10, List.length_cons, Nat.add_assoc, Nat.add_comm 1]

/-- Zero is the only number whose text begins with a zero. -/
theorem head?_digitsOf (number : Nat) :
    (Decimal.digitsOf number).head? = some '0' ↔ number = 0 := by
  have single : ∀ digit < 10, ([digit.digitChar].head? = some '0' ↔ digit = 0) := by decide
  unfold Decimal.digitsOf
  induction number using Nat.strongRecOn with
  | _ number inductionHypothesis =>
    by_cases small : number < 10
    · rw [Nat.toDigits_of_lt_base small]
      exact single number small
    · have leading : (Nat.toDigits 10 (number / 10)).head? = some '0' ↔ number / 10 = 0 :=
        inductionHypothesis (number / 10) (by omega)
      rw [Nat.toDigits_of_base_le (by decide) (Nat.le_of_not_lt small), List.head?_append,
        Option.or_of_isSome (by simp [Nat.toDigits_ne_nil]), leading]
      omega

theorem afterWhole_of_stops (negative : Bool) (significand : Nat) {rest : List Char}
    (stops : StopsNumber rest) :
    afterWhole negative significand rest = .ok (wholeNumber negative significand, rest) := by
  have noDigit := stops.digitNext
  unfold afterWhole
  split
  · exact absurd rfl stops.2.1
  · exact absurd rfl stops.2.2.1
  · exact absurd rfl stops.2.2.2
  · rw [noDigit]
    rfl

theorem numberBody_digitsOf (negative : Bool) {value : Nat} (fits : value < 0x10000000000000000)
    {rest : List Char} (stops : StopsNumber rest) :
    numberBody negative (Decimal.digitsOf value ++ rest) =
      .ok (wholeNumber negative value, rest) := by
  have areDigits : ∀ digit ∈ Decimal.digitsOf value, digit.isDigit = true :=
    fun digit => isDigit_of_mem_digitsOf
  have whole : Nat.ofDigitChars 10 (Decimal.digitsOf value) 0 = value :=
    Nat.ofDigitChars_toDigits (by decide) (by decide)
  have significand := significandFrom_append 0 areDigits stops (whole.symm ▸ fits)
  rw [whole] at significand
  by_cases zero : value = 0
  · subst zero
    show numberBody negative ('0' :: rest) = _
    simp only [numberBody, stops.digitNext]
    exact afterWhole_of_stops negative 0 stops
  · have leading := mt (head?_digitsOf value).1 zero
    obtain ⟨first, others, digits, isDigit⟩ := exists_digitsOf_eq_cons value
    rw [digits] at leading significand ⊢
    have notZero : first ≠ '0' := fun same => leading (congrArg some same)
    rw [List.cons_append] at significand ⊢
    rw [numberBody, if_pos isDigit, significand]
    · exact afterWhole_of_stops negative value stops
    · exact notZero

theorem ofInt?_value (value : Integer) : Integer.ofInt? value.value = some value := by
  unfold Integer.ofInt?
  rw [dif_pos value.least_le, dif_pos value.lt_end]

theorem wholeNumber_integer (value : Integer) :
    wholeNumber (decide (value.value < 0)) value.value.natAbs = .integer value := by
  have exact := ofInt?_value value
  unfold wholeNumber
  by_cases negative : value.value < 0
  · have below : -(value.value.natAbs : Int) = value.value := by omega
    rw [decide_eq_true negative, if_pos rfl, if_neg (by omega), below, exact]
  · have above : (value.value.natAbs : Int) = value.value := by omega
    rw [decide_eq_false negative, if_neg Bool.false_ne_true, above, exact]

theorem readScalar_of_isDigit {next : Char} (isDigit : Json.isDigit next = true)
    (rest : List Char) :
    readScalar (next :: rest) =
      (numberBody false (next :: rest)).map fun (value, rest) => (number value, rest) := by
  rw [readScalar, if_pos isDigit]
  all_goals exact ne_of_isDigit isDigit rfl

/-- An integer is read back as it is written. -/
theorem readScalar_integerText (value : Integer) {rest : List Char} (stops : StopsNumber rest) :
    readScalar (integerText value.value ++ rest) = .ok (number (.integer value), rest) := by
  have fits : value.value.natAbs < 0x10000000000000000 := by
    have := value.least_le
    have := value.lt_end
    omega
  have body := numberBody_digitsOf (decide (value.value < 0)) fits stops
  rw [wholeNumber_integer value] at body
  unfold integerText
  by_cases negative : value.value < 0
  · rw [if_pos negative]
    rw [decide_eq_true negative] at body
    show (numberBody true (Decimal.digitsOf value.value.natAbs ++ rest)).map _ = _
    rw [body]
    rfl
  · rw [if_neg negative]
    rw [decide_eq_false negative] at body
    obtain ⟨first, others, digits, isDigit⟩ := exists_digitsOf_eq_cons value.value.natAbs
    rw [digits, List.cons_append] at body ⊢
    rw [readScalar_of_isDigit isDigit, body]
    rfl

/-- An integer begins with its sign or with a digit. -/
theorem exists_integerText_eq_cons (value : Int) :
    ∃ first others, integerText value = first :: others ∧
      (first = '-' ∨ isDigit first = true) := by
  unfold integerText
  split
  · exact ⟨_, _, rfl, .inl rfl⟩
  · obtain ⟨first, others, digits, isDigit⟩ := exists_digitsOf_eq_cons value.natAbs
    exact ⟨first, others, digits, .inr isDigit⟩

/-! ### Arrays -/

/-- Whether a value can begin with a character: it is no blank and closes no array. -/
def CanBegin (next : Char) : Prop :=
  isSpace next = false ∧ next ≠ ']'

theorem canBegin_of_isDigit {next : Char} (isDigit : Json.isDigit next = true) :
    CanBegin next := by
  have apart (letter : Char) (noDigit : Json.isDigit letter = false) : next ≠ letter :=
    ne_of_isDigit isDigit noDigit
  refine ⟨?_, apart ']' rfl⟩
  simp [isSpace, apart ' ' rfl, apart '\n' rfl, apart '\t' rfl, apart '\r' rfl]

/-- A value is read back from its text, whatever is behind it. -/
structure ReadsBack (deepest : Nat) (value : Json) : Prop where
  begins : ∃ first others, characters value = first :: others ∧ CanBegin first
  read : ∀ rest, StopsNumber rest → readValue deepest (characters value ++ rest) = .ok (value, rest)

theorem skipSpace_cons {next : Char} (noSpace : isSpace next = false) (rest : List Char) :
    skipSpace (next :: rest) = next :: rest := by
  unfold skipSpace
  rw [List.dropWhile_cons, noSpace]
  rfl

/-- The texts of elements behind others, each with its comma. -/
def furtherElements : List Json → List Char
  | [] => []
  | element :: rest => ',' :: (characters element ++ furtherElements rest)

theorem elementsText_cons (element : Json) (rest : List Json) :
    elementsText (element :: rest) = characters element ++ furtherElements rest := by
  induction rest generalizing element with
  | nil => exact (List.append_nil _).symm
  | cons next others inductionHypothesis =>
    rw [elementsText, inductionHypothesis next, furtherElements]

theorem stopsNumber_furtherElements (elements : List Json) (rest : List Char) :
    StopsNumber (furtherElements elements ++ ']' :: rest) := by
  cases elements <;> exact ⟨rfl, by decide, by decide, by decide⟩

theorem nextElement_first {next : Char} (canBegin : CanBegin next) (rest : List Char) :
    nextElement true (next :: rest) = .ok (some (next :: rest)) := by
  unfold nextElement
  rw [skipSpace_cons canBegin.1]
  split
  next isEmpty => cases isEmpty
  next closes => exact absurd (List.cons.inj closes).1 canBegin.2
  next same =>
    obtain ⟨rfl, rfl⟩ := List.cons.inj same
    rfl

theorem nextElement_further {next : Char} (canBegin : CanBegin next) (rest : List Char) :
    nextElement false (',' :: next :: rest) = .ok (some (next :: rest)) := by
  unfold nextElement
  rw [skipSpace_cons (show isSpace ',' = false from rfl)]
  split
  next isEmpty => cases isEmpty
  next closes => cases closes
  next same =>
    obtain ⟨rfl, rfl⟩ := List.cons.inj same
    rw [if_neg Bool.false_ne_true, if_pos rfl, skipSpace_cons canBegin.1]
    split
    next isEmpty => cases isEmpty
    next closes => exact absurd (List.cons.inj closes).1 canBegin.2
    next => rfl

variable {deepest : Nat}

/-- The element that comes next is read, and then the others. -/
theorem elementsFrom_step {isFirst : Bool} {text : List Char} {element : Json} {further : List Json}
    (readsBack : ReadsBack deepest element) {elements : List Json} {rest : List Char}
    (next : nextElement isFirst text =
      .ok (some (characters element ++ (furtherElements further ++ ']' :: rest))))
    (longer : (furtherElements further ++ ']' :: rest).length < text.length)
    (others : elementsFrom (readValue deepest) false (furtherElements further ++ ']' :: rest) =
      .ok (elements, ']' :: rest)) :
    elementsFrom (readValue deepest) isFirst text = .ok (element :: elements, ']' :: rest) := by
  rw [elementsFrom]
  simp only [next, readsBack.read _ (stopsNumber_furtherElements further rest)]
  rw [if_pos longer, others]
  rfl

/-- The elements behind the first are read back, by induction on them. Each is followed by a comma
or the closing bracket, at which a number ends. -/
theorem elementsFrom_further {elements : List Json}
    (readBack : ∀ element ∈ elements, ReadsBack deepest element) (rest : List Char) :
    elementsFrom (readValue deepest) false (furtherElements elements ++ ']' :: rest) =
      .ok (elements, ']' :: rest) := by
  induction elements with
  | nil =>
    rw [elementsFrom]
    rfl
  | cons element others inductionHypothesis =>
    have readsBack := readBack element List.mem_cons_self
    obtain ⟨first, more, begins, canBegin⟩ := readsBack.begins
    refine elementsFrom_step readsBack ?_ ?_
      (inductionHypothesis fun other member => readBack other (List.mem_cons_of_mem _ member))
    · rw [furtherElements, begins]
      simp only [List.cons_append, List.append_assoc]
      exact nextElement_further canBegin _
    · rw [furtherElements, begins]
      simp only [List.cons_append, List.append_assoc, List.length_cons, List.length_append]
      omega

/-- The elements of an array are read back. -/
theorem elementsFrom_elementsText {elements : List Json}
    (readBack : ∀ element ∈ elements, ReadsBack deepest element) (rest : List Char) :
    elementsFrom (readValue deepest) true (elementsText elements ++ ']' :: rest) =
      .ok (elements, ']' :: rest) := by
  cases elements with
  | nil =>
    rw [elementsFrom]
    rfl
  | cons element others =>
    have readsBack := readBack element List.mem_cons_self
    obtain ⟨first, more, begins, canBegin⟩ := readsBack.begins
    rw [elementsText_cons, List.append_assoc]
    refine elementsFrom_step readsBack ?_ ?_
      (elementsFrom_further (fun other member => readBack other (List.mem_cons_of_mem _ member)) _)
    · rw [begins]
      exact nextElement_first canBegin _
    · rw [begins]
      simp only [List.cons_append, List.length_cons, List.length_append]
      omega

/-! ### Objects -/

/-- The texts of members behind others, each with its comma. -/
def furtherMembers : List (String × Json) → List Char
  | [] => []
  | (key, value) :: rest =>
    ',' :: (stringText key ++ ':' :: (characters value ++ furtherMembers rest))

theorem membersText_cons (key : String) (value : Json) (rest : List (String × Json)) :
    membersText ((key, value) :: rest) =
      stringText key ++ ':' :: (characters value ++ furtherMembers rest) := by
  induction rest generalizing key value with
  | nil =>
    show stringText key ++ ':' :: characters value = _
    rw [furtherMembers, List.append_nil]
  | cons next others inductionHypothesis =>
    obtain ⟨nextKey, nextValue⟩ := next
    rw [membersText, inductionHypothesis nextKey nextValue, furtherMembers]

theorem stopsNumber_furtherMembers (members : List (String × Json)) (rest : List Char) :
    StopsNumber (furtherMembers members ++ '\x7d' :: rest) := by
  cases members <;> exact ⟨rfl, by decide, by decide, by decide⟩

theorem nextKey_first (key : String) (rest : List Char) :
    nextKey true (stringText key ++ rest) = .ok (some (key, rest)) := by
  rw [stringText_append]
  exact map_stringBody (fun key rest => some (key, rest)) key rest

theorem nextKey_further (key : String) (rest : List Char) :
    nextKey false (',' :: (stringText key ++ rest)) = .ok (some (key, rest)) := by
  rw [stringText_append]
  exact map_stringBody (fun key rest => some (key, rest)) key rest

/-- The member that comes next is read, and then the others. -/
theorem membersFrom_step {isFirst : Bool} {text : List Char} {key : String} {value : Json}
    {further : List (String × Json)} (readsBack : ReadsBack deepest value)
    {members : List (String × Json)} {rest : List Char}
    (next : nextKey isFirst text =
      .ok (some (key, ':' :: (characters value ++ (furtherMembers further ++ '\x7d' :: rest)))))
    (longer : (furtherMembers further ++ '\x7d' :: rest).length < text.length)
    (others : membersFrom (readValue deepest) false (furtherMembers further ++ '\x7d' :: rest) =
      .ok (members, '\x7d' :: rest)) :
    membersFrom (readValue deepest) isFirst text =
      .ok ((key, value) :: members, '\x7d' :: rest) := by
  have read : memberValue (readValue deepest)
      (':' :: (characters value ++ (furtherMembers further ++ '\x7d' :: rest))) =
        .ok (value, furtherMembers further ++ '\x7d' :: rest) :=
    readsBack.read _ (stopsNumber_furtherMembers further rest)
  rw [membersFrom]
  simp only [next, read]
  rw [if_pos longer, others]
  rfl

/-- The members behind the first are read back, by induction on them. -/
theorem membersFrom_further {members : List (String × Json)}
    (readBack : ∀ member ∈ members, ReadsBack deepest member.2) (rest : List Char) :
    membersFrom (readValue deepest) false (furtherMembers members ++ '\x7d' :: rest) =
      .ok (members, '\x7d' :: rest) := by
  induction members with
  | nil =>
    rw [membersFrom]
    rfl
  | cons member others inductionHypothesis =>
    obtain ⟨key, value⟩ := member
    refine membersFrom_step (readBack _ List.mem_cons_self) ?_ ?_
      (inductionHypothesis fun other member => readBack other (List.mem_cons_of_mem _ member))
    · rw [furtherMembers]
      simp only [List.cons_append, List.append_assoc]
      exact nextKey_further key _
    · rw [furtherMembers]
      simp only [List.cons_append, List.append_assoc, List.length_cons, List.length_append]
      omega

/-- The members of an object are read back. -/
theorem membersFrom_membersText {members : List (String × Json)}
    (readBack : ∀ member ∈ members, ReadsBack deepest member.2) (rest : List Char) :
    membersFrom (readValue deepest) true (membersText members ++ '\x7d' :: rest) =
      .ok (members, '\x7d' :: rest) := by
  cases members with
  | nil =>
    rw [membersFrom]
    rfl
  | cons member others =>
    obtain ⟨key, value⟩ := member
    rw [membersText_cons, List.append_assoc]
    refine membersFrom_step (readBack _ List.mem_cons_self) ?_ ?_
      (membersFrom_further (fun other member => readBack other (List.mem_cons_of_mem _ member)) _)
    · simp only [List.cons_append, List.append_assoc]
      exact nextKey_first key _
    · simp only [List.cons_append, List.append_assoc, List.length_cons, List.length_append]
      omega

/-! ### Values -/

theorem readValue_scalar {first : Char} (canBegin : CanBegin first) (noArray : first ≠ '[')
    (noObject : first ≠ '\x7b') (rest : List Char) :
    readValue deepest (first :: rest) = readScalar (first :: rest) := by
  have here := skipSpace_cons canBegin.1 rest
  cases deepest with
  | zero =>
    rw [readValue, here]
    split
    next bracket => exact absurd (List.cons.inj bracket).1 noArray
    next brace => exact absurd (List.cons.inj brace).1 noObject
    next => rfl
  | succ deeper =>
    rw [readValue, here]
    split
    next bracket => exact absurd (List.cons.inj bracket).1 noArray
    next brace => exact absurd (List.cons.inj brace).1 noObject
    next => rfl

/-- A value that is neither an array nor an object is read back. -/
theorem ReadsBack.of_readScalar {value : Json} {first : Char} {others : List Char}
    (begins : characters value = first :: others) (canBegin : CanBegin first)
    (noArray : first ≠ '[') (noObject : first ≠ '\x7b')
    (read : ∀ rest, StopsNumber rest →
      readScalar (characters value ++ rest) = .ok (value, rest)) :
    ReadsBack deepest value where
  begins := ⟨first, others, begins, canBegin⟩
  read rest stops := by
    rw [← read rest stops, begins]
    exact readValue_scalar canBegin noArray noObject _

theorem readsBack_null : ReadsBack deepest null :=
  .of_readScalar rfl ⟨rfl, by decide⟩ (by decide) (by decide) fun _ _ => rfl

theorem readsBack_bool (value : Bool) : ReadsBack deepest (bool value) := by
  cases value with
  | false => exact .of_readScalar rfl ⟨rfl, by decide⟩ (by decide) (by decide) fun _ _ => rfl
  | true => exact .of_readScalar rfl ⟨rfl, by decide⟩ (by decide) (by decide) fun _ _ => rfl

theorem readsBack_string (value : String) : ReadsBack deepest (string value) := by
  refine .of_readScalar rfl ⟨rfl, by decide⟩ (by decide) (by decide) fun rest _ => ?_
  show readScalar (stringText value ++ rest) = _
  rw [stringText_append]
  exact map_stringBody (fun text rest => (string text, rest)) value rest

theorem readsBack_integer (value : Integer) : ReadsBack deepest (number (.integer value)) := by
  obtain ⟨first, others, begins, isSignOrDigit⟩ := exists_integerText_eq_cons value.value
  have read (rest : List Char) (stops : StopsNumber rest) := readScalar_integerText value stops
  obtain rfl | isDigit := isSignOrDigit
  · exact .of_readScalar begins ⟨rfl, by decide⟩ (by decide) (by decide) read
  · exact .of_readScalar begins (canBegin_of_isDigit isDigit) (ne_of_isDigit isDigit rfl)
      (ne_of_isDigit isDigit rfl) read

theorem readsBack_array {elements : List Json}
    (readBack : ∀ element ∈ elements, ReadsBack deepest element) :
    ReadsBack (deepest + 1) (array elements) where
  begins := ⟨_, _, rfl, rfl, by decide⟩
  read rest _ := by
    show readValue (deepest + 1) ('[' :: (elementsText elements ++ [']'] ++ rest)) = _
    rw [List.append_assoc]
    show (inArray (elementsFrom (readValue deepest) true)
      (elementsText elements ++ ']' :: rest)).map _ = _
    rw [inArray, elementsFrom_elementsText readBack rest]
    rfl

theorem putAll_nil {members : List (String × Json)} (ordered : Sorted.Ascending members) :
    Sorted.putAll members [] = members := by
  have areNew : (([] : List (String × Json)).map (·.1) ++ members.map (·.1)).Nodup :=
    ordered.nodup_keys
  exact (Sorted.ascending_putAll members Sorted.ascending_nil).eq_of_perm ordered
    (Sorted.perm_putAll areNew)

theorem readsBack_object {members : List (String × Json)} (ordered : Sorted.Ascending members)
    (readBack : ∀ member ∈ members, ReadsBack deepest member.2) :
    ReadsBack (deepest + 1) (object members) where
  begins := ⟨_, _, rfl, rfl, by decide⟩
  read rest _ := by
    show readValue (deepest + 1) ('\x7b' :: (membersText members ++ ['\x7d'] ++ rest)) = _
    rw [List.append_assoc]
    show (inObject (membersFrom (readValue deepest) true)
      (membersText members ++ '\x7d' :: rest)).map _ = _
    rw [inObject, membersFrom_membersText readBack rest]
    show Except.ok (ofMembers members, rest) = _
    rw [ofMembers, putAll_nil ordered]

mutual

/-- A value is read back if its objects are ordered, its numbers are integers, and it nests no
deeper than the reader goes. -/
theorem readsBack {deepest : Nat} : ∀ value : Json, IsOrdered value → IsIntegral value →
    depth value ≤ deepest → ReadsBack deepest value
  | null, _, _, _ => readsBack_null
  | bool value, _, _, _ => readsBack_bool value
  | string value, _, _, _ => readsBack_string value
  | number (.integer value), _, _, _ => readsBack_integer value
  | number (.double _), _, integral, _ => integral.elim
  | array elements, ordered, integral, shallow => by
    obtain ⟨deeper, rfl⟩ := Nat.exists_eq_succ_of_ne_zero (Nat.ne_zero_of_lt shallow)
    exact readsBack_array
      (readsBack_elements elements ordered.2 integral.2 (Nat.le_of_succ_le_succ shallow))
  | object members, ordered, integral, shallow => by
    obtain ⟨deeper, rfl⟩ := Nat.exists_eq_succ_of_ne_zero (Nat.ne_zero_of_lt shallow)
    exact readsBack_object ordered.1
      (readsBack_members members ordered.2 integral.2 (Nat.le_of_succ_le_succ shallow))

theorem readsBack_elements {deepest : Nat} : ∀ elements : List Json,
    EverywhereIn HasOrderedMembers elements → EverywhereIn IsNoDouble elements →
    depthOfElements elements ≤ deepest → ∀ element ∈ elements, ReadsBack deepest element
  | [], _, _, _ => fun _ => nofun
  | element :: others, ordered, integral, shallow => by
    rw [depthOfElements, Nat.max_le] at shallow
    intro other member
    cases member with
    | head => exact readsBack element ordered.1 integral.1 shallow.1
    | tail _ member =>
      exact readsBack_elements others ordered.2 integral.2 shallow.2 other member

theorem readsBack_members {deepest : Nat} : ∀ members : List (String × Json),
    EverywhereAmong HasOrderedMembers members → EverywhereAmong IsNoDouble members →
    depthOfMembers members ≤ deepest → ∀ member ∈ members, ReadsBack deepest member.2
  | [], _, _, _ => fun _ => nofun
  | (_, value) :: others, ordered, integral, shallow => by
    rw [depthOfMembers, Nat.max_le] at shallow
    intro other member
    cases member with
    | head => exact readsBack value ordered.1 integral.1 shallow.1
    | tail _ member =>
      exact readsBack_members others ordered.2 integral.2 shallow.2 other member

end

/-- The compact text of a value is parsed as this value. -/
theorem parse_characters {value : Json} (ordered : IsOrdered value) (integral : IsIntegral value)
    (shallow : depth value ≤ greatestDepth) : parse (characters value) = .ok value := by
  have read := (readsBack value ordered integral shallow).read [] trivial
  rw [List.append_nil] at read
  rw [parse, readAll, read]
  rfl

/-! ### What is read at all

A reader builds no value that would not be read back for its objects or for its depth.
-/

theorem map_eq_ok_iff {First Second : Type} {result : Except Fault First} {change : First → Second}
    {output : Second} :
    result.map change = .ok output ↔ ∃ input, result = .ok input ∧ change input = output := by
  cases result <;> simp [Except.map]

theorem everywhereIn_iff {holds : Json → Prop} {elements : List Json} :
    EverywhereIn holds elements ↔ ∀ element ∈ elements, Everywhere holds element := by
  induction elements with
  | nil => simp [EverywhereIn]
  | cons element others inductionHypothesis => simp [EverywhereIn, inductionHypothesis]

theorem everywhereAmong_iff {holds : Json → Prop} {members : List (String × Json)} :
    EverywhereAmong holds members ↔ ∀ member ∈ members, Everywhere holds member.2 := by
  induction members with
  | nil => simp [EverywhereAmong]
  | cons member others inductionHypothesis => simp [EverywhereAmong, inductionHypothesis]

theorem depthOfElements_le_iff {elements : List Json} {deepest : Nat} :
    depthOfElements elements ≤ deepest ↔ ∀ element ∈ elements, depth element ≤ deepest := by
  induction elements with
  | nil => simp [depthOfElements]
  | cons element others inductionHypothesis =>
    rw [depthOfElements, Nat.max_le, inductionHypothesis, List.forall_mem_cons]

theorem depthOfMembers_le_iff {members : List (String × Json)} {deepest : Nat} :
    depthOfMembers members ≤ deepest ↔ ∀ member ∈ members, depth member.2 ≤ deepest := by
  induction members with
  | nil => simp [depthOfMembers]
  | cons member others inductionHypothesis =>
    obtain ⟨key, value⟩ := member
    rw [depthOfMembers, Nat.max_le, inductionHypothesis, List.forall_mem_cons]

/-- A value whose objects are ordered and that nests no deeper than this. -/
structure IsReadable (deepest : Nat) (value : Json) : Prop where
  ordered : IsOrdered value
  shallow : depth value ≤ deepest

theorem isReadable_array {elements : List Json}
    (areReadable : ∀ element ∈ elements, IsReadable deepest element) :
    IsReadable (deepest + 1) (array elements) where
  ordered :=
    ⟨trivial, everywhereIn_iff.2 fun element member => (areReadable element member).ordered⟩
  shallow := Nat.succ_le_succ
    (depthOfElements_le_iff.2 fun element member => (areReadable element member).shallow)

theorem isReadable_ofMembers {members : List (String × Json)}
    (areReadable : ∀ member ∈ members, IsReadable deepest member.2) :
    IsReadable (deepest + 1) (ofMembers members) := by
  have areReadable : ∀ member ∈ Sorted.putAll members [], IsReadable deepest member.2 := by
    intro member found
    obtain added | held := Sorted.mem_or_mem_of_mem_putAll found
    · exact areReadable member added
    · cases held
  exact {
    ordered := ⟨Sorted.ascending_putAll members Sorted.ascending_nil,
      everywhereAmong_iff.2 fun member found => (areReadable member found).ordered⟩
    shallow := Nat.succ_le_succ
      (depthOfMembers_le_iff.2 fun member found => (areReadable member found).shallow) }

theorem isReadable_of_readScalar {text : List Char} {value : Json} {rest : List Char}
    (read : readScalar text = .ok (value, rest)) : IsReadable deepest value := by
  unfold readScalar at read
  split at read
  case h_1 => cases read
  case h_7 =>
    split at read
    · obtain ⟨_, _, same⟩ := map_eq_ok_iff.1 read
      cases same
      exact ⟨trivial, Nat.zero_le _⟩
    · cases read
  all_goals
    obtain ⟨_, _, same⟩ := map_eq_ok_iff.1 read
    cases same
    exact ⟨trivial, Nat.zero_le _⟩

/-- What holds of each value that is read holds of all elements of an array. -/
theorem elementsFrom_forall {read : List Char → Front Json} {holds : Json → Prop}
    (sound : ∀ {text value rest}, read text = .ok (value, rest) → holds value)
    {isFirst : Bool} {text : List Char} {elements : List Json} {rest : List Char}
    (accepted : elementsFrom read isFirst text = .ok (elements, rest)) :
    ∀ element ∈ elements, holds element := by
  fun_induction elementsFrom read isFirst text generalizing elements rest with
  | case1 => cases accepted
  | case2 =>
    cases accepted
    exact fun _ => nofun
  | case3 => cases accepted
  | case4 isFirst text element next value after readElement shorter inductionHypothesis =>
    obtain ⟨⟨others, others_rest⟩, readOthers, same⟩ := map_eq_ok_iff.1 accepted
    cases same
    exact List.forall_mem_cons.2 ⟨sound readElement, inductionHypothesis readOthers⟩
  | case5 => cases accepted

/-- What holds of each value that is read holds of the values of all members of an object. -/
theorem membersFrom_forall {read : List Char → Front Json} {holds : Json → Prop}
    (sound : ∀ {text value rest}, read text = .ok (value, rest) → holds value)
    {isFirst : Bool} {text : List Char} {members : List (String × Json)} {rest : List Char}
    (accepted : membersFrom read isFirst text = .ok (members, rest)) :
    ∀ member ∈ members, holds member.2 := by
  fun_induction membersFrom read isFirst text generalizing members rest with
  | case1 => cases accepted
  | case2 =>
    cases accepted
    exact fun _ => nofun
  | case3 => cases accepted
  | case4 isFirst text key afterKey next value after readMember shorter inductionHypothesis =>
    obtain ⟨⟨others, others_rest⟩, readOthers, same⟩ := map_eq_ok_iff.1 accepted
    cases same
    have holdsFirst : holds value := by
      unfold memberValue at readMember
      split at readMember
      · cases readMember
      · exact sound readMember
    exact List.forall_mem_cons.2 ⟨holdsFirst, inductionHypothesis readOthers⟩
  | case5 => cases accepted

theorem isReadable_of_readValue {deepest : Nat} {text : List Char} {value : Json}
    {rest : List Char} (read : readValue deepest text = .ok (value, rest)) :
    IsReadable deepest value := by
  induction deepest generalizing text value rest with
  | zero =>
    rw [readValue] at read
    split at read
    · cases read
    · cases read
    · exact isReadable_of_readScalar read
  | succ deeper inductionHypothesis =>
    rw [readValue] at read
    split at read
    · obtain ⟨⟨elements, _⟩, within, same⟩ := map_eq_ok_iff.1 read
      cases same
      unfold inArray at within
      split at within
      next => cases within
      next readElements =>
        obtain ⟨_, _, same⟩ := map_eq_ok_iff.1 within
        cases same
        exact isReadable_array (elementsFrom_forall inductionHypothesis readElements)
    · obtain ⟨⟨members, _⟩, within, same⟩ := map_eq_ok_iff.1 read
      cases same
      unfold inObject at within
      split at within
      next => cases within
      next readMembers =>
        obtain ⟨_, _, same⟩ := map_eq_ok_iff.1 within
        cases same
        exact isReadable_ofMembers (membersFrom_forall inductionHypothesis readMembers)
    · exact isReadable_of_readScalar read

/-- Every value that is parsed is ordered and nests no deeper than the reader goes, so its compact
text is parsed as this value again where its numbers are integers. -/
theorem isReadable_of_parse {text : List Char} {value : Json} (parsed : parse text = .ok value) :
    IsReadable greatestDepth value := by
  unfold parse readAll at parsed
  split at parsed
  next => cases parsed
  next read =>
    split at parsed
    · cases parsed
      exact isReadable_of_readValue read
    · cases parsed

end Testbed.Json
