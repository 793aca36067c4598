/-
This file proves which variables the settings refuse and what is reported then. Four variables hold
numbers: an optional plus sign and digits, of a number in the range of the variable. They are looked
at in a fixed order, and the first that holds anything else is reported. Reported is the text that
it holds, but for a number of attempts that is zero: that is reported as "0" however it is spelled.
-/

import Testbed.Settings
import Testbed.Proofs.ReadBack

namespace Testbed

/-! ### Numerals -/

namespace Text

/-- The decimal digits of a number, one at least. Zeros may stand in front. -/
structure AreDigitsOf (digits : List Char) (value : Nat) : Prop where
  nonempty : digits ≠ []
  areDigits : ∀ digit ∈ digits, digit.isDigit = true
  value_eq : Nat.ofDigitChars 10 digits 0 = value

/-- A text that spells a number: its digits, behind a plus sign or alone. -/
def Spells (text : String) (value : Nat) : Prop :=
  ∃ digits, (text.toList = digits ∨ text.toList = '+' :: digits) ∧ AreDigitsOf digits value

variable {text : String} {digits : List Char} {greatest value : Nat}

theorem spells_of_plus_iff (begins : text.toList = '+' :: digits) :
    Spells text value ↔ AreDigitsOf digits value := by
  constructor
  · rintro ⟨other, whole | behind, areDigits⟩
    · rw [begins] at whole
      subst whole
      exact absurd (areDigits.areDigits '+' List.mem_cons_self) (by decide)
    · rw [begins] at behind
      cases behind
      exact areDigits
  · intro areDigits
    exact ⟨digits, .inr begins, areDigits⟩

theorem spells_of_not_plus_iff (noPlus : ∀ digits, text.toList ≠ '+' :: digits) :
    Spells text value ↔ AreDigitsOf text.toList value := by
  constructor
  · rintro ⟨other, whole | behind, areDigits⟩
    · rw [whole]
      exact areDigits
    · exact absurd behind (noPlus other)
  · intro areDigits
    exact ⟨text.toList, .inl rfl, areDigits⟩

/-- Digits are read on behind a number as long as the whole stays in the range. -/
theorem numeralFrom_eq_ok_iff {start : Nat} (small : start ≤ greatest) :
    numeralFrom greatest start digits = .ok value ↔
      (∀ digit ∈ digits, digit.isDigit = true) ∧ Nat.ofDigitChars 10 digits start = value ∧
        value ≤ greatest := by
  induction digits generalizing start with
  | nil =>
    constructor
    · rintro ⟨⟩
      exact ⟨nofun, rfl, small⟩
    · rintro ⟨-, rfl, -⟩
      rfl
  | cons digit rest inductionHypothesis =>
    rw [numeralFrom, List.forall_mem_cons, Nat.ofDigitChars_cons, Nat.mul_comm 10]
    by_cases isDigit : digit.isDigit = true
    · simp only [Json.digitValue?_of_isDigit isDigit]
      split
      next fits =>
        rw [inductionHypothesis fits, and_iff_right isDigit]
      next tooLarge =>
        refine iff_of_false nofun ?_
        rintro ⟨-, rfl, fits⟩
        exact tooLarge (Nat.le_trans (Json.le_ofDigitChars rest _) fits)
    · have noDigit : digitValue? digit = none :=
        if_neg fun between => isDigit ((Json.between_iff_isDigit digit).1 between)
      simp only [noDigit]
      exact iff_of_false nofun fun read => isDigit read.1.1

theorem numeralFrom_zero_eq_ok_iff (nonempty : digits ≠ []) :
    numeralFrom greatest 0 digits = .ok value ↔ AreDigitsOf digits value ∧ value ≤ greatest := by
  rw [numeralFrom_eq_ok_iff (Nat.zero_le greatest), ← and_assoc]
  refine and_congr_left' ⟨fun read => ⟨nonempty, read.1, read.2⟩, fun areDigits => ?_⟩
  exact ⟨areDigits.areDigits, areDigits.value_eq⟩

/-- A numeral is read if and only if it spells a number of the range. -/
theorem numeral_eq_ok_iff :
    numeral greatest text = .ok value ↔ Spells text value ∧ value ≤ greatest := by
  have noDigits : ¬ AreDigitsOf [] value := fun areDigits => areDigits.nonempty rfl
  unfold numeral
  split
  next isEmpty =>
    rw [spells_of_not_plus_iff (by simp [isEmpty]), isEmpty]
    exact iff_of_false nofun fun read => noDigits read.1
  next plus =>
    rw [spells_of_plus_iff plus]
    exact iff_of_false nofun fun read => noDigits read.1
  next digits isMore begins =>
    rw [spells_of_plus_iff begins]
    exact numeralFrom_zero_eq_ok_iff isMore
  next isSome isMore noPlus =>
    rw [spells_of_not_plus_iff fun digits begins => noPlus digits begins]
    exact numeralFrom_zero_eq_ok_iff isSome

end Text

/-! ### Variables that hold numbers -/

namespace Settings

/-- A variable that holds a number, with the least and the greatest that it may hold. -/
structure NumberVariable where
  name : String
  least : Nat := 0
  greatest : Nat

namespace NumberVariable

def relationalPort : NumberVariable where
  name := "POSTGRES_PORT"
  greatest := 0xFFFF

def readinessAttempts : NumberVariable where
  name := "HARNESS_READINESS_ATTEMPTS"
  least := 1
  greatest := 0xFFFFFFFF

def readinessDelay : NumberVariable where
  name := "HARNESS_READINESS_DELAY_MS"
  greatest := 0xFFFFFFFFFFFFFFFF

def publishTimeout : NumberVariable where
  name := "HARNESS_PUBLISH_TIMEOUT_MS"
  greatest := 0xFFFFFFFFFFFFFFFF

/-- The variables that hold numbers, in the order in which they are looked at. -/
def inOrder : List NumberVariable :=
  [relationalPort, readinessAttempts, readinessDelay, publishTimeout]

/-- The variable is missing or holds a numeral of its range. -/
def IsSound (expected : NumberVariable) (bindings : Variables) : Prop :=
  ∀ text, bindings.get? expected.name = some text →
    ∃ value, Text.Spells text value ∧ expected.least ≤ value ∧ value ≤ expected.greatest

/-- How a variable is refused: it holds no numeral up to its greatest number, or it holds a zero and
must be positive. -/
inductive Refuses (expected : NumberVariable) (bindings : Variables) : SettingsError → Prop where
  | noNumeral (text : String) (cause : Text.NumeralError)
      (held : bindings.get? expected.name = some text)
      (notRead : Text.numeral expected.greatest text = .error cause) :
      Refuses expected bindings ⟨expected.name, text, cause.message⟩
  | zero (text : String) (held : bindings.get? expected.name = some text)
      (isZero : Text.Spells text 0) (isPositive : expected.least = 1) :
      Refuses expected bindings ⟨expected.name, "0", "must be at least 1"⟩

variable {expected : NumberVariable} {bindings : Variables} {error : SettingsError}
  {otherwise value : Nat}

theorem Refuses.variableName_eq (refuses : expected.Refuses bindings error) :
    error.variableName = expected.name := by
  cases refuses <;> rfl

theorem Refuses.not_isSound (refuses : expected.Refuses bindings error) :
    ¬ expected.IsSound bindings := by
  intro isSound
  cases refuses with
  | noNumeral text cause held notRead =>
    obtain ⟨value, spells, -, small⟩ := isSound text held
    cases notRead.symm.trans (Text.numeral_eq_ok_iff.2 ⟨spells, small⟩)
  | zero text held isZero isPositive =>
    obtain ⟨value, spells, large, small⟩ := isSound text held
    -- A text spells one number only, since it is read as one.
    have zero := Text.numeral_eq_ok_iff.2 ⟨isZero, Nat.zero_le expected.greatest⟩
    cases zero.symm.trans (Text.numeral_eq_ok_iff.2 ⟨spells, small⟩)
    omega

/-! ### Reading the variables -/

/-- The number that the variable holds, or the given one if it is missing. -/
abbrev readFrom (expected : NumberVariable) (bindings : Variables) (otherwise : Nat) :
    Except SettingsError Nat :=
  number bindings expected.greatest expected.name otherwise

theorem readFrom_eq_ok_iff :
    expected.readFrom bindings otherwise = .ok value ↔
      (bindings.get? expected.name = none ∧ value = otherwise) ∨
        ∃ text, bindings.get? expected.name = some text ∧ Text.Spells text value ∧
          value ≤ expected.greatest := by
  unfold readFrom number
  cases held : bindings.get? expected.name with
  | none => simp [eq_comm]
  | some text =>
    simp only [reduceCtorEq, false_and, false_or, Option.some.injEq, exists_eq_left',
      ← Text.numeral_eq_ok_iff]
    cases Text.numeral expected.greatest text <;> simp

theorem isSound_of_readFrom (read : expected.readFrom bindings otherwise = .ok value)
    (isPositive : expected.least ≤ value) : expected.IsSound bindings := by
  intro text held
  rcases readFrom_eq_ok_iff.1 read with ⟨isMissing, -⟩ | ⟨other, heldToo, spells, small⟩
  · cases isMissing.symm.trans held
  · cases heldToo.symm.trans held
    exact ⟨value, spells, isPositive, small⟩

theorem IsSound.exists_readFrom (isSound : expected.IsSound bindings) (otherwise : Nat) :
    ∃ value, expected.readFrom bindings otherwise = .ok value := by
  cases held : bindings.get? expected.name with
  | none => exact ⟨otherwise, readFrom_eq_ok_iff.2 (.inl ⟨held, rfl⟩)⟩
  | some text =>
    obtain ⟨value, spells, -, small⟩ := isSound text held
    exact ⟨value, readFrom_eq_ok_iff.2 (.inr ⟨text, held, spells, small⟩)⟩

theorem refuses_of_readFrom (notRead : expected.readFrom bindings otherwise = .error error) :
    expected.Refuses bindings error := by
  unfold readFrom number at notRead
  cases held : bindings.get? expected.name with
  | none =>
    rw [held] at notRead
    cases notRead
  | some text =>
    rw [held] at notRead
    cases read : Text.numeral expected.greatest text with
    | ok value =>
      simp only [read] at notRead
      cases notRead
    | error cause =>
      simp only [read] at notRead
      cases notRead
      exact .noNumeral text cause held read

end NumberVariable

variable {bindings : Variables} {settings : Settings} {error : SettingsError}

/-- The numbers are read one after another, and the attempts are looked at as soon as they are. -/
theorem numbers_eq :
    numbers bindings = (NumberVariable.relationalPort.readFrom bindings 5432).bind fun port =>
      (NumberVariable.readinessAttempts.readFrom bindings 30).bind fun attempts =>
        if attempts = 0 then
          .error ⟨NumberVariable.readinessAttempts.name, "0", "must be at least 1"⟩
        else (NumberVariable.readinessDelay.readFrom bindings 1000).bind fun delay =>
          (NumberVariable.publishTimeout.readFrom bindings 3000).bind fun timeout =>
            .ok
              { relationalPort := UInt16.ofNat port
                readinessAttempts := UInt32.ofNat attempts
                readinessDelay := UInt64.ofNat delay
                publishTimeout := UInt64.ofNat timeout } :=
  rfl

/-- Variables are looked at one after another, up to the first that is refused. -/
inductive Checked {Value : Type} (bindings : Variables) :
    List NumberVariable → Except SettingsError Value → Prop where
  | done (value : Value) : Checked bindings [] (.ok value)
  | refused (expected : NumberVariable) (rest : List NumberVariable) (error : SettingsError)
      (refuses : expected.Refuses bindings error) :
      Checked bindings (expected :: rest) (.error error)
  | sound (expected : NumberVariable) (rest : List NumberVariable)
      (result : Except SettingsError Value) (isSound : expected.IsSound bindings)
      (further : Checked bindings rest result) : Checked bindings (expected :: rest) result

section Checked

variable {Value : Type} {expected : NumberVariable} {others : List NumberVariable}
  {result : Except SettingsError Value} {otherwise : Nat}
  {continuation : Nat → Except SettingsError Value}

theorem Checked.bind (least_eq : expected.least = 0)
    (further : ∀ value, Checked bindings others (continuation value)) :
    Checked bindings (expected :: others)
      ((expected.readFrom bindings otherwise).bind continuation) := by
  cases read : expected.readFrom bindings otherwise with
  | error cause => exact .refused _ _ _ (NumberVariable.refuses_of_readFrom read)
  | ok value =>
    have isPositive : expected.least ≤ value := least_eq ▸ Nat.zero_le value
    exact .sound _ _ _ (NumberVariable.isSound_of_readFrom read isPositive) (further value)

/-- A zero is refused as one that the variable holds, since the number is not zero if the variable
is missing. -/
theorem Checked.bind_positive (least_eq : expected.least = 1) (isPositive : otherwise ≠ 0)
    (further : ∀ value, Checked bindings others (continuation value)) :
    Checked bindings (expected :: others)
      ((expected.readFrom bindings otherwise).bind fun value =>
        if value = 0 then .error ⟨expected.name, "0", "must be at least 1"⟩
        else continuation value) := by
  cases read : expected.readFrom bindings otherwise with
  | error cause => exact .refused _ _ _ (NumberVariable.refuses_of_readFrom read)
  | ok value =>
    show Checked bindings _ (if value = 0 then _ else _)
    by_cases isZero : value = 0
    · rw [if_pos isZero]
      subst isZero
      rcases NumberVariable.readFrom_eq_ok_iff.1 read with ⟨-, impossible⟩ | ⟨text, held, zero, -⟩
      · exact absurd impossible.symm isPositive
      · exact .refused _ _ _ (.zero text held zero least_eq)
    · rw [if_neg isZero]
      have positive : expected.least ≤ value := least_eq ▸ Nat.one_le_iff_ne_zero.2 isZero
      exact .sound _ _ _ (NumberVariable.isSound_of_readFrom read positive) (further value)

theorem Checked.isSound_of_ok {value : Value} (checked : Checked bindings others (.ok value)) :
    ∀ expected ∈ others, expected.IsSound bindings := by
  generalize isOk : Except.ok value = result at checked
  induction checked with
  | done => exact fun _ => nofun
  | refused => cases isOk
  | sound expected rest result isSound further inductionHypothesis =>
    exact List.forall_mem_cons.2 ⟨isSound, inductionHypothesis isOk⟩

/-- What is refused is the first variable that is not sound. -/
theorem Checked.exists_of_error
    (checked : Checked bindings others (.error error : Except SettingsError Value)) :
    ∃ before refused after, others = before ++ refused :: after ∧
      (∀ earlier ∈ before, earlier.IsSound bindings) ∧ refused.Refuses bindings error := by
  generalize isError : Except.error error = result at checked
  induction checked with
  | done => cases isError
  | refused expected rest cause refuses =>
    cases isError
    exact ⟨[], expected, rest, rfl, fun _ => nofun, refuses⟩
  | sound expected rest result isSound further inductionHypothesis =>
    obtain ⟨before, refused, after, rfl, areSound, refuses⟩ := inductionHypothesis isError
    exact ⟨expected :: before, refused, after, rfl, List.forall_mem_cons.2 ⟨isSound, areSound⟩,
      refuses⟩

end Checked

theorem checked_numbers (bindings : Variables) :
    Checked bindings NumberVariable.inOrder (numbers bindings) := by
  rw [numbers_eq]
  exact .bind rfl fun port => .bind_positive rfl (by decide) fun attempts =>
    .bind rfl fun delay => .bind rfl fun timeout => .done _

theorem Checked.map {Value Next : Type} {others : List NumberVariable}
    {result : Except SettingsError Value} (checked : Checked bindings others result)
    (turn : Value → Next) : Checked bindings others (result.map turn) := by
  induction checked with
  | done value => exact .done (turn value)
  | refused expected rest error refuses => exact .refused expected rest error refuses
  | sound expected rest result isSound further inductionHypothesis =>
    exact .sound expected rest _ isSound inductionHypothesis

theorem ofVariables_eq (bindings : Variables) :
    ofVariables bindings = (numbers bindings).map (ofNumbers bindings) := by
  unfold ofVariables
  cases numbers bindings <;> rfl

theorem checked_ofVariables (bindings : Variables) :
    Checked bindings NumberVariable.inOrder (ofVariables bindings) := by
  rw [ofVariables_eq]
  exact (checked_numbers bindings).map (ofNumbers bindings)

/-! ### What is reported -/

theorem NumberVariable.eq_readinessAttempts {expected : NumberVariable}
    (member : expected ∈ inOrder) (least_eq : expected.least = 1) :
    expected = readinessAttempts := by
  simp only [inOrder, List.mem_cons, List.not_mem_nil, or_false] at member
  rcases member with rfl | rfl | rfl | rfl
  · cases least_eq
  · rfl
  · cases least_eq
  · cases least_eq

/-- The number of attempts is refused as a zero. -/
def IsZeroAttempts (text : String) (error : SettingsError) : Prop :=
  error.variableName = NumberVariable.readinessAttempts.name ∧ Text.Spells text 0

theorem reported_of_refuses {expected : NumberVariable} (member : expected ∈ NumberVariable.inOrder)
    (refuses : expected.Refuses bindings error) :
    ∃ text, bindings.get? error.variableName = some text ∧
      ((IsZeroAttempts text error ∧ error.value = "0") ∨
        (¬ IsZeroAttempts text error ∧ error.value = text)) := by
  cases refuses with
  | noNumeral text cause held notRead =>
    refine ⟨text, held, .inr ⟨fun isZero => ?_, rfl⟩⟩
    cases notRead.symm.trans (Text.numeral_eq_ok_iff.2 ⟨isZero.2, Nat.zero_le _⟩)
  | zero text held isZero isPositive =>
    cases NumberVariable.eq_readinessAttempts member isPositive
    exact ⟨text, held, .inl ⟨⟨rfl, isZero⟩, rfl⟩⟩

theorem ofVariables_of_zero_attempts {text : String}
    (soundPort : NumberVariable.relationalPort.IsSound bindings)
    (held : bindings.get? NumberVariable.readinessAttempts.name = some text)
    (isZero : Text.Spells text 0) :
    ofVariables bindings =
      .error ⟨NumberVariable.readinessAttempts.name, "0", "must be at least 1"⟩ := by
  obtain ⟨port, readPort⟩ := soundPort.exists_readFrom 5432
  have readAttempts : NumberVariable.readinessAttempts.readFrom bindings 30 = .ok 0 :=
    NumberVariable.readFrom_eq_ok_iff.2 (.inr ⟨text, held, isZero, Nat.zero_le _⟩)
  rw [ofVariables_eq, numbers_eq, readPort, readAttempts]
  rfl

/-- What is refused is a variable that is present. It is reported with the text that it holds,
unless it is the number of attempts and spells a zero: then the value that is reported is "0",
however the zero is spelled. Every spelling of a zero is refused so if the port, which is looked at
first, is sound. -/
theorem refused_account (bindings : Variables) :
    (∀ error, ofVariables bindings = .error error →
      ∃ text, bindings.get? error.variableName = some text ∧
        ((IsZeroAttempts text error ∧ error.value = "0") ∨
          (¬ IsZeroAttempts text error ∧ error.value = text))) ∧
    ∀ text, NumberVariable.relationalPort.IsSound bindings →
      bindings.get? NumberVariable.readinessAttempts.name = some text → Text.Spells text 0 →
      ofVariables bindings =
        .error ⟨NumberVariable.readinessAttempts.name, "0", "must be at least 1"⟩ := by
  refine ⟨fun error refused => ?_, fun text => ofVariables_of_zero_attempts⟩
  have checked := checked_ofVariables bindings
  rw [refused] at checked
  obtain ⟨before, expected, after, isPart, -, refuses⟩ := checked.exists_of_error
  exact reported_of_refuses (isPart ▸ List.mem_append_right _ List.mem_cons_self) refuses

/-- Variables that ask for no attempts, with a plus sign. -/
def withoutAttempts : Variables where
  entries := [("HARNESS_READINESS_ATTEMPTS", "+0")]
  ascending := List.pairwise_singleton _ _

theorem spells_plus_zero : Text.Spells "+0" 0 :=
  ⟨['0'], .inr rfl, by decide, List.forall_mem_singleton.2 rfl, by decide⟩

/-- The zero is reported without its sign. -/
theorem refused_account_signed :
    ∃ error, ofVariables withoutAttempts = .error error ∧
      withoutAttempts.get? error.variableName = some "+0" ∧ error.value = "0" := by
  obtain ⟨reports, refuses⟩ := refused_account withoutAttempts
  have refused := refuses "+0" (fun text held => by cases held) rfl spells_plus_zero
  obtain ⟨text, held, ⟨-, isZero⟩ | ⟨notZero, -⟩⟩ := reports _ refused
  · cases held
    exact ⟨_, refused, rfl, isZero⟩
  · cases held
    exact absurd ⟨rfl, spells_plus_zero⟩ notZero

/-- What is reported is not always what the variable holds. -/
theorem reported_ne_held :
    ¬ ∀ bindings error, ofVariables bindings = .error error →
      bindings.get? error.variableName = some error.value := by
  intro always
  have refused : ofVariables withoutAttempts =
      .error ⟨"HARNESS_READINESS_ATTEMPTS", "0", "must be at least 1"⟩ := rfl
  exact absurd (always _ _ refused) (by decide)

end Settings

end Testbed
