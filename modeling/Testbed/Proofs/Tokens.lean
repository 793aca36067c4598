/-
This file states the lexical rules of statements as far as they are relied on, and proves how a
filled template splits into tokens. The store that splits statements is outside, so what is proved
of tokens holds of every way of splitting that follows the documented rules. A template is a
statement with places for the name of a schema. Each of its pieces is read as its tokens because of
what comes behind it, so the induction is on the pieces, with a check that no piece runs on into the
next one.
-/

import Testbed.Relational.Store
import Mathlib.Data.List.TakeWhile

namespace Testbed.Relational

/-! ### Tokens -/

/-- A token of a statement. -/
inductive Token where
  /-- A key word or an identifier, which are written alike. -/
  | word (name : String)
  /-- The place of a parameter. -/
  | parameter (digits : String)
  /-- A special character. -/
  | mark (character : Char)
  /-- An operator or the sign of a cast. -/
  | symbol (text : String)
  /-- A quoted identifier, a constant or whatever else there is. -/
  | other (text : String)
  deriving DecidableEq

/-- The greatest length of names. -/
def nameLimit : Nat := 63

/-- The most digits with which the place of a parameter is sure to be in range. -/
def parameterDigits : Nat := 9

/-- A character with which a word begins. -/
def isWordStart (character : Char) : Bool :=
  character.isAlpha || character == '_'

/-- A character with which a word goes on. -/
def isWordCharacter (character : Char) : Bool :=
  character.isAlpha || character.isDigit || character == '_'

/-- Whether a text is a word, without the dollar signs and the foreign letters that words may also
hold. -/
def isWord : List Char → Bool
  | [] => false
  | first :: rest => isWordStart first && rest.all isWordCharacter

/-- The name that a word stands for: in lower case, and cut to the greatest length of names. -/
def nameOf (written : List Char) : String :=
  String.ofList ((written.map Char.toLower).take nameLimit)

/-- Whether a text is the number of a parameter. -/
def isParameterNumber (digits : List Char) : Bool :=
  !digits.isEmpty && digits.all Char.isDigit && digits.length ≤ parameterDigits

/-- A special character that is a token by itself. -/
def isMark (character : Char) : Bool :=
  ['(', ')', '[', ']', ',', ';'].contains character

/-- Whether a word and the place of a parameter end before a text. -/
def endsBefore : List Char → Bool
  | [] => true
  | next :: _ => Json.isSpace next || isMark next || next == '.' || next == ':'

/-- Whether a text begins with a word. -/
def beginsWord : List Char → Bool
  | [] => false
  | next :: _ => isWordStart next

/-- Whether a text begins with a blank. -/
def beginsBlank : List Char → Bool
  | [] => false
  | next :: _ => Json.isSpace next

/-- Whether a text is one or more blanks. -/
def isBlankText (text : List Char) : Bool :=
  !text.isEmpty && text.all Json.isSpace

/-- The documented rules by which a statement splits into tokens, from its front on, as far as they
are relied on: what quoted identifiers, constants, comments and other operators are is left open,
and a text may have no tokens at all. -/
structure FollowsRules (tokens : List Char → Option (List Token)) : Prop where
  nothing : tokens [] = some []
  blank : ∀ next rest, Json.isSpace next = true → tokens (next :: rest) = tokens rest
  word : ∀ written rest, isWord written = true → endsBefore rest = true →
    tokens (written ++ rest) = (tokens rest).map (.word (nameOf written) :: ·)
  parameter : ∀ digits rest, isParameterNumber digits = true → endsBefore rest = true →
    tokens ('$' :: (digits ++ rest)) = (tokens rest).map (.parameter (String.ofList digits) :: ·)
  mark : ∀ next rest, isMark next = true →
    tokens (next :: rest) = (tokens rest).map (.mark next :: ·)
  point : ∀ rest, beginsWord rest = true →
    tokens ('.' :: rest) = (tokens rest).map (.mark '.' :: ·)
  equals : ∀ rest, beginsBlank rest = true →
    tokens ('=' :: rest) = (tokens rest).map (.symbol "=" :: ·)
  cast : ∀ rest, tokens (':' :: ':' :: rest) = (tokens rest).map (.symbol "::" :: ·)

/-- Splits a text that consists of blanks, words, parameters, special characters, signs of equality
and of casts. It gives up on every other text. -/
def plainTokens (text : List Char) : Option (List Token) :=
  match text with
  | [] => some []
  | next :: rest =>
    if Json.isSpace next then plainTokens rest
    else if isWordStart next then
      if endsBefore (rest.dropWhile isWordCharacter) then
        (plainTokens (rest.dropWhile isWordCharacter)).map
          (.word (nameOf (next :: rest.takeWhile isWordCharacter)) :: ·)
      else none
    else if isMark next then (plainTokens rest).map (.mark next :: ·)
    else if next = '.' then
      if beginsWord rest then (plainTokens rest).map (.mark '.' :: ·) else none
    else if next = '=' then
      if beginsBlank rest then (plainTokens rest).map (.symbol "=" :: ·) else none
    else if next = '$' then
      if isParameterNumber (rest.takeWhile Char.isDigit) &&
          endsBefore (rest.dropWhile Char.isDigit) then
        (plainTokens (rest.dropWhile Char.isDigit)).map
          (.parameter (String.ofList (rest.takeWhile Char.isDigit)) :: ·)
      else none
    else if next = ':' ∧ rest.head? = some ':' then
      (plainTokens rest.tail).map (.symbol "::" :: ·)
    else none
termination_by text.length
decreasing_by
  all_goals simp only [List.length_cons]
  all_goals first
    | exact Nat.lt_succ_self _
    | exact Nat.lt_succ_of_le (List.dropWhile_sublist _).length_le
    | exact Nat.lt_succ_of_le (List.tail_sublist _).length_le

/-- What ends a word or the place of a parameter is no part of either. -/
theorem isWordCharacter_of_endsBefore {next : Char} {rest : List Char}
    (ends : endsBefore (next :: rest) = true) : isWordCharacter next = false := by
  simp only [endsBefore, Json.isSpace, isMark, List.contains_eq_mem, List.mem_cons,
    List.not_mem_nil, or_false, Bool.or_eq_true, decide_eq_true_eq, beq_iff_eq, or_assoc] at ends
  rcases ends with rfl | rfl | rfl | rfl | rfl | rfl | rfl | rfl | rfl | rfl | rfl | rfl
  all_goals decide

/-- A run of characters goes as far as the text that ends it. -/
theorem span_append {belongs : Char → Bool} (within : ∀ next, belongs next = true →
    isWordCharacter next = true) {written rest : List Char} (all : written.all belongs = true)
    (ends : endsBefore rest = true) :
    (written ++ rest).takeWhile belongs = written ∧ (written ++ rest).dropWhile belongs = rest := by
  have areWithin := List.all_eq_true.1 all
  rw [List.takeWhile_append_of_pos areWithin, List.dropWhile_append_of_pos areWithin]
  cases rest with
  | nil => simp
  | cons next others =>
    have outside : belongs next = false := by
      have noPart := isWordCharacter_of_endsBefore ends
      cases isPart : belongs next with
      | false => rfl
      | true => rw [within next isPart] at noPart; cases noPart
    simp [outside]

theorem isSpace_of_isWordStart {next : Char} (start : isWordStart next = true) :
    Json.isSpace next = false := by
  cases blank : Json.isSpace next with
  | false => rfl
  | true =>
    have ends : endsBefore [next] = true := by simp [endsBefore, blank]
    have noPart := isWordCharacter_of_endsBefore ends
    simp_all [isWordStart, isWordCharacter]

theorem stands_alone_of_isMark {next : Char} (marked : isMark next = true) :
    Json.isSpace next = false ∧ isWordStart next = false := by
  simp only [isMark, List.contains_eq_mem, List.mem_cons, List.not_mem_nil, or_false,
    decide_eq_true_eq] at marked
  rcases marked with rfl | rfl | rfl | rfl | rfl | rfl
  all_goals decide

theorem plainTokens_followsRules : FollowsRules plainTokens where
  nothing := by rw [plainTokens]
  blank next rest blank := by rw [plainTokens, if_pos blank]
  word written rest word ends := by
    cases written with
    | nil => cases word
    | cons first others =>
      obtain ⟨start, all⟩ := Bool.and_eq_true_iff.1 word
      obtain ⟨taken, left⟩ := span_append (fun _ => id) all ends
      rw [List.cons_append, plainTokens, isSpace_of_isWordStart start, if_neg Bool.false_ne_true,
        if_pos start, taken, left, if_pos ends]
  parameter digits rest isNumber ends := by
    have isPart : ∀ next, Char.isDigit next = true → isWordCharacter next = true := by
      intro next digit
      simp [isWordCharacter, digit]
    have areDigits := (Bool.and_eq_true_iff.1 (Bool.and_eq_true_iff.1 isNumber).1).2
    obtain ⟨taken, left⟩ := span_append isPart areDigits ends
    rw [plainTokens, taken, left, isNumber, ends]
    rfl
  mark next rest marked := by
    obtain ⟨noSpace, noWord⟩ := stands_alone_of_isMark marked
    rw [plainTokens, noSpace, noWord, if_pos marked]
    rfl
  point rest begins := by
    rw [plainTokens, begins]
    rfl
  equals rest begins := by
    rw [plainTokens, begins]
    rfl
  cast rest := by
    rw [plainTokens]
    rfl

/-- Blanks have no tokens, however many there are. -/
theorem FollowsRules.blanks {tokens : List Char → Option (List Token)} (rules : FollowsRules tokens)
    {written : List Char} (blank : written.all Json.isSpace = true) (rest : List Char) :
    tokens (written ++ rest) = tokens rest := by
  induction written with
  | nil => rfl
  | cons next others inductionHypothesis =>
    obtain ⟨isSpace, others⟩ := Bool.and_eq_true_iff.1 blank
    exact (rules.blank next _ isSpace).trans (inductionHypothesis others)

/-! ### Templates -/

/-- A piece of a template. -/
inductive Piece where
  /-- Blanks and breaks between lines. -/
  | gap (written : List Char)
  | word (written : String)
  /-- The place of the name of a schema. -/
  | schema
  | parameter (digits : String)
  | mark (character : Char)
  | point
  | equals
  | cast
  deriving DecidableEq

namespace Piece

/-- A single blank. -/
def blank : Piece :=
  gap [' ']

/-- The break before a line, with the blanks in front of the line. -/
def line (indentation : Nat) : Piece :=
  gap ('\n' :: List.replicate indentation ' ')

/-- The text of a piece, with a name in the place of the schema. -/
def written (name : String) : Piece → List Char
  | gap written => written
  | word written => written.toList
  | schema => name.toList
  | parameter digits => '$' :: digits.toList
  | mark character => [character]
  | point => ['.']
  | equals => ['=']
  | cast => [':', ':']

/-- The tokens of a piece, with a name in the place of the schema. -/
def tokens (name : String) : Piece → List Token
  | gap _ => []
  | word written => [.word (nameOf written.toList)]
  | schema => [.word name]
  | parameter digits => [.parameter digits]
  | mark character => [.mark character]
  | point => [.mark '.']
  | equals => [.symbol "="]
  | cast => [.symbol "::"]

/-- Whether a piece may come behind a word or the place of a parameter. -/
def ends : Piece → Bool
  | gap _ | mark _ | point | cast => true
  | _ => false

/-- Whether a piece is a word of the template or the name of a schema. -/
def isName : Piece → Bool
  | word _ | schema => true
  | _ => false

/-- Whether a piece is a gap. -/
def isGap : Piece → Bool
  | gap _ => true
  | _ => false

/-- Whether a piece is written as its token and what comes behind it does not belong to it. -/
def standsBefore (piece : Piece) (next : Option Piece) : Bool :=
  match piece with
  | gap written => isBlankText written
  | cast => true
  | word written => isWord written.toList && next.all ends
  | schema => next.all ends
  | parameter digits => isParameterNumber digits.toList && next.all ends
  | mark character => isMark character
  | point => next.any isName
  | equals => next.any isGap

end Piece

/-- A statement with places for the name of a schema. -/
abbrev Template := List Piece

namespace Template

/-- The text of a template with a name in the places of the schema. -/
def text (name : String) (template : Template) : List Char :=
  template.flatMap (Piece.written name)

/-- The tokens of a template with a name in the places of the schema. -/
def tokens (name : String) (template : Template) : List Token :=
  template.flatMap (Piece.tokens name)

/-- Whether no piece runs on into the next one. -/
def isSpaced : Template → Bool
  | [] => true
  | piece :: rest => piece.standsBefore rest.head? && isSpaced rest

@[simp] theorem text_nil (name : String) : text name [] = [] := rfl

@[simp] theorem text_cons (name : String) (piece : Piece) (rest : Template) :
    text name (piece :: rest) = piece.written name ++ text name rest :=
  List.flatMap_cons

theorem text_append (name : String) (first second : Template) :
    text name (first ++ second) = text name first ++ text name second :=
  List.flatMap_append

@[simp] theorem tokens_cons (name : String) (piece : Piece) (rest : Template) :
    tokens name (piece :: rest) = piece.tokens name ++ tokens name rest :=
  List.flatMap_cons

/-- A template without a place for the schema has one text. -/
theorem text_eq_of_not_mem {template : Template} (fixed : .schema ∉ template) (name : String) :
    template.text name = template.text "" := by
  induction template with
  | nil => rfl
  | cons piece rest inductionHypothesis =>
    rw [text_cons, text_cons, inductionHypothesis (mt (List.mem_cons_of_mem piece) fixed)]
    cases piece with
    | schema => exact absurd List.mem_cons_self fixed
    | gap | word | parameter | mark | point | equals | cast => rfl

/-- The pieces before the first place for the schema. -/
def before (template : Template) : Template :=
  template.takeWhile (· != .schema)

/-- The pieces behind the first place for the schema. -/
def behind (template : Template) : Template :=
  (template.dropWhile (· != .schema)).tail

/-- Whether a template has one place for the schema. -/
def HasOnePlace (template : Template) : Prop :=
  template = template.before ++ .schema :: template.behind ∧ .schema ∉ template.behind

instance (template : Template) : Decidable template.HasOnePlace :=
  inferInstanceAs (Decidable (_ ∧ _))

theorem schema_not_mem_before (template : Template) : .schema ∉ template.before := by
  intro member
  exact absurd (List.mem_takeWhile_imp member) (by decide)

/-- The text of a template with one place: what stands before it, the name, and what stands behind
it. -/
theorem append_eq_text {template : Template} (onePlace : template.HasOnePlace)
    {front back : List Char} (first : front = template.before.text "")
    (last : back = template.behind.text "") (name : String) :
    front ++ (name.toList ++ back) = template.text name := by
  obtain ⟨parts, fixed⟩ := onePlace
  rw [first, last, ← text_eq_of_not_mem template.schema_not_mem_before name,
    ← text_eq_of_not_mem fixed name]
  calc template.before.text name ++ (name.toList ++ template.behind.text name)
    _ = template.before.text name ++ text name (.schema :: template.behind) := rfl
    _ = text name (template.before ++ .schema :: template.behind) := (text_append _ _ _).symm
    _ = template.text name := congrArg (text name) parts.symm

theorem isSpaced_cons {piece : Piece} {rest : Template} (spaced : isSpaced (piece :: rest) = true) :
    piece.standsBefore rest.head? = true ∧ isSpaced rest = true := by
  simpa [isSpaced] using spaced

variable {name : String} {template : Template}

theorem beginsBlank_of_isBlankText {written : List Char} (blank : isBlankText written = true)
    (rest : List Char) : beginsBlank (written ++ rest) = true := by
  cases written with
  | nil => cases blank
  | cons next others =>
    obtain ⟨-, all⟩ := Bool.and_eq_true_iff.1 blank
    exact (Bool.and_eq_true_iff.1 all).1

theorem endsBefore_of_beginsBlank {text : List Char} (begins : beginsBlank text = true) :
    endsBefore text = true := by
  cases text with
  | nil => rfl
  | cons next rest =>
    have isSpace : Json.isSpace next = true := begins
    simp [endsBefore, isSpace]

/-- A word and the place of a parameter end before the rest of a template. -/
theorem endsBefore_text (spaced : template.isSpaced = true)
    (ends : template.head?.all Piece.ends = true) : endsBefore (template.text name) = true := by
  cases template with
  | nil => rfl
  | cons piece rest =>
    cases piece with
    | gap written =>
      exact endsBefore_of_beginsBlank (beginsBlank_of_isBlankText (isSpaced_cons spaced).1 _)
    | point | cast => simp [Piece.written, endsBefore]
    | mark character =>
      have isMark : isMark character = true := (isSpaced_cons spaced).1
      simp [Piece.written, endsBefore, isMark]
    | word | schema | parameter | equals => cases ends

theorem beginsWord_of_isWord {written : List Char} (isWord : Relational.isWord written = true)
    (rest : List Char) : beginsWord (written ++ rest) = true := by
  cases written with
  | nil => cases isWord
  | cons first others => exact (Bool.and_eq_true_iff.1 isWord).1

theorem beginsWord_text (isWord : Relational.isWord name.toList = true)
    (spaced : template.isSpaced = true)
    (begins : template.head?.any Piece.isName = true) :
    beginsWord (template.text name) = true := by
  cases template with
  | nil => cases begins
  | cons piece rest =>
    rw [text_cons]
    cases piece with
    | word written =>
      exact beginsWord_of_isWord (Bool.and_eq_true_iff.1 (isSpaced_cons spaced).1).1 _
    | schema => exact beginsWord_of_isWord isWord _
    | gap | parameter | mark | point | equals | cast => cases begins

theorem beginsBlank_text (spaced : template.isSpaced = true)
    (begins : template.head?.any Piece.isGap = true) :
    beginsBlank (template.text name) = true := by
  cases template with
  | nil => cases begins
  | cons piece rest =>
    cases piece with
    | gap written => exact beginsBlank_of_isBlankText (isSpaced_cons spaced).1 _
    | word | schema | parameter | mark | point | equals | cast => cases begins

/-- A template whose pieces are spaced splits into their tokens, whatever name is put in. -/
theorem tokens_text {tokens : List Char → Option (List Token)} (rules : FollowsRules tokens)
    (isWord : Relational.isWord name.toList = true) (own : nameOf name.toList = name)
    (spaced : template.isSpaced = true) :
    tokens (template.text name) = some (template.tokens name) := by
  induction template with
  | nil => exact rules.nothing
  | cons piece rest inductionHypothesis =>
    obtain ⟨stands, spacedRest⟩ := isSpaced_cons spaced
    have onward (token : Token) : (tokens (text name rest)).map (token :: ·) =
        some (token :: Template.tokens name rest) := by
      rw [inductionHypothesis spacedRest]
      rfl
    rw [text_cons, tokens_cons]
    cases piece with
    | gap written =>
      obtain ⟨-, blank⟩ := Bool.and_eq_true_iff.1 stands
      exact (rules.blanks blank _).trans (inductionHypothesis spacedRest)
    | word written =>
      obtain ⟨isWord, ends⟩ := Bool.and_eq_true_iff.1 stands
      exact (rules.word _ _ isWord (endsBefore_text spacedRest ends)).trans (onward _)
    | schema =>
      refine (rules.word _ _ isWord (endsBefore_text spacedRest stands)).trans ?_
      rw [own]
      exact onward (.word name)
    | parameter digits =>
      obtain ⟨isNumber, ends⟩ := Bool.and_eq_true_iff.1 stands
      refine (rules.parameter _ _ isNumber (endsBefore_text spacedRest ends)).trans ?_
      rw [String.ofList_toList]
      exact onward (.parameter digits)
    | mark character => exact (rules.mark character _ stands).trans (onward _)
    | point => exact (rules.point _ (beginsWord_text isWord spacedRest stands)).trans (onward _)
    | equals => exact (rules.equals _ (beginsBlank_text spacedRest stands)).trans (onward _)
    | cast => exact (rules.cast _).trans (onward _)

end Template

end Testbed.Relational
