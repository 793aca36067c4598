/-
This file proves that blanks behind a JSON text change nothing of what the whole text is read as. A
reader is steady if it agrees with itself on the text with a blank at its end, and every reader is
steady that is put together from steady ones: for the elements of an array, the members of an object
and the fields of a record. Where a reader calls itself on a rest of its text, the induction is on
the length of the text.
-/

import Testbed.Proofs.TrailingBlanks

namespace Testbed.Json

variable {Value First Second : Type}

/-! ### What stands behind blanks -/

/-- Goes to the first character that is no blank. -/
def firstVisible (text : List Char) : Front Char :=
  match skipSpace text with
  | [] => .error .ended
  | next :: rest => .ok (next, rest)

/-- The element behind a comma. -/
def elementBehind (text : List Char) : Except Fault (Option (List Char)) :=
  match skipSpace text with
  | [] => .error .ended
  | ']' :: _ => .error .malformed
  | element => .ok (some element)

/-- Reads the key that begins here. -/
def keyAt : List Char → Except Fault (Option (String × List Char))
  | '"' :: rest => (stringBody rest).map fun (characters, rest) =>
    some (String.ofList characters, rest)
  | _ => .error .malformed

/-- Reads the key behind a comma. -/
def keyBehind (text : List Char) : Except Fault (Option (String × List Char)) :=
  match skipSpace text with
  | [] => .error .ended
  | key => keyAt key

theorem keyAt_cons (next : Char) (rest : List Char) :
    keyAt (next :: rest) =
      if next = '"' then
        (stringBody rest).map fun (characters, rest) => some (String.ofList characters, rest)
      else .error .malformed := by
  unfold keyAt
  split <;> simp_all

section

variable (text : List Char)

theorem readString_eq (depth : Nat) :
    readString depth text = (firstVisible text).bind fun (next, rest) =>
      if next = '"' then
        (stringBody rest).map fun (characters, rest) => (String.ofList characters, rest)
      else .error (mismatchAt (next :: rest)) := by
  unfold readString firstVisible
  cases skipSpace text with
  | nil => rfl
  | cons next rest =>
    dsimp only [Except.bind]
    split <;> simp_all

theorem readNumber_eq (depth : Nat) :
    readNumber depth text = (firstVisible text).bind fun (next, rest) =>
      if next = '-' then numberBody true rest
      else if isDigit next then numberBody false (next :: rest)
      else .error (mismatchAt (next :: rest)) := by
  unfold readNumber firstVisible
  cases skipSpace text with
  | nil => rfl
  | cons next rest =>
    dsimp only [Except.bind]
    split <;> simp_all

theorem elementBehind_eq :
    elementBehind text = (firstVisible text).bind fun (next, rest) =>
      if next = ']' then .error .malformed else .ok (some (next :: rest)) := by
  unfold elementBehind firstVisible
  cases skipSpace text with
  | nil => rfl
  | cons next rest =>
    dsimp only [Except.bind]
    split <;> simp_all

theorem nextElement_eq (isFirst : Bool) :
    nextElement isFirst text = (firstVisible text).bind fun (next, rest) =>
      if next = ']' then .ok none
      else if isFirst then .ok (some (next :: rest))
      else if next = ',' then elementBehind rest
      else .error .malformed := by
  unfold nextElement firstVisible
  cases skipSpace text with
  | nil => rfl
  | cons next rest =>
    dsimp only [Except.bind]
    split
    next => simp_all
    next => simp_all
    next notClosed same =>
      cases same
      rw [if_neg notClosed]
      rfl

theorem keyBehind_eq :
    keyBehind text = (firstVisible text).bind fun (next, rest) =>
      keyAt (next :: rest) := by
  unfold keyBehind firstVisible
  cases skipSpace text <;> rfl

theorem nextKey_eq (isFirst : Bool) :
    nextKey isFirst text = (firstVisible text).bind fun (next, rest) =>
      if next = '\x7d' then .ok none
      else if isFirst then keyAt (next :: rest)
      else if next = ',' then keyBehind rest
      else .error .malformed := by
  unfold nextKey firstVisible
  cases skipSpace text with
  | nil => rfl
  | cons next rest =>
    dsimp only [Except.bind]
    split
    next => simp_all
    next => simp_all
    next notClosed same =>
      cases same
      rw [if_neg notClosed]
      rfl

theorem closeArray_eq :
    closeArray text = (firstVisible text).bind fun (next, rest) =>
      if next = ']' then .ok rest else .error .malformed := by
  unfold closeArray firstVisible
  cases skipSpace text with
  | nil => rfl
  | cons next rest =>
    dsimp only [Except.bind]
    split <;> simp_all

theorem closeObject_eq :
    closeObject text = (firstVisible text).bind fun (next, rest) =>
      if next = '\x7d' then .ok rest else .error .malformed := by
  unfold closeObject firstVisible
  cases skipSpace text with
  | nil => rfl
  | cons next rest =>
    dsimp only [Except.bind]
    split <;> simp_all

theorem skipColon_eq :
    skipColon text = (firstVisible text).bind fun (next, rest) =>
      if next = ':' then .ok rest else .error .malformed := by
  unfold skipColon firstVisible
  cases skipSpace text with
  | nil => rfl
  | cons next rest =>
    dsimp only [Except.bind]
    split <;> simp_all

theorem readList_eq (read : Reader Value) (depth : Nat) :
    readList read depth text = (firstVisible text).bind fun (next, rest) =>
      if next = '[' then
        match depth with
        | 0 => .error .malformed
        | deeper + 1 => inArray (elementsFrom (read deeper) true) rest
      else .error (mismatchAt (next :: rest)) := by
  unfold readList firstVisible
  cases skipSpace text with
  | nil => rfl
  | cons next rest =>
    dsimp only [Except.bind]
    cases depth <;> split <;> simp_all

theorem readMap_eq (read : Reader Value) (depth : Nat) :
    readMap read depth text = (firstVisible text).bind fun (next, rest) =>
      if next = '\x7b' then
        match depth with
        | 0 => .error .malformed
        | deeper + 1 =>
          (inObject (membersFrom (read deeper) true) rest).map fun (members, rest) =>
            (Sorted.putAll members [], rest)
      else .error (mismatchAt (next :: rest)) := by
  unfold readMap firstVisible
  cases skipSpace text with
  | nil => rfl
  | cons next rest =>
    dsimp only [Except.bind]
    cases depth <;> split <;> simp_all

theorem readRecord_eq (columns : Columns Value) (depth : Nat) :
    readRecord columns depth text = (firstVisible text).bind fun (next, rest) =>
      if next = '[' then
        match depth with
        | 0 => .error .malformed
        | deeper + 1 => inArray (fun text => refine columns.finish?
          (readInOrder deeper columns.inOrder true columns.empty text)) rest
      else if next = '\x7b' then
        match depth with
        | 0 => .error .malformed
        | deeper + 1 => inObject (fun text => refine columns.finish?
          (readMembers columns deeper true columns.empty text)) rest
      else .error (mismatchAt (next :: rest)) := by
  unfold readRecord firstVisible
  cases skipSpace text with
  | nil => rfl
  | cons next rest =>
    dsimp only [Except.bind]
    cases depth <;> split <;> simp_all

theorem skipStart_eq :
    skipStart text = (firstVisible text).bind fun (next, rest) =>
      if next = 'n' then (word ['u', 'l', 'l'] rest).map .complete
      else if next = 't' then (word ['r', 'u', 'e'] rest).map .complete
      else if next = 'f' then (word ['a', 'l', 's', 'e'] rest).map .complete
      else if next = '"' then (skipString rest).map .complete
      else if next = '-' then (skipNumber rest).map .complete
      else if next = '[' then .ok (.opened .array rest)
      else if next = '\x7b' then .ok (.opened .object rest)
      else if isDigit next then (skipNumber (next :: rest)).map .complete
      else .error .malformed := by
  unfold skipStart firstVisible
  cases skipSpace text with
  | nil => rfl
  | cons next rest =>
    dsimp only [Except.bind]
    split <;> simp_all

theorem skipKey_eq :
    skipKey text = (firstVisible text).bind fun (next, rest) =>
      if next = '"' then (skipString rest).bind skipColon else .error .malformed := by
  unfold skipKey firstVisible
  cases skipSpace text with
  | nil => rfl
  | cons next rest =>
    dsimp only [Except.bind]
    split
    next => simp_all
    next same =>
      cases same
      rw [if_pos rfl]
      cases skipString rest <;> rfl
    next => simp_all

end

/-! ### Readers in steps -/

theorem inArray_eq (read : List Char → Front Value) (text : List Char) :
    inArray read text = (read text).bind fun (value, rest) =>
      (closeArray rest).map fun rest => (value, rest) := by
  unfold inArray
  cases read text <;> rfl

theorem inObject_eq (read : List Char → Front Value) (text : List Char) :
    inObject read text = (read text).bind fun (value, rest) =>
      (closeObject rest).map fun rest => (value, rest) := by
  unfold inObject
  cases read text <;> rfl

theorem refine_eq (convert : First → Option Second) (front : Front First) :
    refine convert front = front.bind fun (value, rest) =>
      match convert value with
      | some converted => .ok (converted, rest)
      | none => .error .mismatched := by
  unfold refine
  cases front <;> rfl

theorem memberValue_eq (read : List Char → Front Value) (text : List Char) :
    memberValue read text = (skipColon text).bind read := by
  unfold memberValue
  cases skipColon text <;> rfl

theorem elementsFrom_eq (read : List Char → Front Value) (isFirst : Bool) (text : List Char) :
    elementsFrom read isFirst text = (nextElement isFirst text).bind fun
      | none => .ok ([], text)
      | some element => (read element).bind fun (value, rest) =>
        if rest.length < text.length then
          (elementsFrom read false rest).map fun (values, rest) => (value :: values, rest)
        else .error .malformed := by
  rw [elementsFrom]
  cases nextElement isFirst text with
  | error fault => rfl
  | ok next =>
    cases next with
    | none => rfl
    | some element => cases found : read element <;> simp [found, Except.bind]

theorem membersFrom_eq (read : List Char → Front Value) (isFirst : Bool) (text : List Char) :
    membersFrom read isFirst text = (nextKey isFirst text).bind fun
      | none => .ok ([], text)
      | some (key, afterKey) => (memberValue read afterKey).bind fun (value, rest) =>
        if rest.length < text.length then
          (membersFrom read false rest).map fun (members, rest) => ((key, value) :: members, rest)
        else .error .malformed := by
  rw [membersFrom]
  cases nextKey isFirst text with
  | error fault => rfl
  | ok next =>
    cases next with
    | none => rfl
    | some found =>
      obtain ⟨key, afterKey⟩ := found
      cases found : memberValue read afterKey <;> simp [found, Except.bind]

theorem readElement_eq (read : List Char → Front Value) (isFirst : Bool) (text : List Char) :
    readElement read isFirst text = (nextElement isFirst text).bind fun
      | none => .error .mismatched
      | some element => read element := by
  unfold readElement
  cases nextElement isFirst text with
  | error fault => rfl
  | ok next => cases next <;> rfl

/-- Closes the brackets that end behind a step. -/
def closedBehind (brackets : List Bracket) : Skipped → Except Fault (List Bracket × List Char)
  | .complete rest => skipClosings true brackets rest
  | .opened bracket rest => skipClosings false (bracket :: brackets) rest

theorem skipWithin_eq (brackets : List Bracket) (text : List Char) :
    skipWithin brackets text = (skipStart text).bind fun step =>
      (closedBehind brackets step).bind fun
        | ([], rest) => .ok rest
        | (bracket :: outer, rest) => (skipLead bracket rest).bind fun rest =>
          if rest.length < text.length then skipWithin (bracket :: outer) rest
          else .error .malformed := by
  rw [skipWithin]
  cases skipStart text with
  | error fault => rfl
  | ok step =>
    show _ = (closedBehind brackets step).bind _
    dsimp only
    split
    next fault closing =>
      have closed : closedBehind brackets step = .error fault := closing
      rw [closed]
      rfl
    next rest closing =>
      have closed : closedBehind brackets step = .ok ([], rest) := closing
      rw [closed]
      rfl
    next bracket outer rest closing =>
      have closed : closedBehind brackets step = .ok (bracket :: outer, rest) := closing
      rw [closed]
      cases lead : skipLead bracket rest <;> simp [lead, Except.bind]

theorem readInOrder_cons {Draft : Type} (depth : Nat) (read : Draft → Reader Draft)
    (others : List (Draft → Reader Draft)) (isFirst : Bool) (draft : Draft) (text : List Char) :
    readInOrder depth (read :: others) isFirst draft text =
      (readElement (read draft depth) isFirst text).bind fun (draft, rest) =>
        readInOrder depth others false draft rest := by
  rw [readInOrder]
  cases readElement (read draft depth) isFirst text <;> rfl

theorem readMembers_eq (columns : Columns Value) (depth : Nat) (isFirst : Bool)
    (draft : columns.Draft) (text : List Char) :
    readMembers columns depth isFirst draft text = (nextKey isFirst text).bind fun
      | none => .ok (draft, text)
      | some (key, afterKey) =>
        match columns.named key with
        | some (isSet, read) =>
          if isSet draft then .error .mismatched
          else (memberValue (read draft depth) afterKey).bind fun (draft, rest) =>
            if rest.length < text.length then readMembers columns depth false draft rest
            else .error .malformed
        | none =>
          ((skipColon afterKey).bind skipValue).bind fun rest =>
            if rest.length < text.length then readMembers columns depth false draft rest
            else .error .malformed := by
  rw [readMembers]
  cases nextKey isFirst text with
  | error fault => rfl
  | ok next =>
    cases next with
    | none => rfl
    | some found =>
      obtain ⟨key, afterKey⟩ := found
      simp only [Except.bind]
      cases columns.named key with
      | some field =>
        obtain ⟨isSet, read⟩ := field
        cases found : memberValue (read draft depth) afterKey <;> simp [found]
      | none =>
        simp only [memberValue]
        cases found : skipColon afterKey with
        | error fault => rfl
        | ok behind => cases passed : skipValue behind <;> simp [passed, Except.map]

/-! ### Blanks behind values -/

/-- Whether a blank behind the text changes nothing of what is read at its front. -/
def IsSteady (read : List Char → Front Value) : Prop :=
  ∀ ⦃blank : Char⦄, isSpace blank = true → ∀ text : List Char,
    Agree (beforeBlank blank) (read text) (read (withBlank blank text))

/-- A key with the text behind it, once a blank stands behind that text. -/
def keyBeforeBlank (blank : Char) : Option (String × List Char) → Option (String × List Char) :=
  Option.map (beforeBlank blank)

/-- What passing over a step leads to, once a blank stands behind the text. -/
def Skipped.beforeBlank (blank : Char) : Skipped → Skipped
  | complete rest => .complete (withBlank blank rest)
  | opened bracket rest => .opened bracket (withBlank blank rest)

theorem IsSteady.map {read : List Char → Front First} (steady : IsSteady read)
    (make : First → Second) :
    IsSteady fun text => (read text).map fun (value, rest) => (make value, rest) :=
  fun _ isBlank text => (steady isBlank text).map fun _ => rfl

theorem IsSteady.refine {read : List Char → Front First} (steady : IsSteady read)
    (convert : First → Option Second) : IsSteady fun text => Json.refine convert (read text) := by
  intro blank isBlank text
  simp only [refine_eq]
  refine (steady isBlank text).bind fun (value, rest) _ => ?_
  simp only [beforeBlank_mk]
  cases convert value with
  | none => exact .error _ _
  | some converted => exact .ok (converted, rest)

theorem firstVisible_withBlank {blank : Char} (isBlank : isSpace blank = true)
    (text : List Char) :
    Agree (beforeBlank blank) (firstVisible text) (firstVisible (withBlank blank text)) := by
  unfold firstVisible
  obtain ⟨short, long⟩ | ⟨next, rest, short, long⟩ := skipSpace_withBlank isBlank text
  · rw [short, long]
    exact .error _ _
  · rw [short, long]
    exact .ok (next, rest)

/-! #### Plain values -/

theorem isSteady_readString (depth : Nat) : IsSteady (readString depth) := by
  intro blank isBlank text
  rw [readString_eq, readString_eq]
  refine (firstVisible_withBlank isBlank text).bind fun (next, rest) _ => ?_
  exact .ite ((stringBody_withBlank isBlank rest).map fun _ => rfl) (.error _ _)

theorem isSteady_readNumber (depth : Nat) : IsSteady (readNumber depth) := by
  intro blank isBlank text
  rw [readNumber_eq, readNumber_eq]
  refine (firstVisible_withBlank isBlank text).bind fun (next, rest) _ => ?_
  exact .ite (numberBody_withBlank isBlank true rest)
    (.ite (numberBody_withBlank isBlank false (next :: rest)) (.error _ _))

theorem isSteady_readDouble (depth : Nat) : IsSteady (readDouble depth) :=
  (isSteady_readNumber depth).map Number.toDouble

theorem isSteady_readInt64 (depth : Nat) : IsSteady (readInt64 depth) :=
  (isSteady_readNumber depth).refine Number.toInt64?

/-! #### Arrays -/

section

variable {blank : Char} (isBlank : isSpace blank = true)

include isBlank

theorem elementBehind_withBlank (text : List Char) :
    Agree (Option.map (withBlank blank)) (elementBehind text)
      (elementBehind (withBlank blank text)) := by
  rw [elementBehind_eq, elementBehind_eq]
  refine (firstVisible_withBlank isBlank text).bind fun (next, rest) _ => ?_
  exact .ite (.error _ _) (.ok (some (next :: rest)))

theorem nextElement_withBlank (isFirst : Bool) (text : List Char) :
    Agree (Option.map (withBlank blank)) (nextElement isFirst text)
      (nextElement isFirst (withBlank blank text)) := by
  rw [nextElement_eq, nextElement_eq]
  refine (firstVisible_withBlank isBlank text).bind fun (next, rest) _ => ?_
  exact .ite (.ok none) (.ite (.ok (some (next :: rest)))
    (.ite (elementBehind_withBlank isBlank rest) (.error _ _)))

theorem closeArray_withBlank (text : List Char) :
    Agree (withBlank blank) (closeArray text) (closeArray (withBlank blank text)) := by
  rw [closeArray_eq, closeArray_eq]
  refine (firstVisible_withBlank isBlank text).bind fun (next, rest) _ => ?_
  exact .ite (.ok rest) (.error _ _)

end

theorem IsSteady.inArray {read : List Char → Front Value} (steady : IsSteady read) :
    IsSteady (Json.inArray read) := by
  intro blank isBlank text
  rw [inArray_eq, inArray_eq]
  refine (steady isBlank text).bind fun (value, rest) _ => ?_
  exact (closeArray_withBlank isBlank rest).map fun _ => rfl

theorem IsSteady.elementsFrom {read : List Char → Front Value} (steady : IsSteady read)
    (isFirst : Bool) : IsSteady (Json.elementsFrom read isFirst) := by
  intro blank isBlank text
  induction length : text.length using Nat.strongRecOn generalizing text isFirst with
  | _ _ inductionHypothesis =>
  subst length
  rw [elementsFrom_eq, elementsFrom_eq read isFirst (withBlank blank text)]
  refine (nextElement_withBlank isBlank isFirst text).bind fun next _ => ?_
  cases next with
  | none => exact .ok ([], text)
  | some element =>
    refine (steady isBlank element).bind fun (value, rest) _ => ?_
    exact .ofShorter fun shorter =>
      (inductionHypothesis rest.length shorter false rest rfl).map fun _ => rfl

theorem IsSteady.readElement {read : List Char → Front Value} (steady : IsSteady read)
    (isFirst : Bool) : IsSteady (Json.readElement read isFirst) := by
  intro blank isBlank text
  rw [readElement_eq, readElement_eq]
  refine (nextElement_withBlank isBlank isFirst text).bind fun next _ => ?_
  cases next with
  | none => exact .error _ _
  | some element => exact steady isBlank element

theorem isSteady_readList {read : Reader Value} (steady : ∀ depth, IsSteady (read depth))
    (depth : Nat) : IsSteady (readList read depth) := by
  intro blank isBlank text
  rw [readList_eq, readList_eq]
  refine (firstVisible_withBlank isBlank text).bind fun (next, rest) _ => ?_
  refine .ite ?_ (.error _ _)
  cases depth with
  | zero => exact .error _ _
  | succ deeper => exact ((steady deeper).elementsFrom true).inArray isBlank rest

/-! #### Objects -/

section

variable {blank : Char} (isBlank : isSpace blank = true)

include isBlank

theorem keyAt_withBlank (next : Char) (rest : List Char) :
    Agree (keyBeforeBlank blank) (keyAt (next :: rest))
      (keyAt (next :: withBlank blank rest)) := by
  rw [keyAt_cons, keyAt_cons]
  exact .ite ((stringBody_withBlank isBlank rest).map fun _ => rfl) (.error _ _)

theorem keyBehind_withBlank (text : List Char) :
    Agree (keyBeforeBlank blank) (keyBehind text) (keyBehind (withBlank blank text)) := by
  rw [keyBehind_eq, keyBehind_eq]
  exact (firstVisible_withBlank isBlank text).bind
    fun (next, rest) _ => keyAt_withBlank isBlank next rest

theorem nextKey_withBlank (isFirst : Bool) (text : List Char) :
    Agree (keyBeforeBlank blank) (nextKey isFirst text)
      (nextKey isFirst (withBlank blank text)) := by
  rw [nextKey_eq, nextKey_eq]
  refine (firstVisible_withBlank isBlank text).bind fun (next, rest) _ => ?_
  exact .ite (.ok none) (.ite (keyAt_withBlank isBlank next rest)
    (.ite (keyBehind_withBlank isBlank rest) (.error _ _)))

theorem skipColon_withBlank (text : List Char) :
    Agree (withBlank blank) (skipColon text) (skipColon (withBlank blank text)) := by
  rw [skipColon_eq, skipColon_eq]
  refine (firstVisible_withBlank isBlank text).bind fun (next, rest) _ => ?_
  exact .ite (.ok rest) (.error _ _)

theorem closeObject_withBlank (text : List Char) :
    Agree (withBlank blank) (closeObject text) (closeObject (withBlank blank text)) := by
  rw [closeObject_eq, closeObject_eq]
  refine (firstVisible_withBlank isBlank text).bind fun (next, rest) _ => ?_
  exact .ite (.ok rest) (.error _ _)

end

theorem IsSteady.inObject {read : List Char → Front Value} (steady : IsSteady read) :
    IsSteady (Json.inObject read) := by
  intro blank isBlank text
  rw [inObject_eq, inObject_eq]
  refine (steady isBlank text).bind fun (value, rest) _ => ?_
  exact (closeObject_withBlank isBlank rest).map fun _ => rfl

theorem IsSteady.memberValue {read : List Char → Front Value} (steady : IsSteady read) :
    IsSteady (Json.memberValue read) := by
  intro blank isBlank text
  rw [memberValue_eq, memberValue_eq]
  exact (skipColon_withBlank isBlank text).bind fun rest _ => steady isBlank rest

theorem IsSteady.membersFrom {read : List Char → Front Value} (steady : IsSteady read)
    (isFirst : Bool) : IsSteady (Json.membersFrom read isFirst) := by
  intro blank isBlank text
  induction length : text.length using Nat.strongRecOn generalizing text isFirst with
  | _ _ inductionHypothesis =>
  subst length
  rw [membersFrom_eq, membersFrom_eq read isFirst (withBlank blank text)]
  refine (nextKey_withBlank isBlank isFirst text).bind fun next _ => ?_
  cases next with
  | none => exact .ok ([], text)
  | some found =>
    obtain ⟨key, afterKey⟩ := found
    refine (steady.memberValue isBlank afterKey).bind fun (value, rest) _ => ?_
    exact .ofShorter fun shorter =>
      (inductionHypothesis rest.length shorter false rest rfl).map fun _ => rfl

theorem isSteady_readMap {read : Reader Value} (steady : ∀ depth, IsSteady (read depth))
    (depth : Nat) : IsSteady (readMap read depth) := by
  intro blank isBlank text
  rw [readMap_eq, readMap_eq]
  refine (firstVisible_withBlank isBlank text).bind fun (next, rest) _ => ?_
  refine .ite ?_ (.error _ _)
  cases depth with
  | zero => exact .error _ _
  | succ deeper =>
    have members := ((steady deeper).membersFrom true).inObject
    exact members.map (Sorted.putAll · []) isBlank rest

/-! #### Values that are passed over -/

section

variable {blank : Char} (isBlank : isSpace blank = true)

include isBlank

theorem skipStart_withBlank (text : List Char) :
    Agree (Skipped.beforeBlank blank) (skipStart text) (skipStart (withBlank blank text)) := by
  have ofWord : ∀ letters rest, (∀ letter ∈ letters, isSpace letter = false) →
      Agree (Skipped.beforeBlank blank) ((word letters rest).map .complete)
        ((word letters (withBlank blank rest)).map .complete) :=
    fun _ rest visible => (word_withBlank isBlank visible rest).map fun _ => rfl
  have ofNumber : ∀ text, Agree (Skipped.beforeBlank blank) ((skipNumber text).map .complete)
      ((skipNumber (withBlank blank text)).map .complete) :=
    fun text => (skipNumber_withBlank isBlank text).map fun _ => rfl
  rw [skipStart_eq, skipStart_eq]
  refine (firstVisible_withBlank isBlank text).bind fun (next, rest) _ => ?_
  refine .ite (ofWord _ _ (by simp [isSpace])) (.ite (ofWord _ _ (by simp [isSpace])) ?_)
  refine .ite (ofWord _ _ (by simp [isSpace])) ?_
  refine .ite ((skipString_withBlank isBlank rest).map fun _ => rfl) (.ite (ofNumber rest) ?_)
  exact .ite (.ok (Skipped.opened .array rest)) (.ite (.ok (Skipped.opened .object rest))
    (.ite (ofNumber (next :: rest)) (.error _ _)))

theorem skipClosings_withBlank (afterValue : Bool) (brackets : List Bracket) (text : List Char) :
    Agree (beforeBlank blank) (skipClosings afterValue brackets text)
      (skipClosings afterValue brackets (withBlank blank text)) := by
  induction brackets generalizing afterValue text with
  | nil =>
    rw [skipClosings, skipClosings]
    exact .ok ([], text)
  | cons bracket outer inductionHypothesis =>
    rw [skipClosings, skipClosings]
    obtain ⟨short, long⟩ | ⟨next, rest, short, long⟩ := skipSpace_withBlank isBlank text
    · rw [short, long]
      exact .error _ _
    · rw [short, long]
      exact .ite (.ok (bracket :: outer, rest)) (.ite (inductionHypothesis true rest)
        (.ite (.error _ _) (.ok (bracket :: outer, next :: rest))))

theorem closedBehind_withBlank (brackets : List Bracket) (step : Skipped) :
    Agree (beforeBlank blank) (closedBehind brackets step)
      (closedBehind brackets (step.beforeBlank blank)) := by
  cases step with
  | complete rest => exact skipClosings_withBlank isBlank true brackets rest
  | opened bracket rest => exact skipClosings_withBlank isBlank false (bracket :: brackets) rest

theorem skipLead_withBlank (bracket : Bracket) (text : List Char) :
    Agree (withBlank blank) (skipLead bracket text) (skipLead bracket (withBlank blank text)) := by
  cases bracket with
  | array => exact .ok text
  | object =>
    rw [skipLead, skipLead, skipKey_eq, skipKey_eq]
    refine (firstVisible_withBlank isBlank text).bind fun (next, rest) _ => ?_
    refine .ite ((skipString_withBlank isBlank rest).bind fun behind _ => ?_) (.error _ _)
    exact skipColon_withBlank isBlank behind

theorem skipWithin_withBlank (brackets : List Bracket) (text : List Char) :
    Agree (withBlank blank) (skipWithin brackets text)
      (skipWithin brackets (withBlank blank text)) := by
  induction length : text.length using Nat.strongRecOn generalizing text brackets with
  | _ _ inductionHypothesis =>
  subst length
  rw [skipWithin_eq, skipWithin_eq brackets (withBlank blank text)]
  refine (skipStart_withBlank isBlank text).bind fun step _ => ?_
  refine (closedBehind_withBlank isBlank brackets step).bind fun (still, rest) _ => ?_
  cases still with
  | nil => exact .ok rest
  | cons bracket outer =>
    refine (skipLead_withBlank isBlank bracket rest).bind fun rest _ => ?_
    exact .ofShorter fun shorter =>
      inductionHypothesis rest.length shorter (bracket :: outer) rest rfl

end

/-! #### Records -/

theorem IsSteady.readInto {read : Reader First} {depth : Nat} (steady : IsSteady (read depth))
    (place : First → Second) : IsSteady (Json.readInto read place depth) :=
  steady.map place

/-- Whether a blank behind the text changes nothing of what any field of a record is read as. -/
structure Columns.AreSteady (columns : Columns Value) : Prop where
  inOrder : ∀ read ∈ columns.inOrder, ∀ draft depth, IsSteady (read draft depth)
  named : ∀ key isSet read, columns.named key = some (isSet, read) →
    ∀ draft depth, IsSteady (read draft depth)

theorem Columns.areSteady_field (name : String) {read : Reader Value}
    (steady : ∀ depth, IsSteady (read depth)) : (Columns.field name read).AreSteady where
  inOrder := by
    intro reader member draft depth
    cases List.mem_singleton.1 member
    exact (steady depth).readInto some
  named := by
    intro key isSet reader found draft depth
    unfold Columns.field at found
    simp only at found
    split at found
    · cases found
      exact (steady depth).readInto some
    · cases found

theorem Columns.AreSteady.and {first : Columns First} {second : Columns Second}
    (firstSteady : first.AreSteady) (secondSteady : second.AreSteady) :
    (first.and second).AreSteady where
  inOrder := by
    intro reader member draft depth
    obtain ⟨read, among, rfl⟩ | ⟨read, among, rfl⟩ :=
      (List.mem_append.1 member).imp List.mem_map.1 List.mem_map.1
    · exact (firstSteady.inOrder read among draft.1 depth).readInto _
    · exact (secondSteady.inOrder read among draft.2 depth).readInto _
  named := by
    intro key isSet reader found draft depth
    unfold Columns.and at found
    simp only at found
    split at found
    next isSetFirst read foundFirst =>
      cases found
      exact (firstSteady.named key isSetFirst read foundFirst draft.1 depth).readInto _
    next =>
      split at found
      next isSetSecond read foundSecond =>
        cases found
        exact (secondSteady.named key isSetSecond read foundSecond draft.2 depth).readInto _
      next => cases found

theorem Columns.AreSteady.build {columns : Columns First} (steady : columns.AreSteady)
    (make : First → Second) : (columns.build make).AreSteady where
  inOrder := steady.inOrder
  named := steady.named

theorem isSteady_readInOrder {Draft : Type} (depth : Nat)
    {readers : List (Draft → Reader Draft)}
    (steady : ∀ read ∈ readers, ∀ draft depth, IsSteady (read draft depth)) (isFirst : Bool)
    (draft : Draft) : IsSteady (readInOrder depth readers isFirst draft) := by
  intro blank isBlank text
  induction readers generalizing isFirst draft text with
  | nil => exact .ok (draft, text)
  | cons read others inductionHypothesis =>
    have steadyFirst := steady read List.mem_cons_self draft depth
    have steadyOthers := fun other member => steady other (List.mem_cons_of_mem read member)
    rw [readInOrder_cons, readInOrder_cons]
    refine (steadyFirst.readElement isFirst isBlank text).bind fun (draft, rest) _ => ?_
    exact inductionHypothesis steadyOthers false draft rest

theorem Columns.AreSteady.readMembers {columns : Columns Value} (steady : columns.AreSteady)
    (depth : Nat) (isFirst : Bool) (draft : columns.Draft) :
    IsSteady (Json.readMembers columns depth isFirst draft) := by
  intro blank isBlank text
  induction length : text.length using Nat.strongRecOn generalizing text isFirst draft with
  | _ _ inductionHypothesis =>
  subst length
  rw [readMembers_eq, readMembers_eq columns depth isFirst draft (withBlank blank text)]
  refine (nextKey_withBlank isBlank isFirst text).bind fun next _ => ?_
  cases next with
  | none => exact .ok (draft, text)
  | some found =>
    obtain ⟨key, afterKey⟩ := found
    show Agree _ (match columns.named key with | some (isSet, read) => _ | none => _)
      (match columns.named key with | some (isSet, read) => _ | none => _)
    cases named : columns.named key with
    | some field =>
      obtain ⟨isSet, read⟩ := field
      have steadyField := (steady.named key isSet read named draft depth).memberValue
      refine .ite (.error _ _) ((steadyField isBlank afterKey).bind fun (held, rest) _ => ?_)
      exact .ofShorter fun shorter => inductionHypothesis rest.length shorter false held rest rfl
    | none =>
      have passed := (skipColon_withBlank isBlank afterKey).bind
        fun behind _ => skipWithin_withBlank isBlank [] behind
      refine passed.bind fun rest _ => ?_
      exact .ofShorter fun shorter => inductionHypothesis rest.length shorter false draft rest rfl

theorem Columns.AreSteady.readRecord {columns : Columns Value} (steady : columns.AreSteady)
    (depth : Nat) : IsSteady (Json.readRecord columns depth) := by
  intro blank isBlank text
  rw [readRecord_eq, readRecord_eq]
  refine (firstVisible_withBlank isBlank text).bind fun (next, rest) _ => ?_
  cases depth with
  | zero => exact .ite (.error _ _) (.ite (.error _ _) (.error _ _))
  | succ deeper =>
    have elements := isSteady_readInOrder deeper steady.inOrder true columns.empty
    have members := steady.readMembers deeper true columns.empty
    exact .ite ((elements.refine columns.finish?).inArray isBlank rest)
      (.ite ((members.refine columns.finish?).inObject isBlank rest) (.error _ _))

/-! ### Whole texts -/

theorem readAll_ne_ok {read : Reader Value} {text : List Char} {fault : Fault}
    (failed : read greatestDepth text = .error fault) (value : Value) :
    readAll read text ≠ .ok value := by
  unfold readAll
  rw [failed]
  rintro ⟨⟩

theorem readAll_eq_ok_iff {read : Reader Value} {text rest : List Char} {found : Value}
    (isRead : read greatestDepth text = .ok (found, rest)) (value : Value) :
    readAll read text = .ok value ↔ skipSpace rest = [] ∧ found = value := by
  unfold readAll
  rw [isRead]
  by_cases ends : skipSpace rest = [] <;> simp [ends]

theorem skipSpace_withBlank_eq_nil_iff {blank : Char} (isBlank : isSpace blank = true)
    (text : List Char) : skipSpace (withBlank blank text) = [] ↔ skipSpace text = [] := by
  obtain ⟨short, long⟩ | ⟨next, rest, short, long⟩ := skipSpace_withBlank isBlank text
  · rw [short, long]
  · rw [short, long]
    simp

theorem readAll_withBlank {read : Reader Value} (steady : ∀ depth, IsSteady (read depth))
    {blank : Char} (isBlank : isSpace blank = true) (text : List Char) (value : Value) :
    readAll read (withBlank blank text) = .ok value ↔ readAll read text = .ok value := by
  obtain ⟨fault, longFault, short, long⟩ | ⟨⟨found, rest⟩, short, long⟩ :=
    steady greatestDepth isBlank text
  · exact iff_of_false (readAll_ne_ok long value) (readAll_ne_ok short value)
  · rw [readAll_eq_ok_iff short, readAll_eq_ok_iff long, skipSpace_withBlank_eq_nil_iff isBlank]
    rfl

/-- Blanks behind a text change nothing of what it is read as. -/
theorem readAll_append_blanks {read : Reader Value} (steady : ∀ depth, IsSteady (read depth))
    {blanks : List Char} (areBlank : ∀ blank ∈ blanks, isSpace blank = true) (text : List Char)
    (value : Value) :
    readAll read (text ++ blanks) = .ok value ↔ readAll read text = .ok value := by
  induction blanks generalizing text with
  | nil => rw [List.append_nil]
  | cons blank others inductionHypothesis =>
    have areBlankToo := fun other member => areBlank other (List.mem_cons_of_mem blank member)
    rw [List.append_cons, inductionHypothesis areBlankToo (text ++ [blank])]
    exact readAll_withBlank steady (areBlank blank List.mem_cons_self) text value

end Testbed.Json
