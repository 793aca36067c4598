/-
This file proves that an export is read line by line. The series of a text that is cut at a line
feed are those of the text before the cut and those of the text behind it, and the series of a text
are those of its lines that are not blank, in their order and one for each. How the lines end makes
no difference. At the end of a text a carriage return stays with its line, while before a line feed
it is dropped, so a cut can leave a line with a carriage return behind it; such a line is read as it
is without.
-/

import Testbed.Series.Export
import Testbed.Proofs.SteadyReaders
import Mathlib.Data.List.Forall2

namespace Testbed

open Json Text

/-! ### The pieces of a text -/

namespace Text

theorem splitAt_ne_nil (separator : Char) (text : List Char) : splitAt separator text ≠ [] := by
  cases text with
  | nil => exact List.cons_ne_nil _ _
  | cons character rest =>
    unfold splitAt
    split
    · exact List.cons_ne_nil _ _
    · split <;> exact List.cons_ne_nil _ _

theorem splitAt_append (separator : Char) (before behind : List Char) :
    splitAt separator (before ++ separator :: behind) =
      splitAt separator before ++ splitAt separator behind := by
  induction before with
  | nil => simp [splitAt]
  | cons character rest inductionHypothesis =>
    rw [List.cons_append, splitAt, splitAt, inductionHypothesis]
    split
    · rfl
    · cases pieces : splitAt separator rest with
      | nil => exact absurd pieces (splitAt_ne_nil separator rest)
      | cons piece others => rfl

theorem splitAt_of_not_mem {separator : Char} {text : List Char} (absent : separator ∉ text) :
    splitAt separator text = [text] := by
  induction text with
  | nil => rfl
  | cons character rest inductionHypothesis =>
    have other : character ≠ separator := fun same => absent (same ▸ List.mem_cons_self)
    rw [splitAt, if_neg other, inductionHypothesis (mt (List.mem_cons_of_mem _) absent)]

theorem allBlank_append_carriageReturn (line : List Char) :
    allBlank (line ++ ['\r']) = allBlank line := by
  have blank : isBlank '\r' = true := by decide
  simp [allBlank, blank]

/-- A carriage return stands behind what is left where one is dropped. -/
theorem dropCarriageReturn_cases (piece : List Char) :
    dropCarriageReturn piece = piece ∨ piece = dropCarriageReturn piece ++ ['\r'] := by
  unfold dropCarriageReturn
  split
  next ends => exact .inr (List.dropLast_append_getLast? '\r' ends).symm
  next => exact .inl rfl

end Text

/-! ### What the lines hold -/

theorem ExportedSeries.areSteady_columns : ExportedSeries.columns.AreSteady :=
  ((Columns.areSteady_field "metric" (isSteady_readMap isSteady_readString)).and
    ((Columns.areSteady_field "values" (isSteady_readList isSteady_readDouble)).and
      (Columns.areSteady_field "timestamps" (isSteady_readList isSteady_readInt64)))).build _

/-- Whether a line is read as a series. -/
def HoldsSeries (line : List Char) (series : ExportedSeries) : Prop :=
  readAll ExportedSeries.read line = .ok series

/-- Whether the lines that are not blank are read as the series, one by one. -/
def HoldInOrder (lines : List (List Char)) (series : List ExportedSeries) : Prop :=
  List.Forall₂ HoldsSeries (lines.filter fun line => !allBlank line) series

/-- Whether an export can not tell two lines apart. -/
structure ReadAlike (first second : List Char) : Prop where
  blank : allBlank first = allBlank second
  holds : ∀ series, HoldsSeries first series ↔ HoldsSeries second series

theorem ReadAlike.refl (line : List Char) : ReadAlike line line :=
  ⟨rfl, fun _ => Iff.rfl⟩

/-- A carriage return behind a line is blank, and the reader passes over it. -/
theorem readAlike_carriageReturn (line : List Char) : ReadAlike (line ++ ['\r']) line where
  blank := allBlank_append_carriageReturn line
  holds := readAll_append_blanks ExportedSeries.areSteady_columns.readRecord
    (List.forall_mem_singleton.2 rfl) line

theorem readAlike_dropCarriageReturn (piece : List Char) :
    ReadAlike (dropCarriageReturn piece) piece := by
  obtain same | ends := dropCarriageReturn_cases piece
  · rw [same]
    exact .refl piece
  · have alike := readAlike_carriageReturn (dropCarriageReturn piece)
    rw [← ends] at alike
    exact ⟨alike.blank.symm, fun series => (alike.holds series).symm⟩

theorem holdInOrder_cons {line : List Char} (lines : List (List Char))
    (visible : allBlank line = false) (series : List ExportedSeries) :
    HoldInOrder (line :: lines) series ↔
      ∃ one others, HoldsSeries line one ∧ HoldInOrder lines others ∧ series = one :: others := by
  unfold HoldInOrder
  rw [List.filter_cons_of_pos (by simpa using visible), List.forall₂_cons_left_iff]

theorem holdInOrder_cons_of_allBlank {line : List Char} (lines : List (List Char))
    (blank : allBlank line = true) (series : List ExportedSeries) :
    HoldInOrder (line :: lines) series ↔ HoldInOrder lines series := by
  unfold HoldInOrder
  rw [List.filter_cons_of_neg (by simpa using blank)]

theorem holdInOrder_cons_congr {line other : List Char} {lines others : List (List Char)}
    (alike : ReadAlike line other)
    (same : ∀ series, HoldInOrder lines series ↔ HoldInOrder others series)
    (series : List ExportedSeries) :
    HoldInOrder (line :: lines) series ↔ HoldInOrder (other :: others) series := by
  cases blank : allBlank other with
  | true =>
    rw [holdInOrder_cons_of_allBlank lines (alike.blank.trans blank),
      holdInOrder_cons_of_allBlank others blank, same]
  | false =>
    rw [holdInOrder_cons lines (alike.blank.trans blank), holdInOrder_cons others blank]
    simp only [alike.holds, same]

theorem holdInOrder_congr {first second : List (List Char)}
    (alike : List.Forall₂ ReadAlike first second) (series : List ExportedSeries) :
    HoldInOrder first series ↔ HoldInOrder second series := by
  induction alike generalizing series with
  | nil => exact Iff.rfl
  | cons same _ inductionHypothesis => exact holdInOrder_cons_congr same inductionHypothesis series

theorem holdInOrder_append (first second : List (List Char)) (series : List ExportedSeries) :
    HoldInOrder (first ++ second) series ↔
      ∃ before behind, HoldInOrder first before ∧ HoldInOrder second behind ∧
        series = before ++ behind := by
  induction first generalizing series with
  | nil =>
    refine ⟨fun holds => ⟨[], series, .nil, holds, rfl⟩, ?_⟩
    rintro ⟨before, behind, ⟨⟩, holds, rfl⟩
    exact holds
  | cons line lines inductionHypothesis =>
    cases blank : allBlank line with
    | true =>
      simp only [List.cons_append, holdInOrder_cons_of_allBlank _ blank, inductionHypothesis]
    | false =>
      simp only [List.cons_append, holdInOrder_cons _ blank, inductionHypothesis]
      constructor
      · rintro ⟨one, others, holds, ⟨before, behind, holdBefore, holdBehind, rfl⟩, rfl⟩
        exact ⟨one :: before, behind, ⟨one, before, holds, holdBefore, rfl⟩, holdBehind, rfl⟩
      · rintro ⟨_, behind, ⟨one, before, holds, holdBefore, rfl⟩, holdBehind, rfl⟩
        exact ⟨one, before ++ behind, holds, ⟨before, behind, holdBefore, holdBehind, rfl⟩, rfl⟩

/-- Dropping carriage returns, and what stands behind the last line feed if nothing does, leaves the
series as they are. -/
theorem holdInOrder_endLines (pieces : List (List Char)) (series : List ExportedSeries) :
    HoldInOrder (endLines pieces) series ↔ HoldInOrder pieces series := by
  induction pieces generalizing series with
  | nil => exact Iff.rfl
  | cons piece pieces inductionHypothesis =>
    cases pieces with
    | nil =>
      unfold endLines
      split
      next empty => exact (holdInOrder_cons_of_allBlank [] (by simp_all [allBlank]) series).symm
      next => exact Iff.rfl
    | cons next others =>
      exact holdInOrder_cons_congr (readAlike_dropCarriageReturn piece) inductionHypothesis series

theorem mapM_eq_ok_iff {Line Value : Type} (read : Line → Except Fault Value) (lines : List Line)
    (values : List Value) :
    lines.mapM read = .ok values ↔
      List.Forall₂ (fun line value => read line = .ok value) lines values := by
  induction lines generalizing values with
  | nil => simp [pure, Except.pure, eq_comm]
  | cons line others inductionHypothesis =>
    rw [List.mapM_cons, List.forall₂_cons_left_iff]
    simp only [← inductionHypothesis]
    cases read line with
    | error fault => simp [bind, Except.bind]
    | ok value =>
      cases others.mapM read with
      | error fault => simp [bind, Except.bind]
      | ok rest => simp [bind, Except.bind, pure, Except.pure, eq_comm]

theorem parseExport_eq_ok_iff (body : List Char) (series : List ExportedSeries) :
    parseExport body = .ok series ↔ HoldInOrder (splitAt '\n' body) series :=
  (mapM_eq_ok_iff _ _ series).trans (holdInOrder_endLines (splitAt '\n' body) series)

/-! ### Texts in lines -/

/-- How a line ends. -/
inductive LineEnd where
  | feed
  | returnAndFeed

/-- What stands before the line feed that ends a line. -/
def LineEnd.beforeFeed : LineEnd → List Char
  | feed => []
  | returnAndFeed => ['\r']

/-- A line with its end. -/
structure EndedLine where
  content : List Char
  noFeed : '\n' ∉ content
  ending : LineEnd

def EndedLine.text (line : EndedLine) : List Char :=
  line.content ++ line.ending.beforeFeed ++ ['\n']

/-- A text written in lines: those that have an end, and the one that the end of the text ends. -/
structure Lined where
  ended : List EndedLine
  last : List Char
  noFeed : '\n' ∉ last

namespace Lined

def text (lined : Lined) : List Char :=
  lined.ended.flatMap EndedLine.text ++ lined.last

/-- The lines without their ends. -/
def contents (lined : Lined) : List (List Char) :=
  lined.ended.map EndedLine.content ++ [lined.last]

/-- The pieces between the line feeds of a text written in lines: its lines, some of them with a
carriage return behind them. -/
theorem splitAt_text (lined : Lined) :
    splitAt '\n' lined.text =
      lined.ended.map (fun line => line.content ++ line.ending.beforeFeed) ++ [lined.last] := by
  obtain ⟨ended, last, noFeed⟩ := lined
  induction ended with
  | nil => exact splitAt_of_not_mem noFeed
  | cons line others inductionHypothesis =>
    have noFeedBefore : '\n' ∉ line.content ++ line.ending.beforeFeed := by
      cases line.ending <;> simp [LineEnd.beforeFeed, line.noFeed]
    have shape : text ⟨line :: others, last, noFeed⟩ =
        (line.content ++ line.ending.beforeFeed) ++ '\n' :: text ⟨others, last, noFeed⟩ := by
      simp [text, EndedLine.text]
    rw [shape, splitAt_append, splitAt_of_not_mem noFeedBefore, inductionHypothesis]
    rfl

theorem readAlike_pieces (lined : Lined) :
    List.Forall₂ ReadAlike (splitAt '\n' lined.text) lined.contents := by
  have ofEnded (line : EndedLine) :
      ReadAlike (line.content ++ line.ending.beforeFeed) line.content := by
    cases line.ending with
    | feed => simpa [LineEnd.beforeFeed] using ReadAlike.refl line.content
    | returnAndFeed => exact readAlike_carriageReturn line.content
  rw [splitAt_text, contents]
  refine List.rel_append ?_ (.cons (.refl lined.last) .nil)
  rw [List.forall₂_map_left_iff, List.forall₂_map_right_iff, List.forall₂_same]
  exact fun line _ => ofEnded line

/-- Every text is written in lines. -/
theorem exists_text_eq (body : List Char) : ∃ lined : Lined, lined.text = body := by
  induction body with
  | nil => exact ⟨⟨[], [], List.not_mem_nil⟩, rfl⟩
  | cons character rest inductionHypothesis =>
    obtain ⟨⟨ended, last, noFeed⟩, rfl⟩ := inductionHypothesis
    by_cases feed : character = '\n'
    · subst feed
      exact ⟨⟨⟨[], List.not_mem_nil, .feed⟩ :: ended, last, noFeed⟩, rfl⟩
    · cases ended with
      | nil => exact ⟨⟨[], character :: last, by simp [noFeed, Ne.symm feed]⟩, rfl⟩
      | cons line others =>
        obtain ⟨content, noFeedThere, ending⟩ := line
        exact ⟨⟨⟨character :: content, by simp [noFeedThere, Ne.symm feed], ending⟩ :: others, last,
          noFeed⟩, rfl⟩

end Lined

/-- The series of a text with a line feed in it are those of what stands before the line feed and
those of what stands behind it. Every text is written in lines of either ending. It is read if each
line that is not blank holds a series, and then its series are those of these lines, in their
order. -/
theorem parseExport_account :
    (∀ (first second : List Char) (series : List ExportedSeries),
      parseExport (first ++ '\n' :: second) = .ok series ↔
        ∃ before behind, parseExport first = .ok before ∧ parseExport second = .ok behind ∧
          series = before ++ behind) ∧
      (∀ (lined : Lined) (series : List ExportedSeries),
        parseExport lined.text = .ok series ↔
          List.Forall₂ (fun line one => readAll ExportedSeries.read line = .ok one)
            (lined.contents.filter fun line => !allBlank line) series) ∧
      ∀ body : List Char, ∃ lined : Lined, lined.text = body := by
  refine ⟨fun first second series => ?_, fun lined series => ?_, Lined.exists_text_eq⟩
  · simp only [parseExport_eq_ok_iff, splitAt_append]
    exact holdInOrder_append _ _ series
  · rw [parseExport_eq_ok_iff]
    exact holdInOrder_congr lined.readAlike_pieces series

end Testbed
