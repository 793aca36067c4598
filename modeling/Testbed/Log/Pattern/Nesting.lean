/-
This file measures how deep patterns nest while they are read. A repetition is one level deeper than
what it repeats, and a group or a class one level deeper than what it holds. Parts beside one
another are one level deeper than the deepest of them, and so are alternatives and what an operator
joins. The main statement is that no part lies deeper than the whole.
-/

namespace Testbed.Pattern

/-- The depth of what was read so far of a group or of a class. -/
structure Nesting where
  /-- The depth of what stands in front of the last bar or operator, if there is one. -/
  held : Option Nat := none
  /-- The number of parts behind it. -/
  parts : Nat := 0
  /-- The greatest depth of these parts but the last. -/
  deepest : Nat := 0
  /-- The depth of the last part. -/
  last : Nat := 0

/-- The greatest depth of a pattern. -/
def depthLimit : Nat := 250

namespace Nesting

/-- A further part of a depth. -/
def add (nesting : Nesting) (depth : Nat) : Nesting :=
  { nesting with
    parts := nesting.parts + 1, deepest := max nesting.deepest nesting.last, last := depth }

/-- The last part is repeated. -/
def repeated (nesting : Nesting) : Nesting :=
  { nesting with last := nesting.last + 1 }

/-- The depth of the parts behind the last bar or operator. -/
def sequence (nesting : Nesting) : Nat :=
  if nesting.parts ≤ 1 then nesting.last else max nesting.deepest nesting.last + 1

/-- The depth of all that was read. -/
def whole (nesting : Nesting) : Nat :=
  match nesting.held with
  | none => nesting.sequence
  | some depth => max depth nesting.sequence + 1

/-- A bar ends an alternative; all alternatives lie equally deep. -/
def bar (nesting : Nesting) : Nesting where
  held := some (max (nesting.held.getD 0) nesting.sequence)

/-- An operator joins what stands in front of it with what follows; one that comes later joins the
result of one that came before. -/
def operator (nesting : Nesting) : Nesting where
  held := some nesting.whole

/-- No part lies deeper than the parts beside it and itself together. -/
theorem last_le_sequence (nesting : Nesting) : nesting.last ≤ nesting.sequence := by
  unfold sequence
  split <;> omega

/-- No part lies deeper than the whole. -/
theorem last_le_whole (nesting : Nesting) : nesting.last ≤ nesting.whole := by
  have bound := nesting.last_le_sequence
  unfold whole
  split <;> omega

example : ((({} : Nesting).add 0).add 2).whole = 3 := rfl
example : (({} : Nesting).add 0).repeated.bar.whole = 2 := rfl

end Nesting

end Testbed.Pattern
