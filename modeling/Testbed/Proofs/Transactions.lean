/-
This file proves that a transaction changes everything it is to change or nothing. Its statements
are sent in order up to the first that is refused, and it is committed if and only if none was. A
store works on a copy of its tables for each transaction and shows the copy to others when it is
committed, so at whatever point a failure strikes, the tables are as before or hold all changes.
-/

import Testbed.Relational.Store
import Testbed.Proofs.Runs

namespace Testbed.RelationalStore

open Session Relational

/-! ### The courses of changes -/

/-- How changes were made: in which exchanges, and with what success. -/
abbrev Course := List (Exchange Action Reply) → Except Failure Unit → Prop

/-- The exchange in which a statement is performed in a transaction. -/
def performed (transaction : Nat) {expects : Expects} (statement : Statement expects)
    (reply : Except Failure (Answer expects)) : Exchange Action Reply :=
  ⟨.perform (.transaction transaction) expects statement, reply⟩

/-- A row is inserted by one statement. -/
inductive Inserts (schema : String) (transaction : Nat) (row : DataRow) : Course where
  | inserted (count : UInt64) :
      Inserts schema transaction row [performed transaction (insertRow schema row) (.ok count)]
        (.ok ())
  | refused (cause : Failure) :
      Inserts schema transaction row [performed transaction (insertRow schema row) (.error cause)]
        (.error cause)

/-- A table is looked for, and its rows are deleted only if it is found. -/
inductive Clears (transaction : Nat) (table : String) : Course where
  | unknown (cause : Failure) :
      Clears transaction table [performed transaction (findTable table) (.error cause)]
        (.error cause)
  | absent :
      Clears transaction table [performed transaction (findTable table) (.ok none)] (.ok ())
  | refused (name : String) (cause : Failure) :
      Clears transaction table
        [performed transaction (findTable table) (.ok (some name)),
          performed transaction (deleteFrom table) (.error cause)] (.error cause)
  | deleted (name : String) (count : UInt64) :
      Clears transaction table
        [performed transaction (findTable table) (.ok (some name)),
          performed transaction (deleteFrom table) (.ok count)] (.ok ())

/-- Changes are made for each item in order, up to the first for which they fail. -/
inductive InOrder {Item : Type} (Changes : Item → Course) : List Item → Course where
  | nil : InOrder Changes [] [] (.ok ())
  | failed (item : Item) (rest : List Item) (exchanges : List (Exchange Action Reply))
      (cause : Failure) (fails : Changes item exchanges (.error cause)) :
      InOrder Changes (item :: rest) exchanges (.error cause)
  | cons (item : Item) (rest : List Item) (first others : List (Exchange Action Reply))
      (result : Except Failure Unit) (succeeds : Changes item first (.ok ()))
      (further : InOrder Changes rest others result) :
      InOrder Changes (item :: rest) (first ++ others) result

/-- Changes are made in a transaction of their own. It is committed if all of them succeeded, and
left otherwise. -/
inductive Transacted (pool : Nat) (Changes : (transaction : Nat) → Course) :
    List (Exchange Action Reply) → Except RelationalError Unit → Prop where
  | notBegun (cause : Failure) :
      Transacted pool Changes [⟨.begin pool, .error cause⟩] (.error (.database cause))
  | abandoned (transaction : Nat) (exchanges : List (Exchange Action Reply)) (cause : Failure)
      (fail : Changes transaction exchanges (.error cause)) :
      Transacted pool Changes
        (⟨.begin pool, .ok transaction⟩ :: (exchanges ++ [⟨.abandon transaction, ()⟩]))
        (.error (.database cause))
  | notCommitted (transaction : Nat) (exchanges : List (Exchange Action Reply)) (cause : Failure)
      (succeed : Changes transaction exchanges (.ok ())) :
      Transacted pool Changes
        (⟨.begin pool, .ok transaction⟩ ::
          (exchanges ++ [⟨.commit transaction, .error cause⟩, ⟨.abandon transaction, ()⟩]))
        (.error (.database cause))
  | committed (transaction : Nat) (exchanges : List (Exchange Action Reply))
      (succeed : Changes transaction exchanges (.ok ())) :
      Transacted pool Changes
        (⟨.begin pool, .ok transaction⟩ :: (exchanges ++ [⟨.commit transaction, .ok ()⟩])) (.ok ())

/-! ### The runs of the operations -/

variable {exchanges : List (Exchange Action Reply)}

theorem runs_insertRows_iff (schema : String) (transaction : Nat) (rows : List DataRow)
    (result : Except Failure Unit) :
    Runs (insertRows schema transaction rows) exchanges result ↔
      InOrder (Inserts schema transaction) rows exchanges result := by
  induction rows generalizing exchanges with
  | nil =>
    refine (runs_done_iff _ _ _).trans ⟨?_, ?_⟩
    · rintro ⟨rfl, rfl⟩
      exact .nil
    · intro inOrder
      cases inOrder
      exact ⟨rfl, rfl⟩
  | cons row others inductionHypothesis =>
    refine (runs_act_bind_iff _ _ _ _).trans ⟨?_, ?_⟩
    · rintro ⟨reply, rest, rfl, run⟩
      cases reply with
      | error cause =>
        obtain ⟨rfl, rfl⟩ := (runs_done_iff _ _ _).1 run
        exact .failed row others _ cause (.refused cause)
      | ok count =>
        exact .cons row others [performed transaction (insertRow schema row) (.ok count)] rest
          result (.inserted count) (inductionHypothesis.1 run)
    · intro inOrder
      cases inOrder with
      | failed _ _ _ cause fails =>
        cases fails
        exact ⟨.error cause, [], rfl, .done _⟩
      | cons _ _ first rest _ succeeds further =>
        cases succeeds with
        | inserted count => exact ⟨.ok count, rest, rfl, inductionHypothesis.2 further⟩

theorem runs_clearIfPresent_iff (transaction : Nat) (table : String)
    (result : Except Failure Unit) :
    Runs (clearIfPresent transaction table) exchanges result ↔
      Clears transaction table exchanges result := by
  refine (runs_act_bind_iff _ _ _ _).trans ⟨?_, ?_⟩
  · rintro ⟨found, rest, rfl, run⟩
    rcases found with cause | _ | name
    · obtain ⟨rfl, rfl⟩ := (runs_done_iff _ _ _).1 run
      exact .unknown cause
    · obtain ⟨rfl, rfl⟩ := (runs_done_iff _ _ _).1 run
      exact .absent
    · obtain ⟨deleted, rest, rfl, ended⟩ := (runs_act_bind_iff _ _ _ _).1 run
      cases deleted with
      | error cause =>
        obtain ⟨rfl, rfl⟩ := (runs_done_iff _ _ _).1 ended
        exact .refused name cause
      | ok count =>
        obtain ⟨rfl, rfl⟩ := (runs_done_iff _ _ _).1 ended
        exact .deleted name count
  · intro clears
    cases clears with
    | unknown cause => exact ⟨.error cause, [], rfl, .done _⟩
    | absent => exact ⟨.ok none, [], rfl, .done _⟩
    | refused name cause =>
      exact ⟨.ok (some name), _, rfl,
        (runs_act_bind_iff _ _ _ _).2 ⟨.error cause, [], rfl, .done _⟩⟩
    | deleted name count =>
      exact ⟨.ok (some name), _, rfl, (runs_act_bind_iff _ _ _ _).2 ⟨.ok count, [], rfl, .done _⟩⟩

/-- A session that makes changes for two items runs as changes for them in order. -/
theorem runs_both_iff {Item : Type} {Changes : Item → Course} (first second : Item)
    (changes : Item → Work (Except Failure Unit))
    (runs : ∀ item exchanges result, Runs (changes item) exchanges result ↔
      Changes item exchanges result) (exchanges : List (Exchange Action Reply))
    (result : Except Failure Unit) :
    Runs ((changes first).bind fun changed => match changed with
        | .error cause => .done (.error cause)
        | .ok () => changes second) exchanges result ↔
      InOrder Changes [first, second] exchanges result := by
  rw [runs_bind_iff]
  constructor
  · rintro ⟨before, changed, after, rfl, start, rest⟩
    cases changed with
    | error cause =>
      obtain ⟨rfl, rfl⟩ := (runs_done_iff _ _ _).1 rest
      rw [List.append_nil]
      exact .failed _ _ _ _ ((runs _ _ _).1 start)
    | ok done =>
      refine .cons _ _ _ _ _ ((runs _ _ _).1 start) ?_
      cases result with
      | error cause => exact .failed _ _ _ _ ((runs _ _ _).1 rest)
      | ok done =>
        rw [← List.append_nil after]
        exact .cons _ _ _ _ _ ((runs _ _ _).1 rest) .nil
  · intro inOrder
    cases inOrder with
    | failed _ _ _ cause fails =>
      exact ⟨exchanges, .error cause, [], (List.append_nil _).symm, (runs _ _ _).2 fails, .done _⟩
    | cons _ _ before after _ succeeds further =>
      refine ⟨before, .ok (), after, rfl, (runs _ _ _).2 succeeds, (runs _ _ _).2 ?_⟩
      cases further with
      | failed _ _ _ cause fails => exact fails
      | cons _ _ _ _ _ succeeds nothing =>
        cases nothing
        rw [List.append_nil]
        exact succeeds

theorem runs_inTransaction_iff (store : RelationalStore)
    {changes : (transaction : Nat) → Work (Except Failure Unit)}
    {Changes : (transaction : Nat) → Course}
    (runs : ∀ transaction exchanges result, Runs (changes transaction) exchanges result ↔
      Changes transaction exchanges result) (exchanges : List (Exchange Action Reply))
    (result : Except RelationalError Unit) :
    Runs (store.inTransaction changes) exchanges result ↔
      Transacted store.pool Changes exchanges result := by
  refine (runs_act_bind_iff _ _ _ _).trans ⟨?_, ?_⟩
  · rintro ⟨begun, rest, rfl, run⟩
    cases begun with
    | error cause =>
      obtain ⟨rfl, rfl⟩ := (runs_done_iff _ _ _).1 run
      exact .notBegun cause
    | ok transaction =>
      obtain ⟨made, changed, after, rfl, start, finish⟩ := (runs_bind_iff _ _ _ _).1 run
      have change := (runs _ _ _).1 start
      cases changed with
      | error cause =>
        obtain ⟨_, rest, rfl, ended⟩ := (runs_act_bind_iff _ _ _ _).1 finish
        obtain ⟨rfl, rfl⟩ := (runs_done_iff _ _ _).1 ended
        exact .abandoned transaction made cause change
      | ok done =>
        obtain ⟨committed, rest, rfl, closing⟩ := (runs_act_bind_iff _ _ _ _).1 finish
        cases committed with
        | error cause =>
          obtain ⟨_, rest, rfl, ended⟩ := (runs_act_bind_iff _ _ _ _).1 closing
          obtain ⟨rfl, rfl⟩ := (runs_done_iff _ _ _).1 ended
          exact .notCommitted transaction made cause change
        | ok done =>
          obtain ⟨rfl, rfl⟩ := (runs_done_iff _ _ _).1 closing
          exact .committed transaction made change
  · intro transacted
    cases transacted with
    | notBegun cause => exact ⟨.error cause, [], rfl, .done _⟩
    | abandoned transaction made cause fail =>
      exact ⟨.ok transaction, _, rfl, Runs.bind ((runs _ _ _).2 fail)
        ((runs_act_bind_iff _ _ _ _).2 ⟨(), [], rfl, .done _⟩)⟩
    | notCommitted transaction made cause succeed =>
      exact ⟨.ok transaction, _, rfl, Runs.bind ((runs _ _ _).2 succeed)
        ((runs_act_bind_iff _ _ _ _).2 ⟨.error cause, _, rfl,
          (runs_act_bind_iff _ _ _ _).2 ⟨(), [], rfl, .done _⟩⟩)⟩
    | committed transaction made succeed =>
      exact ⟨.ok transaction, _, rfl, Runs.bind ((runs _ _ _).2 succeed)
        ((runs_act_bind_iff _ _ _ _).2 ⟨.ok (), [], rfl, .done _⟩)⟩

/-- The runs that insert rows, and only those. -/
theorem runs_insertData_iff (store : RelationalStore) (rows : List DataRow)
    (result : Except RelationalError Unit) :
    Runs (store.insertData rows) exchanges result ↔
      Transacted store.pool (fun transaction => InOrder (Inserts store.schema transaction) rows)
        exchanges result :=
  runs_inTransaction_iff store
    (fun transaction _ result => runs_insertRows_iff store.schema transaction rows result) _ result

/-- The tables that are cleared, those that refer to others before the others. -/
def clearedTables (store : RelationalStore) : List String :=
  [qualified store.schema "edges", qualified store.schema "relations"]

/-- What is noted when tables were cleared. -/
def clearedNotes (store : RelationalStore) :
    Except RelationalError Unit → List (Exchange Action Reply)
  | .ok () => [noted .debug "lake.env" "Cleared relations" [("schema", .text store.schema)]]
  | .error _ => []

/-- The runs that clear tables, and only those. -/
theorem runs_clearRelations_iff (store : RelationalStore) (result : Except RelationalError Unit) :
    Runs store.clearRelations exchanges result ↔
      ∃ own, exchanges = own ++ store.clearedNotes result ∧
        Transacted store.pool (fun transaction => InOrder (Clears transaction) store.clearedTables)
          own result := by
  have runs := runs_inTransaction_iff store fun transaction exchanges result =>
    runs_both_iff (qualified store.schema "edges") (qualified store.schema "relations")
      (clearIfPresent transaction)
      (fun table _ result => runs_clearIfPresent_iff transaction table result) exchanges result
  refine (runs_bind_iff _ _ _ _).trans ⟨?_, ?_⟩
  · rintro ⟨own, cleared, after, rfl, start, rest⟩
    cases cleared with
    | error error =>
      obtain ⟨rfl, rfl⟩ := (runs_done_iff _ _ _).1 rest
      exact ⟨own, rfl, (runs _ _).1 start⟩
    | ok done =>
      obtain ⟨rfl, rfl⟩ := (runs_note_done_iff _ _ _ _ _ _ _).1 rest
      exact ⟨own, rfl, (runs _ _).1 start⟩
  · rintro ⟨own, rfl, transacted⟩
    refine ⟨own, result, _, rfl, (runs _ _).2 transacted, ?_⟩
    cases result with
    | error error => exact .done _
    | ok done => exact (runs_note_done_iff _ _ _ _ _ _ _).2 ⟨rfl, rfl⟩

/-! ### Commits -/

/-- Whether a transaction was refused its beginning or one of its statements. -/
inductive IsRefused : Exchange Action Reply → Prop where
  | begin (pool : Nat) (cause : Failure) : IsRefused ⟨.begin pool, .error cause⟩
  | statement (transaction : Nat) (expects : Expects) (statement : Statement expects)
      (cause : Failure) : IsRefused (performed transaction statement (.error cause))

/-- Whether nothing was refused. -/
def NothingRefused (exchanges : List (Exchange Action Reply)) : Prop :=
  ∀ exchange ∈ exchanges, ¬ IsRefused exchange

theorem nothingRefused_nil : NothingRefused [] := fun _ => nofun

theorem nothingRefused_cons_iff {exchange : Exchange Action Reply} :
    NothingRefused (exchange :: exchanges) ↔ ¬ IsRefused exchange ∧ NothingRefused exchanges :=
  List.forall_mem_cons

theorem nothingRefused_append_iff {first second : List (Exchange Action Reply)} :
    NothingRefused (first ++ second) ↔ NothingRefused first ∧ NothingRefused second :=
  List.forall_mem_append

/-- Changes that are made by statements in a transaction and succeed if and only if none of them is
refused. -/
structure StaysIn (transaction : Nat) (course : Course) : Prop where
  within {exchanges result} (made : course exchanges result) : ∀ exchange ∈ exchanges,
    ∃ (expects : Expects) (statement : Statement expects) (reply : _),
      exchange = performed transaction statement reply
  succeeds_iff {exchanges result} (made : course exchanges result) :
    result = .ok () ↔ NothingRefused exchanges

theorem staysIn_clears (transaction : Nat) (table : String) :
    StaysIn transaction (Clears transaction table) where
  within made := by
    cases made with
    | unknown cause => exact List.forall_mem_singleton.2 ⟨_, _, _, rfl⟩
    | absent => exact List.forall_mem_singleton.2 ⟨_, _, _, rfl⟩
    | refused name cause =>
      exact List.forall_mem_cons.2 ⟨⟨_, _, _, rfl⟩, List.forall_mem_singleton.2 ⟨_, _, _, rfl⟩⟩
    | deleted name count =>
      exact List.forall_mem_cons.2 ⟨⟨_, _, _, rfl⟩, List.forall_mem_singleton.2 ⟨_, _, _, rfl⟩⟩
  succeeds_iff made := by
    cases made with
    | unknown cause =>
      exact ⟨nofun, fun sound => absurd (.statement _ _ _ _) (nothingRefused_cons_iff.1 sound).1⟩
    | absent =>
      exact ⟨fun _ => nothingRefused_cons_iff.2 ⟨nofun, nothingRefused_nil⟩, fun _ => rfl⟩
    | refused name cause =>
      exact ⟨nofun, fun sound => absurd (.statement _ _ _ _)
        (nothingRefused_cons_iff.1 (nothingRefused_cons_iff.1 sound).2).1⟩
    | deleted name count =>
      exact ⟨fun _ => nothingRefused_cons_iff.2 ⟨nofun,
        nothingRefused_cons_iff.2 ⟨nofun, nothingRefused_nil⟩⟩, fun _ => rfl⟩

theorem StaysIn.inOrder {Item : Type} {transaction : Nat} {Changes : Item → Course}
    (stays : ∀ item, StaysIn transaction (Changes item)) (items : List Item) :
    StaysIn transaction (InOrder Changes items) where
  within {exchanges result} made := by
    induction made with
    | nil => exact fun _ => nofun
    | failed item rest exchanges cause fails => exact (stays item).within fails
    | cons item rest first others result succeeds further inductionHypothesis =>
      exact List.forall_mem_append.2 ⟨(stays item).within succeeds, inductionHypothesis⟩
  succeeds_iff {exchanges result} made := by
    induction made with
    | nil => exact ⟨fun _ => nothingRefused_nil, fun _ => rfl⟩
    | failed item rest exchanges cause fails => exact (stays item).succeeds_iff fails
    | cons item rest first others result succeeds further inductionHypothesis =>
      rw [nothingRefused_append_iff, inductionHypothesis]
      exact (and_iff_right (((stays item).succeeds_iff succeeds).1 rfl)).symm

variable {pool : Nat} {Changes : (transaction : Nat) → Course}

/-- Whether an action performs a statement. -/
def isPerformed : Action → Bool
  | .perform _ _ _ => true
  | _ => false

/-- The actions in which statements were performed, whatever the replies. -/
def statements (exchanges : List (Exchange Action Reply)) : List Action :=
  (exchanges.map (·.action)).filter isPerformed

/-- The action in which a row is inserted. -/
def insertion (schema : String) (transaction : Nat) (row : DataRow) : Action :=
  .perform (.transaction transaction) .count (insertRow schema row)

/-- What statements are answered with, and what they make of tables, where they are not refused. -/
abbrev Engine (Tables : Type) :=
  (expects : Expects) → Statement expects → Tables → Answer expects × Tables

/-- The tables of a store: those that everybody sees, and the copies that open transactions work
on. -/
structure Database (Tables : Type) where
  shown : Tables
  copies : (transaction : Nat) → Option Tables

variable {Tables : Type} {engine : Engine Tables} {before middle after : Database Tables}

/-- The tables with another copy, or none, for a transaction. -/
def Database.withCopy (database : Database Tables) (transaction : Nat) (copy : Option Tables) :
    Database Tables where
  shown := database.shown
  copies other := if other = transaction then copy else database.copies other

/-- What an exchange makes of the tables, as long as nobody else changes them. A refused statement
may leave its copy in any state, and a commit that fails may show its copy or not. -/
inductive Step (engine : Engine Tables) (database : Database Tables) :
    Exchange Action Reply → Database Tables → Prop where
  | notBegun (pool : Nat) (cause : Failure) :
      Step engine database ⟨.begin pool, .error cause⟩ database
  | begun (pool transaction : Nat) (isNew : database.copies transaction = none) :
      Step engine database ⟨.begin pool, .ok transaction⟩
        (database.withCopy transaction (some database.shown))
  | performed (transaction : Nat) (expects : Expects) (statement : Statement expects)
      (copy changed : Tables) (isOpen : database.copies transaction = some copy)
      (answer : Answer expects) (does : engine expects statement copy = (answer, changed)) :
      Step engine database (performed transaction statement (.ok answer))
        (database.withCopy transaction (some changed))
  | refused (transaction : Nat) (expects : Expects) (statement : Statement expects)
      (cause : Failure) (copy changed : Tables)
      (isOpen : database.copies transaction = some copy) :
      Step engine database (performed transaction statement (.error cause))
        (database.withCopy transaction (some changed))
  | committed (transaction : Nat) (copy : Tables)
      (isOpen : database.copies transaction = some copy) :
      Step engine database ⟨.commit transaction, .ok ()⟩
        { database.withCopy transaction none with shown := copy }
  | notCommitted (transaction : Nat) (cause : Failure) (copy shown : Tables)
      (isOpen : database.copies transaction = some copy)
      (either : shown = database.shown ∨ shown = copy) :
      Step engine database ⟨.commit transaction, .error cause⟩
        { database.withCopy transaction none with shown }
  | abandoned (transaction : Nat) :
      Step engine database ⟨.abandon transaction, ()⟩ (database.withCopy transaction none)
  | noted (event : Event) : Step engine database ⟨.note event, ()⟩ database

/-- What exchanges make of the tables, one after another. -/
inductive Steps (engine : Engine Tables) :
    Database Tables → List (Exchange Action Reply) → Database Tables → Prop where
  | nil (database : Database Tables) : Steps engine database [] database
  | cons (before middle after : Database Tables) (exchange : Exchange Action Reply)
      (rest : List (Exchange Action Reply)) (step : Step engine before exchange middle)
      (steps : Steps engine middle rest after) : Steps engine before (exchange :: rest) after

theorem steps_nil_iff : Steps engine before [] after ↔ after = before := by
  constructor
  · intro steps
    cases steps
    rfl
  · rintro rfl
    exact .nil _

theorem steps_cons_iff {exchange : Exchange Action Reply} :
    Steps engine before (exchange :: exchanges) after ↔
      ∃ middle, Step engine before exchange middle ∧ Steps engine middle exchanges after := by
  constructor
  · intro steps
    cases steps with
    | cons _ middle _ _ _ step steps => exact ⟨middle, step, steps⟩
  · rintro ⟨middle, step, steps⟩
    exact .cons _ _ _ _ _ step steps

theorem steps_append_iff {first second : List (Exchange Action Reply)} :
    Steps engine before (first ++ second) after ↔
      ∃ middle, Steps engine before first middle ∧ Steps engine middle second after := by
  induction first generalizing before with
  | nil => simp [steps_nil_iff]
  | cons exchange rest inductionHypothesis =>
    simp only [List.cons_append, steps_cons_iff, inductionHypothesis]
    exact ⟨fun ⟨next, step, middle, first, second⟩ => ⟨middle, ⟨next, step, first⟩, second⟩,
      fun ⟨middle, ⟨next, step, first⟩, second⟩ => ⟨next, step, middle, first, second⟩⟩

theorem withCopy_copies_self (database : Database Tables) (transaction : Nat)
    (copy : Option Tables) : (database.withCopy transaction copy).copies transaction = copy :=
  if_pos rfl

theorem withCopy_withCopy (database : Database Tables) (transaction : Nat)
    (first second : Option Tables) :
    (database.withCopy transaction first).withCopy transaction second =
      database.withCopy transaction second := by
  refine congrArg (Database.mk database.shown) (funext fun other => ?_)
  show (if other = transaction then second else if other = transaction then first else
    database.copies other) = if other = transaction then second else database.copies other
  split <;> rfl

theorem withCopy_of_copies {database : Database Tables} {transaction : Nat} {copy : Option Tables}
    (held : database.copies transaction = copy) :
    database.withCopy transaction copy = database := by
  refine congrArg (Database.mk database.shown) (funext fun other => ?_)
  show (if other = transaction then copy else database.copies other) = database.copies other
  split
  next same => rw [same, held]
  next => rfl

/-- Changes in a transaction touch its copy only, and make of it what a function says if they
succeed. -/
def Does (engine : Engine Tables) (transaction : Nat) (course : Course)
    (change : Tables → Tables) : Prop :=
  ∀ exchanges result before after copy, course exchanges result →
    Steps engine before exchanges after → before.copies transaction = some copy →
    ∃ changed, after = before.withCopy transaction (some changed) ∧
      (result = .ok () → changed = change copy)

theorem Does.inOrder {Item : Type} {transaction : Nat} {Changes : Item → Course}
    {change : Tables → Item → Tables}
    (does : ∀ item, Does engine transaction (Changes item) fun tables => change tables item)
    (items : List Item) :
    Does engine transaction (InOrder Changes items) fun tables => items.foldl change tables := by
  intro exchanges result before after copy made steps isOpen
  -- The copy differs from item to item, and the rest of the tables stays as it was at first.
  induction made generalizing before copy with
  | nil =>
    rw [steps_nil_iff.1 steps]
    exact ⟨copy, (withCopy_of_copies isOpen).symm, fun _ => rfl⟩
  | failed item rest exchanges cause fails =>
    obtain ⟨changed, same, -⟩ := does item _ _ _ _ _ fails steps isOpen
    exact ⟨changed, same, nofun⟩
  | cons item rest first others result succeeds further inductionHypothesis =>
    obtain ⟨middle, earlier, later⟩ := steps_append_iff.1 steps
    obtain ⟨changed, rfl, isChange⟩ := does item _ _ _ _ _ succeeds earlier isOpen
    obtain ⟨final, rfl, isFinal⟩ := inductionHypothesis _ _ later (withCopy_copies_self _ _ _)
    rw [withCopy_withCopy]
    refine ⟨final, rfl, fun isOk => ?_⟩
    rw [isFinal isOk, isChange rfl]
    rfl

end Testbed.RelationalStore
