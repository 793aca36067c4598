/-
This file proves that no statement for the relational store has a token that was not foreseen. A
store is only connected to if the name of its schema is plain, and a plain name is one token as it
is written. Every operation has its templates, in which the name of the schema has its places;
whatever identifiers, versions and payloads an operation is given, its statements split into the
tokens of these templates. That an operation issues no other statements is shown along the structure
of its session.
-/

import Testbed.Proofs.ReadBack
import Testbed.Proofs.Tokens
import Testbed.Proofs.Transactions

namespace Testbed.RelationalStore

open Outside Relational Session
open Text (byteCount_toList length_le_byteCount)

/-! ### Plain names -/

/-- A lower-case letter or an underscore. -/
def IsLetter (character : Char) : Prop :=
  'a' ≤ character ∧ character ≤ 'z' ∨ character = '_'

/-- A name of lower-case letters, underscores and, behind the first character, digits, which takes
63 bytes at most. -/
structure IsPlainName (name : String) : Prop where
  shape : ∃ first rest, name.toList = first :: rest ∧ IsLetter first ∧
    ∀ character ∈ rest, IsLetter character ∨ '0' ≤ character ∧ character ≤ '9'
  short : name.utf8ByteSize ≤ 63

theorem isLetter_iff (character : Char) :
    IsLetter character ↔ character.isLower = true ∨ character = '_' := by
  have isLower_iff : character.isLower = true ↔ 'a' ≤ character ∧ character ≤ 'z' :=
    Bool.and_eq_true_iff.trans (and_congr decide_eq_true_iff decide_eq_true_iff)
  rw [IsLetter, isLower_iff]

theorem isAlpha_of_isLower {character : Char} (lower : character.isLower = true) :
    character.isAlpha = true :=
  Bool.or_eq_true_iff.2 (.inr lower)

theorem IsLetter.isDigit_eq {character : Char} (letter : IsLetter character) :
    character.isDigit = false := by
  obtain ⟨least, -⟩ | rfl := letter
  · rw [Char.isDigit, Bool.and_eq_false_iff]
    exact .inr (decide_eq_false (Nat.not_le.2 (Nat.lt_of_lt_of_le (by decide) least)))
  · decide

/-- The check accepts plain names and no others. -/
theorem isIdentifier_iff (name : String) : isIdentifier name = true ↔ IsPlainName name := by
  have bytes := byteCount_toList name
  unfold isIdentifier
  cases spelled : name.toList with
  | nil =>
    refine iff_of_false Bool.false_ne_true fun plain => ?_
    obtain ⟨first, rest, same, -⟩ := plain.shape
    cases spelled.symm.trans same
  | cons first rest =>
    rw [spelled] at bytes
    simp only [bytes, identifierLimit, Bool.and_eq_true, decide_eq_true_eq, List.all_cons,
      List.all_eq_true, Bool.or_eq_true, beq_iff_eq, Bool.not_eq_true']
    constructor
    · rintro ⟨⟨short, noDigit⟩, begins, goesOn⟩
      refine ⟨⟨first, rest, spelled, ?_, fun character member => ?_⟩, short⟩
      · rw [isLetter_iff]
        rw [noDigit] at begins
        simpa using begins
      · rw [isLetter_iff, Json.between_iff_isDigit, or_right_comm]
        exact goesOn character member
    · rintro ⟨⟨_, _, same, begins, goesOn⟩, short⟩
      cases spelled.symm.trans same
      refine ⟨⟨short, begins.isDigit_eq⟩, ?_, fun character member => ?_⟩
      · rw [or_right_comm]
        exact .inl ((isLetter_iff first).1 begins)
      · rw [or_right_comm, ← isLetter_iff, ← Json.between_iff_isDigit]
        exact goesOn character member

/-- A character of a plain name is part of a word. -/
theorem isWordCharacter_of_plain {character : Char}
    (plain : IsLetter character ∨ '0' ≤ character ∧ character ≤ '9') :
    isWordCharacter character = true := by
  rw [isLetter_iff, Json.between_iff_isDigit] at plain
  rcases plain with (lower | rfl) | digit
  · simp [isWordCharacter, isAlpha_of_isLower lower]
  · decide
  · simp [isWordCharacter, digit]

/-- A character of a plain name is no capital. -/
theorem toLower_of_plain {character : Char}
    (plain : IsLetter character ∨ '0' ≤ character ∧ character ≤ '9') :
    character.toLower = character := by
  have noCapital : ¬ ('A' ≤ character ∧ character ≤ 'Z') := by
    rintro ⟨least, greatest⟩
    obtain (⟨above, -⟩ | rfl) | ⟨-, below⟩ := plain
    · exact absurd (UInt32.le_trans above greatest) (by decide)
    · exact absurd greatest (by decide)
    · exact absurd (UInt32.le_trans least below) (by decide)
  exact dif_neg noCapital

/-- A plain name is a word. -/
theorem IsPlainName.isWord {name : String} (plain : IsPlainName name) :
    isWord name.toList = true := by
  obtain ⟨first, rest, spelled, begins, goesOn⟩ := plain.shape
  rw [spelled, Relational.isWord, Bool.and_eq_true, List.all_eq_true]
  refine ⟨?_, fun character member => isWordCharacter_of_plain (goesOn character member)⟩
  obtain lower | rfl := (isLetter_iff first).1 begins
  · simp [isWordStart, isAlpha_of_isLower lower]
  · rfl

/-- A plain name stands for itself: it has no capitals, and it is not too long. -/
theorem IsPlainName.nameOf_eq {name : String} (plain : IsPlainName name) :
    nameOf name.toList = name := by
  have folded : name.toList.map Char.toLower = name.toList := by
    obtain ⟨first, rest, spelled, begins, goesOn⟩ := plain.shape
    have noCapital : ∀ character ∈ first :: rest, character.toLower = character :=
      List.forall_mem_cons.2 ⟨toLower_of_plain (.inl begins),
        fun character member => toLower_of_plain (goesOn character member)⟩
    rw [spelled]
    exact (List.map_congr_left noCapital).trans (List.map_id _)
  have short : name.toList.length ≤ nameLimit :=
    Nat.le_trans (length_le_byteCount name.toList) (byteCount_toList name ▸ plain.short)
  rw [nameOf, folded, List.take_of_length_le short, String.ofList_toList]

/-! ### Connected stores -/

/-- Connecting fails at once for a name that is not plain, and otherwise is one attempt. -/
theorem runs_connect_iff (access : RelationalAccess) (exchanges : List (Exchange Action Reply))
    (result : Except RelationalError RelationalStore) :
    Runs (connect access) exchanges result ↔
      (¬ IsPlainName access.schema ∧ exchanges = [] ∧
          result = .error (.invalidSchema access.schema)) ∨
        (IsPlainName access.schema ∧ ∃ reply : Except Failure Nat,
          exchanges = [⟨.openPool access, reply⟩] ∧
            result = match reply with
              | .error cause => .error (.database cause)
              | .ok pool => .ok { pool, schema := access.schema }) := by
  rw [← isIdentifier_iff]
  unfold connect
  cases isIdentifier access.schema with
  | false => simp
  | true =>
    refine (runs_act_bind_iff _ _ _ _).trans ?_
    constructor
    · rintro ⟨reply, rest, rfl, run⟩
      cases reply with
      | error cause =>
        obtain ⟨rfl, rfl⟩ := (runs_done_iff _ _ _).1 run
        exact .inr ⟨rfl, .error cause, rfl, rfl⟩
      | ok pool =>
        obtain ⟨rfl, rfl⟩ := (runs_done_iff _ _ _).1 run
        exact .inr ⟨rfl, .ok pool, rfl, rfl⟩
    · rintro (⟨notPlain, -⟩ | ⟨-, reply, rfl, rfl⟩)
      · exact absurd rfl notPlain
      · cases reply with
        | error cause => exact ⟨.error cause, [], rfl, .done _⟩
        | ok pool => exact ⟨.ok pool, [], rfl, .done _⟩

/-- Whether a store is what connecting led to. -/
def IsConnected (store : RelationalStore) : Prop :=
  ∃ access exchanges, Runs (connect access) exchanges (.ok store)

theorem IsConnected.isPlainName {store : RelationalStore} (connected : IsConnected store) :
    IsPlainName store.schema := by
  obtain ⟨access, exchanges, run⟩ := connected
  obtain ⟨-, -, failed⟩ | ⟨plain, reply, -, led⟩ := (runs_connect_iff access exchanges _).1 run
  · cases failed
  · cases reply with
    | error cause => cases led
    | ok pool =>
      cases led
      exact plain

/-! ### Operations and their templates -/

/-- What is done with a store. -/
inductive Operation where
  | ensureDataTable
  | fetchData
  | fetchObject (object : Uuid)
  | insertData (rows : List DataRow)
  | clearData
  | clearRelations

namespace Operation

/-- What an operation leads to if it succeeds. -/
def Result : Operation → Type
  | ensureDataTable | insertData _ | clearRelations => Unit
  | fetchData | fetchObject _ => List DataRow
  | clearData => UInt64

/-- The work of an operation. -/
def work (store : RelationalStore) : (operation : Operation) →
    Work (Except RelationalError operation.Result)
  | ensureDataTable => store.ensureDataTable
  | fetchData => store.fetchData
  | fetchObject object => store.fetchObject object
  | insertData rows => store.insertData rows
  | clearData => store.clearData
  | clearRelations => store.clearRelations

end Operation

/-- Words with blanks between them. -/
def phrase (written : List String) : Template :=
  (written.map Piece.word).intersperse .blank

/-- Items with commas and gaps between them. -/
def listed (gap : Piece) (items : List Template) : Template :=
  [Piece.mark ',', gap].intercalate items

/-- The name of a table in the schema. -/
def tableName (table : String) : Template :=
  [.schema, .point, .word table]

/-- The names of the columns of the data table. -/
def columnNames : Template :=
  listed .blank [[.word "object_id"], [.word "version"], [.word "schema_id"], [.word "payload"]]

def createSchemaTemplate : Template :=
  phrase ["CREATE", "SCHEMA", "IF", "NOT", "EXISTS"] ++ [.blank, .schema]

def createTableTemplate : Template :=
  .line 12 :: phrase ["CREATE", "TABLE", "IF", "NOT", "EXISTS"] ++ .blank :: tableName "data"
    ++ [.blank, .mark '(', .line 16]
    ++ listed (.line 16) [phrase ["object_id", "UUID", "NOT", "NULL"],
      phrase ["version", "BIGINT", "NOT", "NULL"], phrase ["schema_id", "UUID", "NOT", "NULL"],
      phrase ["payload", "JSON", "NOT", "NULL"],
      phrase ["PRIMARY", "KEY"] ++ [.blank, .mark '(']
        ++ listed .blank [[.word "object_id"], [.word "version"]] ++ [.mark ')']]
    ++ [.line 12, .mark ')', .line 12]

def selectAllTemplate : Template :=
  [.line 12, .word "SELECT", .blank] ++ columnNames ++ [.line 12, .word "FROM", .blank]
    ++ tableName "data" ++ .line 12 :: phrase ["ORDER", "BY", "version"] ++ [.line 12]

def selectObjectTemplate : Template :=
  [.line 12, .word "SELECT", .blank] ++ columnNames ++ [.line 12, .word "FROM", .blank]
    ++ tableName "data"
    ++ [.line 12, .word "WHERE", .blank, .word "object_id", .blank, .equals, .blank, .parameter "1"]
    ++ .line 12 :: phrase ["ORDER", "BY", "version"] ++ [.line 12]

def insertRowTemplate : Template :=
  phrase ["INSERT", "INTO"] ++ .blank :: tableName "data" ++ [.blank, .mark '('] ++ columnNames
    ++ [.mark ')', .blank, .word "VALUES", .blank, .mark '(']
    ++ listed .blank [[.parameter "1"], [.parameter "2"], [.parameter "3"],
      [.parameter "4", .cast, .word "json"]]
    ++ [.mark ')']

def deleteFromTemplate (table : String) : Template :=
  phrase ["DELETE", "FROM"] ++ .blank :: tableName table

def findTableTemplate : Template :=
  [.word "SELECT", .blank, .word "to_regclass", .mark '(', .parameter "1", .mark ')', .cast,
    .word "text"]

/-- The templates of an operation, which nothing that the operation is given has a part in. -/
def Operation.templates : Operation → List Template
  | ensureDataTable => [createSchemaTemplate, createTableTemplate]
  | fetchData => [selectAllTemplate]
  | fetchObject _ => [selectObjectTemplate]
  | insertData _ => [insertRowTemplate]
  | clearData => [deleteFromTemplate "data"]
  | clearRelations =>
    [findTableTemplate, deleteFromTemplate "edges", deleteFromTemplate "relations"]

theorem isSpaced_templates (operation : Operation) :
    ∀ template ∈ operation.templates, template.isSpaced = true := by
  cases operation with
  | fetchObject object => exact List.forall_mem_singleton.2 (by decide)
  | insertData rows => exact List.forall_mem_singleton.2 (by decide)
  | ensureDataTable | fetchData | clearData | clearRelations => decide

/-! ### The texts of the statements -/

theorem text_createSchema (schema : String) :
    (createSchema schema).text.toList = createSchemaTemplate.text schema := by
  unfold createSchema
  rw [String.toList_append, ← List.append_nil schema.toList]
  exact Template.append_eq_text (by decide +kernel) (by decide +kernel) (by decide +kernel) schema

/-- A statement about one table, as its template has it around the place of the schema. -/
theorem toList_around {template : Template} (onePlace : template.HasOnePlace)
    {front table back : String} (first : front.toList = template.before.text "")
    (last : '.' :: (table.toList ++ back.toList) = template.behind.text "") (schema : String) :
    (front ++ qualified schema table ++ back).toList = template.text schema := by
  rw [← Template.append_eq_text onePlace first last schema]
  simp [qualified]

theorem text_createTable (schema : String) :
    (createTable schema).text.toList = createTableTemplate.text schema := by
  refine toList_around (by decide +kernel) (by decide +kernel) ?_ schema
  simp only [String.toList_append]
  decide +kernel

theorem text_selectAll (schema : String) :
    (selectAll schema).text.toList = selectAllTemplate.text schema :=
  toList_around (by decide +kernel) (by decide +kernel) (by decide +kernel) schema

theorem text_selectObject (schema : String) (object : Uuid) :
    (selectObject schema object).text.toList = selectObjectTemplate.text schema :=
  toList_around (by decide +kernel) (by decide +kernel) (by decide +kernel) schema

theorem text_insertRow (schema : String) (row : DataRow) :
    (insertRow schema row).text.toList = insertRowTemplate.text schema :=
  toList_around (by decide +kernel) (by decide +kernel) (by decide +kernel) schema

theorem text_tableName (schema table : String) :
    (qualified schema table).toList = Template.text schema (tableName table) := by
  simp [qualified, tableName, Piece.written]

theorem text_deleteFrom (schema table : String) :
    (deleteFrom (qualified schema table)).text.toList =
      (deleteFromTemplate table).text schema := by
  have front : "DELETE FROM ".toList =
      Template.text schema (phrase ["DELETE", "FROM"] ++ [.blank]) := rfl
  unfold deleteFrom deleteFromTemplate
  rw [String.toList_append, front, text_tableName, ← Template.text_append, ← List.append_cons]

theorem text_findTable (table schema : String) :
    (findTable table).text.toList = findTableTemplate.text schema := by
  have text : "SELECT to_regclass($1)::text".toList = findTableTemplate.text "" := by
    decide +kernel
  exact text.trans (Template.text_eq_of_not_mem (by decide) schema).symm

/-! ### The statements of the operations -/

/-- Whether an action performs a statement whose text is none of these. -/
def performsOther (texts : List (List Char)) : Action → Bool
  | .perform _ _ statement => !texts.contains statement.text.toList
  | _ => false

section

variable {texts : List (List Char)}

theorem avoids_perform {expects : Expects} (place : Place) {statement : Statement expects}
    (foreseen : statement.text.toList ∈ texts) :
    Avoids (performsOther texts) (ask (.perform place expects statement)) :=
  avoids_ask _ (by simp [performsOther, foreseen])

theorem avoids_onPool (store : RelationalStore) {expects : Expects}
    {statement : Statement expects} (foreseen : statement.text.toList ∈ texts) :
    Avoids (performsOther texts) (store.onPool statement) := by
  refine (avoids_perform _ foreseen).bind fun reply => ?_
  cases reply <;> exact avoids_done _

theorem avoids_rows (store : RelationalStore) {statement : Statement .rows}
    (foreseen : statement.text.toList ∈ texts) :
    Avoids (performsOther texts) (store.rows statement) := by
  refine (avoids_onPool store foreseen).bind fun answer => ?_
  cases answer with
  | error error => exact avoids_done _
  | ok stored =>
    dsimp only
    split <;> exact avoids_done _

theorem avoids_inTransaction (store : RelationalStore)
    {changes : (transaction : Nat) → Work (Except Failure Unit)}
    (avoids : ∀ transaction, Avoids (performsOther texts) (changes transaction)) :
    Avoids (performsOther texts) (store.inTransaction changes) := by
  refine (avoids_ask _ rfl).bind fun begun => ?_
  cases begun with
  | error cause => exact avoids_done _
  | ok transaction =>
    refine (avoids transaction).bind fun changed => ?_
    cases changed with
    | error cause => exact (avoids_ask _ rfl).bind fun _ => avoids_done _
    | ok done =>
      refine (avoids_ask _ rfl).bind fun committed => ?_
      cases committed with
      | error cause => exact (avoids_ask _ rfl).bind fun _ => avoids_done _
      | ok done => exact avoids_done _

theorem avoids_insertRows (schema : String) (transaction : Nat) (rows : List DataRow)
    (foreseen : insertRowTemplate.text schema ∈ texts) :
    Avoids (performsOther texts) (insertRows schema transaction rows) := by
  induction rows with
  | nil => exact avoids_done _
  | cons row rest inductionHypothesis =>
    have inserts : (insertRow schema row).text.toList ∈ texts :=
      text_insertRow schema row ▸ foreseen
    refine (avoids_perform _ inserts).bind fun inserted => ?_
    cases inserted with
    | error cause => exact avoids_done _
    | ok count => exact inductionHypothesis

theorem avoids_clearIfPresent (transaction : Nat) {table : String}
    (finds : (findTable table).text.toList ∈ texts)
    (deletes : (deleteFrom table).text.toList ∈ texts) :
    Avoids (performsOther texts) (clearIfPresent transaction table) := by
  refine (avoids_perform _ finds).bind fun found => ?_
  rcases found with cause | _ | name
  · exact avoids_done _
  · exact avoids_done _
  · refine (avoids_perform _ deletes).bind fun deleted => ?_
    cases deleted <;> exact avoids_done _

end

/-- The texts of an operation on the tables of a schema. -/
def Operation.texts (schema : String) (operation : Operation) : List (List Char) :=
  operation.templates.map (Template.text schema)

theorem mem_texts (operation : Operation) {schema : String} {template : Template}
    {text : List Char} (same : text = template.text schema)
    (member : template ∈ operation.templates) : text ∈ operation.texts schema :=
  same ▸ List.mem_map_of_mem member

/-- An operation performs no statements but those of its templates. -/
theorem avoids_work (store : RelationalStore) (operation : Operation) :
    Avoids (performsOther (operation.texts store.schema)) (operation.work store) := by
  cases operation with
  | ensureDataTable =>
    have createsSchema := mem_texts .ensureDataTable (text_createSchema store.schema) (by decide)
    have createsTable := mem_texts .ensureDataTable (text_createTable store.schema) (by decide)
    refine (avoids_onPool store createsSchema).bind fun created => ?_
    cases created with
    | error error => exact avoids_done _
    | ok count =>
      refine (avoids_onPool store createsTable).bind fun created => ?_
      cases created with
      | error error => exact avoids_done _
      | ok count => exact (avoids_ask _ rfl).bind fun _ => avoids_done _
  | fetchData =>
    exact avoids_rows store (mem_texts .fetchData (text_selectAll store.schema) List.mem_cons_self)
  | fetchObject object =>
    have selects := mem_texts (.fetchObject object) (text_selectObject store.schema object)
      List.mem_cons_self
    exact avoids_rows store selects
  | insertData rows =>
    have inserts : insertRowTemplate.text store.schema ∈ _ :=
      mem_texts (.insertData rows) rfl List.mem_cons_self
    exact avoids_inTransaction store fun transaction =>
      avoids_insertRows store.schema transaction rows inserts
  | clearData =>
    have deletes := mem_texts .clearData (text_deleteFrom store.schema "data") (by decide)
    refine (avoids_onPool store deletes).bind fun cleared => ?_
    cases cleared with
    | error error => exact avoids_done _
    | ok count => exact (avoids_ask _ rfl).bind fun _ => avoids_done _
  | clearRelations =>
    have finds (table : String) := mem_texts .clearRelations (text_findTable table store.schema)
      (by decide)
    have deletesEdges := mem_texts .clearRelations (text_deleteFrom store.schema "edges")
      (by decide)
    have deletesRelations := mem_texts .clearRelations (text_deleteFrom store.schema "relations")
      (by decide)
    refine Avoids.bind (avoids_inTransaction store fun transaction => ?_) fun cleared => ?_
    · refine (avoids_clearIfPresent transaction (finds _) deletesEdges).bind fun cleared => ?_
      cases cleared with
      | error cause => exact avoids_done _
      | ok done => exact avoids_clearIfPresent transaction (finds _) deletesRelations
    · cases cleared with
      | error error => exact avoids_done _
      | ok done => exact (avoids_ask _ rfl).bind fun _ => avoids_done _

/-- However statements are split by the documented rules, every statement of an operation on a
connected store splits into the tokens of one of the operation's templates, with the name of the
schema as one word. The name of a connected store is plain, since for any other name no connection
is tried. -/
theorem templates_account {tokens : List Char → Option (List Token)} (rules : FollowsRules tokens) :
    (∀ access exchanges result, Runs (connect access) exchanges result →
      ¬ IsPlainName access.schema →
        exchanges = [] ∧ result = .error (.invalidSchema access.schema)) ∧
      (∀ store, IsConnected store → IsPlainName store.schema) ∧
      ∀ store, IsConnected store → ∀ (operation : Operation) exchanges result,
        Runs (operation.work store) exchanges result →
          ∀ exchange ∈ exchanges, ∀ place expects (statement : Statement expects),
            exchange.action = .perform place expects statement →
              ∃ template ∈ operation.templates,
                tokens statement.text.toList = some (template.tokens store.schema) := by
  refine ⟨fun access exchanges result run notPlain => ?_, fun store => IsConnected.isPlainName, ?_⟩
  · obtain ⟨-, rfl, rfl⟩ | ⟨plain, -⟩ := (runs_connect_iff access exchanges result).1 run
    · exact ⟨rfl, rfl⟩
    · exact absurd plain notPlain
  · intro store connected operation exchanges result run exchange member _ _ statement action
    have foreseen := avoids_work store operation exchanges result run exchange member
    rw [action] at foreseen
    have listed : statement.text.toList ∈ operation.texts store.schema := by
      simpa [performsOther] using foreseen
    obtain ⟨template, foreseen, text⟩ := List.mem_map.1 listed
    have plain := connected.isPlainName
    refine ⟨template, foreseen, ?_⟩
    rw [← text]
    exact Template.tokens_text rules plain.isWord plain.nameOf_eq
      (isSpaced_templates operation template foreseen)

/-- A name that is not plain ends the attempt, and a payload that reads like a statement stays out
of the statement that inserts it. -/
theorem templates_account_insert :
    let store : RelationalStore := { pool := 7, schema := "cdl_test_2" }
    let row : DataRow :=
      { object := ⟨0⟩, version := 1, schema := ⟨1⟩, payload := .string "'); DROP TABLE data; --" }
    FollowsRules plainTokens ∧ ¬ IsPlainName "bad-schema" ∧
      Runs (connect { schema := "bad-schema" }) [] (.error (.invalidSchema "bad-schema")) ∧
      IsConnected store ∧ ∃ template ∈ (Operation.insertData [row]).templates,
        plainTokens (insertRow store.schema row).text.toList =
          some (template.tokens "cdl_test_2") := by
  intro store row
  have account := templates_account plainTokens_followsRules
  have notPlain : ¬ IsPlainName "bad-schema" := by
    rw [← isIdentifier_iff]
    decide
  have refused : Runs (connect { schema := "bad-schema" }) [] _ :=
    (runs_connect_iff _ _ _).2 (.inl ⟨notPlain, rfl, rfl⟩)
  have connected : IsConnected store :=
    ⟨{ schema := "cdl_test_2" }, _,
      (runs_connect_iff _ _ _).2 (.inr ⟨(isIdentifier_iff _).1 (by decide), .ok 7, rfl, rfl⟩)⟩
  have inserted : Runs (store.insertData [row]) _ (.ok ()) :=
    (runs_insertData_iff store [row] _).2
      (.committed 1 _ (.cons row [] _ [] _ (.inserted 1) .nil))
  refine ⟨plainTokens_followsRules, notPlain, refused, connected, ?_⟩
  exact account.2.2 store connected (.insertData [row]) _ _ inserted _
    (List.mem_cons_of_mem _ List.mem_cons_self) _ _ _ rfl

end Testbed.RelationalStore
