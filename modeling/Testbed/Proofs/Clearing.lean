/-
This file proves what a stop asks of the relational store. The steps of the teardown run one after
another whatever becomes of the others, so the rows of the data table are to be deleted in any case.
Inside the step of the store a refused statement ends what follows: edges and relations are looked
for only if the rows of the data table were deleted, and relations only if no edges are left that
refer to them.
-/

import Testbed.Proofs.Starting
import Testbed.Proofs.Transactions

namespace Testbed.Environment

open Session Relational RelationalStore

variable {settings : Settings} {required : RequiredResources} {environment : Environment}
  {store : RelationalStore} {exchanges : List (Exchange Action Reply)}

/-! ### The exchanges with the relational store -/

/-- Whether something is asked of the relational store. -/
def asksStore : Action → Bool
  | .perform _ _ _ => true
  | .begin _ => true
  | .commit _ => true
  | .abandon _ => true
  | _ => false

/-- The exchanges in which something is asked of the relational store. -/
def storeExchanges (exchanges : List (Exchange Action Reply)) : List (Exchange Action Reply) :=
  exchanges.filter fun exchange => asksStore exchange.action

@[simp] theorem storeExchanges_nil : storeExchanges [] = [] := rfl

@[simp] theorem storeExchanges_append (first second : List (Exchange Action Reply)) :
    storeExchanges (first ++ second) = storeExchanges first ++ storeExchanges second :=
  List.filter_append ..

theorem storeExchanges_cons_of_asks {exchange : Exchange Action Reply}
    (asks : asksStore exchange.action = true) (rest : List (Exchange Action Reply)) :
    storeExchanges (exchange :: rest) = exchange :: storeExchanges rest :=
  List.filter_cons_of_pos asks

theorem storeExchanges_cons_of_spares {exchange : Exchange Action Reply}
    (spares : asksStore exchange.action = false) (rest : List (Exchange Action Reply)) :
    storeExchanges (exchange :: rest) = storeExchanges rest :=
  List.filter_cons_of_neg (Bool.eq_false_iff.1 spares)

theorem mem_storeExchanges_iff {exchange : Exchange Action Reply} :
    exchange ∈ storeExchanges exchanges ↔
      exchange ∈ exchanges ∧ asksStore exchange.action = true :=
  List.mem_filter

/-- Work that asks nothing of the relational store. -/
theorem storeExchanges_of_avoids {Result : Type} {work : Work Result} {result : Result}
    (avoids : Avoids asksStore work) (run : Runs work exchanges result) :
    storeExchanges exchanges = [] :=
  List.filter_eq_nil_iff.2 fun exchange member =>
    Bool.eq_false_iff.1 (avoids exchanges result run exchange member)

/-! ### Clearing the relational store -/

/-- The exchange in which the rows of the data table are deleted. -/
def dataDeletion (store : RelationalStore) (reply : Except Failure UInt64) :
    Exchange Action Reply :=
  ⟨.perform (.pool store.pool) .count (deleteFrom (qualified store.schema "data")), reply⟩

/-- The transaction in which edges and relations are cleared, and how it ends. -/
abbrev ClearsRelations (store : RelationalStore) :
    List (Exchange Action Reply) → Except RelationalError Unit → Prop :=
  Transacted store.pool fun transaction => InOrder (Clears transaction) store.clearedTables

/-- What is asked of the relational store to clear it: the rows of the data table are deleted, and
if that succeeds and if it is to be done, edges and relations are cleared in one transaction. -/
inductive ClearsStore (store : RelationalStore) (clearsRelations : Bool) :
    List (Exchange Action Reply) → Prop where
  | refused (cause : Failure) :
      ClearsStore store clearsRelations [dataDeletion store (.error cause)]
  | dataOnly (count : UInt64) (isOmitted : clearsRelations = false) :
      ClearsStore store clearsRelations [dataDeletion store (.ok count)]
  | all (count : UInt64) (transaction : List (Exchange Action Reply))
      (result : Except RelationalError Unit) (isRequested : clearsRelations = true)
      (transacted : ClearsRelations store transaction result) :
      ClearsStore store clearsRelations (dataDeletion store (.ok count) :: transaction)

/-- Nothing but the store is asked in a transaction. -/
theorem storeExchanges_of_transacted {result : Except RelationalError Unit}
    (transacted : ClearsRelations store exchanges result) :
    storeExchanges exchanges = exchanges := by
  have within {transaction : Nat} {made : List (Exchange Action Reply)}
      {changed : Except Failure Unit}
      (change : InOrder (Clears transaction) store.clearedTables made changed) :
      ∀ exchange ∈ made, asksStore exchange.action = true := by
    intro exchange member
    obtain ⟨_, _, _, rfl⟩ :=
      (StaysIn.inOrder (staysIn_clears transaction) store.clearedTables).within change
        exchange member
    rfl
  refine List.filter_eq_self.2 ?_
  cases transacted with
  | notBegun cause => simp [asksStore]
  | abandoned transaction made cause fail => simpa [asksStore, or_imp, forall_and] using within fail
  | notCommitted transaction made cause succeed =>
    simpa [asksStore, or_imp, forall_and] using within succeed
  | committed transaction made succeed =>
    simpa [asksStore, or_imp, forall_and] using within succeed

theorem runs_clearData_cases {result : Except RelationalError UInt64}
    (run : Runs store.clearData exchanges result) :
    (∃ cause, exchanges = [dataDeletion store (.error cause)] ∧
        result = .error (.database cause)) ∨
      ∃ count : UInt64, exchanges = [dataDeletion store (.ok count),
          noted .debug "lake.env" "Cleared data table" [("rows", .number count.toNat)]] ∧
        result = .ok count := by
  obtain ⟨reply, rest, rfl, ended⟩ := (runs_act_bind_iff _ _ _ _).1 run
  cases reply with
  | error cause =>
    obtain ⟨rfl, rfl⟩ := (runs_done_iff _ _ _).1 ended
    exact .inl ⟨cause, rfl, rfl⟩
  | ok count =>
    obtain ⟨rfl, rfl⟩ := (runs_note_done_iff _ _ _ _ _ _ _).1 ended
    exact .inr ⟨count, rfl, rfl⟩

theorem clearsStore_of_runs {clearsRelations : Bool} {result : Except RelationalError Unit}
    (run : Runs (clearRelational store clearsRelations) exchanges result) :
    ClearsStore store clearsRelations (storeExchanges exchanges) := by
  obtain ⟨before, deleted, after, rfl, first, second⟩ := (runs_bind_iff _ _ _ _).1 run
  rcases runs_clearData_cases first with ⟨cause, rfl, rfl⟩ | ⟨count, rfl, rfl⟩
  · obtain ⟨rfl, -⟩ := (runs_done_iff _ _ _).1 second
    exact .refused cause
  · rw [storeExchanges_append]
    cases clearsRelations with
    | false =>
      obtain ⟨rfl, -⟩ := (runs_done_iff _ _ _).1 second
      exact .dataOnly count rfl
    | true =>
      obtain ⟨transaction, rfl, transacted⟩ := (runs_clearRelations_iff store result).1 second
      have notes : storeExchanges (store.clearedNotes result) = [] := by cases result <;> rfl
      rw [storeExchanges_append, notes, List.append_nil, storeExchanges_of_transacted transacted]
      exact .all count transaction result rfl transacted

/-! ### The stop -/

theorem storeExchanges_of_ranSteps {removals : List Removal} {results : List (Except String Unit)}
    (unrelated : ∀ store, .relational store ∉ removals)
    (ran : Teardown.RanSteps (removals.map (Removal.step required)) exchanges results) :
    storeExchanges exchanges = [] := by
  induction removals generalizing exchanges results with
  | nil =>
    cases ran
    rfl
  | cons removal rest inductionHypothesis =>
    cases ran with
    | cons _ _ own others result results run tail =>
      have noted :
          asksStore (Teardown.stepNoted (removal.step required) result).action = false := by
        cases result <;> rfl
      have other (store : RelationalStore) : removal ≠ .relational store := fun same =>
        unrelated store (same ▸ List.mem_cons_self)
      have avoids : Avoids asksStore (removal.step required).run :=
        avoids_step (fun _ => rfl) (fun _ _ => rfl) (fun _ => rfl) (fun _ _ _ => rfl) other
      rw [storeExchanges_append, storeExchanges_of_avoids avoids run,
        storeExchanges_cons_of_spares noted,
        inductionHypothesis (fun store member => unrelated store (List.mem_cons_of_mem _ member))
          tail]
      rfl

theorem clearsStore_of_runs_step {result : Except String Unit}
    (run : Runs ((Removal.relational store).step required).run exchanges result) :
    ClearsStore store required.clearsRelations (storeExchanges exchanges) := by
  obtain ⟨statements, cleared, rfl, clears⟩ := exists_runs_clearRelational run
  rw [storeExchanges_append, storeExchanges_cons_of_spares rfl, storeExchanges_nil,
    List.append_nil]
  exact clearsStore_of_runs clears

/-- A stop asks nothing of the relational store but to be cleared. -/
theorem clearsStore_of_takenAway {admin : Broker.TopicAdmin}
    (connected : environment.relational = some store)
    (takenAway : TakenAway required (environment.removals admin) exchanges) :
    ClearsStore store required.clearsRelations (storeExchanges exchanges) := by
  obtain ⟨own, results, ran, rfl⟩ := takenAway
  have noted : asksStore (stopNoted (Teardown.failures results)).action = false := by
    unfold stopNoted
    split <;> rfl
  rw [storeExchanges_append, storeExchanges_cons_of_spares noted, storeExchanges_nil,
    List.append_nil]
  unfold removals at ran
  rw [connected, List.map_append] at ran
  obtain ⟨before, after, earlier, later, rfl, series, ran⟩ := ran.split
  cases ran with
  | cons _ _ own others result results run tail =>
    have noted : asksStore
        (Teardown.stepNoted ((Removal.relational store).step required) result).action = false := by
      cases result <;> rfl
    rw [storeExchanges_append, storeExchanges_append, storeExchanges_cons_of_spares noted,
      storeExchanges_of_ranSteps (by simp) series, storeExchanges_of_ranSteps (by simp) tail,
      List.nil_append, List.append_nil]
    exact clearsStore_of_runs_step run

/-! ### Attempts to clear a table -/

/-- The table that an action looks for, if it does. -/
def soughtTable? : Action → Option String
  | .perform _ .text statement => statement.parameters.head?
  | _ => none

/-- The tables that were looked for: with that, the attempt to clear edges or relations begins. -/
def soughtTables (exchanges : List (Exchange Action Reply)) : List String :=
  exchanges.filterMap fun exchange => soughtTable? exchange.action

/-- In this exchange of a transaction, it turned out that a table is not there, or its rows were
deleted. -/
inductive ClearedIn (table : String) : Exchange Action Reply → Prop where
  | absent (transaction : Nat) :
      ClearedIn table (performed transaction (findTable table) (.ok none))
  | deleted (transaction : Nat) (count : UInt64) :
      ClearedIn table (performed transaction (deleteFrom table) (.ok count))

@[simp] theorem soughtTables_append (first second : List (Exchange Action Reply)) :
    soughtTables (first ++ second) = soughtTables first ++ soughtTables second :=
  List.filterMap_append

/-- Tables are looked for in the relational store only. -/
theorem soughtTables_storeExchanges (exchanges : List (Exchange Action Reply)) :
    soughtTables (storeExchanges exchanges) = soughtTables exchanges := by
  unfold soughtTables storeExchanges
  rw [List.filterMap_filter]
  refine List.filterMap_congr fun exchange _ => ?_
  obtain ⟨action, reply⟩ := exchange
  cases action <;> rfl

/-- The attempt to clear a table succeeds if it is not there or its rows were deleted. -/
theorem soughtTables_of_clears {transaction : Nat} {table : String} {result : Except Failure Unit}
    (clears : Clears transaction table exchanges result) :
    soughtTables exchanges = [table] ∧
      ((∃ exchange ∈ exchanges, ClearedIn table exchange) ↔ result = .ok ()) := by
  cases clears with
  | unknown cause =>
    refine ⟨rfl, iff_of_false ?_ nofun⟩
    rintro ⟨_, member, cleared⟩
    rw [List.mem_singleton.1 member] at cleared
    cases cleared
  | absent => exact ⟨rfl, iff_of_true ⟨_, List.mem_cons_self, .absent transaction⟩ rfl⟩
  | refused name cause =>
    refine ⟨rfl, iff_of_false ?_ nofun⟩
    rintro ⟨_, member, cleared⟩
    rcases List.mem_pair.1 member with rfl | rfl <;> cases cleared
  | deleted name count =>
    exact ⟨rfl, iff_of_true
      ⟨_, List.mem_cons_of_mem _ List.mem_cons_self, .deleted transaction count⟩ rfl⟩

/-- The second of two tables is looked for if the first was cleared. -/
theorem soughtTables_of_inOrder {transaction : Nat} {first second : String}
    {result : Except Failure Unit}
    (inOrder : InOrder (Clears transaction) [first, second] exchanges result) :
    (soughtTables exchanges = [first] ∧ ¬ ∃ exchange ∈ exchanges, ClearedIn first exchange) ∨
      soughtTables exchanges = [first, second] ∧
        ∃ exchange ∈ exchanges, ClearedIn first exchange := by
  cases inOrder with
  | failed _ _ _ cause fails =>
    obtain ⟨sought, cleared⟩ := soughtTables_of_clears fails
    exact .inl ⟨sought, fun isCleared => nomatch cleared.1 isCleared⟩
  | cons _ _ before after _ succeeds further =>
    obtain ⟨sought, cleared⟩ := soughtTables_of_clears succeeds
    obtain ⟨exchange, member, isCleared⟩ := cleared.2 rfl
    refine .inr ⟨?_, exchange, List.mem_append_left _ member, isCleared⟩
    have soughtNext : soughtTables after = [second] := by
      cases further with
      | failed _ _ _ cause fails => exact (soughtTables_of_clears fails).1
      | cons _ _ own nothing _ succeeds ended =>
        cases ended
        rw [List.append_nil]
        exact (soughtTables_of_clears succeeds).1
    rw [soughtTables_append, sought, soughtNext]
    rfl

/-- Which attempts to clear edges and relations were made. -/
structure Attempted (store : RelationalStore) (exchanges : List (Exchange Action Reply)) :
    Prop where
  edges : qualified store.schema "edges" ∈ soughtTables exchanges ↔
    ∃ transaction, ⟨.begin store.pool, .ok transaction⟩ ∈ exchanges
  relations : qualified store.schema "relations" ∈ soughtTables exchanges ↔
    ∃ exchange ∈ exchanges, ClearedIn (qualified store.schema "edges") exchange

theorem qualified_edges_ne_relations (schema : String) :
    qualified schema "edges" ≠ qualified schema "relations" := by
  unfold qualified
  rw [Ne, String.append_right_inj]
  decide

theorem ClearedIn.asksStore_eq {table : String} {exchange : Exchange Action Reply}
    (cleared : ClearedIn table exchange) : asksStore exchange.action = true := by
  cases cleared <;> rfl

/-- Only what is asked of the store tells of attempts. -/
theorem attempted_storeExchanges_iff :
    Attempted store (storeExchanges exchanges) ↔ Attempted store exchanges := by
  have begun : (∃ transaction, ⟨.begin store.pool, .ok transaction⟩ ∈ storeExchanges exchanges) ↔
      ∃ transaction, ⟨.begin store.pool, .ok transaction⟩ ∈ exchanges :=
    exists_congr fun _ => mem_storeExchanges_iff.trans (and_iff_left rfl)
  have cleared (table : String) :
      (∃ exchange ∈ storeExchanges exchanges, ClearedIn table exchange) ↔
        ∃ exchange ∈ exchanges, ClearedIn table exchange := by
    refine exists_congr fun exchange => and_congr_left fun isCleared => ?_
    exact mem_storeExchanges_iff.trans (and_iff_left isCleared.asksStore_eq)
  constructor
  · rintro ⟨edges, relations⟩
    rw [soughtTables_storeExchanges, begun] at edges
    rw [soughtTables_storeExchanges, cleared] at relations
    exact ⟨edges, relations⟩
  · rintro ⟨edges, relations⟩
    rw [← begun, ← soughtTables_storeExchanges] at edges
    rw [← cleared, ← soughtTables_storeExchanges] at relations
    exact ⟨edges, relations⟩

theorem attempted_nil : Attempted store [] where
  edges := iff_of_false List.not_mem_nil fun ⟨_, member⟩ => List.not_mem_nil member
  relations := iff_of_false List.not_mem_nil fun ⟨_, member, _⟩ => List.not_mem_nil member

/-- An exchange that looks for no table, begins no transaction and clears no edges. -/
theorem Attempted.cons {exchange : Exchange Action Reply} (attempted : Attempted store exchanges)
    (silent : soughtTable? exchange.action = none)
    (unbegun : ∀ transaction, exchange ≠ ⟨.begin store.pool, .ok transaction⟩)
    (uncleared : ¬ ClearedIn (qualified store.schema "edges") exchange) :
    Attempted store (exchange :: exchanges) := by
  have sought : soughtTables (exchange :: exchanges) = soughtTables exchanges :=
    List.filterMap_cons_none silent
  refine ⟨?_, ?_⟩
  · rw [sought, attempted.edges]
    refine exists_congr fun transaction => ?_
    rw [List.mem_cons, or_iff_right (unbegun transaction).symm]
  · rw [sought, attempted.relations, List.exists_mem_cons_iff, or_iff_right uncleared]

/-- A transaction that was begun and in which tables are cleared in order, and how it ends. -/
theorem attempted_of_begun {transaction : Nat} {made ending : List (Exchange Action Reply)}
    {changed : Except Failure Unit}
    (change : InOrder (Clears transaction) store.clearedTables made changed)
    (silent : soughtTables ending = [])
    (uncleared : ∀ exchange ∈ ending, ¬ ClearedIn (qualified store.schema "edges") exchange) :
    Attempted store (⟨.begin store.pool, .ok transaction⟩ :: (made ++ ending)) := by
  have sought : soughtTables (⟨.begin store.pool, .ok transaction⟩ :: (made ++ ending)) =
      soughtTables made := by
    show soughtTables (made ++ ending) = _
    rw [soughtTables_append, silent, List.append_nil]
  have cleared : (∃ exchange ∈ ⟨.begin store.pool, .ok transaction⟩ :: (made ++ ending),
      ClearedIn (qualified store.schema "edges") exchange) ↔
      ∃ exchange ∈ made, ClearedIn (qualified store.schema "edges") exchange := by
    constructor
    · rintro ⟨exchange, member, isCleared⟩
      rcases List.mem_cons.1 member with rfl | member
      · cases isCleared
      · rcases List.mem_append.1 member with isMade | isEnding
        · exact ⟨exchange, isMade, isCleared⟩
        · exact absurd isCleared (uncleared exchange isEnding)
    · rintro ⟨exchange, member, isCleared⟩
      exact ⟨exchange, List.mem_cons_of_mem _ (List.mem_append_left _ member), isCleared⟩
  refine ⟨?_, ?_⟩
  · rw [sought]
    refine iff_of_true ?_ ⟨transaction, List.mem_cons_self⟩
    rcases soughtTables_of_inOrder change with ⟨same, -⟩ | ⟨same, -⟩ <;>
      rw [same] <;> exact List.mem_cons_self
  · rw [sought, cleared]
    rcases soughtTables_of_inOrder change with ⟨same, uncleared⟩ | ⟨same, isCleared⟩
    · refine iff_of_false ?_ uncleared
      rw [same, List.mem_singleton]
      exact (qualified_edges_ne_relations _).symm
    · refine iff_of_true ?_ isCleared
      rw [same]
      exact List.mem_cons_of_mem _ List.mem_cons_self

theorem attempted_of_transacted {result : Except RelationalError Unit}
    (transacted : ClearsRelations store exchanges result) :
    Attempted store exchanges := by
  cases transacted with
  | notBegun cause => exact attempted_nil.cons rfl (fun _ => nofun) nofun
  | abandoned transaction made cause fail =>
    refine attempted_of_begun fail rfl fun exchange member isCleared => ?_
    rw [List.mem_singleton.1 member] at isCleared
    cases isCleared
  | notCommitted transaction made cause succeed =>
    refine attempted_of_begun succeed rfl fun exchange member isCleared => ?_
    rcases List.mem_pair.1 member with rfl | rfl <;> cases isCleared
  | committed transaction made succeed =>
    refine attempted_of_begun succeed rfl fun exchange member isCleared => ?_
    rw [List.mem_singleton.1 member] at isCleared
    cases isCleared

theorem attempted_of_clearsStore {clearsRelations : Bool}
    (clears : ClearsStore store clearsRelations exchanges) : Attempted store exchanges := by
  cases clears with
  | refused cause => exact attempted_nil.cons rfl (fun _ => nofun) nofun
  | dataOnly count isOmitted => exact attempted_nil.cons rfl (fun _ => nofun) nofun
  | all count transaction result isRequested transacted =>
    exact (attempted_of_transacted transacted).cons rfl (fun _ => nofun) nofun

/-- A stop runs the steps of all that is to be taken away, so no step keeps another store from being
cleared. In the step of the relational store, the rows of the data table are to be deleted first.
Edges and relations are to be cleared, in one transaction, if and only if that was asked for and the
rows of the data table were deleted. Edges are looked for if the transaction was begun, and
relations if the edges were cleared. -/
theorem clearing_account (reached : Reached settings required environment)
    (connected : environment.relational = some store) :
    ∃ admin, (environment.topics ≠ [] → environment.admin = some admin) ∧
      ∀ exchanges stopped, Runs environment.stop exchanges stopped →
        TakenAway required (environment.removals admin) exchanges ∧ Attempted store exchanges ∧
        ∃ reply transaction, storeExchanges exchanges = dataDeletion store reply :: transaction ∧
          (transaction ≠ [] ↔ required.clearsRelations = true ∧ reply.isOk = true) ∧
          (transaction ≠ [] → ∃ result, ClearsRelations store transaction result) := by
  obtain ⟨admin, fits, stops⟩ := exists_runs_stop_iff reached.consistent
  refine ⟨admin, fits, fun exchanges stopped run => ?_⟩
  obtain ⟨-, takenAway⟩ := (stops _ _).1 run
  have clears := clearsStore_of_takenAway connected takenAway
  refine ⟨takenAway, attempted_storeExchanges_iff.1 (attempted_of_clearsStore clears), ?_⟩
  generalize storeExchanges exchanges = asked at clears
  cases clears with
  | refused cause => exact ⟨_, [], rfl, iff_of_false (absurd rfl) nofun, absurd rfl⟩
  | dataOnly count isOmitted =>
    refine ⟨_, [], rfl, iff_of_false (absurd rfl) ?_, absurd rfl⟩
    rw [isOmitted]
    nofun
  | all count transaction result isRequested transacted =>
    have nonempty : transaction ≠ [] := by cases transacted <;> nofun
    exact ⟨_, transaction, rfl, iff_of_true nonempty ⟨isRequested, rfl⟩, fun _ => ⟨_, transacted⟩⟩

/-- An environment with the relational store, of which edges and relations are to be cleared. -/
def stored : Environment :=
  { begun {} { relational := true, clearsRelations := true } with
    relational := some ⟨7, "cdlgrpc"⟩
    table := some { schema := "cdlgrpc" } }

theorem reached_stored : Reached {} { relational := true, clearsRelations := true } stored := by
  obtain ⟨exchanges, run⟩ : ∃ exchanges,
      Runs (make {} { relational := true, clearsRelations := true }).provision exchanges
        (.ok (), stored) := by
    refine exists_runs_act (.ok 7) (exists_runs_act () (exists_runs_act () ?_))
    exact exists_runs_act (.ok 0) (exists_runs_act (.ok 0) (exists_runs_act () ⟨[], .done _⟩))
  exact .provisioned _ _ _ run

theorem clearing_account_stored :
    stored.relational = some ⟨7, "cdlgrpc"⟩ ∧ ∀ exchanges stopped,
      Runs stored.stop exchanges stopped → Attempted ⟨7, "cdlgrpc"⟩ exchanges := by
  obtain ⟨_, -, stops⟩ := clearing_account reached_stored rfl
  exact ⟨rfl, fun exchanges stopped run => (stops exchanges stopped run).2.1⟩

/-- The deletion of the rows of the data table is refused. Edges and relations are not looked for,
and no transaction is begun. -/
theorem stop_skips_relations :
    ∃ exchanges,
      Reached {} { relational := true, clearsRelations := true } stored ∧
      Runs stored.stop exchanges stored.cleared ∧
      dataDeletion ⟨7, "cdlgrpc"⟩ (.error (.refused "42P01" "no such table")) ∈ exchanges ∧
      soughtTables exchanges = [] ∧
      ∀ pool reply, ⟨.begin pool, reply⟩ ∉ exchanges := by
  obtain ⟨rest, run⟩ : ∃ rest, Runs stored.stop
      (dataDeletion ⟨7, "cdlgrpc"⟩ (.error (.refused "42P01" "no such table")) :: rest)
      stored.cleared := by
    refine Exists.imp (fun rest tail => (runs_act_iff _ _ _ _).2 ⟨_, rest, rfl, tail⟩) ?_
    exact exists_runs_act () (exists_runs_act () (exists_runs_act () ⟨[], .done _⟩))
  obtain ⟨admin, -, stops⟩ := exists_runs_stop_iff reached_stored.consistent
  have clears := clearsStore_of_takenAway rfl ((stops _ _).1 run).2
  rw [storeExchanges_cons_of_asks rfl] at clears
  have nothing : storeExchanges rest = [] := by
    generalize storeExchanges rest = asked at clears
    cases clears with
    | refused cause => rfl
  refine ⟨_, reached_stored, run, List.mem_cons_self, ?_, fun pool reply member => ?_⟩
  · rw [← soughtTables_storeExchanges, storeExchanges_cons_of_asks rfl, nothing]
    rfl
  · have asked := mem_storeExchanges_iff.2 ⟨member, rfl⟩
    rw [storeExchanges_cons_of_asks rfl, nothing] at asked
    cases List.mem_singleton.1 asked

end Testbed.Environment
