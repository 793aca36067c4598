/-
This file takes runs of sessions apart. A run of a session is determined by the replies it gets, so
two runs that begin with the same exchanges stay together until one of them ends. A session that is
carried out by other sessions, with or without a state that is passed on, runs as it would by
itself, each of its exchanges being filled with a run of the session that carries it out.
-/

import Testbed.Outside

namespace Testbed

namespace Session

variable {Action World Result Next State : Type} {Reply : Action → Type}

/-! ### Runs of single sessions -/

@[simp] theorem runs_done_iff (result final : Result) (exchanges : List (Exchange Action Reply)) :
    Runs (done result) exchanges final ↔ exchanges = [] ∧ final = result := by
  constructor
  · intro run
    cases run
    exact ⟨rfl, rfl⟩
  · rintro ⟨rfl, rfl⟩
    exact .done final

/-- The run of a session that is done with a result and a state. -/
theorem runs_done_pair_iff (result final : Result) (state passed : State)
    (exchanges : List (Exchange Action Reply)) :
    Runs (done (result, state)) exchanges (final, passed) ↔
      exchanges = [] ∧ final = result ∧ passed = state := by
  rw [runs_done_iff, Prod.mk.injEq]

theorem runs_act_iff (action : Action) (next : Reply action → Session Action Reply Result)
    (exchanges : List (Exchange Action Reply)) (result : Result) :
    Runs (act action next) exchanges result ↔
      ∃ reply rest, exchanges = ⟨action, reply⟩ :: rest ∧ Runs (next reply) rest result := by
  constructor
  · intro run
    cases run with
    | act _ _ reply rest _ tail => exact ⟨reply, rest, rfl, tail⟩
  · rintro ⟨reply, rest, rfl, tail⟩
    exact .act _ _ _ _ _ tail

/-- A reply that leads to a run leads to one of the whole session. -/
theorem exists_runs_act {action : Action} {next : Reply action → Session Action Reply Result}
    {result : Result} (reply : Reply action)
    (rest : ∃ exchanges, Runs (next reply) exchanges result) :
    ∃ exchanges, Runs (act action next) exchanges result := by
  obtain ⟨exchanges, run⟩ := rest
  exact ⟨_, .act _ _ reply _ _ run⟩

/-- The run of a session of a single action. -/
@[simp] theorem runs_act_done_iff (action : Action) (exchanges : List (Exchange Action Reply))
    (reply : Reply action) :
    Runs (act action done) exchanges reply ↔ exchanges = [⟨action, reply⟩] := by
  rw [runs_act_iff]
  constructor
  · rintro ⟨given, rest, rfl, tail⟩
    obtain ⟨rfl, rfl⟩ := (runs_done_iff _ _ _).1 tail
    rfl
  · rintro rfl
    exact ⟨reply, [], rfl, .done reply⟩

/-- A run that begins with an action begins with its exchange. -/
theorem runs_act_bind_iff (action : Action)
    (continuation : Reply action → Session Action Reply Next)
    (exchanges : List (Exchange Action Reply)) (final : Next) :
    Runs ((act action done).bind continuation) exchanges final ↔
      ∃ reply rest, exchanges = ⟨action, reply⟩ :: rest ∧ Runs (continuation reply) rest final :=
  runs_act_iff _ _ _ _

/-- A run of a session, and then one of the session that follows its result. -/
theorem Runs.bind {session : Session Action Reply Result}
    {continuation : Result → Session Action Reply Next}
    {before after : List (Exchange Action Reply)} {result : Result} {final : Next}
    (first : Runs session before result) (second : Runs (continuation result) after final) :
    Runs (session.bind continuation) (before ++ after) final :=
  (runs_bind_iff _ _ _ _).2 ⟨before, result, after, rfl, first, second⟩

/-- A run of a session whose result is turned into another. -/
theorem runs_bind_done_iff (session : Session Action Reply Result) (turn : Result → Next)
    (exchanges : List (Exchange Action Reply)) (final : Next) :
    Runs (session.bind fun result => done (turn result)) exchanges final ↔
      ∃ result, Runs session exchanges result ∧ final = turn result := by
  rw [runs_bind_iff]
  constructor
  · rintro ⟨before, result, after, rfl, first, second⟩
    obtain ⟨rfl, rfl⟩ := (runs_done_iff _ _ _).1 second
    rw [List.append_nil]
    exact ⟨result, first, rfl⟩
  · rintro ⟨result, first, rfl⟩
    exact ⟨exchanges, result, [], (List.append_nil _).symm, first, .done _⟩

/-- The run of a session that gives a state and nothing else. -/
theorem runs_state_iff (session : Session Action Reply State) (reply : Unit) (final : State)
    (exchanges : List (Exchange Action Reply)) :
    Runs (session.bind fun state => done ((), state)) exchanges (reply, final) ↔
      Runs session exchanges final := by
  rw [runs_bind_done_iff]
  constructor
  · rintro ⟨state, run, same⟩
    rw [(Prod.mk.inj same).2]
    exact run
  · intro run
    exact ⟨final, run, rfl⟩

/-- The run of a session on the side, which answers and leaves a state as it is. -/
theorem runs_aside_iff (session : Session Action Reply Result) (state final : State)
    (result : Result) (exchanges : List (Exchange Action Reply)) :
    Runs (session.bind fun result => done (result, state)) exchanges (result, final) ↔
      Runs session exchanges result ∧ final = state := by
  rw [runs_bind_done_iff]
  constructor
  · rintro ⟨answered, run, same⟩
    obtain ⟨rfl, rfl⟩ := Prod.mk.inj same
    exact ⟨run, rfl⟩
  · rintro ⟨run, rfl⟩
    exact ⟨result, run, rfl⟩

/-- Two runs of one session that begin with the same exchanges are the same run. -/
theorem Runs.unique {session : Session Action Reply Result}
    {first second firstRest secondRest : List (Exchange Action Reply)}
    {firstResult secondResult : Result} (firstRun : Runs session first firstResult)
    (secondRun : Runs session second secondResult)
    (same : first ++ firstRest = second ++ secondRest) :
    first = second ∧ firstResult = secondResult := by
  induction firstRun generalizing second with
  | done result =>
    cases secondRun
    exact ⟨rfl, rfl⟩
  | act action next reply exchanges result tail inductionHypothesis =>
    cases secondRun with
    | act _ _ secondReply secondExchanges _ secondTail =>
      simp only [List.cons_append, List.cons.injEq, Exchange.mk.injEq, heq_eq_eq,
        true_and] at same
      obtain ⟨rfl, sameRest⟩ := same
      obtain ⟨rfl, sameResult⟩ := inductionHypothesis secondTail sameRest
      exact ⟨rfl, sameResult⟩

/-! ### Sessions that avoid actions -/

/-- No run of the session takes an action of the kind. -/
def Avoids (kind : Action → Bool) (session : Session Action Reply Result) : Prop :=
  ∀ exchanges result, Runs session exchanges result →
    ∀ exchange ∈ exchanges, kind exchange.action = false

section Avoids

variable {kind : Action → Bool}

/-- A session that avoids a kind of actions avoids every kind that is part of it. -/
theorem Avoids.mono {part : Action → Bool} {session : Session Action Reply Result}
    (avoids : Avoids kind session) (within : ∀ action, kind action = false → part action = false) :
    Avoids part session :=
  fun exchanges result run exchange member =>
    within _ (avoids exchanges result run exchange member)

theorem avoids_done (result : Result) :
    Avoids kind (done result : Session Action Reply Result) := by
  intro exchanges final run exchange member
  obtain ⟨rfl, -⟩ := (runs_done_iff _ _ _).1 run
  cases member

theorem avoids_act_done (action : Action) (other : kind action = false) :
    Avoids kind (act action done : Session Action Reply (Reply action)) := by
  intro exchanges reply run exchange member
  rw [(runs_act_done_iff _ _ _).1 run] at member
  rw [List.mem_singleton.1 member]
  exact other

theorem Avoids.bind {session : Session Action Reply Result}
    {continuation : Result → Session Action Reply Next} (first : Avoids kind session)
    (second : ∀ result, Avoids kind (continuation result)) :
    Avoids kind (session.bind continuation) := by
  intro exchanges final run exchange member
  obtain ⟨before, result, after, rfl, start, rest⟩ := (runs_bind_iff _ _ _ _).1 run
  rcases List.mem_append.1 member with earlier | later
  · exact first _ _ start exchange earlier
  · exact second result _ _ rest exchange later

end Avoids

/-! ### The exchanges with a world -/

/-- The exchanges that take place against a world that answers each action from its state. -/
def exchangesWith (answer : (action : Action) → World → Reply action × World) :
    Session Action Reply Result → World → List (Exchange Action Reply)
  | done _, _ => []
  | act action next, world =>
    let answered := answer action world
    ⟨action, answered.1⟩ :: (next answered.1).exchangesWith answer answered.2

/-- What a session does against a world is one of its runs. -/
theorem runs_exchangesWith (answer : (action : Action) → World → Reply action × World)
    (session : Session Action Reply Result) (world : World) :
    Runs session (session.exchangesWith answer world) (session.run answer world).1 := by
  induction session generalizing world with
  | done result => exact .done result
  | act action next inductionHypothesis =>
    exact .act _ _ _ _ _ (inductionHypothesis _ (answer action world).2)

/-- A world answers these exchanges, one after another from its state. -/
def AnsweredBy (answer : (action : Action) → World → Reply action × World) :
    World → List (Exchange Action Reply) → Prop
  | _, [] => True
  | world, ⟨action, reply⟩ :: rest =>
    reply = (answer action world).1 ∧ AnsweredBy answer (answer action world).2 rest

theorem answeredBy_exchangesWith (answer : (action : Action) → World → Reply action × World)
    (session : Session Action Reply Result) (world : World) :
    AnsweredBy answer world (session.exchangesWith answer world) := by
  induction session generalizing world with
  | done result => trivial
  | act action next inductionHypothesis => exact ⟨rfl, inductionHypothesis _ _⟩

/-! ### Sessions by means of other sessions -/

variable {Means : Type} {Answer : Means → Type}

/-- These exchanges were carried out, one after another, in those exchanges of other sessions. -/
inductive Carried (means : (action : Action) → Session Means Answer (Reply action)) :
    List (Exchange Action Reply) → List (Exchange Means Answer) → Prop where
  | nil : Carried means [] []
  | cons (action : Action) (reply : Reply action) (own : List (Exchange Action Reply))
      (before after : List (Exchange Means Answer)) (first : Runs (means action) before reply)
      (rest : Carried means own after) : Carried means (⟨action, reply⟩ :: own) (before ++ after)

section Carried

variable {means : (action : Action) → Session Means Answer (Reply action)}

@[simp] theorem carried_nil_iff (exchanges : List (Exchange Means Answer)) :
    Carried means [] exchanges ↔ exchanges = [] := by
  constructor
  · intro carried
    cases carried
    rfl
  · rintro rfl
    exact .nil

theorem carried_cons_iff (action : Action) (reply : Reply action)
    (own : List (Exchange Action Reply)) (exchanges : List (Exchange Means Answer)) :
    Carried means (⟨action, reply⟩ :: own) exchanges ↔
      ∃ before after, exchanges = before ++ after ∧ Runs (means action) before reply ∧
        Carried means own after := by
  constructor
  · intro carried
    cases carried with
    | cons _ _ _ before after first rest => exact ⟨before, after, rfl, first, rest⟩
  · rintro ⟨before, after, rfl, first, rest⟩
    exact .cons _ _ _ _ _ first rest

/-- A session that is carried out by others runs as by itself, with its exchanges carried out. -/
theorem runs_carriedOut_iff (session : Session Action Reply Result)
    (exchanges : List (Exchange Means Answer)) (result : Result) :
    Runs (session.carriedOut means) exchanges result ↔
      ∃ own, Runs session own result ∧ Carried means own exchanges := by
  induction session generalizing exchanges with
  | done ended =>
    simp only [carriedOut_done, runs_done_iff]
    constructor
    · rintro ⟨rfl, rfl⟩
      exact ⟨[], ⟨rfl, rfl⟩, .nil⟩
    · rintro ⟨own, ⟨rfl, rfl⟩, carried⟩
      exact ⟨(carried_nil_iff _).1 carried, rfl⟩
  | act action next inductionHypothesis =>
    rw [carriedOut_act, runs_bind_iff]
    constructor
    · rintro ⟨before, reply, after, rfl, first, second⟩
      obtain ⟨own, run, carried⟩ := (inductionHypothesis reply after).1 second
      exact ⟨⟨action, reply⟩ :: own, .act _ _ _ _ _ run, .cons _ _ _ _ _ first carried⟩
    · rintro ⟨own, run, carried⟩
      obtain ⟨reply, rest, rfl, tail⟩ := (runs_act_iff _ _ _ _).1 run
      obtain ⟨before, after, rfl, first, others⟩ := (carried_cons_iff _ _ _ _).1 carried
      exact ⟨before, reply, after, rfl, first, (inductionHypothesis reply after).2
        ⟨rest, tail, others⟩⟩

end Carried

/-- A session avoids what every session avoids that carries one of its actions out. -/
theorem Avoids.carriedOut {kind : Means → Bool}
    {means : (action : Action) → Session Means Answer (Reply action)}
    (avoids : ∀ action, Avoids kind (means action)) (session : Session Action Reply Result) :
    Avoids kind (session.carriedOut means) := by
  induction session with
  | done result => exact avoids_done result
  | act action next inductionHypothesis => exact (avoids action).bind inductionHypothesis

/-! ### Sessions that pass a state on -/

/-- From a state, these exchanges were carried out, one after another, in those exchanges of other
sessions, which led to a state in the end. -/
inductive Threaded
    (means : (action : Action) → State → Session Means Answer (Reply action × State)) :
    State → List (Exchange Action Reply) → List (Exchange Means Answer) → State → Prop where
  | nil (state : State) : Threaded means state [] [] state
  | cons (action : Action) (reply : Reply action) (own : List (Exchange Action Reply))
      (before after : List (Exchange Means Answer)) (state next final : State)
      (first : Runs (means action state) before (reply, next))
      (rest : Threaded means next own after final) :
      Threaded means state (⟨action, reply⟩ :: own) (before ++ after) final

theorem threaded_append_iff
    {means : (action : Action) → State → Session Means Answer (Reply action × State)}
    (first second : List (Exchange Action Reply)) (state final : State)
    (exchanges : List (Exchange Means Answer)) :
    Threaded means state (first ++ second) exchanges final ↔
      ∃ before middle after, exchanges = before ++ after ∧
        Threaded means state first before middle ∧ Threaded means middle second after final := by
  induction first generalizing state exchanges with
  | nil =>
    constructor
    · intro threaded
      exact ⟨[], state, exchanges, rfl, .nil state, threaded⟩
    · rintro ⟨before, middle, after, rfl, nothing, threaded⟩
      cases nothing
      exact threaded
  | cons exchange rest inductionHypothesis =>
    constructor
    · intro threaded
      cases threaded with
      | cons action reply _ start others _ next _ run threaded =>
        obtain ⟨before, middle, after, rfl, earlier, later⟩ :=
          (inductionHypothesis next others).1 threaded
        exact ⟨start ++ before, middle, after, (List.append_assoc _ _ _).symm,
          .cons _ _ _ _ _ _ _ _ run earlier, later⟩
    · rintro ⟨_, middle, after, rfl, earlier, later⟩
      cases earlier with
      | cons action reply _ start others _ next _ run earlier =>
        rw [List.append_assoc]
        exact .cons _ _ _ _ _ _ _ _ run
          ((inductionHypothesis next _).2 ⟨others, middle, after, rfl, earlier, later⟩)

/-- A session that passes a state on runs as by itself, with its exchanges carried out from state to
state. -/
theorem runs_threaded_iff
    {means : (action : Action) → State → Session Means Answer (Reply action × State)}
    (session : Session Action Reply Result) (state final : State)
    (exchanges : List (Exchange Means Answer)) (result : Result) :
    Runs (session.threaded means state) exchanges (result, final) ↔
      ∃ own, Runs session own result ∧ Threaded means state own exchanges final := by
  induction session generalizing state exchanges with
  | done ended =>
    simp only [threaded_done, runs_done_iff, Prod.mk.injEq]
    constructor
    · rintro ⟨rfl, rfl, rfl⟩
      exact ⟨[], ⟨rfl, rfl⟩, .nil _⟩
    · rintro ⟨own, ⟨rfl, rfl⟩, threaded⟩
      cases threaded
      exact ⟨rfl, rfl, rfl⟩
  | act action next inductionHypothesis =>
    rw [threaded_act, runs_bind_iff]
    constructor
    · rintro ⟨before, ⟨reply, passed⟩, after, rfl, first, second⟩
      obtain ⟨own, run, threaded⟩ := (inductionHypothesis reply passed after).1 second
      exact ⟨⟨action, reply⟩ :: own, .act _ _ _ _ _ run, .cons _ _ _ _ _ _ _ _ first threaded⟩
    · rintro ⟨own, run, threaded⟩
      obtain ⟨reply, rest, rfl, tail⟩ := (runs_act_iff _ _ _ _).1 run
      cases threaded with
      | cons _ _ _ before after _ passed _ first others =>
        exact ⟨before, (reply, passed), after, rfl, first, (inductionHypothesis reply passed
          after).2 ⟨rest, tail, others⟩⟩

end Session

/-! ### Runs of single actions -/

open Session

/-- The exchange in which a log event is written. -/
def noted (level : Level) (target message : String) (fields : List (String × FieldValue)) :
    Exchange Action Reply :=
  ⟨.note { level, target, message, fields }, ()⟩

@[simp] theorem runs_ask_iff (action : Action) (exchanges : List (Exchange Action Reply))
    (reply : Reply action) : Runs (ask action) exchanges reply ↔ exchanges = [⟨action, reply⟩] :=
  runs_act_done_iff _ _ _

@[simp] theorem runs_note_iff (level : Level) (target message : String)
    (fields : List (String × FieldValue)) (exchanges : List (Exchange Action Reply))
    (written : Unit) :
    Runs (note level target message fields) exchanges written ↔
      exchanges = [noted level target message fields] :=
  runs_ask_iff _ _ _

theorem runs_note_done_iff {Result : Type} (level : Level) (target message : String)
    (fields : List (String × FieldValue)) (exchanges : List (Exchange Action Reply))
    (result final : Result) :
    Runs ((note level target message fields).bind fun _ => Session.done result) exchanges final ↔
      exchanges = [noted level target message fields] ∧ final = result := by
  rw [runs_bind_done_iff]
  simp only [runs_note_iff]
  exact exists_const Unit

theorem avoids_ask {kind : Action → Bool} (action : Action) (other : kind action = false) :
    Avoids kind (ask action) :=
  avoids_act_done action other

end Testbed
