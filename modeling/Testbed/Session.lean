/-
This file defines sessions: computations that act on the world outside and go on with its replies.
What the world replies is left open, so a statement about every run of a session is a statement
about every behaviour of the servers, the operating system and the clock behind it. A run is
recorded as the exchanges that took place, in order. The main statement is that the runs of two
sessions in sequence are the runs of the first followed by the runs of the second.
-/

namespace Testbed

/-- A computation that has a result, or performs an action and goes on with the reply. -/
inductive Session (Action : Type) (Reply : Action → Type) (Result : Type) : Type where
  | done (result : Result)
  | act (action : Action) (next : Reply action → Session Action Reply Result)

/-- One action with the reply it got. -/
structure Exchange (Action : Type) (Reply : Action → Type) where
  action : Action
  reply : Reply action

namespace Session

variable {Action World Result Next Last : Type} {Reply : Action → Type}

/-- One session after another. -/
def bind : Session Action Reply Result → (Result → Session Action Reply Next) →
    Session Action Reply Next
  | done result, continuation => continuation result
  | act action next, continuation => act action fun reply => (next reply).bind continuation

instance : Monad (Session Action Reply) where
  pure := done
  bind := bind

/-- The session of a single action. -/
def perform (action : Action) : Session Action Reply (Reply action) :=
  act action done

/-! ### Laws of sequencing -/

@[simp] theorem done_bind (result : Result) (continuation : Result → Session Action Reply Next) :
    (done result).bind continuation = continuation result := rfl

@[simp] theorem act_bind (action : Action) (next : Reply action → Session Action Reply Result)
    (continuation : Result → Session Action Reply Next) :
    (act action next).bind continuation = act action fun reply => (next reply).bind continuation :=
  rfl

@[simp] theorem pure_eq (result : Result) :
    (pure result : Session Action Reply Result) = done result := rfl

@[simp] theorem bind_eq (session : Session Action Reply Result)
    (continuation : Result → Session Action Reply Next) :
    session >>= continuation = session.bind continuation := rfl

@[simp] theorem bind_done (session : Session Action Reply Result) :
    session.bind done = session := by
  induction session with
  | done result => rfl
  | act action next inductionHypothesis => simp [inductionHypothesis]

theorem bind_bind (session : Session Action Reply Result)
    (first : Result → Session Action Reply Next) (second : Next → Session Action Reply Last) :
    (session.bind first).bind second = session.bind fun result => (first result).bind second := by
  induction session with
  | done result => rfl
  | act action next inductionHypothesis => simp [inductionHypothesis]

instance : LawfulMonad (Session Action Reply) := LawfulMonad.mk' _
  (fun session => bind_done session)
  (fun _ _ => rfl)
  (fun session first second => bind_bind session first second)

/-! ### Runs -/

/-- The session can take these exchanges, in this order, and end with this result. -/
inductive Runs : Session Action Reply Result → List (Exchange Action Reply) → Result → Prop where
  | done (result : Result) : Runs (.done result) [] result
  | act (action : Action) (next : Reply action → Session Action Reply Result)
      (reply : Reply action) (exchanges : List (Exchange Action Reply)) (result : Result)
      (rest : Runs (next reply) exchanges result) :
      Runs (.act action next) (⟨action, reply⟩ :: exchanges) result

/-- A run of two sessions in sequence is a run of the first and then one of the second. -/
theorem runs_bind_iff (session : Session Action Reply Result)
    (continuation : Result → Session Action Reply Next) (exchanges : List (Exchange Action Reply))
    (final : Next) :
    Runs (session.bind continuation) exchanges final ↔
      ∃ before result after, exchanges = before ++ after ∧ Runs session before result ∧
        Runs (continuation result) after final := by
  induction session generalizing exchanges with
  | done result =>
    constructor
    · intro run
      exact ⟨[], result, exchanges, rfl, .done result, run⟩
    · rintro ⟨before, result', after, rfl, first, second⟩
      cases first
      exact second
  | act action next inductionHypothesis =>
    constructor
    · intro run
      cases run with
      | act _ _ reply rest _ tail =>
        obtain ⟨before, result, after, rfl, first, second⟩ :=
          (inductionHypothesis reply rest).1 tail
        exact ⟨⟨action, reply⟩ :: before, result, after, rfl, .act _ _ _ _ _ first, second⟩
    · rintro ⟨before, result, after, rfl, first, second⟩
      cases first with
      | act _ _ reply rest _ tail =>
        exact .act _ _ _ _ _
          ((inductionHypothesis reply _).2 ⟨rest, result, after, rfl, tail, second⟩)

/-! ### Runs against a world -/

/-- The run against a world that answers each action from its state. -/
def run (answer : (action : Action) → World → Reply action × World) :
    Session Action Reply Result → World → Result × World
  | done result, world => (result, world)
  | act action next, world =>
    let (reply, world) := answer action world
    (next reply).run answer world

/-- What a world answers is one of the runs of the session. -/
theorem exists_runs_run (answer : (action : Action) → World → Reply action × World)
    (session : Session Action Reply Result) (world : World) :
    ∃ exchanges, Runs session exchanges (session.run answer world).1 := by
  induction session generalizing world with
  | done result => exact ⟨[], .done result⟩
  | act action next inductionHypothesis =>
    obtain ⟨exchanges, tail⟩ :=
      inductionHypothesis (answer action world).1 (answer action world).2
    exact ⟨⟨action, (answer action world).1⟩ :: exchanges, .act _ _ _ _ _ tail⟩

/-! ### Sessions by means of other sessions -/

variable {Means : Type} {Answer : Means → Type}

/-- The session in which each action is carried out by a session of other actions. -/
def carriedOut (means : (action : Action) → Session Means Answer (Reply action)) :
    Session Action Reply Result → Session Means Answer Result
  | done result => done result
  | act action next => (means action).bind fun reply => (next reply).carriedOut means

@[simp] theorem carriedOut_done (means : (action : Action) → Session Means Answer (Reply action))
    (result : Result) :
    (done result : Session Action Reply Result).carriedOut means = done result :=
  rfl

@[simp] theorem carriedOut_act (means : (action : Action) → Session Means Answer (Reply action))
    (action : Action) (next : Reply action → Session Action Reply Result) :
    (act action next).carriedOut means =
      (means action).bind fun reply => (next reply).carriedOut means := rfl

/-- Carrying out a sequence is carrying out its parts in sequence. -/
theorem carriedOut_bind (means : (action : Action) → Session Means Answer (Reply action))
    (session : Session Action Reply Result) (continuation : Result → Session Action Reply Next) :
    (session.bind continuation).carriedOut means =
      (session.carriedOut means).bind fun result => (continuation result).carriedOut means := by
  induction session with
  | done result => rfl
  | act action next inductionHypothesis => simp [inductionHypothesis, bind_bind]

/-! ### Sessions that pass a state on -/

variable {State : Type}

/-- The session in which each action is carried out by a session of other actions that takes a state
over and hands it on. -/
def threaded (means : (action : Action) → State → Session Means Answer (Reply action × State)) :
    Session Action Reply Result → State → Session Means Answer (Result × State)
  | done result, state => done (result, state)
  | act action next, state =>
    (means action state).bind fun answered => (next answered.1).threaded means answered.2

@[simp] theorem threaded_done
    (means : (action : Action) → State → Session Means Answer (Reply action × State))
    (result : Result) (state : State) :
    (done result : Session Action Reply Result).threaded means state = done (result, state) := rfl

@[simp] theorem threaded_act
    (means : (action : Action) → State → Session Means Answer (Reply action × State))
    (action : Action) (next : Reply action → Session Action Reply Result) (state : State) :
    (act action next).threaded means state =
      (means action state).bind fun answered => (next answered.1).threaded means answered.2 := rfl

/-- A sequence hands the state from its first part to its second. -/
theorem threaded_bind
    (means : (action : Action) → State → Session Means Answer (Reply action × State))
    (session : Session Action Reply Result) (continuation : Result → Session Action Reply Next)
    (state : State) :
    (session.bind continuation).threaded means state =
      (session.threaded means state).bind fun ended =>
        (continuation ended.1).threaded means ended.2 := by
  induction session generalizing state with
  | done result => rfl
  | act action next inductionHypothesis => simp [inductionHypothesis, bind_bind]

end Session

end Testbed
