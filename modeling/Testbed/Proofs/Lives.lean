/-
This file proves what becomes of the child of a process, whatever is done with the process and
however the operating system behaves. What happens to children is read off the exchanges of a life.
The induction is on what is done with the process, and its invariant is a tale: where the process
stands fixes what can have happened to its child so far. A process that was stopped or left behind
has no child any more whose end was not seen and that was not to be killed.
-/

import Testbed.Proofs.Retrieval
import Testbed.Scope.Body

namespace Testbed

open Session Outside

variable {exchanges : List (Exchange Action Reply)}

/-! ### What happens to children -/

/-- What happens to the child of a process. -/
inductive ChildEvent where
  /-- It was to be spawned, and has an identifier if it was. -/
  | spawned (reply : Except String Nat)
  /-- Its end was seen. -/
  | ended (child : Nat)
  /-- It was to be killed. -/
  | killed (child : Nat) (reply : Except String Unit)
  /-- Its end was waited for and not seen, and it is left behind. -/
  | abandoned (child : Nat)

/-- What happens to a child in an exchange. -/
def childEvent? : Exchange Action Reply → Option ChildEvent
  | ⟨.spawn _, reply⟩ => some (.spawned reply)
  | ⟨.childStatus child, .ok (some _)⟩ => some (.ended child)
  | ⟨.reap child _, .exited _⟩ => some (.ended child)
  | ⟨.reap child _, _⟩ => some (.abandoned child)
  | ⟨.kill child, reply⟩ => some (.killed child reply)
  | _ => none

/-- What happens to children in exchanges. -/
def childEvents (exchanges : List (Exchange Action Reply)) : List ChildEvent :=
  exchanges.filterMap childEvent?

@[simp] theorem childEvents_nil : childEvents [] = [] := rfl

@[simp] theorem childEvents_append (first second : List (Exchange Action Reply)) :
    childEvents (first ++ second) = childEvents first ++ childEvents second :=
  List.filterMap_append

/-- Whether an action asks something about a child of the operating system. -/
def concernsChild : Action → Bool
  | .spawn _ => true
  | .childStatus _ => true
  | .kill _ => true
  | .reap _ _ => true
  | _ => false

theorem childEvent?_eq_none {exchange : Exchange Action Reply}
    (other : concernsChild exchange.action = false) : childEvent? exchange = none := by
  obtain ⟨action, reply⟩ := exchange
  cases action
  case spawn => cases other
  case childStatus => cases other
  case kill => cases other
  case reap => cases other
  all_goals rfl

/-- Nothing happens to children in work that asks nothing about them. -/
theorem childEvents_eq_nil {Result : Type} {work : Work Result} {result : Result}
    (avoids : Avoids concernsChild work) (run : Runs work exchanges result) :
    childEvents exchanges = [] :=
  List.filterMap_eq_nil_iff.2 fun exchange member =>
    childEvent?_eq_none (avoids exchanges result run exchange member)

/-! ### Taking a child down -/

/-- The events in which a child of an identifier is left behind, by the reply to its signal. It is
to be killed again if it did not get the signal. -/
inductive Released (id : Nat) : Except String Unit → List ChildEvent → Prop where
  | signalled : Released id (.ok ()) []
  | again (cause : String) (reply : Except String Unit) :
      Released id (.error cause) [.killed id reply]

/-- The events in which a child of an identifier is stopped. -/
inductive TakenDown (id : Nat) : List ChildEvent → Prop where
  /-- It had ended before it was to be killed. -/
  | ended : TakenDown id [.ended id]
  | reaped (reply : Except String Unit) : TakenDown id [.killed id reply, .ended id]
  | abandoned (reply : Except String Unit) (rest : List ChildEvent)
      (released : Released id reply rest) :
      TakenDown id (.killed id reply :: .abandoned id :: rest)

namespace Child

variable {child observed : Child}

/-- What was seen of the end of a child. -/
def seen (child : Child) : List ChildEvent :=
  if child.ending.isSome then [.ended child.id] else []

theorem seen_of_isNone (running : child.ending = none) : child.seen = [] := by
  unfold seen
  rw [running]
  rfl

theorem seen_of_isSome {status : ExitStatus} (ended : child.ending = some status) :
    child.seen = [.ended child.id] := by
  unfold seen
  rw [ended]
  rfl

/-- A child that is observed has ended if the answer says so. -/
theorem seen_of_runs_observe {answer : Except String (Option ExitStatus)}
    (run : Runs child.observe exchanges (answer, observed)) :
    observed.id = child.id ∧ observed.seen = child.seen ++ childEvents exchanges ∧
      ((∃ status, answer = .ok (some status) ∧ observed.ending = some status) ∨
        (∀ status, answer ≠ .ok (some status)) ∧ observed.ending = none) := by
  unfold observe at run
  split at run
  case h_1 status ended =>
    obtain ⟨rfl, rfl, rfl⟩ := (runs_done_pair_iff _ _ _ _ _).1 run
    exact ⟨rfl, (List.append_nil _).symm, .inl ⟨status, rfl, ended⟩⟩
  case h_2 running =>
    obtain ⟨reply, rest, rfl, second⟩ := (runs_act_bind_iff _ _ _ _).1 run
    rcases reply with cause | _ | status
    · obtain ⟨rfl, rfl, rfl⟩ := (runs_done_pair_iff _ _ _ _ _).1 second
      exact ⟨rfl, (List.append_nil _).symm, .inr ⟨fun _ => nofun, running⟩⟩
    · obtain ⟨rfl, rfl, rfl⟩ := (runs_done_pair_iff _ _ _ _ _).1 second
      exact ⟨rfl, (List.append_nil _).symm, .inr ⟨fun _ => nofun, running⟩⟩
    · obtain ⟨rfl, rfl, rfl⟩ := (runs_done_pair_iff _ _ _ _ _).1 second
      rw [seen_of_isNone running]
      exact ⟨rfl, rfl, .inl ⟨status, rfl, rfl⟩⟩

/-- A child that has not ended, as far as was seen, is to be killed. -/
theorem events_of_runs_kill {reply : Except String Unit} (running : child.ending = none)
    (run : Runs child.kill exchanges reply) : childEvents exchanges = [.killed child.id reply] := by
  unfold kill at run
  rw [running] at run
  rw [(runs_ask_iff _ _ _).1 run]
  rfl

/-- A child whose end was seen is killed no more. -/
theorem events_of_ended {status : ExitStatus} (ended : child.ending = some status) :
    (∀ reply, Runs child.kill exchanges reply → exchanges = []) ∧
      ∀ isSignalled, Runs (child.release isSignalled) exchanges () → exchanges = [] := by
  constructor
  · intro reply run
    unfold kill at run
    rw [ended] at run
    exact ((runs_done_iff _ _ _).1 run).1
  · intro isSignalled run
    unfold release at run
    rw [ended, Option.isSome_some, Bool.or_true, if_pos rfl] at run
    exact ((runs_done_iff _ _ _).1 run).1

theorem released_of_runs_release {reply : Except String Unit} (running : child.ending = none)
    (run : Runs (child.release reply.isOk) exchanges ()) :
    Released child.id reply (childEvents exchanges) := by
  unfold release at run
  rw [running] at run
  cases reply with
  | ok _ =>
    obtain ⟨rfl, -⟩ := (runs_done_iff _ _ _).1 run
    exact .signalled
  | error cause =>
    obtain ⟨again, rest, rfl, second⟩ := (runs_act_bind_iff _ _ _ _).1 run
    obtain ⟨rfl, -⟩ := (runs_done_iff _ _ _).1 second
    exact .again cause again

end Child

namespace Process

variable {process after : Process} {child : Child}

theorem events_of_runs_signalChild {isSignalled : Bool} (running : child.ending = none)
    (run : Runs (process.signalChild child) exchanges isSignalled) :
    ∃ reply : Except String Unit, isSignalled = reply.isOk ∧
      childEvents exchanges = [.killed child.id reply] := by
  obtain ⟨before, reply, rest, rfl, first, second⟩ := (runs_bind_iff _ _ _ _).1 run
  refine ⟨reply, ?_⟩
  rw [childEvents_append, Child.events_of_runs_kill running first]
  cases reply with
  | ok _ =>
    obtain ⟨rfl, rfl⟩ := (runs_done_iff _ _ _).1 second
    exact ⟨rfl, rfl⟩
  | error cause =>
    obtain ⟨rfl, rfl⟩ := (runs_note_done_iff _ _ _ _ _ _ _).1 second
    exact ⟨rfl, rfl⟩

theorem takenDown_of_runs_reapChild {reply : Except String Unit} (running : child.ending = none)
    (run : Runs (process.reapChild child reply.isOk) exchanges ()) :
    TakenDown child.id (.killed child.id reply :: childEvents exchanges) := by
  obtain ⟨reaped, rest, rfl, second⟩ := (runs_act_bind_iff _ _ _ _).1 run
  cases reaped with
  | exited status =>
    rw [(runs_note_iff _ _ _ _ _ _).1 second]
    exact .reaped reply
  | failed cause =>
    obtain ⟨_, others, rfl, third⟩ := (runs_act_bind_iff _ _ _ _).1 second
    exact .abandoned reply (childEvents others) (Child.released_of_runs_release running third)
  | timedOut =>
    obtain ⟨_, others, rfl, third⟩ := (runs_act_bind_iff _ _ _ _).1 second
    exact .abandoned reply (childEvents others) (Child.released_of_runs_release running third)

/-- A child that is stopped is taken down. -/
theorem takenDown_of_runs_stopChild (run : Runs (process.stopChild child) exchanges ()) :
    TakenDown child.id (child.seen ++ childEvents exchanges) := by
  obtain ⟨before, ⟨answer, observed⟩, rest, rfl, first, second⟩ := (runs_bind_iff _ _ _ _).1 run
  obtain ⟨same, seen, ending⟩ := Child.seen_of_runs_observe first
  rw [childEvents_append, ← List.append_assoc, ← seen, ← same]
  rcases ending with ⟨status, rfl, ended⟩ | ⟨notEnded, running⟩
  · rw [(runs_note_iff _ _ _ _ _ _).1 second, Child.seen_of_isSome ended]
    exact .ended
  · have taken (kept : Runs ((process.signalChild observed).bind fun isSignalled =>
        process.reapChild observed isSignalled) rest ()) :
        TakenDown observed.id (observed.seen ++ childEvents rest) := by
      obtain ⟨between, isSignalled, others, rfl, third, fourth⟩ := (runs_bind_iff _ _ _ _).1 kept
      obtain ⟨reply, rfl, signalled⟩ := events_of_runs_signalChild running third
      rw [childEvents_append, signalled, Child.seen_of_isNone running]
      exact takenDown_of_runs_reapChild running fourth
    rcases answer with cause | _ | status
    · exact taken second
    · exact taken second
    · exact absurd rfl (notEnded status)

end Process

/-! ### The tale of a process -/

/-- The ways in which the fields of a stage can stand together, one for each phase. -/
def Stage.IsProper (stage : Stage) : Prop :=
  match stage.phase with
  | .created => stage.command.isSome ∧ stage.child = none
  | .running => stage.command = none ∧ stage.child.isSome
  | .stopped => stage.command = none ∧ stage.child = none

/-- What has happened to the child of a process by the time that it stands at a stage. -/
inductive Tale : Stage → List ChildEvent → Prop where
  | created (command : Command) : Tale (.created command) []
  | running (child : Child) : Tale (.running child) (.spawned (.ok child.id) :: child.seen)
  /-- It was stopped before it was spawned. -/
  | unspawned : Tale .stopped []
  /-- It could not be spawned. -/
  | refused (cause : String) : Tale .stopped [.spawned (.error cause)]
  | takenDown (id : Nat) (events : List ChildEvent) (taken : TakenDown id events) :
      Tale .stopped (.spawned (.ok id) :: events)

/-- What has happened to the child of a process by the time that the process is left behind. -/
inductive Gone : List ChildEvent → Prop where
  | stopped (events : List ChildEvent) (tale : Tale .stopped events) : Gone events
  /-- Its child was running. -/
  | dropped (id : Nat) (reply : Except String Unit) (rest : List ChildEvent)
      (released : Released id reply rest) : Gone (.spawned (.ok id) :: .killed id reply :: rest)

namespace Tale

variable {stage : Stage} {events : List ChildEvent}

theorem isProper (tale : Tale stage events) : stage.IsProper := by
  cases tale with
  | created command => exact ⟨rfl, rfl⟩
  | running child => exact ⟨rfl, rfl⟩
  | unspawned => exact ⟨rfl, rfl⟩
  | refused cause => exact ⟨rfl, rfl⟩
  | takenDown id events taken => exact ⟨rfl, rfl⟩

theorem eq_stopped (tale : Tale stage events) (stopped : stage.phase = .stopped) :
    stage = .stopped := by
  cases tale with
  | created command => cases stopped
  | running child => cases stopped
  | unspawned => rfl
  | refused cause => rfl
  | takenDown id events taken => rfl

theorem eq_created (tale : Tale stage events) (created : stage.phase = .created) :
    ∃ command, stage = .created command ∧ events = [] := by
  cases tale with
  | created command => exact ⟨command, rfl, rfl⟩
  | running child => cases created
  | unspawned => cases created
  | refused cause => cases created
  | takenDown id events taken => cases created

theorem eq_running {child : Child} (tale : Tale stage events) (isChild : stage.child = some child) :
    stage = .running child ∧ events = .spawned (.ok child.id) :: child.seen := by
  cases tale with
  | created command => cases isChild
  | running other =>
    cases isChild
    exact ⟨rfl, rfl⟩
  | unspawned => cases isChild
  | refused cause => cases isChild
  | takenDown id events taken => cases isChild

/-- Nothing has happened to a child that was never spawned. -/
theorem eq_nil_or_stopped (tale : Tale stage events) (noChild : stage.child = none) :
    (stage.phase = .created ∧ events = []) ∨ stage = .stopped := by
  cases tale with
  | created command => exact .inl ⟨rfl, rfl⟩
  | running child => cases noChild
  | unspawned => exact .inr rfl
  | refused cause => exact .inr rfl
  | takenDown id events taken => exact .inr rfl

end Tale

namespace Process

variable {process after : Process} {events : List ChildEvent}

/-! ### One step of a life -/

theorem spawn_of_running (running : process.stage.phase = .running) :
    process.spawn = .done (.ok (), process) := by
  unfold spawn
  rw [running]
  rfl

theorem spawn_of_stopped (stopped : process.stage.phase = .stopped) :
    process.spawn = .done (.error (.alreadyStopped process.role), process) := by
  unfold spawn
  rw [stopped]
  rfl

theorem tale_of_runs_spawn {command : Command} {result : Except LaunchError Unit}
    (created : process.stage = .created command)
    (run : Runs process.spawn exchanges (result, after)) :
    Tale after.stage (childEvents exchanges) ∧
      (result.isOk = false → after.stage = .stopped) := by
  unfold spawn spawnCreated at run
  rw [created] at run
  obtain ⟨spawned, rest, rfl, second⟩ := (runs_act_bind_iff _ _ _ _).1 run
  cases spawned with
  | ok id =>
    obtain ⟨_, others, rfl, third⟩ := (runs_act_bind_iff _ _ _ _).1 second
    obtain ⟨rfl, rfl, rfl⟩ := (runs_done_pair_iff _ _ _ _ _).1 third
    exact ⟨.running { id }, nofun⟩
  | error cause =>
    obtain ⟨rfl, rfl, rfl⟩ := (runs_done_pair_iff _ _ _ _ _).1 second
    exact ⟨.refused cause, fun _ => rfl⟩

theorem tale_of_runs_ensureRunning {result : Except LaunchError Unit}
    (tale : Tale process.stage events)
    (run : Runs process.ensureRunning exchanges (result, after)) :
    Tale after.stage (events ++ childEvents exchanges) := by
  unfold ensureRunning at run
  split at run
  case h_1 child running isChild =>
    obtain ⟨before, ⟨answer, observed⟩, rest, rfl, first, second⟩ := (runs_bind_iff _ _ _ _).1 run
    obtain ⟨same, seen, -⟩ := Child.seen_of_runs_observe first
    obtain ⟨standing, rfl⟩ := tale.eq_running isChild
    have ended : rest = [] ∧ after.stage = .running observed := by
      rw [standing] at second
      rcases answer with cause | _ | status
      all_goals
        obtain ⟨rfl, -, rfl⟩ := (runs_done_pair_iff _ _ _ _ _).1 second
        exact ⟨rfl, rfl⟩
    rw [ended.1, ended.2, List.append_nil, List.cons_append, ← seen, ← same]
    exact .running observed
  case h_2 =>
    obtain ⟨rfl, -, rfl⟩ := (runs_done_pair_iff _ _ _ _ _).1 run
    rw [childEvents_nil, List.append_nil]
    exact tale
  case h_3 =>
    obtain ⟨rfl, -, rfl⟩ := (runs_done_pair_iff _ _ _ _ _).1 run
    rw [childEvents_nil, List.append_nil]
    exact tale

theorem avoids_tryConnect (address : String) : Avoids concernsChild (tryConnect address) :=
  (avoids_ask _ rfl).bind fun connection => by cases connection <;> exact avoids_done _

/-- Polling asks nothing about children. -/
theorem avoids_retrieve (address : String) (policy : Policy) :
    Avoids concernsChild (Poll.retrieve id (tryConnect address) policy) :=
  Poll.avoids_retrieve (avoids_tryConnect address) (fun _ => rfl) fun _ => rfl

/-- While a process is waited for, nothing happens to its child but that its end may be seen. -/
theorem runs_waitUntilListening_cases {policy : Policy} {result : Except LaunchError String}
    (run : Runs (process.waitUntilListening policy) exchanges (result, after)) :
    (after = process ∧ childEvents exchanges = []) ∨
      ∃ own running, Runs process.ensureRunning own (running, after) ∧
        childEvents exchanges = childEvents own := by
  unfold waitUntilListening at run
  split at run
  case h_1 =>
    obtain ⟨rfl, -, rfl⟩ := (runs_done_pair_iff _ _ _ _ _).1 run
    exact .inl ⟨rfl, rfl⟩
  case h_2 port isListening =>
    obtain ⟨before, outcome, rest, rfl, first, second⟩ := (runs_bind_iff _ _ _ _).1 run
    rw [childEvents_append, childEvents_eq_nil (avoids_retrieve _ _) first, List.nil_append]
    split at second
    · obtain ⟨_, others, rfl, third⟩ := (runs_act_bind_iff _ _ _ _).1 second
      obtain ⟨rfl, -, rfl⟩ := (runs_done_pair_iff _ _ _ _ _).1 third
      exact .inl ⟨rfl, rfl⟩
    · obtain ⟨own, ⟨running, observed⟩, others, rfl, third, fourth⟩ :=
        (runs_bind_iff _ _ _ _).1 second
      have ended : others = [] ∧ after = observed := by
        cases running with
        | error error =>
          obtain ⟨nothing, -, same⟩ := (runs_done_pair_iff _ _ _ _ _).1 fourth
          exact ⟨nothing, same⟩
        | ok _ =>
          obtain ⟨nothing, -, same⟩ := (runs_done_pair_iff _ _ _ _ _).1 fourth
          exact ⟨nothing, same⟩
      obtain ⟨rfl, rfl⟩ := ended
      exact .inr ⟨own, running, third, by rw [List.append_nil]⟩

theorem tale_of_runs_stop (tale : Tale process.stage events)
    (run : Runs process.stop exchanges after) :
    Tale after.stage (events ++ childEvents exchanges) ∧ after.stage = .stopped := by
  unfold stop at run
  split at run
  case isTrue stopped =>
    obtain ⟨rfl, rfl⟩ := (runs_done_iff _ _ _).1 run
    rw [childEvents_nil, List.append_nil]
    exact ⟨tale, tale.eq_stopped stopped⟩
  case isFalse goesOn =>
    obtain ⟨_, stopping, rfl⟩ := (runs_bind_done_iff _ _ _ _).1 run
    refine ⟨?_, rfl⟩
    unfold stopAnyChild at stopping
    split at stopping
    case h_1 noChild =>
      rw [(runs_note_iff _ _ _ _ _ _).1 stopping]
      rcases tale.eq_nil_or_stopped noChild with ⟨-, rfl⟩ | stopped
      · exact .unspawned
      · exact absurd (congrArg Stage.phase stopped) goesOn
    case h_2 child isChild =>
      obtain ⟨-, rfl⟩ := tale.eq_running isChild
      exact .takenDown _ _ (takenDown_of_runs_stopChild stopping)

/-- A running child of a process that is left behind is killed. -/
theorem gone_of_runs_drop (tale : Tale process.stage events)
    (run : Runs process.drop exchanges ()) : Gone (events ++ childEvents exchanges) := by
  unfold drop at run
  split at run
  case h_1 noChild =>
    obtain ⟨rfl, -⟩ := (runs_done_iff _ _ _).1 run
    rw [childEvents_nil, List.append_nil]
    rcases tale.eq_nil_or_stopped noChild with ⟨-, rfl⟩ | stopped
    · exact .stopped _ .unspawned
    · rw [stopped] at tale
      exact .stopped _ tale
  case h_2 child isChild =>
    obtain ⟨-, rfl⟩ := tale.eq_running isChild
    obtain ⟨_, rest, rfl, second⟩ := (runs_act_bind_iff _ _ _ _).1 run
    obtain ⟨before, reply, others, rfl, killing, releasing⟩ := (runs_bind_iff _ _ _ _).1 second
    show Gone (.spawned (.ok child.id) :: (child.seen ++ childEvents (before ++ others)))
    cases ending : child.ending with
    | none =>
      rw [childEvents_append, Child.events_of_runs_kill ending killing,
        Child.seen_of_isNone ending]
      exact .dropped _ _ _ (Child.released_of_runs_release ending releasing)
    | some status =>
      rw [(Child.events_of_ended ending).1 _ killing, (Child.events_of_ended ending).2 _ releasing,
        Child.seen_of_isSome ending]
      exact .stopped _ (.takenDown _ _ .ended)

/-- A process that is stopped for good stays as it is, and nothing happens to children. -/
theorem unchanged_of_runs_perform {use : ProcessAction} {reply : ProcessReply use}
    (stopped : process.stage.phase = .stopped)
    (run : Runs (process.perform use) exchanges (reply, after)) :
    after = process ∧ childEvents exchanges = [] := by
  have whenAsked {own : List (Exchange Action Reply)} {running : Except LaunchError Unit}
      (asking : Runs process.ensureRunning own (running, after)) :
      after = process ∧ childEvents own = [] := by
    unfold ensureRunning at asking
    rw [stopped] at asking
    obtain ⟨rfl, -, rfl⟩ := (runs_done_pair_iff _ _ _ _ _).1 asking
    exact ⟨rfl, rfl⟩
  cases use with
  | spawn =>
    change Runs process.spawn _ _ at run
    rw [spawn_of_stopped stopped] at run
    obtain ⟨rfl, -, rfl⟩ := (runs_done_pair_iff _ _ _ _ _).1 run
    exact ⟨rfl, rfl⟩
  | ensureRunning => exact whenAsked run
  | waitUntilListening policy =>
    rcases runs_waitUntilListening_cases run with same | ⟨own, running, asking, events⟩
    · exact same
    · rw [events]
      exact whenAsked asking
  | stop =>
    have stopping := (runs_state_iff _ _ _ _).1 run
    unfold stop at stopping
    rw [if_pos stopped] at stopping
    obtain ⟨rfl, rfl⟩ := (runs_done_iff _ _ _).1 stopping
    exact ⟨rfl, rfl⟩

/-- Whether what was done with a process ends its life: a stop, or a spawn that fails. -/
def endsLife : Exchange ProcessAction ProcessReply → Bool
  | ⟨.stop, _⟩ => true
  | ⟨.spawn, reply⟩ => !reply.isOk
  | _ => false

/-- What is done with a process goes on with its tale. -/
theorem tale_of_runs_perform {use : ProcessAction} {reply : ProcessReply use}
    (tale : Tale process.stage events)
    (run : Runs (process.perform use) exchanges (reply, after)) :
    Tale after.stage (events ++ childEvents exchanges) ∧
      (endsLife ⟨use, reply⟩ = true → after.stage.phase = .stopped) := by
  -- A stopped process does not go on, so the cases below are about the two other phases.
  by_cases stopped : process.stage.phase = .stopped
  · obtain ⟨rfl, nothing⟩ := unchanged_of_runs_perform stopped run
    rw [nothing, List.append_nil]
    exact ⟨tale, fun _ => stopped⟩
  cases use with
  | spawn =>
    change Runs process.spawn _ _ at run
    cases phase : process.stage.phase with
    | created =>
      obtain ⟨command, created, rfl⟩ := tale.eq_created phase
      obtain ⟨goesOn, refused⟩ := tale_of_runs_spawn created run
      refine ⟨goesOn, fun ends => congrArg Stage.phase (refused ?_)⟩
      exact Bool.not_eq_true' _ ▸ ends
    | running =>
      rw [spawn_of_running phase] at run
      obtain ⟨rfl, rfl, rfl⟩ := (runs_done_pair_iff _ _ _ _ _).1 run
      rw [childEvents_nil, List.append_nil]
      exact ⟨tale, nofun⟩
    | stopped => exact absurd phase stopped
  | ensureRunning => exact ⟨tale_of_runs_ensureRunning tale run, nofun⟩
  | waitUntilListening policy =>
    refine ⟨?_, nofun⟩
    rcases runs_waitUntilListening_cases run with ⟨rfl, nothing⟩ | ⟨own, running, asking, same⟩
    · rw [nothing, List.append_nil]
      exact tale
    · rw [same]
      exact tale_of_runs_ensureRunning tale asking
  | stop =>
    obtain ⟨goesOn, isStopped⟩ := tale_of_runs_stop tale ((runs_state_iff _ _ _ _).1 run)
    exact ⟨goesOn, fun _ => congrArg Stage.phase isStopped⟩

/-! ### Whole lives -/

/-- These things were done with a process, one after another, and led to the process after them. -/
abbrev Lived (process : Process) (own : List (Exchange ProcessAction ProcessReply))
    (exchanges : List (Exchange Action Reply)) (after : Process) : Prop :=
  Threaded (fun use process => Process.perform process use) process own exchanges after

variable {own : List (Exchange ProcessAction ProcessReply)}

theorem unchanged_of_lived (stopped : process.stage.phase = .stopped)
    (lived : Lived process own exchanges after) :
    after = process ∧ childEvents exchanges = [] := by
  induction lived with
  | nil process => exact ⟨rfl, rfl⟩
  | cons use reply own before others process next after first rest inductionHypothesis =>
    obtain ⟨rfl, nothing⟩ := unchanged_of_runs_perform stopped first
    obtain ⟨rfl, nothingElse⟩ := inductionHypothesis stopped
    rw [childEvents_append, nothing, nothingElse]
    exact ⟨rfl, rfl⟩

theorem tale_of_lived (tale : Tale process.stage events)
    (lived : Lived process own exchanges after) :
    Tale after.stage (events ++ childEvents exchanges) ∧
      ((∃ exchange ∈ own, endsLife exchange = true) → after.stage.phase = .stopped) := by
  induction lived generalizing events with
  | nil process =>
    rw [childEvents_nil, List.append_nil]
    exact ⟨tale, fun ⟨_, member, _⟩ => absurd member List.not_mem_nil⟩
  | cons use reply own before others process next after first rest inductionHypothesis =>
    obtain ⟨goesOn, ended⟩ := tale_of_runs_perform tale first
    obtain ⟨whole, endedLater⟩ := inductionHypothesis goesOn
    rw [childEvents_append, ← List.append_assoc]
    refine ⟨whole, fun ⟨exchange, member, ends⟩ => ?_⟩
    rcases List.mem_cons.1 member with rfl | later
    · -- The life ended here, and nothing that follows changes the process.
      obtain ⟨rfl, -⟩ := unchanged_of_lived (ended ends) rest
      exact ended ends
    · exact endedLater ⟨exchange, later, ends⟩

end Process

/-- A process that was prepared stands at the beginning of its life. -/
theorem Manager.tale_of_runs_prepare {manager : Manager} {launch : Launch} {process : Process}
    (run : Runs (manager.prepare launch) exchanges (.ok process)) :
    Tale process.stage [] ∧ childEvents exchanges = [] := by
  unfold prepare at run
  split at run
  case h_1 => cases run
  case h_2 plan =>
    obtain ⟨rfl, same⟩ := (runs_note_done_iff _ _ _ _ _ _ _).1 run
    cases same
    exact ⟨.created _, rfl⟩

/-! ### What a tale tells -/

namespace ChildEvent

/-- The reply, if a child was to be spawned. -/
def spawned? : ChildEvent → Option (Except String Nat)
  | spawned reply => some reply
  | _ => none

/-- The reply, if a child was to be killed. -/
def killed? : ChildEvent → Option (Except String Unit)
  | killed _ reply => some reply
  | _ => none

def isAbandoned : ChildEvent → Bool
  | abandoned _ => true
  | _ => false

end ChildEvent

/-- Every child that was spawned was seen to have ended, or was to be killed. -/
def AllTakenDown (events : List ChildEvent) : Prop :=
  ∀ id, .spawned (.ok id) ∈ events → .ended id ∈ events ∨ ∃ reply, .killed id reply ∈ events

/-- The replies to the signals in the life of a process. A signal behind the wait for the end of a
child does not come from a stop, but from leaving the child behind. -/
def stopSignals (events : List ChildEvent) : List (Except String Unit) :=
  (events.takeWhile (!·.isAbandoned)).filterMap ChildEvent.killed?

/-- A child gets at most one signal that kills it. It is sent a second one only if the first was
refused. -/
structure KilledOnce (replies : List (Except String Unit)) : Prop where
  taken_le : replies.countP Except.isOk ≤ 1
  sent_le : (∀ reply ∈ replies, reply.isOk = true) → replies.length ≤ 1
  length_le : replies.length ≤ 2

theorem killedOnce_nil : KilledOnce [] :=
  ⟨Nat.zero_le _, fun _ => Nat.zero_le _, Nat.zero_le _⟩

theorem killedOnce_singleton (reply : Except String Unit) : KilledOnce [reply] :=
  ⟨List.countP_le_length, fun _ => Nat.le_refl 1, Nat.le_succ 1⟩

theorem killedOnce_again (cause : String) (reply : Except String Unit) :
    KilledOnce [.error cause, reply] where
  taken_le := by
    rw [List.countP_cons_of_neg Bool.false_ne_true]
    exact List.countP_le_length
  sent_le taken := absurd (taken _ List.mem_cons_self) Bool.false_ne_true
  length_le := Nat.le_refl 2

namespace Released

variable {id : Nat} {reply : Except String Unit} {rest : List ChildEvent}

theorem killedOnce (released : Released id reply rest) :
    KilledOnce (reply :: rest.filterMap ChildEvent.killed?) := by
  cases released with
  | signalled => exact killedOnce_singleton (.ok ())
  | again cause reply => exact killedOnce_again cause reply

theorem spawned (released : Released id reply rest) :
    rest.filterMap ChildEvent.spawned? = [] := by
  cases released <;> rfl

end Released

namespace TakenDown

variable {id : Nat} {events : List ChildEvent}

theorem killedOnce (taken : TakenDown id events) :
    KilledOnce (events.filterMap ChildEvent.killed?) := by
  cases taken with
  | ended => exact killedOnce_nil
  | reaped reply => exact killedOnce_singleton reply
  | abandoned reply rest released => exact released.killedOnce

theorem stopSignals_le (taken : TakenDown id events) : (stopSignals events).length ≤ 1 := by
  cases taken with
  | ended => exact Nat.zero_le 1
  | reaped reply => exact Nat.le_refl 1
  | abandoned reply rest released => exact Nat.le_refl 1

theorem spawned (taken : TakenDown id events) : events.filterMap ChildEvent.spawned? = [] := by
  cases taken with
  | ended => rfl
  | reaped reply => rfl
  | abandoned reply rest released => exact released.spawned

theorem ended_or_killed (taken : TakenDown id events) :
    .ended id ∈ events ∨ ∃ reply, .killed id reply ∈ events := by
  cases taken with
  | ended => exact .inl List.mem_cons_self
  | reaped reply => exact .inr ⟨reply, List.mem_cons_self⟩
  | abandoned reply rest released => exact .inr ⟨reply, List.mem_cons_self⟩

end TakenDown

/-- No child is left if the only one that was spawned was taken down. -/
theorem allTakenDown_cons {id : Nat} {events : List ChildEvent}
    (noOther : events.filterMap ChildEvent.spawned? = [])
    (taken : .ended id ∈ events ∨ ∃ reply, .killed id reply ∈ events) :
    AllTakenDown (.spawned (.ok id) :: events) := by
  intro other member
  rcases List.mem_cons.1 member with same | later
  · cases same
    exact taken.imp (List.mem_cons_of_mem _) fun ⟨reply, killed⟩ =>
      ⟨reply, List.mem_cons_of_mem _ killed⟩
  · cases List.filterMap_eq_nil_iff.1 noOther _ later

namespace Tale

variable {stage : Stage} {events : List ChildEvent}

/-- A process spawns at most once. -/
theorem spawned_le (tale : Tale stage events) :
    (events.filterMap ChildEvent.spawned?).length ≤ 1 := by
  cases tale with
  | created command => exact Nat.zero_le 1
  | running child =>
    unfold Child.seen
    split <;> exact Nat.le_refl 1
  | unspawned => exact Nat.zero_le 1
  | refused cause => exact Nat.le_refl 1
  | takenDown id events taken =>
    show (_ :: events.filterMap ChildEvent.spawned?).length ≤ 1
    rw [taken.spawned]
    exact Nat.le_refl 1

theorem stopSignals_le (tale : Tale stage events) : (stopSignals events).length ≤ 1 := by
  cases tale with
  | created command => exact Nat.zero_le 1
  | running child =>
    unfold Child.seen
    split <;> exact Nat.zero_le 1
  | unspawned => exact Nat.zero_le 1
  | refused cause => exact Nat.zero_le 1
  | takenDown id events taken => exact taken.stopSignals_le

theorem killedOnce (tale : Tale stage events) :
    KilledOnce (events.filterMap ChildEvent.killed?) := by
  cases tale with
  | created command => exact killedOnce_nil
  | running child =>
    unfold Child.seen
    split <;> exact killedOnce_nil
  | unspawned => exact killedOnce_nil
  | refused cause => exact killedOnce_nil
  | takenDown id events taken => exact taken.killedOnce

/-- No child is left of a process that was stopped. -/
theorem allTakenDown (tale : Tale .stopped events) : AllTakenDown events := by
  cases tale with
  | unspawned => exact fun _ member => absurd member List.not_mem_nil
  | refused cause =>
    intro id member
    cases List.mem_singleton.1 member
  | takenDown id events taken => exact allTakenDown_cons taken.spawned taken.ended_or_killed

end Tale

namespace Gone

variable {events : List ChildEvent}

theorem killedOnce (gone : Gone events) : KilledOnce (events.filterMap ChildEvent.killed?) := by
  cases gone with
  | stopped events tale => exact tale.killedOnce
  | dropped id reply rest released => exact released.killedOnce

/-- No child is left of a process that is left behind. -/
theorem allTakenDown (gone : Gone events) : AllTakenDown events := by
  cases gone with
  | stopped events tale => exact tale.allTakenDown
  | dropped id reply rest released =>
    exact allTakenDown_cons released.spawned (.inr ⟨reply, List.mem_cons_self⟩)

end Gone

/-- Whatever is done with a process that was prepared, and however the operating system behaves, the
fields of its stage stand together in one of three ways. It spawns at most once, and not at all when
it is prepared. A stop, and a spawn that fails, end its life: a process that is stopped stays as it
is, does not spawn and has no child left whose end was not seen and that was not to be killed. A
spawn of a running process does nothing. A process that is left behind has no such child left
either. Its stops send one signal at most, however many there are. With what leaving a child behind
sends, one signal at most is accepted, and there is another one only if the first was refused. -/
theorem Process.life_account {manager : Manager} {launch : Launch} {process after : Process}
    {preparing during : List (Exchange Action Reply)}
    {own : List (Exchange ProcessAction ProcessReply)}
    (prepared : Runs (manager.prepare launch) preparing (.ok process))
    (lived : Process.Lived process own during after) :
    childEvents preparing = [] ∧ after.stage.IsProper ∧
    ((childEvents during).filterMap ChildEvent.spawned?).length ≤ 1 ∧
    ((∃ exchange ∈ own, Process.endsLife exchange = true) → after.stage.phase = .stopped) ∧
    (after.stage.phase = .stopped →
      after.spawn = .done (.error (.alreadyStopped after.role), after) ∧
      AllTakenDown (childEvents during) ∧
      ∀ more next final, Process.Lived after more next final →
        final = after ∧ childEvents next = []) ∧
    (after.stage.phase = .running → after.spawn = .done (.ok (), after)) ∧
    (stopSignals (childEvents during)).length ≤ 1 ∧
    KilledOnce ((childEvents during).filterMap ChildEvent.killed?) ∧
    ∀ dropping, Runs after.drop dropping () →
      AllTakenDown (childEvents (during ++ dropping)) ∧
      KilledOnce ((childEvents (during ++ dropping)).filterMap ChildEvent.killed?) := by
  obtain ⟨beginning, nothing⟩ := Manager.tale_of_runs_prepare prepared
  obtain ⟨tale, ended⟩ := Process.tale_of_lived beginning lived
  rw [List.nil_append] at tale
  refine ⟨nothing, tale.isProper, tale.spawned_le, ended, fun stopped => ?_,
    Process.spawn_of_running, tale.stopSignals_le, tale.killedOnce, fun dropping run => ?_⟩
  · have whole := tale
    rw [tale.eq_stopped stopped] at whole
    exact ⟨Process.spawn_of_stopped stopped, whole.allTakenDown,
      fun more next final => Process.unchanged_of_lived stopped⟩
  · rw [childEvents_append]
    have gone := Process.gone_of_runs_drop tale run
    exact ⟨gone.allTakenDown, gone.killedOnce⟩

/-- A service without configuration is prepared and spawned. It does not end before it is stopped,
and it is killed. -/
theorem Process.life_account_killed :
    ∃ (preparing during : List (Exchange Action Reply)) (process after : Process),
      Runs ((Manager.mk {}).prepare { role := .edgeRegistry, fragments := [] }) preparing
        (.ok process) ∧
      Process.Lived process [⟨.spawn, .ok ()⟩, ⟨.stop, ()⟩] during after ∧
      childEvents during = [.spawned (.ok 7), .killed 7 (.ok ()), .ended 7] ∧
      after.spawn = .done (.error (.alreadyStopped .edgeRegistry), after) ∧
      AllTakenDown (childEvents during) := by
  let plan : Plan := { role := .edgeRegistry, bindings := .empty, arguments := [], port := none }
  let created : Process := (Manager.mk {}).process plan
  let running : Process := { created with stage := .running { id := 7 } }
  obtain ⟨preparing, prepared⟩ : ∃ preparing,
      Runs ((Manager.mk {}).prepare { role := .edgeRegistry, fragments := [] }) preparing
        (.ok created) := exists_runs_act () ⟨[], .done _⟩
  obtain ⟨first, spawning, spawned⟩ : ∃ first,
      Runs (created.perform .spawn) first (.ok (), running) ∧
        childEvents first = [.spawned (.ok 7)] :=
    ⟨_, (runs_act_bind_iff _ _ _ _).2 ⟨.ok 7, _, rfl, (runs_act_bind_iff _ _ _ _).2
      ⟨(), _, rfl, .done _⟩⟩, rfl⟩
  -- The child runs on until it gets the signal, and is then seen to end.
  have observing : Runs (Child.observe { id := 7 }) [⟨.childStatus 7, .ok none⟩]
      (.ok none, { id := 7 }) := .act _ _ _ _ _ (.done _)
  have signalling : Runs (running.signalChild { id := 7 }) [⟨.kill 7, .ok ()⟩] true :=
    .act _ _ _ _ _ (.done _)
  have reaping : Runs (running.reapChild { id := 7 } true)
      [⟨.reap 7 stopLimit, .exited (.signal 9 false)⟩,
        noted .info "lake.process" "Service stopped"
          [running.roleField, ("status", .text (ExitStatus.signal 9 false).message)]] () :=
    .act _ _ _ _ _ (.act _ _ _ _ _ (.done _))
  obtain ⟨second, stoppingChild, killed⟩ : ∃ second,
      Runs (running.stopChild { id := 7 }) second () ∧
        childEvents second = [.killed 7 (.ok ()), .ended 7] :=
    ⟨_, observing.bind (signalling.bind reaping), rfl⟩
  have stopped : Runs running.stop (second ++ []) { running with stage := .stopped } :=
    stoppingChild.bind (.done _)
  have stopping : Runs (running.perform .stop) (second ++ [] ++ [])
      ((), { running with stage := .stopped }) := stopped.bind (.done _)
  have lived : Process.Lived created [⟨.spawn, .ok ()⟩, ⟨.stop, ()⟩] _ _ :=
    .cons _ _ _ _ _ _ _ _ spawning (.cons _ _ _ _ _ _ _ _ stopping (.nil _))
  obtain ⟨-, -, -, ended, whenStopped, -⟩ := Process.life_account prepared lived
  have isStopped := ended ⟨_, List.mem_cons_of_mem _ List.mem_cons_self, rfl⟩
  obtain ⟨spawn, takenDown, -⟩ := whenStopped isStopped
  exact ⟨preparing, _, created, _, prepared, lived, by simp [spawned, killed], spawn, takenDown⟩

end Testbed
