/-
This file proves that a process spawns the command it was prepared with and no other, whatever is
done with it. Only a spawn asks for a child, and it asks for the command that the process holds;
nothing gives a process another command. The induction is on what is done with the process.
-/

import Testbed.Proofs.Lives

namespace Testbed

open Session Outside

variable {exchanges : List (Exchange Action Reply)}

/-! ### What watching and stopping a process consist of -/

/-- Whether an action is none of those in which a process is watched or stopped: events in its life
are noted, and it is asked whether its child has ended, or the child is killed and waited for. -/
def isForeign : Action → Bool
  | .note event => event.target != "lake.process"
  | .childStatus _ => false
  | .kill _ => false
  | .reap _ _ => false
  | _ => true

theorem avoids_noteProcess (process : Process) (level : Level) (message : String)
    (fields : List (String × FieldValue)) :
    Avoids isForeign (process.noteProcess level message fields) :=
  avoids_ask _ rfl

theorem Child.avoids_observe (child : Child) : Avoids isForeign child.observe := by
  unfold observe
  split
  · exact avoids_done _
  · refine (avoids_ask _ rfl).bind fun answer => ?_
    rcases answer with cause | _ | status <;> exact avoids_done _

theorem Child.avoids_kill (child : Child) : Avoids isForeign child.kill := by
  unfold kill
  split
  · exact avoids_done _
  · exact avoids_ask _ rfl

theorem Child.avoids_release (child : Child) (isSignalled : Bool) :
    Avoids isForeign (child.release isSignalled) := by
  unfold release
  split
  · exact avoids_done _
  · exact (avoids_ask _ rfl).bind fun _ => avoids_done _

namespace Process

variable (process : Process)

theorem avoids_signalChild (child : Child) :
    Avoids isForeign (process.signalChild child) := by
  refine child.avoids_kill.bind fun reply => ?_
  cases reply with
  | ok done => exact avoids_done _
  | error cause => exact (avoids_noteProcess _ _ _ _).bind fun _ => avoids_done _

theorem avoids_reapChild (child : Child) (isSignalled : Bool) :
    Avoids isForeign (process.reapChild child isSignalled) := by
  refine (avoids_ask _ rfl).bind fun reaped => ?_
  cases reaped with
  | exited status => exact avoids_noteProcess _ _ _ _
  | failed cause => exact (avoids_noteProcess _ _ _ _).bind fun _ => child.avoids_release _
  | timedOut => exact (avoids_noteProcess _ _ _ _).bind fun _ => child.avoids_release _

theorem avoids_stopChild (child : Child) : Avoids isForeign (process.stopChild child) := by
  refine child.avoids_observe.bind fun ⟨answer, observed⟩ => ?_
  have signalled : Avoids isForeign ((process.signalChild observed).bind fun isSignalled =>
      process.reapChild observed isSignalled) :=
    (process.avoids_signalChild observed).bind fun _ => process.avoids_reapChild observed _
  rcases answer with cause | _ | status
  · exact signalled
  · exact signalled
  · exact avoids_noteProcess _ _ _ _

/-- A stop is about nothing but the process. -/
theorem avoids_stop : Avoids isForeign process.stop := by
  unfold stop
  split
  · exact avoids_done _
  · refine Avoids.bind ?_ fun _ => avoids_done _
    unfold stopAnyChild
    split
    · exact avoids_noteProcess _ _ _ _
    · exact process.avoids_stopChild _

theorem avoids_ensureRunning : Avoids isForeign process.ensureRunning := by
  unfold ensureRunning
  split
  · refine (Child.avoids_observe _).bind fun ⟨answer, observed⟩ => ?_
    rcases answer with cause | _ | status <;> exact avoids_done _
  · exact avoids_done _
  · exact avoids_done _

theorem avoids_drop : Avoids isForeign process.drop := by
  unfold drop
  split
  · exact avoids_done _
  · exact (avoids_noteProcess _ _ _ _).bind fun _ =>
      (Child.avoids_kill _).bind fun _ => Child.avoids_release _ _

end Process

/-! ### Commands -/

/-- Whether an action spawns a child. -/
def isSpawn : Action → Bool
  | .spawn _ => true
  | _ => false

/-- Every child that is spawned in the exchanges is spawned by the command. -/
def SpawnsOnly (command : Option Command) (exchanges : List (Exchange Action Reply)) : Prop :=
  ∀ exchange ∈ exchanges, ∀ spawned, exchange.action = .spawn spawned → command = some spawned

namespace SpawnsOnly

variable {command other : Option Command} {first second : List (Exchange Action Reply)}

theorem nil : SpawnsOnly command [] :=
  fun _ member => absurd member List.not_mem_nil

theorem append (onFirst : SpawnsOnly command first) (onSecond : SpawnsOnly command second) :
    SpawnsOnly command (first ++ second) :=
  List.forall_mem_append.2 ⟨onFirst, onSecond⟩

/-- Work that spawns nothing spawns by every command. -/
theorem of_avoids {Result : Type} {work : Work Result} {result : Result}
    (avoids : Avoids isSpawn work) (run : Runs work exchanges result) :
    SpawnsOnly command exchanges := by
  intro exchange member spawned isSpawned
  have notSpawned := avoids _ _ run exchange member
  rw [isSpawned] at notSpawned
  cases notSpawned

/-- What is spawned by a command that is left is spawned by the one that was there. -/
theorem of_left (onLeft : SpawnsOnly other exchanges)
    (left : ∀ spawned, other = some spawned → command = some spawned) :
    SpawnsOnly command exchanges :=
  fun exchange member spawned isSpawned => left spawned (onLeft exchange member spawned isSpawned)

end SpawnsOnly

theorem isSpawn_of_isForeign {action : Action} (own : isForeign action = false) :
    isSpawn action = false := by
  cases action <;> first | rfl | cases own

namespace Process

variable {process after : Process}

theorem avoids_waitUntilListening (process : Process) (policy : Policy) :
    Avoids isSpawn (process.waitUntilListening policy) := by
  unfold waitUntilListening
  split
  · exact avoids_done _
  · refine (Poll.avoids_retrieve ((avoids_tryConnect _).mono fun action => ?_) (fun _ => rfl)
      fun _ => rfl).bind fun outcome => ?_
    · cases action <;> first | exact fun _ => rfl | exact nofun
    · split
      · exact (avoids_ask _ rfl).bind fun _ => avoids_done _
      · refine (process.avoids_ensureRunning.mono fun _ => isSpawn_of_isForeign).bind
          fun ⟨running, observed⟩ => ?_
        cases running <;> exact avoids_done _

/-- The command that the process is spawned with, if it is spawned, and the one it holds then. -/
structure Keeps (process : Process) (exchanges : List (Exchange Action Reply)) (after : Process) :
    Prop where
  spawns : SpawnsOnly process.stage.command exchanges
  left : ∀ command, after.stage.command = some command → process.stage.command = some command

theorem Keeps.nothing (same : after.stage.command = process.stage.command) :
    Keeps process [] after :=
  ⟨.nil, fun _ held => same ▸ held⟩

/-- A spawn asks for the command that the process holds, and leaves none. -/
theorem keeps_of_runs_spawnCreated {result : Except LaunchError Unit}
    (run : Runs process.spawnCreated exchanges (result, after)) :
    Keeps process exchanges after := by
  unfold spawnCreated at run
  split at run
  case h_1 =>
    obtain ⟨rfl, -, rfl⟩ := (runs_done_pair_iff _ _ _ _ _).1 run
    exact .nothing rfl
  case h_2 command held =>
    obtain ⟨spawned, rest, rfl, second⟩ := (runs_act_bind_iff _ _ _ _).1 run
    have others : SpawnsOnly process.stage.command rest ∧ after.stage.command = none := by
      cases spawned with
      | ok id =>
        obtain ⟨_, noted, ending, rfl, third, fourth⟩ := (runs_bind_iff _ _ _ _).1 second
        obtain ⟨rfl, -, rfl⟩ := (runs_done_pair_iff _ _ _ _ _).1 fourth
        rw [List.append_nil]
        exact ⟨.of_avoids (avoids_ask _ rfl) third, rfl⟩
      | error cause =>
        obtain ⟨rfl, -, rfl⟩ := (runs_done_pair_iff _ _ _ _ _).1 second
        exact ⟨.nil, rfl⟩
    refine ⟨List.forall_mem_cons.2 ⟨?_, others.1⟩, fun left isLeft => ?_⟩
    · rintro _ ⟨⟩
      exact held
    · rw [others.2] at isLeft
      cases isLeft

theorem keeps_of_runs_spawn {result : Except LaunchError Unit}
    (run : Runs process.spawn exchanges (result, after)) : Keeps process exchanges after := by
  unfold spawn at run
  split at run
  · obtain ⟨rfl, -, rfl⟩ := (runs_done_pair_iff _ _ _ _ _).1 run
    exact .nothing rfl
  · obtain ⟨rfl, -, rfl⟩ := (runs_done_pair_iff _ _ _ _ _).1 run
    exact .nothing rfl
  · exact keeps_of_runs_spawnCreated run

theorem command_of_runs_ensureRunning {result : Except LaunchError Unit}
    (run : Runs process.ensureRunning exchanges (result, after)) :
    after.stage.command = process.stage.command := by
  unfold ensureRunning at run
  split at run
  · obtain ⟨before, ⟨answer, observed⟩, rest, rfl, first, second⟩ := (runs_bind_iff _ _ _ _).1 run
    rcases answer with cause | _ | status
    all_goals
      obtain ⟨-, -, rfl⟩ := (runs_done_pair_iff _ _ _ _ _).1 second
      rfl
  · obtain ⟨-, -, rfl⟩ := (runs_done_pair_iff _ _ _ _ _).1 run
    rfl
  · obtain ⟨-, -, rfl⟩ := (runs_done_pair_iff _ _ _ _ _).1 run
    rfl

/-- One thing that is done with a process. -/
theorem keeps_of_runs_perform {use : ProcessAction} {reply : ProcessReply use}
    (run : Runs (process.perform use) exchanges (reply, after)) :
    Keeps process exchanges after := by
  cases use with
  | spawn => exact keeps_of_runs_spawn run
  | ensureRunning =>
    refine ⟨.of_avoids (process.avoids_ensureRunning.mono fun _ => isSpawn_of_isForeign) run,
      fun command held => ?_⟩
    rw [← held, command_of_runs_ensureRunning run]
  | waitUntilListening policy =>
    refine ⟨.of_avoids (process.avoids_waitUntilListening policy) run, fun command held => ?_⟩
    rcases runs_waitUntilListening_cases run with ⟨rfl, -⟩ | ⟨own, running, asking, -⟩
    · exact held
    · rw [← held, command_of_runs_ensureRunning asking]
  | stop =>
    have stopping := (runs_state_iff _ _ _ _).1 run
    refine ⟨.of_avoids (process.avoids_stop.mono fun _ => isSpawn_of_isForeign) stopping,
      fun command held => ?_⟩
    unfold stop at stopping
    split at stopping
    · obtain ⟨-, rfl⟩ := (runs_done_iff _ _ _).1 stopping
      exact held
    · obtain ⟨_, -, rfl⟩ := (runs_bind_done_iff _ _ _ _).1 stopping
      cases held

/-- Whatever is done with a process, it spawns the command that it holds and no other. -/
theorem keeps_of_lived {own : List (Exchange ProcessAction ProcessReply)}
    (lived : Lived process own exchanges after) : Keeps process exchanges after := by
  induction lived with
  | nil process => exact .nothing rfl
  | cons use reply own before others process next final first rest inductionHypothesis =>
    have now := keeps_of_runs_perform first
    exact ⟨now.spawns.append (inductionHypothesis.spawns.of_left now.left),
      fun command held => now.left command (inductionHypothesis.left command held)⟩

end Process

namespace Manager

variable {manager : Manager} {launch : Launch}

/-- A launch is prepared to the process of its plan, if it has one, and nothing is spawned. -/
theorem runs_prepare_cases {result : Except LaunchError Process}
    (run : Runs (manager.prepare launch) exchanges result) :
    (∃ error, result = .error error ∧ exchanges = []) ∨
      ∃ plan, launch.render = .ok plan ∧ result = .ok (manager.process plan) ∧
        SpawnsOnly none exchanges := by
  unfold prepare at run
  split at run
  case h_1 error isError =>
    obtain ⟨rfl, rfl⟩ := (runs_done_iff _ _ _).1 run
    exact .inl ⟨error, rfl, rfl⟩
  case h_2 plan isPlan =>
    obtain ⟨_, noting, rfl⟩ := (runs_bind_done_iff _ _ _ _).1 run
    exact .inr ⟨plan, isPlan, rfl, .of_avoids (avoids_ask _ rfl) noting⟩

/-- A launch that is started spawns the command of its process and no other. -/
theorem spawnsOnly_of_runs_start {result : Except LaunchError Process}
    (run : Runs (manager.start launch) exchanges result) :
    SpawnsOnly none exchanges ∨ ∃ plan, launch.render = .ok plan ∧
      SpawnsOnly (manager.process plan).stage.command exchanges := by
  obtain ⟨before, prepared, rest, rfl, first, second⟩ := (runs_bind_iff _ _ _ _).1 run
  rcases runs_prepare_cases first with ⟨error, rfl, rfl⟩ | ⟨plan, isPlan, rfl, quiet⟩
  · obtain ⟨rfl, -⟩ := (runs_done_iff _ _ _).1 second
    exact .inl .nil
  · refine .inr ⟨plan, isPlan, (quiet.of_left nofun).append ?_⟩
    obtain ⟨spawning, ⟨spawned, process⟩, dropping, rfl, third, fourth⟩ :=
      (runs_bind_iff _ _ _ _).1 second
    refine (Process.keeps_of_runs_spawn third).spawns.append ?_
    cases spawned with
    | ok done =>
      obtain ⟨rfl, -⟩ := (runs_done_iff _ _ _).1 fourth
      exact .nil
    | error error =>
      obtain ⟨_, left, -⟩ := (runs_bind_done_iff _ _ _ _).1 fourth
      exact .of_avoids (process.avoids_drop.mono fun _ => isSpawn_of_isForeign) left

end Manager

end Testbed
