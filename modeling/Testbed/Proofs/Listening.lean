/-
This file proves what waiting for the port of a process tells about the process. The port is tried
up to the first connection that is accepted, or as often as the budget allows. Only if none is
accepted is the process asked about, so that an accepted connection tells nothing about it: another
program may hold the port. Otherwise the error tells where the process stands, and that the port did
not open where nothing else is wrong. In no case does the process go on in its life.
-/

import Testbed.Proofs.Lives
import Testbed.Proofs.Readiness

namespace Testbed

open Session Outside

variable {exchanges : List (Exchange Testbed.Action Testbed.Reply)}

/-! ### Attempts to connect -/

/-- The address of an attempt to connect and what became of it, if an exchange is one. -/
def connection? : Exchange Action Reply → Option (String × Connection)
  | ⟨.connect address _, reply⟩ => some (address, reply)
  | _ => none

/-- The attempts to connect in exchanges. -/
def connections (exchanges : List (Exchange Action Reply)) :
    List (String × Connection) :=
  exchanges.filterMap connection?

@[simp] theorem connections_append (first second : List (Exchange Action Reply)) :
    connections (first ++ second) = connections first ++ connections second :=
  List.filterMap_append

/-- What an attempt to connect comes to. -/
def Outside.Connection.result : Connection → Except String Unit
  | .open => .ok ()
  | .failed cause => .error cause
  | .timedOut => .error "connection timed out"

theorem Process.runs_tryConnect_iff (address : String) (result : Except String Unit) :
    Runs (tryConnect address) exchanges result ↔
      ∃ reply, exchanges = [⟨.connect address none, reply⟩] ∧ result = reply.result := by
  constructor
  · intro run
    obtain ⟨reply, rest, rfl, second⟩ := (runs_act_bind_iff _ _ _ _).1 run
    refine ⟨reply, ?_⟩
    cases reply <;> obtain ⟨rfl, rfl⟩ := (runs_done_iff _ _ _).1 second <;> exact ⟨rfl, rfl⟩
  · rintro ⟨reply, rfl, rfl⟩
    refine (runs_act_bind_iff _ _ _ _).2 ⟨reply, [], rfl, ?_⟩
    cases reply <;> exact .done _

/-- The attempts to connect that a budget allows, and whether the last of them was accepted. -/
inductive Tried (policy : Policy) : List Connection → Bool → Prop where
  /-- The last one is the first that was accepted. -/
  | accepted (refused : List Connection) (noneOpen : .open ∉ refused)
      (within : refused.length + 1 ≤ policy.attempts) : Tried policy (refused ++ [.open]) true
  /-- The budget is spent. -/
  | spent (refused : List Connection) (noneOpen : .open ∉ refused)
      (all : refused.length = policy.attempts) : Tried policy refused false

namespace Poll

variable {address : String} {policy : Policy} {outcome : Outcome Unit String}
  {own : List (Exchange (Poll.Action Unit String) Poll.Reply)}

/-- Each fetch of a retrieval that waits for a connection is one attempt to connect. -/
theorem connections_of_carried
    (carried : Carried (uncancelled (Process.tryConnect address) fun _ => .done true) own
      exchanges) :
    ∃ replies : List Connection, own.filterMap fetchedIn? = replies.map Connection.result ∧
      connections exchanges = replies.map (address, ·) := by
  induction carried with
  | nil => exact ⟨[], rfl, rfl⟩
  | cons action reply own before after first rest inductionHypothesis =>
    obtain ⟨replies, fetched, tried⟩ := inductionHypothesis
    rw [connections_append, tried]
    cases action with
    | fetch =>
      obtain ⟨connection, rfl, rfl⟩ := (Process.runs_tryConnect_iff _ _).1 first
      exact ⟨connection :: replies, congrArg (connection.result :: ·) fetched, rfl⟩
    | askCancelled =>
      obtain ⟨rfl, -⟩ := (runs_done_iff _ _ _).1 first
      exact ⟨replies, fetched, rfl⟩
    | judge value =>
      obtain ⟨rfl, -⟩ := (runs_done_iff _ _ _).1 first
      exact ⟨replies, fetched, rfl⟩
    | pause delay =>
      obtain ⟨_, slept, -⟩ := (runs_bind_done_iff _ _ _ _).1 first
      rw [(runs_ask_iff _ _ _).1 slept]
      exact ⟨replies, fetched, rfl⟩
    | note event =>
      rw [(runs_ask_iff _ _ _).1 first]
      exact ⟨replies, fetched, rfl⟩

/-- Any attempts to connect carry the fetches of a retrieval out that come to the same. -/
theorem exists_carried (address : String) (replies : List Connection)
    (goesOn : ∀ exchange ∈ own, tellsCancelled exchange = false)
    (judged : ∀ judgement ∈ own.filterMap judgedIn?, judgement.2 = true)
    (fetched : own.filterMap fetchedIn? = replies.map Connection.result) :
    ∃ exchanges, Carried (uncancelled (Process.tryConnect address) fun _ => .done true) own
        exchanges ∧ connections exchanges = replies.map (address, ·) := by
  induction own generalizing replies with
  | nil =>
    rw [List.filterMap_nil, eq_comm, List.map_eq_nil_iff] at fetched
    exact ⟨[], .nil, by rw [fetched]; rfl⟩
  | cons exchange rest inductionHypothesis =>
    obtain ⟨action, reply⟩ := exchange
    have goesOnLater := fun other member => goesOn other (List.mem_cons_of_mem _ member)
    have isTold := goesOn _ List.mem_cons_self
    cases action with
    | fetch =>
      obtain ⟨connection, others, rfl, rfl, later⟩ := List.map_eq_cons_iff.1 fetched.symm
      obtain ⟨exchanges, carried, tried⟩ := inductionHypothesis _ goesOnLater judged later.symm
      exact ⟨_, .cons _ _ _ _ _ ((Process.runs_tryConnect_iff _ _).2 ⟨connection, rfl, rfl⟩)
        carried, congrArg ((address, connection) :: ·) tried⟩
    | askCancelled =>
      obtain ⟨exchanges, carried, tried⟩ := inductionHypothesis _ goesOnLater judged fetched
      obtain rfl : reply = false := isTold
      exact ⟨_, .cons _ _ _ [] _ (.done _) carried, tried⟩
    | judge value =>
      obtain ⟨exchanges, carried, tried⟩ := inductionHypothesis _ goesOnLater
        (fun judgement member => judged judgement (List.mem_cons_of_mem _ member)) fetched
      obtain rfl : reply = true := judged _ List.mem_cons_self
      exact ⟨_, .cons _ _ _ [] _ (.done _) carried, tried⟩
    | pause delay =>
      obtain ⟨exchanges, carried, tried⟩ := inductionHypothesis _ goesOnLater judged fetched
      cases reply with
      | cancelled => cases isTold
      | elapsed =>
        have slept : Runs ((ask (.sleep delay)).bind fun _ => Session.done Wake.elapsed)
            [⟨.sleep delay, ()⟩] .elapsed := ((runs_ask_iff _ _ _).2 rfl).bind (.done _)
        exact ⟨_, .cons _ _ _ _ _ slept carried, tried⟩
    | note event =>
      obtain ⟨exchanges, carried, tried⟩ := inductionHypothesis _ goesOnLater judged fetched
      have written : Runs (ask (.note event)) [⟨.note event, ()⟩] () := (runs_ask_iff _ _ _).2 rfl
      exact ⟨_, .cons _ _ _ _ _ written carried, tried⟩

/-! ### Waiting for a connection -/

/-- The attempt of a retrieval that an attempt to connect is. -/
def ofConnection (reply : Connection) : Attempt Unit String :=
  .ofFetched reply.result

theorem exists_failed_of_ne_open {reply : Connection} (notOpen : reply ≠ .open) :
    ∃ cause, ofConnection reply = .failed cause := by
  cases reply with
  | «open» => exact absurd rfl notOpen
  | failed cause => exact ⟨cause, rfl⟩
  | timedOut => exact ⟨_, rfl⟩

theorem isOpen_ofConnection_iff (reply : Connection) :
    (ofConnection reply).isOpen = true ↔ reply ≠ .open := by
  cases reply <;> simp [ofConnection, Connection.result, Attempt.ofFetched, Attempt.isOpen]

theorem fetched_ofConnection (reply : Connection) :
    (ofConnection reply).fetched = reply.result := by
  cases reply <;> rfl

theorem opened_iff (replies : List Connection) :
    (∀ attempted ∈ replies.map ofConnection, attempted.isOpen = true) ↔
      .open ∉ replies := by
  simp only [List.forall_mem_map, isOpen_ofConnection_iff]
  exact ⟨fun noneOpen member => noneOpen _ member rfl,
    fun noneOpen reply member isOpen => noneOpen (isOpen ▸ member)⟩

/-- Attempts of which none is rejected are known by their fetches. -/
theorem map_ofFetched {history : List (Attempt Unit String)}
    (judged : ∀ judgement ∈ history.filterMap Attempt.judged?, judgement.2 = true) :
    (history.map Attempt.fetched).map Attempt.ofFetched = history := by
  rw [List.map_map]
  refine (List.map_congr_left fun attempted member => ?_).trans (List.map_id history)
  cases attempted with
  | accepted value => rfl
  | rejected value => cases judged _ (List.mem_filterMap.2 ⟨_, member, rfl⟩)
  | failed failure => rfl

/-- What was tried is what a budget allows. -/
theorem tried_of_runs_retrieve
    (run : Runs (retrieve id (Process.tryConnect address) policy) exchanges outcome) :
    ∃ replies, Tried policy replies outcome.isSatisfied ∧
      connections exchanges = replies.map (address, ·) ∧
      (outcome.isSatisfied = false → outcome.attempts = UInt32.ofNat policy.attempts) := by
  obtain ⟨history, ends, carried⟩ := (runs_retrieveAccepted_iff _ _ _ _ _ _).1 run
  have judged := judgedIn?_of_carried carried
  obtain ⟨replies, fetched, tried⟩ := connections_of_carried carried
  rw [transcript_judged] at judged
  rw [transcript_fetched] at fetched
  refine ⟨replies, ?_, tried, ?_⟩
  · have same : replies.map ofConnection = history := by
      rw [← map_ofFetched judged, fetched, List.map_map]
      rfl
    rw [← same] at ends
    rcases List.eq_nil_or_concat replies with rfl | ⟨earlier, last, rfl⟩
    · exact absurd ends.length_le.1 (Nat.lt_irrefl 0)
    · rw [List.concat_eq_append, List.map_append, List.map_singleton,
        ends_append_singleton_iff, opened_iff] at ends
      obtain ⟨noneOpen, ended⟩ := ends
      rw [List.length_map] at ended
      rw [List.concat_eq_append]
      by_cases isOpen : last = .open
      · rw [isOpen] at ended
        obtain ⟨within, rfl⟩ := ended
        rw [isOpen]
        exact .accepted earlier noneOpen within
      · obtain ⟨cause, failed⟩ := exists_failed_of_ne_open isOpen
        rw [failed] at ended
        obtain ⟨spent, rfl⟩ := ended
        refine .spent _ (fun member => ?_) (List.length_append.trans spent)
        rcases List.mem_append.1 member with before | isLast
        · exact noneOpen before
        · exact isOpen (List.mem_singleton.1 isLast).symm
  · intro short
    cases ends with
    | satisfied earlier value opened within => cases short
    | failed earlier failure opened spent => rfl
    | exhausted earlier value opened spent => rfl

theorem transcript_tellsCancelled {Value Failure : Type} (describe : Failure → String)
    (backoff : Backoff) (made : Nat) (history : List (Attempt Value Failure)) :
    ∀ exchange ∈ transcript describe backoff made history, tellsCancelled exchange = false := by
  fun_induction transcript describe backoff made history with
  | case1 => exact fun exchange member => absurd member List.not_mem_nil
  | case2 made attempted =>
    cases attempted <;> simp [Attempt.exchanges, Attempt.closing, tellsCancelled, noted]
  | case3 made attempted next rest inductionHypothesis =>
    cases attempted <;> simpa [Attempt.exchanges, tellsCancelled, noted] using inductionHypothesis

/-- Whatever a budget allows can be tried. -/
theorem exists_runs_retrieve (address : String) {replies : List Connection} {isAccepted : Bool}
    (tried : Tried policy replies isAccepted) :
    ∃ exchanges outcome,
      Runs (retrieve id (Process.tryConnect address) policy) exchanges outcome ∧
      outcome.isSatisfied = isAccepted ∧ connections exchanges = replies.map (address, ·) := by
  obtain ⟨outcome, ends, same⟩ : ∃ outcome : Outcome Unit String,
      Ends policy.attempts (replies.map ofConnection) outcome ∧
        outcome.isSatisfied = isAccepted := by
    cases tried with
    | accepted refused noneOpen within =>
      rw [← List.length_map ofConnection] at within
      rw [List.map_append]
      exact ⟨_, .satisfied _ () ((opened_iff _).2 noneOpen) within, rfl⟩
    | spent refused noneOpen all =>
      rcases List.eq_nil_or_concat replies with rfl | ⟨earlier, last, rfl⟩
      · exact absurd all (Nat.ne_of_lt (le_max_left 1 _))
      · rw [List.concat_eq_append] at noneOpen all ⊢
        rw [List.mem_append, List.mem_singleton, not_or] at noneOpen
        obtain ⟨cause, failed⟩ := exists_failed_of_ne_open (Ne.symm noneOpen.2)
        have opened := (opened_iff earlier).2 noneOpen.1
        rw [List.length_append, ← List.length_map ofConnection] at all
        rw [List.map_append, List.map_singleton, failed]
        exact ⟨_, .failed _ cause opened all, rfl⟩
  have judged : ∀ judgement ∈ (replies.map ofConnection).filterMap Attempt.judged?,
      judgement.2 = true := by
    intro judgement member
    obtain ⟨attempted, isMember, isJudged⟩ := List.mem_filterMap.1 member
    obtain ⟨reply, -, rfl⟩ := List.mem_map.1 isMember
    cases reply <;> cases isJudged
    rfl
  obtain ⟨exchanges, carried, connected⟩ := exists_carried address replies
    (transcript_tellsCancelled id policy.backoff 0 (replies.map ofConnection))
    (by rw [transcript_judged]; exact judged)
    (by
      rw [transcript_fetched, List.map_map]
      exact List.map_congr_left fun reply _ => fetched_ofConnection reply)
  exact ⟨exchanges, outcome, (runs_retrieveAccepted_iff _ _ _ _ _ _).2 ⟨_, ends, carried⟩, same,
    connected⟩

end Poll

/-! ### Asking whether a process runs -/

namespace Child

/-- The child with what was told of its end. -/
def seeing (child : Child) : Except String (Option ExitStatus) → Child
  | .ok (some status) => { child with ending := some status }
  | _ => child

/-- An end that was seen is not asked for again. -/
theorem runs_observe_iff (child observed : Child) (told : Except String (Option ExitStatus)) :
    Runs child.observe exchanges (told, observed) ↔
      (∃ status, child.ending = some status ∧ exchanges = [] ∧ told = .ok (some status) ∧
        observed = child) ∨
      (child.ending = none ∧ exchanges = [⟨.childStatus child.id, told⟩] ∧
        observed = child.seeing told) := by
  unfold observe
  cases child.ending with
  | some status => simp
  | none =>
    simp only [reduceCtorEq, false_and, exists_false, true_and, false_or]
    constructor
    · intro run
      obtain ⟨reply, rest, rfl, second⟩ := (runs_act_bind_iff _ _ _ _).1 run
      rcases reply with cause | _ | status <;>
        obtain ⟨rfl, rfl, rfl⟩ := (runs_done_pair_iff _ _ _ _ _).1 second <;> exact ⟨rfl, rfl⟩
    · rintro ⟨rfl, rfl⟩
      refine (runs_act_bind_iff _ _ _ _).2 ⟨told, [], rfl, ?_⟩
      rcases told with cause | _ | status <;> exact .done _

end Child

namespace Process

variable {process after : Process} {policy : Policy}

/-- The process with what was seen of its child. -/
def withChild (process : Process) (child : Child) : Process :=
  { process with stage := { process.stage with child := some child } }

theorem withChild_eq {child : Child} (isChild : process.stage.child = some child) :
    process.withChild child = process := by
  unfold withChild
  rw [← isChild]

/-- What is answered about a running process by what is told of its child. -/
def answer (process : Process) : Except String (Option ExitStatus) → Except LaunchError Unit
  | .ok none => .ok ()
  | .ok (some status) => .error (.exited process.role status)
  | .error cause => .error (.unknownStatus process.role cause)

/-- How it is asked whether a process runs: the exchanges, the answer, and the process after
them. -/
inductive Asked (process : Process) :
    List (Exchange Action Reply) → Except LaunchError Unit → Process → Prop where
  | stopped (isStopped : process.stage.phase = .stopped) :
      Asked process [] (.error (.alreadyStopped process.role)) process
  /-- It was not spawned yet. -/
  | unspawned (notStopped : process.stage.phase ≠ .stopped)
      (noChild : process.stage.phase = .running → process.stage.child = none) :
      Asked process [] (.ok ()) process
  /-- The end of its child was seen before. -/
  | seen (child : Child) (status : ExitStatus) (isRunning : process.stage.phase = .running)
      (isChild : process.stage.child = some child) (ended : child.ending = some status) :
      Asked process [] (.error (.exited process.role status)) process
  /-- The operating system is asked for the end of its child. -/
  | queried (child : Child) (told : Except String (Option ExitStatus))
      (isRunning : process.stage.phase = .running) (isChild : process.stage.child = some child)
      (unseen : child.ending = none) :
      Asked process [⟨.childStatus child.id, told⟩] (process.answer told)
        (process.withChild (child.seeing told))

theorem ensureRunning_of_stopped (isStopped : process.stage.phase = .stopped) :
    process.ensureRunning = .done (.error (.alreadyStopped process.role), process) := by
  unfold ensureRunning
  rw [isStopped]
  rfl

theorem ensureRunning_of_unspawned (notStopped : process.stage.phase ≠ .stopped)
    (noChild : process.stage.phase = .running → process.stage.child = none) :
    process.ensureRunning = .done (.ok (), process) := by
  unfold ensureRunning
  split
  case h_1 child isRunning isChild => cases (noChild isRunning).symm.trans isChild
  case h_2 isStopped => exact absurd isStopped notStopped
  case h_3 => rfl

theorem ensureRunning_of_running {child : Child} (isRunning : process.stage.phase = .running)
    (isChild : process.stage.child = some child) :
    process.ensureRunning = child.observe.bind fun observed =>
      .done (process.answer observed.1, process.withChild observed.2) := by
  unfold ensureRunning
  split
  case h_1 other _ isOther =>
    obtain rfl : other = child := Option.some.inj (isOther.symm.trans isChild)
    refine congrArg other.observe.bind (funext fun ⟨told, observed⟩ => ?_)
    rcases told with cause | _ | status <;> rfl
  case h_2 isStopped => cases isStopped.symm.trans isRunning
  case h_3 notRunning => exact absurd isChild (notRunning child isRunning)

theorem runs_ensureRunning_iff (answered : Except LaunchError Unit) :
    Runs process.ensureRunning exchanges (answered, after) ↔
      Asked process exchanges answered after := by
  constructor
  · intro run
    by_cases isStopped : process.stage.phase = .stopped
    · rw [ensureRunning_of_stopped isStopped] at run
      obtain ⟨rfl, rfl, rfl⟩ := (runs_done_pair_iff _ _ _ _ _).1 run
      exact .stopped isStopped
    by_cases noChild : process.stage.phase = .running → process.stage.child = none
    · rw [ensureRunning_of_unspawned isStopped noChild] at run
      obtain ⟨rfl, rfl, rfl⟩ := (runs_done_pair_iff _ _ _ _ _).1 run
      exact .unspawned isStopped noChild
    · obtain ⟨isRunning, hasChild⟩ := Classical.not_imp.1 noChild
      obtain ⟨child, isChild⟩ := Option.ne_none_iff_exists'.1 hasChild
      rw [ensureRunning_of_running isRunning isChild, runs_bind_done_iff] at run
      obtain ⟨⟨told, observed⟩, observing, same⟩ := run
      obtain ⟨rfl, rfl⟩ := Prod.mk.inj same
      rcases (child.runs_observe_iff _ _).1 observing with
        ⟨status, ended, rfl, rfl, rfl⟩ | ⟨unseen, rfl, rfl⟩
      · rw [withChild_eq isChild]
        exact .seen _ status isRunning isChild ended
      · exact .queried child told isRunning isChild unseen
  · intro asked
    cases asked with
    | stopped isStopped =>
      rw [ensureRunning_of_stopped isStopped]
      exact .done _
    | unspawned notStopped noChild =>
      rw [ensureRunning_of_unspawned notStopped noChild]
      exact .done _
    | seen child status isRunning isChild ended =>
      rw [ensureRunning_of_running isRunning isChild, runs_bind_done_iff]
      refine ⟨(.ok (some status), child), ?_, by rw [withChild_eq isChild]; rfl⟩
      exact (child.runs_observe_iff _ _).2 (.inl ⟨status, ended, rfl, rfl, rfl⟩)
    | queried child told isRunning isChild unseen =>
      rw [ensureRunning_of_running isRunning isChild, runs_bind_done_iff]
      exact ⟨_, (child.runs_observe_iff _ _).2 (.inr ⟨unseen, rfl, rfl⟩), rfl⟩

/-- The process is the same, and stands where it stood: at most the end of its child was seen. -/
structure Unmoved (process after : Process) : Prop where
  same : { after with stage := process.stage } = process
  phase : after.stage.phase = process.stage.phase
  command : after.stage.command = process.stage.command
  child : after.stage.child.map Child.id = process.stage.child.map Child.id

theorem Unmoved.refl (process : Process) : Unmoved process process :=
  ⟨rfl, rfl, rfl, rfl⟩

theorem Asked.unmoved {asked : List (Exchange Action Reply)} {answered : Except LaunchError Unit}
    (asking : Asked process asked answered after) : Unmoved process after := by
  cases asking with
  | stopped isStopped => exact .refl _
  | unspawned notStopped noChild => exact .refl _
  | seen child status isRunning isChild ended => exact .refl _
  | queried child told isRunning isChild unseen =>
    refine ⟨rfl, rfl, rfl, ?_⟩
    rw [isChild]
    rcases told with cause | _ | status <;> rfl

/-- Nothing is connected to while it is asked whether a process runs. -/
theorem Asked.connections_eq {asked : List (Exchange Action Reply)}
    {answered : Except LaunchError Unit} (asking : Asked process asked answered after) :
    connections asked = [] := by
  cases asking <;> rfl

/-! ### Waiting for the port of a process -/

/-- The error for a port that did not open, by what is answered about the process. -/
def silent (process : Process) (address : String) (attempts : UInt32) :
    Except LaunchError Unit → LaunchError
  | .error error => error
  | .ok () => .notListening process.role address attempts

theorem waitUntilListening_of_noPort (noPort : process.port = none) :
    process.waitUntilListening policy = .done (.error (.noPort process.role), process) := by
  unfold waitUntilListening
  rw [noPort]
  rfl

/-- The port is tried, and only if it did not open is the process asked about. -/
theorem runs_waitUntilListening_iff {port : UInt16} (isPort : process.port = some port)
    (result : Except LaunchError String) :
    Runs (process.waitUntilListening policy) exchanges (result, after) ↔
      ∃ tries outcome, Runs (Poll.retrieve id (tryConnect (localAddress port)) policy) tries
          outcome ∧
        ((outcome.isSatisfied = true ∧ after = process ∧
            exchanges = tries ++ [noted .debug "lake.process" "Service listening"
              [process.roleField, ("addr", .text (localAddress port))]] ∧
            result = .ok (localAddress port)) ∨
          (outcome.isSatisfied = false ∧ ∃ asked answered, exchanges = tries ++ asked ∧
            Asked process asked answered after ∧
            result = .error (process.silent (localAddress port) outcome.attempts answered))) := by
  unfold waitUntilListening
  rw [isPort]
  simp only [bind_eq, pure_eq, runs_bind_iff]
  constructor
  · rintro ⟨tries, outcome, rest, rfl, trying, following⟩
    refine ⟨tries, outcome, trying, ?_⟩
    cases satisfied : outcome.isSatisfied with
    | true =>
      rw [satisfied, if_pos rfl] at following
      obtain ⟨rfl, same⟩ := (runs_note_done_iff _ _ _ _ _ _ _).1 following
      obtain ⟨rfl, rfl⟩ := Prod.mk.inj same
      exact .inl ⟨rfl, rfl, rfl, rfl⟩
    | false =>
      rw [satisfied, if_neg Bool.false_ne_true] at following
      obtain ⟨asked, ⟨answered, observed⟩, others, rfl, asking, ended⟩ :=
        (runs_bind_iff _ _ _ _).1 following
      rw [runs_ensureRunning_iff] at asking
      refine .inr ⟨rfl, asked, answered, ?_⟩
      cases answered with
      | error error =>
        obtain ⟨rfl, rfl, rfl⟩ := (runs_done_pair_iff _ _ _ _ _).1 ended
        exact ⟨by rw [List.append_nil], asking, rfl⟩
      | ok done =>
        obtain ⟨rfl, rfl, rfl⟩ := (runs_done_pair_iff _ _ _ _ _).1 ended
        refine ⟨by rw [List.append_nil], asking, ?_⟩
        unfold silent
        rw [← asking.unmoved.same]
  · rintro ⟨tries, outcome, trying, ⟨satisfied, rfl, rfl, rfl⟩ |
      ⟨short, asked, answered, rfl, asking, rfl⟩⟩
    · refine ⟨tries, outcome, _, rfl, trying, ?_⟩
      rw [if_pos satisfied]
      exact (runs_note_done_iff _ _ _ _ _ _ _).2 ⟨rfl, rfl⟩
    · refine ⟨tries, outcome, asked, rfl, trying, ?_⟩
      rw [short, if_neg Bool.false_ne_true, ← List.append_nil asked]
      refine ((runs_ensureRunning_iff _).2 asking).bind ?_
      cases answered with
      | error error => exact .done _
      | ok done =>
        unfold silent
        rw [← asking.unmoved.same]
        exact .done _

/-- What was tried while a process is waited for is what a budget allows, and an accepted connection
is all that is waited for. -/
theorem tried_of_runs_waitUntilListening {port : UInt16} {result : Except LaunchError String}
    (isPort : process.port = some port)
    (run : Runs (process.waitUntilListening policy) exchanges (result, after)) :
    ∃ replies, Tried policy replies result.isOk ∧
      connections exchanges = replies.map (localAddress port, ·) := by
  obtain ⟨tries, outcome, trying, ended⟩ := (runs_waitUntilListening_iff isPort _).1 run
  obtain ⟨replies, tried, connected, -⟩ := Poll.tried_of_runs_retrieve trying
  refine ⟨replies, ?_⟩
  rcases ended with ⟨satisfied, rfl, rfl, rfl⟩ | ⟨short, asked, answered, rfl, asking, rfl⟩
  · rw [satisfied] at tried
    rw [connections_append, connected]
    exact ⟨tried, List.append_nil _⟩
  · rw [short] at tried
    rw [connections_append, connected, asking.connections_eq]
    exact ⟨tried, List.append_nil _⟩

/-- A wait that ends well ends with the first connection that is accepted, and only connects, pauses
and notes. -/
theorem accepted_of_runs_waitUntilListening {address : String}
    (run : Runs (process.waitUntilListening policy) exchanges (.ok address, after)) :
    ∃ (port : UInt16) (refused : List Connection),
      process.port = some port ∧ address = localAddress port ∧
      Connection.open ∉ refused ∧ refused.length + 1 ≤ policy.attempts ∧
      connections exchanges = (refused ++ [Connection.open]).map (address, ·) ∧
      (∀ exchange ∈ exchanges, concernsChild exchange.action = false) ∧ after = process := by
  cases isPort : process.port with
  | none =>
    rw [waitUntilListening_of_noPort isPort] at run
    cases ((runs_done_pair_iff _ _ _ _ _).1 run).2.1
  | some port =>
    obtain ⟨replies, tried, connected⟩ := tried_of_runs_waitUntilListening isPort run
    obtain ⟨tries, outcome, trying, ended⟩ := (runs_waitUntilListening_iff isPort _).1 run
    rcases ended with ⟨-, rfl, rfl, same⟩ | ⟨-, _, _, -, -, same⟩
    · cases same
      cases tried with
      | accepted refused noneOpen within =>
        refine ⟨port, refused, rfl, rfl, noneOpen, within, connected, ?_, rfl⟩
        intro exchange member
        rcases List.mem_append.1 member with earlier | last
        · exact avoids_retrieve _ _ _ _ trying exchange earlier
        · rw [List.mem_singleton.1 last]
          rfl
    · cases same

/-- A connection that is accepted is enough. -/
theorem isOk_of_runs_waitUntilListening {result : Except LaunchError String}
    (run : Runs (process.waitUntilListening policy) exchanges (result, after))
    (accepted : ∃ tried ∈ connections exchanges, tried.2 = .open) : result.isOk = true := by
  obtain ⟨tried, member, isOpen⟩ := accepted
  cases isPort : process.port with
  | none =>
    rw [waitUntilListening_of_noPort isPort] at run
    obtain ⟨rfl, -⟩ := (runs_done_pair_iff _ _ _ _ _).1 run
    cases member
  | some port =>
    obtain ⟨replies, allowed, connected⟩ := tried_of_runs_waitUntilListening isPort run
    rw [connected] at member
    obtain ⟨reply, isReply, rfl⟩ := List.mem_map.1 member
    obtain rfl : reply = .open := isOpen
    generalize result.isOk = isAccepted at allowed
    cases allowed with
    | accepted refused noneOpen within => rfl
    | spent refused noneOpen all => exact absurd isReply noneOpen

/-- Wherever the process stands, its port can open at any attempt of the budget. -/
theorem exists_runs_waitUntilListening {port : UInt16} {refused : List Connection}
    (isPort : process.port = some port) (noneOpen : Connection.open ∉ refused)
    (within : refused.length + 1 ≤ policy.attempts) :
    ∃ exchanges,
      Runs (process.waitUntilListening policy) exchanges (.ok (localAddress port), process) ∧
      connections exchanges = (refused ++ [Connection.open]).map (localAddress port, ·) := by
  obtain ⟨tries, outcome, trying, satisfied, connected⟩ :=
    Poll.exists_runs_retrieve (localAddress port) (.accepted refused noneOpen within)
  refine ⟨_, (runs_waitUntilListening_iff isPort _).2
    ⟨_, _, trying, .inl ⟨satisfied, rfl, rfl, rfl⟩⟩, ?_⟩
  rw [connections_append, connected]
  exact List.append_nil _

/-- A wait that ends well had a connection to the port accepted, the last of those tried and the
first that was accepted. It asks nothing about the child and leaves the process as it was, so that
the process runs if it did before, and whether its child does is not known. The other way round, an
accepted connection is enough, wherever the process stands and whatever has become of its child. -/
theorem waitUntilListening_ok_account (process : Process) (policy : Policy) :
    (∀ exchanges address after,
      Runs (process.waitUntilListening policy) exchanges (.ok address, after) →
        ∃ (port : UInt16) (refused : List Connection),
          process.port = some port ∧ address = localAddress port ∧
          Connection.open ∉ refused ∧ refused.length + 1 ≤ policy.attempts ∧
          connections exchanges = (refused ++ [Connection.open]).map (address, ·) ∧
          (∀ exchange ∈ exchanges, concernsChild exchange.action = false) ∧ after = process) ∧
    (∀ exchanges result after, Runs (process.waitUntilListening policy) exchanges (result, after) →
      (∃ tried ∈ connections exchanges, tried.2 = .open) → result.isOk = true) ∧
    ∀ (port : UInt16) (refused : List Connection), process.port = some port →
      Connection.open ∉ refused → refused.length + 1 ≤ policy.attempts →
        ∃ exchanges, Runs (process.waitUntilListening policy) exchanges
            (.ok (localAddress port), process) ∧
          connections exchanges = (refused ++ [Connection.open]).map (localAddress port, ·) :=
  ⟨fun _ _ _ run => accepted_of_runs_waitUntilListening run,
    fun _ _ _ run accepted => isOk_of_runs_waitUntilListening run accepted,
    fun _ _ isPort noneOpen within => exists_runs_waitUntilListening isPort noneOpen within⟩

/-- A router whose child has the number seven. -/
def router : Process where
  role := .queryRouter
  path := "query-router"
  bindings := .empty
  arguments := []
  port := some 50103
  stage := .running { id := 7 }

/-- The second connection to a running process is accepted. -/
theorem waitUntilListening_ok_account_second :
    router.port = some 50103 ∧
    [Connection.failed "refused"].length + 1 ≤ (Policy.fixed 3 (.ofSeconds 1)).attempts ∧
    ∃ exchanges,
      Runs (router.waitUntilListening (.fixed 3 (.ofSeconds 1))) exchanges
        (.ok (localAddress 50103), router) ∧
      connections exchanges =
        [(localAddress 50103, .failed "refused"), (localAddress 50103, .open)] ∧
      ∀ exchange ∈ exchanges, concernsChild exchange.action = false := by
  obtain ⟨whenOk, -, possible⟩ := waitUntilListening_ok_account router (.fixed 3 (.ofSeconds 1))
  obtain ⟨exchanges, run, connected⟩ :=
    possible 50103 [.failed "refused"] rfl (by simp) (by decide)
  obtain ⟨-, -, -, -, -, -, -, nothingAsked, -⟩ := whenOk _ _ _ run
  exact ⟨rfl, by decide, exchanges, run, connected, nothingAsked⟩

theorem exists_lived_cons {use : ProcessAction} {reply : ProcessReply use}
    {own : List (Exchange ProcessAction ProcessReply)} (next : Process)
    (first : ∃ before, Runs (process.perform use) before (reply, next))
    (rest : ∃ others, Lived next own others after) :
    ∃ during, Lived process (⟨use, reply⟩ :: own) during after := by
  obtain ⟨before, run⟩ := first
  obtain ⟨others, lived⟩ := rest
  exact ⟨_, .cons _ _ _ _ _ _ _ _ run lived⟩

/-- The port of a service is held by another program. It is waited for with success after the child
was seen to have ended, and again after the process was stopped. -/
theorem waitUntilListening_ok_of_stopped :
    let wait : ProcessAction := .waitUntilListening (.fixed 1 (.ofMilliseconds 1))
    let plan : Plan :=
      { role := .queryRouter, bindings := .empty, arguments := [], port := some 65504 }
    ∃ (preparing during : List (Exchange Action Reply)) (after : Process),
      Runs ((Manager.mk {}).prepare
        { role := .queryRouter, fragments := [], port := some 65504 }) preparing
        (.ok ((Manager.mk {}).process plan)) ∧
      Lived ((Manager.mk {}).process plan)
        [⟨.spawn, .ok ()⟩, ⟨.ensureRunning, .error (.exited .queryRouter (.code 3))⟩,
          ⟨wait, .ok (localAddress 65504)⟩,
          ⟨.ensureRunning, .error (.exited .queryRouter (.code 3))⟩, ⟨.stop, ()⟩,
          ⟨wait, .ok (localAddress 65504)⟩,
          ⟨.ensureRunning, .error (.alreadyStopped .queryRouter)⟩]
        during after ∧
      after.stage.phase = .stopped := by
  intro wait plan
  let created : Process := (Manager.mk {}).process plan
  let running : Process := { created with stage := .running { id := 7 } }
  let ended : Process := running.withChild { id := 7, ending := some (.code 3) }
  let stopped : Process := { created with stage := .stopped }
  obtain ⟨preparing, prepared⟩ : ∃ preparing, Runs ((Manager.mk {}).prepare
      { role := .queryRouter, fragments := [], port := some 65504 }) preparing (.ok created) :=
    exists_runs_act () ⟨[], .done _⟩
  suffices lives : ∃ during, Lived created _ during stopped from
    let ⟨during, lived⟩ := lives
    ⟨preparing, during, stopped, prepared, lived, rfl⟩
  refine exists_lived_cons running (exists_runs_act (.ok 7) (exists_runs_act () ⟨[], .done _⟩)) ?_
  refine exists_lived_cons ended (exists_runs_act (.ok (some (.code 3))) ⟨[], .done _⟩) ?_
  refine exists_lived_cons ended
    (exists_runs_act .open (exists_runs_act () (exists_runs_act () ⟨[], .done _⟩))) ?_
  refine exists_lived_cons ended ⟨[], .done _⟩ ?_
  refine exists_lived_cons stopped (exists_runs_act () ⟨[], .done _⟩) ?_
  refine exists_lived_cons stopped
    (exists_runs_act .open (exists_runs_act () (exists_runs_act () ⟨[], .done _⟩))) ?_
  refine exists_lived_cons stopped ⟨[], .done _⟩ ?_
  exact ⟨[], .nil _⟩

/-- A wait for a port that ends with an error tried to connect as often as its budget allows, each
time in vain, and then asked about the process. -/
theorem refused_of_runs_waitUntilListening {port : UInt16} {error : LaunchError}
    (isPort : process.port = some port)
    (run : Runs (process.waitUntilListening policy) exchanges (.error error, after)) :
    ∃ (refused : List Connection) (tries asked : List (Exchange Action Reply))
        (answered : Except LaunchError Unit), exchanges = tries ++ asked ∧
      Connection.open ∉ refused ∧ refused.length = policy.attempts ∧
      connections tries = refused.map (localAddress port, ·) ∧ connections asked = [] ∧
      Asked process asked answered after ∧
      error = process.silent (localAddress port) (UInt32.ofNat policy.attempts) answered := by
  obtain ⟨tries, outcome, trying, ended⟩ := (runs_waitUntilListening_iff isPort _).1 run
  rcases ended with ⟨-, -, -, same⟩ | ⟨short, asked, answered, rfl, asking, same⟩
  · cases same
  · cases same
    obtain ⟨replies, tried, connected, attempts⟩ := Poll.tried_of_runs_retrieve trying
    rw [short] at tried
    rw [attempts short]
    cases tried with
    | spent refused noneOpen all =>
      exact ⟨replies, tries, asked, answered, rfl, noneOpen, all, connected,
        asking.connections_eq, asking, rfl⟩

/-- Wherever the process stands, its port can stay closed, and what is then asked about the process
makes the error. -/
theorem exists_runs_waitUntilListening_refused {port : UInt16} {refused : List Connection}
    {asked : List (Exchange Action Reply)} {answered : Except LaunchError Unit}
    (isPort : process.port = some port) (noneOpen : Connection.open ∉ refused)
    (all : refused.length = policy.attempts) (asking : Asked process asked answered after) :
    ∃ tries,
      Runs (process.waitUntilListening policy) (tries ++ asked)
        (.error (process.silent (localAddress port) (UInt32.ofNat policy.attempts) answered),
          after) ∧
      connections tries = refused.map (localAddress port, ·) := by
  obtain ⟨tries, outcome, trying, short, connected⟩ :=
    Poll.exists_runs_retrieve (localAddress port) (.spent refused noneOpen all)
  obtain ⟨-, -, -, attempts⟩ := Poll.tried_of_runs_retrieve trying
  refine ⟨tries, (runs_waitUntilListening_iff isPort _).2
    ⟨_, _, trying, .inr ⟨short, asked, answered, rfl, asking, ?_⟩⟩, connected⟩
  rw [attempts short]

/-- No wait moves a process. -/
theorem unmoved_of_runs_waitUntilListening {result : Except LaunchError String}
    (run : Runs (process.waitUntilListening policy) exchanges (result, after)) :
    Unmoved process after := by
  cases isPort : process.port with
  | none =>
    rw [waitUntilListening_of_noPort isPort] at run
    obtain ⟨-, -, rfl⟩ := (runs_done_pair_iff _ _ _ _ _).1 run
    exact .refl _
  | some port =>
    obtain ⟨tries, outcome, -, ended⟩ := (runs_waitUntilListening_iff isPort _).1 run
    rcases ended with ⟨-, rfl, -, -⟩ | ⟨-, asked, answered, -, asking, -⟩
    · exact .refl _
    · exact asking.unmoved

/-- A process without a port is not waited for, and nothing is connected to. Otherwise a wait that
ends with an error tried to connect as often as its budget allows, each time in vain, and then asked
about the process: the error is that of a stopped process, of one whose child has ended or of one
whose child is not known of, if it is one, and else that the port did not open. All these waits are
possible. No wait moves the process. -/
theorem waitUntilListening_refused_account (process : Process) (policy : Policy) :
    (process.port = none →
      process.waitUntilListening policy = .done (.error (.noPort process.role), process)) ∧
    (∀ port, process.port = some port →
      (∀ exchanges error after,
        Runs (process.waitUntilListening policy) exchanges (.error error, after) →
          ∃ (refused : List Connection) (tries asked : List (Exchange Action Reply))
              (answered : Except LaunchError Unit), exchanges = tries ++ asked ∧
            Connection.open ∉ refused ∧ refused.length = policy.attempts ∧
            connections tries = refused.map (localAddress port, ·) ∧ connections asked = [] ∧
            Asked process asked answered after ∧
            error = process.silent (localAddress port) (UInt32.ofNat policy.attempts) answered) ∧
      ∀ (refused : List Connection) asked answered after, Connection.open ∉ refused →
        refused.length = policy.attempts → Asked process asked answered after →
          ∃ tries, Runs (process.waitUntilListening policy) (tries ++ asked)
              (.error (process.silent (localAddress port) (UInt32.ofNat policy.attempts) answered),
                after) ∧
            connections tries = refused.map (localAddress port, ·)) ∧
    (UInt32.ofNat policy.attempts).toNat = policy.attempts ∧
    ∀ exchanges result after, Runs (process.waitUntilListening policy) exchanges (result, after) →
      Unmoved process after :=
  ⟨waitUntilListening_of_noPort, fun _ isPort =>
      ⟨fun _ _ _ run => refused_of_runs_waitUntilListening isPort run,
        fun _ _ _ _ noneOpen all asking =>
          exists_runs_waitUntilListening_refused isPort noneOpen all asking⟩,
    UInt32.toNat_ofNat_of_lt' policy.attempts_lt,
    fun _ _ _ run => unmoved_of_runs_waitUntilListening run⟩

/-- Two connections fail, and the child is then told to have ended. -/
theorem waitUntilListening_refused_account_ended :
    router.port = some 50103 ∧
    ∃ exchanges, Runs (router.waitUntilListening (.fixed 2 (.ofSeconds 1))) exchanges
        (.error (.exited .queryRouter (.code 3)),
          router.withChild { id := 7, ending := some (.code 3) }) ∧
      (connections exchanges).length = 2 ∧
      Unmoved router (router.withChild { id := 7, ending := some (.code 3) }) := by
  obtain ⟨-, withPort, -, unmoved⟩ :=
    waitUntilListening_refused_account router (.fixed 2 (.ofSeconds 1))
  obtain ⟨tries, run, connected⟩ := (withPort 50103 rfl).2 [.failed "refused", .failed "refused"] _
    _ _ (by simp) rfl (.queried { id := 7 } (.ok (some (.code 3))) rfl rfl rfl)
  refine ⟨rfl, _, run, ?_, unmoved _ _ _ run⟩
  rw [connections_append, connected]
  rfl

end Process

end Testbed
