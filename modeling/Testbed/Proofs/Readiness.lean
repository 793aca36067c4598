/-
This file proves what a readiness check does. It probes again and again until a probe succeeds or
the budget is spent, so that it is never cancelled and never ends with a value that was not good
enough. Each probe is noted once, so that the probes of any work can be counted in its exchanges;
work that checks no readiness is quiet, which means that the count is zero.
-/

import Testbed.Environment.Environment
import Testbed.Proofs.Retrieval

namespace Testbed

open Session

/-! ### Counting probes -/

/-- Whether an action notes the end of an attempt whose value was accepted or whose fetch failed. -/
def notesAttempt : Action → Bool
  | .note event =>
    event.target == "lake.poll" &&
      (event.message == "Condition satisfied" || event.message == "Fetch failed, will retry")
  | _ => false

/-- The number of probes in exchanges, each of which is noted once. -/
def probesIn (exchanges : List (Exchange Action Reply)) : Nat :=
  exchanges.countP fun exchange => notesAttempt exchange.action

@[simp] theorem probesIn_nil : probesIn [] = 0 := rfl

@[simp] theorem probesIn_append (first second : List (Exchange Action Reply)) :
    probesIn (first ++ second) = probesIn first + probesIn second :=
  List.countP_append

theorem probesIn_cons (exchange : Exchange Action Reply) (rest : List (Exchange Action Reply)) :
    probesIn (exchange :: rest) =
      (if notesAttempt exchange.action then 1 else 0) + probesIn rest := by
  unfold probesIn
  rw [List.countP_cons, Nat.add_comm]

/-- Work in which no probe is made. -/
abbrev Quiet {Result : Type} (work : Work Result) : Prop :=
  Avoids notesAttempt work

theorem Quiet.probesIn_eq_zero {Result : Type} {work : Work Result} (quiet : Quiet work)
    {exchanges : List (Exchange Action Reply)} {result : Result}
    (run : Runs work exchanges result) : probesIn exchanges = 0 := by
  refine List.countP_eq_zero.2 fun exchange member => ?_
  rw [quiet exchanges result run exchange member]
  exact Bool.false_ne_true

namespace Poll

variable {Value Failure : Type} {describe : Failure → String}
  {probe : Work (Except Failure Value)} {policy : Policy}
  {exchanges : List (Exchange Testbed.Action Testbed.Reply)}

/-! ### Probing until one probe succeeds -/

/-- The attempt that a fetch of an accepted value or of none is. -/
def Attempt.ofFetched : Except Failure Value → Attempt Value Failure
  | .ok value => .accepted value
  | .error failure => .failed failure

/-- Probes were made in these exchanges: some that failed, and a last one. -/
def Probed (describe : Failure → String) (probe : Work (Except Failure Value)) (policy : Policy)
    (failures : List Failure) (last : Except Failure Value)
    (exchanges : List (Exchange Testbed.Action Testbed.Reply)) : Prop :=
  Carried (uncancelled probe fun _ => .done true)
    (transcript describe policy.backoff 0 (failures.map .failed ++ [Attempt.ofFetched last]))
    exchanges

/-- Judgements that accept every value do not reject any. -/
theorem judgedIn?_of_carried {own : List (Exchange (Poll.Action Value Failure) Poll.Reply)}
    (carried : Carried (uncancelled probe fun _ => .done true) own exchanges) :
    ∀ judgement ∈ own.filterMap judgedIn?, judgement.2 = true := by
  induction carried with
  | nil =>
    intro judgement member
    cases member
  | cons action reply own before after first rest inductionHypothesis =>
    cases action with
    | judge value =>
      intro judgement member
      rcases List.mem_cons.1 member with rfl | later
      · exact ((runs_done_iff _ _ _).1 first).2
      · exact inductionHypothesis judgement later
    | askCancelled => exact inductionHypothesis
    | fetch => exact inductionHypothesis
    | pause delay => exact inductionHypothesis
    | note event => exact inductionHypothesis

/-- Open attempts that are not rejected failed. -/
theorem exists_failures {history : List (Attempt Value Failure)}
    (opened : ∀ attempted ∈ history, attempted.isOpen = true)
    (judged : ∀ judgement ∈ history.filterMap Attempt.judged?, judgement.2 = true) :
    ∃ failures : List Failure, history = failures.map .failed := by
  induction history with
  | nil => exact ⟨[], rfl⟩
  | cons attempted rest inductionHypothesis =>
    cases attempted with
    | accepted value => exact absurd (opened _ List.mem_cons_self) (by simp [Attempt.isOpen])
    | rejected value => exact absurd (judged _ List.mem_cons_self) (by simp)
    | failed failure =>
      obtain ⟨failures, rfl⟩ := inductionHypothesis
        (fun other member => opened other (List.mem_cons_of_mem _ member)) judged
      exact ⟨failure :: failures, rfl⟩

theorem lastValue_map_failed (failures : List Failure) :
    lastValue (failures.map .failed : List (Attempt Value Failure)) = none := by
  unfold lastValue
  rw [List.filterMap_map]
  simp [Function.comp_def, Attempt.value?]

/-- Probing ends with the first probe that succeeds, or else with the last one of the budget. -/
theorem probed_of_runs_retrieve {outcome : Outcome Value Failure}
    (run : Runs (Poll.retrieve describe probe policy) exchanges outcome) :
    (∃ failures value, failures.length + 1 ≤ policy.attempts ∧
      Probed describe probe policy failures (.ok value) exchanges ∧
      outcome = .satisfied value (UInt32.ofNat (failures.length + 1))) ∨
    ∃ failures failure, failures.length + 1 = policy.attempts ∧
      Probed describe probe policy failures (.error failure) exchanges ∧
      outcome = .failed failure none (UInt32.ofNat policy.attempts) := by
  obtain ⟨history, ends, carried⟩ := (runs_retrieveAccepted_iff _ _ _ _ _ _).1 run
  have judged := judgedIn?_of_carried carried
  rw [transcript_judged] at judged
  cases ends with
  | satisfied earlier value opened within =>
    obtain ⟨failures, rfl⟩ := exists_failures opened fun judgement member =>
      judged judgement (by simp [List.filterMap_append, member])
    rw [List.length_map] at within ⊢
    exact .inl ⟨failures, value, within, carried, rfl⟩
  | failed earlier failure opened spent =>
    obtain ⟨failures, rfl⟩ := exists_failures opened fun judgement member =>
      judged judgement (by simp [List.filterMap_append, member])
    rw [List.length_map] at spent
    rw [lastValue_map_failed]
    exact .inr ⟨failures, failure, spent, carried, rfl⟩
  | exhausted earlier value opened spent =>
    exact absurd (judged (value, false) (by simp [List.filterMap_append, Attempt.judged?]))
      (by simp)

/-! ### Counting the probes of a check -/

/-- Whether a retrieval notes the end of an attempt in an exchange. -/
def notesAttemptIn : Exchange (Poll.Action Value Failure) Poll.Reply → Bool
  | ⟨.note event, _⟩ => notesAttempt (.note event)
  | _ => false

/-- The work that carries a retrieval out notes no attempts besides those of the retrieval, if the
probes are quiet. -/
theorem probesIn_of_carried {own : List (Exchange (Poll.Action Value Failure) Poll.Reply)}
    (quiet : Quiet probe)
    (carried : Carried (uncancelled probe fun _ => .done true) own exchanges) :
    probesIn exchanges = own.countP notesAttemptIn := by
  induction carried with
  | nil => rfl
  | cons action reply own before after first rest inductionHypothesis =>
    rw [probesIn_append, inductionHypothesis, List.countP_cons, Nat.add_comm]
    congr 1
    cases action with
    | askCancelled =>
      obtain ⟨rfl, -⟩ := (runs_done_iff _ _ _).1 first
      rfl
    | fetch => exact quiet.probesIn_eq_zero first
    | judge value =>
      obtain ⟨rfl, -⟩ := (runs_done_iff _ _ _).1 first
      rfl
    | pause delay =>
      obtain ⟨_, slept, -⟩ := (runs_bind_done_iff _ _ _ _).1 first
      rw [(runs_ask_iff _ _ _).1 slept]
      rfl
    | note event =>
      rw [(runs_ask_iff _ _ _).1 first, probesIn_cons]
      rfl

theorem countP_transcript (describe : Failure → String) (backoff : Backoff) (made : Nat)
    (failures : List Failure) (last : Except Failure Value) :
    (transcript describe backoff made
        (failures.map .failed ++ [Attempt.ofFetched last])).countP notesAttemptIn =
      failures.length + 1 := by
  induction failures generalizing made with
  | nil => cases last <;> rfl
  | cons failure rest inductionHypothesis =>
    have continued := inductionHypothesis (made + 1)
    obtain ⟨next, others, same⟩ := List.exists_cons_of_ne_nil
      (List.append_ne_nil_of_right_ne_nil (rest.map Attempt.failed)
        (List.cons_ne_nil (Attempt.ofFetched last) []))
    rw [List.map_cons, List.cons_append, same]
    rw [same] at continued
    rw [List.length_cons, ← continued]
    simp only [transcript, Attempt.exchanges, List.cons_append, List.nil_append, List.countP_cons]
    rfl

/-- A check makes as many probes as its notes tell. -/
theorem Probed.probesIn_eq {failures : List Failure} {last : Except Failure Value}
    (probed : Probed describe probe policy failures last exchanges) (quiet : Quiet probe) :
    probesIn exchanges = failures.length + 1 := by
  rw [probesIn_of_carried quiet probed, countP_transcript]

end Poll

namespace Environment

/-! ### The checks of an environment -/

theorem avoids_send {kind : Action → Bool} (other : ∀ request, kind (.request request) = false)
    (method : Http.Method) (url : String) (parameters headers : List (String × String))
    (body : String) : Avoids kind (Http.send method url parameters headers body) := by
  unfold Http.send
  split
  · exact avoids_done _
  · exact avoids_ask _ (other _)

theorem avoids_seriesSend {kind : Action → Bool}
    (other : ∀ request, kind (.request request) = false) (store : SeriesStore)
    (method : Http.Method) (endpoint : String) (parameters : List (String × String))
    (body : String) : Avoids kind (store.send method endpoint parameters body) := by
  refine (avoids_send other _ _ _ _ _).bind fun sent => ?_
  cases sent with
  | error failure => exact avoids_done _
  | ok response =>
    simp only []
    split <;> exact avoids_done _

/-- What an environment waits for. -/
inductive Check where
  | broker
  | topic (admin : Broker.TopicAdmin) (name : String)
  | relational
  | series (store : SeriesStore)

namespace Check

/-- What a probe that succeeds gives. -/
abbrev Value : Check → Type
  | broker => Unit
  | topic _ _ => Bool
  | relational => RelationalStore
  | series _ => Unit

/-- Why a probe fails. -/
abbrev Failure : Check → Type
  | broker => String
  | topic _ _ => Broker.AdminError
  | relational => RelationalError
  | series _ => SeriesError

/-- The words for the resource that is waited for. -/
def resource : Check → String
  | broker => "event log broker"
  | topic _ name => "topic " ++ name
  | relational => "relational store"
  | series _ => "series store"

/-- The words for the failure of a probe. -/
def describe : (check : Check) → check.Failure → String
  | broker => id
  | topic _ _ => Broker.AdminError.message
  | relational => RelationalError.message
  | series _ => SeriesError.message

/-- One probe. -/
def probe (settings : Settings) : (check : Check) → Work (Except check.Failure check.Value)
  | broker => Environment.probe (firstBroker settings.brokers)
  | topic admin name => admin.createIfAbsent name
  | relational => RelationalStore.connect settings.relational
  | series store => store.health

/-- The check made its probes in these exchanges: some that failed, and a last one. -/
def ProbedIn (settings : Settings) (check : Check) (failures : List check.Failure)
    (last : Except check.Failure check.Value) (exchanges : List (Exchange Action Reply)) : Prop :=
  Poll.Probed check.describe (check.probe settings) settings.readiness failures last exchanges

/-- Waits until a probe of the check succeeds. -/
def await (environment : Environment) (check : Check) :
    Work (Except ProvisioningError check.Value) :=
  environment.untilReady check.resource check.describe (check.probe environment.settings)

theorem quiet_probe (settings : Settings) (check : Check) : Quiet (check.probe settings) := by
  cases check with
  | broker =>
    refine (avoids_ask _ rfl).bind fun connection => ?_
    cases connection <;> exact avoids_done _
  | topic admin name =>
    refine (avoids_ask _ rfl).bind fun answer => ?_
    rcases answer with cause | _ | ⟨⟨topic, _ | code⟩, rest⟩
    · exact avoids_done _
    · exact avoids_done _
    · exact (avoids_ask _ rfl).bind fun _ => avoids_done _
    · simp only []
      split
      · exact (avoids_ask _ rfl).bind fun _ => avoids_done _
      · exact avoids_done _
  | relational =>
    show Quiet (RelationalStore.connect settings.relational)
    unfold RelationalStore.connect
    split
    · refine (avoids_ask _ rfl).bind fun opened => ?_
      cases opened <;> exact avoids_done _
    · exact avoids_done _
  | series store =>
    refine (avoids_seriesSend (fun _ => rfl) _ _ _ _ _).bind fun answered => ?_
    cases answered <;> exact avoids_done _

end Check

/-- Waiting for a resource ends with the first probe that succeeds, which is noted, or else with an
error that tells the size of the budget and the failure of its last probe. -/
theorem runs_await {environment : Environment} {check : Check}
    {exchanges : List (Exchange Action Reply)} {result : Except ProvisioningError check.Value}
    (run : Runs (check.await environment) exchanges result) :
    (∃ failures value probes, failures.length + 1 ≤ environment.settings.readiness.attempts ∧
      check.ProbedIn environment.settings failures (.ok value) probes ∧
      exchanges = probes ++ [noted .debug "lake.env" "Resource ready"
        [("resource", .text check.resource),
          ("attempts", .number (UInt32.ofNat (failures.length + 1)).toNat)]] ∧
      result = .ok value) ∨
    ∃ failures failure, failures.length + 1 = environment.settings.readiness.attempts ∧
      check.ProbedIn environment.settings failures (.error failure) exchanges ∧
      result = .error (.notReady check.resource
        (UInt32.ofNat environment.settings.readiness.attempts) (check.describe failure)) := by
  obtain ⟨probes, outcome, after, rfl, first, second⟩ := (runs_bind_iff _ _ _ _).1 run
  rcases Poll.probed_of_runs_retrieve first with
    ⟨failures, value, within, probed, rfl⟩ | ⟨failures, failure, spent, probed, rfl⟩
  · obtain ⟨rfl, rfl⟩ := (runs_note_done_iff _ _ _ _ _ _ _).1 second
    exact .inl ⟨failures, value, probes, within, probed, rfl, rfl⟩
  · obtain ⟨rfl, rfl⟩ := (runs_done_iff _ _ _).1 second
    rw [List.append_nil]
    exact .inr ⟨failures, failure, spent, probed, rfl⟩

end Environment

end Testbed
