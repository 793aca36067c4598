/-
This file proves what a retrieval does, above all one that nothing cancels. The attempts it makes
are its history: all but the last are open, which means failed or rejected, and the last one is
accepted or spends the budget, unless the retrieval is cancelled after an open one. The history
fixes how the retrieval ends, and every exchange on the way: one fetch an attempt, one judgement a
fetched value, one pause between two attempts. The induction is on the attempts that are left, and
its invariant is that the number of attempts and the remembered value that the loop passes on are
those of the history so far.
-/

import Mathlib.Order.Lattice
import Testbed.Poll.Work
import Testbed.Proofs.Runs

namespace Testbed

/-- The attempts of a budget can be counted in 32 bits. -/
theorem Policy.attempts_lt (policy : Policy) : policy.attempts < UInt32.size :=
  max_lt (by decide) policy.maxAttempts.toNat_lt_size

namespace Poll

open Session

variable {Value Failure : Type}

/-! ### Histories -/

namespace Attempt

/-- What the fetch of an attempt gave. -/
def fetched : Attempt Value Failure → Except Failure Value
  | accepted value => .ok value
  | rejected value => .ok value
  | failed failure => .error failure

/-- The value that an attempt fetched. -/
def value? : Attempt Value Failure → Option Value
  | accepted value => some value
  | rejected value => some value
  | failed _ => none

/-- The value that an attempt judged, and the verdict. -/
def judged? : Attempt Value Failure → Option (Value × Bool)
  | accepted value => some (value, true)
  | rejected value => some (value, false)
  | failed _ => none

/-- Why the fetch of an attempt failed. -/
def failure? : Attempt Value Failure → Option Failure
  | failed failure => some failure
  | _ => none

/-- Whether a retrieval may go on after an attempt. -/
def isOpen : Attempt Value Failure → Bool
  | accepted _ => false
  | _ => true

end Attempt

/-- The value that was fetched last in a history, if any fetch gave one. -/
def lastValue (history : List (Attempt Value Failure)) : Option Value :=
  (history.filterMap Attempt.value?).getLast?

/-- How a retrieval with a budget of attempts ends after a history that nothing cancelled. -/
inductive Ends (budget : Nat) :
    List (Attempt Value Failure) → Outcome Value Failure → Prop where
  /-- The last attempt is the first that was accepted, within the budget. -/
  | satisfied (earlier : List (Attempt Value Failure)) (value : Value)
      (opened : ∀ attempted ∈ earlier, attempted.isOpen = true)
      (within : earlier.length + 1 ≤ budget) :
      Ends budget (earlier ++ [.accepted value])
        (.satisfied value (UInt32.ofNat (earlier.length + 1)))
  /-- The budget is spent, and its last fetch failed. -/
  | failed (earlier : List (Attempt Value Failure)) (failure : Failure)
      (opened : ∀ attempted ∈ earlier, attempted.isOpen = true)
      (spent : earlier.length + 1 = budget) :
      Ends budget (earlier ++ [.failed failure])
        (.failed failure (lastValue earlier) (UInt32.ofNat budget))
  /-- The budget is spent, and the value of its last fetch was rejected. -/
  | exhausted (earlier : List (Attempt Value Failure)) (value : Value)
      (opened : ∀ attempted ∈ earlier, attempted.isOpen = true)
      (spent : earlier.length + 1 = budget) :
      Ends budget (earlier ++ [.rejected value])
        (.exhausted (some value) (UInt32.ofNat budget))

@[simp] theorem lastValue_nil : lastValue ([] : List (Attempt Value Failure)) = none := rfl

@[simp] theorem lastValue_append_singleton (history : List (Attempt Value Failure))
    (attempted : Attempt Value Failure) :
    lastValue (history ++ [attempted]) = attempted.value?.or (lastValue history) := by
  unfold lastValue
  rw [List.filterMap_append]
  cases attempted <;> simp [Attempt.value?]

/-- The last value is that of the last fetch that gave one. -/
theorem lastValue_eq (history : List (Attempt Value Failure)) :
    lastValue history = ((history.map Attempt.fetched).filterMap Except.toOption).getLast? := by
  unfold lastValue
  rw [List.filterMap_map]
  congr 2
  funext attempted
  cases attempted <;> rfl

theorem opened_append_singleton {history : List (Attempt Value Failure)}
    {attempted : Attempt Value Failure} (opened : ∀ other ∈ history, other.isOpen = true)
    (isOpen : attempted.isOpen = true) :
    ∀ other ∈ history ++ [attempted], other.isOpen = true := by
  intro other member
  rcases List.mem_append.1 member with earlier | last
  · exact opened other earlier
  · rw [List.mem_singleton.1 last]
    exact isOpen

/-- A history that ends a retrieval has an attempt at least and is no longer than the budget. -/
theorem Ends.length_le {budget : Nat} {history : List (Attempt Value Failure)}
    {outcome : Outcome Value Failure} (ends : Ends budget history outcome) :
    0 < history.length ∧ history.length ≤ budget := by
  cases ends with
  | satisfied earlier value opened within => simpa using within
  | failed earlier failure opened spent => simp [← spent]
  | exhausted earlier value opened spent => simp [← spent]

/-- How a retrieval ends is fixed by its last attempt, as long as all attempts before it are
open. -/
theorem ends_append_singleton_iff (budget : Nat) (earlier : List (Attempt Value Failure))
    (attempted : Attempt Value Failure) (outcome : Outcome Value Failure) :
    Ends budget (earlier ++ [attempted]) outcome ↔
      (∀ other ∈ earlier, other.isOpen = true) ∧
        match attempted with
        | .accepted value => earlier.length + 1 ≤ budget ∧
          outcome = .satisfied value (UInt32.ofNat (earlier.length + 1))
        | .rejected value => earlier.length + 1 = budget ∧
          outcome = .exhausted (some value) (UInt32.ofNat budget)
        | .failed failure => earlier.length + 1 = budget ∧
          outcome = .failed failure (lastValue earlier) (UInt32.ofNat budget) := by
  constructor
  · intro ends
    generalize same : earlier ++ [attempted] = history at ends
    cases ends with
    | satisfied before value opened within =>
      obtain ⟨rfl, last⟩ := List.append_inj' same rfl
      cases last
      exact ⟨opened, within, rfl⟩
    | failed before failure opened spent =>
      obtain ⟨rfl, last⟩ := List.append_inj' same rfl
      cases last
      exact ⟨opened, spent, rfl⟩
    | exhausted before value opened spent =>
      obtain ⟨rfl, last⟩ := List.append_inj' same rfl
      cases last
      exact ⟨opened, spent, rfl⟩
  · rintro ⟨opened, last⟩
    cases attempted with
    | accepted value =>
      obtain ⟨within, rfl⟩ := last
      exact .satisfied earlier value opened within
    | rejected value =>
      obtain ⟨spent, rfl⟩ := last
      exact .exhausted earlier value opened spent
    | failed failure =>
      obtain ⟨spent, rfl⟩ := last
      exact .failed earlier failure opened spent

/-- The attempts before others in a history that ends a retrieval are open. -/
theorem Ends.opened {budget : Nat} {earlier others : List (Attempt Value Failure)}
    {next : Attempt Value Failure} {outcome : Outcome Value Failure}
    (ends : Ends budget (earlier ++ next :: others) outcome) :
    ∀ attempted ∈ earlier, attempted.isOpen = true := by
  rcases List.eq_nil_or_concat others with rfl | ⟨init, last, rfl⟩
  · exact ((ends_append_singleton_iff _ _ _ _).1 ends).1
  · rw [List.concat_eq_append, ← List.cons_append, ← List.append_assoc] at ends
    intro attempted member
    exact ((ends_append_singleton_iff _ _ _ _).1 ends).1 attempted (List.mem_append_left _ member)

/-- The attempts that an outcome tells are those of the history, if the budget fits in 32 bits. -/
theorem Ends.attempts_eq {budget : Nat} {history : List (Attempt Value Failure)}
    {outcome : Outcome Value Failure} (ends : Ends budget history outcome)
    (fits : budget < UInt32.size) : outcome.attempts.toNat = history.length := by
  cases ends with
  | satisfied earlier value opened within =>
    simp only [Outcome.attempts, List.length_append, List.length_singleton]
    exact UInt32.toNat_ofNat_of_lt' (Nat.lt_of_le_of_lt within fits)
  | failed earlier failure opened spent =>
    simp only [Outcome.attempts, List.length_append, List.length_singleton, spent]
    exact UInt32.toNat_ofNat_of_lt' fits
  | exhausted earlier value opened spent =>
    simp only [Outcome.attempts, List.length_append, List.length_singleton, spent]
    exact UInt32.toNat_ofNat_of_lt' fits

/-- A history of open attempts ends a retrieval only if it spends the budget. -/
theorem Ends.length_eq_of_isOpen {budget : Nat} {history : List (Attempt Value Failure)}
    {outcome : Outcome Value Failure} (ends : Ends budget history outcome)
    (opened : ∀ attempted ∈ history, attempted.isOpen = true) : history.length = budget := by
  cases ends with
  | satisfied earlier value _ within =>
    cases opened _ (List.mem_append_right _ List.mem_cons_self)
  | failed earlier failure _ spent => rw [List.length_append, List.length_singleton, spent]
  | exhausted earlier value _ spent => rw [List.length_append, List.length_singleton, spent]

/-- A history ends a retrieval in one way. -/
theorem Ends.unique {budget : Nat} {history : List (Attempt Value Failure)}
    {first second : Outcome Value Failure} (firstEnds : Ends budget history first)
    (secondEnds : Ends budget history second) : first = second := by
  rcases List.eq_nil_or_concat history with rfl | ⟨earlier, last, rfl⟩
  · exact absurd firstEnds.length_le.1 (Nat.lt_irrefl 0)
  · rw [List.concat_eq_append, ends_append_singleton_iff] at firstEnds secondEnds
    cases last with
    | accepted value => rw [firstEnds.2.2, secondEnds.2.2]
    | rejected value => rw [firstEnds.2.2, secondEnds.2.2]
    | failed failure => rw [firstEnds.2.2, secondEnds.2.2]

/-- No attempt follows a history that ends a retrieval. -/
theorem Ends.eq_of_isPrefix {budget : Nat} {first second : List (Attempt Value Failure)}
    {firstOutcome secondOutcome : Outcome Value Failure}
    (firstEnds : Ends budget first firstOutcome) (secondEnds : Ends budget second secondOutcome)
    (isBefore : first <+: second) :
    first = second := by
  obtain ⟨_ | ⟨next, others⟩, rfl⟩ := isBefore
  · exact (List.append_nil first).symm
  · have spent := firstEnds.length_eq_of_isOpen secondEnds.opened
    have within := secondEnds.length_le.2
    rw [List.length_append, List.length_cons] at within
    omega

/-- A retrieval that nothing cancels does not end as cancelled. -/
theorem Ends.ne_cancelled {budget : Nat} {history : List (Attempt Value Failure)}
    {outcome : Outcome Value Failure} (ends : Ends budget history outcome)
    (last : Option Value) (attempts : UInt32) : outcome ≠ .cancelled last attempts := by
  cases ends <;> simp

/-! ### Transcripts -/

/-- The exchange in which a retrieval writes an event. -/
def noted (level : Level) (message : String) (fields : List (String × FieldValue)) :
    Exchange (Poll.Action Value Failure) Poll.Reply :=
  ⟨.note { level, target := "lake.poll", message, fields }, ()⟩

namespace Attempt

/-- The exchanges of the attempt of a number. -/
def exchanges (describe : Failure → String) (number : Nat) :
    Attempt Value Failure → List (Exchange (Poll.Action Value Failure) Poll.Reply)
  | accepted value => [⟨.fetch, .ok value⟩, ⟨.judge value, true⟩]
  | rejected value => [⟨.fetch, .ok value⟩, ⟨.judge value, false⟩]
  | failed failure =>
    [⟨.fetch, .error failure⟩,
      noted .debug "Fetch failed, will retry"
        [("attempt", .number (UInt32.ofNat number).toNat), ("error", .text (describe failure))]]

/-- The exchange in which a retrieval ends with the attempt of a number. -/
def closing (describe : Failure → String) (number : Nat) :
    Attempt Value Failure → Exchange (Poll.Action Value Failure) Poll.Reply
  | accepted _ => noted .debug "Condition satisfied" [attemptsField (UInt32.ofNat number)]
  | rejected _ => noted .warn "Polling exhausted" [attemptsField (UInt32.ofNat number)]
  | failed failure =>
    noted .warn "Polling failed on final attempt"
      [attemptsField (UInt32.ofNat number), ("error", .text (describe failure))]

end Attempt

/-- The exchanges of the attempts of a history after those made, in a retrieval that nothing cancels
and that ends with the last of them. -/
def transcript (describe : Failure → String) (backoff : Backoff) :
    (made : Nat) → List (Attempt Value Failure) →
      List (Exchange (Poll.Action Value Failure) Poll.Reply)
  | _, [] => []
  | made, [attempted] =>
    ⟨.askCancelled, false⟩ ::
      (attempted.exchanges describe (made + 1) ++ [attempted.closing describe (made + 1)])
  | made, attempted :: next :: rest =>
    ⟨.askCancelled, false⟩ ::
      (attempted.exchanges describe (made + 1) ++
        ⟨.pause (backoff.delayAfter (UInt32.ofNat (made + 1))), .elapsed⟩ ::
          transcript describe backoff (made + 1) (next :: rest))

/-- Whether an exchange tells a retrieval that it is cancelled. -/
def tellsCancelled : Exchange (Poll.Action Value Failure) Poll.Reply → Bool
  | ⟨.askCancelled, reply⟩ => reply
  | ⟨.pause _, reply⟩ => reply = Wake.cancelled
  | _ => false

/-- The exchanges of the open attempts of a history after those made, in a retrieval that is
cancelled after the last of them: it asks and is told so, or its pause ends early. -/
inductive Interrupted (describe : Failure → String) (backoff : Backoff) :
    Nat → List (Attempt Value Failure) →
      List (Exchange (Poll.Action Value Failure) Poll.Reply) → Prop where
  | asked (made : Nat) :
      Interrupted describe backoff made []
        [⟨.askCancelled, true⟩,
          noted .debug "Polling cancelled" [attemptsField (UInt32.ofNat made)]]
  | paused (made : Nat) (attempted : Attempt Value Failure) :
      Interrupted describe backoff made [attempted]
        (⟨.askCancelled, false⟩ ::
          (attempted.exchanges describe (made + 1) ++
            [⟨.pause (backoff.delayAfter (UInt32.ofNat (made + 1))), .cancelled⟩,
              noted .debug "Polling cancelled" [attemptsField (UInt32.ofNat (made + 1))]]))
  | later (made : Nat) (attempted : Attempt Value Failure) (rest : List (Attempt Value Failure))
      (own : List (Exchange (Poll.Action Value Failure) Poll.Reply))
      (interrupted : Interrupted describe backoff (made + 1) rest own) :
      Interrupted describe backoff made (attempted :: rest)
        (⟨.askCancelled, false⟩ ::
          (attempted.exchanges describe (made + 1) ++
            ⟨.pause (backoff.delayAfter (UInt32.ofNat (made + 1))), .elapsed⟩ :: own))

/-! ### What a transcript shows -/

/-- What a fetch gave, if an exchange is one. -/
def fetchedIn? : Exchange (Poll.Action Value Failure) Poll.Reply → Option (Except Failure Value)
  | ⟨.fetch, reply⟩ => some reply
  | _ => none

/-- The judged value and the verdict, if an exchange is a judgement. -/
def judgedIn? : Exchange (Poll.Action Value Failure) Poll.Reply → Option (Value × Bool)
  | ⟨.judge value, verdict⟩ => some (value, verdict)
  | _ => none

/-- The exchanges of a retrieval that are no notes and no questions about cancellation. -/
inductive Landmark (Value : Type) where
  | fetched
  | judged (value : Value)
  | paused (delay : Duration)

/-- The landmark that an exchange is. -/
def landmark? : Exchange (Poll.Action Value Failure) Poll.Reply → Option (Landmark Value)
  | ⟨.fetch, _⟩ => some .fetched
  | ⟨.judge value, _⟩ => some (.judged value)
  | ⟨.pause delay, _⟩ => some (.paused delay)
  | _ => none

/-- The landmarks of an attempt: a fetch, and a judgement if it fetched a value. -/
def Attempt.landmarks (attempted : Attempt Value Failure) : List (Landmark Value) :=
  .fetched :: (attempted.value?.map Landmark.judged).toList

theorem transcript_fetched (describe : Failure → String) (backoff : Backoff) (made : Nat)
    (history : List (Attempt Value Failure)) :
    (transcript describe backoff made history).filterMap fetchedIn? =
      history.map Attempt.fetched := by
  fun_induction transcript describe backoff made history with
  | case1 => rfl
  | case2 made attempted => cases attempted <;> rfl
  | case3 made attempted next rest inductionHypothesis =>
    rw [List.map_cons, ← inductionHypothesis]
    cases attempted <;> rfl

theorem transcript_judged (describe : Failure → String) (backoff : Backoff) (made : Nat)
    (history : List (Attempt Value Failure)) :
    (transcript describe backoff made history).filterMap judgedIn? =
      history.filterMap Attempt.judged? := by
  fun_induction transcript describe backoff made history with
  | case1 => rfl
  | case2 made attempted => cases attempted <;> rfl
  | case3 made attempted next rest inductionHypothesis =>
    cases attempted with
    | accepted value => exact congrArg ((value, true) :: ·) inductionHypothesis
    | rejected value => exact congrArg ((value, false) :: ·) inductionHypothesis
    | failed failure => exact inductionHypothesis

/-- One pause stands between two attempts, with the delay for the number of the first of them, and
none after the last. -/
theorem transcript_landmarks (describe : Failure → String) (backoff : Backoff) (made : Nat)
    (attempted : Attempt Value Failure) (rest : List (Attempt Value Failure)) :
    (transcript describe backoff made (attempted :: rest)).filterMap landmark? =
      attempted.landmarks ++ (rest.zipIdx (made + 1)).flatMap fun numbered =>
        .paused (backoff.delayAfter (UInt32.ofNat numbered.2)) :: numbered.1.landmarks := by
  induction rest generalizing made attempted with
  | nil => cases attempted <;> rfl
  | cons next others inductionHypothesis =>
    rw [List.zipIdx_cons, List.flatMap_cons, List.cons_append, ← inductionHypothesis]
    cases attempted <;> rfl

/-- A retrieval that is cancelled was told so. -/
theorem Interrupted.exists_tellsCancelled {describe : Failure → String} {backoff : Backoff}
    {made : Nat} {history : List (Attempt Value Failure)}
    {own : List (Exchange (Poll.Action Value Failure) Poll.Reply)}
    (interrupted : Interrupted describe backoff made history own) :
    ∃ exchange ∈ own, tellsCancelled exchange = true := by
  induction interrupted with
  | asked made => exact ⟨_, List.mem_cons_self, rfl⟩
  | paused made attempted =>
    exact ⟨_, List.mem_cons_of_mem _ (List.mem_append_right _ List.mem_cons_self), by
      simp [tellsCancelled]⟩
  | later made attempted rest own interrupted inductionHypothesis =>
    obtain ⟨exchange, member, told⟩ := inductionHypothesis
    exact ⟨exchange, List.mem_cons_of_mem _ (List.mem_append_right _
      (List.mem_cons_of_mem _ member)), told⟩

theorem Interrupted.fetched {describe : Failure → String} {backoff : Backoff} {made : Nat}
    {history : List (Attempt Value Failure)}
    {own : List (Exchange (Poll.Action Value Failure) Poll.Reply)}
    (interrupted : Interrupted describe backoff made history own) :
    own.filterMap fetchedIn? = history.map Attempt.fetched := by
  induction interrupted with
  | asked made => rfl
  | paused made attempted => cases attempted <;> rfl
  | later made attempted rest own interrupted inductionHypothesis =>
    rw [List.map_cons, ← inductionHypothesis]
    cases attempted <;> rfl

theorem Interrupted.judged {describe : Failure → String} {backoff : Backoff} {made : Nat}
    {history : List (Attempt Value Failure)}
    {own : List (Exchange (Poll.Action Value Failure) Poll.Reply)}
    (interrupted : Interrupted describe backoff made history own) :
    own.filterMap judgedIn? = history.filterMap Attempt.judged? := by
  induction interrupted with
  | asked made => rfl
  | paused made attempted => cases attempted <;> rfl
  | later made attempted rest own interrupted inductionHypothesis =>
    cases attempted with
    | accepted value => exact congrArg ((value, true) :: ·) inductionHypothesis
    | rejected value => exact congrArg ((value, false) :: ·) inductionHypothesis
    | failed failure => exact inductionHypothesis

/-! ### The steps of a retrieval -/

section Steps

variable {describe : Failure → String} {backoff : Backoff}
  {own : List (Exchange (Poll.Action Value Failure) Poll.Reply)}
  {outcome : Outcome Value Failure}

theorem runs_note_iff (level : Level) (message : String) (fields : List (String × FieldValue))
    (written : Unit) :
    Runs (note level message fields : Part Value Failure Unit) own written ↔
      own = [noted level message fields] :=
  runs_act_done_iff _ _ _

theorem runs_note_done_iff {Result : Type} (level : Level) (message : String)
    (fields : List (String × FieldValue)) (result final : Result) :
    Runs ((note level message fields : Part Value Failure Unit).bind fun _ => Session.done result)
        own final ↔
      own = [noted level message fields] ∧ final = result := by
  rw [runs_bind_done_iff]
  simp only [runs_note_iff]
  exact exists_const Unit

/-- The run of an attempt is fixed by what the attempt leads to. -/
theorem runs_attempt_iff (number : Nat) (attempted : Attempt Value Failure) :
    Runs (attempt describe (UInt32.ofNat number)) own attempted ↔
      own = attempted.exchanges describe number := by
  unfold attempt fetch judge
  simp only [bind_eq, pure_eq, runs_act_bind_iff]
  constructor
  · rintro ⟨fetched | fetched, rest, rfl, run⟩
    · obtain ⟨rfl, rfl⟩ := (runs_note_done_iff _ _ _ _ _).1 run
      rfl
    · obtain ⟨verdict, after, rfl, second⟩ := (runs_act_bind_iff _ _ _ _).1 run
      cases verdict with
      | true =>
        obtain ⟨rfl, rfl⟩ := (runs_done_iff _ _ _).1 second
        rfl
      | false =>
        obtain ⟨rfl, rfl⟩ := (runs_done_iff _ _ _).1 second
        rfl
  · rintro rfl
    cases attempted with
    | accepted value =>
      exact ⟨.ok value, _, rfl, (runs_act_bind_iff _ _ _ _).2 ⟨true, [], rfl, .done _⟩⟩
    | rejected value =>
      exact ⟨.ok value, _, rfl, (runs_act_bind_iff _ _ _ _).2 ⟨false, [], rfl, .done _⟩⟩
    | failed failure =>
      exact ⟨.error failure, _, rfl, (runs_note_done_iff _ _ _ _ _).2 ⟨rfl, rfl⟩⟩

/-- The run of a round: it sees that it is cancelled, or it makes an attempt and what follows. -/
theorem runs_round_iff (made : Nat) (last : Option Value)
    (goOn : UInt32 → Option Value → Option Failure → Part Value Failure (Outcome Value Failure)) :
    Runs (round describe (UInt32.ofNat made) last goOn) own outcome ↔
      (own = [⟨.askCancelled, true⟩,
          noted .debug "Polling cancelled" [attemptsField (UInt32.ofNat made)]] ∧
        outcome = .cancelled last (UInt32.ofNat made)) ∨
      ∃ attempted rest,
        own = ⟨.askCancelled, false⟩ :: (attempted.exchanges describe (made + 1) ++ rest) ∧
          Runs (follow (UInt32.ofNat (made + 1)) last goOn attempted) rest outcome := by
  have counted : UInt32.ofNat made + 1 = UInt32.ofNat (made + 1) := (UInt32.ofNat_add made 1).symm
  unfold round askCancelled
  rw [bind_eq, runs_act_bind_iff, counted]
  constructor
  · rintro ⟨isCancelled, rest, rfl, run⟩
    cases isCancelled with
    | true =>
      obtain ⟨rfl, rfl⟩ := (runs_note_done_iff _ _ _ _ _).1 run
      exact .inl ⟨rfl, rfl⟩
    | false =>
      obtain ⟨before, attempted, after, rfl, first, second⟩ := (runs_bind_iff _ _ _ _).1 run
      rw [(runs_attempt_iff _ _).1 first]
      exact .inr ⟨attempted, after, rfl, second⟩
  · rintro (⟨rfl, rfl⟩ | ⟨attempted, rest, rfl, run⟩)
    · exact ⟨true, _, rfl, (runs_note_done_iff _ _ _ _ _).2 ⟨rfl, rfl⟩⟩
    · exact ⟨false, _, rfl, ((runs_attempt_iff _ _).2 rfl).bind run⟩

/-- The run that follows an accepted attempt. -/
theorem runs_follow_accepted_iff (describe : Failure → String) (number : Nat)
    (last : Option Value)
    (goOn : UInt32 → Option Value → Option Failure → Part Value Failure (Outcome Value Failure))
    (value : Value) :
    Runs (follow (UInt32.ofNat number) last goOn (.accepted value)) own outcome ↔
      own = [(Attempt.accepted value).closing describe number] ∧
        outcome = .satisfied value (UInt32.ofNat number) := by
  show Runs ((note _ _ _).bind fun _ => Session.done _) own outcome ↔ _
  rw [runs_note_done_iff]
  rfl

/-- A retrieval goes on after an open attempt, and remembers the value that it fetched. -/
theorem follow_of_isOpen {attempted : Attempt Value Failure} (number : UInt32)
    (last : Option Value)
    (goOn : UInt32 → Option Value → Option Failure → Part Value Failure (Outcome Value Failure))
    (isOpen : attempted.isOpen = true) :
    follow number last goOn attempted =
      goOn number (attempted.value?.or last) attempted.failure? := by
  cases attempted with
  | accepted value => cases isOpen
  | rejected value => rfl
  | failed failure => rfl

/-- The run in which a budget ends that was spent on a rejected attempt. -/
theorem runs_endSpent_rejected_iff (describe : Failure → String) (number : Nat)
    (value : Value) :
    Runs (endSpent describe none (some value) (UInt32.ofNat number)) own outcome ↔
      own = [(Attempt.rejected value).closing describe number] ∧
        outcome = .exhausted (some value) (UInt32.ofNat number) := by
  show Runs ((note _ _ _).bind fun _ => Session.done _) own outcome ↔ _
  rw [runs_note_done_iff]
  rfl

/-- The run in which a budget ends that was spent on a failed attempt. -/
theorem runs_endSpent_failed_iff (describe : Failure → String) (number : Nat)
    (last : Option Value) (failure : Failure) :
    Runs (endSpent describe (some failure) last (UInt32.ofNat number)) own outcome ↔
      own = [(Attempt.failed failure).closing describe number] ∧
        outcome = .failed failure last (UInt32.ofNat number) := by
  show Runs ((note _ _ _).bind fun _ => Session.done _) own outcome ↔ _
  rw [runs_note_done_iff]
  rfl

/-! ### The whole of a retrieval -/

/-- A retrieval makes a history, from which everything about it follows: one that ends it, or one of
open attempts after which it is cancelled. The history so far is one of open attempts, and the loop
passes on its length and its last value. -/
theorem exists_history_of_runs_rounds (more : Nat) (before : List (Attempt Value Failure))
    (opened : ∀ attempted ∈ before, attempted.isOpen = true)
    (run : Runs (rounds describe backoff more (UInt32.ofNat before.length) (lastValue before)) own
      outcome) :
    (∃ attempted rest, Ends (before.length + more + 1) (before ++ attempted :: rest) outcome ∧
      own = transcript describe backoff before.length (attempted :: rest)) ∨
    ∃ rest, (∀ attempted ∈ rest, attempted.isOpen = true) ∧ rest.length ≤ more ∧
      Interrupted describe backoff before.length rest own ∧
      outcome = .cancelled (lastValue (before ++ rest)) (UInt32.ofNat (before ++ rest).length) := by
  induction more generalizing before own with
  | zero =>
    unfold rounds at run
    rcases (runs_round_iff _ _ _).1 run with ⟨rfl, rfl⟩ | ⟨attempted, rest, rfl, following⟩
    · refine .inr ⟨[], fun _ member => absurd member List.not_mem_nil, Nat.zero_le _, .asked _, ?_⟩
      rw [List.append_nil]
    · refine .inl ⟨attempted, [], ?_⟩
      cases attempted with
      | accepted value =>
        obtain ⟨rfl, rfl⟩ := (runs_follow_accepted_iff describe _ _ _ _).1 following
        exact ⟨.satisfied before value opened le_rfl, rfl⟩
      | rejected value =>
        obtain ⟨rfl, rfl⟩ := (runs_endSpent_rejected_iff describe _ _).1 following
        exact ⟨.exhausted before value opened rfl, rfl⟩
      | failed failure =>
        obtain ⟨rfl, rfl⟩ := (runs_endSpent_failed_iff describe _ _ _).1 following
        exact ⟨.failed before failure opened rfl, rfl⟩
  | succ more inductionHypothesis =>
    unfold rounds at run
    rcases (runs_round_iff _ _ _).1 run with ⟨rfl, rfl⟩ | ⟨attempted, rest, rfl, following⟩
    · refine .inr ⟨[], fun _ member => absurd member List.not_mem_nil, Nat.zero_le _, .asked _, ?_⟩
      rw [List.append_nil]
    · have length : (before ++ [attempted]).length = before.length + 1 := List.length_append
      by_cases isOpen : attempted.isOpen = true
      -- The history grows by the attempt; the loop passes its length and its last value on.
      · rw [follow_of_isOpen _ _ _ isOpen, ← lastValue_append_singleton] at following
        obtain ⟨wake, after, rfl, continued⟩ := (runs_act_bind_iff _ _ _ _).1 following
        cases wake with
        | cancelled =>
          obtain ⟨rfl, rfl⟩ := (runs_note_done_iff _ _ _ _ _).1 continued
          refine .inr ⟨[attempted], fun other member => ?_, Nat.succ_le_succ (Nat.zero_le _),
            .paused _ _, ?_⟩
          · rw [List.mem_singleton.1 member]
            exact isOpen
          · rw [length]
        | elapsed =>
          rw [← length] at continued
          rcases inductionHypothesis (before ++ [attempted])
            (opened_append_singleton opened isOpen) continued with
            ⟨next, others, ends, rfl⟩ | ⟨others, othersOpened, within, interrupted, rfl⟩
          · refine .inl ⟨attempted, next :: others, ?_, ?_⟩
            · have budget : before.length + (more + 1) + 1 =
                  (before ++ [attempted]).length + more + 1 := by omega
              rw [List.append_cons, budget]
              exact ends
            · rw [length]
              rfl
          · rw [length] at interrupted
            refine .inr ⟨attempted :: others, ?_, Nat.succ_le_succ within,
              .later _ _ _ _ interrupted, ?_⟩
            · exact List.forall_mem_cons.2 ⟨isOpen, othersOpened⟩
            · rw [List.append_cons before attempted others]
      · cases attempted with
        | accepted value =>
          obtain ⟨rfl, rfl⟩ := (runs_follow_accepted_iff describe _ _ _ _).1 following
          exact .inl ⟨.accepted value, [], .satisfied before value opened (by omega), rfl⟩
        | rejected value => exact absurd rfl isOpen
        | failed failure => exact absurd rfl isOpen

/-- Every history that ends a retrieval is one that the retrieval can make. -/
theorem runs_rounds_transcript (more : Nat) (before : List (Attempt Value Failure))
    (attempted : Attempt Value Failure) (rest : List (Attempt Value Failure))
    (ends : Ends (before.length + more + 1) (before ++ attempted :: rest) outcome) :
    Runs (rounds describe backoff more (UInt32.ofNat before.length) (lastValue before))
      (transcript describe backoff before.length (attempted :: rest)) outcome := by
  induction rest generalizing more before attempted with
  | nil =>
    obtain ⟨opened, last⟩ := (ends_append_singleton_iff _ _ _ _).1 ends
    cases attempted with
    | accepted value =>
      obtain ⟨-, rfl⟩ := last
      have following (goOn) := (runs_follow_accepted_iff describe (before.length + 1)
        (lastValue before) goOn value).2 ⟨rfl, rfl⟩
      cases more <;> exact (runs_round_iff _ _ _).2 (.inr ⟨_, _, rfl, following _⟩)
    | rejected value =>
      obtain ⟨spent, rfl⟩ := last
      obtain rfl : more = 0 := by omega
      exact (runs_round_iff _ _ _).2
        (.inr ⟨_, _, rfl, (runs_endSpent_rejected_iff describe _ _).2 ⟨rfl, rfl⟩⟩)
    | failed failure =>
      obtain ⟨spent, rfl⟩ := last
      obtain rfl : more = 0 := by omega
      exact (runs_round_iff _ _ _).2
        (.inr ⟨_, _, rfl, (runs_endSpent_failed_iff describe _ _ _).2 ⟨rfl, rfl⟩⟩)
  | cons next others inductionHypothesis =>
    have length : (before ++ [attempted]).length = before.length + 1 := List.length_append
    rw [List.append_cons] at ends
    have isOpen : attempted.isOpen = true :=
      ends.opened attempted (List.mem_append_right _ List.mem_cons_self)
    obtain ⟨more, rfl⟩ : ∃ fewer, more = fewer + 1 := by
      have within := ends.length_le.2
      simp only [List.length_append, List.length_cons, List.length_nil] at within
      exact ⟨more - 1, by omega⟩
    have budget : before.length + (more + 1) + 1 = (before ++ [attempted]).length + more + 1 := by
      omega
    rw [budget] at ends
    have continued := inductionHypothesis more (before ++ [attempted]) next ends
    rw [length, lastValue_append_singleton] at continued
    refine (runs_round_iff _ _ _).2 (.inr ⟨attempted, _, rfl, ?_⟩)
    rw [follow_of_isOpen _ _ _ isOpen]
    exact (runs_act_bind_iff _ _ _ _).2 ⟨.elapsed, _, rfl, continued⟩

/-- A policy allows one attempt and those behind it. -/
theorem attempts_eq_succ (policy : Policy) : 0 + (policy.attempts - 1) + 1 = policy.attempts := by
  have positive : 1 ≤ policy.attempts := le_max_left _ _
  omega

/-- What a retrieval does is the transcript of a history that ends it, or it is cancelled after open
attempts. -/
theorem exists_history_of_runs_retrieval (policy : Policy)
    (run : Runs (retrieval describe policy) own outcome) :
    (∃ history, Ends policy.attempts history outcome ∧
      own = transcript describe policy.backoff 0 history) ∨
    ∃ history, (∀ attempted ∈ history, attempted.isOpen = true) ∧
      history.length < policy.attempts ∧
      Interrupted describe policy.backoff 0 history own ∧
      outcome = .cancelled (lastValue history) (UInt32.ofNat history.length) := by
  have budget := attempts_eq_succ policy
  rcases exists_history_of_runs_rounds _ [] (fun _ member => absurd member List.not_mem_nil)
    run with ⟨attempted, rest, ends, rfl⟩ | ⟨rest, opened, within, interrupted, rfl⟩
  · rw [List.length_nil, budget] at ends
    exact .inl ⟨attempted :: rest, ends, rfl⟩
  · exact .inr ⟨rest, opened, by omega, interrupted, rfl⟩

/-- Every history that ends a retrieval is one that the retrieval can make. -/
theorem runs_retrieval_transcript (policy : Policy) (history : List (Attempt Value Failure))
    (ends : Ends policy.attempts history outcome) :
    Runs (retrieval describe policy) (transcript describe policy.backoff 0 history) outcome := by
  obtain ⟨attempted, rest, rfl⟩ := List.exists_cons_of_length_pos ends.length_le.1
  rw [← attempts_eq_succ policy] at ends
  exact runs_rounds_transcript _ [] attempted rest ends

end Steps

/-! ### Retrievals as work -/

/-- Nothing in a retrieval that is carried out as work tells it that it is cancelled. -/
theorem tellsCancelled_of_carried {fetch : Work (Except Failure Value)}
    {accepts : Value → Work Bool} {own : List (Exchange (Poll.Action Value Failure) Poll.Reply)}
    {exchanges : List (Exchange Testbed.Action Testbed.Reply)}
    (carried : Carried (uncancelled fetch accepts) own exchanges) :
    ∀ exchange ∈ own, tellsCancelled exchange = false := by
  induction carried with
  | nil =>
    intro exchange member
    cases member
  | cons action reply own before after first rest inductionHypothesis =>
    intro exchange member
    rcases List.mem_cons.1 member with rfl | later
    · cases action with
      | askCancelled => exact ((runs_done_iff _ _ _).1 first).2
      | pause delay =>
        obtain ⟨slept, -, woken⟩ := (runs_bind_done_iff _ _ _ _).1 first
        rw [woken]
        rfl
      | fetch => rfl
      | judge value => rfl
      | note event => rfl
    · exact inductionHypothesis exchange later

/-- A retrieval avoids what its fetches avoid, unless that is part of waiting or of the notes. -/
theorem avoids_retrieve {kind : Testbed.Action → Bool} {describe : Failure → String}
    {fetch : Work (Except Failure Value)} {policy : Policy} (avoids : Avoids kind fetch)
    (notes : ∀ event, kind (.note event) = false)
    (pauses : ∀ delay, kind (.sleep delay) = false) :
    Avoids kind (retrieve describe fetch policy) := by
  refine Avoids.carriedOut (fun action => ?_) _
  cases action with
  | askCancelled => exact avoids_done _
  | fetch => exact avoids
  | judge value => exact avoids_done _
  | pause delay => exact (avoids_ask _ (pauses delay)).bind fun _ => avoids_done _
  | note event => exact avoids_ask _ (notes event)

/-- A retrieval that is carried out as work runs through a history that ends it, and through every
such history that its fetches and judgements allow. -/
theorem runs_retrieveAccepted_iff (describe : Failure → String)
    (fetch : Work (Except Failure Value)) (accepts : Value → Work Bool) (policy : Policy)
    (exchanges : List (Exchange Testbed.Action Testbed.Reply)) (outcome : Outcome Value Failure) :
    Runs (retrieveAccepted describe fetch accepts policy) exchanges outcome ↔
      ∃ history, Ends policy.attempts history outcome ∧
        Carried (uncancelled fetch accepts) (transcript describe policy.backoff 0 history)
          exchanges := by
  unfold retrieveAccepted
  rw [runs_carriedOut_iff]
  constructor
  · rintro ⟨own, run, carried⟩
    rcases exists_history_of_runs_retrieval policy run with
      ⟨history, ends, rfl⟩ | ⟨history, -, -, interrupted, -⟩
    · exact ⟨history, ends, carried⟩
    · obtain ⟨exchange, member, told⟩ := interrupted.exists_tellsCancelled
      exact absurd told (by simp [tellsCancelled_of_carried carried exchange member])
  · rintro ⟨history, ends, carried⟩
    exact ⟨_, runs_retrieval_transcript policy history ends, carried⟩

/-- A retrieval makes attempts up to the first that is accepted, or as many as its budget allows,
and ends as its last attempt says. It tells their number, which never exceeds 32 bits; it never ends
as cancelled; it fetches once an attempt, judges each fetched value once and in order, and pauses
once between two attempts, for the delay after the first of them. -/
theorem retrieveAccepted_account (describe : Failure → String)
    (fetch : Work (Except Failure Value)) (accepts : Value → Work Bool) (policy : Policy) :
    (∀ exchanges outcome,
      Runs (retrieveAccepted describe fetch accepts policy) exchanges outcome ↔
        ∃ history, Ends policy.attempts history outcome ∧
          Carried (uncancelled fetch accepts) (transcript describe policy.backoff 0 history)
            exchanges) ∧
    ∀ (history : List (Attempt Value Failure)) (outcome : Outcome Value Failure),
      Ends policy.attempts history outcome →
        history.length ≤ policy.attempts ∧ policy.attempts < UInt32.size ∧
        outcome.attempts.toNat = history.length ∧
        (∀ last attempts, outcome ≠ .cancelled last attempts) ∧
        (transcript describe policy.backoff 0 history).filterMap fetchedIn? =
          history.map Attempt.fetched ∧
        (transcript describe policy.backoff 0 history).filterMap judgedIn? =
          history.filterMap Attempt.judged? ∧
        ∃ first rest, history = first :: rest ∧
          (transcript describe policy.backoff 0 history).filterMap landmark? =
            first.landmarks ++ (rest.zipIdx 1).flatMap fun numbered =>
              .paused (policy.backoff.delayAfter (UInt32.ofNat numbered.2)) ::
                numbered.1.landmarks := by
  refine ⟨fun exchanges outcome => runs_retrieveAccepted_iff _ _ _ _ _ _, ?_⟩
  intro history outcome ends
  obtain ⟨first, rest, rfl⟩ := List.exists_cons_of_length_pos ends.length_le.1
  exact ⟨ends.length_le.2, policy.attempts_lt, ends.attempts_eq policy.attempts_lt,
    ends.ne_cancelled, transcript_fetched _ _ _ _, transcript_judged _ _ _ _, first, rest, rfl,
    transcript_landmarks _ _ _ _ _⟩

/-- A retrieval of numbers that spends three attempts, the second of which fails. -/
theorem retrieveAccepted_account_exhausted :
    Ends (Policy.fixed 3 (.ofSeconds 1)).attempts
      [.rejected 1, .failed "refused", .rejected 2] (.exhausted (some 2) 3) ∧
    Runs (retrieveAccepted id (ask (.openAdmin "broker")) (fun client => .done (client == 9))
        (Policy.fixed 3 (.ofSeconds 1)))
      [⟨.openAdmin "broker", .ok 1⟩, ⟨.sleep (.ofSeconds 1), ()⟩,
        ⟨.openAdmin "broker", .error "refused"⟩,
        Testbed.noted .debug "lake.poll" "Fetch failed, will retry"
          [("attempt", .number 2), ("error", .text "refused")],
        ⟨.sleep (.ofSeconds 1), ()⟩, ⟨.openAdmin "broker", .ok 2⟩,
        Testbed.noted .warn "lake.poll" "Polling exhausted" [("attempts", .number 3)]]
      (.exhausted (some 2) 3) ∧
    (3 : UInt32).toNat = [1, 2, 3].length := by
  have ends : Ends (Policy.fixed 3 (.ofSeconds 1)).attempts
      [.rejected 1, .failed "refused", .rejected 2] (.exhausted (some 2) 3) :=
    .exhausted [.rejected 1, .failed "refused"] 2 (by decide) rfl
  have account := retrieveAccepted_account id (ask (.openAdmin "broker"))
    (fun client => .done (client == 9)) (Policy.fixed 3 (.ofSeconds 1))
  refine ⟨ends, (account.1 _ _).2 ⟨_, ends, ?_⟩, (account.2 _ _ ends).2.2.1⟩
  have asked (reply : Except String Nat) :
      Runs (ask (.openAdmin "broker")) [⟨.openAdmin "broker", reply⟩] reply :=
    (runs_ask_iff _ _ _).2 rfl
  have slept : Runs ((ask (.sleep (.ofSeconds 1))).bind fun _ => Session.done Wake.elapsed)
      [⟨.sleep (.ofSeconds 1), ()⟩] .elapsed := ((runs_ask_iff _ _ _).2 rfl).bind (.done _)
  -- The exchanges of each attempt, and then the pause behind it.
  refine .cons _ _ _ [] _ (.done _) (.cons _ _ _ [_] _ (asked _) (.cons _ _ _ [] _ (.done _)
    (.cons _ _ _ [_] _ slept ?_)))
  refine .cons _ _ _ [] _ (.done _) (.cons _ _ _ [_] _ (asked _)
    (.cons _ _ _ [_] _ ((runs_ask_iff _ _ _).2 rfl) (.cons _ _ _ [_] _ slept ?_)))
  exact .cons _ _ _ [] _ (.done _) (.cons _ _ _ [_] _ (asked _) (.cons _ _ _ [] _ (.done _)
    (.cons _ _ _ [_] _ ((runs_ask_iff _ _ _).2 rfl) .nil)))

end Poll

end Testbed
