/-
This file proves that a cancelled retrieval is one that nothing cancels, cut short. What each fetch
gives, how values are judged, when the retrieval is cancelled and which way it goes when a pause is
over just as it is cancelled are laid down as circumstances. A retrieval in its circumstances makes
attempts of one stream, which does not depend on the cancellation. It makes them to the end, or as
many as there were fetches before it was cancelled. So a pause that ends as the retrieval is
cancelled makes no difference to how the retrieval ends.
-/

import Testbed.Proofs.Retrieval

namespace Testbed.Poll

open Session

variable {Value Failure Memory : Type}

/-! ### Circumstances -/

/-- When a retrieval is cancelled. -/
inductive Moment where
  | never
  | beforehand
  /-- While the fetch of a number is under way, the first having the number one. -/
  | duringFetch (number : Nat)
  /-- While the pause after the fetch of a number lasts, or just as it is over. -/
  | duringPause (number : Nat)

namespace Moment

/-- The fetches that are started before a retrieval is cancelled, if it is. -/
def started? : Moment → Option Nat
  | never => none
  | beforehand => some 0
  | duringFetch number => some number
  | duringPause number => some number

/-- Whether a retrieval is cancelled by the time that so many fetches were made. -/
def isPast (moment : Moment) (made : Nat) : Bool :=
  moment.started?.any (· ≤ made)

theorem isPast_eq_true_iff (moment : Moment) (made : Nat) :
    moment.isPast made = true ↔ ∃ number, moment.started? = some number ∧ number ≤ made := by
  simp [isPast, Option.any_eq_true]

theorem isPast_eq_false_iff (moment : Moment) (made : Nat) :
    moment.isPast made = false ↔ ∀ number, moment.started? = some number → made < number := by
  simp [isPast, Option.any_eq_false]

end Moment

/-- What a retrieval meets with. Its test may remember the values that it judged. -/
structure Circumstances (Value Failure Memory : Type) where
  /-- What the fetch of a number gives, the first having the number one. -/
  fetched : (number : Nat) → Except Failure Value
  /-- What the test remembers at first. -/
  memory : Memory
  /-- The verdict on a value, and what the test remembers from then on. -/
  judged : Memory → Value → Bool × Memory
  /-- When the retrieval is cancelled. -/
  moment : Moment
  /-- Whether the pause after the fetch of a number ends as cancelled if the retrieval is cancelled
  by the end of the pause. It may also end as elapsed then, as both are over. -/
  yields : (number : Nat) → Bool

/-- How far a retrieval has come: the fetches that were made, and what its test remembers. -/
structure Stand (Memory : Type) where
  made : Nat
  memory : Memory

namespace Circumstances

/-- Where a retrieval stands at first. -/
def start (met : Circumstances Value Failure Memory) : Stand Memory where
  made := 0
  memory := met.memory

/-- The reply to an action of a retrieval, and how far the retrieval has come with it. -/
def answer (met : Circumstances Value Failure Memory) :
    (action : Poll.Action Value Failure) → Stand Memory → Poll.Reply action × Stand Memory
  | .askCancelled, stand => (met.moment.isPast stand.made, stand)
  | .fetch, stand => (met.fetched (stand.made + 1), { stand with made := stand.made + 1 })
  | .judge value, stand =>
    ((met.judged stand.memory value).1, { stand with memory := (met.judged stand.memory value).2 })
  | .pause _, stand =>
    (if met.moment.isPast stand.made && met.yields stand.made then .cancelled else .elapsed, stand)
  | .note _, stand => ((), stand)

/-- How a retrieval ends in its circumstances. -/
def outcome (met : Circumstances Value Failure Memory) (describe : Failure → String)
    (policy : Policy) : Outcome Value Failure :=
  ((retrieval describe policy).run met.answer met.start).1

/-- Everything that a retrieval does in its circumstances. -/
def exchanges (met : Circumstances Value Failure Memory) (describe : Failure → String)
    (policy : Policy) : List (Exchange (Poll.Action Value Failure) Poll.Reply) :=
  (retrieval describe policy).exchangesWith met.answer met.start

/-- The same circumstances, in which nothing cancels the retrieval. -/
def uncancelled (met : Circumstances Value Failure Memory) : Circumstances Value Failure Memory :=
  { met with moment := .never }

/-! ### The stream of attempts -/

/-- The next attempt, and how far the retrieval has come with it. -/
def next (met : Circumstances Value Failure Memory) (stand : Stand Memory) :
    Attempt Value Failure × Stand Memory :=
  match met.fetched (stand.made + 1) with
  | .ok value =>
    (if (met.judged stand.memory value).1 then .accepted value else .rejected value,
      { made := stand.made + 1, memory := (met.judged stand.memory value).2 })
  | .error failure => (.failed failure, { stand with made := stand.made + 1 })

/-- The attempts that come next. -/
def stream (met : Circumstances Value Failure Memory) :
    Stand Memory → (count : Nat) → List (Attempt Value Failure)
  | _, 0 => []
  | stand, count + 1 => (met.next stand).1 :: met.stream (met.next stand).2 count

/-- The stream does not depend on the cancellation. -/
theorem stream_cancelled (met : Circumstances Value Failure Memory) (moment : Moment)
    (yields : Nat → Bool) (stand : Stand Memory) (count : Nat) :
    ({ met with moment, yields } : Circumstances Value Failure Memory).stream stand count =
      met.stream stand count := by
  induction count generalizing stand with
  | zero => rfl
  | succ count inductionHypothesis =>
    unfold stream
    rw [inductionHypothesis]
    rfl

theorem stream_uncancelled (met : Circumstances Value Failure Memory) (stand : Stand Memory)
    (count : Nat) : met.uncancelled.stream stand count = met.stream stand count :=
  met.stream_cancelled .never met.yields stand count

theorem next_of_ok {met : Circumstances Value Failure Memory} {stand : Stand Memory} {value : Value}
    (fetched : met.fetched (stand.made + 1) = .ok value) :
    met.next stand =
      (if (met.judged stand.memory value).1 then .accepted value else .rejected value,
        { made := stand.made + 1, memory := (met.judged stand.memory value).2 }) := by
  unfold next
  rw [fetched]

theorem next_of_error {met : Circumstances Value Failure Memory} {stand : Stand Memory}
    {failure : Failure} (fetched : met.fetched (stand.made + 1) = .error failure) :
    met.next stand = (.failed failure, { stand with made := stand.made + 1 }) := by
  unfold next
  rw [fetched]

theorem next_made (met : Circumstances Value Failure Memory) (stand : Stand Memory) :
    (met.next stand).2.made = stand.made + 1 := by
  cases fetched : met.fetched (stand.made + 1) with
  | ok value => rw [next_of_ok fetched]
  | error failure => rw [next_of_error fetched]

theorem next_fetched (met : Circumstances Value Failure Memory) (stand : Stand Memory) :
    (met.next stand).1.fetched = met.fetched (stand.made + 1) := by
  cases fetched : met.fetched (stand.made + 1) with
  | ok value =>
    rw [next_of_ok fetched]
    cases (met.judged stand.memory value).1 <;> rfl
  | error failure =>
    rw [next_of_error fetched]
    rfl

@[simp] theorem length_stream (met : Circumstances Value Failure Memory) (stand : Stand Memory)
    (count : Nat) : (met.stream stand count).length = count := by
  induction count generalizing stand with
  | zero => rfl
  | succ count inductionHypothesis => exact congrArg (· + 1) (inductionHypothesis _)

/-- The attempts of a stream fetch in the order of their numbers. -/
theorem stream_fetched (met : Circumstances Value Failure Memory) (stand : Stand Memory)
    (count : Nat) :
    (met.stream stand count).map Attempt.fetched =
      (List.range' (stand.made + 1) count).map met.fetched := by
  induction count generalizing stand with
  | zero => rfl
  | succ count inductionHypothesis =>
    unfold stream
    rw [List.map_cons, inductionHypothesis, next_fetched, next_made, List.range'_succ,
      List.map_cons]

/-- The first attempts of a stream are the same, however many follow. -/
theorem take_stream (met : Circumstances Value Failure Memory) (stand : Stand Memory)
    {fewer count : Nat} (within : fewer ≤ count) :
    (met.stream stand count).take fewer = met.stream stand fewer := by
  induction fewer generalizing stand count with
  | zero => rfl
  | succ fewer inductionHypothesis =>
    obtain ⟨rest, rfl⟩ : ∃ rest, count = rest + 1 := ⟨count - 1, by omega⟩
    unfold stream
    rw [List.take_succ_cons, inductionHypothesis _ (Nat.le_of_succ_le_succ within)]

theorem isPrefix_stream (met : Circumstances Value Failure Memory) (stand : Stand Memory)
    {fewer count : Nat} (within : fewer ≤ count) :
    met.stream stand fewer <+: met.stream stand count := by
  rw [← met.take_stream stand within]
  exact List.take_prefix _ _

/-- No two attempts of a stream end a retrieval. -/
theorem eq_of_ends_stream (met : Circumstances Value Failure Memory) {budget first second : Nat}
    {stand : Stand Memory} {firstOutcome secondOutcome : Outcome Value Failure}
    (firstEnds : Ends budget (met.stream stand (first + 1)) firstOutcome)
    (secondEnds : Ends budget (met.stream stand (second + 1)) secondOutcome) : first = second := by
  have together : met.stream stand (first + 1) = met.stream stand (second + 1) := by
    rcases Nat.le_total (first + 1) (second + 1) with fewer | fewer
    · exact firstEnds.eq_of_isPrefix secondEnds (met.isPrefix_stream _ fewer)
    · exact (secondEnds.eq_of_isPrefix firstEnds (met.isPrefix_stream _ fewer)).symm
  simpa only [length_stream, Nat.add_right_cancel_iff] using congrArg List.length together

/-- The last value of a stream is that of its last fetch that gave one. -/
theorem lastValue_stream (met : Circumstances Value Failure Memory) (count : Nat) :
    lastValue (met.stream met.start count) =
      (((List.range' 1 count).map met.fetched).filterMap Except.toOption).getLast? := by
  rw [lastValue_eq, stream_fetched]
  rfl

/-! ### What the circumstances answer -/

/-- An attempt whose exchanges the circumstances answer is the next one. -/
theorem answeredBy_exchanges_append (met : Circumstances Value Failure Memory)
    (describe : Failure → String) (number : Nat) (attempted : Attempt Value Failure)
    (stand : Stand Memory) (rest : List (Exchange (Poll.Action Value Failure) Poll.Reply))
    (answered : AnsweredBy met.answer stand (attempted.exchanges describe number ++ rest)) :
    attempted = (met.next stand).1 ∧ AnsweredBy met.answer (met.next stand).2 rest := by
  cases attempted with
  | accepted value =>
    obtain ⟨fetched, verdict, later⟩ := answered
    change true = (met.judged stand.memory value).1 at verdict
    rw [next_of_ok fetched.symm, ← verdict]
    exact ⟨rfl, later⟩
  | rejected value =>
    obtain ⟨fetched, verdict, later⟩ := answered
    change false = (met.judged stand.memory value).1 at verdict
    rw [next_of_ok fetched.symm, ← verdict]
    exact ⟨rfl, later⟩
  | failed failure =>
    obtain ⟨fetched, -, later⟩ := answered
    rw [next_of_error fetched.symm]
    exact ⟨rfl, later⟩

/-- A pause ends as cancelled only if the retrieval is cancelled. -/
theorem isPast_of_cancelled (met : Circumstances Value Failure Memory) (delay : Duration)
    (stand : Stand Memory)
    (woken : Wake.cancelled = (met.answer (.pause delay : Poll.Action Value Failure) stand).1) :
    met.moment.isPast stand.made = true := by
  by_contra notPast
  change Wake.cancelled =
    if met.moment.isPast stand.made && met.yields stand.made then _ else _ at woken
  rw [Bool.eq_false_of_not_eq_true notPast] at woken
  cases woken

/-! ### Histories that the circumstances answer -/

/-- A whole transcript that the circumstances answer is one of the stream, and the retrieval is not
cancelled by the time that its last attempt begins. -/
theorem eq_stream_of_answeredBy_transcript (met : Circumstances Value Failure Memory)
    (describe : Failure → String) (backoff : Backoff) (stand : Stand Memory)
    (attempted : Attempt Value Failure) (rest : List (Attempt Value Failure))
    (answered : AnsweredBy met.answer stand
      (transcript describe backoff stand.made (attempted :: rest))) :
    attempted :: rest = met.stream stand (rest.length + 1) ∧
      met.moment.isPast (stand.made + rest.length) = false := by
  induction rest generalizing stand attempted with
  | nil =>
    obtain ⟨asked, later⟩ := answered
    obtain ⟨rfl, -⟩ := met.answeredBy_exchanges_append _ _ _ _ _ later
    exact ⟨rfl, asked.symm⟩
  | cons following others inductionHypothesis =>
    obtain ⟨-, later⟩ := answered
    obtain ⟨rfl, -, latest⟩ := met.answeredBy_exchanges_append _ _ _ _ _ later
    change AnsweredBy met.answer (met.next stand).2 _ at latest
    rw [← met.next_made stand] at latest
    obtain ⟨same, open_⟩ := inductionHypothesis _ _ latest
    rw [next_made] at open_
    refine ⟨congrArg _ same, ?_⟩
    rw [List.length_cons, ← open_]
    congr 1
    omega

/-- The attempts of a cancelled retrieval that the circumstances answer are those of the stream, and
the retrieval is cancelled by the time that the last of them was made, and not before. -/
theorem eq_stream_of_answeredBy_interrupted (met : Circumstances Value Failure Memory)
    {describe : Failure → String} {backoff : Backoff} {made : Nat}
    {history : List (Attempt Value Failure)}
    {own : List (Exchange (Poll.Action Value Failure) Poll.Reply)}
    (interrupted : Interrupted describe backoff made history own) (stand : Stand Memory)
    (same : stand.made = made) (answered : AnsweredBy met.answer stand own) :
    history = met.stream stand history.length ∧
      met.moment.isPast (made + history.length) = true ∧
      ∀ fewer < history.length, met.moment.isPast (made + fewer) = false := by
  induction interrupted generalizing stand with
  | asked made =>
    obtain ⟨asked, -⟩ := answered
    rw [← same]
    exact ⟨rfl, asked.symm, fun fewer within => absurd within (Nat.not_lt_zero fewer)⟩
  | paused made attempted =>
    obtain ⟨asked, later⟩ := answered
    obtain ⟨rfl, woken, -⟩ := met.answeredBy_exchanges_append _ _ _ _ _ later
    have past : met.moment.isPast (met.next stand).2.made = true :=
      met.isPast_of_cancelled _ _ woken
    rw [next_made, same] at past
    refine ⟨rfl, past, fun fewer within => ?_⟩
    obtain rfl : fewer = 0 := Nat.lt_one_iff.1 within
    rw [← same]
    exact asked.symm
  | later made attempted rest own interrupted inductionHypothesis =>
    obtain ⟨asked, later⟩ := answered
    obtain ⟨rfl, -, latest⟩ := met.answeredBy_exchanges_append _ _ _ _ _ later
    obtain ⟨following, past, before⟩ :=
      inductionHypothesis (met.next stand).2 (by rw [next_made, same]) latest
    refine ⟨congrArg _ following, ?_, fun fewer within => ?_⟩
    · rw [List.length_cons, ← Nat.add_assoc, Nat.add_right_comm]
      exact past
    · cases fewer with
      | zero =>
        rw [← same]
        exact asked.symm
      | succ fewer =>
        rw [← Nat.add_assoc, Nat.add_right_comm]
        exact before fewer (Nat.lt_of_succ_lt_succ within)

/-! ### Cancelled and uncancelled retrievals -/

/-- A retrieval in its circumstances runs through the stream up to an attempt that ends it, without
being cancelled by then, or up to the attempt in which or after which it is cancelled. -/
theorem exists_stream (met : Circumstances Value Failure Memory) (describe : Failure → String)
    (policy : Policy) :
    (∃ last, Ends policy.attempts (met.stream met.start (last + 1)) (met.outcome describe policy) ∧
      met.moment.isPast last = false ∧
      met.exchanges describe policy =
        transcript describe policy.backoff 0 (met.stream met.start (last + 1))) ∨
    ∃ number, number < policy.attempts ∧ met.moment.started? = some number ∧
      (∀ attempted ∈ met.stream met.start number, attempted.isOpen = true) ∧
      met.outcome describe policy =
        .cancelled (lastValue (met.stream met.start number)) (UInt32.ofNat number) ∧
      Interrupted describe policy.backoff 0 (met.stream met.start number)
        (met.exchanges describe policy) := by
  have run := runs_exchangesWith met.answer (retrieval describe policy) met.start
  have answered := answeredBy_exchangesWith met.answer (retrieval describe policy) met.start
  rcases exists_history_of_runs_retrieval policy run with
    ⟨history, ends, same⟩ | ⟨history, opened, within, interrupted, ended⟩
  · obtain ⟨attempted, rest, rfl⟩ := List.exists_cons_of_length_pos ends.length_le.1
    rw [same] at answered
    obtain ⟨following, notPast⟩ :=
      met.eq_stream_of_answeredBy_transcript _ _ met.start _ _ answered
    rw [following] at ends same
    rw [show met.start.made = 0 from rfl, Nat.zero_add] at notPast
    exact .inl ⟨rest.length, ends, notPast, same⟩
  · obtain ⟨following, past, before⟩ :=
      met.eq_stream_of_answeredBy_interrupted interrupted met.start rfl answered
    have started : met.moment.started? = some history.length := by
      rw [Nat.zero_add] at past
      obtain ⟨number, started, reached⟩ := (met.moment.isPast_eq_true_iff _).1 past
      rcases Nat.lt_or_eq_of_le reached with earlier | rfl
      · have notPast := before number earlier
        rw [Nat.zero_add, met.moment.isPast_eq_false_iff] at notPast
        exact absurd (notPast number started) (Nat.lt_irrefl number)
      · exact started
    rw [following] at opened ended interrupted
    rw [length_stream] at ended
    exact .inr ⟨history.length, within, started, opened, ended, interrupted⟩

/-- A retrieval that nothing cancels runs through the stream up to an attempt that ends it. -/
theorem exists_stream_uncancelled (met : Circumstances Value Failure Memory)
    (describe : Failure → String) (policy : Policy) :
    ∃ last,
      Ends policy.attempts (met.stream met.start (last + 1))
        (met.uncancelled.outcome describe policy) ∧
      met.uncancelled.exchanges describe policy =
        transcript describe policy.backoff 0 (met.stream met.start (last + 1)) := by
  rcases met.uncancelled.exists_stream describe policy with
    ⟨last, ends, -, same⟩ | ⟨number, -, started, -⟩
  · rw [stream_uncancelled] at ends same
    exact ⟨last, ends, same⟩
  · cases started

/-- A retrieval is the same as if nothing cancelled it, as long as it is cancelled in its last fetch
or later, and otherwise it ends as cancelled after as many attempts as fetches were started. -/
theorem eq_uncancelled_or_interrupted (met : Circumstances Value Failure Memory)
    (describe : Failure → String) (policy : Policy) (last : Nat)
    (ends : Ends policy.attempts (met.stream met.start (last + 1))
      (met.uncancelled.outcome describe policy))
    (same : met.uncancelled.exchanges describe policy =
      transcript describe policy.backoff 0 (met.stream met.start (last + 1))) :
    ((∀ number, met.moment.started? = some number → last + 1 ≤ number) ∧
      met.outcome describe policy = met.uncancelled.outcome describe policy ∧
      met.exchanges describe policy = met.uncancelled.exchanges describe policy) ∨
    ∃ number, number ≤ last ∧ met.moment.started? = some number ∧
      met.outcome describe policy =
        .cancelled (lastValue (met.stream met.start number)) (UInt32.ofNat number) ∧
      Interrupted describe policy.backoff 0 (met.stream met.start number)
        (met.exchanges describe policy) := by
  rcases met.exists_stream describe policy with
    ⟨other, otherEnds, notPast, otherSame⟩ | ⟨number, within, started, opened, ended, interrupted⟩
  · obtain rfl := met.eq_of_ends_stream otherEnds ends
    refine .inl ⟨fun number started => ?_, otherEnds.unique ends, otherSame.trans same.symm⟩
    exact (met.moment.isPast_eq_false_iff _).1 notPast number started
  · refine .inr ⟨number, Nat.not_lt.1 fun later => ?_, started, ended, interrupted⟩
    -- An open attempt ends a retrieval only if it spends the budget.
    have spent := ends.length_eq_of_isOpen fun attempted member =>
      opened attempted ((met.isPrefix_stream _ later).subset member)
    rw [length_stream] at spent
    omega

/-- How a retrieval ends depends on when it is cancelled only through the fetches that were started
by then, and which way a pause ends makes no difference. -/
theorem outcome_eq_of_started (met : Circumstances Value Failure Memory)
    (describe : Failure → String) (policy : Policy) (moment : Moment) (yields : Nat → Bool)
    (alike : moment.started? = met.moment.started?) :
    ({ met with moment, yields } : Circumstances Value Failure Memory).outcome describe policy =
      met.outcome describe policy := by
  let other : Circumstances Value Failure Memory := { met with moment, yields }
  obtain ⟨last, ends, same⟩ := met.exists_stream_uncancelled describe policy
  obtain ⟨otherLast, otherEnds, otherSame⟩ := other.exists_stream_uncancelled describe policy
  have streams (count : Nat) : other.stream other.start count = met.stream met.start count :=
    met.stream_cancelled moment yields met.start count
  rw [streams] at otherEnds
  obtain rfl := met.eq_of_ends_stream otherEnds ends
  rw [← streams] at otherEnds
  rcases met.eq_uncancelled_or_interrupted describe policy _ ends same with
    ⟨reached, ended, -⟩ | ⟨number, before, started, ended, -⟩
  all_goals
    rcases other.eq_uncancelled_or_interrupted describe policy _ otherEnds otherSame with
      ⟨otherReached, otherEnded, -⟩ | ⟨otherNumber, otherBefore, otherStarted, otherEnded, -⟩
  · rw [streams] at otherEnds
    exact otherEnded.trans ((otherEnds.unique ends).trans ended.symm)
  · exact absurd (reached otherNumber (alike.symm.trans otherStarted)) (Nat.not_le.2
      (Nat.lt_succ_of_le otherBefore))
  · exact absurd (otherReached number (alike.trans started)) (Nat.not_le.2
      (Nat.lt_succ_of_le before))
  · obtain rfl : otherNumber = number :=
      Option.some.inj (otherStarted.symm.trans (alike.trans started))
    rw [streams] at otherEnded
    exact otherEnded.trans ended.symm

end Circumstances

/-- A retrieval that is cancelled goes as one that nothing cancels, on the same fetches, up to the
cancellation. If the other one ends with the fetches that are started before the cancellation, or
with fewer, both are the same. Otherwise no further fetch is started, those that were are all judged
if they gave a value, and the retrieval ends as cancelled, with their number and the last value that
they gave. How it ends depends on nothing else about the moment of the cancellation, and which way
a pause ends makes no difference. -/
theorem retrieval_cancelled_account (describe : Failure → String) (policy : Policy)
    (met : Circumstances Value Failure Memory) :
    (∀ (moment : Moment) (yields : Nat → Bool), moment.started? = met.moment.started? →
      ({ met with moment, yields } : Circumstances Value Failure Memory).outcome describe policy =
        met.outcome describe policy) ∧
    ∃ history, Ends policy.attempts history (met.uncancelled.outcome describe policy) ∧
      met.uncancelled.exchanges describe policy = transcript describe policy.backoff 0 history ∧
      history.map Attempt.fetched = (List.range' 1 history.length).map met.fetched ∧
      ((∀ number, met.moment.started? = some number → history.length ≤ number) →
        met.outcome describe policy = met.uncancelled.outcome describe policy ∧
        met.exchanges describe policy = met.uncancelled.exchanges describe policy) ∧
      ∀ number, met.moment.started? = some number →
        ((met.exchanges describe policy).filterMap fetchedIn?).length ≤ number ∧
        (number < history.length →
          met.outcome describe policy =
            .cancelled
              (((List.range' 1 number).map met.fetched).filterMap Except.toOption).getLast?
              (UInt32.ofNat number) ∧
          (UInt32.ofNat number).toNat = number ∧
          (met.exchanges describe policy).filterMap fetchedIn? =
            (List.range' 1 number).map met.fetched ∧
          (met.exchanges describe policy).filterMap judgedIn? =
            (history.take number).filterMap Attempt.judged?) := by
  refine ⟨met.outcome_eq_of_started describe policy, ?_⟩
  obtain ⟨last, ends, same⟩ := met.exists_stream_uncancelled describe policy
  refine ⟨_, ends, same, ?_, ?_⟩
  · rw [Circumstances.stream_fetched, Circumstances.length_stream]
    rfl
  · rw [Circumstances.length_stream]
    rcases met.eq_uncancelled_or_interrupted describe policy last ends same with
      ⟨reached, outcome, exchanges⟩ | ⟨number, before, started, outcome, interrupted⟩
    · refine ⟨fun _ => ⟨outcome, exchanges⟩, fun number started => ⟨?_, fun earlier => ?_⟩⟩
      · rw [exchanges, same, transcript_fetched, List.length_map, Circumstances.length_stream]
        exact reached number started
      · exact absurd (reached number started) (Nat.not_le.2 earlier)
    · have fetched : (met.exchanges describe policy).filterMap fetchedIn? =
          (List.range' 1 number).map met.fetched := by
        rw [interrupted.fetched, Circumstances.stream_fetched]
        rfl
      have budget : number < UInt32.size := by
        have within := ends.length_le.2
        have fits := policy.attempts_lt
        rw [Circumstances.length_stream] at within
        omega
      refine ⟨fun late => absurd (late number started) (Nat.not_le.2 (Nat.lt_succ_of_le before)),
        fun other otherStarted => ?_⟩
      obtain rfl : number = other := Option.some.inj (started.symm.trans otherStarted)
      refine ⟨by rw [fetched, List.length_map, List.length_range'], fun _ => ⟨?_, ?_, fetched, ?_⟩⟩
      · rw [outcome, Circumstances.lastValue_stream]
      · exact UInt32.toNat_ofNat_of_lt' budget
      · rw [interrupted.judged, Circumstances.take_stream _ _ (Nat.le_succ_of_le before)]

/-- A retrieval of numbers that is cancelled in the pause after its second attempt, which fails. The
pause goes on to its end, and no third attempt is made. -/
theorem retrieval_cancelled_account_paused :
    let met : Circumstances Nat String Unit :=
      { fetched := fun number => if number = 2 then .error "refused" else .ok number
        memory := ()
        judged := fun _ value => (value == 3, ())
        moment := .duringPause 2
        yields := fun _ => false }
    met.uncancelled.outcome id (Policy.fixed 5 (.ofSeconds 1)) = .satisfied 3 3 ∧
      met.outcome id (Policy.fixed 5 (.ofSeconds 1)) = .cancelled (some 1) 2 ∧
      (met.exchanges id (Policy.fixed 5 (.ofSeconds 1))).filterMap fetchedIn? =
        [.ok 1, .error "refused"] := by
  intro met
  have whole : met.uncancelled.outcome id (Policy.fixed 5 (.ofSeconds 1)) = .satisfied 3 3 := rfl
  obtain ⟨-, history, ends, -, -, -, cancelled⟩ :=
    retrieval_cancelled_account id (Policy.fixed 5 (.ofSeconds 1)) met
  have length := ends.attempts_eq (Policy.attempts_lt _)
  rw [whole] at length
  obtain ⟨outcome, -, fetched, -⟩ := (cancelled 2 rfl).2 (length ▸ by decide)
  exact ⟨whole, outcome, fetched⟩

end Testbed.Poll
