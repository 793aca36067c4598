/-
This file proves which records wait in a publisher, and what a flush makes of them. After any calls,
the records that wait are those that were accepted since the last flush, in the order in which they
were handed over. A flush settles all of them in this order, whatever becomes of each, and gives
their number if all are acknowledged, or else the error for the first that is not.
-/

import Mathlib.Data.List.DropRight
import Testbed.Proofs.Publishing

namespace Testbed

open Session Outside

/-! ### Behind the last of a kind -/

section BehindLast

variable {Value : Type} {kind : Value → Bool} {others : List Value}

/-- The values behind the last one of a kind. -/
def behindLast (kind : Value → Bool) (values : List Value) : List Value :=
  values.rtakeWhile fun value => !kind value

theorem behindLast_append (values : List Value) (none : ∀ value ∈ others, kind value = false) :
    behindLast kind (values ++ others) = behindLast kind values ++ others := by
  have all : ∀ value ∈ others.reverse, (!kind value) = true := fun value member => by
    rw [none value (List.mem_reverse.1 member)]
    rfl
  rw [behindLast, List.rtakeWhile, List.reverse_append, List.takeWhile_append_of_pos all,
    List.reverse_append, List.reverse_reverse]
  rfl

theorem behindLast_append_cons (values : List Value) {last : Value} (isLast : kind last = true)
    (none : ∀ value ∈ others, kind value = false) :
    behindLast kind (values ++ last :: others) = others := by
  have ends : ¬ (!kind last) = true := by simp [isLast]
  rw [List.append_cons, behindLast_append _ none, behindLast, List.rtakeWhile_concat, if_neg ends,
    List.nil_append]

end BehindLast

/-! ### What counts for the records that wait -/

/-- Whether a call is a flush. -/
def isFlush : Exchange PublisherUse PublisherReply → Bool
  | ⟨.flush, _⟩ => true
  | _ => false

/-- Whether a call has handed over a record that waits from then on. -/
def isAccepted : Exchange PublisherUse PublisherReply → Bool
  | ⟨.enqueue _ _, .ok ()⟩ => true
  | _ => false

/-- Whether a flush begins. -/
def isDeadline : Exchange Action Reply → Bool
  | ⟨.deadline _, _⟩ => true
  | _ => false

/-- The record that is accepted by a producer, as it waits. -/
def accepted? : Exchange Action Reply → Option PendingDelivery
  | ⟨.submit _ outgoing, .ok delivery⟩ =>
    some { topic := outgoing.topic, key := outgoing.record.key, delivery }
  | _ => none

/-- What becomes of a record that is settled, with the moment up to which it is waited for. -/
def settlement? : Exchange Action Reply → Option (Nat × Nat × Delivery)
  | ⟨.settle delivery deadline, outcome⟩ => some (delivery, deadline, outcome)
  | _ => none

/-- Whether a warning is written. -/
def isWarning (exchange : Exchange Action Reply) : Bool :=
  match exchange.action with
  | .note event => event.level = .warn
  | _ => false

namespace Publisher

variable {publisher after : Publisher} {topic : String}
  {calls : List (Exchange PublisherUse PublisherReply)}
  {before exchanges : List (Exchange Action Reply)}

/-- What has to do with the records that wait. -/
def concernsPending : Action → Bool
  | .submit _ _ => true
  | .deadline _ => true
  | _ => false

theorem avoids_publish (offered : Except String Json) :
    Avoids concernsPending (publisher.publish offered topic) := by
  unfold publish
  split
  · exact avoids_done _
  · refine (avoids_ask _ rfl).bind fun delivery => ?_
    split
    · exact avoids_done _
    · exact (avoids_ask _ rfl).bind fun _ => avoids_done _

theorem avoids_publishAll (offered : List (Except String Json)) :
    Avoids concernsPending (publisher.publishAll topic offered) := by
  induction offered with
  | nil => exact avoids_done _
  | cons first rest inductionHypothesis =>
    refine (avoids_publish first).bind fun published => ?_
    cases published with
    | error error => exact avoids_done _
    | ok done => exact inductionHypothesis

/-- Behind its beginning, a flush neither accepts a record nor begins another flush. -/
theorem quiet_of_mem_flushing (publisher : Publisher) (deadline : Nat)
    (settled : List (PendingDelivery × Delivery)) :
    ∀ exchange ∈ settled.flatMap (publisher.settling deadline) ++
        concluding (publisher.flushed settled),
      isDeadline exchange = false ∧ accepted? exchange = none := by
  intro exchange member
  rcases List.mem_append.1 member with isSettling | isEnd
  · obtain ⟨one, -, isSettling⟩ := List.mem_flatMap.1 isSettling
    rcases List.mem_cons.1 isSettling with rfl | isWarning
    · exact ⟨rfl, rfl⟩
    · obtain ⟨reason, -, rfl⟩ := Option.map_eq_some_iff.1 (Option.mem_toList.1 isWarning)
      exact ⟨rfl, rfl⟩
  · cases isResult : publisher.flushed settled with
    | ok acknowledged =>
      rw [isResult] at isEnd
      rw [List.mem_singleton.1 isEnd]
      exact ⟨rfl, rfl⟩
    | error error =>
      rw [isResult] at isEnd
      cases isEnd

/-! ### The records that wait -/

/-- After calls in these exchanges, the records that wait are those that were accepted since the
last flush. -/
structure Waits (publisher : Publisher) (calls : List (Exchange PublisherUse PublisherReply))
    (exchanges : List (Exchange Action Reply)) : Prop where
  pending : publisher.pending = (behindLast isDeadline exchanges).filterMap accepted?
  count : publisher.pending.length = (behindLast isFlush calls).countP isAccepted

theorem waits_of_nil (nothing : publisher.pending = []) : Waits publisher [] [] where
  pending := nothing
  count := by rw [nothing]; rfl

namespace Waits

variable {call : Exchange PublisherUse PublisherReply}

/-- A call that is no flush adds the records that are accepted to those that wait. -/
theorem goOn (waits : Waits publisher calls before) (noFlush : isFlush call = false)
    (noDeadline : ∀ exchange ∈ exchanges, isDeadline exchange = false)
    (adds : after.pending = publisher.pending ++ exchanges.filterMap accepted?)
    (counts : (exchanges.filterMap accepted?).length = if isAccepted call then 1 else 0) :
    Waits after (calls ++ [call]) (before ++ exchanges) where
  pending := by
    rw [adds, waits.pending, behindLast_append _ noDeadline, List.filterMap_append]
  count := by
    rw [adds, List.length_append, waits.count, counts,
      behindLast_append _ (List.forall_mem_singleton.2 noFlush), List.countP_append,
      List.countP_singleton]

/-- A call that has nothing to do with the records that wait leaves them. -/
theorem leave {Result : Type} {session : Work Result} {result : Result}
    (waits : Waits publisher calls before) (noFlush : isFlush call = false)
    (notAccepted : isAccepted call = false) (avoids : Avoids concernsPending session)
    (run : Runs session exchanges result) :
    Waits publisher (calls ++ [call]) (before ++ exchanges) := by
  have quiet : exchanges.filterMap accepted? = [] := by
    refine List.filterMap_eq_nil_iff.2 fun ⟨action, reply⟩ member => ?_
    have unconcerned := avoids _ _ run _ member
    cases action <;> first | rfl | cases unconcerned
  refine waits.goOn noFlush (fun ⟨action, reply⟩ member => ?_) ?_ ?_
  · have unconcerned := avoids _ _ run _ member
    cases action <;> first | rfl | cases unconcerned
  · rw [quiet, List.append_nil]
  · rw [quiet, notAccepted]
    rfl

/-- A flush leaves nothing that waits. -/
theorem flush (ends : isFlush call = true) (deadline : Nat)
    (settled : List (PendingDelivery × Delivery)) (nothing : after.pending = []) :
    Waits after (calls ++ [call]) (before ++ publisher.flushing deadline settled) where
  pending := by
    -- The flush begins with its deadline, and nothing behind that counts.
    have rest := publisher.quiet_of_mem_flushing deadline settled
    rw [nothing, flushing, behindLast_append_cons _ rfl fun _ member => (rest _ member).1,
      List.filterMap_eq_nil_iff.2 fun _ member => (rest _ member).2]
  count := by
    rw [nothing, behindLast_append_cons _ ends (List.forall_mem_nil _)]
    rfl

theorem perform {use : PublisherUse} {reply : PublisherReply use}
    (waits : Waits publisher calls before)
    (run : Runs (publisher.perform use) exchanges (reply, after)) :
    Waits after (calls ++ [⟨use, reply⟩]) (before ++ exchanges) := by
  cases use with
  | publish offered topic =>
    obtain ⟨publishing, rfl⟩ := (runs_aside_iff _ _ _ _ _).1 run
    exact waits.leave rfl rfl (avoids_publish offered) publishing
  | publishAll offered topic =>
    obtain ⟨publishing, rfl⟩ := (runs_aside_iff _ _ _ _ _).1 run
    exact waits.leave rfl rfl (avoids_publishAll offered) publishing
  | enqueue offered topic =>
    cases (runs_enqueue_iff _ _).1 run with
    | accepted record delivery encoded =>
      exact waits.goOn rfl (List.forall_mem_singleton.2 rfl) rfl rfl
    | refused record cause encoded =>
      exact waits.goOn rfl (List.forall_mem_singleton.2 rfl) (List.append_nil _).symm rfl
    | malformed error refused =>
      exact waits.goOn rfl (List.forall_mem_nil _) (List.append_nil _).symm rfl
  | flush =>
    obtain ⟨deadline, settled, -, rfl, -, rfl⟩ := (runs_flush_iff _).1 run
    exact .flush rfl deadline settled rfl

theorem used {own : List (Exchange PublisherUse PublisherReply)}
    (used : Used publisher own exchanges after) (waits : Waits publisher calls before) :
    Waits after (calls ++ own) (before ++ exchanges) := by
  -- What was done before grows with each call, so it is left open in the induction.
  induction used generalizing calls before with
  | nil publisher =>
    rw [List.append_nil, List.append_nil]
    exact waits
  | cons use reply own now others publisher next after first rest inductionHypothesis =>
    rw [List.append_cons, ← List.append_assoc]
    exact inductionHypothesis (waits.perform first)

end Waits

/-! ### The account of a flush -/

/-- The outcomes of a flush are those of the records that wait, in order and with one deadline. -/
theorem filterMap_settlement? (deadline : Nat) (settled : List (PendingDelivery × Delivery)) :
    (publisher.flushing deadline settled).filterMap settlement? =
      settled.map fun one => (one.1.delivery, deadline, one.2) := by
  rw [filterMap_flushing deadline settled rfl fun result => by cases result <;> rfl,
    List.map_eq_flatMap]
  congr 1
  funext one
  unfold settling
  cases publisher.reason? one.2 <;> rfl

/-- A flush warns about each record that is not acknowledged, and about no other. -/
theorem filter_isWarning (deadline : Nat) (settled : List (PendingDelivery × Delivery)) :
    (publisher.flushing deadline settled).filter isWarning =
      settled.filterMap fun one => (publisher.reason? one.2).map (warning one.1) := by
  rw [← List.filterMap_eq_filter,
    filterMap_flushing deadline settled rfl fun result => by cases result <;> rfl,
    List.filterMap_eq_flatMap_toList]
  congr 1
  funext one
  unfold settling
  cases publisher.reason? one.2 <;> rfl

theorem flushed_eq_ok_iff (settled : List (PendingDelivery × Delivery)) (count : Nat) :
    publisher.flushed settled = .ok count ↔
      count = settled.length ∧ ∀ one ∈ settled, one.2 = .acknowledged := by
  rw [← findSome?_failure?_eq_none_iff]
  unfold flushed
  cases settled.findSome? publisher.failure? <;> simp [eq_comm]

/-- The error is that for the first record that is not acknowledged. -/
theorem flushed_eq_error_iff (settled : List (PendingDelivery × Delivery)) (error : PublishError) :
    publisher.flushed settled = .error error ↔
      ∃ earlier waiting delivery later reason, settled = earlier ++ (waiting, delivery) :: later ∧
        (∀ one ∈ earlier, one.2 = .acknowledged) ∧ publisher.reason? delivery = some reason ∧
        error = .timeout waiting.topic waiting.key reason := by
  have isFirst : publisher.flushed settled = .error error ↔
      settled.findSome? publisher.failure? = some error := by
    unfold flushed
    cases settled.findSome? publisher.failure? <;> simp
  rw [isFirst, List.findSome?_eq_some_iff]
  constructor
  · rintro ⟨earlier, ⟨waiting, delivery⟩, later, rfl, fails, before⟩
    obtain ⟨reason, isReason, rfl⟩ := Option.map_eq_some_iff.1 fails
    exact ⟨earlier, waiting, delivery, later, reason, rfl,
      fun one member => (failure?_eq_none_iff one).1 (before one member), isReason, rfl⟩
  · rintro ⟨earlier, waiting, delivery, later, reason, rfl, before, isReason, rfl⟩
    exact ⟨earlier, (waiting, delivery), later, rfl,
      Option.map_eq_some_iff.2 ⟨reason, isReason, rfl⟩,
      fun one member => (failure?_eq_none_iff one).2 (before one member)⟩

theorem waits_of_runs_make {config : PublisherConfig} {making : List (Exchange Action Reply)}
    (made : Runs (make config) making (.ok publisher)) : Waits publisher [] [] := by
  obtain ⟨opened, rest, rfl, second⟩ := (runs_act_bind_iff _ _ _ _).1 made
  cases opened with
  | error cause =>
    obtain ⟨-, same⟩ := (runs_done_iff _ _ _).1 second
    cases same
  | ok producer =>
    obtain ⟨-, same⟩ := (runs_done_iff _ _ _).1 second
    cases same
    exact waits_of_nil rfl

/-- After any calls to a publisher that was made, the records that wait are those that were accepted
since the last flush, in the order in which they were handed over, and there are as many of them as
successful calls to hand one over. A flush can go in just these ways: every record that waits gets
some outcome, one after another up to a common deadline, and none waits afterwards. There is a
warning for each record that is not acknowledged. The result is the number of the records if all are
acknowledged, and else the error for the first that is not. -/
theorem flush_account {config : PublisherConfig} {making : List (Exchange Action Reply)}
    (made : Runs (make config) making (.ok publisher))
    (used : Used publisher calls exchanges after) :
    after.pending.length = (behindLast isFlush calls).countP isAccepted ∧
    after.pending = (behindLast isDeadline exchanges).filterMap accepted? ∧
    (∀ flushing result final, Runs after.flush flushing (result, final) ↔
      ∃ deadline settled, settled.map (·.1) = after.pending ∧
        flushing = after.flushing deadline settled ∧ result = after.flushed settled ∧
        final = { after with pending := [] }) ∧
    ∀ deadline settled, settled.map (·.1) = after.pending →
      (after.flushing deadline settled).filterMap settlement? =
        settled.map (fun one => (one.1.delivery, deadline, one.2)) ∧
      (after.flushing deadline settled).filter isWarning =
        settled.filterMap (fun one => (after.reason? one.2).map (warning one.1)) ∧
      (∀ count, after.flushed settled = .ok count ↔
        count = after.pending.length ∧ ∀ one ∈ settled, one.2 = .acknowledged) ∧
      ∀ error, after.flushed settled = .error error ↔
        ∃ earlier waiting delivery later reason,
          settled = earlier ++ (waiting, delivery) :: later ∧
          (∀ one ∈ earlier, one.2 = .acknowledged) ∧ after.reason? delivery = some reason ∧
          error = .timeout waiting.topic waiting.key reason := by
  have waits := (waits_of_runs_make made).used used
  refine ⟨waits.count, waits.pending, fun _ _ _ => runs_flush_iff _,
    fun deadline settled isWhole => ⟨filterMap_settlement? _ _, filter_isWarning _ _,
      fun count => ?_, flushed_eq_error_iff _⟩⟩
  rw [← isWhole, List.length_map]
  exact flushed_eq_ok_iff settled count

/-- Of two records that wait, the first is refused. The second is waited for nevertheless, and the
error is that for the first. -/
theorem flush_account_refused :
    ∃ making exchanges after flushing, Runs (make idle.config) making (.ok idle) ∧
      Used idle [⟨.enqueue event "orders", .ok ()⟩, ⟨.enqueue event "orders", .ok ()⟩] exchanges
        after ∧
      after.pending.length = 2 ∧
      Runs after.flush flushing
        (.error (.timeout "orders" "a" "refused"), { after with pending := [] }) ∧
      flushing.filterMap settlement? = [(5, 9, .refused "refused"), (6, 9, .acknowledged)] ∧
      (flushing.filter isWarning).length = 1 := by
  obtain ⟨record, encoded, isKey⟩ : ∃ record, idle.encode event = .ok record ∧ record.key = "a" :=
    ⟨_, rfl, rfl⟩
  have made : Runs (make idle.config) [⟨.openProducer _, .ok 1⟩] (.ok idle) :=
    (runs_act_bind_iff _ _ _ _).2 ⟨.ok 1, [], rfl, .done _⟩
  let one (delivery : Nat) : PendingDelivery := { topic := "orders", key := record.key, delivery }
  let waiting : Publisher := { idle with pending := [one 5] }
  let after : Publisher := { idle with pending := [one 5, one 6] }
  have first : Runs (idle.enqueue event "orders") _ (.ok (), waiting) :=
    (runs_enqueue_iff _ _).2 (.accepted record 5 encoded)
  have second : Runs (waiting.enqueue event "orders") _ (.ok (), after) :=
    (runs_enqueue_iff _ _).2 (.accepted record 6 encoded)
  have used : Used idle [⟨.enqueue event "orders", .ok ()⟩, ⟨.enqueue event "orders", .ok ()⟩] _
      after := .cons _ _ _ _ _ _ _ _ first (.cons _ _ _ _ _ _ _ _ second (.nil _))
  obtain ⟨count, -, flushes, outcomes⟩ := flush_account made used
  obtain ⟨settlements, warnings, -, fails⟩ :=
    outcomes 9 [(one 5, .refused "refused"), (one 6, .acknowledged)] rfl
  have failed := (fails (.timeout "orders" "a" "refused")).2
    ⟨[], one 5, .refused "refused", _, "refused", rfl, List.forall_mem_nil _, rfl,
      congrArg (PublishError.timeout "orders" · "refused") isKey.symm⟩
  exact ⟨_, _, after, _, made, used, count, (flushes _ _ _).2 ⟨9, _, rfl, rfl, failed.symm, rfl⟩,
    settlements, by rw [warnings]; rfl⟩

end Publisher

end Testbed
