/-
This file proves in which order a publisher hands records over, whatever is done with it and however
the producer and the broker answer. Each call hands over records that it was given, as they are
encoded and with its topic: one that publishes many a prefix of them, each record after the one
before it is acknowledged, and up to the first that fails.
-/

import Mathlib.Data.List.Forall2
import Testbed.Proofs.Runs
import Testbed.Publisher

namespace Testbed

open Session Outside

/-- What is done with a publisher. -/
inductive PublisherUse where
  | publish (offered : Except String Json) (topic : String)
  | publishAll (offered : List (Except String Json)) (topic : String)
  | enqueue (offered : Except String Json) (topic : String)
  | flush

/-- What each use of a publisher is answered with. -/
abbrev PublisherReply : PublisherUse → Type
  | .publish _ _ => Except PublishError Unit
  | .publishAll _ _ => Except PublishError Unit
  | .enqueue _ _ => Except PublishError Unit
  | .flush => Except PublishError Nat

/-! ### Hand-overs -/

/-- The record that an action hands over, with the producer it goes to. -/
def handOver? : Action → Option (Nat × OutgoingRecord)
  | .publish producer record _ => some (producer, record)
  | .submit producer record => some (producer, record)
  | _ => none

/-- The records that are handed over, in order. -/
def handOvers (exchanges : List (Exchange Action Reply)) : List (Nat × OutgoingRecord) :=
  exchanges.filterMap fun exchange => handOver? exchange.action

theorem handOvers_append (first second : List (Exchange Action Reply)) :
    handOvers (first ++ second) = handOvers first ++ handOvers second :=
  List.filterMap_append

namespace Publisher

variable {publisher after : Publisher} {topic : String} {exchanges : List (Exchange Action Reply)}

/-- Carries out a use of a publisher. -/
def perform : (use : PublisherUse) → Publisher → Work (PublisherReply use × Publisher)
  | .publish offered topic, publisher => do
    let published ← publisher.publish offered topic
    return (published, publisher)
  | .publishAll offered topic, publisher => do
    let published ← publisher.publishAll topic offered
    return (published, publisher)
  | .enqueue offered topic, publisher => publisher.enqueue offered topic
  | .flush, publisher => publisher.flush

/-- From a publisher, these calls were made, one after another, in those exchanges, and it was left
as another. -/
abbrev Used : Publisher → List (Exchange PublisherUse PublisherReply) →
    List (Exchange Action Reply) → Publisher → Prop :=
  Threaded fun use publisher => publisher.perform use

/-- The record that is offered on its way to a topic; none if it can not be encoded. -/
def outgoing? (publisher : Publisher) (topic : String) (offered : Except String Json) :
    Option OutgoingRecord :=
  (publisher.encode offered).toOption.map (OutgoingRecord.mk topic)

theorem outgoing?_of_ok {offered : Except String Json} {record : EncodedRecord}
    (encoded : publisher.encode offered = .ok record) :
    publisher.outgoing? topic offered = some { topic, record } := by
  unfold outgoing?
  rw [encoded]
  rfl

theorem outgoing?_of_error {offered : Except String Json} {error : RecordError}
    (refused : publisher.encode offered = .error error) :
    publisher.outgoing? topic offered = none := by
  unfold outgoing?
  rw [refused]
  rfl

@[simp] theorem reason?_eq_none_iff (delivery : Delivery) :
    publisher.reason? delivery = none ↔ delivery = .acknowledged := by
  cases delivery <;> simp [reason?]

theorem not_acknowledged {delivery : Delivery} {reason : String}
    (isReason : publisher.reason? delivery = some reason) : delivery ≠ .acknowledged := by
  rintro rfl
  cases isReason

/-! ### Single records -/

/-- What is exchanged when a record is published and acknowledged. -/
def acknowledging (publisher : Publisher) (topic : String) (record : EncodedRecord) :
    List (Exchange Action Reply) :=
  [⟨.publish publisher.producer { topic, record } publisher.config.ackTimeout, .acknowledged⟩,
    noted .debug "lake.publish" "Record acknowledged"
      [("topic", .text topic), ("key", .text record.key),
        ("timestamp_ms", .number record.timestamp.toInt)]]

/-- How the publication of a record goes. -/
inductive Published (publisher : Publisher) (topic : String) (offered : Except String Json) :
    List (Exchange Action Reply) → Except PublishError Unit → Prop where
  | acknowledged (record : EncodedRecord) (encoded : publisher.encode offered = .ok record) :
      Published publisher topic offered (publisher.acknowledging topic record) (.ok ())
  | malformed (error : RecordError) (refused : publisher.encode offered = .error error) :
      Published publisher topic offered [] (.error (.record error))
  | unacknowledged (record : EncodedRecord) (delivery : Delivery) (reason : String)
      (encoded : publisher.encode offered = .ok record)
      (isReason : publisher.reason? delivery = some reason) :
      Published publisher topic offered
        [⟨.publish publisher.producer { topic, record } publisher.config.ackTimeout, delivery⟩]
        (.error (.timeout topic record.key reason))

theorem runs_publish_iff (offered : Except String Json) (result : Except PublishError Unit) :
    Runs (publisher.publish offered topic) exchanges result ↔
      publisher.Published topic offered exchanges result := by
  constructor
  · intro run
    unfold publish at run
    split at run
    case h_1 error refused =>
      obtain ⟨rfl, rfl⟩ := (runs_done_iff _ _ _).1 run
      exact .malformed error refused
    case h_2 record encoded =>
      obtain ⟨delivery, rest, rfl, second⟩ := (runs_act_bind_iff _ _ _ _).1 run
      split at second
      case h_1 reason isReason =>
        obtain ⟨rfl, rfl⟩ := (runs_done_iff _ _ _).1 second
        exact .unacknowledged record delivery reason encoded isReason
      case h_2 noReason =>
        cases (reason?_eq_none_iff delivery).1 noReason
        obtain ⟨rfl, rfl⟩ := (runs_note_done_iff _ _ _ _ _ _ _).1 second
        exact .acknowledged record encoded
  · intro published
    unfold publish
    cases published with
    | acknowledged record encoded =>
      rw [encoded]
      exact (runs_act_bind_iff _ _ _ _).2 ⟨.acknowledged, _, rfl,
        (runs_note_done_iff _ _ _ _ _ _ _).2 ⟨rfl, rfl⟩⟩
    | malformed error refused =>
      rw [refused]
      exact .done _
    | unacknowledged record delivery reason encoded isReason =>
      rw [encoded]
      refine (runs_act_bind_iff _ _ _ _).2 ⟨delivery, _, rfl, ?_⟩
      rw [isReason]
      exact .done _

/-- A record that can be encoded is handed over once, and another is not. -/
theorem Published.handOvers_eq {offered : Except String Json} {result : Except PublishError Unit}
    (published : publisher.Published topic offered exchanges result) :
    handOvers exchanges =
      (publisher.outgoing? topic offered).toList.map (publisher.producer, ·) := by
  cases published with
  | acknowledged record encoded =>
    rw [outgoing?_of_ok encoded]
    rfl
  | malformed error refused =>
    rw [outgoing?_of_error refused]
    rfl
  | unacknowledged record delivery reason encoded isReason =>
    rw [outgoing?_of_ok encoded]
    rfl

/-- How a record is handed over without waiting. -/
inductive Enqueued (publisher : Publisher) (topic : String) (offered : Except String Json) :
    List (Exchange Action Reply) → Except PublishError Unit → Publisher → Prop where
  | accepted (record : EncodedRecord) (delivery : Nat)
      (encoded : publisher.encode offered = .ok record) :
      Enqueued publisher topic offered
        [⟨.submit publisher.producer { topic, record }, .ok delivery⟩] (.ok ())
        { publisher with
          pending := publisher.pending ++ [{ topic, key := record.key, delivery }] }
  | refused (record : EncodedRecord) (cause : String)
      (encoded : publisher.encode offered = .ok record) :
      Enqueued publisher topic offered
        [⟨.submit publisher.producer { topic, record }, .error cause⟩] (.error (.client cause))
        publisher
  | malformed (error : RecordError) (refused : publisher.encode offered = .error error) :
      Enqueued publisher topic offered [] (.error (.record error)) publisher

theorem runs_enqueue_iff (offered : Except String Json) (result : Except PublishError Unit) :
    Runs (publisher.enqueue offered topic) exchanges (result, after) ↔
      publisher.Enqueued topic offered exchanges result after := by
  constructor
  · intro run
    unfold enqueue at run
    split at run
    case h_1 error refused =>
      obtain ⟨rfl, rfl, rfl⟩ := (runs_done_pair_iff _ _ _ _ _).1 run
      exact .malformed error refused
    case h_2 record encoded =>
      obtain ⟨submitted, rest, rfl, second⟩ := (runs_act_bind_iff _ _ _ _).1 run
      cases submitted with
      | error cause =>
        obtain ⟨rfl, rfl, rfl⟩ := (runs_done_pair_iff _ _ _ _ _).1 second
        exact .refused record cause encoded
      | ok delivery =>
        obtain ⟨rfl, rfl, rfl⟩ := (runs_done_pair_iff _ _ _ _ _).1 second
        exact .accepted record delivery encoded
  · intro enqueued
    unfold enqueue
    cases enqueued with
    | accepted record delivery encoded =>
      rw [encoded]
      exact (runs_act_bind_iff _ _ _ _).2 ⟨.ok delivery, [], rfl, .done _⟩
    | refused record cause encoded =>
      rw [encoded]
      exact (runs_act_bind_iff _ _ _ _).2 ⟨.error cause, [], rfl, .done _⟩
    | malformed error refused =>
      rw [refused]
      exact .done _

theorem Enqueued.handOvers_eq {offered : Except String Json} {result : Except PublishError Unit}
    (enqueued : publisher.Enqueued topic offered exchanges result after) :
    handOvers exchanges =
      (publisher.outgoing? topic offered).toList.map (publisher.producer, ·) := by
  cases enqueued with
  | accepted record delivery encoded =>
    rw [outgoing?_of_ok encoded]
    rfl
  | refused record cause encoded =>
    rw [outgoing?_of_ok encoded]
    rfl
  | malformed error refused =>
    rw [outgoing?_of_error refused]
    rfl

/-! ### Many records -/

/-- Where a publication of many records ends: behind the last of them, or at the first that fails,
and then no record behind it is looked at. -/
inductive Halts (publisher : Publisher) (topic : String) :
    List (Except String Json) → List (Exchange Action Reply) → Except PublishError Unit → Prop where
  | completed : Halts publisher topic [] [] (.ok ())
  | failed (offered : Except String Json) (rest : List (Except String Json))
      (exchanges : List (Exchange Action Reply)) (error : PublishError)
      (published : publisher.Published topic offered exchanges (.error error)) :
      Halts publisher topic (offered :: rest) exchanges (.error error)

/-- Records are published one after another, each acknowledged before the next is handed over, up to
where the publication halts. -/
def PublishedInOrder (publisher : Publisher) (topic : String) (offered : List (Except String Json))
    (exchanges : List (Exchange Action Reply)) (result : Except PublishError Unit) : Prop :=
  ∃ (acknowledged rest : List (Except String Json)) (records : List EncodedRecord)
    (last : List (Exchange Action Reply)),
    offered = acknowledged ++ rest ∧ acknowledged.map publisher.encode = records.map .ok ∧
      exchanges = records.flatMap (publisher.acknowledging topic) ++ last ∧
      publisher.Halts topic rest last result

theorem runs_publishAll_iff (offered : List (Except String Json))
    (result : Except PublishError Unit) :
    Runs (publisher.publishAll topic offered) exchanges result ↔
      publisher.PublishedInOrder topic offered exchanges result := by
  induction offered generalizing exchanges with
  | nil =>
    constructor
    · intro run
      obtain ⟨rfl, rfl⟩ := (runs_done_iff _ _ _).1 run
      exact ⟨[], [], [], [], rfl, rfl, rfl, .completed⟩
    · rintro ⟨acknowledged, rest, records, last, isWhole, encoded, rfl, halts⟩
      obtain ⟨rfl, rfl⟩ := List.nil_eq_append_iff.1 isWhole
      cases List.map_eq_nil_iff.1 encoded.symm
      cases halts
      exact .done _
  | cons first others inductionHypothesis =>
    constructor
    · intro run
      obtain ⟨before, published, rest, rfl, start, second⟩ := (runs_bind_iff _ _ _ _).1 run
      have isPublished := (runs_publish_iff _ _).1 start
      -- The publication halts at the first record, or it is acknowledged and the others follow.
      cases published with
      | error error =>
        obtain ⟨rfl, rfl⟩ := (runs_done_iff _ _ _).1 second
        rw [List.append_nil]
        exact ⟨[], _, [], before, rfl, rfl, rfl, .failed first others before error isPublished⟩
      | ok done =>
        cases isPublished with
        | acknowledged record encoded =>
          obtain ⟨acknowledged, left, records, last, rfl, allEncoded, rfl, halts⟩ :=
            inductionHypothesis.1 second
          refine ⟨first :: acknowledged, left, record :: records, last, rfl, ?_, ?_, halts⟩
          · rw [List.map_cons, List.map_cons, encoded, allEncoded]
          · rw [List.flatMap_cons, List.append_assoc]
    · rintro ⟨acknowledged, rest, records, last, isWhole, encoded, rfl, halts⟩
      cases acknowledged with
      | nil =>
        cases List.map_eq_nil_iff.1 encoded.symm
        cases isWhole
        cases halts with
        | failed _ _ _ error published =>
          exact (runs_bind_iff _ _ _ _).2
            ⟨last, .error error, [], (List.append_nil _).symm, (runs_publish_iff _ _).2 published,
              .done _⟩
      | cons _ acknowledged =>
        obtain ⟨rfl, rfl⟩ := List.cons.inj isWhole
        cases records with
        | nil => cases encoded
        | cons record records =>
          obtain ⟨isEncoded, allEncoded⟩ := List.cons.inj encoded
          rw [List.flatMap_cons, List.append_assoc]
          exact ((runs_publish_iff _ _).2 (.acknowledged record isEncoded)).bind
            (inductionHypothesis.2 ⟨acknowledged, rest, records, last, rfl, allEncoded, rfl, halts⟩)

/-- The records of an acknowledged prefix are those it offers. -/
theorem filterMap_outgoing? {offered : List (Except String Json)} {records : List EncodedRecord}
    (encoded : offered.map publisher.encode = records.map .ok) :
    offered.filterMap (publisher.outgoing? topic) =
      records.map (OutgoingRecord.mk topic) := by
  let outgoing (encoding : Except RecordError EncodedRecord) : Option OutgoingRecord :=
    encoding.toOption.map (OutgoingRecord.mk topic)
  calc
    offered.filterMap (publisher.outgoing? topic) =
        (offered.map publisher.encode).filterMap outgoing := by
      rw [List.filterMap_map]
      rfl
    _ = records.filterMap fun record => some (OutgoingRecord.mk topic record) := by
      rw [encoded, List.filterMap_map]
      rfl
    _ = records.map (OutgoingRecord.mk topic) := congrFun List.filterMap_eq_map' records

theorem handOvers_acknowledging (records : List EncodedRecord) :
    handOvers (records.flatMap (publisher.acknowledging topic)) =
      (records.map (OutgoingRecord.mk topic)).map (publisher.producer, ·) := by
  induction records with
  | nil => rfl
  | cons record rest inductionHypothesis =>
    rw [List.flatMap_cons, handOvers_append, inductionHypothesis]
    rfl

theorem Halts.handOvers_eq {rest : List (Except String Json)} {result : Except PublishError Unit}
    (halts : publisher.Halts topic rest exchanges result) :
    ∃ records, handOvers exchanges = records.map (publisher.producer, ·) ∧
      records <+: rest.filterMap (publisher.outgoing? topic) := by
  cases halts with
  | completed => exact ⟨[], rfl, List.nil_prefix⟩
  | failed offered rest _ error published =>
    refine ⟨_, published.handOvers_eq, ?_⟩
    rw [List.filterMap_cons]
    cases publisher.outgoing? topic offered with
    | none => exact List.nil_prefix
    | some record => exact ⟨rest.filterMap (publisher.outgoing? topic), rfl⟩

/-- A publication of many records hands a prefix of those over that can be encoded. -/
theorem PublishedInOrder.handOvers_eq {offered : List (Except String Json)}
    {result : Except PublishError Unit}
    (published : publisher.PublishedInOrder topic offered exchanges result) :
    ∃ records, handOvers exchanges = records.map (publisher.producer, ·) ∧
      records <+: offered.filterMap (publisher.outgoing? topic) := by
  obtain ⟨acknowledged, rest, records, last, rfl, encoded, rfl, halts⟩ := published
  obtain ⟨others, handsOver, isPrefix⟩ := halts.handOvers_eq
  refine ⟨records.map (OutgoingRecord.mk topic) ++ others, ?_, ?_⟩
  · rw [handOvers_append, handOvers_acknowledging, handsOver, List.map_append]
  · rw [List.filterMap_append, filterMap_outgoing? encoded]
    exact (List.prefix_append_right_inj _).2 isPrefix

/-- Records are published without a failure just if all of them are acknowledged. -/
theorem PublishedInOrder.eq_ok_iff {offered : List (Except String Json)}
    {result : Except PublishError Unit}
    (published : publisher.PublishedInOrder topic offered exchanges result) :
    result = .ok () ↔ ∃ records : List EncodedRecord,
      offered.map publisher.encode = records.map .ok ∧
        exchanges = records.flatMap (publisher.acknowledging topic) := by
  constructor
  · rintro rfl
    obtain ⟨acknowledged, rest, records, last, rfl, encoded, rfl, halts⟩ := published
    cases halts
    exact ⟨records, by rw [List.append_nil, encoded], List.append_nil _⟩
  · rintro ⟨records, encoded, rfl⟩
    -- The run in which all are acknowledged has the same exchanges, so it is the same run.
    have completed : publisher.PublishedInOrder topic offered
        (records.flatMap (publisher.acknowledging topic)) (.ok ()) :=
      ⟨offered, [], records, [], (List.append_nil _).symm, encoded, (List.append_nil _).symm,
        .completed⟩
    exact (((runs_publishAll_iff _ _).2 published).unique ((runs_publishAll_iff _ _).2 completed)
      (show _ ++ [] = _ ++ [] from rfl)).2

/-! ### Flushes -/

/-- The warning about a record that is not acknowledged. -/
def warning (waiting : PendingDelivery) (reason : String) : Exchange Action Reply :=
  noted .warn "lake.publish" "Record not acknowledged"
    [("topic", .text waiting.topic), ("key", .text waiting.key), ("reason", .text reason)]

/-- What is exchanged about a record that waits: what becomes of it, and the warning if it is not
acknowledged. -/
def settling (publisher : Publisher) (deadline : Nat) (settled : PendingDelivery × Delivery) :
    List (Exchange Action Reply) :=
  ⟨.settle settled.1.delivery deadline, settled.2⟩ ::
    ((publisher.reason? settled.2).map (warning settled.1)).toList

/-- The error for a record, if it is not acknowledged. -/
def failure? (publisher : Publisher) (settled : PendingDelivery × Delivery) :
    Option PublishError :=
  (publisher.reason? settled.2).map (.timeout settled.1.topic settled.1.key)

/-- What a flush gives: the number of the records if all are acknowledged, or else the error for the
first that is not. -/
def flushed (publisher : Publisher) (settled : List (PendingDelivery × Delivery)) :
    Except PublishError Nat :=
  match settled.findSome? publisher.failure? with
  | some error => .error error
  | none => .ok settled.length

/-- What is written at the end of a flush. -/
def concluding : Except PublishError Nat → List (Exchange Action Reply)
  | .ok acknowledged =>
    [noted .debug "lake.publish" "Flushed pending records" [("acknowledged", .number acknowledged)]]
  | .error _ => []

/-- What is exchanged in a flush. -/
def flushing (publisher : Publisher) (deadline : Nat)
    (settled : List (PendingDelivery × Delivery)) : List (Exchange Action Reply) :=
  ⟨.deadline publisher.config.ackTimeout, deadline⟩ ::
    (settled.flatMap (publisher.settling deadline) ++ concluding (publisher.flushed settled))

/-- One record is settled, and then the others, whatever becomes of it. -/
theorem runs_settleAll_cons_iff (deadline : Nat) (waiting : PendingDelivery)
    (rest : List PendingDelivery) (acknowledged : Nat) (error : Option PublishError) :
    Runs (publisher.settleAll deadline (waiting :: rest)) exchanges (acknowledged, error) ↔
      ∃ delivery others among later,
        exchanges = publisher.settling deadline (waiting, delivery) ++ others ∧
        Runs (publisher.settleAll deadline rest) others (among, later) ∧
        acknowledged = (if delivery = .acknowledged then among + 1 else among) ∧
        error = (publisher.failure? (waiting, delivery)).or later := by
  constructor
  · intro run
    obtain ⟨delivery, exchanges, rfl, second⟩ := (runs_act_bind_iff _ _ _ _).1 run
    unfold settling failure?
    split at second
    case h_1 noReason =>
      obtain ⟨⟨among, later⟩, others, same⟩ := (runs_bind_done_iff _ _ _ _).1 second
      obtain ⟨rfl, rfl⟩ := Prod.mk.inj same
      refine ⟨delivery, exchanges, _, _, ?_, others, ?_, ?_⟩
      · rw [noReason]
        rfl
      · rw [if_pos ((reason?_eq_none_iff delivery).1 noReason)]
      · rw [noReason]
        rfl
    case h_2 reason isReason =>
      obtain ⟨_, exchanges, rfl, third⟩ := (runs_act_bind_iff _ _ _ _).1 second
      obtain ⟨⟨among, later⟩, others, same⟩ := (runs_bind_done_iff _ _ _ _).1 third
      obtain ⟨rfl, rfl⟩ := Prod.mk.inj same
      refine ⟨delivery, exchanges, _, _, ?_, others, ?_, ?_⟩
      · rw [isReason]
        rfl
      · rw [if_neg (not_acknowledged isReason)]
      · rw [isReason]
        rfl
  · rintro ⟨delivery, others, among, later, rfl, run, rfl, rfl⟩
    refine (runs_act_bind_iff _ _ _ _).2 ⟨delivery, _, rfl, ?_⟩
    unfold failure?
    cases isReason : publisher.reason? delivery with
    | none =>
      rw [if_pos ((reason?_eq_none_iff delivery).1 isReason)]
      exact (runs_bind_done_iff _ _ _ _).2 ⟨(among, later), run, rfl⟩
    | some reason =>
      rw [if_neg (not_acknowledged isReason)]
      exact (runs_act_bind_iff _ _ _ _).2 ⟨(), _, rfl,
        (runs_bind_done_iff _ _ _ _).2 ⟨(among, later), run, rfl⟩⟩

/-- All records that wait are settled one after another. The error is that for the first of them
that is not acknowledged. -/
theorem runs_settleAll_iff (deadline : Nat) (pending : List PendingDelivery)
    (acknowledged : Nat) (error : Option PublishError) :
    Runs (publisher.settleAll deadline pending) exchanges (acknowledged, error) ↔
      ∃ settled : List (PendingDelivery × Delivery), settled.map (·.1) = pending ∧
        exchanges = settled.flatMap (publisher.settling deadline) ∧
        acknowledged = settled.countP (fun one => one.2 = .acknowledged) ∧
        error = settled.findSome? publisher.failure? := by
  induction pending generalizing exchanges acknowledged error with
  | nil =>
    constructor
    · intro run
      obtain ⟨rfl, rfl, rfl⟩ := (runs_done_pair_iff _ _ _ _ _).1 run
      exact ⟨[], rfl, rfl, rfl, rfl⟩
    · rintro ⟨settled, isWhole, rfl, rfl, rfl⟩
      cases List.map_eq_nil_iff.1 isWhole
      exact .done _
  | cons waiting rest inductionHypothesis =>
    rw [runs_settleAll_cons_iff]
    constructor
    · rintro ⟨delivery, others, among, later, rfl, run, rfl, rfl⟩
      obtain ⟨settled, rfl, rfl, rfl, rfl⟩ := (inductionHypothesis _ _).1 run
      refine ⟨(waiting, delivery) :: settled, rfl, List.flatMap_cons.symm, ?_, ?_⟩
      · rw [List.countP_cons]
        split <;> simp_all
      · rw [List.findSome?_cons]
        cases publisher.failure? (waiting, delivery) <;> rfl
    · rintro ⟨settled, isWhole, rfl, rfl, rfl⟩
      obtain ⟨⟨_, delivery⟩, settled, rfl, rfl, isRest⟩ := List.map_eq_cons_iff.1 isWhole
      refine ⟨delivery, _, _, _, List.flatMap_cons,
        (inductionHypothesis _ _).2 ⟨settled, isRest, rfl, rfl, rfl⟩, ?_, ?_⟩
      · rw [List.countP_cons]
        split <;> simp_all
      · rw [List.findSome?_cons]
        cases publisher.failure? _ <;> rfl

@[simp] theorem failure?_eq_none_iff (settled : PendingDelivery × Delivery) :
    publisher.failure? settled = none ↔ settled.2 = .acknowledged := by
  rw [failure?, Option.map_eq_none_iff, reason?_eq_none_iff]

theorem flushed_eq_ok {settled : List (PendingDelivery × Delivery)}
    (none : settled.findSome? publisher.failure? = none) :
    publisher.flushed settled = .ok settled.length := by
  rw [flushed, none]

theorem flushed_eq_error {settled : List (PendingDelivery × Delivery)} {error : PublishError}
    (first : settled.findSome? publisher.failure? = some error) :
    publisher.flushed settled = .error error := by
  rw [flushed, first]

theorem findSome?_failure?_eq_none_iff (settled : List (PendingDelivery × Delivery)) :
    settled.findSome? publisher.failure? = none ↔ ∀ one ∈ settled, one.2 = .acknowledged := by
  simp only [List.findSome?_eq_none_iff, failure?_eq_none_iff]

/-- If no record fails, all are counted. -/
theorem countP_acknowledged {settled : List (PendingDelivery × Delivery)}
    (none : settled.findSome? publisher.failure? = none) :
    settled.countP (fun one => one.2 = .acknowledged) = settled.length :=
  List.countP_eq_length.2 fun one member =>
    decide_eq_true ((findSome?_failure?_eq_none_iff settled).1 none one member)

/-- A flush settles all records that wait, and none waits after it. -/
theorem runs_flush_iff (result : Except PublishError Nat) :
    Runs publisher.flush exchanges (result, after) ↔
      ∃ deadline settled, settled.map (·.1) = publisher.pending ∧
        exchanges = publisher.flushing deadline settled ∧ result = publisher.flushed settled ∧
        after = { publisher with pending := [] } := by
  constructor
  · intro run
    obtain ⟨deadline, exchanges, rfl, second⟩ := (runs_act_bind_iff _ _ _ _).1 run
    obtain ⟨between, ⟨acknowledged, error⟩, last, rfl, settling, third⟩ :=
      (runs_bind_iff _ _ _ _).1 second
    obtain ⟨settled, isWhole, rfl, rfl, rfl⟩ := (runs_settleAll_iff _ _ _ _).1 settling
    refine ⟨deadline, settled, isWhole, ?_⟩
    cases first : settled.findSome? publisher.failure? with
    | some error =>
      rw [first] at third
      obtain ⟨rfl, rfl, rfl⟩ := (runs_done_pair_iff _ _ _ _ _).1 third
      rw [flushing, flushed_eq_error first]
      exact ⟨rfl, rfl, rfl⟩
    | none =>
      rw [first, countP_acknowledged first] at third
      obtain ⟨rfl, same⟩ := (runs_note_done_iff _ _ _ _ _ _ _).1 third
      obtain ⟨rfl, rfl⟩ := Prod.mk.inj same
      rw [flushing, flushed_eq_ok first]
      exact ⟨rfl, rfl, rfl⟩
  · rintro ⟨deadline, settled, isWhole, rfl, rfl, rfl⟩
    refine (runs_act_bind_iff _ _ _ _).2 ⟨deadline, _, rfl, ?_⟩
    refine ((runs_settleAll_iff _ _ _ _).2 ⟨settled, isWhole, rfl, rfl, rfl⟩).bind ?_
    cases first : settled.findSome? publisher.failure? with
    | some error =>
      rw [flushed_eq_error first]
      exact .done _
    | none =>
      rw [flushed_eq_ok first, countP_acknowledged first]
      exact (runs_note_done_iff _ _ _ _ _ _ _).2 ⟨rfl, rfl⟩

/-- What is read off a flush is read off its records, if nothing is read off its beginning and its
end. -/
theorem filterMap_flushing {Value : Type} {read : Exchange Action Reply → Option Value}
    (deadline : Nat) (settled : List (PendingDelivery × Delivery))
    (beginning : read ⟨.deadline publisher.config.ackTimeout, deadline⟩ = none)
    (ending : ∀ result, (concluding result).filterMap read = []) :
    (publisher.flushing deadline settled).filterMap read =
      settled.flatMap fun one => (publisher.settling deadline one).filterMap read := by
  rw [flushing, List.filterMap_cons_none beginning, List.filterMap_append, ending,
    List.append_nil, List.filterMap_flatMap]

/-- A publisher that nothing waits for. -/
def idle : Publisher where
  producer := 1
  config := { brokers := "localhost:9092" }
  pending := []

/-- An event with a key and a time. -/
def event : Except String Json :=
  .ok (.object [("object_id", .string "a"), ("timestamp", .number (.integer { value := 7 }))])

end Publisher

end Testbed
