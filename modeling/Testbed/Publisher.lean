/-
This file publishes records to topics of the event log. A record is published and acknowledged
before the next, or records are handed over and acknowledged together by a flush. A record that can
not be encoded is never handed over.
-/

import Testbed.Outside
import Testbed.Settings

namespace Testbed

open Text Outside

/-- Why records were not published. -/
inductive PublishError where
  /-- What was offered is no record. -/
  | record (cause : RecordError)
  /-- The broker did not acknowledge a record. -/
  | timeout (topic key reason : String)
  /-- The client failed. -/
  | client (cause : String)
  deriving DecidableEq, Repr

/-- The words for unpublished records. -/
def PublishError.message : PublishError → String
  | record cause => cause.message
  | timeout topic key reason =>
    "Broker did not acknowledge record " ++ key ++ " on " ++ topic ++ ": " ++ reason
  | client cause => "Kafka client error: " ++ cause

/-- The beginning of the reason when the broker did not answer in time. -/
def PublishError.silence : String := "no acknowledgment within "

/-- Whether records were not published because the broker did not answer in time. -/
def PublishError.isSilence : PublishError → Bool
  | timeout _ _ reason => silence.toList.isPrefixOf reason.toList
  | record _ => false
  | client _ => false

/-- How records are published. -/
structure PublisherConfig where
  brokers : String
  /-- The time the broker has to acknowledge a record. -/
  ackTimeout : Duration := .ofSeconds 3
  keyField : String := "object_id"
  timestampField : String := "timestamp"

namespace PublisherConfig

/-- The configuration for the brokers and the timeout of a run. -/
def ofSettings (settings : Settings) : PublisherConfig where
  brokers := settings.brokers
  ackTimeout := settings.publishTimeout

def inspect (config : PublisherConfig) : String :=
  inspectRecord "PublisherConfig"
    [("brokers", quoted config.brokers), ("ack_timeout", config.ackTimeout.inspect),
      ("key_field", quoted config.keyField), ("timestamp_field", quoted config.timestampField)]

end PublisherConfig

/-- A record that was handed over and is not acknowledged yet. -/
structure PendingDelivery where
  topic : String
  key : String
  delivery : Nat
  deriving DecidableEq, Repr

/-- A publisher with its producer and the records that wait for a flush. -/
structure Publisher where
  producer : Nat
  config : PublisherConfig
  pending : List PendingDelivery

namespace Publisher

/-- Makes a publisher. An unacknowledged record fails after a millisecond at least. -/
def make (config : PublisherConfig) : Work (Except PublishError Publisher) := do
  let settings : ProducerSettings :=
    { brokers := config.brokers, messageTimeout := max 1 config.ackTimeout.milliseconds }
  match ← ask (.openProducer settings) with
  | .error cause => return .error (.client cause)
  | .ok producer => return .ok { producer, config, pending := [] }

/-- The record that is offered, as the publisher encodes it. -/
def encode (publisher : Publisher) (offered : Except String Json) :
    Except RecordError EncodedRecord :=
  Record.encodeOffered offered publisher.config.keyField publisher.config.timestampField

/-- The reason when the broker did not answer in time. -/
def unansweredReason (publisher : Publisher) : String :=
  PublishError.silence ++ publisher.config.ackTimeout.inspect

/-- The reason why a record is not acknowledged; none if it is. -/
def reason? (publisher : Publisher) : Delivery → Option String
  | .acknowledged => none
  | .refused cause => some cause
  | .cancelled => some "delivery cancelled"
  | .unanswered => some publisher.unansweredReason

/-- Publishes a record and waits for its acknowledgment. -/
def publish (publisher : Publisher) (offered : Except String Json) (topic : String) :
    Work (Except PublishError Unit) :=
  match publisher.encode offered with
  | .error cause => return .error (.record cause)
  | .ok record => do
    let delivery ← ask (.publish publisher.producer { topic, record } publisher.config.ackTimeout)
    match publisher.reason? delivery with
    | some reason => return .error (.timeout topic record.key reason)
    | none =>
      note .debug "lake.publish" "Record acknowledged"
        [("topic", .text topic), ("key", .text record.key),
          ("timestamp_ms", .number record.timestamp.toInt)]
      return .ok ()

/-- Publishes records in order, each after the one before it is acknowledged. -/
def publishAll (publisher : Publisher) (topic : String) :
    List (Except String Json) → Work (Except PublishError Unit)
  | [] => return .ok ()
  | offered :: rest => do
    match ← publisher.publish offered topic with
    | .error error => return .error error
    | .ok () => publishAll publisher topic rest

/-- Hands a record over without waiting. -/
def enqueue (publisher : Publisher) (offered : Except String Json) (topic : String) :
    Work (Except PublishError Unit × Publisher) :=
  match publisher.encode offered with
  | .error cause => return (.error (.record cause), publisher)
  | .ok record => do
    match ← ask (.submit publisher.producer { topic, record }) with
    | .error cause => return (.error (.client cause), publisher)
    | .ok delivery =>
      let waiting : PendingDelivery := { topic, key := record.key, delivery }
      return (.ok (), { publisher with pending := publisher.pending ++ [waiting] })

/-- Waits for the acknowledgments of records up to a common moment. Gives the number of those
acknowledged, and the error for the first that is not. -/
def settleAll (publisher : Publisher) (deadline : Nat) :
    List PendingDelivery → Work (Nat × Option PublishError)
  | [] => return (0, none)
  | waiting :: rest => do
    let delivery ← ask (.settle waiting.delivery deadline)
    match publisher.reason? delivery with
    | none =>
      let (acknowledged, error) ← settleAll publisher deadline rest
      return (acknowledged + 1, error)
    | some reason =>
      note .warn "lake.publish" "Record not acknowledged"
        [("topic", .text waiting.topic), ("key", .text waiting.key), ("reason", .text reason)]
      let (acknowledged, _) ← settleAll publisher deadline rest
      return (acknowledged, some (.timeout waiting.topic waiting.key reason))

/-- Waits for the acknowledgments of all records that were handed over. Gives their number if all
are acknowledged. -/
def flush (publisher : Publisher) : Work (Except PublishError Nat × Publisher) := do
  let deadline ← ask (.deadline publisher.config.ackTimeout)
  let (acknowledged, error) ← settleAll publisher deadline publisher.pending
  let emptied := { publisher with pending := [] }
  match error with
  | some error => return (.error error, emptied)
  | none =>
    note .debug "lake.publish" "Flushed pending records" [("acknowledged", .number acknowledged)]
    return (.ok acknowledged, emptied)

def inspect (publisher : Publisher) : String :=
  inspectPartly "EventPublisher"
    [("config", publisher.config.inspect), ("pending", toString publisher.pending.length)]

end Publisher

end Testbed
