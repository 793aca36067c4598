/-
This file defines what a test run asks of the world outside: log events, pauses, connections,
requests to the stores, the broker and the services, child processes and files. Each action has a
reply, and nothing is assumed of what the world replies.
-/

import Testbed.Session
import Testbed.Log.Event
import Testbed.Time.Duration
import Testbed.Http.Message
import Testbed.Relational.Statement
import Testbed.Broker.ErrorCode
import Testbed.Record
import Testbed.Service.Launch

namespace Testbed

namespace Outside

/-- What becomes of an attempt to connect. -/
inductive Connection where
  | open
  | failed (cause : String)
  | timedOut
  deriving DecidableEq, Repr

/-- What becomes of a record that the broker is to acknowledge. -/
inductive Delivery where
  | acknowledged
  | refused (cause : String)
  | cancelled
  | unanswered
  deriving DecidableEq, Repr

/-- What a broker knows of topics. -/
inductive Metadata where
  /-- The topics, each with whether it is free of errors. -/
  | topics (topics : List (String × Bool))
  | clientFailed (cause : String)
  | taskFailed (cause : String)
  deriving DecidableEq, Repr

/-- What a broker did with the topics of a request: each with the code of a refusal, if any. -/
abbrev TopicResults := Except String (List (String × Option Broker.ErrorCode))

/-- The settings of a producer of records. -/
structure ProducerSettings where
  brokers : String
  /-- The milliseconds after which an unacknowledged record fails. -/
  messageTimeout : Nat
  deriving DecidableEq, Repr

/-- A record on its way to a topic. -/
structure OutgoingRecord where
  topic : String
  record : EncodedRecord

/-- A child process to start, with all of its variables. -/
structure Command where
  path : String
  arguments : List String
  bindings : List (String × String)
  deriving DecidableEq, Repr

/-- What becomes of waiting for the end of a child. -/
inductive Reaped where
  | exited (status : ExitStatus)
  | failed (cause : String)
  | timedOut
  deriving DecidableEq, Repr

/-- The status of a call that was refused. -/
structure RpcStatus where
  code : Nat
  message : String
  deriving DecidableEq, Repr

/-- Where a statement is performed: on any connection of a pool, or in a transaction. -/
inductive Place where
  | pool (pool : Nat)
  | transaction (transaction : Nat)
  deriving DecidableEq, Repr

end Outside

open Outside

/-- What is asked of the world outside. -/
inductive Action where
  /-- Write a log event. -/
  | note (event : Event)
  /-- Let time pass. -/
  | sleep (delay : Duration)
  /-- Open a connection to an address, at most within a limit, and close it. -/
  | connect (address : String) (limit : Option Duration)
  /-- Make a client for requests, each of which may take so long. -/
  | openClient (limit : Duration)
  /-- Send a request. -/
  | request (request : Http.Request)
  /-- Open a channel to a service. -/
  | openChannel (uri : String)
  /-- Wait until a channel takes a call. -/
  | awaitChannel (channel : Nat)
  /-- Call a method over a channel. -/
  | call (channel : Nat) (path : String) (message : List UInt8)
  /-- Open a pool of connections to the relational store. -/
  | openPool (access : RelationalAccess)
  /-- Perform a statement. -/
  | perform (place : Place) (expects : Relational.Expects)
    (statement : Relational.Statement expects)
  /-- Begin a transaction. -/
  | begin (pool : Nat)
  /-- Commit a transaction. -/
  | commit (transaction : Nat)
  /-- Leave a transaction without committing it. -/
  | abandon (transaction : Nat)
  /-- Close a pool. -/
  | closePool (pool : Nat)
  /-- Make an administrator of topics. -/
  | openAdmin (brokers : String)
  /-- Create a topic. -/
  | createTopic (admin : Nat) (topic : String)
  /-- Delete a topic. -/
  | deleteTopic (admin : Nat) (topic : String)
  /-- Ask for what the broker knows of a topic. -/
  | describeTopic (admin : Nat) (topic : String)
  /-- Make a producer of records. -/
  | openProducer (settings : ProducerSettings)
  /-- Hand a record over and wait for its acknowledgment within a limit. -/
  | publish (producer : Nat) (record : OutgoingRecord) (limit : Duration)
  /-- Hand a record over without waiting. -/
  | submit (producer : Nat) (record : OutgoingRecord)
  /-- Fix a moment in the future. -/
  | deadline (delay : Duration)
  /-- Wait for the acknowledgment of a record up to a fixed moment. -/
  | settle (delivery : Nat) (deadline : Nat)
  /-- Start a child process. -/
  | spawn (command : Command)
  /-- Ask whether a child has ended. -/
  | childStatus (child : Nat)
  /-- Send a child the signal that ends it. -/
  | kill (child : Nat)
  /-- Wait for the end of a child within a limit. -/
  | reap (child : Nat) (limit : Duration)
  /-- Run the compose program with arguments. -/
  | compose (arguments : List String)
  /-- Read a file. -/
  | readFile (path : String)
  /-- Run a task that the test brought along, known by its name. -/
  | task (name : String)

/-- What the world replies to each action. -/
abbrev Reply : Action → Type
  | .note _ => Unit
  | .sleep _ => Unit
  | .connect _ _ => Connection
  | .openClient _ => Except Http.Failure Unit
  | .request _ => Except Http.Failure Http.Response
  | .openChannel _ => Except String Nat
  | .awaitChannel _ => Except String Unit
  | .call _ _ _ => Except RpcStatus (Option (List UInt8))
  | .openPool _ => Except Relational.Failure Nat
  | .perform _ expects _ => Except Relational.Failure (Relational.Answer expects)
  | .begin _ => Except Relational.Failure Nat
  | .commit _ => Except Relational.Failure Unit
  | .abandon _ => Unit
  | .closePool _ => Unit
  | .openAdmin _ => Except String Nat
  | .createTopic _ _ => TopicResults
  | .deleteTopic _ _ => TopicResults
  | .describeTopic _ _ => Metadata
  | .openProducer _ => Except String Nat
  | .publish _ _ _ => Delivery
  | .submit _ _ => Except String Nat
  | .deadline _ => Nat
  | .settle _ _ => Delivery
  | .spawn _ => Except String Nat
  | .childStatus _ => Except String (Option ExitStatus)
  | .kill _ => Except String Unit
  | .reap _ _ => Reaped
  | .compose _ => Except String (ExitStatus × List UInt8)
  | .readFile _ => Except String (List UInt8)
  | .task _ => Unit

/-- Work that asks things of the world outside, and has a result. -/
abbrev Work (Result : Type) := Session Action Reply Result

/-- Asks one thing of the world outside. -/
def ask (action : Action) : Work (Reply action) :=
  .act action .done

/-- Writes a log event. -/
def note (level : Level) (target message : String) (fields : List (String × FieldValue)) :
    Work Unit :=
  ask (.note { level, target, message, fields })

end Testbed
