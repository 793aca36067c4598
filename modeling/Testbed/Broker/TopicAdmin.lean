/-
This file administers the topics of the broker. Creating a topic that exists and deleting one that
does not are no errors.
-/

import Testbed.Outside

namespace Testbed.Broker

/-- Why an operation on a topic failed. -/
inductive AdminError where
  /-- The client failed, or the broker did not answer it. -/
  | client (cause : String)
  /-- The broker refused the operation. -/
  | refused (topic : String) (code : ErrorCode)
  /-- The task that asks for metadata failed. -/
  | task (cause : String)
  deriving DecidableEq, Repr

/-- The words for a failed operation. -/
def AdminError.message : AdminError → String
  | client cause => "Kafka client error: " ++ cause
  | refused topic code => "Topic operation on '" ++ topic ++ "' failed: " ++ code.message
  | task cause => "Metadata task failed: " ++ cause

/-- An administrator of topics. -/
structure TopicAdmin where
  client : Nat
  deriving DecidableEq, Repr

namespace TopicAdmin

/-- Makes an administrator for a list of brokers. No connection is made yet. -/
def forBrokers (brokers : String) : Work (Except AdminError TopicAdmin) := do
  match ← ask (.openAdmin brokers) with
  | .ok client => return .ok ⟨client⟩
  | .error cause => return .error (.client cause)

/-- Notes what became of a topic. -/
def noteTopic (level : Level) (message topic : String) : Work Unit :=
  note level "lake.env" message [("topic", .text topic)]

/-- Creates a topic unless it exists; tells whether it was created. The first result of the broker
counts. -/
def createIfAbsent (admin : TopicAdmin) (topic : String) : Work (Except AdminError Bool) := do
  match ← ask (.createTopic admin.client topic) with
  | .error cause => return .error (.client cause)
  | .ok [] => return .ok false
  | .ok ((name, none) :: _) =>
    noteTopic .info "Created topic" name
    return .ok true
  | .ok ((name, some code) :: _) =>
    if code = .topicAlreadyExists then
      noteTopic .debug "Topic already exists" name
      return .ok false
    else return .error (.refused name code)

/-- Notes the deletions of topics, up to the first that the broker refused. -/
def noteDeletions : List (String × Option ErrorCode) → Work (Except AdminError Unit)
  | [] => return .ok ()
  | (name, none) :: rest => do
    noteTopic .info "Deleted topic" name
    noteDeletions rest
  | (name, some code) :: rest =>
    if code = .unknownTopic then do
      noteTopic .debug "Topic already absent" name
      noteDeletions rest
    else return .error (.refused name code)

/-- Deletes a topic if it exists. -/
def delete (admin : TopicAdmin) (topic : String) : Work (Except AdminError Unit) := do
  match ← ask (.deleteTopic admin.client topic) with
  | .error cause => return .error (.client cause)
  | .ok results => noteDeletions results

/-- Whether the broker knows a topic and has no error for it. -/
def contains (admin : TopicAdmin) (topic : String) : Work (Except AdminError Bool) := do
  match ← ask (.describeTopic admin.client topic) with
  | .clientFailed cause => return .error (.client cause)
  | .taskFailed cause => return .error (.task cause)
  | .topics topics => return .ok (topics.any fun known => known.1 == topic && known.2)

def inspect (_ : TopicAdmin) : String :=
  "KafkaAdmin \x7b .. \x7d"

end TopicAdmin

end Testbed.Broker
