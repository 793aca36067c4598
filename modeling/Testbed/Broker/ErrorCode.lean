/-
This file defines the codes by which a broker refuses a request and by which a client gives up, each
with its name and the words for it. The tables are in the order of the codes.
-/

namespace Testbed.Broker

/-- The names of the codes from zero on, with the words for each. -/
def errorCodes : List (String × String) :=
  [
    ("NoError", "Success"),
    ("OffsetOutOfRange", "Broker: Offset out of range"),
    ("InvalidMessage", "Broker: Invalid message"),
    ("UnknownTopicOrPartition", "Broker: Unknown topic or partition"),
    ("InvalidMessageSize", "Broker: Invalid message size"),
    ("LeaderNotAvailable", "Broker: Leader not available"),
    ("NotLeaderForPartition", "Broker: Not leader for partition"),
    ("RequestTimedOut", "Broker: Request timed out"),
    ("BrokerNotAvailable", "Broker: Broker not available"),
    ("ReplicaNotAvailable", "Broker: Replica not available"),
    ("MessageSizeTooLarge", "Broker: Message size too large"),
    ("StaleControllerEpoch", "Broker: StaleControllerEpochCode"),
    ("OffsetMetadataTooLarge", "Broker: Offset metadata string too large"),
    ("NetworkException", "Broker: Broker disconnected before response received"),
    ("CoordinatorLoadInProgress", "Broker: Coordinator load in progress"),
    ("CoordinatorNotAvailable", "Broker: Coordinator not available"),
    ("NotCoordinator", "Broker: Not coordinator"),
    ("InvalidTopic", "Broker: Invalid topic"),
    ("MessageBatchTooLarge", "Broker: Message batch larger than configured server segment size"),
    ("NotEnoughReplicas", "Broker: Not enough in-sync replicas"),
    ("NotEnoughReplicasAfterAppend",
      "Broker: Message(s) written to insufficient number of in-sync replicas"),
    ("InvalidRequiredAcks", "Broker: Invalid required acks value"),
    ("IllegalGeneration", "Broker: Specified group generation id is not valid"),
    ("InconsistentGroupProtocol", "Broker: Inconsistent group protocol"),
    ("InvalidGroupId", "Broker: Invalid group.id"),
    ("UnknownMemberId", "Broker: Unknown member"),
    ("InvalidSessionTimeout", "Broker: Invalid session timeout"),
    ("RebalanceInProgress", "Broker: Group rebalance in progress"),
    ("InvalidCommitOffsetSize", "Broker: Commit offset data size is not valid"),
    ("TopicAuthorizationFailed", "Broker: Topic authorization failed"),
    ("GroupAuthorizationFailed", "Broker: Group authorization failed"),
    ("ClusterAuthorizationFailed", "Broker: Cluster authorization failed"),
    ("InvalidTimestamp", "Broker: Invalid timestamp"),
    ("UnsupportedSASLMechanism", "Broker: Unsupported SASL mechanism"),
    ("IllegalSASLState", "Broker: Request not valid in current SASL state"),
    ("UnsupportedVersion", "Broker: API version not supported"),
    ("TopicAlreadyExists", "Broker: Topic already exists"),
    ("InvalidPartitions", "Broker: Invalid number of partitions"),
    ("InvalidReplicationFactor", "Broker: Invalid replication factor"),
    ("InvalidReplicaAssignment", "Broker: Invalid replica assignment"),
    ("InvalidConfig", "Broker: Configuration is invalid"),
    ("NotController", "Broker: Not controller for cluster"),
    ("InvalidRequest", "Broker: Invalid request"),
    ("UnsupportedForMessageFormat", "Broker: Message format on broker does not support request"),
    ("PolicyViolation", "Broker: Policy violation"),
    ("OutOfOrderSequenceNumber", "Broker: Broker received an out of order sequence number"),
    ("DuplicateSequenceNumber", "Broker: Broker received a duplicate sequence number"),
    ("InvalidProducerEpoch", "Broker: Producer attempted an operation with an old epoch"),
    ("InvalidTransactionalState",
      "Broker: Producer attempted a transactional operation in an invalid state"),
    ("InvalidProducerIdMapping",
      "Broker: Producer attempted to use a producer id which is not currently "
        ++ "assigned to its transactional id"),
    ("InvalidTransactionTimeout",
      "Broker: Transaction timeout is larger than the maximum value allowed by the "
        ++ "broker's max.transaction.timeout.ms"),
    ("ConcurrentTransactions",
      "Broker: Producer attempted to update a transaction while another concurrent "
        ++ "operation on the same transaction was ongoing"),
    ("TransactionCoordinatorFenced",
      "Broker: Indicates that the transaction coordinator sending a WriteTxnMarker is "
        ++ "no longer the current coordinator for a given producer"),
    ("TransactionalIdAuthorizationFailed", "Broker: Transactional Id authorization failed"),
    ("SecurityDisabled", "Broker: Security features are disabled"),
    ("OperationNotAttempted", "Broker: Operation not attempted"),
    ("KafkaStorageError", "Broker: Disk error when trying to access log file on disk"),
    ("LogDirNotFound",
      "Broker: The user-specified log directory is not found in the broker config"),
    ("SaslAuthenticationFailed", "Broker: SASL Authentication failed"),
    ("UnknownProducerId", "Broker: Unknown Producer Id"),
    ("ReassignmentInProgress", "Broker: Partition reassignment is in progress"),
    ("DelegationTokenAuthDisabled", "Broker: Delegation Token feature is not enabled"),
    ("DelegationTokenNotFound", "Broker: Delegation Token is not found on server"),
    ("DelegationTokenOwnerMismatch", "Broker: Specified Principal is not valid Owner/Renewer"),
    ("DelegationTokenRequestNotAllowed",
      "Broker: Delegation Token requests are not allowed on this connection"),
    ("DelegationTokenAuthorizationFailed", "Broker: Delegation Token authorization failed"),
    ("DelegationTokenExpired", "Broker: Delegation Token is expired"),
    ("InvalidPrincipalType", "Broker: Supplied principalType is not supported"),
    ("NonEmptyGroup", "Broker: The group is not empty"),
    ("GroupIdNotFound", "Broker: The group id does not exist"),
    ("FetchSessionIdNotFound", "Broker: The fetch session ID was not found"),
    ("InvalidFetchSessionEpoch", "Broker: The fetch session epoch is invalid"),
    ("ListenerNotFound", "Broker: No matching listener"),
    ("TopicDeletionDisabled", "Broker: Topic deletion is disabled"),
    ("FencedLeaderEpoch", "Broker: Leader epoch is older than broker epoch"),
    ("UnknownLeaderEpoch", "Broker: Leader epoch is newer than broker epoch"),
    ("UnsupportedCompressionType", "Broker: Unsupported compression type"),
    ("StaleBrokerEpoch", "Broker: Broker epoch has changed"),
    ("OffsetNotAvailable", "Broker: Leader high watermark is not caught up"),
    ("MemberIdRequired", "Broker: Group member needs a valid member ID"),
    ("PreferredLeaderNotAvailable", "Broker: Preferred leader was not available"),
    ("GroupMaxSizeReached", "Broker: Consumer group has reached maximum size"),
    ("FencedInstanceId",
      "Broker: Static consumer fenced by other consumer with same group.instance.id"),
    ("EligibleLeadersNotAvailable", "Broker: Eligible partition leaders are not available"),
    ("ElectionNotNeeded", "Broker: Leader election not needed for topic partition"),
    ("NoReassignmentInProgress", "Broker: No partition reassignment is in progress"),
    ("GroupSubscribedToTopic",
      "Broker: Deleting offsets of a topic while the consumer group is subscribed to "
        ++ "it"),
    ("InvalidRecord", "Broker: Broker failed to validate record"),
    ("UnstableOffsetCommit", "Broker: There are unstable offsets that need to be cleared"),
    ("ThrottlingQuotaExceeded", "Broker: Throttling quota has been exceeded"),
    ("ProducerFenced",
      "Broker: There is a newer producer with the same transactionalId which fences "
        ++ "the current one"),
    ("ResourceNotFound", "Broker: Request illegally referred to resource that does not exist"),
    ("DuplicateResource", "Broker: Request illegally referred to the same resource twice"),
    ("UnacceptableCredential",
      "Broker: Requested credential would not meet criteria for acceptability"),
    ("InconsistentVoterSet",
      "Broker: Indicates that the either the sender or recipient of a voter-only "
        ++ "request is not one of the expected voters"),
    ("InvalidUpdateVersion", "Broker: Invalid update version"),
    ("FeatureUpdateFailed", "Broker: Unable to update finalized features due to server error"),
    ("PrincipalDeserializationFailure",
      "Broker: Request principal deserialization failed during forwarding")]

/-- The number of the first code that a client gives itself. -/
def firstLocalCode : Int := -199

/-- The names of the codes that a client gives itself, from the first one on, with the words for
each. -/
def localErrorCodes : List (String × String) :=
  [
    ("BadMessage", "Local: Bad message format"),
    ("BadCompression", "Local: Invalid compressed data"),
    ("BrokerDestroy", "Local: Broker handle destroyed for termination"),
    ("Fail", "Local: Communication failure with broker"),
    ("BrokerTransportFailure", "Local: Broker transport failure"),
    ("CriticalSystemResource", "Local: Critical system resource failure"),
    ("Resolve", "Local: Host resolution failure"),
    ("MessageTimedOut", "Local: Message timed out"),
    ("PartitionEOF", "Broker: No more messages"),
    ("UnknownPartition", "Local: Unknown partition"),
    ("FileSystem", "Local: File or filesystem error"),
    ("UnknownTopic", "Local: Unknown topic"),
    ("AllBrokersDown", "Local: All broker connections are down"),
    ("InvalidArgument", "Local: Invalid argument or configuration"),
    ("OperationTimedOut", "Local: Timed out"),
    ("QueueFull", "Local: Queue full"),
    ("ISRInsufficient", "Local: ISR count insufficient"),
    ("NodeUpdate", "Local: Broker node update"),
    ("SSL", "Local: SSL error"),
    ("WaitingForCoordinator", "Local: Waiting for coordinator"),
    ("UnknownGroup", "Local: Unknown group"),
    ("InProgress", "Local: Operation in progress"),
    ("PreviousInProgress", "Local: Previous operation in progress"),
    ("ExistingSubscription", "Local: Existing subscription"),
    ("AssignPartitions", "Local: Assign partitions"),
    ("RevokePartitions", "Local: Revoke partitions"),
    ("Conflict", "Local: Conflicting use"),
    ("State", "Local: Erroneous state"),
    ("UnknownProtocol", "Local: Unknown protocol"),
    ("NotImplemented", "Local: Not implemented"),
    ("Authentication", "Local: Authentication failure"),
    ("NoOffset", "Local: No offset stored"),
    ("Outdated", "Local: Outdated"),
    ("TimedOutQueue", "Local: Timed out in queue"),
    ("UnsupportedFeature", "Local: Required feature not supported by broker"),
    ("WaitCache", "Local: Awaiting cache update"),
    ("Interrupted", "Local: Operation interrupted"),
    ("KeySerialization", "Local: Key serialization error"),
    ("ValueSerialization", "Local: Value serialization error"),
    ("KeyDeserialization", "Local: Key deserialization error"),
    ("ValueDeserialization", "Local: Value deserialization error"),
    ("Partial", "Local: Partial response"),
    ("ReadOnly", "Local: Read-only object"),
    ("NoEnt", "Local: No such entry"),
    ("Underflow", "Local: Read underflow"),
    ("InvalidType", "Local: Invalid type"),
    ("Retry", "Local: Retry operation"),
    ("PurgeQueue", "Local: Purged in queue"),
    ("PurgeInflight", "Local: Purged in flight"),
    ("Fatal", "Local: Fatal error"),
    ("Inconsistent", "Local: Inconsistent state"),
    ("GaplessGuarantee", "Local: Gap-less ordering would not be guaranteed if proceeding"),
    ("PollExceeded", "Local: Maximum application poll interval (max.poll.interval.ms) exceeded"),
    ("UnknownBroker", "Local: Unknown broker"),
    ("NotConfigured", "Local: Functionality not configured"),
    ("Fenced", "Local: This instance has been fenced by a newer instance"),
    ("Application", "Local: Application generated error"),
    ("AssignmentLost", "Local: Group partition assignment lost"),
    ("Noop", "Local: No operation performed"),
    ("AutoOffsetReset", "Local: No offset to automatically reset to"),
    ("LogTruncation", "Local: Partition log truncation detected")]

/-- A code by which a broker refuses a request, or by which a client gives up. -/
structure ErrorCode where
  number : Int
  deriving DecidableEq, Repr

namespace ErrorCode

/-- No such topic, or no such part of it. -/
def unknownTopic : ErrorCode := ⟨3⟩

/-- The topic exists already. -/
def topicAlreadyExists : ErrorCode := ⟨36⟩

/-- The code of a name. -/
def ofName? (name : String) : Option ErrorCode :=
  match errorCodes.findIdx? fun code => code.1 == name with
  | some number => some ⟨number⟩
  | none => (localErrorCodes.findIdx? fun code => code.1 == name).map fun number =>
    ⟨firstLocalCode + number⟩

/-- The name of a code and the words for it, if it has any. -/
def entry? (code : ErrorCode) : Option (String × String) :=
  if 0 ≤ code.number then errorCodes[code.number.toNat]?
  else if firstLocalCode ≤ code.number then
    localErrorCodes[(code.number - firstLocalCode).toNat]?
  else none

/-- The name of a code and the words for it. -/
def message (code : ErrorCode) : String :=
  match code.entry? with
  | some (name, words) => name ++ " (" ++ words ++ ")"
  | none => "Unknown (Unknown broker error)"

end ErrorCode

end Testbed.Broker
