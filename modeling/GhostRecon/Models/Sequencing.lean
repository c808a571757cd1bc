import GhostRecon.Models.Prospects

/-!
The sequencing tables: sequence definitions with their versioned steps,
enrollments, step activities, outbound mail and inbound mail events. Status
columns are the enumerations of the API models. The idempotency keys of an
activity and of an outbound email are texts made of their enrollment and step,
columns that are never rewritten, so the model derives the key from them.
-/

namespace GhostRecon

open Lib (Id)

inductive SequenceStatus where
  | active | paused | archived
  deriving DecidableEq, Repr

inductive SequenceChannel where
  | email | call | googleMeet
  deriving DecidableEq, Repr

def SequenceChannel.value : SequenceChannel → String
  | .email => "email"
  | .call => "call"
  | .googleMeet => "google_meet"

/-- A truthy entry of the free-form rate-limit object: a number, or a value on
which `int` raises with the given message. -/
inductive LimitValue where
  | int (limit : Int)
  | invalid (message : String)
  deriving DecidableEq, Repr

structure RateLimitPolicy where
  domainDailyLimit : Option LimitValue := none
  senderDailyLimit : Option LimitValue := none
  channelDailyLimit : Option LimitValue := none
  deriving DecidableEq, Repr

structure Sequence where
  name : String
  ownerId : Option String := none
  channel : SequenceChannel := .email
  status : SequenceStatus := .active
  rateLimitPolicy : RateLimitPolicy := {}
  definitionVersion : Nat := 1
  idempotencyKey : Option String := none
  createdAt : Time := 0
  updatedAt : Time := 0
  deriving DecidableEq, Repr

/-- A free-form JSON object, its values as the text `str` gives. -/
abbrev Metadata := List (String × String)

/-- `d.get(key)`. -/
def Metadata.get? (d : Metadata) (key : String) : Option String :=
  d.lookup key

/-- `{**d, key: value}`. -/
def Metadata.set (d : Metadata) (key value : String) : Metadata :=
  d.filter (·.1 ≠ key) ++ [(key, value)]

/-- `{**d, **e}`. -/
def Metadata.update (d e : Metadata) : Metadata :=
  e.foldl (fun acc entry => acc.set entry.1 entry.2) d

structure SequenceStep where
  sequenceId : Id
  stepOrder : Nat
  channel : SequenceChannel := .email
  delaySeconds : Nat := 0
  subjectTemplate : Option String := none
  bodyTemplate : Option String := none
  requiresApproval : Bool := false
  stepMetadata : Metadata := []
  definitionVersion : Nat := 1
  active : Bool := true
  deriving DecidableEq, Repr

inductive EnrollmentStatus where
  | active | paused | completed | canceled | suppressed | failed
  deriving DecidableEq, Repr

/-- `TERMINAL_ENROLLMENT_STATUSES`. -/
def EnrollmentStatus.terminal : EnrollmentStatus → Bool
  | .completed | .canceled | .suppressed | .failed => true
  | .active | .paused => false

def EnrollmentStatus.value : EnrollmentStatus → String
  | .active => "active"
  | .paused => "paused"
  | .completed => "completed"
  | .canceled => "canceled"
  | .suppressed => "suppressed"
  | .failed => "failed"

structure SequenceEnrollment where
  sequenceId : Id
  crmTargetId : Id
  contactId : Id
  accountId : Option Id := none
  status : EnrollmentStatus := .active
  approvalActor : String
  approvalReason : String
  currentStepOrder : Nat := 1
  definitionVersion : Nat := 1
  nextStepAt : Option Time := none
  pauseReason : Option String := none
  idempotencyKey : String
  version : Nat := 1
  createdAt : Time := 0
  updatedAt : Time := 0
  completedAt : Option Time := none
  deriving DecidableEq, Repr

inductive ActivityStatus where
  | pendingApproval | pending | approved | completed | scheduled | canceled | failed
  deriving DecidableEq, Repr

def ActivityStatus.value : ActivityStatus → String
  | .pendingApproval => "pending_approval"
  | .pending => "pending"
  | .approved => "approved"
  | .completed => "completed"
  | .scheduled => "scheduled"
  | .canceled => "canceled"
  | .failed => "failed"

structure SequenceStepActivity where
  enrollmentId : Id
  sequenceStepId : Id
  outboundEmailId : Option Id := none
  meetingHandoffId : Option Id := none
  stepOrder : Nat
  channel : SequenceChannel
  status : ActivityStatus
  dueAt : Option Time := none
  approvedBy : Option String := none
  approvedAt : Option Time := none
  completedBy : Option String := none
  completedAt : Option Time := none
  metadata : Metadata := []
  createdAt : Time := 0
  updatedAt : Time := 0
  deriving DecidableEq, Repr

/-- `sequence_activity:<enrollment>:<step>`. -/
def SequenceStepActivity.idempotencyKey (row : SequenceStepActivity) : Id × Id :=
  (row.enrollmentId, row.sequenceStepId)

inductive OutboundEmailStatus where
  | pending | pendingApproval | sent | failedRetryable | failedTerminal | skippedPolicy
  deriving DecidableEq, Repr

structure OutboundEmail where
  enrollmentId : Id
  sequenceStepId : Id
  contactId : Id
  channel : SequenceChannel
  toEmail : String
  fromEmail : String
  subject : String
  body : String
  status : OutboundEmailStatus
  providerMessageId : Option String := none
  attemptCount : Nat := 0
  lastError : Option String := none
  retryAfterSeconds : Option Nat := none
  scheduledAt : Time
  sentAt : Option Time := none
  createdAt : Time := 0
  updatedAt : Time := 0
  deriving DecidableEq, Repr

/-- `sequence_email:<enrollment>:<step>`. -/
def OutboundEmail.idempotencyKey (row : OutboundEmail) : Id × Id :=
  (row.enrollmentId, row.sequenceStepId)

inductive InboundEmailEventType where
  | reply | bounce | unsubscribe
  deriving DecidableEq, Repr

structure InboundEmailEvent where
  enrollmentId : Option Id
  outboundEmailId : Option Id
  eventType : InboundEmailEventType
  fromEmail : Option String
  toEmail : Option String
  messageId : Option String
  idempotencyKey : String
  occurredAt : Time
  createdAt : Time
  deriving DecidableEq, Repr

structure SequenceSuppressionEvent where
  enrollmentId : Option Id
  suppressionId : Option Id := none
  email : Option String
  domain : Option String
  channel : String
  reason : String
  sourceEventId : Option Id := none
  deriving DecidableEq, Repr

end GhostRecon
