import GhostRecon.Models.Enrichment
import GhostRecon.Models.Sequencing

/-!
Suppressions, meeting hand-offs and the outbox. Outbox idempotency keys are
texts such as `sequence.completed:<enrollment>:<version>`; the identifiers in
them are UUIDs, so the text determines its parts and the model keeps the parts.
-/

namespace GhostRecon

open Lib (Id)

structure Suppression where
  email : Option String := none
  domain : Option String := none
  contactId : Option Id := none
  channel : String := "email"
  targetType : Option String := none
  targetId : Option String := none
  reason : String
  source : String
  active : Bool := true
  expiresAt : Option Time := none
  idempotencyKey : Option String := none
  createdAt : Time := 0
  deriving DecidableEq, Repr

inductive MeetingStatus where
  | scheduled | completed | canceled | failedSync
  deriving DecidableEq, Repr

structure MeetingAttendee where
  email : String
  name : Option String := none
  optional : Bool := false
  deriving DecidableEq, Repr

structure MeetingHandoff where
  crmTargetId : Id
  sequenceEnrollmentId : Option Id
  accountId : Option Id
  contactId : Option Id
  status : MeetingStatus
  subject : String
  description : Option String := none
  location : Option String := none
  startAt : Time
  endAt : Time
  timezone : String := "UTC"
  attendees : List MeetingAttendee
  calendarProvider : String
  calendarId : Option String := none
  providerEventId : Option String := none
  providerHtmlLink : Option String := none
  outcomeStatus : Option String := none
  outcomeNotes : Option String := none
  nextSteps : List String := []
  crmSyncStatus : String := "pending"
  crmSyncError : Option String := none
  crmRetryAfterSeconds : Option Int := none
  bookedBy : String
  idempotencyKey : String
  version : Nat := 1
  createdAt : Time := 0
  updatedAt : Time := 0
  deriving DecidableEq, Repr

inductive EventName where
  | suppressionCreated
  | sequenceEnrolled | sequencePaused | sequenceCompleted
  | emailSent | emailVerified | emailCandidateGenerated
  | replyReceived | bounceReceived | unsubscribeReceived
  | meetingBooked | meetingOutcomeRecorded | meetingFollowUpTaskCreated
  | meetingPrepPacketGenerated | crmSynced
  | contactDiscovered | accountEnriched | approvalRequested
  | crmExportBatchStarted | crmExportItemSucceeded | crmExportItemFailed
  | crmExportBatchCompleted
  deriving DecidableEq, Repr

inductive OutboxKey where
  /-- `<event>:<aggregate>` -/
  | once (event : EventName) (aggregate : Id)
  /-- `<event>:<aggregate>:<counter>`, the counter a version or an attempt. -/
  | counted (event : EventName) (aggregate : Id) (counter : Nat)
  /-- `<event>:<aggregate>:<other>` -/
  | paired (event : EventName) (aggregate other : Id)
  /-- `<event>:<aggregate>:<request key>` -/
  | keyed (event : EventName) (aggregate : Id) (key : String)
  deriving DecidableEq, Repr

structure OutboxEvent where
  eventName : EventName
  aggregateType : String
  aggregateId : Id
  idempotencyKey : OutboxKey
  deriving DecidableEq, Repr

end GhostRecon
