import GhostRecon.Common.Json
import GhostRecon.Common.Text
import GhostRecon.Lib.Session
import GhostRecon.Models.Governance

/-!
The database of the outreach services, the external world its operations act
on, and the runtime one operation is called with. The declared unique
constraints and column widths are one predicate: the database checks it at
every flush and at commit, so every committed store satisfies it.
-/

namespace GhostRecon

open Lib (Id Table World)

structure Store where
  accounts : Table Account := []
  contacts : Table Contact := []
  crmTargets : Table CrmTarget := []
  emailCandidates : Table EmailCandidateRecord := []
  resolutionCases : Table EntityResolutionCase := []
  contactCandidates : Table ContactEnrichmentCandidate := []
  emailPatterns : Table OrganizationEmailPattern := []
  reviewCandidates : Table ReviewCandidate := []
  sourceDefinitions : Table SourceDefinition := []
  rawItems : Table RawSourceItem := []
  sequences : Table Sequence := []
  steps : Table SequenceStep := []
  enrollments : Table SequenceEnrollment := []
  activities : Table SequenceStepActivity := []
  outboundEmails : Table OutboundEmail := []
  inboundEvents : Table InboundEmailEvent := []
  suppressionEvents : Table SequenceSuppressionEvent := []
  suppressions : Table Suppression := []
  meetings : Table MeetingHandoff := []
  outbox : Table OutboxEvent := []

/-- A `String(limit)` column holds the text. -/
def fits (limit : Nat) (text : String) : Bool :=
  text.length ≤ limit

def fits? (limit : Nat) (text : Option String) : Bool :=
  text.all (fits limit)

def Suppression.fits (row : Suppression) : Bool :=
  fits? 320 row.email && fits? 255 row.domain && GhostRecon.fits 64 row.channel &&
    fits? 64 row.targetType && fits? 128 row.targetId && GhostRecon.fits 255 row.reason &&
    GhostRecon.fits 128 row.source && fits? 255 row.idempotencyKey

def InboundEmailEvent.fits (row : InboundEmailEvent) : Bool :=
  fits? 320 row.fromEmail && fits? 320 row.toEmail && fits? 255 row.messageId &&
    GhostRecon.fits 255 row.idempotencyKey

def SequenceSuppressionEvent.fits (row : SequenceSuppressionEvent) : Bool :=
  fits? 320 row.email && fits? 255 row.domain && GhostRecon.fits 64 row.channel &&
    GhostRecon.fits 255 row.reason

def OutboundEmail.fits (row : OutboundEmail) : Bool :=
  GhostRecon.fits 320 row.toEmail && GhostRecon.fits 320 row.fromEmail &&
    GhostRecon.fits 512 row.subject && fits? 255 row.providerMessageId

def RawSourceItem.fits (row : RawSourceItem) : Bool :=
  fits? 512 row.externalId && GhostRecon.fits 2048 row.originalUrl &&
    GhostRecon.fits 2048 row.canonicalUrl && GhostRecon.fits 64 row.contentHash &&
    fits? 16 row.originalLanguage && fits? 64 row.sourceTimezone

def EntityResolutionCase.fits (row : EntityResolutionCase) : Bool :=
  GhostRecon.fits 128 row.originId && GhostRecon.fits 64 row.entityKind &&
    fits? 255 row.inputName && fits? 255 row.inputDomain && GhostRecon.fits 255 row.idempotencyKey

/-- A PostgreSQL `integer`. -/
def fitsInteger (value : Int) : Bool :=
  decide (-2 ^ 31 ≤ value ∧ value < 2 ^ 31)

def Sequence.fits (row : Sequence) : Bool :=
  GhostRecon.fits 255 row.name && fits? 128 row.ownerId && fits? 255 row.idempotencyKey &&
    fitsInteger row.definitionVersion

def SequenceStep.fits (row : SequenceStep) : Bool :=
  fits? 512 row.subjectTemplate && fitsInteger row.stepOrder && fitsInteger row.delaySeconds &&
    fitsInteger row.definitionVersion

/-- The key column holds `email-pattern:<domain>:<pattern>`. -/
def OrganizationEmailPattern.fits (row : OrganizationEmailPattern) : Bool :=
  GhostRecon.fits 255 row.domain && GhostRecon.fits 64 row.pattern &&
    GhostRecon.fits 255 ("email-pattern:" ++ row.domain ++ ":" ++ row.pattern)

/-- The widths of the columns that free text and free numbers reach. -/
def Store.widthsOk (s : Store) : Bool :=
  s.emailPatterns.all OrganizationEmailPattern.fits &&
  s.resolutionCases.all EntityResolutionCase.fits && s.suppressions.all Suppression.fits &&
    s.inboundEvents.all InboundEmailEvent.fits &&
    s.suppressionEvents.all SequenceSuppressionEvent.fits &&
    s.outboundEmails.all OutboundEmail.fits && s.rawItems.all RawSourceItem.fits &&
    s.sequences.all Sequence.fits && s.steps.all SequenceStep.fits

/-- The declared unique constraints. -/
def Store.keysOk (s : Store) : Bool :=
  s.resolutionCases.uniqueOn (fun row => some row.idempotencyKey) &&
    s.sequences.uniqueOn (·.idempotencyKey) &&
    s.steps.uniqueOn (fun row =>
      some (row.sequenceId, row.definitionVersion, row.stepOrder)) &&
    s.enrollments.uniqueOn (fun row => some row.idempotencyKey) &&
    s.activities.uniqueOn (fun row => some row.idempotencyKey) &&
    s.outboundEmails.uniqueOn (fun row => some row.idempotencyKey) &&
    s.inboundEvents.uniqueOn (fun row => some row.idempotencyKey) &&
    s.suppressions.uniqueOn (·.idempotencyKey) &&
    s.meetings.uniqueOn (fun row => some row.idempotencyKey) &&
    s.contacts.uniqueOn (·.idempotencyKey) && s.contacts.uniqueOn (·.crmContactId) &&
    s.contacts.uniqueOn (fun row => row.accountId.bind fun a => row.email.map fun e => (a, e)) &&
    s.crmTargets.uniqueOn (fun row => some row.idempotencyKey) &&
    s.emailCandidates.uniqueOn (fun row => some row.idempotencyKey) &&
    s.contactCandidates.uniqueOn (fun row => some row.idempotencyKey) &&
    s.emailPatterns.uniqueOn (fun row => some (row.domain, row.pattern)) &&
    s.reviewCandidates.uniqueOn (fun row => some row.idempotencyKey) &&
    s.sourceDefinitions.uniqueOn (fun row => some row.name) &&
    rawItemsUnique s.rawItems && s.accounts.uniqueOn (·.crmAccountId) &&
    s.outbox.uniqueOn (fun row => some row.idempotencyKey)

def Store.constraintsOk (s : Store) : Bool :=
  s.keysOk && s.widthsOk

/-- A step has at most one activity for each enrollment. -/
theorem Store.activities_unique {s : Store} (h : s.constraintsOk = true) :
    s.activities.uniqueOn (fun row => some row.idempotencyKey) = true := by
  simp only [Store.constraintsOk, Store.keysOk, Bool.and_eq_true] at h
  exact h.1.1.1.1.1.1.1.1.1.1.1.1.1.1.1.1.1.2

/-- A definition version has at most one step at each place. -/
theorem Store.steps_unique {s : Store} (h : s.constraintsOk = true) :
    s.steps.uniqueOn (fun row =>
      some (row.sequenceId, row.definitionVersion, row.stepOrder)) = true := by
  simp only [Store.constraintsOk, Store.keysOk, Bool.and_eq_true] at h
  exact h.1.1.1.1.1.1.1.1.1.1.1.1.1.1.1.1.1.1.1.2

/-- The definitions fit their columns. -/
theorem Store.definitions_fit {s : Store} (h : s.constraintsOk = true) :
    s.sequences.all Sequence.fits = true ∧ s.steps.all SequenceStep.fits = true := by
  simp only [Store.constraintsOk, Store.widthsOk, Bool.and_eq_true] at h
  exact ⟨h.2.1.2, h.2.2⟩

/-- The exceptions the modelled operations raise. -/
inductive PyError where
  | valueError (message : String)
  /-- A request model rejects its input; in Python a `ValueError` too. -/
  | validationError (field : String)
  /-- A constraint fails at a flush or at commit. -/
  | integrityError
  /-- A session is used after one of its flushes failed. -/
  | pendingRollback
  /-- An attribute of a missing row was read. -/
  | attributeError
  /-- `int` was given a value it does not take. -/
  | conversionError (failure : IntFailure)
  /-- The calendar or CRM provider raised. -/
  | providerError (message : String)
  deriving DecidableEq, Repr

/-- `str(exc)`. -/
def PyError.message : PyError → String
  | .valueError message | .providerError message => message
  | .validationError field => "invalid value for " ++ field
  | .integrityError => "constraint violated"
  | .pendingRollback => "transaction has been rolled back"
  | .attributeError => "attribute of a missing row"
  | .conversionError _ => "not an integer"

structure SmtpSendRequest where
  fromEmail : String
  toEmail : String
  subject : String
  body : String
  messageId : String
  deriving DecidableEq, Repr

/-- The sender's answer: a provider message id, or the text of what it raised. -/
abbrev SmtpOutcome := Except String String

/-- One call of `SmtpSender.send`, with the store the calling transaction read
from, so that statements can speak of the moment of the call. -/
structure MailAttempt where
  activityId : Id
  request : SmtpSendRequest
  outcome : SmtpOutcome
  time : Time
  observed : Store

structure CalendarEventRequest where
  meetingId : Id
  subject : String
  startAt : Time
  endAt : Time
  timezone : String
  attendees : List MeetingAttendee
  description : Option String
  location : Option String
  sendUpdates : Bool
  deriving DecidableEq, Repr

structure CalendarEventResult where
  calendarId : Option String
  providerEventId : Option String
  htmlLink : Option String
  deriving DecidableEq, Repr

/-- What the outside has seen; no rollback reaches it. -/
structure External where
  mail : List MailAttempt := []
  calendar : List CalendarEventRequest := []

def External.attempt (x : External) (attempt : MailAttempt) : External :=
  { x with mail := x.mail ++ [attempt] }

structure Settings where
  smtpFromAddress : String := "prospecting@example.com"
  googleCalendarSendUpdates : Bool := true
  sequenceDomainDailyLimit : Int := 50
  sequenceSenderDailyLimit : Int := 200
  sequenceChannelDailyLimit : Int := 500
  sequenceRetryAfterSeconds : Nat := 300
  deriving DecidableEq, Repr

/-- What one call of an operation sees besides the database: its clock, its
settings, the address validation of the request models and the template
engine. The last two are library code. -/
structure Runtime where
  now : Time
  settings : Settings := {}
  validEmail : String → Bool := fun _ => true
  renderTemplate : String → Contact → Option Account → Except String String :=
    fun template _ _ => .ok template

abbrev Tx (α : Type) := Lib.Tx PyError Store External α

abbrev DbWorld := World Store External

/-- `session_scope`: one transaction, rolled back on every exception. -/
def sessionScope {α : Type} (body : Tx α) : Tx α :=
  Lib.sessionScope Store.constraintsOk .integrityError body

/-- `session.flush()`. -/
def flush : Tx PUnit :=
  Lib.flush Store.constraintsOk .integrityError

/-- `_enqueue_event`: an outbox row under its idempotency key. -/
def enqueueEvent (eventName : EventName) (aggregateType : String) (aggregateId : Id)
    (idempotencyKey : OutboxKey) (s : Store) : Store :=
  { s with outbox := s.outbox ++ [{ eventName, aggregateType, aggregateId, idempotencyKey }] }

/-- An event can be stored exactly when its key is free. -/
theorem enqueueEvent_constraints {s : Store} {name : EventName} {kind : String} {id : Id}
    {key : OutboxKey} :
    (enqueueEvent name kind id key s).constraintsOk = true ↔
      s.constraintsOk = true ∧ ∀ old ∈ s.outbox, old.idempotencyKey ≠ key := by
  have hunique : Table.uniqueOn
      (s.outbox ++ [{ eventName := name, aggregateType := kind, aggregateId := id
                      idempotencyKey := key }])
      (fun row => some row.idempotencyKey) = true ↔ _ := Table.uniqueOn_concat
  simp only [Store.constraintsOk, Store.keysOk, Store.widthsOk, enqueueEvent,
    Bool.and_eq_true, hunique, Option.some.injEq, forall_eq', ne_eq]
  grind

end GhostRecon
