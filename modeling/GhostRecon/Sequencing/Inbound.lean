import GhostRecon.Sequencing.State

/-!
Inbound mail. A reply completes the enrollment it answers, a bounce pauses it
and an unsubscribe suppresses it and the address; a repeated idempotency key
returns the stored event and does nothing.
-/

namespace GhostRecon

open Lib (Id Table query write)

variable [Casing]

/-- The text of a truthy payload entry, or the default. -/
def payloadText (payload : Metadata) (key default : String) : String :=
  if truthy (payload.get? key) then (payload.get? key).getD "" else default

/-- `str(request.from_email or request.to_email or "").lower()`. -/
def InboundEmailEventCreate.address (request : InboundEmailEventCreate) : String :=
  lower <|
    if truthy request.fromEmail then request.fromEmail.getD ""
    else request.toEmail.getD ""

def InboundEmailEventCreate.channel (request : InboundEmailEventCreate) : String :=
  payloadText request.providerPayload "channel" "email"

def InboundEmailEventCreate.reason (request : InboundEmailEventCreate) : String :=
  payloadText request.providerPayload "reason" "unsubscribe"

/-- The stored form of an inbound event. -/
def InboundEmailEventCreate.row (request : InboundEmailEventCreate) (now : Time)
    (idempotencyKey : String) (enrollmentId outboundId : Option Id) : InboundEmailEvent where
  enrollmentId := enrollmentId
  outboundEmailId := outboundId
  eventType := request.eventType
  fromEmail := if truthy request.fromEmail then request.fromEmail.map lower else none
  toEmail := if truthy request.toEmail then request.toEmail.map lower else none
  messageId := request.messageId
  idempotencyKey := idempotencyKey
  occurredAt := request.occurredAt.getD now
  createdAt := now

def insertInboundEvent (row : InboundEmailEvent) (s : Store) : Store :=
  { s with inboundEvents := s.inboundEvents ++ [row] }

/-- The suppression an unsubscribe stores. -/
def unsubscribeSuppression (now : Time) (email channel reason : String) : Suppression where
  email := some (lower email)
  domain := domainFromEmail (some email)
  channel := lower channel
  reason := reason
  source := "unsubscribe"
  active := true
  idempotencyKey := some ("unsubscribe:" ++ lower channel ++ ":" ++ lower email)
  createdAt := now

/-- The row the writer takes for an existing suppression: its expiry is not
looked at. -/
def activeSuppression? (s : Store) (email channel : String) : Option (Id × Suppression) :=
  s.suppressions.first? fun row =>
    row.email == some (lower email) && row.channel == lower channel && row.active

/-- The trace an unsubscribe leaves beside the suppression. -/
def unsubscribeTrace (enrollmentId : Option Id) (suppressionId : Id)
    (email channel reason : String) (sourceEvent : Id) : SequenceSuppressionEvent where
  enrollmentId := enrollmentId
  suppressionId := some suppressionId
  email := some (lower email)
  domain := domainFromEmail (some email)
  channel := lower channel
  reason := reason
  sourceEventId := some sourceEvent

/-- `_create_unsubscribe_suppression`. -/
def createUnsubscribeSuppression (rt : Runtime) (email channel reason : String)
    (sourceEvent : Id) (enrollmentId : Option Id) : Tx PUnit := do
  match ← query (activeSuppression? · email channel) with
  | some (suppressionId, _) =>
    write (·.insertSuppressionEvent
      (unsubscribeTrace enrollmentId suppressionId email channel reason sourceEvent))
  | none =>
    let suppressionId ← query (·.suppressions.length)
    write (insertSuppression (unsubscribeSuppression rt.now email channel reason))
    flush
    write (·.insertSuppressionEvent
      (unsubscribeTrace enrollmentId suppressionId email channel reason sourceEvent))

/-- A reply completes the linked enrollment, whatever its status. -/
def completeReplied (now : Time) (enrollment : Option (Id × SequenceEnrollment))
    (s : Store) : Store :=
  match enrollment with
  | some (e, row) => completeEnrollment now e row s
  | none => s

def recordReply (now : Time) (event : Id) (enrollment : Option (Id × SequenceEnrollment))
    (s : Store) : Store :=
  enqueueEvent .replyReceived "inbound_email_event" event (.once .replyReceived event)
    (completeReplied now enrollment s)

/-- The mail that bounced. -/
def markBounced (now : Time) (outbound : Option Id) (s : Store) : Store :=
  match outbound with
  | some o => s.updateOutbound o fun mail =>
      { mail with
        status := .failedTerminal
        lastError := some "bounce received"
        updatedAt := now }
  | none => s

/-- The enrollment of a bounced mail is paused, whatever its status. -/
def pauseBounced (now : Time) (enrollment : Option Id) (s : Store) : Store :=
  match enrollment with
  | some e => s.updateEnrollment e fun row =>
      { row with
        status := .paused
        pauseReason := some "bounce received"
        updatedAt := now }
  | none => s

def recordBounce (now : Time) (event : Id) (outbound enrollment : Option Id) (s : Store) :
    Store :=
  enqueueEvent .bounceReceived "inbound_email_event" event (.once .bounceReceived event)
    (pauseBounced now enrollment (markBounced now outbound s))

/-- An unsubscribe suppresses the linked enrollment, whatever its status. -/
def suppressUnsubscribed (now : Time) (enrollment : Option Id) (s : Store) : Store :=
  match enrollment with
  | some e => s.updateEnrollment e fun row =>
      { row with
        status := .suppressed
        pauseReason := some "unsubscribe"
        completedAt := some now
        updatedAt := now }
  | none => s

def recordUnsubscribe (now : Time) (event : Id) (enrollment : Option Id) (s : Store) :
    Store :=
  enqueueEvent .unsubscribeReceived "inbound_email_event" event
    (.once .unsubscribeReceived event) (suppressUnsubscribed now enrollment s)

def processInboundEmailEvent (rt : Runtime) (request : InboundEmailEventCreate)
    (idempotencyKey : String) : Tx Id := sessionScope do
  match ← query (·.inboundEvents.first? (·.idempotencyKey == idempotencyKey)) with
  | some (existing, _) => return existing
  | none =>
    let outbound ← query fun s => (findOutboundForInbound s request).map Prod.fst
    let enrollment ← query (linkedEnrollment · request)
    let event ← query (·.inboundEvents.length)
    write (insertInboundEvent
      (request.row rt.now idempotencyKey (enrollment.map Prod.fst) outbound))
    flush
    match request.eventType with
    | .reply => write (recordReply rt.now event enrollment)
    | .bounce => write (recordBounce rt.now event outbound (enrollment.map Prod.fst))
    | .unsubscribe =>
      if request.address ≠ "" then
        createUnsubscribeSuppression rt request.address request.channel request.reason event
          (enrollment.map Prod.fst)
      write (recordUnsubscribe rt.now event (enrollment.map Prod.fst))
    return event

structure UnsubscribeRequest where
  email : String
  domain : Option String := none
  channel : String := "email"
  reason : String := "unsubscribe"
  providerPayload : Metadata := []
  deriving DecidableEq, Repr

/-- The inbound event an unsubscribe request stands for. -/
def UnsubscribeRequest.event (request : UnsubscribeRequest) : InboundEmailEventCreate where
  eventType := .unsubscribe
  fromEmail := some request.email
  providerPayload :=
    ((request.providerPayload.set "domain" (request.domain.getD "")).set
      "reason" request.reason).set "channel" request.channel

def processUnsubscribe (rt : Runtime) (request : UnsubscribeRequest)
    (idempotencyKey : String) : Tx Id :=
  processInboundEmailEvent rt request.event idempotencyKey

end GhostRecon
