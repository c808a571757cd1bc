import GhostRecon.Sequencing.State

/-!
Sequence definitions and enrollments: creating and revising a sequence,
enrolling a contact, and the operator's pause, resume and cancel. A revision
writes its steps under a new definition version and leaves the old steps.
-/

namespace GhostRecon

open Lib (Id Table query queryOrRaise write)

variable [Casing]

structure SequenceStepCreate where
  stepOrder : Option Nat := none
  delaySeconds : Nat := 0
  subjectTemplate : Option String := none
  bodyTemplate : Option String := none
  channel : SequenceChannel := .email
  requiresApproval : Option Bool := none
  stepMetadata : Metadata := []
  deriving DecidableEq, Repr

/-- A step without an order takes its position in the request. -/
def SequenceStepCreate.row (request : SequenceStepCreate) (sequenceId index version : Nat) :
    SequenceStep where
  sequenceId := sequenceId
  stepOrder := request.stepOrder.getD index
  channel := request.channel
  delaySeconds := request.delaySeconds
  subjectTemplate := request.subjectTemplate
  bodyTemplate := request.bodyTemplate
  requiresApproval := GhostRecon.requiresApproval request.channel request.requiresApproval
  stepMetadata := request.stepMetadata
  definitionVersion := version
  active := true

def stepRows (steps : List SequenceStepCreate) (sequenceId version : Nat) :
    List SequenceStep :=
  steps.zipIdx.map fun (step, i) => step.row sequenceId (i + 1) version

structure SequenceCreateRequest where
  name : String
  ownerId : Option String := none
  channel : SequenceChannel := .email
  rateLimitPolicy : RateLimitPolicy := {}
  steps : List SequenceStepCreate
  deriving DecidableEq, Repr

def SequenceCreateRequest.row (request : SequenceCreateRequest) (now : Time)
    (idempotencyKey : Option String) : Sequence where
  name := request.name
  ownerId := request.ownerId
  channel := request.channel
  status := .active
  rateLimitPolicy := request.rateLimitPolicy
  definitionVersion := 1
  idempotencyKey := idempotencyKey
  createdAt := now
  updatedAt := now

def insertSequence (row : Sequence) (steps : List SequenceStep) (s : Store) : Store :=
  { s with sequences := s.sequences ++ [row], steps := s.steps ++ steps }

def createSequence (rt : Runtime) (request : SequenceCreateRequest)
    (idempotencyKey : Option String) : Tx Id := sessionScope do
  match ← query fun s =>
    if truthy idempotencyKey then
      s.sequences.first? (·.idempotencyKey == idempotencyKey)
    else none with
  | some (existing, _) => return existing
  | none =>
    let sequenceId ← query (·.sequences.length)
    write (insertSequence (request.row rt.now idempotencyKey)
      (stepRows request.steps sequenceId 1))
    flush
    return sequenceId

structure SequenceUpdateRequest where
  name : Option String := none
  ownerId : Option String := none
  channel : Option SequenceChannel := none
  status : Option SequenceStatus := none
  rateLimitPolicy : Option RateLimitPolicy := none
  steps : Option (List SequenceStepCreate) := none
  expectedVersion : Option Nat := none
  deriving DecidableEq, Repr

/-- The columns an update request sets. -/
def SequenceUpdateRequest.apply (request : SequenceUpdateRequest) (now : Time)
    (sequence row : Sequence) : Sequence :=
  { row with
    name := request.name.getD row.name
    ownerId := request.ownerId <|> row.ownerId
    channel := request.channel.getD row.channel
    status := request.status.getD row.status
    rateLimitPolicy := request.rateLimitPolicy.getD row.rateLimitPolicy
    definitionVersion :=
      if request.steps.isSome then sequence.definitionVersion + 1 else row.definitionVersion
    updatedAt := now }

/-- Rewrite a sequence and add the steps of its new version. -/
def reviseSequence (sequenceId : Id) (f : Sequence → Sequence) (steps : List SequenceStep)
    (s : Store) : Store :=
  { s with sequences := s.sequences.modify sequenceId f, steps := s.steps ++ steps }

def updateSequence (rt : Runtime) (sequenceId : Id) (request : SequenceUpdateRequest) :
    Tx (Option Sequence) := sessionScope do
  let some sequence ← query (·.sequences[sequenceId]?) | return none
  if request.steps.isSome ∧
      request.expectedVersion.any (· ≠ sequence.definitionVersion) then
    throw (.valueError "sequence definition version conflict")
  write (reviseSequence sequenceId (request.apply rt.now sequence)
    (stepRows (request.steps.getD []) sequenceId (sequence.definitionVersion + 1)))
  flush
  query (·.sequences[sequenceId]?)

def archiveSequence (rt : Runtime) (sequenceId : Id) : Tx (Option Sequence) :=
  sessionScope do
    let some _ ← query (·.sequences[sequenceId]?) | return none
    write (reviseSequence sequenceId
      (fun row => { row with status := .archived, updatedAt := rt.now }) [])
    query (·.sequences[sequenceId]?)

structure SequenceEnrollmentCreateRequest where
  sequenceId : Id
  crmTargetId : Id
  contactId : Option Id := none
  accountId : Option Id := none
  startAt : Option Time := none
  outreachApproved : Bool
  approvalReason : String
  deriving DecidableEq, Repr

/-- The row `create_sequence_enrollment` inserts. -/
def enrollmentFor (rt : Runtime) (request : SequenceEnrollmentCreateRequest)
    (actor idempotencyKey : String) (contactId : Id) (contact : Contact)
    (firstOrder version : Nat) : SequenceEnrollment where
  sequenceId := request.sequenceId
  crmTargetId := request.crmTargetId
  contactId := contactId
  accountId := request.accountId <|> contact.accountId
  status := .active
  approvalActor := actor
  approvalReason := request.approvalReason
  currentStepOrder := firstOrder
  definitionVersion := version
  nextStepAt := some (request.startAt.getD rt.now)
  idempotencyKey := idempotencyKey
  version := 1
  createdAt := rt.now
  updatedAt := rt.now

def insertEnrollment (row : SequenceEnrollment) (s : Store) : Store :=
  enqueueEvent .sequenceEnrolled "sequence_enrollment" s.enrollments.length
    (.once .sequenceEnrolled s.enrollments.length)
    { s with enrollments := s.enrollments ++ [row] }

def createSequenceEnrollment (rt : Runtime) (request : SequenceEnrollmentCreateRequest)
    (actor idempotencyKey : String) : Tx Id := do
  if !request.outreachApproved then
    throw (.valueError "separate outreach approval is required")
  sessionScope do
    match ← query (·.enrollments.first? (·.idempotencyKey == idempotencyKey)) with
    | some (existing, _) => return existing
    | none =>
      let some sequence ← query (·.sequences[request.sequenceId]?)
        | throw (.valueError "active sequence not found")
      if sequence.status ≠ .active then
        throw (.valueError "active sequence not found")
      let some (_, firstStep) ← query fun s =>
          (currentSequenceSteps s request.sequenceId).head?
        | throw (.valueError "sequence has no active steps")
      let some target ← query (·.crmTargets[request.crmTargetId]?)
        | throw (.valueError "crm target not found")
      if target.status ≠ .exported ∨ target.exportStatus ≠ "exported" then
        throw (.valueError "crm target must be exported before sequence enrollment")
      let (contactId, contact) ← queryOrRaise (contactForTarget · target request.contactId)
      queryOrRaise fun _ => requireSendableContact contact
      let suppression ← queryOrRaise (suppressionAllowed rt contact.email
        (domainFromEmail contact.email) (some contactId) sequence.channel.value)
      if !suppression.allowed then
        throw (.valueError (suppressReason suppression.reason))
      let id ← query (·.enrollments.length)
      write (insertEnrollment (enrollmentFor rt request actor idempotencyKey contactId contact
        firstStep.stepOrder sequence.definitionVersion))
      flush
      return id

/-- What an operator's change of status writes. -/
def setStatus (now : Time) (e : Id) (enrollment : SequenceEnrollment)
    (status : EnrollmentStatus) (reason : String) (event : Option EventName) (s : Store) :
    Store :=
  let s := s.updateEnrollment e fun row =>
    { row with
      status := status
      pauseReason := some reason
      version := enrollment.version + 1
      updatedAt := now
      completedAt := if status.terminal then some now else row.completedAt }
  match event with
  | some event =>
    enqueueEvent event "sequence_enrollment" e (.counted event e (enrollment.version + 1)) s
  | none => s

/-- `_set_enrollment_status`: a terminal enrollment keeps its status. -/
def setEnrollmentStatus (rt : Runtime) (e : Id) (status : EnrollmentStatus)
    (reason : String) (event : Option EventName) : Tx (Option SequenceEnrollment) :=
  sessionScope do
    let some enrollment ← query (·.enrollments[e]?) | return none
    if enrollment.status.terminal ∧ status ≠ enrollment.status then
      throw (.valueError ("cannot change " ++ enrollment.status.value ++ " enrollment"))
    write (setStatus rt.now e enrollment status reason event)
    query (·.enrollments[e]?)

def pauseSequenceEnrollment (rt : Runtime) (e : Id) (reason : String) :
    Tx (Option SequenceEnrollment) :=
  setEnrollmentStatus rt e .paused reason (some .sequencePaused)

def cancelSequenceEnrollment (rt : Runtime) (e : Id) (reason : String) :
    Tx (Option SequenceEnrollment) :=
  setEnrollmentStatus rt e .canceled reason none

/-- What resuming writes: a step time that is still set is kept. -/
def resumeEnrollment (now : Time) (e : Id) (enrollment : SequenceEnrollment) (s : Store) :
    Store :=
  s.updateEnrollment e fun row =>
    { row with
      status := .active
      pauseReason := none
      nextStepAt := some (enrollment.nextStepAt.getD now)
      version := enrollment.version + 1
      updatedAt := now }

def resumeSequenceEnrollment (rt : Runtime) (e : Id) : Tx (Option SequenceEnrollment) :=
  sessionScope do
    let some enrollment ← query (·.enrollments[e]?) | return none
    if enrollment.status.terminal then
      throw (.valueError ("cannot resume " ++ enrollment.status.value ++ " enrollment"))
    write (resumeEnrollment rt.now e enrollment)
    query (·.enrollments[e]?)

end GhostRecon
