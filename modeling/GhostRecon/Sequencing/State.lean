import GhostRecon.Sequencing.Queries

/-!
How the services rewrite an enrollment. Every function takes the row as the
transaction loaded it: the version written is the loaded one plus one, and the
other columns of the stored row stay as they are.
-/

namespace GhostRecon

open Lib (Id Table)

variable [Casing]

/-- Rewrite columns of one enrollment. -/
def Store.updateEnrollment (s : Store) (e : Id)
    (f : SequenceEnrollment → SequenceEnrollment) : Store :=
  { s with enrollments := s.enrollments.modify e f }

def Store.updateActivity (s : Store) (a : Id)
    (f : SequenceStepActivity → SequenceStepActivity) : Store :=
  { s with activities := s.activities.modify a f }

def Store.updateOutbound (s : Store) (o : Id) (f : OutboundEmail → OutboundEmail) : Store :=
  { s with outboundEmails := s.outboundEmails.modify o f }

def Store.insertOutbound (s : Store) (row : OutboundEmail) : Store :=
  { s with outboundEmails := s.outboundEmails ++ [row] }

def Store.insertSuppressionEvent (s : Store) (row : SequenceSuppressionEvent) : Store :=
  { s with suppressionEvents := s.suppressionEvents ++ [row] }

def Store.insertActivity (s : Store) (row : SequenceStepActivity) : Store :=
  { s with activities := s.activities ++ [row] }

/-- `_complete_enrollment`, and with a reason `_complete_sequence_for_meeting`. -/
def completeWith (now : Time) (e : Id) (enrollment : SequenceEnrollment)
    (reason : Option String) (s : Store) : Store :=
  enqueueEvent .sequenceCompleted "sequence_enrollment" e
    (.counted .sequenceCompleted e (enrollment.version + 1))
    (s.updateEnrollment e fun row =>
      { row with
        status := .completed
        nextStepAt := none
        pauseReason := reason
        completedAt := some now
        version := enrollment.version + 1
        updatedAt := now })

def completeEnrollment (now : Time) (e : Id) (enrollment : SequenceEnrollment) :
    Store → Store :=
  completeWith now e enrollment none

def completeSequenceForMeeting (now : Time) (e : Id) (enrollment : SequenceEnrollment) :
    Store → Store :=
  completeWith now e enrollment (some "meeting_booked")

/-- `_pause_for_policy`. -/
def pauseForPolicy (now : Time) (e : Id) (enrollment : SequenceEnrollment)
    (reason : String) (s : Store) : Store :=
  enqueueEvent .sequencePaused "sequence_enrollment" e
    (.counted .sequencePaused e (enrollment.version + 1))
    (s.updateEnrollment e fun row =>
      { row with
        status := .paused
        pauseReason := some reason
        version := enrollment.version + 1
        updatedAt := now })

/-- The reason `_suppress_enrollment` records. -/
def suppressReason (reason : Option String) : String :=
  if truthy reason then reason.getD "" else "suppression blocks outreach"

/-- The trace `_suppress_enrollment` leaves. -/
def suppressionTrace (e : Id) (contact : Contact) (reason : Option String) :
    SequenceSuppressionEvent where
  enrollmentId := some e
  email := if truthy contact.email then contact.email.map lower else none
  domain := domainFromEmail contact.email
  channel := "email"
  reason := suppressReason reason

/-- `_suppress_enrollment`. -/
def suppressEnrollment (now : Time) (e : Id) (enrollment : SequenceEnrollment)
    (contact : Contact) (reason : Option String) (s : Store) : Store :=
  let s := s.updateEnrollment e fun row =>
    { row with
      status := .suppressed
      pauseReason := some (suppressReason reason)
      completedAt := some now
      version := enrollment.version + 1
      updatedAt := now }
  let s := s.insertSuppressionEvent (suppressionTrace e contact reason)
  enqueueEvent .sequencePaused "sequence_enrollment" e
    (.counted .sequencePaused e (enrollment.version + 1)) s

/-- A rate limit reschedules the step and records why. -/
def deferEnrollment (now : Time) (retryAfterSeconds : Nat) (e : Id) (reason : String)
    (s : Store) : Store :=
  s.updateEnrollment e fun row =>
    { row with
      nextStepAt := some (now + retryAfterSeconds)
      pauseReason := some reason
      updatedAt := now }

/-- `_advance_enrollment`: move to the next step of the enrollment's own
definition version, or complete the enrollment when there is none. -/
def advanceEnrollment (now : Time) (e : Id) (enrollment : SequenceEnrollment)
    (currentStep : SequenceStep) (s : Store) : Store :=
  match (sequenceSteps s enrollment.sequenceId enrollment.definitionVersion).find?
      (fun step => currentStep.stepOrder < step.2.stepOrder) with
  | none => completeEnrollment now e enrollment s
  | some (_, nextStep) =>
    s.updateEnrollment e fun row =>
      { row with
        currentStepOrder := nextStep.stepOrder
        nextStepAt := some (now + nextStep.delaySeconds)
        version := enrollment.version + 1
        updatedAt := now }

omit [Casing] in
/-- Advancing rewrites the one enrollment and at most adds an outbox row. -/
theorem advanceEnrollment_eq (now : Time) (e : Id) (enrollment : SequenceEnrollment)
    (currentStep : SequenceStep) (s : Store) :
    advanceEnrollment now e enrollment currentStep s =
        completeEnrollment now e enrollment s ∨
      ∃ order due, advanceEnrollment now e enrollment currentStep s =
        s.updateEnrollment e fun row =>
          { row with
            currentStepOrder := order
            nextStepAt := some due
            version := enrollment.version + 1
            updatedAt := now } := by
  unfold advanceEnrollment
  split
  · exact Or.inl rfl
  · next i nextStep hnext => exact Or.inr ⟨nextStep.stepOrder, now + nextStep.delaySeconds, rfl⟩

end GhostRecon
