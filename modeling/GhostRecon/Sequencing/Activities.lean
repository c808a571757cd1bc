import GhostRecon.Meeting.Lifecycle

/-!
Activities an operator works off: completing one, and scheduling the meeting
of a Google Meet step, which is three transactions with the booking in the
middle.
-/

namespace GhostRecon

open Lib (Id Table query queryOrRaise write)

variable [Casing]

/-- What completing an activity writes. -/
def finishActivity (now : Time) (a : Id) (activity : SequenceStepActivity)
    (enrollment : SequenceEnrollment) (step : SequenceStep) (actor : String)
    (metadata : Metadata) (s : Store) : Store :=
  advanceEnrollment now activity.enrollmentId enrollment step
    (s.updateActivity a fun row =>
      { row with
        status := .completed
        completedBy := some actor
        completedAt := some now
        metadata := metadata
        updatedAt := now })

structure SequenceActivityActionRequest where
  reason : Option String := none
  metadata : Metadata := []
  deriving DecidableEq, Repr

def completeSequenceActivity (rt : Runtime) (a : Id)
    (request : SequenceActivityActionRequest) (actor : String) :
    Tx (Option SequenceStepActivity) := sessionScope do
  let some activity ← query (·.activities[a]?) | return none
  if activity.status ≠ .pending ∧ activity.status ≠ .scheduled then
    throw (.valueError ("cannot complete " ++ activity.status.value ++ " activity"))
  let some enrollment ← query (·.enrollments[activity.enrollmentId]?)
    | throw (.valueError "activity is missing sequence context")
  let some step ← query (·.steps[activity.sequenceStepId]?)
    | throw (.valueError "activity is missing sequence context")
  write (finishActivity rt.now a activity enrollment step actor
    ((activity.metadata.update request.metadata).set "completion_reason"
      (request.reason.getD "None")))
  query (·.activities[a]?)

structure SequenceActivityScheduleMeetingRequest where
  subject : Option String := none
  description : Option String := none
  location : Option String := some "Google Meet"
  startAt : Time
  endAt : Time
  timezone : String := "UTC"
  attendees : List MeetingAttendee := []
  sendUpdates : Option Bool := none
  deriving DecidableEq, Repr

/-- The first transaction: the activity and enrollment a booking starts from. -/
def meetingContext (a : Id) : Tx (Option (SequenceStepActivity × SequenceEnrollment)) :=
  sessionScope do
    let some activity ← query (·.activities[a]?) | return none
    if activity.channel ≠ .googleMeet then
      throw (.valueError "activity is not a Google Meet step")
    if activity.status ≠ .pending ∧ activity.status ≠ .scheduled then
      throw (.valueError ("cannot schedule " ++ activity.status.value ++ " activity"))
    let some enrollment ← query (·.enrollments[activity.enrollmentId]?)
      | throw (.valueError "activity is missing enrollment")
    return some (activity, enrollment)

/-- `value or str(metadata.get(key) or default)`. -/
def textOr (value : Option String) (metadata : Metadata) (key default : String) : String :=
  if truthy value then value.getD ""
  else if truthy (metadata.get? key) then (metadata.get? key).getD ""
  else default

/-- The booking a Google Meet activity asks for. -/
def meetingRequest (activity : SequenceStepActivity) (enrollment : SequenceEnrollment)
    (request : SequenceActivityScheduleMeetingRequest) : MeetingCreateRequest where
  crmTargetId := enrollment.crmTargetId
  sequenceEnrollmentId := some activity.enrollmentId
  accountId := enrollment.accountId
  contactId := some enrollment.contactId
  subject := textOr request.subject activity.metadata "meeting_subject" "Security discovery"
  description := some (textOr request.description activity.metadata "meeting_description" "")
  location := request.location
  startAt := request.startAt
  endAt := request.endAt
  timezone := request.timezone
  attendees := request.attendees
  sendUpdates := request.sendUpdates

/-- What scheduling writes in its last transaction. -/
def scheduleActivity (now : Time) (a : Id) (activity : SequenceStepActivity)
    (enrollment : SequenceEnrollment) (step : SequenceStep) (actor : String)
    (meetingId : Id) (s : Store) : Store :=
  advanceEnrollment now activity.enrollmentId enrollment step
    (s.updateActivity a fun row =>
      { row with
        meetingHandoffId := some meetingId
        status := .scheduled
        completedBy := some actor
        completedAt := some now
        updatedAt := now })

/-- The last transaction: it reads the rows again and advances. -/
def linkMeeting (rt : Runtime) (a : Id) (actor : String) (meetingId : Id) :
    Tx (Option SequenceStepActivity) := sessionScope do
  let some activity ← query (·.activities[a]?)
    | throw (.valueError "activity disappeared during meeting scheduling")
  let some enrollment ← query (·.enrollments[activity.enrollmentId]?)
    | throw (.valueError "activity disappeared during meeting scheduling")
  let some step ← query (·.steps[activity.sequenceStepId]?)
    | throw (.valueError "activity disappeared during meeting scheduling")
  write (scheduleActivity rt.now a activity enrollment step actor meetingId)
  query (·.activities[a]?)

def scheduleSequenceMeetingActivity (rt : Runtime) (a : Id)
    (request : SequenceActivityScheduleMeetingRequest) (actor : String)
    (client : CalendarClient) : Tx (Option SequenceStepActivity) := do
  let some (activity, enrollment) ← meetingContext a | return none
  let booking := meetingRequest activity enrollment request
  if booking.subject.length > 512 then
    throw (.validationError "subject")
  let meetingId ← createMeeting rt booking actor ("sequence-meeting:" ++ toString a) client
  linkMeeting rt a actor meetingId

end GhostRecon
