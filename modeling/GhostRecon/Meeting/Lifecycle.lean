import GhostRecon.Sequencing.State

/-!
Booking a meeting. The booking checks the exported target, its contact and
every attendee, creates the calendar event inside the transaction and
completes a linked enrollment that is still active.
-/

namespace GhostRecon

open Lib (Id Table query queryOrRaise write perform)

variable [Casing]

structure MeetingCreateRequest where
  crmTargetId : Id
  sequenceEnrollmentId : Option Id := none
  accountId : Option Id := none
  contactId : Option Id := none
  subject : String
  description : Option String := none
  location : Option String := none
  startAt : Time
  endAt : Time
  timezone : String := "UTC"
  attendees : List MeetingAttendee := []
  sendUpdates : Option Bool := none
  deriving DecidableEq, Repr

structure CalendarClient where
  provider : String
  createEvent : CalendarEventRequest → Except String CalendarEventResult

/-- `_require_exported_target`. -/
def requireExportedTarget (target : Option CrmTarget) : Except PyError CrmTarget :=
  match target with
  | none => .error (.valueError "crm target not found")
  | some target =>
    if target.status ≠ .exported ∨ target.exportStatus ≠ "exported" then
      .error (.valueError "crm target must be exported before meeting handoff")
    else .ok target

/-- `_contact_for_meeting`: unlike an enrollment, a meeting may have none. -/
def contactForMeeting (s : Store) (target : CrmTarget) (requestedContactId : Option Id) :
    Except PyError (Option (Id × Contact)) :=
  let find (id : Id) := (s.contacts[id]?).map fun contact => (id, contact)
  match requestedContactId with
  | some id =>
    match find id with
    | some found => .ok (some found)
    | none => .error (.valueError "contact not found")
  | none =>
    if target.targetType = "contact" ∨ target.targetType = "incident_contact" then
      .ok (find target.targetId)
    else if target.targetType = "email_candidate" then
      .ok (((s.emailCandidates[target.targetId]?).bind (·.contactId)).bind find)
    else .ok none

/-- `_meeting_attendees`: the contact is invited too. -/
def meetingAttendees (rt : Runtime) (requested : List MeetingAttendee)
    (contact : Option (Id × Contact)) : Except PyError (List MeetingAttendee) := do
  let extra : List MeetingAttendee ←
    match contact with
    | none => pure []
    | some (_, contact) =>
      let email := lower (contact.email.getD "")
      if truthy contact.email ∧ email ∉ requested.map (lower ·.email) then
        if rt.validEmail email then
          pure [{ email := email, name := some contact.fullName, optional := false }]
        else throw (.validationError "email")
      else pure []
  if requested ++ extra = [] then
    throw (.valueError "meeting requires at least one attendee")
  return requested ++ extra

/-- The suppression query of `_ensure_invite_allowed` for one address. -/
def inviteSuppression? (now : Time) (email : String) (contactId : Option Id) (s : Store) :
    Option (Id × Suppression) :=
  let domain := domainFromEmail (some email)
  s.suppressions.first? fun row =>
    row.active && row.channel == "email" && row.expiresAt.all (now < ·) &&
      (row.email == some email || (truthy domain && row.domain == domain) ||
        (contactId.isSome && row.contactId == contactId))

/-- `_ensure_invite_allowed`, for one attendee after the other. -/
def ensureInviteAllowed (rt : Runtime) (contact : Option (Id × Contact)) (s : Store) :
    List MeetingAttendee → Except PyError Unit
  | [] => .ok ()
  | attendee :: rest =>
    let email := lower attendee.email
    let contactId := contact.bind fun (id, contact) =>
      if truthy contact.email ∧ contact.email.map lower = some email then some id else none
    let baseline := evaluateSuppression (some email) "email"
    if !baseline.allowed then
      .error (.valueError (baseline.reason.getD "suppression blocks meeting invite"))
    else
      match inviteSuppression? rt.now email contactId s with
      | some (_, row) => .error (.valueError row.reason)
      | none => ensureInviteAllowed rt contact s rest

/-- The row `create_meeting` inserts before it calls the calendar. -/
def meetingFor (rt : Runtime) (request : MeetingCreateRequest)
    (actor idempotencyKey provider : String) (contact : Option (Id × Contact))
    (attendees : List MeetingAttendee) : MeetingHandoff where
  crmTargetId := request.crmTargetId
  sequenceEnrollmentId := request.sequenceEnrollmentId
  accountId := request.accountId <|> contact.bind (·.2.accountId)
  contactId := contact.map Prod.fst <|> request.contactId
  status := .scheduled
  subject := request.subject
  description := request.description
  location := request.location
  startAt := request.startAt
  endAt := request.endAt
  timezone := request.timezone
  attendees := attendees
  calendarProvider := provider
  bookedBy := actor
  idempotencyKey := idempotencyKey
  version := 1
  createdAt := rt.now
  updatedAt := rt.now

def Store.insertMeeting (s : Store) (row : MeetingHandoff) : Store :=
  { s with meetings := s.meetings ++ [row] }

def calendarRequest (rt : Runtime) (meetingId : Id) (meeting : MeetingHandoff)
    (sendUpdates : Option Bool) : CalendarEventRequest where
  meetingId := meetingId
  subject := meeting.subject
  startAt := meeting.startAt
  endAt := meeting.endAt
  timezone := meeting.timezone
  attendees := meeting.attendees
  description := meeting.description
  location := meeting.location
  sendUpdates := sendUpdates.getD rt.settings.googleCalendarSendUpdates

/-- The calendar's answer on the meeting. -/
def recordCalendar (now : Time) (meetingId : Id) (result : CalendarEventResult) (s : Store) :
    Store :=
  { s with
    meetings := s.meetings.modify meetingId fun row =>
      { row with
        calendarId := result.calendarId
        providerEventId := result.providerEventId
        providerHtmlLink := result.htmlLink
        updatedAt := now } }

/-- A booking completes a linked enrollment that is still active. -/
def completeBooked (now : Time) (enrollment : Option (Id × SequenceEnrollment)) (s : Store) :
    Store :=
  match enrollment with
  | some (e, row) => if row.status = .active then completeSequenceForMeeting now e row s else s
  | none => s

/-- What the booking writes once the calendar has answered. -/
def recordMeeting (now : Time) (meetingId : Id) (result : CalendarEventResult)
    (enrollment : Option (Id × SequenceEnrollment)) (s : Store) : Store :=
  enqueueEvent .meetingBooked "meeting_handoff" meetingId (.once .meetingBooked meetingId)
    (completeBooked now enrollment (recordCalendar now meetingId result s))

/-- The enrollment a booking names must exist. -/
def enrollmentForMeeting (s : Store) (enrollmentId : Option Id) :
    Except PyError (Option (Id × SequenceEnrollment)) :=
  match enrollmentId with
  | none => .ok none
  | some e =>
    match s.enrollments[e]? with
    | some row => .ok (some (e, row))
    | none => .error (.valueError "sequence enrollment not found")

omit [Casing] in
theorem enrollmentForMeeting_stored {s : Store} {id : Option Id}
    {found : Option (Id × SequenceEnrollment)} (h : enrollmentForMeeting s id = .ok found)
    (e : Id) (row : SequenceEnrollment) (heq : found = some (e, row)) :
    s.enrollments[e]? = some row := by
  subst heq
  unfold enrollmentForMeeting at h
  split at h
  · cases h
  · split at h
    · next hget =>
      cases h
      exact hget
    · cases h

def createMeeting (rt : Runtime) (request : MeetingCreateRequest)
    (actor idempotencyKey : String) (client : CalendarClient) : Tx Id := do
  if request.endAt ≤ request.startAt then
    throw (.valueError "end_at must be after start_at")
  sessionScope do
    match ← query (·.meetings.first? (·.idempotencyKey == idempotencyKey)) with
    | some (existing, _) => return existing
    | none =>
      let target ← queryOrRaise fun s =>
        requireExportedTarget (s.crmTargets[request.crmTargetId]?)
      let contact ← queryOrRaise (contactForMeeting · target request.contactId)
      let attendees ← queryOrRaise fun _ => meetingAttendees rt request.attendees contact
      queryOrRaise (ensureInviteAllowed rt contact · attendees)
      let enrollment ← queryOrRaise (enrollmentForMeeting · request.sequenceEnrollmentId)
      let meetingId ← query (·.meetings.length)
      let meeting := meetingFor rt request actor idempotencyKey client.provider contact attendees
      write (·.insertMeeting meeting)
      flush
      let event := calendarRequest rt meetingId meeting request.sendUpdates
      match client.createEvent event with
      | .error message => throw (.providerError message)
      | .ok result =>
        perform fun x => { x with calendar := x.calendar ++ [event] }
        write (recordMeeting rt.now meetingId result enrollment)
        return meetingId

end GhostRecon
