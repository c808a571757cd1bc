import GhostRecon.Meeting.Statuses

/-!
What a booking does with the ids it is given. Target, contact, account and
enrollment are named by the request one by one; the contact named takes the place
of the one the target stands for, and the enrollment named is completed while it
is active, whoever it is about.
-/

namespace GhostRecon

open Lib (Id Table after)
open Std.Do

set_option mvcgen.warning false

section Outcome

variable [Casing]

/-- What a booking has read when it reaches the calendar, and its answer. -/
structure BookingFacts where
  target : CrmTarget
  contact : Option (Id × Contact)
  attendees : List MeetingAttendee
  enrollment : Option (Id × SequenceEnrollment)
  result : CalendarEventResult

def BookingFacts.meeting (facts : BookingFacts) (rt : Runtime) (request : MeetingCreateRequest)
    (actor key provider : String) : MeetingHandoff :=
  meetingFor rt request actor key provider facts.contact facts.attendees

/-- The row a booking leaves, with the calendar's answer. -/
def BookingFacts.row (facts : BookingFacts) (rt : Runtime) (request : MeetingCreateRequest)
    (actor key provider : String) : MeetingHandoff :=
  { facts.meeting rt request actor key provider with
    calendarId := facts.result.calendarId
    providerEventId := facts.result.providerEventId
    providerHtmlLink := facts.result.htmlLink
    updatedAt := rt.now }

/-- A new meeting was booked on these facts. -/
structure Booked (rt : Runtime) (request : MeetingCreateRequest) (actor key : String)
    (client : CalendarClient) (facts : BookingFacts) (w : DbWorld) (m : Id) (w' : DbWorld) :
    Prop where
  fresh : w.store.meetings.first? (·.idempotencyKey == key) = none
  target : requireExportedTarget (w.store.crmTargets[request.crmTargetId]?) = .ok facts.target
  contact : contactForMeeting w.store facts.target request.contactId = .ok facts.contact
  attendees : meetingAttendees rt request.attendees facts.contact = .ok facts.attendees
  enrollment : enrollmentForMeeting w.store request.sequenceEnrollmentId = .ok facts.enrollment
  accepted : client.createEvent (calendarRequest rt w.store.meetings.length
    (facts.meeting rt request actor key client.provider) request.sendUpdates) = .ok facts.result
  place : m = w.store.meetings.length
  store : w'.store = recordMeeting rt.now w.store.meetings.length facts.result facts.enrollment
    (w.store.insertMeeting (facts.meeting rt request actor key client.provider))
  calendar : w'.external.calendar = w.external.calendar ++
    [calendarRequest rt w.store.meetings.length
      (facts.meeting rt request actor key client.provider) request.sendUpdates]

/-- A booking that returns found the meeting of its key, or made a new one. -/
theorem createMeeting_returns {rt : Runtime} {request : MeetingCreateRequest}
    {actor key : String} {client : CalendarClient} {m : Id} {w w' : DbWorld}
    (h : createMeeting rt request actor key client w = .ok m w') :
    (∃ meeting, w.store.meetings.first? (·.idempotencyKey == key) = some (m, meeting) ∧ w' = w) ∨
      ∃ facts, Booked rt request actor key client facts w m w' := by
  unfold createMeeting at h
  split at h
  · cases h
  · refine (Lib.sessionScope_answers (R := fun a v =>
      (∃ meeting, w.store.meetings.first? (·.idempotencyKey == key) = some (a, meeting) ∧ v = w) ∨
        ∃ facts, Booked rt request actor key client facts w a v) h ?_).1
    mvcgen [flush, Lib.flush, Lib.queryOrRaise]
    all_goals subst_vars
    · next existing meeting hfound => exact Or.inl ⟨meeting, hfound, rfl⟩
    · next hfresh target htarget contact hcontact attendees hattendees _ _ enrollment henrollment
        _ _ _ result hresult =>
      exact Or.inr ⟨⟨target, contact, attendees, enrollment, result⟩, hfresh, htarget, hcontact,
        hattendees, henrollment, hresult, rfl, rfl, rfl⟩

/-- A booking that raises leaves the store and the calendar as they were, unless
the calendar accepted the event and the commit was refused: then only the store is
as it was. -/
theorem createMeeting_raises {rt : Runtime} {request : MeetingCreateRequest}
    {actor key : String} {client : CalendarClient} {problem : PyError} {w w' : DbWorld}
    (h : createMeeting rt request actor key client w = .error problem w') :
    w'.store = w.store ∧
      (w'.external = w.external ∨
        ∃ facts m inner, Booked rt request actor key client facts w m inner ∧
          (w.store.insertMeeting
            (facts.meeting rt request actor key client.provider)).constraintsOk = true ∧
          inner.store.constraintsOk = false ∧ w'.external = inner.external) := by
  unfold createMeeting at h
  split at h
  · cases h
    exact ⟨rfl, Or.inl rfl⟩
  · obtain ⟨inner, rfl, hinner⟩ := Lib.sessionScope_refused (fun a v =>
      v = w ∨ ∃ facts, Booked rt request actor key client facts w a v ∧
        (w.store.insertMeeting
          (facts.meeting rt request actor key client.provider)).constraintsOk = true)
      (fun v : DbWorld => v.external = w.external) h (by
        mvcgen [flush, Lib.flush, Lib.queryOrRaise]
        all_goals subst_vars
        all_goals try rfl
        · exact Or.inl rfl
        · next hfresh target htarget contact hcontact attendees hattendees _ _ enrollment
            henrollment _ hflushed _ result hresult =>
          exact Or.inr ⟨⟨target, contact, attendees, enrollment, result⟩, ⟨hfresh, htarget,
            hcontact, hattendees, henrollment, hresult, rfl, rfl, rfl⟩, hflushed⟩)
    refine ⟨rfl, ?_⟩
    rcases hinner with hraised | ⟨a, rfl | ⟨facts, hbooked, hflushed⟩, hinvalid⟩
    · exact Or.inl hraised
    · exact Or.inl rfl
    · exact Or.inr ⟨facts, a, inner, hbooked, hflushed, hinvalid, rfl⟩

theorem Booked.meetings {rt : Runtime} {request : MeetingCreateRequest} {actor key : String}
    {client : CalendarClient} {facts : BookingFacts} {w w' : DbWorld} {m : Id}
    (h : Booked rt request actor key client facts w m w') :
    w'.store.meetings = w.store.meetings ++ [facts.row rt request actor key client.provider] := by
  rw [h.store, recordMeeting_meetings]
  rfl

end Outcome

section Ids

variable [Casing]

omit [Casing] in
theorem requireExportedTarget_ok {row : Option CrmTarget} {target : CrmTarget}
    (h : requireExportedTarget row = .ok target) :
    row = some target ∧ target.status = .exported ∧ target.exportStatus = "exported" := by
  unfold requireExportedTarget at h
  split at h
  · cases h
  · split at h
    · cases h
    · next hexported =>
      cases h
      push Not at hexported
      exact ⟨rfl, hexported⟩

/-- The contact a CRM target stands for. -/
def CrmTarget.standsFor (target : CrmTarget) (s : Store) : Option Id :=
  let known (id : Id) := (s.contacts[id]?).map fun _ => id
  if target.targetType = "contact" ∨ target.targetType = "incident_contact" then
    known target.targetId
  else if target.targetType = "email_candidate" then
    ((s.emailCandidates[target.targetId]?).bind (·.contactId)).bind known
  else none

omit [Casing] in
/-- The contact a booking works with: the one it names, or the target's. -/
theorem contactForMeeting_id {s : Store} {target : CrmTarget} {requested : Option Id}
    {contact : Option (Id × Contact)} (h : contactForMeeting s target requested = .ok contact) :
    contact.map Prod.fst = (requested <|> target.standsFor s) := by
  unfold contactForMeeting at h
  cases requested with
  | some id =>
    simp only at h
    split at h
    · next found hfound =>
      cases h
      obtain ⟨row, -, rfl⟩ := Option.map_eq_some_iff.mp hfound
      rfl
    · cases h
  | none =>
    simp only at h
    unfold CrmTarget.standsFor
    split at h
    · next htype =>
      cases h
      simp [htype, Function.comp_def]
    · next htype =>
      split at h
      · next hcandidate =>
        cases h
        cases (s.emailCandidates[target.targetId]?).bind (·.contactId) <;>
          simp [hcandidate, Function.comp_def]
      · next hcandidate =>
        cases h
        simp [htype, hcandidate]

omit [Casing] in
theorem enrollmentForMeeting_named {s : Store} {id : Option Id} {e : Id}
    {row : SequenceEnrollment} (h : enrollmentForMeeting s id = .ok (some (e, row))) :
    id = some e ∧ s.enrollments[e]? = some row := by
  refine ⟨?_, enrollmentForMeeting_stored h e row rfl⟩
  unfold enrollmentForMeeting at h
  split at h
  · cases h
  · split at h
    · cases h
      rfl
    · cases h

omit [Casing] in
/-- The enrollments a booking leaves: the named one completed if it was active. -/
theorem recordMeeting_enrollments {now : Time} {m : Id} {result : CalendarEventResult}
    {enrollment : Option (Id × SequenceEnrollment)} {s : Store} :
    (recordMeeting now m result enrollment s).enrollments =
      match enrollment with
      | some (e, row) =>
        if row.status = .active then (completeSequenceForMeeting now e row s).enrollments
        else s.enrollments
      | none => s.enrollments := by
  cases enrollment with
  | none => rfl
  | some found =>
    obtain ⟨e, row⟩ := found
    simp only [recordMeeting, enqueueEvent, completeBooked]
    split <;> rfl

/-- The booking went by the ids of its request. Its meeting is with the contact
the request names, or else the one the exported target stands for; the one
enrollment it completes is the one the request names, if that was active. A replay
changes nothing. -/
def FollowsRequest (request : MeetingCreateRequest) (m : Id) (w w' : DbWorld) : Prop :=
  w' = w ∨
    ∃ target meeting, w.store.crmTargets[request.crmTargetId]? = some target ∧
      target.status = .exported ∧ target.exportStatus = "exported" ∧
      w'.store.meetings[m]? = some meeting ∧ meeting.crmTargetId = request.crmTargetId ∧
      meeting.contactId = (request.contactId <|> target.standsFor w.store) ∧
      ∀ e row, w.store.enrollments[e]? = some row →
        w'.store.enrollments[e]? = some row ∨
          request.sequenceEnrollmentId = some e ∧ row.status = .active ∧
            ∃ row', w'.store.enrollments[e]? = some row' ∧ row'.status = .completed ∧
              row'.pauseReason = some "meeting_booked"

end Ids

section OtherPerson

/-- A second contact, of no CRM target. -/
def outsider : Contact where
  fullName := "Bob"
  email := some "bob@other.example"

def deploymentWithBob : DbWorld where
  store := { contacts := [ada, outsider], crmTargets := [adaTarget] }
  external := {}

/-- A meeting with the outsider under ada's target that names ada's enrollment. -/
def meetBob : MeetingCreateRequest where
  crmTargetId := 0
  sequenceEnrollmentId := some 0
  contactId := some 1
  subject := "Intro"
  startAt := 100
  endAt := 200

/-- A meeting with ada, without an enrollment. -/
def meetAda : MeetingCreateRequest where
  crmTargetId := 0
  subject := "Intro"
  startAt := 100
  endAt := 200

end OtherPerson

end GhostRecon
