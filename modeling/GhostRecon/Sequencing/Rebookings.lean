import GhostRecon.Meeting.Bookings
import GhostRecon.Sequencing.Advances

/-!
Booking the meeting of a Google Meet activity more than once. The operation takes
activities that are already scheduled, and every booking of one activity has the
same idempotency key: the first one makes the meeting, the later ones are told
about it. A later call that asks for other times or attendees is reported as a
success too, and the first meeting stays in place.
-/

namespace GhostRecon

open Lib (Id Table after)
open Std.Do

set_option mvcgen.warning false

section Attendees

variable [Casing]

/-- The attendees of a booking: those asked for, and its contact. -/
def withContact (requested : List MeetingAttendee) (contact : Option Contact) :
    List MeetingAttendee :=
  match contact with
  | none => requested
  | some contact =>
    if truthy contact.email ∧ lower (contact.email.getD "") ∉ requested.map (lower ·.email) then
      requested ++
        [{ email := lower (contact.email.getD ""), name := some contact.fullName
           optional := false }]
    else requested

theorem meetingAttendees_ok {rt : Runtime} {requested attendees : List MeetingAttendee}
    {contact : Option (Id × Contact)} (h : meetingAttendees rt requested contact = .ok attendees) :
    attendees = withContact requested (contact.map Prod.snd) := by
  unfold meetingAttendees withContact at *
  cases contact with
  | none =>
    simp only [List.append_nil, bind, Except.bind, pure, Except.pure] at h
    split at h
    · cases h
    · cases h
      rfl
  | some found =>
    simp only [bind, Except.bind, Option.map_some] at h ⊢
    by_cases hextra : truthy found.2.email ∧
        lower (found.2.email.getD "") ∉ requested.map (lower ·.email)
    · rw [if_pos hextra] at h ⊢
      split at h
      · simpa [pure, Except.pure] using h.symm
      · cases h
    · rw [if_neg hextra] at h ⊢
      simp only [pure, Except.pure, List.append_nil] at h
      split at h
      · cases h
      · cases h
        rfl

end Attendees

section Call

variable [Casing]

/-- One call of `schedule_sequence_meeting_activity` on an activity. -/
structure ScheduleCall where
  rt : Runtime
  request : SequenceActivityScheduleMeetingRequest
  actor : String
  client : CalendarClient

def ScheduleCall.program (c : ScheduleCall) (a : Id) : Tx (Option SequenceStepActivity) :=
  scheduleSequenceMeetingActivity c.rt a c.request c.actor c.client

/-- The world a call on the activity leaves. -/
def scheduleStep (a : Id) (w : DbWorld) (c : ScheduleCall) : DbWorld :=
  after (c.program a) w

/-- The meeting every booking of the activity is about. -/
def meetingOf (a : Id) (s : Store) : Option (Id × MeetingHandoff) :=
  s.meetings.first? (·.idempotencyKey == "sequence-meeting:" ++ toString a)

/-- The attendees of a call: those it asks for, and the enrolled contact. -/
def ScheduleCall.attendees (c : ScheduleCall) (a : Id) (s : Store) : List MeetingAttendee :=
  withContact c.request.attendees
    (((s.activities[a]?).bind fun activity => s.enrollments[activity.enrollmentId]?).bind
      fun enrollment => s.contacts[enrollment.contactId]?)

/-- The meeting has the times and attendees of the call. -/
def ScheduleCall.describes (c : ScheduleCall) (a : Id) (s : Store) (meeting : MeetingHandoff) :
    Bool :=
  meeting.startAt == c.request.startAt && meeting.endAt == c.request.endAt &&
    meeting.attendees == c.attendees a s

/-- The calendar has an event with the times and attendees of the meeting. -/
def OnCalendar (x : External) (m : Id) (meeting : MeetingHandoff) : Prop :=
  ∃ event ∈ x.calendar, event.meetingId = m ∧ event.startAt = meeting.startAt ∧
    event.endAt = meeting.endAt ∧ event.attendees = meeting.attendees

/-- The meeting linked to the activity after the call, and the calendar event
behind it, are those the call asked for. -/
def MeetsCall (a : Id) (c : ScheduleCall) (w w' : DbWorld) : Prop :=
  ∃ activity m meeting, w'.store.activities[a]? = some activity ∧
    activity.meetingHandoffId = some m ∧ w'.store.meetings[m]? = some meeting ∧
    c.describes a w.store meeting = true ∧ OnCalendar w'.external m meeting

omit [Casing] in
theorem meetingContext_after (a : Id) (w : DbWorld) : after (meetingContext a) w = w := by
  refine (Lib.sessionScope_relates (R := fun v => v = w) ?_ ?_).1
  · rintro v rfl
    rfl
  · mvcgen
    all_goals subst_vars
    all_goals rfl

omit [Casing] in
theorem advanceEnrollment_meetings {s : Store} {now : Time} {e : Id}
    {loaded : SequenceEnrollment} {step : SequenceStep} :
    (advanceEnrollment now e loaded step s).meetings = s.meetings := by
  rcases advanceEnrollment_eq now e loaded step s with hdone | ⟨order, due, hnext⟩
  · rw [hdone]
    rfl
  · rw [hnext]
    rfl

omit [Casing] in
/-- What the last transaction leaves: the activity with its meeting. -/
theorem linkMeeting_links {rt : Runtime} {a m : Id} {actor : String} {w w' : DbWorld}
    {found : Option SequenceStepActivity} (h : linkMeeting rt a actor m w = .ok found w') :
    w'.store.meetings = w.store.meetings ∧ w'.external = w.external ∧
      ∃ activity, w'.store.activities[a]? = some activity ∧ activity.meetingHandoffId = some m := by
  refine (Lib.sessionScope_answers (R := fun _ v => v.store.meetings = w.store.meetings ∧
    v.external = w.external ∧ ∃ activity, v.store.activities[a]? = some activity ∧
      activity.meetingHandoffId = some m) h ?_).1
  mvcgen
  all_goals subst_vars
  next activity hactivity enrollment hrow step hstep =>
    unfold scheduleActivity
    rw [advanceEnrollment_updateActivity]
    refine ⟨?_, rfl, ?_⟩
    · exact advanceEnrollment_meetings
    · simp [Store.updateActivity, advanceEnrollment_activities, hactivity]

/-- A call that returns the activity booked it, or found its meeting, and linked
the meeting. -/
theorem schedule_returns {a : Id} {c : ScheduleCall} {w w' : DbWorld} {row : SequenceStepActivity}
    (h : c.program a w = .ok (some row) w') :
    ∃ activity enrollment m v, w.store.activities[a]? = some activity ∧
      w.store.enrollments[activity.enrollmentId]? = some enrollment ∧
      createMeeting c.rt (meetingRequest activity enrollment c.request) c.actor
        ("sequence-meeting:" ++ toString a) c.client w = .ok m v ∧
      w'.store.meetings = v.store.meetings ∧ w'.external = v.external ∧
      ∃ linked, w'.store.activities[a]? = some linked ∧ linked.meetingHandoffId = some m := by
  have hreturned : Lib.returned (c.program a) w = some (some row) := by
    rw [Lib.returned, h]
  have hleft : after (c.program a) w = w' := by
    rw [after, h]
  unfold ScheduleCall.program scheduleSequenceMeetingActivity at hreturned hleft
  obtain ⟨context, hcontext, hrest, hafter⟩ := Lib.returned_bind hreturned
  rw [hafter, meetingContext_after] at hleft
  rw [meetingContext_after] at hrest
  cases context with
  | none => cases hrest
  | some found =>
    obtain ⟨activity, enrollment⟩ := found
    obtain ⟨-, hactivity, -, henrollment⟩ := meetingContext_some (Lib.run_of_returned hcontext)
    dsimp only at hrest hleft
    split at hrest
    · cases hrest
    · next hsubject =>
      rw [if_neg hsubject] at hleft
      obtain ⟨m, hbooked, hlinked, hend⟩ := Lib.returned_bind hrest
      rw [hend] at hleft
      have hlink := linkMeeting_links (Lib.run_of_returned hlinked)
      rw [hleft] at hlink
      exact ⟨activity, enrollment, m, _, hactivity, henrollment, Lib.run_of_returned hbooked,
        hlink⟩

/-- The activity has no meeting yet, or its meeting is on the calendar. -/
def EventBehind (a : Id) (w : DbWorld) : Prop :=
  ∀ m meeting, meetingOf a w.store = some (m, meeting) → OnCalendar w.external m meeting

/-- The condition on a call: the meeting of the activity, if it has one, has the
times and attendees of the call. -/
def ScheduleCall.asBooked (c : ScheduleCall) (a : Id) (w : DbWorld) : Bool :=
  (meetingOf a w.store).all fun found => c.describes a w.store found.2

omit [Casing] in
theorem contactForMeeting_named {s : Store} {target : CrmTarget} {id : Id}
    {contact : Option (Id × Contact)} (h : contactForMeeting s target (some id) = .ok contact) :
    contact.map Prod.snd = s.contacts[id]? := by
  unfold contactForMeeting at h
  simp only at h
  split at h
  · next found hfound =>
    cases h
    obtain ⟨row, hrow, rfl⟩ := Option.map_eq_some_iff.mp hfound
    exact hrow.symm
  · cases h

theorem Booked.onCalendar {rt : Runtime} {request : MeetingCreateRequest} {actor key : String}
    {client : CalendarClient} {facts : BookingFacts} {w w' : DbWorld} {m : Id}
    (h : Booked rt request actor key client facts w m w') :
    OnCalendar w'.external m (facts.row rt request actor key client.provider) := by
  refine ⟨calendarRequest rt m (facts.meeting rt request actor key client.provider)
    request.sendUpdates, ?_, rfl, rfl, rfl, rfl⟩
  rw [h.calendar, h.place]
  simp

/-- A call on these terms that is reported as a success has met the request. -/
theorem schedule_meets_call {a : Id} {c : ScheduleCall} {w w' : DbWorld}
    {row : SequenceStepActivity} (hbehind : EventBehind a w) (hterms : c.asBooked a w = true)
    (h : c.program a w = .ok (some row) w') : MeetsCall a c w w' := by
  obtain ⟨activity, enrollment, m, v, hactivity, henrollment, hbooking, hmeetings, hexternal,
    linked, hlinked, hhandoff⟩ := schedule_returns h
  rcases createMeeting_returns hbooking with ⟨meeting, hfound, rfl⟩ | ⟨facts, hbooked⟩
  · have hfound' : meetingOf a v.store = some (m, meeting) := hfound
    refine ⟨linked, m, meeting, hlinked, hhandoff, ?_, ?_, ?_⟩
    · rw [hmeetings]
      exact (Table.first?_some hfound).1
    · rw [ScheduleCall.asBooked, hfound'] at hterms
      exact hterms
    · rw [hexternal]
      exact hbehind m meeting hfound'
  · refine ⟨linked, m, facts.row c.rt (meetingRequest activity enrollment c.request) c.actor
      ("sequence-meeting:" ++ toString a) c.client.provider, hlinked, hhandoff, ?_, ?_, ?_⟩
    · rw [hmeetings, hbooked.meetings, hbooked.place]
      simp
    · have hattendees := meetingAttendees_ok hbooked.attendees
      rw [contactForMeeting_named hbooked.contact] at hattendees
      have hcalled : facts.attendees = c.attendees a w.store := by
        rw [hattendees, ScheduleCall.attendees, hactivity, Option.bind_some, henrollment]
        rfl
      rw [ScheduleCall.describes, ← hcalled]
      simp [BookingFacts.row, BookingFacts.meeting, meetingFor, meetingRequest]
    · rw [hexternal]
      exact hbooked.onCalendar

/-- What is on the calendar stays there when a booking raises. -/
theorem OnCalendar.of_raised {rt : Runtime} {request : MeetingCreateRequest}
    {actor key : String} {client : CalendarClient} {problem : PyError} {w w' : DbWorld} {m : Id}
    {meeting : MeetingHandoff} (hon : OnCalendar w.external m meeting)
    (h : createMeeting rt request actor key client w = .error problem w') :
    OnCalendar w'.external m meeting := by
  obtain ⟨event, hevent, hsame⟩ := hon
  refine ⟨event, ?_, hsame⟩
  rcases (createMeeting_raises h).2 with hidle | ⟨facts, m', inner, hbooked, -, -, hexternal⟩
  · rw [hidle]
    exact hevent
  · rw [hexternal, hbooked.calendar]
    exact List.mem_append_left _ hevent

theorem createMeeting_behind {a : Id} (rt : Runtime) (request : MeetingCreateRequest)
    (actor : String) (client : CalendarClient) (w : DbWorld) (hbehind : EventBehind a w) :
    EventBehind a (after (createMeeting rt request actor ("sequence-meeting:" ++ toString a)
      client) w) := by
  unfold after
  cases hrun : createMeeting rt request actor ("sequence-meeting:" ++ toString a) client w with
  | error problem w' =>
    intro m meeting hfound
    rw [meetingOf, (createMeeting_raises hrun).1] at hfound
    exact (hbehind m meeting hfound).of_raised hrun
  | ok m w' =>
    rcases createMeeting_returns hrun with ⟨-, -, rfl⟩ | ⟨facts, hbooked⟩
    · exact hbehind
    · intro m' meeting hfound
      obtain ⟨hrow, hkey⟩ := Table.first?_some hfound
      rw [hbooked.meetings] at hrow
      rcases Table.get_concat hrow with hold | ⟨rfl, rfl⟩
      · have hmiss := Table.first?_none.mp hbooked.fresh meeting (List.mem_of_getElem? hold)
        rw [hmiss] at hkey
        cases hkey
      · rw [← hbooked.place]
        exact hbooked.onCalendar

omit [Casing] in
theorem linkMeeting_behind {a : Id} (rt : Runtime) (actor : String) (m : Id) (w : DbWorld)
    (hbehind : EventBehind a w) : EventBehind a (after (linkMeeting rt a actor m) w) := by
  have hsame : (after (linkMeeting rt a actor m) w).store.meetings = w.store.meetings ∧
      (after (linkMeeting rt a actor m) w).external = w.external := by
    refine (Lib.sessionScope_relates (R := fun v : DbWorld =>
      v.store.meetings = w.store.meetings ∧ v.external = w.external) ?_ ?_).1
    · exact fun _ h => ⟨rfl, h.2⟩
    · mvcgen
      all_goals subst_vars
      · next activity hactivity enrollment hrow step hstep =>
        exact ⟨advanceEnrollment_meetings, rfl⟩
      all_goals exact ⟨trivial, rfl⟩
  intro m' meeting hfound
  rw [meetingOf, hsame.1] at hfound
  rw [hsame.2]
  exact hbehind m' meeting hfound

/-- Every call on the activity keeps its meeting on the calendar. -/
theorem scheduleStep_behind {a : Id} (w : DbWorld) (c : ScheduleCall)
    (hbehind : EventBehind a w) : EventBehind a (scheduleStep a w c) := by
  refine Lib.bind_relates (R := fun w w' => EventBehind a w → EventBehind a w')
    (fun h h' hw => h' (h hw)) ?_ ?_ hbehind
  · rw [meetingContext_after]
    exact id
  · intro context w' _
    cases context with
    | none => exact id
    | some found =>
      obtain ⟨activity, enrollment⟩ := found
      dsimp only
      split
      · exact id
      · refine Lib.bind_relates (R := fun w w' => EventBehind a w → EventBehind a w')
          (fun h h' hw => h' (h hw)) ?_ ?_
        · exact createMeeting_behind c.rt _ c.actor c.client w'
        · intro m v _
          exact linkMeeting_behind c.rt c.actor m v

/-- In every run of calls on a Google Meet activity that each ask for the times
and attendees of its meeting once it has one, every call that is reported as a
success has the meeting and the calendar event it asked for. -/
theorem rebookings_meet_calls (a : Id) (w : DbWorld) (calls : List ScheduleCall)
    (hstart : EventBehind a w)
    (hrun : Lib.Admissible (scheduleStep a) (fun v c => c.asBooked a v = true) w calls) :
    Lib.Admissible (scheduleStep a)
      (fun v c => ∀ row v', c.program a v = .ok (some row) v' → MeetsCall a c v v') w calls := by
  refine Lib.admissible_of_invariant (I := EventBehind a) ?_ ?_ hrun hstart
  · exact fun v c _ hv => scheduleStep_behind v c hv
  · exact fun v c hterms hv row v' h => schedule_meets_call hv hterms h

end Call

section Rebooking

/-- A booking of the first activity at the desk. -/
def bookFrom (start finish : Time) : ScheduleCall where
  rt := { now := 40 }
  request := { startAt := start, endAt := finish }
  actor := "operator"
  client := openCalendar

theorem atMeeting_unbooked : EventBehind 0 atMeeting := by
  rintro m meeting ⟨⟩

/-- The second booking asks for other times and is reported as a success; the
meeting keeps its first times. -/
theorem rebooking_keeps_first_times :
    ¬ Lib.Admissible (scheduleStep 0)
      (fun v c => ∀ row v', c.program 0 v = .ok (some row) v' → MeetsCall 0 c v v')
      atMeeting [bookFrom 100 200, bookFrom 300 400] := by
  rintro ⟨-, hsecond, -⟩
  have hreturned : ((Lib.returned ((bookFrom 300 400).program 0)
      (scheduleStep 0 atMeeting (bookFrom 100 200))).bind id).isSome = true := by
    decide +kernel
  obtain ⟨row, hrow⟩ := Option.isSome_iff_exists.mp hreturned
  obtain ⟨found, hfound, rfl⟩ := Option.bind_eq_some_iff.mp hrow
  obtain ⟨activity, m, meeting, -, -, hmeeting, hterms, -⟩ :=
    hsecond row _ (Lib.run_of_returned hfound)
  have hkept : (after ((bookFrom 300 400).program 0)
      (scheduleStep 0 atMeeting (bookFrom 100 200))).store.meetings.all
        (·.startAt == 100) = true := by
    decide +kernel
  have hfirst := List.all_eq_true.mp hkept meeting (List.mem_of_getElem? hmeeting)
  simp only [ScheduleCall.describes, bookFrom, Bool.and_eq_true, beq_iff_eq] at hterms hfirst
  rw [hterms.1.1] at hfirst
  cases hfirst

/-- A repeated booking with the same times is met. -/
theorem repeated_booking_met :
    Lib.Admissible (scheduleStep 0)
      (fun v c => ∀ row v', c.program 0 v = .ok (some row) v' → MeetsCall 0 c v v')
      atMeeting [bookFrom 100 200, bookFrom 100 200] :=
  rebookings_meet_calls 0 atMeeting [bookFrom 100 200, bookFrom 100 200] atMeeting_unbooked
    (by decide +kernel)

end Rebooking

end GhostRecon
