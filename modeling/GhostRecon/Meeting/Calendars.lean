import GhostRecon.Meeting.Bookings
import GhostRecon.Sequencing.Unsubscribes

/-!
The calendar beside the store. Booking and canceling call the calendar in the
middle of a transaction, and no rollback reaches the calendar: when a commit is
refused after the calendar has answered, the event stays without a meeting, or the
meeting without its event. The calendar makes a new event for every creation it is
asked for, and refuses to delete an event twice.
-/

namespace GhostRecon

open Lib (Id Table after)
open Std.Do

set_option mvcgen.warning false

/-- An event the calendar has made, for the booking of a key. -/
structure CalendarEvent where
  key : String
  providerEventId : String
  /-- Not canceled. -/
  standing : Bool
  deriving DecidableEq, Repr

/-- How the calendar names new events. -/
structure CalendarProvider where
  newId : List CalendarEvent → String
  newId_ne : ∀ events, newId events ≠ ""
  newId_fresh : ∀ events, ∀ event ∈ events, event.providerEventId ≠ newId events

/-- The client of one booking: the calendar refuses, or makes a new event. -/
def CalendarProvider.client (p : CalendarProvider) (events : List CalendarEvent)
    (refusal : Option String) : CalendarClient where
  provider := "google"
  createEvent _ :=
    match refusal with
    | some message => .error message
    | none =>
      .ok { calendarId := some "primary", providerEventId := some (p.newId events)
            htmlLink := none }

/-- The answer to a deletion: an event that is gone is not found. -/
def deleteEvent (events : List CalendarEvent) (refusal : Option String) (id : String) :
    Except String Unit :=
  match refusal with
  | some message => .error message
  | none =>
    if events.any fun event => event.providerEventId == id && event.standing then .ok ()
    else .error "Google Calendar resource not found"

/-- A transaction whose commit the database may refuse. -/
def committing {α : Type} (commits : Bool) (program : MeetingTx α) : MeetingTx α :=
  if commits then program
  else Lib.sessionScope (fun _ => false) .integrityError program

inductive CalendarOp where
  | create (request : MeetingCreateRequest) (actor key : String)
  | cancel (m : Id) (reason : String)

/-- One call, with what the calendar and the database do to it. -/
structure CalendarCall where
  rt : Runtime
  op : CalendarOp
  refusal : Option String := none
  commits : Bool := true

/-- The meeting service and the calendar. -/
structure CalendarWorld where
  desk : MeetingWorld
  events : List CalendarEvent

section Machine

variable [Casing]

/-- The meeting service after a call. -/
def CalendarCall.desk (p : CalendarProvider) (w : CalendarWorld) (c : CalendarCall) :
    MeetingWorld :=
  match c.op with
  | .create request actor key =>
    after (committing c.commits
      (onShared (createMeeting c.rt request actor key (p.client w.events c.refusal)))) w.desk
  | .cancel m reason =>
    after (committing c.commits
      (cancelMeeting c.rt m reason (deleteEvent w.events c.refusal))) w.desk

/-- The calendar after a call: the events the call had made, and those it had
deleted. -/
def CalendarCall.events (p : CalendarProvider) (w : CalendarWorld) (c : CalendarCall) :
    List CalendarEvent :=
  match c.op with
  | .create _ _ key =>
    w.events ++
      ((c.desk p w).external.calendar.drop w.desk.external.calendar.length).map fun _ =>
        { key, providerEventId := p.newId w.events, standing := true }
  | .cancel _ _ =>
    let deleted := (c.desk p w).external.canceledEvents.drop w.desk.external.canceledEvents.length
    w.events.map fun event =>
      { event with standing := event.standing && !deleted.contains event.providerEventId }

def calendarStep (p : CalendarProvider) (w : CalendarWorld) (c : CalendarCall) :
    CalendarWorld where
  desk := c.desk p w
  events := c.events p w

/-- Calendar and store agree: no key has two standing events, every standing event
belongs to a committed meeting, and canceling a meeting whose event is gone leaves
it canceled. -/
structure CalendarAgrees (p : CalendarProvider) (w : CalendarWorld) : Prop where
  once : ∀ key, (w.events.filter fun event => event.key == key && event.standing).length ≤ 1
  committed : ∀ event ∈ w.events, event.standing = true →
    ∃ (m : Id) (row : MeetingHandoff), w.desk.store.meetings[m]? = some row ∧
      row.idempotencyKey = event.key ∧ row.providerEventId = some event.providerEventId
  cancelable : ∀ (m : Id) (row : MeetingHandoff) (id : String),
    w.desk.store.meetings[m]? = some row → row.providerEventId = some id →
    (∀ event ∈ w.events, event.providerEventId = id → event.standing = false) →
    ∀ (c : CalendarCall) (reason : String), c.op = .cancel m reason → c.refusal = none →
      c.commits = true →
      ((calendarStep p w c).desk.store.meetings[m]?).map (·.status) = some .canceled

/-- A desk that has booked nothing yet. -/
structure CalendarWorld.Opening (w : CalendarWorld) : Prop where
  valid : w.desk.store.constraintsOk = true
  meetings : w.desk.store.meetings = []
  events : w.events = []

/-- The outbox keys a new booking takes are free. -/
def announcementFree (request : MeetingCreateRequest) (s : Store) : Bool :=
  s.outbox.all (·.idempotencyKey != .once .meetingBooked s.meetings.length) &&
    (request.sequenceEnrollmentId.all fun e =>
      (s.enrollments[e]?).all fun row =>
        row.status != .active ||
          s.outbox.all (·.idempotencyKey != .counted .sequenceCompleted e (row.version + 1)))

/-- The condition on a call: if the calendar does what it is asked, the commit goes
through. A refusal, a replay and the deletion of a missing event do not change the
calendar. -/
def CalendarCall.safe (c : CalendarCall) (w : CalendarWorld) : Bool :=
  c.refusal.isSome ||
    match c.op with
    | .create request _ key =>
      (w.desk.store.meetings.first? (·.idempotencyKey == key)).isSome ||
        (c.commits && announcementFree request w.desk.store.toStore)
    | .cancel m _ =>
      c.commits ||
        (w.desk.store.meetings[m]?).all fun row =>
          !w.events.any fun event =>
            some event.providerEventId == row.providerEventId && event.standing

end Machine

section Commits

theorem after_committing {α : Type} (commits : Bool) (program : MeetingTx α) (w : MeetingWorld) :
    after (committing commits program) w =
      if commits then after program w
      else { after program w with store := w.store } := by
  cases commits with
  | true => rfl
  | false =>
    simp only [committing, after, Lib.sessionScope_run, Bool.false_eq_true, if_false]
    cases program w <;> rfl

theorem updateMeeting_constraints {s : MeetingStore} {m : Id}
    {f : MeetingHandoff → MeetingHandoff}
    (hkey : ∀ row, (f row).idempotencyKey = row.idempotencyKey)
    (hwait : ∀ row, (f row).waitFits = row.waitFits) :
    (s.updateMeeting m f).constraintsOk = s.constraintsOk := by
  have hunique : Table.uniqueOn (s.meetings.modify m f) (fun row => some row.idempotencyKey) =
      s.meetings.uniqueOn (fun row => some row.idempotencyKey) :=
    Table.uniqueOn_modify fun row => congrArg some (hkey row)
  have hwaits : (s.meetings.modify m f).all MeetingHandoff.waitFits =
      s.meetings.all MeetingHandoff.waitFits :=
    Table.all_modify hwait
  simp only [MeetingStore.constraintsOk, MeetingStore.updateMeeting, Store.constraintsOk,
    Store.keysOk, Store.widthsOk, hunique, hwaits]

theorem recordCalendar_constraints (s : Store) (now : Time) (m : Id)
    (result : CalendarEventResult) :
    (recordCalendar now m result s).constraintsOk = s.constraintsOk := by
  have hunique : Table.uniqueOn (recordCalendar now m result s).meetings
      (fun row => some row.idempotencyKey) =
        s.meetings.uniqueOn (fun row => some row.idempotencyKey) :=
    Table.uniqueOn_modify fun _ => rfl
  simp only [Store.constraintsOk, Store.keysOk, Store.widthsOk, hunique]
  rfl

/-- With free outbox keys the commit of a booking goes through. -/
theorem recordMeeting_constraints {s : Store} {now : Time} {m : Id}
    {result : CalendarEventResult} {enrollment : Option (Id × SequenceEnrollment)}
    (hvalid : s.constraintsOk = true)
    (hbooked : ∀ old ∈ s.outbox, old.idempotencyKey ≠ .once .meetingBooked m)
    (hcompleted : ∀ e row, enrollment = some (e, row) → row.status = .active →
      ∀ old ∈ s.outbox, old.idempotencyKey ≠ .counted .sequenceCompleted e (row.version + 1)) :
    (recordMeeting now m result enrollment s).constraintsOk = true := by
  have hcalendar := recordCalendar_constraints s now m result
  rw [recordMeeting, enqueueEvent_constraints]
  cases enrollment with
  | none => exact ⟨hcalendar.trans hvalid, hbooked⟩
  | some found =>
    obtain ⟨e, row⟩ := found
    simp only [completeBooked]
    split
    · next hactive =>
      rw [completeSequenceForMeeting, completeWith, enqueueEvent_constraints]
      refine ⟨⟨?_, hcompleted e row rfl hactive⟩, ?_⟩
      · rw [updateEnrollment_constraints]
        · exact hcalendar.trans hvalid
        · intro old
          rfl
      intro old hold
      rcases List.mem_append.mp hold with hearlier | hnew
      · exact hbooked old hearlier
      · rw [List.mem_singleton.mp hnew]
        simp
    · exact ⟨hcalendar.trans hvalid, hbooked⟩

/-- The meeting was left canceled, and the event it had is deleted. -/
structure CancelMade (rt : Runtime) (m : Id) (reason : String)
    (cancelEvent : String → Except String Unit) (row : MeetingHandoff) (w w' : MeetingWorld) :
    Prop where
  stored : w.store.meetings[m]? = some row
  store : w'.store = w.store.updateMeeting m (cancelRow rt.now reason)
  event : (truthy row.providerEventId = false ∧ w'.external = w.external) ∨
    (cancelEvent (row.providerEventId.getD "") = .ok () ∧
      w'.external = { w.external with
        canceledEvents := w.external.canceledEvents ++ [row.providerEventId.getD ""] })

theorem cancelMeeting_returns {rt : Runtime} {m : Id} {reason : String}
    {cancelEvent : String → Except String Unit} {answer : Option Id} {w w' : MeetingWorld}
    (h : cancelMeeting rt m reason cancelEvent w = .ok answer w') :
    w' = w ∨ ∃ row, CancelMade rt m reason cancelEvent row w w' := by
  refine (Lib.sessionScope_answers (R := fun _ v =>
    v = w ∨ ∃ row, CancelMade rt m reason cancelEvent row w v) h ?_).1
  mvcgen
  all_goals subst_vars
  · next row hrow _ _ haccepted =>
    exact Or.inr ⟨row, hrow, rfl, Or.inr ⟨haccepted, rfl⟩⟩
  · next row hrow _ hnone =>
    exact Or.inr ⟨row, hrow, rfl, Or.inl ⟨by simpa using hnone, rfl⟩⟩
  · exact Or.inl rfl

/-- A cancel that raises on a valid store changed nothing. -/
theorem cancelMeeting_raises {rt : Runtime} {m : Id} {reason : String}
    {cancelEvent : String → Except String Unit} {problem : PyError} {w w' : MeetingWorld}
    (hvalid : w.store.constraintsOk = true)
    (h : cancelMeeting rt m reason cancelEvent w = .error problem w') : w' = w := by
  obtain ⟨inner, rfl, hraised | ⟨_, hreturned, hinvalid⟩⟩ := Lib.sessionScope_refused
    (fun _ v => v.store.constraintsOk = true) (fun v => v = w) h (by
      have hcommit : (w.store.updateMeeting m (cancelRow rt.now reason)).constraintsOk = true := by
        rw [updateMeeting_constraints]
        · exact hvalid
        · intro row
          rfl
        · intro row
          rfl
      mvcgen
      all_goals subst_vars
      all_goals first | exact hcommit | exact hvalid)
  · rw [hraised]
  · rw [hreturned] at hinvalid
    cases hinvalid

end Commits

section Agreement

/-- What the calendar and the store say of each other while every commit goes
through: each event was booked by one meeting, and each meeting has the event it
booked, standing unless the meeting is canceled. -/
structure Settled (w : CalendarWorld) : Prop where
  valid : w.desk.store.constraintsOk = true
  distinct : (w.events.map (·.providerEventId)).Nodup
  backed : ∀ event ∈ w.events, ∃ (m : Id) (row : MeetingHandoff),
    w.desk.store.meetings[m]? = some row ∧ row.idempotencyKey = event.key ∧
      row.providerEventId = some event.providerEventId
  linked : ∀ (m : Id) (row : MeetingHandoff), w.desk.store.meetings[m]? = some row →
    ∃ event ∈ w.events, event.key = row.idempotencyKey ∧
      row.providerEventId = some event.providerEventId ∧
      (event.standing = true ∨ row.status = .canceled)

theorem Settled.of_opening {w : CalendarWorld} (h : w.Opening) : Settled w where
  valid := h.valid
  distinct := by simp [h.events]
  backed := by simp [h.events]
  linked := by simp [h.meetings]

theorem MeetingStore.shared_valid {s : MeetingStore} (h : s.constraintsOk = true) :
    s.toStore.constraintsOk = true := by
  simp only [MeetingStore.constraintsOk, Bool.and_eq_true] at h
  exact h.1.1.1.1

/-- The tables of the meeting service stay valid when the shared ones change, and the new
meetings wait for nothing. -/
theorem MeetingStore.valid_of_shared {s : MeetingStore} {shared : Store}
    {more : Table MeetingHandoff} (h : s.constraintsOk = true)
    (hshared : shared.constraintsOk = true) (hmeetings : shared.meetings = s.meetings ++ more)
    (hmore : ∀ row ∈ more, row.crmRetryAfterSeconds = none) :
    MeetingStore.constraintsOk { s with toStore := shared } = true := by
  have hwaits : more.all MeetingHandoff.waitFits = true := by
    rw [List.all_eq_true]
    intro row hrow
    rw [MeetingHandoff.waitFits, hmore row hrow]
    rfl
  simp only [MeetingStore.constraintsOk, Bool.and_eq_true] at h ⊢
  obtain ⟨⟨⟨⟨-, htasks⟩, hpackets⟩, hfits⟩, hold⟩ := h
  refine ⟨⟨⟨⟨hshared, htasks⟩, hpackets⟩, hfits⟩, ?_⟩
  rw [hmeetings, List.all_append, hold, hwaits]
  rfl

/-- A key has one meeting. -/
theorem MeetingStore.meetings_unique {s : MeetingStore} (h : s.constraintsOk = true) :
    s.meetings.uniqueOn (fun row => some row.idempotencyKey) = true := by
  simp only [MeetingStore.constraintsOk, Store.constraintsOk, Store.keysOk, Bool.and_eq_true] at h
  grind

/-- Events with one name are one event. -/
theorem Settled.same_event {w : CalendarWorld} (h : Settled w) {event event' : CalendarEvent}
    (hevent : event ∈ w.events) (hevent' : event' ∈ w.events)
    (hid : event.providerEventId = event'.providerEventId) : event = event' :=
  List.inj_on_of_nodup_map h.distinct hevent hevent' hid

theorem length_le_one_of_same {α β : Type} {f : α → β} {l : List α}
    (hnodup : (l.map f).Nodup)
    (hsame : ∀ a ∈ l, ∀ b ∈ l, f a = f b) : l.length ≤ 1 := by
  match l with
  | [] => simp
  | [a] => simp
  | a :: b :: rest =>
    have hab := hsame a (by simp) b (by simp)
    simp [hab] at hnodup

/-- A canceled meeting stays canceled, whatever the calendar answers. -/
theorem cancelMeeting_stays_canceled {rt : Runtime} {m : Id} {reason : String}
    {cancelEvent : String → Except String Unit} {w : MeetingWorld} {row : MeetingHandoff}
    (hvalid : w.store.constraintsOk = true) (hrow : w.store.meetings[m]? = some row)
    (hcanceled : row.status = .canceled) :
    ((after (cancelMeeting rt m reason cancelEvent) w).store.meetings[m]?).map (·.status) =
      some .canceled := by
  have hstart : (w.store.meetings[m]?).map (·.status) = some .canceled := by
    rw [hrow, Option.map_some, hcanceled]
  cases hrun : cancelMeeting rt m reason cancelEvent w with
  | error problem w' =>
    rw [after, hrun]
    rw [cancelMeeting_raises hvalid hrun]
    exact hstart
  | ok answer w' =>
    rw [after, hrun]
    rcases cancelMeeting_returns hrun with rfl | ⟨stored, hmade⟩
    · exact hstart
    · simp [hmade.store, MeetingStore.updateMeeting, hrow, cancelRow]

variable [Casing]

/-- Calendar and store agree wherever they are settled. -/
theorem Settled.agrees {p : CalendarProvider} {w : CalendarWorld} (h : Settled w) :
    CalendarAgrees p w where
  once := by
    intro key
    apply length_le_one_of_same (f := CalendarEvent.providerEventId)
    · exact h.distinct.sublist (List.filter_sublist.map _)
    · intro event hevent event' hevent'
      simp only [List.mem_filter, Bool.and_eq_true, beq_iff_eq] at hevent hevent'
      obtain ⟨m, row, hrow, hkey, hid⟩ := h.backed event hevent.1
      obtain ⟨m', row', hrow', hkey', hid'⟩ := h.backed event' hevent'.1
      have hsame : m = m' := Table.uniqueOn_position (MeetingStore.meetings_unique h.valid)
        hrow hrow' rfl (by rw [hkey', hkey, hevent.2.1, hevent'.2.1])
      subst hsame
      rw [hrow] at hrow'
      cases hrow'
      rw [hid] at hid'
      exact Option.some.inj hid'
  committed := fun event hevent _ => h.backed event hevent
  cancelable := by
    intro m row id hrow hid hgone c reason hop hrefusal hcommits
    obtain ⟨event, hevent, -, hnamed, hstanding | hcanceled⟩ := h.linked m row hrow
    · rw [hid] at hnamed
      have hnot := hgone event hevent (Option.some.inj hnamed).symm
      rw [hstanding] at hnot
      cases hnot
    · rw [calendarStep, CalendarCall.desk, hop]
      simp only [after_committing, hcommits, if_true]
      exact cancelMeeting_stays_canceled h.valid hrow hcanceled

end Agreement

section Calls

variable {p : CalendarProvider} {w w' : CalendarWorld}

/-- What a call that does nothing leaves is settled. -/
theorem Settled.of_same (h : Settled w) (hstore : w'.desk.store = w.desk.store)
    (hevents : w'.events = w.events) : Settled w' where
  valid := by rw [hstore]; exact h.valid
  distinct := by rw [hevents]; exact h.distinct
  backed := by rw [hstore, hevents]; exact h.backed
  linked := by rw [hstore, hevents]; exact h.linked

/-- Adding the event and the meeting of one booking. -/
theorem Settled.book (key : String) (row : MeetingHandoff) (h : Settled w)
    (hvalid : w'.desk.store.constraintsOk = true)
    (hmeetings : w'.desk.store.meetings = w.desk.store.meetings ++ [row])
    (hevents : w'.events =
      w.events ++ [{ key, providerEventId := p.newId w.events, standing := true }])
    (hkey : row.idempotencyKey = key) (hid : row.providerEventId = some (p.newId w.events)) :
    Settled w' where
  valid := hvalid
  distinct := by
    rw [hevents, List.map_append, List.nodup_append]
    refine ⟨h.distinct, by simp, ?_⟩
    intro id hold id' hnew
    obtain ⟨event, hevent, rfl⟩ := List.mem_map.mp hold
    obtain ⟨_, hsingle, rfl⟩ := List.mem_map.mp hnew
    rw [List.mem_singleton.mp hsingle]
    exact p.newId_fresh w.events event hevent
  backed := by
    intro event hevent
    rw [hevents] at hevent
    rw [hmeetings]
    rcases List.mem_append.mp hevent with hold | hnew
    · obtain ⟨m, stored, hstored, hlink⟩ := h.backed event hold
      exact ⟨m, stored, Table.get_of_prefix (List.prefix_append _ _) m stored hstored, hlink⟩
    · rw [List.mem_singleton.mp hnew]
      exact ⟨w.desk.store.meetings.length, row, by simp, hkey, hid⟩
  linked := by
    intro m stored hstored
    rw [hmeetings] at hstored
    rw [hevents]
    rcases Table.get_concat hstored with hold | ⟨-, rfl⟩
    · obtain ⟨event, hevent, hlink⟩ := h.linked m stored hold
      exact ⟨event, List.mem_append_left _ hevent, hlink⟩
    · exact ⟨_, List.mem_append_right _ (List.mem_singleton_self _), hkey.symm, hid, Or.inl rfl⟩

/-- Canceling one meeting whose event is deleted with it, or already gone. -/
theorem Settled.cancel {rt : Runtime} {m : Id} {reason : String} (gone : String → Bool)
    (h : Settled w)
    (hstore : w'.desk.store = w.desk.store.updateMeeting m (cancelRow rt.now reason))
    (hevents : w'.events = w.events.map fun event =>
      { event with standing := event.standing && !gone event.providerEventId })
    (hgone : ∀ id, gone id = true →
      ∃ row, w.desk.store.meetings[m]? = some row ∧ row.providerEventId = some id) :
    Settled w' where
  valid := by
    rw [hstore, updateMeeting_constraints]
    · exact h.valid
    · intro row
      rfl
    · intro row
      rfl
  distinct := by
    rw [hevents, List.map_map]
    exact h.distinct
  backed := by
    intro event hevent
    rw [hevents] at hevent
    obtain ⟨before, hbefore, rfl⟩ := List.mem_map.mp hevent
    obtain ⟨i, row, hrow, hkey, hid⟩ := h.backed before hbefore
    rw [hstore, MeetingStore.updateMeeting]
    by_cases hi : m = i
    · subst hi
      exact ⟨m, cancelRow rt.now reason row, by simp [hrow], hkey, hid⟩
    · exact ⟨i, row, by simp [hi, hrow], hkey, hid⟩
  linked := by
    intro i row hrow
    rw [hstore, MeetingStore.updateMeeting, List.getElem?_modify] at hrow
    obtain ⟨before, hbefore, rfl⟩ := Option.map_eq_some_iff.mp hrow
    obtain ⟨event, hevent, hkey, hid, hstanding⟩ := h.linked i before hbefore
    rw [hevents]
    by_cases hi : m = i
    · subst hi
      exact ⟨_, List.mem_map_of_mem hevent, by simpa [cancelRow] using hkey,
        by simpa [cancelRow] using hid, Or.inr (by simp [cancelRow])⟩
    · refine ⟨_, List.mem_map_of_mem hevent, by simpa [hi] using hkey, by simpa [hi] using hid, ?_⟩
      rcases hstanding with hstanding | hcanceled
      · left
        have hkept : gone event.providerEventId = false := by
          by_contra hdeleted
          obtain ⟨stored, hstored, hnamed⟩ := hgone _ (Bool.of_not_eq_false hdeleted)
          obtain ⟨own, hown, hownKey, hownId, -⟩ := h.linked m stored hstored
          rw [hnamed] at hownId
          have hsame := h.same_event hevent hown (Option.some.inj hownId)
          subst hsame
          exact hi (Table.uniqueOn_position (MeetingStore.meetings_unique h.valid)
            hstored hbefore rfl (by rw [← hkey, hownKey]))
        simp [hstanding, hkept]
      · right
        simpa [hi] using hcanceled

variable [Casing] {c : CalendarCall}

theorem createMeeting_valid {rt : Runtime} {request : MeetingCreateRequest} {actor key : String}
    {client : CalendarClient} {v : DbWorld} (h : v.store.constraintsOk = true) :
    (after (createMeeting rt request actor key client) v).store.constraintsOk = true := by
  unfold createMeeting
  split
  · exact h
  · exact Lib.sessionScope_valid h

/-- A booking that reached the calendar commits under the condition on its call. -/
theorem Booked.commits {rt : Runtime} {request : MeetingCreateRequest} {actor key : String}
    {client : CalendarClient} {facts : BookingFacts} {v v' : DbWorld} {m : Id}
    (h : Booked rt request actor key client facts v m v')
    (hfree : announcementFree request v.store = true)
    (hflushed : (v.store.insertMeeting
      (facts.meeting rt request actor key client.provider)).constraintsOk = true) :
    v'.store.constraintsOk = true := by
  simp only [announcementFree, Bool.and_eq_true, List.all_eq_true, bne_iff_ne] at hfree
  rw [h.store]
  apply recordMeeting_constraints hflushed hfree.1
  intro e row hfound hactive old hold
  have hnamed := h.enrollment
  rw [hfound] at hnamed
  obtain ⟨hrequested, hstored⟩ := enrollmentForMeeting_named hnamed
  have hcompleted : ∀ old ∈ v.store.outbox,
      old.idempotencyKey ≠ .counted .sequenceCompleted e (row.version + 1) := by
    simpa [hrequested, hstored, hactive] using hfree.2
  exact hcompleted old hold

omit [Casing] in
theorem client_accepts {events : List CalendarEvent} {refusal : Option String}
    {request : CalendarEventRequest} {result : CalendarEventResult}
    (h : (p.client events refusal).createEvent request = .ok result) :
    refusal = none ∧ result.providerEventId = some (p.newId events) := by
  cases refusal with
  | some message => cases h
  | none =>
    cases h
    exact ⟨rfl, rfl⟩

/-- What a booking leaves of the desk and the calendar, by what its transaction
left. -/
theorem calendarStep_create {request : MeetingCreateRequest} {actor key : String} {v : DbWorld}
    (hop : c.op = .create request actor key)
    (hv : after (createMeeting c.rt request actor key (p.client w.events c.refusal))
      ⟨w.desk.store.toStore, w.desk.external.toExternal⟩ = v) :
    (calendarStep p w c).desk.store =
        (if c.commits then { w.desk.store with toStore := v.store } else w.desk.store) ∧
      (calendarStep p w c).events = w.events ++
        (v.external.calendar.drop w.desk.external.calendar.length).map fun _ =>
          { key, providerEventId := p.newId w.events, standing := true } := by
  have hdesk : (calendarStep p w c).desk = after (committing c.commits
      (onShared (createMeeting c.rt request actor key (p.client w.events c.refusal)))) w.desk := by
    rw [calendarStep, CalendarCall.desk, hop]
  have hevents : (calendarStep p w c).events = w.events ++
      ((calendarStep p w c).desk.external.calendar.drop w.desk.external.calendar.length).map
        fun _ => { key, providerEventId := p.newId w.events, standing := true } := by
    rw [calendarStep, CalendarCall.events, hop]
  rw [after_committing, after_onShared, hv] at hdesk
  rw [hevents, hdesk]
  cases c.commits <;> exact ⟨rfl, rfl⟩

/-- A booking under the condition adds an event and its meeting, or nothing. -/
theorem calendarStep_create_settled {request : MeetingCreateRequest} {actor key : String}
    (hop : c.op = .create request actor key) (hsafe : c.safe w = true) (h : Settled w) :
    Settled (calendarStep p w c) := by
  have hreach : ∀ {facts m inner}, Booked c.rt request actor key (p.client w.events c.refusal)
      facts ⟨w.desk.store.toStore, w.desk.external.toExternal⟩ m inner →
        c.commits = true ∧ announcementFree request w.desk.store.toStore = true := by
    intro facts m inner hbooked
    obtain ⟨hrefusal, -⟩ := client_accepts hbooked.accepted
    have hfresh := hbooked.fresh
    simp only at hfresh
    simpa [CalendarCall.safe, hrefusal, hop, hfresh] using hsafe
  have hunchanged : ∀ {v : DbWorld},
      after (createMeeting c.rt request actor key (p.client w.events c.refusal))
        ⟨w.desk.store.toStore, w.desk.external.toExternal⟩ = v →
      v.store = w.desk.store.toStore → v.external = w.desk.external.toExternal →
      Settled (calendarStep p w c) := by
    intro v hv hstore hexternal
    obtain ⟨hleft, hevents⟩ := calendarStep_create hop hv
    refine h.of_same ?_ ?_
    · rw [hleft, hstore]
      cases c.commits <;> rfl
    · rw [hevents, hexternal]
      simp
  cases hrun : createMeeting c.rt request actor key (p.client w.events c.refusal)
      ⟨w.desk.store.toStore, w.desk.external.toExternal⟩ with
  | error problem v =>
    obtain ⟨hstore, hexternal | ⟨facts, m, inner, hbooked, hflushed, hrefused, -⟩⟩ :=
      createMeeting_raises hrun
    · exact hunchanged (by rw [after, hrun]) hstore hexternal
    · obtain ⟨-, hfree⟩ := hreach hbooked
      rw [hbooked.commits hfree hflushed] at hrefused
      cases hrefused
  | ok m v =>
    have hv : after (createMeeting c.rt request actor key (p.client w.events c.refusal))
        ⟨w.desk.store.toStore, w.desk.external.toExternal⟩ = v := by rw [after, hrun]
    rcases createMeeting_returns hrun with ⟨meeting, hfound, rfl⟩ | ⟨facts, hbooked⟩
    · exact hunchanged hv rfl rfl
    · obtain ⟨hcommits, -⟩ := hreach hbooked
      obtain ⟨hleft, hevents⟩ := calendarStep_create hop hv
      rw [hcommits, if_pos rfl] at hleft
      have hcreated : v.store.constraintsOk = true := by
        rw [← hv]
        exact createMeeting_valid (MeetingStore.shared_valid h.valid)
      refine h.book (p := p) key
        (facts.row c.rt request actor key (p.client w.events c.refusal).provider)
        ?_ ?_ ?_ rfl (client_accepts hbooked.accepted).2
      · rw [hleft]
        apply MeetingStore.valid_of_shared h.valid hcreated hbooked.meetings
        intro row hrow
        rw [List.mem_singleton.mp hrow]
        rfl
      · rw [hleft]
        exact hbooked.meetings
      · rw [hevents, hbooked.calendar]
        simp

omit [Casing] in
theorem deleteEvent_ok {events : List CalendarEvent} {refusal : Option String} {id : String}
    (h : deleteEvent events refusal id = .ok ()) :
    refusal = none ∧ ∃ event ∈ events, event.providerEventId = id ∧ event.standing = true := by
  unfold deleteEvent at h
  split at h
  · cases h
  · split at h
    · next hfound =>
      refine ⟨rfl, ?_⟩
      simpa using hfound
    · cases h

/-- A cancel under the condition deletes the event and cancels its meeting, or
nothing. -/
theorem calendarStep_cancel_settled {m : Id} {reason : String} (hop : c.op = .cancel m reason)
    (hsafe : c.safe w = true) (h : Settled w) : Settled (calendarStep p w c) := by
  have hdesk : (calendarStep p w c).desk = after (committing c.commits
      (cancelMeeting c.rt m reason (deleteEvent w.events c.refusal))) w.desk := by
    rw [calendarStep, CalendarCall.desk, hop]
  have hevents : (calendarStep p w c).events = w.events.map fun event =>
      { event with
        standing := event.standing &&
          !((calendarStep p w c).desk.external.canceledEvents.drop
            w.desk.external.canceledEvents.length).contains event.providerEventId } := by
    rw [calendarStep, CalendarCall.events, hop]
  have hunchanged : (calendarStep p w c).desk.store = w.desk.store →
      (calendarStep p w c).desk.external = w.desk.external → Settled (calendarStep p w c) := by
    intro hstore hexternal
    refine h.of_same hstore ?_
    rw [hevents, hexternal]
    simp
  rw [after_committing] at hdesk
  cases hrun : cancelMeeting c.rt m reason (deleteEvent w.events c.refusal) w.desk with
  | error problem v =>
    rw [after, hrun, cancelMeeting_raises h.valid hrun] at hdesk
    apply hunchanged <;> rw [hdesk] <;> cases c.commits <;> rfl
  | ok answer v =>
    have hv : after (cancelMeeting c.rt m reason (deleteEvent w.events c.refusal)) w.desk = v := by
      rw [after, hrun]
    rw [hv] at hdesk
    rcases cancelMeeting_returns hrun with rfl | ⟨row, hmade⟩
    · apply hunchanged <;> rw [hdesk] <;> cases c.commits <;> rfl
    · obtain ⟨own, -, -, hid, -⟩ := h.linked m row hmade.stored
      rcases hmade.event with ⟨-, hexternal⟩ | ⟨haccepted, hexternal⟩
      · cases hcommits : c.commits with
        | false =>
          rw [hcommits] at hdesk
          apply hunchanged <;> rw [hdesk]
          · rfl
          · exact hexternal
        | true =>
          rw [hcommits, if_pos rfl] at hdesk
          have hstore := hmade.store
          rw [← hdesk] at hstore
          refine h.cancel (fun _ => false) hstore ?_ (by simp)
          rw [hevents, hdesk, hexternal]
          simp
      · obtain ⟨hrefusal, event, hevent, hnamed, hstanding⟩ := deleteEvent_ok haccepted
        rw [hid, Option.getD_some] at hnamed hexternal
        have hcondition : c.commits = true ∨ ∀ event ∈ w.events,
            some event.providerEventId = row.providerEventId → event.standing = false := by
          simpa [CalendarCall.safe, hrefusal, hop, hmade.stored] using hsafe
        have hcommits : c.commits = true := by
          refine hcondition.resolve_right ?_
          intro hnone
          have hnot := hnone event hevent (by rw [hnamed, hid])
          rw [hstanding] at hnot
          cases hnot
        rw [hcommits, if_pos rfl] at hdesk
        have hstore := hmade.store
        rw [← hdesk] at hstore
        refine h.cancel (fun id => [own.providerEventId].contains id) hstore ?_ ?_
        · rw [hevents, hdesk, hexternal]
          simp
        · intro id hdeleted
          have hsame : id = own.providerEventId := by simpa using hdeleted
          exact ⟨row, hmade.stored, by rw [hid, hsame]⟩

theorem calendarStep_settled (hsafe : c.safe w = true) (h : Settled w) :
    Settled (calendarStep p w c) := by
  cases hop : c.op with
  | create request actor key => exact calendarStep_create_settled hop hsafe h
  | cancel m reason => exact calendarStep_cancel_settled hop hsafe h

end Calls

section Refused

/-- The longest name so far and one more letter. -/
def serialProvider : CalendarProvider where
  newId events :=
    String.ofList (List.replicate ((events.map (·.providerEventId.length)).sum + 1) 'e')
  newId_ne events := by simp [String.ext_iff, List.replicate_succ]
  newId_fresh events event hevent hsame := by
    have hlength := congrArg String.length hsame
    have hbound : event.providerEventId.length ≤ (events.map (·.providerEventId.length)).sum :=
      List.le_sum_of_mem (List.mem_map_of_mem hevent)
    simp at hlength
    omega

def openDesk : CalendarWorld where
  desk := { store := { toStore := deployment.store }, external := {} }
  events := []

def askForAda : CalendarCall where
  rt := { now := 40 }
  op := .create meetAda "operator" "meeting:ada"

def callOffAda : CalendarCall where
  rt := { now := 50 }
  op := .cancel 0 "ada declined"

/-- A booking whose commit is refused, and its retry. -/
def bookAgain : List CalendarCall := [{ askForAda with commits := false }, askForAda]

/-- A cancel whose commit is refused. -/
def cancelHalf : List CalendarCall := [askForAda, { callOffAda with commits := false }]

/-- A booking, its replay and two cancels, all committed. -/
def bookAndCallOff : List CalendarCall := [askForAda, askForAda, callOffAda, callOffAda]

end Refused

end GhostRecon
