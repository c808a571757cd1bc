import GhostRecon.Sequencing.Transitions

/-!
Each operation as a chain of writes: whatever an operation commits is built
from the writes of the life cycle, with the guards its code checks. A call
that raises commits nothing, so the statements hold of the store every call
leaves behind.
-/

namespace GhostRecon

open Lib (Id Table Chain after)
open Std.Do

set_option mvcgen.warning false

variable [Casing]

/-- Code that writes within the life cycle and hands no mail to the sender. -/
structure Within (ok : Label → Prop) (w w' : DbWorld) : Prop where
  writes : Writes ok w.store w'.store
  mail : w'.external.mail = w.external.mail

/-- A call that does so and leaves the constraints satisfied. -/
structure Quiet (ok : Label → Prop) (w w' : DbWorld) : Prop extends Within ok w w' where
  constraints : w.store.constraintsOk = true → w'.store.constraintsOk = true

section Scopes

variable {ok : Label → Prop}

omit [Casing]

theorem Within.refl (w : DbWorld) : Within ok w w :=
  ⟨Chain.refl _, rfl⟩

theorem Within.trans {a b c : DbWorld} (hab : Within ok a b) (hbc : Within ok b c) :
    Within ok a c :=
  ⟨hab.writes.trans hbc.writes, hbc.mail.trans hab.mail⟩

theorem Quiet.refl (w : DbWorld) : Quiet ok w w :=
  ⟨Within.refl w, fun h => h⟩

theorem Quiet.trans {a b c : DbWorld} (hab : Quiet ok a b) (hbc : Quiet ok b c) :
    Quiet ok a c :=
  ⟨hab.toWithin.trans hbc.toWithin, fun h => hbc.constraints (hab.constraints h)⟩

/-- The body of a session decides what its scope commits. -/
theorem sessionScope_quiet {α : Type} {body : Tx α} {w : DbWorld}
    (h : ⦃fun v => ⌜v = w⌝⦄ body
      ⦃post⟨fun _ v => ⌜Within ok w v⌝,
        fun _ v => ⌜Within ok w { v with store := w.store }⌝⟩⦄) :
    Quiet ok w (after (sessionScope body) w) := by
  have hrestore : ∀ v, Within ok w v → Within ok w { v with store := w.store } := by
    intro v hv
    exact ⟨Chain.refl _, hv.mail⟩
  obtain ⟨hwithin, hconstraints⟩ := Lib.sessionScope_relates (R := Within ok w) hrestore h
  exact ⟨hwithin, hconstraints⟩

end Scopes

section Routine

variable {ok : Label → Prop} (hok : ok .routine)

include hok

theorem suppressEnrollment_writes {s : Store} {now : Time} {e : Id}
    {loaded row : SequenceEnrollment} {contact : Contact} {reason : Option String}
    (hrow : s.enrollments[e]? = some row) :
    Writes ok s (suppressEnrollment now e loaded contact reason s) := by
  unfold suppressEnrollment
  refine Chain.trans ?_ (enqueueCounted_writes hok)
  refine Chain.trans ?_ (insertSuppressionEvent_writes hok)
  exact updateEnrollment_writes hok hrow rfl (.close rfl)

omit [Casing]

theorem recordFailure_writes {s : Store} {rt : Runtime} {p : Approval} {error : String}
    (hrow : s.enrollments[p.activity.enrollmentId]? = some p.enrollment)
    (hactivity : s.activities[p.activityId]? = some p.activity) :
    Writes ok s (p.recordFailure rt error s) := by
  unfold Approval.recordFailure
  refine Chain.trans ?_ (updateActivity_writes hok (fun _ => ⟨rfl, rfl, rfl⟩)
    (fun _ => rfl) (fun _ => rfl) hactivity ?_)
  · refine Chain.trans ?_ (updateEnrollment_writes hok hrow rfl (.reschedule rfl rfl))
    exact updateOutbound_writes hok fun _ => ⟨rfl, rfl, rfl⟩
  · exact updateEnrollment_released fun _ => Or.inr rfl

/-- An activity is closed as its enrollment advances. -/
theorem advanceAndClose_writes {s : Store} {now : Time} {a : Id}
    {activity : SequenceStepActivity} {loaded row : SequenceEnrollment} {step : SequenceStep}
    {f : SequenceStepActivity → SequenceStepActivity}
    (hkey : ∀ row : SequenceStepActivity, (f row).enrollmentId = row.enrollmentId ∧
      (f row).sequenceStepId = row.sequenceStepId ∧ (f row).channel = row.channel)
    (hmail : ∀ row : SequenceStepActivity, (f row).outboundEmailId = row.outboundEmailId)
    (hawaits : ∀ row : SequenceStepActivity, (f row).status.awaits = false)
    (hactivity : s.activities[a]? = some activity)
    (hrow : s.enrollments[activity.enrollmentId]? = some row) :
    Writes ok s
      ((advanceEnrollment now activity.enrollmentId loaded step s).updateActivity a f) := by
  have hstored : (advanceEnrollment now activity.enrollmentId loaded step s).activities[a]? =
      some activity := by
    rw [advanceEnrollment_activities]
    exact hactivity
  exact Chain.trans (advanceEnrollment_writes hok hrow)
    (updateActivity_writes hok hkey hmail hawaits hstored advanceEnrollment_released)

theorem recordSent_writes {s : Store} {rt : Runtime} {p : Approval}
    {actor messageId : String}
    (hrow : s.enrollments[p.activity.enrollmentId]? = some p.enrollment)
    (hactivity : s.activities[p.activityId]? = some p.activity) :
    Writes ok s (p.recordSent rt actor messageId s) := by
  unfold Approval.recordSent
  refine Chain.trans ?_ (advanceAndClose_writes hok (fun _ => ⟨rfl, rfl, rfl⟩)
    (fun _ => rfl) (fun _ => rfl) hactivity hrow)
  refine Chain.trans ?_ (enqueueCounted_writes hok)
  exact updateOutbound_writes hok fun _ => ⟨rfl, rfl, rfl⟩

theorem finishActivity_writes {s : Store} {now : Time} {a : Id}
    {activity : SequenceStepActivity} {enrollment : SequenceEnrollment} {step : SequenceStep}
    {actor : String} {metadata : Metadata} (hactivity : s.activities[a]? = some activity)
    (hrow : s.enrollments[activity.enrollmentId]? = some enrollment) :
    Writes ok s (finishActivity now a activity enrollment step actor metadata s) := by
  unfold finishActivity
  rw [advanceEnrollment_updateActivity]
  exact advanceAndClose_writes hok (fun _ => ⟨rfl, rfl, rfl⟩) (fun _ => rfl) (fun _ => rfl)
    hactivity hrow

theorem scheduleActivity_writes {s : Store} {now : Time} {a : Id}
    {activity : SequenceStepActivity} {enrollment : SequenceEnrollment} {step : SequenceStep}
    {actor : String} {meetingId : Id} (hactivity : s.activities[a]? = some activity)
    (hrow : s.enrollments[activity.enrollmentId]? = some enrollment) :
    Writes ok s (scheduleActivity now a activity enrollment step actor meetingId s) := by
  unfold scheduleActivity
  rw [advanceEnrollment_updateActivity]
  exact advanceAndClose_writes hok (fun _ => ⟨rfl, rfl, rfl⟩) (fun _ => rfl) (fun _ => rfl)
    hactivity hrow

theorem recordReply_writes {s : Store} {now : Time} {event : Id}
    {enrollment : Option (Id × SequenceEnrollment)}
    (hlinked : ∀ e row, enrollment = some (e, row) → s.enrollments[e]? = some row) :
    Writes ok s (recordReply now event enrollment s) := by
  refine Chain.trans ?_ (enqueueEvent_writes hok fun _ _ _ => trivial)
  cases enrollment with
  | none => exact Chain.refl s
  | some found =>
    obtain ⟨e, row⟩ := found
    exact completeWith_writes hok (hlinked e row rfl)

/-- A bounce is routine except for the enrollment it pauses. -/
theorem recordBounce_writes {s : Store} {now : Time} {event : Id} {outbound : Option Id}
    {enrollment : Option (Id × SequenceEnrollment)}
    (hlinked : ∀ e row, enrollment = some (e, row) → s.enrollments[e]? = some row)
    (hbounce : ∀ e row, enrollment = some (e, row) → ok (.bounce row.status)) :
    Writes ok s (recordBounce now event outbound (enrollment.map Prod.fst) s) := by
  have hmail : Writes ok s (markBounced now outbound s) := by
    cases outbound with
    | none => exact Chain.refl s
    | some o => exact updateOutbound_writes hok fun _ => ⟨rfl, rfl, rfl⟩
  have hsame : (markBounced now outbound s).enrollments = s.enrollments := by
    cases outbound <;> rfl
  refine Chain.trans (hmail.trans ?_) (enqueueEvent_writes hok fun _ _ _ => trivial)
  cases enrollment with
  | none => exact Chain.refl _
  | some found =>
    obtain ⟨e, row⟩ := found
    have hrow : (markBounced now outbound s).enrollments[e]? = some row := by
      rw [hsame]
      exact hlinked e row rfl
    exact Chain.single (hbounce e row rfl) (.enrollment hrow rfl (.bounce rfl) (by simp))

theorem recordUnsubscribe_writes {s : Store} {now : Time} {event : Id}
    {enrollment : Option (Id × SequenceEnrollment)}
    (hlinked : ∀ e row, enrollment = some (e, row) → s.enrollments[e]? = some row)
    (hevent : event < s.inboundEvents.length) :
    Writes ok s (recordUnsubscribe now event (enrollment.map Prod.fst) s) := by
  have hsame : (suppressUnsubscribed now (enrollment.map Prod.fst) s).inboundEvents =
      s.inboundEvents := by
    cases enrollment <;> rfl
  refine Chain.trans ?_ (enqueueEvent_writes hok ?_)
  · cases enrollment with
    | none => exact Chain.refl s
    | some found =>
      obtain ⟨e, row⟩ := found
      exact updateEnrollment_writes hok (hlinked e row rfl) rfl (.close rfl)
  · intro s' hinbound _
    simpa [OutboxEvent.anchored, hinbound, hsame] using hevent

theorem recordMeeting_writes {s : Store} {now : Time} {meetingId : Id}
    {result : CalendarEventResult} {enrollment : Option (Id × SequenceEnrollment)}
    (hlinked : ∀ e row, enrollment = some (e, row) → s.enrollments[e]? = some row) :
    Writes ok s (recordMeeting now meetingId result enrollment s) := by
  have hcalendar : Writes ok s (recordCalendar now meetingId result s) :=
    writes_beside hok rfl ⟨rfl, rfl, rfl, rfl, rfl, rfl, rfl⟩
  refine Chain.trans (hcalendar.trans ?_) (enqueueEvent_writes hok fun _ _ _ => trivial)
  cases enrollment with
  | none => exact Chain.refl _
  | some found =>
    obtain ⟨e, row⟩ := found
    have hrow : (recordCalendar now meetingId result s).enrollments[e]? = some row :=
      hlinked e row rfl
    by_cases hactive : row.status = .active
    · simp only [completeBooked, hactive, if_true]
      exact completeWith_writes hok hrow
    · simp only [completeBooked, hactive, if_false]
      exact Chain.refl _

end Routine

section Operations

variable {ok : Label → Prop} (hok : ok .routine)

include hok

omit [Casing] in
theorem createSequence_quiet (rt : Runtime) (request : SequenceCreateRequest)
    (key : Option String) (w : DbWorld) :
    Quiet ok w (after (createSequence rt request key) w) := by
  apply sessionScope_quiet
  mvcgen [flush, Lib.flush]
  all_goals subst_vars
  all_goals try exact Within.refl _
  all_goals refine ⟨?_, rfl⟩
  · exact insertSequence_writes hok

omit [Casing] in
theorem updateSequence_quiet (rt : Runtime) (q : Id) (request : SequenceUpdateRequest)
    (w : DbWorld) : Quiet ok w (after (updateSequence rt q request) w) := by
  apply sessionScope_quiet
  mvcgen [flush, Lib.flush]
  all_goals subst_vars
  all_goals try exact Within.refl _
  all_goals refine ⟨?_, rfl⟩
  · exact reviseSequence_writes hok

omit [Casing] in
theorem archiveSequence_quiet (rt : Runtime) (q : Id) (w : DbWorld) :
    Quiet ok w (after (archiveSequence rt q) w) := by
  apply sessionScope_quiet
  mvcgen
  all_goals subst_vars
  all_goals try exact Within.refl _
  all_goals refine ⟨?_, rfl⟩
  · exact reviseSequence_writes hok

theorem createSuppression_quiet (rt : Runtime) (request : SuppressionCreate) (key : String)
    (w : DbWorld) : Quiet ok w (after (createSuppression rt request key) w) := by
  apply sessionScope_quiet
  mvcgen [flush, Lib.flush]
  all_goals subst_vars
  all_goals try exact Within.refl _
  all_goals refine ⟨?_, rfl⟩
  · exact insertSuppression_writes hok

omit [Casing] in
theorem setEnrollmentStatus_quiet (rt : Runtime) (e : Id) {status : EnrollmentStatus}
    (hstatus : status = .canceled ∨ status = .paused) (reason : String)
    (event : Option EventName) (w : DbWorld) :
    Quiet ok w (after (setEnrollmentStatus rt e status reason event) w) := by
  apply sessionScope_quiet
  mvcgen
  all_goals subst_vars
  all_goals try exact Within.refl _
  all_goals refine ⟨?_, rfl⟩
  · next s enrollment hrow jp hguard =>
    apply setStatus_writes hok hrow
    rcases hstatus with hcanceled | hpaused
    · exact Or.inl hcanceled
    · refine Or.inr ⟨hpaused, ?_⟩
      by_contra hterminal
      refine hguard ⟨by simpa using hterminal, ?_⟩
      rintro rfl
      rw [hpaused] at hterminal
      exact hterminal rfl

omit [Casing] in
theorem resumeSequenceEnrollment_quiet (rt : Runtime) (e : Id) (w : DbWorld) :
    Quiet ok w (after (resumeSequenceEnrollment rt e) w) := by
  apply sessionScope_quiet
  mvcgen
  all_goals subst_vars
  all_goals try exact Within.refl _
  all_goals refine ⟨?_, rfl⟩
  · next s enrollment hrow jp hguard =>
    exact resumeEnrollment_writes hok hrow (by simpa using hguard)

omit [Casing] in
theorem completeSequenceActivity_quiet (rt : Runtime) (a : Id)
    (request : SequenceActivityActionRequest) (actor : String) (w : DbWorld) :
    Quiet ok w (after (completeSequenceActivity rt a request actor) w) := by
  apply sessionScope_quiet
  mvcgen
  all_goals subst_vars
  all_goals try exact Within.refl _
  all_goals refine ⟨?_, rfl⟩
  · next s activity hactivity jp _ enrollment hrow step _ =>
    exact finishActivity_writes hok hactivity hrow

theorem createSequenceEnrollment_quiet (rt : Runtime)
    (request : SequenceEnrollmentCreateRequest) (actor key : String) (w : DbWorld) :
    Quiet ok w (after (createSequenceEnrollment rt request actor key) w) := by
  unfold createSequenceEnrollment
  split
  · exact Quiet.refl _
  · apply sessionScope_quiet
    mvcgen [flush, Lib.flush, Lib.queryOrRaise]
    all_goals subst_vars
    all_goals try exact Within.refl _
    all_goals refine ⟨?_, rfl⟩
    · exact insertEnrollment_writes hok rfl

theorem createMeeting_quiet (rt : Runtime) (request : MeetingCreateRequest)
    (actor key : String) (client : CalendarClient) (w : DbWorld) :
    Quiet ok w (after (createMeeting rt request actor key client) w) := by
  unfold createMeeting
  split
  · exact Quiet.refl _
  · apply sessionScope_quiet
    mvcgen [flush, Lib.flush, Lib.queryOrRaise]
    all_goals subst_vars
    all_goals try exact Within.refl _
    all_goals refine ⟨?_, rfl⟩
    · next s _ target _ contact _ attendees _ _ _ enrollment henrollment meeting _ event
        result _ =>
      refine Chain.trans ?_ (recordMeeting_writes hok
        (enrollmentForMeeting_stored henrollment))
      exact writes_beside hok rfl ⟨rfl, rfl, rfl, rfl, rfl, rfl, rfl⟩

omit [Casing] in
theorem linkMeeting_quiet (rt : Runtime) (a : Id) (actor : String) (meetingId : Id)
    (w : DbWorld) : Quiet ok w (after (linkMeeting rt a actor meetingId) w) := by
  apply sessionScope_quiet
  mvcgen
  all_goals subst_vars
  all_goals try exact Within.refl _
  all_goals refine ⟨?_, rfl⟩
  next s activity hactivity enrollment hrow step _ =>
    exact scheduleActivity_writes hok hactivity hrow

omit [Casing] hok in
theorem meetingContext_quiet (a : Id) (w : DbWorld) :
    Quiet ok w (after (meetingContext a) w) := by
  apply sessionScope_quiet
  mvcgen
  all_goals subst_vars
  all_goals exact Within.refl _

/-- Three transactions, of which the first only reads. -/
theorem scheduleSequenceMeetingActivity_quiet (rt : Runtime) (a : Id)
    (request : SequenceActivityScheduleMeetingRequest) (actor : String)
    (client : CalendarClient) (w : DbWorld) :
    Quiet ok w (after (scheduleSequenceMeetingActivity rt a request actor client) w) := by
  unfold scheduleSequenceMeetingActivity
  apply Lib.bind_relates (R := Quiet ok) Quiet.trans (meetingContext_quiet a w)
  intro context w' _
  cases context with
  | none => exact Quiet.refl _
  | some found =>
    obtain ⟨activity, enrollment⟩ := found
    dsimp only
    split
    · exact Quiet.refl _
    · apply Lib.bind_relates (R := Quiet ok) Quiet.trans (createMeeting_quiet hok rt _ actor _ client w')
      intro meetingId w'' _
      exact linkMeeting_quiet hok rt a actor meetingId w''

/-- An inbound event is routine unless it is a bounce that reaches an
enrollment in a status that is not admitted. -/
theorem processInboundEmailEvent_quiet (rt : Runtime) (request : InboundEmailEventCreate)
    (key : String) (w : DbWorld)
    (hbounce : request.eventType = .bounce →
      w.store.inboundEvents.first? (·.idempotencyKey == key) = none →
      ∀ e row, linkedEnrollment w.store request = some (e, row) → ok (.bounce row.status)) :
    Quiet ok w (after (processInboundEmailEvent rt request key) w) := by
  apply sessionScope_quiet
  mvcgen [createUnsubscribeSuppression, flush, Lib.flush]
  all_goals subst_vars
  all_goals try exact Within.refl _
  all_goals refine ⟨?_, rfl⟩
  · exact (insertInboundEvent_writes hok).trans
      (recordReply_writes hok fun _ _ => linkedEnrollment_stored)
  · next s hfresh _ _ htype =>
    exact (insertInboundEvent_writes hok).trans
      (recordBounce_writes hok (fun _ _ => linkedEnrollment_stored) (hbounce htype hfresh))
  · refine ((insertInboundEvent_writes hok).trans (insertSuppressionEvent_writes hok)).trans
      (recordUnsubscribe_writes hok (fun _ _ => linkedEnrollment_stored) ?_)
    simp [insertInboundEvent, Store.insertSuppressionEvent]
  · refine ((insertInboundEvent_writes hok).trans ((insertSuppression_writes hok).trans
      (insertSuppressionEvent_writes hok))).trans
      (recordUnsubscribe_writes hok (fun _ _ => linkedEnrollment_stored) ?_)
    simp [insertInboundEvent, insertSuppression, enqueueEvent, Store.insertSuppressionEvent]
  · refine (insertInboundEvent_writes hok).trans
      (recordUnsubscribe_writes hok (fun _ _ => linkedEnrollment_stored) ?_)
    simp [insertInboundEvent]

/-- The step is handed over to the activity found for it; only mail was
written before. -/
theorem handOverFound_writes {s m : Store} {rt : Runtime} {e stepId a : Id} {o : Option Id}
    {row : SequenceEnrollment} {plan : NextStepPlan} {activity : SequenceStepActivity}
    (hmail : Writes ok s m)
    (hsame : m.enrollments = s.enrollments ∧ m.steps = s.steps ∧ m.activities = s.activities)
    (hdraft : ∀ i, o = some i → MailFor m (e, stepId) i)
    (hrow : s.enrollments[e]? = some row) (hplan : planNextStep rt row s = .ok plan)
    (hstep : plan.step? = some stepId)
    (hfound : s.activities.first? (·.idempotencyKey == (e, stepId)) = some (a, activity))
    (hlabel : ok (.handOver activity.status)) :
    Writes ok s (clearNextStep rt.now e (attachOutbound a o m)) := by
  obtain ⟨henrollments, hsteps, hactivities⟩ := hsame
  obtain ⟨step, horder⟩ := planNextStep_step hplan hstep
  obtain ⟨hget, hsequence, hnumber, hversion⟩ := stepForOrder_some horder
  obtain ⟨hstored, hkey⟩ := Table.first?_some hfound
  have hkey : activity.idempotencyKey = (e, stepId) := beq_iff_eq.mp hkey
  obtain ⟨henrollment, hstepId⟩ := Prod.mk.inj hkey
  have hactivity : m.activities[a]? = some activity := by
    rw [hactivities]
    exact hstored
  have hattached : (attachOutbound a o m).activities[a]? =
      some { activity with outboundEmailId := activity.outboundEmailId <|> o } := by
    simp only [attachOutbound, Store.updateActivity, List.getElem?_modify_eq, hactivity,
      Option.map_eq_map, Option.map_some]
  have hkept : (attachOutbound a o m).enrollments[e]? = some row := by
    show m.enrollments[e]? = some row
    rw [henrollments]
    exact hrow
  have hattach : Writes ok m (attachOutbound a o m) := by
    apply attachOutbound_writes hok hactivity
    rw [hkey]
    exact hdraft
  refine (hmail.trans hattach).trans (clearNextStep_writes hkept ?_ hlabel)
  refine ⟨stepId, step, a, _, ?_, hsequence, hnumber, hversion, hattached, henrollment,
    hstepId, rfl⟩
  show m.steps[stepId]? = some step
  rw [hsteps]
  exact hget

/-- The step is handed over to a new activity. -/
theorem handOverNew_writes {s m : Store} {rt : Runtime} {e stepId : Id}
    {row : SequenceEnrollment} {plan : NextStepPlan} {step : SequenceStep}
    {status : ActivityStatus} {o : Option Id} (hmail : Writes ok s m)
    (hsame : m.enrollments = s.enrollments ∧ m.steps = s.steps ∧ m.activities = s.activities)
    (hdraft : step.channel = .email → ∃ i, o = some i ∧ MailFor m (e, stepId) i)
    (hrow : s.enrollments[e]? = some row) (hplan : planNextStep rt row s = .ok plan)
    (hstep : plan.step? = some stepId) (hlabel : ok (.handOver status)) :
    Writes ok s
      (clearNextStep rt.now e (m.insertActivity (activityFor rt.now e stepId step status o))) := by
  obtain ⟨henrollments, hsteps, hactivities⟩ := hsame
  obtain ⟨found, horder⟩ := planNextStep_step hplan hstep
  obtain ⟨hget, hsequence, hnumber, hversion⟩ := stepForOrder_some horder
  have hkept : m.enrollments[e]? = some row := by
    rw [henrollments]
    exact hrow
  have hinsert : Writes ok m (m.insertActivity (activityFor rt.now e stepId step status o)) :=
    insertActivity_writes hok hdraft
  refine (hmail.trans hinsert).trans (clearNextStep_writes hkept ?_ hlabel)
  refine ⟨stepId, found, m.activities.length, activityFor rt.now e stepId step status o, ?_,
    hsequence, hnumber, hversion, ?_, rfl, rfl, rfl⟩
  · show m.steps[stepId]? = some found
    rw [hsteps]
    exact hget
  · exact List.getElem?_concat_length

omit [Casing] hok in
/-- A drafted mail that is set to wait is still the mail of its step. -/
theorem awaitApproval_mailFor {s : Store} {now : Time} {key : Id × Id} {o : Id}
    (h : MailFor s key o) : MailFor (awaitApproval now o s) key o := by
  obtain ⟨mail, hstored, hkey⟩ := h
  refine ⟨{ mail with status := .pendingApproval, updatedAt := now }, ?_, hkey⟩
  simp only [awaitApproval, Store.updateOutbound, List.getElem?_modify_eq, hstored,
    Option.map_eq_map, Option.map_some]

omit [Casing] in
theorem awaitApproval_writes {s : Store} {now : Time} {o : Id} :
    Writes ok s (awaitApproval now o s) :=
  updateOutbound_writes hok fun _ => ⟨rfl, rfl, rfl⟩

omit [Casing] hok in
theorem mailFor_of_first {s : Store} {key : Id × Id} {o : Id} {mail : OutboundEmail}
    (h : s.outboundEmails.first? (·.idempotencyKey == key) = some (o, mail)) :
    MailFor s key o := by
  obtain ⟨hstored, hkey⟩ := Table.first?_some h
  exact ⟨mail, hstored, beq_iff_eq.mp hkey⟩

omit [Casing] hok in
theorem mailFor_insert {s : Store} {mail : OutboundEmail} :
    MailFor (s.insertOutbound mail) mail.idempotencyKey s.outboundEmails.length :=
  ⟨mail, List.getElem?_concat_length, rfl⟩

omit hok in
/-- A new draft that waits for approval is the mail of its step. -/
theorem draft_mailFor {s : Store} {now : Time} {e stepId : Id} {row : SequenceEnrollment}
    {step : SequenceStep} {contact : Contact} {fromEmail subject body : String} :
    MailFor (awaitApproval now s.outboundEmails.length (s.insertOutbound
      (draftFor now e row stepId step contact fromEmail subject body))) (e, stepId)
      s.outboundEmails.length := by
  have hkey : (draftFor now e row stepId step contact fromEmail subject body).idempotencyKey =
      (e, stepId) := rfl
  rw [← hkey]
  exact awaitApproval_mailFor mailFor_insert

omit hok in
/-- A new draft is addressed to the contact the plan found. -/
theorem draft_writes {s : Store} {rt : Runtime} {e stepId : Id} {row : SequenceEnrollment}
    {step : SequenceStep} {contact : Contact} {account : Option Account}
    {fromEmail subject body : String} (hrow : s.enrollments[e]? = some row)
    (hplan : planNextStep rt row s = .ok (.draft stepId step contact account fromEmail))
    (hlabel : ok (.draft contact (lower (contact.email.getD "")))) :
    Writes ok s (s.insertOutbound
      (draftFor rt.now e row stepId step contact fromEmail subject body)) :=
  insertOutbound_writes hrow rfl (planNextStep_draft hplan).1 hlabel

/-- A scheduler round hands a step over with the status of the activity it
finds, or with that of the one it opens; a new draft goes to the contact of the
plan. -/
theorem sendNextSequenceStep_quiet (rt : Runtime) (e : Id) (w : DbWorld)
    (hopen : ok (.handOver .pending) ∧ ok (.handOver .pendingApproval))
    (hdraft : ∀ row stepId step contact account fromEmail,
      w.store.enrollments[e]? = some row → row.status = .active →
      planNextStep rt row w.store = .ok (.draft stepId step contact account fromEmail) →
      w.store.outboundEmails.first? (·.idempotencyKey == (e, stepId)) = none →
        ok (.draft contact (lower (contact.email.getD ""))))
    (hreuse : ∀ row plan stepId a activity, w.store.enrollments[e]? = some row →
      row.status = .active → planNextStep rt row w.store = .ok plan →
      plan.step? = some stepId →
      w.store.activities.first? (·.idempotencyKey == (e, stepId)) = some (a, activity) →
        ok (.handOver activity.status)) :
    Quiet ok w (after (sendNextSequenceStep rt e) w) := by
  apply sessionScope_quiet
  mvcgen [performNextStep, outboundForStep, activityForStep, flush, Lib.flush,
    Lib.queryOrRaise]
  all_goals subst_vars
  all_goals try with_reducible exact Within.refl _
  all_goals refine ⟨?_, rfl⟩
  · next hactive _ _ _ =>
    exact pauseForPolicy_writes hok ‹_› (by rw [not_not.mp hactive]; rfl)
  · exact completeWith_writes hok ‹_›
  · exact suppressEnrollment_writes hok ‹_›
  · exact handOverFound_writes hok (Chain.refl _) ⟨rfl, rfl, rfl⟩ (by simp) ‹_› ‹_› rfl ‹_›
      (hreuse _ _ _ _ _ ‹_› (not_not.mp ‹_›) ‹_› rfl ‹_›)
  · refine handOverNew_writes hok (Chain.refl _) ⟨rfl, rfl, rfl⟩ ?_ ‹_› ‹_› rfl hopen.1
    intro hchannel
    exact absurd hchannel (planNextStep_task ‹_›)
  · exact deferEnrollment_writes hok ‹_›
  · refine handOverFound_writes hok (awaitApproval_writes hok) ⟨rfl, rfl, rfl⟩ ?_ ‹_› ‹_› rfl
      ‹_› (hreuse _ _ _ _ _ ‹_› (not_not.mp ‹_›) ‹_› rfl ‹_›)
    rintro i ⟨⟩
    exact awaitApproval_mailFor (mailFor_of_first ‹_›)
  · refine handOverNew_writes hok (awaitApproval_writes hok) ⟨rfl, rfl, rfl⟩ ?_ ‹_› ‹_› rfl
      hopen.2
    intro _
    exact ⟨_, rfl, awaitApproval_mailFor (mailFor_of_first ‹_›)⟩
  · refine handOverFound_writes hok
      ((draft_writes ‹_› ‹_› (hdraft _ _ _ _ _ _ ‹_› (not_not.mp ‹_›) ‹_› ‹_›)).trans
        (awaitApproval_writes hok))
      ⟨rfl, rfl, rfl⟩ ?_ ‹_› ‹_› rfl ‹_› (hreuse _ _ _ _ _ ‹_› (not_not.mp ‹_›) ‹_› rfl ‹_›)
    rintro i ⟨⟩
    exact draft_mailFor
  · refine handOverNew_writes hok
      ((draft_writes ‹_› ‹_› (hdraft _ _ _ _ _ _ ‹_› (not_not.mp ‹_›) ‹_› ‹_›)).trans
        (awaitApproval_writes hok))
      ⟨rfl, rfl, rfl⟩ ?_ ‹_› ‹_› rfl hopen.2
    intro _
    exact ⟨_, rfl, draft_mailFor⟩

omit [Casing] in
/-- What an approval records once the sender has answered. -/
theorem record_writes {p : Approval} {rt : Runtime} {actor : String} {outcome : SmtpOutcome}
    {s : Store} (hrow : s.enrollments[p.activity.enrollmentId]? = some p.enrollment)
    (hactivity : s.activities[p.activityId]? = some p.activity) :
    Writes ok s (p.record rt actor outcome s) := by
  cases outcome with
  | error error => exact recordFailure_writes hok hrow hactivity
  | ok messageId => exact recordSent_writes hok hrow hactivity

omit hok in
/-- Before the sender is called at most a draft has been written, to the contact
the checks passed. -/
theorem Prepared.writes {rt : Runtime} {w w' : DbWorld} {p : Approval}
    (h : Prepared rt w w' p)
    (hdraft : ∀ contact fromEmail,
      checkApproval rt p.enrollment p.step w.store = .ok (.inr (contact, fromEmail)) →
      p.activity.outboundEmailId = none →
        ok (.draft contact (lower (contact.email.getD "")))) :
    Writes ok w.store w'.store := by
  obtain ⟨-, -, -, hrow, -, -⟩ := loadApproval_some h.loaded
  obtain ⟨contact, fromEmail, hcheck, hdrafted⟩ := h.drafted
  rcases hdrafted with ⟨-, rfl⟩ | ⟨hnone, ⟨mail, -, rfl⟩ | ⟨subject, body, hstore, -⟩⟩
  · exact Chain.refl _
  · exact Chain.refl _
  · rw [hstore]
    exact insertOutbound_writes hrow rfl (checkApproval_passes hcheck).1
      (hdraft contact fromEmail hcheck hnone)

theorem sendApprovedSequenceEmail_writes (rt : Runtime) (a : Id) (actor : String)
    (sender : SmtpSendRequest → SmtpOutcome) (w : DbWorld)
    (hdraft : ∀ loaded contact fromEmail, loadApproval a w.store = .ok (some loaded) →
      checkApproval rt loaded.enrollment loaded.step w.store =
        .ok (.inr (contact, fromEmail)) →
      loaded.activity.outboundEmailId = none →
        ok (.draft contact (lower (contact.email.getD "")))) :
    Writes ok w.store (after (sendApprovedSequenceEmail rt a actor sender) w).store := by
  rcases sendApproved_cases rt a actor sender w with hidle | ⟨p, w', -, rfl, hp, hafter⟩
  · rw [hidle]
    exact Chain.refl _
  · rw [hafter]
    dsimp only
    split
    · obtain ⟨hactivity, -, -, hrow, -, -⟩ := loadApproval_some hp.loaded
      obtain ⟨henrollments, hactivities⟩ := hp.same
      refine (hp.writes (hdraft _ · · hp.loaded)).trans (record_writes hok ?_ ?_)
      · rw [henrollments]
        exact hrow
      · rw [hactivities]
        exact hactivity
    · exact Chain.refl _

omit hok in
/-- The call commits or leaves the store alone. -/
theorem sendApprovedSequenceEmail_constraints (rt : Runtime) (a : Id) (actor : String)
    (sender : SmtpSendRequest → SmtpOutcome) (w : DbWorld)
    (h : w.store.constraintsOk = true) :
    (after (sendApprovedSequenceEmail rt a actor sender) w).store.constraintsOk = true := by
  rcases sendApproved_cases rt a actor sender w with hidle | ⟨p, w', -, -, -, hafter⟩
  · rw [hidle]
    exact h
  · rw [hafter]
    dsimp only
    split
    · assumption
    · exact h

end Operations

end GhostRecon
