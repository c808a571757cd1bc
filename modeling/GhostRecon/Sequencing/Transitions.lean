import GhostRecon.Lib.Run
import GhostRecon.Sequencing.Activities
import GhostRecon.Sequencing.EmailDelivery
import GhostRecon.Sequencing.Enrollments
import GhostRecon.Sequencing.Inbound

/-!
What a committed operation can do to the outreach store, said once. At the top
stands the life cycle of a single enrollment; a `Write` is one change of one
table, and a transaction is a chain of writes. The label marks the changes that
some results have to exclude or look at: prospects that other services rewrite,
a new draft with its contact and recipient, a bounce with the status of the
enrollment it reaches, and the hand-over of a step to an operator with the
status of the activity. Every invariant is derived from these relations.
-/

namespace GhostRecon

open Lib (Id Table Chain)

variable [Casing]

inductive Label where
  | routine
  | prospects
  | draft (contact : Contact) (toEmail : String)
  | bounce (status : EnrollmentStatus)
  | handOver (status : ActivityStatus)
  deriving DecidableEq, Repr

/-- The activity can still be moved by an operation. -/
def ActivityStatus.isOpen : ActivityStatus → Bool
  | .pending | .pendingApproval | .approved | .scheduled => true
  | .completed | .canceled | .failed => false

/-- An operator may approve the activity. -/
def ActivityStatus.awaits : ActivityStatus → Bool
  | .pendingApproval | .approved => true
  | .pending | .scheduled | .completed | .canceled | .failed => false

/-- The life cycle of an enrollment: the change of one row. -/
inductive Lifecycle : Label → SequenceEnrollment → SequenceEnrollment → Prop where
  | close {old new} (hstatus : new.status.terminal = true) : Lifecycle .routine old new
  | pause {old new} (hlive : old.status.terminal = false) (hstatus : new.status = .paused) :
      Lifecycle .routine old new
  | bounce {old new} (hstatus : new.status = .paused) :
      Lifecycle (.bounce old.status) old new
  | resume {old new} (hlive : old.status.terminal = false) (hstatus : new.status = .active)
      (hnext : new.nextStepAt.isSome = true) : Lifecycle .routine old new
  | reschedule {old new} (hstatus : new.status = old.status)
      (hnext : new.nextStepAt.isSome = true) : Lifecycle .routine old new
  | handOver {old new} {status : ActivityStatus} (hstatus : new.status = old.status)
      (hsequence : new.sequenceId = old.sequenceId)
      (horder : new.currentStepOrder = old.currentStepOrder)
      (hversion : new.definitionVersion = old.definitionVersion) :
      Lifecycle (.handOver status) old new

/-- An activity of the enrollment's current step, in the given status. -/
structure CurrentActivity (s : Store) (e : Id) (row : SequenceEnrollment)
    (status : ActivityStatus) : Prop where
  holds : ∃ (stepId : Id) (step : SequenceStep) (a : Id) (activity : SequenceStepActivity),
    s.steps[stepId]? = some step ∧ step.sequenceId = row.sequenceId ∧
      step.stepOrder = row.currentStepOrder ∧
      step.definitionVersion = row.definitionVersion ∧
      s.activities[a]? = some activity ∧ activity.enrollmentId = e ∧
      activity.sequenceStepId = stepId ∧ activity.status = status

/-- The enrollment no longer waits for an activity. -/
def Released (row : SequenceEnrollment) : Prop :=
  row.status ≠ .active ∨ row.nextStepAt.isSome = true

/-- An outbox key that names a row of its own table names a stored one. -/
def OutboxEvent.anchored (event : OutboxEvent) (s : Store) : Prop :=
  match event.idempotencyKey with
  | .once .unsubscribeReceived k => k < s.inboundEvents.length
  | .once .suppressionCreated k => k < s.suppressions.length
  | _ => True

/-- The mail with this identifier is the draft of an activity's step. -/
def MailFor (s : Store) (key : Id × Id) (o : Id) : Prop :=
  ∃ mail, s.outboundEmails[o]? = some mail ∧ mail.idempotencyKey = key

/-- A change outside the enrollments, activities and mail: inbound events,
steps, suppressions and outbox rows are added, other tables change freely. -/
structure Aside (s s' : Store) : Prop where
  enrollments : s'.enrollments = s.enrollments
  activities : s'.activities = s.activities
  outboundEmails : s'.outboundEmails = s.outboundEmails
  inboundEvents : s.inboundEvents <+: s'.inboundEvents
  steps : s.steps <+: s'.steps
  suppressions : s.suppressions <+: s'.suppressions
  outbox : ∀ event ∈ s'.outbox, event ∈ s.outbox ∨ event.anchored s'

inductive Write : Label → Store → Store → Prop where
  | aside {s s'} (h : Aside s s') (hcontacts : s'.contacts = s.contacts) :
      Write .routine s s'
  | prospects {s s'} (h : Aside s s') : Write .prospects s s'
  | draft {s row enrollment contact}
      (henrollment : s.enrollments[row.enrollmentId]? = some enrollment)
      (hcontact : enrollment.contactId = row.contactId)
      (hstored : s.contacts[row.contactId]? = some contact) :
      Write (.draft contact row.toEmail) s (s.insertOutbound row)
  | mail {s o f} (hkept : ∀ mail : OutboundEmail,
        (f mail).idempotencyKey = mail.idempotencyKey ∧
          (f mail).contactId = mail.contactId ∧ (f mail).toEmail = mail.toEmail) :
      Write .routine s (s.updateOutbound o f)
  | enroll {s} {row : SequenceEnrollment} (hnext : row.nextStepAt.isSome = true) :
      Write .routine s { s with enrollments := s.enrollments ++ [row] }
  | enrollment {s label e row f} (hrow : s.enrollments[e]? = some row)
      (hcontact : (f row).contactId = row.contactId)
      (hchange : Lifecycle label row (f row))
      (hactivity : ∀ status, label = .handOver status → CurrentActivity s e row status) :
      Write label s (s.updateEnrollment e f)
  | openActivity {s} {row : SequenceStepActivity}
      (hmail : row.channel = .email →
        ∃ o, row.outboundEmailId = some o ∧ MailFor s row.idempotencyKey o) :
      Write .routine s (s.insertActivity row)
  | activity {s a f} (hkey : ∀ row : SequenceStepActivity,
        (f row).enrollmentId = row.enrollmentId ∧
          (f row).sequenceStepId = row.sequenceStepId ∧ (f row).channel = row.channel)
      (hmail : ∀ row, s.activities[a]? = some row →
        (f row).outboundEmailId = row.outboundEmailId ∨
          ∃ o, (f row).outboundEmailId = some o ∧ MailFor s row.idempotencyKey o)
      (hstatus : ∀ row, s.activities[a]? = some row →
        (f row).status = row.status ∨ (f row).status.awaits = false ∧
          ((f row).status.isOpen = true ∨
            ∀ enrollment, s.enrollments[row.enrollmentId]? = some enrollment →
              Released enrollment)) :
      Write .routine s (s.updateActivity a f)

/-- A transaction: a chain of writes whose labels are all admitted. -/
abbrev Writes (ok : Label → Prop) : Store → Store → Prop :=
  Lib.Chain Write ok

section Chains

variable {ok : Label → Prop} (hok : ok .routine)

include hok

omit [Casing]

theorem writes_aside {s s' : Store} (h : Aside s s') (hcontacts : s'.contacts = s.contacts) :
    Writes ok s s' :=
  Chain.single hok (.aside h hcontacts)

omit hok in
/-- A change that leaves every table of the relation alone. -/
theorem aside_of_same {s s' : Store}
    (h : s'.enrollments = s.enrollments ∧ s'.activities = s.activities ∧
      s'.outboundEmails = s.outboundEmails ∧ s'.inboundEvents = s.inboundEvents ∧
      s'.steps = s.steps ∧ s'.suppressions = s.suppressions ∧ s'.outbox = s.outbox) :
    Aside s s' := by
  obtain ⟨henrollments, hactivities, hmails, hinbound, hsteps, hsuppressions, houtbox⟩ := h
  refine ⟨henrollments, hactivities, hmails, ?_, ?_, ?_, ?_⟩
  · rw [hinbound]
  · rw [hsteps]
  · rw [hsuppressions]
  · intro event hevent
    rw [houtbox] at hevent
    exact Or.inl hevent

/-- A change that leaves every table of the relation and the contacts alone. -/
theorem writes_beside {s s' : Store} (hcontacts : s'.contacts = s.contacts)
    (h : s'.enrollments = s.enrollments ∧ s'.activities = s.activities ∧
      s'.outboundEmails = s.outboundEmails ∧ s'.inboundEvents = s.inboundEvents ∧
      s'.steps = s.steps ∧ s'.suppressions = s.suppressions ∧ s'.outbox = s.outbox) :
    Writes ok s s' :=
  writes_aside hok (aside_of_same h) hcontacts

/-- A change of a mail that keeps what it is about. -/
theorem updateOutbound_writes {s : Store} {o : Id} {f : OutboundEmail → OutboundEmail}
    (hkept : ∀ mail : OutboundEmail, (f mail).idempotencyKey = mail.idempotencyKey ∧
      (f mail).contactId = mail.contactId ∧ (f mail).toEmail = mail.toEmail) :
    Writes ok s (s.updateOutbound o f) :=
  Chain.single hok (.mail hkept)

omit hok in
theorem insertOutbound_writes {s : Store} {row : OutboundEmail}
    {enrollment : SequenceEnrollment} {contact : Contact}
    (henrollment : s.enrollments[row.enrollmentId]? = some enrollment)
    (hcontact : enrollment.contactId = row.contactId)
    (hstored : s.contacts[row.contactId]? = some contact)
    (hlabel : ok (.draft contact row.toEmail)) : Writes ok s (s.insertOutbound row) :=
  Chain.single hlabel (.draft henrollment hcontact hstored)

theorem enqueueEvent_writes {s : Store} {name : EventName} {kind : String} {id : Id}
    {key : OutboxKey}
    (hanchored : ∀ s' : Store, s'.inboundEvents = s.inboundEvents →
      s'.suppressions = s.suppressions →
        OutboxEvent.anchored ⟨name, kind, id, key⟩ s') :
    Writes ok s (enqueueEvent name kind id key s) := by
  refine writes_aside hok ⟨rfl, rfl, rfl, List.prefix_rfl, List.prefix_rfl,
    List.prefix_rfl, ?_⟩ rfl
  intro event hevent
  rcases List.mem_append.mp hevent with hold | hnew
  · exact Or.inl hold
  · rw [List.mem_singleton] at hnew
    subst hnew
    exact Or.inr (hanchored _ rfl rfl)

/-- Keys counted by a version or an attempt name no row that is still to come. -/
theorem enqueueCounted_writes {s : Store} {name : EventName} {kind : String} {id : Id}
    {counter : Nat} :
    Writes ok s (enqueueEvent name kind id (.counted name id counter) s) :=
  enqueueEvent_writes hok fun _ _ _ => trivial

theorem insertInboundEvent_writes {s : Store} {row : InboundEmailEvent} :
    Writes ok s (insertInboundEvent row s) :=
  writes_aside hok ⟨rfl, rfl, rfl, List.prefix_append _ _, List.prefix_rfl, List.prefix_rfl,
    fun _ hevent => Or.inl hevent⟩ rfl

theorem insertSuppressionEvent_writes {s : Store} {row : SequenceSuppressionEvent} :
    Writes ok s (s.insertSuppressionEvent row) :=
  writes_beside hok rfl ⟨rfl, rfl, rfl, rfl, rfl, rfl, rfl⟩

theorem insertSuppression_writes {s : Store} {row : Suppression} :
    Writes ok s (insertSuppression row s) := by
  refine writes_aside hok ⟨rfl, rfl, rfl, List.prefix_rfl, List.prefix_rfl,
    List.prefix_append _ _, ?_⟩ rfl
  intro event hevent
  rcases List.mem_append.mp hevent with hold | hnew
  · exact Or.inl hold
  · rw [List.mem_singleton] at hnew
    subst hnew
    right
    simp [OutboxEvent.anchored, insertSuppression, enqueueEvent]

/-- New steps and any change of the sequences. -/
theorem reviseSequence_writes {s : Store} {q : Id} {f : Sequence → Sequence}
    {steps : List SequenceStep} : Writes ok s (reviseSequence q f steps s) :=
  writes_aside hok ⟨rfl, rfl, rfl, List.prefix_rfl, List.prefix_append _ _, List.prefix_rfl,
    fun _ hevent => Or.inl hevent⟩ rfl

theorem insertSequence_writes {s : Store} {row : Sequence} {steps : List SequenceStep} :
    Writes ok s (insertSequence row steps s) :=
  writes_aside hok ⟨rfl, rfl, rfl, List.prefix_rfl, List.prefix_append _ _, List.prefix_rfl,
    fun _ hevent => Or.inl hevent⟩ rfl

theorem insertEnrollment_writes {s : Store} {row : SequenceEnrollment}
    (hnext : row.nextStepAt.isSome = true) : Writes ok s (insertEnrollment row s) :=
  (Chain.single hok (.enroll hnext)).trans (enqueueEvent_writes hok fun _ _ _ => trivial)

/-- One routine change of a stored enrollment. -/
theorem updateEnrollment_writes {s : Store} {e : Id} {row : SequenceEnrollment}
    {f : SequenceEnrollment → SequenceEnrollment} (hrow : s.enrollments[e]? = some row)
    (hcontact : (f row).contactId = row.contactId)
    (hchange : Lifecycle .routine row (f row)) : Writes ok s (s.updateEnrollment e f) :=
  Chain.single hok (.enrollment hrow hcontact hchange (by simp))

theorem completeWith_writes {s : Store} {now : Time} {e : Id} {loaded row : SequenceEnrollment}
    {reason : Option String} (hrow : s.enrollments[e]? = some row) :
    Writes ok s (completeWith now e loaded reason s) :=
  (updateEnrollment_writes hok hrow rfl (.close rfl)).trans (enqueueCounted_writes hok)

theorem pauseForPolicy_writes {s : Store} {now : Time} {e : Id}
    {loaded row : SequenceEnrollment} {reason : String} (hrow : s.enrollments[e]? = some row)
    (hlive : row.status.terminal = false) :
    Writes ok s (pauseForPolicy now e loaded reason s) :=
  (updateEnrollment_writes hok hrow rfl (.pause hlive rfl)).trans (enqueueCounted_writes hok)

theorem deferEnrollment_writes {s : Store} {now : Time} {retry : Nat} {e : Id}
    {row : SequenceEnrollment} {reason : String} (hrow : s.enrollments[e]? = some row) :
    Writes ok s (deferEnrollment now retry e reason s) :=
  updateEnrollment_writes hok hrow rfl (.reschedule rfl rfl)

theorem resumeEnrollment_writes {s : Store} {now : Time} {e : Id}
    {loaded row : SequenceEnrollment} (hrow : s.enrollments[e]? = some row)
    (hlive : row.status.terminal = false) :
    Writes ok s (resumeEnrollment now e loaded s) :=
  updateEnrollment_writes hok hrow rfl (.resume hlive rfl rfl)

/-- Pausing asks for a live row, canceling does not. -/
theorem setStatus_writes {s : Store} {now : Time} {e : Id} {loaded row : SequenceEnrollment}
    {status : EnrollmentStatus} {reason : String} {event : Option EventName}
    (hrow : s.enrollments[e]? = some row)
    (hstatus : status = .canceled ∨ status = .paused ∧ row.status.terminal = false) :
    Writes ok s (setStatus now e loaded status reason event s) := by
  have hchange : Writes ok s (s.updateEnrollment e fun row =>
      { row with
        status := status
        pauseReason := some reason
        version := loaded.version + 1
        updatedAt := now
        completedAt := if status.terminal then some now else row.completedAt }) := by
    rcases hstatus with rfl | ⟨rfl, hlive⟩
    · exact updateEnrollment_writes hok hrow rfl (.close rfl)
    · exact updateEnrollment_writes hok hrow rfl (.pause hlive rfl)
  cases event with
  | none => exact hchange
  | some event => exact hchange.trans (enqueueCounted_writes hok)

theorem advanceEnrollment_writes {s : Store} {now : Time} {e : Id}
    {loaded row : SequenceEnrollment} {step : SequenceStep}
    (hrow : s.enrollments[e]? = some row) :
    Writes ok s (advanceEnrollment now e loaded step s) := by
  rcases advanceEnrollment_eq now e loaded step s with hdone | ⟨order, due, hnext⟩
  · rw [hdone]
    exact completeWith_writes hok hrow
  · rw [hnext]
    exact updateEnrollment_writes hok hrow rfl (.reschedule rfl rfl)

omit hok in
/-- The scheduler leaves a step to its activity. -/
theorem clearNextStep_writes {s : Store} {now : Time} {e : Id} {row : SequenceEnrollment}
    {status : ActivityStatus} (hrow : s.enrollments[e]? = some row)
    (hactivity : CurrentActivity s e row status) (hlabel : ok (.handOver status)) :
    Writes ok s (clearNextStep now e s) := by
  refine Chain.single hlabel (.enrollment hrow rfl (.handOver rfl rfl rfl rfl) ?_)
  intro status' heq
  cases heq
  exact hactivity

/-- An activity without a mail gains the one of its step. -/
theorem attachOutbound_writes {s : Store} {a : Id} {o : Option Id}
    {activity : SequenceStepActivity} (hactivity : s.activities[a]? = some activity)
    (hmail : ∀ i, o = some i → MailFor s activity.idempotencyKey i) :
    Writes ok s (attachOutbound a o s) := by
  refine Chain.single hok (.activity (fun _ => ⟨rfl, rfl, rfl⟩) ?_ fun _ _ => Or.inl rfl)
  intro row hrow
  obtain rfl : activity = row := Option.some.inj (hactivity.symm.trans hrow)
  cases hattached : activity.outboundEmailId with
  | some i => exact Or.inl rfl
  | none =>
    cases o with
    | none => exact Or.inl rfl
    | some i => exact Or.inr ⟨i, rfl, hmail i rfl⟩

theorem insertActivity_writes {s : Store} {row : SequenceStepActivity}
    (hmail : row.channel = .email →
      ∃ o, row.outboundEmailId = some o ∧ MailFor s row.idempotencyKey o) :
    Writes ok s (s.insertActivity row) :=
  Chain.single hok (.openActivity hmail)

/-- Closing the activity of a released enrollment. -/
theorem updateActivity_writes {s : Store} {a : Id} {activity : SequenceStepActivity}
    {f : SequenceStepActivity → SequenceStepActivity}
    (hkey : ∀ row : SequenceStepActivity, (f row).enrollmentId = row.enrollmentId ∧
      (f row).sequenceStepId = row.sequenceStepId ∧ (f row).channel = row.channel)
    (hmail : ∀ row : SequenceStepActivity, (f row).outboundEmailId = row.outboundEmailId)
    (hawaits : ∀ row : SequenceStepActivity, (f row).status.awaits = false)
    (hactivity : s.activities[a]? = some activity)
    (hreleased : ∀ row, s.enrollments[activity.enrollmentId]? = some row → Released row) :
    Writes ok s (s.updateActivity a f) := by
  refine Chain.single hok (.activity hkey (fun row _ => Or.inl (hmail row)) ?_)
  intro row hrow
  obtain rfl : activity = row := Option.some.inj (hactivity.symm.trans hrow)
  exact Or.inr ⟨hawaits activity, Or.inr hreleased⟩

end Chains

section Releases

omit [Casing]

theorem updateEnrollment_released {s : Store} {e : Id}
    {f : SequenceEnrollment → SequenceEnrollment} (h : ∀ row, Released (f row))
    (row : SequenceEnrollment) (hrow : (s.updateEnrollment e f).enrollments[e]? = some row) :
    Released row := by
  simp only [Store.updateEnrollment, List.getElem?_modify_eq, Option.map_eq_map,
    Option.map_eq_some_iff] at hrow
  obtain ⟨old, -, rfl⟩ := hrow
  exact h old

/-- An advanced enrollment is completed or has its next step time. -/
theorem advanceEnrollment_released {s : Store} {now : Time} {e : Id}
    {loaded : SequenceEnrollment} {step : SequenceStep} (row : SequenceEnrollment)
    (hrow : (advanceEnrollment now e loaded step s).enrollments[e]? = some row) :
    Released row := by
  rcases advanceEnrollment_eq now e loaded step s with hdone | ⟨order, due, hnext⟩
  · rw [hdone] at hrow
    refine updateEnrollment_released (s := s) (fun old => Or.inl ?_) row hrow
    simp
  · rw [hnext] at hrow
    exact updateEnrollment_released (fun old => Or.inr rfl) row hrow

/-- Advancing does not read the activities. -/
theorem advanceEnrollment_updateActivity {s : Store} {now : Time} {e a : Id}
    {loaded : SequenceEnrollment} {step : SequenceStep}
    {f : SequenceStepActivity → SequenceStepActivity} :
    advanceEnrollment now e loaded step (s.updateActivity a f) =
      (advanceEnrollment now e loaded step s).updateActivity a f := by
  have hsteps : sequenceSteps (s.updateActivity a f) loaded.sequenceId
      loaded.definitionVersion = sequenceSteps s loaded.sequenceId loaded.definitionVersion :=
    rfl
  unfold advanceEnrollment
  rw [hsteps]
  split <;> rfl

theorem advanceEnrollment_activities {s : Store} {now : Time} {e : Id}
    {loaded : SequenceEnrollment} {step : SequenceStep} :
    (advanceEnrollment now e loaded step s).activities = s.activities := by
  rcases advanceEnrollment_eq now e loaded step s with hdone | ⟨order, due, hnext⟩
  · rw [hdone]
    rfl
  · rw [hnext]
    rfl

end Releases

end GhostRecon
