import GhostRecon.Lib.Overlap
import GhostRecon.Sequencing.Drafts

/-!
Calls in flight. An approval reads its rows, hands the mail to the sender and
commits; a scheduler round reads and decides, then writes and commits. Nothing
is locked in between, so here both take their phases apart and any other call
may come in. Every other operation runs as one phase. Two approvals of one
activity that are open together can both have their mail accepted; one that
starts after the other has committed finds the activity closed.
-/

namespace GhostRecon

open Lib (Id Table Chain after Overlap Floor Event)
open Std.Do

set_option mvcgen.warning false

/-- A plan that opens an activity without a mail is not about an email step. -/
def NextStepPlan.drafted : NextStepPlan → Prop
  | .task _ step => step.channel ≠ .email
  | _ => True

def Op.isApproval : Op → Bool
  | .sendApproved _ _ _ => true
  | _ => false

/-- A call between two of its phases, with what it has read. -/
inductive OpenCall where
  | approval (rt : Runtime) (actor : String) (sender : SmtpSendRequest → SmtpOutcome)
      (p : Approval)
  | answered (rt : Runtime) (actor : String) (p : Approval) (outcome : SmtpOutcome)
  | round (rt : Runtime) (e : Id) (enrollment : SequenceEnrollment) (plan : NextStepPlan)
      (hplan : plan.drafted)
  | whole (c : Call) (hop : c.op.isApproval = false)

/-- The call is an approval of this activity. -/
def OpenCall.approves (a : Id) : OpenCall → Bool
  | .approval _ _ _ p | .answered _ _ p _ => p.activityId == a
  | .round _ _ _ _ _ | .whole _ _ => false

/-- What an approval commits once the sender has answered; a commit that the
constraints refuse leaves the store alone. -/
def Approval.commit (p : Approval) (rt : Runtime) (actor : String) (outcome : SmtpOutcome)
    (s : Store) : Store :=
  if (p.record rt actor outcome s).constraintsOk then p.record rt actor outcome s else s

section Phases

variable [Casing]

theorem planNextStep_drafted {rt : Runtime} {enrollment : SequenceEnrollment} {s : Store}
    {plan : NextStepPlan} (h : planNextStep rt enrollment s = .ok plan) : plan.drafted := by
  cases plan with
  | task stepId step => exact planNextStep_task h
  | pause reason reported => trivial
  | complete => trivial
  | suppress contact reason => trivial
  | defer reason => trivial
  | draft stepId step contact account fromEmail => trivial

/-- What an approval reads before it calls the sender. -/
def startApproval (rt : Runtime) (a : Id) (actor : String)
    (sender : SmtpSendRequest → SmtpOutcome) (w : DbWorld) : Option OpenCall :=
  match prepareApproval rt a w with
  | .ok (some p) _ => some (.approval rt actor sender p)
  | _ => none

/-- What a scheduler round reads and decides before it writes. -/
def startRound (rt : Runtime) (e : Id) (w : DbWorld) : Option OpenCall :=
  match w.store.enrollments[e]? with
  | none => none
  | some enrollment =>
    if enrollment.status ≠ .active then none
    else
      match hplan : planNextStep rt enrollment w.store with
      | .ok plan => some (.round rt e enrollment plan (planNextStep_drafted hplan))
      | .error _ => none

/-- The first phase of a call. One that raises or returns there has no further
phase. -/
def startCall (c : Call) (w : DbWorld) : Option OpenCall :=
  if hop : c.op.isApproval = false then
    match c.op with
    | .sendNext e => startRound c.rt e w
    | _ => some (.whole c hop)
  else
    match c.op with
    | .sendApproved a actor sender => startApproval c.rt a actor sender w
    | _ => none

/-- The next phase of an open call, on the world as the others have left it. -/
def advanceCall (call : OpenCall) (w : DbWorld) : Option OpenCall × DbWorld :=
  match call with
  | .approval rt actor sender p =>
    let outcome := sender p.request
    (some (.answered rt actor p outcome),
      { w with
        external := w.external.attempt
          { activityId := p.activityId, request := p.request, outcome
            time := rt.now, observed := w.store } })
  | .answered rt actor p outcome =>
    (none, { w with store := p.commit rt actor outcome w.store })
  | .round rt e enrollment plan _ =>
    (none, after (sessionScope (performNextStep rt e enrollment plan)) w)
  | .whole c _ => (none, step w c)

/-- The outreach service with calls in flight. -/
def outreach : Overlap DbWorld OpenCall Call where
  start := startCall
  advance := advanceCall

/-- How often the sender has accepted the mail of an activity. -/
def accepted (a : Id) (w : DbWorld) : Nat :=
  w.external.mail.countP fun attempt => attempt.activityId == a && attempt.outcome.isOk

/-- The database takes the commit of an approval whose mail was accepted. -/
def commitTaken (w : DbWorld) : OpenCall → Prop
  | .answered rt actor p (.ok messageId) =>
    (p.record rt actor (.ok messageId) w.store).constraintsOk = true
  | _ => True

instance (w : DbWorld) (call : OpenCall) : Decidable (commitTaken w call) := by
  unfold commitTaken
  split <;> infer_instance

end Phases

section Uninterrupted

variable [Casing]

/-- The phases of a scheduler round, taken without a break, are the round. -/
theorem round_uninterrupted {rt : Runtime} {e : Id} {w : DbWorld} {call : OpenCall}
    (h : startRound rt e w = some call) :
    advanceCall call w = (none, step w { rt, op := .sendNext e }) := by
  unfold startRound at h
  split at h
  · cases h
  · next enrollment hrow =>
    split at h
    · cases h
    · next hactive =>
      split at h
      · next plan hplan =>
        cases h
        refine Prod.ext rfl (Lib.after_sessionScope_congr ?_).symm
        simp only [Lib.bind_run, Lib.query_run, hrow, hactive, if_false, Lib.queryOrRaise_run,
          hplan]
      · cases h

/-- An approval whose preparation only reads, taken without a break, is the
call. -/
theorem approval_uninterrupted {rt : Runtime} {a : Id} {actor : String}
    {sender : SmtpSendRequest → SmtpOutcome} {w : DbWorld} {p : Approval}
    (hrun : prepareApproval rt a w = .ok (some p) w) (ha : p.activityId = a) :
    startApproval rt a actor sender w = some (.approval rt actor sender p) ∧
      advanceCall (.answered rt actor p (sender p.request))
          (advanceCall (.approval rt actor sender p) w).2 =
        (none, step w { rt, op := .sendApproved a actor sender }) := by
  refine ⟨by simp only [startApproval, hrun], ?_⟩
  simp only [step]
  rw [sendApproved_sends hrun ha]
  rfl

end Uninterrupted

/-- The rows of the activities stay, and none is put back to wait; email
activities keep their drafts. This much even a call that read long ago keeps. -/
structure Steady (s s' : Store) : Prop where
  activities : ∀ (a : Id) (row : SequenceStepActivity), s.activities[a]? = some row →
    ∃ row' : SequenceStepActivity, s'.activities[a]? = some row' ∧
      (row'.status = row.status ∨ row'.status.awaits = false)
  attached : DraftsAttached s → DraftsAttached s'

/-- A phase that keeps that much and sends no mail. -/
structure SteadyPhase (w w' : DbWorld) : Prop where
  store : Steady w.store w'.store
  mail : w'.external.mail = w.external.mail

section Steadiness

theorem Steady.refl (s : Store) : Steady s s :=
  ⟨fun _ row hrow => ⟨row, hrow, Or.inl rfl⟩, fun h => h⟩

theorem SteadyPhase.refl (w : DbWorld) : SteadyPhase w w :=
  ⟨Steady.refl _, rfl⟩

theorem Steady.trans {a b c : Store} (hab : Steady a b) (hbc : Steady b c) : Steady a c := by
  refine ⟨?_, fun h => hbc.attached (hab.attached h)⟩
  intro i row hrow
  obtain ⟨row', hrow', hstatus'⟩ := hab.activities i row hrow
  obtain ⟨row'', hrow'', hstatus''⟩ := hbc.activities i row' hrow'
  refine ⟨row'', hrow'', ?_⟩
  rcases hstatus'' with hsame | hclosed
  · rw [hsame]
    exact hstatus'
  · exact Or.inr hclosed

/-- A change that leaves the activities alone and only adds mail. -/
theorem steady_of_same {s s' : Store} (hactivities : s'.activities = s.activities)
    (hmails : s.outboundEmails <+: s'.outboundEmails) : Steady s s' := by
  constructor
  · intro a row hrow
    rw [hactivities]
    exact ⟨row, hrow, Or.inl rfl⟩
  · intro hs a activity hactivity hchannel
    rw [hactivities] at hactivity
    obtain ⟨o, ho, hmail⟩ := hs a activity hactivity hchannel
    refine ⟨o, ho, hmail.mono ?_⟩
    intro i mail hstored
    exact ⟨mail, Table.get_of_prefix hmails i mail hstored, rfl⟩

theorem Write.steady {label : Label} {s s' : Store} (h : Write label s s') : Steady s s' := by
  refine ⟨?_, h.keeps_attached⟩
  intro a row hrow
  cases h with
  | aside h _ =>
    rw [h.activities]
    exact ⟨row, hrow, Or.inl rfl⟩
  | prospects h =>
    rw [h.activities]
    exact ⟨row, hrow, Or.inl rfl⟩
  | draft _ _ _ => exact ⟨row, hrow, Or.inl rfl⟩
  | mail _ => exact ⟨row, hrow, Or.inl rfl⟩
  | enroll _ => exact ⟨row, hrow, Or.inl rfl⟩
  | enrollment _ _ _ _ => exact ⟨row, hrow, Or.inl rfl⟩
  | openActivity _ =>
    exact ⟨row, Table.get_of_prefix (List.prefix_append _ _) a row hrow, Or.inl rfl⟩
  | activity hkey hmail hstatus =>
    rename_i a' f
    by_cases ha : a' = a
    · subst ha
      refine ⟨f row, ?_, (hstatus row hrow).imp_right And.left⟩
      simp [Store.updateActivity, hrow]
    · refine ⟨row, ?_, Or.inl rfl⟩
      rw [Store.updateActivity, List.getElem?_modify_ne _ _ ha]
      exact hrow

theorem Writes.steady {ok : Label → Prop} {s s' : Store} (h : Writes ok s s') : Steady s s' :=
  Chain.relates Steady.refl Steady.trans (fun _ hwrite => hwrite.steady) h

/-- Closing an activity, whatever has become of it since it was read. -/
theorem updateActivity_steady {s : Store} {a : Id}
    {f : SequenceStepActivity → SequenceStepActivity}
    (hkey : ∀ row : SequenceStepActivity, (f row).enrollmentId = row.enrollmentId ∧
      (f row).sequenceStepId = row.sequenceStepId ∧ (f row).channel = row.channel)
    (hmail : ∀ row : SequenceStepActivity, (f row).outboundEmailId = row.outboundEmailId)
    (hawaits : ∀ row : SequenceStepActivity, (f row).status.awaits = false) :
    Steady s (s.updateActivity a f) := by
  constructor
  · intro i row hrow
    by_cases hi : a = i
    · subst hi
      refine ⟨f row, ?_, Or.inr (hawaits row)⟩
      simp [Store.updateActivity, hrow]
    · refine ⟨row, ?_, Or.inl rfl⟩
      rw [Store.updateActivity, List.getElem?_modify_ne _ _ hi]
      exact hrow
  · intro hs i activity hactivity hchannel
    by_cases hi : a = i
    · subst hi
      rw [Store.updateActivity, List.getElem?_modify_eq] at hactivity
      obtain ⟨old, hstored, rfl⟩ := Option.map_eq_some_iff.mp hactivity
      obtain ⟨henrollment, hstep, hsame⟩ := hkey old
      obtain ⟨o, ho, hfor⟩ := hs a old hstored (hsame.symm.trans hchannel)
      refine ⟨o, (hmail old).trans ho, ?_⟩
      simp only [SequenceStepActivity.idempotencyKey, henrollment, hstep]
      exact hfor
    · rw [Store.updateActivity, List.getElem?_modify_ne _ _ hi] at hactivity
      exact hs i activity hactivity hchannel

theorem updateEnrollment_steady {s : Store} {e : Id}
    {f : SequenceEnrollment → SequenceEnrollment} : Steady s (s.updateEnrollment e f) :=
  steady_of_same rfl List.prefix_rfl

theorem enqueueEvent_steady {s : Store} {name : EventName} {kind : String} {id : Id}
    {key : OutboxKey} : Steady s (enqueueEvent name kind id key s) :=
  steady_of_same rfl List.prefix_rfl

theorem updateOutbound_steady {s : Store} {o : Id} {f : OutboundEmail → OutboundEmail}
    (hkept : ∀ mail : OutboundEmail, (f mail).idempotencyKey = mail.idempotencyKey ∧
      (f mail).contactId = mail.contactId ∧ (f mail).toEmail = mail.toEmail) :
    Steady s (s.updateOutbound o f) :=
  (Write.mail hkept).steady

theorem completeWith_steady {s : Store} {now : Time} {e : Id} {loaded : SequenceEnrollment}
    {reason : Option String} : Steady s (completeWith now e loaded reason s) :=
  updateEnrollment_steady.trans enqueueEvent_steady

theorem advanceEnrollment_steady {s : Store} {now : Time} {e : Id}
    {loaded : SequenceEnrollment} {step : SequenceStep} :
    Steady s (advanceEnrollment now e loaded step s) := by
  rcases advanceEnrollment_eq now e loaded step s with hdone | ⟨order, due, hnext⟩
  · rw [hdone]
    exact completeWith_steady
  · rw [hnext]
    exact updateEnrollment_steady

theorem record_steady (p : Approval) (rt : Runtime) (actor : String) (outcome : SmtpOutcome)
    (s : Store) : Steady s (p.record rt actor outcome s) := by
  cases outcome with
  | error error =>
    refine Steady.trans ?_ (updateActivity_steady (fun _ => ⟨rfl, rfl, rfl⟩) (fun _ => rfl)
      fun _ => rfl)
    refine Steady.trans ?_ updateEnrollment_steady
    exact updateOutbound_steady fun _ => ⟨rfl, rfl, rfl⟩
  | ok messageId =>
    refine Steady.trans ?_ (updateActivity_steady (fun _ => ⟨rfl, rfl, rfl⟩) (fun _ => rfl)
      fun _ => rfl)
    refine Steady.trans ?_ advanceEnrollment_steady
    refine Steady.trans ?_ enqueueEvent_steady
    exact updateOutbound_steady fun _ => ⟨rfl, rfl, rfl⟩

theorem commit_steady (p : Approval) (rt : Runtime) (actor : String) (outcome : SmtpOutcome)
    (s : Store) : Steady s (p.commit rt actor outcome s) := by
  unfold Approval.commit
  split
  · exact record_steady p rt actor outcome s
  · exact Steady.refl s

/-- An accepted mail closes its activity. -/
theorem recordSent_closes {p : Approval} {rt : Runtime} {actor messageId : String} {s : Store}
    {row : SequenceStepActivity} (hrow : s.activities[p.activityId]? = some row) :
    ∃ row' : SequenceStepActivity,
      (p.recordSent rt actor messageId s).activities[p.activityId]? = some row' ∧
        row'.status.awaits = false := by
  have hkept : ∀ t : Store, t.activities = s.activities →
      ∀ f : SequenceStepActivity → SequenceStepActivity,
        (t.updateActivity p.activityId f).activities[p.activityId]? = some (f row) := by
    intro t hsame f
    simp [Store.updateActivity, hsame, hrow]
  refine ⟨_, hkept _ ?_ _, rfl⟩
  rw [advanceEnrollment_activities]
  rfl

variable [Casing]

omit [Casing] in
/-- The activity of a step, found or new, with the step's mail. -/
theorem attachOutbound_steady {s : Store} {key : Id × Id} {a : Id} {o : Option Id}
    {activity : SequenceStepActivity}
    (hfound : s.activities.first? (·.idempotencyKey == key) = some (a, activity))
    (hmail : ∀ i, o = some i → MailFor s key i) : Steady s (attachOutbound a o s) := by
  obtain ⟨hstored, hkey⟩ := Table.first?_some hfound
  have hkey : activity.idempotencyKey = key := beq_iff_eq.mp hkey
  rw [← hkey] at hmail
  have hwrites : Writes (fun _ => True) s (attachOutbound a o s) :=
    attachOutbound_writes trivial hstored hmail
  exact hwrites.steady

omit [Casing] in
theorem insertActivity_steady {s : Store} {row : SequenceStepActivity}
    (hmail : row.channel = .email →
      ∃ o, row.outboundEmailId = some o ∧ MailFor s row.idempotencyKey o) :
    Steady s (s.insertActivity row) :=
  (Write.openActivity hmail).steady

omit [Casing] in
theorem insertOutbound_steady {s : Store} {mail : OutboundEmail} :
    Steady s (s.insertOutbound mail) :=
  steady_of_same rfl (List.prefix_append _ _)

omit [Casing] in
theorem awaitApproval_steady {s : Store} {now : Time} {o : Id} :
    Steady s (awaitApproval now o s) :=
  updateOutbound_steady fun _ => ⟨rfl, rfl, rfl⟩

/-- The writes of a round, on any store. -/
theorem performNextStep_steady (rt : Runtime) (e : Id) (enrollment : SequenceEnrollment)
    {plan : NextStepPlan} (hplan : plan.drafted) (w : DbWorld) :
    SteadyPhase w (after (sessionScope (performNextStep rt e enrollment plan)) w) := by
  refine (Lib.sessionScope_relates (R := SteadyPhase w) ?_ ?_).1
  · intro v hv
    exact ⟨Steady.refl _, hv.mail⟩
  cases plan with
  | pause reason reported =>
    mvcgen [performNextStep]
    all_goals subst_vars
    all_goals exact ⟨updateEnrollment_steady.trans enqueueEvent_steady, rfl⟩
  | complete =>
    mvcgen [performNextStep]
    all_goals subst_vars
    exact ⟨completeWith_steady, rfl⟩
  | suppress contact reason =>
    mvcgen [performNextStep]
    all_goals subst_vars
    refine ⟨?_, rfl⟩
    exact steady_of_same rfl List.prefix_rfl
  | task stepId step =>
    mvcgen [performNextStep, activityForStep, flush, Lib.flush]
    all_goals subst_vars
    all_goals try with_reducible exact SteadyPhase.refl _
    all_goals refine ⟨Steady.trans ?_ updateEnrollment_steady, rfl⟩
    · exact attachOutbound_steady ‹_› (by simp)
    · apply insertActivity_steady
      intro hchannel
      exact absurd hchannel hplan
  | defer reason =>
    mvcgen [performNextStep]
    all_goals subst_vars
    exact ⟨updateEnrollment_steady, rfl⟩
  | draft stepId step contact account fromEmail =>
    mvcgen [performNextStep, outboundForStep, activityForStep, flush, Lib.flush,
      Lib.queryOrRaise]
    all_goals subst_vars
    all_goals try with_reducible exact SteadyPhase.refl _
    all_goals refine ⟨Steady.trans ?_ updateEnrollment_steady, rfl⟩
    · refine awaitApproval_steady.trans (attachOutbound_steady ‹_› ?_)
      rintro i ⟨⟩
      exact awaitApproval_mailFor (mailFor_of_first ‹_›)
    · refine awaitApproval_steady.trans (insertActivity_steady ?_)
      intro _
      exact ⟨_, rfl, awaitApproval_mailFor (mailFor_of_first ‹_›)⟩
    · refine (insertOutbound_steady.trans awaitApproval_steady).trans
        (attachOutbound_steady ‹_› ?_)
      rintro i ⟨⟩
      exact draft_mailFor
    · refine (insertOutbound_steady.trans awaitApproval_steady).trans
        (insertActivity_steady ?_)
      intro _
      exact ⟨_, rfl, draft_mailFor⟩

end Steadiness

section Sending

variable [Casing]

/-- The activity is stored and no longer waits. -/
def Closed (a : Id) (s : Store) : Prop :=
  ∃ row : SequenceStepActivity, s.activities[a]? = some row ∧ row.status.awaits = false

/-- What an open approval of the activity knows. -/
def sending (a : Id) (w : DbWorld) : OpenCall → Prop
  | .approval _ _ _ _ => accepted a w = 0 ∧ ∃ row, w.store.activities[a]? = some row
  | .answered _ _ _ (.ok _) => accepted a w = 1 ∧ ∃ row, w.store.activities[a]? = some row
  | .answered _ _ _ (.error _) => accepted a w = 0
  | .round _ _ _ _ _ | .whole _ _ => True

/-- What is known while no approval of the activity is open. -/
def sentOnce (a : Id) (w : DbWorld) : Prop :=
  accepted a w = 0 ∨ accepted a w = 1 ∧ Closed a w.store

omit [Casing]

theorem Steady.closed {a : Id} {s s' : Store} (h : Steady s s') (hs : Closed a s) :
    Closed a s' := by
  obtain ⟨row, hrow, hawaits⟩ := hs
  obtain ⟨row', hrow', hstatus⟩ := h.activities a row hrow
  refine ⟨row', hrow', ?_⟩
  rcases hstatus with hsame | hclosed
  · rw [hsame]
    exact hawaits
  · exact hclosed

theorem Steady.stored {a : Id} {s s' : Store} (h : Steady s s')
    (hs : ∃ row, s.activities[a]? = some row) : ∃ row, s'.activities[a]? = some row := by
  obtain ⟨row, hrow⟩ := hs
  obtain ⟨row', hrow', -⟩ := h.activities a row hrow
  exact ⟨row', hrow'⟩

theorem sentOnce.mono {a : Id} {w w' : DbWorld} (h : Steady w.store w'.store)
    (hmail : accepted a w' = accepted a w) (hw : sentOnce a w) : sentOnce a w' := by
  unfold sentOnce at hw ⊢
  rw [hmail]
  exact hw.imp_right fun hclosed => ⟨hclosed.1, h.closed hclosed.2⟩

theorem sending.mono {a : Id} {w w' : DbWorld} {call : OpenCall}
    (h : Steady w.store w'.store) (hmail : accepted a w' = accepted a w)
    (hw : sending a w call) : sending a w' call := by
  cases call with
  | approval rt actor sender p =>
    simp only [sending, hmail] at hw ⊢
    exact ⟨hw.1, h.stored hw.2⟩
  | answered rt actor p outcome =>
    cases outcome with
    | ok messageId =>
      simp only [sending, hmail] at hw ⊢
      exact ⟨hw.1, h.stored hw.2⟩
    | error error =>
      simp only [sending, hmail] at hw ⊢
      exact hw
  | round rt e enrollment plan hplan => trivial
  | whole c hop => trivial

/-- An attempt counts for its own activity, when it was accepted. -/
theorem accepted_attempt (a : Id) (w : DbWorld) (attempt : MailAttempt) :
    accepted a { w with external := w.external.attempt attempt } =
      accepted a w + if attempt.activityId == a && attempt.outcome.isOk then 1 else 0 := by
  simp [accepted, External.attempt, List.countP_append, List.countP_singleton]

variable [Casing]

/-- An operation other than an approval, in one phase. -/
theorem whole_steady {w : DbWorld} {c : Call} (hop : c.op.isApproval = false) :
    SteadyPhase w (step w c) := by
  have hquiet : Quiet (fun _ => True) w (step w c) := by
    apply step_quiet (admits_any w c)
    intro a actor sender heq
    rw [heq] at hop
    cases hop
  exact ⟨hquiet.writes.steady, hquiet.mail⟩

/-- Every phase keeps the activities steady. -/
theorem advanceCall_steady (call : OpenCall) (w : DbWorld) :
    Steady w.store (advanceCall call w).2.store := by
  cases call with
  | approval rt actor sender p => exact Steady.refl _
  | answered rt actor p outcome => exact commit_steady p rt actor outcome w.store
  | round rt e enrollment plan hplan =>
    exact (performNextStep_steady rt e enrollment hplan w).store
  | whole c hop => exact (whole_steady hop).store

/-- A phase of a call that does not approve the activity sends none of its mail. -/
theorem advanceCall_accepted {a : Id} {call : OpenCall} (hother : call.approves a = false)
    (w : DbWorld) : accepted a (advanceCall call w).2 = accepted a w := by
  cases call with
  | approval rt actor sender p =>
    simp only [OpenCall.approves] at hother
    simp only [advanceCall]
    rw [accepted_attempt, hother]
    simp
  | answered rt actor p outcome => rfl
  | round rt e enrollment plan hplan =>
    simp only [advanceCall, accepted, (performNextStep_steady rt e enrollment hplan w).mail]
  | whole c hop => simp only [advanceCall, accepted, (whole_steady hop).mail]

/-- What starts as an approval of the activity has found it waiting. -/
theorem startCall_awaits {a : Id} {c : Call} {w : DbWorld} {call : OpenCall}
    (h : startCall c w = some call) (happroves : call.approves a = true) :
    (∃ rt actor sender p, call = .approval rt actor sender p) ∧
      ∃ row : SequenceStepActivity, w.store.activities[a]? = some row ∧
        row.status.awaits = true := by
  unfold startCall at h
  split at h
  · split at h
    · unfold startRound at h
      split at h
      · cases h
      · split at h
        · cases h
        · split at h
          · cases h
            cases happroves
          · cases h
    · cases h
      cases happroves
  · split at h
    · next b actor sender hop =>
      unfold startApproval at h
      split at h
      · next p w' hrun =>
        cases h
        have hprepared := prepareApproval_establishes c.rt b w
        rw [Lib.Establishes, hrun] at hprepared
        obtain ⟨-, hp⟩ := hprepared
        obtain ⟨hactivity, -, hstatus, -⟩ := loadApproval_some hp.loaded
        simp only [OpenCall.approves, beq_iff_eq] at happroves
        rw [happroves] at hactivity
        refine ⟨⟨c.rt, actor, sender, p, rfl⟩, p.activity, hactivity, ?_⟩
        rcases hstatus with hpending | happroved
        · rw [hpending]
          rfl
        · rw [happroved]
          rfl
      · cases h
    · cases h

/-- The phases of the calls guard the mail of an activity. -/
theorem outreach_guards (a : Id) :
    Lib.Guards outreach (OpenCall.approves a) commitTaken (sending a) (sentOnce a) where
  start := by
    intro c w call hstart happroves hidle
    obtain ⟨⟨rt, actor, sender, p, rfl⟩, row, hrow, hawaits⟩ :=
      startCall_awaits hstart happroves
    refine ⟨?_, row, hrow⟩
    rcases hidle with hnone | ⟨-, closed, hclosed, hstatus⟩
    · exact hnone
    · obtain rfl : row = closed := Option.some.inj (hrow.symm.trans hclosed)
      rw [hawaits] at hstatus
      cases hstatus
  next := by
    intro w call call' happroves _ hduring hnext
    cases call with
    | approval rt actor sender p =>
      cases hnext
      simp only [OpenCall.approves] at happroves
      refine ⟨happroves, ?_⟩
      obtain ⟨hnone, hstored⟩ := hduring
      have hcount := accepted_attempt a w
        { activityId := p.activityId, request := p.request, outcome := sender p.request
          time := rt.now, observed := w.store }
      rw [hnone, happroves] at hcount
      cases houtcome : sender p.request with
      | ok messageId =>
        rw [houtcome] at hcount
        simp only [sending, outreach, advanceCall, houtcome]
        exact ⟨hcount, hstored⟩
      | error error =>
        rw [houtcome] at hcount
        simp only [sending, outreach, advanceCall, houtcome]
        exact hcount
    | answered rt actor p outcome => cases hnext
    | round rt e enrollment plan hplan => cases hnext
    | whole c hop => cases hnext
  finish := by
    intro w call happroves htaken hduring hnext
    cases call with
    | approval rt actor sender p => cases hnext
    | answered rt actor p outcome =>
      simp only [OpenCall.approves, beq_iff_eq] at happroves
      subst happroves
      cases outcome with
      | ok messageId =>
        obtain ⟨hone, row, hrow⟩ := hduring
        refine Or.inr ⟨hone, ?_⟩
        simp only [commitTaken] at htaken
        simp only [outreach, advanceCall, Approval.commit, htaken, if_true]
        exact recordSent_closes hrow
      | error error => exact Or.inl hduring
    | round rt e enrollment plan hplan => cases happroves
    | whole c hop => cases happroves
  other := by
    intro w call call' hother hnext
    cases call with
    | approval rt actor sender p =>
      cases hnext
      exact hother
    | answered rt actor p outcome => cases hnext
    | round rt e enrollment plan hplan => cases hnext
    | whole c hop => cases hnext
  stable := by
    intro w call hother
    have hstore := advanceCall_steady call w
    have hmail := advanceCall_accepted hother w
    exact ⟨sentOnce.mono hstore hmail, fun _ _ => sending.mono hstore hmail⟩

/-- In every run an approval writes nothing before it calls the sender: the mail
of an email activity is always there. -/
theorem prepareApproval_reads {init : DbWorld} (hinit : Initial init)
    (events : List (Event Call)) {rt : Runtime} {b : Id} {p : Approval} {w' : DbWorld}
    (h : prepareApproval rt b (Lib.run outreach.step { world := init } events).world =
      .ok (some p) w') :
    w' = (Lib.run outreach.step { world := init } events).world := by
  have hattached : DraftsAttached
      (Lib.run outreach.step { world := init } events).world.store := by
    have hall : Lib.Admissible outreach.step (fun _ _ => True) { world := init } events :=
      Lib.admissible_of_forall (fun _ _ => trivial) _ events
    refine Lib.run_keeps (I := fun floor : Floor DbWorld OpenCall =>
      DraftsAttached floor.world.store) ?_ hall ?_
    · intro floor event _ hfloor
      cases event with
      | start c =>
        cases hstart : outreach.start c floor.world with
        | none =>
          rw [outreach.step_idle hstart]
          exact hfloor
        | some call =>
          rw [outreach.step_start hstart]
          exact hfloor
      | advance i =>
        cases hopen : floor.open? i with
        | none =>
          rw [outreach.step_closed hopen]
          exact hfloor
        | some call =>
          rw [outreach.step_advance hopen]
          exact (advanceCall_steady call floor.world).attached hfloor
    · intro a activity hactivity
      simp [hinit.activities] at hactivity
  have hprepared := prepareApproval_establishes rt b
    (Lib.run outreach.step { world := init } events).world
  rw [Lib.Establishes, h] at hprepared
  obtain ⟨-, hp⟩ := hprepared
  obtain ⟨hactivity, hchannel, -⟩ := loadApproval_some hp.loaded
  obtain ⟨o, ho, -⟩ := hattached p.activityId p.activity hactivity hchannel
  obtain ⟨contact, fromEmail, -, hdrafted⟩ := hp.drafted
  rcases hdrafted with ⟨-, hsame⟩ | ⟨hnone, -⟩
  · exact hsame
  · rw [hnone] at ho
    cases ho

end Sending

section Overlapping

/-- Calls one after the other, each run to its end. -/
def inTurn (calls : List Call) : List (Event Call) :=
  (calls.zipIdx.map fun (c, i) => [Event.start c, Event.advance i]).flatten

/-- An operator approves the first mail, and the server takes it. -/
def approveFirst : Call :=
  Op.at (.sendApproved 0 "operator" acceptMail) 40

end Overlapping

end GhostRecon
