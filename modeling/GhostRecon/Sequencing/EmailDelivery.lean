import GhostRecon.Sequencing.Scheduler

/-!
Approving and sending one drafted mail. The call reads and checks first, then
hands the drafted mail to the SMTP sender, and records what the sender
answered; all in one transaction. The three parts are separate definitions, so
that runs in which calls overlap are made of the same code.
-/

namespace GhostRecon

open Lib (Id Table query queryOrRaise write perform)
open Std.Do

set_option mvcgen.warning false

variable [Casing]

/-- The four conditions under which an approval is refused and recorded. -/
inductive Refusal where
  | sequenceNotActive
  | contactMissing
  | suppressed (contact : Contact) (reason : Option String)
  | rateLimited (reason : String)

/-- What the refusing branch writes before it raises. -/
def Refusal.record (rt : Runtime) (e : Id) (enrollment : SequenceEnrollment) :
    Refusal → Store → Store
  | .sequenceNotActive => pauseForPolicy rt.now e enrollment "sequence is not active"
  | .contactMissing => pauseForPolicy rt.now e enrollment "contact no longer exists"
  | .suppressed contact reason => suppressEnrollment rt.now e enrollment contact reason
  | .rateLimited reason =>
    deferEnrollment rt.now rt.settings.sequenceRetryAfterSeconds e reason

def Refusal.error : Refusal → PyError
  | .sequenceNotActive => .valueError "sequence is not active"
  | .contactMissing => .valueError "contact no longer exists"
  | .suppressed _ reason => .valueError (suppressReason reason)
  | .rateLimited reason => .valueError reason

/-- The checks of `send_approved_sequence_email` on an active enrollment: a
refusal, or the contact to write to and the sender address. -/
def checkApproval (rt : Runtime) (enrollment : SequenceEnrollment) (step : SequenceStep)
    (s : Store) : Except PyError (Refusal ⊕ (Contact × String)) :=
  match s.sequences[enrollment.sequenceId]? with
  | none => .ok (.inl .sequenceNotActive)
  | some sequence =>
    if sequence.status ≠ .active then .ok (.inl .sequenceNotActive)
    else
      match s.contacts[enrollment.contactId]? with
      | none => .ok (.inl .contactMissing)
      | some contact => do
        requireSendableContact contact
        let suppression ← suppressionAllowed rt contact.email (domainFromEmail contact.email)
          (some enrollment.contactId) step.channel.value s
        if !suppression.allowed then
          return .inl (.suppressed contact suppression.reason)
        let fromEmail := lower rt.settings.smtpFromAddress
        match ← rateLimitBlocker rt (contact.email.getD "") fromEmail step.channel
            sequence s with
        | some reason => return .inl (.rateLimited reason)
        | none => return .inr (contact, fromEmail)

/-- An approval that has passed its checks, with the rows as it loaded them. -/
structure Approval where
  activityId : Id
  activity : SequenceStepActivity
  enrollment : SequenceEnrollment
  step : SequenceStep
  outboundId : Id
  outbound : OutboundEmail

/-- What goes to the SMTP server: the drafted mail as it was frozen. -/
def Approval.request (p : Approval) : SmtpSendRequest where
  fromEmail := p.outbound.fromEmail
  toEmail := p.outbound.toEmail
  subject := p.outbound.subject
  body := p.outbound.body
  messageId := "<ghostrecon-" ++ toString p.outboundId ++ "@local>"

/-- The rows of an activity that may be approved. -/
structure OpenApproval where
  activity : SequenceStepActivity
  enrollment : SequenceEnrollment
  step : SequenceStep

/-- The first guards: an email activity that waits for approval, in an active
enrollment. -/
def loadApproval (activityId : Id) (s : Store) : Except PyError (Option OpenApproval) :=
  match s.activities[activityId]? with
  | none => .ok none
  | some activity =>
    if activity.channel ≠ .email then
      .error (.valueError "activity is not an email approval")
    else if activity.status ≠ .pendingApproval ∧ activity.status ≠ .approved then
      .error (.valueError ("cannot approve " ++ activity.status.value ++ " activity"))
    else
      match s.enrollments[activity.enrollmentId]?, s.steps[activity.sequenceStepId]? with
      | some enrollment, some step =>
        if enrollment.status ≠ .active then
          .error (.valueError "sequence enrollment is not active")
        else .ok (some { activity, enrollment, step })
      | _, _ => .error (.valueError "activity is missing sequence context")

/-- The mail of the activity, or the one `_outbound_for_step` yields. -/
def outboundForApproval (rt : Runtime) (loaded : OpenApproval) (contact : Contact)
    (fromEmail : String) : Tx Id := do
  match loaded.activity.outboundEmailId with
  | some o => return o
  | none =>
    let account ← query fun s => loaded.enrollment.accountId.bind (s.accounts[·]?)
    outboundForStep rt loaded.activity.enrollmentId loaded.enrollment
      loaded.activity.sequenceStepId loaded.step contact account fromEmail

/-- Everything before the SMTP call. -/
def prepareApproval (rt : Runtime) (activityId : Id) : Tx (Option Approval) := do
  match ← queryOrRaise (loadApproval activityId) with
  | none => return none
  | some loaded =>
    match ← queryOrRaise (checkApproval rt loaded.enrollment loaded.step) with
    | .inl refusal =>
      write (refusal.record rt loaded.activity.enrollmentId loaded.enrollment)
      throw refusal.error
    | .inr (contact, fromEmail) =>
      let outboundId ← outboundForApproval rt loaded contact fromEmail
      match ← query (·.outboundEmails[outboundId]?) with
      | none => throw .attributeError
      | some outbound =>
        return some
          { activityId
            activity := loaded.activity
            enrollment := loaded.enrollment
            step := loaded.step
            outboundId
            outbound }

/-- The sender raised: the mail may be retried, the activity has failed. -/
def Approval.recordFailure (p : Approval) (rt : Runtime) (error : String) (s : Store) :
    Store :=
  let s := s.updateOutbound p.outboundId fun mail =>
    { mail with
      attemptCount := p.outbound.attemptCount + 1
      status := .failedRetryable
      lastError := some error
      retryAfterSeconds := some rt.settings.sequenceRetryAfterSeconds
      updatedAt := rt.now }
  let s := s.updateEnrollment p.activity.enrollmentId fun row =>
    { row with
      nextStepAt := some (rt.now + rt.settings.sequenceRetryAfterSeconds)
      updatedAt := rt.now }
  s.updateActivity p.activityId fun row =>
    { row with
      status := .failed
      metadata := p.activity.metadata.set "last_error" error
      updatedAt := rt.now }

/-- The sender accepted the mail: the step is done and the enrollment advances. -/
def Approval.recordSent (p : Approval) (rt : Runtime) (actor messageId : String)
    (s : Store) : Store :=
  let s := s.updateOutbound p.outboundId fun mail =>
    { mail with
      attemptCount := p.outbound.attemptCount + 1
      status := .sent
      lastError := none
      retryAfterSeconds := none
      providerMessageId := some messageId
      sentAt := some rt.now
      updatedAt := rt.now }
  let s := enqueueEvent .emailSent "outbound_email" p.outboundId
    (.counted .emailSent p.outboundId (p.outbound.attemptCount + 1)) s
  let s := advanceEnrollment rt.now p.activity.enrollmentId p.enrollment p.step s
  s.updateActivity p.activityId fun row =>
    { row with
      status := .completed
      approvedBy := some actor
      approvedAt := some rt.now
      completedBy := some actor
      completedAt := some rt.now
      updatedAt := rt.now }

/-- What the call writes once the sender has answered. -/
def Approval.record (p : Approval) (rt : Runtime) (actor : String) :
    SmtpOutcome → Store → Store
  | .error error => p.recordFailure rt error
  | .ok messageId => p.recordSent rt actor messageId

def sendApprovedSequenceEmail (rt : Runtime) (activityId : Id) (actor : String)
    (sender : SmtpSendRequest → SmtpOutcome) :
    Tx (Option SequenceStepActivity) := sessionScope do
  match ← prepareApproval rt activityId with
  | none => return none
  | some approval =>
    let outcome := sender approval.request
    let observed ← query fun s => s
    perform (·.attempt { activityId, request := approval.request, outcome, time := rt.now, observed })
    write (approval.record rt actor outcome)
    query (·.activities[activityId]?)

omit [Casing] in
/-- What the first guards establish. -/
theorem loadApproval_some {a : Id} {s : Store} {loaded : OpenApproval}
    (h : loadApproval a s = .ok (some loaded)) :
    s.activities[a]? = some loaded.activity ∧ loaded.activity.channel = .email ∧
      (loaded.activity.status = .pendingApproval ∨ loaded.activity.status = .approved) ∧
      s.enrollments[loaded.activity.enrollmentId]? = some loaded.enrollment ∧
      s.steps[loaded.activity.sequenceStepId]? = some loaded.step ∧
      loaded.enrollment.status = .active := by
  unfold loadApproval at h
  split at h
  · cases h
  · next activity hactivity =>
    split at h
    · cases h
    · next hchannel =>
      split at h
      · cases h
      · next hstatus =>
        split at h
        · next enrollment step henrollment hstep =>
          split at h
          · cases h
          · next hactive =>
            cases h
            refine ⟨hactivity, not_not.mp hchannel, ?_, henrollment, hstep,
              not_not.mp hactive⟩
            by_contra hneither
            exact hstatus (not_or.mp hneither)
        · cases h

/-- What the checks establish of the contact they pass. -/
theorem checkApproval_passes {rt : Runtime} {enrollment : SequenceEnrollment}
    {step : SequenceStep} {s : Store} {contact : Contact} {fromEmail : String}
    (h : checkApproval rt enrollment step s = .ok (.inr (contact, fromEmail))) :
    s.contacts[enrollment.contactId]? = some contact ∧
      requireSendableContact contact = .ok () ∧
      (suppressionDecision rt.now contact.email (domainFromEmail contact.email)
        (some enrollment.contactId) step.channel.value s).allowed = true := by
  unfold checkApproval at h
  split at h
  · cases h
  · split at h
    · cases h
    · split at h
      · cases h
      · next found hfound =>
        cases hsendable : requireSendableContact found with
        | error e =>
          rw [hsendable] at h
          cases h
        | ok u =>
          simp only [hsendable, bind, Except.bind] at h
          split at h
          · cases h
          · next suppression hsuppression =>
            split at h
            · cases h
            · next hallowed =>
              split at h
              · cases h
              · split at h
                · cases h
                · cases h
                  refine ⟨hfound, hsendable, ?_⟩
                  unfold suppressionAllowed at hsuppression
                  split at hsuppression
                  · cases hsuppression
                    simpa using hallowed
                  · cases hsuppression

/-- What an approval has established when it reaches the SMTP call, from the
world it started in to the one it calls the sender in. -/
structure Prepared (rt : Runtime) (w w' : DbWorld) (p : Approval) : Prop where
  loaded : loadApproval p.activityId w.store =
    .ok (some { activity := p.activity, enrollment := p.enrollment, step := p.step })
  external : w'.external = w.external
  outbound : w'.store.outboundEmails[p.outboundId]? = some p.outbound
  drafted : ∃ contact fromEmail,
    checkApproval rt p.enrollment p.step w.store = .ok (.inr (contact, fromEmail)) ∧
      (p.activity.outboundEmailId = some p.outboundId ∧ w' = w ∨
        p.activity.outboundEmailId = none ∧
          ((∃ mail, w.store.outboundEmails.first?
              (·.idempotencyKey == (p.activity.enrollmentId, p.activity.sequenceStepId)) =
                some (p.outboundId, mail) ∧ w' = w) ∨
            ∃ subject body, w'.store = w.store.insertOutbound
              (draftFor rt.now p.activity.enrollmentId p.enrollment p.activity.sequenceStepId
                p.step contact fromEmail subject body) ∧
              p.outboundId = w.store.outboundEmails.length))

/-- Everything before the SMTP call, and that it leaves the outside alone. -/
theorem prepareApproval_establishes (rt : Runtime) (a : Id) (w : DbWorld) :
    Lib.Establishes (prepareApproval rt a) w
      (fun found w' => match found with
        | none => w' = w
        | some p => p.activityId = a ∧ Prepared rt w w' p)
      (fun _ w' => w'.external = w.external) := by
  apply Lib.establishes_of_triple
  mvcgen [prepareApproval, outboundForApproval, outboundForStep, flush, Lib.flush,
    Lib.queryOrRaise]
  all_goals subst_vars
  all_goals try rfl
  all_goals refine ⟨trivial, ⟨‹_›, rfl, ‹_›, _, _, ‹_›, ?_⟩⟩
  · exact Or.inl ⟨‹_›, rfl⟩
  · exact Or.inr ⟨‹_›, Or.inl ⟨_, ‹_›, rfl⟩⟩
  · exact Or.inr ⟨‹_›, Or.inr ⟨_, _, rfl, rfl⟩⟩

/-- Before the sender is called at most a draft has been written. -/
theorem Prepared.drafts {rt : Runtime} {w w' : DbWorld} {p : Approval}
    (h : Prepared rt w w' p) :
    w'.store = w.store ∨ ∃ mail, w'.store = w.store.insertOutbound mail := by
  obtain ⟨contact, fromEmail, -, hdraft⟩ := h.drafted
  rcases hdraft with ⟨-, rfl⟩ | ⟨-, ⟨mail, -, rfl⟩ | ⟨subject, body, hstore, -⟩⟩
  · exact Or.inl rfl
  · exact Or.inl rfl
  · exact Or.inr ⟨_, hstore⟩

theorem Prepared.same {rt : Runtime} {w w' : DbWorld} {p : Approval}
    (h : Prepared rt w w' p) :
    w'.store.enrollments = w.store.enrollments ∧ w'.store.activities = w.store.activities := by
  rcases h.drafts with hsame | ⟨mail, hmail⟩
  · rw [hsame]
    exact ⟨rfl, rfl⟩
  · rw [hmail]
    exact ⟨rfl, rfl⟩

/-- The world an approval leaves when the sender has answered. -/
def Approval.settle (p : Approval) (rt : Runtime) (actor : String)
    (sender : SmtpSendRequest → SmtpOutcome) (w : DbWorld) : DbWorld where
  store := p.record rt actor (sender p.request) w.store
  external := w.external.attempt
    { activityId := p.activityId
      request := p.request
      outcome := sender p.request
      time := rt.now
      observed := w.store }

/-- A call whose preparation raises leaves the store alone. -/
theorem sendApproved_raises {rt : Runtime} {a : Id} {actor : String}
    {sender : SmtpSendRequest → SmtpOutcome} {w w' : DbWorld} {e : PyError}
    (hrun : prepareApproval rt a w = .error e w') :
    sendApprovedSequenceEmail rt a actor sender w = .error e { w' with store := w.store } := by
  apply Lib.sessionScope_raise_store
  simp [bind, EStateM.bind, hrun]

/-- A call for an activity that does not exist changes nothing. -/
theorem sendApproved_missing {rt : Runtime} {a : Id} {actor : String}
    {sender : SmtpSendRequest → SmtpOutcome} {w : DbWorld}
    (hrun : prepareApproval rt a w = .ok none w) :
    Lib.after (sendApprovedSequenceEmail rt a actor sender) w = w := by
  apply Lib.after_sessionScope_idle (a := none)
  simp [bind, EStateM.bind, hrun, pure, EStateM.pure]

/-- A call that reaches the sender: the mail is out in any case, the store keeps
what was recorded when it satisfies the constraints. -/
theorem sendApproved_sends {rt : Runtime} {a : Id} {actor : String}
    {sender : SmtpSendRequest → SmtpOutcome} {w w' : DbWorld} {p : Approval}
    (hrun : prepareApproval rt a w = .ok (some p) w') (ha : p.activityId = a) :
    Lib.after (sendApprovedSequenceEmail rt a actor sender) w =
      { store := if (p.settle rt actor sender w').store.constraintsOk then
          (p.settle rt actor sender w').store else w.store
        external := (p.settle rt actor sender w').external } := by
  subst ha
  apply Lib.after_sessionScope_ok
  simp only [bind, EStateM.bind, hrun, query, perform, write, modify, modifyGet,
    MonadStateOf.modifyGet, EStateM.modifyGet, get, getThe, MonadStateOf.get, EStateM.get,
    pure, EStateM.pure]
  rfl

/-- The three ways a call of `send_approved_sequence_email` can go. -/
theorem sendApproved_cases (rt : Runtime) (a : Id) (actor : String)
    (sender : SmtpSendRequest → SmtpOutcome) (w : DbWorld) :
    Lib.after (sendApprovedSequenceEmail rt a actor sender) w = w ∨
      ∃ p w', prepareApproval rt a w = .ok (some p) w' ∧ p.activityId = a ∧
        Prepared rt w w' p ∧
        Lib.after (sendApprovedSequenceEmail rt a actor sender) w =
          { store := if (p.settle rt actor sender w').store.constraintsOk then
              (p.settle rt actor sender w').store else w.store
            external := (p.settle rt actor sender w').external } := by
  have hprepared := prepareApproval_establishes rt a w
  unfold Lib.Establishes at hprepared
  cases hrun : prepareApproval rt a w with
  | error e w' =>
    rw [hrun] at hprepared
    have hexternal : w'.external = w.external := hprepared
    left
    rw [Lib.after, sendApproved_raises hrun, hexternal]
  | ok found w' =>
    rw [hrun] at hprepared
    cases found with
    | none =>
      obtain rfl : w' = w := hprepared
      exact Or.inl (sendApproved_missing hrun)
    | some p =>
      obtain ⟨ha, hp⟩ := hprepared
      exact Or.inr ⟨p, w', rfl, ha, hp, sendApproved_sends hrun ha⟩

end GhostRecon
