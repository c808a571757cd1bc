import GhostRecon.Sequencing.State

/-!
The scheduler. `send_next_sequence_step` never sends: it drafts the mail of an
email step and leaves it, with its activity, for an operator to approve, or
opens the activity of any other step. What it will do is decided from what it
reads; the writes follow.
-/

namespace GhostRecon

open Lib (Id Table query queryOrRaise write)

variable [Casing]

/-- What one scheduler call does with an active enrollment. -/
inductive NextStepPlan where
  /-- Only the contact checks report their reason to the caller. -/
  | pause (reason : String) (reported : Bool)
  | complete
  | suppress (contact : Contact) (reason : Option String)
  | task (stepId : Id) (step : SequenceStep)
  | defer (reason : String)
  | draft (stepId : Id) (step : SequenceStep) (contact : Contact)
      (account : Option Account) (fromEmail : String)

/-- The decisions of `send_next_sequence_step` for an active enrollment, in
the order the code takes them. -/
def planNextStep (rt : Runtime) (enrollment : SequenceEnrollment) (s : Store) :
    Except PyError NextStepPlan :=
  match s.sequences[enrollment.sequenceId]? with
  | none => .ok (.pause "sequence is not active" false)
  | some sequence =>
    if sequence.status ≠ .active then .ok (.pause "sequence is not active" false)
    else
      match stepForOrder s enrollment.sequenceId enrollment.currentStepOrder
          enrollment.definitionVersion with
      | none => .ok .complete
      | some (stepId, step) =>
        match s.contacts[enrollment.contactId]? with
        | none => .ok (.pause "contact no longer exists" false)
        | some contact =>
          match requireSendableContact contact with
          | .error e => .ok (.pause e.message true)
          | .ok () => do
            let suppression ← suppressionAllowed rt contact.email
              (domainFromEmail contact.email) (some enrollment.contactId)
              step.channel.value s
            if !suppression.allowed then
              return .suppress contact suppression.reason
            if step.channel ≠ .email then
              return .task stepId step
            let fromEmail := lower rt.settings.smtpFromAddress
            match ← rateLimitBlocker rt (contact.email.getD "") fromEmail step.channel
                sequence s with
            | some reason => return .defer reason
            | none =>
              let account := enrollment.accountId.bind (s.accounts[·]?)
              return .draft stepId step contact account fromEmail

/-- The step whose activity a plan opens or reuses. -/
def NextStepPlan.step? : NextStepPlan → Option Id
  | .task stepId _ | .draft stepId _ _ _ _ => some stepId
  | .pause _ _ | .complete | .suppress _ _ | .defer _ => none

/-- The row `_outbound_for_step` inserts: the recipient is frozen here. -/
def draftFor (now : Time) (e : Id) (enrollment : SequenceEnrollment) (stepId : Id)
    (step : SequenceStep) (contact : Contact) (fromEmail subject body : String) :
    OutboundEmail where
  enrollmentId := e
  sequenceStepId := stepId
  contactId := enrollment.contactId
  channel := step.channel
  toEmail := lower (contact.email.getD "")
  fromEmail := fromEmail
  subject := subject
  body := body
  status := .pending
  attemptCount := 0
  scheduledAt := enrollment.nextStepAt.getD now
  createdAt := now
  updatedAt := now

def renderTemplate (rt : Runtime) (template : Option String) (contact : Contact)
    (account : Option Account) : Except PyError String :=
  (rt.renderTemplate (template.getD "") contact account).mapError .valueError

/-- `_outbound_for_step`: the mail already drafted for this enrollment and
step, or a new draft. -/
def outboundForStep (rt : Runtime) (e : Id) (enrollment : SequenceEnrollment)
    (stepId : Id) (step : SequenceStep) (contact : Contact) (account : Option Account)
    (fromEmail : String) : Tx Id := do
  match ← query (·.outboundEmails.first? (·.idempotencyKey == (e, stepId))) with
  | some (o, _) => return o
  | none =>
    let subject ← queryOrRaise fun _ => renderTemplate rt step.subjectTemplate contact account
    let body ← queryOrRaise fun _ => renderTemplate rt step.bodyTemplate contact account
    let o ← query (·.outboundEmails.length)
    write (·.insertOutbound
      (draftFor rt.now e enrollment stepId step contact fromEmail subject body))
    flush
    return o

/-- The row `_activity_for_step` inserts. -/
def activityFor (now : Time) (e stepId : Id) (step : SequenceStep)
    (status : ActivityStatus) (outboundEmailId : Option Id) : SequenceStepActivity where
  enrollmentId := e
  sequenceStepId := stepId
  outboundEmailId := outboundEmailId
  stepOrder := step.stepOrder
  channel := step.channel
  status := status
  dueAt := some now
  metadata := step.stepMetadata
  createdAt := now
  updatedAt := now

def attachOutbound (a : Id) (outboundEmailId : Option Id) (s : Store) : Store :=
  s.updateActivity a fun row =>
    { row with outboundEmailId := row.outboundEmailId <|> outboundEmailId }

/-- `_activity_for_step`: an existing activity keeps its status and at most
gains the outbound mail it lacked. -/
def activityForStep (rt : Runtime) (e stepId : Id) (step : SequenceStep)
    (status : ActivityStatus) (outboundEmailId : Option Id) : Tx Id := do
  match ← query (·.activities.first? (·.idempotencyKey == (e, stepId))) with
  | some (a, _) =>
    write (attachOutbound a outboundEmailId)
    return a
  | none =>
    let a ← query (·.activities.length)
    write (·.insertActivity (activityFor rt.now e stepId step status outboundEmailId))
    flush
    return a

/-- The drafted mail waits for approval. -/
def awaitApproval (now : Time) (o : Id) (s : Store) : Store :=
  s.updateOutbound o fun mail => { mail with status := .pendingApproval, updatedAt := now }

/-- The step is now in an operator's hands. -/
def clearNextStep (now : Time) (e : Id) (s : Store) : Store :=
  s.updateEnrollment e fun row => { row with nextStepAt := none, updatedAt := now }

structure NextStepOutcome where
  enrollmentId : Id
  status : String
  reason : Option String := none
  outboundEmailId : Option Id := none
  activityId : Option Id := none
  deriving DecidableEq, Repr

/-- The writes a plan stands for. -/
def performNextStep (rt : Runtime) (e : Id) (enrollment : SequenceEnrollment) :
    NextStepPlan → Tx NextStepOutcome
  | .pause reason reported => do
    write (pauseForPolicy rt.now e enrollment reason)
    return { enrollmentId := e, status := "paused"
             reason := if reported then some reason else none }
  | .complete => do
    write (completeEnrollment rt.now e enrollment)
    return { enrollmentId := e, status := "completed" }
  | .suppress contact reason => do
    write (suppressEnrollment rt.now e enrollment contact reason)
    return { enrollmentId := e, status := "suppressed", reason }
  | .task stepId step => do
    let a ← activityForStep rt e stepId step .pending none
    write (clearNextStep rt.now e)
    let activity ← query (·.activities[a]?)
    return { enrollmentId := e, activityId := some a
             status := (activity.map (·.status.value)).getD "" }
  | .defer reason => do
    write (deferEnrollment rt.now rt.settings.sequenceRetryAfterSeconds e reason)
    return { enrollmentId := e, status := "rate_limited", reason := some reason }
  | .draft stepId step contact account fromEmail => do
    let o ← outboundForStep rt e enrollment stepId step contact account fromEmail
    write (awaitApproval rt.now o)
    let a ← activityForStep rt e stepId step .pendingApproval (some o)
    write (clearNextStep rt.now e)
    let activity ← query (·.activities[a]?)
    return { enrollmentId := e, outboundEmailId := some o, activityId := some a
             status := (activity.map (·.status.value)).getD "" }

def sendNextSequenceStep (rt : Runtime) (e : Id) : Tx NextStepOutcome := sessionScope do
  let some enrollment ← query (·.enrollments[e]?)
    | throw (.valueError "sequence enrollment not found")
  if enrollment.status ≠ .active then
    return { enrollmentId := e, status := enrollment.status.value }
  let plan ← queryOrRaise (planNextStep rt enrollment)
  performNextStep rt e enrollment plan

/-- The enrollments `process_due_sequence_steps` selects. -/
def dueEnrollments (now : Time) (limit : Nat) (s : Store) : List Id :=
  (((s.enrollments.zipIdx.filter fun row =>
      row.1.status == .active && row.1.nextStepAt.any (· ≤ now)).insertionSort
        (fun a b => a.1.nextStepAt.getD 0 ≤ b.1.nextStepAt.getD 0)).map Prod.snd).take limit

/-- One transaction after the other; the first exception ends the round. -/
def processDueSequenceSteps (rt : Runtime) (limit : Nat) : Tx (List NextStepOutcome) := do
  let due ← query (dueEnrollments rt.now limit)
  due.mapM (sendNextSequenceStep rt)

/-- A plan that opens or reuses an activity is about the current step, and about
a contact that may be written to; only an email step gets a draft. -/
theorem planNextStep_cases {rt : Runtime} {enrollment : SequenceEnrollment} {s : Store}
    {plan : NextStepPlan} (h : planNextStep rt enrollment s = .ok plan) :
    plan.step? = none ∨
      ∃ stepId step contact,
        stepForOrder s enrollment.sequenceId enrollment.currentStepOrder
            enrollment.definitionVersion = some (stepId, step) ∧
          s.contacts[enrollment.contactId]? = some contact ∧
          requireSendableContact contact = .ok () ∧
          (plan = .task stepId step ∧ step.channel ≠ .email ∨
            ∃ account fromEmail, plan = .draft stepId step contact account fromEmail) := by
  unfold planNextStep at h
  split at h
  · cases h
    exact Or.inl rfl
  · split at h
    · cases h
      exact Or.inl rfl
    · split at h
      · cases h
        exact Or.inl rfl
      · next stepId step hstep =>
        split at h
        · cases h
          exact Or.inl rfl
        · next contact hcontact =>
          split at h
          · cases h
            exact Or.inl rfl
          · next hsendable =>
            simp only [bind, Except.bind] at h
            split at h
            · cases h
            · split at h
              · cases h
                exact Or.inl rfl
              · split at h
                · next hchannel =>
                  cases h
                  exact Or.inr ⟨stepId, step, contact, hstep, hcontact, hsendable,
                    Or.inl ⟨rfl, hchannel⟩⟩
                · split at h
                  · cases h
                  · split at h
                    · cases h
                      exact Or.inl rfl
                    · cases h
                      exact Or.inr ⟨stepId, step, contact, hstep, hcontact, hsendable,
                        Or.inr ⟨_, _, rfl⟩⟩

/-- The step a plan opens or reuses an activity for is the current one. -/
theorem planNextStep_step {rt : Runtime} {enrollment : SequenceEnrollment} {s : Store}
    {plan : NextStepPlan} {stepId : Id} (h : planNextStep rt enrollment s = .ok plan)
    (hstep : plan.step? = some stepId) :
    ∃ step, stepForOrder s enrollment.sequenceId enrollment.currentStepOrder
      enrollment.definitionVersion = some (stepId, step) := by
  rcases planNextStep_cases h with hnone | ⟨i, step, contact, horder, -, -, hplan⟩
  · rw [hnone] at hstep
    cases hstep
  · rcases hplan with ⟨rfl, -⟩ | ⟨account, fromEmail, rfl⟩
    · cases hstep
      exact ⟨step, horder⟩
    · cases hstep
      exact ⟨step, horder⟩

theorem planNextStep_task {rt : Runtime} {enrollment : SequenceEnrollment} {s : Store}
    {stepId : Id} {step : SequenceStep}
    (h : planNextStep rt enrollment s = .ok (.task stepId step)) : step.channel ≠ .email := by
  rcases planNextStep_cases h with hnone | ⟨i, found, contact, -, -, -, hplan⟩
  · cases hnone
  · rcases hplan with ⟨heq, hchannel⟩ | ⟨account, fromEmail, heq⟩
    · cases heq
      exact hchannel
    · cases heq

theorem planNextStep_draft {rt : Runtime} {enrollment : SequenceEnrollment} {s : Store}
    {stepId : Id} {step : SequenceStep} {contact : Contact} {account : Option Account}
    {fromEmail : String}
    (h : planNextStep rt enrollment s = .ok (.draft stepId step contact account fromEmail)) :
    s.contacts[enrollment.contactId]? = some contact ∧
      requireSendableContact contact = .ok () := by
  rcases planNextStep_cases h with hnone | ⟨i, found, stored, -, hcontact, hsendable, hplan⟩
  · cases hnone
  · rcases hplan with ⟨heq, -⟩ | ⟨account, fromEmail, heq⟩
    · cases heq
    · cases heq
      exact ⟨hcontact, hsendable⟩

end GhostRecon
