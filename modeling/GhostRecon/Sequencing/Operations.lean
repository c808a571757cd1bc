import GhostRecon.Enrichment.Verification

/-!
The outreach service as a state machine: one call after the other, each with
the clock, settings and collaborators of its own moment. Besides the
sequencing, meeting and suppression operations there is one call that stands
for the other services: it replaces the prospect tables by any rows that
satisfy the constraints, and so covers every import, enrichment and export.
-/

namespace GhostRecon

open Lib (Id Table Chain after)

set_option mvcgen.warning false

/-- The tables that other services write. -/
structure Prospects where
  accounts : Table Account := []
  contacts : Table Contact := []
  crmTargets : Table CrmTarget := []
  emailCandidates : Table EmailCandidateRecord := []
  resolutionCases : Table EntityResolutionCase := []
  contactCandidates : Table ContactEnrichmentCandidate := []
  emailPatterns : Table OrganizationEmailPattern := []
  reviewCandidates : Table ReviewCandidate := []
  sourceDefinitions : Table SourceDefinition := []
  rawItems : Table RawSourceItem := []
  meetings : Table MeetingHandoff := []

def Prospects.install (rows : Prospects) (s : Store) : Store :=
  { s with
    accounts := rows.accounts
    contacts := rows.contacts
    crmTargets := rows.crmTargets
    emailCandidates := rows.emailCandidates
    resolutionCases := rows.resolutionCases
    contactCandidates := rows.contactCandidates
    emailPatterns := rows.emailPatterns
    reviewCandidates := rows.reviewCandidates
    sourceDefinitions := rows.sourceDefinitions
    rawItems := rows.rawItems
    meetings := rows.meetings }

inductive Op where
  | createSequence (request : SequenceCreateRequest) (key : Option String)
  | updateSequence (sequenceId : Id) (request : SequenceUpdateRequest)
  | archiveSequence (sequenceId : Id)
  | createEnrollment (request : SequenceEnrollmentCreateRequest) (actor key : String)
  | pause (e : Id) (reason : String)
  | resume (e : Id)
  | cancel (e : Id) (reason : String)
  | sendNext (e : Id)
  | sendApproved (a : Id) (actor : String) (sender : SmtpSendRequest → SmtpOutcome)
  | completeActivity (a : Id) (request : SequenceActivityActionRequest) (actor : String)
  | scheduleMeeting (a : Id) (request : SequenceActivityScheduleMeetingRequest)
      (actor : String) (client : CalendarClient)
  | inbound (request : InboundEmailEventCreate) (key : String)
  | unsubscribe (request : UnsubscribeRequest) (key : String)
  | createMeeting (request : MeetingCreateRequest) (actor key : String)
      (client : CalendarClient)
  | createSuppression (request : SuppressionCreate) (key : String)
  | verifyEmails (request : EmailVerifyBatchRequest)
      (verifier : List String → Except String VerificationResults)
  | elsewhere (rows : Prospects)

/-- One call: an operation and the runtime it sees. -/
structure Call where
  rt : Runtime
  op : Op

section Machine

variable [Casing]

/-- The world a call leaves behind, whether it returned or raised. -/
def step (w : DbWorld) (c : Call) : DbWorld :=
  match c.op with
  | .createSequence request key => after (createSequence c.rt request key) w
  | .updateSequence q request => after (updateSequence c.rt q request) w
  | .archiveSequence q => after (archiveSequence c.rt q) w
  | .createEnrollment request actor key =>
    after (createSequenceEnrollment c.rt request actor key) w
  | .pause e reason => after (pauseSequenceEnrollment c.rt e reason) w
  | .resume e => after (resumeSequenceEnrollment c.rt e) w
  | .cancel e reason => after (cancelSequenceEnrollment c.rt e reason) w
  | .sendNext e => after (sendNextSequenceStep c.rt e) w
  | .sendApproved a actor sender => after (sendApprovedSequenceEmail c.rt a actor sender) w
  | .completeActivity a request actor => after (completeSequenceActivity c.rt a request actor) w
  | .scheduleMeeting a request actor client =>
    after (scheduleSequenceMeetingActivity c.rt a request actor client) w
  | .inbound request key => after (processInboundEmailEvent c.rt request key) w
  | .unsubscribe request key => after (processUnsubscribe c.rt request key) w
  | .createMeeting request actor key client =>
    after (createMeeting c.rt request actor key client) w
  | .createSuppression request key => after (createSuppression c.rt request key) w
  | .verifyEmails request verifier => after (verifyEmailCandidates c.rt request verifier) w
  | .elsewhere rows => after (sessionScope (Lib.write rows.install)) w

/-- The world after a finite run of calls. -/
abbrev runCalls (w : DbWorld) (calls : List Call) : DbWorld :=
  Lib.run step w calls

/-- A service that has just been deployed: prospects and suppressions may be
there, sequencing has not begun. -/
structure Initial (w : DbWorld) : Prop where
  constraints : w.store.constraintsOk = true
  enrollments : w.store.enrollments = []
  activities : w.store.activities = []
  outboundEmails : w.store.outboundEmails = []
  inboundEvents : w.store.inboundEvents = []
  outbox : w.store.outbox = []
  mail : w.external.mail = []

/-- A world some run of calls from a fresh deployment ends in. -/
def ReachableWorld (w : DbWorld) : Prop :=
  ∃ init calls, Initial init ∧ runCalls init calls = w

/-- The call is a bounce, seen for the first time, of an enrollment whose
status satisfies `p`. -/
def Call.bounces (c : Call) (w : DbWorld) (p : EnrollmentStatus → Bool) : Bool :=
  match c.op with
  | .inbound request key =>
    request.eventType == .bounce &&
      (w.store.inboundEvents.first? (·.idempotencyKey == key)).isNone &&
      (linkedEnrollment w.store request).any (p ·.2.status)
  | _ => false

/-- The activity a scheduler round would hand the enrollment's step to, if the
round gets that far and the step already has one. -/
def reusedActivity? (rt : Runtime) (e : Id) (s : Store) : Option (Id × SequenceStepActivity) :=
  match s.enrollments[e]? with
  | none => none
  | some row =>
    if row.status ≠ .active then none
    else
      match planNextStep rt row s with
      | .error _ => none
      | .ok plan =>
        plan.step?.bind fun stepId =>
          s.activities.first? (·.idempotencyKey == (e, stepId))

/-- The call is a scheduler round that reuses an activity whose status
satisfies `p`. -/
def Call.reuses (c : Call) (w : DbWorld) (p : ActivityStatus → Bool) : Bool :=
  match c.op with
  | .sendNext e => (reusedActivity? c.rt e w.store).any (p ·.2.status)
  | _ => false

/-- The contact a call drafts a new mail for. -/
def Call.drafts? (c : Call) (w : DbWorld) : Option Contact :=
  match c.op with
  | .sendNext e =>
    match w.store.enrollments[e]? with
    | none => none
    | some row =>
      if row.status ≠ .active then none
      else
        match planNextStep c.rt row w.store with
        | .ok (.draft stepId _ contact _ _) =>
          if (w.store.outboundEmails.first? (·.idempotencyKey == (e, stepId))).isSome then none
          else some contact
        | _ => none
  | .sendApproved a _ _ =>
    match loadApproval a w.store with
    | .ok (some loaded) =>
      if loaded.activity.outboundEmailId.isSome then none
      else
        match checkApproval c.rt loaded.enrollment loaded.step w.store with
        | .ok (.inr (contact, _)) => some contact
        | _ => none
    | _ => none
  | _ => none

/-- The call rewrites prospects. -/
def Op.rewritesProspects : Op → Bool
  | .verifyEmails _ _ | .elsewhere _ => true
  | _ => false

/-- The labels a call can write with are admitted. -/
structure Admits (ok : Label → Prop) (w : DbWorld) (c : Call) : Prop where
  routine : ok .routine
  opens : ok (.handOver .pending) ∧ ok (.handOver .pendingApproval)
  prospects : c.op.rewritesProspects = true → ok .prospects
  draft : ∀ contact, c.drafts? w = some contact →
    ok (.draft contact (lower (contact.email.getD "")))
  bounce : ∀ status, c.bounces w (· == status) = true → ok (.bounce status)
  reuse : ∀ status, c.reuses w (· == status) = true → ok (.handOver status)

/-- Without a condition on the labels every call is admitted. -/
theorem admits_any (w : DbWorld) (c : Call) : Admits (fun _ => True) w c where
  routine := trivial
  opens := ⟨trivial, trivial⟩
  prospects := fun _ => trivial
  draft := fun _ _ => trivial
  bounce := fun _ _ => trivial
  reuse := fun _ _ => trivial

omit [Casing] in
theorem elsewhere_aside (rows : Prospects) (s : Store) : Aside s (rows.install s) :=
  aside_of_same ⟨rfl, rfl, rfl, rfl, rfl, rfl, rfl⟩

omit [Casing] in
theorem elsewhere_quiet {ok : Label → Prop} (hprospects : ok .prospects) (rows : Prospects)
    (w : DbWorld) : Quiet ok w (after (sessionScope (Lib.write rows.install)) w) := by
  apply sessionScope_quiet
  mvcgen
  all_goals subst_vars
  exact ⟨Chain.single hprospects (.prospects (elsewhere_aside rows _)), rfl⟩

/-- Every call other than an approval keeps to the life cycle and sends no
mail. -/
theorem step_quiet {ok : Label → Prop} {w : DbWorld} {c : Call} (h : Admits ok w c)
    (hop : ∀ a actor sender, c.op ≠ .sendApproved a actor sender) : Quiet ok w (step w c) := by
  obtain ⟨hok, hopens, hprospects, hdraft, hbounce, hreuse⟩ := h
  obtain ⟨rt, op⟩ := c
  cases op with
  | createSequence request key => exact createSequence_quiet hok rt request key w
  | updateSequence q request => exact updateSequence_quiet hok rt q request w
  | archiveSequence q => exact archiveSequence_quiet hok rt q w
  | createEnrollment request actor key =>
    exact createSequenceEnrollment_quiet hok rt request actor key w
  | pause e reason => exact setEnrollmentStatus_quiet hok rt e (Or.inr rfl) reason _ w
  | resume e => exact resumeSequenceEnrollment_quiet hok rt e w
  | cancel e reason => exact setEnrollmentStatus_quiet hok rt e (Or.inl rfl) reason _ w
  | sendNext e =>
    apply sendNextSequenceStep_quiet hok rt e w hopens
    · intro row stepId step contact account fromEmail hrow hactive hplan hfresh
      apply hdraft contact
      simp [Call.drafts?, hrow, hactive, hplan, hfresh]
    · intro row plan stepId a activity hrow hactive hplan hstep hfound
      apply hreuse activity.status
      simp [Call.reuses, reusedActivity?, hrow, hactive, hplan, hstep, hfound]
  | sendApproved a actor sender => exact absurd rfl (hop a actor sender)
  | completeActivity a request actor =>
    exact completeSequenceActivity_quiet hok rt a request actor w
  | scheduleMeeting a request actor client =>
    exact scheduleSequenceMeetingActivity_quiet hok rt a request actor client w
  | inbound request key =>
    apply processInboundEmailEvent_quiet hok rt request key w
    intro htype hfresh e row hlinked
    apply hbounce row.status
    simp [Call.bounces, htype, hfresh, hlinked]
  | unsubscribe request key =>
    apply processInboundEmailEvent_quiet hok rt request.event key w
    intro htype
    cases htype
  | createMeeting request actor key client =>
    exact createMeeting_quiet hok rt request actor key client w
  | createSuppression request key => exact createSuppression_quiet hok rt request key w
  | verifyEmails request verifier =>
    exact verifyEmailCandidates_quiet (hprospects rfl) rt request verifier w
  | elsewhere rows => exact elsewhere_quiet (hprospects rfl) rows w

/-- Every call keeps to the life cycle. -/
theorem step_writes {ok : Label → Prop} {w : DbWorld} {c : Call} (h : Admits ok w c) :
    Writes ok w.store (step w c).store := by
  by_cases hop : ∃ a actor sender, c.op = .sendApproved a actor sender
  · obtain ⟨a, actor, sender, hop⟩ := hop
    have hstep : step w c = after (sendApprovedSequenceEmail c.rt a actor sender) w := by
      simp only [step, hop]
    rw [hstep]
    apply sendApprovedSequenceEmail_writes h.routine c.rt a actor sender w
    intro loaded contact fromEmail hloaded hcheck hnone
    apply h.draft contact
    simp [Call.drafts?, hop, hloaded, hcheck, hnone]
  · refine (step_quiet h ?_).writes
    intro a actor sender heq
    exact hop ⟨a, actor, sender, heq⟩

/-- Every call leaves the constraints satisfied. -/
theorem step_constraints {w : DbWorld} (c : Call) (h : w.store.constraintsOk = true) :
    (step w c).store.constraintsOk = true := by
  by_cases hop : ∃ a actor sender, c.op = .sendApproved a actor sender
  · obtain ⟨a, actor, sender, hop⟩ := hop
    have hstep : step w c = after (sendApprovedSequenceEmail c.rt a actor sender) w := by
      simp only [step, hop]
    rw [hstep]
    exact sendApprovedSequenceEmail_constraints c.rt a actor sender w h
  · refine (step_quiet (admits_any w c) ?_).constraints h
    intro a actor sender heq
    exact hop ⟨a, actor, sender, heq⟩

/-- What a list of transactions leaves behind is a run: the first exception ends
it. -/
theorem mapM_sendNext_run (rt : Runtime) (due : List Id) (w : DbWorld) :
    ∃ done, done <+: due ∧
      after (due.mapM (sendNextSequenceStep rt)) w =
        runCalls w (done.map fun e => { rt, op := .sendNext e }) := by
  induction due generalizing w with
  | nil => exact ⟨[], List.prefix_rfl, rfl⟩
  | cons e rest ih =>
    have hstep : step w { rt, op := .sendNext e } = after (sendNextSequenceStep rt e) w := rfl
    cases hrun : sendNextSequenceStep rt e w with
    | error error w' =>
      refine ⟨[e], ⟨rest, rfl⟩, ?_⟩
      have hmap : (e :: rest).mapM (sendNextSequenceStep rt) w = .error error w' := by
        simp [List.mapM_cons, bind, EStateM.bind, hrun]
      simp [after, hmap, hstep, hrun]
    | ok outcome w' =>
      obtain ⟨done, hprefix, hdone⟩ := ih w'
      refine ⟨e :: done, List.cons_prefix_cons.mpr ⟨rfl, hprefix⟩, ?_⟩
      have hafter : step w { rt, op := .sendNext e } = w' := by
        rw [hstep, after, hrun]
      rw [List.map_cons, runCalls, Lib.run_cons, hafter]
      refine Eq.trans ?_ hdone
      cases hrest : rest.mapM (sendNextSequenceStep rt) w' <;>
        simp [after, List.mapM_cons, bind, EStateM.bind, hrun, hrest, pure, EStateM.pure]

/-- A round over the due enrollments is a run of scheduler calls, so every
result about runs covers it. -/
theorem processDueSequenceSteps_run (rt : Runtime) (limit : Nat) (w : DbWorld) :
    ∃ calls, (∀ c ∈ calls, ∃ e, c = { rt, op := .sendNext e }) ∧
      after (processDueSequenceSteps rt limit) w = runCalls w calls := by
  obtain ⟨done, -, hdone⟩ := mapM_sendNext_run rt (dueEnrollments rt.now limit w.store) w
  refine ⟨_, ?_, hdone⟩
  intro c hc
  obtain ⟨e, -, rfl⟩ := List.mem_map.mp hc
  exact ⟨e, rfl⟩

end Machine

section Deployment

/-- A verified contact of an exported target. -/
def ada : Contact where
  fullName := "Ada"
  email := some "ada@corp.example"
  emailStatus := some "verified"
  lawfulBasis := some "legitimate_interest"

def adaTarget : CrmTarget where
  targetType := "contact"
  targetId := 0
  status := .exported
  exportStatus := "exported"
  idempotencyKey := "target:ada"

/-- A fresh deployment that knows one contact. -/
def deployment : DbWorld where
  store := { contacts := [ada], crmTargets := [adaTarget] }
  external := {}

theorem deployment_initial : Initial deployment where
  constraints := by decide +kernel
  enrollments := rfl
  activities := rfl
  outboundEmails := rfl
  inboundEvents := rfl
  outbox := rfl
  mail := rfl

/-- A call at a given time, everything else by default. -/
def Op.at (op : Op) (now : Time) : Call where
  rt := { now }
  op := op

/-- A sequence of two mails, ada enrolled in it, and the first mail drafted. -/
def draftFirstMail : List Call :=
  [Op.at (.createSequence
      { name := "outreach"
        steps := [{ subjectTemplate := some "Hello", bodyTemplate := some "First" },
          { subjectTemplate := some "Again", bodyTemplate := some "Second" }] } none) 10,
    Op.at (.createEnrollment
      { sequenceId := 0, crmTargetId := 0, outreachApproved := true
        approvalReason := "approved" } "operator" "enroll:ada") 20,
    Op.at (.sendNext 0) 30]

def acceptMail (_ : SmtpSendRequest) : SmtpOutcome :=
  .ok "message-1"

def refuseMail (_ : SmtpSendRequest) : SmtpOutcome :=
  .error "connection refused"

/-- After the draft one mail waits for approval. -/
example : (runCalls deployment draftFirstMail).store.activities.map (·.status) =
    [.pendingApproval] := by decide +kernel

end Deployment

end GhostRecon
