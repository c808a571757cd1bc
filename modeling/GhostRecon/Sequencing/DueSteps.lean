import GhostRecon.Sequencing.Unsubscribes

/-!
What a due step leads to. The scheduler asks the suppression policy about the
channel of the step, and the channels the policy supports are a list of its own:
a step of a sequence definition may be a Google Meet step, and no list of the
policy has that channel. Such a step suppresses the enrollment; a call step opens
its activity, and so does an email step whose mail is there or can be drafted.
-/

namespace GhostRecon

open Lib (Id Table after)

section Constraints

theorem insertActivity_constraints {s : Store} {row : SequenceStepActivity} :
    (s.insertActivity row).constraintsOk = true ↔
      s.constraintsOk = true ∧ ∀ old ∈ s.activities, old.idempotencyKey ≠ row.idempotencyKey := by
  have hunique : Table.uniqueOn (s.activities ++ [row])
      (fun row => some row.idempotencyKey) = true ↔ _ := Table.uniqueOn_concat
  simp only [Store.constraintsOk, Store.keysOk, Store.widthsOk, Store.insertActivity,
    Bool.and_eq_true, hunique, Option.some.injEq, forall_eq', ne_eq]
  grind

theorem insertOutbound_constraints (s : Store) (mail : OutboundEmail) :
    (s.insertOutbound mail).constraintsOk = true ↔
      s.constraintsOk = true ∧
        (∀ old ∈ s.outboundEmails, old.idempotencyKey ≠ mail.idempotencyKey) ∧
        mail.fits = true := by
  have hunique : Table.uniqueOn (s.outboundEmails ++ [mail])
      (fun row => some row.idempotencyKey) = true ↔ _ := Table.uniqueOn_concat
  simp only [Store.constraintsOk, Store.keysOk, Store.widthsOk, Store.insertOutbound,
    Bool.and_eq_true, hunique, List.all_append, List.all_cons, List.all_nil, Bool.and_true,
    Option.some.injEq, forall_eq', ne_eq]
  grind

theorem updateActivity_constraints {s : Store} {a : Id}
    {f : SequenceStepActivity → SequenceStepActivity}
    (hkey : ∀ row, (f row).idempotencyKey = row.idempotencyKey) :
    (s.updateActivity a f).constraintsOk = s.constraintsOk := by
  have hunique : Table.uniqueOn (s.activities.modify a f)
      (fun row => some row.idempotencyKey) =
        s.activities.uniqueOn (fun row => some row.idempotencyKey) :=
    Table.uniqueOn_modify fun row => congrArg some (hkey row)
  simp only [Store.updateActivity, Store.constraintsOk, Store.keysOk, Store.widthsOk, hunique]

theorem updateOutbound_constraints {s : Store} {o : Id} {f : OutboundEmail → OutboundEmail}
    (hkey : ∀ mail, (f mail).idempotencyKey = mail.idempotencyKey)
    (hfits : ∀ mail, (f mail).fits = mail.fits) :
    (s.updateOutbound o f).constraintsOk = s.constraintsOk := by
  have hunique : Table.uniqueOn (s.outboundEmails.modify o f)
      (fun row => some row.idempotencyKey) =
        s.outboundEmails.uniqueOn (fun row => some row.idempotencyKey) :=
    Table.uniqueOn_modify fun row => congrArg some (hkey row)
  have hwidths : (s.outboundEmails.modify o f).all OutboundEmail.fits =
      s.outboundEmails.all OutboundEmail.fits := Table.all_modify hfits
  simp only [Store.updateOutbound, Store.constraintsOk, Store.keysOk, Store.widthsOk, hunique,
    hwidths]

theorem attachOutbound_constraints {a : Id} {o : Option Id} {s : Store} :
    (attachOutbound a o s).constraintsOk = s.constraintsOk :=
  updateActivity_constraints fun _ => rfl

theorem clearNextStep_constraints {now : Time} {e : Id} {s : Store} :
    (clearNextStep now e s).constraintsOk = s.constraintsOk :=
  updateEnrollment_constraints fun _ => rfl

theorem awaitApproval_constraints {now : Time} {o : Id} {s : Store} :
    (awaitApproval now o s).constraintsOk = s.constraintsOk :=
  updateOutbound_constraints (fun _ => rfl) fun _ => rfl

end Constraints

section Policy

variable [Casing]

/-- The channels of a definition that the suppression policy supports. -/
theorem supported_iff (channel : SequenceChannel) :
    lower channel.value ∈ supportedChannels ↔ channel ≠ .googleMeet := by
  cases channel with
  | email => simp [SequenceChannel.value, supportedChannels, Casing.lower_plain "email" (by decide)]
  | call => simp [SequenceChannel.value, supportedChannels, Casing.lower_plain "call" (by decide)]
  | googleMeet =>
    simp [SequenceChannel.value, supportedChannels,
      Casing.lower_plain "google_meet" (by decide)]

/-- The rules that need no database, for a personal address on a channel of a
definition. -/
theorem evaluateSuppression_personal {email : String} (channel : SequenceChannel)
    (hpersonal : localPart email ∉ roleBasedPrefixes) :
    evaluateSuppression (some email) channel.value =
      if channel = .googleMeet then
        { allowed := false, reason := some "Unsupported outreach channel" }
      else { allowed := true } := by
  have hsupported := supported_iff channel
  unfold evaluateSuppression
  by_cases hmeet : channel = .googleMeet
  · simp only [hmeet, ne_eq, not_true_eq_false, iff_false] at hsupported
    simp [hmeet, hpersonal, hsupported]
  · simp [hmeet, hpersonal, hsupported.mpr hmeet]

/-- The policy's answer when no stored row blocks. -/
theorem suppressionDecision_clear {now : Time} {email domain : Option String}
    {contactId : Option Id} {channel : String} {s : Store}
    (hclear : ∀ row ∈ s.suppressions, row.blocks now email domain contactId channel = false) :
    suppressionDecision now email domain contactId channel s =
      evaluateSuppression email channel := by
  simp only [suppressionDecision, Table.first?_none.mpr hclear, ite_self]

end Policy

section DueStep

variable [Casing]

/-- An active enrollment whose current step is due, with a contact nobody has
reason to withhold. -/
structure DueStep (rt : Runtime) (e : Id) (enrollment : SequenceEnrollment)
    (sequence : Sequence) (stepId : Id) (step : SequenceStep) (contact : Contact) (email : String)
    (s : Store) : Prop where
  enrolled : s.enrollments[e]? = some enrollment
  active : enrollment.status = .active
  due : enrollment.nextStepAt.any (· ≤ rt.now) = true
  defined : s.sequences[enrollment.sequenceId]? = some sequence
  current : stepForOrder s enrollment.sequenceId enrollment.currentStepOrder
    enrollment.definitionVersion = some (stepId, step)
  known : s.contacts[enrollment.contactId]? = some contact
  addressed : contact.email = some email
  sendable : requireSendableContact contact = .ok ()
  clear : ∀ row ∈ s.suppressions, row.blocks rt.now (some email) (domainFromEmail (some email))
    (some enrollment.contactId) step.channel.value = false
  personal : localPart email ∉ roleBasedPrefixes
  capacity : ∀ reason, rateLimitBlocker rt email (lower rt.settings.smtpFromAddress)
    step.channel sequence s ≠ .ok (some reason)

/-- The account an enrollment's mails are rendered with. -/
def accountOf (enrollment : SequenceEnrollment) (s : Store) : Option Account :=
  enrollment.accountId.bind (s.accounts[·]?)

/-- The mail of an email step is there, or its templates render to one that
fits its columns. -/
def draftable (rt : Runtime) (e : Id) (enrollment : SequenceEnrollment) (stepId : Id)
    (step : SequenceStep) (contact : Contact) (s : Store) : Bool :=
  (s.outboundEmails.first? (·.idempotencyKey == (e, stepId))).isSome ||
    match renderTemplate rt step.subjectTemplate contact (accountOf enrollment s),
      renderTemplate rt step.bodyTemplate contact (accountOf enrollment s) with
    | .ok subject, .ok body =>
      (draftFor rt.now e enrollment stepId step contact (lower rt.settings.smtpFromAddress)
        subject body).fits
    | _, _ => false

/-- The condition under which a due step opens: its sequence is active, its
channel is one the suppression policy supports, the address passes the check
request, and a mail step can be drafted. -/
def opensDueStep (rt : Runtime) (e : Id) (enrollment : SequenceEnrollment)
    (sequence : Sequence) (stepId : Id) (step : SequenceStep) (contact : Contact) (email : String)
    (s : Store) : Bool :=
  sequence.status == .active && rt.validEmail email && step.channel != .googleMeet &&
    (step.channel != .email ||
      (rateLimitBlocker rt email (lower rt.settings.smtpFromAddress) step.channel sequence
        s).toOption.isSome && draftable rt e enrollment stepId step contact s)

/-- The call returns the activity of the step, new or reused, and the enrollment
stays active. -/
def OpensStep (rt : Runtime) (e stepId : Id) (w : DbWorld) : Prop :=
  ∃ outcome w' a activity, sendNextSequenceStep rt e w = .ok outcome w' ∧
    outcome.activityId = some a ∧ w'.store.activities[a]? = some activity ∧
    activity.idempotencyKey = (e, stepId) ∧
    (w'.store.enrollments[e]?).map (·.status) = some .active

variable {rt : Runtime} {e stepId : Id} {enrollment : SequenceEnrollment} {sequence : Sequence}
  {step : SequenceStep} {contact : Contact} {email : String} {s : Store}

/-- The plan for a due step. -/
theorem DueStep.plan (h : DueStep rt e enrollment sequence stepId step contact email s) :
    planNextStep rt enrollment s =
      if sequence.status ≠ .active then .ok (.pause "sequence is not active" false)
      else if rt.validEmail email = false then .error (.validationError "email")
      else if step.channel = .googleMeet then
        .ok (.suppress contact (some "Unsupported outreach channel"))
      else if step.channel ≠ .email then .ok (.task stepId step)
      else
        (rateLimitBlocker rt email (lower rt.settings.smtpFromAddress) step.channel sequence
          s).map fun _ =>
            .draft stepId step contact (accountOf enrollment s)
              (lower rt.settings.smtpFromAddress) := by
  have hdecision := (suppressionDecision_clear h.clear).trans
    (evaluateSuppression_personal step.channel h.personal)
  simp only [planNextStep, h.defined, h.current, h.known, h.sendable, h.addressed,
    suppressionAllowed, hdecision]
  by_cases hactive : sequence.status = .active
  · cases hvalid : rt.validEmail email with
    | false => simp [hactive, hvalid, bind, Except.bind]
    | true =>
      by_cases hmeet : step.channel = .googleMeet
      · simp [hactive, hvalid, hmeet, bind, Except.bind, pure, Except.pure]
      · by_cases hemail : step.channel = .email
        · have hcapacity := h.capacity
          cases hlimit : rateLimitBlocker rt email (lower rt.settings.smtpFromAddress)
              step.channel sequence s with
          | error problem =>
            have hmail := hemail ▸ hlimit
            simp [hactive, hvalid, hemail, hmail, bind, Except.bind, Except.map]
          | ok blocked =>
            cases blocked with
            | some reason => exact absurd hlimit (hcapacity reason)
            | none =>
              have hmail := hemail ▸ hlimit
              simp [hactive, hvalid, hemail, hmail, accountOf, bind, Except.bind, pure,
                Except.pure, Except.map]
        · simp [hactive, hvalid, hmeet, hemail, bind, Except.bind, pure, Except.pure]
  · simp [hactive]

/-- A call for an active enrollment does what its plan says. -/
theorem sendNext_run {w : DbWorld} (henrolled : w.store.enrollments[e]? = some enrollment)
    (hactive : enrollment.status = .active) :
    sendNextSequenceStep rt e w =
      sessionScope (do
        let plan ← Lib.queryOrRaise (planNextStep rt enrollment)
        performNextStep rt e enrollment plan) w := by
  simp only [sendNextSequenceStep, sessionScope, Lib.sessionScope_run, Lib.bind_run,
    Lib.query_run, henrolled, hactive, ne_eq, not_true_eq_false, if_false]

omit [Casing] in
/-- The activity of a step is there afterwards, new or reused. -/
theorem activityForStep_opens (rt : Runtime) (e stepId : Id) (step : SequenceStep)
    (status : ActivityStatus) (o : Option Id) {w : DbWorld}
    (hvalid : w.store.constraintsOk = true) :
    ∃ a w' activity, activityForStep rt e stepId step status o w = .ok a w' ∧
      w'.store.constraintsOk = true ∧ w'.store.activities[a]? = some activity ∧
      activity.idempotencyKey = (e, stepId) ∧ w'.store.enrollments = w.store.enrollments := by
  unfold activityForStep
  rw [Lib.bind_run, Lib.query_run]
  cases hfound : w.store.activities.first? (·.idempotencyKey == (e, stepId)) with
  | some found =>
    obtain ⟨a, activity⟩ := found
    obtain ⟨hrow, hkey⟩ := Table.first?_some hfound
    refine ⟨a, _, { activity with outboundEmailId := activity.outboundEmailId <|> o }, rfl, ?_,
      ?_, ?_, rfl⟩
    · exact attachOutbound_constraints.trans hvalid
    · simp [attachOutbound, Store.updateActivity, hrow]
    · exact beq_iff_eq.mp hkey
  | none =>
    have hfresh := Table.first?_none.mp hfound
    have hinserted : (w.store.insertActivity
        (activityFor rt.now e stepId step status o)).constraintsOk = true := by
      refine insertActivity_constraints.mpr ⟨hvalid, ?_⟩
      intro old hold heq
      have hmiss := hfresh old hold
      rw [heq] at hmiss
      simp [activityFor, SequenceStepActivity.idempotencyKey] at hmiss
    refine ⟨w.store.activities.length,
      { w with store := w.store.insertActivity (activityFor rt.now e stepId step status o) },
      activityFor rt.now e stepId step status o, ?_, hinserted, ?_, rfl, rfl⟩
    · simp only [Lib.bind_run, Lib.query_run, Lib.write_run, flush, Lib.flush_run, hinserted,
        if_true, Lib.pure_run]
    · simp [Store.insertActivity]

omit [Casing] in
/-- Handing the step over opens it and leaves the enrollment active. -/
theorem handOver_opens (rt : Runtime) (e stepId : Id) (step : SequenceStep)
    (status : ActivityStatus) (o : Option Id) {w : DbWorld}
    (answer : Id → Option SequenceStepActivity → NextStepOutcome)
    (hanswer : ∀ a activity, (answer a activity).activityId = some a)
    (hvalid : w.store.constraintsOk = true)
    (henrolled : w.store.enrollments[e]? = some enrollment)
    (hactive : enrollment.status = .active) :
    ∃ outcome w' a activity,
      (do
        let a ← activityForStep rt e stepId step status o
        Lib.write (clearNextStep rt.now e)
        let activity ← Lib.query (·.activities[a]?)
        return answer a activity : Tx NextStepOutcome) w = .ok outcome w' ∧
      w'.store.constraintsOk = true ∧ outcome.activityId = some a ∧
      w'.store.activities[a]? = some activity ∧ activity.idempotencyKey = (e, stepId) ∧
      (w'.store.enrollments[e]?).map (·.status) = some .active := by
  obtain ⟨a, w', activity, hrun, hvalid', hrow, hkey, hsame⟩ :=
    activityForStep_opens rt e stepId step status o hvalid
  refine ⟨answer a (some activity), { w' with store := clearNextStep rt.now e w'.store }, a,
    activity, ?_, ?_, hanswer a _, hrow, hkey, ?_⟩
  · simp only [Lib.bind_run, hrun, Lib.write_run, Lib.query_run]
    simp only [clearNextStep, Store.updateEnrollment, hrow, Lib.pure_run]
  · exact clearNextStep_constraints.trans hvalid'
  · simp [clearNextStep, Store.updateEnrollment, hsame, henrolled, hactive]

/-- The mail of the step is there afterwards exactly when it can be drafted. -/
theorem outboundForStep_drafts (rt : Runtime) (e : Id) (enrollment : SequenceEnrollment)
    (stepId : Id) (step : SequenceStep) (contact : Contact) {w : DbWorld} (hvalid : w.store.constraintsOk = true) :
    (draftable rt e enrollment stepId step contact w.store = true →
      ∃ o w', outboundForStep rt e enrollment stepId step contact (accountOf enrollment w.store)
          (lower rt.settings.smtpFromAddress) w = .ok o w' ∧
        w'.store.constraintsOk = true ∧ w'.store.enrollments = w.store.enrollments) ∧
    (draftable rt e enrollment stepId step contact w.store = false →
      ∃ problem w', outboundForStep rt e enrollment stepId step contact
        (accountOf enrollment w.store) (lower rt.settings.smtpFromAddress) w =
          .error problem w') := by
  unfold outboundForStep draftable
  rw [Lib.bind_run, Lib.query_run]
  cases hfound : w.store.outboundEmails.first? (·.idempotencyKey == (e, stepId)) with
  | some found =>
    refine ⟨fun _ => ⟨found.1, w, rfl, hvalid, rfl⟩, ?_⟩
    intro hfalse
    simp at hfalse
  | none =>
    simp only [Option.isSome_none, Bool.false_or, Lib.bind_run, Lib.queryOrRaise_run]
    cases hsubject : renderTemplate rt step.subjectTemplate contact
        (accountOf enrollment w.store) with
    | error problem => simp
    | ok subject =>
      cases hbody : renderTemplate rt step.bodyTemplate contact (accountOf enrollment w.store) with
      | error problem => simp
      | ok body =>
        have hinserted := insertOutbound_constraints w.store
          (draftFor rt.now e enrollment stepId step contact
            (lower rt.settings.smtpFromAddress) subject body)
        have hfresh : ∀ old ∈ w.store.outboundEmails, old.idempotencyKey ≠
            (draftFor rt.now e enrollment stepId step contact
              (lower rt.settings.smtpFromAddress) subject body).idempotencyKey := by
          intro old hold heq
          have hmiss := Table.first?_none.mp hfound old hold
          rw [heq] at hmiss
          simp [draftFor, OutboundEmail.idempotencyKey] at hmiss
        simp only [Lib.query_run, Lib.write_run, flush, Lib.flush_run]
        constructor
        · intro hfits
          have hstored := hinserted.mpr ⟨hvalid, hfresh, hfits⟩
          rw [if_pos hstored]
          exact ⟨_, _, rfl, hstored, rfl⟩
        · intro hfits
          rw [if_neg]
          · exact ⟨_, _, rfl⟩
          · intro hstored
            rw [(hinserted.mp hstored).2.2] at hfits
            cases hfits

/-- A plan that the call returns from opens the step if and only if carrying it
out does. -/
theorem opensStep_iff {w : DbWorld} (h : DueStep rt e enrollment sequence stepId step contact email
    w.store) {plan : NextStepPlan} (hplan : planNextStep rt enrollment w.store = .ok plan) :
    OpensStep rt e stepId w ↔
      ∃ outcome w' a activity, performNextStep rt e enrollment plan w = .ok outcome w' ∧
        w'.store.constraintsOk = true ∧ outcome.activityId = some a ∧
        w'.store.activities[a]? = some activity ∧ activity.idempotencyKey = (e, stepId) ∧
        (w'.store.enrollments[e]?).map (·.status) = some .active := by
  unfold OpensStep
  rw [sendNext_run h.enrolled h.active, sessionScope, Lib.sessionScope_run, Lib.bind_run,
    Lib.queryOrRaise_run, hplan]
  cases hperform : performNextStep rt e enrollment plan w with
  | error problem w' => simp [hperform]
  | ok outcome w' =>
    simp only [hperform]
    by_cases hvalid : w'.store.constraintsOk = true
    · simp only [hvalid, if_true]
      constructor
      · rintro ⟨outcome', v, a, activity, heq, hopened⟩
        cases heq
        exact ⟨_, _, a, activity, rfl, hvalid, hopened⟩
      · rintro ⟨outcome', v, a, activity, heq, -, hopened⟩
        cases heq
        exact ⟨_, _, a, activity, rfl, hopened⟩
    · simp only [hvalid, if_false, reduceCtorEq, false_and, exists_false, false_iff]
      rintro ⟨outcome', v, a, activity, heq, hok, -⟩
      cases heq
      exact hvalid hok

theorem not_opensStep_of_error {w : DbWorld} {problem : PyError}
    (h : DueStep rt e enrollment sequence stepId step contact email w.store)
    (hplan : planNextStep rt enrollment w.store = .error problem) : ¬ OpensStep rt e stepId w := by
  rintro ⟨outcome, w', a, activity, hrun, -⟩
  rw [sendNext_run h.enrolled h.active, sessionScope, Lib.sessionScope_run, Lib.bind_run,
    Lib.queryOrRaise_run, hplan] at hrun
  cases hrun

/-- A due step opens exactly under the condition. -/
theorem due_step_opens_iff (rt : Runtime) (e : Id) (enrollment : SequenceEnrollment)
    (sequence : Sequence) (stepId : Id) (step : SequenceStep) (contact : Contact) (email : String)
    (w : DbWorld) (hreach : ReachableWorld w)
    (hdue : DueStep rt e enrollment sequence stepId step contact email w.store) :
    OpensStep rt e stepId w ↔
      opensDueStep rt e enrollment sequence stepId step contact email w.store = true := by
  have hvalid := hreach.constraints
  have hplan := hdue.plan
  unfold opensDueStep
  by_cases hactive : sequence.status = .active
  swap
  · rw [if_pos hactive] at hplan
    rw [opensStep_iff hdue hplan]
    simp [hactive, performNextStep, Lib.bind_run, Lib.write_run, Lib.pure_run]
  rw [if_neg (not_not.mpr hactive)] at hplan
  cases hemail : rt.validEmail email with
  | false =>
    rw [if_pos hemail] at hplan
    simp [not_opensStep_of_error hdue hplan]
  | true =>
    rw [if_neg (by simp [hemail])] at hplan
    cases hchannel : step.channel with
    | googleMeet =>
      rw [if_pos hchannel] at hplan
      rw [opensStep_iff hdue hplan]
      simp [performNextStep, Lib.bind_run, Lib.write_run, Lib.pure_run]
    | call =>
      rw [if_neg (by simp [hchannel]), if_pos (by simp [hchannel])] at hplan
      rw [opensStep_iff hdue hplan]
      refine iff_of_true ?_ (by simp [hactive])
      obtain ⟨outcome, w', a, activity, hrun, hopened⟩ :=
        handOver_opens rt e stepId step .pending none (fun a activity =>
            { enrollmentId := e, activityId := some a
              status := (activity.map (·.status.value)).getD "" }) (fun _ _ => rfl)
          hvalid hdue.enrolled hdue.active
      exact ⟨outcome, w', a, activity, hrun, hopened⟩
    | email =>
      rw [if_neg (by simp [hchannel]), if_neg (by simp [hchannel])] at hplan
      rw [hchannel] at hplan
      cases hlimit : rateLimitBlocker rt email (lower rt.settings.smtpFromAddress) .email
          sequence w.store with
      | error problem =>
        rw [hlimit] at hplan
        simp [not_opensStep_of_error hdue hplan, Except.toOption]
      | ok blocked =>
        rw [hlimit] at hplan
        rw [opensStep_iff hdue hplan]
        have hdrafts := outboundForStep_drafts rt e enrollment stepId step contact hvalid
        cases hdraft : draftable rt e enrollment stepId step contact w.store with
        | false =>
          obtain ⟨problem, w', hrun⟩ := hdrafts.2 hdraft
          simp [performNextStep, Lib.bind_run, hrun]
        | true =>
          obtain ⟨o, w', hrun, hvalid', hsame⟩ := hdrafts.1 hdraft
          refine iff_of_true ?_ (by simp [hactive, Except.toOption])
          obtain ⟨outcome, v, a, activity, hopen, hopened⟩ :=
            handOver_opens rt e stepId step .pendingApproval (some o)
              (w := { w' with store := awaitApproval rt.now o w'.store })
              (fun a activity =>
                { enrollmentId := e, outboundEmailId := some o, activityId := some a
                  status := (activity.map (·.status.value)).getD "" }) (fun _ _ => rfl)
              (awaitApproval_constraints.trans hvalid')
              (hsame.symm ▸ hdue.enrolled : w'.store.enrollments[e]? = some enrollment)
              hdue.active
          refine ⟨outcome, v, a, activity, ?_, hopened⟩
          simp only [performNextStep]
          rw [Lib.bind_run, hrun]
          exact hopen

end DueStep

section DiscoverySequence

/-- A sequence with one step on the channel, and ada enrolled in it. -/
def enrollIn (channel : SequenceChannel) : List Call :=
  [Op.at (.createSequence
      { name := "discovery"
        steps := [{ channel, subjectTemplate := some "Hello", bodyTemplate := some "First" }] }
      none) 10,
    Op.at (.createEnrollment
      { sequenceId := 0, crmTargetId := 0, outreachApproved := true
        approvalReason := "approved" } "operator" "enroll:ada") 20]

def discovery : Sequence where
  name := "discovery"
  createdAt := 10
  updatedAt := 10

def discoveryStep (channel : SequenceChannel) : SequenceStep where
  sequenceId := 0
  stepOrder := 1
  channel := channel
  subjectTemplate := some "Hello"
  bodyTemplate := some "First"
  requiresApproval := requiresApproval channel none

def adaEnrollment : SequenceEnrollment where
  sequenceId := 0
  crmTargetId := 0
  contactId := 0
  approvalActor := "operator"
  approvalReason := "approved"
  nextStepAt := some 20
  idempotencyKey := "enroll:ada"
  createdAt := 20
  updatedAt := 20

/-- Whatever the channel, ada's step is due and nothing speaks against it. -/
theorem ada_due (channel : SequenceChannel) :
    DueStep { now := 30 } 0 adaEnrollment discovery 0 (discoveryStep channel) ada
      "ada@corp.example" (runCalls deployment (enrollIn channel)).store := by
  have hcapacity : (rateLimitBlocker { now := 30 } "ada@corp.example"
      (lower ({ } : Settings).smtpFromAddress) channel discovery
      (runCalls deployment (enrollIn channel)).store).toOption = some none := by
    cases channel <;> decide +kernel
  constructor
  case capacity =>
    intro reason hblocked
    have hlimited := congrArg Except.toOption hblocked
    rw [show (discoveryStep channel).channel = channel from rfl] at hlimited
    rw [hcapacity] at hlimited
    cases hlimited
  case clear =>
    have hnone : (runCalls deployment (enrollIn channel)).store.suppressions = [] := by
      cases channel <;> decide +kernel
    rw [hnone]
    intro row hrow
    cases hrow
  all_goals cases channel <;> decide +kernel

/-- The Google Meet step of an accepted definition suppresses the enrollment. -/
theorem meet_step_suppresses :
    ReachableWorld (runCalls deployment (enrollIn .googleMeet)) ∧
      DueStep { now := 30 } 0 adaEnrollment discovery 0 (discoveryStep .googleMeet) ada
        "ada@corp.example" (runCalls deployment (enrollIn .googleMeet)).store ∧
      ¬ OpensStep { now := 30 } 0 0 (runCalls deployment (enrollIn .googleMeet)) ∧
      (after (sendNextSequenceStep { now := 30 } 0)
        (runCalls deployment (enrollIn .googleMeet))).store.enrollments.map (·.status) =
          [.suppressed] := by
  refine ⟨⟨deployment, enrollIn .googleMeet, deployment_initial, rfl⟩, ada_due _, ?_, ?_⟩
  · rintro ⟨outcome, w', a, activity, hrun, hopened, -⟩
    have hanswer : (Lib.returned (sendNextSequenceStep { now := 30 } 0)
        (runCalls deployment (enrollIn .googleMeet))).bind (·.activityId) = none := by
      decide +kernel
    rw [Lib.returned, hrun, Option.bind_some, hopened] at hanswer
    cases hanswer
  · decide +kernel

/-- A due call step opens. -/
theorem call_step_opens :
    OpensStep { now := 30 } 0 0 (runCalls deployment (enrollIn .call)) :=
  (due_step_opens_iff { now := 30 } 0 adaEnrollment discovery 0 (discoveryStep .call) ada
    "ada@corp.example" (runCalls deployment (enrollIn .call))
    ⟨deployment, enrollIn .call, deployment_initial, rfl⟩ (ada_due .call)).mpr
      (by decide +kernel)

end DiscoverySequence

end GhostRecon
