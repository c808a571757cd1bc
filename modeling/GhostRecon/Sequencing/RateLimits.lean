import GhostRecon.Sequencing.Operations
import GhostRecon.Lib.Counting

/-!
The daily limits. The limiter counts the rows that are marked as sent, the
limits are about the mail the server took. The invariant says that every mail
taken in the last day still has a row of its own that is counted; it survives
every call except one that marks such a row anew, or that sends a mail whose
addresses are not the ones the limiter looked at.
-/

namespace GhostRecon

open Lib (Id Table KeepsCounted after)
open Std.Do

set_option mvcgen.warning false

/-- The limits that all sequences share. -/
structure DailyLimits where
  domain : Int
  sender : Int
  channel : Int
  deriving DecidableEq, Repr

/-- The server took the mail. -/
def MailAttempt.accepted (attempt : MailAttempt) : Bool :=
  attempt.outcome.toOption.isSome

/-- The attempt was made within the day before a time. -/
def MailAttempt.within (attempt : MailAttempt) (time : Time) : Bool :=
  attempt.time ≤ time && time ≤ attempt.time + 86400

/-- The limiter counts the row at a time. -/
def OutboundEmail.counts (mail : OutboundEmail) (now : Time) : Bool :=
  mail.status == .sent && mail.sentAt.any (fun sentAt => now ≤ sentAt + 86400)

section Limits

variable [Casing]

/-- At every point in time the server has taken no more mail of the last day
than the limits allow, to one domain, from one sender and on the channel. -/
structure WithinLimits (limits : DailyLimits) (mail : List MailAttempt) : Prop where
  domain : ∀ (time : Time) (domain : Option String),
    (mail.countP fun attempt => attempt.accepted && attempt.within time &&
      domainFromEmail (some attempt.request.toEmail) == domain) ≤ limits.domain
  sender : ∀ (time : Time) (sender : String),
    (mail.countP fun attempt => attempt.accepted && attempt.within time &&
      lower attempt.request.fromEmail == lower sender) ≤ limits.sender
  channel : ∀ time : Time,
    (mail.countP fun attempt => attempt.accepted && attempt.within time) ≤ limits.channel

/-- Every sequence has the given limits, by its own policy or by default. -/
def sharesLimits (limits : DailyLimits) (rt : Runtime) (s : Store) : Bool :=
  s.sequences.all fun sequence =>
    (dailyLimit sequence.rateLimitPolicy.domainDailyLimit
        rt.settings.sequenceDomainDailyLimit).toOption == some limits.domain &&
      (dailyLimit sequence.rateLimitPolicy.senderDailyLimit
        rt.settings.sequenceSenderDailyLimit).toOption == some limits.sender &&
      (dailyLimit sequence.rateLimitPolicy.channelDailyLimit
        rt.settings.sequenceChannelDailyLimit).toOption == some limits.channel

/-- The approved mail is the one the checks were about: it goes to the domain of
the contact, from the sender address of the settings. -/
def Approval.asChecked (p : Approval) (rt : Runtime) (s : Store) : Bool :=
  (s.contacts[p.enrollment.contactId]?).all (fun contact =>
      domainFromEmail (some p.outbound.toEmail) ==
        domainFromEmail (some (contact.email.getD ""))) &&
    lower p.outbound.fromEmail == lower (lower rt.settings.smtpFromAddress)

/-- The call keeps the limiter's count true: no bounce and no scheduler round
reaches a mail that is counted, and an approval, of an email step, sends a mail
that is not counted yet, that is the one it checked, and that it can record. -/
def Call.accountable (c : Call) (w : DbWorld) : Bool :=
  match c.op with
  | .inbound request key =>
    request.eventType != .bounce ||
      (w.store.inboundEvents.first? (·.idempotencyKey == key)).isSome ||
      (findOutboundForInbound w.store request).all fun found => !found.2.counts c.rt.now
  | .sendNext e =>
    match w.store.enrollments[e]? with
    | none => true
    | some row =>
      match planNextStep c.rt row w.store with
      | .ok (.draft stepId _ _ _ _) =>
        (w.store.outboundEmails.first? (·.idempotencyKey == (e, stepId))).all
          fun found => !found.2.counts c.rt.now
      | _ => true
  | .sendApproved a actor sender =>
    match prepareApproval c.rt a w with
    | .ok (some p) w' =>
      !p.outbound.counts c.rt.now && p.step.channel == .email &&
        match sender p.request with
        | .error _ => true
        | .ok _ =>
          p.asChecked c.rt w.store && (p.settle c.rt actor sender w').store.constraintsOk
    | _ => true
  | _ => true

end Limits

section Frames

variable [Casing]

/-- A call that leaves the mails and the outside's view of them alone. -/
structure SparesMail (w w' : DbWorld) : Prop where
  rows : w'.store.outboundEmails = w.store.outboundEmails
  mail : w'.external.mail = w.external.mail

omit [Casing] in
theorem SparesMail.refl (w : DbWorld) : SparesMail w w :=
  ⟨rfl, rfl⟩

omit [Casing] in
theorem SparesMail.trans {a b c : DbWorld} (hab : SparesMail a b) (hbc : SparesMail b c) :
    SparesMail a c :=
  ⟨hbc.rows.trans hab.rows, hbc.mail.trans hab.mail⟩

omit [Casing] in
theorem sessionScope_spares {α : Type} {body : Tx α} {w : DbWorld}
    (h : ⦃fun v => ⌜v = w⌝⦄ body
      ⦃post⟨fun _ v => ⌜SparesMail w v⌝,
        fun _ v => ⌜SparesMail w { v with store := w.store }⌝⟩⦄) :
    SparesMail w (after (sessionScope body) w) := by
  have hrestore : ∀ v, SparesMail w v → SparesMail w { v with store := w.store } := by
    intro v hv
    exact ⟨rfl, hv.mail⟩
  exact (Lib.sessionScope_relates (R := SparesMail w) hrestore h).1

omit [Casing] in
@[simp] theorem advanceEnrollment_outboundEmails {s : Store} {now : Time} {e : Id}
    {loaded : SequenceEnrollment} {step : SequenceStep} :
    (advanceEnrollment now e loaded step s).outboundEmails = s.outboundEmails := by
  rcases advanceEnrollment_eq now e loaded step s with hdone | ⟨order, due, hnext⟩
  · rw [hdone]
    rfl
  · rw [hnext]
    rfl

omit [Casing] in
theorem createSequence_spares (rt : Runtime) (request : SequenceCreateRequest)
    (key : Option String) (w : DbWorld) :
    SparesMail w (after (createSequence rt request key) w) := by
  apply sessionScope_spares
  mvcgen [flush, Lib.flush]
  all_goals subst_vars
  all_goals exact ⟨rfl, rfl⟩

omit [Casing] in
theorem updateSequence_spares (rt : Runtime) (q : Id) (request : SequenceUpdateRequest)
    (w : DbWorld) : SparesMail w (after (updateSequence rt q request) w) := by
  apply sessionScope_spares
  mvcgen [flush, Lib.flush]
  all_goals subst_vars
  all_goals exact ⟨rfl, rfl⟩

omit [Casing] in
theorem archiveSequence_spares (rt : Runtime) (q : Id) (w : DbWorld) :
    SparesMail w (after (archiveSequence rt q) w) := by
  apply sessionScope_spares
  mvcgen
  all_goals subst_vars
  all_goals exact ⟨rfl, rfl⟩

theorem createSuppression_spares (rt : Runtime) (request : SuppressionCreate) (key : String)
    (w : DbWorld) : SparesMail w (after (createSuppression rt request key) w) := by
  apply sessionScope_spares
  mvcgen [flush, Lib.flush]
  all_goals subst_vars
  all_goals exact ⟨rfl, rfl⟩

omit [Casing] in
theorem setEnrollmentStatus_spares (rt : Runtime) (e : Id) (status : EnrollmentStatus)
    (reason : String) (event : Option EventName) (w : DbWorld) :
    SparesMail w (after (setEnrollmentStatus rt e status reason event) w) := by
  apply sessionScope_spares
  mvcgen
  all_goals subst_vars
  all_goals try exact ⟨rfl, rfl⟩
  all_goals refine ⟨?_, rfl⟩
  all_goals unfold setStatus
  all_goals cases event <;> rfl

omit [Casing] in
theorem resumeSequenceEnrollment_spares (rt : Runtime) (e : Id) (w : DbWorld) :
    SparesMail w (after (resumeSequenceEnrollment rt e) w) := by
  apply sessionScope_spares
  mvcgen
  all_goals subst_vars
  all_goals exact ⟨rfl, rfl⟩

omit [Casing] in
theorem completeSequenceActivity_spares (rt : Runtime) (a : Id)
    (request : SequenceActivityActionRequest) (actor : String) (w : DbWorld) :
    SparesMail w (after (completeSequenceActivity rt a request actor) w) := by
  apply sessionScope_spares
  mvcgen
  all_goals subst_vars
  all_goals try exact ⟨rfl, rfl⟩
  all_goals refine ⟨?_, rfl⟩
  all_goals simp [finishActivity, Store.updateActivity]

theorem createSequenceEnrollment_spares (rt : Runtime)
    (request : SequenceEnrollmentCreateRequest) (actor key : String) (w : DbWorld) :
    SparesMail w (after (createSequenceEnrollment rt request actor key) w) := by
  unfold createSequenceEnrollment
  split
  · exact SparesMail.refl _
  · apply sessionScope_spares
    mvcgen [flush, Lib.flush, Lib.queryOrRaise]
    all_goals subst_vars
    all_goals exact ⟨rfl, rfl⟩

omit [Casing] in
@[simp] theorem recordMeeting_outboundEmails {s : Store} {now : Time} {meetingId : Id}
    {result : CalendarEventResult} {enrollment : Option (Id × SequenceEnrollment)} :
    (recordMeeting now meetingId result enrollment s).outboundEmails = s.outboundEmails := by
  cases enrollment with
  | none => rfl
  | some found =>
    obtain ⟨e, row⟩ := found
    by_cases hactive : row.status = .active
    · simp only [recordMeeting, completeBooked, hactive, if_true]
      rfl
    · simp only [recordMeeting, completeBooked, hactive, if_false]
      rfl

theorem createMeeting_spares (rt : Runtime) (request : MeetingCreateRequest)
    (actor key : String) (client : CalendarClient) (w : DbWorld) :
    SparesMail w (after (createMeeting rt request actor key client) w) := by
  unfold createMeeting
  split
  · exact SparesMail.refl _
  · apply sessionScope_spares
    mvcgen [flush, Lib.flush, Lib.queryOrRaise]
    all_goals subst_vars
    all_goals try exact ⟨rfl, rfl⟩
    all_goals refine ⟨?_, rfl⟩
    all_goals rw [recordMeeting_outboundEmails]
    all_goals rfl

omit [Casing] in
theorem linkMeeting_spares (rt : Runtime) (a : Id) (actor : String) (meetingId : Id)
    (w : DbWorld) : SparesMail w (after (linkMeeting rt a actor meetingId) w) := by
  apply sessionScope_spares
  mvcgen
  all_goals subst_vars
  all_goals try exact ⟨rfl, rfl⟩
  all_goals refine ⟨?_, rfl⟩
  all_goals simp [scheduleActivity, Store.updateActivity]

omit [Casing] in
theorem meetingContext_spares (a : Id) (w : DbWorld) :
    SparesMail w (after (meetingContext a) w) := by
  apply sessionScope_spares
  mvcgen
  all_goals subst_vars
  all_goals exact ⟨rfl, rfl⟩

theorem scheduleSequenceMeetingActivity_spares (rt : Runtime) (a : Id)
    (request : SequenceActivityScheduleMeetingRequest) (actor : String)
    (client : CalendarClient) (w : DbWorld) :
    SparesMail w (after (scheduleSequenceMeetingActivity rt a request actor client) w) := by
  unfold scheduleSequenceMeetingActivity
  apply Lib.bind_relates (R := SparesMail) SparesMail.trans (meetingContext_spares a w)
  intro context w' _
  cases context with
  | none => exact SparesMail.refl _
  | some found =>
    obtain ⟨activity, enrollment⟩ := found
    dsimp only
    split
    · exact SparesMail.refl _
    · apply Lib.bind_relates (R := SparesMail) SparesMail.trans
        (createMeeting_spares rt _ actor _ client w')
      intro meetingId w'' _
      exact linkMeeting_spares rt a actor meetingId w''

theorem verifyEmailCandidates_spares (rt : Runtime) (request : EmailVerifyBatchRequest)
    (verifier : List String → Except String VerificationResults) (w : DbWorld) :
    SparesMail w (after (verifyEmailCandidates rt request verifier) w) := by
  obtain ⟨hbatch, -⟩ := verifyEmailCandidates_readdresses rt request verifier w
  exact ⟨hbatch.aside.outboundEmails, hbatch.mail⟩

omit [Casing] in
theorem elsewhere_spares (rows : Prospects) (w : DbWorld) :
    SparesMail w (after (sessionScope (Lib.write rows.install)) w) := by
  apply sessionScope_spares
  mvcgen
  all_goals subst_vars
  exact ⟨rfl, rfl⟩

/-- The rows counted at a time stay, and all mail stays on the email channel. -/
structure KeepsMails (now : Time) (before after : Table OutboundEmail) : Prop where
  counted : KeepsCounted (·.counts now) before after
  channel : (∀ mail ∈ before, mail.channel = .email) → ∀ mail ∈ after, mail.channel = .email

omit [Casing] in
theorem KeepsMails.refl {now : Time} (mails : Table OutboundEmail) :
    KeepsMails now mails mails :=
  ⟨KeepsCounted.refl mails, fun h => h⟩

omit [Casing] in
theorem KeepsMails.trans {now : Time} {a b c : Table OutboundEmail}
    (hab : KeepsMails now a b) (hbc : KeepsMails now b c) : KeepsMails now a c :=
  ⟨hab.counted.trans hbc.counted, fun h => hbc.channel (hab.channel h)⟩

omit [Casing] in
/-- A mail that is not counted may be marked anew. -/
theorem keepsMails_modify {now : Time} {mails : Table OutboundEmail} {o : Id}
    {f : OutboundEmail → OutboundEmail}
    (hfree : ∀ mail, mails[o]? = some mail → mail.counts now = false)
    (hchannel : ∀ mail, (f mail).channel = mail.channel) :
    KeepsMails now mails (mails.modify o f) := by
  refine ⟨KeepsCounted.modify hfree, ?_⟩
  intro hemail mail hmail
  obtain ⟨i, hi⟩ := List.mem_iff_getElem?.mp hmail
  rw [List.getElem?_modify] at hi
  obtain ⟨old, hold, hnew⟩ := Option.map_eq_some_iff.mp hi
  have holdEmail := hemail old (List.mem_of_getElem? hold)
  split at hnew
  · rw [← hnew, hchannel]
    exact holdEmail
  · rw [← hnew]
    exact holdEmail

omit [Casing] in
theorem keepsMails_append {now : Time} {mails : Table OutboundEmail} {mail : OutboundEmail}
    (hchannel : mail.channel = .email) : KeepsMails now mails (mails ++ [mail]) := by
  refine ⟨KeepsCounted.append mails [mail], ?_⟩
  intro hemail row hrow
  rcases List.mem_append.mp hrow with hold | hnew
  · exact hemail row hold
  · rw [List.mem_singleton.mp hnew]
    exact hchannel

omit [Casing] in
theorem KeepsMails.of_eq {now : Time} {before after : Table OutboundEmail}
    (h : after = before) : KeepsMails now before after := by
  rw [h]
  exact KeepsMails.refl before

omit [Casing] in
/-- The rows of a session that may mark some anew. -/
theorem sessionScope_keepsMails {α : Type} {body : Tx α} {w : DbWorld} {now : Time}
    (h : ⦃fun v => ⌜v = w⌝⦄ body
      ⦃post⟨fun _ v => ⌜KeepsMails now w.store.outboundEmails v.store.outboundEmails⌝,
        fun _ _ => ⌜True⌝⟩⦄) :
    KeepsMails now w.store.outboundEmails
      (after (sessionScope body) w).store.outboundEmails :=
  (Lib.sessionScope_keeps
    (I := fun s : Store => KeepsMails now w.store.outboundEmails s.outboundEmails)
    (KeepsMails.refl _) h).1

omit [Casing] in
@[simp] theorem recordReply_outboundEmails {s : Store} {now : Time} {event : Id}
    {enrollment : Option (Id × SequenceEnrollment)} :
    (recordReply now event enrollment s).outboundEmails = s.outboundEmails := by
  cases enrollment <;> rfl

omit [Casing] in
@[simp] theorem recordUnsubscribe_outboundEmails {s : Store} {now : Time} {event : Id}
    {enrollment : Option Id} :
    (recordUnsubscribe now event enrollment s).outboundEmails = s.outboundEmails := by
  cases enrollment <;> rfl

omit [Casing] in
theorem recordBounce_keepsMails {s : Store} {now : Time} {event : Id}
    {outbound enrollment : Option Id}
    (hfree : ∀ o mail, outbound = some o → s.outboundEmails[o]? = some mail →
      mail.counts now = false) :
    KeepsMails now s.outboundEmails
      (recordBounce now event outbound enrollment s).outboundEmails := by
  have hpaused : (recordBounce now event outbound enrollment s).outboundEmails =
      (markBounced now outbound s).outboundEmails := by
    cases enrollment <;> rfl
  rw [hpaused]
  cases outbound with
  | none => exact KeepsMails.refl _
  | some o =>
    exact keepsMails_modify (fun mail hmail => hfree o mail rfl hmail) fun _ => rfl

/-- The mail an inbound event answers is a stored row. -/
theorem findOutboundForInbound_stored {s : Store} {request : InboundEmailEventCreate} {o : Id}
    {mail : OutboundEmail} (h : findOutboundForInbound s request = some (o, mail)) :
    s.outboundEmails[o]? = some mail := by
  have hlatest : ∀ {p : OutboundEmail → Bool},
      s.outboundEmails.latest? p sentAtLe (·.sentAt) = some (o, mail) →
        s.outboundEmails[o]? = some mail := by
    intro p hfound
    exact (Table.latest?_some hfound).1
  unfold findOutboundForInbound at h
  by_cases hmessage : truthy request.providerMessageId = true
  · simp only [hmessage, if_true] at h
    split at h
    · next found hfound =>
      rw [h] at hfound
      exact hlatest hfound
    · split at h
      · exact hlatest h
      · cases h
  · rw [Bool.not_eq_true] at hmessage
    simp only [hmessage, Bool.false_eq_true, if_false] at h
    split at h
    · exact hlatest h
    · cases h

theorem processInboundEmailEvent_keepsMails (rt : Runtime) (request : InboundEmailEventCreate)
    (key : String) (w : DbWorld)
    (hfree : request.eventType = .bounce →
      w.store.inboundEvents.first? (·.idempotencyKey == key) = none →
      ∀ o mail, findOutboundForInbound w.store request = some (o, mail) →
        mail.counts rt.now = false) :
    KeepsMails rt.now w.store.outboundEmails
      (after (processInboundEmailEvent rt request key) w).store.outboundEmails := by
  apply sessionScope_keepsMails
  mvcgen [createUnsubscribeSuppression, flush, Lib.flush]
  all_goals subst_vars
  all_goals try exact KeepsMails.refl _
  · exact KeepsMails.of_eq (by rw [recordReply_outboundEmails]; rfl)
  · next s hfresh _ _ htype =>
    refine recordBounce_keepsMails (s := insertInboundEvent _ s.store) ?_
    intro o mail hfound hmail
    obtain ⟨found, hsome, heq⟩ := Option.map_eq_some_iff.mp hfound
    obtain ⟨o', mail'⟩ := found
    cases heq
    have hstored : s.store.outboundEmails[o']? = some mail' := findOutboundForInbound_stored hsome
    have hsame : s.store.outboundEmails[o']? = some mail := hmail
    rw [hstored] at hsame
    cases hsame
    exact hfree htype hfresh o' mail hsome
  · exact KeepsMails.of_eq (by rw [recordUnsubscribe_outboundEmails]; rfl)
  · exact KeepsMails.of_eq (by rw [recordUnsubscribe_outboundEmails]; rfl)
  · exact KeepsMails.of_eq (by rw [recordUnsubscribe_outboundEmails]; rfl)

/-- A draft is made for an email step only. -/
theorem planNextStep_draft_channel {rt : Runtime} {enrollment : SequenceEnrollment} {s : Store}
    {stepId : Id} {step : SequenceStep} {contact : Contact} {account : Option Account}
    {fromEmail : String}
    (h : planNextStep rt enrollment s = .ok (.draft stepId step contact account fromEmail)) :
    step.channel = .email := by
  unfold planNextStep at h
  split at h
  · cases h
  · split at h
    · cases h
    · split at h
      · cases h
      · split at h
        · cases h
        · split at h
          · cases h
          · simp only [bind, Except.bind] at h
            split at h
            · cases h
            · split at h
              · cases h
              · split at h
                · cases h
                · next hchannel =>
                  split at h
                  · cases h
                  · split at h
                    · cases h
                    · cases h
                      exact not_not.mp hchannel

omit [Casing] in
/-- Handing a step over to a person touches no mail. -/
theorem handOver_outboundEmails (now : Time) (e : Id) (row : SequenceStepActivity) (s : Store) :
    (clearNextStep now e (s.insertActivity row)).outboundEmails = s.outboundEmails :=
  rfl

omit [Casing] in
/-- Handing a drafted step over touches no mail. -/
theorem handOver_outboundEmails_attached (now : Time) (e a : Id) (o : Option Id) (s : Store) :
    (clearNextStep now e (attachOutbound a o s)).outboundEmails = s.outboundEmails :=
  rfl

theorem sendNextSequenceStep_keepsMails (rt : Runtime) (e : Id) (w : DbWorld)
    (hfree : ∀ row stepId step contact account fromEmail o mail,
      w.store.enrollments[e]? = some row →
      planNextStep rt row w.store = .ok (.draft stepId step contact account fromEmail) →
      w.store.outboundEmails.first? (·.idempotencyKey == (e, stepId)) = some (o, mail) →
        mail.counts rt.now = false) :
    KeepsMails rt.now w.store.outboundEmails
      (after (sendNextSequenceStep rt e) w).store.outboundEmails := by
  have hfound : ∀ {s : Store} {row stepId step contact account fromEmail o mail},
      s = w.store → s.enrollments[e]? = some row →
      planNextStep rt row s = .ok (.draft stepId step contact account fromEmail) →
      s.outboundEmails.first? (·.idempotencyKey == (e, stepId)) = some (o, mail) →
        KeepsMails rt.now s.outboundEmails (awaitApproval rt.now o s).outboundEmails := by
    rintro s row stepId step contact account fromEmail o mail rfl hrow hplan hfirst
    refine keepsMails_modify ?_ fun _ => rfl
    intro stored hstored
    rw [(Table.first?_some hfirst).1] at hstored
    cases hstored
    exact hfree row stepId step contact account fromEmail o mail hrow hplan hfirst
  have hdrafted : ∀ {s : Store} {row : SequenceEnrollment} {stepId : Id} {step : SequenceStep}
      {contact : Contact} {account : Option Account} {fromEmail subject body : String},
      planNextStep rt row s = .ok (.draft stepId step contact account fromEmail) →
        KeepsMails rt.now s.outboundEmails (awaitApproval rt.now s.outboundEmails.length
          (s.insertOutbound (draftFor rt.now e row stepId step contact fromEmail subject
            body))).outboundEmails := by
    intro s row stepId step contact account fromEmail subject body hplan
    refine (keepsMails_append (planNextStep_draft_channel hplan)).trans
      (keepsMails_modify ?_ fun _ => rfl)
    intro stored hstored
    rw [List.getElem?_concat_length] at hstored
    cases hstored
    rfl
  apply sessionScope_keepsMails
  mvcgen [performNextStep, outboundForStep, activityForStep, flush, Lib.flush,
    Lib.queryOrRaise]
  all_goals subst_vars
  all_goals try with_reducible exact KeepsMails.refl _
  · exact KeepsMails.refl _
  · exact KeepsMails.refl _
  · exact KeepsMails.refl _
  · exact KeepsMails.refl _
  · exact KeepsMails.refl _
  · exact KeepsMails.refl _
  · rw [handOver_outboundEmails_attached]
    exact hfound rfl ‹_› ‹_› ‹_›
  · rw [handOver_outboundEmails]
    exact hfound rfl ‹_› ‹_› ‹_›
  · rw [handOver_outboundEmails_attached]
    exact hdrafted ‹_›
  · rw [handOver_outboundEmails]
    exact hdrafted ‹_›

end Frames

section Steps

variable [Casing]

/-- Every call other than an approval keeps the counted mails, if it is
accountable. -/
theorem step_keepsMails {w : DbWorld} {c : Call} (h : c.accountable w = true)
    (hop : ∀ a actor sender, c.op ≠ .sendApproved a actor sender) :
    KeepsMails c.rt.now w.store.outboundEmails (step w c).store.outboundEmails := by
  obtain ⟨rt, op⟩ := c
  cases op with
  | createSequence request key => exact .of_eq (createSequence_spares rt request key w).rows
  | updateSequence q request => exact .of_eq (updateSequence_spares rt q request w).rows
  | archiveSequence q => exact .of_eq (archiveSequence_spares rt q w).rows
  | createEnrollment request actor key =>
    exact .of_eq (createSequenceEnrollment_spares rt request actor key w).rows
  | pause e reason => exact .of_eq (setEnrollmentStatus_spares rt e _ reason _ w).rows
  | resume e => exact .of_eq (resumeSequenceEnrollment_spares rt e w).rows
  | cancel e reason => exact .of_eq (setEnrollmentStatus_spares rt e _ reason _ w).rows
  | sendNext e =>
    apply sendNextSequenceStep_keepsMails rt e w
    intro row stepId step contact account fromEmail o mail hrow hplan hfirst
    simpa [Call.accountable, hrow, hplan, hfirst] using h
  | sendApproved a actor sender => exact absurd rfl (hop a actor sender)
  | completeActivity a request actor =>
    exact .of_eq (completeSequenceActivity_spares rt a request actor w).rows
  | scheduleMeeting a request actor client =>
    exact .of_eq (scheduleSequenceMeetingActivity_spares rt a request actor client w).rows
  | inbound request key =>
    apply processInboundEmailEvent_keepsMails rt request key w
    intro htype hfresh o mail hfound
    simpa [Call.accountable, htype, hfresh, hfound] using h
  | unsubscribe request key =>
    apply processInboundEmailEvent_keepsMails rt request.event key w
    intro htype
    cases htype
  | createMeeting request actor key client =>
    exact .of_eq (createMeeting_spares rt request actor key client w).rows
  | createSuppression request key =>
    exact .of_eq (createSuppression_spares rt request key w).rows
  | verifyEmails request verifier =>
    exact .of_eq (verifyEmailCandidates_spares rt request verifier w).rows
  | elsewhere rows => exact .of_eq (elsewhere_spares rows w).rows

omit [Casing] in
/-- A row that is counted at a later time is counted now. -/
theorem OutboundEmail.counts_of_later {mail : OutboundEmail} {now later : Time}
    (hle : now ≤ later) (h : mail.counts later = true) : mail.counts now = true := by
  simp only [OutboundEmail.counts, Bool.and_eq_true] at h ⊢
  refine ⟨h.1, ?_⟩
  obtain ⟨sentAt, hsent, hlater⟩ := (Option.any_eq_true _ _).mp h.2
  rw [hsent, Option.any_some, decide_eq_true_eq]
  rw [decide_eq_true_eq] at hlater
  exact le_trans hle hlater

/-- The invariant at a time of the clock: every mail taken in the last day has a
row of its own that is counted. -/
structure Balanced (w : DbWorld) (clock : Time) : Prop where
  past : ∀ attempt ∈ w.external.mail, attempt.time ≤ clock
  channel : ∀ mail ∈ w.store.outboundEmails, mail.channel = .email
  counted : ∀ now, clock ≤ now → ∀ test : String → String → Bool,
    (w.external.mail.countP fun attempt => attempt.accepted &&
        decide (now ≤ attempt.time + 86400) &&
        test attempt.request.toEmail attempt.request.fromEmail) ≤
      w.store.outboundEmails.countP fun mail =>
        mail.counts now && test mail.toEmail mail.fromEmail

omit [Casing] in
/-- What is kept of the rows counted at one time is kept at later times, for
every test. -/
theorem KeepsMails.countP_le {now later : Time} {before after : Table OutboundEmail}
    (h : KeepsMails now before after) (hle : now ≤ later) (test : String → String → Bool) :
    (before.countP fun mail => mail.counts later && test mail.toEmail mail.fromEmail) ≤
      after.countP fun mail => mail.counts later && test mail.toEmail mail.fromEmail := by
  refine (h.counted.mono ?_).countP_le
  intro row hrow
  rw [Bool.and_eq_true] at hrow
  exact OutboundEmail.counts_of_later hle hrow.1

omit [Casing] in
theorem Balanced.step {w w' : DbWorld} {clock now : Time} (h : Balanced w clock)
    (hclock : clock ≤ now) (hmail : w'.external.mail = w.external.mail)
    (hrows : KeepsMails now w.store.outboundEmails w'.store.outboundEmails) :
    Balanced w' now where
  past := by
    intro attempt hattempt
    rw [hmail] at hattempt
    exact le_trans (h.past attempt hattempt) hclock
  channel := hrows.channel h.channel
  counted := by
    intro later hlater test
    rw [hmail]
    exact le_trans (h.counted later (le_trans hclock hlater) test)
      (hrows.countP_le hlater test)

omit [Casing] in
/-- With all mail on the email channel the limiter's rows are the counted
ones. -/
theorem sentSince_email {s : Store} {now : Time}
    (hchannel : ∀ mail ∈ s.outboundEmails, mail.channel = .email) :
    sentSince now .email s = s.outboundEmails.filter (·.counts now) := by
  refine List.filter_congr ?_
  intro mail hmail
  rw [OutboundEmail.counts, hchannel mail hmail]
  simp

/-- What the limiter has found when it lets a mail pass. -/
theorem rateLimitBlocker_none {rt : Runtime} {toEmail fromEmail : String} {sequence : Sequence}
    {s : Store} {limits : DailyLimits}
    (hchannel : ∀ mail ∈ s.outboundEmails, mail.channel = .email)
    (hshared : sharesLimits limits rt s = true) (hsequence : sequence ∈ s.sequences)
    (h : rateLimitBlocker rt toEmail fromEmail .email sequence s = .ok none) :
    ((s.outboundEmails.countP fun mail => mail.counts rt.now &&
        domainFromEmail (some mail.toEmail) == domainFromEmail (some toEmail)) : Int) <
      limits.domain ∧
    ((s.outboundEmails.countP fun mail => mail.counts rt.now &&
        lower mail.fromEmail == lower fromEmail) : Int) < limits.sender ∧
    ((s.outboundEmails.countP fun mail => mail.counts rt.now) : Int) < limits.channel := by
  have hlimit : ∀ {entry : Option LimitValue} {fallback limit : Int},
      (dailyLimit entry fallback).toOption = some limit →
        dailyLimit entry fallback = .ok limit := by
    intro entry fallback limit hread
    cases hentry : dailyLimit entry fallback with
    | error e =>
      rw [hentry] at hread
      cases hread
    | ok found =>
      rw [hentry] at hread
      cases hread
      rfl
  have hlimits := List.all_eq_true.mp hshared sequence hsequence
  simp only [Bool.and_eq_true, beq_iff_eq] at hlimits
  obtain ⟨⟨hdomain, hsender⟩, hchannelLimit⟩ := hlimits
  simp only [rateLimitBlocker, hlimit hdomain, hlimit hsender, hlimit hchannelLimit, bind,
    Except.bind, sentSince_email hchannel, List.filter_filter] at h
  split at h
  · cases h
  · next hfirst =>
    split at h
    · cases h
    · next hsecond =>
      split at h
      · cases h
      · next hthird =>
        simp only [List.countP_eq_length_filter]
        refine ⟨?_, ?_, not_le.mp hthird⟩
        · have hcount := not_le.mp hfirst
          simpa [Bool.and_comm] using hcount
        · have hcount := not_le.mp hsecond
          simpa [Bool.and_comm] using hcount

/-- What the checks of an approval have established of the limits. -/
theorem checkApproval_limits {rt : Runtime} {enrollment : SequenceEnrollment}
    {step : SequenceStep} {s : Store} {contact : Contact} {fromEmail : String}
    (h : checkApproval rt enrollment step s = .ok (.inr (contact, fromEmail))) :
    fromEmail = lower rt.settings.smtpFromAddress ∧
      ∃ sequence, sequence ∈ s.sequences ∧
        rateLimitBlocker rt (contact.email.getD "") fromEmail step.channel sequence s =
          .ok none := by
  unfold checkApproval at h
  split at h
  · cases h
  · next sequence hsequence =>
    split at h
    · cases h
    · split at h
      · cases h
      · next found hfound =>
        cases hsendable : requireSendableContact found with
        | error e =>
          rw [hsendable] at h
          cases h
        | ok u =>
          simp only [hsendable, bind, Except.bind] at h
          split at h
          · cases h
          · split at h
            · cases h
            · split at h
              · cases h
              · next answer hanswer =>
                split at h
                · cases h
                · cases h
                  exact ⟨rfl, sequence, List.mem_of_getElem? hsequence, hanswer⟩

omit [Casing] in
theorem recordSent_outboundEmails (p : Approval) (rt : Runtime) (actor messageId : String)
    (s : Store) :
    (p.recordSent rt actor messageId s).outboundEmails =
      s.outboundEmails.modify p.outboundId fun mail =>
        { mail with
          attemptCount := p.outbound.attemptCount + 1
          status := .sent
          lastError := none
          retryAfterSeconds := none
          providerMessageId := some messageId
          sentAt := some rt.now
          updatedAt := rt.now } := by
  simp only [Approval.recordSent, Store.updateActivity, advanceEnrollment_outboundEmails]
  rfl

/-- Up to the call of the sender the rows are kept, and the mail to be sent is
the stored one if there was one. -/
theorem Prepared.rows {rt : Runtime} {w w' : DbWorld} {p : Approval} (h : Prepared rt w w' p)
    (hchannel : p.step.channel = .email) (now : Time) :
    KeepsMails now w.store.outboundEmails w'.store.outboundEmails ∧
      ∀ row, w.store.outboundEmails[p.outboundId]? = some row → row = p.outbound := by
  have hstored := h.outbound
  obtain ⟨contact, fromEmail, -, hdraft⟩ := h.drafted
  have hsame : w' = w → KeepsMails now w.store.outboundEmails w'.store.outboundEmails ∧
      ∀ row, w.store.outboundEmails[p.outboundId]? = some row → row = p.outbound := by
    rintro rfl
    refine ⟨KeepsMails.refl _, ?_⟩
    intro row hrow
    rw [hstored] at hrow
    exact (Option.some.inj hrow).symm
  rcases hdraft with ⟨-, hidle⟩ | ⟨-, ⟨mail, -, hidle⟩ | ⟨subject, body, hstore, hid⟩⟩
  · exact hsame hidle
  · exact hsame hidle
  · rw [hstore, hid]
    refine ⟨keepsMails_append hchannel, ?_⟩
    intro row hrow
    simp at hrow

omit [Casing] in
/-- A refused mail that was not counted is still not. -/
theorem recordFailure_keepsMails {p : Approval} {rt : Runtime} {error : String} {s : Store}
    (hstored : s.outboundEmails[p.outboundId]? = some p.outbound)
    (hfree : p.outbound.counts rt.now = false) :
    KeepsMails rt.now s.outboundEmails (p.recordFailure rt error s).outboundEmails := by
  refine keepsMails_modify ?_ fun _ => rfl
  intro mail hmail
  rw [hstored] at hmail
  cases hmail
  exact hfree

omit [Casing] in
/-- An attempt that a test does not take changes no count. -/
theorem countP_attempt_refused {x : External} {attempt : MailAttempt}
    {test : MailAttempt → Bool} (h : test attempt = false) :
    (x.attempt attempt).mail.countP test = x.mail.countP test := by
  simp [External.attempt, List.countP_append, h]

omit [Casing] in
theorem countP_attempt_accepted {x : External} {attempt : MailAttempt}
    {test : MailAttempt → Bool} (h : test attempt = true) :
    (x.attempt attempt).mail.countP test = x.mail.countP test + 1 := by
  simp [External.attempt, List.countP_append, h]

omit [Casing] in
/-- The invariant after a refused attempt. -/
theorem Balanced.refused {w w' : DbWorld} {clock now : Time} {attempt : MailAttempt}
    (h : Balanced w clock) (hclock : clock ≤ now) (htime : attempt.time = now)
    (hrefused : attempt.accepted = false) (hmail : w'.external.mail = (w.external.attempt attempt).mail)
    (hrows : KeepsMails now w.store.outboundEmails w'.store.outboundEmails) :
    Balanced w' now where
  past := by
    intro found hfound
    rw [hmail, External.attempt, List.mem_append, List.mem_singleton] at hfound
    rcases hfound with hold | rfl
    · exact le_trans (h.past found hold) hclock
    · exact le_of_eq htime
  channel := hrows.channel h.channel
  counted := by
    intro later hlater test
    rw [hmail, countP_attempt_refused (by simp [hrefused])]
    exact le_trans (h.counted later (le_trans hclock hlater) test)
      (hrows.countP_le hlater test)

omit [Casing] in
/-- The invariant after an accepted attempt: its row was not counted and now
is. -/
theorem Balanced.accepted {w w' : DbWorld} {clock now : Time} {attempt : MailAttempt} {o : Id}
    {new : OutboundEmail} (h : Balanced w clock) (hclock : clock ≤ now)
    (htime : attempt.time = now)
    (hmail : w'.external.mail = (w.external.attempt attempt).mail)
    (hrows : KeepsMails now w.store.outboundEmails w'.store.outboundEmails)
    (hold : ∀ row, w.store.outboundEmails[o]? = some row → row.counts now = false)
    (hnew : w'.store.outboundEmails[o]? = some new)
    (hsent : new.status = .sent ∧ new.sentAt = some now)
    (hsame : new.toEmail = attempt.request.toEmail ∧
      new.fromEmail = attempt.request.fromEmail) :
    Balanced w' now where
  past := by
    intro found hfound
    rw [hmail, External.attempt, List.mem_append, List.mem_singleton] at hfound
    rcases hfound with hold | rfl
    · exact le_trans (h.past found hold) hclock
    · exact le_of_eq htime
  channel := hrows.channel h.channel
  counted := by
    intro later hlater test
    have hbefore := h.counted later (le_trans hclock hlater) test
    rw [hmail]
    by_cases hcounted : (attempt.accepted && decide (later ≤ attempt.time + 86400) &&
        test attempt.request.toEmail attempt.request.fromEmail) = true
    · rw [countP_attempt_accepted hcounted]
      simp only [Bool.and_eq_true, decide_eq_true_eq] at hcounted
      have hkept : KeepsCounted
          (fun mail : OutboundEmail => mail.counts later && test mail.toEmail mail.fromEmail)
          w.store.outboundEmails w'.store.outboundEmails := by
        refine hrows.counted.mono ?_
        intro row hrow
        rw [Bool.and_eq_true] at hrow
        exact OutboundEmail.counts_of_later hlater hrow.1
      have hfree : ∀ row, w.store.outboundEmails[o]? = some row →
          (row.counts later && test row.toEmail row.fromEmail) = false := by
        intro row hrow
        cases hlate : row.counts later with
        | false => rfl
        | true =>
          have hnow := hold row hrow
          rw [OutboundEmail.counts_of_later hlater hlate] at hnow
          cases hnow
      have htaken : (new.counts later && test new.toEmail new.fromEmail) = true := by
        rw [hsame.1, hsame.2, hcounted.2, OutboundEmail.counts, hsent.1, hsent.2, ← htime]
        simpa using hcounted.1.2
      have hgained := hkept.countP_lt hfree hnew htaken
      omega
    · rw [countP_attempt_refused (by simpa using hcounted)]
      exact le_trans hbefore (hrows.countP_le hlater test)

omit [Casing] in
/-- Of the mail of a window that ends after an attempt, what was there before it
was made within the day before the attempt. -/
theorem countP_window_le (mail : List MailAttempt) {now time : Time} (hle : now ≤ time)
    (test : MailAttempt → Bool) :
    (mail.countP fun attempt => attempt.accepted && attempt.within time && test attempt) ≤
      mail.countP fun attempt =>
        attempt.accepted && decide (now ≤ attempt.time + 86400) && test attempt := by
  refine List.countP_mono_left ?_
  intro attempt _ hattempt
  simp only [MailAttempt.within, Bool.and_eq_true, decide_eq_true_eq] at hattempt ⊢
  exact ⟨⟨hattempt.1.1, le_trans hle hattempt.1.2.2⟩, hattempt.2⟩

omit [Casing] in
/-- One more attempt keeps a limit, if those of the last day were below it
before an accepted one. -/
theorem countP_attempt_le {x : External} {attempt : MailAttempt} {limit : Int}
    {test : MailAttempt → Bool} {time : Time}
    (hbefore : ((x.mail.countP fun other => other.accepted && other.within time && test other) :
      Int) ≤ limit)
    (hbelow : attempt.accepted = true → test attempt = true →
      ((x.mail.countP fun other => other.accepted &&
        decide (attempt.time ≤ other.time + 86400) && test other) : Int) < limit) :
    (((x.attempt attempt).mail.countP fun other =>
      other.accepted && other.within time && test other) : Int) ≤ limit := by
  by_cases htaken : (attempt.accepted && attempt.within time && test attempt) = true
  · rw [countP_attempt_accepted htaken]
    simp only [Bool.and_eq_true] at htaken
    obtain ⟨⟨haccepted, hwithin⟩, htest⟩ := htaken
    have hlater : attempt.time ≤ time := by
      simp only [MailAttempt.within, Bool.and_eq_true, decide_eq_true_eq] at hwithin
      exact hwithin.1
    have hwindow := countP_window_le x.mail hlater test
    have hcount := hbelow haccepted htest
    omega
  · rw [countP_attempt_refused (by simpa using htaken)]
    exact hbefore

theorem WithinLimits.attempt {limits : DailyLimits} {x : External} {attempt : MailAttempt}
    (h : WithinLimits limits x.mail)
    (hdomain : attempt.accepted = true →
      ((x.mail.countP fun other => other.accepted &&
        decide (attempt.time ≤ other.time + 86400) &&
        domainFromEmail (some other.request.toEmail) ==
          domainFromEmail (some attempt.request.toEmail)) : Int) < limits.domain)
    (hsender : attempt.accepted = true →
      ((x.mail.countP fun other => other.accepted &&
        decide (attempt.time ≤ other.time + 86400) &&
        lower other.request.fromEmail == lower attempt.request.fromEmail) : Int) < limits.sender)
    (hchannel : attempt.accepted = true →
      ((x.mail.countP fun other => other.accepted &&
        decide (attempt.time ≤ other.time + 86400)) : Int) < limits.channel) :
    WithinLimits limits (x.attempt attempt).mail where
  domain := by
    intro time domain
    refine countP_attempt_le (h.domain time domain) ?_
    intro haccepted htest
    rw [← beq_iff_eq.mp htest]
    exact hdomain haccepted
  sender := by
    intro time sender
    refine countP_attempt_le (h.sender time sender) ?_
    intro haccepted htest
    rw [← beq_iff_eq.mp htest]
    exact hsender haccepted
  channel := by
    intro time
    have hall : (((x.attempt attempt).mail.countP fun other =>
        other.accepted && other.within time && (fun _ => true) other) : Int) ≤ limits.channel :=
      countP_attempt_le (by simpa using h.channel time) (by simpa using hchannel)
    simpa using hall

/-- The limits and the invariant, at a time of the clock. -/
structure Disciplined (limits : DailyLimits) (w : DbWorld) (clock : Time) : Prop where
  balanced : Balanced w clock
  limits : WithinLimits limits w.external.mail

/-- The counts of the limiter bound those of the server. -/
theorem Balanced.below {w : DbWorld} {clock : Time} {rt : Runtime} {limits : DailyLimits}
    {enrollment : SequenceEnrollment} {step : SequenceStep} {contact : Contact}
    {fromEmail : String} (h : Balanced w clock) (hclock : clock ≤ rt.now)
    (hshared : sharesLimits limits rt w.store = true) (hemail : step.channel = .email)
    (hcheck : checkApproval rt enrollment step w.store = .ok (.inr (contact, fromEmail))) :
    ((w.external.mail.countP fun other => other.accepted &&
        decide (rt.now ≤ other.time + 86400) &&
        domainFromEmail (some other.request.toEmail) ==
          domainFromEmail (some (contact.email.getD ""))) : Int) < limits.domain ∧
      ((w.external.mail.countP fun other => other.accepted &&
        decide (rt.now ≤ other.time + 86400) &&
        lower other.request.fromEmail == lower (lower rt.settings.smtpFromAddress)) : Int) <
          limits.sender ∧
      ((w.external.mail.countP fun other => other.accepted &&
        decide (rt.now ≤ other.time + 86400)) : Int) < limits.channel := by
  obtain ⟨hfrom, sequence, hsequence, hpassed⟩ := checkApproval_limits hcheck
  rw [hemail, hfrom] at hpassed
  obtain ⟨hdomain, hsender, hchannel⟩ :=
    rateLimitBlocker_none h.channel hshared hsequence hpassed
  have hdomains := h.counted rt.now hclock fun toEmail _ =>
    domainFromEmail (some toEmail) == domainFromEmail (some (contact.email.getD ""))
  have hsenders := h.counted rt.now hclock fun _ fromEmail =>
    lower fromEmail == lower (lower rt.settings.smtpFromAddress)
  have hall := h.counted rt.now hclock fun _ _ => true
  simp only [Bool.and_true] at hall
  refine ⟨?_, ?_, ?_⟩
  · omega
  · omega
  · omega

/-- An accountable approval keeps the invariant and the limits. -/
theorem sendApproved_disciplined {w : DbWorld} {clock : Time} {rt : Runtime}
    {limits : DailyLimits} {a : Id} {actor : String} {sender : SmtpSendRequest → SmtpOutcome}
    (h : Disciplined limits w clock) (hclock : clock ≤ rt.now)
    (hshared : sharesLimits limits rt w.store = true)
    (haccountable : Call.accountable { rt, op := .sendApproved a actor sender } w = true) :
    Disciplined limits (after (sendApprovedSequenceEmail rt a actor sender) w) rt.now := by
  rcases sendApproved_cases rt a actor sender w with hidle | ⟨p, w', hrun, -, hp, hafter⟩
  · rw [hidle]
    exact ⟨h.balanced.step hclock rfl (KeepsMails.refl _), h.limits⟩
  · simp only [Call.accountable, hrun, Bool.and_eq_true, Bool.not_eq_true', beq_iff_eq]
      at haccountable
    obtain ⟨⟨hfree, hemail⟩, hsent⟩ := haccountable
    obtain ⟨hrows, hsame⟩ := hp.rows hemail rt.now
    have hold : ∀ row, w.store.outboundEmails[p.outboundId]? = some row →
        row.counts rt.now = false := by
      intro row hrow
      rw [hsame row hrow]
      exact hfree
    obtain ⟨contact, fromEmail, hcheck, -⟩ := hp.drafted
    obtain ⟨hcontact, -, -⟩ := checkApproval_passes hcheck
    have hmail : (after (sendApprovedSequenceEmail rt a actor sender) w).external.mail =
        (w.external.attempt
          { activityId := p.activityId
            request := p.request
            outcome := sender p.request
            time := rt.now
            observed := w'.store }).mail := by
      rw [hafter, Approval.settle, hp.external]
    cases houtcome : sender p.request with
    | error error =>
      have hkept : KeepsMails rt.now w.store.outboundEmails
          (after (sendApprovedSequenceEmail rt a actor sender) w).store.outboundEmails := by
        rw [hafter]
        dsimp only
        split
        · rw [Approval.settle, houtcome]
          exact hrows.trans (recordFailure_keepsMails hp.outbound hfree)
        · exact KeepsMails.refl _
      have hrefused : ∀ observed : Store, MailAttempt.accepted
          { activityId := p.activityId
            request := p.request
            outcome := sender p.request
            time := rt.now
            observed } = false := by
        intro observed
        rw [MailAttempt.accepted, houtcome]
        rfl
      refine ⟨h.balanced.refused hclock rfl (hrefused _) hmail hkept, ?_⟩
      rw [hmail]
      refine h.limits.attempt ?_ ?_ ?_
      all_goals
        intro haccepted
        rw [hrefused] at haccepted
        cases haccepted
    | ok messageId =>
      rw [houtcome] at hsent
      simp only [Bool.and_eq_true, Approval.asChecked, beq_iff_eq, hcontact,
        Option.all_some] at hsent
      obtain ⟨⟨hto, hfrom⟩, hcommits⟩ := hsent
      have hstore : (after (sendApprovedSequenceEmail rt a actor sender) w).store =
          p.recordSent rt actor messageId w'.store := by
        rw [hafter]
        dsimp only
        rw [if_pos hcommits, Approval.settle, houtcome]
        rfl
      have hmarked := recordSent_outboundEmails p rt actor messageId w'.store
      have hkept : KeepsMails rt.now w.store.outboundEmails
          (after (sendApprovedSequenceEmail rt a actor sender) w).store.outboundEmails := by
        rw [hstore, hmarked]
        refine hrows.trans (keepsMails_modify ?_ fun _ => rfl)
        intro mail hstored
        rw [hp.outbound] at hstored
        cases hstored
        exact hfree
      have hnew : (after (sendApprovedSequenceEmail rt a actor sender) w).store.outboundEmails[
          p.outboundId]? = some
            { p.outbound with
              attemptCount := p.outbound.attemptCount + 1
              status := .sent
              lastError := none
              retryAfterSeconds := none
              providerMessageId := some messageId
              sentAt := some rt.now
              updatedAt := rt.now } := by
        rw [hstore, hmarked, List.getElem?_modify_eq, hp.outbound]
        rfl
      obtain ⟨hdomain, hsender, hchannel⟩ := h.balanced.below hclock hshared hemail hcheck
      refine ⟨h.balanced.accepted hclock rfl hmail hkept hold hnew ⟨rfl, rfl⟩ ⟨rfl, rfl⟩, ?_⟩
      rw [hmail]
      refine h.limits.attempt ?_ ?_ ?_
      · intro _
        rw [show domainFromEmail (some p.request.toEmail) = _ from hto]
        exact hdomain
      · intro _
        rw [show lower p.request.fromEmail = _ from hfrom]
        exact hsender
      · intro _
        exact hchannel

theorem step_disciplined {w : DbWorld} {clock : Time} {c : Call} {limits : DailyLimits}
    (h : Disciplined limits w clock) (hclock : clock ≤ c.rt.now)
    (hshared : sharesLimits limits c.rt w.store = true) (haccountable : c.accountable w = true) :
    Disciplined limits (step w c) c.rt.now := by
  by_cases hop : ∃ a actor sender, c.op = .sendApproved a actor sender
  · obtain ⟨a, actor, sender, hop⟩ := hop
    obtain ⟨rt, op⟩ := c
    cases hop
    exact sendApproved_disciplined h hclock hshared haccountable
  · have hother : ∀ a actor sender, c.op ≠ .sendApproved a actor sender := by
      intro a actor sender heq
      exact hop ⟨a, actor, sender, heq⟩
    have hmail := (step_quiet (admits_any w c) hother).mail
    refine ⟨h.balanced.step hclock hmail (step_keepsMails haccountable hother), ?_⟩
    rw [hmail]
    exact h.limits

/-- The service with the time of its last call. -/
def timedStep (w : DbWorld × Time) (c : Call) : DbWorld × Time :=
  (step w.1 c, c.rt.now)

/-- What the limits presuppose: the clock does not go back, and every sequence
has the same limits. -/
def Regular (limits : DailyLimits) (w : DbWorld × Time) (c : Call) : Prop :=
  w.2 ≤ c.rt.now ∧ sharesLimits limits c.rt w.1.store = true

instance (limits : DailyLimits) (w : DbWorld × Time) (c : Call) : Decidable (Regular limits w c) :=
  inferInstanceAs (Decidable (_ ∧ _))

def InOrder (limits : DailyLimits) (w : DbWorld × Time) (c : Call) : Prop :=
  Regular limits w c ∧ c.accountable w.1 = true

instance (limits : DailyLimits) (w : DbWorld × Time) (c : Call) : Decidable (InOrder limits w c) :=
  inferInstanceAs (Decidable (_ ∧ _))

theorem timed_run (w : DbWorld) (clock : Time) (calls : List Call) :
    (Lib.run timedStep (w, clock) calls).1 = runCalls w calls := by
  induction calls generalizing w clock with
  | nil => rfl
  | cons c rest ih => exact ih (step w c) c.rt.now

end Steps

section Bounce

def bob : Contact :=
  { ada with fullName := "Bob", email := some "bob@corp.example" }

def bobTarget : CrmTarget :=
  { adaTarget with targetId := 1, idempotencyKey := "target:bob" }

/-- A fresh deployment that knows two contacts of one domain. -/
def twoContacts : DbWorld where
  store := { contacts := [ada, bob], crmTargets := [adaTarget, bobTarget] }
  external := {}

theorem twoContacts_initial : Initial twoContacts where
  constraints := by decide +kernel
  enrollments := rfl
  activities := rfl
  outboundEmails := rfl
  inboundEvents := rfl
  outbox := rfl
  mail := rfl

/-- One mail a day to a domain. -/
def tightLimits : DailyLimits where
  domain := 1
  sender := 200
  channel := 500

def Op.limited (op : Op) (now : Time) : Call where
  rt := { now, settings := { sequenceDomainDailyLimit := 1 } }
  op := op

/-- Both contacts are enrolled, their mails drafted, and the first one sent. -/
def sendFirst : List Call :=
  [Op.limited (.createSequence
      { name := "outreach"
        steps := [{ subjectTemplate := some "Hello", bodyTemplate := some "First" }] } none) 10,
    Op.limited (.createEnrollment
      { sequenceId := 0, crmTargetId := 0, outreachApproved := true
        approvalReason := "approved" } "operator" "enroll:ada") 20,
    Op.limited (.createEnrollment
      { sequenceId := 0, crmTargetId := 1, outreachApproved := true
        approvalReason := "approved" } "operator" "enroll:bob") 21,
    Op.limited (.sendNext 0) 30, Op.limited (.sendNext 1) 31,
    Op.limited (.sendApproved 0 "operator" acceptMail) 40]

/-- The first mail bounces, and the second one is approved. -/
def bounceThenSend : List Call :=
  sendFirst ++
    [Op.limited (.inbound { eventType := .bounce, providerMessageId := some "message-1" }
        "bounce:1") 50,
      Op.limited (.sendApproved 1 "operator" acceptMail) 60]

end Bounce

end GhostRecon
