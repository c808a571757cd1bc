import GhostRecon.Sequencing.Operations

/-!
Whom an approved mail reaches. The checks of an approval look at the contact as
it is now, the mail goes to the address that was frozen when it was drafted. An
invariant ties drafts, activities and contacts together: an email activity has
its draft, a draft belongs to the contact of its enrollment, and as long as its
activity waits it carries that contact's address. The last part survives every
call except one that readdresses a contact while a draft for it waits.
-/

namespace GhostRecon

open Lib (Id Table Chain after)

/-- The activity of the mail's step is no longer waiting for approval. -/
def OutboundEmail.settled (mail : OutboundEmail) (activities : Table SequenceStepActivity) :
    Bool :=
  activities.any fun activity =>
    activity.idempotencyKey == mail.idempotencyKey && !activity.status.awaits

/-- The mail carries the address its contact has now. -/
def OutboundEmail.current (mail : OutboundEmail) (contacts : Table Contact) : Prop :=
  ∀ contact, contacts[mail.contactId]? = some contact → contact.email = some mail.toEmail

/-- Every email activity has the mail of its step. -/
def DraftsAttached (s : Store) : Prop :=
  ∀ (a : Id) (activity : SequenceStepActivity), s.activities[a]? = some activity →
    activity.channel = .email →
      ∃ o, activity.outboundEmailId = some o ∧ MailFor s activity.idempotencyKey o

/-- Every mail belongs to the contact of its enrollment. -/
def DraftsLinked (s : Store) : Prop :=
  ∀ (o : Id) (mail : OutboundEmail), s.outboundEmails[o]? = some mail →
    ∃ enrollment : SequenceEnrollment,
      s.enrollments[mail.enrollmentId]? = some enrollment ∧
        enrollment.contactId = mail.contactId

/-- Every mail whose activity waits carries the address of its contact. -/
def DraftsCurrent (s : Store) : Prop :=
  ∀ (o : Id) (mail : OutboundEmail), s.outboundEmails[o]? = some mail →
    mail.settled s.activities = true ∨ mail.current s.contacts

section Attached

theorem MailFor.mono {s s' : Store} {key : Id × Id} {o : Id} (h : MailFor s key o)
    (hmails : ∀ (i : Id) (mail : OutboundEmail), s.outboundEmails[i]? = some mail →
      ∃ mail' : OutboundEmail, s'.outboundEmails[i]? = some mail' ∧
        mail'.idempotencyKey = mail.idempotencyKey) : MailFor s' key o := by
  obtain ⟨mail, hstored, hkey⟩ := h
  obtain ⟨mail', hstored', hkey'⟩ := hmails o mail hstored
  exact ⟨mail', hstored', hkey'.trans hkey⟩

/-- The mail a write leaves at a position, seen from the mail that was there. -/
theorem Write.keeps_mail {label : Label} {s s' : Store} (h : Write label s s') (i : Id)
    (mail : OutboundEmail) (hmail : s.outboundEmails[i]? = some mail) :
    ∃ mail' : OutboundEmail, s'.outboundEmails[i]? = some mail' ∧
      mail'.idempotencyKey = mail.idempotencyKey := by
  cases h with
  | aside h _ =>
    rw [h.outboundEmails]
    exact ⟨mail, hmail, rfl⟩
  | prospects h =>
    rw [h.outboundEmails]
    exact ⟨mail, hmail, rfl⟩
  | draft _ _ _ => exact ⟨mail, Table.get_of_prefix (List.prefix_append _ _) i mail hmail, rfl⟩
  | mail hkept =>
    rename_i o f
    by_cases ho : o = i
    · subst ho
      refine ⟨f mail, ?_, (hkept mail).1⟩
      simp [Store.updateOutbound, hmail]
    · refine ⟨mail, ?_, rfl⟩
      rw [Store.updateOutbound, List.getElem?_modify_ne _ _ ho]
      exact hmail
  | enroll _ => exact ⟨mail, hmail, rfl⟩
  | enrollment _ _ _ _ => exact ⟨mail, hmail, rfl⟩
  | openActivity _ => exact ⟨mail, hmail, rfl⟩
  | activity _ _ _ => exact ⟨mail, hmail, rfl⟩

theorem Write.keeps_attached {label : Label} {s s' : Store} (h : Write label s s')
    (hs : DraftsAttached s) : DraftsAttached s' := by
  have hmails := h.keeps_mail
  have hold : ∀ (a : Id) (activity : SequenceStepActivity),
      s.activities[a]? = some activity → activity.channel = .email →
        ∃ o, activity.outboundEmailId = some o ∧ MailFor s' activity.idempotencyKey o := by
    intro a activity hactivity hchannel
    obtain ⟨o, ho, hmail⟩ := hs a activity hactivity hchannel
    exact ⟨o, ho, hmail.mono hmails⟩
  intro a activity hactivity hchannel
  cases h with
  | aside h _ =>
    rw [h.activities] at hactivity
    exact hold a activity hactivity hchannel
  | prospects h =>
    rw [h.activities] at hactivity
    exact hold a activity hactivity hchannel
  | draft _ _ _ => exact hold a activity hactivity hchannel
  | mail _ => exact hold a activity hactivity hchannel
  | enroll _ => exact hold a activity hactivity hchannel
  | enrollment _ _ _ _ => exact hold a activity hactivity hchannel
  | openActivity hnew =>
    rw [Store.insertActivity, List.getElem?_append] at hactivity
    split at hactivity
    · exact hold a activity hactivity hchannel
    · rw [List.getElem?_singleton] at hactivity
      split at hactivity
      · cases hactivity
        exact hnew hchannel
      · cases hactivity
  | activity hkey hmail hstatus =>
    rename_i a' f
    by_cases ha : a' = a
    · subst ha
      rw [Store.updateActivity, List.getElem?_modify_eq] at hactivity
      obtain ⟨old, hstored, rfl⟩ := Option.map_eq_some_iff.mp hactivity
      obtain ⟨henrollment, hstep, hchannel'⟩ := hkey old
      have hsamekey : (f old).idempotencyKey = old.idempotencyKey := by
        simp only [SequenceStepActivity.idempotencyKey, henrollment, hstep]
      rw [hsamekey]
      rcases hmail old hstored with hsame | hnew
      · rw [hsame]
        exact hold a' old hstored (hchannel'.symm.trans hchannel)
      · exact hnew
    · rw [Store.updateActivity, List.getElem?_modify_ne _ _ ha] at hactivity
      exact hold a activity hactivity hchannel

/-- A mail that a write leaves behind is the new draft, or stands for a mail that
was there before. -/
theorem Write.mail_cases {label : Label} {s s' : Store} (h : Write label s s') (i : Id)
    (mail' : OutboundEmail) (hmail' : s'.outboundEmails[i]? = some mail') :
    (∃ contact, label = .draft contact mail'.toEmail ∧
        s.contacts[mail'.contactId]? = some contact ∧
        ∃ enrollment, s.enrollments[mail'.enrollmentId]? = some enrollment ∧
          enrollment.contactId = mail'.contactId) ∨
      ∃ mail : OutboundEmail, s.outboundEmails[i]? = some mail ∧
        mail'.idempotencyKey = mail.idempotencyKey ∧ mail'.contactId = mail.contactId ∧
          mail'.toEmail = mail.toEmail := by
  have hsame : s'.outboundEmails = s.outboundEmails →
      ∃ mail : OutboundEmail, s.outboundEmails[i]? = some mail ∧
        mail'.idempotencyKey = mail.idempotencyKey ∧ mail'.contactId = mail.contactId ∧
          mail'.toEmail = mail.toEmail := by
    intro heq
    rw [heq] at hmail'
    exact ⟨mail', hmail', rfl, rfl, rfl⟩
  cases h with
  | aside h _ => exact Or.inr (hsame h.outboundEmails)
  | prospects h => exact Or.inr (hsame h.outboundEmails)
  | draft henrollment hcontact hstored =>
    rw [Store.insertOutbound, List.getElem?_append] at hmail'
    split at hmail'
    · exact Or.inr ⟨mail', hmail', rfl, rfl, rfl⟩
    · rw [List.getElem?_singleton] at hmail'
      split at hmail'
      · cases hmail'
        exact Or.inl ⟨_, rfl, hstored, _, henrollment, hcontact⟩
      · cases hmail'
  | mail hkept =>
    rename_i o f
    right
    by_cases ho : o = i
    · subst ho
      rw [Store.updateOutbound, List.getElem?_modify_eq] at hmail'
      obtain ⟨mail, hstored, rfl⟩ := Option.map_eq_some_iff.mp hmail'
      exact ⟨mail, hstored, hkept mail⟩
    · rw [Store.updateOutbound, List.getElem?_modify_ne _ _ ho] at hmail'
      exact ⟨mail', hmail', rfl, rfl, rfl⟩
  | enroll _ => exact Or.inr (hsame rfl)
  | enrollment _ _ _ _ => exact Or.inr (hsame rfl)
  | openActivity _ => exact Or.inr (hsame rfl)
  | activity _ _ _ => exact Or.inr (hsame rfl)

/-- An enrollment keeps its contact. -/
theorem Write.keeps_contact {label : Label} {s s' : Store} (h : Write label s s') (e : Id)
    (row : SequenceEnrollment) (hrow : s.enrollments[e]? = some row) :
    ∃ row' : SequenceEnrollment, s'.enrollments[e]? = some row' ∧
      row'.contactId = row.contactId := by
  cases h with
  | aside h _ =>
    rw [h.enrollments]
    exact ⟨row, hrow, rfl⟩
  | prospects h =>
    rw [h.enrollments]
    exact ⟨row, hrow, rfl⟩
  | draft _ _ _ => exact ⟨row, hrow, rfl⟩
  | mail _ => exact ⟨row, hrow, rfl⟩
  | enroll _ => exact ⟨row, Table.get_of_prefix (List.prefix_append _ _) e row hrow, rfl⟩
  | enrollment hold hcontact hchange hactivity =>
    rename_i e' old f
    by_cases he : e' = e
    · subst he
      obtain rfl : old = row := Option.some.inj (hold.symm.trans hrow)
      refine ⟨f old, ?_, hcontact⟩
      simp [Store.updateEnrollment, hold]
    · refine ⟨row, ?_, rfl⟩
      rw [Store.updateEnrollment, List.getElem?_modify_ne _ _ he]
      exact hrow
  | openActivity _ => exact ⟨row, hrow, rfl⟩
  | activity _ _ _ => exact ⟨row, hrow, rfl⟩

theorem Write.keeps_linked {label : Label} {s s' : Store} (h : Write label s s')
    (hs : DraftsLinked s) : DraftsLinked s' := by
  intro o mail' hmail'
  have hfound : ∃ enrollment : SequenceEnrollment,
      s.enrollments[mail'.enrollmentId]? = some enrollment ∧
        enrollment.contactId = mail'.contactId := by
    rcases h.mail_cases o mail' hmail' with ⟨_, -, -, hlinked⟩ | ⟨mail, hmail, hkey, hcontact, -⟩
    · exact hlinked
    · obtain ⟨henrollment, -⟩ := Prod.mk.inj hkey
      rw [henrollment, hcontact]
      exact hs o mail hmail
  obtain ⟨enrollment, hrow, hcontact⟩ := hfound
  obtain ⟨row', hrow', hcontact'⟩ := h.keeps_contact _ enrollment hrow
  exact ⟨row', hrow', hcontact'.trans hcontact⟩

/-- A mail that is settled stays settled. -/
theorem Write.keeps_settled {label : Label} {s s' : Store} (h : Write label s s')
    {mail : OutboundEmail} (hsettled : mail.settled s.activities = true) :
    mail.settled s'.activities = true := by
  cases h with
  | aside h _ =>
    rw [h.activities]
    exact hsettled
  | prospects h =>
    rw [h.activities]
    exact hsettled
  | draft _ _ _ => exact hsettled
  | mail _ => exact hsettled
  | enroll _ => exact hsettled
  | enrollment _ _ _ _ => exact hsettled
  | openActivity _ =>
    unfold OutboundEmail.settled at hsettled ⊢
    rw [Store.insertActivity, List.any_append, hsettled, Bool.true_or]
  | activity hkey hmail hstatus =>
    rename_i a f
    obtain ⟨old, hmem, hold⟩ := List.any_eq_true.mp hsettled
    obtain ⟨i, hget⟩ := List.mem_iff_getElem?.mp hmem
    obtain ⟨hsame, hawaits⟩ := Bool.and_eq_true_iff.mp hold
    refine List.any_eq_true.mpr ?_
    by_cases ha : a = i
    · subst ha
      refine ⟨f old, List.mem_of_getElem? (i := a) ?_, ?_⟩
      · rw [Store.updateActivity, List.getElem?_modify_eq, hget]
        rfl
      · obtain ⟨henrollment, hstep, -⟩ := hkey old
        have hsamekey : (f old).idempotencyKey = old.idempotencyKey := by
          simp only [SequenceStepActivity.idempotencyKey, henrollment, hstep]
        rw [hsamekey, hsame, Bool.true_and]
        rcases hstatus old hget with hstays | ⟨hclosed, -⟩
        · rw [hstays]
          exact hawaits
        · rw [hclosed]
          rfl
    · refine ⟨old, List.mem_of_getElem? (i := i) ?_, hold⟩
      rw [Store.updateActivity, List.getElem?_modify_ne _ _ ha]
      exact hget

/-- The labels under which drafts stay current: no contact changes, and a new
draft carries its contact's address as it is stored. -/
def Label.keepsAddress (label : Label) : Prop :=
  label ≠ .prospects ∧
    ∀ contact toEmail, label = .draft contact toEmail → contact.email = some toEmail

theorem Write.contacts_eq {label : Label} {s s' : Store} (h : Write label s s')
    (hlabel : label ≠ .prospects) : s'.contacts = s.contacts := by
  cases h with
  | aside _ hcontacts => exact hcontacts
  | prospects _ => exact absurd rfl hlabel
  | draft _ _ _ => rfl
  | mail _ => rfl
  | enroll _ => rfl
  | enrollment _ _ _ _ => rfl
  | openActivity _ => rfl
  | activity _ _ _ => rfl

theorem Write.keeps_current {label : Label} {s s' : Store} (hlabel : label.keepsAddress)
    (h : Write label s s') (hs : DraftsCurrent s) : DraftsCurrent s' := by
  intro o mail' hmail'
  have hcontacts := h.contacts_eq hlabel.1
  rcases h.mail_cases o mail' hmail' with ⟨contact, heq, hstored, -⟩ |
    ⟨mail, hmail, hkey, hcontact, haddress⟩
  · right
    intro found hfound
    rw [hcontacts, hstored] at hfound
    cases hfound
    exact hlabel.2 contact _ heq
  · rcases hs o mail hmail with hsettled | hcurrent
    · left
      have hstill := h.keeps_settled hsettled
      unfold OutboundEmail.settled at hstill ⊢
      rw [hkey]
      exact hstill
    · right
      intro found hfound
      rw [hcontacts, hcontact] at hfound
      rw [haddress]
      exact hcurrent found hfound

end Attached

section Runs

variable [Casing]

/-- The call gives a contact another address while a mail drafted for it waits:
it verifies such an address, or another service stores it. -/
def Call.readdresses (c : Call) (w : DbWorld) : Bool :=
  (w.store.outboundEmails.filter (!·.settled w.store.activities)).any fun mail =>
    match c.op with
    | .verifyEmails request verifier =>
      (newAddresses request verifier w.store).any fun (contactId, email) =>
        contactId == mail.contactId && email != mail.toEmail
    | .elsewhere rows => (rows.contacts[mail.contactId]?).any (·.email != some mail.toEmail)
    | _ => false

/-- The call drafts a mail for a contact whose address is not stored in lower
case. -/
def Call.recases (c : Call) (w : DbWorld) : Bool :=
  (c.drafts? w).any fun contact => contact.email != some (lower (contact.email.getD ""))

theorem keepsAddress_admits {w : DbWorld} {c : Call} (hrecases : c.recases w = false)
    (hop : c.op.rewritesProspects = false) : Admits Label.keepsAddress w c where
  routine := ⟨by simp, by simp⟩
  opens := ⟨⟨by simp, by simp⟩, ⟨by simp, by simp⟩⟩
  prospects := by
    intro htrue
    rw [hop] at htrue
    cases htrue
  draft := by
    intro contact hdrafts
    refine ⟨by simp, ?_⟩
    intro contact' toEmail heq
    cases heq
    simpa [Call.recases, hdrafts] using hrecases
  bounce := by
    intro status _
    exact ⟨by simp, by simp⟩
  reuse := by
    intro status _
    exact ⟨by simp, by simp⟩

omit [Casing] in
/-- Rewriting prospects keeps the waiting drafts current when it keeps the
addresses they carry. -/
theorem Aside.keeps_current {s s' : Store} (h : Aside s s') (hs : DraftsCurrent s)
    (hkept : ∀ mail ∈ s.outboundEmails, mail.settled s.activities = false →
      mail.current s.contacts → mail.current s'.contacts) : DraftsCurrent s' := by
  intro o mail hmail
  rw [h.outboundEmails] at hmail
  rw [h.activities]
  by_cases hsettled : mail.settled s.activities = true
  · exact Or.inl hsettled
  · rcases hs o mail hmail with hdone | hcurrent
    · exact absurd hdone hsettled
    · exact Or.inr (hkept mail (List.mem_of_getElem? hmail) (by simpa using hsettled) hcurrent)

theorem verifyEmails_keeps_current {w : DbWorld} {rt : Runtime}
    {request : EmailVerifyBatchRequest}
    {verifier : List String → Except String VerificationResults}
    (h : Call.readdresses { rt, op := .verifyEmails request verifier } w = false)
    (hs : DraftsCurrent w.store) :
    DraftsCurrent (after (verifyEmailCandidates rt request verifier) w).store := by
  obtain ⟨⟨haside, haddressed, -⟩, -⟩ :=
    verifyEmailCandidates_readdresses rt request verifier w
  apply haside.keeps_current hs
  intro mail hmail hwaits hcurrent contact' hcontact'
  obtain ⟨contact, hcontact, hemail⟩ := haddressed _ contact' hcontact'
  rcases hemail with hsame | ⟨email, hmem, hnew⟩
  · rw [hsame]
    exact hcurrent contact hcontact
  · have hnone := List.any_eq_false.mp h mail
      (List.mem_filter.mpr ⟨hmail, by simp [hwaits]⟩)
    have hother := List.any_eq_false.mp (Bool.eq_false_of_not_eq_true hnone) _ hmem
    rw [hnew]
    simpa using hother

theorem elsewhere_keeps_current {w : DbWorld} {rt : Runtime} {rows : Prospects}
    (h : Call.readdresses { rt, op := .elsewhere rows } w = false)
    (hs : DraftsCurrent w.store) :
    DraftsCurrent (after (sessionScope (Lib.write rows.install)) w).store := by
  have hwrite : (Lib.write rows.install : Tx PUnit) w =
      .ok PUnit.unit { w with store := rows.install w.store } := rfl
  rw [sessionScope, Lib.after_sessionScope_ok hwrite]
  dsimp only
  split
  · apply (elsewhere_aside rows w.store).keeps_current hs
    intro mail hmail hwaits hcurrent contact hcontact
    have hnone := List.any_eq_false.mp h mail
      (List.mem_filter.mpr ⟨hmail, by simp [hwaits]⟩)
    have hstored : rows.contacts[mail.contactId]? = some contact := hcontact
    simpa [hstored] using hnone
  · exact hs

theorem step_keeps_current {w : DbWorld} {c : Call} (hreaddress : c.readdresses w = false)
    (hrecase : c.recases w = false) (hs : DraftsCurrent w.store) :
    DraftsCurrent (step w c).store := by
  by_cases hop : c.op.rewritesProspects = true
  · obtain ⟨rt, op⟩ := c
    cases op with
    | verifyEmails request verifier => exact verifyEmails_keeps_current hreaddress hs
    | elsewhere rows => exact elsewhere_keeps_current hreaddress hs
    | _ => cases hop
  · have hadmits := keepsAddress_admits hrecase (by simpa using hop)
    exact Chain.keeps (I := DraftsCurrent) Write.keeps_current (step_writes hadmits) hs

/-- The sender was called lawfully: with the current address of the
enrollment's contact, who may be written to, and with no suppression in force on
the step's channel for the address, its domain or the contact. All of it in the
store the call read from. -/
def MailAttempt.Lawful (m : MailAttempt) : Prop :=
  ∃ (activity : SequenceStepActivity) (enrollment : SequenceEnrollment) (step : SequenceStep)
      (contact : Contact),
    m.observed.activities[m.activityId]? = some activity ∧
      m.observed.enrollments[activity.enrollmentId]? = some enrollment ∧
      m.observed.steps[activity.sequenceStepId]? = some step ∧
      m.observed.contacts[enrollment.contactId]? = some contact ∧
      contact.email = some m.request.toEmail ∧
      requireSendableContact contact = .ok () ∧
      ∀ row ∈ m.observed.suppressions,
        row.blocks m.time (some m.request.toEmail) (domainFromEmail (some m.request.toEmail))
          (some enrollment.contactId) step.channel.value = false

omit [Casing] in
/-- The one activity of a step that waits keeps its mail unsettled. -/
theorem not_settled {s : Store} {a : Id} {activity : SequenceStepActivity}
    {mail : OutboundEmail} (hconstraints : s.constraintsOk = true)
    (hactivity : s.activities[a]? = some activity)
    (hkey : mail.idempotencyKey = activity.idempotencyKey)
    (hawaits : activity.status.awaits = true) : mail.settled s.activities = false := by
  have hunique := Store.activities_unique hconstraints
  apply List.any_eq_false.mpr
  intro other hmem hsettled
  obtain ⟨i, hother⟩ := List.mem_iff_getElem?.mp hmem
  obtain ⟨hsame, hclosed⟩ := Bool.and_eq_true_iff.mp hsettled
  have hsame : other.idempotencyKey = activity.idempotencyKey :=
    (beq_iff_eq.mp hsame).trans hkey
  obtain rfl : i = a :=
    Table.uniqueOn_position hunique hother hactivity (congrArg some hsame) rfl
  obtain rfl : other = activity := Option.some.inj (hother.symm.trans hactivity)
  rw [hawaits] at hclosed
  cases hclosed

/-- A draft that an approval hands to the sender. -/
theorem Prepared.lawful {rt : Runtime} {w w' : DbWorld} {p : Approval} {outcome : SmtpOutcome}
    (h : Prepared rt w w' p) (hconstraints : w.store.constraintsOk = true)
    (hattached : DraftsAttached w.store) (hlinked : DraftsLinked w.store)
    (hcurrent : DraftsCurrent w.store) :
    MailAttempt.Lawful
      { activityId := p.activityId
        request := p.request
        outcome := outcome
        time := rt.now
        observed := w'.store } := by
  obtain ⟨hactivity, hchannel, hstatus, henrollment, hstep, -⟩ := loadApproval_some h.loaded
  obtain ⟨o, ho, mail, hmail, hkey⟩ := hattached p.activityId p.activity hactivity hchannel
  obtain ⟨contact, fromEmail, hcheck, hdrafted⟩ := h.drafted
  obtain ⟨hcontact, hsendable, hallowed⟩ := checkApproval_passes hcheck
  rcases hdrafted with ⟨hsame, rfl⟩ | ⟨hnone, -⟩
  · obtain rfl : o = p.outboundId := Option.some.inj (ho.symm.trans hsame)
    obtain rfl : mail = p.outbound := Option.some.inj (hmail.symm.trans h.outbound)
    have hawaits : p.activity.status.awaits = true := by
      rcases hstatus with hpending | happroved
      · rw [hpending]
        rfl
      · rw [happroved]
        rfl
    have hwaits := not_settled hconstraints hactivity hkey hawaits
    have haddress : contact.email = some p.outbound.toEmail := by
      rcases hcurrent _ _ hmail with hsettled | hcurrent
      · rw [hwaits] at hsettled
        cases hsettled
      · apply hcurrent contact
        obtain ⟨row, hrow, hid⟩ := hlinked _ _ hmail
        rw [(Prod.mk.inj hkey).1, henrollment] at hrow
        cases hrow
        rw [← hid]
        exact hcontact
    refine ⟨p.activity, p.enrollment, p.step, contact, hactivity, henrollment, hstep, hcontact,
      haddress, hsendable, ?_⟩
    intro row hrow
    by_contra hblocks
    rw [haddress] at hallowed
    have hdenied : (suppressionDecision rt.now (some p.outbound.toEmail)
        (domainFromEmail (some p.outbound.toEmail)) (some p.enrollment.contactId)
        p.step.channel.value w'.store).allowed = false :=
      suppressionDecision_denies_iff.mpr
        (Or.inr ⟨row, hrow, Bool.eq_true_of_not_eq_false hblocks⟩)
    rw [hallowed] at hdenied
    cases hdenied
  · rw [ho] at hnone
    cases hnone

/-- What a world keeps along a run in which no waiting draft is left behind. -/
structure MailInv (w : DbWorld) : Prop where
  constraints : w.store.constraintsOk = true
  attached : DraftsAttached w.store
  linked : DraftsLinked w.store
  current : DraftsCurrent w.store
  lawful : ∀ m ∈ w.external.mail, m.Lawful

theorem Initial.mailInv {w : DbWorld} (h : Initial w) : MailInv w where
  constraints := h.constraints
  attached := by
    intro a activity hactivity
    rw [h.activities] at hactivity
    cases hactivity
  linked := by
    intro o mail hmail
    rw [h.outboundEmails] at hmail
    cases hmail
  current := by
    intro o mail hmail
    rw [h.outboundEmails] at hmail
    cases hmail
  lawful := by
    intro m hm
    rw [h.mail] at hm
    cases hm

/-- The mail log after one call. -/
theorem step_lawful {w : DbWorld} (c : Call) (h : MailInv w) :
    ∀ m ∈ (step w c).external.mail, m.Lawful := by
  by_cases hop : ∃ a actor sender, c.op = .sendApproved a actor sender
  · obtain ⟨a, actor, sender, hop⟩ := hop
    have hstep : step w c = after (sendApprovedSequenceEmail c.rt a actor sender) w := by
      simp only [step, hop]
    rw [hstep]
    rcases sendApproved_cases c.rt a actor sender w with hidle | ⟨p, w', -, -, hp, hafter⟩
    · rw [hidle]
      exact h.lawful
    · rw [hafter]
      intro m hm
      simp only [Approval.settle, External.attempt, List.mem_append, List.mem_singleton] at hm
      rcases hm with hold | rfl
      · rw [hp.external] at hold
        exact h.lawful m hold
      · exact hp.lawful h.constraints h.attached h.linked h.current
  · have hquiet : Quiet (fun _ => True) w (step w c) := by
      apply step_quiet (admits_any w c)
      intro a actor sender heq
      exact hop ⟨a, actor, sender, heq⟩
    rw [hquiet.mail]
    exact h.lawful

theorem step_mailInv {w : DbWorld} {c : Call} (hreaddress : c.readdresses w = false)
    (hrecase : c.recases w = false) (h : MailInv w) : MailInv (step w c) where
  constraints := step_constraints c h.constraints
  attached := Chain.keeps (I := DraftsAttached) (fun _ => Write.keeps_attached)
    (step_writes (admits_any w c)) h.attached
  linked := Chain.keeps (I := DraftsLinked) (fun _ => Write.keeps_linked)
    (step_writes (admits_any w c)) h.linked
  current := step_keeps_current hreaddress hrecase h.current
  lawful := step_lawful c h

/-- In every run in which no contact is readdressed while a draft for it waits,
and drafts are made for contacts whose address is stored in lower case, every
call of the sender is lawful. -/
theorem approved_mail_lawful (w : DbWorld) (calls : List Call) (hinit : Initial w)
    (hrun : Lib.Admissible step (fun w c => c.readdresses w = false ∧ c.recases w = false) w
      calls) :
    ∀ m ∈ (runCalls w calls).external.mail, m.Lawful :=
  (Lib.run_keeps (I := MailInv) (fun _ _ hok => step_mailInv hok.1 hok.2) hrun
    hinit.mailInv).lawful

end Runs

section Relocation

/-- A deployment in which another address of the contact is on file. -/
def relocation : DbWorld :=
  { deployment with
    store := { deployment.store with
      emailCandidates :=
        [{ contactId := some 0, email := "ada@new.example", pattern := "first"
           idempotencyKey := "candidate:ada" }] } }

theorem relocation_initial : Initial relocation where
  constraints := by decide +kernel
  enrollments := rfl
  activities := rfl
  outboundEmails := rfl
  inboundEvents := rfl
  outbox := rfl
  mail := rfl

/-- The new address is verified while the first mail waits for approval. -/
def moveWhileWaiting : List Call :=
  draftFirstMail ++
    [Op.at (.verifyEmails
        { candidateIds := [0]
          verificationResults := { byId := [(0, { status := some "valid" })] } }
        (fun _ => .error "not asked")) 40,
      Op.at (.sendApproved 0 "operator" acceptMail) 50]

/-- The approved mail goes to the address the contact has left. -/
theorem stale_draft_sent :
    ¬ ∀ m ∈ (runCalls relocation moveWhileWaiting).external.mail, m.Lawful := by
  intro hlawful
  have hlog : (runCalls relocation moveWhileWaiting).external.mail.map
      (fun m => (m.request.toEmail, m.observed.contacts.map (·.email))) =
        [("ada@corp.example", [some "ada@new.example"])] := by decide +kernel
  obtain ⟨m, hmails, hcolumns⟩ := List.map_eq_singleton_iff.mp hlog
  obtain ⟨hrecipient, hcontacts⟩ := Prod.mk.inj hcolumns
  obtain ⟨_, _, _, contact, -, -, -, hcontact, haddress, -⟩ :=
    hlawful m (by rw [hmails]; exact List.mem_singleton_self m)
  have hmem : contact.email ∈ m.observed.contacts.map (·.email) :=
    List.mem_map_of_mem (List.mem_of_getElem? hcontact)
  rw [hcontacts, haddress, hrecipient] at hmem
  exact absurd hmem (by decide)

/-- Without the move the mail is lawful. -/
theorem first_mail_lawful :
    Initial deployment ∧ ∀ m ∈ (runCalls deployment
      (draftFirstMail ++ [Op.at (.sendApproved 0 "operator" acceptMail) 40])).external.mail,
      m.Lawful :=
  ⟨deployment_initial, approved_mail_lawful deployment _ deployment_initial (by decide +kernel)⟩

end Relocation

end GhostRecon
