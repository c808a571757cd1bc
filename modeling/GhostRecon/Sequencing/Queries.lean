import GhostRecon.Governance.Suppressions
import Mathlib.Data.List.Sort

/-!
What the sequencing operations read: the steps of a definition version, the
contact of a CRM target, whether a contact may be written to, the daily send
limits, and the mail an inbound event answers.
-/

namespace GhostRecon

open Lib (Id Table)

variable [Casing]

/-- `_sequence_steps` at a given definition version: its active steps in step
order. -/
def sequenceSteps (s : Store) (sequenceId : Id) (definitionVersion : Nat) :
    List (Id × SequenceStep) :=
  ((s.steps.zipIdx.filter fun row =>
      row.1.sequenceId == sequenceId && row.1.definitionVersion == definitionVersion &&
        row.1.active).map Prod.swap).insertionSort (fun a b => a.2.stepOrder ≤ b.2.stepOrder)

/-- `_sequence_steps` without a version: the sequence's current one. -/
def currentSequenceSteps (s : Store) (sequenceId : Id) : List (Id × SequenceStep) :=
  sequenceSteps s sequenceId ((s.sequences[sequenceId]?).elim 1 (·.definitionVersion))

/-- `_step_for_order` at a given definition version. -/
def stepForOrder (s : Store) (sequenceId : Id) (stepOrder definitionVersion : Nat) :
    Option (Id × SequenceStep) :=
  s.steps.first? fun row =>
    row.sequenceId == sequenceId && row.stepOrder == stepOrder && row.active &&
      row.definitionVersion == definitionVersion

/-- `_requires_approval`. -/
def requiresApproval (channel : SequenceChannel) (explicit : Option Bool) : Bool :=
  explicit.getD (channel == .email)

/-- `_require_sendable_contact`. -/
def requireSendableContact (contact : Contact) : Except PyError Unit :=
  if contact.doNotContactFlag then
    .error (.valueError "contact is marked do-not-contact")
  else if !truthy contact.email then
    .error (.valueError "contact has no email")
  else if contact.emailStatus ≠ some "verified" then
    .error (.valueError "contact email must be verified before outreach")
  else if !truthy contact.lawfulBasis then
    .error (.valueError "contact is missing lawful basis")
  else .ok ()

/-- `_suppression_allowed`. Building the check request validates the address. -/
def suppressionAllowed (rt : Runtime) (email domain : Option String)
    (contactId : Option Id) (channel : String) (s : Store) :
    Except PyError SuppressionCheckResult :=
  if email.all rt.validEmail then
    .ok (suppressionDecision rt.now email domain contactId channel s)
  else .error (.validationError "email")

/-- The entry for one limit: a false value falls back to the settings, and
`int` raises on a value that is no number. -/
def dailyLimit (entry : Option LimitValue) (fallback : Int) : Except PyError Int :=
  match entry with
  | none => .ok fallback
  | some (.int limit) => .ok limit
  | some (.invalid message) => .error (.valueError message)

/-- The mail counted against the daily limits. -/
def sentSince (now : Time) (channel : SequenceChannel) (s : Store) : List OutboundEmail :=
  s.outboundEmails.filter fun mail =>
    mail.status == .sent && mail.channel == channel &&
      mail.sentAt.any (fun sentAt => now ≤ sentAt + 86400)

/-- `_rate_limit_blocker`. -/
def rateLimitBlocker (rt : Runtime) (toEmail fromEmail : String)
    (channel : SequenceChannel) (sequence : Sequence) (s : Store) :
    Except PyError (Option String) := do
  let policy := sequence.rateLimitPolicy
  let domainLimit ← dailyLimit policy.domainDailyLimit rt.settings.sequenceDomainDailyLimit
  let senderLimit ← dailyLimit policy.senderDailyLimit rt.settings.sequenceSenderDailyLimit
  let channelLimit ←
    dailyLimit policy.channelDailyLimit rt.settings.sequenceChannelDailyLimit
  let domain := domainFromEmail (some toEmail)
  let sent := sentSince rt.now channel s
  let domainCount : Int :=
    (sent.filter fun mail => domainFromEmail (some mail.toEmail) == domain).length
  let senderCount : Int :=
    (sent.filter fun mail => lower mail.fromEmail == lower fromEmail).length
  if domainLimit ≤ domainCount then
    return some ("domain daily rate limit reached for " ++ domain.getD "None")
  if senderLimit ≤ senderCount then
    return some ("sender daily rate limit reached for " ++ fromEmail)
  if channelLimit ≤ (sent.length : Int) then
    return some ("channel daily rate limit reached for " ++ channel.value)
  return none

/-- `_contact_for_target`. -/
def contactForTarget (s : Store) (target : CrmTarget) (requestedContactId : Option Id) :
    Except PyError (Id × Contact) :=
  match requestedContactId with
  | some id =>
    match s.contacts[id]? with
    | some contact => .ok (id, contact)
    | none => .error (.valueError "contact not found")
  | none =>
    let missing := .error (.valueError "sequence enrollment requires a contact")
    if target.targetType = "contact" ∨ target.targetType = "incident_contact" then
      match s.contacts[target.targetId]? with
      | some contact => .ok (target.targetId, contact)
      | none => missing
    else if target.targetType = "email_candidate" then
      match (s.emailCandidates[target.targetId]?).bind (·.contactId) with
      | some id =>
        match s.contacts[id]? with
        | some contact => .ok (id, contact)
        | none => missing
      | none => missing
    else missing

structure InboundEmailEventCreate where
  eventType : InboundEmailEventType
  fromEmail : Option String := none
  toEmail : Option String := none
  messageId : Option String := none
  providerMessageId : Option String := none
  providerPayload : Metadata := []
  occurredAt : Option Time := none
  deriving DecidableEq, Repr

/-- `ORDER BY sent_at DESC` sorts missing values first. -/
def sentAtLe : Option Time → Option Time → Bool
  | _, none => true
  | none, some _ => false
  | some a, some b => a ≤ b

/-- `_find_outbound_for_inbound`. -/
def findOutboundForInbound (s : Store) (request : InboundEmailEventCreate) :
    Option (Id × OutboundEmail) :=
  let byMessage :=
    if truthy request.providerMessageId then
      s.outboundEmails.latest? (·.providerMessageId == request.providerMessageId)
        sentAtLe (·.sentAt)
    else none
  match byMessage with
  | some found => some found
  | none =>
    if truthy request.fromEmail then
      s.outboundEmails.latest?
        (fun mail => some mail.toEmail == request.fromEmail.map lower && mail.status == .sent)
        sentAtLe (·.sentAt)
    else none

/-- `_find_enrollment_by_email`. -/
def findEnrollmentByEmail (s : Store) (email : Option String) :
    Option (Id × SequenceEnrollment) :=
  if truthy email then
    match s.outboundEmails.latest? (fun mail => some mail.toEmail == email.map lower)
        (fun a b => decide (a ≤ b)) (·.createdAt) with
    | some (_, mail) => (s.enrollments[mail.enrollmentId]?).map fun row => (mail.enrollmentId, row)
    | none => none
  else none

/-- The enrollment an inbound event is about: that of the mail it answers,
otherwise that of the newest mail to its sender. -/
def linkedEnrollment (s : Store) (request : InboundEmailEventCreate) :
    Option (Id × SequenceEnrollment) :=
  match findOutboundForInbound s request with
  | some (_, mail) => (s.enrollments[mail.enrollmentId]?).map fun row => (mail.enrollmentId, row)
  | none => findEnrollmentByEmail s request.fromEmail

/-- A linked enrollment is the stored row under its identifier. -/
theorem linkedEnrollment_stored {s : Store} {request : InboundEmailEventCreate}
    {e : Id} {row : SequenceEnrollment} (h : linkedEnrollment s request = some (e, row)) :
    s.enrollments[e]? = some row := by
  have hmap : ∀ {k : Id},
      (s.enrollments[k]?).map (fun r => (k, r)) = some (e, row) →
        s.enrollments[e]? = some row := by
    intro k hk
    obtain ⟨r, hr, heq⟩ := Option.map_eq_some_iff.mp hk
    obtain ⟨rfl, rfl⟩ := Prod.mk.inj heq
    exact hr
  unfold linkedEnrollment at h
  split at h
  · exact hmap h
  · unfold findEnrollmentByEmail at h
    split at h
    · split at h
      · exact hmap h
      · cases h
    · cases h

omit [Casing] in
theorem stepForOrder_some {s : Store} {q : Id} {order version : Nat} {i : Id}
    {step : SequenceStep} (h : stepForOrder s q order version = some (i, step)) :
    s.steps[i]? = some step ∧ step.sequenceId = q ∧ step.stepOrder = order ∧
      step.definitionVersion = version := by
  obtain ⟨hget, hmatch⟩ := Table.first?_some h
  simp only [Bool.and_eq_true, beq_iff_eq] at hmatch
  exact ⟨hget, hmatch.1.1.1, hmatch.1.1.2, hmatch.2⟩

omit [Casing] in
theorem requireSendableContact_ok {contact : Contact} :
    requireSendableContact contact = .ok () ↔
      contact.doNotContactFlag = false ∧ truthy contact.email = true ∧
        contact.emailStatus = some "verified" ∧ truthy contact.lawfulBasis = true := by
  unfold requireSendableContact
  cases contact.doNotContactFlag <;> cases truthy contact.email <;>
    by_cases hverified : contact.emailStatus = some "verified" <;>
    cases truthy contact.lawfulBasis <;> simp [hverified]

omit [Casing] in
theorem truthy_iff {text : Option String} :
    truthy text = true ↔ ∃ value, text = some value ∧ value ≠ "" := by
  cases text <;> simp [truthy]

end GhostRecon
