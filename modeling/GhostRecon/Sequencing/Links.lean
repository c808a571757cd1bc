import GhostRecon.Sequencing.Bystanders
import GhostRecon.Sequencing.DueSteps
import GhostRecon.Sequencing.Mailbox
import GhostRecon.Sequencing.Pinning
import GhostRecon.Sequencing.RateLimits

/-!
Which mail an inbound message is linked to. A message names the mail it answers,
or the mail it returns, by its identifier. The poller keeps the sender, the
recipient, the subject and the message's own identifier, so it is the sender's
address that decides: the message is linked to the last mail still sent to that
address.
-/

namespace GhostRecon

open Lib (Id Table after)
open Std.Do

set_option mvcgen.warning false

section Newest

theorem sentAtLe_total (a b : Option Time) : sentAtLe a b = true ∨ sentAtLe b a = true := by
  cases a <;> cases b <;> simp [sentAtLe, le_total]

theorem sentAtLe_trans (a b c : Option Time) (hab : sentAtLe a b = true)
    (hbc : sentAtLe b c = true) : sentAtLe a c = true := by
  cases a <;> cases b <;> cases c <;> simp_all [sentAtLe]
  exact le_trans hab hbc

/-- The mail is the last of those still sent to the address. -/
def newestSent (o : Id) (mail : OutboundEmail) (address : String) (s : Store) : Bool :=
  mail.toEmail == address && mail.status == .sent &&
    s.outboundEmails.zipIdx.all fun (other, i) =>
      !(other.toEmail == address && other.status == .sent) ||
        (if i < o then !sentAtLe mail.sentAt other.sentAt
          else sentAtLe other.sentAt mail.sentAt)

/-- The mail that a sender's address is looked up as. -/
theorem latestSent_iff {s : Store} {o : Id} {mail : OutboundEmail} {address : String}
    (hmail : s.outboundEmails[o]? = some mail) :
    (∃ found, s.outboundEmails.latest?
        (fun mail => some mail.toEmail == some address && mail.status == .sent)
        sentAtLe (·.sentAt) = some (o, found)) ↔
      newestSent o mail address s = true := by
  have hfound : ∀ found, s.outboundEmails.latest?
        (fun mail => some mail.toEmail == some address && mail.status == .sent)
        sentAtLe (·.sentAt) = some (o, found) → found = mail := by
    intro found hlatest
    have hstored := (Table.latest?_some hlatest).1
    rw [hmail] at hstored
    exact (Option.some.inj hstored).symm
  constructor
  · rintro ⟨found, hlatest⟩
    obtain rfl := hfound found hlatest
    obtain ⟨-, hmatch, hbest⟩ :=
      (Table.latest?_eq_some_iff sentAtLe_total sentAtLe_trans).mp hlatest
    simp only [newestSent, Bool.and_eq_true, List.all_eq_true]
    refine ⟨by simpa using hmatch, ?_⟩
    rintro ⟨other, i⟩ hother
    have hverdict := hbest i other (List.mem_zipIdx_iff_getElem?.mp hother)
    by_cases hmatches : (other.toEmail == address && other.status == .sent) = true
    · have hplace := hverdict (by simpa using hmatches)
      by_cases hi : i < o
      · simp_all
      · simp_all
    · simp [hmatches]
  · intro hnewest
    simp only [newestSent, Bool.and_eq_true, List.all_eq_true] at hnewest
    refine ⟨mail, (Table.latest?_eq_some_iff sentAtLe_total sentAtLe_trans).mpr
      ⟨hmail, by simpa using hnewest.1, ?_⟩⟩
    intro i other hother hmatches
    have hverdict := hnewest.2 (other, i) (List.mem_zipIdx_iff_getElem?.mpr hother)
    by_cases hi : i < o
    · simp_all
    · simp_all

end Newest

section Messages

variable [Casing]

/-- A message of the mailbox with the identifier it names in its other headers or
its body: of the mail it answers or returns. -/
structure MailboxMessage extends ImapMessage where
  original : Option String := none
  deriving DecidableEq, Repr

/-- The message carries the identifier the mail was sent under. -/
def MailboxMessage.about (message : MailboxMessage) (mail : OutboundEmail) : Prop :=
  mail.providerMessageId.isSome = true ∧ message.original = mail.providerMessageId

/-- The message comes from a mailer daemon. -/
def MailboxMessage.failure (message : MailboxMessage) : Bool :=
  ((extractAddress message.fromHeader).toOption.join).any fun sender =>
    occursIn "mailer-daemon" (lower sender)

/-- The mail has failed for good and its enrollment is paused. -/
def OutboundEmail.bounced (mail : OutboundEmail) (o : Id) (s : Store) : Bool :=
  (s.outboundEmails[o]?).any (·.status == .failedTerminal) &&
    (s.enrollments[mail.enrollmentId]?).any (·.status == .paused)

/-- Processing the message links it to the mail; a delivery failure ends the mail
and pauses its enrollment. -/
def LinksMail (rt : Runtime) (uuid : String) (message : MailboxMessage) (o : Id)
    (mail : OutboundEmail) (w : DbWorld) : Prop :=
  ∃ event i w' row, message.event rt uuid = .ok event ∧
    processPolled rt event w = .ok i w' ∧ w'.store.inboundEvents[i]? = some row ∧
    row.outboundEmailId = some o ∧
    (message.failure = true → mail.bounced o w'.store = true)

/-- The store a new event asks the database to commit. -/
def inboundStore (rt : Runtime) (request : InboundEmailEventCreate) (key : String) (s : Store) :
    Store :=
  let stored := insertInboundEvent (unsubscribeRow rt request key s) s
  match request.eventType with
  | .reply => recordReply rt.now s.inboundEvents.length (linkedEnrollment s request) stored
  | .bounce =>
    recordBounce rt.now s.inboundEvents.length ((findOutboundForInbound s request).map Prod.fst)
      ((linkedEnrollment s request).map Prod.fst) stored
  | .unsubscribe => unsubscribeStore rt request key s

omit [Casing] in
theorem recordReply_constraints {now : Time} {event : Id}
    {enrollment : Option (Id × SequenceEnrollment)} {s : Store} :
    (recordReply now event enrollment s).constraintsOk = true ↔
      s.constraintsOk = true ∧
        (∀ e row, enrollment = some (e, row) → ∀ old ∈ s.outbox,
          old.idempotencyKey ≠ .counted .sequenceCompleted e (row.version + 1)) ∧
        ∀ old ∈ s.outbox, old.idempotencyKey ≠ .once .replyReceived event := by
  rw [recordReply, enqueueEvent_constraints]
  cases enrollment with
  | none => simp [completeReplied]
  | some found =>
    obtain ⟨e, row⟩ := found
    have hupdated : ∀ f : SequenceEnrollment → SequenceEnrollment,
        (∀ row, (f row).idempotencyKey = row.idempotencyKey) →
          ((s.updateEnrollment e f).constraintsOk = true ↔ s.constraintsOk = true) := by
      intro f hkey
      rw [updateEnrollment_constraints hkey]
    rw [completeReplied, completeEnrollment, completeWith, enqueueEvent_constraints, hupdated]
    · constructor
      · rintro ⟨⟨hvalid, hcounted⟩, honce⟩
        refine ⟨hvalid, ?_, fun old hold => honce old (List.mem_append_left _ hold)⟩
        rintro _ _ hsame old hold
        cases hsame
        exact hcounted old hold
      · rintro ⟨hvalid, hcounted, honce⟩
        refine ⟨⟨hvalid, hcounted e row rfl⟩, ?_⟩
        intro old hold
        rcases List.mem_append.mp hold with hearlier | hnew
        · exact honce old hearlier
        · rw [List.mem_singleton.mp hnew]
          simp
    · intro row
      rfl

omit [Casing] in
theorem recordBounce_constraints {now : Time} {event : Id} {outbound enrollment : Option Id}
    {s : Store} :
    (recordBounce now event outbound enrollment s).constraintsOk = true ↔
      s.constraintsOk = true ∧
        ∀ old ∈ s.outbox, old.idempotencyKey ≠ .once .bounceReceived event := by
  have hmail : (markBounced now outbound s).constraintsOk = s.constraintsOk := by
    cases outbound with
    | none => rfl
    | some o =>
      rw [markBounced, updateOutbound_constraints]
      · intro mail
        rfl
      · intro mail
        rfl
  have hpaused : (pauseBounced now enrollment (markBounced now outbound s)).constraintsOk =
      s.constraintsOk := by
    rw [← hmail]
    cases enrollment with
    | none => rfl
    | some e =>
      rw [pauseBounced, updateEnrollment_constraints]
      intro row
      rfl
  have houtbox : (pauseBounced now enrollment (markBounced now outbound s)).outbox =
      s.outbox := by
    cases outbound <;> cases enrollment <;> rfl
  rw [recordBounce, enqueueEvent_constraints, hpaused, houtbox]

/-- What the call does with a new event: the check at its flush is part of the one
at commit. -/
theorem processInbound_fresh (rt : Runtime) {request : InboundEmailEventCreate} {key : String}
    {w : DbWorld} (haddress : request.address ≠ "")
    (hfresh : w.store.inboundEvents.first? (·.idempotencyKey == key) = none) :
    processInboundEmailEvent rt request key w =
      if (inboundStore rt request key w.store).constraintsOk then
        .ok w.store.inboundEvents.length
          { w with store := inboundStore rt request key w.store }
      else .error .integrityError w := by
  by_cases hunsubscribe : request.eventType = .unsubscribe
  · rw [processInbound_unsubscribe hunsubscribe haddress hfresh, inboundStore, hunsubscribe]
  · have hcommit : (inboundStore rt request key w.store).constraintsOk = true →
        (insertInboundEvent (unsubscribeRow rt request key w.store) w.store).constraintsOk =
          true := by
      intro h
      cases htype : request.eventType with
      | reply =>
        rw [inboundStore, htype] at h
        exact (recordReply_constraints.mp h).1
      | bounce =>
        rw [inboundStore, htype] at h
        exact (recordBounce_constraints.mp h).1
      | unsubscribe => exact absurd htype hunsubscribe
    simp only [processInboundEmailEvent, sessionScope, Lib.sessionScope_run, Lib.bind_run,
      Lib.query_run, hfresh, Lib.write_run, flush, Lib.flush_run]
    unfold unsubscribeRow at hcommit
    cases hstored : (insertInboundEvent (request.row rt.now key
        ((linkedEnrollment w.store request).map Prod.fst)
        ((findOutboundForInbound w.store request).map Prod.fst)) w.store).constraintsOk with
    | false =>
      have hfalse : (inboundStore rt request key w.store).constraintsOk = false := by
        rw [Bool.eq_false_iff]
        intro h
        rw [hcommit h] at hstored
        cases hstored
      simp only [hfalse, Bool.false_eq_true, if_false]
    | true =>
      simp only [if_true]
      cases htype : request.eventType with
      | reply =>
        simp only [Lib.bind_run, Lib.write_run, Lib.pure_run, inboundStore, htype]
        rfl
      | bounce =>
        simp only [Lib.bind_run, Lib.write_run, Lib.pure_run, inboundStore, htype]
        rfl
      | unsubscribe => exact absurd htype hunsubscribe

/-- The row of an event is linked to the mail the lookup found. -/
theorem processInbound_row {rt : Runtime} {request : InboundEmailEventCreate} {key : String}
    {w w' : DbWorld} {i : Id} (h : processInboundEmailEvent rt request key w = .ok i w')
    (hfresh : w.store.inboundEvents.first? (·.idempotencyKey == key) = none) :
    w'.store.inboundEvents[i]? = some (unsubscribeRow rt request key w.store) := by
  refine (Lib.sessionScope_answers (R := fun i v =>
    v.store.inboundEvents[i]? = some (unsubscribeRow rt request key w.store)) h ?_).1
  mvcgen [createUnsubscribeSuppression, flush, Lib.flush]
  all_goals subst_vars
  · next hfound =>
    rw [hfresh] at hfound
    cases hfound
  · rw [recordReply_inboundEvents]
    exact List.getElem?_concat_length
  · rw [recordBounce_inboundEvents]
    exact List.getElem?_concat_length
  all_goals rw [recordUnsubscribe_inboundEvents]
  all_goals exact List.getElem?_concat_length

end Messages

section Condition

variable [Casing]

/-- The rows of a new event linked to the mail fit their columns and the keys they
take are free. -/
def inboundStorable (request : InboundEmailEventCreate) (key : String) (mail : OutboundEmail)
    (s : Store) : Bool :=
  match request.eventType with
  | .reply =>
    (request.row 0 key none none).fits &&
      (s.enrollments[mail.enrollmentId]?).all (fun row =>
        s.outbox.all
          (·.idempotencyKey != .counted .sequenceCompleted mail.enrollmentId (row.version + 1))) &&
      s.outbox.all (·.idempotencyKey != .once .replyReceived s.inboundEvents.length)
  | .bounce =>
    (request.row 0 key none none).fits &&
      s.outbox.all (·.idempotencyKey != .once .bounceReceived s.inboundEvents.length)
  | .unsubscribe =>
    unsubscribeFits request key &&
      ((activeSuppression? s request.address request.channel).isSome ||
        unsubscribeInsertable request s)

/-- The condition under which a message is linked to the mail. A message seen before
keeps the link it got then. A new one has to come from the address the mail was
sent to, with no later mail to that address, and a delivery failure must not be taken
for an unsubscribe. -/
def linksCondition (rt : Runtime) (uuid : String) (message : MailboxMessage) (o : Id)
    (mail : OutboundEmail) (s : Store) : Bool :=
  match message.event rt uuid with
  | .error _ => false
  | .ok event =>
    match s.inboundEvents.first? (·.idempotencyKey == event.pollKey) with
    | some (_, row) =>
      row.outboundEmailId == some o && (!message.failure || mail.bounced o s)
    | none =>
      event.fromEmail.any (newestSent o mail · s) &&
        inboundStorable event event.pollKey mail s &&
        (!message.failure || !occursIn "unsubscribe" (lower (headerText message.subject "")))

/-- An event as the poller makes it: without the identifier of a mail, and with the
sender in lower case. -/
structure FromMailbox (event : InboundEmailEventCreate) : Prop where
  message : event.providerMessageId = none
  sender : ∀ sender, event.fromEmail = some sender → lower sender = sender ∧ sender ≠ ""

theorem extractAddress_sender {raw : Option HeaderValue} {sender : String}
    (h : extractAddress raw = .ok (some sender)) : lower sender = sender ∧ sender ≠ "" := by
  have hnonempty : ∀ text : String, nonEmpty (lower text) = some sender →
      lower sender = sender ∧ sender ≠ "" := by
    intro text htext
    unfold nonEmpty at htext
    split at htext
    · cases htext
    · next hne =>
      cases htext
      exact ⟨Casing.lower_lower text, hne⟩
  unfold extractAddress at h
  split at h
  · cases h
  · cases h
  · split at h
    · cases h
    · split at h
      · exact hnonempty _ (Except.ok.inj h)
      · exact hnonempty _ (Except.ok.inj h)

/-- What the poller keeps of a message. -/
theorem event_polled {rt : Runtime} {uuid : String} {message : ImapMessage}
    {event : InboundEmailEventCreate} (h : message.event rt uuid = .ok event) :
    FromMailbox event ∧ extractAddress message.fromHeader = .ok event.fromEmail ∧
      event.eventType = classifyInbound (headerText message.subject "") event.fromEmail := by
  unfold ImapMessage.event at h
  cases hfrom : extractAddress message.fromHeader with
  | error e =>
    rw [hfrom] at h
    cases h
  | ok fromEmail =>
    cases hto : extractAddress message.toHeader with
    | error e =>
      rw [hfrom, hto] at h
      cases h
    | ok toEmail =>
      rw [hfrom, hto] at h
      simp only [bind, Except.bind, pure, Except.pure, throw, throwThe,
        MonadExceptOf.throw] at h
      split at h
      · cases h
      · split at h
        · cases h
        · cases h
          refine ⟨⟨rfl, ?_⟩, rfl, rfl⟩
          intro sender hsender
          apply extractAddress_sender
          rw [hfrom]
          exact congrArg _ hsender

/-- The mail a polled event is linked to. -/
theorem findOutbound_polled_iff {s : Store} {event : InboundEmailEventCreate} {o : Id}
    {mail : OutboundEmail} (hpolled : FromMailbox event)
    (hmail : s.outboundEmails[o]? = some mail) :
    (findOutboundForInbound s event).map Prod.fst = some o ↔
      event.fromEmail.any (newestSent o mail · s) = true := by
  have hnone : truthy none = false := rfl
  unfold findOutboundForInbound
  simp only [hpolled.message, hnone, Bool.false_eq_true, if_false]
  cases hfrom : event.fromEmail with
  | none => simp [hnone]
  | some sender =>
    obtain ⟨hlower, hsender⟩ := hpolled.sender sender hfrom
    have hsome : truthy (some sender) = true := by simp [truthy, hsender]
    rw [if_pos hsome, Option.map_some, hlower, Option.any_some, ← latestSent_iff hmail]
    constructor
    · intro h
      obtain ⟨⟨i, found⟩, hlatest, hsame⟩ := Option.map_eq_some_iff.mp h
      cases hsame
      exact ⟨found, hlatest⟩
    · rintro ⟨found, hlatest⟩
      rw [hlatest]
      rfl

theorem inboundStore_constraints (rt : Runtime) {request : InboundEmailEventCreate}
    {key : String} {s : Store} {o : Id} {mail : OutboundEmail} (hvalid : s.constraintsOk = true)
    (hanchored : OutboxAnchored s)
    (hfresh : s.inboundEvents.first? (·.idempotencyKey == key) = none)
    (hfound : findOutboundForInbound s request = some (o, mail)) :
    (inboundStore rt request key s).constraintsOk = true ↔
      inboundStorable request key mail s = true := by
  have hstored : (insertInboundEvent (unsubscribeRow rt request key s) s).constraintsOk = true ↔
      (request.row 0 key none none).fits = true := by
    rw [insertInboundEvent_constraints]
    exact ⟨fun h => h.2.2, fun h => ⟨hvalid, key_fresh_iff.mp hfresh, h⟩⟩
  have hlinked : linkedEnrollment s request =
      (s.enrollments[mail.enrollmentId]?).map fun row => (mail.enrollmentId, row) := by
    rw [linkedEnrollment, hfound]
  unfold inboundStore inboundStorable
  cases htype : request.eventType with
  | reply =>
    dsimp only
    rw [recordReply_constraints, hstored, hlinked]
    cases hrow : s.enrollments[mail.enrollmentId]? with
    | none => simp [insertInboundEvent]
    | some row => simp [insertInboundEvent, and_assoc]
  | bounce =>
    dsimp only
    rw [recordBounce_constraints, hstored]
    simp [insertInboundEvent]
  | unsubscribe =>
    dsimp only
    rw [unsubscribeStore_constraints rt request hvalid hanchored hfresh]
    cases hactive : activeSuppression? s request.address request.channel <;> simp

/-- A delivery failure that is processed ends the mail it is linked to and pauses the
enrollment, unless it is taken for an unsubscribe. -/
theorem inboundStore_bounced {rt : Runtime} {request : InboundEmailEventCreate} {key : String}
    {s : Store} {o : Id} {mail : OutboundEmail} {enrollment : SequenceEnrollment}
    (hfound : findOutboundForInbound s request = some (o, mail))
    (hmail : s.outboundEmails[o]? = some mail) (hsent : mail.status = .sent)
    (hrow : s.enrollments[mail.enrollmentId]? = some enrollment)
    (hreply : request.eventType ≠ .reply) :
    mail.bounced o (inboundStore rt request key s) = true ↔ request.eventType = .bounce := by
  have hlinked : linkedEnrollment s request = some (mail.enrollmentId, enrollment) := by
    rw [linkedEnrollment, hfound]
    dsimp only
    rw [hrow, Option.map_some]
  unfold inboundStore
  cases htype : request.eventType with
  | reply => exact absurd htype hreply
  | bounce =>
    simp [hfound, hlinked, OutboundEmail.bounced, recordBounce, markBounced, pauseBounced,
      enqueueEvent, insertInboundEvent, Store.updateOutbound, Store.updateEnrollment, hmail, hrow]
  | unsubscribe =>
    have hsame : (unsubscribeStore rt request key s).outboundEmails = s.outboundEmails := by
      have hsuppressed : ∀ t : Store, (recordUnsubscribe rt.now s.inboundEvents.length
          ((linkedEnrollment s request).map Prod.fst) t).outboundEmails = t.outboundEmails := by
        intro t
        cases (linkedEnrollment s request).map Prod.fst <;> rfl
      rw [unsubscribeStore, hsuppressed, unsubscribeSuppressions]
      split <;> rfl
    simp [OutboundEmail.bounced, hsame, hmail, hsent]

/-- A failure is polled as a bounce, or as an unsubscribe if its subject says so. -/
theorem failure_classified {rt : Runtime} {uuid : String} {message : MailboxMessage}
    {event : InboundEmailEventCreate} (hevent : message.event rt uuid = .ok event)
    (hfailure : message.failure = true) :
    event.eventType ≠ .reply ∧
      (event.eventType = .bounce ↔
        occursIn "unsubscribe" (lower (headerText message.subject "")) = false) := by
  obtain ⟨-, hfrom, htype⟩ := event_polled hevent
  rw [MailboxMessage.failure, hfrom] at hfailure
  cases hsender : event.fromEmail with
  | none => simp [hsender, Except.toOption] at hfailure
  | some sender =>
    have hdaemon : occursIn "mailer-daemon" (lower sender) = true := by
      simpa [hsender, Except.toOption] using hfailure
    rw [htype, hsender]
    cases hword : occursIn "unsubscribe" (lower (headerText message.subject "")) <;>
      simp [classifyInbound, hword, hdaemon]

/-- An event that is looked up as a stored mail has an address, and the mail is still
sent. -/
theorem findOutbound_polled {s : Store} {event : InboundEmailEventCreate} {o : Id}
    {mail : OutboundEmail} (hpolled : FromMailbox event)
    (hmail : s.outboundEmails[o]? = some mail)
    (hfound : (findOutboundForInbound s event).map Prod.fst = some o) :
    event.address ≠ "" ∧ mail.status = .sent ∧ findOutboundForInbound s event = some (o, mail) := by
  have hany := (findOutbound_polled_iff hpolled hmail).mp hfound
  cases hfrom : event.fromEmail with
  | none =>
    rw [hfrom] at hany
    cases hany
  | some sender =>
    simp only [hfrom, Option.any_some, newestSent, Bool.and_eq_true, beq_iff_eq] at hany
    obtain ⟨hlower, hsender⟩ := hpolled.sender sender hfrom
    obtain ⟨⟨-, hsent⟩, -⟩ := hany
    refine ⟨?_, hsent, ?_⟩
    · simp [InboundEmailEventCreate.address, hfrom, truthy, hsender, hlower]
    · obtain ⟨⟨i, found⟩, hlookup, hsame⟩ := Option.map_eq_some_iff.mp hfound
      cases hsame
      have hstored := findOutboundForInbound_stored hlookup
      rw [hmail] at hstored
      rw [hlookup, Option.some.inj hstored]

/-- A new event is linked to the mail exactly when it is looked up as the mail and the
database accepts its rows. -/
theorem newEvent_links_iff (rt : Runtime) {event : InboundEmailEventCreate} {o : Id}
    {mail : OutboundEmail} {w : DbWorld} (hreach : ReachableWorld w)
    (hmail : w.store.outboundEmails[o]? = some mail) (hpolled : FromMailbox event)
    (hfresh : w.store.inboundEvents.first? (·.idempotencyKey == event.pollKey) = none)
    (failure : Bool) (hfailure : failure = true → event.eventType ≠ .reply) :
    (∃ i w' row, processPolled rt event w = .ok i w' ∧ w'.store.inboundEvents[i]? = some row ∧
        row.outboundEmailId = some o ∧ (failure = true → mail.bounced o w'.store = true)) ↔
      (findOutboundForInbound w.store event).map Prod.fst = some o ∧
        inboundStorable event event.pollKey mail w.store = true ∧
        (failure = true → event.eventType = .bounce) := by
  obtain ⟨enrollment, step, hown⟩ := hreach.definitions_anchored.1.mails o mail hmail
  constructor
  · rintro ⟨i, w', row, hrun, hrow, hlinked, hfailed⟩
    have hstored := processInbound_row hrun hfresh
    rw [hrow] at hstored
    cases hstored
    obtain ⟨haddress, hsent, hfound⟩ := findOutbound_polled hpolled hmail hlinked
    rw [processPolled, processInbound_fresh rt haddress hfresh] at hrun
    split at hrun
    · next hcommit =>
      cases hrun
      refine ⟨hlinked, (inboundStore_constraints rt hreach.constraints hreach.anchored hfresh
        hfound).mp hcommit, ?_⟩
      intro hfails
      exact (inboundStore_bounced hfound hmail hsent hown.enrolled (hfailure hfails)).mp
        (hfailed hfails)
    · cases hrun
  · rintro ⟨hlinked, hstorable, hbounce⟩
    obtain ⟨haddress, hsent, hfound⟩ := findOutbound_polled hpolled hmail hlinked
    have hcommit := (inboundStore_constraints rt hreach.constraints hreach.anchored hfresh
      hfound).mpr hstorable
    have hrun := processInbound_fresh rt haddress hfresh
    rw [if_pos hcommit] at hrun
    refine ⟨_, _, _, hrun, processInbound_row hrun hfresh, hlinked, ?_⟩
    intro hfails
    exact (inboundStore_bounced hfound hmail hsent hown.enrolled (hfailure hfails)).mpr
      (hbounce hfails)

end Condition

section TwoEnrollments

def acceptSecondMail (_ : SmtpSendRequest) : SmtpOutcome :=
  .ok "message-2"

/-- Ada gets the first mail of one sequence and then that of another. -/
def writeTwice : List Call :=
  draftFirstMail ++
    [Op.at (.sendApproved 0 "operator" acceptMail) 40,
      Op.at (.createSequence
        { name := "invitation"
          steps := [{ subjectTemplate := some "Join us", bodyTemplate := some "Event" }] }
        none) 50,
      Op.at (.createEnrollment
        { sequenceId := 1, crmTargetId := 0, outreachApproved := true
          approvalReason := "approved" } "operator" "enroll:ada:invitation") 60,
      Op.at (.sendNext 1) 70,
      Op.at (.sendApproved 1 "operator" acceptSecondMail) 80]

/-- The daemon's report about the first mail. -/
def firstMailReturned : MailboxMessage where
  fromHeader := some (.text "MAILER-DAEMON@corp.example")
  subject := some (.text "Undeliverable: Hello")
  messageId := some (.text "report-1")
  original := some "message-1"

/-- Ada's answer to the first mail. -/
def firstMailAnswered : MailboxMessage where
  fromHeader := some (.text "Ada <ada@corp.example>")
  subject := some (.text "Re: Hello")
  messageId := some (.text "answer-1")
  original := some "message-1"

theorem LinksMail.row {rt : Runtime} {uuid : String} {message : MailboxMessage} {o : Id}
    {mail : OutboundEmail} {w : DbWorld} (h : LinksMail rt uuid message o mail w) :
    ((message.event rt uuid).toOption).any (fun event =>
      (after (processPolled rt event) w).store.inboundEvents.any (·.outboundEmailId == some o)) =
        true := by
  obtain ⟨event, i, w', row, hevent, hrun, hrow, hlinked, -⟩ := h
  rw [hevent]
  simp only [Except.toOption, Option.any_some, after, hrun, List.any_eq_true, beq_iff_eq]
  exact ⟨row, List.mem_of_getElem? hrow, hlinked⟩

/-- Ada's answer to the second mail. -/
def secondMailAnswered : MailboxMessage where
  fromHeader := some (.text "Ada <ada@corp.example>")
  subject := some (.text "Re: Join us")
  messageId := some (.text "answer-2")
  original := some "message-2"

end TwoEnrollments

end GhostRecon
