import GhostRecon.Lib.Overlap
import GhostRecon.Store

/-!
E-mail alerts of an enrollment. A worker reads the alerts that are due, sends them
one after the other and commits all outcomes at the end. No row is locked meanwhile,
so a second worker that starts before the commit reads the same alerts; and the
selection looks for pending alerts alone, so an alert whose mail failed is never
tried again.
-/

namespace GhostRecon

open Lib (Id Table World Overlap Floor Event after query write perform)
open Std.Do

set_option mvcgen.warning false

section Tables

inductive AlertStatus where
  | pending | sent | failedRetryable
  deriving DecidableEq, Repr

structure SequenceEmailAlert where
  enrollmentId : Id
  recipientEmail : String
  subject : String
  body : String
  sendAt : Time
  status : AlertStatus := .pending
  actor : String := "system"
  providerMessageId : Option String := none
  lastError : Option String := none
  sentAt : Option Time := none
  idempotencyKey : String
  createdAt : Time
  updatedAt : Time
  deriving DecidableEq, Repr

/-- The tables the alert operations work on. -/
structure AlertStore where
  enrollments : Table SequenceEnrollment := []
  alerts : Table SequenceEmailAlert := []

def SequenceEmailAlert.fits (alert : SequenceEmailAlert) : Bool :=
  GhostRecon.fits 320 alert.recipientEmail && GhostRecon.fits 512 alert.subject &&
    GhostRecon.fits 128 alert.actor && fits? 255 alert.providerMessageId &&
    GhostRecon.fits 255 alert.idempotencyKey

def AlertStore.constraintsOk (s : AlertStore) : Bool :=
  s.alerts.uniqueOn (fun alert => some alert.idempotencyKey) &&
    s.alerts.all SequenceEmailAlert.fits

/-- One call of `SmtpSender.send` for an alert. -/
structure AlertSend where
  alertId : Id
  request : SmtpSendRequest
  outcome : SmtpOutcome

/-- The tables, and the mail that went out; no rollback reaches the mail. -/
abbrev AlertWorld := World AlertStore (List AlertSend)

abbrev AlertTx (α : Type) := Lib.Tx PyError AlertStore (List AlertSend) α

def alertScope {α : Type} (body : AlertTx α) : AlertTx α :=
  Lib.sessionScope AlertStore.constraintsOk .integrityError body

/-- How often the sender has accepted the mail of an alert. -/
def acceptedAlerts (i : Id) (w : AlertWorld) : Nat :=
  w.external.countP fun send => send.alertId == i && send.outcome.isOk

end Tables

section Operations

variable [Casing]

structure SequenceEmailAlertCreate where
  recipientEmail : String
  subject : String
  body : String
  sendAt : Option Time := none
  deriving DecidableEq, Repr

/-- The row `create_sequence_email_alert` inserts. -/
def alertFor (now : Time) (e : Id) (request : SequenceEmailAlertCreate)
    (actor idempotencyKey : String) : SequenceEmailAlert where
  enrollmentId := e
  recipientEmail := lower request.recipientEmail
  subject := request.subject
  body := request.body
  sendAt := request.sendAt.getD now
  actor := actor
  idempotencyKey := idempotencyKey
  createdAt := now
  updatedAt := now

def AlertStore.insertAlert (s : AlertStore) (alert : SequenceEmailAlert) : AlertStore :=
  { s with alerts := s.alerts ++ [alert] }

def createSequenceEmailAlert (now : Time) (e : Id) (request : SequenceEmailAlertCreate)
    (actor idempotencyKey : String) : AlertTx (Option Id) := alertScope do
  let some _ ← query (·.enrollments[e]?) | return none
  match ← query (·.alerts.first? (·.idempotencyKey == idempotencyKey)) with
  | some (existing, _) => return some existing
  | none =>
    let i ← query (·.alerts.length)
    write (·.insertAlert (alertFor now e request actor idempotencyKey))
    Lib.flush AlertStore.constraintsOk .integrityError
    return some i

/-- `ORDER BY send_at, id` -/
def sooner (a b : Id × SequenceEmailAlert) : Prop :=
  a.2.sendAt < b.2.sendAt ∨ a.2.sendAt = b.2.sendAt ∧ a.1 ≤ b.1

instance (a b : Id × SequenceEmailAlert) : Decidable (sooner a b) :=
  inferInstanceAs (Decidable (_ ∨ _))

/-- The pending alerts whose time has come, the soonest first. -/
def dueAlerts (now : Time) (limit : Nat) (s : AlertStore) : List (Id × SequenceEmailAlert) :=
  ((s.alerts.select fun alert => alert.status == .pending && alert.sendAt ≤ now).insertionSort
    fun a b => sooner a b).take limit

/-- What one call of the worker runs with: its clock, its settings and its sender. -/
structure AlertRound where
  now : Time
  settings : Settings := {}
  sender : SmtpSendRequest → SmtpOutcome

def AlertRound.mail (round : AlertRound) (i : Id) (alert : SequenceEmailAlert) :
    SmtpSendRequest where
  fromEmail := lower round.settings.smtpFromAddress
  toEmail := alert.recipientEmail
  subject := alert.subject
  body := alert.body
  messageId := "<ghostrecon-alert-" ++ toString i ++ "@local>"

/-- The sender's answer on the row. -/
def SequenceEmailAlert.record (now : Time) (alert : SequenceEmailAlert) :
    SmtpOutcome → SequenceEmailAlert
  | .ok messageId =>
    { alert with
      status := .sent
      providerMessageId := some messageId
      sentAt := some now
      updatedAt := now }
  | .error reason =>
    { alert with status := .failedRetryable, lastError := some reason, updatedAt := now }

def AlertStore.record (s : AlertStore) (now : Time) (i : Id) (outcome : SmtpOutcome) :
    AlertStore :=
  { s with alerts := s.alerts.modify i (·.record now outcome) }

/-- The loop of `process_due_sequence_email_alerts`. -/
def sendAlerts (round : AlertRound) :
    List (Id × SequenceEmailAlert) → AlertTx (List (Id × SmtpOutcome))
  | [] => return []
  | (i, alert) :: rest => do
    let request := round.mail i alert
    let outcome := round.sender request
    perform (· ++ [{ alertId := i, request, outcome }])
    write (·.record round.now i outcome)
    let outcomes ← sendAlerts round rest
    return (i, outcome) :: outcomes

def processDueSequenceEmailAlerts (round : AlertRound) (limit : Nat) :
    AlertTx (List (Id × SmtpOutcome)) := alertScope do
  let alerts ← query (dueAlerts round.now limit)
  sendAlerts round alerts

end Operations

section Phases

variable [Casing]

inductive AlertRequest where
  | create (now : Time) (e : Id) (request : SequenceEmailAlertCreate) (actor key : String)
  | process (round : AlertRound) (limit : Nat)

/-- A call between two of its phases: an alert to insert, or a round with the alerts it
has still to send and the outcomes it has still to commit. -/
inductive AlertCall where
  | insert (alert : SequenceEmailAlert)
  | sending (round : AlertRound) (remaining : List (Id × SequenceEmailAlert))
      (outcomes : List (Id × SmtpOutcome))

def AlertCall.isRound : AlertCall → Bool
  | .insert _ => false
  | .sending _ _ _ => true

/-- What a call reads first. -/
def startAlertCall (request : AlertRequest) (w : AlertWorld) : Option AlertCall :=
  match request with
  | .create now e request actor key =>
    if (w.store.enrollments[e]?).isSome ∧
        (w.store.alerts.first? (·.idempotencyKey == key)).isNone then
      some (.insert (alertFor now e request actor key))
    else none
  | .process round limit => some (.sending round (dueAlerts round.now limit w.store) [])

/-- The outcomes of a round on the rows. -/
def AlertStore.recordAll (s : AlertStore) (now : Time) (outcomes : List (Id × SmtpOutcome)) :
    AlertStore :=
  outcomes.foldl (fun s outcome => s.record now outcome.1 outcome.2) s

/-- A commit that the constraints refuse leaves the store alone. -/
def AlertStore.commit (s s' : AlertStore) : AlertStore :=
  if s'.constraintsOk then s' else s

/-- The next phase of a call, on the tables as the others have left them. -/
def advanceAlertCall (call : AlertCall) (w : AlertWorld) : Option AlertCall × AlertWorld :=
  match call with
  | .insert alert => (none, { w with store := w.store.commit (w.store.insertAlert alert) })
  | .sending round ((i, alert) :: rest) outcomes =>
    let request := round.mail i alert
    let outcome := round.sender request
    (some (.sending round rest (outcomes ++ [(i, outcome)])),
      { w with external := w.external ++ [{ alertId := i, request, outcome }] })
  | .sending round [] outcomes =>
    (none, { w with store := w.store.commit (w.store.recordAll round.now outcomes) })

/-- The alert operations with calls in flight. -/
def alerting : Overlap AlertWorld AlertCall AlertRequest where
  start := startAlertCall
  advance := advanceAlertCall

/-- The sender accepts the mail, and the database takes the outcomes. -/
def roundTaken (w : AlertWorld) : AlertCall → Prop
  | .insert _ => True
  | .sending round ((i, alert) :: _) _ => (round.sender (round.mail i alert)).isOk = true
  | .sending round [] outcomes => (w.store.recordAll round.now outcomes).constraintsOk = true

instance (w : AlertWorld) (call : AlertCall) : Decidable (roundTaken w call) := by
  unfold roundTaken
  split <;> infer_instance

end Phases

section Uninterrupted

variable [Casing]

/-- The sender's answers for a list of alerts. -/
def AlertRound.outcomes (round : AlertRound) (alerts : List (Id × SequenceEmailAlert)) :
    List (Id × SmtpOutcome) :=
  alerts.map fun alert => (alert.1, round.sender (round.mail alert.1 alert.2))

/-- The calls of the sender for a list of alerts. -/
def AlertRound.sends (round : AlertRound) (alerts : List (Id × SequenceEmailAlert)) :
    List AlertSend :=
  alerts.map fun alert =>
    { alertId := alert.1
      request := round.mail alert.1 alert.2
      outcome := round.sender (round.mail alert.1 alert.2) }

theorem sendAlerts_run (round : AlertRound) (alerts : List (Id × SequenceEmailAlert))
    (w : AlertWorld) :
    sendAlerts round alerts w = .ok (round.outcomes alerts)
      { store := w.store.recordAll round.now (round.outcomes alerts)
        external := w.external ++ round.sends alerts } := by
  induction alerts generalizing w with
  | nil => simp [sendAlerts, AlertRound.outcomes, AlertRound.sends, AlertStore.recordAll,
      Lib.pure_run]
  | cons alert rest ih =>
    simp only [sendAlerts, Lib.bind_run, Lib.perform_run, Lib.write_run, ih, Lib.pure_run]
    simp [AlertRound.outcomes, AlertRound.sends, AlertStore.recordAll]

/-- A round that nobody interrupts sends its alerts in turn. -/
theorem sending_run (round : AlertRound) (alerts : List (Id × SequenceEmailAlert))
    (outcomes : List (Id × SmtpOutcome)) (w : AlertWorld) :
    Lib.run alerting.step { world := w, calls := [some (.sending round alerts outcomes)] }
        (List.replicate alerts.length (.advance 0)) =
      { world := { w with external := w.external ++ round.sends alerts }
        calls := [some (.sending round [] (outcomes ++ round.outcomes alerts))] } := by
  induction alerts generalizing outcomes w with
  | nil => simp [AlertRound.outcomes, AlertRound.sends]
  | cons alert rest ih =>
    have hstep : alerting.step
        { world := w, calls := [some (AlertCall.sending round (alert :: rest) outcomes)] }
          (.advance 0) =
        { world := { w with external := w.external ++ round.sends [alert] }
          calls := [some (.sending round rest (outcomes ++ round.outcomes [alert]))] } := rfl
    rw [List.length_cons, List.replicate_succ, Lib.run_cons, hstep, ih]
    simp [AlertRound.outcomes, AlertRound.sends, List.append_assoc]

/-- The phases of a round, taken without a break, are the function. -/
theorem process_uninterrupted (round : AlertRound) (limit : Nat) (w : AlertWorld) :
    (Lib.run alerting.step { world := w } (.start (.process round limit) ::
        List.replicate ((dueAlerts round.now limit w.store).length + 1) (.advance 0))).world =
      after (processDueSequenceEmailAlerts round limit) w := by
  have hstart : alerting.start (.process round limit) w =
      some (.sending round (dueAlerts round.now limit w.store) []) := rfl
  rw [Lib.run_cons, alerting.step_start hstart, List.replicate_succ', Lib.run_append]
  dsimp only [List.nil_append]
  rw [sending_run, Lib.run_cons, alerting.step_advance rfl]
  simp only [after, processDueSequenceEmailAlerts, alertScope, Lib.sessionScope_run, Lib.bind_run,
    Lib.query_run, sendAlerts_run]
  change World.mk (w.store.commit (w.store.recordAll round.now
    (round.outcomes (dueAlerts round.now limit w.store)))) _ = _
  unfold AlertStore.commit
  split <;> rfl

/-- So are the phases of a creation. -/
theorem create_uninterrupted (now : Time) (e : Id) (request : SequenceEmailAlertCreate)
    (actor key : String) (w : AlertWorld) :
    (Lib.run alerting.step { world := w }
        [.start (.create now e request actor key), .advance 0]).world =
      after (createSequenceEmailAlert now e request actor key) w := by
  by_cases hstart : (w.store.enrollments[e]?).isSome ∧
      (w.store.alerts.first? (·.idempotencyKey == key)).isNone
  · have hcall : alerting.start (.create now e request actor key) w =
        some (.insert (alertFor now e request actor key)) := if_pos hstart
    obtain ⟨enrollment, henrollment⟩ := Option.isSome_iff_exists.mp hstart.1
    have hnew := Option.isNone_iff_eq_none.mp hstart.2
    rw [Lib.run_cons, alerting.step_start hcall, Lib.run_cons, alerting.step_advance rfl]
    simp only [after, createSequenceEmailAlert, alertScope, Lib.sessionScope_run, Lib.bind_run,
      Lib.query_run, henrollment, hnew, Lib.write_run, Lib.flush_run, Lib.pure_run]
    change World.mk (w.store.commit (w.store.insertAlert
      (alertFor now e request actor key))) w.external = _
    unfold AlertStore.commit
    cases hvalid : (w.store.insertAlert (alertFor now e request actor key)).constraintsOk with
    | true => simp [hvalid]
    | false => simp
  · have hcall : alerting.start (.create now e request actor key) w = none := if_neg hstart
    rw [Lib.run_cons, alerting.step_idle hcall, Lib.run_cons, alerting.step_closed rfl,
      Lib.run_nil]
    cases hrow : w.store.enrollments[e]? with
    | none =>
      refine (Lib.after_sessionScope_idle (a := none) ?_).symm
      simp only [Lib.bind_run, Lib.query_run, hrow, Lib.pure_run]
    | some enrollment =>
      have hfound : (w.store.alerts.first? (·.idempotencyKey == key)).isSome := by
        simpa [hrow, Option.isSome_iff_ne_none] using hstart
      obtain ⟨existing, hexisting⟩ := Option.isSome_iff_exists.mp hfound
      refine (Lib.after_sessionScope_idle (a := some existing.1) ?_).symm
      simp only [Lib.bind_run, Lib.query_run, hrow, hexisting, Lib.pure_run]

end Uninterrupted

section Selection

variable {now : Time} {limit : Nat} {s : AlertStore} {i : Id} {alert : SequenceEmailAlert}

theorem mem_dueAlerts (h : (i, alert) ∈ dueAlerts now limit s) :
    s.alerts[i]? = some alert ∧ alert.status = .pending := by
  have hmem := List.mem_of_mem_take h
  rw [List.mem_insertionSort, Table.mem_select] at hmem
  obtain ⟨hrow, hdue⟩ := hmem
  simp only [Bool.and_eq_true, beq_iff_eq] at hdue
  exact ⟨hrow, hdue.1⟩

theorem dueAlerts_nodup : ((dueAlerts now limit s).map Prod.fst).Nodup := by
  have hselected : ((s.alerts.select fun alert =>
      alert.status == .pending && alert.sendAt ≤ now).map Prod.fst).Nodup :=
    Table.select_nodup _ _
  unfold dueAlerts
  rw [List.map_take]
  apply List.Nodup.sublist (List.take_sublist _ _)
  exact ((List.perm_insertionSort _ _).map _).nodup_iff.mpr hselected

/-- A pending alert whose time has come is selected, unless the limit is used up. -/
theorem dueAlerts_reaches (hrow : s.alerts[i]? = some alert) (hstatus : alert.status = .pending)
    (hdue : alert.sendAt ≤ now) :
    (i, alert) ∈ dueAlerts now limit s ∨ (dueAlerts now limit s).length = limit := by
  unfold dueAlerts
  set rows := (s.alerts.select fun alert =>
    alert.status == .pending && alert.sendAt ≤ now).insertionSort fun a b => sooner a b
  have hmem : (i, alert) ∈ rows := by
    rw [List.mem_insertionSort, Table.mem_select]
    exact ⟨hrow, by simp [hstatus, hdue]⟩
  rcases Nat.le_total rows.length limit with hall | hcut
  · left
    rwa [List.take_of_length_le hall]
  · right
    rw [List.length_take]
    omega

end Selection

section Records

variable {now : Time} {s : AlertStore} {i : Id}

/-- The alert is stored and no longer pending. -/
def Attempted (i : Id) (s : AlertStore) : Prop :=
  ∃ alert, s.alerts[i]? = some alert ∧ alert.status ≠ .pending

theorem record_status (now : Time) (alert : SequenceEmailAlert) (outcome : SmtpOutcome) :
    (alert.record now outcome).status ≠ .pending := by
  cases outcome <;> simp [SequenceEmailAlert.record]

theorem record_length {j : Id} {outcome : SmtpOutcome} :
    (s.record now j outcome).alerts.length = s.alerts.length := by
  simp [AlertStore.record]

/-- An outcome closes its alert. -/
theorem record_attempts {outcome : SmtpOutcome} (h : i < s.alerts.length) :
    Attempted i (s.record now i outcome) := by
  refine ⟨(s.alerts[i]).record now outcome, ?_, record_status _ _ _⟩
  simp [AlertStore.record, h]

/-- No outcome reopens an alert. -/
theorem Attempted.record {j : Id} {outcome : SmtpOutcome} (h : Attempted i s) :
    Attempted i (s.record now j outcome) := by
  obtain ⟨alert, hrow, hstatus⟩ := h
  by_cases hij : j = i
  · subst hij
    exact record_attempts (List.getElem?_eq_some_iff.mp hrow).1
  · refine ⟨alert, ?_, hstatus⟩
    simpa [AlertStore.record, List.getElem?_modify, hij] using hrow

theorem Attempted.recordAll {outcomes : List (Id × SmtpOutcome)} (h : Attempted i s) :
    Attempted i (s.recordAll now outcomes) := by
  induction outcomes generalizing s with
  | nil => exact h
  | cons outcome rest ih => exact ih h.record

/-- The outcomes of a round close its alerts. -/
theorem recordAll_attempts {outcomes : List (Id × SmtpOutcome)} (h : i < s.alerts.length)
    (hi : i ∈ outcomes.map Prod.fst) : Attempted i (s.recordAll now outcomes) := by
  induction outcomes generalizing s with
  | nil => cases hi
  | cons outcome rest ih =>
    rcases List.mem_cons.mp hi with heq | hrest
    · subst heq
      exact (record_attempts h).recordAll
    · exact ih (by rwa [record_length]) hrest

/-- The rows that a round has no outcome for stay as they are. -/
theorem recordAll_other {outcomes : List (Id × SmtpOutcome)} (hi : i ∉ outcomes.map Prod.fst) :
    (s.recordAll now outcomes).alerts[i]? = s.alerts[i]? := by
  induction outcomes generalizing s with
  | nil => rfl
  | cons outcome rest ih =>
    rw [List.map_cons, List.mem_cons, not_or] at hi
    refine (ih hi.2).trans ?_
    simp [AlertStore.record, Ne.symm hi.1]

theorem Attempted.insertAlert {alert : SequenceEmailAlert} (h : Attempted i s) :
    Attempted i (s.insertAlert alert) := by
  obtain ⟨old, hrow, hstatus⟩ := h
  exact ⟨old, List.getElem?_append_left (List.getElem?_eq_some_iff.mp hrow).1 ▸ hrow, hstatus⟩

theorem commit_cases (s s' : AlertStore) : s.commit s' = s' ∨ s.commit s' = s := by
  unfold AlertStore.commit
  split
  · exact Or.inl rfl
  · exact Or.inr rfl

/-- A creation, committed or refused, closes no alert and opens none again. -/
theorem commitInsert_keeps (i : Id) (s : AlertStore) (alert : SequenceEmailAlert) :
    (Attempted i s → Attempted i (s.commit (s.insertAlert alert))) ∧
      s.alerts.length ≤ (s.commit (s.insertAlert alert)).alerts.length := by
  rcases commit_cases s (s.insertAlert alert) with hnew | hold
  · rw [hnew]
    exact ⟨fun h => h.insertAlert, by simp [AlertStore.insertAlert]⟩
  · rw [hold]
    exact ⟨id, le_rfl⟩

theorem acceptedAlerts_send (i : Id) (w : AlertWorld) (send : AlertSend) :
    acceptedAlerts i { w with external := w.external ++ [send] } =
      acceptedAlerts i w + if send.alertId == i && send.outcome.isOk then 1 else 0 := by
  simp [acceptedAlerts, List.countP_append, List.countP_singleton]

end Records

section Once

variable [Casing]

/-- What is known of an alert while no round is open. -/
def alertedOnce (i : Id) (w : AlertWorld) : Prop :=
  acceptedAlerts i w ≤ 1 ∧ (acceptedAlerts i w = 1 → Attempted i w.store)

/-- What an open round knows of an alert: its mail was accepted at most once, and then
the alert is behind the round. -/
def roundKnows (i : Id) (w : AlertWorld) : AlertCall → Prop
  | .insert _ => True
  | .sending _ remaining outcomes =>
    (remaining.map Prod.fst).Nodup ∧
      (∀ alert ∈ remaining, alert.1 < w.store.alerts.length) ∧
      acceptedAlerts i w ≤ 1 ∧
      (acceptedAlerts i w = 1 → i ∉ remaining.map Prod.fst ∧
        (Attempted i w.store ∨ i < w.store.alerts.length ∧ i ∈ outcomes.map Prod.fst))

/-- The phases of the calls guard the mail of an alert. -/
theorem alerting_guards (i : Id) :
    Lib.Guards alerting AlertCall.isRound roundTaken (roundKnows i) (alertedOnce i) where
  start := by
    intro request w call hstart hround hidle
    cases request with
    | create now e request actor key =>
      simp only [alerting, startAlertCall] at hstart
      split at hstart
      · cases hstart
        cases hround
      · cases hstart
    | process round limit =>
      cases hstart
      refine ⟨dueAlerts_nodup, ?_, hidle.1, ?_⟩
      · rintro ⟨j, alert⟩ hselected
        exact (List.getElem?_eq_some_iff.mp (mem_dueAlerts hselected).1).1
      · intro hone
        obtain ⟨alert, hrow, hstatus⟩ := hidle.2 hone
        refine ⟨?_, Or.inl ⟨alert, hrow, hstatus⟩⟩
        intro hselected
        obtain ⟨⟨j, found⟩, hfound, rfl⟩ := List.mem_map.mp hselected
        obtain ⟨hstored, hpending⟩ := mem_dueAlerts hfound
        rw [hrow] at hstored
        cases hstored
        exact hstatus hpending
  next := by
    intro w call call' hround _ hduring hnext
    cases call with
    | insert alert => cases hround
    | sending round remaining outcomes =>
      cases remaining with
      | nil => cases hnext
      | cons alert rest =>
        cases hnext
        refine ⟨rfl, ?_⟩
        obtain ⟨hnodup, hplaces, hatMost, hbehind⟩ := hduring
        rw [List.map_cons, List.nodup_cons] at hnodup
        obtain ⟨hfresh, hrest⟩ := hnodup
        refine ⟨hrest, fun other hother => hplaces other (List.mem_cons_of_mem _ hother), ?_⟩
        have hsend := acceptedAlerts_send i w
          { alertId := alert.1
            request := round.mail alert.1 alert.2
            outcome := round.sender (round.mail alert.1 alert.2) }
        by_cases hcounts : (alert.1 == i &&
            (round.sender (round.mail alert.1 alert.2)).isOk) = true
        · have hi : alert.1 = i := by
            simp only [Bool.and_eq_true, beq_iff_eq] at hcounts
            exact hcounts.1
          have hnone : acceptedAlerts i w = 0 := by
            by_contra hsome
            have hone : acceptedAlerts i w = 1 := by omega
            exact (hbehind hone).1 (by simp [hi])
          rw [if_pos hcounts, hnone] at hsend
          have hplace := hplaces alert List.mem_cons_self
          subst hi
          exact ⟨le_of_eq hsend, fun _ => ⟨hfresh, Or.inr ⟨hplace, by simp⟩⟩⟩
        · rw [if_neg hcounts, Nat.add_zero] at hsend
          refine ⟨hsend.trans_le hatMost, ?_⟩
          intro hone
          obtain ⟨hbehindRest, hclosed⟩ := hbehind (hsend.symm.trans hone)
          rw [List.map_cons, List.mem_cons, not_or] at hbehindRest
          refine ⟨hbehindRest.2, hclosed.imp_right ?_⟩
          rintro ⟨hplace, houtcome⟩
          exact ⟨hplace, by rw [List.map_append]; exact List.mem_append_left _ houtcome⟩
  finish := by
    intro w call hround htaken hduring hnext
    cases call with
    | insert alert => cases hround
    | sending round remaining outcomes =>
      cases remaining with
      | cons alert rest => cases hnext
      | nil =>
        obtain ⟨-, -, hatMost, hbehind⟩ := hduring
        refine ⟨hatMost, ?_⟩
        intro hone
        have hcommit : (alerting.advance (.sending round [] outcomes) w).2.store =
            w.store.recordAll round.now outcomes := if_pos htaken
        rw [hcommit]
        rcases (hbehind hone).2 with hattempted | ⟨hplace, houtcome⟩
        · exact hattempted.recordAll
        · exact recordAll_attempts hplace houtcome
  other := by
    intro w call call' hother hnext
    cases call with
    | insert alert => cases hnext
    | sending round remaining outcomes => cases hother
  stable := by
    intro w call hother
    cases call with
    | sending round remaining outcomes => cases hother
    | insert alert =>
      obtain ⟨hattempted, hlength⟩ := commitInsert_keeps i w.store alert
      refine ⟨?_, ?_⟩
      · exact fun hidle => ⟨hidle.1, fun hone => hattempted (hidle.2 hone)⟩
      · intro owner hround hduring
        cases owner with
        | insert other => trivial
        | sending round remaining outcomes =>
          obtain ⟨hnodup, hplaces, hatMost, hbehind⟩ := hduring
          refine ⟨hnodup, fun other hother => (hplaces other hother).trans_le hlength, hatMost, ?_⟩
          intro hone
          obtain ⟨hahead, hclosed⟩ := hbehind hone
          exact ⟨hahead, hclosed.imp hattempted fun h => ⟨h.1.trans_le hlength, h.2⟩⟩

end Once

section Kept

variable [Casing]

/-- Every alert that was taken from the queue had its mail accepted: in the tables, and
in the rounds that have still to commit. -/
structure NoneDropped (floor : Floor AlertWorld AlertCall) : Prop where
  rows : ∀ i alert, floor.world.store.alerts[i]? = some alert → alert.status ≠ .pending →
    0 < acceptedAlerts i floor.world
  rounds : ∀ j round remaining outcomes,
    floor.open? j = some (.sending round remaining outcomes) →
      ∀ i ∈ outcomes.map Prod.fst, 0 < acceptedAlerts i floor.world
  inserts : ∀ j alert, floor.open? j = some (.insert alert) → alert.status = .pending

theorem NoneDropped.start {floor : Floor AlertWorld AlertCall} (h : NoneDropped floor)
    (request : AlertRequest) : NoneDropped (alerting.step floor (.start request)) := by
  cases hstart : alerting.start request floor.world with
  | none =>
    rw [alerting.step_idle hstart]
    exact h
  | some call =>
    rw [alerting.step_start hstart]
    refine ⟨h.rows, ?_, ?_⟩
    · intro j round remaining outcomes hopen i hi
      rcases Floor.open?_start hopen with hold | hnew
      · exact h.rounds j round remaining outcomes hold i hi
      · subst hnew
        cases request with
        | create now e request actor key =>
          simp only [alerting, startAlertCall] at hstart
          split at hstart <;> cases hstart
        | process given limit =>
          cases hstart
          cases hi
    · intro j alert hopen
      rcases Floor.open?_start hopen with hold | hnew
      · exact h.inserts j alert hold
      · subst hnew
        cases request with
        | create now e request actor key =>
          simp only [alerting, startAlertCall] at hstart
          split at hstart
          · cases hstart
            rfl
          · cases hstart
        | process round limit => cases hstart

/-- The mail accepted before a phase stays accepted. -/
theorem advance_accepted (call : AlertCall) (w : AlertWorld) (i : Id) :
    acceptedAlerts i w ≤ acceptedAlerts i (alerting.advance call w).2 := by
  cases call with
  | insert alert => exact le_rfl
  | sending round remaining outcomes =>
    cases remaining with
    | nil => exact le_rfl
    | cons alert rest =>
      exact (Nat.le_add_right _ _).trans_eq (acceptedAlerts_send i w _).symm

/-- Where the rows that a phase leaves come from: they were there before, were inserted,
or their round had an outcome for them. -/
theorem advance_rows {call : AlertCall} {w : AlertWorld} {i : Id} {alert : SequenceEmailAlert}
    (hrow : (alerting.advance call w).2.store.alerts[i]? = some alert) :
    w.store.alerts[i]? = some alert ∨ call = .insert alert ∨
      ∃ round remaining outcomes, call = .sending round remaining outcomes ∧
        i ∈ outcomes.map Prod.fst := by
  cases call with
  | insert new =>
    have hcommitted : (w.store.commit (w.store.insertAlert new)).alerts[i]? = some alert := hrow
    rcases commit_cases w.store (w.store.insertAlert new) with hnew | hold
    · rw [hnew] at hcommitted
      rcases Table.get_concat hcommitted with hkept | ⟨-, rfl⟩
      · exact Or.inl hkept
      · exact Or.inr (Or.inl rfl)
    · rw [hold] at hcommitted
      exact Or.inl hcommitted
  | sending round remaining outcomes =>
    cases remaining with
    | cons next rest => exact Or.inl hrow
    | nil =>
      have hcommitted : (w.store.commit
        (w.store.recordAll round.now outcomes)).alerts[i]? = some alert := hrow
      by_cases hi : i ∈ outcomes.map Prod.fst
      · exact Or.inr (Or.inr ⟨round, [], outcomes, rfl, hi⟩)
      · rcases commit_cases w.store (w.store.recordAll round.now outcomes) with hnew | hold
        · rw [hnew, recordAll_other hi] at hcommitted
          exact Or.inl hcommitted
        · rw [hold] at hcommitted
          exact Or.inl hcommitted

/-- A phase whose mail is accepted drops no alert. -/
theorem NoneDropped.advance {floor : Floor AlertWorld AlertCall} (h : NoneDropped floor)
    (j : Nat) (htaken : ∀ call, floor.open? j = some call → roundTaken floor.world call) :
    NoneDropped (alerting.step floor (.advance j)) := by
  cases hopen : floor.open? j with
  | none =>
    rw [alerting.step_closed hopen]
    exact h
  | some call =>
    rw [alerting.step_advance hopen]
    refine ⟨?_, ?_, ?_⟩
    · intro i alert hrow hstatus
      refine Nat.lt_of_lt_of_le ?_ (advance_accepted call floor.world i)
      rcases advance_rows hrow with hold | hinsert | ⟨round, remaining, outcomes, hcall, hi⟩
      · exact h.rows i alert hold hstatus
      · exact absurd (h.inserts j alert (hinsert ▸ hopen)) hstatus
      · exact h.rounds j round remaining outcomes (hcall ▸ hopen) i hi
    · intro k round remaining outcomes hfound i hi
      rcases Floor.open?_advance hfound with ⟨rfl, hnext⟩ | ⟨-, hold⟩
      · cases call with
        | insert alert => cases hnext
        | sending round remaining outcomes =>
          cases remaining with
          | nil => cases hnext
          | cons alert rest =>
            cases hnext
            rw [List.map_append, List.mem_append] at hi
            rcases hi with hbefore | hnow
            · exact (h.rounds j round _ outcomes hopen i hbefore).trans_le
                (advance_accepted _ floor.world i)
            · have hi : i = alert.1 := by simpa using hnow
              have haccepted := htaken _ hopen
              have hsend := acceptedAlerts_send i floor.world
                { alertId := alert.1
                  request := round.mail alert.1 alert.2
                  outcome := round.sender (round.mail alert.1 alert.2) }
              rw [if_pos (by simp [hi]; exact haccepted)] at hsend
              exact Nat.lt_of_lt_of_eq (Nat.succ_pos _) hsend.symm
      · exact (h.rounds k round remaining outcomes hold i hi).trans_le
          (advance_accepted call floor.world i)
    · intro k alert hfound
      rcases Floor.open?_advance hfound with ⟨rfl, hnext⟩ | ⟨-, hold⟩
      · cases call with
        | insert alert => cases hnext
        | sending round remaining outcomes =>
          cases remaining with
          | nil => cases hnext
          | cons next rest => cases hnext
      · exact h.inserts k alert hold

/-- No mail has gone out yet, and every alert waits. -/
structure AlertsWaiting (w : AlertWorld) : Prop where
  unsent : w.external = []
  pending : ∀ alert ∈ w.store.alerts, alert.status = .pending

/-- When rounds do not overlap, the sender accepts what it is given and the database
takes the outcomes, an alert's mail is accepted at most once, and an alert whose mail
was not accepted is selected once it is due, up to the limit. -/
theorem due_alert_sent_once {w : AlertWorld} (hstart : AlertsWaiting w)
    {events : List (Event AlertRequest)}
    (hrun : Lib.Admissible alerting.step
      (Lib.Exclusive alerting AlertCall.isRound roundTaken) { world := w } events) (i : Id) :
    let reached := (Lib.run alerting.step { world := w } events).world
    acceptedAlerts i reached ≤ 1 ∧
      ∀ alert, reached.store.alerts[i]? = some alert → acceptedAlerts i reached = 0 →
        ∀ now limit, alert.sendAt ≤ now →
          (i, alert) ∈ dueAlerts now limit reached.store ∨
            (dueAlerts now limit reached.store).length = limit := by
  intro reached
  have hnone : ∀ i, acceptedAlerts i w = 0 := by
    intro i
    simp [acceptedAlerts, hstart.unsent]
  have hguarded : Lib.Guarded AlertCall.isRound (roundKnows i) (alertedOnce i)
      (Lib.run alerting.step { world := w } events) := by
    apply (alerting_guards i).run_keeps hrun
    apply Lib.Guarded.of_no_calls
    exact ⟨by simp [hnone], by simp [hnone]⟩
  have hkept : NoneDropped (Lib.run alerting.step { world := w } events) := by
    refine Lib.run_keeps ?_ hrun ?_
    · intro floor event hok hfloor
      cases event with
      | start request => exact hfloor.start request
      | advance j =>
        apply hfloor.advance j
        intro call hopen
        cases call with
        | insert alert => trivial
        | sending round remaining outcomes => exact hok _ hopen rfl
    · refine ⟨?_, ?_, ?_⟩
      · intro i alert hrow hstatus
        exact absurd (hstart.pending alert (List.mem_of_getElem? hrow)) hstatus
      · intro j round remaining outcomes hopen
        simp [Floor.open?] at hopen
      · intro j alert hopen
        simp [Floor.open?] at hopen
  constructor
  · rcases hguarded.cases with ⟨call, hround, hknows⟩ | hidle
    · cases call with
      | insert alert => cases hround
      | sending round remaining outcomes => exact hknows.2.2.1
    · exact hidle.1
  · intro alert hrow hunsent now limit hdue
    have hstatus : alert.status = .pending := by
      by_contra htaken
      exact Nat.ne_of_gt (hkept.rows i alert hrow htaken) hunsent
    exact dueAlerts_reaches hrow hstatus hdue

end Kept

section Rounds

/-- A stored alert that waits for its time. -/
def waitingAlert : SequenceEmailAlert where
  enrollmentId := 0
  recipientEmail := "ada@corp.example"
  subject := "Follow up"
  body := "Hello"
  sendAt := 10
  idempotencyKey := "alert:1"
  createdAt := 0
  updatedAt := 0

def oneAlert : AlertWorld where
  store := { alerts := [waitingAlert] }
  external := []

/-- A round at time 20 whose sender accepts everything. -/
def acceptingRound : AlertRequest :=
  .process { now := 20, sender := fun request => .ok request.messageId } 50

/-- A round at time 20 whose sender refuses everything. -/
def refusingRound : AlertRequest :=
  .process { now := 20, sender := fun _ => .error "connection refused" } 50

/-- Two rounds that overlap have the mail accepted twice; after a refusal no round
selects the alert again. -/
theorem alerts_doubled_or_dropped :
    acceptedAlerts 0 (Lib.run alerting.step { world := oneAlert }
        [.start acceptingRound, .start acceptingRound, .advance 0, .advance 1, .advance 0,
          .advance 1]).world = 2 ∧
      acceptedAlerts 0 (Lib.run alerting.step { world := oneAlert }
        [.start refusingRound, .advance 0, .advance 0]).world = 0 ∧
      (Lib.run alerting.step { world := oneAlert }
        [.start refusingRound, .advance 0, .advance 0]).world.store.alerts.map
          (fun alert => (alert.sendAt, alert.status)) = [(10, .failedRetryable)] ∧
      dueAlerts 30 50 (Lib.run alerting.step { world := oneAlert }
        [.start refusingRound, .advance 0, .advance 0]).world.store = [] := by
  refine ⟨?_, ?_, ?_, ?_⟩ <;> decide +kernel

/-- A second round that starts once the first has committed sends nothing. -/
theorem alert_sent_in_turn :
    acceptedAlerts 0 (Lib.run alerting.step { world := oneAlert }
      [.start acceptingRound, .advance 0, .advance 0, .start acceptingRound,
        .advance 1]).world ≤ 1 := by
  have hwaiting : AlertsWaiting oneAlert := by
    refine ⟨rfl, ?_⟩
    simp [oneAlert, waitingAlert]
  exact (due_alert_sent_once hwaiting (by decide +kernel) 0).1

end Rounds

end GhostRecon
