import GhostRecon.Sequencing.Progress

/-!
Announcing that a sequence is completed. The announcement closes the enrollment
and clears its next step; scheduler rounds, approvals and bookings then leave it
alone, because they look at its status. Replies, completed activities and the
link of a booked meeting do not look, and a bounce lets a completed enrollment
be resumed: each of them can announce the completion again or set a next step.
-/

namespace GhostRecon

open Lib (Id Table Chain Admissible after)
open Std.Do

set_option mvcgen.warning false

section Records

/-- The completion of an enrollment is announced at most once, and there is no
next step afterwards. -/
def CompletesOnce (s : Store) : Prop :=
  ∀ e, s.completions e ≤ 1 ∧
    (s.done e = true → ∀ row, s.enrollments[e]? = some row → row.nextStepAt = none)

/-- What the calls that look at the status rely on: an enrollment whose
completion is on record is not active. -/
structure CompletedOnce (s : Store) : Prop where
  once : ∀ e, s.completions e ≤ 1
  closed : ∀ e, s.done e = true → ∃ row, s.enrollments[e]? = some row ∧
    row.nextStepAt = none ∧ row.status ≠ .active

theorem CompletedOnce.completes {s : Store} (h : CompletedOnce s) : CompletesOnce s := by
  intro e
  refine ⟨h.once e, ?_⟩
  intro hdone row hrow
  obtain ⟨stored, hstored, hnext, -⟩ := h.closed e hdone
  obtain rfl : stored = row := Option.some.inj (hstored.symm.trans hrow)
  exact hnext

theorem Initial.completedOnce {w : DbWorld} (h : Initial w) : CompletedOnce w.store := by
  refine ⟨fun e => ?_, fun e hdone => ?_⟩
  · simp [Store.completions, h.outbox]
  · simp [Store.done, Store.completions, h.outbox] at hdone

/-- The change looks at the status of the enrollment, or its completion is not on
record. -/
def Mark.opens : Mark → Prop
  | .stir active done | .finish _ active done => active = true ∨ done = false
  | .routine => True

/-- An enrollment that an admitted change is about was not completed. -/
theorem CompletedOnce.not_done {s : Store} (h : CompletedOnce s) {e : Id}
    {row : SequenceEnrollment} (hrow : s.enrollments[e]? = some row)
    (hopens : (row.status == .active) = true ∨ s.done e = false) : s.done e = false := by
  rcases hopens with hactive | hfresh
  · by_contra hdone
    rw [Bool.not_eq_false] at hdone
    obtain ⟨stored, hstored, -, hstatus⟩ := h.closed e hdone
    obtain rfl : stored = row := Option.some.inj (hstored.symm.trans hrow)
    exact hstatus (beq_iff_eq.mp hactive)
  · exact hfresh

/-- A change that announces nothing and leaves the completed enrollments as they
are. -/
theorem CompletedOnce.keep {s s' : Store} (h : CompletedOnce s)
    (hcompletions : ∀ e, s'.completions e = s.completions e)
    (hrows : ∀ e row, s.done e = true → s.enrollments[e]? = some row →
      row.nextStepAt = none → row.status ≠ .active →
      ∃ row', s'.enrollments[e]? = some row' ∧ row'.nextStepAt = none ∧ row'.status ≠ .active) :
    CompletedOnce s' := by
  refine ⟨fun e => ?_, fun e hdone => ?_⟩
  · rw [hcompletions]
    exact h.once e
  · rw [Store.done, hcompletions] at hdone
    obtain ⟨row, hrow, hnext, hstatus⟩ := h.closed e hdone
    exact hrows e row hdone hrow hnext hstatus

theorem CompletedOnce.same {s s' : Store} (h : CompletedOnce s)
    (henrollments : s'.enrollments = s.enrollments)
    (hcompletions : ∀ e, s'.completions e = s.completions e) : CompletedOnce s' := by
  refine h.keep hcompletions ?_
  intro e row _ hrow hnext hstatus
  rw [henrollments]
  exact ⟨row, hrow, hnext, hstatus⟩

/-- An update of an enrollment whose completion is not on record. -/
theorem CompletedOnce.update {s : Store} (h : CompletedOnce s) {e : Id}
    {f : SequenceEnrollment → SequenceEnrollment} (hfresh : s.done e = false) :
    CompletedOnce (s.updateEnrollment e f) := by
  refine h.keep (fun _ => rfl) ?_
  intro k row hdone hrow hnext hstatus
  refine ⟨row, Table.get_modify hrow ?_ (fun _ => rfl), hnext, hstatus⟩
  rintro rfl
  rw [hfresh] at hdone
  cases hdone

theorem completeWith_completions {now : Time} {e k : Id} {loaded : SequenceEnrollment}
    {reason : Option String} {s : Store} :
    (completeWith now e loaded reason s).completions k =
      s.completions k + if e = k then 1 else 0 := by
  simp only [Store.completions, completeWith, enqueueEvent, Store.updateEnrollment,
    List.countP_append, List.countP_singleton, OutboxEvent.completes, beq_self_eq_true,
    Bool.true_and, beq_iff_eq]

/-- The first announcement. -/
theorem CompletedOnce.complete {s : Store} (h : CompletedOnce s) {now : Time} {e : Id}
    {row loaded : SequenceEnrollment} {reason : Option String}
    (hrow : s.enrollments[e]? = some row) (hfresh : s.done e = false) :
    CompletedOnce (completeWith now e loaded reason s) := by
  have hnone : s.completions e = 0 := by
    simpa [Store.done] using hfresh
  refine ⟨fun k => ?_, fun k hdone => ?_⟩
  · rw [completeWith_completions]
    split
    · next hk =>
      rw [← hk, hnone]
    · exact h.once k
  · by_cases hk : e = k
    · subst hk
      exact ⟨_, Table.get_modify hrow (fun _ => rfl) (fun hne => absurd rfl hne), rfl, by simp⟩
    · rw [Store.done, completeWith_completions, if_neg hk] at hdone
      obtain ⟨stored, hstored, hnext, hstatus⟩ := h.closed k hdone
      exact ⟨stored, Table.get_modify hstored (fun heq => absurd heq hk) (fun _ => rfl), hnext,
        hstatus⟩

theorem CompletedOnce.advance {s : Store} (h : CompletedOnce s) {now : Time} {e : Id}
    {row : SequenceEnrollment} {step : SequenceStep} (hrow : s.enrollments[e]? = some row)
    (hfresh : s.done e = false) : CompletedOnce (advanceEnrollment now e row step s) := by
  rcases advanceEnrollment_eq now e row step s with hdone | ⟨order, due, hnext⟩
  · rw [hdone]
    exact h.complete hrow hfresh
  · rw [hnext]
    exact h.update hfresh

/-- What an admitted move keeps. -/
theorem Move.keeps_completedOnce {mark : Mark} {s s' : Store} (hmove : Move mark s s')
    (hmark : mark.opens) (h : CompletedOnce s) : CompletedOnce s' := by
  cases hmove with
  | beside hbeside => exact h.same hbeside.enrollments hbeside.completions
  | enroll _ _ =>
    refine h.keep (fun _ => rfl) ?_
    intro e row _ hrow hnext hstatus
    exact ⟨row, Table.get_of_prefix (List.prefix_append _ _) e row hrow, hnext, hstatus⟩
  | draft _ => exact h.same rfl fun _ => rfl
  | mail _ => exact h.same rfl fun _ => rfl
  | openActivity _ _ => exact h.same rfl fun _ => rfl
  | activity _ _ => exact h.same rfl fun _ => rfl
  | turn hrow hturn =>
    rename_i e row f
    generalize hdone : s.done e = done at hturn
    cases hturn with
    | hold _ hstatus hnext =>
      refine h.keep (fun _ => rfl) ?_
      intro k old _ hold hclear hinactive
      by_cases hk : e = k
      · subst hk
        obtain rfl : row = old := Option.some.inj (hrow.symm.trans hold)
        refine ⟨f row, Table.get_modify hrow (fun _ => rfl) (fun hne => absurd rfl hne), ?_, ?_⟩
        · rcases hnext with hsame | hnone
          · rw [hsame]
            exact hclear
          · exact hnone
        · exact fun hactive => hinactive (hstatus hactive)
      · exact ⟨old, Table.get_modify hold (fun heq => absurd heq hk) (fun _ => rfl), hclear,
          hinactive⟩
    | due _ =>
      subst hdone
      exact h.update (h.not_done hrow hmark)
  | complete hrow => exact h.complete hrow (h.not_done hrow hmark)
  | finish _ hrow _ _ _ =>
    exact CompletedOnce.same (h.advance hrow (h.not_done hrow hmark)) rfl fun _ => rfl

end Records

section Runs

variable [Casing]

/-- The call announces a completion or sets a next step without looking whether
the enrollment's completion is on record already, and it is; or it books a
meeting, which completes the active enrollment, and then advances it. -/
def Call.reopens (c : Call) (w : DbWorld) : Bool :=
  match c.op with
  | .resume e =>
    w.store.done e && (w.store.enrollments[e]?).any (!·.status.terminal)
  | .inbound request key =>
    request.eventType == .reply &&
      (w.store.inboundEvents.first? (·.idempotencyKey == key)).isNone &&
      (linkedEnrollment w.store request).any (w.store.done ·.1)
  | .completeActivity a _ _ =>
    (w.store.activities[a]?).any fun activity =>
      (activity.status == .pending || activity.status == .scheduled) &&
        w.store.done activity.enrollmentId
  | .scheduleMeeting a _ _ _ =>
    (w.store.activities[a]?).any fun activity =>
      (activity.status == .pending || activity.status == .scheduled) &&
        (w.store.done activity.enrollmentId ||
          (w.store.enrollments[activity.enrollmentId]?).any (·.status == .active) &&
            (w.store.meetings.first?
              (·.idempotencyKey == "sequence-meeting:" ++ toString a)).isNone)
  | _ => false

/-- A booking that is stored already, or whose enrollment is not active,
completes nothing. -/
theorem createMeeting_completions (rt : Runtime) (request : MeetingCreateRequest)
    (actor key : String) (client : CalendarClient) (w : DbWorld)
    (h : (w.store.meetings.first? (·.idempotencyKey == key)).isSome = true ∨
      ∀ e row, request.sequenceEnrollmentId = some e → w.store.enrollments[e]? = some row →
        row.status ≠ .active) (e : Id) :
    (after (createMeeting rt request actor key client) w).store.completions e =
      w.store.completions e := by
  unfold createMeeting
  split
  · rfl
  · refine (Lib.sessionScope_keeps
      (I := fun s : Store => s.completions e = w.store.completions e) rfl ?_).1
    mvcgen [flush, Lib.flush, Lib.queryOrRaise]
    all_goals subst_vars
    · rfl
    · next s hnew target _ contact _ attendees _ _ _ enrollment henrollment meeting _ event
        result _ =>
      have hinactive := h.resolve_left (by simp [hnew])
      refine ((enqueueEvent_beside (by decide)).completions e).trans ?_
      cases enrollment with
      | none => rfl
      | some found =>
        obtain ⟨k, row⟩ := found
        have hrow := enrollmentForMeeting_stored henrollment k row rfl
        have hnamed : request.sequenceEnrollmentId = some k := by
          unfold enrollmentForMeeting at henrollment
          split at henrollment
          · cases henrollment
          · split at henrollment
            · cases henrollment
              assumption
            · cases henrollment
        simp only [completeBooked, hinactive k row hnamed hrow, if_false]
        rfl

/-- A call that reopens nothing only touches enrollments whose completion is not
on record, or looks at their status. -/
theorem opens_admitted {w : DbWorld} {c : Call} (h : c.reopens w = false) :
    Admitted Mark.opens w c where
  routine := trivial
  active := fun _ => Or.inl rfl
  approval := fun _ _ _ => Or.inl rfl
  resume := by
    intro e row hop hrow hlive
    right
    simpa [Call.reopens, hop, hrow, hlive] using h
  reply := by
    intro request key hop htype hfresh e row hlinked
    right
    simpa [Call.reopens, hop, htype, hfresh, hlinked] using h
  complete := by
    intro a request actor hop activity enrollment hactivity _ hstatus
    right
    simpa [Call.reopens, hop, hactivity, hstatus] using h
  schedule := by
    intro a request actor client hop row enrollment booking v activity enrollment' hcontext
      hbooking hactivity _
    obtain ⟨hstore, hrow, hstatus, hstored⟩ := meetingContext_some hcontext
    rw [createMeeting_activities, hstore, hrow] at hactivity
    obtain rfl : row = activity := Option.some.inj hactivity
    right
    have hboth : w.store.done row.enrollmentId = false ∧ (enrollment.status = .active →
        (w.store.meetings.first?
          (·.idempotencyKey == "sequence-meeting:" ++ toString a)).isSome = true) := by
      simpa [Call.reopens, hop, hrow, hstatus, hstored] using h
    have hkept := createMeeting_completions c.rt booking actor
      ("sequence-meeting:" ++ toString a) client v ?_ row.enrollmentId
    · rw [Store.done, hkept, hstore]
      exact hboth.1
    · rw [hstore]
      by_cases hactive : enrollment.status = .active
      · exact Or.inl (hboth.2 hactive)
      · right
        intro e found hnamed hfound
        subst hbooking
        obtain rfl : row.enrollmentId = e := Option.some.inj hnamed
        obtain rfl : enrollment = found := Option.some.inj (hstored.symm.trans hfound)
        exact hactive

theorem step_completedOnce {w : DbWorld} {c : Call} (h : c.reopens w = false)
    (hs : CompletedOnce w.store) : CompletedOnce (step w c).store :=
  Chain.keeps (fun hmark hmove => hmove.keeps_completedOnce hmark) (step_moves (opens_admitted h))
    hs

/-- In every run of calls that reopen nothing, each completion is announced at
most once, and there is no next step afterwards. -/
theorem completions_announced_once (w : DbWorld) (calls : List Call)
    (hstart : CompletedOnce w.store)
    (hrun : Admissible step (fun v c => c.reopens v = false) w calls) :
    CompletesOnce (runCalls w calls).store := by
  apply CompletedOnce.completes
  exact Lib.run_keeps (I := fun v : DbWorld => CompletedOnce v.store)
    (fun v c hc hv => step_completedOnce hc hv) hrun hstart

end Runs

section Announced

/-- A mail and a call; the mail is sent and the call is due. -/
def mailThenCall : List Call :=
  [Op.at (.createSequence
      { name := "outreach"
        steps := [{ subjectTemplate := some "Hello", bodyTemplate := some "First" },
          { channel := .call }] } none) 10,
    Op.at (.createEnrollment
      { sequenceId := 0, crmTargetId := 0, outreachApproved := true
        approvalReason := "approved" } "operator" "enroll:ada") 20,
    Op.at (.sendNext 0) 30,
    Op.at (.sendApproved 0 "operator" acceptMail) 40,
    Op.at (.sendNext 0) 50]

/-- Ada answers the mail. -/
def replyToMail : Call :=
  Op.at (.inbound { eventType := .reply, fromEmail := some "ada@corp.example"
                    providerMessageId := some "message-1" } "reply:1") 60

/-- The operator, who made the call all the same, announces the completion a
second time. -/
theorem late_call_completes_twice :
    ¬ ∀ (w : DbWorld) (calls : List Call), Initial w →
      CompletesOnce (runCalls w calls).store := by
  intro h
  have honce := (h deployment
    (mailThenCall ++ [replyToMail, Op.at (.completeActivity 1 {} "operator") 70])
    deployment_initial 0).1
  have htwice : (runCalls deployment (mailThenCall ++ [replyToMail,
      Op.at (.completeActivity 1 {} "operator") 70])).store.completions 0 = 2 := by
    decide +kernel
  rw [htwice] at honce
  exact absurd honce (by decide)

/-- Without the late call the reply's announcement is the only one. -/
theorem reply_completes_once :
    CompletesOnce (runCalls deployment (mailThenCall ++ [replyToMail])).store :=
  completions_announced_once _ _ deployment_initial.completedOnce (by decide +kernel)

end Announced

end GhostRecon
