import GhostRecon.Sequencing.Progress

/-!
Working off activities. An activity that waits is one of its enrollment's
current step, and at most one of an enrollment waits, so working it off moves
the enrollment on. The status `scheduled` does not wait any more, but it is
accepted again: a scheduled meeting can be scheduled or completed a second
time, and each time the enrollment moves on from the meeting's step.
-/

namespace GhostRecon

open Lib (Id Table Chain Admissible after returned)
open Std.Do

set_option mvcgen.warning false

section Standing

/-- The activities are about steps of their enrollment's own definition, those
that wait about the current one. -/
def Standing (s : Store) : Prop :=
  ∀ (a : Id) (row : SequenceStepActivity), s.activities[a]? = some row →
    ∃ enrollment step, OwnStep s row.enrollmentId row.sequenceStepId enrollment step ∧
      (row.status.waits = true → step.stepOrder = enrollment.currentStepOrder)

/-- No enrollment is lost or set back. -/
def Forward (s s' : Store) : Prop :=
  ∀ (e : Id) (row : SequenceEnrollment), s.enrollments[e]? = some row →
    ∃ row', s'.enrollments[e]? = some row' ∧ row.currentStepOrder ≤ row'.currentStepOrder

/-- One activity for each step of an enrollment, one step for each order. -/
structure KeysUnique (s : Store) : Prop where
  activities : s.activities.uniqueOn (fun row => some row.idempotencyKey) = true
  steps : s.steps.uniqueOn (fun row =>
    some (row.sequenceId, row.definitionVersion, row.stepOrder)) = true

theorem Forward.refl (s : Store) : Forward s s :=
  fun _ row hrow => ⟨row, hrow, Nat.le_refl _⟩

theorem Forward.trans {a b c : Store} (hab : Forward a b) (hbc : Forward b c) :
    Forward a c := by
  intro e row hrow
  obtain ⟨middle, hmiddle, hle⟩ := hab e row hrow
  obtain ⟨last, hlast, hle'⟩ := hbc e middle hmiddle
  exact ⟨last, hlast, Nat.le_trans hle hle'⟩

theorem keysUnique_of_constraints {s : Store} (h : s.constraintsOk = true) : KeysUnique s :=
  ⟨Store.activities_unique h, Store.steps_unique h⟩

/-- The tables of a move only grow, and keys are never rewritten. -/
theorem Move.unique_before {mark : Mark} {s s' : Store} (h : Move mark s s')
    (hunique : KeysUnique s') : KeysUnique s := by
  have hkey : ∀ {a : Id} {f : SequenceStepActivity → SequenceStepActivity},
      (∀ row : SequenceStepActivity, (f row).enrollmentId = row.enrollmentId ∧
        (f row).sequenceStepId = row.sequenceStepId) →
      Table.uniqueOn (s.activities.modify a f) (fun row => some row.idempotencyKey) = true →
      s.activities.uniqueOn (fun row => some row.idempotencyKey) = true := by
    intro a f hkept hafter
    rwa [Table.uniqueOn_modify] at hafter
    intro row
    simp only [SequenceStepActivity.idempotencyKey, hkept row]
  refine ⟨?_, Table.uniqueOn_of_prefix h.steps_grow hunique.steps⟩
  have hactivities := hunique.activities
  cases h with
  | beside h =>
    rw [← h.activities]
    exact hactivities
  | enroll _ _ => exact hactivities
  | draft _ => exact hactivities
  | mail _ => exact hactivities
  | openActivity _ _ => exact Table.uniqueOn_of_prefix (List.prefix_append _ _) hactivities
  | activity hkept _ => exact hkey hkept hactivities
  | turn _ _ => exact hactivities
  | complete _ => exact hactivities
  | finish _ _ _ hkept _ =>
    apply hkey hkept
    simpa only [Store.updateActivity, advanceEnrollment_activities] using hactivities

/-- An admitted mark: an activity is worked off while it waits. -/
def Mark.onTime : Mark → Prop
  | .finish status _ _ => status.waits = true
  | .routine | .stir _ _ => True

/-- Two waiting activities of an enrollment are one. -/
theorem Standing.waits_once {s : Store} (h : Standing s) (hunique : KeysUnique s) {a b : Id}
    {first second : SequenceStepActivity} (hfirst : s.activities[a]? = some first)
    (hsecond : s.activities[b]? = some second) (hsame : second.enrollmentId = first.enrollmentId)
    (hwaits : first.status.waits = true) (hwaits' : second.status.waits = true) : a = b := by
  obtain ⟨enrollment, step, hown, hcurrent⟩ := h a first hfirst
  obtain ⟨enrollment', step', hown', hcurrent'⟩ := h b second hsecond
  rw [hsame] at hown'
  obtain rfl : enrollment = enrollment' := Option.some.inj (hown.enrolled.symm.trans hown'.enrolled)
  have hstep : first.sequenceStepId = second.sequenceStepId := by
    refine Table.uniqueOn_position hunique.steps hown.stored hown'.stored rfl ?_
    rw [hown.sequence, hown.version, hcurrent hwaits, hown'.sequence, hown'.version,
      hcurrent' hwaits']
  refine Table.uniqueOn_position hunique.activities hfirst hsecond rfl ?_
  simp only [SequenceStepActivity.idempotencyKey, hsame, hstep]

/-- What a move on time makes of an enrollment: it stays, or it goes ahead and
none of its activities waits. -/
theorem Move.enrollment_ahead {mark : Mark} {s s' : Store} (h : Move mark s s')
    (hmark : mark.onTime) (hunique : KeysUnique s) (hs : Standing s) {e : Id}
    {row : SequenceEnrollment} (hrow : s.enrollments[e]? = some row) :
    ∃ row', s'.enrollments[e]? = some row' ∧ row'.sequenceId = row.sequenceId ∧
      row'.definitionVersion = row.definitionVersion ∧
      (row'.currentStepOrder = row.currentStepOrder ∨
        row.currentStepOrder < row'.currentStepOrder ∧
          ∀ (b : Id) (activity : SequenceStepActivity), s'.activities[b]? = some activity →
            activity.enrollmentId = e → activity.status.waits = false) := by
  obtain ⟨row', hrow', hsequence, hversion, hplace⟩ := h.enrollment_after hrow
  refine ⟨row', hrow', hsequence, hversion, ?_⟩
  rcases hplace with hstays | ⟨a, activity, step, active, done, rfl, hactivity, he, hstep, hlater,
    hothers⟩
  · exact Or.inl hstays
  right
  obtain ⟨enrollment, own, hown, hcurrent⟩ := hs a activity hactivity
  rw [he] at hown
  obtain rfl : enrollment = row := Option.some.inj (hown.enrolled.symm.trans hrow)
  obtain rfl : own = step := Option.some.inj (hown.stored.symm.trans hstep)
  refine ⟨?_, ?_⟩
  · rw [← hcurrent hmark]
    exact hlater
  · intro b other hother hsame
    rcases hothers b other hother with ⟨-, hclosed⟩ | ⟨hne, hbefore⟩
    · exact hclosed
    · by_contra hwaits
      rw [Bool.not_eq_false] at hwaits
      exact hne (hs.waits_once hunique hactivity hbefore (hsame.trans he.symm) hmark hwaits).symm

/-- What a move on time keeps. -/
theorem Move.keeps_standing {mark : Mark} {s s' : Store} (h : Move mark s s')
    (hmark : mark.onTime) (hunique : KeysUnique s) (hs : Standing s) :
    Standing s' ∧ Forward s s' := by
  refine ⟨?_, ?_⟩
  · intro a row hrow
    obtain ⟨enrollment, step, hown, hcurrent⟩ : ∃ enrollment step,
        OwnStep s row.enrollmentId row.sequenceStepId enrollment step ∧
          (row.status.waits = true → step.stepOrder = enrollment.currentStepOrder) := by
      rcases h.activity_before hrow with ⟨old, hold, henrollment, hstep, hstatus⟩ |
        ⟨enrollment, step, hown, horder⟩
      · obtain ⟨enrollment, step, hown, hcurrent⟩ := hs a old hold
        rw [henrollment, hstep]
        refine ⟨enrollment, step, hown, ?_⟩
        intro hwaits
        rcases hstatus with hsame | hclosed
        · exact hcurrent (hsame ▸ hwaits)
        · rw [hclosed] at hwaits
          cases hwaits
      · exact ⟨enrollment, step, hown, fun _ => horder⟩
    obtain ⟨enrollment', henrollment', hsequence, hversion, hplace⟩ :=
      h.enrollment_ahead hmark hunique hs hown.enrolled
    refine ⟨enrollment', step, ⟨henrollment', ?_, ?_, ?_⟩, ?_⟩
    · exact Table.get_of_prefix h.steps_grow _ step hown.stored
    · rw [hsequence]
      exact hown.sequence
    · rw [hversion]
      exact hown.version
    · intro hwaits
      rcases hplace with hstays | ⟨-, hnone⟩
      · rw [hstays]
        exact hcurrent hwaits
      · rw [hnone a row hrow rfl] at hwaits
        cases hwaits
  · intro e row hrow
    obtain ⟨row', hrow', -, -, hplace⟩ := h.enrollment_ahead hmark hunique hs hrow
    refine ⟨row', hrow', ?_⟩
    rcases hplace with hstays | ⟨hlater, -⟩
    · exact le_of_eq hstays.symm
    · exact Nat.le_of_lt hlater

/-- What a transaction on time keeps. -/
theorem Moves.keeps_standing {s s' : Store} (h : Moves Mark.onTime s s') (hs : Standing s)
    (hunique : KeysUnique s') : Standing s' ∧ Forward s s' := by
  refine Chain.keeps_under (I := fun t => Standing t ∧ Forward s t)
    (fun hmove => hmove.unique_before) ?_ h hunique ⟨hs, Forward.refl s⟩
  rintro mark t t' hmark hmove hbefore ⟨hstanding, hforward⟩
  obtain ⟨hafter, hstep⟩ := hmove.keeps_standing hmark hbefore hstanding
  exact ⟨hafter, hforward.trans hstep⟩

end Standing

section Advances

variable [Casing]

/-- The activity whose completion the call commits, and so moves its enrollment
on. -/
def Call.advances (c : Call) (w : DbWorld) : Option Id :=
  match c.op with
  | .sendApproved a actor sender =>
    if (returned (sendApprovedSequenceEmail c.rt a actor sender) w).join.any
        (·.status == .completed) then some a else none
  | .completeActivity a request actor =>
    if (returned (completeSequenceActivity c.rt a request actor) w).join.isSome then some a
    else none
  | .scheduleMeeting a request actor client =>
    if (returned (scheduleSequenceMeetingActivity c.rt a request actor client) w).join.isSome
      then some a else none
  | _ => none

/-- The activities that moved their enrollment on in a run, in order. -/
def advanced : DbWorld → List Call → List Id
  | _, [] => []
  | w, c :: rest => (c.advances w).toList ++ advanced (step w c) rest

/-- The call completes or schedules a meeting that is already scheduled. -/
def Call.reworks (c : Call) (w : DbWorld) : Bool :=
  match c.op with
  | .completeActivity a _ _ | .scheduleMeeting a _ _ _ =>
    (w.store.activities[a]?).any (·.status == .scheduled)
  | _ => false

/-- The activity was worked off. -/
def WorkedOff (a : Id) (s : Store) : Prop :=
  ∃ row, s.activities[a]? = some row ∧ row.status.waits = false

omit [Casing] in
/-- No move lets an activity wait again. -/
theorem Move.keeps_workedOff {mark : Mark} {s s' : Store} (h : Move mark s s') {a : Id}
    (ha : WorkedOff a s) : WorkedOff a s' := by
  obtain ⟨row, hrow, hclosed⟩ := ha
  have hmodified : ∀ {k : Id} {f : SequenceStepActivity → SequenceStepActivity},
      (∀ old : SequenceStepActivity, (f old).status = old.status ∨
        (f old).status.waits = false) →
      ∃ new, (s.activities.modify k f)[a]? = some new ∧ new.status.waits = false := by
    intro k f hstatus
    by_cases hk : k = a
    · refine ⟨f row, Table.get_modify hrow (fun _ => rfl) (fun hne => absurd hk hne), ?_⟩
      rcases hstatus row with hsame | hdone
      · rw [hsame]
        exact hclosed
      · exact hdone
    · exact ⟨row, Table.get_modify hrow (fun heq => absurd heq hk) (fun _ => rfl), hclosed⟩
  cases h with
  | beside h =>
    refine ⟨row, ?_, hclosed⟩
    rw [h.activities]
    exact hrow
  | enroll _ _ => exact ⟨row, hrow, hclosed⟩
  | draft _ => exact ⟨row, hrow, hclosed⟩
  | mail _ => exact ⟨row, hrow, hclosed⟩
  | openActivity _ _ =>
    exact ⟨row, Table.get_of_prefix (List.prefix_append _ _) a row hrow, hclosed⟩
  | activity _ hstatus => exact hmodified hstatus
  | turn _ _ => exact ⟨row, hrow, hclosed⟩
  | complete _ => exact ⟨row, hrow, hclosed⟩
  | finish _ _ _ _ hstatus =>
    simp only [WorkedOff, Store.updateActivity, advanceEnrollment_activities]
    exact hmodified fun old => Or.inr (hstatus old)

omit [Casing] in
/-- An activity that is closed as its enrollment advances was worked off. -/
theorem advanced_workedOff {now : Time} {e a : Id} {enrollment : SequenceEnrollment}
    {step : SequenceStep} {s : Store} {activity : SequenceStepActivity}
    {f : SequenceStepActivity → SequenceStepActivity} (hactivity : s.activities[a]? = some activity)
    (hf : (f activity).status.waits = false) :
    WorkedOff a (advanceEnrollment now e enrollment step (s.updateActivity a f)) := by
  refine ⟨f activity, ?_, hf⟩
  rw [advanceEnrollment_activities]
  exact Table.get_modify hactivity (fun _ => rfl) (fun hne => absurd rfl hne)

omit [Casing] in
theorem completeSequenceActivity_works {rt : Runtime} {a : Id}
    {request : SequenceActivityActionRequest} {actor : String} {w : DbWorld}
    {row : SequenceStepActivity}
    (h : returned (completeSequenceActivity rt a request actor) w = some (some row)) :
    (∃ activity, w.store.activities[a]? = some activity ∧
        (activity.status = .pending ∨ activity.status = .scheduled)) ∧
      WorkedOff a (after (completeSequenceActivity rt a request actor) w).store := by
  refine (Lib.sessionScope_answers (R := fun found v => ∀ row, found = some row →
    (∃ activity, w.store.activities[a]? = some activity ∧
      (activity.status = .pending ∨ activity.status = .scheduled)) ∧ WorkedOff a v.store)
    (Lib.run_of_returned h) ?_).1 row rfl
  mvcgen
  all_goals subst_vars
  · next activity hactivity _ hstatus enrollment hrow step hstep =>
    intro _ _
    refine ⟨⟨activity, hactivity, ?_⟩, advanced_workedOff hactivity rfl⟩
    by_contra hneither
    exact hstatus (not_or.mp hneither)
  · rintro row ⟨⟩

omit [Casing] in
theorem linkMeeting_works {rt : Runtime} {a : Id} {actor : String} {meetingId : Id}
    {w : DbWorld} {found : Option SequenceStepActivity}
    (h : returned (linkMeeting rt a actor meetingId) w = some found) :
    WorkedOff a (after (linkMeeting rt a actor meetingId) w).store := by
  refine (Lib.sessionScope_returns (R := fun v => WorkedOff a v.store)
    (Lib.run_of_returned h) ?_).1
  mvcgen
  all_goals subst_vars
  next activity hactivity enrollment hrow step hstep => exact advanced_workedOff hactivity rfl

/-- A booking that returns an activity started from one that was accepted, and
worked it off. -/
theorem scheduleSequenceMeetingActivity_works {rt : Runtime} {a : Id}
    {request : SequenceActivityScheduleMeetingRequest} {actor : String}
    {client : CalendarClient} {w : DbWorld} {row : SequenceStepActivity}
    (h : returned (scheduleSequenceMeetingActivity rt a request actor client) w =
      some (some row)) :
    (∃ activity, w.store.activities[a]? = some activity ∧
        (activity.status = .pending ∨ activity.status = .scheduled)) ∧
      WorkedOff a (after (scheduleSequenceMeetingActivity rt a request actor client) w).store := by
  unfold scheduleSequenceMeetingActivity at h ⊢
  obtain ⟨context, hcontext, hrest, hafter⟩ := Lib.returned_bind h
  rw [hafter]
  cases context with
  | none => cases hrest
  | some found =>
    obtain ⟨activity, enrollment⟩ := found
    obtain ⟨-, hactivity, hstatus, -⟩ := meetingContext_some (Lib.run_of_returned hcontext)
    refine ⟨⟨activity, hactivity, hstatus⟩, ?_⟩
    dsimp only at hrest ⊢
    split at hrest
    · cases hrest
    · next hsubject =>
      rw [if_neg hsubject]
      obtain ⟨meetingId, -, hlink, hafter'⟩ := Lib.returned_bind hrest
      rw [hafter']
      exact linkMeeting_works hlink

/-- An approval that returns a completed activity started from one that waits,
and worked it off. -/
theorem sendApprovedSequenceEmail_works {rt : Runtime} {a : Id} {actor : String}
    {sender : SmtpSendRequest → SmtpOutcome} {w : DbWorld} {row : SequenceStepActivity}
    (h : returned (sendApprovedSequenceEmail rt a actor sender) w = some (some row))
    (hrow : row.status = .completed) :
    (∃ activity, w.store.activities[a]? = some activity ∧ activity.status.waits = true) ∧
      WorkedOff a (after (sendApprovedSequenceEmail rt a actor sender) w).store := by
  refine (Lib.sessionScope_answers (R := fun found v => ∀ row, found = some row →
    row.status = .completed →
    (∃ activity, w.store.activities[a]? = some activity ∧ activity.status.waits = true) ∧
      WorkedOff a v.store) (Lib.run_of_returned h) ?_).1 row rfl hrow
  have hwaits : ∀ {loaded : OpenApproval}, loadApproval a w.store = .ok (some loaded) →
      ∃ activity, w.store.activities[a]? = some activity ∧ activity.status.waits = true := by
    intro loaded hloaded
    obtain ⟨hactivity, -, hstatus, -⟩ := loadApproval_some hloaded
    refine ⟨loaded.activity, hactivity, ?_⟩
    rcases hstatus with hpending | happroved
    · rw [hpending]
      rfl
    · rw [happroved]
      rfl
  mvcgen [prepareApproval, outboundForApproval, outboundForStep, flush, Lib.flush,
    Lib.queryOrRaise]
  all_goals subst_vars
  · rintro row ⟨⟩
  all_goals
    intro row hfound hcompleted
    refine ⟨hwaits ‹_›, row, hfound, ?_⟩
    rw [hcompleted]
    rfl

/-- A call that moves an enrollment on worked off an activity that waited, or one
that was scheduled already. -/
theorem Call.advances_works {c : Call} {w : DbWorld} {a : Id} (h : c.advances w = some a) :
    (∃ activity, w.store.activities[a]? = some activity ∧
        (activity.status.waits = true ∨ c.reworks w = true)) ∧
      WorkedOff a (step w c).store := by
  have haccepted : ∀ {activity : SequenceStepActivity},
      w.store.activities[a]? = some activity →
      (activity.status = .pending ∨ activity.status = .scheduled) →
      ((w.store.activities[a]?).any (·.status == .scheduled) = true → c.reworks w = true) →
      activity.status.waits = true ∨ c.reworks w = true := by
    intro activity hactivity hstatus hreworks
    rcases hstatus with hpending | hscheduled
    · rw [hpending]
      exact Or.inl rfl
    · right
      apply hreworks
      simp [hactivity, hscheduled]
  obtain ⟨rt, op⟩ := c
  cases op with
  | sendApproved k actor sender =>
    simp only [Call.advances] at h
    split at h
    · next hreturned =>
      obtain rfl : k = a := Option.some.inj h
      obtain ⟨row, hjoin, hcompleted⟩ := (Option.any_eq_true ..).mp hreturned
      obtain ⟨⟨activity, hactivity, hwaits⟩, hworked⟩ :=
        sendApprovedSequenceEmail_works (Option.join_eq_some_iff.mp hjoin)
          (beq_iff_eq.mp hcompleted)
      exact ⟨⟨activity, hactivity, Or.inl hwaits⟩, hworked⟩
    · cases h
  | completeActivity k request actor =>
    simp only [Call.advances] at h
    split at h
    · next hreturned =>
      obtain rfl : k = a := Option.some.inj h
      obtain ⟨row, hjoin⟩ := Option.isSome_iff_exists.mp hreturned
      obtain ⟨⟨activity, hactivity, hstatus⟩, hworked⟩ :=
        completeSequenceActivity_works (Option.join_eq_some_iff.mp hjoin)
      exact ⟨⟨activity, hactivity, haccepted hactivity hstatus id⟩, hworked⟩
    · cases h
  | scheduleMeeting k request actor client =>
    simp only [Call.advances] at h
    split at h
    · next hreturned =>
      obtain rfl : k = a := Option.some.inj h
      obtain ⟨row, hjoin⟩ := Option.isSome_iff_exists.mp hreturned
      obtain ⟨⟨activity, hactivity, hstatus⟩, hworked⟩ :=
        scheduleSequenceMeetingActivity_works (Option.join_eq_some_iff.mp hjoin)
      exact ⟨⟨activity, hactivity, haccepted hactivity hstatus id⟩, hworked⟩
    · cases h
  | _ => cases h

/-- A call that reworks nothing works activities off while they wait. -/
theorem onTime_admitted {w : DbWorld} {c : Call} (h : c.reworks w = false) :
    Admitted Mark.onTime w c where
  routine := trivial
  active := fun _ => trivial
  approval := by
    intro status done hawaits
    cases status with
    | pendingApproval => rfl
    | approved => rfl
    | _ => cases hawaits
  resume := fun _ _ _ _ _ => trivial
  reply := fun _ _ _ _ _ _ _ _ => trivial
  complete := by
    intro a request actor hop activity enrollment hactivity _ hstatus
    simp only [Call.reworks, hop, hactivity, Option.any_some, beq_eq_false_iff_ne] at h
    rcases hstatus with hpending | hscheduled
    · simp only [Mark.onTime, hpending]
      rfl
    · exact absurd hscheduled h
  schedule := by
    intro a request actor client hop row enrollment booking v activity enrollment' hcontext _
      hactivity _
    obtain ⟨hstore, hrow, hstatus, -⟩ := meetingContext_some hcontext
    rw [createMeeting_activities, hstore, hrow] at hactivity
    obtain rfl : row = activity := Option.some.inj hactivity
    simp only [Call.reworks, hop, hrow, Option.any_some, beq_eq_false_iff_ne] at h
    rcases hstatus with hpending | hscheduled
    · simp only [Mark.onTime, hpending]
      rfl
    · exact absurd hscheduled h

theorem step_workedOff {w : DbWorld} {c : Call} (h : c.reworks w = false) {a : Id}
    (ha : WorkedOff a w.store) : WorkedOff a (step w c).store :=
  Chain.keeps (fun _ hmove => hmove.keeps_workedOff) (step_moves (onTime_admitted h)) ha

/-- What was worked off does not move its enrollment again. -/
theorem not_advanced_of_workedOff {w : DbWorld} {calls : List Call} {a : Id}
    (hrun : Admissible step (fun v c => c.reworks v = false) w calls)
    (ha : WorkedOff a w.store) : a ∉ advanced w calls := by
  induction calls generalizing w with
  | nil => simp [advanced]
  | cons c rest ih =>
    obtain ⟨hfirst, hrest⟩ := hrun
    simp only [advanced, List.mem_append, Option.mem_toList, not_or]
    refine ⟨?_, ih hrest (step_workedOff hfirst ha)⟩
    intro hadvances
    obtain ⟨⟨activity, hactivity, hstatus⟩, -⟩ := Call.advances_works hadvances
    obtain ⟨row, hrow, hclosed⟩ := ha
    obtain rfl : activity = row := Option.some.inj (hactivity.symm.trans hrow)
    rcases hstatus with hwaits | hreworks
    · rw [hclosed] at hwaits
      cases hwaits
    · rw [hfirst] at hreworks
      cases hreworks

/-- Each activity moves its enrollment on at most once. -/
theorem advanced_nodup {w : DbWorld} {calls : List Call}
    (hrun : Admissible step (fun v c => c.reworks v = false) w calls) :
    (advanced w calls).Nodup := by
  induction calls generalizing w with
  | nil => simp [advanced]
  | cons c rest ih =>
    obtain ⟨hfirst, hrest⟩ := hrun
    cases hadvances : c.advances w with
    | none => simpa [advanced, hadvances] using ih hrest
    | some a =>
      have hworked := (Call.advances_works hadvances).2
      simp only [advanced, hadvances, Option.toList_some, List.singleton_append,
        List.nodup_cons]
      exact ⟨not_advanced_of_workedOff hrest hworked, ih hrest⟩

/-- Every activity waits to be worked off, for its enrollment's current step. -/
structure AtCurrentSteps (s : Store) : Prop where
  constraints : s.constraintsOk = true
  activities : ∀ (a : Id) (row : SequenceStepActivity), s.activities[a]? = some row →
    (row.status = .pending ∨ row.status = .pendingApproval) ∧
      ∃ enrollment step, OwnStep s row.enrollmentId row.sequenceStepId enrollment step ∧
        step.stepOrder = enrollment.currentStepOrder

/-- Each activity moves its enrollment on at most once, and no enrollment is ever
set back. -/
structure InStep (w : DbWorld) (calls : List Call) : Prop where
  once : (advanced w calls).Nodup
  forward : ∀ first second, calls = first ++ second →
    Forward (Lib.run step w first).store (Lib.run step w calls).store

theorem step_standing {w : DbWorld} {c : Call} (h : c.reworks w = false)
    (hs : Standing w.store ∧ w.store.constraintsOk = true) :
    (Standing (step w c).store ∧ (step w c).store.constraintsOk = true) ∧
      Forward w.store (step w c).store := by
  have hconstraints := step_constraints c hs.2
  obtain ⟨hstanding, hforward⟩ := (step_moves (onTime_admitted h)).keeps_standing hs.1
    (keysUnique_of_constraints hconstraints)
  exact ⟨⟨hstanding, hconstraints⟩, hforward⟩

/-- From activities that wait for their enrollments' current steps, every run
that completes or schedules no meeting a second time keeps in step. -/
theorem activities_advance_in_step (w : DbWorld) (calls : List Call)
    (hstart : AtCurrentSteps w.store)
    (hrun : Admissible step (fun v c => c.reworks v = false) w calls) : InStep w calls := by
  let sound : DbWorld → Prop := fun v => Standing v.store ∧ v.store.constraintsOk = true
  have hsound : sound w := by
    refine ⟨?_, hstart.constraints⟩
    intro a row hrow
    obtain ⟨-, enrollment, step, hown, horder⟩ := hstart.activities a row hrow
    exact ⟨enrollment, step, hown, fun _ => horder⟩
  refine ⟨advanced_nodup hrun, ?_⟩
  rintro first second rfl
  obtain ⟨hfirst, hsecond⟩ := Lib.admissible_append.mp hrun
  have hmiddle : sound (Lib.run step w first) :=
    Lib.run_keeps (I := sound) (fun v c hc hv => (step_standing hc hv).1) hfirst hsound
  rw [Lib.run_append]
  refine (Lib.run_relates (R := fun v v' => sound v → sound v' ∧ Forward v.store v'.store)
    (fun v hv => ⟨hv, Forward.refl _⟩) ?_ (fun v c hc hv => step_standing hc hv) hsecond
    hmiddle).2
  intro u v z huv hvz hu
  obtain ⟨hv, hforward⟩ := huv hu
  obtain ⟨hz, hforward'⟩ := hvz hv
  exact ⟨hz, hforward.trans hforward'⟩

end Advances

section Meetings

/-- Ada at the first step of a sequence, a meeting that an operator has to book;
two calls follow. -/
def atMeeting : DbWorld where
  store :=
    { contacts := [ada]
      crmTargets := [adaTarget]
      sequences := [{ name := "outreach" }]
      steps :=
        [{ sequenceId := 0, stepOrder := 1, channel := .googleMeet },
          { sequenceId := 0, stepOrder := 2, channel := .call },
          { sequenceId := 0, stepOrder := 3, channel := .call }]
      enrollments :=
        [{ sequenceId := 0, crmTargetId := 0, contactId := 0, approvalActor := "operator"
           approvalReason := "approved", idempotencyKey := "enroll:ada" }]
      activities :=
        [{ enrollmentId := 0, sequenceStepId := 0, stepOrder := 1, channel := .googleMeet
           status := .pending }] }
  external := {}

def openCalendar : CalendarClient where
  provider := "google"
  createEvent := fun _ => .ok { calendarId := none, providerEventId := none, htmlLink := none }

def bookMeeting : Call :=
  Op.at (.scheduleMeeting 0 { startAt := 100, endAt := 200 } "operator" openCalendar) 40

theorem atMeeting_waits : AtCurrentSteps atMeeting.store where
  constraints := by decide +kernel
  activities := by
    intro a row hrow
    obtain rfl := List.mem_singleton.mp (List.mem_of_getElem? hrow)
    exact ⟨Or.inl rfl, _, _, ⟨rfl, rfl, rfl, rfl⟩, rfl⟩

/-- A meeting that is booked, and completed once it has taken place, moves its
enrollment on twice. -/
theorem booked_meeting_advances_twice :
    ¬ ∀ (w : DbWorld) (calls : List Call), AtCurrentSteps w.store → InStep w calls := by
  intro h
  have hstep := h atMeeting [bookMeeting, Op.at (.completeActivity 0 {} "operator") 300]
    atMeeting_waits
  have htwice : advanced atMeeting
      [bookMeeting, Op.at (.completeActivity 0 {} "operator") 300] = [0, 0] := by
    decide +kernel
  have honce := hstep.once
  rw [htwice] at honce
  exact absurd honce (by decide)

/-- A meeting that is booked once. -/
theorem booked_meeting_in_step : InStep atMeeting [bookMeeting] :=
  activities_advance_in_step _ _ atMeeting_waits (by decide +kernel)

end Meetings

end GhostRecon
