import GhostRecon.Sequencing.Operations

/-!
How far an enrollment has come, said once for every call: which step it stands
at, when the next one is due, which activities wait for it and whether its
completion is on record. A move is one write seen from there. The mark says
what the write does not look at: the status of the activity that is worked off,
whether the enrollment is active, and whether its completion was on record.
-/

namespace GhostRecon

open Lib (Id Table Chain after)
open Std.Do

set_option mvcgen.warning false

inductive Mark where
  | routine
  | stir (active done : Bool)
  | finish (status : ActivityStatus) (active done : Bool)
  deriving DecidableEq, Repr

/-- The activity waits to be worked off. -/
def ActivityStatus.waits : ActivityStatus → Bool
  | .pending | .pendingApproval | .approved => true
  | .scheduled | .completed | .canceled | .failed => false

/-- The event says that the enrollment is completed. -/
def OutboxEvent.completes (event : OutboxEvent) (e : Id) : Bool :=
  event.eventName == .sequenceCompleted && event.aggregateId == e

/-- How often the completion of the enrollment was announced. -/
def Store.completions (s : Store) (e : Id) : Nat :=
  s.outbox.countP (·.completes e)

def Store.done (s : Store) (e : Id) : Bool :=
  decide (0 < s.completions e)

/-- The two rows stand at the same step of the same definition. -/
structure SamePlace (old new : SequenceEnrollment) : Prop where
  sequence : new.sequenceId = old.sequenceId
  version : new.definitionVersion = old.definitionVersion
  order : new.currentStepOrder = old.currentStepOrder

/-- The step belongs to the enrollment's own definition version. -/
structure OwnStep (s : Store) (e stepId : Id) (enrollment : SequenceEnrollment)
    (step : SequenceStep) : Prop where
  enrolled : s.enrollments[e]? = some enrollment
  stored : s.steps[stepId]? = some step
  sequence : step.sequenceId = enrollment.sequenceId
  version : step.definitionVersion = enrollment.definitionVersion

/-- The change of one enrollment that neither advances nor completes it. -/
inductive Turn (done : Bool) : Mark → SequenceEnrollment → SequenceEnrollment → Prop where
  | hold {old new} (hplace : SamePlace old new)
      (hstatus : new.status = .active → old.status = .active)
      (hnext : new.nextStepAt = old.nextStepAt ∨ new.nextStepAt = none) :
      Turn done .routine old new
  | due {old new} (hplace : SamePlace old new) :
      Turn done (.stir (old.status == .active) done) old new

/-- Every step belongs to a version its sequence has reached. -/
def Versioned (s : Store) : Prop :=
  ∀ step ∈ s.steps, ∃ sequence, s.sequences[step.sequenceId]? = some sequence ∧
    step.definitionVersion ≤ sequence.definitionVersion

/-- A change outside the enrollments, activities and mail that announces no
completion. -/
structure Beside (s s' : Store) : Prop where
  enrollments : s'.enrollments = s.enrollments
  activities : s'.activities = s.activities
  outboundEmails : s'.outboundEmails = s.outboundEmails
  steps : s.steps <+: s'.steps
  sequences : ∀ (q : Id) (row : Sequence), s.sequences[q]? = some row →
    ∃ row', s'.sequences[q]? = some row' ∧ row.definitionVersion ≤ row'.definitionVersion
  versions : Versioned s → Versioned s'
  completions : ∀ e, s'.completions e = s.completions e

inductive Move : Mark → Store → Store → Prop where
  | beside {s s'} (h : Beside s s') : Move .routine s s'
  | enroll {s} {row : SequenceEnrollment} {sequence : Sequence}
      (hsequence : s.sequences[row.sequenceId]? = some sequence)
      (hversion : row.definitionVersion = sequence.definitionVersion) :
      Move .routine s { s with enrollments := s.enrollments ++ [row] }
  | draft {s} {mail : OutboundEmail}
      (hplaced : (∃ enrollment step,
          OwnStep s mail.enrollmentId mail.sequenceStepId enrollment step) ∨
        ∃ activity ∈ s.activities, activity.idempotencyKey = mail.idempotencyKey) :
      Move .routine s (s.insertOutbound mail)
  | mail {s o f} (hkey : ∀ mail : OutboundEmail,
        (f mail).enrollmentId = mail.enrollmentId ∧
          (f mail).sequenceStepId = mail.sequenceStepId) :
      Move .routine s (s.updateOutbound o f)
  | openActivity {s} {row : SequenceStepActivity} {enrollment step}
      (hown : OwnStep s row.enrollmentId row.sequenceStepId enrollment step)
      (horder : step.stepOrder = enrollment.currentStepOrder) :
      Move .routine s (s.insertActivity row)
  | activity {s a f} (hkey : ∀ row : SequenceStepActivity,
        (f row).enrollmentId = row.enrollmentId ∧ (f row).sequenceStepId = row.sequenceStepId)
      (hstatus : ∀ row : SequenceStepActivity,
        (f row).status = row.status ∨ (f row).status.waits = false) :
      Move .routine s (s.updateActivity a f)
  | turn {s mark e row f} (hrow : s.enrollments[e]? = some row)
      (hturn : Turn (s.done e) mark row (f row)) : Move mark s (s.updateEnrollment e f)
  | complete {s now e row loaded reason} (hrow : s.enrollments[e]? = some row) :
      Move (.stir (row.status == .active) (s.done e)) s (completeWith now e loaded reason s)
  | finish {s now a activity enrollment step f} (hactivity : s.activities[a]? = some activity)
      (hrow : s.enrollments[activity.enrollmentId]? = some enrollment)
      (hstep : s.steps[activity.sequenceStepId]? = some step)
      (hkey : ∀ row : SequenceStepActivity, (f row).enrollmentId = row.enrollmentId ∧
        (f row).sequenceStepId = row.sequenceStepId)
      (hstatus : ∀ row : SequenceStepActivity, (f row).status.waits = false) :
      Move (.finish activity.status (enrollment.status == .active)
          (s.done activity.enrollmentId)) s
        ((advanceEnrollment now activity.enrollmentId enrollment step s).updateActivity a f)

abbrev Moves (ok : Mark → Prop) : Store → Store → Prop :=
  Chain Move ok

/-- The marks every call may leave: the scheduler and the approval look at the
status of the enrollment. -/
structure Guarded (ok : Mark → Prop) : Prop where
  routine : ok .routine
  active : ∀ done, ok (.stir true done)
  approval : ∀ status done, status.awaits = true → ok (.finish status true done)

section Writes

variable {ok : Mark → Prop} (hok : Guarded ok) {s : Store}

theorem Beside.refl (s : Store) : Beside s s where
  enrollments := rfl
  activities := rfl
  outboundEmails := rfl
  steps := List.prefix_rfl
  sequences := fun _ row hrow => ⟨row, hrow, Nat.le_refl _⟩
  versions := id
  completions := fun _ => rfl

theorem Beside.trans {a b c : Store} (hab : Beside a b) (hbc : Beside b c) : Beside a c where
  enrollments := hbc.enrollments.trans hab.enrollments
  activities := hbc.activities.trans hab.activities
  outboundEmails := hbc.outboundEmails.trans hab.outboundEmails
  steps := hab.steps.trans hbc.steps
  sequences := by
    intro q row hrow
    obtain ⟨middle, hmiddle, hle⟩ := hab.sequences q row hrow
    obtain ⟨last, hlast, hle'⟩ := hbc.sequences q middle hmiddle
    exact ⟨last, hlast, Nat.le_trans hle hle'⟩
  versions := fun h => hbc.versions (hab.versions h)
  completions := fun e => (hbc.completions e).trans (hab.completions e)

/-- A change that leaves every table of the relation alone. -/
theorem beside_of_same {s s' : Store}
    (h : s'.enrollments = s.enrollments ∧ s'.activities = s.activities ∧
      s'.outboundEmails = s.outboundEmails ∧ s'.steps = s.steps ∧
      s'.sequences = s.sequences ∧ s'.outbox = s.outbox) : Beside s s' := by
  obtain ⟨henrollments, hactivities, hmails, hsteps, hsequences, houtbox⟩ := h
  refine ⟨henrollments, hactivities, hmails, ?_, ?_, ?_, ?_⟩
  · rw [hsteps]
  · intro q row hrow
    rw [hsequences]
    exact ⟨row, hrow, Nat.le_refl _⟩
  · intro hversioned
    unfold Versioned
    rw [hsteps, hsequences]
    exact hversioned
  · intro e
    simp only [Store.completions, houtbox]

/-- Other events announce no completion. -/
theorem enqueueEvent_beside {name : EventName} {kind : String} {id : Id} {key : OutboxKey}
    (hname : name ≠ .sequenceCompleted) : Beside s (enqueueEvent name kind id key s) := by
  refine ⟨rfl, rfl, rfl, List.prefix_rfl, fun _ row hrow => ⟨row, hrow, Nat.le_refl _⟩,
    fun hversioned => hversioned, ?_⟩
  intro e
  simp [Store.completions, enqueueEvent, OutboxEvent.completes, hname]

/-- New steps of one version keep the versions when their sequence has reached it. -/
theorem Versioned.append {s s' : Store} (h : Versioned s) {steps : List SequenceStep} {q : Id}
    {sequence : Sequence} (hsteps : s'.steps = s.steps ++ steps)
    (hsequences : ∀ (k : Id) (row : Sequence), s.sequences[k]? = some row →
      ∃ row', s'.sequences[k]? = some row' ∧ row.definitionVersion ≤ row'.definitionVersion)
    (hstored : s'.sequences[q]? = some sequence)
    (hnew : ∀ step ∈ steps, step.sequenceId = q ∧
      step.definitionVersion ≤ sequence.definitionVersion) : Versioned s' := by
  intro step hstep
  rw [hsteps, List.mem_append] at hstep
  rcases hstep with hold | hadded
  · obtain ⟨row, hrow, hle⟩ := h step hold
    obtain ⟨row', hrow', hle'⟩ := hsequences _ row hrow
    exact ⟨row', hrow', Nat.le_trans hle hle'⟩
  · obtain ⟨rfl, hle⟩ := hnew step hadded
    exact ⟨sequence, hstored, hle⟩

theorem stepRows_of {rows : List SequenceStepCreate} {q version : Nat} {step : SequenceStep}
    (h : step ∈ stepRows rows q version) :
    step.sequenceId = q ∧ step.definitionVersion = version := by
  obtain ⟨found, -, rfl⟩ := List.mem_map.mp h
  exact ⟨rfl, rfl⟩

theorem insertSequence_beside {row : Sequence} {steps : List SequenceStepCreate} :
    Beside s (insertSequence row (stepRows steps s.sequences.length row.definitionVersion) s) := by
  have hgrow : ∀ (q : Id) (old : Sequence), s.sequences[q]? = some old →
      ∃ old', (s.sequences ++ [row])[q]? = some old' ∧
        old.definitionVersion ≤ old'.definitionVersion := by
    intro q old hold
    exact ⟨old, Table.get_of_prefix (List.prefix_append _ _) q old hold, Nat.le_refl _⟩
  refine ⟨rfl, rfl, rfl, List.prefix_append _ _, hgrow, ?_, fun _ => rfl⟩
  intro hversioned
  have hstored : (s.sequences ++ [row])[s.sequences.length]? = some row :=
    List.getElem?_concat_length
  refine hversioned.append rfl hgrow hstored ?_
  · intro step hstep
    obtain ⟨hsequence, hversion⟩ := stepRows_of hstep
    exact ⟨hsequence, hversion.le⟩

/-- A revision never lowers the version of the definition, and its steps are of the new
version. -/
theorem reviseSequence_beside {q : Id} {f : Sequence → Sequence} {steps : List SequenceStep}
    {sequence : Sequence} (hstored : s.sequences[q]? = some sequence)
    (hversion : sequence.definitionVersion ≤ (f sequence).definitionVersion)
    (hsteps : ∀ step ∈ steps, step.sequenceId = q ∧
      step.definitionVersion ≤ (f sequence).definitionVersion) :
    Beside s (reviseSequence q f steps s) := by
  have hrevised : (s.sequences.modify q f)[q]? = some (f sequence) := by
    simp [hstored]
  have hgrow : ∀ (k : Id) (row : Sequence), s.sequences[k]? = some row →
      ∃ row', (s.sequences.modify q f)[k]? = some row' ∧
        row.definitionVersion ≤ row'.definitionVersion := by
    intro k row hrow
    by_cases hk : q = k
    · subst hk
      obtain rfl : sequence = row := Option.some.inj (hstored.symm.trans hrow)
      exact ⟨f sequence, hrevised, hversion⟩
    · refine ⟨row, ?_, Nat.le_refl _⟩
      simp [hk, hrow]
  refine ⟨rfl, rfl, rfl, List.prefix_append _ _, hgrow, ?_, fun _ => rfl⟩
  intro hversioned
  exact hversioned.append rfl hgrow hrevised hsteps

theorem insertSuppression_beside {row : Suppression} : Beside s (insertSuppression row s) := by
  refine Beside.trans (b := { s with suppressions := s.suppressions ++ [row] }) ?_
    (enqueueEvent_beside (by decide))
  exact beside_of_same ⟨rfl, rfl, rfl, rfl, rfl, rfl⟩

include hok

theorem moves_beside {s' : Store} (h : Beside s s') : Moves ok s s' :=
  Chain.single hok.routine (.beside h)

theorem enqueueEvent_moves {name : EventName} {kind : String} {id : Id} {key : OutboxKey}
    (hname : name ≠ .sequenceCompleted) : Moves ok s (enqueueEvent name kind id key s) :=
  moves_beside hok (enqueueEvent_beside hname)

theorem updateOutbound_moves {o : Id} {f : OutboundEmail → OutboundEmail}
    (hkey : ∀ mail : OutboundEmail, (f mail).enrollmentId = mail.enrollmentId ∧
      (f mail).sequenceStepId = mail.sequenceStepId) :
    Moves ok s (s.updateOutbound o f) :=
  Chain.single hok.routine (.mail hkey)

/-- A change that gives the enrollment no new due time and does not activate
it. -/
theorem hold_moves {e : Id} {row : SequenceEnrollment}
    {f : SequenceEnrollment → SequenceEnrollment} (hrow : s.enrollments[e]? = some row)
    (hplace : SamePlace row (f row)) (hstatus : (f row).status = .active → row.status = .active)
    (hnext : (f row).nextStepAt = row.nextStepAt ∨ (f row).nextStepAt = none) :
    Moves ok s (s.updateEnrollment e f) :=
  Chain.single hok.routine (.turn hrow (.hold hplace hstatus hnext))

omit hok in
theorem due_moves {e : Id} {row : SequenceEnrollment}
    {f : SequenceEnrollment → SequenceEnrollment} (hrow : s.enrollments[e]? = some row)
    (hplace : SamePlace row (f row)) (hmark : ok (.stir (row.status == .active) (s.done e))) :
    Moves ok s (s.updateEnrollment e f) :=
  Chain.single hmark (.turn hrow (.due hplace))

omit hok in
theorem completeWith_moves {now : Time} {e : Id} {loaded row : SequenceEnrollment}
    {reason : Option String} (hrow : s.enrollments[e]? = some row)
    (hmark : ok (.stir (row.status == .active) (s.done e))) :
    Moves ok s (completeWith now e loaded reason s) :=
  Chain.single hmark (.complete hrow)

theorem pauseForPolicy_moves {now : Time} {e : Id} {loaded row : SequenceEnrollment}
    {reason : String} (hrow : s.enrollments[e]? = some row) :
    Moves ok s (pauseForPolicy now e loaded reason s) :=
  (hold_moves hok hrow ⟨rfl, rfl, rfl⟩ (by simp) (Or.inl rfl)).trans
    (enqueueEvent_moves hok (by decide))

theorem insertSuppressionEvent_moves {row : SequenceSuppressionEvent} :
    Moves ok s (s.insertSuppressionEvent row) :=
  moves_beside hok (beside_of_same ⟨rfl, rfl, rfl, rfl, rfl, rfl⟩)

theorem suppressEnrollment_moves [Casing] {now : Time} {e : Id}
    {loaded row : SequenceEnrollment} {contact : Contact} {reason : Option String}
    (hrow : s.enrollments[e]? = some row) :
    Moves ok s (suppressEnrollment now e loaded contact reason s) := by
  unfold suppressEnrollment
  refine Chain.trans ?_ (enqueueEvent_moves hok (by decide))
  refine Chain.trans ?_ (insertSuppressionEvent_moves hok)
  exact hold_moves hok hrow ⟨rfl, rfl, rfl⟩ (by simp) (Or.inl rfl)

theorem setStatus_moves {now : Time} {e : Id} {loaded row : SequenceEnrollment}
    {status : EnrollmentStatus} {reason : String} {event : Option EventName}
    (hrow : s.enrollments[e]? = some row) (hstatus : status ≠ .active)
    (hevent : event ≠ some .sequenceCompleted) :
    Moves ok s (setStatus now e loaded status reason event s) := by
  have hchange : Moves ok s (s.updateEnrollment e fun row =>
      { row with
        status := status
        pauseReason := some reason
        version := loaded.version + 1
        updatedAt := now
        completedAt := if status.terminal then some now else row.completedAt }) :=
    hold_moves hok hrow ⟨rfl, rfl, rfl⟩ (fun hactive => absurd hactive hstatus) (Or.inl rfl)
  cases event with
  | none => exact hchange
  | some event =>
    refine hchange.trans (enqueueEvent_moves hok ?_)
    rintro rfl
    exact hevent rfl

theorem clearNextStep_moves {now : Time} {e : Id} {row : SequenceEnrollment}
    (hrow : s.enrollments[e]? = some row) : Moves ok s (clearNextStep now e s) :=
  hold_moves hok hrow ⟨rfl, rfl, rfl⟩ id (Or.inr rfl)

theorem attachOutbound_moves {a : Id} {o : Option Id} : Moves ok s (attachOutbound a o s) :=
  Chain.single hok.routine (.activity (fun _ => ⟨rfl, rfl⟩) fun _ => Or.inl rfl)

omit hok in
/-- An activity worked off: it no longer waits, and its enrollment moves on from
the activity's step. -/
theorem finish_moves {now : Time} {a : Id} {activity : SequenceStepActivity}
    {enrollment : SequenceEnrollment} {step : SequenceStep}
    {f : SequenceStepActivity → SequenceStepActivity} (hactivity : s.activities[a]? = some activity)
    (hrow : s.enrollments[activity.enrollmentId]? = some enrollment)
    (hstep : s.steps[activity.sequenceStepId]? = some step)
    (hkey : ∀ row : SequenceStepActivity, (f row).enrollmentId = row.enrollmentId ∧
      (f row).sequenceStepId = row.sequenceStepId)
    (hstatus : ∀ row : SequenceStepActivity, (f row).status.waits = false)
    (hmark : ok (.finish activity.status (enrollment.status == .active)
      (s.done activity.enrollmentId))) :
    Moves ok s ((advanceEnrollment now activity.enrollmentId enrollment step s).updateActivity a
      f) :=
  Chain.single hmark (.finish hactivity hrow hstep hkey hstatus)

end Writes

section Inversion

variable {mark : Mark} {s s' : Store}

/-- Advancing rewrites one enrollment: it stays where it is or goes on behind the
given step. -/
theorem advanceEnrollment_place (now : Time) (e : Id) (enrollment : SequenceEnrollment)
    (step : SequenceStep) (s : Store) :
    ∃ f : SequenceEnrollment → SequenceEnrollment,
      (advanceEnrollment now e enrollment step s).enrollments = s.enrollments.modify e f ∧
        ∀ row, (f row).sequenceId = row.sequenceId ∧
          (f row).definitionVersion = row.definitionVersion ∧
          ((f row).currentStepOrder = row.currentStepOrder ∨
            step.stepOrder < (f row).currentStepOrder) := by
  unfold advanceEnrollment
  split
  · exact ⟨_, rfl, fun _ => ⟨rfl, rfl, Or.inl rfl⟩⟩
  · next i nextStep hnext =>
    have hlater : step.stepOrder < nextStep.stepOrder := by
      simpa using List.find?_some hnext
    exact ⟨_, rfl, fun _ => ⟨rfl, rfl, Or.inr hlater⟩⟩

theorem advanceEnrollment_steps {now : Time} {e : Id} {enrollment : SequenceEnrollment}
    {step : SequenceStep} :
    (advanceEnrollment now e enrollment step s).steps = s.steps ∧
      (advanceEnrollment now e enrollment step s).sequences = s.sequences ∧
      (advanceEnrollment now e enrollment step s).outboundEmails = s.outboundEmails := by
  unfold advanceEnrollment
  split <;> exact ⟨rfl, rfl, rfl⟩

theorem Move.steps_grow (h : Move mark s s') : s.steps <+: s'.steps := by
  cases h with
  | beside h => exact h.steps
  | enroll _ _ => exact List.prefix_rfl
  | draft _ => exact List.prefix_rfl
  | mail _ => exact List.prefix_rfl
  | openActivity _ _ => exact List.prefix_rfl
  | activity _ _ => exact List.prefix_rfl
  | turn _ _ => exact List.prefix_rfl
  | complete _ => exact List.prefix_rfl
  | finish _ _ _ _ _ =>
    show s.steps <+: (advanceEnrollment _ _ _ _ s).steps
    rw [advanceEnrollment_steps.1]

/-- The enrollment is moved on by an activity that is worked off. -/
def MovedOn (mark : Mark) (s s' : Store) (e : Id) (order : Nat) : Prop :=
  ∃ (a : Id) (activity : SequenceStepActivity) (step : SequenceStep) (active done : Bool),
    mark = .finish activity.status active done ∧ s.activities[a]? = some activity ∧
      activity.enrollmentId = e ∧ s.steps[activity.sequenceStepId]? = some step ∧
      step.stepOrder < order ∧
      ∀ b row, s'.activities[b]? = some row →
        b = a ∧ row.status.waits = false ∨ b ≠ a ∧ s.activities[b]? = some row

/-- What a move makes of a stored enrollment. -/
theorem Move.enrollment_after (h : Move mark s s') {e : Id} {row : SequenceEnrollment}
    (hstored : s.enrollments[e]? = some row) :
    ∃ row', s'.enrollments[e]? = some row' ∧ row'.sequenceId = row.sequenceId ∧
      row'.definitionVersion = row.definitionVersion ∧
      (row'.currentStepOrder = row.currentStepOrder ∨
        MovedOn mark s s' e row'.currentStepOrder) := by
  have hsame : ∀ {t : Store}, t.enrollments = s.enrollments →
      ∃ row', t.enrollments[e]? = some row' ∧ row'.sequenceId = row.sequenceId ∧
        row'.definitionVersion = row.definitionVersion ∧
        (row'.currentStepOrder = row.currentStepOrder ∨
          MovedOn mark s t e row'.currentStepOrder) := by
    intro t ht
    rw [ht]
    exact ⟨row, hstored, rfl, rfl, Or.inl rfl⟩
  cases h with
  | beside h => exact hsame h.enrollments
  | enroll _ _ =>
    exact ⟨row, Table.get_of_prefix (List.prefix_append _ _) e row hstored, rfl, rfl, Or.inl rfl⟩
  | draft _ => exact hsame rfl
  | mail _ => exact hsame rfl
  | openActivity _ _ => exact hsame rfl
  | activity _ _ => exact hsame rfl
  | turn hrow hturn =>
    rename_i k old f
    have hplace : SamePlace old (f old) := by
      cases hturn with
      | hold hplace _ _ => exact hplace
      | due hplace => exact hplace
    by_cases hk : k = e
    · subst hk
      obtain rfl : old = row := Option.some.inj (hrow.symm.trans hstored)
      refine ⟨f old, ?_, hplace.sequence, hplace.version, Or.inl hplace.order⟩
      exact Table.get_modify hstored (fun _ => rfl) (fun hne => absurd rfl hne)
    · refine ⟨row, ?_, rfl, rfl, Or.inl rfl⟩
      exact Table.get_modify hstored (fun heq => absurd heq hk) (fun _ => rfl)
  | complete hrow =>
    rename_i now k old loaded reason
    by_cases hk : k = e
    · subst hk
      exact ⟨_, Table.get_modify hstored (fun _ => rfl) (fun hne => absurd rfl hne), rfl, rfl,
        Or.inl rfl⟩
    · exact ⟨row, Table.get_modify hstored (fun heq => absurd heq hk) (fun _ => rfl), rfl, rfl,
        Or.inl rfl⟩
  | finish hactivity hrow hstep hkey hstatus =>
    rename_i now a activity enrollment step g
    obtain ⟨f, hf, hplace⟩ :=
      advanceEnrollment_place now activity.enrollmentId enrollment step s
    show ∃ row', (advanceEnrollment now activity.enrollmentId enrollment step
      s).enrollments[e]? = some row' ∧ _
    rw [hf]
    by_cases hk : activity.enrollmentId = e
    · refine ⟨f row, Table.get_modify hstored (fun _ => rfl) (fun hne => absurd hk hne),
        (hplace row).1, (hplace row).2.1, ?_⟩
      rcases (hplace row).2.2 with hstays | hlater
      · exact Or.inl hstays
      · refine Or.inr ⟨a, activity, step, _, _, rfl, hactivity, hk, hstep, hlater, ?_⟩
        intro b other hother
        simp only [Store.updateActivity, advanceEnrollment_activities,
          List.getElem?_modify] at hother
        obtain ⟨old, hold, rfl⟩ := Option.map_eq_some_iff.mp hother
        by_cases hb : a = b
        · subst hb
          simp [hstatus]
        · simp [hb, hold, Ne.symm hb]
    · exact ⟨row, Table.get_modify hstored (fun heq => absurd heq hk) (fun _ => rfl), rfl, rfl,
        Or.inl rfl⟩

/-- Where an activity after a move comes from. -/
theorem Move.activity_before (h : Move mark s s') {a : Id} {row : SequenceStepActivity}
    (hstored : s'.activities[a]? = some row) :
    (∃ old, s.activities[a]? = some old ∧ row.enrollmentId = old.enrollmentId ∧
        row.sequenceStepId = old.sequenceStepId ∧
        (row.status = old.status ∨ row.status.waits = false)) ∨
      ∃ enrollment step, OwnStep s row.enrollmentId row.sequenceStepId enrollment step ∧
        step.stepOrder = enrollment.currentStepOrder := by
  have hsame : s.activities[a]? = some row →
      (∃ old, s.activities[a]? = some old ∧ row.enrollmentId = old.enrollmentId ∧
        row.sequenceStepId = old.sequenceStepId ∧
        (row.status = old.status ∨ row.status.waits = false)) ∨
      ∃ enrollment step, OwnStep s row.enrollmentId row.sequenceStepId enrollment step ∧
        step.stepOrder = enrollment.currentStepOrder :=
    fun hbefore => Or.inl ⟨row, hbefore, rfl, rfl, Or.inl rfl⟩
  have hmodified : ∀ {k : Id} {f : SequenceStepActivity → SequenceStepActivity},
      (∀ old : SequenceStepActivity, (f old).enrollmentId = old.enrollmentId ∧
        (f old).sequenceStepId = old.sequenceStepId) →
      (∀ old : SequenceStepActivity, (f old).status = old.status ∨
        (f old).status.waits = false) →
      (s.activities.modify k f)[a]? = some row →
      ∃ old, s.activities[a]? = some old ∧ row.enrollmentId = old.enrollmentId ∧
        row.sequenceStepId = old.sequenceStepId ∧
        (row.status = old.status ∨ row.status.waits = false) := by
    intro k f hkey hstatus hrow
    rw [List.getElem?_modify] at hrow
    obtain ⟨old, hold, rfl⟩ := Option.map_eq_some_iff.mp hrow
    refine ⟨old, hold, ?_⟩
    split
    · exact ⟨(hkey old).1, (hkey old).2, hstatus old⟩
    · exact ⟨rfl, rfl, Or.inl rfl⟩
  cases h with
  | beside h =>
    rw [h.activities] at hstored
    exact hsame hstored
  | enroll _ _ => exact hsame hstored
  | draft _ => exact hsame hstored
  | mail _ => exact hsame hstored
  | openActivity hown horder =>
    rename_i new enrollment step
    rcases Table.get_concat hstored with hold | ⟨-, rfl⟩
    · exact hsame hold
    · exact Or.inr ⟨enrollment, step, hown, horder⟩
  | activity hkey hstatus => exact Or.inl (hmodified hkey hstatus hstored)
  | turn _ _ => exact hsame hstored
  | complete _ => exact hsame hstored
  | finish hactivity hrow hstep hkey hstatus =>
    simp only [Store.updateActivity, advanceEnrollment_activities] at hstored
    exact Or.inl (hmodified hkey (fun old => Or.inr (hstatus old)) hstored)

end Inversion

section Calls

variable [Casing] {ok : Mark → Prop} (hok : Guarded ok)

omit [Casing] in
/-- What the body of a session moves, its scope moves. -/
theorem sessionScope_moves {α : Type} {body : Tx α} {w : DbWorld}
    (h : ⦃fun v => ⌜v = w⌝⦄ body
      ⦃post⟨fun _ v => ⌜Moves ok w.store v.store⌝, fun _ _ => ⌜True⌝⟩⦄) :
    Moves ok w.store (after (sessionScope body) w).store :=
  (Lib.sessionScope_keeps (I := fun s => Moves ok w.store s) (Chain.refl _) h).1

include hok

omit [Casing] in
theorem createSequence_moves (rt : Runtime) (request : SequenceCreateRequest)
    (key : Option String) (w : DbWorld) :
    Moves ok w.store (after (createSequence rt request key) w).store := by
  apply sessionScope_moves
  mvcgen [flush, Lib.flush]
  all_goals subst_vars
  · exact Chain.refl _
  · exact moves_beside hok insertSequence_beside

omit [Casing] in
theorem updateSequence_moves (rt : Runtime) (q : Id) (request : SequenceUpdateRequest)
    (w : DbWorld) : Moves ok w.store (after (updateSequence rt q request) w).store := by
  apply sessionScope_moves
  mvcgen [flush, Lib.flush]
  all_goals subst_vars
  · next sequence hrow _ _ _ =>
    refine moves_beside hok (reviseSequence_beside hrow ?_ ?_)
    · simp only [SequenceUpdateRequest.apply]
      split <;> omega
    · intro step hstep
      cases hsteps : request.steps with
      | none =>
        rw [hsteps] at hstep
        cases hstep
      | some steps =>
        obtain ⟨hsequence, hversion⟩ := stepRows_of hstep
        refine ⟨hsequence, ?_⟩
        simp only [SequenceUpdateRequest.apply, hsteps, Option.isSome_some, if_true]
        exact hversion.le
  · exact Chain.refl _

omit [Casing] in
theorem archiveSequence_moves (rt : Runtime) (q : Id) (w : DbWorld) :
    Moves ok w.store (after (archiveSequence rt q) w).store := by
  apply sessionScope_moves
  mvcgen
  all_goals subst_vars
  · next hrow =>
    exact moves_beside hok (reviseSequence_beside hrow (Nat.le_refl _) (by simp))
  · exact Chain.refl _

theorem createSuppression_moves (rt : Runtime) (request : SuppressionCreate) (key : String)
    (w : DbWorld) : Moves ok w.store (after (createSuppression rt request key) w).store := by
  apply sessionScope_moves
  mvcgen [flush, Lib.flush]
  all_goals subst_vars
  · exact Chain.refl _
  · exact moves_beside hok insertSuppression_beside

omit [Casing] in
theorem setEnrollmentStatus_moves (rt : Runtime) (e : Id) {status : EnrollmentStatus}
    (hstatus : status ≠ .active) (reason : String) {event : Option EventName}
    (hevent : event ≠ some .sequenceCompleted) (w : DbWorld) :
    Moves ok w.store (after (setEnrollmentStatus rt e status reason event) w).store := by
  apply sessionScope_moves
  mvcgen
  all_goals subst_vars
  · exact setStatus_moves hok ‹_› hstatus hevent
  · exact Chain.refl _

omit [Casing] hok in
theorem resumeSequenceEnrollment_moves (rt : Runtime) (e : Id) (w : DbWorld)
    (hmark : ∀ row, w.store.enrollments[e]? = some row → row.status.terminal = false →
      ok (.stir (row.status == .active) (w.store.done e))) :
    Moves ok w.store (after (resumeSequenceEnrollment rt e) w).store := by
  apply sessionScope_moves
  mvcgen
  all_goals subst_vars
  · next row hrow _ hlive =>
    exact due_moves hrow ⟨rfl, rfl, rfl⟩ (hmark row hrow (by simpa using hlive))
  · exact Chain.refl _

theorem createSequenceEnrollment_moves (rt : Runtime)
    (request : SequenceEnrollmentCreateRequest) (actor key : String) (w : DbWorld) :
    Moves ok w.store (after (createSequenceEnrollment rt request actor key) w).store := by
  unfold createSequenceEnrollment
  split
  · exact Chain.refl _
  · apply sessionScope_moves
    mvcgen [flush, Lib.flush, Lib.queryOrRaise]
    all_goals subst_vars
    · exact Chain.refl _
    · refine Chain.trans ?_ (enqueueEvent_moves hok (by decide))
      exact Chain.single hok.routine (.enroll ‹_› rfl)

theorem createMeeting_moves (rt : Runtime) (request : MeetingCreateRequest)
    (actor key : String) (client : CalendarClient) (w : DbWorld) :
    Moves ok w.store (after (createMeeting rt request actor key client) w).store := by
  unfold createMeeting
  split
  · exact Chain.refl _
  · apply sessionScope_moves
    mvcgen [flush, Lib.flush, Lib.queryOrRaise]
    all_goals subst_vars
    · exact Chain.refl _
    · next s _ target _ contact _ attendees _ _ _ enrollment henrollment meeting _ event
        result _ =>
      refine Chain.trans (b := recordCalendar rt.now s.store.meetings.length result
        (s.store.insertMeeting meeting)) ?_ ?_
      · exact moves_beside hok (beside_of_same ⟨rfl, rfl, rfl, rfl, rfl, rfl⟩)
      refine Chain.trans ?_ (enqueueEvent_moves hok (by decide))
      cases enrollment with
      | none => exact Chain.refl _
      | some found =>
        obtain ⟨e, row⟩ := found
        have hrow := enrollmentForMeeting_stored henrollment e row rfl
        by_cases hactive : row.status = .active
        · simp only [completeBooked, hactive, if_true]
          refine completeWith_moves hrow ?_
          rw [hactive]
          exact hok.active _
        · simp only [completeBooked, hactive, if_false]
          exact Chain.refl _

omit [Casing] hok in
theorem completeSequenceActivity_moves (rt : Runtime) (a : Id)
    (request : SequenceActivityActionRequest) (actor : String) (w : DbWorld)
    (hmark : ∀ activity enrollment, w.store.activities[a]? = some activity →
      w.store.enrollments[activity.enrollmentId]? = some enrollment →
      (activity.status = .pending ∨ activity.status = .scheduled) →
        ok (.finish activity.status (enrollment.status == .active)
          (w.store.done activity.enrollmentId))) :
    Moves ok w.store (after (completeSequenceActivity rt a request actor) w).store := by
  apply sessionScope_moves
  mvcgen
  all_goals subst_vars
  · next activity hactivity _ hstatus enrollment hrow step hstep =>
    unfold finishActivity
    rw [advanceEnrollment_updateActivity]
    refine finish_moves hactivity hrow hstep (fun _ => ⟨rfl, rfl⟩) (fun _ => rfl)
      (hmark activity enrollment hactivity hrow ?_)
    by_contra hneither
    exact hstatus (not_or.mp hneither)
  · exact Chain.refl _

omit [Casing] hok in
theorem linkMeeting_moves (rt : Runtime) (a : Id) (actor : String) (meetingId : Id)
    (w : DbWorld)
    (hmark : ∀ activity enrollment, w.store.activities[a]? = some activity →
      w.store.enrollments[activity.enrollmentId]? = some enrollment →
        ok (.finish activity.status (enrollment.status == .active)
          (w.store.done activity.enrollmentId))) :
    Moves ok w.store (after (linkMeeting rt a actor meetingId) w).store := by
  apply sessionScope_moves
  mvcgen
  all_goals subst_vars
  next activity hactivity enrollment hrow step hstep =>
    unfold scheduleActivity
    rw [advanceEnrollment_updateActivity]
    exact finish_moves hactivity hrow hstep (fun _ => ⟨rfl, rfl⟩) (fun _ => rfl)
      (hmark activity enrollment hactivity hrow)

omit [Casing] hok in
theorem meetingContext_idle (a : Id) (w : DbWorld) : (after (meetingContext a) w).store = w.store := by
  refine (Lib.sessionScope_keeps (I := fun s => s = w.store) rfl ?_).1
  mvcgen
  all_goals subst_vars
  all_goals rfl

omit [Casing] hok in
/-- What the first transaction of a booking reads. -/
theorem meetingContext_some {a : Id} {w v : DbWorld} {activity : SequenceStepActivity}
    {enrollment : SequenceEnrollment}
    (h : meetingContext a w = .ok (some (activity, enrollment)) v) :
    v.store = w.store ∧ w.store.activities[a]? = some activity ∧
      (activity.status = .pending ∨ activity.status = .scheduled) ∧
      w.store.enrollments[activity.enrollmentId]? = some enrollment := by
  refine (Lib.sessionScope_answers (R := fun found v => ∀ activity enrollment,
    found = some (activity, enrollment) → v.store = w.store ∧
      w.store.activities[a]? = some activity ∧
      (activity.status = .pending ∨ activity.status = .scheduled) ∧
      w.store.enrollments[activity.enrollmentId]? = some enrollment) h ?_).1 activity
        enrollment rfl
  mvcgen
  all_goals subst_vars
  · next activity hactivity _ _ _ hstatus enrollment hrow =>
    rintro found loaded ⟨⟩
    refine ⟨rfl, hactivity, ?_, hrow⟩
    by_contra hneither
    exact hstatus (not_or.mp hneither)
  · rintro found loaded ⟨⟩

omit hok in
/-- A booking leaves the activities alone. -/
theorem createMeeting_activities (rt : Runtime) (request : MeetingCreateRequest)
    (actor key : String) (client : CalendarClient) (w : DbWorld) :
    (after (createMeeting rt request actor key client) w).store.activities =
      w.store.activities := by
  have hcompleted : ∀ {now : Time} {enrollment : Option (Id × SequenceEnrollment)} {s : Store},
      (completeBooked now enrollment s).activities = s.activities := by
    intro now enrollment s
    unfold completeBooked
    split
    · split <;> rfl
    · rfl
  unfold createMeeting
  split
  · rfl
  · refine (Lib.sessionScope_keeps (I := fun s : Store => s.activities = w.store.activities) rfl
      ?_).1
    mvcgen [flush, Lib.flush, Lib.queryOrRaise]
    all_goals subst_vars
    · rfl
    · simp only [recordMeeting, enqueueEvent, hcompleted]
      rfl

/-- The booking and the link are transactions of their own: the link starts from
what the booking left. -/
theorem scheduleSequenceMeetingActivity_moves (rt : Runtime) (a : Id)
    (request : SequenceActivityScheduleMeetingRequest) (actor : String)
    (client : CalendarClient) (w : DbWorld)
    (hmark : ∀ row enrollment booking (v : DbWorld) activity enrollment',
      meetingContext a w = .ok (some (row, enrollment)) v →
      booking = meetingRequest row enrollment request →
      (after (createMeeting rt booking actor ("sequence-meeting:" ++ toString a) client)
        v).store.activities[a]? = some activity →
      (after (createMeeting rt booking actor ("sequence-meeting:" ++ toString a) client)
        v).store.enrollments[activity.enrollmentId]? = some enrollment' →
        ok (.finish activity.status (enrollment'.status == .active)
          ((after (createMeeting rt booking actor ("sequence-meeting:" ++ toString a) client)
            v).store.done activity.enrollmentId))) :
    Moves ok w.store
      (after (scheduleSequenceMeetingActivity rt a request actor client) w).store := by
  let R : DbWorld → DbWorld → Prop := fun v v' => Moves ok v.store v'.store
  have htrans : ∀ {u v z : DbWorld}, R u v → R v z → R u z := fun h h' => Chain.trans h h'
  unfold scheduleSequenceMeetingActivity
  refine Lib.bind_relates (R := R) htrans ?_ ?_
  · show Moves ok w.store (after (meetingContext a) w).store
    rw [meetingContext_idle]
    exact Chain.refl _
  intro context v hcontext
  cases context with
  | none => exact Chain.refl _
  | some found =>
    obtain ⟨row, enrollment⟩ := found
    dsimp only
    split
    · exact Chain.refl _
    · refine Lib.bind_relates (R := R) htrans (createMeeting_moves hok rt _ actor _ client v) ?_
      intro meetingId u hcreate
      have hafter : after (createMeeting rt (meetingRequest row enrollment request) actor
          ("sequence-meeting:" ++ toString a) client) v = u := by
        rw [after, hcreate]
      refine linkMeeting_moves rt a actor meetingId u ?_
      intro activity enrollment' hactivity hrow
      have hlink := hmark row enrollment _ v activity enrollment' hcontext rfl
      rw [hafter] at hlink
      exact hlink hactivity hrow

omit [Casing] in
theorem insertInboundEvent_moves {s : Store} {row : InboundEmailEvent} :
    Moves ok s (insertInboundEvent row s) :=
  moves_beside hok (beside_of_same ⟨rfl, rfl, rfl, rfl, rfl, rfl⟩)

omit [Casing] in
theorem recordReply_moves {s : Store} {now : Time} {event : Id}
    {enrollment : Option (Id × SequenceEnrollment)}
    (hlinked : ∀ e row, enrollment = some (e, row) → s.enrollments[e]? = some row)
    (hmark : ∀ e row, enrollment = some (e, row) →
      ok (.stir (row.status == .active) (s.done e))) :
    Moves ok s (recordReply now event enrollment s) := by
  refine Chain.trans ?_ (enqueueEvent_moves hok (by decide))
  cases enrollment with
  | none => exact Chain.refl s
  | some found =>
    obtain ⟨e, row⟩ := found
    exact completeWith_moves (hlinked e row rfl) (hmark e row rfl)

omit [Casing] in
theorem recordBounce_moves {s : Store} {now : Time} {event : Id} {outbound : Option Id}
    {enrollment : Option (Id × SequenceEnrollment)}
    (hlinked : ∀ e row, enrollment = some (e, row) → s.enrollments[e]? = some row) :
    Moves ok s (recordBounce now event outbound (enrollment.map Prod.fst) s) := by
  have hmail : Moves ok s (markBounced now outbound s) := by
    cases outbound with
    | none => exact Chain.refl s
    | some o => exact updateOutbound_moves hok fun _ => ⟨rfl, rfl⟩
  have hsame : (markBounced now outbound s).enrollments = s.enrollments := by
    cases outbound <;> rfl
  refine Chain.trans (hmail.trans ?_) (enqueueEvent_moves hok (by decide))
  cases enrollment with
  | none => exact Chain.refl _
  | some found =>
    obtain ⟨e, row⟩ := found
    have hrow : (markBounced now outbound s).enrollments[e]? = some row := by
      rw [hsame]
      exact hlinked e row rfl
    exact hold_moves hok hrow ⟨rfl, rfl, rfl⟩ (by simp) (Or.inl rfl)

omit [Casing] in
theorem recordUnsubscribe_moves {s : Store} {now : Time} {event : Id}
    {enrollment : Option (Id × SequenceEnrollment)}
    (hlinked : ∀ e row, enrollment = some (e, row) → s.enrollments[e]? = some row) :
    Moves ok s (recordUnsubscribe now event (enrollment.map Prod.fst) s) := by
  refine Chain.trans ?_ (enqueueEvent_moves hok (by decide))
  cases enrollment with
  | none => exact Chain.refl s
  | some found =>
    obtain ⟨e, row⟩ := found
    exact hold_moves hok (hlinked e row rfl) ⟨rfl, rfl, rfl⟩ (by simp) (Or.inl rfl)

/-- A reply completes the linked enrollment unseen; bounces and unsubscribes only
hold it. -/
theorem processInboundEmailEvent_moves (rt : Runtime) (request : InboundEmailEventCreate)
    (key : String) (w : DbWorld)
    (hmark : request.eventType = .reply →
      w.store.inboundEvents.first? (·.idempotencyKey == key) = none →
      ∀ e row, linkedEnrollment w.store request = some (e, row) →
        ok (.stir (row.status == .active) (w.store.done e))) :
    Moves ok w.store (after (processInboundEmailEvent rt request key) w).store := by
  apply sessionScope_moves
  mvcgen [createUnsubscribeSuppression, flush, Lib.flush]
  all_goals subst_vars
  · exact Chain.refl _
  · next s hfresh _ _ htype =>
    exact (insertInboundEvent_moves hok).trans
      (recordReply_moves hok (fun _ _ => linkedEnrollment_stored) (hmark htype hfresh))
  · exact (insertInboundEvent_moves hok).trans
      (recordBounce_moves hok fun _ _ => linkedEnrollment_stored)
  · exact ((insertInboundEvent_moves hok).trans (insertSuppressionEvent_moves hok)).trans
      (recordUnsubscribe_moves hok fun _ _ => linkedEnrollment_stored)
  · exact ((insertInboundEvent_moves hok).trans ((moves_beside hok insertSuppression_beside).trans
      (insertSuppressionEvent_moves hok))).trans
      (recordUnsubscribe_moves hok fun _ _ => linkedEnrollment_stored)
  · exact (insertInboundEvent_moves hok).trans
      (recordUnsubscribe_moves hok fun _ _ => linkedEnrollment_stored)

omit [Casing] in
/-- The step is handed over to the activity found for it; only mail was written
before. -/
theorem handOverFound_moves {s m : Store} {rt : Runtime} {e a : Id} {o : Option Id}
    {row : SequenceEnrollment} (hmail : Moves ok s m) (hsame : m.enrollments = s.enrollments)
    (hrow : s.enrollments[e]? = some row) :
    Moves ok s (clearNextStep rt.now e (attachOutbound a o m)) := by
  have hkept : (attachOutbound a o m).enrollments[e]? = some row := by
    show m.enrollments[e]? = some row
    rw [hsame]
    exact hrow
  exact (hmail.trans (attachOutbound_moves hok)).trans (clearNextStep_moves hok hkept)

omit hok in
/-- A plan is about a step of the enrollment's own definition. -/
theorem planNextStep_own {rt : Runtime} {e stepId : Id} {row : SequenceEnrollment}
    {plan : NextStepPlan} {s : Store} (hrow : s.enrollments[e]? = some row)
    (hplan : planNextStep rt row s = .ok plan) (hstep : plan.step? = some stepId) :
    ∃ step, OwnStep s e stepId row step ∧ step.stepOrder = row.currentStepOrder := by
  obtain ⟨step, horder⟩ := planNextStep_step hplan hstep
  obtain ⟨hget, hsequence, hnumber, hversion⟩ := stepForOrder_some horder
  exact ⟨step, ⟨hrow, hget, hsequence, hversion⟩, hnumber⟩

/-- The step is handed over to a new activity. -/
theorem handOverNew_moves {s m : Store} {rt : Runtime} {e stepId : Id}
    {row : SequenceEnrollment} {plan : NextStepPlan} {step : SequenceStep}
    {status : ActivityStatus} {o : Option Id} (hmail : Moves ok s m)
    (hsame : m.enrollments = s.enrollments ∧ m.steps = s.steps)
    (hrow : s.enrollments[e]? = some row) (hplan : planNextStep rt row s = .ok plan)
    (hstep : plan.step? = some stepId) :
    Moves ok s
      (clearNextStep rt.now e (m.insertActivity (activityFor rt.now e stepId step status o))) := by
  obtain ⟨henrollments, hsteps⟩ := hsame
  obtain ⟨found, hown, horder⟩ := planNextStep_own hrow hplan hstep
  have hkept : m.enrollments[e]? = some row := by
    rw [henrollments]
    exact hrow
  have hopen : Moves ok m (m.insertActivity (activityFor rt.now e stepId step status o)) := by
    have hstored : m.steps[stepId]? = some found := by
      rw [hsteps]
      exact hown.stored
    have hplaced : OwnStep m e stepId row found :=
      ⟨hkept, hstored, hown.sequence, hown.version⟩
    exact Chain.single hok.routine (.openActivity hplaced horder)
  exact (hmail.trans hopen).trans (clearNextStep_moves hok hkept)

omit [Casing] in
theorem awaitApproval_moves {s : Store} {now : Time} {o : Id} :
    Moves ok s (awaitApproval now o s) :=
  updateOutbound_moves hok fun _ => ⟨rfl, rfl⟩

theorem draft_moves {s : Store} {rt : Runtime} {e stepId : Id} {row : SequenceEnrollment}
    {step : SequenceStep} {contact : Contact} {account : Option Account}
    {fromEmail subject body : String} (hrow : s.enrollments[e]? = some row)
    (hplan : planNextStep rt row s = .ok (.draft stepId step contact account fromEmail)) :
    Moves ok s (s.insertOutbound
      (draftFor rt.now e row stepId step contact fromEmail subject body)) := by
  obtain ⟨found, hown, -⟩ := planNextStep_own hrow hplan rfl
  exact Chain.single hok.routine (.draft (Or.inl ⟨row, found, hown⟩))

/-- A scheduler round only touches an active enrollment. -/
theorem sendNextSequenceStep_moves (rt : Runtime) (e : Id) (w : DbWorld) :
    Moves ok w.store (after (sendNextSequenceStep rt e) w).store := by
  apply sessionScope_moves
  mvcgen [performNextStep, outboundForStep, activityForStep, flush, Lib.flush,
    Lib.queryOrRaise]
  all_goals subst_vars
  · exact Chain.refl _
  · exact pauseForPolicy_moves hok ‹_›
  · next hactive _ =>
    refine completeWith_moves ‹_› ?_
    rw [not_not.mp hactive]
    exact hok.active _
  · exact suppressEnrollment_moves hok ‹_›
  · exact handOverFound_moves hok (Chain.refl _) rfl ‹_›
  · exact handOverNew_moves hok (Chain.refl _) ⟨rfl, rfl⟩ ‹_› ‹_› rfl
  · next hactive _ _ =>
    refine due_moves ‹_› ⟨rfl, rfl, rfl⟩ ?_
    rw [not_not.mp hactive]
    exact hok.active _
  · exact handOverFound_moves hok (awaitApproval_moves hok) rfl ‹_›
  · exact handOverNew_moves hok (awaitApproval_moves hok) ⟨rfl, rfl⟩ ‹_› ‹_› rfl
  · exact handOverFound_moves hok ((draft_moves hok ‹_› ‹_›).trans (awaitApproval_moves hok))
      rfl ‹_›
  · exact handOverNew_moves hok ((draft_moves hok ‹_› ‹_›).trans (awaitApproval_moves hok))
      ⟨rfl, rfl⟩ ‹_› ‹_› rfl

omit [Casing] in
theorem recordFailure_moves {s : Store} {rt : Runtime} {p : Approval} {error : String}
    (hrow : s.enrollments[p.activity.enrollmentId]? = some p.enrollment)
    (hactive : p.enrollment.status = .active) : Moves ok s (p.recordFailure rt error s) := by
  unfold Approval.recordFailure
  refine Chain.trans ?_ (Chain.single hok.routine
    (.activity (fun _ => ⟨rfl, rfl⟩) fun _ => Or.inr rfl))
  have hmark : ok (.stir (p.enrollment.status == .active)
      (s.done p.activity.enrollmentId)) := by
    rw [hactive]
    exact hok.active _
  refine Chain.trans ?_ (due_moves hrow ⟨rfl, rfl, rfl⟩ hmark)
  exact updateOutbound_moves hok fun _ => ⟨rfl, rfl⟩

omit [Casing] in
theorem recordSent_moves {s : Store} {rt : Runtime} {p : Approval} {actor messageId : String}
    (hactivity : s.activities[p.activityId]? = some p.activity)
    (hrow : s.enrollments[p.activity.enrollmentId]? = some p.enrollment)
    (hstep : s.steps[p.activity.sequenceStepId]? = some p.step)
    (hactive : p.enrollment.status = .active) (hawaits : p.activity.status.awaits = true) :
    Moves ok s (p.recordSent rt actor messageId s) := by
  unfold Approval.recordSent
  refine Chain.trans ?_ (finish_moves hactivity hrow hstep (fun _ => ⟨rfl, rfl⟩)
    (fun _ => rfl) ?_)
  · refine Chain.trans ?_ (enqueueEvent_moves hok (by decide))
    exact updateOutbound_moves hok fun _ => ⟨rfl, rfl⟩
  · rw [hactive]
    exact hok.approval _ _ hawaits

/-- Before the sender is called at most a draft has been written, for the
activity's own step. -/
theorem Prepared.moves {rt : Runtime} {w w' : DbWorld} {p : Approval}
    (h : Prepared rt w w' p) : Moves ok w.store w'.store ∧ w'.store.steps = w.store.steps := by
  obtain ⟨hactivity, -⟩ := loadApproval_some h.loaded
  obtain ⟨contact, fromEmail, -, hdrafted⟩ := h.drafted
  rcases hdrafted with ⟨-, rfl⟩ | ⟨-, ⟨mail, -, rfl⟩ | ⟨subject, body, hstore, -⟩⟩
  · exact ⟨Chain.refl _, rfl⟩
  · exact ⟨Chain.refl _, rfl⟩
  · rw [hstore]
    exact ⟨Chain.single hok.routine
      (.draft (Or.inr ⟨p.activity, List.mem_of_getElem? hactivity, rfl⟩)), rfl⟩

theorem sendApprovedSequenceEmail_moves (rt : Runtime) (a : Id) (actor : String)
    (sender : SmtpSendRequest → SmtpOutcome) (w : DbWorld) :
    Moves ok w.store (after (sendApprovedSequenceEmail rt a actor sender) w).store := by
  rcases sendApproved_cases rt a actor sender w with hidle | ⟨p, w', -, rfl, hp, hafter⟩
  · rw [hidle]
    exact Chain.refl _
  · rw [hafter]
    dsimp only
    split
    · obtain ⟨hactivity, -, hstatus, hrow, hstep, hactive⟩ := loadApproval_some hp.loaded
      obtain ⟨henrollments, hactivities⟩ := hp.same
      obtain ⟨hdraft, hsteps⟩ := hp.moves hok
      rw [← henrollments] at hrow
      rw [← hactivities] at hactivity
      rw [← hsteps] at hstep
      have hawaits : p.activity.status.awaits = true := by
        rcases hstatus with hpending | happroved
        · rw [hpending]
          rfl
        · rw [happroved]
          rfl
      refine hdraft.trans ?_
      simp only [Approval.settle]
      cases sender p.request with
      | error error => exact recordFailure_moves hok hrow hactive
      | ok messageId => exact recordSent_moves hok hactivity hrow hstep hactive hawaits
    · exact Chain.refl _

theorem verifyEmailCandidates_moves (rt : Runtime) (request : EmailVerifyBatchRequest)
    (verifier : List String → Except String VerificationResults) (w : DbWorld) :
    Moves ok w.store (after (verifyEmailCandidates rt request verifier) w).store := by
  have hverified : ∀ {s : Store} {id : Id} {visible : Table OrganizationEmailPattern}
      {record : EmailCandidateRecord}, Beside s (applyVerified rt.now visible id record s) := by
    intro s id visible record
    unfold applyVerified
    refine Beside.trans ?_ (enqueueEvent_beside (by decide))
    apply beside_of_same
    unfold upsertEmailPattern
    cases record.contactId <;> split <;> exact ⟨rfl, rfl, rfl, rfl, rfl, rfl⟩
  have hreview : ∀ {s : Store} {row : ReviewCandidate}, Beside s (insertReview row s) := by
    intro s row
    refine Beside.trans (b := { s with reviewCandidates := s.reviewCandidates ++ [row] }) ?_
      (enqueueEvent_beside (by decide))
    exact beside_of_same ⟨rfl, rfl, rfl, rfl, rfl, rfl⟩
  have hloop : ∀ results records visible,
      ⦃fun v => ⌜Beside w.store v.store⌝⦄ verifyRecords rt results records visible
        ⦃post⟨fun _ v => ⌜Beside w.store v.store⌝, fun _ _ => ⌜True⌝⟩⦄ := by
    intro results records
    induction records with
    | nil =>
      intro visible
      mvcgen [verifyRecords]
    | cons first rest ih =>
      intro visible
      obtain ⟨id, record⟩ := first
      have hunverified : ∀ {s : Store} (status : VerificationStatus) (reason : Option String),
          Beside w.store s →
            Beside w.store (applyUnverified rt.now id record status reason s) := by
        intro s status reason h
        exact h.trans (beside_of_same ⟨rfl, rfl, rfl, rfl, rfl, rfl⟩)
      mvcgen [verifyRecords, requestReview, flush, Lib.flush, ih]
      · next h => exact h.trans hverified
      · next h _ => exact hunverified _ _ h
      · next h _ _ _ => exact hunverified _ _ h
      · next h _ _ _ => exact (hunverified _ _ h).trans hreview
  apply moves_beside hok
  refine (Lib.sessionScope_keeps (I := fun s => Beside w.store s) (Beside.refl _) ?_).1
  mvcgen [Lib.queryOrRaise, hloop]
  all_goals subst_vars
  all_goals exact Beside.refl _

/-- Every call is a chain of moves; the calls that do not look at the state of
the enrollment need their marks admitted. -/
structure Admitted (ok : Mark → Prop) (w : DbWorld) (c : Call) : Prop extends Guarded ok where
  resume : ∀ e row, c.op = .resume e → w.store.enrollments[e]? = some row →
    row.status.terminal = false → ok (.stir (row.status == .active) (w.store.done e))
  reply : ∀ request key, c.op = .inbound request key → request.eventType = .reply →
    w.store.inboundEvents.first? (·.idempotencyKey == key) = none →
    ∀ e row, linkedEnrollment w.store request = some (e, row) →
      ok (.stir (row.status == .active) (w.store.done e))
  complete : ∀ a request actor, c.op = .completeActivity a request actor →
    ∀ activity enrollment, w.store.activities[a]? = some activity →
      w.store.enrollments[activity.enrollmentId]? = some enrollment →
      (activity.status = .pending ∨ activity.status = .scheduled) →
        ok (.finish activity.status (enrollment.status == .active)
          (w.store.done activity.enrollmentId))
  schedule : ∀ a request actor client, c.op = .scheduleMeeting a request actor client →
    ∀ row enrollment booking (v : DbWorld) activity enrollment',
      meetingContext a w = .ok (some (row, enrollment)) v →
      booking = meetingRequest row enrollment request →
      (after (createMeeting c.rt booking actor ("sequence-meeting:" ++ toString a) client)
        v).store.activities[a]? = some activity →
      (after (createMeeting c.rt booking actor ("sequence-meeting:" ++ toString a) client)
        v).store.enrollments[activity.enrollmentId]? = some enrollment' →
        ok (.finish activity.status (enrollment'.status == .active)
          ((after (createMeeting c.rt booking actor ("sequence-meeting:" ++ toString a) client)
            v).store.done activity.enrollmentId))

omit hok in
/-- What one call does. -/
theorem step_moves {w : DbWorld} {c : Call} (h : Admitted ok w c) :
    Moves ok w.store (step w c).store := by
  obtain ⟨hok, hresume, hreply, hcomplete, hschedule⟩ := h
  obtain ⟨rt, op⟩ := c
  cases op with
  | createSequence request key => exact createSequence_moves hok rt request key w
  | updateSequence q request => exact updateSequence_moves hok rt q request w
  | archiveSequence q => exact archiveSequence_moves hok rt q w
  | createEnrollment request actor key =>
    exact createSequenceEnrollment_moves hok rt request actor key w
  | pause e reason => exact setEnrollmentStatus_moves hok rt e (by decide) reason (by decide) w
  | resume e => exact resumeSequenceEnrollment_moves rt e w (hresume e · rfl)
  | cancel e reason => exact setEnrollmentStatus_moves hok rt e (by decide) reason (by decide) w
  | sendNext e => exact sendNextSequenceStep_moves hok rt e w
  | sendApproved a actor sender => exact sendApprovedSequenceEmail_moves hok rt a actor sender w
  | completeActivity a request actor =>
    exact completeSequenceActivity_moves rt a request actor w (hcomplete a request actor rfl)
  | scheduleMeeting a request actor client =>
    exact scheduleSequenceMeetingActivity_moves hok rt a request actor client w
      (hschedule a request actor client rfl)
  | inbound request key =>
    exact processInboundEmailEvent_moves hok rt request key w (hreply request key rfl)
  | unsubscribe request key =>
    refine processInboundEmailEvent_moves hok rt request.event key w ?_
    intro htype
    cases htype
  | createMeeting request actor key client =>
    exact createMeeting_moves hok rt request actor key client w
  | createSuppression request key => exact createSuppression_moves hok rt request key w
  | verifyEmails request verifier => exact verifyEmailCandidates_moves hok rt request verifier w
  | elsewhere rows =>
    apply sessionScope_moves
    mvcgen
    all_goals subst_vars
    exact moves_beside hok (beside_of_same ⟨rfl, rfl, rfl, rfl, rfl, rfl⟩)

end Calls

end GhostRecon
