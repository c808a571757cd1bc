import GhostRecon.Sequencing.Operations

/-!
What the life cycle of an enrollment guarantees over whole runs. Two results
need a condition on the calls, because the code leaves a guard out: a bounce
pauses an enrollment whatever its status, so a late one reopens it; and a
scheduler round hands a step to the activity it finds even when that activity
is already closed, so a failed mail leaves its enrollment with nothing to do.
-/

namespace GhostRecon

open Lib (Id Table Chain)

section Terminal

/-- Every enrollment that was in a terminal status still is. -/
def TerminalKept (s s' : Store) : Prop :=
  ∀ (e : Id) (row : SequenceEnrollment), s.enrollments[e]? = some row →
    row.status.terminal = true →
      ∃ row' : SequenceEnrollment, s'.enrollments[e]? = some row' ∧
        row'.status.terminal = true

theorem TerminalKept.refl (s : Store) : TerminalKept s s := by
  intro e row hrow hterminal
  exact ⟨row, hrow, hterminal⟩

theorem TerminalKept.trans {a b c : Store} (hab : TerminalKept a b) (hbc : TerminalKept b c) :
    TerminalKept a c := by
  intro e row hrow hterminal
  obtain ⟨row', hrow', hterminal'⟩ := hab e row hrow hterminal
  exact hbc e row' hrow' hterminal'

/-- The labels under which a terminal enrollment is safe: no bounce of one. -/
def Label.sparesTerminal (label : Label) : Prop :=
  ∀ status, label = .bounce status → status.terminal = false

theorem Lifecycle.keeps_terminal {label : Label} {old new : SequenceEnrollment}
    (hlabel : label.sparesTerminal) (h : Lifecycle label old new)
    (hterminal : old.status.terminal = true) : new.status.terminal = true := by
  cases h with
  | close hstatus => exact hstatus
  | pause hlive _ =>
    rw [hterminal] at hlive
    cases hlive
  | bounce _ =>
    have hlive := hlabel _ rfl
    rw [hterminal] at hlive
    cases hlive
  | resume hlive _ _ =>
    rw [hterminal] at hlive
    cases hlive
  | reschedule hstatus _ =>
    rw [hstatus]
    exact hterminal
  | handOver hstatus _ _ _ =>
    rw [hstatus]
    exact hterminal

theorem Aside.keeps_terminal {s s' : Store} (h : Aside s s') : TerminalKept s s' := by
  intro e row hrow hterminal
  refine ⟨row, ?_, hterminal⟩
  rw [h.enrollments]
  exact hrow

/-- One write keeps the terminal enrollments. -/
theorem Write.keeps_terminal {label : Label} {s s' : Store} (hlabel : label.sparesTerminal)
    (h : Write label s s') : TerminalKept s s' := by
  intro e row hrow hterminal
  cases h with
  | aside h _ => exact h.keeps_terminal e row hrow hterminal
  | prospects h => exact h.keeps_terminal e row hrow hterminal
  | draft _ _ _ => exact ⟨row, hrow, hterminal⟩
  | mail _ => exact ⟨row, hrow, hterminal⟩
  | enroll hnext =>
    refine ⟨row, ?_, hterminal⟩
    obtain ⟨hlt, -⟩ := List.getElem?_eq_some_iff.mp hrow
    rw [List.getElem?_append_left hlt]
    exact hrow
  | enrollment hold _ hchange hactivity =>
    rename_i e' old f _
    by_cases he : e' = e
    · subst he
      obtain rfl : old = row := Option.some.inj (hold.symm.trans hrow)
      refine ⟨f old, ?_, hchange.keeps_terminal hlabel hterminal⟩
      simp [Store.updateEnrollment, hold]
    · refine ⟨row, ?_, hterminal⟩
      rw [Store.updateEnrollment, List.getElem?_modify_ne _ _ he]
      exact hrow
  | openActivity _ => exact ⟨row, hrow, hterminal⟩
  | activity _ _ _ => exact ⟨row, hrow, hterminal⟩

variable [Casing]

/-- The call is a late bounce: the first report of a bounce for an enrollment
that is already completed, canceled, suppressed or failed. -/
def Call.lateBounce (c : Call) (w : DbWorld) : Bool :=
  c.bounces w EnrollmentStatus.terminal

theorem Call.bounces_status {c : Call} {w : DbWorld} {p : EnrollmentStatus → Bool}
    {status : EnrollmentStatus} (hnone : c.bounces w p = false)
    (h : c.bounces w (· == status) = true) : p status = false := by
  unfold Call.bounces at hnone h
  split at h
  · next request key hop =>
    cases hlinked : linkedEnrollment w.store request with
    | none => simp [hlinked] at h
    | some found =>
      simp only [hlinked, Option.any_some, Bool.and_eq_true, beq_iff_eq] at h
      obtain ⟨⟨htype, hfresh⟩, rfl⟩ := h
      simpa [hop, hlinked, htype, hfresh] using hnone
  · cases h

theorem lateBounce_admits {w : DbWorld} {c : Call} (h : c.lateBounce w = false) :
    Admits Label.sparesTerminal w c where
  routine := by
    intro status heq
    cases heq
  opens := by
    constructor <;> intro status heq <;> cases heq
  prospects := by
    intro _ status heq
    cases heq
  draft := by
    intro contact _ status heq
    cases heq
  bounce := by
    intro status hbounce status' heq
    cases heq
    exact Call.bounces_status h hbounce
  reuse := by
    intro status _ status' heq
    cases heq

theorem step_keeps_terminal {w : DbWorld} {c : Call} (h : c.lateBounce w = false) :
    TerminalKept w.store (step w c).store :=
  Chain.relates TerminalKept.refl TerminalKept.trans Write.keeps_terminal
    (step_writes (lateBounce_admits h))

/-- In a run without a late bounce no enrollment ever leaves a terminal status
for an active or paused one. -/
theorem terminal_enrollments_stay_terminal (w : DbWorld) (calls : List Call)
    (hrun : Lib.Admissible step (fun w c => c.lateBounce w = false) w calls)
    (e : Id) (row : SequenceEnrollment) (hrow : w.store.enrollments[e]? = some row)
    (hterminal : row.status.terminal = true) :
    ∃ row' : SequenceEnrollment,
      (runCalls w calls).store.enrollments[e]? = some row' ∧
        row'.status ≠ .active ∧ row'.status ≠ .paused := by
  have hkept : TerminalKept w.store (runCalls w calls).store :=
    Lib.run_relates (R := fun w w' : DbWorld => TerminalKept w.store w'.store)
      (fun w => TerminalKept.refl w.store) TerminalKept.trans
      (fun _ _ => step_keeps_terminal) hrun
  obtain ⟨row', hrow', hstill⟩ := hkept e row hrow hterminal
  refine ⟨row', hrow', ?_, ?_⟩
  · intro heq
    rw [heq] at hstill
    cases hstill
  · intro heq
    rw [heq] at hstill
    cases hstill

end Terminal

section LateBounce

/-- The first mail goes out and the operator cancels the enrollment. -/
def cancelAfterFirstMail : List Call :=
  draftFirstMail ++
    [Op.at (.sendApproved 0 "operator" acceptMail) 40, Op.at (.cancel 0 "not interested") 50]

/-- The mail bounces after the cancellation, and the enrollment is resumed. -/
def bounceAndResume : List Call :=
  [Op.at (.inbound { eventType := .bounce, providerMessageId := some "message-1" } "bounce:1")
      60,
    Op.at (.resume 0) 70]

/-- The canceled enrollment is active again. -/
theorem late_bounce_reopens :
    ReachableWorld (runCalls deployment cancelAfterFirstMail) ∧
      ¬ TerminalKept (runCalls deployment cancelAfterFirstMail).store
        (runCalls (runCalls deployment cancelAfterFirstMail) bounceAndResume).store := by
  refine ⟨⟨deployment, cancelAfterFirstMail, deployment_initial, rfl⟩, ?_⟩
  intro hkept
  have hcanceled : (runCalls deployment cancelAfterFirstMail).store.enrollments.map (·.status) =
      [.canceled] := by decide +kernel
  have hactive : (runCalls (runCalls deployment cancelAfterFirstMail)
      bounceAndResume).store.enrollments.map (·.status) = [.active] := by decide +kernel
  obtain ⟨row, hrows, hstatus⟩ := List.map_eq_singleton_iff.mp hcanceled
  obtain ⟨row', hrows', hstatus'⟩ := List.map_eq_singleton_iff.mp hactive
  obtain ⟨found, hfound, hterminal⟩ :=
    hkept 0 row (by rw [hrows]; rfl) (by rw [hstatus]; rfl)
  rw [hrows'] at hfound
  cases hfound
  rw [hstatus'] at hterminal
  cases hterminal

/-- A reply to the canceled enrollment completes it, and it stays closed. -/
theorem late_reply_keeps_closed :
    ∃ row' : SequenceEnrollment,
      (runCalls (runCalls deployment cancelAfterFirstMail)
        [Op.at (.inbound { eventType := .reply, providerMessageId := some "message-1" }
          "reply:1") 60, Op.at (.resume 0) 70]).store.enrollments[0]? = some row' ∧
        row'.status ≠ .active ∧ row'.status ≠ .paused := by
  have hcanceled : ∃ row : SequenceEnrollment,
      (runCalls deployment cancelAfterFirstMail).store.enrollments[0]? = some row ∧
        row.status.terminal = true := by
    have hstatus : ((runCalls deployment cancelAfterFirstMail).store.enrollments[0]?).any
      (·.status.terminal) = true := by decide +kernel
    exact (Option.any_eq_true _ _).mp hstatus
  obtain ⟨row, hrow, hterminal⟩ := hcanceled
  exact terminal_enrollments_stay_terminal (runCalls deployment cancelAfterFirstMail) _
    (by decide +kernel) 0 row hrow hterminal

end LateBounce

section Movable

/-- An active enrollment has its next step time, or its current step has an
activity that is still open. -/
def Movable (s : Store) : Prop :=
  ∀ (e : Id) (row : SequenceEnrollment), s.enrollments[e]? = some row → row.status = .active →
    row.nextStepAt.isSome = true ∨
      ∃ status : ActivityStatus, status.isOpen = true ∧ CurrentActivity s e row status

/-- The labels under which no step is handed to a closed activity. -/
def Label.opensWork (label : Label) : Prop :=
  ∀ status, label = .handOver status → status.isOpen = true

theorem CurrentActivity.mono {s s' : Store} {e : Id} {row row' : SequenceEnrollment}
    {status : ActivityStatus} (h : CurrentActivity s e row status)
    (hsteps : ∀ (i : Id) (step : SequenceStep), s.steps[i]? = some step →
      s'.steps[i]? = some step)
    (hactivities : ∀ (a : Id) (activity : SequenceStepActivity),
      s.activities[a]? = some activity → s'.activities[a]? = some activity)
    (hrow : row'.sequenceId = row.sequenceId ∧ row'.currentStepOrder = row.currentStepOrder ∧
      row'.definitionVersion = row.definitionVersion) :
    CurrentActivity s' e row' status := by
  obtain ⟨stepId, step, a, activity, hstep, hsequence, horder, hversion, hactivity, hrest⟩ :=
    h.holds
  obtain ⟨hsequence', horder', hversion'⟩ := hrow
  refine ⟨stepId, step, a, activity, hsteps _ _ hstep, ?_, ?_, ?_, hactivities _ _ hactivity,
    hrest⟩
  · rw [hsequence']
    exact hsequence
  · rw [horder']
    exact horder
  · rw [hversion']
    exact hversion

/-- The changed enrollment can still be moved. -/
theorem Lifecycle.movable {label : Label} {s s' : Store} {e : Id}
    {old new : SequenceEnrollment} (hlabel : label.opensWork) (h : Lifecycle label old new)
    (hactivity : ∀ status, label = .handOver status → CurrentActivity s e old status)
    (hsteps : s'.steps = s.steps) (hactivities : s'.activities = s.activities)
    (hactive : new.status = .active) :
    new.nextStepAt.isSome = true ∨
      ∃ status : ActivityStatus, status.isOpen = true ∧ CurrentActivity s' e new status := by
  cases h with
  | close hstatus =>
    rw [hactive] at hstatus
    cases hstatus
  | pause _ hstatus =>
    rw [hactive] at hstatus
    cases hstatus
  | bounce hstatus =>
    rw [hactive] at hstatus
    cases hstatus
  | resume _ _ hnext => exact Or.inl hnext
  | reschedule _ hnext => exact Or.inl hnext
  | @handOver _ _ status _ hsequence horder hversion =>
    refine Or.inr ⟨status, hlabel status rfl, ?_⟩
    refine (hactivity status rfl).mono ?_ ?_ ⟨hsequence, horder, hversion⟩
    · rw [hsteps]
      exact fun _ _ hstep => hstep
    · rw [hactivities]
      exact fun _ _ hfound => hfound

/-- A change of an activity leaves its enrollment movable: the activity keeps
its status or stays open, or the enrollment no longer waits for it. -/
theorem CurrentActivity.updateActivity {s : Store} {e a : Id} {row : SequenceEnrollment}
    {status : ActivityStatus} {f : SequenceStepActivity → SequenceStepActivity}
    (h : CurrentActivity s e row status) (hopen : status.isOpen = true)
    (hrow : s.enrollments[e]? = some row) (hactive : row.status = .active)
    (hkey : ∀ row : SequenceStepActivity, (f row).enrollmentId = row.enrollmentId ∧
      (f row).sequenceStepId = row.sequenceStepId ∧ (f row).channel = row.channel)
    (hstatus : ∀ activity, s.activities[a]? = some activity →
      (f activity).status = activity.status ∨ (f activity).status.awaits = false ∧
        ((f activity).status.isOpen = true ∨
          ∀ enrollment, s.enrollments[activity.enrollmentId]? = some enrollment →
            Released enrollment)) :
    row.nextStepAt.isSome = true ∨ ∃ status' : ActivityStatus, status'.isOpen = true ∧
      CurrentActivity (s.updateActivity a f) e row status' := by
  obtain ⟨stepId, step, i, activity, hstep, hsequence, horder, hversion, hactivity,
    henrollment, hstepId, hcurrent⟩ := h.holds
  by_cases ha : a = i
  · subst ha
    have hnew : (s.updateActivity a f).activities[a]? = some (f activity) := by
      simp [Store.updateActivity, hactivity]
    have hmoved : ∀ status', (f activity).status = status' →
        CurrentActivity (s.updateActivity a f) e row status' := by
      intro status' heq
      exact ⟨stepId, step, a, f activity, hstep, hsequence, horder, hversion, hnew,
        (hkey activity).1.trans henrollment, (hkey activity).2.1.trans hstepId, heq⟩
    rcases hstatus activity hactivity with hsame | ⟨-, hstill | hreleased⟩
    · exact Or.inr ⟨status, hopen, hmoved status (hsame.trans hcurrent)⟩
    · exact Or.inr ⟨_, hstill, hmoved _ rfl⟩
    · rw [henrollment] at hreleased
      rcases hreleased row hrow with hidle | hnext
      · exact absurd hactive hidle
      · exact Or.inl hnext
  · refine Or.inr ⟨status, hopen, stepId, step, i, activity, hstep, hsequence, horder, hversion,
      ?_, henrollment, hstepId, hcurrent⟩
    rw [Store.updateActivity, List.getElem?_modify_ne _ _ ha]
    exact hactivity

/-- An enrollment that could be moved still can, while the steps and activities
it had are there. -/
theorem movable_mono {s s' : Store} {e : Id} {row : SequenceEnrollment}
    (h : row.nextStepAt.isSome = true ∨
      ∃ status : ActivityStatus, status.isOpen = true ∧ CurrentActivity s e row status)
    (hsteps : s.steps <+: s'.steps) (hactivities : s.activities <+: s'.activities) :
    row.nextStepAt.isSome = true ∨
      ∃ status : ActivityStatus, status.isOpen = true ∧ CurrentActivity s' e row status := by
  rcases h with hnext | ⟨status, hopen, hcurrent⟩
  · exact Or.inl hnext
  · exact Or.inr ⟨status, hopen, hcurrent.mono (Table.get_of_prefix hsteps)
      (Table.get_of_prefix hactivities) ⟨rfl, rfl, rfl⟩⟩

theorem Aside.keeps_movable {s s' : Store} (h : Aside s s') (hs : Movable s) :
    Movable s' := by
  intro e row hrow hactive
  rw [h.enrollments] at hrow
  refine movable_mono (hs e row hrow hactive) h.steps ?_
  rw [h.activities]

/-- One write keeps every active enrollment movable. -/
theorem Write.keeps_movable {label : Label} {s s' : Store} (hlabel : label.opensWork)
    (h : Write label s s') (hs : Movable s) : Movable s' := by
  intro e row hrow hactive
  cases h with
  | aside h _ => exact h.keeps_movable hs e row hrow hactive
  | prospects h => exact h.keeps_movable hs e row hrow hactive
  | draft _ _ _ =>
    exact movable_mono (hs e row hrow hactive) List.prefix_rfl List.prefix_rfl
  | mail _ =>
    exact movable_mono (hs e row hrow hactive) List.prefix_rfl List.prefix_rfl
  | enroll hnext =>
    rw [List.getElem?_append] at hrow
    split at hrow
    · exact movable_mono (hs e row hrow hactive) List.prefix_rfl List.prefix_rfl
    · left
      rw [List.getElem?_singleton] at hrow
      split at hrow
      · cases hrow
        exact hnext
      · cases hrow
  | enrollment hold _ hchange hactivity =>
    rename_i e' old f _
    by_cases he : e' = e
    · subst he
      have hnew : (s.updateEnrollment e' f).enrollments[e']? = some (f old) := by
        simp [Store.updateEnrollment, hold]
      obtain rfl : f old = row := Option.some.inj (hnew.symm.trans hrow)
      exact hchange.movable hlabel hactivity rfl rfl hactive
    · rw [Store.updateEnrollment, List.getElem?_modify_ne _ _ he] at hrow
      exact movable_mono (hs e row hrow hactive) List.prefix_rfl List.prefix_rfl
  | openActivity _ =>
    exact movable_mono (hs e row hrow hactive) List.prefix_rfl (List.prefix_append _ _)
  | activity hkey _ hstatus =>
    rcases hs e row hrow hactive with hnext | ⟨status, hopen, hcurrent⟩
    · exact Or.inl hnext
    · exact hcurrent.updateActivity hopen hrow hactive hkey hstatus

variable [Casing]

/-- The call is a stale round: the scheduler hands the current step of an
active enrollment to an activity that is already closed. -/
def Call.staleRound (c : Call) (w : DbWorld) : Bool :=
  c.reuses w fun status => !status.isOpen

theorem Call.reuses_status {c : Call} {w : DbWorld} {p : ActivityStatus → Bool}
    {status : ActivityStatus} (hnone : c.reuses w p = false)
    (h : c.reuses w (· == status) = true) : p status = false := by
  unfold Call.reuses at hnone h
  split at h
  · next e hop =>
    cases hreused : reusedActivity? c.rt e w.store with
    | none => simp [hreused] at h
    | some found =>
      simp only [hreused, Option.any_some, beq_iff_eq] at h
      subst h
      simpa [hop, hreused] using hnone
  · cases h

theorem staleRound_admits {w : DbWorld} {c : Call} (h : c.staleRound w = false) :
    Admits Label.opensWork w c where
  routine := by
    intro status heq
    cases heq
  opens := by
    constructor <;> intro status heq <;> cases heq <;> rfl
  prospects := by
    intro _ status heq
    cases heq
  draft := by
    intro contact _ status heq
    cases heq
  bounce := by
    intro status _ status' heq
    cases heq
  reuse := by
    intro status hreuse status' heq
    cases heq
    simpa using Call.reuses_status h hreuse

/-- In a run without a stale round every active enrollment can still be moved:
it is due at some time, or an open activity of its current step waits for an
operator. -/
theorem active_enrollments_movable (w : DbWorld) (calls : List Call) (hinit : Initial w)
    (hrun : Lib.Admissible step (fun w c => c.staleRound w = false) w calls) :
    Movable (runCalls w calls).store := by
  refine Lib.run_keeps (I := fun w : DbWorld => Movable w.store) ?_ hrun ?_
  · intro w c hround hmovable
    have hwrites := step_writes (staleRound_admits hround)
    exact Chain.keeps (I := Movable) Write.keeps_movable hwrites hmovable
  · intro e row hrow
    rw [hinit.enrollments] at hrow
    cases hrow

end Movable

section StaleRound

/-- The sender refuses the first mail and the next round takes it up again. -/
def retryRefusedMail : List Call :=
  draftFirstMail ++
    [Op.at (.sendApproved 0 "operator" refuseMail) 40, Op.at (.sendNext 0) 340]

/-- After the second round the enrollment is active, without a step time, and its
only activity has failed. -/
theorem stale_round_strands : ¬ Movable (runCalls deployment retryRefusedMail).store := by
  intro hmovable
  have henrollments : (runCalls deployment retryRefusedMail).store.enrollments.map
      (fun row => (row.status, row.nextStepAt)) = [(.active, none)] := by decide +kernel
  have hactivities : (runCalls deployment retryRefusedMail).store.activities.map (·.status) =
      [.failed] := by decide +kernel
  obtain ⟨row, hrows, hcolumns⟩ := List.map_eq_singleton_iff.mp henrollments
  obtain ⟨activity, hactivity, hfailed⟩ := List.map_eq_singleton_iff.mp hactivities
  obtain ⟨hactive, hnext⟩ := Prod.mk.inj hcolumns
  rcases hmovable 0 row (by rw [hrows]; rfl) hactive with hdue | ⟨status, hopen, hcurrent⟩
  · rw [hnext] at hdue
    cases hdue
  · obtain ⟨stepId, step, a, found, -, -, -, -, hfound, -, -, hstatus⟩ := hcurrent.holds
    have hmem := List.mem_of_getElem? hfound
    rw [hactivity, List.mem_singleton] at hmem
    rw [← hstatus, hmem, hfailed] at hopen
    cases hopen

/-- A refused mail that no round has taken up again leaves its enrollment due. -/
theorem refused_mail_movable :
    Movable (runCalls deployment
      (draftFirstMail ++ [Op.at (.sendApproved 0 "operator" refuseMail) 40])).store :=
  active_enrollments_movable deployment _ deployment_initial (by decide +kernel)

end StaleRound

end GhostRecon
