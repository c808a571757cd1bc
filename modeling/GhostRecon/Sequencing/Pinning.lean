import GhostRecon.Lib.Agreement
import GhostRecon.Sequencing.Progress

/-!
Enrollments are pinned to the version of the definition they were created with.
A revision of a sequence adds the steps of a new version and leaves the old ones,
and every lookup of a step names the version of the enrollment. So a run and the
same run with revisions put in anywhere agree in everything but the definitions:
the two are run side by side.
-/

namespace GhostRecon

open Lib (Id Table Chain Agree after)
open Std.Do

set_option mvcgen.warning false

section Anchors

/-- Enrollments have a sequence that reached their version; activities and mail
are about steps of their enrollment's own definition. -/
structure Anchored (s : Store) : Prop where
  enrollments : ∀ (e : Id) (row : SequenceEnrollment), s.enrollments[e]? = some row →
    ∃ sequence, s.sequences[row.sequenceId]? = some sequence ∧
      row.definitionVersion ≤ sequence.definitionVersion
  activities : ∀ (a : Id) (row : SequenceStepActivity), s.activities[a]? = some row →
    ∃ enrollment step, OwnStep s row.enrollmentId row.sequenceStepId enrollment step
  mails : ∀ (o : Id) (mail : OutboundEmail), s.outboundEmails[o]? = some mail →
    ∃ enrollment step, OwnStep s mail.enrollmentId mail.sequenceStepId enrollment step

variable {mark : Mark} {s s' : Store}

theorem Move.sequences_grow (h : Move mark s s') (q : Id) (row : Sequence)
    (hrow : s.sequences[q]? = some row) :
    ∃ row', s'.sequences[q]? = some row' ∧ row.definitionVersion ≤ row'.definitionVersion := by
  cases h with
  | beside h => exact h.sequences q row hrow
  | finish _ _ _ _ _ =>
    refine ⟨row, ?_, Nat.le_refl _⟩
    show (advanceEnrollment _ _ _ _ s).sequences[q]? = some row
    rw [advanceEnrollment_steps.2.1]
    exact hrow
  | _ => exact ⟨row, hrow, Nat.le_refl _⟩

/-- Where an enrollment after a move comes from. -/
theorem Move.enrollment_before (h : Move mark s s') {e : Id} {row : SequenceEnrollment}
    (hrow : s'.enrollments[e]? = some row) :
    (∃ old, s.enrollments[e]? = some old ∧ row.sequenceId = old.sequenceId ∧
        row.definitionVersion = old.definitionVersion) ∨
      ∃ sequence, s.sequences[row.sequenceId]? = some sequence ∧
        row.definitionVersion = sequence.definitionVersion := by
  cases hold : s.enrollments[e]? with
  | some old =>
    obtain ⟨row', hrow', hsequence, hversion, -⟩ := h.enrollment_after hold
    obtain rfl : row = row' := Option.some.inj (hrow.symm.trans hrow')
    exact Or.inl ⟨old, rfl, hsequence, hversion⟩
  | none =>
    have hshort : s.enrollments.length ≤ e := List.getElem?_eq_none_iff.mp hold
    have hsame : s'.enrollments.length = s.enrollments.length → False := by
      intro hlength
      rw [List.getElem?_eq_none (hlength ▸ hshort)] at hrow
      cases hrow
    cases h with
    | beside h => exact (hsame (by rw [h.enrollments])).elim
    | enroll hsequence hversion =>
      rcases Table.get_concat hrow with hbefore | ⟨-, rfl⟩
      · rw [hold] at hbefore
        cases hbefore
      · exact Or.inr ⟨_, hsequence, hversion⟩
    | turn _ _ => exact (hsame (by simp [Store.updateEnrollment])).elim
    | complete _ =>
      exact (hsame (by simp [completeWith, enqueueEvent, Store.updateEnrollment])).elim
    | finish _ _ _ _ _ =>
      rename_i now a activity enrollment step f _ _ _ _ _
      obtain ⟨g, hg, -⟩ := advanceEnrollment_place now activity.enrollmentId enrollment step s
      refine (hsame ?_).elim
      show (advanceEnrollment now activity.enrollmentId enrollment step s).enrollments.length = _
      rw [hg, List.length_modify]
    | _ => exact (hsame rfl).elim

/-- Where a mail after a move comes from. -/
theorem Move.mail_before (h : Move mark s s') {o : Id} {mail : OutboundEmail}
    (hmail : s'.outboundEmails[o]? = some mail) :
    (∃ old, s.outboundEmails[o]? = some old ∧ mail.enrollmentId = old.enrollmentId ∧
        mail.sequenceStepId = old.sequenceStepId) ∨
      (∃ enrollment step,
        OwnStep s mail.enrollmentId mail.sequenceStepId enrollment step) ∨
      ∃ activity ∈ s.activities, activity.idempotencyKey = mail.idempotencyKey := by
  cases h with
  | beside h =>
    rw [h.outboundEmails] at hmail
    exact Or.inl ⟨mail, hmail, rfl, rfl⟩
  | draft hplaced =>
    rcases Table.get_concat hmail with hold | ⟨-, rfl⟩
    · exact Or.inl ⟨mail, hold, rfl, rfl⟩
    · exact Or.inr hplaced
  | mail hkey =>
    simp only [Store.updateOutbound, List.getElem?_modify] at hmail
    obtain ⟨old, hold, rfl⟩ := Option.map_eq_some_iff.mp hmail
    refine Or.inl ⟨old, hold, ?_⟩
    split
    · exact hkey old
    · exact ⟨rfl, rfl⟩
  | finish _ _ _ _ _ =>
    simp only [Store.updateActivity, advanceEnrollment_steps] at hmail
    exact Or.inl ⟨mail, hmail, rfl, rfl⟩
  | _ => exact Or.inl ⟨mail, hmail, rfl, rfl⟩

/-- An own step stays one. -/
theorem OwnStep.after (h : Move mark s s') {e stepId : Id} {enrollment : SequenceEnrollment}
    {step : SequenceStep} (hown : OwnStep s e stepId enrollment step) :
    ∃ enrollment' step', OwnStep s' e stepId enrollment' step' := by
  obtain ⟨row', hrow', hsequence, hversion, -⟩ := h.enrollment_after hown.enrolled
  refine ⟨row', step, hrow', Table.get_of_prefix h.steps_grow _ _ hown.stored, ?_, ?_⟩
  · rw [hsequence]
    exact hown.sequence
  · rw [hversion]
    exact hown.version

theorem Move.keeps_anchored (h : Move mark s s') (hs : Anchored s) : Anchored s' := by
  have hactivity : ∀ {a : Id} {row : SequenceStepActivity}, s.activities[a]? = some row →
      ∃ enrollment step, OwnStep s' row.enrollmentId row.sequenceStepId enrollment step := by
    intro a row hrow
    obtain ⟨enrollment, step, hown⟩ := hs.activities a row hrow
    exact hown.after h
  refine ⟨?_, ?_, ?_⟩
  · intro e row hrow
    have hbefore : ∃ sequence, s.sequences[row.sequenceId]? = some sequence ∧
        row.definitionVersion ≤ sequence.definitionVersion := by
      rcases h.enrollment_before hrow with ⟨old, hold, hsequence, hversion⟩ |
        ⟨sequence, hsequence, hversion⟩
      · rw [hsequence, hversion]
        exact hs.enrollments e old hold
      · exact ⟨sequence, hsequence, le_of_eq hversion⟩
    obtain ⟨sequence, hsequence, hle⟩ := hbefore
    obtain ⟨sequence', hsequence', hle'⟩ := h.sequences_grow _ sequence hsequence
    exact ⟨sequence', hsequence', Nat.le_trans hle hle'⟩
  · intro a row hrow
    rcases h.activity_before hrow with ⟨old, hold, henrollment, hstep, -⟩ |
      ⟨enrollment, step, hown, -⟩
    · rw [henrollment, hstep]
      exact hactivity hold
    · exact hown.after h
  · intro o mail hmail
    rcases h.mail_before hmail with ⟨old, hold, henrollment, hstep⟩ |
      ⟨enrollment, step, hown⟩ | ⟨activity, hmember, hkey⟩
    · obtain ⟨enrollment, step, hown⟩ := hs.mails o old hold
      rw [henrollment, hstep]
      exact hown.after h
    · exact hown.after h
    · obtain ⟨a, hstored⟩ := List.getElem?_of_mem hmember
      obtain ⟨henrollment, hstep⟩ := Prod.mk.inj hkey
      rw [← henrollment, ← hstep]
      exact hactivity hstored

theorem admitted_any [Casing] (w : DbWorld) (c : Call) : Admitted (fun _ => True) w c where
  routine := trivial
  active := fun _ => trivial
  approval := fun _ _ _ => trivial
  resume := fun _ _ _ _ _ => trivial
  reply := fun _ _ _ _ _ _ _ _ => trivial
  complete := fun _ _ _ _ _ _ _ _ _ => trivial
  schedule := fun _ _ _ _ _ _ _ _ _ _ _ _ _ _ _ => trivial

/-- Every call keeps the anchors. -/
theorem step_anchored [Casing] {w : DbWorld} (c : Call) (h : Anchored w.store) :
    Anchored (step w c).store :=
  Chain.keeps (fun _ hmove => hmove.keeps_anchored) (step_moves (admitted_any w c)) h

/-- What holds in every reachable world. -/
theorem ReachableWorld.definitions_anchored [Casing] {w : DbWorld} (h : ReachableWorld w) :
    Anchored w.store ∧ w.store.constraintsOk = true := by
  obtain ⟨init, calls, hinit, rfl⟩ := h
  refine Lib.run_always_keeps
    (I := fun v : DbWorld => Anchored v.store ∧ v.store.constraintsOk = true) ?_ calls
    ⟨⟨?_, ?_, ?_⟩, hinit.constraints⟩
  · intro v c hv
    exact ⟨step_anchored c hv.1, step_constraints c hv.2⟩
  · intro e row hrow
    simp [hinit.enrollments] at hrow
  · intro a row hrow
    simp [hinit.activities] at hrow
  · intro o mail hmail
    simp [hinit.outboundEmails] at hmail

end Anchors

section Revisions

/-- A revised sequence, by what the outreach reads of it. -/
structure SameTerms (old new : Sequence) : Prop where
  status : new.status = old.status
  rateLimitPolicy : new.rateLimitPolicy = old.rateLimitPolicy
  idempotencyKey : new.idempotencyKey = old.idempotencyKey
  version : old.definitionVersion ≤ new.definitionVersion

/-- Definitions after revisions: the same sequences on the same terms, and steps
of later versions only. -/
structure Revision (sequences sequences' : Table Sequence) (steps steps' : Table SequenceStep) :
    Prop where
  terms : List.Forall₂ SameTerms sequences sequences'
  added : ∃ more, steps' = steps ++ more ∧ ∀ step ∈ more, ∃ sequence,
    sequences[step.sequenceId]? = some sequence ∧
      sequence.definitionVersion < step.definitionVersion
  unique : steps'.uniqueOn (fun row =>
    some (row.sequenceId, row.definitionVersion, row.stepOrder)) = true
  fitted : sequences.all Sequence.fits = true
  fits : sequences'.all Sequence.fits = true ∧ steps'.all SequenceStep.fits = true

/-- The same store with other definitions. -/
def Store.withDefinitions (s : Store) (sequences : Table Sequence)
    (steps : Table SequenceStep) : Store :=
  { s with sequences := sequences, steps := steps }

/-- The second store is the first one under the revised definitions. -/
structure RevisedFrom (sequences sequences' : Table Sequence)
    (steps steps' : Table SequenceStep) (s s' : Store) : Prop where
  sequences : s.sequences = sequences
  steps : s.steps = steps
  revised : s' = s.withDefinitions sequences' steps'

/-- The sequence of the enrollment reached its version. -/
def Pinned (sequences : Table Sequence) (row : SequenceEnrollment) : Prop :=
  ∃ sequence, sequences[row.sequenceId]? = some sequence ∧
    row.definitionVersion ≤ sequence.definitionVersion

variable {sequences sequences' : Table Sequence} {steps steps' : Table SequenceStep}
  {s s' : Store} {row : SequenceEnrollment}

theorem RevisedFrom.write {g : Store → Store}
    (h : RevisedFrom sequences sequences' steps steps' s s')
    (hg : (g s).sequences = s.sequences ∧ (g s).steps = s.steps ∧
      g (s.withDefinitions sequences' steps') = (g s).withDefinitions sequences' steps') :
    RevisedFrom sequences sequences' steps steps' (g s) (g s') := by
  obtain ⟨hsequences, hsteps, hrevised⟩ := hg
  refine ⟨hsequences.trans h.sequences, hsteps.trans h.steps, ?_⟩
  rw [h.revised]
  exact hrevised

/-- A sequence and its revision. -/
theorem Revision.sequence (h : Revision sequences sequences' steps steps') (q : Id) :
    (sequences[q]? = none ∧ sequences'[q]? = none) ∨
      ∃ old new, sequences[q]? = some old ∧ sequences'[q]? = some new ∧ SameTerms old new := by
  have hlength := h.terms.length_eq
  cases hold : sequences[q]? with
  | none =>
    left
    have hshort := List.getElem?_eq_none_iff.mp hold
    exact ⟨rfl, List.getElem?_eq_none (hlength ▸ hshort)⟩
  | some old =>
    right
    obtain ⟨hlt, hget⟩ := List.getElem?_eq_some_iff.mp hold
    refine ⟨old, sequences'[q], rfl, List.getElem?_eq_getElem (hlength ▸ hlt), ?_⟩
    rw [← hget]
    exact h.terms.get hlt (hlength ▸ hlt)

/-- The added steps are of no version an enrollment is pinned to. -/
theorem Revision.foreign (h : Revision sequences sequences' steps steps')
    (hpinned : Pinned sequences row) :
    ∃ more, steps' = steps ++ more ∧ ∀ step ∈ more,
      ¬ (step.sequenceId = row.sequenceId ∧ step.definitionVersion = row.definitionVersion) := by
  obtain ⟨more, hsteps, hmore⟩ := h.added
  refine ⟨more, hsteps, ?_⟩
  rintro step hstep ⟨hsequence, hversion⟩
  obtain ⟨sequence, hstored, hle⟩ := hpinned
  obtain ⟨sequence', hstored', hlt⟩ := hmore step hstep
  rw [hsequence] at hstored'
  obtain rfl : sequence = sequence' := Option.some.inj (hstored.symm.trans hstored')
  rw [hversion] at hlt
  exact absurd hle (Nat.not_le.mpr hlt)

theorem stepForOrder_revised (h : Revision sequences sequences' steps steps')
    (hs : RevisedFrom sequences sequences' steps steps' s s') (hpinned : Pinned sequences row)
    (order : Nat) :
    stepForOrder s' row.sequenceId order row.definitionVersion =
      stepForOrder s row.sequenceId order row.definitionVersion := by
  obtain ⟨more, hsteps, hmore⟩ := h.foreign hpinned
  have hstored : s'.steps = s.steps ++ more := by
    rw [hs.revised, hs.steps]
    exact hsteps
  unfold stepForOrder
  rw [hstored]
  apply Table.first?_append_none
  intro step hstep
  have hforeign := hmore step hstep
  by_contra hmatch
  simp only [Bool.not_eq_false, Bool.and_eq_true, beq_iff_eq] at hmatch
  exact hforeign ⟨hmatch.1.1.1, hmatch.2⟩

theorem sequenceSteps_revised (h : Revision sequences sequences' steps steps')
    (hs : RevisedFrom sequences sequences' steps steps' s s') (hpinned : Pinned sequences row) :
    sequenceSteps s' row.sequenceId row.definitionVersion =
      sequenceSteps s row.sequenceId row.definitionVersion := by
  obtain ⟨more, hsteps, hmore⟩ := h.foreign hpinned
  have hstored : s'.steps = s.steps ++ more := by
    rw [hs.revised, hs.steps]
    exact hsteps
  have hnone : (more.zipIdx s.steps.length).filter (fun found =>
      found.1.sequenceId == row.sequenceId &&
        found.1.definitionVersion == row.definitionVersion && found.1.active) = [] := by
    rw [List.filter_eq_nil_iff]
    intro found hfound hmatch
    simp only [Bool.and_eq_true, beq_iff_eq] at hmatch
    exact hmore found.1 (List.fst_mem_of_mem_zipIdx hfound) hmatch.1
  unfold sequenceSteps
  rw [hstored, List.zipIdx_append, List.filter_append, Nat.zero_add, hnone, List.append_nil]

/-- The database accepts the one store exactly when it accepts the other. -/
theorem constraintsOk_revised (h : Revision sequences sequences' steps steps') (s s' : Store)
    (hs : RevisedFrom sequences sequences' steps steps' s s') :
    s'.constraintsOk = s.constraintsOk := by
  have hkeys : sequences'.uniqueOn (·.idempotencyKey) = sequences.uniqueOn (·.idempotencyKey) := by
    have hmap : sequences'.filterMap (·.idempotencyKey) =
        sequences.filterMap (·.idempotencyKey) := by
      have hterms := h.terms
      clear hs h
      induction hterms with
      | nil => rfl
      | cons hfirst _ ih => simp only [List.filterMap_cons, hfirst.idempotencyKey, ih]
    simp only [Table.uniqueOn, hmap]
  have hunique : steps.uniqueOn (fun row =>
      some (row.sequenceId, row.definitionVersion, row.stepOrder)) = true := by
    obtain ⟨more, hsteps, -⟩ := h.added
    exact Table.uniqueOn_of_prefix ⟨more, hsteps.symm⟩ h.unique
  have hsteps : steps.all SequenceStep.fits = true := by
    obtain ⟨more, hadded, -⟩ := h.added
    have hall := h.fits.2
    rw [hadded, List.all_append, Bool.and_eq_true] at hall
    exact hall.1
  obtain ⟨rfl, rfl, rfl⟩ := hs
  simp only [Store.constraintsOk, Store.keysOk, Store.widthsOk, Store.withDefinitions, hkeys,
    hunique, h.unique, h.fitted, h.fits.1, h.fits.2, hsteps]

end Revisions

section Reads

variable [Casing] {sequences sequences' : Table Sequence} {steps steps' : Table SequenceStep}
  {s s' : Store} {row : SequenceEnrollment}

/-- The limiter reads the policy of the sequence and the mail. -/
theorem rateLimitBlocker_revised {old new : Sequence} (hterms : SameTerms old new)
    (hs : RevisedFrom sequences sequences' steps steps' s s') (rt : Runtime)
    (toEmail fromEmail : String) (channel : SequenceChannel) :
    rateLimitBlocker rt toEmail fromEmail channel new s' =
      rateLimitBlocker rt toEmail fromEmail channel old s := by
  unfold rateLimitBlocker
  rw [hterms.rateLimitPolicy, hs.revised]
  rfl

theorem planNextStep_revised (h : Revision sequences sequences' steps steps')
    (hs : RevisedFrom sequences sequences' steps steps' s s') (hpinned : Pinned sequences row)
    (rt : Runtime) : planNextStep rt row s' = planNextStep rt row s := by
  have hstep := stepForOrder_revised h hs hpinned row.currentStepOrder
  have hlimit := fun {old new : Sequence} (hterms : SameTerms old new) =>
    rateLimitBlocker_revised hterms hs rt
  have hsequences : s'.sequences = sequences' := by rw [hs.revised]; rfl
  have hcontacts : s'.contacts = s.contacts := by rw [hs.revised]; rfl
  have haccounts : s'.accounts = s.accounts := by rw [hs.revised]; rfl
  have hallowed : ∀ email domain contactId channel,
      suppressionAllowed rt email domain contactId channel s' =
        suppressionAllowed rt email domain contactId channel s := by
    intro email domain contactId channel
    rw [hs.revised]
    rfl
  unfold planNextStep
  rw [hsequences, hs.sequences, hstep, hcontacts, haccounts]
  rcases h.sequence row.sequenceId with ⟨hnone, hnone'⟩ | ⟨old, new, hold, hnew, hterms⟩
  · rw [hnone, hnone']
  · rw [hold, hnew]
    dsimp only
    simp only [hterms.status, hallowed, hlimit hterms]

theorem checkApproval_revised (h : Revision sequences sequences' steps steps')
    (hs : RevisedFrom sequences sequences' steps steps' s s') (rt : Runtime)
    (enrollment : SequenceEnrollment) (step : SequenceStep) :
    checkApproval rt enrollment step s' = checkApproval rt enrollment step s := by
  have hlimit := fun {old new : Sequence} (hterms : SameTerms old new) =>
    rateLimitBlocker_revised hterms hs rt
  have hsequences : s'.sequences = sequences' := by rw [hs.revised]; rfl
  have hcontacts : s'.contacts = s.contacts := by rw [hs.revised]; rfl
  have hallowed : ∀ email domain contactId channel,
      suppressionAllowed rt email domain contactId channel s' =
        suppressionAllowed rt email domain contactId channel s := by
    intro email domain contactId channel
    rw [hs.revised]
    rfl
  unfold checkApproval
  rw [hsequences, hs.sequences, hcontacts]
  rcases h.sequence enrollment.sequenceId with ⟨hnone, hnone'⟩ | ⟨old, new, hold, hnew, hterms⟩
  · rw [hnone, hnone']
  · rw [hold, hnew]
    dsimp only
    simp only [hterms.status, hallowed, hlimit hterms]

omit [Casing] in
/-- A stored step is the same step after a revision. -/
theorem Revision.step_kept (h : Revision sequences sequences' steps steps')
    (hs : RevisedFrom sequences sequences' steps steps' s s') {i : Id} {step : SequenceStep}
    (hstep : s.steps[i]? = some step) : s'.steps[i]? = some step := by
  obtain ⟨more, hsteps, -⟩ := h.added
  have hprefix : s.steps <+: s'.steps := by
    rw [hs.revised, hs.steps]
    exact ⟨more, hsteps.symm⟩
  exact Table.get_of_prefix hprefix i step hstep

omit [Casing] in
theorem loadApproval_revised (h : Revision sequences sequences' steps steps')
    (hs : RevisedFrom sequences sequences' steps steps' s s') (hanchored : Anchored s) (a : Id) :
    loadApproval a s' = loadApproval a s := by
  have hactivities : s'.activities = s.activities := by rw [hs.revised]; rfl
  have henrollments : s'.enrollments = s.enrollments := by rw [hs.revised]; rfl
  unfold loadApproval
  rw [hactivities]
  cases hactivity : s.activities[a]? with
  | none => rfl
  | some activity =>
    obtain ⟨enrollment, step, hown⟩ := hanchored.activities a activity hactivity
    dsimp only
    rw [henrollments, hown.stored, h.step_kept hs hown.stored]

omit [Casing] in
/-- Advancing a pinned enrollment reads its own version only. -/
theorem advanceEnrollment_revised (h : Revision sequences sequences' steps steps')
    (hs : RevisedFrom sequences sequences' steps steps' s s') (hpinned : Pinned sequences row)
    (now : Time) (e : Id) (step : SequenceStep) :
    RevisedFrom sequences sequences' steps steps' (advanceEnrollment now e row step s)
      (advanceEnrollment now e row step s') := by
  have hsteps := sequenceSteps_revised h hs hpinned
  unfold advanceEnrollment
  rw [hsteps]
  cases (sequenceSteps s row.sequenceId row.definitionVersion).find?
      (fun found => step.stepOrder < found.2.stepOrder) with
  | none => exact hs.write (g := completeEnrollment now e row) ⟨rfl, rfl, rfl⟩
  | some next =>
    exact hs.write (g := (·.updateEnrollment e _)) ⟨rfl, rfl, rfl⟩

end Reads

section Agreements

open Lib

variable [Casing] {sequences sequences' : Table Sequence} {steps steps' : Table SequenceStep}
  (h : Revision sequences sequences' steps steps') {w w' : DbWorld}
  (hs : RevisedFrom sequences sequences' steps steps' w.store w'.store)

omit [Casing] in
/-- The other tables are the same. -/
theorem RevisedFrom.tables {s s' : Store}
    (hs : RevisedFrom sequences sequences' steps steps' s s') :
    s'.enrollments = s.enrollments ∧ s'.activities = s.activities ∧
      s'.outboundEmails = s.outboundEmails ∧ s'.accounts = s.accounts ∧
      s'.contacts = s.contacts ∧ s'.crmTargets = s.crmTargets ∧
      s'.emailCandidates = s.emailCandidates ∧ s'.suppressions = s.suppressions ∧
      s'.meetings = s.meetings := by
  rw [hs.revised]
  exact ⟨rfl, rfl, rfl, rfl, rfl, rfl, rfl, rfl, rfl⟩

include h hs

theorem outboundForStep_agrees (rt : Runtime) (e : Id) (enrollment : SequenceEnrollment)
    (stepId : Id) (step : SequenceStep) (contact : Contact) (account : Option Account)
    (fromEmail : String) :
    Agree (RevisedFrom sequences sequences' steps steps') Eq
      (outboundForStep rt e enrollment stepId step contact account fromEmail)
      (outboundForStep rt e enrollment stepId step contact account fromEmail) w w' := by
  obtain ⟨-, -, hmails, -⟩ := hs.tables
  unfold outboundForStep
  refine agree_bind_query ?_
  rw [hmails]
  cases w.store.outboundEmails.first? (·.idempotencyKey == (e, stepId)) with
  | some found => exact agree_pure rfl hs
  | none =>
    refine agree_bind_queryOrRaise rfl hs fun subject _ => ?_
    refine agree_bind_queryOrRaise rfl hs fun body _ => ?_
    refine agree_bind_query (agree_bind_write ?_)
    have hinserted := hs.write (g := (·.insertOutbound
      (draftFor rt.now e enrollment stepId step contact fromEmail subject body)))
      ⟨rfl, rfl, rfl⟩
    refine agree_bind_flush (constraintsOk_revised h _ _ hinserted) hinserted ?_
    exact agree_pure (by rw [hmails]) hinserted

omit [Casing] in
theorem activityForStep_agrees (rt : Runtime) (e stepId : Id) (step : SequenceStep)
    (status : ActivityStatus) (o : Option Id) :
    Agree (RevisedFrom sequences sequences' steps steps') Eq
      (activityForStep rt e stepId step status o) (activityForStep rt e stepId step status o)
      w w' := by
  obtain ⟨-, hactivities, -⟩ := hs.tables
  unfold activityForStep
  refine agree_bind_query ?_
  rw [hactivities]
  cases w.store.activities.first? (·.idempotencyKey == (e, stepId)) with
  | some found =>
    have hattached := hs.write (g := attachOutbound found.1 o) ⟨rfl, rfl, rfl⟩
    exact agree_bind_write (agree_pure rfl hattached)
  | none =>
    refine agree_bind_query (agree_bind_write ?_)
    have hinserted := hs.write
      (g := (·.insertActivity (activityFor rt.now e stepId step status o))) ⟨rfl, rfl, rfl⟩
    refine agree_bind_flush (constraintsOk_revised h _ _ hinserted) hinserted ?_
    exact agree_pure (by rw [hactivities]) hinserted

omit [Casing] in
/-- The step is handed over alike. -/
theorem handOver_agrees (rt : Runtime) (e stepId : Id) (step : SequenceStep)
    (status : ActivityStatus) (o : Option Id) :
    Agree (RevisedFrom sequences sequences' steps steps') Eq
      (do
        let a ← activityForStep rt e stepId step status o
        write (clearNextStep rt.now e)
        let activity ← query (·.activities[a]?)
        return { enrollmentId := e, outboundEmailId := o, activityId := some a
                 status := (activity.map (·.status.value)).getD "" } : Tx NextStepOutcome)
      (do
        let a ← activityForStep rt e stepId step status o
        write (clearNextStep rt.now e)
        let activity ← query (·.activities[a]?)
        return { enrollmentId := e, outboundEmailId := o, activityId := some a
                 status := (activity.map (·.status.value)).getD "" }) w w' := by
  refine agree_bind (activityForStep_agrees h hs rt e stepId step status o) ?_
  rintro a _ v v' rfl hv - -
  have hcleared := hv.write (g := clearNextStep rt.now e) ⟨rfl, rfl, rfl⟩
  refine agree_bind_write (agree_bind_query ?_)
  exact agree_pure (by rw [hcleared.tables.2.1]) hcleared

theorem performNextStep_agrees (rt : Runtime) (e : Id) (enrollment : SequenceEnrollment)
    (plan : NextStepPlan) :
    Agree (RevisedFrom sequences sequences' steps steps') Eq
      (performNextStep rt e enrollment plan) (performNextStep rt e enrollment plan) w w' := by
  cases plan with
  | pause reason reported =>
    exact agree_bind_write (agree_pure rfl
      (hs.write (g := pauseForPolicy rt.now e enrollment reason) ⟨rfl, rfl, rfl⟩))
  | complete =>
    exact agree_bind_write (agree_pure rfl
      (hs.write (g := completeEnrollment rt.now e enrollment) ⟨rfl, rfl, rfl⟩))
  | suppress contact reason =>
    exact agree_bind_write (agree_pure rfl
      (hs.write (g := suppressEnrollment rt.now e enrollment contact reason) ⟨rfl, rfl, rfl⟩))
  | task stepId step => exact handOver_agrees h hs rt e stepId step .pending none
  | defer reason =>
    exact agree_bind_write (agree_pure rfl
      (hs.write (g := deferEnrollment rt.now rt.settings.sequenceRetryAfterSeconds e reason)
        ⟨rfl, rfl, rfl⟩))
  | draft stepId step contact account fromEmail =>
    refine agree_bind (outboundForStep_agrees h hs rt e enrollment stepId step contact account
      fromEmail) ?_
    rintro o _ v v' rfl hv - -
    have hwaiting := hv.write (g := awaitApproval rt.now o) ⟨rfl, rfl, rfl⟩
    exact agree_bind_write (handOver_agrees h hwaiting rt e stepId step .pendingApproval (some o))

/-- A scheduler round. -/
theorem sendNextSequenceStep_agrees (hanchored : Anchored w.store) (rt : Runtime) (e : Id) :
    Agree (RevisedFrom sequences sequences' steps steps') Eq (sendNextSequenceStep rt e)
      (sendNextSequenceStep rt e) w w' := by
  obtain ⟨henrollments, -⟩ := hs.tables
  refine agree_sessionScope (constraintsOk_revised h) hs (agree_bind_query ?_)
  rw [henrollments]
  cases hrow : w.store.enrollments[e]? with
  | none => exact agree_throw hs
  | some row =>
    have hpinned : Pinned sequences row := by
      rw [← hs.sequences]
      exact hanchored.enrollments e row hrow
    dsimp only
    split
    · exact agree_pure rfl hs
    · refine agree_bind_queryOrRaise (planNextStep_revised h hs hpinned rt) hs fun plan _ => ?_
      exact performNextStep_agrees h hs rt e row plan

omit [Casing] in
/-- Completing an activity. -/
theorem completeSequenceActivity_agrees (hanchored : Anchored w.store) (rt : Runtime) (a : Id)
    (request : SequenceActivityActionRequest) (actor : String) :
    Agree (RevisedFrom sequences sequences' steps steps') Eq
      (completeSequenceActivity rt a request actor) (completeSequenceActivity rt a request actor)
      w w' := by
  obtain ⟨henrollments, hactivities, -⟩ := hs.tables
  refine agree_sessionScope (constraintsOk_revised h) hs (agree_bind_query ?_)
  rw [hactivities]
  cases hactivity : w.store.activities[a]? with
  | none => exact agree_pure rfl hs
  | some activity =>
    obtain ⟨enrollment, step, hown⟩ := hanchored.activities a activity hactivity
    have hpinned : Pinned sequences enrollment := by
      rw [← hs.sequences]
      exact hanchored.enrollments _ enrollment hown.enrolled
    dsimp only
    split
    · exact agree_throw hs
    · refine agree_bind_query ?_
      rw [henrollments, hown.enrolled]
      refine agree_bind_query ?_
      rw [hown.stored, h.step_kept hs hown.stored]
      refine agree_bind_write ?_
      have hfinished : RevisedFrom sequences sequences' steps steps'
          (finishActivity rt.now a activity enrollment step actor
            ((activity.metadata.update request.metadata).set "completion_reason"
              (request.reason.getD "None")) w.store)
          (finishActivity rt.now a activity enrollment step actor
            ((activity.metadata.update request.metadata).set "completion_reason"
              (request.reason.getD "None")) w'.store) :=
        advanceEnrollment_revised h (hs.write (g := (·.updateActivity a _)) ⟨rfl, rfl, rfl⟩)
          hpinned rt.now activity.enrollmentId step
      exact agree_query (by rw [hfinished.tables.2.1]) hfinished

omit [Casing] in
/-- The last transaction of a booking. -/
theorem linkMeeting_agrees (hanchored : Anchored w.store) (rt : Runtime) (a : Id)
    (actor : String) (meetingId : Id) :
    Agree (RevisedFrom sequences sequences' steps steps') Eq (linkMeeting rt a actor meetingId)
      (linkMeeting rt a actor meetingId) w w' := by
  obtain ⟨henrollments, hactivities, -⟩ := hs.tables
  refine agree_sessionScope (constraintsOk_revised h) hs (agree_bind_query ?_)
  rw [hactivities]
  cases hactivity : w.store.activities[a]? with
  | none => exact agree_throw hs
  | some activity =>
    obtain ⟨enrollment, step, hown⟩ := hanchored.activities a activity hactivity
    have hpinned : Pinned sequences enrollment := by
      rw [← hs.sequences]
      exact hanchored.enrollments _ enrollment hown.enrolled
    refine agree_bind_query ?_
    rw [henrollments, hown.enrolled]
    refine agree_bind_query ?_
    rw [hown.stored, h.step_kept hs hown.stored]
    refine agree_bind_write ?_
    have hscheduled : RevisedFrom sequences sequences' steps steps'
        (scheduleActivity rt.now a activity enrollment step actor meetingId w.store)
        (scheduleActivity rt.now a activity enrollment step actor meetingId w'.store) :=
      advanceEnrollment_revised h (hs.write (g := (·.updateActivity a _)) ⟨rfl, rfl, rfl⟩)
        hpinned rt.now activity.enrollmentId step
    exact agree_query (by rw [hscheduled.tables.2.1]) hscheduled

omit [Casing] in
theorem meetingContext_agrees (a : Id) :
    Agree (RevisedFrom sequences sequences' steps steps') Eq (meetingContext a)
      (meetingContext a) w w' := by
  obtain ⟨henrollments, hactivities, -⟩ := hs.tables
  refine agree_sessionScope (constraintsOk_revised h) hs (agree_bind_query ?_)
  rw [hactivities]
  cases hactivity : w.store.activities[a]? with
  | none => exact agree_pure rfl hs
  | some activity =>
    dsimp only
    split
    · exact agree_throw hs
    · split
      · exact agree_throw hs
      · refine agree_bind_query ?_
        rw [henrollments]
        cases w.store.enrollments[activity.enrollmentId]? with
        | none => exact agree_throw hs
        | some enrollment => exact agree_pure rfl hs

omit h in
/-- The invitations are checked against the suppressions. -/
theorem ensureInviteAllowed_revised (rt : Runtime) (contact : Option (Id × Contact))
    (attendees : List MeetingAttendee) :
    ensureInviteAllowed rt contact w'.store attendees =
      ensureInviteAllowed rt contact w.store attendees := by
  obtain ⟨-, -, -, -, -, -, -, hsuppressions, -⟩ := hs.tables
  induction attendees with
  | nil => rfl
  | cons attendee rest ih => simp only [ensureInviteAllowed, inviteSuppression?, hsuppressions, ih]

omit [Casing] h hs in
/-- What a booking records touches no definition. -/
theorem recordMeeting_definitions (now : Time) (m : Id) (result : CalendarEventResult)
    (enrollment : Option (Id × SequenceEnrollment)) (s : Store) :
    (recordMeeting now m result enrollment s).sequences = s.sequences ∧
      (recordMeeting now m result enrollment s).steps = s.steps ∧
      recordMeeting now m result enrollment (s.withDefinitions sequences' steps') =
        (recordMeeting now m result enrollment s).withDefinitions sequences' steps' := by
  cases enrollment with
  | none => exact ⟨rfl, rfl, rfl⟩
  | some found =>
    obtain ⟨e, row⟩ := found
    by_cases hactive : row.status = .active
    · simp only [recordMeeting, completeBooked, hactive, if_true]
      exact ⟨rfl, rfl, rfl⟩
    · simp only [recordMeeting, completeBooked, hactive, if_false]
      exact ⟨rfl, rfl, rfl⟩

/-- A booking reads no definitions. -/
theorem createMeeting_agrees (rt : Runtime) (request : MeetingCreateRequest)
    (actor key : String) (client : CalendarClient) :
    Agree (RevisedFrom sequences sequences' steps steps') Eq
      (createMeeting rt request actor key client) (createMeeting rt request actor key client)
      w w' := by
  obtain ⟨henrollments, -, -, -, hcontacts, htargets, hcandidates, -, hmeetings⟩ := hs.tables
  unfold createMeeting
  split
  · exact agree_throw hs
  · refine agree_sessionScope (constraintsOk_revised h) hs (agree_bind_query ?_)
    rw [hmeetings]
    cases w.store.meetings.first? (·.idempotencyKey == key) with
    | some found => exact agree_pure rfl hs
    | none =>
      refine agree_bind_queryOrRaise (by rw [htargets]) hs fun target _ => ?_
      refine agree_bind_queryOrRaise
        (by simp only [contactForMeeting, hcontacts, hcandidates]) hs fun contact _ => ?_
      refine agree_bind_queryOrRaise rfl hs fun attendees _ => ?_
      refine agree_bind_queryOrRaise (ensureInviteAllowed_revised hs rt contact attendees) hs
        fun _ _ => ?_
      refine agree_bind_queryOrRaise (by simp only [enrollmentForMeeting, henrollments]) hs
        fun enrollment _ => ?_
      refine agree_bind_query (agree_bind_write ?_)
      rw [hmeetings]
      have hinserted := hs.write (g := (·.insertMeeting
        (meetingFor rt request actor key client.provider contact attendees))) ⟨rfl, rfl, rfl⟩
      refine agree_bind_flush (constraintsOk_revised h _ _ hinserted) hinserted ?_
      dsimp only
      split
      · exact agree_throw hinserted
      · next result _ =>
        refine agree_bind_perform (agree_bind_write (agree_pure rfl ?_))
        exact hinserted.write (g := recordMeeting rt.now w.store.meetings.length result
          enrollment) (recordMeeting_definitions rt.now _ result enrollment _)

/-- Scheduling a meeting: three transactions, the last from what the second
left. -/
theorem scheduleSequenceMeetingActivity_agrees (hanchored : Anchored w.store) (rt : Runtime)
    (a : Id) (request : SequenceActivityScheduleMeetingRequest) (actor : String)
    (client : CalendarClient) :
    Agree (RevisedFrom sequences sequences' steps steps') Eq
      (scheduleSequenceMeetingActivity rt a request actor client)
      (scheduleSequenceMeetingActivity rt a request actor client) w w' := by
  unfold scheduleSequenceMeetingActivity
  refine agree_bind (meetingContext_agrees h hs a) ?_
  rintro context _ v v' rfl hv hcontext -
  cases context with
  | none => exact agree_pure rfl hv
  | some found =>
    obtain ⟨activity, enrollment⟩ := found
    obtain ⟨hstore, -⟩ := meetingContext_some hcontext
    dsimp only
    split
    · exact agree_throw hv
    · refine agree_bind (createMeeting_agrees h hv rt _ actor _ client) ?_
      rintro meetingId _ u u' rfl hu hbooked -
      refine linkMeeting_agrees h hu ?_ rt a actor meetingId
      have hguarded : Guarded fun _ => True :=
        ⟨trivial, fun _ => trivial, fun _ _ _ => trivial⟩
      have hmoves := createMeeting_moves hguarded rt (meetingRequest activity enrollment request)
        actor ("sequence-meeting:" ++ toString a) client v
      have hafter : after (createMeeting rt (meetingRequest activity enrollment request) actor
          ("sequence-meeting:" ++ toString a) client) v = u := by
        rw [after, hbooked]
      rw [hafter, hstore] at hmoves
      exact Chain.keeps (fun _ hmove => hmove.keeps_anchored) hmoves hanchored

/-- Everything before the sender is called. -/
theorem prepareApproval_agrees (hanchored : Anchored w.store) (rt : Runtime) (a : Id) :
    Agree (RevisedFrom sequences sequences' steps steps')
      (fun found found' => found' = found ∧ ∀ p, found = some p → Pinned sequences p.enrollment)
      (prepareApproval rt a) (prepareApproval rt a) w w' := by
  obtain ⟨-, -, -, haccounts, -⟩ := hs.tables
  refine agree_bind_queryOrRaise (loadApproval_revised h hs hanchored a) hs fun found hfound => ?_
  cases found with
  | none => exact agree_pure ⟨rfl, by rintro p ⟨⟩⟩ hs
  | some loaded =>
    obtain ⟨-, -, -, henrolled, -, -⟩ := loadApproval_some hfound
    have hpinned : Pinned sequences loaded.enrollment := by
      rw [← hs.sequences]
      exact hanchored.enrollments _ loaded.enrollment henrolled
    refine agree_bind_queryOrRaise (checkApproval_revised h hs rt _ _) hs fun checked _ => ?_
    cases checked with
    | inl refusal =>
      refine agree_bind_write (agree_throw (hs.write
        (g := refusal.record rt loaded.activity.enrollmentId loaded.enrollment) ?_))
      cases refusal <;> exact ⟨rfl, rfl, rfl⟩
    | inr passed =>
      obtain ⟨contact, fromEmail⟩ := passed
      have houtbound : Agree (RevisedFrom sequences sequences' steps steps') Eq
          (outboundForApproval rt loaded contact fromEmail)
          (outboundForApproval rt loaded contact fromEmail) w w' := by
        unfold outboundForApproval
        cases loaded.activity.outboundEmailId with
        | some o => exact agree_pure rfl hs
        | none =>
          refine agree_bind_query ?_
          rw [haccounts]
          exact outboundForStep_agrees h hs rt _ _ _ _ _ _ _
      refine agree_bind houtbound ?_
      rintro o _ v v' rfl hv - -
      refine agree_bind_query ?_
      rw [hv.tables.2.2.1]
      cases v.store.outboundEmails[o]? with
      | none => exact agree_throw hv
      | some outbound =>
        refine agree_pure ⟨rfl, ?_⟩ hv
        rintro p ⟨⟩
        exact hpinned

/-- Approving a mail. -/
theorem sendApprovedSequenceEmail_agrees (hanchored : Anchored w.store) (rt : Runtime) (a : Id)
    (actor : String) (sender : SmtpSendRequest → SmtpOutcome) :
    Agree (RevisedFrom sequences sequences' steps steps') Eq
      (sendApprovedSequenceEmail rt a actor sender) (sendApprovedSequenceEmail rt a actor sender)
      w w' := by
  refine agree_sessionScope (constraintsOk_revised h) hs
    (agree_bind (prepareApproval_agrees h hs hanchored rt a) ?_)
  rintro _ found v v' ⟨rfl, hpinned⟩ hv - -
  cases found with
  | none => exact agree_pure rfl hv
  | some p =>
    refine agree_bind_query (agree_bind_perform (agree_bind_write ?_))
    have hrecorded : RevisedFrom sequences sequences' steps steps'
        (p.record rt actor (sender p.request) v.store)
        (p.record rt actor (sender p.request) v'.store) := by
      cases sender p.request with
      | error error => exact hv.write (g := p.recordFailure rt error) ⟨rfl, rfl, rfl⟩
      | ok messageId =>
        have hsent := hv.write (g := fun s => enqueueEvent .emailSent "outbound_email"
          p.outboundId (.counted .emailSent p.outboundId (p.outbound.attemptCount + 1))
          (s.updateOutbound p.outboundId fun mail =>
            { mail with
              attemptCount := p.outbound.attemptCount + 1
              status := .sent
              lastError := none
              retryAfterSeconds := none
              providerMessageId := some messageId
              sentAt := some rt.now
              updatedAt := rt.now })) ⟨rfl, rfl, rfl⟩
        have hadvanced := advanceEnrollment_revised h hsent (hpinned p rfl) rt.now
          p.activity.enrollmentId p.step
        exact hadvanced.write (g := (·.updateActivity p.activityId _)) ⟨rfl, rfl, rfl⟩
    exact agree_query (by rw [hrecorded.tables.2.1]) hrecorded

end Agreements

section Runs

variable [Casing]

/-- Scheduling, approving and completing. -/
def Op.works : Op → Bool
  | .sendNext _ | .sendApproved _ _ _ | .completeActivity _ _ _ | .scheduleMeeting _ _ _ _ => true
  | _ => false

/-- An update of a sequence that changes at most its name, owner and steps. -/
def Op.revises : Op → Bool
  | .updateSequence _ request =>
    request.channel.isNone && request.status.isNone && request.rateLimitPolicy.isNone
  | _ => false

/-- The steps the enrollment has come to, in order, and how far each has got. -/
def executedSteps (s : Store) (e : Id) : List (SequenceStep × ActivityStatus) :=
  (s.activities.filter (·.enrollmentId == e)).filterMap fun activity =>
    (s.steps[activity.sequenceStepId]?).map fun step => (step, activity.status)

/-- Activities and mail are about steps of their enrollment's own definition. -/
structure OwnDefinitions (s : Store) : Prop where
  activities : ∀ (a : Id) (row : SequenceStepActivity), s.activities[a]? = some row →
    ∃ enrollment step, OwnStep s row.enrollmentId row.sequenceStepId enrollment step
  mails : ∀ (o : Id) (mail : OutboundEmail), s.outboundEmails[o]? = some mail →
    ∃ enrollment step, OwnStep s mail.enrollmentId mail.sequenceStepId enrollment step

/-- A store and the same store under revised definitions. -/
structure SideBySide (s s' : Store) : Prop where
  revision : Revision s.sequences s'.sequences s.steps s'.steps
  revised : s' = s.withDefinitions s'.sequences s'.steps
  anchored : Anchored s
  constraints : s'.constraintsOk = true

omit [Casing] in
theorem SideBySide.from {s s' : Store} (h : SideBySide s s') :
    RevisedFrom s.sequences s'.sequences s.steps s'.steps s s' :=
  ⟨rfl, rfl, h.revised⟩

omit [Casing] in
/-- At first the definitions are the same. -/
theorem SideBySide.start {s : Store} (hanchored : Anchored s) (h : s.constraintsOk = true) :
    SideBySide s s where
  revision := by
    refine ⟨List.forall₂_same.mpr fun row _ => ⟨rfl, rfl, rfl, Nat.le_refl _⟩,
      ⟨[], by simp, by simp⟩, Store.steps_unique h, (Store.definitions_fit h).1,
      Store.definitions_fit h⟩
  revised := rfl
  anchored := hanchored
  constraints := h

/-- The same call in both runs. -/
theorem SideBySide.step_both {v v' : DbWorld} (h : SideBySide v.store v'.store) {c : Call}
    (hworks : c.op.works = true) : SideBySide (step v c).store (step v' c).store := by
  have hafter : RevisedFrom v.store.sequences v'.store.sequences v.store.steps v'.store.steps
      (step v c).store (step v' c).store := by
    obtain ⟨rt, op⟩ := c
    cases op with
    | sendNext e => exact (sendNextSequenceStep_agrees h.revision h.from h.anchored rt e).after
    | sendApproved a actor sender =>
      exact (sendApprovedSequenceEmail_agrees h.revision h.from h.anchored rt a actor sender).after
    | completeActivity a request actor =>
      exact (completeSequenceActivity_agrees h.revision h.from h.anchored rt a request actor).after
    | scheduleMeeting a request actor client =>
      exact (scheduleSequenceMeetingActivity_agrees h.revision h.from h.anchored rt a request actor
        client).after
    | _ => cases hworks
  have hsequences : (step v' c).store.sequences = v'.store.sequences := by
    rw [hafter.revised]
    rfl
  have hsteps : (step v' c).store.steps = v'.store.steps := by
    rw [hafter.revised]
    rfl
  refine ⟨?_, ?_, step_anchored c h.anchored, step_constraints c h.constraints⟩
  · rw [hafter.sequences, hafter.steps, hsequences, hsteps]
    exact h.revision
  · rw [hsequences, hsteps]
    exact hafter.revised

omit [Casing] in
/-- A committed revision in the second run only. -/
theorem Revision.revise {sequences sequences' : Table Sequence}
    {steps steps' : Table SequenceStep} (h : Revision sequences sequences' steps steps') {q : Id}
    {sequence : Sequence} {request : SequenceUpdateRequest} {now : Time}
    (hsequence : sequences'[q]? = some sequence)
    (hrevises : request.channel = none ∧ request.status = none ∧ request.rateLimitPolicy = none)
    (hunique : (steps' ++ stepRows (request.steps.getD []) q (sequence.definitionVersion + 1)).uniqueOn
      (fun row => some (row.sequenceId, row.definitionVersion, row.stepOrder)) = true)
    (hfits : (sequences'.modify q (request.apply now sequence)).all Sequence.fits = true ∧
      (steps' ++ stepRows (request.steps.getD []) q (sequence.definitionVersion + 1)).all
        SequenceStep.fits = true) :
    Revision sequences (sequences'.modify q (request.apply now sequence)) steps
      (steps' ++ stepRows (request.steps.getD []) q (sequence.definitionVersion + 1)) := by
  obtain ⟨hchannel, hstatus, hpolicy⟩ := hrevises
  refine ⟨?_, ?_, hunique, h.fitted, hfits⟩
  · rw [List.forall₂_iff_get]
    refine ⟨by simpa using h.terms.length_eq, ?_⟩
    intro i hi hi'
    have hlt : i < sequences'.length := by simpa using hi'
    have hterms : SameTerms sequences[i] sequences'[i] := h.terms.get hi hlt
    simp only [List.get_eq_getElem, List.getElem_modify]
    split
    · next hq =>
      subst hq
      obtain rfl : sequences'[q] = sequence := by
        rw [List.getElem?_eq_getElem hlt] at hsequence
        exact Option.some.inj hsequence
      refine ⟨?_, ?_, hterms.idempotencyKey, ?_⟩
      · simp only [SequenceUpdateRequest.apply, hstatus, Option.getD_none]
        exact hterms.status
      · simp only [SequenceUpdateRequest.apply, hpolicy, Option.getD_none]
        exact hterms.rateLimitPolicy
      · have hversion := hterms.version
        simp only [SequenceUpdateRequest.apply]
        split <;> omega
    · exact hterms
  · obtain ⟨more, hsteps, hmore⟩ := h.added
    refine ⟨more ++ stepRows (request.steps.getD []) q (sequence.definitionVersion + 1), ?_, ?_⟩
    · rw [hsteps, List.append_assoc]
    · intro step hstep
      rcases List.mem_append.mp hstep with hold | hnew
      · exact hmore step hold
      · obtain ⟨hq, hversion⟩ := stepRows_of hnew
        rcases h.sequence q with ⟨-, hnone⟩ | ⟨old, new, hold, hnew', hterms⟩
        · rw [hnone] at hsequence
          cases hsequence
        · obtain rfl : new = sequence := Option.some.inj (hnew'.symm.trans hsequence)
          refine ⟨old, ?_, ?_⟩
          · rw [hq]
            exact hold
          · rw [hversion]
            exact Nat.lt_succ_of_le hterms.version

omit [Casing] in
/-- What an update of a sequence commits. -/
theorem updateSequence_commits (rt : Runtime) (q : Id) (request : SequenceUpdateRequest)
    (w : DbWorld) :
    (after (updateSequence rt q request) w).store = w.store ∨
      ∃ sequence, w.store.sequences[q]? = some sequence ∧
        (after (updateSequence rt q request) w).store =
          reviseSequence q (request.apply rt.now sequence)
            (stepRows (request.steps.getD []) q (sequence.definitionVersion + 1)) w.store ∧
        (after (updateSequence rt q request) w).store.constraintsOk = true := by
  let returns : Option Sequence → DbWorld → Prop := fun _ v =>
    v.store = w.store ∨ ∃ sequence, w.store.sequences[q]? = some sequence ∧
      v.store = reviseSequence q (request.apply rt.now sequence)
        (stepRows (request.steps.getD []) q (sequence.definitionVersion + 1)) w.store
  have hcases : (after (updateSequence rt q request) w).store = w.store ∨
      ∃ found, returns found (after (updateSequence rt q request) w) ∧
        (after (updateSequence rt q request) w).store.constraintsOk = true := by
    apply Lib.after_sessionScope_cases
    mvcgen [flush, Lib.flush]
    all_goals subst_vars
    · next sequence hstored _ _ _ => exact Or.inr ⟨sequence, hstored, rfl⟩
    · exact Or.inl rfl
  rcases hcases with hsame | ⟨found, hsame | ⟨sequence, hstored, hstore⟩, hvalid⟩
  · exact Or.inl hsame
  · exact Or.inl hsame
  · exact Or.inr ⟨sequence, hstored, hstore, hvalid⟩

omit [Casing] in
theorem Op.revises_request {op : Op} (h : op.revises = true) :
    ∃ q request, op = .updateSequence q request ∧ request.channel = none ∧
      request.status = none ∧ request.rateLimitPolicy = none := by
  cases op with
  | updateSequence q request =>
    simp only [Op.revises, Bool.and_eq_true, Option.isNone_iff_eq_none] at h
    exact ⟨q, request, rfl, h.1.1, h.1.2, h.2⟩
  | _ => cases h

/-- An update in the second run only. -/
theorem SideBySide.step_revision {v v' : DbWorld} (h : SideBySide v.store v'.store) {c : Call}
    (hrevises : c.op.revises = true) : SideBySide v.store (step v' c).store := by
  have hvalid := step_constraints c h.constraints
  obtain ⟨rt, op⟩ := c
  obtain ⟨q, request, rfl, hrequest⟩ := Op.revises_request hrevises
  have hstep : (step v' ⟨rt, .updateSequence q request⟩).store =
      (after (updateSequence rt q request) v').store := rfl
  rcases updateSequence_commits rt q request v' with hsame | ⟨sequence, hstored, hstore, -⟩
  · rw [hstep, hsame]
    exact h
  · rw [hstep, hstore] at hvalid ⊢
    exact ⟨h.revision.revise hstored hrequest (Store.steps_unique hvalid)
        (Store.definitions_fit hvalid),
      by rw [h.revised]; rfl, h.anchored, hvalid⟩

/-- A run and the same run with updates put in, side by side. -/
theorem run_sideBySide (calls : List Call)
    (hcalls : ∀ c ∈ calls, c.op.works = true ∨ c.op.revises = true) {v v' : DbWorld}
    (h : SideBySide v.store v'.store) :
    SideBySide (runCalls v (calls.filter (·.op.works))).store (runCalls v' calls).store := by
  induction calls generalizing v v' with
  | nil => exact h
  | cons c rest ih =>
    have hrest : ∀ c ∈ rest, c.op.works = true ∨ c.op.revises = true := fun d hd =>
      hcalls d (List.mem_cons_of_mem c hd)
    by_cases hworks : c.op.works = true
    · have hfilter : (c :: rest).filter (·.op.works) = c :: rest.filter (·.op.works) :=
        List.filter_cons_of_pos hworks
      rw [hfilter]
      exact ih hrest (h.step_both hworks)
    · have hfilter : (c :: rest).filter (·.op.works) = rest.filter (·.op.works) :=
        List.filter_cons_of_neg hworks
      rw [hfilter]
      have hrevises := (hcalls c List.mem_cons_self).resolve_left hworks
      exact ih hrest (h.step_revision hrevises)

omit [Casing] in
theorem Anchored.own {s : Store} (h : Anchored s) : OwnDefinitions s :=
  ⟨h.activities, h.mails⟩

omit [Casing] in
/-- The step of an activity is the same on both sides. -/
theorem SideBySide.executedSteps {s s' : Store} (h : SideBySide s s') (e : Id) :
    executedSteps s' e = executedSteps s e := by
  have hactivities : s'.activities = s.activities := by
    rw [h.revised]
    rfl
  obtain ⟨more, hsteps, -⟩ := h.revision.added
  unfold GhostRecon.executedSteps
  rw [hactivities]
  apply List.filterMap_congr
  intro activity hmember
  obtain ⟨a, hstored⟩ := List.getElem?_of_mem (List.mem_of_mem_filter hmember)
  obtain ⟨_, step, hown⟩ := h.anchored.activities a activity hstored
  have hstep : s'.steps[activity.sequenceStepId]? = some step := by
    rw [hsteps]
    exact Table.get_of_prefix (List.prefix_append _ _) _ _ hown.stored
  rw [hstep, hown.stored]

/-- Updates of a sequence that change its name, owner or steps change nothing
for the enrollments that exist: put in anywhere, they leave every enrollment, the
steps it executes and how far each got as they are without them, and activities
and mail stay within the definition their enrollment is pinned to. -/
theorem definitions_pinned {w : DbWorld} (hreach : ReachableWorld w) (calls : List Call)
    (hcalls : ∀ c ∈ calls, c.op.works = true ∨ c.op.revises = true) :
    (∀ e : Id,
      executedSteps (runCalls w calls).store e =
          executedSteps (runCalls w (calls.filter (·.op.works))).store e ∧
        (runCalls w calls).store.enrollments[e]? =
          (runCalls w (calls.filter (·.op.works))).store.enrollments[e]?) ∧
      OwnDefinitions (runCalls w calls).store := by
  obtain ⟨hanchored, hvalid⟩ := hreach.definitions_anchored
  have hside := run_sideBySide calls hcalls (SideBySide.start hanchored hvalid)
  refine ⟨fun e => ⟨hside.executedSteps e, ?_⟩, ?_⟩
  · rw [hside.revised]
    rfl
  · exact (Lib.run_always_keeps (I := fun v : DbWorld => Anchored v.store)
      (fun _ c hv => step_anchored c hv) calls hanchored).own

end Runs

section Renaming

/-- The sequence is rewritten before the first mail is approved, and once more
before the second is drafted. -/
def reviseBetween : List Call :=
  [Op.at (.updateSequence 0
      { name := some "outreach again", steps := some [{ bodyTemplate := some "Other" }] }) 35,
    Op.at (.sendApproved 0 "operator" acceptMail) 40,
    Op.at (.updateSequence 0 { ownerId := some "owner" }) 45,
    Op.at (.sendNext 0) 1000000]

/-- Both mails are drafted from the steps ada was enrolled with. -/
theorem first_definition_executed :
    (executedSteps (runCalls (runCalls deployment draftFirstMail) reviseBetween).store 0).map
      (·.1.bodyTemplate) = [some "First", some "Second"] := by
  have hpinned := definitions_pinned ⟨deployment, draftFirstMail, deployment_initial, rfl⟩
    reviseBetween (by decide)
  rw [(hpinned.1 0).1]
  decide +kernel

end Renaming

end GhostRecon
