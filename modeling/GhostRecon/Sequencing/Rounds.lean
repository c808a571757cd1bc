import GhostRecon.Sequencing.Operations

/-!
Rounds of the scheduler. A round selects the oldest due enrollments and steps
them one after the other; the first exception ends it, and the enrollment that
raised is selected again by the next round. When every selected enrollment can
be stepped, each round steps all of them, and a due enrollment is selected
after at most as many rounds as enrollments are due before it.
-/

namespace GhostRecon

open Lib (Id Table Admissible after run)
open Std.Do

set_option mvcgen.warning false

/-- The enrollment waits for a step since `t` or before. -/
def SequenceEnrollment.waitsSince (row : SequenceEnrollment) (t : Time) : Bool :=
  row.status == .active && row.nextStepAt.any (· ≤ t)

/-- The limits are numbers wherever the definition sets them. -/
def RateLimitPolicy.numeric (policy : RateLimitPolicy) : Bool :=
  [policy.domainDailyLimit, policy.senderDailyLimit, policy.channelDailyLimit].all fun entry =>
    (dailyLimit entry 0).isOk

/-- The enrollments other than `x` that wait since `t` or before. -/
def ahead (s : Store) (x : Id) (t : Time) : Finset Id :=
  (Finset.range s.enrollments.length).filter fun j =>
    j ≠ x ∧ (s.enrollments[j]?).any (·.waitsSince t) = true

theorem mem_ahead {s : Store} {x j : Id} {t : Time} :
    j ∈ ahead s x t ↔ j ≠ x ∧ ∃ row, s.enrollments[j]? = some row ∧ row.waitsSince t = true := by
  unfold ahead
  rw [Finset.mem_filter, Finset.mem_range, Option.any_eq_true]
  constructor
  · rintro ⟨-, hne, row, hrow, hwaits⟩
    exact ⟨hne, row, hrow, hwaits⟩
  · rintro ⟨hne, row, hrow, hwaits⟩
    exact ⟨(List.getElem?_eq_some_iff.mp hrow).1, hne, row, hrow, hwaits⟩

/-- The step took the enrollment off the queue before `t`, and no other. -/
structure Settles (t : Time) (e : Id) (s s' : Store) : Prop where
  others : ∀ j, j ≠ e → s'.enrollments[j]? = s.enrollments[j]?
  settled : ∀ row, s'.enrollments[e]? = some row → row.waitsSince t = false

/-- A step that rewrites the one enrollment. -/
theorem Settles.of_modify {t : Time} {e : Id} {s s' : Store}
    {f : SequenceEnrollment → SequenceEnrollment}
    (h : s'.enrollments = s.enrollments.modify e f)
    (hf : ∀ row, (f row).waitsSince t = false) : Settles t e s s' := by
  constructor
  · intro j hj
    rw [h, List.getElem?_modify_ne _ _ (Ne.symm hj)]
  · intro row hrow
    rw [h, List.getElem?_modify_eq] at hrow
    obtain ⟨stored, -, rfl⟩ := Option.map_eq_some_iff.mp hrow
    exact hf stored

/-- A step that leaves an enrollment which is not active. -/
theorem Settles.of_inactive {t : Time} {e : Id} {s : Store} {row : SequenceEnrollment}
    (hrow : s.enrollments[e]? = some row) (hstatus : row.status ≠ .active) : Settles t e s s := by
  refine ⟨fun _ _ => rfl, ?_⟩
  intro stored hstored
  obtain rfl : row = stored := Option.some.inj (hrow.symm.trans hstored)
  simp [SequenceEnrollment.waitsSince, hstatus]

section Steps

variable [Casing]

/-- What a step of an enrollment needs not to raise: a valid address, limits
that are numbers, templates that render, and rows that the database accepts. -/
structure Steppable (rt : Runtime) (w : DbWorld) (e : Id) : Prop where
  stored : (w.store.enrollments[e]?).isSome = true
  address : ∀ row contact, w.store.enrollments[e]? = some row →
    w.store.contacts[row.contactId]? = some contact → contact.email.all rt.validEmail = true
  limits : ∀ row sequence, w.store.enrollments[e]? = some row →
    w.store.sequences[row.sequenceId]? = some sequence →
    sequence.rateLimitPolicy.numeric = true
  renders : ∀ row stepId step contact account fromEmail, w.store.enrollments[e]? = some row →
    planNextStep rt row w.store = .ok (.draft stepId step contact account fromEmail) →
    w.store.outboundEmails.first? (·.idempotencyKey == (e, stepId)) = none →
    (renderTemplate rt step.subjectTemplate contact account).isOk = true ∧
      (renderTemplate rt step.bodyTemplate contact account).isOk = true
  accepted : ∀ w', sendNextSequenceStep rt e w ≠ .error .integrityError w'

omit [Casing] in
theorem dailyLimit_isOk {entry : Option LimitValue} (fallback other : Int)
    (h : (dailyLimit entry other).isOk = true) : ∃ limit, dailyLimit entry fallback = .ok limit := by
  cases entry with
  | none => exact ⟨fallback, rfl⟩
  | some value =>
    cases value with
    | int limit => exact ⟨limit, rfl⟩
    | invalid message => cases h

/-- With numbers for limits the limiter answers. -/
theorem rateLimitBlocker_isOk {rt : Runtime} {toEmail fromEmail : String}
    {channel : SequenceChannel} {sequence : Sequence} {s : Store}
    (h : sequence.rateLimitPolicy.numeric = true) :
    ∃ answer, rateLimitBlocker rt toEmail fromEmail channel sequence s = .ok answer := by
  simp only [RateLimitPolicy.numeric, List.all_cons, List.all_nil, Bool.and_true,
    Bool.and_eq_true] at h
  obtain ⟨domainLimit, hdomain⟩ := dailyLimit_isOk rt.settings.sequenceDomainDailyLimit 0 h.1
  obtain ⟨senderLimit, hsender⟩ := dailyLimit_isOk rt.settings.sequenceSenderDailyLimit 0 h.2.1
  obtain ⟨channelLimit, hchannel⟩ :=
    dailyLimit_isOk rt.settings.sequenceChannelDailyLimit 0 h.2.2
  simp only [rateLimitBlocker, hdomain, hsender, hchannel, bind, Except.bind]
  split
  · exact ⟨_, rfl⟩
  · split
    · exact ⟨_, rfl⟩
    · split
      · exact ⟨_, rfl⟩
      · exact ⟨_, rfl⟩

/-- A plan is made whenever the address is valid and the limits are numbers. -/
theorem planNextStep_isOk {rt : Runtime} {enrollment : SequenceEnrollment} {s : Store}
    (haddress : ∀ contact, s.contacts[enrollment.contactId]? = some contact →
      contact.email.all rt.validEmail = true)
    (hlimits : ∀ sequence, s.sequences[enrollment.sequenceId]? = some sequence →
      sequence.rateLimitPolicy.numeric = true) :
    ∃ plan, planNextStep rt enrollment s = .ok plan := by
  unfold planNextStep
  split
  · exact ⟨_, rfl⟩
  · next sequence hsequence =>
    split
    · exact ⟨_, rfl⟩
    · split
      · exact ⟨_, rfl⟩
      · split
        · exact ⟨_, rfl⟩
        · next contact hcontact =>
          split
          · exact ⟨_, rfl⟩
          · simp only [bind, Except.bind, suppressionAllowed, if_pos (haddress contact hcontact)]
            split
            · exact ⟨_, rfl⟩
            · split
              · exact ⟨_, rfl⟩
              · obtain ⟨answer, hanswer⟩ := rateLimitBlocker_isOk (hlimits sequence hsequence)
                rw [hanswer]
                cases answer <;> exact ⟨_, rfl⟩

/-- Why a step raises. -/
inductive StepError (rt : Runtime) (w : DbWorld) (e : Id) : PyError → Prop where
  | missing (error : PyError) (hrow : ∀ row, w.store.enrollments[e]? = some row → False) :
      StepError rt w e error
  | unplanned (error : PyError) {row : SequenceEnrollment}
      (hrow : w.store.enrollments[e]? = some row)
      (hplan : planNextStep rt row w.store = .error error) : StepError rt w e error
  | unrendered (error : PyError) {row : SequenceEnrollment} {stepId : Id} {step : SequenceStep}
      {contact : Contact} {account : Option Account} {fromEmail : String}
      {template : Option String} (hrow : w.store.enrollments[e]? = some row)
      (hplan : planNextStep rt row w.store =
        .ok (.draft stepId step contact account fromEmail))
      (hnew : w.store.outboundEmails.first? (·.idempotencyKey == (e, stepId)) = none)
      (htemplate : template = step.subjectTemplate ∨ template = step.bodyTemplate)
      (hrender : renderTemplate rt template contact account = .error error) :
      StepError rt w e error
  | refused : StepError rt w e .integrityError

/-- A step returns, or one of the listed things went wrong. -/
theorem sendNextSequenceStep_error {rt : Runtime} {e : Id} {w w' : DbWorld} {error : PyError}
    (h : sendNextSequenceStep rt e w = .error error w') : StepError rt w e error := by
  obtain herror | rfl := Lib.sessionScope_raises (R := StepError rt w e) h (by
    mvcgen [performNextStep, outboundForStep, activityForStep, flush, Lib.flush,
      Lib.queryOrRaise]
    all_goals subst_vars
    all_goals first
      | exact .refused
      | exact .missing _ ‹_›
      | exact .unplanned _ ‹_› ‹_›
      | exact .unrendered _ ‹_› ‹_› ‹_› (Or.inl rfl) ‹_›
      | exact .unrendered _ ‹_› ‹_› ‹_› (Or.inr rfl) ‹_›)
  · exact herror
  · exact .refused

/-- A step that returns settles its enrollment. -/
theorem sendNextSequenceStep_settles {rt : Runtime} {e : Id} {w w' : DbWorld}
    {outcome : NextStepOutcome} {t : Time} (h : sendNextSequenceStep rt e w = .ok outcome w')
    (ht : t < rt.now + rt.settings.sequenceRetryAfterSeconds) : Settles t e w.store w'.store := by
  refine (Lib.sessionScope_returns (R := fun v => Settles t e w.store v.store) h ?_).1
  mvcgen [performNextStep, outboundForStep, activityForStep, flush, Lib.flush,
    Lib.queryOrRaise]
  all_goals subst_vars
  · exact .of_inactive ‹_› ‹_›
  · exact .of_modify rfl fun _ => rfl
  · exact .of_modify rfl fun _ => rfl
  · exact .of_modify rfl fun _ => rfl
  · exact .of_modify rfl fun _ => by simp [SequenceEnrollment.waitsSince]
  · exact .of_modify rfl fun _ => by simp [SequenceEnrollment.waitsSince]
  · refine .of_modify rfl fun _ => ?_
    simp only [SequenceEnrollment.waitsSince, Option.any_some, Bool.and_eq_false_iff,
      decide_eq_false_iff_not]
    exact Or.inr (Nat.not_le.mpr ht)
  all_goals exact .of_modify rfl fun _ => by simp [SequenceEnrollment.waitsSince]

/-- What can be stepped is stepped. -/
theorem Steppable.returns {rt : Runtime} {w : DbWorld} {e : Id} (h : Steppable rt w e) :
    ∃ outcome w', sendNextSequenceStep rt e w = .ok outcome w' := by
  cases hrun : sendNextSequenceStep rt e w with
  | ok outcome w' => exact ⟨outcome, w', rfl⟩
  | error error w' =>
    exfalso
    cases sendNextSequenceStep_error hrun with
    | missing _ hrow =>
      obtain ⟨row, hstored⟩ := Option.isSome_iff_exists.mp h.stored
      exact hrow row hstored
    | unplanned _ hrow hplan =>
      obtain ⟨plan, hplanned⟩ := planNextStep_isOk (fun contact => h.address _ contact hrow)
        (fun sequence => h.limits _ sequence hrow)
      rw [hplanned] at hplan
      cases hplan
    | unrendered _ hrow hplan hnew htemplate hrender =>
      obtain ⟨hsubject, hbody⟩ := h.renders _ _ _ _ _ _ hrow hplan hnew
      rcases htemplate with rfl | rfl
      · rw [hrender] at hsubject
        cases hsubject
      · rw [hrender] at hbody
        cases hbody
    | refused => exact h.accepted w' hrun

/-- Step one selected enrollment in a transaction of its own. -/
def stepOne (rt : Runtime) (w : DbWorld) (e : Id) : DbWorld :=
  after (sendNextSequenceStep rt e) w

/-- The round steps every selected enrollment. -/
def Isolating (rt : Runtime) (limit : Nat) (w : DbWorld) : Prop :=
  after (processDueSequenceSteps rt limit) w =
    run (stepOne rt) w (dueEnrollments rt.now limit w.store)

/-- A loop over enrollments that can be stepped steps them all. -/
theorem mapM_steppable {rt : Runtime} {due : List Id} {w : DbWorld}
    (h : Admissible (stepOne rt) (Steppable rt) w due) :
    ∃ outcomes, due.mapM (sendNextSequenceStep rt) w = .ok outcomes (run (stepOne rt) w due) := by
  induction due generalizing w with
  | nil => exact ⟨[], rfl⟩
  | cons e rest ih =>
    obtain ⟨hstep, hrest⟩ := h
    obtain ⟨outcome, w', hrun⟩ := hstep.returns
    have hafter : stepOne rt w e = w' := by
      rw [stepOne, after, hrun]
    rw [hafter] at hrest
    obtain ⟨outcomes, hloop⟩ := ih hrest
    refine ⟨outcome :: outcomes, ?_⟩
    rw [List.mapM_cons, Lib.run_cons, hafter]
    simp [bind, EStateM.bind, hrun, hloop, pure, EStateM.pure]

/-- After a loop over enrollments that can be stepped, each of them is settled
and the others are as before. -/
theorem run_stepOne_settles {rt : Runtime} {due : List Id} {w : DbWorld} {t : Time}
    (h : Admissible (stepOne rt) (Steppable rt) w due)
    (ht : t < rt.now + rt.settings.sequenceRetryAfterSeconds) :
    (∀ j, j ∉ due → (run (stepOne rt) w due).store.enrollments[j]? = w.store.enrollments[j]?) ∧
      ∀ j ∈ due, ∀ row, (run (stepOne rt) w due).store.enrollments[j]? = some row →
        row.waitsSince t = false := by
  induction due generalizing w with
  | nil => exact ⟨fun _ _ => rfl, fun _ hj => absurd hj List.not_mem_nil⟩
  | cons e rest ih =>
    obtain ⟨hstep, hrest⟩ := h
    obtain ⟨outcome, w', hrun⟩ := hstep.returns
    have hafter : stepOne rt w e = w' := by
      rw [stepOne, after, hrun]
    have hsettles := sendNextSequenceStep_settles hrun ht
    rw [hafter] at hrest
    obtain ⟨hothers, hsettled⟩ := ih hrest
    rw [Lib.run_cons, hafter]
    constructor
    · intro j hj
      rw [List.mem_cons, not_or] at hj
      rw [hothers j hj.2, hsettles.others j hj.1]
    · intro j hj row hrow
      by_cases hmem : j ∈ rest
      · exact hsettled j hmem row hrow
      · obtain rfl : j = e := (List.mem_cons.mp hj).resolve_right hmem
        rw [hothers j hmem] at hrow
        exact hsettles.settled row hrow

end Steps

/-- In a sorted list, what is cut off comes after everything that is kept. -/
theorem take_of_sorted {α : Type} {r : α → α → Prop} {l : List α} (hsorted : l.Pairwise r)
    {x : α} (hmem : x ∈ l) (n : Nat) (hcut : x ∉ l.take n) :
    (l.take n).length = n ∧ ∀ y ∈ l.take n, r y x := by
  rw [← List.take_append_drop n l] at hsorted hmem
  have hdrop : x ∈ l.drop n := (List.mem_append.mp hmem).resolve_left hcut
  constructor
  · have hpos := List.length_pos_of_mem hdrop
    rw [List.length_drop] at hpos
    rw [List.length_take]
    omega
  · intro y hy
    exact (List.pairwise_append.mp hsorted).2.2 y hy x hdrop

/-- The rows that are due, oldest first. -/
def dueRows (now : Time) (s : Store) : List (SequenceEnrollment × Id) :=
  (s.enrollments.zipIdx.filter fun row => row.1.status == .active &&
    row.1.nextStepAt.any (· ≤ now)).insertionSort
      (fun a b => a.1.nextStepAt.getD 0 ≤ b.1.nextStepAt.getD 0)

theorem mem_dueRows {now : Time} {s : Store} {row : SequenceEnrollment} {j : Id} :
    (row, j) ∈ dueRows now s ↔ s.enrollments[j]? = some row ∧ row.waitsSince now = true := by
  unfold dueRows SequenceEnrollment.waitsSince
  rw [List.mem_insertionSort, List.mem_filter, List.mem_zipIdx_iff_getElem?]

/-- When a due enrollment is not selected, the round is full, and everything
selected is due before it. -/
theorem dueEnrollments_full {now t : Time} {limit : Nat} {s : Store} {x : Id}
    {row : SequenceEnrollment} (hrow : s.enrollments[x]? = some row)
    (hactive : row.status = .active) (hdue : row.nextStepAt = some t) (hnow : t ≤ now)
    (hcut : x ∉ dueEnrollments now limit s) :
    (dueEnrollments now limit s).length = limit ∧
      ∀ j ∈ dueEnrollments now limit s, j ∈ ahead s x t := by
  have heq : dueEnrollments now limit s = ((dueRows now s).take limit).map Prod.snd := by
    rw [List.map_take]
    rfl
  have hmem : (row, x) ∈ dueRows now s := by
    rw [mem_dueRows]
    exact ⟨hrow, by simp [SequenceEnrollment.waitsSince, hactive, hdue, hnow]⟩
  have hnot : (row, x) ∉ (dueRows now s).take limit := by
    intro hkept
    rw [heq] at hcut
    exact hcut (List.mem_map_of_mem hkept)
  have hsorted : (dueRows now s).Pairwise
      (fun a b => a.1.nextStepAt.getD 0 ≤ b.1.nextStepAt.getD 0) := by
    have htotal : Std.Total fun a b : SequenceEnrollment × Id =>
        a.1.nextStepAt.getD 0 ≤ b.1.nextStepAt.getD 0 := ⟨fun _ _ => Nat.le_total _ _⟩
    have htrans : IsTrans (SequenceEnrollment × Id) fun a b =>
        a.1.nextStepAt.getD 0 ≤ b.1.nextStepAt.getD 0 := ⟨fun _ _ _ => Nat.le_trans⟩
    exact List.pairwise_insertionSort _ _
  obtain ⟨hlength, hbefore⟩ := take_of_sorted hsorted hmem limit hnot
  rw [heq, List.length_map]
  refine ⟨hlength, ?_⟩
  intro j hj
  obtain ⟨⟨other, k⟩, hkept, rfl⟩ := List.mem_map.mp hj
  have hother := mem_dueRows.mp (List.mem_of_mem_take hkept)
  have hle := hbefore _ hkept
  rw [mem_ahead]
  refine ⟨?_, other, hother.1, ?_⟩
  · rintro rfl
    obtain rfl : row = other := Option.some.inj (hrow.symm.trans hother.1)
    exact hnot hkept
  · obtain ⟨hstatus, hwaits⟩ := Bool.and_eq_true_iff.mp hother.2
    rw [Option.any_eq_true] at hwaits
    obtain ⟨since, hsince, -⟩ := hwaits
    simp only [hdue, hsince, Option.getD_some] at hle
    simp only [SequenceEnrollment.waitsSince, hstatus, hsince, Option.any_some, Bool.true_and,
      decide_eq_true_eq]
    exact hle

/-- One call of `process_due_sequence_steps`. -/
structure Round where
  rt : Runtime
  limit : Nat

section Rounds

variable [Casing]

def playRound (w : DbWorld) (r : Round) : DbWorld :=
  after (processDueSequenceSteps r.rt r.limit) w

/-- The round selects something when anything is due, a rate limit puts an
enrollment off, and every selected enrollment can be stepped in its turn. -/
structure Orderly (w : DbWorld) (r : Round) : Prop where
  limit : 0 < r.limit
  retry : 0 < r.rt.settings.sequenceRetryAfterSeconds
  steps : Admissible (stepOne r.rt) (Steppable r.rt) w
    (dueEnrollments r.rt.now r.limit w.store)

theorem Orderly.isolating {w : DbWorld} {r : Round} (h : Orderly w r) :
    Isolating r.rt r.limit w := by
  obtain ⟨outcomes, hloop⟩ := mapM_steppable h.steps
  have hround : processDueSequenceSteps r.rt r.limit w =
      (dueEnrollments r.rt.now r.limit w.store).mapM (sendNextSequenceStep r.rt) w := rfl
  rw [Isolating, after, hround, hloop]

/-- An orderly round that does not select a due enrollment leaves it due, with
fewer enrollments ahead. -/
theorem Orderly.advances {w : DbWorld} {r : Round} (h : Orderly w r) {x : Id} {t : Time}
    {row : SequenceEnrollment} (hrow : w.store.enrollments[x]? = some row)
    (hactive : row.status = .active) (hdue : row.nextStepAt = some t) (hnow : t ≤ r.rt.now)
    (hcut : x ∉ dueEnrollments r.rt.now r.limit w.store) :
    (playRound w r).store.enrollments[x]? = some row ∧
      (ahead (playRound w r).store x t).card < (ahead w.store x t).card := by
  obtain ⟨hothers, hsettled⟩ := run_stepOne_settles h.steps
    (Nat.lt_of_le_of_lt hnow (Nat.lt_add_of_pos_right h.retry))
  have hplayed : playRound w r = run (stepOne r.rt) w
      (dueEnrollments r.rt.now r.limit w.store) := h.isolating
  rw [hplayed]
  refine ⟨(hothers x hcut).trans hrow, Finset.card_lt_card ?_⟩
  obtain ⟨hfull, hahead⟩ := dueEnrollments_full hrow hactive hdue hnow hcut
  rw [Finset.ssubset_iff_of_subset]
  · have hlimit := h.limit
    obtain ⟨first, hfirst⟩ := List.exists_mem_of_length_pos
      (l := dueEnrollments r.rt.now r.limit w.store) (by omega)
    refine ⟨first, hahead first hfirst, ?_⟩
    intro hstill
    obtain ⟨-, left, hleft, hwaits⟩ := mem_ahead.mp hstill
    rw [hsettled first hfirst left hleft] at hwaits
    cases hwaits
  · intro j hj
    obtain ⟨hne, left, hleft, hwaits⟩ := mem_ahead.mp hj
    by_cases hmem : j ∈ dueEnrollments r.rt.now r.limit w.store
    · exact hahead j hmem
    · exact mem_ahead.mpr ⟨hne, left, (hothers j hmem) ▸ hleft, hwaits⟩

/-- Some round of the run selects the enrollment. -/
def SelectedIn (x : Id) (w : DbWorld) (rounds : List Round) : Prop :=
  ∃ before r rest, rounds = before ++ r :: rest ∧
    x ∈ dueEnrollments r.rt.now r.limit (run playRound w before).store

/-- In every run of orderly rounds each round steps all it selects, and a due
enrollment is selected before the rounds outnumber those due before it. -/
theorem orderly_rounds_fair (w : DbWorld) (rounds : List Round)
    (hrounds : Admissible playRound Orderly w rounds) :
    Admissible playRound (fun v r => Isolating r.rt r.limit v) w rounds ∧
      ∀ (x : Id) (row : SequenceEnrollment) (t : Time), w.store.enrollments[x]? = some row →
        row.status = .active → row.nextStepAt = some t → (∀ r ∈ rounds, t ≤ r.rt.now) →
        (ahead w.store x t).card < rounds.length → SelectedIn x w rounds := by
  constructor
  · exact Lib.admissible_of_invariant (I := fun _ => True) (fun _ _ _ _ => trivial)
      (fun _ _ hok _ => hok.isolating) hrounds trivial
  · intro x row t hrow hactive hdue hnow hcount
    induction rounds generalizing w with
    | nil => exact absurd hcount (Nat.not_lt_zero _)
    | cons r rest ih =>
      by_cases hselected : x ∈ dueEnrollments r.rt.now r.limit w.store
      · exact ⟨[], r, rest, rfl, hselected⟩
      · obtain ⟨hkept, hfewer⟩ := hrounds.1.advances hrow hactive hdue
          (hnow r List.mem_cons_self) hselected
        rw [List.length_cons] at hcount
        obtain ⟨before, found, later, hrest, hmem⟩ := ih (playRound w r) hrounds.2 hkept
          (fun other hother => hnow other (List.mem_cons_of_mem r hother)) (by omega)
        exact ⟨r :: before, found, later, by rw [hrest]; rfl, hmem⟩

end Rounds

/-! Two enrollments are due; the definition of the older one sets a limit that
is no number. -/

def limitedRequest (limit : Option LimitValue) : SequenceCreateRequest where
  name := "intro"
  rateLimitPolicy := { domainDailyLimit := limit }
  steps := [{ subjectTemplate := some "Hello", bodyTemplate := some "Hi" }]

def dueEnrollment (sequenceId : Id) (since : Time) (key : String) : SequenceEnrollment where
  sequenceId := sequenceId
  crmTargetId := 0
  contactId := 0
  status := .active
  approvalActor := "op"
  approvalReason := "approved"
  currentStepOrder := 1
  definitionVersion := 1
  nextStepAt := some since
  idempotencyKey := key

def queueWorld (limit : Option LimitValue) : DbWorld where
  store := {
    contacts := [ada]
    sequences := [(limitedRequest limit).row 0 none, (limitedRequest none).row 0 none]
    steps := stepRows (limitedRequest limit).steps 0 1 ++ stepRows (limitedRequest none).steps 1 1
    enrollments := [dueEnrollment 0 1 "older", dueEnrollment 1 2 "younger"] }
  external := {}

def stuckQueue : DbWorld :=
  queueWorld (some (.invalid "invalid literal for int()"))

def roundAt (now : Time) (limit : Nat) : Round where
  rt := { now }
  limit := limit

/-- The older enrollment raises, so the round changes nothing. -/
theorem playRound_stuckQueue (limit : Nat) :
    playRound stuckQueue (roundAt 10 (limit + 1)) = stuckQueue :=
  rfl

theorem run_stuckQueue (n : Nat) :
    run playRound stuckQueue (List.replicate n (roundAt 10 1)) = stuckQueue := by
  induction n with
  | zero => rfl
  | succ n ih =>
    rw [List.replicate_succ, Lib.run_cons, playRound_stuckQueue 0]
    exact ih

/-- A limit that is no number keeps the younger enrollment from being stepped in
the same round, and with one enrollment a round from ever being selected. -/
theorem failing_step_blocks_queue :
    ¬ (∀ (rt : Runtime) (limit : Nat) (w : DbWorld), Isolating rt limit w) ∧
      ∀ n, ¬ SelectedIn 1 stuckQueue (List.replicate n (roundAt 10 1)) := by
  constructor
  · intro hall
    have hisolating := hall { now := 10 } 50 stuckQueue
    have hstuck : after (processDueSequenceSteps { now := 10 } 50) stuckQueue = stuckQueue :=
      playRound_stuckQueue 49
    rw [Isolating, hstuck] at hisolating
    have hstepped : ((run (stepOne { now := 10 }) stuckQueue
        (dueEnrollments 10 50 stuckQueue.store)).store.enrollments.map (·.nextStepAt)) =
        [some 1, none] := by
      decide +kernel
    rw [← hisolating] at hstepped
    exact absurd hstepped (by decide)
  · rintro n ⟨before, r, rest, hrounds, hmem⟩
    have hbefore : before = List.replicate before.length (roundAt 10 1) := by
      rw [List.eq_replicate_iff]
      refine ⟨rfl, ?_⟩
      intro other hother
      exact List.eq_of_mem_replicate (hrounds ▸ List.mem_append_left _ hother)
    have hr : r = roundAt 10 1 :=
      List.eq_of_mem_replicate (hrounds ▸ List.mem_append_right _ List.mem_cons_self)
    rw [hbefore, run_stuckQueue, hr] at hmem
    revert hmem
    decide

/-- With plain templates and any address accepted, a step that returns is one
that can be made. -/
theorem steppable_of_returned {now : Time} {w : DbWorld} {e : Id}
    (hlimits : ∀ sequence ∈ w.store.sequences, sequence.rateLimitPolicy.numeric = true)
    (hreturned : (Lib.returned (sendNextSequenceStep { now } e) w).isSome = true)
    (hstored : (w.store.enrollments[e]?).isSome = true) : Steppable { now } w e where
  stored := hstored
  address _ contact _ _ := by cases contact.email <;> rfl
  limits _ sequence _ hsequence := hlimits sequence (List.mem_of_getElem? hsequence)
  renders _ _ _ _ _ _ _ _ _ := ⟨rfl, rfl⟩
  accepted w' herror := by
    rw [Lib.returned, herror] at hreturned
    cases hreturned

/-- Two rounds of one enrollment each step the older and then the younger one. -/
theorem two_rounds_fair :
    SelectedIn 1 (queueWorld none) [roundAt 10 1, roundAt 11 1] := by
  have hfirst : Orderly (queueWorld none) (roundAt 10 1) := by
    refine ⟨by decide, by decide, ?_⟩
    have hdue : dueEnrollments 10 1 (queueWorld none).store = [0] := by decide +kernel
    show Admissible _ _ _ (dueEnrollments 10 1 (queueWorld none).store)
    rw [hdue]
    exact ⟨steppable_of_returned (by decide) (by decide +kernel) rfl, trivial⟩
  have hsecond : Orderly (playRound (queueWorld none) (roundAt 10 1)) (roundAt 11 1) := by
    refine ⟨by decide, by decide, ?_⟩
    have hdue : dueEnrollments 11 1 (playRound (queueWorld none) (roundAt 10 1)).store = [1] := by
      decide +kernel
    show Admissible _ _ _ (dueEnrollments 11 1 (playRound (queueWorld none) (roundAt 10 1)).store)
    rw [hdue]
    exact ⟨steppable_of_returned (by decide +kernel) (by decide +kernel) (by decide +kernel),
      trivial⟩
  exact (orderly_rounds_fair (queueWorld none) [roundAt 10 1, roundAt 11 1]
    ⟨hfirst, hsecond, trivial⟩).2 1 (dueEnrollment 1 2 "younger") 2 rfl rfl rfl (by decide)
    (by decide)

end GhostRecon
