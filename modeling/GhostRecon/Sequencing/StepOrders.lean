import GhostRecon.Sequencing.Pinning

/-!
The orders of the steps of a definition. A step that names its order keeps it and one
that does not takes its place in the list, so the two can meet; the request models look
at each step alone, and only the unique constraint of the table sees the collision.
-/

namespace GhostRecon

open Lib (Id Table Chain after)

section Requests

/-- A template with something in it. -/
def written (template : Option String) : Bool :=
  template.any fun text => stripChars isPySpace text != ""

/-- The checks of `SequenceStepCreate`. -/
def SequenceStepCreate.accepted (step : SequenceStepCreate) : Bool :=
  step.stepOrder.all (1 ≤ ·) && fits? 512 step.subjectTemplate &&
    (step.channel != .email || written step.subjectTemplate && written step.bodyTemplate)

def acceptedName (name : String) : Bool :=
  decide (1 ≤ name.length) && fits 255 name

/-- The checks of `SequenceCreateRequest`. -/
def SequenceCreateRequest.accepted (request : SequenceCreateRequest) : Bool :=
  acceptedName request.name && decide (1 ≤ request.steps.length ∧ request.steps.length ≤ 20) &&
    request.steps.all SequenceStepCreate.accepted

/-- The checks of `SequenceUpdateRequest`. -/
def SequenceUpdateRequest.accepted (request : SequenceUpdateRequest) : Bool :=
  request.name.all acceptedName && request.expectedVersion.all (1 ≤ ·) &&
    request.steps.all fun steps =>
      decide (steps.length ≤ 20) && steps.all SequenceStepCreate.accepted

end Requests

section Orders

variable {steps : List SequenceStepCreate} {q version : Nat}

/-- The explicit orders are pairwise distinct. -/
def DistinctOrders (steps : List SequenceStepCreate) : Prop :=
  (steps.filterMap (·.stepOrder)).Nodup

/-- No step names the place of a step that names none. -/
def PlacesFree (steps : List SequenceStepCreate) : Prop :=
  ∀ (i : Nat) (step : SequenceStepCreate), steps[i]? = some step → step.stepOrder = none →
    ∀ other ∈ steps, other.stepOrder ≠ some (i + 1)

/-- The columns hold the orders and delays. -/
def NumbersFit (steps : List SequenceStepCreate) : Prop :=
  ∀ (i : Nat) (step : SequenceStepCreate), steps[i]? = some step →
    step.stepOrder.getD (i + 1) < 2 ^ 31 ∧ step.delaySeconds < 2 ^ 31

theorem stepRows_length : (stepRows steps q version).length = steps.length := by
  simp [stepRows]

theorem stepRows_get (i : Nat) :
    (stepRows steps q version)[i]? = (steps[i]?).map (·.row q (i + 1) version) := by
  simp only [stepRows, List.getElem?_map, List.getElem?_zipIdx, Option.map_map, Nat.zero_add]
  rfl

theorem stepRows_at {i : Nat} {step : SequenceStepCreate} {row : SequenceStep}
    (hstep : steps[i]? = some step) (hrow : (stepRows steps q version)[i]? = some row) :
    row = step.row q (i + 1) version := by
  rw [stepRows_get, hstep] at hrow
  exact (Option.some.inj hrow).symm

/-- With distinct explicit orders, all are distinct exactly when the places are free. -/
theorem stepRows_distinct_iff (hdistinct : DistinctOrders steps) :
    ((stepRows steps q version).map (·.stepOrder)).Nodup ↔ PlacesFree steps := by
  have hpairs := List.pairwise_filterMap.mp hdistinct
  rw [List.pairwise_iff_getElem] at hpairs
  have hexplicit : ∀ (i j : Nat) (step other : SequenceStepCreate) (order : Nat),
      steps[i]? = some step → steps[j]? = some other → step.stepOrder = some order →
        other.stepOrder = some order → i = j := by
    intro i j step other order hi hj hstep hother
    obtain ⟨hilt, rfl⟩ := List.getElem?_eq_some_iff.mp hi
    obtain ⟨hjlt, rfl⟩ := List.getElem?_eq_some_iff.mp hj
    by_contra hne
    rcases Nat.lt_or_gt_of_ne hne with hlt | hlt
    · exact hpairs i j hilt hjlt hlt order hstep order hother rfl
    · exact hpairs j i hjlt hilt hlt order hother order hstep rfl
  rw [List.nodup_iff_getElem?_ne_getElem?]
  simp only [List.length_map, stepRows_length, List.getElem?_map, stepRows_get, Option.map_map]
  constructor
  · intro hnodup i step hstep hnone other hmember hother
    obtain ⟨j, hj⟩ := List.getElem?_of_mem hmember
    have hne : i ≠ j := by
      rintro rfl
      rw [hstep] at hj
      cases hj
      rw [hnone] at hother
      cases hother
    have hilt := (List.getElem?_eq_some_iff.mp hstep).1
    have hjlt := (List.getElem?_eq_some_iff.mp hj).1
    rcases Nat.lt_or_gt_of_ne hne with hlt | hlt
    · apply hnodup i j hlt hjlt
      simp [hstep, hj, SequenceStepCreate.row, hnone, hother]
    · apply hnodup j i hlt hilt
      simp [hstep, hj, SequenceStepCreate.row, hnone, hother]
  · intro hfree i j hlt hjlt hsame
    have hi := List.getElem?_eq_getElem (Nat.lt_trans hlt hjlt)
    have hj := List.getElem?_eq_getElem hjlt
    rw [hi, hj] at hsame
    have horder : (steps[i].stepOrder).getD (i + 1) = (steps[j].stepOrder).getD (j + 1) := by
      simpa [SequenceStepCreate.row] using hsame
    cases hleft : steps[i].stepOrder with
    | none =>
      cases hright : steps[j].stepOrder with
      | none =>
        rw [hleft, hright, Option.getD_none, Option.getD_none] at horder
        omega
      | some order =>
        rw [hleft, hright, Option.getD_none, Option.getD_some] at horder
        exact hfree i _ hi hleft _ (List.getElem_mem hjlt) (hright.trans (congrArg some horder.symm))
    | some order =>
      cases hright : steps[j].stepOrder with
      | none =>
        rw [hleft, hright, Option.getD_none, Option.getD_some] at horder
        exact hfree j _ hj hright _ (List.getElem_mem _) (hleft.trans (congrArg some horder))
      | some order' =>
        rw [hleft, hright, Option.getD_some, Option.getD_some] at horder
        subst horder
        exact absurd (hexplicit i j _ _ order hi hj hleft hright) (Nat.ne_of_lt hlt)

/-- Rows of a new version break no key exactly when their own orders are distinct. -/
theorem uniqueOn_append_stepRows {stored : Table SequenceStep}
    (hnew : ∀ step ∈ stored, ¬ (step.sequenceId = q ∧ step.definitionVersion = version)) :
    Table.uniqueOn (stored ++ stepRows steps q version)
        (fun row => some (row.sequenceId, row.definitionVersion, row.stepOrder)) = true ↔
      stored.uniqueOn (fun row =>
        some (row.sequenceId, row.definitionVersion, row.stepOrder)) = true ∧
        ((stepRows steps q version).map (·.stepOrder)).Nodup := by
  have hkeys : (stepRows steps q version).map
      (fun row => (row.sequenceId, row.definitionVersion, row.stepOrder)) =
        ((stepRows steps q version).map (·.stepOrder)).map fun order => (q, version, order) := by
    rw [List.map_map]
    apply List.map_congr_left
    intro row hrow
    obtain ⟨hq, hversion⟩ := stepRows_of hrow
    simp [hq, hversion]
  have hinjective : Function.Injective fun order : Nat => (q, version, order) := by
    intro a b hab
    simpa using hab
  simp only [Table.uniqueOn_iff, List.filterMap_eq_map', List.map_append, List.nodup_append]
  rw [hkeys, List.nodup_map_iff hinjective]
  constructor
  · rintro ⟨hold, hrows, -⟩
    exact ⟨hold, hrows⟩
  · rintro ⟨hold, hrows⟩
    refine ⟨hold, hrows, ?_⟩
    intro key hkey key' hkey' hsame
    obtain ⟨step, hstep, rfl⟩ := List.mem_map.mp hkey
    obtain ⟨order, -, rfl⟩ := List.mem_map.mp hkey'
    obtain ⟨hq, hversion, -⟩ : step.sequenceId = q ∧ step.definitionVersion = version ∧ _ := by
      simpa using hsame
    exact hnew step hstep ⟨hq, hversion⟩

theorem fitsInteger_natCast {n : Nat} : fitsInteger n = true ↔ n < 2 ^ 31 := by
  simp only [fitsInteger, decide_eq_true_eq]
  omega

/-- The rows fit exactly when the numbers do: the subjects were checked. -/
theorem stepRows_fit_iff (haccepted : ∀ step ∈ steps, step.accepted = true)
    (hversion : version < 2 ^ 31) :
    (stepRows steps q version).all SequenceStep.fits = true ↔ NumbersFit steps := by
  rw [List.all_eq_true]
  constructor
  · intro hfits i step hstep
    have hrow := hfits (step.row q (i + 1) version) (List.mem_of_getElem? (i := i)
      (by rw [stepRows_get, hstep]; rfl))
    simp only [SequenceStep.fits, Bool.and_eq_true, fitsInteger_natCast] at hrow
    exact ⟨hrow.1.1.2, hrow.1.2⟩
  · intro hnumbers row hrow
    obtain ⟨i, hi⟩ := List.getElem?_of_mem hrow
    rw [stepRows_get] at hi
    obtain ⟨step, hstep, rfl⟩ := Option.map_eq_some_iff.mp hi
    obtain ⟨horder, hdelay⟩ := hnumbers i step hstep
    have hstepOk := haccepted step (List.mem_of_getElem? hstep)
    simp only [SequenceStepCreate.accepted, Bool.and_eq_true] at hstepOk
    simp only [SequenceStep.fits, Bool.and_eq_true, fitsInteger_natCast]
    exact ⟨⟨⟨hstepOk.1.2, horder⟩, hdelay⟩, hversion⟩

end Orders

section Storing

variable {rt : Runtime} {s : Store} {w : DbWorld} {steps : List SequenceStepCreate} {q : Id}

/-- Steps stored as one version of a definition: one row for each step with its content,
explicit orders kept, omitted ones in list order, and no order twice in the version. -/
structure StoredSteps (steps : List SequenceStepCreate) (q version : Nat)
    (rows : List SequenceStep) (stored : Table SequenceStep) : Prop where
  count : rows.length = steps.length
  together : ∀ row ∈ rows, row.sequenceId = q ∧ row.definitionVersion = version
  content : ∀ (i : Nat) (step : SequenceStepCreate) (row : SequenceStep),
    steps[i]? = some step → rows[i]? = some row →
      row.channel = step.channel ∧ row.delaySeconds = step.delaySeconds ∧
        row.subjectTemplate = step.subjectTemplate ∧ row.bodyTemplate = step.bodyTemplate ∧
        row.stepMetadata = step.stepMetadata
  explicit : ∀ (i : Nat) (step : SequenceStepCreate) (row : SequenceStep) (order : Nat),
    steps[i]? = some step → rows[i]? = some row → step.stepOrder = some order →
      row.stepOrder = order
  omitted : ∀ (i j : Nat) (step step' : SequenceStepCreate) (row row' : SequenceStep), i < j →
    steps[i]? = some step → steps[j]? = some step' → rows[i]? = some row →
      rows[j]? = some row' → step.stepOrder = none → step'.stepOrder = none →
        row.stepOrder < row'.stepOrder
  distinct : ∀ (i j : Nat) (row row' : SequenceStep), stored[i]? = some row →
    stored[j]? = some row' → row.sequenceId = q ∧ row.definitionVersion = version →
      row'.sequenceId = q ∧ row'.definitionVersion = version →
        row.stepOrder = row'.stepOrder → i = j

theorem stepRows_stored {version : Nat} {stored : Table SequenceStep}
    (hunique : stored.uniqueOn (fun row =>
      some (row.sequenceId, row.definitionVersion, row.stepOrder)) = true) :
    StoredSteps steps q version (stepRows steps q version) stored where
  count := stepRows_length
  together := fun _ => stepRows_of
  content := by
    intro i step row hstep hrow
    rw [stepRows_at hstep hrow]
    exact ⟨rfl, rfl, rfl, rfl, rfl⟩
  explicit := by
    intro i step row order hstep hrow horder
    rw [stepRows_at hstep hrow, SequenceStepCreate.row, horder, Option.getD_some]
  omitted := by
    intro i j step step' row row' hlt hstep hstep' hrow hrow' hnone hnone'
    rw [stepRows_at hstep hrow, stepRows_at hstep' hrow', SequenceStepCreate.row,
      SequenceStepCreate.row, hnone, hnone', Option.getD_none, Option.getD_none]
    exact Nat.succ_lt_succ hlt
  distinct := by
    intro i j row row' hi hj hrow hrow' horder
    have hkey : (row'.sequenceId, row'.definitionVersion, row'.stepOrder) =
        (row.sequenceId, row.definitionVersion, row.stepOrder) := by
      rw [hrow.1, hrow.2, hrow'.1, hrow'.2, horder]
    exact Table.uniqueOn_position hunique hi hj rfl (congrArg some hkey)

/-- Creating stores the steps of the request. -/
def CreatesSteps (rt : Runtime) (request : SequenceCreateRequest) (key : Option String)
    (w : DbWorld) : Prop :=
  ∃ q v rows, createSequence rt request key w = .ok q v ∧
    v.store.steps = w.store.steps ++ rows ∧ StoredSteps request.steps q 1 rows v.store.steps

/-- Updating stores the steps of the request as a new version. -/
def UpdatesSteps (rt : Runtime) (q : Id) (request : SequenceUpdateRequest)
    (steps : List SequenceStepCreate) (w : DbWorld) : Prop :=
  ∃ updated v rows, updateSequence rt q request w = .ok (some updated) v ∧
    v.store.steps = w.store.steps ++ rows ∧
    StoredSteps steps q updated.definitionVersion rows v.store.steps

theorem Move.keeps_versioned {mark : Mark} {s s' : Store} (h : Move mark s s')
    (hs : Versioned s) : Versioned s' := by
  cases h with
  | beside h => exact h.versions hs
  | finish _ _ _ _ _ =>
    unfold Versioned
    simp only [Store.updateActivity, advanceEnrollment_steps]
    exact hs
  | _ => exact hs

/-- A world a run of calls reaches from a deployment without definitions. -/
def DefinedByCalls [Casing] (w : DbWorld) : Prop :=
  ∃ init calls, Initial init ∧ init.store.sequences = [] ∧ init.store.steps = [] ∧
    runCalls init calls = w

theorem DefinedByCalls.versioned [Casing] (h : DefinedByCalls w) :
    Versioned w.store ∧ w.store.constraintsOk = true := by
  obtain ⟨init, calls, hinit, -, hsteps, rfl⟩ := h
  refine Lib.run_always_keeps
    (I := fun v : DbWorld => Versioned v.store ∧ v.store.constraintsOk = true) ?_ calls
    ⟨?_, hinit.constraints⟩
  · intro v c hv
    exact ⟨Chain.keeps (fun _ hmove => hmove.keeps_versioned) (step_moves (admitted_any v c)) hv.1,
      step_constraints c hv.2⟩
  · intro step hstep
    rw [hsteps] at hstep
    cases hstep

/-- No step is stored of a sequence that is not there yet. -/
theorem Versioned.no_sequence (h : Versioned s) :
    ∀ step ∈ s.steps, ¬ (step.sequenceId = s.sequences.length ∧ step.definitionVersion = 1) := by
  rintro step hstep ⟨hsequence, -⟩
  obtain ⟨sequence, hstored, -⟩ := h step hstep
  rw [hsequence, List.getElem?_eq_none (Nat.le_refl _)] at hstored
  cases hstored

/-- No step is stored of a version the sequence has not reached yet. -/
theorem Versioned.no_version (h : Versioned s) {sequence : Sequence}
    (hstored : s.sequences[q]? = some sequence) :
    ∀ step ∈ s.steps, ¬ (step.sequenceId = q ∧
      step.definitionVersion = sequence.definitionVersion + 1) := by
  rintro step hstep ⟨rfl, hversion⟩
  obtain ⟨found, hfound, hle⟩ := h step hstep
  obtain rfl : sequence = found := Option.some.inj (hstored.symm.trans hfound)
  omega

/-- What the database checks of a new definition. -/
theorem insertSequence_constraints {row : Sequence} {rows : List SequenceStep}
    (hs : s.constraintsOk = true) :
    (insertSequence row rows s).constraintsOk = true ↔
      (∀ k, row.idempotencyKey = some k → ∀ old ∈ s.sequences, old.idempotencyKey ≠ some k) ∧
        row.fits = true ∧
        Table.uniqueOn (s.steps ++ rows) (fun row =>
          some (row.sequenceId, row.definitionVersion, row.stepOrder)) = true ∧
        rows.all SequenceStep.fits = true := by
  have hunique : Table.uniqueOn (s.sequences ++ [row]) (·.idempotencyKey) = true ↔ _ :=
    Table.uniqueOn_concat
  simp only [Store.constraintsOk, Store.keysOk, Store.widthsOk, Bool.and_eq_true] at hs
  simp only [Store.constraintsOk, Store.keysOk, Store.widthsOk, insertSequence,
    Bool.and_eq_true, hunique, List.all_append, List.all_cons, List.all_nil, Bool.and_true]
  grind

/-- What the database checks of a revised definition. -/
theorem reviseSequence_constraints {f : Sequence → Sequence} {sequence : Sequence}
    {rows : List SequenceStep} (hs : s.constraintsOk = true)
    (hstored : s.sequences[q]? = some sequence)
    (hkey : ∀ row, (f row).idempotencyKey = row.idempotencyKey) :
    (reviseSequence q f rows s).constraintsOk = true ↔
      (f sequence).fits = true ∧
        Table.uniqueOn (s.steps ++ rows) (fun row =>
          some (row.sequenceId, row.definitionVersion, row.stepOrder)) = true ∧
        rows.all SequenceStep.fits = true := by
  have hunique : Table.uniqueOn (s.sequences.modify q f) (·.idempotencyKey) =
      s.sequences.uniqueOn (·.idempotencyKey) := Table.uniqueOn_modify hkey
  have hall : (s.sequences.modify q f).all Sequence.fits = true ↔ (f sequence).fits = true := by
    have hfits := (Store.definitions_fit hs).1
    rw [List.all_eq_true] at hfits ⊢
    constructor
    · intro hrevised
      exact hrevised _ (List.mem_of_getElem? (i := q) (by simp [hstored]))
    · intro hone row hrow
      obtain ⟨k, hk⟩ := List.getElem?_of_mem hrow
      rw [List.getElem?_modify] at hk
      obtain ⟨old, hold, rfl⟩ := Option.map_eq_some_iff.mp hk
      split
      · next hq =>
        subst hq
        obtain rfl : sequence = old := Option.some.inj (hstored.symm.trans hold)
        exact hone
      · exact hfits old (List.mem_of_getElem? hold)
  simp only [Store.constraintsOk, Store.keysOk, Store.widthsOk, Bool.and_eq_true] at hs
  simp only [Store.constraintsOk, Store.keysOk, Store.widthsOk, reviseSequence,
    Bool.and_eq_true, hunique, hall, List.all_append]
  grind

/-- A new definition is stored when the database takes it, and nothing is otherwise. -/
theorem createSequence_new {request : SequenceCreateRequest} {key : Option String}
    (hnew : truthy key = true → ∀ row ∈ w.store.sequences, row.idempotencyKey ≠ key) :
    createSequence rt request key w =
      let stored := insertSequence (request.row rt.now key)
        (stepRows request.steps w.store.sequences.length 1) w.store
      if stored.constraintsOk then .ok w.store.sequences.length { w with store := stored }
      else .error .integrityError w := by
  have hnone : (if truthy key = true then
      w.store.sequences.first? (·.idempotencyKey == key) else none) = none := by
    split
    · next htruthy =>
      apply Table.first?_none.mpr
      intro row hrow
      simpa using hnew htruthy row hrow
    · rfl
  unfold createSequence sessionScope flush
  simp only [Lib.sessionScope_run, Lib.bind_run, Lib.query_run, hnone, Lib.write_run,
    Lib.flush_run, Lib.pure_run]
  cases hvalid : (insertSequence (request.row rt.now key)
    (stepRows request.steps w.store.sequences.length 1) w.store).constraintsOk with
  | true => simp [hvalid]
  | false => simp

/-- An update that names the version it found is stored when the database takes it. -/
theorem updateSequence_found {request : SequenceUpdateRequest} {sequence : Sequence}
    (hsteps : request.steps = some steps) (hstored : w.store.sequences[q]? = some sequence)
    (hexpected : ∀ version, request.expectedVersion = some version →
      version = sequence.definitionVersion) :
    updateSequence rt q request w =
      let stored := reviseSequence q (request.apply rt.now sequence)
        (stepRows steps q (sequence.definitionVersion + 1)) w.store
      if stored.constraintsOk then
        .ok (some (request.apply rt.now sequence sequence)) { w with store := stored }
      else .error .integrityError w := by
  have hmatch : request.expectedVersion.any (· ≠ sequence.definitionVersion) = false := by
    cases hversion : request.expectedVersion with
    | none => rfl
    | some version => simp [hexpected version hversion]
  have hrevised : (reviseSequence q (request.apply rt.now sequence)
      (stepRows steps q (sequence.definitionVersion + 1)) w.store).sequences[q]? =
        some (request.apply rt.now sequence sequence) := by
    simp [reviseSequence, hstored]
  unfold updateSequence sessionScope flush
  simp only [Lib.sessionScope_run, Lib.bind_run, Lib.query_run, hstored, hmatch, hsteps,
    Bool.false_eq_true, and_false, if_false, Option.getD_some, Lib.write_run, Lib.flush_run]
  cases hvalid : (reviseSequence q (request.apply rt.now sequence)
    (stepRows steps q (sequence.definitionVersion + 1)) w.store).constraintsOk with
  | true => simp [hvalid, hrevised]
  | false => simp

/-- The steps are stored exactly when the database takes the definition. -/
theorem createsSteps_iff {request : SequenceCreateRequest} {key : Option String}
    (hnew : truthy key = true → ∀ row ∈ w.store.sequences, row.idempotencyKey ≠ key) :
    CreatesSteps rt request key w ↔
      (insertSequence (request.row rt.now key)
        (stepRows request.steps w.store.sequences.length 1) w.store).constraintsOk = true := by
  unfold CreatesSteps
  rw [createSequence_new hnew]
  constructor
  · rintro ⟨q, v, rows, hrun, -⟩
    by_contra hbroken
    simp [hbroken] at hrun
  · intro hvalid
    refine ⟨_, _, stepRows request.steps w.store.sequences.length 1, if_pos hvalid, rfl, ?_⟩
    exact stepRows_stored (Store.steps_unique hvalid)

theorem updatesSteps_iff {request : SequenceUpdateRequest} {sequence : Sequence}
    (hsteps : request.steps = some steps) (hstored : w.store.sequences[q]? = some sequence)
    (hexpected : ∀ version, request.expectedVersion = some version →
      version = sequence.definitionVersion) :
    UpdatesSteps rt q request steps w ↔
      (reviseSequence q (request.apply rt.now sequence)
        (stepRows steps q (sequence.definitionVersion + 1)) w.store).constraintsOk = true := by
  unfold UpdatesSteps
  rw [updateSequence_found hsteps hstored hexpected]
  constructor
  · rintro ⟨updated, v, rows, hrun, -⟩
    by_contra hbroken
    simp [hbroken] at hrun
  · intro hvalid
    refine ⟨_, _, stepRows steps q (sequence.definitionVersion + 1), if_pos hvalid, rfl, ?_⟩
    have hversion : (request.apply rt.now sequence sequence).definitionVersion =
        sequence.definitionVersion + 1 := by
      simp [SequenceUpdateRequest.apply, hsteps]
    rw [hversion]
    exact stepRows_stored (Store.steps_unique hvalid)

end Storing

section Definitions

variable [Casing]

/-- A definition is stored step by step exactly when no explicit order is the place of a
step without one and its texts and numbers fit their columns. -/
theorem step_orders_stored_iff {w : DbWorld} (hreach : DefinedByCalls w) (rt : Runtime)
    (steps : List SequenceStepCreate) (hdistinct : DistinctOrders steps) :
    (∀ (request : SequenceCreateRequest) (key : Option String), request.accepted = true →
        request.steps = steps →
        (truthy key = true → ∀ row ∈ w.store.sequences, row.idempotencyKey ≠ key) →
        (CreatesSteps rt request key w ↔
          PlacesFree steps ∧ NumbersFit steps ∧ fits? 128 request.ownerId = true ∧
            fits? 255 key = true ∧
            (key = some "" → ∀ row ∈ w.store.sequences, row.idempotencyKey ≠ some ""))) ∧
      ∀ (q : Id) (request : SequenceUpdateRequest) (sequence : Sequence),
        request.accepted = true → request.steps = some steps →
        w.store.sequences[q]? = some sequence →
        (∀ version, request.expectedVersion = some version →
          version = sequence.definitionVersion) →
        (UpdatesSteps rt q request steps w ↔
          PlacesFree steps ∧ NumbersFit steps ∧ fits? 128 request.ownerId = true ∧
            sequence.definitionVersion + 1 < 2 ^ 31) := by
  obtain ⟨hversioned, hvalid⟩ := hreach.versioned
  constructor
  · rintro request key haccepted rfl hnew
    simp only [SequenceCreateRequest.accepted, acceptedName, Bool.and_eq_true,
      List.all_eq_true] at haccepted
    obtain ⟨⟨⟨-, hname⟩, -⟩, hsteps⟩ := haccepted
    have hfits : (request.row rt.now key).fits = true ↔
        fits? 128 request.ownerId = true ∧ fits? 255 key = true := by
      simp only [Sequence.fits, SequenceCreateRequest.row, Bool.and_eq_true, hname, true_and,
        fitsInteger_natCast]
      simp
    have hkey : (∀ k, (request.row rt.now key).idempotencyKey = some k →
        ∀ old ∈ w.store.sequences, old.idempotencyKey ≠ some k) ↔
          (key = some "" → ∀ row ∈ w.store.sequences, row.idempotencyKey ≠ some "") := by
      constructor
      · intro hfree hblank
        exact hfree "" hblank
      · rintro hblank k (rfl : key = some k)
        by_cases hk : k = ""
        · subst hk
          exact hblank rfl
        · apply hnew
          simp [truthy, hk]
    rw [createsSteps_iff hnew, insertSequence_constraints hvalid, hkey, hfits,
      uniqueOn_append_stepRows hversioned.no_sequence, stepRows_distinct_iff hdistinct,
      stepRows_fit_iff hsteps (by norm_num)]
    have hunique := Store.steps_unique hvalid
    tauto
  · intro q request sequence haccepted hsteps hstored hexpected
    simp only [SequenceUpdateRequest.accepted, hsteps, Option.all_some, Bool.and_eq_true,
      List.all_eq_true] at haccepted
    obtain ⟨⟨hname, -⟩, -, hsteps'⟩ := haccepted
    have hold : sequence.fits = true := by
      have hall := (Store.definitions_fit hvalid).1
      rw [List.all_eq_true] at hall
      exact hall sequence (List.mem_of_getElem? hstored)
    have hfits : (request.apply rt.now sequence sequence).fits = true ↔
        fits? 128 request.ownerId = true ∧ sequence.definitionVersion + 1 < 2 ^ 31 := by
      simp only [Sequence.fits, Bool.and_eq_true] at hold
      have hname' : fits 255 (request.name.getD sequence.name) = true := by
        cases hcase : request.name with
        | none => exact hold.1.1.1
        | some name =>
          rw [hcase] at hname
          simp only [Option.all_some, acceptedName, Bool.and_eq_true] at hname
          exact hname.2
      have howner : fits? 128 (request.ownerId <|> sequence.ownerId) = true ↔
          fits? 128 request.ownerId = true := by
        cases request.ownerId with
        | none => simpa [fits?] using hold.1.1.2
        | some owner => rfl
      simp only [Sequence.fits, SequenceUpdateRequest.apply, hsteps, Option.isSome_some, if_true,
        Bool.and_eq_true, hname', true_and, howner, hold.1.2, and_true, fitsInteger_natCast]
    have hkey : ∀ row, (request.apply rt.now sequence row).idempotencyKey = row.idempotencyKey :=
      fun _ => rfl
    rw [updatesSteps_iff hsteps hstored hexpected,
      reviseSequence_constraints hvalid hstored hkey, hfits,
      uniqueOn_append_stepRows (hversioned.no_version hstored), stepRows_distinct_iff hdistinct]
    have hunique := Store.steps_unique hvalid
    constructor
    · rintro ⟨⟨howner, hversion⟩, ⟨-, hplaces⟩, hrows⟩
      exact ⟨hplaces, (stepRows_fit_iff hsteps' hversion).mp hrows, howner, hversion⟩
    · rintro ⟨hplaces, hnumbers, howner, hversion⟩
      exact ⟨⟨howner, hversion⟩, ⟨hunique, hplaces⟩, (stepRows_fit_iff hsteps' hversion).mpr hnumbers⟩

end Definitions

/-- A call without an order of its own. -/
def callStep : SequenceStepCreate where
  channel := .call

/-- Two calls, of which the first names an order. -/
def orderedCalls (order : Nat) : SequenceCreateRequest where
  name := "calls"
  steps := [{ callStep with stepOrder := some order }, callStep]

theorem deployment_defined : DefinedByCalls deployment :=
  ⟨deployment, [], deployment_initial, rfl, rfl, rfl⟩

theorem first_then_second :
    CreatesSteps { now := 0 } (orderedCalls 1) none deployment := by
  refine ((step_orders_stored_iff deployment_defined { now := 0 } (orderedCalls 1).steps ?_).1
    (orderedCalls 1) none (by decide +kernel) rfl (by simp [truthy])).mpr ⟨?_, ?_, rfl, rfl, ?_⟩
  · simp [DistinctOrders, orderedCalls, callStep]
  · intro i step hstep hnone other hother
    rcases i with _ | _ | i
    · cases hstep
      cases hnone
    · rcases List.mem_cons.mp hother with rfl | hlast
      · decide
      · rw [List.mem_singleton.mp hlast]
        decide
    · simp [orderedCalls] at hstep
  · intro i step hstep
    rcases i with _ | _ | i
    · cases hstep
      decide
    · cases hstep
      decide
    · simp [orderedCalls] at hstep
  · intro hkey
    cases hkey

/-- The first call asks for the place of the second, and the sequence is not created. -/
theorem second_place_taken :
    DefinedByCalls deployment ∧ (orderedCalls 2).accepted = true ∧
      DistinctOrders (orderedCalls 2).steps ∧
      ¬ CreatesSteps { now := 0 } (orderedCalls 2) none deployment := by
  refine ⟨deployment_defined, by decide +kernel, ?_, ?_⟩
  · simp [DistinctOrders, orderedCalls, callStep]
  · rw [createsSteps_iff (by simp [truthy])]
    decide +kernel

end GhostRecon
