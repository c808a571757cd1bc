import GhostRecon.CrmExports.Attempts

/-!
Whether processing a batch commits. A batch is completed exactly when each of
its pending items can be attempted and what the CRM answers fits the columns;
one item that cannot be planned rolls the whole batch back, the recorded
results of the items exported before it included.
-/

namespace GhostRecon

open Lib (Id Table query write perform)

section Items

variable {s : ExportStore} {b : Id}

theorem mem_batchItems {found : Id × CrmExportItem} :
    found ∈ batchItems s b ↔
      s.exportItems[found.1]? = some found.2 ∧ found.2.batchId = b := by
  unfold batchItems
  rw [List.mem_insertionSort, List.mem_map]
  constructor
  · rintro ⟨row, hrow, rfl⟩
    obtain ⟨hzip, hbatch⟩ := List.mem_filter.mp hrow
    exact ⟨List.mem_zipIdx_iff_getElem?.mp hzip, by simpa using hbatch⟩
  · rintro ⟨hstored, hbatch⟩
    refine ⟨found.swap, List.mem_filter.mpr ⟨?_, by simpa using hbatch⟩, Prod.swap_swap found⟩
    exact List.mem_zipIdx_iff_getElem?.mpr hstored

theorem batchItems_loaded : Loaded s b [] (batchItems s b) where
  stored := fun _ hfound => mem_batchItems.mp hfound
  fresh := fun _ _ => List.not_mem_nil
  nodup := by
    have hperm : (batchItems s b).Perm
        ((s.exportItems.zipIdx.filter fun row => row.1.batchId == b).map Prod.swap) :=
      List.perm_insertionSort _ _
    rw [(hperm.map Prod.fst).nodup_iff, List.map_map]
    have hpositions : (s.exportItems.zipIdx.map Prod.snd).Nodup := by
      rw [List.zipIdx_map_snd]
      exact List.nodup_range'
    exact hpositions.sublist ((List.filter_sublist).map Prod.snd)

/-- An item of the batch that waits to be processed. -/
structure Waits (s : ExportStore) (b i : Id) (item : CrmExportItem) : Prop where
  stored : s.exportItems[i]? = some item
  ofBatch : item.batchId = b
  pending : item.status = .pending

/-- The positions of the items of a batch. -/
def batchPositions (s : ExportStore) (b : Id) : List Id :=
  (batchItems s b).map Prod.fst

theorem mem_batchPositions {i : Id} :
    i ∈ batchPositions s b ↔ ∃ item, s.exportItems[i]? = some item ∧ item.batchId = b := by
  unfold batchPositions
  rw [List.mem_map]
  constructor
  · rintro ⟨found, hfound, rfl⟩
    exact ⟨found.2, mem_batchItems.mp hfound⟩
  · rintro ⟨item, hitem⟩
    exact ⟨(i, item), mem_batchItems.mpr hitem, rfl⟩

/-- The attempts at a batch so far. -/
def attempts (s : ExportStore) (b : Id) : Nat :=
  (s.exportItems.map fun row => if row.batchId = b then row.attemptCount else 0).sum

theorem attemptsOf_batchItems (s : ExportStore) (b : Id) :
    attemptsOf ((batchItems s b).map Prod.snd) = attempts s b := by
  have hperm : (batchItems s b).Perm
      ((s.exportItems.zipIdx.filter fun row => row.1.batchId == b).map Prod.swap) :=
    List.perm_insertionSort _ _
  have hrows : ((s.exportItems.zipIdx.filter fun row => row.1.batchId == b).map Prod.swap).map
      Prod.snd = s.exportItems.filter (·.batchId == b) := by
    rw [List.map_map]
    show (s.exportItems.zipIdx.filter ((·.batchId == b) ∘ Prod.fst)).map Prod.fst = _
    rw [← List.filter_map, List.zipIdx_map_fst]
  have hsum : ∀ rows : List CrmExportItem,
      ((rows.filter (·.batchId == b)).map (·.attemptCount)).sum =
        (rows.map fun row => if row.batchId = b then row.attemptCount else 0).sum := by
    intro rows
    induction rows with
    | nil => rfl
    | cons row rest ih =>
      by_cases hbatch : row.batchId = b
      · simp [hbatch, ih]
      · simp [hbatch, ih]
  unfold attemptsOf attempts
  rw [((hperm.map Prod.snd).map (·.attemptCount)).sum_eq, hrows, hsum]

end Items

section Worked

variable [Casing] {rt : ExportRuntime} {exporter : CrmExporter} {s₀ s : ExportStore} {b : Id}
  {done : List Id}

/-- The items, row by row. -/
theorem ItemsWorked.rows (h : ItemsWorked rt exporter s₀ done s) :
    s.exportItems = s₀.exportItems.zipIdx.map fun row =>
      if row.2 ∈ done then row.1.worked rt exporter s₀ else row.1 := by
  apply List.ext_getElem?
  intro i
  rw [h.items i, List.getElem?_map, List.getElem?_zipIdx, Option.map_map]
  simp [Function.comp_def]

theorem CrmExportItem.worked_same (row : CrmExportItem) :
    SameItem row (row.worked rt exporter s₀) := by
  unfold CrmExportItem.worked
  split
  · split
    · next a _ => exact a.record_same rt.now row
    · exact ⟨rfl, rfl, rfl⟩
  · exact ⟨rfl, rfl, rfl⟩

theorem CrmExportItem.worked_attemptCount (row : CrmExportItem) :
    row.attemptCount ≤ (row.worked rt exporter s₀).attemptCount := by
  unfold CrmExportItem.worked
  split
  · split
    · next a _ =>
      rw [a.record_attemptCount]
      exact Nat.le_succ _
    · exact Nat.le_refl _
  · exact Nat.le_refl _

/-- What identifies the items stays. -/
theorem ItemsWorked.itemKeys {κ : Type} (key : CrmExportItem → κ)
    (hkey : ∀ row row', SameItem row row' → key row' = key row)
    (h : ItemsWorked rt exporter s₀ done s) : s.exportItems.map key = s₀.exportItems.map key := by
  rw [h.rows, List.map_map]
  have hfirst : s₀.exportItems.map key = (s₀.exportItems.zipIdx.map Prod.fst).map key := by
    rw [List.zipIdx_map_fst]
  rw [hfirst, List.map_map]
  apply List.map_congr_left
  intro row _
  simp only [Function.comp_apply]
  split
  · exact hkey _ _ row.1.worked_same
  · rfl

theorem ItemsWorked.attempts_eq (h : ItemsWorked rt exporter s₀ done s) (b : Id) :
    attempts s b = (s₀.exportItems.zipIdx.map fun row =>
      if row.1.batchId = b then
        (if row.2 ∈ done then row.1.worked rt exporter s₀ else row.1).attemptCount
      else 0).sum := by
  unfold attempts
  rw [h.rows, List.map_map]
  congr 1
  apply List.map_congr_left
  intro row _
  have hbatch : (if row.2 ∈ done then row.1.worked rt exporter s₀ else row.1).batchId =
      row.1.batchId := by
    split
    · exact row.1.worked_same.batchId
    · rfl
  simp only [Function.comp_apply, hbatch]

omit [Casing] in
theorem attempts_zipIdx (s : ExportStore) (b : Id) :
    attempts s b = (s.exportItems.zipIdx.map fun row =>
      if row.1.batchId = b then row.1.attemptCount else 0).sum := by
  have hfirst : s.exportItems = s.exportItems.zipIdx.map Prod.fst := by
    rw [List.zipIdx_map_fst]
  unfold attempts
  conv_lhs => rw [hfirst, List.map_map]
  rfl

theorem ItemsWorked.row_attempts_le (row : CrmExportItem × Nat) :
    (if row.1.batchId = b then row.1.attemptCount else 0) ≤
      (if row.1.batchId = b then
        (if row.2 ∈ done then row.1.worked rt exporter s₀ else row.1).attemptCount
      else 0) := by
  split
  · split
    · exact row.1.worked_attemptCount
    · exact Nat.le_refl _
  · exact Nat.le_refl _

theorem ItemsWorked.attempts_le (h : ItemsWorked rt exporter s₀ done s) (b : Id) :
    attempts s₀ b ≤ attempts s b := by
  rw [h.attempts_eq b, attempts_zipIdx]
  exact List.sum_le_sum fun row _ => ItemsWorked.row_attempts_le row

/-- A pending item that was attempted counts. -/
theorem ItemsWorked.attempts_lt (h : ItemsWorked rt exporter s₀ done s) {i : Id}
    {item : CrmExportItem} (hitem : s₀.exportItems[i]? = some item) (hbatch : item.batchId = b)
    (hi : i ∈ done) (hpending : item.status = .pending) {a : Attempt}
    (hattempt : attempt rt exporter s₀ item = .ok a) : attempts s₀ b < attempts s b := by
  rw [h.attempts_eq b, attempts_zipIdx]
  apply List.sum_lt_sum _ _ fun row _ => ItemsWorked.row_attempts_le row
  refine ⟨(item, i), List.mem_zipIdx_iff_getElem?.mpr hitem, ?_⟩
  rw [if_pos hbatch, if_pos hbatch, if_pos hi, CrmExportItem.worked_of hpending hattempt,
    a.record_attemptCount]
  exact Nat.lt_succ_self _

end Worked

section Commit

variable [Casing] {rt : ExportRuntime} {exporter : CrmExporter} {s₀ s : ExportStore} {b : Id}
  {now : Time} {done : List Id}

/-- The batch has an item to process. -/
def HasPending (s : ExportStore) (b : Id) : Prop :=
  ∃ (i : Id) (item : CrmExportItem), s.exportItems[i]? = some item ∧ item.batchId = b ∧
    item.status = .pending

omit [Casing] in
/-- A key under which an attempt at an item or a processed batch is announced. -/
def OutboxKey.ofExport : OutboxKey → Bool
  | .counted name _ _ => decide (name ∈ [EventName.crmExportItemFailed, .crmExportItemSucceeded,
      .crmExportBatchCompleted])
  | _ => false

/-- The outbox keys of the exports count attempts that were made; a batch whose
completion is on record and that is open again has an item to process. -/
structure FreshKeys (s : ExportStore) : Prop where
  items : ∀ row ∈ s.outbox, ∀ name i n,
    name = .crmExportItemFailed ∨ name = .crmExportItemSucceeded →
    row.idempotencyKey = .counted name i n →
    ∃ item, s.exportItems[i]? = some item ∧ n ≤ item.attemptCount
  batches : ∀ row ∈ s.outbox, ∀ b n, row.idempotencyKey = .counted .crmExportBatchCompleted b n →
    ∃ batch, s.exportBatches[b]? = some batch ∧ n ≤ attempts s b ∧
      (batch.completedAt = none → HasPending s b)

omit [Casing] in
/-- A store whose targets and outbox were rewritten within their keys. -/
theorem Store.constraintsOk_rewrite {s : Store} {crmTargets : Table CrmTarget}
    {outbox : Table OutboxEvent} (h : s.constraintsOk = true)
    (htargets : crmTargets.uniqueOn (fun row => some row.idempotencyKey) =
      s.crmTargets.uniqueOn (fun row => some row.idempotencyKey))
    (houtbox : outbox.uniqueOn (fun row => some row.idempotencyKey) = true) :
    ({ s with crmTargets := crmTargets, outbox := outbox } : Store).constraintsOk = true := by
  simp only [Store.constraintsOk, Store.keysOk, Store.widthsOk, Bool.and_eq_true, htargets,
    houtbox, and_true] at h ⊢
  exact ⟨h.1.1, h.2⟩

omit [Casing] in
theorem completeBatch_outbox (now : Time) (b : Id) (s : ExportStore) :
    (completeBatch now b s).outbox = s.outbox ++ [{
      eventName := .crmExportBatchCompleted
      aggregateType := "crm_export_batch"
      aggregateId := b
      idempotencyKey := .counted .crmExportBatchCompleted b (attempts s b) }] := by
  rw [← attemptsOf_batchItems]
  rfl

omit [Casing] in
theorem completeBatch_completes (now : Time) {b : Id} {s : ExportStore} {batch : CrmExportBatch}
    (hbatch : s.exportBatches[b]? = some batch) :
    ∃ row, (completeBatch now b s).exportBatches[b]? = some row ∧ row.completedAt = some now := by
  have hrow : (completeBatch now b s).exportBatches[b]? = (s.exportBatches[b]?).map _ :=
    List.getElem?_modify_eq _ _ _
  rw [hbatch] at hrow
  exact ⟨_, hrow, rfl⟩

/-- The number the completion of a batch is announced under is not taken. -/
def Unannounced (s₀ s : ExportStore) (b : Id) : Prop :=
  attempts s₀ b < attempts s b ∨
    ∃ batch, s₀.exportBatches[b]? = some batch ∧ batch.completedAt = none ∧ ¬ HasPending s₀ b

/-- The rows the loop and the completion add to the outbox are new. -/
theorem ItemsWorked.outbox_unique (h : ItemsWorked rt exporter s₀ done s)
    (hold : s₀.outbox.uniqueOn (fun row => some row.idempotencyKey) = true)
    (hfresh : FreshKeys s₀) (hopen : Unannounced s₀ s b) :
    (completeBatch now b s).outbox.uniqueOn (fun row => some row.idempotencyKey) = true := by
  obtain ⟨more, hmore, hnodup, hkeys⟩ := h.outbox
  have hlater : ∀ row ∈ s₀.outbox, ∀ other ∈ more,
      row.idempotencyKey ≠ other.idempotencyKey := by
    intro row hrow other hother hsame
    obtain ⟨i, _, item, name, hitem, _, hname, hkey⟩ := hkeys other hother
    obtain ⟨item', hitem', hle⟩ := hfresh.items row hrow name i _ hname (hsame.trans hkey)
    obtain rfl : item' = item := Option.some.inj (hitem'.symm.trans hitem)
    exact absurd hle (Nat.not_succ_le_self _)
  have hlast : ∀ row ∈ s₀.outbox ++ more,
      row.idempotencyKey ≠ .counted .crmExportBatchCompleted b (attempts s b) := by
    intro row hrow hsame
    rcases List.mem_append.mp hrow with hfirst | hsecond
    · obtain ⟨batch, hbatch, hle, hpending⟩ := hfresh.batches row hfirst b _ hsame
      rcases hopen with hlt | ⟨batch', hbatch', hnone, hidle⟩
      · exact absurd hle (Nat.not_le.mpr hlt)
      · obtain rfl : batch = batch' := Option.some.inj (hbatch.symm.trans hbatch')
        exact hidle (hpending hnone)
    · obtain ⟨i, _, item, name, _, _, hname, hkey⟩ := hkeys row hsecond
      have hevent : name = .crmExportBatchCompleted :=
        (OutboxKey.counted.inj (hkey.symm.trans hsame)).1
      rcases hname with rfl | rfl <;> cases hevent
  have hboth : Table.uniqueOn (s₀.outbox ++ more) (fun row => some row.idempotencyKey) = true := by
    rw [Table.uniqueOn_iff, List.filterMap_eq_map'] at hold ⊢
    rw [List.map_append]
    refine List.nodup_append.mpr ⟨hold, hnodup, ?_⟩
    intro key hkey key' hkey' hsame
    obtain ⟨row, hrow, rfl⟩ := List.mem_map.mp hkey
    obtain ⟨other, hother, rfl⟩ := List.mem_map.mp hkey'
    exact hlater row hrow other hother hsame
  rw [completeBatch_outbox, hmore, Table.uniqueOn_concat]
  refine ⟨hboth, ?_⟩
  rintro key ⟨rfl⟩ row hrow hsame
  exact hlast row hrow (Option.some.inj hsame)

/-- The items fit their columns exactly when the answers do. -/
theorem ItemsWorked.fits_iff (h : ItemsWorked rt exporter s₀ done s)
    (hold : s₀.exportItems.all CrmExportItem.fits = true) :
    s.exportItems.all CrmExportItem.fits = true ↔
      ∀ i ∈ done, ∀ item a, s₀.exportItems[i]? = some item → item.status = .pending →
        attempt rt exporter s₀ item = .ok a → a.fits = true := by
  rw [List.all_eq_true] at hold ⊢
  constructor
  · intro hall i hi item a hitem hpending hattempt
    have hrow : s.exportItems[i]? = some (a.record rt.now item) := by
      rw [h.items i, hitem]
      simp [hi, CrmExportItem.worked_of hpending hattempt]
    rw [← a.record_fits rt.now item (hold item (List.mem_of_getElem? hitem))]
    exact hall _ (List.mem_of_getElem? hrow)
  · intro hanswers row hrow
    obtain ⟨i, hstored⟩ := List.getElem?_of_mem hrow
    rw [h.items i] at hstored
    obtain ⟨item, hitem, rfl⟩ := Option.map_eq_some_iff.mp hstored
    have hfits := hold item (List.mem_of_getElem? hitem)
    split
    · next hi =>
      by_cases hpending : item.status = .pending
      · cases hattempt : attempt rt exporter s₀ item with
        | ok a =>
          rw [CrmExportItem.worked_of hpending hattempt, a.record_fits rt.now item hfits]
          exact hanswers i hi item a hitem hpending hattempt
        | error message => simpa [CrmExportItem.worked, hpending, hattempt] using hfits
      · rw [CrmExportItem.worked_idle hpending]
        exact hfits
    · exact hfits

/-- After the loop the database accepts the completed batch exactly when it
accepts what the CRM answered. -/
theorem ItemsWorked.constraintsOk_iff (h : ItemsWorked rt exporter s₀ done s)
    (hok : s₀.constraintsOk = true) (hfresh : FreshKeys s₀) (hopen : Unannounced s₀ s b) :
    (completeBatch now b s).constraintsOk = true ↔
      ∀ i ∈ done, ∀ item a, s₀.exportItems[i]? = some item → item.status = .pending →
        attempt rt exporter s₀ item = .ok a → a.fits = true := by
  simp only [ExportStore.constraintsOk, Bool.and_eq_true] at hok
  obtain ⟨⟨⟨⟨⟨hshared, hbatches⟩, htargets⟩, huuids⟩, hbatchFits⟩, hitemFits⟩ := hok
  have houtbox : s₀.outbox.uniqueOn (fun row => some row.idempotencyKey) = true := by
    simp only [Store.constraintsOk, Store.keysOk, Bool.and_eq_true] at hshared
    exact hshared.1.2
  have hstore : (completeBatch now b s).toStore = { s₀.toStore with
      crmTargets := s.crmTargets
      outbox := (completeBatch now b s).outbox } := by
    rw [h.frame]
    rfl
  have hshared' : (completeBatch now b s).toStore.constraintsOk = true := by
    rw [hstore]
    exact Store.constraintsOk_rewrite hshared h.targetKeys (h.outbox_unique houtbox hfresh hopen)
  have hframe : s.exportBatches = s₀.exportBatches := by
    rw [h.frame]
  have hbatches' : (completeBatch now b s).exportBatches.uniqueOn
      (fun row => some row.idempotencyKey) = true := by
    rw [← hbatches, ← hframe]
    exact Table.uniqueOn_modify fun _ => rfl
  have hbatchFits' : (completeBatch now b s).exportBatches.all CrmExportBatch.fits = true := by
    rw [← hbatchFits, ← hframe]
    exact Table.all_modify fun _ => rfl
  have htargets' : s.exportItems.uniqueOn (fun row => some (row.batchId, row.crmTargetId)) =
      true := by
    have hpairs := h.itemKeys (fun row => (row.batchId, row.crmTargetId)) fun row row' hsame => by
      rw [hsame.batchId, hsame.crmTargetId]
    rw [Table.uniqueOn_iff, List.filterMap_eq_map'] at htargets ⊢
    rw [hpairs]
    exact htargets
  have huuids' : s.exportItems.uniqueOn (fun row => some row.uuid) = true := by
    have hnumbers := h.itemKeys (·.uuid) fun row row' hsame => hsame.uuid
    rw [Table.uniqueOn_iff, List.filterMap_eq_map'] at huuids ⊢
    rw [hnumbers]
    exact huuids
  have hitems : (completeBatch now b s).exportItems = s.exportItems := rfl
  rw [← h.fits_iff hitemFits]
  simp only [ExportStore.constraintsOk, Bool.and_eq_true, hshared', hbatches', hbatchFits', hitems,
    htargets', huuids', true_and]

end Commit

section Planned

variable [Casing] {rt : ExportRuntime} {exporter : CrmExporter} {s : ExportStore}

/-- The type of the target is known and the record it stands for exists. -/
def CrmTarget.represented (s : ExportStore) (target : CrmTarget) : Bool :=
  let targetType := normalizeTargetType target.targetType
  if targetType = "cyber_event" then (s.cyberEvents[target.targetId]?).isSome
  else if targetType = "security_incident" then (s.securityIncidents[target.targetId]?).isSome
  else if targetType = "company" then (s.accounts[target.targetId]?).isSome
  else if targetType = "email_candidate" then (s.emailCandidates[target.targetId]?).isSome
  else if targetType = "contact" then (s.contacts[target.targetId]?).isSome
  else if targetType = "event_participant" then (s.participants[target.targetId]?).isSome
  else false

/-- The client answers, and the answer fits the columns of an item. -/
def answerFits : Except PyError (Except CrmProviderError CrmExportResult) → Bool
  | .error _ => false
  | .ok (.error error) => error.retryAfterSeconds.all fitsInteger
  | .ok (.ok result) =>
    fits? 255 result.providerRecordId && fits? 255 result.providerListId &&
      fits? 255 result.providerListEntryId

/-- The target of the item, if there is one, can be planned and the answer to
its plan stored. -/
def CrmExportItem.Processable (rt : ExportRuntime) (exporter : CrmExporter) (s : ExportStore)
    (item : CrmExportItem) : Prop :=
  ∀ target, s.crmTargets[item.crmTargetId]? = some target → target.represented s = true ∧
    ∀ plan, planForTarget rt.crm s item.crmTargetId target = .ok plan →
      answerFits (exporter plan) = true

omit [Casing] in
/-- A person's record is read exactly when it exists. -/
theorem personRecord_raises (settings : CrmSettings) (target : CrmTarget) :
    (∃ message, personRecord settings s target = .error (.valueError message)) ↔
      (if normalizeTargetType target.targetType = "email_candidate" then
          (s.emailCandidates[target.targetId]?).isSome
        else if normalizeTargetType target.targetType = "contact" then
          (s.contacts[target.targetId]?).isSome
        else if normalizeTargetType target.targetType = "event_participant" then
          (s.participants[target.targetId]?).isSome
        else false) = false := by
  unfold personRecord
  dsimp only
  split
  · cases s.emailCandidates[target.targetId]? with
    | none => simp
    | some candidate =>
      dsimp only
      split <;> simp
  · split
    · cases s.contacts[target.targetId]? with
      | none => simp
      | some contact =>
        dsimp only
        split <;> simp
    · split
      · cases s.participants[target.targetId]? with
        | none => simp
        | some participant =>
          dsimp only
          split <;> simp
      · simp

theorem personPlan_raises (settings : CrmSettings) (id : Id) (target : CrmTarget) :
    (∃ message, personPlan settings s id target = .error (.valueError message)) ↔
      ∃ message, personRecord settings s target = .error (.valueError message) := by
  unfold personPlan
  cases personRecord settings s target with
  | error e =>
    show (∃ message, Except.error e = _) ↔ _
    simp
  | ok person =>
    show (∃ message, Except.ok _ = _) ↔ _
    simp

/-- Planning raises exactly for a target that stands for nothing. -/
theorem planForTarget_raises (settings : CrmSettings) (id : Id) (target : CrmTarget) :
    (∃ message, planForTarget settings s id target = .error (.valueError message)) ↔
      target.represented s = false := by
  unfold planForTarget CrmTarget.represented
  dsimp only
  split
  · cases s.cyberEvents[target.targetId]? <;> simp
  · split
    · cases s.securityIncidents[target.targetId]? <;> simp
    · split
      · cases s.accounts[target.targetId]? with
        | none => simp
        | some account =>
          dsimp only
          split <;> simp
      · split
        · rw [personPlan_raises, personRecord_raises]
        · next hother =>
          simp only [personTypes, List.mem_cons, not_or] at hother
          obtain ⟨hcontact, hcandidate, hparticipant, -⟩ := hother
          simp [hcontact, hcandidate, hparticipant]

/-- An item that can be processed is attempted, and the attempt stored. -/
theorem CrmExportItem.processable_iff (item : CrmExportItem) :
    item.Processable rt exporter s ↔
      ∃ a, attempt rt exporter s item = .ok a ∧ a.fits = true := by
  unfold CrmExportItem.Processable attempt
  cases s.crmTargets[item.crmTargetId]? with
  | none => simp [Attempt.fits]
  | some target =>
    have hraises := planForTarget_raises (s := s) rt.crm item.crmTargetId target
    simp only [Option.some.injEq, forall_eq']
    cases hplan : planForTarget rt.crm s item.crmTargetId target with
    | error e =>
      cases e with
      | valueError message =>
        rw [hplan] at hraises
        simpa using hraises.mp ⟨message, rfl⟩
      | policySkip message =>
        rw [hplan] at hraises
        have hrepresented : target.represented s = true := by
          rw [← Bool.not_eq_false, ← hraises]
          simp
        simp [hrepresented, Attempt.fits]
    | ok plan =>
      rw [hplan] at hraises
      have hrepresented : target.represented s = true := by
        rw [← Bool.not_eq_false, ← hraises]
        simp
      simp only [hrepresented, true_and, Except.ok.injEq, forall_eq']
      cases exporter plan with
      | error e => simp [answerFits]
      | ok answer => cases answer <;> simp [Attempt.fits, answerFits]

end Planned

section Batches

variable [Casing] {rt : ExportRuntime} {exporter : CrmExporter} {w : ExportWorld} {b : Id}
  {batch : CrmExportBatch}

/-- Every pending item of the batch can be attempted and the answer stored. -/
def BatchSettles (rt : ExportRuntime) (exporter : CrmExporter) (s : ExportStore) (b : Id) : Prop :=
  ∀ (i : Id) (item : CrmExportItem), s.exportItems[i]? = some item → item.batchId = b →
    item.status = .pending → ∃ a, attempt rt exporter s item = .ok a ∧ a.fits = true

omit [Casing] in
theorem hasPending_iff {s : ExportStore} :
    ((batchItems s b).any fun item => item.2.status == .pending) = true ↔ HasPending s b := by
  rw [List.any_eq_true]
  constructor
  · rintro ⟨found, hfound, hpending⟩
    obtain ⟨hstored, hbatch⟩ := mem_batchItems.mp hfound
    exact ⟨found.1, found.2, hstored, hbatch, by simpa using hpending⟩
  · rintro ⟨i, item, hstored, hbatch, hpending⟩
    exact ⟨(i, item), mem_batchItems.mpr ⟨hstored, hbatch⟩, by simpa using hpending⟩

/-- A completed batch without pending items is left alone. -/
theorem processBatch_idle (hbatch : w.store.exportBatches[b]? = some batch)
    (hok : w.store.constraintsOk = true) (hdone : batch.completedAt.isSome = true)
    (hidle : ¬ HasPending w.store b) : processBatch rt exporter b w = .ok b w := by
  have hnone : ((batchItems w.store b).any fun item => item.2.status == .pending) = false := by
    rw [← Bool.not_eq_true, hasPending_iff]
    exact hidle
  have hidle' : batch.completedAt.isSome = true ∧
      ¬ ((batchItems w.store b).any fun item => item.2.status == .pending) = true :=
    ⟨hdone, by simp [hnone]⟩
  unfold processBatch exportScope
  rw [Lib.sessionScope_run]
  simp only [Lib.bind_run, Lib.query_run, hbatch, if_pos hidle', Lib.pure_run, hok, if_true]

/-- The transaction over a batch that is worked off. -/
theorem processBatch_run (hbatch : w.store.exportBatches[b]? = some batch)
    (hopen : batch.completedAt = none ∨ HasPending w.store b) :
    processBatch rt exporter b w =
      match processItems rt exporter (batchItems w.store b) w with
      | .ok _ v =>
        if (completeBatch rt.now b v.store).constraintsOk then
          .ok b ⟨completeBatch rt.now b v.store, v.external⟩
        else .error .integrityError ⟨w.store, v.external⟩
      | .error e v => .error e ⟨w.store, v.external⟩ := by
  have hwork : ¬ (batch.completedAt.isSome = true ∧
      ¬ ((batchItems w.store b).any fun item => item.2.status == .pending) = true) := by
    rintro ⟨hdone, hidle⟩
    rcases hopen with hnone | hpending
    · simp [hnone] at hdone
    · exact hidle (hasPending_iff.mpr hpending)
  unfold processBatch exportScope
  rw [Lib.sessionScope_run]
  simp only [Lib.bind_run, Lib.query_run, hbatch, if_neg hwork]
  cases processItems rt exporter (batchItems w.store b) w with
  | ok _ v => simp only [Lib.write_run, Lib.pure_run]
  | error e v => rfl

omit [Casing] in
theorem ofBatch_positions (s : ExportStore) (b : Id) : OfBatch s b (batchPositions s b) :=
  fun _ hi => mem_batchPositions.mp hi

/-- What the completion of a batch is announced under is not taken. -/
theorem ItemsWorked.unannounced {s₀ s : ExportStore}
    (h : ItemsWorked rt exporter s₀ (batchPositions s₀ b) s)
    (hbatch : s₀.exportBatches[b]? = some batch)
    (hopen : batch.completedAt = none ∨ HasPending s₀ b)
    (hall : ∀ (i : Id) (item : CrmExportItem), s₀.exportItems[i]? = some item →
      item.batchId = b → item.status = .pending → ∃ a, attempt rt exporter s₀ item = .ok a) :
    Unannounced s₀ s b := by
  by_cases hpending : HasPending s₀ b
  · obtain ⟨i, item, hitem, hof, hstatus⟩ := hpending
    obtain ⟨a, hattempt⟩ := hall i item hitem hof hstatus
    exact Or.inl (h.attempts_lt hitem hof (mem_batchPositions.mpr ⟨item, hitem, hof⟩) hstatus
      hattempt)
  · exact Or.inr ⟨batch, hbatch, hopen.resolve_right hpending, hpending⟩

/-- The items of a batch, all attempted. -/
theorem processItems_worksOff (hok : w.store.constraintsOk = true)
    (hall : ∀ (i : Id) (item : CrmExportItem), w.store.exportItems[i]? = some item →
      item.batchId = b → item.status = .pending →
      ∃ a, attempt rt exporter w.store item = .ok a) :
    ∃ v, processItems rt exporter (batchItems w.store b) w = .ok ⟨⟩ v ∧
      ItemsWorked rt exporter w.store (batchPositions w.store b) v.store ∧
      v.external.exports =
        w.external.exports ++ loopCalls rt exporter w.store (batchItems w.store b) := by
  have hstart : ItemsWorked rt exporter w.store [] w.store := .start
  have hnothing : OfBatch w.store b [] := fun i hi => by cases hi
  obtain ⟨v, hrun, hv, hcalls⟩ := loop_worksOff (distinctTargets_of hok b) (batchItems w.store b)
    hstart hnothing batchItems_loaded fun found hfound hpending => by
      obtain ⟨hstored, hof⟩ := mem_batchItems.mp hfound
      exact hall found.1 found.2 hstored hof hpending
  exact ⟨v, hrun, by simpa [batchPositions] using hv, hcalls⟩

/-- A batch whose pending items settle is completed. -/
theorem processBatch_completes (hbatch : w.store.exportBatches[b]? = some batch)
    (hok : w.store.constraintsOk = true) (hfresh : FreshKeys w.store)
    (hopen : batch.completedAt = none ∨ HasPending w.store b)
    (hsettles : BatchSettles rt exporter w.store b) :
    ∃ v : ExportWorld, processBatch rt exporter b w =
        .ok b ⟨completeBatch rt.now b v.store, v.external⟩ ∧
      (completeBatch rt.now b v.store).constraintsOk = true ∧
      ItemsWorked rt exporter w.store (batchPositions w.store b) v.store ∧
      v.external.exports =
        w.external.exports ++ loopCalls rt exporter w.store (batchItems w.store b) := by
  have hall : ∀ (i : Id) (item : CrmExportItem), w.store.exportItems[i]? = some item →
      item.batchId = b → item.status = .pending →
      ∃ a, attempt rt exporter w.store item = .ok a := by
    intro i item hitem hof hpending
    obtain ⟨a, hattempt, -⟩ := hsettles i item hitem hof hpending
    exact ⟨a, hattempt⟩
  obtain ⟨v, hrun, hv, hcalls⟩ := processItems_worksOff hok hall
  have hvalid : (completeBatch rt.now b v.store).constraintsOk = true := by
    rw [hv.constraintsOk_iff hok hfresh (hv.unannounced hbatch hopen hall)]
    intro i hi item a hitem hpending hattempt
    obtain ⟨item', hitem', hof⟩ := mem_batchPositions.mp hi
    obtain rfl : item = item' := Option.some.inj (hitem.symm.trans hitem')
    obtain ⟨a', hattempt', hfits⟩ := hsettles i item hitem hof hpending
    obtain rfl : a' = a := Except.ok.inj (hattempt'.symm.trans hattempt)
    exact hfits
  refine ⟨v, ?_, hvalid, hv, hcalls⟩
  rw [processBatch_run hbatch hopen, hrun]
  simp only [hvalid, if_true]

/-- The loop over the items of a batch when one of them raises. -/
theorem processItems_raises (hok : w.store.constraintsOk = true)
    (hbad : ∃ found ∈ batchItems w.store b, found.2.raises rt exporter w.store = true) :
    ∃ e v, processItems rt exporter (batchItems w.store b) w = .error e v ∧
      v.external.exports = w.external.exports ++
        loopCalls rt exporter w.store (reached rt exporter w.store (batchItems w.store b)) := by
  have hstart : ItemsWorked rt exporter w.store [] w.store := .start
  have hnothing : OfBatch w.store b [] := fun i hi => by cases hi
  exact loop_raises (distinctTargets_of hok b) (batchItems w.store b) hstart hnothing
    batchItems_loaded hbad

/-- Where no item of a batch raises, each that is pending is attempted. -/
theorem attempted_of_no_raise {s : ExportStore}
    (h : ∀ found ∈ batchItems s b, found.2.raises rt exporter s = false) (i : Id)
    (item : CrmExportItem) (hitem : s.exportItems[i]? = some item) (hof : item.batchId = b)
    (hpending : item.status = .pending) : ∃ a, attempt rt exporter s item = .ok a := by
  cases hattempt : attempt rt exporter s item with
  | ok a => exact ⟨a, rfl⟩
  | error e =>
    have hraises := CrmExportItem.raises_iff.mpr ⟨hpending, e, hattempt⟩
    rw [h (i, item) (mem_batchItems.mpr ⟨hitem, hof⟩)] at hraises
    cases hraises

/-- What the CRM is asked for an open batch, whether it commits or not. -/
theorem processBatch_calls_open (hbatch : w.store.exportBatches[b]? = some batch)
    (hok : w.store.constraintsOk = true)
    (hopen : batch.completedAt = none ∨ HasPending w.store b) :
    (Lib.after (processBatch rt exporter b) w).external.exports = w.external.exports ++
      loopCalls rt exporter w.store (reached rt exporter w.store (batchItems w.store b)) := by
  unfold Lib.after
  rw [processBatch_run hbatch hopen]
  by_cases hbad : ∃ found ∈ batchItems w.store b, found.2.raises rt exporter w.store = true
  · obtain ⟨e, v, hrun, hcalls⟩ := processItems_raises hok hbad
    rw [hrun]
    exact hcalls
  · have hclear : ∀ found ∈ batchItems w.store b, found.2.raises rt exporter w.store = false := by
      intro found hfound
      rw [← Bool.not_eq_true]
      exact fun hraises => hbad ⟨found, hfound, hraises⟩
    obtain ⟨v, hrun, -, hcalls⟩ := processItems_worksOff hok (attempted_of_no_raise hclear)
    have hreached : reached rt exporter w.store (batchItems w.store b) = batchItems w.store b :=
      Lib.upToFirst_eq_self hclear
    rw [hrun, hreached]
    cases hvalid : (completeBatch rt.now b v.store).constraintsOk with
    | true =>
      simp only [hvalid, if_true]
      exact hcalls
    | false =>
      simp only [hvalid, Bool.false_eq_true, if_false]
      exact hcalls

/-- What the CRM is asked for a stored batch. -/
theorem processBatch_calls (hbatch : w.store.exportBatches[b]? = some batch)
    (hok : w.store.constraintsOk = true) :
    (Lib.after (processBatch rt exporter b) w).external.exports = w.external.exports ++
      loopCalls rt exporter w.store (reached rt exporter w.store (batchItems w.store b)) := by
  by_cases hopen : batch.completedAt = none ∨ HasPending w.store b
  · exact processBatch_calls_open hbatch hok hopen
  · rw [not_or] at hopen
    have hdone : batch.completedAt.isSome = true := Option.isSome_iff_ne_none.mpr hopen.1
    have hnone : loopCalls rt exporter w.store
        (reached rt exporter w.store (batchItems w.store b)) = [] := by
      unfold loopCalls
      rw [List.flatMap_eq_nil_iff]
      intro found hfound
      obtain ⟨hstored, hof⟩ := mem_batchItems.mp ((Lib.upToFirst_sublist _ _).subset hfound)
      rw [if_neg]
      intro hpending
      exact hopen.2 ⟨found.1, found.2, hstored, hof, hpending⟩
    unfold Lib.after
    rw [processBatch_idle hbatch hok hdone hopen.2, hnone, List.append_nil]

/-- One pending item that does not settle rolls the whole batch back. -/
theorem processBatch_rolls_back (hbatch : w.store.exportBatches[b]? = some batch)
    (hok : w.store.constraintsOk = true) (hfresh : FreshKeys w.store)
    (hbad : ¬ BatchSettles rt exporter w.store b) :
    ∃ e v, processBatch rt exporter b w = .error e v ∧ v.store = w.store := by
  unfold BatchSettles at hbad
  push Not at hbad
  obtain ⟨i, item, hitem, hof, hpending, hunsettled⟩ := hbad
  have hopen : batch.completedAt = none ∨ HasPending w.store b :=
    Or.inr ⟨i, item, hitem, hof, hpending⟩
  rw [processBatch_run hbatch hopen]
  by_cases hraises : ∃ found ∈ batchItems w.store b, found.2.raises rt exporter w.store = true
  · obtain ⟨e, v, hrun, -⟩ := processItems_raises hok hraises
    rw [hrun]
    exact ⟨_, _, rfl, rfl⟩
  · have hclear : ∀ found ∈ batchItems w.store b, found.2.raises rt exporter w.store = false := by
      intro found hfound
      rw [← Bool.not_eq_true]
      exact fun h => hraises ⟨found, hfound, h⟩
    have hall := attempted_of_no_raise hclear
    obtain ⟨v, hrun, hv, -⟩ := processItems_worksOff hok hall
    obtain ⟨a, hattempt⟩ := hall i item hitem hof hpending
    have hinvalid : ¬ (completeBatch rt.now b v.store).constraintsOk = true := by
      rw [hv.constraintsOk_iff hok hfresh (hv.unannounced hbatch hopen hall)]
      intro hanswers
      exact hunsettled a hattempt (hanswers i (mem_batchPositions.mpr ⟨item, hitem, hof⟩) item a
        hitem hpending hattempt)
    rw [hrun]
    simp only [if_neg hinvalid]
    exact ⟨_, _, rfl, rfl⟩

end Batches

end GhostRecon
