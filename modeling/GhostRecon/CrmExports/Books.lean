import GhostRecon.CrmExports.Finishing

/-!
The books of the exports. A batch holds one item for each target it was asked for, at all
times; once it is completed its status and its counts are those of its items, and none of
them waits. An item that succeeded names the record the CRM answered with, an item that
failed names its error. No start, retry, processing or update, and no client, breaks this.
-/

namespace GhostRecon

open Lib (Id Table after)

/-- Two lists whose rows that pass a test are the same, place by place. -/
theorem filter_zipIdx_congr {α : Type} {p : α → Bool} :
    ∀ (xs ys : List α) (n : Nat), (∀ i : Nat, (xs[i]?).filter p = (ys[i]?).filter p) →
      (xs.zipIdx n).filter (fun row => p row.1) = (ys.zipIdx n).filter (fun row => p row.1)
  | [], [], _, _ => rfl
  | [], y :: ys, n, h => by
    have hy : p y = false := by simpa [Option.filter] using (h 0).symm
    have hrest := filter_zipIdx_congr [] ys (n + 1) fun i => by
      simpa using h (i + 1)
    rw [List.zipIdx_cons, List.filter_cons_of_neg (by simp [hy]), ← hrest]
    rfl
  | x :: xs, [], n, h => by
    have hx : p x = false := by simpa [Option.filter] using h 0
    have hrest := filter_zipIdx_congr xs [] (n + 1) fun i => by
      simpa using h (i + 1)
    rw [List.zipIdx_cons, List.filter_cons_of_neg (by simp [hx]), hrest]
    rfl
  | x :: xs, y :: ys, n, h => by
    have hrest := filter_zipIdx_congr xs ys (n + 1) fun i => by
      simpa using h (i + 1)
    have hfirst : (some x).filter p = (some y).filter p := h 0
    rw [List.zipIdx_cons, List.zipIdx_cons, List.filter_cons, List.filter_cons, hrest]
    simp only [Option.filter_some] at hfirst
    cases hx : p x <;> cases hy : p y
    · rfl
    · simp [hx, hy] at hfirst
    · simp [hx, hy] at hfirst
    · obtain rfl : x = y := by simpa [hx, hy] using hfirst
      rfl

section Counts

theorem ExportItemStatus.value_injective {a b : ExportItemStatus} (h : a.value = b.value) :
    a = b := by
  cases a <;> cases b <;> first | rfl | (simp only [ExportItemStatus.value] at h; simp at h)

theorem ExportItemStatus.value_ne_total (a : ExportItemStatus) : a.value ≠ "total" := by
  cases a <;> simp [ExportItemStatus.value]

/-- One more entry under a key. -/
def countOne (counts : List (String × Nat)) (key : String) : List (String × Nat) :=
  if (counts.lookup key).isSome then
    counts.map fun entry => if entry.1 = key then (entry.1, entry.2 + 1) else entry
  else counts ++ [(key, 1)]

theorem lookup_countOne_self (counts : List (String × Nat)) (key : String) :
    (countOne counts key).lookup key = some ((counts.lookup key).getD 0 + 1) := by
  unfold countOne
  split
  · next hsome =>
    induction counts with
    | nil => cases hsome
    | cons entry rest ih =>
      obtain ⟨name, count⟩ := entry
      rw [List.map_cons]
      by_cases hname : name = key
      · subst hname
        rw [if_pos rfl, List.lookup_cons_self, List.lookup_cons_self]
        rfl
      · have hother : (key == name) = false := by simpa using fun h : key = name => hname h.symm
        rw [List.lookup_cons, hother] at hsome
        rw [if_neg hname, List.lookup_cons, List.lookup_cons, hother]
        exact ih hsome
  · next hnone =>
    have hmissing : counts.lookup key = none := Option.not_isSome_iff_eq_none.mp hnone
    rw [List.lookup_append, hmissing, List.lookup_cons_self]
    rfl

theorem lookup_countOne_of_ne (counts : List (String × Nat)) {key other : String}
    (h : other ≠ key) : (countOne counts key).lookup other = counts.lookup other := by
  unfold countOne
  split
  · clear * - h
    induction counts with
    | nil => rfl
    | cons entry rest ih =>
      obtain ⟨name, count⟩ := entry
      have hkept : (if name = key then (name, count + 1) else (name, count)) =
          (name, if name = key then count + 1 else count) := by
        split <;> rfl
      rw [List.map_cons, hkept, List.lookup_cons, List.lookup_cons, ih]
      by_cases hname : name = key
      · have hother : (other == name) = false := by simpa [hname] using h
        rw [hother]
      · rw [if_neg hname]
  · have hother : (other == key) = false := by simpa using h
    rw [List.lookup_append, List.lookup_cons, hother]
    exact Option.or_none

theorem countItems_eq (items : List CrmExportItem) :
    countItems items =
      items.foldl (fun counts item => countOne counts item.status.value)
        [("total", items.length)] :=
  rfl

theorem lookup_foldl_countOne (items : List CrmExportItem) (counts : List (String × Nat))
    (status : ExportItemStatus) :
    ((items.foldl (fun counts item => countOne counts item.status.value) counts).lookup
      status.value).getD 0 =
        (counts.lookup status.value).getD 0 + items.countP (·.status == status) := by
  induction items generalizing counts with
  | nil => rfl
  | cons item rest ih =>
    rw [List.foldl_cons, ih]
    by_cases hstatus : item.status = status
    · subst hstatus
      rw [lookup_countOne_self, List.countP_cons_of_pos (by simp)]
      simp only [Option.getD_some]
      omega
    · have hvalue : status.value ≠ item.status.value := fun h =>
        hstatus (ExportItemStatus.value_injective h.symm)
      rw [lookup_countOne_of_ne _ hvalue, List.countP_cons_of_neg (by simpa using hstatus)]

theorem lookup_total_foldl_countOne (items : List CrmExportItem) (counts : List (String × Nat)) :
    (items.foldl (fun counts item => countOne counts item.status.value) counts).lookup "total" =
      counts.lookup "total" := by
  induction items generalizing counts with
  | nil => rfl
  | cons item rest ih =>
    rw [List.foldl_cons, ih]
    exact lookup_countOne_of_ne _ item.status.value_ne_total.symm

/-- The counts of a batch: all of its items, and those of each status. -/
theorem countItems_counts (items : List CrmExportItem) :
    (countItems items).lookup "total" = some items.length ∧
      ∀ status : ExportItemStatus, ((countItems items).lookup status.value).getD 0 =
        items.countP (·.status == status) := by
  rw [countItems_eq]
  constructor
  · rw [lookup_total_foldl_countOne]
    rfl
  · intro status
    have hvalue : (status.value == "total") = false := by simpa using status.value_ne_total
    rw [lookup_foldl_countOne, List.lookup_cons, hvalue]
    simp

end Counts

section Targets

variable [Casing] {rt : ExportRuntime} {exporter : CrmExporter} {s s' : ExportStore} {b : Id}

/-- The targets of the items of a batch. -/
def batchTargets (s : ExportStore) (b : Id) : List Id :=
  (s.exportItems.filter (·.batchId == b)).map (·.crmTargetId)

omit [Casing] in
theorem batchItems_targets (s : ExportStore) (b : Id) :
    (((batchItems s b).map Prod.snd).map (·.crmTargetId)).Perm (batchTargets s b) := by
  have hperm : (batchItems s b).Perm
      ((s.exportItems.zipIdx.filter fun row => row.1.batchId == b).map Prod.swap) :=
    List.perm_insertionSort _ _
  have hrows : ((s.exportItems.zipIdx.filter fun row => row.1.batchId == b).map Prod.swap).map
      Prod.snd = s.exportItems.filter (·.batchId == b) := by
    rw [List.map_map]
    show (s.exportItems.zipIdx.filter ((·.batchId == b) ∘ Prod.fst)).map Prod.fst = _
    rw [← List.filter_map, List.zipIdx_map_fst]
  have hsnd := hperm.map Prod.snd
  rw [hrows] at hsnd
  exact hsnd.map (·.crmTargetId)

omit [Casing] in
/-- The targets of a batch are a matter of what identifies the items. -/
theorem batchTargets_congr
    (h : s'.exportItems.map (fun row => (row.batchId, row.crmTargetId)) =
      s.exportItems.map fun row => (row.batchId, row.crmTargetId)) (b : Id) :
    batchTargets s' b = batchTargets s b := by
  have hpairs : ∀ rows : List CrmExportItem, (rows.filter (·.batchId == b)).map (·.crmTargetId) =
      ((rows.map fun row => (row.batchId, row.crmTargetId)).filter (·.1 == b)).map Prod.snd := by
    intro rows
    rw [List.filter_map, List.map_map]
    rfl
  unfold batchTargets
  rw [hpairs, hpairs, h]

omit [Casing] in
/-- The items of a batch whose rows nobody touched. -/
theorem batchItems_congr (h : ∀ i : Nat, (s'.exportItems[i]?).filter (·.batchId == b) =
    (s.exportItems[i]?).filter (·.batchId == b)) : batchItems s' b = batchItems s b := by
  unfold batchItems
  rw [filter_zipIdx_congr _ _ 0 h]

omit [Casing] in
theorem uniqueOrdered_nodup (values : List Id) : (uniqueOrdered values).Nodup := by
  have hkept : ∀ (rest ordered : List Id), ordered.Nodup →
      (rest.foldl (fun ordered value =>
        if value ∈ ordered then ordered else ordered ++ [value]) ordered).Nodup := by
    intro rest
    induction rest with
    | nil => exact fun ordered h => h
    | cons value rest ih =>
      intro ordered h
      apply ih
      dsimp only
      split
      · exact h
      · next hnew => simpa using h.concat hnew
  exact hkept values [] List.nodup_nil

omit [Casing] in
/-- The targets of an export exist. -/
theorem requireExportableTargets_found {ids : List Id}
    (h : requireExportableTargets s ids = .ok ()) :
    ∀ t ∈ ids, (s.crmTargets[t]?).isSome = true := by
  unfold requireExportableTargets at h
  split at h
  · next t hmissing =>
    have hnone : s.crmTargets[t]? = none := by simpa using List.find?_some hmissing
    unfold requireExportable at h
    rw [hnone] at h
    cases h
  · next hall =>
    intro t ht
    have hfound := List.find?_eq_none.mp hall t ht
    exact Option.isSome_iff_ne_none.mpr (by simpa using hfound)

omit [Casing] in
theorem mem_orderedTargets {ids : List Id} {found : Id × CrmTarget} :
    found ∈ orderedTargets s ids ↔ s.crmTargets[found.1]? = some found.2 ∧ found.1 ∈ ids := by
  unfold orderedTargets
  rw [List.mem_insertionSort, List.mem_map]
  constructor
  · rintro ⟨row, hrow, rfl⟩
    obtain ⟨hzip, hid⟩ := List.mem_filter.mp hrow
    exact ⟨List.mem_zipIdx_iff_getElem?.mp hzip, by simpa using hid⟩
  · rintro ⟨hstored, hid⟩
    refine ⟨found.swap, List.mem_filter.mpr ⟨?_, by simpa using hid⟩, Prod.swap_swap found⟩
    exact List.mem_zipIdx_iff_getElem?.mpr hstored

omit [Casing] in
/-- The targets of an export are loaded once each. -/
theorem orderedTargets_perm {ids : List Id} (hnodup : ids.Nodup)
    (hfound : ∀ t ∈ ids, (s.crmTargets[t]?).isSome = true) :
    ((orderedTargets s ids).map Prod.fst).Perm ids := by
  have hperm : (orderedTargets s ids).Perm
      ((s.crmTargets.zipIdx.filter fun row => decide (row.2 ∈ ids)).map Prod.swap) :=
    List.perm_insertionSort _ _
  have honce : ((orderedTargets s ids).map Prod.fst).Nodup := by
    rw [(hperm.map Prod.fst).nodup_iff, List.map_map]
    have hpositions : (s.crmTargets.zipIdx.map Prod.snd).Nodup := by
      rw [List.zipIdx_map_snd]
      exact List.nodup_range'
    exact hpositions.sublist ((List.filter_sublist).map Prod.snd)
  rw [List.perm_ext_iff_of_nodup honce hnodup]
  intro t
  rw [List.mem_map]
  constructor
  · rintro ⟨found, hmem, rfl⟩
    exact (mem_orderedTargets.mp hmem).2
  · intro ht
    obtain ⟨target, htarget⟩ := Option.isSome_iff_exists.mp (hfound t ht)
    exact ⟨(t, target), mem_orderedTargets.mpr ⟨htarget, ht⟩, rfl⟩

theorem createItems_targets (targets : List (Id × CrmTarget)) :
    (createItems rt s b targets).map (·.crmTargetId) = targets.map Prod.fst := by
  unfold createItems
  rw [List.map_map]
  show (targets.zipIdx s.exportItems.length).map (Prod.fst ∘ Prod.fst) = _
  rw [← List.map_map, List.zipIdx_map_fst]

/-- A created item waits, under its batch. -/
theorem mem_createItems {targets : List (Id × CrmTarget)} {row : CrmExportItem}
    (h : row ∈ createItems rt s b targets) :
    row.batchId = b ∧ row.status = .pending ∧ row.lastError = none ∧
      row.reconciliationState = "not_required" := by
  obtain ⟨found, -, rfl⟩ := List.mem_map.mp h
  exact ⟨rfl, rfl, rfl, rfl⟩

end Targets

section Books

variable [Casing] {rt : ExportRuntime} {exporter : CrmExporter} {s s' : ExportStore}
  {w : ExportWorld} {b : Id}

/-- What a committed item says of its attempts. -/
structure CrmExportItem.Kept (row : CrmExportItem) : Prop where
  waiting : row.status = .pending → row.lastError = none
  succeeded : row.status = .succeeded → row.lastError = none
  failed : row.status ∈ [ExportItemStatus.failedRetryable, .failedTerminal, .skippedPolicy] →
    row.lastError.isSome = true
  attempted : row.status ≠ .pending → 0 < row.attemptCount
  rested : row.status ≠ .running ∧ row.status ≠ .reconciled
  reconciled : row.reconciliationState = "not_required"

/-- The batch's own rows agree with its items. -/
structure CrmExportBatch.Reports (batch : CrmExportBatch) (items : List CrmExportItem) :
    Prop where
  targets : (items.map (·.crmTargetId)).Perm batch.crmTargetIds
  total : batch.counts.lookup "total" = some batch.crmTargetIds.length
  running : batch.completedAt = none → batch.status = .running
  completed : batch.completedAt.isSome = true →
    batch.status = batchStatus items ∧ batch.pendingReconciliation = 0 ∧
      (∀ item ∈ items, item.status ≠ .pending) ∧
      ∀ status : ExportItemStatus,
        (batch.counts.lookup status.value).getD 0 = items.countP (·.status == status)

/-- The CRM answered a call for the item with the record the item names. -/
structure ExportCall.Answers (call : ExportCall) (i : Id) (row : CrmExportItem) : Prop where
  item : call.item = i
  target : call.targetId = row.crmTargetId
  answer : ∃ result, call.answer = .ok (.ok result) ∧
    row.providerRecordId = some result.providerRecordId ∧
    row.providerListEntryId = result.providerListEntryId

structure BooksKept (w : ExportWorld) : Prop where
  known : ∀ row ∈ w.store.exportItems, row.batchId < w.store.exportBatches.length
  rows : ∀ row ∈ w.store.exportItems, row.Kept
  answered : ∀ (i : Id) (row : CrmExportItem), w.store.exportItems[i]? = some row →
    row.status = .succeeded → ∃ call ∈ w.external.exports, call.Answers i row
  batches : ∀ (b : Id) (batch : CrmExportBatch), w.store.exportBatches[b]? = some batch →
    batch.Reports ((batchItems w.store b).map Prod.snd)

omit [Casing] in
/-- Books stay kept where neither batches nor items are rewritten. -/
theorem BooksKept.of_same {v : ExportWorld} (h : BooksKept w)
    (hitems : v.store.exportItems = w.store.exportItems)
    (hbatches : v.store.exportBatches = w.store.exportBatches)
    (hexports : w.external.exports ⊆ v.external.exports) : BooksKept v where
  known := by
    rw [hitems, hbatches]
    exact h.known
  rows := by
    rw [hitems]
    exact h.rows
  answered := by
    rw [hitems]
    intro i row hrow hsucceeded
    obtain ⟨call, hcall, hanswers⟩ := h.answered i row hrow hsucceeded
    exact ⟨call, hexports hcall, hanswers⟩
  batches := by
    intro b batch hbatch
    rw [hbatches] at hbatch
    have hsame : batchItems v.store b = batchItems w.store b := by
      unfold batchItems
      rw [hitems]
    rw [hsame]
    exact h.batches b batch hbatch

omit [Casing] in
theorem Attempt.record_kept (a : Attempt) (now : Time) {row : CrmExportItem}
    (h : row.Kept) : (a.record now row).Kept where
  waiting := fun hpending => absurd hpending (a.record_not_pending now row)
  succeeded := by
    cases a with
    | exported result => exact fun _ => rfl
    | missing => exact fun hstatus => by cases hstatus
    | skipped message => exact fun hstatus => by cases hstatus
    | refused error =>
      intro hstatus
      simp only [Attempt.record, CrmExportItem.markFailure] at hstatus
      split at hstatus <;> cases hstatus
  failed := by
    cases a with
    | exported result =>
      intro hstatus
      simp [Attempt.record, CrmExportItem.succeed] at hstatus
    | missing => exact fun _ => rfl
    | skipped message => exact fun _ => rfl
    | refused error => exact fun _ => rfl
  attempted := by
    intro _
    rw [a.record_attemptCount]
    exact Nat.succ_pos _
  rested := by
    have hstatus := a.record_status now row
    constructor
    · intro hrunning
      rw [hrunning] at hstatus
      simp at hstatus
    · intro hreconciled
      rw [hreconciled] at hstatus
      simp at hstatus
  reconciled := by
    cases a with
    | exported result => rfl
    | missing => exact h.reconciled
    | skipped message => exact h.reconciled
    | refused error => exact h.reconciled

omit [Casing] in
theorem CrmExportItem.Kept.reopen {row : CrmExportItem} (h : row.Kept) (now : Time) :
    (row.reopen now).Kept where
  waiting := fun _ => rfl
  succeeded := fun hstatus => by cases hstatus
  failed := fun hstatus => by simp [CrmExportItem.reopen] at hstatus
  attempted := fun hstatus => absurd rfl hstatus
  rested := by simp [CrmExportItem.reopen]
  reconciled := h.reconciled

/-- A new batch waits with an item for each target. -/
theorem opened_books {request : CrmExportCreateRequest} {actor key : String} {x : ExportExternal}
    (h : BooksKept ⟨s, x⟩)
    (hrequire : requireExportableTargets s (uniqueOrdered request.crmTargetIds) = .ok ()) :
    BooksKept ⟨s.opened rt request actor key, x⟩ := by
  have hitems : (s.opened rt request actor key).exportItems = s.exportItems ++
      createItems rt (s.addBatch (newBatch rt request actor key)) s.exportBatches.length
        (orderedTargets s (uniqueOrdered request.crmTargetIds)) := rfl
  have hbatches : (s.opened rt request actor key).exportBatches =
      s.exportBatches ++ [newBatch rt request actor key] := rfl
  refine ⟨?_, ?_, ?_, ?_⟩
  · intro row hrow
    show row.batchId < ((s.opened rt request actor key).exportBatches).length
    rw [hbatches, List.length_append, List.length_singleton]
    rcases List.mem_append.mp hrow with hold | hnew
    · exact Nat.lt_succ_of_lt (h.known row hold)
    · rw [(mem_createItems hnew).1]
      exact Nat.lt_succ_self _
  · intro row hrow
    rcases List.mem_append.mp hrow with hold | hnew
    · exact h.rows row hold
    · obtain ⟨-, hpending, hclear, hstate⟩ := mem_createItems hnew
      refine ⟨fun _ => hclear, ?_, ?_, ?_, ?_, hstate⟩
      · rw [hpending]
        exact fun hstatus => by cases hstatus
      · rw [hpending]
        simp
      · exact fun hstatus => absurd hpending hstatus
      · rw [hpending]
        simp
  · intro i row hrow hsucceeded
    have hrow' : (s.exportItems ++ _)[i]? = some row := hrow
    rw [List.getElem?_append] at hrow'
    split at hrow'
    · exact h.answered i row hrow' hsucceeded
    · obtain ⟨-, hpending, -⟩ := mem_createItems (List.mem_of_getElem? hrow')
      rw [hpending] at hsucceeded
      cases hsucceeded
  · intro b batch hbatch
    have hold : ∀ b' : Id, b' < s.exportBatches.length →
        batchItems (s.opened rt request actor key) b' = batchItems s b' := by
      intro b' hlt
      apply batchItems_congr
      intro i
      rw [hitems, List.getElem?_append]
      split
      · rfl
      · next hi =>
        rw [List.getElem?_eq_none (Nat.not_lt.mp hi), Option.filter_none,
          Option.filter_eq_none_iff]
        intro row hrow
        rw [(mem_createItems (List.mem_of_getElem? hrow)).1]
        simpa using Nat.ne_of_gt hlt
    rcases Table.get_concat (t := s.exportBatches) hbatch with hfound | ⟨rfl, rfl⟩
    · show batch.Reports ((batchItems (s.opened rt request actor key) b).map Prod.snd)
      obtain ⟨hlt, -⟩ := List.getElem?_eq_some_iff.mp hfound
      rw [hold b hlt]
      exact h.batches b batch hfound
    · refine ⟨?_, rfl, fun _ => rfl, fun hdone => by cases hdone⟩
      have hnone : s.exportItems.filter (·.batchId == s.exportBatches.length) = [] := by
        rw [List.filter_eq_nil_iff]
        intro row hrow
        simpa using Nat.ne_of_lt (h.known row hrow)
      have hall : (createItems rt (s.addBatch (newBatch rt request actor key))
          s.exportBatches.length (orderedTargets s (uniqueOrdered request.crmTargetIds))).filter
            (·.batchId == s.exportBatches.length) = createItems rt
          (s.addBatch (newBatch rt request actor key)) s.exportBatches.length
          (orderedTargets s (uniqueOrdered request.crmTargetIds)) := by
        rw [List.filter_eq_self]
        intro row hrow
        simpa using (mem_createItems hrow).1
      have htargets : batchTargets (s.opened rt request actor key) s.exportBatches.length =
          (orderedTargets s (uniqueOrdered request.crmTargetIds)).map Prod.fst := by
        unfold batchTargets
        rw [hitems, List.filter_append, hnone, hall, List.nil_append, createItems_targets]
      refine (batchItems_targets _ _).trans ?_
      rw [htargets]
      exact orderedTargets_perm (uniqueOrdered_nodup _) (requireExportableTargets_found hrequire)

omit [Casing] in
/-- A reopened batch waits again; the other batches are as they were. -/
theorem reopened_books {request : CrmExportRetryRequest} {x : ExportExternal}
    (h : BooksKept ⟨s, x⟩) : BooksKept ⟨s.reopened rt b request, x⟩ := by
  have hrow : ∀ (i : Id) (row : CrmExportItem),
      (s.reopened rt b request).exportItems[i]? = some row →
        ∃ old, s.exportItems[i]? = some old ∧ row.batchId = old.batchId ∧
          (row = old ∨ old.batchId = b ∧ request.takes i old = true ∧ row = old.reopen rt.now) := by
    intro i row hstored
    rw [reopened_item] at hstored
    obtain ⟨old, hold, rfl⟩ := Option.map_eq_some_iff.mp hstored
    refine ⟨old, hold, ?_⟩
    split
    · next htakes =>
      rw [Bool.and_eq_true, beq_iff_eq] at htakes
      exact ⟨rfl, Or.inr ⟨htakes.1, htakes.2, rfl⟩⟩
    · exact ⟨rfl, Or.inl rfl⟩
  have hkeys : (s.reopened rt b request).exportItems.map
        (fun row => (row.batchId, row.crmTargetId)) =
      s.exportItems.map fun row => (row.batchId, row.crmTargetId) := by
    apply List.ext_getElem?
    intro i
    rw [List.getElem?_map, List.getElem?_map, reopened_item, Option.map_map]
    congr 1
    funext row
    simp only [Function.comp_apply]
    cases row.batchId == b && request.takes i row <;> rfl
  refine ⟨?_, ?_, ?_, ?_⟩
  · intro row hmem
    obtain ⟨i, hstored⟩ := List.getElem?_of_mem hmem
    obtain ⟨old, hold, hbatch, -⟩ := hrow i row hstored
    show row.batchId < (s.exportBatches.modify b _).length
    rw [List.length_modify, hbatch]
    exact h.known old (List.mem_of_getElem? hold)
  · intro row hmem
    obtain ⟨i, hstored⟩ := List.getElem?_of_mem hmem
    obtain ⟨old, hold, -, hcase⟩ := hrow i row hstored
    have hkept := h.rows old (List.mem_of_getElem? hold)
    rcases hcase with rfl | ⟨-, -, rfl⟩
    · exact hkept
    · exact hkept.reopen rt.now
  · intro i row hstored hsucceeded
    obtain ⟨old, hold, -, rfl | ⟨-, -, rfl⟩⟩ := hrow i row hstored
    · exact h.answered i row hold hsucceeded
    · cases hsucceeded
  · intro b' batch hbatch
    have hstored : (s.exportBatches.modify b _)[b']? = some batch := hbatch
    rw [List.getElem?_modify] at hstored
    obtain ⟨old, hold, hupdated⟩ := Option.map_eq_some_iff.mp hstored
    have hreports := h.batches b' old hold
    by_cases hb : b = b'
    · rw [if_pos hb] at hupdated
      subst hb hupdated
      refine ⟨?_, hreports.total, fun _ => rfl, fun hdone => by cases hdone⟩
      refine (batchItems_targets _ b).trans ?_
      rw [batchTargets_congr hkeys]
      exact (batchItems_targets s b).symm.trans hreports.targets
    · rw [if_neg hb] at hupdated
      subst hupdated
      have hsame : batchItems (s.reopened rt b request) b' = batchItems s b' := by
        apply batchItems_congr
        intro i
        rw [reopened_item]
        cases hitem : s.exportItems[i]? with
        | none => rfl
        | some row =>
          by_cases hof : row.batchId = b
          · have hother : ¬ row.batchId = b' := fun hb' => hb (hof.symm.trans hb')
            simp only [Option.map_some, hof, beq_self_eq_true, Bool.true_and]
            split <;> simp [Option.filter, CrmExportItem.reopen, hof, hb]
          · simp [hof]
      rw [show (⟨s.reopened rt b request, x⟩ : ExportWorld).store = s.reopened rt b request from rfl,
        hsame]
      exact hreports

/-- An attempt that exports is a call the CRM answered. -/
theorem attemptCalls_answers {i : Id} {item : CrmExportItem} {result : CrmExportResult}
    (h : attempt rt exporter s item = .ok (.exported result)) (now : Time) :
    ∃ call ∈ attemptCalls rt exporter s i item,
      call.Answers i ((Attempt.exported result).record now item) := by
  unfold attempt at h
  unfold attemptCalls
  cases htarget : s.crmTargets[item.crmTargetId]? with
  | none => simp [htarget] at h
  | some target =>
    simp only [htarget] at h ⊢
    cases hplan : planForTarget rt.crm s item.crmTargetId target with
    | error e => cases e <;> simp [hplan] at h
    | ok plan =>
      simp only [hplan] at h ⊢
      cases hanswer : exporter plan with
      | error e => simp [hanswer] at h
      | ok answer =>
        cases answer with
        | error error => simp [hanswer] at h
        | ok result' =>
          obtain rfl : result' = result := by simpa [hanswer] using h
          exact ⟨_, List.mem_singleton_self _, rfl, rfl, result', rfl, rfl, rfl⟩

/-- A batch that was worked off reports its items; the other batches are as they were. -/
theorem worked_books {v : ExportWorld} (h : BooksKept w)
    (hsettles : BatchSettles rt exporter w.store b)
    (hworked : ItemsWorked rt exporter w.store (batchPositions w.store b) v.store)
    (hcalls : v.external.exports =
      w.external.exports ++ loopCalls rt exporter w.store (batchItems w.store b)) :
    BooksKept ⟨completeBatch rt.now b v.store, v.external⟩ := by
  have hframe : v.store.exportBatches = w.store.exportBatches := by
    rw [hworked.frame]
  have hrow : ∀ (i : Id) (row : CrmExportItem), v.store.exportItems[i]? = some row →
      ∃ old, w.store.exportItems[i]? = some old ∧ SameItem old row ∧
        (row = old ∧ (old.batchId = b → old.status ≠ .pending) ∨
          old.batchId = b ∧ old.status = .pending ∧
            ∃ a, attempt rt exporter w.store old = .ok a ∧ row = a.record rt.now old) := by
    intro i row hstored
    rw [hworked.items i] at hstored
    obtain ⟨old, hold, rfl⟩ := Option.map_eq_some_iff.mp hstored
    refine ⟨old, hold, ?_⟩
    by_cases hof : old.batchId = b
    · rw [if_pos (mem_batchPositions.mpr ⟨old, hold, hof⟩)]
      refine ⟨old.worked_same, ?_⟩
      by_cases hpending : old.status = .pending
      · obtain ⟨a, hattempt⟩ := hsettles.attempted i old hold hof hpending
        exact Or.inr ⟨hof, hpending, a, hattempt, CrmExportItem.worked_of hpending hattempt⟩
      · exact Or.inl ⟨CrmExportItem.worked_idle hpending, fun _ => hpending⟩
    · have hout : i ∉ batchPositions w.store b := by
        intro hi
        obtain ⟨item, hitem, hof'⟩ := mem_batchPositions.mp hi
        obtain rfl : old = item := Option.some.inj (hold.symm.trans hitem)
        exact hof hof'
      rw [if_neg hout]
      exact ⟨⟨rfl, rfl, rfl⟩, Or.inl ⟨rfl, fun hof' => absurd hof' hof⟩⟩
  have hkept : ∀ row ∈ v.store.exportItems, row.Kept := by
    intro row hmem
    obtain ⟨i, hstored⟩ := List.getElem?_of_mem hmem
    obtain ⟨old, hold, -, ⟨rfl, -⟩ | ⟨-, -, a, -, rfl⟩⟩ := hrow i row hstored
    · exact h.rows row (List.mem_of_getElem? hold)
    · exact a.record_kept rt.now (h.rows old (List.mem_of_getElem? hold))
  refine ⟨?_, hkept, ?_, ?_⟩
  · intro row hmem
    obtain ⟨i, hstored⟩ := List.getElem?_of_mem hmem
    obtain ⟨old, hold, hsame, -⟩ := hrow i row hstored
    show row.batchId < (v.store.exportBatches.modify b _).length
    rw [List.length_modify, hframe, hsame.batchId]
    exact h.known old (List.mem_of_getElem? hold)
  · intro i row hstored hsucceeded
    show ∃ call ∈ v.external.exports, call.Answers i row
    rw [hcalls]
    obtain ⟨old, hold, -, ⟨rfl, -⟩ | ⟨hof, hpending, a, hattempt, rfl⟩⟩ := hrow i row hstored
    · obtain ⟨call, hcall, hanswers⟩ := h.answered i row hold hsucceeded
      exact ⟨call, List.mem_append_left _ hcall, hanswers⟩
    · obtain ⟨result, rfl⟩ : ∃ result, a = .exported result := by
        cases a with
        | exported result => exact ⟨result, rfl⟩
        | missing => cases hsucceeded
        | skipped message => cases hsucceeded
        | refused error =>
          simp only [Attempt.record, CrmExportItem.markFailure] at hsucceeded
          split at hsucceeded <;> cases hsucceeded
      obtain ⟨call, hcall, hanswers⟩ := attemptCalls_answers (i := i) hattempt rt.now
      refine ⟨call, List.mem_append_right _ ?_, hanswers⟩
      unfold loopCalls
      rw [List.mem_flatMap]
      refine ⟨(i, old), mem_batchItems.mpr ⟨hold, hof⟩, ?_⟩
      rw [if_pos hpending]
      exact hcall
  · intro b' batch' hbatch'
    have hstored : (v.store.exportBatches.modify b _)[b']? = some batch' := hbatch'
    rw [hframe, List.getElem?_modify] at hstored
    obtain ⟨old, hold, hupdated⟩ := Option.map_eq_some_iff.mp hstored
    have hreports := h.batches b' old hold
    show batch'.Reports ((batchItems v.store b').map Prod.snd)
    by_cases hb : b = b'
    · rw [if_pos hb] at hupdated
      subst hb hupdated
      have hkeys := hworked.itemKeys (fun row => (row.batchId, row.crmTargetId))
        fun row row' hsame => by rw [hsame.batchId, hsame.crmTargetId]
      have htargets : (((batchItems v.store b).map Prod.snd).map (·.crmTargetId)).Perm
          old.crmTargetIds := by
        refine (batchItems_targets v.store b).trans ?_
        rw [batchTargets_congr hkeys]
        exact (batchItems_targets w.store b).symm.trans hreports.targets
      obtain ⟨htotal, hcounts⟩ := countItems_counts ((batchItems v.store b).map Prod.snd)
      refine ⟨htargets, ?_, fun hnone => (by cases hnone), fun _ => ⟨rfl, ?_, ?_, hcounts⟩⟩
      · refine htotal.trans (congrArg some ?_)
        rw [← htargets.length_eq]
        simp only [List.length_map]
      · show (((batchItems v.store b).map Prod.snd).filter _).length = 0
        rw [List.length_eq_zero_iff, List.filter_eq_nil_iff]
        intro item hitem
        obtain ⟨found, hfound, rfl⟩ := List.mem_map.mp hitem
        have hstate := (hkept _ (List.mem_of_getElem? (mem_batchItems.mp hfound).1)).reconciled
        rw [hstate]
        simp
      · intro item hitem
        obtain ⟨found, hfound, rfl⟩ := List.mem_map.mp hitem
        obtain ⟨hstored', hof⟩ := mem_batchItems.mp hfound
        obtain ⟨old', -, hsame, ⟨heq, hidle⟩ | ⟨-, -, a, -, heq⟩⟩ := hrow _ _ hstored'
        · rw [heq]
          exact hidle (hsame.batchId.symm.trans hof)
        · rw [heq]
          exact a.record_not_pending rt.now old'
    · rw [if_neg hb] at hupdated
      subst hupdated
      have hsame : batchItems v.store b' = batchItems w.store b' := by
        apply batchItems_congr
        intro i
        rw [hworked.items i]
        cases hitem : w.store.exportItems[i]? with
        | none => rfl
        | some row =>
          rw [Option.map_some]
          split
          · next hi =>
            obtain ⟨item, hitem', hof⟩ := mem_batchPositions.mp hi
            obtain rfl : row = item := Option.some.inj (hitem.symm.trans hitem')
            have hother : ¬ row.batchId = b' := fun hb' => hb (hof.symm.trans hb')
            have hother' : ¬ (row.worked rt exporter w.store).batchId = b' := by
              rw [row.worked_same.batchId]
              exact hother
            simp [Option.filter, hother, hother']
          · rfl
      rw [hsame]
      exact hreports

/-- A batch that is not there is not processed. -/
theorem processBatch_missing {exporter : CrmExporter} (hbatch : w.store.exportBatches[b]? = none) :
    after (processBatch rt exporter b) w = w := by
  unfold after processBatch exportScope
  rw [Lib.sessionScope_run]
  simp only [Lib.bind_run, Lib.query_run, hbatch]
  rfl

/-- Processing a batch, whether it commits or not. -/
theorem processCrmExportBatch_books (client : CrmClient) (hsound : w.store.Sound)
    (h : BooksKept w) : BooksKept (after (processCrmExportBatch rt client b) w) := by
  cases client with
  | unavailable message => exact h
  | available exporter =>
    show BooksKept (after (processBatch rt exporter b) w)
    cases hbatch : w.store.exportBatches[b]? with
    | none =>
      rw [processBatch_missing hbatch]
      exact h
    | some batch =>
      rcases processBatch_cases rt exporter (b := b) hsound with
        hsame | ⟨_, v, -, hsettles, hrun, -, hworked, hcalls⟩
      · refine h.of_same (by rw [hsame]) (by rw [hsame]) ?_
        rw [processBatch_calls hbatch hsound.constraints]
        exact List.subset_append_left _ _
      · rw [hrun]
        exact worked_books h hsettles hworked hcalls

/-- Every operation keeps the books. -/
theorem exportStep_books (c : ExportStep) (hsound : w.store.Sound) (h : BooksKept w) :
    BooksKept (exportStep w c) := by
  obtain ⟨rt, op⟩ := c
  cases op with
  | start client request actor key =>
    show BooksKept (after (startCrmExport rt client request actor key) w)
    rcases startCrmExport_cases rt client request actor key hsound.constraints with
      hsame | ⟨-, hrequire, hvalid, hrun⟩
    · rw [hsame]
      exact h
    · rw [hrun]
      exact processCrmExportBatch_books client
        ⟨hvalid, hsound.fresh.keep (opened_keepsKeys request actor key)⟩ (opened_books h hrequire)
  | retry client b request =>
    show BooksKept (after (retryFailedCrmExportItems rt client b request) w)
    rcases retryFailedCrmExportItems_cases rt (b := b) client request hsound.constraints with
      hsame | ⟨htakes, hvalid, hrun⟩
    · rw [hsame]
      exact h
    · rw [hrun]
      exact processCrmExportBatch_books client
        ⟨hvalid, hsound.fresh.keep (reopened_keepsKeys htakes)⟩ (reopened_books h)
  | process client b => exact processCrmExportBatch_books client hsound h
  | update t request =>
    show BooksKept (after (updateCrmTarget rt t request) w)
    rcases updateCrmTarget_cases rt (w := w) t request with hsame | ⟨hrun, -⟩
    · rw [hsame]
      exact h
    · rw [hrun]
      exact h.of_same rfl rfl (List.Subset.refl _)
  | elsewhere records =>
    show BooksKept (if records.accepted w.store then _ else w)
    split
    · exact h.of_same rfl rfl (List.Subset.refl _)
    · exact h

/-- In every world the operations reach, each batch reports the items it holds, one for
each of its targets, and each item that succeeded names the record the CRM answered with. -/
theorem reachable_books_kept (hreach : ReachableExports w) : BooksKept w := by
  obtain ⟨init, steps, hinit, rfl⟩ := hreach
  have hstart : BooksKept init := by
    refine ⟨?_, ?_, ?_, ?_⟩
    · rw [hinit.items]
      exact fun row hrow => absurd hrow List.not_mem_nil
    · rw [hinit.items]
      exact fun row hrow => absurd hrow List.not_mem_nil
    · rw [hinit.items]
      exact fun i row hrow => by cases hrow
    · rw [hinit.batches]
      exact fun b batch hbatch => by cases hbatch
  have hrun := Lib.run_always_keeps (I := fun w : ExportWorld => w.store.Sound ∧ BooksKept w)
    (fun w c h => ⟨exportStep_sound c h.1, exportStep_books c h.1 h.2⟩) steps
    ⟨hinit.sound, hstart⟩
  exact hrun.2

end Books

theorem opened_company_books : BooksKept (openedDesk [acmeTarget]) :=
  reachable_books_kept (openedDesk_reachable (by decide +kernel))

end GhostRecon
