import GhostRecon.CrmExports.Planning

/-!
Export batches. A batch is started over targets that are waiting for export,
with one item for each; processing it works off the pending items in one
transaction, with one call of the CRM for each item that can be planned; a
retry makes failed items pending again. What the CRM was asked is kept outside
the store: no rollback reaches it.
-/

namespace GhostRecon

open Lib (Id Table query write perform after)

/-- `CrmProviderError`. -/
structure CrmProviderError where
  message : String
  retryable : Bool := false
  retryAfterSeconds : Option Int := none
  deriving DecidableEq, Repr

/-- How a call of the client ends: it raises something else, it raises the provider's
error, or it answers. -/
abbrev CrmExporter := CrmExportPlan → Except PyError (Except CrmProviderError CrmExportResult)

/-- The client a call exports with. -/
inductive CrmClient where
  /-- Building the client raises. -/
  | unavailable (message : String)
  | available (exporter : CrmExporter)

/-- One call of `CrmClient.export`: the item, the target as the transaction had
it, and the answer. -/
structure ExportCall where
  item : Id
  targetId : Id
  target : CrmTarget
  plan : CrmExportPlan
  answer : Except PyError (Except CrmProviderError CrmExportResult)

structure ExportExternal where
  exports : List ExportCall := []

abbrev ExportTx (α : Type) := Lib.Tx PyError ExportStore ExportExternal α

abbrev ExportWorld := Lib.World ExportStore ExportExternal

/-- What a call sees besides the database: the clock, the CRM settings and the
generated primary keys of the items it inserts. -/
structure ExportRuntime where
  now : Time
  crm : CrmSettings := {}
  uuid4 : Id → Nat := id

def CrmExportItem.fits (row : CrmExportItem) : Bool :=
  GhostRecon.fits 64 row.targetType && GhostRecon.fits 255 row.stableMatchKey &&
    fits? 255 row.providerRecordId && fits? 255 row.providerListId &&
    fits? 255 row.providerListEntryId && row.retryAfterSeconds.all fitsInteger

def CrmExportBatch.fits (row : CrmExportBatch) : Bool :=
  GhostRecon.fits 64 row.provider && fits? 128 row.workspaceId &&
    GhostRecon.fits 128 row.requestedBy && GhostRecon.fits 255 row.idempotencyKey

def ExportStore.constraintsOk (s : ExportStore) : Bool :=
  s.toStore.constraintsOk && s.exportBatches.uniqueOn (fun row => some row.idempotencyKey) &&
    s.exportItems.uniqueOn (fun row => some (row.batchId, row.crmTargetId)) &&
    s.exportItems.uniqueOn (fun row => some row.uuid) &&
    s.exportBatches.all CrmExportBatch.fits && s.exportItems.all CrmExportItem.fits

def exportScope {α : Type} (body : ExportTx α) : ExportTx α :=
  Lib.sessionScope ExportStore.constraintsOk .integrityError body

def exportFlush : ExportTx PUnit :=
  Lib.flush ExportStore.constraintsOk .integrityError

section Rows

def ExportStore.updateItem (s : ExportStore) (i : Id) (f : CrmExportItem → CrmExportItem) :
    ExportStore :=
  { s with exportItems := s.exportItems.modify i f }

def ExportStore.updateBatch (s : ExportStore) (b : Id) (f : CrmExportBatch → CrmExportBatch) :
    ExportStore :=
  { s with exportBatches := s.exportBatches.modify b f }

def ExportStore.updateTarget (s : ExportStore) (t : Id) (f : CrmTarget → CrmTarget) :
    ExportStore :=
  { s with crmTargets := s.crmTargets.modify t f }

def ExportStore.enqueue (s : ExportStore) (name : EventName) (kind : String) (id : Id)
    (key : OutboxKey) : ExportStore :=
  { s with toStore := enqueueEvent name kind id key s.toStore }

/-- `_batch_items`: the items of a batch, ordered by their primary keys. -/
def batchItems (s : ExportStore) (b : Id) : List (Id × CrmExportItem) :=
  ((s.exportItems.zipIdx.filter fun row => row.1.batchId == b).map Prod.swap).insertionSort
    fun first second => first.2.uuid ≤ second.2.uuid

end Rows

section Start

variable [Casing]

structure CrmExportCreateRequest where
  crmTargetIds : List Id
  provider : String := "attio"
  workspaceId : Option String := none
  deriving DecidableEq, Repr

/-- `EXPORTABLE_TARGET_STATUS` and `EXPORTABLE_EXPORT_STATUSES`. -/
def CrmTarget.exportable (target : CrmTarget) : Bool :=
  target.status == .pendingExport &&
    (target.exportStatus == "not_exported" || target.exportStatus == "failed_retryable")

/-- `_require_exportable_targets`, for one target. -/
def requireExportable (s : ExportStore) (t : Id) : Except PyError Unit :=
  match s.crmTargets[t]? with
  | none => .error (.valueError ("crm target not found: " ++ toString t))
  | some target =>
    if target.status ≠ .pendingExport then
      .error (.valueError ("crm target " ++ toString t ++ " is not pending export"))
    else if target.exportable then .ok ()
    else
      .error (.valueError
        ("crm target " ++ toString t ++ " has export status " ++ target.exportStatus))

/-- `_require_exportable_targets`. Missing targets are refused first. -/
def requireExportableTargets (s : ExportStore) (ids : List Id) : Except PyError Unit :=
  match ids.find? fun t => (s.crmTargets[t]?).isNone with
  | some t => requireExportable s t
  | none => ids.forM (requireExportable s)

/-- `_load_targets` and `_ordered_targets`. -/
def orderedTargets (s : ExportStore) (ids : List Id) : List (Id × CrmTarget) :=
  ((s.crmTargets.zipIdx.filter fun row => decide (row.2 ∈ ids)).map Prod.swap).insertionSort
    fun first second => targetOrder first.2.targetType ≤ targetOrder second.2.targetType

/-- `_create_item` and `_new_item`. A target that cannot be planned now gets a
generic key. -/
def createItem (rt : ExportRuntime) (s : ExportStore) (b : Id) (uuid : Nat)
    (found : Id × CrmTarget) : CrmExportItem where
  uuid := uuid
  batchId := b
  crmTargetId := found.1
  targetType := found.2.targetType
  targetId := found.2.targetId
  providerObject :=
    match planForTarget rt.crm s found.1 found.2 with
    | .ok plan => plan.providerObject
    | .error _ => providerObjectForType found.2.targetType
  stableMatchKey :=
    match planForTarget rt.crm s found.1 found.2 with
    | .ok plan => plan.stableMatchKey
    | .error _ => "ghostrecon:" ++ found.2.targetType ++ ":" ++ toString found.2.targetId
  createdAt := rt.now
  updatedAt := rt.now

/-- The items of a new batch, in the order of their targets. -/
def createItems (rt : ExportRuntime) (s : ExportStore) (b : Id)
    (targets : List (Id × CrmTarget)) : List CrmExportItem :=
  (targets.zipIdx s.exportItems.length).map fun row =>
    createItem rt s b (rt.uuid4 row.2) row.1

def newBatch (rt : ExportRuntime) (request : CrmExportCreateRequest) (actor key : String) :
    CrmExportBatch where
  provider := request.provider
  workspaceId := request.workspaceId
  requestedBy := actor
  status := .running
  crmTargetIds := uniqueOrdered request.crmTargetIds
  idempotencyKey := key
  counts := [("total", (uniqueOrdered request.crmTargetIds).length),
    ("pending", (uniqueOrdered request.crmTargetIds).length)]
  startedAt := some rt.now
  createdAt := rt.now
  updatedAt := rt.now

def ExportStore.addBatch (s : ExportStore) (row : CrmExportBatch) : ExportStore :=
  { s with exportBatches := s.exportBatches ++ [row] }

def ExportStore.addItems (s : ExportStore) (rt : ExportRuntime) (b : Id) (ids : List Id) :
    ExportStore :=
  { s with exportItems := s.exportItems ++ createItems rt s b (orderedTargets s ids) }

def ExportStore.announceBatch (s : ExportStore) (b : Id) : ExportStore :=
  s.enqueue .crmExportBatchStarted "crm_export_batch" b (.once .crmExportBatchStarted b)

/-- The first transaction of `start_crm_export`. The flag says that the batch
was there already. -/
def openBatch (rt : ExportRuntime) (request : CrmExportCreateRequest) (actor key : String) :
    ExportTx (Id × Bool) := exportScope do
  match ← query (·.exportBatches.first? (·.idempotencyKey == key)) with
  | some (existing, _) => return (existing, true)
  | none =>
    let targetIds := uniqueOrdered request.crmTargetIds
    Lib.queryOrRaise (requireExportableTargets · targetIds)
    let b ← query (·.exportBatches.length)
    write (·.addBatch (newBatch rt request actor key))
    exportFlush
    write (·.addItems rt b targetIds)
    exportFlush
    write (·.announceBatch b)
    return (b, false)

end Start

section Process

variable [Casing]

/-- `_mark_item_failure`. -/
def CrmExportItem.markFailure (now : Time) (message : String) (retryable : Bool)
    (retryAfterSeconds : Option Int) (row : CrmExportItem) : CrmExportItem :=
  { row with
    status := if retryable then .failedRetryable else .failedTerminal
    lastError := some message
    retryAfterSeconds := retryAfterSeconds
    updatedAt := now }

/-- An item is taken up. -/
def CrmExportItem.take (now : Time) (row : CrmExportItem) : CrmExportItem :=
  { row with
    status := .running
    attemptCount := row.attemptCount + 1
    updatedAt := now }

def CrmExportItem.skip (now : Time) (message : String) (row : CrmExportItem) : CrmExportItem :=
  { row with
    status := .skippedPolicy
    lastError := some message
    retryAfterSeconds := none
    updatedAt := now }

def CrmExportItem.succeed (now : Time) (result : CrmExportResult) (row : CrmExportItem) :
    CrmExportItem :=
  { row with
    providerRecordId := some result.providerRecordId
    providerListId := result.providerListId
    providerListEntryId := result.providerListEntryId
    reconciliationState := "not_required"
    status := .succeeded
    lastError := none
    retryAfterSeconds := none
    updatedAt := now }

/-- `_enqueue_item_failed_event`, for an item whose attempt has the number. -/
def ExportStore.enqueueItemFailed (s : ExportStore) (i : Id) (attempt : Nat) : ExportStore :=
  s.enqueue .crmExportItemFailed "crm_export_item" i (.counted .crmExportItemFailed i attempt)

/-- One turn of the loop of `process_crm_export_batch`. -/
def processItem (rt : ExportRuntime) (exporter : CrmExporter) (i : Id) : ExportTx PUnit := do
  let some item ← query (·.exportItems[i]?) | return
  if item.status ≠ .pending then return
  let found ← query (·.crmTargets[item.crmTargetId]?)
  write (·.updateItem i (·.take rt.now))
  match found with
  | none =>
    write (·.updateItem i (·.markFailure rt.now "crm target no longer exists" false none))
  | some target =>
    match ← query (planForTarget rt.crm · item.crmTargetId target) with
    | .error (.valueError message) => throw (.valueError message)
    | .error (.policySkip message) =>
      write (·.updateItem i (·.skip rt.now message))
      write (·.updateTarget item.crmTargetId fun row =>
        { row with exportStatus := "skipped_policy", updatedAt := rt.now })
      write (·.enqueueItemFailed i (item.attemptCount + 1))
    | .ok plan =>
      let answer := exporter plan
      perform fun x => { x with
        exports := x.exports ++ [⟨i, item.crmTargetId, target, plan, answer⟩] }
      match answer with
      | .error e => throw e
      | .ok (.error error) =>
        write (·.updateItem i
          (·.markFailure rt.now error.message error.retryable error.retryAfterSeconds))
        write (·.updateTarget item.crmTargetId fun row =>
          { row with
            exportStatus := if error.retryable then "failed_retryable" else "failed_terminal"
            updatedAt := rt.now })
        write (·.enqueueItemFailed i (item.attemptCount + 1))
      | .ok (.ok result) =>
        write (·.updateItem i (·.succeed rt.now result))
        write (·.updateTarget item.crmTargetId fun row =>
          { row with
            status := .exported
            exportStatus := "exported"
            version := row.version + 1
            updatedAt := rt.now })
        write (·.enqueue .crmExportItemSucceeded "crm_export_item" i
          (.counted .crmExportItemSucceeded i (item.attemptCount + 1)))

/-- The loop over the items as they were loaded. -/
def processItems (rt : ExportRuntime) (exporter : CrmExporter) :
    List (Id × CrmExportItem) → ExportTx PUnit
  | [] => return
  | found :: rest => do
    processItem rt exporter found.1
    processItems rt exporter rest

/-- `_counts`. -/
def countItems (items : List CrmExportItem) : List (String × Nat) :=
  items.foldl (fun counts item =>
    if (counts.lookup item.status.value).isSome then
      counts.map fun entry =>
        if entry.1 = item.status.value then (entry.1, entry.2 + 1) else entry
    else counts ++ [(item.status.value, 1)]) [("total", items.length)]

/-- `_batch_status`. -/
def batchStatus (items : List CrmExportItem) : ExportBatchStatus :=
  if items.isEmpty then .failed
  else if items.all fun item => item.status == .succeeded || item.status == .reconciled then
    .succeeded
  else if items.all fun item => item.status == .failedRetryable ||
      item.status == .failedTerminal || item.status == .skippedPolicy then .failed
  else .partially

def attemptsOf (items : List CrmExportItem) : Nat :=
  (items.map (·.attemptCount)).sum

/-- `_complete_batch`. -/
def completeBatch (now : Time) (b : Id) (s : ExportStore) : ExportStore :=
  let items := (batchItems s b).map Prod.snd
  (s.updateBatch b fun row =>
    { row with
      counts := countItems items
      pendingReconciliation := (items.filter (·.reconciliationState == "pending")).length
      status := batchStatus items
      completedAt := some now
      updatedAt := now }).enqueue .crmExportBatchCompleted "crm_export_batch" b
    (.counted .crmExportBatchCompleted b (attemptsOf items))

/-- `process_crm_export_batch`, given the client. -/
def processBatch (rt : ExportRuntime) (exporter : CrmExporter) (b : Id) : ExportTx Id :=
  exportScope do
    let some batch ← query (·.exportBatches[b]?)
      | throw (.valueError "crm export batch not found")
    let items ← query (batchItems · b)
    if batch.completedAt.isSome ∧ ¬ items.any fun item => item.2.status == .pending then
      return b
    processItems rt exporter items
    write (completeBatch rt.now b)
    return b

/-- `process_crm_export_batch`. -/
def processCrmExportBatch (rt : ExportRuntime) (client : CrmClient) (b : Id) : ExportTx Id :=
  match client with
  | .unavailable message => throw (.valueError message)
  | .available exporter => processBatch rt exporter b

/-- `start_crm_export`. -/
def startCrmExport (rt : ExportRuntime) (client : CrmClient) (request : CrmExportCreateRequest)
    (actor key : String) : ExportTx Id := do
  let (b, existed) ← openBatch rt request actor key
  if existed then return b
  else processCrmExportBatch rt client b

end Process

section Retry

variable [Casing]

structure CrmExportRetryRequest where
  itemIds : List Id := []
  deriving DecidableEq, Repr

/-- The items a retry takes up again. -/
def CrmExportRetryRequest.takes (request : CrmExportRetryRequest) (i : Id)
    (item : CrmExportItem) : Bool :=
  item.status == .failedRetryable && (request.itemIds.isEmpty || decide (i ∈ request.itemIds))

def CrmExportItem.reopen (now : Time) (row : CrmExportItem) : CrmExportItem :=
  { row with
    status := .pending
    lastError := none
    retryAfterSeconds := none
    updatedAt := now }

/-- The rows of a table a condition picks are rewritten. -/
def ExportStore.updateItems (s : ExportStore) (p : Id → CrmExportItem → Bool)
    (f : CrmExportItem → CrmExportItem) : ExportStore :=
  { s with exportItems := s.exportItems.mapIdx fun i row => if p i row then f row else row }

/-- The first transaction of `retry_failed_crm_export_items`: whether the batch
is there and has items to process. -/
def reopenItems (rt : ExportRuntime) (b : Id) (request : CrmExportRetryRequest) :
    ExportTx (Option Bool) := exportScope do
  let some _ ← query (·.exportBatches[b]?) | return none
  let items ← query (batchItems · b)
  if ¬ items.any fun item => request.takes item.1 item.2 then return some false
  write (·.updateItems (fun i row => row.batchId == b && request.takes i row)
    (·.reopen rt.now))
  write (·.updateBatch b fun row =>
    { row with status := .running, completedAt := none, updatedAt := rt.now })
  return some true

/-- `retry_failed_crm_export_items`. -/
def retryFailedCrmExportItems (rt : ExportRuntime) (client : CrmClient) (b : Id)
    (request : CrmExportRetryRequest) : ExportTx (Option Id) := do
  match ← reopenItems rt b request with
  | none => return none
  | some false => return some b
  | some true =>
    let processed ← processCrmExportBatch rt client b
    return some processed

structure CrmTargetUpdateRequest where
  status : Option CrmTargetStatus := none
  exportStatus : Option String := none
  deriving DecidableEq, Repr

def CrmTargetUpdateRequest.apply (request : CrmTargetUpdateRequest) (now : Time)
    (row : CrmTarget) : CrmTarget :=
  { row with
    status := request.status.getD row.status
    exportStatus := request.exportStatus.getD row.exportStatus
    version := row.version + 1
    updatedAt := now }

omit [Casing] in
/-- `update_crm_target`. The display names it also sets are in the snapshots. -/
def updateCrmTarget (rt : ExportRuntime) (t : Id) (request : CrmTargetUpdateRequest) :
    ExportTx (Option Id) := exportScope do
  let some _ ← query (·.crmTargets[t]?) | return none
  write (·.updateTarget t (request.apply rt.now))
  exportFlush
  return some t

end Retry

end GhostRecon
