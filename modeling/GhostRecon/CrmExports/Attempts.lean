import GhostRecon.CrmExports.Operations
import GhostRecon.Lib.Sorted

/-!
What processing a batch does, item by item. An attempt at an item depends on
the item, its target and the record the target stands for; recording it
rewrites the item, its target and adds at most one outbox row. The loop over a
batch is described by the items it has worked off.
-/

namespace GhostRecon

open Lib (Id Table query write perform)

section Attempts

variable [Casing]

/-- What an attempt at an item comes to. -/
inductive Attempt where
  | missing
  | skipped (message : String)
  | refused (error : CrmProviderError)
  | exported (result : CrmExportResult)

/-- An attempt at an item, or what planning or the client raises. -/
def attempt (rt : ExportRuntime) (exporter : CrmExporter) (s : ExportStore)
    (item : CrmExportItem) : Except PyError Attempt :=
  match s.crmTargets[item.crmTargetId]? with
  | none => .ok .missing
  | some target =>
    match planForTarget rt.crm s item.crmTargetId target with
    | .error (.valueError message) => .error (.valueError message)
    | .error (.policySkip message) => .ok (.skipped message)
    | .ok plan =>
      match exporter plan with
      | .error e => .error e
      | .ok (.error error) => .ok (.refused error)
      | .ok (.ok result) => .ok (.exported result)

/-- The calls of the CRM an attempt makes. -/
def attemptCalls (rt : ExportRuntime) (exporter : CrmExporter) (s : ExportStore) (i : Id)
    (item : CrmExportItem) : List ExportCall :=
  match s.crmTargets[item.crmTargetId]? with
  | none => []
  | some target =>
    match planForTarget rt.crm s item.crmTargetId target with
    | .error _ => []
    | .ok plan => [⟨i, item.crmTargetId, target, plan, exporter plan⟩]

omit [Casing] in
/-- The item after the attempt. -/
def Attempt.record (a : Attempt) (now : Time) (row : CrmExportItem) : CrmExportItem :=
  match a with
  | .missing => (row.take now).markFailure now "crm target no longer exists" false none
  | .skipped message => (row.take now).skip now message
  | .refused error =>
    (row.take now).markFailure now error.message error.retryable error.retryAfterSeconds
  | .exported result => (row.take now).succeed now result

/-- The target after the attempt. -/
def Attempt.recordTarget (a : Attempt) (now : Time) (row : CrmTarget) : CrmTarget :=
  match a with
  | .missing => row
  | .skipped _ => { row with exportStatus := "skipped_policy", updatedAt := now }
  | .refused error =>
    { row with
      exportStatus := if error.retryable then "failed_retryable" else "failed_terminal"
      updatedAt := now }
  | .exported _ =>
    { row with
      status := .exported
      exportStatus := "exported"
      version := row.version + 1
      updatedAt := now }

/-- The event the attempt is announced by. -/
def Attempt.event? : Attempt → Option EventName
  | .missing => none
  | .skipped _ | .refused _ => some .crmExportItemFailed
  | .exported _ => some .crmExportItemSucceeded

def Attempt.outboxRows (a : Attempt) (i : Id) (item : CrmExportItem) : List OutboxEvent :=
  (a.event?.map fun name =>
    { eventName := name
      aggregateType := "crm_export_item"
      aggregateId := i
      idempotencyKey := .counted name i (item.attemptCount + 1) }).toList

/-- What the CRM answered fits the columns of the item. -/
def Attempt.fits : Attempt → Bool
  | .missing | .skipped _ => true
  | .refused error => error.retryAfterSeconds.all fitsInteger
  | .exported result =>
    fits? 255 result.providerRecordId && fits? 255 result.providerListId &&
      fits? 255 result.providerListEntryId

def settle (now : Time) (i : Id) (item : CrmExportItem) (a : Attempt) (s : ExportStore) :
    ExportStore :=
  { s with
    exportItems := s.exportItems.modify i (a.record now)
    crmTargets := s.crmTargets.modify item.crmTargetId (a.recordTarget now)
    outbox := s.outbox ++ a.outboxRows i item }

omit [Casing] in
/-- An attempt ends an item's waiting. -/
theorem Attempt.record_status (a : Attempt) (now : Time) (row : CrmExportItem) :
    (a.record now row).status ∈
      [ExportItemStatus.succeeded, .failedRetryable, .failedTerminal, .skippedPolicy] := by
  cases a with
  | missing => simp [Attempt.record, CrmExportItem.markFailure]
  | skipped message => simp [Attempt.record, CrmExportItem.skip]
  | refused error =>
    simp only [Attempt.record, CrmExportItem.markFailure]
    split <;> simp
  | exported result => simp [Attempt.record, CrmExportItem.succeed]

omit [Casing] in
theorem Attempt.record_not_pending (a : Attempt) (now : Time) (row : CrmExportItem) :
    (a.record now row).status ≠ .pending := by
  intro hpending
  have hmember := a.record_status now row
  rw [hpending] at hmember
  simp at hmember

/-- An attempt leaves what identifies the item. -/
structure SameItem (row row' : CrmExportItem) : Prop where
  uuid : row'.uuid = row.uuid
  batchId : row'.batchId = row.batchId
  crmTargetId : row'.crmTargetId = row.crmTargetId

omit [Casing] in
theorem Attempt.record_same (a : Attempt) (now : Time) (row : CrmExportItem) :
    SameItem row (a.record now row) := by
  cases a <;> exact ⟨rfl, rfl, rfl⟩

omit [Casing] in
theorem Attempt.record_attemptCount (a : Attempt) (now : Time) (row : CrmExportItem) :
    (a.record now row).attemptCount = row.attemptCount + 1 := by
  cases a <;> rfl

omit [Casing] in
theorem Attempt.record_fits (a : Attempt) (now : Time) (row : CrmExportItem)
    (hrow : row.fits = true) : (a.record now row).fits = a.fits := by
  simp only [CrmExportItem.fits, Bool.and_eq_true] at hrow
  obtain ⟨⟨⟨⟨⟨htype, hkey⟩, hrecord⟩, hlist⟩, hentry⟩, hretry⟩ := hrow
  cases a <;>
    simp [Attempt.record, Attempt.fits, CrmExportItem.take, CrmExportItem.markFailure,
      CrmExportItem.skip, CrmExportItem.succeed, CrmExportItem.fits, htype, hkey, hrecord, hlist,
      hentry, Bool.and_assoc]

omit [Casing] in
@[simp] theorem Attempt.recordTarget_key (a : Attempt) (now : Time) (row : CrmTarget) :
    (a.recordTarget now row).idempotencyKey = row.idempotencyKey := by
  cases a <;> rfl

end Attempts

section Turns

variable [Casing] {rt : ExportRuntime} {exporter : CrmExporter} {i : Id} {item : CrmExportItem}
  {w : ExportWorld}

/-- An item that is not pending is passed over. -/
theorem processItem_idle (hitem : w.store.exportItems[i]? = some item)
    (hidle : item.status ≠ .pending) : processItem rt exporter i w = .ok ⟨⟩ w := by
  simp only [processItem, Lib.bind_run, Lib.query_run, hitem, if_pos hidle]
  rfl

omit [Casing] in
/-- The two updates of an item, as one. -/
theorem updateItem_updateItem (s : ExportStore) (i : Id) (f g : CrmExportItem → CrmExportItem) :
    (s.updateItem i f).updateItem i g = s.updateItem i (g ∘ f) := by
  simp only [ExportStore.updateItem, List.modify_modify_eq]

/-- A pending item is attempted and the attempt recorded. -/
theorem processItem_settles {a : Attempt} (hitem : w.store.exportItems[i]? = some item)
    (hpending : item.status = .pending) (hattempt : attempt rt exporter w.store item = .ok a) :
    processItem rt exporter i w = .ok ⟨⟩ ⟨settle rt.now i item a w.store,
      ⟨w.external.exports ++ attemptCalls rt exporter w.store i item⟩⟩ := by
  unfold attempt at hattempt
  unfold attemptCalls
  cases htarget : w.store.crmTargets[item.crmTargetId]? with
  | none =>
    simp only [htarget, Except.ok.injEq] at hattempt ⊢
    subst hattempt
    have hstay : w.store.crmTargets.modify item.crmTargetId (Attempt.missing.recordTarget rt.now) =
        w.store.crmTargets :=
      List.modify_id _ _
    simp [processItem, Lib.bind_run, Lib.query_run, Lib.write_run, hitem, hpending, htarget,
      updateItem_updateItem, settle, hstay, Attempt.outboxRows, Attempt.event?]
    rfl
  | some target =>
    have hrecords : SameRecords w.store (w.store.updateItem i fun row => row.take rt.now) :=
      ⟨rfl, rfl, rfl, rfl, rfl, rfl⟩
    have hplan := planForTarget_congr (hrecords.record target) rt.crm item.crmTargetId
    simp only [htarget] at hattempt ⊢
    cases hplanned : planForTarget rt.crm w.store item.crmTargetId target with
    | error e =>
      cases e with
      | valueError message => simp [hplanned] at hattempt
      | policySkip message =>
        simp only [hplanned, Except.ok.injEq] at hattempt ⊢
        subst hattempt
        simp [processItem, Lib.bind_run, Lib.query_run, Lib.write_run, hitem, hpending, htarget,
          hplan, hplanned, updateItem_updateItem]
        rfl
    | ok plan =>
      cases hanswer : exporter plan with
      | error e => simp [hplanned, hanswer] at hattempt
      | ok answer =>
        cases answer with
        | error error =>
          simp only [hplanned, hanswer, Except.ok.injEq] at hattempt ⊢
          subst hattempt
          simp [processItem, Lib.bind_run, Lib.query_run, Lib.write_run, Lib.perform_run, hitem,
            hpending, htarget, hplan, hplanned, hanswer, updateItem_updateItem]
          rfl
        | ok result =>
          simp only [hplanned, hanswer, Except.ok.injEq] at hattempt ⊢
          subst hattempt
          simp [processItem, Lib.bind_run, Lib.query_run, Lib.write_run, Lib.perform_run, hitem,
            hpending, htarget, hplan, hplanned, hanswer, updateItem_updateItem]
          rfl

/-- A target that cannot be planned or a client that raises stops the loop. -/
theorem processItem_raises {e : PyError} (hitem : w.store.exportItems[i]? = some item)
    (hpending : item.status = .pending)
    (hattempt : attempt rt exporter w.store item = .error e) :
    ∃ v, processItem rt exporter i w = .error e v ∧
      v.external.exports = w.external.exports ++ attemptCalls rt exporter w.store i item := by
  unfold attempt at hattempt
  unfold attemptCalls
  cases htarget : w.store.crmTargets[item.crmTargetId]? with
  | none => simp [htarget] at hattempt
  | some target =>
    have hrecords : SameRecords w.store (w.store.updateItem i fun row => row.take rt.now) :=
      ⟨rfl, rfl, rfl, rfl, rfl, rfl⟩
    have hplan := planForTarget_congr (hrecords.record target) rt.crm item.crmTargetId
    simp only [htarget] at hattempt
    cases hplanned : planForTarget rt.crm w.store item.crmTargetId target with
    | error failure =>
      cases failure with
      | valueError message =>
        obtain rfl : .valueError message = e := by simpa [hplanned] using hattempt
        refine ⟨⟨w.store.updateItem i fun row => row.take rt.now, w.external⟩, ?_, ?_⟩
        · simp [processItem, Lib.bind_run, Lib.query_run, Lib.write_run, hitem, hpending, htarget,
            hplan, hplanned]
          rfl
        · simp [hplanned]
      | policySkip message => simp [hplanned] at hattempt
    | ok plan =>
      cases hanswer : exporter plan with
      | error failure =>
        obtain rfl : failure = e := by simpa [hplanned, hanswer] using hattempt
        refine ⟨⟨w.store.updateItem i fun row => row.take rt.now,
          ⟨w.external.exports ++ [⟨i, item.crmTargetId, target, plan, .error failure⟩]⟩⟩, ?_, ?_⟩
        · simp [processItem, Lib.bind_run, Lib.query_run, Lib.write_run, Lib.perform_run, hitem,
            hpending, htarget, hplan, hplanned, hanswer]
          rfl
        · simp [hplanned, hanswer]
      | ok answer => cases answer <;> simp [hplanned, hanswer] at hattempt

end Turns

section Loop

variable [Casing] {rt : ExportRuntime} {exporter : CrmExporter} {s₀ s : ExportStore}

/-- An item after its turn, seen from the store the loop started on. -/
def CrmExportItem.worked (rt : ExportRuntime) (exporter : CrmExporter) (s₀ : ExportStore)
    (row : CrmExportItem) : CrmExportItem :=
  if row.status = .pending then
    match attempt rt exporter s₀ row with
    | .ok a => a.record rt.now row
    | .error _ => row
  else row

theorem CrmExportItem.worked_of {row : CrmExportItem} {a : Attempt}
    (hpending : row.status = .pending) (hattempt : attempt rt exporter s₀ row = .ok a) :
    row.worked rt exporter s₀ = a.record rt.now row := by
  simp [CrmExportItem.worked, hpending, hattempt]

theorem CrmExportItem.worked_idle {row : CrmExportItem} (hidle : row.status ≠ .pending) :
    row.worked rt exporter s₀ = row := by
  simp [CrmExportItem.worked, hidle]

/-- The store after the turns of some items, seen from the store the loop
started on. -/
structure ItemsWorked (rt : ExportRuntime) (exporter : CrmExporter) (s₀ : ExportStore)
    (done : List Id) (s : ExportStore) : Prop where
  frame : s = { s₀ with
    exportItems := s.exportItems
    crmTargets := s.crmTargets
    outbox := s.outbox }
  items : ∀ i, s.exportItems[i]? = (s₀.exportItems[i]?).map fun row =>
    if i ∈ done then row.worked rt exporter s₀ else row
  targets : ∀ t, (∀ i ∈ done, ∀ item, s₀.exportItems[i]? = some item → item.status = .pending →
    item.crmTargetId ≠ t) → s.crmTargets[t]? = s₀.crmTargets[t]?
  recorded : ∀ i ∈ done, ∀ item a, s₀.exportItems[i]? = some item → item.status = .pending →
    attempt rt exporter s₀ item = .ok a →
    s.crmTargets[item.crmTargetId]? =
      (s₀.crmTargets[item.crmTargetId]?).map (a.recordTarget rt.now)
  targetKeys : s.crmTargets.uniqueOn (fun row => some row.idempotencyKey) =
    s₀.crmTargets.uniqueOn (fun row => some row.idempotencyKey)
  outbox : ∃ more, s.outbox = s₀.outbox ++ more ∧ (more.map (·.idempotencyKey)).Nodup ∧
    ∀ row ∈ more, ∃ i ∈ done, ∃ item name, s₀.exportItems[i]? = some item ∧
      item.status = .pending ∧ (name = .crmExportItemFailed ∨ name = .crmExportItemSucceeded) ∧
      row.idempotencyKey = .counted name i (item.attemptCount + 1)

theorem ItemsWorked.start : ItemsWorked rt exporter s₀ [] s₀ where
  frame := rfl
  items := by simp
  targets := fun _ _ => rfl
  recorded := by simp
  targetKeys := rfl
  outbox := ⟨[], by simp, List.nodup_nil, by simp⟩

theorem ItemsWorked.sameRecords {done : List Id} (h : ItemsWorked rt exporter s₀ done s) :
    SameRecords s₀ s := by
  rw [h.frame]
  exact ⟨rfl, rfl, rfl, rfl, rfl, rfl⟩

/-- The two stores agree about the target of an item and the record it stands for. -/
structure SameSubject (item : CrmExportItem) (s s' : ExportStore) : Prop where
  target : s'.crmTargets[item.crmTargetId]? = s.crmTargets[item.crmTargetId]?
  record : ∀ target, s.crmTargets[item.crmTargetId]? = some target → SameRecord target s s'

/-- An attempt depends on the item's own target and its record. -/
theorem attempt_congr {item : CrmExportItem} (h : SameSubject item s₀ s) :
    attempt rt exporter s item = attempt rt exporter s₀ item := by
  unfold attempt
  rw [h.target]
  cases htarget : s₀.crmTargets[item.crmTargetId]? with
  | none => rfl
  | some target => simp only [planForTarget_congr (h.record target htarget)]

theorem attemptCalls_congr {i : Id} {item : CrmExportItem} (h : SameSubject item s₀ s) :
    attemptCalls rt exporter s i item = attemptCalls rt exporter s₀ i item := by
  unfold attemptCalls
  rw [h.target]
  cases htarget : s₀.crmTargets[item.crmTargetId]? with
  | none => rfl
  | some target => simp only [planForTarget_congr (h.record target htarget)]

/-- Items of one batch that are different have different targets. -/
def DistinctTargets (s : ExportStore) (b : Id) : Prop :=
  ∀ (i j : Id) (item other : CrmExportItem), s.exportItems[i]? = some item →
    s.exportItems[j]? = some other → item.batchId = b → other.batchId = b →
    item.crmTargetId = other.crmTargetId → i = j

omit [Casing] in
theorem distinctTargets_of (h : s.constraintsOk = true) (b : Id) : DistinctTargets s b := by
  simp only [ExportStore.constraintsOk, Bool.and_eq_true] at h
  intro i j item other hitem hother hbatch hbatch' htarget
  refine Table.uniqueOn_position h.1.1.1.2 hitem hother (k := (b, item.crmTargetId)) ?_ ?_
  · simp [hbatch]
  · simp [hbatch', htarget]

variable {b : Id} {done : List Id}

/-- The items worked off are items of the batch. -/
def OfBatch (s : ExportStore) (b : Id) (done : List Id) : Prop :=
  ∀ i ∈ done, ∃ item, s.exportItems[i]? = some item ∧ item.batchId = b

/-- The target of an item that had no turn yet is as it was. -/
theorem ItemsWorked.target_fresh (h : ItemsWorked rt exporter s₀ done s)
    (hdistinct : DistinctTargets s₀ b) (hof : OfBatch s₀ b done) {i : Id} {item : CrmExportItem}
    (hitem : s₀.exportItems[i]? = some item) (hbatch : item.batchId = b) (hi : i ∉ done) :
    s.crmTargets[item.crmTargetId]? = s₀.crmTargets[item.crmTargetId]? := by
  apply h.targets
  intro j hj other hother _ hsame
  obtain ⟨other', hother', hbatch'⟩ := hof j hj
  obtain rfl : other = other' := Option.some.inj (hother.symm.trans hother')
  exact hi (hdistinct j i other item hother hitem hbatch' hbatch hsame ▸ hj)

/-- An item that had no turn yet is attempted as from the start. -/
theorem ItemsWorked.subject (h : ItemsWorked rt exporter s₀ done s)
    (hdistinct : DistinctTargets s₀ b) (hof : OfBatch s₀ b done) {i : Id} {item : CrmExportItem}
    (hitem : s₀.exportItems[i]? = some item) (hbatch : item.batchId = b) (hi : i ∉ done) :
    SameSubject item s₀ s where
  target := h.target_fresh hdistinct hof hitem hbatch hi
  record := fun target _ => h.sameRecords.record target

/-- One more turn of a pending item. -/
theorem ItemsWorked.settle (h : ItemsWorked rt exporter s₀ done s)
    (hdistinct : DistinctTargets s₀ b) (hof : OfBatch s₀ b done) {i : Id} {item : CrmExportItem}
    (hitem : s₀.exportItems[i]? = some item) (hbatch : item.batchId = b) (hi : i ∉ done)
    (hpending : item.status = .pending) {a : Attempt}
    (hattempt : attempt rt exporter s₀ item = .ok a) :
    ItemsWorked rt exporter s₀ (done ++ [i]) (GhostRecon.settle rt.now i item a s) where
  frame := by
    rw [h.frame]
    rfl
  items := by
    intro k
    show (s.exportItems.modify i (a.record rt.now))[k]? = _
    rw [List.getElem?_modify, h.items k]
    by_cases hk : i = k
    · subst hk
      simp [hitem, hi, CrmExportItem.worked_of hpending hattempt]
    · have hk' : k ≠ i := fun heq => hk heq.symm
      simp [hk, hk']
  targets := by
    intro t ht
    show (s.crmTargets.modify item.crmTargetId (a.recordTarget rt.now))[t]? = _
    have hne : item.crmTargetId ≠ t := ht i (by simp) item hitem hpending
    rw [List.getElem?_modify_ne _ _ hne]
    exact h.targets t fun j hj => ht j (by simp [hj])
  recorded := by
    intro j hj other a' hother hpending' hattempt'
    show (s.crmTargets.modify item.crmTargetId (a.recordTarget rt.now))[other.crmTargetId]? = _
    rcases List.mem_append.mp hj with hold | hnew
    · obtain ⟨other', hother', hbatch'⟩ := hof j hold
      obtain rfl : other = other' := Option.some.inj (hother.symm.trans hother')
      have hne : item.crmTargetId ≠ other.crmTargetId := by
        intro hsame
        exact hi (hdistinct i j item other hitem hother hbatch hbatch' hsame ▸ hold)
      rw [List.getElem?_modify_ne _ _ hne]
      exact h.recorded j hold other a' hother hpending' hattempt'
    · obtain rfl : j = i := List.mem_singleton.mp hnew
      obtain rfl : other = item := Option.some.inj (hother.symm.trans hitem)
      obtain rfl : a' = a := Except.ok.inj (hattempt'.symm.trans hattempt)
      rw [List.getElem?_modify_eq, h.target_fresh hdistinct hof hitem hbatch hi]
      rfl
  targetKeys := by
    rw [← h.targetKeys]
    exact Table.uniqueOn_modify fun row => by rw [a.recordTarget_key]
  outbox := by
    obtain ⟨more, hmore, hnodup, hkeys⟩ := h.outbox
    refine ⟨more ++ a.outboxRows i item, ?_, ?_, ?_⟩
    · show s.outbox ++ a.outboxRows i item = _
      rw [hmore, List.append_assoc]
    · rw [List.map_append]
      cases hevent : a.event? with
      | none => simpa [Attempt.outboxRows, hevent] using hnodup
      | some name =>
        have hfresh : OutboxKey.counted name i (item.attemptCount + 1) ∉
            more.map (·.idempotencyKey) := by
          intro hmember
          obtain ⟨row, hrow, hkey⟩ := List.mem_map.mp hmember
          obtain ⟨j, hj, _, _, _, _, _, hkey'⟩ := hkeys row hrow
          have hindex : i = j := by
            rw [hkey'] at hkey
            exact (OutboxKey.counted.inj hkey).2.1.symm
          exact hi (hindex ▸ hj)
        simp only [Attempt.outboxRows, hevent, Option.map_some, Option.toList_some, List.map_cons,
          List.map_nil]
        exact List.nodup_append.mpr ⟨hnodup, List.nodup_singleton _, by
          rintro key hkey _ hsingle rfl
          exact hfresh (List.mem_singleton.mp hsingle ▸ hkey)⟩
    · intro row hrow
      rcases List.mem_append.mp hrow with hold | hnew
      · obtain ⟨j, hj, rest⟩ := hkeys row hold
        exact ⟨j, List.mem_append_left _ hj, rest⟩
      · have hname : ∃ name, a.event? = some name ∧
            row.idempotencyKey = .counted name i (item.attemptCount + 1) := by
          unfold Attempt.outboxRows at hnew
          cases hevent : a.event? with
          | none => simp [hevent] at hnew
          | some name =>
            rw [hevent] at hnew
            obtain rfl := List.mem_singleton.mp hnew
            exact ⟨name, rfl, rfl⟩
        obtain ⟨name, hevent, hkey⟩ := hname
        refine ⟨i, by simp, item, name, hitem, hpending, ?_, hkey⟩
        cases a <;> simp [Attempt.event?] at hevent <;> simp [hevent]

/-- One more turn of an item that is not pending. -/
theorem ItemsWorked.pass (h : ItemsWorked rt exporter s₀ done s) {i : Id} {item : CrmExportItem}
    (hitem : s₀.exportItems[i]? = some item) (hidle : item.status ≠ .pending) :
    ItemsWorked rt exporter s₀ (done ++ [i]) s where
  frame := h.frame
  items := by
    intro k
    rw [h.items k]
    by_cases hk : k = i
    · subst hk
      simp [hitem, CrmExportItem.worked_idle hidle]
    · simp [hk]
  targets := fun t ht => h.targets t fun j hj => ht j (by simp [hj])
  recorded := by
    intro j hj other a hother hpending hattempt
    rcases List.mem_append.mp hj with hold | hnew
    · exact h.recorded j hold other a hother hpending hattempt
    · obtain rfl : j = i := List.mem_singleton.mp hnew
      obtain rfl : other = item := Option.some.inj (hother.symm.trans hitem)
      exact absurd hpending hidle
  targetKeys := h.targetKeys
  outbox := by
    obtain ⟨more, hmore, hnodup, hkeys⟩ := h.outbox
    refine ⟨more, hmore, hnodup, ?_⟩
    intro row hrow
    obtain ⟨j, hj, rest⟩ := hkeys row hrow
    exact ⟨j, List.mem_append_left _ hj, rest⟩

/-- The calls the loop makes for its items. -/
def loopCalls (rt : ExportRuntime) (exporter : CrmExporter) (s₀ : ExportStore)
    (items : List (Id × CrmExportItem)) : List ExportCall :=
  items.flatMap fun found =>
    if found.2.status = .pending then attemptCalls rt exporter s₀ found.1 found.2 else []

/-- The items as the transaction loaded them. -/
structure Loaded (s₀ : ExportStore) (b : Id) (done : List Id)
    (items : List (Id × CrmExportItem)) : Prop where
  stored : ∀ found ∈ items, s₀.exportItems[found.1]? = some found.2 ∧ found.2.batchId = b
  fresh : ∀ found ∈ items, found.1 ∉ done
  nodup : (items.map Prod.fst).Nodup

omit [Casing] in
theorem Loaded.rest {found : Id × CrmExportItem} {items : List (Id × CrmExportItem)}
    (h : Loaded s₀ b done (found :: items)) : Loaded s₀ b (done ++ [found.1]) items where
  stored := fun other hother => h.stored other (List.mem_cons_of_mem found hother)
  fresh := by
    intro other hother hmember
    have hnodup := h.nodup
    rw [List.map_cons, List.nodup_cons] at hnodup
    rcases List.mem_append.mp hmember with hold | hnew
    · exact h.fresh other (List.mem_cons_of_mem found hother) hold
    · have hsame : other.1 = found.1 := List.mem_singleton.mp hnew
      exact hnodup.1 (hsame ▸ List.mem_map_of_mem hother)
  nodup := by
    have hnodup := h.nodup
    rw [List.map_cons, List.nodup_cons] at hnodup
    exact hnodup.2

omit [Casing] in
theorem OfBatch.concat {i : Id} {item : CrmExportItem} (h : OfBatch s₀ b done)
    (hitem : s₀.exportItems[i]? = some item) (hbatch : item.batchId = b) :
    OfBatch s₀ b (done ++ [i]) := by
  intro j hj
  rcases List.mem_append.mp hj with hold | hnew
  · exact h j hold
  · obtain rfl : j = i := List.mem_singleton.mp hnew
    exact ⟨item, hitem, hbatch⟩

/-- Where every pending item can be attempted, the loop works all items off. -/
theorem loop_worksOff (hdistinct : DistinctTargets s₀ b) (items : List (Id × CrmExportItem))
    {w : ExportWorld} (h : ItemsWorked rt exporter s₀ done w.store) (hof : OfBatch s₀ b done)
    (hloaded : Loaded s₀ b done items)
    (hall : ∀ found ∈ items, found.2.status = .pending →
      ∃ a, attempt rt exporter s₀ found.2 = .ok a) :
    ∃ v, processItems rt exporter items w = .ok ⟨⟩ v ∧
      ItemsWorked rt exporter s₀ (done ++ items.map Prod.fst) v.store ∧
      v.external.exports = w.external.exports ++ loopCalls rt exporter s₀ items := by
  induction items generalizing done w with
  | nil => exact ⟨w, rfl, by simpa using h, by simp [loopCalls]⟩
  | cons found rest ih =>
    obtain ⟨hstored, hbatch⟩ := hloaded.stored found List.mem_cons_self
    have hfresh := hloaded.fresh found List.mem_cons_self
    have hitem : w.store.exportItems[found.1]? = some found.2 := by
      rw [h.items, hstored]
      simp [hfresh]
    have hrest : ∀ other ∈ rest, other.2.status = .pending →
        ∃ a, attempt rt exporter s₀ other.2 = .ok a := fun other hother =>
      hall other (List.mem_cons_of_mem found hother)
    have hof' := hof.concat hstored hbatch
    rw [processItems, Lib.bind_run]
    by_cases hpending : found.2.status = .pending
    · obtain ⟨a, hattempt⟩ := hall found List.mem_cons_self hpending
      have hsubject := h.subject hdistinct hof hstored hbatch hfresh
      have hattempt' : attempt rt exporter w.store found.2 = .ok a := by
        rw [attempt_congr hsubject]
        exact hattempt
      rw [processItem_settles hitem hpending hattempt',
        attemptCalls_congr hsubject]
      have hsettled := h.settle hdistinct hof hstored hbatch hfresh hpending hattempt
      obtain ⟨v, hrun, hv, hcalls⟩ := ih (w := ⟨settle rt.now found.1 found.2 a w.store,
        ⟨w.external.exports ++ attemptCalls rt exporter s₀ found.1 found.2⟩⟩) hsettled hof'
        hloaded.rest hrest
      refine ⟨v, hrun, by simpa using hv, ?_⟩
      rw [hcalls]
      simp [loopCalls, hpending]
    · rw [processItem_idle hitem hpending]
      obtain ⟨v, hrun, hv, hcalls⟩ := ih (h.pass hstored hpending) hof' hloaded.rest hrest
      refine ⟨v, hrun, by simpa using hv, ?_⟩
      rw [hcalls]
      simp [loopCalls, hpending]

/-- The item's turn raises. -/
def CrmExportItem.raises (rt : ExportRuntime) (exporter : CrmExporter) (s : ExportStore)
    (row : CrmExportItem) : Bool :=
  row.status == .pending && !(attempt rt exporter s row).isOk

/-- The items that have their turn: those up to the first that raises. -/
def reached (rt : ExportRuntime) (exporter : CrmExporter) (s : ExportStore)
    (items : List (Id × CrmExportItem)) : List (Id × CrmExportItem) :=
  Lib.upToFirst (fun found => found.2.raises rt exporter s) items

theorem CrmExportItem.raises_iff {row : CrmExportItem} :
    row.raises rt exporter s₀ = true ↔
      row.status = .pending ∧ ∃ e, attempt rt exporter s₀ row = .error e := by
  unfold CrmExportItem.raises
  cases attempt rt exporter s₀ row with
  | ok a => simp [Except.isOk, Except.toBool]
  | error e => simp [Except.isOk, Except.toBool]

/-- A pending item that raises ends the loop with its error; no item after it is exported. -/
theorem loop_raises (hdistinct : DistinctTargets s₀ b) (items : List (Id × CrmExportItem))
    {w : ExportWorld} (h : ItemsWorked rt exporter s₀ done w.store) (hof : OfBatch s₀ b done)
    (hloaded : Loaded s₀ b done items)
    (hbad : ∃ found ∈ items, found.2.raises rt exporter s₀ = true) :
    ∃ e v, processItems rt exporter items w = .error e v ∧
      v.external.exports =
        w.external.exports ++ loopCalls rt exporter s₀ (reached rt exporter s₀ items) := by
  induction items generalizing done w with
  | nil => obtain ⟨_, hmember, -⟩ := hbad; cases hmember
  | cons found rest ih =>
    obtain ⟨hstored, hbatch⟩ := hloaded.stored found List.mem_cons_self
    have hfresh := hloaded.fresh found List.mem_cons_self
    have hitem : w.store.exportItems[found.1]? = some found.2 := by
      rw [h.items, hstored]
      simp [hfresh]
    have hof' := hof.concat hstored hbatch
    have hsubject := h.subject hdistinct hof hstored hbatch hfresh
    rw [processItems, Lib.bind_run]
    by_cases hraises : found.2.raises rt exporter s₀ = true
    · obtain ⟨hpending, e, hattempt⟩ := CrmExportItem.raises_iff.mp hraises
      obtain ⟨v, hrun, hexternal⟩ := processItem_raises hitem hpending
        ((attempt_congr hsubject).trans hattempt)
      have hreached : reached rt exporter s₀ (found :: rest) = [found] :=
        Lib.upToFirst_cons_of_pos hraises
      rw [hrun]
      refine ⟨e, v, rfl, ?_⟩
      rw [hexternal, hreached, attemptCalls_congr hsubject]
      simp [loopCalls, hpending]
    · have hlater : ∃ other ∈ rest, other.2.raises rt exporter s₀ = true := by
        obtain ⟨other, hmember, hother⟩ := hbad
        rcases List.mem_cons.mp hmember with rfl | hrest
        · exact absurd hother hraises
        · exact ⟨other, hrest, hother⟩
      have hreached : reached rt exporter s₀ (found :: rest) =
          found :: reached rt exporter s₀ rest := Lib.upToFirst_cons_of_neg hraises
      rw [hreached]
      by_cases hpending : found.2.status = .pending
      · cases hattempt : attempt rt exporter s₀ found.2 with
        | error e =>
          exact absurd (CrmExportItem.raises_iff.mpr ⟨hpending, _, hattempt⟩) hraises
        | ok a =>
          rw [processItem_settles hitem hpending ((attempt_congr hsubject).trans hattempt),
            attemptCalls_congr hsubject]
          have hsettled := h.settle hdistinct hof hstored hbatch hfresh hpending hattempt
          obtain ⟨e, v, hrun, hcalls⟩ := ih
            (w := ⟨settle rt.now found.1 found.2 a w.store,
              ⟨w.external.exports ++ attemptCalls rt exporter s₀ found.1 found.2⟩⟩) hsettled hof'
            hloaded.rest hlater
          refine ⟨e, v, hrun, ?_⟩
          rw [hcalls]
          simp [loopCalls, hpending]
      · rw [processItem_idle hitem hpending]
        obtain ⟨e, v, hrun, hcalls⟩ := ih (h.pass hstored hpending) hof' hloaded.rest hlater
        refine ⟨e, v, hrun, ?_⟩
        rw [hcalls]
        simp [loopCalls, hpending]

end Loop

end GhostRecon
