import GhostRecon.CrmExports.Batches
import GhostRecon.Lib.Run

/-!
Runs of the export operations, with the other services at work in between. In
every world they reach the outbox keys of the next attempts are fresh, so
whether a batch finishes is decided by its own items: by whether each pending
one can be planned, and nothing else.
-/

namespace GhostRecon

open Lib (Id Table query write perform after)
open Incidents (SecurityIncident)
open Events (CyberEvent EventParticipant)

section Keys

variable [Casing] {s s' : ExportStore}

/-- What a step leaves that exports nothing: no attempt is announced, the items
keep their attempts, and a batch that is opened again has an item to process. -/
structure KeepsKeys (s s' : ExportStore) : Prop where
  outbox : ∀ row ∈ s'.outbox, row ∈ s.outbox ∨ row.idempotencyKey.ofExport = false
  items : ∀ (i : Id) (row : CrmExportItem), s.exportItems[i]? = some row →
    ∃ row' : CrmExportItem, s'.exportItems[i]? = some row' ∧ row'.batchId = row.batchId ∧
      row'.attemptCount = row.attemptCount ∧ (row.status = .pending → row'.status = .pending)
  attempts : ∀ b, attempts s b ≤ attempts s' b
  batches : ∀ (b : Id) (row : CrmExportBatch), s.exportBatches[b]? = some row →
    ∃ row' : CrmExportBatch, s'.exportBatches[b]? = some row' ∧
      (row'.completedAt = row.completedAt ∨ HasPending s' b)

omit [Casing] in
theorem KeepsKeys.hasPending (h : KeepsKeys s s') {b : Id} (hpending : HasPending s b) :
    HasPending s' b := by
  obtain ⟨i, item, hitem, hof, hstatus⟩ := hpending
  obtain ⟨row, hrow, hbatch, -, hkept⟩ := h.items i item hitem
  exact ⟨i, row, hrow, hbatch.trans hof, hkept hstatus⟩

omit [Casing] in
theorem FreshKeys.keep (h : FreshKeys s) (hkeep : KeepsKeys s s') : FreshKeys s' where
  items := by
    intro row hrow name i n hname hkey
    rcases hkeep.outbox row hrow with hold | hother
    · obtain ⟨item, hitem, hle⟩ := h.items row hold name i n hname hkey
      obtain ⟨item', hitem', -, hcount, -⟩ := hkeep.items i item hitem
      exact ⟨item', hitem', hcount ▸ hle⟩
    · rw [hkey] at hother
      rcases hname with rfl | rfl <;> cases hother
  batches := by
    intro row hrow b n hkey
    rcases hkeep.outbox row hrow with hold | hother
    · obtain ⟨batch, hbatch, hle, hpending⟩ := h.batches row hold b n hkey
      obtain ⟨batch', hbatch', hreopened⟩ := hkeep.batches b batch hbatch
      refine ⟨batch', hbatch', hle.trans (hkeep.attempts b), ?_⟩
      intro hnone
      rcases hreopened with hsame | hopen
      · exact hkeep.hasPending (hpending (hsame ▸ hnone))
      · exact hopen
    · rw [hkey] at hother
      cases hother

/-- The keys a processed batch announces are those of its attempts. -/
theorem ItemsWorked.freshKeys {rt : ExportRuntime} {exporter : CrmExporter} {b : Id} {now : Time}
    (h : ItemsWorked rt exporter s (batchPositions s b) s') (hfresh : FreshKeys s)
    {batch : CrmExportBatch} (hbatch : s.exportBatches[b]? = some batch)
    (hall : ∀ (i : Id) (item : CrmExportItem), s.exportItems[i]? = some item →
      item.batchId = b → item.status = .pending → ∃ a, attempt rt exporter s item = .ok a) :
    FreshKeys (completeBatch now b s') := by
  have hframe : s'.exportBatches = s.exportBatches := by
    rw [h.frame]
  have hrow : ∀ (i : Id) (item : CrmExportItem), s.exportItems[i]? = some item →
      ∃ item', s'.exportItems[i]? = some item' ∧ item.attemptCount ≤ item'.attemptCount := by
    intro i item hitem
    refine ⟨_, by rw [h.items i, hitem, Option.map_some], ?_⟩
    split
    · exact item.worked_attemptCount
    · exact Nat.le_refl _
  obtain ⟨more, hmore, -, hkeys⟩ := h.outbox
  refine ⟨?_, ?_⟩
  · intro row hmem name i n hname hkey
    rw [completeBatch_outbox, hmore] at hmem
    rcases List.mem_append.mp hmem with hitems | hlast
    · rcases List.mem_append.mp hitems with hold | hnew
      · obtain ⟨item, hitem, hle⟩ := hfresh.items row hold name i n hname hkey
        obtain ⟨item', hitem', hcount⟩ := hrow i item hitem
        exact ⟨item', hitem', hle.trans hcount⟩
      · obtain ⟨j, hj, item, name', hitem, hpending, -, hkey'⟩ := hkeys row hnew
        obtain ⟨-, hij, hn⟩ := OutboxKey.counted.inj (hkey.symm.trans hkey')
        subst hij hn
        obtain ⟨item', hitem', hof⟩ := mem_batchPositions.mp hj
        obtain rfl : item = item' := Option.some.inj (hitem.symm.trans hitem')
        obtain ⟨a, hattempt⟩ := hall i item hitem hof hpending
        refine ⟨a.record rt.now item, ?_, by rw [a.record_attemptCount]⟩
        show s'.exportItems[i]? = _
        rw [h.items i, hitem, Option.map_some, if_pos hj, CrmExportItem.worked_of hpending hattempt]
    · obtain rfl := List.mem_singleton.mp hlast
      have hevent := (OutboxKey.counted.inj hkey).1
      rcases hname with rfl | rfl <;> cases hevent
  · intro row hmem b' n hkey
    have hattempts : attempts (completeBatch now b s') b' = attempts s' b' := rfl
    have hbatches : (completeBatch now b s').exportBatches = s'.exportBatches.modify b _ := rfl
    rw [hattempts, hbatches, hframe]
    rw [completeBatch_outbox, hmore] at hmem
    rcases List.mem_append.mp hmem with hitems | hlast
    · rcases List.mem_append.mp hitems with hold | hnew
      · obtain ⟨batch', hbatch', hle, hpending⟩ := hfresh.batches row hold b' n hkey
        by_cases hb : b = b'
        · subst hb
          obtain rfl : batch' = batch := Option.some.inj (hbatch'.symm.trans hbatch)
          refine ⟨_, by rw [List.getElem?_modify_eq, hbatch]; rfl, hle.trans (h.attempts_le b), ?_⟩
          intro hnone
          cases hnone
        · refine ⟨batch', ?_, hle.trans (h.attempts_le b'), ?_⟩
          · rw [List.getElem?_modify_ne _ _ hb]
            exact hbatch'
          · intro hnone
            obtain ⟨i, item, hitem, hof, hstatus⟩ := hpending hnone
            have hout : i ∉ batchPositions s b := by
              intro hi
              obtain ⟨item', hitem', hof'⟩ := mem_batchPositions.mp hi
              obtain rfl : item = item' := Option.some.inj (hitem.symm.trans hitem')
              exact hb (hof'.symm.trans hof)
            refine ⟨i, item, ?_, hof, hstatus⟩
            show s'.exportItems[i]? = _
            rw [h.items i, hitem, Option.map_some, if_neg hout]
      · obtain ⟨j, -, item, name', -, -, hname, hkey'⟩ := hkeys row hnew
        have hevent := (OutboxKey.counted.inj (hkey.symm.trans hkey')).1
        rcases hname with rfl | rfl <;> cases hevent
    · obtain rfl := List.mem_singleton.mp hlast
      obtain ⟨-, hb, hn⟩ := OutboxKey.counted.inj hkey
      subst hb hn
      refine ⟨_, by rw [List.getElem?_modify_eq, hbatch]; rfl, Nat.le_refl _, ?_⟩
      intro hnone
      cases hnone

end Keys

section Transactions

variable [Casing] {rt : ExportRuntime} {w : ExportWorld} {b : Id}

/-- The store with a new batch and its items. -/
def ExportStore.opened (rt : ExportRuntime) (request : CrmExportCreateRequest)
    (actor key : String) (s : ExportStore) : ExportStore :=
  ((s.addBatch (newBatch rt request actor key)).addItems rt s.exportBatches.length
    (uniqueOrdered request.crmTargetIds)).announceBatch s.exportBatches.length

/-- How opening a batch ends: it was there already, was refused, or is new. -/
theorem openBatch_cases (rt : ExportRuntime) (request : CrmExportCreateRequest)
    (actor key : String) (hok : w.store.constraintsOk = true) :
    (∃ existing, openBatch rt request actor key w = .ok (existing, true) w) ∨
      (∃ e, openBatch rt request actor key w = .error e w) ∨
      w.store.exportBatches.first? (·.idempotencyKey == key) = none ∧
        requireExportableTargets w.store (uniqueOrdered request.crmTargetIds) = .ok () ∧
        openBatch rt request actor key w = .ok (w.store.exportBatches.length, false)
          ⟨w.store.opened rt request actor key, w.external⟩ ∧
        (w.store.opened rt request actor key).constraintsOk = true := by
  unfold openBatch exportScope
  rw [Lib.sessionScope_run]
  simp only [Lib.bind_run, Lib.query_run]
  cases hfound : w.store.exportBatches.first? (·.idempotencyKey == key) with
  | some found =>
    refine Or.inl ⟨found.1, ?_⟩
    simp only [Lib.pure_run, hok, if_true]
  | none =>
    simp only [Lib.bind_run, Lib.queryOrRaise_run]
    cases hrequire : requireExportableTargets w.store (uniqueOrdered request.crmTargetIds) with
    | error e => exact Or.inr (Or.inl ⟨e, rfl⟩)
    | ok u =>
      simp only [Lib.query_run, Lib.write_run, exportFlush, Lib.flush_run]
      cases hbatch : (w.store.addBatch (newBatch rt request actor key)).constraintsOk with
      | false => exact Or.inr (Or.inl ⟨_, rfl⟩)
      | true =>
        cases hitems : ((w.store.addBatch (newBatch rt request actor key)).addItems rt
            w.store.exportBatches.length (uniqueOrdered request.crmTargetIds)).constraintsOk with
        | false =>
          refine Or.inr (Or.inl ⟨.integrityError, ?_⟩)
          simp only [hitems, if_true]
          rfl
        | true =>
          cases hvalid : (w.store.opened rt request actor key).constraintsOk with
          | false =>
            refine Or.inr (Or.inl ⟨.integrityError, ?_⟩)
            unfold ExportStore.opened at hvalid
            simp only [hitems, hvalid, if_true, Lib.pure_run]
            rfl
          | true =>
            refine Or.inr (Or.inr ⟨trivial, trivial, ?_, rfl⟩)
            unfold ExportStore.opened at hvalid ⊢
            simp only [hitems, hvalid, if_true, Lib.pure_run]

/-- The store with the items of a batch that a retry takes up made pending again. -/
def ExportStore.reopened (rt : ExportRuntime) (b : Id) (request : CrmExportRetryRequest)
    (s : ExportStore) : ExportStore :=
  (s.updateItems (fun i row => row.batchId == b && request.takes i row)
    (·.reopen rt.now)).updateBatch b fun row =>
      { row with status := .running, completedAt := none, updatedAt := rt.now }

/-- A retry takes up an item of the batch. -/
def TakesSome (s : ExportStore) (b : Id) (request : CrmExportRetryRequest) : Prop :=
  ∃ (i : Id) (item : CrmExportItem), s.exportItems[i]? = some item ∧ item.batchId = b ∧
    request.takes i item = true

omit [Casing] in
theorem takesSome_iff {s : ExportStore} {request : CrmExportRetryRequest} :
    ((batchItems s b).any fun item => request.takes item.1 item.2) = true ↔
      TakesSome s b request := by
  rw [List.any_eq_true]
  constructor
  · rintro ⟨found, hfound, htakes⟩
    obtain ⟨hstored, hof⟩ := mem_batchItems.mp hfound
    exact ⟨found.1, found.2, hstored, hof, htakes⟩
  · rintro ⟨i, item, hstored, hof, htakes⟩
    exact ⟨(i, item), mem_batchItems.mpr ⟨hstored, hof⟩, htakes⟩

omit [Casing] in
/-- How the first half of a retry ends: there is nothing to retry, it was refused, or
the items are pending again. -/
theorem reopenItems_cases (rt : ExportRuntime) (request : CrmExportRetryRequest)
    (hok : w.store.constraintsOk = true) :
    (∃ r, r ≠ some true ∧ reopenItems rt b request w = .ok r w) ∨
      (∃ e, reopenItems rt b request w = .error e w) ∨
      (∃ batch, w.store.exportBatches[b]? = some batch) ∧ TakesSome w.store b request ∧
        reopenItems rt b request w =
          .ok (some true) ⟨w.store.reopened rt b request, w.external⟩ ∧
        (w.store.reopened rt b request).constraintsOk = true := by
  unfold reopenItems exportScope
  rw [Lib.sessionScope_run]
  simp only [Lib.bind_run, Lib.query_run]
  cases hbatch : w.store.exportBatches[b]? with
  | none =>
    refine Or.inl ⟨none, by simp, ?_⟩
    simp only [Lib.pure_run, hok, if_true]
  | some batch =>
    simp only [Lib.bind_run, Lib.query_run]
    by_cases htakes : TakesSome w.store b request
    · have hany := takesSome_iff.mpr htakes
      simp only [hany, not_true_eq_false, if_false, Lib.bind_run, Lib.write_run, Lib.pure_run]
      cases hvalid : (w.store.reopened rt b request).constraintsOk with
      | false =>
        refine Or.inr (Or.inl ⟨.integrityError, ?_⟩)
        unfold ExportStore.reopened at hvalid
        simp only [hvalid]
        rfl
      | true =>
        refine Or.inr (Or.inr ⟨⟨batch, rfl⟩, htakes, ?_, rfl⟩)
        unfold ExportStore.reopened at hvalid ⊢
        simp only [hvalid, if_true]
    · have hnone : ((batchItems w.store b).any fun item =>
          request.takes item.1 item.2) = false := by
        rw [← Bool.not_eq_true, takesSome_iff]
        exact htakes
      refine Or.inl ⟨some false, by simp, ?_⟩
      simp only [hnone, Bool.false_eq_true, not_false_eq_true, if_true, Lib.pure_run, hok]

omit [Casing] in
/-- An update rewrites the target, or nothing. -/
theorem updateCrmTarget_cases (rt : ExportRuntime) (t : Id) (request : CrmTargetUpdateRequest) :
    after (updateCrmTarget rt t request) w = w ∨
      after (updateCrmTarget rt t request) w =
          ⟨w.store.updateTarget t (request.apply rt.now), w.external⟩ ∧
        (w.store.updateTarget t (request.apply rt.now)).constraintsOk = true := by
  unfold after updateCrmTarget exportScope
  rw [Lib.sessionScope_run]
  simp only [Lib.bind_run, Lib.query_run]
  cases htarget : w.store.crmTargets[t]? with
  | none =>
    simp only [Lib.pure_run]
    cases w.store.constraintsOk <;> exact Or.inl rfl
  | some target =>
    simp only [Lib.bind_run, Lib.write_run, exportFlush, Lib.flush_run, Lib.pure_run]
    cases hvalid : (w.store.updateTarget t (request.apply rt.now)).constraintsOk with
    | false => exact Or.inl rfl
    | true =>
      refine Or.inr ⟨?_, rfl⟩
      simp only [hvalid, if_true]

end Transactions

section Kept

variable [Casing] {rt : ExportRuntime} {s s' : ExportStore} {b : Id}

omit [Casing] in
/-- A store whose items, batches and announced attempts are the same. -/
theorem KeepsKeys.of_same (hitems : s'.exportItems = s.exportItems)
    (hbatches : s'.exportBatches = s.exportBatches)
    (houtbox : ∀ row ∈ s'.outbox, row ∈ s.outbox ∨ row.idempotencyKey.ofExport = false) :
    KeepsKeys s s' where
  outbox := houtbox
  items := fun i row hrow => ⟨row, hitems ▸ hrow, rfl, rfl, id⟩
  attempts := by
    intro b
    unfold GhostRecon.attempts
    rw [hitems]
  batches := fun b row hrow => ⟨row, hbatches ▸ hrow, Or.inl rfl⟩

theorem opened_keepsKeys (request : CrmExportCreateRequest) (actor key : String) :
    KeepsKeys s (s.opened rt request actor key) where
  outbox := by
    intro row hrow
    rcases List.mem_append.mp hrow with hold | hnew
    · exact Or.inl hold
    · obtain rfl := List.mem_singleton.mp hnew
      exact Or.inr rfl
  items := by
    intro i row hrow
    refine ⟨row, ?_, rfl, rfl, id⟩
    exact Table.get_of_prefix (List.prefix_append _ _) i row hrow
  attempts := by
    intro b
    unfold attempts
    show _ ≤ ((s.exportItems ++ createItems rt _ _ _).map _).sum
    rw [List.map_append, List.sum_append]
    exact Nat.le_add_right _ _
  batches := by
    intro b row hrow
    refine ⟨row, ?_, Or.inl rfl⟩
    exact Table.get_of_prefix (List.prefix_append _ _) b row hrow

omit [Casing] in
theorem reopened_item (request : CrmExportRetryRequest) (i : Id) :
    (s.reopened rt b request).exportItems[i]? = (s.exportItems[i]?).map fun row =>
      if row.batchId == b && request.takes i row then row.reopen rt.now else row := by
  show (s.exportItems.mapIdx _)[i]? = _
  rw [List.getElem?_mapIdx]

omit [Casing] in
theorem reopened_keepsKeys {request : CrmExportRetryRequest} (h : TakesSome s b request) :
    KeepsKeys s (s.reopened rt b request) where
  outbox := fun row hrow => Or.inl hrow
  items := by
    intro i row hrow
    refine ⟨_, by rw [reopened_item, hrow]; rfl, ?_, ?_, ?_⟩
    · dsimp only
      split <;> rfl
    · dsimp only
      split <;> rfl
    · intro hpending
      dsimp only
      split
      · rfl
      · exact hpending
  attempts := by
    intro b'
    apply Nat.le_of_eq
    unfold attempts
    apply congrArg List.sum
    apply List.ext_getElem?
    intro i
    rw [List.getElem?_map, List.getElem?_map, reopened_item, Option.map_map]
    congr 1
    funext row
    simp only [Function.comp_apply]
    cases row.batchId == b && request.takes i row <;> rfl
  batches := by
    intro b' row hrow
    by_cases hb : b = b'
    · subst hb
      obtain ⟨i, item, hitem, hof, htakes⟩ := h
      refine ⟨{ row with status := .running, completedAt := none, updatedAt := rt.now }, ?_,
        Or.inr ⟨i, item.reopen rt.now, ?_, hof, rfl⟩⟩
      · show (s.exportBatches.modify b _)[b]? = _
        rw [List.getElem?_modify_eq, hrow]
        rfl
      · rw [reopened_item, hitem]
        simp [hof, htakes]
    · refine ⟨row, ?_, Or.inl rfl⟩
      show (s.exportBatches.modify b _)[b']? = _
      rw [List.getElem?_modify_ne _ _ hb]
      exact hrow

end Kept

section Machine

variable [Casing] {rt : ExportRuntime} {w : ExportWorld} {b : Id}

/-- What the other services may rewrite, and the targets and notices they add. -/
structure ExportRecords where
  accounts : Table Account := []
  contacts : Table Contact := []
  emailCandidates : Table EmailCandidateRecord := []
  cyberEvents : Table CyberEvent := []
  securityIncidents : Table SecurityIncident := []
  participants : Table EventParticipant := []
  targets : List CrmTarget := []
  outbox : List OutboxEvent := []

def ExportRecords.replace (records : ExportRecords) (s : ExportStore) : ExportStore :=
  { s with
    accounts := records.accounts
    contacts := records.contacts
    emailCandidates := records.emailCandidates
    cyberEvents := records.cyberEvents
    securityIncidents := records.securityIncidents
    participants := records.participants
    crmTargets := s.crmTargets ++ records.targets
    outbox := s.outbox ++ records.outbox }

/-- The database accepts what the other services wrote, and none of it announces an
export. -/
def ExportRecords.accepted (records : ExportRecords) (s : ExportStore) : Bool :=
  (records.replace s).constraintsOk && records.outbox.all (!·.idempotencyKey.ofExport)

inductive ExportOp where
  | start (client : CrmClient) (request : CrmExportCreateRequest) (actor key : String)
  | retry (client : CrmClient) (b : Id) (request : CrmExportRetryRequest)
  | process (client : CrmClient) (b : Id)
  | update (t : Id) (request : CrmTargetUpdateRequest)
  | elsewhere (records : ExportRecords)

structure ExportStep where
  rt : ExportRuntime
  op : ExportOp

/-- One operation, to its end. -/
def exportStep (w : ExportWorld) (c : ExportStep) : ExportWorld :=
  match c.op with
  | .start client request actor key => after (startCrmExport c.rt client request actor key) w
  | .retry client b request => after (retryFailedCrmExportItems c.rt client b request) w
  | .process client b => after (processCrmExportBatch c.rt client b) w
  | .update t request => after (updateCrmTarget c.rt t request) w
  | .elsewhere records =>
    if records.accepted w.store then { w with store := records.replace w.store } else w

def runExports (w : ExportWorld) (steps : List ExportStep) : ExportWorld :=
  Lib.run exportStep w steps

/-- Nothing was exported yet. -/
structure ExportsInitial (w : ExportWorld) : Prop where
  constraints : w.store.constraintsOk = true
  batches : w.store.exportBatches = []
  items : w.store.exportItems = []
  outbox : ∀ row ∈ w.store.outbox, row.idempotencyKey.ofExport = false
  exports : w.external.exports = []

def ReachableExports (w : ExportWorld) : Prop :=
  ∃ init steps, ExportsInitial init ∧ w = runExports init steps

/-- A store the export operations leave. -/
structure ExportStore.Sound (s : ExportStore) : Prop where
  constraints : s.constraintsOk = true
  fresh : FreshKeys s

omit [Casing] in
theorem ExportsInitial.sound (h : ExportsInitial w) : w.store.Sound where
  constraints := h.constraints
  fresh := by
    refine ⟨?_, ?_⟩
    · intro row hrow name i n hname hkey
      have hother := h.outbox row hrow
      rw [hkey] at hother
      rcases hname with rfl | rfl <;> cases hother
    · intro row hrow b n hkey
      have hother := h.outbox row hrow
      rw [hkey] at hother
      cases hother

/-- Starting an export comes to nothing, or opens a batch and processes it. -/
theorem startCrmExport_cases (rt : ExportRuntime) (client : CrmClient)
    (request : CrmExportCreateRequest) (actor key : String) (hok : w.store.constraintsOk = true) :
    after (startCrmExport rt client request actor key) w = w ∨
      w.store.exportBatches.first? (·.idempotencyKey == key) = none ∧
        requireExportableTargets w.store (uniqueOrdered request.crmTargetIds) = .ok () ∧
        (w.store.opened rt request actor key).constraintsOk = true ∧
        after (startCrmExport rt client request actor key) w =
          after (processCrmExportBatch rt client w.store.exportBatches.length)
            ⟨w.store.opened rt request actor key, w.external⟩ := by
  unfold startCrmExport
  rcases openBatch_cases rt request actor key hok with
    ⟨existing, hrun⟩ | ⟨e, hrun⟩ | ⟨hnew, hrequire, hrun, hvalid⟩
  · refine Or.inl ?_
    unfold after
    rw [Lib.bind_run, hrun]
    rfl
  · refine Or.inl ?_
    unfold after
    rw [Lib.bind_run, hrun]
  · refine Or.inr ⟨hnew, hrequire, hvalid, ?_⟩
    unfold after
    rw [Lib.bind_run, hrun]
    rfl

/-- A retry comes to nothing, or reopens items and processes the batch. -/
theorem retryFailedCrmExportItems_cases (rt : ExportRuntime) (client : CrmClient)
    (request : CrmExportRetryRequest) (hok : w.store.constraintsOk = true) :
    after (retryFailedCrmExportItems rt client b request) w = w ∨
      TakesSome w.store b request ∧ (w.store.reopened rt b request).constraintsOk = true ∧
        after (retryFailedCrmExportItems rt client b request) w =
          after (processCrmExportBatch rt client b)
            ⟨w.store.reopened rt b request, w.external⟩ := by
  unfold retryFailedCrmExportItems
  rcases reopenItems_cases rt (b := b) request hok with
    ⟨r, hr, hrun⟩ | ⟨e, hrun⟩ | ⟨-, htakes, hrun, hvalid⟩
  · refine Or.inl ?_
    unfold after
    rw [Lib.bind_run, hrun]
    rcases r with _ | _ | _
    · rfl
    · rfl
    · exact absurd rfl hr
  · refine Or.inl ?_
    unfold after
    rw [Lib.bind_run, hrun]
  · refine Or.inr ⟨htakes, hvalid, ?_⟩
    unfold after
    rw [Lib.bind_run, hrun]
    dsimp only
    rw [Lib.bind_run]
    cases processCrmExportBatch rt client b
      ⟨w.store.reopened rt b request, w.external⟩ <;> rfl

/-- A batch whose processing comes to nothing, or that is worked off. -/
theorem processBatch_cases (rt : ExportRuntime) (exporter : CrmExporter) (h : w.store.Sound) :
    (after (processBatch rt exporter b) w).store = w.store ∨
      ∃ (batch : CrmExportBatch) (v : ExportWorld), w.store.exportBatches[b]? = some batch ∧
        BatchSettles rt exporter w.store b ∧
        after (processBatch rt exporter b) w = ⟨completeBatch rt.now b v.store, v.external⟩ ∧
        (completeBatch rt.now b v.store).constraintsOk = true ∧
        ItemsWorked rt exporter w.store (batchPositions w.store b) v.store ∧
        v.external.exports =
          w.external.exports ++ loopCalls rt exporter w.store (batchItems w.store b) := by
  cases hbatch : w.store.exportBatches[b]? with
  | none =>
    refine Or.inl ?_
    unfold after processBatch exportScope
    rw [Lib.sessionScope_run]
    simp only [Lib.bind_run, Lib.query_run, hbatch]
    rfl
  | some batch =>
    by_cases hopen : batch.completedAt = none ∨ HasPending w.store b
    · by_cases hsettles : BatchSettles rt exporter w.store b
      · obtain ⟨v, hrun, hvalid, hworked, hcalls⟩ :=
          processBatch_completes hbatch h.constraints h.fresh hopen hsettles
        refine Or.inr ⟨batch, v, rfl, hsettles, ?_, hvalid, hworked, hcalls⟩
        unfold after
        rw [hrun]
      · obtain ⟨e, v, hrun, hstore⟩ :=
          processBatch_rolls_back hbatch h.constraints h.fresh hsettles
        refine Or.inl ?_
        unfold after
        rw [hrun]
        exact hstore
    · rw [not_or] at hopen
      have hdone : batch.completedAt.isSome = true := Option.isSome_iff_ne_none.mpr hopen.1
      refine Or.inl ?_
      unfold after
      rw [processBatch_idle hbatch h.constraints hdone hopen.2]

theorem BatchSettles.attempted {exporter : CrmExporter} {s : ExportStore}
    (h : BatchSettles rt exporter s b) (i : Id) (item : CrmExportItem)
    (hitem : s.exportItems[i]? = some item) (hof : item.batchId = b)
    (hpending : item.status = .pending) : ∃ a, attempt rt exporter s item = .ok a := by
  obtain ⟨a, hattempt, -⟩ := h i item hitem hof hpending
  exact ⟨a, hattempt⟩

theorem processCrmExportBatch_sound (client : CrmClient) (h : w.store.Sound) :
    (after (processCrmExportBatch rt client b) w).store.Sound := by
  cases client with
  | unavailable message => exact h
  | available exporter =>
    rcases processBatch_cases rt exporter (b := b) h with
      hsame | ⟨batch, v, hbatch, hsettles, hrun, hvalid, hworked, -⟩
    · show (after (processBatch rt exporter b) w).store.Sound
      rw [hsame]
      exact h
    · show (after (processBatch rt exporter b) w).store.Sound
      rw [hrun]
      exact ⟨hvalid, hworked.freshKeys h.fresh hbatch hsettles.attempted⟩

/-- Every operation leaves the database as it accepts it, with fresh keys. -/
theorem exportStep_sound (c : ExportStep) (h : w.store.Sound) : (exportStep w c).store.Sound := by
  obtain ⟨rt, op⟩ := c
  cases op with
  | start client request actor key =>
    show (after (startCrmExport rt client request actor key) w).store.Sound
    rcases startCrmExport_cases rt client request actor key h.constraints with
      hsame | ⟨-, -, hvalid, hrun⟩
    · rw [hsame]
      exact h
    · rw [hrun]
      exact processCrmExportBatch_sound client
        ⟨hvalid, h.fresh.keep (opened_keepsKeys request actor key)⟩
  | retry client b request =>
    show (after (retryFailedCrmExportItems rt client b request) w).store.Sound
    rcases retryFailedCrmExportItems_cases rt (b := b) client request h.constraints with
      hsame | ⟨htakes, hvalid, hrun⟩
    · rw [hsame]
      exact h
    · rw [hrun]
      exact processCrmExportBatch_sound client
        ⟨hvalid, h.fresh.keep (reopened_keepsKeys htakes)⟩
  | process client b => exact processCrmExportBatch_sound client h
  | update t request =>
    show (after (updateCrmTarget rt t request) w).store.Sound
    rcases updateCrmTarget_cases rt (w := w) t request with hsame | ⟨hrun, hvalid⟩
    · rw [hsame]
      exact h
    · rw [hrun]
      exact ⟨hvalid, h.fresh.keep (.of_same rfl rfl fun row hrow => Or.inl hrow)⟩
  | elsewhere records =>
    show (if records.accepted w.store then _ else w : ExportWorld).store.Sound
    split
    · next haccepted =>
      obtain ⟨hvalid, houtbox⟩ := Bool.and_eq_true_iff.mp haccepted
      refine ⟨hvalid, h.fresh.keep (.of_same rfl rfl ?_)⟩
      intro row hrow
      rcases List.mem_append.mp hrow with hold | hnew
      · exact Or.inl hold
      · exact Or.inr (by simpa using List.all_eq_true.mp houtbox row hnew)
    · exact h

theorem ReachableExports.sound (h : ReachableExports w) : w.store.Sound := by
  obtain ⟨init, steps, hinit, rfl⟩ := h
  exact Lib.run_always_keeps (I := fun w : ExportWorld => w.store.Sound)
    (fun _ c => exportStep_sound c) steps hinit.sound

end Machine

end GhostRecon
