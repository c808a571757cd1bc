import GhostRecon.CrmExports.Runs

/-!
Which batches finish. Planning raises one exception that is caught, a policy skip, and
one that is not: a target of an unknown type, or whose record is gone. Nor is anything
caught that the client raises besides its own error. A batch finishes exactly when none
of its pending items raises such an exception and the database accepts what the CRM
answers; one item that does takes the results of all others with it.
-/

namespace GhostRecon

open Lib (Id Table after)

section Finishes

variable [Casing] {rt : ExportRuntime} {exporter : CrmExporter} {w : ExportWorld} {b : Id}
  {batch : CrmExportBatch}

/-- Processing the batch commits, every item that waited has its outcome, and the
outcome is the same in every store that agrees about the item's target. -/
structure Finishes (rt : ExportRuntime) (exporter : CrmExporter) (w : ExportWorld) (b : Id)
    (v : ExportWorld) : Prop where
  commits : processCrmExportBatch rt (.available exporter) b w = .ok b v
  completed : ∃ batch, v.store.exportBatches[b]? = some batch ∧ batch.completedAt.isSome = true
  settled : ∀ i item, Waits w.store b i item → ∃ row, v.store.exportItems[i]? = some row ∧
    row.status ∈
      [ExportItemStatus.succeeded, .failedRetryable, .failedTerminal, .skippedPolicy]
  own : ∀ i item, Waits w.store b i item → ∀ s, SameSubject item w.store s →
    ∃ a, attempt rt exporter s item = .ok a ∧
      v.store.exportItems[i]? = some (a.record rt.now item)

theorem batchSettles_iff {s : ExportStore} :
    BatchSettles rt exporter s b ↔
      ∀ i item, Waits s b i item → item.Processable rt exporter s := by
  constructor
  · intro h i item hwaits
    exact item.processable_iff.mpr (h i item hwaits.stored hwaits.ofBatch hwaits.pending)
  · intro h i item hstored hof hpending
    exact item.processable_iff.mp (h i item ⟨hstored, hof, hpending⟩)

/-- The item as its attempt left it. -/
theorem ItemsWorked.outcome {s₀ s : ExportStore}
    (h : ItemsWorked rt exporter s₀ (batchPositions s₀ b) s) {i : Id} {item : CrmExportItem}
    (hwaits : Waits s₀ b i item) {a : Attempt} (hattempt : attempt rt exporter s₀ item = .ok a) :
    s.exportItems[i]? = some (a.record rt.now item) := by
  have hi : i ∈ batchPositions s₀ b := mem_batchPositions.mpr ⟨item, hwaits.stored, hwaits.ofBatch⟩
  rw [h.items i, hwaits.stored, Option.map_some, if_pos hi,
    CrmExportItem.worked_of hwaits.pending hattempt]

/-- A batch whose waiting items can all be processed finishes. -/
theorem finishes_of_settles (hsound : w.store.Sound)
    (hbatch : w.store.exportBatches[b]? = some batch)
    (hsettles : BatchSettles rt exporter w.store b) : ∃ v, Finishes rt exporter w b v := by
  by_cases hopen : batch.completedAt = none ∨ HasPending w.store b
  · obtain ⟨v, hrun, -, hworked, -⟩ :=
      processBatch_completes hbatch hsound.constraints hsound.fresh hopen hsettles
    have hframe : v.store.exportBatches = w.store.exportBatches := by
      rw [hworked.frame]
    refine ⟨_, hrun, ?_, ?_, ?_⟩
    · obtain ⟨row, hrow, hdone⟩ := completeBatch_completes rt.now (hframe ▸ hbatch)
      exact ⟨row, hrow, by rw [hdone]; rfl⟩
    · intro i item hwaits
      obtain ⟨a, hattempt, -⟩ := hsettles i item hwaits.stored hwaits.ofBatch hwaits.pending
      exact ⟨_, hworked.outcome hwaits hattempt, a.record_status rt.now item⟩
    · intro i item hwaits s hsame
      obtain ⟨a, hattempt, -⟩ := hsettles i item hwaits.stored hwaits.ofBatch hwaits.pending
      exact ⟨a, (attempt_congr hsame).trans hattempt, hworked.outcome hwaits hattempt⟩
  · rw [not_or] at hopen
    have hdone : batch.completedAt.isSome = true := Option.isSome_iff_ne_none.mpr hopen.1
    have hnone : ∀ i item, ¬ Waits w.store b i item := by
      intro i item hwaits
      exact hopen.2 ⟨i, item, hwaits.stored, hwaits.ofBatch, hwaits.pending⟩
    refine ⟨w, processBatch_idle hbatch hsound.constraints hdone hopen.2, ⟨batch, hbatch, hdone⟩,
      ?_, ?_⟩
    · intro i item hwaits
      exact absurd hwaits (hnone i item)
    · intro i item hwaits
      exact absurd hwaits (hnone i item)

/-- A batch that settles is a batch that finishes: an exception rolls it back. -/
theorem finishes_iff_settles (hreach : ReachableExports w)
    (hbatch : w.store.exportBatches[b]? = some batch) :
    (∃ v, Finishes rt exporter w b v) ↔ BatchSettles rt exporter w.store b := by
  have hsound := hreach.sound
  constructor
  · rintro ⟨v, hfinishes⟩
    by_contra hbad
    obtain ⟨e, v', hrun, -⟩ :=
      processBatch_rolls_back hbatch hsound.constraints hsound.fresh hbad
    have hcommits := hfinishes.commits
    rw [processCrmExportBatch, hrun] at hcommits
    cases hcommits
  · exact finishes_of_settles hsound hbatch

/-- A stored batch finishes exactly when each of its waiting items can be planned and
the answer to its plan stored. -/
theorem batch_finishes_iff (hreach : ReachableExports w)
    (hbatch : w.store.exportBatches[b]? = some batch) :
    (∃ v, Finishes rt exporter w b v) ↔
      ∀ i item, Waits w.store b i item → item.Processable rt exporter w.store := by
  rw [finishes_iff_settles hreach hbatch]
  exact batchSettles_iff

end Finishes

section OneBadTarget

/-- A CRM that files every record. -/
def filingExporter : CrmExporter := fun plan =>
  .ok (.ok { providerRecordId := plan.stableMatchKey })

def acmeTarget : CrmTarget where
  targetType := "company"
  targetId := 0
  idempotencyKey := "target:acme"

/-- A target of a type no record has. -/
def unknownTarget : CrmTarget where
  targetType := "prospect"
  targetId := 0
  idempotencyKey := "target:unknown"

/-- A company and the targets that wait for export. -/
def exportDesk (targets : List CrmTarget) : ExportWorld where
  store := {
    accounts := [{ companyName := "Acme", domain := some "acme.example" }]
    crmTargets := targets }
  external := {}

/-- A batch over all targets is opened while the client cannot be built. -/
def openingStep (targets : List CrmTarget) : ExportStep where
  rt := { now := 1 }
  op := .start (.unavailable "attio is not configured")
    { crmTargetIds := List.range targets.length } "op" "export:1"

def openedDesk (targets : List CrmTarget) : ExportWorld :=
  runExports (exportDesk targets) [openingStep targets]

theorem exportDesk_initial {targets : List CrmTarget}
    (h : (exportDesk targets).store.constraintsOk = true) :
    ExportsInitial (exportDesk targets) where
  constraints := h
  batches := rfl
  items := rfl
  outbox := by simp [exportDesk]
  exports := rfl

theorem openedDesk_reachable {targets : List CrmTarget}
    (h : (exportDesk targets).store.constraintsOk = true) :
    ReachableExports (openedDesk targets) :=
  ⟨exportDesk targets, [openingStep targets], exportDesk_initial h, rfl⟩

/-- The company is exported first; the target of unknown type then raises, and the
record of the export is rolled back with the rest. -/
theorem unknown_target_discards_export :
    ReachableExports (openedDesk [acmeTarget, unknownTarget]) ∧
      (openedDesk [acmeTarget, unknownTarget]).store.exportBatches.length = 1 ∧
      (¬ ∃ v, Finishes { now := 2 } filingExporter (openedDesk [acmeTarget, unknownTarget]) 0 v) ∧
      (after (processCrmExportBatch { now := 2 } (.available filingExporter) 0)
        (openedDesk [acmeTarget, unknownTarget])).external.exports.map (·.targetId) = [0] ∧
      (after (processCrmExportBatch { now := 2 } (.available filingExporter) 0)
        (openedDesk [acmeTarget, unknownTarget])).store.exportItems.map (·.status) =
          [.pending, .pending] := by
  have hraises : Lib.returned (processCrmExportBatch { now := 2 } (.available filingExporter) 0)
      (openedDesk [acmeTarget, unknownTarget]) = none := by decide +kernel
  refine ⟨openedDesk_reachable (by decide +kernel), by decide +kernel, ?_, by decide +kernel,
    by decide +kernel⟩
  rintro ⟨v, hfinishes⟩
  rw [Lib.returned, hfinishes.commits] at hraises
  cases hraises

/-- A batch over the company alone settles with every client whose answer to its plan can be
stored. -/
theorem company_batch_settles {exporter : CrmExporter}
    (hanswer : (planForTarget {} (openedDesk [acmeTarget]).store 0 acmeTarget).toOption.all
      (fun plan => answerFits (exporter plan)) = true) :
    BatchSettles { now := 2 } exporter (openedDesk [acmeTarget]).store 0 := by
  have htargets : (openedDesk [acmeTarget]).store.crmTargets = [acmeTarget] := by decide +kernel
  have hitems : ∀ row ∈ (openedDesk [acmeTarget]).store.exportItems, row.crmTargetId = 0 := by
    decide +kernel
  apply batchSettles_iff.mpr
  intro i item hwaits target htarget
  rw [hitems item (List.mem_of_getElem? hwaits.stored)] at htarget ⊢
  rw [htargets] at htarget
  obtain rfl : acmeTarget = target := Option.some.inj htarget
  refine ⟨by decide +kernel, ?_⟩
  intro plan hplan
  rw [hplan] at hanswer
  exact hanswer

theorem company_batch_opened :
    ∃ batch, (openedDesk [acmeTarget]).store.exportBatches[0]? = some batch := by
  have hopened : ((openedDesk [acmeTarget]).store.exportBatches[0]?).isSome = true := by
    decide +kernel
  exact Option.isSome_iff_exists.mp hopened

/-- A batch over the company alone finishes. -/
theorem company_batch_finishes :
    ∃ v, Finishes { now := 2 } filingExporter (openedDesk [acmeTarget]) 0 v := by
  obtain ⟨batch, hbatch⟩ := company_batch_opened
  refine (batch_finishes_iff (openedDesk_reachable (by decide +kernel)) hbatch).mpr ?_
  exact batchSettles_iff.mp (company_batch_settles (by decide +kernel))

end OneBadTarget

end GhostRecon
