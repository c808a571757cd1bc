import GhostRecon.CrmExports.Finishing
import GhostRecon.Lib.Sorted

/-!
The order of the exports. The items of a batch are created companies, events and
incidents first, people last; but they are processed in the order of their generated
ids, so which record the CRM sees first is a matter of those ids.
-/

namespace GhostRecon

open Lib (Id Table after returned)

/-- Companies, events and incidents before people. -/
def DependencyOrdered (calls : List ExportCall) : Prop :=
  calls.Pairwise fun first second =>
    targetOrder first.target.targetType ≤ targetOrder second.target.targetType

section Order

variable [Casing] {rt : ExportRuntime} {exporter : CrmExporter} {s : ExportStore} {b : Id}

/-- The item waits, its target is planned, and no waiting item with a smaller id raises. -/
structure Exports (rt : ExportRuntime) (exporter : CrmExporter) (s : ExportStore) (b i : Id)
    (item : CrmExportItem) (target : CrmTarget) : Prop where
  waits : Waits s b i item
  stored : s.crmTargets[item.crmTargetId]? = some target
  planned : ∃ plan, planForTarget rt.crm s item.crmTargetId target = .ok plan
  clear : ∀ j other, Waits s b j other → other.uuid < item.uuid →
    ∃ a, attempt rt exporter s other = .ok a

/-- The ids of the items follow the types of their targets: a person's id comes after
those of the companies, events and incidents. -/
def IdsFollowTypes (rt : ExportRuntime) (exporter : CrmExporter) (s : ExportStore) (b : Id) :
    Prop :=
  ∀ i j person base personTarget baseTarget, Exports rt exporter s b i person personTarget →
    Exports rt exporter s b j base baseTarget →
    targetOrder baseTarget.targetType < targetOrder personTarget.targetType →
      base.uuid < person.uuid

omit [Casing] in
/-- Items are loaded in the order of their ids, which are unique. -/
theorem batchItems_ordered (hok : s.constraintsOk = true) (b : Id) :
    (batchItems s b).Pairwise fun first second => first.2.uuid < second.2.uuid := by
  simp only [ExportStore.constraintsOk, Bool.and_eq_true] at hok
  have hunique := hok.1.1.2
  have hsorted : (batchItems s b).Pairwise fun first second => first.2.uuid ≤ second.2.uuid :=
    List.pairwise_insertionSort _ _
  have hdistinct : (batchItems s b).Pairwise fun first second => first.1 ≠ second.1 := by
    rw [← List.pairwise_map]
    exact batchItems_loaded.nodup
  refine (hsorted.and hdistinct).imp_of_mem ?_
  rintro first second hfirst hsecond ⟨hle, hne⟩
  rcases Nat.lt_or_eq_of_le hle with hlt | hsame
  · exact hlt
  · refine absurd ?_ hne
    exact Table.uniqueOn_position hunique (mem_batchItems.mp hfirst).1 (mem_batchItems.mp hsecond).1
      (by rw [hsame]) rfl

/-- The call made for an item that has its turn. -/
theorem mem_turn {i : Id} {item : CrmExportItem} {call : ExportCall} :
    call ∈ (if item.status = .pending then attemptCalls rt exporter s i item else []) ↔
      item.status = .pending ∧ ∃ target plan, s.crmTargets[item.crmTargetId]? = some target ∧
        planForTarget rt.crm s item.crmTargetId target = .ok plan ∧
        call = ⟨i, item.crmTargetId, target, plan, exporter plan⟩ := by
  unfold attemptCalls
  by_cases hpending : item.status = .pending
  · rw [if_pos hpending]
    cases htarget : s.crmTargets[item.crmTargetId]? with
    | none => simp
    | some target =>
      dsimp only
      cases hplan : planForTarget rt.crm s item.crmTargetId target with
      | error e => simp [hplan]
      | ok plan => simp [hpending, hplan]
  · simp [hpending]

/-- An item of the batch has its turn when no waiting item with a smaller id raises. -/
theorem mem_reached (hok : s.constraintsOk = true) {found : Id × CrmExportItem} :
    found ∈ reached rt exporter s (batchItems s b) ↔
      found ∈ batchItems s b ∧ ∀ other ∈ batchItems s b, other.2.uuid < found.2.uuid →
        other.2.raises rt exporter s = false :=
  Lib.mem_upToFirst_of_keys (f := fun found : Id × CrmExportItem => found.2.uuid)
    (batchItems_ordered hok b)

theorem Exports.reached (hok : s.constraintsOk = true) {i : Id} {item : CrmExportItem}
    {target : CrmTarget} (h : Exports rt exporter s b i item target) :
    (i, item) ∈ reached rt exporter s (batchItems s b) := by
  rw [mem_reached hok]
  refine ⟨mem_batchItems.mpr ⟨h.waits.stored, h.waits.ofBatch⟩, ?_⟩
  intro other hother hlt
  rw [← Bool.not_eq_true]
  intro hraises
  obtain ⟨hstored, hof⟩ := mem_batchItems.mp hother
  obtain ⟨hpending, e, hattempt⟩ := CrmExportItem.raises_iff.mp hraises
  obtain ⟨a, hattempt'⟩ := h.clear other.1 other.2 ⟨hstored, hof, hpending⟩ hlt
  rw [hattempt] at hattempt'
  cases hattempt'

/-- An item that has its turn and is planned is exported. -/
theorem exports_of_reached (hok : s.constraintsOk = true) {found : Id × CrmExportItem}
    {target : CrmTarget} {plan : CrmExportPlan}
    (hfound : found ∈ GhostRecon.reached rt exporter s (batchItems s b))
    (hpending : found.2.status = .pending)
    (htarget : s.crmTargets[found.2.crmTargetId]? = some target)
    (hplan : planForTarget rt.crm s found.2.crmTargetId target = .ok plan) :
    Exports rt exporter s b found.1 found.2 target := by
  obtain ⟨hmem, hclear⟩ := (mem_reached hok).mp hfound
  obtain ⟨hstored, hof⟩ := mem_batchItems.mp hmem
  refine ⟨⟨hstored, hof, hpending⟩, htarget, ⟨plan, hplan⟩, ?_⟩
  intro j other hwaits hlt
  cases hattempt : attempt rt exporter s other with
  | ok a => exact ⟨a, rfl⟩
  | error e =>
    have hraises := CrmExportItem.raises_iff.mpr ⟨hwaits.pending, e, hattempt⟩
    rw [hclear (j, other) (mem_batchItems.mpr ⟨hwaits.stored, hwaits.ofBatch⟩) hlt] at hraises
    cases hraises

/-- The calls of a batch are ordered exactly when the ids follow the types. -/
theorem loopCalls_ordered_iff (hok : s.constraintsOk = true) :
    DependencyOrdered (loopCalls rt exporter s (reached rt exporter s (batchItems s b))) ↔
      IdsFollowTypes rt exporter s b := by
  have hkeys : (reached rt exporter s (batchItems s b)).Pairwise
      fun first second => first.2.uuid < second.2.uuid :=
    (batchItems_ordered hok b).sublist (Lib.upToFirst_sublist _ _)
  unfold DependencyOrdered loopCalls
  rw [List.pairwise_flatMap, Lib.pairwise_iff_of_keys
    (f := fun found : Id × CrmExportItem => found.2.uuid) hkeys]
  constructor
  · rintro ⟨-, hordered⟩ i j person base personTarget baseTarget hperson hbase hlt
    obtain ⟨personPlan, hpersonPlan⟩ := hperson.planned
    obtain ⟨basePlan, hbasePlan⟩ := hbase.planned
    by_contra hnot
    rcases Nat.lt_or_eq_of_le (Nat.not_lt.mp hnot) with hbefore | hsame
    · have hle := hordered (i, person) (hperson.reached hok) (j, base) (hbase.reached hok) hbefore
        _ (mem_turn.mpr ⟨hperson.waits.pending, _, personPlan, hperson.stored, hpersonPlan, rfl⟩)
        _ (mem_turn.mpr ⟨hbase.waits.pending, _, basePlan, hbase.stored, hbasePlan, rfl⟩)
      exact absurd hlt (Nat.not_lt.mpr hle)
    · have hunique := hok
      simp only [ExportStore.constraintsOk, Bool.and_eq_true] at hunique
      have hindex : i = j :=
        Table.uniqueOn_position hunique.1.1.2 hperson.waits.stored hbase.waits.stored
          (by rw [hsame]) rfl
      subst hindex
      obtain rfl := Option.some.inj (hperson.waits.stored.symm.trans hbase.waits.stored)
      obtain rfl := Option.some.inj (hperson.stored.symm.trans hbase.stored)
      exact absurd hlt (Nat.lt_irrefl _)
  · intro hfollow
    constructor
    · intro found _
      split
      · unfold attemptCalls
        split
        · exact List.Pairwise.nil
        · split
          · exact List.Pairwise.nil
          · exact List.pairwise_singleton _ _
      · exact List.Pairwise.nil
    · intro first hfirst second hsecond hbefore call hcall later hlater
      obtain ⟨hpending, target, plan, htarget, hplan, rfl⟩ := mem_turn.mp hcall
      obtain ⟨hpending', target', plan', htarget', hplan', rfl⟩ := mem_turn.mp hlater
      by_contra hnot
      have hbase := hfollow _ _ _ _ _ _
        (exports_of_reached hok hfirst hpending htarget hplan)
        (exports_of_reached hok hsecond hpending' htarget' hplan') (Nat.not_le.mp hnot)
      exact absurd (hbefore.trans hbase) (Nat.lt_irrefl _)

/-- The processing a step comes to: its client, its batch and the store it starts on. -/
inductive Processes (w : ExportWorld) : ExportStep → CrmExporter → Id → ExportStore → Prop where
  | started {rt : ExportRuntime} {exporter : CrmExporter} {request : CrmExportCreateRequest}
      {actor key : String} {b : Id}
      (hopened : returned (openBatch rt request actor key) w = some (b, false)) :
      Processes w ⟨rt, .start (.available exporter) request actor key⟩ exporter b
        (after (openBatch rt request actor key) w).store
  | retried {rt : ExportRuntime} {exporter : CrmExporter} {b : Id}
      {request : CrmExportRetryRequest}
      (hreopened : returned (reopenItems rt b request) w = some (some true)) :
      Processes w ⟨rt, .retry (.available exporter) b request⟩ exporter b
        (after (reopenItems rt b request) w).store
  | processed {rt : ExportRuntime} {exporter : CrmExporter} {b : Id} {batch : CrmExportBatch}
      (hbatch : w.store.exportBatches[b]? = some batch) :
      Processes w ⟨rt, .process (.available exporter) b⟩ exporter b w.store

/-- What a step asks the CRM. -/
def newCalls (w : ExportWorld) (c : ExportStep) : List ExportCall :=
  (exportStep w c).external.exports.drop w.external.exports.length

variable {w : ExportWorld}

theorem newCalls_none {c : ExportStep}
    (h : (exportStep w c).external.exports = w.external.exports) : newCalls w c = [] := by
  rw [newCalls, h, List.drop_length]

theorem newCalls_some {c : ExportStep} {calls : List ExportCall}
    (h : (exportStep w c).external.exports = w.external.exports ++ calls) :
    newCalls w c = calls := by
  rw [newCalls, h, List.drop_left]

omit [Casing] in
theorem returned_of_run {α : Type} {program : ExportTx α} {a : α} {v : ExportWorld}
    (h : program w = .ok a v) : returned program w = some a ∧ after program w = v := by
  unfold returned after
  rw [h]
  exact ⟨rfl, rfl⟩

omit [Casing] in
theorem returned_of_error {α : Type} {program : ExportTx α} {e : PyError} {v : ExportWorld}
    (h : program w = .error e v) : returned program w = none := by
  unfold returned
  rw [h]

/-- A step processes nothing, or one batch as the relation says. -/
theorem newCalls_cases (hok : w.store.constraintsOk = true) (c : ExportStep) :
    (newCalls w c = [] ∧ ∀ exporter b s, ¬ Processes w c exporter b s) ∨
      ∃ exporter b s, Processes w c exporter b s ∧ s.constraintsOk = true ∧
        newCalls w c = loopCalls c.rt exporter s (reached c.rt exporter s (batchItems s b)) ∧
        ∀ exporter' b' s', Processes w c exporter' b' s' →
          exporter' = exporter ∧ b' = b ∧ s' = s := by
  obtain ⟨rt, op⟩ := c
  cases op with
  | start client request actor key =>
    cases client with
    | unavailable message =>
      refine Or.inl ⟨newCalls_none ?_, ?_⟩
      · show (after (startCrmExport rt _ request actor key) w).external.exports = _
        rcases startCrmExport_cases rt (.unavailable message) request actor key hok with
          hsame | ⟨-, -, -, hrun⟩
        · rw [hsame]
        · rw [hrun]
          rfl
      · intro exporter b s h
        cases h
    | available exporter =>
      rcases openBatch_cases rt request actor key hok with
        ⟨existing, hrun⟩ | ⟨e, hrun⟩ | ⟨hnew, hrequire, hrun, hvalid⟩
      · refine Or.inl ⟨newCalls_none ?_, ?_⟩
        · show (after (startCrmExport rt _ request actor key) w).external.exports = _
          unfold after startCrmExport
          rw [Lib.bind_run, hrun]
          rfl
        · intro exporter' b s h
          cases h with
          | started hopened =>
            rw [(returned_of_run hrun).1] at hopened
            cases hopened
      · refine Or.inl ⟨newCalls_none ?_, ?_⟩
        · show (after (startCrmExport rt _ request actor key) w).external.exports = _
          unfold after startCrmExport
          rw [Lib.bind_run, hrun]
        · intro exporter' b s h
          cases h with
          | started hopened =>
            rw [returned_of_error hrun] at hopened
            cases hopened
      · obtain ⟨hreturned, hafter⟩ := returned_of_run hrun
        refine Or.inr ⟨exporter, _, _, .started hreturned, ?_, newCalls_some ?_, ?_⟩
        · rw [hafter]
          exact hvalid
        · show (after (startCrmExport rt _ request actor key) w).external.exports = _
          have hbatch : (w.store.opened rt request actor key).exportBatches[
              w.store.exportBatches.length]? = some (newBatch rt request actor key) := by
            show (w.store.exportBatches ++ [_])[w.store.exportBatches.length]? = _
            simp
          have hcalls : (after (processBatch rt exporter w.store.exportBatches.length)
              ⟨w.store.opened rt request actor key, w.external⟩).external.exports = _ :=
            processBatch_calls hbatch hvalid
          rw [hafter, ← hcalls]
          unfold after startCrmExport
          rw [Lib.bind_run, hrun]
          rfl
        · intro exporter' b s h
          cases h with
          | started hopened =>
            rw [hreturned] at hopened
            cases hopened
            exact ⟨rfl, rfl, rfl⟩
  | retry client b request =>
    cases client with
    | unavailable message =>
      refine Or.inl ⟨newCalls_none ?_, ?_⟩
      · show (after (retryFailedCrmExportItems rt _ b request) w).external.exports = _
        rcases retryFailedCrmExportItems_cases rt (b := b) (.unavailable message) request
          hok with hsame | ⟨-, -, hrun⟩
        · rw [hsame]
        · rw [hrun]
          rfl
      · intro exporter b' s h
        cases h
    | available exporter =>
      rcases reopenItems_cases rt (b := b) request hok with
        ⟨r, hr, hrun⟩ | ⟨e, hrun⟩ | ⟨⟨batch, hbatch⟩, htakes, hrun, hvalid⟩
      · refine Or.inl ⟨newCalls_none ?_, ?_⟩
        · show (after (retryFailedCrmExportItems rt _ b request) w).external.exports = _
          unfold after retryFailedCrmExportItems
          rw [Lib.bind_run, hrun]
          rcases r with _ | _ | _
          · rfl
          · rfl
          · exact absurd rfl hr
        · intro exporter' b' s h
          cases h with
          | retried hreopened =>
            rw [(returned_of_run hrun).1] at hreopened
            exact hr (Option.some.inj hreopened)
      · refine Or.inl ⟨newCalls_none ?_, ?_⟩
        · show (after (retryFailedCrmExportItems rt _ b request) w).external.exports = _
          unfold after retryFailedCrmExportItems
          rw [Lib.bind_run, hrun]
        · intro exporter' b' s h
          cases h with
          | retried hreopened =>
            rw [returned_of_error hrun] at hreopened
            cases hreopened
      · obtain ⟨hreturned, hafter⟩ := returned_of_run hrun
        refine Or.inr ⟨exporter, _, _, .retried hreturned, ?_, newCalls_some ?_, ?_⟩
        · rw [hafter]
          exact hvalid
        · show (after (retryFailedCrmExportItems rt _ b request) w).external.exports = _
          have hopened : (w.store.reopened rt b request).exportBatches[b]? =
              some { batch with status := .running, completedAt := none, updatedAt := rt.now } := by
            show (w.store.exportBatches.modify b _)[b]? = _
            rw [List.getElem?_modify_eq, hbatch]
            rfl
          have hcalls : (after (processBatch rt exporter b)
              ⟨w.store.reopened rt b request, w.external⟩).external.exports = _ :=
            processBatch_calls hopened hvalid
          rw [hafter, ← hcalls]
          unfold after retryFailedCrmExportItems
          rw [Lib.bind_run, hrun]
          dsimp only
          rw [Lib.bind_run]
          show _ = (after (processCrmExportBatch rt (.available exporter) b)
            ⟨w.store.reopened rt b request, w.external⟩).external.exports
          unfold after
          cases processCrmExportBatch rt (.available exporter) b
            ⟨w.store.reopened rt b request, w.external⟩ <;> rfl
        · intro exporter' b' s h
          cases h with
          | retried hreopened => exact ⟨rfl, rfl, rfl⟩
  | process client b =>
    cases client with
    | unavailable message =>
      refine Or.inl ⟨newCalls_none rfl, ?_⟩
      intro exporter b' s h
      cases h
    | available exporter =>
      cases hbatch : w.store.exportBatches[b]? with
      | none =>
        refine Or.inl ⟨newCalls_none ?_, ?_⟩
        · show (after (processBatch rt exporter b) w).external.exports = _
          unfold after processBatch exportScope
          rw [Lib.sessionScope_run]
          simp only [Lib.bind_run, Lib.query_run, hbatch]
          rfl
        · intro exporter' b' s h
          cases h with
          | processed hbatch' =>
            rw [hbatch] at hbatch'
            cases hbatch'
      | some batch =>
        refine Or.inr ⟨exporter, b, w.store, .processed hbatch, hok, newCalls_some ?_, ?_⟩
        · exact processBatch_calls hbatch hok
        · intro exporter' b' s h
          cases h with
          | processed _ => exact ⟨rfl, rfl, rfl⟩
  | update t request =>
    refine Or.inl ⟨newCalls_none ?_, ?_⟩
    · show (after (updateCrmTarget rt t request) w).external.exports = _
      rcases updateCrmTarget_cases rt (w := w) t request with hsame | ⟨hrun, -⟩
      · rw [hsame]
      · rw [hrun]
    · intro exporter b s h
      cases h
  | elsewhere records =>
    refine Or.inl ⟨newCalls_none ?_, ?_⟩
    · show (if records.accepted w.store then _ else w : ExportWorld).external.exports = _
      split <;> rfl
    · intro exporter b s h
      cases h

/-- What a step asks the CRM is in dependency order exactly when the generated ids of the
items it exports happen to follow the types of their targets. -/
theorem export_order_iff (hreach : ReachableExports w) (c : ExportStep) :
    DependencyOrdered (newCalls w c) ↔
      ∀ exporter b s, Processes w c exporter b s → IdsFollowTypes c.rt exporter s b := by
  rcases newCalls_cases hreach.sound.constraints c with
    ⟨hnone, hnothing⟩ | ⟨exporter, b, s, hprocesses, hvalid, hcalls, honly⟩
  · rw [hnone]
    refine iff_of_true List.Pairwise.nil ?_
    intro exporter b s h
    exact absurd h (hnothing exporter b s)
  · rw [hcalls, loopCalls_ordered_iff hvalid]
    constructor
    · intro hfollow exporter' b' s' h
      obtain ⟨rfl, rfl, rfl⟩ := honly exporter' b' s' h
      exact hfollow
    · intro hall
      exact hall exporter b s hprocesses

end Order

section PersonFirst

/-- Someone who works for the company. -/
def janeTarget : CrmTarget where
  targetType := "contact"
  targetId := 0
  idempotencyKey := "target:jane"

/-- A company, a contact of it, and their targets. -/
def peopleDesk : ExportWorld where
  store := {
    accounts := [{ companyName := "Acme", domain := some "acme.example" }]
    contacts := [{ accountId := some 0, fullName := "Jane Doe", email := some "jane@acme.example" }]
    crmTargets := [acmeTarget, janeTarget] }
  external := {}

/-- An export of both targets; the database generates the ids of the two items. -/
def peopleExport (uuid4 : Id → Nat) : ExportStep where
  rt := { now := 1, uuid4 := uuid4 }
  op := .start (.available filingExporter) { crmTargetIds := [0, 1] } "op" "export:1"

theorem peopleDesk_reachable : ReachableExports peopleDesk := by
  refine ⟨peopleDesk, [], ⟨by decide +kernel, rfl, rfl, ?_, rfl⟩, rfl⟩
  intro row hrow
  cases hrow

/-- The second item is given the smaller id, and the CRM sees the person first. -/
theorem person_exported_before_company :
    ReachableExports peopleDesk ∧
      (newCalls peopleDesk (peopleExport (1 - ·))).map (·.target.targetType) =
        ["contact", "company"] ∧
      ¬ DependencyOrdered (newCalls peopleDesk (peopleExport (1 - ·))) := by
  have hcalls : (newCalls peopleDesk (peopleExport (1 - ·))).map (·.target.targetType) =
      ["contact", "company"] := by decide +kernel
  refine ⟨peopleDesk_reachable, hcalls, ?_⟩
  intro hordered
  have htypes : ((newCalls peopleDesk (peopleExport (1 - ·))).map (·.target.targetType)).Pairwise
      fun first second => targetOrder first ≤ targetOrder second := List.pairwise_map.mpr hordered
  rw [hcalls] at htypes
  revert htypes
  decide +kernel

/-- With ids in the order of the items the company is exported first. -/
theorem people_exported_in_order :
    ReachableExports peopleDesk ∧ ∀ exporter b s, Processes peopleDesk (peopleExport id) exporter b s →
      IdsFollowTypes (peopleExport id).rt exporter s b := by
  refine ⟨peopleDesk_reachable,
    (export_order_iff peopleDesk_reachable (peopleExport id)).mp ?_⟩
  have hcalls : (newCalls peopleDesk (peopleExport id)).map (·.target.targetType) =
      ["company", "contact"] := by decide +kernel
  have htypes : ((newCalls peopleDesk (peopleExport id)).map (·.target.targetType)).Pairwise
      fun first second => targetOrder first ≤ targetOrder second := by
    rw [hcalls]
    decide +kernel
  rw [List.pairwise_map] at htypes
  exact htypes

end PersonFirst

end GhostRecon
