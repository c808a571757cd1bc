import GhostRecon.CrmExports.Books

/-!
One target in several batches. Whether a target may be exported is asked when a batch is
opened over it, and not again when the batch is processed or its failed items are retried.
So a target is safe where no two batches have work for it: in a run that opens batches and
updates targets only so, the CRM is called for exportable targets alone, and a target is
exported once, and once more for each update of it.
-/

namespace GhostRecon

open Lib (Id Table Admissible after)

/-- The item waits, or a retry can make it wait. -/
def CrmExportItem.live (row : CrmExportItem) : Bool :=
  row.status == .pending || row.status == .failedRetryable

/-- Some batch has work for the target. -/
def Claimed (s : ExportStore) (t : Id) : Prop :=
  ∃ (i : Id) (item : CrmExportItem), s.exportItems[i]? = some item ∧ item.crmTargetId = t ∧
    item.live = true

/-- A batch is opened over targets that no batch has work for; a target that some batch has
work for stays exportable under an update. -/
def OneBatchEach (w : ExportWorld) (c : ExportStep) : Prop :=
  match c.op with
  | .start _ request _ key => w.store.exportBatches.first? (·.idempotencyKey == key) = none →
    ∀ t ∈ request.crmTargetIds, ¬ Claimed w.store t
  | .update t request => Claimed w.store t → ∀ target, w.store.crmTargets[t]? = some target →
    (request.apply c.rt.now target).exportable = true
  | .retry _ _ _ | .process _ _ | .elsewhere _ => True

/-- One batch at most has work for a target, and the target is exportable. -/
structure OneClaim (s : ExportStore) : Prop where
  single : ∀ (i j : Id) (item other : CrmExportItem), s.exportItems[i]? = some item →
    s.exportItems[j]? = some other → item.live = true → other.live = true →
    item.crmTargetId = other.crmTargetId → i = j
  exportable : ∀ (i : Id) (item : CrmExportItem), s.exportItems[i]? = some item →
    item.live = true →
    ∃ target, s.crmTargets[item.crmTargetId]? = some target ∧ target.exportable = true

section Claims

variable [Casing] {rt : ExportRuntime} {exporter : CrmExporter} {s s' : ExportStore}
  {w : ExportWorld} {b : Id}

omit [Casing] in
theorem live_of_pending {row : CrmExportItem} (h : row.status = .pending) : row.live = true := by
  simp [CrmExportItem.live, h]

omit [Casing] in
/-- An attempt that leaves the item live leaves its target exportable. -/
theorem Attempt.recordTarget_exportable {a : Attempt} {now : Time} {row : CrmExportItem}
    {target : CrmTarget} (hlive : (a.record now row).live = true)
    (htarget : target.exportable = true) : (a.recordTarget now target).exportable = true := by
  cases a with
  | missing => exact htarget
  | skipped message => simp [Attempt.record, CrmExportItem.skip, CrmExportItem.live] at hlive
  | exported result => simp [Attempt.record, CrmExportItem.succeed, CrmExportItem.live] at hlive
  | refused error =>
    have hretryable : error.retryable = true := by
      cases hretry : error.retryable with
      | true => rfl
      | false =>
        simp [Attempt.record, CrmExportItem.markFailure, CrmExportItem.live, hretry] at hlive
    have hstatus : target.status = .pendingExport := by
      simpa using (Bool.and_eq_true_iff.mp htarget).1
    simp [Attempt.recordTarget, CrmTarget.exportable, hretryable, hstatus]

/-- What the items and targets of a store come to when a batch was worked off: an item that
did not wait is as it was, one that waited has its attempt recorded with its target. -/
theorem ItemsWorked.live_of_live (hworked : ItemsWorked rt exporter s (batchPositions s b) s')
    (hsettles : BatchSettles rt exporter s b) {i : Id} {row : CrmExportItem}
    (hrow : s'.exportItems[i]? = some row) (hlive : row.live = true) :
    ∃ old, s.exportItems[i]? = some old ∧ old.live = true ∧ row.crmTargetId = old.crmTargetId ∧
      (row = old ∧ (old.batchId = b → old.status ≠ .pending) ∨
        ∃ a, i ∈ batchPositions s b ∧ old.status = .pending ∧
          attempt rt exporter s old = .ok a ∧ row = a.record rt.now old) := by
  rw [hworked.items i] at hrow
  obtain ⟨old, hold, rfl⟩ := Option.map_eq_some_iff.mp hrow
  refine ⟨old, hold, ?_⟩
  by_cases hi : i ∈ batchPositions s b
  · rw [if_pos hi] at hlive ⊢
    obtain ⟨item, hitem, hof⟩ := mem_batchPositions.mp hi
    obtain rfl : old = item := Option.some.inj (hold.symm.trans hitem)
    by_cases hpending : old.status = .pending
    · obtain ⟨a, hattempt⟩ := hsettles.attempted i old hold hof hpending
      rw [CrmExportItem.worked_of hpending hattempt]
      exact ⟨live_of_pending hpending, (a.record_same rt.now old).crmTargetId,
        Or.inr ⟨a, hi, hpending, hattempt, rfl⟩⟩
    · rw [CrmExportItem.worked_idle hpending] at hlive ⊢
      exact ⟨hlive, rfl, Or.inl ⟨rfl, fun _ => hpending⟩⟩
  · rw [if_neg hi] at hlive ⊢
    refine ⟨hlive, rfl, Or.inl ⟨rfl, fun hof => ?_⟩⟩
    exact absurd (mem_batchPositions.mpr ⟨old, hold, hof⟩) hi

/-- A target whose live item was not attempted is as it was. -/
theorem OneClaim.target_kept (h : OneClaim s)
    (hworked : ItemsWorked rt exporter s (batchPositions s b) s') {i : Id} {item : CrmExportItem}
    (hitem : s.exportItems[i]? = some item) (hlive : item.live = true)
    (hidle : item.batchId = b → item.status ≠ .pending) :
    s'.crmTargets[item.crmTargetId]? = s.crmTargets[item.crmTargetId]? := by
  apply hworked.targets
  intro j hj other hother hpending hsame
  obtain ⟨found, hfound, hof⟩ := mem_batchPositions.mp hj
  obtain rfl : other = found := Option.some.inj (hother.symm.trans hfound)
  obtain rfl : j = i := h.single j i other item hother hitem (live_of_pending hpending) hlive hsame
  obtain rfl : other = item := Option.some.inj (hother.symm.trans hitem)
  exact hidle hof hpending

/-- A batch that was worked off keeps the claims apart. -/
theorem OneClaim.worked (h : OneClaim s)
    (hworked : ItemsWorked rt exporter s (batchPositions s b) s')
    (hsettles : BatchSettles rt exporter s b) : OneClaim s' where
  single := by
    intro i j item other hitem hother hlive hlive' hsame
    obtain ⟨old, hold, hold', htarget, -⟩ := hworked.live_of_live hsettles hitem hlive
    obtain ⟨old', hother', hlive'', htarget', -⟩ := hworked.live_of_live hsettles hother hlive'
    exact h.single i j old old' hold hother' hold' hlive'' (by rw [← htarget, ← htarget', hsame])
  exportable := by
    intro i item hitem hlive
    obtain ⟨old, hold, hlive', htarget, hcase⟩ := hworked.live_of_live hsettles hitem hlive
    obtain ⟨target, hstored, hexportable⟩ := h.exportable i old hold hlive'
    rw [htarget]
    rcases hcase with ⟨-, hidle⟩ | ⟨a, hi, hpending, hattempt, rfl⟩
    · rw [h.target_kept hworked hold hlive' hidle]
      exact ⟨target, hstored, hexportable⟩
    · rw [hworked.recorded i hi old a hold hpending hattempt, hstored]
      exact ⟨_, rfl, a.recordTarget_exportable hlive hexportable⟩

omit [Casing] in
/-- Claims stay apart where the live items and their targets are the same. -/
theorem OneClaim.of_same (h : OneClaim s)
    (hitems : ∀ (i : Id) (row : CrmExportItem), s'.exportItems[i]? = some row →
      row.live = true →
      ∃ old, s.exportItems[i]? = some old ∧ old.live = true ∧ row.crmTargetId = old.crmTargetId)
    (htargets : ∀ t target, Claimed s t → s.crmTargets[t]? = some target →
      target.exportable = true →
      ∃ target', s'.crmTargets[t]? = some target' ∧ target'.exportable = true) : OneClaim s' where
  single := by
    intro i j item other hitem hother hlive hlive' hsame
    obtain ⟨old, hold, hold', htarget⟩ := hitems i item hitem hlive
    obtain ⟨old', hother', hlive'', htarget'⟩ := hitems j other hother hlive'
    exact h.single i j old old' hold hother' hold' hlive'' (by rw [← htarget, ← htarget', hsame])
  exportable := by
    intro i item hitem hlive
    obtain ⟨old, hold, hlive', htarget⟩ := hitems i item hitem hlive
    obtain ⟨target, hstored, hexportable⟩ := h.exportable i old hold hlive'
    rw [htarget]
    exact htargets _ target ⟨i, old, hold, rfl, hlive'⟩ hstored hexportable

omit [Casing] in
/-- What the targets of a new batch were asked. -/
theorem requireExportableTargets_exportable {ids : List Id}
    (h : requireExportableTargets s ids = .ok ()) :
    ∀ t ∈ ids, ∀ target, s.crmTargets[t]? = some target → target.exportable = true := by
  have hall : ids.forM (requireExportable s) = .ok () := by
    unfold requireExportableTargets at h
    split at h
    · next t hmissing =>
      have hnone : s.crmTargets[t]? = none := by simpa using List.find?_some hmissing
      unfold requireExportable at h
      rw [hnone] at h
      cases h
    · exact h
  clear h
  induction ids with
  | nil => exact fun t ht => absurd ht List.not_mem_nil
  | cons first rest ih =>
    have hboth : (requireExportable s first >>= fun _ => rest.forM (requireExportable s)) =
        .ok () := hall
    cases hfirst : requireExportable s first with
    | error e =>
      rw [hfirst] at hboth
      cases hboth
    | ok u =>
      rw [hfirst] at hboth
      intro t ht target htarget
      rcases List.mem_cons.mp ht with rfl | hrest
      · unfold requireExportable at hfirst
        rw [htarget] at hfirst
        dsimp only at hfirst
        split at hfirst
        · cases hfirst
        · split at hfirst
          · next hexportable => exact hexportable
          · cases hfirst
      · exact ih hboth t hrest target htarget

omit [Casing] in
theorem mem_of_mem_uniqueOrdered {values : List Id} {t : Id} (h : t ∈ uniqueOrdered values) :
    t ∈ values := by
  have hkept : ∀ rest ordered : List Id,
      t ∈ rest.foldl (fun ordered value =>
        if value ∈ ordered then ordered else ordered ++ [value]) ordered →
      t ∈ ordered ∨ t ∈ rest := by
    intro rest
    induction rest with
    | nil => exact fun ordered ht => Or.inl ht
    | cons value rest ih =>
      intro ordered ht
      rcases ih _ ht with hordered | hrest
      · dsimp only at hordered
        split at hordered
        · exact Or.inl hordered
        · rcases List.mem_append.mp hordered with hold | hnew
          · exact Or.inl hold
          · rw [List.mem_singleton.mp hnew]
            exact Or.inr List.mem_cons_self
      · exact Or.inr (List.mem_cons_of_mem value hrest)
  rcases hkept values [] h with hnone | hmem
  · cases hnone
  · exact hmem

/-- The items of a new batch are those of its targets. -/
theorem target_of_createItems {targets : List (Id × CrmTarget)} {row : CrmExportItem}
    (h : row ∈ createItems rt s b targets) : ∃ found ∈ targets, row.crmTargetId = found.1 := by
  have hmem : row.crmTargetId ∈ (createItems rt s b targets).map (·.crmTargetId) :=
    List.mem_map_of_mem h
  rw [createItems_targets] at hmem
  obtain ⟨found, hfound, hid⟩ := List.mem_map.mp hmem
  exact ⟨found, hfound, hid.symm⟩

/-- A batch that is opened over targets without a claim is the only one to claim them. -/
theorem OneClaim.opened {request : CrmExportCreateRequest} {actor key : String} (h : OneClaim s)
    (hrequire : requireExportableTargets s (uniqueOrdered request.crmTargetIds) = .ok ())
    (hvalid : (s.opened rt request actor key).constraintsOk = true)
    (hfree : ∀ t ∈ request.crmTargetIds, ¬ Claimed s t) :
    OneClaim (s.opened rt request actor key) := by
  have hnew : ∀ (i : Id) (row : CrmExportItem),
      (s.opened rt request actor key).exportItems[i]? = some row →
      s.exportItems[i]? = some row ∨
        row.batchId = s.exportBatches.length ∧ ∃ target,
          s.crmTargets[row.crmTargetId]? = some target ∧ target.exportable = true ∧
            ¬ Claimed s row.crmTargetId := by
    intro i row hrow
    have hrow' : (s.exportItems ++ _)[i]? = some row := hrow
    rw [List.getElem?_append] at hrow'
    split at hrow'
    · exact Or.inl hrow'
    · have hmem := List.mem_of_getElem? hrow'
      obtain ⟨found, hfound, hid⟩ := target_of_createItems hmem
      obtain ⟨hstored, hids⟩ := mem_orderedTargets.mp hfound
      refine Or.inr ⟨(mem_createItems hmem).1, found.2, ?_, ?_, ?_⟩
      · rw [hid]
        exact hstored
      · exact requireExportableTargets_exportable hrequire found.1 hids found.2 hstored
      · rw [hid]
        exact hfree found.1 (mem_of_mem_uniqueOrdered hids)
  refine ⟨?_, ?_⟩
  · intro i j item other hitem hother hlive hlive' hsame
    rcases hnew i item hitem with hold | ⟨hbatch, -, -, -, hunclaimed⟩
    · rcases hnew j other hother with hold' | ⟨-, -, -, -, hunclaimed⟩
      · exact h.single i j item other hold hold' hlive hlive' hsame
      · exact absurd ⟨i, item, hold, hsame, hlive⟩ hunclaimed
    · rcases hnew j other hother with hold' | ⟨hbatch', -⟩
      · exact absurd ⟨j, other, hold', hsame.symm, hlive'⟩ hunclaimed
      · exact distinctTargets_of hvalid _ i j item other hitem hother hbatch hbatch' hsame
  · intro i item hitem hlive
    rcases hnew i item hitem with hold | ⟨-, target, hstored, hexportable, -⟩
    · exact h.exportable i item hold hlive
    · exact ⟨target, hstored, hexportable⟩

omit [Casing] in
/-- A retry makes items wait that were live before. -/
theorem OneClaim.reopened {request : CrmExportRetryRequest} (h : OneClaim s) :
    OneClaim (s.reopened rt b request) := by
  refine h.of_same ?_ ?_
  · intro i row hrow hlive
    rw [reopened_item] at hrow
    obtain ⟨old, hold, rfl⟩ := Option.map_eq_some_iff.mp hrow
    refine ⟨old, hold, ?_⟩
    by_cases htakes : (old.batchId == b && request.takes i old) = true
    · rw [if_pos htakes]
      obtain ⟨-, htaken⟩ := Bool.and_eq_true_iff.mp htakes
      obtain ⟨hfailed, -⟩ := Bool.and_eq_true_iff.mp htaken
      refine ⟨?_, rfl⟩
      unfold CrmExportItem.live
      rw [hfailed, Bool.or_true]
    · rw [if_neg htakes] at hlive ⊢
      exact ⟨hlive, rfl⟩
  · intro t target _ hstored hexportable
    exact ⟨target, hstored, hexportable⟩

/-- The calls for waiting items are for targets that are exportable. -/
theorem OneClaim.calls (h : OneClaim s) {items : List (Id × CrmExportItem)}
    (hitems : ∀ found ∈ items, s.exportItems[found.1]? = some found.2) :
    ∀ call ∈ loopCalls rt exporter s items, call.target.exportable = true := by
  intro call hcall
  obtain ⟨found, hfound, hturn⟩ := List.mem_flatMap.mp hcall
  split at hturn
  · next hpending =>
    obtain ⟨target, hstored, hexportable⟩ :=
      h.exportable found.1 found.2 (hitems found hfound) (live_of_pending hpending)
    unfold attemptCalls at hturn
    rw [hstored] at hturn
    dsimp only at hturn
    split at hturn
    · cases hturn
    · obtain rfl := List.mem_singleton.mp hturn
      exact hexportable
  · cases hturn

end Claims

section Counting

variable [Casing] {rt : ExportRuntime} {exporter : CrmExporter} {s s' : ExportStore}
  {w : ExportWorld} {b t : Id}

/-- The items a target was exported by. -/
def exportsOf (s : ExportStore) (t : Id) : List (Id × CrmExportItem) :=
  s.exportItems.select fun row => row.crmTargetId == t && row.status == .succeeded

/-- One where the target may still be exported, none where it may not. -/
def chances (s : ExportStore) (t : Id) : Nat :=
  if (s.crmTargets[t]?).all CrmTarget.exportable then 1 else 0

def ExportOp.updates (t : Id) : ExportOp → Bool
  | .update t' _ => t' == t
  | .start _ _ _ _ | .retry _ _ _ | .process _ _ | .elsewhere _ => false

omit [Casing] in
theorem mem_exportsOf {i : Id} {row : CrmExportItem} :
    (i, row) ∈ exportsOf s t ↔
      s.exportItems[i]? = some row ∧ row.crmTargetId = t ∧ row.status = .succeeded := by
  unfold exportsOf
  rw [Table.mem_select, Bool.and_eq_true, beq_iff_eq, beq_iff_eq]

omit [Casing] in
/-- A target has no more exports than before, but for those at some places. -/
theorem exportsOf_length_le {extra : List Id}
    (h : ∀ (i : Id) (row : CrmExportItem), (i, row) ∈ exportsOf s' t →
      i ∈ extra ∨ ∃ old, (i, old) ∈ exportsOf s t) :
    (exportsOf s' t).length ≤ extra.length + (exportsOf s t).length := by
  have hnodup : ((exportsOf s' t).map Prod.fst).Nodup := Table.select_nodup _ _
  have hsubset : (exportsOf s' t).map Prod.fst ⊆ extra ++ (exportsOf s t).map Prod.fst := by
    intro i hi
    obtain ⟨⟨j, row⟩, hrow, rfl⟩ := List.mem_map.mp hi
    rcases h j row hrow with hextra | ⟨old, hold⟩
    · exact List.mem_append_left _ hextra
    · exact List.mem_append_right _ (List.mem_map.mpr ⟨(j, old), hold, rfl⟩)
  have hle := (List.subperm_of_subset hnodup hsubset).length_le
  simpa using hle

omit [Casing] in
theorem chances_le_one (s : ExportStore) (t : Id) : chances s t ≤ 1 := by
  unfold chances
  split
  · exact Nat.le_refl 1
  · exact Nat.zero_le 1

/-- What an item that is now exported was before its batch was worked off. -/
theorem ItemsWorked.exported (hworked : ItemsWorked rt exporter s (batchPositions s b) s')
    (hsettles : BatchSettles rt exporter s b) {i : Id} {row : CrmExportItem}
    (hrow : (i, row) ∈ exportsOf s' t) :
    (∃ old, (i, old) ∈ exportsOf s t) ∨
      ∃ old result, i ∈ batchPositions s b ∧ s.exportItems[i]? = some old ∧
        old.crmTargetId = t ∧ old.status = .pending ∧
        attempt rt exporter s old = .ok (.exported result) := by
  obtain ⟨hstored, htarget, hsucceeded⟩ := mem_exportsOf.mp hrow
  rw [hworked.items i] at hstored
  obtain ⟨old, hold, rfl⟩ := Option.map_eq_some_iff.mp hstored
  by_cases hi : i ∈ batchPositions s b
  · rw [if_pos hi] at htarget hsucceeded
    obtain ⟨item, hitem, hof⟩ := mem_batchPositions.mp hi
    obtain rfl : old = item := Option.some.inj (hold.symm.trans hitem)
    by_cases hpending : old.status = .pending
    · obtain ⟨a, hattempt⟩ := hsettles.attempted i old hold hof hpending
      rw [CrmExportItem.worked_of hpending hattempt] at htarget hsucceeded
      rw [(a.record_same rt.now old).crmTargetId] at htarget
      cases a with
      | exported result => exact Or.inr ⟨old, result, hi, hold, htarget, hpending, hattempt⟩
      | missing => cases hsucceeded
      | skipped message => cases hsucceeded
      | refused error =>
        simp only [Attempt.record, CrmExportItem.markFailure] at hsucceeded
        split at hsucceeded <;> cases hsucceeded
    · rw [CrmExportItem.worked_idle hpending] at htarget hsucceeded
      exact Or.inl ⟨old, mem_exportsOf.mpr ⟨hold, htarget, hsucceeded⟩⟩
  · rw [if_neg hi] at htarget hsucceeded
    exact Or.inl ⟨old, mem_exportsOf.mpr ⟨hold, htarget, hsucceeded⟩⟩

/-- An export uses up the chance of its target. -/
theorem OneClaim.worked_counted (h : OneClaim s)
    (hworked : ItemsWorked rt exporter s (batchPositions s b) s')
    (hsettles : BatchSettles rt exporter s b) (t : Id) :
    (exportsOf s' t).length + chances s' t ≤ (exportsOf s t).length + chances s t := by
  by_cases hnew : ∃ i old result, i ∈ batchPositions s b ∧ s.exportItems[i]? = some old ∧
      old.crmTargetId = t ∧ old.status = .pending ∧
      attempt rt exporter s old = .ok (.exported result)
  · obtain ⟨i, old, result, hi, hold, rfl, hpending, hattempt⟩ := hnew
    obtain ⟨target, htarget, hexportable⟩ := h.exportable i old hold (live_of_pending hpending)
    have hbefore : chances s old.crmTargetId = 1 := by
      unfold chances
      rw [htarget, Option.all_some, if_pos hexportable]
    have hafter : chances s' old.crmTargetId = 0 := by
      unfold chances
      rw [hworked.recorded i hi old _ hold hpending hattempt, htarget]
      rfl
    have hlength : (exportsOf s' old.crmTargetId).length ≤
        [i].length + (exportsOf s old.crmTargetId).length := by
      apply exportsOf_length_le
      intro j row hrow
      rcases hworked.exported hsettles hrow with hkept | ⟨other, _, -, hother, hsame, hwaits, -⟩
      · exact Or.inr hkept
      · refine Or.inl (List.mem_singleton.mpr ?_)
        exact h.single j i other old hother hold (live_of_pending hwaits)
          (live_of_pending hpending) hsame
    rw [List.length_singleton] at hlength
    omega
  · have hlength : (exportsOf s' t).length ≤ ([] : List Id).length + (exportsOf s t).length := by
      apply exportsOf_length_le
      intro j row hrow
      rcases hworked.exported hsettles hrow with hkept | ⟨other, result, hfresh⟩
      · exact Or.inr hkept
      · exact absurd ⟨j, other, result, hfresh⟩ hnew
    have hchances : chances s' t ≤ chances s t := by
      by_cases hclaimed : Claimed s t
      · obtain ⟨i, item, hitem, rfl, hlive⟩ := hclaimed
        obtain ⟨target, htarget, hexportable⟩ := h.exportable i item hitem hlive
        have hbefore : chances s item.crmTargetId = 1 := by
          unfold chances
          rw [htarget, Option.all_some, if_pos hexportable]
        rw [hbefore]
        exact chances_le_one s' _
      · have hkept : s'.crmTargets[t]? = s.crmTargets[t]? := by
          apply hworked.targets
          intro i _ item hitem hpending hsame
          exact hclaimed ⟨i, item, hitem, hsame, live_of_pending hpending⟩
        unfold chances
        rw [hkept]
    rw [List.length_nil] at hlength
    omega

omit [Casing] in
/-- Where neither the exported items nor the targets change, nothing is used up. -/
theorem counted_of_same
    (hitems : ∀ (i : Id) (row : CrmExportItem), (i, row) ∈ exportsOf s' t →
      (i, row) ∈ exportsOf s t) :
    (exportsOf s' t).length ≤ (exportsOf s t).length := by
  have hlength : (exportsOf s' t).length ≤ ([] : List Id).length + (exportsOf s t).length := by
    apply exportsOf_length_le
    intro i row hrow
    exact Or.inr ⟨row, hitems i row hrow⟩
  simpa using hlength

theorem opened_counted (request : CrmExportCreateRequest) (actor key : String) :
    (exportsOf (s.opened rt request actor key) t).length ≤ (exportsOf s t).length := by
  apply counted_of_same
  intro i row hrow
  obtain ⟨hstored, htarget, hsucceeded⟩ := mem_exportsOf.mp hrow
  have hstored' : (s.exportItems ++ _)[i]? = some row := hstored
  rw [List.getElem?_append] at hstored'
  split at hstored'
  · exact mem_exportsOf.mpr ⟨hstored', htarget, hsucceeded⟩
  · rw [(mem_createItems (List.mem_of_getElem? hstored')).2.1] at hsucceeded
    cases hsucceeded

omit [Casing] in
theorem reopened_counted (request : CrmExportRetryRequest) :
    (exportsOf (s.reopened rt b request) t).length ≤ (exportsOf s t).length := by
  apply counted_of_same
  intro i row hrow
  obtain ⟨hstored, htarget, hsucceeded⟩ := mem_exportsOf.mp hrow
  rw [reopened_item] at hstored
  obtain ⟨old, hold, rfl⟩ := Option.map_eq_some_iff.mp hstored
  by_cases htakes : (old.batchId == b && request.takes i old) = true
  · rw [if_pos htakes] at hsucceeded
    cases hsucceeded
  · rw [if_neg htakes] at htarget hsucceeded ⊢
    exact mem_exportsOf.mpr ⟨hold, htarget, hsucceeded⟩

end Counting

section Runs

variable [Casing] {rt : ExportRuntime} {w : ExportWorld} {b : Id}

/-- What a step makes of a world where each target is one batch's: it stays so, the calls
are for exportable targets, and an export uses up its target's chance. Chances are granted
to targets by the step itself. -/
structure StepsApart (granted : Id → Nat) (w v : ExportWorld) : Prop where
  apart : OneClaim v.store
  calls : ∀ call ∈ v.external.exports,
    call ∈ w.external.exports ∨ call.target.exportable = true
  counted : ∀ t, (exportsOf v.store t).length + chances v.store t ≤
    (exportsOf w.store t).length + chances w.store t + granted t

omit [Casing] in
theorem StepsApart.refl {granted : Id → Nat} (h : OneClaim w.store) : StepsApart granted w w :=
  ⟨h, fun _ hcall => Or.inl hcall, fun _ => Nat.le_add_right _ _⟩

/-- Processing a batch, whether it commits or not. -/
theorem processCrmExportBatch_apart (client : CrmClient) (hsound : w.store.Sound)
    (h : OneClaim w.store) :
    StepsApart (fun _ => 0) w (after (processCrmExportBatch rt client b) w) := by
  cases client with
  | unavailable message => exact .refl h
  | available exporter =>
    show StepsApart (fun _ => 0) w (after (processBatch rt exporter b) w)
    cases hbatch : w.store.exportBatches[b]? with
    | none =>
      rw [processBatch_missing hbatch]
      exact .refl h
    | some batch =>
      have hcalls : ∀ call ∈ (after (processBatch rt exporter b) w).external.exports,
          call ∈ w.external.exports ∨ call.target.exportable = true := by
        rw [processBatch_calls hbatch hsound.constraints]
        intro call hcall
        rcases List.mem_append.mp hcall with hold | hnew
        · exact Or.inl hold
        · refine Or.inr (h.calls ?_ call hnew)
          intro found hfound
          exact (mem_batchItems.mp ((Lib.upToFirst_sublist _ _).subset hfound)).1
      rcases processBatch_cases rt exporter (b := b) hsound with
        hsame | ⟨_, v, -, hsettles, hrun, -, hworked, -⟩
      · refine ⟨?_, hcalls, ?_⟩
        · rw [hsame]
          exact h
        · intro t
          rw [hsame]
          exact Nat.le_refl _
      · rw [hrun] at hcalls ⊢
        refine ⟨?_, hcalls, ?_⟩
        · have hapart := h.worked hworked hsettles
          exact ⟨hapart.single, hapart.exportable⟩
        · intro t
          have hcounted := h.worked_counted hworked hsettles t
          exact hcounted

/-- The chance an update of a target grants it. -/
def ExportStep.grants (c : ExportStep) (t : Id) : Nat :=
  if c.op.updates t then 1 else 0

/-- A step that keeps targets to one batch each. -/
theorem exportStep_apart (c : ExportStep) (hok : OneBatchEach w c) (hsound : w.store.Sound)
    (h : OneClaim w.store) : StepsApart c.grants w (exportStep w c) := by
  obtain ⟨rt, op⟩ := c
  cases op with
  | start client request actor key =>
    show StepsApart _ w (after (startCrmExport rt client request actor key) w)
    rcases startCrmExport_cases rt client request actor key hsound.constraints with
      hsame | ⟨hnew, hrequire, hvalid, hrun⟩
    · rw [hsame]
      exact .refl h
    · have hopened : OneClaim (w.store.opened rt request actor key) :=
        h.opened hrequire hvalid (hok hnew)
      have hprocess : StepsApart (fun _ => 0) ⟨w.store.opened rt request actor key, w.external⟩
          (after (processCrmExportBatch rt client w.store.exportBatches.length)
            ⟨w.store.opened rt request actor key, w.external⟩) :=
        processCrmExportBatch_apart client
          ⟨hvalid, hsound.fresh.keep (opened_keepsKeys request actor key)⟩ hopened
      rw [hrun]
      refine ⟨hprocess.apart, hprocess.calls, ?_⟩
      intro t
      have hfew : (exportsOf (w.store.opened rt request actor key) t).length ≤
          (exportsOf w.store t).length := opened_counted request actor key
      have hsteps := hprocess.counted t
      have hsame : chances (w.store.opened rt request actor key) t = chances w.store t := rfl
      dsimp only at hsteps
      omega
  | retry client b request =>
    show StepsApart _ w (after (retryFailedCrmExportItems rt client b request) w)
    rcases retryFailedCrmExportItems_cases rt (b := b) client request hsound.constraints with
      hsame | ⟨htakes, hvalid, hrun⟩
    · rw [hsame]
      exact .refl h
    · have hprocess : StepsApart (fun _ => 0) ⟨w.store.reopened rt b request, w.external⟩
          (after (processCrmExportBatch rt client b)
            ⟨w.store.reopened rt b request, w.external⟩) :=
        processCrmExportBatch_apart client
          ⟨hvalid, hsound.fresh.keep (reopened_keepsKeys htakes)⟩ h.reopened
      rw [hrun]
      refine ⟨hprocess.apart, hprocess.calls, ?_⟩
      intro t
      have hfew : (exportsOf (w.store.reopened rt b request) t).length ≤
          (exportsOf w.store t).length := reopened_counted request
      have hsteps := hprocess.counted t
      have hsame : chances (w.store.reopened rt b request) t = chances w.store t := rfl
      dsimp only at hsteps
      omega
  | process client b =>
    have hprocess : StepsApart (fun _ => 0) w (after (processCrmExportBatch rt client b) w) :=
      processCrmExportBatch_apart client hsound h
    exact ⟨hprocess.apart, hprocess.calls,
      fun t => (hprocess.counted t).trans (Nat.le_add_right _ _)⟩
  | update t request =>
    show StepsApart _ w (after (updateCrmTarget rt t request) w)
    rcases updateCrmTarget_cases rt (w := w) t request with hsame | ⟨hrun, -⟩
    · rw [hsame]
      exact .refl h
    · rw [hrun]
      refine ⟨?_, fun _ hcall => Or.inl hcall, ?_⟩
      · refine h.of_same (fun i row hrow hlive => ⟨row, hrow, hlive, rfl⟩) ?_
        intro t' target hclaimed hstored hexportable
        show ∃ target', (w.store.crmTargets.modify t (request.apply rt.now))[t']? = _ ∧ _
        by_cases ht : t = t'
        · subst ht
          rw [List.getElem?_modify_eq, hstored]
          exact ⟨_, rfl, hok hclaimed target hstored⟩
        · rw [List.getElem?_modify_ne _ _ ht, hstored]
          exact ⟨target, rfl, hexportable⟩
      · intro t'
        have hitems : exportsOf (w.store.updateTarget t (request.apply rt.now)) t' =
            exportsOf w.store t' := rfl
        show (exportsOf (w.store.updateTarget t (request.apply rt.now)) t').length +
          chances (w.store.updateTarget t (request.apply rt.now)) t' ≤ _
        rw [hitems]
        by_cases ht : t = t'
        · have hgrants : ExportStep.grants ⟨rt, .update t request⟩ t' = 1 := by
            simp [ExportStep.grants, ExportOp.updates, ht]
          have hone := chances_le_one (w.store.updateTarget t (request.apply rt.now)) t'
          omega
        · have hsame : chances (w.store.updateTarget t (request.apply rt.now)) t' =
              chances w.store t' := by
            unfold chances
            show (if ((w.store.crmTargets.modify t _)[t']?).all _ then _ else _) = _
            rw [List.getElem?_modify_ne _ _ ht]
          rw [hsame]
          exact Nat.le_add_right _ _
  | elsewhere records =>
    show StepsApart _ w (if records.accepted w.store then _ else w)
    split
    · refine ⟨?_, fun _ hcall => Or.inl hcall, ?_⟩
      · refine h.of_same (fun i row hrow hlive => ⟨row, hrow, hlive, rfl⟩) ?_
        intro t target _ hstored hexportable
        exact ⟨target, Table.get_of_prefix (List.prefix_append _ _) t target hstored, hexportable⟩
      · intro t
        have hitems : exportsOf (records.replace w.store) t = exportsOf w.store t := rfl
        have hchances : chances (records.replace w.store) t ≤ chances w.store t := by
          cases hstored : w.store.crmTargets[t]? with
          | none =>
            have hbefore : chances w.store t = 1 := by
              unfold chances
              rw [hstored]
              rfl
            rw [hbefore]
            exact chances_le_one _ t
          | some target =>
            have hkept : (records.replace w.store).crmTargets[t]? = some target :=
              Table.get_of_prefix (List.prefix_append _ _) t target hstored
            unfold chances
            rw [hkept, hstored]
        dsimp only
        rw [hitems]
        omega
    · exact .refl h

/-- In a run that keeps each target to one batch at a time, the CRM is called for targets
that are then exportable, and each target is exported at most once, and once more for each
update of it. -/
theorem exported_once_each {init : ExportWorld} (hinit : ExportsInitial init)
    {steps : List ExportStep} (hrun : Admissible exportStep OneBatchEach init steps) :
    (∀ call ∈ (runExports init steps).external.exports, call.target.exportable = true) ∧
      ∀ t, (exportsOf (runExports init steps).store t).length ≤
        1 + steps.countP fun c => c.op.updates t := by
  have hhistory : (runExports init steps).store.Sound ∧ OneClaim (runExports init steps).store ∧
      (∀ call ∈ (runExports init steps).external.exports, call.target.exportable = true) ∧
      ∀ t, (exportsOf (runExports init steps).store t).length +
        chances (runExports init steps).store t ≤ 1 + steps.countP fun c => c.op.updates t := by
    refine Lib.run_history (P := fun steps w => w.store.Sound ∧ OneClaim w.store ∧
      (∀ call ∈ w.external.exports, call.target.exportable = true) ∧
      ∀ t, (exportsOf w.store t).length + chances w.store t ≤
        1 + steps.countP fun c => c.op.updates t) ?_ ?_ hrun
    · refine ⟨hinit.sound, ⟨?_, ?_⟩, ?_, ?_⟩
      · rw [hinit.items]
        exact fun i j item other hitem => by cases hitem
      · rw [hinit.items]
        exact fun i item hitem => by cases hitem
      · rw [hinit.exports]
        exact fun call hcall => absurd hcall List.not_mem_nil
      · intro t
        have hnone : exportsOf init.store t = [] := by
          unfold exportsOf
          rw [hinit.items]
          rfl
        rw [hnone]
        exact (Nat.le_of_eq (Nat.zero_add _)).trans
          ((chances_le_one init.store t).trans (Nat.le_add_right _ _))
    · intro past c _ hok ⟨hsound, hclaim, hcalls, hcount⟩
      have hstep := exportStep_apart c hok hsound hclaim
      refine ⟨exportStep_sound c hsound, hstep.apart, ?_, ?_⟩
      · intro call hcall
        rcases hstep.calls call hcall with hold | hnew
        · exact hcalls call hold
        · exact hnew
      · intro t
        have hbefore := hcount t
        have hafter := hstep.counted t
        unfold ExportStep.grants at hafter
        rw [List.countP_append, List.countP_singleton]
        omega
  refine ⟨hhistory.2.2.1, ?_⟩
  intro t
  have hcount := hhistory.2.2.2 t
  omega

end Runs

/-- A batch over the company is opened and processed, and then processed again. -/
def companyRun : List ExportStep :=
  [⟨{ now := 1 }, .start (.available filingExporter) { crmTargetIds := [0] } "op" "export:1"⟩,
    ⟨{ now := 2 }, .process (.available filingExporter) 0⟩]

theorem company_exported_once :
    (∀ call ∈ (runExports (exportDesk [acmeTarget]) companyRun).external.exports,
        call.target.exportable = true) ∧
      ∀ t, (exportsOf (runExports (exportDesk [acmeTarget]) companyRun).store t).length ≤
        1 + companyRun.countP fun c => c.op.updates t := by
  refine exported_once_each (exportDesk_initial (by decide +kernel)) ⟨?_, trivial, trivial⟩
  rintro - t - ⟨i, item, hitem, -⟩
  cases hitem

end GhostRecon
