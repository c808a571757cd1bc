import GhostRecon.Incidents.Coverage
import GhostRecon.Incidents.Decisions

/-!
Runs of the incident service: items are fetched and parsed, analysts decide,
incidents are promoted. Three services write the status of an incident, each
with its own guard. The results say which changes of status, method and
version a run can make.
-/

namespace GhostRecon.Incidents

open Lib (Id Table Chain Work after Admissible run run_cons)
open Std.Do

set_option mvcgen.warning false

/-- The store after a decision was recorded. -/
def decided (rule : DecisionRule) (incident : Id) (request : IncidentDecisionRequest)
    (actor idempotencyKey : String) (s : IncidentStore) : IncidentStore :=
  let recorded := addDecision {
    targetId := incident
    decision := rule.outcome
    actor
    reasonCode := request.reasonCode
    reason := request.reason
    idempotencyKey } (modifyIncident incident (rule.change request) s)
  enqueue (rule.event s.decisions.length)
    (if rule.refers then setDecisionRef incident s.decisions.length recorded else recorded)

/-- The incident service has no external world. -/
theorem world_ext {v w : IncidentWorld} (h : v.store = w.store) : v = w := by
  cases v
  cases w
  cases h
  rfl

/-- A scope that commits anything committed what its body returned with. -/
theorem after_scope_cases {α : Type} {body : IncidentTx α} {w : IncidentWorld}
    {returns : IncidentWorld → Prop}
    (h : ⦃fun v => ⌜v = w⌝⦄ body
      ⦃post⟨fun _ v => ⌜v.store = w.store ∨ returns v⌝, fun _ _ => ⌜True⌝⟩⦄) :
    after (sessionScope body) w = w ∨ returns (after (sessionScope body) w) := by
  have hscope : (after (sessionScope body) w).store = w.store ∨ ∃ _ : α,
      ((after (sessionScope body) w).store = w.store ∨
        returns (after (sessionScope body) w)) ∧
        (after (sessionScope body) w).store.constraintsOk = true :=
    Lib.after_sessionScope_cases h
  rcases hscope with hstore | ⟨_, hstore | hreturns, -⟩
  · exact Or.inl (world_ext hstore)
  · exact Or.inl (world_ext hstore)
  · exact Or.inr hreturns

theorem decisionBody_returns (rule : DecisionRule) (incident : Id)
    (request : IncidentDecisionRequest) (actor key : String) (w : IncidentWorld) :
    ⦃fun v => ⌜v = w⌝⦄ decisionBody rule incident request actor key
      ⦃post⟨fun _ v => ⌜v.store = w.store ∨
          ∃ row, w.store.incidents[incident]? = some row ∧ row.version = request.version ∧
            rule.guard request row = .ok PUnit.unit ∧
            v.store = decided rule incident request actor key w.store⌝,
        fun _ _ => ⌜True⌝⟩⦄ := by
  mvcgen [decisionBody, flush, Lib.flush]
  all_goals subst_vars
  · exact Or.inl rfl
  · exact Or.inl rfl
  · next row hrow _ hversion _ hguard _ _ hrefers =>
    refine Or.inr ⟨row, hrow, not_ne_iff.mp hversion, hguard, ?_⟩
    simp only [decided, if_pos hrefers]
    rfl
  · next row hrow _ hversion _ hguard _ _ hrefers =>
    refine Or.inr ⟨row, hrow, not_ne_iff.mp hversion, hguard, ?_⟩
    simp only [decided, if_neg hrefers]
    rfl

/-- A call of a decision changes nothing, or its guards hold and the decision is
recorded. -/
theorem decideIncident_cases (rule : DecisionRule) (incident : Id)
    (request : IncidentDecisionRequest) (actor key : String) (w : IncidentWorld) :
    after (decideIncident rule incident request actor key) w = w ∨
      ∃ row, w.store.incidents[incident]? = some row ∧ row.version = request.version ∧
        rule.guard request row = .ok PUnit.unit ∧
        (after (decideIncident rule incident request actor key) w).store =
          decided rule incident request actor key w.store := by
  exact after_scope_cases (decisionBody_returns rule incident request actor key w)

/-- The row of an incident after it was promoted. -/
def SecurityIncident.afterPromotion (row : SecurityIncident) : SecurityIncident :=
  if row.status = .candidate then row.promoted else row

variable [Casing]

theorem createWatchTarget_keeps (tools : IncidentTools) (company actor : String) (incident : Id)
    (key : String)
    (I : Table SecurityIncident → Table IncidentDecision → Prop) :
    ⦃fun v => ⌜I v.store.incidents v.store.decisions⌝⦄
      createWatchTarget tools company actor incident key
      ⦃post⟨fun _ v => ⌜I v.store.incidents v.store.decisions⌝, fun _ _ => ⌜True⌝⟩⦄ := by
  mvcgen [createWatchTarget, flush, Lib.flush]

theorem promotionBody_returns (tools : IncidentTools) (incident : Id) (version : Nat)
    (actor key : String) (w : IncidentWorld) :
    ⦃fun v => ⌜v = w⌝⦄ promotionBody tools incident version actor key
      ⦃post⟨fun _ v => ⌜v.store = w.store ∨
          ∃ row, w.store.incidents[incident]? = some row ∧ row.version = version ∧
            row.status ≠ .rejected ∧
            v.store.incidents =
              w.store.incidents.modify incident SecurityIncident.afterPromotion ∧
            v.store.decisions = w.store.decisions⌝,
        fun _ _ => ⌜True⌝⟩⦄ := by
  have hwatch := fun company => createWatchTarget_keeps tools company actor incident key
    fun incidents decisions =>
      incidents = w.store.incidents.modify incident SecurityIncident.afterPromotion ∧
        decisions = w.store.decisions
  mvcgen [promotionBody, hwatch]
  all_goals subst_vars
  · exact Or.inl rfl
  · next row hrow _ _ _ hstatus _ _ =>
    have hsame : row.afterPromotion = row := by
      simp [SecurityIncident.afterPromotion, hstatus]
    exact ⟨(Table.modify_self hrow hsame).symm, rfl⟩
  · next row hrow _ hversion _ hstatus _ _ _ _ h =>
    exact Or.inr ⟨row, hrow, not_ne_iff.mp hversion, by simp [hstatus], h⟩
  · next row hrow _ _ _ hstatus _ _ =>
    have hpromoted : row.afterPromotion = row.promoted := by
      simp [SecurityIncident.afterPromotion, hstatus]
    exact ⟨Table.modify_congr hrow hpromoted.symm, rfl⟩
  · next row hrow _ hversion _ hstatus _ _ _ _ h =>
    exact Or.inr ⟨row, hrow, not_ne_iff.mp hversion, by simp [hstatus], h⟩

/-- A call of a promotion changes nothing, or the incident was not rejected and
is corroborated afterwards. -/
theorem promoteIncident_cases (tools : IncidentTools) (incident : Id) (version : Nat)
    (actor key : String) (w : IncidentWorld) :
    after (promoteIncidentToWatchlist tools incident version actor key) w = w ∨
      ∃ row, w.store.incidents[incident]? = some row ∧ row.version = version ∧
        row.status ≠ .rejected ∧
        (after (promoteIncidentToWatchlist tools incident version actor key) w).store.incidents =
          w.store.incidents.modify incident SecurityIncident.afterPromotion ∧
        (after (promoteIncidentToWatchlist tools incident version actor key) w).store.decisions =
          w.store.decisions :=
  after_scope_cases (promotionBody_returns tools incident version actor key w)

inductive IncidentAction where
  /-- The fetcher stores an item. -/
  | fetch (item : NewsItem)
  | parse (sourceDefinitionId : Option Id)
  | corroborate (incident : Id) (request : IncidentDecisionRequest) (actor key : String)
  | reject (incident : Id) (request : IncidentDecisionRequest) (actor key : String)
  | revert (incident : Id) (request : IncidentDecisionRequest) (actor key : String)
  | promote (incident : Id) (version : Nat) (actor key : String)

/-- The world after a call, whether it returned or raised. -/
def step (tools : IncidentTools) (w : IncidentWorld) : IncidentAction → IncidentWorld
  | .fetch item => { w with store := { w.store with items := w.store.items ++ [item] } }
  | .parse sourceDefinitionId => parsePendingItems tools sourceDefinitionId w
  | .corroborate incident request actor key =>
    after (corroborateIncident tools incident request actor key) w
  | .reject incident request actor key => after (rejectIncident incident request actor key) w
  | .revert incident request actor key => after (revertIncident incident request actor key) w
  | .promote incident version actor key =>
    after (promoteIncidentToWatchlist tools incident version actor key) w

/-- The row of an incident after a decision by a rule. -/
def DecisionRule.applied (rule : DecisionRule) (request : IncidentDecisionRequest)
    (decision : Id) (row : SecurityIncident) : SecurityIncident :=
  if rule.refers then { rule.change request row with analystDecisionRef := some decision }
  else rule.change request row

/-- The decision on the incident is in the table afterwards and was not before. -/
def Recorded (outcome : DecisionOutcome) (incident : Id) (before after : IncidentStore) : Prop :=
  ∃ decision : IncidentDecision, after.decisions = before.decisions ++ [decision] ∧
    decision.targetId = incident ∧ decision.decision = outcome

/-- What an action can do to the row of one stored incident. -/
inductive Touches (tools : IncidentTools) (w : IncidentWorld) (incident : Id)
    (row : SecurityIncident) : IncidentAction → SecurityIncident → Prop where
  | untouched (action : IncidentAction) : Touches tools w incident row action row
  | covered {source : Option Id} {row' : SecurityIncident}
      (hcovered : Covered (w.store.reports tools source) row row') :
      Touches tools w incident row (.parse source) row'
  | corroborated {request : IncidentDecisionRequest} {actor key : String} {decision : Id}
      (hversion : row.version = request.version)
      (hguard : corroborationGuard tools request row = .ok PUnit.unit)
      (hrecorded : Recorded .approved incident w.store
        (step tools w (.corroborate incident request actor key)).store) :
      Touches tools w incident row (.corroborate incident request actor key)
        ((corroborateRule tools).applied request decision row)
  | rejected {request : IncidentDecisionRequest} {actor key : String} {decision : Id}
      (hversion : row.version = request.version) :
      Touches tools w incident row (.reject incident request actor key)
        (rejectRule.applied request decision row)
  | reverted {request : IncidentDecisionRequest} {actor key : String} {decision : Id}
      (hversion : row.version = request.version) (hstatus : row.status = .corroborated) :
      Touches tools w incident row (.revert incident request actor key)
        (revertRule.applied request decision row)
  | promoted {version : Nat} {actor : String} (hversion : row.version = version)
      (hstatus : row.status ≠ .rejected) :
      Touches tools w incident row (.promote incident version actor key) row.afterPromotion

omit [Casing] in
theorem decided_incidents (rule : DecisionRule) (incident : Id)
    (request : IncidentDecisionRequest) (actor key : String) (s : IncidentStore) :
    (decided rule incident request actor key s).incidents =
      s.incidents.modify incident (rule.applied request s.decisions.length) := by
  unfold decided DecisionRule.applied
  split
  · simp only [enqueue, setDecisionRef, addDecision, modifyIncident, List.modify_modify_eq]
    rfl
  · rfl

omit [Casing] in
theorem decided_recorded (rule : DecisionRule) (incident : Id)
    (request : IncidentDecisionRequest) (actor key : String) (s : IncidentStore) :
    Recorded rule.outcome incident s (decided rule incident request actor key s) := by
  refine ⟨⟨incident, rule.outcome, actor, request.reasonCode, request.reason, key⟩, ?_, rfl, rfl⟩
  unfold decided
  split <;> rfl

omit [Casing] in
theorem decideIncident_length (rule : DecisionRule) (incident : Id)
    (request : IncidentDecisionRequest) (actor key : String) (w : IncidentWorld) :
    (after (decideIncident rule incident request actor key) w).store.incidents.length =
      w.store.incidents.length := by
  obtain hsame | ⟨-, -, -, -, hstore⟩ := decideIncident_cases rule incident request actor key w
  · rw [hsame]
  · rw [hstore, decided_incidents, List.length_modify]

omit [Casing] in
/-- A call of a decision leaves a stored row alone or applies its rule. -/
theorem decideIncident_touches (rule : DecisionRule) (incident : Id) {i : Id}
    (request : IncidentDecisionRequest) (actor key : String) {w : IncidentWorld}
    {row : SecurityIncident} (hrow : w.store.incidents[i]? = some row) :
    (after (decideIncident rule incident request actor key) w).store.incidents[i]? = some row ∨
      (incident = i ∧ row.version = request.version ∧
        rule.guard request row = .ok PUnit.unit ∧
        Recorded rule.outcome incident w.store
          (after (decideIncident rule incident request actor key) w).store ∧
        (after (decideIncident rule incident request actor key) w).store.incidents[i]? =
          some (rule.applied request w.store.decisions.length row)) := by
  obtain hsame | ⟨found, hfound, hversion, hguard, hstore⟩ :=
    decideIncident_cases rule incident request actor key w
  · rw [hsame]
    exact Or.inl hrow
  · rw [hstore, decided_incidents]
    by_cases hi : incident = i
    · subst hi
      obtain rfl : found = row := Option.some.inj (hfound.symm.trans hrow)
      refine Or.inr ⟨rfl, hversion, hguard, decided_recorded rule incident request actor key _, ?_⟩
      rw [List.getElem?_modify_eq, hrow]
      rfl
    · left
      rw [List.getElem?_modify_ne _ _ hi]
      exact hrow

/-- A stored incident stays stored, and an action touches its row in one of the
listed ways. -/
theorem step_touches (tools : IncidentTools) (w : IncidentWorld) (action : IncidentAction)
    {i : Id} {row : SecurityIncident} (hrow : w.store.incidents[i]? = some row) :
    ∃ row', (step tools w action).store.incidents[i]? = some row' ∧
      Touches tools w i row action row' := by
  cases action with
  | fetch item => exact ⟨row, hrow, .untouched _⟩
  | parse source =>
    obtain hsame | ⟨v, hv, hpending, -, hstore⟩ := parsePendingItems_cases tools source w
    · exact ⟨row, by rw [step, hsame]; exact hrow, .untouched _⟩
    · obtain ⟨row', hrow', hcovered⟩ := hv.covered.1.stored i row hrow
      rw [(flushed_tables v).1, hpending, List.filterMap_nil, List.append_nil] at hrow'
      exact ⟨row', by rw [step, hstore]; exact hrow', .covered hcovered⟩
  | corroborate incident request actor key =>
    obtain hsame | ⟨rfl, hversion, hguard, hrecorded, hrow'⟩ :=
      decideIncident_touches (corroborateRule tools) incident request actor key hrow
    · exact ⟨row, hsame, .untouched _⟩
    · exact ⟨_, hrow', .corroborated hversion hguard hrecorded⟩
  | reject incident request actor key =>
    obtain hsame | ⟨rfl, hversion, -, -, hrow'⟩ :=
      decideIncident_touches rejectRule incident request actor key hrow
    · exact ⟨row, hsame, .untouched _⟩
    · exact ⟨_, hrow', .rejected hversion⟩
  | revert incident request actor key =>
    obtain hsame | ⟨rfl, hversion, hguard, -, hrow'⟩ :=
      decideIncident_touches revertRule incident request actor key hrow
    · exact ⟨row, hsame, .untouched _⟩
    · refine ⟨_, hrow', .reverted hversion ?_⟩
      by_contra hstatus
      simp [revertRule, hstatus] at hguard
  | promote incident version actor key =>
    obtain hsame | ⟨found, hfound, hversion, hstatus, hincidents, -⟩ :=
      promoteIncident_cases tools incident version actor key w
    · exact ⟨row, by rw [step, hsame]; exact hrow, .untouched _⟩
    · by_cases hi : incident = i
      · subst hi
        obtain rfl : found = row := Option.some.inj (hfound.symm.trans hrow)
        refine ⟨found.afterPromotion, ?_, .promoted hversion hstatus⟩
        rw [step, hincidents, List.getElem?_modify_eq, hrow]
        rfl
      · refine ⟨row, ?_, .untouched _⟩
        rw [step, hincidents, List.getElem?_modify_ne _ _ hi]
        exact hrow

/-- An incident that was not stored before comes from an item the action parsed. -/
theorem step_new (tools : IncidentTools) (w : IncidentWorld) (action : IncidentAction) {i : Id}
    {row' : SecurityIncident} (hnew : w.store.incidents.length ≤ i)
    (hrow' : (step tools w action).store.incidents[i]? = some row') :
    ∃ source item article candidate, ∃ admits : IncidentCandidate → Prop,
      Covered admits (newIncident source item article candidate) row' := by
  have hlt := (List.getElem?_eq_some_iff.mp hrow').1
  cases action with
  | fetch item => exact absurd hlt (Nat.not_lt.mpr hnew)
  | parse source =>
    obtain hsame | ⟨v, hv, hpending, -, hstore⟩ := parsePendingItems_cases tools source w
    · rw [step, hsame] at hlt
      exact absurd hlt (Nat.not_lt.mpr hnew)
    · rw [step, hstore] at hrow'
      have hflushed : (v.flushed schema).incidents = v.rows.incidents := by
        rw [(flushed_tables v).1, hpending, List.filterMap_nil, List.append_nil]
      obtain ⟨source, item, article, candidate, -, hcovered⟩ :=
        hv.covered.1.new i row' hnew (hflushed ▸ hrow')
      exact ⟨source, item, article, candidate, _, hcovered⟩
  | corroborate incident request actor key =>
    rw [step, corroborateIncident, decideIncident_length] at hlt
    exact absurd hlt (Nat.not_lt.mpr hnew)
  | reject incident request actor key =>
    rw [step, rejectIncident, decideIncident_length] at hlt
    exact absurd hlt (Nat.not_lt.mpr hnew)
  | revert incident request actor key =>
    rw [step, revertIncident, decideIncident_length] at hlt
    exact absurd hlt (Nat.not_lt.mpr hnew)
  | promote incident version actor key =>
    obtain hsame | ⟨-, -, -, -, hincidents, -⟩ :=
      promoteIncident_cases tools incident version actor key w
    · rw [step, hsame] at hlt
      exact absurd hlt (Nat.not_lt.mpr hnew)
    · rw [step, hincidents, List.length_modify] at hlt
      exact absurd hlt (Nat.not_lt.mpr hnew)

omit [Casing] in
theorem decided_items (rule : DecisionRule) (incident : Id) (request : IncidentDecisionRequest)
    (actor key : String) (s : IncidentStore) :
    (decided rule incident request actor key s).sources = s.sources ∧
      (decided rule incident request actor key s).items = s.items := by
  unfold decided
  split <;> exact ⟨rfl, rfl⟩

omit [Casing] in
theorem decideIncident_items (rule : DecisionRule) (incident : Id)
    (request : IncidentDecisionRequest) (actor key : String) (w : IncidentWorld) :
    (after (decideIncident rule incident request actor key) w).store.sources =
        w.store.sources ∧
      (after (decideIncident rule incident request actor key) w).store.items =
        w.store.items := by
  obtain hsame | ⟨-, -, -, -, hstore⟩ := decideIncident_cases rule incident request actor key w
  · rw [hsame]
    exact ⟨rfl, rfl⟩
  · rw [hstore]
    exact decided_items rule incident request actor key w.store

theorem promoteIncident_items (tools : IncidentTools) (incident : Id) (version : Nat)
    (actor key : String) (w : IncidentWorld) :
    (after (promoteIncidentToWatchlist tools incident version actor key) w).store.sources =
        w.store.sources ∧
      (after (promoteIncidentToWatchlist tools incident version actor key) w).store.items =
        w.store.items := by
  refine (Lib.sessionScope_keeps (I := fun s : IncidentStore =>
    s.sources = w.store.sources ∧ s.items = w.store.items) ⟨rfl, rfl⟩ ?_).1
  mvcgen [promotionBody, createWatchTarget, flush, Lib.flush]
  all_goals subst_vars
  all_goals exact ⟨rfl, rfl⟩

/-- The sources stay, and an item that waits afterwards waited before or was
fetched. -/
theorem step_items (tools : IncidentTools) (w : IncidentWorld) (action : IncidentAction) :
    (step tools w action).store.sources = w.store.sources ∧
      ∀ item ∈ (step tools w action).store.items, item.parseStatus = .pending →
        item ∈ w.store.items ∨ action = .fetch item := by
  cases action with
  | fetch fetched =>
    refine ⟨rfl, ?_⟩
    intro item hmem _
    obtain hold | hnew := List.mem_append.mp hmem
    · exact Or.inl hold
    · exact Or.inr (congrArg _ (List.mem_singleton.mp hnew).symm)
  | parse source =>
    obtain hsame | ⟨v, hv, -, -, hstore⟩ := parsePendingItems_cases tools source w
    · rw [step, hsame]
      exact ⟨rfl, fun _ hmem _ => Or.inl hmem⟩
    · rw [step, hstore]
      exact ⟨hv.items.1, fun item hmem hpending => Or.inl (hv.items.2 item hmem hpending)⟩
  | corroborate incident request actor key =>
    have h := decideIncident_items (corroborateRule tools) incident request actor key w
    exact ⟨h.1, fun _ hmem _ => Or.inl (h.2 ▸ hmem)⟩
  | reject incident request actor key =>
    have h := decideIncident_items rejectRule incident request actor key w
    exact ⟨h.1, fun _ hmem _ => Or.inl (h.2 ▸ hmem)⟩
  | revert incident request actor key =>
    have h := decideIncident_items revertRule incident request actor key w
    exact ⟨h.1, fun _ hmem _ => Or.inl (h.2 ▸ hmem)⟩
  | promote incident version actor key =>
    have h := promoteIncident_items tools incident version actor key w
    exact ⟨h.1, fun _ hmem _ => Or.inl (h.2 ▸ hmem)⟩

theorem run_sources (tools : IncidentTools) (w : IncidentWorld)
    (actions : List IncidentAction) :
    (run (step tools) w actions).store.sources = w.store.sources := by
  induction actions generalizing w with
  | nil => rfl
  | cons action rest ih =>
    rw [run_cons, ih]
    exact (step_items tools w action).1

omit [Casing] in
theorem mem_pendingItems {s : IncidentStore} {source : Option Id} {pending : PendingItem}
    (h : pending ∈ s.pendingItems source) :
    pending.item ∈ s.items ∧ pending.item.parseStatus = .pending ∧
      s.sources[pending.item.sourceDefinitionId]? = some pending.source := by
  simp only [IncidentStore.pendingItems, List.mem_mergeSort, List.mem_filter,
    List.mem_filterMap, Bool.and_eq_true, decide_eq_true_eq] at h
  obtain ⟨⟨⟨item, id⟩, hmem, hjoined⟩, ⟨⟨-, hpending⟩, -⟩, -⟩ := h
  obtain ⟨source, hsource, rfl⟩ := Option.map_eq_some_iff.mp hjoined
  refine ⟨?_, hpending, hsource⟩
  have hrow := List.mem_zipIdx_iff_getElem?.mp hmem
  exact List.mem_of_getElem? hrow

/-- The items that an action fetches. -/
def IncidentAction.fetched? : IncidentAction → Option NewsItem
  | .fetch item => some item
  | _ => none

/-- The items that a run can parse: those that wait, and those it fetches. -/
def ingestedItems (w : IncidentWorld) (actions : List IncidentAction) : List NewsItem :=
  w.store.items.filter (·.parseStatus = .pending) ++
    actions.filterMap IncidentAction.fetched?

/-- A step that takes what is read out of an item from a table. -/
def tableStep (tools : IncidentTools) (read : NewsSource → NewsItem → Reading)
    (w : IncidentWorld) : IncidentAction → IncidentWorld
  | .parse source => Work.commit schema w
      ((w.store.pendingItems source).foldl (fun v pending =>
        ingestRound pending.item.sourceDefinitionId pending.id
          (read pending.source pending.item) v) (Work.start w.store))
  | action => step tools w action

/-- A table that agrees with the candidate functions on the items of a run gives
the same run. -/
theorem run_eq_tableStep {tools : IncidentTools} {read : NewsSource → NewsItem → Reading}
    {w : IncidentWorld} {actions : List IncidentAction}
    (hread : ∀ item ∈ ingestedItems w actions, ∀ source ∈ w.store.sources,
      readItem tools source item = read source item) :
    run (step tools) w actions = run (tableStep tools read) w actions := by
  induction actions generalizing w with
  | nil => rfl
  | cons action rest ih =>
    have hstep : step tools w action = tableStep tools read w action := by
      cases action with
      | parse source =>
        rw [step, parsePendingItems_eq rfl, tableStep]
        congr 1
        refine List.foldl_ext _ _ _ ?_
        intro v pending hpending
        obtain ⟨hmem, hwaiting, hsource⟩ := mem_pendingItems hpending
        rw [hread pending.item (List.mem_append_left _
          (List.mem_filter.mpr ⟨hmem, decide_eq_true hwaiting⟩)) pending.source
          (List.mem_of_getElem? hsource)]
      | _ => rfl
    rw [run_cons, run_cons, ← hstep]
    refine ih ?_
    intro item hitem source hsource
    obtain ⟨hsources, hitems⟩ := step_items tools w action
    refine hread item ?_ source (hsources ▸ hsource)
    obtain hwaiting | hfetched := List.mem_append.mp hitem
    · obtain ⟨hmem, hpending⟩ := List.mem_filter.mp hwaiting
      obtain hold | rfl := hitems item hmem (of_decide_eq_true hpending)
      · exact List.mem_append_left _ (List.mem_filter.mpr ⟨hold, hpending⟩)
      · exact List.mem_append_right _ List.mem_cons_self
    · refine List.mem_append_right _ ?_
      rw [List.filterMap_cons]
      cases action.fetched? with
      | none => exact hfetched
      | some other => exact List.mem_cons_of_mem other hfetched

end GhostRecon.Incidents
