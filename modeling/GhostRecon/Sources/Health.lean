import GhostRecon.Sources.Failures

/-!
The health of a source. A fetch writes its outcome twice: into the columns of the source, which
the health report reads, and as an event into the outbox. Over every run of fetches, succeeding,
failing halfway or rolled back, the columns are what the events of the source say, so that the
report can be read off the log; and every stored item is announced once.
-/

namespace GhostRecon.SourceRegistry

open Lib (Id Table write after run)

section Reports

inductive SourceHealthStatus where
  | unknown | disabled | degraded | stale | fresh
  deriving DecidableEq, Repr

/-- The columns that only the owner of a source sets. -/
structure HealthSettings where
  enabled : Bool := true
  freshnessSloSeconds : Nat := 86400

structure SourceHealth where
  enabled : Bool
  operatingState : String
  freshnessStatus : SourceHealthStatus
  freshnessSloSeconds : Nat
  freshnessLagSeconds : Option Nat
  checkpointState : List (String × Json)
  lastFetchAt : Option Time
  lastSuccessAt : Option Time
  lastErrorAt : Option Time
  lastError : Option String
  consecutiveFailures : Nat

/-- The status of `source_health_from_definition`. -/
def freshnessStatus (settings : HealthSettings) (row : SourceDefinition) (lag : Option Nat) :
    SourceHealthStatus :=
  if !settings.enabled ∨ row.operatingState = "paused" then .disabled
  else if row.operatingState = "degraded" ∨ row.consecutiveFailures > 0 then .degraded
  else
    match lag with
    | none => .unknown
    | some lag => if lag > settings.freshnessSloSeconds then .stale else .fresh

/-- `source_health_from_definition`; a lag is never negative. -/
def sourceHealthFromDefinition (settings : HealthSettings) (row : SourceDefinition)
    (now : Time) : SourceHealth :=
  let lag := row.lastSuccessAt.map fun last => now - last
  { enabled := settings.enabled
    operatingState := row.operatingState
    freshnessStatus := freshnessStatus settings row lag
    freshnessSloSeconds := settings.freshnessSloSeconds
    freshnessLagSeconds := lag
    checkpointState := row.checkpointState
    lastFetchAt := row.lastFetchAt
    lastSuccessAt := row.lastSuccessAt
    lastErrorAt := row.lastErrorAt
    lastError := row.lastError
    consecutiveFailures := row.consecutiveFailures }

end Reports

section Logs

/-- A fetch on the log: when it ended, and how. -/
structure LoggedFetch where
  time : Time
  succeeded : Bool

/-- What an event says of the fetches of a source. -/
def SourceEventKey.fetchOf (i : Id) : SourceEventKey → Option LoggedFetch
  | .itemIngested _ => none
  | .fetchSucceeded source time => if source = i then some ⟨time, true⟩ else none
  | .fetchFailed source time => if source = i then some ⟨time, false⟩ else none

def SourceEventKey.item? : SourceEventKey → Option Id
  | .itemIngested item => some item
  | .fetchSucceeded _ _ => none
  | .fetchFailed _ _ => none

/-- The fetches of a source that were committed. -/
def SourceStore.fetches (s : SourceStore) (i : Id) : List LoggedFetch :=
  s.events.filterMap (SourceEventKey.fetchOf i)

/-- The failures since the last success. -/
def trailingFailures (log : List LoggedFetch) : Nat :=
  (log.reverse.takeWhile fun entry => !entry.succeeded).length

def lastSuccess (log : List LoggedFetch) : Option Time :=
  (log.reverse.find? (·.succeeded)).map (·.time)

/-- The log ends with a failure. -/
def failing (log : List LoggedFetch) : Bool :=
  log.getLast?.any fun entry => !entry.succeeded

/-- The status of a source by its log alone. -/
def logStatus (settings : HealthSettings) (now : Time) (log : List LoggedFetch) :
    SourceHealthStatus :=
  if settings.enabled then
    match log.getLast? with
    | none => .unknown
    | some last =>
      if !last.succeeded then .degraded
      else if now - last.time > settings.freshnessSloSeconds then .stale
      else .fresh
  else .disabled

/-- The columns are what the log says. -/
structure Projects (log : List LoggedFetch) (row : SourceDefinition) : Prop where
  failures : row.consecutiveFailures = trailingFailures log
  success : row.lastSuccessAt = lastSuccess log
  state : row.operatingState = if failing log then "degraded" else "enabled"
  error : row.lastError.isSome = failing log ∧ row.lastErrorAt.isSome = failing log

variable {log : List LoggedFetch} {row : SourceDefinition} {now : Time}

theorem projects_fetched (h : Projects log row) : Projects log (fetchedRow now row) :=
  ⟨h.failures, h.success, h.state, h.error⟩

theorem failing_concat (entry : LoggedFetch) : failing (log ++ [entry]) = !entry.succeeded := by
  rw [failing, List.getLast?_concat]
  rfl

/-- A failure is counted on top of those before it. -/
theorem projects_failed (h : Projects log row) (error : String) :
    Projects (log ++ [⟨now, false⟩]) (failedRow now error row) := by
  refine ⟨?_, ?_, ?_, ?_⟩
  · show row.consecutiveFailures + 1 = _
    rw [h.failures, trailingFailures, trailingFailures, List.reverse_append]
    rfl
  · show row.lastSuccessAt = _
    rw [h.success, lastSuccess, lastSuccess, List.reverse_append]
    rfl
  · rw [failing_concat]
    rfl
  · rw [failing_concat]
    exact ⟨rfl, rfl⟩

/-- A success ends the failures. -/
theorem projects_succeeded (fetched created : Nat) :
    Projects (log ++ [⟨now, true⟩]) (succeededRow now fetched created row) := by
  refine ⟨?_, ?_, ?_, ?_⟩
  · show 0 = _
    rw [trailingFailures, List.reverse_append]
    rfl
  · show some now = _
    rw [lastSuccess, List.reverse_append]
    rfl
  · rw [failing_concat]
    rfl
  · rw [failing_concat]
    exact ⟨rfl, rfl⟩

/-- Over columns that follow the log the report is what the log says. -/
theorem status_of_projects (h : Projects log row) (settings : HealthSettings) (now : Time) :
    (sourceHealthFromDefinition settings row now).freshnessStatus =
      logStatus settings now log := by
  have hstate : row.operatingState ≠ "paused" := by
    rw [h.state]
    split <;> decide
  simp only [sourceHealthFromDefinition, freshnessStatus, logStatus, hstate, or_false,
    Bool.not_eq_true']
  cases settings.enabled with
  | false => rfl
  | true =>
    simp only [Bool.true_eq_false, if_false, if_true]
    induction log using List.reverseRecOn with
    | nil =>
      have hfailures : row.consecutiveFailures = 0 := h.failures
      have hsuccess : row.lastSuccessAt = none := h.success
      have hopen : row.operatingState = "enabled" := h.state
      rw [hfailures, hsuccess, hopen, if_neg (by decide)]
      rfl
    | append_singleton log entry _ =>
      rw [List.getLast?_concat]
      cases hentry : entry.succeeded with
      | false =>
        have hopen : row.operatingState = "degraded" := by
          rw [h.state, failing_concat, hentry]
          rfl
        rw [if_pos (Or.inl hopen)]
        exact (if_pos hentry).symm
      | true =>
        have hfailures : row.consecutiveFailures = 0 := by
          rw [h.failures, trailingFailures, List.reverse_append]
          simp [hentry]
        have hsuccess : row.lastSuccessAt = some entry.time := by
          rw [h.success, lastSuccess, List.reverse_append]
          simp [hentry]
        have hopen : row.operatingState = "enabled" := by
          rw [h.state, failing_concat, hentry]
          rfl
        rw [hfailures, hsuccess, hopen, if_neg (by decide)]
        simp only [Option.map_some, hentry, Bool.true_eq_false, if_false]

end Logs

section Loops

/-- Every stored item has been announced, in the order of the items and once. -/
def SourceStore.Announced (s : SourceStore) : Prop :=
  s.events.filterMap SourceEventKey.item? = List.range s.rawItems.length

/-- What the loop over the items leaves alone: the sources, the log of each, and that stored
items are announced. -/
structure LoopKeeps (s s' : SourceStore) : Prop where
  sources : s'.sources = s.sources
  fetches : ∀ i, s'.fetches i = s.fetches i
  announced : s.Announced → s'.Announced

theorem LoopKeeps.refl (s : SourceStore) : LoopKeeps s s :=
  ⟨rfl, fun _ => rfl, id⟩

theorem LoopKeeps.trans {s s' s'' : SourceStore} (h : LoopKeeps s s') (h' : LoopKeeps s' s'') :
    LoopKeeps s s'' :=
  ⟨h'.sources.trans h.sources, fun i => (h'.fetches i).trans (h.fetches i),
    fun hs => h'.announced (h.announced hs)⟩

/-- A new item and its event. -/
theorem loopKeeps_item (s : SourceStore) (row : RawSourceItem) :
    LoopKeeps s ((s.withItems (s.insertRawItem row)).enqueueEvent
      (.itemIngested s.rawItems.length)) := by
  refine ⟨rfl, ?_, ?_⟩
  · intro i
    show (s.events ++ [_]).filterMap _ = _
    rw [List.filterMap_append]
    exact List.append_nil _
  · intro hs
    show (s.events ++ [_]).filterMap _ = List.range (s.rawItems ++ [row]).length
    rw [List.filterMap_append, hs, List.length_append, List.length_singleton, List.range_succ]
    rfl

variable [Casing] {host : SourceHost} {source : FetchSource} {fetched : FetchedSourceItem}
  {w v : SourceWorld} {e : PyError}

/-- An item that is persisted was stored before, or is added and about to be announced. -/
theorem persist_ok {item : Id} {created : Bool}
    (hrun : persist host source fetched w = .ok (item, created) v) :
    created = false ∧ v.store = w.store ∨
      created = true ∧ item = w.store.rawItems.length ∧
        ∃ row, v.store = w.store.withItems (w.store.insertRawItem row) := by
  unfold persist at hrun
  simp only [Lib.bind_run, onItems_run] at hrun
  cases hurl : host.tools.normalizeUrl fetched.url with
  | error message =>
    rw [persist_unparsed hurl] at hrun
    cases hrun
  | ok canonicalUrl =>
    cases hfirst : w.store.rawItems.first?
        (·.idempotencyKey == fetched.key host.tools source canonicalUrl) with
    | some existing =>
      rw [persist_old hurl hfirst] at hrun
      simp only [Bool.false_and, Bool.false_eq_true, if_false, Lib.pure_run,
        EStateM.Result.ok.injEq, Prod.mk.injEq] at hrun
      obtain ⟨⟨-, rfl⟩, rfl⟩ := hrun
      exact Or.inl ⟨rfl, rfl⟩
    | none =>
      rw [persist_new hurl hfirst] at hrun
      by_cases hvalid : (w.store.insertRawItem
          (rawItemFor host.tools source fetched canonicalUrl w.store.toStore)).constraintsOk = true
      · rw [if_pos hvalid] at hrun
        cases hstorable : host.storable fetched with
        | false =>
          simp only [hstorable, Bool.not_false, Bool.and_self, if_true] at hrun
          cases hrun
        | true =>
          simp only [hstorable, Bool.not_true, Bool.and_false, Bool.false_eq_true, if_false,
            Lib.pure_run, EStateM.Result.ok.injEq, Prod.mk.injEq] at hrun
          obtain ⟨⟨rfl, rfl⟩, rfl⟩ := hrun
          exact Or.inr ⟨rfl, rfl, _, rfl⟩
      · rw [if_neg hvalid] at hrun
        cases hrun

/-- An item that cannot be read changes nothing; any other failure breaks the session. -/
theorem persist_error (hrun : persist host source fetched w = .error e v) :
    v = w ∨ e = .integrityError := by
  cases hread : readable host fetched with
  | false =>
    cases hurl : host.tools.normalizeUrl fetched.url with
    | error message =>
      rw [persist_unreadable hurl] at hrun
      cases hrun
      exact Or.inl rfl
    | ok canonicalUrl => simp [readable, hurl, Except.isOk, Except.toBool] at hread
  | true =>
    cases hrefused : refused host source w.store.toStore fetched with
    | false =>
      obtain ⟨item, created, hok⟩ := persist_accepted hread hrefused
      rw [hok] at hrun
      cases hrun
    | true =>
      obtain ⟨broken, hbroken⟩ := persist_refused hrefused
      rw [hbroken] at hrun
      cases hrun
      exact Or.inr rfl

/-- The loop over the items, when it ends and when it stops at an item. -/
theorem ingest_keeps {items : List FetchedSourceItem} :
    (∀ created v, ingest host source items w = .ok created v → LoopKeeps w.store v.store) ∧
      ∀ e v, ingest host source items w = .error e v →
        e = .integrityError ∨ LoopKeeps w.store v.store := by
  induction items generalizing w with
  | nil =>
    refine ⟨?_, ?_⟩
    · intro created v hrun
      cases hrun
      exact LoopKeeps.refl _
    · intro e v hrun
      cases hrun
  | cons first rest ih =>
    unfold ingest
    simp only [Lib.bind_run]
    cases hpersist : persist host source first w with
    | error e v =>
      refine ⟨?_, ?_⟩
      · intro created v' hrun
        cases hrun
      · intro e' v' hrun
        cases hrun
        rcases persist_error hpersist with rfl | hbroken
        · exact Or.inr (LoopKeeps.refl _)
        · exact Or.inl hbroken
    | ok answer middle =>
      have htail : ∀ (next : SourceWorld) (f : List Id → List Id),
          LoopKeeps w.store next.store →
            (∀ created v, (ingest host source rest >>= fun others => pure (f others)) next =
              .ok created v → LoopKeeps w.store v.store) ∧
            ∀ e v, (ingest host source rest >>= fun others => pure (f others)) next = .error e v →
              e = .integrityError ∨ LoopKeeps w.store v.store := by
        intro next f hkeeps
        obtain ⟨hok, herror⟩ := @ih next
        rw [Lib.bind_run]
        cases hrest : ingest host source rest next with
        | error e v =>
          refine ⟨?_, ?_⟩
          · intro created v' hrun
            cases hrun
          · intro e' v' hrun
            cases hrun
            exact (herror e v hrest).imp_right hkeeps.trans
        | ok others v =>
          refine ⟨?_, ?_⟩
          · intro created v' hrun
            cases hrun
            exact hkeeps.trans (hok others v hrest)
          · intro e v' hrun
            cases hrun
      obtain ⟨item, created⟩ := answer
      rcases persist_ok hpersist with ⟨rfl, hsame⟩ | ⟨rfl, rfl, row, hadded⟩
      · simp only [Bool.false_eq_true, if_false]
        exact htail middle id (hsame ▸ LoopKeeps.refl _)
      · simp only [if_true, Lib.bind_run, Lib.write_run]
        have hadd : LoopKeeps w.store
            (middle.store.enqueueEvent (.itemIngested w.store.rawItems.length)) := by
          rw [hadded]
          exact loopKeeps_item w.store row
        have hnext := htail { middle with
          store := middle.store.enqueueEvent (.itemIngested w.store.rawItems.length) }
            (w.store.rawItems.length :: ·) hadd
        simpa only [Lib.bind_run] using hnext

end Loops

section Fetches

variable [Casing] {host : SourceHost} {now : Time} {i : Id} {s : SourceStore}
  {fetch : Except String (List FetchedSourceItem)} {row : SourceDefinition}

/-- What a committed fetch of a source leaves: what its loop kept, its outcome in the columns,
and its event. -/
def FetchCommitted (now : Time) (i : Id) (s s' : SourceStore) : Prop :=
  s.sources[i]? ≠ none ∧ ∃ middle, LoopKeeps (s.updateSource i (fetchedRow now)) middle ∧
    ((∃ error, s' = (middle.updateSource i (failedRow now error)).enqueueEvent
        (.fetchFailed i now)) ∨
      ∃ fetched created, s' = (middle.updateSource i
        (succeededRow now fetched created)).enqueueEvent (.fetchSucceeded i now))

/-- What is done inside the handler ends with a success, breaks the session, or stops in the
loop. -/
theorem fetchItems_cases (source : FetchSource) (w : SourceWorld) :
    (∃ outcome v middle fetched created,
        fetchItems host now i source fetch w = .ok outcome v ∧ LoopKeeps w.store middle ∧
          v.store = (middle.updateSource i (succeededRow now fetched created)).enqueueEvent
            (.fetchSucceeded i now)) ∨
      (∃ v, fetchItems host now i source fetch w = .error .integrityError v) ∨
      ∃ e v, fetchItems host now i source fetch w = .error e v ∧ e ≠ .integrityError ∧
        LoopKeeps w.store v.store := by
  unfold fetchItems
  simp only [Lib.bind_run, Lib.queryOrRaise_run]
  cases fetch with
  | error message =>
    exact Or.inr (Or.inr ⟨.providerError message, w, rfl, nofun, LoopKeeps.refl _⟩)
  | ok items =>
    simp only [Except.mapError]
    obtain ⟨hok, herror⟩ := @ingest_keeps _ host source w items
    cases hloop : ingest host source items w with
    | ok created v =>
      exact Or.inl ⟨_, _, v.store, items.length, created.length, rfl, hok created v hloop, rfl⟩
    | error e v =>
      right
      by_cases he : e = .integrityError
      · exact Or.inl ⟨v, he ▸ rfl⟩
      · exact Or.inr ⟨e, v, rfl, he, (herror e v hloop).resolve_left he⟩

/-- A fetch commits with its outcome or changes nothing. -/
theorem fetch_cases (host : SourceHost) (now : Time) (i : Id)
    (fetch : Except String (List FetchedSourceItem)) (s : SourceStore) :
    (after (fetchSourceById host now i fetch) ⟨s, PUnit.unit⟩).store = s ∨
      FetchCommitted now i s (after (fetchSourceById host now i fetch) ⟨s, PUnit.unit⟩).store := by
  have hrolled : (∃ e v, fetchSourceById host now i fetch ⟨s, PUnit.unit⟩ = .error e v ∧
      v.store = s) → (after (fetchSourceById host now i fetch) ⟨s, PUnit.unit⟩).store = s := by
    rintro ⟨e, v, hrun, hstore⟩
    rw [after, hrun]
    exact hstore
  cases hrow : s.sources[i]? with
  | none =>
    apply Or.inl ∘ hrolled
    simp only [fetchSourceById, Lib.sessionScope_run, Lib.bind_run, Lib.query_run, hrow]
    exact ⟨_, _, rfl, rfl⟩
  | some row =>
    cases hadapter : adapterTypes.contains row.adapterType with
    | false => exact Or.inl (hrolled (fetch_of_unknown hrow hadapter))
    | true =>
      have hsome : s.sources[i]? ≠ none := by
        rw [hrow]
        exact Option.some_ne_none row
      have hcommit : ∀ {outcome : FetchOutcome} {v : SourceWorld},
          (tryCatch (fetchItems host now i (row.source i) fetch) (recordFailure now i) :
            SourceTx FetchOutcome) ⟨s.updateSource i (fetchedRow now), PUnit.unit⟩ =
              .ok outcome v → FetchCommitted now i s v.store →
          (after (fetchSourceById host now i fetch) ⟨s, PUnit.unit⟩).store = s ∨
            FetchCommitted now i s
              (after (fetchSourceById host now i fetch) ⟨s, PUnit.unit⟩).store := by
        intro outcome v hbody hcommitted
        rw [after, fetch_of_returned hrow hadapter hbody]
        split
        · next hvalid =>
          split at hvalid
          · cases hvalid
            exact Or.inr hcommitted
          · cases hvalid
        · next hinvalid =>
          split at hinvalid
          · cases hinvalid
          · cases hinvalid
            exact Or.inl rfl
      rcases fetchItems_cases (row.source i) ⟨s.updateSource i (fetchedRow now), PUnit.unit⟩ with
        ⟨outcome, v, middle, fetched, created, hrun, hkeeps, hstore⟩ | ⟨v, hrun⟩ |
        ⟨e, v, hrun, he, hkeeps⟩
      · apply hcommit (v := v)
        · rw [Lib.tryCatch_run, hrun]
        · exact ⟨hsome, middle, hkeeps, Or.inr ⟨fetched, created, hstore⟩⟩
      · apply Or.inl ∘ hrolled ∘ fetch_of_raised hrow
        rw [Lib.tryCatch_run, hrun]
        rfl
      · apply hcommit
        · rw [Lib.tryCatch_run, hrun]
          exact recordFailure_run he v
        · exact ⟨hsome, v.store, hkeeps, Or.inl ⟨e.message, rfl⟩⟩

end Fetches

section Runs

/-- A source is put on the registry, or one is fetched. -/
inductive SourceAction where
  | register (adapterType : String) (defaultLanguage expectedTimezone : Option String)
  | fetch (now : Time) (i : Id) (fetch : Except String (List FetchedSourceItem))

def step [Casing] (host : SourceHost) (s : SourceStore) : SourceAction → SourceStore
  | .register adapterType defaultLanguage expectedTimezone =>
    { s with sources := s.sources ++ [{ adapterType, defaultLanguage, expectedTimezone }] }
  | .fetch now i fetch => (after (fetchSourceById host now i fetch) ⟨s, PUnit.unit⟩).store

/-- The columns of every source are what its log says, and the items are announced. -/
structure SourceStore.Recorded (s : SourceStore) : Prop where
  rows : ∀ i row, s.sources[i]? = some row → Projects (s.fetches i) row
  others : ∀ i, s.sources[i]? = none → s.fetches i = []
  announced : s.Announced

variable {s middle : SourceStore} {now : Time} {i : Id}

/-- The log of a source after a fetch: the fetch is on it, if it was of this source. -/
theorem fetches_enqueued (key : SourceEventKey) (j : Id) :
    (s.enqueueEvent key).fetches j = s.fetches j ++ (key.fetchOf j).toList := by
  show (s.events ++ [key]).filterMap _ = _
  rw [List.filterMap_append, List.filterMap_cons, List.filterMap_nil]
  cases key.fetchOf j <;> rfl

/-- What every outcome of a fetch leaves: its columns follow the longer log. -/
theorem recorded_ended (h : s.Recorded)
    (hkeeps : LoopKeeps (s.updateSource i (fetchedRow now)) middle)
    (hsome : s.sources[i]? ≠ none) {f : SourceDefinition → SourceDefinition}
    {key : SourceEventKey} {entry : LoggedFetch} (hitem : key.item? = none)
    (hkey : ∀ j, key.fetchOf j = if i = j then some entry else none)
    (hf : ∀ log row, Projects log row → Projects (log ++ [entry]) (f row)) :
    ((middle.updateSource i f).enqueueEvent key).Recorded := by
  have hlog : ∀ j, ((middle.updateSource i f).enqueueEvent key).fetches j =
      s.fetches j ++ (if i = j then some entry else none).toList := by
    intro j
    rw [fetches_enqueued, hkey]
    exact congrArg (· ++ _) (hkeeps.fetches j)
  have hsources : ((middle.updateSource i f).enqueueEvent key).sources =
      s.sources.modify i (f ∘ fetchedRow now) := by
    show middle.sources.modify i f = _
    rw [hkeeps.sources]
    exact List.modify_modify_eq _ _ _ _
  refine ⟨?_, ?_, ?_⟩
  · intro j row hrow
    rw [hsources, List.getElem?_modify] at hrow
    rw [hlog]
    by_cases hij : i = j
    · subst hij
      rw [if_pos rfl]
      obtain ⟨old, hold, rfl⟩ := Option.map_eq_some_iff.mp (by simpa using hrow)
      exact hf _ _ (projects_fetched (h.rows i old hold))
    · rw [if_neg hij, Option.toList_none, List.append_nil]
      exact h.rows j row (by simpa [hij] using hrow)
  · intro j hnone
    rw [hsources, List.getElem?_modify] at hnone
    have hold : s.sources[j]? = none := by simpa using hnone
    have hij : i ≠ j := fun heq => hsome (heq ▸ hold)
    rw [hlog, if_neg hij, Option.toList_none, List.append_nil]
    exact h.others j hold
  · show (middle.events ++ [key]).filterMap _ = List.range middle.rawItems.length
    have hannounced : middle.Announced := hkeeps.announced h.announced
    rw [List.filterMap_append, List.filterMap_cons_none hitem, List.filterMap_nil, hannounced]
    exact List.append_nil _

variable [Casing] {host : SourceHost}

theorem step_recorded (h : s.Recorded) (action : SourceAction) : (step host s action).Recorded := by
  cases action with
  | register adapterType defaultLanguage expectedTimezone =>
    refine ⟨?_, ?_, h.announced⟩
    · intro i row hrow
      rcases Lib.Table.get_concat hrow with hold | ⟨hi, rfl⟩
      · exact h.rows i row hold
      · have hempty : s.fetches i = [] := by
          apply h.others i
          rw [hi]
          exact List.getElem?_eq_none (le_refl _)
        show Projects (s.fetches i) _
        rw [hempty]
        exact ⟨rfl, rfl, rfl, rfl, rfl⟩
    · intro i hnone
      apply h.others i
      cases hrow : s.sources[i]? with
      | none => rfl
      | some row =>
        have hgrown : s.sources <+: (step host s
            (.register adapterType defaultLanguage expectedTimezone)).sources :=
          List.prefix_append _ _
        rw [Lib.Table.get_of_prefix hgrown i row hrow] at hnone
        cases hnone
  | fetch now i fetch =>
    show (after (fetchSourceById host now i fetch) ⟨s, PUnit.unit⟩).store.Recorded
    rcases fetch_cases host now i fetch s with hsame | ⟨hsome, middle, hkeeps, hend⟩
    · rw [hsame]
      exact h
    · rcases hend with ⟨error, hstore⟩ | ⟨fetched, created, hstore⟩
      · rw [hstore]
        exact recorded_ended h hkeeps hsome rfl (fun _ => rfl)
          fun _ _ hrow => projects_failed hrow error
      · rw [hstore]
        exact recorded_ended h hkeeps hsome rfl (fun _ => rfl)
          fun _ _ _ => projects_succeeded fetched created

/-- After any run of the registry the columns of every source are what its log says, and every
stored item has been announced, once and in order. -/
theorem registry_recorded (host : SourceHost) (actions : List SourceAction) :
    (run (step host) {} actions).Recorded := by
  apply Lib.run_always_keeps (I := SourceStore.Recorded)
  · intro s action h
    exact step_recorded h action
  · exact ⟨nofun, fun _ _ => rfl, rfl⟩

/-- After any run the ingestion events are those of the stored items, one for each, whatever
fetches failed or were rolled back. -/
theorem items_announced_once (host : SourceHost) (actions : List SourceAction) :
    (run (step host) {} actions).events.filterMap SourceEventKey.item? =
      List.range (run (step host) {} actions).rawItems.length :=
  (registry_recorded host actions).announced

/-- After any run the health report of a source is what its log says: its status by the last
fetch that was committed and the time since then, and its failures by those at the end. -/
theorem health_reads_log (host : SourceHost) (actions : List SourceAction) (i : Id)
    (settings : HealthSettings) (now : Time) :
    ∀ row ∈ (run (step host) {} actions).sources[i]?,
      (sourceHealthFromDefinition settings row now).freshnessStatus =
          logStatus settings now ((run (step host) {} actions).fetches i) ∧
        (sourceHealthFromDefinition settings row now).consecutiveFailures =
          trailingFailures ((run (step host) {} actions).fetches i) := by
  intro row hrow
  have hprojects := (registry_recorded host actions).rows i row hrow
  exact ⟨status_of_projects hprojects settings now, hprojects.failures⟩

end Runs

/-- A source that is fetched once and fails twice. -/
def troubledRun : List SourceAction :=
  [.register "ics" none none, .fetch 5 0 (.ok [talk "1" "/1"]), .fetch 6 0 (.error "timeout"),
    .fetch 7 0 (.error "timeout")]

theorem troubled_source_degraded :
    ∃ row, (run (step siteHost) {} troubledRun).sources[0]? = some row ∧
      (sourceHealthFromDefinition {} row 10).freshnessStatus = .degraded ∧
      (sourceHealthFromDefinition {} row 10).consecutiveFailures = 2 := by
  have hfound : ((run (step siteHost) {} troubledRun).sources[0]?).isSome = true := by
    decide +kernel
  obtain ⟨row, hrow⟩ := Option.isSome_iff_exists.mp hfound
  obtain ⟨hstatus, hfailures⟩ := health_reads_log siteHost troubledRun 0 {} 10 row hrow
  refine ⟨row, hrow, hstatus.trans ?_, hfailures.trans ?_⟩
  · decide +kernel
  · decide +kernel

end GhostRecon.SourceRegistry
