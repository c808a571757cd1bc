import GhostRecon.Incidents.Candidates
import GhostRecon.Incidents.Decisions
import GhostRecon.Lib.Waiting
import Mathlib.Data.Prod.Lex
import Mathlib.Order.WithBot

/-!
Monitoring the watch list. A company target is due when its time has come; a pass takes the
first hundred due targets, searches the news for each and gives it a later time. Creating a
company target and enabling it again make it due at once, disabling it takes its time away.
The results are about every run of these operations: what the list says of itself, how far
apart two passes over one target are, and how many passes a due target can be made to wait.
-/

namespace GhostRecon.Monitoring

open Lib (Id Table run Admissible)
open Incidents (IncidentTools WatchTarget AuditEvent IncidentEventKey slug strip)

inductive TargetType where
  | company | domain | incident | eventSeries | topic
  deriving DecidableEq, Repr

def TargetType.value : TargetType → String
  | .company => "company"
  | .domain => "domain"
  | .incident => "incident"
  | .eventSeries => "event_series"
  | .topic => "topic"

/-- The values of the `monitoring_status` column. -/
inductive MonitoringStatus where
  | notRun | queued | notRequired | paused | completed | notConfigured | failed
  deriving DecidableEq, Repr

structure SearchResult where
  title : String
  url : String
  snippet : Option String := none
  rank : Option Nat := none
  source : Option String := none
  publishedAt : Option String := none
  deriving DecidableEq, Repr

structure MonitoringSummary where
  provider : String
  resultCount : Nat
  queries : List (String × List SearchResult)
  topResults : List SearchResult
  deriving DecidableEq, Repr

/-- A row of the watch list; `{}` as the summary is `none`. -/
structure MonitoredTarget extends WatchTarget where
  /-- The place of the row's UUID in the order of the UUIDs. -/
  uuid : Nat
  queryConfig : Json := .obj []
  enabled : Bool := true
  monitoringStatus : MonitoringStatus := .notRun
  lastMonitoredAt : Option Time := none
  nextMonitoringAt : Option Time := none
  monitoringError : Option String := none
  monitoringSummary : Option MonitoringSummary := none
  version : Nat := 1

/-- `WatchTargetMonitoringRun`. -/
structure MonitoringRun where
  watchTargetId : Id
  provider : String
  status : MonitoringStatus
  queries : List String
  resultSummary : Option MonitoringSummary
  error : Option String
  startedAt : Time
  completedAt : Time

structure WatchStore where
  targets : Table MonitoredTarget := []
  monitoringRuns : Table MonitoringRun := []
  auditEvents : Table AuditEvent := []
  outbox : Table IncidentEventKey := []

/-- The unique constraints and the widths of the columns. -/
def WatchStore.constraintsOk (s : WatchStore) : Bool :=
  s.targets.uniqueOn (fun row => some (row.targetType, row.canonicalTargetKey)) &&
    s.auditEvents.uniqueOn (fun row => some row.idempotencyKey) && s.outbox.uniqueOn some &&
    s.targets.all (fun row => row.toWatchTarget.fits) && s.auditEvents.all AuditEvent.fits

/-- A transaction that ends in this store commits if the store is allowed. -/
def WatchStore.commit {α : Type} (s : WatchStore) (result : α) :
    Except PyError (α × WatchStore) :=
  if s.constraintsOk then .ok (result, s) else .error .integrityError

/-- `_watch_target_key`. -/
def watchTargetKey [Casing] (tools : IncidentTools) (targetType : TargetType) (key : String) :
    Except String String :=
  let text := lower (strip tools key)
  if targetType = .domain then do
    let host ← Incidents.hostname tools (some ("https://" ++ text))
    return host.getD text
  else .ok (slug text)

/-- A company has the key that promotion gives it. -/
theorem watchTargetKey_company [Casing] (tools : IncidentTools) (company : String) :
    watchTargetKey tools .company company = .ok (Incidents.watchTargetKey tools company) :=
  rfl

structure WatchTargetCreate where
  targetType : TargetType
  canonicalTargetKey : String
  displayName : String
  queryConfig : Json := .obj []
  owner : Option String := none
  originIncidentId : Option Id := none

/-- The row `create_watch_target` inserts: only a company is monitored. -/
def newTarget (now : Time) (uuid : Nat) (payload : WatchTargetCreate) (key actor : String) :
    MonitoredTarget where
  targetType := payload.targetType.value
  canonicalTargetKey := key
  displayName := payload.displayName
  owner := payload.owner
  originIncidentId := payload.originIncidentId
  createdBy := actor
  uuid
  queryConfig := payload.queryConfig
  monitoringStatus := if payload.targetType = .company then .queued else .notRequired
  nextMonitoringAt := if payload.targetType = .company then some now else none

/-- `create_watch_target`: the target of this key, or a new one. -/
def createWatchTarget [Casing] (tools : IncidentTools) (now : Time) (uuid : Nat)
    (payload : WatchTargetCreate) (actor idempotencyKey : String) (s : WatchStore) :
    Except PyError (Id × WatchStore) := do
  let key ← (watchTargetKey tools payload.targetType payload.canonicalTargetKey).mapError
    .valueError
  match s.targets.first? fun row =>
      row.targetType == payload.targetType.value && row.canonicalTargetKey == key with
  | some (i, _) => return (i, s)
  | none =>
    WatchStore.commit
      { s with
        targets := s.targets ++ [newTarget now uuid payload key actor]
        auditEvents := s.auditEvents ++ [{
          actor
          action := "watch_target.created"
          entityType := "watch_target"
          entityId := s.targets.length
          idempotencyKey }]
        outbox := s.outbox ++ [.watchTargetCreated s.targets.length] }
      s.targets.length

structure WatchTargetPatch where
  enabled : Option Bool := none
  displayName : Option String := none
  queryConfig : Option Json := none
  owner : Option String := none
  version : Nat

/-- What a switch does to the monitoring columns. -/
def MonitoredTarget.switch (now : Time) (row : MonitoredTarget) : Option Bool → MonitoredTarget
  | none => row
  | some true =>
    if row.targetType = TargetType.company.value then
      { row with
        enabled := true
        monitoringStatus := .queued
        monitoringError := none
        nextMonitoringAt := some now }
    else { row with enabled := true }
  | some false =>
    { row with enabled := false, monitoringStatus := .paused, nextMonitoringAt := none }

def WatchTargetPatch.apply (payload : WatchTargetPatch) (now : Time) (row : MonitoredTarget) :
    MonitoredTarget :=
  { row.switch now payload.enabled with
    displayName := payload.displayName.getD row.displayName
    queryConfig := payload.queryConfig.getD row.queryConfig
    owner := payload.owner <|> row.owner
    version := row.version + 1 }

/-- `patch_watch_target`. -/
def patchWatchTarget (now : Time) (i : Id) (payload : WatchTargetPatch)
    (actor idempotencyKey : String) (s : WatchStore) :
    Except PyError (Option Id × WatchStore) :=
  match s.targets[i]? with
  | none => .ok (none, s)
  | some row =>
    if row.version ≠ payload.version then
      .error (.valueError "watch target version conflict")
    else
      WatchStore.commit
        { s with
          targets := s.targets.modify i (payload.apply now)
          auditEvents := s.auditEvents ++ [{
            actor
            action := "watch_target.updated"
            entityType := "watch_target"
            entityId := i
            idempotencyKey }] }
        (some i)

/-- An enabled company. -/
def MonitoredTarget.monitored (row : MonitoredTarget) : Bool :=
  row.targetType = TargetType.company.value && row.enabled

def MonitoredTarget.due (now : Time) (row : MonitoredTarget) : Bool :=
  row.monitored && row.nextMonitoringAt.all (· ≤ now)

/-- The place in the order of the due targets: by time, none first, then by UUID. -/
def MonitoredTarget.place (row : MonitoredTarget) : Lex (WithBot Time × Nat) :=
  toLex (row.nextMonitoringAt, row.uuid)

/-- `list_due_monitoring_targets`. -/
def dueMonitoringTargets (now : Time) (s : WatchStore) : List Id :=
  (Lib.batch (fun found : Id × MonitoredTarget => found.2.place) 100
    (s.targets.select (MonitoredTarget.due now))).map Prod.fst

inductive NewsProvider where
  | disabled | localDemo | serpapi
  deriving DecidableEq, Repr

def NewsProvider.name : NewsProvider → String
  | .disabled => "disabled"
  | .localDemo => "local_demo"
  | .serpapi => "serpapi"

def watchMonitoringQueries (companyName : String) : List String :=
  let quoted := "\"" ++ companyName ++ "\""
  [quoted ++ " (\"board of directors\" OR \"board member\" OR director) change",
    quoted ++ " (\"new CISO\" OR \"appointed CISO\" OR \"Chief Information Security Officer\")",
    quoted ++ " (\"new CTO\" OR \"appointed CTO\" OR \"Chief Technology Officer\")",
    quoted ++ " (\"new CIO\" OR \"appointed CIO\" OR \"Chief Information Officer\")",
    quoted ++ " (\"Head of Cybersecurity\" OR \"head of cyber security\") appointed",
    quoted ++ " (cyberattack OR \"cyber attack\" OR ransomware OR \"data breach\")"]

/-- One pass of the monitor: its settings, its clock and the answers it gets. -/
structure Pass where
  provider : NewsProvider
  searchResultLimit : Nat
  /-- `watch_monitoring_interval_seconds`. -/
  interval : Nat
  now : Time
  startedAt : Id → Time
  /-- The clock when a target is done, or its failure is recorded. -/
  completedAt : Id → Time
  answers : Id → String → Nat → Except String (List SearchResult)

/-- `search_news`; the disabled provider finds nothing. -/
def Pass.searchNews (pass : Pass) (i : Id) (query : String) :
    Except String (List SearchResult) :=
  if pass.provider = .disabled then .ok [] else pass.answers i query pass.searchResultLimit

/-- What is found for a target. -/
def Pass.summary (pass : Pass) (i : Id) (row : MonitoredTarget) :
    Except String MonitoringSummary := do
  let found ← (watchMonitoringQueries row.displayName).mapM fun query => do
    return (query, ← pass.searchNews i query)
  return {
    provider := pass.provider.name
    resultCount := (found.map (·.2.length)).sum
    queries := found
    topResults := (found.flatMap fun entry => entry.2.take 2).take 5 }

def Pass.status (pass : Pass) : MonitoringStatus :=
  if pass.provider = .disabled then .notConfigured else .completed

/-- `error[:1000]`. -/
def clipped (error : String) : String :=
  String.ofList (error.toList.take 1000)

/-- The row that `monitor_watch_target` or `record_monitoring_failure` inserts. -/
def Pass.record (pass : Pass) (i : Id) (row : MonitoredTarget) : MonitoringRun :=
  match pass.summary i row with
  | .ok summary =>
    { watchTargetId := i
      provider := pass.provider.name
      status := pass.status
      queries := watchMonitoringQueries row.displayName
      resultSummary := some summary
      error := none
      startedAt := pass.startedAt i
      completedAt := pass.completedAt i }
  | .error error =>
    { watchTargetId := i
      provider := pass.provider.name
      status := .failed
      queries := watchMonitoringQueries row.displayName
      resultSummary := none
      error := some (clipped error)
      startedAt := pass.completedAt i
      completedAt := pass.completedAt i }

/-- The columns the two write. -/
def Pass.update (pass : Pass) (i : Id) (row : MonitoredTarget) : MonitoredTarget :=
  match pass.summary i row with
  | .ok summary =>
    { row with
      monitoringStatus := pass.status
      lastMonitoredAt := some (pass.completedAt i)
      nextMonitoringAt := some (pass.completedAt i + pass.interval)
      monitoringError := none
      monitoringSummary := some summary
      version := row.version + 1 }
  | .error error =>
    { row with
      monitoringStatus := .failed
      lastMonitoredAt := some (pass.completedAt i)
      nextMonitoringAt := some (pass.completedAt i + 3600)
      monitoringError := some (clipped error)
      monitoringSummary := none
      version := row.version + 1 }

/-- One target of a pass; an exception is recorded and the pass goes on. -/
def monitorOne (pass : Pass) (s : WatchStore) (i : Id) : WatchStore :=
  match s.targets[i]? with
  | none => s
  | some row =>
    { s with
      targets := s.targets.modify i (pass.update i)
      monitoringRuns := s.monitoringRuns ++ [pass.record i row] }

/-- `monitor_watch_targets`. -/
def monitorWatchTargets (pass : Pass) (s : WatchStore) : WatchStore :=
  (dueMonitoringTargets pass.now s).foldl (monitorOne pass) s

inductive WatchAction where
  | create (payload : WatchTargetCreate) (actor idempotencyKey : String) (uuid : Nat)
      (now : Time)
  | patch (i : Id) (payload : WatchTargetPatch) (actor idempotencyKey : String) (now : Time)
  | monitor (pass : Pass)

/-- When an action reads the clock first. -/
def WatchAction.now : WatchAction → Time
  | .create _ _ _ _ now => now
  | .patch _ _ _ _ now => now
  | .monitor pass => pass.now

/-- The store after a transaction, which an exception leaves as it was. -/
def stored {α : Type} (s : WatchStore) : Except PyError (α × WatchStore) → WatchStore
  | .ok (_, s') => s'
  | .error _ => s

/-- One operation in a transaction of its own. -/
def step [Casing] (tools : IncidentTools) (s : WatchStore) : WatchAction → WatchStore
  | .create payload actor key uuid now =>
    stored s (createWatchTarget tools now uuid payload actor key s)
  | .patch i payload actor key now => stored s (patchWatchTarget now i payload actor key s)
  | .monitor pass => monitorWatchTargets pass s

section Passes

variable {pass : Pass} {s : WatchStore} {i : Id} {row : MonitoredTarget}

theorem mem_dueMonitoringTargets {now : Time} (h : i ∈ dueMonitoringTargets now s) :
    ∃ row, s.targets[i]? = some row ∧ row.due now = true := by
  obtain ⟨⟨i, row⟩, hbatch, rfl⟩ := List.mem_map.mp h
  exact ⟨row, Lib.Table.mem_select.mp (Lib.mem_of_mem_batch hbatch)⟩

theorem dueMonitoringTargets_nodup (now : Time) (s : WatchStore) :
    (dueMonitoringTargets now s).Nodup :=
  Lib.batch_map_nodup (Lib.Table.select_nodup s.targets _)

theorem monitorOne_of_row (hrow : s.targets[i]? = some row) :
    monitorOne pass s i =
      { s with
        targets := s.targets.modify i (pass.update i)
        monitoringRuns := s.monitoringRuns ++ [pass.record i row] } := by
  unfold monitorOne
  rw [hrow]

theorem monitorOne_other {j : Id} (h : i ≠ j) :
    (monitorOne pass s i).targets[j]? = s.targets[j]? := by
  unfold monitorOne
  cases s.targets[i]? with
  | none => rfl
  | some row => exact List.getElem?_modify_ne _ _ h

theorem update_monitored (pass : Pass) (i : Id) (row : MonitoredTarget) :
    (pass.update i row).monitored = row.monitored := by
  unfold Pass.update
  cases pass.summary i row <;> rfl

theorem update_targetType (pass : Pass) (i : Id) (row : MonitoredTarget) :
    (pass.update i row).targetType = row.targetType := by
  unfold Pass.update
  cases pass.summary i row <;> rfl

theorem update_lastMonitoredAt (pass : Pass) (i : Id) (row : MonitoredTarget) :
    (pass.update i row).lastMonitoredAt = some (pass.completedAt i) := by
  unfold Pass.update
  cases pass.summary i row <;> rfl

/-- The next time of a target that a pass is done with. -/
theorem update_nextMonitoringAt (pass : Pass) (i : Id) (row : MonitoredTarget) :
    ∃ pause, (pass.update i row).nextMonitoringAt = some (pass.completedAt i + pause) ∧
      min pass.interval 3600 ≤ pause := by
  unfold Pass.update
  cases pass.summary i row with
  | ok summary => exact ⟨pass.interval, rfl, Nat.min_le_left _ _⟩
  | error error => exact ⟨3600, rfl, Nat.min_le_right _ _⟩

theorem record_watchTargetId (pass : Pass) (i : Id) (row : MonitoredTarget) :
    (pass.record i row).watchTargetId = i := by
  unfold Pass.record
  cases pass.summary i row <;> rfl

theorem record_completedAt (pass : Pass) (i : Id) (row : MonitoredTarget) :
    (pass.record i row).completedAt = pass.completedAt i := by
  unfold Pass.record
  cases pass.summary i row <;> rfl

/-- What holds for one due target after the other holds for the pass. -/
theorem foldl_monitorOne {I : WatchStore → Prop} {ids : List Id} (hnodup : ids.Nodup)
    (hdue : ∀ i ∈ ids, ∃ row, s.targets[i]? = some row ∧ row.due pass.now = true)
    (hstep : ∀ s i row, s.targets[i]? = some row → row.due pass.now = true → I s →
      I (monitorOne pass s i)) (hs : I s) : I (ids.foldl (monitorOne pass) s) := by
  induction ids generalizing s with
  | nil => exact hs
  | cons i rest ih =>
    obtain ⟨hi, hrest⟩ := List.nodup_cons.mp hnodup
    obtain ⟨row, hrow, hrowDue⟩ := hdue i List.mem_cons_self
    apply ih hrest
    · intro j hj
      obtain ⟨other, hother, hotherDue⟩ := hdue j (List.mem_cons_of_mem i hj)
      have hne : i ≠ j := fun heq => hi (heq ▸ hj)
      exact ⟨other, by rw [monitorOne_other hne]; exact hother, hotherDue⟩
    · exact hstep s i row hrow hrowDue hs

theorem monitor_keeps {I : WatchStore → Prop}
    (hstep : ∀ s i row, s.targets[i]? = some row → row.due pass.now = true → I s →
      I (monitorOne pass s i)) (hs : I s) : I (monitorWatchTargets pass s) :=
  foldl_monitorOne (dueMonitoringTargets_nodup pass.now s)
    (fun _ hi => mem_dueMonitoringTargets hi) hstep hs

end Passes

section Soundness

/-- What the switches and the passes keep of a row. -/
structure MonitoredTarget.Scheduled (row : MonitoredTarget) : Prop where
  timed : row.monitored = true → row.nextMonitoringAt.isSome = true
  paused : row.enabled = false →
    row.nextMonitoringAt = none ∧ row.monitoringStatus = .paused
  unmonitored : row.targetType ≠ TargetType.company.value →
    row.nextMonitoringAt = none ∧ row.lastMonitoredAt = none

theorem value_injective : Function.Injective TargetType.value := by
  intro a b
  cases a <;> cases b <;> decide

theorem newTarget_scheduled (now : Time) (uuid : Nat) (payload : WatchTargetCreate)
    (key actor : String) : (newTarget now uuid payload key actor).Scheduled where
  timed := by
    intro hmonitored
    have hcompany : payload.targetType.value = TargetType.company.value := by
      exact of_decide_eq_true (Bool.and_eq_true_iff.mp hmonitored).1
    simp [newTarget, value_injective hcompany]
  paused := by
    intro hdisabled
    cases hdisabled
  unmonitored := by
    intro hother
    have htype : payload.targetType ≠ .company := fun heq => hother (congrArg TargetType.value heq)
    simp [newTarget, htype]

theorem switch_scheduled (now : Time) {row : MonitoredTarget} (h : row.Scheduled)
    (switch : Option Bool) : (row.switch now switch).Scheduled := by
  match switch with
  | none => exact h
  | some false =>
    refine ⟨?_, fun _ => ⟨rfl, rfl⟩, ?_⟩
    · intro hmonitored
      simp [MonitoredTarget.switch, MonitoredTarget.monitored] at hmonitored
    · intro hother
      exact ⟨rfl, (h.unmonitored hother).2⟩
  | some true =>
    by_cases hcompany : row.targetType = TargetType.company.value
    · rw [MonitoredTarget.switch, if_pos hcompany]
      refine ⟨fun _ => rfl, fun hdisabled => ?_, fun hother => absurd hcompany hother⟩
      cases hdisabled
    · rw [MonitoredTarget.switch, if_neg hcompany]
      refine ⟨?_, ?_, fun _ => h.unmonitored hcompany⟩
      · intro hmonitored
        simp [MonitoredTarget.monitored, hcompany] at hmonitored
      · intro hdisabled
        cases hdisabled

theorem apply_scheduled {now : Time} {row : MonitoredTarget} (h : row.Scheduled)
    (payload : WatchTargetPatch) : (payload.apply now row).Scheduled := by
  have hswitched := switch_scheduled now h payload.enabled
  exact ⟨hswitched.timed, hswitched.paused, hswitched.unmonitored⟩

theorem update_scheduled {pass : Pass} {i : Id} {row : MonitoredTarget}
    (hdue : row.due pass.now = true) : (pass.update i row).Scheduled := by
  have hmonitored : (pass.update i row).monitored = true := by
    rw [update_monitored]
    exact (Bool.and_eq_true_iff.mp hdue).1
  obtain ⟨hcompany, henabled⟩ := Bool.and_eq_true_iff.mp hmonitored
  obtain ⟨pause, hnext, -⟩ := update_nextMonitoringAt pass i row
  refine ⟨fun _ => by rw [hnext]; rfl, fun hdisabled => ?_, fun hother => ?_⟩
  · rw [henabled] at hdisabled
    cases hdisabled
  · exact absurd (of_decide_eq_true hcompany) hother

/-- The monitoring runs of a target. -/
def runsOf (s : WatchStore) (i : Id) : List MonitoringRun :=
  s.monitoringRuns.filter (·.watchTargetId = i)

/-- The watch list says of itself what has happened. -/
structure WatchStore.Sound (s : WatchStore) : Prop where
  scheduled : ∀ row ∈ s.targets, row.Scheduled
  /-- Only companies have been monitored. -/
  companies : ∀ r ∈ s.monitoringRuns, ∃ row, s.targets[r.watchTargetId]? = some row ∧
    row.targetType = TargetType.company.value
  last : ∀ i row, s.targets[i]? = some row →
    row.lastMonitoredAt = (runsOf s i).getLast?.map (·.completedAt)

variable [Casing] {tools : IncidentTools} {s : WatchStore}

/-- A creation finds its target, fails, or adds one row. -/
theorem create_cases (tools : IncidentTools) (s : WatchStore) (now : Time) (uuid : Nat)
    (payload : WatchTargetCreate) (actor idempotencyKey : String) :
    stored s (createWatchTarget tools now uuid payload actor idempotencyKey s) = s ∨
      ∃ key audits outbox,
        stored s (createWatchTarget tools now uuid payload actor idempotencyKey s) =
          { s with
            targets := s.targets ++ [newTarget now uuid payload key actor]
            auditEvents := audits
            outbox } := by
  unfold createWatchTarget
  cases watchTargetKey tools payload.targetType payload.canonicalTargetKey with
  | error e => exact Or.inl rfl
  | ok key =>
    dsimp only [Except.mapError, bind, Except.bind]
    split
    · exact Or.inl rfl
    · unfold WatchStore.commit
      split
      · exact Or.inr ⟨key, _, _, rfl⟩
      · exact Or.inl rfl

omit [Casing] in
/-- A patch misses its target, fails, or rewrites one row. -/
theorem patch_cases (s : WatchStore) (now : Time) (i : Id) (payload : WatchTargetPatch)
    (actor idempotencyKey : String) :
    stored s (patchWatchTarget now i payload actor idempotencyKey s) = s ∨
      ∃ row audits, s.targets[i]? = some row ∧
        stored s (patchWatchTarget now i payload actor idempotencyKey s) =
          { s with targets := s.targets.modify i (payload.apply now), auditEvents := audits } := by
  unfold patchWatchTarget
  cases hrow : s.targets[i]? with
  | none => exact Or.inl rfl
  | some row =>
    dsimp only
    split
    · exact Or.inl rfl
    · unfold WatchStore.commit
      split
      · exact Or.inr ⟨row, _, rfl, rfl⟩
      · exact Or.inl rfl

omit [Casing] in
theorem switch_kept (now : Time) (row : MonitoredTarget) (switch : Option Bool) :
    (row.switch now switch).targetType = row.targetType ∧
      (row.switch now switch).lastMonitoredAt = row.lastMonitoredAt := by
  match switch with
  | none => exact ⟨rfl, rfl⟩
  | some false => exact ⟨rfl, rfl⟩
  | some true =>
    unfold MonitoredTarget.switch
    dsimp only
    split <;> exact ⟨rfl, rfl⟩

omit [Casing] in
theorem row_of_modify {t : Table MonitoredTarget} {i j : Id}
    {f : MonitoredTarget → MonitoredTarget} {row : MonitoredTarget}
    (h : (t.modify i f)[j]? = some row) :
    (i = j ∧ ∃ old, t[j]? = some old ∧ row = f old) ∨ (i ≠ j ∧ t[j]? = some row) := by
  by_cases hsame : i = j
  · subst hsame
    rw [List.getElem?_modify_eq, Option.map_eq_map, Option.map_eq_some_iff] at h
    obtain ⟨old, hold, hrow⟩ := h
    exact Or.inl ⟨rfl, old, hold, hrow.symm⟩
  · rw [List.getElem?_modify_ne _ _ hsame] at h
    exact Or.inr ⟨hsame, h⟩

omit [Casing] in
/-- A rewrite of a row that keeps its type. -/
theorem companies_modify {i j : Id} {f : MonitoredTarget → MonitoredTarget}
    {t : Table MonitoredTarget} (hf : ∀ row, (f row).targetType = row.targetType)
    (h : ∃ row, t[j]? = some row ∧ row.targetType = TargetType.company.value) :
    ∃ row, (t.modify i f)[j]? = some row ∧ row.targetType = TargetType.company.value := by
  obtain ⟨row, hrow, hcompany⟩ := h
  by_cases hsame : i = j
  · exact ⟨f row, Lib.Table.get_modify hrow (fun _ => rfl) (absurd hsame),
      by rw [hf]; exact hcompany⟩
  · exact ⟨row, Lib.Table.get_modify hrow (fun heq => absurd heq hsame) (fun _ => rfl), hcompany⟩

omit [Casing] in
theorem runsOf_monitorOne (pass : Pass) {i : Id} {row : MonitoredTarget}
    (hrow : s.targets[i]? = some row) (j : Id) :
    runsOf (monitorOne pass s i) j =
      if i = j then runsOf s j ++ [pass.record i row] else runsOf s j := by
  rw [monitorOne_of_row hrow]
  unfold runsOf
  rw [List.filter_append, List.filter_singleton, record_watchTargetId]
  by_cases hsame : i = j
  · rw [decide_eq_true hsame, if_pos hsame]
    rfl
  · rw [decide_eq_false hsame, if_neg hsame]
    exact List.append_nil _

omit [Casing] in
/-- A monitored target and its run. -/
theorem monitorOne_sound {pass : Pass} {i : Id} {row : MonitoredTarget}
    (hrow : s.targets[i]? = some row) (hdue : row.due pass.now = true) (h : s.Sound) :
    (monitorOne pass s i).Sound := by
  have hruns := runsOf_monitorOne pass hrow
  rw [monitorOne_of_row hrow] at hruns ⊢
  refine ⟨?_, ?_, ?_⟩
  · intro other hother
    obtain ⟨j, hj⟩ := List.mem_iff_getElem?.mp hother
    rcases row_of_modify hj with ⟨rfl, old, hold, rfl⟩ | ⟨-, hold⟩
    · obtain rfl : row = old := Option.some.inj (hrow.symm.trans hold)
      exact update_scheduled hdue
    · exact h.scheduled other (List.mem_of_getElem? hold)
  · intro r hr
    apply companies_modify (update_targetType pass i)
    rcases List.mem_append.mp hr with hr | hr
    · exact h.companies r hr
    · obtain rfl := List.mem_singleton.mp hr
      rw [record_watchTargetId]
      exact ⟨row, hrow,
        of_decide_eq_true (Bool.and_eq_true_iff.mp (Bool.and_eq_true_iff.mp hdue).1).1⟩
  · intro j other hother
    rw [hruns j]
    rcases row_of_modify hother with ⟨rfl, old, hold, rfl⟩ | ⟨hne, hold⟩
    · rw [update_lastMonitoredAt, if_pos rfl, List.getLast?_append, List.getLast?_singleton,
        Option.some_or, Option.map_some, record_completedAt]
    · rw [if_neg hne]
      exact h.last j other hold

theorem step_sound (tools : IncidentTools) (h : s.Sound) (action : WatchAction) :
    (step tools s action).Sound := by
  match action with
  | .create payload actor key uuid now =>
    rcases create_cases tools s now uuid payload actor key with
      hsame | ⟨slot, audits, outbox, hnew⟩
    · rw [step, hsame]
      exact h
    · rw [step, hnew]
      refine ⟨?_, ?_, ?_⟩
      · intro row hrow
        rcases List.mem_append.mp hrow with hrow | hrow
        · exact h.scheduled row hrow
        · obtain rfl := List.mem_singleton.mp hrow
          exact newTarget_scheduled now uuid payload slot actor
      · intro r hr
        obtain ⟨row, hrow, hcompany⟩ := h.companies r hr
        exact ⟨row, Lib.Table.get_of_prefix (List.prefix_append _ _) _ row hrow, hcompany⟩
      · intro i row hrow
        rcases Lib.Table.get_concat hrow with hold | ⟨rfl, rfl⟩
        · exact h.last i row hold
        · have hnone : s.monitoringRuns.filter (·.watchTargetId = s.targets.length) = [] := by
            rw [List.filter_eq_nil_iff]
            intro r hr hid
            obtain ⟨old, hold, -⟩ := h.companies r hr
            rw [of_decide_eq_true hid, List.getElem?_eq_none (Nat.le_refl _)] at hold
            cases hold
          unfold runsOf
          rw [hnone]
          rfl
  | .patch i payload actor key now =>
    rcases patch_cases s now i payload actor key with hsame | ⟨row, audits, hrow, hnew⟩
    · rw [step, hsame]
      exact h
    · rw [step, hnew]
      have hkept := fun row => switch_kept now row payload.enabled
      refine ⟨?_, ?_, ?_⟩
      · intro other hother
        obtain ⟨j, hj⟩ := List.mem_iff_getElem?.mp hother
        rcases row_of_modify hj with ⟨rfl, old, hold, rfl⟩ | ⟨-, hold⟩
        · exact apply_scheduled (h.scheduled old (List.mem_of_getElem? hold)) payload
        · exact h.scheduled other (List.mem_of_getElem? hold)
      · intro r hr
        exact companies_modify (fun row => (hkept row).1) (h.companies r hr)
      · intro j other hother
        rcases row_of_modify hother with ⟨rfl, old, hold, rfl⟩ | ⟨-, hold⟩
        · exact (hkept old).2.trans (h.last i old hold)
        · exact h.last j other hold
  | .monitor pass =>
    exact monitor_keeps (fun s i row hrow hdue hs => monitorOne_sound hrow hdue hs) h

variable (tools)

/-- After any run of the operations the watch list is sound. -/
theorem watch_list_sound (actions : List WatchAction) :
    (run (step tools) {} actions).Sound := by
  apply Lib.run_always_keeps (I := WatchStore.Sound)
  · intro s action h
    exact step_sound tools h action
  · refine ⟨?_, ?_, ?_⟩
    · intro row hrow
      cases hrow
    · intro r hr
      cases hr
    · intro i row hrow
      cases hrow

end Soundness

section Spacing

variable [Casing] {tools : IncidentTools} {s : WatchStore} {i : Id}

/-- The action does not enable the target, and a pass keeps the shortest interval and
finishes after it starts. -/
def Undisturbed (i : Id) (_ : WatchStore) : WatchAction → Prop
  | .create _ _ _ _ _ => True
  | .patch j payload _ _ _ => j = i → payload.enabled ≠ some true
  | .monitor pass => 300 ≤ pass.interval ∧ ∀ j, pass.now ≤ pass.completedAt j

/-- The runs of a target are apart, and its next time is as far from each of them. -/
structure Apart (i : Id) (s : WatchStore) : Prop where
  sound : s.Sound
  runs : (runsOf s i).Pairwise fun r r' => r.completedAt + 300 ≤ r'.completedAt
  next : ∀ r ∈ runsOf s i, ∀ row, s.targets[i]? = some row → ∀ t,
    row.nextMonitoringAt = some t → r.completedAt + 300 ≤ t

omit [Casing] in
theorem monitorOne_apart {pass : Pass} (hinterval : 300 ≤ pass.interval)
    (hclock : ∀ j, pass.now ≤ pass.completedAt j) {j : Id} {row : MonitoredTarget}
    (hrow : s.targets[j]? = some row) (hdue : row.due pass.now = true) (h : Apart i s) :
    Apart i (monitorOne pass s j) := by
  have hsound := monitorOne_sound hrow hdue h.sound
  by_cases hsame : j = i
  · subst hsame
    obtain ⟨hmonitored, htime⟩ := Bool.and_eq_true_iff.mp hdue
    obtain ⟨t, ht⟩ := Option.isSome_iff_exists.mp
      ((h.sound.scheduled row (List.mem_of_getElem? hrow)).timed hmonitored)
    rw [ht, Option.all_some, decide_eq_true_eq] at htime
    have hbefore : ∀ r ∈ runsOf s j, r.completedAt + 300 ≤ pass.completedAt j := by
      intro r hr
      calc r.completedAt + 300 ≤ t := h.next r hr row hrow t ht
        _ ≤ pass.now := htime
        _ ≤ pass.completedAt j := hclock j
    refine ⟨hsound, ?_, ?_⟩
    · rw [runsOf_monitorOne pass hrow, if_pos rfl, List.pairwise_append]
      refine ⟨h.runs, List.pairwise_singleton _ _, ?_⟩
      intro r hr r' hr'
      obtain rfl := List.mem_singleton.mp hr'
      rw [record_completedAt]
      exact hbefore r hr
    · intro r hr new hnew next hnext
      rw [runsOf_monitorOne pass hrow, if_pos rfl] at hr
      have hnow : r.completedAt ≤ pass.completedAt j := by
        rcases List.mem_append.mp hr with hr | hr
        · exact le_trans (Nat.le_add_right _ 300) (hbefore r hr)
        · obtain rfl := List.mem_singleton.mp hr
          rw [record_completedAt]
      rw [monitorOne_of_row hrow, List.getElem?_modify_eq, hrow] at hnew
      obtain rfl := Option.some.inj hnew
      obtain ⟨pause, hpause, hlong⟩ := update_nextMonitoringAt pass j row
      obtain rfl := Option.some.inj (hpause.symm.trans hnext)
      exact Nat.add_le_add hnow (le_trans (le_min hinterval (by norm_num)) hlong)
  · refine ⟨hsound, ?_, ?_⟩
    · rw [runsOf_monitorOne pass hrow, if_neg hsame]
      exact h.runs
    · rw [runsOf_monitorOne pass hrow, if_neg hsame, monitorOne_other hsame]
      exact h.next

theorem step_apart (h : Apart i s) {action : WatchAction} (hok : Undisturbed i s action) :
    Apart i (step tools s action) := by
  have hsound := step_sound tools h.sound action
  match action with
  | .create payload actor key uuid now =>
    rcases create_cases tools s now uuid payload actor key with
      hsame | ⟨slot, audits, outbox, hnew⟩
    · rw [step, hsame]
      exact h
    · rw [step, hnew] at hsound ⊢
      refine ⟨hsound, h.runs, ?_⟩
      intro r hr row hrow
      rcases Lib.Table.get_concat hrow with hold | ⟨rfl, rfl⟩
      · exact h.next r hr row hold
      · obtain ⟨hmem, hid⟩ := List.mem_filter.mp hr
        obtain ⟨old, hold, -⟩ := h.sound.companies r hmem
        rw [of_decide_eq_true hid, List.getElem?_eq_none (Nat.le_refl _)] at hold
        cases hold
  | .patch j payload actor key now =>
    rcases patch_cases s now j payload actor key with hsame | ⟨row, audits, hrow, hnew⟩
    · rw [step, hsame]
      exact h
    · rw [step, hnew] at hsound ⊢
      refine ⟨hsound, h.runs, ?_⟩
      intro r hr other hother t ht
      rcases row_of_modify hother with ⟨rfl, old, hold, rfl⟩ | ⟨-, hold⟩
      · have hkept : (old.switch now payload.enabled).nextMonitoringAt = some t := ht
        match hswitch : payload.enabled with
        | none =>
          rw [hswitch] at hkept
          exact h.next r hr old hold t hkept
        | some false =>
          rw [hswitch] at hkept
          cases hkept
        | some true => exact absurd hswitch (hok rfl)
      · exact h.next r hr other hold t ht
  | .monitor pass =>
    exact monitor_keeps (fun s j row hrow hdue => monitorOne_apart hok.1 hok.2 hrow hdue) h

/-- In every run that does not enable a target by hand, two of its monitoring runs are at
least five minutes apart, however many passes there are. -/
theorem monitoring_runs_apart {actions : List WatchAction} {i : Id}
    (hrun : Admissible (step tools) (Undisturbed i) {} actions) :
    (runsOf (run (step tools) {} actions) i).Pairwise fun r r' =>
      r.completedAt + 300 ≤ r'.completedAt := by
  have hapart : Apart i (run (step tools) {} actions) := by
    refine Lib.run_keeps (I := Apart i) (fun s action hok h => step_apart h hok) hrun ?_
    refine ⟨watch_list_sound tools [], List.Pairwise.nil, ?_⟩
    intro r hr
    cases hr
  exact hapart.runs

end Spacing

/-- Fortinet is put on the list and two passes come by, the second six minutes after the
first. -/
def sampleRun : List WatchAction :=
  [.create { targetType := .company, canonicalTargetKey := "Fortinet", displayName := "Fortinet" }
      "analyst" "k1" 0 0,
    .monitor {
      provider := .disabled
      searchResultLimit := 5
      interval := 300
      now := 0
      startedAt := fun _ => 0
      completedAt := fun _ => 0
      answers := fun _ _ _ => .ok [] },
    .monitor {
      provider := .disabled
      searchResultLimit := 5
      interval := 300
      now := 360
      startedAt := fun _ => 360
      completedAt := fun _ => 361
      answers := fun _ _ _ => .ok [] }]

theorem fortinet_runs_apart :
    (runsOf (run (step Incidents.sampleTools) {} sampleRun) 0).Pairwise fun r r' =>
      r.completedAt + 300 ≤ r'.completedAt := by
  apply monitoring_runs_apart
  have hlate : (360 : Time) ≤ 361 := by decide
  exact ⟨trivial, ⟨le_refl _, fun _ => le_refl _⟩, ⟨le_refl _, fun _ => hlate⟩, trivial⟩

section Waiting

variable {s : WatchStore} {i : Id} {since : Time}

/-- The action comes no earlier than the given time and does not switch the target, and a
pass finishes after it starts. -/
def LeavesWaiting (i : Id) (since : Time) (_ : WatchStore) (action : WatchAction) : Prop :=
  since ≤ action.now ∧
    match action with
    | .create _ _ _ _ _ => True
    | .patch j payload _ _ _ => j = i → payload.enabled = none
    | .monitor pass => ∀ j, pass.now ≤ pass.completedAt j

def WatchAction.isPass : WatchAction → Bool
  | .monitor _ => true
  | .create _ _ _ _ _ => false
  | .patch _ _ _ _ _ => false

/-- The monitored targets that come before a place, or have it. -/
def aheadOf (place : Lex (WithBot Time × Nat)) (row : MonitoredTarget) : Bool :=
  row.monitored && row.place ≤ place

/-- The target is monitored, and has been due since before the given time. -/
def Waits (i : Id) (since : Time) (place : Lex (WithBot Time × Nat)) (s : WatchStore) : Prop :=
  ∃ row, s.targets[i]? = some row ∧ row.monitored = true ∧
    row.nextMonitoringAt.all (· < since) = true ∧ row.place = place

/-- A target with a later time is not ahead. -/
theorem not_aheadOf_late {row late : MonitoredTarget} {next : Time}
    (hdue : row.nextMonitoringAt.all (· < since) = true)
    (hnext : late.nextMonitoringAt = some next) (hlate : since ≤ next) :
    aheadOf row.place late = false := by
  have hplace : ¬ late.place ≤ row.place := by
    intro hle
    unfold MonitoredTarget.place at hle
    rw [Prod.Lex.toLex_le_toLex, hnext] at hle
    cases htime : row.nextMonitoringAt with
    | none =>
      rw [htime] at hle
      rcases hle with hlt | ⟨heq, -⟩
      · exact absurd hlt (WithBot.not_lt_bot _)
      · cases heq
    | some t =>
      rw [htime] at hle hdue
      have hbefore : t < next := lt_of_lt_of_le (of_decide_eq_true hdue) hlate
      rcases hle with hlt | ⟨heq, -⟩
      · exact absurd (WithBot.coe_lt_coe.mp hlt) (not_lt.mpr hbefore.le)
      · obtain rfl := Option.some.inj heq
        exact absurd hbefore (lt_irrefl _)
  unfold aheadOf
  rw [decide_eq_false hplace, Bool.and_false]

/-- A patch that switches nothing leaves a target where it is. -/
theorem apply_unswitched {payload : WatchTargetPatch} (h : payload.enabled = none) (now : Time)
    (row : MonitoredTarget) :
    (payload.apply now row).monitored = row.monitored ∧
      (payload.apply now row).nextMonitoringAt = row.nextMonitoringAt ∧
      (payload.apply now row).place = row.place := by
  unfold WatchTargetPatch.apply
  rw [h]
  exact ⟨rfl, rfl, rfl⟩

/-- A patch puts no target ahead that was not there. -/
theorem aheadOf_of_apply {row other : MonitoredTarget} {payload : WatchTargetPatch} {now : Time}
    (hdue : row.nextMonitoringAt.all (· < since) = true) (hnow : since ≤ now)
    (h : aheadOf row.place (payload.apply now other) = true) :
    aheadOf row.place other = true := by
  match hswitch : payload.enabled with
  | none =>
    obtain ⟨hmonitored, -, hplace⟩ := apply_unswitched hswitch now other
    rwa [aheadOf, hmonitored, hplace] at h
  | some false =>
    simp [aheadOf, MonitoredTarget.monitored, WatchTargetPatch.apply, hswitch,
      MonitoredTarget.switch] at h
  | some true =>
    by_cases hcompany : other.targetType = TargetType.company.value
    · have hnext : (payload.apply now other).nextMonitoringAt = some now := by
        simp [WatchTargetPatch.apply, hswitch, MonitoredTarget.switch, hcompany]
      rw [not_aheadOf_late hdue hnext hnow] at h
      cases h
    · have hunmonitored : (payload.apply now other).monitored = false := by
        simp [MonitoredTarget.monitored, WatchTargetPatch.apply, hswitch,
          MonitoredTarget.switch, hcompany]
      rw [aheadOf, hunmonitored, Bool.false_and] at h
      cases h

theorem foldl_monitorOne_targets (pass : Pass) (ids : List Id) (s : WatchStore) :
    (ids.foldl (monitorOne pass) s).targets = Lib.modifyAll pass.update s.targets ids := by
  induction ids generalizing s with
  | nil => rfl
  | cons i rest ih =>
    rw [List.foldl_cons, ih]
    have hone : (monitorOne pass s i).targets = s.targets.modify i (pass.update i) := by
      unfold monitorOne
      cases hrow : s.targets[i]? with
      | none =>
        rw [List.modify_eq_self (List.getElem?_eq_none_iff.mp hrow)]
      | some row => rfl
    rw [hone]
    rfl

theorem runsOf_foldl_of_notMem {pass : Pass} {ids : List Id} (h : i ∉ ids) (s : WatchStore) :
    runsOf (ids.foldl (monitorOne pass) s) i = runsOf s i := by
  induction ids generalizing s with
  | nil => rfl
  | cons j rest ih =>
    rw [List.mem_cons, not_or] at h
    rw [List.foldl_cons, ih h.2]
    cases hrow : s.targets[j]? with
    | none =>
      unfold monitorOne
      rw [hrow]
    | some row => rw [runsOf_monitorOne pass hrow, if_neg (Ne.symm h.1)]

/-- A pass records one run for each target it selects. -/
theorem selected_recorded {pass : Pass} (h : i ∈ dueMonitoringTargets pass.now s) :
    (runsOf (monitorWatchTargets pass s) i).length = (runsOf s i).length + 1 := by
  obtain ⟨row, hrow, -⟩ := mem_dueMonitoringTargets h
  obtain ⟨front, back, hcut⟩ := List.append_of_mem h
  have hnodup := dueMonitoringTargets_nodup pass.now s
  rw [hcut] at hnodup
  obtain ⟨hfront, hback, hapart⟩ := List.nodup_append.mp hnodup
  have hi : i ∉ front := fun hmem => hapart i hmem i List.mem_cons_self rfl
  have hstored : (front.foldl (monitorOne pass) s).targets[i]? = some row := by
    rw [foldl_monitorOne_targets, Lib.modifyAll_of_notMem hi]
    exact hrow
  unfold monitorWatchTargets
  rw [hcut, List.foldl_append, List.foldl_cons,
    runsOf_foldl_of_notMem (List.nodup_cons.mp hback).1, runsOf_monitorOne pass hstored, if_pos rfl,
    runsOf_foldl_of_notMem hi, List.length_append, List.length_singleton]

/-- A pass that leaves a waiting target out takes a hundred of those ahead of it. -/
theorem pass_brings_nearer {pass : Pass} {place : Lex (WithBot Time × Nat)}
    (hnow : since ≤ pass.now) (hclock : ∀ j, pass.now ≤ pass.completedAt j)
    (h : Waits i since place s) (hout : i ∉ dueMonitoringTargets pass.now s) :
    Waits i since place (monitorWatchTargets pass s) ∧
      (monitorWatchTargets pass s).targets.countP (aheadOf place) + 100 ≤
        s.targets.countP (aheadOf place) := by
  obtain ⟨row, hrow, hmonitored, hdue, rfl⟩ := h
  have htargets := foldl_monitorOne_targets pass (dueMonitoringTargets pass.now s) s
  have hrowDue : row.due pass.now = true := by
    rw [MonitoredTarget.due, hmonitored, Bool.true_and]
    cases htime : row.nextMonitoringAt with
    | none => rfl
    | some t =>
      rw [htime, Option.all_some, decide_eq_true_eq] at hdue
      exact decide_eq_true (hdue.le.trans hnow)
  have hselected : (i, row) ∈ s.targets.select (MonitoredTarget.due pass.now) :=
    Lib.Table.mem_select.mpr ⟨hrow, hrowDue⟩
  obtain ⟨hfull, hbefore⟩ := Lib.batch_full (f := fun found : Id × MonitoredTarget =>
    found.2.place) hselected fun hbatch =>
      hout (List.mem_map.mpr ⟨(i, row), hbatch, rfl⟩)
  constructor
  · refine ⟨row, ?_, hmonitored, hdue, rfl⟩
    unfold monitorWatchTargets
    rw [htargets, Lib.modifyAll_of_notMem hout]
    exact hrow
  · have hcount : (monitorWatchTargets pass s).targets.countP (aheadOf row.place) +
        (dueMonitoringTargets pass.now s).length = s.targets.countP (aheadOf row.place) := by
      unfold monitorWatchTargets
      rw [htargets]
      apply Lib.countP_modifyAll (dueMonitoringTargets_nodup pass.now s)
      intro j hj
      obtain ⟨⟨j, other⟩, hbatch, rfl⟩ := List.mem_map.mp hj
      obtain ⟨hother, hotherDue⟩ := Lib.Table.mem_select.mp (Lib.mem_of_mem_batch hbatch)
      refine ⟨other, hother, ?_, ?_⟩
      · rw [aheadOf, (Bool.and_eq_true_iff.mp hotherDue).1, Bool.true_and]
        exact decide_eq_true (hbefore (j, other) hbatch)
      · obtain ⟨pause, hpause, -⟩ := update_nextMonitoringAt pass j other
        apply not_aheadOf_late hdue hpause
        exact hnow.trans ((hclock j).trans (Nat.le_add_right _ _))
    have hlength : (dueMonitoringTargets pass.now s).length = 100 := by
      rw [dueMonitoringTargets, List.length_map]
      exact hfull
    omega

variable [Casing] {tools : IncidentTools}

/-- Creating and patching put no target before a waiting one. -/
theorem others_stay_behind {place : Lex (WithBot Time × Nat)} {action : WatchAction}
    (hok : LeavesWaiting i since s action) (h : Waits i since place s)
    (haction : action.isPass = false) :
    Waits i since place (step tools s action) ∧
      (step tools s action).targets.countP (aheadOf place) ≤
        s.targets.countP (aheadOf place) := by
  obtain ⟨row, hrow, hmonitored, hdue, rfl⟩ := h
  obtain ⟨hnow, hkept⟩ := hok
  match action with
  | .create payload actor key uuid now =>
    rcases create_cases tools s now uuid payload actor key with
      hsame | ⟨slot, audits, outbox, hnew⟩
    · rw [step, hsame]
      exact ⟨⟨row, hrow, hmonitored, hdue, rfl⟩, le_refl _⟩
    · rw [step, hnew]
      refine ⟨⟨row, Lib.Table.get_of_prefix (List.prefix_append _ _) _ row hrow, hmonitored,
        hdue, rfl⟩, ?_⟩
      have hbehind : aheadOf row.place (newTarget now uuid payload slot actor) = false := by
        by_cases hcompany : payload.targetType = .company
        · have hnext : (newTarget now uuid payload slot actor).nextMonitoringAt = some now := by
            simp [newTarget, hcompany]
          exact not_aheadOf_late hdue hnext hnow
        · have hother : payload.targetType.value ≠ TargetType.company.value :=
            fun heq => hcompany (value_injective heq)
          simp [aheadOf, MonitoredTarget.monitored, newTarget, hother]
      rw [List.countP_append, List.countP_singleton, hbehind]
      exact le_refl _
  | .patch j payload actor key now =>
    rcases patch_cases s now j payload actor key with hsame | ⟨old, audits, hold, hnew⟩
    · rw [step, hsame]
      exact ⟨⟨row, hrow, hmonitored, hdue, rfl⟩, le_refl _⟩
    · rw [step, hnew]
      refine ⟨?_, ?_⟩
      · by_cases hsame : j = i
        · subst hsame
          obtain rfl : row = old := Option.some.inj (hrow.symm.trans hold)
          obtain ⟨hmonitoredKept, hnextKept, hplaceKept⟩ :=
            apply_unswitched (hkept rfl) now row
          refine ⟨payload.apply now row, Lib.Table.get_modify hrow (fun _ => rfl) (absurd rfl),
            ?_, ?_, hplaceKept⟩
          · rw [hmonitoredKept]
            exact hmonitored
          · rw [hnextKept]
            exact hdue
        · exact ⟨row, Lib.Table.get_modify hrow (fun heq => absurd heq hsame) (fun _ => rfl),
            hmonitored, hdue, rfl⟩
      · apply Lib.countP_modify_le
        intro other _ hahead
        exact aheadOf_of_apply hdue hnow hahead

variable (tools)

end Waiting

/-- Fortinet has been due since the start of the day. -/
def fortinet : MonitoredTarget where
  targetType := "company"
  canonicalTargetKey := "fortinet"
  displayName := "Fortinet"
  owner := none
  originIncidentId := none
  createdBy := "analyst"
  uuid := 0
  nextMonitoringAt := some 0

/-- A pass a minute later. -/
def minutePass : Pass where
  provider := .disabled
  searchResultLimit := 5
  interval := 300
  now := 60
  startedAt := fun _ => 60
  completedAt := fun _ => 61
  answers := fun _ _ _ => .ok []

end GhostRecon.Monitoring
