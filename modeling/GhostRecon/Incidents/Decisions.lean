import GhostRecon.Incidents.Repository

/-!
Analyst decisions on an incident and its promotion to the watch list. The
three decisions are one transaction with different guards: a repeated key
returns the recorded decision, the version must be the one the analyst read,
and every change of the incident bumps it. Promotion belongs to another
service and records no decision.
-/

namespace GhostRecon.Incidents

open Lib (Id Table query write)

abbrev IncidentTx (α : Type) := Lib.Tx PyError IncidentStore PUnit α

def sessionScope {α : Type} (body : IncidentTx α) : IncidentTx α :=
  Lib.sessionScope IncidentStore.constraintsOk .integrityError body

def flush : IncidentTx PUnit :=
  Lib.flush IncidentStore.constraintsOk .integrityError

structure IncidentDecisionRequest where
  version : Nat
  method : CorroborationMethod := .analystDecision
  reasonCode : String
  reason : Option String := none
  evidenceSnapshot : Json := .obj []

/-- The parts in which the three decisions differ. -/
structure DecisionRule where
  /-- Checked after the version. -/
  guard : IncidentDecisionRequest → SecurityIncident → Except PyError PUnit
  status : IncidentStatus
  /-- The method afterwards, if it is assigned. -/
  method : IncidentDecisionRequest → Option CorroborationMethod
  outcome : DecisionOutcome
  /-- `analyst_decision_ref` is set. -/
  refers : Bool
  event : Id → IncidentEventKey

/-- The columns a decision changes. -/
def DecisionRule.change (rule : DecisionRule) (request : IncidentDecisionRequest)
    (row : SecurityIncident) : SecurityIncident :=
  { row with
    status := rule.status
    corroborationMethod := (rule.method request).getD row.corroborationMethod
    version := row.version + 1 }

def setDecisionRef (incident decision : Id) (s : IncidentStore) : IncidentStore :=
  { s with incidents := s.incidents.modify incident fun row =>
      { row with analystDecisionRef := some decision } }

def modifyIncident (incident : Id) (f : SecurityIncident → SecurityIncident)
    (s : IncidentStore) : IncidentStore :=
  { s with incidents := s.incidents.modify incident f }

def addDecision (row : IncidentDecision) (s : IncidentStore) : IncidentStore :=
  { s with decisions := s.decisions ++ [row] }

/-- `_audit`. -/
def audit (row : AuditEvent) (s : IncidentStore) : IncidentStore :=
  { s with auditEvents := s.auditEvents ++ [row] }

def enqueue (key : IncidentEventKey) (s : IncidentStore) : IncidentStore :=
  { s with outbox := s.outbox ++ [key] }

/-- A decision on an incident: the recorded one, a new one or none. -/
def decisionBody (rule : DecisionRule) (incident : Id) (request : IncidentDecisionRequest)
    (actor idempotencyKey : String) : IncidentTx (Option Id) := do
  match ← query (·.decisions.first? (·.idempotencyKey == idempotencyKey)) with
  | some (decision, _) => return some decision
  | none =>
  match ← query (·.incidents[incident]?) with
  | none => return none
  | some row =>
  if row.version ≠ request.version then
    throw (.valueError "stale optimistic version")
  match rule.guard request row with
  | .error e => throw e
  | .ok _ =>
  write (modifyIncident incident (rule.change request))
  let decision ← query (·.decisions.length)
  write (addDecision {
    targetId := incident
    decision := rule.outcome
    actor
    reasonCode := request.reasonCode
    reason := request.reason
    idempotencyKey })
  flush
  if rule.refers then write (setDecisionRef incident decision)
  write (enqueue (rule.event decision))
  return some decision

/-- A decision in a transaction of its own. -/
def decideIncident (rule : DecisionRule) (incident : Id) (request : IncidentDecisionRequest)
    (actor idempotencyKey : String) : IncidentTx (Option Id) :=
  sessionScope (decisionBody rule incident request actor idempotencyKey)

variable (tools : IncidentTools)

/-- `int(request.evidence_snapshot.get("independent_source_count") or 0)`. -/
def independentSourceCount (request : IncidentDecisionRequest) : Except PyError Int :=
  match request.evidenceSnapshot.get? "independent_source_count" with
  | none => .ok 0
  | some value =>
    if value.truthy then (value.toInt tools.intOfText).mapError .conversionError else .ok 0

/-- The guard of a corroboration: a known method, and two sources for one of
them. -/
def corroborationGuard (request : IncidentDecisionRequest) (_ : SecurityIncident) :
    Except PyError PUnit := do
  if !request.method.corroborates then
    throw (.valueError "unsupported incident corroboration method")
  if request.method = .independentSources then
    let count ← independentSourceCount tools request
    if count < 2 then
      throw (.valueError "independent-source corroboration requires at least two sources")

def corroborateRule : DecisionRule where
  guard := corroborationGuard tools
  status := .corroborated
  method request := some request.method
  outcome := .approved
  refers := true
  event := .corroboratedBy

def rejectRule : DecisionRule where
  guard _ _ := .ok PUnit.unit
  status := .rejected
  method _ := none
  outcome := .rejected
  refers := false
  event := .rejectedBy

def revertRule : DecisionRule where
  guard _ row :=
    if row.status ≠ .corroborated then
      .error (.valueError "only corroborated incidents can be reverted")
    else .ok PUnit.unit
  status := .candidate
  method _ := some .none
  outcome := .rejected
  refers := true
  event := .revertedBy

/-- `corroborate_incident`. -/
def corroborateIncident (incident : Id) (request : IncidentDecisionRequest)
    (actor idempotencyKey : String) : IncidentTx (Option Id) :=
  decideIncident (corroborateRule tools) incident request actor idempotencyKey

/-- `reject_incident`. -/
def rejectIncident (incident : Id) (request : IncidentDecisionRequest)
    (actor idempotencyKey : String) : IncidentTx (Option Id) :=
  decideIncident rejectRule incident request actor idempotencyKey

/-- `revert_incident`. -/
def revertIncident (incident : Id) (request : IncidentDecisionRequest)
    (actor idempotencyKey : String) : IncidentTx (Option Id) :=
  decideIncident revertRule incident request actor idempotencyKey

/-- `corroboration_method or "dashboard_promotion"`. -/
def CorroborationMethod.orPromotion (method : CorroborationMethod) : CorroborationMethod :=
  if method.value = "" then .dashboardPromotion else method

/-- What promotion does to an incident that is still a candidate. -/
def SecurityIncident.promoted (row : SecurityIncident) : SecurityIncident :=
  { row with
    status := .corroborated
    corroborationMethod := row.corroborationMethod.orPromotion
    version := row.version + 1 }

/-- The company that promotion watches. -/
def SecurityIncident.company (row : SecurityIncident) : Option String :=
  (row.primaryAffectedCompany.bind nonEmpty).or
    (row.affectedCompanies.head?.bind fun company => nonEmpty (strip tools company))

variable [Casing]

/-- `_watch_target_key` of a company. -/
def watchTargetKey (company : String) : String :=
  slug (lower (strip tools company))

/-- `create_watch_target` for a company. -/
def createWatchTarget (company actor : String) (incident : Id) (idempotencyKey : String) :
    IncidentTx Id := do
  let key := watchTargetKey tools company
  match ← query (·.watchTargets.first? fun row =>
      row.targetType == "company" && row.canonicalTargetKey == key) with
  | some (target, _) => return target
  | none =>
    let target ← query (·.watchTargets.length)
    write fun s => { s with watchTargets := s.watchTargets ++ [{
      targetType := "company"
      canonicalTargetKey := key
      displayName := company
      owner := some actor
      originIncidentId := some incident
      createdBy := actor }] }
    flush
    write (audit {
      actor
      action := "watch_target.created"
      entityType := "watch_target"
      entityId := target
      idempotencyKey })
    write (enqueue (.watchTargetCreated target))
    return target

/-- The body of a promotion. -/
def promotionBody (incident : Id) (version : Nat) (actor idempotencyKey : String) :
    IncidentTx (Option Id) := do
  match ← query (·.incidents[incident]?) with
  | none => return none
  | some row =>
  if row.version ≠ version then
    throw (.valueError "stale optimistic version")
  match row.status with
  | .corroborated => pure PUnit.unit
  | .candidate => write (modifyIncident incident SecurityIncident.promoted)
  | .rejected =>
    throw (.valueError "incident must be corroborated before watchlist promotion")
  match row.company tools with
  | none => throw (.valueError "incident does not have a company to promote")
  | some company =>
    return some (← createWatchTarget tools company actor incident idempotencyKey)

/-- `promote_incident_to_watchlist`. -/
def promoteIncidentToWatchlist (incident : Id) (version : Nat)
    (actor idempotencyKey : String) : IncidentTx (Option Id) :=
  sessionScope (promotionBody tools incident version actor idempotencyKey)

end GhostRecon.Incidents
