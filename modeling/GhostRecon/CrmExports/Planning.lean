import GhostRecon.Events.Repository
import GhostRecon.Meeting.Outcomes

/-!
What a CRM target is exported as. A plan is built from the target and the
record it stands for; planning raises when the type is unknown or the record is
gone, and skips the target when the record may not leave the system.
-/

namespace GhostRecon

open Lib (Id Table)
open Incidents (SecurityIncident)
open Events (CyberEvent EventParticipant)

inductive ExportItemStatus where
  | pending | running | succeeded | failedRetryable | failedTerminal | skippedPolicy | reconciled
  deriving DecidableEq, Repr

def ExportItemStatus.value : ExportItemStatus → String
  | .pending => "pending"
  | .running => "running"
  | .succeeded => "succeeded"
  | .failedRetryable => "failed_retryable"
  | .failedTerminal => "failed_terminal"
  | .skippedPolicy => "skipped_policy"
  | .reconciled => "reconciled"

/-- `partially` stands for the value `partial`. -/
inductive ExportBatchStatus where
  | pending | running | partially | succeeded | failed | reconciling
  deriving DecidableEq, Repr

/-- `provider`, `workspace_id` and `requested_by` are kept as the request names them. -/
structure CrmExportBatch where
  provider : String := "attio"
  workspaceId : Option String := none
  requestedBy : String
  status : ExportBatchStatus := .pending
  crmTargetIds : List Id := []
  idempotencyKey : String
  counts : List (String × Nat) := []
  pendingReconciliation : Nat := 0
  startedAt : Option Time := none
  completedAt : Option Time := none
  createdAt : Time := 0
  updatedAt : Time := 0
  deriving DecidableEq, Repr

/-- An item. `uuid` is its generated primary key, which orders the items of a
batch. -/
structure CrmExportItem where
  uuid : Nat
  batchId : Id
  crmTargetId : Id
  targetType : String
  targetId : Id
  providerObject : String
  providerRecordId : Option String := none
  providerListId : Option String := none
  providerListEntryId : Option String := none
  stableMatchKey : String
  status : ExportItemStatus := .pending
  attemptCount : Nat := 0
  lastError : Option String := none
  retryAfterSeconds : Option Int := none
  reconciliationState : String := "not_required"
  createdAt : Time := 0
  updatedAt : Time := 0
  deriving DecidableEq, Repr

structure ExportStore extends Store where
  cyberEvents : Table CyberEvent := []
  securityIncidents : Table SecurityIncident := []
  participants : Table EventParticipant := []
  exportBatches : Table CrmExportBatch := []
  exportItems : Table CrmExportItem := []

/-- The lists of the CRM the records are filed in. -/
structure CrmSettings where
  attioEventsListApiSlug : String := "ghostrecon-cyber-events"
  attioEventParticipantsListApiSlug : String := "ghostrecon-event-participants"
  attioIncidentsListApiSlug : String := "ghostrecon-security-incidents"
  attioCompaniesListApiSlug : String := "ghostrecon-companies"
  attioIncidentContactsListApiSlug : String := "ghostrecon-incident-contacts"
  deriving DecidableEq, Repr

structure CrmExportPlan where
  targetType : String
  targetId : Id
  providerObject : String
  stableMatchKey : String
  matchingAttribute : String
  values : List (String × Json)
  listApiSlug : String
  listEntryValues : List (String × String) := [("export_status", "approved")]

/-- What planning raises: `PolicySkip`, or another `ValueError`. -/
inductive PlanError where
  | policySkip (message : String)
  | valueError (message : String)
  deriving DecidableEq, Repr

section Types

/-- The aliases of `_normalize_target_type`. -/
def targetTypeAliases : List (String × String) :=
  [("event", "cyber_event"), ("cyber_event", "cyber_event"),
    ("incident", "security_incident"), ("security_incident", "security_incident"),
    ("account", "company"), ("company", "company"), ("organization", "company"),
    ("affected_company", "company"), ("contact", "contact"), ("incident_contact", "contact"),
    ("email_candidate", "email_candidate"), ("event_participant", "event_participant")]

def normalizeTargetType (targetType : String) : String :=
  (targetTypeAliases.lookup targetType).getD targetType

def personTypes : List String :=
  ["contact", "email_candidate", "event_participant", "incident_contact"]

def providerObjectForType (targetType : String) : String :=
  let normalized := normalizeTargetType targetType
  if normalized = "cyber_event" then "cyber_events"
  else if normalized = "security_incident" then "security_incidents"
  else if normalized = "company" then "companies"
  else if normalized ∈ personTypes then "people"
  else "people"

/-- `_target_order`: events, incidents and companies before people. -/
def targetOrder (targetType : String) : Nat :=
  if normalizeTargetType targetType ∈ ["cyber_event", "security_incident", "company"] then 0
  else 1

/-- `_unique_ordered`. -/
def uniqueOrdered (values : List Id) : List Id :=
  values.foldl (fun ordered value =>
    if value ∈ ordered then ordered else ordered ++ [value]) []

end Types

section Plans

variable [Casing]

def jsonText (text : Option String) : Json :=
  (text.map Json.str).getD .null

def jsonId (id : Id) : Json :=
  .str (toString id)

def jsonIds (ids : List Id) : Json :=
  .arr (ids.map jsonId)

/-- `_lineage`. -/
def lineage (id : Id) (target : CrmTarget) : Json :=
  .obj [("crm_target_id", jsonId id),
    ("review_candidate_id", (target.reviewCandidateId.map jsonId).getD .null),
    ("review_decision_id", (target.reviewDecisionId.map jsonId).getD .null),
    ("origin_type", jsonText target.originType), ("origin_id", jsonText target.originId),
    ("source_definition_id", (target.sourceDefinitionId.map jsonId).getD .null),
    ("source_item_ids", jsonIds target.sourceItemIds)]

def incidentStatusValue : Incidents.IncidentStatus → String
  | .candidate => "candidate"
  | .corroborated => "corroborated"
  | .rejected => "rejected"

/-- What a person is exported under. -/
structure PersonRecord where
  fullName : Option String := none
  title : Option String := none
  email : Option String := none
  sourceUrl : Option String := none
  listApiSlug : String
  deriving DecidableEq, Repr

/-- The branches of `_person_plan`. -/
def personRecord (settings : CrmSettings) (s : ExportStore) (target : CrmTarget) :
    Except PlanError PersonRecord :=
  let targetType := normalizeTargetType target.targetType
  if targetType = "email_candidate" then
    match s.emailCandidates[target.targetId]? with
    | none => .error (.valueError "email-candidate target does not exist")
    | some candidate =>
      if candidate.verificationStatus ≠ .verified then
        .error (.policySkip "people export requires a verified business email")
      else
        let contact := candidate.contactId.bind (s.contacts[·]?)
        .ok {
          fullName := contact.map (·.fullName)
          title := contact.bind (·.title)
          email := some candidate.email
          sourceUrl := contact.bind (·.sourceUrl)
          listApiSlug := settings.attioIncidentContactsListApiSlug }
  else if targetType = "contact" then
    match s.contacts[target.targetId]? with
    | none => .error (.valueError "contact target does not exist")
    | some contact =>
      if !truthy contact.email || !decide (contact.emailStatus ∈ [none, some "verified"]) then
        .error (.policySkip "people export requires a verified business email")
      else
        .ok {
          fullName := some contact.fullName
          title := contact.title
          email := contact.email
          sourceUrl := contact.sourceUrl
          listApiSlug := settings.attioIncidentContactsListApiSlug }
  else if targetType = "event_participant" then
    match s.participants[target.targetId]? with
    | none => .error (.valueError "event-participant target does not exist")
    | some participant =>
      if !participant.crmExportAllowed then
        .error (.policySkip "participant source policy does not allow CRM export")
      else
        .ok {
          fullName := some participant.publishedName
          title := participant.publishedRole
          sourceUrl := participant.profileUrl
          listApiSlug := settings.attioEventParticipantsListApiSlug }
  else
    .error (.valueError ("unsupported people export target type '" ++ target.targetType ++ "'"))

/-- `_person_plan`. -/
def personPlan (settings : CrmSettings) (s : ExportStore) (id : Id) (target : CrmTarget) :
    Except PlanError CrmExportPlan := do
  let person ← personRecord settings s target
  let email := if truthy person.email then person.email.map lower else none
  return {
    targetType := target.targetType
    targetId := target.targetId
    providerObject := "people"
    stableMatchKey :=
      match email with
      | some address => "email:" ++ address
      | none => "ghostrecon_person:" ++ toString id
    matchingAttribute := if email.isSome then "email_addresses" else "ghostrecon_id"
    values :=
      [("ghostrecon_id", jsonId target.targetId),
        ("name", if truthy person.fullName then jsonText person.fullName
          else jsonId target.targetId),
        ("job_title", jsonText person.title), ("source_url", jsonText person.sourceUrl),
        ("source_lineage", lineage id target)] ++
      (email.map fun address =>
        ("email_addresses", Json.arr [.obj [("email_address", .str address)]])).toList
    listApiSlug := person.listApiSlug }

/-- `_plan_for_target`. The target's own row is given next to the store. -/
def planForTarget (settings : CrmSettings) (s : ExportStore) (id : Id) (target : CrmTarget) :
    Except PlanError CrmExportPlan :=
  let targetType := normalizeTargetType target.targetType
  if targetType = "cyber_event" then
    match s.cyberEvents[target.targetId]? with
    | none => .error (.valueError "event target does not exist")
    | some event =>
      .ok {
        targetType := target.targetType
        targetId := target.targetId
        providerObject := "cyber_events"
        stableMatchKey := "ghostrecon_event:" ++ toString target.targetId
        matchingAttribute := "ghostrecon_id"
        values :=
          [("ghostrecon_id", jsonId target.targetId), ("name", .str event.name),
            ("event_series_key", .str event.eventSeriesKey),
            ("starts_at_utc", (event.startsAtUtc.map fun t => Json.int t).getD .null),
            ("country", jsonText event.country), ("source_lineage", lineage id target)]
        listApiSlug := settings.attioEventsListApiSlug }
  else if targetType = "security_incident" then
    match s.securityIncidents[target.targetId]? with
    | none => .error (.valueError "incident target does not exist")
    | some incident =>
      .ok {
        targetType := target.targetType
        targetId := target.targetId
        providerObject := "security_incidents"
        stableMatchKey := "ghostrecon_incident:" ++ toString target.targetId
        matchingAttribute := "ghostrecon_id"
        values :=
          [("ghostrecon_id", jsonId target.targetId), ("title", .str incident.title),
            ("status", .str (incidentStatusValue incident.status)),
            ("attack_vector", jsonText incident.attackVector),
            ("affected_companies", .arr (incident.affectedCompanies.map Json.str)),
            ("evidence_source_item_ids", jsonIds incident.evidenceSourceItemIds),
            ("source_lineage", lineage id target)]
        listApiSlug := settings.attioIncidentsListApiSlug }
  else if targetType = "company" then
    match s.accounts[target.targetId]? with
    | none => .error (.valueError "company target does not exist")
    | some account =>
      if !truthy account.domain then
        .error (.policySkip "company export requires a stable domain")
      else
        let domain := lower (account.domain.getD "")
        .ok {
          targetType := target.targetType
          targetId := target.targetId
          providerObject := "companies"
          stableMatchKey := "domain:" ++ domain
          matchingAttribute := "domains"
          values :=
            [("name", .str account.companyName),
              ("domains", .arr [.obj [("domain", .str domain)]]),
              ("ghostrecon_id", jsonId target.targetId), ("source_lineage", lineage id target)]
          listApiSlug := settings.attioCompaniesListApiSlug }
  else if targetType ∈ personTypes then
    personPlan settings s id target
  else
    .error (.valueError ("unsupported CRM export target type '" ++ target.targetType ++ "'"))

/-- The two stores agree about the record the target stands for. -/
structure SameRecord (target : CrmTarget) (s s' : ExportStore) : Prop where
  cyberEvent : s'.cyberEvents[target.targetId]? = s.cyberEvents[target.targetId]?
  securityIncident : s'.securityIncidents[target.targetId]? = s.securityIncidents[target.targetId]?
  account : s'.accounts[target.targetId]? = s.accounts[target.targetId]?
  contact : s'.contacts[target.targetId]? = s.contacts[target.targetId]?
  emailCandidate : s'.emailCandidates[target.targetId]? = s.emailCandidates[target.targetId]?
  participant : s'.participants[target.targetId]? = s.participants[target.targetId]?
  candidateContact : ∀ candidate c, s.emailCandidates[target.targetId]? = some candidate →
    candidate.contactId = some c → s'.contacts[c]? = s.contacts[c]?

omit [Casing] in
theorem personRecord_congr {s s' : ExportStore} {target : CrmTarget}
    (h : SameRecord target s s') (settings : CrmSettings) :
    personRecord settings s' target = personRecord settings s target := by
  have hcandidate : ∀ candidate, s.emailCandidates[target.targetId]? = some candidate →
      (candidate.contactId.bind fun c => s'.contacts[c]?) =
        candidate.contactId.bind fun c => s.contacts[c]? := by
    intro candidate hstored
    cases hcontact : candidate.contactId with
    | none => rfl
    | some c => exact h.candidateContact candidate c hstored hcontact
  unfold personRecord
  simp only [h.contact, h.emailCandidate, h.participant]
  cases hstored : s.emailCandidates[target.targetId]? with
  | none => rfl
  | some candidate => simp only [hcandidate candidate hstored]

/-- A plan depends on the target and its record. -/
theorem planForTarget_congr {s s' : ExportStore} {target : CrmTarget}
    (h : SameRecord target s s') (settings : CrmSettings) (id : Id) :
    planForTarget settings s' id target = planForTarget settings s id target := by
  simp only [planForTarget, personPlan, personRecord_congr h, h.cyberEvent, h.securityIncident,
    h.account]

/-- The two stores have the same records. -/
structure SameRecords (s s' : ExportStore) : Prop where
  cyberEvents : s'.cyberEvents = s.cyberEvents
  securityIncidents : s'.securityIncidents = s.securityIncidents
  accounts : s'.accounts = s.accounts
  contacts : s'.contacts = s.contacts
  emailCandidates : s'.emailCandidates = s.emailCandidates
  participants : s'.participants = s.participants

omit [Casing] in
theorem SameRecords.record {s s' : ExportStore} (h : SameRecords s s') (target : CrmTarget) :
    SameRecord target s s' where
  cyberEvent := by rw [h.cyberEvents]
  securityIncident := by rw [h.securityIncidents]
  account := by rw [h.accounts]
  contact := by rw [h.contacts]
  emailCandidate := by rw [h.emailCandidates]
  participant := by rw [h.participants]
  candidateContact := fun _ _ _ _ => by rw [h.contacts]

end Plans

end GhostRecon
