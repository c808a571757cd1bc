import GhostRecon.Common.Json
import GhostRecon.Lib.Table
import GhostRecon.Models.Prospects

/-!
The tables of the incident service: the news sources and their fetched items,
the articles and incidents derived from them, the evidence that links the two,
the analysts' decisions and the watch list. Columns that no modelled operation
reads or writes are left out.
-/

namespace GhostRecon.Incidents

open Lib (Id Table)

inductive ParseStatus where
  | pending | parsed | failed
  deriving DecidableEq, Repr

structure NewsSource where
  name : String
  sourceKind : String := "incident"
  queryScope : Json := .obj []

/-- A fetched item. `raw_metadata` is a JSON object or null. -/
structure NewsItem where
  sourceDefinitionId : Id
  canonicalUrl : String
  contentHash : String
  retrievedAt : Time := 0
  publishedAt : Option Time := none
  originalLanguage : Option String := none
  rawMetadata : Json := .obj []
  permittedExcerpt : Option String := none
  parseStatus : ParseStatus := .pending
  duplicateState : String := "canonical"
  quarantineReason : Option String := none

structure NewsArticle where
  canonicalUrl : String
  publisher : Option String
  title : String
  permittedExcerpt : Option String
  publishedAt : Option Time
  retrievedAt : Option Time
  originalLanguage : Option String
  translatedTitle : Option String
  contentHash : String
  syndicationClusterKey : String
  dedupeKey : String
  sourceDefinitionId : Id
  sourceItemIds : List Id
  deriving DecidableEq, Repr

inductive IncidentStatus where
  | candidate | corroborated | rejected
  deriving DecidableEq, Repr

/-- The values of the `corroboration_method` column. -/
inductive CorroborationMethod where
  | none | authoritativeDisclosure | independentSources | analystDecision | dashboardPromotion
  deriving DecidableEq, Repr

def CorroborationMethod.value : CorroborationMethod → String
  | .none => "none"
  | .authoritativeDisclosure => "authoritative_disclosure"
  | .independentSources => "independent_sources"
  | .analystDecision => "analyst_decision"
  | .dashboardPromotion => "dashboard_promotion"

/-- `CORROBORATION_METHODS`. -/
def CorroborationMethod.corroborates : CorroborationMethod → Bool
  | .authoritativeDisclosure | .independentSources | .analystDecision => true
  | .none | .dashboardPromotion => false

structure SecurityIncident where
  status : IncidentStatus := .candidate
  title : String
  incidentGroupKey : String
  primaryAffectedCompany : Option String
  primaryAffectedDomain : Option String
  affectedCompanies : List String
  affectedDomains : List String
  incidentType : Option String
  attackVector : Option String
  firstObservedAt : Option Time
  lastObservedAt : Option Time
  geography : List String
  languages : List String
  confidence : Nat
  evidenceArticleIds : List Id
  evidenceSourceItemIds : List Id
  evidenceFamilies : List String
  evidenceUrls : List String
  corroborationMethod : CorroborationMethod := .none
  analystDecisionRef : Option Id := none
  dedupeKey : String
  sourceDefinitionId : Option Id
  sourceItemIds : List Id
  version : Nat := 1
  deriving DecidableEq, Repr

structure IncidentEvidence where
  securityIncidentId : Id
  newsArticleId : Id
  sourceItemId : Id
  evidenceFamilyKey : String
  authoritative : Bool
  deriving DecidableEq, Repr

inductive DecisionOutcome where
  | approved | rejected
  deriving DecidableEq, Repr

/-- A recorded analyst decision on an incident. -/
structure IncidentDecision where
  targetId : Id
  decision : DecisionOutcome
  actor : String
  reasonCode : String
  reason : Option String
  idempotencyKey : String
  deriving DecidableEq, Repr

structure WatchTarget where
  targetType : String
  canonicalTargetKey : String
  displayName : String
  owner : Option String
  originIncidentId : Option Id
  createdBy : String
  deriving DecidableEq, Repr

/-- An audit row of the watch list. Those of the analyst decisions are left out. -/
structure AuditEvent where
  actor : String
  action : String
  entityType : String
  entityId : Id
  idempotencyKey : String
  deriving DecidableEq, Repr

/-- The idempotency keys of the service's outbox rows. -/
inductive IncidentEventKey where
  /-- `news_article.ingested:<article>` -/
  | articleIngested (article : Id)
  /-- `security_incident.detected:<incident>` -/
  | detected (incident : Id)
  /-- `security_incident.manual:<incident>` -/
  | manual (incident : Id)
  /-- `security_incident.corroborated:<incident>:<method>` -/
  | corroborated (incident : Id) (method : CorroborationMethod)
  /-- `security_incident.corroborated:<decision>` -/
  | corroboratedBy (decision : Id)
  /-- `review.rejected:<decision>` -/
  | rejectedBy (decision : Id)
  /-- `security_incident.reverted:<decision>` -/
  | revertedBy (decision : Id)
  /-- `watch_target.created:<target>` -/
  | watchTargetCreated (target : Id)
  deriving DecidableEq, Repr

end GhostRecon.Incidents
