import GhostRecon.Models.Prospects

/-!
The enrichment tables: resolution cases, contact candidates with their policy
outcome, learned email patterns, the review queue, and the search evidence a
domain discovery leaves behind.
-/

namespace GhostRecon

open Lib (Id)

inductive OriginType where
  | cyberEvent | eventParticipant | securityIncident | manual
  deriving DecidableEq, Repr

def OriginType.value : OriginType → String
  | .cyberEvent => "cyber_event"
  | .eventParticipant => "event_participant"
  | .securityIncident => "security_incident"
  | .manual => "manual"

inductive ContactRoleScope where
  | security | it | risk | communications | other | unknown
  deriving DecidableEq, Repr

/-- `INCIDENT_CONTACT_ROLE_SCOPES`. -/
def ContactRoleScope.incidentScope : ContactRoleScope → Bool
  | .security | .it | .risk | .communications => true
  | .other | .unknown => false

inductive ParticipantReuseState where
  | allowed | unknown | prohibited
  deriving DecidableEq, Repr

inductive ContactCandidateStatus where
  | eligible | needsReview | blocked
  deriving DecidableEq, Repr

/-- An account as a resolution case lists it. -/
structure AccountSummary where
  accountId : Id
  domain : Option String
  companyName : String
  deriving DecidableEq, Repr

/-- `resolved_account_id` is set once the case is resolved. -/
structure EntityResolutionCase where
  originType : OriginType
  originId : String
  entityKind : String := "organization"
  inputName : Option String := none
  inputDomain : Option String := none
  resolvedAccountId : Option Id := none
  resolvedName : Option String := none
  resolvedDomain : Option String := none
  status : String := "pending"
  confidence : Nat := 0
  alternatives : List AccountSummary := []
  sourceDefinitionId : Option Id := none
  sourceItemIds : List Id := []
  reviewReason : Option String := none
  idempotencyKey : String
  version : Nat := 1
  deriving DecidableEq, Repr

structure ContactEnrichmentCandidate where
  entityResolutionCaseId : Option Id := none
  accountId : Option Id := none
  contactId : Option Id := none
  originType : OriginType
  originId : String
  publishedName : String
  organization : Option String := none
  title : Option String := none
  roleScope : ContactRoleScope := .unknown
  domain : Option String := none
  profileUrl : Option String := none
  sourceUrl : Option String := none
  status : ContactCandidateStatus
  eligibilityReason : Option String := none
  reuseState : ParticipantReuseState := .unknown
  sourceDefinitionId : Option Id := none
  sourceItemIds : List Id := []
  reviewReason : Option String := none
  /-- The entry `verified_email` of `candidate_payload`. -/
  verifiedEmail : Option String := none
  idempotencyKey : String
  version : Nat := 1
  deriving DecidableEq, Repr

structure OrganizationEmailPattern where
  domain : String
  pattern : String
  confidence : Nat := 0
  sampleSize : Nat := 1
  verifiedAt : Option Time := none
  deriving DecidableEq, Repr

structure ReviewCandidate where
  candidateType : String
  targetType : String
  targetId : Id
  originType : Option String := none
  originId : Option String := none
  sourceDefinitionId : Option Id := none
  sourceItemIds : List Id := []
  reasonCode : String
  reason : String
  status : String := "open"
  /-- `review:<candidate type>:<target>:<reason code>` -/
  idempotencyKey : String × Id × String
  deriving DecidableEq, Repr

/-- A search source, found again by its name. -/
structure SourceDefinition where
  name : String
  adapterType : String
  owner : String
  deriving DecidableEq, Repr

inductive RawSourceParseStatus where
  | pending | parsed | failed | quarantined
  deriving DecidableEq, Repr

inductive DuplicateState where
  | canonical | duplicate | quarantined
  deriving DecidableEq, Repr

structure RawSourceItem where
  sourceDefinitionId : Id
  externalId : Option String := none
  originalUrl : String
  canonicalUrl : String
  contentHash : String
  publishedAt : Option Time := none
  originalLanguage : Option String := none
  sourceTimezone : Option String := none
  parseStatus : RawSourceParseStatus := .pending
  duplicateState : DuplicateState := .canonical
  quarantineReason : Option String := none
  /-- The digest of the source and what identifies the item in it. -/
  idempotencyKey : Id × String
  deriving DecidableEq, Repr

/-- The unique constraints of the raw items: the key, the external id in the
source, and the content at its URL in the source. -/
def rawItemsUnique (items : Lib.Table RawSourceItem) : Bool :=
  items.uniqueOn (fun row => some row.idempotencyKey) &&
    items.uniqueOn (fun row => row.externalId.map fun id => (row.sourceDefinitionId, id)) &&
    items.uniqueOn (fun row =>
      some (row.sourceDefinitionId, row.canonicalUrl, row.contentHash))

end GhostRecon
