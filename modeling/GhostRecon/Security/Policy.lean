import GhostRecon.Common.Text
import Mathlib.Data.List.Dedup
import Mathlib.Data.List.Sort

/-!
Identities, roles, permissions and the classification of operations. Every domain
route has a policy derived from its name, path and methods; the gateway's own
routes are listed. What an identity may do is decided by its permissions, its
assurance and the age of its authentication.
-/

namespace GhostRecon.Security

/-- A point in time, in microseconds. -/
abbrev Micros := Int

inductive AssuranceLevel where
  | emailOtp | phishingResistant | workload
  deriving DecidableEq, Repr

def AssuranceLevel.value : AssuranceLevel → String
  | .emailOtp => "aal1"
  | .phishingResistant => "aal2_phishing_resistant"
  | .workload => "workload"

inductive Permission where
  | sessionSelfRead | sessionSelfRevoke | profileSelfRead | canonicalRead | reportingRead
  | governanceRead | intelligenceWrite | enrichmentWrite | scoringWrite | watchWrite
  | crmExport | sequenceWrite | meetingWrite | assignedWorkWrite | governanceAnnotate
  | governanceDecide | governanceOverride | suppressionWrite | securityAdmin
  | securityAuditRead | metricsRead | docsRead
  deriving DecidableEq, Repr

def Permission.value : Permission → String
  | .sessionSelfRead => "session.self.read"
  | .sessionSelfRevoke => "session.self.revoke"
  | .profileSelfRead => "profile.self.read"
  | .canonicalRead => "canonical.read"
  | .reportingRead => "reporting.read"
  | .governanceRead => "governance.read"
  | .intelligenceWrite => "intelligence.write"
  | .enrichmentWrite => "enrichment.write"
  | .scoringWrite => "scoring.write"
  | .watchWrite => "watch.write"
  | .crmExport => "crm.export"
  | .sequenceWrite => "sequence.write"
  | .meetingWrite => "meeting.write"
  | .assignedWorkWrite => "assigned_work.write"
  | .governanceAnnotate => "governance.annotate"
  | .governanceDecide => "governance.decide"
  | .governanceOverride => "governance.override"
  | .suppressionWrite => "suppression.write"
  | .securityAdmin => "security.admin"
  | .securityAuditRead => "security.audit.read"
  | .metricsRead => "system.metrics.read"
  | .docsRead => "system.docs.read"

inductive IdentityType where
  | human | service | worker
  deriving DecidableEq, Repr

/-- `IdentityContext`; a set of texts is a list. -/
structure IdentityContext where
  identityType : IdentityType := .human
  subject : String
  actorLabel : String := ""
  issuer : String := ""
  audience : List String := []
  roles : List String := []
  permissions : List String := []
  callingService : Option String := none
  onBehalfOfSubject : Option String := none
  authenticationMethod : String := ""
  authenticatedAt : Micros
  assurance : AssuranceLevel
  sessionId : Option String := none
  correlationId : String := ""
  requestId : String := ""
  claimMappingVersion : String := ""
  permissionPolicyVersion : String := ""
  environment : String := ""
  emailVerified : Option Bool := none
  attributes : List (String × String) := []
  deriving DecidableEq, Repr

/-- The text has a character that is not white space. -/
def IsPresent (text : String) : Prop :=
  stripChars isPySpace text ≠ ""

instance (text : String) : Decidable (IsPresent text) :=
  inferInstanceAs (Decidable (_ ≠ _))

/-- What `__post_init__` asks of an identity; times are aware here. -/
def IdentityContext.WellFormed (identity : IdentityContext) : Prop :=
  IsPresent identity.subject ∧ IsPresent identity.issuer ∧ identity.audience ≠ []

instance (identity : IdentityContext) : Decidable identity.WellFormed :=
  inferInstanceAs (Decidable (_ ∧ _ ∧ _))

def IdentityContext.representedSubject (identity : IdentityContext) : String :=
  match identity.onBehalfOfSubject with
  | none => identity.subject
  | some subject => if subject = "" then identity.subject else subject

/-- `sorted(set(items))`. -/
def sortedSet (items : List String) : List String :=
  items.dedup.insertionSort (· ≤ ·)

@[simp] theorem mem_sortedSet {items : List String} {item : String} :
    item ∈ sortedSet items ↔ item ∈ items := by
  rw [sortedSet, List.mem_insertionSort, List.mem_dedup]

inductive Role where
  | viewer | analyst | governanceReviewer | administrator
  deriving DecidableEq, Repr

def Role.value : Role → String
  | .viewer => "viewer"
  | .analyst => "analyst"
  | .governanceReviewer => "governance_reviewer"
  | .administrator => "administrator"

def Role.all : List Role :=
  [.viewer, .analyst, .governanceReviewer, .administrator]

/-- `Role(value)`. -/
def Role.ofValue? (value : String) : Option Role :=
  Role.all.find? (·.value = value)

def baselinePermissions : List Permission :=
  [.sessionSelfRead, .sessionSelfRevoke, .profileSelfRead, .canonicalRead, .reportingRead]

def analystPermissions : List Permission :=
  [.intelligenceWrite, .enrichmentWrite, .scoringWrite, .watchWrite, .crmExport,
    .sequenceWrite, .meetingWrite, .assignedWorkWrite]

def governancePermissions : List Permission :=
  [.governanceRead, .governanceAnnotate, .governanceDecide, .governanceOverride,
    .suppressionWrite]

def adminOnlyPermissions : List Permission :=
  [.securityAdmin, .securityAuditRead, .metricsRead, .docsRead]

/-- `ROLE_PERMISSIONS`. -/
def rolePermissions : Role → List Permission
  | .viewer => baselinePermissions
  | .analyst => baselinePermissions ++ analystPermissions
  | .governanceReviewer => baselinePermissions ++ governancePermissions
  | .administrator =>
    baselinePermissions ++ analystPermissions ++ governancePermissions ++ adminOnlyPermissions

/-- `permissions_for_roles`: unknown roles contribute nothing. -/
def permissionsForRoles (roles : List String) : List String :=
  ((roles.filterMap Role.ofValue?).flatMap fun role =>
    (rolePermissions role).map Permission.value).dedup

/-- `_assurance_satisfies`. -/
def assuranceSatisfies (actual required : AssuranceLevel) : Bool :=
  match required, actual with
  | .workload, _ => actual = .workload
  | _, .workload => false
  | .phishingResistant, _ => actual = .phishingResistant
  | .emailOtp, _ => actual = .emailOtp ∨ actual = .phishingResistant

/-- `authentication_age_seconds(now) > limit`. -/
def olderThan (identity : IdentityContext) (limit : Nat) (now : Micros) : Bool :=
  max 0 (now - identity.authenticatedAt) > limit * 1000000

/-- `authorize`: `none` when allowed, else the code of the denial. -/
def authorize (identity : IdentityContext) (permission : Permission)
    (minimumAssurance : AssuranceLevel) (maximumAge : Option Nat) (now : Micros) :
    Option String :=
  if permission.value ∉ identity.permissions then some "permission_denied"
  else if !assuranceSatisfies identity.assurance minimumAssurance then
    some "step_up_required"
  else if maximumAge.any (olderThan identity · now) then
    some "recent_authentication_required"
  else none

inductive AuthenticationMode where
  | publicAccess | human | service | humanOrService | serviceWithObo
  deriving DecidableEq, Repr

/-- The entries of `OperationPolicy` that the router reads. -/
structure OperationPolicy where
  operationId : String
  owner : String
  permission : Option Permission
  authentication : AuthenticationMode
  assurance : Option AssuranceLevel
  csrf : Bool
  allowedCallers : List String := []
  maximumAuthenticationAgeSeconds : Option Nat := none
  deriving DecidableEq, Repr

/-- Methods that change nothing. -/
def safeMethods : List String :=
  ["GET", "HEAD", "OPTIONS"]

def startsWithAny (name : String) (heads : List String) : Bool :=
  heads.any fun head => head.toList.isPrefixOf name.toList

def endsWithAny (name : String) (tails : List String) : Bool :=
  tails.any fun tail => tail.toList.isSuffixOf name.toList

/-- `_READ_NAMES`. -/
def readNames : List String :=
  ["intelligence_events", "intelligence_event_detail", "intelligence_event_participants",
    "intelligence_participants", "intelligence_incidents", "intelligence_incident_detail",
    "intelligence_watch_targets", "intelligence_watch_target_detail",
    "enrichment_entity_resolutions", "enrichment_contact_candidates",
    "sequence_activity_list", "sequence_activity_detail", "sequence_list", "sequence_detail",
    "sequence_crm_prospect_list", "sequence_enrollment_list", "sequence_enrollment_detail",
    "meeting_list", "meeting_detail", "crm_export_detail", "source_health", "service_map"]

/-- Reading is canonical, anything else needs the given permission. -/
def readOr (name : String) (permission : Permission) : Permission :=
  if name ∈ readNames then .canonicalRead else permission

/-- The owner and the permission of a domain route, by its name and method. -/
def classifyOwner (name method : String) : Permission × String :=
  if startsWithAny name ["reporting_"] ∨ name = "kpi_catalog" then
    (.reportingRead, "reporting-service")
  else if startsWithAny name ["review_", "governance_", "suppression_"] then
    if method = "GET" then (.governanceRead, "governance-service")
    else if endsWithAny name ["approve", "reject", "bulk_decision"] ∨
        startsWithAny name ["governance_"] then
      (.governanceDecide, "governance-service")
    else (.governanceAnnotate, "governance-service")
  else if startsWithAny name ["sequence_"] then
    (readOr name .sequenceWrite, "sequencing-service")
  else if startsWithAny name ["meeting_", "calendar_", "prep_packet"] then
    (readOr name .meetingWrite, "meeting-handoff-service")
  else if startsWithAny name ["crm_"] then (readOr name .crmExport, "crm-service")
  else if startsWithAny name ["enrichment_", "email_"] then
    (readOr name .enrichmentWrite,
      if startsWithAny name ["email_"] then "email-intelligence-service"
      else "enrichment-service")
  else if name ∈ ["candidate_score", "lead_score"] then
    (.scoringWrite, "scoring-routing-service")
  else if occursIn "incident" name ∨ occursIn "watch_target" name then
    (readOr name .intelligenceWrite, "incident-intelligence-service")
  else (readOr name .intelligenceWrite, "event-intelligence-service")

/-- `classify_domain_operation`; the method is the first of the route's own, in
alphabetical order. -/
def classifyDomainOperation (name method : String) : OperationPolicy :=
  let (permission, owner) := classifyOwner name method
  let privileged := permission = .governanceDecide ∨ permission = .governanceOverride ∨
    permission = .securityAdmin
  { operationId := "domain." ++ name
    owner
    permission := some permission
    authentication := .humanOrService
    assurance := some (if privileged then .phishingResistant else .emailOtp)
    csrf := method ∉ safeMethods
    allowedCallers := ["gateway-service", "console-service"]
    maximumAuthenticationAgeSeconds := if privileged then some 900 else none }

/-- No domain operation is owned by the gateway. -/
theorem classifyOwner_elsewhere (name method : String) :
    (classifyOwner name method).2 ≠ "gateway-service" := by
  unfold classifyOwner
  repeat' split
  all_goals simp

end GhostRecon.Security
