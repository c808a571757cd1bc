import GhostRecon.Security.Policy
import GhostRecon.Lib.Table
import GhostRecon.Lib.Run
import GhostRecon.Lib.Calendar

/-!
The session store: principals, their role bindings and revocable sessions. Each
operation of the repository is one transaction; one that raises or violates a
constraint leaves the store as it was. Calls of different requests interleave
transaction by transaction, and a request may hold a principal it read a while
ago.
-/

namespace GhostRecon.Security

open Lib (Table)

structure SecurityPrincipal where
  id : String
  issuer : String
  subject : String
  actorLabel : String
  email : Option String := none
  emailVerified : Bool := false
  disabled : Bool := false
  roleCeiling : List String := []
  mappingVersion : String
  policyVersion : String
  deriving DecidableEq, Repr

structure SecurityRoleBinding where
  principalId : String
  role : String
  grantedBySubject : String
  reason : String
  expiresAt : Option Micros := none
  deriving DecidableEq, Repr

structure SecuritySession where
  id : String
  principalId : String
  identifierDigest : String
  csrfDigest : String
  authenticationMethod : String
  assurance : AssuranceLevel
  authenticatedAt : Micros
  providerRolesRefreshedAt : Micros
  providerRoles : List String
  lastSeenAt : Micros
  rotateAfter : Micros
  idleExpiresAt : Micros
  absoluteExpiresAt : Micros
  remembered : Bool
  revokedAt : Option Micros := none
  revocationReason : Option String := none
  mappingVersion : String
  policyVersion : String
  deriving DecidableEq, Repr

structure SecurityStore where
  principals : Table SecurityPrincipal := []
  bindings : Table SecurityRoleBinding := []
  sessions : Table SecuritySession := []
  deriving DecidableEq, Repr

/-- The unique constraints, the foreign keys and the column widths. -/
def SecurityStore.constraints (s : SecurityStore) : Bool :=
  s.principals.uniqueOn (fun row => some row.id) &&
  s.principals.uniqueOn (fun row => some (row.issuer, row.subject)) &&
  s.bindings.uniqueOn (fun row => some (row.principalId, row.role)) &&
  s.sessions.uniqueOn (fun row => some row.id) &&
  s.sessions.uniqueOn (fun row => some row.identifierDigest) &&
  (s.bindings.all fun row => s.principals.any (·.id = row.principalId)) &&
  (s.sessions.all fun row => s.principals.any (·.id = row.principalId)) &&
  (s.principals.all fun row => row.issuer.length ≤ 512 ∧ row.subject.length ≤ 255) &&
  (s.bindings.all fun row => row.role.length ≤ 64 ∧ row.grantedBySubject.length ≤ 255) &&
  (s.sessions.all fun row => row.authenticationMethod.length ≤ 128)

inductive SecurityError where
  /-- `PermissionError`. -/
  | notProvisioned | principalDisabled
  /-- `ValueError`. -/
  | weakKey | invalidIdentity
  /-- `RuntimeError`. -/
  | versionConflict
  /-- The database refuses the rows. -/
  | integrity
  deriving DecidableEq, Repr

/-- What a transaction gives: its result and the store it commits, or an error
and nothing committed. -/
abbrev Outcome (α : Type) := Except SecurityError (α × SecurityStore)

/-- Commit: the constraints of the new rows are checked. -/
def commit {α : Type} (result : α) (s : SecurityStore) : Outcome α :=
  if s.constraints then .ok (result, s) else .error .integrity

/-- `POLICY_VERSION`. -/
def policyVersion : String := "sprint25.v1"

structure SessionSettings where
  hmacKey : String
  oidcClientId : Option String := none
  profile : String := "production"
  sessionIdleSeconds : Nat := 28800
  sessionAbsoluteSeconds : Nat := 86400
  rememberedSessionIdleSeconds : Nat := 604800
  rememberedSessionAbsoluteSeconds : Nat := 2592000
  sessionRotationSeconds : Nat := 900

/-- The settings and the keyed hash (key, then text). -/
structure SessionConfig where
  settings : SessionSettings
  hmac : String → String → String

def seconds (n : Nat) : Micros := n * 1000000

/-- Text cut to a number of characters. -/
def clip (n : Nat) (text : String) : String :=
  String.ofList (text.toList.take n)

section Repository

variable (config : SessionConfig)

/-- `digest_secret` under the repository's key. -/
def SessionConfig.digest (text : String) : String :=
  config.hmac config.settings.hmacKey text

def SessionConfig.idleSeconds (remembered : Bool) : Nat :=
  if remembered then config.settings.rememberedSessionIdleSeconds
  else config.settings.sessionIdleSeconds

def SessionConfig.absoluteSeconds (remembered : Bool) : Nat :=
  if remembered then config.settings.rememberedSessionAbsoluteSeconds
  else config.settings.sessionAbsoluteSeconds

def SecurityStore.principal? (s : SecurityStore) (id : String) : Option SecurityPrincipal :=
  s.principals.find? (·.id = id)

/-- The claims of an identity token that provisioning reads. -/
structure ProvisionClaims where
  issuer : String
  subject : String
  email : Option String := none
  emailVerified : Bool := false
  deriving DecidableEq, Repr

/-- `text or None`, cut to the width of its column. -/
def ProvisionClaims.emailColumn (claims : ProvisionClaims) : Option String :=
  (claims.email.bind nonEmpty).map (clip 320)

/-- `provision_from_claims`; `newId` is the key a created principal would take. -/
def provisionFromClaims (claims : ProvisionClaims) (providerRoles : List String)
    (allowCreate : Bool) (newId : String) (s : SecurityStore) : Outcome SecurityPrincipal :=
  match s.principals.find? (fun row => row.issuer = claims.issuer ∧ row.subject = claims.subject) with
  | some principal =>
    if principal.disabled then .error .principalDisabled else .ok (principal, s)
  | none =>
    if !allowCreate then .error .notProvisioned
    else
      let principal : SecurityPrincipal :=
        { id := newId
          issuer := claims.issuer
          subject := claims.subject
          actorLabel := clip 255 ((claims.email.bind nonEmpty).getD claims.subject)
          email := claims.emailColumn
          emailVerified := claims.emailVerified
          roleCeiling := sortedSet providerRoles
          mappingVersion := "oidc.v1"
          policyVersion := policyVersion }
      commit principal
        { s with
          principals := s.principals ++ [principal]
          bindings := s.bindings ++ (sortedSet providerRoles).map fun role =>
            { principalId := newId
              role
              grantedBySubject := claims.subject
              reason := "initial deterministic local provisioning" } }

/-- What a login passes to `create_session` besides the principal. -/
structure SessionRequest where
  authenticationMethod : String
  assurance : AssuranceLevel
  providerRoles : List String
  remembered : Bool := false
  authenticatedAt : Micros
  deriving DecidableEq, Repr

/-- `csrf_token_for_session`. -/
def SessionConfig.csrfToken (identifier : String) : String :=
  config.digest (identifier ++ ":csrf")

/-- The row `create_session` adds, for a random identifier and key. -/
def newSession (principal : SecurityPrincipal) (request : SessionRequest)
    (id identifier : String) (now : Micros) : SecuritySession where
  id
  principalId := principal.id
  identifierDigest := config.digest identifier
  csrfDigest := config.digest (config.csrfToken identifier)
  authenticationMethod := request.authenticationMethod
  assurance := request.assurance
  authenticatedAt := request.authenticatedAt
  providerRolesRefreshedAt := now
  providerRoles := sortedSet request.providerRoles
  lastSeenAt := now
  rotateAfter := now + seconds config.settings.sessionRotationSeconds
  idleExpiresAt := now + seconds (config.idleSeconds request.remembered)
  absoluteExpiresAt := now + seconds (config.absoluteSeconds request.remembered)
  remembered := request.remembered
  mappingVersion := principal.mappingVersion
  policyVersion := principal.policyVersion

/-- `create_session`. -/
def createSession (principal : SecurityPrincipal) (request : SessionRequest)
    (id identifier : String) (now : Micros) (s : SecurityStore) : Outcome SecuritySession :=
  if config.settings.hmacKey.utf8ByteSize < 32 then .error .weakKey
  else
    let record := newSession config principal request id identifier now
    commit record { s with sessions := s.sessions ++ [record] }

/-- Bindings of a principal that have not expired, as a set of roles. -/
def SecurityStore.grantedRoles (s : SecurityStore) (principalId : String) (now : Micros) :
    List String :=
  (s.bindings.filter fun row =>
    row.principalId = principalId && row.expiresAt.all (now < ·)).map (·.role)

/-- The row revoked, if it was not before. -/
def SecuritySession.revoked (row : SecuritySession) (now : Micros) (reason : String) :
    SecuritySession :=
  if row.revokedAt = none then
    { row with revokedAt := some now, revocationReason := some reason }
  else row

/-- `UPDATE security_sessions SET revoked_at, revocation_reason`, for the rows
of a filter that are not revoked yet. -/
def SecurityStore.revokeWhere (s : SecurityStore) (hit : SecuritySession → Bool) (now : Micros)
    (reason : String) : SecurityStore :=
  { s with sessions := s.sessions.map fun row => bif hit row then row.revoked now reason else row }

/-- The session and its principal as `resolve` joins them. -/
def SecurityStore.sessionRow (s : SecurityStore) (digest : String) :
    Option (SecuritySession × SecurityPrincipal) := do
  let record ← s.sessions.find? (·.identifierDigest = digest)
  let principal ← s.principal? record.principalId
  return (record, principal)

/-- The session may not be used any more. -/
def Refused (record : SecuritySession) (principal : SecurityPrincipal) (now : Micros) : Prop :=
  record.revokedAt ≠ none ∨ principal.disabled = true ∨ record.idleExpiresAt ≤ now ∨
    record.absoluteExpiresAt ≤ now ∨ record.mappingVersion ≠ principal.mappingVersion ∨
    record.policyVersion ≠ principal.policyVersion

instance (record : SecuritySession) (principal : SecurityPrincipal) (now : Micros) :
    Decidable (Refused record principal now) :=
  inferInstanceAs (Decidable (_ ∨ _ ∨ _ ∨ _ ∨ _ ∨ _))

/-- The record with its idle expiry moved on. -/
def SecuritySession.seen (record : SecuritySession) (now : Micros) : SecuritySession :=
  { record with
    lastSeenAt := now
    idleExpiresAt :=
      min (now + seconds (config.idleSeconds record.remembered)) record.absoluteExpiresAt }

/-- The identity of a session that may be used; the times are those after the
idle expiry has been moved on. -/
def sessionIdentity (record : SecuritySession) (principal : SecurityPrincipal)
    (roles : List String) (correlationId : String) : IdentityContext where
  subject := principal.subject
  actorLabel := principal.actorLabel
  issuer := principal.issuer
  audience := [(config.settings.oidcClientId.bind nonEmpty).getD "ghostrecon-gateway"]
  roles
  permissions := permissionsForRoles roles
  authenticationMethod := record.authenticationMethod
  authenticatedAt := record.authenticatedAt
  assurance := record.assurance
  sessionId := some record.id
  correlationId
  requestId := correlationId
  claimMappingVersion := record.mappingVersion
  permissionPolicyVersion := record.policyVersion
  environment := config.settings.profile
  emailVerified := some principal.emailVerified
  attributes :=
    [("csrf_digest", record.csrfDigest),
      ("idle_expires_at", Lib.Calendar.epochText record.idleExpiresAt),
      ("absolute_expires_at", Lib.Calendar.epochText record.absoluteExpiresAt),
      ("provider_roles_refreshed_at",
        Lib.Calendar.epochText record.providerRolesRefreshedAt)]

/-- `resolve`. A session that may not be used is revoked on the way out; an
identity that its class rejects rolls the transaction back. -/
def resolve (rawIdentifier correlationId : String) (now : Micros) (s : SecurityStore) :
    Outcome (Option IdentityContext) :=
  match s.sessionRow (config.digest rawIdentifier) with
  | none => .ok (none, s)
  | some (record, principal) =>
    if Refused record principal now then
      .ok (none, s.revokeWhere (·.id = record.id) now "expired_or_invalidated")
    else
      let roles := (s.grantedRoles principal.id now).filter fun role =>
        role ∈ record.providerRoles ∧ role ∈ principal.roleCeiling
      let identity :=
        sessionIdentity config (record.seen config now) principal roles correlationId
      if identity.WellFormed then
        commit (some identity)
          { s with sessions := s.sessions.map fun row =>
              if row.id = record.id then row.seen config now else row }
      else .error .invalidIdentity

/-- `revoke`: whether a row was changed. -/
def revoke (sessionId reason : String) (now : Micros) (s : SecurityStore) : Bool × SecurityStore :=
  (s.sessions.any fun row => row.id = sessionId ∧ row.revokedAt = none,
    s.revokeWhere (·.id = sessionId) now (clip 255 reason))

/-- Whether a session belongs to a principal with the subject. -/
def SecurityStore.ownedBy (s : SecurityStore) (subject : String) (row : SecuritySession) : Bool :=
  s.principals.any fun principal => principal.id = row.principalId ∧ principal.subject = subject

/-- `revoke_subject`. -/
def revokeSubject (subject reason : String) (now : Micros) (s : SecurityStore) :
    Nat × SecurityStore :=
  (s.sessions.countP fun row => s.ownedBy subject row ∧ row.revokedAt = none,
    s.revokeWhere (s.ownedBy subject) now (clip 255 reason))

/-- `revoke_principal_sessions`. -/
def revokePrincipalSessions (principalId reason : String) (now : Micros) (s : SecurityStore) :
    Nat × SecurityStore :=
  (s.sessions.countP fun row => row.principalId = principalId ∧ row.revokedAt = none,
    s.revokeWhere (·.principalId = principalId) now (clip 255 reason))

/-- The arguments of `update_principal`. -/
structure PrincipalUpdate where
  principalId : String
  disabled : Bool
  roles : List String
  expectedMappingVersion : String
  actorSubject : String
  reason : String
  deriving DecidableEq, Repr

/-- The row `update_principal` leaves; `uuid` is the random part of its version. -/
def PrincipalUpdate.apply (update : PrincipalUpdate) (uuid : String)
    (principal : SecurityPrincipal) : SecurityPrincipal :=
  { principal with
    disabled := update.disabled
    roleCeiling := sortedSet update.roles
    mappingVersion := "admin-" ++ uuid }

/-- The store `update_principal` commits. -/
def PrincipalUpdate.store (update : PrincipalUpdate) (uuid : String) (now : Micros)
    (s : SecurityStore) : SecurityStore :=
  SecurityStore.revokeWhere
    { s with
      principals := s.principals.map fun row =>
        if row.id = update.principalId then update.apply uuid row else row
      bindings := s.bindings.filter (·.principalId ≠ update.principalId) ++
        (sortedSet update.roles).map fun role =>
          { principalId := update.principalId
            role
            grantedBySubject := update.actorSubject
            reason := clip 512 update.reason } }
    (·.principalId = update.principalId) now "principal_changed"

/-- `update_principal`. -/
def updatePrincipal (update : PrincipalUpdate) (uuid : String) (now : Micros)
    (s : SecurityStore) : Outcome (Option SecurityPrincipal) :=
  match s.principal? update.principalId with
  | none => .ok (none, s)
  | some principal =>
    if principal.mappingVersion ≠ update.expectedMappingVersion then .error .versionConflict
    else commit (some (update.apply uuid principal)) (update.store uuid now s)

end Repository

end GhostRecon.Security
