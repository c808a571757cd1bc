import GhostRecon.Security.Jwt
import GhostRecon.Lib.Expiring

/-!
Workload identities. A service signs a token in its own name and, for a person
it acts for, a second one that carries the person's identity and one operation.
The receiver looks for the caller among the workloads it trusts, verifies the
second token under the caller's keys, takes it at most once and builds the
represented identity from its claims.
-/

namespace GhostRecon.Security

open Lib (Expiring)

structure TrustedWorkload where
  issuer : String
  publicKeys : List (String × String)
  deriving DecidableEq, Repr

structure WorkloadSettings where
  profile : String
  serviceName : String
  serviceIdentity : Option String
  privateKey : String := ""
  privateKeyId : Option String := none
  tokenLifetimeSeconds : Nat := 120
  /-- The trust bundle, in its order. -/
  bundle : List (String × TrustedWorkload) := []
  deriving DecidableEq, Repr

def serviceJwtPurpose : String := "ghostrecon-service+jwt"
def oboJwtPurpose : String := "ghostrecon-obo+jwt"

/-- The replay markers in Redis. -/
abbrev ReplayStore := Expiring String Unit

/-- What `WorkloadVerifier.resolve` reads of a request. -/
structure WorkloadRequest (τ : Type) where
  serviceToken : Option τ
  oboToken : Option τ
  correlationId : String

def AssuranceLevel.ofValue? (value : String) : Option AssuranceLevel :=
  [AssuranceLevel.emailOtp, .phishingResistant, .workload].find? (·.value = value)

@[simp] theorem AssuranceLevel.ofValue?_value (level : AssuranceLevel) :
    AssuranceLevel.ofValue? level.value = some level := by
  cases level <;> decide

/-- `RedisReplayDetector.consume`: whether the marker was new. -/
def replayConsume (purpose jti : String) (expiresInSeconds : Int) (now : Micros)
    (markers : ReplayStore) : Bool × ReplayStore :=
  if purpose = "" ∨ jti = "" ∨ expiresInSeconds ≤ 0 then (false, markers)
  else
    markers.setNew now ("ghostrecon:security:replay:" ++ purpose ++ ":" ++ jti) ()
      (now + expiresInSeconds * 1000000)

section Signer

variable {τ : Type} (tools : TokenTools τ) (settings : WorkloadSettings)

/-- `urn:ghostrecon:<profile>:service:<name>`. -/
def WorkloadSettings.serviceUrn (name : String) : String :=
  "urn:ghostrecon:" ++ settings.profile ++ ":service:" ++ name

/-- `WorkloadSigner.service_token`; an unconfigured signer raises. -/
def serviceToken (receiver jti : String) (now : Micros) : Option τ := do
  let identity ← settings.serviceIdentity.bind nonEmpty
  let claims ← serviceClaims identity settings.profile receiver settings.tokenLifetimeSeconds jti now
  let kid ← settings.privateKeyId.bind nonEmpty
  return signEddsa tools claims settings.privateKey kid serviceJwtPurpose

/-- `WorkloadSigner.obo_token`. -/
def oboToken (identity : IdentityContext) (policyOwner operation jti : String) (now : Micros) :
    Option τ := do
  let workload ← settings.serviceIdentity.bind nonEmpty
  let kid ← settings.privateKeyId.bind nonEmpty
  let claims := oboClaims ("urn:ghostrecon:" ++ settings.profile ++ ":workload:" ++ workload)
    (settings.serviceUrn policyOwner) operation identity jti now
  return signEddsa tools claims settings.privateKey kid oboJwtPurpose

end Signer

section Verifier

variable {τ : Type} (tools : TokenTools τ) (settings : WorkloadSettings)

/-- `_verify_service`: the first workload of the bundle whose keys accept it. -/
def verifyService (token : τ) (now : Micros) :
    List (String × TrustedWorkload) → Except TokenError (Json × String × TrustedWorkload)
  | [] => .error (.validation "untrusted workload")
  | (caller, trusted) :: rest =>
    match verifyEddsa tools token trusted.publicKeys serviceJwtPurpose trusted.issuer
      (settings.serviceUrn settings.serviceName) 300 now with
    | .ok claims => .ok (claims, caller, trusted)
    | .error (.validation _) => verifyService token now rest
    | .error .crash => .error .crash

/-- `str(claims[key])`. -/
def textClaim (claims : Json) (key : String) : Except TokenError String :=
  match claims.get? key with
  | none => .error .crash
  | some value => .ok (tools.str value)

/-- `_string_list`. -/
def stringList (value : Option Json) : Except TokenError (List String) :=
  match value with
  | some (.arr items) =>
    match items.mapM fun item => match item with
      | .str text => some text
      | _ => none with
    | some texts => .ok texts
    | none => .error (.validation "invalid represented identity")
  | _ => .error (.validation "invalid represented identity")

/-- `datetime.fromtimestamp(int(claims[key]), UTC)`. -/
def instantClaim (claims : Json) (key : String) : Except TokenError Micros :=
  match claims.get? key with
  | none => .error .crash
  | some value =>
    match value.toInt tools.intOfText with
    | .error .valueError => .error (.validation "invalid literal")
    | .error _ => .error .crash
    | .ok seconds =>
      if Lib.Calendar.Representable (seconds * 1000000) then .ok (seconds * 1000000)
      else .error .crash

def assuranceClaim (claims : Json) : Except TokenError AssuranceLevel := do
  match AssuranceLevel.ofValue? (← textClaim tools claims "assurance") with
  | some level => .ok level
  | none => .error (.validation "not an assurance level")

/-- The checks of the identity's own class. -/
def checkedIdentity (identity : IdentityContext) : Except TokenError IdentityContext :=
  if identity.WellFormed then .ok identity else .error (.validation "invalid identity")

/-- The represented identity of verified claims. -/
def oboIdentity (claims : Json) (caller correlationId : String) :
    Except TokenError IdentityContext := do
  let subject ← textClaim tools claims "sub"
  let issuer ← textClaim tools claims "iss"
  let roles ← stringList (claims.get? "roles")
  let permissions ← stringList (claims.get? "permissions")
  let authenticationMethod ← textClaim tools claims "authentication_method"
  let authenticatedAt ← instantClaim tools claims "authenticated_at"
  let assurance ← assuranceClaim tools claims
  let correlation ← textClaim tools claims "correlation_id"
  let mappingVersion ← textClaim tools claims "mapping_version"
  let policyVersion ← textClaim tools claims "policy_version"
  let operation ← textClaim tools claims "operation"
  checkedIdentity
    { subject
      actorLabel := subject
      issuer
      audience := [settings.serviceUrn settings.serviceName]
      roles
      permissions
      callingService := some caller
      onBehalfOfSubject := some subject
      authenticationMethod
      authenticatedAt
      assurance
      correlationId := correlation
      requestId := correlationId
      claimMappingVersion := mappingVersion
      permissionPolicyVersion := policyVersion
      environment := settings.profile
      attributes := [("obo_operation", operation)] }

/-- `_service_identity`. -/
def serviceIdentity (claims : Json) (caller correlationId : String) :
    Except TokenError IdentityContext := do
  let issuedAt ← instantClaim tools claims "iat"
  let subject ← textClaim tools claims "sub"
  let issuer ← textClaim tools claims "iss"
  let audience ← textClaim tools claims "aud"
  checkedIdentity
    { identityType := .service
      subject
      actorLabel := caller
      issuer
      audience := [audience]
      permissions := permissionsForRoles []
      callingService := some caller
      authenticationMethod := "eddsa_workload_jwt"
      authenticatedAt := issuedAt
      assurance := .workload
      correlationId
      requestId := correlationId
      claimMappingVersion := "workload.v1"
      permissionPolicyVersion := "sprint25b.v1"
      environment := settings.profile }

/-- Seconds until the marker of a token disappears: `max(1, exp - now)`. -/
def markerSeconds (claims : Json) (now : Micros) : Except TokenError Int :=
  match timeClaim tools claims "exp" with
  | .ok expiresAt => .ok (max 1 (expiresAt - epochSeconds now))
  | .error _ => .error .crash

/-- A verified token is taken once, then read. -/
def acceptObo (claims : Json) (caller correlationId : String) (now : Micros)
    (markers : ReplayStore) : Except TokenError IdentityContext × ReplayStore :=
  match markerSeconds tools claims now with
  | .error e => (.error e, markers)
  | .ok lifetime =>
    match replayConsume "obo" ((filledText? claims "jti").getD "") lifetime now markers with
    | (false, markers') => (.error (.validation "replayed represented identity"), markers')
    | (true, markers') => (oboIdentity tools settings claims caller correlationId, markers')

/-- `WorkloadVerifier.resolve` with a replay detector; `none` when there is no
service token. -/
def resolveWorkload (request : WorkloadRequest τ) (now : Micros) (markers : ReplayStore) :
    Except TokenError (Option IdentityContext) × ReplayStore :=
  match request.serviceToken with
  | none => (.ok none, markers)
  | some service =>
    match verifyService tools settings service now settings.bundle with
    | .error e => (.error e, markers)
    | .ok (serviceClaims, caller, trusted) =>
      match request.oboToken with
      | none =>
        ((serviceIdentity tools settings serviceClaims caller request.correlationId).map some,
          markers)
      | some obo =>
        match verifyEddsa tools obo trusted.publicKeys oboJwtPurpose trusted.issuer
          (settings.serviceUrn settings.serviceName) 45 now with
        | .error e => (.error e, markers)
        | .ok claims =>
          let (result, markers') :=
            acceptObo tools settings claims caller request.correlationId now markers
          (result.map some, markers')

end Verifier

end GhostRecon.Security
