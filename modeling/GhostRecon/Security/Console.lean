import GhostRecon.Security.Workload

/-!
The console. Its middleware verifies the workload that calls it and the person
the workload acts for; the pages behind the middleware read the person again,
from plain headers that the gateway sets, and sign tokens for that person when
they call the gateway. The theorem says for which requests the two agree.
-/

namespace GhostRecon.Security

/-- `request.headers.get`. -/
abbrev Headers := String → Option String

/-- `",".join(sorted(items))`. -/
def commaJoined (items : List String) : String :=
  ",".intercalate (sortedSet items)

/-- `filter(None, text.split(","))`. -/
def commaFields (text : String) : List String :=
  ((text.toList.splitOn ',').map String.ofList).filter (· ≠ "")

section Identity

variable (fromIsoformat : String → Option Micros) (settings : WorkloadSettings)

/-- `_verified_identity_from_headers`. The given reading of times returns the
aware ones; a malformed or naive time is an error of value like the others. -/
def verifiedIdentityFromHeaders (headers : Headers) : Option IdentityContext := do
  let subject ← (headers "X-GhostRecon-Verified-Subject").bind nonEmpty
  let authenticatedAt ← (headers "X-GhostRecon-Verified-Authenticated-At").bind nonEmpty
  let assurance ← (headers "X-GhostRecon-Verified-Assurance").bind nonEmpty
  let correlationId := (headers "X-GhostRecon-Verified-Correlation-ID").getD ""
  let authenticatedAt ← fromIsoformat authenticatedAt
  let assurance ← AssuranceLevel.ofValue? assurance
  let identity : IdentityContext :=
    { subject
      actorLabel := (headers "X-GhostRecon-Verified-Actor").getD subject
      issuer := "urn:ghostrecon:verified-gateway"
      audience := ["console-service"]
      roles := commaFields ((headers "X-GhostRecon-Verified-Roles").getD "")
      permissions := commaFields ((headers "X-GhostRecon-Verified-Permissions").getD "")
      callingService := some "console-service"
      onBehalfOfSubject := some subject
      authenticationMethod :=
        (headers "X-GhostRecon-Verified-Authentication-Method").getD "oidc"
      authenticatedAt
      assurance
      correlationId
      requestId := correlationId
      claimMappingVersion := "console.forwarded.v1"
      permissionPolicyVersion := "sprint25b.v1"
      environment := settings.profile }
  if identity.WellFormed then some identity else none

end Identity

/-- The headers `forward_to_console` sets besides the tokens. Those of the
browser's request with the same names are dropped. -/
def verifiedHeaders (identity : IdentityContext) : Headers := fun name =>
  List.lookup name
    [("X-GhostRecon-Verified-Actor", identity.actorLabel),
      ("X-GhostRecon-Verified-Subject", identity.representedSubject),
      ("X-GhostRecon-Verified-Roles", commaJoined identity.roles),
      ("X-GhostRecon-Verified-Permissions", commaJoined identity.permissions),
      ("X-GhostRecon-Verified-Assurance", identity.assurance.value),
      ("X-GhostRecon-Verified-Authentication-Method", identity.authenticationMethod),
      ("X-GhostRecon-Verified-Authenticated-At",
        Lib.Calendar.epochText identity.authenticatedAt),
      ("X-GhostRecon-Verified-Correlation-ID", identity.correlationId),
      ("X-GhostRecon-Verified-Role", (sortedSet identity.roles).headD "viewer")]

/-- What `operation_id_for_request` reads of a registered policy: the method of
its contract and the template of its path. -/
structure RouteContract where
  operationId : String
  method : String
  template : String
  deriving DecidableEq, Repr

/-- A parameter of a template is a segment in braces and stands for any segment
that is not empty. -/
def segmentMatches (template segment : List Char) : Bool :=
  if template.head? = some '\x7b' ∧ template.getLast? = some '\x7d' ∧ 2 < template.length then
    segment ≠ []
  else template = segment

/-- `re.fullmatch` of a template with its parameters replaced. -/
def templateMatches (template path : String) : Bool :=
  let templates := template.toList.splitOn '/'
  let segments := path.toList.splitOn '/'
  templates.length = segments.length &&
    (templates.zip segments).all fun pair => segmentMatches pair.1 pair.2

/-- `operation_id_for_request`: the one domain operation that matches. -/
def operationIdForRequest (contracts : List RouteContract) (method path : String) :
    Option String :=
  match contracts.filter fun contract =>
    startsWithAny contract.operationId ["domain."] && contract.method = method.toUpper &&
      templateMatches contract.template path with
  | [contract] => some contract.operationId
  | _ => none

/-- A call of the gateway by a page, with the random texts of its tokens. -/
structure ApiCall where
  method : String
  path : String
  serviceJti : String
  oboJti : String
  now : Micros
  deriving DecidableEq, Repr

inductive ConsoleFailure where
  /-- `ConsoleApiError("verified console identity is unavailable")`. -/
  | identityUnavailable
  /-- The request has no unique operation policy. -/
  | unknownOperation
  /-- The signer is not configured. -/
  | signing
  deriving DecidableEq, Repr

/-- The service token and the token of the represented person. -/
structure SignedPair (τ : Type) where
  service : τ
  obo : τ

section Client

variable {τ : Type} (tools : TokenTools τ) (fromIsoformat : String → Option Micros)
  (settings : WorkloadSettings) (contracts : List RouteContract)

/-- The tokens of `ConsoleApiClient.headers` in a strict runtime, while serving
a request with the given headers. -/
def consoleHeaders (headers : Headers) (call : ApiCall) :
    Except ConsoleFailure (Option (SignedPair τ)) :=
  if call.path = "" then .ok none
  else
    match verifiedIdentityFromHeaders fromIsoformat settings headers with
    | none => .error .identityUnavailable
    | some identity =>
      match operationIdForRequest contracts call.method call.path with
      | none => .error .unknownOperation
      | some operation =>
        match serviceToken tools settings "gateway-service" call.serviceJti call.now,
          oboToken tools settings identity "gateway-service" operation call.oboJti call.now with
        | some service, some obo => .ok (some { service, obo })
        | _, _ => .error .signing

/-- A request to the console. -/
structure ConsoleRequest (τ : Type) where
  path : String
  workload : WorkloadRequest τ
  headers : Headers

/-- Paths that need no identity. -/
def publicPaths : List String :=
  ["/healthz", "/auth/login", "/auth/callback", "/auth/provider-logout/callback"]

inductive Admission where
  | refused (status : Nat) (code : String)
  | admitted (identity : Option IdentityContext)
  deriving DecidableEq

/-- `IdentityMiddleware.dispatch` of a strict service other than the gateway. -/
def identityMiddleware (request : ConsoleRequest τ) (now : Micros) (markers : ReplayStore) :
    Admission × ReplayStore :=
  if request.path ∈ publicPaths ∧ request.workload.serviceToken.isNone then
    (.admitted none, markers)
  else
    match resolveWorkload tools settings request.workload now markers with
    | (.ok (some identity), markers') => (.admitted (some identity), markers')
    | (.ok none, markers') => (.refused 401 "authentication_required", markers')
    | (.error (.validation _), markers') => (.refused 401 "invalid_authentication", markers')
    | (.error .crash, markers') => (.refused 500 "internal_error", markers')

end Client

/-- The person a workload was verified to act for. -/
def represented (identity : Option IdentityContext) : Option IdentityContext :=
  identity.filter (·.onBehalfOfSubject.isSome)

/-- The signer is configured, as a strict runtime requires at its start. -/
structure WorkloadSettings.CanSign (settings : WorkloadSettings) : Prop where
  identity : ∃ name, settings.serviceIdentity.bind nonEmpty = some name
  keyId : ∃ kid, settings.privateKeyId.bind nonEmpty = some kid
  lifetime : 1 ≤ settings.tokenLifetimeSeconds ∧ settings.tokenLifetimeSeconds ≤ 300

/-- Two identities are of one person with one authority. -/
structure Agrees (shown verified : IdentityContext) : Prop where
  subject : shown.representedSubject = verified.representedSubject
  roles : ∀ role, role ∈ shown.roles ↔ role ∈ verified.roles
  permissions : ∀ permission, permission ∈ shown.permissions ↔ permission ∈ verified.permissions
  assurance : shown.assurance = verified.assurance

/-- The token carries the subject, roles, permissions and assurance of the
identity. -/
def Names {τ : Type} (tools : TokenTools τ) (token : τ) (identity : IdentityContext) : Prop :=
  ∃ header claims, tools.decode token = some (header, claims) ∧
    claims.get? "sub" = some (.str identity.representedSubject) ∧
    claims.get? "roles" = some (.arr ((sortedSet identity.roles).map .str)) ∧
    claims.get? "permissions" = some (.arr ((sortedSet identity.permissions).map .str)) ∧
    claims.get? "assurance" = some (.str identity.assurance.value)

section Signed

/-- Two lists are the same set exactly when they sort to the same list. -/
theorem sortedSet_eq_iff {first second : List String} :
    sortedSet first = sortedSet second ↔ ∀ item, item ∈ first ↔ item ∈ second := by
  constructor
  · intro heq item
    rw [← mem_sortedSet, heq, mem_sortedSet]
  · intro hsame
    have hperm : first.dedup.Perm second.dedup := by
      rw [List.perm_ext_iff_of_nodup (List.nodup_dedup _) (List.nodup_dedup _)]
      intro item
      rw [List.mem_dedup, List.mem_dedup]
      exact hsame item
    have hsorted : (sortedSet first).Perm (sortedSet second) :=
      ((List.perm_insertionSort _ _).trans hperm).trans (List.perm_insertionSort _ _).symm
    exact hsorted.eq_of_pairwise' (List.pairwise_insertionSort _ _)
      (List.pairwise_insertionSort _ _)

theorem AssuranceLevel.value_injective {first second : AssuranceLevel}
    (h : first.value = second.value) : first = second := by
  have hread := congrArg AssuranceLevel.ofValue? h
  rw [AssuranceLevel.ofValue?_value, AssuranceLevel.ofValue?_value] at hread
  exact Option.some.inj hread

theorem texts_injective {first second : List String}
    (h : (Json.arr (first.map .str)) = .arr (second.map .str)) : first = second := by
  have hinjective : Function.Injective Json.str := fun _ _ heq => Json.str.inj heq
  exact List.map_injective_iff.mpr hinjective (Json.arr.inj h)

variable {τ : Type} {tools : TokenTools τ} {settings : WorkloadSettings}

/-- A token signed for one identity names another exactly when they agree. -/
theorem names_signed_iff (hfaithful : tools.Faithful) {shown verified : IdentityContext}
    (principal audience operation jti privateKey kid : String) (now : Micros) :
    Names tools (signEddsa tools (oboClaims principal audience operation shown jti now)
        privateKey kid oboJwtPurpose) verified ↔ Agrees shown verified := by
  obtain ⟨header, claims, hdecode, hclaims⟩ := hfaithful.decode_sign privateKey
    (.obj [("alg", .str "EdDSA"), ("kid", .str kid), ("typ", .str oboJwtPurpose)])
    (oboClaims principal audience operation shown jti now)
  have hsubject : claims.get? "sub" = some (.str shown.representedSubject) := by
    rw [hclaims]
    rfl
  have hroles : claims.get? "roles" = some (.arr ((sortedSet shown.roles).map .str)) := by
    rw [hclaims]
    rfl
  have hpermissions :
      claims.get? "permissions" = some (.arr ((sortedSet shown.permissions).map .str)) := by
    rw [hclaims]
    rfl
  have hassurance : claims.get? "assurance" = some (.str shown.assurance.value) := by
    rw [hclaims]
    rfl
  constructor
  · rintro ⟨header', claims', hdecode', hsubject', hroles', hpermissions', hassurance'⟩
    rw [signEddsa, hdecode] at hdecode'
    cases hdecode'
    rw [hsubject] at hsubject'
    rw [hroles] at hroles'
    rw [hpermissions] at hpermissions'
    rw [hassurance] at hassurance'
    exact
      { subject := Json.str.inj (Option.some.inj hsubject')
        roles := sortedSet_eq_iff.mp (texts_injective (Option.some.inj hroles'))
        permissions := sortedSet_eq_iff.mp (texts_injective (Option.some.inj hpermissions'))
        assurance := AssuranceLevel.value_injective
          (Json.str.inj (Option.some.inj hassurance')) }
  · intro hagrees
    refine ⟨header, claims, hdecode, ?_, ?_, ?_, ?_⟩
    · rw [hsubject, hagrees.subject]
    · rw [hroles, sortedSet_eq_iff.mpr hagrees.roles]
    · rw [hpermissions, sortedSet_eq_iff.mpr hagrees.permissions]
    · rw [hassurance, hagrees.assurance]

theorem oboToken_some {identity : IdentityContext} {owner operation jti : String} {now : Micros}
    {token : τ} (h : oboToken tools settings identity owner operation jti now = some token) :
    ∃ principal kid, token = signEddsa tools
      (oboClaims principal (settings.serviceUrn owner) operation identity jti now)
      settings.privateKey kid oboJwtPurpose := by
  unfold oboToken at h
  cases hname : settings.serviceIdentity.bind nonEmpty with
  | none => simp [hname] at h
  | some name =>
    cases hkid : settings.privateKeyId.bind nonEmpty with
    | none => simp [hname, hkid] at h
    | some kid =>
      simp only [hname, hkid, Option.bind_eq_bind, Option.bind_some, Option.pure_def,
        Option.some.injEq] at h
      exact ⟨_, kid, h.symm⟩

theorem WorkloadSettings.CanSign.oboToken (h : settings.CanSign) (tools : TokenTools τ)
    (identity : IdentityContext) (owner operation jti : String) (now : Micros) :
    ∃ token, Security.oboToken tools settings identity owner operation jti now = some token := by
  obtain ⟨name, hname⟩ := h.identity
  obtain ⟨kid, hkid⟩ := h.keyId
  simp [Security.oboToken, hname, hkid]

theorem WorkloadSettings.CanSign.serviceToken (h : settings.CanSign) (tools : TokenTools τ)
    (receiver jti : String) (now : Micros) :
    ∃ token, Security.serviceToken tools settings receiver jti now = some token := by
  obtain ⟨name, hname⟩ := h.identity
  obtain ⟨kid, hkid⟩ := h.keyId
  simp [Security.serviceToken, serviceClaims, hname, hkid, h.lifetime]

variable {fromIsoformat : String → Option Micros} {contracts : List RouteContract}
  {headers : Headers}

/-- What the console has read and signed when a call carries tokens. -/
theorem consoleHeaders_some {call : ApiCall} {pair : SignedPair τ}
    (h : consoleHeaders tools fromIsoformat settings contracts headers call = .ok (some pair)) :
    ∃ shown operation,
      verifiedIdentityFromHeaders fromIsoformat settings headers = some shown ∧
      operationIdForRequest contracts call.method call.path = some operation ∧
      serviceToken tools settings "gateway-service" call.serviceJti call.now =
        some pair.service ∧
      oboToken tools settings shown "gateway-service" operation call.oboJti call.now =
        some pair.obo := by
  unfold consoleHeaders at h
  split at h
  · cases h
  · split at h
    · cases h
    · next shown hshown =>
      split at h
      · cases h
      · next operation hoperation =>
        split at h
        · next service obo hservice hobo =>
          cases h
          exact ⟨shown, operation, hshown, hoperation, hservice, hobo⟩
        · cases h

/-- A configured console signs for whoever the headers show. -/
theorem consoleHeaders_signs (tools : TokenTools τ) (hsigner : settings.CanSign)
    {shown : IdentityContext}
    (hshown : verifiedIdentityFromHeaders fromIsoformat settings headers = some shown)
    (call : ApiCall) {operation : String} (hpath : call.path ≠ "")
    (hoperation : operationIdForRequest contracts call.method call.path = some operation) :
    ∃ pair : SignedPair τ,
      consoleHeaders tools fromIsoformat settings contracts headers call = .ok (some pair) ∧
      oboToken tools settings shown "gateway-service" operation call.oboJti call.now =
        some pair.obo := by
  obtain ⟨service, hservice⟩ := hsigner.serviceToken tools "gateway-service" call.serviceJti
    call.now
  obtain ⟨obo, hobo⟩ := hsigner.oboToken tools shown "gateway-service" operation call.oboJti
    call.now
  refine ⟨{ service, obo }, ?_, hobo⟩
  simp [consoleHeaders, hpath, hshown, hoperation, hservice, hobo]

/-- While serving a request that the middleware admitted, the console signs for
the person verified on that request and for nobody else, exactly when the
headers show no person or one who agrees with the verified one. -/
theorem console_signs_verified_iff (hfaithful : tools.Faithful) (hsigner : settings.CanSign)
    (hcontracts : ∃ method path operation, path ≠ "" ∧
      operationIdForRequest contracts method path = some operation)
    (request : ConsoleRequest τ) {now : Micros} {markers : ReplayStore}
    {identity : Option IdentityContext}
    (_hadmitted : (identityMiddleware tools settings request now markers).1 =
      .admitted identity) :
    (∀ call pair,
        consoleHeaders tools fromIsoformat settings contracts request.headers call =
          .ok (some pair) →
        ∃ verified, represented identity = some verified ∧ Names tools pair.obo verified) ↔
      ∀ shown, verifiedIdentityFromHeaders fromIsoformat settings request.headers = some shown →
        ∃ verified, represented identity = some verified ∧ Agrees shown verified := by
  constructor
  · intro hsigned shown hshown
    obtain ⟨method, path, operation, hpath, hoperation⟩ := hcontracts
    obtain ⟨pair, hpair, hobo⟩ := consoleHeaders_signs tools hsigner hshown
      { method, path, serviceJti := "", oboJti := "", now } hpath hoperation
    obtain ⟨verified, hverified, hnames⟩ := hsigned _ pair hpair
    obtain ⟨principal, kid, htoken⟩ := oboToken_some hobo
    rw [htoken] at hnames
    exact ⟨verified, hverified, (names_signed_iff hfaithful _ _ _ _ _ _ _).mp hnames⟩
  · intro hagrees call pair hpair
    obtain ⟨shown, operation, hshown, -, -, hobo⟩ := consoleHeaders_some hpair
    obtain ⟨verified, hverified, hagree⟩ := hagrees shown hshown
    obtain ⟨principal, kid, htoken⟩ := oboToken_some hobo
    refine ⟨verified, hverified, ?_⟩
    rw [htoken]
    exact (names_signed_iff hfaithful _ _ _ _ _ _ _).mpr hagree

end Signed

section Requests

def consoleSettings : WorkloadSettings where
  profile := "prod"
  serviceName := "console-service"
  serviceIdentity := some "console-service"
  privateKey := "console"
  privateKeyId := some "c1"
  bundle :=
    [("gateway-service",
        { issuer := "urn:ghostrecon:prod:workload:gateway-service"
          publicKeys := [("g1", "gateway")] }),
      ("reporting-service",
        { issuer := "urn:ghostrecon:prod:workload:reporting-service"
          publicKeys := [("r1", "reporting")] })]

theorem consoleSettings_canSign : consoleSettings.CanSign where
  identity := ⟨"console-service", by decide⟩
  keyId := ⟨"c1", by decide⟩
  lifetime := by decide

/-- Another workload that the console trusts. -/
def reportingSettings : WorkloadSettings where
  profile := "prod"
  serviceName := "reporting-service"
  serviceIdentity := some "reporting-service"
  privateKey := "reporting"
  privateKeyId := some "r1"

def gatewaySettings : WorkloadSettings where
  profile := "prod"
  serviceName := "gateway-service"
  serviceIdentity := some "gateway-service"
  privateKey := "gateway"
  privateKeyId := some "g1"

def meetingContracts : List RouteContract :=
  [{ operationId := "domain.meeting_list", method := "GET", template := "/v1/meetings" },
    { operationId := "domain.meeting_detail", method := "GET"
      template := "/v1/meetings/\x7bmeeting_id\x7d" }]

example : operationIdForRequest meetingContracts "get" "/v1/meetings/m-1" =
    some "domain.meeting_detail" := by
  decide +kernel

theorem meetingContracts_known : ∃ method path operation, path ≠ "" ∧
    operationIdForRequest meetingContracts method path = some operation :=
  ⟨"GET", "/v1/meetings", "domain.meeting_list", by decide, by decide +kernel⟩

def administratorIdentity : IdentityContext where
  subject := "admin"
  actorLabel := "admin"
  issuer := "https://idp"
  audience := ["ghostrecon"]
  roles := ["administrator"]
  permissions := ["canonical.read", "security.admin"]
  authenticationMethod := "oidc"
  authenticatedAt := 0
  assurance := .phishingResistant
  correlationId := "c-1"
  claimMappingVersion := "m1"
  permissionPolicyVersion := "p1"
  environment := "prod"

/-- The reporting service calls in its own name, with the headers of a person. -/
def forgedRequest : ConsoleRequest (String × Json × Json) where
  path := "/_dash-update-component"
  workload :=
    { serviceToken := serviceToken plainTools reportingSettings "console-service" "s-1" 0
      oboToken := none
      correlationId := "c-1" }
  headers := verifiedHeaders administratorIdentity

/-- The gateway forwards a request of the same person. -/
def gatewayRequest : ConsoleRequest (String × Json × Json) where
  path := "/_dash-update-component"
  workload :=
    { serviceToken := serviceToken plainTools gatewaySettings "console-service" "s-1" 0
      oboToken := oboToken plainTools gatewaySettings administratorIdentity "console-service"
        "console.render" "o-1" 0
      correlationId := "c-1" }
  headers := verifiedHeaders administratorIdentity

/-- What the console reads from the headers of both. -/
def shownAdministrator : IdentityContext :=
  { administratorIdentity with
    issuer := "urn:ghostrecon:verified-gateway"
    audience := ["console-service"]
    callingService := some "console-service"
    onBehalfOfSubject := some "admin"
    requestId := "c-1"
    claimMappingVersion := "console.forwarded.v1"
    permissionPolicyVersion := "sprint25b.v1" }

theorem shownAdministrator_read :
    verifiedIdentityFromHeaders Lib.Calendar.ofEpochText consoleSettings
      (verifiedHeaders administratorIdentity) = some shownAdministrator := by
  decide +kernel

theorem shownAdministrator_agrees {identity : IdentityContext}
    (hsubject : identity.representedSubject = "admin")
    (hroles : identity.roles = administratorIdentity.roles)
    (hpermissions : identity.permissions = administratorIdentity.permissions)
    (hassurance : identity.assurance = .phishingResistant) :
    Agrees shownAdministrator identity where
  subject := hsubject.symm
  roles _ := by rw [hroles]; rfl
  permissions _ := by rw [hpermissions]; rfl
  assurance := hassurance.symm

/-- The reporting service is admitted as itself, and the console signs a token
for the administrator whom its headers name. -/
theorem forged_headers_signed :
    ∃ identity, (identityMiddleware plainTools consoleSettings forgedRequest 0 Lib.Expiring.empty).1
        = .admitted (some identity) ∧
      represented (some identity) = none ∧
      ∃ call pair, consoleHeaders plainTools Lib.Calendar.ofEpochText consoleSettings
          meetingContracts forgedRequest.headers call = .ok (some pair) ∧
        Names plainTools pair.obo administratorIdentity := by
  have hreported : (identityMiddleware plainTools consoleSettings forgedRequest 0
      Lib.Expiring.empty).1 = .admitted (some
        { identityType := .service
          subject := "urn:ghostrecon:prod:workload:reporting-service"
          actorLabel := "reporting-service"
          issuer := "urn:ghostrecon:prod:workload:reporting-service"
          audience := ["urn:ghostrecon:prod:service:console-service"]
          callingService := some "reporting-service"
          authenticationMethod := "eddsa_workload_jwt"
          authenticatedAt := 0
          assurance := .workload
          correlationId := "c-1"
          requestId := "c-1"
          claimMappingVersion := "workload.v1"
          permissionPolicyVersion := "sprint25b.v1"
          environment := "prod" }) := by
    decide +kernel
  obtain ⟨pair, hpair, hobo⟩ := consoleHeaders_signs plainTools consoleSettings_canSign
    shownAdministrator_read
    { method := "GET", path := "/v1/meetings", serviceJti := "s-2", oboJti := "o-2", now := 0 }
    (by decide) (show operationIdForRequest meetingContracts _ _ = some "domain.meeting_list" by
      decide +kernel)
  obtain ⟨principal, kid, htoken⟩ := oboToken_some hobo
  refine ⟨_, hreported, rfl, _, pair, hpair, ?_⟩
  rw [htoken]
  exact (names_signed_iff plainTools_faithful _ _ _ _ _ _ _).mpr
    (shownAdministrator_agrees rfl rfl rfl rfl)

/-- What the console's middleware verifies on the gateway's request. -/
def verifiedAdministrator : IdentityContext :=
  { administratorIdentity with
    issuer := "urn:ghostrecon:prod:workload:gateway-service"
    audience := ["urn:ghostrecon:prod:service:console-service"]
    callingService := some "gateway-service"
    onBehalfOfSubject := some "admin"
    requestId := "c-1"
    attributes := [("obo_operation", "console.render")] }

/-- For the gateway's own request every token names the verified person. -/
theorem gateway_request_signed :
    (identityMiddleware plainTools consoleSettings gatewayRequest 0 Lib.Expiring.empty).1 =
        .admitted (some verifiedAdministrator) ∧
      ∀ call pair, consoleHeaders plainTools Lib.Calendar.ofEpochText consoleSettings
          meetingContracts gatewayRequest.headers call = .ok (some pair) →
        ∃ verified, represented (some verifiedAdministrator) = some verified ∧
          Names plainTools pair.obo verified := by
  have hadmitted : (identityMiddleware plainTools consoleSettings gatewayRequest 0
      Lib.Expiring.empty).1 = .admitted (some verifiedAdministrator) := by
    decide +kernel
  refine ⟨hadmitted, (console_signs_verified_iff plainTools_faithful consoleSettings_canSign
    meetingContracts_known gatewayRequest hadmitted).mpr ?_⟩
  intro shown hshown
  have hread : some shown = some shownAdministrator :=
    hshown.symm.trans shownAdministrator_read
  cases hread
  exact ⟨verifiedAdministrator, rfl, shownAdministrator_agrees rfl rfl rfl rfl⟩

end Requests

end GhostRecon.Security
