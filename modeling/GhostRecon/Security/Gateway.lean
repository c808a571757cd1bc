import GhostRecon.Security.Policy

/-!
The gateway's routes and the CSRF check. A domain route authorizes, forwards to
the owner of the operation when the strict gateway does not own it, and only
then looks at the CSRF token; the routes of the authentication router check it
by hand. The theorem says for which routes a request that carries a session
cookie is never carried out without an accepted token.
-/

namespace GhostRecon.Security

structure Request where
  method : String
  /-- The `X-CSRF-Token` header. -/
  csrfToken : Option String := none
  /-- What the identity middleware left in the request state. -/
  identity : Option IdentityContext := none
  now : Micros

/-- What a route reads of the application: its settings, the registered
policies and the keyed digest of the security repository. -/
structure Application where
  strictRuntime : Bool
  serviceName : String
  operations : List OperationPolicy
  digest : String → String

/-- `OPERATIONS.require`. -/
def Application.require (app : Application) (operationId : String) : Option OperationPolicy :=
  app.operations.find? (·.operationId = operationId)

/-- The application is the gateway of a strict profile. -/
def Application.strictGateway (app : Application) : Bool :=
  app.strictRuntime && app.serviceName = "gateway-service"

/-- `verify_secret`. -/
def verifySecret (digest : String → String) (value : Option String) (expected : String) :
    Bool :=
  value.any fun text => text ≠ "" && digest text = expected

/-- `SecurityRepository.verify_csrf`. -/
def verifyCsrf (digest : String → String) (token : Option String)
    (identity : IdentityContext) : Bool :=
  (identity.attributes.lookup "csrf_digest").any (verifySecret digest token)

/-- `app.state.csrf_validator`, which the factory sets on the strict gateway. -/
def Application.csrfValidator (app : Application) : Option (Request → Bool) :=
  if app.strictGateway then
    some fun request => request.identity.any (verifyCsrf app.digest request.csrfToken)
  else none

/-- The validator is there and refuses. -/
def Application.csrfRefused (app : Application) (request : Request) : Bool :=
  app.csrfValidator.any fun validator => !validator request

/-- What a mutating route of the authentication router does to the store. -/
inductive SecurityEffect where
  | revokeSession (sessionId : String)
  | revokeSubject (subject : String)
  | updatePrincipal (principalId : String)
  | revokePrincipalSessions (principalId : String)
  | storeProof (purpose : String)
  deriving DecidableEq, Repr

inductive Response where
  | refused (status : Nat) (code : String)
  /-- The route's own handler ran. -/
  | handled
  /-- The owner of the operation was called. -/
  | forwarded (owner : String)
  /-- A handler of the authentication router reached its effect. -/
  | performed (effect : SecurityEffect)
  deriving DecidableEq, Repr

/-- The operation was carried out, here or at its owner. -/
def Response.executed : Response → Bool
  | .refused _ _ => false
  | .handled | .forwarded _ | .performed _ => true

/-- The checks on a workload that calls in its own name or on behalf of someone. -/
def callerRefused (policy : OperationPolicy) (identity : IdentityContext) : Option String :=
  match identity.callingService with
  | none => none
  | some caller =>
    if caller ∉ policy.allowedCallers then some "caller_not_allowed"
    else
      match identity.attributes.lookup "obo_operation" with
      | none => none
      | some operation =>
        if operation ≠ policy.operationId then some "operation_binding_denied" else none

/-- The policy's permission is denied to the identity. -/
def OperationPolicy.denies (policy : OperationPolicy) (identity : IdentityContext)
    (now : Micros) : Option String :=
  policy.permission.bind fun permission =>
    authorize identity permission (policy.assurance.getD .emailOtp)
      policy.maximumAuthenticationAgeSeconds now

/-- `SecurityRoute.secured`, in the order of its branches. -/
def secured (app : Application) (operationId : String) (request : Request) : Response :=
  match app.require operationId with
  | none => .refused 500 "unclassified_operation"
  | some policy =>
    if policy.authentication = .publicAccess then .handled
    else
      match request.identity with
      | none => .refused 401 "authentication_required"
      | some identity =>
        match callerRefused policy identity with
        | some code => .refused 403 code
        | none =>
          match policy.denies identity request.now with
          | some code => .refused 403 code
          | none =>
            if app.strictGateway ∧ policy.owner ≠ "gateway-service" then
              .forwarded policy.owner
            else if policy.csrf ∧ identity.callingService = none ∧
                request.method ∉ safeMethods ∧ app.csrfRefused request then
              .refused 403 "csrf_denied"
            else .handled

/-- The unsafe routes of the authentication router, with what their handlers
read besides the identity. -/
inductive AuthRoute where
  | revokeSession (sessionId : String)
  | logout
  | logoutAll
  | updateUser (principalId : String) (bodyValid : Bool)
  | revokeUserSessions (principalId : String) (principalExists : Bool)
  | bootstrapProof
  | emergencyGrantProof
  deriving DecidableEq, Repr

/-- `_require_csrf`: the handler goes on when the token is accepted. -/
def requireCsrf (app : Application) (request : Request) (next : Response) : Response :=
  if app.csrfRefused request then .refused 403 "CSRF validation failed" else next

/-- `_require_admin(request, csrf=True)`. -/
def requireAdmin (app : Application) (request : Request) (identity : IdentityContext)
    (next : Response) : Response :=
  match authorize identity .securityAdmin .phishingResistant (some 900) request.now with
  | some code => .refused 403 code
  | none => requireCsrf app request next

/-- The handlers of the unsafe routes. -/
def authHandler (app : Application) (route : AuthRoute) (request : Request) : Response :=
  match request.identity with
  | none => .refused 401 "authentication required"
  | some identity =>
    match route with
    | .revokeSession sessionId =>
      if identity.sessionId.getD "None" ≠ sessionId then
        .refused 403 "step-up required for another session"
      else .performed (.revokeSession sessionId)
    | .logout =>
      requireCsrf app request
        ((identity.sessionId.map fun s => .performed (.revokeSession s)).getD .handled)
    | .logoutAll => requireCsrf app request (.performed (.revokeSubject identity.subject))
    | .updateUser principalId bodyValid =>
      requireAdmin app request identity
        (if bodyValid then .performed (.updatePrincipal principalId)
        else .refused 422 "invalid principal update")
    | .revokeUserSessions principalId principalExists =>
      requireAdmin app request identity
        (if principalExists then .performed (.revokePrincipalSessions principalId)
        else .refused 404 "principal not found")
    | .bootstrapProof => requireAdmin app request identity (.performed (.storeProof "bootstrap"))
    | .emergencyGrantProof =>
      requireAdmin app request identity (.performed (.storeProof "emergency-grant"))

/-- A route of the gateway: a domain route or one of the authentication
router. -/
inductive Route where
  | domain (operationId : String)
  | auth (route : AuthRoute)
  deriving DecidableEq, Repr

def Route.handle (app : Application) (request : Request) : Route → Response
  | .domain operationId => secured app operationId request
  | .auth route => authHandler app route request

/-- The route's policy asks for a CSRF token. Those of the unsafe
authentication routes all do. -/
def Route.csrf (app : Application) : Route → Bool
  | .domain operationId => (app.require operationId).any (·.csrf)
  | .auth _ => true

/-- The route carries nothing out for this identity unless the token was
accepted: a domain operation that is not public and is denied or owned by the
gateway itself, and every authentication route except the revocation of the
identity's own session. -/
def Route.guarded (app : Application) (identity : IdentityContext) (now : Micros) :
    Route → Bool
  | .domain operationId =>
    (app.require operationId).any fun policy =>
      policy.authentication ≠ .publicAccess &&
        ((policy.denies identity now).isSome || policy.owner = "gateway-service")
  | .auth (.revokeSession sessionId) => identity.sessionId.getD "None" ≠ sessionId
  | .auth _ => true

section Guard

variable {app : Application} {identity : IdentityContext}

theorem csrfRefused_iff (hgateway : app.strictGateway = true) {request : Request}
    (hidentity : request.identity = some identity) :
    app.csrfRefused request = !verifyCsrf app.digest request.csrfToken identity := by
  simp [Application.csrfRefused, Application.csrfValidator, hgateway, hidentity]

/-- What follows an accepted token only. -/
theorem requireCsrf_executed (hgateway : app.strictGateway = true) {request : Request}
    (hidentity : request.identity = some identity) {next : Response}
    (h : (requireCsrf app request next).executed = true) :
    verifyCsrf app.digest request.csrfToken identity = true := by
  unfold requireCsrf at h
  rw [csrfRefused_iff hgateway hidentity] at h
  by_contra hrefused
  rw [Bool.not_eq_true] at hrefused
  simp [hrefused, Response.executed] at h

theorem requireAdmin_executed (hgateway : app.strictGateway = true) {request : Request}
    (hidentity : request.identity = some identity) {next : Response}
    (h : (requireAdmin app request identity next).executed = true) :
    verifyCsrf app.digest request.csrfToken identity = true := by
  unfold requireAdmin at h
  split at h
  · cases h
  · exact requireCsrf_executed hgateway hidentity h

/-- A request without a token is not accepted. -/
theorem verifyCsrf_none (digest : String → String) (identity : IdentityContext) :
    verifyCsrf digest none identity = false := by
  unfold verifyCsrf
  cases identity.attributes.lookup "csrf_digest" <;> rfl

/-- The branches a session request of an unsafe method can take. -/
theorem secured_session {operationId : String} {policy : OperationPolicy} {request : Request}
    (hgateway : app.strictGateway = true) (hpolicy : app.require operationId = some policy)
    (hcsrf : policy.csrf = true) (hidentity : request.identity = some identity)
    (hsession : identity.callingService = none) (hmutating : request.method ∉ safeMethods) :
    secured app operationId request =
      if policy.authentication = .publicAccess then .handled
      else
        match policy.denies identity request.now with
        | some code => .refused 403 code
        | none =>
          if policy.owner ≠ "gateway-service" then .forwarded policy.owner
          else if verifyCsrf app.digest request.csrfToken identity then .handled
          else .refused 403 "csrf_denied" := by
  have hcaller : callerRefused policy identity = none := by
    simp [callerRefused, hsession]
  simp only [secured, hpolicy, hidentity, hcaller, hgateway, hcsrf, hsession,
    csrfRefused_iff hgateway hidentity, true_and]
  cases verifyCsrf app.digest request.csrfToken identity <;> simp [hmutating]

/-- A guarded route of the authentication router reaches its effect with an
accepted token only. -/
theorem authHandler_executed (hgateway : app.strictGateway = true) (request : Request)
    (hidentity : request.identity = some identity) {route : AuthRoute}
    (hguarded : (Route.auth route).guarded app identity request.now = true)
    (h : (authHandler app route request).executed = true) :
    verifyCsrf app.digest request.csrfToken identity = true := by
  simp only [authHandler, hidentity] at h
  cases route with
  | revokeSession sessionId =>
    have hother : identity.sessionId.getD "None" ≠ sessionId := by
      simpa [Route.guarded] using hguarded
    simp [hother, Response.executed] at h
  | logout => exact requireCsrf_executed hgateway hidentity h
  | logoutAll => exact requireCsrf_executed hgateway hidentity h
  | updateUser principalId bodyValid => exact requireAdmin_executed hgateway hidentity h
  | revokeUserSessions principalId principalExists =>
    exact requireAdmin_executed hgateway hidentity h
  | bootstrapProof => exact requireAdmin_executed hgateway hidentity h
  | emergencyGrantProof => exact requireAdmin_executed hgateway hidentity h

/-- A guarded domain operation is handled with an accepted token only. -/
theorem secured_executed {operationId : String} {policy : OperationPolicy}
    (hgateway : app.strictGateway = true) (request : Request) (hpolicy : app.require operationId = some policy)
    (hcsrf : policy.csrf = true) (hidentity : request.identity = some identity)
    (hsession : identity.callingService = none) (hmutating : request.method ∉ safeMethods)
    (hguarded : (Route.domain operationId).guarded app identity request.now = true)
    (h : (secured app operationId request).executed = true) :
    verifyCsrf app.digest request.csrfToken identity = true := by
  have hpolicyGuarded : policy.authentication ≠ .publicAccess ∧
      ((policy.denies identity request.now).isSome = true ∨
        policy.owner = "gateway-service") := by
    simpa [Route.guarded, hpolicy] using hguarded
  obtain ⟨hpublic, hdenied | howner⟩ := hpolicyGuarded
  · obtain ⟨code, hcode⟩ := Option.isSome_iff_exists.mp hdenied
    rw [secured_session hgateway hpolicy hcsrf hidentity hsession hmutating, if_neg hpublic,
      hcode] at h
    cases h
  · rw [secured_session hgateway hpolicy hcsrf hidentity hsession hmutating, if_neg hpublic] at h
    by_contra hrefused
    rw [Bool.not_eq_true] at hrefused
    cases hdenies : policy.denies identity request.now with
    | some code => simp [hdenies, Response.executed] at h
    | none => simp [hdenies, howner, hrefused, Response.executed] at h

theorem Route.policy_of_csrf {operationId : String}
    (h : (Route.domain operationId).csrf app = true) :
    ∃ policy, app.require operationId = some policy ∧ policy.csrf = true := by
  cases hpolicy : app.require operationId with
  | none => simp [Route.csrf, hpolicy] at h
  | some policy => exact ⟨policy, rfl, by simpa [Route.csrf, hpolicy] using h⟩

/-- A route that is not guarded carries out a request with any token. -/
theorem handle_executed_of_unguarded (hgateway : app.strictGateway = true) {route : Route}
    {request : Request} (hcsrf : route.csrf app = true)
    (hidentity : request.identity = some identity) (hsession : identity.callingService = none)
    (hmutating : request.method ∉ safeMethods)
    (hunguarded : route.guarded app identity request.now = false) :
    (route.handle app request).executed = true := by
  cases route with
  | domain operationId =>
    obtain ⟨policy, hpolicy, hcsrf⟩ := Route.policy_of_csrf hcsrf
    rw [Route.handle, secured_session hgateway hpolicy hcsrf hidentity hsession hmutating]
    by_cases hpublic : policy.authentication = .publicAccess
    · rw [if_pos hpublic]
      rfl
    · have hopen : policy.denies identity request.now = none ∧
          policy.owner ≠ "gateway-service" := by
        simpa [Route.guarded, hpolicy, hpublic] using hunguarded
      simp [hpublic, hopen, Response.executed]
  | auth route =>
    cases route with
    | revokeSession sessionId =>
      have hown : identity.sessionId.getD "None" = sessionId := by
        simpa [Route.guarded] using hunguarded
      simp [Route.handle, authHandler, hidentity, hown, Response.executed]
    | _ => simp [Route.guarded] at hunguarded

/-- On a strict gateway, for a session identity and an unsafe method: the route
never carries out a request without an accepted CSRF token exactly when it is
guarded. -/
theorem unsafe_request_checked_iff (hgateway : app.strictGateway = true) (route : Route)
    (hcsrf : route.csrf app = true) (hsession : identity.callingService = none)
    {method : String} (hmutating : method ∉ safeMethods) (now : Micros) :
    (∀ token : Option String,
      (route.handle app { method, csrfToken := token, identity := some identity, now }).executed
          = true →
        verifyCsrf app.digest token identity = true) ↔
      route.guarded app identity now = true := by
  constructor
  · intro hchecked
    by_contra hunguarded
    rw [Bool.not_eq_true] at hunguarded
    have haccepted := hchecked none
      (handle_executed_of_unguarded hgateway hcsrf rfl hsession hmutating hunguarded)
    rw [verifyCsrf_none] at haccepted
    cases haccepted
  · intro hguarded token hexecuted
    cases route with
    | domain operationId =>
      obtain ⟨policy, hpolicy, hpolicyCsrf⟩ := Route.policy_of_csrf hcsrf
      exact secured_executed hgateway
        { method, csrfToken := token, identity := some identity, now } hpolicy hpolicyCsrf rfl hsession hmutating hguarded hexecuted
    | auth route =>
      exact authHandler_executed hgateway
        { method, csrfToken := token, identity := some identity, now } rfl hguarded hexecuted

/-- A strict gateway that knows two operations: one of a domain router and one
that the gateway owns. -/
def gateway : Application where
  strictRuntime := true
  serviceName := "gateway-service"
  operations :=
    [classifyDomainOperation "meeting_create" "POST",
      { operationId := "auth.sessions.revoke", owner := "gateway-service"
        permission := some .sessionSelfRevoke, authentication := .human
        assurance := some .emailOtp, csrf := true }]
  digest text := text ++ "#"

/-- A session that may write meetings. -/
def operator : IdentityContext where
  subject := "operator"
  permissions := [Permission.sessionSelfRevoke.value, Permission.meetingWrite.value]
  authenticationMethod := "oidc"
  authenticatedAt := 0
  assurance := .emailOtp
  sessionId := some "s1"
  attributes := [("csrf_digest", "token#")]

/-- A cookie is enough to create a meeting: the gateway forwards the request
without a token to its owner. Revoking the own session needs no token either. -/
theorem session_request_forwarded_unchecked :
    ¬ (∀ (app : Application) (identity : IdentityContext) (route : Route) (method : String)
        (token : Option String) (now : Micros),
        app.strictGateway = true → route.csrf app = true → identity.callingService = none →
        method ∉ safeMethods →
        (route.handle app
          { method, csrfToken := token, identity := some identity, now }).executed = true →
        verifyCsrf app.digest token identity = true) := by
  intro hchecked
  have hforwarded := hchecked gateway operator (.domain "domain.meeting_create") "POST" none 0
    (by decide +kernel) (by decide +kernel) (by decide +kernel) (by decide +kernel)
    (by decide +kernel)
  exact absurd hforwarded (by decide +kernel)

/-- Logging out is guarded: no session is revoked without an accepted token. -/
theorem logout_checked :
    (Route.auth .logout).guarded gateway operator 0 = true ∧
      ∀ token : Option String,
        ((Route.auth .logout).handle gateway
          { method := "POST", csrfToken := token, identity := some operator, now := 0 }).executed
            = true →
          verifyCsrf gateway.digest token operator = true := by
  have hguarded : (Route.auth .logout).guarded gateway operator 0 = true := by
    decide +kernel
  have hiff := @unsafe_request_checked_iff gateway operator (by decide +kernel) (.auth .logout)
    (by decide +kernel) (by decide +kernel) "POST" (by decide +kernel) 0
  exact ⟨hguarded, hiff.mpr hguarded⟩

end Guard

end GhostRecon.Security
