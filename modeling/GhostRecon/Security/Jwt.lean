import GhostRecon.Security.Policy
import GhostRecon.Common.Json
import GhostRecon.Lib.Calendar

/-!
Signed tokens. A token carries a header and claims under a signature; what is
done with its text is left to the tools, the checks on what it carries are
those of the source, in their order. A token is accepted from its issue until
its expiry, with thirty seconds of skew on both sides.
-/

namespace GhostRecon.Security

inductive TokenError where
  /-- `TokenValidationError` and other errors of value. -/
  | validation (message : String)
  /-- Any other exception. -/
  | crash
  deriving DecidableEq, Repr

/-- The text, the signatures and the numbers of tokens. -/
structure TokenTools (τ : Type) where
  /-- The header and the claims, when the text splits and decodes. -/
  decode : τ → Option (Json × Json)
  /-- The signature verifies under the public key. -/
  signatureOk : (publicKey : String) → τ → Bool
  /-- `sign_eddsa` after its header is made. -/
  sign : (privateKey : String) → (header claims : Json) → τ
  intOfText : String → Option Int
  /-- `str` of a value that is no text. -/
  strOther : Json → String

def isObject : Json → Bool
  | .obj _ => true
  | _ => false

/-- `value.get(key) == text`. -/
def hasText (value : Json) (key text : String) : Bool :=
  match value.get? key with
  | some (.str found) => found = text
  | _ => false

/-- The text under a key, when it is a text and not empty. -/
def filledText? (value : Json) (key : String) : Option String :=
  match value.get? key with
  | some (.str found) => nonEmpty found
  | _ => none

/-- `audience in audiences`, of one text or of a list. -/
def audienceOk (claims : Json) (audience : String) : Bool :=
  match claims.get? "aud" with
  | some (.str found) => found = audience
  | some (.arr items) => items.any fun item =>
    match item with
    | .str found => found = audience
    | _ => false
  | _ => false

/-- `int(now.timestamp())`. -/
def epochSeconds (now : Micros) : Int :=
  now.tdiv 1000000

section Verification

variable {τ : Type} (tools : TokenTools τ)

/-- `str(value)`. -/
def TokenTools.str : Json → String
  | .str text => text
  | value => tools.strOther value

/-- `int(claims[key])` where a missing or malformed value is a validation error. -/
def timeClaim (claims : Json) (key : String) : Except TokenError Int :=
  match claims.get? key with
  | none => .error (.validation "invalid token time claims")
  | some value =>
    match value.toInt tools.intOfText with
    | .ok seconds => .ok seconds
    | .error .overflowError => .error .crash
    | .error _ => .error (.validation "invalid token time claims")

/-- The public key a header names. -/
def signingKey (keys : List (String × String)) (header : Json) : Option String :=
  match header.get? "kid" with
  | some (.str kid) => keys.lookup kid
  | _ => none

/-- The checks on the times and the identifier of the claims. -/
def verifyTimes (claims : Json) (maximumLifetimeSeconds : Int) (now : Micros) :
    Except TokenError Json := do
  let issuedAt ← timeClaim tools claims "iat"
  let notBefore ← timeClaim tools claims "nbf"
  let expiresAt ← timeClaim tools claims "exp"
  if issuedAt > epochSeconds now + 30 ∨ notBefore > epochSeconds now + 30 then
    .error (.validation "token is not active")
  else if expiresAt ≤ epochSeconds now - 30 then .error (.validation "token expired")
  else if expiresAt ≤ issuedAt ∨ expiresAt - issuedAt > maximumLifetimeSeconds then
    .error (.validation "invalid token lifetime")
  else if (filledText? claims "jti").isNone then
    .error (.validation "missing token identifier")
  else .ok claims

/-- `verify_eddsa`, with its default skew; the claims of an accepted token. -/
def verifyEddsa (token : τ) (publicKeys : List (String × String))
    (expectedType issuer audience : String) (maximumLifetimeSeconds : Int) (now : Micros) :
    Except TokenError Json :=
  match tools.decode token with
  | none => .error (.validation "invalid token")
  | some (header, claims) =>
    if !(isObject header && isObject claims) then .error (.validation "invalid token")
    else if !(hasText header "alg" "EdDSA" && hasText header "typ" expectedType) then
      .error (.validation "invalid token purpose")
    else
      match signingKey publicKeys header with
      | none => .error (.validation "unknown signing key")
      | some key =>
        if !tools.signatureOk key token then .error (.validation "invalid token signature")
        else if !hasText claims "iss" issuer ∨ (filledText? claims "sub").isNone then
          .error (.validation "invalid token identity")
        else if !audienceOk claims audience then .error (.validation "invalid token audience")
        else verifyTimes tools claims maximumLifetimeSeconds now

end Verification

section Signing

variable {τ : Type} (tools : TokenTools τ)

/-- `sign_eddsa`. -/
def signEddsa (claims : Json) (privateKey kid tokenType : String) : τ :=
  tools.sign privateKey
    (.obj [("alg", .str "EdDSA"), ("kid", .str kid), ("typ", .str tokenType)]) claims

/-- `service_claims`; `jti` is drawn at random. -/
def serviceClaims (workload environment receiver : String) (lifetimeSeconds : Nat)
    (jti : String) (now : Micros) : Option Json :=
  if 1 ≤ lifetimeSeconds ∧ lifetimeSeconds ≤ 300 then
    let principal := "urn:ghostrecon:" ++ environment ++ ":workload:" ++ workload
    some (.obj
      [("iss", .str principal), ("sub", .str principal),
        ("aud", .str ("urn:ghostrecon:" ++ environment ++ ":service:" ++ receiver)),
        ("iat", .int (epochSeconds now)), ("nbf", .int (epochSeconds (now - 1000000))),
        ("exp", .int (epochSeconds (now + lifetimeSeconds * 1000000))), ("jti", .str jti)])
  else none

/-- `obo_claims`, for an identity, with the roles and permissions added to it. -/
def oboClaims (gatewayPrincipal audience operation : String) (identity : IdentityContext)
    (jti : String) (now : Micros) : Json :=
  .obj
    [("iss", .str gatewayPrincipal), ("sub", .str identity.representedSubject),
      ("azp", .str gatewayPrincipal), ("aud", .str audience), ("operation", .str operation),
      ("correlation_id", .str identity.correlationId),
      ("assurance", .str identity.assurance.value),
      ("authentication_method", .str identity.authenticationMethod),
      ("authenticated_at", .int (epochSeconds identity.authenticatedAt)),
      ("mapping_version", .str identity.claimMappingVersion),
      ("policy_version", .str identity.permissionPolicyVersion),
      ("iat", .int (epochSeconds now)), ("nbf", .int (epochSeconds (now - 1000000))),
      ("exp", .int (epochSeconds (now + 45000000))), ("jti", .str jti),
      ("roles", .arr ((sortedSet identity.roles).map .str)),
      ("permissions", .arr ((sortedSet identity.permissions).map .str))]

/-- What is assumed of tokens that were signed: the claims come back as the same
object, whatever the order of its keys. -/
structure TokenTools.Faithful : Prop where
  decode_sign : ∀ privateKey header claims, ∃ header' claims',
    tools.decode (tools.sign privateKey header claims) = some (header', claims') ∧
      ∀ key, claims'.get? key = claims.get? key

/-- Tokens as triples of a key, a header and claims. -/
def plainTools : TokenTools (String × Json × Json) where
  decode token := some token.2
  signatureOk key token := key = token.1
  sign key header claims := (key, header, claims)
  intOfText _ := none
  strOther _ := ""

theorem plainTools_faithful : plainTools.Faithful where
  decode_sign _ header claims := ⟨header, claims, rfl, fun _ => rfl⟩

end Signing

section Accepted

variable {τ : Type} {tools : TokenTools τ} {token : τ} {publicKeys : List (String × String)}
  {expectedType issuer audience : String} {lifetime : Int} {now : Micros} {claims : Json}

theorem verifyTimes_ok {verified : Json}
    (h : verifyTimes tools claims lifetime now = .ok verified) :
    verified = claims ∧ ∃ expiresAt jti, timeClaim tools claims "exp" = .ok expiresAt ∧
      epochSeconds now - 30 < expiresAt ∧ filledText? claims "jti" = some jti := by
  unfold verifyTimes at h
  cases hissued : timeClaim tools claims "iat" with
  | error e => simp [hissued, bind, Except.bind] at h
  | ok issuedAt =>
    cases hbefore : timeClaim tools claims "nbf" with
    | error e => simp [hissued, hbefore, bind, Except.bind] at h
    | ok notBefore =>
      cases hexpires : timeClaim tools claims "exp" with
      | error e => simp [hissued, hbefore, hexpires, bind, Except.bind] at h
      | ok expiresAt =>
        simp only [hissued, hbefore, hexpires, bind, Except.bind] at h
        split at h
        · cases h
        · split at h
          · cases h
          · next hlive =>
            split at h
            · cases h
            · split at h
              · cases h
              · next hjti =>
                cases h
                obtain ⟨jti, hfound⟩ := Option.ne_none_iff_exists'.mp (by simpa using hjti)
                exact ⟨rfl, expiresAt, jti, rfl, by omega, hfound⟩

/-- What an accepted token carries. -/
theorem verifyEddsa_ok
    (h : verifyEddsa tools token publicKeys expectedType issuer audience lifetime now =
      .ok claims) :
    (∃ header, tools.decode token = some (header, claims)) ∧
      ∃ expiresAt jti, timeClaim tools claims "exp" = .ok expiresAt ∧
        epochSeconds now - 30 < expiresAt ∧ filledText? claims "jti" = some jti := by
  unfold verifyEddsa at h
  split at h
  · cases h
  · next header found hdecode =>
    split at h
    · cases h
    · split at h
      · cases h
      · split at h
        · cases h
        · split at h
          · cases h
          · split at h
            · cases h
            · split at h
              · cases h
              · obtain ⟨rfl, htimes⟩ := verifyTimes_ok h
                exact ⟨⟨header, hdecode⟩, htimes⟩

end Accepted

end GhostRecon.Security
