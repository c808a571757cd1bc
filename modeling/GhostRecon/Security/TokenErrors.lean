import GhostRecon.Security.Tokens

/-!
What verifying a token raises. A token comes from outside as a text, and its header and claims may
be any JSON. Each check raises a validation error where it fails, but some steps raise other
errors on the way: the parser of JSON where a value is nested too deeply or a number too long, a
membership test of a list or an object, the comparison of texts that are not ASCII, and the
integer of an infinite number.
-/

namespace GhostRecon.Security

section Codec

/-- What decoding and parsing a segment raises. -/
inductive LoadsError where
  /-- The segment does not decode. -/
  | encoding
  /-- `JSONDecodeError` and `UnicodeDecodeError`. -/
  | malformed
  /-- `ValueError` of an integer with too many digits. -/
  | digits
  /-- `RecursionError` of a value nested too deeply. -/
  | recursion
  deriving DecidableEq

inductive HashAlgorithm where
  | sha256 | sha384 | sha512
  deriving DecidableEq

/-- The encodings, the parser and the signatures; RSA keys are of a type of their own. -/
structure TokenCodec (κ : Type) where
  /-- `json.loads` of a decoded segment. -/
  loads : String → Except LoadsError Json
  /-- The bytes of a segment; none where it does not decode. -/
  decode : String → Option (List UInt8)
  ed25519Verify : (publicKey : String) → (signature : List UInt8) → (signed : String) → Bool
  /-- The number of a part of a key; none where it is no text that decodes. -/
  keyNumber : Json → Option Nat
  /-- The key of an exponent and a modulus; none where they are refused. -/
  rsaPublicKey : (exponent modulus : Nat) → Option κ
  rsaVerify : κ → HashAlgorithm → (signature : List UInt8) → (signed : String) → Bool
  intOfText : String → Option Int
  /-- `str` of a value that is no text. -/
  strOther : Json → String

/-- The three segments of a token. -/
def splitToken (token : String) : Option (String × String × String) :=
  match token.toList.splitOn '.' with
  | [first, second, third] => some (String.ofList first, String.ofList second, String.ofList third)
  | _ => none

variable {κ : Type} (codec : TokenCodec κ)

/-- The tools of the checks that read claims alone. -/
def TokenCodec.tools : TokenTools String where
  decode token := do
    let (first, second, _) ← splitToken token
    let header ← (codec.loads first).toOption
    let claims ← (codec.loads second).toOption
    return (header, claims)
  signatureOk key token :=
    match splitToken token with
    | some (first, second, third) =>
      (codec.decode third).any fun signature =>
        codec.ed25519Verify key signature (first ++ "." ++ second)
    | none => false
  sign _ _ _ := ""
  intOfText := codec.intOfText
  strOther := codec.strOther

/-- A check that raises a validation error. -/
def require (ok : Bool) (message : String) : Except TokenError Unit :=
  if ok then .ok () else .error (.validation message)

def requireSome {α : Type} (value : Option α) (message : String) : Except TokenError α :=
  match value with
  | some found => .ok found
  | none => .error (.validation message)

end Codec

section Eddsa

variable {κ : Type} (codec : TokenCodec κ)

/-- A segment, where every error of value is a validation error. -/
def eddsaSegment (segment : String) : Except TokenError Json :=
  match codec.loads segment with
  | .ok value => .ok value
  | .error .recursion => .error .crash
  | .error _ => .error (.validation "invalid token")

/-- What `verify_eddsa` is asked for. -/
structure EddsaRequest where
  publicKeys : List (String × String)
  expectedType : String
  issuer : String
  audience : String
  subject : Option String := none
  maximumLifetimeSeconds : Int := 300
  now : Micros

/-- `verify_eddsa` of a text. -/
def verifyEddsaText (request : EddsaRequest) (token : String) : Except TokenError Json := do
  let (first, second, third) ← requireSome (splitToken token) "invalid token"
  let header ← eddsaSegment codec first
  let claims ← eddsaSegment codec second
  require (isObject header && isObject claims) "invalid token"
  require (hasText header "alg" "EdDSA" && hasText header "typ" request.expectedType)
    "invalid token purpose"
  let key ← requireSome (signingKey request.publicKeys header) "unknown signing key"
  let signature ← requireSome (codec.decode third) "invalid token encoding"
  require (codec.ed25519Verify key signature (first ++ "." ++ second)) "invalid token signature"
  require (hasText claims "iss" request.issuer && (filledText? claims "sub").isSome)
    "invalid token identity"
  require (request.subject.all (hasText claims "sub")) "invalid token identity"
  require (audienceOk claims request.audience) "invalid token audience"
  verifyTimes codec.tools claims request.maximumLifetimeSeconds request.now

end Eddsa

section Oidc

variable {κ : Type} (codec : TokenCodec κ)

def supportedExternalAlgorithms : List String :=
  ["RS256", "RS384", "RS512"]

/-- What `verify_oidc_id_token` is asked for. -/
structure OidcRequest where
  issuer : String
  audience : String
  nonce : String
  allowedAlgorithms : List String := ["RS256"]
  authorizedParty : Option String := none
  clockSkewSeconds : Int := 30
  now : Micros

/-- `_decode_json`: a number with too many digits is no `JSONDecodeError`. -/
def oidcSegment (segment : String) : Except TokenError Json :=
  match codec.loads segment with
  | .ok value => if isObject value then .ok value else .error (.validation "invalid token")
  | .error .encoding => .error (.validation "invalid token encoding")
  | .error .malformed => .error (.validation "invalid token")
  | .error _ => .error .crash

/-- Lists and objects have no hash. -/
def hashable : Json → Bool
  | .arr _ | .obj _ => false
  | _ => true

/-- `value in {None, *texts}`, or without the `None`, of a value that may be missing. -/
def inSet (value : Option Json) (none : Bool) (texts : List String) : Except TokenError Bool :=
  match value with
  | .none | some .null => .ok none
  | some (.str text) => .ok (text ∈ texts)
  | some other => if hashable other then .ok false else .error .crash

/-- A membership test that is required. -/
def requireIn (value : Option Json) (none : Bool) (texts : List String) (message : String) :
    Except TokenError Unit := do
  require (← inSet value none texts) message

/-- `item.get(key, default) == text`, where the default is the text itself. -/
def textOrMissing (item : Json) (key text : String) : Bool :=
  (item.get? key).isNone || hasText item key text

/-- The key of a JWKS entry; what it raises is an error of value. -/
def entryKey (item : Json) : Option κ := do
  let exponent ← codec.keyNumber (← item.get? "e")
  let modulus ← codec.keyNumber (← item.get? "n")
  if modulus < 2 ^ 2047 then none
  else codec.rsaPublicKey exponent modulus

/-- `_select_rsa_key`. -/
def selectRsaKey (jwks header : Json) (algorithm : String) : Except TokenError κ := do
  let kid ← requireSome (filledText? header "kid") "missing signing key identifier"
  match jwks.get? "keys" with
  | some (.arr keys) =>
    require (keys.length ≤ 100) "invalid JWKS"
    let item ← requireSome (keys.find? fun item =>
      isObject item && hasText item "kid" kid && hasText item "kty" "RSA" &&
        textOrMissing item "use" "sig" && textOrMissing item "alg" algorithm)
      "unknown signing key"
    requireSome (entryKey codec item) "invalid signing key"
  | _ => .error (.validation "invalid JWKS")

def hashAlgorithm (algorithm : String) : HashAlgorithm :=
  if algorithm = "RS256" then .sha256 else if algorithm = "RS384" then .sha384 else .sha512

/-- The audiences of the claims: one text, or a list. -/
def audiences (claims : Json) : Option (List Json) :=
  match claims.get? "aud" with
  | some (.str found) => some [.str found]
  | some (.arr items) => some items
  | _ => none

/-- `audience in audiences` of a list. -/
def listsText (items : List Json) (text : String) : Bool :=
  items.any fun item =>
    match item with
    | .str found => found = text
    | _ => false

def isAscii (text : String) : Bool :=
  text.toList.all fun c => c.toNat < 128

/-- `secrets.compare_digest`. -/
def compareDigest (text text' : String) : Except TokenError Bool :=
  if isAscii text && isAscii text' then .ok (text = text') else .error .crash

/-- `str(claims.get("nonce", ""))`. -/
def nonceText (claims : Json) : String :=
  match claims.get? "nonce" with
  | none => ""
  | some value => codec.tools.str value

/-- The time from which the claims hold: that of their issue, unless another is given. -/
def notBeforeClaim (claims : Json) (issuedAt : Int) :
    Except TokenError Int :=
  if (claims.get? "nbf").isNone then .ok issuedAt else timeClaim codec.tools claims "nbf"

/-- The checks on the times of the claims. -/
def verifyOidcTimes (request : OidcRequest) (claims : Json) : Except TokenError Unit := do
  let issuedAt ← timeClaim codec.tools claims "iat"
  let expiresAt ← timeClaim codec.tools claims "exp"
  let notBefore ← notBeforeClaim codec claims issuedAt
  require (issuedAt ≤ epochSeconds request.now + request.clockSkewSeconds &&
    notBefore ≤ epochSeconds request.now + request.clockSkewSeconds) "token is not active"
  require (epochSeconds request.now - request.clockSkewSeconds < expiresAt) "token expired"

/-- The authorized party, when one is asked for. -/
def verifyParty (request : OidcRequest) (claims : Json) : Except TokenError Unit :=
  match request.authorizedParty with
  | none => .ok ()
  | some party => requireIn (claims.get? "azp") true [party] "invalid authorized party"

def stripSlashes (text : String) : String :=
  String.ofList (text.toList.reverse.dropWhile (· = '/')).reverse

/-- `_validate_oidc_claims`. -/
def validateOidcClaims (request : OidcRequest) (claims : Json) : Except TokenError Unit := do
  require (hasText claims "iss" (stripSlashes request.issuer)) "invalid token issuer"
  require (filledText? claims "sub").isSome "invalid token subject"
  let items ← requireSome (audiences claims) "invalid token audience"
  require (listsText items request.audience) "invalid token audience"
  require (items.length ≤ 1 || hasText claims "azp" request.audience) "invalid authorized party"
  verifyParty request claims
  require (← compareDigest (nonceText codec claims) request.nonce) "invalid token nonce"
  verifyOidcTimes codec request claims

/-- The allowlist is not empty and has supported algorithms alone. -/
def OidcRequest.supported (request : OidcRequest) : Bool :=
  !request.allowedAlgorithms.isEmpty &&
    request.allowedAlgorithms.all fun algorithm => algorithm ∈ supportedExternalAlgorithms

/-- The `ValueError` of an allowlist that is not supported is no validation error. -/
def requireSupported (request : OidcRequest) : Except TokenError Unit :=
  if request.supported then .ok () else .error .crash

/-- The algorithm of the header, when it is allowed. -/
def allowedAlgorithm (request : OidcRequest) (header : Json) : Except TokenError String := do
  requireIn (header.get? "alg") false request.allowedAlgorithms "invalid token algorithm"
  requireSome (filledText? header "alg") "invalid token algorithm"

/-- `verify_oidc_id_token`; an unsupported allowlist is an error of the caller. -/
def verifyOidcIdToken (request : OidcRequest) (jwks : Json) (token : String) :
    Except TokenError Json := do
  requireSupported request
  let (first, second, third) ← requireSome (splitToken token) "invalid token"
  let header ← oidcSegment codec first
  let claims ← oidcSegment codec second
  let algorithm ← allowedAlgorithm request header
  requireIn (header.get? "typ") true ["JWT"] "invalid token purpose"
  let key ← selectRsaKey codec jwks header algorithm
  let signature ← requireSome (codec.decode third) "invalid token encoding"
  require (codec.rsaVerify key (hashAlgorithm algorithm) signature (first ++ "." ++ second))
    "invalid token signature"
  validateOidcClaims codec request claims
  return claims

end Oidc

section Steps

variable {α β : Type}

/-- A sequence crashes where its first step does, or its second. -/
theorem bind_crash_iff {step : Except TokenError α} {next : α → Except TokenError β} :
    (step >>= next) = .error .crash ↔
      step = .error .crash ∨ ∃ a, step = .ok a ∧ next a = .error .crash := by
  cases step with
  | ok a =>
    constructor
    · intro h
      exact Or.inr ⟨a, rfl, h⟩
    · rintro (h | ⟨b, hb, h⟩)
      · cases h
      · cases hb
        exact h
  | error e =>
    constructor
    · intro h
      cases h
      exact Or.inl rfl
    · rintro (h | ⟨b, hb, -⟩)
      · cases h
        rfl
      · cases hb

theorem bind_ok_iff {step : Except TokenError α} {next : α → Except TokenError β} {b : β} :
    (step >>= next) = .ok b ↔ ∃ a, step = .ok a ∧ next a = .ok b := by
  cases step with
  | ok a =>
    constructor
    · intro h
      exact ⟨a, rfl, h⟩
    · rintro ⟨a', ha, h⟩
      cases ha
      exact h
  | error e =>
    constructor
    · intro h
      cases h
    · rintro ⟨a, ha, -⟩
      cases ha

theorem require_ok_iff {ok : Bool} {message : String} {u : Unit} :
    require ok message = .ok u ↔ ok = true := by
  unfold require
  cases ok with
  | true => simp
  | false => simp

theorem require_ne_crash {ok : Bool} {message : String} :
    ¬require ok message = .error .crash := by
  unfold require
  cases ok with
  | true => simp
  | false => simp

theorem requireSome_ok_iff {value : Option α} {message : String} {a : α} :
    requireSome value message = .ok a ↔ value = some a := by
  unfold requireSome
  cases value with
  | none => simp
  | some found => simp

theorem requireSome_ne_crash {value : Option α} {message : String} :
    ¬requireSome value message = .error .crash := by
  unfold requireSome
  cases value with
  | none => simp
  | some found => simp

end Steps

section Times

variable {κ : Type} {codec : TokenCodec κ} {claims : Json} {key : String}

/-- The number under the key is infinite. -/
def IsInfinite (claims : Json) (key : String) : Prop :=
  claims.get? key = some (.float .infinite)

/-- The value under the key is read as an integer. -/
def IsReadable (codec : TokenCodec κ) (claims : Json) (key : String) : Prop :=
  ∃ seconds, timeClaim codec.tools claims key = .ok seconds

theorem toInt_overflow_iff (ofText : String → Option Int) (value : Json) :
    value.toInt ofText = .error .overflowError ↔ value = .float .infinite := by
  cases value with
  | float number =>
    cases number with
    | finite value => simp [Json.toInt]
    | nan => simp [Json.toInt]
    | infinite => simp [Json.toInt]
  | str text =>
    unfold Json.toInt
    dsimp only
    split
    · simp
    · simp
  | _ => simp [Json.toInt]

/-- Reading a time crashes at an infinite number alone. -/
theorem timeClaim_crash_iff :
    timeClaim codec.tools claims key = .error .crash ↔ IsInfinite claims key := by
  unfold timeClaim IsInfinite
  cases hfound : claims.get? key with
  | none => simp
  | some value =>
    have hoverflow := toInt_overflow_iff codec.tools.intOfText value
    rw [Option.some.injEq, ← hoverflow]
    dsimp only
    split
    · next heq => simp [heq]
    · next heq => simp [heq]
    · next hne heq =>
      rw [heq, Except.error.injEq, Except.error.injEq]
      exact iff_of_false (by simp) hne

/-- The times of `verify_eddsa` raise at the first infinite number, where those before are
read. -/
def EddsaTimesRaise (codec : TokenCodec κ) (claims : Json) : Prop :=
  IsInfinite claims "iat" ∨ IsReadable codec claims "iat" ∧
    (IsInfinite claims "nbf" ∨ IsReadable codec claims "nbf" ∧ IsInfinite claims "exp")

theorem verifyTimes_crash_iff (lifetime : Int) (now : Micros) :
    verifyTimes codec.tools claims lifetime now = .error .crash ↔
      EddsaTimesRaise codec claims := by
  unfold verifyTimes EddsaTimesRaise IsReadable
  simp only [bind_crash_iff, timeClaim_crash_iff]
  constructor
  · rintro (hissued | ⟨issuedAt, hissued, hbefore | ⟨notBefore, hbefore, hexpires | hrest⟩⟩)
    · exact Or.inl hissued
    · exact Or.inr ⟨⟨issuedAt, hissued⟩, Or.inl hbefore⟩
    · exact Or.inr ⟨⟨issuedAt, hissued⟩, Or.inr ⟨⟨notBefore, hbefore⟩, hexpires⟩⟩
    · obtain ⟨expiresAt, -, hcheck⟩ := hrest
      split at hcheck
      · cases hcheck
      · split at hcheck
        · cases hcheck
        · split at hcheck
          · cases hcheck
          · split at hcheck
            · cases hcheck
            · cases hcheck
  · rintro (hissued | ⟨⟨issuedAt, hissued⟩, hbefore | ⟨⟨notBefore, hbefore⟩, hexpires⟩⟩)
    · exact Or.inl hissued
    · exact Or.inr ⟨issuedAt, hissued, Or.inl hbefore⟩
    · exact Or.inr ⟨issuedAt, hissued, Or.inr ⟨notBefore, hbefore, Or.inl hexpires⟩⟩

/-- What the times of claims that `verify_eddsa` accepts are. -/
def EddsaTimesHold (codec : TokenCodec κ) (claims : Json) (lifetime : Int) (now : Micros) :
    Prop :=
  ∃ issuedAt notBefore expiresAt,
    timeClaim codec.tools claims "iat" = .ok issuedAt ∧
      timeClaim codec.tools claims "nbf" = .ok notBefore ∧
      timeClaim codec.tools claims "exp" = .ok expiresAt ∧
      TimesAccepted issuedAt notBefore expiresAt lifetime (epochSeconds now) ∧
      (filledText? claims "jti").isSome = true

theorem verifyTimes_holds {lifetime : Int} {now : Micros} {verified : Json}
    (h : verifyTimes codec.tools claims lifetime now = .ok verified) :
    verified = claims ∧ EddsaTimesHold codec claims lifetime now := by
  unfold verifyTimes at h
  simp only [bind_ok_iff] at h
  obtain ⟨issuedAt, hissued, notBefore, hbefore, expiresAt, hexpires, hcheck⟩ := h
  split at hcheck
  · cases hcheck
  · split at hcheck
    · cases hcheck
    · split at hcheck
      · cases hcheck
      · split at hcheck
        · cases hcheck
        · next hactive hlive hlifetime hjti =>
          cases hcheck
          have htimes : TimesAccepted issuedAt notBefore expiresAt lifetime (epochSeconds now) := by
            unfold TimesAccepted
            omega
          have hidentifier : (filledText? claims "jti").isSome = true := by
            rw [← Option.not_isNone, Bool.not_eq_true']
            exact Bool.eq_false_iff.mpr hjti
          exact ⟨rfl, issuedAt, notBefore, expiresAt, hissued, hbefore, hexpires, htimes,
            hidentifier⟩

end Times

section EddsaErrors

variable {κ : Type} {codec : TokenCodec κ} {request : EddsaRequest} {token : String}

theorem eddsaSegment_ok_iff {segment : String} {value : Json} :
    eddsaSegment codec segment = .ok value ↔ codec.loads segment = .ok value := by
  unfold eddsaSegment
  split
  · next heq => simp [heq]
  · next heq => simp [heq]
  · next heq => simp [heq]

theorem eddsaSegment_crash_iff {segment : String} :
    eddsaSegment codec segment = .error .crash ↔ codec.loads segment = .error .recursion := by
  unfold eddsaSegment
  split
  · next heq => simp [heq]
  · next heq => simp [heq]
  · next hne heq =>
    rw [heq, Except.error.injEq, Except.error.injEq]
    exact iff_of_false (by simp) hne

/-- The header and claims of a token pass every check before those on times. -/
structure EddsaSigned (codec : TokenCodec κ) (request : EddsaRequest)
    (first second third : String) (header claims : Json) : Prop where
  headerObject : isObject header = true
  claimsObject : isObject claims = true
  algorithm : hasText header "alg" "EdDSA" = true
  purpose : hasText header "typ" request.expectedType = true
  signed : ∃ key signature, signingKey request.publicKeys header = some key ∧
    codec.decode third = some signature ∧
    codec.ed25519Verify key signature (first ++ "." ++ second) = true
  issuer : hasText claims "iss" request.issuer = true
  subject : (filledText? claims "sub").isSome = true
  expectedSubject : request.subject.all (hasText claims "sub") = true
  audience : audienceOk claims request.audience = true

/-- What the segments of a token hold. -/
structure Holds (codec : TokenCodec κ) (token first second third : String)
    (header claims : Json) : Prop where
  split : splitToken token = some (first, second, third)
  header : codec.loads first = .ok header
  claims : codec.loads second = .ok claims

/-- Another exception than a validation error leaves `verify_eddsa`: the parser's own, or that of
an infinite time in a token that passes every check before. -/
def EddsaEscapes (codec : TokenCodec κ) (request : EddsaRequest) (token : String) : Prop :=
  ∃ first second third, splitToken token = some (first, second, third) ∧
    (codec.loads first = .error .recursion ∨ ∃ header, codec.loads first = .ok header ∧
      (codec.loads second = .error .recursion ∨ ∃ claims, codec.loads second = .ok claims ∧
        EddsaSigned codec request first second third header claims ∧
        EddsaTimesRaise codec claims))

theorem verifyEddsaText_crash_iff :
    verifyEddsaText codec request token = .error .crash ↔ EddsaEscapes codec request token := by
  unfold verifyEddsaText EddsaEscapes
  simp only [bind_crash_iff, require_ok_iff, require_ne_crash, requireSome_ok_iff,
    requireSome_ne_crash, false_or, Prod.exists, exists_const, Bool.and_eq_true,
    eddsaSegment_ok_iff, eddsaSegment_crash_iff, verifyTimes_crash_iff]
  constructor
  · rintro ⟨first, second, third, hsplit, hfirst | ⟨header, hheader, hsecond | ⟨claims, hclaims,
      ⟨hobject, hobject'⟩, ⟨halg, htyp⟩, key, hkey, signature, hdecode, hsigned, ⟨hiss, hsub⟩,
      hsubject, haudience, htimes⟩⟩⟩
    · exact ⟨first, second, third, hsplit, Or.inl hfirst⟩
    · exact ⟨first, second, third, hsplit, Or.inr ⟨header, hheader, Or.inl hsecond⟩⟩
    · exact ⟨first, second, third, hsplit, Or.inr ⟨header, hheader, Or.inr ⟨claims, hclaims,
        ⟨hobject, hobject', halg, htyp, ⟨key, signature, hkey, hdecode, hsigned⟩, hiss, hsub,
          hsubject, haudience⟩, htimes⟩⟩⟩
  · rintro ⟨first, second, third, hsplit, hfirst | ⟨header, hheader, hsecond | ⟨claims, hclaims,
      hchecks, htimes⟩⟩⟩
    · exact ⟨first, second, third, hsplit, Or.inl hfirst⟩
    · exact ⟨first, second, third, hsplit, Or.inr ⟨header, hheader, Or.inl hsecond⟩⟩
    · obtain ⟨key, signature, hkey, hdecode, hsigned⟩ := hchecks.signed
      exact ⟨first, second, third, hsplit, Or.inr ⟨header, hheader, Or.inr ⟨claims, hclaims,
        ⟨hchecks.headerObject, hchecks.claimsObject⟩, ⟨hchecks.algorithm, hchecks.purpose⟩, key,
        hkey, signature, hdecode, hsigned, ⟨hchecks.issuer, hchecks.subject⟩,
        hchecks.expectedSubject, hchecks.audience, htimes⟩⟩⟩

/-- The claims satisfy all checks of `verify_eddsa`. -/
def EddsaChecked (codec : TokenCodec κ) (request : EddsaRequest) (token : String)
    (claims : Json) : Prop :=
  ∃ first second third header, Holds codec token first second third header claims ∧
    EddsaSigned codec request first second third header claims ∧
    EddsaTimesHold codec claims request.maximumLifetimeSeconds request.now

theorem verifyEddsaText_checked {claims : Json}
    (h : verifyEddsaText codec request token = .ok claims) :
    EddsaChecked codec request token claims := by
  unfold verifyEddsaText at h
  simp only [bind_ok_iff, require_ok_iff, requireSome_ok_iff, Prod.exists, exists_const,
    Bool.and_eq_true, eddsaSegment_ok_iff] at h
  obtain ⟨first, second, third, hsplit, header, hheader, found, hclaims, ⟨hobject, hobject'⟩,
    ⟨halg, htyp⟩, key, hkey, signature, hdecode, hsigned, ⟨hiss, hsub⟩, hsubject, haudience,
    htimes⟩ := h
  obtain ⟨rfl, hhold⟩ := verifyTimes_holds htimes
  exact ⟨first, second, third, header, ⟨hsplit, hheader, hclaims⟩, ⟨hobject, hobject', halg, htyp,
    ⟨key, signature, hkey, hdecode, hsigned⟩, hiss, hsub, hsubject, haudience⟩, hhold⟩

end EddsaErrors

section OidcErrors

variable {κ : Type} {codec : TokenCodec κ} {request : OidcRequest} {jwks : Json}
  {token : String}

theorem oidcSegment_ok_iff {segment : String} {value : Json} :
    oidcSegment codec segment = .ok value ↔
      codec.loads segment = .ok value ∧ isObject value = true := by
  unfold oidcSegment
  split
  · next found heq =>
    rw [heq, Except.ok.injEq]
    split
    · next hobject =>
      rw [Except.ok.injEq]
      constructor
      · rintro rfl
        exact ⟨rfl, hobject⟩
      · exact fun h => h.1
    · next hobject =>
      constructor
      · intro h
        cases h
      · rintro ⟨rfl, h⟩
        exact absurd h hobject
  · next heq => simp [heq]
  · next heq => simp [heq]
  · next heq => simp [heq]

/-- The parser of JSON raises an error that is no `JSONDecodeError`. -/
def LoadsEscapes (codec : TokenCodec κ) (segment : String) : Prop :=
  codec.loads segment = .error .digits ∨ codec.loads segment = .error .recursion

theorem oidcSegment_crash_iff {segment : String} :
    oidcSegment codec segment = .error .crash ↔ LoadsEscapes codec segment := by
  unfold oidcSegment LoadsEscapes
  split
  · next found heq =>
    rw [heq]
    split
    · simp
    · simp
  · next heq => simp [heq]
  · next heq => simp [heq]
  · next failure hencoding hmalformed heq =>
    rw [heq]
    cases failure with
    | encoding => exact absurd rfl hencoding
    | malformed => exact absurd rfl hmalformed
    | digits => simp
    | recursion => simp

/-- The value is a list or an object. -/
def Unhashable (value : Option Json) : Prop :=
  ∃ found, value = some found ∧ hashable found = false

theorem inSet_crash_iff {value : Option Json} {none : Bool} {texts : List String} :
    inSet value none texts = .error .crash ↔ Unhashable value := by
  unfold Unhashable
  cases value with
  | none => simp [inSet]
  | some found =>
    cases found with
    | _ => simp [inSet, hashable]

theorem requireIn_crash_iff {value : Option Json} {none : Bool} {texts : List String}
    {message : String} :
    requireIn value none texts message = .error .crash ↔ Unhashable value := by
  unfold requireIn
  simp only [bind_crash_iff, require_ne_crash, inSet_crash_iff, and_false, exists_false, or_false]

theorem requireIn_ok_iff {value : Option Json} {none : Bool} {texts : List String}
    {message : String} {u : Unit} :
    requireIn value none texts message = .ok u ↔ inSet value none texts = .ok true := by
  unfold requireIn
  simp only [bind_ok_iff, require_ok_iff, exists_eq_right]

theorem requireSupported_crash_iff :
    requireSupported request = .error .crash ↔ request.supported = false := by
  unfold requireSupported
  cases request.supported with
  | true => simp
  | false => simp

theorem requireSupported_ok_iff {u : Unit} :
    requireSupported request = .ok u ↔ request.supported = true := by
  unfold requireSupported
  cases request.supported with
  | true => simp
  | false => simp

theorem allowedAlgorithm_crash_iff {header : Json} :
    allowedAlgorithm request header = .error .crash ↔ Unhashable (header.get? "alg") := by
  unfold allowedAlgorithm
  simp only [bind_crash_iff, requireIn_crash_iff, requireSome_ne_crash, and_false, exists_false,
    or_false]

theorem selectRsaKey_ne_crash {header : Json} {algorithm : String} :
    ¬selectRsaKey codec jwks header algorithm = .error .crash := by
  unfold selectRsaKey
  simp only [bind_crash_iff, requireSome_ok_iff, requireSome_ne_crash, false_or]
  rintro ⟨kid, -, hrest⟩
  split at hrest
  · simp only [bind_crash_iff, require_ok_iff, require_ne_crash, requireSome_ok_iff,
      requireSome_ne_crash, false_or, and_false, exists_false] at hrest
  · cases hrest

theorem compareDigest_crash_iff {text text' : String} :
    compareDigest text text' = .error .crash ↔ ¬(isAscii text = true ∧ isAscii text' = true) := by
  unfold compareDigest
  rw [← Bool.and_eq_true]
  cases isAscii text && isAscii text' with
  | true => simp
  | false => simp

theorem compareDigest_ok_iff {text text' : String} {same : Bool} :
    compareDigest text text' = .ok same ↔
      (isAscii text = true ∧ isAscii text' = true) ∧ decide (text = text') = same := by
  unfold compareDigest
  rw [← Bool.and_eq_true]
  cases isAscii text && isAscii text' with
  | true => simp
  | false => simp

/-- The times of `verify_oidc_id_token` raise at the first infinite number, where those before are
read. -/
def OidcTimesRaise (codec : TokenCodec κ) (claims : Json) : Prop :=
  IsInfinite claims "iat" ∨ IsReadable codec claims "iat" ∧
    (IsInfinite claims "exp" ∨ IsReadable codec claims "exp" ∧ IsInfinite claims "nbf")

theorem notBeforeClaim_crash_iff {claims : Json} {issuedAt : Int} :
    notBeforeClaim codec claims issuedAt = .error .crash ↔ IsInfinite claims "nbf" := by
  unfold notBeforeClaim
  by_cases hmissing : (claims.get? "nbf").isNone = true
  · rw [if_pos hmissing]
    unfold IsInfinite
    rw [Option.isNone_iff_eq_none.mp hmissing]
    exact iff_of_false (by simp) (by simp)
  · rw [if_neg hmissing]
    exact timeClaim_crash_iff

theorem verifyOidcTimes_crash_iff {claims : Json} :
    verifyOidcTimes codec request claims = .error .crash ↔ OidcTimesRaise codec claims := by
  unfold verifyOidcTimes OidcTimesRaise IsReadable
  simp only [bind_crash_iff, timeClaim_crash_iff, notBeforeClaim_crash_iff, require_ne_crash,
    and_false, exists_false, or_false]
  constructor
  · rintro (hissued | ⟨issuedAt, hissued, hexpires | ⟨expiresAt, hexpires, hbefore⟩⟩)
    · exact Or.inl hissued
    · exact Or.inr ⟨⟨issuedAt, hissued⟩, Or.inl hexpires⟩
    · exact Or.inr ⟨⟨issuedAt, hissued⟩, Or.inr ⟨⟨expiresAt, hexpires⟩, hbefore⟩⟩
  · rintro (hissued | ⟨⟨issuedAt, hissued⟩, hexpires | ⟨⟨expiresAt, hexpires⟩, hbefore⟩⟩)
    · exact Or.inl hissued
    · exact Or.inr ⟨issuedAt, hissued, Or.inl hexpires⟩
    · exact Or.inr ⟨issuedAt, hissued, Or.inr ⟨expiresAt, hexpires, hbefore⟩⟩

/-- What the times of claims that `verify_oidc_id_token` accepts are. -/
def OidcTimesHold (codec : TokenCodec κ) (request : OidcRequest) (claims : Json) : Prop :=
  ∃ issuedAt expiresAt notBefore,
    timeClaim codec.tools claims "iat" = .ok issuedAt ∧
      timeClaim codec.tools claims "exp" = .ok expiresAt ∧
      notBeforeClaim codec claims issuedAt = .ok notBefore ∧
      issuedAt ≤ epochSeconds request.now + request.clockSkewSeconds ∧
      notBefore ≤ epochSeconds request.now + request.clockSkewSeconds ∧
      epochSeconds request.now - request.clockSkewSeconds < expiresAt

theorem verifyOidcTimes_holds {claims : Json} {u : Unit}
    (h : verifyOidcTimes codec request claims = .ok u) : OidcTimesHold codec request claims := by
  unfold verifyOidcTimes at h
  simp only [bind_ok_iff, require_ok_iff, exists_const, Bool.and_eq_true, decide_eq_true_eq] at h
  obtain ⟨issuedAt, hissued, expiresAt, hexpires, notBefore, hbefore, ⟨hactive, hactive'⟩,
    hlive⟩ := h
  exact ⟨issuedAt, expiresAt, notBefore, hissued, hexpires, hbefore, hactive, hactive', hlive⟩

/-- No other party is asked for than that of the claims, if they name one. -/
def PartyAccepted (request : OidcRequest) (claims : Json) : Prop :=
  ∀ party, request.authorizedParty = some party →
    inSet (claims.get? "azp") true [party] = .ok true

theorem verifyParty_ok_iff {claims : Json} {u : Unit} :
    verifyParty request claims = .ok u ↔ PartyAccepted request claims := by
  unfold verifyParty PartyAccepted
  cases request.authorizedParty with
  | none => simp
  | some party => simp [requireIn_ok_iff]

theorem verifyParty_crash_iff {claims : Json} :
    verifyParty request claims = .error .crash ↔
      request.authorizedParty.isSome = true ∧ Unhashable (claims.get? "azp") := by
  unfold verifyParty
  cases request.authorizedParty with
  | none => simp
  | some party => simp [requireIn_crash_iff]

/-- The claims are of the issuer, for someone, and for the audience. -/
structure OidcAddressed (request : OidcRequest) (claims : Json) : Prop where
  issuer : hasText claims "iss" (stripSlashes request.issuer) = true
  subject : (filledText? claims "sub").isSome = true
  audience : ∃ items, audiences claims = some items ∧ listsText items request.audience = true ∧
    (items.length ≤ 1 || hasText claims "azp" request.audience) = true

/-- The nonces are compared. -/
def NoncesComparable (codec : TokenCodec κ) (request : OidcRequest) (claims : Json) : Prop :=
  isAscii (nonceText codec claims) = true ∧ isAscii request.nonce = true

/-- Another exception leaves the checks of the claims: that of a party with no hash, of a nonce
that is not ASCII, or of an infinite time, where the claims pass every check before. -/
def OidcClaimsEscape (codec : TokenCodec κ) (request : OidcRequest) (claims : Json) : Prop :=
  OidcAddressed request claims ∧
    (request.authorizedParty.isSome = true ∧ Unhashable (claims.get? "azp") ∨
      PartyAccepted request claims ∧
        (¬NoncesComparable codec request claims ∨
          NoncesComparable codec request claims ∧ nonceText codec claims = request.nonce ∧
            OidcTimesRaise codec claims))

theorem validateOidcClaims_crash_iff {claims : Json} :
    validateOidcClaims codec request claims = .error .crash ↔
      OidcClaimsEscape codec request claims := by
  unfold validateOidcClaims OidcClaimsEscape NoncesComparable
  simp only [bind_crash_iff, require_ok_iff, require_ne_crash, requireSome_ok_iff,
    requireSome_ne_crash, false_or, exists_const, verifyParty_crash_iff, verifyParty_ok_iff,
    compareDigest_crash_iff, compareDigest_ok_iff, verifyOidcTimes_crash_iff]
  constructor
  · rintro ⟨hissuer, hsubject, items, hitems, haudience, hparties, hrest⟩
    refine ⟨⟨hissuer, hsubject, items, hitems, haudience, hparties⟩, ?_⟩
    rcases hrest with hparty | ⟨hparty, hrest⟩
    · exact Or.inl hparty
    · rcases hrest with hascii | ⟨same, ⟨hascii, rfl⟩, hsame, htimes⟩
      · exact Or.inr ⟨hparty, Or.inl hascii⟩
      · exact Or.inr ⟨hparty, Or.inr ⟨hascii, of_decide_eq_true hsame, htimes⟩⟩
  · rintro ⟨⟨hissuer, hsubject, items, hitems, haudience, hparties⟩, hrest⟩
    refine ⟨hissuer, hsubject, items, hitems, haudience, hparties, ?_⟩
    rcases hrest with hparty | ⟨hparty, hascii | ⟨hascii, hsame, htimes⟩⟩
    · exact Or.inl hparty
    · exact Or.inr ⟨hparty, Or.inl hascii⟩
    · exact Or.inr ⟨hparty, Or.inr ⟨true, ⟨hascii, decide_eq_true hsame⟩, rfl, htimes⟩⟩

/-- The signature of a token verifies under the selected key. -/
def OidcSigned (codec : TokenCodec κ) (jwks header : Json) (algorithm first second third : String) :
    Prop :=
  ∃ key signature, selectRsaKey codec jwks header algorithm = .ok key ∧
    codec.decode third = some signature ∧
    codec.rsaVerify key (hashAlgorithm algorithm) signature (first ++ "." ++ second) = true

theorem oidcSigned_and_iff {header : Json} {algorithm first second third : String} {p : Prop} :
    (∃ key, selectRsaKey codec jwks header algorithm = .ok key ∧
      ∃ signature, codec.decode third = some signature ∧
        codec.rsaVerify key (hashAlgorithm algorithm) signature (first ++ "." ++ second) = true ∧
          p) ↔
      OidcSigned codec jwks header algorithm first second third ∧ p := by
  constructor
  · rintro ⟨key, hkey, signature, hdecode, hsigned, hp⟩
    exact ⟨⟨key, signature, hkey, hdecode, hsigned⟩, hp⟩
  · rintro ⟨⟨key, signature, hkey, hdecode, hsigned⟩, hp⟩
    exact ⟨key, hkey, signature, hdecode, hsigned, hp⟩

/-- Another exception leaves the checks of a header and claims: that of an algorithm or a type
with no hash, or one of the checks of the claims. -/
def OidcHeaderEscape (codec : TokenCodec κ) (request : OidcRequest) (jwks header claims : Json)
    (first second third : String) : Prop :=
  Unhashable (header.get? "alg") ∨
    ∃ algorithm, allowedAlgorithm request header = .ok algorithm ∧
      (Unhashable (header.get? "typ") ∨
        inSet (header.get? "typ") true ["JWT"] = .ok true ∧
          OidcSigned codec jwks header algorithm first second third ∧
          OidcClaimsEscape codec request claims)

/-- Another exception than a validation error leaves `verify_oidc_id_token`. -/
def OidcEscapes (codec : TokenCodec κ) (request : OidcRequest) (jwks : Json) (token : String) :
    Prop :=
  request.supported = false ∨ request.supported = true ∧
    ∃ first second third, splitToken token = some (first, second, third) ∧
      (LoadsEscapes codec first ∨
        ∃ header, (codec.loads first = .ok header ∧ isObject header = true) ∧
          (LoadsEscapes codec second ∨
            ∃ claims, (codec.loads second = .ok claims ∧ isObject claims = true) ∧
              OidcHeaderEscape codec request jwks header claims first second third))

theorem verifyOidcIdToken_crash_iff :
    verifyOidcIdToken codec request jwks token = .error .crash ↔
      OidcEscapes codec request jwks token := by
  unfold verifyOidcIdToken OidcEscapes OidcHeaderEscape
  simp only [bind_crash_iff, require_ok_iff, require_ne_crash, requireSome_ok_iff,
    requireSome_ne_crash, false_or, exists_const, Prod.exists, requireSupported_crash_iff,
    requireSupported_ok_iff, oidcSegment_ok_iff, oidcSegment_crash_iff, allowedAlgorithm_crash_iff,
    requireIn_crash_iff, requireIn_ok_iff, selectRsaKey_ne_crash, validateOidcClaims_crash_iff,
    pure, Except.pure, reduceCtorEq, and_false, or_false, oidcSigned_and_iff]

/-- The claims satisfy all checks of `verify_oidc_id_token`. -/
def OidcChecked (codec : TokenCodec κ) (request : OidcRequest) (jwks : Json) (token : String)
    (claims : Json) : Prop :=
  ∃ first second third header algorithm,
    Holds codec token first second third header claims ∧ isObject header = true ∧
      isObject claims = true ∧ allowedAlgorithm request header = .ok algorithm ∧
      inSet (header.get? "typ") true ["JWT"] = .ok true ∧
      OidcSigned codec jwks header algorithm first second third ∧ OidcAddressed request claims ∧
      PartyAccepted request claims ∧ nonceText codec claims = request.nonce ∧
      OidcTimesHold codec request claims

theorem validateOidcClaims_holds {claims : Json} {u : Unit}
    (h : validateOidcClaims codec request claims = .ok u) :
    OidcAddressed request claims ∧ PartyAccepted request claims ∧
      nonceText codec claims = request.nonce ∧ OidcTimesHold codec request claims := by
  unfold validateOidcClaims at h
  simp only [bind_ok_iff, require_ok_iff, requireSome_ok_iff, exists_const, verifyParty_ok_iff,
    compareDigest_ok_iff] at h
  obtain ⟨hissuer, hsubject, items, hitems, haudience, hparties, hparty, same, ⟨-, rfl⟩, hsame,
    htimes⟩ := h
  exact ⟨⟨hissuer, hsubject, items, hitems, haudience, hparties⟩, hparty,
    of_decide_eq_true hsame, verifyOidcTimes_holds htimes⟩

theorem verifyOidcIdToken_checked {claims : Json}
    (h : verifyOidcIdToken codec request jwks token = .ok claims) :
    OidcChecked codec request jwks token claims := by
  unfold verifyOidcIdToken at h
  simp only [bind_ok_iff, require_ok_iff, requireSome_ok_iff, exists_const, Prod.exists,
    requireSupported_ok_iff, oidcSegment_ok_iff, requireIn_ok_iff, pure, Except.pure,
    Except.ok.injEq] at h
  obtain ⟨-, first, second, third, hsplit, header, ⟨hheader, hobject⟩, found,
    ⟨hclaims, hobject'⟩, algorithm, halgorithm, htype, key, hkey, signature, hdecode, hsigned,
    u, hvalid, rfl⟩ := h
  obtain ⟨haddressed, hparty, hnonce, htimes⟩ := validateOidcClaims_holds hvalid
  exact ⟨first, second, third, header, algorithm, ⟨hsplit, hheader, hclaims⟩, hobject, hobject',
    halgorithm, htype, ⟨key, signature, hkey, hdecode, hsigned⟩, haddressed, hparty, hnonce,
    htimes⟩

end OidcErrors

section Refinement

variable {κ : Type} {codec : TokenCodec κ} {request : EddsaRequest} {token : String}

/-- The tools decode a token to what its segments hold. -/
theorem tools_decode_iff {header claims : Json} :
    codec.tools.decode token = some (header, claims) ↔
      ∃ first second third, Holds codec token first second third header claims := by
  unfold TokenCodec.tools
  constructor
  · intro hdecode
    cases hsplit : splitToken token with
    | none => simp [hsplit] at hdecode
    | some segments =>
      obtain ⟨first, second, third⟩ := segments
      cases hfirst : codec.loads first with
      | error e => simp [hsplit, hfirst, Except.toOption] at hdecode
      | ok header' =>
        cases hsecond : codec.loads second with
        | error e => simp [hsplit, hfirst, hsecond, Except.toOption] at hdecode
        | ok claims' =>
          have hsame : header' = header ∧ claims' = claims := by
            simpa [hsplit, hfirst, hsecond, Except.toOption] using hdecode
          obtain ⟨rfl, rfl⟩ := hsame
          exact ⟨first, second, third, hsplit, hfirst, hsecond⟩
  · rintro ⟨first, second, third, hsplit, hfirst, hsecond⟩
    simp [hsplit, hfirst, hsecond, Except.toOption]

/-- The tools accept a signature that decodes and that the key verifies. -/
theorem tools_signatureOk_iff {first second third key : String}
    (hsplit : splitToken token = some (first, second, third)) :
    codec.tools.signatureOk key token = true ↔
      ∃ signature, codec.decode third = some signature ∧
        codec.ed25519Verify key signature (first ++ "." ++ second) = true := by
  unfold TokenCodec.tools
  simp only [hsplit, Option.any_eq_true]

theorem verifyEddsa_ok_iff {τ : Type} {tools : TokenTools τ} {text : τ}
    {publicKeys : List (String × String)} {expectedType issuer audience : String}
    {lifetime : Int} {now : Micros} {claims : Json} :
    verifyEddsa tools text publicKeys expectedType issuer audience lifetime now = .ok claims ↔
      ∃ header found, tools.decode text = some (header, found) ∧ isObject header = true ∧
        isObject found = true ∧ hasText header "alg" "EdDSA" = true ∧
        hasText header "typ" expectedType = true ∧
        (∃ key, signingKey publicKeys header = some key ∧ tools.signatureOk key text = true) ∧
        hasText found "iss" issuer = true ∧ (filledText? found "sub").isSome = true ∧
        audienceOk found audience = true ∧ verifyTimes tools found lifetime now = .ok claims := by
  unfold verifyEddsa
  constructor
  · intro hok
    split at hok
    · cases hok
    · next header found hdecode =>
      split at hok
      · cases hok
      · next hobjects =>
        split at hok
        · cases hok
        · next hpurpose =>
          split at hok
          · cases hok
          · next key hkey =>
            split at hok
            · cases hok
            · next hsigned =>
              split at hok
              · cases hok
              · next hidentity =>
                split at hok
                · cases hok
                · next haudience =>
                  simp only [Bool.not_eq_true', Bool.not_eq_false, Bool.and_eq_true] at hobjects
                  simp only [Bool.not_eq_true', Bool.not_eq_false, Bool.and_eq_true] at hpurpose
                  simp only [Bool.not_eq_true', Bool.not_eq_false] at hsigned haudience
                  simp only [not_or, Bool.not_eq_true', Bool.not_eq_false,
                    Bool.not_eq_true, Option.isNone_eq_false_iff] at hidentity
                  exact ⟨header, found, hdecode, hobjects.1, hobjects.2, hpurpose.1, hpurpose.2,
                    ⟨key, hkey, hsigned⟩, hidentity.1, hidentity.2, haudience, hok⟩
  · rintro ⟨header, found, hdecode, hobject, hobject', halg, htyp, ⟨key, hkey, hsigned⟩, hiss,
      hsub, haudience, htimes⟩
    have hpresent : (filledText? found "sub").isNone = false := by
      rw [← Option.not_isSome, hsub]
      rfl
    rw [hdecode]
    simp [hobject, hobject', halg, htyp, hkey, hsigned, hiss, hpresent, haudience, htimes]

/-- Without an expected subject, the text of a token is accepted as the token is. -/
theorem verifyEddsaText_ok_iff {claims : Json} (hsubject : request.subject = none) :
    verifyEddsaText codec request token = .ok claims ↔
      verifyEddsa codec.tools token request.publicKeys request.expectedType request.issuer
        request.audience request.maximumLifetimeSeconds request.now = .ok claims := by
  rw [verifyEddsa_ok_iff]
  unfold verifyEddsaText
  rw [hsubject]
  simp only [bind_ok_iff, require_ok_iff, requireSome_ok_iff, Prod.exists, exists_const,
    Bool.and_eq_true, eddsaSegment_ok_iff, Option.all_none, true_and, tools_decode_iff]
  constructor
  · rintro ⟨first, second, third, hsplit, header, hheader, found, hclaims, ⟨hobject, hobject'⟩,
      ⟨halg, htyp⟩, key, hkey, signature, hdecode, hsigned, ⟨hiss, hsub⟩, haudience, htimes⟩
    exact ⟨header, found, ⟨first, second, third, hsplit, hheader, hclaims⟩, hobject, hobject',
      halg, htyp, ⟨key, hkey, (tools_signatureOk_iff hsplit).mpr ⟨signature, hdecode, hsigned⟩⟩,
      hiss, hsub, haudience, htimes⟩
  · rintro ⟨header, found, ⟨first, second, third, hsplit, hheader, hclaims⟩, hobject, hobject',
      halg, htyp, ⟨key, hkey, hok⟩, hiss, hsub, haudience, htimes⟩
    obtain ⟨signature, hdecode, hsigned⟩ := (tools_signatureOk_iff hsplit).mp hok
    exact ⟨first, second, third, hsplit, header, hheader, found, hclaims, ⟨hobject, hobject'⟩,
      ⟨halg, htyp⟩, key, hkey, signature, hdecode, hsigned, ⟨hiss, hsub⟩, haudience, htimes⟩

end Refinement

/-- The claims that are returned satisfy the checks, or a validation error is raised. -/
def Settled (result : Except TokenError Json) (checked : Json → Prop) : Prop :=
  (∃ claims, result = .ok claims ∧ checked claims) ∨
    ∃ message, result = .error (.validation message)

theorem settled_iff {result : Except TokenError Json} {checked : Json → Prop}
    (hchecked : ∀ claims, result = .ok claims → checked claims) :
    Settled result checked ↔ ¬result = .error .crash := by
  unfold Settled
  cases result with
  | ok claims => exact iff_of_true (Or.inl ⟨claims, rfl, hchecked claims rfl⟩) (by simp)
  | error e =>
    cases e with
    | validation message => exact iff_of_true (Or.inr ⟨message, rfl⟩) (by simp)
    | crash => simp

/-- Either verification returns claims that satisfy its checks or raises a validation error exactly
when no other exception leaves one of its steps. -/
theorem verification_settled_iff {κ : Type} (codec : TokenCodec κ) :
    (∀ request token,
      Settled (verifyEddsaText codec request token) (EddsaChecked codec request token) ↔
        ¬EddsaEscapes codec request token) ∧
    ∀ request jwks token,
      Settled (verifyOidcIdToken codec request jwks token)
          (OidcChecked codec request jwks token) ↔
        ¬OidcEscapes codec request jwks token := by
  constructor
  · intro request token
    rw [settled_iff fun claims h => verifyEddsaText_checked h, verifyEddsaText_crash_iff]
  · intro request jwks token
    rw [settled_iff fun claims h => verifyOidcIdToken_checked h, verifyOidcIdToken_crash_iff]

section Tokens

/-- What the segments of a token with a list for its algorithm hold. -/
def listCodec : TokenCodec Unit where
  loads segment :=
    if segment = "eyJhbGciOltdfQ" then .ok (.obj [("alg", .arr [])])
    else if segment = "e30" then .ok (.obj [])
    else .error .encoding
  decode _ := none
  ed25519Verify _ _ _ := false
  keyNumber _ := none
  rsaPublicKey _ _ := none
  rsaVerify _ _ _ _ := false
  intOfText _ := none
  strOther _ := ""

def loginRequest : OidcRequest where
  issuer := "https://login.example"
  audience := "console"
  nonce := "n"
  now := 0

/-- A list for the algorithm raises another exception, whatever the keys. -/
theorem list_algorithm_escapes :
    ¬ ∃ jwks, Settled (verifyOidcIdToken listCodec loginRequest jwks "eyJhbGciOltdfQ.e30.AA")
      (OidcChecked listCodec loginRequest jwks "eyJhbGciOltdfQ.e30.AA") := by
  rintro ⟨jwks, hsettled⟩
  have hsplit : splitToken "eyJhbGciOltdfQ.e30.AA" = some ("eyJhbGciOltdfQ", "e30", "AA") := by
    have hchars : "eyJhbGciOltdfQ.e30.AA".toList = ['e', 'y', 'J', 'h', 'b', 'G', 'c', 'i', 'O',
      'l', 't', 'd', 'f', 'Q', '.', 'e', '3', '0', '.', 'A', 'A'] := String.toList_ofList
    unfold splitToken
    rw [hchars]
    rfl
  have hescapes : OidcEscapes listCodec loginRequest jwks "eyJhbGciOltdfQ.e30.AA" :=
    Or.inr ⟨by decide, _, _, _, hsplit, Or.inr ⟨_, ⟨rfl, rfl⟩, Or.inr ⟨_, ⟨rfl, rfl⟩,
      Or.inl ⟨_, rfl, rfl⟩⟩⟩⟩
  rw [settled_iff fun claims h => verifyOidcIdToken_checked h, verifyOidcIdToken_crash_iff]
    at hsettled
  exact hsettled hescapes

end Tokens

end GhostRecon.Security
