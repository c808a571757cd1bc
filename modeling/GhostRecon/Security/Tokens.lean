import GhostRecon.Security.Workload

/-!
What a workload signs and what a verifier accepts. Signatures are ideal: one verifies under the
public key of the key that made it and no other. A token that was issued is accepted where it was
issued for, by its kind, under a registered key and in its window, and nowhere else, but for one
kind: the clocks are cut off towards the epoch, and a token of one second issued in the second
before it expires when it is issued.
-/

namespace GhostRecon.Security

section Issues

/-- `RuntimeProfile`. -/
inductive Environment where
  | local | test | staging | production
  deriving DecidableEq, Repr

def Environment.value : Environment → String
  | .local => "local"
  | .test => "test"
  | .staging => "staging"
  | .production => "production"

def workloadUrn (environment workload : String) : String :=
  "urn:ghostrecon:" ++ environment ++ ":workload:" ++ workload

def receiverUrn (environment receiver : String) : String :=
  "urn:ghostrecon:" ++ environment ++ ":service:" ++ receiver

/-- What is assumed of keys and of the text of tokens: the header and the claims that were signed
come back, and the signature verifies under its own public key alone. -/
structure TokenTools.Ideal {τ : Type} (tools : TokenTools τ) (publicOf : String → String) :
    Prop where
  decode_sign : ∀ privateKey header claims, isObject header = true → isObject claims = true →
    ∃ header' claims',
      tools.decode (tools.sign privateKey header claims) = some (header', claims') ∧
      isObject header' = true ∧ isObject claims' = true ∧
      (∀ key, header'.get? key = header.get? key) ∧ ∀ key, claims'.get? key = claims.get? key
  signatureOk_sign : ∀ privateKey header claims publicKey,
    tools.signatureOk publicKey (tools.sign privateKey header claims) = true ↔
      publicKey = publicOf privateKey

/-- The key a token is signed with and the kind it is signed as. -/
structure Signing where
  privateKey : String
  kid : String
  tokenType : String
  deriving DecidableEq, Repr

/-- The key is registered for the workload, under its name. -/
def RegisteredFor (publicOf : String → String) (signing : Signing) (issuer : String)
    (trusted : TrustedWorkload) : Prop :=
  trusted.issuer = issuer ∧
    trusted.publicKeys.lookup signing.kid = some (publicOf signing.privateKey)

/-- The clock of the verifier is in the window of a token. -/
def InWindow (issuedAt expiresAt clock : Int) : Prop :=
  issuedAt - 30 ≤ clock ∧ clock < expiresAt + 30

/-- What a verifier reads of the claims of an issued token. -/
structure IssuedClaims (claims : Json) (issuer audience : String)
    (issuedAt notBefore expiresAt : Int) : Prop where
  object : isObject claims = true
  iss : claims.get? "iss" = some (.str issuer)
  sub : ∃ subject, claims.get? "sub" = some (.str subject) ∧ subject ≠ ""
  aud : claims.get? "aud" = some (.str audience)
  iat : claims.get? "iat" = some (.int issuedAt)
  nbf : claims.get? "nbf" = some (.int notBefore)
  exp : claims.get? "exp" = some (.int expiresAt)
  jti : ∃ jti, claims.get? "jti" = some (.str jti) ∧ jti ≠ ""

/-- The times that `verify_eddsa` lets pass. -/
def TimesAccepted (issuedAt notBefore expiresAt maximumLifetimeSeconds clock : Int) : Prop :=
  issuedAt ≤ clock + 30 ∧ notBefore ≤ clock + 30 ∧ clock - 30 < expiresAt ∧
    issuedAt < expiresAt ∧ expiresAt - issuedAt ≤ maximumLifetimeSeconds

end Issues

section Clocks

theorem epochSeconds_of_nonneg {time : Int} (h : 0 ≤ time) :
    epochSeconds time = time / 1000000 :=
  Int.tdiv_eq_ediv_of_nonneg h

theorem epochSeconds_of_neg {time : Int} (h : time < 0) :
    epochSeconds time = -(-time / 1000000) := by
  unfold epochSeconds
  rw [← Int.tdiv_eq_ediv_of_nonneg (by omega), Int.neg_tdiv, neg_neg]

/-- Earlier times have earlier seconds. -/
theorem epochSeconds_mono {time time' : Int} (h : time ≤ time') :
    epochSeconds time ≤ epochSeconds time' := by
  rcases lt_or_ge time 0 with hneg | hnonneg
  · rw [epochSeconds_of_neg hneg]
    rcases lt_or_ge time' 0 with hneg' | hnonneg'
    · rw [epochSeconds_of_neg hneg']
      omega
    · rw [epochSeconds_of_nonneg hnonneg']
      omega
  · rw [epochSeconds_of_nonneg hnonneg, epochSeconds_of_nonneg (hnonneg.trans h)]
    omega

/-- The seconds of a lifetime: none too many, and none at all for one second across the epoch. -/
theorem lifetime_iff (issued : Int) {lifetime : Int} (h : 1 ≤ lifetime) :
    epochSeconds (issued + lifetime * 1000000) - epochSeconds issued ≤ lifetime ∧
      (epochSeconds issued < epochSeconds (issued + lifetime * 1000000) ↔
        ¬(lifetime = 1 ∧ -1000000 < issued ∧ issued < 0)) := by
  rcases lt_or_ge issued 0 with hneg | hnonneg
  · rw [epochSeconds_of_neg hneg]
    rcases lt_or_ge (issued + lifetime * 1000000) 0 with hneg' | hnonneg'
    · rw [epochSeconds_of_neg hneg']
      omega
    · rw [epochSeconds_of_nonneg hnonneg']
      omega
  · rw [epochSeconds_of_nonneg hnonneg, epochSeconds_of_nonneg (by omega)]
    omega

end Clocks

section Urns

def Environment.letters : Environment → List Char
  | .local => ['l', 'o', 'c', 'a', 'l']
  | .test => ['t', 'e', 's', 't']
  | .staging => ['s', 't', 'a', 'g', 'i', 'n', 'g']
  | .production => ['p', 'r', 'o', 'd', 'u', 'c', 't', 'i', 'o', 'n']

theorem Environment.toList_value (environment : Environment) :
    environment.value.toList = environment.letters := by
  cases environment with
  | _ => exact String.toList_ofList

theorem Environment.colon_notMem (environment : Environment) :
    ':' ∉ environment.value.toList := by
  rw [environment.toList_value]
  cases environment with
  | _ => decide

theorem Environment.value_injective : Function.Injective Environment.value := by
  intro environment environment' h
  have hletters := congrArg String.toList h
  rw [toList_value, toList_value] at hletters
  revert hletters
  cases environment with
  | _ =>
    cases environment' with
    | _ => decide

/-- A text up to its first separator is read back. -/
theorem append_cons_inj {α : Type} {c : α} {l l' rest rest' : List α} (h : c ∉ l) (h' : c ∉ l')
    (heq : l ++ c :: rest = l' ++ c :: rest') : l = l' ∧ rest = rest' := by
  induction l generalizing l' with
  | nil =>
    cases l' with
    | nil => exact ⟨rfl, (List.cons.inj heq).2⟩
    | cons head tail =>
      have hhead := (List.cons.inj heq).1
      exact absurd (hhead ▸ List.mem_cons_self) h'
  | cons head tail ih =>
    cases l' with
    | nil =>
      have hhead := (List.cons.inj heq).1
      exact absurd (hhead ▸ List.mem_cons_self) h
    | cons head' tail' =>
      obtain ⟨rfl, htail⟩ := List.cons.inj heq
      obtain ⟨rfl, rfl⟩ := ih (fun hmem => h (List.mem_cons_of_mem _ hmem))
        (fun hmem => h' (List.mem_cons_of_mem _ hmem)) htail
      exact ⟨rfl, rfl⟩

/-- The name of a receiver tells it and its environment. -/
theorem receiverUrn_inj {environment environment' : Environment} {receiver receiver' : String} :
    receiverUrn environment.value receiver = receiverUrn environment'.value receiver' ↔
      environment = environment' ∧ receiver = receiver' := by
  constructor
  · intro h
    have hchars := congrArg String.toList h
    unfold receiverUrn at hchars
    rw [String.toList_append, String.toList_append, String.toList_append, String.toList_append,
      String.toList_append, String.toList_append, List.append_assoc, List.append_assoc,
      List.append_assoc, List.append_assoc] at hchars
    have hrest := List.append_cancel_left hchars
    have hservice : ":service:".toList = ':' :: "service:".toList := String.toList_ofList
    rw [hservice] at hrest
    obtain ⟨henvironment, htail⟩ :=
      append_cons_inj environment.colon_notMem environment'.colon_notMem hrest
    exact ⟨Environment.value_injective (String.toList_inj.mp henvironment),
      String.toList_inj.mp (List.append_cancel_left htail)⟩
  · rintro ⟨rfl, rfl⟩
    rfl

end Urns

section Verifying

variable {τ : Type} {tools : TokenTools τ} {publicOf : String → String} {claims : Json}
  {issuer audience : String} {issuedAt notBefore expiresAt : Int}

/-- `sign_eddsa` with a key of its own. -/
def Signing.sign (tools : TokenTools τ) (signing : Signing) (claims : Json) : τ :=
  signEddsa tools claims signing.privateKey signing.kid signing.tokenType

theorem IssuedClaims.congr {claims' : Json}
    (h : IssuedClaims claims issuer audience issuedAt notBefore expiresAt)
    (hobject : isObject claims' = true) (hsame : ∀ key, claims'.get? key = claims.get? key) :
    IssuedClaims claims' issuer audience issuedAt notBefore expiresAt where
  object := hobject
  iss := (hsame _).trans h.iss
  sub := by
    obtain ⟨subject, hsubject, hne⟩ := h.sub
    exact ⟨subject, (hsame _).trans hsubject, hne⟩
  aud := (hsame _).trans h.aud
  iat := (hsame _).trans h.iat
  nbf := (hsame _).trans h.nbf
  exp := (hsame _).trans h.exp
  jti := by
    obtain ⟨jti, hjti, hne⟩ := h.jti
    exact ⟨jti, (hsame _).trans hjti, hne⟩

theorem filledText?_of_str {key text : String} (h : claims.get? key = some (.str text))
    (hne : text ≠ "") : filledText? claims key = some text := by
  unfold filledText?
  rw [h]
  exact if_neg hne

/-- The checks on the times of issued claims. -/
theorem verifyTimes_issued (tools : TokenTools τ)
    (h : IssuedClaims claims issuer audience issuedAt notBefore expiresAt)
    (lifetime : Int) (now : Micros) :
    (TimesAccepted issuedAt notBefore expiresAt lifetime (epochSeconds now) →
      verifyTimes tools claims lifetime now = .ok claims) ∧
    (¬TimesAccepted issuedAt notBefore expiresAt lifetime (epochSeconds now) →
      ∃ message, verifyTimes tools claims lifetime now = .error (.validation message)) := by
  obtain ⟨jti, hjti, hne⟩ := h.jti
  have hiat : timeClaim tools claims "iat" = .ok issuedAt := by
    unfold timeClaim
    rw [h.iat]
    rfl
  have hnbf : timeClaim tools claims "nbf" = .ok notBefore := by
    unfold timeClaim
    rw [h.nbf]
    rfl
  have hexp : timeClaim tools claims "exp" = .ok expiresAt := by
    unfold timeClaim
    rw [h.exp]
    rfl
  unfold verifyTimes TimesAccepted
  rw [hiat, hnbf, hexp, filledText?_of_str hjti hne]
  simp only [bind, Except.bind, Option.isNone_some, Bool.false_eq_true, if_false]
  constructor
  · rintro ⟨hissued, hbefore, hlive, hlong, hshort⟩
    rw [if_neg (by omega), if_neg (by omega), if_neg (by omega)]
  · intro hrefused
    split
    · exact ⟨_, rfl⟩
    · split
      · exact ⟨_, rfl⟩
      · split
        · exact ⟨_, rfl⟩
        · exact absurd (by omega) hrefused

/-- What a verifier asks of an issued token. -/
def Accepts (publicOf : String → String) (signing : Signing) (trusted : TrustedWorkload)
    (issuer audience expectedType expectedAudience : String)
    (issuedAt notBefore expiresAt maximumLifetimeSeconds clock : Int) : Prop :=
  signing.tokenType = expectedType ∧ RegisteredFor publicOf signing issuer trusted ∧
    audience = expectedAudience ∧
    TimesAccepted issuedAt notBefore expiresAt maximumLifetimeSeconds clock

/-- An issued token is accepted, or refused with a validation error. -/
theorem verifyEddsa_issued (hideal : tools.Ideal publicOf)
    (h : IssuedClaims claims issuer audience issuedAt notBefore expiresAt) (signing : Signing)
    (trusted : TrustedWorkload) (expectedType expectedAudience : String) (lifetime : Int)
    (now : Micros) :
    (Accepts publicOf signing trusted issuer audience expectedType expectedAudience issuedAt
        notBefore expiresAt lifetime (epochSeconds now) →
      ∃ found, verifyEddsa tools (signing.sign tools claims) trusted.publicKeys expectedType
        trusted.issuer expectedAudience lifetime now = .ok found) ∧
    (¬Accepts publicOf signing trusted issuer audience expectedType expectedAudience issuedAt
        notBefore expiresAt lifetime (epochSeconds now) →
      ∃ message, verifyEddsa tools (signing.sign tools claims) trusted.publicKeys expectedType
        trusted.issuer expectedAudience lifetime now = .error (.validation message)) := by
  obtain ⟨header, found, hdecode, hheader, hfound, hsameHeader, hsame⟩ :=
    hideal.decode_sign signing.privateKey
      (.obj [("alg", .str "EdDSA"), ("kid", .str signing.kid), ("typ", .str signing.tokenType)])
      claims rfl h.object
  have hissued := h.congr hfound hsame
  have hsignature := hideal.signatureOk_sign signing.privateKey
      (.obj [("alg", .str "EdDSA"), ("kid", .str signing.kid), ("typ", .str signing.tokenType)])
      claims
  have halg : hasText header "alg" "EdDSA" = true := by
    unfold hasText
    rw [hsameHeader]
    rfl
  have htyp : hasText header "typ" expectedType = decide (signing.tokenType = expectedType) := by
    unfold hasText
    rw [hsameHeader]
    rfl
  have hkey : signingKey trusted.publicKeys header = trusted.publicKeys.lookup signing.kid := by
    unfold signingKey
    rw [hsameHeader]
    rfl
  have hiss : hasText found "iss" trusted.issuer = decide (issuer = trusted.issuer) := by
    unfold hasText
    rw [hissued.iss]
  have haud : audienceOk found expectedAudience = decide (audience = expectedAudience) := by
    unfold audienceOk
    rw [hissued.aud]
  obtain ⟨subject, hsubject, hne⟩ := hissued.sub
  obtain ⟨haccept, hrefuse⟩ := verifyTimes_issued tools hissued lifetime now
  have hrun : verifyEddsa tools (signing.sign tools claims) trusted.publicKeys expectedType
      trusted.issuer expectedAudience lifetime now =
        if signing.tokenType = expectedType then
          (trusted.publicKeys.lookup signing.kid).elim
            (.error (.validation "unknown signing key")) fun key =>
              if key = publicOf signing.privateKey then
                if issuer = trusted.issuer then
                  if audience = expectedAudience then verifyTimes tools found lifetime now
                  else .error (.validation "invalid token audience")
                else .error (.validation "invalid token identity")
              else .error (.validation "invalid token signature")
        else .error (.validation "invalid token purpose") := by
    unfold verifyEddsa Signing.sign signEddsa
    rw [hdecode]
    dsimp only
    rw [hheader, hfound, halg, htyp, hkey, hiss, haud, filledText?_of_str hsubject hne]
    by_cases htype : signing.tokenType = expectedType
    · rw [if_pos htype, decide_eq_true htype]
      cases hlookup : trusted.publicKeys.lookup signing.kid with
      | none => rfl
      | some key =>
        by_cases hsigned : key = publicOf signing.privateKey
        · subst hsigned
          have hok := (hsignature _).mpr rfl
          by_cases hissuer : issuer = trusted.issuer
          · by_cases haudience : audience = expectedAudience
            · simp [hok, hissuer, haudience]
            · simp [hok, hissuer, haudience]
          · simp [hok, hissuer]
        · have hbad : tools.signatureOk key (tools.sign signing.privateKey _ claims) = false :=
            Bool.eq_false_iff.mpr fun hok => hsigned ((hsignature key).mp hok)
          simp [hbad, hsigned]
    · simp [htype]
  rw [hrun]
  constructor
  · rintro ⟨htype, ⟨hissuer, hlookup⟩, haudience, htimes⟩
    rw [if_pos htype, hlookup, Option.elim_some]
    rw [if_pos rfl, if_pos hissuer.symm, if_pos haudience]
    exact ⟨found, haccept htimes⟩
  · intro hrefused
    split
    · next htype =>
      cases hlookup : trusted.publicKeys.lookup signing.kid with
      | none => exact ⟨_, rfl⟩
      | some key =>
        rw [Option.elim_some]
        split
        · next hsigned =>
          split
          · next hissuer =>
            split
            · next haudience =>
              apply hrefuse
              intro htimes
              rw [hsigned] at hlookup
              exact hrefused ⟨htype, ⟨hissuer.symm, hlookup⟩, haudience, htimes⟩
            · exact ⟨_, rfl⟩
          · exact ⟨_, rfl⟩
        · exact ⟨_, rfl⟩
    · exact ⟨_, rfl⟩

end Verifying

section Issuing

variable {environment workload receiver jti : String} {issued : Int}

theorem workloadUrn_ne : workloadUrn environment workload ≠ "" := by
  intro h
  have hlength := congrArg String.length h
  unfold workloadUrn at hlength
  rw [String.length_append, String.length_append, String.length_append] at hlength
  have hurn : "urn:ghostrecon:".length = 15 := rfl
  have hempty : "".length = 0 := rfl
  omega

theorem serviceClaims_issued {lifetime : Nat} {claims : Json}
    (h : serviceClaims workload environment receiver lifetime jti issued = some claims)
    (hjti : jti ≠ "") :
    (1 ≤ lifetime ∧ lifetime ≤ 300) ∧
      IssuedClaims claims (workloadUrn environment workload) (receiverUrn environment receiver)
        (epochSeconds issued) (epochSeconds (issued - 1000000))
        (epochSeconds (issued + lifetime * 1000000)) := by
  unfold serviceClaims at h
  split at h
  · next hlifetime =>
    cases h
    exact ⟨hlifetime, rfl, rfl, ⟨_, rfl, workloadUrn_ne⟩, rfl, rfl, rfl, rfl, ⟨_, rfl, hjti⟩⟩
  · cases h

theorem representedSubject_ne {identity : IdentityContext} (h : identity.WellFormed) :
    identity.representedSubject ≠ "" := by
  have hsubject : identity.subject ≠ "" := by
    intro hempty
    apply h.1
    rw [hempty]
    rfl
  unfold IdentityContext.representedSubject
  split
  · exact hsubject
  · split
    · exact hsubject
    · next hne => exact hne

theorem oboClaims_issued {identity : IdentityContext} (hidentity : identity.WellFormed)
    (hjti : jti ≠ "") (operation : String) :
    IssuedClaims
      (oboClaims (workloadUrn environment workload) (receiverUrn environment receiver) operation
        identity jti issued)
      (workloadUrn environment workload) (receiverUrn environment receiver)
      (epochSeconds issued) (epochSeconds (issued - 1000000))
      (epochSeconds (issued + 45 * 1000000)) where
  object := rfl
  iss := rfl
  sub := ⟨_, rfl, representedSubject_ne hidentity⟩
  aud := rfl
  iat := rfl
  nbf := rfl
  exp := rfl
  jti := ⟨_, rfl, hjti⟩

/-- The times of an issued token are accepted in its window, unless it expires when it is
issued. -/
theorem timesAccepted_iff {lifetime maximum : Int} (hlow : 1 ≤ lifetime)
    (hhigh : lifetime ≤ maximum) (clock : Int) :
    TimesAccepted (epochSeconds issued) (epochSeconds (issued - 1000000))
        (epochSeconds (issued + lifetime * 1000000)) maximum clock ↔
      InWindow (epochSeconds issued) (epochSeconds (issued + lifetime * 1000000)) clock ∧
        ¬(lifetime = 1 ∧ -1000000 < issued ∧ issued < 0) := by
  have hbefore : epochSeconds (issued - 1000000) ≤ epochSeconds issued :=
    epochSeconds_mono (by omega)
  obtain ⟨hshort, hlong⟩ := lifetime_iff issued hlow
  unfold TimesAccepted InWindow
  constructor
  · rintro ⟨hissued, -, hlive, hlasting, -⟩
    exact ⟨by omega, hlong.mp hlasting⟩
  · rintro ⟨hwindow, hkind⟩
    have hlasting := hlong.mpr hkind
    omega

end Issuing

section Bundles

variable {τ : Type} {tools : TokenTools τ} {publicOf : String → String} {signing : Signing}
  {claims : Json} {issuer audience : String} {issuedAt notBefore expiresAt : Int}
  {settings : WorkloadSettings} {now : Micros} {bundle : List (String × TrustedWorkload)}

/-- What the verifier asks of an issued service token, under one entry of its bundle. -/
abbrev AcceptsService (publicOf : String → String) (settings : WorkloadSettings)
    (signing : Signing) (issuer audience : String) (issuedAt notBefore expiresAt clock : Int)
    (entry : String × TrustedWorkload) : Prop :=
  Accepts publicOf signing entry.2 issuer audience serviceJwtPurpose
    (settings.serviceUrn settings.serviceName) issuedAt notBefore expiresAt 300 clock

theorem verifyService_refused (hideal : tools.Ideal publicOf)
    (h : IssuedClaims claims issuer audience issuedAt notBefore expiresAt)
    (hnone : ∀ entry ∈ bundle, ¬AcceptsService publicOf settings signing issuer audience issuedAt
      notBefore expiresAt (epochSeconds now) entry) :
    ∃ message, verifyService tools settings (signing.sign tools claims) now bundle =
      .error (.validation message) := by
  induction bundle with
  | nil => exact ⟨_, rfl⟩
  | cons entry rest ih =>
    obtain ⟨message, herror⟩ := (verifyEddsa_issued hideal h signing entry.2
      serviceJwtPurpose (settings.serviceUrn settings.serviceName) 300 now).2
        (hnone entry List.mem_cons_self)
    obtain ⟨last, hlast⟩ := ih fun entry hentry => hnone entry (List.mem_cons_of_mem _ hentry)
    refine ⟨last, ?_⟩
    rw [verifyService, herror]
    exact hlast

/-- With one entry for an issuer, the entry that accepts the token is the caller. -/
theorem verifyService_accepted (hideal : tools.Ideal publicOf)
    (h : IssuedClaims claims issuer audience issuedAt notBefore expiresAt)
    (hdistinct : (bundle.map (·.2.issuer)).Nodup) {entry : String × TrustedWorkload}
    (hentry : entry ∈ bundle)
    (haccepts : AcceptsService publicOf settings signing issuer audience issuedAt notBefore
      expiresAt (epochSeconds now) entry) :
    ∃ found, verifyService tools settings (signing.sign tools claims) now bundle =
      .ok (found, entry) := by
  induction bundle with
  | nil => cases hentry
  | cons first rest ih =>
    rw [List.map_cons, List.nodup_cons] at hdistinct
    obtain ⟨haccept, hrefuse⟩ := verifyEddsa_issued hideal h signing first.2
      serviceJwtPurpose (settings.serviceUrn settings.serviceName) 300 now
    rcases List.mem_cons.mp hentry with hfirst | hrest
    · rw [hfirst] at haccepts
      obtain ⟨found, hok⟩ := haccept haccepts
      refine ⟨found, ?_⟩
      rw [verifyService, hok, hfirst]
    · obtain ⟨message, herror⟩ := hrefuse fun hother => by
        apply hdistinct.1
        have hissuer : entry.2.issuer = first.2.issuer :=
          haccepts.2.1.1.trans hother.2.1.1.symm
        rw [← hissuer]
        exact List.mem_map.mpr ⟨entry, hrest, rfl⟩
      obtain ⟨found, hok⟩ := ih hdistinct.2 hrest
      refine ⟨found, ?_⟩
      rw [verifyService, herror]
      exact hok

/-- An issued token is accepted for one entry, or refused under all. -/
theorem verifyService_cases (signing : Signing) (now : Micros) (hideal : tools.Ideal publicOf)
    (h : IssuedClaims claims issuer audience issuedAt notBefore expiresAt)
    (hdistinct : (bundle.map (·.2.issuer)).Nodup) :
    (∃ entry ∈ bundle, AcceptsService publicOf settings signing issuer audience issuedAt notBefore
        expiresAt (epochSeconds now) entry ∧
      ∃ found, verifyService tools settings (signing.sign tools claims) now bundle =
        .ok (found, entry)) ∨
    (∀ entry ∈ bundle, ¬AcceptsService publicOf settings signing issuer audience issuedAt
        notBefore expiresAt (epochSeconds now) entry) ∧
      ∃ message, verifyService tools settings (signing.sign tools claims) now bundle =
        .error (.validation message) := by
  by_cases hany : ∃ entry ∈ bundle, AcceptsService publicOf settings signing issuer audience
      issuedAt notBefore expiresAt (epochSeconds now) entry
  · obtain ⟨entry, hentry, haccept⟩ := hany
    exact Or.inl ⟨entry, hentry, haccept,
      verifyService_accepted hideal h hdistinct hentry haccept⟩
  · have hnone : ∀ entry ∈ bundle, ¬AcceptsService publicOf settings signing issuer audience
        issuedAt notBefore expiresAt (epochSeconds now) entry :=
      fun entry hentry haccept => hany ⟨entry, hentry, haccept⟩
    exact Or.inr ⟨hnone, verifyService_refused hideal h hnone⟩

end Bundles

section Agreement

/-- Where and by whom a token was issued, and at what time. -/
structure Issue where
  environment : Environment
  workload : String
  receiver : String
  issued : Micros
  deriving DecidableEq, Repr

def Issue.issuer (issue : Issue) : String :=
  workloadUrn issue.environment.value issue.workload

/-- The token was issued for this receiver and purpose, under a key that the workload has, and
the clock is in its window. -/
structure Genuine (publicOf : String → String) (profile : Environment) (settings : WorkloadSettings)
    (signing : Signing) (issue : Issue) (purpose : String) (lifetime : Nat) (now : Micros)
    (trusted : TrustedWorkload) : Prop where
  environment : profile = issue.environment
  receiver : settings.serviceName = issue.receiver
  purpose : signing.tokenType = purpose
  registered : RegisteredFor publicOf signing issue.issuer trusted
  window : InWindow (epochSeconds issue.issued)
    (epochSeconds (issue.issued + lifetime * 1000000)) (epochSeconds now)

/-- A service token is accepted exactly when it is genuine, for the workload that issued it. -/
def ServiceAgrees {τ : Type} (tools : TokenTools τ) (publicOf : String → String)
    (profile : Environment) (settings : WorkloadSettings) (signing : Signing) (issue : Issue)
    (claims : Json) (lifetime : Nat) (now : Micros) : Prop :=
  ((∃ accepted, verifyService tools settings (signing.sign tools claims) now settings.bundle =
      .ok accepted) ↔
    ∃ entry ∈ settings.bundle,
      Genuine publicOf profile settings signing issue serviceJwtPurpose lifetime now entry.2) ∧
  ∀ found caller trusted,
    verifyService tools settings (signing.sign tools claims) now settings.bundle =
      .ok (found, caller, trusted) →
    (caller, trusted) ∈ settings.bundle ∧ trusted.issuer = issue.issuer

/-- The service token expires when it is issued. -/
def ExpiresAtOnce (issue : Issue) (lifetime : Nat) : Prop :=
  lifetime = 1 ∧ -1000000 < issue.issued ∧ issue.issued < 0

variable {τ : Type} {tools : TokenTools τ} {publicOf : String → String} {signing : Signing}
  {settings : WorkloadSettings} {profile : Environment} {issue : Issue} {now : Micros}
  {claims : Json}

theorem serviceUrn_eq_iff (hprofile : settings.profile = profile.value) :
    receiverUrn issue.environment.value issue.receiver =
        settings.serviceUrn settings.serviceName ↔
      profile = issue.environment ∧ settings.serviceName = issue.receiver := by
  have hurn : settings.serviceUrn settings.serviceName =
      receiverUrn profile.value settings.serviceName := by
    unfold WorkloadSettings.serviceUrn receiverUrn
    rw [hprofile]
  rw [hurn, eq_comm]
  exact receiverUrn_inj

/-- What is asked of an issued token is that it is genuine and does not expire at once. -/
theorem accepts_iff (publicOf : String → String) (signing : Signing) (issue : Issue)
    (now : Micros) (hprofile : settings.profile = profile.value) {lifetime : Nat} {maximum : Int}
    (hlow : 1 ≤ lifetime) (hhigh : (lifetime : Int) ≤ maximum) (purpose : String)
    (trusted : TrustedWorkload) :
    Accepts publicOf signing trusted issue.issuer
        (receiverUrn issue.environment.value issue.receiver) purpose
        (settings.serviceUrn settings.serviceName) (epochSeconds issue.issued)
        (epochSeconds (issue.issued - 1000000))
        (epochSeconds (issue.issued + lifetime * 1000000)) maximum (epochSeconds now) ↔
      Genuine publicOf profile settings signing issue purpose lifetime now trusted ∧
        ¬ExpiresAtOnce issue lifetime := by
  unfold Accepts ExpiresAtOnce
  rw [serviceUrn_eq_iff hprofile, timesAccepted_iff (by omega) hhigh, Nat.cast_eq_one]
  constructor
  · rintro ⟨hpurpose, hregistered, ⟨henvironment, hreceiver⟩, hwindow, hkind⟩
    exact ⟨⟨henvironment, hreceiver, hpurpose, hregistered, hwindow⟩, hkind⟩
  · rintro ⟨hgenuine, hkind⟩
    exact ⟨hgenuine.purpose, hgenuine.registered, ⟨hgenuine.environment, hgenuine.receiver⟩,
      hgenuine.window, hkind⟩

/-- The caller of an accepted token is the entry of the workload that issued it. -/
theorem serviceAgrees_iff (hideal : tools.Ideal publicOf)
    (hprofile : settings.profile = profile.value)
    (hdistinct : (settings.bundle.map (·.2.issuer)).Nodup) {jti : String} (hjti : jti ≠ "")
    {lifetime : Nat}
    (hclaims : serviceClaims issue.workload issue.environment.value issue.receiver lifetime jti
      issue.issued = some claims) :
    ServiceAgrees tools publicOf profile settings signing issue claims lifetime now ↔
      ¬(ExpiresAtOnce issue lifetime ∧ ∃ entry ∈ settings.bundle,
        Genuine publicOf profile settings signing issue serviceJwtPurpose lifetime now
          entry.2) := by
  obtain ⟨⟨hlow, hhigh⟩, hissued⟩ := serviceClaims_issued hclaims hjti
  have haccepts := fun entry : String × TrustedWorkload =>
    accepts_iff publicOf signing issue now hprofile hlow
      (show (lifetime : Int) ≤ 300 by omega) serviceJwtPurpose entry.2
  unfold ServiceAgrees
  rcases verifyService_cases signing now hideal hissued hdistinct with
    ⟨entry, hentry, haccept, found, hok⟩ | ⟨hnone, message, herror⟩
  · obtain ⟨hgenuine, hkind⟩ := (haccepts entry).mp haccept
    rw [hok]
    constructor
    · rintro _ ⟨honce, _⟩
      exact hkind honce
    · intro _
      refine ⟨⟨fun _ => ⟨entry, hentry, hgenuine⟩, fun _ => ⟨_, rfl⟩⟩, ?_⟩
      intro found' caller trusted hsame
      cases hsame
      exact ⟨hentry, hgenuine.registered.1⟩
  · rw [herror]
    constructor
    · rintro ⟨hagree, -⟩ ⟨-, hgenuine⟩
      obtain ⟨accepted, hok⟩ := hagree.mpr hgenuine
      cases hok
    · intro hfree
      refine ⟨⟨?_, ?_⟩, ?_⟩
      · rintro ⟨accepted, hok⟩
        cases hok
      · rintro ⟨entry, hentry, hgenuine⟩
        have hkind : ¬ExpiresAtOnce issue lifetime :=
          fun honce => hfree ⟨honce, entry, hentry, hgenuine⟩
        exact absurd ((haccepts entry).mpr ⟨hgenuine, hkind⟩) (hnone entry hentry)
      · intro found caller trusted hok
        cases hok

/-- For an identity the token lives 45 seconds, and there is no exception. -/
theorem oboToken_accepted_iff (hideal : tools.Ideal publicOf)
    (hprofile : settings.profile = profile.value) {jti : String} (hjti : jti ≠ "")
    {identity : IdentityContext} (hidentity : identity.WellFormed) (operation : String)
    (trusted : TrustedWorkload) :
    (∃ accepted, verifyEddsa tools
        (signing.sign tools (oboClaims issue.issuer
          (receiverUrn issue.environment.value issue.receiver) operation identity jti issue.issued))
        trusted.publicKeys oboJwtPurpose trusted.issuer
        (settings.serviceUrn settings.serviceName) 45 now = .ok accepted) ↔
      Genuine publicOf profile settings signing issue oboJwtPurpose 45 now trusted := by
  have hissued : IssuedClaims (oboClaims issue.issuer
      (receiverUrn issue.environment.value issue.receiver) operation identity jti issue.issued)
      issue.issuer (receiverUrn issue.environment.value issue.receiver)
      (epochSeconds issue.issued) (epochSeconds (issue.issued - 1000000))
      (epochSeconds (issue.issued + (45 : Nat) * 1000000)) :=
    oboClaims_issued hidentity hjti operation
  obtain ⟨haccept, hrefuse⟩ := verifyEddsa_issued hideal hissued signing trusted oboJwtPurpose
    (settings.serviceUrn settings.serviceName) 45 now
  have hgenuine := accepts_iff publicOf signing issue now hprofile (show 1 ≤ 45 by omega)
    (show ((45 : Nat) : Int) ≤ 45 by omega) oboJwtPurpose trusted
  constructor
  · rintro ⟨accepted, hok⟩
    by_contra hnot
    obtain ⟨message, herror⟩ := hrefuse fun h => hnot (hgenuine.mp h).1
    rw [hok] at herror
    cases herror
  · intro h
    apply haccept
    apply hgenuine.mpr
    refine ⟨h, ?_⟩
    rintro ⟨hone, -⟩
    omega

/-- Issue and verification agree but for the genuine service tokens of one second that expire when
they are issued. -/
theorem issue_agrees_iff {τ : Type} {tools : TokenTools τ} {publicOf : String → String}
    (hideal : tools.Ideal publicOf) {settings : WorkloadSettings} {profile : Environment}
    (hprofile : settings.profile = profile.value)
    (hdistinct : (settings.bundle.map (·.2.issuer)).Nodup) (signing : Signing) (issue : Issue)
    {jti : String} (hjti : jti ≠ "") (now : Micros) :
    (∀ lifetime claims,
      serviceClaims issue.workload issue.environment.value issue.receiver lifetime jti
        issue.issued = some claims →
      (ServiceAgrees tools publicOf profile settings signing issue claims lifetime now ↔
        ¬(ExpiresAtOnce issue lifetime ∧ ∃ entry ∈ settings.bundle,
          Genuine publicOf profile settings signing issue serviceJwtPurpose lifetime now
            entry.2))) ∧
    ∀ identity : IdentityContext, identity.WellFormed → ∀ operation, ∀ entry ∈ settings.bundle,
      ((∃ accepted, verifyEddsa tools
          (signing.sign tools (oboClaims issue.issuer
            (receiverUrn issue.environment.value issue.receiver) operation identity jti
            issue.issued))
          entry.2.publicKeys oboJwtPurpose entry.2.issuer
          (settings.serviceUrn settings.serviceName) 45 now = .ok accepted) ↔
        Genuine publicOf profile settings signing issue oboJwtPurpose 45 now entry.2) :=
  ⟨fun _ _ hclaims => serviceAgrees_iff hideal hprofile hdistinct hjti hclaims,
    fun _ hidentity operation entry _ =>
      oboToken_accepted_iff hideal hprofile hjti hidentity operation entry.2⟩

end Agreement

section Examples

theorem plainTools_ideal : plainTools.Ideal id where
  decode_sign _ header claims hheader hclaims :=
    ⟨header, claims, rfl, hheader, hclaims, fun _ => rfl, fun _ => rfl⟩
  signatureOk_sign privateKey header claims publicKey := by
    show decide (publicKey = privateKey) = true ↔ publicKey = privateKey
    rw [decide_eq_true_iff]

/-- A receiver that trusts the gateway. -/
def crmSettings : WorkloadSettings where
  profile := "test"
  serviceName := "crm-service"
  serviceIdentity := none
  bundle := [("gateway-service", ⟨workloadUrn "test" "gateway-service", [("k1", "key")]⟩)]

def gatewaySigning : Signing := ⟨"key", "k1", serviceJwtPurpose⟩

/-- A token of one second from the gateway. -/
def gatewayIssue (issued : Micros) : Issue := ⟨.test, "gateway-service", "crm-service", issued⟩

def gatewayClaims (issued : Micros) : Json :=
  (serviceClaims "gateway-service" "test" "crm-service" 1 "id" issued).getD .null

/-- A token of one second that was issued on a full second is accepted half a second later. -/
theorem full_second_agrees :
    ServiceAgrees plainTools id .test crmSettings gatewaySigning (gatewayIssue 1000000)
      (gatewayClaims 1000000) 1 1500000 := by
  have hprofile : crmSettings.profile = Environment.test.value := rfl
  have hdistinct : (crmSettings.bundle.map (·.2.issuer)).Nodup := List.nodup_singleton _
  have hclaims : serviceClaims "gateway-service" "test" "crm-service" 1 "id" 1000000 =
      some (gatewayClaims 1000000) := rfl
  have hagrees := (issue_agrees_iff plainTools_ideal hprofile hdistinct gatewaySigning
    (gatewayIssue 1000000) (show "id" ≠ "" by decide) 1500000).1 1 _ hclaims
  apply hagrees.mpr
  rintro ⟨⟨-, -, hbefore⟩, -⟩
  revert hbefore
  decide

theorem gatewayIssue_genuine :
    ∃ entry ∈ crmSettings.bundle, Genuine id .test crmSettings gatewaySigning
      (gatewayIssue (-500000)) serviceJwtPurpose 1 (-500000) entry.2 :=
  ⟨_, List.mem_singleton_self _, rfl, rfl, rfl, ⟨rfl, rfl⟩, by unfold InWindow; decide⟩

/-- Half a second before the epoch such a token is genuine, and refused. -/
theorem epoch_second_refused :
    (∃ entry ∈ crmSettings.bundle, Genuine id .test crmSettings gatewaySigning
      (gatewayIssue (-500000)) serviceJwtPurpose 1 (-500000) entry.2) ∧
    ∃ message, verifyService plainTools crmSettings
      (gatewaySigning.sign plainTools (gatewayClaims (-500000))) (-500000) crmSettings.bundle =
        .error (.validation message) := by
  refine ⟨gatewayIssue_genuine, ?_⟩
  have hclaims : serviceClaims "gateway-service" "test" "crm-service" 1 "id" (-500000) =
      some (gatewayClaims (-500000)) := rfl
  obtain ⟨-, hissued⟩ := serviceClaims_issued hclaims (by decide)
  apply verifyService_refused plainTools_ideal hissued
  rintro entry - ⟨-, -, -, -, -, -, hlasting, -⟩
  revert hlasting
  decide

end Examples

end GhostRecon.Security
