import GhostRecon.Security.Console
import GhostRecon.Security.Gateway
import GhostRecon.Security.SessionRuns

/-!
How an identity travels from the gateway to the owner of an operation: in one
token, or through the console, whose plain headers carry it between two tokens.
The theorem says for which identities the owner's copy decides every operation
as the gateway's does.
-/

namespace GhostRecon.Security

open Lib.Calendar (Representable epochText)

/-- The random texts of one forwarded request, its correlation id at the
receiver and the time it is sent. -/
structure HopDraw where
  serviceJti : String
  oboJti : String
  correlationId : String
  now : Micros
  deriving DecidableEq, Repr

section Hops

variable {τ : Type} (tools : TokenTools τ) (settings : WorkloadSettings)

/-- The tokens of `forward_to_owner`. -/
def forwardToOwner (policy : OperationPolicy) (identity : IdentityContext) (draw : HopDraw) :
    Option (WorkloadRequest τ) := do
  let service ← serviceToken tools settings policy.owner draw.serviceJti draw.now
  let obo ← oboToken tools settings identity policy.owner policy.operationId draw.oboJti draw.now
  return {
    serviceToken := some service
    oboToken := some obo
    correlationId := draw.correlationId }

/-- `forward_to_console`. -/
def forwardToConsole (path : String) (identity : IdentityContext) (draw : HopDraw) :
    Option (ConsoleRequest τ) := do
  let service ← serviceToken tools settings "console-service" draw.serviceJti draw.now
  let obo ← oboToken tools settings identity "console-service" "console.render" draw.oboJti
    draw.now
  return {
    path
    workload :=
      { serviceToken := some service
        oboToken := some obo
        correlationId := draw.correlationId }
    headers := verifiedHeaders identity }

/-- The request a page sends to the gateway. -/
def SignedPair.request (pair : SignedPair τ) (correlationId : String) : WorkloadRequest τ where
  serviceToken := some pair.service
  oboToken := some pair.obo
  correlationId

end Hops

/-- The three services an identity passes through. -/
structure Cluster (τ : Type) where
  tools : TokenTools τ
  fromIsoformat : String → Option Micros
  gateway : WorkloadSettings
  console : WorkloadSettings
  owner : WorkloadSettings
  contracts : List RouteContract

inductive Path where
  | direct | relayed
  deriving DecidableEq, Repr

/-- The owner of the operation accepts a request for the identity, and builds
its own copy of it. On the relayed path the console has admitted the gateway's
request, and the gateway has found the console's call bound to the operation. -/
inductive Reaches {τ : Type} (cluster : Cluster τ) (identity : IdentityContext)
    (policy : OperationPolicy) : Path → IdentityContext → Prop
  | direct {draw : HopDraw} {request : WorkloadRequest τ} {now : Micros}
      {markers markers' : ReplayStore} {received : IdentityContext}
      (hforward : forwardToOwner cluster.tools cluster.gateway policy identity draw =
        some request)
      (hreceived : resolveWorkload cluster.tools cluster.owner request now markers =
        (.ok (some received), markers')) :
      Reaches cluster identity policy .direct received
  | relayed {path correlationId : String} {draw draw' : HopDraw} {call : ApiCall}
      {visit : ConsoleRequest τ} {request : WorkloadRequest τ} {pair : SignedPair τ}
      {now₁ now₂ now₃ : Micros} {markers₁ markers₂ markers₃ markers₂' markers₃' : ReplayStore}
      {admitted : Option IdentityContext} {relayed received : IdentityContext}
      (hvisit : forwardToConsole cluster.tools cluster.gateway path identity draw = some visit)
      (hadmitted : (identityMiddleware cluster.tools cluster.console visit now₁ markers₁).1 =
        .admitted admitted)
      (hcall : consoleHeaders cluster.tools cluster.fromIsoformat cluster.console
        cluster.contracts visit.headers call = .ok (some pair))
      (hrelayed : resolveWorkload cluster.tools cluster.gateway (pair.request correlationId) now₂
        markers₂ = (.ok (some relayed), markers₂'))
      (hbound : callerRefused policy relayed = none)
      (hforward : forwardToOwner cluster.tools cluster.gateway policy relayed draw' =
        some request)
      (hreceived : resolveWorkload cluster.tools cluster.owner request now₃ markers₃ =
        (.ok (some received), markers₃')) :
      Reaches cluster identity policy .relayed received

/-- The whole second a time is sent as. -/
def wholeSecond (time : Micros) : Micros :=
  epochSeconds time * 1000000

/-- The owner's copy has the authority of the identity, for one operation. -/
structure SameAuthority (identity received : IdentityContext) (operationId : String) : Prop where
  subject : received.representedSubject = identity.representedSubject
  roles : ∀ role, role ∈ received.roles ↔ role ∈ identity.roles
  permissions : ∀ permission,
    permission ∈ received.permissions ↔ permission ∈ identity.permissions
  assurance : received.assurance = identity.assurance
  authenticationMethod : received.authenticationMethod = identity.authenticationMethod
  authenticatedAt : received.authenticatedAt = wholeSecond identity.authenticatedAt
  operation : received.attributes.lookup "obo_operation" = some operationId
  /-- No policy of another operation lets the copy pass. -/
  bound : ∀ policy : OperationPolicy, callerRefused policy received = none →
    policy.operationId = operationId
  decisions : ∀ permission minimumAssurance maximumAge now,
    authorize received permission minimumAssurance maximumAge now =
      authorize identity permission minimumAssurance maximumAge now

/-- The text survives in a comma-separated header. -/
def PlainText (text : String) : Prop :=
  text ≠ "" ∧ ',' ∉ text.toList

instance (text : String) : Decidable (PlainText text) :=
  inferInstanceAs (Decidable (_ ∧ _))

/-- The identity was authenticated at a whole second, or has no permission whose
age could be asked for; and what the console relays has no role that a
comma-separated header loses. -/
def Transparent (path : Path) (identity : IdentityContext) : Prop :=
  (wholeSecond identity.authenticatedAt = identity.authenticatedAt ∨
    ∀ permission : Permission, permission.value ∉ identity.permissions) ∧
  (path = .relayed → ∀ role ∈ identity.roles, PlainText role)

section Fields

theorem splitOn_plain {items : List Char} {c : Char} :
    ∀ part ∈ items.splitOn c, c ∉ part := by
  induction items with
  | nil => simp
  | cons head rest ih =>
    intro part hpart
    rw [List.splitOn_cons_eq_if_modifyHead] at hpart
    split at hpart
    · rcases List.mem_cons.mp hpart with rfl | hrest
      · simp
      · exact ih part hrest
    · next hother =>
      cases hparts : rest.splitOn c with
      | nil => exact absurd hparts (List.splitOn_ne_nil c rest)
      | cons first others =>
        rw [hparts] at hpart ih
        rcases List.mem_cons.mp hpart with rfl | hothers
        · intro hmem
          rcases List.mem_cons.mp hmem with rfl | hmem
          · simp at hother
          · exact ih first (by simp) hmem
        · exact ih part (List.mem_cons_of_mem _ hothers)

/-- Every field of a header is plain. -/
theorem plain_of_mem_commaFields {text item : String} (h : item ∈ commaFields text) :
    PlainText item := by
  obtain ⟨hitem, hfilled⟩ := List.mem_filter.mp h
  obtain ⟨part, hpart, rfl⟩ := List.mem_map.mp hitem
  refine ⟨by simpa using hfilled, ?_⟩
  rw [String.toList_ofList]
  exact splitOn_plain part hpart

theorem commaFields_commaJoined {items : List String} (hplain : ∀ item ∈ items, PlainText item) :
    commaFields (commaJoined items) = sortedSet items := by
  have hsorted : ∀ item ∈ sortedSet items, PlainText item := by
    intro item hitem
    exact hplain item (mem_sortedSet.mp hitem)
  unfold commaFields commaJoined
  rw [String.toList_intercalate]
  generalize sortedSet items = parts at hsorted
  cases parts with
  | nil => decide
  | cons first rest =>
    have hsplit : (",".toList.intercalate ((first :: rest).map String.toList)).splitOn ',' =
        (first :: rest).map String.toList := by
      refine List.splitOn_intercalate ',' ?_ (by simp)
      intro part hpart
      obtain ⟨item, hitem, rfl⟩ := List.mem_map.mp hpart
      exact (hsorted item hitem).2
    rw [hsplit, List.map_map, List.filter_eq_self.mpr]
    · exact List.map_id'' (fun item => String.ofList_toList) _
    · intro item hitem
      rw [List.mem_map] at hitem
      obtain ⟨source, hsource, rfl⟩ := hitem
      simpa using (hsorted source hsource).1

/-- A header carries a set exactly when all its members are plain. -/
theorem commaFields_same_iff {items : List String} :
    (∀ item, item ∈ commaFields (commaJoined items) ↔ item ∈ items) ↔
      ∀ item ∈ items, PlainText item := by
  constructor
  · intro hsame item hitem
    exact plain_of_mem_commaFields ((hsame item).mpr hitem)
  · intro hplain item
    rw [commaFields_commaJoined hplain, mem_sortedSet]

end Fields

section Claims

variable {τ : Type} {tools : TokenTools τ} {settings : WorkloadSettings} {claims : Json}
  {key : String}

theorem textClaim_str {text : String} (h : claims.get? key = some (.str text)) :
    textClaim tools claims key = .ok text := by
  simp [textClaim, h, TokenTools.str]

theorem mapM_texts {read : Json → Option String} (hread : ∀ text, read (.str text) = some text)
    (texts : List String) : (texts.map Json.str).mapM read = some texts := by
  induction texts with
  | nil => rfl
  | cons text rest ih => simp [hread, ih]

theorem stringList_texts (texts : List String) :
    stringList (some (.arr (texts.map .str))) = .ok texts := by
  simp only [stringList]
  rw [mapM_texts (fun _ => rfl) texts]

theorem instantClaim_int {seconds : Int} {time : Micros} (h : claims.get? key = some (.int seconds))
    (hok : instantClaim tools claims key = .ok time) : time = seconds * 1000000 := by
  simp only [instantClaim, h, Json.toInt] at hok
  split at hok
  · exact (Except.ok.inj hok).symm
  · cases hok

theorem assuranceClaim_value {level : AssuranceLevel}
    (h : claims.get? "assurance" = some (.str level.value)) :
    assuranceClaim tools claims = .ok level := by
  simp [assuranceClaim, textClaim_str h, bind, Except.bind]

theorem representedSubject_self {identity : IdentityContext} {subject : String}
    (hsubject : identity.subject = subject)
    (hbehalf : identity.onBehalfOfSubject = some subject) :
    identity.representedSubject = subject := by
  unfold IdentityContext.representedSubject
  rw [hbehalf]
  dsimp only
  split
  · exact hsubject
  · rfl

/-- What one token carries of an identity. -/
structure Carried (identity : IdentityContext) (operation : String)
    (received : IdentityContext) : Prop where
  subject : received.representedSubject = identity.representedSubject
  roles : received.roles = sortedSet identity.roles
  permissions : received.permissions = sortedSet identity.permissions
  assurance : received.assurance = identity.assurance
  authenticationMethod : received.authenticationMethod = identity.authenticationMethod
  authenticatedAt : received.authenticatedAt = wholeSecond identity.authenticatedAt
  operation : received.attributes.lookup "obo_operation" = some operation
  caller : received.callingService.isSome = true

/-- The identity read from the claims made for another is its copy. -/
theorem oboIdentity_carried {principal audience operation jti : String} {sentAt : Micros}
    {identity received : IdentityContext} {caller correlationId : String}
    (hclaims : ∀ key, claims.get? key =
      (oboClaims principal audience operation identity jti sentAt).get? key)
    (h : oboIdentity tools settings claims caller correlationId = .ok received) :
    Carried identity operation received := by
  have hsubject : textClaim tools claims "sub" = .ok identity.representedSubject :=
    textClaim_str ((hclaims "sub").trans rfl)
  have hissuer : textClaim tools claims "iss" = .ok principal :=
    textClaim_str ((hclaims "iss").trans rfl)
  have hroles : stringList (claims.get? "roles") = .ok (sortedSet identity.roles) := by
    rw [hclaims]
    exact stringList_texts _
  have hpermissions :
      stringList (claims.get? "permissions") = .ok (sortedSet identity.permissions) := by
    rw [hclaims]
    exact stringList_texts _
  have hmethod : textClaim tools claims "authentication_method" =
      .ok identity.authenticationMethod :=
    textClaim_str ((hclaims "authentication_method").trans rfl)
  have hassurance : assuranceClaim tools claims = .ok identity.assurance :=
    assuranceClaim_value ((hclaims "assurance").trans rfl)
  have hcorrelation : textClaim tools claims "correlation_id" = .ok identity.correlationId :=
    textClaim_str ((hclaims "correlation_id").trans rfl)
  have hmapping : textClaim tools claims "mapping_version" = .ok identity.claimMappingVersion :=
    textClaim_str ((hclaims "mapping_version").trans rfl)
  have hpolicy : textClaim tools claims "policy_version" =
      .ok identity.permissionPolicyVersion :=
    textClaim_str ((hclaims "policy_version").trans rfl)
  have hoperation : textClaim tools claims "operation" = .ok operation :=
    textClaim_str ((hclaims "operation").trans rfl)
  simp only [oboIdentity, hsubject, hissuer, hroles, hpermissions, hmethod, hassurance,
    hcorrelation, hmapping, hpolicy, hoperation, bind, Except.bind] at h
  cases hinstant : instantClaim tools claims "authenticated_at" with
  | error e =>
    rw [hinstant] at h
    cases h
  | ok time =>
    rw [hinstant] at h
    have htime : time = wholeSecond identity.authenticatedAt :=
      instantClaim_int ((hclaims "authenticated_at").trans rfl) hinstant
    simp only [checkedIdentity] at h
    split at h
    · cases h
      exact
        { subject := representedSubject_self rfl rfl
          roles := rfl
          permissions := rfl
          assurance := rfl
          authenticationMethod := rfl
          authenticatedAt := htime
          operation := rfl
          caller := rfl }
    · cases h

/-- A receiver that accepts a token signed for an identity gets its copy. -/
theorem resolveWorkload_carried (hfaithful : tools.Faithful) {service : τ}
    {principal audience operation jti privateKey kid correlationId : String}
    {sentAt now : Micros} {identity received : IdentityContext} {markers markers' : ReplayStore}
    (h : resolveWorkload tools settings
      { serviceToken := some service
        oboToken := some (signEddsa tools
          (oboClaims principal audience operation identity jti sentAt) privateKey kid
          oboJwtPurpose)
        correlationId } now markers = (.ok (some received), markers')) :
    Carried identity operation received := by
  simp only [resolveWorkload] at h
  split at h
  · cases h
  · next serviceClaims caller trusted hservice =>
    split at h
    · cases h
    · next found hfound =>
      obtain ⟨⟨header, hdecode⟩, -⟩ := verifyEddsa_ok hfound
      obtain ⟨header', claims', hdecode', hsame⟩ := hfaithful.decode_sign privateKey
        (.obj [("alg", .str "EdDSA"), ("kid", .str kid), ("typ", .str oboJwtPurpose)])
        (oboClaims principal audience operation identity jti sentAt)
      rw [signEddsa, hdecode'] at hdecode
      cases hdecode
      have hread : oboIdentity tools settings found caller correlationId = .ok received := by
        have hresult := congrArg Prod.fst h
        simp only [acceptObo] at hresult
        split at hresult
        · cases hresult
        · split at hresult
          · cases hresult
          · cases hidentity : oboIdentity tools settings found caller correlationId with
            | error e =>
              rw [hidentity] at hresult
              cases hresult
            | ok copy =>
              rw [hidentity] at hresult
              cases hresult
              rfl
      exact oboIdentity_carried hsame hread

end Claims

section Decisions

theorem wholeSecond_wholeSecond (time : Micros) : wholeSecond (wholeSecond time) =
    wholeSecond time := by
  unfold wholeSecond epochSeconds
  rw [Int.mul_tdiv_cancel _ (by decide)]

/-- Identities that differ in no permission, assurance and time are decided
alike. -/
theorem authorize_congr {first second : IdentityContext}
    (hpermissions : ∀ permission, permission ∈ first.permissions ↔
      permission ∈ second.permissions)
    (hassurance : first.assurance = second.assurance) {permission : Permission}
    {minimumAssurance : AssuranceLevel} {maximumAge : Option Nat} {now : Micros}
    (hage : permission.value ∈ second.permissions →
      first.authenticatedAt = second.authenticatedAt) :
    authorize first permission minimumAssurance maximumAge now =
      authorize second permission minimumAssurance maximumAge now := by
  unfold authorize
  by_cases hheld : permission.value ∈ second.permissions
  · have hfirst : permission.value ∈ first.permissions := (hpermissions _).mpr hheld
    have hold : olderThan first = olderThan second := by
      funext limit now
      rw [olderThan, olderThan, hage hheld]
    simp only [hheld, hfirst, not_true_eq_false, if_false, hassurance, hold]
  · have hfirst : permission.value ∉ first.permissions := fun h => hheld ((hpermissions _).mp h)
    simp only [hheld, hfirst, not_false_eq_true, if_true]

theorem assuranceSatisfies_self (level : AssuranceLevel) :
    assuranceSatisfies level level = true := by
  cases level <;> decide

/-- One second after an authentication it is not older than a second. -/
theorem authorize_fresh {identity : IdentityContext} {permission : Permission} {now : Int}
    (hheld : permission.value ∈ identity.permissions)
    (hage : now - identity.authenticatedAt ≤ 1000000) :
    authorize identity permission identity.assurance (some 1) now = none := by
  have hyoung : olderThan identity 1 now = false := by
    simp only [olderThan, decide_eq_false_iff_not, not_lt]
    exact max_le (by decide) (by simpa using hage)
  simp [authorize, hheld, assuranceSatisfies_self, hyoung]

theorem authorize_stale {identity : IdentityContext} {permission : Permission} {now : Int}
    (hage : 1000000 < now - identity.authenticatedAt) (level : AssuranceLevel) :
    authorize identity permission level (some 1) now ≠ none := by
  have hold : olderThan identity 1 now = true := by
    simp only [olderThan, decide_eq_true_eq]
    exact lt_max_of_lt_right (by simpa using hage)
  unfold authorize
  simp only [Option.any_some, hold, if_true]
  split
  · simp
  · split <;> simp

theorem second_later {earlier later : Int} (h : earlier < later) :
    1000000 < later + 1000000 - earlier := by
  omega

/-- Two authentications at different times are told apart, by an identity that
holds some permission. -/
theorem authorize_differs {first second : IdentityContext} {permission : Permission}
    (hfirst : permission.value ∈ first.permissions)
    (hsecond : permission.value ∈ second.permissions)
    (htime : first.authenticatedAt ≠ second.authenticatedAt) :
    ∃ level maximumAge now,
      authorize first permission level maximumAge now ≠
        authorize second permission level maximumAge now := by
  rcases lt_or_gt_of_ne htime with hlt | hgt
  · refine ⟨second.assurance, some 1, second.authenticatedAt + 1000000, ?_⟩
    rw [authorize_fresh hsecond (by simp)]
    exact authorize_stale (second_later hlt) _
  · refine ⟨first.assurance, some 1, first.authenticatedAt + 1000000, ?_⟩
    rw [authorize_fresh hfirst (by simp)]
    exact (authorize_stale (second_later hgt) _).symm

end Decisions

section Paths

variable {τ : Type} {cluster : Cluster τ} {identity received : IdentityContext}
  {policy : OperationPolicy} {path : Path}

/-- What a set of texts is at the end of a path. -/
def Path.deliver (path : Path) (items : List String) : List String :=
  match path with
  | .direct => items
  | .relayed => commaFields (commaJoined items)

/-- What the owner's copy has of the identity. -/
structure Copied (path : Path) (identity : IdentityContext) (operation : String)
    (received : IdentityContext) : Prop where
  subject : received.representedSubject = identity.representedSubject
  roles : ∀ role, role ∈ received.roles ↔ role ∈ path.deliver identity.roles
  permissions : ∀ permission,
    permission ∈ received.permissions ↔ permission ∈ path.deliver identity.permissions
  assurance : received.assurance = identity.assurance
  authenticationMethod : received.authenticationMethod = identity.authenticationMethod
  authenticatedAt : received.authenticatedAt = wholeSecond identity.authenticatedAt
  operation : received.attributes.lookup "obo_operation" = some operation
  caller : received.callingService.isSome = true

/-- An accepted request of `forward_to_owner` carries the identity. -/
theorem forwardToOwner_carried {tools : TokenTools τ} (hfaithful : tools.Faithful)
    {sender receiver : WorkloadSettings} {draw : HopDraw} {request : WorkloadRequest τ}
    {now : Micros} {markers markers' : ReplayStore}
    (hforward : forwardToOwner tools sender policy identity draw = some request)
    (hreceived : resolveWorkload tools receiver request now markers =
      (.ok (some received), markers')) :
    Carried identity policy.operationId received := by
  simp only [forwardToOwner, Option.bind_eq_bind, Option.bind_eq_some_iff, Option.pure_def,
    Option.some.injEq] at hforward
  obtain ⟨service, -, obo, hobo, rfl⟩ := hforward
  obtain ⟨principal, kid, rfl⟩ := oboToken_some hobo
  exact resolveWorkload_carried hfaithful hreceived

/-- What the console shows of the headers the gateway sets. -/
theorem verifiedHeaders_read {fromIsoformat : String → Option Micros}
    (hiso : ∀ time, Representable time → fromIsoformat (epochText time) = some time)
    (hdate : Representable identity.authenticatedAt) {settings : WorkloadSettings}
    {shown : IdentityContext}
    (h : verifiedIdentityFromHeaders fromIsoformat settings (verifiedHeaders identity) =
      some shown) :
    shown.representedSubject = identity.representedSubject ∧
      shown.roles = commaFields (commaJoined identity.roles) ∧
      shown.permissions = commaFields (commaJoined identity.permissions) ∧
      shown.assurance = identity.assurance ∧
      shown.authenticationMethod = identity.authenticationMethod ∧
      shown.authenticatedAt = identity.authenticatedAt := by
  have hsubject : verifiedHeaders identity "X-GhostRecon-Verified-Subject" =
    some identity.representedSubject := rfl
  have htime : verifiedHeaders identity "X-GhostRecon-Verified-Authenticated-At" =
    some (epochText identity.authenticatedAt) := rfl
  have hassurance : verifiedHeaders identity "X-GhostRecon-Verified-Assurance" =
    some identity.assurance.value := rfl
  have hroles : verifiedHeaders identity "X-GhostRecon-Verified-Roles" =
    some (commaJoined identity.roles) := rfl
  have hpermissions : verifiedHeaders identity "X-GhostRecon-Verified-Permissions" =
    some (commaJoined identity.permissions) := rfl
  have hmethod : verifiedHeaders identity "X-GhostRecon-Verified-Authentication-Method" =
    some identity.authenticationMethod := rfl
  unfold verifiedIdentityFromHeaders at h
  simp only [hsubject, htime, hassurance, hroles, hpermissions, hmethod, Option.bind_some,
    Option.getD_some, Option.bind_eq_bind, Option.bind_eq_some_iff, nonEmpty] at h
  obtain ⟨subject, hsubject', time, htime', level, hlevel', instant, hinstant, assurance,
    hread, hshown⟩ := h
  split at hsubject'
  · cases hsubject'
  · split at htime'
    · cases htime'
    · split at hlevel'
      · cases hlevel'
      · cases hsubject'
        cases htime'
        cases hlevel'
        rw [hiso _ hdate] at hinstant
        rw [AssuranceLevel.ofValue?_value] at hread
        cases hinstant
        cases hread
        split at hshown
        · cases hshown
          exact ⟨representedSubject_self rfl rfl, rfl, rfl, rfl, rfl, rfl⟩
        · cases hshown

/-- Along both paths the owner gets a copy. -/
theorem reaches_copied (hfaithful : cluster.tools.Faithful)
    (hiso : ∀ time, Representable time →
      cluster.fromIsoformat (epochText time) = some time)
    (hdate : Representable identity.authenticatedAt)
    (h : Reaches cluster identity policy path received) :
    Copied path identity policy.operationId received := by
  cases h with
  | direct hforward hreceived =>
    have hcarried := forwardToOwner_carried hfaithful hforward hreceived
    exact
      { hcarried with
        roles := fun role => by rw [hcarried.roles, mem_sortedSet]; rfl
        permissions := fun permission => by rw [hcarried.permissions, mem_sortedSet]; rfl }
  | relayed hvisit hadmitted hcall hrelayed hbound hforward hreceived =>
    simp only [forwardToConsole, Option.bind_eq_bind, Option.bind_eq_some_iff, Option.pure_def,
      Option.some.injEq] at hvisit
    obtain ⟨service, -, obo, -, rfl⟩ := hvisit
    obtain ⟨shown, operation, hshown, -, -, hobo⟩ := consoleHeaders_some hcall
    obtain ⟨principal, kid, hsigned⟩ := oboToken_some hobo
    rw [SignedPair.request, hsigned] at hrelayed
    have hfirst := resolveWorkload_carried hfaithful hrelayed
    have hsecond := forwardToOwner_carried hfaithful hforward hreceived
    obtain ⟨hsubject, hroles, hpermissions, hassurance, hmethod, htime⟩ :=
      verifiedHeaders_read hiso hdate hshown
    exact
      { subject := hsecond.subject.trans (hfirst.subject.trans hsubject)
        roles := fun role => by
          rw [hsecond.roles, mem_sortedSet, hfirst.roles, mem_sortedSet, hroles]
          rfl
        permissions := fun permission => by
          rw [hsecond.permissions, mem_sortedSet, hfirst.permissions, mem_sortedSet,
            hpermissions]
          rfl
        assurance := hsecond.assurance.trans (hfirst.assurance.trans hassurance)
        authenticationMethod :=
          hsecond.authenticationMethod.trans (hfirst.authenticationMethod.trans hmethod)
        authenticatedAt := by
          rw [hsecond.authenticatedAt, hfirst.authenticatedAt, wholeSecond_wholeSecond, htime]
        operation := hsecond.operation
        caller := hsecond.caller }

theorem Path.deliver_same_iff {items : List String} :
    (∀ item, item ∈ path.deliver items ↔ item ∈ items) ↔
      (path = .relayed → ∀ item ∈ items, PlainText item) := by
  cases path with
  | direct => simp [Path.deliver]
  | relayed => simpa [Path.deliver] using commaFields_same_iff

theorem permissionsForRoles_plain {roles : List String} :
    ∀ permission ∈ permissionsForRoles roles, PlainText permission := by
  intro permission hpermission
  simp only [permissionsForRoles, List.mem_dedup, List.mem_flatMap, List.mem_map] at hpermission
  obtain ⟨role, -, held, -, rfl⟩ := hpermission
  cases held <;> decide

/-- The owner's copy lets one operation pass only. -/
theorem Copied.bound {operation : String} (h : Copied path identity operation received)
    (other : OperationPolicy) (hpassed : callerRefused other received = none) :
    other.operationId = operation := by
  obtain ⟨caller, hcaller⟩ := Option.isSome_iff_exists.mp h.caller
  simp only [callerRefused, hcaller, h.operation] at hpassed
  split at hpassed
  · cases hpassed
  · split at hpassed
    · cases hpassed
    · next hsame => exact (not_not.mp hsame).symm

/-- A copy has the identity's authority exactly when the path is transparent to
it, provided the permissions are plain. -/
theorem Copied.sameAuthority_iff {operation : String}
    (h : Copied path identity operation received)
    (hplain : ∀ permission ∈ identity.permissions, PlainText permission) :
    SameAuthority identity received operation ↔ Transparent path identity := by
  have hpermissions : ∀ permission,
      permission ∈ received.permissions ↔ permission ∈ identity.permissions := by
    intro permission
    rw [h.permissions, Path.deliver_same_iff.mpr fun _ => hplain]
  constructor
  · intro hsame
    refine ⟨?_, ?_⟩
    · by_contra hneither
      obtain ⟨htime, hheld⟩ := not_or.mp hneither
      rw [not_forall] at hheld
      obtain ⟨permission, hpermission⟩ := hheld
      rw [not_not] at hpermission
      obtain ⟨level, maximumAge, now, hdiffers⟩ :=
        authorize_differs ((hpermissions _).mpr hpermission) hpermission
          (by rw [h.authenticatedAt]; exact htime)
      exact hdiffers (hsame.decisions permission level maximumAge now)
    · rw [← Path.deliver_same_iff]
      intro role
      rw [← h.roles, hsame.roles]
  · rintro ⟨htime, hroles⟩
    exact
      { subject := h.subject
        roles := fun role => by rw [h.roles, Path.deliver_same_iff.mpr hroles]
        permissions := hpermissions
        assurance := h.assurance
        authenticationMethod := h.authenticationMethod
        authenticatedAt := h.authenticatedAt
        operation := h.operation
        bound := h.bound
        decisions := by
          intro permission level maximumAge now
          refine authorize_congr hpermissions h.assurance ?_
          intro hheld
          rcases htime with hwhole | hnone
          · rw [h.authenticatedAt, hwhole]
          · exact absurd hheld (hnone permission) }

theorem resolve_permissions {config : SessionConfig} {raw correlationId : String} {now : Micros}
    {s s' : SecurityStore} (h : resolve config raw correlationId now s = .ok (some identity, s')) :
    identity.permissions = permissionsForRoles identity.roles := by
  unfold resolve at h
  split at h
  · cases h
  · split at h
    · cases h
    · dsimp only at h
      split at h
      · unfold commit at h
        split at h
        · cases h
          rfl
        · cases h
      · cases h

end Paths

section Relay

variable {τ : Type}

/-- One relayed request, run from the gateway to the owner at the given times
with no marker set. -/
def Cluster.relay (cluster : Cluster τ) (policy : OperationPolicy) (identity : IdentityContext)
    (path : String) (call : ApiCall) (draw draw' : HopDraw) : Option IdentityContext :=
  match forwardToConsole cluster.tools cluster.gateway path identity draw with
  | none => none
  | some visit =>
    match (identityMiddleware cluster.tools cluster.console visit call.now .empty).1,
      consoleHeaders cluster.tools cluster.fromIsoformat cluster.console cluster.contracts
        visit.headers call with
    | .admitted _, .ok (some pair) =>
      match resolveWorkload cluster.tools cluster.gateway (pair.request draw'.correlationId)
        call.now .empty with
      | (.ok (some relayed), _) =>
        match callerRefused policy relayed,
          forwardToOwner cluster.tools cluster.gateway policy relayed draw' with
        | none, some request =>
          match resolveWorkload cluster.tools cluster.owner request draw'.now .empty with
          | (.ok (some received), _) => some received
          | _ => none
        | _, _ => none
      | _ => none
    | _, _ => none

theorem Cluster.relay_reaches {cluster : Cluster τ} {policy : OperationPolicy}
    {identity received : IdentityContext} {path : String} {call : ApiCall} {draw draw' : HopDraw}
    (h : cluster.relay policy identity path call draw draw' = some received) :
    Reaches cluster identity policy .relayed received := by
  unfold Cluster.relay at h
  split at h
  · cases h
  · next visit hvisit =>
    split at h
    · next admitted pair hadmitted hcall =>
      split at h
      · next relayed markers hrelayed =>
        split at h
        · next request hbound hforward =>
          split at h
          · next copy markers' hreceived =>
            cases h
            exact .relayed hvisit hadmitted hcall hrelayed hbound hforward hreceived
          · cases h
        · cases h
      · cases h
    · cases h

/-- A deployment of three services that trust each other's keys. -/
def relayCluster : Cluster (String × Json × Json) where
  tools := plainTools
  fromIsoformat := Lib.Calendar.ofEpochText
  gateway :=
    { gatewaySettings with
      bundle := [("console-service",
        { issuer := "urn:ghostrecon:prod:workload:console-service"
          publicKeys := [("c1", "console")] })] }
  console := consoleSettings
  owner :=
    { profile := "prod"
      serviceName := "meeting-handoff-service"
      serviceIdentity := some "meeting-handoff-service"
      bundle := [("gateway-service",
        { issuer := "urn:ghostrecon:prod:workload:gateway-service"
          publicKeys := [("g1", "gateway")] })] }
  contracts := meetingContracts

theorem relayCluster_fromIsoformat :
    relayCluster.fromIsoformat = Lib.Calendar.ofEpochText := rfl

def relayConfig : SessionConfig :=
  { loginConfig with settings := { loginConfig.settings with profile := "prod" } }

/-- The store after a principal was provisioned with the provider's roles and
has logged in. -/
def storeWithRoles (roles : List String) : SecurityStore :=
  match provisionFromClaims { issuer := "https://id.example", subject := "ada" } roles true "p-1"
    {} with
  | .error _ => {}
  | .ok (principal, s) =>
    match createSession relayConfig principal
      { authenticationMethod := "oidc", assurance := .emailOtp, providerRoles := roles
        authenticatedAt := seconds 1 } "s-1" "secret" (seconds 2) s with
    | .error _ => {}
    | .ok (_, s) => s

/-- The identity that the session resolves to. -/
def resolvedIdentity (roles : List String) : Option IdentityContext :=
  match resolve relayConfig "secret" "c-1" (seconds 60) (storeWithRoles roles) with
  | .ok (identity, _) => identity
  | .error _ => none

theorem resolvedIdentity_some {roles : List String} {identity : IdentityContext}
    (h : resolvedIdentity roles = some identity) : ∃ s', resolve relayConfig "secret" "c-1"
      (seconds 60) (storeWithRoles roles) = .ok (some identity, s') := by
  unfold resolvedIdentity at h
  split at h
  · next found s' hresolve => exact ⟨s', by rw [hresolve, h]⟩
  · cases h

def meetingList : OperationPolicy :=
  classifyDomainOperation "meeting_list" "GET"

/-- The copy of the identity after it was relayed. -/
def relayedCopy (roles : List String) : Option IdentityContext := do
  let identity ← resolvedIdentity roles
  relayCluster.relay meetingList identity "/_dash-update-component"
    { method := "GET", path := "/v1/meetings", serviceJti := "s-3", oboJti := "o-3"
      now := seconds 61 }
    { serviceJti := "s-2", oboJti := "o-2", correlationId := "c-1", now := seconds 60 }
    { serviceJti := "s-4", oboJti := "o-4", correlationId := "c-1", now := seconds 62 }

theorem relayedCopy_some {roles : List String} {received : IdentityContext}
    (h : relayedCopy roles = some received) : ∃ identity s',
    resolvedIdentity roles = some identity ∧
      resolve relayConfig "secret" "c-1" (seconds 60) (storeWithRoles roles) =
        .ok (some identity, s') ∧
      Reaches relayCluster identity meetingList .relayed received := by
  unfold relayedCopy at h
  obtain ⟨identity, hidentity, hrelay⟩ := Option.bind_eq_some_iff.mp h
  obtain ⟨s', hresolve⟩ := resolvedIdentity_some hidentity
  exact ⟨identity, s', hidentity, hresolve, Cluster.relay_reaches hrelay⟩

end Relay

end GhostRecon.Security
