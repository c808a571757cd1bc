import GhostRecon.Security.Transactions
import GhostRecon.Security.SessionRuns

/-!
Logins, step-ups and refreshes of claims. A flow starts with a transaction that
remembers the session it was started from; its callback consumes the
transaction, exchanges the code for an identity token, creates a session for
the token's subject and then revokes the remembered session. Every one of
these is a transaction of its own, and the flows of all browsers and the other
uses of the session store interleave.
-/

namespace GhostRecon.Security

open Lib (Admissible Table run)

structure LoginConfig (γ : Type) where
  sessions : SessionConfig
  transactions : TransactionSettings := {}
  codec : TransactionCodec γ
  /-- `authentication_backend == "local_oidc"`. -/
  localOidc : Bool := false
  roleClaim : String := "https://ghostrecon.example/roles"
  phishingResistantAmr : List String := ["webauthn", "fido2", "passkey"]
  /-- The host's reading of a text as an integer. -/
  intOfText : String → Option Int

/-- The result of a code exchange: the verified claims, of which issuer and
subject are texts, and the authentication method. -/
structure IdToken where
  issuer : String
  subject : String
  claims : Json
  authenticationMethod : String := "oidc"

section Token

variable {γ : Type} (config : LoginConfig γ) (token : IdToken)

/-- The provider's roles; a claim that is not a list of texts is rejected. -/
def providerRoles : Option (List String) :=
  match token.claims.get? config.roleClaim with
  | none => some []
  | some (.arr items) => items.mapM fun item =>
    match item with
    | .str role => some role
    | _ => none
  | some _ => none

/-- `set(claims["amr"])` of a list; its members must be hashable. -/
def authenticationMethods : Option (List String) :=
  match token.claims.get? "amr" with
  | some (.arr items) =>
    if items.any fun item => item matches .arr _ || item matches .obj _ then none
    else some (items.filterMap fun item =>
      match item with
      | .str method => some method
      | _ => none)
  | _ => some []

def tokenAssurance (methods : List String) : AssuranceLevel :=
  if methods.any (· ∈ config.phishingResistantAmr) then .phishingResistant else .emailOtp

/-- `datetime.fromtimestamp(int(claims.get("auth_time", claims["iat"])), UTC)`. -/
def tokenAuthenticatedAt : Option Micros := do
  let issued ← token.claims.get? "iat"
  match ((token.claims.get? "auth_time").getD issued).toInt config.intOfText with
  | .ok value =>
    if Lib.Calendar.Representable (value * 1000000) then some (value * 1000000) else none
  | .error _ => none

/-- The claims provisioning reads. -/
def IdToken.provisionClaims : ProvisionClaims where
  issuer := token.issuer
  subject := token.subject
  email := payloadText token.claims "email"
  emailVerified := token.claims.get? "email_verified" matches some (.bool true)

/-- What the callback passes to `create_session`. -/
def sessionRequest (roles : List String) : Option SessionRequest := do
  let methods ← authenticationMethods token
  let authenticatedAt ← tokenAuthenticatedAt config token
  return {
    authenticationMethod := token.authenticationMethod
    assurance := tokenAssurance config methods
    providerRoles := roles
    authenticatedAt }

end Token

/-- How far a callback has come; a session it created is named with its
principal. -/
inductive CallbackPhase where
  | consumed
  | provisioned (principal : SecurityPrincipal) (request : SessionRequest)
  | created (sessionId principalId : String)
  | finished (sessionId principalId : String)
  /-- Ended without a session. -/
  | rejected
  /-- Ended with its session created and the old one not revoked. -/
  | broken (sessionId principalId : String)
  deriving DecidableEq

structure Callback where
  transaction : OIDCTransaction
  phase : CallbackPhase
  deriving DecidableEq

/-- The session the flow was started from. -/
def Callback.existing (callback : Callback) : Option String :=
  callback.transaction.existingSessionId.bind nonEmpty

structure LoginWorld (γ : Type) where
  store : SecurityStore
  transactions : TransactionWorld γ
  /-- Callbacks by their number, newest first. -/
  callbacks : List (Nat × Callback) := []

/-- The random texts of a transaction and the time it is made. -/
structure Draw where
  state : String
  nonce : String
  codeVerifier : String
  browserBinding : String
  createdAt : Instant
  deriving DecidableEq

inductive LoginAction where
  /-- `_start`: the transaction is made and `put` reads the browser's last state. -/
  | start (call : Nat) (identity : Option IdentityContext) (purpose returnPath : String)
      (draw : Draw) (now : Micros)
  | endPut (call salt : Nat) (now : Micros)
  /-- The callback consumes the transaction. -/
  | consume (number : Nat) (state binding : String) (now : Micros)
  /-- It exchanges the code, unless the provider refuses, and finds the principal. -/
  | exchange (number : Nat) (token : Option IdToken)
  | create (number : Nat) (id identifier : String) (now : Micros)
  | revoke (number : Nat) (now : Micros)
  /-- It ends with an error of the provider, the network or the database. -/
  | fail (number : Nat)
  /-- Another request uses the session store. -/
  | session (action : SessionAction)

section Steps

variable {γ : Type} (config : LoginConfig γ)

/-- `str(session_id)` of the identity that starts a flow. -/
def existingSessionId (identity : Option IdentityContext) : Option String :=
  identity.map fun identity => identity.sessionId.getD "None"

def newTransaction (identity : Option IdentityContext) (purpose returnPath : String)
    (draw : Draw) : OIDCTransaction where
  state := draw.state
  nonce := draw.nonce
  codeVerifier := draw.codeVerifier
  browserBinding := draw.browserBinding
  returnPath
  createdAt := draw.createdAt
  purpose
  existingSessionId := existingSessionId identity

def LoginWorld.callback? (w : LoginWorld γ) (number : Nat) : Option Callback :=
  w.callbacks.lookup number

/-- Move a callback on. -/
def LoginWorld.move (w : LoginWorld γ) (number : Nat) (callback : Callback)
    (phase : CallbackPhase) : LoginWorld γ :=
  { w with callbacks := (number, { callback with phase }) :: w.callbacks }

/-- Where the exchange and the search for the principal lead. -/
def exchanged (store : SecurityStore) (token : Option IdToken) : CallbackPhase :=
  match token with
  | none => .rejected
  | some token =>
    match providerRoles config token with
    | none => .rejected
    | some roles =>
      match provisionFromClaims token.provisionClaims roles false "" store with
      | .error _ => .rejected
      | .ok (principal, _) =>
        match sessionRequest config token roles with
        | none => .rejected
        | some request => .provisioned principal request

/-- `revoke(existing_session_id)`: the database takes no text that is not a key. -/
def revokeExisting (sessionId reason : String) (now : Micros) (store : SecurityStore) :
    Option SecurityStore :=
  if sessionId = "None" then none else some (revoke sessionId reason now store).2

/-- The end of a callback that has created its session. -/
def finishStep (w : LoginWorld γ) (number : Nat) (callback : Callback)
    (sessionId principalId : String) (now : Micros) : LoginWorld γ :=
  match callback.existing with
  | none => w.move number callback (.finished sessionId principalId)
  | some existing =>
    match revokeExisting existing ("rotated_after_" ++ callback.transaction.purpose) now
      w.store with
    | none => w.move number callback (.broken sessionId principalId)
    | some store =>
      { w with store }.move number callback (.finished sessionId principalId)

/-- One step of a callback that is under way. -/
def callbackStep (w : LoginWorld γ) (number : Nat) (callback : Callback) :
    LoginAction → LoginWorld γ
  | .exchange _ token =>
    match callback.phase with
    | .consumed => w.move number callback (exchanged config w.store token)
    | _ => w
  | .create _ id identifier now =>
    match callback.phase with
    | .provisioned principal request =>
      match createSession config.sessions principal request id identifier now w.store with
      | .error _ => w.move number callback .rejected
      | .ok (record, store) =>
        { w with store }.move number callback (.created record.id record.principalId)
    | _ => w
  | .revoke _ now =>
    match callback.phase with
    | .created sessionId principalId => finishStep w number callback sessionId principalId now
    | _ => w
  | .fail _ =>
    match callback.phase with
    | .consumed | .provisioned _ _ => w.move number callback .rejected
    | .created sessionId principalId => w.move number callback (.broken sessionId principalId)
    | _ => w
  | _ => w

/-- The callback an action belongs to, once it holds its transaction. -/
def LoginAction.callback? : LoginAction → Option Nat
  | .exchange number _ | .create number _ _ _ | .revoke number _ | .fail number => some number
  | _ => none

def LoginWorld.transact (w : LoginWorld γ) (action : TransactionAction) : LoginWorld γ :=
  { w with
    transactions := transactionStep config.codec config.transactions w.transactions action }

def loginStep (w : LoginWorld γ) (action : LoginAction) : LoginWorld γ :=
  match action with
  | .start call identity purpose returnPath draw now =>
    if config.localOidc then w
    else w.transact config (.beginPut call (newTransaction identity purpose returnPath draw) now)
  | .endPut call salt now => w.transact config (.endPut call salt now)
  | .consume number state binding now =>
    if (w.callback? number).isSome then w
    else
      let after := w.transact config (.consume state binding now)
      match returnedBy config.codec config.transactions w.transactions
        (.consume state binding now) with
      | none => after
      | some transaction => after.move number ⟨transaction, .consumed⟩ .consumed
  | .session action =>
    { w with store := storeAfter config.sessions ⟨w.store, []⟩ action }
  | .exchange number _ | .create number _ _ _ | .revoke number _ | .fail number =>
    match w.callback? number with
    | none => w
    | some callback => callbackStep config w number callback action

end Steps

section Rotation

variable {γ : Type} (config : LoginConfig γ)

/-- The session exists and is the principal's. -/
def SecurityStore.Owns (s : SecurityStore) (sessionId principalId : String) : Prop :=
  ∃ row ∈ s.sessions, row.id = sessionId ∧ row.principalId = principalId

instance (s : SecurityStore) (sessionId principalId : String) :
    Decidable (s.Owns sessionId principalId) :=
  inferInstanceAs (Decidable (∃ row ∈ s.sessions, _))

/-- What is claimed of a callback that was started from a session: a session it
created is the same principal's, and one that ended has revoked the old one. -/
def Callback.Rotated (s : SecurityStore) (callback : Callback) : Prop :=
  ∀ existing, callback.existing = some existing →
    match callback.phase with
    | .consumed | .provisioned _ _ | .rejected => True
    | .created sessionId principalId =>
      s.Owns sessionId principalId ∧ s.Owns existing principalId
    | .finished sessionId principalId =>
      s.Owns sessionId principalId ∧ s.Owns existing principalId ∧
        ∀ row ∈ s.sessions, row.id = existing → row.revokedAt ≠ none
    | .broken _ _ => False

/-- What is claimed of each step of such a callback: it changes no session, or
adds one of the old session's principal, or revokes only the old session, of
the principal of the session it has added. -/
def StepRotates (w : LoginWorld γ) (action : LoginAction) : Prop :=
  ∀ number callback existing, action.callback? = some number →
    w.callback? number = some callback → callback.existing = some existing →
    (loginStep config w action).store = w.store ∨
    (∃ row, (loginStep config w action).store.sessions = w.store.sessions ++ [row] ∧
      w.store.Owns existing row.principalId) ∨
    ∃ sessionId principalId, w.store.Owns sessionId principalId ∧
      w.store.Owns existing principalId ∧ callback.phase = .created sessionId principalId ∧
      ∃ now reason, (loginStep config w action).store =
        w.store.revokeWhere (·.id = existing) now reason

/-- The token names the principal of the session the flow was started from, and
nothing fails between creating the new session and revoking that one. -/
def SamePrincipal (w : LoginWorld γ) (action : LoginAction) : Prop :=
  match action with
  | .exchange number (some token) =>
    ∀ callback existing, w.callback? number = some callback →
      callback.existing = some existing →
      existing ≠ "None" ∧ ∃ principal ∈ w.store.principals,
        principal.issuer = token.issuer ∧ principal.subject = token.subject ∧
          w.store.Owns existing principal.id
  | .fail number =>
    ∀ callback sessionId principalId, w.callback? number = some callback →
      callback.existing ≠ none → callback.phase ≠ .created sessionId principalId
  | _ => True

end Rotation

section Growth

/-- Every session stays, and one that is new has a new key. -/
structure Grows (s s' : SecurityStore) : Prop where
  kept : ∀ row ∈ s.sessions, ∃ row' ∈ s'.sessions, Continues row row'
  added : ∀ row' ∈ s'.sessions,
    (∃ row ∈ s.sessions, Continues row row') ∨ ∀ row ∈ s.sessions, row.id ≠ row'.id

variable {s s' : SecurityStore}

theorem Grows.refl (s : SecurityStore) : Grows s s where
  kept row hrow := ⟨row, hrow, Continues.refl row⟩
  added row hrow := Or.inl ⟨row, hrow, Continues.refl row⟩

theorem SessionsContinue.grows (h : SessionsContinue s s') : Grows s s' := by
  obtain ⟨f, hf, hsessions⟩ := h
  constructor
  · intro row hrow
    exact ⟨f row, by rw [hsessions]; exact List.mem_map_of_mem hrow, hf row⟩
  · intro row' hrow'
    rw [hsessions] at hrow'
    obtain ⟨row, hrow, rfl⟩ := List.mem_map.mp hrow'
    exact Or.inl ⟨row, hrow, hf row⟩

/-- A created session has a key of its own. -/
theorem grows_createSession {config : SessionConfig} {principal : SecurityPrincipal}
    {request : SessionRequest} {id identifier : String} {now : Micros} {record : SecuritySession}
    (h : createSession config principal request id identifier now s = .ok (record, s')) :
    Grows s s' := by
  obtain ⟨-, hstore, hvalid⟩ := createSession_ok h
  have hsessions : s'.sessions = s.sessions ++ [record] := by rw [hstore]
  constructor
  · intro row hrow
    exact ⟨row, by rw [hsessions]; exact List.mem_append_left _ hrow, Continues.refl row⟩
  · intro row' hrow'
    rw [hsessions] at hrow'
    rcases List.mem_append.mp hrow' with hold | hnew
    · exact Or.inl ⟨row', hold, Continues.refl row'⟩
    · obtain rfl := List.mem_singleton.mp hnew
      simp only [SecurityStore.constraints, Bool.and_eq_true] at hvalid
      have hunique := hvalid.1.1.1.1.1.1.2
      rw [hsessions, Table.uniqueOn_concat] at hunique
      refine Or.inr fun row hrow hsame => hunique.2 row'.id rfl row hrow ?_
      rw [hsame]

/-- Other requests' uses of the session store. -/
theorem grows_storeAfter (config : SessionConfig) (s : SecurityStore) (action : SessionAction) :
    Grows s (storeAfter config ⟨s, []⟩ action) := by
  rcases storeAfter_cases config ⟨s, []⟩ action with ⟨-, hsessions, -⟩ | hcreated | hupdated
  · exact hsessions.grows
  · obtain ⟨_, _, _, _, _, _, -, hheld, -⟩ := hcreated
    cases hheld
  · obtain ⟨update, uuid, now, -, -, -, hstore⟩ := hupdated
    rw [hstore]
    exact SessionsContinue.grows (revokeWhere_continue _ _ now _)

theorem SecurityStore.Owns.grows {sessionId principalId : String}
    (h : s.Owns sessionId principalId) (hgrows : Grows s s') :
    s'.Owns sessionId principalId := by
  obtain ⟨row, hrow, hid, hprincipal⟩ := h
  obtain ⟨row', hrow', hcontinues⟩ := hgrows.kept row hrow
  exact ⟨row', hrow', hcontinues.id.trans hid, hcontinues.principalId.trans hprincipal⟩

/-- A session that exists and is revoked stays so. -/
theorem Grows.revoked {sessionId principalId : String} (hgrows : Grows s s')
    (howned : s.Owns sessionId principalId)
    (h : ∀ row ∈ s.sessions, row.id = sessionId → row.revokedAt ≠ none) :
    ∀ row ∈ s'.sessions, row.id = sessionId → row.revokedAt ≠ none := by
  intro row' hrow' hid
  rcases hgrows.added row' hrow' with ⟨row, hrow, hcontinues⟩ | hnew
  · exact hcontinues.revoked (h row hrow (hcontinues.id.symm.trans hid))
  · obtain ⟨row, hrow, hsame, -⟩ := howned
    exact absurd (hsame.trans hid.symm) (hnew row hrow)

end Growth

section Invariant

variable {γ : Type} {config : LoginConfig γ}

/-- `Rotated`, with what is known before a session is created. -/
def Callback.Bound (s : SecurityStore) (callback : Callback) : Prop :=
  ∀ existing, callback.existing = some existing →
    match callback.phase with
    | .consumed | .rejected => True
    | .provisioned principal _ => existing ≠ "None" ∧ s.Owns existing principal.id
    | .created sessionId principalId =>
      existing ≠ "None" ∧ s.Owns sessionId principalId ∧ s.Owns existing principalId
    | .finished sessionId principalId =>
      s.Owns sessionId principalId ∧ s.Owns existing principalId ∧
        ∀ row ∈ s.sessions, row.id = existing → row.revokedAt ≠ none
    | .broken _ _ => False

theorem Callback.Bound.rotated {s : SecurityStore} {callback : Callback}
    (h : callback.Bound s) : callback.Rotated s := by
  intro existing hexisting
  have hbound := h existing hexisting
  cases hphase : callback.phase with
  | created sessionId principalId =>
    rw [hphase] at hbound
    exact hbound.2
  | finished sessionId principalId =>
    rw [hphase] at hbound
    exact hbound
  | broken sessionId principalId =>
    rw [hphase] at hbound
    exact hbound
  | _ => trivial

theorem Callback.Bound.grows {s s' : SecurityStore} {callback : Callback}
    (h : callback.Bound s) (hgrows : Grows s s') : callback.Bound s' := by
  intro existing hexisting
  have hbound := h existing hexisting
  cases hphase : callback.phase with
  | provisioned principal request =>
    rw [hphase] at hbound
    exact ⟨hbound.1, hbound.2.grows hgrows⟩
  | created sessionId principalId =>
    rw [hphase] at hbound
    exact ⟨hbound.1, hbound.2.1.grows hgrows, hbound.2.2.grows hgrows⟩
  | finished sessionId principalId =>
    rw [hphase] at hbound
    exact ⟨hbound.1.grows hgrows, hbound.2.1.grows hgrows,
      hgrows.revoked hbound.2.1 hbound.2.2⟩
  | broken sessionId principalId =>
    rw [hphase] at hbound
    exact hbound
  | _ => trivial

def AllBound (w : LoginWorld γ) : Prop :=
  ∀ number callback, w.callback? number = some callback → callback.Bound w.store

theorem AllBound.grows {w w' : LoginWorld γ} (h : AllBound w)
    (hgrows : Grows w.store w'.store) (hcallbacks : w'.callbacks = w.callbacks) : AllBound w' := by
  intro number callback hcallback
  unfold LoginWorld.callback? at hcallback
  rw [hcallbacks] at hcallback
  exact (h number callback hcallback).grows hgrows

theorem AllBound.move {w : LoginWorld γ} (h : AllBound w) {number : Nat} {callback : Callback}
    {phase : CallbackPhase} (hbound : Callback.Bound w.store { callback with phase }) :
    AllBound (w.move number callback phase) := by
  intro other found hfound
  change List.lookup other ((number, { callback with phase }) :: w.callbacks) = some found at hfound
  rw [List.lookup_cons] at hfound
  split at hfound
  · cases hfound
    exact hbound
  · exact h other found hfound

/-- Where the exchange leads, the token's principal was found. -/
theorem exchanged_cases (config : LoginConfig γ) (store : SecurityStore) (token : IdToken) :
    exchanged config store (some token) = .rejected ∨
      ∃ principal request, exchanged config store (some token) = .provisioned principal request ∧
        principal ∈ store.principals ∧ principal.issuer = token.issuer ∧
        principal.subject = token.subject := by
  unfold exchanged
  dsimp only
  split
  · exact Or.inl rfl
  · next roles hroles =>
    split
    · exact Or.inl rfl
    · next principal s' hprovision =>
      split
      · exact Or.inl rfl
      · next request hrequest =>
        refine Or.inr ⟨principal, request, rfl, ?_⟩
        unfold provisionFromClaims at hprovision
        split at hprovision
        · next found hfound =>
          split at hprovision
          · cases hprovision
          · cases hprovision
            have hmatch := List.find?_some hfound
            simp only [decide_eq_true_eq] at hmatch
            exact ⟨List.mem_of_find?_eq_some hfound, hmatch.1, hmatch.2⟩
        · cases hprovision

variable {w : LoginWorld γ} {number : Nat} {callback : Callback}

theorem allBound_exchange {token : Option IdToken} (h : AllBound w)
    (hvalid : w.store.constraints = true)
    (hok : SamePrincipal w (.exchange number token))
    (hcallback : w.callback? number = some callback) :
    AllBound (callbackStep config w number callback (.exchange number token)) := by
  simp only [callbackStep]
  split
  · next hphase =>
    refine h.move ?_
    intro existing hexisting
    cases token with
    | none => trivial
    | some token =>
      rcases exchanged_cases config w.store token with hrejected |
        ⟨principal, request, hprovisioned, hmem, hissuer, hsubject⟩
      · simp only [hrejected]
      · simp only [hprovisioned]
        obtain ⟨hkey, owner, howner, hsameIssuer, hsameSubject, howned⟩ :=
          hok callback existing hcallback hexisting
        simp only [SecurityStore.constraints, Bool.and_eq_true] at hvalid
        have hsame : owner = principal :=
          eq_of_uniqueOn hvalid.1.1.1.1.1.1.1.1.2 howner hmem
            (by rw [hsameIssuer, hsameSubject, hissuer, hsubject])
        rw [← hsame]
        exact ⟨hkey, howned⟩
  · exact h

theorem allBound_create {id identifier : String} {now : Micros} (h : AllBound w)
    (hcallback : w.callback? number = some callback) :
    AllBound (callbackStep config w number callback (.create number id identifier now)) := by
  have hbound := h number callback hcallback
  simp only [callbackStep]
  split
  · next principal request hphase =>
    split
    · exact h.move fun existing hexisting => trivial
    · next record store hcreate =>
      obtain ⟨hrecord, hstore, -⟩ := createSession_ok hcreate
      have hgrows := grows_createSession hcreate
      have hafter : AllBound { w with store } := h.grows hgrows rfl
      refine hafter.move ?_
      intro existing hexisting
      have hprovisioned := hbound existing hexisting
      rw [hphase] at hprovisioned
      have hprincipal : record.principalId = principal.id := by rw [hrecord]; rfl
      refine ⟨hprovisioned.1, ⟨record, ?_, rfl, rfl⟩, ?_⟩
      · change record ∈ store.sessions
        rw [hstore]
        simp
      · rw [hprincipal]
        exact hprovisioned.2.grows hgrows
  · exact h

theorem allBound_finish {sessionId principalId : String} {now : Micros} (h : AllBound w)
    (hcallback : w.callback? number = some callback)
    (hphase : callback.phase = .created sessionId principalId) :
    AllBound (finishStep w number callback sessionId principalId now) := by
  have hbound := h number callback hcallback
  unfold finishStep
  split
  · next hnone =>
    refine h.move ?_
    intro existing hexisting
    change callback.existing = some existing at hexisting
    rw [hnone] at hexisting
    cases hexisting
  · next existing hexisting =>
    have hcreated := hbound existing hexisting
    rw [hphase] at hcreated
    obtain ⟨hkey, hnew, hold⟩ := hcreated
    unfold revokeExisting
    rw [if_neg hkey]
    dsimp only
    have hgrows : Grows w.store (revoke existing
        ("rotated_after_" ++ callback.transaction.purpose) now w.store).2 :=
      (revokeWhere_continue w.store _ now _).grows
    have hafter : AllBound { w with store := (revoke existing
        ("rotated_after_" ++ callback.transaction.purpose) now w.store).2 } := h.grows hgrows rfl
    refine hafter.move ?_
    intro same hsame
    change callback.existing = some same at hsame
    rw [hexisting] at hsame
    cases hsame
    refine ⟨hnew.grows hgrows, hold.grows hgrows, ?_⟩
    intro row' hrow' hid
    obtain ⟨row, hrow, rfl⟩ := List.mem_map.mp hrow'
    by_cases hhit : row.id = existing
    · simp only [hhit, decide_true, cond_true]
      exact revoked_isRevoked row now _
    · simp only [hhit, decide_false, cond_false] at hid

theorem allBound_fail (h : AllBound w) (hok : SamePrincipal w (.fail number))
    (hcallback : w.callback? number = some callback) :
    AllBound (callbackStep config w number callback (.fail number)) := by
  simp only [callbackStep]
  split
  · exact h.move fun existing hexisting => trivial
  · exact h.move fun existing hexisting => trivial
  · next sessionId principalId hphase =>
    refine h.move ?_
    intro existing hexisting
    change callback.existing = some existing at hexisting
    exact hok callback sessionId principalId hcallback (by simp [hexisting]) hphase
  · exact h

/-- One step of a run keeps what is known of the callbacks. -/
theorem allBound_step (action : LoginAction) (hok : SamePrincipal w action)
    (hvalid : w.store.constraints = true) (h : AllBound w) :
    AllBound (loginStep config w action) := by
  cases action with
  | start call identity purpose returnPath draw now =>
    simp only [loginStep]
    split
    · exact h
    · exact h.grows (Grows.refl _) rfl
  | endPut call salt now => exact h.grows (Grows.refl _) rfl
  | consume number state binding now =>
    simp only [loginStep]
    split
    · exact h
    · split
      · exact h.grows (Grows.refl _) rfl
      · exact AllBound.move (h.grows (Grows.refl _) rfl) fun existing hexisting => trivial
  | session action => exact h.grows (grows_storeAfter _ _ action) rfl
  | exchange number token =>
    simp only [loginStep]
    split
    · exact h
    · next callback hcallback => exact allBound_exchange h hvalid hok hcallback
  | create number id identifier now =>
    simp only [loginStep]
    split
    · exact h
    · next callback hcallback => exact allBound_create h hcallback
  | revoke number now =>
    simp only [loginStep]
    split
    · exact h
    · next callback hcallback =>
      simp only [callbackStep]
      split
      · next sessionId principalId hphase => exact allBound_finish h hcallback hphase
      · exact h
  | fail number =>
    simp only [loginStep]
    split
    · exact h
    · next callback hcallback => exact allBound_fail h hok hcallback

/-- A step of a callback changes no session, creates one, or revokes one. -/
theorem callbackStep_store (config : LoginConfig γ) (w : LoginWorld γ) (number : Nat)
    (callback : Callback) (action : LoginAction) :
    (callbackStep config w number callback action).store = w.store ∨
    (∃ principal request id identifier now record,
      callback.phase = .provisioned principal request ∧
      createSession config.sessions principal request id identifier now w.store =
        .ok (record, (callbackStep config w number callback action).store)) ∨
    ∃ sessionId principalId existing now reason,
      callback.phase = .created sessionId principalId ∧ callback.existing = some existing ∧
      (callbackStep config w number callback action).store =
        w.store.revokeWhere (·.id = existing) now reason := by
  cases action with
  | exchange _ token =>
    simp only [callbackStep]
    split <;> exact Or.inl rfl
  | create _ id identifier now =>
    simp only [callbackStep]
    split
    · next principal request hphase =>
      split
      · exact Or.inl rfl
      · next record store hcreate =>
        exact Or.inr (Or.inl ⟨principal, request, id, identifier, now, record, hphase, hcreate⟩)
    · exact Or.inl rfl
  | revoke _ now =>
    simp only [callbackStep]
    split
    · next sessionId principalId hphase =>
      unfold finishStep
      split
      · exact Or.inl rfl
      · next existing hexisting =>
        unfold revokeExisting
        split
        · exact Or.inl rfl
        · next store hstore =>
          split at hstore
          · cases hstore
          · cases hstore
            exact Or.inr (Or.inr ⟨sessionId, principalId, existing, now, _, hphase, hexisting, rfl⟩)
    · exact Or.inl rfl
  | fail _ =>
    simp only [callbackStep]
    split <;> exact Or.inl rfl
  | _ => exact Or.inl rfl

theorem loginStep_callback {action : LoginAction} (haction : action.callback? = some number)
    (hcallback : w.callback? number = some callback) :
    loginStep config w action = callbackStep config w number callback action := by
  cases action with
  | exchange other token =>
    cases haction
    simp only [loginStep, hcallback]
  | create other id identifier now =>
    cases haction
    simp only [loginStep, hcallback]
  | revoke other now =>
    cases haction
    simp only [loginStep, hcallback]
  | fail other =>
    cases haction
    simp only [loginStep, hcallback]
  | _ => cases haction

theorem constraints_step (action : LoginAction) (hvalid : w.store.constraints = true) :
    (loginStep config w action).store.constraints = true := by
  cases hnumber : action.callback? with
  | some number =>
    cases hcallback : w.callback? number with
    | some callback =>
      rw [loginStep_callback hnumber hcallback]
      rcases callbackStep_store config w number callback action with hsame |
        ⟨_, _, _, _, _, _, -, hcreate⟩ | ⟨_, _, _, now, reason, -, -, hrevoke⟩
      · rw [hsame]
        exact hvalid
      · exact (createSession_ok hcreate).2.2
      · rw [hrevoke, revokeWhere_constraints]
        exact hvalid
    | none =>
      cases action with
      | exchange other token | create other id identifier now | revoke other now | fail other =>
        cases hnumber
        simpa only [loginStep, hcallback] using hvalid
      | _ => cases hnumber
  | none =>
    cases action with
    | start call identity purpose returnPath draw now =>
      simp only [loginStep]
      split <;> exact hvalid
    | endPut call salt now => exact hvalid
    | consume number state binding now =>
      simp only [loginStep]
      split
      · exact hvalid
      · split <;> exact hvalid
    | session action => exact storeAfter_constraints hvalid
    | exchange other token | create other id identifier now | revoke other now | fail other =>
      cases hnumber

/-- What one step of a callback does to the sessions. -/
theorem stepRotates_of_allBound (action : LoginAction) (h : AllBound w) :
    StepRotates config w action := by
  intro number callback existing haction hcallback hexisting
  have hbound := h number callback hcallback existing hexisting
  rw [loginStep_callback haction hcallback]
  rcases callbackStep_store config w number callback action with hsame |
    ⟨principal, _, _, _, _, record, hphase, hcreate⟩ |
    ⟨sessionId, principalId, same, now, reason, hphase, hsame, hrevoke⟩
  · exact Or.inl hsame
  · rw [hphase] at hbound
    obtain ⟨hrecord, hstore, -⟩ := createSession_ok hcreate
    have hprincipal : record.principalId = principal.id := by rw [hrecord]; rfl
    refine Or.inr (Or.inl ⟨record, by rw [hstore], ?_⟩)
    rw [hprincipal]
    exact hbound.2
  · rw [hexisting] at hsame
    cases hsame
    rw [hphase] at hbound
    exact Or.inr (Or.inr ⟨sessionId, principalId, hbound.2.1, hbound.2.2, hphase, now, reason,
      hrevoke⟩)

end Invariant

section Theorem

variable {γ : Type} {config : LoginConfig γ} {start : LoginWorld γ} {actions : List LoginAction}

/-- In every run in which each token names the principal of the session its
flow was started from, and no callback fails between creating its session and
revoking the old one, a callback creates a session only for that principal and
revokes only that session. -/
theorem rotation_keeps_principal (hstart : start.callbacks = [])
    (hvalid : start.store.constraints = true)
    (hrun : Admissible (loginStep config) SamePrincipal start actions) :
    Admissible (loginStep config) (StepRotates config) start actions ∧
      ∀ number callback, (run (loginStep config) start actions).callback? number = some callback →
        callback.Rotated (run (loginStep config) start actions).store := by
  have hinit : start.store.constraints = true ∧ AllBound start := by
    refine ⟨hvalid, ?_⟩
    intro number callback hcallback
    rw [LoginWorld.callback?, hstart] at hcallback
    cases hcallback
  have hstep : ∀ (w : LoginWorld γ) action, SamePrincipal w action →
      w.store.constraints = true ∧ AllBound w →
      (loginStep config w action).store.constraints = true ∧
        AllBound (loginStep config w action) :=
    fun w action hok h => ⟨constraints_step action h.1, allBound_step action hok h.1 h.2⟩
  constructor
  · exact Lib.admissible_of_invariant hstep
      (fun w action _ h => stepRotates_of_allBound action h.2) hrun hinit
  · intro number callback hcallback
    exact ((Lib.run_keeps hstep hrun hinit).2 number callback hcallback).rotated

end Theorem

section StepUp

def gatewayConfig : LoginConfig (Nat × Json) where
  sessions := loginConfig
  codec := openCodec
  intOfText := String.toInt?

/-- A token of the provider for a subject, issued at the epoch. -/
def tokenFor (subject : String) : IdToken where
  issuer := "https://id.example"
  subject
  claims := .obj [("iss", .str "https://id.example"), ("sub", .str subject), ("iat", .int 0)]

def otherPrincipal : SecurityPrincipal :=
  { loginPrincipal with id := "p-2", subject := "bob", actorLabel := "Bob" }

def oldSession : SecuritySession :=
  newSession loginConfig loginPrincipal
    { authenticationMethod := "oidc", assurance := .emailOtp, providerRoles := [],
      authenticatedAt := 0 } "s-1" "secret" 0

/-- Two principals are provisioned and the first has a session. -/
def gatewayStart : LoginWorld (Nat × Json) where
  store := { principals := [loginPrincipal, otherPrincipal], sessions := [oldSession] }
  transactions := { redis := Lib.Expiring.empty }

def stepUpIdentity : IdentityContext where
  subject := "ada"
  authenticatedAt := 0
  assurance := .emailOtp
  sessionId := some "s-1"

theorem epoch_representable : Lib.Calendar.Representable 0 := by
  decide

def stepUpDraw : Draw where
  state := "state"
  nonce := "nonce"
  codeVerifier := "verifier"
  browserBinding := "browser"
  createdAt := ⟨0, epoch_representable⟩

/-- A step-up of the first principal's session that ends with the given token. -/
def stepUpWith (token : IdToken) : List LoginAction :=
  [.start 1 (some stepUpIdentity) "step_up" "/" stepUpDraw 0, .endPut 1 7 1,
    .consume 1 "state" "browser" 2, .exchange 1 (some token), .create 1 "s-2" "fresh" 3,
    .revoke 1 4]

def stepUpFinished (principalId : String) : Callback where
  transaction := newTransaction (some stepUpIdentity) "step_up" "/" stepUpDraw
  phase := .finished "s-2" principalId

/-- A step-up that ends with a token of its own user. -/
theorem own_step_up_rotates :
    Admissible (loginStep gatewayConfig) (StepRotates gatewayConfig) gatewayStart
        (stepUpWith (tokenFor "ada")) ∧
      ∀ number callback,
        (run (loginStep gatewayConfig) gatewayStart
          (stepUpWith (tokenFor "ada"))).callback? number = some callback →
        callback.Rotated (run (loginStep gatewayConfig) gatewayStart
          (stepUpWith (tokenFor "ada"))).store := by
  refine rotation_keeps_principal rfl (by decide +kernel) ⟨trivial, trivial, trivial, ?_, trivial,
    trivial, trivial⟩
  intro callback existing hcallback hexisting
  have hconsumed : (run (loginStep gatewayConfig) gatewayStart
      ((stepUpWith (tokenFor "ada")).take 3)).callback? 1 =
      some { stepUpFinished "p-1" with phase := .consumed } := by decide +kernel
  obtain rfl := Option.some.inj (hconsumed.symm.trans hcallback)
  obtain rfl : "s-1" = existing := Option.some.inj hexisting
  exact ⟨by decide, loginPrincipal, by decide +kernel, rfl, rfl, by decide +kernel⟩

/-- A step-up that ends with another user's token logs that user in and ends
the session it was started from. -/
theorem foreign_step_up_ends_session :
    ¬ (∀ (config : LoginConfig (Nat × Json)) (start : LoginWorld (Nat × Json))
        (actions : List LoginAction), start.callbacks = [] → start.store.constraints = true →
        Admissible (loginStep config) (StepRotates config) start actions ∧
          ∀ number callback,
            (run (loginStep config) start actions).callback? number = some callback →
            callback.Rotated (run (loginStep config) start actions).store) := by
  intro hclaim
  obtain ⟨-, hrotated⟩ := hclaim gatewayConfig gatewayStart (stepUpWith (tokenFor "bob")) rfl
    (by decide +kernel)
  have hcallback : (run (loginStep gatewayConfig) gatewayStart
      (stepUpWith (tokenFor "bob"))).callback? 1 = some (stepUpFinished "p-2") := by
    decide +kernel
  obtain ⟨-, hsame, -⟩ := hrotated 1 (stepUpFinished "p-2") hcallback "s-1" rfl
  have hother : ¬ (run (loginStep gatewayConfig) gatewayStart
      (stepUpWith (tokenFor "bob"))).store.Owns "s-1" "p-2" := by decide +kernel
  exact hother hsame

end StepUp

end GhostRecon.Security
