import GhostRecon.Security.Sessions
import GhostRecon.Lib.Run

/-!
Runs of the session store. Requests read principals, log in with the principal
they hold and resolve their sessions while administrators change principals and
sessions are revoked, each call one transaction, in any order and under any
clock. The theorem says when a session identifier still yields an identity.
-/

namespace GhostRecon.Security

open Lib (Table Admissible Since run)

/-- The store and the principal objects the requests have read, newest first. -/
structure SessionWorld where
  store : SecurityStore
  held : List (Nat × SecurityPrincipal) := []
  deriving DecidableEq, Repr

inductive SessionAction where
  | provision (request : Nat) (claims : ProvisionClaims) (providerRoles : List String)
      (allowCreate : Bool) (newId : String)
  | getPrincipal (request : Nat) (principalId : String)
  | create (request : Nat) (session : SessionRequest) (id identifier : String) (now : Micros)
  | resolve (rawIdentifier correlationId : String) (now : Micros)
  | revoke (sessionId reason : String) (now : Micros)
  | revokeSubject (subject reason : String) (now : Micros)
  | revokePrincipalSessions (principalId reason : String) (now : Micros)
  | update (update : PrincipalUpdate) (uuid : String) (now : Micros)
  deriving DecidableEq, Repr

/-- The store after a transaction that may have raised. -/
def Outcome.store {α : Type} (s : SecurityStore) : Outcome α → SecurityStore
  | .ok (_, s') => s'
  | .error _ => s

section Steps

variable (config : SessionConfig)

/-- The principal object the action hands to a request. -/
def handed (s : SecurityStore) : SessionAction → Option (Nat × SecurityPrincipal)
  | .provision request claims providerRoles allowCreate newId =>
    match provisionFromClaims claims providerRoles allowCreate newId s with
    | .ok (principal, _) => some (request, principal)
    | .error _ => none
  | .getPrincipal request principalId => (s.principal? principalId).map (request, ·)
  | _ => none

/-- The principal an update changes and the roles it gives, once committed. -/
def updated (s : SecurityStore) : SessionAction → Option (String × List String)
  | .update update uuid now =>
    match updatePrincipal update uuid now s with
    | .ok (some _, _) => some (update.principalId, update.roles)
    | _ => none
  | _ => none

/-- What a request that holds no principal cannot do. -/
def createHeld (w : SessionWorld) (request : Nat) (session : SessionRequest)
    (id identifier : String) (now : Micros) : SecurityStore :=
  match w.held.lookup request with
  | none => w.store
  | some principal =>
    (createSession config principal session id identifier now w.store).store w.store

def storeAfter (w : SessionWorld) : SessionAction → SecurityStore
  | .provision _ claims providerRoles allowCreate newId =>
    (provisionFromClaims claims providerRoles allowCreate newId w.store).store w.store
  | .getPrincipal _ _ => w.store
  | .create request session id identifier now =>
    createHeld config w request session id identifier now
  | .resolve rawIdentifier correlationId now =>
    (resolve config rawIdentifier correlationId now w.store).store w.store
  | .revoke sessionId reason now => (revoke sessionId reason now w.store).2
  | .revokeSubject subject reason now => (revokeSubject subject reason now w.store).2
  | .revokePrincipalSessions principalId reason now =>
    (revokePrincipalSessions principalId reason now w.store).2
  | .update update uuid now => (updatePrincipal update uuid now w.store).store w.store

def sessionStep (w : SessionWorld) (action : SessionAction) : SessionWorld where
  store := storeAfter config w action
  held := (handed w.store action).toList ++ w.held

/-- Random versions are new: no principal object that was read and no session
carries one yet. -/
def FreshVersion (w : SessionWorld) : SessionAction → Prop
  | .update _ uuid _ =>
    (∀ entry ∈ w.held, entry.2.mappingVersion ≠ "admin-" ++ uuid) ∧
      ∀ row ∈ w.store.sessions, row.mappingVersion ≠ "admin-" ++ uuid
  | _ => True

instance (w : SessionWorld) : ∀ action, Decidable (FreshVersion w action)
  | .update _ _ _ => inferInstanceAs (Decidable (_ ∧ _))
  | .provision .. | .getPrincipal .. | .create .. | .resolve .. | .revoke ..
  | .revokeSubject .. | .revokePrincipalSessions .. => .isTrue trivial

end Steps

section Effects

variable {config : SessionConfig} {w : SessionWorld} {action : SessionAction}

/-- What a session keeps for good. -/
structure Continues (row row' : SecuritySession) : Prop where
  id : row'.id = row.id
  principalId : row'.principalId = row.principalId
  identifierDigest : row'.identifierDigest = row.identifierDigest
  authenticationMethod : row'.authenticationMethod = row.authenticationMethod
  providerRoles : row'.providerRoles = row.providerRoles
  mappingVersion : row'.mappingVersion = row.mappingVersion
  revoked : row.revokedAt ≠ none → row'.revokedAt ≠ none

theorem Continues.refl (row : SecuritySession) : Continues row row :=
  ⟨rfl, rfl, rfl, rfl, rfl, rfl, fun h => h⟩

theorem continues_revoked (row : SecuritySession) (now : Micros) (reason : String) :
    Continues row (row.revoked now reason) := by
  unfold SecuritySession.revoked
  split
  · exact ⟨rfl, rfl, rfl, rfl, rfl, rfl, by simp⟩
  · exact Continues.refl row

theorem revoked_isRevoked (row : SecuritySession) (now : Micros) (reason : String) :
    (row.revoked now reason).revokedAt ≠ none := by
  unfold SecuritySession.revoked
  split
  · simp
  · next h => exact h

theorem continues_seen (row : SecuritySession) (now : Micros) :
    Continues row (row.seen config now) :=
  ⟨rfl, rfl, rfl, rfl, rfl, rfl, id⟩

/-- The sessions were only touched row by row. -/
def SessionsContinue (s s' : SecurityStore) : Prop :=
  ∃ f, (∀ row, Continues row (f row)) ∧ s'.sessions = s.sessions.map f

theorem SessionsContinue.of_eq {s s' : SecurityStore} (h : s'.sessions = s.sessions) :
    SessionsContinue s s' :=
  ⟨id, Continues.refl, by simp [h]⟩

theorem revokeWhere_continue (s : SecurityStore) (hit : SecuritySession → Bool) (now : Micros)
    (reason : String) : SessionsContinue s (s.revokeWhere hit now reason) := by
  refine ⟨_, ?_, rfl⟩
  intro row
  cases hit row with
  | true => exact continues_revoked row now reason
  | false => exact Continues.refl row

/-- Touching sessions row by row breaks no constraint. -/
theorem constraints_continue {s s' : SecurityStore} (h : SessionsContinue s s')
    (hprincipals : s'.principals = s.principals) (hbindings : s'.bindings = s.bindings) :
    s'.constraints = s.constraints := by
  obtain ⟨f, hf, hsessions⟩ := h
  unfold SecurityStore.constraints
  rw [hsessions, hprincipals, hbindings]
  simp only [Table.uniqueOn, List.filterMap_map, Function.comp_def, (hf _).id,
    (hf _).identifierDigest, (hf _).principalId, (hf _).authenticationMethod, List.all_map]

theorem commit_ok {α : Type} {result a : α} {s s' : SecurityStore}
    (h : commit result s = .ok (a, s')) : a = result ∧ s' = s ∧ s.constraints = true := by
  unfold commit at h
  split at h
  · next hvalid =>
    cases h
    exact ⟨rfl, rfl, hvalid⟩
  · cases h

theorem commit_of_constraints {α : Type} (result : α) {s : SecurityStore}
    (h : s.constraints = true) : commit result s = .ok (result, s) :=
  if_pos h

/-- Moving an idle expiry on breaks no constraint. -/
theorem seen_constraints (config : SessionConfig) (s : SecurityStore) (id : String)
    (now : Micros) :
    ({ s with sessions := s.sessions.map fun row =>
        if row.id = id then row.seen config now else row } : SecurityStore).constraints =
      s.constraints := by
  refine constraints_continue ⟨_, ?_, rfl⟩ rfl rfl
  intro row
  split
  · exact continues_seen row now
  · exact Continues.refl row

/-- A committed session was added at the end. -/
theorem createSession_ok {principal : SecurityPrincipal} {session : SessionRequest}
    {id identifier : String} {now : Micros} {s s' : SecurityStore} {record : SecuritySession}
    (h : createSession config principal session id identifier now s = .ok (record, s')) :
    record = newSession config principal session id identifier now ∧
      s' = { s with sessions := s.sessions ++ [record] } ∧ s'.constraints = true := by
  unfold createSession at h
  split at h
  · cases h
  · obtain ⟨rfl, rfl, hvalid⟩ := commit_ok h
    exact ⟨rfl, rfl, hvalid⟩

/-- Provisioning finds the principal or adds it. -/
theorem provisionFromClaims_ok {claims : ProvisionClaims} {providerRoles : List String}
    {allowCreate : Bool} {newId : String} {s s' : SecurityStore} {principal : SecurityPrincipal}
    (h : provisionFromClaims claims providerRoles allowCreate newId s = .ok (principal, s')) :
    principal ∈ s'.principals ∧ s'.sessions = s.sessions ∧
      (∃ more, s'.principals = s.principals ++ more) ∧
      (s.constraints = true → s'.constraints = true) := by
  unfold provisionFromClaims at h
  split at h
  · next found hfound =>
    split at h
    · cases h
    · cases h
      exact ⟨List.mem_of_find?_eq_some hfound, rfl, ⟨[], by simp⟩, fun hs => hs⟩
  · split at h
    · cases h
    · obtain ⟨rfl, rfl, hvalid⟩ := commit_ok h
      exact ⟨by simp, rfl, ⟨_, rfl⟩, fun _ => hvalid⟩

/-- A resolved session was in use: its row, its principal and what was checked. -/
theorem resolve_some {raw correlationId : String} {now : Micros} {s s' : SecurityStore}
    {identity : IdentityContext}
    (h : resolve config raw correlationId now s = .ok (some identity, s')) :
    ∃ record principal, s.sessionRow (config.digest raw) = some (record, principal) ∧
      ¬ Refused record principal now ∧ identity.sessionId = some record.id ∧
      identity.subject = principal.subject ∧
      ∀ role ∈ identity.roles, role ∈ record.providerRoles ∧ role ∈ principal.roleCeiling := by
  unfold resolve at h
  split at h
  · cases h
  · next record principal hrow =>
    split at h
    · cases h
    · next hrefused =>
      dsimp only at h
      split at h
      · obtain ⟨hidentity, -, -⟩ := commit_ok h
        cases hidentity
        refine ⟨record, principal, hrow, hrefused, rfl, rfl, ?_⟩
        intro role hrole
        simpa using (List.mem_filter.mp hrole).2
      · cases h

/-- Resolving touches sessions row by row. -/
theorem resolve_store (config : SessionConfig) (raw correlationId : String) (now : Micros)
    (s : SecurityStore) :
    SessionsContinue s ((resolve config raw correlationId now s).store s) ∧
      ((resolve config raw correlationId now s).store s).principals = s.principals ∧
      ((resolve config raw correlationId now s).store s).bindings = s.bindings := by
  unfold resolve
  split
  · exact ⟨SessionsContinue.of_eq rfl, rfl, rfl⟩
  · next record principal hrow =>
    split
    · exact ⟨revokeWhere_continue s _ now _, rfl, rfl⟩
    · dsimp only
      split
      · unfold commit
        split
        · refine ⟨⟨_, ?_, rfl⟩, rfl, rfl⟩
          intro row
          split
          · exact continues_seen row now
          · exact Continues.refl row
        · exact ⟨SessionsContinue.of_eq rfl, rfl, rfl⟩
      · exact ⟨SessionsContinue.of_eq rfl, rfl, rfl⟩

/-- An update commits the changed rows or changes nothing. -/
theorem updatePrincipal_ok {update : PrincipalUpdate} {uuid : String} {now : Micros}
    {s s' : SecurityStore} {principal : SecurityPrincipal}
    (h : updatePrincipal update uuid now s = .ok (some principal, s')) :
    (∃ row ∈ s.principals, row.id = update.principalId) ∧ s' = update.store uuid now s ∧
      s'.constraints = true := by
  unfold updatePrincipal at h
  split at h
  · cases h
  · next found hfound =>
    split at h
    · cases h
    · obtain ⟨-, rfl, hvalid⟩ := commit_ok h
      refine ⟨⟨found, List.mem_of_find?_eq_some hfound, ?_⟩, rfl, hvalid⟩
      simpa using List.find?_some hfound

/-- What one action does to the store: it touches sessions row by row and may
add principals, or it adds a session, or it updates a principal. -/
theorem storeAfter_cases (config : SessionConfig) (w : SessionWorld) (action : SessionAction) :
    (updated w.store action = none ∧ SessionsContinue w.store (storeAfter config w action) ∧
      ∃ more, (storeAfter config w action).principals = w.store.principals ++ more) ∨
    (∃ request session id identifier now principal,
      action = .create request session id identifier now ∧
      w.held.lookup request = some principal ∧
      createSession config principal session id identifier now w.store =
        .ok (newSession config principal session id identifier now,
          storeAfter config w action)) ∨
    ∃ update uuid now, action = .update update uuid now ∧
      updated w.store action = some (update.principalId, update.roles) ∧
      (∃ row ∈ w.store.principals, row.id = update.principalId) ∧
      storeAfter config w action = update.store uuid now w.store := by
  have hsame : ∀ {s' : SecurityStore}, s' = w.store →
      SessionsContinue w.store s' ∧ ∃ more, s'.principals = w.store.principals ++ more := by
    rintro s' rfl
    exact ⟨SessionsContinue.of_eq rfl, [], by simp⟩
  have hrevoke : ∀ hit now reason, SessionsContinue w.store (w.store.revokeWhere hit now reason) ∧
      ∃ more, (w.store.revokeWhere hit now reason).principals = w.store.principals ++ more :=
    fun hit now reason => ⟨revokeWhere_continue w.store hit now reason, [], by
      simp [SecurityStore.revokeWhere]⟩
  cases action with
  | provision request claims providerRoles allowCreate newId =>
    refine Or.inl ⟨rfl, ?_⟩
    simp only [storeAfter]
    cases hrun : provisionFromClaims claims providerRoles allowCreate newId w.store with
    | error e => exact hsame rfl
    | ok result =>
      obtain ⟨-, hsessions, hprincipals, -⟩ := provisionFromClaims_ok hrun
      exact ⟨SessionsContinue.of_eq hsessions, hprincipals⟩
  | getPrincipal request principalId => exact Or.inl ⟨rfl, hsame rfl⟩
  | create request session id identifier now =>
    simp only [storeAfter, createHeld]
    cases hheld : w.held.lookup request with
    | none => exact Or.inl ⟨rfl, hsame rfl⟩
    | some principal =>
      dsimp only
      cases hrun : createSession config principal session id identifier now w.store with
      | error e => exact Or.inl ⟨rfl, hsame rfl⟩
      | ok result =>
        obtain ⟨record, s'⟩ := result
        obtain ⟨rfl, -, -⟩ := createSession_ok hrun
        exact Or.inr (Or.inl ⟨request, session, id, identifier, now, principal, rfl, hheld, hrun⟩)
  | resolve raw correlationId now =>
    obtain ⟨hsessions, hprincipals, -⟩ := resolve_store config raw correlationId now
      w.store
    exact Or.inl ⟨rfl, hsessions, [], by rw [List.append_nil]; exact hprincipals⟩
  | revoke sessionId reason now => exact Or.inl ⟨rfl, hrevoke _ _ _⟩
  | revokeSubject subject reason now => exact Or.inl ⟨rfl, hrevoke _ _ _⟩
  | revokePrincipalSessions principalId reason now => exact Or.inl ⟨rfl, hrevoke _ _ _⟩
  | update update uuid now =>
    simp only [storeAfter, updated]
    cases hrun : updatePrincipal update uuid now w.store with
    | error e => exact Or.inl ⟨rfl, hsame rfl⟩
    | ok result =>
      obtain ⟨found, s'⟩ := result
      cases found with
      | some principal =>
        obtain ⟨hrow, hstore, -⟩ := updatePrincipal_ok hrun
        exact Or.inr (Or.inr ⟨update, uuid, now, rfl, rfl, hrow, hstore⟩)
      | none =>
        refine Or.inl ⟨rfl, hsame ?_⟩
        unfold updatePrincipal at hrun
        split at hrun
        · cases hrun
          rfl
        · split at hrun
          · cases hrun
          · obtain ⟨hfound, -, -⟩ := commit_ok hrun
            cases hfound

theorem revokeWhere_constraints (s : SecurityStore) (hit : SecuritySession → Bool)
    (now : Micros) (reason : String) :
    (s.revokeWhere hit now reason).constraints = s.constraints :=
  constraints_continue (revokeWhere_continue s hit now reason) rfl rfl

theorem storeAfter_constraints (hs : w.store.constraints = true) :
    (storeAfter config w action).constraints = true := by
  cases action with
  | provision request claims providerRoles allowCreate newId =>
    simp only [storeAfter]
    cases hrun : provisionFromClaims claims providerRoles allowCreate newId w.store with
    | error e => exact hs
    | ok result =>
      obtain ⟨-, -, -, hvalid⟩ := provisionFromClaims_ok hrun
      exact hvalid hs
  | getPrincipal request principalId => exact hs
  | create request session id identifier now =>
    simp only [storeAfter, createHeld]
    split
    · exact hs
    · next principal hheld =>
      cases hrun : createSession config principal session id identifier now w.store with
      | error e => exact hs
      | ok result => exact (createSession_ok hrun).2.2
  | resolve raw correlationId now =>
    obtain ⟨hsessions, hprincipals, hbindings⟩ :=
      resolve_store config raw correlationId now w.store
    exact (constraints_continue hsessions hprincipals hbindings).trans hs
  | revoke sessionId reason now => exact (revokeWhere_constraints _ _ _ _).trans hs
  | revokeSubject subject reason now => exact (revokeWhere_constraints _ _ _ _).trans hs
  | revokePrincipalSessions principalId reason now =>
    exact (revokeWhere_constraints _ _ _ _).trans hs
  | update update uuid now =>
    simp only [storeAfter]
    cases hrun : updatePrincipal update uuid now w.store with
    | error e => exact hs
    | ok result =>
      obtain ⟨found, s'⟩ := result
      unfold updatePrincipal at hrun
      split at hrun
      · cases hrun
        exact hs
      · split at hrun
        · cases hrun
        · obtain ⟨-, rfl, hvalid⟩ := commit_ok hrun
          exact hvalid

end Effects

section Provenance

variable (config : SessionConfig) (start : SessionWorld)

/-- The store after a history. -/
def storeOf (past : List SessionAction) : SecurityStore :=
  (run (sessionStep config) start past).store

/-- No update of the principal commits. -/
def Unchanged (principalId : String) (past : List SessionAction) (action : SessionAction) : Prop :=
  ∀ roles, updated (storeOf config start past) action ≠ some (principalId, roles)

/-- The principal object a request holds was read by it, and the principal was
not updated since. -/
def ReadFresh (request : Nat) (principal : SecurityPrincipal) (past : List SessionAction) : Prop :=
  Since (fun past action => handed (storeOf config start past) action = some (request, principal))
    (fun past action => (∀ other, handed (storeOf config start past) action ≠ some (request, other)) ∧
      Unchanged config start principal.id past action) past

/-- The session was created under the identifier, from a principal object that
a request had read, and the principal was not updated since that reading. -/
def OpenedFresh (identifier : String) (row : SecuritySession) (past : List SessionAction) : Prop :=
  Since
    (fun past action => ∃ request session now principal record s',
      action = .create request session row.id identifier now ∧
      (run (sessionStep config) start past).held.lookup request = some principal ∧
      createSession config principal session row.id identifier now (storeOf config start past) =
        .ok (record, s') ∧
      record.principalId = row.principalId ∧ record.providerRoles = row.providerRoles ∧
      ReadFresh config start request principal past)
    (Unchanged config start row.principalId) past

/-- The roles of the last committed update of the principal. -/
def LastUpdate (principalId : String) (roles : List String) (past : List SessionAction) : Prop :=
  Since (fun past action => updated (storeOf config start past) action = some (principalId, roles))
    (Unchanged config start principalId) past

/-- The principal has a version other than this one. -/
def Superseded (s : SecurityStore) (principalId version : String) : Prop :=
  ∃ row ∈ s.principals, row.id = principalId ∧ row.mappingVersion ≠ version

/-- No session and no principal object was there before the run. -/
structure SessionWorld.Initial (w : SessionWorld) : Prop where
  constraints : w.store.constraints = true
  sessions : w.store.sessions = []
  held : w.held = []

end Provenance

section Invariant

variable {config : SessionConfig} {start w : SessionWorld} {action : SessionAction}
  {past : List SessionAction}

theorem updated_eq_some {s : SecurityStore} {principalId : String} {roles : List String}
    (h : updated s action = some (principalId, roles)) :
    ∃ update uuid now, action = .update update uuid now ∧ update.principalId = principalId ∧
      update.roles = roles := by
  unfold updated at h
  split at h
  · next update uuid now =>
    split at h
    · cases h
      exact ⟨update, uuid, now, rfl, rfl, rfl⟩
    · cases h
  · cases h

/-- A version that some request or session still carries stays superseded. -/
theorem Superseded.step {principalId version : String}
    (h : Superseded w.store principalId version)
    (hfresh : ∀ update uuid now, action = .update update uuid now → version ≠ "admin-" ++ uuid) :
    Superseded (storeAfter config w action) principalId version := by
  obtain ⟨row, hrow, hid, hversion⟩ := h
  rcases storeAfter_cases config w action with ⟨-, -, more, hmore⟩ | hcreated | hupdated
  · exact ⟨row, by rw [hmore]; exact List.mem_append_left more hrow, hid, hversion⟩
  · obtain ⟨request, session, id, identifier, now, principal, -, -, hrun⟩ := hcreated
    obtain ⟨-, hstore, -⟩ := createSession_ok hrun
    exact ⟨row, by rw [hstore]; exact hrow, hid, hversion⟩
  · obtain ⟨update, uuid, now, haction, -, -, hstore⟩ := hupdated
    refine ⟨if row.id = update.principalId then update.apply uuid row else row, ?_, ?_, ?_⟩
    · rw [hstore]
      exact List.mem_map_of_mem hrow
    · split <;> exact hid
    · split
      · exact fun heq => hfresh update uuid now haction heq.symm
      · exact hversion

/-- An update that commits supersedes the versions others carry. -/
theorem superseded_of_updated {principalId version : String} {roles : List String}
    (h : updated w.store action = some (principalId, roles))
    (hfresh : ∀ update uuid now, action = .update update uuid now → version ≠ "admin-" ++ uuid) :
    Superseded (storeAfter config w action) principalId version := by
  rcases storeAfter_cases config w action with ⟨hnone, -, -⟩ | hcreated | hupdated
  · rw [hnone] at h
    cases h
  · obtain ⟨request, session, id, identifier, now, principal, rfl, -, -⟩ := hcreated
    cases h
  · obtain ⟨update, uuid, now, haction, hsome, ⟨row, hrow, hid⟩, hstore⟩ := hupdated
    rw [hsome] at h
    cases h
    refine ⟨update.apply uuid row, ?_, hid, fun heq => hfresh update uuid now haction heq.symm⟩
    rw [hstore]
    refine List.mem_map.mpr ⟨row, hrow, ?_⟩
    rw [if_pos hid]

/-- A session after the action was there before, or the action created it. -/
theorem mem_sessions_after {row' : SecuritySession}
    (h : row' ∈ (storeAfter config w action).sessions) :
    (∃ row ∈ w.store.sessions, Continues row row') ∨
    ∃ request session identifier now principal,
      action = .create request session row'.id identifier now ∧
      w.held.lookup request = some principal ∧
      createSession config principal session row'.id identifier now w.store =
        .ok (row', storeAfter config w action) := by
  have hcontinue : SessionsContinue w.store (storeAfter config w action) →
      ∃ row ∈ w.store.sessions, Continues row row' := by
    rintro ⟨f, hf, hsessions⟩
    rw [hsessions] at h
    obtain ⟨row, hrow, rfl⟩ := List.mem_map.mp h
    exact ⟨row, hrow, hf row⟩
  rcases storeAfter_cases config w action with ⟨-, hsessions, -⟩ | hcreated | hupdated
  · exact Or.inl (hcontinue hsessions)
  · obtain ⟨request, session, id, identifier, now, principal, haction, hheld, hrun⟩ := hcreated
    obtain ⟨-, hstore, -⟩ := createSession_ok hrun
    rw [hstore] at h
    rcases List.mem_append.mp h with hold | hnew
    · exact Or.inl ⟨row', hold, Continues.refl row'⟩
    · obtain rfl := List.mem_singleton.mp hnew
      exact Or.inr ⟨request, session, identifier, now, principal, haction, hheld, hrun⟩
  · obtain ⟨update, uuid, now, -, -, -, hstore⟩ := hupdated
    refine Or.inl (hcontinue ?_)
    rw [hstore]
    exact revokeWhere_continue _ _ now _

/-- What is known of the world a history leads to. -/
structure Traced (config : SessionConfig) (start : SessionWorld) (past : List SessionAction)
    (w : SessionWorld) : Prop where
  constraints : w.store.constraints = true
  held : ∀ request principal, w.held.lookup request = some principal →
    Superseded w.store principal.id principal.mappingVersion ∨
      ReadFresh config start request principal past
  sessions : ∀ row ∈ w.store.sessions,
    Superseded w.store row.principalId row.mappingVersion ∨
      ∃ identifier, config.digest identifier = row.identifierDigest ∧
        OpenedFresh config start identifier row past

theorem SessionWorld.Initial.traced (h : start.Initial) : Traced config start [] start where
  constraints := h.constraints
  held request principal hheld := by simp [h.held] at hheld
  sessions row hrow := by simp [h.sessions] at hrow

/-- The versions in use differ from the one an update draws. -/
theorem FreshVersion.held (h : FreshVersion w action) {request : Nat}
    {principal : SecurityPrincipal} (hheld : w.held.lookup request = some principal) :
    ∀ update uuid now, action = .update update uuid now →
      principal.mappingVersion ≠ "admin-" ++ uuid := by
  rintro update uuid now rfl
  obtain ⟨before, after, hsplit, -⟩ := List.lookup_eq_some_iff.mp hheld
  exact h.1 (request, principal) (by rw [hsplit]; simp)

theorem FreshVersion.session (h : FreshVersion w action) {row : SecuritySession}
    (hrow : row ∈ w.store.sessions) :
    ∀ update uuid now, action = .update update uuid now →
      row.mappingVersion ≠ "admin-" ++ uuid := by
  rintro update uuid now rfl
  exact h.2 row hrow

theorem Traced.held_step (h : Traced config start past (run (sessionStep config) start past))
    (hfresh : FreshVersion (run (sessionStep config) start past) action) {request : Nat}
    {principal : SecurityPrincipal}
    (hheld : (run (sessionStep config) start past).held.lookup request = some principal) :
    Superseded (storeAfter config (run (sessionStep config) start past) action)
        principal.id principal.mappingVersion ∨
      (ReadFresh config start request principal past ∧
        Unchanged config start principal.id past action) := by
  rcases h.held request principal hheld with hsuper | hread
  · exact Or.inl (hsuper.step (hfresh.held hheld))
  · by_cases hchanged : Unchanged config start principal.id past action
    · exact Or.inr ⟨hread, hchanged⟩
    · simp only [Unchanged, not_forall, not_not] at hchanged
      obtain ⟨roles, hroles⟩ := hchanged
      exact Or.inl (superseded_of_updated hroles (hfresh.held hheld))

/-- The provenance of a session is that of the row it continues. -/
theorem OpenedFresh.continues {identifier : String} {row row' : SecuritySession}
    (h : OpenedFresh config start identifier row past) (hrow : Continues row row') :
    OpenedFresh config start identifier row' past := by
  unfold OpenedFresh at h ⊢
  rw [hrow.id, hrow.principalId, hrow.providerRoles]
  exact h

/-- The object an action hands over is the one its request holds afterwards. -/
theorem held_after {request : Nat} {principal : SecurityPrincipal}
    (h : (sessionStep config w action).held.lookup request = some principal) :
    handed w.store action = some (request, principal) ∨
      (w.held.lookup request = some principal ∧
        ∀ other, handed w.store action ≠ some (request, other)) := by
  change List.lookup request ((handed w.store action).toList ++ w.held) = some principal at h
  cases hhanded : handed w.store action with
  | none =>
    rw [hhanded] at h
    exact Or.inr ⟨h, by simp⟩
  | some entry =>
    obtain ⟨reader, object⟩ := entry
    rw [hhanded, Option.toList_some, List.singleton_append, List.lookup_cons] at h
    split at h
    · next heq =>
      obtain rfl : request = reader := by simpa using heq
      exact Or.inl (by rw [Option.some.inj h])
    · next hne =>
      refine Or.inr ⟨h, ?_⟩
      rintro other hother
      cases hother
      simp at hne

/-- One action of a run keeps what is known. -/
theorem Traced.step (h : Traced config start past (run (sessionStep config) start past))
    (hfresh : FreshVersion (run (sessionStep config) start past) action) :
    Traced config start (past ++ [action])
      (sessionStep config (run (sessionStep config) start past) action) where
  constraints := storeAfter_constraints h.constraints
  held request principal hheld := by
    rcases held_after hheld with hhanded | ⟨hbefore, hkept⟩
    · exact Or.inr (Since.mark hhanded)
    · rcases h.held_step hfresh hbefore with hsuper | ⟨hread, hunchanged⟩
      · exact Or.inl hsuper
      · exact Or.inr (hread.carry ⟨hkept, hunchanged⟩)
  sessions row' hrow' := by
    rcases mem_sessions_after hrow' with ⟨row, hrow, hcontinues⟩ | hcreated
    · rw [hcontinues.principalId, hcontinues.mappingVersion, hcontinues.identifierDigest]
      rcases h.sessions row hrow with hsuper | ⟨identifier, hdigest, hopened⟩
      · exact Or.inl (hsuper.step (hfresh.session hrow))
      · by_cases hunchanged : Unchanged config start row.principalId past action
        · exact Or.inr ⟨identifier, hdigest,
            OpenedFresh.continues (hopened.carry hunchanged) hcontinues⟩
        · simp only [Unchanged, not_forall, not_not] at hunchanged
          obtain ⟨roles, hroles⟩ := hunchanged
          exact Or.inl (superseded_of_updated hroles (hfresh.session hrow))
    · obtain ⟨request, session, identifier, now, principal, haction, hheld, hrun⟩ := hcreated
      obtain ⟨hnew, -, -⟩ := createSession_ok hrun
      have hprincipal : row'.principalId = principal.id := by rw [hnew]; rfl
      have hversion : row'.mappingVersion = principal.mappingVersion := by rw [hnew]; rfl
      have hdigest : config.digest identifier = row'.identifierDigest := by rw [hnew]; rfl
      rcases h.held_step hfresh hheld with hsuper | ⟨hread, -⟩
      · rw [hprincipal, hversion]
        exact Or.inl hsuper
      · exact Or.inr ⟨identifier, hdigest, Since.mark ⟨request, session, now, principal, row', _,
          haction, hheld, hrun, rfl, rfl, hread⟩⟩

theorem traced (hstart : start.Initial)
    (hrun : Admissible (sessionStep config) FreshVersion start past) :
    Traced config start past (run (sessionStep config) start past) :=
  Lib.run_history hstart.traced (fun _ _ _ hfresh h => h.step hfresh) hrun

end Invariant

section Uniqueness

variable {s : SecurityStore}

/-- A search finds the only row that matches. -/
theorem find?_eq_of_unique {ρ : Type} {t : Table ρ} {p : ρ → Bool} {row : ρ} (hrow : row ∈ t)
    (hp : p row = true) (honly : ∀ other ∈ t, p other = true → other = row) :
    t.find? p = some row := by
  obtain ⟨found, hfound⟩ := Option.isSome_iff_exists.mp (List.find?_isSome.mpr ⟨row, hrow, hp⟩)
  rw [hfound, honly found (List.mem_of_find?_eq_some hfound) (List.find?_some hfound)]

/-- Two rows of a table under one value of a unique column are the same row. -/
theorem eq_of_uniqueOn {ρ κ : Type} [DecidableEq κ] {t : Table ρ} {key : ρ → κ} {row row' : ρ}
    (h : t.uniqueOn (fun row => some (key row)) = true) (hrow : row ∈ t) (hrow' : row' ∈ t)
    (heq : key row = key row') : row = row' := by
  obtain ⟨i, hi⟩ := List.mem_iff_getElem?.mp hrow
  obtain ⟨j, hj⟩ := List.mem_iff_getElem?.mp hrow'
  obtain rfl := Table.uniqueOn_position h hi hj rfl (by rw [heq])
  rw [hi] at hj
  exact Option.some.inj hj

theorem eq_of_digest (hs : s.constraints = true) {row row' : SecuritySession}
    (hrow : row ∈ s.sessions) (hrow' : row' ∈ s.sessions)
    (heq : row.identifierDigest = row'.identifierDigest) : row = row' := by
  simp only [SecurityStore.constraints, Bool.and_eq_true] at hs
  exact eq_of_uniqueOn hs.1.1.1.1.1.2 hrow hrow' heq

theorem eq_of_principalId (hs : s.constraints = true) {row row' : SecurityPrincipal}
    (hrow : row ∈ s.principals) (hrow' : row' ∈ s.principals) (heq : row.id = row'.id) :
    row = row' := by
  simp only [SecurityStore.constraints, Bool.and_eq_true] at hs
  exact eq_of_uniqueOn hs.1.1.1.1.1.1.1.1.1 hrow hrow' heq

/-- The join finds exactly the session of the digest and its principal. -/
theorem sessionRow_eq_some (hs : s.constraints = true) {digest : String}
    {record : SecuritySession} {principal : SecurityPrincipal} :
    s.sessionRow digest = some (record, principal) ↔
      record ∈ s.sessions ∧ record.identifierDigest = digest ∧
        principal ∈ s.principals ∧ principal.id = record.principalId := by
  unfold SecurityStore.sessionRow SecurityStore.principal?
  constructor
  · intro h
    obtain ⟨found, hfound, hrest⟩ := Option.bind_eq_some_iff.mp h
    obtain ⟨owner, howner, hpair⟩ := Option.bind_eq_some_iff.mp hrest
    cases hpair
    refine ⟨List.mem_of_find?_eq_some hfound, ?_, List.mem_of_find?_eq_some howner, ?_⟩
    · simpa using List.find?_some hfound
    · simpa using List.find?_some howner
  · rintro ⟨hrecord, hdigest, hprincipal, hid⟩
    have hfound : s.sessions.find? (·.identifierDigest = digest) = some record := by
      refine find?_eq_of_unique hrecord (by simpa using hdigest) ?_
      intro other hother hsame
      exact eq_of_digest hs hother hrecord ((of_decide_eq_true hsame).trans hdigest.symm)
    have howner : s.principals.find? (·.id = record.principalId) = some principal := by
      refine find?_eq_of_unique hprincipal (by simpa using hid) ?_
      intro other hother hsame
      exact eq_of_principalId hs hother hprincipal ((of_decide_eq_true hsame).trans hid.symm)
    rw [hfound]
    simp only [Option.bind_eq_bind, Option.bind_some, howner]
    rfl

theorem exists_principal (hs : s.constraints = true) {row : SecuritySession}
    (hrow : row ∈ s.sessions) : ∃ principal ∈ s.principals, principal.id = row.principalId := by
  simp only [SecurityStore.constraints, Bool.and_eq_true] at hs
  have hkey := List.all_eq_true.mp hs.1.1.1.2 row hrow
  simpa using hkey

end Uniqueness

section Refusals

variable {config : SessionConfig} {w : SessionWorld} {action : SessionAction} {s : SecurityStore}

/-- The session can never be used again: it is revoked, or its principal gives
no well-formed identity. -/
def Dead (s : SecurityStore) (digest : String) : Prop :=
  ∃ row ∈ s.sessions, row.identifierDigest = digest ∧
    (row.revokedAt ≠ none ∨ ∃ principal ∈ s.principals, principal.id = row.principalId ∧
      ¬ (IsPresent principal.subject ∧ IsPresent principal.issuer))

/-- No action loses a session, and none takes its revocation back. -/
theorem mem_sessions_before (config : SessionConfig) (action : SessionAction)
    {row : SecuritySession} (hrow : row ∈ w.store.sessions) :
    ∃ row' ∈ (storeAfter config w action).sessions, Continues row row' := by
  have hcontinue : SessionsContinue w.store (storeAfter config w action) →
      ∃ row' ∈ (storeAfter config w action).sessions, Continues row row' := by
    rintro ⟨f, hf, hsessions⟩
    exact ⟨f row, by rw [hsessions]; exact List.mem_map_of_mem hrow, hf row⟩
  rcases storeAfter_cases config w action with ⟨-, hsessions, -⟩ | hcreated | hupdated
  · exact hcontinue hsessions
  · obtain ⟨request, session, id, identifier, now, principal, -, -, hrun⟩ := hcreated
    obtain ⟨-, hstore, -⟩ := createSession_ok hrun
    refine ⟨row, ?_, Continues.refl row⟩
    rw [hstore]
    exact List.mem_append_left _ hrow
  · obtain ⟨update, uuid, now, -, -, -, hstore⟩ := hupdated
    refine hcontinue ?_
    rw [hstore]
    exact revokeWhere_continue _ _ now _

/-- Who a principal is never changes. -/
theorem mem_principals_before (config : SessionConfig) (action : SessionAction)
    {row : SecurityPrincipal} (hrow : row ∈ w.store.principals) :
    ∃ row' ∈ (storeAfter config w action).principals, row'.id = row.id ∧
      row'.subject = row.subject ∧ row'.issuer = row.issuer ∧
      ((∀ roles, updated w.store action ≠ some (row.id, roles)) → row' = row) := by
  rcases storeAfter_cases config w action with ⟨-, -, more, hmore⟩ | hcreated | hupdated
  · exact ⟨row, by rw [hmore]; exact List.mem_append_left more hrow, rfl, rfl, rfl, fun _ => rfl⟩
  · obtain ⟨request, session, id, identifier, now, principal, -, -, hrun⟩ := hcreated
    obtain ⟨-, hstore, -⟩ := createSession_ok hrun
    exact ⟨row, by rw [hstore]; exact hrow, rfl, rfl, rfl, fun _ => rfl⟩
  · obtain ⟨update, uuid, now, -, hsome, -, hstore⟩ := hupdated
    refine ⟨if row.id = update.principalId then update.apply uuid row else row, ?_, ?_, ?_, ?_, ?_⟩
    · rw [hstore]
      exact List.mem_map_of_mem hrow
    · split <;> rfl
    · split <;> rfl
    · split <;> rfl
    · intro hunchanged
      rw [if_neg]
      intro hid
      exact hunchanged update.roles (by rw [hsome, hid])

theorem Dead.step {digest : String} (h : Dead w.store digest) :
    Dead (storeAfter config w action) digest := by
  obtain ⟨row, hrow, hdigest, hdead⟩ := h
  obtain ⟨row', hrow', hcontinues⟩ :=
    mem_sessions_before config action hrow
  refine ⟨row', hrow', hcontinues.identifierDigest.trans hdigest, ?_⟩
  rcases hdead with hrevoked | ⟨principal, hprincipal, hid, hblank⟩
  · exact Or.inl (hcontinues.revoked hrevoked)
  · obtain ⟨principal', hprincipal', hid', hsubject, hissuer, -⟩ :=
      mem_principals_before config action hprincipal
    refine Or.inr ⟨principal', hprincipal', ?_, by rw [hsubject, hissuer]; exact hblank⟩
    rw [hid', hid, hcontinues.principalId]

/-- A dead session yields no identity. -/
theorem Dead.not_resolved {raw correlationId : String} {now : Micros} {s' : SecurityStore}
    {identity : IdentityContext} (hs : s.constraints = true) (h : Dead s (config.digest raw)) :
    resolve config raw correlationId now s ≠ .ok (some identity, s') := by
  obtain ⟨row, hrow, hdigest, hdead⟩ := h
  obtain ⟨owner, howner, hid⟩ := exists_principal hs hrow
  have hfound := (sessionRow_eq_some hs).mpr ⟨hrow, hdigest, howner, hid⟩
  unfold resolve
  rw [hfound]
  dsimp only
  rcases hdead with hrevoked | ⟨principal, hprincipal, hsame, hblank⟩
  · have hold : Refused row owner now := Or.inl hrevoked
    rw [if_pos hold]
    simp
  · obtain rfl := eq_of_principalId hs hprincipal howner (hsame.trans hid.symm)
    split
    · simp
    · rw [if_neg]
      · simp
      · rintro ⟨hsubject, hissuer, -⟩
        exact hblank ⟨hsubject, hissuer⟩

/-- A session that is refused is dead afterwards. -/
theorem dead_of_refused {raw correlationId : String} {now : Micros} (hs : s.constraints = true)
    {row : SecuritySession} (hrow : row ∈ s.sessions)
    (hdigest : row.identifierDigest = config.digest raw)
    (hrefused : ∀ identity s', resolve config raw correlationId now s ≠ .ok (some identity, s')) :
    Dead ((resolve config raw correlationId now s).store s) (config.digest raw) := by
  obtain ⟨owner, howner, hid⟩ := exists_principal hs hrow
  have hfound := (sessionRow_eq_some hs).mpr ⟨hrow, hdigest, howner, hid⟩
  unfold resolve at hrefused ⊢
  rw [hfound] at hrefused ⊢
  dsimp only at hrefused ⊢
  by_cases hold : Refused row owner now
  · rw [if_pos hold]
    refine ⟨row.revoked now "expired_or_invalidated", List.mem_map.mpr ⟨row, hrow, by simp⟩, ?_,
      Or.inl (revoked_isRevoked _ _ _)⟩
    rw [(continues_revoked row now _).identifierDigest, hdigest]
  · rw [if_neg hold] at hrefused ⊢
    by_cases hformed : (sessionIdentity config (row.seen config now) owner
        ((s.grantedRoles owner.id now).filter fun role =>
          role ∈ row.providerRoles ∧ role ∈ owner.roleCeiling) correlationId).WellFormed
    · rw [if_pos hformed] at hrefused
      exact absurd (commit_of_constraints _ ((seen_constraints config s row.id now).trans hs))
        (hrefused _ _)
    · rw [if_neg hformed]
      refine ⟨row, hrow, hdigest, Or.inr ⟨owner, howner, hid, ?_⟩⟩
      rintro ⟨hsubject, hissuer⟩
      exact hformed ⟨hsubject, hissuer, by simp [sessionIdentity]⟩

end Refusals

section Soundness

variable {config : SessionConfig} {start : SessionWorld} {actions : List SessionAction}

/-- After its last update a principal's ceiling is the set of roles it gave. -/
theorem ceiling_of_lastUpdate {principalId : String} {roles : List String}
    (h : LastUpdate config start principalId roles actions) :
    ∃ row ∈ (storeOf config start actions).principals, row.id = principalId ∧
      row.roleCeiling = sortedSet roles := by
  revert h
  have hall : Admissible (sessionStep config) (fun _ _ => True) start actions :=
    Lib.admissible_of_forall (fun _ _ => trivial) start actions
  refine Lib.run_history
    (P := fun past (w : SessionWorld) => LastUpdate config start principalId roles past →
      ∃ row ∈ w.store.principals, row.id = principalId ∧ row.roleCeiling = sortedSet roles)
    (fun h => absurd h Lib.not_since_nil) ?_ hall
  intro past action _ _ ih hlast
  rcases hlast.cases_last with hmark | ⟨hsince, hunchanged⟩
  · rcases storeAfter_cases config (run (sessionStep config) start past) action with
      ⟨hnone, -, -⟩ | hcreated | hupdated
    · rw [storeOf, hnone] at hmark
      cases hmark
    · obtain ⟨request, session, id, identifier, now, principal, rfl, -, -⟩ := hcreated
      cases hmark
    · obtain ⟨update, uuid, now, -, hsome, ⟨row, hrow, hid⟩, hstore⟩ := hupdated
      rw [storeOf, hsome] at hmark
      cases hmark
      refine ⟨update.apply uuid row, ?_, hid, rfl⟩
      change update.apply uuid row ∈ (storeAfter config _ action).principals
      rw [hstore]
      exact List.mem_map.mpr ⟨row, hrow, by rw [if_pos hid]⟩
  · obtain ⟨row, hrow, rfl, hceiling⟩ := ih hsince
    obtain ⟨row', hrow', -, -, -, hsame⟩ :=
      mem_principals_before config action hrow
    obtain rfl := hsame hunchanged
    exact ⟨row', hrow', rfl, hceiling⟩

/-- What a resolved identifier says about its session and its history. -/
structure ResolvedSoundly (config : SessionConfig) (start : SessionWorld)
    (actions : List SessionAction) (raw : String) (now : Micros) (identity : IdentityContext)
    (record : SecuritySession) (principal : SecurityPrincipal) : Prop where
  session : record ∈ (storeOf config start actions).sessions
  named : identity.sessionId = some record.id
  owner : principal ∈ (storeOf config start actions).principals
  owned : principal.id = record.principalId
  subject : identity.subject = principal.subject
  notRevoked : record.revokedAt = none
  notDisabled : principal.disabled = false
  notIdle : now < record.idleExpiresAt
  notExpired : now < record.absoluteExpiresAt
  /-- Created under this identifier, from a principal object since whose reading
  no update of the principal committed. -/
  opened : OpenedFresh config start raw record actions
  provided : ∀ role ∈ identity.roles, role ∈ record.providerRoles
  granted : ∀ roles, LastUpdate config start principal.id roles actions →
    ∀ role ∈ identity.roles, role ∈ roles
  /-- Whenever it was resolved before, an identity was returned. -/
  neverRefused : ∀ before correlationId now' after,
    actions = before ++ .resolve raw correlationId now' :: after →
    (∃ row ∈ (storeOf config start before).sessions,
      row.identifierDigest = config.digest raw) →
    ∃ identity' s', resolve config raw correlationId now' (storeOf config start before) =
      .ok (some identity', s')

/-- In every run a session identifier yields an identity only for a session
that is not revoked or expired, of a principal that is enabled and was not
updated since the login read it, with roles that the last update and the
provider both gave, and only if it was never refused before. -/
theorem resolved_session_sound {raw correlationId : String} {now : Micros}
    {identity : IdentityContext} {s' : SecurityStore} (hstart : start.Initial)
    (hinjective : Function.Injective config.digest)
    (hrun : Admissible (sessionStep config) FreshVersion start actions)
    (hresolve : resolve config raw correlationId now (storeOf config start actions) =
      .ok (some identity, s')) :
    ∃ record principal, ResolvedSoundly config start actions raw now identity record principal := by
  have htraced := traced hstart hrun
  obtain ⟨record, principal, hfound, hrefused, hnamed, hsubject, hroles⟩ := resolve_some hresolve
  obtain ⟨hrecord, hdigest, hprincipal, hid⟩ :=
    (sessionRow_eq_some htraced.constraints).mp hfound
  simp only [Refused, not_or, not_not, not_le, Bool.not_eq_true] at hrefused
  obtain ⟨hrevoked, hdisabled, hidle, hexpired, hversion, -⟩ := hrefused
  refine ⟨record, principal, ?_⟩
  have hopened : OpenedFresh config start raw record actions := by
    rcases htraced.sessions record hrecord with ⟨row, hrow, hsame, hother⟩ |
      ⟨identifier, hidentifier, hopened⟩
    · obtain rfl := eq_of_principalId htraced.constraints hrow hprincipal (hsame.trans hid.symm)
      exact absurd hversion.symm hother
    · obtain rfl := hinjective (hidentifier.trans hdigest)
      exact hopened
  have hgranted : ∀ roles, LastUpdate config start principal.id roles actions →
      ∀ role ∈ identity.roles, role ∈ roles := by
    intro roles hlast role hrole
    obtain ⟨row, hrow, hsame, hceiling⟩ := ceiling_of_lastUpdate hlast
    obtain rfl := eq_of_principalId htraced.constraints hrow hprincipal hsame
    have hmem := (hroles role hrole).2
    rw [hceiling] at hmem
    exact mem_sortedSet.mp hmem
  refine ⟨hrecord, hnamed, hprincipal, hid, hsubject, hrevoked, hdisabled, hidle, hexpired, hopened,
    fun role hrole => (hroles role hrole).1, hgranted, ?_⟩
  rintro before correlationId' now' after rfl ⟨row, hrow, hrowDigest⟩
  obtain ⟨hbefore, -⟩ := Lib.admissible_append.mp hrun
  by_contra hnone
  simp only [not_exists] at hnone
  have hdead := dead_of_refused (traced hstart hbefore).constraints hrow hrowDigest hnone
  have hlater : Dead (storeOf config start (before ++ .resolve raw correlationId' now' :: after))
      (config.digest raw) := by
    unfold storeOf
    rw [Lib.run_append, Lib.run_cons]
    obtain ⟨-, -, hafter⟩ := Lib.admissible_append.mp hrun
    exact Lib.run_keeps (I := fun w : SessionWorld => Dead w.store (config.digest raw))
      (fun _ _ _ h => h.step) hafter hdead
  exact hlater.not_resolved htraced.constraints hresolve

end Soundness

section Login

/-- A deployment whose keyed hash keeps the text apart from the key. -/
def loginConfig : SessionConfig where
  settings := { hmacKey := "0123456789abcdef0123456789abcdef" }
  hmac key text := key ++ ":" ++ text

def loginPrincipal : SecurityPrincipal where
  id := "p-1"
  issuer := "https://id.example"
  subject := "ada"
  actorLabel := "Ada"
  roleCeiling := ["viewer"]
  mappingVersion := "oidc.v1"
  policyVersion := policyVersion

def loginStart : SessionWorld where
  store := { principals := [loginPrincipal] }

/-- An administrator makes the principal an analyst, who then logs in. -/
def loginActions : List SessionAction :=
  [.update
      { principalId := "p-1", disabled := false, roles := ["analyst", "viewer"]
        expectedMappingVersion := "oidc.v1", actorSubject := "root", reason := "hired" }
      "1f" 0,
    .provision 1 { issuer := "https://id.example", subject := "ada" } ["analyst"] false "p-2",
    .create 1
      { authenticationMethod := "oidc", assurance := .emailOtp, providerRoles := ["analyst"]
        authenticatedAt := 0 }
      "s-1" "secret" 0,
    .resolve "secret" "c-1" (seconds 60)]

theorem loginConfig_digest_injective : Function.Injective loginConfig.digest := by
  intro first second h
  apply String.toList_injective
  have hlists := congrArg String.toList h
  simpa [SessionConfig.digest, loginConfig, String.toList_append] using hlists

theorem login_start_initial : loginStart.Initial :=
  ⟨by decide +kernel, rfl, rfl⟩

/-- The analyst's session yields an identity a minute later. -/
theorem login_resolved_soundly : ∃ identity record principal,
    ResolvedSoundly loginConfig loginStart loginActions "secret" (seconds 120) identity record
      principal := by
  have hok : ((resolve loginConfig "secret" "c-2" (seconds 120)
      (storeOf loginConfig loginStart loginActions)).toOption.bind Prod.fst).isSome = true := by
    decide +kernel
  cases hresolve : resolve loginConfig "secret" "c-2" (seconds 120)
      (storeOf loginConfig loginStart loginActions) with
  | error e =>
    rw [hresolve] at hok
    cases hok
  | ok found =>
    rw [hresolve] at hok
    obtain ⟨_ | identity, s'⟩ := found
    · cases hok
    · exact ⟨identity, resolved_session_sound login_start_initial loginConfig_digest_injective
        (by decide +kernel) hresolve⟩

end Login

end GhostRecon.Security
