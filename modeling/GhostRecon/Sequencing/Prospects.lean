import GhostRecon.Sequencing.Operations

/-!
Whom an exported target stands for, and enrollments of CRM prospects. An
enrollment checks the export of the target but takes the contact from the
request when it names one; the import of a prospect always names one, and
finds the target of an earlier import again under the prospect's identifier.
-/

namespace GhostRecon

open Lib (Id Table after query write)
open Std.Do

set_option mvcgen.warning false

/-- A prospect of the CRM, as its client returns it. -/
structure CrmProspect where
  providerRecordId : String
  displayName : String
  email : Option String := none
  title : Option String := none
  companyName : Option String := none
  companyDomain : Option String := none
  deriving DecidableEq, Repr

/-- The two lookups of the CRM client; both may raise. -/
structure CrmDirectory where
  getProspect : String → Except PyError (Option CrmProspect)
  searchProspects : String → Except PyError (List CrmProspect)

structure SequenceCrmProspectImportRequest where
  sequenceId : Id
  providerRecordId : String
  startAt : Option Time := none
  outreachApproved : Bool
  approvalReason : String
  deriving DecidableEq, Repr

section Imports

variable [Casing]

/-- The prospect under an identifier, looked up and else searched for. -/
def CrmDirectory.find (crm : CrmDirectory) (providerRecordId : String) :
    Except PyError (Option CrmProspect) := do
  match ← crm.getProspect providerRecordId with
  | some prospect => return some prospect
  | none =>
    let found ← crm.searchProspects providerRecordId
    return found.find? (·.providerRecordId == providerRecordId)

/-- `company_domain or _domain_from_email(email) or "unknown.local"`, lower-cased. -/
def CrmProspect.domain (prospect : CrmProspect) : String :=
  lower (((prospect.companyDomain.bind nonEmpty).or
    ((domainFromEmail prospect.email).bind nonEmpty)).getD "unknown.local")

def CrmProspect.account (prospect : CrmProspect) : Account where
  crmAccountId := some ("crm-account:" ++ prospect.domain)
  domain := some prospect.domain
  companyName := (prospect.companyName.bind nonEmpty).getD prospect.domain

def CrmProspect.contact (prospect : CrmProspect) (email : String) (accountId : Id) (now : Time) :
    Contact where
  crmContactId := some prospect.providerRecordId
  accountId := some accountId
  fullName := prospect.displayName
  title := prospect.title
  email := some (lower email)
  emailStatus := some "verified"
  doNotContactFlag := false
  lawfulBasis := some "legitimate_interest"
  originType := some "manual"
  originId := some prospect.providerRecordId
  idempotencyKey := some ("crm-import-contact:" ++ prospect.providerRecordId)
  updatedAt := now

omit [Casing] in
def CrmProspect.target (prospect : CrmProspect) (contactId : Id) (now : Time) : CrmTarget where
  targetType := "contact"
  targetId := contactId
  originType := some "manual"
  originId := some prospect.providerRecordId
  status := .exported
  exportStatus := "exported"
  idempotencyKey := "crm-import-target:" ++ prospect.providerRecordId
  updatedAt := now

/-- The first transaction of an import: account, contact and target, each found
or new. -/
def importProspect (rt : Runtime) (prospect : CrmProspect) (email : String) :
    Tx (Id × Id × Id) := sessionScope do
  let accountId ← match ← query (·.accounts.first? (·.domain == some prospect.domain)) with
    | some (accountId, _) => pure accountId
    | none => do
      let accountId ← query (·.accounts.length)
      write fun s => { s with accounts := s.accounts ++ [prospect.account] }
      flush
      pure accountId
  let contactId ← match ← query (·.contacts.first? fun row =>
      row.accountId == some accountId && row.email == some (lower email)) with
    | some (contactId, _) => pure contactId
    | none => do
      let contactId ← query (·.contacts.length)
      write fun s => { s with contacts := s.contacts ++ [prospect.contact email accountId rt.now] }
      flush
      pure contactId
  let targetId ← match ← query (·.crmTargets.first?
      (·.idempotencyKey == "crm-import-target:" ++ prospect.providerRecordId)) with
    | some (targetId, _) => pure targetId
    | none => do
      let targetId ← query (·.crmTargets.length)
      write fun s => { s with crmTargets := s.crmTargets ++ [prospect.target contactId rt.now] }
      flush
      pure targetId
  return (accountId, contactId, targetId)

/-- `import_crm_prospect_to_sequence`. -/
def importCrmProspectToSequence (rt : Runtime) (crm : CrmDirectory)
    (request : SequenceCrmProspectImportRequest) (actor idempotencyKey : String) : Tx Id := do
  if !request.outreachApproved then
    throw (.valueError "separate outreach approval is required")
  match crm.find request.providerRecordId with
  | .error e => throw e
  | .ok none => throw (.valueError "CRM prospect not found")
  | .ok (some prospect) =>
  match prospect.email.bind nonEmpty with
  | none => throw (.valueError "CRM prospect requires an email before sequence assignment")
  | some email =>
  let (accountId, contactId, targetId) ← importProspect rt prospect email
  createSequenceEnrollment rt {
    sequenceId := request.sequenceId
    crmTargetId := targetId
    contactId := some contactId
    accountId := some accountId
    startAt := request.startAt
    outreachApproved := true
    approvalReason := request.approvalReason } actor idempotencyKey

end Imports

/-- The target stands for a person. -/
def CrmTarget.isPerson (target : CrmTarget) : Bool :=
  target.targetType = "contact" ∨ target.targetType = "incident_contact" ∨
    target.targetType = "email_candidate"

/-- The contact a target stands for. -/
def CrmTarget.contact? (target : CrmTarget) (s : Store) : Option Id :=
  if target.targetType = "contact" ∨ target.targetType = "incident_contact" then
    some target.targetId
  else if target.targetType = "email_candidate" then
    (s.emailCandidates[target.targetId]?).bind (·.contactId)
  else none

/-- The enrolled contact is the one the target stands for, if it stands for a
person. -/
def CrmTarget.Authorizes (target : CrmTarget) (s : Store) (contact : Id) : Prop :=
  target.isPerson = true → target.contact? s = some contact

/-- The request names no contact, or the target's own. -/
def SequenceEnrollmentCreateRequest.NamesTarget (request : SequenceEnrollmentCreateRequest)
    (target : CrmTarget) (s : Store) : Prop :=
  target.isPerson = true → request.contactId = none ∨ request.contactId = target.contact? s

/-- The contact found for a target is the requested one, and else the target's. -/
theorem contactForTarget_id {s : Store} {target : CrmTarget} {requested : Option Id}
    {id : Id} {contact : Contact}
    (h : contactForTarget s target requested = .ok (id, contact)) :
    requested = some id ∨ (requested = none ∧ target.contact? s = some id) := by
  unfold contactForTarget at h
  cases requested with
  | some wanted =>
    left
    cases hcontact : s.contacts[wanted]? with
    | none => simp [hcontact] at h
    | some row =>
      simp only [hcontact, Except.ok.injEq, Prod.mk.injEq] at h
      rw [h.1]
  | none =>
    refine Or.inr ⟨rfl, ?_⟩
    unfold CrmTarget.contact?
    by_cases hdirect : target.targetType = "contact" ∨ target.targetType = "incident_contact"
    · simp only [if_pos hdirect] at h ⊢
      cases hcontact : s.contacts[target.targetId]? with
      | none => simp [hcontact] at h
      | some row =>
        simp only [hcontact, Except.ok.injEq, Prod.mk.injEq] at h
        rw [h.1]
    · by_cases hcandidate : target.targetType = "email_candidate"
      · simp only [if_neg hdirect, if_pos hcandidate] at h ⊢
        cases hid : (s.emailCandidates[target.targetId]?).bind (·.contactId) with
        | none => simp [hid] at h
        | some found =>
          cases hcontact : s.contacts[found]? with
          | none => simp [hid, hcontact] at h
          | some row =>
            simp only [hid, hcontact, Except.ok.injEq, Prod.mk.injEq] at h
            rw [h.1]
      · simp [if_neg hdirect, if_neg hcandidate] at h

section Creation

variable [Casing]

/-- What an enrollment adds when it adds anything. -/
theorem createSequenceEnrollment_new (rt : Runtime) (request : SequenceEnrollmentCreateRequest)
    (actor key : String) (w : DbWorld) :
    (after (createSequenceEnrollment rt request actor key) w).store = w.store ∨
      ∃ target row contact, w.store.crmTargets[request.crmTargetId]? = some target ∧
        target.status = .exported ∧ target.exportStatus = "exported" ∧
        contactForTarget w.store target request.contactId = .ok (row.contactId, contact) ∧
        (after (createSequenceEnrollment rt request actor key) w).store =
          insertEnrollment row w.store := by
  unfold createSequenceEnrollment
  split
  · exact Or.inl rfl
  · refine (Lib.sessionScope_keeps (I := fun s : Store => s = w.store ∨
      ∃ target row contact, w.store.crmTargets[request.crmTargetId]? = some target ∧
        target.status = .exported ∧ target.exportStatus = "exported" ∧
        contactForTarget w.store target request.contactId = .ok (row.contactId, contact) ∧
        s = insertEnrollment row w.store) (Or.inl rfl) ?_).1
    mvcgen [flush, Lib.flush, Lib.queryOrRaise]
    all_goals subst_vars
    · exact Or.inl rfl
    · next target htarget _ hexported found hfound _ _ _ _ _ _ _ =>
      push Not at hexported
      exact Or.inr ⟨target, _, found.2, htarget, hexported.1, hexported.2, hfound, rfl⟩

/-- An enrollment that a call creates is for the contact its exported target
stands for exactly when the request names no other contact. -/
theorem enrolled_contact_authorized_iff (rt : Runtime)
    (request : SequenceEnrollmentCreateRequest) (actor key : String) (w : DbWorld) (id : Id)
    (row : SequenceEnrollment) (hnew : w.store.enrollments.length ≤ id)
    (hrow : (after (createSequenceEnrollment rt request actor key) w).store.enrollments[id]? =
      some row) :
    ∃ target, w.store.crmTargets[request.crmTargetId]? = some target ∧
      target.status = .exported ∧ target.exportStatus = "exported" ∧
      (target.Authorizes w.store row.contactId ↔ request.NamesTarget target w.store) := by
  obtain hsame | ⟨target, added, contact, htarget, hstatus, hexport, hcontact, hstore⟩ :=
    createSequenceEnrollment_new rt request actor key w
  · rw [hsame] at hrow
    have hlt := (List.getElem?_eq_some_iff.mp hrow).1
    omega
  · have hadded : row = added := by
      rw [hstore] at hrow
      have hmem : (w.store.enrollments ++ [added])[id]? = some row := hrow
      rw [List.getElem?_append_right hnew, List.getElem?_singleton] at hmem
      split at hmem
      · exact (Option.some.inj hmem).symm
      · cases hmem
    subst hadded
    refine ⟨target, htarget, hstatus, hexport, ?_⟩
    constructor
    · intro hauthorizes hperson
      obtain hwanted | ⟨hnone, -⟩ := contactForTarget_id hcontact
      · exact Or.inr (hwanted.trans (hauthorizes hperson).symm)
      · exact Or.inl hnone
    · intro hnames hperson
      obtain hwanted | ⟨-, hown⟩ := contactForTarget_id hcontact
      · obtain hnone | hown := hnames hperson
        · rw [hwanted] at hnone
          cases hnone
        · exact hown.symm.trans hwanted
      · exact hown

end Creation

/-! The first of two contacts was exported. -/

def exportedPerson (name : String) : Contact where
  fullName := name
  email := some (name ++ "@acme.example")
  emailStatus := some "verified"
  lawfulBasis := some "legitimate_interest"

def exportedWorld : DbWorld where
  store := {
    contacts := [exportedPerson "ada", exportedPerson "bob"]
    crmTargets := [{
      targetType := "contact"
      targetId := 0
      status := .exported
      exportStatus := "exported"
      idempotencyKey := "t0" }]
    sequences := [SequenceCreateRequest.row { name := "intro", steps := [] } 0 none]
    steps := stepRows [{}] 0 1 }
  external := {}

def enrollmentRequest (contactId : Option Id) : SequenceEnrollmentCreateRequest where
  sequenceId := 0
  crmTargetId := 0
  contactId := contactId
  outreachApproved := true
  approvalReason := "approved"

/-- The export of one contact lets the other one be enrolled. -/
theorem other_contact_enrolled :
    ¬ (∀ (rt : Runtime) (request : SequenceEnrollmentCreateRequest) (actor key : String)
        (w : DbWorld) (id : Id) (row : SequenceEnrollment) (target : CrmTarget),
        w.store.enrollments.length ≤ id →
        (after (createSequenceEnrollment rt request actor key) w).store.enrollments[id]? =
          some row →
        w.store.crmTargets[request.crmTargetId]? = some target →
        target.Authorizes w.store row.contactId) := by
  intro hall
  have hauthorizes := hall { now := 0 } (enrollmentRequest (some 1)) "op" "k" exportedWorld 0
    (enrollmentFor { now := 0 } (enrollmentRequest (some 1)) "op" "k" 1 (exportedPerson "bob")
      1 1) _ (by decide) (by decide +kernel) rfl rfl
  revert hauthorizes
  decide

/-- Without a requested contact the exported one is enrolled. -/
theorem exported_contact_enrolled :
    ∃ target, exportedWorld.store.crmTargets[0]? = some target ∧ target.status = .exported ∧
      target.exportStatus = "exported" ∧ target.Authorizes exportedWorld.store 0 := by
  obtain ⟨target, htarget, hstatus, hexport, hiff⟩ :=
    enrolled_contact_authorized_iff { now := 0 } (enrollmentRequest none) "op" "k" exportedWorld 0
      (enrollmentFor { now := 0 } (enrollmentRequest none) "op" "k" 0 (exportedPerson "ada") 1 1)
      (by decide) (by decide +kernel)
  exact ⟨target, htarget, hstatus, hexport, hiff.mpr fun _ => Or.inl rfl⟩

/-- A prospect whose address changed is found under a new contact, while the
target of the first import still stands for the old one. -/
example :
    let prospect (email : String) : CrmProspect :=
      { providerRecordId := "p1", displayName := "Ada", email := some email }
    let crm (email : String) : CrmDirectory :=
      { getProspect := fun _ => .ok (some (prospect email)), searchProspects := fun _ => .ok [] }
    let w : DbWorld := { exportedWorld with store := { exportedWorld.store with
      accounts := [{ domain := some "acme.example", companyName := "Acme" }]
      contacts := [{ exportedPerson "ada" with accountId := some 0 },
        { exportedPerson "bob" with accountId := some 0 }]
      crmTargets := [] } }
    let first := after (importCrmProspectToSequence { now := 0 } (crm "ada@acme.example")
      { sequenceId := 0, providerRecordId := "p1", outreachApproved := true, approvalReason := "" }
      "op" "k1") w
    let second := after (importCrmProspectToSequence { now := 0 } (crm "bob@acme.example")
      { sequenceId := 0, providerRecordId := "p1", outreachApproved := true, approvalReason := "" }
      "op" "k2") first
    second.store.enrollments.map (fun row => (row.crmTargetId, row.contactId)) =
        [(0, 0), (0, 1)] ∧ second.store.crmTargets.map (·.targetId) = [0] := by
  decide +kernel

end GhostRecon
