import GhostRecon.Governance.Suppressions

/-!
Email candidates of a contact: generating and storing them, and recording what
the verifier says. A verified candidate rewrites the address of its contact.
-/

namespace GhostRecon

open Lib (Id Table query queryOrRaise write)

variable [Casing]

/-- Open a review with its outbox event. -/
def insertReview (row : ReviewCandidate) (s : Store) : Store :=
  enqueueEvent .approvalRequested "review_candidate" s.reviewCandidates.length
    (.once .approvalRequested s.reviewCandidates.length)
    { s with reviewCandidates := s.reviewCandidates ++ [row] }

/-- `_request_review`: one review row for each subject and reason. Answers
whether it inserted one, and so flushed the session. -/
def requestReview (candidateType targetType : String) (targetId : Id)
    (originType originId : Option String) (sourceDefinitionId : Option Id)
    (sourceItemIds : List Id) (reasonCode reason : String) : Tx Bool := do
  match ← query (·.reviewCandidates.first?
    (·.idempotencyKey == (candidateType, targetId, reasonCode))) with
  | some _ => return false
  | none =>
    write (insertReview
      { candidateType, targetType, targetId, originType, originId, sourceDefinitionId
        sourceItemIds, reasonCode, reason
        idempotencyKey := (candidateType, targetId, reasonCode) })
    flush
    return true

/-- One answer of the verifier, by the entries the code reads. -/
structure VerificationResult where
  status : Option String := none
  result : Option String := none
  deliverability : Option String := none
  error : Bool := false
  catchAll : Bool := false
  ambiguous : Bool := false
  policyFlag : Bool := false
  valid : Option Bool := none
  deriving DecidableEq, Repr

/-- `classify_verification_result`. -/
def classifyVerificationResult (result : VerificationResult) :
    VerificationStatus × Option String :=
  let status := lower (if truthy result.status then result.status.getD ""
    else result.result.getD "")
  let deliverability := lower (result.deliverability.getD "")
  if result.error ∨ status ∈ ["failed", "error", "timeout"] then
    (.failed, some "verifier_failed")
  else if result.catchAll then (.needsReview, some "catch_all_domain")
  else if result.ambiguous then (.needsReview, some "ambiguous_verification")
  else if result.policyFlag then (.needsReview, some "policy_review_required")
  else if status ∈ ["invalid", "undeliverable", "rejected"] ∨ result.valid = some false then
    (.invalid, some "invalid_email")
  else if status ∈ ["valid", "deliverable", "ok"] ∨
      deliverability ∈ ["deliverable", "valid"] then
    (.verified, none)
  else if result.valid = some true then (.verified, none)
  else (.needsReview, some "ambiguous_verification")

/-- Answers by candidate id and by address; an empty answer counts as none in
favour of the other. -/
structure VerificationResults where
  byId : List (Id × VerificationResult) := []
  byEmail : List (String × VerificationResult) := []
  deriving DecidableEq, Repr

def VerificationResults.isEmpty (results : VerificationResults) : Bool :=
  results.byId.isEmpty && results.byEmail.isEmpty

def VerificationResults.lookup (results : VerificationResults) (id : Id) (email : String) :
    VerificationResult :=
  match results.byId.lookup id with
  | some result =>
    if result ≠ {} then result
    else (results.byEmail.lookup email).getD { error := true }
  | none => (results.byEmail.lookup email).getD { error := true }

structure EmailVerifyBatchRequest where
  candidateIds : List Id := []
  verificationResults : VerificationResults := {}
  deriving DecidableEq, Repr

/-- `_upsert_email_pattern`: the domain and pattern are learned as sure. The
session does not flush before a query, so the lookup sees only the patterns
that the last flush made visible. -/
def upsertEmailPattern (visible : Table OrganizationEmailPattern) (domain pattern : String)
    (verifiedAt : Time) (s : Store) : Store :=
  match visible.first? (fun row => row.domain == domain && row.pattern == pattern) with
  | some (i, _) =>
    { s with
      emailPatterns := s.emailPatterns.modify i fun row =>
        { row with
          sampleSize := row.sampleSize + 1
          confidence := max row.confidence 100
          verifiedAt := some verifiedAt } }
  | none =>
    { s with
      emailPatterns := s.emailPatterns ++
        [{ domain, pattern, confidence := 100, verifiedAt := some verifiedAt }] }

/-- `record.email.rsplit("@", 1)[-1].lower()`. -/
def patternDomain (email : String) : String :=
  lower (if '@' ∈ email.toList then afterLast '@' email else email)

/-- A verified record: the contact takes its address. -/
def applyVerified (now : Time) (visible : Table OrganizationEmailPattern) (id : Id)
    (record : EmailCandidateRecord) (s : Store) : Store :=
  let s := { s with
    emailCandidates := s.emailCandidates.modify id fun row =>
      { row with
        verificationStatus := .verified
        verificationCheckedAt := some now
        version := record.version + 1
        reviewStatus := "not_required"
        reviewReason := none } }
  let s := match record.contactId with
    | some c => { s with
        contacts := s.contacts.modify c fun contact =>
          { contact with
            email := some record.email
            emailStatus := some "verified"
            updatedAt := now } }
    | none => s
  enqueueEvent .emailVerified "email_candidate" id
    (.counted .emailVerified id (record.version + 1))
    (upsertEmailPattern visible (patternDomain record.email) record.pattern now s)

/-- Any other answer only marks the record. -/
def applyUnverified (now : Time) (id : Id) (record : EmailCandidateRecord)
    (status : VerificationStatus) (reason : Option String) (s : Store) : Store :=
  { s with
    emailCandidates := s.emailCandidates.modify id fun row =>
      { row with
        verificationStatus := status
        verificationCheckedAt := some now
        version := record.version + 1
        reviewStatus := if status = .invalid then row.reviewStatus else "needs_review"
        reviewReason := if status = .invalid then row.reviewReason else reason } }

/-- The loop of `verify_email_candidates`. -/
def verifyRecords (rt : Runtime) (results : VerificationResults) :
    List (Id × EmailCandidateRecord) → Table OrganizationEmailPattern → Tx PUnit
  | [], _ => pure ⟨⟩
  | (id, record) :: rest, visible => do
    match classifyVerificationResult (results.lookup id record.email) with
    | (.verified, _) =>
      write (applyVerified rt.now visible id record)
      verifyRecords rt results rest visible
    | (status, reason) =>
      write (applyUnverified rt.now id record status reason)
      if status = .invalid then
        verifyRecords rt results rest visible
      else
        let flushed ← requestReview "email_verification" "email_candidate" id
          record.originType record.originId record.sourceDefinitionId record.sourceItemIds
          (reason.getD "email_verification_review_required")
          "Email verification result requires analyst review."
        let visible ← query fun s => if flushed then s.emailPatterns else visible
        verifyRecords rt results rest visible

/-- The records a request selects. -/
def selectedRecords (ids : List Id) (s : Store) : List (Id × EmailCandidateRecord) :=
  (s.emailCandidates.zipIdx.filter fun row => row.2 ∈ ids).map Prod.swap

/-- The answers a call works with: those of the request, or the verifier's. -/
def verificationResults (request : EmailVerifyBatchRequest)
    (verifier : List String → Except String VerificationResults) (s : Store) :
    Except String VerificationResults :=
  if request.verificationResults.isEmpty then
    verifier ((selectedRecords request.candidateIds s).map (·.2.email))
  else .ok request.verificationResults

/-- `verify_email_candidates`. -/
def verifyEmailCandidates (rt : Runtime) (request : EmailVerifyBatchRequest)
    (verifier : List String → Except String VerificationResults) : Tx PUnit :=
  sessionScope do
    if request.candidateIds.isEmpty then return
    let records ← query (selectedRecords request.candidateIds)
    let results ← queryOrRaise fun s =>
      (verificationResults request verifier s).mapError .providerError
    let visible ← query (·.emailPatterns)
    verifyRecords rt results records visible

structure EmailCandidatePersistRequest where
  contactCandidateId : Option Id := none
  contactId : Option Id := none
  fullName : Option String := none
  domain : String
  originType : Option OriginType := none
  originId : Option String := none
  sourceDefinitionId : Option Id := none
  sourceItemIds : List Id := []
  knownPatterns : List String := []
  deriving DecidableEq, Repr

/-- Where the generated addresses come from. -/
structure Lineage where
  originType : Option String
  originId : Option String
  sourceDefinitionId : Option Id
  sourceItemIds : List Id
  deriving DecidableEq, Repr

/-- `_resolve_email_contact_context`: a contact candidate must be eligible and
have its contact. -/
def resolveEmailContactContext (request : EmailCandidatePersistRequest) (s : Store) :
    Except PyError (Id × Contact × Lineage) :=
  match request.contactCandidateId with
  | some i =>
    match s.contactCandidates[i]? with
    | none => .error (.valueError "contact candidate not found")
    | some candidate =>
      if candidate.status ≠ .eligible then
        .error (.valueError "contact candidate is not eligible for email generation")
      else
        match candidate.contactId with
        | none =>
          .error (.valueError "contact candidate is not eligible for email generation")
        | some c =>
          match s.contacts[c]? with
          | none => .error (.valueError "contact not found for candidate")
          | some contact =>
            .ok (c, contact,
              { originType := some candidate.originType.value
                originId := some candidate.originId
                sourceDefinitionId := candidate.sourceDefinitionId
                sourceItemIds := candidate.sourceItemIds })
  | none =>
    match request.contactId with
    | none => .error (.valueError "contact_id or contact_candidate_id is required")
    | some c =>
      match s.contacts[c]? with
      | none => .error (.valueError "contact not found")
      | some contact =>
        .ok (c, contact,
          { originType := request.originType.map (·.value) <|> contact.originType
            originId := request.originId <|> contact.originId
            sourceDefinitionId := request.sourceDefinitionId <|> contact.sourceDefinitionId
            sourceItemIds :=
              if request.sourceItemIds.isEmpty then contact.sourceItemIds
              else request.sourceItemIds })

/-- Store one generated address unless its key is already there. -/
def persistGenerated (idempotencyKey : String) (c : Id) (lineage : Lineage)
    (email pattern : String) : Tx PUnit := do
  let key := idempotencyKey ++ ":" ++ toString c ++ ":" ++ email
  match ← query (·.emailCandidates.first? (·.idempotencyKey == key)) with
  | some _ => return
  | none =>
    write fun s =>
      enqueueEvent .emailCandidateGenerated "email_candidate" s.emailCandidates.length
        (.once .emailCandidateGenerated s.emailCandidates.length)
        { s with
          emailCandidates := s.emailCandidates ++
            [{ contactId := some c, email, pattern
               sourceDefinitionId := lineage.sourceDefinitionId
               sourceItemIds := lineage.sourceItemIds
               originType := lineage.originType
               originId := lineage.originId
               idempotencyKey := key }] }
    flush

def persistAll (idempotencyKey : String) (c : Id) (lineage : Lineage) :
    List (String × String) → Tx PUnit
  | [] => pure ⟨⟩
  | (email, pattern) :: rest => do
    persistGenerated idempotencyKey c lineage email pattern
    persistAll idempotencyKey c lineage rest

/-- `persist_email_candidates`. The name folding, the choice among requested and
learned patterns and their formatting are the parameter `generate`, which
yields addresses with their patterns. -/
def persistEmailCandidates (request : EmailCandidatePersistRequest)
    (idempotencyKey : String)
    (generate : String → String → List String → Table OrganizationEmailPattern →
      Except PyError (List (String × String))) : Tx PUnit := sessionScope do
  let (c, contact, lineage) ← queryOrRaise (resolveEmailContactContext request)
  if lineage.sourceDefinitionId.isNone ∨ lineage.sourceItemIds.isEmpty then
    throw (.valueError "email candidate persistence requires source lineage")
  let fullName := if truthy request.fullName then request.fullName.getD "" else contact.fullName
  let generated ← queryOrRaise fun s =>
    generate fullName request.domain request.knownPatterns s.emailPatterns
  persistAll idempotencyKey c lineage generated

end GhostRecon
