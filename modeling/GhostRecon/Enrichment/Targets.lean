import GhostRecon.Enrichment.Contacts
import GhostRecon.Enrichment.Patterns

/-!
The enrichment of an event participant: a contact candidate, the addresses
generated for it and their verification, all in one session. The rows to verify
come in whatever order the database returns them. The contact keeps the last
address that the verifier accepted, and the answer names the first.
-/

namespace GhostRecon

open Lib (Id Table query queryOrRaise write)
open Std.Do

set_option mvcgen.warning false

section Calls

variable [Casing]

/-- The answers for the rows: those of the request, or the verifier's. -/
def batchAnswers (request : EmailVerifyBatchRequest)
    (verifier : List String → Except String VerificationResults)
    (rows : List (Id × EmailCandidateRecord)) : Except String VerificationResults :=
  if request.verificationResults.isEmpty then verifier (rows.map (·.2.email))
  else .ok request.verificationResults

/-- `verify_email_candidates` of the repository, inside its caller's session, on
rows that come in the given order. -/
def verifyBatch (rt : Runtime) (request : EmailVerifyBatchRequest)
    (verifier : List String → Except String VerificationResults)
    (order : List (Id × EmailCandidateRecord) → List (Id × EmailCandidateRecord)) :
    Tx (List Id) := do
  if request.candidateIds.isEmpty then return []
  let rows ← query fun s => order (selectedRecords request.candidateIds s)
  let results ← queryOrRaise fun _ =>
    (batchAnswers request verifier rows).mapError .providerError
  let visible ← query (·.emailPatterns)
  verifyRecords rt results rows visible
  return rows.map Prod.fst

/-- In the order of the table it is the body of the service operation. -/
theorem verifyEmailCandidates_batch (rt : Runtime) (request : EmailVerifyBatchRequest)
    (verifier : List String → Except String VerificationResults) :
    verifyEmailCandidates rt request verifier =
      sessionScope do
        let _ ← verifyBatch rt request verifier id
        return := by
  have hbody : ∀ w : DbWorld, verifyEmailCandidates rt request verifier w =
      sessionScope (do
        let _ ← verifyBatch rt request verifier id
        return) w := by
    intro w
    simp only [verifyEmailCandidates, verifyBatch, verificationResults, batchAnswers, sessionScope,
      Lib.sessionScope_run]
    cases request.candidateIds.isEmpty with
    | true => rfl
    | false =>
      simp only [Bool.false_eq_true, if_false, id, Lib.bind_run, Lib.query_run,
        Lib.queryOrRaise_run, Lib.pure_run]
      generalize Except.mapError PyError.providerError
        (if request.verificationResults.isEmpty = true then
          verifier ((selectedRecords request.candidateIds w.store).map (·.2.email))
        else .ok request.verificationResults) = answers
      cases answers with
      | error e => rfl
      | ok results =>
        dsimp only
        generalize verifyRecords rt results (selectedRecords request.candidateIds w.store)
          w.store.emailPatterns w = left
        cases left <;> rfl
  exact funext hbody

/-- `persist_email_candidates`, for one generated address: its record. -/
def persistRecord (idempotencyKey : String) (c : Id) (lineage : Lineage)
    (email pattern : String) : Tx Id := do
  let key := idempotencyKey ++ ":" ++ toString c ++ ":" ++ email
  match ← query (·.emailCandidates.first? (·.idempotencyKey == key)) with
  | some (i, _) => return i
  | none =>
    let i ← query (·.emailCandidates.length)
    persistGenerated idempotencyKey c lineage email pattern
    return i

def persistRecords (idempotencyKey : String) (c : Id) (lineage : Lineage) :
    List (String × String) → Tx (List Id)
  | [] => pure []
  | (email, pattern) :: rest => do
    let i ← persistRecord idempotencyKey c lineage email pattern
    let others ← persistRecords idempotencyKey c lineage rest
    return i :: others

/-- `persist_email_candidates` of the repository, inside its caller's session. -/
def persistBatch (request : EmailCandidatePersistRequest) (idempotencyKey : String)
    (generate : String → String → List String → Table OrganizationEmailPattern →
      Except PyError (List (String × String))) : Tx (List Id) := do
  let (c, contact, lineage) ← queryOrRaise (resolveEmailContactContext request)
  if lineage.sourceDefinitionId.isNone ∨ lineage.sourceItemIds.isEmpty then
    throw (.valueError "email candidate persistence requires source lineage")
  let fullName := if truthy request.fullName then request.fullName.getD "" else contact.fullName
  let generated ← queryOrRaise fun s =>
    generate fullName request.domain request.knownPatterns s.emailPatterns
  persistRecords idempotencyKey c lineage generated

/-- An event participant, by what an enrichment reads of it. -/
structure ParticipantSubject where
  id : Id
  cyberEventId : Id
  publishedName : String
  organization : Option String := none
  publishedRole : Option String := none
  profileUrl : Option String := none
  reuseState : ParticipantReuseState := .unknown
  sourceDefinitionId : Option Id := none
  sourceItemId : Option Id := none
  deriving DecidableEq, Repr

structure EventParticipantEnrichRequest where
  domain : Option String := none
  roleScope : ContactRoleScope := .unknown
  deriving DecidableEq, Repr

/-- The candidate and the records are named by their ids. -/
structure EventParticipantEnrichResult where
  contactCandidate : Id
  emailCandidates : List Id := []
  verifiedEmail : Option String := none
  reviewReason : Option String := none
  deriving DecidableEq, Repr

/-- What an enrichment call finds outside. -/
structure EnrichContext where
  rt : Runtime
  tools : EnrichmentTools
  profile : RuntimeProfile
  actor : String
  generate : String → String → List String → Table OrganizationEmailPattern →
    Except PyError (List (String × String))
  verifier : List String → Except String VerificationResults

/-- The domain of the request, or in the local profile one made up. -/
def targetDomain (ctx : EnrichContext) (participant : ParticipantSubject)
    (request : EventParticipantEnrichRequest) : Option String :=
  match normalizeDomain ctx.tools request.domain with
  | some domain => some domain
  | none =>
    if ctx.profile = .local then
      inferredDemoDomain ctx.tools [participant.organization, some participant.publishedName]
    else none

/-- The request for the participant's contact candidate. -/
def participantContact (ctx : EnrichContext) (participant : ParticipantSubject)
    (request : EventParticipantEnrichRequest) : ContactEnrichmentCreate where
  originType := .eventParticipant
  originId := toString participant.id
  publishedName := participant.publishedName
  organization := participant.organization
  title := participant.publishedRole
  roleScope := request.roleScope
  domain := targetDomain ctx participant request
  profileUrl := participant.profileUrl
  sourceUrl := participant.profileUrl
  reuseState := participant.reuseState
  sourceDefinitionId := participant.sourceDefinitionId
  sourceItemIds := participant.sourceItemId.toList
  candidatePayload := [("source", "global_events"), ("created_by", ctx.actor),
    ("cyber_event_id", toString participant.cyberEventId)]

/-- The first half of `enrich_event_participant_target`: the contact candidate
and the records of its generated addresses. -/
def prepareTarget (ctx : EnrichContext) (participant : ParticipantSubject)
    (request : EventParticipantEnrichRequest) (idempotencyKey : String) :
    Tx (Id × List Id) := do
  let i ← insertContactCandidate ctx.tools (participantContact ctx participant request)
    (idempotencyKey ++ ":contact")
  let candidate ← query (·.contactCandidates[i]?)
  let domain := targetDomain ctx participant request
  if candidate.any (·.status = .eligible) ∧ truthy domain then
    let ids ← persistBatch
      { contactCandidateId := some i
        fullName := some participant.publishedName
        domain := domain.getD "" }
      (idempotencyKey ++ ":email") ctx.generate
    return (i, ids)
  else return (i, [])

/-- The records of a batch as they are now. -/
def readAgain (s : Store) (ids : List Id) : List EmailCandidateRecord :=
  ids.filterMap (s.emailCandidates[·]?)

/-- The last part of it: the first verified record is the verified address. An
empty address is no `EmailStr`. -/
def reportTarget (i : Id) (ids : List Id) : Tx EventParticipantEnrichResult := do
  let records ← query fun s => readAgain s ids
  let verified := (records.find? (·.verificationStatus == .verified)).map (·.email)
  if truthy verified then
    write (·.updateCandidate i fun row => { row with verifiedEmail := verified })
  let candidate ← query (·.contactCandidates[i]?)
  let reason := orElseText (candidate.bind (·.reviewReason))
    (candidate.bind (·.eligibilityReason))
  let reviewReason :=
    if verified.isNone then
      orElseText reason ((records.find? fun row => truthy row.reviewReason).bind (·.reviewReason))
    else reason
  if verified = some "" then throw (.validationError "verified_email")
  return { contactCandidate := i, emailCandidates := ids, verifiedEmail := verified, reviewReason }

/-- `enrich_event_participant_target`, for a participant that may be missing. -/
def enrichEventParticipantTarget (ctx : EnrichContext)
    (order : List (Id × EmailCandidateRecord) → List (Id × EmailCandidateRecord))
    (participant : Option ParticipantSubject) (request : EventParticipantEnrichRequest)
    (idempotencyKey : String) : Tx EventParticipantEnrichResult := sessionScope do
  let some participant := participant | throw (.valueError "event participant not found")
  let (i, ids) ← prepareTarget ctx participant request idempotencyKey
  let ids ← verifyBatch ctx.rt { candidateIds := ids } ctx.verifier order
  reportTarget i ids

/-- The accepted addresses of a batch, in the order of its rows. -/
def verifiedEmails (results : VerificationResults) (rows : List (Id × EmailCandidateRecord)) :
    List String :=
  (rows.filter fun row => (finding results row).1 == .verified).map (·.2.email)

/-- The address of a contact. -/
def contactEmail (w : DbWorld) (c : Id) : Option String :=
  (w.store.contacts[c]?).bind (·.email)

/-- The database accepts the batch, from whatever the session holds. -/
structure BatchCommits (results : VerificationResults) (rows : List (Id × EmailCandidateRecord))
    (s : Store) : Prop where
  othersOk : s.othersOk = true
  lengthened : Lengthened s
  accepted : BatchAccepted results rows s

/-- The address of the contact after the batch is the same in every order. -/
def OrderFree (rt : Runtime) (results : VerificationResults) (ids : List Id) (c : Id)
    (w : DbWorld) : Prop :=
  ∀ rows rows' : List (Id × EmailCandidateRecord), rows.Perm (selectedRecords ids w.store) →
    rows'.Perm (selectedRecords ids w.store) → ∀ left left' : DbWorld,
      verifyInOrder rt results rows w = .ok ⟨⟩ left →
        verifyInOrder rt results rows' w = .ok ⟨⟩ left' →
          contactEmail left c = contactEmail left' c

/-- The address that an enrichment reports is on the candidate, and is that of
its contact, in every order. -/
def ReportsContact (ctx : EnrichContext) (participant : ParticipantSubject)
    (request : EventParticipantEnrichRequest) (idempotencyKey : String) (w : DbWorld) : Prop :=
  ∀ order : List (Id × EmailCandidateRecord) → List (Id × EmailCandidateRecord),
    (∀ rows, (order rows).Perm rows) →
    ∀ (result : EventParticipantEnrichResult) (left : DbWorld),
      enrichEventParticipantTarget ctx order (some participant) request idempotencyKey w =
        .ok result left → ∀ email, result.verifiedEmail = some email →
          ∃ candidate c,
            left.store.contactCandidates[result.contactCandidate]? = some candidate ∧
              candidate.verifiedEmail = some email ∧ candidate.contactId = some c ∧
              contactEmail left c = some email

/-- The address that is reported is found at the candidate's contact. -/
theorem ReportsContact.contact_email {ctx : EnrichContext} {participant : ParticipantSubject}
    {request : EventParticipantEnrichRequest} {key : String} {w left : DbWorld}
    {order : List (Id × EmailCandidateRecord) → List (Id × EmailCandidateRecord)}
    {result : EventParticipantEnrichResult} {email : String}
    (h : ReportsContact ctx participant request key w)
    (horder : ∀ rows, (order rows).Perm rows)
    (hrun : enrichEventParticipantTarget ctx order (some participant) request key w =
      .ok result left) (hresult : result.verifiedEmail = some email) :
    ((left.store.contactCandidates[result.contactCandidate]?).bind (·.contactId)).bind
      (contactEmail left) = some email := by
  obtain ⟨candidate, c, hcandidate, -, hcontact, hemail⟩ :=
    h order horder result left hrun email hresult
  rw [hcandidate, Option.bind_some, hcontact]
  exact hemail

/-- All orders that the database accepts end with the same accepted address. -/
def SameLast (results : VerificationResults) (ids : List Id) (s : Store) : Prop :=
  ∀ rows rows' : List (Id × EmailCandidateRecord), rows.Perm (selectedRecords ids s) →
    rows'.Perm (selectedRecords ids s) → BatchCommits results rows s →
      BatchCommits results rows' s →
        (verifiedEmails results rows).getLast? = (verifiedEmails results rows').getLast?

/-- Every order that the database accepts ends with the address it begins with. -/
def FirstIsLast (verifier : List String → Except String VerificationResults) (ids : List Id)
    (s : Store) : Prop :=
  ∀ (rows : List (Id × EmailCandidateRecord)) (results : VerificationResults),
    rows.Perm (selectedRecords ids s) → verifier (rows.map (·.2.email)) = .ok results →
      BatchCommits results rows s → ∀ email, email ≠ "" →
        (verifiedEmails results rows).head? = some email →
          (verifiedEmails results rows).getLast? = some email

section Passes

variable {rt : Runtime} {results : VerificationResults} {reviews : Table ReviewCandidate}
  {rows : List (Id × EmailCandidateRecord)} {batch : Batch}

theorem commits_iff (rt : Runtime) {s : Store} (hids : (rows.map Prod.fst).Nodup) :
    FlushesPass rt results s.reviewCandidates rows ⟨s, s.emailPatterns⟩ ∧
        (workOff rt results s.reviewCandidates rows ⟨s, s.emailPatterns⟩).store.constraintsOk =
          true ↔
      BatchCommits results rows s := by
  have hreads : Batch.Reads ⟨s, s.emailPatterns⟩ := List.prefix_rfl
  have hkept := workOff_kept rt results s.reviewCandidates rows hreads
  have hboth := flushesPass_iff rt results s.reviewCandidates rows hreads
  constructor
  · rintro ⟨hflushes, hend⟩
    obtain ⟨hothers, hlong, -⟩ := constraintsOk_iff_parts.mp hend
    rw [hkept.othersOk] at hothers
    have hstart := hkept.lengthened hlong
    obtain ⟨hfinal, haddresses⟩ := (hboth hothers).mp ⟨hflushes, hend⟩
    obtain ⟨hapart, hwidths, hevents⟩ := (lengthened_workOff_iff hids hstart).mp hfinal
    exact ⟨hothers, hstart, hapart, hwidths, hevents, haddresses⟩
  · rintro ⟨hothers, hstart, hapart, hwidths, hevents, haddresses⟩
    exact (hboth hothers).mpr
      ⟨(lengthened_workOff_iff hids hstart).mpr ⟨hapart, hwidths, hevents⟩, haddresses⟩

/-- One record: a verified one of the contact gives it its address. -/
theorem workOne_contact (rt : Runtime) (results : VerificationResults)
    (reviews : Table ReviewCandidate) {row : Id × EmailCandidateRecord} {c : Id}
    {contact : Contact}
    (hc : batch.store.contacts[c]? = some contact) (hrow : row.2.contactId = some c) :
    ∃ contact', (workOne rt results (verdict results reviews row) row batch).store.contacts[c]? =
        some contact' ∧
      contact'.email = if (finding results row).1 = .verified then some row.2.email
        else contact.email := by
  cases hverdict : verdict results reviews row with
  | verified =>
    simp only [workOne, applyVerified_eq, readdress, hrow, verdict_verified.mp hverdict, if_true]
    rw [List.getElem?_modify_eq, hc]
    exact ⟨_, rfl, rfl⟩
  | marked =>
    rw [if_neg (verdict_other (by rw [hverdict]; simp))]
    exact ⟨contact, hc, rfl⟩
  | reviewed =>
    rw [if_neg (verdict_other (by rw [hverdict]; simp))]
    exact ⟨contact, hc, rfl⟩

/-- The contact has the last address that was accepted, or keeps its own. -/
theorem workOff_contact (rt : Runtime) (results : VerificationResults)
    (reviews : Table ReviewCandidate) {c : Id} {contact : Contact}
    (hc : batch.store.contacts[c]? = some contact)
    (hone : ∀ row ∈ rows, row.2.contactId = some c) :
    ∃ contact', (workOff rt results reviews rows batch).store.contacts[c]? = some contact' ∧
      contact'.email = ((verifiedEmails results rows).getLast?).or contact.email := by
  induction rows generalizing batch contact with
  | nil => exact ⟨contact, hc, rfl⟩
  | cons row rest ih =>
    obtain ⟨middle, hmiddle, hemail⟩ := workOne_contact rt results reviews hc
      (hone row List.mem_cons_self)
    obtain ⟨last, hlast, hfinal⟩ := ih hmiddle fun other hother =>
      hone other (List.mem_cons_of_mem _ hother)
    refine ⟨last, hlast, ?_⟩
    rw [hfinal, hemail]
    unfold verifiedEmails
    rw [List.filter_cons]
    by_cases hverified : (finding results row).1 = .verified
    · rw [if_pos hverified, if_pos (beq_iff_eq.mpr hverified), List.map_cons, List.getLast?_cons]
      cases (List.map _ _).getLast? <;> rfl
    · rw [if_neg hverified, if_neg (by simpa using hverified)]

end Passes

section Orders

variable {rt : Runtime} {results : VerificationResults} {ids : List Id} {w : DbWorld}

/-- What the call leaves of the contact of its batch. -/
theorem verifyInOrder_email {rows : List (Id × EmailCandidateRecord)} {left : DbWorld} {c : Id}
    {contact : Contact} (hrows : rows.Perm (selectedRecords ids w.store))
    (hone : ∀ row ∈ selectedRecords ids w.store, row.2.contactId = some c)
    (hc : w.store.contacts[c]? = some contact)
    (hrun : verifyInOrder rt results rows w = .ok ⟨⟩ left) :
    contactEmail left c = ((verifiedEmails results rows).getLast?).or contact.email := by
  obtain ⟨-, -, rfl⟩ := (verifyInOrder_run (selectedRecords_nodup hrows)).mp hrun
  let start : Batch := ⟨w.store, w.store.emailPatterns⟩
  have hstart : start.store.contacts[c]? = some contact := hc
  obtain ⟨contact', hcontact', hemail⟩ :=
    workOff_contact rt results w.store.reviewCandidates hstart fun row hrow =>
      hone row (hrows.mem_iff.mp hrow)
  unfold contactEmail
  rw [hcontact']
  exact hemail

theorem verifiedEmails_perm {rows rows' : List (Id × EmailCandidateRecord)}
    (h : rows.Perm rows') : (verifiedEmails results rows).Perm (verifiedEmails results rows') :=
  (h.filter _).map _

omit [Casing] in
/-- Two orders with no accepted address have none, and otherwise both end with one. -/
theorem getLast?_or {a b : List String} (h : a.Perm b) {email : Option String} :
    a.getLast?.or email = b.getLast?.or email ↔ a.getLast? = b.getLast? := by
  constructor
  · intro heq
    cases ha : a.getLast? with
    | none =>
      have hnil := List.getLast?_eq_none_iff.mp ha
      subst hnil
      rw [List.nil_perm.mp h, List.getLast?_nil]
    | some x =>
      cases hb : b.getLast? with
      | none =>
        have hnil := List.getLast?_eq_none_iff.mp hb
        subst hnil
        rw [List.perm_nil.mp h, List.getLast?_nil] at ha
        cases ha
      | some y =>
        rw [ha, hb] at heq
        exact heq
  · intro heq
    rw [heq]

theorem orderFree_iff {c : Id} {contact : Contact} (hc : w.store.contacts[c]? = some contact)
    (hone : ∀ row ∈ selectedRecords ids w.store, row.2.contactId = some c) :
    OrderFree rt results ids c w ↔ SameLast results ids w.store := by
  constructor
  · intro hfree rows rows' hrows hrows' hcommits hcommits'
    obtain ⟨hflushes, hend⟩ :=
      (commits_iff rt (selectedRecords_nodup hrows)).mpr hcommits
    obtain ⟨hflushes', hend'⟩ :=
      (commits_iff rt (selectedRecords_nodup hrows')).mpr hcommits'
    have hrun := (verifyInOrder_run (selectedRecords_nodup hrows)).mpr ⟨hflushes, hend, rfl⟩
    have hrun' := (verifyInOrder_run (selectedRecords_nodup hrows')).mpr ⟨hflushes', hend', rfl⟩
    have hsame := hfree rows rows' hrows hrows' _ _ hrun hrun'
    rw [verifyInOrder_email hrows hone hc hrun, verifyInOrder_email hrows' hone hc hrun'] at hsame
    exact (getLast?_or (verifiedEmails_perm (hrows.trans hrows'.symm))).mp hsame
  · intro hlast rows rows' hrows hrows' left left' hrun hrun'
    rw [verifyInOrder_email hrows hone hc hrun, verifyInOrder_email hrows' hone hc hrun']
    obtain ⟨hflushes, hend, -⟩ := (verifyInOrder_run (selectedRecords_nodup hrows)).mp hrun
    obtain ⟨hflushes', hend', -⟩ := (verifyInOrder_run (selectedRecords_nodup hrows')).mp hrun'
    rw [hlast rows rows' hrows hrows'
      ((commits_iff rt (selectedRecords_nodup hrows)).mp ⟨hflushes, hend⟩)
      ((commits_iff rt (selectedRecords_nodup hrows')).mp ⟨hflushes', hend'⟩)]

/-- All accepted addresses of the batch are one address. -/
def OneAddress (results : VerificationResults) (rows : List (Id × EmailCandidateRecord)) : Prop :=
  ∀ a ∈ verifiedEmails results rows, ∀ b ∈ verifiedEmails results rows, a = b

/-- One address is enough, whatever the order. -/
theorem sameLast_of_oneAddress {s : Store}
    (h : OneAddress results (selectedRecords ids s)) : SameLast results ids s := by
  intro rows rows' hrows hrows' _ _
  have hperm : (verifiedEmails results rows).Perm (verifiedEmails results rows') :=
    verifiedEmails_perm (hrows.trans hrows'.symm)
  cases hlast : (verifiedEmails results rows).getLast? with
  | none =>
    have hnil := List.getLast?_eq_none_iff.mp hlast
    rw [hnil] at hperm
    rw [List.nil_perm.mp hperm, List.getLast?_nil]
  | some a =>
    cases hlast' : (verifiedEmails results rows').getLast? with
    | none =>
      have hnil := List.getLast?_eq_none_iff.mp hlast'
      rw [hnil] at hperm
      rw [List.perm_nil.mp hperm, List.getLast?_nil] at hlast
      cases hlast
    | some b =>
      have ha := (verifiedEmails_perm hrows).mem_iff.mp (List.mem_of_getLast? hlast)
      have hb := (verifiedEmails_perm hrows').mem_iff.mp (List.mem_of_getLast? hlast')
      rw [h a ha b hb]

/-- Where the database accepts every order, one address is also necessary. -/
theorem oneAddress_of_sameLast {s : Store}
    (hall : ∀ rows : List (Id × EmailCandidateRecord), rows.Perm (selectedRecords ids s) →
      BatchCommits results rows s) (h : SameLast results ids s) :
    OneAddress results (selectedRecords ids s) := by
  have hends : ∀ a ∈ verifiedEmails results (selectedRecords ids s),
      ∃ rows : List (Id × EmailCandidateRecord), rows.Perm (selectedRecords ids s) ∧
        (verifiedEmails results rows).getLast? = some a := by
    intro a ha
    obtain ⟨row, hrow, rfl⟩ := List.mem_map.mp ha
    obtain ⟨hmem, hverified⟩ := List.mem_filter.mp hrow
    obtain ⟨before, behind, hsplit⟩ := List.append_of_mem hmem
    refine ⟨before ++ behind ++ [row], ?_, ?_⟩
    · rw [hsplit, List.append_assoc]
      exact List.Perm.append_left before (List.perm_append_singleton row behind)
    · unfold verifiedEmails
      rw [List.filter_append, List.filter_cons, if_pos hverified]
      simp
  intro a ha b hb
  obtain ⟨rows, hrows, hlast⟩ := hends a ha
  obtain ⟨rows', hrows', hlast'⟩ := hends b hb
  have hsame := h rows rows' hrows hrows' (hall rows hrows) (hall rows' hrows')
  rw [hlast, hlast'] at hsame
  exact Option.some.inj hsame

end Orders

section Reports

variable {rt : Runtime} {results : VerificationResults} {reviews : Table ReviewCandidate}
  {rows : List (Id × EmailCandidateRecord)} {batch : Batch}

/-- A record that the pass does not work on stays. -/
theorem workOne_other {row : Id × EmailCandidateRecord} {v : Verdict} {id : Id}
    (hid : row.1 ≠ id) :
    (workOne rt results v row batch).store.emailCandidates[id]? =
      batch.store.emailCandidates[id]? := by
  cases v with
  | verified =>
    simp only [workOne, applyVerified_eq]
    exact List.getElem?_modify_ne _ _ hid
  | marked => exact List.getElem?_modify_ne _ _ hid
  | reviewed => exact List.getElem?_modify_ne _ _ hid

/-- A record that it works on has its answer as its status. -/
theorem workOne_record (rt : Runtime) (results : VerificationResults)
    (reviews : Table ReviewCandidate) {row : Id × EmailCandidateRecord}
    (hrow : batch.store.emailCandidates[row.1]? = some row.2) :
    ∃ record, (workOne rt results (verdict results reviews row) row
        batch).store.emailCandidates[row.1]? = some record ∧
      record.verificationStatus = (finding results row).1 ∧ record.email = row.2.email := by
  cases hverdict : verdict results reviews row with
  | verified =>
    simp only [workOne, applyVerified_eq, verdict_verified.mp hverdict]
    rw [List.getElem?_modify_eq, hrow]
    exact ⟨_, rfl, rfl, rfl⟩
  | marked =>
    simp only [workOne, applyUnverified]
    rw [List.getElem?_modify_eq, hrow]
    exact ⟨_, rfl, rfl, rfl⟩
  | reviewed =>
    simp only [workOne, applyUnverified, insertReview, enqueueEvent]
    rw [List.getElem?_modify_eq, hrow]
    exact ⟨_, rfl, rfl, rfl⟩

theorem workOff_other {id : Id} (hid : id ∉ rows.map Prod.fst) :
    (workOff rt results reviews rows batch).store.emailCandidates[id]? =
      batch.store.emailCandidates[id]? := by
  induction rows generalizing batch with
  | nil => rfl
  | cons row rest ih =>
    rw [List.map_cons, List.mem_cons, not_or] at hid
    exact (ih hid.2).trans (workOne_other (Ne.symm hid.1))

/-- After the pass every record has its answer. -/
theorem workOff_records (hids : (rows.map Prod.fst).Nodup)
    (hrows : ∀ row ∈ rows, batch.store.emailCandidates[row.1]? = some row.2) :
    ∀ row ∈ rows, ∃ record,
      (workOff rt results reviews rows batch).store.emailCandidates[row.1]? = some record ∧
        record.verificationStatus = (finding results row).1 ∧ record.email = row.2.email := by
  induction rows generalizing batch with
  | nil =>
    intro row hrow
    cases hrow
  | cons first rest ih =>
    obtain ⟨hfirst, hrest⟩ := List.nodup_cons.mp hids
    have hkept : ∀ row ∈ rest,
        (workOne rt results (verdict results reviews first) first
          batch).store.emailCandidates[row.1]? = some row.2 := by
      intro row hrow
      have hne : first.1 ≠ row.1 := by
        intro hsame
        exact hfirst (List.mem_map.mpr ⟨row, hrow, hsame.symm⟩)
      rw [workOne_other hne]
      exact hrows row (List.mem_cons_of_mem _ hrow)
    have hlater := ih hrest hkept
    intro row hrow
    rcases List.mem_cons.mp hrow with rfl | hrow
    · obtain ⟨record, hrecord, hstatus⟩ := workOne_record rt results reviews
        (hrows row List.mem_cons_self)
      exact ⟨record, (workOff_other hfirst).trans hrecord, hstatus⟩
    · exact hlater row hrow

/-- The first verified record is that of the first accepted address. -/
theorem find_verified {s : Store}
    (h : ∀ row ∈ rows, ∃ record, s.emailCandidates[row.1]? = some record ∧
      record.verificationStatus = (finding results row).1 ∧ record.email = row.2.email) :
    ((readAgain s (rows.map Prod.fst)).find? (·.verificationStatus == .verified)).map (·.email) =
      (verifiedEmails results rows).head? := by
  induction rows with
  | nil => rfl
  | cons row rest ih =>
    obtain ⟨record, hrecord, hstatus, hemail⟩ := h row List.mem_cons_self
    have hrest := ih fun other hother => h other (List.mem_cons_of_mem _ hother)
    unfold readAgain verifiedEmails at hrest ⊢
    rw [List.map_cons, List.filterMap_cons_some hrecord, List.find?_cons, List.filter_cons,
      hstatus]
    by_cases hverified : (finding results row).1 = .verified
    · rw [beq_iff_eq.mpr hverified]
      simp [hemail]
    · rw [beq_eq_false_iff_ne.mpr hverified]
      simpa using hrest

/-- The verified address of a batch, from its records. -/
def verifiedOf (s : Store) (ids : List Id) : Option String :=
  ((readAgain s ids).find? (·.verificationStatus == .verified)).map (·.email)

omit [Casing] in
/-- The reported address breaks no constraint. -/
theorem reported_constraints {s : Store} {i : Id} {email : String} :
    (s.updateCandidate i fun row => { row with verifiedEmail := some email }).constraintsOk =
      s.constraintsOk := by
  have hunique : Table.uniqueOn (s.contactCandidates.modify i fun row =>
        { row with verifiedEmail := some email }) (fun row => some row.idempotencyKey) =
      s.contactCandidates.uniqueOn fun row => some row.idempotencyKey :=
    Table.uniqueOn_modify fun _ => rfl
  simp only [Store.updateCandidate, Store.constraintsOk, Store.keysOk, Store.widthsOk, hunique]

omit [Casing] in
/-- A report of an address puts it on the candidate. -/
theorem reportTarget_run {i : Id} {ids : List Id} {u : DbWorld} {email : String}
    (hemail : email ≠ "") (hverified : verifiedOf u.store ids = some email) :
    ∃ result, reportTarget i ids u = .ok result
        { u with store := u.store.updateCandidate i fun row =>
          { row with verifiedEmail := some email } } ∧
      result.contactCandidate = i ∧ result.verifiedEmail = some email := by
  have htruthy : truthy (some email) = true := by simp [truthy, hemail]
  have hsome : some email ≠ some "" := fun h => hemail (Option.some.inj h)
  unfold verifiedOf at hverified
  unfold reportTarget
  simp only [Lib.bind_run, Lib.query_run, hverified, htruthy, if_true, Lib.write_run,
    if_neg hsome, Lib.pure_run]
  exact ⟨_, rfl, rfl, rfl⟩

omit [Casing] in
/-- A report that is given is that of the records. -/
theorem reportTarget_ok {i : Id} {ids : List Id} {u left : DbWorld}
    {result : EventParticipantEnrichResult} (h : reportTarget i ids u = .ok result left) :
    result.verifiedEmail = verifiedOf u.store ids ∧ verifiedOf u.store ids ≠ some "" := by
  have hreport : Lib.Establishes (reportTarget i ids) u
      (fun result _ => result.verifiedEmail = verifiedOf u.store ids ∧
        verifiedOf u.store ids ≠ some "") (fun _ _ => True) := by
    apply Lib.establishes_of_triple
    unfold verifiedOf
    mvcgen [reportTarget]
    all_goals subst_vars
    all_goals exact ⟨rfl, ‹_›⟩
  rw [Lib.Establishes, h] at hreport
  exact hreport

end Reports

section Preparing

/-- The candidate has a contact. -/
def HasContact (i : Id) (s : Store) : Prop :=
  ∃ (candidate : ContactEnrichmentCandidate) (c : Id) (contact : Contact),
    s.contactCandidates[i]? = some candidate ∧ candidate.contactId = some c ∧
      s.contacts[c]? = some contact

omit [Casing] in
/-- Addresses are generated for candidates with a contact only. -/
theorem hasContact_of_resolved {request : EmailCandidatePersistRequest} {i : Id} {s : Store}
    {found : Id × Contact × Lineage} (hi : request.contactCandidateId = some i)
    (h : resolveEmailContactContext request s = .ok found) : HasContact i s := by
  simp only [resolveEmailContactContext, hi] at h
  cases hcandidate : s.contactCandidates[i]? with
  | none =>
    rw [hcandidate] at h
    cases h
  | some candidate =>
    rw [hcandidate] at h
    dsimp only at h
    split at h
    · cases h
    · cases hcontact : candidate.contactId with
      | none =>
        rw [hcontact] at h
        cases h
      | some c =>
        rw [hcontact] at h
        dsimp only at h
        cases hrow : s.contacts[c]? with
        | none =>
          rw [hrow] at h
          cases h
        | some contact => exact ⟨candidate, c, contact, hcandidate, hcontact, hrow⟩

omit [Casing] in
theorem persistRecords_hasContact (i : Id) (key : String) (c : Id) (lineage : Lineage)
    (generated : List (String × String)) :
    ⦃fun v => ⌜HasContact i v.store⌝⦄ persistRecords key c lineage generated
      ⦃post⟨fun _ v => ⌜HasContact i v.store⌝, fun _ _ => ⌜True⌝⟩⦄ := by
  induction generated with
  | nil => mvcgen [persistRecords]
  | cons first rest ih =>
    obtain ⟨email, pattern⟩ := first
    mvcgen [persistRecords, persistRecord, persistGenerated, flush, Lib.flush, ih]

theorem insertContactCandidate_returns (tools : EnrichmentTools)
    (payload : ContactEnrichmentCreate) (key : String) :
    ⦃fun _ => ⌜True⌝⦄ insertContactCandidate tools payload key
      ⦃post⟨fun _ _ => ⌜True⌝, fun _ _ => ⌜True⌝⟩⦄ := by
  mvcgen [insertContactCandidate, upsertContact, requestReview, flush, Lib.flush]

/-- A call that has records to verify has a candidate with a contact. -/
theorem prepareTarget_hasContact {ctx : EnrichContext} {participant : ParticipantSubject}
    {request : EventParticipantEnrichRequest} {key : String} {w v : DbWorld} {i : Id}
    {ids : List Id} (h : prepareTarget ctx participant request key w = .ok (i, ids) v)
    (hids : ids ≠ []) : HasContact i v.store := by
  have hprepare : Lib.Establishes (prepareTarget ctx participant request key) w
      (fun prepared v => prepared.2 ≠ [] → HasContact prepared.1 v.store)
      (fun _ _ => True) := by
    apply Lib.establishes_of_triple
    mvcgen [prepareTarget, persistBatch, Lib.queryOrRaise, insertContactCandidate_returns,
      persistRecords_hasContact]
    · next hresolved _ _ _ _ _ => exact hasContact_of_resolved rfl hresolved
    · next hkept =>
      intro _
      exact hkept
    · intro hnone
      exact absurd rfl hnone
  rw [Lib.Establishes, h] at hprepare
  exact hprepare hids

end Preparing

section Enriching

variable {ctx : EnrichContext} {participant : ParticipantSubject}
  {request : EventParticipantEnrichRequest} {key : String} {w v : DbWorld} {i : Id}
  {ids : List Id}
  {order : List (Id × EmailCandidateRecord) → List (Id × EmailCandidateRecord)}

/-- The call returns when its rows are verified, its report is made and the
commit is accepted. -/
theorem enrich_ok_iff (hprepared : prepareTarget ctx participant request key w = .ok (i, ids) v)
    (hids : ids ≠ []) {result : EventParticipantEnrichResult} {left : DbWorld} :
    enrichEventParticipantTarget ctx order (some participant) request key w =
        .ok result left ↔
      ∃ results u,
        ctx.verifier ((order (selectedRecords ids v.store)).map (·.2.email)) = .ok results ∧
        verifyRecords ctx.rt results (order (selectedRecords ids v.store)) v.store.emailPatterns
          v = .ok ⟨⟩ u ∧
        reportTarget i ((order (selectedRecords ids v.store)).map Prod.fst) u =
          .ok result left ∧
        left.store.constraintsOk = true := by
  have hsome : ids.isEmpty = false := by simpa using hids
  have hnone : ({} : VerificationResults).isEmpty = true := rfl
  unfold enrichEventParticipantTarget verifyBatch sessionScope
  simp only [Lib.sessionScope_run, Lib.bind_run, hprepared, hsome, Bool.false_eq_true, if_false,
    Lib.query_run, Lib.queryOrRaise_run, batchAnswers, hnone, if_true, Lib.pure_run]
  cases hanswers : ctx.verifier ((order (selectedRecords ids v.store)).map (·.2.email)) with
  | error message => simp [Except.mapError]
  | ok results =>
    dsimp only [Except.mapError]
    cases hverify : verifyRecords ctx.rt results (order (selectedRecords ids v.store))
        v.store.emailPatterns v with
    | error e u => simp [hverify]
    | ok none u =>
      dsimp only
      cases hreport : reportTarget i ((order (selectedRecords ids v.store)).map Prod.fst) u with
      | error e last => simp [hverify, hreport]
      | ok report last =>
        dsimp only
        constructor
        · intro h
          split at h
          · next hvalid =>
            cases h
            exact ⟨results, u, rfl, hverify, hreport, hvalid⟩
          · cases h
        · rintro ⟨results', u', hsame, hverify', hreport', hvalid⟩
          cases hsame
          rw [hverify] at hverify'
          cases hverify'
          rw [hreport] at hreport'
          cases hreport'
          exact if_pos hvalid

/-- A call without records reports no address. -/
theorem enrich_nothing (hprepared : prepareTarget ctx participant request key w = .ok (i, []) v)
    {result : EventParticipantEnrichResult} {left : DbWorld}
    (h : enrichEventParticipantTarget ctx order (some participant) request key w =
      .ok result left) : result.verifiedEmail = none := by
  unfold enrichEventParticipantTarget verifyBatch sessionScope at h
  simp only [Lib.sessionScope_run, Lib.bind_run, hprepared, List.isEmpty_nil, if_true,
    Lib.pure_run] at h
  split at h
  · next hreport =>
    split at h
    · cases h
      exact (reportTarget_ok hreport).1
    · cases h
  · cases h

/-- What the pass leaves for the report. -/
theorem workOff_report (rt : Runtime) (results : VerificationResults)
    {rows : List (Id × EmailCandidateRecord)} (hrows : rows.Perm (selectedRecords ids v.store)) :
    verifiedOf (workOff rt results v.store.reviewCandidates rows
        ⟨v.store, v.store.emailPatterns⟩).store (rows.map Prod.fst) =
      (verifiedEmails results rows).head? := by
  refine find_verified (workOff_records (selectedRecords_nodup hrows) ?_)
  intro row hrow
  obtain ⟨⟨record, id⟩, hmem, rfl⟩ := List.mem_map.mp (hrows.mem_iff.mp hrow)
  exact List.mem_zipIdx_iff_getElem?.mp (List.mem_filter.mp hmem).1

/-- The world after a pass whose report names the address. -/
def reportedWorld (rt : Runtime) (results : VerificationResults)
    (rows : List (Id × EmailCandidateRecord)) (i : Id) (email : String) (v : DbWorld) : DbWorld :=
  ⟨(workOff rt results v.store.reviewCandidates rows
    ⟨v.store, v.store.emailPatterns⟩).store.updateCandidate i fun row =>
      { row with verifiedEmail := some email }, v.external⟩

/-- The candidate and the contact that a report of an address leaves. -/
theorem reported_contact (rt : Runtime) (results : VerificationResults) (email : String)
    {rows : List (Id × EmailCandidateRecord)} {candidate : ContactEnrichmentCandidate} {c : Id}
    {contact : Contact}
    (hcandidate : v.store.contactCandidates[i]? = some candidate)
    (hstored : v.store.contacts[c]? = some contact)
    (hone : ∀ row ∈ rows, row.2.contactId = some c) :
    (reportedWorld rt results rows i email v).store.contactCandidates[i]? =
        some { candidate with verifiedEmail := some email } ∧
      contactEmail (reportedWorld rt results rows i email v) c =
        ((verifiedEmails results rows).getLast?).or contact.email := by
  let start : Batch := ⟨v.store, v.store.emailPatterns⟩
  have hreads : start.Reads := List.prefix_rfl
  have hkept := workOff_kept rt results v.store.reviewCandidates rows hreads
  have hcandidates : (workOff rt results v.store.reviewCandidates rows
      ⟨v.store, v.store.emailPatterns⟩).store.contactCandidates =
        v.store.contactCandidates := by
    rw [hkept.rest]
  have hstart : start.store.contacts[c]? = some contact := hstored
  obtain ⟨contact', hcontact', hemail⟩ :=
    workOff_contact rt results v.store.reviewCandidates hstart hone
  constructor
  · show (List.modify _ i _)[i]? = _
    rw [List.getElem?_modify_eq, hcandidates, hcandidate]
    rfl
  · show ((workOff rt results v.store.reviewCandidates rows
      ⟨v.store, v.store.emailPatterns⟩).store.contacts[c]?).bind (·.email) = _
    rw [hcontact']
    exact hemail

/-- An accepted order with an accepted address: the call reports the first one. -/
theorem enrich_reports
    (hprepared : prepareTarget ctx participant request key w = .ok (i, ids) v) (hids : ids ≠ [])
    {results : VerificationResults} {rows : List (Id × EmailCandidateRecord)} {email : String}
    (hrows : rows.Perm (selectedRecords ids v.store))
    (horder : order (selectedRecords ids v.store) = rows)
    (hanswers : ctx.verifier (rows.map (·.2.email)) = .ok results)
    (hcommits : BatchCommits results rows v.store) (hemail : email ≠ "")
    (hfirst : (verifiedEmails results rows).head? = some email) :
    ∃ result, enrichEventParticipantTarget ctx order (some participant) request key w =
        .ok result (reportedWorld ctx.rt results rows i email v) ∧
      result.contactCandidate = i ∧ result.verifiedEmail = some email := by
  obtain ⟨hflushes, hend⟩ :=
    (commits_iff ctx.rt (selectedRecords_nodup hrows)).mpr hcommits
  have hverify := (verifyRecords_start (selectedRecords_nodup hrows)).mpr ⟨hflushes, rfl⟩
  obtain ⟨result, hreport, hi, hresult⟩ := reportTarget_run (i := i)
    (u := ⟨(workOff ctx.rt results v.store.reviewCandidates rows
      ⟨v.store, v.store.emailPatterns⟩).store, v.external⟩) hemail
    ((workOff_report ctx.rt results hrows).trans hfirst)
  have hvalid : (reportedWorld ctx.rt results rows i email v).store.constraintsOk = true :=
    reported_constraints.trans hend
  subst horder
  have hrun := (enrich_ok_iff hprepared hids).mpr
    ⟨results, _, hanswers, hverify, hreport, hvalid⟩
  exact ⟨result, hrun, hi, hresult⟩

/-- A report of an address comes from such an order. -/
theorem enrich_reported
    (hprepared : prepareTarget ctx participant request key w = .ok (i, ids) v) (hids : ids ≠ [])
    (hrows : (order (selectedRecords ids v.store)).Perm (selectedRecords ids v.store))
    {result : EventParticipantEnrichResult} {left : DbWorld} {email : String}
    (hrun : enrichEventParticipantTarget ctx order (some participant) request key w =
      .ok result left) (hresult : result.verifiedEmail = some email) :
    ∃ results, ctx.verifier ((order (selectedRecords ids v.store)).map (·.2.email)) =
        .ok results ∧
      BatchCommits results (order (selectedRecords ids v.store)) v.store ∧ email ≠ "" ∧
      (verifiedEmails results (order (selectedRecords ids v.store))).head? = some email ∧
      result.contactCandidate = i ∧
      left = reportedWorld ctx.rt results (order (selectedRecords ids v.store)) i email v := by
  obtain ⟨results, u, hanswers, hverify, hreport, hend⟩ :=
    (enrich_ok_iff hprepared hids).mp hrun
  obtain ⟨hflushes, rfl⟩ := (verifyRecords_start (selectedRecords_nodup hrows)).mp hverify
  obtain ⟨hverified, hne⟩ := reportTarget_ok hreport
  rw [hverified] at hresult
  have hemail : email ≠ "" := by
    rintro rfl
    exact hne hresult
  obtain ⟨result', hreport', hi, -⟩ := reportTarget_run (i := i) hemail hresult
  rw [hreport] at hreport'
  injection hreport' with hresults hleft
  have hworld : left =
      reportedWorld ctx.rt results (order (selectedRecords ids v.store)) i email v := hleft
  have hfirst := (workOff_report ctx.rt results hrows).symm.trans hresult
  rw [hworld] at hend
  have hvalid : (workOff ctx.rt results v.store.reviewCandidates
      (order (selectedRecords ids v.store))
      ⟨v.store, v.store.emailPatterns⟩).store.constraintsOk = true :=
    reported_constraints.symm.trans hend
  exact ⟨results, hanswers,
    (commits_iff ctx.rt (selectedRecords_nodup hrows)).mp ⟨hflushes, hvalid⟩,
    hemail, hfirst, by rw [hresults]; exact hi, hworld⟩

/-- When the rows are those of the candidate's contact, every report is right
exactly when every accepted order ends with the address it begins with. -/
theorem reportsContact_iff
    (hprepared : prepareTarget ctx participant request key w = .ok (i, ids) v)
    (hone : ∀ row ∈ selectedRecords ids v.store,
      row.2.contactId = (v.store.contactCandidates[i]?).bind (·.contactId)) :
    ReportsContact ctx participant request key w ↔ FirstIsLast ctx.verifier ids v.store := by
  constructor
  · intro hreports rows results hrows hanswers hcommits email hemail hfirst
    have hids : ids ≠ [] := by
      rintro rfl
      have hnil : selectedRecords [] v.store = [] := by simp [selectedRecords]
      rw [hnil, List.perm_nil] at hrows
      subst hrows
      cases hfirst
    obtain ⟨candidate, c, contact, hcandidate, hcontact, hstored⟩ :=
      prepareTarget_hasContact hprepared hids
    have hrowsOne : ∀ row ∈ rows, row.2.contactId = some c := by
      intro row hrow
      rw [hone row (hrows.mem_iff.mp hrow), hcandidate]
      exact hcontact
    let order : List (Id × EmailCandidateRecord) → List (Id × EmailCandidateRecord) :=
      fun other => if other = selectedRecords ids v.store then rows else other
    have horder : order (selectedRecords ids v.store) = rows := if_pos rfl
    have hperm : ∀ other, (order other).Perm other := by
      intro other
      by_cases hother : other = selectedRecords ids v.store
      · rw [hother, horder]
        exact hrows
      · have hsame : order other = other := if_neg hother
        rw [hsame]
    obtain ⟨result, hrun, hi, hresult⟩ :=
      enrich_reports hprepared hids hrows horder hanswers hcommits hemail hfirst
    obtain ⟨candidate', c', hcandidate', -, hcontact', hright⟩ :=
      hreports order hperm result _ hrun email hresult
    obtain ⟨hnow, hlast⟩ := reported_contact ctx.rt results email hcandidate hstored
      hrowsOne
    rw [hi, hnow] at hcandidate'
    cases hcandidate'
    obtain rfl : c = c' := Option.some.inj (hcontact.symm.trans hcontact')
    rw [hlast] at hright
    cases hends : (verifiedEmails results rows).getLast? with
    | none =>
      rw [List.getLast?_eq_none_iff.mp hends] at hfirst
      cases hfirst
    | some last =>
      rw [hends] at hright
      exact hright
  · intro hsame order hperm result left hrun email hresult
    have hids : ids ≠ [] := by
      rintro rfl
      rw [enrich_nothing hprepared hrun] at hresult
      cases hresult
    obtain ⟨candidate, c, contact, hcandidate, hcontact, hstored⟩ :=
      prepareTarget_hasContact hprepared hids
    have hrows := hperm (selectedRecords ids v.store)
    have hrowsOne : ∀ row ∈ order (selectedRecords ids v.store), row.2.contactId = some c := by
      intro row hrow
      rw [hone row (hrows.mem_iff.mp hrow), hcandidate]
      exact hcontact
    obtain ⟨results, hanswers, hcommits, hemail, hfirst, hi, rfl⟩ :=
      enrich_reported hprepared hids hrows hrun hresult
    have hlast := hsame _ results hrows hanswers hcommits email hemail hfirst
    obtain ⟨hnow, hright⟩ := reported_contact ctx.rt results email hcandidate hstored
      hrowsOne
    rw [hlast] at hright
    rw [hi]
    exact ⟨_, c, hnow, rfl, hcontact, hright⟩

end Enriching

/-- In a batch of one contact, the address that the contact gets is the same in
every order exactly when all orders that the database accepts end with the same
accepted address; and the address that an enrichment reports is that of the
contact exactly when each of its accepted orders ends with the address it
begins with. Where every order is accepted, this is to say that the accepted
addresses are one. -/
theorem verified_address_iff (rt : Runtime) (results : VerificationResults) {chosen : List Id}
    {c : Id} {start : DbWorld} (hstored : c < start.store.contacts.length)
    (hone : ∀ row ∈ selectedRecords chosen start.store, row.2.contactId = some c)
    {ctx : EnrichContext} {participant : ParticipantSubject}
    {request : EventParticipantEnrichRequest} {key : String} {w v : DbWorld} {i : Id}
    {ids : List Id}
    (hprepared : prepareTarget ctx participant request key w = .ok (i, ids) v)
    (htarget : ∀ row ∈ selectedRecords ids v.store,
      row.2.contactId = (v.store.contactCandidates[i]?).bind (·.contactId)) :
    (OrderFree rt results chosen c start ↔ SameLast results chosen start.store) ∧
      (ReportsContact ctx participant request key w ↔
        FirstIsLast ctx.verifier ids v.store) ∧
      ((∀ rows : List (Id × EmailCandidateRecord),
          rows.Perm (selectedRecords chosen start.store) →
            BatchCommits results rows start.store) →
        (SameLast results chosen start.store ↔
          OneAddress results (selectedRecords chosen start.store))) := by
  refine ⟨orderFree_iff (List.getElem?_eq_getElem hstored) hone,
    reportsContact_iff hprepared htarget, ?_⟩
  intro hall
  exact ⟨oneAddress_of_sameLast hall, sameLast_of_oneAddress⟩

end Calls

/-- A world with one contact and two addresses generated for it. -/
def twoAddresses : DbWorld :=
  { store :=
      { contacts := [{ fullName := "Ada Lovelace" }]
        emailCandidates :=
          [{ contactId := some 0, email := "ada@acme.io", pattern := "{first}"
             idempotencyKey := "k:0:ada@acme.io" },
           { contactId := some 0, email := "lovelace@acme.io", pattern := "{last}"
             idempotencyKey := "k:0:lovelace@acme.io" }] }
    external := {} }

def adaParticipant : ParticipantSubject where
  id := 0
  cyberEventId := 0
  publishedName := "Ada Lovelace"
  reuseState := .allowed
  sourceDefinitionId := some 0
  sourceItemId := some 0

/-- Two addresses for every person; the verifier accepts those given. -/
def acceptingContext (accepted : List String) : EnrichContext where
  rt := { now := 0 }
  tools := { registrableDomain := some, normalizeUrl := .ok, contentHash := id }
  profile := .production
  actor := "analyst"
  generate := fun _ domain _ _ =>
    .ok [("ada@" ++ domain, "{first}"), ("lovelace@" ++ domain, "{last}")]
  verifier := fun _ => .ok { byEmail := accepted.map fun email => (email, { valid := some true }) }

/-- The verifier accepts one of the two addresses: both halves of the claim hold. -/
theorem one_accepted_settled :
    OrderFree { now := 0 } { byId := [(1, { valid := some true })] } [0, 1] 0 twoAddresses ∧
      ReportsContact (acceptingContext ["lovelace@acme.io"]) adaParticipant
        { domain := some "acme.io" } "k" { store := {}, external := {} } := by
  have hanswer : Lib.returned (prepareTarget (acceptingContext ["lovelace@acme.io"])
      adaParticipant { domain := some "acme.io" } "k") { store := {}, external := {} } =
        some (0, [0, 1]) := by decide +kernel
  have hprepared := Lib.run_of_returned hanswer
  have hstored : 0 < twoAddresses.store.contacts.length := by decide
  have hone : ∀ row ∈ selectedRecords [0, 1] twoAddresses.store, row.2.contactId = some 0 := by
    decide +kernel
  have hsettled := verified_address_iff { now := 0 } { byId := [(1, { valid := some true })] }
    hstored hone hprepared (by decide +kernel)
  constructor
  · apply hsettled.1.mpr
    apply sameLast_of_oneAddress
    unfold OneAddress
    decide +kernel
  · apply hsettled.2.1.mpr
    intro rows results hrows hanswers _ email _ hfirst
    have hperm : (verifiedEmails results rows).Perm _ := verifiedEmails_perm hrows
    cases hanswers
    have hselected : verifiedEmails { byEmail := [("lovelace@acme.io", { valid := some true })] }
        (selectedRecords [0, 1] (Lib.after (prepareTarget
          (acceptingContext ["lovelace@acme.io"]) adaParticipant { domain := some "acme.io" } "k")
          { store := {}, external := {} }).store) = ["lovelace@acme.io"] := by decide +kernel
    have hrowsOne := List.perm_singleton.mp (hperm.trans (List.Perm.of_eq hselected))
    rw [hrowsOne] at hfirst ⊢
    exact hfirst

/-- Both addresses are accepted: the contact gets the last one of the order, and
the report names the first. -/
theorem two_addresses_disagree :
    ¬ OrderFree { now := 0 }
        { byId := [(0, { valid := some true }), (1, { valid := some true })] } [0, 1] 0
        twoAddresses ∧
      ¬ ReportsContact (acceptingContext ["ada@acme.io", "lovelace@acme.io"]) adaParticipant
        { domain := some "acme.io" } "k" { store := {}, external := {} } := by
  constructor
  · intro hfree
    let rows := selectedRecords [0, 1] twoAddresses.store
    let results : VerificationResults :=
      { byId := [(0, { valid := some true }), (1, { valid := some true })] }
    have hanswer : Lib.returned (verifyInOrder { now := 0 } results rows) twoAddresses =
        some ⟨⟩ := by decide +kernel
    have hanswer' : Lib.returned (verifyInOrder { now := 0 } results rows.reverse)
        twoAddresses = some ⟨⟩ := by decide +kernel
    have hsame := hfree rows rows.reverse (List.Perm.refl _) (List.reverse_perm _) _ _
      (Lib.run_of_returned hanswer) (Lib.run_of_returned hanswer')
    revert hsame
    decide +kernel
  · intro hreports
    have hanswer : Lib.returned (enrichEventParticipantTarget
        (acceptingContext ["ada@acme.io", "lovelace@acme.io"]) id (some adaParticipant)
        { domain := some "acme.io" } "k") { store := {}, external := {} } =
          some { contactCandidate := 0, emailCandidates := [0, 1]
                 verifiedEmail := some "ada@acme.io" } := by decide +kernel
    have hright := hreports.contact_email (fun _ => List.Perm.refl _)
      (Lib.run_of_returned hanswer) rfl
    revert hright
    decide +kernel

end GhostRecon
