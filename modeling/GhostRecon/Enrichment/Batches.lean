import GhostRecon.Enrichment.Emails

/-!
A verification batch as one pass over its rows, in the order in which the
database returned them. What the batch does with a row follows from the answer
for it and from the reviews that were open before the batch began: the rows of
a batch are different rows, so a review of one is never a review of another.
-/

namespace GhostRecon

open Lib (Id Table query)

variable [Casing]

/-- `verify_email_candidates` on the selected rows in some order, with the
answers at hand. -/
def verifyInOrder (rt : Runtime) (results : VerificationResults)
    (rows : List (Id × EmailCandidateRecord)) : Tx PUnit := sessionScope do
  let visible ← query (·.emailPatterns)
  verifyRecords rt results rows visible

/-- The order of the table is one of them. -/
theorem verifyEmailCandidates_inOrder {rt : Runtime} {request : EmailVerifyBatchRequest}
    {verifier : List String → Except String VerificationResults}
    {results : VerificationResults} {w : DbWorld} (hids : request.candidateIds.isEmpty = false)
    (hresults : verificationResults request verifier w.store = .ok results) :
    verifyEmailCandidates rt request verifier w =
      verifyInOrder rt results (selectedRecords request.candidateIds w.store) w := by
  simp only [verifyEmailCandidates, verifyInOrder, sessionScope, Lib.sessionScope_run,
    Lib.bind_run, Lib.query_run, Lib.queryOrRaise_run, hids, hresults, Except.mapError,
    Bool.false_eq_true, if_false]

/-- The answer for a row. -/
def finding (results : VerificationResults) (row : Id × EmailCandidateRecord) :
    VerificationStatus × Option String :=
  classifyVerificationResult (results.lookup row.1 row.2.email)

/-- The review that an unclear answer asks for. -/
def verificationReview (results : VerificationResults) (row : Id × EmailCandidateRecord) :
    ReviewCandidate :=
  let reasonCode := (finding results row).2.getD "email_verification_review_required"
  { candidateType := "email_verification"
    targetType := "email_candidate"
    targetId := row.1
    originType := row.2.originType
    originId := row.2.originId
    sourceDefinitionId := row.2.sourceDefinitionId
    sourceItemIds := row.2.sourceItemIds
    reasonCode
    reason := "Email verification result requires analyst review."
    idempotencyKey := ("email_verification", row.1, reasonCode) }

/-- Whether the review is among these. -/
def isOpen (reviews : Table ReviewCandidate) (review : ReviewCandidate) : Bool :=
  reviews.any (·.idempotencyKey == review.idempotencyKey)

inductive Verdict where
  | verified | marked | reviewed
  deriving DecidableEq, Repr

/-- What the batch does with a row. -/
def verdict (results : VerificationResults) (reviews : Table ReviewCandidate)
    (row : Id × EmailCandidateRecord) : Verdict :=
  match (finding results row).1 with
  | .verified => .verified
  | .invalid => .marked
  | _ => if isOpen reviews (verificationReview results row) then .marked else .reviewed

/-- The rows of the session, and the patterns that its last flush made visible. -/
structure Batch where
  store : Store
  visible : Table OrganizationEmailPattern

def workOne (rt : Runtime) (results : VerificationResults) (verdict : Verdict)
    (row : Id × EmailCandidateRecord) (batch : Batch) : Batch :=
  let marked := applyUnverified rt.now row.1 row.2 (finding results row).1
    (finding results row).2 batch.store
  match verdict with
  | .verified => { batch with store := applyVerified rt.now batch.visible row.1 row.2 batch.store }
  | .marked => { batch with store := marked }
  | .reviewed =>
    { store := insertReview (verificationReview results row) marked
      visible := marked.emailPatterns }

section Verified

/-- The contact of a verified record takes its address. -/
def readdress (now : Time) (record : EmailCandidateRecord) (contacts : Table Contact) :
    Table Contact :=
  match record.contactId with
  | some c => contacts.modify c fun contact =>
    { contact with email := some record.email, emailStatus := some "verified", updatedAt := now }
  | none => contacts

/-- What `_upsert_email_pattern` does to the patterns. -/
def learn (visible : Table OrganizationEmailPattern) (domain pattern : String) (verifiedAt : Time)
    (patterns : Table OrganizationEmailPattern) : Table OrganizationEmailPattern :=
  match visible.first? (fun row => row.domain == domain && row.pattern == pattern) with
  | some (i, _) => patterns.modify i fun row =>
    { row with
      sampleSize := row.sampleSize + 1
      confidence := max row.confidence 100
      verifiedAt := some verifiedAt }
  | none => patterns ++ [{ domain, pattern, confidence := 100, verifiedAt := some verifiedAt }]

/-- The four tables that a verified record changes. -/
theorem applyVerified_eq {now : Time} {visible : Table OrganizationEmailPattern} {id : Id}
    {record : EmailCandidateRecord} {s : Store} :
    applyVerified now visible id record s =
      { s with
        emailCandidates := s.emailCandidates.modify id fun row =>
          { row with
            verificationStatus := .verified
            verificationCheckedAt := some now
            version := record.version + 1
            reviewStatus := "not_required"
            reviewReason := none }
        contacts := readdress now record s.contacts
        emailPatterns := learn visible (patternDomain record.email) record.pattern now
          s.emailPatterns
        outbox := s.outbox ++
          [{ eventName := .emailVerified
             aggregateType := "email_candidate"
             aggregateId := id
             idempotencyKey := .counted .emailVerified id (record.version + 1) }] } := by
  unfold applyVerified upsertEmailPattern readdress learn enqueueEvent
  dsimp only
  generalize visible.first? (fun row =>
    row.domain == patternDomain record.email && row.pattern == record.pattern) = found
  cases record.contactId <;> cases found <;> rfl

end Verified

section Passes

variable (rt : Runtime) (results : VerificationResults) (reviews : Table ReviewCandidate)

/-- The whole pass. -/
def workOff (rows : List (Id × EmailCandidateRecord)) (batch : Batch) : Batch :=
  rows.foldl (fun batch row => workOne rt results (verdict results reviews row) row batch) batch

theorem workOff_cons (row : Id × EmailCandidateRecord) (rest : List (Id × EmailCandidateRecord))
    (batch : Batch) :
    workOff rt results reviews (row :: rest) batch =
      workOff rt results reviews rest
        (workOne rt results (verdict results reviews row) row batch) := rfl

/-- The database accepts what the session holds at every flush of the pass. -/
def FlushesPass : List (Id × EmailCandidateRecord) → Batch → Prop
  | [], _ => True
  | row :: rest, batch =>
    let batch' := workOne rt results (verdict results reviews row) row batch
    (verdict results reviews row = .reviewed → batch'.store.constraintsOk = true) ∧
      FlushesPass rest batch'

end Passes

section Reviews

variable {rt : Runtime} {results : VerificationResults} {reviews : Table ReviewCandidate}
  {row : Id × EmailCandidateRecord} {batch : Batch}

omit [Casing] in
theorem first?_isOpen {review : ReviewCandidate} :
    (reviews.first? (·.idempotencyKey == review.idempotencyKey)).isSome = isOpen reviews review := by
  unfold isOpen
  cases hfirst : reviews.first? (·.idempotencyKey == review.idempotencyKey) with
  | none =>
    symm
    rw [Option.isSome_none, List.any_eq_false]
    intro old hold
    rw [Table.first?_none.mp hfirst old hold]
    exact Bool.false_ne_true
  | some found =>
    obtain ⟨hold, hkey⟩ := Table.first?_some hfirst
    symm
    rw [Option.isSome_some, List.any_eq_true]
    exact ⟨found.2, List.mem_of_getElem? hold, hkey⟩

/-- A row that is worked off opens no review of another row. -/
theorem isOpen_workOne {v : Verdict} {other : Id × EmailCandidateRecord}
    (hother : other.1 ≠ row.1) :
    isOpen (workOne rt results v row batch).store.reviewCandidates
        (verificationReview results other) =
      isOpen batch.store.reviewCandidates (verificationReview results other) := by
  cases v with
  | verified =>
    simp only [workOne, applyVerified_eq]
  | marked => rfl
  | reviewed =>
    have hkey : (verificationReview results row).idempotencyKey ≠
        (verificationReview results other).idempotencyKey := by
      intro hsame
      have hid : row.1 = other.1 := congrArg (fun key : String × Id × String => key.2.1) hsame
      exact hother hid.symm
    show isOpen (batch.store.reviewCandidates ++ [verificationReview results row]) _ = _
    unfold isOpen
    rw [List.any_append, List.any_cons, List.any_nil, beq_eq_false_iff_ne.mpr hkey]
    simp

end Reviews

section Runs

variable {rt : Runtime} {results : VerificationResults} {reviews : Table ReviewCandidate}

/-- Asking for a review: one is open already, or it is opened and the session
flushed. -/
theorem requestReview_run (results : VerificationResults) (row : Id × EmailCandidateRecord)
    (w : DbWorld) :
    requestReview "email_verification" "email_candidate" row.1 row.2.originType row.2.originId
        row.2.sourceDefinitionId row.2.sourceItemIds
        ((finding results row).2.getD "email_verification_review_required")
        "Email verification result requires analyst review." w =
      let opened := insertReview (verificationReview results row) w.store
      if isOpen w.store.reviewCandidates (verificationReview results row) then .ok false w
      else if opened.constraintsOk then .ok true { w with store := opened }
      else .error .integrityError { w with store := opened } := by
  rw [← first?_isOpen]
  unfold requestReview
  rw [Lib.bind_run, Lib.query_run]
  have hkey : (verificationReview results row).idempotencyKey = ("email_verification", row.1,
    (finding results row).2.getD "email_verification_review_required") := rfl
  rw [hkey]
  dsimp only
  cases hfirst : w.store.reviewCandidates.first? (·.idempotencyKey == ("email_verification",
      row.1, (finding results row).2.getD "email_verification_review_required")) with
  | some found => rfl
  | none =>
    simp only [Lib.bind_run, Lib.write_run, flush, Lib.flush_run, Lib.pure_run,
      Option.isSome_none, Bool.false_eq_true, if_false]
    simp only [verificationReview]
    split
    · next hrun =>
      split at hrun
      · next hvalid =>
        cases hrun
        exact (if_pos hvalid).symm
      · cases hrun
    · next hrun =>
      split at hrun
      · cases hrun
      · next hvalid =>
        cases hrun
        exact (if_neg hvalid).symm

/-- One row: the pass of the code goes on from the batch that the row leaves,
unless a flush on the way is refused. -/
theorem verifyRecords_cons_run {row : Id × EmailCandidateRecord}
    {rest : List (Id × EmailCandidateRecord)} {batch : Batch} {external : External}
    (hopen : isOpen batch.store.reviewCandidates (verificationReview results row) =
      isOpen reviews (verificationReview results row)) :
    verifyRecords rt results (row :: rest) batch.visible ⟨batch.store, external⟩ =
      let batch' := workOne rt results (verdict results reviews row) row batch
      if verdict results reviews row = .reviewed ∧ batch'.store.constraintsOk = false then
        .error .integrityError ⟨batch'.store, external⟩
      else verifyRecords rt results rest batch'.visible ⟨batch'.store, external⟩ := by
  have hasked := requestReview_run results row
    ⟨applyUnverified rt.now row.1 row.2 (finding results row).1 (finding results row).2
      batch.store, external⟩
  rw [show (applyUnverified rt.now row.1 row.2 (finding results row).1 (finding results row).2
    batch.store).reviewCandidates = batch.store.reviewCandidates from rfl, hopen] at hasked
  obtain ⟨id, record⟩ := row
  have hseen : classifyVerificationResult (results.lookup id record.email) =
      finding results (id, record) := rfl
  rw [verifyRecords, hseen]
  unfold verdict
  unfold workOne
  cases hfinding : finding results (id, record) with
  | mk status reason =>
  rw [hfinding] at hasked
  cases status with
  | verified =>
    simp only [Lib.bind_run, Lib.write_run]
    rw [if_neg (by simp)]
  | invalid =>
    simp only [Lib.bind_run, Lib.write_run, if_true]
    rw [if_neg (by simp)]
  | _ =>
    simp only [Lib.bind_run, Lib.write_run, reduceCtorEq, if_false]
    rw [hasked]
    cases isOpen reviews (verificationReview results (id, record)) with
    | true => simp [Lib.query_run]
    | false =>
      dsimp only
      simp only [Bool.false_eq_true, if_false, true_and, Lib.query_run]
      split
      · next hrun =>
        split at hrun
        · next hvalid =>
          cases hrun
          rw [hvalid, if_neg (Ne.symm Bool.false_ne_true)]
          rfl
        · cases hrun
      · next hrun =>
        split at hrun
        · cases hrun
        · next hinvalid =>
          cases hrun
          rw [if_pos (Bool.eq_false_iff.mpr hinvalid)]

/-- The pass of the code and the pass over the verdicts: one returns when the
other has all its flushes accepted, and they leave the same store. -/
theorem verifyRecords_run {rows : List (Id × EmailCandidateRecord)} {batch : Batch}
    {external : External} {w' : DbWorld} (hids : (rows.map Prod.fst).Nodup)
    (hopen : ∀ row ∈ rows,
      isOpen batch.store.reviewCandidates (verificationReview results row) =
        isOpen reviews (verificationReview results row)) :
    verifyRecords rt results rows batch.visible ⟨batch.store, external⟩ = .ok ⟨⟩ w' ↔
      FlushesPass rt results reviews rows batch ∧
        w' = ⟨(workOff rt results reviews rows batch).store, external⟩ := by
  induction rows generalizing batch with
  | nil =>
    rw [verifyRecords, Lib.pure_run]
    simp only [FlushesPass, workOff, List.foldl_nil, true_and, EStateM.Result.ok.injEq]
    exact eq_comm
  | cons row rest ih =>
    rw [verifyRecords_cons_run (hopen row List.mem_cons_self)]
    obtain ⟨hrow, hrest⟩ := List.nodup_cons.mp hids
    have hlater : ∀ other ∈ rest,
        isOpen (workOne rt results (verdict results reviews row) row
            batch).store.reviewCandidates (verificationReview results other) =
          isOpen reviews (verificationReview results other) := by
      intro other hother
      rw [isOpen_workOne, hopen other (List.mem_cons_of_mem _ hother)]
      intro hsame
      exact hrow (List.mem_map.mpr ⟨other, hother, hsame⟩)
    have hnext := ih hrest hlater
    dsimp only
    split
    · next hrefused =>
      constructor
      · intro herror
        cases herror
      · rintro ⟨⟨hflush, -⟩, -⟩
        rw [hflush hrefused.1] at hrefused
        exact absurd hrefused.2.symm Bool.false_ne_true
    · next haccepted =>
      have hflush : verdict results reviews row = .reviewed →
          (workOne rt results (verdict results reviews row) row batch).store.constraintsOk =
            true := by
        intro hreviewed
        by_contra hinvalid
        exact haccepted ⟨hreviewed, Bool.eq_false_iff.mpr hinvalid⟩
      rw [hnext]
      constructor
      · rintro ⟨hflushes, hstore⟩
        exact ⟨⟨hflush, hflushes⟩, hstore⟩
      · rintro ⟨⟨-, hflushes⟩, hstore⟩
        exact ⟨hflushes, hstore⟩

/-- The pass of the code at the start of a session, when all its rows are seen. -/
theorem verifyRecords_start {rows : List (Id × EmailCandidateRecord)} {w w' : DbWorld}
    (hids : (rows.map Prod.fst).Nodup) :
    verifyRecords rt results rows w.store.emailPatterns w = .ok ⟨⟩ w' ↔
      let start : Batch := ⟨w.store, w.store.emailPatterns⟩
      FlushesPass rt results w.store.reviewCandidates rows start ∧
        w' = ⟨(workOff rt results w.store.reviewCandidates rows start).store, w.external⟩ := by
  let start : Batch := ⟨w.store, w.store.emailPatterns⟩
  show verifyRecords rt results rows start.visible ⟨start.store, w.external⟩ = _ ↔ _
  exact verifyRecords_run hids fun _ _ => rfl

/-- The call commits exactly when its flushes and what it leaves are accepted. -/
theorem verifyInOrder_run {rows : List (Id × EmailCandidateRecord)} {w w' : DbWorld}
    (hids : (rows.map Prod.fst).Nodup) :
    verifyInOrder rt results rows w = .ok ⟨⟩ w' ↔
      let start : Batch := ⟨w.store, w.store.emailPatterns⟩
      let left := workOff rt results w.store.reviewCandidates rows start
      FlushesPass rt results w.store.reviewCandidates rows start ∧
        left.store.constraintsOk = true ∧ w' = ⟨left.store, w.external⟩ := by
  unfold verifyInOrder sessionScope
  rw [Lib.sessionScope_run, Lib.bind_run, Lib.query_run]
  dsimp only
  constructor
  · intro hok
    split at hok
    · next inner hinner =>
      obtain ⟨hflushes, hleft⟩ := (verifyRecords_start hids).mp hinner
      split at hok
      · next hvalid =>
        cases hok
        rw [hleft] at hvalid
        exact ⟨hflushes, hvalid, hleft⟩
      · cases hok
    · cases hok
  · rintro ⟨hflushes, hvalid, rfl⟩
    have hinner := (verifyRecords_start hids).mpr ⟨hflushes, rfl⟩
    rw [hinner]
    exact if_pos hvalid

end Runs

end GhostRecon
