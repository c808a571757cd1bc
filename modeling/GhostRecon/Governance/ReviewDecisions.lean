import GhostRecon.Common.Json
import GhostRecon.Common.Text
import GhostRecon.Lib.Session
import GhostRecon.Store

/-!
Deciding reviews. A decision is made on an open review at the version the decider
has seen; an approval must pass the policy of the review's snapshot. A bulk decision
is one transaction: every review it names is decided, or none.
-/

namespace GhostRecon

open Lib (Id Table query queryOrRaise write after)
open Std.Do

set_option mvcgen.warning false

/-- A review with what the decisions and the queue read of it. -/
structure QueuedReview extends ReviewCandidate where
  id : String
  policySnapshot : Json := .obj []
  policySnapshotHash : Option String := none
  version : Int := 1
  createdAt : Time := 0
  updatedAt : Time := 0

structure ReviewDecision where
  reviewCandidateId : String
  decision : String
  actor : String
  reasonCode : String
  reason : Option String
  policySnapshotHash : String
  idempotencyKey : String
  deriving DecidableEq, Repr

structure ReviewDecisionRequest where
  version : Int
  reasonCode : String
  reason : Option String := none
  policySnapshotHash : Option String := none
  deriving DecidableEq, Repr

/-- The CRM target an approval leaves. -/
structure ApprovedTarget where
  reviewCandidateId : String
  reviewDecisionId : Id
  targetType : String
  targetId : Id
  originType : Option String
  originId : Option String
  sourceDefinitionId : Option Id
  sourceItemIds : List Id
  status : String := "pending_export"
  exportStatus : String := "not_exported"
  policySnapshot : Json
  approvedBy : String
  reasonCode : String

inductive ReviewEventKey where
  /-- `review.approved:<decision>` -/
  | approved (decision : Id)
  /-- `review.rejected:<decision>` -/
  | rejected (decision : Id)
  /-- `crm_target.created:<target>` -/
  | targetCreated (target : Id)
  deriving DecidableEq, Repr

structure ReviewDesk where
  candidates : Table QueuedReview := []
  decisions : Table ReviewDecision := []
  targets : Table ApprovedTarget := []
  outbox : Table ReviewEventKey := []

abbrev ReviewTx (α : Type) := Lib.Tx PyError ReviewDesk Unit α

abbrev ReviewWorld := Lib.World ReviewDesk Unit

def ReviewDesk.constraintsOk (s : ReviewDesk) : Bool :=
  s.candidates.uniqueOn (fun row => some row.id) &&
    s.candidates.uniqueOn (fun row => some row.idempotencyKey) &&
    s.decisions.uniqueOn (fun row => some row.idempotencyKey) &&
    s.targets.uniqueOn (fun row => some row.reviewDecisionId) && s.outbox.uniqueOn some

def reviewFlush : ReviewTx PUnit :=
  Lib.flush ReviewDesk.constraintsOk .integrityError

def reviewScope {α : Type} (body : ReviewTx α) : ReviewTx α :=
  Lib.sessionScope ReviewDesk.constraintsOk .integrityError body

/-- The canonical hash of a snapshot, and the printed form of a value. -/
structure PolicyTools where
  snapshotHash : Json → String
  shown : Json → String

section Policy

variable [Casing] (tools : PolicyTools)

/-- `current_policy_hash`. -/
def currentPolicyHash (candidate : QueuedReview) : String :=
  if truthy candidate.policySnapshotHash then candidate.policySnapshotHash.getD ""
  else tools.snapshotHash candidate.policySnapshot

/-- `str(snapshot.get(key) or "").lower()`. -/
def snapshotText (snapshot : Json) (key : String) : String :=
  lower (((snapshot.get? key).filter Json.truthy).elim "" tools.shown)

def corroborationMethods : List String :=
  ["authoritative_disclosure", "independent_sources", "analyst_decision"]

/-- `snapshot.get(key) is value`. -/
def Json.isBool (value : Bool) : Option Json → Bool
  | some (.bool found) => found == value
  | _ => false

def reviewPolicyBlockers (candidate : QueuedReview) : List String :=
  let snapshot := candidate.policySnapshot
  let reuseState := snapshotText tools snapshot "participant_reuse_state"
  let retentionState := snapshotText tools snapshot "retention_state"
  (if candidate.sourceDefinitionId.isNone || candidate.sourceItemIds.isEmpty then
      ["missing_source_lineage"] else []) ++
    (if reuseState ∈ ["unknown", "prohibited"] then ["participant_reuse_" ++ reuseState]
      else []) ++
    (if Json.isBool true (snapshot.get? "suppressed") ||
        Json.isBool false (snapshot.get? "suppression_allowed") then ["suppression_active"]
      else []) ++
    (if (snapshot.get? "lawful_basis_required").all Json.truthy &&
        !snapshot.flag "lawful_basis" then ["missing_lawful_basis"] else []) ++
    (if retentionState ∈ ["missing", "expired"] then ["retention_" ++ retentionState]
      else []) ++
    (if Json.isBool true (snapshot.get? "stale_evidence") then ["stale_evidence"] else []) ++
    (if candidate.originType = some "security_incident" ∧
        snapshotText tools snapshot "incident_status" ≠ "corroborated" ∧
        snapshotText tools snapshot "corroboration_method" ∉ corroborationMethods then
      ["incident_not_corroborated"] else [])

/-- `_validate_candidate_decision`. -/
def validateCandidateDecision (candidate : QueuedReview) (request : ReviewDecisionRequest) :
    Except PyError Unit :=
  if candidate.status ≠ "open" then .error (.valueError "review candidate is not open")
  else if candidate.version ≠ request.version then
    .error (.valueError "stale optimistic version")
  else if truthy request.policySnapshotHash ∧
      request.policySnapshotHash ≠ some (currentPolicyHash tools candidate) then
    .error (.valueError "policy snapshot hash mismatch")
  else .ok ()

end Policy

section Decisions

variable [Casing] (tools : PolicyTools)

/-- A decision closes the review. -/
def closeReview (id status : String) (now : Time) (s : ReviewDesk) : ReviewDesk :=
  { s with
    candidates := s.candidates.map fun row =>
      if row.id = id then
        { row with status := status, version := row.version + 1, updatedAt := now }
      else row }

def insertDecision (row : ReviewDecision) (s : ReviewDesk) : ReviewDesk :=
  { s with decisions := s.decisions ++ [row] }

def insertTarget (row : ApprovedTarget) (s : ReviewDesk) : ReviewDesk :=
  { s with targets := s.targets ++ [row] }

def announce (key : ReviewEventKey) (s : ReviewDesk) : ReviewDesk :=
  { s with outbox := s.outbox ++ [key] }

/-- What an approval and a rejection share: the decision is recorded and the review
closed. A rejection does not ask the policy. -/
def decideInSession (now : Time) (status : String) (blocked : QueuedReview → List String)
    (candidate : QueuedReview) (request : ReviewDecisionRequest)
    (actor idempotencyKey : String) : ReviewTx (Id × ReviewDecision) := do
  queryOrRaise fun _ => validateCandidateDecision tools candidate request
  if blocked candidate ≠ [] then
    throw (.valueError ("policy blockers: " ++ ", ".intercalate (blocked candidate)))
  let decision : ReviewDecision :=
    { reviewCandidateId := candidate.id
      decision := status
      actor
      reasonCode := request.reasonCode
      reason := request.reason
      policySnapshotHash := tools.snapshotHash candidate.policySnapshot
      idempotencyKey }
  let id ← query (·.decisions.length)
  write (insertDecision decision)
  write (closeReview candidate.id status now)
  reviewFlush
  return (id, decision)

/-- `_create_crm_target`. -/
def targetFor (candidate : QueuedReview) (id : Id) (decision : ReviewDecision) :
    ApprovedTarget where
  reviewCandidateId := candidate.id
  reviewDecisionId := id
  targetType := candidate.targetType
  targetId := candidate.targetId
  originType := candidate.originType
  originId := candidate.originId
  sourceDefinitionId := candidate.sourceDefinitionId
  sourceItemIds := candidate.sourceItemIds
  policySnapshot := candidate.policySnapshot
  approvedBy := decision.actor
  reasonCode := decision.reasonCode

/-- `_approve_review_candidate_in_session`. -/
def approveInSession (now : Time) (candidate : QueuedReview) (request : ReviewDecisionRequest)
    (actor idempotencyKey : String) : ReviewTx ReviewDecision := do
  let (id, decision) ← decideInSession tools now "approved" (reviewPolicyBlockers tools) candidate
    request actor idempotencyKey
  write (announce (.approved id))
  let target ← query (·.targets.length)
  write (insertTarget (targetFor candidate id decision))
  reviewFlush
  write (announce (.targetCreated target))
  return decision

/-- `_reject_review_candidate_in_session`. -/
def rejectInSession (now : Time) (candidate : QueuedReview) (request : ReviewDecisionRequest)
    (actor idempotencyKey : String) : ReviewTx ReviewDecision := do
  let (id, decision) ← decideInSession tools now "rejected" (fun _ => []) candidate request actor
    idempotencyKey
  write (announce (.rejected id))
  return decision

inductive ReviewDecisionAction where
  | approved | rejected
  deriving DecidableEq, Repr

def ReviewDecisionAction.inSession (action : ReviewDecisionAction) (now : Time)
    (candidate : QueuedReview) (request : ReviewDecisionRequest) (actor idempotencyKey : String) :
    ReviewTx ReviewDecision :=
  match action with
  | .approved => approveInSession tools now candidate request actor idempotencyKey
  | .rejected => rejectInSession tools now candidate request actor idempotencyKey

/-- `_existing_decision`. -/
def existingDecision (idempotencyKey : String) (s : ReviewDesk) : Option ReviewDecision :=
  s.decisions.find? (·.idempotencyKey == idempotencyKey)

/-- `approve_review_candidate` and `reject_review_candidate`. -/
def decideReviewCandidate (action : ReviewDecisionAction) (now : Time) (candidateId : String)
    (request : ReviewDecisionRequest) (actor idempotencyKey : String) :
    ReviewTx (Option ReviewDecision) := reviewScope do
  match ← query (existingDecision idempotencyKey) with
  | some existing => return some existing
  | none =>
    match ← query (·.candidates.find? (·.id == candidateId)) with
    | none => return none
    | some candidate =>
      return some (← action.inSession tools now candidate request actor idempotencyKey)

structure BulkReviewDecisionRequest where
  candidateIds : List String
  decision : ReviewDecisionAction
  candidateVersions : List (String × Int)
  reasonCode : String
  reason : Option String := none
  policySnapshotHash : Option String := none

/-- What a bulk decision asks of its reviews together. -/
def checkBulk (request : BulkReviewDecisionRequest) (candidates : List QueuedReview) :
    Except PyError Unit :=
  let hashes := (candidates.map (currentPolicyHash tools)).dedup
  if candidates.length ≠ request.candidateIds.dedup.length then
    .error (.valueError "bulk decision includes unknown review candidate")
  else if (candidates.map (·.candidateType)).dedup.length ≠ 1 then
    .error (.valueError "bulk decision requires one candidate type")
  else if candidates.any (·.status != "open") then
    .error (.valueError "bulk decision only supports open candidates")
  else if hashes.length ≠ 1 then
    .error (.valueError "bulk decision requires one policy snapshot hash")
  else if truthy request.policySnapshotHash ∧ some hashes ≠ request.policySnapshotHash.map ([·])
  then .error (.valueError "bulk decision policy snapshot hash mismatch")
  else .ok ()

/-- The loop of a bulk decision over its reviews. -/
def decideEach (now : Time) (request : BulkReviewDecisionRequest) (actor idempotencyKey : String) :
    List QueuedReview → ReviewTx (List ReviewDecision)
  | [] => return []
  | candidate :: rest => do
    let version ← queryOrRaise fun _ =>
      match request.candidateVersions.lookup candidate.id with
      | some version => .ok version
      | none => .error (.valueError "bulk decision missing candidate version")
    let childKey := idempotencyKey ++ ":" ++ candidate.id
    let decision ←
      match ← query (existingDecision childKey) with
      | some existing => pure existing
      | none =>
        request.decision.inSession tools now candidate
          { version, reasonCode := request.reasonCode, reason := request.reason
            policySnapshotHash := request.policySnapshotHash } actor childKey
    let later ← decideEach now request actor idempotencyKey rest
    return decision :: later

def bulkDecideReviewCandidates (now : Time) (request : BulkReviewDecisionRequest)
    (actor idempotencyKey : String) : ReviewTx (List ReviewDecision) := reviewScope do
  let candidates ← query fun s =>
    s.candidates.filter fun row => decide (row.id ∈ request.candidateIds)
  queryOrRaise fun _ => checkBulk tools request candidates
  decideEach tools now request actor idempotencyKey candidates

/-- One decision call. -/
inductive DecisionCall where
  | decide (action : ReviewDecisionAction) (now : Time) (candidateId : String)
      (request : ReviewDecisionRequest) (actor idempotencyKey : String)
  | bulk (now : Time) (request : BulkReviewDecisionRequest) (actor idempotencyKey : String)

def DecisionCall.run (w : ReviewWorld) : DecisionCall → ReviewWorld
  | .decide action now candidateId request actor key =>
    after (decideReviewCandidate tools action now candidateId request actor key) w
  | .bulk now request actor key => after (bulkDecideReviewCandidates tools now request actor key) w

/-- The reviews a call names. -/
def DecisionCall.names : DecisionCall → List String
  | .decide _ _ candidateId _ _ _ => [candidateId]
  | .bulk _ request _ _ => request.candidateIds

end Decisions

section Closing

/-- A review after a decision call: as it was, or closed by the call that names it. -/
def Closes (names : List String) (row row' : QueuedReview) : Prop :=
  row' = row ∨
    row.id ∈ names ∧ (row'.status = "approved" ∨ row'.status = "rejected") ∧
      row'.id = row.id ∧ row'.createdAt = row.createdAt

/-- The reviews after decision calls that name these. -/
def Decided (names : List String) (rows rows' : Table QueuedReview) : Prop :=
  ∃ after : QueuedReview → QueuedReview, rows' = rows.map after ∧
    ∀ row, Closes names row (after row)

theorem Decided.refl (names : List String) (rows : Table QueuedReview) : Decided names rows rows :=
  ⟨id, by simp, fun _ => Or.inl rfl⟩

theorem Decided.trans {names : List String} {rows rows' rows'' : Table QueuedReview}
    (h : Decided names rows rows') (h' : Decided names rows' rows'') :
    Decided names rows rows'' := by
  obtain ⟨first, rfl, hfirst⟩ := h
  obtain ⟨second, rfl, hsecond⟩ := h'
  refine ⟨second ∘ first, by simp, ?_⟩
  intro row
  show Closes names row (second (first row))
  rcases hsecond (first row) with hsame | ⟨hnamed, hstatus, hid, hcreated⟩
  · rw [hsame]
    exact hfirst row
  · right
    rcases hfirst row with hsame | ⟨-, -, hid', hcreated'⟩
    · rw [hsame] at hnamed hstatus hid hcreated ⊢
      exact ⟨hnamed, hstatus, hid, hcreated⟩
    · rw [hid'] at hnamed hid
      rw [hcreated'] at hcreated
      exact ⟨hnamed, hstatus, hid, hcreated⟩

theorem closeReview_decided {names : List String} {id status : String} {now : Time}
    {s : ReviewDesk} (hnamed : id ∈ names) (hstatus : status = "approved" ∨ status = "rejected") :
    Decided names s.candidates (closeReview id status now s).candidates := by
  refine ⟨_, rfl, ?_⟩
  intro row
  by_cases hid : row.id = id
  · rw [if_pos hid]
    exact Or.inr ⟨hid ▸ hnamed, hstatus, rfl, rfl⟩
  · rw [if_neg hid]
    exact Or.inl rfl

variable [Casing] (tools : PolicyTools)

theorem inSession_decided (action : ReviewDecisionAction) (now : Time) (candidate : QueuedReview)
    (request : ReviewDecisionRequest) (actor key : String) {names : List String}
    (hnamed : candidate.id ∈ names) (rows : Table QueuedReview) :
    ⦃fun w => ⌜Decided names rows w.store.candidates⌝⦄
      action.inSession tools now candidate request actor key
      ⦃post⟨fun _ w => ⌜Decided names rows w.store.candidates⌝, fun _ _ => ⌜True⌝⟩⦄ := by
  have hclosed : ∀ {s : ReviewDesk} {status : String} {row : ReviewDecision},
      Decided names rows s.candidates → (status = "approved" ∨ status = "rejected") →
        Decided names rows
          (closeReview candidate.id status now (insertDecision row s)).candidates := by
    intro s status row hdecided hstatus
    exact hdecided.trans (closeReview_decided (s := insertDecision row s) hnamed hstatus)
  cases action with
  | approved =>
    mvcgen [ReviewDecisionAction.inSession, approveInSession, decideInSession, reviewFlush,
      Lib.flush, Lib.queryOrRaise]
    exact hclosed ‹_› (Or.inl rfl)
  | rejected =>
    mvcgen [ReviewDecisionAction.inSession, rejectInSession, decideInSession, reviewFlush,
      Lib.flush, Lib.queryOrRaise]
    exact hclosed ‹_› (Or.inr rfl)

theorem decideEach_decided (now : Time) (request : BulkReviewDecisionRequest)
    (actor key : String) (candidates : List QueuedReview)
    (hnamed : ∀ candidate ∈ candidates, candidate.id ∈ request.candidateIds)
    (rows : Table QueuedReview) :
    ⦃fun w => ⌜Decided request.candidateIds rows w.store.candidates⌝⦄
      decideEach tools now request actor key candidates
      ⦃post⟨fun _ w => ⌜Decided request.candidateIds rows w.store.candidates⌝,
        fun _ _ => ⌜True⌝⟩⦄ := by
  induction candidates with
  | nil => mvcgen [decideEach]
  | cons candidate rest ih =>
    have hone := fun r k => inSession_decided tools request.decision now candidate r actor k
      (hnamed candidate List.mem_cons_self) rows
    have hrest := ih fun other hother => hnamed other (List.mem_cons_of_mem _ hother)
    mvcgen [decideEach, Lib.queryOrRaise, hone, hrest]

/-- A decision call closes reviews it names and does nothing else to the queue. -/
theorem DecisionCall.run_decided (call : DecisionCall) (w : ReviewWorld) :
    Decided call.names w.store.candidates (call.run tools w).store.candidates := by
  cases call with
  | decide action now candidateId request actor key =>
    refine (Lib.sessionScope_keeps (I := fun s : ReviewDesk =>
      Decided [candidateId] w.store.candidates s.candidates) (Decided.refl _ _) ?_).1
    have hone := fun candidate (hid : candidate.id ∈ [candidateId]) =>
      inSession_decided tools action now candidate request actor key hid w.store.candidates
    mvcgen [hone]
    all_goals subst_vars
    · exact Decided.refl _ _
    · exact Decided.refl _ _
    · next hfound =>
      have hid := List.find?_some hfound
      simpa using hid
    · exact Decided.refl _ _
  | bulk now request actor key =>
    refine (Lib.sessionScope_keeps (I := fun s : ReviewDesk =>
      Decided request.candidateIds w.store.candidates s.candidates) (Decided.refl _ _) ?_).1
    mvcgen [Lib.queryOrRaise, decideEach_decided]
    all_goals subst_vars
    · intro candidate hmem
      simpa using (List.mem_filter.mp hmem).2
    · exact Decided.refl _ _

end Closing

end GhostRecon
