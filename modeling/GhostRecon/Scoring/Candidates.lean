import GhostRecon.Enrichment.Contacts

/-!
Scoring a candidate and queueing it for review. A score weighs five components
and is rejected outright when a policy blocker applies; any other score leaves a
review candidate behind that carries the policy snapshot of the request.
Governance looks for blockers again before it approves, in the snapshot alone.
-/

namespace GhostRecon.Scoring

open Lib (Id Table query queryOrRaise write)

set_option mvcgen.warning false

structure ComponentScores where
  fit : Int
  relevance : Int
  recency : Int
  confidence : Int
  evidence : Int
  deriving DecidableEq, Repr

/-- What scoring takes from the host: reading a text as an integer, the printed
form of a value, the rounded weighted sum of the components in floating point
and the digest of a snapshot. -/
structure ScoringTools where
  intOfText : String → Option Int
  str : Json → String
  weigh : ComponentScores → Int
  snapshotHash : Json → String

structure CandidateScoreRequest where
  targetType : String
  targetId : Id
  originType : Option OriginType := none
  originId : Option String := none
  account : Json := .obj []
  contact : Option Json := none
  signals : List Json := []
  evidence : Json := .obj []
  sourceDefinitionId : Option Id := none
  sourceItemIds : List Id := []
  policySnapshot : Json := .obj []

inductive CandidateScoreRoute where
  | rejected | needsReview | crmTargetReview
  deriving DecidableEq, Repr

structure CandidateScore where
  targetType : String
  targetId : Id
  originType : Option OriginType
  originId : Option String
  sourceDefinitionId : Option Id
  sourceItemIds : List Id
  components : ComponentScores
  policyBlockers : List String
  compositeScore : Int
  route : CandidateScoreRoute
  policySnapshot : Json
  policySnapshotHash : String
  idempotencyKey : String

inductive ReviewStatus where
  | open | approved | rejected
  deriving DecidableEq, Repr

/-- A row of the review queue with what governance reads of it. -/
structure ReviewCandidate where
  candidateType : String
  targetType : String
  targetId : Id
  originType : Option OriginType
  originId : Option String
  sourceDefinitionId : Option Id
  sourceItemIds : List Id
  status : ReviewStatus := .open
  reasonCode : String
  policySnapshot : Json
  policySnapshotHash : Option String
  /-- `review:scoring:<score>:<reason code>` -/
  idempotencyKey : Id × String
  version : Nat := 1

inductive ScoringEventKey where
  /-- `lead.scored:<score>` -/
  | leadScored (score : Id)
  /-- `approval.requested:<review>` -/
  | approvalRequested (review : Id)
  deriving DecidableEq, Repr

structure ScoringStore where
  scores : Table CandidateScore := []
  reviews : Table ReviewCandidate := []
  outbox : Table ScoringEventKey := []

/-- The declared unique constraints. -/
def ScoringStore.constraintsOk (s : ScoringStore) : Bool :=
  s.scores.uniqueOn (fun row => some row.idempotencyKey) &&
    s.reviews.uniqueOn (fun row => some row.idempotencyKey) && s.outbox.uniqueOn some

abbrev ScoringTx (α : Type) := Lib.Tx PyError ScoringStore PUnit α

abbrev ScoringWorld := Lib.World ScoringStore PUnit

section Components

variable (tools : ScoringTools)

/-- `_optional_int`: only `OverflowError` escapes. -/
def optionalInt (value : Option Json) (default : Option Int) : Except PyError (Option Int) :=
  match value with
  | none | some .null => .ok default
  | some value =>
    match value.toInt tools.intOfText with
    | .ok number => .ok (some number)
    | .error .overflowError => .error (.conversionError .overflowError)
    | .error _ => .ok default

/-- `_int_or_default`. -/
def intOrDefault (value : Option Json) : Except PyError Int :=
  (optionalInt tools value (some 0)).map (·.getD 0)

/-- `_clamp`. -/
def clamp (value : Int) : Int :=
  min (max value 0) 100

/-- `value in {...}` for a set of texts: a list or an object cannot be hashed. -/
def inTexts (value : Option Json) (texts : List String) : Except PyError Bool :=
  match value with
  | some (.str text) => .ok (text ∈ texts)
  | some (.arr _) | some (.obj _) => .error (.conversionError .typeError)
  | _ => .ok false

def fitScore (request : CandidateScoreRequest) : Except PyError Int := do
  let account := request.account
  let contact := request.contact.getD (.obj [])
  let employees ← intOrDefault tools (account.get? "employee_count")
  let inScope ← inTexts (contact.get? "role_scope") ["security", "it", "risk", "communications"]
  return (if account.flag "named_account_flag" then 30 else 0) +
    (if employees ≥ 250 then 20 else 0) +
    (if account.flag "security_stack" || account.flag "tech_stack" then 20 else 0) +
    (if account.flag "industry" then 15 else 0) + (if inScope then 15 else 0)

/-- The strengths of the signals, each cut to twenty. -/
def signalScore : List Json → Except PyError Int
  | [] => .ok 0
  | signal :: rest => do
    let strength ← intOrDefault tools (signal.get? "signal_strength")
    return min (max strength 0) 20 + (← signalScore rest)

def relevanceScore (request : CandidateScoreRequest) : Except PyError Int := do
  let origin : Int :=
    match request.originType with
    | some .securityIncident => 35
    | some .cyberEvent | some .eventParticipant => 25
    | _ => 0
  let context : Int :=
    if request.evidence.flag "attack_vector" || request.evidence.flag "incident_type" then 25
    else 0
  return origin + context + (← signalScore tools request.signals)

def confidenceScore (request : CandidateScoreRequest) : Except PyError Int := do
  let contact := request.contact.getD (.obj [])
  let evidence ← intOrDefault tools (request.evidence.get? "confidence")
  let account ← intOrDefault tools (request.account.get? "source_confidence")
  let person ← intOrDefault tools (contact.get? "source_confidence")
  return max (max evidence account) person

def evidenceScore (request : CandidateScoreRequest) : Except PyError Int := do
  let independent ← intOrDefault tools (request.evidence.get? "independent_source_count")
  return (if request.evidence.flag "authoritative" then 60 else 0) +
    (if independent ≥ 2 then 50 else if independent = 1 then 25 else 0) +
    (if request.evidence.flag "evidence_ids" || !request.sourceItemIds.isEmpty then 20 else 0)

/-- `evidence_freshness_days`, when it is a number. -/
def freshnessDays (request : CandidateScoreRequest) : Except PyError (Option Int) :=
  optionalInt tools (request.evidence.get? "evidence_freshness_days") none

def recencyScore (request : CandidateScoreRequest) : Except PyError Int := do
  match ← freshnessDays tools request with
  | none => return 30
  | some days =>
    return if days ≤ 7 then 100 else if days ≤ 30 then 75 else if days ≤ 90 then 45 else 10

/-- `_component_scores`. -/
def componentScores (request : CandidateScoreRequest) : Except PyError ComponentScores := do
  let fit ← fitScore tools request
  let relevance ← relevanceScore tools request
  let confidence ← confidenceScore tools request
  let evidence ← evidenceScore tools request
  let recency ← recencyScore tools request
  return {
    fit := clamp fit
    relevance := clamp relevance
    recency := clamp recency
    confidence := clamp confidence
    evidence := clamp evidence }

end Components

section Blockers

variable [Casing] (tools : ScoringTools)

/-- `str(value or "")`. -/
def textOf (value : Option Json) : String :=
  match value with
  | some value => if value.truthy then tools.str value else ""
  | none => ""

/-- The value under a key when it is true, else the other one. -/
def valueOr (value : Json) (key : String) (other : Option Json) : Option Json :=
  if value.flag key then value.get? key else other

/-- A candidate without a source or without items has no lineage. -/
def lineageBlocker (source : Option Id) (items : List Id) : List String :=
  if source.isNone || items.isEmpty then ["missing_source_lineage"] else []

def reuseBlocker (snapshot : Json) : List String :=
  let state := lower (textOf tools (snapshot.get? "participant_reuse_state"))
  if state ∈ ["unknown", "prohibited"] then ["participant_reuse_" ++ state] else []

/-- `value is True` and `value is False`. -/
def isBool (value : Option Json) (expected : Bool) : Bool :=
  match value with
  | some (.bool found) => found == expected
  | _ => false

def suppressionBlocker (snapshot : Json) : List String :=
  if isBool (snapshot.get? "suppressed") true ||
      isBool (snapshot.get? "suppression_allowed") false then ["suppression_active"]
  else []

/-- The basis is required unless the snapshot says otherwise. -/
def lawfulBasisBlocker (snapshot : Json) : List String :=
  if (snapshot.get? "lawful_basis_required").all Json.truthy && !snapshot.flag "lawful_basis"
  then ["missing_lawful_basis"] else []

def retentionBlocker (snapshot : Json) : List String :=
  let state := lower (textOf tools (snapshot.get? "retention_state"))
  if state ∈ ["missing", "expired"] then ["retention_" ++ state] else []

/-- `CORROBORATION_METHODS`. -/
def corroborationMethods : List String :=
  ["authoritative_disclosure", "independent_sources", "analyst_decision"]

/-- `int(snapshot.get("max_evidence_age_days") or 90)`. -/
def maxEvidenceAge (snapshot : Json) : Except PyError Int :=
  match valueOr snapshot "max_evidence_age_days" none with
  | none => .ok 90
  | some value => (value.toInt tools.intOfText).mapError .conversionError

/-- `policy_blockers_for_score`: the corroboration may stand in the snapshot or
in the evidence. -/
def policyBlockersForScore (request : CandidateScoreRequest) : Except PyError (List String) := do
  let snapshot := request.policySnapshot
  let maxAge ← maxEvidenceAge tools snapshot
  let freshness ← freshnessDays tools request
  let stale := isBool (snapshot.get? "stale_evidence") true || freshness.any (maxAge < ·)
  let status := textOf tools (valueOr snapshot "incident_status"
    (request.evidence.get? "incident_status"))
  let method := textOf tools (valueOr snapshot "corroboration_method"
    (request.evidence.get? "corroboration_method"))
  return lineageBlocker request.sourceDefinitionId request.sourceItemIds ++
    reuseBlocker tools snapshot ++ suppressionBlocker snapshot ++ lawfulBasisBlocker snapshot ++
    retentionBlocker tools snapshot ++ (if stale then ["stale_evidence"] else []) ++
    (if request.originType = some .securityIncident ∧ status ≠ "corroborated" ∧
        method ∉ corroborationMethods then ["incident_not_corroborated"] else [])

/-- The snapshot itself names the corroboration of the incident. -/
def snapshotCorroborates (snapshot : Json) : Bool :=
  lower (textOf tools (snapshot.get? "incident_status")) == "corroborated" ||
    decide (lower (textOf tools (snapshot.get? "corroboration_method")) ∈ corroborationMethods)

/-- `review_policy_blockers`: the corroboration has to stand in the snapshot. -/
def reviewPolicyBlockers (candidate : ReviewCandidate) : List String :=
  let snapshot := candidate.policySnapshot
  lineageBlocker candidate.sourceDefinitionId candidate.sourceItemIds ++
    reuseBlocker tools snapshot ++ suppressionBlocker snapshot ++ lawfulBasisBlocker snapshot ++
    retentionBlocker tools snapshot ++
    (if isBool (snapshot.get? "stale_evidence") true then ["stale_evidence"] else []) ++
    (if candidate.originType = some .securityIncident ∧
        snapshotCorroborates tools snapshot = false then ["incident_not_corroborated"] else [])

end Blockers

section Scores

variable [Casing] (tools : ScoringTools)

/-- `_route_for_score`. -/
def routeForScore (score : Int) (blockers : List String) : CandidateScoreRoute :=
  if blockers ≠ [] ∨ score < 40 then .rejected
  else if score < 70 then .needsReview
  else .crmTargetReview

/-- `score_candidate_preview`, with the row that is stored of it. -/
def scoreCandidatePreview (request : CandidateScoreRequest) (idempotencyKey : String) :
    Except PyError CandidateScore := do
  let components ← componentScores tools request
  let blockers ← policyBlockersForScore tools request
  return {
    targetType := request.targetType
    targetId := request.targetId
    originType := request.originType
    originId := request.originId
    sourceDefinitionId := request.sourceDefinitionId
    sourceItemIds := request.sourceItemIds
    components := components
    policyBlockers := blockers
    compositeScore := tools.weigh components
    route := routeForScore (tools.weigh components) blockers
    policySnapshot := request.policySnapshot
    policySnapshotHash := tools.snapshotHash request.policySnapshot
    idempotencyKey := idempotencyKey }

def CandidateScoreRoute.reasonCode : CandidateScoreRoute → String
  | .crmTargetReview => "score_ready_for_crm_target_review"
  | .needsReview | .rejected => "score_requires_review"

/-- The row `_request_score_review` inserts. -/
def scoreReview (scoreId : Id) (score : CandidateScore) : ReviewCandidate where
  candidateType := "scoring"
  targetType := score.targetType
  targetId := score.targetId
  originType := score.originType
  originId := score.originId
  sourceDefinitionId := score.sourceDefinitionId
  sourceItemIds := score.sourceItemIds
  reasonCode := score.route.reasonCode
  policySnapshot := score.policySnapshot
  policySnapshotHash := some score.policySnapshotHash
  idempotencyKey := (scoreId, score.route.reasonCode)

def flush : ScoringTx PUnit :=
  Lib.flush ScoringStore.constraintsOk .integrityError

def ScoringStore.insertScore (s : ScoringStore) (score : CandidateScore) : ScoringStore :=
  { s with scores := s.scores ++ [score] }

def ScoringStore.insertReview (s : ScoringStore) (review : ReviewCandidate) : ScoringStore :=
  { s with reviews := s.reviews ++ [review] }

def ScoringStore.enqueue (s : ScoringStore) (key : ScoringEventKey) : ScoringStore :=
  { s with outbox := s.outbox ++ [key] }

/-- `_request_score_review`. -/
def requestScoreReview (scoreId : Id) (score : CandidateScore) : ScoringTx PUnit := do
  let review := scoreReview scoreId score
  match ← query (·.reviews.first? (·.idempotencyKey == review.idempotencyKey)) with
  | some _ => return
  | none =>
    let id ← query (·.reviews.length)
    write (·.insertReview review)
    flush
    write (·.enqueue (.approvalRequested id))

def createCandidateScore (request : CandidateScoreRequest) (idempotencyKey : String) :
    ScoringTx Id := Lib.sessionScope ScoringStore.constraintsOk .integrityError do
  match ← query (·.scores.first? (·.idempotencyKey == idempotencyKey)) with
  | some (existing, _) => return existing
  | none =>
    let score ← queryOrRaise fun _ => scoreCandidatePreview tools request idempotencyKey
    let id ← query (·.scores.length)
    write (·.insertScore score)
    flush
    write (·.enqueue (.leadScored id))
    if score.route ≠ .rejected then
      requestScoreReview id score
    return id

end Scores

section Agreement

variable [Casing] (tools : ScoringTools)

open Lib (after)

/-- The review candidates a call stores. -/
def newReviews (request : CandidateScoreRequest) (key : String) (w : ScoringWorld) :
    List ReviewCandidate :=
  (after (createCandidateScore tools request key) w).store.reviews.drop w.store.reviews.length

/-- The request is scored, without a blocker and high enough for the queue. -/
def Queued (request : CandidateScoreRequest) : Prop :=
  ∃ components, componentScores tools request = .ok components ∧
    policyBlockersForScore tools request = .ok [] ∧ 40 ≤ tools.weigh components

variable {tools}

omit [Casing] in
theorem routeForScore_rejected_iff {score : Int} {blockers : List String} :
    routeForScore score blockers = .rejected ↔ blockers ≠ [] ∨ score < 40 := by
  unfold routeForScore
  split
  · next h => simp [h]
  · next h =>
    split <;> simp [h]

/-- The stored score of a request. -/
theorem scoreCandidatePreview_ok {request : CandidateScoreRequest} {key : String}
    {score : CandidateScore} (h : scoreCandidatePreview tools request key = .ok score) :
    componentScores tools request = .ok score.components ∧
      policyBlockersForScore tools request = .ok score.policyBlockers ∧
      score.route = routeForScore (tools.weigh score.components) score.policyBlockers ∧
      score.originType = request.originType ∧
      score.sourceDefinitionId = request.sourceDefinitionId ∧
      score.sourceItemIds = request.sourceItemIds ∧
      score.policySnapshot = request.policySnapshot := by
  unfold scoreCandidatePreview at h
  cases hcomponents : componentScores tools request with
  | error e => simp [hcomponents, bind, Except.bind] at h
  | ok components =>
    cases hblockers : policyBlockersForScore tools request with
    | error e => simp [hcomponents, hblockers, bind, Except.bind] at h
    | ok blockers =>
      simp only [hcomponents, hblockers, bind, Except.bind, pure, Except.pure,
        Except.ok.injEq] at h
      subst h
      exact ⟨rfl, rfl, rfl, rfl, rfl, rfl, rfl⟩

theorem queued_of_preview {request : CandidateScoreRequest} {key : String}
    {score : CandidateScore} (h : scoreCandidatePreview tools request key = .ok score)
    (hroute : score.route ≠ .rejected) : Queued tools request := by
  obtain ⟨hcomponents, hblockers, hrouted, -⟩ := scoreCandidatePreview_ok h
  rw [hrouted, Ne, routeForScore_rejected_iff, not_or, not_not, not_lt] at hroute
  rw [hroute.1] at hblockers
  exact ⟨score.components, hcomponents, hblockers, hroute.2⟩

theorem Queued.preview {request : CandidateScoreRequest} (h : Queued tools request)
    (key : String) : ∃ score, scoreCandidatePreview tools request key = .ok score ∧
      score.route ≠ .rejected := by
  obtain ⟨components, hcomponents, hblockers, hscore⟩ := h
  cases hpreview : scoreCandidatePreview tools request key with
  | error e =>
    simp [scoreCandidatePreview, hcomponents, hblockers, bind, Except.bind, pure,
      Except.pure] at hpreview
  | ok score =>
    obtain ⟨hstored, hclear, hroute, -⟩ := scoreCandidatePreview_ok hpreview
    rw [hcomponents, Except.ok.injEq] at hstored
    rw [hblockers, Except.ok.injEq] at hclear
    refine ⟨score, rfl, ?_⟩
    rw [hroute, Ne, routeForScore_rejected_iff, ← hstored, ← hclear]
    simpa using hscore

/-- A call stores the review of a score that is not rejected, or none. -/
theorem createCandidateScore_reviews (request : CandidateScoreRequest) (key : String)
    (w : ScoringWorld) :
    newReviews tools request key w = [] ∨
      ∃ id score, scoreCandidatePreview tools request key = .ok score ∧
        score.route ≠ .rejected ∧ newReviews tools request key w = [scoreReview id score] := by
  let grown : ScoringStore → Prop := fun s =>
    s.reviews = w.store.reviews ∨
      ∃ id score, scoreCandidatePreview tools request key = .ok score ∧
        score.route ≠ .rejected ∧ s.reviews = w.store.reviews ++ [scoreReview id score]
  have hkept : grown (after (createCandidateScore tools request key) w).store := by
    refine (Lib.sessionScope_keeps (I := grown) (Or.inl rfl) ?_).1
    mvcgen [requestScoreReview, flush, Lib.flush, Lib.queryOrRaise]
    all_goals subst_vars
    all_goals first
      | exact Or.inl rfl
      | exact Or.inr ⟨_, _, ‹_›, ‹_›, rfl⟩
  unfold newReviews
  rcases hkept with hsame | ⟨id, score, hpreview, hroute, hgrown⟩
  · left
    rw [hsame, List.drop_length]
  · right
    refine ⟨id, score, hpreview, hroute, ?_⟩
    rw [hgrown, List.drop_left]

/-- In an empty queue the review of a score that is not rejected is stored. -/
theorem createCandidateScore_empty {request : CandidateScoreRequest} {key : String}
    {score : CandidateScore} (h : scoreCandidatePreview tools request key = .ok score)
    (hroute : score.route ≠ .rejected) :
    newReviews tools request key ⟨{}, PUnit.unit⟩ = [scoreReview 0 score] := by
  have hnone : ∀ {ρ : Type} (p : ρ → Bool), Table.first? ([] : Table ρ) p = none := fun _ => rfl
  unfold newReviews after createCandidateScore
  simp only [Lib.sessionScope_run, Lib.bind_run, Lib.query_run, Lib.queryOrRaise_run,
    Lib.write_run, flush, Lib.flush_run, requestScoreReview, hnone, h, if_pos hroute,
    Lib.pure_run, ScoringStore.insertScore, ScoringStore.insertReview, ScoringStore.enqueue,
    ScoringStore.constraintsOk]
  simp [Lib.Table.uniqueOn, hnone, Lib.bind_run, Lib.query_run, Lib.write_run, Lib.flush_run,
    ScoringStore.constraintsOk]

/-- What scoring lets through governance blocks only for an incident whose
corroboration does not stand in the snapshot. -/
theorem reviewPolicyBlockers_nil_iff {request : CandidateScoreRequest}
    (hclear : policyBlockersForScore tools request = .ok []) {review : ReviewCandidate}
    (horigin : review.originType = request.originType)
    (hsource : review.sourceDefinitionId = request.sourceDefinitionId)
    (hitems : review.sourceItemIds = request.sourceItemIds)
    (hsnapshot : review.policySnapshot = request.policySnapshot) :
    reviewPolicyBlockers tools review = [] ↔
      (request.originType = some .securityIncident →
        snapshotCorroborates tools request.policySnapshot = true) := by
  unfold policyBlockersForScore at hclear
  cases hage : maxEvidenceAge tools request.policySnapshot with
  | error e => simp [hage, bind, Except.bind] at hclear
  | ok maxAge =>
    cases hfresh : freshnessDays tools request with
    | error e => simp [hage, hfresh, bind, Except.bind] at hclear
    | ok freshness =>
      simp only [hage, hfresh, bind, Except.bind, pure, Except.pure, Except.ok.injEq,
        List.append_eq_nil_iff] at hclear
      obtain ⟨⟨⟨⟨⟨⟨hlineage, hreuse⟩, hsuppression⟩, hbasis⟩, hretention⟩, hstale⟩, -⟩ := hclear
      have hnotStale : isBool (request.policySnapshot.get? "stale_evidence") true = false := by
        by_contra htrue
        simp [Bool.not_eq_false _ ▸ htrue] at hstale
      unfold reviewPolicyBlockers
      simp only [hsource, hitems, hsnapshot, horigin, hlineage, hreuse, hsuppression, hbasis,
        hretention, hnotStale, List.nil_append, Bool.false_eq_true, if_false]
      constructor
      · intro hblockers hincident
        by_contra hmissing
        simp [hincident, hmissing] at hblockers
      · intro hcorroborated
        rw [if_neg]
        rintro ⟨hincident, hmissing⟩
        rw [hcorroborated hincident] at hmissing
        cases hmissing

/-- Scoring and governance agree on a request exactly when the corroboration of
its incident, if it has one and gets that far, stands in the snapshot. -/
theorem queued_candidates_unblocked_iff (request : CandidateScoreRequest) :
    ((∀ key w, ∀ review ∈ newReviews tools request key w,
        reviewPolicyBlockers tools review = []) ∧
      ∀ blockers, policyBlockersForScore tools request = .ok blockers → blockers ≠ [] →
        ∀ key w, newReviews tools request key w = []) ↔
      (Queued tools request → request.originType = some .securityIncident →
        snapshotCorroborates tools request.policySnapshot = true) := by
  constructor
  · rintro ⟨hunblocked, -⟩ hqueued
    obtain ⟨score, hpreview, hroute⟩ := hqueued.preview ""
    obtain ⟨-, -, -, horigin, hsource, hitems, hsnapshot⟩ := scoreCandidatePreview_ok hpreview
    obtain ⟨-, -, hclear, -⟩ := hqueued
    refine (reviewPolicyBlockers_nil_iff hclear horigin hsource hitems hsnapshot).mp
      (hunblocked "" ⟨{}, PUnit.unit⟩ (scoreReview 0 score) ?_)
    rw [createCandidateScore_empty hpreview hroute]
    exact List.mem_singleton_self _
  · intro hcondition
    constructor
    · intro key w review hreview
      rcases createCandidateScore_reviews request key w with hnone | ⟨id, score, hpreview, hroute, hnew⟩
      · rw [hnone] at hreview
        cases hreview
      · rw [hnew, List.mem_singleton] at hreview
        subst hreview
        obtain ⟨-, -, -, horigin, hsource, hitems, hsnapshot⟩ :=
          scoreCandidatePreview_ok hpreview
        have hqueued := queued_of_preview hpreview hroute
        have hclear : policyBlockersForScore tools request = .ok [] := by
          obtain ⟨-, -, hclear, -⟩ := hqueued
          exact hclear
        exact (reviewPolicyBlockers_nil_iff hclear horigin hsource hitems hsnapshot).mpr
          (hcondition hqueued)
    · intro blockers hblockers hsome key w
      rcases createCandidateScore_reviews request key w with hnone | ⟨id, score, hpreview, hroute, -⟩
      · exact hnone
      · obtain ⟨-, -, hclear, -⟩ := queued_of_preview hpreview hroute
        rw [hblockers] at hclear
        cases hclear
        exact absurd rfl hsome

end Agreement

/-- Host functions for concrete requests: texts are no numbers, and the weights
are those of the configuration. -/
def sampleTools : ScoringTools where
  intOfText _ := none
  str
    | .str text => text
    | _ => "<value>"
  weigh c := (25 * c.fit + 25 * c.relevance + 15 * c.recency + 15 * c.confidence +
    20 * c.evidence + 50) / 100
  snapshotHash _ := "hash"

/-- An incident whose corroboration the caller reports as evidence. -/
def evidenceOnly : CandidateScoreRequest where
  targetType := "contact"
  targetId := 0
  originType := some .securityIncident
  originId := some "0"
  evidence := .obj [("incident_status", .str "corroborated"), ("authoritative", .bool true),
    ("confidence", .int 80), ("evidence_freshness_days", .int 3), ("attack_vector", .str "phishing")]
  sourceDefinitionId := some 0
  sourceItemIds := [0]
  policySnapshot := .obj [("lawful_basis", .str "legitimate_interest")]

/-- The request is queued, and governance refuses the review it leaves. -/
theorem evidence_only_blocked :
    ¬ ((∀ key w, ∀ review ∈ newReviews sampleTools evidenceOnly key w,
        reviewPolicyBlockers sampleTools review = []) ∧
      ∀ blockers, policyBlockersForScore sampleTools evidenceOnly = .ok blockers →
        blockers ≠ [] → ∀ key w, newReviews sampleTools evidenceOnly key w = []) := by
  rintro ⟨hunblocked, -⟩
  have hqueued : Queued sampleTools evidenceOnly :=
    ⟨⟨0, 60, 100, 80, 80⟩, rfl, rfl, by decide⟩
  obtain ⟨score, hpreview, hroute⟩ := hqueued.preview ""
  obtain ⟨-, -, -, horigin, hsource, hitems, hsnapshot⟩ := scoreCandidatePreview_ok hpreview
  have hstored : scoreReview 0 score ∈ newReviews sampleTools evidenceOnly "" ⟨{}, PUnit.unit⟩ := by
    rw [createCandidateScore_empty hpreview hroute]
    exact List.mem_singleton_self _
  have hcorroborated := (reviewPolicyBlockers_nil_iff rfl horigin hsource hitems hsnapshot).mp
    (hunblocked "" _ _ hstored) rfl
  exact absurd hcorroborated (by decide)

end GhostRecon.Scoring
