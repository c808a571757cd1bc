import GhostRecon.Governance.ReviewDecisions
import GhostRecon.Incidents.Decisions

/-!
The five decisions of governance share one table and one space of keys. A call whose key is
taken answers with the decision recorded under it, whatever was decided there and by which
of the five.
-/

namespace GhostRecon

open Lib (Id Table query write after)
open Incidents (IncidentStore IncidentTx IncidentDecision IncidentDecisionRequest IncidentTools
  DecisionRule)

section Desk

/-- The reviews and incidents with their decisions. The one table of decisions is kept in two
parts, by what was decided. -/
structure Governance where
  reviews : ReviewDesk := {}
  incidents : IncidentStore := {}

/-- The key of a decision is unique over both parts. -/
def Governance.constraintsOk (s : Governance) : Bool :=
  s.reviews.constraintsOk && s.incidents.constraintsOk &&
    s.reviews.decisions.all fun row =>
      s.incidents.decisions.all (·.idempotencyKey != row.idempotencyKey)

abbrev GovernanceTx (α : Type) := Lib.Tx PyError Governance Unit α

abbrev GovernanceWorld := Lib.World Governance Unit

/-- A row of the table of decisions. -/
inductive RecordedDecision where
  | review (row : ReviewDecision)
  | incident (id : Id) (row : IncidentDecision)
  deriving DecidableEq

/-- `_existing_decision`. -/
def recordedDecision (key : String) (s : Governance) : Option RecordedDecision :=
  ((existingDecision key s.reviews).map .review).or
    ((s.incidents.decisions.first? (·.idempotencyKey == key)).map fun found =>
      .incident found.1 found.2)

/-- What a decision is about. -/
inductive DecisionSubject where
  | candidate (id : String)
  | incident (id : Id)
  deriving DecidableEq, Repr

inductive GovernanceAction where
  | approveCandidate | rejectCandidate | corroborateIncident | rejectIncident | revertIncident
  deriving DecidableEq, Repr

def RecordedDecision.subject : RecordedDecision → DecisionSubject
  | .review row => .candidate row.reviewCandidateId
  | .incident _ row => .incident row.targetId

/-- The action a decision records. A rejection and a revert of an incident write the same
row, and differ in the event they leave. -/
def RecordedDecision.action (s : Governance) : RecordedDecision → GovernanceAction
  | .review row => if row.decision = "approved" then .approveCandidate else .rejectCandidate
  | .incident id row =>
    if row.decision = .approved then .corroborateIncident
    else if .revertedBy id ∈ s.incidents.outbox then .revertIncident
    else .rejectIncident

/-- A call of one of the five operations. -/
inductive GovernanceRequest where
  | approve (now : Time) (candidateId : String) (request : ReviewDecisionRequest)
  | reject (now : Time) (candidateId : String) (request : ReviewDecisionRequest)
  | corroborate (incident : Id) (request : IncidentDecisionRequest)
  | rejectIncident (incident : Id) (request : IncidentDecisionRequest)
  | revert (incident : Id) (request : IncidentDecisionRequest)

def GovernanceRequest.subject : GovernanceRequest → DecisionSubject
  | .approve _ id _ | .reject _ id _ => .candidate id
  | .corroborate id _ | .rejectIncident id _ | .revert id _ => .incident id

def GovernanceRequest.action : GovernanceRequest → GovernanceAction
  | .approve _ _ _ => .approveCandidate
  | .reject _ _ _ => .rejectCandidate
  | .corroborate _ _ => .corroborateIncident
  | .rejectIncident _ _ => .rejectIncident
  | .revert _ _ => .revertIncident

/-- Run code of the reviews on their part of the store. -/
def onReviews {α : Type} (body : ReviewTx α) : GovernanceTx α := fun w =>
  match body ⟨w.store.reviews, ()⟩ with
  | .ok a v => .ok a { w with store := { w.store with reviews := v.store } }
  | .error e v => .error e { w with store := { w.store with reviews := v.store } }

/-- Run code of the incidents on their part of the store. -/
def onIncidents {α : Type} (body : IncidentTx α) : GovernanceTx α := fun w =>
  match body ⟨w.store.incidents, ()⟩ with
  | .ok a v => .ok a { w with store := { w.store with incidents := v.store } }
  | .error e v => .error e { w with store := { w.store with incidents := v.store } }

variable [Casing] (tools : PolicyTools) (reading : IncidentTools)

/-- A new decision on a candidate. -/
def decideCandidate (action : ReviewDecisionAction) (now : Time) (candidateId : String)
    (request : ReviewDecisionRequest) (actor key : String) :
    GovernanceTx (Option RecordedDecision) := do
  match ← query (·.reviews.candidates.find? (·.id == candidateId)) with
  | none => return none
  | some candidate =>
    return some (.review (← onReviews (action.inSession tools now candidate request actor key)))

/-- A new decision on an incident. -/
def decideOnIncident (rule : DecisionRule) (incident : Id) (request : IncidentDecisionRequest)
    (actor key : String) : GovernanceTx (Option RecordedDecision) := do
  match ← onIncidents (Incidents.decisionBody rule incident request actor key) with
  | none => return none
  | some id => return (← query (·.incidents.decisions[id]?)).map (.incident id)

/-- The operation a request calls, when its key is not taken. -/
def GovernanceRequest.decideNew (actor key : String) :
    GovernanceRequest → GovernanceTx (Option RecordedDecision)
  | .approve now id request => decideCandidate tools .approved now id request actor key
  | .reject now id request => decideCandidate tools .rejected now id request actor key
  | .corroborate id request =>
    decideOnIncident (Incidents.corroborateRule reading) id request actor key
  | .rejectIncident id request => decideOnIncident Incidents.rejectRule id request actor key
  | .revert id request => decideOnIncident Incidents.revertRule id request actor key

/-- `approve_review_candidate`, `reject_review_candidate`, `corroborate_incident`,
`reject_incident` and `revert_incident`: a recorded key first. -/
def GovernanceRequest.run (request : GovernanceRequest) (actor key : String) :
    GovernanceTx (Option RecordedDecision) :=
  Lib.sessionScope Governance.constraintsOk .integrityError do
    match ← query (recordedDecision key) with
    | some existing => return some existing
    | none => request.decideNew tools reading actor key

end Desk

section Records

open Std.Do

set_option mvcgen.warning false

variable [Casing] (tools : PolicyTools) (reading : IncidentTools)

/-- The reverts that were announced are of recorded decisions. -/
def Governance.RevertsKnown (s : Governance) : Prop :=
  ∀ id, .revertedBy id ∈ s.incidents.outbox → id < s.incidents.decisions.length

/-- A decision on a candidate is recorded under its key. -/
theorem inSession_records (action : ReviewDecisionAction) (now : Time) (candidate : QueuedReview)
    (request : ReviewDecisionRequest) (actor key : String) :
    ⦃fun w => ⌜existingDecision key w.store = none⌝⦄
      action.inSession tools now candidate request actor key
      ⦃post⟨fun decision w => ⌜existingDecision key w.store = some decision ∧
          decision.reviewCandidateId = candidate.id ∧
          decision.decision = (match action with
            | .approved => "approved"
            | .rejected => "rejected")⌝, fun _ _ => ⌜True⌝⟩⦄ := by
  have hfound : ∀ {s : ReviewDesk} {row : ReviewDecision}, existingDecision key s = none →
      row.idempotencyKey = key → (s.decisions ++ [row]).find? (·.idempotencyKey == key) =
        some row := by
    intro s row hnone hkey
    rw [List.find?_append]
    unfold existingDecision at hnone
    simp [hnone, hkey]
  cases action with
  | approved =>
    mvcgen [ReviewDecisionAction.inSession, approveInSession, decideInSession, reviewFlush,
      Lib.flush, Lib.queryOrRaise]
    exact ⟨hfound ‹_› rfl, rfl, rfl⟩
  | rejected =>
    mvcgen [ReviewDecisionAction.inSession, rejectInSession, decideInSession, reviewFlush,
      Lib.flush, Lib.queryOrRaise]
    exact ⟨hfound ‹_› rfl, rfl, rfl⟩

omit [Casing] in
/-- A decision on an incident is recorded under its key, with the event of its rule. -/
theorem decisionBody_records (rule : DecisionRule) (incident : Id)
    (request : IncidentDecisionRequest) (actor key : String) (s : IncidentStore)
    (hfresh : s.decisions.first? (·.idempotencyKey == key) = none) :
    ⦃fun w => ⌜w.store = s⌝⦄
      Incidents.decisionBody rule incident request actor key
      ⦃post⟨fun answer w => ⌜∀ id, answer = some id → id = s.decisions.length ∧
          ∃ row, w.store.decisions = s.decisions ++ [row] ∧ row.targetId = incident ∧
            row.decision = rule.outcome ∧ row.idempotencyKey = key ∧
            w.store.outbox = s.outbox ++ [rule.event id]⌝, fun _ _ => ⌜True⌝⟩⦄ := by
  mvcgen [Incidents.decisionBody, Incidents.flush, Lib.flush]
  all_goals subst_vars
  · next htaken =>
    rw [hfresh] at htaken
    cases htaken
  · rintro id ⟨⟩
  · rintro id ⟨⟩
    exact ⟨rfl, _, rfl, rfl, rfl, rfl, rfl⟩
  · rintro id ⟨⟩
    exact ⟨rfl, _, rfl, rfl, rfl, rfl, rfl⟩

omit [Casing] in
/-- What a triple says of a run on the part of the reviews. -/
theorem onReviews_returns {α : Type} {body : ReviewTx α} {P : ReviewWorld → Prop}
    {returns : α → ReviewWorld → Prop} {w v : GovernanceWorld} {a : α}
    (h : ⦃fun v => ⌜P v⌝⦄ body ⦃post⟨fun a v => ⌜returns a v⌝, fun _ _ => ⌜True⌝⟩⦄)
    (hbefore : P ⟨w.store.reviews, ()⟩) (hrun : onReviews body w = .ok a v) :
    returns a ⟨v.store.reviews, ()⟩ ∧ v.store.incidents = w.store.incidents := by
  have hwp := (Triple.iff.mp h) ⟨w.store.reviews, ()⟩ hbefore
  unfold onReviews at hrun
  simp only [wp, PredTrans.apply, EStateM.run] at hwp
  split at hrun
  · next found middle hfound =>
    simp only [EStateM.Result.ok.injEq] at hrun
    obtain ⟨rfl, rfl⟩ := hrun
    simp only [hfound] at hwp
    exact ⟨by simpa using hwp, rfl⟩
  · cases hrun

omit [Casing] in
/-- What a triple says of a run on the part of the incidents. -/
theorem onIncidents_returns {α : Type} {body : IncidentTx α}
    {P : Lib.World IncidentStore PUnit → Prop}
    {returns : α → Lib.World IncidentStore PUnit → Prop} {w v : GovernanceWorld} {a : α}
    (h : ⦃fun v => ⌜P v⌝⦄ body ⦃post⟨fun a v => ⌜returns a v⌝, fun _ _ => ⌜True⌝⟩⦄)
    (hbefore : P ⟨w.store.incidents, ()⟩) (hrun : onIncidents body w = .ok a v) :
    returns a ⟨v.store.incidents, ()⟩ ∧ v.store.reviews = w.store.reviews := by
  have hwp := (Triple.iff.mp h) ⟨w.store.incidents, ()⟩ hbefore
  unfold onIncidents at hrun
  simp only [wp, PredTrans.apply, EStateM.run] at hwp
  split at hrun
  · next found middle hfound =>
    simp only [EStateM.Result.ok.injEq] at hrun
    obtain ⟨rfl, rfl⟩ := hrun
    simp only [hfound] at hwp
    exact ⟨by simpa using hwp, rfl⟩
  · cases hrun

/-- A decision as its own call records it. -/
structure Records (request : GovernanceRequest) (key : String) (decision : RecordedDecision)
    (s : Governance) : Prop where
  stored : recordedDecision key s = some decision
  subject : decision.subject = request.subject
  action : decision.action s = request.action
  reverts : s.RevertsKnown

omit [Casing] in
theorem recordedDecision_none {key : String} {s : Governance} :
    recordedDecision key s = none ↔ existingDecision key s.reviews = none ∧
      s.incidents.decisions.first? (·.idempotencyKey == key) = none := by
  simp [recordedDecision]

/-- A decision on a candidate under a new key. -/
theorem decideCandidate_records {action : ReviewDecisionAction} {now : Time} {id : String}
    {single : ReviewDecisionRequest} {request : GovernanceRequest} {actor key : String}
    {w v : GovernanceWorld} {decision : RecordedDecision}
    (hfresh : recordedDecision key w.store = none) (hreverts : w.store.RevertsKnown)
    (hsubject : request.subject = .candidate id)
    (haction : request.action = match action with
      | .approved => .approveCandidate
      | .rejected => .rejectCandidate)
    (hrun : decideCandidate tools action now id single actor key w = .ok (some decision) v) :
    Records request key decision v.store := by
  obtain ⟨hnew, hother⟩ := recordedDecision_none.mp hfresh
  unfold decideCandidate at hrun
  simp only [Lib.bind_run, Lib.query_run] at hrun
  cases hcandidate : w.store.reviews.candidates.find? (·.id == id) with
  | none => simp [hcandidate, Lib.pure_run] at hrun
  | some candidate =>
    simp only [hcandidate, Lib.bind_run] at hrun
    split at hrun
    · next row middle hmade =>
      simp only [Lib.pure_run, EStateM.Result.ok.injEq, Option.some.injEq] at hrun
      obtain ⟨rfl, rfl⟩ := hrun
      obtain ⟨⟨hstored, hid, hdecision⟩, hsame⟩ := onReviews_returns
        (inSession_records tools action now candidate single actor key) hnew hmade
      have hname : candidate.id = id := by simpa using List.find?_some hcandidate
      refine ⟨?_, ?_, ?_, ?_⟩
      · simp only [recordedDecision, hstored, Option.map_some, Option.some_or]
      · rw [hsubject, RecordedDecision.subject, hid, hname]
      · rw [haction, RecordedDecision.action, hdecision]
        cases action <;> simp
      · unfold Governance.RevertsKnown
        rw [hsame]
        exact hreverts
    · cases hrun

omit [Casing] in
/-- A decision on an incident under a new key. -/
theorem decideOnIncident_records {rule : DecisionRule} {id : Id}
    {single : IncidentDecisionRequest} {request : GovernanceRequest} {actor key : String}
    {w v : GovernanceWorld} {decision : RecordedDecision}
    (hfresh : recordedDecision key w.store = none) (hreverts : w.store.RevertsKnown)
    (hsubject : request.subject = .incident id)
    (haction : ∀ d, request.action =
      if rule.outcome = .approved then .corroborateIncident
      else if rule.event d = .revertedBy d then .revertIncident else .rejectIncident)
    (hevent : ∀ d d', rule.event d = .revertedBy d' → d' = d)
    (hrun : decideOnIncident rule id single actor key w = .ok (some decision) v) :
    Records request key decision v.store := by
  obtain ⟨hother, hnew⟩ := recordedDecision_none.mp hfresh
  unfold decideOnIncident at hrun
  simp only [Lib.bind_run] at hrun
  split at hrun
  · next answer middle hmade =>
    obtain ⟨hanswer, hsame⟩ := onIncidents_returns
      (decisionBody_records rule id single actor key w.store.incidents hnew) rfl hmade
    cases answer with
    | none => simp [Lib.pure_run] at hrun
    | some d =>
      obtain ⟨rfl, row, hdecisions, htarget, houtcome, hkey, houtbox⟩ := hanswer d rfl
      have hlast : middle.store.incidents.decisions[w.store.incidents.decisions.length]? =
          some row := by
        rw [hdecisions]
        exact List.getElem?_concat_length
      simp only [Lib.bind_run, Lib.query_run, hlast, Lib.pure_run, EStateM.Result.ok.injEq,
        Option.map_some, Option.some.injEq] at hrun
      obtain ⟨rfl, rfl⟩ := hrun
      have hrevert : .revertedBy w.store.incidents.decisions.length ∈
          middle.store.incidents.outbox ↔
            rule.event w.store.incidents.decisions.length =
              .revertedBy w.store.incidents.decisions.length := by
        rw [houtbox, List.mem_append, List.mem_singleton]
        constructor
        · rintro (hold | hown)
          · exact absurd (hreverts _ hold) (Nat.lt_irrefl _)
          · exact hown.symm
        · intro hown
          exact Or.inr hown.symm
      refine ⟨?_, ?_, ?_, ?_⟩
      · have hfound : middle.store.incidents.decisions.first? (·.idempotencyKey == key) =
            some (w.store.incidents.decisions.length, row) := by
          rw [hdecisions, Table.first?_append_new hnew]
          simp [hkey]
        simp only [recordedDecision, hsame, hother, Option.map_none, Option.none_or, hfound,
          Option.map_some]
      · rw [hsubject, RecordedDecision.subject, htarget]
      · rw [haction w.store.incidents.decisions.length, RecordedDecision.action, houtcome]
        simp only [hrevert]
      · intro d hd
        rw [houtbox, List.mem_append, List.mem_singleton] at hd
        rw [hdecisions, List.length_append, List.length_singleton]
        rcases hd with hold | hown
        · exact Nat.lt_succ_of_lt (hreverts d hold)
        · rw [hevent _ d hown.symm]
          exact Nat.lt_succ_self _
  · cases hrun

/-- A call under a new key that answers with a decision has recorded it as its own. -/
theorem run_records {request : GovernanceRequest} {actor key : String} {w v : GovernanceWorld}
    {decision : RecordedDecision} (hfresh : recordedDecision key w.store = none)
    (hreverts : w.store.RevertsKnown)
    (hrun : request.run tools reading actor key w = .ok (some decision) v) :
    Records request key decision v.store := by
  have hnew : request.decideNew tools reading actor key w = .ok (some decision) v := by
    unfold GovernanceRequest.run at hrun
    simp only [Lib.sessionScope_run, Lib.bind_run, Lib.query_run, hfresh] at hrun
    split at hrun
    · next answer middle hmade =>
      split at hrun
      · rw [hmade]
        exact hrun
      · cases hrun
    · cases hrun
  cases request with
  | approve now id single => exact decideCandidate_records tools hfresh hreverts rfl rfl hnew
  | reject now id single => exact decideCandidate_records tools hfresh hreverts rfl rfl hnew
  | corroborate id single =>
    exact decideOnIncident_records hfresh hreverts rfl (fun _ => rfl) (by rintro d d' ⟨⟩) hnew
  | rejectIncident id single =>
    refine decideOnIncident_records hfresh hreverts rfl (fun _ => ?_) (by rintro d d' ⟨⟩) hnew
    simp [GovernanceRequest.action, Incidents.rejectRule]
  | revert id single =>
    refine decideOnIncident_records hfresh hreverts rfl (fun _ => ?_) ?_ hnew
    · simp [GovernanceRequest.action, Incidents.revertRule]
    · rintro d d' ⟨⟩
      rfl

end Records

section Replays

variable [Casing] (tools : PolicyTools) (reading : IncidentTools)

/-- A call that is not refused answers with a decision on its own subject and of its own
action. -/
def AnswersOwn (request : GovernanceRequest) (actor key : String) (w : GovernanceWorld) : Prop :=
  ∀ answer v, request.run tools reading actor key w = .ok answer v →
    ∃ decision, answer = some decision ∧ decision.subject = request.subject ∧
      decision.action v.store = request.action

/-- Under a taken key the recorded decision is the answer, and nothing changes. -/
theorem run_taken (request : GovernanceRequest) (actor : String) {key : String}
    {w : GovernanceWorld} {stored : RecordedDecision} (hvalid : w.store.constraintsOk = true)
    (hstored : recordedDecision key w.store = some stored) :
    request.run tools reading actor key w = .ok (some stored) w := by
  unfold GovernanceRequest.run
  simp only [Lib.sessionScope_run, Lib.bind_run, Lib.query_run, hstored, Lib.pure_run, hvalid,
    if_true]

/-- A call under a taken key answers for itself exactly when the recorded decision is its
own: on the same candidate or incident, and of the same action. -/
theorem taken_key_answers_own_iff (request : GovernanceRequest) (actor key : String)
    (w : GovernanceWorld) (stored : RecordedDecision) (hvalid : w.store.constraintsOk = true)
    (hstored : recordedDecision key w.store = some stored) :
    AnswersOwn tools reading request actor key w ↔
      stored.subject = request.subject ∧ stored.action w.store = request.action := by
  unfold AnswersOwn
  rw [run_taken tools reading request actor hvalid hstored]
  constructor
  · intro howns
    obtain ⟨decision, hdecision, hown⟩ := howns (some stored) w rfl
    rw [Option.some.injEq] at hdecision
    rw [hdecision]
    exact hown
  · rintro hown answer v hanswer
    simp only [EStateM.Result.ok.injEq] at hanswer
    obtain ⟨rfl, rfl⟩ := hanswer
    exact ⟨stored, rfl, hown⟩

end Replays

/-- The hash of a policy and the text of a value, for concrete requests. -/
def governanceTools : PolicyTools where
  snapshotHash _ := "hash"
  shown _ := ""

/-- A review that waits for a decision. -/
def waiting (id : String) (target : Id) : QueuedReview where
  id := id
  candidateType := "scoring"
  targetType := "contact"
  targetId := target
  reasonCode := "score_requires_review"
  reason := "analyst review"
  idempotencyKey := ("scoring", target, "score_requires_review")

def rejectOf (id : String) : GovernanceRequest :=
  .reject 0 id { version := 1, reasonCode := "no" }

/-- Two reviews, of which the first was rejected under the key `k`. -/
def afterRejection : GovernanceWorld :=
  after ((rejectOf "r1").run governanceTools Incidents.sampleTools "bob" "k")
    ⟨{ reviews := { candidates := [waiting "r1" 0, waiting "r2" 1] } }, ()⟩

def firstRejected : RecordedDecision :=
  .review {
    reviewCandidateId := "r1"
    decision := "rejected"
    actor := "bob"
    reasonCode := "no"
    reason := none
    policySnapshotHash := "hash"
    idempotencyKey := "k" }

theorem same_rejection_repeats :
    AnswersOwn governanceTools Incidents.sampleTools (rejectOf "r1") "bob" "k" afterRejection :=
  (taken_key_answers_own_iff governanceTools Incidents.sampleTools (rejectOf "r1") "bob" "k"
    afterRejection firstRejected (by decide +kernel) (by decide +kernel)).mpr
    ⟨by decide +kernel, by decide +kernel⟩

/-- Rejecting the second review under the same key answers with the rejection of the first,
and the second stays open. -/
theorem rejection_of_another_reported :
    recordedDecision "k" afterRejection.store = some firstRejected ∧
      ¬ AnswersOwn governanceTools Incidents.sampleTools (rejectOf "r2") "bob" "k"
        afterRejection ∧
      (after ((rejectOf "r2").run governanceTools Incidents.sampleTools "bob" "k")
        afterRejection).store.reviews.candidates.map (fun row => (row.id, row.status)) =
          [("r1", "rejected"), ("r2", "open")] := by
  refine ⟨by decide +kernel, ?_, by decide +kernel⟩
  intro howns
  have hanswer : Lib.returned ((rejectOf "r2").run governanceTools Incidents.sampleTools "bob" "k")
      afterRejection = some (some firstRejected) := by
    decide +kernel
  obtain ⟨decision, hdecision, hsubject, -⟩ := howns _ _ (Lib.run_of_returned hanswer)
  rw [Option.some.injEq] at hdecision
  rw [← hdecision] at hsubject
  exact absurd hsubject (by decide +kernel)

end GhostRecon
