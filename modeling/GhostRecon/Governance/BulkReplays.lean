import GhostRecon.Governance.ReviewDecisions

/-!
Repeating a bulk decision. The keys of its decisions are looked up review by review, but
only after all reviews were found open; a decision closes its review, so the replay of a
request that decided anything is refused before the first key is looked at.
-/

namespace GhostRecon

open Lib (Id Table query queryOrRaise write after)
open Std.Do

set_option mvcgen.warning false

section Closed

/-- The key of the decision on one review of a bulk request. -/
def childKey (key id : String) : String :=
  key ++ ":" ++ id

/-- The decision on a review of the request was recorded before. -/
def Recorded (key : String) (s : ReviewDesk) (candidate : QueuedReview) : Prop :=
  (existingDecision (childKey key candidate.id) s).isSome = true

/-- Some review of the request is closed. -/
def SomeClosed (names : List String) (rows : Table QueuedReview) : Prop :=
  ∃ row ∈ rows, row.id ∈ names ∧ row.status ≠ "open"

/-- A closed review stays closed. -/
theorem SomeClosed.decided {names : List String} {rows rows' : Table QueuedReview}
    (h : SomeClosed names rows) (hdecided : Decided names rows rows') :
    SomeClosed names rows' := by
  obtain ⟨row, hrow, hnamed, hstatus⟩ := h
  obtain ⟨after, rfl, hafter⟩ := hdecided
  refine ⟨after row, List.mem_map_of_mem hrow, ?_⟩
  rcases hafter row with hsame | ⟨-, hclosed, hid, -⟩
  · rw [hsame]
    exact ⟨hnamed, hstatus⟩
  · rw [hid]
    refine ⟨hnamed, ?_⟩
    rcases hclosed with hclosed | hclosed
    · rw [hclosed]
      decide
    · rw [hclosed]
      decide

/-- Decisions keep the reviews under their ids. -/
theorem Decided.ids {names : List String} {rows rows' : Table QueuedReview}
    (h : Decided names rows rows') : rows'.map (·.id) = rows.map (·.id) := by
  obtain ⟨after, rfl, hafter⟩ := h
  rw [List.map_map]
  apply List.map_congr_left
  intro row _
  rcases hafter row with hsame | ⟨-, -, hid, -⟩
  · exact congrArg (·.id) hsame
  · exact hid

theorem closeReview_closed {id status : String} {now : Time} {s : ReviewDesk}
    (hstored : id ∈ s.candidates.map (·.id)) (hstatus : status ≠ "open") :
    SomeClosed [id] (closeReview id status now s).candidates := by
  obtain ⟨row, hrow, rfl⟩ := List.mem_map.mp hstored
  refine ⟨_, List.mem_map_of_mem hrow, ?_⟩
  rw [if_pos rfl]
  exact ⟨List.mem_singleton_self _, hstatus⟩

end Closed

section Loop

variable [Casing] {tools : PolicyTools} {now : Time} {request : BulkReviewDecisionRequest}
  {actor key : String} {w v : ReviewWorld} {candidates : List QueuedReview}
  {decisions : List ReviewDecision}

/-- A decision that is made closes its review. -/
theorem inSession_closes (action : ReviewDecisionAction) (candidate : QueuedReview)
    (single : ReviewDecisionRequest) (childKey : String) :
    ⦃fun w => ⌜candidate.id ∈ w.store.candidates.map (·.id)⌝⦄
      action.inSession tools now candidate single actor childKey
      ⦃post⟨fun _ w => ⌜SomeClosed [candidate.id] w.store.candidates⌝, fun _ _ => ⌜True⌝⟩⦄ := by
  cases action with
  | approved =>
    mvcgen [ReviewDecisionAction.inSession, approveInSession, decideInSession, reviewFlush,
      Lib.flush, Lib.queryOrRaise]
    exact closeReview_closed (s := insertDecision _ _) ‹_› (by decide)
  | rejected =>
    mvcgen [ReviewDecisionAction.inSession, rejectInSession, decideInSession, reviewFlush,
      Lib.flush, Lib.queryOrRaise]
    exact closeReview_closed (s := insertDecision _ _) ‹_› (by decide)

omit [Casing] in
/-- What a triple says of one run that returns. -/
theorem returns_of_triple {α : Type} {program : ReviewTx α} {P : ReviewWorld → Prop}
    {returns : α → ReviewWorld → Prop} {a : α}
    (h : ⦃fun v => ⌜P v⌝⦄ program ⦃post⟨fun a v => ⌜returns a v⌝, fun _ _ => ⌜True⌝⟩⦄)
    (hbefore : P w) (hrun : program w = .ok a v) : returns a v := by
  have hwp := (Triple.iff.mp h) w hbefore
  simp only [wp, PredTrans.apply, EStateM.run, hrun] at hwp
  simpa using hwp

/-- One round of the loop: the version is there, and the decision is the recorded one or
made now. -/
theorem decideEach_cons {candidate : QueuedReview} {rest : List QueuedReview}
    (hrun : decideEach tools now request actor key (candidate :: rest) w = .ok decisions v) :
    ∃ version decision later middle,
      request.candidateVersions.lookup candidate.id = some version ∧
      decisions = decision :: later ∧
      decideEach tools now request actor key rest middle = .ok later v ∧
      (existingDecision (childKey key candidate.id) w.store = some decision ∧ middle = w ∨
        existingDecision (childKey key candidate.id) w.store = none ∧
          request.decision.inSession tools now candidate
            { version, reasonCode := request.reasonCode, reason := request.reason
              policySnapshotHash := request.policySnapshotHash } actor
            (childKey key candidate.id) w = .ok decision middle) := by
  unfold decideEach at hrun
  simp only [Lib.bind_run, Lib.queryOrRaise_run, Lib.query_run] at hrun
  cases hversion : request.candidateVersions.lookup candidate.id with
  | none => simp [hversion] at hrun
  | some version =>
    simp only [hversion] at hrun
    unfold childKey
    cases hexisting : existingDecision (key ++ ":" ++ candidate.id) w.store with
    | some decision =>
      simp only [hexisting, Lib.bind_run, Lib.pure_run] at hrun
      cases hrest : decideEach tools now request actor key rest w with
      | error e middle =>
        rw [hrest] at hrun
        cases hrun
      | ok later middle =>
        rw [hrest] at hrun
        simp only [EStateM.Result.ok.injEq] at hrun
        obtain ⟨rfl, rfl⟩ := hrun
        exact ⟨version, decision, later, w, rfl, rfl, hrest, Or.inl ⟨rfl, rfl⟩⟩
    | none =>
      simp only [hexisting, Lib.bind_run] at hrun
      split at hrun
      · next decision middle hmade =>
        cases hrest : decideEach tools now request actor key rest middle with
        | error e last =>
          rw [hrest] at hrun
          cases hrun
        | ok later last =>
          rw [hrest] at hrun
          simp only [Lib.pure_run, EStateM.Result.ok.injEq] at hrun
          obtain ⟨rfl, rfl⟩ := hrun
          exact ⟨version, decision, later, middle, rfl, rfl, hrest, Or.inr ⟨rfl, hmade⟩⟩
      · cases hrun

/-- When every decision was recorded, the loop answers with them and writes nothing. -/
theorem decideEach_recorded
    (hrun : decideEach tools now request actor key candidates w = .ok decisions v)
    (hrecorded : ∀ candidate ∈ candidates, Recorded key w.store candidate) :
    v = w ∧ ∀ now', decideEach tools now' request actor key candidates w = .ok decisions w := by
  induction candidates generalizing decisions with
  | nil =>
    simp only [decideEach, Lib.pure_run, EStateM.Result.ok.injEq] at hrun
    obtain ⟨rfl, rfl⟩ := hrun
    exact ⟨rfl, fun _ => rfl⟩
  | cons candidate rest ih =>
    obtain ⟨version, decision, later, middle, hversion, rfl, hrest, hmade⟩ := decideEach_cons hrun
    rcases hmade with ⟨hexisting, rfl⟩ | ⟨hnone, -⟩
    · obtain ⟨hsame, hagain⟩ := ih hrest fun other hother =>
        hrecorded other (List.mem_cons_of_mem candidate hother)
      refine ⟨hsame, ?_⟩
      intro now'
      unfold childKey at hexisting
      unfold decideEach
      simp only [Lib.bind_run, Lib.queryOrRaise_run, Lib.query_run, hversion, hexisting,
        Lib.pure_run, hagain now']
    · have hhead := hrecorded candidate List.mem_cons_self
      rw [Recorded, hnone] at hhead
      cases hhead

/-- When one was not, a review of the request is closed afterwards. -/
theorem decideEach_closes
    (hrun : decideEach tools now request actor key candidates w = .ok decisions v)
    (hnamed : ∀ candidate ∈ candidates, candidate.id ∈ request.candidateIds)
    (hstored : ∀ candidate ∈ candidates, candidate.id ∈ w.store.candidates.map (·.id)) :
    (∀ candidate ∈ candidates, Recorded key w.store candidate) ∨
      SomeClosed request.candidateIds v.store.candidates := by
  induction candidates generalizing w decisions with
  | nil => exact Or.inl fun _ hnone => (List.not_mem_nil hnone).elim
  | cons candidate rest ih =>
    obtain ⟨version, decision, later, middle, -, -, hrest, hmade⟩ := decideEach_cons hrun
    have hrestNamed : ∀ other ∈ rest, other.id ∈ request.candidateIds := fun other hother =>
      hnamed other (List.mem_cons_of_mem candidate hother)
    rcases hmade with ⟨hexisting, rfl⟩ | ⟨-, hnew⟩
    · rcases ih hrest hrestNamed fun other hother =>
          hstored other (List.mem_cons_of_mem candidate hother) with hrecorded | hclosed
      · left
        intro other hother
        rcases List.mem_cons.mp hother with rfl | hother
        · rw [Recorded, hexisting]
          rfl
        · exact hrecorded other hother
      · exact Or.inr hclosed
    · right
      have hhead := hnamed candidate List.mem_cons_self
      obtain ⟨row, hrow, hid, hstatus⟩ := returns_of_triple
        (inSession_closes request.decision candidate _ _) (hstored candidate List.mem_cons_self) hnew
      have hclosed : SomeClosed request.candidateIds middle.store.candidates :=
        ⟨row, hrow, List.mem_singleton.mp hid ▸ hhead, hstatus⟩
      exact hclosed.decided (returns_of_triple
        (decideEach_decided tools now request actor key rest hrestNamed middle.store.candidates)
        (Decided.refl _ _) hrest)

end Loop

section Replays

variable [Casing] (tools : PolicyTools) (request : BulkReviewDecisionRequest)
  (actor key : String) {now : Time} {w v : ReviewWorld} {decisions : List ReviewDecision}

/-- The reviews a bulk request names. -/
def BulkReviewDecisionRequest.named (request : BulkReviewDecisionRequest) (s : ReviewDesk) :
    List QueuedReview :=
  s.candidates.filter fun row => decide (row.id ∈ request.candidateIds)

/-- A bulk decision that commits passed its checks, went through its loop and left a valid
store. -/
theorem bulk_ok_iff :
    bulkDecideReviewCandidates tools now request actor key w = .ok decisions v ↔
      checkBulk tools request (request.named w.store) = .ok () ∧
        decideEach tools now request actor key (request.named w.store) w = .ok decisions v ∧
        v.store.constraintsOk = true := by
  have hnamed : request.named w.store =
      w.store.candidates.filter fun row => decide (row.id ∈ request.candidateIds) := rfl
  unfold bulkDecideReviewCandidates reviewScope
  simp only [Lib.sessionScope_run, Lib.bind_run, Lib.query_run, Lib.queryOrRaise_run, ← hnamed]
  cases hcheck : checkBulk tools request (request.named w.store) with
  | error e => simp
  | ok checked =>
    cases hloop : decideEach tools now request actor key (request.named w.store) w with
    | error e middle => simp [hloop]
    | ok found middle =>
      simp only [hloop, EStateM.Result.ok.injEq, true_and]
      constructor
      · intro hrun
        split at hrun
        · next hvalid =>
          simp only [EStateM.Result.ok.injEq] at hrun
          obtain ⟨rfl, rfl⟩ := hrun
          exact ⟨⟨rfl, rfl⟩, hvalid⟩
        · cases hrun
      · rintro ⟨⟨rfl, rfl⟩, hvalid⟩
        rw [if_pos hvalid]

omit [Casing] in
/-- The checks refuse a request that names a closed review. -/
theorem checkBulk_open {s : ReviewDesk}
    (hcheck : checkBulk tools request (request.named s) = .ok ()) :
    ¬ SomeClosed request.candidateIds s.candidates := by
  rintro ⟨row, hrow, hnamed, hstatus⟩
  have hmember : row ∈ request.named s := List.mem_filter.mpr ⟨hrow, by simpa using hnamed⟩
  have hany : (request.named s).any (·.status != "open") = true :=
    List.any_eq_true.mpr ⟨row, hmember, by simpa using hstatus⟩
  unfold checkBulk at hcheck
  dsimp only at hcheck
  split at hcheck
  · cases hcheck
  · split at hcheck
    · cases hcheck
    · cases hcheck

/-- Repeating the request, any number of times, answers with the same decisions and
changes nothing. -/
def ReplaysUnchanged (decisions : List ReviewDecision) (v : ReviewWorld) : Prop :=
  ∀ times : List Time,
    times.mapM (fun now => bulkDecideReviewCandidates tools now request actor key) v =
      .ok (times.map fun _ => decisions) v

/-- A committed bulk decision can be repeated exactly when it decided nothing: every
decision it returned was recorded before. -/
theorem bulk_replay_iff
    (hrun : bulkDecideReviewCandidates tools now request actor key w = .ok decisions v) :
    ReplaysUnchanged tools request actor key decisions v ↔
      ∀ candidate ∈ w.store.candidates, candidate.id ∈ request.candidateIds →
        Recorded key w.store candidate := by
  obtain ⟨hcheck, hloop, hvalid⟩ := (bulk_ok_iff tools request actor key).mp hrun
  have hnamed : ∀ candidate ∈ request.named w.store, candidate.id ∈ request.candidateIds := by
    intro candidate hcandidate
    simpa using (List.mem_filter.mp hcandidate).2
  have hstored : ∀ candidate ∈ request.named w.store,
      candidate.id ∈ w.store.candidates.map (·.id) := by
    intro candidate hcandidate
    exact List.mem_map_of_mem (List.mem_filter.mp hcandidate).1
  constructor
  · intro hreplays
    have honce := hreplays [now]
    have hagain : bulkDecideReviewCandidates tools now request actor key v = .ok decisions v := by
      simp only [List.mapM_cons, List.mapM_nil, Lib.bind_run, Lib.pure_run] at honce
      split at honce
      · next found middle hfound =>
        simp only [EStateM.Result.ok.injEq, List.map_cons, List.map_nil, List.cons.injEq,
          and_true] at honce
        obtain ⟨rfl, rfl⟩ := honce
        exact hfound
      · cases honce
    have hopen := checkBulk_open tools request
      ((bulk_ok_iff tools request actor key).mp hagain).1
    rcases decideEach_closes hloop hnamed hstored with hrecorded | hclosed
    · intro candidate hcandidate hname
      exact hrecorded candidate (List.mem_filter.mpr ⟨hcandidate, by simpa using hname⟩)
    · exact absurd hclosed hopen
  · intro hrecorded
    obtain ⟨rfl, hagain⟩ := decideEach_recorded hloop fun candidate hcandidate =>
      hrecorded candidate (List.mem_filter.mp hcandidate).1 (hnamed candidate hcandidate)
    intro times
    induction times with
    | nil => rfl
    | cons now' rest ih =>
      have hone : bulkDecideReviewCandidates tools now' request actor key v = .ok decisions v :=
        (bulk_ok_iff tools request actor key).mpr ⟨hcheck, hagain now', hvalid⟩
      simp only [List.mapM_cons, Lib.bind_run, hone, ih, Lib.pure_run, List.map_cons]

end Replays

/-- The hash of a policy and the text of a value, for concrete requests. -/
def deskTools : PolicyTools where
  snapshotHash _ := "hash"
  shown _ := ""

/-- A review that waits for its decision. -/
def waitingReview : QueuedReview where
  id := "r1"
  candidateType := "scoring"
  targetType := "contact"
  targetId := 0
  reasonCode := "score_requires_review"
  reason := "analyst review"
  idempotencyKey := ("scoring", 0, "score_requires_review")

/-- All reviews named are rejected. -/
def rejectAll : BulkReviewDecisionRequest where
  candidateIds := ["r1"]
  decision := .rejected
  candidateVersions := [("r1", 1)]
  reasonCode := "no"

def deskWith (decisions : List ReviewDecision) : ReviewWorld where
  store := { candidates := [waitingReview], decisions }
  external := ()

/-- A decision on another review, under the key the bulk request will derive. -/
def strayDecision : ReviewDecision where
  reviewCandidateId := "r2"
  decision := "rejected"
  actor := "bob"
  reasonCode := "no"
  reason := none
  policySnapshotHash := "hash"
  idempotencyKey := "bulk:r1"

theorem recorded_bulk_repeats :
    ReplaysUnchanged deskTools rejectAll "bob" "bulk" [strayDecision] (deskWith [strayDecision]) := by
  have hanswer : Lib.returned (bulkDecideReviewCandidates deskTools 0 rejectAll "bob" "bulk")
      (deskWith [strayDecision]) = some [strayDecision] := by
    decide +kernel
  have hloop := ((bulk_ok_iff deskTools rejectAll "bob" "bulk").mp (Lib.run_of_returned hanswer)).2.1
  have hrecorded : ∀ candidate ∈ (deskWith [strayDecision]).store.candidates,
      candidate.id ∈ rejectAll.candidateIds →
        Recorded "bulk" (deskWith [strayDecision]).store candidate := by
    intro candidate hcandidate _
    rw [List.mem_singleton.mp hcandidate]
    unfold Recorded
    decide +kernel
  have hsame := (decideEach_recorded hloop fun candidate hcandidate =>
    hrecorded candidate (List.mem_filter.mp hcandidate).1
      (by simpa using (List.mem_filter.mp hcandidate).2)).1
  have hrun := Lib.run_of_returned hanswer
  rw [hsame] at hrun
  exact (bulk_replay_iff deskTools rejectAll "bob" "bulk" hrun).mpr hrecorded

/-- The bulk rejection of one open review commits, and its replay is refused. -/
theorem rejected_bulk_refused_again :
    ∃ decisions v, bulkDecideReviewCandidates deskTools 0 rejectAll "bob" "bulk" (deskWith []) =
        .ok decisions v ∧
      ¬ ReplaysUnchanged deskTools rejectAll "bob" "bulk" decisions v := by
  have hanswer : (Lib.returned (bulkDecideReviewCandidates deskTools 0 rejectAll "bob" "bulk")
      (deskWith [])).isSome = true := by
    decide +kernel
  obtain ⟨decisions, hdecisions⟩ := Option.isSome_iff_exists.mp hanswer
  refine ⟨decisions, _, Lib.run_of_returned hdecisions, ?_⟩
  intro hreplays
  have hagain : Lib.returned ([0].mapM fun now =>
      bulkDecideReviewCandidates deskTools now rejectAll "bob" "bulk")
      (after (bulkDecideReviewCandidates deskTools 0 rejectAll "bob" "bulk") (deskWith [])) =
        none := by
    decide +kernel
  rw [Lib.returned, hreplays [0]] at hagain
  cases hagain

end GhostRecon
