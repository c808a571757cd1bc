import GhostRecon.Governance.BulkReplays

/-!
The review desk over whole runs. Reviews are requested once for each key, edited at any time,
and decided one by one or in bulk. After any run of these operations the tables agree: a
review is decided at most once and its status is its decision, the CRM targets are those of
the approvals, made of reviews no policy blocks, and every decision and target has been
announced.
-/

namespace GhostRecon

open Lib (Id Table query write after run)

section Requests

/-- What a review is requested with. -/
structure ReviewRequest where
  candidateType : String
  targetType : String
  targetId : Id
  originType : Option String := none
  originId : Option String := none
  sourceDefinitionId : Option Id := none
  sourceItemIds : List Id := []
  reasonCode : String
  reason : String
  policySnapshot : Json := .obj []
  policySnapshotHash : Option String := none
  idempotencyKey : String × Id × String

/-- The row of a request. -/
def ReviewRequest.row (request : ReviewRequest) (id : String) (now : Time) : QueuedReview where
  candidateType := request.candidateType
  targetType := request.targetType
  targetId := request.targetId
  originType := request.originType
  originId := request.originId
  sourceDefinitionId := request.sourceDefinitionId
  sourceItemIds := request.sourceItemIds
  reasonCode := request.reasonCode
  reason := request.reason
  idempotencyKey := request.idempotencyKey
  id
  policySnapshot := request.policySnapshot
  policySnapshotHash := request.policySnapshotHash
  createdAt := now
  updatedAt := now

def queueReview (row : QueuedReview) (s : ReviewDesk) : ReviewDesk :=
  { s with candidates := s.candidates ++ [row] }

/-- `_request_review` and `_request_score_review`: the review of this key, or a new one. -/
def requestQueuedReview (request : ReviewRequest) (id : String) (now : Time) :
    ReviewTx QueuedReview :=
  reviewScope do
    match ← query (·.candidates.find? (·.idempotencyKey == request.idempotencyKey)) with
    | some existing => return existing
    | none =>
      write (queueReview (request.row id now))
      reviewFlush
      return request.row id now

/-- An edit counts as a new version; what it edits is the evidence. -/
def QueuedReview.touch (id : String) (now : Time) (row : QueuedReview) : QueuedReview :=
  if row.id = id then { row with version := row.version + 1, updatedAt := now } else row

def touchReview (id : String) (now : Time) (s : ReviewDesk) : ReviewDesk :=
  { s with candidates := s.candidates.map (QueuedReview.touch id now) }

/-- `update_review_candidate`. -/
def updateReviewCandidate (id : String) (now : Time) : ReviewTx (Option String) :=
  reviewScope do
    match ← query (·.candidates.find? (·.id == id)) with
    | none => return none
    | some _ =>
      write (touchReview id now)
      reviewFlush
      return some id

inductive DeskCall where
  | ask (request : ReviewRequest) (id : String) (now : Time)
  | update (id : String) (now : Time)
  | decision (call : DecisionCall)

/-- One call at the desk. -/
def DeskCall.step [Casing] (tools : PolicyTools) (s : ReviewDesk) : DeskCall → ReviewDesk
  | .ask request id now => (after (requestQueuedReview request id now) ⟨s, ()⟩).store
  | .update id now => (after (updateReviewCandidate id now) ⟨s, ()⟩).store
  | .decision call => (call.run tools ⟨s, ()⟩).store

end Requests

section Soundness

/-- What a key of the outbox announces is there. -/
def ReviewEventKey.Holds (s : ReviewDesk) : ReviewEventKey → Prop
  | .approved i => ∃ decision, s.decisions[i]? = some decision ∧ decision.decision = "approved"
  | .rejected i => ∃ decision, s.decisions[i]? = some decision ∧ decision.decision = "rejected"
  | .targetCreated t => t < s.targets.length

/-- The tables of the desk agree. -/
structure ReviewDesk.Sound [Casing] (tools : PolicyTools) (s : ReviewDesk) : Prop where
  ids : (s.candidates.map (·.id)).Nodup
  /-- A review is decided at most once. -/
  once : (s.decisions.map (·.reviewCandidateId)).Nodup
  outcomes : ∀ decision ∈ s.decisions,
    decision.decision = "approved" ∨ decision.decision = "rejected"
  /-- A decided review has its decision as its status. -/
  decided : ∀ decision ∈ s.decisions, ∃ row ∈ s.candidates,
    row.id = decision.reviewCandidateId ∧ row.status = decision.decision
  /-- The other reviews are open. -/
  undecided : ∀ row ∈ s.candidates, row.id ∉ s.decisions.map (·.reviewCandidateId) →
    row.status = "open"
  /-- There is one target for each approval. -/
  approvals : ∀ i, i ∈ s.targets.map (·.reviewDecisionId) ↔
    (ReviewEventKey.approved i).Holds s
  single : (s.targets.map (·.reviewDecisionId)).Nodup
  /-- A target is made of its review, which no policy blocks. -/
  targets : ∀ target ∈ s.targets, ∃ decision row,
    s.decisions[target.reviewDecisionId]? = some decision ∧ row ∈ s.candidates ∧
      row.id = decision.reviewCandidateId ∧
      target = targetFor row target.reviewDecisionId decision ∧
      reviewPolicyBlockers tools row = []
  /-- The outbox announces the decisions and targets there are, each once. -/
  announced : ∀ key, key ∈ s.outbox ↔ key.Holds s
  outbox : s.outbox.Nodup

end Soundness

section Records

def ReviewDecisionAction.status : ReviewDecisionAction → String
  | .approved => "approved"
  | .rejected => "rejected"

/-- A row of the reviews after a decision on one of them. -/
def QueuedReview.close (id status : String) (now : Time) (row : QueuedReview) : QueuedReview :=
  if row.id = id then
    { row with status := status, version := row.version + 1, updatedAt := now }
  else row

/-- What a decision announces, with the places of its row and of its target. -/
def ReviewDecisionAction.keys (decision target : Id) :
    ReviewDecisionAction → List ReviewEventKey
  | .approved => [.approved decision, .targetCreated target]
  | .rejected => [.rejected decision]

/-- The desk after a decision on a review. -/
def ReviewDesk.record (action : ReviewDecisionAction) (now : Time) (candidate : QueuedReview)
    (decision : ReviewDecision) (s : ReviewDesk) : ReviewDesk :=
  let closed := closeReview candidate.id action.status now (insertDecision decision s)
  match action with
  | .approved =>
    announce (.targetCreated s.targets.length)
      (insertTarget (targetFor candidate s.decisions.length decision)
        (announce (.approved s.decisions.length) closed))
  | .rejected => announce (.rejected s.decisions.length) closed

variable [Casing] {tools : PolicyTools}

open Std.Do in
set_option mvcgen.warning false in
theorem inSession_ok (action : ReviewDecisionAction) (now : Time) (candidate : QueuedReview)
    (request : ReviewDecisionRequest) (actor key : String) (s : ReviewDesk) :
    ⦃fun w => ⌜w.store = s⌝⦄
      action.inSession tools now candidate request actor key
      ⦃post⟨fun decision w => ⌜w.store = s.record action now candidate decision ∧
          validateCandidateDecision tools candidate request = .ok () ∧
          (action = .approved → reviewPolicyBlockers tools candidate = []) ∧
          decision.reviewCandidateId = candidate.id ∧ decision.decision = action.status⌝,
        fun _ _ => ⌜True⌝⟩⦄ := by
  cases action with
  | approved =>
    mvcgen [ReviewDecisionAction.inSession, approveInSession, decideInSession, reviewFlush,
      Lib.flush, Lib.queryOrRaise]
    subst_vars
    have hblockers := not_not.mp ‹¬reviewPolicyBlockers tools candidate ≠ []›
    exact ⟨rfl, ‹_›, hblockers, rfl, rfl⟩
  | rejected =>
    mvcgen [ReviewDecisionAction.inSession, rejectInSession, decideInSession, reviewFlush,
      Lib.flush, Lib.queryOrRaise]
    subst_vars
    refine ⟨rfl, ‹_›, ?_, rfl, rfl⟩
    intro happroved
    cases happroved

omit [Casing] in
/-- A review whose decision can be made is open. -/
theorem validate_open {candidate : QueuedReview} {request : ReviewDecisionRequest}
    (h : validateCandidateDecision tools candidate request = .ok ()) :
    candidate.status = "open" := by
  unfold validateCandidateDecision at h
  split at h
  · cases h
  · next hstatus => exact not_not.mp hstatus

end Records

section Recording

variable {s : ReviewDesk} {action : ReviewDecisionAction} {now : Time}
  {candidate : QueuedReview} {decision : ReviewDecision}

theorem close_id (id status : String) (now : Time) (row : QueuedReview) :
    (row.close id status now).id = row.id := by
  unfold QueuedReview.close
  split <;> rfl

/-- The other reviews stay as they are. -/
theorem close_other {id status : String} {row : QueuedReview} (h : row.id ≠ id) :
    row.close id status now = row :=
  if_neg h

theorem record_candidates : (s.record action now candidate decision).candidates =
    s.candidates.map (QueuedReview.close candidate.id action.status now) := by
  cases action <;> rfl

theorem record_decisions :
    (s.record action now candidate decision).decisions = s.decisions ++ [decision] := by
  cases action <;> rfl

theorem record_ids : (s.record action now candidate decision).candidates.map (·.id) =
    s.candidates.map (·.id) := by
  rw [record_candidates, List.map_map]
  exact List.map_congr_left fun row _ => close_id _ _ _ row

theorem mem_record_candidates {row : QueuedReview} (hrow : row ∈ s.candidates)
    (hother : row.id ≠ candidate.id) :
    row ∈ (s.record action now candidate decision).candidates := by
  have hsame : row.close candidate.id action.status now = row := close_other hother
  rw [record_candidates, ← hsame]
  exact List.mem_map_of_mem hrow

/-- A decision after the record is an old one or the new one. -/
theorem record_decision_at {i : Id} {made : ReviewDecision} :
    (s.record action now candidate decision).decisions[i]? = some made ↔
      s.decisions[i]? = some made ∨ i = s.decisions.length ∧ made = decision := by
  rw [record_decisions]
  constructor
  · exact Lib.Table.get_concat
  · rintro (hold | ⟨rfl, rfl⟩)
    · exact Lib.Table.get_of_prefix (List.prefix_append _ _) i made hold
    · exact List.getElem?_concat_length

theorem record_targets : (s.record action now candidate decision).targets =
    s.targets ++ (match action with
      | .approved => [targetFor candidate s.decisions.length decision]
      | .rejected => []) := by
  cases action
  · rfl
  · exact (List.append_nil _).symm

theorem record_outbox : (s.record action now candidate decision).outbox =
    s.outbox ++ action.keys s.decisions.length s.targets.length := by
  cases action
  · exact List.append_assoc _ _ _
  · rfl

/-- What held still does; of the other keys only those of the decision do. -/
theorem record_holds (hdecision : decision.decision = action.status) (key : ReviewEventKey) :
    key.Holds (s.record action now candidate decision) ↔
      key.Holds s ∨ key ∈ action.keys s.decisions.length s.targets.length := by
  cases key with
  | approved i =>
    simp only [ReviewEventKey.Holds, record_decision_at, or_and_right, exists_or]
    apply or_congr_right
    cases action with
    | approved =>
      simp only [ReviewDecisionAction.keys, List.mem_cons, List.not_mem_nil, or_false,
        ReviewEventKey.approved.injEq, reduceCtorEq]
      constructor
      · rintro ⟨_, ⟨hi, -⟩, -⟩
        exact hi
      · intro hi
        exact ⟨decision, ⟨hi, rfl⟩, hdecision⟩
    | rejected =>
      simp only [ReviewDecisionAction.keys, List.mem_singleton, reduceCtorEq, iff_false]
      rintro ⟨_, ⟨-, rfl⟩, houtcome⟩
      rw [hdecision] at houtcome
      exact absurd houtcome (by decide)
  | rejected i =>
    simp only [ReviewEventKey.Holds, record_decision_at, or_and_right, exists_or]
    apply or_congr_right
    cases action with
    | approved =>
      simp only [ReviewDecisionAction.keys, List.mem_cons, List.not_mem_nil, or_false,
        reduceCtorEq, iff_false]
      rintro ⟨_, ⟨-, rfl⟩, houtcome⟩
      rw [hdecision] at houtcome
      exact absurd houtcome (by decide)
    | rejected =>
      simp only [ReviewDecisionAction.keys, List.mem_singleton, ReviewEventKey.rejected.injEq]
      constructor
      · rintro ⟨_, ⟨hi, -⟩, -⟩
        exact hi
      · intro hi
        exact ⟨decision, ⟨hi, rfl⟩, hdecision⟩
  | targetCreated t =>
    cases action with
    | approved =>
      have hlength : (s.record .approved now candidate decision).targets.length =
          s.targets.length + 1 := List.length_append
      simp only [ReviewEventKey.Holds, hlength, ReviewDecisionAction.keys, List.mem_cons,
        List.not_mem_nil, or_false, ReviewEventKey.targetCreated.injEq, reduceCtorEq, false_or]
      exact Nat.lt_succ_iff_lt_or_eq
    | rejected =>
      have hlength : (s.record .rejected now candidate decision).targets.length =
          s.targets.length := rfl
      simp only [ReviewEventKey.Holds, hlength, ReviewDecisionAction.keys, List.mem_singleton,
        reduceCtorEq, or_false]

/-- The keys of a decision are new. -/
theorem keys_new {key : ReviewEventKey}
    (hkey : key ∈ action.keys s.decisions.length s.targets.length) : ¬ key.Holds s := by
  have hnone : s.decisions[s.decisions.length]? = none := List.getElem?_eq_none (le_refl _)
  cases action with
  | approved =>
    rcases List.mem_cons.mp hkey with rfl | hkey
    · rintro ⟨_, hmade, -⟩
      rw [hnone] at hmade
      cases hmade
    · rw [List.mem_singleton.mp hkey]
      exact Nat.lt_irrefl _
  | rejected =>
    rw [List.mem_singleton.mp hkey]
    rintro ⟨_, hmade, -⟩
    rw [hnone] at hmade
    cases hmade

theorem keys_nodup (decision target : Id) : (action.keys decision target).Nodup := by
  cases action <;> simp [ReviewDecisionAction.keys]

end Recording

section Steps

variable [Casing] {tools : PolicyTools} {s : ReviewDesk} {action : ReviewDecisionAction}
  {now : Time} {candidate : QueuedReview} {decision : ReviewDecision}

/-- An open review has no decision. -/
theorem ReviewDesk.Sound.open_fresh (h : s.Sound tools) (hcandidate : candidate ∈ s.candidates)
    (hopen : candidate.status = "open") :
    candidate.id ∉ s.decisions.map (·.reviewCandidateId) := by
  intro hdecided
  obtain ⟨old, hold, hid⟩ := List.mem_map.mp hdecided
  obtain ⟨row, hrow, hrowId, hstatus⟩ := h.decided old hold
  have hsame : row = candidate :=
    List.inj_on_of_nodup_map h.ids hrow hcandidate (hrowId.trans hid)
  rw [hsame, hopen] at hstatus
  rcases h.outcomes old hold with houtcome | houtcome
  · rw [houtcome] at hstatus
    exact absurd hstatus (by decide)
  · rw [houtcome] at hstatus
    exact absurd hstatus (by decide)

/-- A decision on an open review, which no policy blocks if it is an approval, leaves the desk
sound. -/
theorem record_sound (h : s.Sound tools) (hcandidate : candidate ∈ s.candidates)
    (hopen : candidate.status = "open")
    (hblockers : action = .approved → reviewPolicyBlockers tools candidate = [])
    (hid : decision.reviewCandidateId = candidate.id)
    (hdecision : decision.decision = action.status) :
    (s.record action now candidate decision).Sound tools := by
  have hfresh := h.open_fresh hcandidate hopen
  have hothers : ∀ old ∈ s.decisions, old.reviewCandidateId ≠ candidate.id := fun old hold heq =>
    hfresh (List.mem_map.mpr ⟨old, hold, heq⟩)
  have hclosed : candidate.close candidate.id action.status now ∈
      (s.record action now candidate decision).candidates := by
    rw [record_candidates]
    exact List.mem_map_of_mem hcandidate
  have hstatus : (candidate.close candidate.id action.status now).status = action.status := by
    rw [QueuedReview.close, if_pos rfl]
  refine ⟨?_, ?_, ?_, ?_, ?_, ?_, ?_, ?_, ?_, ?_⟩
  · rw [record_ids]
    exact h.ids
  · rw [record_decisions, List.map_append, List.nodup_append]
    refine ⟨h.once, List.nodup_singleton _, ?_⟩
    intro old hold new hnew heq
    rw [List.map_singleton, List.mem_singleton, hid] at hnew
    exact hfresh (hnew ▸ heq ▸ hold)
  · intro made hmade
    rw [record_decisions, List.mem_append, List.mem_singleton] at hmade
    rcases hmade with hold | rfl
    · exact h.outcomes made hold
    · rw [hdecision]
      cases action
      · exact Or.inl rfl
      · exact Or.inr rfl
  · intro made hmade
    rw [record_decisions, List.mem_append, List.mem_singleton] at hmade
    rcases hmade with hold | rfl
    · obtain ⟨row, hrow, hrowId, hrowStatus⟩ := h.decided made hold
      refine ⟨row, mem_record_candidates hrow ?_, hrowId, hrowStatus⟩
      rw [hrowId]
      exact hothers made hold
    · exact ⟨_, hclosed, (close_id _ _ _ _).trans hid.symm, hstatus.trans hdecision.symm⟩
  · intro row' hrow' hnone
    rw [record_candidates] at hrow'
    obtain ⟨row, hrow, rfl⟩ := List.mem_map.mp hrow'
    rw [record_decisions, List.map_append, List.mem_append, not_or, List.map_singleton,
      List.mem_singleton, close_id, hid] at hnone
    rw [close_other hnone.2]
    exact h.undecided row hrow hnone.1
  · intro i
    rw [record_targets, List.map_append, List.mem_append, h.approvals i, record_holds hdecision]
    apply or_congr_right
    cases action
    · show i ∈ [s.decisions.length] ↔ _
      simp [ReviewDecisionAction.keys]
    · simp [ReviewDecisionAction.keys]
  · rw [record_targets, List.map_append, List.nodup_append]
    refine ⟨h.single, ?_, ?_⟩
    · cases action
      · exact List.nodup_singleton _
      · exact List.nodup_nil
    · intro old hold new hnew heq
      cases action with
      | approved =>
        obtain rfl : new = s.decisions.length := List.mem_singleton.mp hnew
        have hkey : ReviewEventKey.approved s.decisions.length ∈
            ReviewDecisionAction.approved.keys s.decisions.length s.targets.length :=
          List.mem_cons_self
        exact keys_new hkey ((h.approvals _).mp (heq ▸ hold))
      | rejected => cases hnew
  · intro target htarget
    rw [record_targets, List.mem_append] at htarget
    rcases htarget with hold | hnew
    · obtain ⟨made, row, hmade, hrow, hrowId, hmadeOf, hfree⟩ := h.targets target hold
      refine ⟨made, row, record_decision_at.mpr (Or.inl hmade), ?_, hrowId, hmadeOf, hfree⟩
      apply mem_record_candidates hrow
      rw [hrowId]
      exact hothers made (List.mem_of_getElem? hmade)
    · cases action with
      | approved =>
        obtain rfl := List.mem_singleton.mp hnew
        refine ⟨decision, _, record_decision_at.mpr (Or.inr ⟨rfl, rfl⟩), hclosed, ?_, ?_, ?_⟩
        · exact (close_id _ _ _ _).trans hid.symm
        · rw [QueuedReview.close, if_pos rfl]
          rfl
        · rw [QueuedReview.close, if_pos rfl]
          exact hblockers rfl
      | rejected => cases hnew
  · intro key
    rw [record_outbox, List.mem_append, h.announced key, record_holds hdecision]
  · rw [record_outbox, List.nodup_append]
    refine ⟨h.outbox, keys_nodup _ _, ?_⟩
    intro old hold new hnew heq
    exact keys_new hnew ((h.announced new).mp (heq ▸ hold))

omit [Casing] in
/-- A transaction at the desk returns and commits, or changes nothing. -/
theorem reviewScope_cases {α : Type} {program body : ReviewTx α}
    (hprogram : program = reviewScope body) (s : ReviewDesk) :
    (after program ⟨s, ()⟩).store = s ∨
      ∃ answer v, program ⟨s, ()⟩ = .ok answer v ∧ body ⟨s, ()⟩ = .ok answer v ∧
        (after program ⟨s, ()⟩).store = v.store := by
  subst hprogram
  unfold reviewScope Lib.after
  rw [Lib.sessionScope_run]
  cases hbody : body ⟨s, ()⟩ with
  | error e v => exact Or.inl rfl
  | ok answer v =>
    by_cases hvalid : v.store.constraintsOk = true
    · simp only [hvalid, if_true]
      exact Or.inr ⟨answer, v, rfl, rfl, rfl⟩
    · simp only [hvalid]
      exact Or.inl rfl

/-- The desk stays sound when its reviews keep what their decisions and targets depend on and
new reviews are open. -/
theorem ReviewDesk.Sound.replace (h : s.Sound tools) {rows : Table QueuedReview}
    (hids : (rows.map (·.id)).Nodup)
    (hkept : ∀ row ∈ s.candidates, ∃ row' ∈ rows, row'.id = row.id ∧ row'.status = row.status ∧
      (∀ i decision, targetFor row' i decision = targetFor row i decision) ∧
      reviewPolicyBlockers tools row' = reviewPolicyBlockers tools row)
    (hnew : ∀ row' ∈ rows, row'.status = "open" ∨
      ∃ row ∈ s.candidates, row.id = row'.id ∧ row.status = row'.status) :
    ReviewDesk.Sound tools { s with candidates := rows } := by
  refine ⟨hids, h.once, h.outcomes, ?_, ?_, h.approvals, h.single, ?_, h.announced, h.outbox⟩
  · intro decision hdecision
    obtain ⟨row, hrow, hid, hstatus⟩ := h.decided decision hdecision
    obtain ⟨row', hrow', hid', hstatus', -⟩ := hkept row hrow
    exact ⟨row', hrow', hid'.trans hid, hstatus'.trans hstatus⟩
  · intro row' hrow' hnone
    rcases hnew row' hrow' with hopen | ⟨row, hrow, hid, hstatus⟩
    · exact hopen
    · rw [← hstatus]
      apply h.undecided row hrow
      rw [hid]
      exact hnone
  · intro target htarget
    obtain ⟨decision, row, hdecision, hrow, hid, hmade, hfree⟩ := h.targets target htarget
    obtain ⟨row', hrow', hid', -, hsame, hblockers⟩ := hkept row hrow
    exact ⟨decision, row', hdecision, hrow', hid'.trans hid,
      hmade.trans (hsame _ _).symm, hblockers.trans hfree⟩

/-- A review under a new id leaves the desk sound if the constraints allow it. -/
theorem insertReview_sound (h : s.Sound tools) {row : QueuedReview} (hopen : row.status = "open")
    (hvalid : (queueReview row s).constraintsOk = true) : (queueReview row s).Sound tools := by
  refine h.replace ?_ ?_ ?_
  · simp only [ReviewDesk.constraintsOk, Bool.and_eq_true, Lib.Table.uniqueOn_iff,
      List.filterMap_eq_map'] at hvalid
    exact hvalid.1.1.1.1
  · intro old hold
    exact ⟨old, List.mem_append_left _ hold, rfl, rfl, fun _ _ => rfl, rfl⟩
  · intro row' hrow'
    rcases List.mem_append.mp hrow' with hold | hnew
    · exact Or.inr ⟨row', hold, rfl, rfl⟩
    · rw [List.mem_singleton.mp hnew]
      exact Or.inl hopen

/-- An edit leaves the desk sound. -/
theorem touchReview_sound (h : s.Sound tools) (id : String) (now : Time) :
    (touchReview id now s).Sound tools := by
  have htouch : ∀ row : QueuedReview, (row.touch id now).id = row.id ∧
      (row.touch id now).status = row.status ∧
      (∀ i decision, targetFor (row.touch id now) i decision = targetFor row i decision) ∧
      reviewPolicyBlockers tools (row.touch id now) = reviewPolicyBlockers tools row := by
    intro row
    unfold QueuedReview.touch
    split
    · exact ⟨rfl, rfl, fun _ _ => rfl, rfl⟩
    · exact ⟨rfl, rfl, fun _ _ => rfl, rfl⟩
  refine h.replace ?_ ?_ ?_
  · rw [List.map_map]
    have hids : s.candidates.map ((·.id) ∘ QueuedReview.touch id now) = s.candidates.map (·.id) :=
      List.map_congr_left fun row _ => (htouch row).1
    rw [hids]
    exact h.ids
  · intro row hrow
    exact ⟨_, List.mem_map_of_mem hrow, htouch row⟩
  · intro row' hrow'
    obtain ⟨row, hrow, rfl⟩ := List.mem_map.mp hrow'
    exact Or.inr ⟨row, hrow, (htouch row).1.symm, (htouch row).2.1.symm⟩

open Std.Do in
set_option mvcgen.warning false in
theorem requestQueuedReview_sound (h : s.Sound tools) (request : ReviewRequest) (id : String)
    (now : Time) : (after (requestQueuedReview request id now) ⟨s, ()⟩).store.Sound tools := by
  refine (Lib.sessionScope_keeps (I := ReviewDesk.Sound tools) h ?_).1
  mvcgen [reviewFlush, Lib.flush]
  all_goals subst_vars
  · exact h
  · exact insertReview_sound h rfl ‹_›

open Std.Do in
set_option mvcgen.warning false in
theorem updateReviewCandidate_sound (h : s.Sound tools) (id : String) (now : Time) :
    (after (updateReviewCandidate id now) ⟨s, ()⟩).store.Sound tools := by
  refine (Lib.sessionScope_keeps (I := ReviewDesk.Sound tools) h ?_).1
  mvcgen [reviewFlush, Lib.flush]
  all_goals subst_vars
  · exact h
  · exact touchReview_sound h id now

end Steps

section Runs

variable [Casing] {tools : PolicyTools} {s : ReviewDesk} {now : Time}

/-- The rounds of a bulk decision leave the desk sound: a decision leaves the reviews of the
later rounds as they were read. -/
theorem decideEach_sound {request : BulkReviewDecisionRequest} {actor key : String}
    {candidates : List QueuedReview} {decisions : List ReviewDecision} {w v : ReviewWorld}
    (h : w.store.Sound tools) (hstored : ∀ candidate ∈ candidates, candidate ∈ w.store.candidates)
    (hids : (candidates.map (·.id)).Nodup)
    (hrun : decideEach tools now request actor key candidates w = .ok decisions v) :
    v.store.Sound tools := by
  induction candidates generalizing w decisions with
  | nil =>
    simp only [decideEach, Lib.pure_run, EStateM.Result.ok.injEq] at hrun
    rw [← hrun.2]
    exact h
  | cons candidate rest ih =>
    obtain ⟨version, decision, later, middle, -, -, hrest, hmade⟩ := decideEach_cons hrun
    rw [List.map_cons, List.nodup_cons] at hids
    rcases hmade with ⟨-, rfl⟩ | ⟨-, hnew⟩
    · exact ih h (fun other hother => hstored other (List.mem_cons_of_mem _ hother)) hids.2 hrest
    · obtain ⟨hstore, hvalid, hblockers, hid, hdecision⟩ := returns_of_triple
        (inSession_ok request.decision now candidate _ actor _ w.store) rfl hnew
      refine ih ?_ ?_ hids.2 hrest
      · rw [hstore]
        exact record_sound h (hstored _ List.mem_cons_self) (validate_open hvalid) hblockers hid
          hdecision
      · intro other hother
        rw [hstore]
        apply mem_record_candidates (hstored other (List.mem_cons_of_mem _ hother))
        intro heq
        exact hids.1 (heq ▸ List.mem_map_of_mem hother)

/-- A decision on one review leaves the desk sound. -/
theorem decideReviewCandidate_sound (h : s.Sound tools) (action : ReviewDecisionAction)
    (candidateId : String) (request : ReviewDecisionRequest) (actor key : String) :
    (after (decideReviewCandidate tools action now candidateId request actor key)
      ⟨s, ()⟩).store.Sound tools := by
  have hprogram : decideReviewCandidate tools action now candidateId request actor key =
    reviewScope _ := rfl
  rcases reviewScope_cases hprogram s with hsame | ⟨answer, v, -, hbody, hafter⟩
  · rw [hsame]
    exact h
  · rw [hafter]
    simp only [Lib.bind_run, Lib.query_run] at hbody
    cases hexisting : existingDecision key s with
    | some existing =>
      simp only [hexisting, Lib.pure_run, EStateM.Result.ok.injEq] at hbody
      rw [← hbody.2]
      exact h
    | none =>
      simp only [hexisting, Lib.bind_run, Lib.query_run] at hbody
      cases hfound : s.candidates.find? (·.id == candidateId) with
      | none =>
        simp only [hfound, Lib.pure_run, EStateM.Result.ok.injEq] at hbody
        rw [← hbody.2]
        exact h
      | some candidate =>
        simp only [hfound, Lib.bind_run] at hbody
        split at hbody
        · next decision middle hmade =>
          obtain ⟨hstore, hvalid, hblockers, hid, hdecision⟩ := returns_of_triple
            (inSession_ok action now candidate request actor key s) rfl hmade
          simp only [Lib.pure_run, EStateM.Result.ok.injEq] at hbody
          rw [← hbody.2, hstore]
          exact record_sound h (List.mem_of_find?_eq_some hfound) (validate_open hvalid) hblockers
            hid hdecision
        · cases hbody

theorem bulkDecide_sound (h : s.Sound tools) (request : BulkReviewDecisionRequest)
    (actor key : String) :
    (after (bulkDecideReviewCandidates tools now request actor key) ⟨s, ()⟩).store.Sound
      tools := by
  have hprogram : bulkDecideReviewCandidates tools now request actor key = reviewScope _ := rfl
  rcases reviewScope_cases hprogram s with hsame | ⟨decisions, v, hrun, -, hafter⟩
  · rw [hsame]
    exact h
  · obtain ⟨-, hloop, -⟩ := (bulk_ok_iff tools request actor key).mp hrun
    have hstored : ∀ candidate ∈ request.named s, candidate ∈ s.candidates := fun _ hmember =>
      (List.mem_filter.mp hmember).1
    have hids : ((request.named s).map (·.id)).Nodup :=
      h.ids.sublist (List.filter_sublist.map _)
    rw [hafter]
    exact decideEach_sound h hstored hids hloop

variable (tools)

/-- After any run of requests, edits and decisions, single or in bulk, the tables of the desk
agree. -/
theorem review_desk_sound (calls : List DeskCall) :
    (run (DeskCall.step tools) {} calls).Sound tools := by
  apply Lib.run_always_keeps (I := ReviewDesk.Sound tools)
  · intro s call h
    cases call with
    | ask request id now => exact requestQueuedReview_sound h request id now
    | update id now => exact updateReviewCandidate_sound h id now
    | decision call =>
      cases call with
      | decide action now candidateId request actor key =>
        exact decideReviewCandidate_sound h action candidateId request actor key
      | bulk now request actor key => exact bulkDecide_sound h request actor key
  · refine ⟨List.nodup_nil, List.nodup_nil, nofun, nofun, nofun, ?_, List.nodup_nil, nofun, ?_,
      List.nodup_nil⟩
    · intro i
      simp [ReviewEventKey.Holds]
    · intro key
      cases key <;> simp [ReviewEventKey.Holds]

end Runs

end GhostRecon
