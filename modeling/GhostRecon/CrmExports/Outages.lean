import GhostRecon.CrmExports.Attio
import GhostRecon.Meeting.Statuses

/-!
An outage of the CRM and the work of its callers. A refusal that says so is recorded beside
the work and may be retried; no answer at all is not the error the callers catch, and takes
with it what they had done: the other items of the batch, the outcome of the meeting.
-/

namespace GhostRecon

open Lib (Id Table after)
open Std.Do

set_option mvcgen.warning false

section Batches

variable [Casing] {host : AttioHost} {rt : ExportRuntime} {up : CrmExporter} {w v : ExportWorld}
  {b : Id} {batch : CrmExportBatch}

omit [Casing] in
/-- After an outage the database accepts what the client answers when all calls are answered
in good order, with waits that fit. -/
theorem answerFits_of_out {plan : CrmExportPlan} (hout : plan.upsert.out host = true) :
    answerFits (attioExporter host plan) =
      (plan.upsert.answered host && plan.upsert.waitsFit host) := by
  unfold attioExporter
  cases hanswered : plan.upsert.answered host with
  | false =>
    obtain ⟨e, hraised, -⟩ := upsertPlan_escapes hanswered
    rw [hraised]
    rfl
  | true =>
    obtain ⟨answer, hends, hretry⟩ := upsertPlan_answers hanswered
    obtain ⟨error, rfl, -, hwait⟩ := hretry hout
    rw [hends, Bool.true_and]
    exact hwait

/-- The CRM answers like `up`, but for the plans that meet an outage. -/
def OutageOf (host : AttioHost) (up : CrmExporter) : Prop :=
  ∀ plan : CrmExportPlan, plan.upsert.out host = false → attioExporter host plan = up plan

/-- The plans of the waiting items that meet an outage are answered in good order. -/
def OutagesAnswered (host : AttioHost) (rt : ExportRuntime) (w : ExportWorld) (b : Id) : Prop :=
  ∀ i item, Waits w.store b i item → ∀ target, w.store.crmTargets[item.crmTargetId]? = some target →
    ∀ plan, planForTarget rt.crm w.store item.crmTargetId target = .ok plan →
      plan.upsert.out host = true →
        plan.upsert.answered host = true ∧ plan.upsert.waitsFit host = true

/-- A batch that finishes while the CRM is up outlives the outages that are answered, and
only these. -/
theorem outlives_iff (hreach : ReachableExports w)
    (hbatch : w.store.exportBatches[b]? = some batch) (hlike : OutageOf host up)
    (hup : Finishes rt up w b v) :
    (∃ v', Finishes rt (attioExporter host) w b v') ↔ OutagesAnswered host rt w b := by
  have hsettles := batchSettles_iff.mp ((finishes_iff_settles hreach hbatch).mp ⟨v, hup⟩)
  rw [finishes_iff_settles hreach hbatch, batchSettles_iff]
  constructor
  · intro h i item hwaits target htarget plan hplan hout
    have hfits := (h i item hwaits target htarget).2 plan hplan
    rw [answerFits_of_out hout] at hfits
    exact Bool.and_eq_true_iff.mp hfits
  · intro h i item hwaits target htarget
    obtain ⟨hrepresented, hplans⟩ := hsettles i item hwaits target htarget
    refine ⟨hrepresented, ?_⟩
    intro plan hplan
    cases hout : plan.upsert.out host with
    | true =>
      rw [answerFits_of_out hout]
      exact Bool.and_eq_true_iff.mpr (h i item hwaits target htarget plan hplan hout)
    | false =>
      rw [hlike plan hout]
      exact hplans plan hplan

end Batches

section Meetings

/-- The outcome of the meeting is on record. -/
structure OutcomeStands (m : Id) (request : MeetingOutcomeRequest) (key : String)
    (v : MeetingWorld) : Prop where
  row : ∃ row, v.store.meetings[m]? = some row ∧
    row.outcomeStatus = some request.outcomeStatus.value ∧
    row.outcomeNotes = request.outcomeNotes ∧ row.nextSteps = request.nextSteps
  announced : ∃ event ∈ v.store.outbox,
    event.idempotencyKey = .keyed .meetingOutcomeRecorded m key

/-- A failed sync is stored beside the meeting if its wait has room, when any failure
is. -/
theorem recordSyncFailure_constraints {now : Time} {m : Id} {row : MeetingHandoff}
    {failure plain : CrmFailure} {s : MeetingStore} (hrow : s.meetings[m]? = some row)
    (hvalid : (recordSyncFailure now m plain s).constraintsOk = true) :
    (recordSyncFailure now m failure s).constraintsOk =
      failure.retryAfterSeconds.all fitsInteger := by
  have hunique : ∀ f : CrmFailure, (recordSyncFailure now m f s).followUpTasks.filterMap
      (fun task => some task.idempotencyKey) =
        s.followUpTasks.filterMap fun task => some task.idempotencyKey := by
    intro f
    simp only [recordSyncFailure, MeetingStore.updateTasksOf, List.filterMap_map]
    congr 1
    funext task
    simp only [Function.comp]
    split <;> rfl
  have hfits : ∀ f : CrmFailure, (recordSyncFailure now m f s).followUpTasks.all
      MeetingFollowUpTask.fits = s.followUpTasks.all MeetingFollowUpTask.fits := by
    intro f
    simp only [recordSyncFailure, MeetingStore.updateTasksOf, List.all_map]
    congr 1
    funext task
    simp only [Function.comp]
    split <;> rfl
  have hkeys : ∀ f : CrmFailure, Table.uniqueOn (s.meetings.modify m (syncFailedRow now f))
      (fun row => some row.idempotencyKey) =
        s.meetings.uniqueOn (fun row => some row.idempotencyKey) :=
    fun f => Table.uniqueOn_modify fun _ => rfl
  have hshared : (recordSyncFailure now m failure s).toStore.constraintsOk =
      (recordSyncFailure now m plain s).toStore.constraintsOk := by
    simp only [recordSyncFailure, MeetingStore.updateTasksOf, MeetingStore.updateMeeting,
      Store.constraintsOk, Store.keysOk, Store.widthsOk, hkeys]
  simp only [MeetingStore.constraintsOk, Bool.and_eq_true, Table.uniqueOn, hunique, hfits] at hvalid
  obtain ⟨⟨⟨⟨hstore, htasks⟩, hpackets⟩, hwidths⟩, hold⟩ := hvalid
  have hwaits : (recordSyncFailure now m failure s).meetings.all MeetingHandoff.waitFits =
      failure.retryAfterSeconds.all fitsInteger :=
    Table.all_modify_one hrow hold
  have hrest : Table.uniqueOn (recordSyncFailure now m failure s).prepPackets
      (·.idempotencyKey) = true := hpackets
  rw [MeetingStore.constraintsOk, hshared, hstore, hrest, hwaits, hfits, hwidths]
  simp only [Table.uniqueOn, hunique, htasks, Bool.true_and, Bool.and_true]

variable [Casing] {host : AttioHost} {slug : Option String} {rt : Runtime} {m : Id}
  {request : MeetingOutcomeRequest} {actor key : String} {w : MeetingWorld}

/-- The call commits with the outcome on record. -/
def RecordsOutcome (rt : Runtime) (m : Id) (request : MeetingOutcomeRequest) (actor key : String)
    (client : CrmSyncClient) (w : MeetingWorld) : Prop :=
  ∃ v, recordMeetingOutcome rt m request actor key client w = .ok (some m) v ∧
    OutcomeStands m request key v

/-- What is written before the CRM is called. -/
def writeOutcome (rt : Runtime) (m : Id) (request : MeetingOutcomeRequest) (key : String) :
    MeetingTx PUnit := do
  Lib.write (·.updateMeeting m (outcomeRow rt.now request))
  let tasks ← createFollowUpTasks rt m 1 request.followUpTasks
  Lib.write (·.enqueue .meetingOutcomeRecorded "meeting_handoff" m
    (.keyed .meetingOutcomeRecorded m key))
  Lib.write (announceTasks tasks)

theorem recordMeetingOutcome_fresh {client : CrmSyncClient} {row : MeetingHandoff}
    (hrow : w.store.meetings[m]? = some row)
    (hfresh : (w.store.outbox.any
      (·.idempotencyKey == .keyed .meetingOutcomeRecorded m key)) = false) :
    recordMeetingOutcome rt m request actor key client w =
      meetingScope (do
        writeOutcome rt m request key
        syncMeetingToCrm rt m actor client
        return some m) w := by
  simp only [recordMeetingOutcome, writeOutcome, meetingScope, Lib.sessionScope_run, Lib.bind_run,
    Lib.query_run, hrow, hfresh, bind_assoc, Bool.false_eq_true, if_false]

/-- The world in which the CRM is called. -/
structure OutcomeWritten (rt : Runtime) (m : Id) (request : MeetingOutcomeRequest) (key : String)
    (row : MeetingHandoff) (w v : MeetingWorld) : Prop where
  row : v.store.meetings[m]? = some (outcomeRow rt.now request row)
  external : v.external = w.external
  announced : ∃ event ∈ v.store.outbox,
    event.idempotencyKey = .keyed .meetingOutcomeRecorded m key

omit [Casing] in
theorem mem_announceTasks {tasks : List Id} {s : MeetingStore} {event : OutboxEvent}
    (h : event ∈ s.outbox) : event ∈ (announceTasks tasks s).outbox := by
  unfold announceTasks
  induction tasks generalizing s with
  | nil => exact h
  | cons task rest ih =>
    rw [List.foldl_cons]
    apply ih
    exact List.mem_append_left _ h

theorem writeOutcome_establishes {row : MeetingHandoff} (hrow : w.store.meetings[m]? = some row) :
    Lib.Establishes (writeOutcome rt m request key) w
      (fun _ v => OutcomeWritten rt m request key row w v)
      (fun _ v => v.external = w.external) := by
  apply Lib.establishes_of_triple
  have htasks := createFollowUpTasks_keeps rt m 1 request.followUpTasks
    (w.store.meetings.modify m (outcomeRow rt.now request)) w.external
  have hwritten : (w.store.meetings.modify m (outcomeRow rt.now request))[m]? =
      some (outcomeRow rt.now request row) := by
    rw [List.getElem?_modify_eq, hrow]
    rfl
  mvcgen [writeOutcome, htasks]
  all_goals subst_vars
  · exact ⟨rfl, rfl⟩
  · next tasks v hv =>
    obtain ⟨hmeetings, hexternal⟩ := hv
    refine ⟨?_, hexternal, ?_⟩
    · rw [announceTasks_meetings]
      exact (congrArg (·[m]?) hmeetings).trans hwritten
    · exact ⟨_, mem_announceTasks (List.mem_append_right _ (List.mem_singleton_self _)), rfl⟩

omit [Casing] in
/-- The call with a client that is there, by what the client does. -/
theorem syncMeetingToCrm_run
    {sync : CrmSyncPlan → Except PyError (Except CrmFailure CrmExportResult)}
    {row : MeetingHandoff} {plan : CrmSyncPlan} (hrow : w.store.meetings[m]? = some row)
    (hplan : plan = crmSyncPlan m row (w.store.tasksOf m) actor) :
    syncMeetingToCrm rt m actor (.enabled sync) w =
      match sync plan with
      | .error e => .error e { w with
          external := { w.external with syncs := w.external.syncs ++ [plan] } }
      | .ok (.error failure) => .ok PUnit.unit {
          store := recordSyncFailure rt.now m failure w.store
          external := { w.external with syncs := w.external.syncs ++ [plan] } }
      | .ok (.ok result) => .ok PUnit.unit {
          store := recordSyncSuccess rt.now m row result w.store
          external := { w.external with syncs := w.external.syncs ++ [plan] } } := by
  subst hplan
  simp only [syncMeetingToCrm, Lib.bind_run, Lib.query_run, hrow, Lib.perform_run]
  cases sync (crmSyncPlan m row (w.store.tasksOf m) actor) with
  | error e => rfl
  | ok answer => cases answer <;> rfl

omit [Casing] in
/-- Whatever becomes of the call, its plan was sent. -/
theorem syncMeetingToCrm_sends
    {sync : CrmSyncPlan → Except PyError (Except CrmFailure CrmExportResult)} {row : MeetingHandoff} (hrow : w.store.meetings[m]? = some row) :
    (after (syncMeetingToCrm rt m actor (.enabled sync)) w).external.syncs =
      w.external.syncs ++ [crmSyncPlan m row (w.store.tasksOf m) actor] := by
  rw [after, syncMeetingToCrm_run hrow rfl]
  cases sync (crmSyncPlan m row (w.store.tasksOf m) actor) with
  | error e => rfl
  | ok answer => cases answer <;> rfl

omit [Casing] in
/-- A failed sync leaves the outcome on record. -/
theorem OutcomeWritten.stands {row : MeetingHandoff} {v : MeetingWorld} {x : MeetingExternal}
    (h : OutcomeWritten rt m request key row w v) (failure : CrmFailure) :
    OutcomeStands m request key ⟨recordSyncFailure rt.now m failure v.store, x⟩ where
  row := by
    have hstored : (recordSyncFailure rt.now m failure v.store).meetings[m]? =
        some (syncFailedRow rt.now failure (outcomeRow rt.now request row)) := by
      simp only [recordSyncFailure, MeetingStore.updateTasksOf, MeetingStore.updateMeeting]
      rw [List.getElem?_modify_eq, h.row]
      rfl
    exact ⟨_, hstored, rfl, rfl, rfl⟩
  announced := h.announced

/-- The meeting exists and the call is new: otherwise nothing would be sent. -/
theorem sent_of_syncs {client : CrmSyncClient} {plan : CrmSyncPlan}
    (hsent : (after (recordMeetingOutcome rt m request actor key client) w).external.syncs =
      w.external.syncs ++ [plan]) :
    ∃ row, w.store.meetings[m]? = some row ∧
      (w.store.outbox.any (·.idempotencyKey == .keyed .meetingOutcomeRecorded m key)) = false := by
  have hidle : (after (recordMeetingOutcome rt m request actor key client) w).external ≠
      w.external := by
    intro hsame
    rw [hsame] at hsent
    simp at hsent
  cases hrow : w.store.meetings[m]? with
  | none =>
    refine absurd ?_ hidle
    rw [recordMeetingOutcome, meetingScope, Lib.after_sessionScope_idle (a := none)]
    simp only [Lib.bind_run, Lib.query_run, hrow, Lib.pure_run]
  | some row =>
    refine ⟨row, rfl, ?_⟩
    by_contra hreplay
    refine hidle ?_
    rw [Bool.not_eq_false] at hreplay
    rw [recordMeetingOutcome, meetingScope, Lib.after_sessionScope_idle (a := some m)]
    simp only [Lib.bind_run, Lib.query_run, hrow, hreplay, if_true, Lib.pure_run]

/-- An outcome that is recorded while the CRM is disabled outlives an outage that is
answered, and no other. -/
theorem outcome_outlives_iff {plan : CrmSyncPlan}
    (hup : RecordsOutcome rt m request actor key .disabled w)
    (hsent : (after (recordMeetingOutcome rt m request actor key (attioSyncClient host slug))
      w).external.syncs = w.external.syncs ++ [plan])
    (hout : (plan.upsert slug).out host = true) :
    RecordsOutcome rt m request actor key (attioSyncClient host slug) w ↔
      (plan.upsert slug).answered host = true ∧ (plan.upsert slug).waitsFit host = true := by
  obtain ⟨row, hrow, hfresh⟩ := sent_of_syncs hsent
  obtain ⟨v, hrecorded, -⟩ := hup
  have hwrite : Lib.Establishes (writeOutcome rt m request key) w _ _ :=
    writeOutcome_establishes hrow
  rw [recordMeetingOutcome_fresh hrow hfresh] at hrecorded
  rw [Lib.after_congr (recordMeetingOutcome_fresh hrow hfresh), meetingScope] at hsent
  unfold RecordsOutcome
  rw [recordMeetingOutcome_fresh hrow hfresh]
  simp only [meetingScope, Lib.sessionScope_run, Lib.bind_run] at hrecorded ⊢
  cases hrun : writeOutcome rt m request key w with
  | error e inner => simp [hrun] at hrecorded
  | ok u inner =>
    rw [Lib.Establishes, hrun] at hwrite
    simp only [hrun] at hrecorded ⊢
    have hdisabled : syncMeetingToCrm rt m actor .disabled inner = .ok PUnit.unit { inner with
        store := recordSyncFailure rt.now m { message := "CRM provider is disabled" }
          inner.store } := by
      simp only [syncMeetingToCrm, Lib.bind_run, Lib.query_run, hwrite.row, Lib.write_run]
    have hvalid : (recordSyncFailure rt.now m { message := "CRM provider is disabled" }
        inner.store).constraintsOk = true := by
      rw [hdisabled] at hrecorded
      simp only [Lib.pure_run] at hrecorded
      by_contra hinvalid
      simp [hinvalid] at hrecorded
    have hplan : plan = crmSyncPlan m (outcomeRow rt.now request row)
        (inner.store.tasksOf m) actor := by
      have hsends : (after (syncMeetingToCrm rt m actor (attioSyncClient host slug))
          inner).external.syncs = _ := syncMeetingToCrm_sends hwrite.row
      rw [Lib.after_sessionScope_external, Lib.after_bind_ok hrun, Lib.after_bind_pure, hsends,
        hwrite.external] at hsent
      simpa using hsent.symm
    unfold attioSyncClient
    rw [syncMeetingToCrm_run hwrite.row hplan]
    cases hanswered : (plan.upsert slug).answered host with
    | false =>
      obtain ⟨e, hraised, hescapes⟩ := upsertPlan_escapes hanswered
      simp only [hraised, hescapes hout]
      simp
    | true =>
      obtain ⟨answer, hends, hretry⟩ := upsertPlan_answers hanswered
      obtain ⟨error, rfl, -, hwait⟩ := hretry hout
      simp only [hends, Lib.pure_run]
      rw [recordSyncFailure_constraints hwrite.row hvalid, hwait]
      cases hfits : (plan.upsert slug).waitsFit host with
      | false => simp
      | true =>
        rw [if_pos rfl]
        constructor
        · intro _
          simp
        · intro _
          exact ⟨_, rfl, hwrite.stands _⟩

end Meetings

section Claim

variable [Casing]

/-- The client ends well on exactly the plans whose calls are all answered in good order, and
exactly these outages spare a batch that would finish and an outcome that would be recorded. -/
theorem attio_outages_iff (host : AttioHost) :
    (∀ plan, EndsWell host plan ↔ plan.answered host = true) ∧
      (∀ (rt : ExportRuntime) (up : CrmExporter) (w v : ExportWorld) (b : Id)
          (batch : CrmExportBatch), ReachableExports w → w.store.exportBatches[b]? = some batch →
        OutageOf host up → Finishes rt up w b v →
          ((∃ v', Finishes rt (attioExporter host) w b v') ↔ OutagesAnswered host rt w b)) ∧
      ∀ (rt : Runtime) (slug : Option String) (m : Id) (request : MeetingOutcomeRequest)
          (actor key : String) (w : MeetingWorld) (plan : CrmSyncPlan),
        RecordsOutcome rt m request actor key .disabled w →
        (after (recordMeetingOutcome rt m request actor key (attioSyncClient host slug))
          w).external.syncs = w.external.syncs ++ [plan] →
        (plan.upsert slug).out host = true →
          (RecordsOutcome rt m request actor key (attioSyncClient host slug) w ↔
            (plan.upsert slug).answered host = true ∧ (plan.upsert slug).waitsFit host = true) := by
  refine ⟨fun plan => endsWell_iff, ?_, ?_⟩
  · intro rt up w v b batch hreach hbatch hlike hup
    exact outlives_iff hreach hbatch hlike hup
  · intro rt slug m request actor key w plan hup hsent hout
    exact outcome_outlives_iff hup hsent hout

end Claim

section Outage

theorem encodeFields_json (fields : List (String × Json)) :
    encodeFields (fields.map fun field => (field.1, .json field.2)) = some fields := by
  induction fields with
  | nil => rfl
  | cons field rest ih => simp [encodeFields, PlanValue.encode, ih]

/-- The record of an export plan can be sent. -/
theorem recordCall_encodes (plan : CrmExportPlan) :
    ∃ json, (recordCall plan.upsert).body.encode = some json := by
  simp [recordCall, CrmExportPlan.upsert, PlanValue.encode, encodeFields, encodeFields_json]

/-- The CRM answers, but serves nobody. -/
def busyHost : AttioHost where
  transport _ := .answered { status := 503 }
  intOfText _ := none

/-- A plan whose record can be sent meets the outage, and is answered. -/
theorem busyHost_answers {plan : UpsertPlan} {json : Json}
    (hjson : (recordCall plan).body.encode = some json) :
    plan.out busyHost = true ∧ plan.answered busyHost = true ∧ plan.waitsFit busyHost = true := by
  have houtcome : (recordCall plan).outcome busyHost = some (.answered { status := 503 }) := by
    rw [AttioCall.outcome, hjson]
    rfl
  have hcalls : planCalls busyHost plan = [recordCall plan] := by
    have hnone : filedRecord busyHost plan = none := by
      rw [filedRecord, attioRequest, hjson]
      rfl
    rw [planCalls, hnone]
    rfl
  refine ⟨?_, ?_, ?_⟩
  · rw [UpsertPlan.out, hcalls, List.any_cons, AttioCall.out, houtcome]
    rfl
  · rw [UpsertPlan.answered, hcalls, List.all_cons, AttioCall.answered, houtcome]
    rfl
  · rw [UpsertPlan.waitsFit, hcalls, List.all_cons, AttioCall.retryAfter, houtcome]
    rfl

/-- The name in the record that is sent. -/
def sentName (json : Json) : Option String :=
  optionalStr (((json.get? "data").bind (·.get? "values")).bind (·.get? "name"))

/-- The line drops when the record of Beta or of a meeting is sent. -/
def droppedLine : AttioHost where
  transport request :=
    if sentName request.json = some "Beta" ∨ request.path = "/v2/objects/meeting_handoffs/records"
    then .failed "connection reset"
    else .answered {
      status := 200
      json := some (.obj [("data", .obj [("id", .obj [("record_id", .str "record-1")])])]) }
  intOfText _ := none

/-- The target of a second company. -/
def betaTarget : CrmTarget where
  targetType := "company"
  targetId := 1
  idempotencyKey := "target:beta"

/-- Two companies wait for export. -/
def twoCompanies : ExportWorld where
  store := {
    accounts := [{ companyName := "Acme", domain := some "acme.example" },
      { companyName := "Beta", domain := some "beta.example" }]
    crmTargets := [acmeTarget, betaTarget] }
  external := {}

def twoOpened : ExportWorld :=
  runExports twoCompanies [openingStep [acmeTarget, betaTarget]]

theorem twoOpened_reachable : ReachableExports twoOpened := by
  have hinitial : ExportsInitial twoCompanies := {
    constraints := by decide +kernel
    batches := rfl
    items := rfl
    outbox := by simp [twoCompanies]
    exports := rfl }
  exact ⟨twoCompanies, _, hinitial, rfl⟩

/-- The outcome of a booked meeting is recorded. -/
def recordAda (client : CrmSyncClient) : MeetingTx (Option Id) :=
  recordMeetingOutcome { now := 300 } 0 {} "operator" "outcome:1" client

/-- Acme is exported, and the record of it is rolled back when the line drops for Beta; the
outcome of the meeting is rolled back as well. -/
theorem dropped_line_discards_work :
    (∃ plan, ¬ EndsWell droppedLine plan) ∧
      ReachableExports twoOpened ∧
      (after (processCrmExportBatch { now := 2 } (.available (attioExporter droppedLine)) 0)
        twoOpened).external.exports.map (·.targetId) = [0, 1] ∧
      (after (processCrmExportBatch { now := 2 } (.available (attioExporter droppedLine)) 0)
        twoOpened).store.exportItems.map (·.status) = [.pending, .pending] ∧
      (after (recordAda .disabled) (meetingStep meetingDesk bookAda)).store.meetings.map
        (·.outcomeStatus) = [some "completed"] ∧
      (after (recordAda (attioSyncClient droppedLine none))
        (meetingStep meetingDesk bookAda)).store.meetings.map (·.outcomeStatus) = [none] := by
  refine ⟨?_, twoOpened_reachable, by decide +kernel, by decide +kernel, by decide +kernel,
    by decide +kernel⟩
  let meeting : UpsertPlan := {
    providerObject := "meeting_handoffs"
    matchingAttribute := "ghostrecon_id"
    values := []
    listApiSlug := none
    listEntryValues := [] }
  refine ⟨meeting, ?_⟩
  rw [endsWell_iff]
  decide +kernel

/-- With the CRM disabled the outcome is recorded. -/
theorem disabled_crm_records : OutcomeStands 0 {} "outcome:1"
    (after (recordAda .disabled) (meetingStep meetingDesk bookAda)) where
  row := by
    have hrow : ((after (recordAda .disabled)
        (meetingStep meetingDesk bookAda)).store.meetings[0]?).any (fun row =>
          row.outcomeStatus == some "completed" && row.outcomeNotes == none &&
            row.nextSteps == []) = true := by
      decide +kernel
    obtain ⟨row, hstored, hcolumns⟩ := (Option.any_eq_true _ _).mp hrow
    simp only [Bool.and_eq_true, beq_iff_eq, and_assoc] at hcolumns
    exact ⟨row, hstored, hcolumns⟩
  announced := by
    have hany : (after (recordAda .disabled) (meetingStep meetingDesk bookAda)).store.outbox.any
        (·.idempotencyKey == .keyed .meetingOutcomeRecorded 0 "outcome:1") = true := by
      decide +kernel
    simpa using hany

/-- A CRM that is busy costs neither the batch nor the outcome. -/
theorem busy_crm_spares_work :
    (∃ v, Finishes { now := 2 } (attioExporter busyHost) (openedDesk [acmeTarget]) 0 v) ∧
      RecordsOutcome { now := 300 } 0 {} "operator" "outcome:1" (attioSyncClient busyHost none)
        (meetingStep meetingDesk bookAda) := by
  obtain ⟨batch, hbatch⟩ := company_batch_opened
  have hreach : ReachableExports (openedDesk [acmeTarget]) :=
    openedDesk_reachable (by decide +kernel)
  obtain ⟨v, hup⟩ := (finishes_iff_settles hreach hbatch).mpr
    (company_batch_settles (by decide +kernel : (planForTarget {} _ 0 acmeTarget).toOption.all
      (fun plan => answerFits (filingExporter plan)) = true))
  constructor
  · have hlike : OutageOf busyHost filingExporter := by
      intro plan hcalm
      obtain ⟨json, hjson⟩ := recordCall_encodes plan
      rw [(busyHost_answers hjson).1] at hcalm
      cases hcalm
    apply ((attio_outages_iff busyHost).2.1 _ _ _ _ _ _ hreach hbatch hlike hup).mpr
    intro i item hwaits target htarget plan hplan hout
    obtain ⟨json, hjson⟩ := recordCall_encodes plan
    exact (busyHost_answers hjson).2
  · obtain ⟨plan, hsent⟩ : ∃ plan, (after (recordAda (attioSyncClient busyHost none))
        (meetingStep meetingDesk bookAda)).external.syncs = [plan] := by
      apply List.length_eq_one_iff.mp
      decide +kernel
    have hencodes : (after (recordAda (attioSyncClient busyHost none))
        (meetingStep meetingDesk bookAda)).external.syncs.all (fun plan =>
          ((recordCall (plan.upsert none)).body.encode).isSome) = true := by
      decide +kernel
    rw [hsent, List.all_cons, Bool.and_eq_true] at hencodes
    obtain ⟨json, hjson⟩ := Option.isSome_iff_exists.mp hencodes.1
    have hdisabled : RecordsOutcome { now := 300 } 0 {} "operator" "outcome:1" .disabled
        (meetingStep meetingDesk bookAda) :=
      ⟨_, Lib.run_of_returned (by decide +kernel), disabled_crm_records⟩
    exact ((attio_outages_iff busyHost).2.2 _ _ _ _ _ _ _ plan hdisabled hsent
      (busyHost_answers hjson).1).mpr (busyHost_answers hjson).2

end Outage

end GhostRecon
