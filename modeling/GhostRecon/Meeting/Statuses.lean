import GhostRecon.Lib.Run
import GhostRecon.Meeting.Outcomes
import GhostRecon.Sequencing.Operations

/-!
The status of a meeting over whole runs. One column holds the business state and
the marker of a failed CRM sync, and nothing looks at it before it is written.
Two laws hold only on a condition: a retry of a marked meeting sends the marker
to the CRM and leaves it beside a successful sync, and a canceled meeting is
reopened by a later outcome or a failing retry.
-/

namespace GhostRecon

open Lib (Id Table after)
open Std.Do

set_option mvcgen.warning false

section Effects

variable [Casing]

/-- New meetings are scheduled and not synced; the others stay as they are. -/
def MeetingsGrown (meetings meetings' : Table MeetingHandoff) : Prop :=
  ∃ more, meetings' = meetings ++ more ∧
    ∀ row ∈ more, row.status = .scheduled ∧ row.crmSyncStatus = "pending"

omit [Casing] in
theorem MeetingsGrown.refl (meetings : Table MeetingHandoff) :
    MeetingsGrown meetings meetings :=
  ⟨[], by simp, by simp⟩

omit [Casing] in
private theorem modify_concat_length {ρ : Type} (rows : List ρ) (row : ρ) (f : ρ → ρ) :
    (rows ++ [row]).modify rows.length f = rows ++ [f row] := by
  induction rows with
  | nil => rfl
  | cons head rest ih => simpa using ih

omit [Casing] in
theorem recordMeeting_meetings {now : Time} {result : CalendarEventResult}
    {enrollment : Option (Id × SequenceEnrollment)} {s : Store} {row : MeetingHandoff} :
    (recordMeeting now s.meetings.length result enrollment (s.insertMeeting row)).meetings =
      s.meetings ++ [{ row with
        calendarId := result.calendarId
        providerEventId := result.providerEventId
        providerHtmlLink := result.htmlLink
        updatedAt := now }] := by
  have hbooked : ∀ t : Store, (completeBooked now enrollment t).meetings = t.meetings := by
    intro t
    unfold completeBooked
    split
    · split <;> rfl
    · rfl
  simp only [recordMeeting, enqueueEvent, hbooked, recordCalendar, Store.insertMeeting,
    modify_concat_length]

theorem createMeeting_meetings (rt : Runtime) (request : MeetingCreateRequest)
    (actor key : String) (client : CalendarClient) (w : DbWorld) :
    MeetingsGrown w.store.meetings
      (after (createMeeting rt request actor key client) w).store.meetings := by
  let grown : Store → Prop := fun s => MeetingsGrown w.store.meetings s.meetings
  show grown _
  unfold createMeeting
  split
  · exact MeetingsGrown.refl _
  · refine (Lib.sessionScope_keeps (I := grown) (MeetingsGrown.refl _) ?_).1
    mvcgen [flush, Lib.flush, Lib.queryOrRaise]
    all_goals subst_vars
    all_goals try exact MeetingsGrown.refl _
    refine ⟨_, recordMeeting_meetings, ?_⟩
    intro row hrow
    rw [List.mem_singleton] at hrow
    subst hrow
    exact ⟨rfl, rfl⟩

omit [Casing] in
theorem after_onShared {α : Type} (program : Tx α) (w : MeetingWorld) :
    after (onShared program) w =
      ⟨{ w.store with
          toStore := (after program ⟨w.store.toStore, w.external.toExternal⟩).store },
        { w.external with
          toExternal := (after program ⟨w.store.toStore, w.external.toExternal⟩).external }⟩ := by
  unfold after onShared
  cases program ⟨w.store.toStore, w.external.toExternal⟩ <;> rfl

omit [Casing] in
theorem announceTasks_meetings (tasks : List Id) (s : MeetingStore) :
    (announceTasks tasks s).meetings = s.meetings := by
  unfold announceTasks
  induction tasks generalizing s with
  | nil => rfl
  | cons task rest ih =>
    rw [List.foldl_cons, ih]
    rfl

/-- Follow-up tasks leave the meetings and the outside alone. -/
theorem createFollowUpTasks_keeps (rt : Runtime) (m : Id) (index : Nat)
    (requests : List MeetingFollowUpTaskCreate) (meetings : Table MeetingHandoff)
    (x : MeetingExternal) :
    ⦃fun v => ⌜v.store.meetings = meetings ∧ v.external = x⌝⦄
      createFollowUpTasks rt m index requests
      ⦃post⟨fun _ v => ⌜v.store.meetings = meetings ∧ v.external = x⌝,
        fun _ v => ⌜v.external = x⌝⟩⦄ := by
  induction requests generalizing index with
  | nil =>
    mvcgen [createFollowUpTasks, meetingFlush, Lib.flush]
    all_goals grind
  | cons request rest ih =>
    mvcgen [createFollowUpTasks, ih]

end Effects

section Marker

/-- No successful sync stands beside the marker of a failed one, and no plan that
was sent carries it. -/
structure SyncHonest (w : MeetingWorld) : Prop where
  rows : ∀ (m : Id) (row : MeetingHandoff), w.store.meetings[m]? = some row →
    row.crmSyncStatus = "succeeded" → row.status ≠ .failedSync
  plans : ∀ plan ∈ w.external.syncs, plan.status ≠ .failedSync

/-- The call retries the sync of a meeting that carries the marker. -/
def MeetingCall.retriesMarked (c : MeetingCall) (w : MeetingWorld) : Bool :=
  match c.op with
  | .retrySync m _ (.enabled _) => (w.store.meetings[m]?).any (·.status == .failedSync)
  | _ => false

/-- Changing one meeting keeps the rows honest when the new row is. -/
theorem SyncHonest.updateMeeting {s : MeetingStore} {m : Id} {f : MeetingHandoff → MeetingHandoff}
    (h : ∀ (i : Id) (row : MeetingHandoff), s.meetings[i]? = some row →
      row.crmSyncStatus = "succeeded" → row.status ≠ .failedSync)
    (hf : ∀ row, s.meetings[m]? = some row → (f row).crmSyncStatus = "succeeded" →
      (f row).status ≠ .failedSync) (i : Id) (row : MeetingHandoff)
    (hrow : (s.updateMeeting m f).meetings[i]? = some row)
    (hsynced : row.crmSyncStatus = "succeeded") : row.status ≠ .failedSync := by
  simp only [MeetingStore.updateMeeting, List.getElem?_modify] at hrow
  obtain ⟨stored, hstored, rfl⟩ := Option.map_eq_some_iff.mp hrow
  by_cases hi : m = i
  · subst hi
    rw [if_pos rfl] at hsynced ⊢
    exact hf stored hstored hsynced
  · rw [if_neg hi] at hsynced ⊢
    exact h i stored hstored hsynced

theorem failureStatus_ne (failure : CrmFailure) : failureStatus failure ≠ "succeeded" := by
  unfold failureStatus
  split <;> decide

theorem recordSyncFailure_honest {now : Time} {m : Id} {failure : CrmFailure} {s : MeetingStore}
    {x y : MeetingExternal} (h : SyncHonest ⟨s, x⟩)
    (hplans : ∀ plan ∈ y.syncs, plan.status ≠ .failedSync) :
    SyncHonest ⟨recordSyncFailure now m failure s, y⟩ where
  rows := by
    apply SyncHonest.updateMeeting h.rows
    intro row _ hsynced
    exact absurd hsynced (failureStatus_ne failure)
  plans := hplans

theorem recordSyncSuccess_honest {now : Time} {m : Id} {meeting : MeetingHandoff}
    {result : CrmExportResult} {s : MeetingStore} {x y : MeetingExternal}
    (h : SyncHonest ⟨s, x⟩) (hmeeting : s.meetings[m]? = some meeting)
    (hstatus : meeting.status ≠ .failedSync)
    (hplans : ∀ plan ∈ y.syncs, plan.status ≠ .failedSync) :
    SyncHonest ⟨recordSyncSuccess now m meeting result s, y⟩ where
  rows := by
    apply SyncHonest.updateMeeting h.rows
    intro row hrow _
    obtain rfl : meeting = row := Option.some.inj (hmeeting.symm.trans hrow)
    exact hstatus
  plans := hplans

/-- A sync of a meeting without the marker. -/
theorem syncMeetingToCrm_honest (rt : Runtime) (m : Id) (actor : String)
    (client : CrmSyncClient) :
    ⦃fun v => ⌜SyncHonest v ∧ ∀ row, v.store.meetings[m]? = some row →
        client ≠ .disabled → row.status ≠ .failedSync⌝⦄
      syncMeetingToCrm rt m actor client
      ⦃post⟨fun _ v => ⌜SyncHonest v⌝, fun _ v => ⌜SyncHonest v⌝⟩⦄ := by
  have hsent : ∀ {v : MeetingWorld} {meeting : MeetingHandoff} {tasks}, SyncHonest v →
      meeting.status ≠ .failedSync →
      ∀ plan ∈ v.external.syncs ++ [crmSyncPlan m meeting tasks actor],
        plan.status ≠ .failedSync := by
    intro v meeting tasks hv hstatus plan hplan
    rcases List.mem_append.mp hplan with hold | hnew
    · exact hv.plans plan hold
    · rw [List.mem_singleton.mp hnew]
      exact hstatus
  mvcgen [syncMeetingToCrm]
  · next v hv meeting hmeeting hclient =>
    exact recordSyncFailure_honest hv.1 hv.1.plans
  · next v hv meeting hmeeting sync hclient plan error hraised =>
    exact ⟨hv.1.rows, hsent hv.1 (hv.2 meeting hmeeting (by simp [hclient]))⟩
  · next v hv meeting hmeeting sync hclient plan failure hfailure =>
    exact recordSyncFailure_honest hv.1 (hsent hv.1 (hv.2 meeting hmeeting (by simp [hclient])))
  · next v hv meeting hmeeting sync hclient plan result hresult =>
    have hstatus := hv.2 meeting hmeeting (by simp [hclient])
    exact recordSyncSuccess_honest hv.1 hmeeting hstatus (hsent hv.1 hstatus)
  · next v hv _ _ _ => exact hv.1

/-- What the outside has seen decides whether a rolled back call was honest. -/
theorem SyncHonest.restore {w v : MeetingWorld} (hw : SyncHonest w) (hv : SyncHonest v) :
    SyncHonest { v with store := w.store } :=
  ⟨hw.rows, hv.plans⟩

theorem cancelMeeting_honest (rt : Runtime) (m : Id) (reason : String)
    (cancelEvent : String → Except String Unit) {w : MeetingWorld} (h : SyncHonest w) :
    SyncHonest (after (cancelMeeting rt m reason cancelEvent) w) := by
  refine (Lib.sessionScope_relates (R := SyncHonest) (fun v hv => h.restore hv) ?_).1
  have hcancel : ∀ x : MeetingExternal, x.syncs = w.external.syncs →
      SyncHonest ⟨w.store.updateMeeting m (cancelRow rt.now reason), x⟩ := by
    intro x hx
    refine ⟨SyncHonest.updateMeeting h.rows ?_, by rw [hx]; exact h.plans⟩
    intro row _ _
    simp [cancelRow]
  mvcgen
  all_goals subst_vars
  all_goals first
    | exact hcancel _ rfl
    | exact h

theorem retryMeetingCrmSync_honest (rt : Runtime) (m : Id) (actor : String)
    (client : CrmSyncClient) {w : MeetingWorld} (h : SyncHonest w)
    (hmarked : MeetingCall.retriesMarked ⟨rt, .retrySync m actor client⟩ w = false) :
    SyncHonest (after (retryMeetingCrmSync rt m actor client) w) := by
  refine (Lib.sessionScope_relates (R := SyncHonest) (fun v hv => h.restore hv) ?_).1
  have hsync := syncMeetingToCrm_honest rt m actor client
  mvcgen [hsync]
  all_goals subst_vars
  · next row hrow =>
    refine ⟨h, ?_⟩
    intro row' hrow' hclient hstatus
    cases client with
    | disabled => exact hclient rfl
    | enabled sync => simp [MeetingCall.retriesMarked, hrow', hstatus] at hmarked
  · intro hraised
    exact h.restore hraised
  · exact h

theorem outcomeRow_status (now : Time) (request : MeetingOutcomeRequest)
    (row : MeetingHandoff) : (outcomeRow now request row).status ≠ .failedSync := by
  unfold outcomeRow
  dsimp only
  split <;> simp

section Outcome

variable [Casing]

theorem recordMeetingOutcome_honest (rt : Runtime) (m : Id) (request : MeetingOutcomeRequest)
    (actor key : String) (client : CrmSyncClient) {w : MeetingWorld} (h : SyncHonest w) :
    SyncHonest (after (recordMeetingOutcome rt m request actor key client) w) := by
  refine (Lib.sessionScope_relates (R := SyncHonest) (fun v hv => h.restore hv) ?_).1
  have hsync := syncMeetingToCrm_honest rt m actor client
  have htasks := createFollowUpTasks_keeps rt m 1 request.followUpTasks
    (w.store.meetings.modify m (outcomeRow rt.now request)) w.external
  have hrecorded : ∀ (i : Id) (row : MeetingHandoff),
      (w.store.meetings.modify m (outcomeRow rt.now request))[i]? = some row →
        row.crmSyncStatus = "succeeded" → row.status ≠ .failedSync := by
    apply SyncHonest.updateMeeting h.rows
    intro row _ _
    exact outcomeRow_status rt.now request row
  mvcgen [hsync, htasks]
  all_goals subst_vars
  · exact h
  · exact ⟨rfl, rfl⟩
  · next w _ _ _ _ tasks v hv =>
    obtain ⟨hmeetings, hexternal⟩ := hv
    have hsame : (announceTasks tasks (v.store.enqueue .meetingOutcomeRecorded "meeting_handoff"
        m (.keyed .meetingOutcomeRecorded m key))).meetings =
          w.store.meetings.modify m (outcomeRow rt.now request) := by
      rw [announceTasks_meetings]
      exact hmeetings
    refine ⟨⟨?_, ?_⟩, ?_⟩
    · intro i row hrow
      rw [hsame] at hrow
      exact hrecorded i row hrow
    · rw [hexternal]
      exact h.plans
    · intro row hrow _
      rw [hsame, List.getElem?_modify_eq] at hrow
      obtain ⟨stored, -, rfl⟩ := Option.map_eq_some_iff.mp hrow
      exact outcomeRow_status rt.now request stored
  · intro hraised
    exact h.restore hraised
  · next w _ _ _ _ error v =>
    intro hexternal
    rw [hexternal]
    exact h
  · exact h

omit [Casing] in
theorem generateMeetingPrepPacket_honest (rt : Runtime) (m : Id) (actor : String)
    (key : Option String) {w : MeetingWorld} (h : SyncHonest w) :
    SyncHonest (after (generateMeetingPrepPacket rt m actor key) w) := by
  refine (Lib.sessionScope_relates (R := SyncHonest) (fun v hv => h.restore hv) ?_).1
  mvcgen [meetingFlush, Lib.flush]
  all_goals subst_vars
  all_goals exact ⟨h.rows, h.plans⟩

theorem createMeeting_honest (rt : Runtime) (request : MeetingCreateRequest)
    (actor key : String) (client : CalendarClient) {w : MeetingWorld} (h : SyncHonest w) :
    SyncHonest (after (onShared (createMeeting rt request actor key client)) w) := by
  rw [after_onShared]
  refine ⟨?_, h.plans⟩
  intro i row hrow hsynced
  obtain ⟨more, hmore, hnew⟩ := createMeeting_meetings rt request actor key client
    ⟨w.store.toStore, w.external.toExternal⟩
  rw [hmore, List.getElem?_append] at hrow
  split at hrow
  · exact h.rows i row hrow hsynced
  · rw [(hnew row (List.mem_of_getElem? hrow)).1]
    simp

/-- One call keeps syncs honest unless it retries a marked meeting. -/
theorem meetingStep_honest {w : MeetingWorld} {c : MeetingCall}
    (hmarked : c.retriesMarked w = false) (h : SyncHonest w) : SyncHonest (meetingStep w c) := by
  obtain ⟨rt, op⟩ := c
  cases op with
  | create request actor key client => exact createMeeting_honest rt request actor key client h
  | cancel m reason cancelEvent => exact cancelMeeting_honest rt m reason cancelEvent h
  | outcome m request actor key client =>
    exact recordMeetingOutcome_honest rt m request actor key client h
  | retrySync m actor client => exact retryMeetingCrmSync_honest rt m actor client h hmarked
  | prepPacket m actor key => exact generateMeetingPrepPacket_honest rt m actor key h

/-- A retry of a marked meeting sends the marker. -/
theorem meetingStep_sends_marker {w : MeetingWorld} {c : MeetingCall}
    (hmarked : c.retriesMarked w = true) : ¬ SyncHonest (meetingStep w c) := by
  intro hhonest
  obtain ⟨rt, op⟩ := c
  unfold MeetingCall.retriesMarked at hmarked
  split at hmarked
  · next m actor sync hop =>
    obtain ⟨meeting, hmeeting, hstatus⟩ := (Option.any_eq_true _ _).mp hmarked
    let sent : MeetingWorld → Prop := fun v =>
      ∃ plan ∈ v.external.syncs, plan.status = .failedSync
    have hsent : sent (after (retryMeetingCrmSync rt m actor (.enabled sync)) w) := by
      refine (Lib.sessionScope_relates (R := sent) (fun v hv => hv) ?_).1
      have hplan : ∀ plan : CrmSyncPlan, plan.status = meeting.status → ∀ plans,
          ∃ found ∈ plans ++ [plan], found.status = MeetingStatus.failedSync := by
        intro plan hplan plans
        exact ⟨plan, List.mem_append_right plans (List.mem_singleton_self plan),
          hplan.trans (beq_iff_eq.mp hstatus)⟩
      mvcgen [syncMeetingToCrm]
      all_goals subst_vars
      · next found hfound _ error _ =>
        obtain rfl := Option.some.inj (hmeeting.symm.trans hfound)
        exact hplan _ rfl _
      · next found hfound _ failure _ =>
        obtain rfl := Option.some.inj (hmeeting.symm.trans hfound)
        exact hplan _ rfl _
      · next found hfound _ result _ =>
        obtain rfl := Option.some.inj (hmeeting.symm.trans hfound)
        exact hplan _ rfl _
      · next hmissing => exact (hmissing meeting hmeeting).elim
      · next hmissing => exact (hmissing meeting hmeeting).elim
    obtain ⟨plan, hplan, hfailed⟩ := hsent
    cases hop
    exact hhonest.plans plan hplan hfailed
  · cases hmarked

/-- Syncs stay honest along a run exactly when no marked meeting is retried. -/
theorem meeting_syncs_honest_iff {w : MeetingWorld} (hstart : SyncHonest w)
    (calls : List MeetingCall) :
    (∀ first second, calls = first ++ second → SyncHonest (Lib.run meetingStep w first)) ↔
      Lib.Admissible meetingStep (fun w c => c.retriesMarked w = false) w calls := by
  constructor
  · intro hhonest
    induction calls generalizing w with
    | nil => trivial
    | cons c rest ih =>
      have hnext : SyncHonest (meetingStep w c) := hhonest [c] rest rfl
      refine ⟨?_, ih hnext ?_⟩
      · by_contra hmarked
        exact meetingStep_sends_marker (by simpa using hmarked) hnext
      · intro first second hsplit
        exact hhonest (c :: first) second (by rw [hsplit]; rfl)
  · rintro hrun first second rfl
    exact Lib.run_keeps (fun _ _ hmarked h => meetingStep_honest hmarked h)
      (Lib.admissible_append.mp hrun).1 hstart

end Outcome

end Marker

section Cancellation

/-- The meeting is canceled for the given reason. -/
def CanceledFor (m : Id) (reason : String) (meetings : Table MeetingHandoff) : Prop :=
  ∃ row : MeetingHandoff, meetings[m]? = some row ∧ row.status = .canceled ∧
    row.outcomeStatus = some "disqualified" ∧ row.outcomeNotes = some reason

/-- The client refuses the plan with an error that may be retried. -/
def CrmSyncClient.failsRetryably (client : CrmSyncClient) (plan : CrmSyncPlan) : Bool :=
  match client with
  | .disabled => false
  | .enabled sync =>
    match sync plan with
    | .ok (.error failure) => failure.retryable
    | _ => false

/-- The call rewrites the status or the outcome of the meeting: it cancels it for
another reason, records an outcome under a new key, or retries a sync that fails
and may be retried. -/
def MeetingCall.reopens (c : MeetingCall) (m : Id) (w : MeetingWorld) : Bool :=
  match c.op with
  | .cancel i reason _ =>
    i == m && (w.store.meetings[m]?).any (·.outcomeNotes != some reason)
  | .outcome i _ _ key _ =>
    i == m && !w.store.outbox.any (·.idempotencyKey == .keyed .meetingOutcomeRecorded m key)
  | .retrySync i actor client =>
    i == m && (w.store.meetings[m]?).any fun row =>
      client.failsRetryably (crmSyncPlan m row (w.store.tasksOf m) actor)
  | _ => false

/-- A change of another meeting, or one that keeps status and outcome. -/
theorem CanceledFor.updateMeeting {m i : Id} {reason : String} {s : MeetingStore}
    {f : MeetingHandoff → MeetingHandoff} (h : CanceledFor m reason s.meetings)
    (hf : i = m → ∀ row, s.meetings[m]? = some row → row.status = .canceled →
      row.outcomeStatus = some "disqualified" → row.outcomeNotes = some reason →
      (f row).status = .canceled ∧ (f row).outcomeStatus = some "disqualified" ∧
        (f row).outcomeNotes = some reason) :
    CanceledFor m reason (s.updateMeeting i f).meetings := by
  obtain ⟨row, hrow, hstatus, houtcome, hnotes⟩ := h
  by_cases him : i = m
  · subst him
    refine ⟨f row, ?_, hf rfl row hrow hstatus houtcome hnotes⟩
    simp [MeetingStore.updateMeeting, List.getElem?_modify_eq, hrow]
  · refine ⟨row, ?_, hstatus, houtcome, hnotes⟩
    rw [MeetingStore.updateMeeting, List.getElem?_modify_ne _ _ him]
    exact hrow

theorem cancelMeeting_canceled (rt : Runtime) (i : Id) (other : String)
    (cancelEvent : String → Except String Unit) {m : Id} {reason : String} {w : MeetingWorld}
    (h : CanceledFor m reason w.store.meetings)
    (hcall : MeetingCall.reopens ⟨rt, .cancel i other cancelEvent⟩ m w = false) :
    CanceledFor m reason (after (cancelMeeting rt i other cancelEvent) w).store.meetings := by
  let kept : MeetingStore → Prop := fun s => CanceledFor m reason s.meetings
  refine (Lib.sessionScope_keeps (I := kept) h ?_).1
  have hcancel : kept (w.store.updateMeeting i (cancelRow rt.now other)) := by
    apply h.updateMeeting
    intro him row hrow _ _ hnotes
    subst him
    have hsame : some other = some reason := by
      simp [MeetingCall.reopens, hrow, hnotes] at hcall
      rw [hcall]
    exact ⟨rfl, rfl, hsame⟩
  mvcgen
  all_goals subst_vars
  all_goals first
    | exact hcancel
    | exact h

theorem recordSyncFailure_canceled {now : Time} {i m : Id} {failure : CrmFailure}
    {reason : String} {s : MeetingStore} (h : CanceledFor m reason s.meetings)
    (hterminal : i = m → failure.retryable = false) :
    CanceledFor m reason (recordSyncFailure now i failure s).meetings := by
  refine h.updateMeeting ?_
  intro him row _ hstatus houtcome hnotes
  exact ⟨by simp [syncFailedRow, hterminal him, hstatus], houtcome, hnotes⟩

/-- A sync that does not fail in a retryable way keeps status and outcome. -/
theorem syncMeetingToCrm_canceled (rt : Runtime) (i : Id) (actor : String)
    (client : CrmSyncClient) (m : Id) (reason : String) :
    ⦃fun v => ⌜CanceledFor m reason v.store.meetings ∧ (i = m → ∀ row,
        v.store.meetings[m]? = some row →
          client.failsRetryably (crmSyncPlan m row (v.store.tasksOf m) actor) = false)⌝⦄
      syncMeetingToCrm rt i actor client
      ⦃post⟨fun _ v => ⌜CanceledFor m reason v.store.meetings⌝, fun _ _ => ⌜True⌝⟩⦄ := by
  mvcgen [syncMeetingToCrm]
  · next v hv meeting hmeeting hclient => exact recordSyncFailure_canceled hv.1 fun _ => rfl
  · next v hv meeting hmeeting sync hclient plan failure hrefused =>
    apply recordSyncFailure_canceled hv.1
    intro him
    subst him
    have hplan := hv.2 rfl meeting hmeeting
    simp only [hclient, CrmSyncClient.failsRetryably] at hplan
    change sync (crmSyncPlan i meeting (v.store.tasksOf i) actor) = _ at hrefused
    rw [hrefused] at hplan
    exact hplan
  · next v hv meeting hmeeting sync hclient plan result haccepted =>
    refine hv.1.updateMeeting ?_
    intro _ row _ hstatus houtcome hnotes
    exact ⟨hstatus, houtcome, hnotes⟩
  · next v hv _ _ _ => exact hv.1

theorem retryMeetingCrmSync_canceled (rt : Runtime) (i : Id) (actor : String)
    (client : CrmSyncClient) {m : Id} {reason : String} {w : MeetingWorld}
    (h : CanceledFor m reason w.store.meetings)
    (hcall : MeetingCall.reopens ⟨rt, .retrySync i actor client⟩ m w = false) :
    CanceledFor m reason (after (retryMeetingCrmSync rt i actor client) w).store.meetings := by
  let kept : MeetingStore → Prop := fun s => CanceledFor m reason s.meetings
  refine (Lib.sessionScope_keeps (I := kept) h ?_).1
  have hsync := syncMeetingToCrm_canceled rt i actor client m reason
  mvcgen [hsync]
  all_goals subst_vars
  · refine ⟨h, ?_⟩
    rintro rfl row hrow
    simpa [MeetingCall.reopens, hrow] using hcall
  · exact h

section Outcome

variable [Casing]

theorem recordMeetingOutcome_canceled (rt : Runtime) (i : Id) (request : MeetingOutcomeRequest)
    (actor key : String) (client : CrmSyncClient) {m : Id} {reason : String} {w : MeetingWorld}
    (h : CanceledFor m reason w.store.meetings)
    (hcall : MeetingCall.reopens ⟨rt, .outcome i request actor key client⟩ m w = false) :
    CanceledFor m reason
      (after (recordMeetingOutcome rt i request actor key client) w).store.meetings := by
  let kept : MeetingStore → Prop := fun s => CanceledFor m reason s.meetings
  refine (Lib.sessionScope_keeps (I := kept) h ?_).1
  have hsync := syncMeetingToCrm_canceled rt i actor client m reason
  have htasks := createFollowUpTasks_keeps rt i 1 request.followUpTasks
    (w.store.meetings.modify i (outcomeRow rt.now request)) w.external
  have hother : i ≠ m → CanceledFor m reason
      (w.store.meetings.modify i (outcomeRow rt.now request)) := by
    intro him
    refine CanceledFor.updateMeeting (s := w.store) h ?_
    intro hsame
    exact absurd hsame him
  mvcgen [hsync, htasks]
  all_goals subst_vars
  · exact h
  · exact ⟨rfl, rfl⟩
  · next w _ _ _ hfresh tasks v hv =>
    have him : i ≠ m := by
      rintro rfl
      simp only [MeetingCall.reopens, beq_self_eq_true, Bool.true_and, Bool.not_eq_false'] at hcall
      exact hfresh hcall
    refine ⟨?_, fun hsame => absurd hsame him⟩
    rw [announceTasks_meetings]
    show CanceledFor m reason v.store.meetings
    rw [hv.1]
    exact hother him
  · exact h

theorem createMeeting_canceled (rt : Runtime) (request : MeetingCreateRequest)
    (actor key : String) (client : CalendarClient) {m : Id} {reason : String} {w : MeetingWorld}
    (h : CanceledFor m reason w.store.meetings) :
    CanceledFor m reason
      (after (onShared (createMeeting rt request actor key client)) w).store.meetings := by
  obtain ⟨row, hrow, hcanceled⟩ := h
  obtain ⟨more, hmore, -⟩ := createMeeting_meetings rt request actor key client
    ⟨w.store.toStore, w.external.toExternal⟩
  refine ⟨row, ?_, hcanceled⟩
  rw [after_onShared, hmore]
  exact Table.get_of_prefix (List.prefix_append _ _) m row hrow

omit [Casing] in
theorem generateMeetingPrepPacket_canceled (rt : Runtime) (i : Id) (actor : String)
    (key : Option String) {m : Id} {reason : String} {w : MeetingWorld}
    (h : CanceledFor m reason w.store.meetings) :
    CanceledFor m reason (after (generateMeetingPrepPacket rt i actor key) w).store.meetings := by
  let kept : MeetingStore → Prop := fun s => CanceledFor m reason s.meetings
  refine (Lib.sessionScope_keeps (I := kept) h ?_).1
  mvcgen [meetingFlush, Lib.flush]
  all_goals subst_vars
  all_goals exact h

/-- One call keeps a canceled meeting as it is unless it reopens it. -/
theorem meetingStep_canceled {w : MeetingWorld} {c : MeetingCall} {m : Id} {reason : String}
    (hcall : c.reopens m w = false) (h : CanceledFor m reason w.store.meetings) :
    CanceledFor m reason (meetingStep w c).store.meetings := by
  obtain ⟨rt, op⟩ := c
  cases op with
  | create request actor key client => exact createMeeting_canceled rt request actor key client h
  | cancel i other cancelEvent => exact cancelMeeting_canceled rt i other cancelEvent h hcall
  | outcome i request actor key client =>
    exact recordMeetingOutcome_canceled rt i request actor key client h hcall
  | retrySync i actor client => exact retryMeetingCrmSync_canceled rt i actor client h hcall
  | prepPacket i actor key => exact generateMeetingPrepPacket_canceled rt i actor key h

omit [Casing] in
/-- A cancellation that commits leaves its status and outcome. -/
theorem cancelMeeting_cancels {rt : Runtime} {m : Id} {reason : String}
    {cancelEvent : String → Except String Unit} {w : MeetingWorld}
    (hcommitted : Lib.returned (cancelMeeting rt m reason cancelEvent) w = some (some m)) :
    CanceledFor m reason (after (cancelMeeting rt m reason cancelEvent) w).store.meetings := by
  cases hmeeting : w.store.meetings[m]? with
  | none =>
    have hmissing : cancelMeeting rt m reason cancelEvent w =
        if w.store.constraintsOk then .ok none w else .error .integrityError w := by
      simp only [cancelMeeting, meetingScope, Lib.sessionScope_run, Lib.bind_run, Lib.query_run,
        hmeeting, Lib.pure_run]
    unfold Lib.returned at hcommitted
    rw [hmissing] at hcommitted
    cases hvalid : w.store.constraintsOk <;> simp [hvalid] at hcommitted
  | some row =>
    let canceled : MeetingWorld → Prop := fun v => CanceledFor m reason v.store.meetings
    refine (Lib.sessionScope_returns (R := canceled) (Lib.run_of_returned hcommitted) ?_).1
    have hcancel : CanceledFor m reason
        (w.store.updateMeeting m (cancelRow rt.now reason)).meetings := by
      refine ⟨cancelRow rt.now reason row, ?_, rfl, rfl, rfl⟩
      simp [MeetingStore.updateMeeting, List.getElem?_modify_eq, hmeeting]
    mvcgen
    all_goals subst_vars
    · exact hcancel
    · exact hcancel
    · next hnone => exact (hnone row hmeeting).elim

/-- A canceled meeting keeps its status and outcome in every run without a call
that reopens it. -/
theorem canceled_meeting_stays {rt : Runtime} {m : Id} {reason : String}
    {cancelEvent : String → Except String Unit} {w : MeetingWorld} {calls : List MeetingCall}
    (hcommitted : Lib.returned (cancelMeeting rt m reason cancelEvent) w = some (some m))
    (hrun : Lib.Admissible meetingStep (fun w c => c.reopens m w = false)
      (after (cancelMeeting rt m reason cancelEvent) w) calls) :
    ∀ first second, calls = first ++ second →
      CanceledFor m reason
        (Lib.run meetingStep (after (cancelMeeting rt m reason cancelEvent) w)
          first).store.meetings := by
  rintro first second rfl
  exact Lib.run_keeps (I := fun w => CanceledFor m reason w.store.meetings)
    (fun _ _ hcall h => meetingStep_canceled hcall h) (Lib.admissible_append.mp hrun).1
    (cancelMeeting_cancels hcommitted)

end Outcome

end Cancellation

section Runs

/-- The meeting service of a deployment that knows one contact. -/
def meetingDesk : MeetingWorld where
  store := { toStore := deployment.store }
  external := {}

def bookedCalendar : CalendarClient where
  provider := "google"
  createEvent _ := .ok { calendarId := none, providerEventId := some "event-1", htmlLink := none }

def MeetingOp.at (op : MeetingOp) (now : Time) : MeetingCall where
  rt := { now }
  op := op

/-- A meeting with the contact of the exported target. -/
def bookAda : MeetingCall :=
  MeetingOp.at (.create { crmTargetId := 0, subject := "Intro", startAt := 100, endAt := 200 }
    "operator" "meeting:ada" bookedCalendar) 10

def crmDown : CrmSyncClient :=
  .enabled fun _ => .ok (.error { message := "rate limited", retryable := true })

def crmUp : CrmSyncClient :=
  .enabled fun _ => .ok (.ok { providerRecordId := "record-1" })

/-- The sync of the outcome fails, its retry succeeds. -/
def retriedSync : List MeetingCall :=
  [bookAda, MeetingOp.at (.outcome 0 {} "operator" "outcome:1" crmDown) 300,
    MeetingOp.at (.retrySync 0 "operator" crmUp) 400]

theorem meetingDesk_honest : SyncHonest meetingDesk where
  rows := by
    intro m row hrow
    simp [meetingDesk, deployment] at hrow
  plans := by
    intro plan hplan
    simp [meetingDesk] at hplan

/-- The retried meeting is synced and still marked, and the CRM was sent the
marker. -/
theorem retried_sync_keeps_marker :
    ¬ ∀ first second, retriedSync = first ++ second →
      SyncHonest (Lib.run meetingStep meetingDesk first) := by
  intro hhonest
  have hlast := (hhonest retriedSync [] (by simp)).plans
  have hsent : (Lib.run meetingStep meetingDesk retriedSync).external.syncs.any
      (·.status == .failedSync) = true := by
    decide +kernel
  obtain ⟨plan, hplan, hmarked⟩ := List.any_eq_true.mp hsent
  exact hlast plan hplan (beq_iff_eq.mp hmarked)

/-- A second outcome clears the marker before it is synced. -/
theorem outcome_again_honest :
    SyncHonest (Lib.run meetingStep meetingDesk
      [bookAda, MeetingOp.at (.outcome 0 {} "operator" "outcome:1" crmDown) 300,
        MeetingOp.at (.outcome 0 {} "operator" "outcome:2" crmUp) 400]) := by
  refine (meeting_syncs_honest_iff meetingDesk_honest _).mpr ?_ _ [] (List.append_nil _).symm
  decide +kernel

def acceptCancel (_ : String) : Except String Unit :=
  .ok ()

/-- The meeting is canceled and then recorded as rescheduled. -/
theorem rescheduled_after_cancel :
    Lib.returned (cancelMeeting { now := 50 } 0 "no longer needed" acceptCancel)
        (meetingStep meetingDesk bookAda) = some (some 0) ∧
      ¬ CanceledFor 0 "no longer needed"
        (Lib.run meetingStep
          (after (cancelMeeting { now := 50 } 0 "no longer needed" acceptCancel)
            (meetingStep meetingDesk bookAda))
          [MeetingOp.at (.outcome 0 { outcomeStatus := .rescheduled } "operator" "outcome:1"
            crmUp) 60]).store.meetings := by
  refine ⟨by decide +kernel, ?_⟩
  rintro ⟨row, hrow, hstatus, -⟩
  have hscheduled : ((Lib.run meetingStep
      (after (cancelMeeting { now := 50 } 0 "no longer needed" acceptCancel)
        (meetingStep meetingDesk bookAda))
      [MeetingOp.at (.outcome 0 { outcomeStatus := .rescheduled } "operator" "outcome:1"
        crmUp) 60]).store.meetings[0]?).all (·.status == .scheduled) = true := by
    decide +kernel
  rw [hrow, Option.all_some, hstatus] at hscheduled
  cases hscheduled

/-- A sync that succeeds leaves a canceled meeting alone. -/
theorem synced_after_cancel :
    CanceledFor 0 "no longer needed"
      (Lib.run meetingStep
        (after (cancelMeeting { now := 50 } 0 "no longer needed" acceptCancel)
          (meetingStep meetingDesk bookAda))
        [MeetingOp.at (.retrySync 0 "operator" crmUp) 60]).store.meetings := by
  refine canceled_meeting_stays (by decide +kernel) ?_ _ [] (List.append_nil _).symm
  decide +kernel

end Runs

end GhostRecon
