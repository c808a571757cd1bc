import GhostRecon.Meeting.Lifecycle

/-!
What happens to a meeting after it was booked: its outcome and follow-up tasks
are recorded and sent to the CRM, a failed sync is retried, the meeting is
canceled, a prep packet is generated. The meeting service has two tables of its
own next to the shared ones, and two effects that no rollback reaches.
-/

namespace GhostRecon

open Lib (Id Table query queryOrRaise write perform after)

structure MeetingFollowUpTask where
  meetingId : Id
  title : String
  description : Option String := none
  owner : Option String := none
  dueAt : Option Time := none
  status : String := "open"
  crmSyncStatus : String := "pending"
  providerTaskId : Option String := none
  lastError : Option String := none
  /-- `meeting-follow-up:<meeting>:<index>:<title>` -/
  idempotencyKey : Id × Nat × String
  createdAt : Time := 0
  updatedAt : Time := 0
  deriving DecidableEq, Repr

/-- A generated prep packet; its texts are for display only. -/
structure MeetingPrepPacket where
  meetingId : Id
  generatedBy : String
  idempotencyKey : Option String := none
  createdAt : Time := 0
  deriving DecidableEq, Repr

/-- The record the CRM is asked to keep of a meeting. -/
structure CrmSyncPlan where
  targetId : Id
  crmTargetId : Id
  accountId : Option Id
  contactId : Option Id
  subject : String
  status : MeetingStatus
  startAt : Time
  endAt : Time
  timezone : String
  outcomeStatus : Option String
  outcomeNotes : Option String
  nextSteps : List String
  calendarProvider : String
  calendarEventId : Option String
  calendarLink : Option String
  followUpTasks : List MeetingFollowUpTask
  syncedBy : String
  deriving DecidableEq, Repr

structure CrmExportResult where
  providerRecordId : String
  providerListId : Option String := none
  providerListEntryId : Option String := none
  deriving DecidableEq, Repr

/-- A `CrmProviderError`, or a `ValueError` of the client, which is terminal. -/
structure CrmFailure where
  message : String
  retryable : Bool := false
  retryAfterSeconds : Option Int := none
  deriving DecidableEq, Repr

/-- The CRM as one call sees it. -/
inductive CrmSyncClient where
  /-- The provider is disabled: building the client raises. -/
  | disabled
  /-- A call raises something that is not caught, fails or answers. -/
  | enabled (sync : CrmSyncPlan → Except PyError (Except CrmFailure CrmExportResult))

structure MeetingStore extends Store where
  followUpTasks : Table MeetingFollowUpTask := []
  prepPackets : Table MeetingPrepPacket := []

/-- The plans sent to the CRM and the calendar events canceled. -/
structure MeetingExternal extends External where
  syncs : List CrmSyncPlan := []
  canceledEvents : List String := []

abbrev MeetingTx (α : Type) := Lib.Tx PyError MeetingStore MeetingExternal α

abbrev MeetingWorld := Lib.World MeetingStore MeetingExternal

/-- The key column of a task has room for the meeting, the index and the title. -/
def MeetingFollowUpTask.fits (row : MeetingFollowUpTask) : Bool :=
  GhostRecon.fits 512 row.title && fits? 128 row.owner && fits? 512 row.providerTaskId &&
    (56 + (toString row.idempotencyKey.2.1).length + row.idempotencyKey.2.2.length ≤ 255 : Bool)

/-- The wait the CRM asked for has room in its column. -/
def MeetingHandoff.waitFits (row : MeetingHandoff) : Bool :=
  row.crmRetryAfterSeconds.all fitsInteger

def MeetingStore.constraintsOk (s : MeetingStore) : Bool :=
  s.toStore.constraintsOk && s.followUpTasks.uniqueOn (fun row => some row.idempotencyKey) &&
    s.prepPackets.uniqueOn (·.idempotencyKey) && s.followUpTasks.all MeetingFollowUpTask.fits &&
    s.meetings.all MeetingHandoff.waitFits

def meetingScope {α : Type} (body : MeetingTx α) : MeetingTx α :=
  Lib.sessionScope MeetingStore.constraintsOk .integrityError body

def meetingFlush : MeetingTx PUnit :=
  Lib.flush MeetingStore.constraintsOk .integrityError

/-- An operation that touches the shared tables only. -/
def onShared {α : Type} (program : Tx α) : MeetingTx α := fun w =>
  match program ⟨w.store.toStore, w.external.toExternal⟩ with
  | .ok a v => .ok a ⟨{ w.store with toStore := v.store },
      { w.external with toExternal := v.external }⟩
  | .error e v => .error e ⟨{ w.store with toStore := v.store },
      { w.external with toExternal := v.external }⟩

def MeetingStore.updateMeeting (s : MeetingStore) (m : Id)
    (f : MeetingHandoff → MeetingHandoff) : MeetingStore :=
  { s with meetings := s.meetings.modify m f }

def MeetingStore.enqueue (s : MeetingStore) (name : EventName) (kind : String) (id : Id)
    (key : OutboxKey) : MeetingStore :=
  { s with toStore := enqueueEvent name kind id key s.toStore }

section Cancel

def cancelRow (now : Time) (reason : String) (row : MeetingHandoff) : MeetingHandoff :=
  { row with
    status := .canceled
    outcomeStatus := some "disqualified"
    outcomeNotes := some reason
    version := row.version + 1
    updatedAt := now }

/-- The calendar event is canceled before anything is written. -/
def cancelMeeting (rt : Runtime) (m : Id) (reason : String)
    (cancelEvent : String → Except String Unit) : MeetingTx (Option Id) := meetingScope do
  let some meeting ← query (·.meetings[m]?) | return none
  if truthy meeting.providerEventId then
    match cancelEvent (meeting.providerEventId.getD "") with
    | .error message => throw (.providerError message)
    | .ok () =>
      perform fun x =>
        { x with canceledEvents := x.canceledEvents ++ [meeting.providerEventId.getD ""] }
  write (·.updateMeeting m (cancelRow rt.now reason))
  return some m

end Cancel

section Sync

/-- The follow-up tasks of a meeting, oldest first. -/
def MeetingStore.tasksOf (s : MeetingStore) (m : Id) : List MeetingFollowUpTask :=
  (s.followUpTasks.filter (·.meetingId == m)).mergeSort fun a b => a.createdAt ≤ b.createdAt

/-- `_crm_sync_plan`. -/
def crmSyncPlan (m : Id) (meeting : MeetingHandoff) (tasks : List MeetingFollowUpTask)
    (actor : String) : CrmSyncPlan where
  targetId := m
  crmTargetId := meeting.crmTargetId
  accountId := meeting.accountId
  contactId := meeting.contactId
  subject := meeting.subject
  status := meeting.status
  startAt := meeting.startAt
  endAt := meeting.endAt
  timezone := meeting.timezone
  outcomeStatus := meeting.outcomeStatus
  outcomeNotes := meeting.outcomeNotes
  nextSteps := meeting.nextSteps
  calendarProvider := meeting.calendarProvider
  calendarEventId := meeting.providerEventId
  calendarLink := meeting.providerHtmlLink
  followUpTasks := tasks
  syncedBy := actor

def failureStatus (failure : CrmFailure) : String :=
  if failure.retryable then "failed_retryable" else "failed_terminal"

/-- The tasks of a meeting share the result of its sync. -/
def MeetingStore.updateTasksOf (s : MeetingStore) (m : Id)
    (f : MeetingFollowUpTask → MeetingFollowUpTask) : MeetingStore :=
  { s with followUpTasks := s.followUpTasks.map fun row => if row.meetingId = m then f row else row }

/-- A retryable failure overwrites the status of the meeting. -/
def syncFailedRow (now : Time) (failure : CrmFailure) (row : MeetingHandoff) : MeetingHandoff :=
  { row with
    status := if failure.retryable then .failedSync else row.status
    crmSyncStatus := failureStatus failure
    crmSyncError := some failure.message
    crmRetryAfterSeconds := failure.retryAfterSeconds
    updatedAt := now }

def recordSyncFailure (now : Time) (m : Id) (failure : CrmFailure) (s : MeetingStore) :
    MeetingStore :=
  (s.updateMeeting m (syncFailedRow now failure)).updateTasksOf m fun task =>
    { task with
      crmSyncStatus := failureStatus failure
      lastError := some failure.message
      updatedAt := now }

/-- A success leaves the status of the meeting as it is. -/
def syncSucceededRow (now : Time) (row : MeetingHandoff) : MeetingHandoff :=
  { row with
    crmSyncStatus := "succeeded"
    crmSyncError := none
    crmRetryAfterSeconds := none
    updatedAt := now }

def recordSyncSuccess (now : Time) (m : Id) (meeting : MeetingHandoff)
    (result : CrmExportResult) (s : MeetingStore) : MeetingStore :=
  ((s.updateMeeting m (syncSucceededRow now)).updateTasksOf m fun task =>
    { task with
      crmSyncStatus := "succeeded"
      providerTaskId := some result.providerRecordId
      lastError := none
      updatedAt := now }).enqueue .crmSynced "meeting_handoff" m
        (.counted .crmSynced m meeting.version)

/-- `_sync_meeting_to_crm`. -/
def syncMeetingToCrm (rt : Runtime) (m : Id) (actor : String) (client : CrmSyncClient) :
    MeetingTx PUnit := do
  let some meeting ← query (·.meetings[m]?) | return
  let tasks ← query (·.tasksOf m)
  match client with
  | .disabled => write (recordSyncFailure rt.now m { message := "CRM provider is disabled" })
  | .enabled sync =>
    let plan := crmSyncPlan m meeting tasks actor
    perform fun x => { x with syncs := x.syncs ++ [plan] }
    match sync plan with
    | .error e => throw e
    | .ok (.error failure) => write (recordSyncFailure rt.now m failure)
    | .ok (.ok result) => write (recordSyncSuccess rt.now m meeting result)

def retryMeetingCrmSync (rt : Runtime) (m : Id) (actor : String) (client : CrmSyncClient) :
    MeetingTx (Option Id) := meetingScope do
  let some _ ← query (·.meetings[m]?) | return none
  syncMeetingToCrm rt m actor client
  return some m

end Sync

section Outcomes

variable [Casing]

inductive MeetingOutcomeStatus where
  | completed | noShow | rescheduled | disqualified
  deriving DecidableEq, Repr

def MeetingOutcomeStatus.value : MeetingOutcomeStatus → String
  | .completed => "completed"
  | .noShow => "no_show"
  | .rescheduled => "rescheduled"
  | .disqualified => "disqualified"

structure MeetingFollowUpTaskCreate where
  title : String
  description : Option String := none
  owner : Option String := none
  dueAt : Option Time := none
  deriving DecidableEq, Repr

structure MeetingOutcomeRequest where
  outcomeStatus : MeetingOutcomeStatus := .completed
  outcomeNotes : Option String := none
  nextSteps : List String := []
  followUpTasks : List MeetingFollowUpTaskCreate := []
  deriving DecidableEq, Repr

omit [Casing] in
def outcomeRow (now : Time) (request : MeetingOutcomeRequest) (row : MeetingHandoff) :
    MeetingHandoff :=
  { row with
    status := if request.outcomeStatus = .rescheduled then .scheduled else .completed
    outcomeStatus := some request.outcomeStatus.value
    outcomeNotes := request.outcomeNotes
    nextSteps := request.nextSteps
    version := row.version + 1
    updatedAt := now }

def followUpTask (now : Time) (m : Id) (index : Nat) (request : MeetingFollowUpTaskCreate) :
    MeetingFollowUpTask where
  meetingId := m
  title := request.title
  description := request.description
  owner := request.owner
  dueAt := request.dueAt
  idempotencyKey := (m, index, lower request.title)
  createdAt := now
  updatedAt := now

/-- `_create_follow_up_tasks`: a task found by its key is used again. -/
def createFollowUpTasks (rt : Runtime) (m : Id) :
    Nat → List MeetingFollowUpTaskCreate → MeetingTx (List Id)
  | _, [] => do
    meetingFlush
    return []
  | index, request :: rest => do
    match ← query (·.followUpTasks.first? (·.idempotencyKey == (m, index, lower request.title)))
      with
    | some (task, _) =>
      let tasks ← createFollowUpTasks rt m (index + 1) rest
      return task :: tasks
    | none =>
      let task ← query (·.followUpTasks.length)
      write fun s => { s with
        followUpTasks := s.followUpTasks ++ [followUpTask rt.now m index request] }
      let tasks ← createFollowUpTasks rt m (index + 1) rest
      return task :: tasks

/-- The events of the tasks, those used again included. -/
def announceTasks (tasks : List Id) (s : MeetingStore) : MeetingStore :=
  tasks.foldl (fun s task => s.enqueue .meetingFollowUpTaskCreated "meeting_follow_up_task" task
    (.once .meetingFollowUpTaskCreated task)) s

def recordMeetingOutcome (rt : Runtime) (m : Id) (request : MeetingOutcomeRequest)
    (actor idempotencyKey : String) (client : CrmSyncClient) : MeetingTx (Option Id) :=
  meetingScope do
    let some _ ← query (·.meetings[m]?) | return none
    let key := OutboxKey.keyed .meetingOutcomeRecorded m idempotencyKey
    if ← query (·.outbox.any (·.idempotencyKey == key)) then
      return some m
    write (·.updateMeeting m (outcomeRow rt.now request))
    let tasks ← createFollowUpTasks rt m 1 request.followUpTasks
    write (·.enqueue .meetingOutcomeRecorded "meeting_handoff" m key)
    write (announceTasks tasks)
    syncMeetingToCrm rt m actor client
    return some m

end Outcomes

/-- `generate_meeting_prep_packet`: without a key one packet is enough. -/
def generateMeetingPrepPacket (rt : Runtime) (m : Id) (actor : String)
    (idempotencyKey : Option String) : MeetingTx (Option Id) := meetingScope do
  let some _ ← query (·.meetings[m]?) | return none
  if truthy idempotencyKey then
    if ← query (·.prepPackets.any (·.idempotencyKey == idempotencyKey)) then
      return some m
  if idempotencyKey.isNone then
    if ← query (·.prepPackets.any (·.meetingId == m)) then
      return some m
  let packet ← query (·.prepPackets.length)
  write fun s => { s with
    prepPackets := s.prepPackets ++
      [{ meetingId := m, generatedBy := actor, idempotencyKey, createdAt := rt.now }] }
  meetingFlush
  write (·.enqueue .meetingPrepPacketGenerated "meeting_prep_packet" packet
    (.once .meetingPrepPacketGenerated packet))
  return some m

section Machine

variable [Casing]

inductive MeetingOp where
  | create (request : MeetingCreateRequest) (actor key : String) (client : CalendarClient)
  | cancel (m : Id) (reason : String) (cancelEvent : String → Except String Unit)
  | outcome (m : Id) (request : MeetingOutcomeRequest) (actor key : String)
      (client : CrmSyncClient)
  | retrySync (m : Id) (actor : String) (client : CrmSyncClient)
  | prepPacket (m : Id) (actor : String) (key : Option String)

structure MeetingCall where
  rt : Runtime
  op : MeetingOp

/-- The world a call of the meeting service leaves behind. -/
def meetingStep (w : MeetingWorld) (c : MeetingCall) : MeetingWorld :=
  match c.op with
  | .create request actor key client =>
    after (onShared (createMeeting c.rt request actor key client)) w
  | .cancel m reason cancelEvent => after (cancelMeeting c.rt m reason cancelEvent) w
  | .outcome m request actor key client =>
    after (recordMeetingOutcome c.rt m request actor key client) w
  | .retrySync m actor client => after (retryMeetingCrmSync c.rt m actor client) w
  | .prepPacket m actor key => after (generateMeetingPrepPacket c.rt m actor key) w

end Machine

end GhostRecon
