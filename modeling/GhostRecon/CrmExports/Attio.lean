import GhostRecon.CrmExports.Finishing
import GhostRecon.Meeting.Calendars

/-!
The client of the CRM. Its callers catch the provider's error inside their transactions, so
everything that can go wrong with a request has to become that error. Status codes do; a
request that is not answered, an answer that is not a JSON object and a value that has no
JSON form escape as what they are, and take the transaction of the caller with them.
-/

namespace GhostRecon

open Lib (Id Table after)

section Requests

/-- A value of a plan. A time has no JSON form. -/
inductive PlanValue where
  | json (value : Json)
  | time (t : Time)
  | list (items : List PlanValue)
  | dict (fields : List (String × PlanValue))

mutual

/-- What `json.dumps` sends of a value, if it takes it. -/
def PlanValue.encode : PlanValue → Option Json
  | .json value => some value
  | .time _ => none
  | .list items => (encodeItems items).map Json.arr
  | .dict fields => (encodeFields fields).map Json.obj

def encodeItems : List PlanValue → Option (List Json)
  | [] => some []
  | item :: rest => do return (← item.encode) :: (← encodeItems rest)

def encodeFields : List (String × PlanValue) → Option (List (String × Json))
  | [] => some []
  | (key, value) :: rest => do return (key, ← value.encode) :: (← encodeFields rest)

end

/-- What a `CrmExportPlan` and a `CrmSyncPlan` have in common. -/
structure UpsertPlan where
  providerObject : String
  matchingAttribute : String
  values : List (String × PlanValue)
  listApiSlug : Option String
  listEntryValues : List (String × PlanValue)

structure HttpRequest where
  path : String
  json : Json

structure HttpResponse where
  status : Nat
  /-- The `Retry-After` header. -/
  retryAfter : Option String := none
  /-- The body, when it is JSON. -/
  json : Option Json := none

/-- `response.is_success`. -/
def HttpResponse.isSuccess (response : HttpResponse) : Bool :=
  decide (200 ≤ response.status ∧ response.status < 300)

/-- What becomes of a request: an `httpx.RequestError`, or a response. -/
inductive HttpOutcome where
  | failed (message : String)
  | answered (response : HttpResponse)

/-- What the client takes from outside: the transport, and reading a text as an integer. -/
structure AttioHost where
  transport : HttpRequest → HttpOutcome
  intOfText : String → Option Int

/-- Code that may fail with the provider's error, or with any other. -/
abbrev AttioM (α : Type) := ExceptT CrmProviderError (Except PyError) α

def escape {α : Type} (error : PyError) : AttioM α :=
  ExceptT.mk (.error error)

/-- A request of the client, before its body is encoded. -/
structure AttioCall where
  path : String
  body : PlanValue

variable (host : AttioHost)

/-- `AttioClient.request`. -/
def attioRequest (call : AttioCall) : AttioM Json :=
  match call.body.encode with
  | none => escape (.conversionError .typeError)
  | some json =>
    match host.transport ⟨call.path, json⟩ with
    | .failed message => escape (.providerError message)
    | .answered response =>
      if response.status = 429 then
        throw {
          message := "Attio rate limit exceeded"
          retryable := true
          retryAfterSeconds := response.retryAfter.bind host.intOfText }
      else if response.isSuccess = false then
        throw {
          message := "Attio request failed with status " ++ toString response.status
          retryable := decide (500 ≤ response.status ∧ response.status < 600) }
      else
        match response.json with
        | none => escape (.valueError "Expecting value")
        | some json => pure json

/-- `_data`. Only an object has a `get`. -/
def dataOf (payload : Json) : AttioM Json :=
  match payload with
  | .obj fields =>
    match (Json.obj fields).get? "data" with
    | some (.obj data) => pure (.obj data)
    | _ => pure (.obj fields)
  | _ => escape .attributeError

/-- `_optional_str`. -/
def optionalStr : Option Json → Option String
  | some (.str text) => nonEmpty text
  | _ => none

/-- The object under a key, or an empty one. -/
def objectAt (data : Json) (key : String) : Json :=
  match data.get? key with
  | some (.obj fields) => .obj fields
  | _ => .obj []

/-- The record id in the data of an answer. -/
def identify (data : Json) : AttioM String :=
  match (optionalStr ((objectAt data "id").get? "record_id")).or
      (optionalStr (data.get? "record_id")) with
  | some id => pure id
  | none =>
    throw { message := "Attio response did not include a record ID", retryable := true }

/-- `_record_id`. -/
def recordId (payload : Json) : AttioM String := do
  let data ← dataOf payload
  identify data

def recordCall (plan : UpsertPlan) : AttioCall where
  path := "/v2/objects/" ++ plan.providerObject ++ "/records"
  body := .dict [("data", .dict [("values", .dict plan.values)]),
    ("matching_attribute", .json (.str plan.matchingAttribute))]

def entryCall (plan : UpsertPlan) (recordId : String) : AttioCall where
  path := "/v2/lists/" ++ plan.listApiSlug.getD "" ++ "/entries"
  body := .dict [("data", .dict [("parent_record_id", .json (.str recordId)),
    ("parent_object", .json (.str plan.providerObject)),
    ("entry_values", .dict plan.listEntryValues)])]

/-- The result of a record with its entry in a list. -/
def entryResult (recordId : String) (data : Json) : CrmExportResult where
  providerRecordId := recordId
  providerListId :=
    (optionalStr ((objectAt data "id").get? "list_id")).or (optionalStr (data.get? "list_id"))
  providerListEntryId :=
    (optionalStr ((objectAt data "id").get? "entry_id")).or (optionalStr (data.get? "entry_id"))

/-- `_upsert_plan`: the record, and its entry in the list of the plan. -/
def upsertPlan (plan : UpsertPlan) : AttioM CrmExportResult := do
  let record ← attioRequest host (recordCall plan)
  let id ← recordId record
  if truthy plan.listApiSlug then
    let entry ← attioRequest host (entryCall plan id)
    let data ← dataOf entry
    return entryResult id data
  else
    return { providerRecordId := id }

end Requests

section Plans

def CrmExportPlan.upsert (plan : CrmExportPlan) : UpsertPlan where
  providerObject := plan.providerObject
  matchingAttribute := plan.matchingAttribute
  values := plan.values.map fun entry => (entry.1, .json entry.2)
  listApiSlug := some plan.listApiSlug
  listEntryValues := plan.listEntryValues.map fun entry => (entry.1, .json (.str entry.2))

/-- `AttioCrmClient.export`. -/
def attioExporter (host : AttioHost) : CrmExporter := fun plan =>
  (upsertPlan host plan.upsert).run

def meetingStatusValue : MeetingStatus → String
  | .scheduled => "scheduled"
  | .completed => "completed"
  | .canceled => "canceled"
  | .failedSync => "failed_sync"

/-- A text of a plan. -/
def planText (text : Option String) : PlanValue :=
  .json (jsonText text)

/-- `meeting_follow_up_task_to_api`: its times stay times. -/
def followUpTaskFields (task : MeetingFollowUpTask) : PlanValue :=
  .dict [("meeting_id", .json (jsonId task.meetingId)), ("title", .json (.str task.title)),
    ("description", planText task.description), ("owner", planText task.owner),
    ("due_at", (task.dueAt.map PlanValue.time).getD (.json .null)),
    ("status", .json (.str task.status)), ("crm_sync_status", .json (.str task.crmSyncStatus)),
    ("provider_task_id", planText task.providerTaskId), ("last_error", planText task.lastError),
    ("created_at", .time task.createdAt), ("updated_at", .time task.updatedAt)]

/-- `_crm_sync_plan`, as the client takes it. -/
def CrmSyncPlan.upsert (listApiSlug : Option String) (plan : CrmSyncPlan) : UpsertPlan where
  providerObject := "meeting_handoffs"
  matchingAttribute := "ghostrecon_id"
  values :=
    [("ghostrecon_id", .json (jsonId plan.targetId)),
      ("crm_target_id", .json (jsonId plan.crmTargetId)),
      ("account_id", .json ((plan.accountId.map jsonId).getD .null)),
      ("contact_id", .json ((plan.contactId.map jsonId).getD .null)),
      ("subject", .json (.str plan.subject)),
      ("status", .json (.str (meetingStatusValue plan.status))),
      ("start_at", .json (.int plan.startAt)), ("end_at", .json (.int plan.endAt)),
      ("timezone", .json (.str plan.timezone)), ("outcome_status", planText plan.outcomeStatus),
      ("outcome_notes", planText plan.outcomeNotes),
      ("next_steps", .json (.arr (plan.nextSteps.map Json.str))),
      ("calendar_provider", .json (.str plan.calendarProvider)),
      ("calendar_event_id", planText plan.calendarEventId),
      ("calendar_link", planText plan.calendarLink),
      ("follow_up_tasks", .list (plan.followUpTasks.map followUpTaskFields)),
      ("synced_by", .json (.str plan.syncedBy))]
  listApiSlug := listApiSlug
  listEntryValues :=
    [("meeting_status", .json (.str (meetingStatusValue plan.status))),
      ("outcome_status", planText plan.outcomeStatus)]

/-- The exceptions that are a `ValueError`. -/
def PyError.isValueError : PyError → Bool
  | .valueError _ | .validationError _ | .conversionError .valueError => true
  | _ => false

/-- `AttioCrmClient.sync`, as `_sync_meeting_to_crm` takes it: the provider's error and a
`ValueError` are caught. -/
def attioSyncClient (host : AttioHost) (listApiSlug : Option String) : CrmSyncClient :=
  .enabled fun plan =>
    match (upsertPlan host (plan.upsert listApiSlug)).run with
    | .ok (.ok result) => .ok (.ok result)
    | .ok (.error error) =>
      .ok (.error {
        message := error.message
        retryable := error.retryable
        retryAfterSeconds := error.retryAfterSeconds })
    | .error error =>
      if error.isValueError then .ok (.error { message := error.message }) else .error error

end Plans

section Ending

variable (host : AttioHost)

/-- The CRM is out: no answer, too many requests or an error of the server. -/
def HttpOutcome.outage : HttpOutcome → Bool
  | .failed _ => true
  | .answered response =>
    decide (response.status = 429 ∨ 500 ≤ response.status ∧ response.status < 600)

/-- There is an answer, and a success comes with a JSON object. -/
def HttpOutcome.orderly : HttpOutcome → Bool
  | .failed _ => false
  | .answered response =>
    !response.isSuccess ||
      match response.json with
      | some (.obj _) => true
      | _ => false

/-- What becomes of a call, when it can be sent. -/
def AttioCall.outcome (call : AttioCall) : Option HttpOutcome :=
  call.body.encode.map fun json => host.transport ⟨call.path, json⟩

/-- The call can be sent and is answered in good order. -/
def AttioCall.answered (call : AttioCall) : Bool :=
  (call.outcome host).any HttpOutcome.orderly

/-- The call meets an outage. -/
def AttioCall.out (call : AttioCall) : Bool :=
  (call.outcome host).any HttpOutcome.outage

/-- The wait a refusal asks for. -/
def AttioCall.retryAfter (call : AttioCall) : Option Int :=
  match call.outcome host with
  | some (.answered response) =>
    if response.status = 429 then response.retryAfter.bind host.intOfText else none
  | _ => none

/-- The id under which the record of the plan was filed. -/
def filedRecord (plan : UpsertPlan) : Option String :=
  match (attioRequest host (recordCall plan) >>= recordId).run with
  | .ok (.ok id) => some id
  | _ => none

/-- The calls a plan comes to: its record and, once that is filed, its entry in a list. -/
def planCalls (plan : UpsertPlan) : List AttioCall :=
  recordCall plan ::
    ((filedRecord host plan).filter fun _ => truthy plan.listApiSlug).toList.map (entryCall plan)

/-- Every call of the plan can be sent and is answered in good order. -/
def UpsertPlan.answered (plan : UpsertPlan) : Bool :=
  (planCalls host plan).all (·.answered host)

/-- A call of the plan meets an outage. -/
def UpsertPlan.out (plan : UpsertPlan) : Bool :=
  (planCalls host plan).any (·.out host)

/-- The waits the CRM asks for have room in their columns. -/
def UpsertPlan.waitsFit (plan : UpsertPlan) : Bool :=
  (planCalls host plan).all fun call => (call.retryAfter host).all fitsInteger

/-- The plan ends with a result or with the provider's error, which may be retried after an
outage. -/
structure EndsWell (plan : UpsertPlan) : Prop where
  ends : ∃ answer, (upsertPlan host plan).run = .ok answer
  retryable : plan.out host = true →
    ∃ error, (upsertPlan host plan).run = .ok (.error error) ∧ error.retryable = true

/-- The data of a request that is answered. -/
def fetchData (call : AttioCall) : AttioM Json :=
  attioRequest host call >>= dataOf

variable {host} {call : AttioCall}

theorem HttpResponse.calm_of_success (response : HttpResponse) (h : response.isSuccess = true) :
    ¬ (response.status = 429 ∨ 500 ≤ response.status ∧ response.status < 600) := by
  have hrange := of_decide_eq_true h
  omega

theorem dataOf_obj (fields : List (String × Json)) :
    ∃ data, (dataOf (.obj fields)).run = .ok (.ok (.obj data)) := by
  simp only [dataOf]
  split
  · exact ⟨_, rfl⟩
  · exact ⟨_, rfl⟩

/-- A request that is not answered in good order raises something else, and no `ValueError`
when there is no answer. -/
theorem fetchData_escapes (h : call.answered host = false) :
    ∃ e, (fetchData host call).run = .error e ∧
      (call.out host = true → e.isValueError = false) := by
  unfold AttioCall.answered AttioCall.outcome at h
  unfold fetchData attioRequest AttioCall.out AttioCall.outcome
  cases hencode : call.body.encode with
  | none => exact ⟨_, rfl, fun _ => rfl⟩
  | some json =>
    rw [hencode, Option.map_some, Option.any_some] at h
    cases hanswer : host.transport ⟨call.path, json⟩ with
    | failed message =>
      simp only [hanswer]
      exact ⟨_, rfl, fun _ => rfl⟩
    | answered response =>
      rw [hanswer] at h
      simp only [HttpOutcome.orderly, Bool.or_eq_false_iff, Bool.not_eq_false'] at h
      obtain ⟨hsuccess, hbody⟩ := h
      have hcalm : ¬ (response.status = 429 ∨ 500 ≤ response.status ∧ response.status < 600) :=
        response.calm_of_success hsuccess
      have hraised : ¬ response.isSuccess = false := by simp [hsuccess]
      have hstatus : response.status ≠ 429 := fun hlimit => hcalm (Or.inl hlimit)
      simp only [hanswer, if_neg hstatus, if_neg hraised]
      have hout : HttpOutcome.outage (.answered response) = false := decide_eq_false hcalm
      rw [Option.map_some, Option.any_some, hanswer, hout]
      cases hjson : response.json with
      | none => exact ⟨_, rfl, fun hfalse => by cases hfalse⟩
      | some value =>
        rw [hjson] at hbody
        cases value with
        | obj fields => simp at hbody
        | _ => exact ⟨_, rfl, fun _ => rfl⟩

/-- A request that is answered in good order gives an object, or the provider's error, and
after an outage one that may be retried. -/
theorem fetchData_answers (h : call.answered host = true) :
    (∃ data, (fetchData host call).run = .ok (.ok data) ∧ call.out host = false ∧
        call.retryAfter host = none) ∨
      ∃ error, (fetchData host call).run = .ok (.error error) ∧
        (call.out host = true → error.retryable = true) ∧
        error.retryAfterSeconds = call.retryAfter host := by
  unfold AttioCall.answered AttioCall.outcome at h
  unfold fetchData attioRequest AttioCall.out AttioCall.retryAfter AttioCall.outcome
  cases hencode : call.body.encode with
  | none => simp [hencode] at h
  | some json =>
    rw [hencode, Option.map_some, Option.any_some] at h
    rw [Option.map_some, Option.any_some]
    cases hanswer : host.transport ⟨call.path, json⟩ with
    | failed message => simp [hanswer, HttpOutcome.orderly] at h
    | answered response =>
      rw [hanswer] at h
      simp only [HttpOutcome.orderly, Bool.or_eq_true, Bool.not_eq_true'] at h
      simp only [hanswer, HttpOutcome.outage]
      by_cases hlimit : response.status = 429
      · right
        simp only [if_pos hlimit]
        exact ⟨_, rfl, fun _ => rfl, rfl⟩
      · simp only [if_neg hlimit]
        cases hsuccess : response.isSuccess with
        | false =>
          right
          refine ⟨_, rfl, ?_, rfl⟩
          intro hout
          simpa [hlimit] using hout
        | true =>
          left
          rw [if_neg (by simp)]
          have hbody := h.resolve_left (by simp [hsuccess])
          have hcalm := response.calm_of_success hsuccess
          cases hjson : response.json with
          | none => simp [hjson] at hbody
          | some value =>
            rw [hjson] at hbody
            cases value with
            | obj fields =>
              obtain ⟨data, hdata⟩ := dataOf_obj fields
              exact ⟨.obj data, hdata, decide_eq_false hcalm, trivial⟩
            | _ => simp at hbody

/-- An answer names its record, or the error may be retried. -/
theorem identify_ends (data : Json) :
    (∃ id, (identify data).run = .ok (.ok id)) ∨
      ∃ error, (identify data).run = .ok (.error error) ∧ error.retryable = true := by
  unfold identify
  split
  · exact Or.inl ⟨_, rfl⟩
  · exact Or.inr ⟨_, rfl, rfl⟩

variable {plan : UpsertPlan}

theorem filedRecord_eq : filedRecord host plan =
    match (fetchData host (recordCall plan) >>= identify).run with
    | .ok (.ok id) => some id
    | _ => none := by
  have hbind : attioRequest host (recordCall plan) >>= recordId =
      fetchData host (recordCall plan) >>= identify := by
    rw [fetchData, bind_assoc]
    rfl
  rw [filedRecord, hbind]

theorem upsertPlan_eq : upsertPlan host plan =
    (fetchData host (recordCall plan) >>= identify) >>= fun id =>
      if truthy plan.listApiSlug then
        fetchData host (entryCall plan id) >>= fun data => pure (entryResult id data)
      else pure { providerRecordId := id } := by
  simp only [upsertPlan, fetchData, recordId, bind_assoc]

theorem run_bind_ok {α β : Type} {x : AttioM α} {f : α → AttioM β} {a : α}
    (h : x.run = .ok (.ok a)) : (x >>= f).run = (f a).run := by
  rw [ExceptT.run_bind, h]
  rfl

theorem run_bind_error {α β : Type} {x : AttioM α} {f : α → AttioM β} {error : CrmProviderError}
    (h : x.run = .ok (.error error)) : (x >>= f).run = .ok (.error error) := by
  rw [ExceptT.run_bind, h]
  rfl

theorem run_bind_escape {α β : Type} {x : AttioM α} {f : α → AttioM β} {e : PyError}
    (h : x.run = .error e) : (x >>= f).run = .error e := by
  rw [ExceptT.run_bind, h]
  rfl

theorem filedRecord_of_ok {id : String}
    (h : (fetchData host (recordCall plan) >>= identify).run = .ok (.ok id)) :
    filedRecord host plan = some id := by
  rw [filedRecord_eq, h]

/-- A plan with a call that is not answered in good order raises something else. -/
theorem upsertPlan_escapes (h : plan.answered host = false) :
    ∃ e, (upsertPlan host plan).run = .error e ∧
      (plan.out host = true → e.isValueError = false) := by
  rw [upsertPlan_eq]
  cases hrecord : (recordCall plan).answered host with
  | false =>
    obtain ⟨e, hraised, hout⟩ := fetchData_escapes hrecord
    have hnone : filedRecord host plan = none := by
      rw [filedRecord_eq, run_bind_escape hraised]
    refine ⟨e, run_bind_escape (run_bind_escape hraised), ?_⟩
    intro hplan
    apply hout
    simpa [UpsertPlan.out, planCalls, hnone] using hplan
  | true =>
    have hcalls : ∃ call ∈ planCalls host plan, call.answered host = false := by
      simpa [UpsertPlan.answered] using h
    obtain ⟨call, hcall, hlost⟩ := hcalls
    obtain rfl | hentry := List.mem_cons.mp hcall
    · rw [hrecord] at hlost
      cases hlost
    · obtain ⟨id, hid, rfl⟩ := List.mem_map.mp hentry
      obtain ⟨hfiled, hlist⟩ := Option.filter_eq_some_iff.mp (Option.mem_toList.mp hid)
      obtain ⟨data, hdata, hcalm, -⟩ | ⟨error, herror, -⟩ := fetchData_answers hrecord
      · obtain ⟨named, hnamed⟩ | ⟨error, herror, -⟩ := identify_ends data
        · have hok : (fetchData host (recordCall plan) >>= identify).run = .ok (.ok named) := by
            rw [run_bind_ok hdata, hnamed]
          rw [filedRecord_of_ok hok] at hfiled
          obtain rfl := Option.some.inj hfiled
          obtain ⟨e, hraised, hout⟩ := fetchData_escapes hlost
          refine ⟨e, ?_, ?_⟩
          · rw [run_bind_ok hok, if_pos hlist, run_bind_escape hraised]
          · intro hplan
            apply hout
            simpa [UpsertPlan.out, planCalls, filedRecord_of_ok hok, hlist, hcalm] using hplan
        · rw [filedRecord_eq, run_bind_ok hdata, herror] at hfiled
          cases hfiled
      · rw [filedRecord_eq, run_bind_error herror] at hfiled
        cases hfiled

/-- A plan whose calls are all answered in good order ends with a result or the provider's
error, and after an outage with one that may be retried. -/
theorem upsertPlan_answers (h : plan.answered host = true) :
    ∃ answer, (upsertPlan host plan).run = .ok answer ∧
      (plan.out host = true → ∃ error, answer = .error error ∧ error.retryable = true ∧
        error.retryAfterSeconds.all fitsInteger = plan.waitsFit host) := by
  have hall : ∀ call ∈ planCalls host plan, call.answered host = true := List.all_eq_true.mp h
  have hrecord := hall _ (List.mem_cons_self ..)
  rw [upsertPlan_eq]
  obtain ⟨data, hdata, hcalm, hwait⟩ | ⟨error, herror, hout, hwait⟩ := fetchData_answers hrecord
  · obtain ⟨id, hid⟩ | ⟨error, herror, -⟩ := identify_ends data
    · have hok : (fetchData host (recordCall plan) >>= identify).run = .ok (.ok id) := by
        rw [run_bind_ok hdata, hid]
      have hfiled := filedRecord_of_ok hok
      rw [run_bind_ok hok]
      cases hlist : truthy plan.listApiSlug with
      | false =>
        refine ⟨_, rfl, ?_⟩
        intro hplan
        simp [UpsertPlan.out, planCalls, hfiled, hlist, hcalm] at hplan
      | true =>
        have hcalls : planCalls host plan = [recordCall plan, entryCall plan id] := by
          simp [planCalls, hfiled, hlist]
        have hentry := hall (entryCall plan id) (by simp [hcalls])
        rw [if_pos rfl]
        obtain ⟨data', hdata', hcalm', -⟩ | ⟨error, herror, hout, hwait'⟩ :=
          fetchData_answers hentry
        · refine ⟨_, run_bind_ok hdata', ?_⟩
          intro hplan
          simp [UpsertPlan.out, hcalls, hcalm, hcalm'] at hplan
        · refine ⟨_, run_bind_error herror, ?_⟩
          intro hplan
          have hmet : (entryCall plan id).out host = true := by
            simpa [UpsertPlan.out, hcalls, hcalm] using hplan
          refine ⟨error, rfl, hout hmet, ?_⟩
          simp [UpsertPlan.waitsFit, hcalls, hwait, hwait']
    · have hraised : (fetchData host (recordCall plan) >>= identify).run = .ok (.error error) := by
        rw [run_bind_ok hdata, herror]
      have hnone : filedRecord host plan = none := by rw [filedRecord_eq, hraised]
      refine ⟨_, run_bind_error hraised, ?_⟩
      intro hplan
      simp [UpsertPlan.out, planCalls, hnone, hcalm] at hplan
  · have hnone : filedRecord host plan = none := by rw [filedRecord_eq, run_bind_error herror]
    refine ⟨_, run_bind_error (run_bind_error herror), ?_⟩
    intro hplan
    have hmet : (recordCall plan).out host = true := by
      simpa [UpsertPlan.out, planCalls, hnone] using hplan
    refine ⟨error, rfl, hout hmet, ?_⟩
    simp [UpsertPlan.waitsFit, planCalls, hnone, hwait]

/-- The client ends well on exactly the plans whose calls are all answered in good order. -/
theorem endsWell_iff : EndsWell host plan ↔ plan.answered host = true := by
  constructor
  · rintro ⟨⟨answer, hends⟩, -⟩
    by_contra hlost
    obtain ⟨e, hraised, -⟩ := upsertPlan_escapes (Bool.eq_false_iff.mpr hlost)
    rw [hraised] at hends
    cases hends
  · intro h
    obtain ⟨answer, hends, hretry⟩ := upsertPlan_answers h
    refine ⟨⟨answer, hends⟩, ?_⟩
    intro hplan
    obtain ⟨error, rfl, hmay, -⟩ := hretry hplan
    exact ⟨error, hends, hmay⟩

end Ending

end GhostRecon
