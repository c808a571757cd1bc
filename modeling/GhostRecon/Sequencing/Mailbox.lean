import GhostRecon.Sequencing.Operations

/-!
Polling the mailbox. Fetching a message marks it as seen, so a message that is
fetched and not stored is lost. The messages are turned into events in one
loop and the events are processed in a second one; neither handles an
exception, so what becomes of a message depends on all the others.
-/

namespace GhostRecon

open Lib (Id Table Admissible after run query write)
open Std.Do

set_option mvcgen.warning false

/-- The value of a header: text, or an object the library returns for bytes that
are no text, which only has a printed form. -/
inductive HeaderValue where
  | text (value : String)
  | undecoded (shown : String)
  deriving DecidableEq, Repr

/-- `str(value)`. -/
def HeaderValue.shown : HeaderValue → String
  | .text value => value
  | .undecoded shown => shown

structure ImapMessage where
  fromHeader : Option HeaderValue := none
  toHeader : Option HeaderValue := none
  subject : Option HeaderValue := none
  messageId : Option HeaderValue := none
  deriving DecidableEq, Repr

/-- What a FETCH answers: a message, or nothing that can be read. -/
inductive ImapAnswer where
  | message (message : ImapMessage)
  | unavailable
  deriving DecidableEq, Repr

def afterFirst (c : Char) (s : String) : String :=
  String.ofList ((s.toList.dropWhile (· ≠ c)).drop 1)

section Polling

variable [Casing]

/-- `_extract_address`. Searching a value that is no text raises. -/
def extractAddress (raw : Option HeaderValue) : Except PyError (Option String) :=
  match raw with
  | none => .ok none
  | some (.undecoded _) => .error (.valueError "argument of type 'Header' is not iterable")
  | some (.text value) =>
    if value = "" then .ok none
    else if '<' ∈ value.toList ∧ '>' ∈ value.toList then
      .ok (nonEmpty (lower (stripChars isPySpace (beforeFirst '>' (afterFirst '<' value)))))
    else .ok (nonEmpty (lower (stripChars isPySpace value)))

/-- `_classify_inbound`. -/
def classifyInbound (subject : String) (fromEmail : Option String) : InboundEmailEventType :=
  let normalized := lower subject
  if occursIn "unsubscribe" normalized then .unsubscribe
  else if occursIn "undeliver" normalized ∨ occursIn "delivery status" normalized ∨
      occursIn "mailer-daemon" (lower (fromEmail.getD "")) then .bounce
  else .reply

omit [Casing] in
/-- `str(header or default)`. -/
def headerText (header : Option HeaderValue) (default : String) : String :=
  match header with
  | none | some (.text "") => default
  | some value => value.shown

/-- The event of a message; `uuid` names a message without an identifier. -/
def ImapMessage.event (rt : Runtime) (uuid : String) (message : ImapMessage) :
    Except PyError InboundEmailEventCreate := do
  let fromEmail ← extractAddress message.fromHeader
  let toEmail ← extractAddress message.toHeader
  let subject := headerText message.subject ""
  if !fromEmail.all rt.validEmail then
    throw (.validationError "from_email")
  if !toEmail.all rt.validEmail then
    throw (.validationError "to_email")
  return {
    eventType := classifyInbound subject fromEmail
    fromEmail
    toEmail
    messageId := some (headerText message.messageId uuid)
    providerPayload := [("subject", subject)] }

/-- What a poll leaves: the messages it fetched, and its events unless it raised. -/
structure Polled where
  fetched : List (ImapMessage × String)
  result : Except PyError (List InboundEmailEventCreate)

/-- The loop of `poll` over the answers to its fetches, each with an unused
identifier. -/
def pollMessages (rt : Runtime) : List (ImapAnswer × String) → Polled
  | [] => { fetched := [], result := .ok [] }
  | (.unavailable, _) :: rest => pollMessages rt rest
  | (.message message, uuid) :: rest =>
    match message.event rt uuid with
    | .error e => { fetched := [(message, uuid)], result := .error e }
    | .ok event =>
      let later := pollMessages rt rest
      { fetched := (message, uuid) :: later.fetched
        result := later.result.map (event :: ·) }

omit [Casing] in
def InboundEmailEventType.value : InboundEmailEventType → String
  | .reply => "reply"
  | .bounce => "bounce"
  | .unsubscribe => "unsubscribe"

omit [Casing] in
/-- The key under which a polled event is processed. -/
def InboundEmailEventCreate.pollKey (event : InboundEmailEventCreate) : String :=
  "inbound_email:" ++ event.eventType.value ++ ":" ++ event.messageId.getD ""

/-- The transaction of one polled event. -/
def processPolled (rt : Runtime) (event : InboundEmailEventCreate) : Tx Id :=
  processInboundEmailEvent rt event event.pollKey

/-- `poll_inbound_email_events` on a mailbox whose unseen messages answer so. -/
def pollInboundEmailEvents (rt : Runtime) (limit : Nat)
    (unseen : List (ImapAnswer × String)) : Tx (List Id) :=
  match (pollMessages rt (unseen.take limit)).result with
  | .error e => throw e
  | .ok events => events.mapM (processPolled rt)

/-- The messages that were read among the answers. -/
def answered (unseen : List (ImapAnswer × String)) : List (ImapMessage × String) :=
  unseen.filterMap fun answer =>
    match answer with
    | (.message message, uuid) => some (message, uuid)
    | (.unavailable, _) => none

/-- The message becomes an event: its addresses are text, and valid where they
are given. -/
def WellFormed (rt : Runtime) (message : ImapMessage × String) : Prop :=
  (message.1.event rt message.2).isOk = true

/-- The message is stored: there is an event under its key. -/
def StoredAs (rt : Runtime) (s : Store) (message : ImapMessage × String) : Prop :=
  ∃ event, message.1.event rt message.2 = .ok event ∧
    ∃ row ∈ s.inboundEvents, row.idempotencyKey = event.pollKey

/-- The events of the messages that become one, in order. -/
def polledEvents (rt : Runtime) (messages : List (ImapMessage × String)) :
    List InboundEmailEventCreate :=
  messages.filterMap fun message => (message.1.event rt message.2).toOption

/-- When all messages are well formed the poll fetches them all and returns their
events; otherwise it raises after fetching a malformed one. -/
theorem pollMessages_cases (rt : Runtime) (unseen : List (ImapAnswer × String)) :
    ((∀ message ∈ answered unseen, WellFormed rt message) ∧
        (pollMessages rt unseen).fetched = answered unseen ∧
        (pollMessages rt unseen).result = .ok (polledEvents rt (answered unseen))) ∨
      ((∃ e, (pollMessages rt unseen).result = .error e) ∧
        ∃ message ∈ (pollMessages rt unseen).fetched, message ∈ answered unseen ∧
          ¬ WellFormed rt message) := by
  induction unseen with
  | nil => exact Or.inl ⟨fun _ hmem => absurd hmem List.not_mem_nil, rfl, rfl⟩
  | cons answer rest ih =>
    obtain ⟨answer, uuid⟩ := answer
    cases answer with
    | unavailable => exact ih
    | message message =>
      have hanswered : answered ((.message message, uuid) :: rest) =
          (message, uuid) :: answered rest := rfl
      cases hevent : message.event rt uuid with
      | error e =>
        right
        have hpoll : pollMessages rt ((.message message, uuid) :: rest) =
            { fetched := [(message, uuid)], result := .error e } := by
          rw [pollMessages, hevent]
        rw [hpoll, hanswered]
        refine ⟨⟨e, rfl⟩, (message, uuid), List.mem_singleton.mpr rfl, List.mem_cons_self, ?_⟩
        rw [WellFormed, hevent]
        exact Bool.false_ne_true
      | ok event =>
        have hwell : WellFormed rt (message, uuid) := by
          rw [WellFormed, hevent]
          rfl
        have hpoll : pollMessages rt ((.message message, uuid) :: rest) =
            { fetched := (message, uuid) :: (pollMessages rt rest).fetched
              result := (pollMessages rt rest).result.map (event :: ·) } := by
          rw [pollMessages, hevent]
        rw [hpoll, hanswered]
        obtain ⟨hall, hfetched, hresult⟩ | ⟨⟨e, hresult⟩, bad, hbad, hanswer, hmalformed⟩ := ih
        · left
          refine ⟨?_, by rw [hfetched], ?_⟩
          · intro other hother
            obtain rfl | hrest := List.mem_cons.mp hother
            · exact hwell
            · exact hall other hrest
          · have hevents : polledEvents rt ((message, uuid) :: answered rest) =
                event :: polledEvents rt (answered rest) := by
              rw [polledEvents, List.filterMap_cons, hevent]
              rfl
            rw [hresult, hevents]
            rfl
        · right
          refine ⟨⟨e, by rw [hresult]; rfl⟩, bad, List.mem_cons_of_mem _ hbad,
            List.mem_cons_of_mem _ hanswer, hmalformed⟩

omit [Casing] in
theorem recordReply_inboundEvents (now : Time) (event : Id)
    (enrollment : Option (Id × SequenceEnrollment)) (s : Store) :
    (recordReply now event enrollment s).inboundEvents = s.inboundEvents := by
  cases enrollment <;> rfl

omit [Casing] in
theorem recordBounce_inboundEvents (now : Time) (event : Id) (outbound enrollment : Option Id)
    (s : Store) : (recordBounce now event outbound enrollment s).inboundEvents =
      s.inboundEvents := by
  cases outbound <;> cases enrollment <;> rfl

omit [Casing] in
theorem recordUnsubscribe_inboundEvents (now : Time) (event : Id) (enrollment : Option Id)
    (s : Store) : (recordUnsubscribe now event enrollment s).inboundEvents =
      s.inboundEvents := by
  cases enrollment <;> rfl

/-- The rows hold what they held and one under the key. -/
def Keeps (key : String) (before after : Table InboundEmailEvent) : Prop :=
  before <+: after ∧ ∃ row ∈ after, row.idempotencyKey = key

omit [Casing] in
theorem Keeps.inserted (t : Table InboundEmailEvent) (row : InboundEmailEvent) :
    Keeps row.idempotencyKey t (t ++ [row]) :=
  ⟨List.prefix_append _ _, row, List.mem_append_right _ (List.mem_singleton.mpr rfl), rfl⟩

/-- A processed event is stored under its key, beside everything stored before. -/
theorem processInboundEmailEvent_stores {rt : Runtime} {request : InboundEmailEventCreate}
    {key : String} {w w' : DbWorld} {event : Id}
    (h : processInboundEmailEvent rt request key w = .ok event w') :
    Keeps key w.store.inboundEvents w'.store.inboundEvents ∧ w'.store.constraintsOk = true := by
  refine Lib.sessionScope_returns (R := fun v =>
    Keeps key w.store.inboundEvents v.store.inboundEvents) h ?_
  mvcgen [createUnsubscribeSuppression, flush, Lib.flush]
  all_goals subst_vars
  · next found hfound =>
    obtain ⟨hrow, hkey⟩ := Table.first?_some hfound
    exact ⟨List.prefix_rfl, _, List.mem_of_getElem? hrow, beq_iff_eq.mp hkey⟩
  · rw [recordReply_inboundEvents]
    exact Keeps.inserted _ _
  · rw [recordBounce_inboundEvents]
    exact Keeps.inserted _ _
  all_goals rw [recordUnsubscribe_inboundEvents]
  all_goals exact Keeps.inserted _ _

/-- An event whose key is stored is not processed again. -/
theorem processInboundEmailEvent_known {rt : Runtime} {request : InboundEmailEventCreate}
    {key : String} {w : DbWorld} (hvalid : w.store.constraintsOk = true)
    (hknown : ∃ row ∈ w.store.inboundEvents, row.idempotencyKey = key) :
    ∃ event, processInboundEmailEvent rt request key w = .ok event w := by
  obtain ⟨row, hrow, hkey⟩ := hknown
  obtain ⟨⟨event, found⟩, hfound⟩ := Table.first?_isSome_of_mem
    (p := fun row => row.idempotencyKey == key) hrow (beq_iff_eq.mpr hkey)
  refine ⟨event, ?_⟩
  simp only [processInboundEmailEvent, sessionScope, Lib.sessionScope_run, Lib.bind_run,
    Lib.query_run, hfound, Lib.pure_run, hvalid, if_true]

/-- The database accepts the rows of an event. -/
def Accepts (rt : Runtime) (w : DbWorld) (event : InboundEmailEventCreate) : Prop :=
  ∃ id w', processPolled rt event w = .ok id w'

def polledStep (rt : Runtime) (w : DbWorld) (event : InboundEmailEventCreate) : DbWorld :=
  after (processPolled rt event) w

theorem processPolled_error_store {rt : Runtime} {event : InboundEmailEventCreate}
    {w w' : DbWorld} {e : PyError} (h : processPolled rt event w = .error e w') :
    w'.store = w.store := by
  have hscope : after (processPolled rt event) w = w' := by rw [after, h]
  unfold processPolled processInboundEmailEvent sessionScope Lib.sessionScope at h
  split at h
  · split at h
    · cases h
    · cases h
      rfl
  · cases h
    rfl

theorem mapM_processPolled_error {rt : Runtime} {event : InboundEmailEventCreate}
    {rest : List InboundEmailEventCreate} {w w' : DbWorld} {e : PyError}
    (h : processPolled rt event w = .error e w') :
    after ((event :: rest).mapM (processPolled rt)) w = w' := by
  simp [after, List.mapM_cons, bind, EStateM.bind, h]

theorem mapM_processPolled_ok {rt : Runtime} {event : InboundEmailEventCreate}
    {rest : List InboundEmailEventCreate} {w w' : DbWorld} {id : Id}
    (h : processPolled rt event w = .ok id w') :
    after ((event :: rest).mapM (processPolled rt)) w =
      after (rest.mapM (processPolled rt)) w' := by
  cases hrest : rest.mapM (processPolled rt) w' <;>
    simp [after, List.mapM_cons, bind, EStateM.bind, h, hrest, pure, EStateM.pure]

/-- The loop keeps every stored event. -/
theorem mapM_processPolled_grows (rt : Runtime) (events : List InboundEmailEventCreate)
    (w : DbWorld) : w.store.inboundEvents <+:
      (after (events.mapM (processPolled rt)) w).store.inboundEvents := by
  induction events generalizing w with
  | nil => exact List.prefix_rfl
  | cons event rest ih =>
    cases hrun : processPolled rt event w with
    | error e w' =>
      rw [mapM_processPolled_error hrun, processPolled_error_store hrun]
    | ok id w' =>
      rw [mapM_processPolled_ok hrun]
      exact (processInboundEmailEvent_stores hrun).1.1.trans (ih w')

/-- The loop over the events stores every one of them exactly when the database
accepts each in its turn. -/
theorem mapM_processPolled_stores {rt : Runtime} {events : List InboundEmailEventCreate}
    {w : DbWorld} (hvalid : w.store.constraintsOk = true) :
    (∀ event ∈ events, ∃ row ∈ (after (events.mapM (processPolled rt)) w).store.inboundEvents,
        row.idempotencyKey = event.pollKey) ↔
      Admissible (polledStep rt) (Accepts rt) w events := by
  induction events generalizing w with
  | nil => exact iff_of_true (fun _ hmem => absurd hmem List.not_mem_nil) trivial
  | cons event rest ih =>
    cases hrun : processPolled rt event w with
    | error e w' =>
      rw [mapM_processPolled_error hrun, processPolled_error_store hrun]
      refine iff_of_false ?_ ?_
      · intro hall
        obtain ⟨id, hknown⟩ := processInboundEmailEvent_known hvalid
          (hall event List.mem_cons_self)
        have hraised : processInboundEmailEvent rt event event.pollKey w = .error e w' := hrun
        rw [hknown] at hraised
        cases hraised
      · rintro ⟨⟨id, accepted, haccepted⟩, -⟩
        rw [hrun] at haccepted
        cases haccepted
    | ok id w' =>
      obtain ⟨hkeeps, hvalid'⟩ := processInboundEmailEvent_stores hrun
      have hstep : polledStep rt w event = w' := by rw [polledStep, after, hrun]
      rw [mapM_processPolled_ok hrun, List.forall_mem_cons, ih hvalid', Admissible, hstep]
      refine and_congr_left fun _ => iff_of_true ?_ ⟨id, w', hrun⟩
      obtain ⟨row, hrow, hkey⟩ := hkeeps.2
      exact ⟨row, (mapM_processPolled_grows rt rest w').subset hrow, hkey⟩

end Polling

/-! An unsubscribe and a reply, and a message whose sender is no address. -/

/-- Addresses with an at-sign are valid, the others are not. -/
def mailRuntime : Runtime where
  now := 0
  validEmail address := '@' ∈ address.toList

def mailFrom (sender subject messageId : String) : ImapAnswer :=
  .message {
    fromHeader := some (.text sender)
    subject := some (.text subject)
    messageId := some (.text messageId) }

def adaLeaves : ImapAnswer × String :=
  (mailFrom "Ada <ada@corp.example>" "Unsubscribe" "m1", "u1")

def bobReplies : ImapAnswer × String :=
  (mailFrom "bob@corp.example" "Re: Hello" "m2", "u2")

def helpdeskWrites : ImapAnswer × String :=
  (mailFrom "Helpdesk" "Ticket 7" "m3", "u3")

theorem accepts_of_returned {rt : Runtime} {w : DbWorld} {event : InboundEmailEventCreate}
    (h : (Lib.returned (processPolled rt event) w).isSome = true) : Accepts rt w event := by
  obtain ⟨id, hid⟩ := Option.isSome_iff_exists.mp h
  exact ⟨id, _, Lib.run_of_returned hid⟩

end GhostRecon
