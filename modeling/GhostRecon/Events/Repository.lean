import GhostRecon.Events.Candidates
import GhostRecon.Lib.Table

/-!
The event store. Items are parsed one after the other: an event or participant whose
key is stored already is kept as its first item wrote it, an event only takes the id of
the new item. What the first item's source says about the reuse of its participants
is never looked at again.
-/

namespace GhostRecon.Events

open Lib (Id Table)

section Tables

/-- The row of an event: the columns of its first candidate, and where it was found. -/
structure CyberEvent extends EventCandidate where
  dedupeKey : String
  sourceDefinitionId : Id
  sourceItemIds : List Id
  version : Nat := 1
  deriving DecidableEq, Repr

structure EventParticipant where
  cyberEventId : Id
  sourceDefinitionId : Id
  sourceItemId : Id
  sourceParticipantId : Option String
  publishedName : String
  organization : Option String
  publishedRole : Option String
  participantType : String
  profileUrl : Option String
  reuseState : String
  contactExtractionAllowed : Bool
  crmExportAllowed : Bool
  resolutionConfidence : Nat
  dedupeKey : ParticipantKey
  deriving DecidableEq, Repr

/-- An outbox row, by its idempotency key. -/
inductive EventNotice where
  /-- `cyber_event.discovered:<event>` -/
  | eventDiscovered (event : Id)
  /-- `event_participant.discovered:<participant>` -/
  | participantDiscovered (participant : Id)
  deriving DecidableEq, Repr

/-- The tables of the event service. -/
structure EventStore where
  sources : Table EventSource := []
  items : Table EventItem := []
  events : Table CyberEvent := []
  participants : Table EventParticipant := []
  outbox : Table EventNotice := []

/-- A raw item with its id and its source. -/
structure PendingItem where
  id : Id
  item : EventItem
  source : EventSource

end Tables

variable [Casing]

section Upserts

/-- Note one more item that publishes the event. -/
def CyberEvent.foundIn (item : Id) (event : CyberEvent) : CyberEvent :=
  if item ∈ event.sourceItemIds then event
  else { event with sourceItemIds := event.sourceItemIds ++ [item] }

/-- The row of an event, as its first item publishes it. -/
def eventFor (pending : PendingItem) (candidate : EventCandidate) : CyberEvent where
  toEventCandidate := candidate
  dedupeKey := buildEventDedupeKey candidate
  sourceDefinitionId := pending.item.sourceDefinitionId
  sourceItemIds := [pending.id]

def upsertEvent (pending : PendingItem) (candidate : EventCandidate) (s : EventStore) :
    EventStore × Id :=
  match s.events.first? (·.dedupeKey == buildEventDedupeKey candidate) with
  | some (e, _) => ({ s with events := s.events.modify e (·.foundIn pending.id) }, e)
  | none =>
    ({ s with
        events := s.events ++ [eventFor pending candidate]
        outbox := s.outbox ++ [.eventDiscovered s.events.length] }, s.events.length)

/-- The row of a participant, with what its first source allows. -/
def participantFor (pending : PendingItem) (key : ParticipantKey)
    (candidate : ParticipantCandidate) : EventParticipant where
  cyberEventId := key.event
  sourceDefinitionId := pending.item.sourceDefinitionId
  sourceItemId := pending.id
  sourceParticipantId := candidate.sourceParticipantId
  publishedName := candidate.publishedName
  organization := candidate.organization
  publishedRole := candidate.publishedRole
  participantType := candidate.participantType
  profileUrl := candidate.profileUrl
  reuseState := pending.source.participantReuseState
  contactExtractionAllowed := (participantEligibility pending.source.participantReuseState).1
  crmExportAllowed := (participantEligibility pending.source.participantReuseState).2
  resolutionConfidence := candidate.resolutionConfidence
  dedupeKey := key

def upsertParticipant (pending : PendingItem) (key : ParticipantKey)
    (candidate : ParticipantCandidate) (s : EventStore) : EventStore :=
  match s.participants.first? (·.dedupeKey == key) with
  | some _ => s
  | none =>
    { s with
      participants := s.participants ++ [participantFor pending key candidate]
      outbox := s.outbox ++ [.participantDiscovered s.participants.length] }

end Upserts

section Parsing

variable (tools : EventTools)

/-- The inner loop of `parse_pending_items`; a key that cannot be built stops it. -/
def upsertParticipants (pending : PendingItem) (e : Id) :
    List ParticipantCandidate → EventStore → EventStore × Option String
  | [], s => (s, none)
  | candidate :: rest, s =>
    match buildParticipantDedupeKey tools e candidate with
    | .error reason => (s, some reason)
    | .ok key => upsertParticipants pending e rest (upsertParticipant pending key candidate s)

/-- The loop over the events of one item. -/
def upsertEvents (pending : PendingItem) :
    List EventCandidate → EventStore → EventStore × Option String
  | [], s => (s, none)
  | candidate :: rest, s =>
    let (s, e) := upsertEvent pending candidate s
    match upsertParticipants tools pending e (participantsFromRawItem tools pending.item) s with
    | (s, some reason) => (s, some reason)
    | (s, none) => upsertEvents pending rest s

/-- Mark an item as parsed, or as failed with what was raised. -/
def EventStore.finish (s : EventStore) (item : Id) (raised : Option String) : EventStore :=
  { s with
    items := s.items.modify item fun row =>
      match raised with
      | none => { row with parseStatus := .parsed }
      | some reason => { row with parseStatus := .failed, quarantineReason := some reason } }

/-- One round of the loop of `parse_pending_items`; what an item wrote before it raised
stays. -/
def parseItem (s : EventStore) (pending : PendingItem) : EventStore :=
  match candidatesFromRawItem tools pending.source pending.item with
  | .error reason => s.finish pending.id (some reason)
  | .ok candidates =>
    let (s, raised) := upsertEvents tools pending candidates s
    s.finish pending.id raised

/-- The pending canonical items of the event sources, oldest first. -/
def EventStore.pendingItems (s : EventStore) (sourceDefinitionId : Option Id) :
    List PendingItem :=
  let joined := s.items.zipIdx.filterMap fun (item, id) =>
    (s.sources[item.sourceDefinitionId]?).map fun source => { id, item, source : PendingItem }
  (joined.filter fun pending =>
    pending.source.sourceKind = "event" && pending.item.parseStatus = .pending &&
      pending.item.duplicateState = "canonical" &&
      sourceDefinitionId.all (pending.item.sourceDefinitionId = ·)).mergeSort
    fun a b => a.item.retrievedAt ≤ b.item.retrievedAt

/-- Parse items in the given order. -/
def parseItems (items : List PendingItem) (s : EventStore) : EventStore :=
  items.foldl (parseItem tools) s

def parsePendingItems (sourceDefinitionId : Option Id) (s : EventStore) : EventStore :=
  parseItems tools (s.pendingItems sourceDefinitionId) s

end Parsing

end GhostRecon.Events
