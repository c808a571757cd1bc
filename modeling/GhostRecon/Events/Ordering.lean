import GhostRecon.Events.Repository
import GhostRecon.Lib.FirstWriter

/-!
The order of the items. Which events are stored, and which items each is found in, does
not depend on the order in which the items are parsed. What a participant's record
permits does: the first item that publishes the participant decides, whatever the
sources of the others say about reuse.
-/

namespace GhostRecon.Events

open Lib (Id Table)

section Published

variable [Casing] (tools : EventTools)

/-- The participants that are stored before a key cannot be built. -/
def identities : List ParticipantCandidate → List ParticipantIdentity
  | [] => []
  | candidate :: rest =>
    match participantIdentity tools candidate with
    | .error _ => []
    | .ok identity => identity :: identities rest

/-- A key that cannot be built stops the item. -/
def stops (candidates : List ParticipantCandidate) : Bool :=
  candidates.any fun candidate => !(participantIdentity tools candidate).isOk

/-- The events an item publishes, up to the one that stops it. -/
def PendingItem.eventKeys (pending : PendingItem) : List String :=
  match candidatesFromRawItem tools pending.source pending.item with
  | .error _ => []
  | .ok candidates =>
    (if stops tools (participantsFromRawItem tools pending.item) then candidates.take 1
      else candidates).map buildEventDedupeKey

/-- The item publishes the participant of the event. -/
def PendingItem.publishes (pending : PendingItem) (key : String × ParticipantIdentity) : Prop :=
  key.1 ∈ pending.eventKeys tools ∧
    key.2 ∈ identities tools (participantsFromRawItem tools pending.item)

instance (pending : PendingItem) (key : String × ParticipantIdentity) :
    Decidable (pending.publishes tools key) :=
  inferInstanceAs (Decidable (_ ∧ _))

end Published

section Views

/-- What a participant's record permits: its reuse state, contact extraction and export. -/
structure Permission where
  reuseState : String
  contactExtractionAllowed : Bool
  crmExportAllowed : Bool
  deriving DecidableEq, Repr

/-- What a source says of its participants. -/
def PendingItem.permission (pending : PendingItem) : Permission where
  reuseState := pending.source.participantReuseState
  contactExtractionAllowed := (participantEligibility pending.source.participantReuseState).1
  crmExportAllowed := (participantEligibility pending.source.participantReuseState).2

def EventParticipant.permission (row : EventParticipant) : Permission where
  reuseState := row.reuseState
  contactExtractionAllowed := row.contactExtractionAllowed
  crmExportAllowed := row.crmExportAllowed

/-- The event stored under a key. -/
def EventStore.event? (s : EventStore) (key : String) : Option (Id × CyberEvent) :=
  s.events.first? (·.dedupeKey == key)

/-- The items the event under a key was found in. -/
def EventStore.foundIn (s : EventStore) (key : String) : List Id :=
  ((s.event? key).map (·.2.sourceItemIds)).getD []

/-- What is stored of a participant, with its event named by key. -/
def EventStore.permission? (s : EventStore) (key : String × ParticipantIdentity) :
    Option Permission :=
  (s.event? key.1).bind fun event =>
    (s.participants.first? (·.dedupeKey == ⟨event.1, key.2⟩)).map (·.2.permission)

/-- Participants belong to stored events. -/
def EventStore.Anchored (s : EventStore) : Prop :=
  ∀ row ∈ s.participants, row.dedupeKey.event < s.events.length

/-- An id belongs to one key. -/
theorem event?_key {s : EventStore} {e : Id} {row row' : CyberEvent} {k k' : String}
    (h : s.event? k = some (e, row)) (h' : s.event? k' = some (e, row')) : k = k' := by
  obtain ⟨hrow, hkey⟩ := Table.first?_some h
  obtain ⟨hrow', hkey'⟩ := Table.first?_some h'
  rw [hrow] at hrow'
  cases hrow'
  rw [← beq_iff_eq.mp hkey, ← beq_iff_eq.mp hkey']

end Views

section Events

variable [Casing] {pending : PendingItem} {candidate : EventCandidate} {s : EventStore}

omit [Casing] in
theorem foundIn_mem {pending item : Id} {event : CyberEvent} :
    item ∈ (event.foundIn pending).sourceItemIds ↔
      item ∈ event.sourceItemIds ∨ item = pending := by
  unfold CyberEvent.foundIn
  split
  · next hmem =>
    constructor
    · exact Or.inl
    · rintro (hold | rfl)
      · exact hold
      · exact hmem
  · simp

omit [Casing] in
theorem foundIn_key {pending : Id} {event : CyberEvent} :
    (event.foundIn pending).dedupeKey = event.dedupeKey := by
  unfold CyberEvent.foundIn
  split <;> rfl

/-- The event under a key after one of them was stored or found again. -/
theorem upsertEvent_event? (pending : PendingItem) (candidate : EventCandidate) (s : EventStore)
    (k : String) :
    (upsertEvent pending candidate s).1.event? k =
      if k = buildEventDedupeKey candidate then
        some ((upsertEvent pending candidate s).2,
          ((s.event? k).map fun found => found.2.foundIn pending.id).getD
            (eventFor pending candidate))
      else s.event? k := by
  cases hfound : s.event? (buildEventDedupeKey candidate) with
  | none =>
    have hnone : s.events.first? (·.dedupeKey == buildEventDedupeKey candidate) = none := hfound
    simp only [upsertEvent, hnone]
    by_cases hk : k = buildEventDedupeKey candidate
    · subst hk
      rw [if_pos rfl, hfound, EventStore.event?, Table.first?_append_new hnone]
      simp [eventFor]
    · rw [if_neg hk]
      refine Table.first?_append_none ?_
      simp [eventFor, Ne.symm hk]
  | some found =>
    obtain ⟨e, row⟩ := found
    have hsome : s.events.first? (·.dedupeKey == buildEventDedupeKey candidate) =
        some (e, row) := hfound
    simp only [upsertEvent, hsome]
    have hmodify := Table.first?_modify (t := s.events) (p := (·.dedupeKey == k)) (i := e)
      (f := (·.foundIn pending.id)) fun row => by rw [foundIn_key]
    rw [EventStore.event?, hmodify]
    by_cases hk : k = buildEventDedupeKey candidate
    · subst hk
      simp [hsome, hfound]
    · rw [if_neg hk]
      cases hother : s.event? k with
      | none =>
        have hnone : s.events.first? (·.dedupeKey == k) = none := hother
        rw [hnone]
        rfl
      | some other =>
        have hsome' : s.events.first? (·.dedupeKey == k) = some other := hother
        have hne : other.1 ≠ e := by
          rintro rfl
          exact hk (event?_key hother hfound)
        rw [hsome']
        simp [hne]

theorem upsertEvent_participants :
    (upsertEvent pending candidate s).1.participants = s.participants := by
  unfold upsertEvent
  split <;> rfl

theorem upsertEvent_length :
    s.events.length ≤ (upsertEvent pending candidate s).1.events.length := by
  unfold upsertEvent
  split <;> simp

/-- The id of the event: the stored one, or the next. -/
theorem upsertEvent_id :
    (upsertEvent pending candidate s).2 =
      ((s.event? (buildEventDedupeKey candidate)).map Prod.fst).getD s.events.length := by
  unfold upsertEvent EventStore.event?
  split
  · next e row hfound => rw [hfound]; rfl
  · next hnone => rw [hnone]; rfl

/-- A new event has no participants yet, a found one keeps its own. -/
theorem upsertEvent_permission? (h : s.Anchored) (key : String × ParticipantIdentity) :
    (upsertEvent pending candidate s).1.permission? key = s.permission? key := by
  unfold EventStore.permission?
  rw [upsertEvent_participants, upsertEvent_event?]
  by_cases hk : key.1 = buildEventDedupeKey candidate
  · rw [if_pos hk, upsertEvent_id, ← hk]
    cases hfound : s.event? key.1 with
    | some found => rfl
    | none =>
      have hnone : s.participants.first? (·.dedupeKey == ⟨s.events.length, key.2⟩) = none := by
        rw [Table.first?_none]
        intro row hrow
        rw [beq_eq_false_iff_ne]
        intro hkey
        have hplace := h row hrow
        rw [hkey] at hplace
        exact absurd hplace (Nat.lt_irrefl _)
      simp [hnone]
  · rw [if_neg hk]

theorem upsertEvent_anchored (h : s.Anchored) :
    (upsertEvent pending candidate s).1.Anchored := by
  intro row hrow
  rw [upsertEvent_participants] at hrow
  exact (h row hrow).trans_le upsertEvent_length

end Events

section Participants

variable [Casing] {tools : EventTools} {pending : PendingItem} {s : EventStore} {e : Id}
  {event : String}

omit [Casing] in
theorem upsertParticipant_events {key : ParticipantKey} {candidate : ParticipantCandidate} :
    (upsertParticipant pending key candidate s).events = s.events := by
  unfold upsertParticipant
  split <;> rfl

omit [Casing] in
/-- The participant is stored, as it was or as this item publishes it. -/
theorem upsertParticipant_permission? {identity : ParticipantIdentity}
    {candidate : ParticipantCandidate} {row : CyberEvent}
    (hevent : s.event? event = some (e, row)) (key : String × ParticipantIdentity) :
    (upsertParticipant pending ⟨e, identity⟩ candidate s).permission? key =
      if key.1 = event ∧ key.2 = identity then (s.permission? key).or (some pending.permission)
      else s.permission? key := by
  have hevents : (upsertParticipant pending ⟨e, identity⟩ candidate s).event? key.1 =
      s.event? key.1 := by
    rw [EventStore.event?, upsertParticipant_events]
    rfl
  unfold EventStore.permission?
  rw [hevents]
  cases hfound : s.event? key.1 with
  | none =>
    have hne : ¬ (key.1 = event ∧ key.2 = identity) := by
      rintro ⟨rfl, -⟩
      rw [hevent] at hfound
      cases hfound
    rw [if_neg hne]
    rfl
  | some found =>
    have hsame : (key.1 = event ∧ key.2 = identity) ↔
        (⟨e, identity⟩ : ParticipantKey) = ⟨found.1, key.2⟩ := by
      rw [ParticipantKey.mk.injEq]
      constructor
      · rintro ⟨rfl, rfl⟩
        rw [hevent] at hfound
        cases hfound
        exact ⟨rfl, rfl⟩
      · rintro ⟨rfl, rfl⟩
        exact ⟨event?_key hfound hevent, rfl⟩
    simp only [Option.bind_some]
    cases hstored : s.participants.first? (·.dedupeKey == ⟨e, identity⟩) with
    | some participant =>
      have hkept : upsertParticipant pending ⟨e, identity⟩ candidate s = s := by
        simp only [upsertParticipant, hstored]
      rw [hkept]
      by_cases hk : key.1 = event ∧ key.2 = identity
      · rw [if_pos hk, ← hsame.mp hk, hstored]
        rfl
      · rw [if_neg hk]
    | none =>
      have hadded : (upsertParticipant pending ⟨e, identity⟩ candidate s).participants =
          s.participants ++ [participantFor pending ⟨e, identity⟩ candidate] := by
        simp only [upsertParticipant, hstored]
      rw [hadded]
      by_cases hk : key.1 = event ∧ key.2 = identity
      · rw [if_pos hk, ← hsame.mp hk, hstored, Table.first?_append_new hstored]
        simp [participantFor, EventParticipant.permission, PendingItem.permission]
      · rw [if_neg hk, Table.first?_append_none]
        have hne := fun heq => hk (hsame.mpr heq)
        simpa [participantFor] using hne

omit [Casing] in
theorem upsertParticipant_anchored {identity : ParticipantIdentity}
    {candidate : ParticipantCandidate} (h : s.Anchored) (he : e < s.events.length) :
    (upsertParticipant pending ⟨e, identity⟩ candidate s).Anchored := by
  intro row hrow
  rw [upsertParticipant_events]
  unfold upsertParticipant at hrow
  split at hrow
  · exact h row hrow
  · rcases List.mem_append.mp hrow with hold | hnew
    · exact h row hold
    · rw [List.mem_singleton] at hnew
      subst hnew
      exact he

/-- What the loop over the participants of an event leaves. -/
structure ParticipantsStored (pending : PendingItem) (event : String)
    (published : List ParticipantIdentity) (s s' : EventStore) : Prop where
  events : s'.events = s.events
  permits : ∀ key : String × ParticipantIdentity, s'.permission? key =
    if key.1 = event ∧ key.2 ∈ published then (s.permission? key).or (some pending.permission)
    else s.permission? key
  anchored : s'.Anchored

theorem upsertParticipants_stored (tools : EventTools) (pending : PendingItem)
    (candidates : List ParticipantCandidate) {row : CyberEvent}
    (hevent : s.event? event = some (e, row)) (h : s.Anchored) :
    ParticipantsStored pending event (identities tools candidates) s
      (upsertParticipants tools pending e candidates s).1 ∧
    ((upsertParticipants tools pending e candidates s).2.isSome = stops tools candidates) := by
  induction candidates generalizing s with
  | nil => exact ⟨⟨rfl, by simp [upsertParticipants, identities], h⟩, rfl⟩
  | cons candidate rest ih =>
    cases hidentity : participantIdentity tools candidate with
    | error reason =>
      have hkey : buildParticipantDedupeKey tools e candidate = .error reason := by
        simp [buildParticipantDedupeKey, hidentity, Except.map]
      simp only [upsertParticipants, hkey, identities, hidentity, stops, List.any_cons]
      exact ⟨⟨rfl, by simp, h⟩, rfl⟩
    | ok identity =>
      have hkey : buildParticipantDedupeKey tools e candidate = .ok ⟨e, identity⟩ := by
        simp [buildParticipantDedupeKey, hidentity, Except.map]
      have he : e < s.events.length :=
        (List.getElem?_eq_some_iff.mp (Table.first?_some hevent).1).1
      have hevent' : (upsertParticipant pending ⟨e, identity⟩ candidate s).event? event =
          some (e, row) := by
        rw [EventStore.event?, upsertParticipant_events]
        exact hevent
      obtain ⟨hstored, hraised⟩ := ih hevent' (upsertParticipant_anchored h he)
      simp only [upsertParticipants, hkey, identities, hidentity]
      refine ⟨⟨?_, ?_, hstored.anchored⟩, ?_⟩
      · rw [hstored.events, upsertParticipant_events]
      · intro key
        rw [hstored.permits, upsertParticipant_permission? hevent]
        by_cases hk : key.1 = event
        · by_cases hhead : key.2 = identity
          · simp [hk, hhead]
          · simp [hk, hhead]
        · simp [hk]
      · rw [hraised]
        simp [stops, hidentity, Except.isOk, Except.toBool]

end Participants

section Items

variable [Casing] {tools : EventTools} {pending : PendingItem} {s : EventStore}

/-- What an item leaves that publishes the given events and participants. -/
structure Wrote (pending : PendingItem) (keys : List String)
    (published : List ParticipantIdentity) (s s' : EventStore) : Prop where
  stored : ∀ k, (s'.event? k).isSome = true ↔ (s.event? k).isSome = true ∨ k ∈ keys
  found : ∀ k item, item ∈ s'.foundIn k ↔ item ∈ s.foundIn k ∨ k ∈ keys ∧ item = pending.id
  permits : ∀ key : String × ParticipantIdentity, s'.permission? key =
    if key.1 ∈ keys ∧ key.2 ∈ published then (s.permission? key).or (some pending.permission)
    else s.permission? key
  anchored : s'.Anchored

omit [Casing] in
theorem Wrote.nothing (pending : PendingItem) (published : List ParticipantIdentity)
    (h : s.Anchored) :
    Wrote pending [] published s s :=
  ⟨by simp, by simp, by simp, h⟩

omit [Casing] in
/-- What is written for some events and then for others of the same item. -/
theorem Wrote.append {keys more : List String} {published : List ParticipantIdentity}
    {s' s'' : EventStore} (h : Wrote pending keys published s s')
    (h' : Wrote pending more published s' s'') :
    Wrote pending (keys ++ more) published s s'' := by
  refine ⟨?_, ?_, ?_, h'.anchored⟩
  · intro k
    rw [h'.stored, h.stored, List.mem_append, or_assoc]
  · intro k item
    rw [h'.found, h.found, List.mem_append, or_and_right, or_assoc]
  · intro key
    rw [h'.permits, h.permits]
    by_cases hfirst : key.1 ∈ keys
    · by_cases hpublished : key.2 ∈ published <;> simp [hfirst, hpublished]
    · simp [hfirst]

/-- One event of an item with the participants before the one that stops it. -/
theorem upsertEvent_wrote (tools : EventTools) (pending : PendingItem)
    (candidate : EventCandidate) (candidates : List ParticipantCandidate) (h : s.Anchored) :
    Wrote pending [buildEventDedupeKey candidate] (identities tools candidates) s
      (upsertParticipants tools pending (upsertEvent pending candidate s).2 candidates
        (upsertEvent pending candidate s).1).1 ∧
    (upsertParticipants tools pending (upsertEvent pending candidate s).2 candidates
        (upsertEvent pending candidate s).1).2.isSome = stops tools candidates := by
  have hevent := upsertEvent_event? pending candidate s (buildEventDedupeKey candidate)
  rw [if_pos rfl] at hevent
  obtain ⟨hstored, hraised⟩ := upsertParticipants_stored tools pending candidates hevent
    (upsertEvent_anchored h)
  have hviews : ∀ k, EventStore.event? (upsertParticipants tools pending
      (upsertEvent pending candidate s).2 candidates (upsertEvent pending candidate s).1).1 k =
      (upsertEvent pending candidate s).1.event? k := by
    intro k
    rw [EventStore.event?, hstored.events]
    rfl
  refine ⟨⟨?_, ?_, ?_, hstored.anchored⟩, hraised⟩
  · intro k
    rw [hviews, upsertEvent_event?]
    by_cases hk : k = buildEventDedupeKey candidate <;> simp [hk]
  · intro k item
    unfold EventStore.foundIn
    rw [hviews, upsertEvent_event?]
    by_cases hk : k = buildEventDedupeKey candidate
    · cases hfound : s.event? k with
      | none => simp [hk, eventFor]
      | some old => simp [hk, foundIn_mem]
    · simp [hk]
  · intro key
    rw [hstored.permits, upsertEvent_permission? h]
    simp

theorem upsertEvents_wrote (tools : EventTools) (pending : PendingItem)
    (candidates : List EventCandidate) (h : s.Anchored) :
    Wrote pending
      ((if stops tools (participantsFromRawItem tools pending.item) then candidates.take 1
        else candidates).map buildEventDedupeKey)
      (identities tools (participantsFromRawItem tools pending.item)) s
      (upsertEvents tools pending candidates s).1 := by
  induction candidates generalizing s with
  | nil => simpa [upsertEvents] using Wrote.nothing pending _ h
  | cons candidate rest ih =>
    obtain ⟨hwrote, hraised⟩ := upsertEvent_wrote tools pending candidate
      (participantsFromRawItem tools pending.item) h
    simp only [upsertEvents]
    generalize upsertParticipants tools pending (upsertEvent pending candidate s).2
      (participantsFromRawItem tools pending.item) (upsertEvent pending candidate s).1 = result
      at hwrote hraised
    obtain ⟨s', raised⟩ := result
    cases raised with
    | some reason =>
      rw [← hraised]
      simpa using hwrote
    | none =>
      rw [← hraised]
      have hrest := ih hwrote.anchored
      rw [← hraised] at hrest
      simpa using hwrote.append hrest

/-- Parsing an item writes what it publishes. -/
theorem parseItem_wrote (tools : EventTools) (pending : PendingItem) (h : s.Anchored) :
    Wrote pending (pending.eventKeys tools)
      (identities tools (participantsFromRawItem tools pending.item)) s
      (parseItem tools s pending) := by
  unfold parseItem PendingItem.eventKeys
  cases candidatesFromRawItem tools pending.source pending.item with
  | error reason =>
    have hnothing := Wrote.nothing pending
      (identities tools (participantsFromRawItem tools pending.item)) h
    exact ⟨hnothing.stored, hnothing.found, hnothing.permits, hnothing.anchored⟩
  | ok candidates =>
    have hwrote := upsertEvents_wrote tools pending candidates h
    exact ⟨hwrote.stored, hwrote.found, hwrote.permits, hwrote.anchored⟩

/-- What is stored once a list of items was parsed. -/
structure Parsed (tools : EventTools) (items : List PendingItem) (s s' : EventStore) : Prop where
  stored : ∀ k, (s'.event? k).isSome = true ↔
    (s.event? k).isSome = true ∨ ∃ pending ∈ items, k ∈ pending.eventKeys tools
  found : ∀ k item, item ∈ s'.foundIn k ↔
    item ∈ s.foundIn k ∨ ∃ pending ∈ items, k ∈ pending.eventKeys tools ∧ item = pending.id
  permits : ∀ key, s'.permission? key = (s.permission? key).or
    (Lib.firstWriter (fun pending key => pending.publishes tools key) PendingItem.permission key
      items)

theorem parseItems_parsed {items : List PendingItem} (h : s.Anchored) :
    Parsed tools items s (parseItems tools items s) := by
  induction items generalizing s with
  | nil =>
    exact ⟨by simp [parseItems], by simp [parseItems], by simp [parseItems, Lib.firstWriter]⟩
  | cons pending rest ih =>
    have hwrote := parseItem_wrote tools pending h
    have hparsed := ih hwrote.anchored
    refine ⟨?_, ?_, ?_⟩
    · intro k
      refine (hparsed.stored k).trans ?_
      rw [hwrote.stored]
      simp [or_assoc]
    · intro k item
      refine (hparsed.found k item).trans ?_
      rw [hwrote.found]
      simp [or_assoc]
    · intro key
      refine (hparsed.permits key).trans ?_
      rw [hwrote.permits, Lib.firstWriter]
      by_cases hpublishes : pending.publishes tools key
      · have hwritten := hpublishes
        unfold PendingItem.publishes at hwritten
        rw [if_pos hpublishes, if_pos hwritten]
        cases s.permission? key <;> simp
      · have hwritten := hpublishes
        unfold PendingItem.publishes at hwritten
        rw [if_neg hpublishes, if_neg hwritten]

end Items

section Order

variable [Casing] {tools : EventTools} {s : EventStore} {items : List PendingItem}

/-- The order of the items does not show: the same events, found in the same items, the
same permissions; and a source that does not allow reuse is heard in every order. -/
structure OrderFree (tools : EventTools) (s : EventStore) (items : List PendingItem) : Prop where
  events : ∀ items' : List PendingItem, items'.Perm items → ∀ k,
    ((parseItems tools items' s).event? k).isSome = true ↔
      ((parseItems tools items s).event? k).isSome = true
  found : ∀ items' : List PendingItem, items'.Perm items → ∀ k item,
    item ∈ (parseItems tools items' s).foundIn k ↔ item ∈ (parseItems tools items s).foundIn k
  permissions : ∀ items' : List PendingItem, items'.Perm items → ∀ key,
    (parseItems tools items' s).permission? key = (parseItems tools items s).permission? key
  heard : ∀ items' : List PendingItem, items'.Perm items → ∀ pending ∈ items,
    pending.source.participantReuseState ≠ "allowed" → ∀ key, pending.publishes tools key →
      ∀ permission, (parseItems tools items' s).permission? key = some permission →
        permission.contactExtractionAllowed = false ∧ permission.crmExportAllowed = false

/-- Items that publish one participant come from sources of the same reuse state, and
none that does not allow reuse publishes a participant stored as reusable. -/
structure ReuseAgrees (tools : EventTools) (s : EventStore) (items : List PendingItem) :
    Prop where
  sources : Lib.Unanimous
    (fun pending key => pending.publishes tools key ∧ s.permission? key = none)
    (fun pending : PendingItem => pending.source.participantReuseState) items
  stored : ∀ pending ∈ items, pending.source.participantReuseState ≠ "allowed" →
    ∀ key, pending.publishes tools key → ∀ permission, s.permission? key = some permission →
      permission.contactExtractionAllowed = false ∧ permission.crmExportAllowed = false

omit [Casing] in
theorem permission_eq_iff {first second : PendingItem} :
    first.permission = second.permission ↔
      first.source.participantReuseState = second.source.participantReuseState := by
  constructor
  · intro h
    exact congrArg Permission.reuseState h
  · intro h
    simp [PendingItem.permission, h]

omit [Casing] in
/-- A source that does not allow reuse permits nothing. -/
theorem permission_refused {pending : PendingItem}
    (h : pending.source.participantReuseState ≠ "allowed") :
    pending.permission.contactExtractionAllowed = false ∧
      pending.permission.crmExportAllowed = false := by
  simp [PendingItem.permission, participantEligibility, h]

/-- What the items have still to decide: the participants that are not stored. -/
theorem permissions_perm_iff (h : s.Anchored) :
    (∀ items' : List PendingItem, items'.Perm items → ∀ key,
      (parseItems tools items' s).permission? key =
        (parseItems tools items s).permission? key) ↔
      Lib.Unanimous (fun pending key => pending.publishes tools key ∧ s.permission? key = none)
        (fun pending : PendingItem => pending.source.participantReuseState) items := by
  have hundecided : ∀ (items' : List PendingItem) key,
      (parseItems tools items' s).permission? key = (s.permission? key).or
        (Lib.firstWriter (fun pending key => pending.publishes tools key ∧
          s.permission? key = none) PendingItem.permission key items') := by
    intro items' key
    rw [(parseItems_parsed h).permits, Lib.firstWriter_undecided]
    cases s.permission? key <;> simp
  have hagree : Lib.Unanimous (fun pending key => pending.publishes tools key ∧
        s.permission? key = none) PendingItem.permission items ↔
      Lib.Unanimous (fun pending key => pending.publishes tools key ∧ s.permission? key = none)
        (fun pending : PendingItem => pending.source.participantReuseState) items := by
    simp only [Lib.Unanimous, permission_eq_iff]
  rw [← hagree, ← Lib.firstWriter_perm_iff]
  constructor
  · intro hsame items' hperm key
    have hboth := hsame items' hperm key
    rw [hundecided, hundecided] at hboth
    cases hstored : s.permission? key with
    | none => simpa [hstored] using hboth
    | some permission =>
      rw [Lib.firstWriter_undecided, Lib.firstWriter_undecided]
      simp [hstored]
  · intro hsame items' hperm key
    rw [hundecided, hundecided, hsame items' hperm key]

end Order

section TwoSources

/-- Library functions that take every address for one page, and read no dates. -/
def pageTools : EventTools where
  sha256 := id
  urlsplit := fun _ => .ok
    { scheme := "https", hostname := some "conf.example", port := .ok none, path := "/"
      query := "" }
  parseQsl := fun _ => []
  urlencode := fun _ => ""
  urlunsplit := fun scheme host path _ => scheme ++ "://" ++ host ++ path
  textOf := fun _ => ""
  intOfText := fun _ => none
  parseDatetime := fun _ => .ok none
  zone := fun _ => .ok none
  isoformat := fun _ => ""
  upper := id

/-- A source of the conference, with what it says of reuse. -/
def conferenceSource (reuseState : String) : EventSource where
  name := "Conference"
  queryScope := .obj [("event_series_key", .str "conf")]
  participantReuseState := reuseState

/-- The conference with its speaker, as a source publishes it. -/
def speakerItem (id source : Id) (reuseState : String) : PendingItem where
  id := id
  source := conferenceSource reuseState
  item :=
    { sourceDefinitionId := source
      canonicalUrl := "https://conf.example/"
      rawMetadata := .obj [("schema_org_event", .obj [("@id", .str "conf-1"),
        ("name", .str "Conf"), ("performer", .obj [("name", .str "Ada")])])] }

/-- The speaker of the conference. -/
def speaker : String × ParticipantIdentity :=
  ("external:conf:conf-1", .named "ada" "unknown" "speaker")

end TwoSources

end GhostRecon.Events
