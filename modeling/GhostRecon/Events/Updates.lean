import GhostRecon.Events.IcsZones
import GhostRecon.Events.Repository
import GhostRecon.Lib.Session

/-!
Updates of a stored event. The fields that a request sets are copied to the row, and the row is
geocoded once more from the address it then has. Nothing of the old coordinates is read on the
way: an update that leaves the address alone keeps them only where geocoding the stored address
says again what the row says already.
-/

namespace GhostRecon.Events

open Lib (Id Table)

section Columns

/-- The columns that a geocoder fills; coordinates are of any type. -/
structure Geocoded (δ : Type) where
  latitude : Option δ
  longitude : Option δ
  geocodeStatus : String
  geocodeProvider : Option String
  geocodeDisplayName : Option String
  geocodedAt : Option Time
  deriving DecidableEq, Repr

/-- No coordinates, and why. -/
def Geocoded.without {δ : Type} (status : String) : Geocoded δ :=
  ⟨none, none, status, none, none, none⟩

/-- The row of an event with all that an update reads and writes. -/
structure StoredEvent (δ : Type) extends EventCandidate, Geocoded δ where
  topics : List Json
  organizers : List Json
  dedupeKey : String
  sourceDefinitionId : Option Id
  sourceItemIds : List String
  version : Nat := 1
  updatedAt : Time := 0

structure GeocodeRequest where
  streetAddress : Option String
  city : Option String
  postcode : Option String
  country : Option String
  deriving DecidableEq, Repr

structure GeocodeResult (δ : Type) where
  latitude : Option δ
  longitude : Option δ
  status : String
  provider : Option String := none
  displayName : Option String := none
  geocodedAt : Option Time := none

def GeocodeResult.columns {δ : Type} (result : GeocodeResult δ) : Geocoded δ where
  latitude := result.latitude
  longitude := result.longitude
  geocodeStatus := result.status
  geocodeProvider := result.provider
  geocodeDisplayName := result.displayName
  geocodedAt := result.geocodedAt

/-- A geocoder, with what `assert_adapter_allowed` says of it. -/
structure Geocoder (δ : Type) where
  allowed : Except String Unit
  geocode : GeocodeRequest → Except String (GeocodeResult δ)

inductive EventFormat where
  | inPerson | online | hybrid | unknown
  deriving DecidableEq, Repr

def EventFormat.value : EventFormat → String
  | .inPerson => "in-person"
  | .online => "online"
  | .hybrid => "hybrid"
  | .unknown => "unknown"

/-- A field of a request: not set, set to nothing, or set to a value. -/
abbrev Field (α : Type) := Option (Option α)

/-- `EventUpdateRequest`; the set fields are `model_fields_set`. -/
structure EventUpdateRequest where
  version : Nat
  name : Field String := none
  eventSeriesKey : Field String := none
  canonicalUrl : Field String := none
  originalStart : Field String := none
  originalEnd : Field String := none
  sourceTimezone : Field String := none
  ianaTimezone : Field String := none
  startsAtUtc : Field Time := none
  endsAtUtc : Field Time := none
  eventFormat : Field EventFormat := none
  venueName : Field String := none
  streetAddress : Field String := none
  city : Field String := none
  region : Field String := none
  postcode : Field String := none
  country : Field String := none
  virtualUrl : Field String := none
  topics : Field (List Json) := none
  organizers : Field (List Json) := none
  sourceItemIds : Field (List String) := none
  confidence : Field Nat := none

/-- The request sets none of the fields that an address is made of. -/
def EventUpdateRequest.LeavesAddress (payload : EventUpdateRequest) : Prop :=
  payload.eventFormat = none ∧ payload.streetAddress = none ∧ payload.city = none ∧
    payload.postcode = none ∧ payload.country = none

/-- `sorted(fields)` of the request. -/
def EventUpdateRequest.updatedFields (payload : EventUpdateRequest) : List String :=
  ([("canonical_url", payload.canonicalUrl.isSome), ("city", payload.city.isSome),
    ("confidence", payload.confidence.isSome), ("country", payload.country.isSome),
    ("ends_at_utc", payload.endsAtUtc.isSome), ("event_format", payload.eventFormat.isSome),
    ("event_series_key", payload.eventSeriesKey.isSome),
    ("iana_timezone", payload.ianaTimezone.isSome), ("name", payload.name.isSome),
    ("organizers", payload.organizers.isSome), ("original_end", payload.originalEnd.isSome),
    ("original_start", payload.originalStart.isSome), ("postcode", payload.postcode.isSome),
    ("region", payload.region.isSome), ("source_item_ids", payload.sourceItemIds.isSome),
    ("source_timezone", payload.sourceTimezone.isSome),
    ("starts_at_utc", payload.startsAtUtc.isSome),
    ("street_address", payload.streetAddress.isSome), ("topics", payload.topics.isSome),
    ("venue_name", payload.venueName.isSome),
    ("virtual_url", payload.virtualUrl.isSome)].filter (·.2)).map (·.1)

/-- The audit row of an update. -/
structure UpdateAudit where
  actor : String
  entityId : Id
  idempotencyKey : String
  updatedFields : List String
  deriving DecidableEq, Repr

/-- The tables an update works on. -/
structure EventDesk (δ : Type) where
  events : Table (StoredEvent δ) := []
  auditEvents : Table UpdateAudit := []

/-- The library functions of an update, the geocoder of the settings, and the constraints of
the database. -/
structure UpdateTools (δ : Type) extends EventTools where
  geocoderForSettings : Except String (Geocoder δ)
  now : Time
  constraintsOk : EventDesk δ → Bool

end Columns

section Updates

variable [Casing] {δ : Type} (tools : UpdateTools δ) (geocoder : Option (Geocoder δ))

section Calls

/-- A field that may be set to nothing. -/
def Field.over {α : Type} (field : Field α) (old : Option α) : Option α :=
  field.getD old

/-- A field for a column that is never null. -/
def Field.given {α : Type} (field : Field α) (old : α) : α :=
  (field.getD none).getD old

/-- A field with a page: it is normalized, and nothing when it is empty. -/
def urlField (field : Field String) (old : Option String) : Except String (Option String) :=
  match field with
  | none => .ok old
  | some url =>
    if truthy url then some <$> Incidents.normalizeUrl tools.toIncidentTools (url.getD "")
    else .ok none

/-- The assignments of `update_event` before the geocoding. -/
def applyFields (payload : EventUpdateRequest) (event : StoredEvent δ) :
    Except String (StoredEvent δ) := do
  let canonicalUrl ← urlField tools payload.canonicalUrl event.canonicalUrl
  let virtualUrl ← urlField tools payload.virtualUrl event.virtualUrl
  return { event with
    name := payload.name.given event.name
    eventSeriesKey := payload.eventSeriesKey.given event.eventSeriesKey
    canonicalUrl
    originalStart := payload.originalStart.over event.originalStart
    originalEnd := payload.originalEnd.over event.originalEnd
    sourceTimezone := payload.sourceTimezone.over event.sourceTimezone
    ianaTimezone := payload.ianaTimezone.over event.ianaTimezone
    startsAtUtc := payload.startsAtUtc.over event.startsAtUtc
    timezoneStatus := match payload.startsAtUtc with
      | some (some _) => "resolved"
      | _ => event.timezoneStatus
    endsAtUtc := payload.endsAtUtc.over event.endsAtUtc
    eventFormat := match payload.eventFormat with
      | some (some format) => format.value
      | _ => event.eventFormat
    venueName := payload.venueName.over event.venueName
    streetAddress := payload.streetAddress.over event.streetAddress
    city := payload.city.over event.city
    region := payload.region.over event.region
    postcode := payload.postcode.over event.postcode
    country := match payload.country with
      | none => event.country
      | some country => if truthy country then country.map tools.upper else none
    virtualUrl
    topics := payload.topics.given event.topics
    organizers := payload.organizers.given event.organizers
    sourceItemIds := payload.sourceItemIds.given event.sourceItemIds
    confidence := payload.confidence.given event.confidence }

/-- The address of a row. -/
def StoredEvent.address (event : StoredEvent δ) : GeocodeRequest where
  streetAddress := event.streetAddress
  city := event.city
  postcode := event.postcode
  country := event.country

/-- Every part of the address is there. -/
def GeocodeRequest.complete (request : GeocodeRequest) : Bool :=
  truthy request.streetAddress && truthy request.city && truthy request.postcode &&
    truthy request.country

/-- The answer of the geocoder that is asked. -/
def askGeocoder (request : GeocodeRequest) : Except String (GeocodeResult δ) := do
  let resolver ← match geocoder with
    | some resolver => .ok resolver
    | none => tools.geocoderForSettings
  resolver.allowed
  resolver.geocode request

/-- `_apply_event_geocode`. -/
def applyEventGeocode (event : StoredEvent δ) : Except String (StoredEvent δ) :=
  if event.eventFormat ≠ "in-person" then
    .ok { event with toGeocoded := .without "not_required" }
  else if !event.address.complete then
    .ok { event with toGeocoded := .without "insufficient_address" }
  else do
    let result ← askGeocoder tools geocoder event.address
    return { event with toGeocoded := result.columns }

/-- The row that an update leaves. -/
def updatedRow (payload : EventUpdateRequest) (event : StoredEvent δ) :
    Except String (StoredEvent δ) := do
  if event.version ≠ payload.version then throw "stale optimistic version"
  let changed ← applyFields tools payload event
  let placed ← applyEventGeocode tools geocoder changed
  return { placed with version := placed.version + 1, updatedAt := tools.now }

/-- `update_event`. -/
def updateEvent (e : Id) (payload : EventUpdateRequest) (actor idempotencyKey : String) :
    Lib.Tx String (EventDesk δ) PUnit (Option (StoredEvent δ)) :=
  Lib.sessionScope tools.constraintsOk "IntegrityError" do
    match ← Lib.query (·.events[e]?) with
    | none => return none
    | some event =>
      let row ← Lib.queryOrRaise fun _ => updatedRow tools geocoder payload event
      Lib.write fun s =>
        { s with
          events := s.events.set e row
          auditEvents := s.auditEvents ++
            [{ actor, entityId := e, idempotencyKey, updatedFields := payload.updatedFields }] }
      return some row

end Calls

section Coordinates

/-- Geocoding the stored address says what the row says already. A row of another format must
be without coordinates, as must one with an incomplete address; for a complete address the
geocoder's answer must be the stored one, to the time of the answer. -/
def Settled (event : StoredEvent δ) : Prop :=
  if event.eventFormat ≠ "in-person" then event.toGeocoded = .without "not_required"
  else if event.address.complete then
    ∀ result, askGeocoder tools geocoder event.address = .ok result →
      event.toGeocoded = result.columns
  else event.toGeocoded = .without "insufficient_address"

variable {tools geocoder} {payload : EventUpdateRequest} {event row : StoredEvent δ}

/-- The fields of a request never touch the coordinates, and an address that is not set stays. -/
theorem applyFields_keeps (h : applyFields tools payload event = .ok row) :
    row.toGeocoded = event.toGeocoded ∧ (payload.LeavesAddress →
      row.eventFormat = event.eventFormat ∧ row.address = event.address) := by
  unfold applyFields at h
  cases hcanonical : urlField tools payload.canonicalUrl event.canonicalUrl with
  | error reason =>
    rw [hcanonical] at h
    cases h
  | ok canonicalUrl =>
    cases hvirtual : urlField tools payload.virtualUrl event.virtualUrl with
    | error reason =>
      rw [hcanonical, hvirtual] at h
      cases h
    | ok virtualUrl =>
      rw [hcanonical, hvirtual] at h
      obtain rfl := Except.ok.inj h
      refine ⟨rfl, ?_⟩
      rintro ⟨hformat, hstreet, hcity, hpostcode, hcountry⟩
      unfold StoredEvent.address
      dsimp only
      rw [hformat, hstreet, hcity, hpostcode, hcountry]
      exact ⟨rfl, rfl⟩

omit [Casing] in
/-- What geocoding a row leaves of it: its address, and the columns it had exactly when the row
was settled. -/
theorem applyEventGeocode_keeps {columns : Geocoded δ}
    (h : applyEventGeocode tools geocoder event = .ok row) (hcolumns : event.toGeocoded = columns) :
    row.toGeocoded = columns ↔ Settled tools geocoder event := by
  subst hcolumns
  unfold applyEventGeocode at h
  unfold Settled
  split at h
  · next hformat =>
    obtain rfl := Except.ok.inj h
    rw [if_pos hformat]
    exact eq_comm
  · next hformat =>
    rw [if_neg hformat]
    cases hcomplete : event.address.complete with
    | false =>
      rw [hcomplete] at h
      obtain rfl := Except.ok.inj h
      rw [if_neg Bool.false_ne_true]
      exact eq_comm
    | true =>
      rw [hcomplete] at h
      rw [if_pos rfl]
      cases hanswer : askGeocoder tools geocoder event.address with
      | error reason =>
        rw [hanswer] at h
        cases h
      | ok result =>
        rw [hanswer] at h
        obtain rfl := Except.ok.inj h
        constructor
        · intro hsame other hother
          obtain rfl := Except.ok.inj hother
          exact hsame.symm
        · intro hsettled
          exact (hsettled result rfl).symm

omit [Casing] in
/-- Being settled depends on the format, the address and the columns alone. -/
theorem settled_congr (hgeocoded : row.toGeocoded = event.toGeocoded)
    (hformat : row.eventFormat = event.eventFormat) (haddress : row.address = event.address) :
    Settled tools geocoder row ↔ Settled tools geocoder event := by
  unfold Settled
  rw [hgeocoded, hformat, haddress]

theorem updatedRow_keeps (hleaves : payload.LeavesAddress)
    (h : updatedRow tools geocoder payload event = .ok row) :
    row.toGeocoded = event.toGeocoded ↔ Settled tools geocoder event := by
  unfold updatedRow at h
  by_cases hversion : event.version ≠ payload.version
  · rw [if_pos hversion] at h
    cases h
  · rw [if_neg hversion] at h
    cases hchanged : applyFields tools payload event with
    | error reason =>
      rw [hchanged] at h
      cases h
    | ok changed =>
      obtain ⟨hgeocoded, haddress⟩ := applyFields_keeps hchanged
      obtain ⟨hformat, haddress⟩ := haddress hleaves
      cases hplaced : applyEventGeocode tools geocoder changed with
      | error reason =>
        rw [hchanged] at h
        change (applyEventGeocode tools geocoder changed >>= _) = _ at h
        rw [hplaced] at h
        cases h
      | ok placed =>
        rw [hchanged] at h
        change (applyEventGeocode tools geocoder changed >>= _) = _ at h
        rw [hplaced] at h
        obtain rfl := Except.ok.inj h
        rw [← settled_congr hgeocoded hformat haddress]
        show placed.toGeocoded = event.toGeocoded ↔ _
        exact applyEventGeocode_keeps hplaced hgeocoded

/-- An update that returns a row has stored it in the place of the old one. -/
theorem updateEvent_returned {e : Id} {actor key : String}
    {w w' : Lib.World (EventDesk δ) PUnit}
    (hrun : updateEvent tools geocoder e payload actor key w = .ok (some row) w') :
    ∃ old, w.store.events[e]? = some old ∧
      updatedRow tools geocoder payload old = .ok row ∧ w'.store.events[e]? = some row := by
  unfold updateEvent at hrun
  rw [Lib.sessionScope_run, Lib.bind_run, Lib.query_run] at hrun
  dsimp only at hrun
  cases hold : w.store.events[e]? with
  | none =>
    rw [hold] at hrun
    dsimp only at hrun
    rw [Lib.pure_run] at hrun
    dsimp only at hrun
    split at hrun <;> cases hrun
  | some old =>
    rw [hold] at hrun
    dsimp only at hrun
    rw [Lib.bind_run, Lib.queryOrRaise_run] at hrun
    cases hnew : updatedRow tools geocoder payload old with
    | error reason =>
      rw [hnew] at hrun
      cases hrun
    | ok new =>
      rw [hnew] at hrun
      dsimp only at hrun
      rw [Lib.bind_run, Lib.write_run] at hrun
      dsimp only at hrun
      rw [Lib.pure_run] at hrun
      dsimp only at hrun
      split at hrun
      · cases hrun
        refine ⟨old, rfl, hnew, ?_⟩
        obtain ⟨hlt, -⟩ := List.getElem?_eq_some_iff.mp hold
        exact List.getElem?_set_self hlt
      · cases hrun

end Coordinates

/-- An update that leaves the address of a stored event alone keeps its coordinates and what is
known of them exactly when the row is settled; an update that raises changes nothing. -/
theorem update_keeps_coordinates_iff (e : Id) {payload : EventUpdateRequest}
    (hleaves : payload.LeavesAddress) (actor key : String)
    (w w' : Lib.World (EventDesk δ) PUnit) :
    (∀ reason, updateEvent tools geocoder e payload actor key w = .error reason w' →
        w'.store = w.store) ∧
      ∀ event row, w.store.events[e]? = some event →
        updateEvent tools geocoder e payload actor key w = .ok (some row) w' →
          w'.store.events[e]? = some row ∧
            (row.toGeocoded = event.toGeocoded ↔ Settled tools geocoder event) := by
  constructor
  · intro reason hrun
    have hraised : ¬(Lib.returned (updateEvent tools geocoder e payload actor key) w).isSome := by
      unfold Lib.returned
      rw [hrun]
      exact Bool.false_ne_true
    have hrestored := Lib.sessionScope_restores hraised
    unfold Lib.after at hrestored
    rw [← updateEvent, hrun] at hrestored
    exact hrestored
  · intro event row hevent hrun
    obtain ⟨old, hold, hnew, hstored⟩ := updateEvent_returned hrun
    rw [hevent] at hold
    obtain rfl := Option.some.inj hold
    exact ⟨hstored, updatedRow_keeps hleaves hnew⟩

end Updates

/-- The row of an event as an item of a source publishes it, with the coordinates of the
source. -/
def ingested {δ : Type} (pending : PendingItem) (candidate : EventCandidate)
    (dedupeKey : String) (latitude longitude : Option δ) : StoredEvent δ where
  toEventCandidate := candidate
  latitude
  longitude
  geocodeStatus := if latitude.isSome && longitude.isSome then "resolved" else "not_required"
  geocodeProvider := if latitude.isSome && longitude.isSome then some "source" else none
  geocodeDisplayName := none
  geocodedAt := none
  topics := []
  organizers := []
  dedupeKey
  sourceDefinitionId := some pending.item.sourceDefinitionId
  sourceItemIds := [toString pending.id]

/-- Of the events that come with coordinates only those with a complete address can keep them,
and only if the geocoder gives the same ones in the name of the source. -/
theorem ingested_settled {δ : Type} {tools : UpdateTools δ} {geocoder : Option (Geocoder δ)}
    {pending : PendingItem} {candidate : EventCandidate} {key : String} {latitude longitude : δ}
    (h : Settled tools geocoder
      (ingested pending candidate key (some latitude) (some longitude))) :
    candidate.eventFormat = "in-person" ∧
      (ingested pending candidate key (some latitude) (some longitude)).address.complete = true ∧
      ∀ result, askGeocoder tools geocoder
          (ingested pending candidate key (some latitude) (some longitude)).address =
            .ok result →
        result.latitude = some latitude ∧ result.longitude = some longitude ∧
          result.provider = some "source" ∧ result.geocodedAt = none := by
  have hwithout (status : String) :
      (ingested pending candidate key (some latitude) (some longitude)).toGeocoded ≠
        .without status := by
    intro hsame
    have hlatitude := congrArg Geocoded.latitude hsame
    cases hlatitude
  unfold Settled at h
  split at h
  · exact absurd h (hwithout _)
  · next hformat =>
    split at h
    · next hcomplete =>
      refine ⟨not_not.mp hformat, hcomplete, ?_⟩
      intro result hresult
      have hsame := h result hresult
      have hlatitude := congrArg Geocoded.latitude hsame
      have hlongitude := congrArg Geocoded.longitude hsame
      have hprovider := congrArg Geocoded.geocodeProvider hsame
      have htime := congrArg Geocoded.geocodedAt hsame
      exact ⟨hlatitude.symm, hlongitude.symm, hprovider.symm, htime.symm⟩
    · exact absurd h (hwithout _)

section Titles

/-- No geocoder is configured, and the database accepts everything. -/
def plainUpdateTools : UpdateTools Int where
  toEventTools := twoZoneTools
  geocoderForSettings := .ok
    { allowed := .ok (), geocode := fun _ => .ok ⟨none, none, "not_configured", none, none, none⟩ }
  now := 0
  constraintsOk := fun _ => true

/-- A conference on both ways, published with the coordinates of its hall. -/
def hybridConference : StoredEvent Int :=
  ingested
    { id := 0
      item := { sourceDefinitionId := 0, canonicalUrl := "https://events.example" }
      source := { name := "Conferences" } }
    { name := "Conference", eventSeriesKey := "conference", eventFormat := "hybrid"
      country := some "CH" } "key" (some 47) (some 8)

/-- The same conference without coordinates. -/
def unplacedConference : StoredEvent Int :=
  { hybridConference with toGeocoded := .without "not_required" }

def renamed : EventUpdateRequest := { version := 1, name := some (some "Conference 2026") }

def deskWith (event : StoredEvent Int) : Lib.World (EventDesk Int) PUnit :=
  { store := { events := [event] }, external := ⟨⟩ }

/-- A new title leaves the columns of the event that has no coordinates. -/
theorem unplaced_title_kept : ∃ row, updateEvent plainUpdateTools none 0 renamed "analyst" "k"
      (deskWith unplacedConference) =
        .ok (some row) (Lib.after (updateEvent plainUpdateTools none 0 renamed "analyst" "k")
          (deskWith unplacedConference)) ∧
    row.toGeocoded = unplacedConference.toGeocoded := by
  have hleaves : renamed.LeavesAddress := ⟨rfl, rfl, rfl, rfl, rfl⟩
  obtain ⟨row, hreturned⟩ : ∃ row, Lib.returned (updateEvent plainUpdateTools none 0 renamed
      "analyst" "k") (deskWith unplacedConference) = some (some row) := ⟨_, rfl⟩
  have hrun := Lib.run_of_returned hreturned
  refine ⟨row, hrun, ?_⟩
  obtain ⟨-, hframe⟩ := update_keeps_coordinates_iff plainUpdateTools none 0 hleaves "analyst" "k"
    (deskWith unplacedConference) _
  obtain ⟨-, hkept⟩ := hframe unplacedConference row rfl hrun
  apply hkept.mpr
  unfold Settled
  rw [if_pos (by decide)]
  rfl

/-- A new title takes the coordinates of the source from the hybrid event. -/
theorem new_title_erases_coordinates : ∃ row,
    Lib.returned (updateEvent plainUpdateTools none 0 renamed "analyst" "k")
      (deskWith hybridConference) = some (some row) ∧
    hybridConference.latitude = some 47 ∧ row.latitude = none ∧
      row.geocodeStatus = "not_required" ∧ ¬row.toGeocoded = hybridConference.toGeocoded := by
  refine ⟨_, rfl, rfl, rfl, rfl, ?_⟩
  intro hsame
  have hlatitude := congrArg Geocoded.latitude hsame
  cases hlatitude

end Titles

end GhostRecon.Events
