import GhostRecon.Incidents.Parsers
import GhostRecon.Models.Incidents

/-!
Reading events and their participants out of a fetched item, and the keys under which
they are found again. An event is named by its series and external id or by what is
published of it; a participant by the event and an id, a profile page or a name. The
hexadecimal digest of a key text stands for the text itself.
-/

namespace GhostRecon.Events

open Lib (Id)
open GhostRecon.Incidents (IncidentTools ParseStatus stringOf slug normalizeUrl strip isoDate)

section Columns

structure EventSource where
  name : String
  sourceKind : String := "event"
  queryScope : Json := .obj []
  expectedTimezone : Option String := none
  participantReuseState : String := "unknown"

/-- A fetched item. `raw_metadata` is a JSON object or null. -/
structure EventItem where
  sourceDefinitionId : Id
  externalId : Option String := none
  canonicalUrl : String
  retrievedAt : Time := 0
  publishedAt : Option Time := none
  sourceTimezone : Option String := none
  rawMetadata : Json := .obj []
  permittedExcerpt : Option String := none
  parseStatus : ParseStatus := .pending
  duplicateState : String := "canonical"
  quarantineReason : Option String := none

structure EventCandidate where
  name : String
  eventSeriesKey : String
  externalId : Option String := none
  canonicalUrl : Option String := none
  originalStart : Option String := none
  originalEnd : Option String := none
  sourceTimezone : Option String := none
  ianaTimezone : Option String := none
  timezoneStatus : String := "missing"
  startsAtUtc : Option Time := none
  endsAtUtc : Option Time := none
  eventFormat : String := "unknown"
  venueName : Option String := none
  streetAddress : Option String := none
  city : Option String := none
  region : Option String := none
  postcode : Option String := none
  country : Option String := none
  virtualUrl : Option String := none
  confidence : Nat := 50
  canonicalState : String := "canonical"
  deriving DecidableEq, Repr

structure ParticipantCandidate where
  publishedName : String
  sourceParticipantId : Option String := none
  organization : Option String := none
  publishedRole : Option String := none
  participantType : String := "speaker"
  profileUrl : Option String := none
  resolutionConfidence : Nat := 70
  deriving DecidableEq, Repr

end Columns

/-- A parsed date: an instant with the key of its zone, or the time of a wall clock. -/
inductive ParsedDatetime where
  | aware (utc : Time) (zoneKey : Option String)
  | naive (wall : Int)

/-- The library functions of the event service. -/
structure EventTools extends IncidentTools where
  /-- `_parse_datetime`; a date that is not in the calendar raises. -/
  parseDatetime : String → Except String (Option ParsedDatetime)
  /-- A time zone: the instant a wall clock in it shows, none when there are two. An
  unknown key has no zone, a malformed one raises. -/
  zone : String → Except String (Option (Int → Option Time))
  isoformat : Time → String
  upper : String → String

variable [Casing] (tools : EventTools)

section Reading

/-- `first or second` of two texts. -/
def orElse (first second : Option String) : Option String :=
  if truthy first then first else second

/-- `first or second or last`. -/
def orElseText (first second : Option String) (last : String) : String :=
  if truthy (orElse first second) then (orElse first second).getD "" else last

/-- `value.get(key) if isinstance(value.get(key), dict) else {}` -/
def dictAt (value : Json) (key : String) : Json :=
  match value.get? key with
  | some (.obj fields) => .obj fields
  | _ => .obj []

def isDictAt (value : Json) (key : String) : Bool :=
  match value.get? key with
  | some (.obj _) => true
  | _ => false

/-- `_as_list`. -/
def asList (value : Option Json) : List Json :=
  match value with
  | none | some .null => []
  | some (.arr items) => items
  | some value => [value]

/-- `_string`: of a list its first value. -/
def text (value : Option Json) : Option String :=
  match value with
  | some (.arr []) => none
  | some (.arr (first :: _)) => firstText first
  | value => stringOf tools.toIncidentTools value
where
  firstText : Json → Option String
    | .arr [] => none
    | .arr (first :: _) => firstText first
    | value => stringOf tools.toIncidentTools (some value)

structure NormalizedTime where
  ianaTimezone : Option String
  valueUtc : Option Time
  status : String
  deriving DecidableEq, Repr

/-- `normalize_event_time`, without the two arguments it returns. -/
def normalizeEventTime (value timezoneHint : Option String) : Except String NormalizedTime :=
  if !truthy value then .ok ⟨none, none, "missing"⟩
  else do
    match ← tools.parseDatetime (value.getD "") with
    | none => return ⟨none, none, "ambiguous"⟩
    | some (.aware utc zoneKey) => return ⟨orElse zoneKey timezoneHint, some utc, "resolved"⟩
    | some (.naive wall) =>
      if !truthy timezoneHint then return ⟨none, none, "missing"⟩
      else
        match ← tools.zone (timezoneHint.getD "") with
        | none => return ⟨none, none, "ambiguous"⟩
        | some instant =>
          match instant wall with
          | none => return ⟨timezoneHint, none, "ambiguous"⟩
          | some utc => return ⟨timezoneHint, some utc, "resolved"⟩

/-- `_country_code`. -/
def countryCode (value : Option Json) : Option String :=
  (text tools value).map fun code => tools.upper (String.ofList (code.toList.take 2))

/-- `_format_from_schema`. -/
def formatFromSchema (attendanceMode : Option String) : String :=
  if !truthy attendanceMode then "unknown"
  else
    let lowered := lower (attendanceMode.getD "")
    if occursIn "mixed" lowered then "hybrid"
    else if occursIn "online" lowered then "online"
    else if occursIn "offline" lowered then "in-person"
    else "unknown"

end Reading

section Events

/-- `_candidate_from_schema_org`. -/
def candidateFromSchemaOrg (event : Json) (source : EventSource) (item : EventItem)
    (series : String) (timezoneHint : Option String) : Except String EventCandidate := do
  let start := text tools (event.get? "startDate")
  let finish := text tools (event.get? "endDate")
  let startTime ← normalizeEventTime tools start timezoneHint
  let endTime ← if finish.isSome then some <$> normalizeEventTime tools finish timezoneHint
    else pure none
  let location := dictAt event "location"
  let address := dictAt location "address"
  let attendanceMode := text tools (event.get? "eventAttendanceMode")
  let url ← normalizeUrl tools.toIncidentTools
    ((text tools (event.get? "url")).getD item.canonicalUrl)
  return {
    name := orElseText (text tools (event.get? "name")) item.permittedExcerpt source.name
    eventSeriesKey := series
    externalId := (text tools (event.get? "@id")).or item.externalId
    canonicalUrl := some url
    originalStart := start
    originalEnd := finish
    sourceTimezone := timezoneHint
    ianaTimezone := startTime.ianaTimezone
    timezoneStatus := startTime.status
    startsAtUtc := startTime.valueUtc
    endsAtUtc := endTime.bind (·.valueUtc)
    eventFormat := formatFromSchema attendanceMode
    venueName := text tools (location.get? "name")
    streetAddress := text tools (address.get? "streetAddress")
    city := text tools (address.get? "addressLocality")
    region := text tools (address.get? "addressRegion")
    postcode := text tools (address.get? "postalCode")
    country := countryCode tools (address.get? "addressCountry")
    virtualUrl := if attendanceMode.any fun mode => occursIn "online" (lower mode) then
        text tools (event.get? "url")
      else none
    confidence := if startTime.status = "resolved" then 85 else 65 }

/-- `_candidate_from_ics`. -/
def candidateFromIcs (event : Json) (source : EventSource) (item : EventItem)
    (series : String) (timezoneHint : Option String) : Except String EventCandidate := do
  let start := text tools (event.get? "DTSTART")
  let finish := text tools (event.get? "DTEND")
  let startTime ← normalizeEventTime tools (start.map (strip tools.toIncidentTools)) timezoneHint
  let endTime ← if finish.isSome then
      some <$> normalizeEventTime tools (finish.map (strip tools.toIncidentTools)) timezoneHint
    else pure none
  let location := text tools (event.get? "LOCATION")
  let online := location.any fun place => "http".toList.isPrefixOf (lower place).toList
  let url ← normalizeUrl tools.toIncidentTools
    ((text tools (event.get? "URL")).getD item.canonicalUrl)
  return {
    name := (text tools (event.get? "SUMMARY")).getD source.name
    eventSeriesKey := series
    externalId := (text tools (event.get? "UID")).or item.externalId
    canonicalUrl := some url
    originalStart := start
    originalEnd := finish
    sourceTimezone := timezoneHint
    ianaTimezone := startTime.ianaTimezone
    timezoneStatus := startTime.status
    startsAtUtc := startTime.valueUtc
    endsAtUtc := endTime.bind (·.valueUtc)
    eventFormat := if online then "online" else "in-person"
    venueName := if online then none else location
    virtualUrl := if online then location else none
    confidence := if startTime.status = "resolved" then 80 else 60 }

/-- `_candidate_from_feed`. -/
def candidateFromFeed (metadata : Json) (source : EventSource) (item : EventItem)
    (series : String) (timezoneHint : Option String) : Except String EventCandidate := do
  let published := item.publishedAt.map tools.isoformat
  let startTime ← if published.isSome then some <$> normalizeEventTime tools published timezoneHint
    else pure none
  return {
    name := (text tools (metadata.get? "feed_title")).getD source.name
    eventSeriesKey := series
    externalId := item.externalId
    canonicalUrl := some item.canonicalUrl
    originalStart := published
    sourceTimezone := timezoneHint
    ianaTimezone := startTime.bind (·.ianaTimezone)
    timezoneStatus := (startTime.map (·.status)).getD "missing"
    startsAtUtc := startTime.bind (·.valueUtc)
    confidence := 55 }

/-- `_candidate_from_page`. -/
def candidateFromPage (metadata : Json) (source : EventSource) (item : EventItem)
    (series : String) (timezoneHint : Option String) : EventCandidate where
  name := orElseText (text tools (metadata.get? "title")) item.permittedExcerpt source.name
  eventSeriesKey := series
  externalId := item.externalId
  canonicalUrl := some item.canonicalUrl
  sourceTimezone := timezoneHint
  confidence := 40

/-- The series of a source: what its query scope says, else its name. -/
def seriesKey (source : EventSource) : String :=
  if source.queryScope.flag "event_series_key" then
    ((source.queryScope.get? "event_series_key").map (tools.toIncidentTools.str)).getD ""
  else slug source.name

def candidatesFromRawItem (source : EventSource) (item : EventItem) :
    Except String (List EventCandidate) := do
  let metadata := item.rawMetadata
  let series := seriesKey tools source
  let timezoneHint := orElse item.sourceTimezone source.expectedTimezone
  if isDictAt metadata "schema_org_event" then
    return [← candidateFromSchemaOrg tools (dictAt metadata "schema_org_event") source item
      series timezoneHint]
  if isDictAt metadata "ics_event" then
    return [← candidateFromIcs tools (dictAt metadata "ics_event") source item series
      timezoneHint]
  if metadata.flag "feed_title" then
    return [← candidateFromFeed tools metadata source item series timezoneHint]
  return [candidateFromPage tools metadata source item series timezoneHint]

/-- The text whose digest is the key of an event. -/
def buildEventDedupeKey (candidate : EventCandidate) : String :=
  if truthy candidate.externalId then
    "external:" ++ candidate.eventSeriesKey ++ ":" ++ candidate.externalId.getD ""
  else
    let starts := (candidate.startsAtUtc.map isoDate).getD "unknown"
    let location := "|".intercalate [candidate.country.getD "", candidate.region.getD "",
      candidate.city.getD "", candidate.eventFormat]
    "event:" ++ candidate.eventSeriesKey ++ ":" ++ slug candidate.name ++ ":" ++ starts ++ ":" ++
      location

end Events

section Participants

/-- `_participant_from_schema_node`. -/
def participantFromSchemaNode (participantType : String) : Json → Option ParticipantCandidate
  | .str name =>
    (nonEmpty (strip tools.toIncidentTools name)).map fun publishedName =>
      { publishedName, participantType }
  | .obj fields =>
    let item := Json.obj fields
    (text tools (item.get? "name")).map fun publishedName =>
      { publishedName
        sourceParticipantId := text tools (item.get? "@id")
        organization := if isDictAt item "affiliation" then
            text tools ((dictAt item "affiliation").get? "name")
          else text tools (item.get? "worksFor")
        publishedRole := some ((text tools (item.get? "jobTitle")).getD participantType)
        participantType
        profileUrl := (text tools (item.get? "url")).or (text tools (item.get? "sameAs"))
        resolutionConfidence := 80 }
  | _ => none

def participantsFromRawItem (item : EventItem) : List ParticipantCandidate :=
  if !isDictAt item.rawMetadata "schema_org_event" then []
  else
    let event := dictAt item.rawMetadata "schema_org_event"
    [("performer", "speaker"), ("speaker", "speaker"), ("organizer", "organizer"),
      ("sponsor", "sponsor"), ("attendee", "attendee")].flatMap fun (field, participantType) =>
        (asList (event.get? field)).filterMap (participantFromSchemaNode tools participantType)

/-- How a participant of an event is told from the others. -/
inductive ParticipantIdentity where
  /-- `external:<event>:<id>` -/
  | external (sourceParticipantId : String)
  /-- `profile:<event>:<url>` -/
  | profile (url : String)
  /-- `<event>|<name>|<organization>|<role>` -/
  | named (name organization role : String)
  deriving DecidableEq, Repr

/-- The key of a participant, by the parts of the text it digests. -/
structure ParticipantKey where
  event : Id
  identity : ParticipantIdentity
  deriving DecidableEq, Repr

def participantIdentity (candidate : ParticipantCandidate) :
    Except String ParticipantIdentity :=
  if truthy candidate.sourceParticipantId then
    .ok (.external (candidate.sourceParticipantId.getD ""))
  else if truthy candidate.profileUrl then
    (normalizeUrl tools.toIncidentTools (candidate.profileUrl.getD "")).map .profile
  else
    .ok (.named (slug candidate.publishedName) (slug (candidate.organization.getD ""))
      (slug (candidate.publishedRole.getD "")))

def buildParticipantDedupeKey (event : Id) (candidate : ParticipantCandidate) :
    Except String ParticipantKey :=
  (participantIdentity tools candidate).map fun identity => { event, identity }

/-- Whether contacts may be extracted and whether they may be exported. -/
def participantEligibility (reuseState : String) : Bool × Bool :=
  (reuseState == "allowed", reuseState == "allowed")

end Participants

end GhostRecon.Events
