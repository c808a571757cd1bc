import GhostRecon.Events.Candidates
import GhostRecon.Lib.CompactTime
import GhostRecon.Sources.IcsNesting

/-!
Times of a calendar with a zone. The zone stands in a parameter of the property, the reader of
calendars keeps no parameter, and the time is read in the zone hinted at by the source. It is the
right one only where the two zones agree on both times of the event, or where the hint decides
neither.
-/

namespace GhostRecon.Events

open Lib (Id Dict)
open Lib.Calendar (compact ofCompact)
open GhostRecon.Incidents (stringOf strip)

/-- The functions `_parse_datetime` rests on: the text with the digits of every script as ASCII
digits, which is how patterns and `int` read them, and the ISO formats. -/
structure DatetimeTools where
  asciiDigits : String → String
  asciiDigits_ascii : ∀ s : String, (∀ c ∈ s.toList, c.toNat < 128) → asciiDigits s = s
  /-- `datetime.fromisoformat`, else `date.fromisoformat` at midnight. -/
  fromIsoformat : String → Option ParsedDatetime

section Datetimes

variable (datetimes : DatetimeTools)

/-- `re.fullmatch` of digits. -/
def areDigits (width : Nat) (text : List Char) : Bool :=
  text.length = width && text.all Char.isDigit

/-- `datetime.strptime`. -/
def strptime (text : List Char) : Except String Nat :=
  match ofCompact text with
  | some instant => .ok instant
  | none => .error "time data does not match format"

/-- `_parse_datetime`. A wall clock counts microseconds from year 1. -/
def parseDatetime (value : String) : Except String (Option ParsedDatetime) :=
  let stripped := stripChars isPySpace value
  let text := (datetimes.asciiDigits stripped).toList
  if stripped = "" then .ok none
  else if areDigits 8 text then do
    return some (.naive (← strptime (text ++ "T000000".toList)))
  else if areDigits 8 (text.take 8) && text[8]? = some 'T' then
    if areDigits 6 (text.drop 9).dropLast && text.getLast? = some 'Z' then do
      return some (.aware ((← strptime text.dropLast) / 1000000 - 719162 * 86400) none)
    else if areDigits 6 (text.drop 9) then do
      return some (.naive (← strptime text))
    else .ok (datetimes.fromIsoformat stripped)
  else .ok (datetimes.fromIsoformat stripped)

/-- A text of digits and capital letters is not stripped. -/
theorem stripChars_self {text : List Char} (htext : ∀ c ∈ text, isPySpace c = false) :
    stripChars isPySpace (String.ofList text) = String.ofList text := by
  rw [stripChars, String.toList_ofList]
  show String.ofList ((text.dropWhile isPySpace).rdropWhile isPySpace) = _
  rw [Lib.dropWhile_self htext, Lib.rdropWhile_self htext]

theorem compact_plain (instant : Nat) :
    ∀ c ∈ compact instant, isPySpace c = false ∧ c.toNat < 128 := by
  obtain ⟨date, time, hshape, -, -, hdate, htime⟩ := Lib.Calendar.compact_shape instant
  have hdigit {c : Char} (hc : c.isDigit = true) : isPySpace c = false ∧ c.toNat < 128 := by
    have htoken : isTokenChar c = true := by simp [isTokenChar, Char.isAlphanum, hc]
    have hbounds := isTokenChar_bounds htoken
    exact ⟨(isTokenChar_plain htoken).1, by omega⟩
  intro c hc
  rw [hshape, List.mem_append, List.mem_cons] at hc
  rcases hc with hc | rfl | hc
  · exact hdigit (hdate c hc)
  · decide
  · exact hdigit (htime c hc)

/-- A local time is read as the time it shows. -/
theorem parseDatetime_compact {instant : Nat} (hrange : instant < Lib.Calendar.maximum)
    (hwhole : Lib.Calendar.microsecond instant = 0) :
    parseDatetime datetimes (String.ofList (compact instant)) = .ok (some (.naive instant)) := by
  have hplain := compact_plain instant
  obtain ⟨date, time, hshape, hdateLength, htimeLength, hdate, htime⟩ :=
    Lib.Calendar.compact_shape instant
  have hstripped := stripChars_self fun c hc => (hplain c hc).1
  have hascii : datetimes.asciiDigits (String.ofList (compact instant)) =
      String.ofList (compact instant) := by
    apply datetimes.asciiDigits_ascii
    intro c hc
    rw [String.toList_ofList] at hc
    exact (hplain c hc).2
  have hlength : (compact instant).length = 15 := by
    rw [hshape, List.length_append, List.length_cons, hdateLength, htimeLength]
  have hne : String.ofList (compact instant) ≠ "" := by
    intro hempty
    have := congrArg String.toList hempty
    rw [String.toList_ofList] at this
    rw [this] at hlength
    exact absurd hlength (by decide)
  have hwide : areDigits 8 (compact instant) = false := by
    simp [areDigits, hlength]
  have htake : (compact instant).take 8 = date := by
    rw [hshape, ← hdateLength, List.take_left]
  have hletter : (compact instant)[8]? = some 'T' := by
    rw [hshape, List.getElem?_append_right (by omega), hdateLength]
    rfl
  have hdrop : (compact instant).drop 9 = time := by
    have hsplit : compact instant = (date ++ ['T']) ++ time := by rw [hshape]; simp
    have hnine : 9 = (date ++ ['T']).length := by simp [hdateLength]
    rw [hsplit, hnine, List.drop_left]
  have hshort : areDigits 6 time.dropLast = false := by
    simp [areDigits, htimeLength]
  have hdates : areDigits 8 date = true := by
    simp [areDigits, hdateLength, List.all_eq_true.mpr hdate]
  have htimes : areDigits 6 time = true := by
    simp [areDigits, htimeLength, List.all_eq_true.mpr htime]
  have hread : strptime (compact instant) = .ok instant := by
    rw [strptime, Lib.Calendar.ofCompact_compact hrange hwhole]
  unfold parseDatetime
  simp only [hstripped, hascii, String.toList_ofList, if_neg hne, hwide, htake, hletter, hdrop,
    hshort, hdates, htimes, hread, Bool.false_eq_true, Bool.false_and, Bool.and_self,
    decide_true, if_true, if_false]
  rfl

end Datetimes

/-- A property with a local time and its zone. -/
def zonedLine (name zone : String) (instant : Nat) : List Char :=
  name.toList ++ ";TZID=".toList ++ zone.toList ++ ':' :: compact instant

/-- The property is in the event, and it has no other of its name. -/
def HasTime (ics : IcsTools) (event : NestedEvent) (name zone : String) (instant : Nat) : Prop :=
  (∃ folds, (folds, zonedLine name zone instant) ∈ IcsEntry.allLines event.entries) ∧
    ∀ line ∈ IcsEntry.allLines event.entries,
      icsKey ics (unfolded line.1 line.2) = name → line.2 = zonedLine name zone instant

/-- An event that starts and ends at local times of a zone. -/
structure ZonedEvent (ics : IcsTools) extends NestedEvent where
  zone : String
  zone_plain : ∀ c ∈ zone.toList, isPySpace c = false ∧ c ≠ ':'
  start : Nat
  finish : Nat
  start_range : start < Lib.Calendar.maximum
  start_whole : Lib.Calendar.microsecond start = 0
  finish_range : finish < Lib.Calendar.maximum
  finish_whole : Lib.Calendar.microsecond finish = 0
  has_start : HasTime ics toNestedEvent "DTSTART" zone start
  has_finish : HasTime ics toNestedEvent "DTEND" zone finish

section Lines

variable {ics : IcsTools} {name zone : String} {instant : Nat}

/-- The names of the two times. -/
def timeNames : List String := ["DTSTART", "DTEND"]

theorem timeNames_plain (ics : IcsTools) (hname : name ∈ timeNames) : name.toList ≠ [] ∧
    (∀ c ∈ name.toList, isPySpace c = false ∧ c ≠ ':' ∧ c ≠ ';') ∧ ics.upper name = name := by
  have hall : (timeNames.all fun name => !name.toList.isEmpty && name.toList.all fun c =>
      isTokenChar c) = true := by decide +kernel
  have hname' := List.all_eq_true.mp hall name hname
  rw [Bool.and_eq_true, List.all_eq_true] at hname'
  refine ⟨by simpa using hname'.1, fun c hc => isTokenChar_plain (hname'.2 c hc), ?_⟩
  simp only [timeNames, List.mem_cons, List.not_mem_nil, or_false] at hname
  rcases hname with rfl | rfl <;> exact upper_plain ics (by decide +kernel) (by decide +kernel)

/-- The line is one word: it is read as it stands, and its value is the time alone. -/
theorem zonedLine_read (ics : IcsTools) (hname : name ∈ timeNames)
    (hzone : ∀ c ∈ zone.toList, isPySpace c = false ∧ c ≠ ':') (folds : List Nat) :
    icsKey ics (unfolded folds (zonedLine name zone instant)) = name ∧
      icsValue (unfolded folds (zonedLine name zone instant)) =
        String.ofList (compact instant) := by
  obtain ⟨-, hplain, hupper⟩ := timeNames_plain ics hname
  have hmark : ∀ c ∈ ";TZID=".toList, isPySpace c = false ∧ c ≠ ':' := by
    have hall : (";TZID=".toList.all fun c => !isPySpace c && c != ':') = true := by
      decide +kernel
    intro c hc
    simpa using List.all_eq_true.mp hall c hc
  have hfront : ∀ c ∈ name.toList ++ ";TZID=".toList ++ zone.toList,
      isPySpace c = false ∧ c ≠ ':' := by
    intro c hc
    rw [List.mem_append, List.mem_append] at hc
    rcases hc with (hc | hc) | hc
    · exact ⟨(hplain c hc).1, (hplain c hc).2.1⟩
    · exact hmark c hc
    · exact hzone c hc
  have hword : ∀ c ∈ zonedLine name zone instant, isPySpace c = false := by
    intro c hc
    rw [zonedLine, List.mem_append, List.mem_cons] at hc
    rcases hc with hc | rfl | hc
    · exact (hfront c hc).1
    · decide
    · exact (compact_plain instant c hc).1
  have hsemicolon : ∃ rest, ";TZID=".toList = ';' :: rest := ⟨"TZID=".toList, by decide +kernel⟩
  rw [unfolded_word hword]
  constructor
  · obtain ⟨rest, hrest⟩ := hsemicolon
    have hstart : ∀ c ∈ (';' :: (rest ++ zone.toList ++ ':' :: compact instant)).head?,
        c = ':' ∨ c = ';' := fun c hc => Or.inr (Option.some.inj hc).symm
    have hkey := icsKey_name ics (fun c hc => (hplain c hc).2) hstart
    rw [String.ofList_toList, hupper] at hkey
    have hline : zonedLine name zone instant =
        name.toList ++ ';' :: (rest ++ zone.toList ++ ':' :: compact instant) := by
      rw [zonedLine, hrest]
      simp
    rw [hline, hkey]
  · rw [zonedLine, icsValue_cut fun c hc => (hfront c hc).2,
      stripLine_word fun c hc => (compact_plain instant c hc).1]

/-- What the lines of an event set last under a key. -/
theorem lookup_setLine {lines : List (List Nat × List Char)} {key value : String}
    {event : Dict String String}
    (hvalue : ∀ line ∈ lines, icsKey ics (unfolded line.1 line.2) = key →
      icsValue (unfolded line.1 line.2) = value)
    (hset : (∃ line ∈ lines, icsKey ics (unfolded line.1 line.2) = key) ∨
      event.lookup key = some value) :
    (lines.foldl (setLine ics) event).lookup key = some value := by
  induction lines generalizing event with
  | nil => exact hset.resolve_left (by simp)
  | cons line lines ih =>
    rw [List.foldl_cons]
    apply ih fun other hother => hvalue other (List.mem_cons_of_mem _ hother)
    by_cases hmore : ∃ other ∈ lines, icsKey ics (unfolded other.1 other.2) = key
    · exact Or.inl hmore
    · refine Or.inr ?_
      rw [setLine, Lib.Dict.lookup_set]
      by_cases hkey : key = icsKey ics (unfolded line.1 line.2)
      · rw [if_pos hkey, hvalue line List.mem_cons_self hkey.symm]
      · rw [if_neg hkey]
        refine hset.resolve_left ?_
        rintro ⟨other, hother, hothers⟩
        rcases List.mem_cons.mp hother with rfl | hother
        · exact hkey hothers.symm
        · exact hmore ⟨other, hother, hothers⟩

/-- An event is read with its time under the name, whatever the zone. -/
theorem HasTime.read {event : NestedEvent} (htime : HasTime ics event name zone instant)
    (hname : name ∈ timeNames) (hzone : ∀ c ∈ zone.toList, isPySpace c = false ∧ c ≠ ':') :
    (event.read ics).lookup name = some (String.ofList (compact instant)) := by
  obtain ⟨⟨folds, hmem⟩, honly⟩ := htime
  apply lookup_setLine
  · intro line hline hkey
    rw [honly line hline hkey]
    exact (zonedLine_read ics hname hzone line.1).2
  · exact Or.inl ⟨_, hmem, (zonedLine_read ics hname hzone folds).1⟩

end Lines

section Candidates

variable [Casing]

/-- The event tools with the host's white space and its reading of dates. -/
def EventTools.reading (tools : EventTools) (datetimes : DatetimeTools) : EventTools :=
  { tools with isSpace := isPySpace, parseDatetime := Events.parseDatetime datetimes }

/-- The metadata of an item, as a stored item has them. -/
def icsMetadata (item : IcsItem) : Json :=
  .obj [("ics_event", .obj (item.icsEvent.map fun entry => (entry.1, .str entry.2)))]

/-- The instant a wall clock of a zone shows; none where there is no such zone. -/
def EventTools.instantIn (tools : EventTools) (zone : String) (wall : Nat) : Option Time :=
  match tools.zone zone with
  | .ok (some instant) => instant wall
  | _ => none

/-- The candidate has both times as its zone shows them, or neither and does not call them
resolved. -/
def RightTimes {ics : IcsTools} (tools : EventTools) (zoned : ZonedEvent ics)
    (candidate : EventCandidate) : Prop :=
  candidate.startsAtUtc = tools.instantIn zoned.zone zoned.start ∧
      candidate.endsAtUtc = tools.instantIn zoned.zone zoned.finish ∨
    candidate.startsAtUtc = none ∧ candidate.endsAtUtc = none ∧
      candidate.timezoneStatus ≠ "resolved"

/-- The zone hinted at decides neither time, or both as the zone of the event does. No hint and
an unknown zone decide nothing. -/
def HintHarmless {ics : IcsTools} (tools : EventTools) (zoned : ZonedEvent ics)
    (hint : Option String) : Prop :=
  truthy hint = false ∨
    tools.instantIn (hint.getD "") zoned.start = none ∧
      tools.instantIn (hint.getD "") zoned.finish = none ∨
    tools.instantIn (hint.getD "") zoned.start = tools.instantIn zoned.zone zoned.start ∧
      tools.instantIn (hint.getD "") zoned.finish = tools.instantIn zoned.zone zoned.finish

variable {ics : IcsTools} {tools : EventTools} {datetimes : DatetimeTools}
  {zoned : ZonedEvent ics} {hint : Option String}

omit [Casing] in
theorem compact_truthy (instant : Nat) : truthy (some (String.ofList (compact instant))) = true := by
  obtain ⟨date, time, hshape, -, -, -, -⟩ := Lib.Calendar.compact_shape instant
  have hne : String.ofList (compact instant) ≠ "" := by
    intro hempty
    have hlist := congrArg String.toList hempty
    rw [String.toList_ofList, hshape] at hlist
    exact absurd hlist (by simp)
  simp [truthy, hne]

omit [Casing] in
/-- A time is resolved exactly when its instant is settled. -/
theorem time_settled {settled : Option Time} {time : NormalizedTime}
    (htime : (match settled with
      | none => (.ok ⟨hint, none, "ambiguous"⟩ : Except String NormalizedTime)
      | some utc => .ok ⟨hint, some utc, "resolved"⟩) = .ok time) :
    (time.status = "resolved" ↔ time.valueUtc ≠ none) ∧ time.valueUtc = settled := by
  cases settled with
  | none =>
    obtain rfl := Except.ok.inj htime
    simp
  | some utc =>
    obtain rfl := Except.ok.inj htime
    simp

omit [Casing] in
/-- A local time is read in the zone hinted at. -/
theorem normalizeEventTime_naive {value : String} {wall : Nat}
    (htruthy : truthy (some value) = true)
    (hread : tools.parseDatetime value = .ok (some (.naive wall))) {time : NormalizedTime}
    (htime : normalizeEventTime tools (some value) hint = .ok time) :
    (time.status = "resolved" ↔ time.valueUtc ≠ none) ∧
      time.valueUtc = if truthy hint then tools.instantIn (hint.getD "") wall else none := by
  unfold normalizeEventTime at htime
  rw [htruthy, Option.getD_some, hread] at htime
  cases hhint : truthy hint with
  | false =>
    rw [hhint] at htime
    obtain rfl : (⟨none, none, "missing"⟩ : NormalizedTime) = time := Except.ok.inj htime
    simp
  | true =>
    rw [hhint] at htime
    rw [if_pos rfl, EventTools.instantIn]
    cases hfound : tools.zone (hint.getD "") with
    | error message =>
      rw [hfound] at htime
      exact absurd htime (by simp [bind, Except.bind])
    | ok found =>
      rw [hfound] at htime
      cases found with
      | none =>
        obtain rfl : (⟨none, none, "ambiguous"⟩ : NormalizedTime) = time := Except.ok.inj htime
        simp
      | some there =>
        show _ ∧ _ = there wall
        exact time_settled htime

omit [Casing] in
/-- A text of the metadata is read as it stands when nothing of it is white space. -/
theorem text_reading (tools : EventTools) (datetimes : DatetimeTools) {entries : Dict String String} {key : String}
    {instant : Nat} (hentry : entries.lookup key = some (String.ofList (compact instant))) :
    (text (tools.reading datetimes)
        ((Json.obj (entries.map fun entry => (entry.1, .str entry.2))).get? key)) =
      some (String.ofList (compact instant)) ∧
    strip (tools.reading datetimes).toIncidentTools (String.ofList (compact instant)) =
      String.ofList (compact instant) := by
  have hlookup : (Json.obj (entries.map fun entry => (entry.1, .str entry.2))).get? key =
      some (.str (String.ofList (compact instant))) := by
    show (entries.map fun entry => (entry.1, Json.str entry.2)).lookup key = _
    have hmap : ∀ entries : Dict String String,
        (entries.map fun entry => (entry.1, Json.str entry.2)).lookup key =
          (entries.lookup key).map Json.str := by
      intro entries
      induction entries with
      | nil => rfl
      | cons entry entries ih =>
        rw [List.map_cons, List.lookup_cons, List.lookup_cons, ih]
        cases key == entry.1 <;> rfl
    rw [hmap, hentry]
    rfl
  have hstrip : strip (tools.reading datetimes).toIncidentTools
      (String.ofList (compact instant)) = String.ofList (compact instant) :=
    stripChars_self fun c hc => (compact_plain instant c hc).1
  refine ⟨?_, hstrip⟩
  rw [hlookup]
  show stringOf (tools.reading datetimes).toIncidentTools
    (some (.str (String.ofList (compact instant)))) = _
  have htruthy := compact_truthy instant
  show nonEmpty (strip _ (String.ofList (compact instant))) = _
  rw [hstrip, nonEmpty, if_neg]
  intro hempty
  rw [hempty] at htruthy
  exact absurd htruthy (by decide)

/-- The times of a candidate are those of the two properties. -/
theorem candidateFromIcs_times {event : Json} {start finish series : String}
    {source : EventSource} {raw : EventItem} {candidate : EventCandidate}
    (hstart : text tools (event.get? "DTSTART") = some start)
    (hfinish : text tools (event.get? "DTEND") = some finish)
    (hbuilt : candidateFromIcs tools event source raw series hint = .ok candidate) :
    ∃ startTime endTime,
      normalizeEventTime tools (some (strip tools.toIncidentTools start)) hint = .ok startTime ∧
      normalizeEventTime tools (some (strip tools.toIncidentTools finish)) hint = .ok endTime ∧
      candidate.timezoneStatus = startTime.status ∧
      candidate.startsAtUtc = startTime.valueUtc ∧ candidate.endsAtUtc = endTime.valueUtc := by
  unfold candidateFromIcs at hbuilt
  rw [hstart, hfinish] at hbuilt
  simp only [Option.map_some, Option.isSome_some, if_true] at hbuilt
  cases hstartTime : normalizeEventTime tools (some (strip tools.toIncidentTools start)) hint with
  | error message =>
    rw [hstartTime] at hbuilt
    exact absurd hbuilt (by simp [bind, Except.bind])
  | ok startTime =>
    rw [hstartTime] at hbuilt
    cases hendTime : normalizeEventTime tools (some (strip tools.toIncidentTools finish)) hint with
    | error message =>
      rw [hendTime] at hbuilt
      exact absurd hbuilt (by simp [bind, Except.bind])
    | ok endTime =>
      rw [hendTime] at hbuilt
      refine ⟨startTime, endTime, rfl, rfl, ?_⟩
      cases hurl : Incidents.normalizeUrl tools.toIncidentTools
          ((text tools (event.get? "URL")).getD raw.canonicalUrl) with
      | error message =>
        rw [hurl] at hbuilt
        exact absurd hbuilt (by simp [bind, Except.bind])
      | ok url =>
        rw [hurl] at hbuilt
        obtain rfl := Except.ok.inj hbuilt
        exact ⟨rfl, rfl, rfl⟩

/-- An item with an event is read from the event. -/
theorem candidatesFromRawItem_ics {entries : Dict String String} {source : EventSource}
    {raw : EventItem} {candidate : EventCandidate}
    (hraw : raw.rawMetadata =
      .obj [("ics_event", .obj (entries.map fun entry => (entry.1, .str entry.2)))])
    (hbuilt : candidatesFromRawItem tools source raw = .ok [candidate]) :
    candidateFromIcs tools (.obj (entries.map fun entry => (entry.1, .str entry.2))) source raw
      (seriesKey tools source) (orElse raw.sourceTimezone source.expectedTimezone) =
        .ok candidate := by
  have hother : ("schema_org_event" == "ics_event") = false := by decide +kernel
  have hschema : isDictAt raw.rawMetadata "schema_org_event" = false := by
    rw [hraw, isDictAt, Json.get?, Json.fields, List.lookup_cons, hother]
    rfl
  have hfound : raw.rawMetadata.get? "ics_event" =
      some (.obj (entries.map fun entry => (entry.1, .str entry.2))) := by
    rw [hraw, Json.get?, Json.fields, List.lookup_cons_self]
  have hics : isDictAt raw.rawMetadata "ics_event" = true := by rw [isDictAt, hfound]
  have hdict : dictAt raw.rawMetadata "ics_event" =
      .obj (entries.map fun entry => (entry.1, .str entry.2)) := by rw [dictAt, hfound]
  unfold candidatesFromRawItem at hbuilt
  simp only [hschema, hics, hdict, Bool.false_eq_true, if_false, if_true] at hbuilt
  cases hcandidate : candidateFromIcs tools
      (.obj (entries.map fun entry => (entry.1, .str entry.2))) source raw
      (seriesKey tools source) (orElse raw.sourceTimezone source.expectedTimezone) with
  | error message =>
    rw [hcandidate] at hbuilt
    exact absurd hbuilt (by simp [bind, Except.bind])
  | ok found =>
    rw [hcandidate] at hbuilt
    obtain rfl : found = candidate := (List.cons.inj (Except.ok.inj hbuilt)).1
    rfl

/-- Every candidate that is built from the item of a zoned event has the right times exactly
when the hint does no harm. -/
theorem zoned_times_right_iff (before after : List CalendarPart) (calendarUrl : String)
    (language : Option String) {item : IcsItem}
    (hitem : (parseIcsEvents ics (nestedText (before ++ .event zoned.toNestedEvent :: after))
      calendarUrl language)[(before.flatMap (CalendarPart.read ics)).length]? = some item)
    (source : EventSource) {raw : EventItem} (hraw : raw.rawMetadata = icsMetadata item)
    {candidate : EventCandidate}
    (hbuilt : candidatesFromRawItem (tools.reading datetimes) source raw = .ok [candidate]) :
    RightTimes tools zoned candidate ↔
      HintHarmless tools zoned (orElse raw.sourceTimezone source.expectedTimezone) := by
  have hevent : item.icsEvent = zoned.toNestedEvent.read ics := by
    have hplace := congrArg (Option.map (·.icsEvent)) hitem
    rw [← List.getElem?_map, parseIcsEvents_events, icsEvents_parts, List.flatMap_append,
      List.getElem?_append_right (Nat.le_refl _), Nat.sub_self, List.flatMap_cons] at hplace
    exact (Option.some.inj hplace).symm
  rw [icsMetadata, hevent] at hraw
  have hstartRead := zoned.has_start.read (by simp [timeNames]) zoned.zone_plain
  have hfinishRead := zoned.has_finish.read (by simp [timeNames]) zoned.zone_plain
  obtain ⟨hstart, hstartStrip⟩ := text_reading tools datetimes hstartRead
  obtain ⟨hfinish, hfinishStrip⟩ := text_reading tools datetimes hfinishRead
  obtain ⟨startTime, endTime, hstartTime, hendTime, hstatus, hstarts, hends⟩ :=
    candidateFromIcs_times hstart hfinish (candidatesFromRawItem_ics hraw hbuilt)
  rw [hstartStrip] at hstartTime
  rw [hfinishStrip] at hendTime
  have hparse : (tools.reading datetimes).parseDatetime = parseDatetime datetimes := rfl
  have hstartWall : (tools.reading datetimes).parseDatetime
      (String.ofList (compact zoned.start)) = .ok (some (.naive zoned.start)) := by
    rw [hparse]
    exact parseDatetime_compact datetimes zoned.start_range zoned.start_whole
  have hfinishWall : (tools.reading datetimes).parseDatetime
      (String.ofList (compact zoned.finish)) = .ok (some (.naive zoned.finish)) := by
    rw [hparse]
    exact parseDatetime_compact datetimes zoned.finish_range zoned.finish_whole
  obtain ⟨hresolved, hstartUtc⟩ :=
    normalizeEventTime_naive (compact_truthy zoned.start) hstartWall hstartTime
  obtain ⟨-, hendUtc⟩ :=
    normalizeEventTime_naive (compact_truthy zoned.finish) hfinishWall hendTime
  have hsame (zone : String) (wall : Nat) :
      (tools.reading datetimes).instantIn zone wall = tools.instantIn zone wall := rfl
  rw [hsame] at hstartUtc hendUtc
  rw [RightTimes, HintHarmless, hstatus, hstarts, hends, hendUtc, ne_eq, hresolved]
  rw [hstartUtc]
  generalize orElse raw.sourceTimezone source.expectedTimezone = hint
  cases truthy hint with
  | false => simp
  | true =>
    simp only [if_true, Bool.true_eq_false, false_or, ne_eq, not_not]
    constructor
    · rintro (h | ⟨hnone, hnone', -⟩)
      · exact Or.inr h
      · exact Or.inl ⟨hnone, hnone'⟩
    · rintro (⟨hnone, hnone'⟩ | h)
      · exact Or.inr ⟨hnone, hnone', hnone⟩
      · exact Or.inl h

end Candidates

section TwoZones

/-- The line of a time, as a property. -/
def timeLine {name zone : String} (hname : name ∈ timeNames)
    (hzone : ∀ c ∈ zone.toList, isPySpace c = false ∧ c ≠ ':') (instant : Nat) :
    PropertyLine where
  name := name.toList
  rest := ";TZID=".toList ++ zone.toList ++ ':' :: compact instant
  name_nonempty := (timeNames_plain plainIcsTools hname).1
  name_token := by
    have hall : (timeNames.all fun name => name.toList.all isTokenChar) = true := by
      decide +kernel
    exact List.all_eq_true.mp (List.all_eq_true.mp hall name hname)
  name_other := by
    have hall : (timeNames.all fun name => String.ofList (name.toList.map Char.toUpper) != "BEGIN" &&
        String.ofList (name.toList.map Char.toUpper) != "END") = true := by decide +kernel
    simpa using List.all_eq_true.mp hall name hname
  rest_start := by
    obtain ⟨rest, hrest⟩ : ∃ rest, ";TZID=".toList = ';' :: rest :=
      ⟨"TZID=".toList, by decide +kernel⟩
    rw [hrest]
    exact Or.inr rfl
  rest_colon := List.mem_append_right _ List.mem_cons_self
  rest_unbroken := by
    apply word_unbroken
    have hmark : (";TZID=".toList.all fun c => !isPySpace c) = true := by decide +kernel
    intro c hc
    rw [List.mem_append, List.mem_append, List.mem_cons] at hc
    rcases hc with (hc | hc) | rfl | hc
    · simpa using List.all_eq_true.mp hmark c hc
    · exact (hzone c hc).1
    · decide
    · exact (compact_plain instant c hc).1

/-- The two times of an event that has nothing else. -/
def timeEntries (zone : String) (hzone : ∀ c ∈ zone.toList, isPySpace c = false ∧ c ≠ ':')
    (start finish : Nat) : List IcsEntry :=
  [.property (timeLine (List.mem_cons_self : "DTSTART" ∈ timeNames) hzone start),
    .property (timeLine (List.mem_cons_of_mem _ List.mem_cons_self : "DTEND" ∈ timeNames) hzone
      finish)]

theorem timeEntries_lines {zone : String}
    (hzone : ∀ c ∈ zone.toList, isPySpace c = false ∧ c ≠ ':') (start finish : Nat) :
    IcsEntry.allLines (timeEntries zone hzone start finish) =
      [([], zonedLine "DTSTART" zone start), ([], zonedLine "DTEND" zone finish)] := by
  rw [timeEntries, IcsEntry.allLines, IcsEntry.allLines, IcsEntry.allLines, IcsEntry.lines,
    IcsEntry.lines, zonedLine, zonedLine, List.append_assoc, List.append_assoc,
    List.append_assoc, List.append_assoc]
  show [([], _ ++ (_ ++ _ ++ _)), ([], _ ++ (_ ++ _ ++ _))] = _
  rw [List.append_assoc, List.append_assoc]
  rfl

theorem timeEntries_keys (ics : IcsTools) {zone : String}
    (hzone : ∀ c ∈ zone.toList, isPySpace c = false ∧ c ≠ ':') (start finish : Nat) :
    HasTime ics { entries := timeEntries zone hzone start finish } "DTSTART" zone start ∧
      HasTime ics { entries := timeEntries zone hzone start finish } "DTEND" zone finish := by
  have hstartKey : icsKey ics (unfolded [] (zonedLine "DTSTART" zone start)) = "DTSTART" :=
    (zonedLine_read ics List.mem_cons_self hzone []).1
  have hfinishKey : icsKey ics (unfolded [] (zonedLine "DTEND" zone finish)) = "DTEND" :=
    (zonedLine_read ics (List.mem_cons_of_mem _ List.mem_cons_self) hzone []).1
  have hnames : ¬"DTEND" = "DTSTART" := by decide +kernel
  have hlines := timeEntries_lines hzone start finish
  constructor
  · refine ⟨⟨[], by rw [hlines]; exact List.mem_cons_self⟩, ?_⟩
    intro line hline hkey
    rw [hlines] at hline
    rcases List.mem_cons.mp hline with rfl | hline
    · rfl
    · obtain rfl := List.mem_singleton.mp hline
      exact absurd (hfinishKey.symm.trans hkey) hnames
  · refine ⟨⟨[], by rw [hlines]; exact List.mem_cons_of_mem _ List.mem_cons_self⟩, ?_⟩
    intro line hline hkey
    rw [hlines] at hline
    rcases List.mem_cons.mp hline with rfl | hline
    · exact absurd (hkey.symm.trans hstartKey) hnames
    · obtain rfl := List.mem_singleton.mp hline
      rfl

theorem newYork_plain : ∀ c ∈ "America/New_York".toList, isPySpace c = false ∧ c ≠ ':' := by
  have hall : ("America/New_York".toList.all fun c => !isPySpace c && c != ':') = true := by
    decide +kernel
  intro c hc
  simpa using List.all_eq_true.mp hall c hc

/-- An event of one hour in New York, at nine in the morning of the third of July. -/
def newYorkEvent : ZonedEvent plainIcsTools where
  entries := timeEntries "America/New_York" newYork_plain 63918666000000000 63918669600000000
  zone := "America/New_York"
  zone_plain := newYork_plain
  start := 63918666000000000
  finish := 63918669600000000
  start_range := by decide
  start_whole := by decide
  finish_range := by decide
  finish_whole := by decide
  has_start := (timeEntries_keys plainIcsTools _ _ _).1
  has_finish := (timeEntries_keys plainIcsTools _ _ _).2

/-- The item of the event in a calendar of its own. -/
def newYorkItem : IcsItem :=
  icsItem plainIcsTools "https://events.example" none
    (newYorkEvent.toNestedEvent.read plainIcsTools)

theorem newYorkItem_parsed :
    (parseIcsEvents plainIcsTools (nestedText ([] ++ .event newYorkEvent.toNestedEvent :: []))
      "https://events.example" none)[([].flatMap (CalendarPart.read plainIcsTools)).length]? =
        some newYorkItem := by
  rw [parseIcsEvents, icsEvents_parts]
  rfl

/-- Two zones as they are in July, and library functions that take every address for one page. -/
def twoZoneTools : EventTools where
  sha256 := id
  urlsplit := fun _ => .ok
    { scheme := "https", hostname := some "events.example", port := .ok none, path := "/"
      query := "" }
  parseQsl := fun _ => []
  urlencode := fun _ => ""
  urlunsplit := fun scheme host path _ => scheme ++ "://" ++ host ++ path
  textOf := fun _ => ""
  intOfText := fun _ => none
  parseDatetime := fun _ => .ok none
  zone := fun key =>
    if key = "America/New_York" then
      .ok (some fun wall => some (wall.toNat / 1000000 - 719162 * 86400 + 14400))
    else if key = "Europe/Berlin" then
      .ok (some fun wall => some (wall.toNat / 1000000 - 719162 * 86400 - 7200))
    else .ok none
  isoformat := fun _ => ""
  upper := id

def plainDatetimes : DatetimeTools where
  asciiDigits := id
  asciiDigits_ascii _ _ := rfl
  fromIsoformat := fun _ => none

/-- The item as it is stored for a source with a zone. -/
def newYorkRaw (zone : String) : EventItem where
  sourceDefinitionId := 0
  canonicalUrl := "https://events.example"
  sourceTimezone := some zone
  rawMetadata := icsMetadata newYorkItem

/-- What is built of the item. -/
def newYorkCandidates (zone : String) : Except String (List EventCandidate) :=
  candidatesFromRawItem (twoZoneTools.reading plainDatetimes) { name := "Conference" }
    (newYorkRaw zone)

theorem newYorkCandidates_one (zone : String) (hzone : zone = "America/New_York" ∨
    zone = "Europe/Berlin") : ∃ candidate, newYorkCandidates zone = .ok [candidate] := by
  have hbuilt : (match newYorkCandidates zone with
      | .ok candidates => candidates.length
      | .error _ => 0) = 1 := by
    rcases hzone with rfl | rfl <;> decide +kernel
  cases hcandidates : newYorkCandidates zone with
  | error message =>
    rw [hcandidates] at hbuilt
    exact absurd hbuilt (by simp)
  | ok candidates =>
    rw [hcandidates] at hbuilt
    obtain ⟨candidate, rfl⟩ := List.length_eq_one_iff.mp hbuilt
    exact ⟨candidate, rfl⟩

/-- With the zone of the event as its hint the source gives the right times. -/
theorem own_zone_right : ∃ candidate, newYorkCandidates "America/New_York" = .ok [candidate] ∧
    RightTimes twoZoneTools newYorkEvent candidate := by
  obtain ⟨candidate, hbuilt⟩ := newYorkCandidates_one "America/New_York" (Or.inl rfl)
  have hhint : orElse (newYorkRaw "America/New_York").sourceTimezone none =
      some "America/New_York" := by decide +kernel
  refine ⟨candidate, hbuilt, ?_⟩
  apply (zoned_times_right_iff [] [] "https://events.example" none newYorkItem_parsed
    { name := "Conference" } rfl hbuilt).mpr
  show HintHarmless twoZoneTools newYorkEvent
    (orElse (newYorkRaw "America/New_York").sourceTimezone none)
  rw [hhint]
  exact Or.inr (Or.inr ⟨rfl, rfl⟩)

/-- With the hint of Berlin the event in New York is resolved six hours too early. -/
theorem other_zone_wrong :
    parseIcsEvents plainIcsTools (nestedText [.event newYorkEvent.toNestedEvent])
      "https://events.example" none = [newYorkItem] ∧
    ∃ candidate, newYorkCandidates "Europe/Berlin" = .ok [candidate] ∧
      candidate.timezoneStatus = "resolved" ∧
        ¬RightTimes twoZoneTools newYorkEvent candidate := by
  obtain ⟨candidate, hbuilt⟩ := newYorkCandidates_one "Europe/Berlin" (Or.inr rfl)
  have htimes : (match newYorkCandidates "Europe/Berlin" with
      | .ok candidates => candidates.map fun c => (c.timezoneStatus, c.startsAtUtc)
      | .error _ => []) = [("resolved", some 1783062000)] := by decide +kernel
  rw [hbuilt] at htimes
  obtain ⟨hstatus, hstarts⟩ := Prod.mk.inj (List.cons.inj htimes).1
  have hright : twoZoneTools.instantIn newYorkEvent.zone newYorkEvent.start =
      some 1783083600 := by decide +kernel
  refine ⟨?_, candidate, hbuilt, hstatus, ?_⟩
  · rw [parseIcsEvents, icsEvents_parts]
    rfl
  rintro (⟨hsame, -⟩ | ⟨hnone, -⟩)
  · rw [hstarts, hright] at hsame
    exact absurd hsame (by decide)
  · rw [hstarts] at hnone
    exact absurd hnone (by decide)

end TwoZones

end GhostRecon.Events
