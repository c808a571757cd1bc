import GhostRecon.Events.IcsZones
import GhostRecon.Lib.Zones

/-!
Reading the time of an event with all that is raised on the way. A time is read by one of three
layouts of digits or as an ISO text; it is aware or gets the zone of the hint; and it becomes an
instant of the calendar, which ends with the years 1 and 9999. Instants and wall clocks are
microseconds from year 1. Two of the steps stand outside of every handler: a layout of digits that
is no date, and an instant that the calendar does not have.
-/

namespace GhostRecon.Events.Times

inductive TimeError where
  | valueError | overflowError | zoneInfoNotFoundError
  deriving DecidableEq, Repr

/-- A datetime; an aware one has a fixed offset in microseconds. -/
structure Datetime where
  wall : Int
  offset : Option Int
  deriving DecidableEq, Repr

/-- The functions of the library that read digits, ISO texts and zones. -/
structure TimeTools where
  /-- A decimal digit of any script as an ASCII digit; other characters stay. -/
  digit : Char → Char
  digit_ascii : ∀ c : Char, c.toNat < 128 → digit c = c
  /-- `datetime.fromisoformat`, where it does not raise. -/
  datetimeFromIso : String → Option Datetime
  /-- `date.fromisoformat`, where it does not raise: the midnight of the day. -/
  dateFromIso : String → Option Int
  /-- `ZoneInfo`: the offset in seconds of a fold and the seconds of a wall clock. -/
  zoneInfo : String → Except TimeError (Bool → Int → Int)

/-- `NormalizedTime`. -/
structure NormalizedTime where
  originalValue : Option String
  sourceTimezone : Option String
  ianaTimezone : Option String
  valueUtc : Option Int
  status : String
  deriving DecidableEq, Repr

variable (tools : TimeTools)

section Parsing

/-- The patterns of months, days and hours name their digits; only years and last digits are of
any script. -/
def namedDigits (text : List Char) : Bool :=
  let ascii (i : Nat) := (text[i]?).any Char.isDigit
  [4, 5, 6, 9, 11, 13].all ascii && (ascii 7 || (text[6]?).any (· ∈ ['1', '2'])) &&
    (ascii 10 || (text[9]?).any (· ∈ ['0', '1']))

/-- `datetime.strptime` of a date and a time without separators. -/
def strptime (text : List Char) : Except TimeError Int :=
  match Lib.Calendar.ofCompact (text.map tools.digit) with
  | some instant => if namedDigits text then .ok instant else .error .valueError
  | none => .error .valueError

/-- `\d{width}`. -/
def areDigits (width : Nat) (text : List Char) : Bool :=
  text.length = width && text.all fun c => (tools.digit c).isDigit

/-- `\d{8}T\d{6}`. -/
def isStamp (text : List Char) : Bool :=
  areDigits tools 8 (text.take 8) && text[8]? = some 'T' && areDigits tools 6 (text.drop 9)

/-- `datetime.fromisoformat` of the text with every Z as an offset, else `date.fromisoformat`. -/
def fromIsoformat (text : List Char) : Option Datetime :=
  let replaced := text.flatMap fun c => if c = 'Z' then "+00:00".toList else [c]
  (tools.datetimeFromIso (String.ofList replaced)).or
    ((tools.dateFromIso (String.ofList text)).map (⟨·, none⟩))

/-- `_parse_datetime`. -/
def parseDatetime (value : String) : Except TimeError (Option Datetime) :=
  let compact := (stripChars isPySpace value).toList
  if compact = [] then .ok none
  else if areDigits tools 8 compact then do
    return some ⟨← strptime tools (compact ++ "T000000".toList), none⟩
  else if isStamp tools compact.dropLast ∧ compact.getLast? = some 'Z' then do
    return some ⟨← strptime tools compact.dropLast, some 0⟩
  else if isStamp tools compact then do
    return some ⟨← strptime tools compact, none⟩
  else .ok (fromIsoformat tools compact)

end Parsing

section Normalizing

/-- The calendar has the instant. -/
def InRange (instant : Int) : Prop :=
  0 ≤ instant ∧ instant < Lib.Calendar.maximum

instance (instant : Int) : Decidable (InRange instant) :=
  inferInstanceAs (Decidable (_ ∧ _))

/-- `astimezone(UTC)` of a wall clock at an offset. -/
def astimezone (wall offset : Int) : Except TimeError Int :=
  if InRange (wall - offset) then .ok (wall - offset) else .error .overflowError

/-- `_is_ambiguous_local_time`. -/
def isAmbiguousLocalTime (wall : Int) (utcoffset : Bool → Int → Int) : Bool :=
  utcoffset false (wall / 1000000) ≠ utcoffset true (wall / 1000000)

/-- `normalize_event_time`. A fixed offset has no key, so the zone of an aware time is the hint. -/
def normalizeEventTime (value timezoneHint : Option String) : Except TimeError NormalizedTime :=
  if !truthy value then .ok ⟨value, timezoneHint, none, none, "missing"⟩
  else do
    match ← parseDatetime tools (value.getD "") with
    | none => return ⟨value, timezoneHint, none, none, "ambiguous"⟩
    | some ⟨wall, some offset⟩ =>
      return ⟨value, timezoneHint, timezoneHint, some (← astimezone wall offset), "resolved"⟩
    | some ⟨wall, none⟩ =>
      if !truthy timezoneHint then return ⟨value, timezoneHint, none, none, "missing"⟩
      else
        match tools.zoneInfo (timezoneHint.getD "") with
        | .error .zoneInfoNotFoundError =>
          return ⟨value, timezoneHint, none, none, "ambiguous"⟩
        | .error raised => throw raised
        | .ok utcoffset =>
          if isAmbiguousLocalTime wall utcoffset then
            return ⟨value, timezoneHint, timezoneHint, none, "ambiguous"⟩
          else
            return ⟨value, timezoneHint, timezoneHint,
              some (← astimezone wall (1000000 * utcoffset false (wall / 1000000))), "resolved"⟩

end Normalizing

section Raising

/-- The digits of a text that has the layout of a date, with a time of day. -/
def stampText (value : String) : Option (List Char) :=
  let compact := (stripChars isPySpace value).toList
  if areDigits tools 8 compact then some (compact ++ "T000000".toList)
  else if isStamp tools compact.dropLast ∧ compact.getLast? = some 'Z' then some compact.dropLast
  else if isStamp tools compact then some compact
  else none

/-- The text has the layout of a date and is none of the calendar. -/
def FalseDate (value : String) : Prop :=
  ∃ text, stampText tools value = some text ∧
    ¬(namedDigits text = true ∧ (Lib.Calendar.ofCompact (text.map tools.digit)).isSome)

/-- The hint names a zone, or is looked up in vain; a malformed name raises. -/
def HintLegal (hint : Option String) : Prop :=
  ∀ raised, tools.zoneInfo (hint.getD "") = .error raised → raised = .zoneInfoNotFoundError

/-- The instant of a wall clock in the hinted zone is one of the calendar, where the zone
decides it. -/
def ZoneInRange (hint : Option String) (wall : Int) : Prop :=
  ∀ utcoffset, tools.zoneInfo (hint.getD "") = .ok utcoffset →
    utcoffset false (wall / 1000000) = utcoffset true (wall / 1000000) →
      InRange (wall - 1000000 * utcoffset false (wall / 1000000))

/-- The value is not the false date of a layout of digits, an aware time is an instant of the
calendar, and so is a naive one in the zone of the hint, whose name is legal. -/
def Readable (value hint : Option String) : Prop :=
  truthy value = true → ¬FalseDate tools (value.getD "") ∧
    ∀ datetime, parseDatetime tools (value.getD "") = .ok (some datetime) →
      match datetime.offset with
      | some offset => InRange (datetime.wall - offset)
      | none => truthy hint = true → HintLegal tools hint ∧ ZoneInRange tools hint datetime.wall

variable {tools} {value hint : Option String}

/-- Only a false date raises while a value is parsed. -/
theorem parseDatetime_raises_iff (tools : TimeTools) (value : String) :
    (∃ raised, parseDatetime tools value = .error raised) ↔ FalseDate tools value := by
  have hstrptime (text : List Char) (f : Int → Datetime) :
      (∃ raised, (do return some (f (← strptime tools text)) :
          Except TimeError (Option Datetime)) = .error raised) ↔
        ¬(namedDigits text = true ∧ (Lib.Calendar.ofCompact (text.map tools.digit)).isSome) := by
    unfold strptime
    cases Lib.Calendar.ofCompact (text.map tools.digit) with
    | none => simp [bind, Except.bind]
    | some instant =>
      cases namedDigits text with
      | true => simp [bind, Except.bind, pure, Except.pure]
      | false => simp [bind, Except.bind]
  unfold parseDatetime FalseDate stampText
  dsimp only
  split
  · next hempty =>
    rw [hempty]
    simp [areDigits, isStamp]
  · split
    · rw [hstrptime]
      simp
    · split
      · rw [hstrptime]
        simp
      · split
        · rw [hstrptime]
          simp
        · simp

theorem astimezone_inRange {wall offset : Int} (h : InRange (wall - offset)) :
    astimezone wall offset = .ok (wall - offset) :=
  if_pos h

theorem astimezone_outOfRange {wall offset : Int} (h : ¬InRange (wall - offset)) :
    astimezone wall offset = .error .overflowError :=
  if_neg h

/-- An aware time is normalized when the calendar has its instant. -/
theorem normalize_aware (hint : Option String) (htruthy : truthy value = true) {wall offset : Int}
    (hparse : parseDatetime tools (value.getD "") = .ok (some ⟨wall, some offset⟩)) :
    normalizeEventTime tools value hint =
      if InRange (wall - offset) then
        .ok ⟨value, hint, hint, some (wall - offset), "resolved"⟩
      else .error .overflowError := by
  unfold normalizeEventTime
  rw [htruthy, hparse]
  by_cases hrange : InRange (wall - offset)
  · rw [if_pos hrange]
    simp only [Bool.not_true, Bool.false_eq_true, if_false, bind, Except.bind]
    rw [astimezone_inRange hrange]
    rfl
  · rw [if_neg hrange]
    simp only [Bool.not_true, Bool.false_eq_true, if_false, bind, Except.bind]
    rw [astimezone_outOfRange hrange]

/-- A naive time without a hint is missing. -/
theorem normalize_unhinted (htruthy : truthy value = true) {wall : Int}
    (hparse : parseDatetime tools (value.getD "") = .ok (some ⟨wall, none⟩))
    (hhint : truthy hint = false) :
    normalizeEventTime tools value hint = .ok ⟨value, hint, none, none, "missing"⟩ := by
  unfold normalizeEventTime
  rw [htruthy, hparse, hhint]
  rfl

/-- A naive time whose hint is no zone. -/
theorem normalize_zoneless (htruthy : truthy value = true) {wall : Int}
    (hparse : parseDatetime tools (value.getD "") = .ok (some ⟨wall, none⟩))
    (hhint : truthy hint = true) {raised : TimeError}
    (hzone : tools.zoneInfo (hint.getD "") = .error raised) :
    normalizeEventTime tools value hint =
      if raised = .zoneInfoNotFoundError then .ok ⟨value, hint, none, none, "ambiguous"⟩
      else .error raised := by
  unfold normalizeEventTime
  rw [htruthy, hparse, hhint]
  simp only [Bool.not_true, Bool.false_eq_true, if_false, bind, Except.bind]
  rw [hzone]
  cases raised <;> rfl

/-- A naive time in the zone of its hint. -/
theorem normalize_zoned (htruthy : truthy value = true) {wall : Int}
    (hparse : parseDatetime tools (value.getD "") = .ok (some ⟨wall, none⟩))
    (hhint : truthy hint = true) {utcoffset : Bool → Int → Int}
    (hzone : tools.zoneInfo (hint.getD "") = .ok utcoffset) :
    normalizeEventTime tools value hint =
      if utcoffset false (wall / 1000000) ≠ utcoffset true (wall / 1000000) then
        .ok ⟨value, hint, hint, none, "ambiguous"⟩
      else if InRange (wall - 1000000 * utcoffset false (wall / 1000000)) then
        .ok ⟨value, hint, hint,
          some (wall - 1000000 * utcoffset false (wall / 1000000)), "resolved"⟩
      else .error .overflowError := by
  unfold normalizeEventTime
  rw [htruthy, hparse, hhint]
  simp only [Bool.not_true, Bool.false_eq_true, if_false, bind, Except.bind]
  rw [hzone]
  unfold isAmbiguousLocalTime
  simp only [decide_eq_true_eq]
  split
  · rfl
  · by_cases hrange : InRange (wall - 1000000 * utcoffset false (wall / 1000000))
    · rw [if_pos hrange, astimezone_inRange hrange]
      rfl
    · rw [if_neg hrange, astimezone_outOfRange hrange]

end Raising

/-- A normalized time has an instant exactly when it is resolved, and then the value is a date
that is aware or has the zone of its hint. -/
structure Honest (value hint : Option String) (time : NormalizedTime) : Prop where
  unresolved : time.valueUtc = none → time.status = "missing" ∨ time.status = "ambiguous"
  resolved : time.valueUtc ≠ none → time.status = "resolved" ∧
    ∃ datetime, parseDatetime tools (value.getD "") = .ok (some datetime) ∧
      (datetime.offset = none → ∃ utcoffset, tools.zoneInfo (hint.getD "") = .ok utcoffset)

/-- The time is normalized, and what is not a date of the calendar in a legal zone is called
missing or ambiguous. -/
def Normalizes (value hint : Option String) : Prop :=
  ∃ time, normalizeEventTime tools value hint = .ok time ∧ Honest tools value hint time

section Raising

variable {tools} {value hint : Option String}

/-- A value that is no date is missing or ambiguous. -/
theorem normalize_unread (hint : Option String)
    (h : truthy value = true → parseDatetime tools (value.getD "") = .ok none) :
    ∃ time, normalizeEventTime tools value hint = .ok time ∧ time.valueUtc = none ∧
      (time.status = "missing" ∨ time.status = "ambiguous") := by
  unfold normalizeEventTime
  cases htruthy : truthy value with
  | false => exact ⟨_, rfl, rfl, Or.inl rfl⟩
  | true =>
    rw [h htruthy]
    exact ⟨_, rfl, rfl, Or.inr rfl⟩

end Raising

section Returning

variable {tools} {value hint : Option String}

/-- A time without an instant is honest about it. -/
theorem honest_unresolved {time : NormalizedTime} (hnone : time.valueUtc = none)
    (hstatus : time.status = "missing" ∨ time.status = "ambiguous") :
    Honest tools value hint time :=
  ⟨fun _ => hstatus, fun hsome => absurd hnone hsome⟩

/-- A returned time is normalized when it is honest, and a raise normalizes nothing. -/
theorem normalizes_of_ok {time : NormalizedTime}
    (hrun : normalizeEventTime tools value hint = .ok time)
    (hhonest : Honest tools value hint time) : Normalizes tools value hint :=
  ⟨time, hrun, hhonest⟩

theorem not_normalizes_of_error {raised : TimeError}
    (hrun : normalizeEventTime tools value hint = .error raised) :
    ¬Normalizes tools value hint := by
  rintro ⟨time, htime, -⟩
  rw [hrun] at htime
  cases htime

/-- An aware time is normalized when the calendar has its instant. -/
theorem normalizes_aware_iff (htruthy : truthy value = true) {wall offset : Int}
    (hparse : parseDatetime tools (value.getD "") = .ok (some ⟨wall, some offset⟩)) :
    Normalizes tools value hint ↔ InRange (wall - offset) := by
  have hrun := normalize_aware hint htruthy hparse
  by_cases hrange : InRange (wall - offset)
  · rw [if_pos hrange] at hrun
    refine iff_of_true (normalizes_of_ok hrun ⟨fun hnone => ?_, fun _ => ⟨rfl, ?_⟩⟩) hrange
    · cases hnone
    · exact ⟨_, hparse, fun hnaive => by cases hnaive⟩
  · rw [if_neg hrange] at hrun
    exact iff_of_false (not_normalizes_of_error hrun) hrange

/-- A naive time is normalized when the name of its zone is legal and the calendar has its
instant. -/
theorem normalizes_naive_iff (htruthy : truthy value = true) {wall : Int}
    (hparse : parseDatetime tools (value.getD "") = .ok (some ⟨wall, none⟩)) :
    Normalizes tools value hint ↔
      (truthy hint = true → HintLegal tools hint ∧ ZoneInRange tools hint wall) := by
  cases hhint : truthy hint with
  | false =>
    have hrun := normalize_unhinted htruthy hparse hhint
    exact iff_of_true (normalizes_of_ok hrun (honest_unresolved rfl (Or.inl rfl)))
      fun h => absurd h Bool.false_ne_true
  | true =>
    unfold HintLegal ZoneInRange
    simp only [true_implies]
    cases hzone : tools.zoneInfo (hint.getD "") with
    | error raised =>
      have hrun := normalize_zoneless htruthy hparse hhint hzone
      by_cases hunknown : raised = .zoneInfoNotFoundError
      · rw [if_pos hunknown] at hrun
        refine iff_of_true (normalizes_of_ok hrun (honest_unresolved rfl (Or.inr rfl))) ⟨?_, ?_⟩
        · intro other hother
          obtain rfl := Except.error.inj hother
          exact hunknown
        · intro utcoffset hoffset
          cases hoffset
      · rw [if_neg hunknown] at hrun
        refine iff_of_false (not_normalizes_of_error hrun) ?_
        rintro ⟨hlegal, -⟩
        exact hunknown (hlegal raised rfl)
    | ok utcoffset =>
      have hrun := normalize_zoned htruthy hparse hhint hzone
      have hlegal (raised : TimeError) :
          (.ok utcoffset : Except TimeError (Bool → Int → Int)) = .error raised →
            raised = .zoneInfoNotFoundError := by
        intro hraised
        cases hraised
      by_cases hagree : utcoffset false (wall / 1000000) = utcoffset true (wall / 1000000)
      · rw [if_neg (not_not.mpr hagree)] at hrun
        by_cases hrange : InRange (wall - 1000000 * utcoffset false (wall / 1000000))
        · rw [if_pos hrange] at hrun
          refine iff_of_true
            (normalizes_of_ok hrun ⟨fun hnone => ?_, fun _ => ⟨rfl, ?_⟩⟩) ⟨hlegal, ?_⟩
          · cases hnone
          · exact ⟨_, hparse, fun _ => ⟨utcoffset, hzone⟩⟩
          · intro other hother _
            obtain rfl := Except.ok.inj hother
            exact hrange
        · rw [if_neg hrange] at hrun
          refine iff_of_false (not_normalizes_of_error hrun) ?_
          rintro ⟨-, hreadable⟩
          exact hrange (hreadable utcoffset rfl hagree)
      · rw [if_pos hagree] at hrun
        refine iff_of_true (normalizes_of_ok hrun (honest_unresolved rfl (Or.inr rfl)))
          ⟨hlegal, ?_⟩
        intro other hother hsame
        obtain rfl := Except.ok.inj hother
        exact absurd hsame hagree

end Returning

/-- The time of an event is normalized exactly when it is readable. -/
theorem normalizes_iff (value hint : Option String) :
    Normalizes tools value hint ↔ Readable tools value hint := by
  have hunread (hnone : truthy value = true → parseDatetime tools (value.getD "") = .ok none) :
      Normalizes tools value hint := by
    obtain ⟨time, htime, hutc, hstatus⟩ := normalize_unread hint hnone
    exact normalizes_of_ok htime (honest_unresolved hutc hstatus)
  unfold Readable
  cases htruthy : truthy value with
  | false =>
    refine iff_of_true (hunread fun h => ?_) fun h => absurd h Bool.false_ne_true
    rw [htruthy] at h
    cases h
  | true =>
    have hfalse := parseDatetime_raises_iff tools (value.getD "")
    simp only [true_implies]
    cases hparse : parseDatetime tools (value.getD "") with
    | error raised =>
      have hrun : normalizeEventTime tools value hint = .error raised := by
        unfold normalizeEventTime
        rw [htruthy, hparse]
        rfl
      refine iff_of_false (not_normalizes_of_error hrun) ?_
      rintro ⟨htrue, -⟩
      exact htrue (hfalse.mp ⟨raised, hparse⟩)
    | ok read =>
      have htrue : ¬FalseDate tools (value.getD "") := by
        intro hdate
        obtain ⟨raised, hraised⟩ := hfalse.mpr hdate
        rw [hparse] at hraised
        cases hraised
      simp only [Except.ok.injEq]
      cases read with
      | none =>
        refine iff_of_true (hunread fun _ => hparse) ⟨htrue, ?_⟩
        intro datetime hdatetime
        cases hdatetime
      | some datetime =>
        obtain ⟨wall, offset⟩ := datetime
        simp only [Option.some.injEq, forall_eq']
        cases offset with
        | some offset => rw [normalizes_aware_iff htruthy hparse, and_iff_right htrue]
        | none => rw [normalizes_naive_iff htruthy hparse, and_iff_right htrue]

section Zones

/-- Of all instants one alone has the wall clock in the zone. -/
def ShownOnce (zone : Lib.Zone 86400) (utc wall : Int) : Prop :=
  ∀ other, other + 1000000 * zone.offsetAt (other / 1000000) = wall ↔ other = utc

/-- The naive time is normalized to the one instant that has it in the zone of the hint, and is
called ambiguous when there is no such instant. -/
def SettlesZoned (value hint : Option String) (zone : Lib.Zone 86400) (wall : Int) : Prop :=
  (∀ utc, (∃ time, normalizeEventTime tools value hint = .ok time ∧ time.valueUtc = some utc) ↔
      ShownOnce zone utc wall) ∧
    ((¬∃ utc, ShownOnce zone utc wall) →
      ∃ time, normalizeEventTime tools value hint = .ok time ∧ time.status = "ambiguous" ∧
        time.valueUtc = none)

/-- In every zone of finitely many transitions a naive time is settled by the instants that have
it, exactly when the one instant, if there is one alone, is in the calendar. -/
theorem zoned_time_settled_iff {value hint : Option String} (htruthy : truthy value = true)
    {wall : Int} (hparse : parseDatetime tools (value.getD "") = .ok (some ⟨wall, none⟩))
    (hhint : truthy hint = true) {zone : Lib.Zone 86400}
    (hzone : tools.zoneInfo (hint.getD "") = .ok zone.utcoffset) :
    SettlesZoned tools value hint zone wall ↔
      ∀ utc, ShownOnce zone utc wall → InRange utc := by
  have hrun := normalize_zoned htruthy hparse hhint hzone
  have hunit : (0 : Int) < 1000000 := by decide
  have honce := zone.fractions_agree_iff hunit wall
  unfold SettlesZoned
  rw [hrun]
  by_cases hagree : zone.utcoffset false (wall / 1000000) = zone.utcoffset true (wall / 1000000)
  · obtain ⟨instant, hinstant⟩ := honce.mp hagree
    have hinstant : ShownOnce zone instant wall := hinstant
    have hvalue := zone.shownOnce_fractions_eq hunit hinstant
    have hsame (utc : Int) : ShownOnce zone utc wall ↔ utc = instant := by
      constructor
      · intro hutc
        exact (hinstant utc).mp ((hutc utc).mpr rfl)
      · rintro rfl
        exact hinstant
    simp only [hsame]
    rw [if_neg (not_not.mpr hagree), ← hvalue]
    by_cases hrange : InRange instant
    · rw [if_pos hrange]
      refine iff_of_true ⟨?_, ?_⟩ ?_
      · intro utc
        constructor
        · rintro ⟨time, htime, hutc⟩
          obtain rfl := Except.ok.inj htime
          exact (Option.some.inj hutc).symm
        · rintro rfl
          exact ⟨_, rfl, rfl⟩
      · intro hnone
        exact absurd ⟨instant, rfl⟩ hnone
      · rintro utc rfl
        exact hrange
    · rw [if_neg hrange]
      refine iff_of_false ?_ fun h => hrange (h instant rfl)
      rintro ⟨hall, -⟩
      obtain ⟨time, htime, -⟩ := (hall instant).mpr rfl
      cases htime
  · have hnone (utc : Int) : ¬ShownOnce zone utc wall := fun hutc =>
      hagree (honce.mpr ⟨utc, hutc⟩)
    rw [if_pos hagree]
    refine iff_of_true ⟨?_, ?_⟩ fun utc hutc => absurd hutc (hnone utc)
    · intro utc
      refine iff_of_false ?_ (hnone utc)
      rintro ⟨time, htime, hutc⟩
      obtain rfl := Except.ok.inj htime
      cases hutc
    · intro _
      exact ⟨_, rfl, rfl, rfl⟩

end Zones

section Edges

/-- A zone one hour ahead, without transitions. -/
def hourAhead : Lib.Zone 86400 where
  first := 3600
  transitions := []
  first_within := by decide
  offsets_within := by simp
  spaced := List.Pairwise.nil

/-- A zone that goes from one hour ahead to two on the last of March 2024, at one o'clock. -/
def springZone : Lib.Zone 86400 where
  first := 3600
  transitions := [(63847443600, 7200)]
  first_within := by decide
  offsets_within := by simp
  spaced := by simp

/-- The library as it reads the texts below: no ISO text is among them, and two zones. -/
def edgeTools : TimeTools where
  digit := id
  digit_ascii _ _ := rfl
  datetimeFromIso _ := none
  dateFromIso _ := none
  zoneInfo key :=
    if key = "Etc/GMT-1" then .ok hourAhead.utcoffset
    else if key = "Europe/Berlin" then .ok springZone.utcoffset
    else if key.toList.head? = some '/' then .error .valueError
    else .error .zoneInfoNotFoundError

/-- Month thirteen, the first hour of year 1 in a zone ahead, and an absolute path for a zone:
none is called missing or ambiguous. -/
theorem edge_times_raise :
    normalizeEventTime edgeTools (some "20241301") (some "Etc/GMT-1") = .error .valueError ∧
    normalizeEventTime edgeTools (some "00010101T000000") (some "Etc/GMT-1") =
      .error .overflowError ∧
    normalizeEventTime edgeTools (some "20240101") (some "/etc/passwd") = .error .valueError ∧
    ¬Normalizes edgeTools (some "20241301") (some "Etc/GMT-1") := by
  have hmonth : normalizeEventTime edgeTools (some "20241301") (some "Etc/GMT-1") =
      .error .valueError := by decide +kernel
  refine ⟨hmonth, by decide +kernel, by decide +kernel, ?_⟩
  exact not_normalizes_of_error hmonth

/-- The first of January is settled in the zone with a gap in March. -/
theorem january_settled : SettlesZoned edgeTools (some "20240101") (some "Europe/Berlin")
    springZone 63839664000000000 := by
  have hparse : parseDatetime edgeTools ((some "20240101").getD "") =
      .ok (some ⟨63839664000000000, none⟩) := by decide +kernel
  have hhint : truthy (some "Europe/Berlin") = true := by decide +kernel
  have hzone : edgeTools.zoneInfo ((some "Europe/Berlin").getD "") =
      .ok springZone.utcoffset := rfl
  apply (zoned_time_settled_iff edgeTools (by decide +kernel) hparse hhint hzone).mpr
  intro utc hutc
  have hshown := (hutc (63839664000000000 - 3600000000)).mp (by decide +kernel)
  rw [← hshown]
  decide +kernel

/-- One instant has the first midnight of year 1 in a zone ahead, and the time is neither settled
nor called ambiguous. -/
theorem first_midnight_raises :
    ShownOnce hourAhead (-3600000000) 0 ∧
    normalizeEventTime edgeTools (some "00010101T000000") (some "Etc/GMT-1") =
      .error .overflowError ∧
    ¬SettlesZoned edgeTools (some "00010101T000000") (some "Etc/GMT-1") hourAhead 0 := by
  have hraised : normalizeEventTime edgeTools (some "00010101T000000") (some "Etc/GMT-1") =
      .error .overflowError := by decide +kernel
  have honce : ShownOnce hourAhead (-3600000000) 0 := by
    intro other
    show other + 1000000 * 3600 = 0 ↔ _
    omega
  refine ⟨honce, hraised, ?_⟩
  rintro ⟨hall, -⟩
  obtain ⟨time, htime, -⟩ := (hall (-3600000000)).mpr honce
  rw [hraised] at htime
  cases htime

end Edges

end GhostRecon.Events.Times
