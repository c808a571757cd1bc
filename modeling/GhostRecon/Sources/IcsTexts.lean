import GhostRecon.Sources.Ics

/-!
Text values of a calendar, written as the calendar format asks for and read back. A backslash, a
semicolon, a comma and a newline are written with a backslash, and lines are folded anywhere. The
reader takes no escape back, strips a line before it joins the next one, ends a line at more
characters than the format does, and cuts a line at its first colon. It gives back the values for
which none of this is seen.
-/

namespace GhostRecon

open Lib (Dict closeUp countP_stripEnds countP_closeUp closeUp_zero closeUp_before closeUp_after
  mem_closeUp mem_parts stripEnds_closeUp_iff)

/-- The properties with text values that are read. -/
inductive TextName where
  | uid | summary | description | location
  deriving DecidableEq, Repr

def TextName.text : TextName → String
  | .uid => "UID"
  | .summary => "SUMMARY"
  | .description => "DESCRIPTION"
  | .location => "LOCATION"

/-- A character that a text value writes with a backslash. -/
def isEscaped (c : Char) : Bool :=
  c == '\\' || c == ';' || c == ',' || c == '\n'

/-- The way a character of a text value is written. -/
def escapeChar (c : Char) : List Char :=
  if c = '\n' then ['\\', 'n'] else if isEscaped c then ['\\', c] else [c]

def escapeText (value : List Char) : List Char :=
  value.flatMap escapeChar

/-- A property with its parameters, each after a semicolon, and the folds of its line. -/
structure TextProperty where
  name : TextName
  params : List Char := []
  params_start : params = [] ∨ params.head? = some ';'
  value : List Char
  folds : List Nat := []

def TextProperty.line (property : TextProperty) : List Char :=
  property.name.text.toList ++ property.params ++ ':' :: escapeText property.value

/-- An event with at most one property of each name. -/
structure TextEvent where
  beginFolds : List Nat := []
  properties : List TextProperty
  distinct : (properties.map (·.name)).Nodup
  endFolds : List Nat := []

def TextEvent.lines (event : TextEvent) : List (List Nat × List Char) :=
  (event.beginFolds, "BEGIN:VEVENT".toList) ::
    event.properties.map (fun property => (property.folds, property.line)) ++
      [(event.endFolds, "END:VEVENT".toList)]

/-- The text of a calendar. -/
def calendarText (events : List TextEvent) : String :=
  calendarOf (events.flatMap TextEvent.lines)

/-- The values of an event, without white space at their ends. -/
def TextEvent.values (event : TextEvent) : Dict String String :=
  event.properties.map fun property =>
    (property.name.text, String.ofList (stripLine property.value))

/-- The reader gives back the events. -/
def ReadsBack (tools : IcsTools) (calendarUrl : String) (language : Option String)
    (events : List TextEvent) : Prop :=
  (parseIcsEvents tools (calendarText events) calendarUrl language).map (·.icsEvent) =
    events.map TextEvent.values

/-- The number of characters of the value on the first line of the property. -/
def TextProperty.foldedAt (property : TextProperty) : Nat :=
  match property.folds with
  | [] => property.value.length
  | n :: _ => n - (property.name.text.length + property.params.length + 1)

/-- The property is not touched: nothing in its value is escaped or ends a line, no parameter
has a colon, and its first fold does not follow white space inside the value. -/
structure TextProperty.Kept (property : TextProperty) : Prop where
  value : ∀ c ∈ property.value, isEscaped c = false ∧ isLineEnd c = false
  params : ∀ c ∈ property.params, c ≠ ':' ∧ isLineEnd c = false
  fold : (∀ c ∈ property.value.take property.foldedAt, isPySpace c = true) ∨
    (∀ c ∈ property.value.drop property.foldedAt, isPySpace c = true) ∨
      ∀ c ∈ (property.value.take property.foldedAt).getLast?, isPySpace c = false

/-- No line ends in a parameter or in the white space around the value, but for newlines in the
value. -/
structure TextProperty.Smooth (property : TextProperty) : Prop where
  params : ∀ c ∈ property.params, isLineEnd c = false
  front : ∀ c ∈ property.value.takeWhile isPySpace, c ≠ '\n' → isLineEnd c = false
  back : ∀ c ∈ property.value.rtakeWhile isPySpace, c ≠ '\n' → isLineEnd c = false

section Escapes

/-- The number of characters that are no white space. -/
def inked (text : List Char) : Nat :=
  text.countP fun c => !isPySpace c

theorem inked_escapeChar (c : Char) :
    inked [c] ≤ inked (escapeChar c) ∧ (inked [c] = inked (escapeChar c) → isEscaped c = false) ∧
      (isEscaped c = false → escapeChar c = [c]) := by
  unfold escapeChar
  by_cases hnewline : c = '\n'
  · subst hnewline
    decide
  · rw [if_neg hnewline]
    cases hescaped : isEscaped c with
    | false => simp
    | true =>
      have hslash : isPySpace '\\' = false := by decide
      simp [inked, List.countP_cons, hslash]

theorem inked_append (front back : List Char) :
    inked (front ++ back) = inked front + inked back :=
  List.countP_append

/-- Escapes add characters, so a text is as long as before only without them. -/
theorem inked_escapeText (value : List Char) :
    inked value ≤ inked (escapeText value) ∧
      (inked value = inked (escapeText value) → ∀ c ∈ value, isEscaped c = false) := by
  induction value with
  | nil => exact ⟨Nat.le_refl _, fun _ c hc => absurd hc List.not_mem_nil⟩
  | cons c value ih =>
    have hcons : inked (c :: value) = inked [c] + inked value := inked_append [c] value
    have hescape : inked (escapeText (c :: value)) =
        inked (escapeChar c) + inked (escapeText value) := by
      rw [← inked_append]
      rfl
    obtain ⟨hle, hplain, -⟩ := inked_escapeChar c
    rw [hcons, hescape]
    refine ⟨by omega, ?_⟩
    intro hsame d hd
    rcases List.mem_cons.mp hd with rfl | hd
    · exact hplain (by omega)
    · exact ih.2 (by omega) d hd

theorem escapeText_plain {value : List Char} (hvalue : ∀ c ∈ value, isEscaped c = false) :
    escapeText value = value := by
  induction value with
  | nil => rfl
  | cons c value ih =>
    have hc := (inked_escapeChar c).2.2 (hvalue c List.mem_cons_self)
    show escapeChar c ++ escapeText value = _
    rw [hc, ih fun d hd => hvalue d (List.mem_cons_of_mem _ hd)]
    rfl

/-- An escaped text ends a line where the value does, but for newlines. -/
theorem escapeText_lineEnds {value : List Char}
    (hvalue : ∀ c ∈ value, c ≠ '\n' → isLineEnd c = false) :
    ∀ c ∈ escapeText value, isLineEnd c = false := by
  intro c hc
  obtain ⟨d, hd, hc⟩ := List.mem_flatMap.mp hc
  unfold escapeChar at hc
  by_cases hnewline : d = '\n'
  · rw [if_pos hnewline] at hc
    simp only [List.mem_cons, List.not_mem_nil, or_false] at hc
    rcases hc with rfl | rfl <;> decide
  · rw [if_neg hnewline] at hc
    split at hc
    · simp only [List.mem_cons, List.not_mem_nil, or_false] at hc
      rcases hc with rfl | rfl
      · decide
      · exact hvalue c hd hnewline
    · obtain rfl := List.mem_singleton.mp hc
      exact hvalue c hd hnewline

end Escapes

section Properties

variable (tools : IcsTools) (property : TextProperty)

/-- What follows the name of a property in its line. -/
def TextProperty.rest : List Char :=
  property.params ++ ':' :: escapeText property.value

theorem TextProperty.line_eq : property.line = property.name.text.toList ++ property.rest := by
  rw [TextProperty.line, TextProperty.rest, List.append_assoc]

theorem TextName.letters (name : TextName) : name.text.toList ≠ [] ∧
    ∀ c ∈ name.text.toList, isPySpace c = false ∧ isLineEnd c = false ∧ c ≠ ':' ∧ c ≠ ';' := by
  have hall : (!name.text.toList.isEmpty && name.text.toList.all fun c =>
      !isPySpace c && !isLineEnd c && c != ':' && c != ';') = true := by
    cases name <;> decide +kernel
  simpa [List.all_eq_true, and_assoc] using hall

theorem TextName.upper (name : TextName) : tools.upper name.text = name.text := by
  apply upper_plain tools <;> cases name <;> decide +kernel

theorem TextName.text_inj {name name' : TextName} (hsame : name.text = name'.text) :
    name = name' := by
  revert hsame
  cases name <;> cases name' <;> decide +kernel

/-- What is read as the line of a property. -/
def TextProperty.read : List Char :=
  unfolded property.folds property.line

/-- Where the first line of the property ends, counted from its name. -/
def TextProperty.closedAt : Nat :=
  match property.folds with
  | [] => property.rest.length
  | n :: _ => n - property.name.text.toList.length

theorem TextProperty.read_eq : property.read =
    property.name.text.toList ++ closeUp isPySpace property.closedAt property.rest := by
  obtain ⟨hne, hletters⟩ := property.name.letters
  rw [TextProperty.read, property.line_eq]
  exact unfolded_append (fun c hc => (hletters c hc).1) hne property.folds property.rest

theorem TextProperty.read_key : icsKey tools property.read = property.name.text := by
  obtain ⟨hne, hletters⟩ := property.name.letters
  have hstart : property.rest.head? = some ':' ∨ property.rest.head? = some ';' := by
    rcases property.params_start with hnone | hstart
    · rw [TextProperty.rest, hnone]
      exact Or.inl rfl
    · rw [TextProperty.rest, List.head?_append, hstart]
      exact Or.inr rfl
  rw [TextProperty.read, property.line_eq,
    unfolded_key hne (fun c hc => ⟨(hletters c hc).1, (hletters c hc).2.2⟩) tools hstart,
    String.ofList_toList, property.name.upper]

/-- The value that is read begins after the first colon of the parameters or of the line. -/
theorem TextProperty.read_value {front back : List Char} (hfront : ∀ c ∈ front, c ≠ ':')
    (hrest : property.rest = front ++ ':' :: back) :
    icsValue property.read = String.ofList (stripLine
      (closeUp isPySpace (property.closedAt - front.length - 1) back)) := by
  have hcolon : isPySpace ':' = false := by decide
  have hname : ∀ c ∈ property.name.text.toList, c ≠ ':' :=
    fun c hc => (property.name.letters.2 c hc).2.2.1
  rw [property.read_eq, hrest]
  by_cases hbefore : property.closedAt ≤ front.length
  · have hzero : property.closedAt - front.length - 1 = 0 := by omega
    rw [closeUp_before hbefore, hzero, closeUp_zero, ← List.append_assoc]
    apply icsValue_cut
    intro c hc
    rcases List.mem_append.mp hc with h | h
    · exact hname c h
    · exact hfront c (mem_closeUp h)
  · rw [closeUp_after hcolon (Nat.lt_of_not_le hbefore), ← List.append_assoc]
    apply icsValue_cut
    intro c hc
    exact (List.mem_append.mp hc).elim (hname c) (hfront c)

theorem TextProperty.mem_colon : ':' ∈ property.read := by
  obtain ⟨hne, hletters⟩ := property.name.letters
  rw [TextProperty.read, property.line_eq]
  exact unfolded_colon hne (fun c hc => ⟨(hletters c hc).1, (hletters c hc).2.2⟩)
    (List.mem_append_right _ List.mem_cons_self) property.folds

/-- The value of a property is read back exactly when nothing in it is escaped, its parameters
have no colon and the first fold is not seen. -/
theorem TextProperty.value_kept_iff :
    icsValue property.read = String.ofList (stripLine property.value) ↔
      (∀ c ∈ property.value, isEscaped c = false) ∧ (∀ c ∈ property.params, c ≠ ':') ∧
        ((∀ c ∈ property.value.take property.foldedAt, isPySpace c = true) ∨
          (∀ c ∈ property.value.drop property.foldedAt, isPySpace c = true) ∨
            ∀ c ∈ (property.value.take property.foldedAt).getLast?, isPySpace c = false) := by
  have hstripped (text : List Char) : inked (stripLine text) = inked text := countP_stripEnds text
  have hclosed (n : Nat) (text : List Char) : inked (closeUp isPySpace n text) = inked text :=
    countP_closeUp n text
  obtain ⟨hgrows, hplain⟩ := inked_escapeText property.value
  by_cases hcolon : ':' ∈ property.params
  · obtain ⟨front, back, hparams, hfront⟩ := List.eq_append_cons_of_mem hcolon
    have hfront : ∀ c ∈ front, c ≠ ':' := fun c hc heq => hfront (heq ▸ hc)
    have hrest : property.rest =
        front ++ ':' :: (back ++ ':' :: escapeText property.value) := by
      rw [TextProperty.rest, hparams, List.append_assoc]
      rfl
    constructor
    · intro hread
      rw [property.read_value hfront hrest] at hread
      have hink := congrArg inked (String.ofList_injective hread)
      rw [hstripped, hstripped, hclosed, inked_append] at hink
      have hmore : inked (':' :: escapeText property.value) =
          1 + inked (escapeText property.value) := inked_append [':'] _
      omega
    · rintro ⟨-, hnone, -⟩
      exact absurd rfl (hnone ':' hcolon)
  · have hfront : ∀ c ∈ property.params, c ≠ ':' := fun c hc heq => hcolon (heq ▸ hc)
    rw [property.read_value hfront rfl]
    by_cases hescaped : ∀ c ∈ property.value, isEscaped c = false
    · have hat : property.closedAt - property.params.length - 1 = property.foldedAt := by
        unfold TextProperty.closedAt TextProperty.foldedAt
        cases property.folds with
        | nil =>
          show property.rest.length - _ - 1 = property.value.length
          rw [TextProperty.rest, escapeText_plain hescaped, List.length_append, List.length_cons]
          omega
        | cons n folds =>
          show n - property.name.text.toList.length - _ - 1 = n - (_ + _ + 1)
          rw [String.length_toList]
          omega
      rw [escapeText_plain hescaped, hat]
      have hclose := stripEnds_closeUp_iff (p := isPySpace) property.foldedAt property.value
      constructor
      · intro hread
        exact ⟨hescaped, hfront, hclose.mp (String.ofList_injective hread)⟩
      · rintro ⟨-, -, hfold⟩
        exact congrArg String.ofList (hclose.mpr hfold)
    · constructor
      · intro hread
        have hink := congrArg inked (String.ofList_injective hread)
        rw [hstripped, hstripped, hclosed] at hink
        exact absurd (hplain hink.symm) hescaped
      · rintro ⟨hnone, -⟩
        exact absurd hnone hescaped

end Properties

section Calendars

variable (tools : IcsTools)

/-- The values that are read of an event. -/
def TextEvent.readValues (event : TextEvent) : Dict String String :=
  event.properties.map fun property => (property.name.text, icsValue property.read)

/-- The lines of an event add its values. -/
theorem icsStep_event (event : TextEvent) (events : List (Dict String String)) :
    (event.lines.map fun (folds, line) => unfolded folds line).foldl (icsStep tools)
      { events, current := none } = { events := events ++ [event.readValues], current := none } := by
  have hbegin : unfolded event.beginFolds "BEGIN:VEVENT".toList = "BEGIN:VEVENT".toList :=
    componentLine_unfolded (by simp [componentLines]) _
  have hend : unfolded event.endFolds "END:VEVENT".toList = "END:VEVENT".toList :=
    componentLine_unfolded (by simp [componentLines]) _
  have hlines : (event.lines.map fun (folds, line) => unfolded folds line) =
      "BEGIN:VEVENT".toList :: (event.properties.map TextProperty.read ++
        ["END:VEVENT".toList]) := by
    simp only [TextEvent.lines, List.map_cons, List.map_append, List.map_nil, List.cons_append,
      List.map_map, hbegin, hend]
    rfl
  have hkeys : (event.properties.map TextProperty.read).map (icsKey tools) =
      event.properties.map (·.name.text) := by
    rw [List.map_map]
    exact List.map_congr_left fun property _ => property.read_key tools
  rw [hlines, List.foldl_cons, icsStep_begin, List.foldl_append, icsStep_properties]
  · have hvalues : (event.properties.map TextProperty.read).map
        (fun line => (icsKey tools line, icsValue line)) = event.readValues := by
      rw [List.map_map]
      exact List.map_congr_left fun property _ => by
        show (icsKey tools property.read, _) = _
        rw [property.read_key]
    rw [hvalues, List.foldl_cons, icsStep_end]
    rfl
  · intro line hline
    obtain ⟨property, -, rfl⟩ := List.mem_map.mp hline
    exact property.mem_colon
  · intro line hline
    obtain ⟨property, -, rfl⟩ := List.mem_map.mp hline
    rw [property.read_key]
    cases property.name <;> decide
  · rw [hkeys]
    have hnames : ((event.properties.map (·.name)).map TextName.text).Nodup :=
      List.Nodup.map (fun _ _ => TextName.text_inj) event.distinct
    rw [List.map_map] at hnames
    exact hnames

/-- The lines of a calendar whose content lines are unbroken give the values of its events. -/
theorem icsEvents_calendar (events : List TextEvent)
    (hunbroken : ∀ event ∈ events, ∀ property ∈ event.properties,
      ∀ c ∈ property.line, isLineEnd c = false) :
    icsEvents tools (calendarText events) = events.map TextEvent.readValues := by
  have hlines : ∀ entry ∈ events.flatMap TextEvent.lines,
      (∀ c ∈ entry.2, isLineEnd c = false) ∧ isContinuation entry.2 = false := by
    intro entry hentry
    obtain ⟨event, hevent, hentry⟩ := List.mem_flatMap.mp hentry
    rw [TextEvent.lines, List.cons_append, List.mem_cons, List.mem_append,
      List.mem_singleton] at hentry
    rcases hentry with rfl | hentry | rfl
    · exact componentLine_new (by simp [componentLines])
    · obtain ⟨property, hproperty, rfl⟩ := List.mem_map.mp hentry
      refine ⟨hunbroken event hevent property hproperty, ?_⟩
      obtain ⟨hne, hletters⟩ := property.name.letters
      show isContinuation property.line = false
      rw [property.line_eq]
      exact word_new (fun c hc => (hletters c hc).1) hne _
    · exact componentLine_new (by simp [componentLines])
  have hrun : ∀ (events : List TextEvent) (before : List (Dict String String)),
      ((events.flatMap TextEvent.lines).map fun (folds, line) => unfolded folds line).foldl
        (icsStep tools) { events := before, current := none } =
          { events := before ++ events.map TextEvent.readValues, current := none } := by
    intro events
    induction events with
    | nil => intro before; simp
    | cons event events ih =>
      intro before
      rw [List.flatMap_cons, List.map_append, List.foldl_append, icsStep_event tools, ih]
      simp
  exact icsEvents_calendarOf tools hlines (hrun events [])

end Calendars

/-- Every calendar whose properties are kept is read back, and where no line ends in a parameter
or in the white space around a value only such a calendar is. -/
theorem calendar_read_back (tools : IcsTools) (calendarUrl : String) (language : Option String)
    (events : List TextEvent) :
    ((∀ event ∈ events, ∀ property ∈ event.properties, property.Kept) →
      ReadsBack tools calendarUrl language events) ∧
    ((∀ event ∈ events, ∀ property ∈ event.properties, property.Smooth) →
      ReadsBack tools calendarUrl language events →
        ∀ event ∈ events, ∀ property ∈ event.properties, property.Kept) := by
  have hline {property : TextProperty} (hparams : ∀ c ∈ property.params, isLineEnd c = false)
      (hvalue : ∀ c ∈ property.value, c ≠ '\n' → isLineEnd c = false) :
      ∀ c ∈ property.line, isLineEnd c = false := by
    intro c hc
    rw [TextProperty.line, List.mem_append, List.mem_append, List.mem_cons] at hc
    rcases hc with (hc | hc) | rfl | hc
    · exact (property.name.letters.2 c hc).2.1
    · exact hparams c hc
    · decide
    · exact escapeText_lineEnds hvalue c hc
  unfold ReadsBack
  rw [parseIcsEvents_events]
  constructor
  · intro hkept
    rw [icsEvents_calendar tools events fun event hevent property hproperty =>
      hline (fun c hc => ((hkept event hevent property hproperty).params c hc).2)
        fun c hc _ => ((hkept event hevent property hproperty).value c hc).2]
    refine List.map_congr_left fun event hevent => List.map_congr_left fun property hproperty => ?_
    obtain ⟨hvalue, hparams, hfold⟩ := hkept event hevent property hproperty
    rw [property.value_kept_iff.mpr ⟨fun c hc => (hvalue c hc).1, fun c hc => (hparams c hc).1,
      hfold⟩]
  · intro hsmooth hread
    have hvalue : ∀ event ∈ events, ∀ property ∈ event.properties,
        ∀ c ∈ property.value, c ≠ '\n' → isLineEnd c = false := by
      intro event hevent property hproperty c hc hnewline
      obtain ⟨-, hfront, hback⟩ := hsmooth event hevent property hproperty
      rcases mem_parts (p := isPySpace) hc with h | h | h
      · exact hfront c h hnewline
      · have hmem : event.values ∈ icsEvents tools (calendarText events) := by
          rw [hread]
          exact List.mem_map_of_mem hevent
        refine icsEvents_unbroken tools _ event.values hmem
          (property.name.text, String.ofList (stripLine property.value))
          (List.mem_map_of_mem hproperty) c ?_
        rw [String.toList_ofList]
        exact h
      · exact hback c h hnewline
    rw [icsEvents_calendar tools events fun event hevent property hproperty =>
      hline (hsmooth event hevent property hproperty).params
        (hvalue event hevent property hproperty)] at hread
    intro event hevent property hproperty
    have hevents := List.map_inj_left.mp hread event hevent
    have hentries := List.map_inj_left.mp hevents property hproperty
    obtain ⟨hplain, hcolon, hfold⟩ := property.value_kept_iff.mp (Prod.mk.inj hentries).2
    refine ⟨?_, ?_, hfold⟩
    · intro c hc
      refine ⟨hplain c hc, hvalue event hevent property hproperty c hc ?_⟩
      rintro rfl
      exact absurd (hplain '\n' hc) (by decide)
    · intro c hc
      exact ⟨hcolon c hc, (hsmooth event hevent property hproperty).params c hc⟩

/-- An event whose location has a comma. -/
def venueEvent : TextEvent where
  properties := [
    { name := .uid, params_start := Or.inl rfl, value := "summit-1".toList },
    { name := .location, params_start := Or.inl rfl, value := "Berlin, Germany".toList }]
  distinct := by decide

/-- The comma keeps the backslash it was written with. -/
theorem venue_keeps_backslash :
    ¬ReadsBack plainIcsTools "https://events.example/summit.ics" none [venueEvent] := by
  have hread : (icsEvents plainIcsTools (calendarText [venueEvent])).map (·.lookup "LOCATION") =
      [some "Berlin\\, Germany"] := by decide +kernel
  intro hback
  rw [ReadsBack, parseIcsEvents_events] at hback
  rw [hback] at hread
  revert hread
  decide +kernel

end GhostRecon
