import GhostRecon.Sources.Ics

/-!
Components inside an event. The reader knows no component but the event, so the lines of an alarm
are lines of its event: they set the keys of the event, and the lines around the alarm leave the
keys "BEGIN" and "END" in it. An event is read as it is without its alarms exactly when it has
none.
-/

namespace GhostRecon

open Lib (Dict)
open Lib.Dict (mem_keys_set)

/-- A character of a name. -/
def isTokenChar (c : Char) : Bool :=
  c.isAlphanum || c == '-'

/-- A property of a calendar, with the folds of its line: a name and what follows it from the
first separator on. A component begins and ends with other lines. -/
structure PropertyLine where
  name : List Char
  rest : List Char
  folds : List Nat := []
  name_nonempty : name ≠ []
  name_token : ∀ c ∈ name, isTokenChar c = true
  name_other : String.ofList (name.map Char.toUpper) ≠ "BEGIN" ∧
    String.ofList (name.map Char.toUpper) ≠ "END"
  rest_start : rest.head? = some ':' ∨ rest.head? = some ';'
  rest_colon : ':' ∈ rest
  rest_unbroken : ∀ c ∈ rest, isLineEnd c = false

/-- The name of a component that is no event. -/
structure ComponentName where
  text : List Char
  nonempty : text ≠ []
  token : ∀ c ∈ text, isTokenChar c = true
  other : text ≠ "VEVENT".toList

/-- A property, or a component with its own properties and components. -/
inductive IcsEntry where
  | property (line : PropertyLine)
  | component (name : ComponentName) (beginFolds : List Nat) (entries : List IcsEntry)
      (endFolds : List Nat)

mutual

/-- The content lines of an entry, with their folds. -/
def IcsEntry.lines : IcsEntry → List (List Nat × List Char)
  | .property line => [(line.folds, line.name ++ line.rest)]
  | .component name beginFolds entries endFolds =>
    (beginFolds, "BEGIN".toList ++ ':' :: name.text) :: IcsEntry.allLines entries ++
      [(endFolds, "END".toList ++ ':' :: name.text)]

def IcsEntry.allLines : List IcsEntry → List (List Nat × List Char)
  | [] => []
  | entry :: entries => entry.lines ++ IcsEntry.allLines entries

end

def IcsEntry.isProperty : IcsEntry → Bool
  | .property _ => true
  | .component .. => false

/-- An event with its properties and components in any order. -/
structure NestedEvent where
  beginFolds : List Nat := []
  entries : List IcsEntry
  endFolds : List Nat := []

/-- The event with its nested components removed. -/
def NestedEvent.flat (event : NestedEvent) : NestedEvent :=
  { event with entries := event.entries.filter IcsEntry.isProperty }

/-- A part of a calendar: an event, or anything else that may stand beside one. -/
inductive CalendarPart where
  | event (nested : NestedEvent)
  | other (entry : IcsEntry)

def NestedEvent.lines (event : NestedEvent) : List (List Nat × List Char) :=
  (event.beginFolds, "BEGIN:VEVENT".toList) :: IcsEntry.allLines event.entries ++
    [(event.endFolds, "END:VEVENT".toList)]

def CalendarPart.lines : CalendarPart → List (List Nat × List Char)
  | .event nested => nested.lines
  | .other entry => entry.lines

/-- The text of a calendar. -/
def nestedText (parts : List CalendarPart) : String :=
  calendarOf (parts.flatMap CalendarPart.lines)

section Tokens

theorem isTokenChar_bounds {c : Char} (hc : isTokenChar c = true) :
    (48 ≤ c.toNat ∧ c.toNat ≤ 57) ∨ (65 ≤ c.toNat ∧ c.toNat ≤ 90) ∨
      (97 ≤ c.toNat ∧ c.toNat ≤ 122) ∨ c.toNat = 45 := by
  simp only [isTokenChar, Char.isAlphanum, Char.isAlpha, Char.isUpper, Char.isLower, Char.isDigit,
    Bool.or_eq_true, Bool.and_eq_true, decide_eq_true_eq, beq_iff_eq, ge_iff_le,
    UInt32.le_iff_toNat_le] at hc
  rcases hc with ((hc | hc) | hc) | rfl
  · exact Or.inr (Or.inl hc)
  · exact Or.inr (Or.inr (Or.inl hc))
  · exact Or.inl hc
  · exact Or.inr (Or.inr (Or.inr rfl))

/-- A name has no white space and no separator. -/
theorem isTokenChar_plain {c : Char} (hc : isTokenChar c = true) :
    isPySpace c = false ∧ c ≠ ':' ∧ c ≠ ';' := by
  have hcases := isTokenChar_bounds hc
  refine ⟨?_, ?_, ?_⟩
  · cases hspace : isPySpace c with
    | false => rfl
    | true =>
      simp only [isPySpace, decide_eq_true_eq, Char.le_def, UInt32.le_iff_toNat_le,
        List.mem_cons, List.not_mem_nil, or_false] at hspace
      have hval : c.val.toNat = c.toNat := rfl
      rcases hspace with ⟨-, h⟩ | ⟨-, h⟩ | (rfl | rfl | rfl | rfl | rfl | rfl | rfl | rfl) | ⟨h, -⟩
      · simp at h
        omega
      · simp at h
        omega
      all_goals first | (simp at hcases) | (simp at h; omega)
  · rintro rfl
    revert hcases
    decide
  · rintro rfl
    revert hcases
    decide

end Tokens

section Lines

/-- A line of an event: it stays one line, has a colon, and is none of the two lines around an
event. -/
structure BodyLine (tools : IcsTools) (line : List Nat × List Char) : Prop where
  unbroken : ∀ c ∈ line.2, isLineEnd c = false
  fresh : isContinuation line.2 = false
  colon : ':' ∈ unfolded line.1 line.2
  notBegin : unfolded line.1 line.2 ≠ "BEGIN:VEVENT".toList
  notEnd : unfolded line.1 line.2 ≠ "END:VEVENT".toList

variable (tools : IcsTools)

theorem token_upper {name : List Char} (hname : ∀ c ∈ name, isTokenChar c = true) :
    tools.upper (String.ofList name) = String.ofList (name.map Char.toUpper) := by
  rw [tools.upper_ascii, String.toList_ofList]
  intro c hc
  rw [String.toList_ofList] at hc
  have := isTokenChar_bounds (hname c hc)
  omega

theorem PropertyLine.key (line : PropertyLine) :
    icsKey tools (unfolded line.folds (line.name ++ line.rest)) =
      String.ofList (line.name.map Char.toUpper) := by
  rw [unfolded_key line.name_nonempty (fun c hc => isTokenChar_plain (line.name_token c hc)) tools
    line.rest_start, token_upper tools line.name_token]

theorem PropertyLine.bodyLine (line : PropertyLine) :
    BodyLine tools (line.folds, line.name ++ line.rest) := by
  have hplain : ∀ c ∈ line.name, isPySpace c = false ∧ c ≠ ':' ∧ c ≠ ';' :=
    fun c hc => isTokenChar_plain (line.name_token c hc)
  have hwords : ∀ c ∈ line.name, isPySpace c = false := fun c hc => (hplain c hc).1
  obtain ⟨hbegin, hend⟩ := icsKey_other tools (line.key tools ▸ line.name_other.1)
    (line.key tools ▸ line.name_other.2)
  refine ⟨?_, word_new hwords line.name_nonempty _, ?_, hbegin, hend⟩
  · intro c hc
    exact (List.mem_append.mp hc).elim (word_unbroken hwords c) (line.rest_unbroken c)
  · exact unfolded_colon line.name_nonempty hplain line.rest_colon line.folds

/-- A line that begins or ends a component is one word, with the key before the colon. -/
theorem ComponentName.line (name : ComponentName) {mark : String} (hne : mark.toList ≠ [])
    (hmark : ∀ c ∈ mark.toList, isTokenChar c = true) (folds : List Nat) :
    unfolded folds (mark.toList ++ ':' :: name.text) = mark.toList ++ ':' :: name.text ∧
      icsKey tools (mark.toList ++ ':' :: name.text) = tools.upper mark ∧
      (∀ c ∈ mark.toList ++ ':' :: name.text, isLineEnd c = false) ∧
      isContinuation (mark.toList ++ ':' :: name.text) = false := by
  have hmarks : ∀ c ∈ mark.toList, isPySpace c = false ∧ c ≠ ':' ∧ c ≠ ';' :=
    fun c hc => isTokenChar_plain (hmark c hc)
  have hword : ∀ c ∈ mark.toList ++ ':' :: name.text, isPySpace c = false := by
    intro c hc
    rw [List.mem_append, List.mem_cons] at hc
    rcases hc with hc | rfl | hc
    · exact (hmarks c hc).1
    · decide
    · exact (isTokenChar_plain (name.token c hc)).1
  refine ⟨unfolded_word hword folds, ?_, word_unbroken hword,
    word_new (fun c hc => (hmarks c hc).1) hne _⟩
  have hcolon : ∀ c ∈ (':' :: name.text).head?, c = ':' ∨ c = ';' :=
    fun c hc => Or.inl (Option.some.inj hc).symm
  rw [icsKey_name tools (fun c hc => (hmarks c hc).2) hcolon, String.ofList_toList]

theorem vevent_lines : "BEGIN:VEVENT".toList = "BEGIN".toList ++ ':' :: "VEVENT".toList ∧
    "END:VEVENT".toList = "END".toList ++ ':' :: "VEVENT".toList := by
  decide +kernel

theorem upper_marks : tools.upper "BEGIN" = "BEGIN" ∧ tools.upper "END" = "END" :=
  ⟨upper_plain tools (by decide +kernel) (by decide +kernel),
    upper_plain tools (by decide +kernel) (by decide +kernel)⟩

theorem ComponentName.begin_line (name : ComponentName) (folds : List Nat) :
    BodyLine tools (folds, "BEGIN".toList ++ ':' :: name.text) ∧
      icsKey tools (unfolded folds ("BEGIN".toList ++ ':' :: name.text)) = "BEGIN" := by
  have hmark : ∀ c ∈ "BEGIN".toList, isTokenChar c = true :=
    List.all_eq_true.mp (by decide +kernel : "BEGIN".toList.all isTokenChar = true)
  obtain ⟨hsame, hkey, hunbroken, hfresh⟩ := name.line tools (by decide +kernel) hmark folds
  rw [(upper_marks tools).1] at hkey
  refine ⟨⟨hunbroken, hfresh, ?_, ?_, ?_⟩, by rw [hsame, hkey]⟩
  · rw [hsame]
    exact List.mem_append_right _ List.mem_cons_self
  · rw [hsame, vevent_lines.1]
    exact fun h => name.other (List.cons.inj (List.append_cancel_left h)).2
  · rw [hsame]
    intro h
    rw [h, icsKey_end] at hkey
    exact absurd hkey (by decide +kernel)

theorem ComponentName.end_line (name : ComponentName) (folds : List Nat) :
    BodyLine tools (folds, "END".toList ++ ':' :: name.text) := by
  have hmark : ∀ c ∈ "END".toList, isTokenChar c = true :=
    List.all_eq_true.mp (by decide +kernel : "END".toList.all isTokenChar = true)
  obtain ⟨hsame, hkey, hunbroken, hfresh⟩ := name.line tools (by decide +kernel) hmark folds
  rw [(upper_marks tools).2] at hkey
  refine ⟨hunbroken, hfresh, ?_, ?_, ?_⟩
  · rw [hsame]
    exact List.mem_append_right _ List.mem_cons_self
  · rw [hsame]
    intro h
    rw [h, icsKey_begin] at hkey
    exact absurd hkey (by decide +kernel)
  · rw [hsame, vevent_lines.2]
    exact fun h => name.other (List.cons.inj (List.append_cancel_left h)).2

mutual

/-- Every line of an entry is a line of its event. -/
theorem IcsEntry.lines_body (entry : IcsEntry) : ∀ line ∈ entry.lines, BodyLine tools line := by
  cases entry with
  | property line =>
    intro found hfound
    rw [IcsEntry.lines, List.mem_singleton] at hfound
    exact hfound ▸ line.bodyLine tools
  | component name beginFolds entries endFolds =>
    intro found hfound
    rw [IcsEntry.lines, List.cons_append, List.mem_cons, List.mem_append,
      List.mem_singleton] at hfound
    rcases hfound with rfl | hfound | rfl
    · exact (name.begin_line tools beginFolds).1
    · exact IcsEntry.allLines_body entries found hfound
    · exact name.end_line tools endFolds

theorem IcsEntry.allLines_body (entries : List IcsEntry) :
    ∀ line ∈ IcsEntry.allLines entries, BodyLine tools line := by
  cases entries with
  | nil => simp [IcsEntry.allLines]
  | cons entry entries =>
    intro found hfound
    rw [IcsEntry.allLines, List.mem_append] at hfound
    exact hfound.elim (IcsEntry.lines_body entry found) (IcsEntry.allLines_body entries found)

end

/-- The lines of an entry are among the lines of its list. -/
theorem IcsEntry.mem_allLines {entries : List IcsEntry} {line : List Nat × List Char} :
    line ∈ IcsEntry.allLines entries ↔ ∃ entry ∈ entries, line ∈ entry.lines := by
  induction entries with
  | nil => simp [IcsEntry.allLines]
  | cons entry entries ih => simp [IcsEntry.allLines, ih]

end Lines

section Runs

variable (tools : IcsTools)

/-- What a line sets in its event. -/
def setLine (event : Dict String String) (line : List Nat × List Char) : Dict String String :=
  event.set (icsKey tools (unfolded line.1 line.2)) (icsValue (unfolded line.1 line.2))

/-- What is read of an event: the entries its lines set, those of its components among them. -/
def NestedEvent.read (event : NestedEvent) : Dict String String :=
  (IcsEntry.allLines event.entries).foldl (setLine tools) []

def CalendarPart.read : CalendarPart → List (Dict String String)
  | .event nested => [nested.read tools]
  | .other _ => []

/-- The keys are those of the lines. -/
theorem mem_keys_setLine (lines : List (List Nat × List Char)) (event : Dict String String)
    (key : String) : key ∈ (lines.foldl (setLine tools) event).keys ↔
      key ∈ event.keys ∨ ∃ line ∈ lines, icsKey tools (unfolded line.1 line.2) = key := by
  induction lines generalizing event with
  | nil => simp
  | cons line lines ih =>
    rw [List.foldl_cons, ih, setLine, mem_keys_set, or_assoc]
    apply or_congr_right
    constructor
    · rintro (rfl | ⟨other, hother, hkey⟩)
      · exact ⟨line, List.mem_cons_self, rfl⟩
      · exact ⟨other, List.mem_cons_of_mem _ hother, hkey⟩
    · rintro ⟨other, hother, hkey⟩
      rcases List.mem_cons.mp hother with rfl | hother
      · exact Or.inl hkey.symm
      · exact Or.inr ⟨other, hother, hkey⟩

/-- The lines of an event set their keys. -/
theorem icsStep_body {lines : List (List Nat × List Char)}
    (hlines : ∀ line ∈ lines, BodyLine tools line) (events : List (Dict String String))
    (event : Dict String String) :
    (lines.map fun line => unfolded line.1 line.2).foldl (icsStep tools)
      { events, current := some event } =
        { events, current := some (lines.foldl (setLine tools) event) } := by
  induction lines generalizing event with
  | nil => rfl
  | cons line lines ih =>
    have hbody := hlines line List.mem_cons_self
    rw [List.map_cons, List.foldl_cons, icsStep_set tools hbody.notBegin hbody.notEnd hbody.colon,
      ih fun other hother => hlines other (List.mem_cons_of_mem _ hother)]
    rfl

/-- Outside an event such lines are passed over. -/
theorem icsStep_beside {lines : List (List Nat × List Char)}
    (hlines : ∀ line ∈ lines, BodyLine tools line) (events : List (Dict String String)) :
    (lines.map fun line => unfolded line.1 line.2).foldl (icsStep tools)
      { events, current := none } = { events, current := none } := by
  induction lines with
  | nil => rfl
  | cons line lines ih =>
    have hbody := hlines line List.mem_cons_self
    rw [List.map_cons, List.foldl_cons, icsStep_outside tools hbody.notBegin hbody.notEnd,
      ih fun other hother => hlines other (List.mem_cons_of_mem _ hother)]

/-- The lines of a part add its event, if it is one. -/
theorem icsStep_part (part : CalendarPart) (events : List (Dict String String)) :
    (part.lines.map fun line => unfolded line.1 line.2).foldl (icsStep tools)
      { events, current := none } = { events := events ++ part.read tools, current := none } := by
  cases part with
  | event nested =>
    have hlines : (nested.lines.map fun line => unfolded line.1 line.2) =
        "BEGIN:VEVENT".toList :: ((IcsEntry.allLines nested.entries).map
          (fun line => unfolded line.1 line.2) ++ ["END:VEVENT".toList]) := by
      have hbegin : unfolded nested.beginFolds "BEGIN:VEVENT".toList = "BEGIN:VEVENT".toList :=
        componentLine_unfolded (by simp [componentLines]) _
      have hend : unfolded nested.endFolds "END:VEVENT".toList = "END:VEVENT".toList :=
        componentLine_unfolded (by simp [componentLines]) _
      rw [NestedEvent.lines, List.cons_append, List.map_cons, List.map_append, List.map_cons,
        List.map_nil]
      dsimp only
      rw [hbegin, hend]
    show (nested.lines.map fun line => unfolded line.1 line.2).foldl _ _ = _
    rw [hlines, List.foldl_cons, icsStep_begin, List.foldl_append,
      icsStep_body tools (IcsEntry.allLines_body tools nested.entries), List.foldl_cons,
      icsStep_end]
    rfl
  | other entry =>
    show (entry.lines.map fun line => unfolded line.1 line.2).foldl _ _ = _
    rw [icsStep_beside tools (IcsEntry.lines_body tools entry), CalendarPart.read,
      List.append_nil]

/-- A calendar is read part by part. -/
theorem icsEvents_parts (parts : List CalendarPart) :
    icsEvents tools (nestedText parts) = parts.flatMap (CalendarPart.read tools) := by
  have hlines : ∀ line ∈ parts.flatMap CalendarPart.lines,
      (∀ c ∈ line.2, isLineEnd c = false) ∧ isContinuation line.2 = false := by
    intro line hline
    obtain ⟨part, -, hline⟩ := List.mem_flatMap.mp hline
    cases part with
    | event nested =>
      have hline : line ∈ nested.lines := hline
      rw [NestedEvent.lines, List.cons_append, List.mem_cons, List.mem_append,
        List.mem_singleton] at hline
      rcases hline with rfl | hline | rfl
      · exact componentLine_new (by simp [componentLines])
      · have hbody := IcsEntry.allLines_body tools nested.entries line hline
        exact ⟨hbody.unbroken, hbody.fresh⟩
      · exact componentLine_new (by simp [componentLines])
    | other entry =>
      have hbody := IcsEntry.lines_body tools entry line hline
      exact ⟨hbody.unbroken, hbody.fresh⟩
  have hrun : ∀ (parts : List CalendarPart) (before : List (Dict String String)),
      ((parts.flatMap CalendarPart.lines).map fun line => unfolded line.1 line.2).foldl
        (icsStep tools) { events := before, current := none } =
          { events := before ++ parts.flatMap (CalendarPart.read tools), current := none } := by
    intro parts
    induction parts with
    | nil => intro before; simp
    | cons part parts ih =>
      intro before
      rw [List.flatMap_cons, List.map_append, List.foldl_append, icsStep_part tools, ih,
        List.flatMap_cons, List.append_assoc]
  exact icsEvents_calendarOf tools hlines (hrun parts [])

/-- An event with a component has the key its first line leaves. -/
theorem NestedEvent.begin_key {event : NestedEvent} {entry : IcsEntry}
    (hentry : entry ∈ event.entries) (hnested : entry.isProperty = false) :
    "BEGIN" ∈ (event.read tools).keys := by
  rw [NestedEvent.read, mem_keys_setLine]
  cases entry with
  | property line => exact absurd hnested (by simp [IcsEntry.isProperty])
  | component name beginFolds entries endFolds =>
    refine Or.inr ⟨(beginFolds, "BEGIN".toList ++ ':' :: name.text), ?_,
      (name.begin_line tools beginFolds).2⟩
    rw [IcsEntry.mem_allLines]
    exact ⟨_, hentry, by rw [IcsEntry.lines]; exact List.mem_cons_self⟩

/-- An event without components does not. -/
theorem NestedEvent.flat_key (event : NestedEvent) : "BEGIN" ∉ (event.flat.read tools).keys := by
  rw [NestedEvent.read, mem_keys_setLine]
  rintro (hnone | ⟨line, hline, hkey⟩)
  · exact absurd hnone List.not_mem_nil
  · obtain ⟨entry, hentry, hline⟩ := IcsEntry.mem_allLines.mp hline
    have hproperty := (List.mem_filter.mp hentry).2
    cases entry with
    | property found =>
      rw [IcsEntry.lines, List.mem_singleton] at hline
      rw [hline, found.key] at hkey
      exact found.name_other.1 hkey
    | component name beginFolds entries endFolds =>
      exact absurd hproperty (by simp [IcsEntry.isProperty])

end Runs

/-- An event of a calendar is read as it is without its nested components exactly when it has
none. -/
theorem nested_ignored_iff (tools : IcsTools) (calendarUrl : String) (language : Option String)
    (before after : List CalendarPart) (event : NestedEvent) :
    parseIcsEvents tools (nestedText (before ++ .event event :: after)) calendarUrl language =
        parseIcsEvents tools (nestedText (before ++ .event event.flat :: after)) calendarUrl
          language ↔
      ∀ entry ∈ event.entries, entry.isProperty = true := by
  constructor
  · intro hsame entry hentry
    have hevents := congrArg (List.map (·.icsEvent)) hsame
    rw [parseIcsEvents_events, parseIcsEvents_events, icsEvents_parts, icsEvents_parts,
      List.flatMap_append, List.flatMap_append, List.flatMap_cons, List.flatMap_cons] at hevents
    have hread : event.read tools = event.flat.read tools :=
      (List.cons.inj (List.append_cancel_left hevents)).1
    cases hnested : entry.isProperty with
    | true => rfl
    | false =>
      have hkey := event.begin_key tools hentry hnested
      rw [hread] at hkey
      exact absurd hkey (event.flat_key tools)
  · intro hproperties
    have hflat : event.flat = event := by
      rw [NestedEvent.flat, List.filter_eq_self.mpr hproperties]
    rw [hflat]

def uidLine (rest : List Char) (hrest : rest.head? = some ':' ∧ rest.all (!isLineEnd ·) = true) :
    PropertyLine where
  name := "UID".toList
  rest
  name_nonempty := by decide +kernel
  name_token := List.all_eq_true.mp (by decide +kernel : "UID".toList.all isTokenChar = true)
  name_other := by decide +kernel
  rest_start := Or.inl hrest.1
  rest_colon := List.mem_of_mem_head? hrest.1
  rest_unbroken c hc := by simpa using List.all_eq_true.mp hrest.2 c hc

def alarmName : ComponentName where
  text := "VALARM".toList
  nonempty := by decide +kernel
  token := List.all_eq_true.mp (by decide +kernel : "VALARM".toList.all isTokenChar = true)
  other := by decide +kernel

/-- An event with an alarm that has a UID of its own. -/
def alarmEvent : NestedEvent where
  entries := [.property (uidLine ":summit-1".toList (by decide +kernel)),
    .component alarmName [] [.property (uidLine ":alarm-1".toList (by decide +kernel))] []]

/-- The event is known under the UID of its alarm. -/
theorem alarm_names_event :
    parseIcsEvents plainIcsTools (nestedText [.event alarmEvent]) "https://events.example" none ≠
      parseIcsEvents plainIcsTools (nestedText [.event alarmEvent.flat]) "https://events.example"
        none := by
  have halarm : (parseIcsEvents plainIcsTools (nestedText [.event alarmEvent])
      "https://events.example" none).map (·.externalId) = [some "alarm-1"] := by decide +kernel
  have hflat : (parseIcsEvents plainIcsTools (nestedText [.event alarmEvent.flat])
      "https://events.example" none).map (·.externalId) = [some "summit-1"] := by decide +kernel
  intro hsame
  rw [hsame, hflat] at halarm
  revert halarm
  decide +kernel

end GhostRecon
