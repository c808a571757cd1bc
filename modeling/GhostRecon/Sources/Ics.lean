import GhostRecon.Common.Text
import GhostRecon.Lib.Dict
import GhostRecon.Lib.Stripping
import GhostRecon.Sources.Registry

/-!
Calendars. A text is split into lines, continuation lines are joined to the line before, and a
machine over the lines collects the properties between the first and the last line of an event.
It knows no other component and keeps of a property its name, in capital letters, and its value.
-/

namespace GhostRecon

open Lib (Dict stripEnds mem_stripEnds closeUp closeUp_zero closeUp_cons
  mem_closeUp_of_kept dropWhile_self rdropWhile_self
  dropWhile_append_word rdropWhile_append_word)

/-- The functions of the host: `str.upper`, with what it does to ASCII, and `json.dumps` of a
text dictionary with sorted keys. -/
structure IcsTools where
  upper : String → String
  upper_ascii : ∀ s : String, (∀ c ∈ s.toList, c.toNat < 128) →
    upper s = String.ofList (s.toList.map Char.toUpper)
  dumps : Dict String String → String

/-- Capital letters in ASCII. -/
def plainIcsTools : IcsTools where
  upper s := String.ofList (s.toList.map Char.toUpper)
  upper_ascii _ _ := rfl
  dumps _ := "{}"

section Lines

/-- A line end of `str.splitlines`. -/
def isLineEnd (c : Char) : Bool :=
  ('\n' ≤ c ∧ c ≤ '\r') ∨ ('\x1c' ≤ c ∧ c ≤ '\x1e') ∨ c ∈ ['\u0085', '\u2028', '\u2029']

/-- `str.splitlines`. -/
def splitLines : List Char → List (List Char)
  | [] => []
  | '\r' :: '\n' :: rest => [] :: splitLines rest
  | c :: rest =>
    if isLineEnd c then [] :: splitLines rest
    else
      match splitLines rest with
      | [] => [[c]]
      | line :: lines => (c :: line) :: lines

/-- `str.strip`. -/
abbrev stripLine (line : List Char) : List Char :=
  stripEnds isPySpace line

def isContinuation (line : List Char) : Bool :=
  line.head?.any fun c => c == ' ' || c == '\t'

/-- One line of `_unfold_ics_lines`. -/
def unfoldLine (unfolded : List (List Char)) (line : List Char) : List (List Char) :=
  match isContinuation line, unfolded.getLast? with
  | true, some last => unfolded.dropLast ++ [last ++ line.tail]
  | _, _ => unfolded ++ [stripLine line]

/-- `_unfold_ics_lines`. -/
def unfoldIcsLines (lines : List (List Char)) : List (List Char) :=
  lines.foldl unfoldLine []

end Lines

section Events

variable (tools : IcsTools)

/-- The key of a line with a colon. -/
def icsKey (line : List Char) : String :=
  tools.upper (String.ofList ((line.takeWhile (· ≠ ':')).takeWhile (· ≠ ';')))

/-- The value of a line with a colon. -/
def icsValue (line : List Char) : String :=
  String.ofList (stripLine (line.dropWhile (· ≠ ':')).tail)

structure IcsState where
  events : List (Dict String String) := []
  current : Option (Dict String String) := none
  deriving DecidableEq, Repr

/-- One line of the loop. -/
def icsStep (state : IcsState) (line : List Char) : IcsState :=
  if line = "BEGIN:VEVENT".toList then { state with current := some [] }
  else if line = "END:VEVENT".toList then
    { events := state.events ++ state.current.toList, current := none }
  else
    match state.current with
    | none => state
    | some event =>
      if ':' ∉ line then state
      else { state with current := some (event.set (icsKey tools line) (icsValue line)) }

/-- The properties of each event of a calendar. -/
def icsEvents (icsText : String) : List (Dict String String) :=
  ((unfoldIcsLines (splitLines icsText.toList)).foldl (icsStep tools) {}).events

/-- A fetched item with the properties of its event, which are its metadata. -/
structure IcsItem extends FetchedSourceItem where
  icsEvent : Dict String String
  deriving DecidableEq, Repr

/-- The item of an event. -/
def icsItem (calendarUrl : String) (language : Option String) (event : Dict String String) :
    IcsItem :=
  let summary := stripChars isPySpace ((event.lookup "SUMMARY").getD "")
  let description := stripChars isPySpace ((event.lookup "DESCRIPTION").getD "")
  let content := "\n".intercalate ([summary, description].filter (· ≠ ""))
  { url := if truthy (event.lookup "URL") then (event.lookup "URL").getD "" else calendarUrl
    content := if content = "" then tools.dumps event else content
    externalId := event.lookup "UID"
    originalLanguage := language
    icsEvent := event }

/-- `parse_ics_events`. -/
def parseIcsEvents (icsText calendarUrl : String) (language : Option String) : List IcsItem :=
  (icsEvents tools icsText).map (icsItem tools calendarUrl language)

end Events

/-- The text of a content line: each chunk but the first stands on a line of its own, after a
space. The numbers are the lengths of the chunks before each fold. -/
def foldLine : List Nat → List Char → List Char
  | [], line => line ++ ['\r', '\n']
  | n :: folds, line => line.take n ++ ['\r', '\n', ' '] ++ foldLine folds (line.drop n)

/-- What unfolding makes of a folded line: the first chunk is stripped. -/
def unfolded (folds : List Nat) (line : List Char) : List Char :=
  match folds with
  | [] => stripLine line
  | n :: _ => stripLine (line.take n) ++ line.drop n

section Unfolding

theorem isLineEnd_newline : isLineEnd '\n' = true := by decide

theorem splitLines_crlf (rest : List Char) :
    splitLines ('\r' :: '\n' :: rest) = [] :: splitLines rest := by
  rw [splitLines]

theorem splitLines_cons {c : Char} (hc : isLineEnd c = false) (rest : List Char) :
    splitLines (c :: rest) =
      match splitLines rest with
      | [] => [[c]]
      | line :: lines => (c :: line) :: lines := by
  rw [splitLines]
  · rw [if_neg (by simp [hc])]
  · rintro rest' rfl
    exact absurd hc (by decide)

/-- A text without line ends, up to the end of its line. -/
theorem splitLines_line {line : List Char} (hline : ∀ c ∈ line, isLineEnd c = false)
    (rest : List Char) :
    splitLines (line ++ '\r' :: '\n' :: rest) = line :: splitLines rest := by
  induction line with
  | nil => exact splitLines_crlf rest
  | cons c line ih =>
    rw [List.cons_append, splitLines_cons (hline c List.mem_cons_self),
      ih fun d hd => hline d (List.mem_cons_of_mem _ hd)]

theorem unfoldLine_continuation (acc : List (List Char)) (last line : List Char) :
    unfoldLine (acc ++ [last]) (' ' :: line) = acc ++ [last ++ line] := by
  have hspace : isContinuation (' ' :: line) = true := rfl
  rw [unfoldLine, hspace, List.getLast?_concat]
  show (acc ++ [last]).dropLast ++ _ = _
  rw [List.dropLast_concat]
  rfl

theorem unfoldLine_new {line : List Char} (hline : isContinuation line = false)
    (acc : List (List Char)) : unfoldLine acc line = acc ++ [stripLine line] := by
  rw [unfoldLine, hline]

/-- The chunks after a fold are joined to the line before. -/
theorem unfold_chunks (folds : List Nat) {line : List Char}
    (hline : ∀ c ∈ line, isLineEnd c = false) (acc : List (List Char)) (last rest : List Char) :
    (splitLines (' ' :: (foldLine folds line ++ rest))).foldl unfoldLine (acc ++ [last]) =
      (splitLines rest).foldl unfoldLine (acc ++ [last ++ line]) := by
  have hspaced : ∀ {text : List Char}, (∀ c ∈ text, isLineEnd c = false) →
      ∀ c ∈ ' ' :: text, isLineEnd c = false := by
    intro text htext c hc
    obtain rfl | hc := List.mem_cons.mp hc
    · decide
    · exact htext c hc
  induction folds generalizing line last with
  | nil =>
    have hsplit := splitLines_line (hspaced hline) rest
    rw [foldLine, List.append_assoc, List.cons_append, List.cons_append, List.nil_append,
      ← List.cons_append, hsplit, List.foldl_cons, unfoldLine_continuation]
  | cons n folds ih =>
    have htake : ∀ c ∈ line.take n, isLineEnd c = false :=
      fun c hc => hline c (List.mem_of_mem_take hc)
    have hsplit := splitLines_line (hspaced htake)
      (' ' :: (foldLine folds (line.drop n) ++ rest))
    have htext : ' ' :: (foldLine (n :: folds) line ++ rest) = (' ' :: line.take n) ++
        '\r' :: '\n' :: (' ' :: (foldLine folds (line.drop n) ++ rest)) := by
      simp [foldLine]
    rw [htext, hsplit, List.foldl_cons, unfoldLine_continuation,
      ih fun c hc => hline c (List.mem_of_mem_drop hc), List.append_assoc,
      List.take_append_drop]

theorem isContinuation_take {line : List Char} (hline : isContinuation line = false) (n : Nat) :
    isContinuation (line.take n) = false := by
  cases n with
  | zero => rfl
  | succ n =>
    cases line with
    | nil => rfl
    | cons c rest => exact hline

/-- A folded line is one line again. -/
theorem unfold_line (folds : List Nat) {line : List Char}
    (hline : ∀ c ∈ line, isLineEnd c = false) (hnew : isContinuation line = false)
    (acc : List (List Char)) (rest : List Char) :
    (splitLines (foldLine folds line ++ rest)).foldl unfoldLine acc =
      (splitLines rest).foldl unfoldLine (acc ++ [unfolded folds line]) := by
  cases folds with
  | nil =>
    have hsplit := splitLines_line hline rest
    rw [foldLine, List.append_assoc, List.cons_append, List.cons_append, List.nil_append, hsplit,
      List.foldl_cons, unfoldLine_new hnew]
    rfl
  | cons n folds =>
    have htake : ∀ c ∈ line.take n, isLineEnd c = false :=
      fun c hc => hline c (List.mem_of_mem_take hc)
    have hsplit := splitLines_line htake (' ' :: (foldLine folds (line.drop n) ++ rest))
    have htext : foldLine (n :: folds) line ++ rest = line.take n ++
        '\r' :: '\n' :: (' ' :: (foldLine folds (line.drop n) ++ rest)) := by
      simp [foldLine]
    rw [htext, hsplit, List.foldl_cons, unfoldLine_new (isContinuation_take hnew n),
      unfold_chunks folds fun c hc => hline c (List.mem_of_mem_drop hc)]
    rfl

/-- The text of a list of folded lines. -/
def foldLines (lines : List (List Nat × List Char)) : List Char :=
  lines.flatMap fun (folds, line) => foldLine folds line

/-- Unfolding gives one line for each content line. -/
theorem unfold_lines {lines : List (List Nat × List Char)}
    (hlines : ∀ entry ∈ lines, (∀ c ∈ entry.2, isLineEnd c = false) ∧
      isContinuation entry.2 = false) :
    unfoldIcsLines (splitLines (foldLines lines)) =
      lines.map fun (folds, line) => unfolded folds line := by
  have hrun : ∀ (acc : List (List Char)),
      (splitLines (foldLines lines)).foldl unfoldLine acc =
        acc ++ lines.map fun (folds, line) => unfolded folds line := by
    induction lines with
    | nil => intro acc; simp [foldLines, splitLines]
    | cons entry lines ih =>
      intro acc
      obtain ⟨hline, hnew⟩ := hlines entry List.mem_cons_self
      have htext : foldLines (entry :: lines) = foldLine entry.1 entry.2 ++ foldLines lines := rfl
      rw [htext, unfold_line entry.1 hline hnew,
        ih fun other hother => hlines other (List.mem_cons_of_mem _ hother)]
      simp
  exact hrun []

end Unfolding

section Words

variable {word : List Char} (hword : ∀ c ∈ word, isPySpace c = false)

theorem isPySpace_of_lineEnd {c : Char} (hc : isLineEnd c = true) : isPySpace c = true := by
  simp only [isLineEnd, isPySpace, decide_eq_true_eq, List.mem_cons, List.not_mem_nil, or_false,
    Char.le_def, UInt32.le_iff_toNat_le] at hc ⊢
  rcases hc with ⟨hlow, hhigh⟩ | ⟨hlow, hhigh⟩ | rfl | rfl | rfl
  · refine Or.inl ⟨?_, hhigh⟩
    simp at hlow ⊢
    omega
  · refine Or.inr (Or.inl ⟨hlow, ?_⟩)
    simp at hhigh ⊢
    omega
  · simp
  · simp
  · simp

include hword

theorem word_unbroken : ∀ c ∈ word, isLineEnd c = false := by
  intro c hc
  cases hend : isLineEnd c with
  | false => rfl
  | true =>
    rw [← hword c hc]
    exact (isPySpace_of_lineEnd hend).symm

/-- A line that begins with a word continues no other. -/
theorem word_new (hne : word ≠ []) (rest : List Char) : isContinuation (word ++ rest) = false := by
  cases word with
  | nil => exact absurd rfl hne
  | cons c word =>
    have hspace := hword c List.mem_cons_self
    show (c == ' ' || c == '\t') = false
    rw [Bool.or_eq_false_iff, beq_eq_false_iff_ne, beq_eq_false_iff_ne]
    constructor
    · rintro rfl
      exact absurd hspace (by decide)
    · rintro rfl
      exact absurd hspace (by decide)

theorem stripLine_word : stripLine word = word := by
  rw [stripLine, stripEnds, dropWhile_self hword, rdropWhile_self hword]

/-- A word is not changed by folding. -/
theorem unfolded_word (folds : List Nat) : unfolded folds word = word := by
  cases folds with
  | nil => exact stripLine_word hword
  | cons n folds =>
    show stripLine (word.take n) ++ word.drop n = word
    rw [stripLine_word fun c hc => hword c (List.mem_of_mem_take hc), List.take_append_drop]

/-- Folding a line that begins with a word loses the white space before the first fold. -/
theorem unfolded_append (hne : word ≠ []) (folds : List Nat) (rest : List Char) :
    unfolded folds (word ++ rest) = word ++ closeUp isPySpace
      (match folds with
        | [] => rest.length
        | n :: _ => n - word.length) rest := by
  have hstrip (back : List Char) :
      stripLine (word ++ back) = word ++ back.rdropWhile isPySpace := by
    rw [stripLine, stripEnds, dropWhile_append_word hword hne, rdropWhile_append_word hword]
  cases folds with
  | nil =>
    show stripLine (word ++ rest) = _
    rw [hstrip, closeUp, List.take_length, List.drop_length, List.append_nil]
  | cons n folds =>
    show stripLine ((word ++ rest).take n) ++ (word ++ rest).drop n = _
    by_cases hn : n ≤ word.length
    · have hzero : n - word.length = 0 := by omega
      rw [List.take_append_of_le_length hn, List.drop_append_of_le_length hn,
        stripLine_word fun c hc => hword c (List.mem_of_mem_take hc), ← List.append_assoc,
        List.take_append_drop]
      show _ = word ++ closeUp isPySpace (n - word.length) rest
      rw [hzero, closeUp_zero]
    · obtain ⟨m, rfl⟩ : ∃ m, n = word.length + m := ⟨n - word.length, by omega⟩
      rw [List.take_length_add_append, List.drop_length_add_append, hstrip, List.append_assoc]
      show _ = word ++ closeUp isPySpace (word.length + m - word.length) rest
      rw [Nat.add_sub_cancel_left]
      rfl

end Words

/-- The lines around an event and around a calendar. -/
def componentLines : List String :=
  ["BEGIN:VCALENDAR", "BEGIN:VEVENT", "END:VEVENT", "END:VCALENDAR"]

theorem componentLines_word {text : String} (htext : text ∈ componentLines) :
    text.toList ≠ [] ∧ ∀ c ∈ text.toList, isPySpace c = false := by
  have hall : (componentLines.all fun text => !text.toList.isEmpty &&
      text.toList.all fun c => !isPySpace c) = true := by decide +kernel
  simpa using List.all_eq_true.mp hall text htext

section Keys

/-- The text before the first colon and the text after it. -/
theorem cut_colon {front : List Char} (hfront : ∀ c ∈ front, c ≠ ':') (back : List Char) :
    (front ++ ':' :: back).takeWhile (· ≠ ':') = front ∧
      (front ++ ':' :: back).dropWhile (· ≠ ':') = ':' :: back := by
  have hkept : ∀ c ∈ front, decide (c ≠ ':') = true := fun c hc => by simp [hfront c hc]
  constructor
  · rw [List.takeWhile_append_of_pos hkept, List.takeWhile_cons_of_neg (by simp),
      List.append_nil]
  · rw [List.dropWhile_append_of_pos hkept, List.dropWhile_cons_of_neg (by simp)]

theorem icsValue_cut {front : List Char} (hfront : ∀ c ∈ front, c ≠ ':') (back : List Char) :
    icsValue (front ++ ':' :: back) = String.ofList (stripLine back) := by
  rw [icsValue, (cut_colon hfront back).2]
  rfl

/-- A name ends at the first semicolon or colon. -/
theorem icsKey_name (tools : IcsTools) {name rest : List Char}
    (hname : ∀ c ∈ name, c ≠ ':' ∧ c ≠ ';') (hrest : ∀ c ∈ rest.head?, c = ':' ∨ c = ';') :
    icsKey tools (name ++ rest) = tools.upper (String.ofList name) := by
  have hcolon : ∀ c ∈ name, decide (c ≠ ':') = true := fun c hc => by simp [(hname c hc).1]
  have hsemicolon : ∀ c ∈ name, decide (c ≠ ';') = true := fun c hc => by simp [(hname c hc).2]
  have hempty : (rest.takeWhile (· ≠ ':')).takeWhile (· ≠ ';') = [] := by
    cases rest with
    | nil => rfl
    | cons c rest =>
      rcases hrest c rfl with rfl | rfl
      · rw [List.takeWhile_cons_of_neg (by simp), List.takeWhile_nil]
      · rw [List.takeWhile_cons_of_pos (by simp), List.takeWhile_cons_of_neg (by simp)]
  rw [icsKey, List.takeWhile_append_of_pos hcolon, List.takeWhile_append_of_pos hsemicolon,
    hempty, List.append_nil]

section Names

variable {name rest : List Char} (hne : name ≠ [])
  (hname : ∀ c ∈ name, isPySpace c = false ∧ c ≠ ':' ∧ c ≠ ';')

include hne hname

/-- Folding does not touch the name of a line. -/
theorem unfolded_key (tools : IcsTools)
    (hrest : rest.head? = some ':' ∨ rest.head? = some ';') (folds : List Nat) :
    icsKey tools (unfolded folds (name ++ rest)) = tools.upper (String.ofList name) := by
  have hcolon : isPySpace ':' = false := by decide
  have hsemicolon : isPySpace ';' = false := by decide
  rw [unfolded_append (fun c hc => (hname c hc).1) hne]
  apply icsKey_name tools fun c hc => (hname c hc).2
  cases rest with
  | nil => exact absurd hrest (by simp)
  | cons first rest =>
    rcases hrest with hfirst | hfirst
    · obtain rfl : first = ':' := Option.some.inj hfirst
      rw [closeUp_cons hcolon]
      exact fun c hc => Or.inl (Option.some.inj hc).symm
    · obtain rfl : first = ';' := Option.some.inj hfirst
      rw [closeUp_cons hsemicolon]
      exact fun c hc => Or.inr (Option.some.inj hc).symm

theorem unfolded_colon (hrest : ':' ∈ rest) (folds : List Nat) :
    ':' ∈ unfolded folds (name ++ rest) := by
  rw [unfolded_append (fun c hc => (hname c hc).1) hne]
  exact List.mem_append_right _ (mem_closeUp_of_kept hrest (by decide) _)

end Names

end Keys

section Steps

variable (tools : IcsTools) {events : List (Dict String String)}
  {current : Option (Dict String String)} {event : Dict String String} {line : List Char}

theorem icsStep_begin :
    icsStep tools { events, current } "BEGIN:VEVENT".toList = { events, current := some [] } :=
  if_pos rfl

theorem icsStep_end : icsStep tools { events, current := some event } "END:VEVENT".toList =
    { events := events ++ [event], current := none } :=
  (if_neg (by decide +kernel)).trans (if_pos rfl)

theorem parseIcsEvents_events (icsText calendarUrl : String) (language : Option String) :
    (parseIcsEvents tools icsText calendarUrl language).map (·.icsEvent) =
      icsEvents tools icsText := by
  rw [parseIcsEvents, List.map_map]
  exact List.map_id _

/-- Outside an event a line is passed over. -/
theorem icsStep_outside (hbegin : line ≠ "BEGIN:VEVENT".toList)
    (hend : line ≠ "END:VEVENT".toList) :
    icsStep tools { events, current := none } line = { events, current := none } := by
  rw [icsStep, if_neg hbegin, if_neg hend]

/-- Inside an event a line with a colon sets its key. -/
theorem icsStep_set (hbegin : line ≠ "BEGIN:VEVENT".toList) (hend : line ≠ "END:VEVENT".toList)
    (hcolon : ':' ∈ line) : icsStep tools { events, current := some event } line =
      { events, current := some (event.set (icsKey tools line) (icsValue line)) } := by
  rw [icsStep, if_neg hbegin, if_neg hend]
  exact if_neg (by simp [hcolon])

theorem upper_plain {s : String} (hs : (s.toList.all fun c => decide (c.toNat < 128)) = true)
    (hupper : String.ofList (s.toList.map Char.toUpper) = s) : tools.upper s = s :=
  (tools.upper_ascii s fun c hc => by simpa using List.all_eq_true.mp hs c hc).trans hupper

theorem icsKey_begin : icsKey tools "BEGIN:VEVENT".toList = "BEGIN" := by
  have hupper : tools.upper "BEGIN" = "BEGIN" := upper_plain tools (by decide +kernel) (by decide +kernel)
  have hkey : String.ofList (("BEGIN:VEVENT".toList.takeWhile (· ≠ ':')).takeWhile (· ≠ ';')) =
      "BEGIN" := by decide +kernel
  rw [icsKey, hkey, hupper]

theorem icsKey_end : icsKey tools "END:VEVENT".toList = "END" := by
  have hupper : tools.upper "END" = "END" := upper_plain tools (by decide +kernel) (by decide +kernel)
  have hkey : String.ofList (("END:VEVENT".toList.takeWhile (· ≠ ':')).takeWhile (· ≠ ';')) =
      "END" := by decide +kernel
  rw [icsKey, hkey, hupper]

/-- A line with another key neither begins nor ends an event. -/
theorem icsKey_other (hbegin : icsKey tools line ≠ "BEGIN") (hend : icsKey tools line ≠ "END") :
    line ≠ "BEGIN:VEVENT".toList ∧ line ≠ "END:VEVENT".toList := by
  constructor
  · rintro rfl
    exact hbegin (icsKey_begin tools)
  · rintro rfl
    exact hend (icsKey_end tools)

/-- Lines with distinct new keys are the entries of the event. -/
theorem icsStep_properties {lines : List (List Char)} (hcolon : ∀ line ∈ lines, ':' ∈ line)
    (hkeys : ∀ line ∈ lines, icsKey tools line ≠ "BEGIN" ∧ icsKey tools line ≠ "END")
    (hdistinct : (event.keys ++ lines.map (icsKey tools)).Nodup) :
    lines.foldl (icsStep tools) { events, current := some event } =
      { events, current := some (event ++
        lines.map fun line => (icsKey tools line, icsValue line)) } := by
  induction lines generalizing event with
  | nil => simp
  | cons line lines ih =>
    obtain ⟨hbegin, hend⟩ := hkeys line List.mem_cons_self
    obtain ⟨hbegin, hend⟩ := icsKey_other tools hbegin hend
    have hnew : icsKey tools line ∉ event.keys := by
      intro hmem
      exact (List.nodup_append.mp hdistinct).2.2 _ hmem _ List.mem_cons_self rfl
    rw [List.foldl_cons, icsStep_set tools hbegin hend (hcolon line List.mem_cons_self),
      Dict.set_new hnew, ih (fun l hl => hcolon l (List.mem_cons_of_mem _ hl))
        (fun l hl => hkeys l (List.mem_cons_of_mem _ hl))]
    · simp
    · simpa [Dict.keys] using hdistinct

end Steps

section Calendars

variable (tools : IcsTools)

/-- The text of a calendar with these content lines. -/
def calendarOf (lines : List (List Nat × List Char)) : String :=
  String.ofList (foldLines (([], "BEGIN:VCALENDAR".toList) :: lines ++
    [([], "END:VCALENDAR".toList)]))

theorem componentLine_new {text : String} (htext : text ∈ componentLines) :
    (∀ c ∈ text.toList, isLineEnd c = false) ∧ isContinuation text.toList = false := by
  obtain ⟨hne, hplain⟩ := componentLines_word htext
  have hnew := word_new hplain hne []
  rw [List.append_nil] at hnew
  exact ⟨word_unbroken hplain, hnew⟩

theorem componentLine_unfolded {text : String} (htext : text ∈ componentLines)
    (folds : List Nat) : unfolded folds text.toList = text.toList :=
  unfolded_word (componentLines_word htext).2 folds

/-- A calendar is read line by line, and the two lines around it are passed over. -/
theorem icsEvents_calendarOf {lines : List (List Nat × List Char)}
    {events : List (Dict String String)}
    (hlines : ∀ entry ∈ lines, (∀ c ∈ entry.2, isLineEnd c = false) ∧
      isContinuation entry.2 = false)
    (hrun : (lines.map fun (folds, line) => unfolded folds line).foldl (icsStep tools) {} =
      { events, current := none }) :
    icsEvents tools (calendarOf lines) = events := by
  have hall : ∀ entry ∈ ([], "BEGIN:VCALENDAR".toList) :: lines ++
      [([], "END:VCALENDAR".toList)],
      (∀ c ∈ entry.2, isLineEnd c = false) ∧ isContinuation entry.2 = false := by
    intro entry hentry
    rw [List.cons_append, List.mem_cons, List.mem_append, List.mem_singleton] at hentry
    rcases hentry with rfl | hentry | rfl
    · exact componentLine_new (by simp [componentLines])
    · exact hlines entry hentry
    · exact componentLine_new (by simp [componentLines])
  have hopen : unfolded [] "BEGIN:VCALENDAR".toList = "BEGIN:VCALENDAR".toList :=
    componentLine_unfolded (by simp [componentLines]) []
  have hclose : unfolded [] "END:VCALENDAR".toList = "END:VCALENDAR".toList :=
    componentLine_unfolded (by simp [componentLines]) []
  have hstart : icsStep tools {} "BEGIN:VCALENDAR".toList = {} :=
    icsStep_outside tools (by decide +kernel) (by decide +kernel)
  rw [icsEvents, calendarOf, String.toList_ofList, unfold_lines hall, List.cons_append,
    List.map_cons, List.map_append, List.foldl_cons, List.foldl_append]
  dsimp only
  rw [hopen, hstart, hrun]
  simp only [List.map_cons, List.map_nil, List.foldl_cons, List.foldl_nil, hclose]
  rw [icsStep_outside tools (by decide +kernel) (by decide +kernel)]

end Calendars

section LineEnds

/-- No line end is left in a line. -/
theorem splitLines_lineEnds (text : List Char) :
    ∀ line ∈ splitLines text, ∀ c ∈ line, isLineEnd c = false := by
  induction text using splitLines.induct with
  | case1 => simp [splitLines]
  | case2 rest ih =>
    intro line hline
    rw [splitLines_crlf] at hline
    rcases List.mem_cons.mp hline with rfl | hline
    · simp
    · exact ih line hline
  | case3 c rest hpair hend ih =>
    intro line hline
    rw [splitLines, if_pos hend] at hline
    · rcases List.mem_cons.mp hline with rfl | hline
      · simp
      · exact ih line hline
    · exact hpair
  | case4 c rest hpair hend hnil ih =>
    intro line hline
    rw [splitLines_cons (by simpa using hend), hnil] at hline
    rw [List.mem_singleton.mp hline]
    intro d hd
    obtain rfl := List.mem_singleton.mp hd
    simpa using hend
  | case5 c rest hpair hend first lines hcons ih =>
    intro line hline
    rw [splitLines_cons (by simpa using hend), hcons] at hline
    rcases List.mem_cons.mp hline with rfl | hline
    · intro d hd
      rcases List.mem_cons.mp hd with rfl | hd
      · simpa using hend
      · exact ih first (hcons ▸ List.mem_cons_self) d hd
    · exact ih line (hcons ▸ List.mem_cons_of_mem _ hline)

/-- Unfolding makes no line end. -/
theorem unfoldLine_lineEnds {lines : List (List Char)} {next : List Char}
    (hlines : ∀ line ∈ lines, ∀ c ∈ line, isLineEnd c = false)
    (hnext : ∀ c ∈ next, isLineEnd c = false) :
    ∀ line ∈ unfoldLine lines next, ∀ c ∈ line, isLineEnd c = false := by
  have hstripped : ∀ line ∈ lines ++ [stripLine next], ∀ c ∈ line, isLineEnd c = false := by
    intro line hline c hc
    rcases List.mem_append.mp hline with hline | hline
    · exact hlines line hline c hc
    · rw [List.mem_singleton.mp hline] at hc
      exact hnext c (mem_stripEnds hc)
  unfold unfoldLine
  split
  · next last _ hlast =>
    intro line hline c hc
    rcases List.mem_append.mp hline with hline | hline
    · exact hlines line (List.mem_of_mem_dropLast hline) c hc
    · rw [List.mem_singleton.mp hline] at hc
      rcases List.mem_append.mp hc with hc | hc
      · exact hlines last (List.mem_of_getLast? hlast) c hc
      · exact hnext c (List.mem_of_mem_tail hc)
  · exact hstripped

theorem unfoldIcsLines_lineEnds {lines : List (List Char)}
    (hlines : ∀ line ∈ lines, ∀ c ∈ line, isLineEnd c = false) :
    ∀ line ∈ unfoldIcsLines lines, ∀ c ∈ line, isLineEnd c = false := by
  have hrun : ∀ acc : List (List Char), (∀ line ∈ acc, ∀ c ∈ line, isLineEnd c = false) →
      ∀ line ∈ lines.foldl unfoldLine acc, ∀ c ∈ line, isLineEnd c = false := by
    induction lines with
    | nil => exact fun acc hacc => hacc
    | cons line lines ih =>
      intro acc hacc
      exact ih (fun l hl => hlines l (List.mem_cons_of_mem _ hl)) _
        (unfoldLine_lineEnds hacc (hlines line List.mem_cons_self))
  exact hrun [] (by simp)

/-- No value ends a line. -/
def Unbroken (event : Dict String String) : Prop :=
  ∀ entry ∈ event, ∀ c ∈ entry.2.toList, isLineEnd c = false

theorem icsStep_unbroken (tools : IcsTools) {state : IcsState} {line : List Char}
    (hevents : ∀ event ∈ state.events, Unbroken event)
    (hcurrent : ∀ event ∈ state.current, Unbroken event)
    (hline : ∀ c ∈ line, isLineEnd c = false) :
    (∀ event ∈ (icsStep tools state line).events, Unbroken event) ∧
      ∀ event ∈ (icsStep tools state line).current, Unbroken event := by
  unfold icsStep
  split
  · refine ⟨hevents, ?_⟩
    intro event hevent
    obtain rfl := Option.some.inj hevent
    simp [Unbroken]
  split
  · refine ⟨?_, by simp⟩
    intro event hevent
    rcases List.mem_append.mp hevent with h | h
    · exact hevents event h
    · exact hcurrent event (by simpa using h)
  split
  · exact ⟨hevents, hcurrent⟩
  · next event hsome =>
    split
    · exact ⟨hevents, hcurrent⟩
    · refine ⟨hevents, ?_⟩
      intro event' hevent'
      obtain rfl := Option.some.inj hevent'
      intro entry hentry
      rcases Dict.mem_set hentry with hold | rfl
      · exact hcurrent event hsome entry hold
      · intro c hc
        rw [icsValue, String.toList_ofList] at hc
        exact hline c ((List.dropWhile_sublist _).mem (List.mem_of_mem_tail (mem_stripEnds hc)))

/-- No value of a parsed event has a line end. -/
theorem icsEvents_unbroken (tools : IcsTools) (icsText : String) :
    ∀ event ∈ icsEvents tools icsText, Unbroken event := by
  have hlines := unfoldIcsLines_lineEnds (splitLines_lineEnds icsText.toList)
  have hrun : ∀ (lines : List (List Char)) (state : IcsState),
      (∀ line ∈ lines, ∀ c ∈ line, isLineEnd c = false) →
      (∀ event ∈ state.events, Unbroken event) → (∀ event ∈ state.current, Unbroken event) →
        ∀ event ∈ (lines.foldl (icsStep tools) state).events, Unbroken event := by
    intro lines
    induction lines with
    | nil => exact fun state _ hevents _ => hevents
    | cons line lines ih =>
      intro state hlines hevents hcurrent
      obtain ⟨hevents', hcurrent'⟩ :=
        icsStep_unbroken tools hevents hcurrent (hlines line List.mem_cons_self)
      exact ih _ (fun l hl => hlines l (List.mem_cons_of_mem _ hl)) hevents' hcurrent'
  exact hrun _ {} hlines (by simp) (by simp)

end LineEnds

end GhostRecon
