import Mathlib.Data.List.Basic
import Mathlib.Tactic

/-!
Format strings: text with replacement fields in braces. A brace of the text is written twice. A
field has a name, a conversion after an exclamation mark and a specification after a colon, in
which braces nest; between square brackets of the name no character has a meaning but the
closing one. The reader is a machine over the characters; a text may end in only one of its
states.
-/

namespace GhostRecon.Lib.Format

/-- A replacement field. -/
structure Field where
  name : List Char
  conversion : Option Char := none
  spec : List Char := []
  deriving DecidableEq, Repr

/-- A part of a format string: one character of the text, or a field. A doubled brace is marked
as such. -/
inductive Piece where
  | char (c : Char)
  | brace (c : Char)
  | field (f : Field)
  deriving DecidableEq, Repr

inductive FormatError where
  /-- "Single '\x7d' encountered in format string" -/
  | singleClose
  /-- "Single '\x7b' encountered in format string" -/
  | singleOpen
  /-- "unexpected '\x7b' in field name" -/
  | braceInName
  /-- "end of string while looking for conversion specifier" -/
  | noConversion
  /-- "expected ':' after conversion specifier" -/
  | noColon
  /-- "expected '\x7d' before end of string" -/
  | unclosed
  /-- "unmatched '\x7b' in format spec" -/
  | unmatched
  deriving DecidableEq, Repr

/-- What the reader is in the middle of. -/
inductive Mode where
  | text
  /-- After an opening brace. -/
  | opened
  /-- After a closing brace. -/
  | closed
  | name (name : List Char)
  /-- Between the brackets of a name. -/
  | index (name : List Char)
  /-- After the exclamation mark. -/
  | conversion (name : List Char)
  | converted (name : List Char) (conversion : Char)
  /-- In a specification, with the number of braces open in it. -/
  | spec (name : List Char) (conversion : Option Char) (spec : List Char) (depth : Nat)
  deriving DecidableEq, Repr

/-- A character of a field's name. -/
def nameStep (name : List Char) (c : Char) : Except FormatError (Mode × List Piece) :=
  if c = '{' then .error .braceInName
  else if c = '[' then .ok (.index (name ++ [c]), [])
  else if c = '}' then .ok (.text, [.field { name }])
  else if c = ':' then .ok (.spec name none [] 0, [])
  else if c = '!' then .ok (.conversion name, [])
  else .ok (.name (name ++ [c]), [])

/-- One character: the next mode, and what has been read. -/
def step : Mode → Char → Except FormatError (Mode × List Piece)
  | .text, c =>
    if c = '{' then .ok (.opened, [])
    else if c = '}' then .ok (.closed, [])
    else .ok (.text, [.char c])
  | .opened, c => if c = '{' then .ok (.text, [.brace c]) else nameStep [] c
  | .closed, c => if c = '}' then .ok (.text, [.brace c]) else .error .singleClose
  | .name name, c => nameStep name c
  | .index name, c =>
    if c = ']' then .ok (.name (name ++ [c]), []) else .ok (.index (name ++ [c]), [])
  | .conversion name, c => .ok (.converted name c, [])
  | .converted name conversion, c =>
    if c = '}' then .ok (.text, [.field { name, conversion := some conversion }])
    else if c = ':' then .ok (.spec name (some conversion) [] 0, [])
    else .error .noColon
  | .spec name conversion spec depth, c =>
    if c = '{' then .ok (.spec name conversion (spec ++ [c]) (depth + 1), [])
    else if c = '}' then
      if depth = 0 then .ok (.text, [.field { name, conversion, spec }])
      else .ok (.spec name conversion (spec ++ [c]) (depth - 1), [])
    else .ok (.spec name conversion (spec ++ [c]) depth, [])

/-- The end of the text. -/
def finish : Mode → Except FormatError (List Piece)
  | .text => .ok []
  | .opened => .error .singleOpen
  | .closed => .error .singleClose
  | .name _ | .index _ => .error .unclosed
  | .conversion _ => .error .noConversion
  | .converted _ _ | .spec _ _ _ _ => .error .unmatched

def read : Mode → List Char → Except FormatError (List Piece)
  | mode, [] => finish mode
  | mode, c :: rest => do
    let (next, pieces) ← step mode c
    return pieces ++ (← read next rest)

/-- The pieces of a format string. -/
def parse (template : List Char) : Except FormatError (List Piece) :=
  read .text template

/-- A character that no name of a plain field has. -/
def isPlainNameChar (c : Char) : Bool :=
  c ∉ ['{', '}', '[', ':', '!', '.']

/-- A field that only names a value: no position, attribute, index, conversion or
specification. -/
def Field.plain (f : Field) (isDigit : Char → Bool) : Bool :=
  f.name ≠ [] && f.name.all isPlainNameChar && !f.name.all isDigit && f.conversion.isNone &&
    f.spec.isEmpty

section Readings

variable {mode : Mode} {c : Char} {rest : List Char}

theorem read_cons : read mode (c :: rest) = (do
    let (next, pieces) ← step mode c
    return pieces ++ (← read next rest)) := rfl

/-- A character that is no brace stands for itself. -/
theorem read_char (hopen : c ≠ '{') (hclose : c ≠ '}') :
    read .text (c :: rest) = (do return .char c :: (← read .text rest)) := by
  rw [read_cons, step, if_neg hopen, if_neg hclose]
  rfl

/-- A text without braces is its characters. -/
theorem read_text {text : List Char} (htext : ∀ c ∈ text, c ≠ '{' ∧ c ≠ '}') :
    read .text (text ++ rest) = (do return text.map .char ++ (← read .text rest)) := by
  induction text with
  | nil =>
    show read .text rest = _
    cases read .text rest <;> rfl
  | cons c text ih =>
    obtain ⟨hopen, hclose⟩ := htext c List.mem_cons_self
    rw [List.cons_append, read_char hopen hclose,
      ih fun d hd => htext d (List.mem_cons_of_mem _ hd)]
    cases read .text rest <;> rfl

/-- The name of a plain field is read up to the closing brace. -/
theorem read_name {name : List Char} (before : List Char) (hname : name.all isPlainNameChar = true) :
    read (.name before) (name ++ '}' :: rest) =
      (do return .field { name := before ++ name } :: (← read .text rest)) := by
  induction name generalizing before with
  | nil =>
    rw [List.nil_append, read_cons, step, nameStep, List.append_nil]
    rfl
  | cons c name ih =>
    obtain ⟨hc, hname⟩ := Bool.and_eq_true_iff.mp (List.all_cons.symm.trans hname)
    simp only [isPlainNameChar, List.mem_cons, List.not_mem_nil, or_false, not_or,
      decide_eq_true_eq] at hc
    rw [List.cons_append, read_cons, step, nameStep, if_neg hc.1, if_neg hc.2.2.1, if_neg hc.2.1,
      if_neg hc.2.2.2.1, if_neg hc.2.2.2.2.1]
    show (do return [] ++ (← read (.name (before ++ [c])) (name ++ '}' :: rest))) = _
    rw [ih _ hname]
    simp

/-- A plain field is read as its name. -/
theorem read_field {name : List Char} (hne : name ≠ [])
    (hname : name.all isPlainNameChar = true) :
    read .text ('{' :: (name ++ '}' :: rest)) =
      (do return .field { name } :: (← read .text rest)) := by
  cases name with
  | nil => exact absurd rfl hne
  | cons c name =>
    have hc : c ≠ '{' := by
      intro hopen
      simp [hopen, isPlainNameChar] at hname
    have hread : read (.name []) (c :: name ++ '}' :: rest) = _ := read_name [] hname
    rw [List.cons_append, read_cons] at hread
    rw [read_cons, List.cons_append, step, if_pos rfl]
    show (do return [] ++ (← read .opened (c :: (name ++ '}' :: rest)))) = _
    rw [read_cons, step, if_neg hc]
    rw [step] at hread
    rw [hread]
    cases read .text rest <;> rfl

end Readings

/-- The name of a field that is looked up as it stands. -/
structure PlainName where
  chars : List Char
  nonempty : chars ≠ []
  plain : chars.all isPlainNameChar = true

/-- What a format string is written from. -/
inductive Segment where
  | text (chars : List Char)
  | placeholder (name : PlainName)

/-- A character of a text: a brace is doubled. -/
def escape (c : Char) : List Char :=
  if c = '{' ∨ c = '}' then [c, c] else [c]

def Segment.write : Segment → List Char
  | .text chars => chars.flatMap escape
  | .placeholder name => '{' :: (name.chars ++ ['}'])

/-- A character of a text as it is read. -/
def pieceOf (c : Char) : Piece :=
  if c = '{' ∨ c = '}' then .brace c else .char c

def Segment.pieces : Segment → List Piece
  | .text chars => chars.map pieceOf
  | .placeholder name => [.field { name := name.chars }]

section Writings

variable {rest : List Char}

theorem read_escape (c : Char) :
    read .text (escape c ++ rest) = (do return pieceOf c :: (← read .text rest)) := by
  by_cases hbrace : c = '{' ∨ c = '}'
  · rw [escape, pieceOf, if_pos hbrace, if_pos hbrace]
    rcases hbrace with rfl | rfl
    · show (do return [] ++ (← (do return [Piece.brace '{'] ++ (← read .text rest)))) = _
      cases read .text rest <;> rfl
    · show (do return [] ++ (← (do return [Piece.brace '}'] ++ (← read .text rest)))) = _
      cases read .text rest <;> rfl
  · rw [escape, pieceOf, if_neg hbrace, if_neg hbrace]
    rw [not_or] at hbrace
    exact read_char hbrace.1 hbrace.2

/-- A segment is read back. -/
theorem read_segment (segment : Segment) :
    read .text (segment.write ++ rest) =
      (do return segment.pieces ++ (← read .text rest)) := by
  cases segment with
  | text chars =>
    show read .text (chars.flatMap escape ++ rest) =
      (do return chars.map pieceOf ++ (← read .text rest))
    induction chars with
    | nil =>
      show read .text rest = _
      cases read .text rest <;> rfl
    | cons c chars ih =>
      rw [List.flatMap_cons, List.append_assoc, read_escape, ih]
      cases read .text rest <;> rfl
  | placeholder name =>
    show read .text ('{' :: (name.chars ++ ['}'] ++ rest)) = _
    rw [List.append_assoc]
    exact read_field name.nonempty name.plain

/-- Round trip: a format string is read as the segments it was written from. -/
theorem parse_written (segments : List Segment) :
    parse (segments.flatMap Segment.write) = .ok (segments.flatMap Segment.pieces) := by
  unfold parse
  induction segments with
  | nil => rfl
  | cons segment rest ih =>
    rw [List.flatMap_cons, read_segment, ih]
    rfl

end Writings

end GhostRecon.Lib.Format
