import GhostRecon.Lib.CanonicalJson
import Mathlib.Data.String.Basic

/-!
What `json.dumps` makes of a value with its keys sorted, and what `json.loads` gives: lists,
dictionaries with texts as keys, and scalars. Two values with one text are the same but for the
order of their keys.
-/

namespace GhostRecon

open Lib.CanonicalJson (Doc Token isTokenChar)

section Scalars

/-- The text of a floating-point number. -/
def IsFloatText (text : List Char) : Prop :=
  text ∈ [['N', 'a', 'N'], ['I', 'n', 'f', 'i', 'n', 'i', 't', 'y'],
      ['-', 'I', 'n', 'f', 'i', 'n', 'i', 't', 'y']] ∨
    (∀ c ∈ text, c.isDigit = true ∨ c ∈ ['-', '+', '.', 'e']) ∧ ('.' ∈ text ∨ 'e' ∈ text)

/-- A floating-point number, held by its shortest text. -/
structure FloatText where
  text : List Char
  wellFormed : IsFloatText text

inductive Scalar where
  | null
  | bool (value : Bool)
  | int (value : Int)
  | float (value : FloatText)
  | str (value : String)

/-- `int.__repr__`. -/
def decimal (n : Int) : List Char :=
  if n < 0 then '-' :: Nat.toDigits 10 n.natAbs else Nat.toDigits 10 n.natAbs

theorem digit_isTokenChar {c : Char} (h : c.isDigit = true) : isTokenChar c = true := by
  unfold isTokenChar
  simp only [Bool.and_eq_true, bne_iff_ne]
  refine ⟨⟨⟨⟨⟨?_, ?_⟩, ?_⟩, ?_⟩, ?_⟩, ?_⟩
  all_goals
    rintro rfl
    revert h
    decide

/-- The characters of a decimal number. -/
theorem mem_decimal {n : Int} {c : Char} (h : c ∈ decimal n) : c.isDigit = true ∨ c = '-' := by
  unfold decimal at h
  split at h
  · rcases List.mem_cons.mp h with hminus | hdigit
    · exact Or.inr hminus
    · exact Or.inl (Nat.isDigit_of_mem_toDigits (by omega) (by omega) hdigit)
  · exact Or.inl (Nat.isDigit_of_mem_toDigits (by omega) (by omega) h)

theorem decimal_ne_nil (n : Int) : decimal n ≠ [] := by
  unfold decimal
  split
  · exact List.cons_ne_nil _ _
  · exact Nat.toDigits_ne_nil

theorem minus_notMem_toDigits (n : Nat) : '-' ∉ Nat.toDigits 10 n := by
  intro h
  have hdigit := Nat.isDigit_of_mem_toDigits (by omega) (by omega) h
  revert hdigit
  decide

theorem toDigits_injective : Function.Injective (Nat.toDigits 10) := by
  intro n m h
  have hvalue : Nat.ofDigitChars 10 (Nat.toDigits 10 n) 0 =
      Nat.ofDigitChars 10 (Nat.toDigits 10 m) 0 := by rw [h]
  rwa [Nat.ofDigitChars_ten_toDigits, Nat.ofDigitChars_ten_toDigits] at hvalue

theorem decimal_injective : Function.Injective decimal := by
  intro n m h
  unfold decimal at h
  by_cases hn : n < 0
  · by_cases hm : m < 0
    · rw [if_pos hn, if_pos hm] at h
      have habs := toDigits_injective (List.cons.inj h).2
      omega
    · rw [if_pos hn, if_neg hm] at h
      exact absurd (h ▸ List.mem_cons_self) (minus_notMem_toDigits m.natAbs)
  · by_cases hm : m < 0
    · rw [if_neg hn, if_pos hm] at h
      exact absurd (h ▸ List.mem_cons_self) (minus_notMem_toDigits n.natAbs)
    · rw [if_neg hn, if_neg hm] at h
      have habs := toDigits_injective h
      omega

theorem FloatText.plain (value : FloatText) : ∀ c ∈ value.text, isTokenChar c = true := by
  intro c hc
  rcases value.wellFormed with hname | ⟨hchars, -⟩
  · have hnames : ∀ name ∈ [['N', 'a', 'N'], ['I', 'n', 'f', 'i', 'n', 'i', 't', 'y'],
        ['-', 'I', 'n', 'f', 'i', 'n', 'i', 't', 'y']], name.all isTokenChar = true := by
      decide
    exact List.all_eq_true.mp (hnames _ hname) c hc
  · have hsigns : ['-', '+', '.', 'e'].all isTokenChar = true := by decide
    rcases hchars c hc with hdigit | hsign
    · exact digit_isTokenChar hdigit
    · exact List.all_eq_true.mp hsigns c hsign

theorem FloatText.ne_nil (value : FloatText) : value.text ≠ [] := by
  intro hnil
  rcases value.wellFormed with hname | ⟨-, hmark⟩
  · rw [hnil] at hname
    revert hname
    decide
  · rw [hnil] at hmark
    revert hmark
    decide

/-- The number or name of a scalar that is no text. -/
def nullToken : Token := ⟨['n', 'u', 'l', 'l'], by decide, List.all_eq_true.mp (by decide)⟩
def trueToken : Token := ⟨['t', 'r', 'u', 'e'], by decide, List.all_eq_true.mp (by decide)⟩
def falseToken : Token := ⟨['f', 'a', 'l', 's', 'e'], by decide, List.all_eq_true.mp (by decide)⟩

def intToken (value : Int) : Token where
  text := decimal value
  nonempty := decimal_ne_nil value
  plain c hc := by
    rcases mem_decimal hc with hdigit | rfl
    · exact digit_isTokenChar hdigit
    · rfl

def floatToken (value : FloatText) : Token where
  text := value.text
  nonempty := value.ne_nil
  plain := value.plain

def Scalar.doc : Scalar → Doc
  | .null => .token nullToken
  | .bool true => .token trueToken
  | .bool false => .token falseToken
  | .int value => .token (intToken value)
  | .float value => .token (floatToken value)
  | .str value => .str value

/-- No floating-point number looks like an integer. -/
theorem FloatText.ne_decimal (value : FloatText) (n : Int) : value.text ≠ decimal n := by
  intro h
  have hmark : ∃ c ∈ value.text, c ∈ ['N', 'I', '.', 'e'] := by
    rcases value.wellFormed with hname | ⟨-, hdot | he⟩
    · have hnames : ∀ name ∈ [['N', 'a', 'N'], ['I', 'n', 'f', 'i', 'n', 'i', 't', 'y'],
          ['-', 'I', 'n', 'f', 'i', 'n', 'i', 't', 'y']],
            (name.any fun c => decide (c ∈ ['N', 'I', '.', 'e'])) = true := by
        decide
      obtain ⟨c, hc, hmark⟩ := List.any_eq_true.mp (hnames _ hname)
      exact ⟨c, hc, of_decide_eq_true hmark⟩
    · exact ⟨'.', hdot, by decide⟩
    · exact ⟨'e', he, by decide⟩
  obtain ⟨c, hc, hmark⟩ := hmark
  rw [h] at hc
  have hplain : (['N', 'I', '.', 'e'].all fun c => !(c.isDigit || c == '-')) = true := by decide
  have hother := List.all_eq_true.mp hplain c hmark
  rcases mem_decimal hc with hdigit | hminus
  · rw [hdigit] at hother
    cases hother
  · rw [hminus] at hother
    cases hother

def names : List (List Char) :=
  [['n', 'u', 'l', 'l'], ['t', 'r', 'u', 'e'], ['f', 'a', 'l', 's', 'e']]

theorem FloatText.notMem_names (value : FloatText) : value.text ∉ names := by
  intro h
  rcases value.wellFormed with hname | ⟨hchars, -⟩
  · have hdistinct : ∀ name ∈ [['N', 'a', 'N'], ['I', 'n', 'f', 'i', 'n', 'i', 't', 'y'],
        ['-', 'I', 'n', 'f', 'i', 'n', 'i', 't', 'y']], name ∉ names := by
      decide
    exact hdistinct _ hname h
  · have hletters : ∀ name ∈ names,
        (name.any fun c => !(c.isDigit || decide (c ∈ ['-', '+', '.', 'e']))) = true := by
      decide
    obtain ⟨c, hc, hletter⟩ := List.any_eq_true.mp (hletters _ h)
    rcases hchars c hc with hdigit | hsign
    · rw [hdigit] at hletter
      cases hletter
    · rw [decide_eq_true hsign, Bool.or_true] at hletter
      cases hletter

theorem decimal_notMem_names (n : Int) : decimal n ∉ names := by
  intro h
  have hletters : ∀ name ∈ names, (name.any fun c => !(c.isDigit || c == '-')) = true := by
    decide
  obtain ⟨c, hc, hletter⟩ := List.any_eq_true.mp (hletters _ h)
  rcases mem_decimal hc with hdigit | hminus
  · rw [hdigit] at hletter
    cases hletter
  · rw [hminus] at hletter
    cases hletter

theorem token_text_eq {token token' : Token} (h : Doc.token token = Doc.token token') :
    token.text = token'.text := by
  cases h
  rfl

theorem mem_names_of_eq {token token' : Token} (h : Doc.token token = Doc.token token')
    (hname : token.text ∈ names) : token'.text ∈ names := by
  rw [← token_text_eq h]
  exact hname

/-- A scalar is told by its text. -/
theorem Scalar.doc_injective : Function.Injective Scalar.doc := by
  intro scalar scalar' h
  have hnull : nullToken.text ∈ names := by decide
  have htrue : trueToken.text ∈ names := by decide
  have hfalse : falseToken.text ∈ names := by decide
  cases scalar with
  | null =>
    cases scalar' with
    | null => rfl
    | bool value' =>
      cases value' with
      | true => exact absurd (token_text_eq h) (by decide)
      | false => exact absurd (token_text_eq h) (by decide)
    | int value' => exact absurd (mem_names_of_eq h hnull) (decimal_notMem_names value')
    | float value' => exact absurd (mem_names_of_eq h hnull) value'.notMem_names
    | str value' => cases h
  | bool value =>
    cases scalar' with
    | null =>
      cases value with
      | true => exact absurd (token_text_eq h) (by decide)
      | false => exact absurd (token_text_eq h) (by decide)
    | bool value' =>
      cases value with
      | true =>
        cases value' with
        | true => rfl
        | false => exact absurd (token_text_eq h) (by decide)
      | false =>
        cases value' with
        | true => exact absurd (token_text_eq h) (by decide)
        | false => rfl
    | int value' =>
      cases value with
      | true => exact absurd (mem_names_of_eq h htrue) (decimal_notMem_names value')
      | false => exact absurd (mem_names_of_eq h hfalse) (decimal_notMem_names value')
    | float value' =>
      cases value with
      | true => exact absurd (mem_names_of_eq h htrue) value'.notMem_names
      | false => exact absurd (mem_names_of_eq h hfalse) value'.notMem_names
    | str value' =>
      cases value with
      | true => cases h
      | false => cases h
  | int value =>
    cases scalar' with
    | null => exact absurd (mem_names_of_eq h.symm hnull) (decimal_notMem_names value)
    | bool value' =>
      cases value' with
      | true => exact absurd (mem_names_of_eq h.symm htrue) (decimal_notMem_names value)
      | false => exact absurd (mem_names_of_eq h.symm hfalse) (decimal_notMem_names value)
    | int value' => rw [decimal_injective (token_text_eq h)]
    | float value' => exact absurd (token_text_eq h).symm (value'.ne_decimal value)
    | str value' => cases h
  | float value =>
    cases scalar' with
    | null => exact absurd (mem_names_of_eq h.symm hnull) value.notMem_names
    | bool value' =>
      cases value' with
      | true => exact absurd (mem_names_of_eq h.symm htrue) value.notMem_names
      | false => exact absurd (mem_names_of_eq h.symm hfalse) value.notMem_names
    | int value' => exact absurd (token_text_eq h) (value.ne_decimal value')
    | float value' =>
      have hsame : value.text = value'.text := token_text_eq h
      cases value
      cases value'
      cases hsame
      rfl
    | str value' => cases h
  | str value =>
    cases scalar' with
    | str value' =>
      cases h
      rfl
    | null => cases h
    | bool value' =>
      cases value' with
      | true => cases h
      | false => cases h
    | int value' => cases h
    | float value' => cases h

theorem Scalar.doc_ne_arr (scalar : Scalar) (items : List Doc) : scalar.doc ≠ .arr items := by
  cases scalar with
  | bool value =>
    cases value with
    | true => exact Doc.noConfusion
    | false => exact Doc.noConfusion
  | _ => exact Doc.noConfusion

theorem Scalar.doc_ne_obj (scalar : Scalar) (fields : List (String × Doc)) :
    scalar.doc ≠ .obj fields := by
  cases scalar with
  | bool value =>
    cases value with
    | true => exact Doc.noConfusion
    | false => exact Doc.noConfusion
  | _ => exact Doc.noConfusion

end Scalars

section Values

/-- What `json.loads` gives, and what `redact` does. -/
inductive JsonValue where
  | scalar (value : Scalar)
  | list (items : List JsonValue)
  | dict (fields : List (String × JsonValue))

/-- The fields in the order of their keys. -/
def sortFields {α : Type} (fields : List (String × α)) : List (String × α) :=
  fields.insertionSort (·.1 ≤ ·.1)

mutual

/-- The document that `json.dumps` writes, with its keys sorted. -/
def JsonValue.doc : JsonValue → Doc
  | .scalar value => value.doc
  | .list items => .arr (itemDocs items)
  | .dict fields => .obj (sortFields (fieldDocs fields))

def itemDocs : List JsonValue → List Doc
  | [] => []
  | item :: rest => item.doc :: itemDocs rest

def fieldDocs : List (String × JsonValue) → List (String × Doc)
  | [] => []
  | field :: rest => fieldDoc field :: fieldDocs rest

def fieldDoc : String × JsonValue → String × Doc
  | (key, value) => (key, value.doc)

end

mutual

/-- The value with the keys of every dictionary in their order. -/
def JsonValue.sorted : JsonValue → JsonValue
  | .scalar value => .scalar value
  | .list items => .list (sortedItems items)
  | .dict fields => .dict (sortFields (sortedFields fields))

def sortedItems : List JsonValue → List JsonValue
  | [] => []
  | item :: rest => item.sorted :: sortedItems rest

def sortedFields : List (String × JsonValue) → List (String × JsonValue)
  | [] => []
  | field :: rest => sortedField field :: sortedFields rest

def sortedField : String × JsonValue → String × JsonValue
  | (key, value) => (key, value.sorted)

end

mutual

/-- What holds of scalars, and of lists and dictionaries when it holds of all in them, holds of
every value. -/
theorem JsonValue.induct {P : JsonValue → Prop} (hscalar : ∀ value, P (.scalar value))
    (hlist : ∀ items, (∀ item ∈ items, P item) → P (.list items))
    (hdict : ∀ fields : List (String × JsonValue),
      (∀ field ∈ fields, P field.2) → P (.dict fields)) :
    (value : JsonValue) → P value
  | .scalar value => hscalar value
  | .list items => hlist items (JsonValue.induct_items hscalar hlist hdict items)
  | .dict fields => hdict fields (JsonValue.induct_fields hscalar hlist hdict fields)

theorem JsonValue.induct_items {P : JsonValue → Prop} (hscalar : ∀ value, P (.scalar value))
    (hlist : ∀ items, (∀ item ∈ items, P item) → P (.list items))
    (hdict : ∀ fields : List (String × JsonValue),
      (∀ field ∈ fields, P field.2) → P (.dict fields)) :
    (items : List JsonValue) → ∀ item ∈ items, P item
  | [] => by simp
  | item :: rest => by
    intro other hother
    rcases List.mem_cons.mp hother with hfirst | hrest
    · rw [hfirst]
      exact JsonValue.induct hscalar hlist hdict item
    · exact JsonValue.induct_items hscalar hlist hdict rest other hrest

theorem JsonValue.induct_fields {P : JsonValue → Prop} (hscalar : ∀ value, P (.scalar value))
    (hlist : ∀ items, (∀ item ∈ items, P item) → P (.list items))
    (hdict : ∀ fields : List (String × JsonValue),
      (∀ field ∈ fields, P field.2) → P (.dict fields)) :
    (fields : List (String × JsonValue)) → ∀ field ∈ fields, P field.2
  | [] => by simp
  | (key, value) :: rest => by
    intro other hother
    rcases List.mem_cons.mp hother with hfirst | hrest
    · rw [hfirst]
      exact JsonValue.induct hscalar hlist hdict value
    · exact JsonValue.induct_fields hscalar hlist hdict rest other hrest

end

theorem itemDocs_eq (items : List JsonValue) : itemDocs items = items.map JsonValue.doc := by
  induction items with
  | nil => rw [itemDocs, List.map_nil]
  | cons item rest ih => rw [itemDocs, ih, List.map_cons]

theorem fieldDocs_eq (fields : List (String × JsonValue)) :
    fieldDocs fields = fields.map fun field => (field.1, field.2.doc) := by
  induction fields with
  | nil => rw [fieldDocs, List.map_nil]
  | cons field rest ih => rw [fieldDocs, ih, List.map_cons, fieldDoc]

theorem sortedItems_eq (items : List JsonValue) :
    sortedItems items = items.map JsonValue.sorted := by
  induction items with
  | nil => rw [sortedItems, List.map_nil]
  | cons item rest ih => rw [sortedItems, ih, List.map_cons]

theorem sortedFields_eq (fields : List (String × JsonValue)) :
    sortedFields fields = fields.map fun field => (field.1, field.2.sorted) := by
  induction fields with
  | nil => rw [sortedFields, List.map_nil]
  | cons field rest ih => rw [sortedFields, ih, List.map_cons, sortedField]

/-- A function of the fields that keeps their keys keeps their order. -/
theorem sortFields_map_of_key {α β : Type} {f : String × α → String × β}
    (hkey : ∀ field, (f field).1 = field.1) (fields : List (String × α)) :
    sortFields (fields.map f) = (sortFields fields).map f := by
  unfold sortFields
  symm
  apply List.map_insertionSort
  intro field _ other _
  rw [hkey, hkey]

theorem sortFields_map {α β : Type} (f : α → β) (fields : List (String × α)) :
    sortFields (fields.map fun field => (field.1, f field.2)) =
      (sortFields fields).map fun field => (field.1, f field.2) := by
  apply sortFields_map_of_key
  intro field
  rfl

theorem pairwise_sortFields {α : Type} (fields : List (String × α)) :
    (sortFields fields).Pairwise (·.1 ≤ ·.1) := by
  unfold sortFields
  exact List.pairwise_insertionSort _ _

theorem sortFields_sortFields {α : Type} (fields : List (String × α)) :
    sortFields (sortFields fields) = sortFields fields :=
  (pairwise_sortFields fields).insertionSort_eq

theorem mem_sortFields {α : Type} {fields : List (String × α)} {field : String × α} :
    field ∈ sortFields fields ↔ field ∈ fields :=
  List.mem_insertionSort _

/-- Where equal images under one function have equal images under another, so have lists. -/
theorem map_eq_of_map_eq {α β γ : Type} {f : α → β} {g : α → γ} {l l' : List α}
    (h : ∀ a ∈ l, ∀ b ∈ l', f a = f b → g a = g b) (heq : l.map f = l'.map f) :
    l.map g = l'.map g := by
  induction l generalizing l' with
  | nil =>
    cases l' with
    | nil => rfl
    | cons b rest' => cases heq
  | cons a rest ih =>
    cases l' with
    | nil => cases heq
    | cons b rest' =>
      obtain ⟨hhead, htail⟩ := List.cons.inj heq
      rw [List.map_cons, List.map_cons, h a List.mem_cons_self b List.mem_cons_self hhead,
        ih (fun c hc d hd => h c (List.mem_cons_of_mem _ hc) d (List.mem_cons_of_mem _ hd)) htail]

/-- Values of one text are the same but for the order of their keys. -/
theorem JsonValue.sorted_eq_of_doc_eq {value value' : JsonValue} (h : value.doc = value'.doc) :
    value.sorted = value'.sorted := by
  induction value using JsonValue.induct generalizing value' with
  | hscalar scalar =>
    cases value' with
    | scalar scalar' =>
      rw [JsonValue.doc, JsonValue.doc] at h
      rw [Scalar.doc_injective h]
    | list items' =>
      rw [JsonValue.doc, JsonValue.doc] at h
      exact absurd h (Scalar.doc_ne_arr scalar _)
    | dict fields' =>
      rw [JsonValue.doc, JsonValue.doc] at h
      exact absurd h (Scalar.doc_ne_obj scalar _)
  | hlist items ih =>
    cases value' with
    | scalar scalar' =>
      rw [JsonValue.doc, JsonValue.doc] at h
      exact absurd h.symm (Scalar.doc_ne_arr scalar' _)
    | list items' =>
      rw [JsonValue.doc, JsonValue.doc, itemDocs_eq, itemDocs_eq] at h
      rw [JsonValue.sorted, JsonValue.sorted, sortedItems_eq, sortedItems_eq]
      rw [map_eq_of_map_eq (fun item hitem other _ hsame => ih item hitem hsame)
        (Doc.arr.inj h)]
    | dict fields' =>
      rw [JsonValue.doc, JsonValue.doc] at h
      cases h
  | hdict fields ih =>
    cases value' with
    | scalar scalar' =>
      rw [JsonValue.doc, JsonValue.doc] at h
      exact absurd h.symm (Scalar.doc_ne_obj scalar' _)
    | list items' =>
      rw [JsonValue.doc, JsonValue.doc] at h
      cases h
    | dict fields' =>
      rw [JsonValue.doc, JsonValue.doc, fieldDocs_eq, fieldDocs_eq, sortFields_map JsonValue.doc,
        sortFields_map JsonValue.doc] at h
      rw [JsonValue.sorted, JsonValue.sorted, sortedFields_eq, sortedFields_eq,
        sortFields_map JsonValue.sorted, sortFields_map JsonValue.sorted]
      have hfields : ∀ field ∈ sortFields fields, ∀ other ∈ sortFields fields',
          (field.1, field.2.doc) = (other.1, other.2.doc) →
            (field.1, field.2.sorted) = (other.1, other.2.sorted) := by
        intro field hfield other _ hsame
        obtain ⟨hkey, hdoc⟩ := Prod.mk.inj hsame
        rw [hkey, ih field (mem_sortFields.mp hfield) hdoc]
      rw [map_eq_of_map_eq hfields (Doc.obj.inj h)]

/-- Dictionaries that are the same but for the order of their keys have the same values, but for
the order of theirs. -/
theorem JsonValue.value_eq_of_sorted_eq {fields fields' : List (String × JsonValue)}
    (h : (JsonValue.dict fields).sorted = (JsonValue.dict fields').sorted)
    (hkeys : (fields'.map (·.1)).Nodup) {key : String} {value value' : JsonValue}
    (hmem : (key, value) ∈ fields) (hmem' : (key, value') ∈ fields') :
    value.sorted = value'.sorted := by
  rw [JsonValue.sorted, JsonValue.sorted] at h
  have hfields := JsonValue.dict.inj h
  have hfound : (key, value.sorted) ∈ sortedFields fields' := by
    rw [← mem_sortFields, ← hfields, mem_sortFields, sortedFields_eq]
    exact List.mem_map.mpr ⟨(key, value), hmem, rfl⟩
  rw [sortedFields_eq] at hfound
  obtain ⟨⟨other, found⟩, hother, heq⟩ := List.mem_map.mp hfound
  obtain ⟨hkey, hvalue⟩ := Prod.mk.inj heq
  have hsame : ((other, found) : String × JsonValue) = (key, value') :=
    List.inj_on_of_nodup_map hkeys hother hmem' hkey
  rw [← hvalue, (Prod.mk.inj hsame).2]

end Values

section Texts

/-- `json.dumps(value, sort_keys=True, separators=(",", ":"), ensure_ascii=True)`. -/
def JsonValue.dumps (value : JsonValue) : String :=
  String.ofList value.doc.render

theorem JsonValue.sorted_eq_of_dumps_eq {value value' : JsonValue}
    (h : value.dumps = value'.dumps) : value.sorted = value'.sorted :=
  JsonValue.sorted_eq_of_doc_eq (Doc.render_injective (String.ofList_inj.mp h))

end Texts

end GhostRecon
