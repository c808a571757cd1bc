import GhostRecon.Common.JsonText
import GhostRecon.Lib.Dict
import GhostRecon.Lib.Sorted

/-!
The arguments of a task. They are digested when the task is published, and again when a worker
has them, after a round trip through JSON: tuples are lists by then, and the keys of dictionaries
texts. Keys are sorted by their own order when they are digested, numbers as numbers at first and
as texts when they come back.
-/

namespace GhostRecon.Security

open Lib (Dict)
open Lib.CanonicalJson (Doc)

section Arguments

inductive ArgumentKey where
  | str (text : String)
  | int (value : Int)
  deriving DecidableEq

def ArgumentKey.isText : ArgumentKey → Bool
  | .str _ => true
  | .int _ => false

/-- The text of a key in JSON. -/
def ArgumentKey.text : ArgumentKey → String
  | .str text => text
  | .int value => String.ofList (decimal value)

/-- The number of a key that is one. -/
def ArgumentKey.number : ArgumentKey → Int
  | .str _ => 0
  | .int value => value

/-- What a task is called with. -/
inductive Argument where
  | scalar (value : Scalar)
  | list (items : List Argument)
  | tuple (items : List Argument)
  | dict (fields : List (ArgumentKey × Argument))

/-- The keys of every dictionary are distinct. -/
inductive Argument.WellFormed : Argument → Prop
  | scalar (value : Scalar) : WellFormed (.scalar value)
  | list (items : List Argument) (hitems : ∀ item ∈ items, WellFormed item) :
    WellFormed (.list items)
  | tuple (items : List Argument) (hitems : ∀ item ∈ items, WellFormed item) :
    WellFormed (.tuple items)
  | dict (fields : List (ArgumentKey × Argument)) (hkeys : (fields.map (·.1)).Nodup)
    (hfields : ∀ field ∈ fields, WellFormed field.2) : WellFormed (.dict fields)

/-- A field under the text of its key. -/
def textField {α : Type} (field : ArgumentKey × α) : String × α :=
  (field.1.text, field.2)

/-- The fields as `json.dumps` sorts and writes them; texts and numbers are not compared. -/
def sortItems {α : Type} (fields : List (ArgumentKey × α)) : Option (List (String × α)) :=
  if fields.all (·.1.isText) then some (sortFields (fields.map textField))
  else if fields.all (!·.1.isText) then
    some ((fields.insertionSort (·.1.number ≤ ·.1.number)).map textField)
  else none

mutual

/-- What `json.dumps` writes of an argument; none where keys of a dictionary are not compared. -/
def Argument.doc : Argument → Option Doc
  | .scalar value => some value.doc
  | .list items => (argumentDocs items).map Doc.arr
  | .tuple items => (argumentDocs items).map Doc.arr
  | .dict fields => ((argumentFields fields).bind sortItems).map Doc.obj

def argumentDocs : List Argument → Option (List Doc)
  | [] => some []
  | item :: rest => item.doc.bind fun doc => (argumentDocs rest).map (doc :: ·)

def argumentFields : List (ArgumentKey × Argument) → Option (List (ArgumentKey × Doc))
  | [] => some []
  | field :: rest =>
    (argumentField field).bind fun doc => (argumentFields rest).map (doc :: ·)

def argumentField : ArgumentKey × Argument → Option (ArgumentKey × Doc)
  | (key, value) => value.doc.map fun doc => (key, doc)

end

/-- `canonical_argument_digest`. -/
def canonicalArgumentDigest (sha256 : String → String) (args kwargs : Argument) : Option String :=
  (Argument.dict [(.str "args", args), (.str "kwargs", kwargs)]).doc.map fun doc =>
    sha256 (String.ofList doc.render)

end Arguments

section RoundTrip

/-- A dictionary of pairs; of two with one key the last stays, in the place of the first. -/
def loadPairs {α : Type} (pairs : List (String × α)) : List (String × α) :=
  pairs.foldl (fun entries pair => Dict.set pair.1 pair.2 entries) []

mutual

/-- The argument after a round trip through JSON. -/
def Argument.roundTrip : Argument → JsonValue
  | .scalar value => .scalar value
  | .list items => .list (tripItems items)
  | .tuple items => .list (tripItems items)
  | .dict fields => .dict (loadPairs (tripFields fields))

def tripItems : List Argument → List JsonValue
  | [] => []
  | item :: rest => item.roundTrip :: tripItems rest

def tripFields : List (ArgumentKey × Argument) → List (String × JsonValue)
  | [] => []
  | field :: rest => tripField field :: tripFields rest

def tripField : ArgumentKey × Argument → String × JsonValue
  | (key, value) => (key.text, value.roundTrip)

end

mutual

/-- What a worker has, as an argument. -/
def toArgument : JsonValue → Argument
  | .scalar value => .scalar value
  | .list items => .list (toArguments items)
  | .dict fields => .dict (toArgumentFields fields)

def toArguments : List JsonValue → List Argument
  | [] => []
  | item :: rest => toArgument item :: toArguments rest

def toArgumentFields : List (String × JsonValue) → List (ArgumentKey × Argument)
  | [] => []
  | field :: rest => toArgumentField field :: toArgumentFields rest

def toArgumentField : String × JsonValue → ArgumentKey × Argument
  | (key, value) => (.str key, toArgument value)

end

/-- The keys are all texts, or all numbers whose texts are in the order of the numbers. -/
def KeysKeepOrder (keys : List ArgumentKey) : Prop :=
  (∀ key ∈ keys, key.isText = true) ∨
    (∀ key ∈ keys, key.isText = false) ∧
      ∀ key ∈ keys, ∀ key' ∈ keys, key.number < key'.number → key.text < key'.text

/-- The keys of every dictionary keep their order. -/
inductive Argument.Portable : Argument → Prop
  | scalar (value : Scalar) : Portable (.scalar value)
  | list (items : List Argument) (hitems : ∀ item ∈ items, Portable item) : Portable (.list items)
  | tuple (items : List Argument) (hitems : ∀ item ∈ items, Portable item) :
    Portable (.tuple items)
  | dict (fields : List (ArgumentKey × Argument)) (hkeys : KeysKeepOrder (fields.map (·.1)))
    (hfields : ∀ field ∈ fields, Portable field.2) : Portable (.dict fields)

end RoundTrip

section Lists

mutual

/-- What holds of scalars, and of lists, tuples and dictionaries when it holds of all in them,
holds of every argument. -/
theorem Argument.induct {P : Argument → Prop} (hscalar : ∀ value, P (.scalar value))
    (hlist : ∀ items, (∀ item ∈ items, P item) → P (.list items))
    (htuple : ∀ items, (∀ item ∈ items, P item) → P (.tuple items))
    (hdict : ∀ fields : List (ArgumentKey × Argument),
      (∀ field ∈ fields, P field.2) → P (.dict fields)) :
    (argument : Argument) → P argument
  | .scalar value => hscalar value
  | .list items => hlist items (Argument.induct_items hscalar hlist htuple hdict items)
  | .tuple items => htuple items (Argument.induct_items hscalar hlist htuple hdict items)
  | .dict fields => hdict fields (Argument.induct_fields hscalar hlist htuple hdict fields)

theorem Argument.induct_items {P : Argument → Prop} (hscalar : ∀ value, P (.scalar value))
    (hlist : ∀ items, (∀ item ∈ items, P item) → P (.list items))
    (htuple : ∀ items, (∀ item ∈ items, P item) → P (.tuple items))
    (hdict : ∀ fields : List (ArgumentKey × Argument),
      (∀ field ∈ fields, P field.2) → P (.dict fields)) :
    (items : List Argument) → ∀ item ∈ items, P item
  | [] => by simp
  | item :: rest => by
    intro chosen hchosen
    rcases List.mem_cons.mp hchosen with hfirst | hrest
    · rw [hfirst]
      exact Argument.induct hscalar hlist htuple hdict item
    · exact Argument.induct_items hscalar hlist htuple hdict rest chosen hrest

theorem Argument.induct_fields {P : Argument → Prop} (hscalar : ∀ value, P (.scalar value))
    (hlist : ∀ items, (∀ item ∈ items, P item) → P (.list items))
    (htuple : ∀ items, (∀ item ∈ items, P item) → P (.tuple items))
    (hdict : ∀ fields : List (ArgumentKey × Argument),
      (∀ field ∈ fields, P field.2) → P (.dict fields)) :
    (fields : List (ArgumentKey × Argument)) → ∀ field ∈ fields, P field.2
  | [] => by simp
  | (key, value) :: rest => by
    intro chosen hchosen
    rcases List.mem_cons.mp hchosen with hfirst | hrest
    · rw [hfirst]
      exact Argument.induct hscalar hlist htuple hdict value
    · exact Argument.induct_fields hscalar hlist htuple hdict rest chosen hrest

end

theorem argumentDocs_eq_some {items : List Argument} {docs : List Doc} :
    argumentDocs items = some docs ↔
      List.Forall₂ (fun item doc => item.doc = some doc) items docs := by
  induction items generalizing docs with
  | nil =>
    rw [argumentDocs, Option.some.injEq, List.forall₂_nil_left_iff]
    exact eq_comm
  | cons item rest ih =>
    rw [argumentDocs, Option.bind_eq_some_iff, List.forall₂_cons_left_iff]
    constructor
    · rintro ⟨doc, hdoc, hrest⟩
      obtain ⟨docs', hdocs, rfl⟩ := Option.map_eq_some_iff.mp hrest
      exact ⟨doc, docs', hdoc, ih.mp hdocs, rfl⟩
    · rintro ⟨doc, docs', hdoc, hdocs, rfl⟩
      exact ⟨doc, hdoc, by rw [ih.mpr hdocs, Option.map_some]⟩

theorem argumentFields_eq_some {fields : List (ArgumentKey × Argument)}
    {docs : List (ArgumentKey × Doc)} :
    argumentFields fields = some docs ↔
      List.Forall₂ (fun field doc => field.1 = doc.1 ∧ field.2.doc = some doc.2) fields docs := by
  induction fields generalizing docs with
  | nil =>
    rw [argumentFields, Option.some.injEq, List.forall₂_nil_left_iff]
    exact eq_comm
  | cons field rest ih =>
    obtain ⟨key, value⟩ := field
    rw [argumentFields, Option.bind_eq_some_iff, List.forall₂_cons_left_iff, argumentField]
    constructor
    · rintro ⟨doc, hdoc, hrest⟩
      obtain ⟨found, hfound, rfl⟩ := Option.map_eq_some_iff.mp hdoc
      obtain ⟨docs', hdocs, rfl⟩ := Option.map_eq_some_iff.mp hrest
      exact ⟨(key, found), docs', ⟨rfl, hfound⟩, ih.mp hdocs, rfl⟩
    · rintro ⟨⟨key', found⟩, docs', ⟨hkey, hfound⟩, hdocs, rfl⟩
      refine ⟨(key', found), ?_, by rw [ih.mpr hdocs, Option.map_some]⟩
      obtain rfl : key = key' := hkey
      rw [hfound, Option.map_some]

theorem tripItems_eq (items : List Argument) :
    tripItems items = items.map Argument.roundTrip := by
  induction items with
  | nil => rw [tripItems, List.map_nil]
  | cons item rest ih => rw [tripItems, ih, List.map_cons]

theorem tripFields_eq (fields : List (ArgumentKey × Argument)) :
    tripFields fields = fields.map fun field => (field.1.text, field.2.roundTrip) := by
  induction fields with
  | nil => rw [tripFields, List.map_nil]
  | cons field rest ih => rw [tripFields, ih, List.map_cons, tripField]

theorem toArguments_eq (items : List JsonValue) : toArguments items = items.map toArgument := by
  induction items with
  | nil => rw [toArguments, List.map_nil]
  | cons item rest ih => rw [toArguments, ih, List.map_cons]

theorem toArgumentFields_eq (fields : List (String × JsonValue)) :
    toArgumentFields fields = fields.map fun field => (.str field.1, toArgument field.2) := by
  induction fields with
  | nil => rw [toArgumentFields, List.map_nil]
  | cons field rest ih => rw [toArgumentFields, ih, List.map_cons, toArgumentField]

end Lists

section Orders

variable {α : Type}

/-- Fields under the same keys in one order and the same but for their order are the same. -/
theorem eq_of_perm_of_keys {κ : Type} {fields fields' : List (κ × α)}
    (hkeys : fields.map (·.1) = fields'.map (·.1)) (hnodup : (fields.map (·.1)).Nodup)
    (hperm : fields.Perm fields') : fields = fields' := by
  induction fields generalizing fields' with
  | nil => exact (List.nil_perm.mp hperm).symm
  | cons field rest ih =>
    cases fields' with
    | nil => cases hkeys
    | cons field' rest' =>
      obtain ⟨hkey, hrest⟩ := List.cons.inj hkeys
      obtain ⟨hfresh, hnodup⟩ := List.nodup_cons.mp hnodup
      have hsame : field = field' := by
        rcases List.mem_cons.mp (hperm.subset List.mem_cons_self) with hsame | hmem
        · exact hsame
        · rw [hrest] at hfresh
          exact absurd (List.mem_map.mpr ⟨field, hmem, rfl⟩) hfresh
      rw [hsame, ih hrest hnodup (by rw [hsame] at hperm; exact hperm.cons_inv)]

/-- Distinct keys make the dictionary of the pairs the pairs themselves. -/
theorem loadPairs_append {pairs : List (String × α)} {entries : List (String × α)}
    (hnodup : ((entries ++ pairs).map (·.1)).Nodup) :
    pairs.foldl (fun entries pair => Dict.set pair.1 pair.2 entries) entries =
      entries ++ pairs := by
  induction pairs generalizing entries with
  | nil => rw [List.foldl_nil, List.append_nil]
  | cons pair rest ih =>
    have hsplit : entries ++ pair :: rest = (entries ++ [pair]) ++ rest := by simp
    have hnew : pair.1 ∉ Dict.keys entries := by
      rw [List.map_append, List.nodup_append] at hnodup
      intro hmem
      exact hnodup.2.2 pair.1 hmem pair.1 List.mem_cons_self rfl
    rw [List.foldl_cons, Dict.set_new hnew, hsplit]
    apply ih
    rw [← hsplit]
    exact hnodup

theorem loadPairs_eq {pairs : List (String × α)} (hnodup : (pairs.map (·.1)).Nodup) :
    loadPairs pairs = pairs := by
  apply loadPairs_append
  rw [List.nil_append]
  exact hnodup

theorem text_injective_of_texts {key key' : ArgumentKey} (h : key.isText = true)
    (h' : key'.isText = true) (heq : key.text = key'.text) : key = key' := by
  cases key with
  | int _ => cases h
  | str text =>
    cases key' with
    | int _ => cases h'
    | str text' => exact congrArg ArgumentKey.str heq

theorem text_injective_of_numbers {key key' : ArgumentKey} (h : key.isText = false)
    (h' : key'.isText = false) (heq : key.text = key'.text) : key = key' := by
  cases key with
  | str _ => cases h
  | int value =>
    cases key' with
    | str _ => cases h'
    | int value' => exact congrArg ArgumentKey.int (decimal_injective (String.ofList_inj.mp heq))

theorem number_injective {key key' : ArgumentKey} (h : key.isText = false)
    (h' : key'.isText = false) (heq : key.number = key'.number) : key = key' := by
  cases key with
  | str _ => cases h
  | int value =>
    cases key' with
    | str _ => cases h'
    | int value' => exact congrArg ArgumentKey.int heq

/-- Keys of one kind have distinct texts. -/
theorem texts_nodup {keys : List ArgumentKey} (hnodup : keys.Nodup)
    (hkind : (∀ key ∈ keys, key.isText = true) ∨ ∀ key ∈ keys, key.isText = false) :
    (keys.map ArgumentKey.text).Nodup := by
  rw [List.nodup_map_iff_inj_on hnodup]
  intro key hkey key' hkey' heq
  rcases hkind with htexts | hnumbers
  · exact text_injective_of_texts (htexts key hkey) (htexts key' hkey') heq
  · exact text_injective_of_numbers (hnumbers key hkey) (hnumbers key' hkey') heq

variable {fields : List (ArgumentKey × α)}

theorem sortItems_texts (h : ∀ field ∈ fields, field.1.isText = true) :
    sortItems fields = some (sortFields (fields.map textField)) := by
  unfold sortItems
  rw [if_pos (List.all_eq_true.mpr h)]

theorem sortItems_numbers (h : ∀ field ∈ fields, field.1.isText = false) :
    sortItems fields =
      some ((fields.insertionSort (·.1.number ≤ ·.1.number)).map textField) := by
  unfold sortItems
  have hnumbers : fields.all (!·.1.isText) = true :=
    List.all_eq_true.mpr fun field hfield => by rw [h field hfield]; rfl
  by_cases hall : fields.all (·.1.isText) = true
  · cases fields with
    | nil => rfl
    | cons field rest =>
      have htext := List.all_eq_true.mp hall field List.mem_cons_self
      rw [h field List.mem_cons_self] at htext
      cases htext
  · rw [if_neg hall, if_pos hnumbers]

/-- What is sorted is the fields under their texts, and keys of two kinds are not sorted. -/
theorem sortItems_some {sorted : List (String × α)} (h : sortItems fields = some sorted) :
    sorted.Perm (fields.map textField) ∧
      ((∀ field ∈ fields, field.1.isText = true) ∨ ∀ field ∈ fields, field.1.isText = false) := by
  unfold sortItems at h
  split at h
  · next hall =>
    obtain rfl := Option.some.inj h
    exact ⟨List.perm_insertionSort _ _, Or.inl (List.all_eq_true.mp hall)⟩
  · split at h
    · next hnone =>
      obtain rfl := Option.some.inj h
      refine ⟨(List.perm_insertionSort _ _).map _, Or.inr ?_⟩
      intro field hfield
      have hnumber := List.all_eq_true.mp hnone field hfield
      rwa [Bool.not_eq_true'] at hnumber
    · cases h

/-- Fields are sorted when they are in the order of distinct keys. -/
theorem eq_sortFields_iff {sorted named : List (String × α)} (hperm : sorted.Perm named)
    (hnodup : (named.map (·.1)).Nodup) :
    sorted = sortFields named ↔ sorted.Pairwise (·.1 ≤ ·.1) := by
  constructor
  · intro h
    rw [h]
    exact pairwise_sortFields named
  · intro hsorted
    have hsame : sorted.Perm (sortFields named) :=
      hperm.trans (List.perm_insertionSort _ _).symm
    apply hsame.eq_of_pairwise _ hsorted (pairwise_sortFields named)
    intro field other hfield hother hle hge
    exact List.inj_on_of_nodup_map hnodup (hperm.subset hfield) (mem_sortFields.mp hother)
      (le_antisymm hle hge)

theorem textField_keys (fields : List (ArgumentKey × α)) :
    (fields.map textField).map (·.1) = (fields.map (·.1)).map ArgumentKey.text := by
  rw [List.map_map, List.map_map]
  rfl

/-- Numbers that are distinct are in strict order when they are sorted. -/
theorem numbers_strict (hnodup : (fields.map (·.1)).Nodup)
    (hnumbers : ∀ field ∈ fields, field.1.isText = false) :
    (fields.insertionSort (·.1.number ≤ ·.1.number)).Pairwise (·.1.number < ·.1.number) := by
  have hperm := List.perm_insertionSort (fun field other : ArgumentKey × α =>
    field.1.number ≤ other.1.number) fields
  have hdistinct : (fields.insertionSort (·.1.number ≤ ·.1.number)).Pairwise
      (·.1 ≠ ·.1) := by
    have hkeys := (hperm.map (·.1)).nodup_iff.mpr hnodup
    exact List.pairwise_map.mp hkeys
  have hsorted := List.pairwise_insertionSort (fun field other : ArgumentKey × α =>
    field.1.number ≤ other.1.number) fields
  refine (hsorted.and hdistinct).imp_of_mem ?_
  rintro field other hfield hother ⟨hle, hne⟩
  apply lt_of_le_of_ne hle
  intro heq
  exact hne (number_injective (hnumbers _ (hperm.subset hfield))
    (hnumbers _ (hperm.subset hother)) heq)

/-- Numbers in their order are texts in order exactly when the order of the texts is that of the
numbers. -/
theorem numbers_sorted_iff (hnodup : (fields.map (·.1)).Nodup)
    (hnumbers : ∀ field ∈ fields, field.1.isText = false) :
    (fields.insertionSort (·.1.number ≤ ·.1.number)).map textField =
        sortFields (fields.map textField) ↔
      ∀ key ∈ fields.map (·.1), ∀ key' ∈ fields.map (·.1),
        key.number < key'.number → key.text < key'.text := by
  have hperm := List.perm_insertionSort (fun field other : ArgumentKey × α =>
    field.1.number ≤ other.1.number) fields
  have hkeys : ∀ key ∈ fields.map (·.1), key.isText = false := by
    intro key hkey
    obtain ⟨field, hfield, rfl⟩ := List.mem_map.mp hkey
    exact hnumbers field hfield
  have hnames : ((fields.map textField).map (·.1)).Nodup := by
    rw [textField_keys]
    exact texts_nodup hnodup (Or.inr hkeys)
  rw [eq_sortFields_iff (hperm.map textField) hnames, List.pairwise_map,
    Lib.pairwise_iff_of_keys (numbers_strict hnodup hnumbers)]
  constructor
  · intro h key hkey key' hkey' hlt
    obtain ⟨field, hfield, rfl⟩ := List.mem_map.mp hkey
    obtain ⟨field', hfield', rfl⟩ := List.mem_map.mp hkey'
    apply lt_of_le_of_ne
      (h field (hperm.symm.subset hfield) field' (hperm.symm.subset hfield') hlt)
    intro heq
    have hsame := text_injective_of_numbers (hnumbers _ hfield) (hnumbers _ hfield') heq
    rw [hsame] at hlt
    exact lt_irrefl _ hlt
  · intro h field hfield field' hfield' hlt
    exact le_of_lt (h field.1 (List.mem_map.mpr ⟨field, hperm.subset hfield, rfl⟩) field'.1
      (List.mem_map.mpr ⟨field', hperm.subset hfield', rfl⟩) hlt)

end Orders

section Digests

/-- A worker's argument is digested as it stands. -/
theorem toArgument_doc (value : JsonValue) : (toArgument value).doc = some value.doc := by
  induction value using JsonValue.induct with
  | hscalar scalar => rw [toArgument, Argument.doc, JsonValue.doc]
  | hlist items ih =>
    have hitems : argumentDocs (items.map toArgument) = some (items.map JsonValue.doc) := by
      rw [argumentDocs_eq_some, List.forall₂_map_left_iff, List.forall₂_map_right_iff,
        List.forall₂_same]
      exact ih
    rw [toArgument, toArguments_eq, Argument.doc, hitems, JsonValue.doc, itemDocs_eq,
      Option.map_some]
  | hdict fields ih =>
    have hfields : argumentFields (fields.map fun field => (.str field.1, toArgument field.2)) =
        some (fields.map fun field => (.str field.1, field.2.doc)) := by
      rw [argumentFields_eq_some, List.forall₂_map_left_iff, List.forall₂_map_right_iff,
        List.forall₂_same]
      intro field hfield
      exact ⟨rfl, ih field hfield⟩
    rw [toArgument, toArgumentFields_eq, Argument.doc, hfields, Option.bind_some,
      sortItems_texts, JsonValue.doc, fieldDocs_eq, List.map_map]
    · rfl
    · intro field hfield
      obtain ⟨source, -, rfl⟩ := List.mem_map.mp hfield
      rfl

theorem roundTrip_list_doc (items : List Argument) :
    (JsonValue.list (tripItems items)).doc =
      .arr (items.map fun item => item.roundTrip.doc) := by
  rw [JsonValue.doc, itemDocs_eq, tripItems_eq, List.map_map]
  rfl

/-- The items of a list keep their documents exactly when each does. -/
theorem argumentDocs_roundTrip (items : List Argument) :
    (argumentDocs items).map Doc.arr =
        some (Doc.arr (items.map fun item => item.roundTrip.doc)) ↔
      ∀ item ∈ items, item.doc = some item.roundTrip.doc := by
  rw [Option.map_eq_some_iff]
  constructor
  · rintro ⟨docs, hdocs, heq⟩
    obtain rfl := Doc.arr.inj heq
    rwa [argumentDocs_eq_some, List.forall₂_map_right_iff, List.forall₂_same] at hdocs
  · intro h
    refine ⟨_, ?_, rfl⟩
    rw [argumentDocs_eq_some, List.forall₂_map_right_iff, List.forall₂_same]
    exact h

/-- The documents of the fields after the round trip. -/
def tripDocs (fields : List (ArgumentKey × Argument)) : List (ArgumentKey × Doc) :=
  fields.map fun field => (field.1, field.2.roundTrip.doc)

theorem tripDocs_keys (fields : List (ArgumentKey × Argument)) :
    (tripDocs fields).map (·.1) = fields.map (·.1) := by
  unfold tripDocs
  rw [List.map_map]
  rfl

theorem argumentFields_tripDocs {fields : List (ArgumentKey × Argument)} :
    argumentFields fields = some (tripDocs fields) ↔
      ∀ field ∈ fields, field.2.doc = some field.2.roundTrip.doc := by
  unfold tripDocs
  rw [argumentFields_eq_some, List.forall₂_map_right_iff, List.forall₂_same]
  constructor
  · intro h field hfield
    exact (h field hfield).2
  · intro h field hfield
    exact ⟨rfl, h field hfield⟩

theorem argumentFields_keys {fields : List (ArgumentKey × Argument)}
    {docs : List (ArgumentKey × Doc)} (h : argumentFields fields = some docs) :
    docs.map (·.1) = fields.map (·.1) := by
  rw [argumentFields_eq_some] at h
  induction h with
  | nil => rfl
  | cons hhead _ ih => rw [List.map_cons, List.map_cons, ih, hhead.1]

/-- The document of a dictionary after the round trip. -/
theorem roundTrip_dict_doc {fields : List (ArgumentKey × Argument)}
    (hnodup : (fields.map (·.1)).Nodup)
    (hkind : (∀ key ∈ fields.map (·.1), key.isText = true) ∨
      ∀ key ∈ fields.map (·.1), key.isText = false) :
    (JsonValue.dict (loadPairs (tripFields fields))).doc =
      .obj (sortFields ((tripDocs fields).map textField)) := by
  have hnames : ((tripFields fields).map (·.1)).Nodup := by
    have htexts := texts_nodup hnodup hkind
    rw [List.map_map] at htexts
    rw [tripFields_eq, List.map_map]
    exact htexts
  rw [loadPairs_eq hnames, JsonValue.doc, fieldDocs_eq, tripFields_eq]
  unfold tripDocs
  rw [List.map_map, List.map_map]
  rfl

theorem eq_of_components {α β : Type} {l l' : List (α × β)} (hfst : l.map (·.1) = l'.map (·.1))
    (hsnd : l.map (·.2) = l'.map (·.2)) : l = l' := by
  have hzip := List.zip_unzip l
  have hzip' := List.zip_unzip l'
  rw [List.unzip_fst, List.unzip_snd] at hzip hzip'
  rw [← hzip, ← hzip']
  exact congrArg₂ List.zip hfst hsnd

/-- A dictionary keeps its document exactly when its keys keep their order and its values their
documents. -/
theorem argumentFields_roundTrip {fields : List (ArgumentKey × Argument)}
    (hnodup : (fields.map (·.1)).Nodup) :
    ((argumentFields fields).bind sortItems).map Doc.obj =
        some (JsonValue.dict (loadPairs (tripFields fields))).doc ↔
      KeysKeepOrder (fields.map (·.1)) ∧
        ∀ field ∈ fields, field.2.doc = some field.2.roundTrip.doc := by
  have hkeys := tripDocs_keys fields
  have hnodup' : ((tripDocs fields).map (·.1)).Nodup := by rwa [hkeys]
  have hkinds : ∀ b, (∀ key ∈ fields.map (·.1), key.isText = b) →
      ∀ doc ∈ tripDocs fields, doc.1.isText = b := by
    intro b hb doc hdoc
    apply hb
    rw [← hkeys]
    exact List.mem_map.mpr ⟨doc, hdoc, rfl⟩
  rw [Option.map_eq_some_iff]
  constructor
  · rintro ⟨sorted, hbind, heq⟩
    obtain ⟨docs, hdocs, hsorted⟩ := Option.bind_eq_some_iff.mp hbind
    have hdocKeys := argumentFields_keys hdocs
    obtain ⟨hperm, hkind⟩ := sortItems_some hsorted
    have hkind' : (∀ key ∈ fields.map (·.1), key.isText = true) ∨
        ∀ key ∈ fields.map (·.1), key.isText = false := by
      rw [← hdocKeys]
      rcases hkind with htexts | hnumbers
      · exact Or.inl (List.forall_mem_map.mpr htexts)
      · exact Or.inr (List.forall_mem_map.mpr hnumbers)
    rw [roundTrip_dict_doc hnodup hkind'] at heq
    obtain rfl := Doc.obj.inj heq
    have hnames : ((docs.map textField).map (·.1)).Nodup := by
      rw [textField_keys, hdocKeys]
      exact texts_nodup hnodup hkind'
    have hnamed : docs.map textField = (tripDocs fields).map textField := by
      apply eq_of_perm_of_keys _ hnames
      · exact hperm.symm.trans (List.perm_insertionSort _ _)
      · rw [textField_keys, textField_keys, hdocKeys, hkeys]
    have hsame : docs = tripDocs fields := by
      apply eq_of_components (hdocKeys.trans hkeys.symm)
      have hvalues := congrArg (List.map (·.2)) hnamed
      rw [List.map_map, List.map_map] at hvalues
      exact hvalues
    rw [hsame] at hdocs hsorted
    refine ⟨?_, argumentFields_tripDocs.mp hdocs⟩
    rcases hkind' with htexts | hnumbers
    · exact Or.inl htexts
    · rw [sortItems_numbers (hkinds false hnumbers)] at hsorted
      have horder := (numbers_sorted_iff hnodup' (hkinds false hnumbers)).mp
        (Option.some.inj hsorted)
      rw [hkeys] at horder
      exact Or.inr ⟨hnumbers, horder⟩
  · rintro ⟨hkeep, hvalues⟩
    have hdocs := argumentFields_tripDocs.mpr hvalues
    refine ⟨sortFields ((tripDocs fields).map textField), ?_, ?_⟩
    · rw [hdocs, Option.bind_some]
      rcases hkeep with htexts | ⟨hnumbers, horder⟩
      · exact sortItems_texts (hkinds true htexts)
      · rw [sortItems_numbers (hkinds false hnumbers)]
        rw [← hkeys] at horder
        rw [(numbers_sorted_iff hnodup' (hkinds false hnumbers)).mpr horder]
    · apply (roundTrip_dict_doc hnodup _).symm
      rcases hkeep with htexts | ⟨hnumbers, -⟩
      · exact Or.inl htexts
      · exact Or.inr hnumbers

/-- An argument keeps its document exactly when the keys of its dictionaries keep their order. -/
theorem doc_roundTrip_iff {argument : Argument} (h : argument.WellFormed) :
    argument.doc = some argument.roundTrip.doc ↔ argument.Portable := by
  induction argument using Argument.induct with
  | hscalar value =>
    rw [Argument.doc, Argument.roundTrip, JsonValue.doc]
    exact ⟨fun _ => .scalar value, fun _ => rfl⟩
  | hlist items ih =>
    cases h with
    | list _ hitems =>
      rw [Argument.doc, Argument.roundTrip, roundTrip_list_doc, argumentDocs_roundTrip]
      constructor
      · intro hdocs
        exact .list items fun item hitem =>
          (ih item hitem (hitems item hitem)).mp (hdocs item hitem)
      · rintro ⟨⟩
        next hportable =>
          exact fun item hitem => (ih item hitem (hitems item hitem)).mpr (hportable item hitem)
  | htuple items ih =>
    cases h with
    | tuple _ hitems =>
      rw [Argument.doc, Argument.roundTrip, roundTrip_list_doc, argumentDocs_roundTrip]
      constructor
      · intro hdocs
        exact .tuple items fun item hitem =>
          (ih item hitem (hitems item hitem)).mp (hdocs item hitem)
      · rintro ⟨⟩
        next hportable =>
          exact fun item hitem => (ih item hitem (hitems item hitem)).mpr (hportable item hitem)
  | hdict fields ih =>
    cases h with
    | dict _ hkeys hfields =>
      rw [Argument.doc, Argument.roundTrip, argumentFields_roundTrip hkeys]
      constructor
      · rintro ⟨hkeep, hdocs⟩
        exact .dict fields hkeep fun field hfield =>
          (ih field hfield (hfields field hfield)).mp (hdocs field hfield)
      · rintro ⟨⟩
        next hkeep hportable =>
          exact ⟨hkeep, fun field hfield =>
            (ih field hfield (hfields field hfield)).mpr (hportable field hfield)⟩

end Digests

section Agreement

variable {sha256 : String → String} {args kwargs : Argument}

/-- The text that is digested. -/
def callText (args kwargs : Doc) : String :=
  String.ofList (Doc.obj (sortFields [("args", args), ("kwargs", kwargs)])).render

theorem callText_inj {args kwargs args' kwargs' : Doc}
    (h : callText args kwargs = callText args' kwargs') : args = args' ∧ kwargs = kwargs' := by
  have hsorted := Doc.obj.inj (Doc.render_injective (String.ofList_inj.mp h))
  have hperm :
      [("args", args), ("kwargs", kwargs)].Perm [("args", args'), ("kwargs", kwargs')] := by
    have hleft := List.perm_insertionSort (fun field other : String × Doc => field.1 ≤ other.1)
      [("args", args), ("kwargs", kwargs)]
    have hright := List.perm_insertionSort (fun field other : String × Doc => field.1 ≤ other.1)
      [("args", args'), ("kwargs", kwargs')]
    unfold sortFields at hsorted
    rw [hsorted] at hleft
    exact hleft.symm.trans hright
  have hkeys : ([("args", args), ("kwargs", kwargs)].map (·.1)).Nodup := by
    show ["args", "kwargs"].Nodup
    decide
  have hsame : [("args", args), ("kwargs", kwargs)] = [("args", args'), ("kwargs", kwargs')] :=
    eq_of_perm_of_keys rfl hkeys hperm
  obtain ⟨hargs, hrest⟩ := List.cons.inj hsame
  exact ⟨(Prod.mk.inj hargs).2, (Prod.mk.inj (List.cons.inj hrest).1).2⟩

/-- A digest is that of the documents of the arguments. -/
theorem canonicalArgumentDigest_eq (sha256 : String → String) (args kwargs : Argument) :
    canonicalArgumentDigest sha256 args kwargs =
      args.doc.bind fun argsDoc => kwargs.doc.map fun kwargsDoc =>
        sha256 (callText argsDoc kwargsDoc) := by
  unfold canonicalArgumentDigest
  rw [Argument.doc, argumentFields, argumentField, argumentFields, argumentField, argumentFields]
  cases args.doc with
  | none => rfl
  | some argsDoc =>
    cases kwargs.doc with
    | none => rfl
    | some kwargsDoc => rfl

theorem digest_roundTrip (sha256 : String → String) (args kwargs : Argument) :
    canonicalArgumentDigest sha256 (toArgument args.roundTrip) (toArgument kwargs.roundTrip) =
      some (sha256 (callText args.roundTrip.doc kwargs.roundTrip.doc)) := by
  rw [canonicalArgumentDigest_eq, toArgument_doc, toArgument_doc]
  rfl

/-- The digest at publication is that of what the worker has. -/
def DigestAgrees (sha256 : String → String) (args kwargs : Argument) : Prop :=
  ∃ digest, canonicalArgumentDigest sha256 args kwargs = some digest ∧
    canonicalArgumentDigest sha256 (toArgument args.roundTrip) (toArgument kwargs.roundTrip) =
      some digest

theorem digestAgrees_iff (hinj : Function.Injective sha256) (hargs : args.WellFormed)
    (hkwargs : kwargs.WellFormed) :
    DigestAgrees sha256 args kwargs ↔ args.Portable ∧ kwargs.Portable := by
  unfold DigestAgrees
  rw [digest_roundTrip, ← doc_roundTrip_iff hargs, ← doc_roundTrip_iff hkwargs,
    canonicalArgumentDigest_eq]
  constructor
  · rintro ⟨digest, hdigest, htrip⟩
    obtain rfl := Option.some.inj htrip
    obtain ⟨argsDoc, hargsDoc, hrest⟩ := Option.bind_eq_some_iff.mp hdigest
    obtain ⟨kwargsDoc, hkwargsDoc, hsha⟩ := Option.map_eq_some_iff.mp hrest
    obtain ⟨rfl, rfl⟩ := callText_inj (hinj hsha)
    exact ⟨hargsDoc, hkwargsDoc⟩
  · rintro ⟨hargsDoc, hkwargsDoc⟩
    refine ⟨_, ?_, rfl⟩
    rw [hargsDoc, hkwargsDoc]
    rfl

end Agreement

/-- The digests at publication and at the worker agree exactly when the keys of every dictionary
keep their order; and what differs at the workers by more than the order of keys has different
digests. -/
theorem task_digests_agree_iff {sha256 : String → String} (hinj : Function.Injective sha256) :
    (∀ args kwargs : Argument, args.WellFormed → kwargs.WellFormed →
      (DigestAgrees sha256 args kwargs ↔ args.Portable ∧ kwargs.Portable)) ∧
    ∀ args kwargs args' kwargs' : Argument,
      canonicalArgumentDigest sha256 (toArgument args.roundTrip) (toArgument kwargs.roundTrip) =
        canonicalArgumentDigest sha256 (toArgument args'.roundTrip)
          (toArgument kwargs'.roundTrip) →
      args.roundTrip.sorted = args'.roundTrip.sorted ∧
        kwargs.roundTrip.sorted = kwargs'.roundTrip.sorted := by
  refine ⟨fun args kwargs hargs hkwargs => digestAgrees_iff hinj hargs hkwargs, ?_⟩
  intro args kwargs args' kwargs' h
  rw [digest_roundTrip, digest_roundTrip] at h
  obtain ⟨hargs, hkwargs⟩ := callText_inj (hinj (Option.some.inj h))
  exact ⟨JsonValue.sorted_eq_of_doc_eq hargs, JsonValue.sorted_eq_of_doc_eq hkwargs⟩

section Calls

/-- The keyword arguments of one candidate. -/
def candidateArguments : Argument :=
  .dict [(.str "candidate_id", .scalar (.str "c1"))]

/-- A call by texts is digested the same on both sides. -/
theorem candidate_call_agrees : DigestAgrees id (.tuple []) candidateArguments := by
  have hargs : (Argument.tuple []).WellFormed := .tuple [] (by simp)
  have hkwargs : candidateArguments.WellFormed := by
    apply Argument.WellFormed.dict
    · exact List.nodup_singleton _
    · intro field hfield
      rw [List.mem_singleton.mp hfield]
      exact .scalar _
  apply ((task_digests_agree_iff Function.injective_id).1 _ _ hargs hkwargs).mpr
  constructor
  · exact .tuple [] (by simp)
  · apply Argument.Portable.dict
    · left
      intro key hkey
      rw [List.mem_singleton.mp hkey]
      rfl
    · intro field hfield
      rw [List.mem_singleton.mp hfield]
      exact .scalar _

/-- Weights by number, for two and for ten. -/
def weights : Argument :=
  .dict [(.int 2, .scalar (.str "a")), (.int 10, .scalar (.str "b"))]

def weightArguments : Argument :=
  .dict [(.str "weights", weights)]

theorem weights_not_portable : ¬weights.Portable := by
  rintro ⟨⟩
  next hkeys _ =>
    rcases hkeys with htexts | ⟨-, horder⟩
    · cases htexts (.int 2) List.mem_cons_self
    · have hlt := horder (.int 2) (by decide) (.int 10) (by decide) (by decide)
      revert hlt
      decide

/-- Two comes before ten as a number, and behind it as a text. -/
theorem weight_call_altered : ¬DigestAgrees id (.tuple []) weightArguments := by
  have hargs : (Argument.tuple []).WellFormed := .tuple [] (by simp)
  have hweights : weights.WellFormed := by
    apply Argument.WellFormed.dict
    · decide
    · intro field hfield
      simp only [List.mem_cons, List.not_mem_nil, or_false] at hfield
      rcases hfield with rfl | rfl
      · exact .scalar _
      · exact .scalar _
  have hkwargs : weightArguments.WellFormed := by
    apply Argument.WellFormed.dict
    · exact List.nodup_singleton _
    · intro field hfield
      rw [List.mem_singleton.mp hfield]
      exact hweights
  rw [digestAgrees_iff Function.injective_id hargs hkwargs]
  rintro ⟨-, ⟨⟩⟩
  next _ hfields => exact weights_not_portable (hfields _ (List.mem_singleton_self _))

end Calls

end GhostRecon.Security
