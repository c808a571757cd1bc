import Mathlib.Data.List.Sort
import Mathlib.Tactic

/-!
The text of a JSON document without blanks, in ASCII alone. It tells the document: a text that
begins with the text of a document begins with that of no other, when what follows cannot go on
with a number or a name.
-/

namespace GhostRecon.Lib.CanonicalJson

section Characters

/-- The last four hexadecimal digits of a number. -/
def hexDigits (n : Nat) : List Char :=
  [(n / 4096 % 16).digitChar, (n / 256 % 16).digitChar, (n / 16 % 16).digitChar,
    (n % 16).digitChar]

def unicodeEscape (n : Nat) : List Char :=
  '\\' :: 'u' :: hexDigits n

/-- A character in a text: the quote and the backslash are escaped, control characters have an
escape of their own or that of their number, and what is beyond ASCII is written by its number,
beyond the first plane as two surrogates. -/
def escapeChar (c : Char) : List Char :=
  if c = '"' then ['\\', '"']
  else if c = '\\' then ['\\', '\\']
  else if c = '\n' then ['\\', 'n']
  else if c = '\r' then ['\\', 'r']
  else if c = '\t' then ['\\', 't']
  else if c = '\x0c' then ['\\', 'f']
  else if c = '\x08' then ['\\', 'b']
  else if 0x20 ≤ c.toNat ∧ c.toNat ≤ 0x7e then [c]
  else if c.toNat < 0x10000 then unicodeEscape c.toNat
  else unicodeEscape (0xd800 + (c.toNat - 0x10000) / 0x400) ++
    unicodeEscape (0xdc00 + (c.toNat - 0x10000) % 0x400)

/-- The number of a hexadecimal digit. -/
def digitValue (c : Char) : Nat :=
  if c.toNat ≤ 57 then c.toNat - 48 else c.toNat - 87

def hexValue (a b c d : Char) : Nat :=
  digitValue a * 4096 + digitValue b * 256 + digitValue c * 16 + digitValue d

/-- The number of a character that was written as two surrogates, and what follows it. -/
def readLow (high : Nat) : List Char → Option (Nat × List Char)
  | _ :: _ :: a :: b :: c :: d :: rest =>
    some (0x10000 + (high - 0xd800) * 0x400 + (hexValue a b c d - 0xdc00), rest)
  | _ => none

def readUnicode : List Char → Option (Nat × List Char)
  | a :: b :: c :: d :: rest =>
    if 0xd800 ≤ hexValue a b c d ∧ hexValue a b c d < 0xdc00 then readLow (hexValue a b c d) rest
    else some (hexValue a b c d, rest)
  | _ => none

/-- The number a letter behind a backslash stands for. -/
def escapedNumber (c : Char) : Nat :=
  if c = 'n' then 10
  else if c = 'r' then 13
  else if c = 't' then 9
  else if c = 'f' then 12
  else if c = 'b' then 8
  else c.toNat

/-- The number of the first character of an escaped text, and what follows it. -/
def readChar : List Char → Option (Nat × List Char)
  | [] => none
  | [c] => some (c.toNat, [])
  | c :: c' :: rest =>
    if c = '\\' then
      if c' = 'u' then readUnicode rest else some (escapedNumber c', rest)
    else some (c.toNat, c' :: rest)

theorem digitValue_digitChar {n : Nat} (h : n < 16) : digitValue n.digitChar = n := by
  revert n
  decide

theorem hexValue_hexDigits {n : Nat} (h : n < 0x10000) :
    hexValue (n / 4096 % 16).digitChar (n / 256 % 16).digitChar (n / 16 % 16).digitChar
      (n % 16).digitChar = n := by
  unfold hexValue
  rw [digitValue_digitChar (Nat.mod_lt _ (by omega)),
    digitValue_digitChar (Nat.mod_lt _ (by omega)),
    digitValue_digitChar (Nat.mod_lt _ (by omega)), digitValue_digitChar (Nat.mod_lt _ (by omega))]
  omega

theorem readUnicode_hexDigits {n : Nat} (h : n < 0x10000) (rest : List Char) :
    readUnicode (hexDigits n ++ rest) =
      if 0xd800 ≤ n ∧ n < 0xdc00 then readLow n rest else some (n, rest) := by
  unfold hexDigits
  rw [List.cons_append, List.cons_append, List.cons_append, List.cons_append, List.nil_append,
    readUnicode, hexValue_hexDigits h]

/-- A character outside the surrogates is read back by its number. -/
theorem readChar_unicodeEscape {n : Nat} (h : n < 0x10000) (rest : List Char) :
    readChar (unicodeEscape n ++ rest) =
      if 0xd800 ≤ n ∧ n < 0xdc00 then readLow n rest else some (n, rest) := by
  unfold unicodeEscape
  rw [List.cons_append, List.cons_append, readChar, if_pos rfl, if_pos rfl,
    readUnicode_hexDigits h]

theorem readLow_unicodeEscape {low : Nat} (h : low < 0x10000) (high : Nat) (rest : List Char) :
    readLow high (unicodeEscape low ++ rest) =
      some (0x10000 + (high - 0xd800) * 0x400 + (low - 0xdc00), rest) := by
  unfold unicodeEscape hexDigits
  rw [List.cons_append, List.cons_append, List.cons_append, List.cons_append, List.cons_append,
    List.cons_append, List.nil_append, readLow, hexValue_hexDigits h]

theorem readChar_plain {c : Char} (h : c ≠ '\\') (rest : List Char) :
    readChar (c :: rest) = some (c.toNat, rest) := by
  cases rest with
  | nil => rw [readChar]
  | cons c' rest => rw [readChar, if_neg h]

theorem readChar_escaped {c : Char} (h : c ≠ 'u') (rest : List Char) :
    readChar ('\\' :: c :: rest) = some (escapedNumber c, rest) := by
  rw [readChar, if_pos rfl, if_neg h]

/-- A character is read back from its escape. -/
theorem readChar_escapeChar (c : Char) (rest : List Char) :
    readChar (escapeChar c ++ rest) = some (c.toNat, rest) := by
  unfold escapeChar
  by_cases hquote : c = '"'
  · rw [if_pos hquote, hquote]
    exact readChar_escaped (by decide) rest
  rw [if_neg hquote]
  by_cases hbackslash : c = '\\'
  · rw [if_pos hbackslash, hbackslash]
    exact readChar_escaped (by decide) rest
  rw [if_neg hbackslash]
  by_cases hnewline : c = '\n'
  · rw [if_pos hnewline, hnewline]
    exact readChar_escaped (by decide) rest
  rw [if_neg hnewline]
  by_cases hreturn : c = '\r'
  · rw [if_pos hreturn, hreturn]
    exact readChar_escaped (by decide) rest
  rw [if_neg hreturn]
  by_cases htab : c = '\t'
  · rw [if_pos htab, htab]
    exact readChar_escaped (by decide) rest
  rw [if_neg htab]
  by_cases hfeed : c = '\x0c'
  · rw [if_pos hfeed, hfeed]
    exact readChar_escaped (by decide) rest
  rw [if_neg hfeed]
  by_cases hback : c = '\x08'
  · rw [if_pos hback, hback]
    exact readChar_escaped (by decide) rest
  rw [if_neg hback]
  by_cases hascii : 0x20 ≤ c.toNat ∧ c.toNat ≤ 0x7e
  · rw [if_pos hascii]
    exact readChar_plain hbackslash rest
  rw [if_neg hascii]
  by_cases hplane : c.toNat < 0x10000
  · rw [if_pos hplane, readChar_unicodeEscape hplane, if_neg]
    rcases c.valid with hlow | ⟨hhigh, -⟩
    · have hnumber : c.toNat < 0xd800 := hlow
      omega
    · have hnumber : 0xdfff < c.toNat := hhigh
      omega
  · have hvalid : c.toNat < 0x110000 := by
      rcases c.valid with hlow | ⟨-, hhigh⟩
      · have hnumber : c.toNat < 0xd800 := hlow
        omega
      · exact hhigh
    rw [if_neg hplane, List.append_assoc, readChar_unicodeEscape (by omega), if_pos (by omega),
      readLow_unicodeEscape (by omega)]
    have hnumber : 0x10000 + (0xd800 + (c.toNat - 0x10000) / 0x400 - 0xd800) * 0x400 +
        (0xdc00 + (c.toNat - 0x10000) % 0x400 - 0xdc00) = c.toNat := by omega
    rw [hnumber]

theorem escapeChar_append_inj {c c' : Char} {rest rest' : List Char}
    (h : escapeChar c ++ rest = escapeChar c' ++ rest') : c = c' ∧ rest = rest' := by
  have hread := congrArg readChar h
  rw [readChar_escapeChar, readChar_escapeChar] at hread
  obtain ⟨hnumber, hrest⟩ := Prod.mk.inj (Option.some.inj hread)
  exact ⟨Char.toNat_inj.mp hnumber, hrest⟩

end Characters

section Texts

def escape (text : List Char) : List Char :=
  text.flatMap escapeChar

/-- A text in its quotes. -/
def quote (text : String) : List Char :=
  '"' :: (escape text.toList ++ ['"'])

/-- No escape begins with the quote that ends a text. -/
theorem escapeChar_head (c : Char) : ∃ head tail, escapeChar c = head :: tail ∧ head ≠ '"' := by
  unfold escapeChar unicodeEscape
  by_cases hquote : c = '"'
  · rw [if_pos hquote]
    exact ⟨_, _, rfl, by decide⟩
  rw [if_neg hquote]
  by_cases hbackslash : c = '\\'
  · rw [if_pos hbackslash]
    exact ⟨_, _, rfl, by decide⟩
  rw [if_neg hbackslash]
  by_cases hnewline : c = '\n'
  · rw [if_pos hnewline]
    exact ⟨_, _, rfl, by decide⟩
  rw [if_neg hnewline]
  by_cases hreturn : c = '\r'
  · rw [if_pos hreturn]
    exact ⟨_, _, rfl, by decide⟩
  rw [if_neg hreturn]
  by_cases htab : c = '\t'
  · rw [if_pos htab]
    exact ⟨_, _, rfl, by decide⟩
  rw [if_neg htab]
  by_cases hfeed : c = '\x0c'
  · rw [if_pos hfeed]
    exact ⟨_, _, rfl, by decide⟩
  rw [if_neg hfeed]
  by_cases hback : c = '\x08'
  · rw [if_pos hback]
    exact ⟨_, _, rfl, by decide⟩
  rw [if_neg hback]
  by_cases hascii : 0x20 ≤ c.toNat ∧ c.toNat ≤ 0x7e
  · rw [if_pos hascii]
    exact ⟨_, _, rfl, hquote⟩
  rw [if_neg hascii]
  by_cases hplane : c.toNat < 0x10000
  · rw [if_pos hplane]
    exact ⟨_, _, rfl, by decide⟩
  · rw [if_neg hplane]
    exact ⟨_, _, rfl, by decide⟩

/-- A text ends at its quote. -/
theorem escape_append_inj {text text' rest rest' : List Char}
    (h : escape text ++ '"' :: rest = escape text' ++ '"' :: rest') :
    text = text' ∧ rest = rest' := by
  unfold escape at h
  induction text generalizing text' with
  | nil =>
    cases text' with
    | nil => exact ⟨rfl, (List.cons.inj h).2⟩
    | cons c' text' =>
      obtain ⟨head, tail, hescape, hne⟩ := escapeChar_head c'
      rw [List.flatMap_nil, List.flatMap_cons, hescape] at h
      exact absurd (List.cons.inj h).1.symm hne
  | cons c text ih =>
    cases text' with
    | nil =>
      obtain ⟨head, tail, hescape, hne⟩ := escapeChar_head c
      rw [List.flatMap_nil, List.flatMap_cons, hescape] at h
      exact absurd (List.cons.inj h).1 hne
    | cons c' text' =>
      rw [List.flatMap_cons, List.flatMap_cons, List.append_assoc, List.append_assoc] at h
      obtain ⟨rfl, hrest⟩ := escapeChar_append_inj h
      obtain ⟨rfl, rfl⟩ := ih hrest
      exact ⟨rfl, rfl⟩

theorem quote_append_inj {text text' : String} {rest rest' : List Char}
    (h : quote text ++ rest = quote text' ++ rest') : text = text' ∧ rest = rest' := by
  unfold quote at h
  rw [List.cons_append, List.cons_append, List.append_assoc, List.append_assoc] at h
  obtain ⟨htext, hrest⟩ := escape_append_inj (List.cons.inj h).2
  exact ⟨String.toList_inj.mp htext, hrest⟩

end Texts

section Documents

/-- The characters of numbers and of the names `null`, `true` and `false`: not those that
separate. -/
def isTokenChar (c : Char) : Bool :=
  c != '"' && c != '[' && c != '\x7b' && c != ',' && c != ']' && c != '\x7d'

/-- A number or a name. -/
structure Token where
  text : List Char
  nonempty : text ≠ []
  plain : ∀ c ∈ text, isTokenChar c = true

theorem Token.ext {token token' : Token} (h : token.text = token'.text) : token = token' := by
  cases token
  cases token'
  cases h
  rfl

inductive Doc where
  | token (token : Token)
  | str (text : String)
  | arr (items : List Doc)
  | obj (fields : List (String × Doc))

mutual

def Doc.render : Doc → List Char
  | .token token => token.text
  | .str text => quote text
  | .arr [] => ['[', ']']
  | .arr (item :: rest) => '[' :: (item.render ++ renderItems rest)
  | .obj [] => ['\x7b', '\x7d']
  | .obj (field :: rest) => '\x7b' :: (renderField field ++ renderFields rest)

/-- The items behind the first. -/
def renderItems : List Doc → List Char
  | [] => [']']
  | item :: rest => ',' :: (item.render ++ renderItems rest)

def renderField : String × Doc → List Char
  | (key, value) => quote key ++ ':' :: value.render

/-- The fields behind the first. -/
def renderFields : List (String × Doc) → List Char
  | [] => ['\x7d']
  | field :: rest => ',' :: (renderField field ++ renderFields rest)

end

end Documents

section Readings

/-- What follows a document does not go on with a number or a name. -/
def Stops (rest : List Char) : Prop :=
  ∀ c ∈ rest.head?, isTokenChar c = false

theorem stops_cons {c : Char} (h : isTokenChar c = false) (rest : List Char) :
    Stops (c :: rest) := by
  intro head hhead
  cases hhead
  exact h

theorem stops_nil : Stops [] := by
  intro head hhead
  cases hhead

/-- A number or a name ends where what follows stops. -/
theorem plain_append_inj {text text' rest rest' : List Char}
    (hplain : ∀ c ∈ text, isTokenChar c = true) (hplain' : ∀ c ∈ text', isTokenChar c = true)
    (hstops : Stops rest) (hstops' : Stops rest') (h : text ++ rest = text' ++ rest') :
    text = text' ∧ rest = rest' := by
  induction text generalizing text' with
  | nil =>
    cases text' with
    | nil => exact ⟨rfl, h⟩
    | cons c' text' =>
      have hhead : rest = c' :: (text' ++ rest') := h
      have hstop := hstops c' (by rw [hhead]; rfl)
      rw [hplain' c' List.mem_cons_self] at hstop
      cases hstop
  | cons c text ih =>
    cases text' with
    | nil =>
      have hhead : c :: (text ++ rest) = rest' := h
      have hstop := hstops' c (by rw [← hhead]; rfl)
      rw [hplain c List.mem_cons_self] at hstop
      cases hstop
    | cons c' text' =>
      rw [List.cons_append, List.cons_append] at h
      obtain ⟨rfl, htail⟩ := List.cons.inj h
      obtain ⟨rfl, rfl⟩ := ih (fun c hc => hplain c (List.mem_cons_of_mem _ hc))
        (fun c hc => hplain' c (List.mem_cons_of_mem _ hc)) htail
      exact ⟨rfl, rfl⟩

/-- The kind of a document, by the first character of its text. -/
def kindOf (c : Char) : Nat :=
  if c = '"' then 1 else if c = '[' then 2 else if c = '\x7b' then 3 else 0

def Doc.kind : Doc → Nat
  | .token _ => 0
  | .str _ => 1
  | .arr _ => 2
  | .obj _ => 3

theorem kindOf_plain {c : Char} (h : isTokenChar c = true) : kindOf c = 0 := by
  unfold isTokenChar at h
  simp only [Bool.and_eq_true, bne_iff_ne] at h
  obtain ⟨⟨⟨⟨⟨hquote, hbracket⟩, hbrace⟩, -⟩, -⟩, -⟩ := h
  unfold kindOf
  rw [if_neg hquote, if_neg hbracket, if_neg hbrace]

theorem Doc.render_head (doc : Doc) :
    ∃ c tail, doc.render = c :: tail ∧ kindOf c = doc.kind ∧ c ≠ ']' ∧ c ≠ ',' := by
  cases doc with
  | token token =>
    rw [Doc.render]
    cases htext : token.text with
    | nil => exact absurd htext token.nonempty
    | cons c tail =>
      have hplain := token.plain c (by rw [htext]; exact List.mem_cons_self)
      refine ⟨c, tail, rfl, kindOf_plain hplain, ?_, ?_⟩
      · rintro rfl
        cases hplain
      · rintro rfl
        cases hplain
  | str text =>
    rw [Doc.render]
    exact ⟨'"', _, rfl, rfl, by decide, by decide⟩
  | arr items =>
    cases items with
    | nil =>
      rw [Doc.render]
      exact ⟨'[', _, rfl, rfl, by decide, by decide⟩
    | cons item rest =>
      rw [Doc.render]
      exact ⟨'[', _, rfl, rfl, by decide, by decide⟩
  | obj fields =>
    cases fields with
    | nil =>
      rw [Doc.render]
      exact ⟨'\x7b', _, rfl, rfl, by decide, by decide⟩
    | cons field rest =>
      rw [Doc.render]
      exact ⟨'\x7b', _, rfl, rfl, by decide, by decide⟩

theorem Doc.kind_eq {doc doc' : Doc} {rest rest' : List Char}
    (h : doc.render ++ rest = doc'.render ++ rest') : doc.kind = doc'.kind := by
  obtain ⟨c, tail, hrender, hkind, -, -⟩ := doc.render_head
  obtain ⟨c', tail', hrender', hkind', -, -⟩ := doc'.render_head
  rw [hrender, hrender', List.cons_append, List.cons_append] at h
  rw [← hkind, ← hkind', (List.cons.inj h).1]

/-- What follows an item stops. -/
theorem stops_renderItems (items : List Doc) (rest : List Char) :
    Stops (renderItems items ++ rest) := by
  cases items with
  | nil =>
    rw [renderItems]
    exact stops_cons rfl _
  | cons item items =>
    rw [renderItems]
    exact stops_cons rfl _

theorem stops_renderFields (fields : List (String × Doc)) (rest : List Char) :
    Stops (renderFields fields ++ rest) := by
  cases fields with
  | nil =>
    rw [renderFields]
    exact stops_cons rfl _
  | cons field fields =>
    rw [renderFields]
    exact stops_cons rfl _

theorem renderField_head (field : String × Doc) :
    ∃ tail, renderField field = '"' :: tail := by
  rw [renderField]
  exact ⟨_, rfl⟩

mutual

/-- The text of a document tells it, and where it ends. -/
theorem Doc.render_append_inj (doc doc' : Doc) {rest rest' : List Char} (hstops : Stops rest)
    (hstops' : Stops rest') (h : doc.render ++ rest = doc'.render ++ rest') :
    doc = doc' ∧ rest = rest' := by
  have hkind := Doc.kind_eq h
  match doc, doc' with
  | .token token, .token token' =>
    rw [Doc.render, Doc.render] at h
    obtain ⟨htext, hrest⟩ := plain_append_inj token.plain token'.plain hstops hstops' h
    rw [Token.ext htext]
    exact ⟨rfl, hrest⟩
  | .str text, .str text' =>
    rw [Doc.render, Doc.render] at h
    obtain ⟨rfl, hrest⟩ := quote_append_inj h
    exact ⟨rfl, hrest⟩
  | .arr [], .arr [] =>
    exact ⟨rfl, (List.append_cancel_left h)⟩
  | .arr [], .arr (item' :: items') =>
    rw [Doc.render, Doc.render] at h
    obtain ⟨c, tail, hrender, -, hne, -⟩ := item'.render_head
    rw [hrender] at h
    exact absurd (List.cons.inj (List.cons.inj h).2).1.symm hne
  | .arr (item :: items), .arr [] =>
    rw [Doc.render, Doc.render] at h
    obtain ⟨c, tail, hrender, -, hne, -⟩ := item.render_head
    rw [hrender] at h
    exact absurd (List.cons.inj (List.cons.inj h).2).1 hne
  | .arr (item :: items), .arr (item' :: items') =>
    rw [Doc.render, Doc.render, List.cons_append, List.cons_append, List.append_assoc,
      List.append_assoc] at h
    obtain ⟨hitem, htail⟩ := Doc.render_append_inj item item' (stops_renderItems items rest)
      (stops_renderItems items' rest') (List.cons.inj h).2
    obtain ⟨hitems, hrest⟩ := renderItems_append_inj items items' htail
    rw [hitem, hitems]
    exact ⟨rfl, hrest⟩
  | .obj [], .obj [] =>
    exact ⟨rfl, (List.append_cancel_left h)⟩
  | .obj [], .obj (field' :: fields') =>
    rw [Doc.render, Doc.render] at h
    obtain ⟨tail, hrender⟩ := renderField_head field'
    rw [hrender] at h
    cases (List.cons.inj (List.cons.inj h).2).1
  | .obj (field :: fields), .obj [] =>
    rw [Doc.render, Doc.render] at h
    obtain ⟨tail, hrender⟩ := renderField_head field
    rw [hrender] at h
    cases (List.cons.inj (List.cons.inj h).2).1
  | .obj (field :: fields), .obj (field' :: fields') =>
    rw [Doc.render, Doc.render, List.cons_append, List.cons_append, List.append_assoc,
      List.append_assoc] at h
    obtain ⟨hfield, htail⟩ := renderField_append_inj field field'
      (stops_renderFields fields rest) (stops_renderFields fields' rest') (List.cons.inj h).2
    obtain ⟨hfields, hrest⟩ := renderFields_append_inj fields fields' htail
    rw [hfield, hfields]
    exact ⟨rfl, hrest⟩

theorem renderItems_append_inj (items items' : List Doc) {rest rest' : List Char}
    (h : renderItems items ++ rest = renderItems items' ++ rest') :
    items = items' ∧ rest = rest' := by
  match items, items' with
  | [], [] => exact ⟨rfl, (List.append_cancel_left h)⟩
  | [], item' :: items' =>
    rw [renderItems, renderItems] at h
    cases (List.cons.inj h).1
  | item :: items, [] =>
    rw [renderItems, renderItems] at h
    cases (List.cons.inj h).1
  | item :: items, item' :: items' =>
    rw [renderItems, renderItems, List.cons_append, List.cons_append, List.append_assoc,
      List.append_assoc] at h
    obtain ⟨hitem, htail⟩ := Doc.render_append_inj item item' (stops_renderItems items rest)
      (stops_renderItems items' rest') (List.cons.inj h).2
    obtain ⟨hitems, hrest⟩ := renderItems_append_inj items items' htail
    rw [hitem, hitems]
    exact ⟨rfl, hrest⟩

theorem renderField_append_inj (field field' : String × Doc) {rest rest' : List Char}
    (hstops : Stops rest) (hstops' : Stops rest')
    (h : renderField field ++ rest = renderField field' ++ rest') :
    field = field' ∧ rest = rest' := by
  match field, field' with
  | (key, value), (key', value') =>
    rw [renderField, renderField, List.append_assoc, List.append_assoc, List.cons_append,
      List.cons_append] at h
    obtain ⟨hkey, htail⟩ := quote_append_inj h
    obtain ⟨hvalue, hrest⟩ := Doc.render_append_inj value value' hstops hstops'
      (List.cons.inj htail).2
    rw [hkey, hvalue]
    exact ⟨rfl, hrest⟩

theorem renderFields_append_inj (fields fields' : List (String × Doc)) {rest rest' : List Char}
    (h : renderFields fields ++ rest = renderFields fields' ++ rest') :
    fields = fields' ∧ rest = rest' := by
  match fields, fields' with
  | [], [] => exact ⟨rfl, (List.append_cancel_left h)⟩
  | [], field' :: fields' =>
    rw [renderFields, renderFields] at h
    cases (List.cons.inj h).1
  | field :: fields, [] =>
    rw [renderFields, renderFields] at h
    cases (List.cons.inj h).1
  | field :: fields, field' :: fields' =>
    rw [renderFields, renderFields, List.cons_append, List.cons_append, List.append_assoc,
      List.append_assoc] at h
    obtain ⟨hfield, htail⟩ := renderField_append_inj field field'
      (stops_renderFields fields rest) (stops_renderFields fields' rest') (List.cons.inj h).2
    obtain ⟨hfields, hrest⟩ := renderFields_append_inj fields fields' htail
    rw [hfield, hfields]
    exact ⟨rfl, hrest⟩

end

theorem Doc.render_injective : Function.Injective Doc.render := by
  intro doc doc' h
  have happend : doc.render ++ [] = doc'.render ++ [] := by rw [h]
  exact (Doc.render_append_inj doc doc' stops_nil stops_nil happend).1

end Readings

end GhostRecon.Lib.CanonicalJson
