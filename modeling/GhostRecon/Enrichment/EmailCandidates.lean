import GhostRecon.Common.Text
import GhostRecon.Lib.Dict
import GhostRecon.Lib.Format
import GhostRecon.Lib.Splitting

/-!
Addresses made up from a name and a mail domain. The Latin parts of the name fill five patterns
with four separators each; equal addresses are kept once. Every address goes through the
validator of the address library, which limits the length of its local part and writes the
domain in its own form.
-/

namespace GhostRecon

open Lib

/-- `unicodedata.normalize` to NFKD, the address validator, which answers with the normal form,
and what `str.format` makes of a field that is not simply a name of the pattern. -/
structure CandidateTools where
  nfkd : String → String
  validateEmail : String → Except String String
  formatField : Format.Field → Except String (List Char)
  isSpace : Char → Bool := isPySpace

/-- `[a-zA-Z]`. -/
def isLatin (c : Char) : Bool :=
  ('a' ≤ c ∧ c ≤ 'z') ∨ ('A' ≤ c ∧ c ≤ 'Z')

/-- `[a-z]`. -/
def isSmallLatin (c : Char) : Bool :=
  'a' ≤ c ∧ c ≤ 'z'

/-- `[._-]`. -/
def isSeparator (c : Char) : Bool :=
  c = '.' ∨ c = '_' ∨ c = '-'

/-- `_name_parts`. -/
def nameParts (tools : CandidateTools) (fullName : String) : List (List Char) :=
  let asciiName := (tools.nfkd fullName).toList.filter fun c => c.toNat < 128
  ((asciiName.splitOnP fun c => !isLatin c).filter (· ≠ [])).map fun part =>
    part.map Char.toLower

/-- The values a pattern is filled with. -/
structure PatternValues where
  first : List Char
  last : List Char
  firstInitial : List Char
  lastInitial : List Char
  sep : List Char

def PatternValues.get? (values : PatternValues) (name : List Char) : Option (List Char) :=
  if name = "first".toList then some values.first
  else if name = "last".toList then some values.last
  else if name = "first_initial".toList then some values.firstInitial
  else if name = "last_initial".toList then some values.lastInitial
  else if name = "sep".toList then some values.sep
  else none

/-- One piece of a pattern, filled in. -/
def fillPiece (tools : CandidateTools) (values : PatternValues) :
    Format.Piece → Except String (List Char)
  | .char c | .brace c => .ok [c]
  | .field f =>
    match values.get? f.name with
    | some value =>
      if f.conversion.isNone ∧ f.spec = [] then .ok value else tools.formatField f
    | none => tools.formatField f

/-- `pattern.format`. -/
def formatPattern (tools : CandidateTools) (values : PatternValues) (pattern : String) :
    Except String (List Char) :=
  match Format.parse pattern.toList with
  | .error _ => .error "malformed pattern"
  | .ok pieces => List.flatten <$> pieces.mapM (fillPiece tools values)

structure EmailCandidate where
  email : String
  pattern : String
  deriving DecidableEq, Repr

def defaultPatterns : List String :=
  ["{first}{sep}{last}", "{first_initial}{last}", "{first}{last_initial}", "{first}",
    "{last}{first_initial}"]

/-- `_SEPARATORS`. -/
def separators : List (List Char) := [['.'], [], ['_'], ['-']]

/-- What is left of a filled pattern. -/
def cleanLocal (text : List Char) : List Char :=
  let kept := (text.map Char.toLower).filter fun c =>
    isSmallLatin c || c.isDigit || isSeparator c
  ((kept.dropWhile isSeparator).reverse.dropWhile isSeparator).reverse

section Generating

variable [Casing] (tools : CandidateTools)

/-- `domain.lower().strip()`. -/
def mailDomain (domain : String) : String :=
  stripChars tools.isSpace (lower domain)

/-- One pattern with one separator. -/
def addCandidate (domain : String) (values : PatternValues)
    (candidates : Dict String EmailCandidate) (pattern : String) :
    Except String (Dict String EmailCandidate) := do
  let localPart := cleanLocal (← formatPattern tools values pattern)
  if localPart = [] then return candidates
  let email := String.ofList localPart ++ "@" ++ mailDomain tools domain
  let normal ← tools.validateEmail email
  return candidates.set email { email := normal, pattern }

/-- `generate_email_candidates`. -/
def generateEmailCandidates (fullName domain : String) (knownPatterns : List String) :
    Except String (List EmailCandidate) :=
  match nameParts tools fullName with
  | [] => .error "not enough values to unpack (expected at least 1, got 0)"
  | first :: middleAndLast =>
    match middleAndLast.getLast? with
    | none => .ok []
    | some last => do
      let patterns := if knownPatterns = [] then defaultPatterns else knownPatterns
      let fillings := patterns.flatMap fun pattern => separators.map fun sep => (pattern, sep)
      let candidates ← fillings.foldlM (fun candidates (pattern, sep) =>
        addCandidate tools domain
          { first, last, firstInitial := first.take 1, lastInitial := last.take 1, sep }
          candidates pattern) []
      return candidates.map (·.2)

end Generating

/-- A local part: small letters with separators inside. -/
structure LocalPart (text : List Char) : Prop where
  nonempty : text ≠ []
  letters : ∀ c ∈ text, isSmallLatin c = true ∨ isSeparator c = true
  head : ∀ c ∈ text.head?, isSeparator c = false
  last : ∀ c ∈ text.getLast?, isSeparator c = false

/-- A local part in which no two dots meet. -/
structure DotAtom (text : List Char) : Prop extends LocalPart text where
  dots : text.count '.' ≤ 1

theorem toLower_letter {c : Char} (hc : isSmallLatin c = true ∨ isSeparator c = true) :
    c.toLower = c := by
  have hupper : ¬('A'.val ≤ c.val ∧ c.val ≤ 'Z'.val) := by
    rcases hc with hc | hc
    · simp only [isSmallLatin, decide_eq_true_eq, Char.le_def] at hc
      simp only [UInt32.le_iff_toNat_le] at hc ⊢
      simp at hc ⊢
      omega
    · simp only [isSeparator, decide_eq_true_eq] at hc
      rcases hc with rfl | rfl | rfl <;> decide
  delta Char.toLower
  rw [dif_neg hupper]

/-- A local part is not changed by the clean-up. -/
theorem cleanLocal_localPart {text : List Char} (htext : LocalPart text) :
    cleanLocal text = text := by
  have hlower : text.map Char.toLower = text := by
    refine (List.map_congr_left fun c hc => ?_).trans (List.map_id text)
    exact toLower_letter (htext.letters c hc)
  have hkept : (text.filter fun c => isSmallLatin c || c.isDigit || isSeparator c) = text := by
    rw [List.filter_eq_self]
    intro c hc
    rcases htext.letters c hc with h | h <;> simp [h]
  have hfront : text.dropWhile isSeparator = text := by
    cases text with
    | nil => rfl
    | cons c rest => rw [List.dropWhile_cons_of_neg (by simp [htext.head c rfl])]
  have hback : text.reverse.dropWhile isSeparator = text.reverse := by
    cases hreverse : text.reverse with
    | nil => rfl
    | cons c rest =>
      have hlast : text.getLast? = some c := by
        rw [← List.head?_reverse, hreverse]
        rfl
      rw [List.dropWhile_cons_of_neg (by simp [htext.last c hlast])]
  unfold cleanLocal
  simp only [hlower, hkept, hfront, hback, List.reverse_reverse]

/-- The five default patterns with what each is filled to. -/
def defaultShapes : List (String × (PatternValues → List Char)) :=
  [("{first}{sep}{last}", fun v => v.first ++ v.sep ++ v.last),
    ("{first_initial}{last}", fun v => v.firstInitial ++ v.last),
    ("{first}{last_initial}", fun v => v.first ++ v.lastInitial),
    ("{first}", fun v => v.first),
    ("{last}{first_initial}", fun v => v.last ++ v.firstInitial)]

section Filling

variable (tools : CandidateTools) (v : PatternValues)

theorem get?_first : v.get? "first".toList = some v.first := if_pos rfl

theorem get?_last : v.get? "last".toList = some v.last :=
  (if_neg (by decide +kernel)).trans (if_pos rfl)

theorem get?_firstInitial : v.get? "first_initial".toList = some v.firstInitial :=
  (if_neg (by decide +kernel)).trans ((if_neg (by decide +kernel)).trans (if_pos rfl))

theorem get?_lastInitial : v.get? "last_initial".toList = some v.lastInitial :=
  (if_neg (by decide +kernel)).trans ((if_neg (by decide +kernel)).trans
    ((if_neg (by decide +kernel)).trans (if_pos rfl)))

theorem get?_sep : v.get? "sep".toList = some v.sep :=
  (if_neg (by decide +kernel)).trans ((if_neg (by decide +kernel)).trans
    ((if_neg (by decide +kernel)).trans ((if_neg (by decide +kernel)).trans (if_pos rfl))))

/-- A field that names one of the values is filled with it. -/
theorem fillPiece_name {name value : List Char} (hvalue : v.get? name = some value) :
    fillPiece tools v (.field { name }) = .ok value := by
  simp [fillPiece, hvalue]

/-- A pattern of plain names is filled with their values, one after the other. -/
theorem formatPattern_names {pattern : String} (names : List (List Char))
    {values : List (List Char)}
    (hparse : Format.parse pattern.toList = .ok (names.map fun name => .field { name }))
    (hvalues : List.Forall₂ (fun name value => v.get? name = some value) names values) :
    formatPattern tools v pattern = .ok values.flatten := by
  have hfill : (names.map fun name => Format.Piece.field { name }).mapM (fillPiece tools v) =
      .ok values := by
    clear hparse
    induction hvalues with
    | nil => rfl
    | cons hvalue _ ih =>
      rw [List.map_cons, List.mapM_cons, fillPiece_name tools v hvalue, ih]
      rfl
  rw [formatPattern, hparse]
  show List.flatten <$> _ = _
  rw [hfill]
  rfl

end Filling

/-- A default pattern is filled with the values it names. -/
theorem formatPattern_default {tools : CandidateTools} (v : PatternValues)
    {shape : String × (PatternValues → List Char)} (hshape : shape ∈ defaultShapes) :
    formatPattern tools v shape.1 = .ok (shape.2 v) := by
  simp only [defaultShapes, List.mem_cons, List.not_mem_nil, or_false] at hshape
  rcases hshape with rfl | rfl | rfl | rfl | rfl
  · rw [formatPattern_names tools v (["first".toList, "sep".toList, "last".toList])
      (by decide +kernel)
      (.cons (get?_first v) (.cons (get?_sep v) (.cons (get?_last v) .nil)))]
    simp
  · rw [formatPattern_names tools v (["first_initial".toList, "last".toList])
      (by decide +kernel) (.cons (get?_firstInitial v) (.cons (get?_last v) .nil))]
    simp
  · rw [formatPattern_names tools v (["first".toList, "last_initial".toList])
      (by decide +kernel) (.cons (get?_first v) (.cons (get?_lastInitial v) .nil))]
    simp
  · rw [formatPattern_names tools v (["first".toList]) (by decide +kernel)
      (.cons (get?_first v) .nil)]
    simp
  · rw [formatPattern_names tools v (["last".toList, "first_initial".toList])
      (by decide +kernel) (.cons (get?_last v) (.cons (get?_firstInitial v) .nil))]
    simp

/-- The values that two parts of a name and a separator give. -/
structure NameValues (v : PatternValues) : Prop where
  firstNonempty : v.first ≠ []
  lastNonempty : v.last ≠ []
  firstLetters : ∀ c ∈ v.first, isSmallLatin c = true
  lastLetters : ∀ c ∈ v.last, isSmallLatin c = true
  firstInitial : v.firstInitial = v.first.take 1
  lastInitial : v.lastInitial = v.last.take 1
  sep : v.sep ∈ separators

/-- An address. -/
def addressAt (text : List Char) (domain : String) : String :=
  String.ofList text ++ "@" ++ domain

theorem addressAt_toList (text : List Char) (domain : String) :
    (addressAt text domain).toList = text ++ '@' :: domain.toList := by
  rw [addressAt, String.toList_append, String.toList_append, String.toList_ofList]
  simp

theorem LocalPart.no_at {text : List Char} (htext : LocalPart text) : '@' ∉ text := by
  intro hmem
  rcases htext.letters '@' hmem with h | h <;> revert h <;> decide

theorem LocalPart.before_at {text : List Char} (htext : LocalPart text) (domain : String) :
    (addressAt text domain).toList.takeWhile (· ≠ '@') = text := by
  rw [addressAt_toList, List.takeWhile_append_of_pos, List.takeWhile_cons_of_neg (by simp),
    List.append_nil]
  intro c hc
  simpa using fun h : c = '@' => htext.no_at (h ▸ hc)

/-- An address can be taken apart at its at-sign. -/
theorem addressAt_inj {text text' : List Char} {domain domain' : String}
    (htext : LocalPart text) (htext' : LocalPart text')
    (hsame : addressAt text domain = addressAt text' domain') :
    text = text' ∧ domain = domain' := by
  have hlist : text ++ '@' :: domain.toList = text' ++ '@' :: domain'.toList := by
    rw [← addressAt_toList, ← addressAt_toList, hsame]
  obtain ⟨htexts, hdomains⟩ := cut_inj htext.no_at htext'.no_at hlist
  exact ⟨htexts, String.toList_injective hdomains⟩

/-- What the address library makes of a mail domain: it takes local parts up to some length,
since a local part has at most 64 characters and an address at most 254, and it writes the
domain in its normal form. -/
structure MailDomain [Casing] (tools : CandidateTools) (domain normal : String)
    (room : Nat) : Prop where
  stripped : mailDomain tools domain = lower domain
  accepts : ∀ text, DotAtom text → text.length ≤ room →
    tools.validateEmail (addressAt text (lower domain)) = .ok (addressAt text normal)
  refuses : ∀ text, DotAtom text → room < text.length →
    ∃ message, tools.validateEmail (addressAt text (lower domain)) = .error message

theorem isSeparator_letter {c : Char} (hc : isSmallLatin c = true) : isSeparator c = false := by
  cases hsep : isSeparator c with
  | false => rfl
  | true =>
    simp only [isSeparator, decide_eq_true_eq] at hsep
    rcases hsep with rfl | rfl | rfl <;> revert hc <;> decide

theorem letters_dotless {text : List Char} (htext : ∀ c ∈ text, isSmallLatin c = true) :
    text.count '.' = 0 := by
  rw [List.count_eq_zero]
  intro hdot
  have := isSeparator_letter (htext '.' hdot)
  revert this
  decide

/-- Letters with at most one separator between two of them. -/
theorem joined_dotAtom {first sep last : List Char} (hfirst : first ≠ []) (hlast : last ≠ [])
    (hletters : ∀ c ∈ first ++ last, isSmallLatin c = true) (hsep : sep ∈ separators) :
    DotAtom (first ++ sep ++ last) where
  nonempty := by simp [hfirst]
  letters := by
    intro c hc
    rw [List.append_assoc, List.mem_append, List.mem_append] at hc
    rcases hc with hc | hc | hc
    · exact Or.inl (hletters c (List.mem_append_left _ hc))
    · apply Or.inr
      simp only [separators, List.mem_cons, List.not_mem_nil, or_false] at hsep
      rcases hsep with rfl | rfl | rfl | rfl <;>
        first | exact absurd hc List.not_mem_nil | (obtain rfl := List.mem_singleton.mp hc; rfl)
    · exact Or.inl (hletters c (List.mem_append_right _ hc))
  head := by
    intro c hc
    cases first with
    | nil => exact absurd rfl hfirst
    | cons d rest =>
      obtain rfl : d = c := Option.some.inj hc
      exact isSeparator_letter (hletters d List.mem_cons_self)
  last := by
    intro c hc
    rw [List.getLast?_append_of_ne_nil _ hlast] at hc
    exact isSeparator_letter (hletters c (List.mem_append_right _ (List.mem_of_getLast? hc)))
  dots := by
    have hfirstDots := letters_dotless fun c hc => hletters c (List.mem_append_left last hc)
    have hlastDots := letters_dotless fun c hc => hletters c (List.mem_append_right first hc)
    have hsepDots : sep.count '.' ≤ 1 := by
      simp only [separators, List.mem_cons, List.not_mem_nil, or_false] at hsep
      rcases hsep with rfl | rfl | rfl | rfl <;> decide
    rw [List.count_append, List.count_append]
    omega

theorem letters_dotAtom {text : List Char} (hne : text ≠ [])
    (htext : ∀ c ∈ text, isSmallLatin c = true) : DotAtom text where
  nonempty := hne
  letters c hc := Or.inl (htext c hc)
  head c hc := isSeparator_letter (htext c (List.mem_of_mem_head? hc))
  last c hc := isSeparator_letter (htext c (List.mem_of_getLast? hc))
  dots := by
    rw [letters_dotless htext]
    omega

/-- A default pattern is filled to a local part, no longer than the full name with a dot. -/
theorem filled_dotAtom {v : PatternValues} (hv : NameValues v)
    {shape : String × (PatternValues → List Char)} (hshape : shape ∈ defaultShapes) :
    DotAtom (shape.2 v) ∧ (shape.2 v).length ≤ v.first.length + 1 + v.last.length := by
  have hfirst := hv.firstLetters
  have hlast := hv.lastLetters
  have hletters : ∀ c ∈ v.first ++ v.last, isSmallLatin c = true := by
    intro c hc
    exact (List.mem_append.mp hc).elim (hfirst c) (hlast c)
  have hfirstLength := List.length_pos_of_ne_nil hv.firstNonempty
  have hlastLength := List.length_pos_of_ne_nil hv.lastNonempty
  simp only [defaultShapes, List.mem_cons, List.not_mem_nil, or_false] at hshape
  rcases hshape with rfl | rfl | rfl | rfl | rfl <;> dsimp only
  · refine ⟨joined_dotAtom hv.firstNonempty hv.lastNonempty hletters hv.sep, ?_⟩
    have hsep : v.sep.length ≤ 1 := by
      have hsep := hv.sep
      simp only [separators, List.mem_cons, List.not_mem_nil, or_false] at hsep
      rcases hsep with h | h | h | h <;> rw [h] <;> decide
    simp only [List.length_append]
    omega
  · refine ⟨letters_dotAtom (by simp [hv.lastNonempty]) ?_, ?_⟩
    · rw [hv.firstInitial]
      intro c hc
      exact (List.mem_append.mp hc).elim (fun h => hfirst c (List.mem_of_mem_take h)) (hlast c)
    · rw [hv.firstInitial, List.length_append, List.length_take]
      omega
  · refine ⟨letters_dotAtom (by simp [hv.firstNonempty]) ?_, ?_⟩
    · rw [hv.lastInitial]
      intro c hc
      exact (List.mem_append.mp hc).elim (hfirst c) fun h => hlast c (List.mem_of_mem_take h)
    · rw [hv.lastInitial, List.length_append, List.length_take]
      omega
  · refine ⟨letters_dotAtom hv.firstNonempty hfirst, ?_⟩
    omega
  · refine ⟨letters_dotAtom (by simp [hv.lastNonempty]) ?_, ?_⟩
    · rw [hv.firstInitial]
      intro c hc
      exact (List.mem_append.mp hc).elim (hlast c) fun h => hfirst c (List.mem_of_mem_take h)
    · rw [hv.firstInitial, List.length_append, List.length_take]
      omega

/-- A pattern with a separator. -/
def fillings : List ((String × (PatternValues → List Char)) × List Char) :=
  defaultShapes.flatMap fun shape => separators.map fun sep => (shape, sep)

theorem mem_fillings {filling : (String × (PatternValues → List Char)) × List Char} :
    filling ∈ fillings ↔ filling.1 ∈ defaultShapes ∧ filling.2 ∈ separators := by
  obtain ⟨shape, sep⟩ := filling
  simp only [fillings, List.mem_flatMap, List.mem_map, Prod.mk.injEq]
  constructor
  · rintro ⟨shape', hshape, sep', hsep, rfl, rfl⟩
    exact ⟨hshape, hsep⟩
  · rintro ⟨hshape, hsep⟩
    exact ⟨shape, hshape, sep, hsep, rfl, rfl⟩

section Adding

variable [Casing] {tools : CandidateTools} {domain normal : String} {room : Nat}
  (hdomain : MailDomain tools domain normal room)

include hdomain

/-- A pattern that fits adds its address. -/
theorem addCandidate_fits {v : PatternValues} (hv : NameValues v)
    (candidates : Dict String EmailCandidate)
    {shape : String × (PatternValues → List Char)} (hshape : shape ∈ defaultShapes)
    (hroom : (shape.2 v).length ≤ room) :
    addCandidate tools domain v candidates shape.1 =
      .ok (candidates.set (addressAt (shape.2 v) (lower domain))
        { email := addressAt (shape.2 v) normal, pattern := shape.1 }) := by
  obtain ⟨hatom, -⟩ := filled_dotAtom hv hshape
  have haddress : String.ofList (shape.2 v) ++ "@" ++ mailDomain tools domain =
      addressAt (shape.2 v) (lower domain) := by
    rw [addressAt, hdomain.stripped]
  rw [addCandidate, formatPattern_default v hshape]
  show (if cleanLocal (shape.2 v) = [] then _ else _) = _
  rw [cleanLocal_localPart hatom.toLocalPart, if_neg hatom.nonempty]
  simp only [haddress, hdomain.accepts _ hatom hroom]
  rfl

/-- The validator refuses a pattern that does not fit. -/
theorem addCandidate_refused {v : PatternValues} (hv : NameValues v)
    (candidates : Dict String EmailCandidate)
    {shape : String × (PatternValues → List Char)} (hshape : shape ∈ defaultShapes)
    (hroom : room < (shape.2 v).length) :
    ∃ message, addCandidate tools domain v candidates shape.1 = .error message := by
  obtain ⟨hatom, -⟩ := filled_dotAtom hv hshape
  obtain ⟨message, hrefused⟩ := hdomain.refuses _ hatom hroom
  have haddress : String.ofList (shape.2 v) ++ "@" ++ mailDomain tools domain =
      addressAt (shape.2 v) (lower domain) := by
    rw [addressAt, hdomain.stripped]
  refine ⟨message, ?_⟩
  rw [addCandidate, formatPattern_default v hshape]
  show (if cleanLocal (shape.2 v) = [] then _ else _) = _
  rw [cleanLocal_localPart hatom.toLocalPart, if_neg hatom.nonempty]
  simp only [haddress, hrefused]
  rfl

end Adding

/-- Addresses of local parts, each once, under the address as it was made up. -/
structure MadeUp (domain normal : String) (candidates : Dict String EmailCandidate) :
    Prop where
  distinct : candidates.keys.Nodup
  addresses : ∀ entry ∈ candidates, ∃ text, LocalPart text ∧
    entry.1 = addressAt text domain ∧ entry.2.email = addressAt text normal

theorem MadeUp.set {domain normal : String} (pattern : String) {text : List Char}
    {candidates : Dict String EmailCandidate} (hmade : MadeUp domain normal candidates)
    (htext : LocalPart text) :
    MadeUp domain normal (candidates.set (addressAt text domain)
      { email := addressAt text normal, pattern }) where
  distinct := Dict.keys_set_nodup hmade.distinct
  addresses := by
    intro entry hentry
    rcases Dict.mem_set hentry with hold | rfl
    · exact hmade.addresses entry hold
    · exact ⟨text, htext, rfl, rfl⟩

/-- The addresses that were made up are distinct after the validator, too. -/
theorem MadeUp.emails_nodup {domain normal : String}
    {candidates : Dict String EmailCandidate} (hmade : MadeUp domain normal candidates) :
    ((candidates.map (·.2)).map (·.email)).Nodup := by
  rw [List.map_map]
  have hkeys : (candidates.map (·.1)).Pairwise (· ≠ ·) := hmade.distinct
  rw [List.pairwise_map] at hkeys
  apply List.pairwise_map.mpr
  refine hkeys.imp_of_mem fun {entry other} hentry hother hne hsame => ?_
  obtain ⟨text, htext, hkey, hemail⟩ := hmade.addresses entry hentry
  obtain ⟨text', htext', hkey', hemail'⟩ := hmade.addresses other hother
  have hsame : entry.2.email = other.2.email := hsame
  rw [hemail, hemail'] at hsame
  obtain ⟨rfl, -⟩ := addressAt_inj htext htext' hsame
  exact hne (hkey.trans hkey'.symm)

/-- The values for two parts of a name and a separator. -/
def valuesOf (first last sep : List Char) : PatternValues :=
  { first, last, firstInitial := first.take 1, lastInitial := last.take 1, sep }

/-- One of the patterns is the whole name with a dot. -/
theorem dotted_filling (first last : List Char) : ∃ filling ∈ fillings,
    (filling.1.2 (valuesOf first last filling.2)).length = first.length + 1 + last.length := by
  refine ⟨(("{first}{sep}{last}", fun v => v.first ++ v.sep ++ v.last), ['.']), ?_, ?_⟩
  · exact mem_fillings.mpr ⟨List.mem_cons_self, List.mem_cons_self⟩
  · show (first ++ ['.'] ++ last).length = _
    rw [List.length_append, List.length_append, List.length_singleton]

section Names

variable {tools : CandidateTools} {fullName : String}

/-- A part of a name has letters, all of them small and Latin. -/
theorem nameParts_letters (part : List Char) (hpart : part ∈ nameParts tools fullName) :
    part ≠ [] ∧ ∀ c ∈ part, isSmallLatin c = true := by
  obtain ⟨run, hrun, rfl⟩ := List.mem_map.mp hpart
  obtain ⟨hrun, hne⟩ := List.mem_filter.mp hrun
  refine ⟨by simpa using hne, ?_⟩
  intro c hc
  obtain ⟨d, hd, rfl⟩ := List.mem_map.mp hc
  have hlatin : isLatin d = true := by simpa using splitOnP_piece hrun d hd
  simp only [isLatin, decide_eq_true_eq, Char.le_def, UInt32.le_iff_toNat_le] at hlatin
  by_cases hupper : 'A'.val ≤ d.val ∧ d.val ≤ 'Z'.val
  · delta Char.toLower
    rw [dif_pos hupper]
    simp only [UInt32.le_iff_toNat_le] at hupper
    simp only [isSmallLatin, decide_eq_true_eq, Char.le_def, UInt32.le_iff_toNat_le,
      UInt32.toNat_add]
    simp at hupper ⊢
    omega
  · delta Char.toLower
    rw [dif_neg hupper]
    simp only [UInt32.le_iff_toNat_le] at hupper
    simp only [isSmallLatin, decide_eq_true_eq, Char.le_def, UInt32.le_iff_toNat_le]
    omega

theorem valuesOf_nameValues {first last sep : List Char} {rest : List (List Char)}
    (hparts : nameParts tools fullName = first :: rest) (hlast : last ∈ rest)
    (hsep : sep ∈ separators) : NameValues (valuesOf first last sep) := by
  have hfirst := nameParts_letters first (hparts ▸ List.mem_cons_self)
  have hlast := nameParts_letters last (hparts ▸ List.mem_cons_of_mem _ hlast)
  exact ⟨hfirst.1, hlast.1, hfirst.2, hlast.2, rfl, rfl, hsep⟩

end Names

section Runs

variable [Casing] {tools : CandidateTools} {fullName domain normal : String} {room : Nat}
  {first last : List Char} {rest : List (List Char)}

/-- One pattern of the run over all of them. -/
def addFilling (tools : CandidateTools) (domain : String) (first last : List Char)
    (candidates : Dict String EmailCandidate)
    (filling : (String × (PatternValues → List Char)) × List Char) :
    Except String (Dict String EmailCandidate) :=
  addCandidate tools domain (valuesOf first last filling.2) candidates filling.1.1

/-- With two parts or more the default patterns are filled one after the other. -/
theorem generate_default (hparts : nameParts tools fullName = first :: rest)
    (hlast : rest.getLast? = some last) :
    generateEmailCandidates tools fullName domain [] = (do
      let candidates ← fillings.foldlM (addFilling tools domain first last) []
      return candidates.map (·.2)) := by
  unfold generateEmailCandidates
  rw [hparts]
  dsimp only
  rw [hlast]
  rfl

section Steps

variable (hdomain : MailDomain tools domain normal room)
  (hvalues : ∀ sep ∈ separators, NameValues (valuesOf first last sep))

include hdomain hvalues

/-- While every pattern fits, the run makes up addresses. -/
theorem fillings_fit (steps : List ((String × (PatternValues → List Char)) × List Char))
    (hsteps : steps ⊆ fillings) (hfit : first.length + 1 + last.length ≤ room)
    (candidates : Dict String EmailCandidate)
    (hmade : MadeUp (lower domain) normal candidates) :
    ∃ made, steps.foldlM (addFilling tools domain first last) candidates = .ok made ∧
      MadeUp (lower domain) normal made ∧ (steps ≠ [] ∨ candidates ≠ [] → made ≠ []) := by
  induction steps generalizing candidates with
  | nil => exact ⟨candidates, rfl, hmade, fun h => h.elim (absurd rfl) id⟩
  | cons step steps ih =>
    obtain ⟨hshape, hsep⟩ := mem_fillings.mp (hsteps List.mem_cons_self)
    have hv := hvalues step.2 hsep
    obtain ⟨hatom, hlength⟩ := filled_dotAtom hv hshape
    have hadded := addCandidate_fits hdomain hv candidates hshape (hlength.trans hfit)
    obtain ⟨made, hrun, hmadeUp, hne⟩ := ih (fun _ h => hsteps (List.mem_cons_of_mem _ h)) _
      (hmade.set step.1.1 hatom.toLocalPart)
    refine ⟨made, ?_, hmadeUp, fun _ => hne (Or.inr Dict.set_ne_nil)⟩
    rw [List.foldlM_cons, addFilling, hadded]
    exact hrun

/-- One pattern that does not fit ends the run. -/
theorem fillings_refused (steps : List ((String × (PatternValues → List Char)) × List Char))
    (hsteps : steps ⊆ fillings) (candidates : Dict String EmailCandidate)
    (hrefused : ∃ step ∈ steps, room < (step.1.2 (valuesOf first last step.2)).length) :
    ∃ message, steps.foldlM (addFilling tools domain first last) candidates =
      .error message := by
  induction steps generalizing candidates with
  | nil => simp at hrefused
  | cons step steps ih =>
    obtain ⟨hshape, hsep⟩ := mem_fillings.mp (hsteps List.mem_cons_self)
    have hv := hvalues step.2 hsep
    rw [List.foldlM_cons, addFilling]
    by_cases hfit : (step.1.2 (valuesOf first last step.2)).length ≤ room
    · rw [addCandidate_fits hdomain hv candidates hshape hfit]
      refine ih (fun _ h => hsteps (List.mem_cons_of_mem _ h)) _ ?_
      obtain ⟨bad, hbad, hlong⟩ := hrefused
      obtain rfl | hbad := List.mem_cons.mp hbad
      · omega
      · exact ⟨bad, hbad, hlong⟩
    · obtain ⟨message, herror⟩ :=
        addCandidate_refused hdomain hv candidates hshape (Nat.lt_of_not_le hfit)
      exact ⟨message, by rw [herror]; rfl⟩

end Steps

/-- What is promised of the addresses for a name with these parts. -/
def Generates (parts : List (List Char)) (domain : String)
    (result : Except String (List EmailCandidate)) : Prop :=
  ∃ candidates, result = .ok candidates ∧ (candidates.map (·.email)).Nodup ∧
    (∀ candidate ∈ candidates, ∃ text, LocalPart text ∧
      candidate.email = addressAt text (lower domain)) ∧
    (candidates = [] ↔ parts.length < 2)

/-- Addresses are generated for every name that has a Latin part and whose first and last part
fit the room of the domain with a dot between them, at a domain that is its own normal form. A
name without a Latin part is refused with an unpacking error. -/
theorem addresses_generated_iff (fullName : String)
    (hdomain : MailDomain tools domain normal room) :
    Generates (nameParts tools fullName) domain
        (generateEmailCandidates tools fullName domain []) ↔
      nameParts tools fullName ≠ [] ∧
        ∀ first rest last, nameParts tools fullName = first :: rest →
          rest.getLast? = some last →
            first.length + 1 + last.length ≤ room ∧ normal = lower domain := by
  cases hparts : nameParts tools fullName with
  | nil =>
    have herror : generateEmailCandidates tools fullName domain [] =
        .error "not enough values to unpack (expected at least 1, got 0)" := by
      unfold generateEmailCandidates
      rw [hparts]
    rw [herror]
    constructor
    · rintro ⟨_, hok, -⟩
      exact absurd hok (by simp)
    · rintro ⟨hne, -⟩
      exact absurd rfl hne
  | cons first rest =>
    cases hlast : rest.getLast? with
    | none =>
      obtain rfl : rest = [] := List.getLast?_eq_none_iff.mp hlast
      have hempty : generateEmailCandidates tools fullName domain [] = .ok [] := by
        unfold generateEmailCandidates
        rw [hparts]
        rfl
      rw [hempty]
      constructor
      · intro _
        refine ⟨by simp, ?_⟩
        intro first' rest' last' hsame hlast'
        obtain ⟨-, rfl⟩ := List.cons.inj hsame
        exact absurd hlast' (by simp)
      · intro _
        exact ⟨[], rfl, List.nodup_nil, by simp, by simp⟩
    | some last =>
      have hvalues : ∀ sep ∈ separators, NameValues (valuesOf first last sep) := by
        intro sep hsep
        exact valuesOf_nameValues hparts (List.mem_of_getLast? hlast) hsep
      have htwo : ¬(first :: rest).length < 2 := by
        have := List.length_pos_of_mem (List.mem_of_getLast? hlast)
        rw [List.length_cons]
        omega
      rw [generate_default hparts hlast]
      by_cases hfit : first.length + 1 + last.length ≤ room
      · obtain ⟨made, hrun, hmade, hne⟩ := fillings_fit hdomain hvalues fillings
          (List.Subset.refl _) hfit [] ⟨List.nodup_nil, by simp⟩
        have hmadeNe : made ≠ [] := hne (Or.inl (by simp [fillings, defaultShapes, separators]))
        rw [hrun]
        constructor
        · rintro ⟨candidates, hok, -, haddresses, -⟩
          refine ⟨by simp, ?_⟩
          intro first' rest' last' hsame hlast'
          obtain ⟨rfl, rfl⟩ := List.cons.inj hsame
          obtain rfl := Option.some.inj (hlast.symm.trans hlast')
          refine ⟨hfit, ?_⟩
          obtain rfl : made.map (·.2) = candidates := by simpa using hok
          obtain ⟨entry, hentry⟩ := List.exists_mem_of_ne_nil made hmadeNe
          obtain ⟨text, htext, -, hemail⟩ := hmade.addresses entry hentry
          obtain ⟨text', htext', hemail'⟩ := haddresses entry.2 (List.mem_map_of_mem hentry)
          exact (addressAt_inj htext htext' (hemail.symm.trans hemail')).2
        · rintro ⟨-, hcondition⟩
          obtain ⟨-, rfl⟩ := hcondition first rest last rfl hlast
          refine ⟨made.map (·.2), rfl, hmade.emails_nodup, ?_, ?_⟩
          · intro candidate hcandidate
            obtain ⟨entry, hentry, rfl⟩ := List.mem_map.mp hcandidate
            obtain ⟨text, htext, -, hemail⟩ := hmade.addresses entry hentry
            exact ⟨text, htext, hemail⟩
          · simp [hmadeNe]
            simpa using htwo
      · have hlong : ∃ step ∈ fillings,
            room < (step.1.2 (valuesOf first last step.2)).length := by
          obtain ⟨step, hstep, hlength⟩ := dotted_filling first last
          exact ⟨step, hstep, by omega⟩
        obtain ⟨message, herror⟩ := fillings_refused hdomain hvalues fillings
          (List.Subset.refl _) [] hlong
        rw [herror]
        constructor
        · rintro ⟨_, hok, -⟩
          exact absurd hok (by simp [bind, Except.bind])
        · rintro ⟨-, hcondition⟩
          exact absurd (hcondition first rest last rfl hlast).1 hfit

end Runs

/-- The validator's limits on an address in ASCII. -/
def plainValidate (email : String) : Except String String :=
  if (email.toList.takeWhile (· ≠ '@')).length ≤ 64 ∧ email.length ≤ 254 then .ok email
  else .error "value is not a valid email address"

/-- ASCII names, and addresses at a domain in ASCII. -/
def plainCandidateTools : CandidateTools :=
  { nfkd := id, validateEmail := plainValidate, formatField := fun _ => .error "field" }

theorem example_mailDomain :
    MailDomain plainCandidateTools "example.com" "example.com" 64 where
  stripped := by decide +kernel
  accepts text hatom hlength := by
    have hlower : lower "example.com" = "example.com" := by decide +kernel
    have hlocal := hatom.toLocalPart.before_at "example.com"
    have htotal : (addressAt text "example.com").length ≤ 254 := by
      rw [← String.length_toList, addressAt_toList, List.length_append, List.length_cons,
        String.length_toList, show "example.com".length = 11 by decide +kernel]
      omega
    rw [hlower]
    exact if_pos ⟨hlocal.symm ▸ hlength, htotal⟩
  refuses text hatom hlength := by
    have hlower : lower "example.com" = "example.com" := by decide +kernel
    have hlocal := hatom.toLocalPart.before_at "example.com"
    rw [hlower]
    refine ⟨_, if_neg ?_⟩
    rintro ⟨hshort, -⟩
    rw [hlocal] at hshort
    omega

theorem ada_addresses_generated :
    Generates (nameParts plainCandidateTools "Ada Lovelace") "example.com"
      (generateEmailCandidates plainCandidateTools "Ada Lovelace" "example.com" []) := by
  have hparts : nameParts plainCandidateTools "Ada Lovelace" =
      ["ada".toList, "lovelace".toList] := by decide +kernel
  apply (addresses_generated_iff "Ada Lovelace" example_mailDomain).mpr
  refine ⟨by rw [hparts]; simp, ?_⟩
  intro first rest last hsame hlast
  rw [hparts] at hsame
  obtain ⟨rfl, rfl⟩ := List.cons.inj hsame
  obtain rfl : "lovelace".toList = last := by simpa using hlast
  exact ⟨by decide +kernel, by decide +kernel⟩

/-- A name in another script has no part to unpack. -/
theorem cyrillic_name_refused :
    ¬Generates (nameParts plainCandidateTools "Иван Петров") "example.com"
      (generateEmailCandidates plainCandidateTools "Иван Петров" "example.com" []) := by
  have hparts : nameParts plainCandidateTools "Иван Петров" = [] := by decide +kernel
  rintro ⟨candidates, hok, -⟩
  unfold generateEmailCandidates at hok
  rw [hparts] at hok
  exact absurd hok (by simp)

end GhostRecon
