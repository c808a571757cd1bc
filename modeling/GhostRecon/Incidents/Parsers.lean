import GhostRecon.Common.Json
import GhostRecon.Common.Text
import GhostRecon.Models.Prospects

/-!
Reading company names, domains and attack vectors out of an item, and the keys
under which articles and incidents are found again. The two regular
expressions that find a company in a headline are written out as the searches
they describe: leftmost start, shortest name before a verb, longest name after
a preposition.
-/

namespace GhostRecon.Incidents

/-- The parts of a split URL that are read. Reading the port may raise. -/
structure SplitUrl where
  scheme : String
  hostname : Option String
  port : Except String (Option Nat)
  path : String
  query : String

/-- The library functions of the incident service. -/
structure IncidentTools where
  /-- The hexadecimal digest of a text. -/
  sha256 : String → String
  urlsplit : String → Except String SplitUrl
  parseQsl : String → List (String × String)
  urlencode : List (String × String) → String
  /-- `urlunsplit` of scheme, host, path and query. -/
  urlunsplit : String → String → String → String → String
  /-- `str` of a JSON value that is not a text. -/
  textOf : Json → String
  /-- `int` of a text. -/
  intOfText : String → Option Int
  isSpace : Char → Bool := Char.isWhitespace

variable [Casing] (tools : IncidentTools)

def strip (text : String) : String :=
  stripChars tools.isSpace text

/-- `str(value)`. -/
def IncidentTools.str : Json → String
  | .str text => text
  | value => tools.textOf value

/-- `_string`. -/
def stringOf (value : Option Json) : Option String :=
  match value with
  | none | some .null => none
  | some value => nonEmpty (strip tools (tools.str value))

/-- `_slug`. -/
def slug (value : String) : String :=
  let words := ((lower value).toList.splitOnP fun c =>
    !(('a' ≤ c ∧ c ≤ 'z') ∨ ('0' ≤ c ∧ c ≤ '9'))).filter (· ≠ [])
  (nonEmpty ("-".intercalate (words.map String.ofList))).getD "unknown"

/-- `_hostname`. -/
def hostname (url : Option String) : Except String (Option String) :=
  match url with
  | none => .ok none
  | some "" => .ok none
  | some url => do
    let parsed ← tools.urlsplit url
    return nonEmpty (lower (parsed.hostname.getD ""))

/-- `_is_tracking_param`. -/
def isTrackingParam (key : String) : Bool :=
  "utm_".toList.isPrefixOf (lower key).toList ||
    (lower key) ∈ ["fbclid", "gclid", "mc_cid", "mc_eid", "msclkid"]

/-- `normalize_url`. -/
def normalizeUrl (url : String) : Except String String := do
  let parsed ← tools.urlsplit (strip tools url)
  let scheme := lower ((nonEmpty parsed.scheme).getD "https")
  let host := lower (parsed.hostname.getD "")
  let host := match ← parsed.port with
    | none | some 0 => host
    | some port =>
      if (scheme = "http" ∧ port = 80) ∨ (scheme = "https" ∧ port = 443) then host
      else host ++ ":" ++ toString port
  let pairs := (tools.parseQsl parsed.query).filter fun pair => !isTrackingParam pair.1
  let query := tools.urlencode
    (pairs.mergeSort fun a b => a.1 < b.1 ∨ (a.1 = b.1 ∧ a.2 ≤ b.2))
  return tools.urlunsplit scheme host ((nonEmpty parsed.path).getD "/") query

def padded (width n : Nat) : String :=
  String.ofList (List.replicate (width - (toString n).length) '0') ++ toString n

/-- `date().isoformat()` of a time, from the days since the epoch. -/
def isoDate (t : Time) : String :=
  let day := t / 86400 + 719468
  let era := day / 146097
  let ofEra := day % 146097
  let yearOfEra := (ofEra - ofEra / 1460 + ofEra / 36524 - ofEra / 146096) / 365
  let ofYear := ofEra - (365 * yearOfEra + yearOfEra / 4 - yearOfEra / 100)
  let shifted := (5 * ofYear + 2) / 153
  let month := if shifted < 10 then shifted + 3 else shifted - 9
  let year := yearOfEra + era * 400 + (if month ≤ 2 then 1 else 0)
  padded 4 year ++ "-" ++ padded 2 month ++ "-" ++ padded 2 (ofYear - (153 * shifted + 2) / 5 + 1)

example : isoDate 1783080000 = "2026-07-03" := by decide +kernel

/-- The texts of a list under `key`, stripped; empty ones are dropped. -/
def textList (metadata : Json) (key : String) : List String :=
  match metadata.get? key with
  | some (.arr values) => values.filterMap fun value => nonEmpty (strip tools (tools.str value))
  | _ => []

/-- `_companies_from_metadata`. -/
def companiesFromMetadata (metadata : Json) : List String :=
  textList tools metadata "affected_companies"

/-- `_domains_from_metadata`. -/
def domainsFromMetadata (metadata : Json) : List String :=
  (textList tools metadata "affected_domains").map lower

/-- `[A-Za-z0-9&., ]`. -/
def isNameChar (c : Char) : Bool :=
  c.isAlphanum || c ∈ ['&', '.', ',', ' ']

def startsWith (text : List Char) (head : String) : Bool :=
  head.toList.isPrefixOf text

/-- The shortest run of 2 to 80 name characters before a blank and a verb. -/
def nameBeforeVerb (text : List Char) : Option (List Char) :=
  ((List.range 81).drop 2).findSome? fun n =>
    let name := text.take n
    if name.length = n ∧ name.all isNameChar ∧
        ["reports", "reported", "discloses", "disclosed", "confirms", "confirmed", "suffers",
          "suffered"].any (fun verb => startsWith (text.drop n) (" " ++ verb)) then
      some name
    else none

/-- The first match of the pattern with a verb. -/
def companyBeforeVerb : List Char → Option (List Char)
  | [] => none
  | c :: rest =>
    if c.isUpper then
      match nameBeforeVerb rest with
      | some name => some (c :: name)
      | none => companyBeforeVerb rest
    else companyBeforeVerb rest

/-- A capital and the longest run of 2 to 80 name characters after it. -/
def capitalizedName : List Char → Option (List Char)
  | [] => none
  | c :: rest =>
    let name := (rest.takeWhile isNameChar).take 80
    if c.isUpper ∧ 2 ≤ name.length then some (c :: name) else none

/-- The first match of the pattern with a preposition. -/
def companyAfterTerm : List Char → Option (List Char)
  | [] => none
  | text@(_ :: rest) =>
    let found := ["breach", "ransomware", "cyberattack", "cyber attack"].findSome? fun term =>
      ["at", "hits", "against"].findSome? fun preposition =>
        let head := term ++ " " ++ preposition ++ " "
        if startsWith text head then capitalizedName (text.drop head.length) else none
    match found with
    | some name => some name
    | none => companyAfterTerm rest

/-- `_companies_from_text`. -/
def companiesFromText (text : String) : List String :=
  let found := [companyBeforeVerb text.toList, companyAfterTerm text.toList].findSome? fun name =>
    name.bind fun name => nonEmpty (stripChars (· ∈ [' ', '.', ',', ':']) (String.ofList name))
  found.toList

/-- `_incident_contexts`: each company with its domain, else the domains alone. -/
def incidentContexts (companies domains : List String) :
    List (Option String × Option String) :=
  let companies := companies.filterMap fun value => nonEmpty (strip tools value)
  let domains := domains.filterMap fun value => (nonEmpty (strip tools value)).map lower
  if companies ≠ [] then
    companies.zipIdx.map fun (company, index) =>
      let only := if domains.length = 1 then domains.head? else none
      (some company, (domains[index]?).or only)
  else if domains ≠ [] then domains.map fun domain => (none, some domain)
  else [(none, none)]

/-- `_attack_vector`: the first term of the table that occurs. -/
def attackVector (lowered : String) : Option String :=
  ([("ransomware", "ransomware"), ("phishing", "phishing"), ("ddos", "ddos"),
    ("malware", "malware"), ("data breach", "data_breach"), ("breach", "data_breach"),
    ("data leak", "data_leak")].find? fun entry => occursIn entry.1 lowered).map Prod.snd

/-- `_append_unique`. -/
def appendUnique {α : Type} [DecidableEq α] (values : List α) (value : α) : List α :=
  if value ∈ values then values else values ++ [value]

/-- `_merge_list`. -/
def mergeList {α : Type} [DecidableEq α] (left right : List α) : List α :=
  right.foldl appendUnique left

omit [Casing] in
theorem mem_appendUnique {α : Type} [DecidableEq α] {values : List α} {value other : α} :
    other ∈ appendUnique values value ↔ other ∈ values ∨ other = value := by
  unfold appendUnique
  split
  · next h =>
    constructor
    · exact Or.inl
    · rintro (hmem | rfl)
      · exact hmem
      · exact h
  · simp

omit [Casing] in
theorem mem_mergeList {α : Type} [DecidableEq α] {left right : List α} {other : α} :
    other ∈ mergeList left right ↔ other ∈ left ∨ other ∈ right := by
  induction right generalizing left with
  | nil => simp [mergeList]
  | cons value rest ih =>
    have hstep : mergeList left (value :: rest) = mergeList (appendUnique left value) rest := rfl
    rw [hstep, ih, mem_appendUnique, List.mem_cons, or_assoc]

end GhostRecon.Incidents
