import Mathlib.Data.List.Sort
import GhostRecon.Sources.Fetches

/-!
The failures of a fetch. One handler surrounds the loop over the items of a source, and it
writes the failure into the session the items share. An item whose URL cannot be read ends the
loop, so that those behind it are not looked at. An item the database refuses breaks the
session: neither the items before it nor the failure itself is committed.
-/

namespace GhostRecon.SourceRegistry

open Lib (Id Table query queryOrRaise write after Admissible run)

section Urls

/-- What is read of the result of `urlsplit`. -/
structure SplitUrl where
  scheme : String
  hostname : Option String
  /-- Reading it raises on a malformed port. -/
  port : Except String (Option Nat)
  path : String
  query : String

/-- The URL functions of the host. Blank values stay in a parsed query. -/
structure UrlTools where
  urlsplit : String → Except String SplitUrl
  parseQsl : String → List (String × String)
  urlencode : List (String × String) → String
  urlunsplit (scheme netloc path query : String) : String

variable [Casing]

def trackingQueryParams : List String :=
  ["fbclid", "gclid", "mc_cid", "mc_eid", "msclkid"]

/-- `_is_tracking_param`. -/
def isTrackingParam (key : String) : Bool :=
  "utm_".toList.isPrefixOf (lower key).toList || trackingQueryParams.contains (lower key)

/-- The port that stays in a normalised URL. -/
def keptPort (scheme : String) (port : Option Nat) : Option Nat :=
  port.filter fun port =>
    port ≠ 0 && !(scheme == "http" && port == 80 || scheme == "https" && port == 443)

/-- `normalize_url`. -/
def normalizeUrl (urls : UrlTools) (url : String) : Except String String := do
  let parsed ← urls.urlsplit (stripChars isPySpace url)
  let scheme := lower (if parsed.scheme = "" then "https" else parsed.scheme)
  let hostname := lower (parsed.hostname.getD "")
  let port ← parsed.port
  let netloc :=
    match keptPort scheme port with
    | some port => hostname ++ ":" ++ toString port
    | none => hostname
  let queryPairs := (urls.parseQsl parsed.query).filter fun pair => !isTrackingParam pair.1
  let sorted := queryPairs.insertionSort fun a b => a.1 < b.1 ∨ a.1 = b.1 ∧ a.2 ≤ b.2
  return urls.urlunsplit scheme netloc (if parsed.path = "" then "/" else parsed.path)
    (urls.urlencode sorted)

end Urls

section Registry

/-- The columns of a source that a fetch reads or writes. -/
structure SourceDefinition where
  adapterType : String
  defaultLanguage : Option String := none
  expectedTimezone : Option String := none
  checkpointState : List (String × Json) := []
  operatingState : String := "enabled"
  lastFetchAt : Option Time := none
  lastSuccessAt : Option Time := none
  lastErrorAt : Option Time := none
  lastError : Option String := none
  consecutiveFailures : Nat := 0

/-- The idempotency keys of the events of the registry. -/
inductive SourceEventKey where
  /-- `source.item_ingested:<item>` -/
  | itemIngested (item : Id)
  /-- `source.fetch_succeeded:<source>:<time>` -/
  | fetchSucceeded (source : Id) (time : Time)
  /-- `source.fetch_failed:<source>:<time>` -/
  | fetchFailed (source : Id) (time : Time)
  deriving DecidableEq, Repr

/-- The keys that may be taken: that of an ingested item is as new as the item. -/
def SourceEventKey.repeatable : SourceEventKey → Option SourceEventKey
  | .itemIngested _ => none
  | key => some key

structure SourceStore extends Store where
  sources : Table SourceDefinition := []
  events : Table SourceEventKey := []

/-- What a fetch takes from outside: the URL functions, the digest, and which texts the columns
of an item and of an error take. -/
structure SourceHost where
  urls : UrlTools
  contentHash : String → String
  storable : FetchedSourceItem → Bool
  storableText : String → Bool

abbrev SourceTx (α : Type) := Lib.Tx PyError SourceStore PUnit α

abbrev SourceWorld := Lib.World SourceStore PUnit

variable (host : SourceHost)

def SourceDefinition.fits (row : SourceDefinition) : Bool :=
  row.lastError.all host.storableText && decide (row.consecutiveFailures < 2 ^ 31)

def SourceStore.constraintsOk (s : SourceStore) : Bool :=
  s.toStore.constraintsOk && s.sources.all (SourceDefinition.fits host) &&
    s.events.uniqueOn SourceEventKey.repeatable

def SourceStore.updateSource (s : SourceStore) (i : Id)
    (f : SourceDefinition → SourceDefinition) : SourceStore :=
  { s with sources := s.sources.modify i f }

/-- `enqueue_event`. -/
def SourceStore.enqueueEvent (s : SourceStore) (key : SourceEventKey) : SourceStore :=
  { s with events := s.events ++ [key] }

/-- The shared tables are replaced. -/
def SourceStore.withItems (s : SourceStore) (items : Store) : SourceStore :=
  { s with toStore := items }

/-- A program that uses the shared tables only. -/
def onItems {α : Type} (program : Tx α) : SourceTx α := fun w =>
  match program ⟨w.store.toStore, {}⟩ with
  | .ok a v => .ok a { w with store := w.store.withItems v.store }
  | .error e v => .error e { w with store := w.store.withItems v.store }

def adapterTypes : List String :=
  ["http_page", "schema_org", "ics", "rss_atom", "scheduled_query", "gdelt_doc"]

/-- `create_adapter`. -/
def createAdapter (adapterType : String) : Except PyError PUnit :=
  if adapterTypes.contains adapterType then .ok PUnit.unit
  else .error (.valueError ("unsupported source adapter " ++ adapterType))

/-- A key of a dictionary is set. -/
def setKey (fields : List (String × Json)) (entry : String × Json) : List (String × Json) :=
  if fields.any (·.1 == entry.1) then
    fields.map fun field => if field.1 = entry.1 then entry else field
  else fields ++ [entry]

def fetchedRow (now : Time) (row : SourceDefinition) : SourceDefinition :=
  { row with lastFetchAt := some now }

def succeededRow (now : Time) (fetched created : Nat) (row : SourceDefinition) :
    SourceDefinition :=
  { row with
    lastSuccessAt := some now
    lastErrorAt := none
    lastError := none
    consecutiveFailures := 0
    operatingState := "enabled"
    checkpointState :=
      [("last_success_at", Json.int now), ("fetched_item_count", Json.int fetched),
        ("created_item_count", Json.int created)].foldl setKey row.checkpointState }

def failedRow (now : Time) (error : String) (row : SourceDefinition) : SourceDefinition :=
  { row with
    lastErrorAt := some now
    lastError := some error
    consecutiveFailures := row.consecutiveFailures + 1
    operatingState := "degraded" }

variable [Casing]

def SourceHost.tools : SourceTools where
  normalizeUrl := normalizeUrl host.urls
  contentHash := host.contentHash

/-- The source as its items take it. -/
def SourceDefinition.source (row : SourceDefinition) (i : Id) : FetchSource where
  id := i
  defaultLanguage := row.defaultLanguage
  expectedTimezone := row.expectedTimezone

/-- `persist_fetched_item`: the flush also refuses texts the columns do not take. -/
def persist (source : FetchSource) (fetched : FetchedSourceItem) : SourceTx (Id × Bool) := do
  let (item, created) ← onItems (persistFetchedItem host.tools source fetched)
  if created && !host.storable fetched then throw .integrityError
  return (item, created)

/-- The loop over the items: the new ones. -/
def ingest (source : FetchSource) : List FetchedSourceItem → SourceTx (List Id)
  | [] => return []
  | fetched :: rest => do
    let (item, created) ← persist host source fetched
    if created then
      write (·.enqueueEvent (.itemIngested item))
    let others ← ingest source rest
    return if created then item :: others else others

/-- What is done inside the handler. -/
def fetchItems (now : Time) (i : Id) (source : FetchSource)
    (fetch : Except String (List FetchedSourceItem)) : SourceTx FetchOutcome := do
  let items ← queryOrRaise fun _ => fetch.mapError .providerError
  let created ← ingest host source items
  write (·.updateSource i (succeededRow now items.length created.length))
  write (·.enqueueEvent (.fetchSucceeded i now))
  return .succeeded items.length created.length

/-- The handler. It reads a column of the source, which raises in a session whose flush
failed. -/
def recordFailure (now : Time) (i : Id) (e : PyError) : SourceTx FetchOutcome :=
  match e with
  | .integrityError => throw .pendingRollback
  | e => do
    write (·.updateSource i (failedRow now e.message))
    write (·.enqueueEvent (.fetchFailed i now))
    return .failed e.message

/-- `fetch_source_by_id`, given what the adapter does. -/
def fetchSourceById (now : Time) (i : Id) (fetch : Except String (List FetchedSourceItem)) :
    SourceTx FetchOutcome :=
  Lib.sessionScope (SourceStore.constraintsOk host) .integrityError do
    let some row ← query (·.sources[i]?) |
      throw (.valueError ("unknown source definition " ++ toString i))
    write (·.updateSource i (fetchedRow now))
    queryOrRaise fun _ => createAdapter row.adapterType
    tryCatch (fetchItems host now i (row.source i) fetch) (recordFailure now i)

end Registry

section Items

variable [Casing] (host : SourceHost) (source : FetchSource)

/-- The URL of the item can be read. -/
def readable (fetched : FetchedSourceItem) : Bool :=
  (host.tools.normalizeUrl fetched.url).isOk

/-- The item has a new key, and the database refuses its row. -/
def refused (s : Store) (fetched : FetchedSourceItem) : Bool :=
  match host.tools.normalizeUrl fetched.url with
  | .error _ => false
  | .ok canonicalUrl =>
    (s.rawItems.first? (·.idempotencyKey == fetched.key host.tools source canonicalUrl)).isNone &&
      !((s.insertRawItem (rawItemFor host.tools source fetched canonicalUrl s)).constraintsOk &&
        host.storable fetched)

/-- The rows with the item, if it is new and can be read. -/
def ingestStep (s : Store) (fetched : FetchedSourceItem) : Store :=
  match host.tools.normalizeUrl fetched.url with
  | .error _ => s
  | .ok canonicalUrl =>
    match s.rawItems.first? (·.idempotencyKey == fetched.key host.tools source canonicalUrl) with
    | some _ => s
    | none => s.insertRawItem (rawItemFor host.tools source fetched canonicalUrl s)

/-- None of the items is refused when its turn comes. -/
def NoneRefused (s : Store) (items : List FetchedSourceItem) : Prop :=
  Admissible (ingestStep host source) (fun s fetched => refused host source s fetched = false) s
    items

/-- The item is stored: a row has its key. -/
def Stored (s : Store) (fetched : FetchedSourceItem) : Prop :=
  ∃ canonicalUrl, host.tools.normalizeUrl fetched.url = .ok canonicalUrl ∧
    ∃ row ∈ s.rawItems, row.idempotencyKey = fetched.key host.tools source canonicalUrl

/-- Persisting nothing but this item stores it. -/
def StorableAlone (s : SourceStore) (fetched : FetchedSourceItem) : Prop :=
  ∃ answer v, persist host source fetched ⟨s, PUnit.unit⟩ = .ok answer v

variable {host source} {fetched : FetchedSourceItem} {w : SourceWorld}

omit [Casing] in
theorem onItems_run {α : Type} (program : Tx α) (w : SourceWorld) :
    onItems program w =
      match program ⟨w.store.toStore, {}⟩ with
      | .ok a v => .ok a { w with store := w.store.withItems v.store }
      | .error e v => .error e { w with store := w.store.withItems v.store } :=
  rfl

theorem ingestStep_unreadable {s : Store} {message : String}
    (hurl : host.tools.normalizeUrl fetched.url = .error message) :
    ingestStep host source s fetched = s := by
  simp only [ingestStep, hurl]

theorem ingestStep_known {s : Store} {canonicalUrl : String} {existing : Id × RawSourceItem}
    (hurl : host.tools.normalizeUrl fetched.url = .ok canonicalUrl)
    (hfirst : s.rawItems.first?
      (·.idempotencyKey == fetched.key host.tools source canonicalUrl) = some existing) :
    ingestStep host source s fetched = s := by
  simp only [ingestStep, hurl, hfirst]

theorem ingestStep_new {s : Store} {canonicalUrl : String}
    (hurl : host.tools.normalizeUrl fetched.url = .ok canonicalUrl)
    (hfirst : s.rawItems.first?
      (·.idempotencyKey == fetched.key host.tools source canonicalUrl) = none) :
    ingestStep host source s fetched =
      s.insertRawItem (rawItemFor host.tools source fetched canonicalUrl s) := by
  simp only [ingestStep, hurl, hfirst]

theorem persist_unreadable {message : String}
    (hurl : host.tools.normalizeUrl fetched.url = .error message) :
    persist host source fetched w = .error (.valueError message) w := by
  simp only [persist, Lib.bind_run, onItems_run, persist_unparsed hurl]
  rfl

/-- An item that is not refused is found or added. -/
theorem persist_accepted (hread : readable host fetched = true)
    (hrefused : refused host source w.store.toStore fetched = false) :
    ∃ item created, persist host source fetched w = .ok (item, created)
      { w with store := w.store.withItems (ingestStep host source w.store.toStore fetched) } := by
  cases hurl : host.tools.normalizeUrl fetched.url with
  | error message => simp [readable, hurl, Except.isOk, Except.toBool] at hread
  | ok canonicalUrl =>
    cases hfirst : w.store.rawItems.first?
        (·.idempotencyKey == fetched.key host.tools source canonicalUrl) with
    | some existing =>
      refine ⟨existing.1, false, ?_⟩
      rw [ingestStep_known hurl hfirst]
      simp only [persist, Lib.bind_run, onItems_run]
      rw [persist_old hurl hfirst]
      rfl
    | none =>
      refine ⟨w.store.rawItems.length, true, ?_⟩
      simp only [refused, hurl, hfirst, Option.isNone_none, Bool.true_and, Bool.not_eq_false',
        Bool.and_eq_true] at hrefused
      rw [ingestStep_new hurl hfirst]
      simp only [persist, Lib.bind_run, onItems_run]
      rw [persist_new hurl hfirst, if_pos hrefused.1]
      simp [hrefused.2, Lib.pure_run]

/-- A refused item breaks the session. -/
theorem persist_refused (hrefused : refused host source w.store.toStore fetched = true) :
    ∃ v, persist host source fetched w = .error .integrityError v := by
  cases hurl : host.tools.normalizeUrl fetched.url with
  | error message => simp [refused, hurl] at hrefused
  | ok canonicalUrl =>
    simp only [refused, hurl, Bool.and_eq_true, Option.isNone_iff_eq_none, Bool.not_eq_true',
      Bool.and_eq_false_iff] at hrefused
    obtain ⟨hfirst, hrejected⟩ := hrefused
    simp only [persist, Lib.bind_run, onItems_run]
    rw [persist_new hurl hfirst]
    by_cases hvalid : (w.store.insertRawItem
        (rawItemFor host.tools source fetched canonicalUrl w.store.toStore)).constraintsOk = true
    · have htexts : host.storable fetched = false := by
        refine hrejected.resolve_left ?_
        rw [hvalid]
        simp
      rw [if_pos hvalid]
      simp only [htexts, Bool.not_false, Bool.and_self, if_true]
      exact ⟨_, rfl⟩
    · rw [if_neg hvalid]
      exact ⟨_, rfl⟩

/-- Alone, an item is stored when it can be read and is not refused. -/
theorem storableAlone_iff {s : SourceStore} :
    StorableAlone host source s fetched ↔
      readable host fetched = true ∧ refused host source s.toStore fetched = false := by
  constructor
  · rintro ⟨answer, v, hrun⟩
    have hread : readable host fetched = true := by
      cases hurl : host.tools.normalizeUrl fetched.url with
      | error message =>
        rw [persist_unreadable hurl] at hrun
        cases hrun
      | ok canonicalUrl => simp [readable, hurl, Except.isOk, Except.toBool]
    refine ⟨hread, ?_⟩
    by_contra hrefused
    rw [Bool.not_eq_false] at hrefused
    obtain ⟨v', hraised⟩ := persist_refused (w := ⟨s, PUnit.unit⟩) hrefused
    rw [hraised] at hrun
    cases hrun
  · rintro ⟨hread, hrefused⟩
    obtain ⟨item, created, hrun⟩ := persist_accepted (w := ⟨s, PUnit.unit⟩) hread hrefused
    exact ⟨_, _, hrun⟩

/-- The keys of two items that can be read are the same. -/
def SameKey (host : SourceHost) (source : FetchSource) (fetched other : FetchedSourceItem) : Prop :=
  ∃ url otherUrl, host.tools.normalizeUrl fetched.url = .ok url ∧
    host.tools.normalizeUrl other.url = .ok otherUrl ∧
    fetched.key host.tools source url = other.key host.tools source otherUrl

/-- One item more is stored, and those with its key. -/
theorem stored_ingestStep {s : Store} {other : FetchedSourceItem} :
    Stored host source (ingestStep host source s fetched) other ↔
      Stored host source s other ∨ SameKey host source fetched other := by
  cases hurl : host.tools.normalizeUrl fetched.url with
  | error message =>
    have hnone : ¬ SameKey host source fetched other := by
      rintro ⟨url, otherUrl, hsame, -⟩
      rw [hurl] at hsame
      cases hsame
    rw [ingestStep_unreadable hurl]
    simp [hnone]
  | ok canonicalUrl =>
    cases hfirst : s.rawItems.first?
        (·.idempotencyKey == fetched.key host.tools source canonicalUrl) with
    | some existing =>
      obtain ⟨hrow, hkey⟩ := Table.first?_some hfirst
      rw [ingestStep_known hurl hfirst]
      constructor
      · exact Or.inl
      · rintro (hstored | ⟨url, otherUrl, hsame, hother, hkeys⟩)
        · exact hstored
        · rw [hurl] at hsame
          cases hsame
          refine ⟨otherUrl, hother, existing.2, List.mem_of_getElem? hrow, ?_⟩
          exact (beq_iff_eq.mp hkey).trans hkeys
    | none =>
      rw [ingestStep_new hurl hfirst]
      constructor
      · rintro ⟨otherUrl, hother, row, hrow, hkey⟩
        rcases List.mem_append.mp hrow with hold | hnew
        · exact Or.inl ⟨otherUrl, hother, row, hold, hkey⟩
        · rw [List.mem_singleton.mp hnew] at hkey
          exact Or.inr ⟨canonicalUrl, otherUrl, hurl, hother, hkey⟩
      · rintro (⟨otherUrl, hother, row, hrow, hkey⟩ | ⟨url, otherUrl, hsame, hother, hkeys⟩)
        · exact ⟨otherUrl, hother, row, List.mem_append_left _ hrow, hkey⟩
        · rw [hurl] at hsame
          cases hsame
          exact ⟨otherUrl, hother, _, List.mem_append_right _ (List.mem_singleton_self _), hkeys⟩

/-- What is stored after a list of items. -/
theorem stored_run {s : Store} {items : List FetchedSourceItem} {other : FetchedSourceItem} :
    Stored host source (run (ingestStep host source) s items) other ↔
      Stored host source s other ∨ ∃ fetched ∈ items, SameKey host source fetched other := by
  induction items generalizing s with
  | nil => simp
  | cons first rest ih =>
    rw [Lib.run_cons, ih, stored_ingestStep]
    simp [or_assoc]

theorem sameKey_self (hread : readable host fetched = true) :
    SameKey host source fetched fetched := by
  cases hurl : host.tools.normalizeUrl fetched.url with
  | error message => simp [readable, hurl, Except.isOk, Except.toBool] at hread
  | ok canonicalUrl => exact ⟨canonicalUrl, canonicalUrl, hurl, hurl, rfl⟩

/-- An item that is not refused keeps the constraints. -/
theorem ingestStep_constraints {s : Store} (hok : s.constraintsOk = true)
    (hrefused : refused host source s fetched = false) :
    (ingestStep host source s fetched).constraintsOk = true := by
  cases hurl : host.tools.normalizeUrl fetched.url with
  | error message =>
    rw [ingestStep_unreadable hurl]
    exact hok
  | ok canonicalUrl =>
    cases hfirst : s.rawItems.first?
        (·.idempotencyKey == fetched.key host.tools source canonicalUrl) with
    | some existing =>
      rw [ingestStep_known hurl hfirst]
      exact hok
    | none =>
      simp only [refused, hurl, hfirst, Option.isNone_none, Bool.true_and, Bool.not_eq_false',
        Bool.and_eq_true] at hrefused
      rw [ingestStep_new hurl hfirst]
      exact hrefused.1

theorem run_ingest_constraints {s : Store} {items : List FetchedSourceItem}
    (hok : s.constraintsOk = true) (hnone : NoneRefused host source s items) :
    (run (ingestStep host source) s items).constraintsOk = true :=
  Lib.run_keeps (I := fun s : Store => s.constraintsOk = true)
    (fun _ _ hrefused hs => ingestStep_constraints hs hrefused) hnone hok

/-- The store with the items and the events of the new ones. -/
def SourceStore.ingested (s : SourceStore) (items : Store) (created : List Id) : SourceStore :=
  { s.withItems items with events := s.events ++ created.map SourceEventKey.itemIngested }

/-- The loop over items that can be read and are not refused. -/
theorem ingest_accepted {items : List FetchedSourceItem}
    (hread : ∀ fetched ∈ items, readable host fetched = true)
    (hnone : NoneRefused host source w.store.toStore items) :
    ∃ created, ingest host source items w = .ok created { w with
      store := w.store.ingested (run (ingestStep host source) w.store.toStore items) created } := by
  induction items generalizing w with
  | nil =>
    refine ⟨[], ?_⟩
    simp [ingest, SourceStore.ingested, SourceStore.withItems, Lib.pure_run]
  | cons first rest ih =>
    obtain ⟨hfirst, hrest⟩ := hnone
    obtain ⟨item, created, hrun⟩ := persist_accepted (hread first (List.mem_cons_self ..)) hfirst
    have hreadable : ∀ fetched ∈ rest, readable host fetched = true :=
      fun fetched hmem => hread fetched (List.mem_cons_of_mem _ hmem)
    rw [ingest]
    simp only [Lib.bind_run, hrun]
    cases created with
    | false =>
      obtain ⟨others, hothers⟩ := ih (w := { w with
        store := w.store.withItems (ingestStep host source w.store.toStore first) })
        hreadable hrest
      refine ⟨others, ?_⟩
      simp only [Bool.false_eq_true, if_false, Lib.bind_run, hothers, Lib.pure_run]
      rfl
    | true =>
      obtain ⟨others, hothers⟩ := ih (w := { w with
        store := (w.store.withItems (ingestStep host source w.store.toStore first)).enqueueEvent
          (.itemIngested item) }) hreadable hrest
      refine ⟨item :: others, ?_⟩
      simp only [if_true, Lib.write_run, Lib.bind_run, hothers, Lib.pure_run]
      simp [SourceStore.ingested, SourceStore.withItems, SourceStore.enqueueEvent]

theorem ingest_append (front back : List FetchedSourceItem) :
    ingest host source (front ++ back) = (do
      let created ← ingest host source front
      let others ← ingest host source back
      return created ++ others) := by
  induction front with
  | nil => simp [ingest]
  | cons first rest ih =>
    simp only [List.cons_append, ingest, ih, bind_assoc, pure_bind]
    apply bind_congr
    rintro ⟨item, created⟩
    cases created <;> simp

/-- The loop ends at the first item that cannot be read. -/
theorem ingest_unreadable {front : List FetchedSourceItem} {bad : FetchedSourceItem}
    {message : String} (rest : List FetchedSourceItem)
    (hread : ∀ fetched ∈ front, readable host fetched = true)
    (hnone : NoneRefused host source w.store.toStore front)
    (hurl : host.tools.normalizeUrl bad.url = .error message) :
    ∃ created, ingest host source (front ++ bad :: rest) w =
      .error (.valueError message) { w with
        store :=
          w.store.ingested (run (ingestStep host source) w.store.toStore front) created } := by
  obtain ⟨created, hfront⟩ := ingest_accepted hread hnone
  refine ⟨created, ?_⟩
  simp only [ingest_append, Lib.bind_run, hfront, ingest, persist_unreadable hurl]

/-- The loop ends with a broken session at the first item that is refused. -/
theorem ingest_refused {front : List FetchedSourceItem} (back : List FetchedSourceItem)
    (hread : ∀ fetched ∈ front, readable host fetched = true)
    (hsome : ¬ NoneRefused host source w.store.toStore front) :
    ∃ v, ingest host source (front ++ back) w = .error .integrityError v := by
  induction front generalizing w with
  | nil => exact absurd trivial hsome
  | cons first rest ih =>
    rw [List.cons_append, ingest]
    cases hfirst : refused host source w.store.toStore first with
    | true =>
      obtain ⟨v, hrun⟩ := persist_refused hfirst
      refine ⟨v, ?_⟩
      simp only [Lib.bind_run, hrun]
    | false =>
      obtain ⟨item, created, hrun⟩ :=
        persist_accepted (hread first (List.mem_cons_self ..)) hfirst
      have hreadable : ∀ fetched ∈ rest, readable host fetched = true :=
        fun fetched hmem => hread fetched (List.mem_cons_of_mem _ hmem)
      have hrest : ¬ NoneRefused host source
          (ingestStep host source w.store.toStore first) rest :=
        fun hnone => hsome ⟨hfirst, hnone⟩
      simp only [Lib.bind_run, hrun]
      cases created with
      | false =>
        obtain ⟨v, hraised⟩ := ih (w := { w with
          store := w.store.withItems (ingestStep host source w.store.toStore first) })
          hreadable hrest
        refine ⟨v, ?_⟩
        simp only [Bool.false_eq_true, if_false, Lib.bind_run, hraised]
      | true =>
        obtain ⟨v, hraised⟩ := ih (w := { w with
          store := (w.store.withItems (ingestStep host source w.store.toStore first)).enqueueEvent
            (.itemIngested item) }) hreadable hrest
        refine ⟨v, ?_⟩
        simp only [if_true, Lib.write_run, Lib.bind_run, hraised]

end Items

section Commits

/-- Events of new items and one with a key of its own. -/
theorem events_unique_iff {events : Table SourceEventKey} {created : List Id}
    {key : SourceEventKey} (hkey : key.repeatable = some key)
    (h : events.uniqueOn SourceEventKey.repeatable = true) :
    Table.uniqueOn (events ++ created.map SourceEventKey.itemIngested ++ [key])
      SourceEventKey.repeatable = true ↔ key ∉ events := by
  have hnew : (created.map SourceEventKey.itemIngested).filterMap SourceEventKey.repeatable =
      [] := by
    simp [SourceEventKey.repeatable]
  have hmem : key ∈ events.filterMap SourceEventKey.repeatable ↔ key ∈ events := by
    rw [List.mem_filterMap]
    constructor
    · rintro ⟨found, hfound, hsame⟩
      cases found with
      | itemIngested item => cases hsame
      | _ =>
        cases hsame
        exact hfound
    · intro hfound
      exact ⟨key, hfound, hkey⟩
  rw [Table.uniqueOn_iff] at h ⊢
  rw [List.filterMap_append, List.filterMap_append, hnew, List.append_nil, ← hmem]
  rw [List.filterMap_cons_some hkey, List.filterMap_nil, List.nodup_append]
  constructor
  · rintro ⟨-, -, hdistinct⟩ hfound
    exact hdistinct key hfound key (List.mem_singleton_self key) rfl
  · intro hfree
    refine ⟨h, List.nodup_singleton key, ?_⟩
    rintro old hold new hsingle rfl
    rw [List.mem_singleton.mp hsingle] at hold
    exact hfree hold

variable [Casing] {host : SourceHost} {now : Time} {i : Id} {row : SourceDefinition}
  {s : SourceStore} {items : Store} {created : List Id}

/-- The failure can be committed: its event is new, and the columns take its text and the
number of failures. -/
def FailureFits (host : SourceHost) (now : Time) (i : Id) (message : String)
    (s : SourceStore) (row : SourceDefinition) : Prop :=
  SourceEventKey.fetchFailed i now ∉ s.events ∧ host.storableText message = true ∧
    row.consecutiveFailures + 1 < 2 ^ 31

omit [Casing] in
theorem failedRow_fits {message : String} :
    (failedRow now message (fetchedRow now row)).fits host = true ↔
      host.storableText message = true ∧ row.consecutiveFailures + 1 < 2 ^ 31 := by
  rw [SourceDefinition.fits, Bool.and_eq_true, decide_eq_true_eq]
  rfl

/-- The store after a fetch whose source was left as `f` makes it. -/
def SourceStore.ended (s : SourceStore) (i : Id) (items : Store) (created : List Id) (now : Time)
    (f : SourceDefinition → SourceDefinition) (key : SourceEventKey) : SourceStore :=
  (((s.updateSource i (fetchedRow now)).ingested items created).updateSource i f).enqueueEvent key

omit [Casing] in
theorem ended_constraints {f : SourceDefinition → SourceDefinition} {key : SourceEventKey}
    (hok : s.constraintsOk host = true) (hrow : s.sources[i]? = some row)
    (hitems : items.constraintsOk = true) (hkey : key.repeatable = some key) :
    (s.ended i items created now f key).constraintsOk host = true ↔
      (f (fetchedRow now row)).fits host = true ∧ key ∉ s.events := by
  simp only [SourceStore.constraintsOk, Bool.and_eq_true] at hok
  obtain ⟨⟨-, hsources⟩, hevents⟩ := hok
  have hfits : ((s.sources.modify i (fetchedRow now)).modify i f).all
      (SourceDefinition.fits host) = (f (fetchedRow now row)).fits host := by
    rw [List.modify_modify_eq]
    apply Table.all_modify_one hrow (g := id)
    rw [List.modify_id]
    exact hsources
  have hunique : Table.uniqueOn (s.events ++ created.map SourceEventKey.itemIngested ++ [key])
      SourceEventKey.repeatable = true ↔ key ∉ s.events :=
    events_unique_iff hkey hevents
  show (items.constraintsOk && ((s.sources.modify i (fetchedRow now)).modify i f).all
    (SourceDefinition.fits host) && Table.uniqueOn
      (s.events ++ created.map SourceEventKey.itemIngested ++ [key])
        SourceEventKey.repeatable) = true ↔ _
  rw [hfits, Bool.and_eq_true, Bool.and_eq_true, hunique, hitems]
  simp

end Commits

section Fetch

variable [Casing] {host : SourceHost} {now : Time} {i : Id} {row : SourceDefinition}
  {fetch : Except String (List FetchedSourceItem)} {w : SourceWorld}

/-- The failure of the fetch is on record. -/
structure FailureRecorded (now : Time) (error : String) (before after : SourceDefinition) :
    Prop where
  lastErrorAt : after.lastErrorAt = some now
  lastError : after.lastError = some error
  consecutiveFailures : after.consecutiveFailures = before.consecutiveFailures + 1
  operatingState : after.operatingState = "degraded"

/-- Every item that could be stored on its own is stored, and a failure that is reported or
raised is on record. -/
structure FetchKept (host : SourceHost) (now : Time) (i : Id)
    (fetch : Except String (List FetchedSourceItem)) (w : SourceWorld) (row : SourceDefinition) :
    Prop where
  stored : ∀ items, fetch = .ok items → ∀ item ∈ items,
    StorableAlone host (row.source i) w.store item →
      Stored host (row.source i) (after (fetchSourceById host now i fetch) w).store.toStore item
  reported : ∀ error, Lib.returned (fetchSourceById host now i fetch) w = some (.failed error) →
    ∃ row', (after (fetchSourceById host now i fetch) w).store.sources[i]? = some row' ∧
      FailureRecorded now error row row'
  raised : Lib.returned (fetchSourceById host now i fetch) w = none →
    ∃ error row', (after (fetchSourceById host now i fetch) w).store.sources[i]? = some row' ∧
      FailureRecorded now error row row'

/-- The items stay out of each other's way: none that is looked at is refused, and behind one
that cannot be read nothing waits that could be stored and is not. -/
structure ItemsSpared (host : SourceHost) (now : Time) (i : Id)
    (items : List FetchedSourceItem) (s : SourceStore) (row : SourceDefinition) : Prop where
  noneRefused : NoneRefused host (row.source i) s.toStore (persisted host.tools items)
  succeeds : (∀ fetched ∈ items, readable host fetched = true) →
    SourceEventKey.fetchSucceeded i now ∉ s.events
  fails : ∀ front bad rest message, items = front ++ bad :: rest →
    (∀ fetched ∈ front, readable host fetched = true) →
      host.tools.normalizeUrl bad.url = .error message →
        FailureFits host now i message s row ∧
          ∀ later ∈ rest, StorableAlone host (row.source i) s later →
            Stored host (row.source i) s.toStore later ∨
              ∃ earlier ∈ front, SameKey host (row.source i) earlier later

/-- The condition on a fetch: its source has an adapter, and what the adapter raises or returns
can be dealt with. -/
structure Spared (host : SourceHost) (now : Time) (i : Id)
    (fetch : Except String (List FetchedSourceItem)) (s : SourceStore) (row : SourceDefinition) :
    Prop where
  adapter : adapterTypes.contains row.adapterType = true
  raises : ∀ message, fetch = .error message → FailureFits host now i message s row
  items : ∀ items, fetch = .ok items → ItemsSpared host now i items s row

/-- A fetch that is rolled back keeps no failure. -/
theorem not_kept_of_rollback (hrow : w.store.sources[i]? = some row)
    (hraised : Lib.returned (fetchSourceById host now i fetch) w = none)
    (hstore : (after (fetchSourceById host now i fetch) w).store = w.store) :
    ¬ FetchKept host now i fetch w row := by
  intro hkept
  obtain ⟨error, row', hrow', hrecorded⟩ := hkept.raised hraised
  rw [hstore, hrow] at hrow'
  obtain rfl := Option.some.inj hrow'
  have hcount := hrecorded.consecutiveFailures
  omega

/-- The fetch as a scope around its handler. -/
theorem fetchSourceById_run (hrow : w.store.sources[i]? = some row) :
    fetchSourceById host now i fetch w =
      Lib.sessionScope (SourceStore.constraintsOk host) .integrityError (do
        write (·.updateSource i (fetchedRow now))
        queryOrRaise fun _ => createAdapter row.adapterType
        tryCatch (fetchItems host now i (row.source i) fetch) (recordFailure now i)) w := by
  simp only [fetchSourceById, Lib.sessionScope_run, Lib.bind_run, Lib.query_run, hrow]

omit [Casing] in
theorem recordFailure_run {e : PyError} (he : e ≠ .integrityError) (v : SourceWorld) :
    recordFailure now i e v = .ok (.failed e.message) { v with
      store := (v.store.updateSource i (failedRow now e.message)).enqueueEvent
        (.fetchFailed i now) } := by
  cases e with
  | integrityError => exact absurd rfl he
  | _ => rfl

/-- A fetch whose handler returns commits what it left, if the database takes it. -/
theorem fetch_of_returned {outcome : FetchOutcome} {v : SourceWorld}
    (hrow : w.store.sources[i]? = some row)
    (hadapter : adapterTypes.contains row.adapterType = true)
    (hbody : (tryCatch (fetchItems host now i (row.source i) fetch) (recordFailure now i) :
      SourceTx FetchOutcome) { w with store := w.store.updateSource i (fetchedRow now) } =
        .ok outcome v) :
    fetchSourceById host now i fetch w =
      if v.store.constraintsOk host then .ok outcome v
      else .error .integrityError { v with store := w.store } := by
  rw [fetchSourceById_run hrow]
  simp only [Lib.sessionScope_run, Lib.bind_run, Lib.write_run, Lib.queryOrRaise_run,
    createAdapter, hadapter, if_true, hbody]

/-- A fetch whose handler raises is rolled back. -/
theorem fetch_of_raised {e : PyError} {v : SourceWorld} (hrow : w.store.sources[i]? = some row)
    (hbody : (tryCatch (fetchItems host now i (row.source i) fetch) (recordFailure now i) :
      SourceTx FetchOutcome) { w with store := w.store.updateSource i (fetchedRow now) } =
        .error e v) :
    ∃ e v, fetchSourceById host now i fetch w = .error e v ∧ v.store = w.store := by
  rw [fetchSourceById_run hrow]
  simp only [Lib.sessionScope_run, Lib.bind_run, Lib.write_run, Lib.queryOrRaise_run, createAdapter]
  cases hadapter : adapterTypes.contains row.adapterType with
  | true =>
    simp only [if_true, hbody]
    exact ⟨_, _, rfl, rfl⟩
  | false =>
    simp only [Bool.false_eq_true, if_false]
    exact ⟨_, _, rfl, rfl⟩

/-- Without an adapter the fetch is rolled back. -/
theorem fetch_of_unknown (hrow : w.store.sources[i]? = some row)
    (hadapter : adapterTypes.contains row.adapterType = false) :
    ∃ e v, fetchSourceById host now i fetch w = .error e v ∧ v.store = w.store := by
  rw [fetchSourceById_run hrow]
  simp only [Lib.sessionScope_run, Lib.bind_run, Lib.write_run, Lib.queryOrRaise_run,
    createAdapter, hadapter, Bool.false_eq_true, if_false]
  exact ⟨_, _, rfl, rfl⟩

/-- What a fetch is left with when the loop over its items ended with an exception that does
not break the session. -/
theorem fetch_fails {e : PyError} {items : Store} {created : List Id}
    (hok : w.store.constraintsOk host = true) (hrow : w.store.sources[i]? = some row)
    (hadapter : adapterTypes.contains row.adapterType = true)
    (hitems : items.constraintsOk = true) (he : e ≠ .integrityError)
    (hloop : fetchItems host now i (row.source i) fetch
        { w with store := w.store.updateSource i (fetchedRow now) } =
      .error e { w with
        store := (w.store.updateSource i (fetchedRow now)).ingested items created }) :
    (FailureFits host now i e.message w.store row ∧
        fetchSourceById host now i fetch w = .ok (.failed e.message) { w with
          store := w.store.ended i items created now (failedRow now e.message)
            (.fetchFailed i now) }) ∨
      ¬ FailureFits host now i e.message w.store row ∧
        ∃ e v, fetchSourceById host now i fetch w = .error e v ∧ v.store = w.store := by
  have hbody : (tryCatch (fetchItems host now i (row.source i) fetch) (recordFailure now i) :
      SourceTx FetchOutcome) { w with store := w.store.updateSource i (fetchedRow now) } =
      .ok (.failed e.message) { w with
        store := w.store.ended i items created now (failedRow now e.message)
          (.fetchFailed i now) } := by
    rw [Lib.tryCatch_run, hloop]
    exact recordFailure_run he _
  have hcommits : (w.store.ended i items created now (failedRow now e.message)
      (.fetchFailed i now)).constraintsOk host = true ↔ _ :=
    ended_constraints hok hrow hitems rfl
  have hfits : (failedRow now e.message (fetchedRow now row)).fits host = true ∧
      SourceEventKey.fetchFailed i now ∉ w.store.events ↔
        FailureFits host now i e.message w.store row := by
    rw [failedRow_fits, FailureFits]
    tauto
  rw [hfits] at hcommits
  rw [fetch_of_returned hrow hadapter hbody]
  by_cases hcommit : FailureFits host now i e.message w.store row
  · exact Or.inl ⟨hcommit, if_pos (hcommits.mpr hcommit)⟩
  · right
    refine ⟨hcommit, ?_⟩
    rw [if_neg (fun h => hcommit (hcommits.mp h))]
    exact ⟨_, _, rfl, rfl⟩

/-- What a fetch is left with when the loop went through. -/
theorem fetch_succeeds {list : List FetchedSourceItem} {items : Store} {created : List Id}
    (hok : w.store.constraintsOk host = true) (hrow : w.store.sources[i]? = some row)
    (hadapter : adapterTypes.contains row.adapterType = true)
    (hitems : items.constraintsOk = true)
    (hloop : ingest host (row.source i) list
        { w with store := w.store.updateSource i (fetchedRow now) } =
      .ok created { w with
        store := (w.store.updateSource i (fetchedRow now)).ingested items created }) :
    (SourceEventKey.fetchSucceeded i now ∉ w.store.events ∧
        fetchSourceById host now i (.ok list) w =
          .ok (.succeeded list.length created.length) { w with
            store := w.store.ended i items created now
              (succeededRow now list.length created.length) (.fetchSucceeded i now) }) ∨
      ¬ SourceEventKey.fetchSucceeded i now ∉ w.store.events ∧
        ∃ e v, fetchSourceById host now i (.ok list) w = .error e v ∧ v.store = w.store := by
  have hbody : (tryCatch (fetchItems host now i (row.source i) (.ok list))
      (recordFailure now i) : SourceTx FetchOutcome)
        { w with store := w.store.updateSource i (fetchedRow now) } =
      .ok (.succeeded list.length created.length) { w with
        store := w.store.ended i items created now
          (succeededRow now list.length created.length) (.fetchSucceeded i now) } := by
    rw [Lib.tryCatch_run]
    simp only [fetchItems, Lib.bind_run, Lib.queryOrRaise_run, Except.mapError, hloop,
      Lib.write_run, Lib.pure_run]
    rfl
  have hfits : (succeededRow now list.length created.length (fetchedRow now row)).fits host =
      true := by
    rw [SourceDefinition.fits, Bool.and_eq_true, decide_eq_true_eq]
    exact ⟨rfl, Nat.two_pow_pos 31⟩
  have hcommits : (w.store.ended i items created now
      (succeededRow now list.length created.length)
      (.fetchSucceeded i now)).constraintsOk host = true ↔ _ :=
    ended_constraints hok hrow hitems rfl
  rw [hfits] at hcommits
  rw [fetch_of_returned hrow hadapter hbody]
  by_cases hcommit : SourceEventKey.fetchSucceeded i now ∉ w.store.events
  · exact Or.inl ⟨hcommit, if_pos (hcommits.mpr ⟨rfl, hcommit⟩)⟩
  · right
    refine ⟨hcommit, ?_⟩
    rw [if_neg (fun h => hcommit (hcommits.mp h).2)]
    exact ⟨_, _, rfl, rfl⟩

theorem not_kept_of_error (hrow : w.store.sources[i]? = some row)
    (h : ∃ e v, fetchSourceById host now i fetch w = .error e v ∧ v.store = w.store) :
    ¬ FetchKept host now i fetch w row := by
  obtain ⟨e, v, hrun, hstore⟩ := h
  apply not_kept_of_rollback hrow
  · rw [Lib.returned, hrun]
  · rw [after, hrun]
    exact hstore

omit [Casing] in
theorem ended_source {s : SourceStore} {items : Store} {created : List Id}
    {f : SourceDefinition → SourceDefinition} {key : SourceEventKey}
    (hrow : s.sources[i]? = some row) :
    (s.ended i items created now f key).sources[i]? = some (f (fetchedRow now row)) := by
  show ((s.sources.modify i (fetchedRow now)).modify i f)[i]? = _
  rw [List.getElem?_modify_eq, List.getElem?_modify_eq, hrow]
  rfl

/-- A fetch that reports its failure keeps it, and with it the items it has. -/
theorem kept_of_failed {message : String} {items : Store} {created : List Id}
    (hrow : w.store.sources[i]? = some row)
    (hrun : fetchSourceById host now i fetch w = .ok (.failed message) { w with
      store := w.store.ended i items created now (failedRow now message) (.fetchFailed i now) })
    (hstored : ∀ list, fetch = .ok list → ∀ item ∈ list,
      StorableAlone host (row.source i) w.store item → Stored host (row.source i) items item) :
    FetchKept host now i fetch w row where
  stored := by
    intro list hlist item hitem halone
    rw [after, hrun]
    exact hstored list hlist item hitem halone
  reported := by
    intro error herror
    rw [Lib.returned, hrun] at herror
    cases herror
    rw [after, hrun]
    exact ⟨_, ended_source hrow, rfl, rfl, rfl, rfl⟩
  raised := by
    intro hnone
    rw [Lib.returned, hrun] at hnone
    cases hnone

theorem kept_of_succeeded {fetched made : Nat} {key : SourceEventKey} {items : Store}
    {created : List Id} {f : SourceDefinition → SourceDefinition}
    (hrun : fetchSourceById host now i fetch w = .ok (.succeeded fetched made) { w with
      store := w.store.ended i items created now f key })
    (hstored : ∀ list, fetch = .ok list → ∀ item ∈ list,
      StorableAlone host (row.source i) w.store item → Stored host (row.source i) items item) :
    FetchKept host now i fetch w row where
  stored := by
    intro list hlist item hitem halone
    rw [after, hrun]
    exact hstored list hlist item hitem halone
  reported := by
    intro error herror
    rw [Lib.returned, hrun] at herror
    cases herror
  raised := by
    intro hnone
    rw [Lib.returned, hrun] at hnone
    cases hnone

/-- Either every item can be read, or the list is cut at the first that cannot. -/
theorem all_readable_or_cut (host : SourceHost) (items : List FetchedSourceItem) :
    (∀ fetched ∈ items, readable host fetched = true) ∨
      ∃ front bad rest message, items = front ++ bad :: rest ∧
        (∀ fetched ∈ front, readable host fetched = true) ∧
        host.tools.normalizeUrl bad.url = .error message := by
  induction items with
  | nil => exact Or.inl (by simp)
  | cons first rest ih =>
    cases hurl : host.tools.normalizeUrl first.url with
    | error message => exact Or.inr ⟨[], first, rest, message, rfl, by simp, hurl⟩
    | ok canonicalUrl =>
      have hfirst : readable host first = true := by
        simp [readable, hurl, Except.isOk, Except.toBool]
      rcases ih with hall | ⟨front, bad, back, message, rfl, hfront, hbad⟩
      · exact Or.inl (by simpa [hfirst] using hall)
      · exact Or.inr ⟨first :: front, bad, back, message, rfl, by simpa [hfirst] using hfront, hbad⟩

theorem unreadable_of_error {bad : FetchedSourceItem} {message : String}
    (hurl : host.tools.normalizeUrl bad.url = .error message) : readable host bad = false := by
  simp [readable, hurl, Except.isOk, Except.toBool]

/-- The items before the first that cannot be read. -/
theorem persisted_cut {front rest : List FetchedSourceItem} {bad : FetchedSourceItem}
    (hfront : ∀ fetched ∈ front, readable host fetched = true)
    (hbad : readable host bad = false) :
    persisted host.tools (front ++ bad :: rest) = front := by
  have hcut : (bad :: rest).takeWhile (readable host) = [] := by
    simp [hbad]
  show (front ++ bad :: rest).takeWhile (readable host) = front
  rw [List.takeWhile_append_of_pos hfront, hcut, List.append_nil]

theorem persisted_all {items : List FetchedSourceItem}
    (hall : ∀ fetched ∈ items, readable host fetched = true) :
    persisted host.tools items = items :=
  List.takeWhile_eq_self_iff.mpr hall

/-- A list is cut at its first item that cannot be read in one place only. -/
theorem cut_unique {front front' rest rest' : List FetchedSourceItem}
    {bad bad' : FetchedSourceItem} (h : front ++ bad :: rest = front' ++ bad' :: rest')
    (hfront : ∀ fetched ∈ front, readable host fetched = true)
    (hbad : readable host bad = false)
    (hfront' : ∀ fetched ∈ front', readable host fetched = true)
    (hbad' : readable host bad' = false) : front' = front ∧ bad' = bad ∧ rest' = rest := by
  have hsame : front = front' := by
    rw [← persisted_cut hfront hbad, h, persisted_cut hfront' hbad']
  subst hsame
  obtain ⟨rfl, rfl⟩ := List.cons.inj (List.append_cancel_left h)
  exact ⟨rfl, rfl, rfl⟩

omit [Casing] in
theorem items_valid {s : SourceStore} (hok : s.constraintsOk host = true) :
    s.toStore.constraintsOk = true := by
  simp only [SourceStore.constraintsOk, Bool.and_eq_true] at hok
  exact hok.1.1

/-- An adapter that raises. -/
theorem kept_of_raising {message : String} (hok : w.store.constraintsOk host = true)
    (hrow : w.store.sources[i]? = some row)
    (hadapter : adapterTypes.contains row.adapterType = true) :
    FetchKept host now i (.error message) w row ↔ FailureFits host now i message w.store row := by
  have hloop : fetchItems host now i (row.source i) (.error message)
      { w with store := w.store.updateSource i (fetchedRow now) } =
      .error (.providerError message) { w with
        store := (w.store.updateSource i (fetchedRow now)).ingested w.store.toStore [] } := by
    simp only [fetchItems, Lib.bind_run, Lib.queryOrRaise_run, Except.mapError,
      SourceStore.ingested, List.map_nil, List.append_nil]
    rfl
  rcases fetch_fails hok hrow hadapter (items_valid hok) (by simp) hloop with
    ⟨hfits, hrun⟩ | ⟨hfits, hlost⟩
  · refine iff_of_true (kept_of_failed hrow hrun ?_) hfits
    intro list hlist
    cases hlist
  · exact iff_of_false (not_kept_of_error hrow hlost) hfits

/-- An item that is refused takes everything with it. -/
theorem not_kept_of_refused {items : List FetchedSourceItem}
    (hrow : w.store.sources[i]? = some row)
    (hsome : ¬ NoneRefused host (row.source i) w.store.toStore (persisted host.tools items)) :
    ¬ FetchKept host now i (.ok items) w row := by
  have hread : ∀ fetched ∈ persisted host.tools items, readable host fetched = true :=
    fun fetched hmem => List.mem_takeWhile_imp hmem
  obtain ⟨v, hloop⟩ := ingest_refused
    (w := { w with store := w.store.updateSource i (fetchedRow now) })
    (items.dropWhile (readable host)) hread hsome
  have hsplit : persisted host.tools items ++ items.dropWhile (readable host) = items :=
    List.takeWhile_append_dropWhile
  rw [hsplit] at hloop
  apply not_kept_of_error hrow
  apply fetch_of_raised hrow (e := .pendingRollback) (v := v)
  rw [Lib.tryCatch_run]
  simp only [fetchItems, Lib.bind_run, Lib.queryOrRaise_run, Except.mapError, hloop]
  rfl

/-- Items that can all be read and of which none is refused. -/
theorem kept_of_readable {items : List FetchedSourceItem}
    (hok : w.store.constraintsOk host = true) (hrow : w.store.sources[i]? = some row)
    (hadapter : adapterTypes.contains row.adapterType = true)
    (hread : ∀ fetched ∈ items, readable host fetched = true)
    (hnone : NoneRefused host (row.source i) w.store.toStore items) :
    FetchKept host now i (.ok items) w row ↔
      SourceEventKey.fetchSucceeded i now ∉ w.store.events := by
  obtain ⟨created, hloop⟩ := ingest_accepted
    (w := { w with store := w.store.updateSource i (fetchedRow now) }) hread hnone
  have hvalid := run_ingest_constraints (items_valid hok) hnone
  rcases fetch_succeeds hok hrow hadapter hvalid hloop with ⟨hfree, hrun⟩ | ⟨hfree, hlost⟩
  · refine iff_of_true (kept_of_succeeded hrun ?_) hfree
    rintro list hlist item hitem -
    cases hlist
    exact stored_run.mpr (Or.inr ⟨item, hitem, sameKey_self (hread item hitem)⟩)
  · exact iff_of_false (not_kept_of_error hrow hlost) hfree

/-- Items of which one cannot be read, and none before it is refused. -/
theorem kept_of_cut {front rest : List FetchedSourceItem} {bad : FetchedSourceItem}
    {message : String} (hok : w.store.constraintsOk host = true)
    (hrow : w.store.sources[i]? = some row)
    (hadapter : adapterTypes.contains row.adapterType = true)
    (hread : ∀ fetched ∈ front, readable host fetched = true)
    (hnone : NoneRefused host (row.source i) w.store.toStore front)
    (hurl : host.tools.normalizeUrl bad.url = .error message) :
    FetchKept host now i (.ok (front ++ bad :: rest)) w row ↔
      FailureFits host now i message w.store row ∧
        ∀ later ∈ rest, StorableAlone host (row.source i) w.store later →
          Stored host (row.source i) w.store.toStore later ∨
            ∃ earlier ∈ front, SameKey host (row.source i) earlier later := by
  have hloop : ∃ created, fetchItems host now i (row.source i) (.ok (front ++ bad :: rest))
      { w with store := w.store.updateSource i (fetchedRow now) } =
      .error (.valueError message) { w with
        store := (w.store.updateSource i (fetchedRow now)).ingested
          (run (ingestStep host (row.source i)) w.store.toStore front) created } := by
    obtain ⟨created, hingest⟩ := ingest_unreadable
      (w := { w with store := w.store.updateSource i (fetchedRow now) }) rest hread hnone hurl
    refine ⟨created, ?_⟩
    simp only [fetchItems, Lib.bind_run, Lib.queryOrRaise_run, Except.mapError, hingest]
    rfl
  obtain ⟨created, hloop⟩ := hloop
  have hvalid := run_ingest_constraints (items_valid hok) hnone
  rcases fetch_fails hok hrow hadapter hvalid (by simp) hloop with ⟨hfits, hrun⟩ | ⟨hfits, hlost⟩
  · constructor
    · intro hkept
      refine ⟨hfits, ?_⟩
      intro later hlater halone
      have hend := hkept.stored _ rfl later
        (List.mem_append_right _ (List.mem_cons_of_mem _ hlater)) halone
      rw [after, hrun] at hend
      exact stored_run.mp hend
    · rintro ⟨-, hlater⟩
      refine kept_of_failed hrow hrun ?_
      intro list hlist item hitem halone
      cases hlist
      apply stored_run.mpr
      rcases List.mem_append.mp hitem with hfront | hback
      · exact Or.inr ⟨item, hfront, sameKey_self (hread item hfront)⟩
      · rcases List.mem_cons.mp hback with rfl | hrest
        · have hbad := (storableAlone_iff.mp halone).1
          rw [unreadable_of_error hurl] at hbad
          cases hbad
        · exact hlater item hrest halone
  · refine iff_of_false (not_kept_of_error hrow hlost) ?_
    rintro ⟨hsame, -⟩
    exact hfits hsame

/-- A fetch keeps its items and its failure exactly when its source has an adapter and what
the adapter raises or returns can be dealt with. -/
theorem fetch_kept_iff (hok : w.store.constraintsOk host = true)
    (hrow : w.store.sources[i]? = some row) :
    FetchKept host now i fetch w row ↔ Spared host now i fetch w.store row := by
  cases hadapter : adapterTypes.contains row.adapterType with
  | false =>
    refine iff_of_false (not_kept_of_error hrow (fetch_of_unknown hrow hadapter)) ?_
    intro hspared
    rw [hspared.adapter] at hadapter
    cases hadapter
  | true =>
    cases fetch with
    | error message =>
      rw [kept_of_raising hok hrow hadapter]
      constructor
      · intro hfits
        refine ⟨hadapter, ?_, ?_⟩
        · intro other hother
          cases hother
          exact hfits
        · intro items hitems
          cases hitems
      · intro hspared
        exact hspared.raises message rfl
    | ok items =>
      by_cases hnone : NoneRefused host (row.source i) w.store.toStore (persisted host.tools items)
      · rcases all_readable_or_cut host items with
          hread | ⟨front, bad, rest, message, rfl, hread, hurl⟩
        · have hcut : ∀ front bad rest message, items = front ++ bad :: rest →
              host.tools.normalizeUrl bad.url ≠ .error message := by
            rintro front bad rest message rfl hurl
            have hbad := hread bad (List.mem_append_right _ (List.mem_cons_self ..))
            rw [unreadable_of_error hurl] at hbad
            cases hbad
          have hall := hnone
          rw [persisted_all hread] at hall
          rw [kept_of_readable hok hrow hadapter hread hall]
          constructor
          · intro hfree
            refine ⟨hadapter, by simp, ?_⟩
            intro list hlist
            cases hlist
            refine ⟨hnone, fun _ => hfree, ?_⟩
            intro front bad rest message hitems _ hurl
            exact absurd hurl (hcut front bad rest message hitems)
          · intro hspared
            exact (hspared.items items rfl).succeeds hread
        · have hbad := unreadable_of_error hurl
          have hfront := hnone
          rw [persisted_cut hread hbad] at hfront
          rw [kept_of_cut hok hrow hadapter hread hfront hurl]
          constructor
          · intro hfits
            refine ⟨hadapter, by simp, ?_⟩
            intro list hlist
            cases hlist
            refine ⟨hnone, ?_, ?_⟩
            · intro hall
              rw [hall bad (List.mem_append_right _ (List.mem_cons_self ..))] at hbad
              cases hbad
            · intro front' bad' rest' message' hitems hread' hurl'
              obtain ⟨rfl, rfl, rfl⟩ :=
                cut_unique hitems hread hbad hread' (unreadable_of_error hurl')
              rw [hurl] at hurl'
              cases hurl'
              exact hfits
          · intro hspared
            exact (hspared.items _ rfl).fails front bad rest message rfl hread hurl
      · refine iff_of_false (not_kept_of_refused hrow hnone) ?_
        intro hspared
        exact hnone (hspared.items items rfl).noneRefused

end Fetch

section Talks

/-- The URL functions on the pages of one site. -/
def siteUrls : UrlTools where
  urlsplit url :=
    if url.toList.contains '[' then .error "Invalid IPv6 URL"
    else .ok {
      scheme := "https"
      hostname := some "con.example"
      port := .ok none
      path := removePrefix "https://con.example" url
      query := "" }
  parseQsl _ := []
  urlencode _ := ""
  urlunsplit scheme netloc path _ := scheme ++ "://" ++ netloc ++ path

/-- A text without a NUL. -/
def hasNoNul (text : String) : Bool :=
  !text.toList.contains (Char.ofNat 0)

/-- Contents are their own digest. -/
def siteHost : SourceHost where
  urls := siteUrls
  contentHash := id
  storable fetched := hasNoNul fetched.url && hasNoNul fetched.content
  storableText := hasNoNul

def siteSource : SourceDefinition where
  adapterType := "ics"

def siteWorld : SourceWorld where
  store := { sources := [siteSource] }
  external := PUnit.unit

def talk (uid path : String) : FetchedSourceItem where
  url := "https://con.example" ++ path
  content := "Talk " ++ path
  externalId := some uid

/-- A page whose URL cannot be read. -/
def brokenTalk : FetchedSourceItem where
  url := "https://[con.example/0"
  content := "Talk"

/-- Behind a URL that cannot be read a talk is not stored; and a second talk with the page and
the text of the first takes the first with it, and the record of the failure. -/
theorem failures_lose_items :
    ¬ FetchKept siteHost 5 0 (.ok [brokenTalk, talk "1" "/1"]) siteWorld siteSource ∧
      ¬ FetchKept siteHost 5 0 (.ok [talk "1" "/1", talk "2" "/1"]) siteWorld siteSource := by
  constructor
  · intro hkept
    have hempty : (after (fetchSourceById siteHost 5 0 (.ok [brokenTalk, talk "1" "/1"]))
        siteWorld).store.rawItems = [] := by
      decide +kernel
    have halone : StorableAlone siteHost (siteSource.source 0) siteWorld.store (talk "1" "/1") :=
      storableAlone_iff.mpr (by decide +kernel)
    obtain ⟨url, -, row, hrow, -⟩ := hkept.stored _ rfl (talk "1" "/1") (by simp) halone
    rw [hempty] at hrow
    cases hrow
  · intro hkept
    have hcounts : (after (fetchSourceById siteHost 5 0 (.ok [talk "1" "/1", talk "2" "/1"]))
        siteWorld).store.sources.all (·.consecutiveFailures == 0) = true := by
      decide +kernel
    obtain ⟨error, row', hrow', hrecorded⟩ := hkept.raised (by decide +kernel)
    have hzero := List.all_eq_true.mp hcounts row' (List.mem_of_getElem? hrow')
    have hone := hrecorded.consecutiveFailures
    simp only [beq_iff_eq] at hzero
    rw [hzero] at hone
    cases hone

instance [Casing] (host : SourceHost) (source : FetchSource) (s : Store)
    (items : List FetchedSourceItem) : Decidable (NoneRefused host source s items) :=
  inferInstanceAs (Decidable (Admissible (ingestStep host source)
    (fun s fetched => refused host source s fetched = false) s items))

/-- Talks with ids and pages of their own are kept. -/
theorem own_talks_kept :
    FetchKept siteHost 5 0 (.ok [talk "1" "/1", talk "2" "/2"]) siteWorld siteSource := by
  refine (fetch_kept_iff (by decide +kernel) rfl).mpr ⟨by decide +kernel, by simp, ?_⟩
  intro items hitems
  cases hitems
  have hall : ∀ fetched ∈ [talk "1" "/1", talk "2" "/2"], readable siteHost fetched = true := by
    decide +kernel
  refine ⟨by decide +kernel, fun _ => by decide +kernel, ?_⟩
  intro front bad rest message hcut _ hurl
  have hbad := hall bad (hcut ▸ List.mem_append_right _ (List.mem_cons_self ..))
  rw [unreadable_of_error hurl] at hbad
  cases hbad

end Talks

end GhostRecon.SourceRegistry
