import GhostRecon.Store

/-!
The source registry. A fetched item is identified by its external id, or by
its URL and content where it has none; it is a duplicate or quarantined when
another item of the source was stored under its URL; and the table refuses a
second item with its URL and content. A fetch persists its items one after
another in one session.
-/

namespace GhostRecon

open Lib (Id Table query queryOrRaise write)

/-- `build_raw_item_idempotency_key`, before its digest. -/
def buildRawItemIdempotencyKey (sourceDefinitionId : Id) (externalId : Option String)
    (canonicalUrl itemContentHash : String) : Id × String :=
  (sourceDefinitionId,
    if truthy externalId then externalId.getD "" else canonicalUrl ++ ":" ++ itemContentHash)

/-- `classify_duplicate`. -/
def classifyDuplicate (existingContentHashes : List String) (itemContentHash : String) :
    DuplicateState × Option String :=
  if existingContentHashes.isEmpty then (.canonical, none)
  else if itemContentHash ∈ existingContentHashes then (.duplicate, none)
  else (.quarantined, some "canonical_url_content_changed")

/-- The library functions of the registry: URL normalisation and digests. -/
structure SourceTools where
  normalizeUrl : String → Except String String
  contentHash : String → String

structure FetchedSourceItem where
  url : String
  content : String
  externalId : Option String := none
  publishedAt : Option Time := none
  originalLanguage : Option String := none
  sourceTimezone : Option String := none
  deriving DecidableEq, Repr

/-- The source a fetch runs for, by the columns its items take. -/
structure FetchSource where
  id : Id
  defaultLanguage : Option String := none
  expectedTimezone : Option String := none
  deriving DecidableEq, Repr

/-- `value or default`. -/
def orElseText (value default : Option String) : Option String :=
  if truthy value then value else default

/-- The content hashes stored under a URL of the source. -/
def storedHashes (source : FetchSource) (canonicalUrl : String) (s : Store) : List String :=
  (s.rawItems.filter fun row =>
    row.sourceDefinitionId == source.id && row.canonicalUrl == canonicalUrl).map (·.contentHash)

/-- The row of a fetched item that is not stored yet. -/
def rawItemFor (tools : SourceTools) (source : FetchSource) (fetched : FetchedSourceItem)
    (canonicalUrl : String) (s : Store) : RawSourceItem :=
  let contentHash := tools.contentHash fetched.content
  let (duplicateState, quarantineReason) :=
    classifyDuplicate (storedHashes source canonicalUrl s) contentHash
  { sourceDefinitionId := source.id
    externalId := fetched.externalId
    originalUrl := fetched.url
    canonicalUrl, contentHash
    publishedAt := fetched.publishedAt
    originalLanguage := orElseText fetched.originalLanguage source.defaultLanguage
    sourceTimezone := orElseText fetched.sourceTimezone source.expectedTimezone
    parseStatus := if duplicateState = .quarantined then .quarantined else .pending
    duplicateState, quarantineReason
    idempotencyKey :=
      buildRawItemIdempotencyKey source.id fetched.externalId canonicalUrl contentHash }

def Store.insertRawItem (s : Store) (row : RawSourceItem) : Store :=
  { s with rawItems := s.rawItems ++ [row] }

/-- `persist_fetched_item`: the row of the item, and whether it is new. -/
def persistFetchedItem (tools : SourceTools) (source : FetchSource)
    (fetched : FetchedSourceItem) : Tx (Id × Bool) := do
  let canonicalUrl ← queryOrRaise fun _ =>
    (tools.normalizeUrl fetched.url).mapError .valueError
  let idempotencyKey := buildRawItemIdempotencyKey source.id fetched.externalId canonicalUrl
    (tools.contentHash fetched.content)
  match ← query (·.rawItems.first? (·.idempotencyKey == idempotencyKey)) with
  | some (existing, _) => return (existing, false)
  | none =>
    let i ← query (·.rawItems.length)
    write fun s => s.insertRawItem (rawItemFor tools source fetched canonicalUrl s)
    flush
    return (i, true)

/-- The items of one fetch, in their order; the number of new ones. -/
def persistFetchedItems (tools : SourceTools) (source : FetchSource) :
    List FetchedSourceItem → Tx Nat
  | [] => pure 0
  | fetched :: rest => do
    let (_, created) ← persistFetchedItem tools source fetched
    let others ← persistFetchedItems tools source rest
    return others + if created then 1 else 0

end GhostRecon
