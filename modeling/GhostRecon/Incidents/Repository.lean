import GhostRecon.Incidents.Candidates
import GhostRecon.Lib.UnitOfWork
import GhostRecon.Store

/-!
Ingestion: the pending items of the incident sources become articles,
incidents and evidence, all in one session. An incident is found again by its
key; new coverage is merged into it and may corroborate it. An item that
raises is marked as failed and the loop goes on in the same session.
-/

namespace GhostRecon.Incidents

open Lib (Id Table Work Schema WorkM)

structure IncidentStore where
  sources : Table NewsSource := []
  items : Table NewsItem := []
  articles : Table NewsArticle := []
  incidents : Table SecurityIncident := []
  evidence : Table IncidentEvidence := []
  decisions : Table IncidentDecision := []
  watchTargets : Table WatchTarget := []
  auditEvents : Table AuditEvent := []
  outbox : Table IncidentEventKey := []

def NewsArticle.fits (row : NewsArticle) : Bool :=
  GhostRecon.fits 2048 row.canonicalUrl && fits? 255 row.publisher &&
    GhostRecon.fits 512 row.title && fits? 16 row.originalLanguage &&
    fits? 512 row.translatedTitle && GhostRecon.fits 64 row.contentHash &&
    GhostRecon.fits 255 row.syndicationClusterKey && GhostRecon.fits 255 row.dedupeKey

def SecurityIncident.fits (row : SecurityIncident) : Bool :=
  GhostRecon.fits 512 row.title && GhostRecon.fits 255 row.incidentGroupKey &&
    fits? 255 row.primaryAffectedCompany && fits? 255 row.primaryAffectedDomain &&
    fits? 128 row.incidentType && fits? 128 row.attackVector && GhostRecon.fits 255 row.dedupeKey

def IncidentEvidence.fits (row : IncidentEvidence) : Bool :=
  GhostRecon.fits 255 row.evidenceFamilyKey

def IncidentDecision.fits (row : IncidentDecision) : Bool :=
  GhostRecon.fits 128 row.actor && GhostRecon.fits 128 row.reasonCode &&
    GhostRecon.fits 255 row.idempotencyKey

def WatchTarget.fits (row : WatchTarget) : Bool :=
  GhostRecon.fits 255 row.canonicalTargetKey && GhostRecon.fits 255 row.displayName &&
    fits? 128 row.owner && GhostRecon.fits 128 row.createdBy

def AuditEvent.fits (row : AuditEvent) : Bool :=
  GhostRecon.fits 128 row.actor && GhostRecon.fits 255 row.idempotencyKey

/-- The widths of the columns. -/
def IncidentStore.widthsOk (s : IncidentStore) : Bool :=
  s.articles.all NewsArticle.fits && s.incidents.all SecurityIncident.fits &&
    s.evidence.all IncidentEvidence.fits && s.decisions.all IncidentDecision.fits &&
    s.watchTargets.all WatchTarget.fits && s.auditEvents.all AuditEvent.fits

/-- The declared unique constraints. -/
def IncidentStore.keysOk (s : IncidentStore) : Bool :=
  s.articles.uniqueOn (fun row => some row.dedupeKey) &&
    s.incidents.uniqueOn (fun row => some row.dedupeKey) &&
    s.evidence.uniqueOn (fun row => some (row.securityIncidentId, row.newsArticleId)) &&
    s.decisions.uniqueOn (fun row => some row.idempotencyKey) &&
    s.watchTargets.uniqueOn (fun row => some (row.targetType, row.canonicalTargetKey)) &&
    s.auditEvents.uniqueOn (fun row => some row.idempotencyKey) && s.outbox.uniqueOn some

def IncidentStore.constraintsOk (s : IncidentStore) : Bool :=
  s.keysOk && s.widthsOk

/-- A row that waits for a flush. -/
inductive NewRow where
  | article (row : NewsArticle)
  | incident (row : SecurityIncident)
  | evidence (row : IncidentEvidence)
  | event (key : IncidentEventKey)
  deriving DecidableEq, Repr

def IncidentStore.insert (s : IncidentStore) : NewRow → IncidentStore
  | .article row => { s with articles := s.articles ++ [row] }
  | .incident row => { s with incidents := s.incidents ++ [row] }
  | .evidence row => { s with evidence := s.evidence ++ [row] }
  | .event key => { s with outbox := s.outbox ++ [key] }

def schema : Schema PyError IncidentStore NewRow where
  insert := IncidentStore.insert
  valid := IncidentStore.constraintsOk
  violation := .integrityError
  refusal := .pendingRollback

abbrev IncidentWork := Work IncidentStore NewRow

abbrev IncidentM (α : Type) := WorkM PyError IncidentStore NewRow α

/-- `_append_unique(existing.source_item_ids, raw_item.id)`. -/
def sawArticle (article item : Id) (s : IncidentStore) : IncidentStore :=
  { s with articles := s.articles.modify article fun row =>
      { row with sourceItemIds := appendUnique row.sourceItemIds item } }

def newArticle (source item : Id) (candidate : ArticleCandidate) : NewsArticle where
  canonicalUrl := candidate.canonicalUrl
  publisher := candidate.publisher
  title := candidate.title
  permittedExcerpt := candidate.permittedExcerpt
  publishedAt := candidate.publishedAt
  retrievedAt := candidate.retrievedAt
  originalLanguage := candidate.originalLanguage
  translatedTitle := candidate.translatedTitle
  contentHash := candidate.contentHash
  syndicationClusterKey := candidate.syndicationClusterKey
  dedupeKey := candidate.dedupeKey
  sourceDefinitionId := source
  sourceItemIds := [item]

/-- `upsert_article`: the article of the item, found by its key or new. -/
def upsertArticle (source item : Id) (candidate : ArticleCandidate) : IncidentM Id := do
  match ← Work.look schema (·.articles.first? (·.dedupeKey == candidate.dedupeKey)) with
  | some (article, _) =>
    Work.assign (sawArticle article item)
    return article
  | none =>
    Work.add (.article (newArticle source item candidate))
    Work.flush schema
    let article ← Work.look schema (·.articles.length - 1)
    Work.add (.event (.articleIngested article))
    return article

def newIncident (source item article : Id) (candidate : IncidentCandidate) :
    SecurityIncident where
  title := candidate.title
  incidentGroupKey := candidate.incidentGroupKey
  primaryAffectedCompany := candidate.primaryAffectedCompany
  primaryAffectedDomain := candidate.primaryAffectedDomain
  affectedCompanies := candidate.affectedCompanies
  affectedDomains := candidate.affectedDomains
  incidentType := candidate.incidentType
  attackVector := candidate.attackVector
  firstObservedAt := candidate.firstObservedAt
  lastObservedAt := candidate.lastObservedAt
  geography := candidate.geography
  languages := candidate.languages
  confidence := candidate.confidence
  evidenceArticleIds := [article]
  evidenceSourceItemIds := [item]
  evidenceFamilies := [candidate.evidenceFamilyKey]
  evidenceUrls := candidate.evidenceUrls
  dedupeKey := candidate.dedupeKey
  sourceDefinitionId := some source
  sourceItemIds := [item]

/-- The later of the two times, when the new one is there. -/
def laterObserved (stored seen : Option Time) : Option Time :=
  match stored, seen with
  | _, none => stored
  | none, some seen => some seen
  | some stored, some seen => some (if seen > stored then seen else stored)

/-- The columns that new coverage of a stored incident changes. -/
def SecurityIncident.merge (row : SecurityIncident) (item article : Id)
    (candidate : IncidentCandidate) : SecurityIncident :=
  { row with
    evidenceArticleIds := appendUnique row.evidenceArticleIds article
    evidenceSourceItemIds := appendUnique row.evidenceSourceItemIds item
    sourceItemIds := appendUnique row.sourceItemIds item
    evidenceFamilies := appendUnique row.evidenceFamilies candidate.evidenceFamilyKey
    evidenceUrls := mergeList row.evidenceUrls candidate.evidenceUrls
    languages := mergeList row.languages candidate.languages
    geography := mergeList row.geography candidate.geography
    lastObservedAt := laterObserved row.lastObservedAt candidate.lastObservedAt }

/-- The incident has evidence of at least two families. -/
def SecurityIncident.twoFamilies (row : SecurityIncident) : Bool :=
  2 ≤ row.evidenceFamilies.dedup.length

/-- `_apply_corroboration`. -/
def SecurityIncident.applyCorroboration (row : SecurityIncident)
    (candidate : IncidentCandidate) : SecurityIncident :=
  if row.status = .rejected then row
  else if candidate.authoritative then
    { row with status := .corroborated, corroborationMethod := .authoritativeDisclosure }
  else if row.twoFamilies then
    { row with status := .corroborated, corroborationMethod := .independentSources }
  else row

def setIncident (incident : Id) (row : SecurityIncident) (s : IncidentStore) : IncidentStore :=
  { s with incidents := s.incidents.set incident row }

/-- `_link_evidence`. The query does not see a link that waits for a flush. -/
def linkEvidence (item article incident : Id) (candidate : IncidentCandidate) :
    IncidentM PUnit := do
  let linked ← Work.look schema fun s => s.evidence.any fun row =>
    row.securityIncidentId = incident ∧ row.newsArticleId = article
  if !linked then
    Work.add (.evidence {
      securityIncidentId := incident
      newsArticleId := article
      sourceItemId := item
      evidenceFamilyKey := candidate.evidenceFamilyKey
      authoritative := candidate.authoritative })

/-- The stored incident of a candidate with the new coverage merged in, or a new
row for it. -/
def foundIncident (source item article : Id) (candidate : IncidentCandidate) :
    IncidentM (Id × SecurityIncident) := do
  match ← Work.look schema (·.incidents.first? (·.dedupeKey == candidate.dedupeKey)) with
  | some (incident, row) =>
    Work.assign (setIncident incident (row.merge item article candidate))
    return (incident, row.merge item article candidate)
  | none =>
    Work.add (.incident (newIncident source item article candidate))
    Work.flush schema
    let incident ← Work.look schema (·.incidents.length - 1)
    Work.add (.event (.detected incident))
    return (incident, newIncident source item article candidate)

/-- Apply the corroboration rules to a loaded incident and announce a change. -/
def corroborate (incident : Id) (row : SecurityIncident) (candidate : IncidentCandidate) :
    IncidentM PUnit := do
  let corroborated := row.applyCorroboration candidate
  Work.assign (setIncident incident corroborated)
  if row.status ≠ .corroborated ∧ corroborated.status = .corroborated then
    Work.add (.event (.corroborated incident corroborated.corroborationMethod))

/-- `upsert_incident`. -/
def upsertIncident (source item article : Id) (candidate : IncidentCandidate) :
    IncidentM PUnit := do
  let (incident, row) ← foundIncident source item article candidate
  linkEvidence item article incident candidate
  corroborate incident row candidate

/-- `upsert_incident` for every candidate of an item, in order. -/
def upsertIncidents (source item article : Id) : List IncidentCandidate → IncidentM PUnit
  | [] => pure PUnit.unit
  | candidate :: rest => do
    upsertIncident source item article candidate
    upsertIncidents source item article rest

def setParsed (item : Id) (s : IncidentStore) : IncidentStore :=
  { s with items := s.items.modify item fun row => { row with parseStatus := .parsed } }

def setFailed (item : Id) (reason : String) (s : IncidentStore) : IncidentStore :=
  { s with items := s.items.modify item fun row =>
      { row with parseStatus := .failed, quarantineReason := some reason } }

/-- An item that a call of the parser works on, with its source. -/
structure PendingItem where
  id : Id
  item : NewsItem
  source : NewsSource

section Parsing

variable [Casing] (tools : IncidentTools)

/-- The candidates of an item, as the two functions build them. -/
def PendingItem.article (pending : PendingItem) : Except PyError ArticleCandidate :=
  (articleCandidateFromRawItem tools pending.source pending.item).mapError .valueError

def PendingItem.incidents (pending : PendingItem) (article : ArticleCandidate) :
    Except PyError (List IncidentCandidate) :=
  (incidentCandidatesFromArticle tools pending.source pending.item article).mapError .valueError

/-- The body of the loop of `parse_pending_items`. -/
def parseItem (pending : PendingItem) : IncidentM PUnit := do
  let candidate ← Work.ofExcept (pending.article tools)
  let article ← upsertArticle pending.item.sourceDefinitionId pending.id candidate
  let candidates ← Work.ofExcept (pending.incidents tools candidate)
  upsertIncidents pending.item.sourceDefinitionId pending.id article candidates
  Work.assign (setParsed pending.id)

/-- One round of the loop: an item that raises is marked as failed. -/
def parseRound (w : IncidentWork) (pending : PendingItem) : IncidentWork :=
  Work.recover (parseItem tools pending)
    (fun e w => { w with rows := setFailed pending.id e.message w.rows }) w

/-- The pending canonical items of the incident sources, oldest first. -/
def IncidentStore.pendingItems (s : IncidentStore) (sourceDefinitionId : Option Id) :
    List PendingItem :=
  let joined := s.items.zipIdx.filterMap fun (item, id) =>
    (s.sources[item.sourceDefinitionId]?).map fun source => { id, item, source : PendingItem }
  (joined.filter fun pending =>
    pending.source.sourceKind = "incident" && pending.item.parseStatus = .pending &&
      pending.item.duplicateState = "canonical" &&
      sourceDefinitionId.all (pending.item.sourceDefinitionId = ·)).mergeSort
    fun a b => a.item.retrievedAt ≤ b.item.retrievedAt

/-- A world of the incident service; it has no external effects. -/
abbrev IncidentWorld := Lib.World IncidentStore PUnit

/-- `parse_pending_incident_items`: the loop in one session, then the commit. -/
def parsePendingItems (sourceDefinitionId : Option Id) (world : IncidentWorld) : IncidentWorld :=
  Work.commit schema world
    ((world.store.pendingItems sourceDefinitionId).foldl (parseRound tools)
      (Work.start world.store))

/-- What the candidate functions read out of an item: an article, and its
incidents unless naming them raises. -/
abbrev Reading := Except PyError (ArticleCandidate × Except PyError (List IncidentCandidate))

def readItem (source : NewsSource) (item : NewsItem) : Reading :=
  ((articleCandidateFromRawItem tools source item).mapError .valueError).map fun article =>
    (article, (incidentCandidatesFromArticle tools source item article).mapError .valueError)

omit [Casing] in
/-- The body of the loop for an item that was read. -/
def ingest (source item : Id) (reading : Reading) : IncidentM PUnit := do
  let (candidate, incidents) ← Work.ofExcept reading
  let article ← upsertArticle source item candidate
  let candidates ← Work.ofExcept incidents
  upsertIncidents source item article candidates
  Work.assign (setParsed item)

omit [Casing] in
/-- A round of the loop for an item that was read. -/
def ingestRound (source item : Id) (reading : Reading) : IncidentWork → IncidentWork :=
  Work.recover (ingest source item reading)
    (fun e w => { w with rows := setFailed item e.message w.rows })

variable {tools}

/-- Parsing an item reads it and ingests what was read. -/
theorem parseItem_eq_ingest (pending : PendingItem) :
    parseItem tools pending = ingest pending.item.sourceDefinitionId pending.id
      (readItem tools pending.source pending.item) := by
  have hread : readItem tools pending.source pending.item =
      (pending.article tools).map fun article => (article, pending.incidents tools article) := rfl
  unfold parseItem ingest
  rw [hread]
  cases pending.article tools <;> rfl

theorem parseRound_eq_ingestRound (w : IncidentWork) (pending : PendingItem) :
    parseRound tools w pending = ingestRound pending.item.sourceDefinitionId pending.id
      (readItem tools pending.source pending.item) w := by
  rw [parseRound, parseItem_eq_ingest]
  rfl

/-- A call of the parser ingests the readings of the pending items in order. -/
theorem parsePendingItems_eq {source : Option Id} {world : IncidentWorld}
    {items : List PendingItem} (hitems : world.store.pendingItems source = items) :
    parsePendingItems tools source world = Work.commit schema world
      (items.foldl (fun w pending => ingestRound pending.item.sourceDefinitionId pending.id
        (readItem tools pending.source pending.item) w) (Work.start world.store)) := by
  rw [parsePendingItems, hitems]
  congr 2
  funext w pending
  exact parseRound_eq_ingestRound w pending

end Parsing

/-! What is read out of the story, by address, digest and family. -/

def storyArticle (url host digest : String) : ArticleCandidate where
  canonicalUrl := url
  publisher := some host
  title := "Acme Corp reports ransomware attack"
  permittedExcerpt := none
  publishedAt := some 1783080000
  retrievedAt := some 0
  originalLanguage := none
  translatedTitle := none
  contentHash := "0"
  syndicationClusterKey :=
    "article-cluster:c2b9dd3d7544d66cc8255b7ccaa6b96c7770993f92d0cbf487b236c4485f8a73"
  dedupeKey := "news-article:" ++ digest

def storyIncident (url family : String) : IncidentCandidate where
  title := "Acme Corp reports ransomware attack"
  incidentGroupKey :=
    "security-incident-group:c89831c4a57614600b368b3f5d49d2fcc3b9056d34ebdcf5201aa285102ed9b8"
  primaryAffectedCompany := some "Acme Corp"
  primaryAffectedDomain := none
  affectedCompanies := ["Acme Corp"]
  affectedDomains := []
  incidentType := some "ransomware"
  attackVector := some "ransomware"
  firstObservedAt := some 1783080000
  lastObservedAt := some 1783080000
  geography := []
  languages := []
  confidence := 75
  dedupeKey := storyKey
  evidenceFamilyKey := family
  evidenceUrls := [url]
  authoritative := false

/-- The reading of the story at an address. -/
def storyReading (url host family digest : String) : Reading :=
  .ok (storyArticle url host digest, .ok [storyIncident url family])

theorem read_alpha_breach :
    readItem sampleTools sampleSource (story "https://alpha.example/breach") =
      storyReading "https://alpha.example/breach" "alpha.example" "alpha-example"
        "6bfce16240f4c6e62a4aafcec7053c4e5e8858df16ab06853c3e92ade2d4f990" := by
  decide +kernel

theorem read_beta_breach :
    readItem sampleTools sampleSource (story "https://beta.example/breach") =
      storyReading "https://beta.example/breach" "beta.example" "beta-example"
        "cae6a7e19883b3c2ea19d352319a96b834f3c2c00045a1d4fa9656848c56e236" := by
  decide +kernel

theorem read_alpha_update :
    readItem sampleTools sampleSource (story "https://alpha.example/update") =
      storyReading "https://alpha.example/update" "alpha.example" "alpha-example"
        "913a181de03672ad15ad789423cb2fc2660b11fdf447939b881c98500ec17b3c" := by
  decide +kernel

end GhostRecon.Incidents
