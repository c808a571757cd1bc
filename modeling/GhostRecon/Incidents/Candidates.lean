import GhostRecon.Incidents.Parsers
import GhostRecon.Models.Incidents

/-!
From a fetched item to the article and the incidents it reports. Two keys are
built from the same title and date: the cluster of an article, from the whole
title, and the group of an incident, from the stored title and the attack
vector. An item names one incident for each affected company.
-/

namespace GhostRecon.Incidents

section Candidates

variable [Casing] (tools : IncidentTools)

structure ArticleCandidate where
  canonicalUrl : String
  publisher : Option String
  title : String
  permittedExcerpt : Option String
  publishedAt : Option Time
  retrievedAt : Option Time
  originalLanguage : Option String
  translatedTitle : Option String
  contentHash : String
  syndicationClusterKey : String
  dedupeKey : String
  deriving DecidableEq, Repr

structure IncidentCandidate where
  title : String
  incidentGroupKey : String
  primaryAffectedCompany : Option String
  primaryAffectedDomain : Option String
  affectedCompanies : List String
  affectedDomains : List String
  incidentType : Option String
  attackVector : Option String
  firstObservedAt : Option Time
  lastObservedAt : Option Time
  geography : List String
  languages : List String
  confidence : Nat
  dedupeKey : String
  evidenceFamilyKey : String
  evidenceUrls : List String
  authoritative : Bool
  deriving DecidableEq, Repr

/-- `_SECURITY_TERMS`. -/
def securityTerms : List String :=
  ["breach", "cyberattack", "cyber attack", "cyber incident", "data leak", "ddos", "malware",
    "phishing", "ransomware"]

/-- The `gdelt_article` object of the metadata, or an empty one. -/
def gdeltArticle (metadata : Json) : Json :=
  match metadata.get? "gdelt_article" with
  | some (.obj fields) => .obj fields
  | _ => .obj []

/-- The date part of the two keys. -/
def keyDate (publishedAt : Option Time) : String :=
  (publishedAt.map isoDate).getD "unknown"

/-- `article_candidate_from_raw_item`. -/
def articleCandidateFromRawItem (source : NewsSource) (item : NewsItem) :
    Except String ArticleCandidate := do
  let metadata := item.rawMetadata
  let gdelt := gdeltArticle metadata
  let title := ((((stringOf tools (gdelt.get? "title")).or
    (stringOf tools (metadata.get? "feed_title"))).or
    (stringOf tools (metadata.get? "title"))).or (item.permittedExcerpt.bind nonEmpty)).getD
      source.name
  let named := ((stringOf tools (gdelt.get? "domain")).or
    (stringOf tools (gdelt.get? "source"))).or (stringOf tools (metadata.get? "publisher"))
  let publisher ← match named with
    | some publisher => pure (some publisher)
    | none => hostname tools (some item.canonicalUrl)
  let canonicalUrl ← normalizeUrl tools item.canonicalUrl
  return {
    canonicalUrl
    publisher
    title := String.ofList (title.toList.take 512)
    permittedExcerpt := item.permittedExcerpt
    publishedAt := item.publishedAt
    retrievedAt := some item.retrievedAt
    originalLanguage := item.originalLanguage
    translatedTitle := (stringOf tools (gdelt.get? "transTitle")).or
      (stringOf tools (metadata.get? "translated_title"))
    contentHash := item.contentHash
    syndicationClusterKey :=
      "article-cluster:" ++ tools.sha256 (slug title ++ ":" ++ keyDate item.publishedAt)
    dedupeKey := "news-article:" ++ tools.sha256 canonicalUrl }

/-- The parts of an article's text that are there, joined by blanks. -/
def articleText (item : NewsItem) (article : ArticleCandidate) : String :=
  " ".intercalate ([nonEmpty article.title, article.permittedExcerpt.bind nonEmpty,
    stringOf tools (item.rawMetadata.get? "feed_description"),
    stringOf tools ((gdeltArticle item.rawMetadata).get? "snippet")].filterMap id)

/-- One incident of an article, for a company and a domain. -/
def incidentCandidate (article : ArticleCandidate) (groupKey : String) (vector : Option String)
    (geography : List String) (family host : Option String) (authoritative : Bool)
    (context : Option String × Option String) : IncidentCandidate :=
  let (company, domain) := context
  let keyCompany := match company with
    | some company => slug company
    | none => slug ((domain.or host).getD "None")
  let identity := groupKey ++ ":" ++ keyCompany ++ ":" ++ domain.getD ""
  { title := article.title
    incidentGroupKey := groupKey
    primaryAffectedCompany := company
    primaryAffectedDomain := domain
    affectedCompanies := company.toList
    affectedDomains := domain.toList
    incidentType := some (vector.getD "security_incident")
    attackVector := vector
    firstObservedAt := article.publishedAt
    lastObservedAt := article.publishedAt
    geography
    languages := (article.originalLanguage.bind nonEmpty).toList
    confidence := if company.isSome then 75 else 55
    dedupeKey := "security-incident:" ++ tools.sha256 identity
    evidenceFamilyKey := slug (family.getD "unknown")
    evidenceUrls := [article.canonicalUrl]
    authoritative }

/-- `incident_candidates_from_article`. -/
def incidentCandidatesFromArticle (source : NewsSource) (item : NewsItem)
    (article : ArticleCandidate) : Except String (List IncidentCandidate) := do
  let metadata := item.rawMetadata
  let gdelt := gdeltArticle metadata
  let text := articleText tools item article
  let lowered := lower text
  if !securityTerms.any (occursIn · lowered) then return []
  let named := companiesFromMetadata tools metadata
  let companies := if named ≠ [] then named else companiesFromText text
  let vector := attackVector lowered
  let geography := (stringOf tools (gdelt.get? "sourcecountry")).toList
  let given := (stringOf tools (gdelt.get? "domain")).or (article.publisher.bind nonEmpty)
  let family ← match given with
    | some family => pure (some family)
    | none => hostname tools (some article.canonicalUrl)
  let authoritative := source.queryScope.flag "authoritative" ||
    metadata.flag "authoritative" || gdelt.flag "authoritative"
  let groupKey := "security-incident-group:" ++ tools.sha256
    (slug article.title ++ ":" ++ keyDate article.publishedAt ++ ":" ++ vector.getD "unknown")
  (incidentContexts tools companies (domainsFromMetadata tools metadata)).mapM fun context => do
    let host ← match context with
      | (none, none) => hostname tools (some article.canonicalUrl)
      | _ => pure none
    return incidentCandidate tools article groupKey vector geography family host authoritative
      context

end Candidates

/-! Two outlets carry one story on the same day. -/

/-- The digests of the texts that the sample items lead to. -/
def sampleDigests : List (String × String) :=
  [("https://alpha.example/breach",
      "6bfce16240f4c6e62a4aafcec7053c4e5e8858df16ab06853c3e92ade2d4f990"),
    ("https://beta.example/breach",
      "cae6a7e19883b3c2ea19d352319a96b834f3c2c00045a1d4fa9656848c56e236"),
    ("https://alpha.example/update",
      "913a181de03672ad15ad789423cb2fc2660b11fdf447939b881c98500ec17b3c"),
    ("https://acme.example/notice",
      "a24b96cb5deeb53c1c9e5b3eb17b5f1d4279bd7163f35407458b0045819795d9"),
    ("acme-corp-reports-ransomware-attack:2026-07-03",
      "c2b9dd3d7544d66cc8255b7ccaa6b96c7770993f92d0cbf487b236c4485f8a73"),
    ("acme-corp-reports-ransomware-attack:2026-07-03:ransomware",
      "c89831c4a57614600b368b3f5d49d2fcc3b9056d34ebdcf5201aa285102ed9b8"),
    ("security-incident-group:" ++
      "c89831c4a57614600b368b3f5d49d2fcc3b9056d34ebdcf5201aa285102ed9b8:acme-corp:",
      "f7c6c6f6a7e1c60cee6d3a1d6e1309d77a7590b31204e12fcd4fd07135455392")]

/-- The library functions on plain `https` addresses without port and query. -/
def sampleTools : IncidentTools where
  sha256 text := (sampleDigests.lookup text).getD ""
  urlsplit url :=
    let rest := removePrefix "https://" url
    .ok {
      scheme := "https"
      hostname := some (beforeFirst '/' rest)
      port := .ok none
      path := removePrefix (beforeFirst '/' rest) rest
      query := "" }
  parseQsl _ := []
  urlencode _ := ""
  urlunsplit scheme host path _ := scheme ++ "://" ++ host ++ path
  textOf _ := ""
  intOfText := String.toInt?

def sampleSource : NewsSource where
  name := "cyber news"

/-- The story at an address, fetched at noon. -/
def story (url : String) : NewsItem where
  sourceDefinitionId := 0
  canonicalUrl := url
  contentHash := "0"
  publishedAt := some 1783080000
  rawMetadata := .obj [("title", .str "Acme Corp reports ransomware attack")]

/-- The incident that the story reports. -/
def storyKey : String :=
  "security-incident:f7c6c6f6a7e1c60cee6d3a1d6e1309d77a7590b31204e12fcd4fd07135455392"

end GhostRecon.Incidents
