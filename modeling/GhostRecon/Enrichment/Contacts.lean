import GhostRecon.Enrichment.Emails
import GhostRecon.Sources.Registry

/-!
Contact candidates and domain discovery. A candidate's policy outcome is
decided once, when it is created; a later discovery decides its status again
from what a search returned, the role scope and the runtime profile.
-/

namespace GhostRecon

open Lib (Id Table query queryOrRaise write)

variable [Casing]

inductive RuntimeProfile where
  | local | test | staging | production
  deriving DecidableEq, Repr

/-- The library functions of the enrichment service: public-suffix lookup, URL
normalisation, content digests and the Unicode character classes. -/
structure EnrichmentTools where
  registrableDomain : String → Option String
  normalizeUrl : String → Except String String
  contentHash : String → String
  isAlnum : Char → Bool := Char.isAlphanum
  isSpace : Char → Bool := Char.isWhitespace

/-- `registrable_domain_from_url`. -/
def registrableDomainFromUrl (tools : EnrichmentTools) (url : String) : Option String :=
  if url = "" ∨ stripChars tools.isSpace url = "" then none
  else (tools.registrableDomain (stripChars tools.isSpace url)).map lower

/-- `normalize_domain`. -/
def normalizeDomain (tools : EnrichmentTools) (domain : Option String) : Option String :=
  match domain with
  | none => none
  | some domain =>
    if domain = "" then none
    else
      match registrableDomainFromUrl tools domain with
      | some resolved => some resolved
      | none =>
        let cleaned := removePrefix "http://"
          (removePrefix "https://" (stripChars tools.isSpace (lower domain)))
        nonEmpty (stripChars (· = '.') (removePrefix "www." (beforeFirst '/' cleaned)))

/-- Split at every character that is no letter or digit. -/
def alnumTokens (tools : EnrichmentTools) (s : String) : List String :=
  (((s.toList.map fun c => if tools.isAlnum c then c else ' ').splitOnP tools.isSpace).filter
    (· ≠ [])).map String.ofList

/-- `inferred_demo_domain`: a host name made up from the first usable text. -/
def inferredDemoDomain (tools : EnrichmentTools) : List (Option String) → Option String
  | [] => none
  | value :: rest =>
    let text := lower (stripChars tools.isSpace (value.getD ""))
    if text = "" then inferredDemoDomain tools rest
    else if '.' ∈ text.toList ∧ ' ' ∉ text.toList then normalizeDomain tools (some text)
    else
      let tokens := (alnumTokens tools text).filter
        (· ∉ ["inc", "llc", "ltd", "corp", "corporation", "company", "demo"])
      if tokens ≠ [] then some ("-".intercalate (tokens.take 3) ++ ".com")
      else inferredDemoDomain tools rest

/-- `is_suspicious_domain`: social networks, code hosts and local names. -/
def isSuspiciousDomain (domain : Option String) : Bool :=
  match domain with
  | none => true
  | some domain =>
    domain = "" ||
      lower domain ∈ ["facebook.com", "github.com", "linkedin.com", "wikipedia.org", "x.com",
        "twitter.com", "youtube.com"] ||
      ".local".toList.isSuffixOf (lower domain).toList

structure ContactEnrichmentCreate where
  originType : OriginType
  originId : String
  publishedName : String
  organization : Option String := none
  title : Option String := none
  roleScope : ContactRoleScope := .unknown
  domain : Option String := none
  entityResolutionCaseId : Option Id := none
  accountId : Option Id := none
  profileUrl : Option String := none
  sourceUrl : Option String := none
  reuseState : ParticipantReuseState := .unknown
  sourceDefinitionId : Option Id := none
  sourceItemIds : List Id := []
  candidatePayload : List (String × String) := []
  breachedDataSource : Bool := false
  deriving DecidableEq, Repr

/-- `evaluate_contact_policy`. -/
def evaluateContactPolicy (payload : ContactEnrichmentCreate) :
    ContactCandidateStatus × Option String :=
  if payload.breachedDataSource then (.blocked, some "breached_data_rejected")
  else if payload.originType = .manual ∧
      truthy (payload.candidatePayload.lookup "created_by") then
    (.eligible, none)
  else if payload.sourceDefinitionId.isNone ∨ payload.sourceItemIds.isEmpty then
    (.blocked, some "missing_source_lineage")
  else if payload.originType = .eventParticipant ∧ payload.reuseState ≠ .allowed then
    (.blocked, some "participant_reuse_not_allowed")
  else if payload.originType = .securityIncident ∧ !payload.roleScope.incidentScope then
    (.blocked, some "incident_role_out_of_scope")
  else (.eligible, none)

/-- The status and account of a new candidate once its entity-resolution case
has been looked at. -/
def resolveCandidate (payload : ContactEnrichmentCreate) (s : Store) :
    (ContactCandidateStatus × Option String) × Option Id :=
  let outcome := evaluateContactPolicy payload
  match payload.entityResolutionCaseId with
  | none => (outcome, payload.accountId)
  | some i =>
    match s.resolutionCases[i]? with
    | some resolution =>
      if resolution.status = "resolved" then
        (outcome, payload.accountId <|> resolution.resolvedAccountId)
      else if outcome.1 = .eligible then
        ((.needsReview, some "entity_resolution_unresolved"), payload.accountId)
      else (outcome, payload.accountId)
    | none =>
      if outcome.1 = .eligible then
        ((.needsReview, some "entity_resolution_unresolved"), payload.accountId)
      else (outcome, payload.accountId)

/-- The row `create_contact_candidate` inserts. -/
def candidateFor (tools : EnrichmentTools) (payload : ContactEnrichmentCreate)
    (idempotencyKey : String) (outcome : ContactCandidateStatus × Option String)
    (accountId : Option Id) : ContactEnrichmentCandidate where
  entityResolutionCaseId := payload.entityResolutionCaseId
  accountId := accountId
  originType := payload.originType
  originId := payload.originId
  publishedName := payload.publishedName
  organization := payload.organization
  title := payload.title
  roleScope := payload.roleScope
  domain := normalizeDomain tools payload.domain
  profileUrl := payload.profileUrl
  sourceUrl := payload.sourceUrl
  status := outcome.1
  eligibilityReason := outcome.2
  reuseState := payload.reuseState
  sourceDefinitionId := payload.sourceDefinitionId
  sourceItemIds := payload.sourceItemIds
  reviewReason := if outcome.1 ≠ .eligible then outcome.2 else none
  idempotencyKey := idempotencyKey

/-- The key of the contact made from a candidate. -/
def contactKey (candidate : ContactEnrichmentCandidate) : String :=
  "contact:" ++ candidate.idempotencyKey

/-- `_upsert_contact`. -/
def upsertContact (candidate : ContactEnrichmentCandidate) : Tx Id := do
  match ← query (·.contacts.first? (·.idempotencyKey == some (contactKey candidate))) with
  | some (c, _) => return c
  | none =>
    let c ← query (·.contacts.length)
    write fun s => { s with
      contacts := s.contacts ++
        [{ accountId := candidate.accountId
           fullName := candidate.publishedName
           title := candidate.title
           sourceUrl := candidate.sourceUrl
           sourceDefinitionId := candidate.sourceDefinitionId
           sourceItemIds := candidate.sourceItemIds
           originType := some candidate.originType.value
           originId := some candidate.originId
           idempotencyKey := some (contactKey candidate) }] }
    flush
    return c

/-- Rewrite columns of one contact candidate. -/
def Store.updateCandidate (s : Store) (i : Id)
    (f : ContactEnrichmentCandidate → ContactEnrichmentCandidate) : Store :=
  { s with contactCandidates := s.contactCandidates.modify i f }

/-- `create_contact_candidate` of the repository, inside its caller's session. -/
def insertContactCandidate (tools : EnrichmentTools) (payload : ContactEnrichmentCreate)
    (idempotencyKey : String) : Tx Id := do
  match ← query (·.contactCandidates.first? (·.idempotencyKey == idempotencyKey)) with
  | some (existing, _) => return existing
  | none =>
    let (outcome, accountId) ← query (resolveCandidate payload)
    let i ← query (·.contactCandidates.length)
    let candidate := candidateFor tools payload idempotencyKey outcome accountId
    write fun s => { s with contactCandidates := s.contactCandidates ++ [candidate] }
    flush
    if outcome.1 = .eligible then
      let c ← upsertContact candidate
      write fun s =>
        enqueueEvent .contactDiscovered "contact" c (.paired .contactDiscovered i c)
          (s.updateCandidate i fun row => { row with contactId := some c })
    else
      let _ ← requestReview "contact_enrichment" "contact_enrichment_candidate" i
        (some candidate.originType.value) (some candidate.originId)
        candidate.sourceDefinitionId candidate.sourceItemIds
        (outcome.2.getD "contact_enrichment_review_required")
        "Contact enrichment candidate requires analyst review."
    return i

def createContactCandidate (tools : EnrichmentTools) (payload : ContactEnrichmentCreate)
    (idempotencyKey : String) : Tx Id :=
  sessionScope (insertContactCandidate tools payload idempotencyKey)

structure SearchResult where
  title : String
  url : String
  snippet : Option String := none
  deriving DecidableEq, Repr

/-- `_search_source_definition`: one source for each provider. -/
def searchSourceDefinition (providerName actor : String) : Tx Id := do
  let name := "GhostRecon " ++ providerName ++ " enrichment search"
  match ← query (·.sourceDefinitions.first? (·.name == name)) with
  | some (i, _) => return i
  | none =>
    let i ← query (·.sourceDefinitions.length)
    write fun s => { s with
      sourceDefinitions := s.sourceDefinitions ++
        [{ name, adapterType := providerName, owner := actor }] }
    flush
    return i

/-- `_persist_search_raw_item`. -/
def persistSearchRawItem (tools : EnrichmentTools) (source : Id) (result : SearchResult) :
    Tx Id := do
  let canonicalUrl ← queryOrRaise fun _ =>
    (tools.normalizeUrl result.url).mapError .valueError
  let body := "\n".intercalate
    ([result.title, result.snippet.getD ""].filter (· ≠ ""))
  let contentHash := tools.contentHash (if body = "" then canonicalUrl else body)
  let idempotencyKey := buildRawItemIdempotencyKey source (some canonicalUrl) canonicalUrl
    contentHash
  match ← query (·.rawItems.first? (·.idempotencyKey == idempotencyKey)) with
  | some (i, _) => return i
  | none =>
    let i ← query (·.rawItems.length)
    write fun s => { s with
      rawItems := s.rawItems ++
        [{ sourceDefinitionId := source, originalUrl := result.url, canonicalUrl, contentHash
           originalLanguage := some "en", parseStatus := .parsed, idempotencyKey }] }
    flush
    return i

/-- The first search result with a usable domain. -/
def selectDomain (tools : EnrichmentTools) (results : List SearchResult) :
    Option (SearchResult × String) :=
  results.findSome? fun result =>
    match registrableDomainFromUrl tools result.url with
    | some domain => if isSuspiciousDomain (some domain) then none else some (result, domain)
    | none => none

/-- `_append_unique`. -/
def appendUnique (values : List Id) (value : Id) : List Id :=
  if value ∈ values then values else values ++ [value]

/-- A selected domain and its evidence on the candidate. -/
def adoptDomain (i : Id) (domain : String) (source item : Id) (s : Store) : Store :=
  s.updateCandidate i fun row =>
    { row with
      domain := some domain
      sourceDefinitionId := row.sourceDefinitionId <|> some source
      sourceItemIds := appendUnique row.sourceItemIds item }

/-- A search that found no usable domain. -/
def failDiscovery (i : Id) (source : Id) (item : Option Id) (s : Store) : Store :=
  s.updateCandidate i fun row =>
    { row with
      sourceDefinitionId :=
        if item.isSome then row.sourceDefinitionId <|> some source else row.sourceDefinitionId
      sourceItemIds := (item.map (appendUnique row.sourceItemIds)).getD row.sourceItemIds
      status := .needsReview
      reviewReason := some "domain_discovery_failed"
      eligibilityReason := some "domain_discovery_failed" }

def bumpVersion (i : Id) (s : Store) : Store :=
  s.updateCandidate i fun row => { row with version := row.version + 1 }

/-- `apply_domain_discovery`. -/
def applyDomainDiscovery (tools : EnrichmentTools) (i : Id)
    (candidate : ContactEnrichmentCandidate) (results : List SearchResult)
    (providerName actor : String) : Tx PUnit := do
  let source ← searchSourceDefinition providerName actor
  match selectDomain tools results with
  | some (selected, domain) =>
    let item ← persistSearchRawItem tools source selected
    write (adoptDomain i domain source item)
    if candidate.roleScope.incidentScope then
      write (·.updateCandidate i fun row =>
        { row with status := .eligible, reviewReason := none, eligibilityReason := none })
      if candidate.contactId.isNone then
        let updated ← query (·.contactCandidates[i]?)
        let c ← upsertContact (updated.getD candidate)
        write (·.updateCandidate i fun row => { row with contactId := some c })
    else
      write (·.updateCandidate i fun row =>
        { row with
          status := .needsReview
          reviewReason := some "domain_discovery_role_review_required"
          eligibilityReason := some "domain_discovery_role_review_required" })
  | none =>
    let item ←
      match results.head? with
      | some result => some <$> persistSearchRawItem tools source result
      | none => pure none
    write (failDiscovery i source item)
    let updated ← query (·.contactCandidates[i]?)
    let _ ← requestReview "contact_enrichment" "contact_enrichment_candidate" i
      (some candidate.originType.value) (some candidate.originId) (some source)
      ((updated.map (·.sourceItemIds)).getD []) "domain_discovery_failed"
      "Company domain discovery returned no suitable official website."
  write (bumpVersion i)
  flush

/-- The local-profile fallback: a made-up domain makes the candidate eligible. -/
def adoptInferredDomain (i : Id) (domain : String) (s : Store) : Store :=
  s.updateCandidate i fun row =>
    { row with
      domain := some domain
      status := .eligible
      reviewReason := none
      eligibilityReason := none
      version := row.version + 1 }

/-- What a discovery call finds outside: the profile it runs in, the provider
and what the provider's search answers. -/
structure DiscoveryContext where
  profile : RuntimeProfile
  providerName : String
  actor : String
  search : String → Except String (List SearchResult)

/-- `candidate.organization or candidate.published_name`. -/
def querySubject (candidate : ContactEnrichmentCandidate) : String :=
  if truthy candidate.organization then candidate.organization.getD ""
  else candidate.publishedName

def discoverContactCandidateDomain (tools : EnrichmentTools) (ctx : DiscoveryContext)
    (i : Id) : Tx PUnit := sessionScope do
  let some candidate ← query (·.contactCandidates[i]?) | return
  if querySubject candidate = "" then
    write (·.updateCandidate i fun row =>
      { row with
        status := .needsReview
        reviewReason := some "domain_discovery_missing_company"
        eligibilityReason := some "domain_discovery_missing_company"
        version := row.version + 1 })
    return
  let results ← queryOrRaise fun _ =>
    (ctx.search (querySubject candidate ++ " official website")).mapError .providerError
  applyDomainDiscovery tools i candidate results ctx.providerName ctx.actor
  let domain ← query fun s => (s.contactCandidates[i]?).bind (·.domain)
  if domain.isNone ∧ ctx.profile = .local then
    match inferredDemoDomain tools [candidate.organization, some candidate.publishedName] with
    | some inferred => write (adoptInferredDomain i inferred)
    | none => return

/-- A watch target, by what a contact search reads of it. -/
structure WatchSubject where
  id : Id
  displayName : String
  originIncidentId : Option Id := none
  /-- `query_config["domains"]` -/
  domains : List String := []
  deriving DecidableEq, Repr

/-- `str.replace(part, "")`. -/
def withoutPart (part : List Char) : Nat → List Char → List Char
  | _, [] => []
  | skip + 1, _ :: rest => withoutPart part skip rest
  | 0, c :: rest =>
    if part.isPrefixOf (c :: rest) then withoutPart part (part.length - 1) rest
    else c :: withoutPart part 0 rest

def removeText (part text : String) : String :=
  String.ofList (withoutPart part.toList 0 text.toList)

/-- `_contact_fields_from_result`: name, title and role of a profile page. -/
def contactFieldsFromResult (tools : EnrichmentTools) (result : SearchResult) :
    String × Option String × ContactRoleScope :=
  let title := stripChars tools.isSpace
    (removeText " - LinkedIn" (removeText " | LinkedIn" result.title))
  let name := stripChars tools.isSpace (beforeFirst '-' (beforeFirst '|' title))
  let text := lower (result.title ++ " " ++ result.snippet.getD "")
  let name := if name = "" then "Unknown Contact" else name
  if occursIn "ciso" text || occursIn "cybersecurity" text ||
      occursIn "information security" text then
    (name, some (if occursIn "ciso" text then "CISO" else "Head of Cybersecurity"), .security)
  else if occursIn "cio" text then (name, some "CIO", .it)
  else if occursIn "cto" text then (name, some "CTO", .it)
  else (name, none, .unknown)

/-- The request for the person a search result is about. -/
def searchedContact (tools : EnrichmentTools) (target : WatchSubject) (source item : Id)
    (result : SearchResult) : ContactEnrichmentCreate :=
  let (name, title, roleScope) := contactFieldsFromResult tools result
  { originType := if target.originIncidentId.isSome then .securityIncident else .manual
    originId := toString (target.originIncidentId.getD target.id)
    publishedName := name
    organization := some target.displayName
    title, roleScope
    domain := target.domains.head?.bind fun domain => normalizeDomain tools (some domain)
    profileUrl := some result.url
    sourceUrl := some result.url
    sourceDefinitionId := some source
    sourceItemIds := [item]
    candidatePayload := [("watch_target_id", toString target.id)] }

/-- The key of the candidate for a profile page. -/
def watchContactKey (target : WatchSubject) (canonicalUrl : String) : String :=
  "watch-contact:" ++ toString target.id ++ ":" ++ canonicalUrl

/-- The loop of `create_contact_candidates_from_search`. -/
def insertSearchedContacts (tools : EnrichmentTools) (target : WatchSubject) (source : Id) :
    List SearchResult → Tx (List Id)
  | [] => pure []
  | result :: rest => do
    if result.url = "" then
      insertSearchedContacts tools target source rest
    else
      let item ← persistSearchRawItem tools source result
      let canonicalUrl ← queryOrRaise fun _ =>
        (tools.normalizeUrl result.url).mapError .valueError
      let i ← insertContactCandidate tools (searchedContact tools target source item result)
        (watchContactKey target canonicalUrl)
      let others ← insertSearchedContacts tools target source rest
      return i :: others

/-- `create_contact_candidates_from_search`. -/
def createContactCandidatesFromSearch (tools : EnrichmentTools) (target : WatchSubject)
    (results : List SearchResult) (providerName actor : String) : Tx (List Id) := do
  let source ← searchSourceDefinition providerName actor
  insertSearchedContacts tools target source results

/-- `linkedin_contact_query`. -/
def linkedinContactQuery (companyName : String) : String :=
  "site:linkedin.com/in (\"Head of Cybersecurity\" OR \"CISO\" OR " ++
    "\"Chief Information Security Officer\" OR \"CTO\" OR \"Chief Technology Officer\") " ++
    "\"" ++ companyName ++ "\""

/-- `discover_watch_target_contacts`, for a target that was found. -/
def discoverWatchTargetContacts (tools : EnrichmentTools) (ctx : DiscoveryContext)
    (target : WatchSubject) : Tx (List Id) := sessionScope do
  let results ← queryOrRaise fun _ =>
    (ctx.search (linkedinContactQuery target.displayName)).mapError .providerError
  createContactCandidatesFromSearch tools target results ctx.providerName ctx.actor

end GhostRecon
