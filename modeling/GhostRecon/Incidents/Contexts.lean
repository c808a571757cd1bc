import GhostRecon.Incidents.Decisions
import GhostRecon.Lib.Pairing

/-!
Which company of an article is affected with which domain. The lists are cleaned one by
one and paired by rank, so the contexts of an article, the incidents it reports and the
incidents an analyst enters are faithful to the lists exactly when these are aligned.
-/

namespace GhostRecon.Incidents

open Lib (Id Table query write pairByRank pairByRank_closed pairByRank_closed_right reduceOption_map Faithful Aligned)

section Contexts

variable [Casing] (tools : IncidentTools)

/-- A company of the list, or a blank. -/
def companyEntry (value : String) : Option String :=
  nonEmpty (strip tools value)

/-- A domain of the list, or a blank. -/
def domainEntry (value : String) : Option String :=
  (nonEmpty (strip tools value)).map lower

/-- The company and the domain of an incident. -/
def IncidentCandidate.context (candidate : IncidentCandidate) : Option String × Option String :=
  (candidate.primaryAffectedCompany, candidate.primaryAffectedDomain)

def SecurityIncident.context (incident : SecurityIncident) : Option String × Option String :=
  (incident.primaryAffectedCompany, incident.primaryAffectedDomain)

/-- The values of a list in the metadata. -/
def listOf (metadata : Json) (key : String) : List Json :=
  match metadata.get? key with
  | some (.arr values) => values
  | _ => []

/-- The security terms make an article report an incident. -/
def reportsIncident (item : NewsItem) (article : ArticleCandidate) : Bool :=
  securityTerms.any (occursIn · (lower (articleText tools item article)))

/-- The companies of an article: those of the metadata, else the one of the text. Each is
cleaned once by the list it is read into and once by its context. -/
def articleCompanies (item : NewsItem) (article : ArticleCandidate) : List (Option String) :=
  if companiesFromMetadata tools item.rawMetadata ≠ [] then
    (listOf item.rawMetadata "affected_companies").map fun value =>
      (companyEntry tools (tools.str value)).bind (companyEntry tools)
  else (companiesFromText (articleText tools item article)).map (companyEntry tools)

def articleDomains (item : NewsItem) : List (Option String) :=
  (listOf item.rawMetadata "affected_domains").map fun value =>
    (domainEntry tools (tools.str value)).bind (domainEntry tools)

/-- The contexts pair what is left of the two lists by rank. -/
theorem incidentContexts_eq (companies domains : List String) :
    incidentContexts tools companies domains =
      pairByRank (companies.map (companyEntry tools)) (domains.map (domainEntry tools)) := by
  have hcompanies := reduceOption_map (companyEntry tools) companies
  have hdomains := reduceOption_map (domainEntry tools) domains
  unfold incidentContexts
  by_cases hsome : companies.filterMap (companyEntry tools) = []
  · rw [Lib.pairByRank_unnamed (hcompanies.trans hsome), hdomains]
    unfold companyEntry at hsome
    rw [if_neg (not_not.mpr hsome)]
    split
    · next h =>
      split
      · next hnil => exact absurd hnil h
      · rfl
    · next h =>
      split
      · rfl
      · next hne => exact absurd (not_not.mp h) hne
  · rw [Lib.pairByRank_named (by rw [hcompanies]; exact hsome), hcompanies, hdomains]
    unfold companyEntry at hsome
    rw [if_pos hsome]
    rfl

omit [Casing] in
theorem textList_eq (metadata : Json) (key : String) :
    textList tools metadata key =
      (listOf metadata key).filterMap fun value => companyEntry tools (tools.str value) := by
  unfold textList listOf companyEntry
  cases metadata.get? key with
  | none => rfl
  | some value => cases value <;> rfl

theorem domainsFromMetadata_eq (metadata : Json) :
    domainsFromMetadata tools metadata =
      (listOf metadata "affected_domains").filterMap fun value =>
        domainEntry tools (tools.str value) := by
  unfold domainsFromMetadata
  rw [textList_eq, List.map_filterMap]
  rfl

omit [Casing] in
/-- What a loop that cannot change its element's label leaves of the labels. -/
theorem map_of_mapM {α β : Type} {f : α → Except String β} {label : β → α}
    (hf : ∀ a b, f a = .ok b → label b = a) (values : List α) (results : List β)
    (h : values.mapM f = .ok results) : results.map label = values := by
  induction values generalizing results with
  | nil =>
    rw [List.mapM_nil] at h
    cases h
    rfl
  | cons value rest ih =>
    rw [List.mapM_cons] at h
    cases hvalue : f value with
    | error e =>
      rw [hvalue] at h
      cases h
    | ok result =>
      cases hrest : rest.mapM f with
      | error e =>
        rw [hvalue, hrest] at h
        cases h
      | ok more =>
        rw [hvalue, hrest] at h
        cases h
        rw [List.map_cons, hf value result hvalue, ih more hrest]

/-- An incident has the context it is made for, with a host or without. -/
theorem candidate_context {article : ArticleCandidate} (host : Except String (Option String))
    (groupKey : String) (vector : Option String) (geography : List String)
    (family : Option String) (authoritative : Bool) (context : Option String × Option String)
    (candidate : IncidentCandidate)
    (hcandidate : (do
      let host ← match context with
        | (none, none) => host
        | _ => pure none
      return incidentCandidate tools article groupKey vector geography family host authoritative
        context) = Except.ok candidate) :
    candidate.context = context := by
  split at hcandidate
  · cases host with
    | error e => cases hcandidate
    | ok host =>
      cases hcandidate
      rfl
  · cases hcandidate
    rfl

/-- The incidents that an article reports are one for each context. -/
theorem article_contexts {source : NewsSource} {item : NewsItem} {article : ArticleCandidate}
    {candidates : List IncidentCandidate}
    (hread : incidentCandidatesFromArticle tools source item article = .ok candidates)
    (hreports : reportsIncident tools item article = true) :
    candidates.map IncidentCandidate.context =
      pairByRank (articleCompanies tools item article) (articleDomains tools item) := by
  have hcontexts : candidates.map IncidentCandidate.context = incidentContexts tools
      (if companiesFromMetadata tools item.rawMetadata ≠ [] then
        companiesFromMetadata tools item.rawMetadata
      else companiesFromText (articleText tools item article))
      (domainsFromMetadata tools item.rawMetadata) := by
    unfold reportsIncident at hreports
    unfold incidentCandidatesFromArticle at hread
    simp only [hreports, Bool.not_true, Bool.false_eq_true, if_false] at hread
    generalize hostname tools (some article.canonicalUrl) = host at hread
    split at hread
    · exact map_of_mapM (candidate_context tools _ _ _ _ _ _) _ _ hread
    · cases host with
      | error e => cases hread
      | ok found => exact map_of_mapM (candidate_context tools (.ok found) _ _ _ _ _) _ _ hread
  rw [hcontexts, incidentContexts_eq, domainsFromMetadata_eq]
  unfold articleCompanies articleDomains companiesFromMetadata
  rw [pairByRank_closed_right]
  split
  · rw [textList_eq, pairByRank_closed]
  · rfl

end Contexts

section Manual

variable [Casing] (tools : IncidentTools)

structure ManualIncidentCreate where
  title : String
  affectedCompanies : List String := []
  affectedDomains : List String := []
  incidentType : Option String := none
  attackVector : Option String := none
  firstObservedAt : Option Time := none
  lastObservedAt : Option Time := none
  geography : List String := []
  languages : List String := []
  sourceItemIds : List Id := []
  evidenceUrls : List String := []
  confidence : Nat := 70

/-- The incident of one context. -/
def manualIncident (payload : ManualIncidentCreate) (groupKey : String) (index : Nat)
    (context : Option String × Option String) : SecurityIncident where
  title := payload.title
  incidentGroupKey := groupKey
  primaryAffectedCompany := context.1
  primaryAffectedDomain := context.2
  affectedCompanies := context.1.toList
  affectedDomains := context.2.toList
  incidentType := payload.incidentType
  attackVector := payload.attackVector
  firstObservedAt := payload.firstObservedAt
  lastObservedAt := payload.lastObservedAt.or payload.firstObservedAt
  geography := payload.geography
  languages := payload.languages
  confidence := payload.confidence
  evidenceArticleIds := []
  evidenceSourceItemIds := payload.sourceItemIds
  evidenceFamilies := ["manual"]
  evidenceUrls := payload.evidenceUrls
  dedupeKey := groupKey ++ ":" ++ toString index ++ ":" ++
    slug ((context.1.or context.2).getD payload.title)
  sourceDefinitionId := none
  sourceItemIds := payload.sourceItemIds

def addIncidents (rows : List SecurityIncident) (s : IncidentStore) : IncidentStore :=
  { s with incidents := s.incidents ++ rows }

def announceManual (created : List Id) (s : IncidentStore) : IncidentStore :=
  { s with outbox := s.outbox ++ created.map .manual }

def manualGroupKey (idempotencyKey : String) : String :=
  "manual-incident:" ++ idempotencyKey

/-- `create_manual_incident`: the incidents of the group, or one for each context. -/
def createManualIncident (payload : ManualIncidentCreate) (idempotencyKey : String) :
    IncidentTx (List Id) := sessionScope do
  let groupKey := manualGroupKey idempotencyKey
  let existing ← query (·.incidents.select (·.incidentGroupKey == groupKey))
  if existing ≠ [] then return existing.map Prod.fst
  let contexts := incidentContexts tools payload.affectedCompanies payload.affectedDomains
  let first ← query (·.incidents.length)
  write (addIncidents (contexts.zipIdx.map fun context =>
    manualIncident payload groupKey context.2 context.1))
  flush
  let created := (List.range contexts.length).map (first + ·)
  write (announceManual created)
  return created

/-- The incidents that an analyst enters are one for each context. -/
theorem manual_contexts {payload : ManualIncidentCreate} {idempotencyKey : String}
    {w v : Lib.World IncidentStore PUnit} {created : List Id}
    (hnew : ∀ row ∈ w.store.incidents, row.incidentGroupKey ≠ manualGroupKey idempotencyKey)
    (hrun : createManualIncident tools payload idempotencyKey w = .ok created v) :
    (created.filterMap (v.store.incidents[·]?)).map SecurityIncident.context =
      incidentContexts tools payload.affectedCompanies payload.affectedDomains := by
  have hnone : w.store.incidents.select
      (·.incidentGroupKey == manualGroupKey idempotencyKey) = [] := by
    rw [Table.select_eq_nil]
    intro row hrow
    simpa using hnew row hrow
  unfold createManualIncident sessionScope at hrun
  rw [Lib.sessionScope_run] at hrun
  simp only [Lib.bind_run, Lib.query_run, hnone, ne_eq, not_true_eq_false, if_false,
    Lib.write_run, flush, Lib.flush_run, Lib.pure_run] at hrun
  generalize hcontexts : incidentContexts tools payload.affectedCompanies
    payload.affectedDomains = contexts at hrun ⊢
  generalize hrows : contexts.zipIdx.map (fun context =>
    manualIncident payload (manualGroupKey idempotencyKey) context.2 context.1) = rows at hrun
  have hlength : contexts.length = rows.length := by simp [← hrows]
  have hlabel : rows.map SecurityIncident.context = contexts := by
    rw [← hrows, List.map_map]
    exact List.zipIdx_map_fst 0 contexts
  by_cases hflush : (addIncidents rows w.store).constraintsOk = true
  · rw [if_pos hflush] at hrun
    dsimp only at hrun
    split at hrun
    · cases hrun
      show ((((List.range contexts.length).map (w.store.incidents.length + ·)).filterMap
        ((w.store.incidents ++ rows)[·]?)).map SecurityIncident.context) = contexts
      rw [hlength, Table.rows_behind, hlabel]
    · cases hrun
  · rw [if_neg hflush] at hrun
    cases hrun

end Manual

section Faithfulness

variable [Casing]

/-- The contexts of two lists, the incidents an article reports and the incidents an
analyst enters are faithful to their lists exactly when these are aligned. -/
theorem contexts_faithful_iff (tools : IncidentTools) :
    (∀ companies domains : List String,
      Faithful (companies.map (companyEntry tools)) (domains.map (domainEntry tools))
          (incidentContexts tools companies domains) ↔
        Aligned (companies.map (companyEntry tools)) (domains.map (domainEntry tools))) ∧
    (∀ (source : NewsSource) (item : NewsItem) (article : ArticleCandidate)
      (candidates : List IncidentCandidate),
      incidentCandidatesFromArticle tools source item article = .ok candidates →
      reportsIncident tools item article = true →
      (Faithful (articleCompanies tools item article) (articleDomains tools item)
          (candidates.map IncidentCandidate.context) ↔
        Aligned (articleCompanies tools item article) (articleDomains tools item))) ∧
    ∀ (payload : ManualIncidentCreate) (idempotencyKey : String)
      (w v : Lib.World IncidentStore PUnit) (created : List Id),
      (∀ row ∈ w.store.incidents, row.incidentGroupKey ≠ manualGroupKey idempotencyKey) →
      createManualIncident tools payload idempotencyKey w = .ok created v →
      (Faithful (payload.affectedCompanies.map (companyEntry tools))
          (payload.affectedDomains.map (domainEntry tools))
          ((created.filterMap (v.store.incidents[·]?)).map SecurityIncident.context) ↔
        Aligned (payload.affectedCompanies.map (companyEntry tools))
          (payload.affectedDomains.map (domainEntry tools))) := by
  have hlists : ∀ companies domains : List String,
      Faithful (companies.map (companyEntry tools)) (domains.map (domainEntry tools))
          (incidentContexts tools companies domains) ↔
        Aligned (companies.map (companyEntry tools)) (domains.map (domainEntry tools)) := by
    intro companies domains
    rw [incidentContexts_eq]
    exact Lib.faithful_pairByRank_iff
  refine ⟨hlists, ?_, ?_⟩
  · intro source item article candidates hread hreports
    rw [article_contexts tools hread hreports]
    exact Lib.faithful_pairByRank_iff
  · intro payload idempotencyKey w v created hnew hrun
    rw [manual_contexts tools hnew hrun]
    exact hlists payload.affectedCompanies payload.affectedDomains

end Faithfulness

section Samples

/-- The second company has no domain of its own and is given the third one's. -/
theorem blank_domain_shifts_pairs :
    incidentContexts sampleTools ["Acme", "Contoso", "Example Corp"]
        ["acme.example", " ", "example.com"] =
      [(some "Acme", some "acme.example"), (some "Contoso", some "example.com"),
        (some "Example Corp", none)] ∧
      incidentContexts sampleTools ["Acme"] ["acme.example", "example.com"] =
        [(some "Acme", some "acme.example")] ∧
      ¬ Faithful (["Acme", "Contoso", "Example Corp"].map (companyEntry sampleTools))
        (["acme.example", " ", "example.com"].map (domainEntry sampleTools))
        (incidentContexts sampleTools ["Acme", "Contoso", "Example Corp"]
          ["acme.example", " ", "example.com"]) := by
  have hcontexts : incidentContexts sampleTools ["Acme", "Contoso", "Example Corp"]
        ["acme.example", " ", "example.com"] =
      [(some "Acme", some "acme.example"), (some "Contoso", some "example.com"),
        (some "Example Corp", none)] := by decide +kernel
  refine ⟨hcontexts, by decide +kernel, ?_⟩
  intro hfaithful
  have hpairs := (List.forall₂_iff_get.mp (hfaithful.ownHomes rfl)).2 1 (by decide +kernel)
    (by decide +kernel)
  have hown := hpairs.2 "example.com" (by decide +kernel)
  revert hown
  decide +kernel

/-- A company and its domain, as an analyst enters them. -/
def breachReport : ManualIncidentCreate where
  title := "Breach at Acme"
  affectedCompanies := ["Acme"]
  affectedDomains := ["acme.example"]

theorem aligned_pair (name home : String) : Aligned [some name] [some home] where
  spare := by
    intro _ other hother
    cases hother
  ranks := by
    intro _ k entry placedHome hentry hhome
    obtain rfl : entry = (name, 0) := by simpa [Lib.placed] using List.mem_of_getElem? hentry
    obtain rfl : placedHome = (home, 0) := by simpa [Lib.placed] using List.mem_of_getElem? hhome
    rfl
  single := by
    intro _ only honly entry hentry
    obtain rfl : home = only := by simpa [List.reduceOption] using honly
    obtain rfl : entry = (name, 0) := by simpa [Lib.placed] using hentry
    rfl

def acmeArticle : ArticleCandidate where
  canonicalUrl := "https://alpha.example/breach"
  publisher := some "alpha.example"
  title := "Acme Corp reports ransomware attack"
  permittedExcerpt := none
  publishedAt := some 1783080000
  retrievedAt := some 0
  originalLanguage := none
  translatedTitle := none
  contentHash := "0"
  syndicationClusterKey := "article-cluster:0"
  dedupeKey := "news-article:0"

/-- The fetched item of the article, with the company and its domain. -/
def acmeItem : NewsItem where
  sourceDefinitionId := 0
  canonicalUrl := "https://alpha.example/breach"
  contentHash := "0"
  publishedAt := some 1783080000
  rawMetadata := .obj [("affected_companies", .arr [.str "Acme"]),
    ("affected_domains", .arr [.str "acme.example"])]

/-- One company with its domain is kept as it is, in lists, in an article and by hand. -/
theorem single_pair_faithful :
    Faithful (["Acme"].map (companyEntry sampleTools))
        (["acme.example"].map (domainEntry sampleTools))
        (incidentContexts sampleTools ["Acme"] ["acme.example"]) ∧
      (∃ candidates,
        incidentCandidatesFromArticle sampleTools sampleSource acmeItem acmeArticle =
          .ok candidates ∧
        Faithful (articleCompanies sampleTools acmeItem acmeArticle)
          (articleDomains sampleTools acmeItem)
          (candidates.map IncidentCandidate.context)) ∧
      ∃ created v, createManualIncident sampleTools breachReport "manual:1" ⟨{}, ⟨⟩⟩ =
          .ok created v ∧
        Faithful (["Acme"].map (companyEntry sampleTools))
          (["acme.example"].map (domainEntry sampleTools))
          ((created.filterMap (v.store.incidents[·]?)).map SecurityIncident.context) := by
  obtain ⟨hlists, harticles, hmanual⟩ := contexts_faithful_iff sampleTools
  have hcompanies : ["Acme"].map (companyEntry sampleTools) = [some "Acme"] := by decide +kernel
  have hdomains : ["acme.example"].map (domainEntry sampleTools) = [some "acme.example"] := by
    decide +kernel
  have haligned : Aligned (["Acme"].map (companyEntry sampleTools))
      (["acme.example"].map (domainEntry sampleTools)) := by
    rw [hcompanies, hdomains]
    exact aligned_pair "Acme" "acme.example"
  refine ⟨(hlists _ _).mpr haligned, ?_, ?_⟩
  · have hread : (incidentCandidatesFromArticle sampleTools sampleSource acmeItem
        acmeArticle).toOption.isSome = true := by decide +kernel
    cases hcandidates : incidentCandidatesFromArticle sampleTools sampleSource acmeItem
        acmeArticle with
    | error e =>
      rw [hcandidates] at hread
      cases hread
    | ok candidates =>
      refine ⟨candidates, rfl, ?_⟩
      refine (harticles _ _ _ candidates hcandidates (by decide +kernel)).mpr ?_
      have hnames : articleCompanies sampleTools acmeItem acmeArticle = [some "Acme"] := by
        decide +kernel
      have hhomes : articleDomains sampleTools acmeItem = [some "acme.example"] := by
        decide +kernel
      rw [hnames, hhomes]
      exact aligned_pair "Acme" "acme.example"
  · have hreturned : (Lib.returned (createManualIncident sampleTools breachReport "manual:1")
        ⟨{}, ⟨⟩⟩).isSome = true := by decide +kernel
    obtain ⟨created, hcreated⟩ := Option.isSome_iff_exists.mp hreturned
    have hrun := Lib.run_of_returned hcreated
    refine ⟨created, _, hrun, (hmanual breachReport _ _ _ created ?_ hrun).mpr haligned⟩
    intro row hrow
    cases hrow

end Samples

end GhostRecon.Incidents
