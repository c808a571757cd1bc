import GhostRecon.Incidents.Statuses

/-!
What counts as evidence. Corroboration counts families, not stories: copies of
one story by two outlets corroborate an incident. The result says for which
items this does not happen, over every run of fetches and parses.
-/

namespace GhostRecon.Incidents

open Lib (Id Table Work Chain Admissible run)

/-- The action belongs to ingestion. -/
def IncidentAction.ingests : IncidentAction → Bool
  | .fetch _ | .parse _ => true
  | _ => false

section Runs

variable [Casing]

/-- The article that an item tells and the incidents it reports. -/
abbrev Report := ArticleCandidate × List IncidentCandidate

/-- What ingestion can read out of an item: nothing when its article cannot be
built, no incident when the incidents cannot be. -/
def NewsItem.report? (tools : IncidentTools) (sources : Table NewsSource) (item : NewsItem) :
    Option Report :=
  (sources[item.sourceDefinitionId]?).bind fun source =>
    (readItem tools source item).toOption.map fun reading =>
      (reading.1, reading.2.toOption.getD [])

/-- The reports of the items that a run can parse. -/
def runReports (tools : IncidentTools) (w : IncidentWorld) (actions : List IncidentAction) :
    List Report :=
  (ingestedItems w actions).filterMap (NewsItem.report? tools w.store.sources)

omit [Casing] in
/-- The causes that some reports give. -/
def Reported (reports : List Report) : Cause → Prop
  | .upkeep => False
  | .article story => ∃ report ∈ reports, report.1 = story
  | .incident story candidate => ∃ report ∈ reports, report.1 = story ∧ candidate ∈ report.2

theorem PendingItem.report {tools : IncidentTools} {sources : Table NewsSource}
    {pending : PendingItem} {story : ArticleCandidate}
    (hsource : sources[pending.item.sourceDefinitionId]? = some pending.source)
    (hstory : pending.article tools = .ok story) :
    pending.item.report? tools sources =
      some (story, (pending.incidents tools story).toOption.getD []) := by
  have hread : readItem tools pending.source pending.item =
      (pending.article tools).map fun article => (article, pending.incidents tools article) := rfl
  rw [NewsItem.report?, hsource, Option.bind_some, hread, hstory]
  rfl

/-- The causes of an item are among those of its report. -/
theorem PendingItem.causes_reported {tools : IncidentTools} {sources : Table NewsSource}
    {items : List NewsItem} {pending : PendingItem} {cause : Cause}
    (hsource : sources[pending.item.sourceDefinitionId]? = some pending.source)
    (hmem : pending.item ∈ items) (hcause : pending.causes tools cause) :
    Reported (items.filterMap (NewsItem.report? tools sources)) cause := by
  cases cause with
  | upkeep => exact hcause
  | article story =>
    exact ⟨_, List.mem_filterMap.mpr ⟨_, hmem, pending.report hsource hcause⟩, rfl⟩
  | incident story candidate =>
    obtain ⟨hstory, candidates, hcandidates, hcandidate⟩ := hcause
    refine ⟨_, List.mem_filterMap.mpr ⟨_, hmem, pending.report hsource hstory⟩, rfl, ?_⟩
    rw [hcandidates]
    exact hcandidate

/-- A store between two ingestions: its sources, its waiting items, and what is
to be kept. -/
structure Between (sources : Table NewsSource) (items : List NewsItem)
    (I : IncidentStore → Prop) (s : IncidentStore) : Prop where
  sources : s.sources = sources
  waiting : ∀ item ∈ s.items, item.parseStatus = .pending → item ∈ items
  kept : I s

/-- The invariant survives every committed ingestion of the reports. -/
def KeptByIngestion (reports : List Report) (I : IncidentStore → Prop) : Prop :=
  ∀ s w, I s → Ingestion (Reported reports) (Work.start s) w → w.pending = [] →
    w.rows.constraintsOk = true → I w.rows

theorem Between.step {tools : IncidentTools} {sources : Table NewsSource}
    {items : List NewsItem} {I : IncidentStore → Prop} {w : IncidentWorld}
    {action : IncidentAction} (h : Between sources items I w.store)
    (hingests : action.ingests = true)
    (hfetched : ∀ item, action.fetched? = some item → item ∈ items)
    (hfetch : ∀ s item, I s → I { s with items := s.items ++ [item] })
    (hparse : KeptByIngestion (items.filterMap (NewsItem.report? tools sources)) I) :
    Between sources items I (step tools w action).store := by
  cases action with
  | fetch item =>
    refine ⟨h.sources, ?_, hfetch _ item h.kept⟩
    intro other hmem hpending
    obtain hold | hnew := List.mem_append.mp hmem
    · exact h.waiting other hold hpending
    · exact hfetched other (congrArg some (List.mem_singleton.mp hnew).symm)
  | parse source =>
    obtain hsame | ⟨v, hv, hpending, hvalid, hstore⟩ := parsePendingItems_cases tools source w
    · rw [Incidents.step, hsame]
      exact h
    · have hcauses : Ingestion (Reported (items.filterMap (NewsItem.report? tools sources)))
          (Work.start w.store) v := by
        refine hv.lift id ?_
        rintro a b ⟨cause, hcause, hmove⟩
        refine ⟨cause, hcause.imp_right ?_, hmove⟩
        rintro ⟨pending, hmem, hreports⟩
        obtain ⟨hitem, hwaiting, hsource⟩ := mem_pendingItems hmem
        exact pending.causes_reported (h.sources ▸ hsource) (h.waiting _ hitem hwaiting) hreports
      rw [Incidents.step, hstore]
      refine ⟨hv.items.1.trans h.sources, ?_, hparse _ _ h.kept hcauses hpending hvalid⟩
      intro item hmem hwaiting
      exact h.waiting item (hv.items.2 item hmem hwaiting) hwaiting
  | _ => cases hingests

/-- What fetching keeps, and every committed ingestion of the run's items keeps,
a run of fetches and parses keeps. -/
theorem ingestion_run_keeps {tools : IncidentTools} {I : IncidentStore → Prop}
    {w : IncidentWorld} {actions : List IncidentAction}
    (hingests : ∀ action ∈ actions, action.ingests = true)
    (hfetch : ∀ s item, I s → I { s with items := s.items ++ [item] })
    (hparse : KeptByIngestion (runReports tools w actions) I)
    (hstart : I w.store) : I (run (step tools) w actions).store := by
  have hbetween : Between w.store.sources (ingestedItems w actions) I w.store := by
    refine ⟨rfl, ?_, hstart⟩
    intro item hmem hpending
    exact List.mem_append_left _ (List.mem_filter.mpr ⟨hmem, by simpa using hpending⟩)
  have hfetched : ∀ action ∈ actions, ∀ item, action.fetched? = some item →
      item ∈ ingestedItems w actions := by
    intro action hmem item hitem
    exact List.mem_append_right _ (List.mem_filterMap.mpr ⟨action, hmem, hitem⟩)
  unfold runReports at hparse
  generalize ingestedItems w actions = items at hbetween hfetched hparse
  generalize w.store.sources = sources at hbetween hparse
  induction actions generalizing w with
  | nil => exact hstart
  | cons action rest ih =>
    have hstep := hbetween.step (hingests action List.mem_cons_self)
      (hfetched action List.mem_cons_self) hfetch hparse
    exact ih (fun other hother => hingests other (List.mem_cons_of_mem action hother)) hstep.kept
      (fun other hother => hfetched other (List.mem_cons_of_mem action hother)) hstep

omit [Casing] in
theorem Tells.congr {articles articles' : Table NewsArticle} {article : Id}
    {candidate : ArticleCandidate} (h : Tells articles article candidate)
    (hstories : articles'.map NewsArticle.story = articles.map NewsArticle.story) :
    Tells articles' article candidate := by
  obtain ⟨row, hrow, hkey⟩ := h
  have hstory : (articles'.map NewsArticle.story)[article]? = some row.story := by
    rw [hstories, List.getElem?_map, hrow, Option.map_some]
  obtain ⟨row', hrow', hsame⟩ := Option.map_eq_some_iff.mp (List.getElem?_map ▸ hstory)
  exact ⟨row', hrow', (congrArg Prod.fst hsame).trans hkey⟩

omit [Casing] in
theorem Tells.append {articles : Table NewsArticle} {article : Id}
    {candidate : ArticleCandidate} (h : Tells articles article candidate)
    (added : List NewsArticle) : Tells (articles ++ added) article candidate := by
  obtain ⟨row, hrow, hkey⟩ := h
  refine ⟨row, ?_, hkey⟩
  rw [List.getElem?_append_left (List.getElem?_eq_some_iff.mp hrow).1]
  exact hrow

/-- Every family of the incident was counted for one of its evidence articles,
and the independent sources are two families. -/
structure Backed (admits : Cause → Prop) (articles : Table NewsArticle)
    (row : SecurityIncident) : Prop where
  family : ∀ f ∈ row.evidenceFamilies, ∃ article ∈ row.evidenceArticleIds, ∃ story candidate,
    Tells articles article story ∧ admits (.incident story candidate) ∧
      candidate.dedupeKey = row.dedupeKey ∧ candidate.evidenceFamilyKey = f
  method : row.corroborationMethod = .independentSources → row.twoFamilies = true

section Backing

omit [Casing]

variable {admits : Cause → Prop} {articles : Table NewsArticle} {row : SecurityIncident}
  {article : Id} {story : ArticleCandidate} {candidate : IncidentCandidate}

/-- A backed row stays backed when the articles only gain rows. -/
theorem Backed.mono {articles' : Table NewsArticle} (h : Backed admits articles row)
    (htells : ∀ article story, Tells articles article story → Tells articles' article story) :
    Backed admits articles' row := by
  refine ⟨?_, h.method⟩
  intro f hf
  obtain ⟨article, harticle, story, candidate, hstory, hrest⟩ := h.family f hf
  exact ⟨article, harticle, story, candidate, htells _ _ hstory, hrest⟩

theorem Backed.new (source item : Id) (htells : Tells articles article story)
    (hadmits : admits (.incident story candidate)) :
    Backed admits articles (newIncident source item article candidate) := by
  constructor
  · intro f hf
    obtain rfl : f = candidate.evidenceFamilyKey := List.mem_singleton.mp hf
    exact ⟨article, List.mem_singleton.mpr rfl, story, candidate, htells, hadmits, rfl, rfl⟩
  · intro hmethod
    cases hmethod

theorem Backed.merge (h : Backed admits articles row) (item : Id)
    (htells : Tells articles article story) (hadmits : admits (.incident story candidate))
    (hkey : row.dedupeKey = candidate.dedupeKey) :
    Backed admits articles (row.merge item article candidate) := by
  constructor
  · intro f hf
    obtain hold | rfl := mem_appendUnique.mp hf
    · obtain ⟨known, hknown, hrest⟩ := h.family f hold
      exact ⟨known, mem_appendUnique.mpr (Or.inl hknown), hrest⟩
    · exact ⟨article, mem_appendUnique.mpr (Or.inr rfl), story, candidate, htells, hadmits,
        hkey.symm, rfl⟩
  · intro hmethod
    exact SecurityIncident.merge_twoFamilies (h.method hmethod)

theorem Backed.applyCorroboration (h : Backed admits articles row) :
    Backed admits articles (row.applyCorroboration candidate) := by
  obtain hsame | ⟨-, -, happlied⟩ | ⟨-, -, hfamilies, happlied⟩ :=
    row.applyCorroboration_cases candidate
  · rw [hsame]
    exact h
  · rw [happlied]
    exact ⟨h.family, fun hmethod => by cases hmethod⟩
  · rw [happlied]
    exact ⟨h.family, fun _ => hfamilies⟩

end Backing

/-- Every stored article is one of the reported stories, and every incident is
backed by the articles. -/
structure Evident (admits : Cause → Prop) (articles : Table NewsArticle)
    (incidents : Table SecurityIncident) : Prop where
  told : ∀ pair ∈ articles.map NewsArticle.story, ∃ story, admits (.article story) ∧
    pair = (story.dedupeKey, story.syndicationClusterKey)
  backed : ∀ row ∈ incidents, Backed admits articles row

omit [Casing] in
theorem NewRow.article?_plain {row : NewRow} (h : row.plain = true) : row.article? = none := by
  cases row <;> first | rfl | cases h

omit [Casing] in
theorem announcement_articles (incident : Id) (row : SecurityIncident)
    (candidate : IncidentCandidate) :
    (announcement incident row candidate).filterMap NewRow.article? = [] := by
  unfold announcement
  split <;> rfl

section Changes

omit [Casing]

variable {admits : Cause → Prop} {articles : Table NewsArticle}
  {incidents : Table SecurityIncident}

theorem Evident.congr {articles' : Table NewsArticle} (h : Evident admits articles incidents)
    (hstories : articles'.map NewsArticle.story = articles.map NewsArticle.story) :
    Evident admits articles' incidents := by
  refine ⟨hstories ▸ h.told, ?_⟩
  intro row hrow
  exact (h.backed row hrow).mono fun _ _ htells => htells.congr hstories

theorem Evident.publish (h : Evident admits articles incidents) (source item : Id)
    {story : ArticleCandidate} (hadmits : admits (.article story)) :
    Evident admits (articles ++ [newArticle source item story]) incidents := by
  constructor
  · intro pair hpair
    rw [List.map_append] at hpair
    obtain hold | hnew := List.mem_append.mp hpair
    · exact h.told pair hold
    · exact ⟨story, hadmits, List.mem_singleton.mp hnew⟩
  · intro row hrow
    exact (h.backed row hrow).mono fun _ _ htells => htells.append _

theorem Evident.push (h : Evident admits articles incidents) {row : SecurityIncident}
    (hrow : Backed admits articles row) : Evident admits articles (incidents ++ [row]) := by
  refine ⟨h.told, ?_⟩
  intro other hother
  obtain hold | hnew := List.mem_append.mp hother
  · exact h.backed other hold
  · exact (List.mem_singleton.mp hnew) ▸ hrow

theorem Evident.set (h : Evident admits articles incidents) {row : SecurityIncident} (i : Id)
    (hrow : Backed admits articles row) : Evident admits articles (incidents.set i row) := by
  refine ⟨h.told, ?_⟩
  intro other hother
  obtain hold | rfl := List.mem_or_eq_of_mem_set hother
  · exact h.backed other hold
  · exact hrow

/-- Ingestion keeps the evidence of the incidents, counting the rows that still
wait for a flush. -/
theorem Ingestion.evident {s : IncidentStore} {w : IncidentWork}
    (h : Ingestion admits (Work.start s) w) (hs : Evident admits s.articles s.incidents) :
    Evident admits (w.flushed schema).articles (w.flushed schema).incidents := by
  refine Chain.keeps (I := fun w : IncidentWork =>
    Evident admits (w.flushed schema).articles (w.flushed schema).incidents) ?_ h hs
  intro cause v v' hcause hmove hv
  rw [(flushed_tables v).1, (flushed_tables v).2.1] at hv
  rw [(flushed_tables v').1, (flushed_tables v').2.1]
  cases hmove with
  | assign _ _ harticles hincidents _ _ =>
    rw [hincidents]
    refine hv.congr ?_
    rw [List.map_append, List.map_append, harticles]
  | add row _ hplain =>
    rw [List.filterMap_append, List.filterMap_append,
      List.filterMap_cons_none (NewRow.incident?_plain hplain),
      List.filterMap_cons_none (NewRow.article?_plain hplain)]
    simpa using hv
  | publish source item candidate _ =>
    rw [List.filterMap_append, List.filterMap_append,
      List.filterMap_cons_none (l := []) (f := NewRow.incident?) rfl,
      List.filterMap_nil, List.append_nil, ← List.append_assoc]
    exact hv.publish source item (hcause.resolve_left nofun)
  | detect source item candidate htells =>
    rw [List.filterMap_append, List.filterMap_append,
      List.filterMap_cons_none (l := []) (f := NewRow.article?) rfl,
      List.filterMap_nil, List.append_nil, ← List.append_assoc]
    exact hv.push (Backed.new source item (htells.append _) (hcause.resolve_left nofun))
  | merge item htells hrow hkey =>
    have hlt := (List.getElem?_eq_some_iff.mp hrow).1
    have hmem := List.mem_append_left (v.pending.filterMap NewRow.incident?)
      (List.mem_of_getElem? hrow)
    show Evident admits _ (v.rows.incidents.set _ _ ++ _)
    rw [← List.set_append_left _ _ hlt]
    exact hv.set _ ((hv.backed _ hmem).merge item (htells.append _)
      (hcause.resolve_left nofun) hkey)
  | corroborate hrow hkey hfamily =>
    have hlt := (List.getElem?_eq_some_iff.mp hrow).1
    have hmem := List.mem_append_left (v.pending.filterMap NewRow.incident?)
      (List.mem_of_getElem? hrow)
    rw [List.filterMap_append, List.filterMap_append, announcement_incidents,
      announcement_articles, List.append_nil, List.append_nil]
    show Evident admits _ (v.rows.incidents.set _ _ ++ _)
    rw [← List.set_append_left _ _ hlt]
    exact hv.set _ (hv.backed _ hmem).applyCorroboration
  | flush _ _ =>
    rw [(flushed_tables v).1, (flushed_tables v).2.1]
    simpa using hv
  | fail _ => exact hv

end Changes

omit [Casing] in
/-- The reports tell stories apart: one address carries one story, and outlets
of different families that report the same incident carry different stories. -/
def ToldApart (reports : List Report) : Prop :=
  ∀ a ∈ reports, ∀ b ∈ reports,
    (a.1.dedupeKey = b.1.dedupeKey → a.1.syndicationClusterKey = b.1.syndicationClusterKey) ∧
      ∀ c ∈ a.2, ∀ d ∈ b.2, c.dedupeKey = d.dedupeKey →
        c.evidenceFamilyKey ≠ d.evidenceFamilyKey →
        a.1.syndicationClusterKey ≠ b.1.syndicationClusterKey

instance (reports : List Report) : Decidable (ToldApart reports) :=
  inferInstanceAs (Decidable (∀ a ∈ reports, ∀ b ∈ reports, _ ∧ _))

omit [Casing] in
/-- Two evidence articles of the incident belong to different clusters. -/
def SecurityIncident.TwoStories (row : SecurityIncident) (articles : Table NewsArticle) : Prop :=
  ∃ a ∈ row.evidenceArticleIds, ∃ b ∈ row.evidenceArticleIds, ∃ first ∈ articles[a]?,
    ∃ second ∈ articles[b]?, first.syndicationClusterKey ≠ second.syndicationClusterKey

instance (row : SecurityIncident) (articles : Table NewsArticle) :
    Decidable (row.TwoStories articles) :=
  inferInstanceAs (Decidable (∃ a ∈ row.evidenceArticleIds, ∃ b ∈ row.evidenceArticleIds, _))

omit [Casing] in
/-- Independent sources are two stories, not two copies of one. -/
def CountsStories (s : IncidentStore) : Prop :=
  ∀ row ∈ s.incidents, row.corroborationMethod = .independentSources →
    row.TwoStories s.articles

instance (s : IncidentStore) : Decidable (CountsStories s) :=
  inferInstanceAs (Decidable (∀ row ∈ s.incidents, _ → _))

omit [Casing] in
theorem Reported.article {reports : List Report} {story : ArticleCandidate}
    {candidate : IncidentCandidate} (h : Reported reports (.incident story candidate)) :
    Reported reports (.article story) := by
  obtain ⟨report, hreport, hstory, -⟩ := h
  exact ⟨report, hreport, hstory⟩

omit [Casing] in
/-- The cluster of a stored article is the one of every reported story with its
address. -/
theorem Evident.cluster {reports : List Report} {articles : Table NewsArticle}
    {incidents : Table SecurityIncident} (h : Evident (Reported reports) articles incidents)
    (hapart : ToldApart reports) {row : NewsArticle} {story : ArticleCandidate}
    (hrow : row ∈ articles) (hstory : Reported reports (.article story))
    (hkey : row.dedupeKey = story.dedupeKey) :
    row.syndicationClusterKey = story.syndicationClusterKey := by
  obtain ⟨told, ⟨first, hfirst, rfl⟩, hpair⟩ := h.told row.story (List.mem_map_of_mem hrow)
  obtain ⟨second, hsecond, rfl⟩ := hstory
  have hkeys : row.dedupeKey = first.1.dedupeKey := congrArg Prod.fst hpair
  have hcluster : row.syndicationClusterKey = first.1.syndicationClusterKey :=
    congrArg Prod.snd hpair
  exact hcluster.trans ((hapart first hfirst second hsecond).1 (hkeys.symm.trans hkey))

/-- A run of fetches and parses keeps the evidence of the incidents. -/
theorem run_evident {tools : IncidentTools} {w : IncidentWorld}
    {actions : List IncidentAction}
    (hingests : ∀ action ∈ actions, action.ingests = true)
    (hempty : w.store.articles = [] ∧ w.store.incidents = []) :
    Evident (Reported (runReports tools w actions))
      (run (step tools) w actions).store.articles
      (run (step tools) w actions).store.incidents := by
  refine ingestion_run_keeps (I := fun s : IncidentStore =>
    Evident (Reported (runReports tools w actions)) s.articles s.incidents)
    hingests (fun _ _ h => h) ?_ ?_
  · intro s v hs hv hpending _
    have hflushed := hv.evident hs
    rw [(flushed_tables v).1, (flushed_tables v).2.1, hpending, List.filterMap_nil,
      List.filterMap_nil, List.append_nil, List.append_nil] at hflushed
    exact hflushed
  · rw [hempty.1, hempty.2]
    constructor
    · intro pair hpair
      exact absurd hpair List.not_mem_nil
    · intro row hrow
      exact absurd hrow List.not_mem_nil

/-- In every run of fetches and parses from an empty database whose items tell
stories apart, an incident that independent sources corroborate has evidence
from two clusters. -/
theorem independent_sources_two_stories (tools : IncidentTools) (w : IncidentWorld)
    (actions : List IncidentAction)
    (hempty : w.store.articles = [] ∧ w.store.incidents = [])
    (hingests : ∀ action ∈ actions, action.ingests = true)
    (hapart : ToldApart (runReports tools w actions)) :
    CountsStories (run (step tools) w actions).store := by
  intro row hrow hmethod
  have hevident := @run_evident _ tools w actions hingests hempty
  have hbacked := hevident.backed row hrow
  obtain ⟨f, hf, g, hg, hne⟩ := SecurityIncident.twoFamilies_iff.mp (hbacked.method hmethod)
  obtain ⟨a, ha, _, c, ⟨rowA, hrowA, hkeyA⟩, hfirst, hc, rfl⟩ := hbacked.family f hf
  obtain ⟨b, hb, _, d, ⟨rowB, hrowB, hkeyB⟩, hsecond, hd, rfl⟩ := hbacked.family g hg
  refine ⟨a, ha, b, hb, rowA, hrowA, rowB, hrowB, ?_⟩
  rw [hevident.cluster hapart (List.mem_of_getElem? hrowA) hfirst.article hkeyA,
    hevident.cluster hapart (List.mem_of_getElem? hrowB) hsecond.article hkeyB]
  obtain ⟨first, hfirst, rfl, hcfirst⟩ := hfirst
  obtain ⟨second, hsecond, rfl, hdsecond⟩ := hsecond
  exact (hapart first hfirst second hsecond).2 c hcfirst d hdsecond (hc.trans hd.symm) hne

end Runs

/-- A database with fetched items and nothing derived from them. -/
def newsroom (items : List NewsItem) : IncidentWorld where
  store := { sources := [sampleSource], items }
  external := PUnit.unit

/-- What is read out of the sample story at an address, as a report. -/
def storyReport (url : String) : Option Report :=
  (storyTable sampleSource (story url)).toOption.map fun reading =>
    (reading.1, reading.2.toOption.getD [])

theorem story_reports {w : IncidentWorld} {actions : List IncidentAction}
    (hsources : w.store.sources = [sampleSource]) (urls : List String)
    (hitems : ingestedItems w actions = urls.map story)
    (hurls : ∀ url ∈ urls, url = "https://alpha.example/breach" ∨
      url = "https://beta.example/breach" ∨ url = "https://alpha.example/update") :
    runReports sampleTools w actions = urls.filterMap storyReport := by
  rw [runReports, hsources, hitems, List.filterMap_map]
  refine List.filterMap_congr ?_
  intro url hurl
  have hread : (story url).report? sampleTools [sampleSource] =
      (readItem sampleTools sampleSource (story url)).toOption.map fun reading =>
        (reading.1, reading.2.toOption.getD []) := rfl
  rw [Function.comp_apply, hread, storyReport]
  obtain rfl | rfl | rfl := hurls url hurl
  · rw [read_alpha_breach]
    rfl
  · rw [read_beta_breach]
    rfl
  · rw [read_alpha_update]
    rfl

/-- Two outlets carry the same story, neither of them authoritative, and ingestion
corroborates the incident by independent sources. -/
theorem copies_corroborate :
    ¬ (∀ (tools : IncidentTools) (w : IncidentWorld) (actions : List IncidentAction),
        w.store.articles = [] ∧ w.store.incidents = [] →
        (∀ action ∈ actions, action.ingests = true) →
        (∀ report ∈ runReports tools w actions, ∀ candidate ∈ report.2,
          candidate.authoritative = false) →
        CountsStories (run (step tools) w actions).store) := by
  intro hall
  have hcounts := hall sampleTools (newsroom [story "https://alpha.example/breach"])
    [.parse none, .fetch (story "https://beta.example/breach"), .parse none] ⟨rfl, rfl⟩
    (by decide) (by
      rw [story_reports rfl ["https://alpha.example/breach", "https://beta.example/breach"] rfl
        (by simp)]
      decide)
  rw [sample_run_eq rfl ["https://alpha.example/breach", "https://beta.example/breach"] rfl
    (by simp)] at hcounts
  revert hcounts
  decide +kernel

/-- Two articles of one outlet report an incident, which stays a candidate. -/
theorem one_outlet_counts :
    CountsStories (run (step sampleTools) (newsroom [story "https://alpha.example/breach"])
        [.parse none, .fetch (story "https://alpha.example/update"), .parse none]).store ∧
      ((run (step sampleTools) (newsroom [story "https://alpha.example/breach"])
        [.parse none, .fetch (story "https://alpha.example/update"), .parse none]).store.incidents.map
          fun row => (row.status, row.evidenceArticleIds)) = [(.candidate, [0, 1])] := by
  constructor
  · have hapart : ToldApart (runReports sampleTools
        (newsroom [story "https://alpha.example/breach"])
        [.parse none, .fetch (story "https://alpha.example/update"), .parse none]) := by
      rw [story_reports rfl ["https://alpha.example/breach", "https://alpha.example/update"] rfl
        (by simp)]
      decide
    exact independent_sources_two_stories sampleTools _ _ ⟨rfl, rfl⟩ (by decide) hapart
  · rw [sample_run_eq rfl ["https://alpha.example/breach", "https://alpha.example/update"] rfl
      (by simp)]
    decide +kernel

end GhostRecon.Incidents
