import GhostRecon.Incidents.Repository

/-!
What ingestion does to the incidents. Every step of the parser is one of a few
changes of its session, made for a candidate of one of the items; a row is
merged with new coverage or corroborated by it, and nothing else happens to
it. Results about ingestion are case analyses of these changes, not of the
parser.
-/

namespace GhostRecon.Incidents

open Lib (Id Table Work Chain)
open Std.Do

set_option mvcgen.warning false

/-- The event that a corroboration announces, if it changed the status. -/
def announcement (incident : Id) (row : SecurityIncident) (candidate : IncidentCandidate) :
    List NewRow :=
  if row.status ≠ .corroborated ∧ (row.applyCorroboration candidate).status = .corroborated then
    [.event (.corroborated incident (row.applyCorroboration candidate).corroborationMethod)]
  else []

/-- The row announces no corroboration, and is no article and no incident. -/
def NewRow.plain : NewRow → Bool
  | .evidence _ => true
  | .event (.articleIngested _) | .event (.detected _) => true
  | .event _ | .article _ | .incident _ => false

/-- What a change of the session is made for. -/
inductive Cause where
  | upkeep
  | article (candidate : ArticleCandidate)
  | incident (article : ArticleCandidate) (candidate : IncidentCandidate)

/-- The story a stored article tells: its key and its cluster. -/
def NewsArticle.story (row : NewsArticle) : String × String :=
  (row.dedupeKey, row.syndicationClusterKey)

/-- The stored article is the one of the candidate. -/
def Tells (articles : Table NewsArticle) (article : Id) (candidate : ArticleCandidate) : Prop :=
  ∃ row, articles[article]? = some row ∧ row.dedupeKey = candidate.dedupeKey

/-- The changes of a session, each with its cause. -/
inductive Ingests : Cause → IncidentWork → IncidentWork → Prop where
  | assign {f : IncidentStore → IncidentStore} {w : IncidentWork}
      (hsources : (f w.rows).sources = w.rows.sources)
      (hitems : ∀ item ∈ (f w.rows).items, item.parseStatus = .pending → item ∈ w.rows.items)
      (harticles : (f w.rows).articles.map NewsArticle.story =
        w.rows.articles.map NewsArticle.story)
      (hincidents : (f w.rows).incidents = w.rows.incidents)
      (hdecisions : (f w.rows).decisions = w.rows.decisions)
      (houtbox : (f w.rows).outbox = w.rows.outbox) :
      Ingests .upkeep w { w with rows := f w.rows }
  | add (row : NewRow) (w : IncidentWork) (hplain : row.plain = true) :
      Ingests .upkeep w { w with pending := w.pending ++ [row] }
  | publish (source item : Id) (candidate : ArticleCandidate) (w : IncidentWork) :
      Ingests (.article candidate) w
        { w with pending := w.pending ++ [.article (newArticle source item candidate)] }
  | detect (source item : Id) {article : Id} {story : ArticleCandidate}
      (candidate : IncidentCandidate) {w : IncidentWork}
      (harticle : Tells w.rows.articles article story) :
      Ingests (.incident story candidate) w
        { w with pending := w.pending ++ [.incident (newIncident source item article candidate)] }
  | merge {incident article : Id} {row : SecurityIncident} {story : ArticleCandidate}
      {candidate : IncidentCandidate} {w : IncidentWork} (item : Id)
      (harticle : Tells w.rows.articles article story)
      (hrow : w.rows.incidents[incident]? = some row)
      (hkey : row.dedupeKey = candidate.dedupeKey) :
      Ingests (.incident story candidate) w
        { w with rows := setIncident incident (row.merge item article candidate) w.rows }
  | corroborate {incident : Id} {row : SecurityIncident} {story : ArticleCandidate}
      {candidate : IncidentCandidate} {w : IncidentWork}
      (hrow : w.rows.incidents[incident]? = some row)
      (hkey : row.dedupeKey = candidate.dedupeKey)
      (hfamily : candidate.evidenceFamilyKey ∈ row.evidenceFamilies) :
      Ingests (.incident story candidate) w
        { w with
          rows := setIncident incident (row.applyCorroboration candidate) w.rows
          pending := w.pending ++ announcement incident row candidate }
  | flush {w : IncidentWork} (hsound : w.broken = false)
      (hvalid : (w.flushed schema).constraintsOk = true) :
      Ingests .upkeep w { w with rows := w.flushed schema, pending := [] }
  | fail (w : IncidentWork) : Ingests .upkeep w { w with broken := true }

/-- A chain of changes whose causes `admits` allows. -/
abbrev Ingestion (admits : Cause → Prop) : IncidentWork → IncidentWork → Prop :=
  Chain Ingests fun cause => cause = .upkeep ∨ admits cause

/-- What one candidate can do to the row of its incident. -/
inductive Covers (candidate : IncidentCandidate) :
    SecurityIncident → SecurityIncident → Prop where
  | merge (item article : Id) {row : SecurityIncident}
      (hkey : row.dedupeKey = candidate.dedupeKey) :
      Covers candidate row (row.merge item article candidate)
  | corroborate {row : SecurityIncident} (hkey : row.dedupeKey = candidate.dedupeKey)
      (hfamily : candidate.evidenceFamilyKey ∈ row.evidenceFamilies) :
      Covers candidate row (row.applyCorroboration candidate)

/-- The row after some of the admitted candidates. -/
abbrev Covered (admits : IncidentCandidate → Prop) :
    SecurityIncident → SecurityIncident → Prop :=
  Chain Covers admits

/-- Every incident of `before` is still there, covered by admitted candidates,
and every other one started from an admitted candidate. -/
structure CoveredTable (admits : IncidentCandidate → Prop)
    (before after : Table SecurityIncident) : Prop where
  stored : ∀ (i : Id) (row : SecurityIncident), before[i]? = some row →
    ∃ row', after[i]? = some row' ∧ Covered admits row row'
  new : ∀ (i : Id) (row' : SecurityIncident), before.length ≤ i → after[i]? = some row' →
    ∃ source item article candidate, admits candidate ∧
      Covered admits (newIncident source item article candidate) row'

section Tables

variable {admits : IncidentCandidate → Prop}

theorem CoveredTable.refl (t : Table SecurityIncident) : CoveredTable admits t t where
  stored _ row hrow := ⟨row, hrow, Chain.refl row⟩
  new i row' hi hrow' := by
    have hlt := (List.getElem?_eq_some_iff.mp hrow').1
    omega

theorem CoveredTable.length_le {before after : Table SecurityIncident}
    (h : CoveredTable admits before after) : before.length ≤ after.length := by
  by_contra hshort
  have hlt : after.length < before.length := by omega
  obtain ⟨row', hrow', -⟩ := h.stored after.length before[after.length]
    (List.getElem?_eq_getElem hlt)
  have := (List.getElem?_eq_some_iff.mp hrow').1
  omega

/-- Covering a row of the table keeps the table covered. -/
theorem CoveredTable.set {before after : Table SecurityIncident} {i : Id}
    {row row' : SecurityIncident} {candidate : IncidentCandidate}
    (h : CoveredTable admits before after) (hrow : after[i]? = some row)
    (hadmits : admits candidate) (hcovers : Covers candidate row row') :
    CoveredTable admits before (after.set i row') := by
  have hlt := (List.getElem?_eq_some_iff.mp hrow).1
  constructor
  · intro j start hstart
    obtain ⟨last, hlast, hcovered⟩ := h.stored j start hstart
    by_cases hij : i = j
    · subst hij
      obtain rfl : row = last := Option.some.inj (hrow.symm.trans hlast)
      exact ⟨row', List.getElem?_set_self hlt, hcovered.trans (Chain.single hadmits hcovers)⟩
    · exact ⟨last, (List.getElem?_set_ne hij).trans hlast, hcovered⟩
  · intro j last hj hlast
    by_cases hij : i = j
    · subst hij
      rw [List.getElem?_set_self hlt, Option.some.injEq] at hlast
      subst hlast
      obtain ⟨source, item, article, first, hfirst, hcovered⟩ := h.new i row hj hrow
      exact ⟨source, item, article, first, hfirst,
        hcovered.trans (Chain.single hadmits hcovers)⟩
    · exact h.new j last hj ((List.getElem?_set_ne hij).symm.trans hlast)

/-- A new incident of an admitted candidate keeps the table covered. -/
theorem CoveredTable.push {before after : Table SecurityIncident} {source item article : Id}
    {candidate : IncidentCandidate} (h : CoveredTable admits before after)
    (hadmits : admits candidate) :
    CoveredTable admits before (after ++ [newIncident source item article candidate]) := by
  constructor
  · intro j start hstart
    obtain ⟨last, hlast, hcovered⟩ := h.stored j start hstart
    exact ⟨last, List.getElem?_append_left (List.getElem?_eq_some_iff.mp hlast).1 ▸ hlast,
      hcovered⟩
  · intro j last hj hlast
    by_cases hlt : j < after.length
    · rw [List.getElem?_append_left hlt] at hlast
      exact h.new j last hj hlast
    · rw [List.getElem?_append_right (Nat.le_of_not_lt hlt), List.getElem?_singleton] at hlast
      split at hlast
      · rw [Option.some.injEq] at hlast
        subst hlast
        exact ⟨source, item, article, candidate, hadmits, Chain.refl _⟩
      · cases hlast

end Tables

/-- The incident of a row that waits for a flush. -/
def NewRow.incident? : NewRow → Option SecurityIncident
  | .incident row => some row
  | _ => none

/-- The article of a row that waits for a flush. -/
def NewRow.article? : NewRow → Option NewsArticle
  | .article row => some row
  | _ => none

/-- The event of a row that waits for a flush. -/
def NewRow.event? : NewRow → Option IncidentEventKey
  | .event key => some key
  | _ => none

/-- A flush appends the waiting rows to their tables and leaves the others. -/
theorem flushed_tables (w : IncidentWork) :
    (w.flushed schema).incidents = w.rows.incidents ++ w.pending.filterMap NewRow.incident? ∧
      (w.flushed schema).articles = w.rows.articles ++ w.pending.filterMap NewRow.article? ∧
      (w.flushed schema).outbox = w.rows.outbox ++ w.pending.filterMap NewRow.event? ∧
      (w.flushed schema).decisions = w.rows.decisions ∧
      (w.flushed schema).sources = w.rows.sources ∧ (w.flushed schema).items = w.rows.items := by
  obtain ⟨rows, pending, broken⟩ := w
  simp only [Work.flushed, schema]
  induction pending generalizing rows with
  | nil => simp
  | cons row rest ih =>
    obtain ⟨hincidents, harticles, houtbox, hdecisions, hsources, hitems⟩ := ih (rows.insert row)
    rw [List.foldl_cons, hincidents, harticles, houtbox, hdecisions, hsources, hitems]
    cases row <;> simp [IncidentStore.insert, NewRow.incident?, NewRow.article?, NewRow.event?,
      List.filterMap_cons]

theorem announcement_incidents (incident : Id) (row : SecurityIncident)
    (candidate : IncidentCandidate) :
    (announcement incident row candidate).filterMap NewRow.incident? = [] := by
  unfold announcement
  split <;> rfl

theorem NewRow.incident?_plain {row : NewRow} (h : row.plain = true) : row.incident? = none := by
  cases row <;> first | rfl | cases h

/-- Ingestion covers the incidents it started from, counting those that still
wait for a flush. -/
theorem Ingestion.covered {admits : Cause → Prop} {s : IncidentStore}
    {w : IncidentWork} (h : Ingestion admits (Work.start s) w) :
    CoveredTable (fun candidate => ∃ story, admits (.incident story candidate)) s.incidents
        (w.flushed schema).incidents ∧
      (w.flushed schema).decisions = s.decisions := by
  refine Chain.keeps (I := fun w : IncidentWork =>
    CoveredTable (fun candidate => ∃ story, admits (.incident story candidate)) s.incidents
        (w.flushed schema).incidents ∧
      (w.flushed schema).decisions = s.decisions) ?_ h ⟨CoveredTable.refl _, rfl⟩
  intro cause v v' hcause hmove hv
  obtain ⟨hcovered, hdecisions⟩ := hv
  rw [(flushed_tables v).1] at hcovered
  rw [(flushed_tables v).2.2.2.1] at hdecisions
  rw [(flushed_tables v').1, (flushed_tables v').2.2.2.1]
  cases hmove with
  | assign _ _ _ hincidents hdecisions' _ =>
    rw [hincidents, hdecisions']
    exact ⟨hcovered, hdecisions⟩
  | add row _ hplain =>
    rw [List.filterMap_append, List.filterMap_cons_none (NewRow.incident?_plain hplain)]
    simpa using ⟨hcovered, hdecisions⟩
  | publish source item candidate _ =>
    rw [List.filterMap_append, List.filterMap_cons_none rfl]
    simpa using ⟨hcovered, hdecisions⟩
  | detect source item candidate _ =>
    rw [List.filterMap_append, ← List.append_assoc]
    exact ⟨hcovered.push ⟨_, hcause.resolve_left (by simp)⟩, hdecisions⟩
  | merge item _ hrow hkey =>
    have hlt := (List.getElem?_eq_some_iff.mp hrow).1
    refine ⟨?_, hdecisions⟩
    show CoveredTable _ s.incidents (v.rows.incidents.set _ _ ++ _)
    rw [← List.set_append_left _ _ hlt]
    exact hcovered.set ((List.getElem?_append_left hlt).trans hrow)
      ⟨_, hcause.resolve_left (by simp)⟩ (.merge item _ hkey)
  | corroborate hrow hkey hfamily =>
    have hlt := (List.getElem?_eq_some_iff.mp hrow).1
    refine ⟨?_, hdecisions⟩
    rw [List.filterMap_append, announcement_incidents, List.append_nil]
    show CoveredTable _ s.incidents (v.rows.incidents.set _ _ ++ _)
    rw [← List.set_append_left _ _ hlt]
    exact hcovered.set ((List.getElem?_append_left hlt).trans hrow)
      ⟨_, hcause.resolve_left (by simp)⟩ (.corroborate hkey hfamily)
  | flush _ _ =>
    rw [(flushed_tables v).1, (flushed_tables v).2.2.2.1]
    simpa using ⟨hcovered, hdecisions⟩
  | fail _ => exact ⟨hcovered, hdecisions⟩

/-- Ingestion leaves the sources and the items that stay pending. -/
theorem Ingestion.items {admits : Cause → Prop} {s : IncidentStore} {w : IncidentWork}
    (h : Ingestion admits (Work.start s) w) :
    w.rows.sources = s.sources ∧
      ∀ item ∈ w.rows.items, item.parseStatus = .pending → item ∈ s.items := by
  refine Chain.keeps (I := fun w : IncidentWork => w.rows.sources = s.sources ∧
    ∀ item ∈ w.rows.items, item.parseStatus = .pending → item ∈ s.items) ?_ h
    ⟨rfl, fun _ hmem _ => hmem⟩
  intro cause v v' _ hmove hv
  cases hmove with
  | assign hsources hitems _ _ _ _ =>
    exact ⟨hsources.trans hv.1, fun item hmem hpending =>
      hv.2 item (hitems item hmem hpending) hpending⟩
  | flush _ _ =>
    rw [(flushed_tables v).2.2.2.2.1, (flushed_tables v).2.2.2.2.2]
    exact hv
  | _ => exact hv

section Steps

variable {admits : Cause → Prop} {start w w' : IncidentWork}

theorem Ingestion.quiet (h : Ingestion admits start w) (hmove : Ingests .upkeep w w') :
    Ingestion admits start w' :=
  h.trans (Chain.single (Or.inl rfl) hmove)

theorem Ingestion.made {cause : Cause} (h : Ingestion admits start w) (hadmits : admits cause)
    (hmove : Ingests cause w w') : Ingestion admits start w' :=
  h.trans (Chain.single (Or.inr hadmits) hmove)

/-- The rows just added are the last of their tables after the flush. -/
theorem flushed_last_incident (w : IncidentWork) (row : SecurityIncident) :
    ((Work.flushed schema { w with pending := w.pending ++ [.incident row] }).incidents)[
      (Work.flushed schema
        { w with pending := w.pending ++ [.incident row] }).incidents.length - 1]? = some row := by
  simp [Work.flushed, schema, IncidentStore.insert]

theorem flushed_last_article (w : IncidentWork) (row : NewsArticle) :
    ((Work.flushed schema { w with pending := w.pending ++ [.article row] }).articles)[
      (Work.flushed schema
        { w with pending := w.pending ++ [.article row] }).articles.length - 1]? = some row := by
  simp [Work.flushed, schema, IncidentStore.insert]

/-- A stored article is found again after a flush. -/
theorem Tells.flushed {article : Id} {story : ArticleCandidate} (pending : List NewRow)
    (h : Tells w.rows.articles article story) :
    Tells (Work.flushed schema { w with pending := pending }).articles article story := by
  obtain ⟨row, hrow, hkey⟩ := h
  refine ⟨row, ?_, hkey⟩
  rw [(flushed_tables _).2.1, List.getElem?_append_left (List.getElem?_eq_some_iff.mp hrow).1]
  exact hrow

/-- An item that is pending after one item was settled was there before. -/
theorem mem_of_settled {items : Table NewsItem} {i : Id} {f : NewsItem → NewsItem}
    (hsettled : ∀ item, (f item).parseStatus ≠ .pending) :
    ∀ item ∈ items.modify i f, item.parseStatus = .pending → item ∈ items := by
  intro item hmem hpending
  obtain ⟨j, hj⟩ := List.mem_iff_getElem?.mp hmem
  rw [List.getElem?_modify] at hj
  cases hrow : items[j]? with
  | none => simp [hrow] at hj
  | some row =>
    by_cases hij : i = j
    · simp [hrow, hij] at hj
      exact absurd (hj ▸ hpending) (hsettled row)
    · simp [hrow, hij] at hj
      exact hj ▸ List.mem_of_getElem? hrow

theorem sawArticle_stories (article item : Id) (s : IncidentStore) :
    (sawArticle article item s).articles.map NewsArticle.story =
      s.articles.map NewsArticle.story := by
  apply List.ext_getElem?
  intro j
  simp only [sawArticle, List.getElem?_map, List.getElem?_modify]
  cases s.articles[j]? with
  | none => rfl
  | some row => by_cases hj : article = j <;> simp [hj, NewsArticle.story]

theorem upsertArticle_ingests (source item : Id) {candidate : ArticleCandidate}
    (hadmits : admits (.article candidate)) :
    ⦃fun v => ⌜Ingestion admits start v⌝⦄ upsertArticle source item candidate
      ⦃post⟨fun article v => ⌜Ingestion admits start v ∧
          Tells v.rows.articles article candidate⌝,
        fun _ v => ⌜Ingestion admits start v⌝⟩⦄ := by
  mvcgen [upsertArticle, Work.look, Work.assign, Work.add, Work.flush]
  · next h _ _ article row hfound _ =>
    obtain ⟨hrow, hkey⟩ := Table.first?_some hfound
    refine ⟨h.quiet (.assign rfl (fun _ hmem _ => hmem) (sawArticle_stories _ _ _) rfl rfl rfl), ?_⟩
    refine ⟨{ row with sourceItemIds := appendUnique row.sourceItemIds item }, ?_,
      beq_iff_eq.mp hkey⟩
    show (List.modify _ _ _)[article]? = _
    rw [List.getElem?_modify_eq, hrow]
    rfl
  · next v h _ _ _ _ _ hsound hvalid _ _ _ =>
    have hadded := h.made hadmits (.publish source item candidate _)
    have hflushed := hadded.quiet (.flush (Bool.eq_false_iff.mpr hsound) hvalid)
    refine ⟨hflushed.quiet (.add _ _ rfl), newArticle source item candidate, ?_, rfl⟩
    exact flushed_last_article v _
  · next h _ _ _ _ _ _ _ => exact (h.made hadmits (.publish _ _ _ _)).quiet (.fail _)

/-- A session reached by ingestion that has the article of an item. -/
structure Reached (admits : Cause → Prop) (start : IncidentWork) (article : Id)
    (story : ArticleCandidate) (w : IncidentWork) : Prop where
  chain : Ingestion admits start w
  tells : Tells w.rows.articles article story

/-- A reached session in which the incident of a candidate is loaded, with the
candidate's key and family. -/
structure Loaded (admits : Cause → Prop) (start : IncidentWork) (article : Id)
    (story : ArticleCandidate) (candidate : IncidentCandidate) (found : Id × SecurityIncident)
    (w : IncidentWork) : Prop extends Reached admits start article story w where
  row : w.rows.incidents[found.1]? = some found.2
  key : found.2.dedupeKey = candidate.dedupeKey
  family : candidate.evidenceFamilyKey ∈ found.2.evidenceFamilies

variable {article : Id} {story : ArticleCandidate}

theorem foundIncident_ingests (source item : Id) {candidate : IncidentCandidate}
    (hadmits : admits (.incident story candidate)) :
    ⦃fun v => ⌜Reached admits start article story v⌝⦄
      foundIncident source item article candidate
      ⦃post⟨fun found v => ⌜Loaded admits start article story candidate found v⌝,
        fun _ v => ⌜Ingestion admits start v⌝⟩⦄ := by
  mvcgen [foundIncident, Work.look, Work.assign, Work.add, Work.flush]
  · next h _ _ => exact h.chain
  · next h _ _ incident row hfound _ =>
    obtain ⟨hrow, hkey⟩ := Table.first?_some hfound
    have hkey : row.dedupeKey = candidate.dedupeKey := beq_iff_eq.mp hkey
    refine ⟨⟨h.chain.made hadmits (.merge item h.tells hrow hkey), h.tells⟩, ?_, hkey, ?_⟩
    · exact List.getElem?_set_self (List.getElem?_eq_some_iff.mp hrow).1
    · exact mem_appendUnique.mpr (Or.inr rfl)
  · next v h _ _ _ _ _ hsound hvalid _ _ _ =>
    have hadded := h.chain.made hadmits (.detect source item candidate h.tells)
    have hflushed := hadded.quiet (.flush (Bool.eq_false_iff.mpr hsound) hvalid)
    refine ⟨⟨hflushed.quiet (.add _ _ rfl), h.tells.flushed _⟩, ?_, rfl,
      List.mem_singleton.mpr rfl⟩
    exact flushed_last_incident v _
  · next h _ _ _ _ _ _ _ =>
    exact (h.chain.made hadmits (.detect _ _ _ h.tells)).quiet (.fail _)

theorem linkEvidence_ingests (item : Id) {candidate : IncidentCandidate}
    (found : Id × SecurityIncident) :
    ⦃fun v => ⌜Loaded admits start article story candidate found v⌝⦄
      linkEvidence item article found.1 candidate
      ⦃post⟨fun _ v => ⌜Loaded admits start article story candidate found v⌝,
        fun _ v => ⌜Ingestion admits start v⌝⟩⦄ := by
  mvcgen [linkEvidence, Work.look, Work.add]
  · next h _ _ => exact h.chain
  · next h _ _ _ _ =>
    exact ⟨⟨h.chain.quiet (.add _ _ rfl), h.tells⟩, h.row, h.key, h.family⟩

theorem corroborate_ingests {candidate : IncidentCandidate}
    (hadmits : admits (.incident story candidate)) (found : Id × SecurityIncident) :
    ⦃fun v => ⌜Loaded admits start article story candidate found v⌝⦄
      corroborate found.1 found.2 candidate
      ⦃post⟨fun _ v => ⌜Reached admits start article story v⌝,
        fun _ v => ⌜Ingestion admits start v⌝⟩⦄ := by
  mvcgen [corroborate, Work.assign, Work.add]
  · next v h _ hchanged _ =>
    have hmove : Ingests (.incident story candidate) v _ :=
      Ingests.corroborate h.row h.key h.family
    rw [announcement, if_pos hchanged] at hmove
    exact ⟨h.chain.made hadmits hmove, h.tells⟩
  · next v h _ hsame =>
    have hmove : Ingests (.incident story candidate) v _ :=
      Ingests.corroborate h.row h.key h.family
    rw [announcement, if_neg hsame, List.append_nil] at hmove
    exact ⟨h.chain.made hadmits hmove, h.tells⟩

theorem upsertIncidents_ingests (source item : Id) :
    ∀ {candidates : List IncidentCandidate},
      (∀ candidate ∈ candidates, admits (.incident story candidate)) →
      ⦃fun v => ⌜Reached admits start article story v⌝⦄
        upsertIncidents source item article candidates
        ⦃post⟨fun _ v => ⌜Ingestion admits start v⌝, fun _ v => ⌜Ingestion admits start v⌝⟩⦄
  | [], _ => by
    mvcgen [upsertIncidents]
    exact ‹Reached _ _ _ _ _›.chain
  | candidate :: rest, hadmits => by
    have hcandidate := hadmits candidate List.mem_cons_self
    have hfound := @foundIncident_ingests admits start article story source item candidate
      hcandidate
    have hlink := @linkEvidence_ingests admits start article story item candidate
    have hcorroborate := @corroborate_ingests admits start article story candidate hcandidate
    have hrest := upsertIncidents_ingests source item
      fun other hother => hadmits other (List.mem_cons_of_mem candidate hother)
    mvcgen [upsertIncidents, upsertIncident, hfound, hlink, hcorroborate, hrest]

variable [Casing] {tools : IncidentTools}

/-- The causes that an item gives: its article, and the incidents it reports. -/
def PendingItem.causes (tools : IncidentTools) (pending : PendingItem) : Cause → Prop
  | .upkeep => False
  | .article story => pending.article tools = .ok story
  | .incident story candidate => pending.article tools = .ok story ∧
      ∃ candidates, pending.incidents tools story = .ok candidates ∧ candidate ∈ candidates

theorem parseItem_ingests {pending : PendingItem}
    (hadmits : ∀ cause, pending.causes tools cause → admits cause) :
    ⦃fun v => ⌜Ingestion admits start v⌝⦄ parseItem tools pending
      ⦃post⟨fun _ v => ⌜Ingestion admits start v⌝, fun _ v => ⌜Ingestion admits start v⌝⟩⦄ := by
  unfold parseItem
  cases hbuilt : pending.article tools with
  | error e => mvcgen [Work.ofExcept]
  | ok story =>
    have harticle := fun source item => @upsertArticle_ingests admits start source item story
      (hadmits (.article story) hbuilt)
    cases hnamed : pending.incidents tools story with
    | error e =>
      mvcgen [Work.ofExcept, harticle, hnamed]
      exact ‹_ ∧ _›.1
    | ok candidates =>
      have hincidents := fun article => @upsertIncidents_ingests admits start article story
        pending.item.sourceDefinitionId pending.id candidates
        fun candidate hmem => hadmits _ ⟨hbuilt, candidates, hnamed, hmem⟩
      mvcgen [Work.ofExcept, harticle, hincidents, hnamed, Work.assign]
      · next h => exact ⟨h.1, h.2⟩
      · next h _ => exact h.quiet (.assign rfl (mem_of_settled fun _ => nofun) rfl rfl rfl rfl)

theorem parseRound_ingests {pending : PendingItem}
    (hadmits : ∀ cause, pending.causes tools cause → admits cause)
    (h : Ingestion admits start w) : Ingestion admits start (parseRound tools w pending) := by
  refine Work.recover_keeps (Work.left_of_triple h (parseItem_ingests hadmits)) ?_
  intro e v hv
  exact hv.quiet (Ingests.assign rfl (mem_of_settled fun _ => nofun) rfl rfl rfl rfl)

theorem parseRounds_ingests {items : List PendingItem}
    (hadmits : ∀ pending ∈ items, ∀ cause, pending.causes tools cause → admits cause)
    (h : Ingestion admits start w) :
    Ingestion admits start (items.foldl (parseRound tools) w) := by
  induction items generalizing w with
  | nil => exact h
  | cons pending rest ih =>
    refine ih (fun other hother => hadmits other (List.mem_cons_of_mem pending hother)) ?_
    exact parseRound_ingests (hadmits pending List.mem_cons_self) h

end Steps

variable [Casing]

/-- The causes that the pending items of a store give. -/
def IncidentStore.causes (tools : IncidentTools) (s : IncidentStore)
    (sourceDefinitionId : Option Id) (cause : Cause) : Prop :=
  ∃ pending ∈ s.pendingItems sourceDefinitionId, pending.causes tools cause

/-- The candidates that the pending items of a store report. -/
def IncidentStore.reports (tools : IncidentTools) (s : IncidentStore)
    (sourceDefinitionId : Option Id) (candidate : IncidentCandidate) : Prop :=
  ∃ story, s.causes tools sourceDefinitionId (.incident story candidate)

/-- A call of the parser commits nothing, or what an ingestion of the pending
items leaves when everything is flushed. -/
theorem parsePendingItems_cases (tools : IncidentTools) (sourceDefinitionId : Option Id)
    (world : IncidentWorld) :
    parsePendingItems tools sourceDefinitionId world = world ∨
      ∃ w : IncidentWork,
        Ingestion (world.store.causes tools sourceDefinitionId) (Work.start world.store) w ∧
        w.pending = [] ∧ w.rows.constraintsOk = true ∧
        parsePendingItems tools sourceDefinitionId world = { world with store := w.rows } := by
  have hrounds : Ingestion (world.store.causes tools sourceDefinitionId)
      (Work.start world.store)
      ((world.store.pendingItems sourceDefinitionId).foldl (parseRound tools)
        (Work.start world.store)) :=
    parseRounds_ingests (fun pending hpending _ hcause => ⟨pending, hpending, hcause⟩)
      (Chain.refl _)
  obtain hsame | ⟨hsound, hvalid, hstored⟩ := Work.commit_cases schema world
    ((world.store.pendingItems sourceDefinitionId).foldl (parseRound tools)
      (Work.start world.store))
  · exact Or.inl hsame
  · exact Or.inr ⟨_, hrounds.quiet (.flush hsound hvalid), rfl, hvalid, hstored⟩

end GhostRecon.Incidents
