import GhostRecon.Incidents.Evidence

/-!
What a revert is worth. It resets status and method of an incident and leaves
the families in place, so coverage by a family that was counted before may
corroborate the incident again. The result says for which reverted incidents
it takes new evidence, over every later run of fetches and parses.
-/

namespace GhostRecon.Incidents

open Lib (Id Table Work Chain run)

section Reverts

/-- Where an incident stands after an analyst's revert, with the families it had
then and the events that were out. A candidate stays one while its evidence
is not enough, or as long as a second announcement of the same corroboration
would be refused. -/
inductive Standing (reported : IncidentCandidate → Prop) (incident : Id)
    (families : List String) (before : Table IncidentEventKey) (row : SecurityIncident)
    (outbox : Table IncidentEventKey) : Prop where
  | renewed (candidate : IncidentCandidate) (hreported : reported candidate)
      (hnew : candidate.evidenceFamilyKey ∉ families)
      (hmem : candidate.evidenceFamilyKey ∈ row.evidenceFamilies)
  | disclosed (candidate : IncidentCandidate) (hreported : reported candidate)
      (hauthoritative : candidate.authoritative = true)
      (hannounced : before.count (.corroborated incident .authoritativeDisclosure) <
        outbox.count (.corroborated incident .authoritativeDisclosure))
  | candidate (hstatus : row.status = .candidate)
      (hfamilies : ∀ f ∈ row.evidenceFamilies, f ∈ families)
      (hheld : (∀ f ∈ families, ∀ g ∈ families, f = g) ∨
        .corroborated incident .independentSources ∈ outbox)
  | refused (htwice : 2 ≤ outbox.count (.corroborated incident .independentSources))

variable {reported : IncidentCandidate → Prop} {incident : Id} {families : List String}
  {before outbox : Table IncidentEventKey} {row : SecurityIncident}

/-- More events and a row that differs in nothing counted keep the standing. -/
theorem Standing.append (h : Standing reported incident families before row outbox)
    (events : List IncidentEventKey) :
    Standing reported incident families before row (outbox ++ events) := by
  cases h with
  | renewed candidate hreported hnew hmem => exact .renewed candidate hreported hnew hmem
  | disclosed candidate hreported hauthoritative hannounced =>
    refine .disclosed candidate hreported hauthoritative ?_
    rw [List.count_append]
    omega
  | candidate hstatus hfamilies hheld =>
    exact .candidate hstatus hfamilies (hheld.imp_right (List.mem_append_left _))
  | refused htwice =>
    refine .refused ?_
    rw [List.count_append]
    omega

theorem Standing.merge (h : Standing reported incident families before row outbox)
    {candidate : IncidentCandidate} (hreported : reported candidate) (item article : Id) :
    Standing reported incident families before (row.merge item article candidate) outbox := by
  cases h with
  | renewed known hknown hnew hmem =>
    exact .renewed known hknown hnew (mem_appendUnique.mpr (Or.inl hmem))
  | disclosed known hknown hauthoritative hannounced =>
    exact .disclosed known hknown hauthoritative hannounced
  | candidate hstatus hfamilies hheld =>
    by_cases hold : candidate.evidenceFamilyKey ∈ families
    · refine .candidate hstatus ?_ hheld
      intro f hf
      obtain hstored | rfl := mem_appendUnique.mp hf
      · exact hfamilies f hstored
      · exact hold
    · exact .renewed candidate hreported hold (mem_appendUnique.mpr (Or.inr rfl))
  | refused htwice => exact .refused htwice

/-- The announcement of a candidate that becomes corroborated. -/
theorem announcement_of_change {candidate : IncidentCandidate} {method : CorroborationMethod}
    (hstatus : row.status = .candidate)
    (happlied : row.applyCorroboration candidate =
      { row with status := .corroborated, corroborationMethod := method }) :
    (announcement incident row candidate).filterMap NewRow.event? =
      [.corroborated incident method] := by
  unfold announcement
  rw [happlied, if_pos ⟨by rw [hstatus]; decide, rfl⟩]
  rfl

/-- A candidate that the corroboration rules change was disclosed, or its
announcement is one too many. -/
theorem Standing.applyCorroboration
    (h : Standing reported incident families before row outbox)
    {candidate : IncidentCandidate} (hreported : reported candidate)
    (hgrown : ∀ event, before.count event ≤ outbox.count event) :
    Standing reported incident families before (row.applyCorroboration candidate)
      (outbox ++ (announcement incident row candidate).filterMap NewRow.event?) := by
  obtain hsame | ⟨-, hauthoritative, happlied⟩ | ⟨-, -, htwo, happlied⟩ :=
    row.applyCorroboration_cases candidate
  · rw [hsame]
    exact h.append _
  · cases h with
    | renewed known hknown hnew hmem =>
      exact .renewed known hknown hnew (by rw [happlied]; exact hmem)
    | disclosed known hknown hauthoritative hannounced =>
      exact (Standing.disclosed known hknown hauthoritative hannounced).append _
    | candidate hstatus hfamilies hheld =>
      refine .disclosed candidate hreported hauthoritative ?_
      rw [announcement_of_change hstatus happlied, List.count_append, List.count_singleton_self]
      have := hgrown (.corroborated incident .authoritativeDisclosure)
      omega
    | refused htwice => exact (Standing.refused htwice).append _
  · cases h with
    | renewed known hknown hnew hmem =>
      exact .renewed known hknown hnew (by rw [happlied]; exact hmem)
    | disclosed known hknown hauthoritative hannounced =>
      exact (Standing.disclosed known hknown hauthoritative hannounced).append _
    | candidate hstatus hfamilies hheld =>
      obtain ⟨f, hf, g, hg, hne⟩ := SecurityIncident.twoFamilies_iff.mp htwo
      obtain hone | hout := hheld
      · exact absurd (hone f (hfamilies f hf) g (hfamilies g hg)) hne
      · refine .refused ?_
        rw [announcement_of_change hstatus happlied, List.count_append,
          List.count_singleton_self]
        have := List.count_pos_iff.mpr hout
        omega
    | refused htwice => exact (Standing.refused htwice).append _

/-- A stored incident and its standing. -/
def Watched (reported : IncidentCandidate → Prop) (incident : Id) (dedupeKey : String)
    (families : List String) (before : Table IncidentEventKey)
    (incidents : Table SecurityIncident) (outbox : Table IncidentEventKey) : Prop :=
  (∀ event, before.count event ≤ outbox.count event) ∧
    ∃ row, incidents[incident]? = some row ∧ row.dedupeKey = dedupeKey ∧
      Standing reported incident families before row outbox

variable {dedupeKey : String} {incidents : Table SecurityIncident}

theorem Watched.append (h : Watched reported incident dedupeKey families before incidents outbox)
    (added : List SecurityIncident) (events : List IncidentEventKey) :
    Watched reported incident dedupeKey families before (incidents ++ added)
      (outbox ++ events) := by
  obtain ⟨hgrown, row, hrow, hkey, hstanding⟩ := h
  refine ⟨?_, row, ?_, hkey, hstanding.append events⟩
  · intro event
    have := hgrown event
    rw [List.count_append]
    omega
  · rw [List.getElem?_append_left (List.getElem?_eq_some_iff.mp hrow).1]
    exact hrow

/-- Coverage of one incident, with the events it adds, keeps the watched one. -/
theorem Watched.set (h : Watched reported incident dedupeKey families before incidents outbox)
    {other : Id} {stored : SecurityIncident} (changed : SecurityIncident)
    (events : List IncidentEventKey)
    (hstored : incidents[other]? = some stored) (hkey : changed.dedupeKey = stored.dedupeKey)
    (hchanged : other = incident → stored.dedupeKey = dedupeKey →
      Standing reported incident families before stored outbox →
      Standing reported incident families before changed (outbox ++ events)) :
    Watched reported incident dedupeKey families before (incidents.set other changed)
      (outbox ++ events) := by
  obtain ⟨hgrown, row, hrow, hrowKey, hstanding⟩ := h
  refine ⟨?_, ?_⟩
  · intro event
    have := hgrown event
    rw [List.count_append]
    omega
  · by_cases hother : other = incident
    · subst hother
      obtain rfl : stored = row := Option.some.inj (hstored.symm.trans hrow)
      exact ⟨changed, List.getElem?_set_self (List.getElem?_eq_some_iff.mp hstored).1,
        hkey.trans hrowKey, hchanged rfl hrowKey hstanding⟩
    · exact ⟨row, (List.getElem?_set_ne hother).trans hrow, hrowKey, hstanding.append events⟩

/-- Ingestion keeps the standing of a watched incident, counting the rows that
still wait for a flush. -/
theorem Ingestion.watched {admits : Cause → Prop} {s : IncidentStore} {w : IncidentWork}
    (h : Ingestion admits (Work.start s) w)
    (hreported : ∀ story candidate, admits (.incident story candidate) →
      candidate.dedupeKey = dedupeKey → reported candidate)
    (hs : Watched reported incident dedupeKey families before s.incidents s.outbox) :
    Watched reported incident dedupeKey families before (w.flushed schema).incidents
      (w.flushed schema).outbox := by
  refine Chain.keeps (I := fun w : IncidentWork =>
    Watched reported incident dedupeKey families before (w.flushed schema).incidents
      (w.flushed schema).outbox) ?_ h hs
  intro cause v v' hcause hmove hv
  rw [(flushed_tables v).1, (flushed_tables v).2.2.1] at hv
  rw [(flushed_tables v').1, (flushed_tables v').2.2.1]
  cases hmove with
  | assign _ _ _ hincidents _ houtbox =>
    rw [hincidents, houtbox]
    exact hv
  | add row _ _ =>
    rw [List.filterMap_append, List.filterMap_append, ← List.append_assoc, ← List.append_assoc]
    exact hv.append _ _
  | publish source item candidate _ =>
    rw [List.filterMap_append, List.filterMap_append, ← List.append_assoc, ← List.append_assoc]
    exact hv.append _ _
  | detect source item candidate _ =>
    rw [List.filterMap_append, List.filterMap_append, ← List.append_assoc, ← List.append_assoc]
    exact hv.append _ _
  | @merge other article row story candidate _ item _ hrow hkey =>
    have hlt := (List.getElem?_eq_some_iff.mp hrow).1
    have hstored := Table.get_of_prefix
      (List.prefix_append _ (v.pending.filterMap NewRow.incident?)) other row hrow
    have hset := hv.set (row.merge item article candidate) [] hstored rfl
      fun _ hwatched hstanding => (hstanding.append []).merge
        (hreported story candidate (hcause.resolve_left nofun) (hkey.symm.trans hwatched)) _ _
    rw [List.append_nil, List.set_append_left _ _ hlt] at hset
    exact hset
  | @corroborate other row story candidate _ hrow hkey _ =>
    have hlt := (List.getElem?_eq_some_iff.mp hrow).1
    have hstored := Table.get_of_prefix
      (List.prefix_append _ (v.pending.filterMap NewRow.incident?)) other row hrow
    have hset := hv.set (row.applyCorroboration candidate)
      ((announcement other row candidate).filterMap NewRow.event?) hstored ?_ ?_
    · rw [List.set_append_left _ _ hlt, List.append_assoc] at hset
      rw [List.filterMap_append, announcement_incidents, List.append_nil,
        List.filterMap_append]
      exact hset
    · obtain hsame | ⟨-, -, happlied⟩ | ⟨-, -, -, happlied⟩ :=
        row.applyCorroboration_cases candidate
      · rw [hsame]
      · rw [happlied]
      · rw [happlied]
    · rintro rfl hwatched hstanding
      exact hstanding.applyCorroboration (hreported story candidate (hcause.resolve_left nofun)
        (hkey.symm.trans hwatched)) hv.1
  | flush _ _ =>
    rw [(flushed_tables v).1, (flushed_tables v).2.2.1]
    simpa using hv
  | fail _ => exact hv

/-- A store the database accepted holds every event once. -/
theorem outbox_count_le_one {s : IncidentStore} (h : s.constraintsOk = true)
    (event : IncidentEventKey) : s.outbox.count event ≤ 1 := by
  simp only [IncidentStore.constraintsOk, IncidentStore.keysOk, Bool.and_eq_true] at h
  have hnodup := Table.uniqueOn_iff.mp h.1.2
  rw [List.filterMap_some] at hnodup
  exact List.nodup_iff_count_le_one.mp hnodup event

variable [Casing]

/-- The candidates for an incident in some reports. -/
def ReportedFor (reports : List Report) (dedupeKey : String) (candidate : IncidentCandidate) :
    Prop :=
  candidate.dedupeKey = dedupeKey ∧ ∃ report ∈ reports, candidate ∈ report.2

/-- A run of fetches and parses keeps the standing of a stored incident, and
announces nothing twice. -/
theorem run_watched {tools : IncidentTools} {w : IncidentWorld} {actions : List IncidentAction}
    (hingests : ∀ action ∈ actions, action.ingests = true)
    (hstart : Watched (ReportedFor (runReports tools w actions) dedupeKey) incident dedupeKey
      families before w.store.incidents w.store.outbox)
    (honce : ∀ event, w.store.outbox.count event ≤ 1) :
    Watched (ReportedFor (runReports tools w actions) dedupeKey) incident dedupeKey families
      before (run (step tools) w actions).store.incidents
      (run (step tools) w actions).store.outbox ∧
      ∀ event, (run (step tools) w actions).store.outbox.count event ≤ 1 := by
  refine ingestion_run_keeps (I := fun s : IncidentStore =>
    Watched (ReportedFor (runReports tools w actions) dedupeKey) incident dedupeKey families
      before s.incidents s.outbox ∧ ∀ event, s.outbox.count event ≤ 1)
    hingests (fun _ _ h => h) ?_ ⟨hstart, honce⟩
  intro s v hs hv hpending hvalid
  refine ⟨?_, outbox_count_le_one hvalid⟩
  have hflushed := hv.watched (fun story candidate hadmits hkey => ?_) hs.1
  · rw [(flushed_tables v).1, (flushed_tables v).2.2.1, hpending, List.filterMap_nil,
      List.filterMap_nil, List.append_nil, List.append_nil] at hflushed
    exact hflushed
  · obtain ⟨report, hreport, -, hmem⟩ := hadmits
    exact ⟨hkey, report, hreport, hmem⟩

/-- A revert that changes the row of an incident leaves the reverted row, in a
store the database accepted. -/
theorem revert_changes {tools : IncidentTools} {w : IncidentWorld}
    {request : IncidentDecisionRequest} {actor key : String} {row reverted : SecurityIncident}
    (hrow : w.store.incidents[incident]? = some row)
    (hreverted : (step tools w (.revert incident request actor key)).store.incidents[incident]? =
      some reverted) (hchanged : reverted ≠ row) :
    reverted = revertRule.applied request w.store.decisions.length row ∧
      (step tools w (.revert incident request actor key)).store.outbox =
        w.store.outbox ++ [.revertedBy w.store.decisions.length] ∧
      (step tools w (.revert incident request actor key)).store.constraintsOk = true := by
  have hcases := @Lib.after_sessionScope_cases _ _ _ _ IncidentStore.constraintsOk
    .integrityError _ w _ (decisionBody_returns revertRule incident request actor key w)
  have hsame : ∀ v : IncidentWorld, v.store = w.store →
      v.store.incidents[incident]? = some reverted → False := by
    intro v hstore hv
    rw [hstore, hrow, Option.some.injEq] at hv
    exact hchanged hv.symm
  rcases hcases with hstore | ⟨_, hstore | ⟨_, _, _, _, hstore⟩, hvalid⟩
  · exact (hsame _ hstore hreverted).elim
  · exact (hsame _ hstore hreverted).elim
  · have hafter : (step tools w (.revert incident request actor key)).store =
        decided revertRule incident request actor key w.store := hstore
    refine ⟨?_, ?_, hvalid⟩
    · rw [hafter, decided_incidents, List.getElem?_modify_eq, hrow, Option.map_eq_map,
        Option.map_some, Option.some.injEq] at hreverted
      exact hreverted.symm
    · rw [hafter]
      rfl

/-- After a revert of an incident with one family, or one that ingestion has
announced as corroborated by independent sources before, every later run of
fetches and parses that corroborates the incident again has ingested an
authoritative candidate, and announced it, or added a new family. -/
theorem recorroborated_by_new_evidence (tools : IncidentTools) (w : IncidentWorld)
    (incident : Id) (request : IncidentDecisionRequest) (actor key : String)
    (row reverted last : SecurityIncident) (actions : List IncidentAction)
    (hrow : w.store.incidents[incident]? = some row)
    (hreverted : (step tools w (.revert incident request actor key)).store.incidents[incident]? =
      some reverted)
    (hstatus : row.status = .corroborated ∧ reverted.status = .candidate)
    (hheld : row.twoFamilies = false ∨
      .corroborated incident .independentSources ∈ w.store.outbox)
    (hingests : ∀ action ∈ actions, action.ingests = true)
    (hlast : (run (step tools) (step tools w (.revert incident request actor key))
      actions).store.incidents[incident]? = some last)
    (hagain : last.status = .corroborated) :
    ∃ report ∈ runReports tools (step tools w (.revert incident request actor key)) actions,
      ∃ candidate ∈ report.2, candidate.dedupeKey = row.dedupeKey ∧
        ((candidate.authoritative = true ∧
            .corroborated incident .authoritativeDisclosure ∉ w.store.outbox ∧
            .corroborated incident .authoritativeDisclosure ∈
              (run (step tools) (step tools w (.revert incident request actor key))
                actions).store.outbox) ∨
          (candidate.evidenceFamilyKey ∉ row.evidenceFamilies ∧
            candidate.evidenceFamilyKey ∈ last.evidenceFamilies)) := by
  obtain ⟨happlied, houtbox, hvalid⟩ := revert_changes hrow hreverted
    (fun h => by rw [h, hstatus.1] at hstatus; exact absurd hstatus.2 (by decide))
  have hfamilies : reverted.evidenceFamilies = row.evidenceFamilies := by
    rw [happlied]
    rfl
  have hkey : reverted.dedupeKey = row.dedupeKey := by
    rw [happlied]
    rfl
  have hstart : Watched (ReportedFor (runReports tools (step tools w
      (.revert incident request actor key)) actions) row.dedupeKey) incident row.dedupeKey
      row.evidenceFamilies (step tools w (.revert incident request actor key)).store.outbox
      (step tools w (.revert incident request actor key)).store.incidents
      (step tools w (.revert incident request actor key)).store.outbox := by
    refine ⟨fun _ => le_rfl, reverted, hreverted, hkey, .candidate hstatus.2 ?_ ?_⟩
    · rw [hfamilies]
      exact fun _ hf => hf
    · refine hheld.imp ?_ ?_
      · intro hone f hf g hg
        by_contra hne
        rw [SecurityIncident.twoFamilies_iff.mpr ⟨f, hf, g, hg, hne⟩] at hone
        cases hone
      · intro hout
        rw [houtbox]
        exact List.mem_append_left _ hout
  obtain ⟨⟨-, found, hfound, -, hstanding⟩, honce⟩ :=
    run_watched hingests hstart (outbox_count_le_one hvalid)
  obtain rfl : found = last := Option.some.inj (hfound.symm.trans hlast)
  cases hstanding with
  | renewed candidate hreported hnew hmem =>
    obtain ⟨hcandidate, report, hreport, hcandidates⟩ := hreported
    exact ⟨report, hreport, candidate, hcandidates, hcandidate, Or.inr ⟨hnew, hmem⟩⟩
  | disclosed candidate hreported hauthoritative hannounced =>
    obtain ⟨hcandidate, report, hreport, hcandidates⟩ := hreported
    refine ⟨report, hreport, candidate, hcandidates, hcandidate,
      Or.inl ⟨hauthoritative, ?_, List.count_pos_iff.mp (by omega)⟩⟩
    intro hout
    have hbefore : .corroborated incident .authoritativeDisclosure ∈
        (step tools w (.revert incident request actor key)).store.outbox := by
      rw [houtbox]
      exact List.mem_append_left _ hout
    have hpos := List.count_pos_iff.mpr hbefore
    have hle := honce (.corroborated incident .authoritativeDisclosure)
    omega
  | candidate hcandidate _ _ =>
    rw [hcandidate] at hagain
    cases hagain
  | refused htwice =>
    have hle := honce (.corroborated incident .independentSources)
    omega

end Reverts

/-- The incident after an analyst corroborated it and a second outlet reported it. -/
def coveredTwice : SecurityIncident :=
  { sampleIncident with
    status := .corroborated
    corroborationMethod := .independentSources
    analystDecisionRef := some 0
    evidenceFamilies := ["alpha-example", "beta-example"]
    evidenceUrls := ["https://alpha.example/breach", "https://beta.example/breach"]
    version := 2 }

/-- What leads to it, the analyst's revert, and an update by the first outlet. -/
def reviewed : List IncidentAction :=
  [.corroborate 0 (sampleRequest 1) "analyst" "k1",
    .fetch (story "https://beta.example/breach"), .parse none]

def revertReview : IncidentAction :=
  .revert 0 (sampleRequest 2) "analyst" "k2"

def laterUpdate : List IncidentAction :=
  [.fetch (story "https://alpha.example/update"), .parse none]

/-- The reverted incident, and the incident after the update. -/
def revertedRow : SecurityIncident :=
  { coveredTwice with
    status := .candidate
    corroborationMethod := .none
    analystDecisionRef := some 1
    version := 3 }

def updatedRow : SecurityIncident :=
  { revertedRow with
    status := .corroborated
    corroborationMethod := .independentSources
    evidenceArticleIds := [0, 1]
    evidenceSourceItemIds := [0, 1]
    sourceItemIds := [0, 1]
    evidenceUrls := ["https://alpha.example/breach", "https://beta.example/breach",
      "https://alpha.example/update"] }

theorem review_rows :
    ((run (step sampleTools) (worldWith sampleIncident) reviewed).store.incidents[0]? =
        some coveredTwice ∧
      (run (step sampleTools) (worldWith sampleIncident)
        (reviewed ++ [revertReview])).store.items.map (·.parseStatus) = [.parsed]) ∧
      (run (step sampleTools) (worldWith sampleIncident)
        (reviewed ++ [revertReview])).store.incidents[0]? = some revertedRow ∧
      (run (step sampleTools) (worldWith sampleIncident)
        (reviewed ++ [revertReview] ++ laterUpdate)).store.incidents[0]? = some updatedRow := by
  rw [sample_run_eq rfl ["https://beta.example/breach"] rfl (by simp),
    sample_run_eq rfl ["https://beta.example/breach"] rfl (by simp),
    sample_run_eq rfl ["https://beta.example/breach", "https://alpha.example/update"] rfl
      (by simp)]
  decide +kernel

/-- An analyst corroborates an incident, a second outlet reports it, the analyst
reverts it, and an update by the first outlet corroborates it again. -/
theorem known_outlet_recorroborates :
    ¬ (∀ (tools : IncidentTools) (w : IncidentWorld) (incident : Id)
        (request : IncidentDecisionRequest) (actor key : String)
        (row reverted last : SecurityIncident) (actions : List IncidentAction),
        w.store.incidents[incident]? = some row →
        (step tools w (.revert incident request actor key)).store.incidents[incident]? =
          some reverted →
        row.status = .corroborated ∧ reverted.status = .candidate →
        (∀ action ∈ actions, action.ingests = true) →
        (run (step tools) (step tools w (.revert incident request actor key))
          actions).store.incidents[incident]? = some last →
        last.status = .corroborated →
        ∃ report ∈ runReports tools (step tools w (.revert incident request actor key)) actions,
          ∃ candidate ∈ report.2, candidate.dedupeKey = row.dedupeKey ∧
            (candidate.authoritative = true ∨
              candidate.evidenceFamilyKey ∉ row.evidenceFamilies)) := by
  intro hall
  have hlater := hall sampleTools (run (step sampleTools) (worldWith sampleIncident) reviewed) 0
    (sampleRequest 2) "analyst" "k2" coveredTwice revertedRow updatedRow laterUpdate
  obtain ⟨⟨hrow, hparsed⟩, hreverted, hlast⟩ := review_rows
  rw [Lib.run_append] at hlast
  have hstep : step sampleTools (run (step sampleTools) (worldWith sampleIncident) reviewed)
      (.revert 0 (sampleRequest 2) "analyst" "k2") =
      run (step sampleTools) (worldWith sampleIncident) (reviewed ++ [revertReview]) := by
    rw [Lib.run_append, Lib.run_cons, Lib.run_nil, revertReview]
  rw [hstep] at hlater
  have hitems : ingestedItems (run (step sampleTools) (worldWith sampleIncident)
      (reviewed ++ [revertReview])) laterUpdate = ["https://alpha.example/update"].map story := by
    rw [ingestedItems, List.filter_eq_nil_iff.mpr]
    · rfl
    · intro item hitem
      have hmem := List.mem_map_of_mem (f := NewsItem.parseStatus) hitem
      rw [hparsed, List.mem_singleton] at hmem
      simp [hmem]
  rw [story_reports (run_sources sampleTools _ _) _ hitems (by simp)] at hlater
  have hnone := hlater hrow hreverted ⟨rfl, rfl⟩ (by decide) hlast rfl
  revert hnone
  decide

/-- An incident of one family that an analyst corroborated. -/
def analystCorroborated : SecurityIncident :=
  { sampleIncident with
    status := .corroborated
    corroborationMethod := .analystDecision }

def secondOutlet : List IncidentAction :=
  [.fetch (story "https://beta.example/breach"), .parse none]

/-- After the revert of an incident with one family, a second outlet corroborates
it again. -/
theorem second_outlet_recorroborates :
    ∃ report ∈ runReports sampleTools (step sampleTools (worldWith analystCorroborated)
        (.revert 0 (sampleRequest 1) "analyst" "k2")) secondOutlet,
      ∃ candidate ∈ report.2, candidate.dedupeKey = storyKey := by
  have hlast : (run (step sampleTools) (step sampleTools (worldWith analystCorroborated)
      (.revert 0 (sampleRequest 1) "analyst" "k2")) secondOutlet).store.incidents[0]? =
      some { coveredTwice with
        analystDecisionRef := some 0
        evidenceSourceItemIds := [0]
        version := 2 } := by
    rw [← Lib.run_cons, sample_run_eq rfl ["https://beta.example/breach"] rfl (by simp)]
    decide +kernel
  obtain ⟨report, hreport, candidate, hcandidate, hkey, -⟩ :=
    recorroborated_by_new_evidence sampleTools (worldWith analystCorroborated) 0
      (sampleRequest 1) "analyst" "k2" analystCorroborated
      { sampleIncident with analystDecisionRef := some 0, version := 2 } _ secondOutlet rfl
      (by decide +kernel) ⟨rfl, rfl⟩ (Or.inl (by decide)) (by decide) hlast rfl
  exact ⟨report, hreport, candidate, hcandidate, hkey⟩

end GhostRecon.Incidents
