import GhostRecon.Incidents.Lifecycle

/-!
Status, method and version of an incident along a run. The documented diagram
of the statuses is one relation; the code follows it in every run in which no
rejected incident is corroborated by an analyst and no candidate is promoted.
Status and method agree unless a candidate is promoted or a corroborated
incident is rejected, and the version tells every change apart unless
ingestion corroborates a stored incident.
-/

namespace GhostRecon.Incidents

open Lib (Id Table Chain after Admissible run)

/-- Two different families are among the evidence. -/
theorem SecurityIncident.twoFamilies_iff {row : SecurityIncident} :
    row.twoFamilies = true ↔
      ∃ a ∈ row.evidenceFamilies, ∃ b ∈ row.evidenceFamilies, a ≠ b := by
  unfold SecurityIncident.twoFamilies
  rw [decide_eq_true_iff, ← List.card_toFinset]
  have hcard : 2 ≤ row.evidenceFamilies.toFinset.card ↔
      1 < row.evidenceFamilies.toFinset.card := Iff.rfl
  rw [hcard, Finset.one_lt_card]
  simp

theorem SecurityIncident.merge_twoFamilies {row : SecurityIncident} {item article : Id}
    {candidate : IncidentCandidate} (h : row.twoFamilies = true) :
    (row.merge item article candidate).twoFamilies = true := by
  rw [SecurityIncident.twoFamilies_iff] at h ⊢
  obtain ⟨a, ha, b, hb, hne⟩ := h
  exact ⟨a, mem_appendUnique.mpr (Or.inl ha), b, mem_appendUnique.mpr (Or.inl hb), hne⟩

/-- What the corroboration rules do to a row. -/
theorem SecurityIncident.applyCorroboration_cases (row : SecurityIncident)
    (candidate : IncidentCandidate) :
    row.applyCorroboration candidate = row ∨
      (row.status ≠ .rejected ∧ candidate.authoritative = true ∧
        row.applyCorroboration candidate =
          { row with status := .corroborated, corroborationMethod := .authoritativeDisclosure }) ∨
      (row.status ≠ .rejected ∧ candidate.authoritative = false ∧ row.twoFamilies = true ∧
        row.applyCorroboration candidate =
          { row with status := .corroborated, corroborationMethod := .independentSources }) := by
  unfold SecurityIncident.applyCorroboration
  by_cases hrejected : row.status = .rejected
  · exact Or.inl (if_pos hrejected)
  · rw [if_neg hrejected]
    cases hauthoritative : candidate.authoritative with
    | true => exact Or.inr (Or.inl ⟨hrejected, rfl, by simp⟩)
    | false =>
      cases hfamilies : row.twoFamilies with
      | true => exact Or.inr (Or.inr ⟨hrejected, rfl, rfl, by simp⟩)
      | false => exact Or.inl (by simp)

/-- Coverage leaves key and version alone. -/
theorem Covered.keeps_version {admits : IncidentCandidate → Prop} {row row' : SecurityIncident}
    (h : Covered admits row row') :
    row'.dedupeKey = row.dedupeKey ∧ row'.version = row.version := by
  refine Chain.keeps (I := fun r : SecurityIncident =>
    r.dedupeKey = row.dedupeKey ∧ r.version = row.version) ?_ h ⟨rfl, rfl⟩
  intro candidate r r' _ hcovers hr
  cases hcovers with
  | merge item article _ => exact hr
  | corroborate _ _ =>
    obtain hsame | ⟨-, -, happlied⟩ | ⟨-, -, -, happlied⟩ := r.applyCorroboration_cases candidate
    · rw [hsame]
      exact hr
    · rw [happlied]
      exact hr
    · rw [happlied]
      exact hr

/-- Coverage corroborates a candidate on authoritative evidence or on two
families, and changes no other status. -/
theorem Covered.status {admits : IncidentCandidate → Prop} {row row' : SecurityIncident}
    (h : Covered admits row row') :
    row'.status = row.status ∨
      (row.status = .candidate ∧ row'.status = .corroborated ∧
        ((∃ candidate, admits candidate ∧ candidate.dedupeKey = row.dedupeKey ∧
          candidate.authoritative = true) ∨ row'.twoFamilies = true)) := by
  have hinvariant := Chain.keeps (I := fun r : SecurityIncident =>
    r.dedupeKey = row.dedupeKey ∧ (r.status = row.status ∨
      (row.status = .candidate ∧ r.status = .corroborated ∧
        ((∃ candidate, admits candidate ∧ candidate.dedupeKey = row.dedupeKey ∧
          candidate.authoritative = true) ∨ r.twoFamilies = true)))) ?_ h ⟨rfl, Or.inl rfl⟩
  · exact hinvariant.2
  intro candidate r r' hadmits hcovers hr
  obtain ⟨hkey, hstatus⟩ := hr
  cases hcovers with
  | merge item article _ =>
    refine ⟨hkey, hstatus.imp_right ?_⟩
    rintro ⟨hcandidate, hcorroborated, hevidence⟩
    exact ⟨hcandidate, hcorroborated, hevidence.imp_right SecurityIncident.merge_twoFamilies⟩
  | corroborate hrow _ =>
    obtain hsame | ⟨hrejected, hauthoritative, happlied⟩ | ⟨hrejected, -, hfamilies, happlied⟩ :=
      r.applyCorroboration_cases candidate
    · rw [hsame]
      exact ⟨hkey, hstatus⟩
    · rw [happlied]
      refine ⟨hkey, ?_⟩
      have hevidence : ∃ other, admits other ∧ other.dedupeKey = row.dedupeKey ∧
          other.authoritative = true := ⟨candidate, hadmits, hrow.symm.trans hkey, hauthoritative⟩
      cases hbefore : row.status with
      | candidate => exact Or.inr ⟨rfl, rfl, Or.inl hevidence⟩
      | corroborated => exact Or.inl rfl
      | rejected =>
        obtain hunchanged | ⟨hcandidate, -, -⟩ := hstatus
        · exact absurd (hunchanged.trans hbefore) hrejected
        · exact absurd (hcandidate.symm.trans hbefore) (by simp)
    · rw [happlied]
      refine ⟨hkey, ?_⟩
      cases hbefore : row.status with
      | candidate => exact Or.inr ⟨rfl, rfl, Or.inr hfamilies⟩
      | corroborated => exact Or.inl rfl
      | rejected =>
        obtain hunchanged | ⟨hcandidate, -, -⟩ := hstatus
        · exact absurd (hunchanged.trans hbefore) hrejected
        · exact absurd (hcandidate.symm.trans hbefore) (by simp)

section Diagram

variable [Casing]

/-- The documented diagram: what an action may do to the status of an
incident. -/
inductive Documented (tools : IncidentTools) (w : IncidentWorld) (incident : Id)
    (row row' : SecurityIncident) : IncidentAction → Prop where
  | unchanged (action : IncidentAction) (h : row'.status = row.status) :
      Documented tools w incident row row' action
  | authoritative {source : Option Id} {candidate : IncidentCandidate}
      (hbefore : row.status = .candidate) (hafter : row'.status = .corroborated)
      (hreports : w.store.reports tools source candidate)
      (hkey : candidate.dedupeKey = row.dedupeKey) (hevidence : candidate.authoritative = true) :
      Documented tools w incident row row' (.parse source)
  | families {source : Option Id} (hbefore : row.status = .candidate)
      (hafter : row'.status = .corroborated) (hevidence : row'.twoFamilies = true) :
      Documented tools w incident row row' (.parse source)
  | analyst {request : IncidentDecisionRequest} {actor key : String}
      (hbefore : row.status = .candidate) (hafter : row'.status = .corroborated)
      (hrecorded : Recorded .approved incident w.store
        (step tools w (.corroborate incident request actor key)).store) :
      Documented tools w incident row row' (.corroborate incident request actor key)
  | rejected {request : IncidentDecisionRequest} {actor key : String}
      (hbefore : row.status = .candidate ∨ row.status = .corroborated)
      (hafter : row'.status = .rejected) :
      Documented tools w incident row row' (.reject incident request actor key)
  | reverted {request : IncidentDecisionRequest} {actor key : String}
      (hbefore : row.status = .corroborated) (hafter : row'.status = .candidate) :
      Documented tools w incident row row' (.revert incident request actor key)

/-- The statuses of all stored incidents follow the diagram. -/
def StatusesDocumented (tools : IncidentTools) (w : IncidentWorld) (action : IncidentAction) :
    Prop :=
  ∀ (i : Id) (row row' : SecurityIncident), w.store.incidents[i]? = some row →
    (step tools w action).store.incidents[i]? = some row' →
    Documented tools w i row row' action

/-- The row that an action with this version acts on, if the version is
current, has the property. -/
def Addressed (w : IncidentWorld) (incident : Id) (version : Nat)
    (p : SecurityIncident → Prop) : Prop :=
  ∀ row, w.store.incidents[incident]? = some row → row.version = version → p row

/-- No analyst corroborates a rejected incident and no candidate is promoted. -/
def KeepsDiagram (w : IncidentWorld) : IncidentAction → Prop
  | .corroborate incident request _ _ =>
    Addressed w incident request.version (·.status ≠ .rejected)
  | .promote incident version _ _ => Addressed w incident version (·.status ≠ .candidate)
  | _ => True

omit [Casing] in
@[simp] theorem DecisionRule.applied_status (rule : DecisionRule)
    (request : IncidentDecisionRequest) (decision : Id) (row : SecurityIncident) :
    (rule.applied request decision row).status = rule.status := by
  unfold DecisionRule.applied
  split <;> rfl

omit [Casing] in
@[simp] theorem DecisionRule.applied_method (rule : DecisionRule)
    (request : IncidentDecisionRequest) (decision : Id) (row : SecurityIncident) :
    (rule.applied request decision row).corroborationMethod =
      (rule.method request).getD row.corroborationMethod := by
  unfold DecisionRule.applied
  split <;> rfl

omit [Casing] in
@[simp] theorem DecisionRule.applied_version (rule : DecisionRule)
    (request : IncidentDecisionRequest) (decision : Id) (row : SecurityIncident) :
    (rule.applied request decision row).version = row.version + 1 := by
  unfold DecisionRule.applied
  split <;> rfl

theorem step_documented {tools : IncidentTools} {w : IncidentWorld} {action : IncidentAction}
    (hok : KeepsDiagram w action) : StatusesDocumented tools w action := by
  intro i row row' hrow hrow'
  obtain ⟨touched, htouched, htouches⟩ := step_touches tools w action hrow
  obtain rfl : touched = row' := Option.some.inj (htouched.symm.trans hrow')
  cases htouches with
  | untouched _ => exact .unchanged _ rfl
  | covered hcovered =>
    obtain hsame | ⟨hbefore, hafter, ⟨candidate, hreports, hkey, hevidence⟩ | hevidence⟩ :=
      hcovered.status
    · exact .unchanged _ hsame
    · exact .authoritative hbefore hafter hreports hkey hevidence
    · exact .families hbefore hafter hevidence
  | corroborated hversion _ hrecorded =>
    have hopen : row.status ≠ .rejected := hok row hrow hversion
    cases hbefore : row.status with
    | candidate => exact .analyst hbefore (by simp [corroborateRule]) hrecorded
    | corroborated => exact .unchanged _ (by simp [corroborateRule, hbefore])
    | rejected => exact absurd hbefore hopen
  | rejected _ =>
    cases hbefore : row.status with
    | candidate => exact .rejected (Or.inl hbefore) (by simp [rejectRule])
    | corroborated => exact .rejected (Or.inr hbefore) (by simp [rejectRule])
    | rejected => exact .unchanged _ (by simp [rejectRule, hbefore])
  | reverted _ hstatus => exact .reverted hstatus (by simp [revertRule])
  | promoted hversion _ =>
    have hnot : row.status ≠ .candidate := hok row hrow hversion
    exact .unchanged _ (by simp [SecurityIncident.afterPromotion, hnot])

/-- Every change of a status follows the diagram in every run in which no
analyst corroborates a rejected incident and no candidate is promoted. -/
theorem status_changes_documented (tools : IncidentTools) (w : IncidentWorld)
    (actions : List IncidentAction)
    (hrun : Admissible (step tools) KeepsDiagram w actions) :
    Admissible (step tools) (StatusesDocumented tools) w actions :=
  Lib.admissible_of_invariant (I := fun _ => True) (fun _ _ _ _ => trivial)
    (fun _ _ hok _ => step_documented hok) hrun trivial

end Diagram

/-- An incident that alpha.example reported. -/
def sampleIncident : SecurityIncident where
  title := "Acme Corp reports ransomware attack"
  incidentGroupKey := "group"
  primaryAffectedCompany := some "Acme Corp"
  primaryAffectedDomain := none
  affectedCompanies := ["Acme Corp"]
  affectedDomains := []
  incidentType := some "ransomware"
  attackVector := some "ransomware"
  firstObservedAt := some 1783080000
  lastObservedAt := some 1783080000
  geography := []
  languages := []
  confidence := 75
  evidenceArticleIds := [0]
  evidenceSourceItemIds := [0]
  evidenceFamilies := ["alpha-example"]
  evidenceUrls := ["https://alpha.example/breach"]
  dedupeKey := storyKey
  sourceDefinitionId := some 0
  sourceItemIds := [0]

def worldWith (row : SecurityIncident) : IncidentWorld where
  store := { sources := [sampleSource], incidents := [row] }
  external := PUnit.unit

/-- The readings of the sample stories, by address. -/
def storyTable (_ : NewsSource) (item : NewsItem) : Reading :=
  if item.canonicalUrl = "https://alpha.example/breach" then
    storyReading "https://alpha.example/breach" "alpha.example" "alpha-example"
      "6bfce16240f4c6e62a4aafcec7053c4e5e8858df16ab06853c3e92ade2d4f990"
  else if item.canonicalUrl = "https://beta.example/breach" then
    storyReading "https://beta.example/breach" "beta.example" "beta-example"
      "cae6a7e19883b3c2ea19d352319a96b834f3c2c00045a1d4fa9656848c56e236"
  else
    storyReading "https://alpha.example/update" "alpha.example" "alpha-example"
      "913a181de03672ad15ad789423cb2fc2660b11fdf447939b881c98500ec17b3c"

/-- Runs on the sample stories take their readings from the table. -/
theorem sample_run_eq {w : IncidentWorld} {actions : List IncidentAction}
    (hsources : w.store.sources = [sampleSource]) (urls : List String)
    (hitems : ingestedItems w actions = urls.map story)
    (hurls : ∀ url ∈ urls, url = "https://alpha.example/breach" ∨
      url = "https://beta.example/breach" ∨ url = "https://alpha.example/update") :
    run (step sampleTools) w actions = run (tableStep sampleTools storyTable) w actions := by
  apply run_eq_tableStep
  rw [hsources, hitems]
  intro item hitem source hsource
  obtain rfl := List.mem_singleton.mp hsource
  obtain ⟨url, hurl, rfl⟩ := List.mem_map.mp hitem
  obtain rfl | rfl | rfl := hurls url hurl
  · exact read_alpha_breach
  · exact read_beta_breach
  · exact read_alpha_update

def sampleRequest (version : Nat) : IncidentDecisionRequest where
  version := version
  reasonCode := "reviewed"

/-- An analyst corroborates a rejected incident, and a candidate is corroborated
by putting its company on the watch list. -/
theorem rejected_incident_corroborated :
    ¬ (∀ (tools : IncidentTools) (w : IncidentWorld) (actions : List IncidentAction),
        Admissible (step tools) (StatusesDocumented tools) w actions) ∧
      (step sampleTools (worldWith sampleIncident) (.promote 0 1 "analyst" "k")).store.incidents.map
        (·.status) = [.corroborated] := by
  constructor
  · intro hall
    have hdocumented := (hall sampleTools (worldWith { sampleIncident with status := .rejected })
      [.corroborate 0 (sampleRequest 1) "analyst" "k1"]).1 0
      { sampleIncident with status := .rejected }
      { sampleIncident with
        status := .corroborated
        corroborationMethod := .analystDecision
        analystDecisionRef := some 0
        version := 2 } rfl (by decide +kernel)
    cases hdocumented with
    | unchanged _ h => cases h
    | analyst hbefore _ _ => cases hbefore
  · decide +kernel

/-- A candidate is corroborated by an analyst, reverted and rejected. -/
theorem reviewed_incident_documented :
    Admissible (step sampleTools) KeepsDiagram (worldWith sampleIncident)
        [.corroborate 0 (sampleRequest 1) "analyst" "k1",
          .revert 0 (sampleRequest 2) "analyst" "k2",
          .reject 0 (sampleRequest 3) "analyst" "k3"] ∧
      Admissible (step sampleTools) (StatusesDocumented sampleTools) (worldWith sampleIncident)
        [.corroborate 0 (sampleRequest 1) "analyst" "k1",
          .revert 0 (sampleRequest 2) "analyst" "k2",
          .reject 0 (sampleRequest 3) "analyst" "k3"] := by
  have hkeeps : Admissible (step sampleTools) KeepsDiagram (worldWith sampleIncident)
      [.corroborate 0 (sampleRequest 1) "analyst" "k1",
        .revert 0 (sampleRequest 2) "analyst" "k2",
        .reject 0 (sampleRequest 3) "analyst" "k3"] := by
    refine ⟨?_, trivial, trivial, trivial⟩
    intro row hrow _ hstatus
    obtain rfl : sampleIncident = row := Option.some.inj hrow
    cases hstatus
  exact ⟨hkeeps, status_changes_documented sampleTools _ _ hkeeps⟩

/-- Status and method say the same. -/
def SecurityIncident.Consistent (row : SecurityIncident) : Prop :=
  row.status = .corroborated ↔ row.corroborationMethod.corroborates = true

theorem Covered.consistent {admits : IncidentCandidate → Prop} {row row' : SecurityIncident}
    (h : Covered admits row row') (hrow : row.Consistent) : row'.Consistent := by
  refine Chain.keeps (I := SecurityIncident.Consistent) ?_ h hrow
  intro candidate r r' _ hcovers hr
  cases hcovers with
  | merge item article _ => exact hr
  | corroborate _ _ =>
    obtain hsame | ⟨-, -, happlied⟩ | ⟨-, -, -, happlied⟩ := r.applyCorroboration_cases candidate
    · rw [hsame]
      exact hr
    · rw [happlied]
      exact iff_of_true rfl rfl
    · rw [happlied]
      exact iff_of_true rfl rfl

/-- A guarded method corroborates. -/
theorem corroborationGuard_ok {tools : IncidentTools} {request : IncidentDecisionRequest}
    {row : SecurityIncident} (h : corroborationGuard tools request row = .ok PUnit.unit) :
    request.method.corroborates = true := by
  by_contra hmethod
  rw [Bool.not_eq_true] at hmethod
  simp [corroborationGuard, hmethod] at h
  cases h

/-- No candidate is promoted and no corroborated incident is rejected. -/
def KeepsMethods (w : IncidentWorld) : IncidentAction → Prop
  | .reject incident request _ _ =>
    Addressed w incident request.version (·.status ≠ .corroborated)
  | .promote incident version _ _ => Addressed w incident version (·.status ≠ .candidate)
  | _ => True

section Methods

variable [Casing]

theorem step_consistent {tools : IncidentTools} {w : IncidentWorld} {action : IncidentAction}
    (hok : KeepsMethods w action) (h : ∀ row ∈ w.store.incidents, row.Consistent) :
    ∀ row ∈ (step tools w action).store.incidents, row.Consistent := by
  intro row' hmem
  obtain ⟨i, hrow'⟩ := List.mem_iff_getElem?.mp hmem
  by_cases hi : i < w.store.incidents.length
  · obtain ⟨row, hrow⟩ : ∃ row, w.store.incidents[i]? = some row :=
      ⟨_, List.getElem?_eq_getElem hi⟩
    have hconsistent := h row (List.mem_of_getElem? hrow)
    obtain ⟨touched, htouched, htouches⟩ := step_touches tools w action hrow
    obtain rfl : touched = row' := Option.some.inj (htouched.symm.trans hrow')
    cases htouches with
    | untouched _ => exact hconsistent
    | covered hcovered => exact hcovered.consistent hconsistent
    | corroborated _ hguard _ =>
      have hmethod := corroborationGuard_ok hguard
      simp [SecurityIncident.Consistent, corroborateRule, hmethod]
    | rejected hversion =>
      have hopen : row.status ≠ .corroborated := hok row hrow hversion
      have hmethod : row.corroborationMethod.corroborates = false :=
        Bool.eq_false_iff.mpr fun hmethod => hopen (hconsistent.mpr hmethod)
      simp [SecurityIncident.Consistent, rejectRule, hmethod]
    | reverted _ _ => simp [SecurityIncident.Consistent, revertRule, CorroborationMethod.corroborates]
    | promoted hversion _ =>
      have hnot : row.status ≠ .candidate := hok row hrow hversion
      simpa [SecurityIncident.afterPromotion, hnot] using hconsistent
  · obtain ⟨source, item, article, candidate, admits, hcovered⟩ :=
      step_new tools w action (Nat.not_lt.mp hi) hrow'
    exact hcovered.consistent (iff_of_false (by simp [newIncident])
      (by simp [newIncident, CorroborationMethod.corroborates]))

/-- Status and method of all incidents agree in every state of every run in
which no candidate is promoted and no corroborated incident is rejected. -/
theorem corroborated_iff_method (tools : IncidentTools) (w : IncidentWorld)
    (actions : List IncidentAction) (hstart : ∀ row ∈ w.store.incidents, row.Consistent)
    (hrun : Admissible (step tools) KeepsMethods w actions) :
    ∀ row ∈ (run (step tools) w actions).store.incidents, row.Consistent :=
  Lib.run_keeps (I := fun w : IncidentWorld => ∀ row ∈ w.store.incidents, row.Consistent)
    (fun _ _ hok h => step_consistent hok h) hrun hstart

end Methods

/-- A promoted candidate is corroborated by the method "none", and a corroborated
incident keeps its method when it is rejected. -/
theorem promoted_incident_inconsistent :
    ¬ (∀ (tools : IncidentTools) (w : IncidentWorld) (actions : List IncidentAction),
        (∀ row ∈ w.store.incidents, row.Consistent) →
        ∀ row ∈ (run (step tools) w actions).store.incidents, row.Consistent) ∧
      ((run (step sampleTools) (worldWith sampleIncident)
        [.corroborate 0 (sampleRequest 1) "analyst" "k1",
          .reject 0 (sampleRequest 2) "analyst" "k2"]).store.incidents.map fun row =>
        (row.status, row.corroborationMethod)) = [(.rejected, .analystDecision)] := by
  constructor
  · intro hall
    have hconsistent := hall sampleTools (worldWith sampleIncident) [.promote 0 1 "analyst" "k"]
      (by
        intro row hmem
        obtain rfl := List.mem_singleton.mp hmem
        exact iff_of_false (by decide) (by decide))
      { sampleIncident with status := .corroborated, version := 2 } (by decide +kernel)
    exact absurd (hconsistent.mp rfl) (by decide)
  · decide +kernel

/-- Rejecting a candidate and corroborating it later keeps the two in step. -/
theorem reviewed_incident_consistent :
    Admissible (step sampleTools) KeepsMethods (worldWith sampleIncident)
        [.reject 0 (sampleRequest 1) "analyst" "k1",
          .corroborate 0 (sampleRequest 2) "analyst" "k2"] ∧
      ∀ row ∈ (run (step sampleTools) (worldWith sampleIncident)
        [.reject 0 (sampleRequest 1) "analyst" "k1",
          .corroborate 0 (sampleRequest 2) "analyst" "k2"]).store.incidents,
        row.Consistent := by
  have hkeeps : Admissible (step sampleTools) KeepsMethods (worldWith sampleIncident)
      [.reject 0 (sampleRequest 1) "analyst" "k1",
        .corroborate 0 (sampleRequest 2) "analyst" "k2"] := by
    refine ⟨?_, trivial, trivial⟩
    intro row hrow _ hstatus
    obtain rfl : sampleIncident = row := Option.some.inj hrow
    cases hstatus
  refine ⟨hkeeps, corroborated_iff_method sampleTools _ _ ?_ hkeeps⟩
  intro row hmem
  obtain rfl := List.mem_singleton.mp hmem
  exact iff_of_false (by decide) (by decide)

/-- The admitted candidates leave status and method of the row as they are. -/
inductive Unmoved (admits : IncidentCandidate → Prop) (row : SecurityIncident) : Prop where
  | rejected (hstatus : row.status = .rejected)
  | disclosed (hstatus : row.status = .corroborated)
      (hmethod : row.corroborationMethod = .authoritativeDisclosure)
      (hcandidates : ∀ candidate, admits candidate → row.dedupeKey = candidate.dedupeKey →
        candidate.authoritative = true)
  | independent (hstatus : row.status = .corroborated)
      (hmethod : row.corroborationMethod = .independentSources)
      (hcandidates : ∀ candidate, admits candidate → row.dedupeKey = candidate.dedupeKey →
        candidate.authoritative = false)
  | oneFamily (family : String) (hfamilies : ∀ f ∈ row.evidenceFamilies, f = family)
      (hcandidates : ∀ candidate, admits candidate → row.dedupeKey = candidate.dedupeKey →
        candidate.authoritative = false ∧ candidate.evidenceFamilyKey = family)

/-- Merged coverage keeps a row unmoved. -/
theorem Unmoved.merge {admits : IncidentCandidate → Prop} {row : SecurityIncident}
    {candidate : IncidentCandidate} (h : Unmoved admits row) (hadmits : admits candidate)
    (hkey : row.dedupeKey = candidate.dedupeKey) (item article : Id) :
    Unmoved admits (row.merge item article candidate) := by
  cases h with
  | rejected hstatus => exact .rejected hstatus
  | disclosed hstatus hmethod hcandidates => exact .disclosed hstatus hmethod hcandidates
  | independent hstatus hmethod hcandidates => exact .independent hstatus hmethod hcandidates
  | oneFamily family hfamilies hcandidates =>
    refine .oneFamily family ?_ hcandidates
    intro f hf
    obtain hold | rfl := mem_appendUnique.mp hf
    · exact hfamilies f hold
    · exact (hcandidates candidate hadmits hkey).2

/-- An unmoved row is not changed by the corroboration rules. -/
theorem Unmoved.applyCorroboration {admits : IncidentCandidate → Prop} {row : SecurityIncident}
    {candidate : IncidentCandidate} (h : Unmoved admits row) (hadmits : admits candidate)
    (hkey : row.dedupeKey = candidate.dedupeKey) : row.applyCorroboration candidate = row := by
  obtain hsame | ⟨hopen, hauthoritative, happlied⟩ | ⟨hopen, hordinary, hfamilies, happlied⟩ :=
    row.applyCorroboration_cases candidate
  · exact hsame
  · rw [happlied]
    cases h with
    | rejected hstatus => exact absurd hstatus hopen
    | disclosed hstatus hmethod _ => rw [← hstatus, ← hmethod]
    | independent _ _ hcandidates =>
      rw [hcandidates candidate hadmits hkey] at hauthoritative
      cases hauthoritative
    | oneFamily family _ hcandidates =>
      rw [(hcandidates candidate hadmits hkey).1] at hauthoritative
      cases hauthoritative
  · rw [happlied]
    cases h with
    | rejected hstatus => exact absurd hstatus hopen
    | disclosed _ _ hcandidates =>
      rw [hcandidates candidate hadmits hkey] at hordinary
      cases hordinary
    | independent hstatus hmethod _ => rw [← hstatus, ← hmethod]
    | oneFamily family hone _ =>
      obtain ⟨a, ha, b, hb, hne⟩ := SecurityIncident.twoFamilies_iff.mp hfamilies
      exact absurd ((hone a ha).trans (hone b hb).symm) hne

theorem Covered.unmoved {admits : IncidentCandidate → Prop} {row row' : SecurityIncident}
    (h : Covered admits row row') (hrow : Unmoved admits row) :
    row'.status = row.status ∧ row'.corroborationMethod = row.corroborationMethod := by
  have hinvariant := Chain.keeps (I := fun r : SecurityIncident => Unmoved admits r ∧
    r.status = row.status ∧ r.corroborationMethod = row.corroborationMethod) ?_ h
    ⟨hrow, rfl, rfl⟩
  · exact hinvariant.2
  intro candidate r r' hadmits hcovers hr
  cases hcovers with
  | merge item article hkey => exact ⟨hr.1.merge hadmits hkey item article, hr.2⟩
  | corroborate hkey _ =>
    rw [hr.1.applyCorroboration hadmits hkey]
    exact hr

section Versions

variable [Casing]

/-- No stored incident is moved by the items a call of the parser works on. -/
def KeepsVersions (tools : IncidentTools) (w : IncidentWorld) : IncidentAction → Prop
  | .parse source => ∀ row ∈ w.store.incidents, Unmoved (w.store.reports tools source) row
  | _ => True

/-- A later state of a row: the version tells whether status or method changed. -/
def SecurityIncident.Dated (row row' : SecurityIncident) : Prop :=
  row.version ≤ row'.version ∧
    ((row'.status ≠ row.status ∨ row'.corroborationMethod ≠ row.corroborationMethod) →
      row.version < row'.version)

omit [Casing] in
theorem SecurityIncident.Dated.trans {a b c : SecurityIncident} (hab : a.Dated b)
    (hbc : b.Dated c) : a.Dated c := by
  obtain ⟨hle, hlt⟩ := hab
  obtain ⟨hle', hlt'⟩ := hbc
  refine ⟨hle.trans hle', ?_⟩
  intro hchanged
  by_contra hsame
  have hab : ¬(b.status ≠ a.status ∨ b.corroborationMethod ≠ a.corroborationMethod) := by
    intro h
    have := hlt h
    omega
  have hbc : ¬(c.status ≠ b.status ∨ c.corroborationMethod ≠ b.corroborationMethod) := by
    intro h
    have := hlt' h
    omega
  push Not at hab hbc
  rw [hbc.1, hbc.2, hab.1, hab.2] at hchanged
  simp at hchanged

/-- The rows of all stored incidents stay stored and dated. -/
def RowsDated (w w' : IncidentWorld) : Prop :=
  ∀ (i : Id) (row : SecurityIncident), w.store.incidents[i]? = some row →
    ∃ row', w'.store.incidents[i]? = some row' ∧ row.Dated row'

theorem step_dated {tools : IncidentTools} {w : IncidentWorld} {action : IncidentAction}
    (hok : KeepsVersions tools w action) : RowsDated w (step tools w action) := by
  intro i row hrow
  obtain ⟨row', hrow', htouches⟩ := step_touches tools w action hrow
  refine ⟨row', hrow', ?_⟩
  cases htouches with
  | untouched _ => exact ⟨le_rfl, fun h => by simp at h⟩
  | covered hcovered =>
    obtain ⟨hstatus, hmethod⟩ := hcovered.unmoved (hok row (List.mem_of_getElem? hrow))
    refine ⟨hcovered.keeps_version.2.ge, ?_⟩
    intro hchanged
    simp [hstatus, hmethod] at hchanged
  | corroborated _ _ _ => exact ⟨by simp, fun _ => by simp⟩
  | rejected _ => exact ⟨by simp, fun _ => by simp⟩
  | reverted _ _ => exact ⟨by simp, fun _ => by simp⟩
  | promoted _ _ =>
    unfold SecurityIncident.afterPromotion
    split
    · exact ⟨Nat.le_succ _, fun _ => Nat.lt_succ_self _⟩
    · exact ⟨le_rfl, fun h => by simp at h⟩

omit [Casing] in
/-- A decision whose version is not the stored one is refused as stale. -/
theorem decideIncident_stale (rule : DecisionRule) {incident : Id}
    {request : IncidentDecisionRequest} (actor : String) {key : String} {w : IncidentWorld}
    {row : SecurityIncident} (hrow : w.store.incidents[incident]? = some row)
    (hstale : row.version ≠ request.version)
    (hfresh : ∀ decision ∈ w.store.decisions, decision.idempotencyKey ≠ key) :
    decideIncident rule incident request actor key w =
      .error (.valueError "stale optimistic version") w := by
  have hnone : w.store.decisions.first? (·.idempotencyKey == key) = none := by
    rw [Table.first?_none]
    intro decision hdecision
    simpa using hfresh decision hdecision
  have hbody : decisionBody rule incident request actor key w =
      .error (.valueError "stale optimistic version") w := by
    simp only [decisionBody, Lib.bind_run, Lib.query_run, hnone, hrow, if_pos hstale]
    rfl
  rw [decideIncident, sessionScope, Lib.sessionScope_raise_store hbody]

/-- In every run in which no parsed item moves a stored incident, each change of
status or method raises the version, so a decision with an older version is
refused. -/
theorem changes_raise_version (tools : IncidentTools) (w : IncidentWorld)
    (actions : List IncidentAction)
    (hrun : Admissible (step tools) (KeepsVersions tools) w actions) :
    Admissible (step tools) (fun v action => RowsDated v (step tools v action)) w actions ∧
      ∀ (i : Id) (row row' : SecurityIncident), w.store.incidents[i]? = some row →
        (run (step tools) w actions).store.incidents[i]? = some row' →
        (row'.status ≠ row.status ∨ row'.corroborationMethod ≠ row.corroborationMethod) →
        ∀ (rule : DecisionRule) (request : IncidentDecisionRequest) (actor key : String),
          request.version = row.version →
          (∀ decision ∈ (run (step tools) w actions).store.decisions,
            decision.idempotencyKey ≠ key) →
          decideIncident rule i request actor key (run (step tools) w actions) =
            .error (.valueError "stale optimistic version") (run (step tools) w actions) := by
  constructor
  · exact Lib.admissible_of_invariant (I := fun _ => True) (fun _ _ _ _ => trivial)
      (fun _ _ hok _ => step_dated hok) hrun trivial
  · intro i row row' hrow hrow' hchanged rule request actor key hversion hfresh
    have hdated : RowsDated w (run (step tools) w actions) := by
      refine Lib.run_relates (R := RowsDated) ?_ ?_ (fun _ _ => step_dated) hrun
      · intro v j r hr
        exact ⟨r, hr, le_rfl, fun h => by simp at h⟩
      · intro a b c hab hbc j r hr
        obtain ⟨r', hr', hdated'⟩ := hab j r hr
        obtain ⟨r'', hr'', hdated''⟩ := hbc j r' hr'
        exact ⟨r'', hr'', hdated'.trans hdated''⟩
    obtain ⟨last, hlast, -, hraised⟩ := hdated i row hrow
    obtain rfl : last = row' := Option.some.inj (hlast.symm.trans hrow')
    have hlt := hraised hchanged
    exact decideIncident_stale rule actor hrow' (by omega) hfresh

end Versions

/-- Coverage by a second outlet corroborates a stored incident and leaves its
version at 1, so a rejection prepared before goes through afterwards. -/
theorem coverage_keeps_version :
    ¬ (∀ (tools : IncidentTools) (w : IncidentWorld) (actions : List IncidentAction),
        Admissible (step tools) (fun v action => RowsDated v (step tools v action)) w
          actions) ∧
      ((run (step sampleTools) (worldWith sampleIncident)
        [.fetch (story "https://beta.example/breach"), .parse none,
          .reject 0 (sampleRequest 1) "analyst" "k1"]).store.incidents.map (·.status)) =
        [.rejected] := by
  constructor
  · intro hall
    obtain ⟨-, hdated, -⟩ := hall sampleTools (worldWith sampleIncident)
      [.fetch (story "https://beta.example/breach"), .parse none]
    obtain ⟨row', hrow', -, hraised⟩ := hdated 0 sampleIncident rfl
    have hstored : ((run (step sampleTools) (worldWith sampleIncident)
        [.fetch (story "https://beta.example/breach"), .parse none]).store.incidents[0]?.map
        fun row => (row.status, row.version)) = some (.corroborated, 1) := by
      rw [sample_run_eq rfl ["https://beta.example/breach"] rfl (by simp)]
      decide +kernel
    have hrun : (run (step sampleTools) (worldWith sampleIncident)
        [.fetch (story "https://beta.example/breach"), .parse none]).store.incidents[0]? =
        some row' := hrow'
    rw [hrun, Option.map_some, Option.some.injEq, Prod.mk.injEq] at hstored
    have hlt := hraised (Or.inl (by rw [hstored.1]; decide))
    rw [hstored.2] at hlt
    exact absurd hlt (by decide)
  · rw [sample_run_eq rfl ["https://beta.example/breach"] rfl (by simp)]
    decide +kernel

/-- After an analyst's corroboration a rejection prepared before is stale. -/
theorem prepared_rejection_stale :
    Admissible (step sampleTools) (KeepsVersions sampleTools) (worldWith sampleIncident)
        [.corroborate 0 (sampleRequest 1) "analyst" "k1"] ∧
      rejectIncident 0 (sampleRequest 1) "other" "k2"
          (run (step sampleTools) (worldWith sampleIncident)
            [.corroborate 0 (sampleRequest 1) "analyst" "k1"]) =
        .error (.valueError "stale optimistic version")
          (run (step sampleTools) (worldWith sampleIncident)
            [.corroborate 0 (sampleRequest 1) "analyst" "k1"]) := by
  have hkeeps : Admissible (step sampleTools) (KeepsVersions sampleTools)
      (worldWith sampleIncident) [.corroborate 0 (sampleRequest 1) "analyst" "k1"] :=
    ⟨trivial, trivial⟩
  refine ⟨hkeeps, ?_⟩
  exact (changes_raise_version sampleTools _ _ hkeeps).2 0 sampleIncident
    { sampleIncident with
      status := .corroborated
      corroborationMethod := .analystDecision
      analystDecisionRef := some 0
      version := 2 } rfl (by decide +kernel) (Or.inl (by decide)) rejectRule (sampleRequest 1)
    "other" "k2" rfl (by decide +kernel)

end GhostRecon.Incidents
