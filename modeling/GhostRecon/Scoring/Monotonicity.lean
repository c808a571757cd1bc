import GhostRecon.Lib.Rounding
import GhostRecon.Scoring.Candidates

/-!
What scoring makes of better evidence. Every component is a capped, stepped sum that
grows with each of its entries, the weights are positive and rounding is monotone, so a
stronger request never scores lower, and it is never blocked by more.
-/

namespace GhostRecon.Scoring

section Entries

/-- The object with the entry under a key replaced or added. -/
def insertEntry (value : Json) (key : String) (entry : Json) : Json :=
  .obj ((key, entry) :: value.fields.filter (·.1 ≠ key))

theorem get?_insertEntry_self (value : Json) (key : String) (entry : Json) :
    (insertEntry value key entry).get? key = some entry := by
  simp [insertEntry, Json.get?, Json.fields]

theorem lookup_filter_ne {fields : List (String × Json)} {key other : String}
    (h : other ≠ key) : (fields.filter (·.1 ≠ key)).lookup other = fields.lookup other := by
  induction fields with
  | nil => rfl
  | cons field rest ih =>
    obtain ⟨name, entry⟩ := field
    by_cases hname : name = key
    · have hother : (other == name) = false := by simpa [hname] using h
      rw [List.filter_cons_of_neg (by simpa using hname), List.lookup_cons, hother]
      exact ih
    · rw [List.filter_cons_of_pos (by simpa using hname), List.lookup_cons, List.lookup_cons, ih]

theorem get?_insertEntry_ne (value entry : Json) {key other : String} (h : other ≠ key) :
    (insertEntry value key entry).get? other = value.get? other := by
  have hother : (other == key) = false := by simpa using h
  unfold insertEntry Json.get?
  show List.lookup other ((key, entry) :: _) = _
  rw [List.lookup_cons, hother]
  exact lookup_filter_ne h

theorem flag_insertEntry_ne (value entry : Json) {key other : String} (h : other ≠ key) :
    (insertEntry value key entry).flag other = value.flag other := by
  unfold Json.flag
  rw [get?_insertEntry_ne value entry h]

variable (ofText : String → Option Int)

/-- `int` converts the entry, or it is absent or null. -/
def Converts (entry : Option Json) : Prop :=
  ∀ value, entry = some value → value ≠ .null → ∃ n, value.toInt ofText = .ok n

/-- The numeric entries of the dictionaries. -/
structure NumericEntries (request : CandidateScoreRequest) : Prop where
  employees : Converts ofText (request.account.get? "employee_count")
  account : Converts ofText (request.account.get? "source_confidence")
  contact : Converts ofText ((request.contact.getD (.obj [])).get? "source_confidence")
  confidence : Converts ofText (request.evidence.get? "confidence")
  independent : Converts ofText (request.evidence.get? "independent_source_count")
  freshness : Converts ofText (request.evidence.get? "evidence_freshness_days")
  signals : ∀ signal ∈ request.signals, Converts ofText (signal.get? "signal_strength")

/-- The number an entry holds, if it is there. -/
def entryNumber (entry : Option Json) : Option Int :=
  match entry with
  | none | some .null => none
  | some value => (value.toInt ofText).toOption

theorem entryNumber_some {value : Json} (h : value ≠ .null) :
    entryNumber ofText (some value) = (value.toInt ofText).toOption := by
  cases value with
  | null => exact absurd rfl h
  | _ => rfl

/-- The number that is read of an entry. -/
def number (entry : Option Json) : Int :=
  (entryNumber ofText entry).getD 0

end Entries

section Readings

variable (tools : ScoringTools) {request : CandidateScoreRequest}

theorem optionalInt_ok {entry : Option Json} (h : Converts tools.intOfText entry)
    (default : Option Int) :
    optionalInt tools entry default = .ok ((entryNumber tools.intOfText entry).or default) := by
  unfold optionalInt
  split
  · rfl
  · rfl
  · next value hvalue =>
    obtain ⟨n, hn⟩ := h value rfl hvalue
    rw [entryNumber_some _ hvalue, hn]
    rfl

theorem intOrDefault_ok {entry : Option Json} (h : Converts tools.intOfText entry) :
    intOrDefault tools entry = .ok (number tools.intOfText entry) := by
  unfold intOrDefault number
  rw [optionalInt_ok tools h]
  cases entryNumber tools.intOfText entry <;> rfl

/-- The contact of the request, or an empty one. -/
def contactOf (request : CandidateScoreRequest) : Json :=
  request.contact.getD (.obj [])

/-- A text, a number, a flag or nothing: what a set can be asked for. -/
def hashable (entry : Option Json) : Bool :=
  match entry with
  | some (.arr _) | some (.obj _) => false
  | _ => true

/-- The scopes that count for a contact. -/
def roleScopes : List String :=
  ["security", "it", "risk", "communications"]

theorem inTexts_ok_iff {entry : Option Json} (texts : List String) :
    (∃ found, inTexts entry texts = .ok found) ↔ hashable entry = true := by
  unfold inTexts hashable
  cases entry with
  | none => simp
  | some value => cases value <;> simp

def fitOf (inScope : Bool) (request : CandidateScoreRequest) : Int :=
  (if request.account.flag "named_account_flag" then 30 else 0) +
    (if number tools.intOfText (request.account.get? "employee_count") ≥ 250 then 20 else 0) +
    (if request.account.flag "security_stack" || request.account.flag "tech_stack" then 20
      else 0) +
    (if request.account.flag "industry" then 15 else 0) + (if inScope then 15 else 0)

/-- What a signal counts for. -/
def strength (signal : Json) : Int :=
  min (max (number tools.intOfText (signal.get? "signal_strength")) 0) 20

def relevanceOf (request : CandidateScoreRequest) : Int :=
  (match request.originType with
    | some .securityIncident => 35
    | some .cyberEvent | some .eventParticipant => 25
    | _ => 0) +
    (if request.evidence.flag "attack_vector" || request.evidence.flag "incident_type" then 25
      else 0) + (request.signals.map (strength tools)).sum

def confidenceOf (request : CandidateScoreRequest) : Int :=
  max (max (number tools.intOfText (request.evidence.get? "confidence"))
    (number tools.intOfText (request.account.get? "source_confidence")))
    (number tools.intOfText ((contactOf request).get? "source_confidence"))

/-- What a number of independent sources counts for. -/
def independence (sources : Int) : Int :=
  if sources ≥ 2 then 50 else if sources = 1 then 25 else 0

def evidenceOf (request : CandidateScoreRequest) : Int :=
  (if request.evidence.flag "authoritative" then 60 else 0) +
    independence (number tools.intOfText (request.evidence.get? "independent_source_count")) +
    (if request.evidence.flag "evidence_ids" || !request.sourceItemIds.isEmpty then 20 else 0)

/-- The days since the evidence, if they are given. -/
def daysOf (request : CandidateScoreRequest) : Option Int :=
  entryNumber tools.intOfText (request.evidence.get? "evidence_freshness_days")

/-- What the age of the evidence counts for. -/
def recencyOf : Option Int → Int
  | none => 30
  | some days => if days ≤ 7 then 100 else if days ≤ 30 then 75 else if days ≤ 90 then 45 else 10

/-- The components, read without a failure. -/
def componentsOf (inScope : Bool) (request : CandidateScoreRequest) : ComponentScores where
  fit := clamp (fitOf tools inScope request)
  relevance := clamp (relevanceOf tools request)
  recency := clamp (recencyOf (daysOf tools request))
  confidence := clamp (confidenceOf tools request)
  evidence := clamp (evidenceOf tools request)

theorem signalScore_ok {signals : List Json}
    (h : ∀ signal ∈ signals, Converts tools.intOfText (signal.get? "signal_strength")) :
    signalScore tools signals = .ok (signals.map (strength tools)).sum := by
  induction signals with
  | nil => rfl
  | cons signal rest ih =>
    have hrest := ih fun other hother => h other (List.mem_cons_of_mem signal hother)
    unfold signalScore
    rw [intOrDefault_ok tools (h signal List.mem_cons_self), hrest]
    rfl

theorem freshnessDays_ok (h : NumericEntries tools.intOfText request) :
    freshnessDays tools request = .ok (daysOf tools request) := by
  unfold freshnessDays daysOf
  rw [optionalInt_ok tools h.freshness, Option.or_none]

/-- With numeric entries the components are read unless the scope cannot be hashed. -/
theorem componentScores_ok (h : NumericEntries tools.intOfText request) {inScope : Bool}
    (hscope : inTexts ((contactOf request).get? "role_scope") roleScopes = .ok inScope) :
    componentScores tools request = .ok (componentsOf tools inScope request) := by
  unfold componentScores fitScore relevanceScore confidenceScore evidenceScore recencyScore
  unfold contactOf roleScopes at hscope
  simp only [intOrDefault_ok tools h.employees, intOrDefault_ok tools h.account,
    intOrDefault_ok tools h.contact, intOrDefault_ok tools h.confidence,
    intOrDefault_ok tools h.independent, freshnessDays_ok tools h, signalScore_ok tools h.signals,
    hscope, bind, Except.bind, pure, Except.pure]
  cases hdays : daysOf tools request with
  | none => simp only [componentsOf, hdays]; rfl
  | some days => simp only [componentsOf, hdays]; rfl

theorem componentScores_scope {components : ComponentScores}
    (h : componentScores tools request = .ok components) :
    hashable ((contactOf request).get? "role_scope") = true := by
  rw [← inTexts_ok_iff roleScopes]
  cases hscope : inTexts ((contactOf request).get? "role_scope") roleScopes with
  | ok found => exact ⟨found, rfl⟩
  | error e =>
    unfold componentScores fitScore at h
    unfold contactOf roleScopes at hscope
    cases hemployees : intOrDefault tools (request.account.get? "employee_count") with
    | error e' => simp [hemployees, bind, Except.bind] at h
    | ok employees => simp [hemployees, hscope, bind, Except.bind] at h

end Readings

section Strengthening

variable (tools : ScoringTools) {request request' : CandidateScoreRequest}

/-- A request with one signal more, a confidence or the number of sources raised, or the
age of its evidence lowered. -/
inductive Strengthens (request : CandidateScoreRequest) : CandidateScoreRequest → Prop where
  | signal (signal : Json)
      (hconverts : Converts tools.intOfText (signal.get? "signal_strength")) :
      Strengthens request { request with signals := request.signals ++ [signal] }
  | confidence (value : Json) (hconverts : Converts tools.intOfText (some value))
      (hraise : number tools.intOfText (request.evidence.get? "confidence") ≤
        number tools.intOfText (some value)) :
      Strengthens request
        { request with evidence := insertEntry request.evidence "confidence" value }
  | accountConfidence (value : Json) (hconverts : Converts tools.intOfText (some value))
      (hraise : number tools.intOfText (request.account.get? "source_confidence") ≤
        number tools.intOfText (some value)) :
      Strengthens request
        { request with account := insertEntry request.account "source_confidence" value }
  | contactConfidence (value : Json) (hconverts : Converts tools.intOfText (some value))
      (hraise : number tools.intOfText ((contactOf request).get? "source_confidence") ≤
        number tools.intOfText (some value)) :
      Strengthens request
        { request with
          contact := some (insertEntry (contactOf request) "source_confidence" value) }
  | independent (value : Json) (hconverts : Converts tools.intOfText (some value))
      (hraise : number tools.intOfText (request.evidence.get? "independent_source_count") ≤
        number tools.intOfText (some value)) :
      Strengthens request
        { request with evidence := insertEntry request.evidence "independent_source_count" value }
  | freshness (value : Json) (hconverts : Converts tools.intOfText (some value)) {days fresher : Int}
      (hdays : daysOf tools request = some days)
      (hfresher : entryNumber tools.intOfText (some value) = some fresher)
      (hlower : fresher ≤ days) :
      Strengthens request
        { request with evidence := insertEntry request.evidence "evidence_freshness_days" value }

/-- The second request counts for no less and is blocked by no more. -/
structure NoWeaker (request request' : CandidateScoreRequest) : Prop where
  numeric : NumericEntries tools.intOfText request'
  snapshot : request'.policySnapshot = request.policySnapshot
  source : request'.sourceDefinitionId = request.sourceDefinitionId
  items : request'.sourceItemIds = request.sourceItemIds
  origin : request'.originType = request.originType
  status : request'.evidence.get? "incident_status" = request.evidence.get? "incident_status"
  method : request'.evidence.get? "corroboration_method" =
    request.evidence.get? "corroboration_method"
  scope : (contactOf request').get? "role_scope" = (contactOf request).get? "role_scope"
  fit : ∀ inScope, fitOf tools inScope request' = fitOf tools inScope request
  relevance : relevanceOf tools request ≤ relevanceOf tools request'
  confidence : confidenceOf tools request ≤ confidenceOf tools request'
  evidence : evidenceOf tools request ≤ evidenceOf tools request'
  recency : recencyOf (daysOf tools request) ≤ recencyOf (daysOf tools request')
  stale : ∀ maxAge, (daysOf tools request').any (maxAge < ·) = true →
    (daysOf tools request).any (maxAge < ·) = true

theorem strength_nonneg (signal : Json) : 0 ≤ strength tools signal := by
  unfold strength
  omega

theorem independence_mono {a b : Int} (h : a ≤ b) : independence a ≤ independence b := by
  unfold independence
  split_ifs <;> omega

theorem recencyOf_anti {days fresher : Int} (h : fresher ≤ days) :
    recencyOf (some days) ≤ recencyOf (some fresher) := by
  simp only [recencyOf]
  split_ifs <;> omega

/-- The entries of the evidence that are not numbers. -/
def plainEvidence : List String :=
  ["attack_vector", "incident_type", "authoritative", "evidence_ids", "incident_status",
    "corroboration_method"]

/-- Evidence whose numbers count for no less and whose other entries are the same. -/
theorem noWeaker_evidence (hnumeric : NumericEntries tools.intOfText request) (evidence : Json)
    (hplain : ∀ key ∈ plainEvidence, evidence.get? key = request.evidence.get? key)
    (hconverts : ∀ key ∈ ["confidence", "independent_source_count", "evidence_freshness_days"],
      Converts tools.intOfText (evidence.get? key))
    (hconfidence : number tools.intOfText (request.evidence.get? "confidence") ≤
      number tools.intOfText (evidence.get? "confidence"))
    (hsources : number tools.intOfText (request.evidence.get? "independent_source_count") ≤
      number tools.intOfText (evidence.get? "independent_source_count"))
    (hrecency : recencyOf (daysOf tools request) ≤
      recencyOf (daysOf tools { request with evidence }))
    (hstale : ∀ maxAge, (daysOf tools { request with evidence }).any (maxAge < ·) = true →
      (daysOf tools request).any (maxAge < ·) = true) :
    NoWeaker tools request { request with evidence } where
  numeric := ⟨hnumeric.employees, hnumeric.account, hnumeric.contact, hconverts _ (by simp),
    hconverts _ (by simp), hconverts _ (by simp), hnumeric.signals⟩
  snapshot := rfl
  source := rfl
  items := rfl
  origin := rfl
  status := hplain _ (by simp [plainEvidence])
  method := hplain _ (by simp [plainEvidence])
  scope := rfl
  fit := fun _ => rfl
  relevance := by
    unfold relevanceOf Json.flag
    rw [hplain "attack_vector" (by simp [plainEvidence]),
      hplain "incident_type" (by simp [plainEvidence])]
  confidence := max_le_max (max_le_max hconfidence (le_refl _)) (le_refl _)
  evidence := by
    have hindependence := independence_mono hsources
    unfold evidenceOf Json.flag
    rw [hplain "authoritative" (by simp [plainEvidence]),
      hplain "evidence_ids" (by simp [plainEvidence])]
    exact add_le_add (add_le_add (le_refl _) hindependence) (le_refl _)
  recency := hrecency
  stale := hstale

theorem Strengthens.noWeaker (hnumeric : NumericEntries tools.intOfText request)
    (h : Strengthens tools request request') : NoWeaker tools request request' := by
  cases h with
  | signal signal hconverts =>
    refine ⟨⟨hnumeric.employees, hnumeric.account, hnumeric.contact, hnumeric.confidence,
      hnumeric.independent, hnumeric.freshness, ?_⟩, rfl, rfl, rfl, rfl, rfl, rfl, rfl,
      fun _ => rfl, ?_, le_refl _, le_refl _, le_refl _, fun _ hstale => hstale⟩
    · intro other hother
      rcases List.mem_append.mp hother with hold | hnew
      · exact hnumeric.signals other hold
      · rw [List.mem_singleton.mp hnew]
        exact hconverts
    · unfold relevanceOf
      rw [List.map_append, List.sum_append, List.map_singleton, List.sum_singleton]
      have hstrength := strength_nonneg tools signal
      dsimp only
      omega
  | confidence value hconverts hraise =>
    have hother : ∀ {key : String}, key ≠ "confidence" →
        (insertEntry request.evidence "confidence" value).get? key =
          request.evidence.get? key := get?_insertEntry_ne request.evidence value
    have hself := get?_insertEntry_self request.evidence "confidence" value
    have hdays : daysOf tools { request with
        evidence := insertEntry request.evidence "confidence" value } = daysOf tools request :=
      congrArg (entryNumber tools.intOfText) (hother (by decide))
    refine noWeaker_evidence tools hnumeric _ ?_ ?_ ?_ ?_ ?_ ?_
    · intro key hkey
      exact hother (by rintro rfl; revert hkey; decide)
    · intro key hkey
      rcases List.mem_cons.mp hkey with rfl | hkey
      · rw [hself]
        exact hconverts
      · rcases List.mem_cons.mp hkey with rfl | hkey
        · rw [hother (by decide)]
          exact hnumeric.independent
        · rw [List.mem_singleton.mp hkey, hother (by decide)]
          exact hnumeric.freshness
    · rw [hself]
      exact hraise
    · rw [hother (by decide)]
    · rw [hdays]
    · intro maxAge hstale
      rwa [hdays] at hstale
  | accountConfidence value hconverts hraise =>
    have hother : ∀ {key : String}, key ≠ "source_confidence" →
        (insertEntry request.account "source_confidence" value).get? key =
          request.account.get? key := get?_insertEntry_ne request.account value
    have hself := get?_insertEntry_self request.account "source_confidence" value
    refine ⟨⟨?_, ?_, hnumeric.contact, hnumeric.confidence, hnumeric.independent,
      hnumeric.freshness, hnumeric.signals⟩, rfl, rfl, rfl, rfl, rfl, rfl, rfl, ?_, le_refl _, ?_,
      le_refl _, le_refl _, fun _ hstale => hstale⟩
    · rw [hother (by decide)]
      exact hnumeric.employees
    · rw [hself]
      exact hconverts
    · intro inScope
      unfold fitOf Json.flag
      rw [hother (by decide), hother (by decide), hother (by decide), hother (by decide),
        hother (by decide)]
    · refine max_le_max (max_le_max (le_refl _) ?_) (le_refl _)
      rw [hself]
      exact hraise
  | contactConfidence value hconverts hraise =>
    have hother : ∀ {key : String}, key ≠ "source_confidence" →
        (insertEntry (contactOf request) "source_confidence" value).get? key =
          (contactOf request).get? key := get?_insertEntry_ne (contactOf request) value
    have hself := get?_insertEntry_self (contactOf request) "source_confidence" value
    refine ⟨⟨hnumeric.employees, hnumeric.account, ?_, hnumeric.confidence, hnumeric.independent,
      hnumeric.freshness, hnumeric.signals⟩, rfl, rfl, rfl, rfl, rfl, rfl, hother (by decide),
      fun _ => rfl, le_refl _, ?_, le_refl _, le_refl _, fun _ hstale => hstale⟩
    · show Converts tools.intOfText
        ((insertEntry (contactOf request) "source_confidence" value).get? "source_confidence")
      rw [hself]
      exact hconverts
    · refine max_le_max (le_refl _) ?_
      show _ ≤ number tools.intOfText
        ((insertEntry (contactOf request) "source_confidence" value).get? "source_confidence")
      rw [hself]
      exact hraise
  | independent value hconverts hraise =>
    have hother : ∀ {key : String}, key ≠ "independent_source_count" →
        (insertEntry request.evidence "independent_source_count" value).get? key =
          request.evidence.get? key := get?_insertEntry_ne request.evidence value
    have hself := get?_insertEntry_self request.evidence "independent_source_count" value
    have hdays : daysOf tools { request with
        evidence := insertEntry request.evidence "independent_source_count" value } =
          daysOf tools request :=
      congrArg (entryNumber tools.intOfText) (hother (by decide))
    refine noWeaker_evidence tools hnumeric _ ?_ ?_ ?_ ?_ ?_ ?_
    · intro key hkey
      exact hother (by rintro rfl; revert hkey; decide)
    · intro key hkey
      rcases List.mem_cons.mp hkey with rfl | hkey
      · rw [hother (by decide)]
        exact hnumeric.confidence
      · rcases List.mem_cons.mp hkey with rfl | hkey
        · rw [hself]
          exact hconverts
        · rw [List.mem_singleton.mp hkey, hother (by decide)]
          exact hnumeric.freshness
    · rw [hother (by decide)]
    · rw [hself]
      exact hraise
    · rw [hdays]
    · intro maxAge hstale
      rwa [hdays] at hstale
  | freshness value hconverts hdays hfresher hlower =>
    rename_i days fresher
    have hother : ∀ {key : String}, key ≠ "evidence_freshness_days" →
        (insertEntry request.evidence "evidence_freshness_days" value).get? key =
          request.evidence.get? key := get?_insertEntry_ne request.evidence value
    have hself := get?_insertEntry_self request.evidence "evidence_freshness_days" value
    have hdays' : daysOf tools { request with
        evidence := insertEntry request.evidence "evidence_freshness_days" value } =
          some fresher := by
      unfold daysOf
      rw [hself]
      exact hfresher
    refine noWeaker_evidence tools hnumeric _ ?_ ?_ ?_ ?_ ?_ ?_
    · intro key hkey
      exact hother (by rintro rfl; revert hkey; decide)
    · intro key hkey
      rcases List.mem_cons.mp hkey with rfl | hkey
      · rw [hother (by decide)]
        exact hnumeric.confidence
      · rcases List.mem_cons.mp hkey with rfl | hkey
        · rw [hother (by decide)]
          exact hnumeric.independent
        · rw [List.mem_singleton.mp hkey, hself]
          exact hconverts
    · rw [hother (by decide)]
    · rw [hother (by decide)]
    · rw [hdays, hdays']
      exact recencyOf_anti hlower
    · intro maxAge hstale
      rw [hdays'] at hstale
      rw [hdays]
      have hlt : maxAge < fresher := by simpa using hstale
      simpa using lt_of_lt_of_le hlt hlower

end Strengthening

section Composite

/-- The weighted sum of the components, exact. -/
def weighted (c : ComponentScores) : ℚ :=
  25 / 100 * c.fit + 25 / 100 * c.relevance + 15 / 100 * c.recency + 15 / 100 * c.confidence +
    20 / 100 * c.evidence

/-- The tools with exact weights and halves rounded to the even side. -/
def ScoringTools.exactly (tools : ScoringTools) : ScoringTools :=
  { tools with weigh := fun c => Lib.roundHalfEven (weighted c) }

/-- Every component lies between 0 and 100. -/
structure ComponentScores.Bounded (c : ComponentScores) : Prop where
  fit : 0 ≤ c.fit ∧ c.fit ≤ 100
  relevance : 0 ≤ c.relevance ∧ c.relevance ≤ 100
  recency : 0 ≤ c.recency ∧ c.recency ≤ 100
  confidence : 0 ≤ c.confidence ∧ c.confidence ≤ 100
  evidence : 0 ≤ c.evidence ∧ c.evidence ≤ 100

/-- No component is lower. -/
structure ComponentScores.Below (c d : ComponentScores) : Prop where
  fit : c.fit ≤ d.fit
  relevance : c.relevance ≤ d.relevance
  recency : c.recency ≤ d.recency
  confidence : c.confidence ≤ d.confidence
  evidence : c.evidence ≤ d.evidence

theorem clamp_bounded (value : Int) : 0 ≤ clamp value ∧ clamp value ≤ 100 := by
  unfold clamp
  omega

theorem clamp_mono {a b : Int} (h : a ≤ b) : clamp a ≤ clamp b := by
  unfold clamp
  omega

theorem componentsOf_bounded (tools : ScoringTools) (inScope : Bool)
    (request : CandidateScoreRequest) : (componentsOf tools inScope request).Bounded :=
  ⟨clamp_bounded _, clamp_bounded _, clamp_bounded _, clamp_bounded _, clamp_bounded _⟩

theorem NoWeaker.components {tools : ScoringTools} {request request' : CandidateScoreRequest}
    (h : NoWeaker tools request request') (inScope : Bool) :
    (componentsOf tools inScope request).Below (componentsOf tools inScope request') where
  fit := clamp_mono (h.fit inScope).ge
  relevance := clamp_mono h.relevance
  recency := clamp_mono h.recency
  confidence := clamp_mono h.confidence
  evidence := clamp_mono h.evidence

theorem weighted_mono {c d : ComponentScores} (h : c.Below d) : weighted c ≤ weighted d := by
  have hfit : (c.fit : ℚ) ≤ d.fit := by exact_mod_cast h.fit
  have hrelevance : (c.relevance : ℚ) ≤ d.relevance := by exact_mod_cast h.relevance
  have hrecency : (c.recency : ℚ) ≤ d.recency := by exact_mod_cast h.recency
  have hconfidence : (c.confidence : ℚ) ≤ d.confidence := by exact_mod_cast h.confidence
  have hevidence : (c.evidence : ℚ) ≤ d.evidence := by exact_mod_cast h.evidence
  unfold weighted
  linarith

/-- The weights add up to one, so the sum keeps the bounds of its terms. -/
theorem weighted_bounded {c : ComponentScores} (h : c.Bounded) :
    ((0 : ℤ) : ℚ) ≤ weighted c ∧ weighted c ≤ ((100 : ℤ) : ℚ) := by
  have hzero : weighted ⟨0, 0, 0, 0, 0⟩ = ((0 : ℤ) : ℚ) := by norm_num [weighted]
  have hfull : weighted ⟨100, 100, 100, 100, 100⟩ = ((100 : ℤ) : ℚ) := by norm_num [weighted]
  rw [← hzero, ← hfull]
  constructor
  · exact weighted_mono ⟨h.fit.1, h.relevance.1, h.recency.1, h.confidence.1, h.evidence.1⟩
  · exact weighted_mono ⟨h.fit.2, h.relevance.2, h.recency.2, h.confidence.2, h.evidence.2⟩

theorem weigh_bounded (tools : ScoringTools) {c : ComponentScores} (h : c.Bounded) :
    0 ≤ tools.exactly.weigh c ∧ tools.exactly.weigh c ≤ 100 :=
  ⟨Lib.le_roundHalfEven (weighted_bounded h).1, Lib.roundHalfEven_le_of_le (weighted_bounded h).2⟩

theorem weigh_mono (tools : ScoringTools) {c d : ComponentScores} (h : c.Below d) :
    tools.exactly.weigh c ≤ tools.exactly.weigh d :=
  Lib.roundHalfEven_mono (weighted_mono h)

end Composite

section Soundness

variable [Casing] (tools : ScoringTools) {request request' : CandidateScoreRequest}

def CandidateScoreRoute.rank : CandidateScoreRoute → Nat
  | .rejected => 0
  | .needsReview => 1
  | .crmTargetReview => 2

omit [Casing] in
/-- A higher composite without a new blocker does not move the route down. -/
theorem routeForScore_mono {score score' : Int} {blockers blockers' : List String}
    (hscore : score ≤ score') (hblockers : blockers' ⊆ blockers) :
    (routeForScore score blockers).rank ≤ (routeForScore score' blockers').rank := by
  by_cases hclear : blockers = []
  · have hclear' : blockers' = [] := List.subset_nil.mp (hclear ▸ hblockers)
    rw [hclear, hclear']
    unfold routeForScore
    split_ifs <;> simp [CandidateScoreRoute.rank] <;> simp_all <;> omega
  · have hrejected : routeForScore score blockers = .rejected :=
      routeForScore_rejected_iff.mpr (Or.inl hclear)
    rw [hrejected]
    exact Nat.zero_le _

/-- `max_evidence_age_days` is absent or false, or `int` converts it. -/
def AgeReads (snapshot : Json) : Prop :=
  ∀ value, snapshot.get? "max_evidence_age_days" = some value → value.truthy = true →
    ∃ n, value.toInt tools.intOfText = .ok n

omit [Casing] in
theorem ageReads_iff {snapshot : Json} :
    AgeReads tools snapshot ↔ ∃ maxAge, maxEvidenceAge tools snapshot = .ok maxAge := by
  unfold AgeReads maxEvidenceAge valueOr Json.flag
  cases snapshot.get? "max_evidence_age_days" with
  | none => simp
  | some value =>
    by_cases htrue : value.truthy = true
    · cases hint : value.toInt tools.intOfText with
      | ok n => simp [htrue, hint, Except.mapError]
      | error e => simp [htrue, hint, Except.mapError]
    · simp [htrue]

/-- The blockers of a request whose numbers are all read. -/
theorem policyBlockersForScore_ok (hnumeric : NumericEntries tools.intOfText request)
    (hage : AgeReads tools request.policySnapshot) :
    ∃ blockers, policyBlockersForScore tools request = .ok blockers := by
  obtain ⟨maxAge, hmax⟩ := (ageReads_iff tools).mp hage
  unfold policyBlockersForScore
  simp only [hmax, freshnessDays_ok tools hnumeric, bind, Except.bind, pure, Except.pure]
  exact ⟨_, rfl⟩

theorem policyBlockersForScore_age {blockers : List String}
    (h : policyBlockersForScore tools request = .ok blockers) :
    AgeReads tools request.policySnapshot := by
  cases hage : maxEvidenceAge tools request.policySnapshot with
  | error e => simp [policyBlockersForScore, hage, bind, Except.bind] at h
  | ok maxAge => exact (ageReads_iff tools).mpr ⟨maxAge, hage⟩

/-- Stronger evidence adds no blocker: only its age is looked at, and it is no older. -/
theorem NoWeaker.blockers (h : NoWeaker tools request request')
    (hnumeric : NumericEntries tools.intOfText request) {blockers blockers' : List String}
    (hbefore : policyBlockersForScore tools request = .ok blockers)
    (hafter : policyBlockersForScore tools request' = .ok blockers') : blockers' ⊆ blockers := by
  obtain ⟨maxAge, hmax⟩ := (ageReads_iff tools).mp (policyBlockersForScore_age tools hbefore)
  unfold policyBlockersForScore at hbefore hafter
  rw [h.snapshot, h.source, h.items, h.origin, h.status, h.method] at hafter
  simp only [hmax, freshnessDays_ok tools hnumeric, freshnessDays_ok tools h.numeric, bind,
    Except.bind, pure, Except.pure, Except.ok.injEq] at hbefore hafter
  subst hbefore hafter
  intro blocker hblocker
  simp only [List.mem_append] at hblocker ⊢
  rcases hblocker with (hearlier | hstale) | hlater
  · exact Or.inl (Or.inl hearlier)
  · refine Or.inl (Or.inr ?_)
    split at hstale
    · next hold =>
      rw [if_pos]
      · exact hstale
      · rcases Bool.or_eq_true _ _ ▸ hold with hflag | hdays
        · simp [hflag]
        · simp [h.stale maxAge hdays]
    · cases hstale
  · exact Or.inr hlater

/-- The score of a request that is read: its components, and blockers and route with them. -/
theorem scoreCandidatePreview_reads (hnumeric : NumericEntries tools.intOfText request)
    (hscope : hashable ((contactOf request).get? "role_scope") = true)
    (hage : AgeReads tools request.policySnapshot) (key : String) :
    ∃ inScope blockers score, inTexts ((contactOf request).get? "role_scope") roleScopes =
        .ok inScope ∧ policyBlockersForScore tools request = .ok blockers ∧
      scoreCandidatePreview tools request key = .ok score ∧
      score.components = componentsOf tools inScope request ∧ score.policyBlockers = blockers ∧
      score.compositeScore = tools.weigh (componentsOf tools inScope request) ∧
      score.route = routeForScore (tools.weigh (componentsOf tools inScope request)) blockers := by
  obtain ⟨inScope, hin⟩ := (inTexts_ok_iff roleScopes).mpr hscope
  obtain ⟨blockers, hblockers⟩ := policyBlockersForScore_ok tools hnumeric hage
  unfold scoreCandidatePreview
  rw [componentScores_ok tools hnumeric hin, hblockers]
  exact ⟨inScope, blockers, _, hin, rfl, rfl, rfl, rfl, rfl, rfl⟩

/-- What a score promises: its bounds, that the order of the signals does not matter, and
that a stronger request gains by it. -/
structure ScoresSoundly (request : CandidateScoreRequest) : Prop where
  bounded : ∀ key, ∃ score, scoreCandidatePreview tools request key = .ok score ∧
    score.components.Bounded ∧ 0 ≤ score.compositeScore ∧ score.compositeScore ≤ 100
  permuted : ∀ key signals, signals.Perm request.signals →
    ∃ score score', scoreCandidatePreview tools request key = .ok score ∧
      scoreCandidatePreview tools { request with signals } key = .ok score' ∧
      score'.components = score.components ∧ score'.compositeScore = score.compositeScore ∧
      score'.route = score.route
  strengthened : ∀ key request', Strengthens tools request request' →
    ∃ score score', scoreCandidatePreview tools request key = .ok score ∧
      scoreCandidatePreview tools request' key = .ok score' ∧
      score.compositeScore ≤ score'.compositeScore ∧
      score'.policyBlockers ⊆ score.policyBlockers ∧ score.route.rank ≤ score'.route.rank

omit [Casing] in
theorem componentsOf_perm {signals : List Json} (h : signals.Perm request.signals)
    (inScope : Bool) :
    componentsOf tools inScope { request with signals } = componentsOf tools inScope request := by
  have hsum : (signals.map (strength tools)).sum = (request.signals.map (strength tools)).sum :=
    (h.map (strength tools)).sum_eq
  have hrelevance : relevanceOf tools { request with signals } = relevanceOf tools request := by
    unfold relevanceOf
    rw [hsum]
  unfold componentsOf
  rw [hrelevance]
  rfl

/-- A request scores soundly exactly when its role scope can be looked up and its maximal
age of evidence is a number. -/
theorem scores_soundly_iff (request : CandidateScoreRequest)
    (hnumeric : NumericEntries tools.intOfText request) :
    ScoresSoundly tools.exactly request ↔
      hashable ((contactOf request).get? "role_scope") = true ∧
        AgeReads tools request.policySnapshot := by
  constructor
  · intro hsound
    obtain ⟨score, hscore, -⟩ := hsound.bounded ""
    obtain ⟨hcomponents, hblockers, -⟩ := scoreCandidatePreview_ok hscore
    exact ⟨componentScores_scope tools.exactly hcomponents,
      policyBlockersForScore_age tools.exactly hblockers⟩
  · rintro ⟨hscope, hage⟩
    have hreads := scoreCandidatePreview_reads tools.exactly hnumeric hscope hage
    constructor
    · intro key
      obtain ⟨inScope, blockers, score, -, -, hscore, hcomponents, -, hcomposite, -⟩ := hreads key
      have hbounded := componentsOf_bounded tools.exactly inScope request
      refine ⟨score, hscore, hcomponents ▸ hbounded, ?_⟩
      rw [hcomposite]
      exact weigh_bounded tools hbounded
    · intro key signals hperm
      obtain ⟨inScope, blockers, score, hin, hblockers, hscore, hcomponents, -, hcomposite,
        hroute⟩ := hreads key
      have hnumeric' : NumericEntries tools.intOfText { request with signals } :=
        { hnumeric with
          signals := fun signal hsignal => hnumeric.signals signal (hperm.subset hsignal) }
      obtain ⟨inScope', blockers', score', hin', hblockers', hscore', hcomponents', -,
        hcomposite', hroute'⟩ := scoreCandidatePreview_reads tools.exactly
          hnumeric' hscope hage key
      have hsameScope : inScope' = inScope := Except.ok.inj (hin'.symm.trans hin)
      have hsameBlockers : blockers' = blockers := Except.ok.inj (hblockers'.symm.trans hblockers)
      subst hsameScope hsameBlockers
      rw [componentsOf_perm tools.exactly hperm] at hcomponents' hcomposite' hroute'
      exact ⟨score, score', hscore, hscore', hcomponents'.trans hcomponents.symm,
        hcomposite'.trans hcomposite.symm, hroute'.trans hroute.symm⟩
    · intro key request' hstrengthens
      obtain ⟨inScope, blockers, score, hin, hblockers, hscore, -, hscoreBlockers, hcomposite,
        hroute⟩ := hreads key
      have hweaker : NoWeaker tools.exactly request request' :=
        hstrengthens.noWeaker tools.exactly hnumeric
      obtain ⟨inScope', blockers', score', hin', hblockers', hscore', -, hscoreBlockers',
        hcomposite', hroute'⟩ := scoreCandidatePreview_reads tools.exactly
          hweaker.numeric (hweaker.scope ▸ hscope) (hweaker.snapshot ▸ hage) key
      rw [hweaker.scope] at hin'
      have hsameScope : inScope' = inScope := Except.ok.inj (hin'.symm.trans hin)
      subst hsameScope
      have hhigher := weigh_mono tools (hweaker.components inScope')
      have hfewer := hweaker.blockers tools.exactly hnumeric hblockers hblockers'
      refine ⟨score, score', hscore, hscore', ?_, ?_, ?_⟩
      · rw [hcomposite, hcomposite']
        exact hhigher
      · rw [hscoreBlockers, hscoreBlockers']
        exact hfewer
      · rw [hroute, hroute']
        exact routeForScore_mono hhigher hfewer

end Soundness

/-- A contact in one scope, with its confidence. -/
def scopedRequest (scope : Json) : CandidateScoreRequest where
  targetType := "contact"
  targetId := 0
  contact := some (.obj [("role_scope", scope), ("source_confidence", .int 80)])
  signals := [.obj [("signal_strength", .int 15)]]

theorem scopedRequest_numeric (scope : Json) :
    NumericEntries sampleTools.intOfText (scopedRequest scope) := by
  have hempty : ∀ key, Converts sampleTools.intOfText ((Json.obj []).get? key) := by
    intro key value hvalue
    simp [Json.get?, Json.fields] at hvalue
  have hint : ∀ n, Converts sampleTools.intOfText (some (Json.int n)) := by
    intro n value hvalue _
    rw [← Option.some.inj hvalue]
    exact ⟨n, rfl⟩
  refine ⟨hempty _, hempty _, hint 80, hempty _, hempty _, hempty _, ?_⟩
  intro signal hsignal
  rw [List.mem_singleton.mp hsignal]
  exact hint 15

theorem text_scope_sound : ScoresSoundly sampleTools.exactly (scopedRequest (.str "security")) := by
  refine (scores_soundly_iff sampleTools _ (scopedRequest_numeric _)).mpr ⟨rfl, ?_⟩
  intro value hvalue
  simp [scopedRequest, Json.get?, Json.fields] at hvalue

/-- A list of scopes cannot be looked up in a set, and no score is given. -/
theorem listed_scopes_raise :
    NumericEntries sampleTools.intOfText (scopedRequest (.arr [.str "security"])) ∧
      ¬ ScoresSoundly sampleTools.exactly (scopedRequest (.arr [.str "security"])) := by
  refine ⟨scopedRequest_numeric _, ?_⟩
  intro hsound
  obtain ⟨score, hscore, -⟩ := hsound.bounded ""
  have hscope := componentScores_scope sampleTools.exactly (scoreCandidatePreview_ok hscore).1
  exact absurd hscope (by decide)

end GhostRecon.Scoring
