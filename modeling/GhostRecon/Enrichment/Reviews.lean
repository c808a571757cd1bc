import GhostRecon.Enrichment.Contacts
import GhostRecon.Enrichment.BlockedCandidates

/-!
Contact candidates that wait for an analyst, and the review queue. A candidate
that is created blocked or in need of review gets a review of its own; after
that the queue may forget it: a review is asked for once for each reason, also
after it was decided, and two branches of the domain discovery ask for none.
-/

namespace GhostRecon

open Lib (Id Table after returned run)
open Std.Do

set_option mvcgen.warning false

section Queue

/-- An open review of the candidate. -/
def openReview (reviews : Table ReviewCandidate) (i : Id) : Bool :=
  reviews.any fun review =>
    review.targetType == "contact_enrichment_candidate" && review.targetId == i &&
      review.status == "open"

/-- The candidate is eligible, or an analyst sees it. -/
def underReview (candidates : Table ContactEnrichmentCandidate)
    (reviews : Table ReviewCandidate) (i : Id) : Bool :=
  (candidates[i]?).all fun row => row.status == .eligible || openReview reviews i

/-- Reviews of contact candidates are about stored ones. -/
def ReviewsAnchored (candidates : Table ContactEnrichmentCandidate) (reviews : Table ReviewCandidate) :
    Prop :=
  ∀ review ∈ reviews, review.idempotencyKey.1 = "contact_enrichment" →
    review.idempotencyKey.2.1 < candidates.length

theorem openReview_append {reviews more : Table ReviewCandidate} {i : Id} :
    openReview (reviews ++ more) i = (openReview reviews i || openReview more i) := by
  simp [openReview, List.any_append]

theorem ReviewsAnchored.mono {candidates candidates' : Table ContactEnrichmentCandidate}
    {reviews : Table ReviewCandidate} (h : ReviewsAnchored candidates reviews)
    (hlength : candidates.length ≤ candidates'.length) : ReviewsAnchored candidates' reviews :=
  fun review hreview hkind => Nat.lt_of_lt_of_le (h review hreview hkind) hlength

theorem ReviewsAnchored.addReview {candidates : Table ContactEnrichmentCandidate}
    {reviews : Table ReviewCandidate} (h : ReviewsAnchored candidates reviews)
    {review : ReviewCandidate}
    (hreview : review.idempotencyKey.1 = "contact_enrichment" →
      review.idempotencyKey.2.1 < candidates.length) :
    ReviewsAnchored candidates (reviews ++ [review]) := by
  intro found hfound hkind
  rcases List.mem_append.mp hfound with hold | hnew
  · exact h found hold hkind
  · rw [List.mem_singleton] at hnew
    subst hnew
    exact hreview hkind

end Queue

section Machine

variable [Casing]

inductive ReviewOp where
  | create (payload : ContactEnrichmentCreate) (key : String)
  | discover (ctx : DiscoveryContext) (i : Id)
  | search (ctx : DiscoveryContext) (target : WatchSubject)
  | persist (request : EmailCandidatePersistRequest) (key : String)
      (generate : String → String → List String → Table OrganizationEmailPattern →
        Except PyError (List (String × String)))
  | verify (rt : Runtime) (request : EmailVerifyBatchRequest)
      (verifier : List String → Except String VerificationResults)
  | decide (review : Id) (approved : Bool)

/-- What a decision does to the queue: an open review is closed. Version, policy
and actor only decide whether it is made. -/
def decideReview (r : Id) (approved : Bool) (s : Store) : Store :=
  { s with
    reviewCandidates := s.reviewCandidates.modify r fun review =>
      if review.status = "open" then
        { review with status := if approved then "approved" else "rejected" }
      else review }

/-- The world a call leaves behind. -/
def reviewStep (tools : EnrichmentTools) (w : DbWorld) : ReviewOp → DbWorld
  | .create payload key => after (createContactCandidate tools payload key) w
  | .discover ctx i => after (discoverContactCandidateDomain tools ctx i) w
  | .search ctx target => after (discoverWatchTargetContacts tools ctx target) w
  | .persist request key generate => after (persistEmailCandidates request key generate) w
  | .verify rt request verifier => after (verifyEmailCandidates rt request verifier) w
  | .decide r approved => after (sessionScope (Lib.write (decideReview r approved))) w

/-- The candidates a committed call answers with. -/
def ReviewOp.left (tools : EnrichmentTools) (w : DbWorld) : ReviewOp → Option (List Id)
  | .create payload key => (returned (createContactCandidate tools payload key) w).map ([·])
  | .discover ctx i => (returned (discoverContactCandidateDomain tools ctx i) w).map fun _ => [i]
  | .search ctx target => returned (discoverWatchTargetContacts tools ctx target) w
  | .persist _ _ _ | .verify _ _ _ | .decide _ _ => none

/-- Every candidate the call answers with is eligible or under review once the
call has committed. -/
def ReviewOp.Reviewed (tools : EnrichmentTools) (w : DbWorld) (op : ReviewOp) : Prop :=
  ∀ ids, op.left tools w = some ids → ∀ i ∈ ids,
    underReview (reviewStep tools w op).store.contactCandidates
      (reviewStep tools w op).store.reviewCandidates i = true

/-- A candidate that is already stored under the key is eligible or under
review. -/
def storedReviewed (key : String) (s : Store) : Bool :=
  (s.contactCandidates.first? (·.idempotencyKey == key)).all fun found =>
    underReview s.contactCandidates s.reviewCandidates found.1

/-- The discovery finds no domain, and this was never the reason of a review of
the candidate. -/
def ContactEnrichmentCandidate.asksReview (candidate : ContactEnrichmentCandidate)
    (tools : EnrichmentTools) (ctx : DiscoveryContext) (i : Id) (s : Store) : Bool :=
  querySubject candidate != "" &&
    match ctx.search (querySubject candidate ++ " official website") with
    | .error _ => false
    | .ok results =>
      (selectDomain tools results).isNone &&
        (s.reviewCandidates.first? (·.idempotencyKey ==
          ("contact_enrichment", i, "domain_discovery_failed"))).isNone

/-- The call makes its candidates eligible, finds them under review or asks for
a review under a key that is free. -/
def ReviewOp.reviewable (tools : EnrichmentTools) (w : DbWorld) : ReviewOp → Bool
  | .create _ key => storedReviewed key w.store
  | .discover ctx i =>
    (w.store.contactCandidates[i]?).all fun candidate =>
      candidate.promotedBy tools ctx || openReview w.store.reviewCandidates i ||
        candidate.asksReview tools ctx i w.store
  | .search ctx target =>
    match ctx.search (linkedinContactQuery target.displayName) with
    | .error _ => true
    | .ok results => results.all fun result =>
      result.url == "" ||
        match tools.normalizeUrl result.url with
        | .error _ => true
        | .ok canonicalUrl => storedReviewed (watchContactKey target canonicalUrl) w.store
  | .persist _ _ _ | .verify _ _ _ | .decide _ _ => true

end Machine

section Creation

variable [Casing]

/-- The review a new candidate gets. -/
def reviewFor (i : Id) (candidate : ContactEnrichmentCandidate) (reasonCode : String) :
    ReviewCandidate where
  candidateType := "contact_enrichment"
  targetType := "contact_enrichment_candidate"
  targetId := i
  originType := some candidate.originType.value
  originId := some candidate.originId
  sourceDefinitionId := candidate.sourceDefinitionId
  sourceItemIds := candidate.sourceItemIds
  reasonCode := reasonCode
  reason := "Contact enrichment candidate requires analyst review."
  idempotencyKey := ("contact_enrichment", i, reasonCode)

/-- What a creation leaves in the two tables: the candidate found, or a new one,
with a review unless it is eligible. -/
inductive Created (key : String) (candidates : Table ContactEnrichmentCandidate)
    (reviews : Table ReviewCandidate) :
    Id → Table ContactEnrichmentCandidate → Table ReviewCandidate → Prop where
  | found {i row} (h : candidates.first? (·.idempotencyKey == key) = some (i, row)) :
      Created key candidates reviews i candidates reviews
  | eligible {row : ContactEnrichmentCandidate}
      (hnew : candidates.first? (·.idempotencyKey == key) = none)
      (hstatus : row.status = .eligible) :
      Created key candidates reviews candidates.length (candidates ++ [row]) reviews
  | reviewed {row candidate reasonCode}
      (hnew : candidates.first? (·.idempotencyKey == key) = none) :
      Created key candidates reviews candidates.length (candidates ++ [row])
        (reviews ++ [reviewFor candidates.length candidate reasonCode])

omit [Casing] in
theorem upsertContact_beside (I : Table ContactEnrichmentCandidate → Table ReviewCandidate → Prop)
    (candidate : ContactEnrichmentCandidate) :
    ⦃fun v => ⌜I v.store.contactCandidates v.store.reviewCandidates⌝⦄
      upsertContact candidate
      ⦃post⟨fun _ v => ⌜I v.store.contactCandidates v.store.reviewCandidates⌝,
        fun _ _ => ⌜True⌝⟩⦄ := by
  mvcgen [upsertContact, flush, Lib.flush]

/-- A creation, when no review was asked for a candidate that is still to come. -/
theorem insertContactCandidate_creates (tools : EnrichmentTools)
    (payload : ContactEnrichmentCreate) (key : String) {w : DbWorld}
    (hanchored : ReviewsAnchored w.store.contactCandidates w.store.reviewCandidates) :
    Lib.Establishes (insertContactCandidate tools payload key) w
      (fun i v => Created key w.store.contactCandidates w.store.reviewCandidates i
        v.store.contactCandidates v.store.reviewCandidates)
      (fun _ _ => True) := by
  have hupsert := upsertContact_beside fun candidates reviews =>
    candidates = w.store.contactCandidates ++
        [candidateFor tools payload key (resolveCandidate payload w.store).1
          (resolveCandidate payload w.store).2] ∧
      reviews = w.store.reviewCandidates
  apply Lib.establishes_of_triple
  mvcgen [insertContactCandidate, requestReview, hupsert, flush, Lib.flush]
  all_goals subst_vars
  · exact .found ‹_›
  · exact ⟨rfl, rfl⟩
  · next v hnew _ _ _ heligible c v' hrows =>
    have hlast : (enqueueEvent .contactDiscovered "contact" c
        (.paired .contactDiscovered v.store.contactCandidates.length c)
        (v'.store.updateCandidate v.store.contactCandidates.length fun row =>
          { row with contactId := some c })).contactCandidates =
        v.store.contactCandidates ++ [{ candidateFor tools payload key
          (resolveCandidate payload v.store).1 (resolveCandidate payload v.store).2 with
            contactId := some c }] := by
      simp only [enqueueEvent, Store.updateCandidate, hrows.1]
      exact Table.modify_last _ _ _
    rw [hlast]
    have hreviews : (enqueueEvent .contactDiscovered "contact" c
        (.paired .contactDiscovered v.store.contactCandidates.length c)
        (v'.store.updateCandidate v.store.contactCandidates.length fun row =>
          { row with contactId := some c })).reviewCandidates = v.store.reviewCandidates :=
      hrows.2
    rw [hreviews]
    exact .eligible hnew heligible
  · next v hnew _ _ _ _ found hfound =>
    obtain ⟨hrow, hkey⟩ := Table.first?_some hfound
    have hkey := beq_iff_eq.mp hkey
    have hstored := hanchored found.2 (List.mem_of_getElem? hrow) (by rw [hkey])
    rw [hkey] at hstored
    exact absurd hstored (Nat.lt_irrefl _)
  · exact .reviewed ‹_›

end Creation

section Growth

/-- The tables grown from given ones by creations: reviews were added for new
candidates only, and every new candidate is eligible or under review. -/
structure Grown (candidates : Table ContactEnrichmentCandidate)
    (reviews : Table ReviewCandidate) (candidates' : Table ContactEnrichmentCandidate)
    (reviews' : Table ReviewCandidate) : Prop where
  rows : candidates <+: candidates'
  added : ∃ more, reviews' = reviews ++ more ∧
    ∀ review ∈ more, candidates.length ≤ review.targetId
  anchored : ReviewsAnchored candidates' reviews'
  reviewed : ∀ i, candidates.length ≤ i → underReview candidates' reviews' i = true

/-- The candidate the first tables have under the key, or a new one. -/
def Answers (candidates : Table ContactEnrichmentCandidate) (key : String) (i : Id) : Prop :=
  match candidates.first? (·.idempotencyKey == key) with
  | some (found, _) => i = found
  | none => candidates.length ≤ i

variable {candidates candidates' : Table ContactEnrichmentCandidate}
  {reviews reviews' : Table ReviewCandidate}

/-- A new row and more reviews take no candidate out of review. -/
theorem underReview_grow {k : Id} {row : ContactEnrichmentCandidate}
    {more : Table ReviewCandidate} (h : underReview candidates reviews k = true)
    (hk : k ≠ candidates.length) :
    underReview (candidates ++ [row]) (reviews ++ more) k = true := by
  have hrow : (candidates ++ [row])[k]? = candidates[k]? := by
    rcases Nat.lt_or_gt_of_ne hk with hlt | hgt
    · exact List.getElem?_append_left hlt
    · rw [List.getElem?_eq_none (by simp; omega), List.getElem?_eq_none (by omega)]
  unfold underReview at h ⊢
  rw [hrow]
  cases hstored : candidates[k]? with
  | none => rfl
  | some old =>
    rw [hstored] at h
    simp only [Option.all_some, Bool.or_eq_true, openReview_append] at h ⊢
    rcases h with heligible | hopen
    · exact Or.inl heligible
    · exact Or.inr (Or.inl hopen)

theorem Grown.refl (h : ReviewsAnchored candidates reviews) :
    Grown candidates reviews candidates reviews := by
  refine ⟨List.prefix_rfl, ⟨[], by simp, by simp⟩, h, ?_⟩
  intro i hi
  simp [underReview, List.getElem?_eq_none hi]

/-- A candidate of the first tables is under review now exactly when it was. -/
theorem Grown.underReview_old (h : Grown candidates reviews candidates' reviews') {i : Id}
    (hi : i < candidates.length) :
    underReview candidates' reviews' i = underReview candidates reviews i := by
  obtain ⟨more, rfl, hmore⟩ := h.added
  have hother : openReview more i = false := by
    simp only [openReview, List.any_eq_false, Bool.and_eq_true, beq_iff_eq, not_and]
    intro review hreview ⟨_, htarget⟩
    have hnew := hmore review hreview
    rw [htarget] at hnew
    exact absurd hnew (not_le.mpr hi)
  have hrow : candidates'[i]? = candidates[i]? := by
    obtain ⟨added, rfl⟩ := h.rows
    exact List.getElem?_append_left hi
  simp [underReview, hrow, openReview_append, hother]

/-- One creation more. -/
theorem Grown.create {key : String} {i : Id} {candidates'' : Table ContactEnrichmentCandidate}
    {reviews'' : Table ReviewCandidate} (h : Grown candidates reviews candidates' reviews')
    (hcreated : Created key candidates' reviews' i candidates'' reviews'') :
    Grown candidates reviews candidates'' reviews'' ∧ Answers candidates key i := by
  have hlength := h.rows.length_le
  have hnone : candidates'.first? (·.idempotencyKey == key) = none →
      Answers candidates key candidates'.length := by
    intro hnew
    unfold Answers
    split
    · next found row hfound =>
      rw [Table.first?_of_prefix h.rows hfound] at hnew
      cases hnew
    · exact hlength
  cases hcreated with
  | @found i row hfound =>
    refine ⟨h, ?_⟩
    unfold Answers
    split
    · next j old hold =>
      rw [Table.first?_of_prefix h.rows hold] at hfound
      cases hfound
      rfl
    · next hfree =>
      by_contra hlt
      obtain ⟨hrow, hkey⟩ := Table.first?_some hfound
      obtain ⟨added, rfl⟩ := h.rows
      rw [List.getElem?_append_left (not_le.mp hlt)] at hrow
      have hnot := Table.first?_none.mp hfree row (List.mem_of_getElem? hrow)
      exact Bool.false_ne_true (hnot.symm.trans hkey)
  | @eligible row hnew hstatus =>
    refine ⟨⟨h.rows.trans (List.prefix_append _ _), h.added,
      h.anchored.mono (by simp), ?_⟩, hnone hnew⟩
    intro k hk
    by_cases hlast : k = candidates'.length
    · subst hlast
      simp [underReview, hstatus]
    · have hgrown : underReview (candidates' ++ [row]) (reviews' ++ []) k = true :=
        underReview_grow (h.reviewed k hk) hlast
      rwa [List.append_nil] at hgrown
  | @reviewed row candidate reasonCode hnew =>
    obtain ⟨more, hreviews, hmore⟩ := h.added
    refine ⟨⟨h.rows.trans (List.prefix_append _ _), ?_, ?_, ?_⟩, hnone hnew⟩
    · refine ⟨more ++ [reviewFor candidates'.length candidate reasonCode], ?_, ?_⟩
      · rw [hreviews, List.append_assoc]
      · intro review hreview
        rcases List.mem_append.mp hreview with hold | hlast
        · exact hmore review hold
        · rw [List.mem_singleton] at hlast
          subst hlast
          exact hlength
    · refine ReviewsAnchored.addReview (h.anchored.mono (by simp)) fun _ => ?_
      simp [reviewFor]
    · intro k hk
      by_cases hlast : k = candidates'.length
      · subst hlast
        simp [underReview, openReview, reviewFor]
      · exact underReview_grow (h.reviewed k hk) hlast

/-- Whether the answered candidate is under review now. -/
theorem Grown.answer (h : Grown candidates reviews candidates' reviews') {key : String} {i : Id}
    (hi : Answers candidates key i) :
    underReview candidates' reviews' i =
      (candidates.first? (·.idempotencyKey == key)).all fun found =>
        underReview candidates reviews found.1 := by
  unfold Answers at hi
  split at hi
  · next found row hfound =>
    subst hi
    have hplace := (List.getElem?_eq_some_iff.mp (Table.first?_some hfound).1).1
    rw [hfound, h.underReview_old hplace]
    rfl
  · next hfree =>
    rw [hfree, h.reviewed i hi]
    rfl

end Growth

section Calls

variable [Casing] {w : DbWorld}

/-- Creations in one session. -/
theorem insertContactCandidate_grows (tools : EnrichmentTools)
    (payload : ContactEnrichmentCreate) (key : String)
    (candidates : Table ContactEnrichmentCandidate) (reviews : Table ReviewCandidate) :
    ⦃fun v => ⌜Grown candidates reviews v.store.contactCandidates v.store.reviewCandidates⌝⦄
      insertContactCandidate tools payload key
      ⦃post⟨fun i v => ⌜Grown candidates reviews v.store.contactCandidates
        v.store.reviewCandidates ∧ Answers candidates key i⌝, fun _ _ => ⌜True⌝⟩⦄ := by
  apply Lib.triple_of_establishes
  intro v hgrown
  refine (insertContactCandidate_creates tools payload key hgrown.anchored).mono ?_ ?_
  · intro i v' hcreated
    exact hgrown.create hcreated
  · intro _ _ _
    trivial

omit [Casing] in
/-- The reviews and candidates do not change when a search result is stored. -/
theorem persistSearchRawItem_keeps (I : Table ContactEnrichmentCandidate →
      Table ReviewCandidate → Prop) (tools : EnrichmentTools) (source : Id)
    (result : SearchResult) :
    ⦃fun v => ⌜I v.store.contactCandidates v.store.reviewCandidates⌝⦄
      persistSearchRawItem tools source result
      ⦃post⟨fun _ v => ⌜I v.store.contactCandidates v.store.reviewCandidates⌝,
        fun _ _ => ⌜True⌝⟩⦄ := by
  mvcgen [persistSearchRawItem, flush, Lib.flush, Lib.queryOrRaise]

omit [Casing] in
theorem searchSourceDefinition_keeps (I : Table ContactEnrichmentCandidate →
      Table ReviewCandidate → Prop) (providerName actor : String) :
    ⦃fun v => ⌜I v.store.contactCandidates v.store.reviewCandidates⌝⦄
      searchSourceDefinition providerName actor
      ⦃post⟨fun _ v => ⌜I v.store.contactCandidates v.store.reviewCandidates⌝,
        fun _ _ => ⌜True⌝⟩⦄ := by
  mvcgen [searchSourceDefinition, flush, Lib.flush]

/-- The keys of the candidates a search asks for, up to its end. -/
def searchedKeys (tools : EnrichmentTools) (target : WatchSubject) (results : List SearchResult) :
    List String :=
  results.filterMap fun result =>
    if result.url = "" then none
    else
      match tools.normalizeUrl result.url with
      | .error _ => none
      | .ok canonicalUrl => some (watchContactKey target canonicalUrl)

/-- The loop over search results answers with one candidate for each key. -/
theorem insertSearchedContacts_grows (tools : EnrichmentTools) (target : WatchSubject)
    (source : Id) (results : List SearchResult)
    (candidates : Table ContactEnrichmentCandidate) (reviews : Table ReviewCandidate) :
    ⦃fun v => ⌜Grown candidates reviews v.store.contactCandidates v.store.reviewCandidates⌝⦄
      insertSearchedContacts tools target source results
      ⦃post⟨fun ids v => ⌜Grown candidates reviews v.store.contactCandidates
        v.store.reviewCandidates ∧
          List.Forall₂ (Answers candidates) (searchedKeys tools target results) ids⌝,
        fun _ _ => ⌜True⌝⟩⦄ := by
  have hinsert := fun payload key =>
    insertContactCandidate_grows tools payload key candidates reviews
  have hitem := persistSearchRawItem_keeps (Grown candidates reviews) tools
  induction results with
  | nil =>
    mvcgen [insertSearchedContacts]
    exact ⟨‹_›, .nil⟩
  | cons result rest ih =>
    have hkeys : ∀ {canonicalUrl : String}, ¬ result.url = "" →
        (tools.normalizeUrl result.url).mapError PyError.valueError = .ok canonicalUrl →
        searchedKeys tools target (result :: rest) =
          watchContactKey target canonicalUrl :: searchedKeys tools target rest := by
      intro canonicalUrl hurl hnormal
      cases hresult : tools.normalizeUrl result.url with
      | error message =>
        rw [hresult] at hnormal
        cases hnormal
      | ok found =>
        rw [hresult] at hnormal
        cases hnormal
        simp [searchedKeys, hurl, hresult]
    mvcgen [insertSearchedContacts, hinsert, hitem, ih, Lib.queryOrRaise]
    · next hurl v hgrown ids v' =>
      intro hrest hanswers
      refine ⟨hrest, ?_⟩
      simpa [searchedKeys, hurl] using hanswers
    · next hanswer => exact hanswer.1
    · next hurl _ _ _ _ _ canonicalUrl hnormal i _ hanswer ids v' hrest =>
      refine ⟨hrest.1, ?_⟩
      rw [hkeys hurl hnormal]
      exact .cons hanswer.2 hrest.2

section Updates

omit [Casing]

variable {s : Store} {i : Id} {f : ContactEnrichmentCandidate → ContactEnrichmentCandidate}

@[simp] theorem updateCandidate_length :
    (s.updateCandidate i f).contactCandidates.length = s.contactCandidates.length := by
  simp [Store.updateCandidate]

@[simp] theorem updateCandidate_row :
    (s.updateCandidate i f).contactCandidates[i]? = (s.contactCandidates[i]?).map f := by
  simp [Store.updateCandidate]

@[simp] theorem updateCandidate_reviews :
    (s.updateCandidate i f).reviewCandidates = s.reviewCandidates := rfl

end Updates

/-- The queue after a discovery: one open review more if it asked for one. -/
structure Queued (asks : Bool) (i : Id) (reviews reviews' : Table ReviewCandidate) : Prop where
  asked : asks = true → ∃ review : ReviewCandidate, reviews' = reviews ++ [review] ∧
    review.targetType = "contact_enrichment_candidate" ∧ review.targetId = i ∧
    review.status = "open" ∧
    review.idempotencyKey = ("contact_enrichment", i, "domain_discovery_failed")
  silent : asks = false → reviews' = reviews

omit [Casing] in
/-- A review that is there already is not asked for again. -/
theorem Queued.found {i : Id} {reviews reviews' : Table ReviewCandidate} {asks : Bool}
    (hasks : asks = false) (hsame : reviews' = reviews) : Queued asks i reviews reviews' := by
  refine ⟨?_, fun _ => hsame⟩
  intro hasked
  rw [hasks] at hasked
  cases hasked

omit [Casing] in
theorem Queued.inserted {i : Id} {reviews : Table ReviewCandidate} {asks : Bool}
    {review : ReviewCandidate} (hasks : asks = true)
    (hreview : review.targetType = "contact_enrichment_candidate" ∧ review.targetId = i ∧
      review.status = "open" ∧
      review.idempotencyKey = ("contact_enrichment", i, "domain_discovery_failed")) :
    Queued asks i reviews (reviews ++ [review]) := by
  refine ⟨fun _ => ⟨review, rfl, hreview⟩, ?_⟩
  intro hsilent
  rw [hasks] at hsilent
  cases hsilent

/-- The results name no domain, and this was never the reason of a review. -/
def asksFor (tools : EnrichmentTools) (i : Id) (results : List SearchResult)
    (reviews : Table ReviewCandidate) : Bool :=
  (selectDomain tools results).isNone &&
    (reviews.first? (·.idempotencyKey ==
      ("contact_enrichment", i, "domain_discovery_failed"))).isNone

/-- What applying search results to a candidate leaves in the two tables. -/
structure Applied (tools : EnrichmentTools) (i : Id) (candidate : ContactEnrichmentCandidate)
    (results : List SearchResult) (s : Store)
    (candidates : Table ContactEnrichmentCandidate) (reviews : Table ReviewCandidate) :
    Prop where
  length : candidates.length = s.contactCandidates.length
  row : ∃ row : ContactEnrichmentCandidate, candidates[i]? = some row ∧
    match selectDomain tools results with
    | some _ => row.domain.isSome = true ∧
        (row.status = .eligible ↔ candidate.roleScope.incidentScope = true)
    | none => row.domain = candidate.domain ∧ row.status = .needsReview
  queued : Queued (asksFor tools i results s.reviewCandidates) i s.reviewCandidates reviews

theorem applyDomainDiscovery_applies (tools : EnrichmentTools) (i : Id)
    (candidate : ContactEnrichmentCandidate) (results : List SearchResult)
    (providerName actor : String) (s : Store)
    (hrow : s.contactCandidates[i]? = some candidate) :
    ⦃fun v => ⌜v.store.contactCandidates = s.contactCandidates ∧
        v.store.reviewCandidates = s.reviewCandidates⌝⦄
      applyDomainDiscovery tools i candidate results providerName actor
      ⦃post⟨fun _ v => ⌜Applied tools i candidate results s v.store.contactCandidates
        v.store.reviewCandidates⌝, fun _ _ => ⌜True⌝⟩⦄ := by
  have hsource := searchSourceDefinition_keeps fun candidates reviews =>
    candidates = s.contactCandidates ∧ reviews = s.reviewCandidates
  have hitem := persistSearchRawItem_keeps (fun candidates reviews =>
    candidates = s.contactCandidates ∧ reviews = s.reviewCandidates) tools
  have hupsert := upsertContact_beside fun candidates reviews =>
    candidates.length = s.contactCandidates.length ∧ reviews = s.reviewCandidates ∧
      ∃ row : ContactEnrichmentCandidate, candidates[i]? = some row ∧
        row.status = .eligible ∧ row.domain.isSome = true
  have hselected : ∀ {found}, selectDomain tools results = some found →
      asksFor tools i results s.reviewCandidates = false := by
    intro found hfound
    simp [asksFor, hfound]
  have hasked : ∀ {reviews : Table ReviewCandidate} {found : Id × ReviewCandidate},
      reviews = s.reviewCandidates →
      reviews.first? (·.idempotencyKey ==
        ("contact_enrichment", i, "domain_discovery_failed")) = some found →
      asksFor tools i results s.reviewCandidates = false := by
    intro reviews found hsame hfound
    simp [asksFor, ← hsame, hfound]
  have hfree : ∀ {reviews : Table ReviewCandidate}, selectDomain tools results = none →
      reviews = s.reviewCandidates →
      reviews.first? (·.idempotencyKey ==
        ("contact_enrichment", i, "domain_discovery_failed")) = none →
      asksFor tools i results s.reviewCandidates = true := by
    intro reviews hnone hsame hfound
    simp [asksFor, hnone, ← hsame, hfound]
  mvcgen [applyDomainDiscovery, requestReview, hsource, hitem, hupsert, flush, Lib.flush]
  · simp [adoptDomain, *]
  · next hleft _ =>
    obtain ⟨hlength, hreviews, row, hfound, hstatus, hdomain⟩ := hleft
    refine ⟨by simpa [bumpVersion] using hlength, ?_, .found (hselected ‹_›) hreviews⟩
    simp [bumpVersion, *]
  · next hsame _ _ _ =>
    refine ⟨by simp [adoptDomain, bumpVersion, hsame], ?_, .found (hselected ‹_›) hsame.2⟩
    simp [adoptDomain, bumpVersion, *]
  · next hsame _ _ =>
    refine ⟨by simp [adoptDomain, bumpVersion, hsame], ?_, .found (hselected ‹_›) hsame.2⟩
    simp [adoptDomain, bumpVersion, *]
  · next hsame found hfound _ =>
    refine ⟨by simp [failDiscovery, bumpVersion, hsame], ?_,
      .found (hasked hsame.2 hfound) hsame.2⟩
    simp [failDiscovery, bumpVersion, *]
  · next hsame hfound _ _ =>
    refine ⟨by simp [failDiscovery, bumpVersion, insertReview, enqueueEvent, hsame], ?_, ?_⟩
    · simp [failDiscovery, bumpVersion, insertReview, enqueueEvent, *]
    · rw [← hsame.2]
      exact .inserted (hsame.2 ▸ hfree ‹_› hsame.2 hfound) ⟨rfl, rfl, rfl, rfl⟩
  · next hsame found hfound _ =>
    refine ⟨by simp [failDiscovery, bumpVersion, hsame], ?_,
      .found (hasked hsame.2 hfound) hsame.2⟩
    simp [failDiscovery, bumpVersion, *]
  · next hsame hfound _ _ =>
    refine ⟨by simp [failDiscovery, bumpVersion, insertReview, enqueueEvent, hsame], ?_, ?_⟩
    · simp [failDiscovery, bumpVersion, insertReview, enqueueEvent, *]
    · rw [← hsame.2]
      exact .inserted (hsame.2 ▸ hfree ‹_› hsame.2 hfound) ⟨rfl, rfl, rfl, rfl⟩

/-- What a discovery for a stored candidate leaves in the two tables. -/
structure Discovered (tools : EnrichmentTools) (ctx : DiscoveryContext) (i : Id)
    (candidate : ContactEnrichmentCandidate) (s : Store)
    (candidates : Table ContactEnrichmentCandidate) (reviews : Table ReviewCandidate) :
    Prop where
  length : candidates.length = s.contactCandidates.length
  status : ∃ row : ContactEnrichmentCandidate, candidates[i]? = some row ∧
    (row.status = .eligible ↔ candidate.promotedBy tools ctx = true)
  queued : Queued (candidate.asksReview tools ctx i s) i s.reviewCandidates reviews

section Endings

variable {tools : EnrichmentTools} {ctx : DiscoveryContext} {i : Id}
  {candidate : ContactEnrichmentCandidate} {results : List SearchResult} {s : Store}
  {candidates : Table ContactEnrichmentCandidate} {reviews : Table ReviewCandidate}

/-- A search that answers decides what a discovery does. -/
theorem promotedBy_results (hsubject : querySubject candidate ≠ "")
    (hsearch : ctx.search (querySubject candidate ++ " official website") = .ok results) :
    candidate.promotedBy tools ctx =
        (match selectDomain tools results with
          | some _ => candidate.roleScope.incidentScope
          | none => ctx.profile == .local && candidate.domain.isNone &&
              (inferredDemoDomain tools
                [candidate.organization, some candidate.publishedName]).isSome) ∧
      candidate.asksReview tools ctx i s = asksFor tools i results s.reviewCandidates := by
  have hne : (querySubject candidate != "") = true := bne_iff_ne.mpr hsubject
  refine ⟨?_, ?_⟩
  · cases hselect : selectDomain tools results <;>
      simp [ContactEnrichmentCandidate.promotedBy, hne, hsearch, hselect]
  · simp only [ContactEnrichmentCandidate.asksReview, asksFor, hne, hsearch, Bool.true_and]

/-- A discovery that ends with the applied results. -/
theorem Applied.ends (h : Applied tools i candidate results s candidates reviews)
    (hsubject : querySubject candidate ≠ "")
    (hsearch : ctx.search (querySubject candidate ++ " official website") = .ok results)
    (hfallback : (((candidates[i]?).bind (·.domain)).isNone = true ∧ ctx.profile = .local) →
      inferredDemoDomain tools [candidate.organization, some candidate.publishedName] = none) :
    Discovered tools ctx i candidate s candidates reviews := by
  obtain ⟨hpromoted, hasks⟩ :=
    @promotedBy_results _ tools ctx i candidate results s hsubject hsearch
  obtain ⟨row, hrow, happlied⟩ := h.row
  refine ⟨h.length, ⟨row, hrow, ?_⟩, by rw [hasks]; exact h.queued⟩
  rw [hpromoted]
  cases hselect : selectDomain tools results with
  | some found =>
    rw [hselect] at happlied
    exact happlied.2
  | none =>
    rw [hselect] at happlied
    have hdomain : (candidates[i]?).bind (·.domain) = candidate.domain := by
      rw [hrow]
      exact happlied.1
    rw [hdomain] at hfallback
    simp only [happlied.2, reduceCtorEq, false_iff, Bool.and_eq_true, beq_iff_eq, not_and,
      Bool.not_eq_true]
    rintro ⟨hlocal, hnone⟩
    simp [hfallback ⟨hnone, hlocal⟩]

/-- A discovery that makes up a domain at last. -/
theorem Applied.infers (h : Applied tools i candidate results s candidates reviews)
    (hsubject : querySubject candidate ≠ "")
    (hsearch : ctx.search (querySubject candidate ++ " official website") = .ok results)
    (hnone : ((candidates[i]?).bind (·.domain)).isNone = true) (hlocal : ctx.profile = .local)
    {inferred : String}
    (hinferred : inferredDemoDomain tools
      [candidate.organization, some candidate.publishedName] = some inferred)
    {f : ContactEnrichmentCandidate → ContactEnrichmentCandidate}
    (hf : ∀ row, (f row).status = .eligible) :
    Discovered tools ctx i candidate s (candidates.modify i f) reviews := by
  obtain ⟨hpromoted, hasks⟩ :=
    @promotedBy_results _ tools ctx i candidate results s hsubject hsearch
  obtain ⟨row, hrow, happlied⟩ := h.row
  refine ⟨by simpa using h.length, ⟨f row, by simp [hrow], ?_⟩,
    by rw [hasks]; exact h.queued⟩
  rw [hpromoted]
  cases hselect : selectDomain tools results with
  | some found =>
    rw [hselect] at happlied
    rw [hrow] at hnone
    have hdomain : row.domain.isNone = true := hnone
    rw [Option.isNone_iff_eq_none.mp hdomain] at happlied
    cases happlied.1
  | none =>
    rw [hselect] at happlied
    rw [hrow] at hnone
    have hdomain : candidate.domain.isNone = true := by
      rw [← happlied.1]
      exact hnone
    simp [hf row, hlocal, hdomain, hinferred]

end Endings

/-- A committed discovery. -/
theorem discover_discovers {tools : EnrichmentTools} {ctx : DiscoveryContext} {i : Id}
    {candidate : ContactEnrichmentCandidate}
    (hrow : w.store.contactCandidates[i]? = some candidate)
    (hreturned : (returned (discoverContactCandidateDomain tools ctx i) w).isSome = true) :
    Discovered tools ctx i candidate w.store
      (after (discoverContactCandidateDomain tools ctx i) w).store.contactCandidates
      (after (discoverContactCandidateDomain tools ctx i) w).store.reviewCandidates := by
  obtain ⟨⟨⟩, hok⟩ := Option.isSome_iff_exists.mp hreturned
  have happly := fun found results providerName actor hfound =>
    applyDomainDiscovery_applies tools i found results providerName actor w.store hfound
  have hsearch : ∀ {text : String} {results : List SearchResult},
      (ctx.search text).mapError PyError.providerError = .ok results →
        ctx.search text = .ok results := by
    intro text results hresults
    cases hasked : ctx.search text with
    | error message =>
      rw [hasked] at hresults
      cases hresults
    | ok found =>
      rw [hasked] at hresults
      cases hresults
      rfl
  refine (Lib.sessionScope_returns (R := fun v => Discovered tools ctx i candidate w.store
    v.store.contactCandidates v.store.reviewCandidates) (Lib.run_of_returned hok) ?_).1
  mvcgen [Lib.queryOrRaise, happly]
  all_goals subst_vars
  · next v found hfound hsubject =>
    obtain rfl : candidate = found := Option.some.inj (hrow.symm.trans hfound)
    refine ⟨by simp, ?_, .found ?_ rfl⟩
    · simp [hrow, ContactEnrichmentCandidate.promotedBy, hsubject]
    · simp [ContactEnrichmentCandidate.asksReview, hsubject]
  · assumption
  · exact ⟨rfl, rfl⟩
  · next v found hfound hsubject results hresults _ v' hlocal inferred hinferred happlied =>
    obtain rfl : candidate = found := Option.some.inj (hrow.symm.trans hfound)
    exact happlied.infers hsubject (hsearch hresults) hlocal.1 hlocal.2 hinferred fun _ => rfl
  · next v found hfound hsubject results hresults _ v' hlocal hinferred happlied =>
    obtain rfl : candidate = found := Option.some.inj (hrow.symm.trans hfound)
    exact happlied.ends hsubject (hsearch hresults) fun _ => hinferred
  · next v found hfound hsubject results hresults _ v' hlocal happlied =>
    obtain rfl : candidate = found := Option.some.inj (hrow.symm.trans hfound)
    exact happlied.ends hsubject (hsearch hresults) fun hboth => absurd hboth hlocal
  · next v hnone => exact (hnone candidate hrow).elim

omit [Casing] in
theorem Discovered.anchored [Casing] {tools : EnrichmentTools} {ctx : DiscoveryContext} {i : Id}
    {candidate : ContactEnrichmentCandidate} {s : Store}
    {candidates : Table ContactEnrichmentCandidate} {reviews : Table ReviewCandidate}
    (h : Discovered tools ctx i candidate s candidates reviews)
    (hrow : s.contactCandidates[i]? = some candidate)
    (hanchored : ReviewsAnchored s.contactCandidates s.reviewCandidates) :
    ReviewsAnchored candidates reviews := by
  have hold : ReviewsAnchored candidates s.reviewCandidates :=
    hanchored.mono (le_of_eq h.length.symm)
  cases hasks : candidate.asksReview tools ctx i s with
  | false =>
    rw [h.queued.silent hasks]
    exact hold
  | true =>
    obtain ⟨review, hreviews, -, -, -, hkey⟩ := h.queued.asked hasks
    rw [hreviews]
    refine hold.addReview fun _ => ?_
    rw [hkey, h.length]
    exact (List.getElem?_eq_some_iff.mp hrow).1

omit [Casing] in
theorem persistAll_keepsReviews {I : Table ContactEnrichmentCandidate →
      Table ReviewCandidate → Prop} (idempotencyKey : String) (c : Id) (lineage : Lineage)
    (generated : List (String × String)) :
    ⦃fun v => ⌜I v.store.contactCandidates v.store.reviewCandidates⌝⦄
      persistAll idempotencyKey c lineage generated
      ⦃post⟨fun _ v => ⌜I v.store.contactCandidates v.store.reviewCandidates⌝,
        fun _ _ => ⌜True⌝⟩⦄ := by
  induction generated with
  | nil => mvcgen [persistAll]
  | cons first rest ih =>
    obtain ⟨email, pattern⟩ := first
    mvcgen [persistAll, persistGenerated, flush, Lib.flush, ih]

/-- Reviews of verified addresses are no reviews of contact candidates. -/
theorem verifyRecords_anchored (rt : Runtime) (results : VerificationResults)
    (records : List (Id × EmailCandidateRecord)) (visible : Table OrganizationEmailPattern) :
    ⦃fun v => ⌜ReviewsAnchored v.store.contactCandidates v.store.reviewCandidates⌝⦄
      verifyRecords rt results records visible
      ⦃post⟨fun _ v => ⌜ReviewsAnchored v.store.contactCandidates v.store.reviewCandidates⌝,
        fun _ _ => ⌜True⌝⟩⦄ := by
  have hverified : ∀ (id : Id) (record : EmailCandidateRecord)
      (visible : Table OrganizationEmailPattern) (s : Store),
      (applyVerified rt.now visible id record s).contactCandidates = s.contactCandidates ∧
        (applyVerified rt.now visible id record s).reviewCandidates = s.reviewCandidates := by
    intro id record visible s
    unfold applyVerified upsertEmailPattern
    cases record.contactId <;> cases visible.first? _ <;> exact ⟨rfl, rfl⟩
  induction records generalizing visible with
  | nil => mvcgen [verifyRecords]
  | cons first rest ih =>
    obtain ⟨id, record⟩ := first
    mvcgen [verifyRecords, requestReview, flush, Lib.flush, ih]
    · next v hanchored =>
      rw [(hverified _ _ _ _).1, (hverified _ _ _ _).2]
      exact hanchored
    · next v hanchored _ _ _ => exact hanchored.addReview fun hkind => by simp at hkind

omit [Casing] in
theorem decideReview_anchored {r : Id} {approved : Bool} {s : Store}
    (h : ReviewsAnchored s.contactCandidates s.reviewCandidates) :
    ReviewsAnchored (decideReview r approved s).contactCandidates
      (decideReview r approved s).reviewCandidates := by
  have hkey : ∀ old : ReviewCandidate, (if old.status = "open" then
        { old with status := if approved then "approved" else "rejected" }
      else old).idempotencyKey = old.idempotencyKey := by
    intro old
    split <;> rfl
  intro review hreview hkind
  obtain ⟨k, hk⟩ := List.getElem?_of_mem hreview
  simp only [decideReview, List.getElem?_modify] at hk
  obtain ⟨old, hold, rfl⟩ := Option.map_eq_some_iff.mp hk
  have hmem := List.mem_of_getElem? hold
  by_cases hrk : r = k
  · simp only [hrk, if_true] at hkind ⊢
    rw [hkey old] at hkind ⊢
    exact h old hmem hkind
  · simp only [hrk, if_false] at hkind ⊢
    exact h old hmem hkind

/-- Every call keeps the reviews of contact candidates about stored ones. -/
theorem reviewStep_anchored (tools : EnrichmentTools) (op : ReviewOp)
    (h : ReviewsAnchored w.store.contactCandidates w.store.reviewCandidates) :
    ReviewsAnchored (reviewStep tools w op).store.contactCandidates
      (reviewStep tools w op).store.reviewCandidates := by
  let kept : Store → Prop := fun s => ReviewsAnchored s.contactCandidates s.reviewCandidates
  have hgrown := Grown.refl h
  cases op with
  | create payload key =>
    have hinsert := insertContactCandidate_grows tools payload key w.store.contactCandidates
      w.store.reviewCandidates
    refine (Lib.sessionScope_keeps (I := kept) h ?_).1
    mvcgen [hinsert]
    · subst_vars
      exact hgrown
    · next i v =>
      intro hcreated _
      exact hcreated.anchored
  | discover ctx i =>
    by_cases hreturned :
        (returned (discoverContactCandidateDomain tools ctx i) w).isSome = true
    · cases hrow : w.store.contactCandidates[i]? with
      | some candidate => exact (discover_discovers hrow hreturned).anchored hrow h
      | none =>
        have hidle : reviewStep tools w (.discover ctx i) = w := by
          apply Lib.after_sessionScope_idle (a := PUnit.unit)
          simp only [Lib.bind_run, Lib.query_run, hrow, Lib.pure_run]
        rw [hidle]
        exact h
    · have hstore : (reviewStep tools w (.discover ctx i)).store = w.store :=
        Lib.sessionScope_restores hreturned
      rw [hstore]
      exact h
  | search ctx target =>
    have hsource := searchSourceDefinition_keeps
      (Grown w.store.contactCandidates w.store.reviewCandidates)
    have hloop := fun source results => insertSearchedContacts_grows tools target source results
      w.store.contactCandidates w.store.reviewCandidates
    refine (Lib.sessionScope_keeps (I := kept) h ?_).1
    mvcgen [createContactCandidatesFromSearch, hsource, hloop, Lib.queryOrRaise]
    · subst_vars
      exact hgrown
    · next ids v =>
      intro hsearched _
      exact hsearched.anchored
  | persist request key generate =>
    have hall := fun c lineage generated =>
      persistAll_keepsReviews (I := ReviewsAnchored) key c lineage generated
    refine (Lib.sessionScope_keeps (I := kept) h ?_).1
    mvcgen [Lib.queryOrRaise, hall]
    all_goals subst_vars
    exact h
  | verify rt request verifier =>
    have hloop := verifyRecords_anchored rt
    refine (Lib.sessionScope_keeps (I := kept) h ?_).1
    mvcgen [Lib.queryOrRaise, hloop]
    all_goals subst_vars
    all_goals exact h
  | decide r approved =>
    refine (Lib.sessionScope_keeps (I := kept) h ?_).1
    mvcgen
    all_goals subst_vars
    exact decideReview_anchored h

/-- Whether the candidate a creation answers with is under review. -/
theorem create_underReview {tools : EnrichmentTools} {payload : ContactEnrichmentCreate}
    {key : String} {i : Id}
    (hanchored : ReviewsAnchored w.store.contactCandidates w.store.reviewCandidates)
    (hreturned : returned (createContactCandidate tools payload key) w = some i) :
    underReview (after (createContactCandidate tools payload key) w).store.contactCandidates
      (after (createContactCandidate tools payload key) w).store.reviewCandidates i =
        storedReviewed key w.store := by
  have hinsert := insertContactCandidate_grows tools payload key w.store.contactCandidates
    w.store.reviewCandidates
  have hcreated := (Lib.sessionScope_answers (R := fun i v =>
    Grown w.store.contactCandidates w.store.reviewCandidates v.store.contactCandidates
      v.store.reviewCandidates ∧ Answers w.store.contactCandidates key i)
    (Lib.run_of_returned hreturned) (by
      mvcgen [hinsert]
      subst_vars
      exact Grown.refl hanchored)).1
  exact hcreated.1.answer hcreated.2

/-- A search that returns answered for each of its keys. -/
theorem search_answers {tools : EnrichmentTools} {ctx : DiscoveryContext}
    {target : WatchSubject} {ids : List Id} {results : List SearchResult}
    (hanchored : ReviewsAnchored w.store.contactCandidates w.store.reviewCandidates)
    (hreturned : returned (discoverWatchTargetContacts tools ctx target) w = some ids)
    (hsearch : ctx.search (linkedinContactQuery target.displayName) = .ok results) :
    Grown w.store.contactCandidates w.store.reviewCandidates
        (after (discoverWatchTargetContacts tools ctx target) w).store.contactCandidates
        (after (discoverWatchTargetContacts tools ctx target) w).store.reviewCandidates ∧
      List.Forall₂ (Answers w.store.contactCandidates) (searchedKeys tools target results)
        ids := by
  have hsource := searchSourceDefinition_keeps
    (Grown w.store.contactCandidates w.store.reviewCandidates)
  have hloop := fun source results => insertSearchedContacts_grows tools target source results
    w.store.contactCandidates w.store.reviewCandidates
  refine (Lib.sessionScope_answers (R := fun ids v =>
    Grown w.store.contactCandidates w.store.reviewCandidates v.store.contactCandidates
      v.store.reviewCandidates ∧
        List.Forall₂ (Answers w.store.contactCandidates) (searchedKeys tools target results)
          ids) (Lib.run_of_returned hreturned) ?_).1
  rw [hsearch]
  mvcgen [createContactCandidatesFromSearch, hsource, hloop, Lib.queryOrRaise]
  all_goals subst_vars
  · exact Grown.refl hanchored
  · next found hfound _ _ _ _ _ =>
    intro hgrown hanswers
    cases hfound
    exact ⟨hgrown, hanswers⟩

/-- Whether the candidate of a discovery is under review. -/
theorem Discovered.underReview {tools : EnrichmentTools} {ctx : DiscoveryContext} {i : Id}
    {candidate : ContactEnrichmentCandidate} {s : Store}
    {candidates : Table ContactEnrichmentCandidate} {reviews : Table ReviewCandidate}
    (h : Discovered tools ctx i candidate s candidates reviews) :
    underReview candidates reviews i =
      (candidate.promotedBy tools ctx || openReview s.reviewCandidates i ||
        candidate.asksReview tools ctx i s) := by
  obtain ⟨row, hrow, hstatus⟩ := h.status
  have heligible : (row.status == .eligible) = candidate.promotedBy tools ctx := by
    rw [Bool.eq_iff_iff, beq_iff_eq]
    exact hstatus
  have hopen : openReview reviews i =
      (openReview s.reviewCandidates i || candidate.asksReview tools ctx i s) := by
    cases hasks : candidate.asksReview tools ctx i s with
    | false => rw [h.queued.silent hasks, Bool.or_false]
    | true =>
      obtain ⟨review, hreviews, htype, htarget, hfresh, -⟩ := h.queued.asked hasks
      rw [hreviews, openReview_append]
      simp [openReview, htype, htarget, hfresh]
  simp only [GhostRecon.underReview, hrow, Option.all_some, heligible, hopen, Bool.or_assoc]

omit [Casing] in
/-- The keys a search asks for are reviewed exactly when the call is. -/
theorem searchedKeys_reviewed {tools : EnrichmentTools} {target : WatchSubject}
    {results : List SearchResult} {s : Store} :
    (∀ key ∈ searchedKeys tools target results, storedReviewed key s = true) ↔
      (results.all fun result =>
        result.url == "" ||
          match tools.normalizeUrl result.url with
          | .error _ => true
          | .ok canonicalUrl => storedReviewed (watchContactKey target canonicalUrl) s) =
        true := by
  induction results with
  | nil => simp [searchedKeys]
  | cons result rest ih =>
    rw [List.all_cons, Bool.and_eq_true, ← ih]
    by_cases hurl : result.url = ""
    · simp [searchedKeys, hurl]
    · cases hnormal : tools.normalizeUrl result.url <;>
        simp [searchedKeys, hurl, hnormal]

omit [Casing] in
/-- What is true of the answers is true of the keys. -/
theorem forall_answers_iff {α β : Type} {R : α → β → Prop} {p : α → Bool} {q : β → Bool}
    {keys : List α} {answers : List β} (h : List.Forall₂ R keys answers)
    (hpq : ∀ key answer, R key answer → q answer = p key) :
    (∀ answer ∈ answers, q answer = true) ↔ ∀ key ∈ keys, p key = true := by
  induction h with
  | nil => simp
  | cons hfirst _ ih => simp [hpq _ _ hfirst, ih]

/-- A committed call leaves its candidates eligible or under review exactly when
it is reviewable. -/
theorem reviewed_iff_reviewable {tools : EnrichmentTools} {op : ReviewOp}
    (hanchored : ReviewsAnchored w.store.contactCandidates w.store.reviewCandidates)
    (hleft : (op.left tools w).isSome = true) :
    op.Reviewed tools w ↔ op.reviewable tools w = true := by
  obtain ⟨ids, hids⟩ := Option.isSome_iff_exists.mp hleft
  have hreviewed : op.Reviewed tools w ↔ ∀ i ∈ ids,
      underReview (reviewStep tools w op).store.contactCandidates
        (reviewStep tools w op).store.reviewCandidates i = true := by
    simp only [ReviewOp.Reviewed, hids, Option.some.injEq, forall_eq']
  rw [hreviewed]
  cases op with
  | create payload key =>
    obtain ⟨i, hreturned, rfl⟩ := Option.map_eq_some_iff.mp hids
    rw [List.forall_mem_singleton]
    exact Bool.eq_iff_iff.mp (create_underReview hanchored hreturned)
  | discover ctx i =>
    obtain ⟨⟨⟩, hreturned, rfl⟩ := Option.map_eq_some_iff.mp hids
    rw [List.forall_mem_singleton]
    have hsome : (returned (discoverContactCandidateDomain tools ctx i) w).isSome = true := by
      rw [hreturned]
      rfl
    cases hrow : w.store.contactCandidates[i]? with
    | some candidate =>
      have hdiscovered := (discover_discovers hrow hsome).underReview
      simp only [ReviewOp.reviewable, hrow, Option.all_some]
      exact Bool.eq_iff_iff.mp hdiscovered
    | none =>
      have hidle : reviewStep tools w (.discover ctx i) = w := by
        apply Lib.after_sessionScope_idle (a := PUnit.unit)
        simp only [Lib.bind_run, Lib.query_run, hrow, Lib.pure_run]
      rw [hidle]
      simp [underReview, ReviewOp.reviewable, hrow]
  | search ctx target =>
    cases hsearch : ctx.search (linkedinContactQuery target.displayName) with
    | ok results =>
      obtain ⟨hgrown, hanswers⟩ := search_answers hanchored hids hsearch
      have hkeys := forall_answers_iff (q := fun i => underReview
          (reviewStep tools w (.search ctx target)).store.contactCandidates
          (reviewStep tools w (.search ctx target)).store.reviewCandidates i)
        (p := fun key => storedReviewed key w.store) hanswers
        fun key i hanswer => hgrown.answer hanswer
      rw [hkeys, searchedKeys_reviewed]
      simp only [ReviewOp.reviewable, hsearch]
    | error message =>
      have hraised : returned (discoverWatchTargetContacts tools ctx target) w = none := by
        simp only [returned, discoverWatchTargetContacts, sessionScope, Lib.sessionScope_run,
          Lib.bind_run, Lib.queryOrRaise_run, hsearch, Except.mapError]
      rw [ReviewOp.left, hraised] at hids
      cases hids
  | persist request key generate => cases hids
  | verify rt request verifier => cases hids
  | decide r approved => cases hids

/-- In every reachable state a committed call leaves its candidates eligible or
with an open review exactly when it makes them eligible, finds them so, or asks
for a review under a key no earlier review has. -/
theorem left_candidates_reviewed_iff {tools : EnrichmentTools} {ops : List ReviewOp}
    {op : ReviewOp}
    (hstart : ReviewsAnchored w.store.contactCandidates w.store.reviewCandidates)
    (hleft : (op.left tools (run (reviewStep tools) w ops)).isSome = true) :
    op.Reviewed tools (run (reviewStep tools) w ops) ↔
      op.reviewable tools (run (reviewStep tools) w ops) = true := by
  refine reviewed_iff_reviewable ?_ hleft
  exact Lib.run_always_keeps
    (I := fun v : DbWorld => ReviewsAnchored v.store.contactCandidates v.store.reviewCandidates)
    (fun _ op h => reviewStep_anchored tools op h) ops hstart

end Calls

section Forgotten

/-- The analyst rejects the breached name, and then a search finds no site for
its organization. -/
def rejectedThenFailed : List ReviewOp :=
  [.create breachedName "list:ada", .discover (discoveryOf []) 0, .decide 0 false, .decide 1 false]

/-- A second search that fails leaves the name in need of a review nobody is
asked for. -/
theorem failed_again_unreviewed :
    ¬ ∀ (tools : EnrichmentTools) (ops : List ReviewOp) (op : ReviewOp),
      op.Reviewed tools (run (reviewStep tools) noRows ops) := by
  intro h
  have hreviewed := h plainTools rejectedThenFailed (.discover (discoveryOf []) 0) [0]
    (by decide +kernel) 0 (by decide)
  have hforgotten : underReview
      (reviewStep plainTools (run (reviewStep plainTools) noRows rejectedThenFailed)
        (.discover (discoveryOf []) 0)).store.contactCandidates
      (reviewStep plainTools (run (reviewStep plainTools) noRows rejectedThenFailed)
        (.discover (discoveryOf []) 0)).store.reviewCandidates 0 = false := by decide +kernel
  rw [hforgotten] at hreviewed
  cases hreviewed

/-- The first search that fails asks for a review. -/
theorem failed_first_reviewed :
    (ReviewOp.discover (discoveryOf []) 0).Reviewed plainTools
      (run (reviewStep plainTools) noRows [.create breachedName "list:ada"]) :=
  (left_candidates_reviewed_iff (w := noRows) (by intro review hreview; cases hreview)
    (by decide +kernel)).mpr (by decide +kernel)

end Forgotten

end GhostRecon
