import GhostRecon.Enrichment.Contacts
import GhostRecon.Enrichment.Verification

/-!
What becomes of a blocked contact candidate. Its policy reason is stored when it
is created, and no later operation reads it: a domain discovery decides the
status again. The candidate stays without a contact as long as no discovery
promotes it, which happens when a search finds a domain for a role in incident
scope, or when the local profile makes a domain up.
-/

namespace GhostRecon

open Lib (Id Table after)
open Std.Do

set_option mvcgen.warning false

section Blocking

variable [Casing]

/-- The reasons that must not be forgotten. -/
def lastingReasons : List String :=
  ["breached_data_rejected", "participant_reuse_not_allowed", "incident_role_out_of_scope"]

/-- The payload is blocked for one of these reasons. -/
def ContactEnrichmentCreate.blockedForGood (payload : ContactEnrichmentCreate) : Bool :=
  match evaluateContactPolicy payload with
  | (.blocked, some reason) => reason ∈ lastingReasons
  | _ => false

inductive EnrichmentOp where
  | create (payload : ContactEnrichmentCreate) (key : String)
  | discover (ctx : DiscoveryContext) (i : Id)
  | persist (request : EmailCandidatePersistRequest) (key : String)
      (generate : String → String → List String → Table OrganizationEmailPattern →
        Except PyError (List (String × String)))
  | verify (rt : Runtime) (request : EmailVerifyBatchRequest)
      (verifier : List String → Except String VerificationResults)

/-- The world an enrichment call leaves behind. -/
def enrich (tools : EnrichmentTools) (w : DbWorld) : EnrichmentOp → DbWorld
  | .create payload key => after (createContactCandidate tools payload key) w
  | .discover ctx i => after (discoverContactCandidateDomain tools ctx i) w
  | .persist request key generate => after (persistEmailCandidates request key generate) w
  | .verify rt request verifier => after (verifyEmailCandidates rt request verifier) w

/-- The discovery would make the candidate eligible: it selects a domain for a
role in incident scope, or the local profile makes one up. -/
def ContactEnrichmentCandidate.promotedBy (candidate : ContactEnrichmentCandidate)
    (tools : EnrichmentTools) (ctx : DiscoveryContext) : Bool :=
  querySubject candidate != "" &&
    match ctx.search (querySubject candidate ++ " official website") with
    | .error _ => false
    | .ok results =>
      match selectDomain tools results with
      | some _ => candidate.roleScope.incidentScope
      | none =>
        ctx.profile == .local && candidate.domain.isNone &&
          (inferredDemoDomain tools
            [candidate.organization, some candidate.publishedName]).isSome

/-- The call is a discovery that promotes the candidate. -/
def EnrichmentOp.promotes (op : EnrichmentOp) (tools : EnrichmentTools) (i : Id)
    (w : DbWorld) : Bool :=
  match op with
  | .discover ctx j =>
    j == i && (w.store.contactCandidates[i]?).any (·.promotedBy tools ctx)
  | _ => false

/-- The candidate is held back: not eligible, without a contact, and no contact
was made under its key since the table had `base` rows. -/
structure Held (i : Id) (key : String) (base : Nat)
    (candidates : Table ContactEnrichmentCandidate) (contacts : Table Contact) : Prop where
  row : ∃ row : ContactEnrichmentCandidate, candidates[i]? = some row ∧
    row.idempotencyKey = key ∧ row.status ≠ .eligible ∧ row.contactId = none
  contacts : ∀ (c : Id) (contact : Contact), contacts[c]? = some contact →
    contact.idempotencyKey = some ("contact:" ++ key) → c < base

section Tables

variable {i : Id} {key : String} {base : Nat} {candidates : Table ContactEnrichmentCandidate}
  {contacts : Table Contact}

omit [Casing]

theorem Held.modifyOther (h : Held i key base candidates contacts) {j : Id} (hij : j ≠ i)
    (f : ContactEnrichmentCandidate → ContactEnrichmentCandidate) :
    Held i key base (candidates.modify j f) contacts := by
  obtain ⟨row, hrow, hheld⟩ := h.row
  refine ⟨⟨row, ?_, hheld⟩, h.contacts⟩
  rw [List.getElem?_modify_ne _ _ hij]
  exact hrow

/-- A change of the candidate itself that leaves it without contact and not
eligible. -/
theorem Held.modifySelf (h : Held i key base candidates contacts)
    {f : ContactEnrichmentCandidate → ContactEnrichmentCandidate}
    (hf : ∀ row : ContactEnrichmentCandidate, (f row).idempotencyKey = row.idempotencyKey ∧
      (row.status ≠ .eligible → (f row).status ≠ .eligible) ∧
        (f row).contactId = row.contactId) :
    Held i key base (candidates.modify i f) contacts := by
  obtain ⟨row, hrow, hkey, hstatus, hcontact⟩ := h.row
  obtain ⟨hfkey, hfstatus, hfcontact⟩ := hf row
  refine ⟨⟨f row, ?_, hfkey.trans hkey, hfstatus hstatus, hfcontact.trans hcontact⟩,
    h.contacts⟩
  rw [List.getElem?_modify_eq, hrow]
  rfl

theorem Held.addCandidate (h : Held i key base candidates contacts)
    (row : ContactEnrichmentCandidate) : Held i key base (candidates ++ [row]) contacts := by
  obtain ⟨held, hrow, hheld⟩ := h.row
  exact ⟨⟨held, Table.get_of_prefix (List.prefix_append _ _) i held hrow, hheld⟩, h.contacts⟩

/-- A contact made under another key. -/
theorem Held.addContact (h : Held i key base candidates contacts) {contact : Contact}
    (hkey : contact.idempotencyKey ≠ some ("contact:" ++ key)) :
    Held i key base candidates (contacts ++ [contact]) := by
  refine ⟨h.row, ?_⟩
  intro c found hfound hsame
  rw [List.getElem?_append] at hfound
  split at hfound
  · exact h.contacts c found hfound hsame
  · rw [List.getElem?_singleton] at hfound
    split at hfound
    · cases hfound
      exact absurd hsame hkey
    · cases hfound

/-- A contact that is rewritten keeps its key. -/
theorem Held.modifyContact (h : Held i key base candidates contacts) (c : Id)
    {f : Contact → Contact} (hf : ∀ contact, (f contact).idempotencyKey = contact.idempotencyKey) :
    Held i key base candidates (contacts.modify c f) := by
  refine ⟨h.row, ?_⟩
  intro d found hfound hsame
  rw [List.getElem?_modify] at hfound
  obtain ⟨old, hold, rfl⟩ := Option.map_eq_some_iff.mp hfound
  refine h.contacts d old hold ?_
  split at hsame
  · exact (hf old).symm.trans hsame
  · exact hsame

theorem contactKey_ne {candidate : ContactEnrichmentCandidate}
    (h : candidate.idempotencyKey ≠ key) :
    some (contactKey candidate) ≠ some ("contact:" ++ key) := by
  intro heq
  have htext : ("contact:" ++ candidate.idempotencyKey).toList = ("contact:" ++ key).toList :=
    congrArg String.toList (Option.some.inj heq)
  rw [String.toList_append, String.toList_append, List.append_cancel_left_eq] at htext
  exact h (String.toList_injective htext)

end Tables

section Helpers

/-! What the helpers of the operations leave alone. -/

variable {I : Table ContactEnrichmentCandidate → Table Contact → Prop}

omit [Casing]

theorem requestReview_beside (candidateType targetType : String) (targetId : Id)
    (originType originId : Option String) (sourceDefinitionId : Option Id)
    (sourceItemIds : List Id) (reasonCode reason : String) :
    ⦃fun v => ⌜I v.store.contactCandidates v.store.contacts⌝⦄
      requestReview candidateType targetType targetId originType originId sourceDefinitionId
        sourceItemIds reasonCode reason
      ⦃post⟨fun _ v => ⌜I v.store.contactCandidates v.store.contacts⌝,
        fun _ _ => ⌜True⌝⟩⦄ := by
  mvcgen [requestReview, flush, Lib.flush]

theorem searchSourceDefinition_beside (providerName actor : String) :
    ⦃fun v => ⌜I v.store.contactCandidates v.store.contacts⌝⦄
      searchSourceDefinition providerName actor
      ⦃post⟨fun _ v => ⌜I v.store.contactCandidates v.store.contacts⌝,
        fun _ _ => ⌜True⌝⟩⦄ := by
  mvcgen [searchSourceDefinition, flush, Lib.flush]

theorem persistSearchRawItem_beside (tools : EnrichmentTools) (source : Id)
    (result : SearchResult) :
    ⦃fun v => ⌜I v.store.contactCandidates v.store.contacts⌝⦄
      persistSearchRawItem tools source result
      ⦃post⟨fun _ v => ⌜I v.store.contactCandidates v.store.contacts⌝,
        fun _ _ => ⌜True⌝⟩⦄ := by
  mvcgen [persistSearchRawItem, flush, Lib.flush, Lib.queryOrRaise]

theorem persistAll_beside (idempotencyKey : String) (c : Id) (lineage : Lineage)
    (generated : List (String × String)) :
    ⦃fun v => ⌜I v.store.contactCandidates v.store.contacts⌝⦄
      persistAll idempotencyKey c lineage generated
      ⦃post⟨fun _ v => ⌜I v.store.contactCandidates v.store.contacts⌝,
        fun _ _ => ⌜True⌝⟩⦄ := by
  induction generated with
  | nil => mvcgen [persistAll]
  | cons first rest ih =>
    obtain ⟨email, pattern⟩ := first
    mvcgen [persistAll, persistGenerated, flush, Lib.flush, ih]

/-- A contact is only made under the key of its own candidate. -/
theorem upsertContact_held (i : Id) (key : String) (base : Nat)
    (candidate : ContactEnrichmentCandidate) (hkey : candidate.idempotencyKey ≠ key) :
    ⦃fun v => ⌜Held i key base v.store.contactCandidates v.store.contacts⌝⦄
      upsertContact candidate
      ⦃post⟨fun _ v => ⌜Held i key base v.store.contactCandidates v.store.contacts⌝,
        fun _ _ => ⌜True⌝⟩⦄ := by
  mvcgen [upsertContact, flush, Lib.flush]
  next v hheld _ _ => exact hheld.addContact (contactKey_ne hkey)

end Helpers

section Operations

variable {i : Id} {key : String} {base : Nat}

/-- A store in which the candidate is held back. -/
def Store.holds (i : Id) (key : String) (base : Nat) (s : Store) : Prop :=
  Held i key base s.contactCandidates s.contacts

theorem create_holds (tools : EnrichmentTools) (payload : ContactEnrichmentCreate)
    (key' : String) {w : DbWorld} (h : w.store.holds i key base) :
    (after (createContactCandidate tools payload key') w).store.holds i key base := by
  have hother : w.store.contactCandidates.first? (·.idempotencyKey == key') = none →
      key' ≠ key := by
    intro hnone heq
    obtain ⟨row, hrow, hkey, -⟩ := h.row
    have hfree := Table.first?_none.mp hnone row (List.mem_of_getElem? hrow)
    rw [hkey, heq, beq_self_eq_true] at hfree
    cases hfree
  have hplace : i < w.store.contactCandidates.length := by
    obtain ⟨row, hrow, -⟩ := h.row
    exact (List.getElem?_eq_some_iff.mp hrow).1
  have hreview := @requestReview_beside (Held i key base)
  have hupsert := upsertContact_held i key base
  refine (Lib.sessionScope_keeps (I := Store.holds i key base) h ?_).1
  mvcgen [insertContactCandidate, hreview, hupsert, flush, Lib.flush]
  all_goals subst_vars
  · exact h
  · exact hother ‹_›
  · exact h.addCandidate _
  · next hheld => exact hheld.modifyOther (Nat.ne_of_gt hplace) _
  · exact h.addCandidate _

/-- A discovery for another candidate makes no contact under this one's key. -/
theorem applyDomainDiscovery_other (tools : EnrichmentTools) {j : Id} (hij : j ≠ i)
    (candidate : ContactEnrichmentCandidate) (hkey : candidate.idempotencyKey ≠ key)
    (results : List SearchResult) (providerName actor : String) :
    ⦃fun v => ⌜Held i key base v.store.contactCandidates v.store.contacts ∧
        v.store.contactCandidates[j]? = some candidate⌝⦄
      applyDomainDiscovery tools j candidate results providerName actor
      ⦃post⟨fun _ v => ⌜Held i key base v.store.contactCandidates v.store.contacts⌝,
        fun _ _ => ⌜True⌝⟩⦄ := by
  have hsource := @searchSourceDefinition_beside fun rows contacts =>
    Held i key base rows contacts ∧ rows[j]? = some candidate
  have hitem := @persistSearchRawItem_beside fun rows contacts =>
    Held i key base rows contacts ∧ rows[j]? = some candidate
  have hreview := @requestReview_beside (Held i key base)
  have hupsert := upsertContact_held i key base
  mvcgen [applyDomainDiscovery, hsource, hitem, hreview, hupsert, flush, Lib.flush]
  · next hheld _ _ =>
    simp only [adoptDomain, Store.updateCandidate, List.getElem?_modify_eq, hheld.2]
    exact hkey
  · next hheld _ _ => exact (hheld.1.modifyOther hij _).modifyOther hij _
  · next hheld _ => exact (hheld.modifyOther hij _).modifyOther hij _
  · next hheld _ _ _ =>
    exact ((hheld.1.modifyOther hij _).modifyOther hij _).modifyOther hij _
  · next hheld _ _ =>
    exact ((hheld.1.modifyOther hij _).modifyOther hij _).modifyOther hij _
  · next hheld => exact hheld.1.modifyOther hij _
  · next hheld _ => exact hheld.modifyOther hij _
  · next hheld => exact hheld.1.modifyOther hij _
  · next hheld _ => exact hheld.modifyOther hij _

omit [Casing] in
theorem failDiscovery_held {s : Store} {candidate : ContactEnrichmentCandidate} (source : Id)
    (item : Option Id) (h : Held i key base s.contactCandidates s.contacts)
    (hrow : s.contactCandidates[i]? = some candidate) :
    Held i key base (failDiscovery i source item s).contactCandidates
        (failDiscovery i source item s).contacts ∧
      ((failDiscovery i source item s).contactCandidates[i]?).bind (·.domain) =
        candidate.domain := by
  refine ⟨h.modifySelf fun _ => ⟨rfl, fun _ => by simp, rfl⟩, ?_⟩
  simp [failDiscovery, Store.updateCandidate, hrow]

omit [Casing] in
theorem bumpVersion_held {s : Store} {domain : Option String}
    (h : Held i key base s.contactCandidates s.contacts)
    (hdomain : (s.contactCandidates[i]?).bind (·.domain) = domain) :
    Held i key base (bumpVersion i s).contactCandidates (bumpVersion i s).contacts ∧
      ((bumpVersion i s).contactCandidates[i]?).bind (·.domain) = domain := by
  refine ⟨h.modifySelf fun _ => ⟨rfl, fun hstatus => hstatus, rfl⟩, ?_⟩
  rw [← hdomain]
  cases hrow : s.contactCandidates[i]? <;> simp [bumpVersion, Store.updateCandidate, hrow]

/-- A discovery for the candidate itself, in a role outside the incident scope
or without a usable result, leaves it held back. -/
theorem applyDomainDiscovery_self (tools : EnrichmentTools)
    (candidate : ContactEnrichmentCandidate) (results : List SearchResult)
    (hrole : (selectDomain tools results).isSome = true →
      candidate.roleScope.incidentScope = false) (providerName actor : String) :
    ⦃fun v => ⌜Held i key base v.store.contactCandidates v.store.contacts ∧
        v.store.contactCandidates[i]? = some candidate⌝⦄
      applyDomainDiscovery tools i candidate results providerName actor
      ⦃post⟨fun _ v => ⌜Held i key base v.store.contactCandidates v.store.contacts ∧
          (v.store.contactCandidates[i]?).bind (·.domain) =
            ((selectDomain tools results).map Prod.snd <|> candidate.domain)⌝,
        fun _ _ => ⌜True⌝⟩⦄ := by
  have hsource := @searchSourceDefinition_beside fun rows contacts =>
    Held i key base rows contacts ∧ rows[i]? = some candidate
  have hitem := @persistSearchRawItem_beside fun rows contacts =>
    Held i key base rows contacts ∧ rows[i]? = some candidate
  have hreview := @requestReview_beside fun rows contacts =>
    Held i key base rows contacts ∧ (rows[i]?).bind (·.domain) = candidate.domain
  have hout : ∀ selected, selectDomain tools results = some selected →
      ¬ candidate.roleScope.incidentScope = true := by
    intro selected hselected hscope
    rw [hrole (by rw [hselected]; rfl)] at hscope
    cases hscope
  mvcgen [applyDomainDiscovery, hsource, hitem, hreview, flush, Lib.flush]
  · exact absurd ‹candidate.roleScope.incidentScope = true› (hout _ ‹_›)
  · exact absurd ‹candidate.roleScope.incidentScope = true› (hout _ ‹_›)
  · next hheld _ _ =>
    refine ⟨((hheld.1.modifySelf ?_).modifySelf ?_).modifySelf ?_, ?_⟩
    · exact fun _ => ⟨rfl, fun hstatus => hstatus, rfl⟩
    · exact fun _ => ⟨rfl, fun _ => by simp, rfl⟩
    · exact fun _ => ⟨rfl, fun hstatus => hstatus, rfl⟩
    · rw [‹selectDomain tools results = some _›]
      simp [bumpVersion, adoptDomain, Store.updateCandidate, hheld.2]
  · next hheld => exact failDiscovery_held _ _ hheld.1 hheld.2
  · next hheld _ =>
    rw [‹selectDomain tools results = none›]
    exact bumpVersion_held hheld.1 hheld.2
  · next hheld => exact failDiscovery_held _ _ hheld.1 hheld.2
  · next hheld _ =>
    rw [‹selectDomain tools results = none›]
    exact bumpVersion_held hheld.1 hheld.2

omit [Casing] in
/-- Contact candidates have different keys. -/
theorem candidateKey_ne {w : DbWorld} (hconstraints : w.store.constraintsOk = true)
    (h : w.store.holds i key base) {j : Id} (hij : j ≠ i)
    {candidate : ContactEnrichmentCandidate}
    (hcandidate : w.store.contactCandidates[j]? = some candidate) :
    candidate.idempotencyKey ≠ key := by
  intro heq
  obtain ⟨row, hrow, hkey, -⟩ := h.row
  have hunique : w.store.contactCandidates.uniqueOn (fun row => some row.idempotencyKey) =
      true := by
    simp only [Store.constraintsOk, Store.keysOk, Bool.and_eq_true] at hconstraints
    exact hconstraints.1.1.1.1.1.1.1.2
  exact hij (Table.uniqueOn_position hunique hcandidate hrow (congrArg some heq)
    (congrArg some hkey))

theorem discoverOther_holds (tools : EnrichmentTools) (ctx : DiscoveryContext) {j : Id}
    (hij : j ≠ i) {w : DbWorld} (hconstraints : w.store.constraintsOk = true)
    (h : w.store.holds i key base) :
    (after (discoverContactCandidateDomain tools ctx j) w).store.holds i key base := by
  have hother : ∀ candidate, w.store.contactCandidates[j]? = some candidate →
      candidate.idempotencyKey ≠ key :=
    fun _ => candidateKey_ne hconstraints h hij
  have happly := @applyDomainDiscovery_other _ i key base tools j hij
  refine (Lib.sessionScope_keeps (I := Store.holds i key base) h ?_).1
  mvcgen [Lib.queryOrRaise, happly]
  all_goals subst_vars
  · exact h.modifyOther hij _
  · exact hother _ ‹_›
  · exact ⟨h, ‹_›⟩
  · next hheld _ _ _ => exact hheld.modifyOther hij _
  · exact h

/-- What an unpromoting search comes to. -/
theorem promotedBy_false {tools : EnrichmentTools} {ctx : DiscoveryContext}
    {candidate : ContactEnrichmentCandidate} {results : List SearchResult}
    (h : candidate.promotedBy tools ctx = false) (hsubject : querySubject candidate ≠ "")
    (hresults : (ctx.search (querySubject candidate ++ " official website")).mapError
      PyError.providerError = .ok results) :
    ((selectDomain tools results).isSome = true →
        candidate.roleScope.incidentScope = false) ∧
      (selectDomain tools results = none → candidate.domain = none → ctx.profile = .local →
        inferredDemoDomain tools [candidate.organization, some candidate.publishedName] =
          none) := by
  cases hasked : ctx.search (querySubject candidate ++ " official website") with
  | error message =>
    rw [hasked] at hresults
    cases hresults
  | ok found =>
    rw [hasked] at hresults
    cases hresults
    simp only [ContactEnrichmentCandidate.promotedBy, hasked, bne_iff_ne.mpr hsubject,
      Bool.true_and] at h
    constructor
    · intro hselected
      obtain ⟨selected, hsome⟩ := Option.isSome_iff_exists.mp hselected
      simpa only [hsome] using h
    · intro hnone hdomain hprofile
      simpa [hnone, hdomain, hprofile] using h

/-- A discovery that does not promote the candidate leaves it held back. -/
theorem discoverSelf_holds (tools : EnrichmentTools) (ctx : DiscoveryContext) {w : DbWorld}
    (h : w.store.holds i key base)
    (hop : ∀ candidate, w.store.contactCandidates[i]? = some candidate →
      candidate.promotedBy tools ctx = false) :
    (after (discoverContactCandidateDomain tools ctx i) w).store.holds i key base := by
  have happly := @applyDomainDiscovery_self _ i key base tools
  refine (Lib.sessionScope_keeps (I := Store.holds i key base) h ?_).1
  mvcgen [Lib.queryOrRaise, happly]
  all_goals subst_vars
  · exact h.modifySelf fun _ => ⟨rfl, fun _ => by simp, rfl⟩
  · exact (promotedBy_false (hop _ ‹_›) ‹_› ‹_›).1
  · exact ⟨h, ‹_›⟩
  · next v hrow hsubject results hresults _ v' hheld hlocal inferred hinferred =>
    obtain ⟨hrole, hfallback⟩ := promotedBy_false (hop _ hrow) hsubject hresults
    rw [hheld.2] at hlocal
    cases hselected : selectDomain tools results with
    | some selected => simp [hselected] at hlocal
    | none =>
      rw [hselected] at hlocal
      have hdomain := Option.isNone_iff_eq_none.mp hlocal.1
      rw [hfallback hselected hdomain hlocal.2] at hinferred
      cases hinferred
  · next hheld _ _ => exact hheld.1
  · next hheld _ => exact hheld.1
  · exact h

omit [Casing] in
theorem persist_holds (request : EmailCandidatePersistRequest) (key' : String)
    (generate : String → String → List String → Table OrganizationEmailPattern →
      Except PyError (List (String × String))) {w : DbWorld} (h : w.store.holds i key base) :
    (after (persistEmailCandidates request key' generate) w).store.holds i key base := by
  have hall := @persistAll_beside (Held i key base)
  refine (Lib.sessionScope_keeps (I := Store.holds i key base) h ?_).1
  mvcgen [Lib.queryOrRaise, hall]
  all_goals subst_vars
  exact h

/-- A verified record rewrites a contact that is there. -/
theorem applyVerified_held (now : Time) (visible : Table OrganizationEmailPattern) (id : Id)
    (record : EmailCandidateRecord) {s : Store}
    (h : Held i key base s.contactCandidates s.contacts) :
    Held i key base (applyVerified now visible id record s).contactCandidates
      (applyVerified now visible id record s).contacts := by
  have hpattern : ∀ (domain pattern : String) (t : Store),
      (upsertEmailPattern visible domain pattern now t).contactCandidates =
          t.contactCandidates ∧
        (upsertEmailPattern visible domain pattern now t).contacts = t.contacts := by
    intro domain pattern t
    unfold upsertEmailPattern
    split <;> exact ⟨rfl, rfl⟩
  unfold applyVerified
  simp only [enqueueEvent, hpattern]
  cases record.contactId with
  | none => exact h
  | some c => exact h.modifyContact c fun _ => rfl

/-- The loop of a verification batch only rewrites contacts that are there. -/
theorem verifyRecords_held (rt : Runtime) (results : VerificationResults)
    (records : List (Id × EmailCandidateRecord)) (visible : Table OrganizationEmailPattern) :
    ⦃fun v => ⌜Held i key base v.store.contactCandidates v.store.contacts⌝⦄
      verifyRecords rt results records visible
      ⦃post⟨fun _ v => ⌜Held i key base v.store.contactCandidates v.store.contacts⌝,
        fun _ _ => ⌜True⌝⟩⦄ := by
  have hreview := @requestReview_beside (Held i key base)
  induction records generalizing visible with
  | nil => mvcgen [verifyRecords]
  | cons first rest ih =>
    obtain ⟨id, record⟩ := first
    mvcgen [verifyRecords, hreview, ih]
    next v hheld => exact applyVerified_held rt.now visible id record hheld

theorem verify_holds (rt : Runtime) (request : EmailVerifyBatchRequest)
    (verifier : List String → Except String VerificationResults) {w : DbWorld}
    (h : w.store.holds i key base) :
    (after (verifyEmailCandidates rt request verifier) w).store.holds i key base := by
  have hrecords := @verifyRecords_held _ i key base
  refine (Lib.sessionScope_keeps (I := Store.holds i key base) h ?_).1
  mvcgen [Lib.queryOrRaise, hrecords]
  all_goals subst_vars
  all_goals exact h

/-- Every enrichment call leaves the constraints satisfied. -/
theorem enrich_constraints (tools : EnrichmentTools) {w : DbWorld} (op : EnrichmentOp)
    (h : w.store.constraintsOk = true) : (enrich tools w op).store.constraintsOk = true := by
  cases op with
  | create payload key => exact Lib.sessionScope_valid h
  | discover ctx i => exact Lib.sessionScope_valid h
  | persist request key generate => exact Lib.sessionScope_valid h
  | verify rt request verifier => exact Lib.sessionScope_valid h

/-- Every enrichment call that does not promote the candidate leaves it held
back. -/
theorem enrich_holds (tools : EnrichmentTools) {w : DbWorld} {op : EnrichmentOp}
    (hconstraints : w.store.constraintsOk = true) (h : w.store.holds i key base)
    (hop : op.promotes tools i w = false) : (enrich tools w op).store.holds i key base := by
  cases op with
  | create payload key' => exact create_holds tools payload key' h
  | discover ctx j =>
    by_cases hij : j = i
    · subst hij
      apply discoverSelf_holds tools ctx h
      intro candidate hrow
      simpa [EnrichmentOp.promotes, hrow] using hop
    · exact discoverOther_holds tools ctx hij hconstraints h
  | persist request key' generate => exact persist_holds request key' generate h
  | verify rt request verifier => exact verify_holds rt request verifier h

omit [Casing] in
/-- A request that names a candidate held back is refused and changes nothing. -/
theorem persist_refused {request : EmailCandidatePersistRequest} {w : DbWorld}
    (h : w.store.holds i key base) (hrequest : request.contactCandidateId = some i)
    (key' : String)
    (generate : String → String → List String → Table OrganizationEmailPattern →
      Except PyError (List (String × String))) :
    after (persistEmailCandidates request key' generate) w = w := by
  obtain ⟨row, hrow, -, hstatus, -⟩ := h.row
  have hresolve : resolveEmailContactContext request w.store =
      .error (.valueError "contact candidate is not eligible for email generation") := by
    simp only [resolveEmailContactContext, hrequest, hrow, ne_eq, hstatus, not_false_eq_true,
      if_true]
  simp only [after, persistEmailCandidates, sessionScope, Lib.sessionScope_run, Lib.bind_run,
    Lib.queryOrRaise_run, hresolve]

end Operations

section Creation

omit [Casing] in
/-- A payload that is blocked for good is not let through by its resolution
case. -/
theorem resolveCandidate_blocked {payload : ContactEnrichmentCreate} {s : Store}
    (h : payload.blockedForGood = true) : (resolveCandidate payload s).1.1 ≠ .eligible := by
  have hpolicy : (evaluateContactPolicy payload).1 ≠ .eligible := by
    intro heq
    unfold ContactEnrichmentCreate.blockedForGood at h
    split at h
    · next hblocked =>
      rw [hblocked] at heq
      cases heq
    · cases h
  unfold resolveCandidate
  simp only [hpolicy, if_false]
  split
  · exact hpolicy
  · split
    · split <;> exact hpolicy
    · exact hpolicy

/-- A new candidate whose payload is blocked for good is held back. -/
theorem createBlocked_holds {tools : EnrichmentTools} {payload : ContactEnrichmentCreate}
    {key : String} {w w' : DbWorld} {i : Id} (hblocked : payload.blockedForGood = true)
    (hnew : w.store.contactCandidates.first? (·.idempotencyKey == key) = none)
    (hcreate : createContactCandidate tools payload key w = .ok i w') :
    w'.store.holds i key w'.store.contacts.length ∧
      w'.store.contacts = w.store.contacts ∧ w'.store.constraintsOk = true := by
  have hreview := @requestReview_beside fun rows contacts =>
    rows = w.store.contactCandidates ++
        [candidateFor tools payload key (resolveCandidate payload w.store).1
          (resolveCandidate payload w.store).2] ∧
      contacts = w.store.contacts
  have hscope : Lib.Establishes (createContactCandidate tools payload key) w
      (fun j v => (j = w.store.contactCandidates.length ∧
        v.store.contactCandidates = w.store.contactCandidates ++
          [candidateFor tools payload key (resolveCandidate payload w.store).1
            (resolveCandidate payload w.store).2] ∧
        v.store.contacts = w.store.contacts) ∧ v.store.constraintsOk = true)
      (fun e v => v.store = w.store ∧ ∃ inner : DbWorld, v.external = inner.external ∧
        (True ∨ ∃ j, j = w.store.contactCandidates.length ∧
          inner.store.contactCandidates = w.store.contactCandidates ++
            [candidateFor tools payload key (resolveCandidate payload w.store).1
              (resolveCandidate payload w.store).2] ∧
          inner.store.contacts = w.store.contacts)) := by
    refine Lib.sessionScope_establishes (Lib.establishes_of_triple ?_)
    mvcgen [insertContactCandidate, hreview, flush, Lib.flush]
    · subst_vars
      simp only [hnew, reduceCtorEq] at *
    · subst_vars
      exact absurd ‹_› (resolveCandidate_blocked hblocked)
    · subst_vars
      exact ⟨rfl, rfl⟩
    · subst_vars
      exact ⟨rfl, ‹_›⟩
  rw [Lib.Establishes, hcreate] at hscope
  obtain ⟨⟨hi, hrows, hcontacts⟩, hvalid⟩ := hscope
  refine ⟨⟨⟨candidateFor tools payload key (resolveCandidate payload w.store).1
    (resolveCandidate payload w.store).2, ?_, rfl, resolveCandidate_blocked hblocked, rfl⟩, ?_⟩,
    hcontacts, hvalid⟩
  · rw [hrows, hi]
    exact List.getElem?_concat_length
  · intro c contact hcontact _
    exact (List.getElem?_eq_some_iff.mp hcontact).1

/-- The stored candidate stays out: it is not eligible and has no contact, every
contact under its key was there before it was created, and no addresses can be
generated for it. -/
structure StaysBlocked (i : Id) (key : String) (before : Store) (w : DbWorld) : Prop where
  candidate : ∃ row : ContactEnrichmentCandidate, w.store.contactCandidates[i]? = some row ∧
    row.idempotencyKey = key ∧ row.status ≠ .eligible ∧ row.contactId = none
  contacts : ∀ (c : Id) (contact : Contact), w.store.contacts[c]? = some contact →
    contact.idempotencyKey = some ("contact:" ++ key) → c < before.contacts.length
  emails : ∀ (request : EmailCandidatePersistRequest) (key' : String)
    (generate : String → String → List String → Table OrganizationEmailPattern →
      Except PyError (List (String × String))), request.contactCandidateId = some i →
        after (persistEmailCandidates request key' generate) w = w

end Creation

end Blocking

section Leak

/-- A name from a breach, with a role in incident scope. -/
def breachedName : ContactEnrichmentCreate where
  originType := .manual
  originId := "list"
  publishedName := "Ada"
  organization := some "Corp"
  roleScope := .security
  breachedDataSource := true

/-- Hosts are their own registrable domains. -/
def plainTools : EnrichmentTools where
  registrableDomain := some
  normalizeUrl := .ok
  contentHash := fun text => text

def discoveryOf (results : List SearchResult) : DiscoveryContext where
  profile := .production
  providerName := "search"
  actor := "operator"
  search := fun _ => .ok results

def noRows : DbWorld where
  store := {}
  external := {}

/-- The world once the breached name has been stored as blocked. -/
def breachStored : DbWorld :=
  after (createContactCandidate plainTools breachedName "list:ada") noRows

theorem breachStored_created :
    createContactCandidate plainTools breachedName "list:ada" noRows = .ok 0 breachStored :=
  Lib.run_of_returned (by decide +kernel)

theorem breachedName_blocked : breachedName.blockedForGood = true := by decide +kernel

end Leak

end GhostRecon
