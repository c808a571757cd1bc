import GhostRecon.Enrichment.Contacts

/-!
Entity resolution. An organisation is matched against the stored accounts by its
domain and, where no account carries that, by its name. The lookup answers with the
accounts alone: the caller cannot tell which of the two rules found them and rates
the match by what the request held.
-/

namespace GhostRecon

open Lib (Id Table query write after)
open Std.Do

set_option mvcgen.warning false

section Matching

variable [Casing]

structure EntityResolutionCreate where
  originType : OriginType
  originId : String
  entityKind : String := "organization"
  organizationName : Option String := none
  domain : Option String := none
  sourceDefinitionId : Option Id := none
  sourceItemIds : List Id := []
  deriving DecidableEq, Repr

/-- The request names its source and at least one item of it. -/
def EntityResolutionCreate.hasLineage (payload : EntityResolutionCreate) : Bool :=
  payload.sourceDefinitionId.isSome && !payload.sourceItemIds.isEmpty

/-- `func.lower(Account.domain) == domain.lower()` -/
def Account.carries (domain : String) (account : Account) : Bool :=
  account.domain.any fun own => lower own == lower domain

/-- `func.lower(Account.company_name) == organization_name.lower()` -/
def Account.bears (name : String) (account : Account) : Bool :=
  lower account.companyName == lower name

/-- At most ten accounts under a key that is not empty. -/
def accountsUnder (rule : String → Account → Bool) (key : Option String)
    (accounts : Table Account) : List (Id × Account) :=
  match key with
  | some key => if key = "" then [] else (accounts.select (rule key)).take 10
  | none => []

/-- `_find_account_matches`. -/
def findAccountMatches (domain organizationName : Option String) (accounts : Table Account) :
    List (Id × Account) :=
  let found := accountsUnder Account.carries domain accounts
  if found ≠ [] then found else accountsUnder Account.bears organizationName accounts

omit [Casing] in
theorem accountsUnder_single {rule : String → Account → Bool} {key : Option String}
    {accounts : Table Account} {a : Id} {account : Account} :
    accountsUnder rule key accounts = [(a, account)] ↔
      ∃ k, key = some k ∧ k ≠ "" ∧ accounts.Only (rule k) a account := by
  cases key with
  | none => simp [accountsUnder]
  | some k =>
    by_cases hk : k = ""
    · simp [accountsUnder, hk]
    · simp only [accountsUnder, if_neg hk, Option.some.injEq]
      rw [Table.take_select_eq_singleton (by omega)]
      constructor
      · intro honly
        exact ⟨k, rfl, hk, honly⟩
      · rintro ⟨_, rfl, -, honly⟩
        exact honly

omit [Casing] in
theorem accountsUnder_nil {rule : String → Account → Bool} {key : Option String}
    {accounts : Table Account} :
    accountsUnder rule key accounts = [] ↔
      ∀ k, key = some k → k ≠ "" → ∀ account ∈ accounts, rule k account = false := by
  cases key with
  | none => simp [accountsUnder]
  | some k =>
    by_cases hk : k = ""
    · simp [accountsUnder, hk]
    · simp only [accountsUnder, if_neg hk, List.take_eq_nil_iff, Table.select_eq_nil,
        Option.some.injEq]
      constructor
      · rintro hnone _ rfl -
        exact hnone.resolve_left (by omega)
      · intro hnone
        exact Or.inr (hnone k rfl hk)

/-- No account carries the domain, if the request has one. -/
def NoCarrier (domain : Option String) (accounts : Table Account) : Prop :=
  ∀ d, domain = some d → d ≠ "" → ∀ account ∈ accounts, account.carries d = false

/-- The account is the only one with the domain or, where none has it, the only one
with the name. -/
def UniqueMatch (domain organizationName : Option String) (accounts : Table Account) (a : Id)
    (account : Account) : Prop :=
  (∃ d, domain = some d ∧ d ≠ "" ∧ accounts.Only (Account.carries d) a account) ∨
    (NoCarrier domain accounts ∧
      ∃ n, organizationName = some n ∧ n ≠ "" ∧ accounts.Only (Account.bears n) a account)

/-- The lookup finds one account exactly when that is the unique match. -/
theorem findAccountMatches_single {domain organizationName : Option String}
    {accounts : Table Account} {a : Id} {account : Account} :
    findAccountMatches domain organizationName accounts = [(a, account)] ↔
      UniqueMatch domain organizationName accounts a account := by
  unfold findAccountMatches UniqueMatch NoCarrier
  rw [← accountsUnder_nil, ← accountsUnder_single, ← accountsUnder_single]
  by_cases hfound : accountsUnder Account.carries domain accounts = []
  · simp [hfound]
  · simp [hfound]

end Matching

section Resolution

variable [Casing]

def accountSummary (found : Id × Account) : AccountSummary where
  accountId := found.1
  domain := found.2.domain
  companyName := found.2.companyName

/-- The row `create_entity_resolution` inserts. -/
def caseFor (tools : EnrichmentTools) (payload : EntityResolutionCreate)
    (idempotencyKey : String) : EntityResolutionCase where
  originType := payload.originType
  originId := payload.originId
  entityKind := payload.entityKind
  inputName := payload.organizationName
  inputDomain := normalizeDomain tools payload.domain
  sourceDefinitionId := payload.sourceDefinitionId
  sourceItemIds := payload.sourceItemIds
  idempotencyKey := idempotencyKey

/-- The case once the accounts were looked up. -/
def EntityResolutionCase.matched (row : EntityResolutionCase)
    (found : List (Id × Account)) : EntityResolutionCase :=
  let row := { row with alternatives := found.map accountSummary }
  match found with
  | [(a, account)] =>
    { row with
      status := "resolved"
      confidence := if truthy row.inputDomain then 100 else 90
      resolvedAccountId := some a
      resolvedName := some account.companyName
      resolvedDomain := account.domain }
  | found =>
    { row with
      status := if found.length > 1 then "ambiguous" else "needs_review"
      confidence := if found.isEmpty then 0 else 60
      reviewReason := some (if found.isEmpty then "no_account_match"
        else "multiple_account_matches") }

def Store.insertCase (s : Store) (row : EntityResolutionCase) : Store :=
  { s with resolutionCases := s.resolutionCases ++ [row] }

/-- Rewrite columns of one resolution case. -/
def Store.updateCase (s : Store) (i : Id) (f : EntityResolutionCase → EntityResolutionCase) :
    Store :=
  { s with resolutionCases := s.resolutionCases.modify i f }

/-- `create_entity_resolution`. -/
def createEntityResolution (tools : EnrichmentTools) (payload : EntityResolutionCreate)
    (idempotencyKey : String) : Tx Id := sessionScope do
  match ← query (·.resolutionCases.first? (·.idempotencyKey == idempotencyKey)) with
  | some (existing, _) => return existing
  | none =>
    let row := caseFor tools payload idempotencyKey
    let i ← query (·.resolutionCases.length)
    write (·.insertCase row)
    flush
    if payload.sourceDefinitionId.isNone || payload.sourceItemIds.isEmpty then
      write (·.updateCase i fun row =>
        { row with status := "blocked", reviewReason := some "missing_source_lineage" })
      let _ ← requestReview "entity_resolution" "entity_resolution_case" i
        (some row.originType.value) (some row.originId) row.sourceDefinitionId row.sourceItemIds
        "missing_source_lineage" "Entity resolution input did not include source lineage."
      return i
    let found ← query fun s =>
      findAccountMatches row.inputDomain payload.organizationName s.accounts
    write (·.updateCase i (·.matched found))
    match found with
    | [(a, _)] =>
      write (enqueueEvent .accountEnriched "account" a (.paired .accountEnriched i a))
    | found =>
      let _ ← requestReview "entity_resolution" "entity_resolution_case" i
        (some row.originType.value) (some row.originId) row.sourceDefinitionId row.sourceItemIds
        (if found.isEmpty then "no_account_match" else "multiple_account_matches")
        "Entity resolution requires analyst review."
    return i

/-- Reviews and account events about resolution cases are about stored ones. -/
structure CasesAnchored (s : Store) : Prop where
  reviews : ∀ review ∈ s.reviewCandidates, review.idempotencyKey.1 = "entity_resolution" →
    review.idempotencyKey.2.1 < s.resolutionCases.length
  events : ∀ row ∈ s.outbox, ∀ i a, row.idempotencyKey = .paired .accountEnriched i a →
    i < s.resolutionCases.length

/-- The review a case gets that has no unique match. -/
def caseReview (i : Id) (row : EntityResolutionCase) (reasonCode : String) :
    ReviewCandidate where
  candidateType := "entity_resolution"
  targetType := "entity_resolution_case"
  targetId := i
  originType := some row.originType.value
  originId := some row.originId
  sourceDefinitionId := row.sourceDefinitionId
  sourceItemIds := row.sourceItemIds
  reasonCode := reasonCode
  reason := "Entity resolution requires analyst review."
  idempotencyKey := ("entity_resolution", i, reasonCode)

/-- The accounts a request with a new key is matched with. -/
def EntityResolutionCreate.matches (payload : EntityResolutionCreate) (tools : EnrichmentTools)
    (s : Store) : List (Id × Account) :=
  findAccountMatches (normalizeDomain tools payload.domain) payload.organizationName s.accounts

/-- The row a request with lineage leaves. -/
def EntityResolutionCreate.caseIn (payload : EntityResolutionCreate) (tools : EnrichmentTools)
    (key : String) (s : Store) : EntityResolutionCase :=
  (caseFor tools payload key).matched (payload.matches tools s)

/-- What a request with lineage leaves of the tables: nothing new, a resolved case, or a
case under review. -/
inductive CaseFiled (tools : EnrichmentTools) (payload : EntityResolutionCreate) (key : String)
    (s : Store) : Table EntityResolutionCase → Table ReviewCandidate → Prop where
  | found {existing} (h : s.resolutionCases.first? (·.idempotencyKey == key) = some existing) :
      CaseFiled tools payload key s s.resolutionCases s.reviewCandidates
  | resolved {a account} (hnew : s.resolutionCases.first? (·.idempotencyKey == key) = none)
      (hmatches : payload.matches tools s = [(a, account)]) :
      CaseFiled tools payload key s (s.resolutionCases ++ [payload.caseIn tools key s])
        s.reviewCandidates
  | reviewed {reasonCode} (hnew : s.resolutionCases.first? (·.idempotencyKey == key) = none)
      (hmatches : ∀ a account, payload.matches tools s ≠ [(a, account)]) :
      CaseFiled tools payload key s (s.resolutionCases ++ [payload.caseIn tools key s])
        (s.reviewCandidates ++ [caseReview s.resolutionCases.length
          (caseFor tools payload key) reasonCode])

omit [Casing] in
/-- No review was asked for a case that is still to come. -/
theorem CasesAnchored.unreviewed {s : Store} (h : CasesAnchored s) {reasonCode : String}
    {found : Id × ReviewCandidate} :
    s.reviewCandidates.first? (·.idempotencyKey ==
      ("entity_resolution", s.resolutionCases.length, reasonCode)) ≠ some found := by
  intro hfound
  obtain ⟨hrow, hkey⟩ := Table.first?_some hfound
  have hkey := beq_iff_eq.mp hkey
  have hstored := h.reviews found.2 (List.mem_of_getElem? hrow) (by rw [hkey])
  rw [hkey] at hstored
  exact absurd hstored (Nat.lt_irrefl _)

omit [Casing] in
theorem EntityResolutionCreate.hasLineage_iff (payload : EntityResolutionCreate) :
    payload.hasLineage = true ↔
      ¬ (payload.sourceDefinitionId.isNone || payload.sourceItemIds.isEmpty) = true := by
  cases hsource : payload.sourceDefinitionId <;> simp [hasLineage, hsource]

theorem createEntityResolution_files (tools : EnrichmentTools)
    {payload : EntityResolutionCreate} (key : String) {w : DbWorld}
    (hlineage : payload.hasLineage = true) (hanchored : CasesAnchored w.store) :
    (after (createEntityResolution tools payload key) w).store = w.store ∨
      CaseFiled tools payload key w.store
          (after (createEntityResolution tools payload key) w).store.resolutionCases
          (after (createEntityResolution tools payload key) w).store.reviewCandidates ∧
        (after (createEntityResolution tools payload key) w).store.constraintsOk = true := by
  refine (@Lib.after_sessionScope_cases PyError _ _ Id Store.constraintsOk .integrityError _ w
    (fun _ v => CaseFiled tools payload key w.store v.store.resolutionCases
      v.store.reviewCandidates) ?_).imp_right ?_
  · mvcgen [requestReview, flush, Lib.flush]
    all_goals subst_vars
    · exact .found ‹_›
    · exact absurd ‹_› (payload.hasLineage_iff.mp hlineage)
    · exact absurd ‹_› (payload.hasLineage_iff.mp hlineage)
    · next v hnew _ _ _ _ a account hmatches =>
      change CaseFiled tools payload key v.store
        ((v.store.insertCase (caseFor tools payload key)).resolutionCases.modify
          v.store.resolutionCases.length (·.matched (payload.matches tools v.store)))
        v.store.reviewCandidates
      rw [Store.insertCase, Table.modify_last]
      exact .resolved hnew hmatches
    · exact absurd ‹_› hanchored.unreviewed
    · next v hnew _ _ _ _ hmatches _ _ =>
      change CaseFiled tools payload key v.store
        ((v.store.insertCase (caseFor tools payload key)).resolutionCases.modify
          v.store.resolutionCases.length (·.matched (payload.matches tools v.store)))
        (v.store.reviewCandidates ++ [caseReview v.store.resolutionCases.length
          (caseFor tools payload key) _])
      rw [Store.insertCase, Table.modify_last]
      exact .reviewed hnew hmatches
  · rintro ⟨_, hfiled, hvalid⟩
    exact ⟨hfiled, hvalid⟩

omit [Casing] in
theorem insertCase_constraints {s : Store} {row : EntityResolutionCase} :
    (s.insertCase row).constraintsOk = true ↔
      s.constraintsOk = true ∧
        (∀ old ∈ s.resolutionCases, old.idempotencyKey ≠ row.idempotencyKey) ∧
        row.fits = true := by
  have hunique : Table.uniqueOn (s.resolutionCases ++ [row])
      (fun row => some row.idempotencyKey) = true ↔ _ := Table.uniqueOn_concat
  simp only [Store.constraintsOk, Store.keysOk, Store.widthsOk, Store.insertCase,
    Bool.and_eq_true, hunique, List.all_append, List.all_cons, List.all_nil, Bool.and_true,
    Option.some.injEq, forall_eq', ne_eq]
  grind

omit [Casing] in
theorem updateCase_constraints {s : Store} {i : Id}
    {f : EntityResolutionCase → EntityResolutionCase}
    (hkey : ∀ row, (f row).idempotencyKey = row.idempotencyKey)
    (hfits : ∀ row, (f row).fits = row.fits) :
    (s.updateCase i f).constraintsOk = s.constraintsOk := by
  have hunique : Table.uniqueOn (s.resolutionCases.modify i f)
      (fun row => some row.idempotencyKey) =
        s.resolutionCases.uniqueOn (fun row => some row.idempotencyKey) :=
    Table.uniqueOn_modify fun row => congrArg some (hkey row)
  have hwidths : (s.resolutionCases.modify i f).all EntityResolutionCase.fits =
      s.resolutionCases.all EntityResolutionCase.fits := Table.all_modify hfits
  simp only [Store.updateCase, Store.constraintsOk, Store.keysOk, Store.widthsOk, hunique,
    hwidths]

omit [Casing] in
theorem matched_key (row : EntityResolutionCase) (found : List (Id × Account)) :
    (row.matched found).idempotencyKey = row.idempotencyKey := by
  unfold EntityResolutionCase.matched
  split <;> rfl

omit [Casing] in
theorem matched_fits (row : EntityResolutionCase) (found : List (Id × Account)) :
    (row.matched found).fits = row.fits := by
  unfold EntityResolutionCase.matched
  split <;> rfl

omit [Casing] in
theorem case_fits {s : Store} {row : EntityResolutionCase} (h : s.constraintsOk = true)
    (hrow : row ∈ s.resolutionCases) : row.fits = true := by
  simp only [Store.constraintsOk, Store.widthsOk, Bool.and_eq_true, List.all_eq_true] at h
  exact h.2.1.1.1.1.1.1.1.2 row hrow

/-- A request whose text fits its columns and that matches one account leaves its case. -/
theorem resolved_commits {tools : EnrichmentTools} {payload : EntityResolutionCreate}
    {key : String} {w : DbWorld} {a : Id} {account : Account}
    (hlineage : payload.hasLineage = true) (hok : w.store.constraintsOk = true)
    (hanchored : CasesAnchored w.store)
    (hnew : w.store.resolutionCases.first? (·.idempotencyKey == key) = none)
    (hfits : (caseFor tools payload key).fits = true)
    (hmatches : payload.matches tools w.store = [(a, account)]) :
    (after (createEntityResolution tools payload key) w).store.resolutionCases =
      w.store.resolutionCases ++ [payload.caseIn tools key w.store] := by
  have hfree : ∀ old ∈ w.store.resolutionCases,
      old.idempotencyKey ≠ (caseFor tools payload key).idempotencyKey := by
    intro old hold
    simpa [caseFor] using Table.first?_none.mp hnew old hold
  have hinserted : (w.store.insertCase (caseFor tools payload key)).constraintsOk = true :=
    insertCase_constraints.mpr ⟨hok, hfree, hfits⟩
  have hevent : ∀ old ∈ w.store.outbox,
      old.idempotencyKey ≠ .paired .accountEnriched w.store.resolutionCases.length a := by
    intro old hold hkey
    exact absurd (hanchored.events old hold _ _ hkey) (Nat.lt_irrefl _)
  have hcommit : (enqueueEvent .accountEnriched "account" a
      (.paired .accountEnriched w.store.resolutionCases.length a)
      ((w.store.insertCase (caseFor tools payload key)).updateCase
        w.store.resolutionCases.length
          (·.matched (payload.matches tools w.store)))).constraintsOk = true := by
    refine enqueueEvent_constraints.mpr ⟨?_, hevent⟩
    rw [updateCase_constraints (fun row => matched_key row _) (fun row => matched_fits row _)]
    exact hinserted
  have hfound : findAccountMatches (caseFor tools payload key).inputDomain
      payload.organizationName
      (w.store.insertCase (caseFor tools payload key)).accounts = [(a, account)] := hmatches
  rw [hmatches] at hcommit
  unfold after createEntityResolution
  simp only [sessionScope, Lib.sessionScope_run, Lib.bind_run, Lib.query_run, hnew, Lib.write_run,
    flush, Lib.flush_run, hinserted, if_true, if_neg (payload.hasLineage_iff.mp hlineage),
    hfound, Lib.pure_run, hcommit]
  change (w.store.insertCase (caseFor tools payload key)).resolutionCases.modify
    w.store.resolutionCases.length (·.matched [(a, account)]) = _
  rw [Store.insertCase, Table.modify_last, EntityResolutionCreate.caseIn, hmatches]

end Resolution

section Anchored

variable {s : Store}

theorem CasesAnchored.insertCase (h : CasesAnchored s) (row : EntityResolutionCase) :
    CasesAnchored (s.insertCase row) := by
  have hgrown : s.resolutionCases.length ≤ (s.insertCase row).resolutionCases.length := by
    simp [Store.insertCase]
  refine ⟨?_, ?_⟩
  · intro review hreview hkind
    exact (h.reviews review hreview hkind).trans_le hgrown
  · intro event hevent i a hkey
    exact (h.events event hevent i a hkey).trans_le hgrown

theorem CasesAnchored.updateCase (h : CasesAnchored s) (i : Id)
    (f : EntityResolutionCase → EntityResolutionCase) : CasesAnchored (s.updateCase i f) := by
  have hlength : (s.updateCase i f).resolutionCases.length = s.resolutionCases.length := by
    simp [Store.updateCase]
  refine ⟨?_, ?_⟩
  · intro review hreview hkind
    rw [hlength]
    exact h.reviews review hreview hkind
  · intro event hevent j a hkey
    rw [hlength]
    exact h.events event hevent j a hkey

theorem CasesAnchored.enqueue (h : CasesAnchored s) {name : EventName} {kind : String} {id : Id}
    {key : OutboxKey}
    (hnew : ∀ i a, key = .paired .accountEnriched i a → i < s.resolutionCases.length) :
    CasesAnchored (enqueueEvent name kind id key s) := by
  refine ⟨h.reviews, ?_⟩
  intro event hevent i a hkey
  rcases List.mem_append.mp hevent with hold | hlast
  · exact h.events event hold i a hkey
  · rw [List.mem_singleton] at hlast
    subst hlast
    exact hnew i a hkey

theorem CasesAnchored.insertReview (h : CasesAnchored s) {review : ReviewCandidate}
    (hnew : review.idempotencyKey.2.1 < s.resolutionCases.length) :
    CasesAnchored (insertReview review s) := by
  have hadded : CasesAnchored { s with reviewCandidates := s.reviewCandidates ++ [review] } := by
    refine ⟨?_, h.events⟩
    intro other hother hkind
    rcases List.mem_append.mp hother with hold | hlast
    · exact h.reviews other hold hkind
    · rw [List.mem_singleton] at hlast
      subst hlast
      exact hnew
  exact hadded.enqueue fun _ _ hkey => nomatch hkey

/-- Requests keep reviews and events about stored cases only. -/
theorem createEntityResolution_anchored [Casing] (tools : EnrichmentTools)
    (payload : EntityResolutionCreate) (key : String) {w : DbWorld}
    (h : CasesAnchored w.store) :
    CasesAnchored (after (createEntityResolution tools payload key) w).store := by
  refine (Lib.sessionScope_keeps (I := CasesAnchored) h ?_).1
  have hplace : ∀ (s : Store) row (f : EntityResolutionCase → EntityResolutionCase),
      s.resolutionCases.length < ((s.insertCase row).updateCase
        s.resolutionCases.length f).resolutionCases.length := by
    intro s row f
    simp [Store.insertCase, Store.updateCase]
  mvcgen [requestReview, flush, Lib.flush]
  all_goals subst_vars
  · exact h
  · exact (h.insertCase _).updateCase _ _
  · exact ((h.insertCase _).updateCase _ _).insertReview (hplace _ _ _)
  · refine ((h.insertCase _).updateCase _ _).enqueue ?_
    rintro _ _ hkey
    cases hkey
    exact hplace _ _ _
  · exact (h.insertCase _).updateCase _ _
  · exact ((h.insertCase _).updateCase _ _).insertReview (hplace _ _ _)

end Anchored

section Soundness

variable [Casing]

/-- What the entity-resolution rules ask of a case: it is resolved to the unique match
only, and to none that contradicts the domain of the request; full confidence needs the
domain itself; a company of the same name with another domain goes to review. -/
structure SoundCase (domain organizationName : Option String) (accounts : Table Account)
    (reviews : Table ReviewCandidate) (i : Id) (row : EntityResolutionCase) : Prop where
  resolved : row.status = "resolved" → ∃ a account, row.resolvedAccountId = some a ∧
    UniqueMatch domain organizationName accounts a account ∧
    ∀ d, domain = some d → d ≠ "" → account.carries d = true ∨ truthy account.domain = false
  certain : row.confidence = 100 → ∃ d a account, domain = some d ∧
    row.resolvedAccountId = some a ∧ accounts[a]? = some account ∧ account.carries d = true
  homonym : ∀ d n account, domain = some d → d ≠ "" → NoCarrier domain accounts →
    organizationName = some n → account ∈ accounts → account.bears n = true →
    truthy account.domain = true →
      row.status ≠ "resolved" ∧ ∃ review ∈ reviews,
        review.targetType = "entity_resolution_case" ∧ review.targetId = i ∧
          review.status = "open"

/-- Every case that the second store has beyond the first is sound. -/
def ResolvesSoundly (tools : EnrichmentTools) (payload : EntityResolutionCreate)
    (s s' : Store) : Prop :=
  ∀ i row, s.resolutionCases.length ≤ i → s'.resolutionCases[i]? = some row →
    SoundCase (normalizeDomain tools payload.domain) payload.organizationName s.accounts
      s'.reviewCandidates i row

/-- The request has a domain, no account carries it, and exactly one bears the name. -/
def NameStandsIn (domain organizationName : Option String) (accounts : Table Account) : Prop :=
  (∃ d, domain = some d ∧ d ≠ "") ∧ NoCarrier domain accounts ∧
    ∃ n a account, organizationName = some n ∧ n ≠ "" ∧
      accounts.Only (Account.bears n) a account

omit [Casing] in
/-- A case without a unique match is not resolved, and rated at sixty at most. -/
theorem matched_open (row : EntityResolutionCase) {found : List (Id × Account)}
    (h : ∀ a account, found ≠ [(a, account)]) :
    (row.matched found).status ≠ "resolved" ∧ (row.matched found).confidence ≠ 100 := by
  unfold EntityResolutionCase.matched
  split
  · next a account =>
    exact absurd rfl (h a account)
  · constructor
    · dsimp only
      split <;> decide
    · dsimp only
      split <;> decide

omit [Casing] in
/-- A row beyond the old ones is the appended one. -/
theorem appended_row {t : Table EntityResolutionCase} {i : Id} {row new : EntityResolutionCase}
    (hi : t.length ≤ i) (hrow : (t ++ [new])[i]? = some row) : i = t.length ∧ row = new := by
  rcases Table.get_concat hrow with hold | hnew
  · rw [List.getElem?_eq_none hi] at hold
    cases hold
  · exact hnew

/-- A resolved case is sound unless the name stood in for the domain. -/
theorem resolved_sound {tools : EnrichmentTools} {payload : EntityResolutionCreate}
    {key : String} {s : Store} {reviews : Table ReviewCandidate} {a : Id} {account : Account}
    (hmatches : payload.matches tools s = [(a, account)])
    (hnot : ¬ NameStandsIn (normalizeDomain tools payload.domain) payload.organizationName
      s.accounts) :
    SoundCase (normalizeDomain tools payload.domain) payload.organizationName s.accounts reviews
      s.resolutionCases.length (payload.caseIn tools key s) := by
  have hunique : UniqueMatch (normalizeDomain tools payload.domain) payload.organizationName
      s.accounts a account := findAccountMatches_single.mp hmatches
  have hrow : (payload.caseIn tools key s).resolvedAccountId = some a ∧
      (payload.caseIn tools key s).confidence =
        if truthy (normalizeDomain tools payload.domain) then 100 else 90 := by
    rw [EntityResolutionCreate.caseIn, hmatches]
    exact ⟨rfl, rfl⟩
  rcases hunique with ⟨d, hdomain, hd, honly⟩ | ⟨hnone, n, hname, hn, honly⟩
  · obtain ⟨haccount, hcarries, -⟩ := id honly
    refine ⟨?_, ?_, ?_⟩
    · intro _
      refine ⟨a, account, hrow.1, Or.inl ⟨d, hdomain, hd, honly⟩, ?_⟩
      intro d' hdomain' _
      rw [hdomain] at hdomain'
      cases hdomain'
      exact Or.inl hcarries
    · intro _
      exact ⟨d, a, account, hdomain, hrow.1, haccount, hcarries⟩
    · intro _ _ _ _ _ hfree
      rw [hfree d hdomain hd account (List.mem_of_getElem? haccount)] at hcarries
      cases hcarries
  · have hempty : ∀ d, normalizeDomain tools payload.domain = some d → d = "" := by
      intro d hdomain
      by_contra hd
      exact hnot ⟨⟨d, hdomain, hd⟩, hnone, n, a, account, hname, hn, honly⟩
    refine ⟨?_, ?_, ?_⟩
    · intro _
      refine ⟨a, account, hrow.1, Or.inr ⟨hnone, n, hname, hn, honly⟩, ?_⟩
      intro d hdomain hd
      exact absurd (hempty d hdomain) hd
    · intro hconfidence
      rw [hrow.2] at hconfidence
      cases hdomain : normalizeDomain tools payload.domain with
      | none => simp [hdomain, truthy] at hconfidence
      | some d => simp [hdomain, truthy, hempty d hdomain] at hconfidence
    · intro d _ _ hdomain hd
      exact absurd (hempty d hdomain) hd

/-- A new case is sound unless the name decided against a domain no account carries. -/
theorem createEntityResolution_sound_iff (tools : EnrichmentTools)
    (payload : EntityResolutionCreate) (key : String) (w : DbWorld)
    (hlineage : payload.hasLineage = true) (hok : w.store.constraintsOk = true)
    (hanchored : CasesAnchored w.store) :
    ResolvesSoundly tools payload w.store
        (after (createEntityResolution tools payload key) w).store ↔
      ¬ (w.store.resolutionCases.first? (·.idempotencyKey == key) = none ∧
        (caseFor tools payload key).fits = true ∧
        NameStandsIn (normalizeDomain tools payload.domain) payload.organizationName
          w.store.accounts) := by
  constructor
  · rintro hsound ⟨hnew, hfits, ⟨d, hdomain, hd⟩, hnone, n, a, account, hname, hn, honly⟩
    have hmatches : payload.matches tools w.store = [(a, account)] :=
      findAccountMatches_single.mpr (Or.inr ⟨hnone, n, hname, hn, honly⟩)
    have hcases := resolved_commits hlineage hok hanchored hnew hfits hmatches
    have hrow : (after (createEntityResolution tools payload key) w).store.resolutionCases[
        w.store.resolutionCases.length]? = some (payload.caseIn tools key w.store) := by
      rw [hcases]
      exact List.getElem?_concat_length
    have hcertain : (payload.caseIn tools key w.store).confidence = 100 := by
      rw [EntityResolutionCreate.caseIn, hmatches]
      simp [EntityResolutionCase.matched, caseFor, hdomain, truthy, hd]
    obtain ⟨d', b, other, hdomain', -, hother, hcarries⟩ :=
      (hsound _ _ le_rfl hrow).certain hcertain
    rw [hdomain] at hdomain'
    cases hdomain'
    rw [hnone d hdomain hd other (List.mem_of_getElem? hother)] at hcarries
    cases hcarries
  · intro hnot i row hi hrow
    rcases createEntityResolution_files tools key hlineage hanchored with hsame | ⟨hfiled, hvalid⟩
    · rw [hsame, List.getElem?_eq_none hi] at hrow
      cases hrow
    · generalize hcases : (after (createEntityResolution tools payload key)
        w).store.resolutionCases = cases at hfiled hrow
      generalize (after (createEntityResolution tools payload key)
        w).store.reviewCandidates = reviews at hfiled ⊢
      cases hfiled with
      | found => 
        rw [List.getElem?_eq_none hi] at hrow
        cases hrow
      | @resolved a account hnew hmatches =>
        obtain ⟨rfl, rfl⟩ := appended_row hi hrow
        have hfits : (caseFor tools payload key).fits = true := by
          rw [← matched_fits _ (payload.matches tools w.store)]
          exact case_fits hvalid (hcases ▸ List.mem_append_right _ (List.mem_singleton_self _))
        exact resolved_sound hmatches fun hname => hnot ⟨hnew, hfits, hname⟩
      | @reviewed reasonCode hnew hmatches =>
        obtain ⟨rfl, rfl⟩ := appended_row hi hrow
        obtain ⟨hstatus, hconfidence⟩ := matched_open (caseFor tools payload key) hmatches
        refine ⟨fun h => absurd h hstatus, fun h => absurd h hconfidence, ?_⟩
        intro _ _ _ _ _ _ _ _ _ _
        refine ⟨hstatus, caseReview w.store.resolutionCases.length (caseFor tools payload key)
          reasonCode, ?_, rfl, rfl, rfl⟩
        exact List.mem_append_right _ (List.mem_singleton_self _)

end Soundness

section Homonyms

/-- An account of a company and the domain it is stored under. -/
def storedAccount : Account where
  companyName := "Acme"
  domain := some "acme.com"

def registry : DbWorld where
  store := { accounts := [storedAccount] }
  external := {}

/-- Public-suffix lookup that takes every text for a registrable domain. -/
def plainSuffixes : EnrichmentTools where
  registrableDomain := some
  normalizeUrl := .ok
  contentHash := id

/-- A company called as the stored one, under the given domain. -/
def acmeAt (domain : String) : EntityResolutionCreate where
  originType := .manual
  originId := "m-1"
  organizationName := some "Acme"
  domain := some domain
  sourceDefinitionId := some 0
  sourceItemIds := [0]

/-- The case the request for the other domain leaves. -/
def homonymCase : EntityResolutionCase where
  originType := .manual
  originId := "m-1"
  inputName := some "Acme"
  inputDomain := some "acme.de"
  resolvedAccountId := some 0
  resolvedName := some "Acme"
  resolvedDomain := some "acme.com"
  status := "resolved"
  confidence := 100
  alternatives := [{ accountId := 0, domain := some "acme.com", companyName := "Acme" }]
  sourceDefinitionId := some 0
  sourceItemIds := [0]
  idempotencyKey := "k1"

/-- The company at another domain is taken for the stored one, with full confidence. -/
theorem homonym_resolved :
    (after (createEntityResolution plainSuffixes (acmeAt "acme.de") "k1")
        registry).store.resolutionCases = [homonymCase] ∧
      ¬ ResolvesSoundly plainSuffixes (acmeAt "acme.de") registry.store
        (after (createEntityResolution plainSuffixes (acmeAt "acme.de") "k1")
          registry).store := by
  have hcases : (after (createEntityResolution plainSuffixes (acmeAt "acme.de") "k1")
      registry).store.resolutionCases = [homonymCase] := by decide +kernel
  refine ⟨hcases, ?_⟩
  intro hsound
  obtain ⟨d, a, account, hdomain, haccount, hrow, hcarries⟩ :=
    (hsound 0 homonymCase le_rfl (by rw [hcases]; rfl)).certain rfl
  have hd : normalizeDomain plainSuffixes (acmeAt "acme.de").domain = some "acme.de" := by
    decide +kernel
  rw [hd] at hdomain
  cases hdomain
  cases haccount
  cases hrow
  exact absurd hcarries (by decide +kernel)

/-- The company at the stored domain is resolved to its account. -/
theorem stored_company_resolved :
    ResolvesSoundly plainSuffixes (acmeAt "acme.com") registry.store
      (after (createEntityResolution plainSuffixes (acmeAt "acme.com") "k1") registry).store := by
  refine (createEntityResolution_sound_iff plainSuffixes (acmeAt "acme.com") "k1" registry rfl
    (by decide +kernel) ⟨by simp [registry], by simp [registry]⟩).mpr ?_
  rintro ⟨-, -, -, hnone, -⟩
  have hfree := hnone "acme.com" (by decide +kernel) (by decide) storedAccount
    (List.mem_singleton_self _)
  exact absurd hfree (by decide +kernel)

end Homonyms

end GhostRecon
