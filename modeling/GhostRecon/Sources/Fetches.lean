import GhostRecon.Lib.Run
import GhostRecon.Sources.Registry

/-!
Fetches of one source, one after another. Identity has three definitions here:
the key looks at the external id, the duplicate class at the URL, the table at
the URL with the content. They agree as long as no item with a new key comes to
a URL where they differ; an item that does is quarantined behind the first
item of its URL, or breaks the session of its fetch.
-/

namespace GhostRecon

open Lib (Id Table Admissible after run queryOrRaise)

inductive FetchOutcome where
  | succeeded (fetchedItemCount createdItemCount : Nat)
  | failed (error : String)
  deriving DecidableEq, Repr

/-- The session of `fetch_source_by_id`. Every exception is caught, but a
session whose flush failed cannot commit any more. -/
def fetchSourceById (tools : SourceTools) (source : FetchSource)
    (fetch : Except String (List FetchedSourceItem)) : Tx FetchOutcome :=
  sessionScope (tryCatch
    (do
      let items ← queryOrRaise fun _ => fetch.mapError .providerError
      let created ← persistFetchedItems tools source items
      return .succeeded items.length created)
    fun e =>
      match e with
      | .integrityError => throw .pendingRollback
      | e => return .failed e.message)

section Items

variable (tools : SourceTools) (source : FetchSource)

/-- The key of an item at its normalised URL. -/
def FetchedSourceItem.key (fetched : FetchedSourceItem) (canonicalUrl : String) : Id × String :=
  buildRawItemIdempotencyKey source.id fetched.externalId canonicalUrl
    (tools.contentHash fetched.content)

/-- The item has a new key and meets a stored row of the source at which the
definitions differ: one with its URL when it has an external id, one with its
URL and content, or one with its external id. Or its texts do not fit. -/
def FetchedSourceItem.clashes (fetched : FetchedSourceItem) (s : Store) : Bool :=
  match tools.normalizeUrl fetched.url with
  | .error _ => false
  | .ok canonicalUrl =>
    (s.rawItems.first? (·.idempotencyKey == fetched.key tools source canonicalUrl)).isNone &&
      (!(rawItemFor tools source fetched canonicalUrl s).fits ||
        s.rawItems.any fun row => row.sourceDefinitionId == source.id &&
          (row.canonicalUrl == canonicalUrl &&
              (truthy fetched.externalId ||
                row.contentHash == tools.contentHash fetched.content) ||
            fetched.externalId.isSome && row.externalId == fetched.externalId))

/-- One item persisted in an open session. -/
def persistStep (w : DbWorld) (fetched : FetchedSourceItem) : DbWorld :=
  after (persistFetchedItem tools source fetched) w

/-- An item with a new key is stored, and one with an external id is canonical
and pending. -/
def FetchedSourceItem.Settles (w : DbWorld) (fetched : FetchedSourceItem) : Prop :=
  ∀ canonicalUrl, tools.normalizeUrl fetched.url = .ok canonicalUrl →
    w.store.rawItems.first? (·.idempotencyKey == fetched.key tools source canonicalUrl) = none →
      ∃ row : RawSourceItem,
        persistFetchedItem tools source fetched w = .ok (w.store.rawItems.length, true)
            { w with store := w.store.insertRawItem row } ∧
          row.idempotencyKey = fetched.key tools source canonicalUrl ∧
          (truthy fetched.externalId = true → row.externalId = fetched.externalId ∧
            row.duplicateState = .canonical ∧ row.parseStatus = .pending)

/-- The items of a fetch that are persisted: the loop ends at a URL that does
not normalise. -/
def persisted (items : List FetchedSourceItem) : List FetchedSourceItem :=
  items.takeWhile fun fetched => (tools.normalizeUrl fetched.url).isOk

/-- The world a fetch leaves behind. -/
def fetchStep (w : DbWorld) (items : List FetchedSourceItem) : DbWorld :=
  after (fetchSourceById tools source (.ok items)) w

variable {tools source} {fetched : FetchedSourceItem} {canonicalUrl : String} {w : DbWorld}

/-- A new raw item and the constraints. -/
theorem insertRawItem_constraints {s : Store} {row : RawSourceItem} :
    (s.insertRawItem row).constraintsOk = true ↔
      s.constraintsOk = true ∧
        (∀ old ∈ s.rawItems, old.idempotencyKey ≠ row.idempotencyKey) ∧
        (∀ id, row.externalId = some id → ∀ old ∈ s.rawItems,
          old.sourceDefinitionId = row.sourceDefinitionId → old.externalId ≠ some id) ∧
        (∀ old ∈ s.rawItems, old.sourceDefinitionId = row.sourceDefinitionId →
          old.canonicalUrl = row.canonicalUrl → old.contentHash ≠ row.contentHash) ∧
        row.fits = true := by
  have hkeys : Table.uniqueOn (s.rawItems ++ [row]) (fun row => some row.idempotencyKey) =
      true ↔ _ := Table.uniqueOn_concat
  have hids : Table.uniqueOn (s.rawItems ++ [row])
      (fun row => row.externalId.map fun id => (row.sourceDefinitionId, id)) = true ↔ _ :=
    Table.uniqueOn_concat
  have hcontents : Table.uniqueOn (s.rawItems ++ [row])
      (fun row => some (row.sourceDefinitionId, row.canonicalUrl, row.contentHash)) =
        true ↔ _ := Table.uniqueOn_concat
  have hid : (∀ k, row.externalId.map (fun id => (row.sourceDefinitionId, id)) = some k →
      ∀ old ∈ s.rawItems, old.externalId.map (fun id => (old.sourceDefinitionId, id)) ≠ some k) ↔
        ∀ id, row.externalId = some id → ∀ old ∈ s.rawItems,
          old.sourceDefinitionId = row.sourceDefinitionId → old.externalId ≠ some id := by
    constructor
    · intro h id hrow old hold hsource hid
      exact h (row.sourceDefinitionId, id) (by rw [hrow]; rfl) old hold
        (by rw [hid, ← hsource]; rfl)
    · intro h k hk old hold heq
      obtain ⟨id, hrow, rfl⟩ := Option.map_eq_some_iff.mp hk
      obtain ⟨other, hother, hpair⟩ := Option.map_eq_some_iff.mp heq
      obtain ⟨hsource, rfl⟩ := Prod.mk.inj hpair
      exact h other hrow old hold hsource hother
  simp only [Store.constraintsOk, Store.keysOk, Store.widthsOk, rawItemsUnique,
    Store.insertRawItem, Bool.and_eq_true, hkeys, hids, hcontents, hid, List.all_append, List.all_cons, List.all_nil, Bool.and_true,
    Option.some.injEq, forall_eq', ne_eq, Prod.mk.injEq, not_and]
  grind

/-- An item whose key is stored changes nothing. -/
theorem persist_old {existing : Id × RawSourceItem}
    (hurl : tools.normalizeUrl fetched.url = .ok canonicalUrl)
    (hold : w.store.rawItems.first?
      (·.idempotencyKey == fetched.key tools source canonicalUrl) = some existing) :
    persistFetchedItem tools source fetched w = .ok (existing.1, false) w := by
  have hquery : w.store.rawItems.first? (·.idempotencyKey ==
      buildRawItemIdempotencyKey source.id fetched.externalId canonicalUrl
        (tools.contentHash fetched.content)) = some existing := hold
  simp only [persistFetchedItem, Lib.bind_run, Lib.queryOrRaise_run, hurl, Except.mapError,
    Lib.query_run, hquery, Lib.pure_run]

/-- A URL that does not normalise raises before anything is written. -/
theorem persist_unparsed {message : String}
    (hurl : tools.normalizeUrl fetched.url = .error message) :
    persistFetchedItem tools source fetched w = .error (.valueError message) w := by
  simp only [persistFetchedItem, Lib.bind_run, Lib.queryOrRaise_run, hurl, Except.mapError]

/-- An item with a new key is flushed with its row. -/
theorem persist_new (hurl : tools.normalizeUrl fetched.url = .ok canonicalUrl)
    (hnew : w.store.rawItems.first?
      (·.idempotencyKey == fetched.key tools source canonicalUrl) = none) :
    persistFetchedItem tools source fetched w =
      if (w.store.insertRawItem
          (rawItemFor tools source fetched canonicalUrl w.store)).constraintsOk then
        .ok (w.store.rawItems.length, true)
          { w with
            store := w.store.insertRawItem (rawItemFor tools source fetched canonicalUrl w.store) }
      else
        .error .integrityError
          { w with
            store := w.store.insertRawItem (rawItemFor tools source fetched canonicalUrl w.store) } := by
  have hquery : w.store.rawItems.first? (·.idempotencyKey ==
      buildRawItemIdempotencyKey source.id fetched.externalId canonicalUrl
        (tools.contentHash fetched.content)) = none := hnew
  cases hvalid : (w.store.insertRawItem
      (rawItemFor tools source fetched canonicalUrl w.store)).constraintsOk <;>
    simp only [persistFetchedItem, Lib.bind_run, Lib.queryOrRaise_run, hurl, Except.mapError,
      Lib.query_run, hquery, Lib.write_run, flush, Lib.flush_run, hvalid, Lib.pure_run,
      Bool.false_eq_true, if_true, if_false]

/-- An item is canonical when nothing of its source is stored under its URL. -/
theorem rawItemFor_canonical {s : Store} :
    (rawItemFor tools source fetched canonicalUrl s).duplicateState = .canonical ↔
      ∀ row ∈ s.rawItems, row.sourceDefinitionId = source.id →
        row.canonicalUrl ≠ canonicalUrl := by
  have hempty : storedHashes source canonicalUrl s = [] ↔
      ∀ row ∈ s.rawItems, row.sourceDefinitionId = source.id →
        row.canonicalUrl ≠ canonicalUrl := by
    simp [storedHashes, List.filter_eq_nil_iff]
  rw [← hempty]
  show (classifyDuplicate _ _).1 = _ ↔ _
  unfold classifyDuplicate
  cases storedHashes source canonicalUrl s with
  | nil => simp
  | cons hash rest =>
    simp only [List.isEmpty_cons, Bool.false_eq_true, if_false, reduceCtorEq, iff_false]
    split <;> simp

theorem rawItemFor_pending {s : Store}
    (h : (rawItemFor tools source fetched canonicalUrl s).duplicateState = .canonical) :
    (rawItemFor tools source fetched canonicalUrl s).parseStatus = .pending := by
  have hclass : (classifyDuplicate (storedHashes source canonicalUrl s)
      (tools.contentHash fetched.content)).1 = .canonical := h
  simp [rawItemFor, hclass]

/-- An item with a new key settles when its row is accepted, and is canonical in
case it has an external id. -/
theorem settles_new_iff (hurl : tools.normalizeUrl fetched.url = .ok canonicalUrl)
    (hnew : w.store.rawItems.first?
      (·.idempotencyKey == fetched.key tools source canonicalUrl) = none) :
    fetched.Settles tools source w ↔
      (w.store.insertRawItem
          (rawItemFor tools source fetched canonicalUrl w.store)).constraintsOk = true ∧
        (truthy fetched.externalId = true →
          (rawItemFor tools source fetched canonicalUrl w.store).duplicateState =
            .canonical) := by
  constructor
  · intro h
    obtain ⟨row, hrun, -, hexternal⟩ := h canonicalUrl hurl hnew
    rw [persist_new hurl hnew] at hrun
    split at hrun
    · next hvalid =>
      obtain ⟨-, hworld⟩ := EStateM.Result.ok.inj hrun
      have hitems := congrArg (·.store.rawItems) hworld
      obtain rfl : rawItemFor tools source fetched canonicalUrl w.store = row := by
        simpa [Store.insertRawItem] using hitems
      exact ⟨hvalid, fun hid => (hexternal hid).2.1⟩
    · cases hrun
  · rintro ⟨hvalid, hcanonical⟩ url hsame -
    rw [hurl] at hsame
    cases hsame
    refine ⟨rawItemFor tools source fetched canonicalUrl w.store, ?_, rfl, ?_⟩
    · rw [persist_new hurl hnew, if_pos hvalid]
    · intro hid
      exact ⟨rfl, hcanonical hid, rawItemFor_pending (hcanonical hid)⟩

/-- A new key does not clash when its row fits and no stored row of the source
stands where the definitions differ. -/
theorem clashes_new_iff {s : Store} (hurl : tools.normalizeUrl fetched.url = .ok canonicalUrl)
    (hnew : s.rawItems.first?
      (·.idempotencyKey == fetched.key tools source canonicalUrl) = none) :
    fetched.clashes tools source s = false ↔
      (rawItemFor tools source fetched canonicalUrl s).fits = true ∧
        ∀ row ∈ s.rawItems, row.sourceDefinitionId = source.id →
          (row.canonicalUrl = canonicalUrl →
            truthy fetched.externalId = false ∧
              row.contentHash ≠ tools.contentHash fetched.content) ∧
            (fetched.externalId.isSome = true → row.externalId ≠ fetched.externalId) := by
  simp only [FetchedSourceItem.clashes, hurl, hnew, Option.isNone_none, Bool.true_and,
    Bool.or_eq_false_iff, Bool.not_eq_false', List.any_eq_false, Bool.and_eq_true,
    beq_iff_eq, Bool.or_eq_true, not_and, not_or, Bool.not_eq_true, ne_eq]

/-- Exactly the items that do not clash settle. -/
theorem settles_iff (hok : w.store.constraintsOk = true) :
    fetched.Settles tools source w ↔ fetched.clashes tools source w.store = false := by
  cases hurl : tools.normalizeUrl fetched.url with
  | error message =>
    constructor
    · intro _
      simp [FetchedSourceItem.clashes, hurl]
    · intro _ url hok
      rw [hurl] at hok
      cases hok
  | ok canonicalUrl =>
    cases hfirst : w.store.rawItems.first?
        (·.idempotencyKey == fetched.key tools source canonicalUrl) with
    | some existing =>
      constructor
      · intro _
        simp [FetchedSourceItem.clashes, hurl, hfirst]
      · intro _ url hsame hnone
        rw [hurl] at hsame
        cases hsame
        rw [hfirst] at hnone
        cases hnone
    | none =>
      have hkeys : ∀ old ∈ w.store.rawItems, old.idempotencyKey ≠
          (rawItemFor tools source fetched canonicalUrl w.store).idempotencyKey := by
        intro old hold heq
        have hfree := Table.first?_none.mp hfirst old hold
        simp only [beq_eq_false_iff_ne] at hfree
        exact hfree heq
      rw [settles_new_iff hurl hfirst, clashes_new_iff hurl hfirst, insertRawItem_constraints,
        rawItemFor_canonical]
      constructor
      · rintro ⟨⟨-, -, hids, hcontents, hfits⟩, hcanonical⟩
        refine ⟨hfits, ?_⟩
        intro row hrow hsource
        refine ⟨?_, ?_⟩
        · intro hsame
          refine ⟨?_, hcontents row hrow hsource hsame⟩
          by_contra hid
          exact hcanonical (by simpa using hid) row hrow hsource hsame
        · intro hid hequal
          obtain ⟨id, hsome⟩ := Option.isSome_iff_exists.mp hid
          exact hids id hsome row hrow hsource (hequal.trans hsome)
      · rintro ⟨hfits, hrows⟩
        refine ⟨⟨hok, hkeys, ?_, ?_, hfits⟩, ?_⟩
        · intro id hsome row hrow hsource hequal
          have hexternal : fetched.externalId = some id := hsome
          exact (hrows row hrow hsource).2 (by rw [hexternal]; rfl) (hequal.trans hexternal.symm)
        · intro row hrow hsource hsame
          exact ((hrows row hrow hsource).1 hsame).2
        · intro hid row hrow hsource hsame
          rw [((hrows row hrow hsource).1 hsame).1] at hid
          cases hid

theorem persistStep_of_run {found : Id × Bool} {v : DbWorld}
    (h : persistFetchedItem tools source fetched w = .ok found v) :
    persistStep tools source w fetched = v := by
  unfold persistStep after
  rw [h]

/-- Persisting only adds rows. -/
theorem persistStep_grows (w : DbWorld) (fetched : FetchedSourceItem) :
    w.store.rawItems <+: (persistStep tools source w fetched).store.rawItems := by
  unfold persistStep after
  cases hurl : tools.normalizeUrl fetched.url with
  | error message => rw [persist_unparsed hurl]
  | ok canonicalUrl =>
    cases hfirst : w.store.rawItems.first?
        (·.idempotencyKey == fetched.key tools source canonicalUrl) with
    | some existing => rw [persist_old hurl hfirst]
    | none =>
      rw [persist_new hurl hfirst]
      by_cases hvalid : (w.store.insertRawItem
          (rawItemFor tools source fetched canonicalUrl w.store)).constraintsOk = true
      · rw [if_pos hvalid]
        exact List.prefix_append _ _
      · rw [if_neg hvalid]
        exact List.prefix_append _ _

/-- An item that settles leaves the constraints satisfied. -/
theorem persistStep_constraints (hok : w.store.constraintsOk = true)
    (h : fetched.Settles tools source w) :
    (persistStep tools source w fetched).store.constraintsOk = true := by
  unfold persistStep after
  cases hurl : tools.normalizeUrl fetched.url with
  | error message =>
    rw [persist_unparsed hurl]
    exact hok
  | ok canonicalUrl =>
    cases hfirst : w.store.rawItems.first?
        (·.idempotencyKey == fetched.key tools source canonicalUrl) with
    | some existing =>
      rw [persist_old hurl hfirst]
      exact hok
    | none =>
      have hvalid := ((settles_new_iff hurl hfirst).mp h).1
      rw [persist_new hurl hfirst, if_pos hvalid]
      exact hvalid

/-- The items of a fetch settle one after another exactly when none clashes. -/
theorem items_settle_iff {items : List FetchedSourceItem} (hok : w.store.constraintsOk = true) :
    Admissible (persistStep tools source) (fun v item => item.Settles tools source v) w items ↔
      Admissible (persistStep tools source)
        (fun v item => item.clashes tools source v.store = false) w items := by
  constructor
  · intro h
    exact Lib.admissible_of_invariant (I := fun v => v.store.constraintsOk = true)
      (fun v item hsettles hv => persistStep_constraints hv hsettles)
      (fun v item hsettles hv => (settles_iff hv).mp hsettles) h hok
  · intro h
    exact Lib.admissible_of_invariant (I := fun v => v.store.constraintsOk = true)
      (fun v item hclean hv => persistStep_constraints hv ((settles_iff hv).mpr hclean))
      (fun v item hclean hv => (settles_iff hv).mpr hclean) h hok

/-- An item that settles is persisted without an exception. -/
theorem persist_returns (hurl : tools.normalizeUrl fetched.url = .ok canonicalUrl)
    (h : fetched.Settles tools source w) :
    ∃ found, persistFetchedItem tools source fetched w =
      .ok found (persistStep tools source w fetched) := by
  unfold persistStep after
  cases hfirst : w.store.rawItems.first?
      (·.idempotencyKey == fetched.key tools source canonicalUrl) with
  | some existing =>
    rw [persist_old hurl hfirst]
    exact ⟨_, rfl⟩
  | none =>
    rw [persist_new hurl hfirst, if_pos ((settles_new_iff hurl hfirst).mp h).1]
    exact ⟨_, rfl⟩

/-- The loop of a fetch whose items settle persists them all, or up to a URL
that does not normalise. -/
theorem persistFetchedItems_run {items : List FetchedSourceItem}
    (h : Admissible (persistStep tools source) (fun v item => item.Settles tools source v) w
      (persisted tools items)) :
    (∃ created, persistFetchedItems tools source items w =
        .ok created (run (persistStep tools source) w (persisted tools items))) ∨
      ∃ message, persistFetchedItems tools source items w =
        .error (.valueError message)
          (run (persistStep tools source) w (persisted tools items)) := by
  induction items generalizing w with
  | nil => exact Or.inl ⟨0, rfl⟩
  | cons first rest ih =>
    cases hurl : tools.normalizeUrl first.url with
    | error message =>
      right
      refine ⟨message, ?_⟩
      have hstop : persisted tools (first :: rest) = [] := by
        simp [persisted, hurl, Except.isOk, Except.toBool]
      rw [hstop, Lib.run_nil]
      simp only [persistFetchedItems, Lib.bind_run, persist_unparsed hurl]
    | ok canonicalUrl =>
      have hgo : persisted tools (first :: rest) = first :: persisted tools rest := by
        simp [persisted, hurl, Except.isOk, Except.toBool]
      rw [hgo] at h ⊢
      obtain ⟨hfirst, hrest⟩ := h
      obtain ⟨⟨i, new⟩, hrun⟩ := persist_returns hurl hfirst
      rw [Lib.run_cons]
      rcases ih hrest with ⟨created, hloop⟩ | ⟨message, hloop⟩
      · left
        refine ⟨created + if new then 1 else 0, ?_⟩
        simp only [persistFetchedItems, Lib.bind_run, hrun, hloop, Lib.pure_run]
      · right
        refine ⟨message, ?_⟩
        simp only [persistFetchedItems, Lib.bind_run, hrun, hloop]

/-- A fetch whose items settle commits them. -/
theorem fetchStep_run {items : List FetchedSourceItem} (hok : w.store.constraintsOk = true)
    (h : Admissible (persistStep tools source) (fun v item => item.Settles tools source v) w
      (persisted tools items)) :
    fetchStep tools source w items =
      run (persistStep tools source) w (persisted tools items) := by
  have hvalid : (run (persistStep tools source) w (persisted tools items)).store.constraintsOk =
      true :=
    Lib.run_keeps (I := fun v => v.store.constraintsOk = true)
      (fun v item hsettles hv => persistStep_constraints hv hsettles) h hok
  have hbody : ∃ outcome, (tryCatch
      (do
        let items ← queryOrRaise fun _ => (Except.ok items).mapError .providerError
        let created ← persistFetchedItems tools source items
        return .succeeded items.length created)
      fun e =>
        match e with
        | .integrityError => throw .pendingRollback
        | e => return .failed e.message : Tx FetchOutcome) w =
      .ok outcome (run (persistStep tools source) w (persisted tools items)) := by
    rcases persistFetchedItems_run h with ⟨created, hloop⟩ | ⟨message, hloop⟩
    · refine ⟨.succeeded items.length created, ?_⟩
      rw [Lib.tryCatch_run]
      simp only [Lib.bind_run, Lib.queryOrRaise_run, Except.mapError, hloop, Lib.pure_run]
    · refine ⟨.failed message, ?_⟩
      rw [Lib.tryCatch_run]
      simp only [Lib.bind_run, Lib.queryOrRaise_run, Except.mapError, hloop, Lib.pure_run]
      rfl
  obtain ⟨outcome, hbody⟩ := hbody
  refine (Lib.after_sessionScope_ok hbody).trans ?_
  rw [if_pos hvalid]

end Items

section Fetches

variable (tools : SourceTools) (source : FetchSource)

/-- The items a fetch persists settle, one after another. -/
def FetchSettles (w : DbWorld) (items : List FetchedSourceItem) : Prop :=
  Admissible (persistStep tools source) (fun v item => item.Settles tools source v) w
    (persisted tools items)

/-- None of the items a fetch persists clashes when its turn comes. -/
def FetchClean (w : DbWorld) (items : List FetchedSourceItem) : Prop :=
  Admissible (persistStep tools source)
    (fun v item => item.clashes tools source v.store = false) w (persisted tools items)

/-- Every item that a fetch of the run persists under a new key is stored at the
end of the run, canonical and pending if it has an external id. -/
def EndsStored (w : DbWorld) (fetches : List (List FetchedSourceItem)) : Prop :=
  ∀ before items later, fetches = before ++ items :: later →
    ∀ front fetched back, persisted tools items = front ++ fetched :: back →
      ∀ canonicalUrl, tools.normalizeUrl fetched.url = .ok canonicalUrl →
        (run (persistStep tools source) (run (fetchStep tools source) w before)
            front).store.rawItems.first?
          (·.idempotencyKey == fetched.key tools source canonicalUrl) = none →
        ∃ row ∈ (run (fetchStep tools source) w fetches).store.rawItems,
          row.idempotencyKey = fetched.key tools source canonicalUrl ∧
            (truthy fetched.externalId = true → row.externalId = fetched.externalId ∧
              row.duplicateState = .canonical ∧ row.parseStatus = .pending)

instance (w : DbWorld) (items : List FetchedSourceItem) :
    Decidable (FetchClean tools source w items) :=
  inferInstanceAs (Decidable (Admissible (persistStep tools source)
    (fun v item => item.clashes tools source v.store = false) w (persisted tools items)))

variable {tools source} {w : DbWorld} {items : List FetchedSourceItem}

theorem fetchSettles_iff (hok : w.store.constraintsOk = true) :
    FetchSettles tools source w items ↔ FetchClean tools source w items :=
  items_settle_iff hok

theorem fetchStep_constraints (hok : w.store.constraintsOk = true) :
    (fetchStep tools source w items).store.constraintsOk = true :=
  Lib.sessionScope_valid hok

/-- Items persisted one after another only add rows. -/
theorem run_persistStep_grows (w : DbWorld) (items : List FetchedSourceItem) :
    w.store.rawItems <+: (run (persistStep tools source) w items).store.rawItems :=
  Lib.run_always_relates (R := fun v v' => v.store.rawItems <+: v'.store.rawItems)
    (fun _ => List.prefix_rfl) List.IsPrefix.trans persistStep_grows w items

theorem fetchStep_grows (hok : w.store.constraintsOk = true)
    (h : FetchSettles tools source w items) :
    w.store.rawItems <+: (fetchStep tools source w items).store.rawItems := by
  rw [fetchStep_run hok h]
  exact run_persistStep_grows w _

/-- Fetches whose items settle only add rows. -/
theorem run_fetchStep_grows {fetches : List (List FetchedSourceItem)}
    (hok : w.store.constraintsOk = true)
    (h : Admissible (fetchStep tools source) (FetchSettles tools source) w fetches) :
    w.store.rawItems <+: (run (fetchStep tools source) w fetches).store.rawItems := by
  induction fetches generalizing w with
  | nil => exact List.prefix_rfl
  | cons items rest ih =>
    exact (fetchStep_grows hok h.1).trans (ih (fetchStep_constraints hok) h.2)

/-- What settles is stored for good. -/
theorem settled_endsStored {fetches : List (List FetchedSourceItem)}
    (hok : w.store.constraintsOk = true)
    (h : Admissible (fetchStep tools source) (FetchSettles tools source) w fetches) :
    EndsStored tools source w fetches := by
  rintro before items later rfl front fetched back hitems canonicalUrl hurl hnew
  obtain ⟨-, hfetch, hlater⟩ := Lib.admissible_append.mp h
  have hstart : (run (fetchStep tools source) w before).store.constraintsOk = true :=
    Lib.run_always_keeps (I := fun v : DbWorld => v.store.constraintsOk = true)
      (fun _ _ hv => fetchStep_constraints hv) before hok
  have hsettled := hfetch
  unfold FetchSettles at hsettled
  rw [hitems] at hsettled
  obtain ⟨row, hrun, hkey, hexternal⟩ :=
    (Lib.admissible_append.mp hsettled).2.1 canonicalUrl hurl hnew
  refine ⟨row, ?_, hkey, hexternal⟩
  rw [Lib.run_append, Lib.run_cons]
  refine (run_fetchStep_grows (fetchStep_constraints hstart) hlater).subset ?_
  rw [fetchStep_run hstart hfetch, hitems, Lib.run_append, Lib.run_cons]
  refine (run_persistStep_grows _ back).subset ?_
  rw [persistStep_of_run hrun]
  exact List.mem_append_right _ (List.mem_singleton_self row)

end Fetches

/-- URLs that are already normalised, and content as its own digest. -/
def plainSourceTools : SourceTools where
  normalizeUrl := .ok
  contentHash := id

def calendarSource : FetchSource where
  id := 0
  defaultLanguage := some "en"

/-- An event of a calendar: without a URL of its own it has the calendar's. -/
def calendarEvent (uid summary : String) (url : String := "https://con.example/events.ics") :
    FetchedSourceItem where
  url := url
  content := summary
  externalId := some uid

def emptyWorld : DbWorld where
  store := {}
  external := {}

end GhostRecon
