import GhostRecon.Enrichment.Batches

/-!
What a verification batch learns about the address patterns of a domain. A
pattern that was added is looked up again before it is flushed, so the batch
adds it twice when two of its verified records follow each other without a
review between them.
-/

namespace GhostRecon

open Lib (Id Table)

section Tables

def OrganizationEmailPattern.pair (row : OrganizationEmailPattern) : String × String :=
  (row.domain, row.pattern)

/-- The patterns that the table knows. -/
def pairs (patterns : Table OrganizationEmailPattern) : List (String × String) :=
  patterns.map (·.pair)

/-- The sample size of a pattern, nothing when it is not known. -/
def sampleSize (patterns : Table OrganizationEmailPattern) (pair : String × String) : Nat :=
  (patterns.map fun row => if row.pair = pair then row.sampleSize else 0).sum

/-- The columns hold the pattern. -/
def pairFits (pair : String × String) : Bool :=
  OrganizationEmailPattern.fits { domain := pair.1, pattern := pair.2 }

/-- Account and address of the contacts. -/
def addressBook (contacts : Table Contact) : List (Option Id × Option String) :=
  contacts.map fun row => (row.accountId, row.email)

/-- No account has two contacts with one address. -/
def bookOk (book : List (Option Id × Option String)) : Bool :=
  Table.uniqueOn book fun entry => entry.1.bind fun a => entry.2.map fun e => (a, e)

end Tables

section Verifying

variable [Casing]

/-- The pattern that a verified record teaches. -/
def EmailCandidateRecord.pair (record : EmailCandidateRecord) : String × String :=
  (patternDomain record.email, record.pattern)

/-- The record is verified and teaches the pattern. -/
def verifies (results : VerificationResults) (pair : String × String)
    (row : Id × EmailCandidateRecord) : Bool :=
  (finding results row).1 == .verified && row.2.pair == pair

section Conditions

variable (results : VerificationResults) (reviews : Table ReviewCandidate)

/-- The record opens a review, and so flushes the session. -/
def opens (row : Id × EmailCandidateRecord) : Bool :=
  verdict results reviews row == .reviewed

/-- The records from the first one that teaches the pattern up to the next one
that opens a review. -/
def stretch (pair : String × String) (rows : List (Id × EmailCandidateRecord)) :
    List (Id × EmailCandidateRecord) :=
  (rows.dropWhile fun row => !verifies results pair row).takeWhile fun row =>
    !opens results reviews row

/-- The keys of the events that the batch adds, when `opened` reviews are there. -/
def batchKeys : List (Id × EmailCandidateRecord) → Nat → List OutboxKey
  | [], _ => []
  | row :: rest, opened =>
    match verdict results reviews row with
    | .verified => .counted .emailVerified row.1 (row.2.version + 1) :: batchKeys rest opened
    | .marked => batchKeys rest opened
    | .reviewed => .once .approvalRequested opened :: batchKeys rest (opened + 1)

/-- The address book after a record. -/
def readdressBook (row : Id × EmailCandidateRecord) (book : List (Option Id × Option String)) :
    List (Option Id × Option String) :=
  match verdict results reviews row, row.2.contactId with
  | .verified, some c => book.modify c fun entry => (entry.1, some row.2.email)
  | _, _ => book

/-- Whenever the session flushes, and when it commits, no account has two
contacts with one address. -/
def AddressesApart : List (Id × EmailCandidateRecord) → List (Option Id × Option String) → Prop
  | [], book => bookOk book = true
  | row :: rest, book =>
    (verdict results reviews row = .reviewed → bookOk book = true) ∧
      AddressesApart rest (readdressBook results reviews row book)

end Conditions

/-- What the batch needs from the store it finds. -/
structure BatchAccepted (results : VerificationResults) (rows : List (Id × EmailCandidateRecord))
    (s : Store) : Prop where
  /-- A pattern that is not known is taught once before the next review opens. -/
  apart : ∀ row ∈ rows, (finding results row).1 = .verified →
    row.2.pair ∉ pairs s.emailPatterns →
      (stretch results s.reviewCandidates row.2.pair rows).countP
        (verifies results row.2.pair) ≤ 1
  widths : ∀ row ∈ rows, (finding results row).1 = .verified → pairFits row.2.pair = true
  events : ∀ old ∈ s.outbox, old.idempotencyKey ∉
    batchKeys results s.reviewCandidates rows s.reviewCandidates.length
  addresses : AddressesApart results s.reviewCandidates rows (addressBook s.contacts)

/-- The batch commits; each pattern is known at most once, and each verified
record is counted for its own. -/
def PatternsCounted (rt : Runtime) (results : VerificationResults)
    (rows : List (Id × EmailCandidateRecord)) (w : DbWorld) : Prop :=
  ∃ w' : DbWorld, verifyInOrder rt results rows w = .ok ⟨⟩ w' ∧
    (pairs w'.store.emailPatterns).Nodup ∧
    ∀ pair, (0 < rows.countP (verifies results pair) → pair ∈ pairs w'.store.emailPatterns) ∧
      sampleSize w'.store.emailPatterns pair =
        sampleSize w.store.emailPatterns pair + rows.countP (verifies results pair)

section Learning

omit [Casing]

variable {visible patterns : Table OrganizationEmailPattern} {domain pattern : String}
  {verifiedAt : Time}

/-- A column after an update that acts on it alone. -/
theorem map_modify {α β : Type} {rows : List α} {i : Nat} {f : α → α} {column : α → β}
    (g : β → β) (h : ∀ row, column (f row) = g (column row)) :
    (rows.modify i f).map column = (rows.map column).modify i g := by
  induction rows generalizing i with
  | nil => simp
  | cons first rest ih =>
    cases i with
    | zero => simp [h]
    | succ i => simp [ih]

/-- A column that an update leaves alone. -/
theorem map_modify_same {α β : Type} {rows : List α} {i : Nat} {f : α → α} {column : α → β}
    (h : ∀ row, column (f row) = column row) :
    (rows.modify i f).map column = rows.map column := by
  have hmap : (rows.modify i f).map column = (rows.map column).modify i id :=
    map_modify id (by simpa using h)
  rw [hmap, List.modify_id]

theorem sum_modify {α : Type} {rows : List α} {i : Nat} {row : α} (f : α → α) (size : α → Nat)
    (hrow : rows[i]? = some row) :
    ((rows.modify i f).map size).sum + size row = (rows.map size).sum + size (f row) := by
  induction rows generalizing i with
  | nil => cases hrow
  | cons first rest ih =>
    cases i with
    | zero =>
      obtain rfl : first = row := Option.some.inj hrow
      simp only [List.modify_zero_cons, List.map_cons, List.sum_cons]
      omega
    | succ i =>
      have hrest := ih (i := i) hrow
      simp only [List.modify_succ_cons, List.map_cons, List.sum_cons]
      omega

/-- A pattern is found exactly when it is visible. -/
theorem first?_pair : (visible.first? fun row => row.domain == domain && row.pattern == pattern) =
      none ↔ (domain, pattern) ∉ pairs visible := by
  rw [Table.first?_none, pairs, List.mem_map]
  constructor
  · rintro hnone ⟨row, hrow, hpair⟩
    have hmissing := hnone row hrow
    cases hpair
    simp at hmissing
  · intro hmissing row hrow
    by_contra hfound
    have hpair : row.domain = domain ∧ row.pattern = pattern := by simpa using hfound
    exact hmissing ⟨row, hrow, Prod.ext hpair.1 hpair.2⟩

/-- The row that a lookup finds is still at its place. -/
theorem first?_place (hvisible : pairs visible <+: pairs patterns) {i : Id}
    {seen : OrganizationEmailPattern}
    (hfound : (visible.first? fun row => row.domain == domain && row.pattern == pattern) =
      some (i, seen)) :
    ∃ row, patterns[i]? = some row ∧ row.pair = (domain, pattern) := by
  obtain ⟨hseen, hpair⟩ := Table.first?_some hfound
  have hplace : (pairs visible)[i]? = some (domain, pattern) := by
    rw [pairs, List.getElem?_map, hseen]
    have hboth : seen.domain = domain ∧ seen.pattern = pattern := by simpa using hpair
    exact congrArg some (Prod.ext hboth.1 hboth.2)
  have hstored := Table.get_of_prefix hvisible i _ hplace
  rw [pairs, List.getElem?_map] at hstored
  exact Option.map_eq_some_iff.mp hstored

/-- A pattern is added unless it is visible. -/
theorem learn_pairs :
    pairs (learn visible domain pattern verifiedAt patterns) =
      if (domain, pattern) ∈ pairs visible then pairs patterns
      else pairs patterns ++ [(domain, pattern)] := by
  unfold learn
  split
  · next i seen hfound =>
    have hvisible : (domain, pattern) ∈ pairs visible := by
      by_contra hmissing
      rw [first?_pair.mpr hmissing] at hfound
      cases hfound
    rw [if_pos hvisible]
    exact map_modify_same fun _ => rfl
  · next hfound =>
    rw [if_neg (first?_pair.mp hfound), pairs, List.map_append]
    rfl

/-- The sample size of the pattern grows by one, and no other does. -/
theorem learn_size (hvisible : pairs visible <+: pairs patterns) (pair : String × String) :
    sampleSize (learn visible domain pattern verifiedAt patterns) pair =
      sampleSize patterns pair + if (domain, pattern) = pair then 1 else 0 := by
  unfold learn
  split
  · next i seen hfound =>
    obtain ⟨row, hrow, hpair⟩ := first?_place hvisible hfound
    let size := fun row : OrganizationEmailPattern =>
      if row.pair = pair then row.sampleSize else 0
    let grown := fun row : OrganizationEmailPattern => { row with
      sampleSize := row.sampleSize + 1
      confidence := max row.confidence 100
      verifiedAt := some verifiedAt }
    have hsum := sum_modify grown size hrow
    dsimp only [grown, size] at hsum
    rw [← hpair]
    unfold sampleSize
    by_cases hsame : row.pair = pair
    · subst hsame
      have hgrown : (if OrganizationEmailPattern.pair { row with
          sampleSize := row.sampleSize + 1
          confidence := max row.confidence 100
          verifiedAt := some verifiedAt } = row.pair then row.sampleSize + 1 else 0) =
        row.sampleSize + 1 := if_pos rfl
      rw [if_pos rfl] at hsum ⊢
      omega
    · have hother : (if OrganizationEmailPattern.pair { row with
          sampleSize := row.sampleSize + 1
          confidence := max row.confidence 100
          verifiedAt := some verifiedAt } = pair then row.sampleSize + 1 else 0) = 0 :=
        if_neg hsame
      rw [if_neg hsame] at hsum ⊢
      omega
  · unfold sampleSize
    rw [List.map_append, List.sum_append]
    show _ + (_ + 0) = _
    rfl

end Learning

section Steps

variable {rt : Runtime} {results : VerificationResults} {reviews : Table ReviewCandidate}
  {row : Id × EmailCandidateRecord} {batch : Batch}

/-- A record whose verdict is to be verified teaches its pattern. -/
theorem verdict_verified :
    verdict results reviews row = .verified ↔ (finding results row).1 = .verified := by
  unfold verdict
  split
  · next h => simp [h]
  · next h => simp [h]
  · next h _ =>
    constructor
    · intro hverdict
      split at hverdict <;> cases hverdict
    · intro hverified
      exact absurd hverified h

theorem verdict_other (h : verdict results reviews row ≠ .verified) :
    (finding results row).1 ≠ .verified :=
  fun hverified => h (verdict_verified.mpr hverified)

theorem verifies_iff {pair : String × String} :
    verifies results pair row = true ↔
      (finding results row).1 = .verified ∧ row.2.pair = pair := by
  simp [verifies]

/-- A record that opens a review teaches nothing. -/
theorem not_verifies_of_opens {pair : String × String} (h : opens results reviews row = true) :
    verifies results pair row = false := by
  rw [Bool.eq_false_iff]
  intro hverifies
  have hverified : verdict results reviews row = .verified :=
    verdict_verified.mpr (verifies_iff.mp hverifies).1
  rw [opens, hverified] at h
  cases h

/-- The visible patterns are the first of the patterns. -/
def Batch.Reads (batch : Batch) : Prop :=
  pairs batch.visible <+: pairs batch.store.emailPatterns

theorem workOne_patterns :
    pairs (workOne rt results (verdict results reviews row) row batch).store.emailPatterns =
      if (finding results row).1 = .verified ∧ row.2.pair ∉ pairs batch.visible then
        pairs batch.store.emailPatterns ++ [row.2.pair]
      else pairs batch.store.emailPatterns := by
  cases hverdict : verdict results reviews row with
  | verified =>
    simp only [workOne, applyVerified_eq, verdict_verified.mp hverdict, true_and]
    rw [learn_pairs]
    by_cases hvisible : row.2.pair ∈ pairs batch.visible
    · rw [if_neg (not_not.mpr hvisible)]
      exact if_pos hvisible
    · rw [if_pos hvisible]
      exact if_neg hvisible
  | marked =>
    rw [if_neg fun h => verdict_other (by rw [hverdict]; simp) h.1]
    rfl
  | reviewed =>
    rw [if_neg fun h => verdict_other (by rw [hverdict]; simp) h.1]
    rfl

theorem workOne_visible :
    pairs (workOne rt results (verdict results reviews row) row batch).visible =
      if opens results reviews row then pairs batch.store.emailPatterns
      else pairs batch.visible := by
  unfold opens
  cases verdict results reviews row <;> rfl

theorem workOne_reads (rt : Runtime) (results : VerificationResults)
    (reviews : Table ReviewCandidate) (row : Id × EmailCandidateRecord) (h : batch.Reads) :
    (workOne rt results (verdict results reviews row) row batch).Reads := by
  unfold Batch.Reads
  rw [workOne_patterns, workOne_visible]
  cases hopens : opens results reviews row with
  | true =>
    rw [if_pos rfl]
    split
    · exact List.prefix_append _ _
    · exact List.prefix_rfl
  | false =>
    rw [if_neg Bool.false_ne_true]
    split
    · exact h.trans (List.prefix_append _ _)
    · exact h

theorem workOne_size (h : batch.Reads) (pair : String × String) :
    sampleSize (workOne rt results (verdict results reviews row) row batch).store.emailPatterns
        pair =
      sampleSize batch.store.emailPatterns pair +
        if verifies results pair row then 1 else 0 := by
  cases hverdict : verdict results reviews row with
  | verified =>
    have hverifies : verifies results pair row = true ↔ row.2.pair = pair := by
      rw [verifies_iff]
      simp [verdict_verified.mp hverdict]
    simp only [workOne, applyVerified_eq, hverifies]
    exact learn_size h pair
  | marked =>
    have hother : verifies results pair row = false := by
      rw [Bool.eq_false_iff]
      intro hverifies
      rw [verdict_verified.mpr (verifies_iff.mp hverifies).1] at hverdict
      cases hverdict
    rw [hother]
    rfl
  | reviewed =>
    have hopens : opens results reviews row = true := by
      rw [opens, hverdict]
      rfl
    rw [not_verifies_of_opens hopens]
    rfl

end Steps

section Runs

variable {rt : Runtime} {results : VerificationResults} {reviews : Table ReviewCandidate}
  {rows : List (Id × EmailCandidateRecord)} {batch : Batch}

/-- How often the batch adds a pattern: never when it is visible, and otherwise
once for each record that teaches it before the next flush. -/
def added (results : VerificationResults) (reviews : Table ReviewCandidate)
    (rows : List (Id × EmailCandidateRecord)) (batch : Batch) (pair : String × String) : Nat :=
  if pair ∈ pairs batch.visible then 0
  else if pair ∈ pairs batch.store.emailPatterns then
    (rows.takeWhile fun row => !opens results reviews row).countP (verifies results pair)
  else (stretch results reviews pair rows).countP (verifies results pair)

/-- One record of the count. -/
theorem added_cons (rt : Runtime) (h : batch.Reads) {row : Id × EmailCandidateRecord}
    {rest : List (Id × EmailCandidateRecord)} {pair : String × String} :
    added results reviews (row :: rest) batch pair =
      (if verifies results pair row ∧ pair ∉ pairs batch.visible then 1 else 0) +
        added results reviews rest
          (workOne rt results (verdict results reviews row) row batch) pair := by
  unfold added
  rw [workOne_patterns, workOne_visible]
  by_cases hvisible : pair ∈ pairs batch.visible
  · have hstored : pair ∈ pairs batch.store.emailPatterns := h.subset hvisible
    cases opens results reviews row <;> simp [hvisible, hstored]
  · cases hopens : opens results reviews row with
    | true =>
      have hother : verifies results pair row = false := not_verifies_of_opens hopens
      have hreviewed : verdict results reviews row ≠ .verified := by
        intro hverdict
        rw [opens, hverdict] at hopens
        cases hopens
      have hunlearned : (finding results row).1 ≠ .verified := verdict_other hreviewed
      by_cases hstored : pair ∈ pairs batch.store.emailPatterns
      · simp [hvisible, hstored, hother, hopens]
      · simp [hvisible, hstored, hother, hunlearned, stretch]
    | false =>
      cases hverifies : verifies results pair row with
      | true =>
        obtain ⟨hverified, hpair⟩ := verifies_iff.mp hverifies
        by_cases hstored : pair ∈ pairs batch.store.emailPatterns
        · simp [hvisible, hstored, hopens, hverifies, hverified, hpair, Nat.add_comm]
        · simp [hvisible, hstored, hopens, hverifies, hverified, hpair, stretch, Nat.add_comm]
      | false =>
        have hkept : pair ∈ (if (finding results row).1 = .verified ∧
              row.2.pair ∉ pairs batch.visible then
            pairs batch.store.emailPatterns ++ [row.2.pair] else pairs batch.store.emailPatterns) ↔
            pair ∈ pairs batch.store.emailPatterns := by
          split
          · next hlearned =>
            have hne : pair ≠ row.2.pair := by
              rintro rfl
              rw [verifies_iff.mpr ⟨hlearned.1, rfl⟩] at hverifies
              cases hverifies
            simp [hne]
          · rfl
        by_cases hstored : pair ∈ pairs batch.store.emailPatterns
        · simp [hvisible, hstored, hopens, hverifies, hkept]
        · simp [hvisible, hstored, hverifies, hkept, stretch]

theorem workOff_count (rt : Runtime) (h : batch.Reads) (pair : String × String) :
    (pairs (workOff rt results reviews rows batch).store.emailPatterns).count pair =
      (pairs batch.store.emailPatterns).count pair +
        added results reviews rows batch pair := by
  induction rows generalizing batch with
  | nil => simp [workOff, added, stretch]
  | cons row rest ih =>
    have hstep : (pairs (workOne rt results (verdict results reviews row) row
          batch).store.emailPatterns).count pair =
        (pairs batch.store.emailPatterns).count pair +
          if verifies results pair row ∧ pair ∉ pairs batch.visible then 1 else 0 := by
      rw [workOne_patterns]
      simp only [verifies_iff]
      by_cases hpair : row.2.pair = pair
      · subst hpair
        simp only [and_true]
        split <;> simp
      · simp only [hpair, and_false, false_and, if_false, Nat.add_zero]
        split <;> simp [hpair]
    have hrest := ih (workOne_reads rt results reviews row h)
    rw [added_cons rt h]
    rw [workOff_cons, hrest, hstep]
    omega

theorem workOff_size (h : batch.Reads) (pair : String × String) :
    sampleSize (workOff rt results reviews rows batch).store.emailPatterns pair =
      sampleSize batch.store.emailPatterns pair + rows.countP (verifies results pair) := by
  induction rows generalizing batch with
  | nil => rfl
  | cons row rest ih =>
    have hrest := ih (workOne_reads rt results reviews row h)
    rw [workOff_cons, hrest, workOne_size h, List.countP_cons]
    omega

/-- The patterns that are known in the end. -/
theorem workOff_known (rt : Runtime) (h : batch.Reads) (pair : String × String) :
    pair ∈ pairs (workOff rt results reviews rows batch).store.emailPatterns ↔
      pair ∈ pairs batch.store.emailPatterns ∨ 0 < rows.countP (verifies results pair) := by
  induction rows generalizing batch with
  | nil => simp [workOff]
  | cons row rest ih =>
    have hrest := ih (workOne_reads rt results reviews row h)
    have hstep : pair ∈ pairs (workOne rt results (verdict results reviews row) row
          batch).store.emailPatterns ↔
        pair ∈ pairs batch.store.emailPatterns ∨ verifies results pair row = true := by
      rw [workOne_patterns, verifies_iff]
      split
      · next hlearned =>
        rw [List.mem_append, List.mem_singleton]
        simp [hlearned.1, eq_comm]
      · next hlearned =>
        constructor
        · exact Or.inl
        · rintro (hold | ⟨hverified, rfl⟩)
          · exact hold
          · by_contra hmissing
            exact hlearned ⟨hverified, fun hvisible => hmissing (h.subset hvisible)⟩
    rw [workOff_cons, hrest, hstep, List.countP_cons, or_assoc]
    cases verifies results pair row <;> simp

/-- The keys of the outbox in the end. -/
theorem workOff_events :
    (workOff rt results reviews rows batch).store.outbox.map (·.idempotencyKey) =
      batch.store.outbox.map (·.idempotencyKey) ++
        batchKeys results reviews rows batch.store.reviewCandidates.length := by
  induction rows generalizing batch with
  | nil => simp [workOff, batchKeys]
  | cons row rest ih =>
    rw [workOff_cons, ih, batchKeys]
    cases verdict results reviews row with
    | verified => simp [workOne, applyVerified_eq]
    | marked => rfl
    | reviewed => simp [workOne, insertReview, enqueueEvent, applyUnverified]

/-- The keys of the reviews in the end. -/
theorem workOff_reviews :
    (workOff rt results reviews rows batch).store.reviewCandidates =
      batch.store.reviewCandidates ++
        (rows.filter (opens results reviews)).map (verificationReview results) := by
  induction rows generalizing batch with
  | nil => simp [workOff]
  | cons row rest ih =>
    rw [workOff_cons, ih, List.filter_cons]
    unfold opens
    cases verdict results reviews row with
    | verified => simp [workOne, applyVerified_eq]
    | marked => rfl
    | reviewed => simp [workOne, insertReview, enqueueEvent, applyUnverified]

/-- The accounts and addresses after a record. -/
theorem workOne_book {row : Id × EmailCandidateRecord} :
    addressBook (workOne rt results (verdict results reviews row) row batch).store.contacts =
      readdressBook results reviews row (addressBook batch.store.contacts) := by
  unfold readdressBook
  cases hverdict : verdict results reviews row with
  | verified =>
    simp only [workOne, applyVerified_eq, readdress]
    cases hcontact : row.2.contactId with
    | none => rfl
    | some c =>
      refine map_modify (fun entry => (entry.1, some row.2.email)) ?_
      intro contact
      rfl
  | marked => rfl
  | reviewed => rfl

end Runs

section Constraints

omit [Casing]

theorem uniqueOn_map {ρ κ : Type} [DecidableEq κ] {rows : Table ρ} {key : ρ → κ} :
    rows.uniqueOn (fun row => some (key row)) = true ↔ (rows.map key).Nodup := by
  have hmap : rows.filterMap (fun row => some (key row)) = rows.map key :=
    congrFun (List.filterMap_eq_map (f := key)) rows
  rw [Table.uniqueOn_iff, hmap]

theorem all_fits {patterns : Table OrganizationEmailPattern} :
    patterns.all OrganizationEmailPattern.fits = true ↔
      ∀ pair ∈ pairs patterns, pairFits pair = true := by
  rw [List.all_eq_true]
  constructor
  · rintro hall pair hpair
    obtain ⟨row, hrow, rfl⟩ := List.mem_map.mp hpair
    exact hall row hrow
  · intro hall row hrow
    exact hall row.pair (List.mem_map_of_mem hrow)

/-- What the constraints demand of the tables that a batch lengthens. -/
structure Lengthened (s : Store) : Prop where
  patterns : (pairs s.emailPatterns).Nodup
  widths : ∀ pair ∈ pairs s.emailPatterns, pairFits pair = true
  reviews : (s.reviewCandidates.map (·.idempotencyKey)).Nodup
  outbox : (s.outbox.map (·.idempotencyKey)).Nodup

theorem lengthened_iff {s : Store} :
    Lengthened s ↔ s.emailPatterns.uniqueOn (fun row => some (row.domain, row.pattern)) = true ∧
      s.emailPatterns.all OrganizationEmailPattern.fits = true ∧
      s.reviewCandidates.uniqueOn (fun row => some row.idempotencyKey) = true ∧
      s.outbox.uniqueOn (fun row => some row.idempotencyKey) = true := by
  rw [uniqueOn_map, all_fits, uniqueOn_map, uniqueOn_map]
  constructor
  · rintro ⟨hpatterns, hwidths, hreviews, houtbox⟩
    exact ⟨hpatterns, hwidths, hreviews, houtbox⟩
  · rintro ⟨hpatterns, hwidths, hreviews, houtbox⟩
    exact ⟨hpatterns, hwidths, hreviews, houtbox⟩

theorem bookOk_addressBook {contacts : Table Contact} :
    bookOk (addressBook contacts) = contacts.uniqueOn fun row =>
      row.accountId.bind fun a => row.email.map fun e => (a, e) := by
  unfold bookOk addressBook Table.uniqueOn
  rw [List.filterMap_map]
  rfl

/-- The constraints on the other tables, and on the contacts but for their
addresses. -/
def Store.othersOk (s : Store) : Bool :=
  Store.constraintsOk
    { s with
      contacts := s.contacts.map fun row => { row with email := none }
      emailPatterns := []
      reviewCandidates := []
      outbox := [] }

/-- The constraints by what a batch may break. -/
theorem constraintsOk_iff_parts {s : Store} :
    s.constraintsOk = true ↔
      s.othersOk = true ∧ Lengthened s ∧ bookOk (addressBook s.contacts) = true := by
  have hempty : ∀ {ρ κ : Type} [DecidableEq κ] (key : ρ → Option κ),
      Table.uniqueOn ([] : Table ρ) key = true := fun _ => by simp [Table.uniqueOn]
  have hblank : Table.uniqueOn (s.contacts.map fun row => { row with email := none })
      (fun row => row.accountId.bind fun a => row.email.map fun e => (a, e)) = true := by
    rw [Table.uniqueOn_iff, List.filterMap_map]
    simp
  have hkeys : Table.uniqueOn (s.contacts.map fun row => { row with email := none })
      (·.idempotencyKey) = s.contacts.uniqueOn (·.idempotencyKey) := by
    unfold Table.uniqueOn
    rw [List.filterMap_map]
    rfl
  have hcrm : Table.uniqueOn (s.contacts.map fun row => { row with email := none })
      (·.crmContactId) = s.contacts.uniqueOn (·.crmContactId) := by
    unfold Table.uniqueOn
    rw [List.filterMap_map]
    rfl
  rw [bookOk_addressBook, lengthened_iff]
  simp only [Store.othersOk, Store.constraintsOk, Store.keysOk, Store.widthsOk, hempty, hblank,
    hkeys, hcrm, List.all_nil, Bool.and_eq_true]
  grind

/-- What the batch leaves of a store: the five tables it works on, with their
old keys first. -/
structure BatchKept (s s' : Store) : Prop where
  rest : s' = { s with
    emailCandidates := s'.emailCandidates
    contacts := s'.contacts
    emailPatterns := s'.emailPatterns
    reviewCandidates := s'.reviewCandidates
    outbox := s'.outbox }
  candidates : s'.emailCandidates.map (·.idempotencyKey) =
    s.emailCandidates.map (·.idempotencyKey)
  contacts : s'.contacts.map (fun row => (row.idempotencyKey, row.crmContactId)) =
    s.contacts.map fun row => (row.idempotencyKey, row.crmContactId)
  patterns : pairs s.emailPatterns <+: pairs s'.emailPatterns
  reviews : s.reviewCandidates <+: s'.reviewCandidates
  outbox : s.outbox <+: s'.outbox

theorem BatchKept.refl (s : Store) : BatchKept s s :=
  ⟨rfl, rfl, rfl, List.prefix_rfl, List.prefix_rfl, List.prefix_rfl⟩

theorem BatchKept.trans {s t u : Store} (hst : BatchKept s t) (htu : BatchKept t u) :
    BatchKept s u where
  rest := by
    rw [htu.rest, hst.rest]
  candidates := htu.candidates.trans hst.candidates
  contacts := htu.contacts.trans hst.contacts
  patterns := hst.patterns.trans htu.patterns
  reviews := hst.reviews.trans htu.reviews
  outbox := hst.outbox.trans htu.outbox

/-- A batch breaks no constraint on the other tables. -/
theorem BatchKept.othersOk {s s' : Store} (h : BatchKept s s') : s'.othersOk = s.othersOk := by
  have hcandidates : s'.emailCandidates.uniqueOn (fun row => some row.idempotencyKey) =
      s.emailCandidates.uniqueOn (fun row => some row.idempotencyKey) := by
    rw [Bool.eq_iff_iff, uniqueOn_map, uniqueOn_map, h.candidates]
  have hcolumn : ∀ {κ : Type} [DecidableEq κ] (key : Option String × Option String → Option κ),
      Table.uniqueOn (s'.contacts.map fun row => { row with email := none })
          (fun row => key (row.idempotencyKey, row.crmContactId)) =
        Table.uniqueOn (s.contacts.map fun row => { row with email := none })
          (fun row => key (row.idempotencyKey, row.crmContactId)) := by
    intro κ _ key
    have hrows := congrArg (List.filterMap key) h.contacts
    rw [List.filterMap_map, List.filterMap_map] at hrows
    unfold Table.uniqueOn
    rw [List.filterMap_map, List.filterMap_map]
    exact congrArg (fun keys => decide keys.Nodup) hrows
  have hkeys := hcolumn Prod.fst
  have hcrm := hcolumn Prod.snd
  have hblank : ∀ contacts : Table Contact,
      Table.uniqueOn (contacts.map fun row => { row with email := none })
        (fun row => row.accountId.bind fun a => row.email.map fun e => (a, e)) = true := by
    intro contacts
    rw [Table.uniqueOn_iff, List.filterMap_map]
    simp
  rw [h.rest]
  simp only [Store.othersOk, Store.constraintsOk, Store.keysOk, Store.widthsOk, hcandidates,
    hkeys, hcrm, hblank]

/-- What the constraints demand of the longer tables, they demand of the shorter. -/
theorem BatchKept.lengthened {s s' : Store} (h : BatchKept s s') (hlong : Lengthened s') :
    Lengthened s where
  patterns := hlong.patterns.sublist h.patterns.sublist
  widths := fun pair hpair => hlong.widths pair (h.patterns.subset hpair)
  reviews := hlong.reviews.sublist (h.reviews.map _).sublist
  outbox := hlong.outbox.sublist (h.outbox.map _).sublist

end Constraints

section Acceptance

variable {rt : Runtime} {results : VerificationResults} {reviews : Table ReviewCandidate}
  {rows : List (Id × EmailCandidateRecord)} {batch : Batch}

theorem workOne_kept (rt : Runtime) (results : VerificationResults)
    (reviews : Table ReviewCandidate) (row : Id × EmailCandidateRecord) (batch : Batch) :
    BatchKept batch.store
      (workOne rt results (verdict results reviews row) row batch).store := by
  have hpatterns : pairs batch.store.emailPatterns <+: pairs
      (workOne rt results (verdict results reviews row) row batch).store.emailPatterns := by
    rw [workOne_patterns]
    split
    · exact List.prefix_append _ _
    · exact List.prefix_rfl
  cases hverdict : verdict results reviews row with
  | verified =>
    rw [hverdict] at hpatterns
    simp only [workOne, applyVerified_eq] at hpatterns ⊢
    refine ⟨rfl, map_modify_same fun _ => rfl, ?_, hpatterns, List.prefix_rfl,
      List.prefix_append _ _⟩
    unfold readdress
    split
    · exact map_modify_same fun _ => rfl
    · rfl
  | marked =>
    exact ⟨rfl, map_modify_same fun _ => rfl, rfl, List.prefix_rfl, List.prefix_rfl,
      List.prefix_rfl⟩
  | reviewed =>
    exact ⟨rfl, map_modify_same fun _ => rfl, rfl, List.prefix_rfl, List.prefix_append _ _,
      List.prefix_append _ _⟩

theorem workOff_kept (rt : Runtime) (results : VerificationResults)
    (reviews : Table ReviewCandidate) (rows : List (Id × EmailCandidateRecord)) {batch : Batch}
    (h : batch.Reads) :
    BatchKept batch.store (workOff rt results reviews rows batch).store := by
  induction rows generalizing batch with
  | nil => exact BatchKept.refl _
  | cons row rest ih =>
    exact (workOne_kept rt results reviews row batch).trans
      (ih (workOne_reads rt results reviews row h))

/-- The database accepts every flush and the commit when it accepts the tables
that the batch leaves, and the addresses never meet. -/
theorem flushesPass_iff (rt : Runtime) (results : VerificationResults)
    (reviews : Table ReviewCandidate) (rows : List (Id × EmailCandidateRecord)) {batch : Batch}
    (h : batch.Reads) (hothers : batch.store.othersOk = true) :
    FlushesPass rt results reviews rows batch ∧
        (workOff rt results reviews rows batch).store.constraintsOk = true ↔
      Lengthened (workOff rt results reviews rows batch).store ∧
        AddressesApart results reviews rows (addressBook batch.store.contacts) := by
  induction rows generalizing batch with
  | nil =>
    unfold FlushesPass AddressesApart workOff
    rw [true_and, List.foldl_nil, constraintsOk_iff_parts, hothers]
    simp
  | cons row rest ih =>
    have hkept := workOne_kept rt results reviews row batch
    have hreads := workOne_reads rt results reviews row h
    have hothers' := hkept.othersOk.trans hothers
    have hrest := ih hreads hothers'
    have hlong := (workOff_kept rt results reviews rest hreads).lengthened
    rw [workOne_book] at hrest
    have hflush : Lengthened (workOff rt results reviews rest
        (workOne rt results (verdict results reviews row) row batch)).store →
        ((verdict results reviews row = .reviewed →
            (workOne rt results (verdict results reviews row) row batch).store.constraintsOk =
              true) ↔
          (verdict results reviews row = .reviewed →
            bookOk (addressBook batch.store.contacts) = true)) := by
      intro hfinal
      rw [constraintsOk_iff_parts, hothers', workOne_book]
      have hnow := hlong hfinal
      constructor
      · intro himp hreviewed
        have hbook := (himp hreviewed).2.2
        rwa [readdressBook, hreviewed] at hbook
      · intro himp hreviewed
        refine ⟨rfl, hnow, ?_⟩
        rw [readdressBook, hreviewed]
        exact himp hreviewed
    show ((_ → _) ∧ FlushesPass rt results reviews rest _) ∧
        (workOff rt results reviews rest _).store.constraintsOk = true ↔
      Lengthened (workOff rt results reviews rest _).store ∧ (_ → _) ∧ AddressesApart _ _ _ _
    constructor
    · rintro ⟨⟨hnow, hlater⟩, hend⟩
      obtain ⟨hfinal, hbooks⟩ := hrest.mp ⟨hlater, hend⟩
      exact ⟨hfinal, (hflush hfinal).mp hnow, hbooks⟩
    · rintro ⟨hfinal, hnow, hbooks⟩
      obtain ⟨hlater, hend⟩ := hrest.mpr ⟨hfinal, hbooks⟩
      exact ⟨⟨(hflush hfinal).mpr hnow, hlater⟩, hend⟩

/-- The keys of a batch are different keys. -/
theorem batchKeys_nodup (hids : (rows.map Prod.fst).Nodup) (opened : Nat) :
    (batchKeys results reviews rows opened).Nodup := by
  have hkeys : ∀ (rows : List (Id × EmailCandidateRecord)) (opened : Nat) (key : OutboxKey),
      key ∈ batchKeys results reviews rows opened →
        (∃ row ∈ rows, key = .counted .emailVerified row.1 (row.2.version + 1)) ∨
          ∃ n, opened ≤ n ∧ key = .once .approvalRequested n := by
    intro rows
    induction rows with
    | nil =>
      intro opened key hkey
      cases hkey
    | cons row rest ih =>
      intro opened key hkey
      have hlift : ∀ opened', opened ≤ opened' → key ∈ batchKeys results reviews rest opened' →
          (∃ other ∈ row :: rest,
              key = .counted .emailVerified other.1 (other.2.version + 1)) ∨
            ∃ n, opened ≤ n ∧ key = .once .approvalRequested n := by
        intro opened' hle hmem
        rcases ih opened' key hmem with ⟨other, hother, heq⟩ | ⟨n, hn, heq⟩
        · exact Or.inl ⟨other, List.mem_cons_of_mem _ hother, heq⟩
        · exact Or.inr ⟨n, le_trans hle hn, heq⟩
      rw [batchKeys] at hkey
      cases hverdict : verdict results reviews row with
      | verified =>
        rw [hverdict] at hkey
        rcases List.mem_cons.mp hkey with hnow | hlater
        · exact Or.inl ⟨row, List.mem_cons_self, hnow⟩
        · exact hlift opened le_rfl hlater
      | marked =>
        rw [hverdict] at hkey
        exact hlift opened le_rfl hkey
      | reviewed =>
        rw [hverdict] at hkey
        rcases List.mem_cons.mp hkey with hnow | hlater
        · exact Or.inr ⟨opened, le_rfl, hnow⟩
        · exact hlift (opened + 1) (Nat.le_succ opened) hlater
  induction rows generalizing opened with
  | nil => exact List.nodup_nil
  | cons row rest ih =>
    obtain ⟨hrow, hrest⟩ := List.nodup_cons.mp hids
    rw [batchKeys]
    cases verdict results reviews row with
    | verified =>
      refine List.nodup_cons.mpr ⟨?_, ih hrest opened⟩
      intro hkey
      rcases hkeys rest opened _ hkey with ⟨other, hother, heq⟩ | ⟨n, -, heq⟩
      · injection heq with _ hid _
        exact hrow (List.mem_map.mpr ⟨other, hother, hid.symm⟩)
      · cases heq
    | marked => exact ih hrest opened
    | reviewed =>
      refine List.nodup_cons.mpr ⟨?_, ih hrest (opened + 1)⟩
      intro hkey
      rcases hkeys rest (opened + 1) _ hkey with ⟨other, -, heq⟩ | ⟨n, hn, heq⟩
      · cases heq
      · cases heq
        exact absurd hn (Nat.not_succ_le_self opened)

/-- The reviews that a batch opens are different from each other and from those
that are there. -/
theorem reviews_nodup {s : Store} (hids : (rows.map Prod.fst).Nodup)
    (hold : (s.reviewCandidates.map (·.idempotencyKey)).Nodup) :
    ((s.reviewCandidates ++ (rows.filter (opens results s.reviewCandidates)).map
      (verificationReview results)).map (·.idempotencyKey)).Nodup := by
  rw [List.map_append, List.map_map, List.nodup_append]
  refine ⟨hold, ?_, ?_⟩
  · have hsub := (List.filter_sublist (p := opens results s.reviewCandidates) (l := rows)).map
      Prod.fst
    have hdistinct := hids.sublist hsub
    rw [List.Nodup, List.pairwise_map] at hdistinct ⊢
    refine hdistinct.imp ?_
    intro a b hne hsame
    exact hne (congrArg (fun key : String × Id × String => key.2.1) hsame)
  · rintro key hkey _ hnew rfl
    obtain ⟨old, hmem, rfl⟩ := List.mem_map.mp hkey
    obtain ⟨row, hrow, hsame⟩ := List.mem_map.mp hnew
    have hopens := (List.mem_filter.mp hrow).2
    have hopen : isOpen s.reviewCandidates (verificationReview results row) = true := by
      unfold isOpen
      rw [List.any_eq_true]
      exact ⟨old, hmem, beq_iff_eq.mpr hsame.symm⟩
    unfold opens verdict at hopens
    rw [hopen] at hopens
    split at hopens <;> cases hopens

/-- The tables that a batch lengthens are accepted when it teaches a new pattern
once, and its patterns and keys can be stored. -/
theorem lengthened_workOff_iff {s : Store} (hids : (rows.map Prod.fst).Nodup)
    (hs : Lengthened s) :
    Lengthened (workOff rt results s.reviewCandidates rows ⟨s, s.emailPatterns⟩).store ↔
      (∀ row ∈ rows, (finding results row).1 = .verified →
        row.2.pair ∉ pairs s.emailPatterns →
          (stretch results s.reviewCandidates row.2.pair rows).countP
            (verifies results row.2.pair) ≤ 1) ∧
      (∀ row ∈ rows, (finding results row).1 = .verified → pairFits row.2.pair = true) ∧
      ∀ old ∈ s.outbox, old.idempotencyKey ∉
        batchKeys results s.reviewCandidates rows s.reviewCandidates.length := by
  have hreads : Batch.Reads ⟨s, s.emailPatterns⟩ := List.prefix_rfl
  let start : Batch := ⟨s, s.emailPatterns⟩
  let left := (workOff rt results s.reviewCandidates rows start).store
  have hcount : ∀ pair, (pairs left.emailPatterns).count pair =
      (pairs s.emailPatterns).count pair + added results s.reviewCandidates rows start pair :=
    workOff_count rt hreads
  have hknown : ∀ pair, pair ∈ pairs left.emailPatterns ↔
      pair ∈ pairs s.emailPatterns ∨ 0 < rows.countP (verifies results pair) :=
    workOff_known rt hreads
  have hevents : left.outbox.map (·.idempotencyKey) = s.outbox.map (·.idempotencyKey) ++
      batchKeys results s.reviewCandidates rows s.reviewCandidates.length := workOff_events
  have hreviews : left.reviewCandidates = s.reviewCandidates ++
      (rows.filter (opens results s.reviewCandidates)).map (verificationReview results) :=
    workOff_reviews
  have hadded : ∀ pair, pair ∉ pairs s.emailPatterns →
      added results s.reviewCandidates rows ⟨s, s.emailPatterns⟩ pair =
        (stretch results s.reviewCandidates pair rows).countP (verifies results pair) := by
    intro pair hnew
    unfold added
    rw [if_neg hnew, if_neg hnew]
  constructor
  · rintro ⟨hpatterns, hwidths, -, houtbox⟩
    refine ⟨?_, ?_, ?_⟩
    · intro row hrow hverified hnew
      have honce := List.nodup_iff_count_le_one.mp hpatterns row.2.pair
      rw [hcount, hadded _ hnew] at honce
      omega
    · intro row hrow hverified
      refine hwidths _ ((hknown _).mpr (Or.inr ?_))
      exact List.countP_pos_iff.mpr ⟨row, hrow, verifies_iff.mpr ⟨hverified, rfl⟩⟩
    · intro old hold hkey
      rw [hevents] at houtbox
      exact (List.nodup_append.mp houtbox).2.2 _ (List.mem_map_of_mem hold) _ hkey rfl
  · rintro ⟨hapart, hwidths, hfree⟩
    refine ⟨?_, ?_, ?_, ?_⟩
    · rw [List.nodup_iff_count_le_one]
      intro pair
      rw [hcount]
      have hold := List.nodup_iff_count_le_one.mp hs.patterns pair
      by_cases hpair : pair ∈ pairs s.emailPatterns
      · have hnone : added results s.reviewCandidates rows ⟨s, s.emailPatterns⟩ pair = 0 :=
          if_pos hpair
        rw [hnone]
        exact hold
      · rw [hadded pair hpair, List.count_eq_zero.mpr hpair, Nat.zero_add]
        by_cases htaught : ∃ row ∈ rows, verifies results pair row = true
        · obtain ⟨row, hrow, hverifies⟩ := htaught
          obtain ⟨hverified, rfl⟩ := verifies_iff.mp hverifies
          exact hapart row hrow hverified hpair
        · have hnone : (stretch results s.reviewCandidates pair rows).countP
              (verifies results pair) = 0 := by
            rw [List.countP_eq_zero]
            intro row hrow hverifies
            have hmem := (List.dropWhile_sublist _).subset
              ((List.takeWhile_sublist _).subset hrow)
            exact htaught ⟨row, hmem, hverifies⟩
          rw [hnone]
          exact Nat.zero_le 1
    · intro pair hpair
      rcases (hknown pair).mp hpair with hold | htaught
      · exact hs.widths pair hold
      · obtain ⟨row, hrow, hverifies⟩ := List.countP_pos_iff.mp htaught
        obtain ⟨hverified, rfl⟩ := verifies_iff.mp hverifies
        exact hwidths row hrow hverified
    · rw [hreviews]
      exact reviews_nodup hids hs.reviews
    · rw [hevents, List.nodup_append]
      refine ⟨hs.outbox, batchKeys_nodup hids _, ?_⟩
      rintro key hkey _ hnew rfl
      obtain ⟨old, hold, rfl⟩ := List.mem_map.mp hkey
      exact hfree old hold hnew

end Acceptance

omit [Casing] in
/-- The selected rows, in whatever order, are different rows. -/
theorem selectedRecords_nodup {ids : List Id} {s : Store}
    {rows : List (Id × EmailCandidateRecord)} (h : rows.Perm (selectedRecords ids s)) :
    (rows.map Prod.fst).Nodup := by
  refine (h.map Prod.fst).nodup_iff.mpr ?_
  have hordered : ((s.emailCandidates.zipIdx.filter fun row => row.2 ∈ ids)).Pairwise
      fun a b => a.2 < b.2 := by
    have hall : s.emailCandidates.zipIdx.Pairwise fun a b => a.2 < b.2 := by
      rw [← List.pairwise_map (f := Prod.snd) (R := fun a b : Nat => a < b),
        List.zipIdx_map_snd]
      exact List.pairwise_lt_range'
    exact hall.filter _
  unfold selectedRecords
  rw [List.map_map, List.Nodup, List.pairwise_map]
  exact hordered.imp fun hlt => Nat.ne_of_lt hlt

/-- A batch of any stored records commits, with each pattern counted once for
each verified record, exactly when it teaches no new pattern twice before the
next review opens, its patterns and event keys can be stored, and no account
gets an address twice. -/
theorem patterns_counted_iff (rt : Runtime) (results : VerificationResults) {ids : List Id}
    {rows : List (Id × EmailCandidateRecord)} {w : DbWorld}
    (hvalid : w.store.constraintsOk = true) (hrows : rows.Perm (selectedRecords ids w.store)) :
    PatternsCounted rt results rows w ↔ BatchAccepted results rows w.store := by
  obtain ⟨hothers, hlong, -⟩ := constraintsOk_iff_parts.mp hvalid
  have hids := selectedRecords_nodup hrows
  have hreads : Batch.Reads ⟨w.store, w.store.emailPatterns⟩ := List.prefix_rfl
  have haccepted := flushesPass_iff rt results w.store.reviewCandidates rows hreads hothers
  rw [lengthened_workOff_iff hids hlong] at haccepted
  constructor
  · rintro ⟨w', hrun, -, -⟩
    obtain ⟨hflushes, hend, -⟩ := (verifyInOrder_run hids).mp hrun
    obtain ⟨⟨hapart, hwidths, hevents⟩, haddresses⟩ := haccepted.mp ⟨hflushes, hend⟩
    exact ⟨hapart, hwidths, hevents, haddresses⟩
  · rintro ⟨hapart, hwidths, hevents, haddresses⟩
    obtain ⟨hflushes, hend⟩ := haccepted.mpr ⟨⟨hapart, hwidths, hevents⟩, haddresses⟩
    refine ⟨_, (verifyInOrder_run hids).mpr ⟨hflushes, hend, rfl⟩, ?_, ?_⟩
    · exact (constraintsOk_iff_parts.mp hend).2.1.patterns
    · intro pair
      refine ⟨?_, workOff_size hreads pair⟩
      intro htaught
      exact (workOff_known rt hreads pair).mpr (Or.inr htaught)

end Verifying

/-- Three addresses of one domain, two of them built alike. -/
def acmeWorld : DbWorld :=
  { store :=
      { contacts := [{ fullName := "Ada Lovelace" }, { fullName := "Grace Hopper" }]
        emailCandidates :=
          [{ contactId := some 0, email := "ada@acme.io", pattern := "{first}"
             idempotencyKey := "k:0:ada@acme.io" },
           { contactId := some 0, email := "lovelace@acme.io", pattern := "{last}"
             idempotencyKey := "k:0:lovelace@acme.io" },
           { contactId := some 1, email := "grace@acme.io", pattern := "{first}"
             idempotencyKey := "k:1:grace@acme.io" }] }
    external := {} }

/-- The verifier accepts the first names and is not sure of the last name. -/
def acmeResults : VerificationResults :=
  { byId := [(0, { valid := some true }), (1, { catchAll := true }), (2, { valid := some true })] }

/-- With the doubtful address between the other two, its review flushes the
session and the second first name finds the pattern. -/
theorem review_between_counted :
    acmeWorld.store.constraintsOk = true ∧
      PatternsCounted { now := 0 } acmeResults (selectedRecords [0, 1, 2] acmeWorld.store)
        acmeWorld := by
  have hvalid : acmeWorld.store.constraintsOk = true := by decide +kernel
  have hrows := List.Perm.refl (selectedRecords [0, 1, 2] acmeWorld.store)
  refine ⟨hvalid, (patterns_counted_iff { now := 0 } acmeResults hvalid hrows).mpr ?_⟩
  refine ⟨?_, ?_, ?_, ?_⟩
  · decide +kernel
  · decide +kernel
  · decide +kernel
  · exact ⟨fun _ => rfl, fun _ => rfl, fun _ => rfl, rfl⟩

/-- Two first names of one new domain: the pattern is added twice and the commit
refused. -/
theorem same_pattern_refused :
    acmeWorld.store.constraintsOk = true ∧
      ¬ PatternsCounted { now := 0 } acmeResults (selectedRecords [0, 2] acmeWorld.store)
        acmeWorld := by
  refine ⟨by decide +kernel, ?_⟩
  rintro ⟨w', hrun, -⟩
  have hrefused : (Lib.returned (verifyInOrder { now := 0 } acmeResults
      (selectedRecords [0, 2] acmeWorld.store)) acmeWorld).isNone = true := by decide +kernel
  rw [Lib.returned, hrun] at hrefused
  cases hrefused

end GhostRecon
