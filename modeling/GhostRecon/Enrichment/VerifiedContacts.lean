import GhostRecon.Enrichment.Verification
import GhostRecon.Lib.Run

/-!
The verified flag of a contact against the records it was copied from. A
verification that succeeds copies the address and the flag to the contact; one
that finds the address bad only marks the record. The copy stays true as long
as no batch disowns an address that its contact carries as verified.
-/

namespace GhostRecon

open Lib (Id Table Admissible after run)
open Std.Do

set_option mvcgen.warning false

section Copies

/-- The contact carries the address as verified, which is what the sequencing
gate reads. -/
def carries (contacts : Table Contact) (c : Id) (email : String) : Bool :=
  (contacts[c]?).any fun contact =>
    contact.email == some email && contact.emailStatus == some "verified"

/-- A record of the contact with this address whose latest status is verified. -/
def Backs (candidates : Table EmailCandidateRecord) (c : Id) (email : String) : Prop :=
  ∃ (id : Id) (record : EmailCandidateRecord), candidates[id]? = some record ∧
    record.contactId = some c ∧ record.email = email ∧ record.verificationStatus = .verified

/-- A contact that is marked verified has its address from a verified record. -/
def Backed (contacts : Table Contact) (candidates : Table EmailCandidateRecord) (c : Id) :
    Prop :=
  ∀ contact : Contact, contacts[c]? = some contact →
    contact.emailStatus = some "verified" →
      ∃ email, contact.email = some email ∧ Backs candidates c email

theorem carries_eq_true {contacts : Table Contact} {c : Id} {email : String} :
    carries contacts c email = true ↔ ∃ contact : Contact, contacts[c]? = some contact ∧
      contact.email = some email ∧ contact.emailStatus = some "verified" := by
  simp [carries, Option.any_eq_true]

variable {contacts : Table Contact} {candidates : Table EmailCandidateRecord} {c : Id}

theorem Backs.addRecord {email : String} (h : Backs candidates c email)
    (record : EmailCandidateRecord) : Backs (candidates ++ [record]) c email := by
  obtain ⟨id, old, hrow, hold⟩ := h
  exact ⟨id, old, Table.get_of_prefix (List.prefix_append _ _) id old hrow, hold⟩

/-- A change of one record that keeps whose it is, and what backed an address
unless the record is the disowned one. -/
theorem Backs.modify {email : String} (h : Backs candidates c email) {id : Id}
    {f : EmailCandidateRecord → EmailCandidateRecord}
    (hf : ∀ row, (f row).contactId = row.contactId ∧ (f row).email = row.email)
    (hstatus : ∀ row, candidates[id]? = some row → row.contactId = some c →
      row.email = email → (f row).verificationStatus = .verified) :
    Backs (candidates.modify id f) c email := by
  obtain ⟨backing, record, hrow, hcontact, hemail, hverified⟩ := h
  by_cases hid : id = backing
  · subst hid
    refine ⟨id, f record, ?_, (hf record).1.trans hcontact, (hf record).2.trans hemail,
      hstatus record hrow hcontact hemail⟩
    rw [List.getElem?_modify_eq, hrow]
    rfl
  · refine ⟨backing, record, ?_, hcontact, hemail, hverified⟩
    rw [List.getElem?_modify_ne _ _ hid]
    exact hrow

end Copies

section Runs

variable [Casing]

/-- What a call finds out about each record it selects. -/
def findings (request : EmailVerifyBatchRequest)
    (verifier : List String → Except String VerificationResults) (s : Store) :
    List (EmailCandidateRecord × VerificationStatus) :=
  match verificationResults request verifier s with
  | .error _ => []
  | .ok results => (selectedRecords request.candidateIds s).map fun (id, record) =>
    (record, (classifyVerificationResult (results.lookup id record.email)).1)

inductive EmailOp where
  | persist (request : EmailCandidatePersistRequest) (key : String)
      (generate : String → String → List String → Table OrganizationEmailPattern →
        Except PyError (List (String × String)))
  | verify (rt : Runtime) (request : EmailVerifyBatchRequest)
      (verifier : List String → Except String VerificationResults)

/-- The world a call leaves behind. -/
def emailStep (w : DbWorld) : EmailOp → DbWorld
  | .persist request key generate => after (persistEmailCandidates request key generate) w
  | .verify rt request verifier => after (verifyEmailCandidates rt request verifier) w

/-- The call finds a record other than verified although its contact carries
the record's address as verified, from before or by the call itself. -/
def EmailOp.disowns (op : EmailOp) (w : DbWorld) : Bool :=
  match op with
  | .persist _ _ _ => false
  | .verify _ request verifier =>
    (findings request verifier w.store).any fun (record, status) =>
      status != .verified && record.contactId.any fun c =>
        carries w.store.contacts c record.email ||
          (newAddresses request verifier w.store).contains (c, record.email)

/-- The call commits a verified address of the contact. -/
def EmailOp.verifies (op : EmailOp) (w : DbWorld) (c : Id) : Prop :=
  match op with
  | .persist _ _ _ => False
  | .verify rt request verifier =>
    (Lib.returned (verifyEmailCandidates rt request verifier) w).isSome = true ∧
      c ∈ (newAddresses request verifier w.store).map Prod.fst

/-- The email of the contact was set by a verification of the run. -/
def SetByVerification (w : DbWorld) (ops : List EmailOp) (c : Id) : Prop :=
  Lib.Since (fun past op => op.verifies (run emailStep w past) c) (fun _ _ => True) ops

/-- An address that a committed call finds invalid, or whose check fails, is not
carried as verified by its contact afterwards. -/
def EmailOp.revokes (op : EmailOp) (w : DbWorld) : Prop :=
  match op with
  | .persist _ _ _ => True
  | .verify rt request verifier =>
    (Lib.returned (verifyEmailCandidates rt request verifier) w).isSome = true →
      ∀ record status, (record, status) ∈ findings request verifier w.store →
        status = .invalid ∨ status = .failed → ∀ c, record.contactId = some c →
          carries (emailStep w (.verify rt request verifier)).store.contacts c record.email =
            false

/-- What holds while the records of a batch are worked off. -/
structure Tally (start : Table Contact) (addresses : List (Id × String)) (tracked : Id → Prop)
    (results : VerificationResults) (records : List (Id × EmailCandidateRecord))
    (contacts : Table Contact) (candidates : Table EmailCandidateRecord) : Prop where
  /-- The records are still those that were read. -/
  rows : ∀ id record, (id, record) ∈ records → ∃ row : EmailCandidateRecord,
    candidates[id]? = some row ∧ row.contactId = record.contactId ∧ row.email = record.email
  carried : ∀ c email, carries contacts c email = true →
    carries start c email = true ∨ (c, email) ∈ addresses
  backed : ∀ c, tracked c → Backed contacts candidates c ∨
    c ∈ (verifiedAddresses results records).map Prod.fst

section Loop

variable {start : Table Contact} {addresses : List (Id × String)} {tracked : Id → Prop}
  {results : VerificationResults} {records : List (Id × EmailCandidateRecord)}
  {contacts : Table Contact} {candidates : Table EmailCandidateRecord}
  {id : Id} {record : EmailCandidateRecord}

/-- The records read are found where they were read, whatever is marked on
them. -/
theorem Tally.rowsModify
    (h : Tally start addresses tracked results ((id, record) :: records) contacts candidates)
    {f : EmailCandidateRecord → EmailCandidateRecord}
    (hf : ∀ row, (f row).contactId = row.contactId ∧ (f row).email = row.email) :
    ∀ i other, (i, other) ∈ records → ∃ row : EmailCandidateRecord,
      (candidates.modify id f)[i]? = some row ∧ row.contactId = other.contactId ∧
        row.email = other.email := by
  intro i other hmem
  obtain ⟨row, hrow, hcontact, hemail⟩ := h.rows i other (List.mem_cons_of_mem _ hmem)
  by_cases hi : id = i
  · subst hi
    refine ⟨f row, ?_, (hf row).1.trans hcontact, (hf row).2.trans hemail⟩
    rw [List.getElem?_modify_eq, hrow]
    rfl
  · refine ⟨row, ?_, hcontact, hemail⟩
    rw [List.getElem?_modify_ne _ _ hi]
    exact hrow

/-- A record found other than verified is marked, and its address is carried by
no contact that the mark would leave unbacked. -/
theorem Tally.unverified
    (h : Tally start addresses tracked results ((id, record) :: records) contacts candidates)
    (hfinding : (classifyVerificationResult (results.lookup id record.email)).1 ≠ .verified)
    (hfree : ∀ c, record.contactId = some c →
      carries start c record.email = false ∧ (c, record.email) ∉ addresses)
    {f : EmailCandidateRecord → EmailCandidateRecord}
    (hf : ∀ row, (f row).contactId = row.contactId ∧ (f row).email = row.email) :
    Tally start addresses tracked results records contacts (candidates.modify id f) := by
  refine ⟨h.rowsModify hf, h.carried, ?_⟩
  intro c hc
  rcases h.backed c hc with hbacked | hpending
  · left
    intro contact hcontact hverified
    obtain ⟨email, hemail, hbacks⟩ := hbacked contact hcontact hverified
    refine ⟨email, hemail, hbacks.modify hf ?_⟩
    intro row hrow hrowContact hrowEmail
    obtain ⟨read, hread, hreadContact, hreadEmail⟩ := h.rows id record List.mem_cons_self
    obtain rfl : read = row := Option.some.inj (hread.symm.trans hrow)
    have haddress : record.email = email := hreadEmail.symm.trans hrowEmail
    obtain ⟨hstart, hnew⟩ := hfree c (hreadContact.symm.trans hrowContact)
    have hcarried : carries contacts c email = true :=
      carries_eq_true.mpr ⟨contact, hcontact, hemail, hverified⟩
    rcases h.carried c email hcarried with hold | hmem
    · rw [← haddress, hstart] at hold
      cases hold
    · rw [← haddress] at hmem
      exact absurd hmem hnew
  · right
    simpa only [verifiedAddresses, List.filterMap_cons, hfinding, if_false] using hpending

/-- A verified record: its contact takes the address and is backed by it. -/
theorem Tally.verified
    (h : Tally start addresses tracked results ((id, record) :: records) contacts candidates)
    (hnew : ∀ c, record.contactId = some c → (c, record.email) ∈ addresses)
    {f : EmailCandidateRecord → EmailCandidateRecord}
    (hf : ∀ row, (f row).contactId = row.contactId ∧ (f row).email = row.email)
    (hverified : ∀ row, (f row).verificationStatus = .verified)
    {g : Contact → Contact} (htake : ∀ contact, (g contact).email = some record.email) :
    Tally start addresses tracked results records
      (match record.contactId with
        | some c => contacts.modify c g
        | none => contacts) (candidates.modify id f) := by
  have hkept : ∀ {c email}, Backs candidates c email → Backs (candidates.modify id f) c email :=
    fun hbacks => hbacks.modify hf fun row _ _ _ => hverified row
  have hself : ∀ c, record.contactId = some c →
      Backed (contacts.modify c g) (candidates.modify id f) c := by
    intro c howner contact hcontact _
    rw [List.getElem?_modify_eq] at hcontact
    obtain ⟨old, -, rfl⟩ := Option.map_eq_some_iff.mp hcontact
    obtain ⟨row, hrow, hrowContact, hrowEmail⟩ := h.rows id record List.mem_cons_self
    refine ⟨record.email, htake old, id, f row, ?_, ?_, (hf row).2.trans hrowEmail,
      hverified row⟩
    · rw [List.getElem?_modify_eq, hrow]
      rfl
    · rw [(hf row).1, hrowContact, howner]
  refine ⟨h.rowsModify hf, ?_, ?_⟩
  · intro c email hcarries
    cases howner : record.contactId with
    | none =>
      rw [howner] at hcarries
      exact h.carried c email hcarries
    | some owner =>
      rw [howner] at hcarries
      obtain ⟨contact, hcontact, hemail, hstatus⟩ := carries_eq_true.mp hcarries
      by_cases hc : owner = c
      · subst hc
        obtain ⟨old, -, rfl⟩ : ∃ old, contacts[owner]? = some old ∧ g old = contact := by
          rwa [List.getElem?_modify_eq, Option.map_eq_map, Option.map_eq_some_iff] at hcontact
        rw [htake old, Option.some.injEq] at hemail
        rw [← hemail]
        exact Or.inr (hnew owner howner)
      · rw [List.getElem?_modify_ne _ _ hc] at hcontact
        exact h.carried c email (carries_eq_true.mpr ⟨contact, hcontact, hemail, hstatus⟩)
  · intro c hc
    by_cases howner : record.contactId = some c
    · left
      rw [howner]
      exact hself c howner
    · have hother : (match record.contactId with
          | some owner => contacts.modify owner g
          | none => contacts)[c]? = contacts[c]? := by
        split
        · next owner hsome =>
          refine List.getElem?_modify_ne _ _ ?_
          rintro rfl
          exact howner hsome
        · rfl
      rcases h.backed c hc with hbacked | hpending
      · left
        intro contact hcontact hstatus
        rw [hother] at hcontact
        obtain ⟨email, hemail, hbacks⟩ := hbacked contact hcontact hstatus
        exact ⟨email, hemail, hkept hbacks⟩
      · right
        obtain ⟨⟨c, email⟩, hmem, rfl⟩ := List.mem_map.mp hpending
        obtain ⟨⟨i, other⟩, hrow, hsome⟩ := List.mem_filterMap.mp hmem
        rcases List.mem_cons.mp hrow with hhead | hrest
        · cases hhead
          obtain ⟨-, htaken⟩ := Option.ite_none_right_eq_some.mp hsome
          obtain ⟨owner, hcontact, heq⟩ := Option.map_eq_some_iff.mp htaken
          cases heq
          exact absurd hcontact howner
        · exact List.mem_map.mpr ⟨(c, email),
            List.mem_filterMap.mpr ⟨(i, other), hrest, hsome⟩, rfl⟩

/-- Once the batch is worked off, every tracked contact is backed. -/
theorem Tally.done (h : Tally start addresses tracked results [] contacts candidates) (c : Id)
    (hc : tracked c) : Backed contacts candidates c := by
  rcases h.backed c hc with hbacked | hpending
  · exact hbacked
  · simp [verifiedAddresses] at hpending

/-- A verified record tallies: the pattern is learned beside the contacts and
the records. -/
theorem Tally.applyVerified {s : Store}
    (h : Tally start addresses tracked results ((id, record) :: records) s.contacts
      s.emailCandidates)
    (hnew : ∀ c, record.contactId = some c → (c, record.email) ∈ addresses) (now : Time)
    (visible : Table OrganizationEmailPattern) :
    Tally start addresses tracked results records
      (applyVerified now visible id record s).contacts
      (applyVerified now visible id record s).emailCandidates := by
  have hpattern : ∀ (domain pattern : String) (t : Store),
      (upsertEmailPattern visible domain pattern now t).contacts = t.contacts ∧
        (upsertEmailPattern visible domain pattern now t).emailCandidates =
          t.emailCandidates := by
    intro domain pattern t
    unfold upsertEmailPattern
    split <;> exact ⟨rfl, rfl⟩
  have htally := h.verified (f := fun row =>
      { row with
        verificationStatus := .verified
        verificationCheckedAt := some now
        version := record.version + 1
        reviewStatus := "not_required"
        reviewReason := none })
    (g := fun contact =>
      { contact with
        email := some record.email
        emailStatus := some "verified"
        updatedAt := now })
    hnew (fun _ => ⟨rfl, rfl⟩) (fun _ => rfl) (fun _ => rfl)
  unfold GhostRecon.applyVerified
  simp only [enqueueEvent, (hpattern _ _ _).1, (hpattern _ _ _).2]
  cases howner : record.contactId with
  | none =>
    rw [howner] at htally
    exact htally
  | some c =>
    rw [howner] at htally
    exact htally

/-- The loop over the selected records leaves every tracked contact backed. -/
theorem verifyRecords_tallies (rt : Runtime) (visible : Table OrganizationEmailPattern)
    (hfree : ∀ id record, (id, record) ∈ records →
      (classifyVerificationResult (results.lookup id record.email)).1 ≠ .verified →
        ∀ c, record.contactId = some c →
          carries start c record.email = false ∧ (c, record.email) ∉ addresses)
    (hnew : ∀ address ∈ verifiedAddresses results records, address ∈ addresses) :
    ⦃fun v => ⌜Tally start addresses tracked results records v.store.contacts
        v.store.emailCandidates⌝⦄
      verifyRecords rt results records visible
      ⦃post⟨fun _ v => ⌜Tally start addresses tracked results [] v.store.contacts
        v.store.emailCandidates⌝, fun _ _ => ⌜True⌝⟩⦄ := by
  induction records generalizing visible with
  | nil => mvcgen [verifyRecords]
  | cons first rest ih =>
    obtain ⟨id, record⟩ := first
    replace ih := fun visible => ih visible
      (fun i other hmem => hfree i other (List.mem_cons_of_mem _ hmem))
      (by
        intro address hmem
        obtain ⟨row, hrow, hsome⟩ := List.mem_filterMap.mp hmem
        exact hnew address (List.mem_filterMap.mpr ⟨row, List.mem_cons_of_mem _ hrow, hsome⟩))
    have hmark : ∀ {v : DbWorld} {status : VerificationStatus} {reason : Option String},
        (status = .verified → False) →
        classifyVerificationResult (results.lookup id record.email) = (status, reason) →
        Tally start addresses tracked results ((id, record) :: rest) v.store.contacts
          v.store.emailCandidates →
        Tally start addresses tracked results rest v.store.contacts
          (applyUnverified rt.now id record status reason v.store).emailCandidates := by
      intro v status reason hstatus hclass htally
      have hfinding : (classifyVerificationResult (results.lookup id record.email)).1 ≠
          .verified := by
        rw [hclass]
        exact hstatus
      exact htally.unverified hfinding (hfree id record List.mem_cons_self hfinding)
        fun _ => ⟨rfl, rfl⟩
    mvcgen [verifyRecords, requestReview, flush, Lib.flush, ih]
    · next hclass v htally =>
      refine htally.applyVerified ?_ rt.now visible
      intro c hc
      apply hnew
      refine List.mem_filterMap.mpr ⟨(id, record), List.mem_cons_self, ?_⟩
      simp [hclass, hc]
    · next status _ hstatus hclass v htally _ => exact hmark hstatus hclass htally
    · next status _ hstatus hclass v htally _ _ _ => exact hmark hstatus hclass htally
    · next status _ hstatus hclass v htally _ _ _ => exact hmark hstatus hclass htally

end Loop

section Calls

variable {w : DbWorld}

/-- A batch that disowns nothing leaves every tracked contact backed, and its
contacts carry what they carried or what the batch gave them. -/
theorem verify_backs (tracked : Id → Prop) {rt : Runtime} {request : EmailVerifyBatchRequest}
    {verifier : List String → Except String VerificationResults}
    (hop : (EmailOp.verify rt request verifier).disowns w = false)
    (hreturned : (Lib.returned (verifyEmailCandidates rt request verifier) w).isSome = true)
    (htracked : ∀ c, tracked c → Backed w.store.contacts w.store.emailCandidates c ∨
      c ∈ (newAddresses request verifier w.store).map Prod.fst) :
    (∀ c, tracked c → Backed (emailStep w (.verify rt request verifier)).store.contacts
        (emailStep w (.verify rt request verifier)).store.emailCandidates c) ∧
      ∀ c email,
        carries (emailStep w (.verify rt request verifier)).store.contacts c email = true →
          carries w.store.contacts c email = true ∨
            (c, email) ∈ newAddresses request verifier w.store := by
  obtain ⟨⟨⟩, hok⟩ := Option.isSome_iff_exists.mp hreturned
  have hselected : ∀ results id record,
      verificationResults request verifier w.store = .ok results →
      (id, record) ∈ selectedRecords request.candidateIds w.store →
      (classifyVerificationResult (results.lookup id record.email)).1 ≠ .verified →
      ∀ c, record.contactId = some c → carries w.store.contacts c record.email = false ∧
        (c, record.email) ∉ newAddresses request verifier w.store := by
    intro results id record hresults hmem hfinding c hc
    have hclean := List.any_eq_false.mp hop (record, _)
      (by
        simp only [findings, hresults]
        exact List.mem_map.mpr ⟨(id, record), hmem, rfl⟩)
    simpa [hfinding, hc] using hclean
  have hstart : ∀ results, verificationResults request verifier w.store = .ok results →
      Tally w.store.contacts (newAddresses request verifier w.store) tracked results
        (selectedRecords request.candidateIds w.store) w.store.contacts
        w.store.emailCandidates := by
    intro results hresults
    refine ⟨?_, fun c email hcarries => Or.inl hcarries, ?_⟩
    · intro id record hmem
      obtain ⟨⟨row, i⟩, hrow, heq⟩ := List.mem_map.mp hmem
      cases heq
      exact ⟨row, List.mem_zipIdx_iff_getElem?.mp (List.mem_filter.mp hrow).1, rfl, rfl⟩
    · simpa only [newAddresses, hresults] using htracked
  let settled : DbWorld → Prop := fun v =>
    (∀ c, tracked c → Backed v.store.contacts v.store.emailCandidates c) ∧
      ∀ c email, carries v.store.contacts c email = true →
        carries w.store.contacts c email = true ∨
          (c, email) ∈ newAddresses request verifier w.store
  have hloop : ∀ results visible, verificationResults request verifier w.store = .ok results →
      ⦃fun v => ⌜v = w⌝⦄
        verifyRecords rt results (selectedRecords request.candidateIds w.store) visible
        ⦃post⟨fun _ v => ⌜settled v⌝, fun _ _ => ⌜True⌝⟩⦄ := by
    intro results visible hresults
    have hrecords := @verifyRecords_tallies _ w.store.contacts
      (newAddresses request verifier w.store) tracked results
      (selectedRecords request.candidateIds w.store) rt visible
      (fun id record hmem hfinding => hselected results id record hresults hmem hfinding)
      (by
        intro address hmem
        simpa only [newAddresses, hresults] using hmem)
    mvcgen [hrecords]
    · subst_vars
      exact hstart results hresults
    · next v =>
      intro htally
      exact ⟨htally.done, htally.carried⟩
  have hnone : request.candidateIds.isEmpty = true → settled w := by
    intro hempty
    refine ⟨?_, fun c email hcarries => Or.inl hcarries⟩
    intro c hc
    refine (htracked c hc).resolve_right ?_
    have hnothing : selectedRecords request.candidateIds w.store = [] := by
      simp [selectedRecords, List.isEmpty_iff.mp hempty]
    unfold newAddresses
    split
    · simp
    · simp [hnothing, verifiedAddresses]
  refine (Lib.sessionScope_returns (R := settled) (Lib.run_of_returned hok) ?_).1
  mvcgen [Lib.queryOrRaise]
  all_goals subst_vars
  · exact hnone ‹_›
  · next v results hresults =>
    have hanswers : verificationResults request verifier v.store = .ok results := by
      cases hasked : verificationResults request verifier v.store with
      | error message =>
        rw [hasked] at hresults
        cases hresults
      | ok answers =>
        rw [hasked] at hresults
        cases hresults
        rfl
    exact Triple.iff.mp (hloop results _ hanswers) v rfl

/-- Generated addresses are added beside the contacts and after the records. -/
theorem persist_grows (request : EmailCandidatePersistRequest) (key : String)
    (generate : String → String → List String → Table OrganizationEmailPattern →
      Except PyError (List (String × String))) :
    (emailStep w (.persist request key generate)).store.contacts = w.store.contacts ∧
      w.store.emailCandidates <+:
        (emailStep w (.persist request key generate)).store.emailCandidates := by
  have hall : ∀ (c : Id) (lineage : Lineage) (generated : List (String × String)),
      ⦃fun v => ⌜v.store.contacts = w.store.contacts ∧
          w.store.emailCandidates <+: v.store.emailCandidates⌝⦄
        persistAll key c lineage generated
        ⦃post⟨fun _ v => ⌜v.store.contacts = w.store.contacts ∧
          w.store.emailCandidates <+: v.store.emailCandidates⌝, fun _ _ => ⌜True⌝⟩⦄ := by
    intro c lineage generated
    induction generated with
    | nil => mvcgen [persistAll]
    | cons first rest ih =>
      obtain ⟨email, pattern⟩ := first
      mvcgen [persistAll, persistGenerated, flush, Lib.flush, ih]
      next v hgrown _ _ _ => exact ⟨hgrown.1, hgrown.2.trans (List.prefix_append _ _)⟩
  refine (Lib.sessionScope_keeps (I := fun s : Store => s.contacts = w.store.contacts ∧
    w.store.emailCandidates <+: s.emailCandidates) ⟨rfl, List.prefix_rfl⟩ ?_).1
  mvcgen [Lib.queryOrRaise, hall]
  all_goals subst_vars
  exact ⟨rfl, List.prefix_rfl⟩

/-- A call that disowns nothing keeps the tracked contacts backed, and backs
those whose address it sets. -/
theorem emailStep_backs (tracked : Id → Prop) {op : EmailOp} (hop : op.disowns w = false)
    (h : ∀ c, tracked c → Backed w.store.contacts w.store.emailCandidates c) (c : Id)
    (hc : tracked c ∨ op.verifies w c) :
    Backed (emailStep w op).store.contacts (emailStep w op).store.emailCandidates c := by
  cases op with
  | persist request key generate =>
    obtain ⟨hcontacts, hgrown⟩ := persist_grows (w := w) request key generate
    rcases hc with hc | hnever
    · intro contact hcontact hstatus
      rw [hcontacts] at hcontact
      obtain ⟨email, hemail, id, record, hrow, hrecord⟩ := h c hc contact hcontact hstatus
      exact ⟨email, hemail, id, record, Table.get_of_prefix hgrown id record hrow, hrecord⟩
    · exact hnever.elim
  | verify rt request verifier =>
    by_cases hreturned :
        (Lib.returned (verifyEmailCandidates rt request verifier) w).isSome = true
    · refine (verify_backs (fun c => tracked c ∨
        (EmailOp.verify rt request verifier).verifies w c) hop hreturned ?_).1 c hc
      rintro c (hold | hnew)
      · exact Or.inl (h c hold)
      · exact Or.inr hnew.2
    · have hstore : (emailStep w (.verify rt request verifier)).store = w.store :=
        Lib.sessionScope_restores hreturned
      rw [hstore]
      rcases hc with hold | hnew
      · exact h c hold
      · exact absurd hnew.1 hreturned

/-- A call that disowns nothing takes away what it finds invalid. -/
theorem emailStep_revokes {op : EmailOp} (hop : op.disowns w = false) : op.revokes w := by
  cases op with
  | persist request key generate => trivial
  | verify rt request verifier =>
    intro hreturned record status hfinding hbad c hc
    have hcarried := (verify_backs (fun _ => False) hop hreturned
      fun c hc => hc.elim).2 c record.email
    have hclean := List.any_eq_false.mp hop (record, status) hfinding
    have hstatus : status ≠ .verified := by
      rintro rfl
      rcases hbad with hbad | hbad <;> cases hbad
    simp only [bne_iff_ne.mpr hstatus, hc, Option.any_some, Bool.true_and, Bool.or_eq_true,
      List.contains_iff_mem, not_or] at hclean
    by_contra hcarries
    rcases hcarried (by simpa using hcarries) with hold | hnew
    · exact hclean.1 hold
    · exact hclean.2 hnew

end Calls

/-- As long as no batch disowns an address that its contact carries as verified,
every contact marked verified whose address a verification of the run has set
is backed by a verified record of that contact and address, and a call that
finds an address invalid, or fails to check it, leaves no contact with it
verified. -/
theorem verified_contacts_backed {w : DbWorld} {ops : List EmailOp}
    (hrun : Admissible emailStep (fun w op => op.disowns w = false) w ops) :
    (∀ c, SetByVerification w ops c → Backed (run emailStep w ops).store.contacts
        (run emailStep w ops).store.emailCandidates c) ∧
      Admissible emailStep (fun w op => op.revokes w) w ops := by
  constructor
  · refine Lib.run_history (P := fun past w' => ∀ c, SetByVerification w past c →
      Backed w'.store.contacts w'.store.emailCandidates c) ?_ ?_ hrun
    · intro c hset
      exact absurd hset Lib.not_since_nil
    · intro past op _ hop ih c hset
      rcases Lib.Since.cases_last hset with hnow | ⟨hbefore, -⟩
      · exact emailStep_backs (SetByVerification w past) hop ih c (Or.inr hnow)
      · exact emailStep_backs (SetByVerification w past) hop ih c (Or.inl hbefore)
  · exact Lib.admissible_of_invariant (I := fun _ => True) (fun _ _ _ _ => trivial)
      (fun _ _ hop _ => emailStep_revokes hop) hrun trivial

end Runs

/-- Two generated addresses of one contact, none of them checked yet. -/
def pendingWorld : DbWorld :=
  { store :=
      { contacts := [{ fullName := "Ada Lovelace" }]
        emailCandidates :=
          [{ contactId := some 0, email := "ada@acme.io", pattern := "first"
             idempotencyKey := "k:0:ada@acme.io" },
           { contactId := some 0, email := "a.lovelace@acme.io", pattern := "f.last"
             idempotencyKey := "k:0:a.lovelace@acme.io" }] }
    external := {} }

/-- A batch of one record with the answer given in the request. -/
def recheck (id : Id) (valid : Bool) : EmailOp :=
  .verify { now := 0 }
    { candidateIds := [id]
      verificationResults := { byId := [(id, { valid := some valid })] } }
    fun _ => .ok {}

/-- The first batch of such a run sets the address of the contact. -/
theorem recheck_sets (rest : List EmailOp) :
    SetByVerification pendingWorld (recheck 0 true :: rest) 0 := by
  refine ⟨[], recheck 0 true, rest, rfl, ⟨?_, ?_⟩, fun _ _ _ _ => trivial⟩
  · decide +kernel
  · decide +kernel

/-- One address is found bad while the contact carries the other. -/
theorem other_address_invalid :
    Admissible emailStep (fun w op => op.disowns w = false) pendingWorld
        [recheck 0 true, recheck 1 false] ∧
      Backed (run emailStep pendingWorld [recheck 0 true, recheck 1 false]).store.contacts
        (run emailStep pendingWorld [recheck 0 true, recheck 1 false]).store.emailCandidates
        0 := by
  have hrun : Admissible emailStep (fun w op => op.disowns w = false) pendingWorld
      [recheck 0 true, recheck 1 false] := by decide +kernel
  exact ⟨hrun, (verified_contacts_backed hrun).1 0 (recheck_sets _)⟩

/-- The address is verified, then found invalid: the record says so and the
contact keeps it as verified. -/
theorem invalid_address_carried :
    SetByVerification pendingWorld [recheck 0 true, recheck 0 false] 0 ∧
      ¬ Backed (run emailStep pendingWorld [recheck 0 true, recheck 0 false]).store.contacts
        (run emailStep pendingWorld [recheck 0 true, recheck 0 false]).store.emailCandidates
        0 ∧
      ¬ (recheck 0 false).revokes (run emailStep pendingWorld [recheck 0 true]) := by
  refine ⟨recheck_sets _, ?_, ?_⟩
  · intro hbacked
    have hcarried : ((run emailStep pendingWorld
        [recheck 0 true, recheck 0 false]).store.contacts[0]?).any
          (·.emailStatus == some "verified") = true := by decide +kernel
    have hmarked : ∀ record ∈ (run emailStep pendingWorld
        [recheck 0 true, recheck 0 false]).store.emailCandidates,
          record.verificationStatus ≠ .verified := by decide +kernel
    obtain ⟨contact, hcontact, hstatus⟩ := Option.any_eq_true _ _ |>.mp hcarried
    obtain ⟨-, -, id, record, hrow, -, -, hverified⟩ :=
      hbacked contact hcontact (by simpa using hstatus)
    exact hmarked record (List.mem_of_getElem? hrow) hverified
  · intro hrevokes
    obtain ⟨⟨record, status⟩, hfinding, hinvalid, hcontact, hcarried⟩ :
        ∃ finding ∈ findings
            { candidateIds := [0]
              verificationResults := { byId := [(0, { valid := some false })] } }
            (fun _ => .ok {}) (run emailStep pendingWorld [recheck 0 true]).store,
          finding.2 = .invalid ∧ finding.1.contactId = some 0 ∧
            carries (run emailStep pendingWorld
              [recheck 0 true, recheck 0 false]).store.contacts 0 finding.1.email = true := by
      decide +kernel
    have hgone := hrevokes (by decide +kernel) record status hfinding (Or.inl hinvalid) 0 hcontact
    exact Bool.false_ne_true (hgone.symm.trans hcarried)

end GhostRecon
