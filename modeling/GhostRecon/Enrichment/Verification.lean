import GhostRecon.Enrichment.Emails
import GhostRecon.Sequencing.Effects

/-!
What a verification batch does to the outreach store. It leaves the sequencing
tables alone, and a contact keeps its address or takes that of a record the
verifier accepted; nothing looks at the mail that is already drafted for it.
-/

namespace GhostRecon

open Lib (Id Table Chain after)
open Std.Do

set_option mvcgen.warning false

section Asides

/-- An anchored event stays anchored while its tables grow. -/
theorem OutboxEvent.anchored_mono {event : OutboxEvent} {s s' : Store}
    (h : event.anchored s) (hinbound : s.inboundEvents <+: s'.inboundEvents)
    (hsuppressions : s.suppressions <+: s'.suppressions) : event.anchored s' := by
  obtain ⟨name, kind, id, key⟩ := event
  cases key with
  | counted name id counter => trivial
  | paired name id other => trivial
  | keyed name id key => trivial
  | once name k =>
    cases name with
    | unsubscribeReceived => exact Nat.lt_of_lt_of_le h hinbound.length_le
    | suppressionCreated => exact Nat.lt_of_lt_of_le h hsuppressions.length_le
    | _ => trivial

theorem Aside.refl (s : Store) : Aside s s :=
  aside_of_same ⟨rfl, rfl, rfl, rfl, rfl, rfl, rfl⟩

theorem Aside.trans {a b c : Store} (hab : Aside a b) (hbc : Aside b c) : Aside a c where
  enrollments := hbc.enrollments.trans hab.enrollments
  activities := hbc.activities.trans hab.activities
  outboundEmails := hbc.outboundEmails.trans hab.outboundEmails
  inboundEvents := hab.inboundEvents.trans hbc.inboundEvents
  steps := hab.steps.trans hbc.steps
  suppressions := hab.suppressions.trans hbc.suppressions
  outbox := by
    intro event hevent
    rcases hbc.outbox event hevent with hold | hnew
    · rcases hab.outbox event hold with holder | hanchored
      · exact Or.inl holder
      · exact Or.inr (OutboxEvent.anchored_mono hanchored hbc.inboundEvents hbc.suppressions)
    · exact Or.inr hnew

end Asides

/-- Every contact of the new table is an old one, with its address or with one
of the given ones. -/
def Addressed (addresses : List (Id × String)) (contacts contacts' : Table Contact) : Prop :=
  ∀ (c : Id) (contact' : Contact), contacts'[c]? = some contact' →
    ∃ contact : Contact, contacts[c]? = some contact ∧
      (contact'.email = contact.email ∨
        ∃ email, (c, email) ∈ addresses ∧ contact'.email = some email)

theorem Addressed.refl {addresses : List (Id × String)} (contacts : Table Contact) :
    Addressed addresses contacts contacts := by
  intro c contact hcontact
  exact ⟨contact, hcontact, Or.inl rfl⟩

theorem Addressed.trans {addresses : List (Id × String)} {a b c : Table Contact}
    (hab : Addressed addresses a b) (hbc : Addressed addresses b c) :
    Addressed addresses a c := by
  intro i last hlast
  obtain ⟨middle, hmiddle, hemail⟩ := hbc i last hlast
  obtain ⟨first, hfirst, hemail'⟩ := hab i middle hmiddle
  refine ⟨first, hfirst, ?_⟩
  rcases hemail with hsame | hnew
  · rw [hsame]
    exact hemail'
  · exact Or.inr hnew

/-- What a verification batch may do. -/
structure Readdressed (addresses : List (Id × String)) (w w' : DbWorld) : Prop where
  aside : Aside w.store w'.store
  contacts : Addressed addresses w.store.contacts w'.store.contacts
  mail : w'.external.mail = w.external.mail

theorem Readdressed.refl {addresses : List (Id × String)} (w : DbWorld) :
    Readdressed addresses w w :=
  ⟨Aside.refl _, Addressed.refl _, rfl⟩

/-- A change that leaves contacts and sequencing alone and adds one outbox row
that needs no anchor. -/
theorem Readdressed.keep {addresses : List (Id × String)} {w v : DbWorld} {s' : Store}
    (h : Readdressed addresses w v) (haside : Aside v.store s')
    (hcontacts : Addressed addresses v.store.contacts s'.contacts) :
    Readdressed addresses w { v with store := s' } :=
  ⟨h.aside.trans haside, h.contacts.trans hcontacts, h.mail⟩

theorem enqueueEvent_aside {s : Store} {name : EventName} {kind : String} {id : Id}
    {key : OutboxKey}
    (hanchored : OutboxEvent.anchored ⟨name, kind, id, key⟩ (enqueueEvent name kind id key s)) :
    Aside s (enqueueEvent name kind id key s) := by
  refine ⟨rfl, rfl, rfl, List.prefix_rfl, List.prefix_rfl, List.prefix_rfl, ?_⟩
  intro event hevent
  rcases List.mem_append.mp hevent with hold | hnew
  · exact Or.inl hold
  · rw [List.mem_singleton] at hnew
    subst hnew
    exact Or.inr hanchored

variable [Casing]

/-- The addresses a batch gives to contacts. -/
def verifiedAddresses (results : VerificationResults)
    (records : List (Id × EmailCandidateRecord)) : List (Id × String) :=
  records.filterMap fun (id, record) =>
    if (classifyVerificationResult (results.lookup id record.email)).1 = .verified then
      record.contactId.map fun c => (c, record.email)
    else none

/-- The addresses a call of `verify_email_candidates` gives to contacts. -/
def newAddresses (request : EmailVerifyBatchRequest)
    (verifier : List String → Except String VerificationResults) (s : Store) :
    List (Id × String) :=
  match verificationResults request verifier s with
  | .error _ => []
  | .ok results => verifiedAddresses results (selectedRecords request.candidateIds s)

/-- A verified record: one contact takes its address. -/
theorem applyVerified_aside {s : Store} {now : Time} {id : Id}
    {visible : Table OrganizationEmailPattern} {record : EmailCandidateRecord} :
    Aside s (applyVerified now visible id record s) := by
  unfold applyVerified
  refine Aside.trans ?_ (enqueueEvent_aside trivial)
  apply aside_of_same
  unfold upsertEmailPattern
  cases record.contactId <;> split <;> exact ⟨rfl, rfl, rfl, rfl, rfl, rfl, rfl⟩

theorem applyVerified_contacts {s : Store} {now : Time} {id : Id}
    {visible : Table OrganizationEmailPattern} {record : EmailCandidateRecord}
    {addresses : List (Id × String)}
    (h : ∀ c, record.contactId = some c → (c, record.email) ∈ addresses) :
    Addressed addresses s.contacts (applyVerified now visible id record s).contacts := by
  have hpattern : ∀ (domain pattern : String) (t : Store),
      (upsertEmailPattern visible domain pattern now t).contacts = t.contacts := by
    intro domain pattern t
    unfold upsertEmailPattern
    split <;> rfl
  unfold applyVerified
  rw [enqueueEvent, hpattern]
  cases hcontact : record.contactId with
  | none => exact Addressed.refl _
  | some c =>
    intro i contact' hcontact'
    simp only [List.getElem?_modify] at hcontact'
    obtain ⟨contact, hstored, heq⟩ := Option.map_eq_some_iff.mp hcontact'
    refine ⟨contact, hstored, ?_⟩
    subst heq
    split
    · next hi =>
      subst hi
      exact Or.inr ⟨record.email, h c hcontact, rfl⟩
    · exact Or.inl rfl

omit [Casing] in
theorem insertReview_aside {s : Store} {row : ReviewCandidate} :
    Aside s (insertReview row s) := by
  refine Aside.trans ?_ (enqueueEvent_aside trivial)
  exact aside_of_same ⟨rfl, rfl, rfl, rfl, rfl, rfl, rfl⟩

/-- The loop over the selected records. -/
theorem verifyRecords_readdresses (rt : Runtime) (results : VerificationResults)
    (records : List (Id × EmailCandidateRecord)) (visible : Table OrganizationEmailPattern)
    (w : DbWorld) {addresses : List (Id × String)}
    (h : ∀ address ∈ verifiedAddresses results records, address ∈ addresses) :
    ⦃fun v => ⌜Readdressed addresses w v⌝⦄ verifyRecords rt results records visible
      ⦃post⟨fun _ v => ⌜Readdressed addresses w v⌝,
        fun _ v => ⌜Readdressed addresses w { v with store := w.store }⌝⟩⦄ := by
  induction records generalizing visible with
  | nil => mvcgen [verifyRecords]
  | cons first rest ih =>
    obtain ⟨id, record⟩ := first
    have hrest : ∀ address ∈ verifiedAddresses results rest, address ∈ addresses := by
      intro address hmem
      obtain ⟨row, hrow, hsome⟩ := List.mem_filterMap.mp hmem
      exact h address (List.mem_filterMap.mpr ⟨row, List.mem_cons_of_mem _ hrow, hsome⟩)
    replace ih := fun visible => ih visible hrest
    have hunverified : ∀ {v : DbWorld} (status : VerificationStatus) (reason : Option String),
        Readdressed addresses w v → Readdressed addresses w
          { v with store := applyUnverified rt.now id record status reason v.store } := by
      intro v status reason hv
      exact hv.keep (aside_of_same ⟨rfl, rfl, rfl, rfl, rfl, rfl, rfl⟩) (Addressed.refl _)
    mvcgen [verifyRecords, requestReview, flush, Lib.flush, ih]
    · next hclass v hv =>
      refine hv.keep applyVerified_aside (applyVerified_contacts ?_)
      intro c hc
      apply h
      refine List.mem_filterMap.mpr ⟨(id, record), List.mem_cons_self, ?_⟩
      simp [hclass, hc]
    · next v hv _ => exact hunverified _ _ hv
    · next v hv _ _ _ => exact hunverified _ _ hv
    · next v hv _ _ _ => exact (hunverified _ _ hv).keep insertReview_aside (Addressed.refl _)
    · next v hv _ _ _ => exact ⟨Aside.refl _, Addressed.refl _, hv.mail⟩

/-- Which contacts a call of `verify_email_candidates` may readdress. -/
theorem verifyEmailCandidates_readdresses (rt : Runtime) (request : EmailVerifyBatchRequest)
    (verifier : List String → Except String VerificationResults) (w : DbWorld) :
    Readdressed (newAddresses request verifier w.store) w
        (after (verifyEmailCandidates rt request verifier) w) ∧
      (w.store.constraintsOk = true →
        (after (verifyEmailCandidates rt request verifier) w).store.constraintsOk = true) := by
  have hloop : ∀ results visible, verificationResults request verifier w.store = .ok results →
      ⦃fun v => ⌜Readdressed (newAddresses request verifier w.store) w v⌝⦄
        verifyRecords rt results (selectedRecords request.candidateIds w.store) visible
        ⦃post⟨fun _ v => ⌜Readdressed (newAddresses request verifier w.store) w v⌝,
          fun _ v => ⌜Readdressed (newAddresses request verifier w.store) w
            { v with store := w.store }⌝⟩⦄ := by
    intro results visible hresults
    apply verifyRecords_readdresses
    intro address hmem
    simpa only [newAddresses, hresults] using hmem
  refine Lib.sessionScope_relates
    (R := Readdressed (newAddresses request verifier w.store) w) ?_ ?_
  · intro v hv
    exact ⟨Aside.refl _, Addressed.refl _, hv.mail⟩
  · mvcgen [Lib.queryOrRaise]
    all_goals subst_vars
    all_goals try exact Readdressed.refl _
    next v results hresults =>
      have hanswers : verificationResults request verifier v.store = .ok results := by
        cases hasked : verificationResults request verifier v.store with
        | error message =>
          rw [hasked] at hresults
          cases hresults
        | ok answers =>
          rw [hasked] at hresults
          cases hresults
          rfl
      exact Triple.iff.mp (hloop results _ hanswers) v (Readdressed.refl v)

/-- A batch rewrites prospects and nothing else. -/
theorem verifyEmailCandidates_quiet {ok : Label → Prop} (hprospects : ok .prospects)
    (rt : Runtime) (request : EmailVerifyBatchRequest)
    (verifier : List String → Except String VerificationResults) (w : DbWorld) :
    Quiet ok w (after (verifyEmailCandidates rt request verifier) w) := by
  obtain ⟨hbatch, hconstraints⟩ := verifyEmailCandidates_readdresses rt request verifier w
  exact ⟨⟨Chain.single hprospects (.prospects hbatch.aside), hbatch.mail⟩, hconstraints⟩

end GhostRecon
