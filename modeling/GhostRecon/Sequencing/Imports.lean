import GhostRecon.Lib.Run
import GhostRecon.Sequencing.Prospects

/-!
Imports of CRM prospects, one after another. Account, contact, target and enrollment are each
found under a key of their own: the domain, the account with the address, the identifier of the
prospect, the key of the request. A prospect whose address or domain changes between two
imports is a new contact under an identifier that is taken, or keeps the target that stands
for the old one.
-/

namespace GhostRecon

open Lib (Id Table after query write run run_cons Admissible)

section Inserts

variable {s : Store}

/-- A new account and the constraints. -/
theorem insertAccount_constraints {row : Account} (hs : s.constraintsOk = true) :
    Store.constraintsOk { s with accounts := s.accounts ++ [row] } = true ↔
      ∀ k, row.crmAccountId = some k → ∀ old ∈ s.accounts, old.crmAccountId ≠ some k := by
  have hunique : Table.uniqueOn (s.accounts ++ [row]) (·.crmAccountId) = true ↔ _ :=
    Table.uniqueOn_concat
  simp only [Store.constraintsOk, Store.keysOk, Store.widthsOk, Bool.and_eq_true] at hs
  simp only [Store.constraintsOk, Store.keysOk, Store.widthsOk, Bool.and_eq_true, hunique]
  grind

/-- A new contact and the constraints. -/
theorem insertContact_constraints {row : Contact} (hs : s.constraintsOk = true) :
    Store.constraintsOk { s with contacts := s.contacts ++ [row] } = true ↔
      (∀ k, row.idempotencyKey = some k → ∀ old ∈ s.contacts, old.idempotencyKey ≠ some k) ∧
        (∀ k, row.crmContactId = some k → ∀ old ∈ s.contacts, old.crmContactId ≠ some k) ∧
        ∀ k, (row.accountId.bind fun a => row.email.map fun e => (a, e)) = some k →
          ∀ old ∈ s.contacts,
            (old.accountId.bind fun a => old.email.map fun e => (a, e)) ≠ some k := by
  have hkeys : Table.uniqueOn (s.contacts ++ [row]) (·.idempotencyKey) = true ↔ _ :=
    Table.uniqueOn_concat
  have hids : Table.uniqueOn (s.contacts ++ [row]) (·.crmContactId) = true ↔ _ :=
    Table.uniqueOn_concat
  have haddresses : Table.uniqueOn (s.contacts ++ [row])
      (fun row => row.accountId.bind fun a => row.email.map fun e => (a, e)) = true ↔ _ :=
    Table.uniqueOn_concat
  simp only [Store.constraintsOk, Store.keysOk, Store.widthsOk, Bool.and_eq_true] at hs
  simp only [Store.constraintsOk, Store.keysOk, Store.widthsOk, Bool.and_eq_true, hkeys, hids,
    haddresses]
  grind

/-- A new target and the constraints. -/
theorem insertTarget_constraints {row : CrmTarget} (hs : s.constraintsOk = true) :
    Store.constraintsOk { s with crmTargets := s.crmTargets ++ [row] } = true ↔
      ∀ old ∈ s.crmTargets, old.idempotencyKey ≠ row.idempotencyKey := by
  have hunique : Table.uniqueOn (s.crmTargets ++ [row]) (fun row => some row.idempotencyKey) =
      true ↔ _ := Table.uniqueOn_concat
  simp only [Store.constraintsOk, Store.keysOk, Store.widthsOk, Bool.and_eq_true] at hs
  simp only [Store.constraintsOk, Store.keysOk, Store.widthsOk, Bool.and_eq_true, hunique,
    Option.some.injEq, forall_eq', ne_eq]
  grind

/-- A new enrollment with its event and the constraints. -/
theorem insertEnrollment_constraints {row : SequenceEnrollment} (hs : s.constraintsOk = true) :
    (insertEnrollment row s).constraintsOk = true ↔
      (∀ old ∈ s.enrollments, old.idempotencyKey ≠ row.idempotencyKey) ∧
        ∀ old ∈ s.outbox, old.idempotencyKey ≠ .once .sequenceEnrolled s.enrollments.length := by
  have hunique : Table.uniqueOn (s.enrollments ++ [row]) (fun row => some row.idempotencyKey) =
      true ↔ _ := Table.uniqueOn_concat
  have houtbox : Table.uniqueOn (s.outbox ++ [{
      eventName := .sequenceEnrolled, aggregateType := "sequence_enrollment"
      aggregateId := s.enrollments.length
      idempotencyKey := OutboxKey.once .sequenceEnrolled s.enrollments.length }])
      (fun row => some row.idempotencyKey) = true ↔ _ := Table.uniqueOn_concat
  simp only [Store.constraintsOk, Store.keysOk, Store.widthsOk, Bool.and_eq_true] at hs
  simp only [Store.constraintsOk, Store.keysOk, Store.widthsOk, insertEnrollment, enqueueEvent,
    Bool.and_eq_true, hunique, houtbox, Option.some.injEq, forall_eq', ne_eq]
  grind

end Inserts

section Records

variable [Casing] (prospect : CrmProspect) (email : String)

/-- The account of the prospect's domain. -/
def CrmProspect.accountFound (s : Store) : Option (Id × Account) :=
  s.accounts.first? (·.domain == some prospect.domain)

/-- The account the import uses. -/
def CrmProspect.accountId (s : Store) : Id :=
  ((prospect.accountFound s).map (·.1)).getD s.accounts.length

/-- The contact with the prospect's address at the account. -/
def CrmProspect.contactFound (s : Store) : Option (Id × Contact) :=
  s.contacts.first? fun row =>
    row.accountId == some (prospect.accountId s) && row.email == some (lower email)

/-- The contact the import uses. -/
def CrmProspect.contactId (s : Store) : Id :=
  ((prospect.contactFound email s).map (·.1)).getD s.contacts.length

omit [Casing] in
/-- The target of an earlier import of the prospect. -/
def CrmProspect.targetFound (s : Store) : Option (Id × CrmTarget) :=
  s.crmTargets.first? (·.idempotencyKey == "crm-import-target:" ++ prospect.providerRecordId)

omit [Casing] in
/-- The target the import uses. -/
def CrmProspect.targetId (s : Store) : Id :=
  ((prospect.targetFound s).map (·.1)).getD s.crmTargets.length

/-- The account is there, or its CRM id is free. -/
def CrmProspect.accountFree (s : Store) : Bool :=
  (prospect.accountFound s).isSome ||
    s.accounts.all (·.crmAccountId != some ("crm-account:" ++ prospect.domain))

/-- The contact is there, or the identifiers of the prospect are free. -/
def CrmProspect.contactFree (s : Store) : Bool :=
  (prospect.contactFound email s).isSome ||
    s.contacts.all fun row =>
      row.crmContactId != some prospect.providerRecordId &&
        row.idempotencyKey != some ("crm-import-contact:" ++ prospect.providerRecordId)

/-- The records with those of the prospect. -/
def CrmProspect.imported (now : Time) (s : Store) : Store :=
  { s with
    accounts :=
      match prospect.accountFound s with
      | some _ => s.accounts
      | none => s.accounts ++ [prospect.account]
    contacts :=
      match prospect.contactFound email s with
      | some _ => s.contacts
      | none => s.contacts ++ [prospect.contact email (prospect.accountId s) now]
    crmTargets :=
      match prospect.targetFound s with
      | some _ => s.crmTargets
      | none => s.crmTargets ++ [prospect.target (prospect.contactId email s) now] }

end Records

section Run

/-- Find a row, or add one and flush. -/
def findOrAdd {ρ : Type} (find : Store → Option (Id × ρ)) (size : Store → Nat)
    (add : Store → Store) : Tx Id := do
  match ← query find with
  | some (id, _) => pure id
  | none => do
    let id ← query size
    write add
    flush
    pure id

theorem findOrAdd_bind {ρ α : Type} {find : Store → Option (Id × ρ)} {size : Store → Nat}
    {add : Store → Store} {rest : Id → Tx α} :
    findOrAdd find size add >>= rest = (do
      match ← query find with
      | some (id, _) => rest id
      | none => do
        let id ← query size
        write add
        flush
        rest id) := by
  simp only [findOrAdd, bind_assoc]
  apply bind_congr
  intro found
  cases found <;> simp

theorem findOrAdd_run {ρ : Type} {find : Store → Option (Id × ρ)} {size : Store → Nat}
    {add : Store → Store} (w : DbWorld) :
    findOrAdd find size add w =
      match find w.store with
      | some (id, _) => .ok id w
      | none =>
        if (add w.store).constraintsOk then .ok (size w.store) { w with store := add w.store }
        else .error .integrityError { w with store := add w.store } := by
  simp only [findOrAdd, Lib.bind_run, Lib.query_run]
  cases hfind : find w.store with
  | some found => rfl
  | none =>
    simp only [Lib.bind_run, Lib.query_run, Lib.write_run, flush, Lib.flush_run]
    cases (add w.store).constraintsOk <;> rfl

theorem findOrAdd_valid {ρ : Type} {find : Store → Option (Id × ρ)} {size : Store → Nat}
    {add : Store → Store} {id : Id} {w v : DbWorld} (hok : w.store.constraintsOk = true)
    (h : findOrAdd find size add w = .ok id v) : v.store.constraintsOk = true := by
  rw [findOrAdd_run] at h
  cases hfind : find w.store with
  | some found =>
    rw [hfind] at h
    cases h
    exact hok
  | none =>
    rw [hfind] at h
    cases hvalid : (add w.store).constraintsOk with
    | true =>
      simp only [hvalid, if_true, EStateM.Result.ok.injEq] at h
      rw [← h.2]
      exact hvalid
    | false => simp [hvalid] at h

variable [Casing] (rt : Runtime) (prospect : CrmProspect) (email : String)

theorem importProspect_eq : importProspect rt prospect email = sessionScope (do
    let accountId ← findOrAdd (·.accounts.first? (·.domain == some prospect.domain))
      (·.accounts.length) fun s => { s with accounts := s.accounts ++ [prospect.account] }
    let contactId ← findOrAdd
      (·.contacts.first? fun row =>
        row.accountId == some accountId && row.email == some (lower email))
      (·.contacts.length)
      fun s => { s with contacts := s.contacts ++ [prospect.contact email accountId rt.now] }
    let targetId ← findOrAdd
      (·.crmTargets.first?
        (·.idempotencyKey == "crm-import-target:" ++ prospect.providerRecordId))
      (·.crmTargets.length)
      fun s => { s with crmTargets := s.crmTargets ++ [prospect.target contactId rt.now] }
    return (accountId, contactId, targetId)) := by
  simp only [importProspect, findOrAdd_bind, pure_bind]
  apply congrArg sessionScope
  repeat' first
    | (apply bind_congr; intro found)
    | split
  all_goals simp_all

variable {w : DbWorld}

/-- The account is found or added when its CRM id is free. -/
theorem account_run (hok : w.store.constraintsOk = true) :
    findOrAdd (·.accounts.first? (·.domain == some prospect.domain)) (·.accounts.length)
        (fun s => { s with accounts := s.accounts ++ [prospect.account] }) w =
      if prospect.accountFree w.store then
        .ok (prospect.accountId w.store) { w with store := { w.store with
          accounts := (prospect.imported email rt.now w.store).accounts } }
      else .error .integrityError { w with store := { w.store with
        accounts := w.store.accounts ++ [prospect.account] } } := by
  rw [findOrAdd_run]
  cases hfound : prospect.accountFound w.store with
  | some found =>
    have hquery : w.store.accounts.first? (·.domain == some prospect.domain) = some found := hfound
    simp [hquery, CrmProspect.accountFree, CrmProspect.accountId, CrmProspect.imported, hfound]
  | none =>
    have hquery : w.store.accounts.first? (·.domain == some prospect.domain) = none := hfound
    have hfree : Store.constraintsOk { w.store with
        accounts := w.store.accounts ++ [prospect.account] } = prospect.accountFree w.store := by
      rw [Bool.eq_iff_iff, insertAccount_constraints hok]
      simp [CrmProspect.accountFree, hfound, CrmProspect.account]
    simp [hquery, hfree, CrmProspect.accountId, CrmProspect.imported, hfound]

/-- The contact is found or added when the identifiers of the prospect are free. -/
theorem contact_run {accounts : Table Account}
    (hok : Store.constraintsOk { w.store with accounts := accounts } = true) :
    findOrAdd
        (·.contacts.first? fun row =>
          row.accountId == some (prospect.accountId w.store) && row.email == some (lower email))
        (·.contacts.length)
        (fun s => { s with
          contacts := s.contacts ++ [prospect.contact email (prospect.accountId w.store) rt.now] })
        { w with store := { w.store with accounts := accounts } } =
      if prospect.contactFree email w.store then
        .ok (prospect.contactId email w.store) { w with store := { w.store with
          accounts := accounts
          contacts := (prospect.imported email rt.now w.store).contacts } }
      else .error .integrityError { w with store := { w.store with
        accounts := accounts
        contacts := w.store.contacts ++
          [prospect.contact email (prospect.accountId w.store) rt.now] } } := by
  rw [findOrAdd_run]
  cases hfound : prospect.contactFound email w.store with
  | some found =>
    have hquery : w.store.contacts.first? (fun row =>
        row.accountId == some (prospect.accountId w.store) && row.email == some (lower email)) =
          some found := hfound
    simp [hquery, CrmProspect.contactFree, CrmProspect.contactId, CrmProspect.imported, hfound]
  | none =>
    have hquery : w.store.contacts.first? (fun row =>
        row.accountId == some (prospect.accountId w.store) && row.email == some (lower email)) =
          none := hfound
    have hfree : Store.constraintsOk { w.store with
        accounts := accounts
        contacts := w.store.contacts ++
          [prospect.contact email (prospect.accountId w.store) rt.now] } =
        prospect.contactFree email w.store := by
      rw [Bool.eq_iff_iff, insertContact_constraints hok]
      have haddress : ∀ old ∈ w.store.contacts, (old.accountId.bind fun a =>
          old.email.map fun e => (a, e)) ≠ some (prospect.accountId w.store, lower email) := by
        intro old hold hsame
        obtain ⟨a, ha, hrest⟩ := Option.bind_eq_some_iff.mp hsame
        obtain ⟨e, he, hpair⟩ := Option.map_eq_some_iff.mp hrest
        obtain ⟨rfl, rfl⟩ := Prod.mk.inj hpair
        have hmissed := Table.first?_none.mp hquery old hold
        simp [ha, he] at hmissed
      simp only [CrmProspect.contactFree, hfound, Option.isSome_none, Bool.false_or,
        List.all_eq_true, Bool.and_eq_true, bne_iff_ne]
      constructor
      · rintro ⟨hkeys, hids, -⟩ old hold
        exact ⟨hids _ rfl old hold, hkeys _ rfl old hold⟩
      · intro hold
        refine ⟨?_, ?_, ?_⟩
        · intro k hk old hmem
          cases hk
          exact (hold old hmem).2
        · intro k hk old hmem
          cases hk
          exact (hold old hmem).1
        · intro k hk old hmem
          cases hk
          exact haddress old hmem
    simp [hquery, hfree, CrmProspect.contactId, CrmProspect.imported, hfound]

/-- The target is found or added. -/
theorem target_run {accounts : Table Account} {contacts : Table Contact}
    (hok : Store.constraintsOk { w.store with accounts := accounts, contacts := contacts } =
      true) :
    findOrAdd
        (·.crmTargets.first?
          (·.idempotencyKey == "crm-import-target:" ++ prospect.providerRecordId))
        (·.crmTargets.length)
        (fun s => { s with
          crmTargets := s.crmTargets ++
            [prospect.target (prospect.contactId email w.store) rt.now] })
        { w with store := { w.store with accounts := accounts, contacts := contacts } } =
      .ok (prospect.targetId w.store) { w with store := { w.store with
        accounts := accounts
        contacts := contacts
        crmTargets := (prospect.imported email rt.now w.store).crmTargets } } := by
  rw [findOrAdd_run]
  cases hfound : prospect.targetFound w.store with
  | some found =>
    have hquery : w.store.crmTargets.first?
        (·.idempotencyKey == "crm-import-target:" ++ prospect.providerRecordId) = some found :=
      hfound
    simp [hquery, CrmProspect.targetId, CrmProspect.imported, hfound]
  | none =>
    have hquery : w.store.crmTargets.first?
        (·.idempotencyKey == "crm-import-target:" ++ prospect.providerRecordId) = none :=
      hfound
    have hfree : Store.constraintsOk { w.store with
        accounts := accounts
        contacts := contacts
        crmTargets := w.store.crmTargets ++
          [prospect.target (prospect.contactId email w.store) rt.now] } = true := by
      rw [insertTarget_constraints hok]
      intro old hold hsame
      have hmissed := Table.first?_none.mp hquery old hold
      simp only [beq_eq_false_iff_ne] at hmissed
      exact hmissed hsame
    simp [hquery, hfree, CrmProspect.targetId, CrmProspect.imported, hfound]

/-- The first transaction of an import: it is refused when an identifier is taken. -/
theorem importProspect_run (hok : w.store.constraintsOk = true) :
    importProspect rt prospect email w =
      if prospect.accountFree w.store && prospect.contactFree email w.store then
        .ok (prospect.accountId w.store, prospect.contactId email w.store,
          prospect.targetId w.store)
          { w with store := prospect.imported email rt.now w.store }
      else .error .integrityError w := by
  rw [importProspect_eq, sessionScope, Lib.sessionScope_run]
  simp only [Lib.bind_run]
  have haccount := account_run rt prospect email hok
  cases hfree : prospect.accountFree w.store with
  | false =>
    rw [hfree] at haccount
    rw [haccount]
    rfl
  | true =>
    rw [hfree, if_pos rfl] at haccount
    rw [haccount]
    have hvalid := findOrAdd_valid hok haccount
    have hcontact := contact_run rt prospect email hvalid
    cases hidentifiers : prospect.contactFree email w.store with
    | false =>
      rw [hidentifiers] at hcontact
      simp only [hcontact]
      rfl
    | true =>
      rw [hidentifiers, if_pos rfl] at hcontact
      have hvalid' := findOrAdd_valid hvalid hcontact
      have htarget := target_run rt prospect email hvalid'
      have hdone := findOrAdd_valid hvalid' htarget
      simp only [hcontact, htarget, Lib.pure_run]
      rw [if_pos hdone]
      rfl

end Run

section Openings

variable [Casing] {rt : Runtime} {request : SequenceEnrollmentCreateRequest}
  {actor key : String} {w : DbWorld} {contactId : Id}

/-- The enrollment of a contact opens: its sequence runs, its target was exported and nothing
forbids to write to the contact. -/
def SequenceEnrollmentCreateRequest.opens (rt : Runtime)
    (request : SequenceEnrollmentCreateRequest) (contactId : Id) (s : Store) : Bool :=
  match s.sequences[request.sequenceId]?, s.crmTargets[request.crmTargetId]?,
    s.contacts[contactId]? with
  | some sequence, some target, some contact =>
    sequence.status == .active && (currentSequenceSteps s request.sequenceId).head?.isSome &&
      target.status == .exported && target.exportStatus == "exported" &&
      (requireSendableContact contact).isOk &&
      (match suppressionAllowed rt contact.email (domainFromEmail contact.email)
          (some contactId) sequence.channel.value s with
        | .ok suppression => suppression.allowed
        | .error _ => false) &&
      s.outbox.all (·.idempotencyKey != .once .sequenceEnrolled s.enrollments.length)
  | _, _, _ => false

theorem createSequenceEnrollment_valid (hok : w.store.constraintsOk = true) :
    (after (createSequenceEnrollment rt request actor key) w).store.constraintsOk = true := by
  unfold createSequenceEnrollment
  split
  · exact hok
  · exact Lib.sessionScope_valid hok

/-- Under a key that was used the enrollment of that time is returned. -/
theorem createSequenceEnrollment_found {e : Id} {row : SequenceEnrollment}
    (happroved : request.outreachApproved = true) (hok : w.store.constraintsOk = true)
    (hfound : w.store.enrollments.first? (·.idempotencyKey == key) = some (e, row)) :
    createSequenceEnrollment rt request actor key w = .ok e w := by
  unfold createSequenceEnrollment
  simp only [happroved, Bool.not_true, Bool.false_eq_true, if_false, sessionScope,
    Lib.sessionScope_run, Lib.bind_run, Lib.query_run, hfound, Lib.pure_run, hok, if_true]

/-- Under a new key the enrollment of a named contact is added when it opens, and refused
otherwise. -/
theorem createSequenceEnrollment_run (happroved : request.outreachApproved = true)
    (hok : w.store.constraintsOk = true) (hnamed : request.contactId = some contactId)
    (hnew : w.store.enrollments.first? (·.idempotencyKey == key) = none) :
    if request.opens rt contactId w.store then
      ∃ row : SequenceEnrollment, row.contactId = contactId ∧
        row.crmTargetId = request.crmTargetId ∧
        createSequenceEnrollment rt request actor key w =
          .ok w.store.enrollments.length { w with store := insertEnrollment row w.store }
    else ∃ e, createSequenceEnrollment rt request actor key w = .error e w := by
  have hkeys : ∀ old ∈ w.store.enrollments, old.idempotencyKey ≠ key := by
    intro old hold
    simpa using Table.first?_none.mp hnew old hold
  unfold createSequenceEnrollment SequenceEnrollmentCreateRequest.opens
  simp only [happroved, Bool.not_true, Bool.false_eq_true, if_false, sessionScope,
    Lib.sessionScope_run, Lib.bind_run, Lib.query_run, hnew]
  cases hsequence : w.store.sequences[request.sequenceId]? with
  | none => exact ⟨_, rfl⟩
  | some sequence =>
  by_cases hactive : sequence.status = .active
  case neg =>
    rw [if_neg (by grind)]
    simp only [ne_eq, hactive, not_false_eq_true, if_true]
    exact ⟨_, rfl⟩
  cases hstep : (currentSequenceSteps w.store request.sequenceId).head? with
  | none =>
    rw [if_neg (by grind)]
    simp only [ne_eq, hactive, not_true_eq_false, if_false, Lib.bind_run, Lib.query_run, hstep]
    exact ⟨_, rfl⟩
  | some step =>
  cases htarget : w.store.crmTargets[request.crmTargetId]? with
  | none =>
    simp only [ne_eq, hactive, not_true_eq_false, if_false, Lib.bind_run, Lib.query_run, hstep,
      htarget]
    exact ⟨_, rfl⟩
  | some target =>
  simp only [ne_eq, hactive, not_true_eq_false, if_false, Lib.bind_run, Lib.query_run, hstep,
    htarget]
  by_cases hexported : target.status = .exported ∧ target.exportStatus = "exported"
  case neg =>
    rw [if_neg (by grind), if_pos (by tauto)]
    exact ⟨_, rfl⟩
  rw [if_neg (c := ¬ _ ∨ _) (by tauto)]
  simp only [Lib.bind_run, Lib.queryOrRaise_run, contactForTarget, hnamed]
  cases hcontact : w.store.contacts[contactId]? with
  | none => exact ⟨_, rfl⟩
  | some contact =>
  cases hsendable : requireSendableContact contact with
  | error e =>
    rw [if_neg (by simp [Except.isOk, Except.toBool, hsendable])]
    simp only [hsendable]
    exact ⟨_, rfl⟩
  | ok sendable =>
  simp only [hsendable]
  cases hsuppression : suppressionAllowed rt contact.email (domainFromEmail contact.email)
      (some contactId) sequence.channel.value w.store with
  | error e =>
    rw [if_neg (by simp)]
    exact ⟨_, rfl⟩
  | ok suppression =>
  cases hallowed : suppression.allowed with
  | false =>
    rw [if_neg (by simp [hallowed])]
    simp only [hallowed, Bool.not_false, if_true]
    exact ⟨_, rfl⟩
  | true =>
  have hrow := @insertEnrollment_constraints w.store (enrollmentFor rt request actor key contactId
    contact step.2.stepOrder sequence.definitionVersion) hok
  simp only [hallowed, Bool.not_true, Bool.false_eq_true, if_false, Lib.bind_run, Lib.query_run,
    Lib.write_run, flush, Lib.flush_run, Lib.pure_run]
  cases hfree : w.store.outbox.all
      (·.idempotencyKey != .once .sequenceEnrolled w.store.enrollments.length) with
  | false =>
    have hinvalid : (insertEnrollment (enrollmentFor rt request actor key contactId contact
        step.2.stepOrder sequence.definitionVersion) w.store).constraintsOk = false := by
      rw [← Bool.not_eq_true, hrow]
      rintro ⟨-, hkey⟩
      rw [← Bool.not_eq_true, List.all_eq_true] at hfree
      exact hfree fun old hold => by simpa using hkey old hold
    rw [if_neg (by simp)]
    simp only [hinvalid, Bool.false_eq_true, if_false]
    exact ⟨_, rfl⟩
  | true =>
    have hvalid : (insertEnrollment (enrollmentFor rt request actor key contactId contact
        step.2.stepOrder sequence.definitionVersion) w.store).constraintsOk = true := by
      rw [hrow]
      rw [List.all_eq_true] at hfree
      exact ⟨hkeys, fun old hold => by simpa using hfree old hold⟩
    rw [if_pos (by simp [hactive, hexported, Except.isOk, Except.toBool])]
    refine ⟨enrollmentFor rt request actor key contactId contact step.2.stepOrder
      sequence.definitionVersion, rfl, rfl, ?_⟩
    simp only [hvalid, if_true]

end Openings

section Calls

variable [Casing]

/-- One call of the import. -/
structure ImportCall where
  rt : Runtime
  crm : CrmDirectory
  request : SequenceCrmProspectImportRequest
  actor : String
  idempotencyKey : String

def ImportCall.program (call : ImportCall) : Tx Id :=
  importCrmProspectToSequence call.rt call.crm call.request call.actor call.idempotencyKey

/-- The world after a call, whether it returned or raised. -/
def importStep (w : DbWorld) (call : ImportCall) : DbWorld :=
  after call.program w

/-- The prospect of an approved call with the address the CRM has for it. -/
def ImportCall.subject (call : ImportCall) : Option (CrmProspect × String) :=
  if call.request.outreachApproved then
    match call.crm.find call.request.providerRecordId with
    | .ok (some prospect) => (prospect.email.bind nonEmpty).map fun email => (prospect, email)
    | _ => none
  else none

/-- The enrollment an import asks for. -/
def ImportCall.enrollment (call : ImportCall) (prospect : CrmProspect) (email : String)
    (s : Store) : SequenceEnrollmentCreateRequest where
  sequenceId := call.request.sequenceId
  crmTargetId := prospect.targetId s
  contactId := some (prospect.contactId email s)
  accountId := some (prospect.accountId s)
  startAt := call.request.startAt
  outreachApproved := true
  approvalReason := call.request.approvalReason

variable {call : ImportCall} {prospect : CrmProspect} {email : String} {w : DbWorld}

/-- A call without a subject is refused before any transaction. -/
theorem import_refused (hnone : call.subject = none) :
    ∃ e, call.program w = .error e w := by
  unfold ImportCall.subject at hnone
  unfold ImportCall.program importCrmProspectToSequence
  cases happroved : call.request.outreachApproved with
  | false => exact ⟨_, rfl⟩
  | true =>
    cases hfind : call.crm.find call.request.providerRecordId with
    | error e => exact ⟨_, rfl⟩
    | ok found =>
      cases found with
      | none => exact ⟨_, rfl⟩
      | some prospect =>
        cases hemail : prospect.email.bind nonEmpty with
        | none =>
          simp only [hemail]
          exact ⟨_, rfl⟩
        | some email => simp [happroved, hfind, hemail] at hnone

/-- A call with a subject stores it and enrolls what it stored. -/
theorem import_run (hsubject : call.subject = some (prospect, email))
    (hok : w.store.constraintsOk = true) :
    call.program w =
      if prospect.accountFree w.store && prospect.contactFree email w.store then
        createSequenceEnrollment call.rt (call.enrollment prospect email w.store) call.actor
          call.idempotencyKey
          { w with store := prospect.imported email call.rt.now w.store }
      else .error .integrityError w := by
  unfold ImportCall.subject at hsubject
  unfold ImportCall.program importCrmProspectToSequence
  cases happroved : call.request.outreachApproved with
  | false => simp [happroved] at hsubject
  | true =>
    cases hfind : call.crm.find call.request.providerRecordId with
    | error e => simp [happroved, hfind] at hsubject
    | ok found =>
      cases found with
      | none => simp [happroved, hfind] at hsubject
      | some other =>
        cases hemail : other.email.bind nonEmpty with
        | none => simp [happroved, hfind, hemail] at hsubject
        | some address =>
          simp only [happroved, hfind, hemail, if_true, Option.map_some, Option.some.injEq,
            Prod.mk.injEq] at hsubject
          obtain ⟨rfl, rfl⟩ := hsubject
          simp only [Bool.not_true, Bool.false_eq_true, if_false, hemail, Lib.bind_run,
            importProspect_run call.rt other address hok]
          cases other.accountFree w.store && other.contactFree address w.store <;> rfl

/-- The enrolled contact has the address, and is the one the target of the enrollment stands
for. -/
def Enrolled (email : String) (e : Id) (s : Store) : Prop :=
  ∃ row contact target, s.enrollments[e]? = some row ∧
    s.contacts[row.contactId]? = some contact ∧ contact.email = some (lower email) ∧
    s.crmTargets[row.crmTargetId]? = some target ∧ target.contact? s = some row.contactId

/-- The first transaction of an import that did not return violated a constraint: it alone
adds accounts, contacts and targets. A call that returned enrolled a contact with the address of
the prospect. -/
def ImportKept (call : ImportCall) (w : DbWorld) : Prop :=
  ∀ prospect email, call.subject = some (prospect, email) →
    (∀ v, importProspect call.rt prospect email w ≠ .error .integrityError v) ∧
    ∀ e v, call.program w = .ok e v → Enrolled email e v.store

/-- The account and the contact are there or their identifiers are free. An enrollment that was
made under the key of the call is for a contact with the address of the prospect. Without one,
the target of an earlier import stands for the contact with this address, or the enrollment does
not open. -/
def ImportSafe (call : ImportCall) (s : Store) : Prop :=
  ∀ prospect email, call.subject = some (prospect, email) →
    prospect.accountFree s = true ∧ prospect.contactFree email s = true ∧
    match s.enrollments.first? (·.idempotencyKey == call.idempotencyKey) with
    | some (e, _) => Enrolled email e (prospect.imported email call.rt.now s)
    | none =>
      ∀ id target, prospect.targetFound s = some (id, target) →
        (call.enrollment prospect email s).opens call.rt (prospect.contactId email s)
          (prospect.imported email call.rt.now s) = true →
        target.contact? s = some (prospect.contactId email s)

/-- A new enrollment is the last row. -/
theorem enrolled_added {row : SequenceEnrollment} {s : Store} :
    Enrolled email s.enrollments.length (insertEnrollment row s) ↔
      ∃ contact target, s.contacts[row.contactId]? = some contact ∧
        contact.email = some (lower email) ∧ s.crmTargets[row.crmTargetId]? = some target ∧
        target.contact? s = some row.contactId := by
  unfold Enrolled
  have hlast : (insertEnrollment row s).enrollments[s.enrollments.length]? = some row := by
    simp [insertEnrollment, enqueueEvent]
  constructor
  · rintro ⟨row', contact, target, hrow, hrest⟩
    cases hlast.symm.trans hrow
    exact ⟨contact, target, hrest⟩
  · rintro ⟨contact, target, hrest⟩
    exact ⟨row, contact, target, hlast, hrest⟩

/-- The contact an import uses has the address of the prospect. -/
theorem imported_contact (now : Time) (s : Store) :
    ∃ contact, (prospect.imported email now s).contacts[prospect.contactId email s]? =
      some contact ∧ contact.email = some (lower email) := by
  unfold CrmProspect.imported CrmProspect.contactId
  cases hfound : prospect.contactFound email s with
  | some found =>
    obtain ⟨id, row⟩ := found
    obtain ⟨hrow, hmatch⟩ := Table.first?_some hfound
    simp only [Bool.and_eq_true, beq_iff_eq] at hmatch
    exact ⟨row, hrow, hmatch.2⟩
  | none =>
    refine ⟨prospect.contact email (prospect.accountId s) now, ?_, rfl⟩
    simp

/-- The target an import uses is the one of an earlier import, or stands for the contact of this
one. -/
theorem imported_target (now : Time) (s : Store) :
    ∃ target, (prospect.imported email now s).crmTargets[prospect.targetId s]? = some target ∧
      ((∃ id, prospect.targetFound s = some (id, target)) ∨
        prospect.targetFound s = none ∧
          target.contact? s = some (prospect.contactId email s)) := by
  unfold CrmProspect.imported CrmProspect.targetId
  cases hfound : prospect.targetFound s with
  | some found =>
    obtain ⟨id, target⟩ := found
    obtain ⟨hrow, -⟩ := Table.first?_some hfound
    exact ⟨target, hrow, Or.inl ⟨id, rfl⟩⟩
  | none =>
    refine ⟨prospect.target (prospect.contactId email s) now, ?_, Or.inr ⟨rfl, ?_⟩⟩
    · simp
    · simp [CrmTarget.contact?, CrmProspect.target]

theorem imported_valid {rt : Runtime} (hok : w.store.constraintsOk = true)
    (hfree : (prospect.accountFree w.store && prospect.contactFree email w.store) = true) :
    (prospect.imported email rt.now w.store).constraintsOk = true := by
  have hrun := importProspect_run rt prospect email hok
  rw [if_pos hfree] at hrun
  have hvalid : (after (importProspect rt prospect email) w).store.constraintsOk = true :=
    Lib.sessionScope_valid hok
  rw [after, hrun] at hvalid
  exact hvalid

/-- Every call leaves the constraints intact. -/
theorem importStep_valid (hok : w.store.constraintsOk = true) (call : ImportCall) :
    (importStep w call).store.constraintsOk = true := by
  unfold importStep
  cases hsubject : call.subject with
  | none =>
    obtain ⟨e, hrun⟩ := import_refused (w := w) hsubject
    rw [after, hrun]
    exact hok
  | some subject =>
    obtain ⟨prospect, email⟩ := subject
    cases hfree : prospect.accountFree w.store && prospect.contactFree email w.store with
    | false =>
      rw [after, import_run hsubject hok, if_neg (by simp [hfree])]
      exact hok
    | true =>
      rw [after, import_run hsubject hok, if_pos hfree]
      exact createSequenceEnrollment_valid (imported_valid hok hfree)

/-- An enrollment of what the import stored is for the right contact when the target stands
for it. -/
theorem imported_enrolled_iff {row : SequenceEnrollment} {now : Time} {s : Store}
    (hcontact : row.contactId = prospect.contactId email s)
    (htarget : row.crmTargetId = prospect.targetId s) :
    Enrolled email (prospect.imported email now s).enrollments.length
        (insertEnrollment row (prospect.imported email now s)) ↔
      ∀ id target, prospect.targetFound s = some (id, target) →
        target.contact? s = some (prospect.contactId email s) := by
  rw [enrolled_added, hcontact, htarget]
  obtain ⟨contact, hstored, hemail⟩ := @imported_contact _ prospect email now s
  obtain ⟨used, hused, hwhose⟩ := @imported_target _ prospect email now s
  have hsame (target : CrmTarget) :
      target.contact? (prospect.imported email now s) = target.contact? s := rfl
  constructor
  · rintro ⟨-, target, -, -, hrow, hperson⟩ id old hold
    cases hused.symm.trans hrow
    obtain ⟨other, hother⟩ | ⟨hnone, -⟩ := hwhose
    · cases hold.symm.trans hother
      exact (hsame _).symm.trans hperson
    · cases hold.symm.trans hnone
  · intro hearlier
    refine ⟨contact, used, hstored, hemail, hused, ?_⟩
    rw [hsame]
    obtain ⟨id, hold⟩ | ⟨-, hown⟩ := hwhose
    · exact hearlier id used hold
    · exact hown

/-- A call keeps what is asked of it exactly when it is safe where it starts. -/
theorem import_kept_iff (hok : w.store.constraintsOk = true) :
    ImportKept call w ↔ ImportSafe call w.store := by
  unfold ImportKept ImportSafe
  apply forall_congr'
  intro prospect
  apply forall_congr'
  intro email
  apply imp_congr_right
  intro hsubject
  rw [import_run hsubject hok, importProspect_run call.rt prospect email hok]
  cases hfree : prospect.accountFree w.store && prospect.contactFree email w.store with
  | false =>
    constructor
    · rintro ⟨hstored, -⟩
      exact absurd rfl (hstored w)
    · rintro ⟨haccount, hcontact, -⟩
      simp [haccount, hcontact] at hfree
  | true =>
    have hvalid := @imported_valid _ prospect email w call.rt hok hfree
    obtain ⟨haccount, hcontact⟩ := Bool.and_eq_true_iff.mp hfree
    simp only [haccount, hcontact, true_and, if_true, ne_eq, reduceCtorEq, not_false_eq_true,
      implies_true]
    have happroved : (call.enrollment prospect email w.store).outreachApproved = true := rfl
    have hnamed : (call.enrollment prospect email w.store).contactId =
        some (prospect.contactId email w.store) := rfl
    have hkeys : (prospect.imported email call.rt.now w.store).enrollments =
        w.store.enrollments := rfl
    generalize hworld :
      ({ w with store := prospect.imported email call.rt.now w.store } : DbWorld) = mid
    have hmid : mid.store = prospect.imported email call.rt.now w.store := by rw [← hworld]
    rw [← hmid] at hvalid hkeys ⊢
    cases hfound : w.store.enrollments.first? (·.idempotencyKey == call.idempotencyKey) with
    | some found =>
      obtain ⟨e, row⟩ := found
      rw [createSequenceEnrollment_found happroved hvalid (by rw [hkeys]; exact hfound)]
      constructor
      · intro hkept
        exact hkept e _ rfl
      · intro hsafe e' v hreturn
        cases hreturn
        exact hsafe
    | none =>
      have hrun := @createSequenceEnrollment_run _ call.rt
        (call.enrollment prospect email w.store) call.actor call.idempotencyKey mid
        (prospect.contactId email w.store) happroved hvalid hnamed (by rw [hkeys]; exact hfound)
      cases hopens : (call.enrollment prospect email w.store).opens call.rt
          (prospect.contactId email w.store) mid.store with
      | false =>
        rw [if_neg (by simp [hopens])] at hrun
        obtain ⟨e, hrun⟩ := hrun
        simp [hrun]
      | true =>
        rw [if_pos hopens] at hrun
        obtain ⟨row, hrowContact, hrowTarget, hrun⟩ := hrun
        have hiff := @imported_enrolled_iff _ prospect email row call.rt.now w.store
          hrowContact hrowTarget
        rw [← hmid] at hiff
        rw [hrun]
        simp only [forall_true_left]
        rw [← hiff]
        constructor
        · intro hkept
          exact hkept _ _ rfl
        · intro hsafe e v hreturn
          cases hreturn
          exact hsafe

/-- In a run of imports, each call keeps what is asked of it exactly when each is safe where it
starts. -/
theorem imports_kept_iff (hok : w.store.constraintsOk = true) (calls : List ImportCall) :
    (∀ before call after, calls = before ++ call :: after →
        ImportKept call (run importStep w before)) ↔
      Admissible importStep (fun w call => ImportSafe call w.store) w calls := by
  induction calls generalizing w with
  | nil => simp [Admissible]
  | cons first rest ih =>
    rw [Admissible, ← import_kept_iff hok, ← ih (importStep_valid hok first)]
    constructor
    · intro hall
      refine ⟨hall [] first rest rfl, ?_⟩
      intro before call after hsplit
      have hcall := hall (first :: before) call after (by rw [hsplit, List.cons_append])
      rwa [run_cons] at hcall
    · rintro ⟨hfirst, hrest⟩ before call after hsplit
      cases before with
      | nil =>
        cases hsplit
        exact hfirst
      | cons head before =>
        obtain ⟨rfl, hrestSplit⟩ := List.cons.inj hsplit
        rw [run_cons]
        exact hrest before call after hrestSplit

end Calls

/-! The CRM changes the address of a prospect between two imports. -/

def adaAt (email : String) : CrmProspect where
  providerRecordId := "p1"
  displayName := "Ada"
  email := some email

def importOf (email idempotencyKey : String) : ImportCall where
  rt := { now := 0 }
  crm := {
    getProspect := fun _ => .ok (some (adaAt email))
    searchProspects := fun _ => .ok [] }
  request := {
    sequenceId := 0
    providerRecordId := "p1"
    outreachApproved := true
    approvalReason := "approved" }
  actor := "op"
  idempotencyKey := idempotencyKey

/-- No prospect was imported yet. -/
def importWorld : DbWorld where
  store := {
    sequences := [SequenceCreateRequest.row { name := "intro", steps := [] } 0 none]
    steps := stepRows [{}] 0 1 }
  external := {}

/-- The second import of a prospect whose address changed takes an identifier twice. -/
theorem changed_address_refused :
    ¬ ∀ (providerRecordId : String) (w : DbWorld) (calls : List ImportCall),
        w.store.constraintsOk = true →
        (∀ call ∈ calls, call.request.providerRecordId = providerRecordId) →
        ∀ before call after, calls = before ++ call :: after →
          ImportKept call (run importStep w before) := by
  intro hall
  have hkept := hall "p1" importWorld
    [importOf "ada@acme.example" "k1", importOf "ada@new.example" "k2"] (by decide)
    (by simp [importOf]) [importOf "ada@acme.example" "k1"] (importOf "ada@new.example" "k2") [] rfl
  obtain ⟨hstored, -⟩ := hkept _ _ rfl
  refine hstored _ ((importProspect_run _ _ _ ?_).trans (if_neg ?_))
  · decide +kernel
  · decide +kernel

/-- The store of the first import. -/
def importedStore : Store :=
  (importStep importWorld (importOf "ada@acme.example" "k1")).store

/-- A prospect that did not change is imported twice. -/
theorem same_address_imported :
    importWorld.store.constraintsOk = true ∧ ∀ before call after,
      [importOf "ada@acme.example" "k1", importOf "ada@acme.example" "k2"] =
        before ++ call :: after →
      ImportKept call (run importStep importWorld before) := by
  refine ⟨by decide, (imports_kept_iff (by decide) _).mpr ⟨?_, ?_, trivial⟩⟩
  · intro prospect email hsubject
    cases hsubject
    refine ⟨by decide +kernel, by decide +kernel, ?_⟩
    intro id target hfound
    cases hfound
  · intro prospect email hsubject
    cases hsubject
    refine ⟨by decide +kernel, by decide +kernel, ?_⟩
    have hnew : importedStore.enrollments.first? (·.idempotencyKey == "k2") = none := by
      decide +kernel
    have hearlier : (((adaAt "ada@acme.example").targetFound importedStore).all fun found =>
        found.2.contact? importedStore ==
          some ((adaAt "ada@acme.example").contactId "ada@acme.example" importedStore)) = true := by
      decide +kernel
    split
    · next hused => cases hnew.symm.trans hused
    · intro id target hfound _
      have htarget : (adaAt "ada@acme.example").targetFound importedStore = some (id, target) :=
        hfound
      rw [htarget] at hearlier
      exact beq_iff_eq.mp hearlier

end GhostRecon
