import GhostRecon.Meeting.Lifecycle

/-!
Three services decide whether an address may be contacted: governance answers
a check request, sequencing asks before every step and meetings before every
invite. Each has a copy of the rule of its own. On the email channel the copies
give one answer, and a new suppression never lifts a denial.
-/

namespace GhostRecon

open Lib (Id Table)

structure SuppressionCheckRequest where
  email : Option String := none
  domain : Option String := none
  contactId : Option Id := none
  channel : String := "email"
  deriving DecidableEq, Repr

section Rules

variable [Casing]

/-- The alternatives of the query; a missing or empty key adds none. -/
def SuppressionCheckRequest.clauses (request : SuppressionCheckRequest) :
    List (Suppression → Bool) :=
  (if truthy request.email then [fun row => row.email == request.email.map lower] else []) ++
    (if truthy request.domain then [fun row => row.domain == request.domain.map lower] else []) ++
    (if request.contactId.isSome then [fun row => row.contactId == request.contactId] else [])

/-- The rules that always apply, then the stored suppressions. -/
def evaluateSuppressionWithStore (now : Time) (request : SuppressionCheckRequest) (s : Store) :
    SuppressionCheckResult :=
  let baseline := evaluateSuppression request.email request.channel
  if !baseline.allowed then baseline
  else if request.clauses.isEmpty then baseline
  else
    match s.suppressions.first? fun row =>
        row.inForce now request.channel && request.clauses.any (· row) with
    | none => baseline
    | some (_, row) => { allowed := false, reason := some row.reason }

theorem SuppressionCheckRequest.clauses_any (request : SuppressionCheckRequest)
    (row : Suppression) :
    request.clauses.any (· row) =
      (row.matchesEmail request.email || row.matchesDomain request.domain ||
        row.matchesContact request.contactId) := by
  unfold SuppressionCheckRequest.clauses Suppression.matchesEmail Suppression.matchesDomain
    Suppression.matchesContact
  cases truthy request.email <;> cases truthy request.domain <;>
    cases request.contactId.isSome <;> simp [Bool.or_assoc]

/-- Governance decides as sequencing does. -/
theorem evaluateSuppressionWithStore_eq (now : Time) (request : SuppressionCheckRequest)
    (s : Store) :
    evaluateSuppressionWithStore now request s =
      suppressionDecision now request.email request.domain request.contactId request.channel
        s := by
  have hblocks : (fun row : Suppression =>
      row.inForce now request.channel && request.clauses.any (· row)) =
        fun row => row.blocks now request.email request.domain request.contactId
          request.channel := by
    funext row
    rw [request.clauses_any, Suppression.blocks]
  unfold evaluateSuppressionWithStore suppressionDecision
  dsimp only
  rw [hblocks]
  split
  · rfl
  · split
    · next hempty =>
      have hnone : s.suppressions.first? (·.blocks now request.email request.domain
          request.contactId request.channel) = none := by
        apply Table.first?_none.mpr
        intro row _
        rw [Suppression.blocks, ← request.clauses_any, List.isEmpty_iff.mp hempty]
        simp
      rw [hnone]
    · rfl

/-- The text before the at-sign does not depend on the case of the address. -/
theorem localPart_lower (email : String) : localPart (lower email) = localPart email := by
  unfold localPart beforeFirst
  by_cases h : '@' ∈ email.toList
  · obtain ⟨front, back, hsplit, hfront⟩ := List.eq_append_cons_of_mem h
    have hemail : email = String.ofList front ++ "@" ++ String.ofList back := by
      apply String.toList_injective
      simp [String.toList_append, hsplit]
    have htake : ∀ before after : String, '@' ∉ before.toList →
        (before ++ "@" ++ after).toList.takeWhile (fun c => decide (c ≠ '@')) =
          before.toList := by
      intro before after hbefore
      have hall : ∀ c ∈ before.toList, decide (c ≠ '@') = true := by
        intro c hc
        simpa using fun heq : c = '@' => hbefore (heq ▸ hc)
      have hlist : (before ++ "@" ++ after).toList =
          before.toList ++ '@' :: after.toList := by
        simp [String.toList_append]
      rw [hlist, List.takeWhile_append_of_pos hall, List.takeWhile_cons_of_neg (by simp)]
      simp
    have hplain : '@' ∉ (String.ofList front).toList := by simpa using hfront
    rw [hemail, Casing.lower_at, htake _ _ hplain, htake _ _ (Casing.lower_no_at _ hplain)]
    simp
  · have htake : ∀ text : String, '@' ∉ text.toList →
        text.toList.takeWhile (fun c => decide (c ≠ '@')) = text.toList := by
      intro text htext
      apply List.takeWhile_eq_self_iff.mpr
      intro c hc
      simpa using fun heq : c = '@' => htext (heq ▸ hc)
    rw [htake email h, htake _ (Casing.lower_no_at email h)]
    simp

theorem lower_empty : lower "" = "" :=
  Casing.lower_plain "" (by decide)

/-- The baseline rules do not depend on the case of the address. -/
theorem evaluateSuppression_lower {email : String} (hemail : email ≠ "") (channel : String) :
    evaluateSuppression (some (lower email)) channel =
      evaluateSuppression (some email) channel := by
  have htruthy : truthy (some email) = true := by simpa [truthy] using hemail
  unfold evaluateSuppression
  simp only [Option.map_some, Option.any_some, localPart_lower, htruthy, Bool.true_and]
  by_cases hlower : lower email = ""
  · have hlocal : localPart email = "" := by
      rw [← localPart_lower, hlower]
      exact lower_empty
    simp [hlower, hlocal, truthy, roleBasedPrefixes]
  · simp [truthy, hlower]

/-- The invite query looks for the rows that block the address. -/
theorem inviteSuppression?_eq (now : Time) {email : String} (hemail : email ≠ "")
    (contactId : Option Id) (s : Store) :
    inviteSuppression? now (lower email) contactId s =
      s.suppressions.first? (·.blocks now (some email) (domainFromEmail (some email)) contactId
        "email") := by
  have hchannel : lower "email" = "email" := Casing.lower_plain "email" (by decide)
  have htruthy : truthy (some email) = true := by simpa [truthy] using hemail
  have hdomain : (domainFromEmail (some email)).map lower = domainFromEmail (some email) := by
    unfold domainFromEmail
    dsimp only
    split <;> simp
  unfold inviteSuppression?
  dsimp only
  congr 1
  funext row
  simp only [Suppression.blocks, Suppression.inForce, Suppression.matchesEmail,
    Suppression.matchesDomain, Suppression.matchesContact, domainFromEmail_lower, hchannel,
    htruthy, hdomain, Bool.true_and, Option.map_some]

/-- The check request for an address and the contact it belongs to. -/
def checkRequest (email : String) (contact : Option (Id × Contact)) :
    SuppressionCheckRequest where
  email := some email
  domain := domainFromEmail (some email)
  contactId := contact.map Prod.fst

/-- The invited contact is the one with the address. -/
theorem invited_contact {email : String} (hemail : email ≠ "") {contact : Option (Id × Contact)}
    (hcontact : ∀ id row, contact = some (id, row) → row.email = some email) :
    (contact.bind fun (id, row) =>
      if truthy row.email ∧ row.email.map lower = some (lower email) then some id else none) =
        contact.map Prod.fst := by
  have htruthy : truthy (some email) = true := by simpa [truthy] using hemail
  cases contact with
  | none => rfl
  | some found =>
    obtain ⟨id, row⟩ := found
    simp [hcontact id row rfl, htruthy]

/-- An invite of the contact's own address is refused exactly when governance
denies it. -/
theorem ensureInviteAllowed_iff (rt : Runtime) (s : Store) {email : String}
    (hemail : email ≠ "") {contact : Option (Id × Contact)}
    (hcontact : ∀ id row, contact = some (id, row) → row.email = some email)
    {attendee : MeetingAttendee} (hattendee : lower attendee.email = lower email) :
    ensureInviteAllowed rt contact s [attendee] = .ok () ↔
      (evaluateSuppressionWithStore rt.now (checkRequest email contact) s).allowed = true := by
  have hid := invited_contact hemail hcontact
  rw [evaluateSuppressionWithStore_eq]
  unfold ensureInviteAllowed suppressionDecision checkRequest
  simp only [hattendee, hid, evaluateSuppression_lower hemail,
    inviteSuppression?_eq rt.now hemail, ensureInviteAllowed]
  cases hbase : (evaluateSuppression (some email) "email").allowed with
  | false => simp [hbase]
  | true =>
    simp only [Bool.not_true, Bool.false_eq_true, if_false]
    cases s.suppressions.first? (·.blocks rt.now (some email) (domainFromEmail (some email))
        (contact.map Prod.fst) "email") with
    | none => simp [hbase]
    | some found => simp

section Monotone

variable (row : Suppression)

/-- A new row blocks at least what was blocked. -/
theorem suppressionDecision_keeps_denial {now : Time} {email domain : Option String}
    {contactId : Option Id} {channel : String} {s : Store}
    (h : (suppressionDecision now email domain contactId channel s).allowed = false) :
    (suppressionDecision now email domain contactId channel
      { s with suppressions := s.suppressions ++ [row] }).allowed = false := by
  rw [suppressionDecision_denies_iff] at h ⊢
  rcases h with hbase | ⟨found, hfound, hblocks⟩
  · exact Or.inl hbase
  · exact Or.inr ⟨found, List.mem_append_left [row] hfound, hblocks⟩

/-- An invite that no suppression bars was not barred before the last one. -/
theorem inviteSuppression?_clear {now : Time} {email : String} {contactId : Option Id} {s : Store}
    (hnone : inviteSuppression? now email contactId
      { s with suppressions := s.suppressions ++ [row] } = none) :
    inviteSuppression? now email contactId s = none := by
  unfold inviteSuppression? at hnone ⊢
  rw [Table.first?_none] at hnone ⊢
  intro found hfound
  exact hnone found (List.mem_append_left [row] hfound)

/-- Invites that were refused stay refused. -/
theorem ensureInviteAllowed_keeps_denial (rt : Runtime) (contact : Option (Id × Contact))
    {s : Store} (attendees : List MeetingAttendee)
    (h : ensureInviteAllowed rt contact { s with suppressions := s.suppressions ++ [row] }
      attendees = .ok ()) : ensureInviteAllowed rt contact s attendees = .ok () := by
  induction attendees with
  | nil => rfl
  | cons attendee rest ih =>
    unfold ensureInviteAllowed at h ⊢
    dsimp only at h ⊢
    split
    · next hbase =>
      rw [if_pos hbase] at h
      cases h
    · next hbase =>
      rw [if_neg hbase] at h
      split at h
      · cases h
      · next hnone =>
        rw [inviteSuppression?_clear row hnone]
        exact ih h

end Monotone

end Rules

/-- A contact of a suppressed domain, known under another letter case. -/
def corpAda : Option (Id × Contact) :=
  some (0, { fullName := "Ada", email := some "Ada@Corp.example" })

def corpSuppressed : Store where
  suppressions := [{ domain := some "corp.example", reason := "opt out", source := "governance" }]

end GhostRecon
