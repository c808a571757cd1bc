import GhostRecon.Sequencing.Unsubscribes

/-!
Whom an unsubscribe reaches. The row it stores carries the address and the mail
domain of the address, and a row denies whoever matches one of its keys. So an
unsubscribe also answers for the colleagues in the domain, on its own channel;
every other address is answered as before.
-/

namespace GhostRecon

open Lib (Id Table after query write)
open Std.Do

set_option mvcgen.warning false

section Decision

variable [Casing]

/-- A new row changes the decision exactly for those allowed so far whom it
blocks. -/
theorem suppressionDecision_concat {now : Time} {email domain : Option String}
    {contactId : Option Id} {channel : String} {s s' : Store} {row : Suppression}
    (hrows : s'.suppressions = s.suppressions ++ [row]) :
    suppressionDecision now email domain contactId channel s' =
      if (suppressionDecision now email domain contactId channel s).allowed ∧
          row.blocks now email domain contactId channel then
        { allowed := false, reason := some row.reason }
      else suppressionDecision now email domain contactId channel s := by
  unfold suppressionDecision
  cases hbase : (evaluateSuppression email channel).allowed with
  | false => simp [hbase]
  | true =>
    simp only [hbase, Bool.not_true, Bool.false_eq_true, if_false, hrows]
    cases hfound : s.suppressions.first? (·.blocks now email domain contactId channel) with
    | some found =>
      rw [Table.first?_of_prefix (List.prefix_append _ _) hfound]
      simp
    | none =>
      cases hblocks : row.blocks now email domain contactId channel with
      | false =>
        have hmore : ∀ other ∈ [row], other.blocks now email domain contactId channel = false := by
          intro other hother
          rw [List.mem_singleton.mp hother]
          exact hblocks
        rw [Table.first?_append_none hmore, hfound]
        simp
      | true =>
        have hmem : row ∈ s.suppressions ++ [row] := by simp
        obtain ⟨⟨i, found⟩, hhit⟩ := Table.first?_isSome_of_mem
          (p := fun other => other.blocks now email domain contactId channel) hmem hblocks
        have hnew : found = row := by
          obtain ⟨hget, hmatch⟩ := Table.first?_some hhit
          rcases Table.get_concat hget with hold | ⟨-, rfl⟩
          · rw [Table.first?_none.mp hfound found (List.mem_of_getElem? hold)] at hmatch
            cases hmatch
          · rfl
        rw [hhit, hnew]
        simp [hbase]

/-- Only the suppressions decide. -/
theorem suppressionAllowed_congr {rt : Runtime} {email domain : Option String}
    {contactId : Option Id} {channel : String} {s s' : Store}
    (hrows : s'.suppressions = s.suppressions) :
    suppressionAllowed rt email domain contactId channel s' =
      suppressionAllowed rt email domain contactId channel s := by
  simp only [suppressionAllowed, suppressionDecision, hrows]

/-- Whom the row of an unsubscribe blocks besides the address itself: those
asked for by the same mail domain on the same channel. -/
theorem unsubscribeSuppression_blocks_iff (now time : Time) (channel reason channel' : String)
    (domain : Option String) (contactId : Option Id) {email other : String}
    (hother : lower other ≠ lower email) :
    (unsubscribeSuppression time email channel reason).blocks now (some other) domain contactId
        channel' = true ↔
      lower channel' = lower channel ∧ truthy domain = true ∧
        domainFromEmail (some email) = domain.map lower := by
  have hemail : (some (lower email) == (some other).map lower) = false := by
    simpa using Ne.symm hother
  have hcontact : (contactId.isSome && (none == contactId)) = false := by
    cases contactId <;> rfl
  simp only [Suppression.blocks, Suppression.inForce, Suppression.matchesEmail,
    Suppression.matchesDomain, Suppression.matchesContact, unsubscribeSuppression, hemail,
    hcontact, Option.all_none, Bool.and_true, Bool.true_and, Bool.and_false, Bool.false_or,
    Bool.or_false, Bool.and_eq_true, beq_iff_eq]
  constructor
  · rintro ⟨hchannel, htruthy, hdomain⟩
    exact ⟨hchannel.symm, htruthy, hdomain⟩
  · rintro ⟨hchannel, htruthy, hdomain⟩
    exact ⟨hchannel.symm, htruthy, hdomain⟩

end Decision

section Event

variable [Casing]

/-- The event puts a suppression of its own into the table. -/
def unsubscribeStores (request : InboundEmailEventCreate) (key : String) (s : Store) : Bool :=
  request.address != "" && (s.inboundEvents.first? (·.idempotencyKey == key)).isNone &&
    unsubscribeFits request key &&
    (activeSuppression? s request.address request.channel).isNone &&
    unsubscribeInsertable request s

omit [Casing] in
theorem recordUnsubscribe_suppressions {now : Time} {event : Id} {enrollment : Option Id}
    {s : Store} : (recordUnsubscribe now event enrollment s).suppressions = s.suppressions := by
  cases enrollment <;> rfl

/-- What the store a new unsubscribe event asks to commit has suppressed. -/
theorem unsubscribeStore_suppressions {rt : Runtime} {request : InboundEmailEventCreate}
    {key : String} {s : Store} :
    (unsubscribeStore rt request key s).suppressions =
      if (activeSuppression? s request.address request.channel).isNone then
        s.suppressions ++
          [unsubscribeSuppression rt.now request.address request.channel request.reason]
      else s.suppressions := by
  have hsame : activeSuppression? (insertInboundEvent (unsubscribeRow rt request key s) s)
      request.address request.channel =
        activeSuppression? s request.address request.channel := rfl
  rw [unsubscribeStore, recordUnsubscribe_suppressions, unsubscribeSuppressions, hsame]
  cases activeSuppression? s request.address request.channel <;> rfl

/-- An unsubscribe event without an address suppresses nothing. -/
theorem processInbound_anonymous {rt : Runtime} {request : InboundEmailEventCreate}
    {key : String} {w : DbWorld} (htype : request.eventType = .unsubscribe)
    (haddress : request.address = "") :
    (after (processInboundEmailEvent rt request key) w).store.suppressions =
      w.store.suppressions := by
  refine (Lib.sessionScope_keeps
    (I := fun s : Store => s.suppressions = w.store.suppressions) rfl ?_).1
  mvcgen [flush, Lib.flush]
  all_goals subst_vars
  all_goals first
    | rfl
    | exact recordUnsubscribe_suppressions
    | simp_all

/-- The suppressions an unsubscribe event leaves. -/
theorem processInbound_suppressions (rt : Runtime) {request : InboundEmailEventCreate}
    (key : String) {w : DbWorld} (hreach : ReachableWorld w)
    (htype : request.eventType = .unsubscribe) :
    (after (processInboundEmailEvent rt request key) w).store.suppressions =
      if unsubscribeStores request key w.store then
        w.store.suppressions ++
          [unsubscribeSuppression rt.now request.address request.channel request.reason]
      else w.store.suppressions := by
  unfold unsubscribeStores
  by_cases haddress : request.address = ""
  · rw [processInbound_anonymous htype haddress, haddress]
    simp
  · cases hkey : w.store.inboundEvents.first? (·.idempotencyKey == key) with
    | some found =>
      have hrun : processInboundEmailEvent rt request key w = .ok found.1 w := by
        simp only [processInboundEmailEvent, sessionScope, Lib.sessionScope_run, Lib.bind_run,
          Lib.query_run, hkey, Lib.pure_run, hreach.constraints, if_true]
      simp [after, hrun]
    | none =>
      have hcommits := unsubscribeStore_constraints rt request hreach.constraints
        hreach.anchored hkey
      rw [after, processInbound_unsubscribe htype haddress hkey]
      cases hvalid : (unsubscribeStore rt request key w.store).constraintsOk with
      | false =>
        have hrefused := mt hcommits.mpr (by simp [hvalid])
        cases hactive : activeSuppression? w.store request.address request.channel <;>
          simp_all
      | true =>
        obtain ⟨hfits, hinsertable⟩ := hcommits.mp hvalid
        simp only [if_true, unsubscribeStore_suppressions]
        cases hactive : activeSuppression? w.store request.address request.channel <;>
          simp_all

/-- The answer about an address after someone else's unsubscribe is the one
before it, but for an address of the same mail domain on the same channel: if the
event stores a row of its own and the address was allowed so far, it is denied. -/
theorem unsubscribe_reaches_domain (rt rt' : Runtime) (request : InboundEmailEventCreate)
    (key : String) (w : DbWorld) (other : String) (contactId : Option Id) (channel : String)
    (hreach : ReachableWorld w) (htype : request.eventType = .unsubscribe)
    (hother : lower other ≠ request.address) :
    suppressionAllowed rt' (some other) (domainFromEmail (some other)) contactId channel
        (after (processInboundEmailEvent rt request key) w).store =
      if unsubscribeStores request key w.store ∧ lower channel = lower request.channel ∧
          truthy (domainFromEmail (some other)) ∧
          domainFromEmail (some other) = domainFromEmail (some request.address) then
        (suppressionAllowed rt' (some other) (domainFromEmail (some other)) contactId channel
          w.store).map fun result =>
            if result.allowed then { allowed := false, reason := some request.reason } else result
      else suppressionAllowed rt' (some other) (domainFromEmail (some other)) contactId channel
        w.store := by
  have hrows := processInbound_suppressions rt key hreach htype
  cases hstores : unsubscribeStores request key w.store with
  | false =>
    rw [hstores] at hrows
    simpa using suppressionAllowed_congr hrows
  | true =>
    rw [hstores, if_pos rfl] at hrows
    have haddress : lower request.address = request.address := by
      simp [InboundEmailEventCreate.address]
    have hdomain : (domainFromEmail (some other)).map lower = domainFromEmail (some other) := by
      unfold domainFromEmail
      split <;> simp
    have hblocks := unsubscribeSuppression_blocks_iff rt'.now rt.now request.channel
      request.reason channel (domainFromEmail (some other)) contactId
      (haddress.symm ▸ hother : lower other ≠ lower request.address)
    rw [hdomain] at hblocks
    unfold suppressionAllowed
    cases hvalid : (some other).all rt'.validEmail with
    | false => simp [Except.map]
    | true =>
      simp only [if_true, suppressionDecision_concat hrows, Except.map, hblocks, true_and,
        eq_comm (a := domainFromEmail (some request.address))]
      by_cases hshares : lower channel = lower request.channel ∧
          truthy (domainFromEmail (some other)) = true ∧
          domainFromEmail (some other) = domainFromEmail (some request.address)
      · rw [if_pos hshares]
        simp only [and_iff_left hshares, unsubscribeSuppression]
      · rw [if_neg hshares, if_neg fun h => hshares h.2]

end Event

section Colleague

/-- Bob works where ada does; nobody has suppressed him. -/
def bobAllowed (s : Store) : Option Bool :=
  (suppressionAllowed { now := 30 } (some "bob@corp.example")
    (domainFromEmail (some "bob@corp.example")) (some 7) "email" s).toOption.map (·.allowed)

/-- Ada's unsubscribe answers for her colleague bob, who was allowed until then. -/
theorem colleague_denied :
    ReachableWorld deployment ∧ adaUnsubscribes.eventType = .unsubscribe ∧
      lower "bob@corp.example" ≠ adaUnsubscribes.address ∧
      bobAllowed deployment.store = some true ∧
      bobAllowed (after (processInboundEmailEvent { now := 20 } adaUnsubscribes "unsubscribe:1")
        deployment).store = some false := by
  refine ⟨⟨deployment, [], deployment_initial, rfl⟩, rfl, ?_, ?_, ?_⟩
  · decide +kernel
  · decide +kernel
  · decide +kernel

/-- An address elsewhere is answered as before. -/
theorem stranger_answered_as_before :
    suppressionAllowed { now := 30 } (some "bob@other.example")
        (domainFromEmail (some "bob@other.example")) (some 7) "email"
        (after (processInboundEmailEvent { now := 20 } adaUnsubscribes "unsubscribe:1")
          deployment).store =
      suppressionAllowed { now := 30 } (some "bob@other.example")
        (domainFromEmail (some "bob@other.example")) (some 7) "email" deployment.store := by
  have hanswer := unsubscribe_reaches_domain { now := 20 } { now := 30 } adaUnsubscribes
    "unsubscribe:1" deployment "bob@other.example" (some 7) "email"
    ⟨deployment, [], deployment_initial, rfl⟩ rfl (by decide +kernel)
  have hapart : domainFromEmail (some "bob@other.example") ≠
      domainFromEmail (some adaUnsubscribes.address) := by decide +kernel
  rw [hanswer, if_neg]
  rintro ⟨-, -, -, hdomain⟩
  exact hapart hdomain

end Colleague

end GhostRecon
