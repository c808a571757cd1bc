import GhostRecon.Sequencing.Operations

/-!
How long an unsubscribe lasts. Suppressions are only ever inserted, so once a
row for the address and channel is stored that is active and never expires, no
later call makes the address reachable again. The writer however takes any
active row for an existing suppression, also one that will expire, and gives
its own row a fixed key; the condition under which an unsubscribe lasts says
exactly which stored rows, keys and texts that leaves.
-/

namespace GhostRecon

open Lib (Id Table Chain after)

section Constraints

/-! What the rows an unsubscribe writes add to the constraints. -/

theorem insertInboundEvent_constraints {s : Store} {row : InboundEmailEvent} :
    (insertInboundEvent row s).constraintsOk = true ↔
      s.constraintsOk = true ∧
        (∀ old ∈ s.inboundEvents, old.idempotencyKey ≠ row.idempotencyKey) ∧
        row.fits = true := by
  have hunique : Table.uniqueOn (s.inboundEvents ++ [row])
      (fun row => some row.idempotencyKey) = true ↔ _ := Table.uniqueOn_concat
  simp only [Store.constraintsOk, Store.keysOk, Store.widthsOk, insertInboundEvent,
    Bool.and_eq_true, hunique, List.all_append, List.all_cons, List.all_nil, Bool.and_true,
    Option.some.injEq, forall_eq', ne_eq]
  grind

theorem insertSuppression_constraints {s : Store} {row : Suppression} :
    (insertSuppression row s).constraintsOk = true ↔
      s.constraintsOk = true ∧
        (∀ key, row.idempotencyKey = some key →
          ∀ old ∈ s.suppressions, old.idempotencyKey ≠ some key) ∧
        row.fits = true ∧
        ∀ old ∈ s.outbox,
          old.idempotencyKey ≠ .once .suppressionCreated s.suppressions.length := by
  have hunique : Table.uniqueOn (s.suppressions ++ [row]) (·.idempotencyKey) = true ↔ _ :=
    Table.uniqueOn_concat
  rw [insertSuppression, enqueueEvent_constraints]
  simp only [Store.constraintsOk, Store.keysOk, Store.widthsOk, Bool.and_eq_true, hunique,
    List.all_append, List.all_cons, List.all_nil, Bool.and_true]
  grind

theorem insertSuppressionEvent_constraints {s : Store} {row : SequenceSuppressionEvent} :
    (s.insertSuppressionEvent row).constraintsOk = true ↔
      s.constraintsOk = true ∧ row.fits = true := by
  simp only [Store.constraintsOk, Store.keysOk, Store.widthsOk, Store.insertSuppressionEvent,
    Bool.and_eq_true, List.all_append, List.all_cons, List.all_nil, Bool.and_true]
  grind

theorem updateEnrollment_constraints {s : Store} {e : Id}
    {f : SequenceEnrollment → SequenceEnrollment}
    (hkey : ∀ row, (f row).idempotencyKey = row.idempotencyKey) :
    (s.updateEnrollment e f).constraintsOk = s.constraintsOk := by
  have hunique : Table.uniqueOn (s.enrollments.modify e f)
      (fun row => some row.idempotencyKey) =
        s.enrollments.uniqueOn (fun row => some row.idempotencyKey) :=
    Table.uniqueOn_modify fun row => congrArg some (hkey row)
  simp only [Store.updateEnrollment, Store.constraintsOk, Store.keysOk, Store.widthsOk, hunique]

theorem suppressUnsubscribed_constraints {s : Store} {now : Time} {e : Option Id} :
    (suppressUnsubscribed now e s).constraintsOk = s.constraintsOk := by
  cases e with
  | none => rfl
  | some e => exact updateEnrollment_constraints fun _ => rfl

end Constraints

section Growth

/-- Every outbox key that names a row of its own table names a stored one. -/
def OutboxAnchored (s : Store) : Prop :=
  ∀ event ∈ s.outbox, event.anchored s

theorem Aside.keeps_anchored {s s' : Store} (h : Aside s s') (hs : OutboxAnchored s) :
    OutboxAnchored s' := by
  intro event hevent
  rcases h.outbox event hevent with hold | hnew
  · exact OutboxEvent.anchored_mono (hs event hold) h.inboundEvents h.suppressions
  · exact hnew

theorem Write.keeps_anchored {label : Label} {s s' : Store} (h : Write label s s')
    (hs : OutboxAnchored s) : OutboxAnchored s' := by
  cases h with
  | aside h _ => exact h.keeps_anchored hs
  | prospects h => exact h.keeps_anchored hs
  | draft _ _ _ => exact hs
  | mail _ => exact hs
  | enroll _ => exact hs
  | enrollment _ _ _ _ => exact hs
  | openActivity _ => exact hs
  | activity _ _ _ => exact hs

theorem Write.suppressions_grow {label : Label} {s s' : Store} (h : Write label s s') :
    s.suppressions <+: s'.suppressions := by
  cases h with
  | aside h _ => exact h.suppressions
  | prospects h => exact h.suppressions
  | draft _ _ _ => exact List.prefix_rfl
  | mail _ => exact List.prefix_rfl
  | enroll _ => exact List.prefix_rfl
  | enrollment _ _ _ _ => exact List.prefix_rfl
  | openActivity _ => exact List.prefix_rfl
  | activity _ _ _ => exact List.prefix_rfl

variable [Casing]

/-- No call removes or rewrites a suppression. -/
theorem runCalls_suppressions_grow (w : DbWorld) (calls : List Call) :
    w.store.suppressions <+: (runCalls w calls).store.suppressions := by
  have hall : Lib.Admissible step (fun _ _ => True) w calls :=
    Lib.admissible_of_forall (fun _ _ => trivial) w calls
  refine Lib.run_relates
    (R := fun w w' : DbWorld => w.store.suppressions <+: w'.store.suppressions)
    (fun _ => List.prefix_rfl) List.IsPrefix.trans ?_ hall
  intro v c _
  exact Chain.relates (R := fun s s' : Store => s.suppressions <+: s'.suppressions)
    (fun _ => List.prefix_rfl) List.IsPrefix.trans (fun _ h => h.suppressions_grow)
    (step_writes (admits_any v c))

theorem ReachableWorld.anchored {w : DbWorld} (h : ReachableWorld w) :
    OutboxAnchored w.store := by
  obtain ⟨init, calls, hinit, rfl⟩ := h
  have hall : Lib.Admissible step (fun _ _ => True) init calls :=
    Lib.admissible_of_forall (fun _ _ => trivial) init calls
  refine Lib.run_keeps (I := fun w : DbWorld => OutboxAnchored w.store) ?_ hall ?_
  · intro v c _ hv
    exact Chain.keeps (I := OutboxAnchored) (fun _ => Write.keeps_anchored)
      (step_writes (admits_any v c)) hv
  · intro event hevent
    rw [hinit.outbox] at hevent
    cases hevent

theorem ReachableWorld.constraints {w : DbWorld} (h : ReachableWorld w) :
    w.store.constraintsOk = true := by
  obtain ⟨init, calls, hinit, rfl⟩ := h
  have hall : Lib.Admissible step (fun _ _ => True) init calls :=
    Lib.admissible_of_forall (fun _ _ => trivial) init calls
  exact Lib.run_keeps (I := fun w : DbWorld => w.store.constraintsOk = true)
    (fun _ c _ hv => step_constraints c hv) hall hinit.constraints

end Growth

section Call

variable [Casing]

/-- The row an unsubscribe stores for its event. -/
def unsubscribeRow (rt : Runtime) (request : InboundEmailEventCreate) (key : String)
    (s : Store) : InboundEmailEvent :=
  request.row rt.now key ((linkedEnrollment s request).map Prod.fst)
    ((findOutboundForInbound s request).map Prod.fst)

/-- The suppression part of an unsubscribe. -/
def unsubscribeSuppressions (rt : Runtime) (request : InboundEmailEventCreate) (event : Id)
    (enrollment : Option Id) (s : Store) : Store :=
  match activeSuppression? s request.address request.channel with
  | some (i, _) =>
    s.insertSuppressionEvent
      (unsubscribeTrace enrollment i request.address request.channel request.reason event)
  | none =>
    (insertSuppression (unsubscribeSuppression rt.now request.address request.channel
      request.reason) s).insertSuppressionEvent
        (unsubscribeTrace enrollment s.suppressions.length request.address request.channel
          request.reason event)

/-- The store a new unsubscribe event asks the database to commit. -/
def unsubscribeStore (rt : Runtime) (request : InboundEmailEventCreate) (key : String)
    (s : Store) : Store :=
  recordUnsubscribe rt.now s.inboundEvents.length ((linkedEnrollment s request).map Prod.fst)
    (unsubscribeSuppressions rt request s.inboundEvents.length
      ((linkedEnrollment s request).map Prod.fst)
      (insertInboundEvent (unsubscribeRow rt request key s) s))

omit [Casing] in
theorem recordUnsubscribe_constraints {s : Store} {now : Time} {event : Id}
    {enrollment : Option Id} :
    (recordUnsubscribe now event enrollment s).constraintsOk = true ↔
      s.constraintsOk = true ∧
        ∀ old ∈ s.outbox, old.idempotencyKey ≠ .once .unsubscribeReceived event := by
  have houtbox : (suppressUnsubscribed now enrollment s).outbox = s.outbox := by
    cases enrollment <;> rfl
  rw [recordUnsubscribe, enqueueEvent_constraints, suppressUnsubscribed_constraints, houtbox]

theorem unsubscribeSuppressions_constraints {rt : Runtime} {request : InboundEmailEventCreate}
    {event : Id} {enrollment : Option Id} {s : Store}
    (h : (unsubscribeSuppressions rt request event enrollment s).constraintsOk = true) :
    s.constraintsOk = true := by
  unfold unsubscribeSuppressions at h
  split at h
  · exact (insertSuppressionEvent_constraints.mp h).1
  · exact (insertSuppression_constraints.mp (insertSuppressionEvent_constraints.mp h).1).1

/-- The run of `_create_unsubscribe_suppression`: its flush fails only when the
commit would. -/
theorem createUnsubscribeSuppression_run (rt : Runtime) (request : InboundEmailEventCreate)
    (event : Id) (enrollment : Option Id) (w : DbWorld) :
    createUnsubscribeSuppression rt request.address request.channel request.reason event
          enrollment w =
        .ok ⟨⟩ { w with store := unsubscribeSuppressions rt request event enrollment w.store } ∨
      (∃ w', createUnsubscribeSuppression rt request.address request.channel request.reason
          event enrollment w = .error .integrityError w' ∧ w'.external = w.external) ∧
        (unsubscribeSuppressions rt request event enrollment w.store).constraintsOk = false := by
  unfold createUnsubscribeSuppression unsubscribeSuppressions
  rw [Lib.bind_run, Lib.query_run]
  dsimp only
  cases hactive : activeSuppression? w.store request.address request.channel with
  | some found => exact Or.inl rfl
  | none =>
    simp only [Lib.bind_run, Lib.query_run, Lib.write_run, flush, Lib.flush_run]
    cases hvalid : (insertSuppression (unsubscribeSuppression rt.now request.address
      request.channel request.reason) w.store).constraintsOk with
    | true => exact Or.inl rfl
    | false =>
      refine Or.inr ⟨⟨_, rfl, rfl⟩, ?_⟩
      rw [Bool.eq_false_iff]
      intro hcommit
      have hearlier := (insertSuppressionEvent_constraints.mp hcommit).1
      rw [hvalid] at hearlier
      cases hearlier

/-- What the call does with a new unsubscribe event for an address: the checks
at its flushes are part of the one at commit. -/
theorem processInbound_unsubscribe {rt : Runtime} {request : InboundEmailEventCreate}
    {key : String} {w : DbWorld} (htype : request.eventType = .unsubscribe)
    (haddress : request.address ≠ "")
    (hfresh : w.store.inboundEvents.first? (·.idempotencyKey == key) = none) :
    processInboundEmailEvent rt request key w =
      if (unsubscribeStore rt request key w.store).constraintsOk then
        .ok w.store.inboundEvents.length
          { w with store := unsubscribeStore rt request key w.store }
      else .error .integrityError w := by
  have hcommit : (unsubscribeStore rt request key w.store).constraintsOk = true →
      (unsubscribeSuppressions rt request w.store.inboundEvents.length
        ((linkedEnrollment w.store request).map Prod.fst)
        (insertInboundEvent (unsubscribeRow rt request key w.store) w.store)).constraintsOk =
          true := by
    intro h
    exact (recordUnsubscribe_constraints.mp h).1
  simp only [processInboundEmailEvent, sessionScope, Lib.sessionScope_run, Lib.bind_run, Lib.query_run,
    hfresh, Lib.write_run, flush, Lib.flush_run, htype, haddress, ne_eq, not_false_eq_true, if_true,
    Lib.pure_run]
  cases hevent : (insertInboundEvent (unsubscribeRow rt request key w.store)
      w.store).constraintsOk with
  | false =>
    have hfalse : (unsubscribeStore rt request key w.store).constraintsOk = false := by
      rw [Bool.eq_false_iff]
      intro h
      have hearlier := unsubscribeSuppressions_constraints (hcommit h)
      rw [hevent] at hearlier
      cases hearlier
    unfold unsubscribeRow at hevent
    simp only [hevent, hfalse, Bool.false_eq_true, if_false]
  | true =>
    unfold unsubscribeRow at hevent
    simp only [hevent, if_true]
    rcases createUnsubscribeSuppression_run rt request w.store.inboundEvents.length
      ((linkedEnrollment w.store request).map Prod.fst)
      { w with store := insertInboundEvent (unsubscribeRow rt request key w.store) w.store }
      with hok | ⟨⟨w', hraise, hexternal⟩, hinvalid⟩
    · unfold unsubscribeRow at hok
      rw [hok]
      rfl
    · have hfalse : (unsubscribeStore rt request key w.store).constraintsOk = false := by
        rw [Bool.eq_false_iff]
        intro h
        have hearlier := hcommit h
        rw [hinvalid] at hearlier
        cases hearlier
      unfold unsubscribeRow at hraise
      rw [hraise, hfalse]
      dsimp only
      rw [hexternal]
      rfl
end Call

section Permanence

variable [Casing]

/-- The address is denied on the channel for good: by a rule that needs no
database, or by an active row that never expires. -/
def deniedForGood (email channel : String) (s : Store) : Bool :=
  !(evaluateSuppression (some email) channel).allowed ||
    s.suppressions.any fun row =>
      row.active && row.channel == lower channel && row.expiresAt.isNone &&
        row.email == some (lower email)

theorem deniedForGood_iff {email channel : String} {s : Store} :
    deniedForGood email channel s = true ↔
      (evaluateSuppression (some email) channel).allowed = false ∨
        ∃ row ∈ s.suppressions, row.active = true ∧ row.channel = lower channel ∧
          row.expiresAt = none ∧ row.email = some (lower email) := by
  simp [deniedForGood, and_assoc]

/-- Whom the query finds when only the address is asked for. -/
theorem blocks_email_iff {row : Suppression} {now : Time} {email channel : String}
    (hemail : email ≠ "") :
    row.blocks now (some email) none none channel = true ↔
      row.active = true ∧ row.channel = lower channel ∧ row.email = some (lower email) ∧
        ∀ expiry, row.expiresAt = some expiry → now < expiry := by
  cases hexpires : row.expiresAt <;>
    simp [Suppression.blocks, Suppression.inForce, Suppression.matchesEmail,
      Suppression.matchesDomain, Suppression.matchesContact, truthy, hemail, hexpires] <;>
    tauto

theorem denied_of_deniedForGood {email channel : String} {s : Store} (hemail : email ≠ "")
    (h : deniedForGood email channel s = true) (now : Time) :
    (suppressionDecision now (some email) none none channel s).allowed = false := by
  rw [suppressionDecision_denies_iff]
  rcases deniedForGood_iff.mp h with hbase | ⟨row, hmem, hactive, hchannel, hexpires, hrow⟩
  · exact Or.inl hbase
  · refine Or.inr ⟨row, hmem, (blocks_email_iff hemail).mpr ⟨hactive, hchannel, hrow, ?_⟩⟩
    intro expiry heq
    rw [hexpires] at heq
    cases heq

omit [Casing] in
/-- Finitely many expiries have all passed at some time. -/
theorem expiries_bounded (rows : List Suppression) :
    ∃ bound, ∀ row ∈ rows, ∀ expiry, row.expiresAt = some expiry → expiry ≤ bound := by
  induction rows with
  | nil => exact ⟨0, fun row hrow => by cases hrow⟩
  | cons first rest ih =>
    obtain ⟨bound, hbound⟩ := ih
    refine ⟨max bound (first.expiresAt.getD 0), ?_⟩
    intro row hrow expiry hexpiry
    rcases List.mem_cons.mp hrow with rfl | hrest
    · rw [hexpiry]
      exact le_max_right _ _
    · exact le_trans (hbound row hrest expiry hexpiry) (le_max_left _ _)

/-- Being denied from some time on takes a denial for good. -/
theorem deniedForGood_of_denied {email channel : String} {s : Store} (start : Time)
    (hemail : email ≠ "")
    (h : ∀ now, start ≤ now →
      (suppressionDecision now (some email) none none channel s).allowed = false) :
    deniedForGood email channel s = true := by
  obtain ⟨bound, hbound⟩ := expiries_bounded s.suppressions
  have hlate := h (max start bound) (le_max_left _ _)
  rw [suppressionDecision_denies_iff] at hlate
  rw [deniedForGood_iff]
  rcases hlate with hbase | ⟨row, hmem, hblocks⟩
  · exact Or.inl hbase
  · obtain ⟨hactive, hchannel, hrow, hexpiry⟩ := (blocks_email_iff hemail).mp hblocks
    refine Or.inr ⟨row, hmem, hactive, hchannel, ?_, hrow⟩
    cases hexpires : row.expiresAt with
    | none => rfl
    | some expiry =>
      have hfuture := hexpiry expiry hexpires
      have hpast := hbound row hmem expiry hexpires
      have hover := le_max_right start bound
      exact absurd (lt_of_lt_of_le hfuture (le_trans hpast hover)) (lt_irrefl _)

theorem deniedForGood_mono {email channel : String} {s s' : Store}
    (hgrow : s.suppressions <+: s'.suppressions) (h : deniedForGood email channel s = true) :
    deniedForGood email channel s' = true := by
  rw [deniedForGood_iff] at h ⊢
  rcases h with hbase | ⟨row, hmem, hrow⟩
  · exact Or.inl hbase
  · exact Or.inr ⟨row, hgrow.subset hmem, hrow⟩

/-- An unsubscribe lasts: the call commits, and from then on, whatever calls
follow, asking for the address on the channel answers that it is not allowed. -/
def UnsubscribeLasts (rt : Runtime) (request : InboundEmailEventCreate) (key : String)
    (w : DbWorld) : Prop :=
  ∃ event w', processInboundEmailEvent rt request key w = .ok event w' ∧
    ∀ (calls : List Call) (rt' : Runtime), rt.now ≤ rt'.now →
      rt'.validEmail request.address = true →
        ∃ result, suppressionAllowed rt' (some request.address) none none request.channel
            (runCalls w' calls).store = .ok result ∧ result.allowed = false

/-- Of a committed unsubscribe it is the committed rows that decide. -/
theorem lasts_iff_deniedForGood (rt : Runtime) (request : InboundEmailEventCreate)
    (w' : DbWorld) (haddress : request.address ≠ "") :
    (∀ (calls : List Call) (rt' : Runtime), rt.now ≤ rt'.now →
      rt'.validEmail request.address = true →
        ∃ result, suppressionAllowed rt' (some request.address) none none request.channel
            (runCalls w' calls).store = .ok result ∧ result.allowed = false) ↔
      deniedForGood request.address request.channel w'.store = true := by
  constructor
  · intro h
    apply deniedForGood_of_denied rt.now haddress
    intro now hnow
    obtain ⟨result, hresult, hdenied⟩ := h [] { rt with now, validEmail := fun _ => true } hnow rfl
    simp only [suppressionAllowed, Option.all_some, if_true, Except.ok.injEq] at hresult
    rw [← hresult] at hdenied
    exact hdenied
  · intro h calls rt' _ hvalid
    refine ⟨_, if_pos hvalid, ?_⟩
    apply denied_of_deniedForGood haddress
    exact deniedForGood_mono (runCalls_suppressions_grow w' calls) h

/-- The texts of a new unsubscribe event fit their columns. -/
def unsubscribeFits (request : InboundEmailEventCreate) (key : String) : Bool :=
  (request.row 0 key none none).fits &&
    (unsubscribeTrace none 0 request.address request.channel request.reason 0).fits

/-- The writer may insert its own row: the key is free and the row fits. -/
def unsubscribeInsertable (request : InboundEmailEventCreate) (s : Store) : Bool :=
  (unsubscribeSuppression 0 request.address request.channel request.reason).fits &&
    s.suppressions.all fun row =>
      row.idempotencyKey !=
        (unsubscribeSuppression 0 request.address request.channel
          request.reason).idempotencyKey

/-- The condition under which an unsubscribe lasts. A repeated event and one
that finds an active row for the address write no suppression, so the rows
already there have to deny for good; any other event has to be able to insert
its own row. -/
def unsubscribeCondition (request : InboundEmailEventCreate) (key : String) (s : Store) :
    Bool :=
  if (s.inboundEvents.first? (·.idempotencyKey == key)).isSome then
    deniedForGood request.address request.channel s
  else
    unsubscribeFits request key &&
      if (activeSuppression? s request.address request.channel).isSome then
        deniedForGood request.address request.channel s
      else unsubscribeInsertable request s

omit [Casing] in
/-- The keys a new unsubscribe event takes in the outbox are free. -/
theorem OutboxAnchored.fresh {s : Store} (h : OutboxAnchored s) :
    (∀ old ∈ s.outbox, old.idempotencyKey ≠ .once .unsubscribeReceived s.inboundEvents.length) ∧
      ∀ old ∈ s.outbox, old.idempotencyKey ≠ .once .suppressionCreated s.suppressions.length := by
  constructor
  · intro old hmem heq
    have hanchored := h old hmem
    rw [OutboxEvent.anchored, heq] at hanchored
    exact absurd hanchored (lt_irrefl _)
  · intro old hmem heq
    have hanchored := h old hmem
    rw [OutboxEvent.anchored, heq] at hanchored
    exact absurd hanchored (lt_irrefl _)

omit [Casing] in
theorem key_fresh_iff {s : Store} {key : String} :
    s.inboundEvents.first? (·.idempotencyKey == key) = none ↔
      ∀ old ∈ s.inboundEvents, old.idempotencyKey ≠ key := by
  rw [Table.first?_none]
  simp

/-- When the database accepts a new unsubscribe event. -/
theorem unsubscribeStore_constraints (rt : Runtime) (request : InboundEmailEventCreate)
    {key : String} {s : Store} (hconstraints : s.constraintsOk = true)
    (hanchored : OutboxAnchored s)
    (hfresh : s.inboundEvents.first? (·.idempotencyKey == key) = none) :
    (unsubscribeStore rt request key s).constraintsOk = true ↔
      unsubscribeFits request key = true ∧
        (activeSuppression? s request.address request.channel = none →
          unsubscribeInsertable request s = true) := by
  obtain ⟨houtbox, hcreated⟩ := hanchored.fresh
  have hevent : (insertInboundEvent (unsubscribeRow rt request key s) s).constraintsOk = true ↔
      (request.row 0 key none none).fits = true := by
    rw [insertInboundEvent_constraints]
    exact ⟨fun h => h.2.2, fun h => ⟨hconstraints, key_fresh_iff.mp hfresh, h⟩⟩
  have hsame : activeSuppression? (insertInboundEvent (unsubscribeRow rt request key s) s)
      request.address request.channel =
        activeSuppression? s request.address request.channel := rfl
  rw [unsubscribeStore, recordUnsubscribe_constraints, unsubscribeSuppressions, hsame,
    unsubscribeFits, Bool.and_eq_true]
  cases hactive : activeSuppression? s request.address request.channel with
  | some found =>
    simp only [insertSuppressionEvent_constraints, hevent, reduceCtorEq, false_implies, and_true]
    exact ⟨fun h => h.1, fun h => ⟨h, houtbox⟩⟩
  | none =>
    have hinsert : unsubscribeInsertable request s = true ↔
        (unsubscribeSuppression rt.now request.address request.channel
            request.reason).fits = true ∧
          ∀ key, (unsubscribeSuppression rt.now request.address request.channel
              request.reason).idempotencyKey = some key →
            ∀ old ∈ s.suppressions, old.idempotencyKey ≠ some key := by
      simp only [unsubscribeInsertable, Bool.and_eq_true, List.all_eq_true, bne_iff_ne, ne_eq,
        unsubscribeSuppression, Option.some.injEq, forall_eq']
      rfl
    simp only [insertSuppressionEvent_constraints, insertSuppression_constraints, hevent,
      forall_true_left, hinsert]
    constructor
    · rintro ⟨⟨⟨hrow, hkey, hfits, -⟩, htrace⟩, -⟩
      exact ⟨⟨hrow, htrace⟩, hfits, hkey⟩
    · rintro ⟨⟨hrow, htrace⟩, hfits, hkey⟩
      refine ⟨⟨⟨hrow, hkey, hfits, hcreated⟩, htrace⟩, ?_⟩
      intro old hmem
      rcases List.mem_append.mp hmem with hold | hnew
      · exact houtbox old hold
      · rw [List.mem_singleton] at hnew
        subst hnew
        simp

/-- What a committed unsubscribe event leaves denied. -/
theorem unsubscribeStore_denies (rt : Runtime) (request : InboundEmailEventCreate)
    (key : String) (s : Store) :
    deniedForGood request.address request.channel (unsubscribeStore rt request key s) = true ↔
      ((activeSuppression? s request.address request.channel).isSome = true →
        deniedForGood request.address request.channel s = true) := by
  have hrecord : ∀ (t : Store) (event : Id) (enrollment : Option Id),
      (recordUnsubscribe rt.now event enrollment t).suppressions = t.suppressions := by
    intro t event enrollment
    cases enrollment <;> rfl
  have hsame : activeSuppression? (insertInboundEvent (unsubscribeRow rt request key s) s)
      request.address request.channel =
        activeSuppression? s request.address request.channel := rfl
  rw [deniedForGood_iff, deniedForGood_iff, unsubscribeStore, hrecord, unsubscribeSuppressions,
    hsame]
  cases hactive : activeSuppression? s request.address request.channel with
  | some found => simp [Store.insertSuppressionEvent, insertInboundEvent]
  | none =>
    simp only [Option.isSome_none, Bool.false_eq_true, false_implies, iff_true]
    right
    refine ⟨unsubscribeSuppression rt.now request.address request.channel request.reason,
      ?_, rfl, rfl, rfl, rfl⟩
    exact List.mem_append_right _ (List.mem_singleton_self _)

/-- An unsubscribe lasts exactly under the condition, in every reachable store. -/
theorem unsubscribe_lasts_iff (rt : Runtime) (request : InboundEmailEventCreate)
    (key : String) (w : DbWorld) (hreach : ReachableWorld w)
    (htype : request.eventType = .unsubscribe) (haddress : request.address ≠ "") :
    UnsubscribeLasts rt request key w ↔ unsubscribeCondition request key w.store = true := by
  unfold unsubscribeCondition
  cases hkey : w.store.inboundEvents.first? (·.idempotencyKey == key) with
  | some found =>
    have hrun : processInboundEmailEvent rt request key w = .ok found.1 w := by
      simp only [processInboundEmailEvent, sessionScope, Lib.sessionScope_run, Lib.bind_run,
        Lib.query_run, hkey, Lib.pure_run, hreach.constraints, if_true]
    simp only [UnsubscribeLasts, hrun, Option.isSome_some, if_true]
    rw [← lasts_iff_deniedForGood rt request w haddress]
    constructor
    · rintro ⟨event, w', heq, hlasts⟩
      cases heq
      exact hlasts
    · intro hlasts
      exact ⟨_, _, rfl, hlasts⟩
  | none =>
    have hcommits := unsubscribeStore_constraints rt request hreach.constraints
      hreach.anchored hkey
    have hdenies := unsubscribeStore_denies rt request key w.store
    have hlasts : UnsubscribeLasts rt request key w ↔
        (unsubscribeStore rt request key w.store).constraintsOk = true ∧
          deniedForGood request.address request.channel
            (unsubscribeStore rt request key w.store) = true := by
      unfold UnsubscribeLasts
      rw [processInbound_unsubscribe htype haddress hkey]
      cases hvalid : (unsubscribeStore rt request key w.store).constraintsOk with
      | false => simp
      | true =>
        simp only [if_true, true_and]
        rw [← lasts_iff_deniedForGood rt request
          { w with store := unsubscribeStore rt request key w.store } haddress]
        constructor
        · rintro ⟨event, w', heq, hlasts⟩
          cases heq
          exact hlasts
        · intro hlasts
          exact ⟨_, _, rfl, hlasts⟩
    refine hlasts.trans ?_
    rw [hcommits, hdenies]
    cases hactive : activeSuppression? w.store request.address request.channel <;> simp

end Permanence

section ExpiringRow

/-- Ada unsubscribes from mail. -/
def adaUnsubscribes : InboundEmailEventCreate where
  eventType := .unsubscribe
  fromEmail := some "Ada@corp.example"

/-- A suppression of ada's address that ends at a fixed time. -/
def suppressUntil (expiry : Time) : List Call :=
  [Op.at (.createSuppression
    { email := some "ada@corp.example", reason := "on leave", expiresAt := some expiry }
    "suppress:ada") 10]

/-- The unsubscribe finds the expiring row, stores none of its own, and ada may be
written to again once that row has expired. -/
theorem expiring_row_ends_unsubscribe :
    ReachableWorld (runCalls deployment (suppressUntil 100)) ∧
      ¬ UnsubscribeLasts { now := 20 } adaUnsubscribes "unsubscribe:1"
        (runCalls deployment (suppressUntil 100)) := by
  refine ⟨⟨deployment, suppressUntil 100, deployment_initial, rfl⟩, ?_⟩
  rintro ⟨event, w', hrun, hlasts⟩
  obtain ⟨result, hresult, hdenied⟩ := hlasts [] { now := 200 } (by decide) rfl
  have hafter : after (processInboundEmailEvent { now := 20 } adaUnsubscribes "unsubscribe:1")
      (runCalls deployment (suppressUntil 100)) = w' := by
    rw [after, hrun]
  have hallowed : ((suppressionAllowed { now := 200 } (some adaUnsubscribes.address) none none
      adaUnsubscribes.channel (after (processInboundEmailEvent { now := 20 } adaUnsubscribes
        "unsubscribe:1") (runCalls deployment (suppressUntil 100))).store).toOption.map
          (·.allowed)) = some true := by decide +kernel
  rw [hafter] at hallowed
  rw [runCalls, Lib.run_nil] at hresult
  rw [hresult] at hallowed
  simp only [Except.toOption, Option.map_some, Option.some.injEq] at hallowed
  rw [hdenied] at hallowed
  cases hallowed

/-- Without an earlier row ada's unsubscribe lasts. -/
theorem first_unsubscribe_lasts :
    UnsubscribeLasts { now := 20 } adaUnsubscribes "unsubscribe:1" deployment :=
  (unsubscribe_lasts_iff { now := 20 } adaUnsubscribes "unsubscribe:1" deployment
    ⟨deployment, [], deployment_initial, rfl⟩ rfl (by decide +kernel)).mpr (by decide +kernel)

end ExpiringRow

end GhostRecon
