import GhostRecon.Sequencing.Operations

/-!
Two questions about approving a mail. What is left of a refusal: the refusing
branches write the enrollment and then raise, so nothing of it is committed.
And whom an approved mail reaches: the checks look at the contact as it is now,
the mail goes to the address that was frozen when it was drafted, so the two
agree as long as no contact is readdressed while a draft for it waits.
-/

namespace GhostRecon

open Lib (Id Table Chain after)

section Refusals

variable [Casing]

/-- The refusal an approval runs into, if it gets as far as the checks. -/
def refusalOf (rt : Runtime) (a : Id) (s : Store) : Option (OpenApproval × Refusal) :=
  match loadApproval a s with
  | .ok (some loaded) =>
    match checkApproval rt loaded.enrollment loaded.step s with
    | .ok (.inl refusal) => some (loaded, refusal)
    | _ => none
  | _ => none

/-- A refusal is on record when the committed store is the one its branch wrote
and the enrollment is no longer as it was. -/
def RefusalRecorded (rt : Runtime) (loaded : OpenApproval) (refusal : Refusal)
    (before committed : Store) : Prop :=
  committed = refusal.record rt loaded.activity.enrollmentId loaded.enrollment before ∧
    committed.enrollments[loaded.activity.enrollmentId]? ≠
      before.enrollments[loaded.activity.enrollmentId]?

theorem refusalOf_some {rt : Runtime} {a : Id} {s : Store} {loaded : OpenApproval}
    {refusal : Refusal} (h : refusalOf rt a s = some (loaded, refusal)) :
    loadApproval a s = .ok (some loaded) ∧
      checkApproval rt loaded.enrollment loaded.step s = .ok (.inl refusal) := by
  unfold refusalOf at h
  split at h
  · next found hloaded =>
    split at h
    · next hcheck =>
      cases h
      exact ⟨hloaded, hcheck⟩
    · cases h
  · cases h

/-- The refusing branch writes, then raises. -/
theorem prepareApproval_refuses {rt : Runtime} {a : Id} {w : DbWorld} {loaded : OpenApproval}
    {refusal : Refusal} (h : refusalOf rt a w.store = some (loaded, refusal)) :
    prepareApproval rt a w = .error refusal.error
      { w with
        store := refusal.record rt loaded.activity.enrollmentId loaded.enrollment w.store } := by
  obtain ⟨hloaded, hcheck⟩ := refusalOf_some h
  simp [prepareApproval, Lib.queryOrRaise, Lib.write, bind, EStateM.bind, get, getThe,
    MonadStateOf.get, EStateM.get, hloaded, hcheck, pure, EStateM.pure, modify, modifyGet,
    MonadStateOf.modifyGet, EStateM.modifyGet, throw, throwThe, MonadExceptOf.throw,
    EStateM.throw]

/-- Whatever the reason of a refusal, the call raises it and leaves the world as
it was: no refusal is ever on record. -/
theorem refused_approval_unrecorded (rt : Runtime) (a : Id) (actor : String)
    (sender : SmtpSendRequest → SmtpOutcome) (w : DbWorld) (loaded : OpenApproval)
    (refusal : Refusal) (h : refusalOf rt a w.store = some (loaded, refusal)) :
    sendApprovedSequenceEmail rt a actor sender w = .error refusal.error w ∧
      ¬ RefusalRecorded rt loaded refusal w.store
        (after (sendApprovedSequenceEmail rt a actor sender) w).store := by
  have hraises : sendApprovedSequenceEmail rt a actor sender w = .error refusal.error w := by
    rw [sendApproved_raises (prepareApproval_refuses h)]
  refine ⟨hraises, ?_⟩
  rintro ⟨-, hchanged⟩
  apply hchanged
  rw [after, hraises]

end Refusals

section ArchivedSequence

/-- The sequence is archived while its first mail waits for approval. -/
def archiveWhileWaiting : List Call :=
  draftFirstMail ++ [Op.at (.archiveSequence 0) 40]

/-- Approving the mail then is refused, and the enrollment stays active. -/
theorem archived_refusal_unrecorded :
    ∃ loaded refusal,
      refusalOf { now := 50 } 0 (runCalls deployment archiveWhileWaiting).store =
          some (loaded, refusal) ∧
        ¬ RefusalRecorded { now := 50 } loaded refusal
          (runCalls deployment archiveWhileWaiting).store
          (step (runCalls deployment archiveWhileWaiting)
            (Op.at (.sendApproved 0 "operator" acceptMail) 50)).store := by
  have hrefused : (refusalOf { now := 50 } 0
      (runCalls deployment archiveWhileWaiting).store).isSome = true := by decide +kernel
  have hsame : (step (runCalls deployment archiveWhileWaiting)
      (Op.at (.sendApproved 0 "operator" acceptMail) 50)).store.enrollments =
        (runCalls deployment archiveWhileWaiting).store.enrollments := by decide +kernel
  obtain ⟨⟨loaded, refusal⟩, hrefusal⟩ := Option.isSome_iff_exists.mp hrefused
  refine ⟨loaded, refusal, hrefusal, ?_⟩
  rintro ⟨-, hchanged⟩
  rw [hsame] at hchanged
  exact hchanged rfl

/-- The contact is suppressed while the mail waits. -/
def suppressWhileWaiting : List Call :=
  draftFirstMail ++
    [Op.at (.createSuppression { email := some "ada@corp.example", reason := "opt-out" }
      "suppress:ada") 40]

/-- That refusal is not recorded either. -/
theorem suppressed_refusal_unrecorded :
    ∃ loaded refusal,
      refusalOf { now := 50 } 0 (runCalls deployment suppressWhileWaiting).store =
          some (loaded, refusal) ∧
        ¬ RefusalRecorded { now := 50 } loaded refusal
          (runCalls deployment suppressWhileWaiting).store
          (after (sendApprovedSequenceEmail { now := 50 } 0 "operator" acceptMail)
            (runCalls deployment suppressWhileWaiting)).store := by
  have hrefused : (refusalOf { now := 50 } 0
      (runCalls deployment suppressWhileWaiting).store).isSome = true := by decide +kernel
  obtain ⟨⟨loaded, refusal⟩, hrefusal⟩ := Option.isSome_iff_exists.mp hrefused
  exact ⟨loaded, refusal, hrefusal,
    (refused_approval_unrecorded { now := 50 } 0 "operator" acceptMail _ loaded refusal
      hrefusal).2⟩

end ArchivedSequence

end GhostRecon
