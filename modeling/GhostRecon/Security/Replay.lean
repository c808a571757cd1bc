import GhostRecon.Security.Workload
import GhostRecon.Lib.Run

/-!
Replays of tokens. A token that was taken leaves a marker that lives until the
token expires, while the verification still accepts it for the thirty seconds
of clock skew. Deliveries to every service and every worker share the markers;
the theorem says in which histories no token is taken twice.
-/

namespace GhostRecon.Security

open Lib (Admissible Expiring run)

def taskJwtPurpose : String := "ghostrecon-task+jwt"

/-- `TASK_QUEUES`. -/
def taskQueues : List (String × String) :=
  [("ghostrecon.fetch_source", "source-fetch"),
    ("ghostrecon.fetch_event_source", "source-fetch"),
    ("ghostrecon.fetch_incident_source", "source-fetch"),
    ("ghostrecon.parse_pending_event_items", "event-parser"),
    ("ghostrecon.parse_pending_incident_items", "incident-parser"),
    ("ghostrecon.monitor_watch_targets", "watch-monitor"),
    ("ghostrecon.crawl_company_domain", "enrichment"),
    ("ghostrecon.resolve_entity", "enrichment"),
    ("ghostrecon.enrich_contact_candidate", "enrichment"),
    ("ghostrecon.generate_email_candidates", "email-intelligence"),
    ("ghostrecon.persist_email_candidates", "email-intelligence"),
    ("ghostrecon.verify_email_candidates_batch", "email-intelligence"),
    ("ghostrecon.evaluate_suppression", "governance"),
    ("ghostrecon.process_crm_export_batch", "crm-export"),
    ("ghostrecon.process_due_sequence_steps", "sequencing"),
    ("ghostrecon.poll_sequence_inbound_email", "sequencing"),
    ("ghostrecon.process_due_sequence_email_alerts", "sequencing"),
    ("ghostrecon.retry_meeting_crm_sync", "meeting-sync")]

section Tasks

variable {τ : Type} (tools : TokenTools τ) (settings : WorkloadSettings)

/-- The first trusted publisher whose keys accept the token. -/
def verifyPublisher (token : τ) (queue : String) (now : Micros) :
    List (String × TrustedWorkload) → Except TokenError Json
  | [] => .error (.validation "untrusted task publisher")
  | (_, trusted) :: rest =>
    match verifyEddsa tools token trusted.publicKeys taskJwtPurpose trusted.issuer
      ("urn:ghostrecon:" ++ settings.profile ++ ":worker:" ++ queue) 45 now with
    | .ok claims => .ok claims
    | .error (.validation _) => verifyPublisher token queue now rest
    | .error .crash => .error .crash

def taskIdentity (claims : Json) (queue taskId : String) (now : Micros) :
    Except TokenError IdentityContext := do
  let subject ← textClaim tools claims "sub"
  let issuer ← textClaim tools claims "iss"
  let audience ← textClaim tools claims "aud"
  let correlationId ← textClaim tools claims "correlation_id"
  checkedIdentity
    { identityType := .worker
      subject
      actorLabel := queue
      issuer
      audience := [audience]
      permissions := ["workload.execute"]
      callingService := settings.serviceIdentity
      authenticationMethod := "signed_celery_task"
      authenticatedAt := now
      assurance := .workload
      correlationId
      requestId := taskId
      claimMappingVersion := "workload.v1"
      permissionPolicyVersion := "sprint25b.v1"
      environment := settings.profile }

/-- The delivery is the one that was signed. -/
def deliveryUnaltered (claims : Json) (name queue argumentDigest : String) : Bool :=
  hasText claims "task" name && hasText claims "queue" queue &&
    hasText claims "args_digest" argumentDigest

/-- A verified task token is taken once, then read. -/
def acceptTask (claims : Json) (queue taskId : String) (now : Micros) (markers : ReplayStore) :
    Except TokenError IdentityContext × ReplayStore :=
  match markerSeconds tools claims now with
  | .error e => (.error e, markers)
  | .ok lifetime =>
    match markers.setNew now ("ghostrecon:task-replay:" ++ (filledText? claims "jti").getD "") ()
      (now + lifetime * 1000000) with
    | (false, markers') => (.error (.validation "replayed task"), markers')
    | (true, markers') => (taskIdentity tools settings claims queue taskId now, markers')

/-- `SignedTask.before_start` of a strict runtime, for a task with a token. -/
def beforeStart (name : String) (token : τ) (argumentDigest taskId : String) (now : Micros)
    (markers : ReplayStore) : Except TokenError IdentityContext × ReplayStore :=
  match taskQueues.lookup name with
  | none => (.error (.validation "unclassified task"), markers)
  | some queue =>
    match verifyPublisher tools settings token queue now settings.bundle with
    | .error e => (.error e, markers)
    | .ok claims =>
      if !deliveryUnaltered claims name queue argumentDigest then
        (.error (.validation "altered task delivery"), markers)
      else acceptTask tools settings claims queue taskId now markers

end Tasks

section Machine

variable {τ : Type} (tools : TokenTools τ)

inductive TokenKind where
  | obo | task
  deriving DecidableEq, Repr

/-- A token reaches a service or a worker. -/
inductive Delivery (τ : Type) where
  | request (settings : WorkloadSettings) (request : WorkloadRequest τ) (now : Micros)
  | task (settings : WorkloadSettings) (name : String) (token : τ)
      (argumentDigest taskId : String) (now : Micros)

def Delivery.now : Delivery τ → Micros
  | .request _ _ now => now
  | .task _ _ _ _ _ now => now

/-- The token whose single use is at stake. -/
def Delivery.presented : Delivery τ → Option (TokenKind × τ)
  | .request _ received _ => received.oboToken.map (TokenKind.obo, ·)
  | .task _ _ token _ _ _ => some (.task, token)

structure ReplayWorld (τ : Type) where
  markers : ReplayStore
  clock : Micros
  /-- The tokens taken so far, newest first. -/
  accepted : List (TokenKind × τ) := []

/-- Whether the delivery is accepted, and the markers it leaves. -/
def deliver (markers : ReplayStore) : Delivery τ → Bool × ReplayStore
  | .request settings request now =>
    match resolveWorkload tools settings request now markers with
    | (.ok (some _), markers') => (true, markers')
    | (_, markers') => (false, markers')
  | .task settings name token argumentDigest taskId now =>
    match beforeStart tools settings name token argumentDigest taskId now markers with
    | (.ok _, markers') => (true, markers')
    | (.error _, markers') => (false, markers')

/-- The token the delivery takes. -/
def taken (w : ReplayWorld τ) (delivery : Delivery τ) : Option (TokenKind × τ) :=
  if (deliver tools w.markers delivery).1 then delivery.presented else none

def replayStep (w : ReplayWorld τ) (delivery : Delivery τ) : ReplayWorld τ where
  markers := (deliver tools w.markers delivery).2
  clock := delivery.now
  accepted := (taken tools w delivery).toList ++ w.accepted

/-- The `exp` claim of a token. -/
def expiry (token : τ) : Option Int :=
  match tools.decode token with
  | none => none
  | some (_, claims) =>
    match timeClaim tools claims "exp" with
    | .ok seconds => some seconds
    | .error _ => none

/-- The clock does not go back. -/
def Timely (w : ReplayWorld τ) (delivery : Delivery τ) : Prop :=
  w.clock ≤ delivery.now

instance (w : ReplayWorld τ) (delivery : Delivery τ) : Decidable (Timely w delivery) :=
  inferInstanceAs (Decidable (_ ≤ _))

/-- The clock does not go back, and no token that was taken is presented again
after its expiry while the skew still admits it. -/
def OutsideSkew (w : ReplayWorld τ) (delivery : Delivery τ) : Prop :=
  Timely w delivery ∧ ∀ entry, delivery.presented = some entry → entry ∈ w.accepted →
    ∀ expiresAt, expiry tools entry.2 = some expiresAt →
      ¬ (expiresAt ≤ epochSeconds delivery.now ∧ epochSeconds delivery.now < expiresAt + 30)

/-- The delivery takes no token that was taken before. -/
def TakesOnce (w : ReplayWorld τ) (delivery : Delivery τ) : Prop :=
  ∀ entry, taken tools w delivery = some entry → entry ∉ w.accepted

end Machine

section Markers

variable {τ : Type} {tools : TokenTools τ}

theorem epochSeconds_eq {now : Int} (h : 0 ≤ now) : epochSeconds now = now / 1000000 :=
  Int.tdiv_eq_ediv_of_nonneg h

/-- The marker under a key lives at least until the given time. -/
def MarkedUntil (markers : ReplayStore) (key : String) (time : Int) : Prop :=
  ∃ expiresAt, markers key = some ((), expiresAt) ∧ time ≤ expiresAt

/-- Setting a marker shortens no other. -/
theorem MarkedUntil.setNew {markers : ReplayStore} {key other : String} {time now seconds : Int}
    (h : MarkedUntil markers key time) (hseconds : 0 < seconds) :
    MarkedUntil (markers.setNew now other () (now + seconds * 1000000)).2 key time := by
  obtain ⟨expiresAt, hmarker, htime⟩ := h
  unfold Expiring.setNew
  split
  · exact ⟨expiresAt, hmarker, htime⟩
  · next hdead =>
    by_cases hkey : key = other
    · subst hkey
      have hgone : expiresAt ≤ now := by
        by_contra hlive
        have hget : markers.get now key = some () :=
          Expiring.get_eq_some.mpr ⟨expiresAt, hmarker, by omega⟩
        simp [hget] at hdead
      exact ⟨_, Expiring.set_self _ _ _ _, by omega⟩
    · refine ⟨expiresAt, ?_, htime⟩
      dsimp only
      rw [Expiring.set_of_ne hkey]
      exact hmarker

/-- A marker that is alive cannot be set anew. -/
theorem MarkedUntil.refused {markers : ReplayStore} {key : String} {time now : Int}
    (h : MarkedUntil markers key time) (hnow : now < time) (expiresAt : Int) :
    (markers.setNew now key () expiresAt).1 = false := by
  obtain ⟨until', hmarker, htime⟩ := h
  have hget : markers.get now key = some () :=
    Expiring.get_eq_some.mpr ⟨until', hmarker, by omega⟩
  simp [Expiring.setNew, hget]

theorem markedUntil_of_set {markers : ReplayStore} {key : String} {now expiresAt : Int}
    (h : (markers.setNew now key () expiresAt).1 = true) :
    MarkedUntil (markers.setNew now key () expiresAt).2 key expiresAt := by
  unfold Expiring.setNew at h ⊢
  split at h
  · cases h
  · next hdead =>
    rw [if_neg hdead]
    exact ⟨expiresAt, Expiring.set_self _ _ _ _, le_refl _⟩

/-- The key a token's marker is kept under. -/
def markerKey : TokenKind → String → String
  | .obo, jti => "ghostrecon:security:replay:" ++ "obo" ++ ":" ++ jti
  | .task, jti => "ghostrecon:task-replay:" ++ jti

/-- What is known of a taken token: its marker lives until its expiry. -/
def Marked (tools : TokenTools τ) (markers : ReplayStore) (entry : TokenKind × τ) : Prop :=
  ∃ header claims expiresAt jti, tools.decode entry.2 = some (header, claims) ∧
    timeClaim tools claims "exp" = .ok expiresAt ∧ filledText? claims "jti" = some jti ∧
    MarkedUntil markers (markerKey entry.1 jti) (expiresAt * 1000000)

theorem filledText?_ne {claims : Json} {key text : String}
    (h : filledText? claims key = some text) : text ≠ "" := by
  unfold filledText? nonEmpty at h
  split at h
  · split at h
    · cases h
    · next hfilled =>
      cases h
      exact hfilled
  · cases h

section Accepts

variable {settings : WorkloadSettings} {claims : Json} {expiresAt : Int} {jti : String}
  {now : Micros}

/-- Taking a represented identity sets its marker, which has to be new. -/
theorem acceptObo_markers (settings : WorkloadSettings) (markers : ReplayStore) (now : Micros)
    (hexpires : timeClaim tools claims "exp" = .ok expiresAt)
    (hjti : filledText? claims "jti" = some jti) (caller correlationId : String) :
    (acceptObo tools settings claims caller correlationId now markers).2 =
        (markers.setNew now (markerKey .obo jti) ()
          (now + max 1 (expiresAt - epochSeconds now) * 1000000)).2 ∧
      ∀ identity, (acceptObo tools settings claims caller correlationId now markers).1 =
          .ok identity →
        (markers.setNew now (markerKey .obo jti) ()
          (now + max 1 (expiresAt - epochSeconds now) * 1000000)).1 = true := by
  have hfilled : jti ≠ "" := filledText?_ne hjti
  have hconsume : ∀ seconds : Int, 0 < seconds →
      replayConsume "obo" jti seconds now markers =
        markers.setNew now (markerKey .obo jti) () (now + seconds * 1000000) := by
    intro seconds hseconds
    have hpositive : ¬ ("obo" = "" ∨ jti = "" ∨ seconds ≤ 0) := by
      have hpurpose : "obo" ≠ "" := by decide
      rintro (hbad | hbad | hbad)
      · exact hpurpose hbad
      · exact hfilled hbad
      · omega
    rw [replayConsume, if_neg hpositive]
    rfl
  have hlifetime : 0 < max 1 (expiresAt - epochSeconds now) := by omega
  generalize hseconds : max 1 (expiresAt - epochSeconds now) = seconds at hlifetime ⊢
  have hmarker : markerSeconds tools claims now = .ok seconds := by
    rw [markerSeconds, hexpires, ← hseconds]
  simp only [acceptObo, hmarker, hjti, Option.getD_some, hconsume seconds hlifetime]
  cases markers.setNew now (markerKey .obo jti) () (now + seconds * 1000000) with
  | mk isNew markers' =>
    cases isNew with
    | false => exact ⟨rfl, fun _ h => by cases h⟩
    | true => exact ⟨rfl, fun _ _ => rfl⟩

/-- Starting a task sets its marker, which has to be new. -/
theorem acceptTask_markers (settings : WorkloadSettings) (markers : ReplayStore) (now : Micros)
    (hexpires : timeClaim tools claims "exp" = .ok expiresAt)
    (hjti : filledText? claims "jti" = some jti) (queue taskId : String) :
    (acceptTask tools settings claims queue taskId now markers).2 =
        (markers.setNew now (markerKey .task jti) ()
          (now + max 1 (expiresAt - epochSeconds now) * 1000000)).2 ∧
      ∀ identity, (acceptTask tools settings claims queue taskId now markers).1 = .ok identity →
        (markers.setNew now (markerKey .task jti) ()
          (now + max 1 (expiresAt - epochSeconds now) * 1000000)).1 = true := by
  generalize hseconds : max 1 (expiresAt - epochSeconds now) = seconds
  have hmarker : markerSeconds tools claims now = .ok seconds := by
    rw [markerSeconds, hexpires, ← hseconds]
  have hkey : "ghostrecon:task-replay:" ++ jti = markerKey .task jti := rfl
  simp only [acceptTask, hmarker, hjti, Option.getD_some, hkey]
  cases markers.setNew now (markerKey .task jti) () (now + seconds * 1000000) with
  | mk isNew markers' =>
    cases isNew with
    | false => exact ⟨rfl, fun _ h => by cases h⟩
    | true => exact ⟨rfl, fun _ _ => rfl⟩

theorem verifyPublisher_ok {token : τ} {queue : String} {bundle : List (String × TrustedWorkload)}
    (h : verifyPublisher tools settings token queue now bundle = .ok claims) :
    ∃ trusted : TrustedWorkload, verifyEddsa tools token trusted.publicKeys taskJwtPurpose
      trusted.issuer ("urn:ghostrecon:" ++ settings.profile ++ ":worker:" ++ queue) 45 now =
        .ok claims := by
  induction bundle with
  | nil => cases h
  | cons entry rest ih =>
    obtain ⟨name, trusted⟩ := entry
    unfold verifyPublisher at h
    split at h
    · next found hfound =>
      cases h
      exact ⟨trusted, hfound⟩
    · exact ih h
    · cases h

end Accepts

/-- What a delivery does to the markers: nothing, or it sets the one of the
token it presents, for a time that reaches the token's expiry. It is accepted
only if the marker was new. -/
theorem deliver_cases (tools : TokenTools τ) (markers : ReplayStore) (delivery : Delivery τ) :
    (deliver tools markers delivery).2 = markers ∧
      ((deliver tools markers delivery).1 = true → delivery.presented = none) ∨
    ∃ entry header claims expiresAt jti seconds, delivery.presented = some entry ∧
      tools.decode entry.2 = some (header, claims) ∧
      timeClaim tools claims "exp" = .ok expiresAt ∧ filledText? claims "jti" = some jti ∧
      epochSeconds delivery.now - 30 < expiresAt ∧
      seconds = max 1 (expiresAt - epochSeconds delivery.now) ∧
      (deliver tools markers delivery).2 =
        (markers.setNew delivery.now (markerKey entry.1 jti) ()
          (delivery.now + seconds * 1000000)).2 ∧
      ((deliver tools markers delivery).1 = true →
        (markers.setNew delivery.now (markerKey entry.1 jti) ()
          (delivery.now + seconds * 1000000)).1 = true) := by
  cases delivery with
  | request settings received now =>
    simp only [deliver, resolveWorkload, Delivery.presented, Delivery.now]
    cases hservice : received.serviceToken with
    | none => exact Or.inl ⟨rfl, by simp⟩
    | some service =>
      dsimp only
      cases hverified : verifyService tools settings service now settings.bundle with
      | error e => exact Or.inl ⟨rfl, by simp⟩
      | ok result =>
        obtain ⟨serviceClaims, caller, trusted⟩ := result
        dsimp only
        cases hobo : received.oboToken with
        | none =>
          refine Or.inl ⟨?_, by simp⟩
          cases serviceIdentity tools settings serviceClaims caller received.correlationId <;> rfl
        | some obo =>
          dsimp only
          cases hclaims : verifyEddsa tools obo trusted.publicKeys oboJwtPurpose trusted.issuer
            (settings.serviceUrn settings.serviceName) 45 now with
          | error e => exact Or.inl ⟨rfl, by simp⟩
          | ok claims =>
            obtain ⟨⟨header, hdecode⟩, expiresAt, jti, hexpires, hlive, hjti⟩ :=
              verifyEddsa_ok hclaims
            refine Or.inr ⟨(.obo, obo), header, claims, expiresAt, jti, _, rfl, hdecode, hexpires,
              hjti, hlive, rfl, ?_⟩
            obtain ⟨hmarkers, haccepted⟩ := acceptObo_markers settings markers now hexpires hjti
              caller received.correlationId
            cases hresult : acceptObo tools settings claims caller received.correlationId now
              markers with
            | mk result markers' =>
              rw [hresult] at hmarkers haccepted
              simp only [hresult]
              cases result with
              | ok identity => exact ⟨hmarkers, fun _ => haccepted identity rfl⟩
              | error e => exact ⟨hmarkers, fun h => by cases h⟩
  | task settings name token argumentDigest taskId now =>
    simp only [deliver, beforeStart, Delivery.presented, Delivery.now]
    cases hqueue : taskQueues.lookup name with
    | none => exact Or.inl ⟨rfl, by simp⟩
    | some queue =>
      dsimp only
      cases hpublisher : verifyPublisher tools settings token queue now settings.bundle with
      | error e => exact Or.inl ⟨rfl, by simp⟩
      | ok claims =>
        dsimp only
        by_cases hunaltered : deliveryUnaltered claims name queue argumentDigest
        · obtain ⟨trusted, hclaims⟩ := verifyPublisher_ok hpublisher
          obtain ⟨⟨header, hdecode⟩, expiresAt, jti, hexpires, hlive, hjti⟩ :=
            verifyEddsa_ok hclaims
          refine Or.inr ⟨(.task, token), header, claims, expiresAt, jti, _, rfl, hdecode, hexpires,
            hjti, hlive, rfl, ?_⟩
          obtain ⟨hmarkers, haccepted⟩ := acceptTask_markers settings markers now hexpires hjti
            queue taskId
          cases hresult : acceptTask tools settings claims queue taskId now markers with
          | mk result markers' =>
            rw [hresult] at hmarkers haccepted
            simp only [hunaltered, Bool.not_true, Bool.false_eq_true, if_false]
            cases result with
            | ok identity => exact ⟨hmarkers, fun _ => haccepted identity rfl⟩
            | error e => exact ⟨hmarkers, fun h => by cases h⟩
        · rw [Bool.not_eq_true] at hunaltered
          exact Or.inl (by simp [hunaltered])

/-- A marker set now reaches the expiry. -/
theorem expiry_le_marker {now expiresAt seconds : Int} (hnow : 0 ≤ now)
    (hseconds : seconds = max 1 (expiresAt - epochSeconds now)) :
    0 < seconds ∧ expiresAt * 1000000 ≤ now + seconds * 1000000 := by
  rw [epochSeconds_eq hnow] at hseconds
  constructor
  · omega
  · omega

theorem Marked.setNew {markers : ReplayStore} {entry : TokenKind × τ} {now seconds : Int}
    (h : Marked tools markers entry) (hseconds : 0 < seconds) (key : String) :
    Marked tools (markers.setNew now key () (now + seconds * 1000000)).2 entry := by
  obtain ⟨header, claims, expiresAt, jti, hdecode, hexpires, hjti, huntil⟩ := h
  exact ⟨header, claims, expiresAt, jti, hdecode, hexpires, hjti, huntil.setNew hseconds⟩

theorem lt_of_seconds_lt {now expiresAt : Int} (h : now / 1000000 < expiresAt) :
    now < expiresAt * 1000000 := by
  omega

/-- Every token taken so far has its marker, and the clock counts from the epoch. -/
def AllMarked (tools : TokenTools τ) (w : ReplayWorld τ) : Prop :=
  0 ≤ w.clock ∧ ∀ entry ∈ w.accepted, Marked tools w.markers entry

/-- One delivery keeps the markers of the tokens taken, its own included. -/
theorem allMarked_step {w : ReplayWorld τ} {delivery : Delivery τ} (htime : Timely w delivery)
    (h : AllMarked tools w) : AllMarked tools (replayStep tools w delivery) := by
  obtain ⟨hclock, hmarked⟩ := h
  have hnow : (0 : Int) ≤ delivery.now := le_trans hclock htime
  refine ⟨hnow, ?_⟩
  intro entry hentry
  simp only [replayStep, List.mem_append, Option.mem_toList] at hentry ⊢
  rcases deliver_cases tools w.markers delivery with ⟨hsame, hnone⟩ |
    ⟨shown, header, claims, expiresAt, jti, seconds, hshown, hdecode, hexpires, hjti, -, hseconds,
      hmarkers, hfresh⟩
  · rw [hsame]
    rcases hentry with htaken | hold
    · unfold taken at htaken
      split at htaken
      · next haccepted =>
        rw [hnone haccepted] at htaken
        cases htaken
      · cases htaken
    · exact hmarked entry hold
  · obtain ⟨hpositive, hreach⟩ := expiry_le_marker hnow hseconds
    rw [hmarkers]
    rcases hentry with htaken | hold
    · unfold taken at htaken
      split at htaken
      · next haccepted =>
        rw [hshown] at htaken
        cases htaken
        obtain ⟨expiresAt', hentry, hle⟩ := markedUntil_of_set (hfresh haccepted)
        exact ⟨header, claims, expiresAt, jti, hdecode, hexpires, hjti, expiresAt', hentry,
          le_trans hreach hle⟩
      · cases htaken
    · exact (hmarked entry hold).setNew hpositive _

/-- A token whose marker is there is refused until its expiry, and after the
skew it is expired. -/
theorem takesOnce_of_allMarked {w : ReplayWorld τ} {delivery : Delivery τ}
    (houtside : OutsideSkew tools w delivery) (h : AllMarked tools w) :
    TakesOnce tools w delivery := by
  obtain ⟨htime, hskew⟩ := houtside
  obtain ⟨hclock, hmarked⟩ := h
  have hnow : (0 : Int) ≤ delivery.now := le_trans hclock htime
  intro entry htaken hold
  unfold taken at htaken
  split at htaken
  · next haccepted =>
    rcases deliver_cases tools w.markers delivery with ⟨-, hnone⟩ |
      ⟨shown, header, claims, expiresAt, jti, seconds, hshown, hdecode, hexpires, hjti, hlive,
        -, -, hfresh⟩
    · rw [hnone haccepted] at htaken
      cases htaken
    · rw [hshown] at htaken
      cases htaken
      obtain ⟨header', claims', expiresAt', jti', hdecode', hexpires', hjti', huntil⟩ :=
        hmarked entry hold
      rw [hdecode] at hdecode'
      cases hdecode'
      rw [hexpires] at hexpires'
      cases hexpires'
      rw [hjti] at hjti'
      cases hjti'
      have hexpiry : expiry tools entry.2 = some expiresAt := by
        simp [expiry, hdecode, hexpires]
      have houter := hskew entry hshown hold expiresAt hexpiry
      rw [epochSeconds_eq hnow] at houter hlive
      have hearly : delivery.now < expiresAt * 1000000 := by
        refine lt_of_seconds_lt ?_
        by_contra hle
        exact houter ⟨not_lt.mp hle, by omega⟩
      have hrefused := huntil.refused hearly (delivery.now + seconds * 1000000)
      rw [hfresh haccepted] at hrefused
      cases hrefused
  · cases htaken

/-- In every history of deliveries at non-decreasing times, whatever the
services, workers and tokens, in which no token that was taken comes back within
the skew after its expiry, no token is taken twice. -/
theorem token_taken_once (tools : TokenTools τ) (start : ReplayWorld τ)
    (hclock : 0 ≤ start.clock) (hnone : start.accepted = []) (deliveries : List (Delivery τ))
    (hrun : Admissible (replayStep tools) (OutsideSkew tools) start deliveries) :
    Admissible (replayStep tools) (TakesOnce tools) start deliveries := by
  have hstart : AllMarked tools start := by
    refine ⟨hclock, ?_⟩
    intro entry hentry
    rw [hnone] at hentry
    cases hentry
  refine Lib.admissible_of_invariant (I := AllMarked tools) ?_ ?_ hrun hstart
  · intro w delivery houtside hmarked
    exact allMarked_step houtside.1 hmarked
  · intro w delivery houtside hmarked
    exact takesOnce_of_allMarked houtside hmarked

section Histories

def callerSettings : WorkloadSettings where
  profile := "prod"
  serviceName := "gateway-service"
  serviceIdentity := some "gateway-service"
  privateKey := "key"
  privateKeyId := some "k1"

def receiverSettings : WorkloadSettings where
  profile := "prod"
  serviceName := "governance-service"
  serviceIdentity := some "governance-service"
  bundle := [("gateway-service",
    { issuer := "urn:ghostrecon:prod:workload:gateway-service", publicKeys := [("k1", "key")] })]

def analystIdentity : IdentityContext where
  subject := "user-1"
  actorLabel := "user-1"
  issuer := "https://idp"
  audience := ["ghostrecon"]
  roles := ["analyst"]
  permissions := ["governance.read"]
  authenticationMethod := "email_otp"
  authenticatedAt := 0
  assurance := .emailOtp
  correlationId := "c-1"
  claimMappingVersion := "m1"
  permissionPolicyVersion := "p1"
  environment := "prod"

/-- The two tokens of one forwarded request, signed at the epoch. -/
def forwardedRequest : WorkloadRequest (String × Json × Json) where
  serviceToken := serviceToken plainTools callerSettings "governance-service" "s-1" 0
  oboToken := oboToken plainTools callerSettings analystIdentity "governance-service"
    "governance.read" "o-1" 0
  correlationId := "c-1"

def presentedAt (seconds : Int) : Delivery (String × Json × Json) :=
  .request receiverSettings forwardedRequest (seconds * 1000000)

def emptyWorld : ReplayWorld (String × Json × Json) where
  markers := Expiring.empty
  clock := 0

/-- A represented identity that expires at second 45 is taken at second 1 and,
from the same request sent again, at second 50. -/
theorem token_taken_twice :
    Admissible (replayStep plainTools) Timely emptyWorld [presentedAt 1, presentedAt 50] ∧
      ¬ Admissible (replayStep plainTools) (TakesOnce plainTools) emptyWorld
        [presentedAt 1, presentedAt 50] := by
  have hfirst : (deliver plainTools emptyWorld.markers (presentedAt 1)).1 = true := by
    decide +kernel
  have hsecond : (deliver plainTools (replayStep plainTools emptyWorld (presentedAt 1)).markers
      (presentedAt 50)).1 = true := by
    decide +kernel
  obtain ⟨obo, hobo⟩ : ∃ obo, forwardedRequest.oboToken = some obo := ⟨_, rfl⟩
  have hshown : ∀ seconds, (presentedAt seconds).presented = some (.obo, obo) := by
    intro seconds
    simp [presentedAt, Delivery.presented, hobo]
  refine ⟨⟨by decide, by decide, trivial⟩, ?_⟩
  rintro ⟨-, honce, -⟩
  refine honce (.obo, obo) ?_ ?_
  · rw [taken, if_pos hsecond, hshown]
  · simp [replayStep, taken, hfirst, hshown]

/-- The same request at seconds 1, 40 and 80: taken, refused as a replay, and
refused as expired. -/
theorem replayed_token_refused :
    Admissible (replayStep plainTools) (OutsideSkew plainTools) emptyWorld
        [presentedAt 1, presentedAt 40, presentedAt 80] ∧
      Admissible (replayStep plainTools) (TakesOnce plainTools) emptyWorld
        [presentedAt 1, presentedAt 40, presentedAt 80] ∧
      (deliver plainTools emptyWorld.markers (presentedAt 1)).1 = true := by
  have hexpiry : ∀ seconds entry, (presentedAt seconds).presented = some entry →
      expiry plainTools entry.2 = some 45 := by
    intro seconds entry hentry
    cases hentry
    rfl
  have hskew : ∀ seconds, seconds < 45 ∨ 75 ≤ seconds → 0 ≤ seconds →
      ∀ w, w.clock ≤ seconds * 1000000 → OutsideSkew plainTools w (presentedAt seconds) := by
    intro seconds houtside hseconds w hclock
    refine ⟨hclock, ?_⟩
    intro entry hentry _ expiresAt hexpires
    rw [hexpiry seconds entry hentry] at hexpires
    cases hexpires
    have hnow : (presentedAt seconds).now = seconds * 1000000 := rfl
    rw [hnow, epochSeconds_eq (by omega)]
    omega
  have hrun : Admissible (replayStep plainTools) (OutsideSkew plainTools) emptyWorld
      [presentedAt 1, presentedAt 40, presentedAt 80] :=
    ⟨hskew 1 (by decide) (by decide) _ (by decide), hskew 40 (by decide) (by decide) _ (by decide),
      hskew 80 (by decide) (by decide) _ (by decide), trivial⟩
  exact ⟨hrun, token_taken_once plainTools emptyWorld (by decide) rfl _ hrun, by decide +kernel⟩

end Histories

end Markers

end GhostRecon.Security
