import Mathlib.Data.List.Nodup
import Mathlib.Tactic

/-!
The routes of the services and the operations they are classified as. A request is dispatched to
the first route of a router whose template it matches; the operation of a request is looked up
among all templates, and there must be exactly one. The two agree but for the paths that are
templates themselves and also match the route of one sequence.
-/

namespace GhostRecon.Security

section Routes

/-- The routers, of one service each. -/
inductive Router where
  | gateway | crm | ingestion | enrichment | email | scoring | sequencing | meeting | governance
  | console | reporting | eventIntelligence | incidentIntelligence
  deriving DecidableEq, Repr

/-- The methods of the routes. -/
inductive Method where
  | get | post | patch | delete
  deriving DecidableEq, Repr

def Method.value : Method → String
  | .get => "GET"
  | .post => "POST"
  | .patch => "PATCH"
  | .delete => "DELETE"

/-- A part of a template between its slashes: one of the words of the routes, or a parameter in
braces. -/
inductive Part where
  | v1 | crm | sync | account | exports | retryFailed | email | candidates | persist | verifyBatch
  | verify | enrichment | domain | watchTargets | findContact | contactCandidates | discoverDomain
  | discoverEmail | entityResolutions | eventParticipants | enrichTarget | intelligence | events
  | manual | participants | suppressions | evaluate | review | approve | reject | bulkDecision
  | crmTargets | governance | incidents | corroborate | revert | monitor | promoteToWatchlist
  | calendar | availability | meetings | prepPacket | outcome | cancel | retrySync | reporting
  | reviewQueue | sourceHealth | kpis | catalog | scoring | lead | sequences | activities
  | approveEmail | complete | scheduleMeeting | crmProspects | unsubscribe | enrollments
  | importCrmProspect | pause | resume | alerts | serviceMap | sources | health
  | parameter (name : String)
  deriving DecidableEq, Repr

def Part.text : Part → String
  | .v1 => "v1"
  | .crm => "crm"
  | .sync => "sync"
  | .account => "account"
  | .exports => "exports"
  | .retryFailed => "retry-failed"
  | .email => "email"
  | .candidates => "candidates"
  | .persist => "persist"
  | .verifyBatch => "verify-batch"
  | .verify => "verify"
  | .enrichment => "enrichment"
  | .domain => "domain"
  | .watchTargets => "watch-targets"
  | .findContact => "find-contact"
  | .contactCandidates => "contact-candidates"
  | .discoverDomain => "discover-domain"
  | .discoverEmail => "discover-email"
  | .entityResolutions => "entity-resolutions"
  | .eventParticipants => "event-participants"
  | .enrichTarget => "enrich-target"
  | .intelligence => "intelligence"
  | .events => "events"
  | .manual => "manual"
  | .participants => "participants"
  | .suppressions => "suppressions"
  | .evaluate => "evaluate"
  | .review => "review"
  | .approve => "approve"
  | .reject => "reject"
  | .bulkDecision => "bulk-decision"
  | .crmTargets => "crm-targets"
  | .governance => "governance"
  | .incidents => "incidents"
  | .corroborate => "corroborate"
  | .revert => "revert"
  | .monitor => "monitor"
  | .promoteToWatchlist => "promote-to-watchlist"
  | .calendar => "calendar"
  | .availability => "availability"
  | .meetings => "meetings"
  | .prepPacket => "prep-packet"
  | .outcome => "outcome"
  | .cancel => "cancel"
  | .retrySync => "retry-sync"
  | .reporting => "reporting"
  | .reviewQueue => "review-queue"
  | .sourceHealth => "source-health"
  | .kpis => "kpis"
  | .catalog => "catalog"
  | .scoring => "scoring"
  | .lead => "lead"
  | .sequences => "sequences"
  | .activities => "activities"
  | .approveEmail => "approve-email"
  | .complete => "complete"
  | .scheduleMeeting => "schedule-meeting"
  | .crmProspects => "crm-prospects"
  | .unsubscribe => "unsubscribe"
  | .enrollments => "enrollments"
  | .importCrmProspect => "import-crm-prospect"
  | .pause => "pause"
  | .resume => "resume"
  | .alerts => "alerts"
  | .serviceMap => "service-map"
  | .sources => "sources"
  | .health => "health"
  | .parameter name => "\x7b" ++ name ++ "\x7d"

/-- A template, by its parts behind the slashes. -/
abbrev Template := List Part

def Template.text (template : Template) : String :=
  String.join (template.map fun part => "/" ++ part.text)

/-- A route of the domain: the name of its handler, its method and template, and the routers it
is registered with. -/
structure DomainRoute where
  name : String
  method : Method
  path : Template
  routers : List Router
  deriving DecidableEq, Repr

/-- The routes in the order in which their modules register them. The enrollments of sequences
come before the routes of one sequence. -/
def domainRoutes : List DomainRoute :=
  [⟨"crm_sync_account", .post, [.v1, .crm, .sync, .account], [.crm]⟩,
   ⟨"crm_export_start", .post, [.v1, .crm, .exports], [.gateway, .crm]⟩,
   ⟨"crm_export_detail", .get, [.v1, .crm, .exports, .parameter "batch_id"], [.gateway, .crm]⟩,
   ⟨"crm_export_retry_failed", .post,
      [.v1, .crm, .exports, .parameter "batch_id", .retryFailed], [.gateway, .crm]⟩,
   ⟨"email_candidates", .post, [.v1, .email, .candidates], [.email]⟩,
   ⟨"email_persist_candidates", .post, [.v1, .email, .candidates, .persist], [.gateway, .email]⟩,
   ⟨"email_verify_batch", .post, [.v1, .email, .verifyBatch], [.gateway, .email]⟩,
   ⟨"email_verify", .post, [.v1, .email, .verify], [.email]⟩,
   ⟨"domain_enrichment", .post, [.v1, .enrichment, .domain], [.enrichment]⟩,
   ⟨"enrichment_watch_target_find_contact", .post,
      [.v1, .enrichment, .watchTargets, .parameter "watch_target_id", .findContact],
      [.gateway, .enrichment]⟩,
   ⟨"enrichment_contact_candidate_discover_domain", .post,
      [.v1, .enrichment, .contactCandidates, .parameter "candidate_id", .discoverDomain],
      [.gateway, .enrichment]⟩,
   ⟨"enrichment_contact_candidate_discover_email", .post,
      [.v1, .enrichment, .contactCandidates, .parameter "candidate_id", .discoverEmail],
      [.gateway, .enrichment]⟩,
   ⟨"enrichment_create_entity_resolution", .post,
      [.v1, .enrichment, .entityResolutions], [.gateway, .enrichment]⟩,
   ⟨"enrichment_entity_resolutions", .get,
      [.v1, .enrichment, .entityResolutions], [.gateway, .enrichment]⟩,
   ⟨"enrichment_create_contact_candidate", .post,
      [.v1, .enrichment, .contactCandidates], [.gateway, .enrichment]⟩,
   ⟨"enrichment_contact_candidates", .get,
      [.v1, .enrichment, .contactCandidates], [.gateway, .enrichment]⟩,
   ⟨"enrichment_event_participant_enrich_target", .post,
      [.v1, .enrichment, .eventParticipants, .parameter "participant_id", .enrichTarget],
      [.gateway, .enrichment]⟩,
   ⟨"intelligence_events", .get, [.v1, .intelligence, .events], [.gateway, .eventIntelligence]⟩,
   ⟨"intelligence_create_manual_event", .post,
      [.v1, .intelligence, .events, .manual], [.gateway, .eventIntelligence]⟩,
   ⟨"intelligence_patch_event", .patch,
      [.v1, .intelligence, .events, .parameter "event_id"], [.gateway, .eventIntelligence]⟩,
   ⟨"intelligence_event_detail", .get,
      [.v1, .intelligence, .events, .parameter "event_id"], [.gateway, .eventIntelligence]⟩,
   ⟨"intelligence_event_participants", .get,
      [.v1, .intelligence, .events, .parameter "event_id", .participants],
      [.gateway, .eventIntelligence]⟩,
   ⟨"intelligence_create_event_participant", .post,
      [.v1, .intelligence, .events, .parameter "event_id", .participants],
      [.gateway, .eventIntelligence]⟩,
   ⟨"intelligence_participants", .get,
      [.v1, .intelligence, .participants], [.gateway, .eventIntelligence]⟩,
   ⟨"suppression_create", .post, [.v1, .suppressions], [.gateway, .governance]⟩,
   ⟨"suppression_check", .post, [.v1, .suppressions, .evaluate], [.gateway, .governance]⟩,
   ⟨"review_candidates", .get, [.v1, .review, .candidates], [.gateway, .governance, .console]⟩,
   ⟨"review_candidate_detail", .get,
      [.v1, .review, .candidates, .parameter "candidate_id"], [.gateway, .governance, .console]⟩,
   ⟨"review_candidate_update", .patch,
      [.v1, .review, .candidates, .parameter "candidate_id"], [.gateway, .governance, .console]⟩,
   ⟨"review_candidate_approve", .post,
      [.v1, .review, .candidates, .parameter "candidate_id", .approve],
      [.gateway, .governance, .console]⟩,
   ⟨"review_candidate_reject", .post,
      [.v1, .review, .candidates, .parameter "candidate_id", .reject],
      [.gateway, .governance, .console]⟩,
   ⟨"review_candidates_bulk_decision", .post,
      [.v1, .review, .candidates, .bulkDecision], [.gateway, .governance, .console]⟩,
   ⟨"review_crm_targets", .get, [.v1, .review, .crmTargets], [.gateway, .governance, .console]⟩,
   ⟨"review_crm_target_update", .patch,
      [.v1, .review, .crmTargets, .parameter "crm_target_id"], [.gateway, .governance, .console]⟩,
   ⟨"governance_corroborate_incident", .post,
      [.v1, .governance, .incidents, .parameter "incident_id", .corroborate],
      [.gateway, .governance]⟩,
   ⟨"governance_reject_incident", .post,
      [.v1, .governance, .incidents, .parameter "incident_id", .reject], [.gateway, .governance]⟩,
   ⟨"governance_revert_incident", .post,
      [.v1, .governance, .incidents, .parameter "incident_id", .revert], [.gateway, .governance]⟩,
   ⟨"intelligence_incidents", .get,
      [.v1, .intelligence, .incidents], [.gateway, .incidentIntelligence]⟩,
   ⟨"intelligence_create_manual_incident", .post,
      [.v1, .intelligence, .incidents, .manual], [.gateway, .incidentIntelligence]⟩,
   ⟨"intelligence_incident_detail", .get,
      [.v1, .intelligence, .incidents, .parameter "incident_id"],
      [.gateway, .incidentIntelligence]⟩,
   ⟨"intelligence_patch_incident", .patch,
      [.v1, .intelligence, .incidents, .parameter "incident_id"],
      [.gateway, .incidentIntelligence]⟩,
   ⟨"intelligence_watch_targets", .get,
      [.v1, .intelligence, .watchTargets], [.gateway, .incidentIntelligence]⟩,
   ⟨"intelligence_watch_target_detail", .get,
      [.v1, .intelligence, .watchTargets, .parameter "watch_target_id"],
      [.gateway, .incidentIntelligence]⟩,
   ⟨"intelligence_create_watch_target", .post,
      [.v1, .intelligence, .watchTargets], [.gateway, .incidentIntelligence]⟩,
   ⟨"intelligence_patch_watch_target", .patch,
      [.v1, .intelligence, .watchTargets, .parameter "watch_target_id"],
      [.gateway, .incidentIntelligence]⟩,
   ⟨"intelligence_monitor_watch_targets", .post,
      [.v1, .intelligence, .watchTargets, .monitor], [.gateway, .incidentIntelligence]⟩,
   ⟨"intelligence_promote_incident_to_watchlist", .post,
      [.v1, .intelligence, .incidents, .parameter "incident_id", .promoteToWatchlist],
      [.gateway, .incidentIntelligence]⟩,
   ⟨"calendar_availability", .post, [.v1, .calendar, .availability], [.gateway, .meeting]⟩,
   ⟨"meeting_create", .post, [.v1, .meetings], [.gateway, .meeting]⟩,
   ⟨"meeting_list", .get, [.v1, .meetings], [.gateway, .meeting]⟩,
   ⟨"meeting_detail", .get, [.v1, .meetings, .parameter "meeting_id"], [.gateway, .meeting]⟩,
   ⟨"meeting_generate_prep_packet", .post,
      [.v1, .meetings, .parameter "meeting_id", .prepPacket], [.gateway, .meeting]⟩,
   ⟨"meeting_record_outcome", .post,
      [.v1, .meetings, .parameter "meeting_id", .outcome], [.gateway, .meeting]⟩,
   ⟨"meeting_cancel", .post,
      [.v1, .meetings, .parameter "meeting_id", .cancel], [.gateway, .meeting]⟩,
   ⟨"meeting_retry_sync", .post,
      [.v1, .meetings, .parameter "meeting_id", .retrySync], [.gateway, .meeting]⟩,
   ⟨"prep_packet", .post, [.v1, .meetings, .prepPacket], [.gateway, .meeting]⟩,
   ⟨"reporting_events", .get, [.v1, .reporting, .events], [.gateway, .reporting]⟩,
   ⟨"reporting_event_detail", .get,
      [.v1, .reporting, .events, .parameter "event_id"], [.gateway, .reporting]⟩,
   ⟨"reporting_incidents", .get, [.v1, .reporting, .incidents], [.gateway, .reporting]⟩,
   ⟨"reporting_incident_detail", .get,
      [.v1, .reporting, .incidents, .parameter "incident_id"], [.gateway, .reporting]⟩,
   ⟨"reporting_watch_targets", .get, [.v1, .reporting, .watchTargets], [.gateway, .reporting]⟩,
   ⟨"reporting_watch_target_detail", .get,
      [.v1, .reporting, .watchTargets, .parameter "watch_target_id"], [.gateway, .reporting]⟩,
   ⟨"reporting_review_queue", .get, [.v1, .reporting, .reviewQueue], [.gateway, .reporting]⟩,
   ⟨"reporting_crm_targets", .get, [.v1, .reporting, .crmTargets], [.gateway, .reporting]⟩,
   ⟨"reporting_crm_target_detail", .get,
      [.v1, .reporting, .crmTargets, .parameter "crm_target_id"], [.gateway, .reporting]⟩,
   ⟨"reporting_meetings", .get, [.v1, .reporting, .meetings], [.gateway, .reporting]⟩,
   ⟨"reporting_meeting_detail", .get,
      [.v1, .reporting, .meetings, .parameter "meeting_id"], [.gateway, .reporting]⟩,
   ⟨"reporting_source_health", .get, [.v1, .reporting, .sourceHealth], [.gateway, .reporting]⟩,
   ⟨"reporting_kpi_catalog", .get, [.v1, .reporting, .kpis, .catalog], [.gateway, .reporting]⟩,
   ⟨"kpi_catalog", .get, [.v1, .kpis, .catalog], [.gateway, .reporting]⟩,
   ⟨"lead_score", .post, [.v1, .scoring, .lead], [.scoring]⟩,
   ⟨"candidate_score", .post, [.v1, .scoring, .candidates], [.gateway, .scoring]⟩,
   ⟨"sequence_eligibility", .post, [.v1, .sequences, .evaluate], [.gateway, .sequencing]⟩,
   ⟨"sequence_activity_list", .get, [.v1, .sequences, .activities], [.gateway, .sequencing]⟩,
   ⟨"sequence_activity_detail", .get,
      [.v1, .sequences, .activities, .parameter "activity_id"], [.gateway, .sequencing]⟩,
   ⟨"sequence_activity_approve_email", .post,
      [.v1, .sequences, .activities, .parameter "activity_id", .approveEmail],
      [.gateway, .sequencing]⟩,
   ⟨"sequence_activity_complete", .post,
      [.v1, .sequences, .activities, .parameter "activity_id", .complete], [.gateway, .sequencing]⟩,
   ⟨"sequence_activity_schedule_meeting", .post,
      [.v1, .sequences, .activities, .parameter "activity_id", .scheduleMeeting],
      [.gateway, .sequencing]⟩,
   ⟨"sequence_create", .post, [.v1, .sequences], [.gateway, .sequencing]⟩,
   ⟨"sequence_list", .get, [.v1, .sequences], [.gateway, .sequencing]⟩,
   ⟨"sequence_crm_prospect_list", .get, [.v1, .sequences, .crmProspects], [.gateway, .sequencing]⟩,
   ⟨"sequence_unsubscribe", .post, [.v1, .sequences, .unsubscribe], [.gateway, .sequencing]⟩,
   ⟨"sequence_enrollment_create", .post, [.v1, .sequences, .enrollments], [.gateway, .sequencing]⟩,
   ⟨"sequence_enrollment_import_crm_prospect", .post,
      [.v1, .sequences, .enrollments, .importCrmProspect], [.gateway, .sequencing]⟩,
   ⟨"sequence_enrollment_list", .get, [.v1, .sequences, .enrollments], [.gateway, .sequencing]⟩,
   ⟨"sequence_enrollment_detail", .get,
      [.v1, .sequences, .enrollments, .parameter "enrollment_id"], [.gateway, .sequencing]⟩,
   ⟨"sequence_enrollment_pause", .post,
      [.v1, .sequences, .enrollments, .parameter "enrollment_id", .pause], [.gateway, .sequencing]⟩,
   ⟨"sequence_enrollment_resume", .post,
      [.v1, .sequences, .enrollments, .parameter "enrollment_id", .resume],
      [.gateway, .sequencing]⟩,
   ⟨"sequence_enrollment_cancel", .post,
      [.v1, .sequences, .enrollments, .parameter "enrollment_id", .cancel],
      [.gateway, .sequencing]⟩,
   ⟨"sequence_enrollment_alert_create", .post,
      [.v1, .sequences, .enrollments, .parameter "enrollment_id", .alerts],
      [.gateway, .sequencing]⟩,
   ⟨"sequence_detail", .get, [.v1, .sequences, .parameter "sequence_id"], [.gateway, .sequencing]⟩,
   ⟨"sequence_update", .patch,
      [.v1, .sequences, .parameter "sequence_id"], [.gateway, .sequencing]⟩,
   ⟨"sequence_delete", .delete,
      [.v1, .sequences, .parameter "sequence_id"], [.gateway, .sequencing]⟩,
   ⟨"service_map", .get, [.v1, .serviceMap], [.gateway]⟩,
   ⟨"source_health", .get,
      [.v1, .intelligence, .sources, .health], [.gateway, .reporting, .eventIntelligence]⟩]

def DomainRoute.operationId (route : DomainRoute) : String :=
  "domain." ++ route.name

/-- The routes of a router, in order. -/
def Router.routes (router : Router) : List DomainRoute :=
  domainRoutes.filter fun route => router ∈ route.routers

end Routes

section Matching

/-- The texts between the slashes of a path. -/
def segments (path : String) : List String :=
  (path.toList.splitOn '/').map String.ofList

/-- A parameter matches any text that is not empty, a word itself alone. -/
def Part.fits (segment : String) : Part → Bool
  | .parameter _ => segment != ""
  | part => part.text == segment

def partsMatch : Template → List String → Bool
  | [], [] => true
  | part :: template, segment :: path => part.fits segment && partsMatch template path
  | _, _ => false

/-- A concrete path is one of the template. -/
def Template.fits (template : Template) (path : String) : Bool :=
  match segments path with
  | "" :: path => partsMatch template path
  | _ => false

/-- The first route of the router that matches. -/
def dispatch (router : Router) (method path : String) : Option DomainRoute :=
  router.routes.find? fun route => route.method.value == method && route.path.fits path

/-- What `operation_id_for_request` reads of a policy. The resource of a policy that is not of
the domain is no template. -/
structure Operation where
  operationId : String
  testIds : List String
  resource : Option Template

/-- The ids of `SECURITY_OPERATIONS`; none is of the domain. -/
def securityOperations : List String :=
  ["auth.login", "auth.callback", "auth.session.read", "auth.logout", "security.users.manage",
   "security.audit.read", "system.health.read", "system.readiness.read", "system.metrics.read",
   "system.docs.read"]

/-- The ids of `EXTRA_SECURITY_OPERATIONS`; none is of the domain. -/
def extraSecurityOperations : List String :=
  ["auth.claims.refresh", "auth.step_up", "auth.provider_logout.callback", "auth.sessions.list",
   "auth.sessions.revoke", "auth.logout_all", "auth.bootstrap_proof", "security.users.list",
   "security.users.read", "security.users.sessions.list", "security.users.sessions.revoke",
   "security.emergency_grants.proof"]

/-- `classify_domain_operation`. -/
def DomainRoute.classifyDomainOperation (route : DomainRoute) : Operation where
  operationId := route.operationId
  testIds := ["contract:" ++ route.method.value ++ ":" ++ route.path.text]
  resource := some route.path

/-- `OPERATIONS`, with every domain route registered. -/
def operations : List Operation :=
  securityOperations.map (fun id => ⟨id, [], none⟩) ++
    extraSecurityOperations.map (fun id => ⟨id, ["route:" ++ id], none⟩) ++
    domainRoutes.map DomainRoute.classifyDomainOperation

def startsWith (text head : String) : Bool :=
  head.toList.isPrefixOf text.toList

/-- `str.upper` of a method name. -/
def upperMethod (method : String) : String :=
  String.ofList (method.toList.map Char.toUpper)

/-- The policies whose template matches. -/
def Operation.fits (method concretePath : String) (policy : Operation) : Bool :=
  startsWith policy.operationId "domain." &&
    startsWith (policy.testIds.headD "") ("contract:" ++ upperMethod method ++ ":") &&
    policy.resource.any (·.fits concretePath)

/-- `operation_id_for_request`. -/
def Operation.operationIdForRequest (method concretePath : String) : Except String String :=
  match (operations.filter (·.fits method concretePath)).map (·.operationId) with
  | [operationId] => .ok operationId
  | _ => .error ("request has no unique operation policy: " ++ method ++ " " ++ concretePath)

end Matching

section Words

def Part.isParameter : Part → Bool
  | .parameter _ => true
  | _ => false

/-- The parts that are words. -/
def words : List Part :=
  [.v1, .crm, .sync, .account, .exports, .retryFailed, .email, .candidates, .persist, .verifyBatch,
   .verify, .enrichment, .domain, .watchTargets, .findContact, .contactCandidates, .discoverDomain,
   .discoverEmail, .entityResolutions, .eventParticipants, .enrichTarget, .intelligence, .events,
   .manual, .participants, .suppressions, .evaluate, .review, .approve, .reject, .bulkDecision,
   .crmTargets, .governance, .incidents, .corroborate, .revert, .monitor, .promoteToWatchlist,
   .calendar, .availability, .meetings, .prepPacket, .outcome, .cancel, .retrySync, .reporting,
   .reviewQueue, .sourceHealth, .kpis, .catalog, .scoring, .lead, .sequences, .activities,
   .approveEmail, .complete, .scheduleMeeting, .crmProspects, .unsubscribe, .enrollments,
   .importCrmProspect, .pause, .resume, .alerts, .serviceMap, .sources, .health]

theorem mem_words {part : Part} (h : part.isParameter = false) : part ∈ words := by
  cases part with
  | parameter _ => cases h
  | _ => decide

/-- No two words are written the same. -/
theorem words_text_nodup : (words.map Part.text).Nodup := by
  decide +kernel

theorem eq_of_text_eq {part other : Part} (hpart : part.isParameter = false)
    (hother : other.isParameter = false) (h : part.text = other.text) : part = other :=
  List.inj_on_of_nodup_map words_text_nodup (mem_words hpart) (mem_words hother) h

theorem fits_word {part : Part} (hpart : part.isParameter = false) (segment : String) :
    part.fits segment = (part.text == segment) := by
  cases part with
  | parameter _ => cases hpart
  | _ => rfl

end Words

section Overlaps

/-- Two templates that some path may match at once. -/
def partsOverlap : Template → Template → Bool
  | [], [] => true
  | part :: template, part' :: template' =>
    (part.isParameter || part'.isParameter || part == part') && partsOverlap template template'
  | _, _ => false

theorem partsOverlap_of_match {template template' : Template} {path : List String}
    (h : partsMatch template path = true) (h' : partsMatch template' path = true) :
    partsOverlap template template' = true := by
  induction template generalizing template' path with
  | nil =>
    cases path with
    | nil =>
      cases template' with
      | nil => rfl
      | cons _ _ => cases h'
    | cons _ _ => cases h
  | cons part template ih =>
    cases path with
    | nil => cases h
    | cons segment path =>
      cases template' with
      | nil => cases h'
      | cons part' template' =>
        rw [partsMatch, Bool.and_eq_true] at h h'
        rw [partsOverlap, ih h.2 h'.2, Bool.and_true]
        cases hpart : part.isParameter with
        | true => rfl
        | false =>
          cases hpart' : part'.isParameter with
          | true => rfl
          | false =>
            rw [fits_word hpart, beq_iff_eq] at h
            rw [fits_word hpart', beq_iff_eq] at h'
            have hsame := eq_of_text_eq hpart hpart' (h.1.trans h'.1.symm)
            simp [hsame]

/-- A template without parameters is matched by its own words alone. -/
theorem partsMatch_words {template : Template} {path : List String}
    (hwords : template.all (!·.isParameter)) (h : partsMatch template path = true) :
    path = template.map Part.text := by
  induction template generalizing path with
  | nil =>
    cases path with
    | nil => rfl
    | cons _ _ => cases h
  | cons part template ih =>
    cases path with
    | nil => cases h
    | cons segment path =>
      rw [List.all_cons, Bool.and_eq_true, Bool.not_eq_true'] at hwords
      rw [partsMatch, Bool.and_eq_true, fits_word hwords.1, beq_iff_eq] at h
      rw [List.map_cons, ih hwords.2 h.2, h.1]

theorem segments_injective : Function.Injective segments := by
  intro path path' h
  have hparts := List.map_injective_iff.mpr (fun _ _ => String.ofList_inj.mp) h
  have htexts := congrArg (List.intercalate ['/']) hparts
  rw [List.intercalate_splitOn, List.intercalate_splitOn] at htexts
  exact String.toList_inj.mp htexts

theorem fits_iff {template : Template} {path : String} :
    template.fits path = true ↔
      ∃ rest, segments path = "" :: rest ∧ partsMatch template rest = true := by
  unfold Template.fits
  split
  · next rest heq => simp [heq]
  · next hne =>
    constructor
    · intro h
      cases h
    · rintro ⟨rest, heq, -⟩
      exact absurd heq (hne rest)

/-- The templates that match the template of one sequence too. -/
def sharedTemplates : List Template :=
  [[.v1, .sequences, .activities], [.v1, .sequences, .crmProspects],
   [.v1, .sequences, .enrollments]]

/-- The pairs of routes of one method whose templates overlap are one sequence and the three
lists. -/
theorem routes_overlap : domainRoutes.Pairwise fun route other =>
    route.method = other.method → partsOverlap route.path other.path = true →
      route.method = .get ∧ (route.path ∈ sharedTemplates ∨ other.path ∈ sharedTemplates) := by
  decide +kernel

theorem sharedTemplates_words :
    ∀ template ∈ sharedTemplates, template.all (!·.isParameter) = true := by
  decide

end Overlaps

section Shared

/-- The paths that are templates, and match the template of one sequence too. -/
def sharedPaths : List String :=
  ["/v1/sequences/activities", "/v1/sequences/crm-prospects", "/v1/sequences/enrollments"]

theorem segments_ofList (cs : List Char) :
    segments (String.ofList cs) = (cs.splitOn '/').map String.ofList := by
  unfold segments
  rw [String.toList_ofList]

theorem segments_sharedPaths :
    sharedPaths.map segments =
      sharedTemplates.map fun template => "" :: template.map Part.text := by
  have hactivities : segments "/v1/sequences/activities" = ["", "v1", "sequences", "activities"] :=
    segments_ofList _
  have hprospects : segments "/v1/sequences/crm-prospects" =
      ["", "v1", "sequences", "crm-prospects"] := segments_ofList _
  have henrollments : segments "/v1/sequences/enrollments" =
      ["", "v1", "sequences", "enrollments"] := segments_ofList _
  unfold sharedPaths
  rw [List.map_cons, List.map_cons, List.map_cons, hactivities, hprospects, henrollments]
  rfl

theorem partsMatch_text {template : Template} (hwords : template.all (!·.isParameter)) :
    partsMatch template (template.map Part.text) = true := by
  induction template with
  | nil => rfl
  | cons part template ih =>
    rw [List.all_cons, Bool.and_eq_true, Bool.not_eq_true'] at hwords
    rw [List.map_cons, partsMatch, fits_word hwords.1, ih hwords.2, beq_self_eq_true]
    rfl

/-- The shared paths are those of the shared templates. -/
theorem mem_sharedPaths_iff {path : String} :
    path ∈ sharedPaths ↔ ∃ template ∈ sharedTemplates, template.fits path = true := by
  constructor
  · intro hpath
    have hmem := List.mem_map_of_mem (f := segments) hpath
    rw [segments_sharedPaths] at hmem
    obtain ⟨template, htemplate, heq⟩ := List.mem_map.mp hmem
    exact ⟨template, htemplate, fits_iff.mpr
      ⟨_, heq.symm, partsMatch_text (sharedTemplates_words template htemplate)⟩⟩
  · rintro ⟨template, htemplate, hfits⟩
    obtain ⟨rest, heq, hmatch⟩ := fits_iff.mp hfits
    have hrest := partsMatch_words (sharedTemplates_words template htemplate) hmatch
    have hmem : segments path ∈ sharedPaths.map segments := by
      rw [segments_sharedPaths, heq, hrest]
      exact List.mem_map_of_mem htemplate
    obtain ⟨shared, hshared, hsame⟩ := List.mem_map.mp hmem
    rw [← segments_injective hsame]
    exact hshared

end Shared

section Lookups

variable {method path : String} {router : Router} {route other : DomainRoute}

/-- The routes that a request of the method may be meant for. -/
def candidateRoutes (method path : String) : List DomainRoute :=
  domainRoutes.filter fun route => route.method.value == method && route.path.fits path

theorem mem_candidateRoutes : route ∈ candidateRoutes method path ↔
    route ∈ domainRoutes ∧ route.method.value = method ∧ route.path.fits path = true := by
  simp [candidateRoutes]

theorem startsWith_ofList {c d : Char} {cs ds : List Char} (h : d ≠ c) :
    startsWith (String.ofList (c :: cs)) (String.ofList (d :: ds)) = false := by
  unfold startsWith
  rw [String.toList_ofList, String.toList_ofList, List.isPrefixOf, beq_eq_false_iff_ne.mpr h]
  rfl

theorem startsWith_append (head text text' : String) :
    startsWith (head ++ text) (head ++ text') = startsWith text text' := by
  unfold startsWith
  rw [Bool.eq_iff_iff, List.isPrefixOf_iff_prefix, List.isPrefixOf_iff_prefix,
    String.toList_append, String.toList_append, List.prefix_append_right_inj]

theorem startsWith_self (head text : String) : startsWith (head ++ text) head = true := by
  unfold startsWith
  rw [List.isPrefixOf_iff_prefix, String.toList_append]
  exact List.prefix_append _ _

/-- No policy that is not of a route has the id of one. -/
theorem securityOperations_not_domain :
    ∀ id ∈ securityOperations ++ extraSecurityOperations, startsWith id "domain." = false := by
  simp only [securityOperations, extraSecurityOperations, List.cons_append, List.nil_append,
    List.forall_mem_cons]
  repeat' apply And.intro
  all_goals first | exact startsWith_ofList (by decide) | exact List.forall_mem_nil _

def Method.letters : Method → List Char
  | .get => ['G', 'E', 'T']
  | .post => ['P', 'O', 'S', 'T']
  | .patch => ['P', 'A', 'T', 'C', 'H']
  | .delete => ['D', 'E', 'L', 'E', 'T', 'E']

theorem toList_value (kind : Method) : kind.value.toList = kind.letters := by
  cases kind with
  | _ => exact String.toList_ofList

theorem upperMethod_value (kind : Method) : upperMethod kind.value = kind.value := by
  unfold upperMethod
  rw [toList_value]
  cases kind with
  | _ => rfl

/-- The test ids tell the methods apart. -/
theorem startsWith_method (kind kind' : Method) (text : String) :
    startsWith (kind.value ++ ":" ++ text) (kind'.value ++ ":") = decide (kind = kind') := by
  by_cases h : kind = kind'
  · subst h
    rw [startsWith_self, decide_eq_true rfl]
  · rw [decide_eq_false h]
    unfold startsWith
    rw [String.toList_append, String.toList_append, String.toList_append, toList_value,
      toList_value]
    cases kind with
    | _ =>
      cases kind' with
      | _ => first | rfl | exact absurd rfl h

theorem value_injective : Function.Injective Method.value := by
  intro kind kind' h
  have hletters := congrArg String.toList h
  rw [toList_value, toList_value] at hletters
  revert hletters
  cases kind with
  | _ =>
    cases kind' with
    | _ => decide

theorem value_beq (kind kind' : Method) :
    (kind.value == kind'.value) = decide (kind = kind') := by
  rw [Bool.eq_iff_iff, beq_iff_eq, decide_eq_true_iff, value_injective.eq_iff]

/-- The policies that fit a request are those of its candidate routes. -/
theorem fitting_policies (kind : Method) (path : String) :
    (operations.filter (·.fits kind.value path)).map (·.operationId) =
      (candidateRoutes kind.value path).map (·.operationId) := by
  unfold operations
  rw [List.filter_append, List.filter_append]
  have hsecurity : ((securityOperations.map fun id => (⟨id, [], none⟩ : Operation)).filter
      (·.fits kind.value path)) = [] := by
    rw [List.filter_eq_nil_iff]
    intro policy hpolicy
    obtain ⟨id, hid, rfl⟩ := List.mem_map.mp hpolicy
    simp [Operation.fits, securityOperations_not_domain id (List.mem_append_left _ hid)]
  have hextra : ((extraSecurityOperations.map fun id =>
      (⟨id, ["route:" ++ id], none⟩ : Operation)).filter (·.fits kind.value path)) = [] := by
    rw [List.filter_eq_nil_iff]
    intro policy hpolicy
    obtain ⟨id, hid, rfl⟩ := List.mem_map.mp hpolicy
    simp [Operation.fits, securityOperations_not_domain id (List.mem_append_right _ hid)]
  rw [hsecurity, hextra, List.nil_append, List.nil_append, List.filter_map, List.map_map]
  have hsame : domainRoutes.filter
      ((·.fits kind.value path) ∘ DomainRoute.classifyDomainOperation) =
      candidateRoutes kind.value path := by
    unfold candidateRoutes
    apply List.filter_congr
    intro route hroute
    have hname : startsWith route.operationId "domain." = true := startsWith_self _ _
    have htest : startsWith ((DomainRoute.classifyDomainOperation route).testIds.headD "")
        ("contract:" ++ upperMethod kind.value ++ ":") = (route.method.value == kind.value) := by
      show startsWith ("contract:" ++ route.method.value ++ ":" ++ route.path.text) _ = _
      rw [upperMethod_value, String.append_assoc, String.append_assoc, String.append_assoc,
        startsWith_append, ← String.append_assoc, startsWith_method, value_beq]
    show (startsWith route.operationId "domain." && _ && _) = _
    rw [hname, htest]
    rfl
  rw [hsame]
  rfl

/-- The lookup, by the candidate routes. -/
theorem Operation.operationIdForRequest_eq (kind : Method) (path : String) :
    Operation.operationIdForRequest kind.value path =
      match (candidateRoutes kind.value path).map (·.operationId) with
      | [operationId] => .ok operationId
      | _ => .error
          ("request has no unique operation policy: " ++ kind.value ++ " " ++ path) := by
  unfold Operation.operationIdForRequest
  rw [fitting_policies]

/-- A dispatched request has its route among the candidates. -/
theorem dispatch_candidate (h : dispatch router method path = some route) :
    route ∈ candidateRoutes method path := by
  have hfound := List.find?_some h
  have hmem := List.mem_of_find?_eq_some h
  exact List.mem_filter.mpr ⟨(List.mem_filter.mp hmem).1, hfound⟩

/-- Two candidates of one request: the path is shared. -/
theorem candidates_shared {rest : List DomainRoute}
    (h : candidateRoutes method path = route :: other :: rest) :
    method = "GET" ∧ path ∈ sharedPaths := by
  have hpairs := routes_overlap.filter fun route =>
    route.method.value == method && route.path.fits path
  change (candidateRoutes method path).Pairwise _ at hpairs
  rw [h] at hpairs
  have hpair := (List.pairwise_cons.mp hpairs).1 other List.mem_cons_self
  have hroute : route ∈ candidateRoutes method path := h ▸ List.mem_cons_self
  have hother : other ∈ candidateRoutes method path :=
    h ▸ List.mem_cons_of_mem _ List.mem_cons_self
  obtain ⟨-, hmethod, hfits⟩ := mem_candidateRoutes.mp hroute
  obtain ⟨-, hmethod', hfits'⟩ := mem_candidateRoutes.mp hother
  have hsame := value_injective (hmethod.trans hmethod'.symm)
  obtain ⟨parts, heq, hmatch⟩ := fits_iff.mp hfits
  obtain ⟨parts', heq', hmatch'⟩ := fits_iff.mp hfits'
  obtain rfl : parts = parts' := (List.cons.inj (heq.symm.trans heq')).2
  obtain ⟨hget, hshared⟩ := hpair hsame (partsOverlap_of_match hmatch hmatch')
  rw [hget] at hmethod
  refine ⟨hmethod.symm, mem_sharedPaths_iff.mpr ?_⟩
  rcases hshared with hshared | hshared
  · exact ⟨route.path, hshared, hfits⟩
  · exact ⟨other.path, hshared, hfits'⟩

/-- The route of one sequence. -/
def sequenceDetail : DomainRoute :=
  ⟨"sequence_detail", .get, [.v1, .sequences, .parameter "sequence_id"], [.gateway, .sequencing]⟩

/-- A shared path has a route of its own, and is a path of one sequence. -/
theorem shared_twice (h : path ∈ sharedPaths) :
    ∃ own ∈ candidateRoutes "GET" path, sequenceDetail ∈ candidateRoutes "GET" path ∧
      own ≠ sequenceDetail := by
  obtain ⟨template, htemplate, hfits⟩ := mem_sharedPaths_iff.mp h
  obtain ⟨rest, heq, hmatch⟩ := fits_iff.mp hfits
  have hrest := partsMatch_words (sharedTemplates_words template htemplate) hmatch
  have hroutes : ∀ template ∈ sharedTemplates,
      partsMatch sequenceDetail.path (template.map Part.text) = true ∧
        ∃ own ∈ domainRoutes, own.path = template ∧ own.method = .get ∧
          own ≠ sequenceDetail := by
    decide +kernel
  obtain ⟨hdetail, own, hown, hpath, hmethod, hne⟩ := hroutes template htemplate
  refine ⟨own, mem_candidateRoutes.mpr ⟨hown, ?_, ?_⟩, mem_candidateRoutes.mpr ⟨?_, rfl, ?_⟩, hne⟩
  · rw [hmethod]
    rfl
  · rw [hpath]
    exact hfits
  · decide +kernel
  · rw [← hrest] at hdetail
    exact fits_iff.mpr ⟨rest, heq, hdetail⟩

end Lookups

/-- The operation of a request that a router dispatches is found, and is that of the route,
exactly when its path is not one of the three that the template of one sequence matches too. -/
theorem operation_of_dispatched_iff {router : Router} {method path : String} {route : DomainRoute}
    (hdispatch : dispatch router method path = some route) :
    Operation.operationIdForRequest method path = .ok route.operationId ↔
      ¬(method = "GET" ∧ path ∈ sharedPaths) := by
  have hcandidate := dispatch_candidate hdispatch
  obtain ⟨-, hmethod, -⟩ := mem_candidateRoutes.mp hcandidate
  have hlookup := Operation.operationIdForRequest_eq route.method path
  rw [hmethod] at hlookup
  rw [hlookup]
  constructor
  · rintro hok ⟨rfl, hshared⟩
    obtain ⟨own, hown, hdetail, hne⟩ := shared_twice hshared
    split at hok
    · next operationId hone =>
      have hlength := congrArg List.length hone
      rw [List.length_map, List.length_singleton, List.length_eq_one_iff] at hlength
      obtain ⟨only, honly⟩ := hlength
      rw [honly, List.mem_singleton] at hown hdetail
      exact hne (hown.trans hdetail.symm)
    · cases hok
  · intro hfree
    cases hcandidates : candidateRoutes method path with
    | nil =>
      rw [hcandidates] at hcandidate
      cases hcandidate
    | cons first rest =>
      cases rest with
      | nil =>
        rw [hcandidates, List.mem_singleton] at hcandidate
        rw [hcandidate]
        rfl
      | cons second rest => exact absurd (candidates_shared hcandidates) hfree

/-- The detail of an event is looked up under its own operation. -/
theorem event_detail_operation :
    dispatch .gateway "GET" "/v1/intelligence/events/42" =
        some ⟨"intelligence_event_detail", .get,
          [.v1, .intelligence, .events, .parameter "event_id"], [.gateway, .eventIntelligence]⟩ ∧
      Operation.operationIdForRequest "GET" "/v1/intelligence/events/42" =
        .ok ("domain." ++ "intelligence_event_detail") := by
  have hsegments : segments "/v1/intelligence/events/42" =
      ["", "v1", "intelligence", "events", "42"] := segments_ofList _
  have hdispatch : dispatch .gateway "GET" "/v1/intelligence/events/42" =
      some ⟨"intelligence_event_detail", .get,
        [.v1, .intelligence, .events, .parameter "event_id"], [.gateway, .eventIntelligence]⟩ := by
    simp only [dispatch, Template.fits, hsegments]
    decide +kernel
  refine ⟨hdispatch, (operation_of_dispatched_iff hdispatch).mpr ?_⟩
  rintro ⟨-, hshared⟩
  revert hshared
  decide +kernel

/-- The route of the list of the enrollments. -/
def enrollmentList : DomainRoute :=
  ⟨"sequence_enrollment_list", .get, [.v1, .sequences, .enrollments], [.gateway, .sequencing]⟩

/-- The list of the enrollments has its route, and no operation. -/
theorem enrollment_list_unclassified :
    dispatch .sequencing "GET" "/v1/sequences/enrollments" = some enrollmentList ∧
      Operation.operationIdForRequest "GET" "/v1/sequences/enrollments" =
        .error ("request has no unique operation policy: " ++ "GET" ++ " " ++
          "/v1/sequences/enrollments") := by
  have hsegments : segments "/v1/sequences/enrollments" =
      ["", "v1", "sequences", "enrollments"] := segments_ofList _
  constructor
  · simp only [dispatch, Template.fits, hsegments]
    decide +kernel
  · have hcandidates : candidateRoutes Method.get.value "/v1/sequences/enrollments" =
        [enrollmentList, sequenceDetail] := by
      simp only [candidateRoutes, Template.fits, hsegments]
      decide +kernel
    have hlookup := Operation.operationIdForRequest_eq .get "/v1/sequences/enrollments"
    rw [hcandidates] at hlookup
    exact hlookup

end GhostRecon.Security
