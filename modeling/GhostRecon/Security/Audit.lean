import GhostRecon.Common.JsonText
import GhostRecon.Security.Policy

/-!
Audit records. Before a record is stored its payload is redacted, its actor is taken from the
verified identity, and its text is sealed with a keyed digest. The digest is made before the
database fills in the actor of a record that has none.
-/

namespace GhostRecon.Security

section Redaction

variable [Casing]

/-- What a payload is made of: scalars, other objects by their text, sequences and mappings. -/
inductive Payload where
  | scalar (value : Scalar)
  | other (text : String)
  | seq (items : List Payload)
  | mapping (fields : List (String × Payload))

def redactedText : String := "[redacted]"

def sensitiveKeys : List String :=
  ["authorization", "cookie", "token", "access_token", "refresh_token", "id_token", "password",
    "secret", "otp", "code", "email_body", "provider_payload", "private_key"]

def isSensitive (key : String) : Bool :=
  lower key ∈ sensitiveKeys

mutual

/-- `redact`. -/
def Payload.redact : Payload → JsonValue
  | .scalar value => .scalar value
  | .other text => .scalar (.str (String.ofList (text.toList.take 256)))
  | .seq items => .list (redactItems items)
  | .mapping fields => .dict (sortFields (redactFields fields))

def redactItems : List Payload → List JsonValue
  | [] => []
  | item :: rest => item.redact :: redactItems rest

def redactFields : List (String × Payload) → List (String × JsonValue)
  | [] => []
  | field :: rest => redactField field :: redactFields rest

def redactField : String × Payload → String × JsonValue
  | (key, value) =>
    (key, if isSensitive key then .scalar (.str redactedText) else value.redact)

end

mutual

/-- A redacted value, as a payload again. -/
def toPayload : JsonValue → Payload
  | .scalar value => .scalar value
  | .list items => .seq (toItems items)
  | .dict fields => .mapping (toFields fields)

def toItems : List JsonValue → List Payload
  | [] => []
  | item :: rest => toPayload item :: toItems rest

def toFields : List (String × JsonValue) → List (String × Payload)
  | [] => []
  | field :: rest => toField field :: toFields rest

def toField : String × JsonValue → String × Payload
  | (key, value) => (key, toPayload value)

end

mutual

/-- The payloads differ in nothing but values under sensitive keys. -/
def SameButSensitive : Payload → Payload → Prop
  | .scalar value, .scalar value' => value = value'
  | .other text, .other text' => text = text'
  | .seq items, .seq items' => SameItems items items'
  | .mapping fields, .mapping fields' => SameFields fields fields'
  | _, _ => False

def SameItems : List Payload → List Payload → Prop
  | [], [] => True
  | item :: rest, item' :: rest' => SameButSensitive item item' ∧ SameItems rest rest'
  | _, _ => False

def SameFields : List (String × Payload) → List (String × Payload) → Prop
  | [], [] => True
  | field :: rest, field' :: rest' => SameField field field' ∧ SameFields rest rest'
  | _, _ => False

def SameField : String × Payload → String × Payload → Prop
  | (key, value), (key', value') =>
    key = key' ∧ (isSensitive key = true ∨ SameButSensitive value value')

end

end Redaction

section Records

variable [Casing]

def IdentityType.value : IdentityType → String
  | .human => "human"
  | .service => "service"
  | .worker => "worker"

/-- An audit record, with the payload before or after it is redacted. -/
structure AuditRecord (π : Type) where
  actor : Option String
  humanSubject : Option String := none
  serviceSubject : Option String := none
  onBehalfOfSubject : Option String := none
  identityType : Option String := none
  action : String
  operation : Option String := none
  permission : Option String := none
  decision : Option String := none
  assurance : Option String := none
  policyVersion : Option String := none
  mappingVersion : Option String := none
  environment : Option String := none
  requestId : Option String := none
  correlationId : Option String := none
  entityType : String
  entityId : String
  payload : π
  networkMetadata : π
  integrityHmac : Option String := none

/-- What is read of the settings; a missing key is empty. -/
structure AuditSettings where
  strictRuntime : Bool
  auditHmacKey : String

def optionalText (value : Option String) : JsonValue :=
  match value with
  | none => .scalar .null
  | some text => .scalar (.str text)

/-- The values that are sealed. -/
def sealedFields (record : AuditRecord JsonValue) : List (String × JsonValue) :=
  [("actor", optionalText record.actor), ("action", .scalar (.str record.action)),
    ("operation", optionalText record.operation), ("permission", optionalText record.permission),
    ("decision", optionalText record.decision), ("entity_type", .scalar (.str record.entityType)),
    ("entity_id", .scalar (.str record.entityId)),
    ("correlation_id", optionalText record.correlationId),
    ("payload", (toPayload record.payload).redact)]

/-- `integrity_hmac`, with the keyed digest of a text. -/
def integrityHmac (hmac : String → String → String) (record : AuditRecord JsonValue)
    (key : String) : String :=
  hmac key (JsonValue.dict (sealedFields record)).dumps

/-- What the verified identity and the operation leave on a record. -/
def AuditRecord.withIdentity {π : Type} (identity : IdentityContext) (operation : Option String)
    (record : AuditRecord π) : AuditRecord π :=
  { record with
    actor := some identity.actorLabel
    humanSubject :=
      if identity.identityType.value = "human" then some identity.representedSubject else none
    serviceSubject := identity.callingService
    onBehalfOfSubject := identity.onBehalfOfSubject
    identityType := some identity.identityType.value
    operation
    assurance := some identity.assurance.value
    policyVersion := some identity.permissionPolicyVersion
    mappingVersion := some identity.claimMappingVersion
    environment := some identity.environment
    requestId := some identity.requestId
    correlationId := some identity.correlationId }

def AuditRecord.redacted (record : AuditRecord Payload) : AuditRecord JsonValue :=
  { record with
    payload := record.payload.redact
    networkMetadata := record.networkMetadata.redact }

def AuditRecord.attributed {π : Type} (identity : Option IdentityContext)
    (operation : Option String) (record : AuditRecord π) : AuditRecord π :=
  match identity with
  | some identity => record.withIdentity identity operation
  | none => record

/-- `record.decision or "allowed"`. -/
def AuditRecord.decided {π : Type} (record : AuditRecord π) : AuditRecord π :=
  { record with decision := some ((record.decision.bind nonEmpty).getD "allowed") }

def withSeal (hmac : String → String → String) (key : String)
    (record : AuditRecord JsonValue) : AuditRecord JsonValue :=
  if key = "" then record
  else { record with integrityHmac := some (integrityHmac hmac record key) }

/-- What `secure_audit_events` does with one record. -/
def secureRecord (hmac : String → String → String) (settings : AuditSettings)
    (identity : Option IdentityContext) (operation : Option String)
    (record : AuditRecord Payload) : Except String (AuditRecord JsonValue) :=
  if settings.strictRuntime ∧
      (identity.isNone ∨ operation.isNone ∨ settings.auditHmacKey = "") then
    .error "verified audit context is unavailable"
  else
    .ok (withSeal hmac settings.auditHmacKey
      (record.redacted.attributed identity operation).decided)

/-- `secure_audit_events`: the new records of a session, one after the other. -/
def secureAuditEvents (hmac : String → String → String) (settings : AuditSettings)
    (identity : Option IdentityContext) (operation : Option String)
    (records : List (AuditRecord Payload)) : Except String (List (AuditRecord JsonValue)) :=
  records.mapM (secureRecord hmac settings identity operation)

/-- The row of a record: the column of the actor has a default, and the column of the payload
gives back what it keeps of a value, if it takes it. -/
def storeRow (column : JsonValue → Option JsonValue) (record : AuditRecord JsonValue) :
    Option (AuditRecord JsonValue) := do
  let payload ← column record.payload
  let networkMetadata ← column record.networkMetadata
  return { record with actor := some (record.actor.getD "system"), payload, networkMetadata }

end Records

section Lists

variable [Casing]

theorem redactItems_eq (items : List Payload) : redactItems items = items.map Payload.redact := by
  induction items with
  | nil => rw [redactItems, List.map_nil]
  | cons item rest ih => rw [redactItems, ih, List.map_cons]

theorem redactFields_eq (fields : List (String × Payload)) :
    redactFields fields = fields.map redactField := by
  induction fields with
  | nil => rw [redactFields, List.map_nil]
  | cons field rest ih => rw [redactFields, ih, List.map_cons]

omit [Casing] in
theorem toItems_eq (items : List JsonValue) : toItems items = items.map toPayload := by
  induction items with
  | nil => rw [toItems, List.map_nil]
  | cons item rest ih => rw [toItems, ih, List.map_cons]

omit [Casing] in
theorem toFields_eq (fields : List (String × JsonValue)) :
    toFields fields = fields.map toField := by
  induction fields with
  | nil => rw [toFields, List.map_nil]
  | cons field rest ih => rw [toFields, ih, List.map_cons]

omit [Casing] in
mutual

/-- What holds of scalars and objects, and of sequences and mappings when it holds of all in
them, holds of every payload. -/
theorem Payload.induct {P : Payload → Prop} (hscalar : ∀ value, P (.scalar value))
    (hother : ∀ text, P (.other text)) (hseq : ∀ items, (∀ item ∈ items, P item) → P (.seq items))
    (hmapping : ∀ fields : List (String × Payload),
      (∀ field ∈ fields, P field.2) → P (.mapping fields)) :
    (payload : Payload) → P payload
  | .scalar value => hscalar value
  | .other text => hother text
  | .seq items => hseq items (Payload.induct_items hscalar hother hseq hmapping items)
  | .mapping fields =>
    hmapping fields (Payload.induct_fields hscalar hother hseq hmapping fields)

theorem Payload.induct_items {P : Payload → Prop} (hscalar : ∀ value, P (.scalar value))
    (hother : ∀ text, P (.other text)) (hseq : ∀ items, (∀ item ∈ items, P item) → P (.seq items))
    (hmapping : ∀ fields : List (String × Payload),
      (∀ field ∈ fields, P field.2) → P (.mapping fields)) :
    (items : List Payload) → ∀ item ∈ items, P item
  | [] => by simp
  | item :: rest => by
    intro chosen hchosen
    rcases List.mem_cons.mp hchosen with hfirst | hrest
    · rw [hfirst]
      exact Payload.induct hscalar hother hseq hmapping item
    · exact Payload.induct_items hscalar hother hseq hmapping rest chosen hrest

theorem Payload.induct_fields {P : Payload → Prop} (hscalar : ∀ value, P (.scalar value))
    (hother : ∀ text, P (.other text)) (hseq : ∀ items, (∀ item ∈ items, P item) → P (.seq items))
    (hmapping : ∀ fields : List (String × Payload),
      (∀ field ∈ fields, P field.2) → P (.mapping fields)) :
    (fields : List (String × Payload)) → ∀ field ∈ fields, P field.2
  | [] => by simp
  | (key, value) :: rest => by
    intro chosen hchosen
    rcases List.mem_cons.mp hchosen with hfirst | hrest
    · rw [hfirst]
      exact Payload.induct hscalar hother hseq hmapping value
    · exact Payload.induct_fields hscalar hother hseq hmapping rest chosen hrest

end

end Lists

section Redacted

variable [Casing]

theorem redactField_sensitive {key : String} (h : isSensitive key = true) (value : Payload) :
    redactField (key, value) = (key, .scalar (.str redactedText)) := by
  rw [redactField, if_pos h]

theorem redactField_plain {key : String} (h : ¬isSensitive key = true) (value : Payload) :
    redactField (key, value) = (key, value.redact) := by
  rw [redactField, if_neg h]

/-- A redacted value is redacted already. -/
theorem redact_redact (payload : Payload) :
    (toPayload payload.redact).redact = payload.redact := by
  induction payload using Payload.induct with
  | hscalar value => rw [Payload.redact, toPayload, Payload.redact]
  | hother text => rw [Payload.redact, toPayload, Payload.redact]
  | hseq items ih =>
    rw [Payload.redact, redactItems_eq, toPayload, toItems_eq, Payload.redact, redactItems_eq,
      List.map_map, List.map_map]
    exact congrArg JsonValue.list (List.map_congr_left ih)
  | hmapping fields ih =>
    have hfields : ∀ field ∈ fields, redactField (toField (redactField field)) =
        redactField field := by
      rintro ⟨key, value⟩ hfield
      by_cases hsensitive : isSensitive key = true
      · rw [redactField_sensitive hsensitive, toField, redactField_sensitive hsensitive]
      · have hvalue := ih _ hfield
        rw [redactField_plain hsensitive, toField, redactField_plain hsensitive, hvalue]
    have hkey : ∀ field : String × JsonValue, ((redactField ∘ toField) field).1 = field.1 := by
      rintro ⟨key, value⟩
      rw [Function.comp_apply, toField, redactField]
    have hagain : (sortFields (fields.map redactField)).map (redactField ∘ toField) =
        sortFields (fields.map redactField) := by
      rw [← sortFields_map_of_key hkey, List.map_map]
      exact congrArg sortFields (List.map_congr_left hfields)
    rw [Payload.redact, redactFields_eq, toPayload, toFields_eq, Payload.redact, redactFields_eq,
      List.map_map, hagain, sortFields_sortFields]

/-- A redacted value has its keys in order. -/
theorem redact_sorted (payload : Payload) : payload.redact.sorted = payload.redact := by
  induction payload using Payload.induct with
  | hscalar value => rw [Payload.redact, JsonValue.sorted]
  | hother text => rw [Payload.redact, JsonValue.sorted]
  | hseq items ih =>
    rw [Payload.redact, redactItems_eq, JsonValue.sorted, sortedItems_eq, List.map_map]
    exact congrArg JsonValue.list (List.map_congr_left ih)
  | hmapping fields ih =>
    have hfields : ∀ field ∈ fields,
        ((redactField field).1, (redactField field).2.sorted) = redactField field := by
      rintro ⟨key, value⟩ hfield
      by_cases hsensitive : isSensitive key = true
      · rw [redactField_sensitive hsensitive, JsonValue.sorted]
      · have hvalue := ih _ hfield
        rw [redactField_plain hsensitive, hvalue]
    have hkey : ∀ field : String × JsonValue, (field.1, field.2.sorted).1 = field.1 :=
      fun _ => rfl
    have hagain : (sortFields (fields.map redactField)).map
        (fun field => (field.1, field.2.sorted)) = sortFields (fields.map redactField) := by
      rw [← sortFields_map_of_key hkey, List.map_map]
      exact congrArg sortFields (List.map_congr_left hfields)
    rw [Payload.redact, redactFields_eq, JsonValue.sorted, sortedFields_eq, hagain,
      sortFields_sortFields]

theorem redactItems_eq_of_same {items items' : List Payload}
    (ih : ∀ item ∈ items, ∀ item', SameButSensitive item item' → item.redact = item'.redact)
    (h : SameItems items items') : redactItems items = redactItems items' := by
  induction items generalizing items' with
  | nil =>
    cases items' with
    | nil => rfl
    | cons item' rest' => simp [SameItems] at h
  | cons item rest ihrest =>
    cases items' with
    | nil => simp [SameItems] at h
    | cons item' rest' =>
      rw [SameItems] at h
      rw [redactItems, redactItems, ih item List.mem_cons_self item' h.1,
        ihrest (fun other hother => ih other (List.mem_cons_of_mem _ hother)) h.2]

theorem redactFields_eq_of_same {fields fields' : List (String × Payload)}
    (ih : ∀ field ∈ fields, ∀ value', SameButSensitive field.2 value' →
      field.2.redact = value'.redact)
    (h : SameFields fields fields') : redactFields fields = redactFields fields' := by
  induction fields generalizing fields' with
  | nil =>
    cases fields' with
    | nil => rfl
    | cons field' rest' => simp [SameFields] at h
  | cons field rest ihrest =>
    cases fields' with
    | nil => simp [SameFields] at h
    | cons field' rest' =>
      obtain ⟨key, value⟩ := field
      obtain ⟨key', value'⟩ := field'
      rw [SameFields, SameField] at h
      obtain ⟨⟨rfl, hvalue⟩, hrest⟩ := h
      rw [redactFields, redactFields,
        ihrest (fun other hother => ih other (List.mem_cons_of_mem _ hother)) hrest]
      by_cases hsensitive : isSensitive key = true
      · rw [redactField_sensitive hsensitive, redactField_sensitive hsensitive]
      · rcases hvalue with hkey | hsame
        · exact absurd hkey hsensitive
        · rw [redactField_plain hsensitive, redactField_plain hsensitive,
            ih _ List.mem_cons_self value' hsame]

/-- What differs in sensitive values alone is the same when it is redacted. -/
theorem redact_eq_of_same {payload payload' : Payload} (h : SameButSensitive payload payload') :
    payload.redact = payload'.redact := by
  induction payload using Payload.induct generalizing payload' with
  | hscalar value =>
    cases payload' with
    | scalar value' =>
      rw [SameButSensitive] at h
      rw [h]
    | _ => simp [SameButSensitive] at h
  | hother text =>
    cases payload' with
    | other text' =>
      rw [SameButSensitive] at h
      rw [h]
    | _ => simp [SameButSensitive] at h
  | hseq items ih =>
    cases payload' with
    | seq items' =>
      rw [SameButSensitive] at h
      rw [Payload.redact, Payload.redact,
        redactItems_eq_of_same (fun item hitem item' hsame => ih item hitem hsame) h]
    | _ => simp [SameButSensitive] at h
  | hmapping fields ih =>
    cases payload' with
    | mapping fields' =>
      rw [SameButSensitive] at h
      rw [Payload.redact, Payload.redact,
        redactFields_eq_of_same (fun field hfield value' hsame => ih field hfield hsame) h]
    | _ => simp [SameButSensitive] at h

end Redacted

section Seals

variable [Casing] {hmac : String → String → String} {settings : AuditSettings}
  {identity : Option IdentityContext} {operation : Option String} {record : AuditRecord Payload}
  {secured row : AuditRecord JsonValue} {column : JsonValue → Option JsonValue}

omit [Casing] in
theorem optionalText_injective : Function.Injective optionalText := by
  intro value value' h
  cases value with
  | none =>
    cases value' with
    | none => rfl
    | some text' => cases h
  | some text =>
    cases value' with
    | none => cases h
    | some text' =>
      cases h
      rfl

omit [Casing] in
theorem optionalText_sorted (value : Option String) :
    (optionalText value).sorted = optionalText value := by
  cases value with
  | none => rw [optionalText, JsonValue.sorted]
  | some text => rw [optionalText, JsonValue.sorted]

/-- The values of two records that have one text. -/
structure SameSealed (record record' : AuditRecord JsonValue) : Prop where
  actor : record.actor = record'.actor
  action : record.action = record'.action
  operation : record.operation = record'.operation
  permission : record.permission = record'.permission
  decision : record.decision = record'.decision
  entityType : record.entityType = record'.entityType
  entityId : record.entityId = record'.entityId
  correlationId : record.correlationId = record'.correlationId
  payload : (toPayload record.payload).redact = (toPayload record'.payload).redact

theorem sealedFields_keys (record : AuditRecord JsonValue) :
    ((sealedFields record).map (·.1)).Nodup := by
  have hkeys : (sealedFields record).map (·.1) =
      ["actor", "action", "operation", "permission", "decision", "entity_type", "entity_id",
        "correlation_id", "payload"] := rfl
  rw [hkeys]
  decide

/-- A value that both records seal under one key. -/
theorem sealed_value_eq {record record' : AuditRecord JsonValue}
    (h : (JsonValue.dict (sealedFields record)).dumps =
      (JsonValue.dict (sealedFields record')).dumps) (key : String) (value value' : JsonValue)
    (hmem : (key, value) ∈ sealedFields record) (hmem' : (key, value') ∈ sealedFields record') :
    value.sorted = value'.sorted :=
  JsonValue.value_eq_of_sorted_eq (JsonValue.sorted_eq_of_dumps_eq h) (sealedFields_keys record')
    hmem hmem'

theorem sealed_optional_eq {record record' : AuditRecord JsonValue}
    (h : (JsonValue.dict (sealedFields record)).dumps =
      (JsonValue.dict (sealedFields record')).dumps) (key : String) (text text' : Option String)
    (hmem : (key, optionalText text) ∈ sealedFields record)
    (hmem' : (key, optionalText text') ∈ sealedFields record') : text = text' := by
  have hvalue := sealed_value_eq h key _ _ hmem hmem'
  rw [optionalText_sorted, optionalText_sorted] at hvalue
  exact optionalText_injective hvalue

theorem sealed_text_eq {record record' : AuditRecord JsonValue}
    (h : (JsonValue.dict (sealedFields record)).dumps =
      (JsonValue.dict (sealedFields record')).dumps) (key : String) (text text' : String)
    (hmem : (key, JsonValue.scalar (.str text)) ∈ sealedFields record)
    (hmem' : (key, JsonValue.scalar (.str text')) ∈ sealedFields record') : text = text' :=
  Option.some.inj (sealed_optional_eq h key (some text) (some text') hmem hmem')

/-- Records have one text exactly when what they seal is the same. -/
theorem sealed_dumps_eq_iff {record record' : AuditRecord JsonValue} :
    (JsonValue.dict (sealedFields record)).dumps = (JsonValue.dict (sealedFields record')).dumps ↔
      SameSealed record record' := by
  constructor
  · intro h
    have hpayload := sealed_value_eq h "payload" (toPayload record.payload).redact
      (toPayload record'.payload).redact (by simp [sealedFields]) (by simp [sealedFields])
    rw [redact_sorted, redact_sorted] at hpayload
    constructor
    · exact sealed_optional_eq h "actor" _ _ (by simp [sealedFields]) (by simp [sealedFields])
    · exact sealed_text_eq h "action" _ _ (by simp [sealedFields]) (by simp [sealedFields])
    · exact sealed_optional_eq h "operation" _ _ (by simp [sealedFields]) (by simp [sealedFields])
    · exact sealed_optional_eq h "permission" _ _ (by simp [sealedFields]) (by simp [sealedFields])
    · exact sealed_optional_eq h "decision" _ _ (by simp [sealedFields]) (by simp [sealedFields])
    · exact sealed_text_eq h "entity_type" _ _ (by simp [sealedFields]) (by simp [sealedFields])
    · exact sealed_text_eq h "entity_id" _ _ (by simp [sealedFields]) (by simp [sealedFields])
    · exact sealed_optional_eq h "correlation_id" _ _ (by simp [sealedFields])
        (by simp [sealedFields])
    · exact hpayload
  · intro h
    unfold sealedFields
    rw [h.actor, h.action, h.operation, h.permission, h.decision, h.entityType, h.entityId,
      h.correlationId, h.payload]

/-- What securing a record leaves of it. -/
theorem secureRecord_ok (h : secureRecord hmac settings identity operation record = .ok secured)
    (hkey : settings.auditHmacKey ≠ "") :
    secured.payload = record.payload.redact ∧
      secured.actor = (identity.map (·.actorLabel)).or record.actor ∧
      secured.integrityHmac = some (integrityHmac hmac secured settings.auditHmacKey) := by
  unfold secureRecord at h
  split at h
  · cases h
  · obtain rfl := Except.ok.inj h
    unfold withSeal
    rw [if_neg hkey]
    cases identity with
    | none => exact ⟨rfl, rfl, rfl⟩
    | some known => exact ⟨rfl, rfl, rfl⟩

omit [Casing] in
/-- What the row keeps of the record. -/
theorem storeRow_some (h : storeRow column secured = some row) :
    column secured.payload = some row.payload ∧
      row.actor = some (secured.actor.getD "system") ∧
      ∃ payload networkMetadata actor,
        row = { secured with actor, payload, networkMetadata } := by
  unfold storeRow at h
  cases hpayload : column secured.payload with
  | none =>
    rw [hpayload] at h
    cases h
  | some payload =>
    cases hmetadata : column secured.networkMetadata with
    | none =>
      rw [hpayload, hmetadata] at h
      cases h
    | some networkMetadata =>
      rw [hpayload, hmetadata] at h
      cases h
      exact ⟨rfl, rfl, _, _, _, rfl⟩

/-- The stored row has the seal of its own values. -/
def Verifies (hmac : String → String → String) (key : String) (row : AuditRecord JsonValue) :
    Prop :=
  row.integrityHmac = some (integrityHmac hmac row key)

/-- The payload comes back from its column as it was. -/
def Survives (column : JsonValue → Option JsonValue) (payload : Payload) : Prop :=
  ∃ stored, column payload.redact = some stored ∧ (toPayload stored).redact = payload.redact

/-- A stored row verifies exactly when it had an actor before it was stored and its payload comes
back from the column. -/
theorem verifies_iff (hinj : ∀ key, Function.Injective (hmac key))
    (hkey : settings.auditHmacKey ≠ "")
    (hsecure : secureRecord hmac settings identity operation record = .ok secured)
    (hstore : storeRow column secured = some row) :
    Verifies hmac settings.auditHmacKey row ↔
      (identity.isSome = true ∨ record.actor.isSome = true) ∧
        Survives column record.payload := by
  obtain ⟨hpayload, hactor, hseal⟩ := secureRecord_ok hsecure hkey
  obtain ⟨hcolumn, hdefault, payload, networkMetadata, actor, hrow⟩ := storeRow_some hstore
  have hpresent : secured.actor.isSome = true ↔
      identity.isSome = true ∨ record.actor.isSome = true := by
    rw [hactor]
    cases identity with
    | none => simp
    | some known => simp
  have hsame : Verifies hmac settings.auditHmacKey row ↔ SameSealed secured row := by
    have hkept : row.integrityHmac = secured.integrityHmac := by rw [hrow]
    unfold Verifies
    rw [hkept, hseal, Option.some.injEq]
    unfold integrityHmac
    rw [(hinj settings.auditHmacKey).eq_iff]
    exact sealed_dumps_eq_iff
  rw [hsame, ← hpresent]
  constructor
  · intro h
    constructor
    · rw [h.actor, hdefault]
      rfl
    · refine ⟨row.payload, ?_, ?_⟩
      · rw [← hpayload]
        exact hcolumn
      · rw [← h.payload, hpayload, redact_redact]
  · rintro ⟨hsome, stored, hstored, hback⟩
    rw [← hpayload, hcolumn] at hstored
    obtain rfl := Option.some.inj hstored
    obtain ⟨label, hlabel⟩ := Option.isSome_iff_exists.mp hsome
    have hactorKept : secured.actor = row.actor := by
      rw [hdefault, hlabel]
      rfl
    have hpayloadKept : (toPayload secured.payload).redact = (toPayload row.payload).redact := by
      rw [hback, hpayload, redact_redact]
    exact ⟨hactorKept, by rw [hrow], by rw [hrow], by rw [hrow], by rw [hrow], by rw [hrow],
      by rw [hrow], by rw [hrow], hpayloadKept⟩

/-- The records are the same but for sensitive values. -/
structure SameRecord (record record' : AuditRecord Payload) : Prop where
  payload : SameButSensitive record.payload record'.payload
  networkMetadata : SameButSensitive record.networkMetadata record'.networkMetadata
  others : { record' with
    payload := record.payload
    networkMetadata := record.networkMetadata } = record

theorem SameRecord.redacted_eq {record' : AuditRecord Payload} (h : SameRecord record record') :
    record.redacted = record'.redacted := by
  obtain ⟨hpayload, hmetadata, hothers⟩ := h
  have hpayload := redact_eq_of_same hpayload
  have hmetadata := redact_eq_of_same hmetadata
  rw [← hothers]
  unfold AuditRecord.redacted
  dsimp only
  rw [hpayload, hmetadata]

/-- Records that are the same but for sensitive values are secured the same. -/
theorem secureRecord_eq_of_same {record' : AuditRecord Payload} (h : SameRecord record record') :
    secureRecord hmac settings identity operation record =
      secureRecord hmac settings identity operation record' := by
  unfold secureRecord
  rw [h.redacted_eq]

theorem secureAuditEvents_eq_of_same {records records' : List (AuditRecord Payload)}
    (h : List.Forall₂ SameRecord records records') :
    secureAuditEvents hmac settings identity operation records =
      secureAuditEvents hmac settings identity operation records' := by
  unfold secureAuditEvents
  induction h with
  | nil => rfl
  | cons hhead _ ih => rw [List.mapM_cons, List.mapM_cons, secureRecord_eq_of_same hhead, ih]

/-- What two rows have in common. -/
structure SameRow (row row' : AuditRecord JsonValue) : Prop where
  actor : row.actor = row'.actor
  action : row.action = row'.action
  operation : row.operation = row'.operation
  permission : row.permission = row'.permission
  decision : row.decision = row'.decision
  entityType : row.entityType = row'.entityType
  entityId : row.entityId = row'.entityId
  correlationId : row.correlationId = row'.correlationId
  payload : row.payload = row'.payload

/-- Rows of one seal have the same values. -/
theorem sameRow_of_seal {identity' : Option IdentityContext} {operation' : Option String}
    {record' : AuditRecord Payload} {secured' row' : AuditRecord JsonValue}
    (hinj : ∀ key, Function.Injective (hmac key)) (hkey : settings.auditHmacKey ≠ "")
    (hsecure : secureRecord hmac settings identity operation record = .ok secured)
    (hstore : storeRow column secured = some row)
    (hsecure' : secureRecord hmac settings identity' operation' record' = .ok secured')
    (hstore' : storeRow column secured' = some row')
    (hseals : row.integrityHmac = row'.integrityHmac) : SameRow row row' := by
  obtain ⟨hpayload, -, hseal⟩ := secureRecord_ok hsecure hkey
  obtain ⟨hpayload', -, hseal'⟩ := secureRecord_ok hsecure' hkey
  obtain ⟨hcolumn, hdefault, payload, networkMetadata, actor, hrow⟩ := storeRow_some hstore
  obtain ⟨hcolumn', hdefault', payload', networkMetadata', actor', hrow'⟩ :=
    storeRow_some hstore'
  have hkept : row.integrityHmac = secured.integrityHmac := by rw [hrow]
  have hkept' : row'.integrityHmac = secured'.integrityHmac := by rw [hrow']
  rw [hkept, hkept', hseal, hseal', Option.some.injEq] at hseals
  have hsame := sealed_dumps_eq_iff.mp (hinj _ hseals)
  have hpayloads : secured.payload = secured'.payload := by
    have hredacted := hsame.payload
    rw [hpayload, hpayload', redact_redact, redact_redact] at hredacted
    rw [hpayload, hpayload', hredacted]
  constructor
  · rw [hdefault, hdefault', hsame.actor]
  · rw [hrow, hrow']
    exact hsame.action
  · rw [hrow, hrow']
    exact hsame.operation
  · rw [hrow, hrow']
    exact hsame.permission
  · rw [hrow, hrow']
    exact hsame.decision
  · rw [hrow, hrow']
    exact hsame.entityType
  · rw [hrow, hrow']
    exact hsame.entityId
  · rw [hrow, hrow']
    exact hsame.correlationId
  · rw [hpayloads, hcolumn'] at hcolumn
    exact (Option.some.inj hcolumn).symm

end Seals

/-- Redaction is idempotent, sensitive values leave no trace, rows of one seal have the same
values, and a stored row has the seal of its own values exactly when its actor was known before it
was stored and its payload comes back from the column as it was. -/
theorem audit_rows_sealed_iff [Casing] {hmac : String → String → String}
    (hinj : ∀ key, Function.Injective (hmac key)) (settings : AuditSettings)
    (column : JsonValue → Option JsonValue) :
    (∀ payload : Payload, (toPayload payload.redact).redact = payload.redact) ∧
    (∀ identity operation records records', List.Forall₂ SameRecord records records' →
      secureAuditEvents hmac settings identity operation records =
        secureAuditEvents hmac settings identity operation records') ∧
    (settings.auditHmacKey ≠ "" → ∀ identity operation record secured row,
      secureRecord hmac settings identity operation record = .ok secured →
      storeRow column secured = some row →
      (Verifies hmac settings.auditHmacKey row ↔
        (identity.isSome = true ∨ record.actor.isSome = true) ∧
          Survives column record.payload)) ∧
    (settings.auditHmacKey ≠ "" → ∀ identity operation record secured row
      identity' operation' record' secured' row',
      secureRecord hmac settings identity operation record = .ok secured →
      storeRow column secured = some row →
      secureRecord hmac settings identity' operation' record' = .ok secured' →
      storeRow column secured' = some row' →
      row.integrityHmac = row'.integrityHmac → SameRow row row') :=
  ⟨redact_redact, fun _ _ _ _ hsame => secureAuditEvents_eq_of_same hsame,
    fun hkey _ _ _ _ _ hsecure hstore => verifies_iff hinj hkey hsecure hstore,
    fun hkey _ _ _ _ _ _ _ _ _ _ hsecure hstore hsecure' hstore' hseals =>
      sameRow_of_seal hinj hkey hsecure hstore hsecure' hstore' hseals⟩

section Rows

/-- A keyed digest that tells all texts apart. -/
def plainHmac (key text : String) : String :=
  key ++ text

theorem plainHmac_injective (key : String) : Function.Injective (plainHmac key) := by
  intro text text' h
  have hchars := congrArg String.toList h
  unfold plainHmac at hchars
  rw [String.toList_append, String.toList_append] at hchars
  exact String.toList_inj.mp (List.append_cancel_left hchars)

def localSettings : AuditSettings := ⟨false, "k"⟩

/-- The approval of a review, by the given actor. -/
def approval (actor : Option String) : AuditRecord Payload where
  actor
  action := "approve"
  entityType := "review"
  entityId := "42"
  payload := .mapping [("token", .scalar (.str "abc")), ("score", .scalar (.int 7))]
  networkMetadata := .mapping []

def securedApproval (actor : Option String) : AuditRecord JsonValue :=
  withSeal plainHmac "k" (approval actor).redacted.decided

def approvalRow (actor : Option String) : AuditRecord JsonValue :=
  { securedApproval actor with actor := some (actor.getD "system") }

theorem approval_secured (actor : Option String) :
    secureRecord plainHmac localSettings none none (approval actor) =
      .ok (securedApproval actor) := by
  unfold secureRecord localSettings
  rw [if_neg (by simp)]
  rfl

theorem approval_stored (actor : Option String) :
    storeRow some (securedApproval actor) = some (approvalRow actor) := rfl

theorem approval_survives (actor : Option String) : Survives some (approval actor).payload :=
  ⟨_, rfl, redact_redact _⟩

/-- The approval of a known reviewer verifies. -/
theorem known_approval_verifies : Verifies plainHmac "k" (approvalRow (some "reviewer")) := by
  obtain ⟨-, -, hverifies, -⟩ := audit_rows_sealed_iff plainHmac_injective localSettings some
  exact (hverifies (by decide) none none _ _ _ (approval_secured (some "reviewer"))
    (approval_stored _)).mpr ⟨Or.inr rfl, approval_survives _⟩

/-- An approval of no one is stored under the default actor, and its row does not verify. -/
theorem default_actor_fails :
    secureRecord plainHmac localSettings none none (approval none) = .ok (securedApproval none) ∧
      storeRow some (securedApproval none) = some (approvalRow none) ∧
      ¬Verifies plainHmac "k" (approvalRow none) := by
  refine ⟨approval_secured none, approval_stored none, ?_⟩
  intro hverifies
  have hkey : localSettings.auditHmacKey ≠ "" := by decide
  obtain ⟨hactor, -⟩ := (verifies_iff plainHmac_injective hkey (approval_secured none)
    (approval_stored none)).mp hverifies
  rcases hactor with hidentity | hgiven
  · cases hidentity
  · cases hgiven

end Rows

end GhostRecon.Security
