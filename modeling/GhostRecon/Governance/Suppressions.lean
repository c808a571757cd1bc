import GhostRecon.Store

/-!
Who may be contacted. The rules that need no database come first; a stored
suppression then blocks an address, its domain or a contact on one channel
while it is active and has not expired. Suppressions are only ever inserted.
-/

namespace GhostRecon

open Lib (Id Table query write)

variable [Casing]

/-- `ROLE_BASED_PREFIXES`. -/
def roleBasedPrefixes : List String :=
  ["admin", "abuse", "billing", "contact", "info", "privacy", "sales", "support"]

/-- `SUPPORTED_CHANNELS`. -/
def supportedChannels : List String :=
  ["email", "task", "call", "linkedin"]

structure SuppressionCheckResult where
  allowed : Bool
  reason : Option String := none
  deriving DecidableEq, Repr

/-- The suppression rules that always apply. -/
def evaluateSuppression (email : Option String) (channel : String) :
    SuppressionCheckResult :=
  if truthy email && (email.map localPart).any (· ∈ roleBasedPrefixes) then
    { allowed := false
      reason := some "Role-based address requires explicit approval before outreach" }
  else if lower channel ∉ supportedChannels then
    { allowed := false, reason := some "Unsupported outreach channel" }
  else
    { allowed := true }

/-- An empty or missing value adds no clause to the query. -/
def Suppression.matchesEmail (row : Suppression) (email : Option String) : Bool :=
  truthy email && row.email == email.map lower

def Suppression.matchesDomain (row : Suppression) (domain : Option String) : Bool :=
  truthy domain && row.domain == domain.map lower

def Suppression.matchesContact (row : Suppression) (contactId : Option Id) : Bool :=
  contactId.isSome && row.contactId == contactId

/-- Active, on this channel and not expired at `now`. -/
def Suppression.inForce (row : Suppression) (now : Time) (channel : String) : Bool :=
  row.active && row.channel == lower channel && row.expiresAt.all (now < ·)

def Suppression.blocks (row : Suppression) (now : Time) (email domain : Option String)
    (contactId : Option Id) (channel : String) : Bool :=
  row.inForce now channel &&
    (row.matchesEmail email || row.matchesDomain domain || row.matchesContact contactId)

/-- The decision both stores of rules give, once the request is well formed. -/
def suppressionDecision (now : Time) (email domain : Option String)
    (contactId : Option Id) (channel : String) (s : Store) : SuppressionCheckResult :=
  let baseline := evaluateSuppression email channel
  if !baseline.allowed then baseline
  else
    match s.suppressions.first? (·.blocks now email domain contactId channel) with
    | none => baseline
    | some (_, row) => { allowed := false, reason := some row.reason }

structure SuppressionCreate where
  email : Option String := none
  domain : Option String := none
  contactId : Option Id := none
  channel : String := "email"
  targetType : Option String := none
  targetId : Option String := none
  reason : String
  source : String := "governance"
  active : Bool := true
  expiresAt : Option Time := none
  deriving DecidableEq, Repr

/-- The row `create_suppression` inserts. -/
def SuppressionCreate.row (request : SuppressionCreate) (now : Time)
    (idempotencyKey : String) : Suppression where
  email := if truthy request.email then request.email.map lower else none
  domain := if truthy request.domain then request.domain.map lower else none
  contactId := request.contactId
  channel := lower request.channel
  targetType := request.targetType
  targetId := request.targetId
  reason := request.reason
  source := request.source
  active := request.active
  expiresAt := request.expiresAt
  idempotencyKey := some idempotencyKey
  createdAt := now

/-- Insert a suppression with its outbox event. -/
def insertSuppression (row : Suppression) (s : Store) : Store :=
  enqueueEvent .suppressionCreated "suppression" s.suppressions.length
    (.once .suppressionCreated s.suppressions.length)
    { s with suppressions := s.suppressions ++ [row] }

def createSuppression (rt : Runtime) (request : SuppressionCreate)
    (idempotencyKey : String) : Tx Id := sessionScope do
  match ← query fun s =>
    s.suppressions.first? (·.idempotencyKey == some idempotencyKey) with
  | some (id, _) => return id
  | none =>
    let id ← query (·.suppressions.length)
    write (insertSuppression (request.row rt.now idempotencyKey))
    flush
    return id

/-- An unexpiring row on a channel is in force there at every time. -/
theorem Suppression.inForce_of_unexpiring {row : Suppression} {channel : String}
    (hactive : row.active = true) (hchannel : row.channel = lower channel)
    (hexpires : row.expiresAt = none) (now : Time) : row.inForce now channel = true := by
  simp [Suppression.inForce, hactive, hchannel, hexpires]

/-- The decision denies exactly when a baseline rule does or a stored row
blocks. -/
theorem suppressionDecision_denies_iff {now : Time} {email domain : Option String}
    {contactId : Option Id} {channel : String} {s : Store} :
    (suppressionDecision now email domain contactId channel s).allowed = false ↔
      (evaluateSuppression email channel).allowed = false ∨
        ∃ row ∈ s.suppressions, row.blocks now email domain contactId channel = true := by
  unfold suppressionDecision
  cases hbase : (evaluateSuppression email channel).allowed with
  | false => simp [hbase]
  | true =>
    simp only [hbase, Bool.not_true, Bool.false_eq_true, if_false, Bool.true_eq_false,
      false_or]
    split
    · next hnone =>
      have hclear := Lib.Table.first?_none.mp hnone
      constructor
      · intro hdenied
        rw [hbase] at hdenied
        cases hdenied
      · rintro ⟨row, hrow, hblocks⟩
        rw [hclear row hrow] at hblocks
        cases hblocks
    · next i row hfound =>
      obtain ⟨hget, hblocks⟩ := Lib.Table.first?_some hfound
      exact ⟨fun _ => ⟨row, List.mem_of_getElem? hget, hblocks⟩, fun _ => rfl⟩

end GhostRecon
