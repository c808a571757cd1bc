import GhostRecon.Security.Policy
import GhostRecon.Common.Json
import GhostRecon.Lib.Calendar
import GhostRecon.Lib.Expiring
import GhostRecon.Lib.Run

/-!
Login transactions in Redis. A login stores its transaction under its state and
the state under the browser's binding; the callback consumes both. Storing
reads the browser's previous state first and then runs one atomic block, so
logins of one browser overlap; consuming is one atomic script. The theorem
says to whom a transaction is returned, how often and until when.
-/

namespace GhostRecon.Security

open Lib (Admissible Always Expiring Since run)

/-- An aware `datetime`. -/
abbrev Instant := { micros : Micros // Lib.Calendar.Representable micros }

structure OIDCTransaction where
  state : String
  nonce : String
  codeVerifier : String
  browserBinding : String
  returnPath : String
  createdAt : Instant
  purpose : String := "login"
  existingSessionId : Option String := none
  deriving DecidableEq

/-- What Redis stores here: a sealed payload or a plain text. -/
inductive RedisValue (γ : Type) where
  | encrypted (token : γ)
  | text (value : String)
  deriving DecidableEq

/-- The encryption of JSON texts and the host's reading of a time; `salt` is what
makes two encryptions of a text differ. -/
structure TransactionCodec (γ : Type) where
  encrypt : (salt : Nat) → Json → γ
  decrypt : γ → Option Json
  fromIsoformat : String → Option Instant

/-- A JSON object whose values are texts or null. -/
def flatObject (fields : List (String × Option String)) : Json :=
  .obj (fields.map fun (key, value) => (key, value.elim .null .str))

/-- What is relied on: an object of texts comes back as it was sealed, and a
printed time is read back. -/
structure TransactionCodec.Lawful {γ : Type} (codec : TransactionCodec γ) : Prop where
  decrypt_encrypt : ∀ salt fields, (fields.map Prod.fst).Pairwise (· < ·) →
    codec.decrypt (codec.encrypt salt (flatObject fields)) = some (flatObject fields)
  fromIsoformat_epochText : ∀ instant : Instant,
    codec.fromIsoformat (Lib.Calendar.epochText instant.val) = some instant

structure TransactionSettings where
  ttlSeconds : Nat := 600
  keyspace : String := "ghostrecon:security:oidc"

inductive TransactionError where
  | collision | missing | invalidOrReplayed | invalid
  deriving DecidableEq, Repr

section Repository

variable {γ : Type} (codec : TransactionCodec γ) (settings : TransactionSettings)

def TransactionSettings.stateKey (state : String) : String :=
  settings.keyspace ++ ":state:" ++ state

def TransactionSettings.browserKey (binding : String) : String :=
  settings.keyspace ++ ":browser:" ++ binding

def TransactionSettings.ttl : Int := settings.ttlSeconds * 1000000

/-- `asdict` with the printed time, its keys in order. -/
def OIDCTransaction.payload (transaction : OIDCTransaction) : Json :=
  flatObject
    [("browser_binding", some transaction.browserBinding),
      ("code_verifier", some transaction.codeVerifier),
      ("created_at", some (Lib.Calendar.epochText transaction.createdAt.val)),
      ("existing_session_id", transaction.existingSessionId),
      ("nonce", some transaction.nonce),
      ("purpose", some transaction.purpose),
      ("return_path", some transaction.returnPath),
      ("state", some transaction.state)]

/-- A text field of a payload. -/
def payloadText (payload : Json) (key : String) : Option String :=
  match payload.get? key with
  | some (.str value) => some value
  | _ => none

/-- The transaction a payload stands for. -/
def ofPayload (payload : Json) : Option OIDCTransaction := do
  let state ← payloadText payload "state"
  let nonce ← payloadText payload "nonce"
  let codeVerifier ← payloadText payload "code_verifier"
  let browserBinding ← payloadText payload "browser_binding"
  let returnPath ← payloadText payload "return_path"
  let createdAt ← codec.fromIsoformat (← payloadText payload "created_at")
  return {
    state, nonce, codeVerifier, browserBinding, returnPath, createdAt
    purpose := (payloadText payload "purpose").getD "login"
    existingSessionId := payloadText payload "existing_session_id" }

abbrev Redis (γ : Type) := Expiring String (RedisValue γ)

/-- The first command of `put`: the state the browser stored before. -/
def previousState (redis : Redis γ) (transaction : OIDCTransaction) (now : Micros) :
    Option String :=
  match redis.get now (settings.browserKey transaction.browserBinding) with
  | some (.text state) => nonEmpty state
  | _ => none

/-- The `MULTI` block of `put`: whether the transaction was stored. -/
def putBlock (redis : Redis γ) (transaction : OIDCTransaction) (previous : Option String)
    (salt : Nat) (now : Micros) : Bool × Redis γ :=
  let cleared :=
    match previous with
    | none => redis
    | some state => redis.delete (settings.stateKey state)
  let stored := cleared.setNew now (settings.stateKey transaction.state)
    (.encrypted (codec.encrypt salt transaction.payload)) (now + settings.ttl)
  (stored.1, stored.2.set (settings.browserKey transaction.browserBinding)
    (.text transaction.state) (now + settings.ttl))

/-- The script of `consume`: the value and the store it leaves. -/
def consumeScript (redis : Redis γ) (state binding : String) (now : Micros) :
    Option (RedisValue γ) × Redis γ :=
  match redis.get now (settings.browserKey binding) with
  | some (.text expected) =>
    if expected = state then
      (redis.get now (settings.stateKey state),
        (redis.delete (settings.stateKey state)).delete (settings.browserKey binding))
    else (none, redis)
  | _ => (none, redis)

/-- What `consume` makes of the value. -/
def decodeValue : RedisValue γ → Except TransactionError OIDCTransaction
  | .text _ => .error .invalid
  | .encrypted token =>
    match (codec.decrypt token).bind (ofPayload codec) with
    | none => .error .invalid
    | some transaction => .ok transaction

/-- `consume`. -/
def consume (redis : Redis γ) (state binding : String) (now : Micros) :
    Except TransactionError OIDCTransaction × Redis γ :=
  if state = "" ∨ binding = "" then (.error .missing, redis)
  else
    match consumeScript settings redis state binding now with
    | (none, redis') => (.error .invalidOrReplayed, redis')
    | (some value, redis') => (decodeValue codec value, redis')

end Repository

section Machine

variable {γ : Type} (codec : TransactionCodec γ) (settings : TransactionSettings)

/-- Redis, the calls of `put` between their two commands, and the transactions
that were ever given to `put`. -/
structure TransactionWorld (γ : Type) where
  redis : Redis γ
  pending : List (Nat × OIDCTransaction × Option String) := []
  begun : List OIDCTransaction := []

inductive TransactionAction where
  /-- `put` reads the browser's previous state. -/
  | beginPut (call : Nat) (transaction : OIDCTransaction) (now : Micros)
  /-- `put` runs its block. -/
  | endPut (call salt : Nat) (now : Micros)
  | consume (state binding : String) (now : Micros)
  deriving DecidableEq

def transactionStep (w : TransactionWorld γ) : TransactionAction → TransactionWorld γ
  | .beginPut call transaction now =>
    if w.pending.any (·.1 = call) then w
    else
      { w with
        pending := (call, transaction, previousState settings w.redis transaction now) :: w.pending
        begun := transaction :: w.begun }
  | .endPut call salt now =>
    match w.pending.lookup call with
    | none => w
    | some (transaction, previous) =>
      { w with
        redis := (putBlock codec settings w.redis transaction previous salt now).2
        pending := w.pending.filter (·.1 ≠ call) }
  | .consume state binding now =>
    { w with redis := (consume codec settings w.redis state binding now).2 }

/-- The transaction the action writes, and when it expires. -/
def stored (w : TransactionWorld γ) : TransactionAction → Option (OIDCTransaction × Int)
  | .endPut call _ now =>
    (w.pending.lookup call).map fun entry => (entry.1, now + settings.ttl)
  | _ => none

/-- The transaction the action returns to its caller. -/
def returnedBy (w : TransactionWorld γ) : TransactionAction → Option OIDCTransaction
  | .consume state binding now =>
    match (consume codec settings w.redis state binding now).1 with
    | .ok transaction => some transaction
    | .error _ => none
  | _ => none

/-- No two logins draw the same state. -/
def NewState (w : TransactionWorld γ) : TransactionAction → Prop
  | .beginPut _ transaction _ => ∀ other ∈ w.begun, other.state ≠ transaction.state
  | _ => True

instance (w : TransactionWorld γ) : ∀ action, Decidable (NewState w action)
  | .beginPut _ transaction _ =>
    inferInstanceAs (Decidable (∀ other ∈ w.begun, other.state ≠ transaction.state))
  | .endPut .. | .consume .. => .isTrue trivial

variable (start : TransactionWorld γ)

/-- No call has returned the transaction. -/
def NeverReturned (transaction : OIDCTransaction) (past : List TransactionAction) : Prop :=
  Always (fun past action =>
    returnedBy codec settings (run (transactionStep codec settings) start past) action ≠
      some transaction) past

/-- The transaction was stored until `expiresAt`, and its browser has stored no
other since. -/
def StoredLast (transaction : OIDCTransaction) (expiresAt : Int)
    (past : List TransactionAction) : Prop :=
  Since
    (fun past action =>
      stored settings (run (transactionStep codec settings) start past) action =
        some (transaction, expiresAt))
    (fun past action => ∀ other expiry,
      stored settings (run (transactionStep codec settings) start past) action =
        some (other, expiry) → other.browserBinding ≠ transaction.browserBinding) past

/-- No login has begun, and no key of this keyspace is there. -/
structure TransactionWorld.Initial (w : TransactionWorld γ) : Prop where
  pending : w.pending = []
  begun : w.begun = []
  states : ∀ state, w.redis (settings.stateKey state) = none
  browsers : ∀ binding, w.redis (settings.browserKey binding) = none

end Machine

section Keys

variable (settings : TransactionSettings)

theorem stateKey_injective : Function.Injective settings.stateKey := by
  intro first second h
  apply String.toList_injective
  simpa [TransactionSettings.stateKey, String.toList_append] using congrArg String.toList h

theorem browserKey_injective : Function.Injective settings.browserKey := by
  intro first second h
  apply String.toList_injective
  simpa [TransactionSettings.browserKey, String.toList_append] using congrArg String.toList h

theorem stateKey_ne_browserKey (state binding : String) :
    settings.stateKey state ≠ settings.browserKey binding := by
  intro h
  have hlists := congrArg String.toList h
  simp [TransactionSettings.stateKey, TransactionSettings.browserKey, String.toList_append]
    at hlists

end Keys

section Codec

variable {γ : Type} {codec : TransactionCodec γ}

/-- What was put comes back, field by field. -/
theorem decodeValue_payload (hcodec : codec.Lawful) (salt : Nat) (transaction : OIDCTransaction) :
    decodeValue codec (.encrypted (codec.encrypt salt transaction.payload)) = .ok transaction := by
  have hsorted : (["browser_binding", "code_verifier", "created_at", "existing_session_id",
      "nonce", "purpose", "return_path", "state"] : List String).Pairwise (· < ·) := by
    decide +kernel
  have hpayload : codec.decrypt (codec.encrypt salt transaction.payload) =
      some transaction.payload := hcodec.decrypt_encrypt salt _ hsorted
  have hread : ofPayload codec transaction.payload = some transaction := by
    obtain ⟨state, nonce, verifier, binding, path, created, purpose, existing⟩ := transaction
    cases existing <;>
      simp [ofPayload, OIDCTransaction.payload, flatObject, payloadText, Json.get?, Json.fields,
        List.lookup_cons, hcodec.fromIsoformat_epochText]
  simp only [decodeValue, hpayload, Option.bind_some, hread]

end Codec

section Commands

variable {γ : Type} {codec : TransactionCodec γ} {settings : TransactionSettings}
  {redis : Redis γ} {state binding : String} {now : Micros}

/-- A returned transaction was read from live keys of its state and its browser. -/
theorem consume_ok {transaction : OIDCTransaction}
    (h : (consume codec settings redis state binding now).1 = .ok transaction) :
    ∃ value expiresAt,
      redis (settings.browserKey binding) = some (.text state, expiresAt) ∧ now < expiresAt ∧
      redis.get now (settings.stateKey state) = some value ∧
      decodeValue codec value = .ok transaction ∧
      (consume codec settings redis state binding now).2 =
        (redis.delete (settings.stateKey state)).delete (settings.browserKey binding) := by
  unfold consume at h ⊢
  split at h
  · cases h
  · next hpresent =>
    rw [if_neg hpresent]
    unfold consumeScript at h ⊢
    split at h
    · cases h
    · next value redis' hscript =>
      split at hscript
      · next expected hbrowser =>
        split at hscript
        · next hsame =>
          subst hsame
          obtain ⟨expiresAt, hentry, hlive⟩ := Expiring.get_eq_some.mp hbrowser
          obtain ⟨hvalue, hredis⟩ := Prod.mk.inj hscript
          exact ⟨value, expiresAt, hentry, hlive, hvalue, h, hredis.symm⟩
        · cases hscript
      · cases hscript

/-- Consuming changes nothing, or takes the keys of one state and one browser
away. -/
theorem consume_redis (codec : TransactionCodec γ) (settings : TransactionSettings)
    (redis : Redis γ) (state binding : String) (now : Micros) {key : String}
    {entry : RedisValue γ × Int}
    (h : (consume codec settings redis state binding now).2 key = some entry) :
    redis key = some entry := by
  unfold consume consumeScript at h
  split at h
  · exact h
  · split at h
    · next redis' hscript =>
      split at hscript
      · split at hscript
        · obtain ⟨-, rfl⟩ := Prod.mk.inj hscript
          exact (Expiring.of_delete (Expiring.of_delete h).1).1
        · obtain ⟨-, rfl⟩ := Prod.mk.inj hscript
          exact h
      · obtain ⟨-, rfl⟩ := Prod.mk.inj hscript
        exact h
    · next value redis' hscript =>
      split at hscript
      · split at hscript
        · obtain ⟨-, rfl⟩ := Prod.mk.inj hscript
          exact (Expiring.of_delete (Expiring.of_delete h).1).1
        · cases hscript
      · cases hscript

variable {transaction : OIDCTransaction} {previous : Option String} {salt : Nat}

/-- What the block of a `put` leaves under a key, when its state is unused. -/
theorem putBlock_redis (habsent : redis (settings.stateKey transaction.state) = none)
    {key : String} {entry : RedisValue γ × Int}
    (h : (putBlock codec settings redis transaction previous salt now).2 key = some entry) :
    (key = settings.browserKey transaction.browserBinding ∧
      entry = (.text transaction.state, now + settings.ttl)) ∨
    (key ≠ settings.browserKey transaction.browserBinding ∧
      key = settings.stateKey transaction.state ∧
      entry = (.encrypted (codec.encrypt salt transaction.payload), now + settings.ttl)) ∨
    (key ≠ settings.browserKey transaction.browserBinding ∧
      key ≠ settings.stateKey transaction.state ∧ redis key = some entry) := by
  have hcleared : ∀ key entry,
      (match previous with
        | none => redis
        | some state => redis.delete (settings.stateKey state)) key = some entry →
      redis key = some entry := by
    intro key entry hentry
    cases previous with
    | none => exact hentry
    | some old => exact (Expiring.of_delete hentry).1
  have hunused : (match previous with
      | none => redis
      | some state => redis.delete (settings.stateKey state))
      (settings.stateKey transaction.state) = none := by
    by_contra hsome
    obtain ⟨entry, hentry⟩ := Option.ne_none_iff_exists'.mp hsome
    rw [hcleared _ _ hentry] at habsent
    cases habsent
  unfold putBlock at h
  dsimp only at h
  rw [Expiring.setNew_of_absent hunused] at h
  dsimp only at h
  by_cases hbrowser : key = settings.browserKey transaction.browserBinding
  · subst hbrowser
    rw [Expiring.set_self] at h
    exact Or.inl ⟨rfl, (Option.some.inj h).symm⟩
  · rw [Expiring.set_of_ne hbrowser] at h
    by_cases hstate : key = settings.stateKey transaction.state
    · subst hstate
      rw [Expiring.set_self] at h
      exact Or.inr (Or.inl ⟨hbrowser, rfl, (Option.some.inj h).symm⟩)
    · rw [Expiring.set_of_ne hstate] at h
      exact Or.inr (Or.inr ⟨hbrowser, hstate, hcleared _ _ h⟩)

end Commands

section Invariant

variable {γ : Type} {codec : TransactionCodec γ} {settings : TransactionSettings}
  {start : TransactionWorld γ} {past : List TransactionAction}

/-- Two calls of `put` that are under way, each with a state of its own. -/
def CallsApart (first second : Nat × OIDCTransaction × Option String) : Prop :=
  first.1 ≠ second.1 ∧ first.2.1.state ≠ second.2.1.state

instance : Std.Symm CallsApart :=
  ⟨fun _ _ h => ⟨h.1.symm, h.2.symm⟩⟩

/-- What is known of the world a history leads to. -/
structure Ledger (codec : TransactionCodec γ) (settings : TransactionSettings)
    (start : TransactionWorld γ) (past : List TransactionAction) (w : TransactionWorld γ) :
    Prop where
  distinct : ∀ first ∈ w.begun, ∀ second ∈ w.begun, first.state = second.state → first = second
  pending : ∀ entry ∈ w.pending, entry.2.1 ∈ w.begun
  calls : w.pending.Pairwise CallsApart
  /-- A transaction whose block has not run was neither stored nor returned. -/
  untouched : ∀ entry ∈ w.pending, w.redis (settings.stateKey entry.2.1.state) = none ∧
    NeverReturned codec settings start entry.2.1 past
  unborn : ∀ transaction, transaction ∉ w.begun →
    NeverReturned codec settings start transaction past
  states : ∀ state value expiresAt,
    w.redis (settings.stateKey state) = some (value, expiresAt) →
    ∃ transaction ∈ w.begun, transaction.state = state ∧
      (∃ salt, value = .encrypted (codec.encrypt salt transaction.payload)) ∧
      NeverReturned codec settings start transaction past
  browsers : ∀ binding value expiresAt,
    w.redis (settings.browserKey binding) = some (value, expiresAt) →
    ∃ transaction ∈ w.begun, value = .text transaction.state ∧
      transaction.browserBinding = binding ∧
      StoredLast codec settings start transaction expiresAt past

theorem TransactionWorld.Initial.ledger (h : start.Initial settings) :
    Ledger codec settings start [] start where
  distinct := by simp [h.begun]
  pending := by simp [h.pending]
  calls := by simp [h.pending]
  untouched := by simp [h.pending]
  unborn _ _ := Lib.always_nil
  states state value expiresAt hentry := by simp [h.states] at hentry
  browsers binding value expiresAt hentry := by simp [h.browsers] at hentry

/-- A returned transaction is the one stored under its state, to the browser
that stored it last. -/
theorem Ledger.returned {w : TransactionWorld γ} (hcodec : codec.Lawful)
    (h : Ledger codec settings start past w) {state binding : String} {now : Micros}
    {transaction : OIDCTransaction}
    (hreturned : (consume codec settings w.redis state binding now).1 = .ok transaction) :
    transaction ∈ w.begun ∧ transaction.state = state ∧ transaction.browserBinding = binding ∧
      NeverReturned codec settings start transaction past ∧
      ∃ expiresAt, now < expiresAt ∧ StoredLast codec settings start transaction expiresAt past := by
  obtain ⟨value, expiresAt, hbrowser, hlive, hvalue, hdecode, -⟩ := consume_ok hreturned
  obtain ⟨stateExpiry, hstate, -⟩ := Expiring.get_eq_some.mp hvalue
  obtain ⟨stored, hstored, hstoredState, ⟨salt, rfl⟩, hnever⟩ := h.states _ _ _ hstate
  rw [decodeValue_payload hcodec] at hdecode
  cases hdecode
  obtain ⟨last, hlast, htext, hbinding, hsince⟩ := h.browsers _ _ _ hbrowser
  have hsame : last.state = transaction.state := by
    rw [hstoredState]
    exact (RedisValue.text.inj htext).symm
  obtain rfl := h.distinct last hlast transaction hstored hsame
  exact ⟨hstored, hstoredState, hbinding, hnever, expiresAt, hlive, hsince⟩

/-- An action that neither stores nor returns anything and leaves the world. -/
theorem Ledger.idle
    (h : Ledger codec settings start past (run (transactionStep codec settings) start past))
    (action : TransactionAction)
    (hreturned : returnedBy codec settings (run (transactionStep codec settings) start past) action =
      none)
    (hstored : stored settings (run (transactionStep codec settings) start past) action = none) :
    Ledger codec settings start (past ++ [action])
      (run (transactionStep codec settings) start past) where
  distinct := h.distinct
  pending := h.pending
  calls := h.calls
  untouched entry hentry :=
    ⟨(h.untouched entry hentry).1, (h.untouched entry hentry).2.carry (by simp [hreturned])⟩
  unborn transaction hnew := (h.unborn transaction hnew).carry (by simp [hreturned])
  states state value expiresAt hentry := by
    obtain ⟨transaction, hbegun, hstate, hvalue, hnever⟩ := h.states state value expiresAt hentry
    exact ⟨transaction, hbegun, hstate, hvalue, hnever.carry (by simp [hreturned])⟩
  browsers binding value expiresAt hentry := by
    obtain ⟨transaction, hbegun, hvalue, hbinding, hlast⟩ :=
      h.browsers binding value expiresAt hentry
    exact ⟨transaction, hbegun, hvalue, hbinding, hlast.carry (by simp [hstored])⟩

theorem Ledger.beginPut {call : Nat} {transaction : OIDCTransaction} {now : Micros}
    (h : Ledger codec settings start past (run (transactionStep codec settings) start past))
    (hnew : NewState (run (transactionStep codec settings) start past)
      (.beginPut call transaction now)) :
    Ledger codec settings start (past ++ [.beginPut call transaction now])
      (transactionStep codec settings (run (transactionStep codec settings) start past)
        (.beginPut call transaction now)) := by
  have hidle := h.idle (.beginPut call transaction now) rfl rfl
  generalize hw : run (transactionStep codec settings) start past = w at *
  simp only [transactionStep]
  split
  · exact hidle
  · next hfree =>
    have hunborn : transaction ∉ w.begun := fun hmem => hnew transaction hmem rfl
    constructor
    · intro first hfirst second hsecond hsame
      rcases List.mem_cons.mp hfirst with rfl | hfirstOld
      · rcases List.mem_cons.mp hsecond with rfl | hsecondOld
        · rfl
        · exact absurd hsame.symm (hnew second hsecondOld)
      · rcases List.mem_cons.mp hsecond with rfl | hsecondOld
        · exact absurd hsame (hnew first hfirstOld)
        · exact hidle.distinct first hfirstOld second hsecondOld hsame
    · intro entry hentry
      rcases List.mem_cons.mp hentry with rfl | hentry
      · exact List.mem_cons_self
      · exact List.mem_cons_of_mem _ (hidle.pending entry hentry)
    · refine List.pairwise_cons.mpr ⟨?_, hidle.calls⟩
      intro entry hentry
      refine ⟨?_, fun hsame => hnew _ (hidle.pending entry hentry) hsame.symm⟩
      rintro rfl
      exact hfree (List.any_eq_true.mpr ⟨entry, hentry, by simp⟩)
    · intro entry hentry
      rcases List.mem_cons.mp hentry with rfl | hentry
      · refine ⟨?_, hidle.unborn transaction hunborn⟩
        by_contra hsome
        obtain ⟨⟨value, expiresAt⟩, hstate⟩ := Option.ne_none_iff_exists'.mp hsome
        obtain ⟨old, hold, hsame, -⟩ := hidle.states _ _ _ hstate
        exact hnew old hold hsame
      · exact hidle.untouched entry hentry
    · intro other hother
      exact hidle.unborn other fun hmem => hother (List.mem_cons_of_mem _ hmem)
    · intro state value expiresAt hentry
      obtain ⟨old, hold, hrest⟩ := hidle.states state value expiresAt hentry
      exact ⟨old, List.mem_cons_of_mem _ hold, hrest⟩
    · intro binding value expiresAt hentry
      obtain ⟨old, hold, hrest⟩ := hidle.browsers binding value expiresAt hentry
      exact ⟨old, List.mem_cons_of_mem _ hold, hrest⟩

theorem Ledger.endPut {call salt : Nat} {now : Micros}
    (h : Ledger codec settings start past (run (transactionStep codec settings) start past)) :
    Ledger codec settings start (past ++ [.endPut call salt now])
      (transactionStep codec settings (run (transactionStep codec settings) start past)
        (.endPut call salt now)) := by
  generalize hw : run (transactionStep codec settings) start past = w at *
  have hquiet : ∀ transaction, returnedBy codec settings
      (run (transactionStep codec settings) start past) (.endPut call salt now) ≠
        some transaction := by
    simp [returnedBy]
  simp only [transactionStep]
  cases hlookup : w.pending.lookup call with
  | none =>
    subst hw
    exact h.idle (.endPut call salt now) rfl (by simp [stored, hlookup])
  | some entry =>
    obtain ⟨transaction, previous⟩ := entry
    have hstored : stored settings (run (transactionStep codec settings) start past)
        (.endPut call salt now) = some (transaction, now + settings.ttl) := by
      simp [stored, hw, hlookup]
    obtain ⟨front, back, hsplit, -⟩ := List.lookup_eq_some_iff.mp hlookup
    have hmem : (call, transaction, previous) ∈ w.pending := by
      rw [hsplit]
      simp
    obtain ⟨habsent, hnever⟩ := h.untouched _ hmem
    have hothers : ∀ entry ∈ w.pending.filter (·.1 ≠ call),
        entry ∈ w.pending ∧ entry.2.1.state ≠ transaction.state := by
      intro entry hentry
      obtain ⟨hold, hcall⟩ := List.mem_filter.mp hentry
      have hne : entry ≠ (call, transaction, previous) := by
        rintro rfl
        simp at hcall
      have hpair := h.calls.forall hold hmem hne
      exact ⟨hold, hpair.2⟩
    dsimp only
    constructor
    · exact h.distinct
    · intro entry hentry
      exact h.pending entry (hothers entry hentry).1
    · exact h.calls.filter _
    · intro entry hentry
      obtain ⟨hold, hstate⟩ := hothers entry hentry
      refine ⟨?_, (h.untouched entry hold).2.carry (hquiet _)⟩
      by_contra hsome
      obtain ⟨found, hfound⟩ := Option.ne_none_iff_exists'.mp hsome
      rcases putBlock_redis habsent hfound with ⟨hkey, -⟩ | ⟨-, hkey, -⟩ | ⟨-, -, hkept⟩
      · exact stateKey_ne_browserKey settings _ _ hkey
      · exact hstate (stateKey_injective settings hkey)
      · rw [(h.untouched entry hold).1] at hkept
        cases hkept
    · intro other hother
      exact (h.unborn other hother).carry (hquiet _)
    · intro state value expiresAt hentry
      rcases putBlock_redis habsent hentry with ⟨hkey, -⟩ | ⟨-, hkey, hvalue⟩ | ⟨-, -, hkept⟩
      · exact absurd hkey (stateKey_ne_browserKey settings _ _)
      · cases hvalue
        exact ⟨transaction, h.pending _ hmem, (stateKey_injective settings hkey).symm,
          ⟨salt, rfl⟩, hnever.carry (hquiet _)⟩
      · obtain ⟨old, hold, hstate, hvalue, hkeptNever⟩ := h.states _ _ _ hkept
        exact ⟨old, hold, hstate, hvalue, hkeptNever.carry (hquiet _)⟩
    · intro binding value expiresAt hentry
      rcases putBlock_redis habsent hentry with ⟨hkey, hvalue⟩ | ⟨-, hkey, -⟩ | ⟨hother, -, hkept⟩
      · cases hvalue
        exact ⟨transaction, h.pending _ hmem, rfl, (browserKey_injective settings hkey).symm,
          Since.mark hstored⟩
      · exact absurd hkey.symm (stateKey_ne_browserKey settings _ _)
      · obtain ⟨old, hold, hvalue, rfl, hlast⟩ := h.browsers _ _ _ hkept
        refine ⟨old, hold, hvalue, rfl, hlast.carry ?_⟩
        intro other expiry hnew hsame
        rw [hstored] at hnew
        cases hnew
        exact hother (by rw [hsame])

theorem Ledger.consume {state binding : String} {now : Micros} (hcodec : codec.Lawful)
    (h : Ledger codec settings start past (run (transactionStep codec settings) start past)) :
    Ledger codec settings start (past ++ [.consume state binding now])
      (transactionStep codec settings (run (transactionStep codec settings) start past)
        (.consume state binding now)) := by
  generalize hw : run (transactionStep codec settings) start past = w at *
  have hreturned : ∀ transaction, returnedBy codec settings
      (run (transactionStep codec settings) start past) (.consume state binding now) =
        some transaction →
      (Security.consume codec settings w.redis state binding now).1 = .ok transaction := by
    intro transaction hsome
    rw [hw] at hsome
    simp only [returnedBy] at hsome
    split at hsome
    · next found hfound =>
      cases hsome
      exact hfound
    · cases hsome
  have hstays : ∀ {key entry}, (Security.consume codec settings w.redis state binding now).2 key =
      some entry → w.redis key = some entry := fun hentry => consume_redis _ _ _ _ _ _ hentry
  constructor
  · exact h.distinct
  · exact h.pending
  · exact h.calls
  · intro entry hentry
    obtain ⟨habsent, hnever⟩ := h.untouched entry hentry
    constructor
    · by_contra hsome
      obtain ⟨found, hfound⟩ := Option.ne_none_iff_exists'.mp hsome
      rw [hstays hfound] at habsent
      cases habsent
    · refine hnever.carry ?_
      intro hsome
      obtain ⟨value, expiresAt, -, -, hvalue, -⟩ := consume_ok (hreturned _ hsome)
      obtain ⟨expiry, hentry', -⟩ := Expiring.get_eq_some.mp hvalue
      rw [← (h.returned hcodec (hreturned _ hsome)).2.1, habsent] at hentry'
      cases hentry'
  · intro other hother
    refine (h.unborn other hother).carry ?_
    intro hsome
    exact hother (h.returned hcodec (hreturned _ hsome)).1
  · intro other value expiresAt hentry
    obtain ⟨transaction, hbegun, hstate, hvalue, hnever⟩ := h.states _ _ _ (hstays hentry)
    refine ⟨transaction, hbegun, hstate, hvalue, hnever.carry ?_⟩
    intro hsome
    obtain ⟨-, -, -, -, -, -, hredis⟩ := consume_ok (hreturned _ hsome)
    have hgone : other ≠ state := by
      rintro rfl
      change (Security.consume codec settings w.redis other binding now).2 _ = _ at hentry
      rw [hredis] at hentry
      exact (Expiring.of_delete (Expiring.of_delete hentry).1).2 rfl
    exact hgone (hstate.symm.trans (h.returned hcodec (hreturned _ hsome)).2.1)
  · intro other value expiresAt hentry
    obtain ⟨transaction, hbegun, hvalue, hbinding, hlast⟩ := h.browsers _ _ _ (hstays hentry)
    exact ⟨transaction, hbegun, hvalue, hbinding, hlast.carry (by simp [stored])⟩

theorem ledger (hcodec : codec.Lawful) (hstart : start.Initial settings)
    (hrun : Admissible (transactionStep codec settings) NewState start past) :
    Ledger codec settings start past (run (transactionStep codec settings) start past) := by
  refine Lib.run_history hstart.ledger ?_ hrun
  intro past action _ hnew h
  cases action with
  | beginPut call transaction now => exact h.beginPut hnew
  | endPut call salt now => exact h.endPut
  | consume state binding now => exact h.consume hcodec

/-- A transaction that is known was given to `put`. -/
theorem begun_put (hstart : start.Initial settings) {transaction : OIDCTransaction}
    (h : transaction ∈ (run (transactionStep codec settings) start past).begun) :
    ∃ call now, TransactionAction.beginPut call transaction now ∈ past := by
  revert h
  have hall : Admissible (transactionStep codec settings) (fun _ _ => True) start past :=
    Lib.admissible_of_forall (fun _ _ => trivial) start past
  refine Lib.run_history (P := fun past (w : TransactionWorld γ) => transaction ∈ w.begun →
    ∃ call now, TransactionAction.beginPut call transaction now ∈ past) ?_ ?_ hall
  · intro hmem
    rw [hstart.begun] at hmem
    cases hmem
  · intro past action _ _ ih hmem
    have hbefore : transaction ∈ (run (transactionStep codec settings) start past).begun →
        ∃ call now, TransactionAction.beginPut call transaction now ∈ past ++ [action] := by
      intro hold
      obtain ⟨call, now, hput⟩ := ih hold
      exact ⟨call, now, List.mem_append_left _ hput⟩
    cases action with
    | beginPut call other now =>
      simp only [transactionStep] at hmem
      split at hmem
      · exact hbefore hmem
      · rcases List.mem_cons.mp hmem with rfl | hold
        · exact ⟨call, now, by simp⟩
        · exact hbefore hold
    | endPut call salt now =>
      simp only [transactionStep] at hmem
      split at hmem
      · exact hbefore hmem
      · exact hbefore hmem
    | consume state binding now => exact hbefore hmem

end Invariant

section Theorem

variable {γ : Type} {codec : TransactionCodec γ} {settings : TransactionSettings}
  {start : TransactionWorld γ} {actions : List TransactionAction}

/-- In every interleaving a transaction is returned only to a call that names
its state and the browser binding it was created with, only if no call was
given it before, before its expiry, and while its browser has stored no newer
one; it is the transaction that was put. -/
theorem consumed_transaction_sound {state binding : String} {now : Micros}
    {transaction : OIDCTransaction} (hcodec : codec.Lawful) (hstart : start.Initial settings)
    (hrun : Admissible (transactionStep codec settings) NewState start actions)
    (hconsume : (consume codec settings
      (run (transactionStep codec settings) start actions).redis state binding now).1 =
        .ok transaction) :
    (∃ call time, TransactionAction.beginPut call transaction time ∈ actions) ∧
      transaction.state = state ∧ transaction.browserBinding = binding ∧
      NeverReturned codec settings start transaction actions ∧
      ∃ expiresAt, now < expiresAt ∧
        StoredLast codec settings start transaction expiresAt actions := by
  obtain ⟨hbegun, hstate, hbinding, hnever, hlast⟩ :=
    (ledger hcodec hstart hrun).returned hcodec hconsume
  exact ⟨begun_put hstart hbegun, hstate, hbinding, hnever, hlast⟩

end Theorem

section Logins

/-- Tokens that carry what they seal. -/
def openCodec : TransactionCodec (Nat × Json) where
  encrypt salt payload := (salt, payload)
  decrypt token := some token.2
  fromIsoformat text := (Lib.Calendar.ofEpochText text).bind fun micros =>
    if h : Lib.Calendar.Representable micros then some ⟨micros, h⟩ else none

theorem openCodec_lawful : openCodec.Lawful where
  decrypt_encrypt _ _ _ := rfl
  fromIsoformat_epochText instant := by
    simp only [openCodec, Lib.Calendar.ofEpochText_epochText instant.property, Option.bind_some,
      dif_pos instant.property]

def loginTransaction (state : String) : OIDCTransaction where
  state
  nonce := "nonce"
  codeVerifier := "verifier"
  browserBinding := "browser"
  returnPath := "/"
  createdAt := ⟨0, by decide⟩

/-- Two logins of one browser whose commands overlap. -/
def overlappingLogins : List TransactionAction :=
  [.beginPut 1 (loginTransaction "first") 0, .beginPut 2 (loginTransaction "second") 0,
    .endPut 1 1 1, .endPut 2 2 2]

/-- The browser's later login is the one that is returned. -/
theorem overlapping_login_consumed :
    (∃ call time, TransactionAction.beginPut call (loginTransaction "second") time ∈
        overlappingLogins) ∧
      (loginTransaction "second").state = "second" ∧
      (loginTransaction "second").browserBinding = "browser" ∧
      NeverReturned openCodec {} { redis := Expiring.empty } (loginTransaction "second")
        overlappingLogins ∧
      ∃ expiresAt, (3 : Int) < expiresAt ∧
        StoredLast openCodec {} { redis := Expiring.empty } (loginTransaction "second") expiresAt
          overlappingLogins := by
  refine consumed_transaction_sound openCodec_lawful
    ⟨rfl, rfl, fun _ => rfl, fun _ => rfl⟩ (by decide +kernel) ?_
  decide +kernel

end Logins

end GhostRecon.Security
