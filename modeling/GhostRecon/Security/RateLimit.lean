import GhostRecon.Common.JsonText
import GhostRecon.Lib.Quota
import GhostRecon.Lib.Splitting
import GhostRecon.Security.Policy

/-!
The distributed rate limit. Every replica of every service counts its requests in one Redis
under a key of the request's class, its subject and the minute; the counter lives a second
longer than the minute. Where Redis gives no answer, the classes that fail closed are
refused, and the reading class is counted by the replica itself. The results are about
every run of requests at any number of replicas, with the answers of Redis lost or missing
at any time: what is let through keeps the limit, and no request is refused for another
subject, class or minute.
-/

namespace GhostRecon.Security

open Lib (Expiring Tick Counted InLifetime ticksFor run)

inductive RateClass where
  | auth | callback | session | read | mutation | bulk | owner
  deriving DecidableEq, Repr

def RateClass.name : RateClass → String
  | .auth => "auth"
  | .callback => "callback"
  | .session => "session"
  | .read => "read"
  | .mutation => "mutation"
  | .bulk => "bulk"
  | .owner => "owner"

structure RateLimit where
  limit : Nat
  /-- In seconds. -/
  window : Nat
  failClosed : Bool

/-- `_LIMITS`. -/
def RateClass.limits : RateClass → RateLimit
  | .auth => ⟨5, 60, true⟩
  | .callback => ⟨20, 60, true⟩
  | .session => ⟨60, 60, true⟩
  | .read => ⟨300, 60, false⟩
  | .mutation => ⟨60, 60, true⟩
  | .bulk => ⟨10, 60, true⟩
  | .owner => ⟨600, 60, true⟩

/-- What became of the script on its way to Redis and back. -/
inductive ScriptOutcome where
  | answered
  /-- It ran, and its answer was lost. -/
  | unheard
  | notRun
  deriving DecidableEq, Repr

/-- A request at a replica, with the replica's settings and clocks. -/
structure Arrival where
  replica : Nat
  strictRuntime : Bool
  serviceName : String
  path : String
  method : String
  identity : Option IdentityContext := none
  /-- `request.client.host`. -/
  clientHost : Option String := none
  /-- `time.time()`, in microseconds. -/
  wall : Nat
  /-- `time.monotonic()`, in microseconds. -/
  monotonic : Int
  /-- The clock of Redis when the script runs, in microseconds. -/
  redisTime : Int
  script : ScriptOutcome

/-- The request is one of those the middleware counts. -/
def Arrival.limited (a : Arrival) : Bool :=
  a.strictRuntime && a.path ≠ "/healthz"

/-- `_classify`. -/
def Arrival.rateClass (a : Arrival) : RateClass :=
  if a.path = "/auth/callback" then .callback
  else if "/auth/".toList.isPrefixOf a.path.toList then
    if "/auth/session".toList.isPrefixOf a.path.toList then .session else .auth
  else if occursIn "bulk" a.path || occursIn "export" a.path then .bulk
  else if a.serviceName ≠ "gateway-service" then .owner
  else if a.method ∈ safeMethods then .read
  else .mutation

def Arrival.limits (a : Arrival) : RateLimit :=
  a.rateClass.limits

def Arrival.subject (a : Arrival) : String :=
  match a.identity with
  | some identity => identity.representedSubject
  | none => a.clientHost.getD "unknown"

/-- `int(time.time()) // window`. -/
def Arrival.bucket (a : Arrival) : Nat :=
  a.wall / 1000000 / a.limits.window

/-- The key of a class, a subject and a bucket. -/
def rateKey (rateClass : RateClass) (subject : String) (bucket : Nat) : String :=
  "ghostrecon:rate:" ++ (rateClass.name ++ ":" ++ (subject ++ ":" ++ toString bucket))

def Arrival.key (a : Arrival) : String :=
  rateKey a.rateClass a.subject a.bucket

inductive RateVerdict where
  /-- `call_next`. -/
  | forwarded
  | refused (status : Nat) (code message : String) (retryAfter : Option String := none)
  deriving DecidableEq, Repr

/-- The Redis all replicas share, the counters each replica keeps itself, and the requests
that were let through. -/
structure Limiter where
  redis : Expiring String Nat := Expiring.empty
  counters : Nat → Expiring String Nat := fun _ => Expiring.empty
  admitted : List Arrival := []

/-- The script's command. -/
def Arrival.sharedTick (a : Arrival) : Tick String where
  key := a.key
  now := a.redisTime
  life := (a.limits.window + 1) * 1000000

/-- The command of `_local_count`. -/
def Arrival.ownTick (a : Arrival) : Tick String where
  key := a.key
  now := a.monotonic
  life := a.limits.window * 1000000

def Arrival.judge (a : Arrival) (count : Nat) : RateVerdict :=
  if count > a.limits.limit then
    .refused 429 "rate_limit_exceeded" "request rate limit exceeded"
      (some (toString a.limits.window))
  else .forwarded

/-- The branch taken when the script raised. -/
def Limiter.fallBack (s : Limiter) (a : Arrival) : RateVerdict × Limiter :=
  if a.limits.failClosed then
    (.refused 503 "rate_limit_unavailable"
      "security rate limiting is temporarily unavailable", s)
  else
    let (count, mine) := (s.counters a.replica).countUp a.ownTick
    (a.judge count, { s with counters := Function.update s.counters a.replica mine })

/-- `DistributedRateLimitMiddleware.dispatch`. -/
def Limiter.dispatch (s : Limiter) (a : Arrival) : RateVerdict × Limiter :=
  if !a.limited then (.forwarded, s)
  else
    match a.script with
    | .notRun => s.fallBack a
    | .unheard => { s with redis := (s.redis.countUp a.sharedTick).2 }.fallBack a
    | .answered =>
      let (count, redis) := s.redis.countUp a.sharedTick
      (a.judge count, { s with redis })

/-- One request, and the record of what was let through. -/
def Limiter.step (s : Limiter) (a : Arrival) : Limiter :=
  let (verdict, s') := s.dispatch a
  if verdict = .forwarded then { s' with admitted := s'.admitted ++ [a] } else s'

section Keys

theorem colon_notMem_name (rateClass : RateClass) : ':' ∉ rateClass.name.toList := by
  cases rateClass <;> decide

theorem name_injective : Function.Injective RateClass.name := by
  intro c d
  cases c <;> cases d <;> decide

theorem colon_notMem_toDigits (n : Nat) : ':' ∉ Nat.toDigits 10 n := by
  intro h
  have hdigit := Nat.isDigit_of_mem_toDigits (by omega) (by omega) h
  revert hdigit
  decide

/-- A list has one last occurrence of an element. -/
theorem cutLast_inj {front front' back back' : List Char} (hback : ':' ∉ back)
    (hback' : ':' ∉ back') (hsame : front ++ ':' :: back = front' ++ ':' :: back') :
    front = front' ∧ back = back' := by
  have hreverse : back.reverse ++ ':' :: front.reverse =
      back'.reverse ++ ':' :: front'.reverse := by
    have h := congrArg List.reverse hsame
    simpa using h
  have hcut := Lib.cut_inj (by simpa using hback) (by simpa using hback') hreverse
  exact ⟨List.reverse_injective hcut.2, List.reverse_injective hcut.1⟩

/-- A class, a subject and a minute have a key of their own, whatever is in the subject. -/
theorem rateKey_inj {c c' : RateClass} {subject subject' : String} {bucket bucket' : Nat}
    (h : rateKey c subject bucket = rateKey c' subject' bucket') :
    c = c' ∧ subject = subject' ∧ bucket = bucket' := by
  have hletters : ∀ (c : RateClass) (subject : String) (bucket : Nat),
      (rateKey c subject bucket).toList = "ghostrecon:rate:".toList ++
        (c.name.toList ++ ':' :: (subject.toList ++ ':' :: Nat.toDigits 10 bucket)) := by
    intro c subject bucket
    have hcolon : ":".toList = [':'] := String.toList_ofList
    have hdigits : (toString bucket).toList = Nat.toDigits 10 bucket := String.toList_ofList
    unfold rateKey
    rw [String.toList_append, String.toList_append, String.toList_append, String.toList_append,
      String.toList_append, hcolon, hdigits, List.append_assoc, List.append_assoc]
    rfl
  have hsame := congrArg String.toList h
  rw [hletters, hletters] at hsame
  obtain ⟨hname, hrest⟩ := Lib.cut_inj (colon_notMem_name c) (colon_notMem_name c')
    (List.append_cancel_left hsame)
  obtain ⟨hsubject, hbucket⟩ :=
    cutLast_inj (colon_notMem_toDigits bucket) (colon_notMem_toDigits bucket') hrest
  exact ⟨name_injective (String.toList_injective hname), String.toList_injective hsubject,
    toDigits_injective hbucket⟩

theorem key_eq_iff {a b : Arrival} : a.key = b.key ↔
    a.rateClass = b.rateClass ∧ a.subject = b.subject ∧ a.bucket = b.bucket := by
  constructor
  · exact rateKey_inj
  · rintro ⟨hclass, hsubject, hbucket⟩
    rw [Arrival.key, Arrival.key, hclass, hsubject, hbucket]

end Keys

/-- The request's script ran in Redis. -/
def Arrival.reaches (a : Arrival) : Bool :=
  a.limited && a.script ≠ .notRun

/-- The request is counted by its own replica. -/
def Arrival.fallsBack (a : Arrival) : Bool :=
  a.limited && a.script ≠ .answered && !a.limits.failClosed

/-- The request is limited under this class, subject and bucket. -/
def Arrival.under (rateClass : RateClass) (subject : String) (bucket : Nat) (a : Arrival) :
    Bool :=
  a.limited && a.rateClass = rateClass && a.subject = subject && a.bucket = bucket

/-- The commands of a run on Redis. -/
def sharedTicks (arrivals : List Arrival) : List (Tick String) :=
  (arrivals.filter Arrival.reaches).map Arrival.sharedTick

/-- The commands of a run on the counters of one replica. -/
def ownTicks (replica : Nat) (arrivals : List Arrival) : List (Tick String) :=
  (arrivals.filter fun a => a.fallsBack && a.replica = replica).map Arrival.ownTick

/-- Up to a fixed offset, the clocks of the replicas and of Redis stay within a second of
one another. -/
def ClocksAgree (arrivals : List Arrival) : Prop :=
  ∃ offset : Int, ∀ a ∈ arrivals,
    offset ≤ a.wall - a.redisTime ∧ a.wall - a.redisTime ≤ offset + 1000000

/-- The two clocks of a replica run at one pace. -/
def ClocksSteady (arrivals : List Arrival) : Prop :=
  ∀ a ∈ arrivals, ∀ b ∈ arrivals, a.replica = b.replica →
    a.monotonic - b.monotonic = a.wall - b.wall

section Clocks

variable {arrivals past : List Arrival}

theorem window_eq (rateClass : RateClass) : rateClass.limits.window = 60 := by
  cases rateClass <;> rfl

theorem ClocksAgree.inLifetime (h : ClocksAgree arrivals) : InLifetime (sharedTicks arrivals) := by
  obtain ⟨offset, hclocks⟩ := h
  intro first hfirst next hnext hkey
  obtain ⟨a, ha, rfl⟩ := List.mem_map.mp hfirst
  obtain ⟨b, hb, rfl⟩ := List.mem_map.mp hnext
  obtain ⟨-, -, hbucket⟩ := key_eq_iff.mp hkey
  have hfirstClock := hclocks a (List.mem_of_mem_filter ha)
  have hnextClock := hclocks b (List.mem_of_mem_filter hb)
  simp only [Arrival.bucket, Arrival.limits, window_eq] at hbucket
  simp only [Arrival.sharedTick, Arrival.limits, window_eq]
  omega

theorem ClocksSteady.inLifetime (h : ClocksSteady arrivals) (replica : Nat) :
    InLifetime (ownTicks replica arrivals) := by
  intro first hfirst next hnext hkey
  obtain ⟨a, ha, rfl⟩ := List.mem_map.mp hfirst
  obtain ⟨b, hb, rfl⟩ := List.mem_map.mp hnext
  obtain ⟨ha, hreplica⟩ := List.mem_filter.mp ha
  obtain ⟨hb, hreplica'⟩ := List.mem_filter.mp hb
  simp only [Bool.and_eq_true, decide_eq_true_eq] at hreplica hreplica'
  obtain ⟨-, -, hbucket⟩ := key_eq_iff.mp hkey
  have hpace := h b hb a ha (hreplica'.2.trans hreplica.2.symm)
  simp only [Arrival.bucket, Arrival.limits, window_eq] at hbucket
  simp only [Arrival.ownTick, Arrival.limits, window_eq]
  omega

theorem ClocksAgree.of_append {more : List Arrival} (h : ClocksAgree (past ++ more)) :
    ClocksAgree past := by
  obtain ⟨offset, hclocks⟩ := h
  exact ⟨offset, fun a ha => hclocks a (List.mem_append_left more ha)⟩

theorem ClocksSteady.of_append {more : List Arrival} (h : ClocksSteady (past ++ more)) :
    ClocksSteady past := by
  intro a ha b hb
  exact h a (List.mem_append_left more ha) b (List.mem_append_left more hb)

end Clocks

section Steps

variable {s : Limiter} {a : Arrival}

theorem judge_eq_forwarded {count : Nat} :
    a.judge count = .forwarded ↔ count ≤ a.limits.limit := by
  unfold Arrival.judge
  split <;> simp <;> omega

theorem fallBack_redis : (s.fallBack a).2.redis = s.redis := by
  unfold Limiter.fallBack
  split <;> rfl

theorem fallBack_counters (i : Nat) : (s.fallBack a).2.counters i =
    if a.limits.failClosed = false ∧ a.replica = i then ((s.counters i).countUp a.ownTick).2
    else s.counters i := by
  unfold Limiter.fallBack
  cases a.limits.failClosed with
  | true => simp
  | false =>
    by_cases hreplica : a.replica = i
    · subst hreplica
      simp
    · simp [hreplica, Ne.symm hreplica]

theorem fallBack_verdict : (s.fallBack a).1 =
    if a.limits.failClosed then
      .refused 503 "rate_limit_unavailable" "security rate limiting is temporarily unavailable"
    else a.judge ((s.counters a.replica).countUp a.ownTick).1 := by
  unfold Limiter.fallBack
  split <;> rfl

theorem step_redis : (s.step a).redis = (s.dispatch a).2.redis := by
  unfold Limiter.step
  dsimp only
  split <;> rfl

theorem step_counters : (s.step a).counters = (s.dispatch a).2.counters := by
  unfold Limiter.step
  dsimp only
  split <;> rfl

/-- The script counts in Redis if it runs, whatever its answer. -/
theorem dispatch_redis : (s.dispatch a).2.redis =
    if a.reaches then (s.redis.countUp a.sharedTick).2 else s.redis := by
  unfold Limiter.dispatch Arrival.reaches
  cases hlimited : a.limited with
  | false => simp
  | true => cases hscript : a.script <;> simp [fallBack_redis]

/-- A replica counts the requests it falls back for. -/
theorem dispatch_counters (i : Nat) : (s.dispatch a).2.counters i =
    if a.fallsBack && a.replica = i then ((s.counters i).countUp a.ownTick).2
    else s.counters i := by
  unfold Limiter.dispatch Arrival.fallsBack
  cases hlimited : a.limited with
  | false => simp
  | true => cases hscript : a.script <;> simp [fallBack_counters]

end Steps

section Runs

variable {past arrivals : List Arrival} {s : Limiter} {a : Arrival}

theorem sharedTicks_concat : sharedTicks (past ++ [a]) =
    sharedTicks past ++ if a.reaches then [a.sharedTick] else [] := by
  unfold sharedTicks
  rw [List.filter_append, List.map_append, List.filter_singleton]
  cases a.reaches <;> rfl

theorem ownTicks_concat (i : Nat) : ownTicks i (past ++ [a]) =
    ownTicks i past ++ if a.fallsBack && a.replica = i then [a.ownTick] else [] := by
  unfold ownTicks
  rw [List.filter_append, List.map_append, List.filter_singleton]
  cases a.fallsBack && decide (a.replica = i) <;> rfl

/-- Redis counts what reached it. -/
theorem step_counted (h : Counted (sharedTicks past) s.redis)
    (hlife : InLifetime (sharedTicks (past ++ [a]))) :
    Counted (sharedTicks (past ++ [a])) (s.step a).redis := by
  rw [step_redis, dispatch_redis]
  rw [sharedTicks_concat] at hlife ⊢
  cases hreaches : a.reaches with
  | false => simpa [hreaches] using h
  | true =>
    rw [hreaches] at hlife
    exact h.next hlife

/-- A replica counts what it falls back for. -/
theorem step_ownCounted {i : Nat} (h : Counted (ownTicks i past) (s.counters i))
    (hlife : InLifetime (ownTicks i (past ++ [a]))) :
    Counted (ownTicks i (past ++ [a])) ((s.step a).counters i) := by
  rw [step_counters, dispatch_counters]
  rw [ownTicks_concat] at hlife ⊢
  cases hfalls : a.fallsBack && decide (a.replica = i) with
  | false => simpa [hfalls] using h
  | true =>
    rw [hfalls] at hlife
    exact h.next hlife

theorem run_counted (h : ClocksAgree arrivals) :
    Counted (sharedTicks arrivals) (run Limiter.step {} arrivals).redis := by
  induction arrivals using List.reverseRecOn with
  | nil => exact Lib.counted_nil
  | append_singleton past a ih =>
    rw [Lib.run_append]
    exact step_counted (ih h.of_append) h.inLifetime

theorem run_ownCounted (h : ClocksSteady arrivals) (i : Nat) :
    Counted (ownTicks i arrivals) ((run Limiter.step {} arrivals).counters i) := by
  induction arrivals using List.reverseRecOn with
  | nil => exact Lib.counted_nil
  | append_singleton past a ih =>
    rw [Lib.run_append]
    exact step_ownCounted (ih h.of_append) (h.inLifetime i)

/-- The earlier requests of a request's class, subject and minute that reached Redis. -/
def sharedBefore (past : List Arrival) (a : Arrival) : Nat :=
  past.countP fun b => b.reaches && b.under a.rateClass a.subject a.bucket

/-- Those that the request's own replica counted. -/
def ownBefore (past : List Arrival) (a : Arrival) : Nat :=
  past.countP fun b =>
    b.fallsBack && b.replica = a.replica && b.under a.rateClass a.subject a.bucket

theorem under_iff_key {b : Arrival} (hlimited : b.limited = true) :
    b.under a.rateClass a.subject a.bucket = true ↔ b.key = a.key := by
  rw [key_eq_iff]
  simp [Arrival.under, hlimited, and_assoc]

theorem ticksFor_shared : ticksFor a.key (sharedTicks past) = sharedBefore past a := by
  unfold ticksFor sharedTicks sharedBefore
  rw [List.countP_map, List.countP_filter]
  congr 1
  funext b
  rw [Bool.eq_iff_iff]
  simp only [Function.comp_apply, Arrival.sharedTick, Bool.and_eq_true]
  rw [and_comm]
  apply and_congr_right
  intro hreaches
  rw [under_iff_key (Bool.and_eq_true_iff.mp hreaches).1]
  exact decide_eq_true_iff

theorem ticksFor_own : ticksFor a.key (ownTicks a.replica past) = ownBefore past a := by
  unfold ticksFor ownTicks ownBefore
  rw [List.countP_map, List.countP_filter]
  congr 1
  funext b
  rw [Bool.eq_iff_iff]
  simp only [Function.comp_apply, Arrival.ownTick, Bool.and_eq_true, decide_eq_true_eq]
  rw [and_comm]
  apply and_congr_right
  rintro ⟨hfalls, -⟩
  have hlimited : b.limited = true :=
    (Bool.and_eq_true_iff.mp (Bool.and_eq_true_iff.mp hfalls).1).1
  rw [under_iff_key hlimited]
  exact decide_eq_true_iff

/-- The verdict exact counting gives: by what reached Redis of the same class, subject and
minute, or, where it gave no answer, by what the replica counted itself. -/
def exactVerdict (past : List Arrival) (a : Arrival) : RateVerdict :=
  if !a.limited then .forwarded
  else if a.script = .answered then a.judge (sharedBefore past a + 1)
  else if a.limits.failClosed then
    .refused 503 "rate_limit_unavailable" "security rate limiting is temporarily unavailable"
  else a.judge (ownBefore past a + 1)

/-- An answered script tells how many requests of the class, subject and minute reached
Redis before. -/
theorem dispatch_answered (hclocks : ClocksAgree (past ++ [a])) (hlimited : a.limited = true)
    (hscript : a.script = .answered) :
    ((run Limiter.step {} past).dispatch a).1 = a.judge (sharedBefore past a + 1) := by
  have hreaches : a.reaches = true := by simp [Arrival.reaches, hlimited, hscript]
  have hlife := hclocks.inLifetime
  rw [sharedTicks_concat, if_pos hreaches] at hlife
  have hnumber := (run_counted hclocks.of_append).number hlife
  rw [show a.sharedTick.key = a.key from rfl, ticksFor_shared] at hnumber
  unfold Limiter.dispatch
  simp [hlimited, hscript, hnumber]

theorem dispatch_silent (hlimited : a.limited = true) (hscript : a.script ≠ .answered) :
    (s.dispatch a).1 =
      if a.limits.failClosed then
        .refused 503 "rate_limit_unavailable"
          "security rate limiting is temporarily unavailable"
      else a.judge ((s.counters a.replica).countUp a.ownTick).1 := by
  unfold Limiter.dispatch
  simp only [hlimited, Bool.not_true, Bool.false_eq_true, if_false]
  cases hcase : a.script with
  | answered => exact absurd hcase hscript
  | unheard => exact fallBack_verdict
  | notRun => exact fallBack_verdict

/-- A class that fails closed lets nothing through without an answer. -/
theorem answered_of_forwarded (hlimited : a.limited = true)
    (hclosed : a.limits.failClosed = true) (h : (s.dispatch a).1 = .forwarded) :
    a.script = .answered := by
  by_contra hscript
  rw [dispatch_silent hlimited hscript, if_pos hclosed] at h
  cases h

/-- A replica that falls back knows how many requests of the class, subject and minute it
has counted itself. -/
theorem dispatch_own (hsteady : ClocksSteady (past ++ [a])) (hfalls : a.fallsBack = true) :
    ((run Limiter.step {} past).dispatch a).1 = a.judge (ownBefore past a + 1) := by
  obtain ⟨hsilent, hopen⟩ := Bool.and_eq_true_iff.mp hfalls
  obtain ⟨hlimited, hscript⟩ := Bool.and_eq_true_iff.mp hsilent
  have hlife := hsteady.inLifetime a.replica
  rw [ownTicks_concat, if_pos (by simp [hfalls])] at hlife
  have hnumber := (run_ownCounted hsteady.of_append a.replica).number hlife
  rw [show a.ownTick.key = a.key from rfl, ticksFor_own] at hnumber
  rw [dispatch_silent hlimited (by simpa using hscript), hnumber]
  simp only [Bool.not_eq_true'] at hopen
  rw [hopen]
  rfl

/-- A sign-in at a replica whose clocks are those of Redis. -/
def signIn (replica wall : Nat) (script : ScriptOutcome) : Arrival where
  replica
  strictRuntime := true
  serviceName := "gateway-service"
  path := "/auth/login"
  method := "GET"
  clientHost := some "203.0.113.9"
  wall
  monotonic := wall
  redisTime := wall
  script

/-- Two sign-ins at two replicas; the second one gets no answer. -/
def twoSignIns : List Arrival :=
  [signIn 0 1000000 .answered, signIn 1 2000000 .notRun]

theorem twoSignIns_agree : ClocksAgree twoSignIns := by
  refine ⟨0, ?_⟩
  intro a ha
  rcases List.mem_cons.mp ha with rfl | ha
  · simp [signIn]
  · obtain rfl := List.mem_singleton.mp ha
    simp [signIn]

theorem twoSignIns_steady : ClocksSteady twoSignIns := by
  have hsame : ∀ a ∈ twoSignIns, a.monotonic = a.wall := by
    intro a ha
    rcases List.mem_cons.mp ha with rfl | ha
    · rfl
    · obtain rfl := List.mem_singleton.mp ha
      rfl
  intro a ha b hb _
  rw [hsame a ha, hsame b hb]

theorem run_admitted : (run Limiter.step {} (past ++ [a])).admitted =
    if ((run Limiter.step {} past).dispatch a).1 = .forwarded then
      (run Limiter.step {} past).admitted ++ [a]
    else (run Limiter.step {} past).admitted := by
  have hkept : ∀ s : Limiter, (s.dispatch a).2.admitted = s.admitted := by
    intro s
    unfold Limiter.dispatch Limiter.fallBack
    split
    · rfl
    · split
      · split <;> rfl
      · split <;> rfl
      · rfl
  rw [Lib.run_append, Lib.run_cons, Lib.run_nil, Limiter.step]
  dsimp only
  split
  · rw [hkept]
  · exact hkept _

theorem admitted_sublist : (run Limiter.step {} arrivals).admitted.Sublist arrivals := by
  induction arrivals using List.reverseRecOn with
  | nil => exact List.Sublist.refl []
  | append_singleton past a ih =>
    rw [run_admitted]
    split
    · exact ih.append (List.Sublist.refl [a])
    · exact ih.trans (List.sublist_append_left past [a])

variable {rateClass : RateClass} {subject : String} {bucket : Nat}

/-- What a request's own class, subject and bucket are. -/
theorem of_under (h : a.under rateClass subject bucket = true) :
    a.limited = true ∧ a.rateClass = rateClass ∧ a.subject = subject ∧ a.bucket = bucket := by
  simpa [Arrival.under, and_assoc] using h

/-- The requests let through on Redis' word keep the limit. -/
theorem answered_quota (hclocks : ClocksAgree arrivals) (rateClass : RateClass)
    (subject : String) (bucket : Nat) :
    (run Limiter.step {} arrivals).admitted.countP
        (fun a => a.under rateClass subject bucket && a.script = .answered) ≤
      rateClass.limits.limit := by
  refine Lib.quota_kept (fun arrivals => (run Limiter.step {} arrivals).admitted)
    (fun b => b.reaches && b.under rateClass subject bucket) rfl ?_
  intro past a hpast
  rw [run_admitted]
  split
  · next hforwarded =>
    right
    refine ⟨rfl, fun hmark => ?_⟩
    obtain ⟨hunder, hscript⟩ := Bool.and_eq_true_iff.mp hmark
    rw [decide_eq_true_eq] at hscript
    obtain ⟨hlimited, rfl, rfl, rfl⟩ := of_under hunder
    have hclocks' : ClocksAgree (past ++ [a]) := by
      obtain ⟨rest, rfl⟩ := hpast
      exact hclocks.of_append
    rw [dispatch_answered hclocks' hlimited hscript, judge_eq_forwarded] at hforwarded
    constructor
    · simp [Arrival.reaches, hlimited, hscript, hunder]
    · exact Nat.lt_of_succ_le hforwarded
  · exact Or.inl rfl

/-- Whatever becomes of the scripts, a class that fails closed lets through no more than
its limit of a subject's requests in a minute, at all replicas together. -/
theorem failClosed_quota (hclocks : ClocksAgree arrivals)
    (hclosed : rateClass.limits.failClosed = true) (subject : String) (bucket : Nat) :
    (run Limiter.step {} arrivals).admitted.countP (Arrival.under rateClass subject bucket) ≤
      rateClass.limits.limit := by
  apply le_trans ?_ (answered_quota hclocks rateClass subject bucket)
  have hanswered : ∀ a ∈ (run Limiter.step {} arrivals).admitted,
      a.under rateClass subject bucket = true → a.script = .answered := by
    clear hclocks
    induction arrivals using List.reverseRecOn with
    | nil => simp
    | append_singleton past a ih =>
      intro b hb hunder
      rw [run_admitted] at hb
      split at hb
      · next hforwarded =>
        rcases List.mem_append.mp hb with hb | hb
        · exact ih b hb hunder
        · obtain rfl := List.mem_singleton.mp hb
          obtain ⟨hlimited, rfl, -, -⟩ := of_under hunder
          exact answered_of_forwarded hlimited hclosed hforwarded
      · exact ih b hb hunder
  apply List.countP_mono_left
  intro a ha hunder
  rw [hunder, hanswered a ha hunder]
  rfl

theorem two_sign_ins_limited :
    (run Limiter.step {} twoSignIns).admitted.countP (Arrival.under .auth "203.0.113.9" 0) ≤ 5 :=
  failClosed_quota twoSignIns_agree rfl "203.0.113.9" 0

/-- The requests a replica lets through on its own keep the limit too. -/
theorem own_quota (hsteady : ClocksSteady arrivals) (replica : Nat) (rateClass : RateClass)
    (subject : String) (bucket : Nat) :
    (run Limiter.step {} arrivals).admitted.countP
        (fun a => a.under rateClass subject bucket && a.script ≠ .answered &&
          a.replica = replica) ≤
      rateClass.limits.limit := by
  refine Lib.quota_kept (fun arrivals => (run Limiter.step {} arrivals).admitted)
    (fun b => b.fallsBack && b.replica = replica && b.under rateClass subject bucket) rfl ?_
  intro past a hpast
  rw [run_admitted]
  split
  · next hforwarded =>
    right
    refine ⟨rfl, fun hmark => ?_⟩
    obtain ⟨hsilent, hreplica⟩ := Bool.and_eq_true_iff.mp hmark
    obtain ⟨hunder, hscript⟩ := Bool.and_eq_true_iff.mp hsilent
    rw [decide_eq_true_eq] at hscript hreplica
    subst hreplica
    obtain ⟨hlimited, rfl, rfl, rfl⟩ := of_under hunder
    have hsteady' : ClocksSteady (past ++ [a]) := by
      obtain ⟨rest, rfl⟩ := hpast
      exact hsteady.of_append
    have hopen : a.limits.failClosed = false := by
      by_contra hclosed
      rw [Bool.not_eq_false] at hclosed
      exact hscript (answered_of_forwarded hlimited hclosed hforwarded)
    have hfalls : a.fallsBack = true := by
      simp [Arrival.fallsBack, hlimited, hscript, hopen]
    rw [dispatch_own hsteady' hfalls, judge_eq_forwarded] at hforwarded
    constructor
    · simp [hfalls, hunder]
    · exact Nat.lt_of_succ_le hforwarded
  · exact Or.inl rfl

end Runs

end GhostRecon.Security
