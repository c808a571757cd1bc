import Mathlib

/-!
Transactions around a store. A program runs over a `World`: the database
store, which a transaction may roll back, and the external world (mail,
calendars, provider calls), which nothing rolls back. Raising keeps the writes
made so far; it is `sessionScope` that decides what becomes of them. A scope
commits when its body returns and the committed rows satisfy the database
constraints, and restores the store it started from in every other case.
-/

namespace GhostRecon.Lib

open Std.Do

set_option mvcgen.warning false

universe u

structure World (σ ξ : Type u) where
  store : σ
  external : ξ

/-- Stateful code that may raise. The state at the raise is kept. -/
abbrev Tx (ε σ ξ α : Type u) := EStateM ε (World σ ξ) α

variable {ε σ ξ α : Type u}

def query (f : σ → α) : Tx ε σ ξ α := do
  return f (← get).store

/-- A query that may itself raise. -/
def queryOrRaise (f : σ → Except ε α) : Tx ε σ ξ α := do
  match f (← get).store with
  | .ok a => return a
  | .error e => throw e

def write (f : σ → σ) : Tx ε σ ξ PUnit :=
  modify fun w => { w with store := f w.store }

/-- An effect on the external world. -/
def perform (f : ξ → ξ) : Tx ε σ ξ PUnit :=
  modify fun w => { w with external := f w.external }

/-- Send the pending writes to the database, which checks its constraints. -/
def flush (valid : σ → Bool) (violation : ε) : Tx ε σ ξ PUnit := do
  if valid (← get).store then pure PUnit.unit else throw violation

/-- Run `body` as one transaction: commit its writes, or roll the store back
and re-raise. The commit itself fails when the constraints do. -/
def sessionScope (valid : σ → Bool) (violation : ε) (body : Tx ε σ ξ α) : Tx ε σ ξ α :=
  fun w =>
    match body w with
    | .ok a w' =>
      if valid w'.store then .ok a w'
      else .error violation { w' with store := w.store }
    | .error e w' => .error e { w' with store := w.store }

/-- What a program establishes from one start world, on return and on raise. -/
def Establishes (program : Tx ε σ ξ α) (w : World σ ξ)
    (returns : α → World σ ξ → Prop) (raises : ε → World σ ξ → Prop) : Prop :=
  match program w with
  | .ok a w' => returns a w'
  | .error e w' => raises e w'

/-- The world a program leaves behind, whether it returned or raised. -/
def after (program : Tx ε σ ξ α) (w : World σ ξ) : World σ ξ :=
  match program w with
  | .ok _ w' => w'
  | .error _ w' => w'

/-- What a program returns, when it does. -/
def returned (program : Tx ε σ ξ α) (w : World σ ξ) : Option α :=
  match program w with
  | .ok a _ => some a
  | .error _ _ => none

theorem run_of_returned {program : Tx ε σ ξ α} {w : World σ ξ} {a : α}
    (h : returned program w = some a) : program w = .ok a (after program w) := by
  unfold returned at h
  unfold after
  cases hrun : program w with
  | ok b w' =>
    rw [hrun] at h
    cases h
    rfl
  | error e w' =>
    rw [hrun] at h
    cases h

/-- A sequence of two programs returns when both do. -/
theorem returned_bind {β : Type u} {first : Tx ε σ ξ α} {second : α → Tx ε σ ξ β}
    {w : World σ ξ} {b : β} (h : returned (first >>= second) w = some b) :
    ∃ a, returned first w = some a ∧ returned (second a) (after first w) = some b ∧
      after (first >>= second) w = after (second a) (after first w) := by
  cases hrun : first w with
  | error e w' => simp [returned, bind, EStateM.bind, hrun] at h
  | ok a w' =>
    refine ⟨a, ?_, ?_, ?_⟩
    · simp [returned, hrun]
    · simpa [returned, after, bind, EStateM.bind, hrun] using h
    · simp [after, bind, EStateM.bind, hrun]

/-! The runs of the primitives, for code whose result is computed exactly. -/

theorem pure_run (a : α) (w : World σ ξ) : (pure a : Tx ε σ ξ α) w = .ok a w := rfl

theorem bind_run {β : Type u} (first : Tx ε σ ξ α) (second : α → Tx ε σ ξ β)
    (w : World σ ξ) :
    (first >>= second) w =
      match first w with
      | .ok a w' => second a w'
      | .error e w' => .error e w' := by
  cases hfirst : first w <;> simp [bind, EStateM.bind, hfirst]

theorem query_run (f : σ → α) (w : World σ ξ) : (query f : Tx ε σ ξ α) w = .ok (f w.store) w :=
  rfl

theorem queryOrRaise_run (f : σ → Except ε α) (w : World σ ξ) :
    (queryOrRaise f : Tx ε σ ξ α) w =
      match f w.store with
      | .ok a => .ok a w
      | .error e => .error e w := by
  unfold queryOrRaise
  rw [bind_run]
  show (match f w.store with
    | .ok a => pure a
    | .error e => throw e : Tx ε σ ξ α) w = _
  cases f w.store <;> rfl

theorem write_run (f : σ → σ) (w : World σ ξ) :
    (write f : Tx ε σ ξ PUnit) w = .ok PUnit.unit { w with store := f w.store } := rfl

theorem perform_run (f : ξ → ξ) (w : World σ ξ) :
    (perform f : Tx ε σ ξ PUnit) w = .ok PUnit.unit { w with external := f w.external } := rfl

theorem tryCatch_run (body : Tx ε σ ξ α) (handler : ε → Tx ε σ ξ α) (w : World σ ξ) :
    (tryCatch body handler : Tx ε σ ξ α) w =
      match body w with
      | .ok a w' => .ok a w'
      | .error e w' => handler e w' := by
  show EStateM.tryCatch body handler w = _
  unfold EStateM.tryCatch
  cases body w <;> rfl

theorem flush_run (valid : σ → Bool) (violation : ε) (w : World σ ξ) :
    (flush valid violation : Tx ε σ ξ PUnit) w =
      if valid w.store then .ok PUnit.unit w else .error violation w := by
  unfold flush
  rw [bind_run]
  show (if valid w.store = true then _ else _ : Tx ε σ ξ PUnit) w = _
  split <;> rfl

theorem sessionScope_run (valid : σ → Bool) (violation : ε) (body : Tx ε σ ξ α)
    (w : World σ ξ) :
    sessionScope valid violation body w =
      match body w with
      | .ok a w' =>
        if valid w'.store then .ok a w'
        else .error violation { w' with store := w.store }
      | .error e w' => .error e { w' with store := w.store } := rfl

@[spec]
theorem query_spec (f : σ → α) (Q : PostCond α (.except ε (.arg (World σ ξ) .pure))) :
    ⦃fun w => Q.1 (f w.store) w⦄ (query f : Tx ε σ ξ α) ⦃Q⦄ := by
  unfold query
  mvcgen

@[spec]
theorem write_spec (f : σ → σ)
    (Q : PostCond PUnit (.except ε (.arg (World σ ξ) .pure))) :
    ⦃fun w => Q.1 PUnit.unit { w with store := f w.store }⦄
      (write f : Tx ε σ ξ PUnit) ⦃Q⦄ := by
  unfold write
  mvcgen

@[spec]
theorem perform_spec (f : ξ → ξ)
    (Q : PostCond PUnit (.except ε (.arg (World σ ξ) .pure))) :
    ⦃fun w => Q.1 PUnit.unit { w with external := f w.external }⦄
      (perform f : Tx ε σ ξ PUnit) ⦃Q⦄ := by
  unfold perform
  mvcgen

/-- Triples from one start world are the plain statement about its run. -/
theorem establishes_of_triple {program : Tx ε σ ξ α} {w : World σ ξ}
    {returns : α → World σ ξ → Prop} {raises : ε → World σ ξ → Prop}
    (h : ⦃fun v => ⌜v = w⌝⦄ program
      ⦃post⟨fun a w' => ⌜returns a w'⌝, fun e w' => ⌜raises e w'⌝⟩⦄) :
    Establishes program w returns raises := by
  have hrun := (Triple.iff.mp h) w rfl
  unfold Establishes
  simp only [wp, PredTrans.apply, EStateM.run] at hrun
  cases hw : program w with
  | ok a w' => simpa [hw] using hrun
  | error e w' => simpa [hw] using hrun

/-- What a program establishes from every start world is a triple. -/
theorem triple_of_establishes {program : Tx ε σ ξ α} {P : World σ ξ → Prop}
    {returns : α → World σ ξ → Prop} {raises : ε → World σ ξ → Prop}
    (h : ∀ w, P w → Establishes program w returns raises) :
    ⦃fun v => ⌜P v⌝⦄ program
      ⦃post⟨fun a w' => ⌜returns a w'⌝, fun e w' => ⌜raises e w'⌝⟩⦄ := by
  rw [Triple.iff]
  intro w hw
  have hrun := h w hw
  unfold Establishes at hrun
  simp only [wp, PredTrans.apply, EStateM.run]
  cases hprogram : program w with
  | ok a w' => simpa [hprogram] using hrun
  | error e w' => simpa [hprogram] using hrun

theorem Establishes.mono {program : Tx ε σ ξ α} {w : World σ ξ}
    {returns returns' : α → World σ ξ → Prop} {raises raises' : ε → World σ ξ → Prop}
    (h : Establishes program w returns raises)
    (hreturns : ∀ a w', returns a w' → returns' a w')
    (hraises : ∀ e w', raises e w' → raises' e w') :
    Establishes program w returns' raises' := by
  unfold Establishes at h ⊢
  cases hw : program w with
  | ok a w' => simp only [hw] at h ⊢; exact hreturns a w' h
  | error e w' => simp only [hw] at h ⊢; exact hraises e w' h

/-- A relation that holds on return and on raise holds of the world left
behind. -/
theorem after_of_establishes {program : Tx ε σ ξ α} {w : World σ ξ}
    {R : World σ ξ → Prop} (h : Establishes program w (fun _ => R) (fun _ => R)) :
    R (after program w) := by
  unfold Establishes at h
  unfold after
  cases hw : program w with
  | ok a w' => simpa only [hw] using h
  | error e w' => simpa only [hw] using h

/-- A scope that returns has committed what its body wrote, and the committed
rows satisfy the constraints. A scope that raises has restored the store. -/
theorem sessionScope_establishes {valid : σ → Bool} {violation : ε}
    {body : Tx ε σ ξ α} {w : World σ ξ}
    {returns : α → World σ ξ → Prop} {raises : ε → World σ ξ → Prop}
    (h : Establishes body w returns raises) :
    Establishes (sessionScope valid violation body) w
      (fun a w' => returns a w' ∧ valid w'.store = true)
      (fun e w' => w'.store = w.store ∧
        ∃ inner : World σ ξ, w'.external = inner.external ∧
          (raises e inner ∨ ∃ a, returns a inner)) := by
  unfold Establishes at h ⊢
  unfold sessionScope
  cases hw : body w with
  | ok a w' =>
    simp only [hw] at h
    cases hv : valid w'.store with
    | true => simpa [hv] using h
    | false => simpa [hv] using ⟨w', rfl, Or.inr ⟨a, h⟩⟩
  | error e w' =>
    simp only [hw] at h ⊢
    exact ⟨trivial, w', rfl, Or.inl h⟩

/-- The world a scope leaves: related to its start as the body relates it, or
with the store restored, and valid whenever the start was. -/
theorem sessionScope_relates {valid : σ → Bool} {violation : ε} {R : World σ ξ → Prop}
    {body : Tx ε σ ξ α} {w : World σ ξ}
    (hrestore : ∀ v, R v → R { v with store := w.store })
    (h : ⦃fun v => ⌜v = w⌝⦄ body
      ⦃post⟨fun _ v => ⌜R v⌝, fun _ v => ⌜R { v with store := w.store }⌝⟩⦄) :
    R (after (sessionScope valid violation body) w) ∧
      (valid w.store = true →
        valid (after (sessionScope valid violation body) w).store = true) := by
  have hscope : Establishes (sessionScope valid violation body) w _ _ :=
    sessionScope_establishes (establishes_of_triple h)
  refine after_of_establishes
    (R := fun v => R v ∧ (valid w.store = true → valid v.store = true)) (hscope.mono ?_ ?_)
  · intro _ v hreturn
    exact ⟨hreturn.1, fun _ => hreturn.2⟩
  · rintro _ v ⟨hstore, inner, hexternal, hinner⟩
    have hv : v = { inner with store := w.store } := by
      cases v
      cases hstore
      cases hexternal
      rfl
    rw [hv]
    refine ⟨?_, fun hvalid => hvalid⟩
    rcases hinner with hraise | ⟨_, hreturn⟩
    · exact hraise
    · exact hrestore inner hreturn

/-- What the body of a scope ensures of the store when it returns, the scope keeps:
a scope that raises has restored the store. -/
theorem sessionScope_keeps {valid : σ → Bool} {violation : ε} {I : σ → Prop}
    {body : Tx ε σ ξ α} {w : World σ ξ} (hstart : I w.store)
    (h : ⦃fun v => ⌜v = w⌝⦄ body ⦃post⟨fun _ v => ⌜I v.store⌝, fun _ _ => ⌜True⌝⟩⦄) :
    I (after (sessionScope valid violation body) w).store ∧
      (valid w.store = true →
        valid (after (sessionScope valid violation body) w).store = true) := by
  have hscope : Establishes (sessionScope valid violation body) w _ _ :=
    sessionScope_establishes (establishes_of_triple h)
  refine after_of_establishes (R := fun v => I v.store ∧
    (valid w.store = true → valid v.store = true)) (hscope.mono ?_ ?_)
  · intro _ v hreturn
    exact ⟨hreturn.1, fun _ => hreturn.2⟩
  · rintro _ v ⟨hstore, -⟩
    rw [hstore]
    exact ⟨hstart, fun hvalid => hvalid⟩

/-- A scope raises what its body raised, or the commit was refused. -/
theorem sessionScope_raises {valid : σ → Bool} {violation : ε} {R : ε → Prop}
    {body : Tx ε σ ξ α} {w w' : World σ ξ} {e : ε}
    (h : sessionScope valid violation body w = .error e w')
    (hbody : ⦃fun v => ⌜v = w⌝⦄ body ⦃post⟨fun _ _ => ⌜True⌝, fun e _ => ⌜R e⌝⟩⦄) :
    R e ∨ e = violation := by
  have hestablishes : Establishes body w (fun _ _ => True) fun e _ => R e :=
    establishes_of_triple hbody
  unfold sessionScope at h
  cases hrun : body w with
  | ok a inner =>
    simp only [hrun] at h
    split at h
    · cases h
    · cases h
      exact Or.inr rfl
  | error e inner =>
    simp only [hrun] at h
    cases h
    rw [Establishes, hrun] at hestablishes
    exact Or.inl hestablishes

/-- A scope that raises restored the store; its body raised, or the commit of what
it left was refused. -/
theorem sessionScope_refused {valid : σ → Bool} {violation : ε} {body : Tx ε σ ξ α}
    {w w' : World σ ξ} {e : ε} (returns : α → World σ ξ → Prop) (raises : World σ ξ → Prop)
    (h : sessionScope valid violation body w = .error e w')
    (hbody : ⦃fun v => ⌜v = w⌝⦄ body
      ⦃post⟨fun a v => ⌜returns a v⌝, fun _ v => ⌜raises v⌝⟩⦄) :
    ∃ inner : World σ ξ, w' = { inner with store := w.store } ∧
      (raises inner ∨ ∃ a, returns a inner ∧ valid inner.store = false) := by
  have hestablishes : Establishes body w returns fun _ => raises := establishes_of_triple hbody
  unfold sessionScope at h
  cases hrun : body w with
  | ok a inner =>
    rw [Establishes, hrun] at hestablishes
    simp only [hrun] at h
    split at h
    · cases h
    · next hinvalid =>
      cases h
      exact ⟨inner, rfl, Or.inr ⟨a, hestablishes, Bool.eq_false_iff.mpr hinvalid⟩⟩
  | error e inner =>
    rw [Establishes, hrun] at hestablishes
    simp only [hrun] at h
    cases h
    exact ⟨inner, rfl, Or.inl hestablishes⟩

/-- A scope that returns gives what its body gave, and leaves what it left. -/
theorem sessionScope_answers {valid : σ → Bool} {violation : ε} {R : α → World σ ξ → Prop}
    {body : Tx ε σ ξ α} {w w' : World σ ξ} {a : α}
    (h : sessionScope valid violation body w = .ok a w')
    (hbody : ⦃fun v => ⌜v = w⌝⦄ body ⦃post⟨fun a v => ⌜R a v⌝, fun _ _ => ⌜True⌝⟩⦄) :
    R a w' ∧ valid w'.store = true := by
  have hestablishes : Establishes body w R fun _ _ => True := establishes_of_triple hbody
  have hscope : Establishes (sessionScope valid violation body) w _ _ :=
    sessionScope_establishes hestablishes
  rw [Establishes, h] at hscope
  exact hscope

/-- A scope that returns leaves what its body left, and that is valid. -/
theorem sessionScope_returns {valid : σ → Bool} {violation : ε} {R : World σ ξ → Prop}
    {body : Tx ε σ ξ α} {w w' : World σ ξ} {a : α}
    (h : sessionScope valid violation body w = .ok a w')
    (hbody : ⦃fun v => ⌜v = w⌝⦄ body ⦃post⟨fun _ v => ⌜R v⌝, fun _ _ => ⌜True⌝⟩⦄) :
    R w' ∧ valid w'.store = true :=
  sessionScope_answers (R := fun _ v => R v) h hbody

/-- A scope commits valid stores only. -/
theorem sessionScope_valid {valid : σ → Bool} {violation : ε} {body : Tx ε σ ξ α}
    {w : World σ ξ} (h : valid w.store = true) :
    valid (after (sessionScope valid violation body) w).store = true := by
  cases hbody : body w with
  | error e w' => simpa [after, sessionScope, hbody] using h
  | ok a w' => cases hvalid : valid w'.store <;> simp [after, sessionScope, hbody, hvalid, h]

/-- The world a scope leaves when its body returns. -/
theorem after_sessionScope_ok {valid : σ → Bool} {violation : ε} {body : Tx ε σ ξ α} {a : α}
    {w w' : World σ ξ} (h : body w = .ok a w') :
    after (sessionScope valid violation body) w =
      { store := if valid w'.store then w'.store else w.store, external := w'.external } := by
  cases hvalid : valid w'.store <;> simp [after, sessionScope, h, hvalid]

/-- A scope restored the store, or committed a valid store that its body
returned with. -/
theorem after_sessionScope_cases {valid : σ → Bool} {violation : ε} {body : Tx ε σ ξ α}
    {w : World σ ξ} {returns : α → World σ ξ → Prop}
    (h : ⦃fun v => ⌜v = w⌝⦄ body ⦃post⟨fun a v => ⌜returns a v⌝, fun _ _ => ⌜True⌝⟩⦄) :
    (after (sessionScope valid violation body) w).store = w.store ∨
      ∃ a, returns a (after (sessionScope valid violation body) w) ∧
        valid (after (sessionScope valid violation body) w).store = true := by
  have hbody : Establishes body w returns fun _ _ => True := establishes_of_triple h
  unfold Establishes at hbody
  cases hrun : body w with
  | error e w' =>
    left
    simp [after, sessionScope, hrun]
  | ok a w' =>
    rw [after_sessionScope_ok hrun]
    cases hvalid : valid w'.store with
    | true => exact Or.inr ⟨a, by simpa [hrun] using hbody, by simpa using hvalid⟩
    | false => exact Or.inl (by simp)

/-- Transactions in sequence: the second starts where the first committed, and
does not start when the first raised. -/
theorem bind_relates {β : Type u} {R : World σ ξ → World σ ξ → Prop}
    (htrans : ∀ {a b c}, R a b → R b c → R a c)
    {first : Tx ε σ ξ α} {second : α → Tx ε σ ξ β} {w : World σ ξ}
    (hfirst : R w (after first w))
    (hsecond : ∀ a w', first w = .ok a w' → R w' (after (second a) w')) :
    R w (after (first >>= second) w) := by
  cases hrun : first w with
  | error e w' =>
    have hbind : (first >>= second) w = .error e w' := by
      simp [bind, EStateM.bind, hrun]
    simpa [after, hrun, hbind] using hfirst
  | ok a w' =>
    have hbind : (first >>= second) w = second a w' := by
      simp [bind, EStateM.bind, hrun]
    have hstart : R w w' := by simpa [after, hrun] using hfirst
    have hend := htrans hstart (hsecond a w' hrun)
    simpa [after, hbind] using hend

/-- A raise inside a scope leaves the store exactly as it was, whatever the
body had written before it. -/
theorem sessionScope_raise_store {valid : σ → Bool} {violation e : ε}
    {body : Tx ε σ ξ α} {w w' : World σ ξ} (h : body w = .error e w') :
    sessionScope valid violation body w = .error e { w' with store := w.store } := by
  simp [sessionScope, h]

/-- A scope that does not return has restored the store. -/
theorem sessionScope_restores {valid : σ → Bool} {violation : ε} {body : Tx ε σ ξ α}
    {w : World σ ξ} (h : ¬ (returned (sessionScope valid violation body) w).isSome = true) :
    (after (sessionScope valid violation body) w).store = w.store := by
  unfold returned at h
  unfold after
  rw [sessionScope_run] at h ⊢
  cases hbody : body w with
  | error e w' => rfl
  | ok a w' =>
    simp only [hbody] at h ⊢
    cases hvalid : valid w'.store with
    | true => simp [hvalid] at h
    | false => rfl

/-- What a scope leaves depends only on the run of its body. -/
theorem after_sessionScope_congr {valid : σ → Bool} {violation : ε}
    {body body' : Tx ε σ ξ α} {w : World σ ξ} (h : body w = body' w) :
    after (sessionScope valid violation body) w =
      after (sessionScope valid violation body') w := by
  simp only [after, sessionScope_run, h]

/-- No scope reaches the outside of its body. -/
theorem after_sessionScope_external {valid : σ → Bool} {violation : ε} {body : Tx ε σ ξ α}
    {w : World σ ξ} :
    (after (sessionScope valid violation body) w).external = (after body w).external := by
  cases hbody : body w with
  | ok a v =>
    rw [after_sessionScope_ok hbody, after, hbody]
  | error e v =>
    simp only [after, sessionScope_run, hbody]

/-- Programs with the same run leave the same world. -/
theorem after_congr {program program' : Tx ε σ ξ α} {w : World σ ξ}
    (h : program w = program' w) : after program w = after program' w := by
  rw [after, after, h]

/-- An answer that is made up changes nothing. -/
theorem after_bind_pure {β : Type u} {program : Tx ε σ ξ α} {f : α → β} {w : World σ ξ} :
    after (program >>= fun a => pure (f a)) w = after program w := by
  simp only [after, bind_run, pure_run]
  cases program w <;> rfl

/-- A program after one that returned. -/
theorem after_bind_ok {β : Type u} {first : Tx ε σ ξ α} {second : α → Tx ε σ ξ β}
    {w v : World σ ξ} {a : α} (h : first w = .ok a v) :
    after (first >>= second) w = after (second a) v := by
  simp only [after, bind_run, h]

/-- A scope whose body changes nothing changes nothing. -/
theorem after_sessionScope_idle {valid : σ → Bool} {violation : ε} {body : Tx ε σ ξ α} {a : α}
    {w : World σ ξ} (h : body w = .ok a w) : after (sessionScope valid violation body) w = w := by
  rw [after_sessionScope_ok h]
  split <;> rfl

end GhostRecon.Lib
