import GhostRecon.Lib.Session
import GhostRecon.Lib.Run

/-!
A session whose additions wait for a flush. Queries see the rows the database
has, with the values the session gave them since; a row that was only added is
not among them. A flush sends the waiting rows all together: the database takes
them, or the flush raises and the session refuses further work. A scope commits
with a last flush, and a scope whose session is refused commits nothing, also
when every error inside it was handled.
-/

namespace GhostRecon.Lib

universe u

structure Work (σ κ : Type u) where
  rows : σ
  /-- Added since the last flush, in order. -/
  pending : List κ
  broken : Bool

/-- How a row is stored, what the database accepts and the two errors. -/
structure Schema (ε σ κ : Type u) where
  insert : σ → κ → σ
  valid : σ → Bool
  violation : ε
  refusal : ε

abbrev WorkM (ε σ κ α : Type u) := EStateM ε (Work σ κ) α

variable {ε σ κ ξ α β : Type u} (schema : Schema ε σ κ)

namespace Work

/-- A session opened on a store. -/
def start (s : σ) : Work σ κ :=
  { rows := s, pending := [], broken := false }

/-- The rows a flush would leave. -/
def flushed (w : Work σ κ) : σ :=
  w.pending.foldl schema.insert w.rows

/-- A query. -/
def look (f : σ → α) : WorkM ε σ κ α := do
  let w ← get
  if w.broken then throw schema.refusal
  return f w.rows

/-- Assign to columns of loaded rows. -/
def assign (f : σ → σ) : WorkM ε σ κ PUnit :=
  modify fun w => { w with rows := f w.rows }

/-- `session.add`. -/
def add (row : κ) : WorkM ε σ κ PUnit :=
  modify fun w => { w with pending := w.pending ++ [row] }

/-- `session.flush()`. -/
def flush : WorkM ε σ κ PUnit := do
  let w ← get
  if w.broken then throw schema.refusal
  if schema.valid (w.flushed schema) then
    set ({ w with rows := w.flushed schema, pending := [] } : Work σ κ)
  else
    set ({ w with broken := true } : Work σ κ)
    throw schema.violation

/-- The value of a pure computation, or its exception. -/
def ofExcept (result : Except ε α) : WorkM ε σ κ α :=
  match result with
  | .ok a => pure a
  | .error e => throw e

/-- `try: body except e: handler`. What the body did stays done. -/
def recover (body : WorkM ε σ κ PUnit) (handler : ε → Work σ κ → Work σ κ) :
    Work σ κ → Work σ κ := fun w =>
  match body w with
  | .ok _ w' => w'
  | .error e w' => handler e w'

/-- Commit a session that was opened on `world`: nothing is kept of a session
that is refused. -/
def commit (world : World σ ξ) (w : Work σ κ) : World σ ξ :=
  if w.broken then world
  else if schema.valid (w.flushed schema) then { world with store := w.flushed schema }
  else world

/-- The session a program leaves, whether it returned or raised. -/
def left (program : WorkM ε σ κ α) (w : Work σ κ) : Work σ κ :=
  match program w with
  | .ok _ w' => w'
  | .error _ w' => w'

section Rules

open Std.Do

variable {schema}

/-- A triple whose two postconditions agree speaks of the session left behind. -/
theorem left_of_triple {program : WorkM ε σ κ α} {I : Work σ κ → Prop} {w : Work σ κ}
    (hstart : I w)
    (h : ⦃fun v => ⌜I v⌝⦄ program ⦃post⟨fun _ v => ⌜I v⌝, fun _ v => ⌜I v⌝⟩⦄) :
    I (left program w) := by
  have hrun := (Triple.iff.mp h) w hstart
  unfold left
  simp only [wp, PredTrans.apply, EStateM.run] at hrun
  cases hw : program w with
  | ok a w' => simpa [hw] using hrun
  | error e w' => simpa [hw] using hrun

/-- What the body keeps and the handler keeps, the recovered program keeps. -/
theorem recover_keeps {body : WorkM ε σ κ PUnit} {handler : ε → Work σ κ → Work σ κ}
    {I : Work σ κ → Prop} {w : Work σ κ} (hbody : I (left body w))
    (hhandler : ∀ e v, I v → I (handler e v)) : I (recover body handler w) := by
  unfold recover
  unfold left at hbody
  cases hrun : body w with
  | ok a w' => simpa [hrun] using hbody
  | error e w' => exact hhandler e w' (by simpa [hrun] using hbody)

/-- A commit leaves the world as it was or stores what the session flushes. -/
theorem commit_cases (schema : Schema ε σ κ) (world : World σ ξ) (w : Work σ κ) :
    commit schema world w = world ∨
      (w.broken = false ∧ schema.valid (w.flushed schema) = true ∧
        commit schema world w = { world with store := w.flushed schema }) := by
  unfold commit
  cases hbroken : w.broken with
  | true => exact Or.inl rfl
  | false =>
    cases hvalid : schema.valid (w.flushed schema) with
    | true => exact Or.inr ⟨rfl, rfl, by simp⟩
    | false => exact Or.inl (by simp)

end Rules

end Work

end GhostRecon.Lib
