import Mathlib.Logic.Function.Basic

/-!
A key-value store whose entries have a lifetime. An entry is there until its
expiry, and every command is given the time it runs at; nothing is assumed of
successive times.
-/

namespace GhostRecon.Lib

universe u v

/-- The value of each key and the time it expires at. -/
abbrev Expiring (κ : Type u) (ν : Type v) := κ → Option (ν × Int)

namespace Expiring

variable {κ : Type u} {ν : Type v} [DecidableEq κ]

def empty : Expiring κ ν := fun _ => none

/-- `GET`. -/
def get (store : Expiring κ ν) (now : Int) (key : κ) : Option ν :=
  match store key with
  | none => none
  | some (value, expiresAt) => if now < expiresAt then some value else none

/-- `SET key value EX`, with the absolute expiry. -/
def set (store : Expiring κ ν) (key : κ) (value : ν) (expiresAt : Int) : Expiring κ ν :=
  Function.update store key (some (value, expiresAt))

/-- `DEL`. -/
def delete (store : Expiring κ ν) (key : κ) : Expiring κ ν :=
  Function.update store key none

/-- `SET key value EX NX`: whether it was set. -/
def setNew (store : Expiring κ ν) (now : Int) (key : κ) (value : ν) (expiresAt : Int) :
    Bool × Expiring κ ν :=
  if (store.get now key).isSome then (false, store) else (true, store.set key value expiresAt)

omit [DecidableEq κ] in
theorem get_eq_some {store : Expiring κ ν} {now : Int} {key : κ} {value : ν} :
    store.get now key = some value ↔
      ∃ expiresAt, store key = some (value, expiresAt) ∧ now < expiresAt := by
  unfold get
  cases hentry : store key with
  | none => simp
  | some entry =>
    obtain ⟨found, expiresAt⟩ := entry
    dsimp only
    split
    · next hlive =>
      simp only [Option.some.injEq, Prod.mk.injEq]
      constructor
      · rintro rfl
        exact ⟨expiresAt, ⟨rfl, rfl⟩, hlive⟩
      · rintro ⟨other, ⟨rfl, rfl⟩, -⟩
        rfl
    · next hdead =>
      simp only [reduceCtorEq, Option.some.injEq, Prod.mk.injEq, false_iff, not_exists, not_and]
      rintro other ⟨rfl, rfl⟩
      exact hdead

/-- A key that has no entry can be set anew. -/
theorem setNew_of_absent {store : Expiring κ ν} {now : Int} {key : κ} (h : store key = none)
    (value : ν) (expiresAt : Int) :
    store.setNew now key value expiresAt = (true, store.set key value expiresAt) := by
  unfold setNew get
  simp [h]

@[simp] theorem set_self (store : Expiring κ ν) (key : κ) (value : ν) (expiresAt : Int) :
    store.set key value expiresAt key = some (value, expiresAt) :=
  Function.update_self key _ store

theorem set_of_ne {store : Expiring κ ν} {key other : κ} (h : other ≠ key) (value : ν)
    (expiresAt : Int) : store.set key value expiresAt other = store other :=
  Function.update_of_ne h _ store

@[simp] theorem delete_self (store : Expiring κ ν) (key : κ) : store.delete key key = none := by
  simp [delete]

theorem delete_of_ne {store : Expiring κ ν} {key other : κ} (h : other ≠ key) :
    store.delete key other = store other := by
  simp [delete, h]

/-- Deleting only takes entries away. -/
theorem of_delete {store : Expiring κ ν} {key other : κ} {entry : ν × Int}
    (h : store.delete key other = some entry) : store other = some entry ∧ other ≠ key := by
  by_cases heq : other = key
  · subst heq
    simp at h
  · rw [delete_of_ne heq] at h
    exact ⟨h, heq⟩

end Expiring

end GhostRecon.Lib
