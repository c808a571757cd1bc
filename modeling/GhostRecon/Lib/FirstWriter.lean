import Mathlib.Data.List.Perm.Basic
import Mathlib.Tactic

/-!
Keyed records with several writers. Each item publishes some keys and says one thing of
all of them; the first item that publishes a key decides what its record holds. What
the records hold is the same for every order of the items exactly when items that
publish one key say the same.
-/

namespace GhostRecon.Lib

universe u v w

variable {ι : Type u} {κ : Type v} {β : Type w}
variable {publishes : ι → κ → Prop} {value : ι → β}

/-- The items that publish a key say the same of it. -/
def Unanimous (publishes : ι → κ → Prop) (value : ι → β) (items : List ι) : Prop :=
  ∀ x ∈ items, ∀ y ∈ items, ∀ k, publishes x k → publishes y k → value x = value y

theorem Unanimous.perm {items items' : List ι} (h : Unanimous publishes value items)
    (hperm : items'.Perm items) : Unanimous publishes value items' :=
  fun x hx y hy => h x (hperm.mem_iff.mp hx) y (hperm.mem_iff.mp hy)

variable [∀ x k, Decidable (publishes x k)]

/-- What the first item that publishes the key says of it. -/
def firstWriter (publishes : ι → κ → Prop) [∀ x k, Decidable (publishes x k)]
    (value : ι → β) (k : κ) : List ι → Option β
  | [] => none
  | x :: rest => if publishes x k then some (value x) else firstWriter publishes value k rest

theorem firstWriter_none {k : κ} {items : List ι} :
    firstWriter publishes value k items = none ↔ ∀ x ∈ items, ¬ publishes x k := by
  induction items with
  | nil => simp [firstWriter]
  | cons x rest ih =>
    by_cases hx : publishes x k
    · simp [firstWriter, hx]
    · simp [firstWriter, hx, ih]

/-- The first writer is one of the items that publish the key. -/
theorem firstWriter_some {k : κ} {items : List ι} {b : β}
    (h : firstWriter publishes value k items = some b) :
    ∃ x ∈ items, publishes x k ∧ value x = b := by
  induction items with
  | nil => cases h
  | cons x rest ih =>
    by_cases hx : publishes x k
    · rw [firstWriter, if_pos hx] at h
      exact ⟨x, List.mem_cons_self, hx, Option.some.inj h⟩
    · rw [firstWriter, if_neg hx] at h
      obtain ⟨y, hy, hpublishes, hvalue⟩ := ih h
      exact ⟨y, List.mem_cons_of_mem _ hy, hpublishes, hvalue⟩

/-- Where the items agree, each that publishes the key says what its record holds. -/
theorem Unanimous.firstWriter {items : List ι} (h : Unanimous publishes value items) {x : ι}
    {k : κ} (hx : x ∈ items) (hpublishes : publishes x k) :
    Lib.firstWriter publishes value k items = some (value x) := by
  cases hfirst : Lib.firstWriter publishes value k items with
  | none => exact absurd hpublishes (firstWriter_none.mp hfirst x hx)
  | some b =>
    obtain ⟨y, hy, hother, hvalue⟩ := firstWriter_some hfirst
    rw [← hvalue, h y hy x hx k hother hpublishes]

/-- An item that is moved to the front decides the keys it publishes. -/
theorem firstWriter_front (value : ι → β) {items : List ι} {x : ι} {k : κ} (hx : x ∈ items)
    (hpublishes : publishes x k) :
    ∃ items' : List ι, items'.Perm items ∧
      firstWriter publishes value k items' = some (value x) := by
  obtain ⟨before, after, rfl⟩ := List.append_of_mem hx
  refine ⟨x :: (before ++ after), List.perm_middle.symm, ?_⟩
  rw [firstWriter, if_pos hpublishes]

/-- The records do not depend on the order of the items exactly when the items agree. -/
theorem firstWriter_perm_iff {items : List ι} :
    (∀ items' : List ι, items'.Perm items → ∀ k,
      firstWriter publishes value k items' = firstWriter publishes value k items) ↔
      Unanimous publishes value items := by
  constructor
  · intro hsame x hx y hy k hpublishes hother
    obtain ⟨first, hfirst, hx'⟩ := firstWriter_front value hx hpublishes
    obtain ⟨second, hsecond, hy'⟩ := firstWriter_front value hy hother
    rw [hsame first hfirst k] at hx'
    rw [hsame second hsecond k, hx'] at hy'
    exact Option.some.inj hy'
  · intro hagree items' hperm k
    cases hfirst : firstWriter publishes value k items with
    | none =>
      rw [firstWriter_none] at hfirst ⊢
      intro x hx
      exact hfirst x (hperm.mem_iff.mp hx)
    | some b =>
      obtain ⟨x, hx, hpublishes, rfl⟩ := firstWriter_some hfirst
      exact (hagree.perm hperm).firstWriter (hperm.mem_iff.mpr hx) hpublishes

/-- Only some keys are still to be decided. -/
theorem firstWriter_undecided {undecided : κ → Prop} [∀ k, Decidable (undecided k)] {k : κ}
    {items : List ι} :
    firstWriter (fun x k => publishes x k ∧ undecided k) value k items =
      if undecided k then firstWriter publishes value k items else none := by
  by_cases hk : undecided k
  · rw [if_pos hk]
    induction items with
    | nil => rfl
    | cons x rest ih => simp only [firstWriter, hk, and_true, ih]
  · rw [if_neg hk, firstWriter_none]
    exact fun _ _ hpublishes => hk hpublishes.2

end GhostRecon.Lib
