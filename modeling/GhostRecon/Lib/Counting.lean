import Mathlib.Data.List.Basic

/-!
Counting the rows of a table that meet a test, before and after some rows are
rewritten: rows that meet the test and stay in their place are counted again,
and a place that comes to meet it adds one.
-/

namespace GhostRecon.Lib

universe u

variable {α : Type u} {test : α → Bool}

/-- Every row of the first table that meets the test is at its place in the
second. -/
def KeepsCounted (test : α → Bool) (before after : List α) : Prop :=
  ∀ (i : Nat) (row : α), before[i]? = some row → test row = true → after[i]? = some row

theorem KeepsCounted.refl (rows : List α) : KeepsCounted test rows rows :=
  fun _ _ hrow _ => hrow

theorem KeepsCounted.trans {a b c : List α} (hab : KeepsCounted test a b)
    (hbc : KeepsCounted test b c) : KeepsCounted test a c :=
  fun i row hrow htest => hbc i row (hab i row hrow htest) htest

/-- A weaker test keeps at least what a stronger one counts. -/
theorem KeepsCounted.mono {strong : α → Bool} {before after : List α}
    (h : KeepsCounted test before after) (himp : ∀ row, strong row = true → test row = true) :
    KeepsCounted strong before after :=
  fun i row hrow hstrong => h i row hrow (himp row hstrong)

theorem KeepsCounted.append (rows more : List α) : KeepsCounted test rows (rows ++ more) := by
  intro i row hrow _
  obtain ⟨hlt, -⟩ := List.getElem?_eq_some_iff.mp hrow
  rw [List.getElem?_append_left hlt]
  exact hrow

/-- Rewriting a row that is not counted. -/
theorem KeepsCounted.modify {rows : List α} {place : Nat} {f : α → α}
    (h : ∀ row, rows[place]? = some row → test row = false) :
    KeepsCounted test rows (rows.modify place f) := by
  intro i row hrow htest
  by_cases hplace : place = i
  · subst hplace
    rw [h row hrow] at htest
    cases htest
  · rw [List.getElem?_modify_ne _ _ hplace]
    exact hrow

theorem KeepsCounted.tail {first second : α} {before after : List α}
    (h : KeepsCounted test (first :: before) (second :: after)) :
    KeepsCounted test before after := by
  intro i row hrow htest
  have hnext := h (i + 1) row (by simpa using hrow) htest
  simpa using hnext

theorem countP_eq_zero_of_kept_nil {before : List α} (h : KeepsCounted test before []) :
    before.countP test = 0 := by
  rw [List.countP_eq_zero]
  intro row hrow htest
  obtain ⟨i, hi⟩ := List.mem_iff_getElem?.mp hrow
  have hnone := h i row hi htest
  simp at hnone

/-- The count does not go down. -/
theorem KeepsCounted.countP_le {before after : List α} (h : KeepsCounted test before after) :
    before.countP test ≤ after.countP test := by
  induction before generalizing after with
  | nil => simp
  | cons first rest ih =>
    cases after with
    | nil => rw [countP_eq_zero_of_kept_nil h]; exact Nat.zero_le _
    | cons second others =>
      have hrest := ih h.tail
      by_cases hfirst : test first = true
      · have hsame : second = first := by
          have hhead := h 0 first rfl hfirst
          simpa using hhead
        subst hsame
        rw [List.countP_cons_of_pos hfirst, List.countP_cons_of_pos hfirst]
        omega
      · rw [List.countP_cons_of_neg (by simpa using hfirst), List.countP_cons]
        omega

/-- A place that was not counted and now is adds one. -/
theorem KeepsCounted.countP_lt {before after : List α} {place : Nat} {new : α}
    (h : KeepsCounted test before after)
    (hold : ∀ row, before[place]? = some row → test row = false)
    (hnew : after[place]? = some new) (htest : test new = true) :
    before.countP test + 1 ≤ after.countP test := by
  induction before generalizing after place with
  | nil =>
    have hmem : new ∈ after := List.mem_of_getElem? hnew
    have hpositive : 0 < after.countP test := List.countP_pos_iff.mpr ⟨new, hmem, htest⟩
    simpa using hpositive
  | cons first rest ih =>
    cases after with
    | nil => simp at hnew
    | cons second others =>
      cases place with
      | zero =>
        have hfirst : test first = false := hold first rfl
        have hsecond : second = new := by simpa using hnew
        subst hsecond
        have hrest := h.tail.countP_le
        rw [List.countP_cons_of_neg (by simp [hfirst]), List.countP_cons_of_pos htest]
        omega
      | succ place =>
        have hrest := ih h.tail (fun row hrow => hold row (by simpa using hrow))
          (by simpa using hnew)
        by_cases hfirst : test first = true
        · have hsame : second = first := by
            have hhead := h 0 first rfl hfirst
            simpa using hhead
          subst hsame
          rw [List.countP_cons_of_pos hfirst, List.countP_cons_of_pos hfirst]
          omega
        · rw [List.countP_cons_of_neg (by simpa using hfirst), List.countP_cons]
          omega

end GhostRecon.Lib
