import Mathlib.Data.List.Basic
import Mathlib.Data.List.Nodup
import Mathlib.Tactic

/-!
Reading a list by pages of a fixed size, each found by the number of rows before
it, while the list loses rows. As long as no row before the reader's place is
lost, what was read is the beginning of what is there, and at the end it is all of
it; a row lost before that place moves the others up, and one of them is passed
over.
-/

namespace GhostRecon.Lib

universe u

/-- The pages read so far, and whether there may be more. -/
structure Reader (α : Type u) where
  pages : List (List α) := []
  more : Bool := true

variable {α : Type u}

/-- The number of rows the reader has asked for so far. -/
def Reader.place (r : Reader α) (limit : Nat) : Nat :=
  r.pages.length * limit

/-- One more row than the page is fetched, to see whether there are more. -/
def Reader.read (r : Reader α) (limit : Nat) (rows : List α) : Reader α :=
  if r.more then
    { pages := r.pages ++ [(rows.drop (r.place limit)).take limit]
      more := decide (limit < (rows.drop (r.place limit)).length) }
  else r

/-- What was read is the beginning of the rows, and all of them at the end. -/
structure Reader.InStep (r : Reader α) (limit : Nat) (rows : List α) : Prop where
  distinct : rows.Nodup
  read : r.more = true →
    r.pages.flatten = rows.take (r.place limit) ∧ r.place limit ≤ rows.length
  finished : r.more = false → r.pages.flatten.Nodup ∧ ∀ row ∈ rows, row ∈ r.pages.flatten

theorem Reader.InStep.start {limit : Nat} {rows : List α} (h : rows.Nodup) :
    Reader.InStep {} limit rows where
  distinct := h
  read := by simp [Reader.place]
  finished := by
    intro hmore
    cases hmore

theorem Reader.InStep.read_keeps {r : Reader α} {limit : Nat} {rows : List α}
    (h : r.InStep limit rows) : (r.read limit rows).InStep limit rows := by
  unfold Reader.read
  cases hmore : r.more with
  | false =>
    simp only [Bool.false_eq_true, if_false]
    exact h
  | true =>
    obtain ⟨hread, hplace⟩ := h.read hmore
    have hflatten : (r.pages ++ [(rows.drop (r.place limit)).take limit]).flatten =
        rows.take (r.place limit + limit) := by
      rw [List.flatten_append, hread, List.take_add]
      simp
    have hnext : (r.pages ++ [(rows.drop (r.place limit)).take limit]).length * limit =
        r.place limit + limit := by
      simp [Reader.place, Nat.add_mul]
    simp only [if_true]
    refine ⟨h.distinct, ?_, ?_⟩
    · intro hlong
      simp only [decide_eq_true_eq, List.length_drop] at hlong
      show _ = rows.take ((r.pages ++ [_]).length * limit) ∧
        (r.pages ++ [_]).length * limit ≤ rows.length
      rw [hnext]
      exact ⟨hflatten, by omega⟩
    · intro hshort
      simp only [decide_eq_false_iff_not, List.length_drop] at hshort
      have hall : rows.take (r.place limit + limit) = rows :=
        List.take_of_length_le (by omega)
      rw [hflatten, hall]
      exact ⟨h.distinct, fun row hrow => hrow⟩

theorem sublist_eq_filter [DecidableEq α] {rows rows' : List α} (hnodup : rows.Nodup)
    (hsub : rows'.Sublist rows) : rows' = rows.filter (· ∈ rows') := by
  have hmem : (rows.filter (· ∈ rows')).Nodup := hnodup.filter _
  have hinto : rows'.Sublist (rows.filter (· ∈ rows')) := by
    have hfiltered := hsub.filter (· ∈ rows')
    rwa [List.filter_eq_self.mpr (by simp)] at hfiltered
  apply hinto.eq_of_length_le
  apply (hmem.subperm ?_).length_le
  intro row hrow
  simpa using (List.mem_filter.mp hrow).2

/-- Rows may be lost after the reader's place, and anywhere once the reading is
over. -/
theorem Reader.InStep.lose [DecidableEq α] {r : Reader α} {limit : Nat} {rows rows' : List α}
    (h : r.InStep limit rows) (hlost : rows'.Sublist rows)
    (hkept : r.more = true → ∀ row ∈ rows.take (r.place limit), row ∈ rows') :
    r.InStep limit rows' where
  distinct := h.distinct.sublist hlost
  read := by
    intro hmore
    obtain ⟨hread, hplace⟩ := h.read hmore
    have hcut : rows' =
        rows.take (r.place limit) ++ (rows.drop (r.place limit)).filter (· ∈ rows') := by
      conv_lhs =>
        rw [sublist_eq_filter h.distinct hlost, ← List.take_append_drop (r.place limit) rows]
      rw [List.filter_append, List.filter_eq_self.mpr (by simpa using hkept hmore)]
    have hlength : (rows.take (r.place limit)).length = r.place limit := by
      rw [List.length_take]
      omega
    constructor
    · rw [hread, hcut, List.take_left' hlength]
    · rw [hcut, List.length_append, hlength]
      omega
  finished := by
    intro hmore
    obtain ⟨hnodup, hall⟩ := h.finished hmore
    exact ⟨hnodup, fun row hrow => hall row (hlost.subset hrow)⟩

/-- A row of pages without repetition is on one of them. -/
theorem on_one_page [DecidableEq α] {pages : List (List α)} {row : α}
    (hnodup : pages.flatten.Nodup) (hrow : row ∈ pages.flatten) :
    (pages.filter (row ∈ ·)).length = 1 := by
  induction pages with
  | nil => simp at hrow
  | cons page rest ih =>
    rw [List.flatten_cons, List.nodup_append] at hnodup
    obtain ⟨-, hrest, hdisjoint⟩ := hnodup
    by_cases hpage : row ∈ page
    · have hnone : rest.filter (row ∈ ·) = [] := by
        rw [List.filter_eq_nil_iff]
        intro other hother
        rw [decide_eq_true_eq]
        intro hmem
        exact hdisjoint row hpage row (List.mem_flatten_of_mem hother hmem) rfl
      simp [hpage, hnone]
    · rw [List.flatten_cons, List.mem_append] at hrow
      have hlater := ih hrest (hrow.resolve_left hpage)
      simpa [hpage] using hlater

/-- Every row that is still there when the reading is over was on exactly one page. -/
theorem Reader.InStep.on_one_page [DecidableEq α] {r : Reader α} {limit : Nat} {rows : List α}
    (h : r.InStep limit rows) (hover : r.more = false) :
    ∀ row ∈ rows, (r.pages.filter (row ∈ ·)).length = 1 := by
  intro row hrow
  obtain ⟨hnodup, hall⟩ := h.finished hover
  exact Lib.on_one_page hnodup (hall row hrow)

end GhostRecon.Lib
