import Mathlib.Data.List.Basic
import Mathlib.Tactic

/-!
Splitting a list at the elements that satisfy a predicate: what the pieces are made of, and the
two parts around the first element of a kind.
-/

namespace GhostRecon.Lib

variable {α : Type} {p : α → Bool} {text piece : List α}

/-- No piece has an element at which the list is split. -/
theorem splitOnP_piece (hpiece : piece ∈ text.splitOnP p) : ∀ c ∈ piece, p c = false := by
  induction text generalizing piece with
  | nil =>
    rw [List.splitOnP_nil, List.mem_singleton] at hpiece
    simp [hpiece]
  | cons first rest ih =>
    rw [List.splitOnP_cons_eq_if_modifyHead] at hpiece
    cases hfirst : p first with
    | true =>
      rw [if_pos hfirst, List.mem_cons] at hpiece
      obtain rfl | hpiece := hpiece
      · simp
      · exact ih hpiece
    | false =>
      rw [if_neg (by simp [hfirst])] at hpiece
      cases hpieces : rest.splitOnP p with
      | nil => exact absurd hpieces (List.splitOnP_ne_nil p rest)
      | cons head tail =>
        rw [hpieces, List.modifyHead_cons, List.mem_cons] at hpiece
        obtain rfl | hpiece := hpiece
        · intro c hc
          obtain rfl | hc := List.mem_cons.mp hc
          · exact hfirst
          · exact ih (by rw [hpieces]; exact List.mem_cons_self) c hc
        · exact ih (by rw [hpieces]; exact List.mem_cons_of_mem _ hpiece)

/-- A piece is made of elements of the list. -/
theorem splitOnP_subset (hpiece : piece ∈ text.splitOnP p) : ∀ c ∈ piece, c ∈ text := by
  induction text generalizing piece with
  | nil =>
    rw [List.splitOnP_nil, List.mem_singleton] at hpiece
    simp [hpiece]
  | cons first rest ih =>
    rw [List.splitOnP_cons_eq_if_modifyHead] at hpiece
    by_cases hfirst : p first = true
    · rw [if_pos hfirst, List.mem_cons] at hpiece
      obtain rfl | hpiece := hpiece
      · simp
      · exact fun c hc => List.mem_cons_of_mem _ (ih hpiece c hc)
    · rw [if_neg hfirst] at hpiece
      cases hpieces : rest.splitOnP p with
      | nil => exact absurd hpieces (List.splitOnP_ne_nil p rest)
      | cons head tail =>
        rw [hpieces, List.modifyHead_cons, List.mem_cons] at hpiece
        obtain rfl | hpiece := hpiece
        · intro c hc
          obtain rfl | hc := List.mem_cons.mp hc
          · exact List.mem_cons_self
          · exact List.mem_cons_of_mem _ (ih (by rw [hpieces]; exact List.mem_cons_self) c hc)
        · exact fun c hc => List.mem_cons_of_mem _
            (ih (by rw [hpieces]; exact List.mem_cons_of_mem _ hpiece) c hc)

/-- An element is one at which the list is split, or stands in a piece. -/
theorem mem_splitOnP {c : α} (hc : c ∈ text) :
    p c = true ∨ ∃ piece ∈ text.splitOnP p, c ∈ piece := by
  induction text with
  | nil => cases hc
  | cons first rest ih =>
    rw [List.splitOnP_cons_eq_if_modifyHead]
    cases hfirst : p first with
    | true =>
      rw [if_pos rfl]
      rcases List.mem_cons.mp hc with rfl | hc
      · exact Or.inl hfirst
      · obtain hcut | ⟨piece, hpiece, hmem⟩ := ih hc
        · exact Or.inl hcut
        · exact Or.inr ⟨piece, List.mem_cons_of_mem _ hpiece, hmem⟩
    | false =>
      rw [if_neg (by simp)]
      cases hpieces : rest.splitOnP p with
      | nil => exact absurd hpieces (List.splitOnP_ne_nil p rest)
      | cons head tail =>
        rw [List.modifyHead_cons]
        rcases List.mem_cons.mp hc with rfl | hc
        · exact Or.inr ⟨c :: head, List.mem_cons_self, List.mem_cons_self⟩
        · obtain hcut | ⟨piece, hpiece, hmem⟩ := ih hc
          · exact Or.inl hcut
          · rw [hpieces] at hpiece
            rcases List.mem_cons.mp hpiece with rfl | hpiece
            · exact Or.inr ⟨first :: piece, List.mem_cons_self, List.mem_cons_of_mem _ hmem⟩
            · exact Or.inr ⟨piece, List.mem_cons_of_mem _ hpiece, hmem⟩

/-- A list has one first occurrence of an element. -/
theorem cut_inj {a : α} {front front' back back' : List α} (hfront : a ∉ front)
    (hfront' : a ∉ front') (hsame : front ++ a :: back = front' ++ a :: back') :
    front = front' ∧ back = back' := by
  induction front generalizing front' with
  | nil =>
    cases front' with
    | nil => exact ⟨rfl, (List.cons.inj hsame).2⟩
    | cons c rest => exact absurd ((List.cons.inj hsame).1 ▸ List.mem_cons_self) hfront'
  | cons c rest ih =>
    cases front' with
    | nil => exact absurd ((List.cons.inj hsame).1 ▸ List.mem_cons_self) hfront
    | cons c' rest' =>
      obtain ⟨rfl, hrest⟩ := List.cons.inj hsame
      obtain ⟨rfl, hback⟩ := ih (fun h => hfront (List.mem_cons_of_mem _ h))
        (fun h => hfront' (List.mem_cons_of_mem _ h)) hrest
      exact ⟨rfl, hback⟩

end GhostRecon.Lib
