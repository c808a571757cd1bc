import Mathlib.Data.List.Sort
import Mathlib.Order.Defs.LinearOrder

/-!
Lists in the strict order of a key. What such a list relates in order it relates by the
keys, and what stands up to its first bad element is known by the keys.
-/

namespace GhostRecon.Lib

universe u v

variable {α : Type u} {κ : Type v} [LinearOrder κ] {f : α → κ} {l : List α}

/-- In a list ordered by a key the order of the list is the order of the keys. -/
theorem pairwise_iff_of_keys (hkeys : l.Pairwise (f · < f ·)) {R : α → α → Prop} :
    l.Pairwise R ↔ ∀ a ∈ l, ∀ b ∈ l, f a < f b → R a b := by
  constructor
  · intro hpairs
    induction l with
    | nil => simp
    | cons x rest ih =>
      obtain ⟨hx, hrest⟩ := List.pairwise_cons.mp hkeys
      obtain ⟨hxR, hrestR⟩ := List.pairwise_cons.mp hpairs
      intro a ha b hb hlt
      rcases List.mem_cons.mp ha with rfl | ha'
      · rcases List.mem_cons.mp hb with rfl | hb'
        · exact absurd hlt (lt_irrefl _)
        · exact hxR b hb'
      · rcases List.mem_cons.mp hb with rfl | hb'
        · exact absurd (hlt.trans (hx a ha')) (lt_irrefl _)
        · exact ih hrest hrestR a ha' b hb' hlt
  · intro h
    exact hkeys.imp_of_mem fun ha hb hlt => h _ ha _ hb hlt

/-- The elements up to the first that passes a test, which is the last of them. -/
def upToFirst (p : α → Bool) : List α → List α
  | [] => []
  | a :: rest => a :: if p a then [] else upToFirst p rest

theorem upToFirst_cons_of_pos {p : α → Bool} {a : α} {rest : List α} (h : p a = true) :
    upToFirst p (a :: rest) = [a] := by
  rw [upToFirst, if_pos h]

theorem upToFirst_cons_of_neg {p : α → Bool} {a : α} {rest : List α} (h : ¬ p a = true) :
    upToFirst p (a :: rest) = a :: upToFirst p rest := by
  rw [upToFirst, if_neg h]

theorem upToFirst_sublist (p : α → Bool) (l : List α) : (upToFirst p l).Sublist l := by
  induction l with
  | nil => exact List.Sublist.refl _
  | cons a rest ih =>
    by_cases h : p a = true
    · rw [upToFirst_cons_of_pos h]
      exact (List.nil_sublist rest).cons_cons a
    · rw [upToFirst_cons_of_neg h]
      exact ih.cons_cons a

/-- Where no element passes the test, nothing is cut off. -/
theorem upToFirst_eq_self {p : α → Bool} (h : ∀ a ∈ l, p a = false) : upToFirst p l = l := by
  induction l with
  | nil => rfl
  | cons a rest ih =>
    rw [upToFirst_cons_of_neg (by simp [h a List.mem_cons_self]),
      ih fun b hb => h b (List.mem_cons_of_mem a hb)]

/-- An element is reached when no element before it passes the test. -/
theorem mem_upToFirst_of_keys (hkeys : l.Pairwise (f · < f ·)) {p : α → Bool} {a : α} :
    a ∈ upToFirst p l ↔ a ∈ l ∧ ∀ b ∈ l, f b < f a → p b = false := by
  induction l with
  | nil => simp [upToFirst]
  | cons x rest ih =>
    obtain ⟨hx, hrest⟩ := List.pairwise_cons.mp hkeys
    by_cases hp : p x = true
    · rw [upToFirst_cons_of_pos hp, List.mem_singleton]
      constructor
      · rintro rfl
        refine ⟨List.mem_cons_self, ?_⟩
        intro b hb hlt
        rcases List.mem_cons.mp hb with rfl | hb
        · exact absurd hlt (lt_irrefl _)
        · exact absurd hlt (not_lt.mpr (hx b hb).le)
      · rintro ⟨ha, hbefore⟩
        rcases List.mem_cons.mp ha with rfl | ha
        · rfl
        · have hclear := hbefore x List.mem_cons_self (hx a ha)
          rw [hp] at hclear
          cases hclear
    · rw [upToFirst_cons_of_neg hp, List.mem_cons, ih hrest, List.mem_cons]
      constructor
      · rintro (rfl | ⟨ha, hbefore⟩)
        · refine ⟨Or.inl rfl, ?_⟩
          intro b hb hlt
          rcases List.mem_cons.mp hb with rfl | hb
          · exact absurd hlt (lt_irrefl _)
          · exact absurd hlt (not_lt.mpr (hx b hb).le)
        · refine ⟨Or.inr ha, ?_⟩
          intro b hb hlt
          rcases List.mem_cons.mp hb with rfl | hb
          · exact Bool.not_eq_true _ ▸ hp
          · exact hbefore b hb hlt
      · rintro ⟨rfl | ha, hbefore⟩
        · exact Or.inl rfl
        · exact Or.inr ⟨ha, fun b hb hlt => hbefore b (List.mem_cons_of_mem x hb) hlt⟩

end GhostRecon.Lib
