import GhostRecon.Lib.Run
import Mathlib.Data.List.Sort
import Mathlib.Order.Defs.LinearOrder
import Mathlib.Tactic

/-!
Bounded waiting. Work is taken in batches from the front of an order; whoever is not in a
batch has a full batch before it, and if what was taken goes behind and nothing else comes
in front, each batch brings it nearer. After enough batches it has been taken.
-/

namespace GhostRecon.Lib

universe u v

section Batches

variable {α : Type u} {κ : Type v} [LinearOrder κ] {f : α → κ} {l : List α} {size : Nat}

/-- The first elements in the order of their keys. -/
def batch (f : α → κ) (size : Nat) (l : List α) : List α :=
  (l.insertionSort fun a b => f a ≤ f b).take size

theorem mem_of_mem_batch {a : α} (h : a ∈ batch f size l) : a ∈ l :=
  (List.mem_insertionSort _).mp (List.mem_of_mem_take h)

theorem batch_map_nodup {β : Type*} {g : α → β} (h : (l.map g).Nodup) :
    ((batch f size l).map g).Nodup := by
  have hsorted : ((l.insertionSort fun a b => f a ≤ f b).map g).Nodup :=
    ((List.perm_insertionSort _ l).map g).nodup_iff.mpr h
  exact hsorted.sublist ((List.take_sublist _ _).map g)

/-- An element that is left out has a full batch before it. -/
theorem batch_full {a : α} (ha : a ∈ l) (hout : a ∉ batch f size l) :
    (batch f size l).length = size ∧ ∀ b ∈ batch f size l, f b ≤ f a := by
  have hmem : a ∈ l.insertionSort fun a b => f a ≤ f b := (List.mem_insertionSort _).mpr ha
  have hcut := List.take_append_drop size (l.insertionSort fun a b => f a ≤ f b)
  have hdrop : a ∈ (l.insertionSort fun a b => f a ≤ f b).drop size := by
    rw [← hcut] at hmem
    exact (List.mem_append.mp hmem).resolve_left hout
  have hsorted : (l.insertionSort fun a b => f a ≤ f b).Pairwise fun a b => f a ≤ f b :=
    List.pairwise_insertionSort _ l
  constructor
  · have hlong := List.length_pos_of_mem hdrop
    rw [List.length_drop] at hlong
    rw [batch, List.length_take]
    omega
  · intro b hb
    rw [← hcut] at hsorted
    exact (List.pairwise_append.mp hsorted).2.2 b hb a hdrop

end Batches

section Rewrites

variable {α : Type u} {test : α → Bool} {f : Nat → α → α}

/-- A row that meets the test and no longer does is one less. -/
theorem countP_modify_lt {l : List α} {i : Nat} {g : α → α} {row : α} (hrow : l[i]? = some row)
    (hbefore : test row = true) (hafter : test (g row) = false) :
    (l.modify i g).countP test + 1 = l.countP test := by
  induction l generalizing i with
  | nil => simp at hrow
  | cons first rest ih =>
    cases i with
    | zero =>
      obtain rfl : first = row := by simpa using hrow
      rw [List.modify_zero_cons, List.countP_cons_of_pos hbefore,
        List.countP_cons_of_neg (by simp [hafter])]
    | succ i =>
      have hrest := ih (by simpa using hrow)
      rw [List.modify_succ_cons, List.countP_cons, List.countP_cons]
      omega

/-- Rewriting a row so that it meets the test only if it did before. -/
theorem countP_modify_le {l : List α} {i : Nat} {g : α → α}
    (h : ∀ row, l[i]? = some row → test (g row) = true → test row = true) :
    (l.modify i g).countP test ≤ l.countP test := by
  induction l generalizing i with
  | nil => simp
  | cons first rest ih =>
    cases i with
    | zero =>
      rw [List.modify_zero_cons, List.countP_cons, List.countP_cons]
      have hfirst := h first rfl
      cases hafter : test (g first) with
      | true => simp [hfirst hafter]
      | false => simp
    | succ i =>
      have hrest := ih fun row hrow => h row (by simpa using hrow)
      rw [List.modify_succ_cons, List.countP_cons, List.countP_cons]
      omega

/-- Rewriting rows of a list one after the other. -/
def modifyAll (f : Nat → α → α) (l : List α) (places : List Nat) : List α :=
  places.foldl (fun l i => l.modify i (f i)) l

theorem modifyAll_of_notMem {l : List α} {places : List Nat} {j : Nat} (h : j ∉ places) :
    (modifyAll f l places)[j]? = l[j]? := by
  induction places generalizing l with
  | nil => rfl
  | cons i rest ih =>
    rw [List.mem_cons, not_or] at h
    show (modifyAll f (l.modify i (f i)) rest)[j]? = l[j]?
    rw [ih h.2, List.getElem?_modify_ne _ _ (Ne.symm h.1)]

/-- If each of the rewritten rows meets the test before and not after, that many are
gone. -/
theorem countP_modifyAll {l : List α} {places : List Nat} (hnodup : places.Nodup)
    (hrows : ∀ i ∈ places, ∃ row, l[i]? = some row ∧ test row = true ∧
      test (f i row) = false) :
    (modifyAll f l places).countP test + places.length = l.countP test := by
  induction places generalizing l with
  | nil => rfl
  | cons i rest ih =>
    obtain ⟨hi, hrest⟩ := List.nodup_cons.mp hnodup
    obtain ⟨row, hrow, hbefore, hafter⟩ := hrows i List.mem_cons_self
    have hone := countP_modify_lt hrow hbefore hafter
    have hothers : ∀ j ∈ rest, ∃ row, (l.modify i (f i))[j]? = some row ∧ test row = true ∧
        test (f j row) = false := by
      intro j hj
      obtain ⟨other, hother, htests⟩ := hrows j (List.mem_cons_of_mem i hj)
      have hne : i ≠ j := fun heq => hi (heq ▸ hj)
      exact ⟨other, by rw [List.getElem?_modify_ne _ _ hne]; exact hother, htests⟩
    have hmore := ih hrest hothers
    show (modifyAll f (l.modify i (f i)) rest).countP test + (rest.length + 1) = l.countP test
    omega

end Rewrites

section Waiting

variable {σ : Type u} {α : Type v} {step : σ → α → σ} {ok : σ → α → Prop} (waits : σ → Prop)
  (rank : σ → Nat) (takes : α → Bool) (taken : σ → α → Prop) (size : Nat)

/-- Where each batch takes the one that waits or brings it nearer by the batch's size, and
nothing else brings it farther, it has been taken once the batches make up its rank. -/
theorem taken_within
    (htakes : ∀ s a, ok s a → waits s → takes a = true →
      taken s a ∨ (waits (step s a) ∧ rank (step s a) + size ≤ rank s))
    (hother : ∀ s a, ok s a → waits s → takes a = false →
      waits (step s a) ∧ rank (step s a) ≤ rank s)
    (hpositive : ∀ s, waits s → 0 < rank s)
    {s : σ} {actions : List α} (hrun : Admissible step ok s actions) (hwaits : waits s)
    (hrank : rank s ≤ size * actions.countP takes) :
    ∃ before a after, actions = before ++ a :: after ∧ takes a = true ∧
      waits (run step s before) ∧ taken (run step s before) a := by
  induction actions generalizing s with
  | nil =>
    have hpos := hpositive s hwaits
    simp at hrank
    omega
  | cons a rest ih =>
    obtain ⟨ha, hrest⟩ := hrun
    have hlater : waits (step s a) → rank (step s a) ≤ size * rest.countP takes →
        ∃ before b after, a :: rest = before ++ b :: after ∧ takes b = true ∧
          waits (run step s before) ∧ taken (run step s before) b := by
      intro hwaits' hrank'
      obtain ⟨before, b, after, rfl, hb, hstill, htaken⟩ := ih hrest hwaits' hrank'
      exact ⟨a :: before, b, after, rfl, hb, hstill, htaken⟩
    cases hcase : takes a with
    | true =>
      rw [List.countP_cons_of_pos hcase, Nat.mul_succ] at hrank
      rcases htakes s a ha hwaits hcase with htaken | ⟨hwaits', hnearer⟩
      · exact ⟨[], a, rest, rfl, hcase, hwaits, htaken⟩
      · exact hlater hwaits' (by omega)
    | false =>
      rw [List.countP_cons_of_neg (by simp [hcase])] at hrank
      obtain ⟨hwaits', hnear⟩ := hother s a ha hwaits hcase
      exact hlater hwaits' (by omega)

end Waiting

end GhostRecon.Lib
