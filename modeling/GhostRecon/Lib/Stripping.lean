import Mathlib.Data.List.Basic
import Mathlib.Data.List.DropRight
import Mathlib.Tactic

/-!
Blanks at the ends of a list, for any notion of blank. Stripping drops the blanks at both ends;
closing a list up at a place drops the blanks just before it. Neither drops an element that is
no blank, and closing up is seen after stripping only where blanks stand between two others.
-/

namespace GhostRecon.Lib

variable {α : Type} {p : α → Bool}

/-- A list without the blanks at its ends. -/
def stripEnds (p : α → Bool) (l : List α) : List α :=
  (l.dropWhile p).rdropWhile p

/-- A list without the blanks that end at a place. -/
def closeUp (p : α → Bool) (n : Nat) (l : List α) : List α :=
  (l.take n).rdropWhile p ++ l.drop n

section Ends

variable {l front back : List α}

theorem rdropWhile_append_blank (hback : ∀ c ∈ back, p c = true) :
    (front ++ back).rdropWhile p = front.rdropWhile p := by
  rw [List.rdropWhile, List.reverse_append,
    List.dropWhile_append_of_pos fun c hc => hback c (List.mem_reverse.mp hc)]
  rfl

theorem rdropWhile_append_kept (hback : ∃ c ∈ back, p c = false) :
    (front ++ back).rdropWhile p = front ++ back.rdropWhile p := by
  obtain ⟨c, hc, hkept⟩ := hback
  have hne : ¬(back.reverse.dropWhile p).isEmpty = true := by
    rw [List.isEmpty_iff, List.dropWhile_eq_nil_iff]
    intro hall
    rw [hall c (List.mem_reverse.mpr hc)] at hkept
    exact absurd hkept (by simp)
  rw [List.rdropWhile, List.reverse_append, List.dropWhile_append, if_neg hne,
    List.reverse_append, List.reverse_reverse]
  rfl

theorem rdropWhile_self (hl : ∀ c ∈ l, p c = false) : l.rdropWhile p = l := by
  rw [List.rdropWhile_eq_self_iff]
  intro hne
  rw [hl _ (List.getLast_mem hne)]
  simp

/-- Nothing is dropped of elements that are all kept. -/
theorem rdropWhile_append_word (hfront : ∀ c ∈ front, p c = false) (back : List α) :
    (front ++ back).rdropWhile p = front ++ back.rdropWhile p := by
  by_cases hback : ∃ c ∈ back, p c = false
  · exact rdropWhile_append_kept hback
  · have hblank : ∀ c ∈ back, p c = true := by
      intro c hc
      simpa using fun hkept => hback ⟨c, hc, hkept⟩
    rw [rdropWhile_append_blank hblank, rdropWhile_self hfront,
      List.rdropWhile_eq_nil_iff.mpr hblank, List.append_nil]

theorem dropWhile_self (hl : ∀ c ∈ l, p c = false) : l.dropWhile p = l := by
  cases l with
  | nil => rfl
  | cons c rest =>
    rw [List.dropWhile_cons_of_neg (by simp [hl c List.mem_cons_self])]

theorem dropWhile_append_word (hfront : ∀ c ∈ front, p c = false) (hne : front ≠ [])
    (back : List α) : (front ++ back).dropWhile p = front ++ back := by
  cases front with
  | nil => exact absurd rfl hne
  | cons c rest =>
    rw [List.cons_append, List.dropWhile_cons_of_neg (by simp [hfront c List.mem_cons_self])]

theorem dropWhile_append_blank (hfront : ∀ c ∈ front, p c = true) :
    (front ++ back).dropWhile p = back.dropWhile p :=
  List.dropWhile_append_of_pos hfront

theorem dropWhile_append_kept (hfront : ∃ c ∈ front, p c = false) :
    (front ++ back).dropWhile p = front.dropWhile p ++ back := by
  obtain ⟨c, hc, hkept⟩ := hfront
  have hne : ¬(front.dropWhile p).isEmpty = true := by
    rw [List.isEmpty_iff, List.dropWhile_eq_nil_iff]
    intro hall
    rw [hall c hc] at hkept
    exact absurd hkept (by simp)
  rw [List.dropWhile_append, if_neg hne]

/-- What is kept at the front is kept without the blanks before it. -/
theorem exists_kept_dropWhile (hl : ∃ c ∈ l, p c = false) :
    ∃ c ∈ l.dropWhile p, p c = false := by
  obtain ⟨c, hc, hkept⟩ := hl
  rw [← List.takeWhile_append_dropWhile (p := p) (l := l), List.mem_append] at hc
  refine hc.elim (fun h => ?_) fun h => ⟨c, h, hkept⟩
  rw [List.mem_takeWhile_imp h] at hkept
  exact absurd hkept (by simp)

theorem blank_or_kept (p : α → Bool) (l : List α) :
    (∀ c ∈ l, p c = true) ∨ ∃ c ∈ l, p c = false := by
  by_cases h : ∃ c ∈ l, p c = false
  · exact Or.inr h
  · exact Or.inl fun c hc => by simpa using fun hkept => h ⟨c, hc, hkept⟩

theorem stripEnds_blank_front (hfront : ∀ c ∈ front, p c = true) :
    stripEnds p (front ++ back) = stripEnds p back := by
  rw [stripEnds, dropWhile_append_blank hfront]
  rfl

theorem stripEnds_blank_back (hback : ∀ c ∈ back, p c = true) :
    stripEnds p (front ++ back) = stripEnds p front := by
  rcases blank_or_kept p front with hfront | hfront
  · have hall : ∀ c ∈ front ++ back, p c = true := fun c hc =>
      (List.mem_append.mp hc).elim (hfront c) (hback c)
    rw [stripEnds, stripEnds, List.dropWhile_eq_nil_iff.mpr hall,
      List.dropWhile_eq_nil_iff.mpr hfront]
  · rw [stripEnds, dropWhile_append_kept hfront, rdropWhile_append_blank hback]
    rfl

/-- Between two elements that are kept nothing is dropped. -/
theorem stripEnds_append (hfront : ∃ c ∈ front, p c = false) (hback : ∃ c ∈ back, p c = false) :
    stripEnds p (front ++ back) = front.dropWhile p ++ back.rdropWhile p := by
  rw [stripEnds, dropWhile_append_kept hfront, rdropWhile_append_kept hback]

theorem mem_stripEnds {c : α} (hc : c ∈ stripEnds p l) : c ∈ l :=
  (List.dropWhile_sublist p).mem ((List.rdropWhile_prefix p _).sublist.mem hc)

/-- An element stands in the blanks in front, in what stripping leaves, or in the blanks at the
end. -/
theorem mem_parts {c : α} (hc : c ∈ l) :
    c ∈ l.takeWhile p ∨ c ∈ stripEnds p l ∨ c ∈ l.rtakeWhile p := by
  have hsplit : l = l.takeWhile p ++ (stripEnds p l ++ (l.dropWhile p).rtakeWhile p) := by
    rw [stripEnds, List.rdropWhile_append_rtakeWhile, List.takeWhile_append_dropWhile]
  have hblank : ∀ d ∈ (l.dropWhile p).rtakeWhile p, p d = true :=
    fun d hd => List.mem_rtakeWhile_imp hd
  have hend : ∀ d ∈ (l.dropWhile p).rtakeWhile p, d ∈ l.rtakeWhile p := by
    intro d hd
    rw [hsplit, ← List.append_assoc, List.rtakeWhile, List.reverse_append,
      List.takeWhile_append_of_pos fun e he => hblank e (List.mem_reverse.mp he),
      List.reverse_append, List.reverse_reverse]
    exact List.mem_append_right _ hd
  rw [hsplit, List.mem_append, List.mem_append] at hc
  exact hc.imp_right fun h => h.imp_right (hend c)

end Ends

section Counts

variable {l : List α}

theorem countP_rdropWhile (l : List α) :
    (l.rdropWhile p).countP (fun c => !p c) = l.countP fun c => !p c := by
  have hblank : (l.rtakeWhile p).countP (fun c => !p c) = 0 := by
    rw [List.countP_eq_zero]
    intro c hc
    simpa using List.mem_rtakeWhile_imp hc
  conv_rhs => rw [← List.rdropWhile_append_rtakeWhile (p := p) (l := l)]
  rw [List.countP_append, hblank, Nat.add_zero]

theorem countP_dropWhile (l : List α) :
    (l.dropWhile p).countP (fun c => !p c) = l.countP fun c => !p c := by
  have hblank : (l.takeWhile p).countP (fun c => !p c) = 0 := by
    rw [List.countP_eq_zero]
    intro c hc
    simpa using List.mem_takeWhile_imp hc
  conv_rhs => rw [← List.takeWhile_append_dropWhile (p := p) (l := l)]
  rw [List.countP_append, hblank, Nat.zero_add]

/-- Stripping drops blanks only. -/
theorem countP_stripEnds (l : List α) :
    (stripEnds p l).countP (fun c => !p c) = l.countP fun c => !p c := by
  rw [stripEnds, countP_rdropWhile, countP_dropWhile]

/-- Closing up drops blanks only. -/
theorem countP_closeUp (n : Nat) (l : List α) :
    (closeUp p n l).countP (fun c => !p c) = l.countP fun c => !p c := by
  rw [closeUp, List.countP_append, countP_rdropWhile, ← List.countP_append,
    List.take_append_drop]

end Counts

section Closing

variable {n : Nat} {l front back : List α} {c : α}

theorem closeUp_zero (l : List α) : closeUp p 0 l = l := rfl

theorem mem_closeUp (hc : c ∈ closeUp p n l) : c ∈ l := by
  rcases List.mem_append.mp hc with h | h
  · exact List.mem_of_mem_take ((List.rdropWhile_prefix p _).sublist.mem h)
  · exact List.mem_of_mem_drop h

theorem closeUp_before (hn : n ≤ front.length) :
    closeUp p n (front ++ back) = closeUp p n front ++ back := by
  rw [closeUp, closeUp, List.take_append_of_le_length hn, List.drop_append_of_le_length hn,
    List.append_assoc]

theorem mem_closeUp_of_kept (hc : c ∈ l) (hkept : p c = false) (n : Nat) :
    c ∈ closeUp p n l := by
  rw [closeUp, List.mem_append]
  rw [← List.take_append_drop n l, List.mem_append] at hc
  refine hc.imp_left fun h => ?_
  rw [← List.rdropWhile_append_rtakeWhile (p := p) (l := l.take n), List.mem_append] at h
  refine h.resolve_right fun hblank => ?_
  rw [List.mem_rtakeWhile_imp hblank] at hkept
  exact absurd hkept (by simp)

/-- Closing up behind an element that is kept leaves what stands before it. -/
theorem closeUp_after (hc : p c = false) (hn : front.length < n) :
    closeUp p n (front ++ c :: back) = front ++ c :: closeUp p (n - front.length - 1) back := by
  obtain ⟨m, rfl⟩ : ∃ m, n = front.length + (m + 1) := ⟨n - front.length - 1, by omega⟩
  have hm : front.length + (m + 1) - front.length - 1 = m := by omega
  rw [hm, closeUp, closeUp, List.take_length_add_append, List.drop_length_add_append,
    List.take_succ_cons, List.drop_succ_cons, rdropWhile_append_kept ⟨c, List.mem_cons_self, hc⟩]
  have hback : (c :: back.take m).rdropWhile p = c :: (back.take m).rdropWhile p := by
    rcases blank_or_kept p (back.take m) with hblank | hkept
    · rw [← List.singleton_append, rdropWhile_append_blank hblank,
        (List.rdropWhile_eq_nil_iff (l := back.take m)).mpr hblank]
      exact (List.rdropWhile_eq_self_iff (l := [c])).mpr (by simp [hc])
    · rw [← List.singleton_append, rdropWhile_append_kept hkept]
      rfl
  rw [hback]
  simp

/-- Closing up leaves the first element if it is kept. -/
theorem closeUp_cons (hc : p c = false) (n : Nat) (back : List α) :
    closeUp p n (c :: back) = c :: closeUp p (n - 1) back := by
  cases n with
  | zero => rfl
  | succ n =>
    have hfront : ([] : List α).length < n + 1 := Nat.succ_pos n
    exact closeUp_after hc hfront

/-- Closing up is seen only where blanks end that have an element before and one behind. -/
theorem stripEnds_closeUp_iff (n : Nat) (l : List α) :
    stripEnds p (closeUp p n l) = stripEnds p l ↔
      (∀ c ∈ l.take n, p c = true) ∨ (∀ c ∈ l.drop n, p c = true) ∨
        ∀ c ∈ (l.take n).getLast?, p c = false := by
  generalize hfront : l.take n = front
  generalize hback : l.drop n = back
  have hl : l = front ++ back := by rw [← hfront, ← hback, List.take_append_drop]
  rw [closeUp, hfront, hback, hl]
  rcases blank_or_kept p front with hfrontBlank | hfrontKept
  · have hnil : front.rdropWhile p = [] := List.rdropWhile_eq_nil_iff.mpr hfrontBlank
    exact iff_of_true (by rw [hnil, List.nil_append, stripEnds_blank_front hfrontBlank])
      (Or.inl hfrontBlank)
  rcases blank_or_kept p back with hbackBlank | hbackKept
  · refine iff_of_true ?_ (Or.inr (Or.inl hbackBlank))
    have hsplit : front = front.rdropWhile p ++ front.rtakeWhile p :=
      List.rdropWhile_append_rtakeWhile.symm
    have hends : ∀ c ∈ front.rtakeWhile p, p c = true := fun c hc => List.mem_rtakeWhile_imp hc
    rw [stripEnds_blank_back hbackBlank, stripEnds_blank_back hbackBlank]
    conv_rhs => rw [hsplit, stripEnds_blank_back hends]
  have hkeptFront : ∃ c ∈ front.rdropWhile p, p c = false := by
    obtain ⟨c, hc, hkept⟩ := hfrontKept
    have hcount : 0 < (front.rdropWhile p).countP fun c => !p c := by
      rw [countP_rdropWhile, List.countP_pos_iff]
      exact ⟨c, hc, by simp [hkept]⟩
    obtain ⟨d, hd, hkeptD⟩ := List.countP_pos_iff.mp hcount
    exact ⟨d, hd, by simpa using hkeptD⟩
  rw [stripEnds_append hkeptFront hbackKept, stripEnds_append hfrontKept hbackKept]
  constructor
  · intro hsame
    refine Or.inr (Or.inr ?_)
    intro c hc
    obtain ⟨front', rfl⟩ := List.getLast?_eq_some_iff.mp hc
    cases hcase : p c with
    | false => rfl
    | true =>
      have hfronts := List.append_cancel_right hsame
      have hlength := congrArg List.length hfronts
      rw [List.rdropWhile_concat_pos _ _ _ hcase] at hkeptFront hlength
      have hkept' : ∃ d ∈ front', p d = false := by
        obtain ⟨d, hd, hkept⟩ := hkeptFront
        exact ⟨d, (List.rdropWhile_prefix p _).sublist.mem hd, hkept⟩
      have hle : (List.dropWhile p (front'.rdropWhile p)).length ≤
          (front'.dropWhile p).length := by
        have hsplit : front' = front'.rdropWhile p ++ front'.rtakeWhile p :=
          List.rdropWhile_append_rtakeWhile.symm
        conv_rhs => rw [hsplit, dropWhile_append_kept hkeptFront]
        rw [List.length_append]
        omega
      rw [dropWhile_append_kept hkept', List.length_append, List.length_singleton] at hlength
      omega
  · rintro (hall | hall | hlast)
    · obtain ⟨c, hc, hkept⟩ := hfrontKept
      rw [hall c hc] at hkept
      exact absurd hkept (by simp)
    · obtain ⟨c, hc, hkept⟩ := hbackKept
      rw [hall c hc] at hkept
      exact absurd hkept (by simp)
    · have hself : front.rdropWhile p = front := by
        rw [List.rdropWhile_eq_self_iff]
        intro hne
        rw [hlast _ (List.getLast?_eq_getLast_of_ne_nil hne)]
        simp
      rw [hself]

end Closing

end GhostRecon.Lib
