import Mathlib.Data.Rat.Floor
import Mathlib.Tactic

/-!
Rounding to the nearest integer, halves to the even one. It leaves integers alone and is
monotone, so it keeps every bound that is an integer.
-/

namespace GhostRecon.Lib

/-- The nearest integer, and of two the even one. -/
def roundHalfEven (q : ℚ) : ℤ :=
  let fraction := q - ⌊q⌋
  if fraction < 1 / 2 then ⌊q⌋
  else if 1 / 2 < fraction then ⌊q⌋ + 1
  else if ⌊q⌋ % 2 = 0 then ⌊q⌋ else ⌊q⌋ + 1

theorem floor_le_roundHalfEven (q : ℚ) : ⌊q⌋ ≤ roundHalfEven q := by
  unfold roundHalfEven
  dsimp only
  split_ifs <;> omega

theorem roundHalfEven_le (q : ℚ) : roundHalfEven q ≤ ⌊q⌋ + 1 := by
  unfold roundHalfEven
  dsimp only
  split_ifs <;> omega

theorem roundHalfEven_intCast (n : ℤ) : roundHalfEven n = n := by
  unfold roundHalfEven
  rw [Int.floor_intCast, sub_self, if_pos (by norm_num)]

/-- Between two integers the fraction decides. -/
theorem roundHalfEven_mono_of_floor {q r : ℚ} (h : q ≤ r) (hfloor : ⌊q⌋ = ⌊r⌋) :
    roundHalfEven q ≤ roundHalfEven r := by
  have hfraction : q - ⌊q⌋ ≤ r - ⌊r⌋ := by
    rw [hfloor]
    exact sub_le_sub_right h _
  unfold roundHalfEven
  dsimp only
  by_cases hlow : q - ⌊q⌋ < 1 / 2
  · rw [if_pos hlow, hfloor]
    exact floor_le_roundHalfEven r
  · have hnot : ¬ r - ⌊r⌋ < 1 / 2 := fun hr => hlow (hfraction.trans_lt hr)
    rw [if_neg hlow, if_neg hnot]
    by_cases hhigh : 1 / 2 < q - ⌊q⌋
    · rw [if_pos hhigh, if_pos (hhigh.trans_le hfraction), hfloor]
    · rw [if_neg hhigh, hfloor]
      split_ifs <;> omega

theorem roundHalfEven_mono : Monotone roundHalfEven := by
  intro q r h
  rcases (Int.floor_mono h).lt_or_eq with hlt | hsame
  · calc roundHalfEven q ≤ ⌊q⌋ + 1 := roundHalfEven_le q
      _ ≤ ⌊r⌋ := hlt
      _ ≤ roundHalfEven r := floor_le_roundHalfEven r
  · exact roundHalfEven_mono_of_floor h hsame

/-- An integer that bounds the number from below bounds its rounding. -/
theorem le_roundHalfEven {n : ℤ} {q : ℚ} (h : (n : ℚ) ≤ q) : n ≤ roundHalfEven q := by
  have hmono := roundHalfEven_mono h
  rwa [roundHalfEven_intCast] at hmono

theorem roundHalfEven_le_of_le {n : ℤ} {q : ℚ} (h : q ≤ (n : ℚ)) : roundHalfEven q ≤ n := by
  have hmono := roundHalfEven_mono h
  rwa [roundHalfEven_intCast] at hmono

end GhostRecon.Lib
