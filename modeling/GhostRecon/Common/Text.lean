import Mathlib.Data.List.Basic
import Mathlib.Tactic

/-!
The text operations the services apply to addresses, names and titles:
stripping, searching, lower-casing and cutting at the at-sign. Lower-casing
follows the Unicode tables of the host language, so the model takes it as a
parameter with the laws the code relies on; the ASCII instance runs the
concrete examples.
-/

namespace GhostRecon

/-- A small ASCII letter or an underscore. -/
def isPlain (c : Char) : Bool :=
  c.isLower || c == '_'

/-- `str.lower`, with the laws the address handling and the policy words rest on. -/
class Casing where
  lower : String → String
  lower_lower : ∀ s, lower (lower s) = lower s
  lower_plain : ∀ s : String, s.toList.all isPlain = true → lower s = s
  /-- The at-sign has no case and takes no part in any context rule. -/
  lower_at : ∀ before after, lower (before ++ "@" ++ after) = lower before ++ "@" ++ lower after
  lower_no_at : ∀ s : String, '@' ∉ s.toList → '@' ∉ (lower s).toList

export Casing (lower)

attribute [simp] Casing.lower_lower

/-- `part in text`. -/
def occursIn (part text : String) : Bool :=
  text.toList.tails.any part.toList.isPrefixOf

/-- `str.isspace` of one character. -/
def isPySpace (c : Char) : Bool :=
  ('\t' ≤ c ∧ c ≤ '\r') ∨ ('\x1c' ≤ c ∧ c ≤ ' ') ∨ c ∈ ['\u0085', '\u00a0', '\u1680', '\u2028',
    '\u2029', '\u202f', '\u205f', '\u3000'] ∨ ('\u2000' ≤ c ∧ c ≤ '\u200a')

/-- `str.strip`, for the given characters. -/
def stripChars (drop : Char → Bool) (s : String) : String :=
  String.ofList (((s.toList.dropWhile drop).reverse.dropWhile drop).reverse)

def removePrefix (head s : String) : String :=
  if head.toList.isPrefixOf s.toList then String.ofList (s.toList.drop head.length) else s

/-- A Python string is true when it is not empty. -/
def truthy (text : Option String) : Bool :=
  text.any (· ≠ "")

/-- `text or None`. -/
def nonEmpty (text : String) : Option String :=
  if text = "" then none else some text

def beforeFirst (c : Char) (s : String) : String :=
  String.ofList (s.toList.takeWhile (· ≠ c))

def afterLast (c : Char) (s : String) : String :=
  String.ofList (s.toList.reverse.takeWhile (· ≠ c)).reverse

/-- `_domain_from_email`: the text after the last at-sign, lower-cased. -/
def domainFromEmail [Casing] (email : Option String) : Option String :=
  match email with
  | none => none
  | some text => if '@' ∈ text.toList then some (lower (afterLast '@' text)) else none

/-- `str(email).split("@", 1)[0].lower()`. -/
def localPart [Casing] (email : String) : String :=
  lower (beforeFirst '@' email)

theorem afterLast_cut (before after : String) (h : '@' ∉ after.toList) :
    afterLast '@' (before ++ "@" ++ after) = after := by
  unfold afterLast
  have hrev : (before ++ "@" ++ after).toList.reverse =
      after.toList.reverse ++ '@' :: before.toList.reverse := by
    simp [String.toList_append]
  have hall : ∀ c ∈ after.toList.reverse, (decide (c ≠ '@')) = true := by
    intro c hc
    have hmem : c ∈ after.toList := List.mem_reverse.mp hc
    simpa using fun heq : c = '@' => h (heq ▸ hmem)
  rw [hrev, List.takeWhile_append_of_pos hall, List.takeWhile_cons_of_neg (by simp)]
  simp

/-- Text with an at-sign splits at its last one. -/
theorem exists_cut (s : String) (h : '@' ∈ s.toList) :
    ∃ before after : String, s = before ++ "@" ++ after ∧ '@' ∉ after.toList := by
  obtain ⟨back, front, hsplit, hback⟩ :=
    List.eq_append_cons_of_mem (List.mem_reverse.mpr h)
  have hlist : s.toList = front.reverse ++ '@' :: back.reverse := by
    rw [← List.reverse_reverse s.toList, hsplit]
    simp
  refine ⟨String.ofList front.reverse, String.ofList back.reverse, ?_, by simpa using hback⟩
  apply String.toList_injective
  simp [String.toList_append, hlist]

/-- The domain of a lower-cased address is the domain of the address. -/
theorem domainFromEmail_lower [Casing] (email : String) :
    domainFromEmail (some (lower email)) = domainFromEmail (some email) := by
  by_cases h : '@' ∈ email.toList
  · obtain ⟨before, after, rfl, hafter⟩ := exists_cut email h
    have hlow : '@' ∉ (lower after).toList := Casing.lower_no_at after hafter
    have hmem : '@' ∈ (lower before ++ "@" ++ lower after).toList := by
      simp [String.toList_append]
    simp only [domainFromEmail, Casing.lower_at, hmem, h, if_true,
      afterLast_cut _ _ hafter, afterLast_cut _ _ hlow, Casing.lower_lower]
  · simp [domainFromEmail, h, Casing.lower_no_at email h]

/-- Lower-casing restricted to ASCII letters. -/
def asciiLower (s : String) : String :=
  String.ofList (s.toList.map Char.toLower)

private theorem toLower_val (c : Char) :
    c.toLower.val = if 65 ≤ c.val ∧ c.val ≤ 90 then c.val + 32 else c.val := by
  delta Char.toLower
  by_cases h : 65 ≤ c.val ∧ c.val ≤ 90
  · rw [if_pos h, dif_pos (show c.val ≥ 'A'.val ∧ c.val ≤ 'Z'.val from h)]
    rfl
  · rw [if_neg h, dif_neg (show ¬(c.val ≥ 'A'.val ∧ c.val ≤ 'Z'.val) from h)]

private theorem toLower_toLower (c : Char) : c.toLower.toLower = c.toLower := by
  apply Char.ext
  rw [toLower_val c.toLower, if_neg]
  rw [toLower_val]
  split
  · next h =>
    simp only [UInt32.le_iff_toNat_le, UInt32.toNat_add] at h ⊢
    simp at h ⊢
    omega
  · next h => exact h

private theorem toLower_eq_at (c : Char) : c.toLower = '@' ↔ c = '@' := by
  rw [Char.ext_iff, Char.ext_iff, toLower_val]
  split
  · next h =>
    simp only [UInt32.le_iff_toNat_le, ← UInt32.toNat_inj, UInt32.toNat_add] at h ⊢
    simp at h ⊢
    omega
  · rfl

private theorem toLower_of_plain (c : Char) (h : isPlain c = true) : c.toLower = c := by
  apply Char.ext
  rw [toLower_val, if_neg]
  have hlower : c.isLower = (decide (c.val ≥ 'a'.val) && decide (c.val ≤ 'z'.val)) := rfl
  simp only [isPlain, hlower, Bool.or_eq_true, beq_iff_eq, Bool.and_eq_true,
    decide_eq_true_eq] at h
  rcases h with h | rfl
  · simp only [UInt32.le_iff_toNat_le] at h ⊢
    simp at h ⊢
    omega
  · decide

instance asciiCasing : Casing where
  lower := asciiLower
  lower_lower s := by simp [asciiLower, toLower_toLower, Function.comp_def]
  lower_plain s h := by
    apply String.toList_injective
    rw [asciiLower, String.toList_ofList]
    refine Eq.trans (List.map_congr_left ?_) (List.map_id s.toList)
    intro c hc
    exact toLower_of_plain c (List.all_eq_true.mp h c hc)
  lower_at before after := by
    apply String.toList_injective
    simp [asciiLower, String.toList_append]
  lower_no_at s h := by
    simp only [asciiLower, String.toList_ofList, List.mem_map, toLower_eq_at]
    rintro ⟨c, hc, rfl⟩
    exact h hc

end GhostRecon
