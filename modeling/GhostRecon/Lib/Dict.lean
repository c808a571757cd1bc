import Mathlib.Data.List.Basic
import Mathlib.Tactic

/-!
Dictionaries in order of insertion. Setting a key keeps its place, or puts it at the end.
-/

namespace GhostRecon.Lib

variable {κ ν : Type} [DecidableEq κ]

/-- A dictionary: its entries in order of insertion. -/
abbrev Dict (κ ν : Type) := List (κ × ν)

namespace Dict

def keys (entries : Dict κ ν) : List κ :=
  entries.map (·.1)

/-- `entries[key] = value`. -/
def set (key : κ) (value : ν) (entries : Dict κ ν) : Dict κ ν :=
  if key ∈ entries.keys then
    entries.map fun entry => if entry.1 = key then (key, value) else entry
  else entries ++ [(key, value)]

variable {key other : κ} {value : ν} {entries : Dict κ ν} {entry : κ × ν}

theorem set_new (hnew : key ∉ entries.keys) :
    entries.set key value = entries ++ [(key, value)] :=
  if_neg hnew

/-- Setting a key keeps the other keys in place. -/
theorem keys_set : (entries.set key value).keys =
    if key ∈ entries.keys then entries.keys else entries.keys ++ [key] := by
  unfold set
  split
  · rw [keys, List.map_map]
    apply List.map_congr_left
    intro entry _
    show (if _ then _ else _ : κ × ν).1 = _
    split
    · next hkey => exact hkey.symm
    · rfl
  · rw [keys, List.map_append]
    rfl

theorem mem_keys_set : other ∈ (entries.set key value).keys ↔
    other ∈ entries.keys ∨ other = key := by
  rw [keys_set]
  split
  · next hkey =>
    constructor
    · exact Or.inl
    · rintro (h | rfl)
      · exact h
      · exact hkey
  · simp

theorem set_ne_nil : entries.set key value ≠ [] := by
  intro hnil
  have hmem : key ∈ (entries.set key value).keys := mem_keys_set.mpr (Or.inr rfl)
  rw [hnil] at hmem
  exact absurd hmem List.not_mem_nil

theorem keys_set_nodup (hnodup : entries.keys.Nodup) : (entries.set key value).keys.Nodup := by
  rw [keys_set]
  split
  · exact hnodup
  · next hnew =>
    rw [List.nodup_append]
    refine ⟨hnodup, by simp, ?_⟩
    intro k hk k' hk' hsame
    rw [List.mem_singleton] at hk'
    exact hnew (hk' ▸ hsame ▸ hk)

/-- An entry after setting a key was there before or is the new one. -/
theorem mem_set (hentry : entry ∈ entries.set key value) :
    entry ∈ entries ∨ entry = (key, value) := by
  unfold set at hentry
  split at hentry
  · obtain ⟨old, hold, rfl⟩ := List.mem_map.mp hentry
    split
    · exact Or.inr rfl
    · exact Or.inl hold
  · exact (List.mem_append.mp hentry).imp_right List.mem_singleton.mp

theorem lookup_eq_none_iff : entries.lookup key = none ↔ key ∉ entries.keys := by
  rw [List.lookup_eq_none_iff]
  constructor
  · intro hnone hmem
    obtain ⟨entry, hentry, rfl⟩ := List.mem_map.mp hmem
    exact absurd (hnone entry hentry) (by simp)
  · intro hnew entry hentry
    simpa using fun h : key = entry.1 => hnew (by rw [h]; exact List.mem_map_of_mem hentry)

/-- Replacing the values of a key is seen under that key only. -/
theorem lookup_replaced (entries : Dict κ ν) :
    (entries.map fun entry => if entry.1 = key then (key, value) else entry).lookup other =
      if other = key then (entries.lookup key).map (fun _ => value) else entries.lookup other := by
  induction entries with
  | nil => simp
  | cons entry entries ih =>
    obtain ⟨first, old⟩ := entry
    rw [List.map_cons]
    by_cases hfirst : first = key
    · subst hfirst
      by_cases hother : other = first
      · subst hother
        simp
      · have hbeq : (other == first) = false := beq_eq_false_iff_ne.mpr hother
        rw [if_pos rfl, List.lookup_cons, hbeq, ih, if_neg hother, if_neg hother,
          List.lookup_cons, hbeq]
    · have hkey : (key == first) = false := beq_eq_false_iff_ne.mpr (Ne.symm hfirst)
      rw [if_neg hfirst, List.lookup_cons, ih]
      by_cases hother : other = key
      · subst hother
        rw [if_pos rfl, if_pos rfl, List.lookup_cons, hkey]
      · rw [if_neg hother, if_neg hother, List.lookup_cons]

/-- The value of a key after one was set. -/
theorem lookup_set : (entries.set key value).lookup other =
    if other = key then some value else entries.lookup other := by
  by_cases hmem : key ∈ entries.keys
  · obtain ⟨old, hold⟩ : ∃ old, entries.lookup key = some old := by
      cases hlookup : entries.lookup key with
      | none => exact absurd hmem (lookup_eq_none_iff.mp hlookup)
      | some old => exact ⟨old, rfl⟩
    rw [set, if_pos hmem, lookup_replaced, hold]
    rfl
  · rw [set_new hmem, List.lookup_append, List.lookup_cons, List.lookup_nil]
    by_cases hother : other = key
    · subst hother
      rw [lookup_eq_none_iff.mpr hmem]
      simp
    · have hbeq : (other == key) = false := beq_eq_false_iff_ne.mpr hother
      rw [hbeq]
      simp [hother]

end Dict

end GhostRecon.Lib
