import Mathlib.Data.List.Chain
import Mathlib.Tactic

/-!
Time zones as finite lists of transitions. Between two transitions a zone has one offset, so a
clock in it shows the instant plus the offset of that instant. The way back is a lookup on the
wall time alone, which has two answers around a transition: the earlier and the later reading.
The two agree exactly on the wall times that one instant has; in a gap no instant has the wall
time, in an overlap two have.
-/

namespace GhostRecon.Lib

/-- A zone: the offset before its first transition, and the transitions with the offset that
each begins. Offsets stay within a day, transitions are more than two days apart. -/
structure Zone (day : Int) where
  first : Int
  transitions : List (Int × Int)
  first_within : -day < first ∧ first < day
  offsets_within : ∀ transition ∈ transitions, -day < transition.2 ∧ transition.2 < day
  spaced : transitions.Pairwise fun a b => a.1 + 2 * day < b.1

namespace Zone

section Lookups

/-- The offset of an instant. -/
def offsetFrom : Int → List (Int × Int) → Int → Int
  | offset, [], _ => offset
  | offset, (start, next) :: rest, instant =>
    if instant < start then offset else offsetFrom next rest instant

/-- The offset of a wall time: a transition is over when the wall time reaches the later of its
two wall times on the earlier reading, and the earlier of them on the later reading. -/
def offsetOf (later : Bool) : Int → List (Int × Int) → Int → Int
  | offset, [], _ => offset
  | offset, (start, next) :: rest, wall =>
    if wall < start + (if later then min offset next else max offset next) then offset
    else offsetOf later next rest wall

end Lookups

variable {day : Int} (zone : Zone day)

def offsetAt (instant : Int) : Int :=
  offsetFrom zone.first zone.transitions instant

/-- `utcoffset` of a wall time with its fold. -/
def utcoffset (later : Bool) (wall : Int) : Int :=
  offsetOf later zone.first zone.transitions wall

/-- A clock in the zone shows the wall time at the instant. -/
def Shows (instant wall : Int) : Prop :=
  instant + zone.offsetAt instant = wall

section Readings

variable {offset start next wall instant : Int} {rest : List (Int × Int)}

/-- Every offset is within a day. -/
theorem lt_offsetFrom (hoffset : -day < offset) (hwithin : ∀ t ∈ rest, -day < t.2 ∧ t.2 < day)
    (instant : Int) : -day < offsetFrom offset rest instant := by
  induction rest generalizing offset with
  | nil => exact hoffset
  | cons transition rest ih =>
    rw [offsetFrom]
    split
    · exact hoffset
    · exact ih (hwithin transition List.mem_cons_self).1
        fun t ht => hwithin t (List.mem_cons_of_mem _ ht)

/-- From a transition on, clocks show at least the wall time it begins with. -/
theorem le_wall (hnext : next < day) (hwithin : ∀ t ∈ rest, -day < t.2 ∧ t.2 < day)
    (hspaced : ∀ t ∈ rest, start + 2 * day < t.1) (hinstant : start ≤ instant) :
    start + next ≤ instant + offsetFrom next rest instant := by
  induction rest generalizing next with
  | nil =>
    rw [offsetFrom]
    omega
  | cons transition rest ih =>
    obtain ⟨hlow, hhigh⟩ := hwithin transition List.mem_cons_self
    have hlater := hspaced transition List.mem_cons_self
    rw [offsetFrom]
    split
    · omega
    · next hpast =>
      have hrest := ih hhigh (fun t ht => hwithin t (List.mem_cons_of_mem _ ht))
        (fun t ht => hspaced t (List.mem_cons_of_mem _ ht))
      have hfar : start + 2 * day < instant := by omega
      have hoffset := lt_offsetFrom hlow (fun t ht => hwithin t (List.mem_cons_of_mem _ ht))
        instant
      omega

/-- Near a transition the next ones play no part. -/
theorem offsetFrom_near (hspaced : ∀ t ∈ rest, start + 2 * day < t.1)
    (hinstant : instant ≤ start + 2 * day) : offsetFrom next rest instant = next := by
  cases rest with
  | nil => rfl
  | cons transition rest =>
    have hlater := hspaced transition List.mem_cons_self
    rw [offsetFrom, if_pos (by omega)]

theorem offsetOf_near (later : Bool) (hnext : -day < next)
    (hwithin : ∀ t ∈ rest, -day < t.2 ∧ t.2 < day)
    (hspaced : ∀ t ∈ rest, start + 2 * day < t.1) (hwall : wall < start + day) :
    offsetOf later next rest wall = next := by
  cases rest with
  | nil => rfl
  | cons transition rest =>
    have hlater := hspaced transition List.mem_cons_self
    obtain ⟨hlow, -⟩ := hwithin transition List.mem_cons_self
    rw [offsetOf, if_pos]
    have hmin : -day < min next transition.2 := lt_min hnext hlow
    have hmax : min next transition.2 ≤ max next transition.2 := min_le_max
    split <;> omega

/-- The two readings agree on a wall time exactly when one instant has it. -/
theorem readings_agree_iff (hoffset : -day < offset ∧ offset < day)
    (hwithin : ∀ t ∈ rest, -day < t.2 ∧ t.2 < day)
    (hspaced : rest.Pairwise fun a b => a.1 + 2 * day < b.1) (wall : Int) :
    (offsetOf false offset rest wall = offsetOf true offset rest wall ↔
        ∃ instant, ∀ other, other + offsetFrom offset rest other = wall ↔ other = instant) ∧
      (offsetOf false offset rest wall = offsetOf true offset rest wall →
        (wall - offsetOf false offset rest wall) +
          offsetFrom offset rest (wall - offsetOf false offset rest wall) = wall) := by
  induction rest generalizing offset with
  | nil =>
    simp only [offsetOf, offsetFrom, true_iff]
    refine ⟨⟨wall - offset, fun other => ?_⟩, fun _ => by omega⟩
    omega
  | cons transition rest ih =>
    obtain ⟨start, next⟩ := transition
    obtain ⟨hstart, hrest⟩ := List.pairwise_cons.mp hspaced
    have hstart : ∀ t ∈ rest, start + 2 * day < t.1 := hstart
    obtain ⟨hlow, hhigh⟩ : -day < next ∧ next < day := hwithin _ List.mem_cons_self
    have hwithin : ∀ t ∈ rest, -day < t.2 ∧ t.2 < day :=
      fun t ht => hwithin t (List.mem_cons_of_mem _ ht)
    have hbehind (other : Int) (hother : start ≤ other) :
        start + next ≤ other + offsetFrom next rest other :=
      le_wall hhigh hwithin hstart hother
    simp only [offsetOf, offsetFrom, Bool.false_eq_true, if_false, if_true]
    have horder : min offset next ≤ max offset next := min_le_max
    by_cases hbefore : wall < start + min offset next
    · -- Before the transition on both readings.
      have hboth : wall < start + max offset next := by omega
      rw [if_pos hbefore, if_pos hboth]
      have hoffsetMin : min offset next ≤ offset := min_le_left _ _
      have hnextMin : min offset next ≤ next := min_le_right _ _
      have hhere : wall - offset < start := by omega
      refine ⟨⟨fun _ => ⟨wall - offset, fun other => ?_⟩, fun _ => rfl⟩, fun _ => ?_⟩
      · split
        · omega
        · have := hbehind other (by omega)
          omega
      · rw [if_pos hhere]
        omega
    · rw [if_neg hbefore]
      by_cases hwall : wall < start + max offset next
      · -- Between its two wall times: a gap or an overlap.
        rw [if_pos hwall]
        have hmax : max offset next < day := max_lt hoffset.2 hhigh
        have hnear : offsetOf true next rest wall = next :=
          offsetOf_near true hlow hwithin hstart (by omega)
        rw [hnear]
        have hne : offset ≠ next := by
          rintro rfl
          rw [min_self] at hbefore
          rw [max_self] at hwall
          omega
        refine ⟨⟨fun hsame => absurd hsame hne, ?_⟩, fun hsame => absurd hsame hne⟩
        rintro ⟨instant, hinstant⟩
        rcases lt_or_gt_of_ne hne with hgap | hoverlap
        · rw [min_eq_left hgap.le] at hbefore
          rw [max_eq_right hgap.le] at hwall
          have hshown := (hinstant instant).mpr rfl
          split at hshown
          · omega
          · have := hbehind instant (by omega)
            omega
        · rw [min_eq_right hoverlap.le] at hbefore
          rw [max_eq_left hoverlap.le] at hwall
          have hearly := (hinstant (wall - offset)).mp (by rw [if_pos (by omega)]; omega)
          have hlate := (hinstant (wall - next)).mp (by
            rw [if_neg (by omega), offsetFrom_near hstart (by omega)]
            omega)
          omega
      · -- After the transition on both readings: the rest of the zone decides.
        rw [if_neg hwall]
        have hoffsetMax : offset ≤ max offset next := le_max_left _ _
        have hnextMax : next ≤ max offset next := le_max_right _ _
        have hsame (other : Int) :
            (other + (if other < start then offset else offsetFrom next rest other) = wall ↔
              other + offsetFrom next rest other = wall) := by
          by_cases hother : other < start
          · have hnear : offsetFrom next rest other = next := by
              by_cases hday : 0 ≤ day
              · exact offsetFrom_near hstart (by omega)
              · omega
            rw [if_pos hother, hnear]
            omega
          · rw [if_neg hother]
        obtain ⟨hagree, hvalue⟩ := ih ⟨hlow, hhigh⟩ hwithin hrest
        simp only [hsame]
        exact ⟨hagree, hvalue⟩

end Readings

/-- One instant has the wall time. -/
def ShownOnce (instant wall : Int) : Prop :=
  ∀ other, zone.Shows other wall ↔ other = instant

/-- The readings agree exactly on the wall times that one instant has. -/
theorem utcoffset_agree_iff (wall : Int) :
    zone.utcoffset false wall = zone.utcoffset true wall ↔
      ∃ instant, zone.ShownOnce instant wall :=
  (readings_agree_iff zone.first_within zone.offsets_within zone.spaced wall).1

/-- That instant is the wall time less the offset they agree on. -/
theorem shownOnce_eq {instant wall : Int} (h : zone.ShownOnce instant wall) :
    instant = wall - zone.utcoffset false wall := by
  have hagree := (zone.utcoffset_agree_iff wall).mpr ⟨instant, h⟩
  have hshown := (readings_agree_iff zone.first_within zone.offsets_within zone.spaced wall).2
    hagree
  exact ((h _).mp hshown).symm

section Fractions

variable {unit : Int} (hunit : 0 < unit)
include hunit

/-- A clock that also shows fractions of the unit of the zone: they pass through. -/
theorem shows_fractions {instant wall : Int} :
    instant + unit * zone.offsetAt (instant / unit) = wall ↔
      zone.Shows (instant / unit) (wall / unit) ∧ instant % unit = wall % unit := by
  have hinstant := Int.mul_ediv_add_emod instant unit
  have hwall := Int.mul_ediv_add_emod wall unit
  unfold Shows
  generalize zone.offsetAt (instant / unit) = offset
  constructor
  · rintro rfl
    have hsum : instant + unit * offset = instant + offset * unit := by ring
    rw [hsum, Int.add_mul_ediv_right _ _ hunit.ne', Int.add_mul_emod_self_right]
    exact ⟨rfl, rfl⟩
  · rintro ⟨hshows, hfraction⟩
    rw [← hwall, ← hshows, ← hfraction]
    calc instant + unit * offset
        = unit * (instant / unit) + instant % unit + unit * offset := by rw [hinstant]
      _ = unit * (instant / unit + offset) + instant % unit := by ring

/-- One instant has the wall time to the fraction when one has it to the unit. -/
theorem shownOnce_fractions {instant wall : Int} :
    (∀ other, other + unit * zone.offsetAt (other / unit) = wall ↔ other = instant) ↔
      zone.ShownOnce (instant / unit) (wall / unit) ∧ instant % unit = wall % unit := by
  have hrebuild (whole : Int) :
      (unit * whole + wall % unit) / unit = whole ∧
        (unit * whole + wall % unit) % unit = wall % unit := by
    have hlow := Int.emod_nonneg wall hunit.ne'
    have hhigh := Int.emod_lt_of_pos wall hunit
    rw [Int.add_comm, Int.add_mul_ediv_left _ _ hunit.ne', Int.add_mul_emod_self_left,
      Int.ediv_eq_zero_of_lt hlow hhigh, Int.emod_eq_of_lt hlow hhigh]
    exact ⟨Int.zero_add whole, rfl⟩
  constructor
  · intro h
    obtain ⟨hshows, hfraction⟩ := (zone.shows_fractions hunit).mp ((h instant).mpr rfl)
    refine ⟨?_, hfraction⟩
    intro other
    obtain ⟨hwhole, hrest⟩ := hrebuild other
    constructor
    · intro hother
      have hsame := (h (unit * other + wall % unit)).mp
        ((zone.shows_fractions hunit).mpr ⟨by rwa [hwhole], hrest⟩)
      rw [← hsame, hwhole]
    · rintro rfl
      exact hshows
  · rintro ⟨honce, hfraction⟩ other
    rw [zone.shows_fractions hunit, honce]
    constructor
    · rintro ⟨hwhole, hrest⟩
      have hother := Int.mul_ediv_add_emod other unit
      rw [hwhole, hrest, ← hfraction, Int.mul_ediv_add_emod] at hother
      exact hother.symm
    · rintro rfl
      exact ⟨rfl, hfraction⟩

/-- The readings of the whole units decide for the fractions too. -/
theorem fractions_agree_iff (wall : Int) :
    zone.utcoffset false (wall / unit) = zone.utcoffset true (wall / unit) ↔
      ∃ instant, ∀ other, other + unit * zone.offsetAt (other / unit) = wall ↔
        other = instant := by
  rw [utcoffset_agree_iff]
  constructor
  · rintro ⟨whole, hwhole⟩
    refine ⟨unit * whole + wall % unit, (zone.shownOnce_fractions hunit).mpr ?_⟩
    have hlow := Int.emod_nonneg wall hunit.ne'
    have hhigh := Int.emod_lt_of_pos wall hunit
    rw [Int.add_comm, Int.add_mul_ediv_left _ _ hunit.ne', Int.add_mul_emod_self_left,
      Int.ediv_eq_zero_of_lt hlow hhigh, Int.emod_eq_of_lt hlow hhigh, Int.zero_add]
    exact ⟨hwhole, rfl⟩
  · rintro ⟨instant, hinstant⟩
    exact ⟨instant / unit, ((zone.shownOnce_fractions hunit).mp hinstant).1⟩

theorem shownOnce_fractions_eq {instant wall : Int}
    (h : ∀ other, other + unit * zone.offsetAt (other / unit) = wall ↔ other = instant) :
    instant = wall - unit * zone.utcoffset false (wall / unit) := by
  obtain ⟨honce, hfraction⟩ := (zone.shownOnce_fractions hunit).mp h
  have hwhole := zone.shownOnce_eq honce
  have hinstant := Int.mul_ediv_add_emod instant unit
  have hwall := Int.mul_ediv_add_emod wall unit
  rw [hwhole, hfraction] at hinstant
  calc instant
      = unit * (wall / unit - zone.utcoffset false (wall / unit)) + wall % unit := hinstant.symm
    _ = unit * (wall / unit) + wall % unit - unit * zone.utcoffset false (wall / unit) := by ring
    _ = wall - unit * zone.utcoffset false (wall / unit) := by rw [hwall]

end Fractions

end Zone

end GhostRecon.Lib
