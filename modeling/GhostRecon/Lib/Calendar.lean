import Mathlib.Data.List.Basic
import Mathlib.Tactic

/-!
The proleptic Gregorian calendar and its ISO 8601 texts. An instant is a number
of microseconds since the first day of year 1; it is printed in UTC, with the
fraction left out when it is zero, and the printed text determines it. The
conversion from days to years is the one by cycles of 400, 100, 4 and 1 years.
-/

namespace GhostRecon.Lib.Calendar

/-- Days in the years before `year`. -/
def daysBeforeYear (year : Nat) : Nat :=
  (year - 1) * 365 + (year - 1) / 4 - (year - 1) / 100 + (year - 1) / 400

def isLeap (year : Nat) : Bool :=
  year % 4 = 0 ∧ (year % 100 ≠ 0 ∨ year % 400 = 0)

def monthLengths (year : Nat) : List Nat :=
  [31, if isLeap year then 29 else 28, 31, 30, 31, 30, 31, 31, 30, 31, 30, 31]

/-- The year of a day and the day's place in it, counted from zero. -/
def yearAndDay (days : Nat) : Nat × Nat :=
  let n400 := days / 146097
  let n100 := days % 146097 / 36524
  let n4 := days % 146097 % 36524 / 1461
  let n1 := days % 146097 % 36524 % 1461 / 365
  let year := n400 * 400 + n100 * 100 + n4 * 4 + n1 + 1
  if n1 = 4 ∨ n100 = 4 then (year - 1, 365)
  else (year, days % 146097 % 36524 % 1461 % 365)

/-- The month of a day of the year and the day's place in it, from one. -/
def monthAndDay : List Nat → Nat → Nat × Nat
  | [], day => (1, day + 1)
  | length :: rest, day =>
    if day < length then (1, day + 1)
    else ((monthAndDay rest (day - length)).1 + 1, (monthAndDay rest (day - length)).2)

/-- The years before a year, by the cycles it lies in. -/
theorem daysBeforeYear_cycles {a b c d : Nat} (hb : b ≤ 3) (hc : c ≤ 24) (hd : d ≤ 3) :
    daysBeforeYear (a * 400 + b * 100 + c * 4 + d + 1) =
      a * 146097 + b * 36524 + c * 1461 + d * 365 := by
  have hfour : (a * 400 + b * 100 + c * 4 + d) / 4 = a * 100 + b * 25 + c := by omega
  have hhundred : (a * 400 + b * 100 + c * 4 + d) / 100 = a * 4 + b := by omega
  have hall : (a * 400 + b * 100 + c * 4 + d) / 400 = a := by omega
  unfold daysBeforeYear
  rw [Nat.add_sub_cancel, hfour, hhundred, hall]
  omega

theorem daysBeforeYear_yearAndDay (days : Nat) :
    daysBeforeYear (yearAndDay days).1 + (yearAndDay days).2 = days := by
  unfold yearAndDay
  dsimp only
  generalize ha : days / 146097 = a
  generalize hb : days % 146097 / 36524 = b
  generalize hc : days % 146097 % 36524 / 1461 = c
  generalize hd : days % 146097 % 36524 % 1461 / 365 = d
  have hcTop : c ≤ 24 := by omega
  split
  · next hlast =>
    rcases hlast with rfl | rfl
    · have hyear : a * 400 + b * 100 + c * 4 + 4 + 1 - 1 =
          a * 400 + b * 100 + c * 4 + 3 + 1 := by omega
      rw [hyear, daysBeforeYear_cycles (by omega) hcTop (by omega)]
      omega
    · have hyear : a * 400 + 4 * 100 + c * 4 + d + 1 - 1 =
          a * 400 + 3 * 100 + 24 * 4 + 3 + 1 := by omega
      have hbefore := daysBeforeYear_cycles (a := a) (b := 3) (c := 24) (d := 3)
        (by omega) (by omega) (by omega)
      rw [hyear]
      dsimp only
      omega
  · rw [daysBeforeYear_cycles (by omega) hcTop (by omega)]
    omega

theorem sum_monthAndDay (lengths : List Nat) (day : Nat) :
    1 ≤ (monthAndDay lengths day).1 ∧ 1 ≤ (monthAndDay lengths day).2 ∧
      (lengths.take ((monthAndDay lengths day).1 - 1)).sum + ((monthAndDay lengths day).2 - 1) =
        day := by
  induction lengths generalizing day with
  | nil => simp [monthAndDay]
  | cons length rest ih =>
    unfold monthAndDay
    split
    · simp
    · next hday =>
      obtain ⟨hmonth, hplace, hsum⟩ := ih (day - length)
      refine ⟨by omega, hplace, ?_⟩
      obtain ⟨month, hsucc⟩ := Nat.exists_eq_succ_of_ne_zero (Nat.one_le_iff_ne_zero.mp hmonth)
      rw [hsucc, Nat.succ_sub_one] at hsum
      rw [Nat.add_sub_cancel, hsucc, List.take_succ_cons, List.sum_cons]
      omega

/-- The decimal digits of `n`, in `width` places. -/
def digits : Nat → Nat → List Char
  | 0, _ => []
  | width + 1, n => digits width (n / 10) ++ [Nat.digitChar (n % 10)]

def readDigit (value : Nat) (c : Char) : Option Nat :=
  if c.isDigit then some (value * 10 + (c.toNat - '0'.toNat)) else none

def readDigits (text : List Char) : Option Nat :=
  text.foldlM readDigit 0

@[simp] theorem digits_length (width n : Nat) : (digits width n).length = width := by
  induction width generalizing n with
  | zero => rfl
  | succ width ih => simp [digits, ih]

private theorem readDigit_digitChar (value d : Nat) (hd : d < 10) :
    readDigit value (Nat.digitChar d) = some (value * 10 + d) := by
  interval_cases d <;> rfl

theorem readDigits_digits {width n : Nat} (h : n < 10 ^ width) :
    readDigits (digits width n) = some n := by
  induction width generalizing n with
  | zero =>
    have hzero : n = 0 := by simpa using h
    rw [hzero]
    rfl
  | succ width ih =>
    have hhead : n / 10 < 10 ^ width := by
      rw [pow_succ] at h
      omega
    have hread := ih hhead
    unfold readDigits at hread ⊢
    rw [digits, List.foldlM_append, hread]
    simp only [Option.bind_eq_bind, Option.bind_some, List.foldlM_cons, List.foldlM_nil,
      readDigit_digitChar _ _ (Nat.mod_lt n (by decide)), Option.pure_def]
    congr 1
    omega

/-- Microseconds in a day. -/
def dayMicros : Nat := 86400000000

/-- The end of year 9999. -/
def maximum : Nat := 3652059 * dayMicros

section Text

variable (instant : Nat)

def year : Nat := (yearAndDay (instant / dayMicros)).1

def month : Nat :=
  (monthAndDay (monthLengths (year instant)) (yearAndDay (instant / dayMicros)).2).1

def day : Nat :=
  (monthAndDay (monthLengths (year instant)) (yearAndDay (instant / dayMicros)).2).2

def hour : Nat := instant % dayMicros / 3600000000
def minute : Nat := instant % 3600000000 / 60000000
def second : Nat := instant % 60000000 / 1000000
def microsecond : Nat := instant % 1000000

/-- The fraction of a second, when there is one. -/
def fraction : List Char :=
  if microsecond instant = 0 then [] else '.' :: digits 6 (microsecond instant)

/-- `YYYY-MM-DDTHH:MM:SS[.ffffff]+00:00`. -/
def isoformat : String :=
  String.ofList (digits 4 (year instant) ++ '-' :: digits 2 (month instant) ++
    '-' :: digits 2 (day instant) ++ 'T' :: digits 2 (hour instant) ++
    ':' :: digits 2 (minute instant) ++ ':' :: digits 2 (second instant) ++
    fraction instant ++ "+00:00".toList)

/-- The number in the first `width` places, and what follows it. -/
def readField (width : Nat) (text : List Char) : Option (Nat × List Char) :=
  (readDigits (text.take width)).map (·, text.drop width)

/-- The fraction of a second, zero when there is none. -/
def readFraction : List Char → Option Nat
  | '.' :: rest => (readField 6 rest).map (·.1)
  | _ => some 0

/-- The instant a text of this layout stands for, whatever its separators. -/
def readInstant (text : List Char) : Option Nat := do
  let (year, text) ← readField 4 text
  let (month, text) ← readField 2 (text.drop 1)
  let (day, text) ← readField 2 (text.drop 1)
  let (hour, text) ← readField 2 (text.drop 1)
  let (minute, text) ← readField 2 (text.drop 1)
  let (second, text) ← readField 2 (text.drop 1)
  let microsecond ← readFraction text
  let days := daysBeforeYear year + ((monthLengths year).take (month - 1)).sum + (day - 1)
  return days * dayMicros + hour * 3600000000 + minute * 60000000 + second * 1000000 +
    microsecond

/-- The instant whose text this is. -/
def ofIsoformat (text : String) : Option Nat :=
  match readInstant text.toList with
  | none => none
  | some instant => if isoformat instant = text then some instant else none

end Text

section RoundTrip

variable {instant : Nat}

/-- The calendar's fields determine the instant. -/
theorem instant_eq_fields :
    (daysBeforeYear (year instant) +
        ((monthLengths (year instant)).take (month instant - 1)).sum + (day instant - 1)) *
      dayMicros + hour instant * 3600000000 + minute instant * 60000000 +
      second instant * 1000000 + microsecond instant = instant := by
  have hyear := daysBeforeYear_yearAndDay (instant / dayMicros)
  obtain ⟨-, -, hmonth⟩ := sum_monthAndDay (monthLengths (year instant))
    (yearAndDay (instant / dayMicros)).2
  have hdays : daysBeforeYear (year instant) +
      ((monthLengths (year instant)).take (month instant - 1)).sum + (day instant - 1) =
        instant / dayMicros := by
    unfold month day
    rw [Nat.add_assoc, hmonth]
    exact hyear
  rw [hdays]
  unfold hour minute second microsecond dayMicros
  omega

theorem year_lt (h : instant < maximum) : year instant < 10 ^ 4 := by
  have hdays : instant / dayMicros < 3652059 := by
    unfold maximum dayMicros at *
    omega
  have hyear := daysBeforeYear_yearAndDay (instant / dayMicros)
  change daysBeforeYear (year instant) + _ = _ at hyear
  unfold daysBeforeYear at hyear
  omega

private theorem monthAndDay_le {lengths : List Nat} {place : Nat}
    (hplace : place < lengths.sum + 31) (hlength : ∀ length ∈ lengths, length ≤ 31) :
    (monthAndDay lengths place).1 ≤ lengths.length + 1 ∧ (monthAndDay lengths place).2 ≤ 31 := by
  induction lengths generalizing place with
  | nil =>
    have hday : place < 31 := by simpa using hplace
    exact ⟨by simp [monthAndDay], by simpa [monthAndDay] using hday⟩
  | cons length rest ih =>
    have hhead : length ≤ 31 := hlength length List.mem_cons_self
    unfold monthAndDay
    split
    · next hlt => exact ⟨by simp, by omega⟩
    · next hge =>
      rw [List.sum_cons] at hplace
      obtain ⟨hmonth, hday⟩ := @ih (place - length) (by omega)
        (fun other hother => hlength other (List.mem_cons_of_mem length hother))
      exact ⟨by simpa using hmonth, hday⟩

theorem month_day_le : month instant ≤ 13 ∧ day instant ≤ 31 := by
  have hplace : (yearAndDay (instant / dayMicros)).2 ≤ 365 := by
    unfold yearAndDay
    dsimp only
    split
    · exact Nat.le_refl 365
    · dsimp only
      omega
  have hsum : 365 ≤ (monthLengths (year instant)).sum := by
    unfold monthLengths
    split <;> simp
  have hlength : ∀ length ∈ monthLengths (year instant), length ≤ 31 := by
    unfold monthLengths
    split <;> simp
  exact monthAndDay_le (by omega) hlength

theorem readField_digits {width n : Nat} (h : n < 10 ^ width) (rest : List Char) :
    readField width (digits width n ++ rest) = some (n, rest) := by
  have htake : (digits width n ++ rest).take width = digits width n := by
    rw [List.take_append, digits_length]
    simp
  have hdrop : (digits width n ++ rest).drop width = rest := by
    rw [List.drop_append, digits_length]
    simp
  rw [readField, htake, hdrop, readDigits_digits h]
  rfl

theorem readFraction_fraction (rest : List Char) (hrest : rest.head? ≠ some '.') :
    readFraction (fraction instant ++ rest) = some (microsecond instant) := by
  have hmicro : microsecond instant < 10 ^ 6 := Nat.mod_lt _ (by decide)
  unfold fraction
  split
  · next hzero =>
    rw [List.nil_append, hzero]
    unfold readFraction
    split
    · next more => exact absurd rfl hrest
    · rfl
  · rw [List.cons_append, readFraction, readField_digits hmicro]
    rfl

theorem readInstant_isoformat (h : instant < maximum) :
    readInstant (isoformat instant).toList = some instant := by
  obtain ⟨hmonthTop, hdayTop⟩ := @month_day_le instant
  have hmonth : month instant < 10 ^ 2 := by omega
  have hday : day instant < 10 ^ 2 := by omega
  have hhour : hour instant < 10 ^ 2 := by
    unfold hour dayMicros
    omega
  have hminute : minute instant < 10 ^ 2 := by
    unfold minute
    omega
  have hsecond : second instant < 10 ^ 2 := by
    unfold second
    omega
  unfold readInstant isoformat
  simp only [String.toList_ofList, List.append_assoc, List.cons_append,
    readField_digits (year_lt h), readField_digits hmonth, readField_digits hday,
    readField_digits hhour, readField_digits hminute, readField_digits hsecond,
    Option.bind_eq_bind, Option.bind_some, List.drop_succ_cons, List.drop_zero,
    readFraction_fraction "+00:00".toList (by decide), Option.pure_def]
  rw [instant_eq_fields]

/-- The text of an instant reads back as the instant. -/
theorem ofIsoformat_isoformat (h : instant < maximum) :
    ofIsoformat (isoformat instant) = some instant := by
  unfold ofIsoformat
  rw [readInstant_isoformat h]
  simp

end RoundTrip

section Epoch

/-- Microseconds from year 1 to the start of 1970. -/
def epoch : Int := 719162 * dayMicros

/-- Instants counted from 1970 that have a text. -/
def Representable (micros : Int) : Prop :=
  0 ≤ micros + epoch ∧ micros + epoch < maximum

instance (micros : Int) : Decidable (Representable micros) :=
  inferInstanceAs (Decidable (_ ∧ _))

def epochText (micros : Int) : String :=
  isoformat (micros + epoch).toNat

def ofEpochText (text : String) : Option Int :=
  (ofIsoformat text).map fun instant : Nat => (instant : Int) - epoch

theorem ofEpochText_epochText {micros : Int} (h : Representable micros) :
    ofEpochText (epochText micros) = some micros := by
  obtain ⟨hlow, hhigh⟩ := h
  have hlt : (micros + epoch).toNat < maximum := by omega
  have hcast : ((micros + epoch).toNat : Int) - epoch = micros := by omega
  rw [ofEpochText, epochText, ofIsoformat_isoformat hlt, Option.map_some, hcast]

example : epochText 1700000000000001 = "2023-11-14T22:13:20.000001+00:00" := by
  decide +kernel

end Epoch

end GhostRecon.Lib.Calendar
