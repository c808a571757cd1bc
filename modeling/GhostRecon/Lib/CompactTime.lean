import GhostRecon.Lib.Calendar

/-!
Times without separators, as a calendar file writes them: a date, the letter T, and a time of
day in whole seconds. Only the text of an instant is a time, so a date that is not in the
calendar is none.
-/

namespace GhostRecon.Lib.Calendar

section Text

variable (instant : Nat)

/-- `YYYYMMDDTHHMMSS`. -/
def compact : List Char :=
  digits 4 (year instant) ++ (digits 2 (month instant) ++ (digits 2 (day instant) ++
    'T' :: (digits 2 (hour instant) ++ (digits 2 (minute instant) ++
      digits 2 (second instant)))))

/-- The instant whose fields stand in the text. -/
def readCompact (text : List Char) : Option Nat := do
  let (year, text) ← readField 4 text
  let (month, text) ← readField 2 text
  let (day, text) ← readField 2 text
  let (hour, text) ← readField 2 (text.drop 1)
  let (minute, text) ← readField 2 text
  let (second, _) ← readField 2 text
  let days := daysBeforeYear year + ((monthLengths year).take (month - 1)).sum + (day - 1)
  return days * dayMicros + hour * 3600000000 + minute * 60000000 + second * 1000000

/-- The instant whose text this is. -/
def ofCompact (text : List Char) : Option Nat :=
  match readCompact text with
  | none => none
  | some instant => if compact instant = text then some instant else none

end Text

section RoundTrip

variable {instant : Nat}

theorem readCompact_compact (h : instant < maximum) (hwhole : microsecond instant = 0) :
    readCompact (compact instant) = some instant := by
  obtain ⟨hmonthTop, hdayTop⟩ := @month_day_le instant
  have hmonth : month instant < 10 ^ 2 := by omega
  have hday : day instant < 10 ^ 2 := by omega
  have hhour : hour instant < 10 ^ 2 := by
    unfold hour dayMicros
    omega
  have hminute : minute instant < 10 ^ 2 := by
    unfold minute
    omega
  have hsecond : second instant < 10 ^ 2 := by
    unfold second
    omega
  have hlast := readField_digits hsecond []
  rw [List.append_nil] at hlast
  unfold readCompact compact
  simp only [readField_digits (year_lt h), readField_digits hmonth, readField_digits hday,
    readField_digits hhour, readField_digits hminute, hlast, Option.bind_eq_bind,
    Option.bind_some, List.drop_succ_cons, List.drop_zero, Option.pure_def]
  have hfields := @instant_eq_fields instant
  rw [hwhole, Nat.add_zero] at hfields
  rw [hfields]

/-- The text of a time in whole seconds reads back as the time. -/
theorem ofCompact_compact (h : instant < maximum) (hwhole : microsecond instant = 0) :
    ofCompact (compact instant) = some instant := by
  unfold ofCompact
  rw [readCompact_compact h hwhole]
  exact if_pos rfl

theorem digitChar_isDigit {n : Nat} (h : n < 10) : (Nat.digitChar n).isDigit = true := by
  interval_cases n <;> decide

theorem digits_isDigit (width n : Nat) : ∀ c ∈ digits width n, c.isDigit = true := by
  induction width generalizing n with
  | zero => simp [digits]
  | succ width ih =>
    intro c hc
    rw [digits, List.mem_append, List.mem_singleton] at hc
    rcases hc with hc | rfl
    · exact ih _ c hc
    · exact digitChar_isDigit (Nat.mod_lt _ (by decide))

/-- A time is eight digits, the letter T and six digits. -/
theorem compact_shape (instant : Nat) : ∃ date time : List Char,
    compact instant = date ++ 'T' :: time ∧ date.length = 8 ∧ time.length = 6 ∧
      (∀ c ∈ date, c.isDigit = true) ∧ ∀ c ∈ time, c.isDigit = true := by
  refine ⟨digits 4 (year instant) ++ (digits 2 (month instant) ++ digits 2 (day instant)),
    digits 2 (hour instant) ++ (digits 2 (minute instant) ++ digits 2 (second instant)), ?_, ?_,
    ?_, ?_, ?_⟩
  · simp [compact]
  · simp
  · simp
  · intro c hc
    rw [List.mem_append, List.mem_append] at hc
    rcases hc with hc | hc | hc <;> exact digits_isDigit _ _ c hc
  · intro c hc
    rw [List.mem_append, List.mem_append] at hc
    rcases hc with hc | hc | hc <;> exact digits_isDigit _ _ c hc

end RoundTrip

end GhostRecon.Lib.Calendar
