import LinkCatalog.Proofs.Text.Scan
import LinkCatalog.Proofs.Time.Instant
import LinkCatalog.Time.Timestamp

/-!
# Reading written time stamps

The time stamp of an instant is read as that instant, fraction and leap second included, in all
years that instants have. Years of more than four digits are told apart from the month by their
sign.

## Main statements

- `Timestamp.takes_year`, `Timestamp.takes_date`, `Timestamp.takes_fraction`,
  `Timestamp.takes_clock` — the parts of a time stamp
- `Timestamp.read?_toText` — writing and reading a time stamp
-/

namespace LinkCatalog

theorem Digits.value_append_zeros (base count : Nat) (digits : List Nat) :
    value base (digits ++ List.replicate count 0) = value base digits * Nat.pow base count := by
  induction count with
  | zero => simp [Nat.pow]
  | succ count ih =>
    rw [List.replicate_succ', ← List.append_assoc, value_append_singleton, ih, Nat.add_zero]
    exact Nat.mul_assoc _ _ _

/-- Zeros behind fixed width digits multiply the number. -/
theorem Digits.ofDecimal_append_zeros {width n : Nat} (count : Nat) (h : n < Nat.pow 10 width) :
    ofDecimal (decimal width n ++ List.replicate count '0') = n * Nat.pow 10 count := by
  have hzeros : (List.replicate count '0').map decimalValue = List.replicate count 0 :=
    List.map_replicate
  rw [ofDecimal, List.map_append, hzeros, value_append_zeros]
  exact congrArg (· * Nat.pow 10 count) (ofDecimal_decimal h)

namespace Timestamp

open Scan

-- ════════════════════════════════════════════════════════════════════════
-- Dates
-- ════════════════════════════════════════════════════════════════════════

/-- A year of up to six digits has at least four, and not more than it needs beyond these. -/
theorem exists_yearDigits_eq {n : Nat} (h : n < 1000000) :
    ∃ width, 4 ≤ width ∧ n < Nat.pow 10 width ∧ yearDigits n = Digits.decimal width n := by
  unfold yearDigits
  by_cases hfour : n < 10000
  · exact ⟨4, by decide, hfour, by rw [if_pos hfour]⟩
  by_cases hfive : n < 100000
  · exact ⟨5, by decide, hfive, by rw [if_neg hfour, if_pos hfive]⟩
  · exact ⟨6, by decide, h, by rw [if_neg hfour, if_neg hfive]⟩

theorem takes_yearDigits {n : Nat} (h : n < 1000000) {rest : List Char}
    (hrest : StartsWithout Char.isDigit rest) :
    (numberAtLeast 1).Takes (yearDigits n) rest n := by
  obtain ⟨width, hwidth, hn, htext⟩ := exists_yearDigits_eq h
  rw [htext]
  exact takes_numberAtLeast hn (by omega) hrest

theorem takes_year {year : Int} (hlow : -1000000 < year) (hhigh : year < 1000000)
    {rest : List Char} (hrest : StartsWithout Char.isDigit rest) :
    Timestamp.year.Takes (yearText year) rest year := by
  unfold yearText Timestamp.year
  by_cases hnegative : year < 0
  · rw [if_pos hnegative]
    refine Takes.bind_nil (takes_blanks (startsWithout_cons (by decide) _)) ?_
    refine (takes_satisfying (by decide) _).optional.bind_cons ?_
    obtain ⟨n, rfl⟩ : ∃ n : Nat, year = -(n : Int) := ⟨year.natAbs, by omega⟩
    rw [Int.natAbs_neg, Int.natAbs_natCast]
    exact (takes_yearDigits (by omega) hrest).andReturn fun n => -(n : Int)
  rw [if_neg hnegative]
  obtain ⟨n, rfl⟩ : ∃ n : Nat, year = n := ⟨year.toNat, by omega⟩
  rw [Int.toNat_natCast]
  by_cases hfour : (n : Int) < 10000
  · rw [if_pos hfour]
    have htext : yearDigits n = Digits.decimal 4 n := by rw [yearDigits, if_pos (by omega)]
    have hnumber : (number 1 4).Takes (Digits.decimal 4 n) rest n :=
      takes_number (show n < 10000 by omega) (by decide) (by decide) (.inl rfl)
    rw [htext]
    refine (takes_blanks (startsWithout_decimal (by decide) rest)).bind_nil ?_
    refine (takes_optional_none ?_).bind_nil ?_
    · -- A digit is no sign.
      apply run_satisfying_of_startsWithout
      cases hdigits : Digits.decimal 4 n with
      | nil => exact absurd (congrArg List.length hdigits) (by simp)
      | cons c cs =>
        have hdigit : c.isDigit = true :=
          Digits.isDigit_of_mem_decimal (hdigits ▸ List.mem_cons_self)
        have hminus : c ≠ '-' := by
          rintro rfl
          exact absurd hdigit (by decide)
        have hplus : c ≠ '+' := by
          rintro rfl
          exact absurd hdigit (by decide)
        exact startsWithout_cons (by simp [hminus, hplus]) _
    · exact hnumber.andReturn fun n => (n : Int)
  · rw [if_neg hfour]
    refine Takes.bind_nil (takes_blanks (startsWithout_cons (by decide) _)) ?_
    refine (takes_satisfying (by decide) _).optional.bind_cons ?_
    exact (takes_yearDigits (by omega) hrest).andReturn fun n => (n : Int)

theorem takes_twoDigits {n : Nat} (h : n < 100) (rest : List Char) :
    twoDigits.Takes (Digits.decimal 2 n) rest n :=
  (takes_blanks (startsWithout_decimal (by decide) rest)).bind_nil
    (takes_number h (by decide) (by decide) (.inl rfl))

theorem takes_separator {c : Char} (h : Text.isBlank c = false) (rest : List Char) :
    (separator c).Takes [c] rest () :=
  (takes_blanks (startsWithout_cons h rest)).bind_nil (takes_char c rest)

theorem takes_date (t : Instant) (rest : List Char) :
    Timestamp.date.Takes (dateText t.date) rest t.date := by
  have hyears := t.yearInRange_date
  rw [Instant.yearInRange, Bool.and_eq_true, decide_eq_true_eq, decide_eq_true_eq] at hyears
  have hmonths : t.date.month ≤ 12 := (CivilDate.month_bounds t.dayNumber).2
  have hdays : t.date.day ≤ 31 := (CivilDate.day_bounds t.dayNumber).2
  have htext : dateText t.date = yearText t.date.year ++
      (['-'] ++ (Digits.decimal 2 t.date.month ++ (['-'] ++ Digits.decimal 2 t.date.day))) := by
    simp [dateText]
  rw [htext]
  refine (takes_year (by omega) (by omega) (startsWithout_cons (by decide) _)).bind ?_
  refine (takes_separator (by decide) _).bind ?_
  refine (takes_twoDigits (by omega) _).bind ?_
  refine (takes_separator (by decide) _).bind ?_
  exact (takes_twoDigits (by omega) rest).andReturn
    fun day => ({ year := t.date.year, month := t.date.month, day } : CivilDate)

-- ════════════════════════════════════════════════════════════════════════
-- Times of day
-- ════════════════════════════════════════════════════════════════════════

/-- Decimal places are read as nanoseconds, however many of the nine there are. -/
theorem takes_places {width n : Nat} (hwidth : 0 < width) (hnine : width ≤ 9)
    (hn : n < Nat.pow 10 width) {rest : List Char} (hrest : StartsWithout Char.isDigit rest) :
    fraction.Takes ('.' :: Digits.decimal width n) rest (n * Nat.pow 10 (9 - width)) := by
  have hplaces : Digits.decimal width n ≠ [] := by
    intro hnil
    have hlength := congrArg List.length hnil
    rw [Digits.length_decimal, List.length_nil] at hlength
    omega
  have hnine : (Digits.decimal width n ++ List.replicate 9 '0').take 9 =
      Digits.decimal width n ++ List.replicate (9 - width) '0' := by
    rw [List.take_append, Digits.length_decimal, List.take_of_length_le (by simp; omega),
      List.take_replicate]
    simp
  have hvalue : Digits.ofDecimal ((Digits.decimal width n ++ List.replicate 9 '0').take 9) =
      n * Nat.pow 10 (9 - width) := by
    rw [hnine, Digits.ofDecimal_append_zeros _ hn]
  unfold fraction
  refine (takes_char '.' _).optional.bind_cons ?_
  refine (takes_takeWhile (fun c => Digits.isDigit_of_mem_decimal) hrest).bind_last ?_
  refine (takes_guard hplaces rest).bind_nil ?_
  rw [hvalue]
  rfl

/-- The fewest decimal places that show a fraction exactly are read as that fraction. -/
theorem takes_fraction {nanos : Nat} (h : nanos < 1000000000) {rest : List Char}
    (hdigit : StartsWithout Char.isDigit rest) (hpoint : StartsWithout (· == '.') rest) :
    fraction.Takes (fractionText nanos) rest nanos := by
  unfold fractionText
  by_cases hzero : nanos = 0
  · rw [if_pos hzero, hzero]
    have hnone : (optional (char '.')).Takes [] ([] ++ rest) none :=
      takes_optional_none (run_char_of_startsWithout hpoint)
    exact hnone.bind_nil rfl
  rw [if_neg hzero]
  by_cases hmillis : nanos % 1000000 = 0
  · rw [if_pos hmillis]
    have hplaces : fraction.Takes ('.' :: Digits.decimal 3 (nanos / 1000000)) rest
        (nanos / 1000000 * 1000000) :=
      takes_places (by decide) (by decide) (show nanos / 1000000 < 1000 by omega) hdigit
    have hnanos : nanos / 1000000 * 1000000 = nanos := by omega
    rwa [hnanos] at hplaces
  rw [if_neg hmillis]
  by_cases hmicros : nanos % 1000 = 0
  · rw [if_pos hmicros]
    have hplaces : fraction.Takes ('.' :: Digits.decimal 6 (nanos / 1000)) rest
        (nanos / 1000 * 1000) :=
      takes_places (by decide) (by decide) (show nanos / 1000 < 1000000 by omega) hdigit
    have hnanos : nanos / 1000 * 1000 = nanos := by omega
    rwa [hnanos] at hplaces
  · rw [if_neg hmicros]
    have hplaces : fraction.Takes ('.' :: Digits.decimal 9 nanos) rest (nanos * 1) :=
      takes_places (by decide) (by decide) h hdigit
    rwa [Nat.mul_one] at hplaces

theorem takes_clock (t : Instant) {rest : List Char} (hdigit : StartsWithout Char.isDigit rest)
    (hpoint : StartsWithout (· == '.') rest) :
    clock.Takes (clockText t.clock ++ fractionText t.clock.nanos) rest t.clock := by
  obtain ⟨hhour, hminute, hsecond⟩ := t.clock_bounds
  have hnanos : t.clock.nanos < 1000000000 := Nat.mod_lt _ (by decide)
  have htext : clockText t.clock ++ fractionText t.clock.nanos =
      Digits.decimal 2 t.clock.hour ++ ([':'] ++ (Digits.decimal 2 t.clock.minute ++
        ([':'] ++ (Digits.decimal 2 t.clock.second ++ fractionText t.clock.nanos)))) := by
    simp [clockText]
  rw [htext]
  refine (takes_twoDigits (by omega) _).bind ?_
  refine (takes_separator (by decide) _).bind ?_
  refine (takes_twoDigits (by omega) _).bind ?_
  refine (takes_separator (by decide) _).bind ?_
  refine (takes_twoDigits (by omega) _).bind ?_
  exact (takes_fraction hnanos hdigit hpoint).andReturn fun nanos =>
    ({ hour := t.clock.hour, minute := t.clock.minute, second := t.clock.second, nanos } :
      ClockTime)

theorem takes_offset : offset.Takes ['Z'] [] 0 := rfl

/-- **Round trip.** The time stamp of an instant is read as that instant. -/
theorem read?_toText (t : Instant) : read? t.toText = some t := by
  have htext : t.toText.toList = dateText t.date ++ (['T'] ++
      ((clockText t.clock ++ fractionText t.clock.nanos) ++ ['Z'])) := by
    simp [Instant.toText, chars]
  refine whole_of_takes ?_
  rw [htext]
  unfold instant
  refine (takes_date t _).bind ?_
  refine (takes_satisfying (by decide) _).bind ?_
  have hclock : clock.Takes (clockText t.clock ++ fractionText t.clock.nanos) ['Z'] t.clock :=
    takes_clock t (startsWithout_cons (by decide) _) (startsWithout_cons (by decide) _)
  refine hclock.bind ?_
  refine (takes_blanks (startsWithout_cons (by decide) _)).bind_nil ?_
  refine takes_offset.bind_last ?_
  refine Takes.bind_nil (rfl : blanks.Takes [] [] ()) ?_
  rw [t.ofLocal?_date_clock]
  exact takes_liftM t []

end Timestamp

end LinkCatalog
