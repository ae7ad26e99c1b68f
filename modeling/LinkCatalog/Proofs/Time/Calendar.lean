import LinkCatalog.Time.Calendar

/-!
# Dates and day numbers

Every day number has a date that exists, and counting the days of that date gives the day number
back.

## Main statements

- `MarchDay.ofDays_spec` — how a number of days is split into years
- `CivilDate.dayNumber_ofDayNumber` — counting the days of a date undoes making the date
- `CivilDate.isValid_ofDayNumber` — the date of a day number exists
- `CivilDate.year_bounds` — the years of all instants
-/

namespace LinkCatalog

namespace MarchDay

/-- A number of days is split into cycles, centuries, spans of four years, years and days. The last
    year of a span is a day longer, but for the last span of the first three centuries. -/
theorem ofDays_spec (n : Int) :
    ∃ (cycle : Int) (century span year day : Nat),
      ofDays n = { year := 400 * cycle + 100 * century + 4 * span + year, dayOfYear := day } ∧
        n = 146097 * cycle + 36524 * century + 1461 * span + 365 * year + day ∧
        century ≤ 3 ∧ span ≤ 24 ∧ year ≤ 3 ∧ day ≤ 365 ∧
        (day = 365 → year = 3 ∧ (span = 24 → century = 3)) := by
  obtain ⟨r, hr⟩ : ∃ r, r = (n % 146097).toNat := ⟨_, rfl⟩
  have hn : n = 146097 * (n / 146097) + r := by omega
  have hrlt : r < 146097 := by omega
  obtain ⟨c, hc⟩ : ∃ c, c = century r := ⟨_, rfl⟩
  have hcentury : c ≤ 3 ∧ 36524 * c ≤ r ∧ (r < 36524 * c + 36524 ∨ c = 3) := by
    rw [hc, century]
    omega
  obtain ⟨s, hs⟩ : ∃ s, s = r - 36524 * c := ⟨_, rfl⟩
  obtain ⟨k, hk⟩ : ∃ k, k = yearOfSpan (s % 1461) := ⟨_, rfl⟩
  have hyear : k ≤ 3 ∧ 365 * k ≤ s % 1461 ∧ (s % 1461 < 365 * k + 365 ∨ k = 3) := by
    rw [hk, yearOfSpan]
    omega
  refine ⟨n / 146097, c, s / 1461, k, s % 1461 - 365 * k, ?_, ?_, hcentury.1, ?_, hyear.1, ?_, ?_⟩
  · rw [ofDays, ← hr, ← hc, ← hs, ← hk]
  · omega
  · omega
  · omega
  · omega

/-- The years before a day are split in the same way. -/
theorem yearStart_split (cycle : Int) {century span year : Nat} (hcentury : century ≤ 3)
    (hspan : span ≤ 24) (hyear : year ≤ 3) :
    yearStart (400 * cycle + 100 * century + 4 * span + year) =
      146097 * cycle + 36524 * century + 1461 * span + 365 * year := by
  unfold yearStart
  omega

theorem yearStart_ofDays (n : Int) : yearStart (ofDays n).year + (ofDays n).dayOfYear = n := by
  obtain ⟨cycle, century, span, year, day, hsplit, hn, hcentury, hspan, hyear, -, -⟩ :=
    ofDays_spec n
  rw [hsplit, yearStart_split cycle hcentury hspan hyear]
  exact hn.symm

theorem yearStart_le {year other : Int} (h : year ≤ other) : yearStart year ≤ yearStart other := by
  obtain ⟨years, rfl⟩ := Int.le.dest h
  induction years with
  | zero => exact Int.le_of_eq (congrArg yearStart (Int.add_zero year).symm)
  | succ years ih =>
    have hstep : yearStart (year + years) ≤ yearStart (year + (years + 1 : Nat)) := by
      unfold yearStart
      omega
    exact Int.le_trans (ih (by omega)) hstep

theorem dayOfYear_ofDays_le (n : Int) : (ofDays n).dayOfYear ≤ 365 := by
  obtain ⟨cycle, century, span, year, day, hsplit, -, -, -, -, hday, -⟩ := ofDays_spec n
  rw [hsplit]
  exact hday

/-- The 366th day is the 29th of February, so the calendar year that follows is a leap year. -/
theorem isLeapYear_of_dayOfYear {n : Int} (h : (ofDays n).dayOfYear = 365) :
    CivilDate.isLeapYear ((ofDays n).year + 1) = true := by
  obtain ⟨cycle, century, span, year, day, hsplit, -, hcentury, hspan, -, -, hlast⟩ :=
    ofDays_spec n
  rw [hsplit] at h ⊢
  obtain ⟨rfl, hshort⟩ := hlast h
  simp only [CivilDate.isLeapYear, Bool.and_eq_true, Bool.or_eq_true, beq_iff_eq, bne_iff_ne]
  omega

/-- A month, counted from March, lasts until the next one starts. -/
theorem month_spec {dayOfYear : Nat} (h : dayOfYear ≤ 365) :
    month dayOfYear < 12 ∧ monthStart (month dayOfYear) ≤ dayOfYear ∧
      dayOfYear < monthStart (month dayOfYear + 1) := by
  unfold monthStart month
  omega

end MarchDay

namespace CivilDate

/-- The date of a day number in terms of the year, the month and the day counted from March. -/
theorem ofDayNumber_spec (n : Int) :
    ∃ (year : Int) (month day : Nat),
      ofDayNumber n = (if month < 10 then { year, month := month + 3, day := day + 1 }
        else { year := year + 1, month := month - 9, day := day + 1 }) ∧
      month < 12 ∧ MarchDay.yearStart year + MarchDay.monthStart month + day = n + epochOffset ∧
      MarchDay.monthStart month + day ≤ 365 ∧
      MarchDay.monthStart month + day < MarchDay.monthStart (month + 1) ∧
      (MarchDay.monthStart month + day = 365 → isLeapYear (year + 1) = true) := by
  obtain ⟨march, hmarch⟩ : ∃ march, march = MarchDay.ofDays (n + epochOffset) := ⟨_, rfl⟩
  have hsum := MarchDay.yearStart_ofDays (n + epochOffset)
  have hday := MarchDay.dayOfYear_ofDays_le (n + epochOffset)
  have hleap := @MarchDay.isLeapYear_of_dayOfYear (n + epochOffset)
  rw [← hmarch] at hsum hday hleap
  obtain ⟨htwelve, hstart, hnext⟩ := MarchDay.month_spec hday
  refine ⟨march.year, MarchDay.month march.dayOfYear,
    march.dayOfYear - MarchDay.monthStart (MarchDay.month march.dayOfYear), ?_, htwelve, by omega,
    by omega, by omega, fun hlast => hleap (by omega)⟩
  simp only [ofDayNumber, ← hmarch]
  split <;> rfl

/-- Counting the days of a date gives back the day number that it was made from. -/
theorem dayNumber_ofDayNumber (n : Int) : (ofDayNumber n).dayNumber = n := by
  obtain ⟨year, month, day, hdate, htwelve, hsum, -⟩ := ofDayNumber_spec n
  rw [hdate]
  by_cases hmonth : month < 10
  · have hback : (month + 3 + 9) % 12 = month := by omega
    have hlate : ¬ month + 3 ≤ 2 := by omega
    simp only [dayNumber, if_pos hmonth, hback, if_neg hlate]
    omega
  · have hback : (month - 9 + 9) % 12 = month := by omega
    have hearly : month - 9 ≤ 2 := by omega
    simp only [dayNumber, if_neg hmonth, hback, if_pos hearly, Int.add_sub_cancel]
    omega

/-- Every day number has a date that exists. -/
theorem isValid_ofDayNumber (n : Int) : (ofDayNumber n).isValid = true := by
  obtain ⟨year, month, day, hdate, htwelve, -, hlast, hnext, hleap⟩ := ofDayNumber_spec n
  rw [hdate]
  simp only [MarchDay.monthStart] at hlast hnext hleap
  -- All months but February have the same length in every year.
  rcases Nat.lt_or_ge month 11 with hother | hfebruary
  · match month, hother with
    | 0, _ | 1, _ | 2, _ | 3, _ | 4, _ | 5, _ | 6, _ | 7, _ | 8, _ | 9, _ | 10, _ =>
      simp [isValid, daysInMonth]
      omega
  · obtain rfl : month = 11 := by omega
    simp only [Nat.reduceLT, if_false, Nat.reduceSub, isValid, daysInMonth, Bool.and_eq_true,
      decide_eq_true_eq]
    refine ⟨by omega, ?_⟩
    split
    · show day + 1 ≤ 29
      omega
    · next hcommon =>
      have hshort : ¬ (153 * 11 + 2) / 5 + day = 365 := fun h => hcommon (hleap h)
      show day + 1 ≤ 28
      omega

theorem day_bounds (n : Int) : 1 ≤ (ofDayNumber n).day ∧ (ofDayNumber n).day ≤ 31 := by
  obtain ⟨year, month, day, hdate, -, -, -, hnext, -⟩ := ofDayNumber_spec n
  have hday : (ofDayNumber n).day = day + 1 := by
    rw [hdate]
    split <;> rfl
  unfold MarchDay.monthStart at hnext
  omega

theorem month_bounds (n : Int) : 1 ≤ (ofDayNumber n).month ∧ (ofDayNumber n).month ≤ 12 := by
  obtain ⟨year, month, day, hdate, htwelve, -⟩ := ofDayNumber_spec n
  rw [hdate]
  split
  · show 1 ≤ month + 3 ∧ month + 3 ≤ 12
    omega
  · show 1 ≤ month - 9 ∧ month - 9 ≤ 12
    omega

/-- The days from the first of January -262143 to the last of December 262142 have these years. -/
theorem year_bounds {n : Int} (hlow : -96465292 ≤ n) (hhigh : n ≤ 95026236) :
    -262143 ≤ (ofDayNumber n).year ∧ (ofDayNumber n).year ≤ 262142 := by
  obtain ⟨year, month, day, hdate, htwelve, hsum, hlast, hnext, -⟩ := ofDayNumber_spec n
  have hbefore : year ≤ -262145 → MarchDay.yearStart year ≤ -95746496 := MarchDay.yearStart_le
  have hfirst : year ≤ -262144 → MarchDay.yearStart year ≤ -95746130 := MarchDay.yearStart_le
  have hfinal : 262142 ≤ year → 95745399 ≤ MarchDay.yearStart year := MarchDay.yearStart_le
  have hafter : 262143 ≤ year → 95745764 ≤ MarchDay.yearStart year := MarchDay.yearStart_le
  have hoffset : epochOffset = 719468 := rfl
  rw [hdate]
  by_cases hmonth : month < 10
  · rw [if_pos hmonth]
    have hjanuary : MarchDay.monthStart (month + 1) ≤ 306 := by
      unfold MarchDay.monthStart
      omega
    show -262143 ≤ year ∧ year ≤ 262142
    omega
  · rw [if_neg hmonth]
    have hjanuary : 306 ≤ MarchDay.monthStart month := by
      unfold MarchDay.monthStart
      omega
    show -262143 ≤ year + 1 ∧ year + 1 ≤ 262142
    omega

end CivilDate

end LinkCatalog
