import LinkCatalog.Proofs.Text.Scan
import LinkCatalog.Proofs.Time.Instant
import LinkCatalog.Time.MailDate

/-!
# Reading written dates

The date of an instant, as it is written into header fields, is read as the start of its second, in
every year that has four digits.

## Main statements

- `MailDate.takes_leadingWeekday`, `MailDate.takes_monthName`, `MailDate.takes_year`,
  `MailDate.takes_clock`, `MailDate.takes_zone` — the parts of a date
- `MailDate.read?_toText` — writing and reading a date
-/

namespace LinkCatalog

namespace MailDate

open Scan

theorem takes_weekdayName {index : Nat} (h : index < 7) (rest : List Char) :
    (name weekdayNames).Takes (nameAt weekdayNames index) rest index := by
  match index, h with
  | 0, _ | 1, _ | 2, _ | 3, _ | 4, _ | 5, _ | 6, _ => rfl

theorem takes_monthName {index : Nat} (h : index < 12) (rest : List Char) :
    (name monthNames).Takes (nameAt monthNames index) rest index := by
  match index, h with
  | 0, _ | 1, _ | 2, _ | 3, _ | 4, _ | 5, _ | 6, _ | 7, _ | 8, _ | 9, _ | 10, _ | 11, _ => rfl

theorem takes_leadingWeekday {index : Nat} (h : index < 7) (rest : List Char) :
    leadingWeekday.Takes (nameAt weekdayNames index ++ [',']) rest (some index) := by
  refine (takes_weekdayName h ([','] ++ rest)).optional.bind ?_
  exact (takes_char ',' rest).andReturn fun _ => some index

/-- A year of four digits. -/
theorem takes_year {n : Nat} (hn : n < 10000) {rest : List Char}
    (hrest : StartsWithout Char.isDigit rest) : year.Takes (Digits.decimal 4 n) rest n := by
  have hnumber : (numberAtLeast 2).Takes (Digits.decimal 4 n) rest n :=
    takes_numberAtLeast hn (by decide) hrest
  have hlength : (Digits.decimal 4 n ++ rest).length - rest.length = 4 := by simp
  unfold Takes StateT.run at hnumber ⊢
  unfold year
  rw [hnumber]
  simp only [Option.bind_eq_bind, Option.bind_some, hlength]

/-- An hour, a minute and a second of two digits each, separated by colons. -/
theorem takes_clock {hour minute second : Nat} (hhour : hour < 100) (hminute : minute < 100)
    (hsecond : second < 100) (rest : List Char) :
    clock.Takes (Timestamp.clockText { hour, minute, second, nanos := 0 }) rest
      { hour, minute, second, nanos := 0 } := by
  have htext : Timestamp.clockText { hour, minute, second, nanos := 0 } =
      Digits.decimal 2 hour ++
        ([':'] ++ (Digits.decimal 2 minute ++ ([':'] ++ Digits.decimal 2 second))) := by
    simp [Timestamp.clockText]
  have hcolon : ∀ rest, StartsWithout Text.isBlank (':' :: rest) :=
    startsWithout_cons (by decide)
  have hnumber : ∀ {n : Nat} (rest : List Char), n < 100 →
      (number 2 2).Takes (Digits.decimal 2 n) rest n :=
    fun rest hn => takes_number hn (by decide) (by decide) (.inl rfl)
  rw [htext]
  refine (hnumber _ hhour).bind ?_
  refine (takes_blanks (hcolon _)).bind_nil ?_
  refine (takes_char ':' _).bind ?_
  have hvisible : StartsWithout Text.isBlank
      ((Digits.decimal 2 minute ++ ([':'] ++ Digits.decimal 2 second)) ++ rest) := by
    rw [List.append_assoc]
    exact startsWithout_decimal (by decide) _
  refine (takes_blanks hvisible).bind_nil ?_
  refine (hnumber _ hminute).bind ?_
  have hmark : (do blanks; char ':' : Scan Unit).Takes [':'] (Digits.decimal 2 second ++ rest) () :=
    (takes_blanks (hcolon _)).bind_nil (takes_char ':' _)
  refine hmark.optional.bind ?_
  exact (hnumber rest hsecond).andReturn
    fun second => ({ hour, minute, second, nanos := 0 } : ClockTime)

theorem takes_zone : zone.Takes "GMT".toList [] 0 := rfl

theorem startsWithout_nameAt {names : List String} {index : Nat} (hindex : index < names.length)
    (hnames : ∀ name ∈ names, (name.toList.head?.map Text.isBlank) = some false) (rest : List Char) :
    StartsWithout Text.isBlank (nameAt names index ++ rest) := by
  have hname := hnames _ (List.getElem_mem hindex)
  rw [nameAt, List.getD_eq_getElem?_getD, List.getElem?_eq_getElem hindex, Option.getD_some]
  cases hchars : names[index].toList with
  | nil =>
    rw [hchars] at hname
    cases hname
  | cons c cs =>
    rw [hchars] at hname
    exact startsWithout_cons (Option.some.inj hname) _

/-- The parts of a date, in the form in which they are read. -/
theorem toList_toText (t : Instant) (hlow : 0 ≤ t.date.year) (hhigh : t.date.year ≤ 9999) :
    (toText t).toList =
      (nameAt weekdayNames (weekday t.dayNumber) ++ [',']) ++ ([' '] ++
        (Digits.decimal 2 t.date.day ++ ([' '] ++ (nameAt monthNames (t.date.month - 1) ++ ([' '] ++
          (Digits.decimal 4 t.date.year.toNat ++ ([' '] ++ (Timestamp.clockText t.clock ++ ([' '] ++
            "GMT".toList))))))))) := by
  have hyear : Timestamp.yearText t.date.year = Digits.decimal 4 t.date.year.toNat := by
    unfold Timestamp.yearText Timestamp.yearDigits
    rw [if_neg (by omega), if_pos (by omega), if_pos (by omega)]
  have hzone : " GMT".toList = [' '] ++ "GMT".toList := rfl
  rw [toText, String.toList_ofList, chars, hyear, hzone]
  simp only [List.append_assoc, List.cons_append, List.nil_append]

/-- A date of an instant is made again from the numbers that are written. -/
theorem date_eq_of_nonneg {t : Instant} (h : 0 ≤ t.date.year) :
    ({ year := t.date.year.toNat, month := t.date.month - 1 + 1, day := t.date.day } : CivilDate) =
      t.date := by
  have hmonth : 1 ≤ t.date.month := (CivilDate.month_bounds t.dayNumber).1
  rw [Int.toNat_of_nonneg h, Nat.sub_add_cancel hmonth]

/-- **Round trip.** The date of an instant is read as the start of its second, in every year from 0
    to 9999. -/
theorem read?_toText (t : Instant) (hlow : 0 ≤ t.date.year) (hhigh : t.date.year ≤ 9999) :
    read? (toText t) = some t.wholeSecond := by
  obtain ⟨hhour, hminute, hsecond⟩ := t.clock_bounds
  obtain ⟨hday, hdays⟩ : 1 ≤ t.date.day ∧ t.date.day ≤ 31 := CivilDate.day_bounds t.dayNumber
  obtain ⟨hmonth, hmonths⟩ : 1 ≤ t.date.month ∧ t.date.month ≤ 12 :=
    CivilDate.month_bounds t.dayNumber
  have htakesDay : ∀ rest, (number 1 2).Takes (Digits.decimal 2 t.date.day) rest t.date.day :=
    fun rest => takes_number (show t.date.day < 100 by omega) (by decide) (by decide) (.inl rfl)
  have htakesYear : ∀ rest, year.Takes (Digits.decimal 4 t.date.year.toNat) (' ' :: rest)
      t.date.year.toNat :=
    fun rest => takes_year (show t.date.year.toNat < 10000 by omega)
      (startsWithout_cons (by decide) rest)
  have htakesClock : ∀ rest, clock.Takes (Timestamp.clockText t.clock) rest
      { t.clock with nanos := 0 } :=
    takes_clock (show t.clock.hour < 100 by omega) (show t.clock.minute < 100 by omega)
      (show t.clock.second < 100 by omega)
  -- Part by part, as it is read; white space before a part is over once the part has begun.
  refine whole_of_takes ?_
  rw [toList_toText t hlow hhigh]
  unfold instant
  refine (takes_blanks ?_).bind_nil ?_
  · rw [List.append_assoc, List.append_assoc]
    exact startsWithout_nameAt (weekday_lt _) (by decide) _
  refine (takes_leadingWeekday (weekday_lt _) _).bind ?_
  refine (takes_blanks_space ?_).bind ?_
  · rw [List.append_assoc]
    exact startsWithout_decimal (by decide) _
  refine (htakesDay _).bind ?_
  refine (takes_someBlanks ?_).bind ?_
  · rw [List.append_assoc]
    exact startsWithout_nameAt (show t.date.month - 1 < 12 by omega) (by decide) _
  refine (takes_monthName (by omega) _).bind ?_
  refine (takes_someBlanks ?_).bind ?_
  · rw [List.append_assoc]
    exact startsWithout_decimal (by decide) _
  refine (htakesYear _).bind ?_
  refine (takes_someBlanks ?_).bind ?_
  · rw [List.append_assoc, Timestamp.clockText, List.append_assoc, List.append_assoc]
    exact startsWithout_decimal (by decide) _
  refine (htakesClock _).bind ?_
  refine (takes_someBlanks (startsWithout_cons (by decide) _)).bind ?_
  refine takes_zone.bind_last ?_
  refine Takes.bind_nil (rfl : (takeWhile fun _ => true).Takes [] [] []) ?_
  refine (takes_guard rfl _).bind_nil ?_
  have hdate := date_eq_of_nonneg hlow
  have hnumber : t.date.dayNumber = t.dayNumber := CivilDate.dayNumber_ofDayNumber t.dayNumber
  refine (takes_guard ?_ _).bind_nil ?_
  · simp only [hdate, hnumber, Option.all_some, beq_self_eq_true]
  · simp only [hdate, t.ofLocal?_date_wholeSecond]
    exact takes_liftM _ _

end MailDate

end LinkCatalog
