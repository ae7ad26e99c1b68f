import LinkCatalog.Proofs.Time.Calendar
import LinkCatalog.Time.Instant

/-!
# Instants

An instant is made again from its date and its time of day, in a leap second, too. The latest of
some instants is one of them, and none of them is later.

## Main statements

- `Instant.ofLocal?_date_clock` — instants from dates and times of day
- `Instant.ofLocal?_date_wholeSecond` — the same without fractions of seconds
- `Instant.latest?_spec` — the latest of some instants
-/

namespace LinkCatalog

namespace Instant

theorem clock_bounds (t : Instant) :
    t.clock.hour < 24 ∧ t.clock.minute < 60 ∧ t.clock.second ≤ 60 := by
  obtain ⟨-, -, hnanos, hleap⟩ := t.valid
  simp only [clock]
  omega

/-- The second of the day, without the leap second, and whether there is a leap second. -/
theorem clock_spec (t : Instant) :
    (t.clock.hour * 3600 + t.clock.minute * 60 + min t.clock.second 59 : Nat) = t.seconds % 86400 ∧
      (if t.clock.second = 60 then 1000000000 else 0) = t.nanos / 1000000000 * 1000000000 := by
  obtain ⟨-, -, hnanos, hleap⟩ := t.valid
  have hsecond : t.clock.second = (t.seconds % 86400).toNat % 60 + t.nanos / 1000000000 := rfl
  refine ⟨by simp only [clock]; omega, ?_⟩
  by_cases hsixty : t.clock.second = 60
  · rw [if_pos hsixty]
    omega
  · rw [if_neg hsixty]
    omega

theorem yearInRange_date (t : Instant) : yearInRange t.date.year = true := by
  obtain ⟨hlow, hhigh, -, -⟩ := t.valid
  unfold minSeconds at hlow
  unfold maxSeconds at hhigh
  have hfirst : -96465292 ≤ t.dayNumber := by
    unfold dayNumber
    omega
  have hlast : t.dayNumber ≤ 95026236 := by
    unfold dayNumber
    omega
  rw [yearInRange, Bool.and_eq_true, decide_eq_true_eq, decide_eq_true_eq]
  exact CivilDate.year_bounds hfirst hlast

/-- An instant in the second of another one is made from the date and the time of day of that one,
    with a fraction of its own. -/
theorem ofLocal?_date (t : Instant) (nanos : Nat) :
    ofLocal? t.date { t.clock with nanos } 0 =
      ofParts? t.seconds (nanos + t.nanos / 1000000000 * 1000000000) := by
  obtain ⟨hhour, hminute, hsecond⟩ := t.clock_bounds
  obtain ⟨hday, hnanos⟩ := t.clock_spec
  have hvalid : t.date.isValid = true := CivilDate.isValid_ofDayNumber t.dayNumber
  have hnumber : t.date.dayNumber = t.dayNumber := CivilDate.dayNumber_ofDayNumber t.dayNumber
  have hseconds : t.date.dayNumber * 86400 +
      (t.clock.hour * 3600 + t.clock.minute * 60 + min t.clock.second 59 : Nat) - 0 =
        t.seconds := by
    rw [hday, hnumber, dayNumber]
    omega
  unfold ofLocal?
  rw [if_pos (by simp [hvalid, t.yearInRange_date, hhour, hminute, hsecond])]
  simp only [hseconds, hnanos]

/-- Without the fraction, the start of the second is made from a date and a time of day. -/
theorem ofLocal?_date_wholeSecond (t : Instant) :
    ofLocal? t.date { t.clock with nanos := 0 } 0 = some t.wholeSecond := by
  have hwhole : Valid t.seconds (t.nanos / 1000000000 * 1000000000) := t.wholeSecond.valid
  rw [ofLocal?_date, Nat.zero_add, ofParts?, dif_pos hwhole]
  rfl

/-- An instant is made again from its date and its time of day. -/
theorem ofLocal?_date_clock (t : Instant) : ofLocal? t.date t.clock 0 = some t := by
  have hnanos : t.clock.nanos + t.nanos / 1000000000 * 1000000000 = t.nanos := by
    show t.nanos % 1000000000 + t.nanos / 1000000000 * 1000000000 = t.nanos
    omega
  have hlocal := t.ofLocal?_date t.clock.nanos
  rw [hnanos, ofParts?, dif_pos t.valid] at hlocal
  exact hlocal

-- ════════════════════════════════════════════════════════════════════════
-- The latest of some instants
-- ════════════════════════════════════════════════════════════════════════

theorem seconds_le_of_le {s t : Instant} (h : s.le t = true) : s.seconds ≤ t.seconds := by
  simp only [le, Bool.or_eq_true, Bool.and_eq_true, decide_eq_true_eq, beq_iff_eq] at h
  omega

theorem le_later (s t : Instant) : s.le (s.later t) = true ∧ t.le (s.later t) = true := by
  unfold later
  by_cases hle : s.le t = true
  · rw [if_pos hle]
    exact ⟨hle, le_refl t⟩
  · rw [if_neg hle]
    have htotal := le_total s t
    rw [Bool.or_eq_true] at htotal
    exact ⟨le_refl s, htotal.resolve_left hle⟩

theorem later_eq (s t : Instant) : s.later t = s ∨ s.later t = t := by
  unfold later
  split
  · exact .inr rfl
  · exact .inl rfl

theorem foldl_later_spec (first : Instant) (rest : List Instant) :
    rest.foldl later first ∈ first :: rest ∧
      ∀ t ∈ first :: rest, t.le (rest.foldl later first) = true := by
  induction rest generalizing first with
  | nil => simp [le_refl]
  | cons next rest ih =>
    obtain ⟨hmem, hle⟩ := ih (first.later next)
    obtain ⟨hfirst, hnext⟩ := first.le_later next
    have hlater := hle (first.later next) List.mem_cons_self
    rw [List.foldl_cons]
    constructor
    · rcases List.mem_cons.1 hmem with heq | hrest
      · rw [heq]
        rcases first.later_eq next with h | h
        · rw [h]
          exact List.mem_cons_self
        · rw [h]
          exact List.mem_cons_of_mem _ List.mem_cons_self
      · exact List.mem_cons_of_mem _ (List.mem_cons_of_mem _ hrest)
    · intro t ht
      rcases List.mem_cons.1 ht with rfl | ht
      · exact le_trans hfirst hlater
      · rcases List.mem_cons.1 ht with rfl | ht
        · exact le_trans hnext hlater
        · exact hle t (List.mem_cons_of_mem _ ht)

/-- The latest of some instants is one of them, and none of them is later. -/
theorem latest?_spec {times : List Instant} {t : Instant} (h : latest? times = some t) :
    t ∈ times ∧ ∀ other ∈ times, other.le t = true := by
  cases times with
  | nil => cases h
  | cons first rest =>
    obtain rfl := Option.some.inj h
    exact foldl_later_spec first rest

theorem exists_latest? {times : List Instant} (h : times ≠ []) : ∃ t, latest? times = some t := by
  cases times with
  | nil => exact absurd rfl h
  | cons first rest => exact ⟨_, rfl⟩

/-- The latest of some instants is within a second or before it if and only if there are instants at
    all, and each of them is. -/
theorem exists_latest?_le_iff {times : List Instant} {second : Int} :
    (∃ t, latest? times = some t ∧ t.seconds ≤ second) ↔
      times ≠ [] ∧ ∀ t ∈ times, t.seconds ≤ second := by
  constructor
  · rintro ⟨t, hlatest, hle⟩
    obtain ⟨hmem, hmax⟩ := latest?_spec hlatest
    refine ⟨List.ne_nil_of_mem hmem, fun other hother => ?_⟩
    exact Int.le_trans (seconds_le_of_le (hmax other hother)) hle
  · rintro ⟨hne, hall⟩
    obtain ⟨t, hlatest⟩ := exists_latest? hne
    exact ⟨t, hlatest, hall t (latest?_spec hlatest).1⟩

end Instant

end LinkCatalog
