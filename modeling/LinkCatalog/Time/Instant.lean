import LinkCatalog.Time.Calendar

/-!
# Instants

A point of time is a number of seconds since the start of 1970 in UTC, and nanoseconds within that
second. A leap second has no number of its own: it is the second 59 before it, with nanoseconds from
10⁹ on.

## Main definitions

- `Instant` — seconds and nanoseconds, within the years -262143 to 262142
- `Instant.le` — the order of time
- `Instant.micros` — whole microseconds since the start of 1970
- `ClockTime`, `Instant.ofLocal?` — an instant from a date, a time of day and an offset from UTC
- `Instant.date`, `Instant.clock` — date and time of day in UTC
-/

namespace LinkCatalog

namespace Instant

/-- The first second of the year -262143. -/
def minSeconds : Int := -8334601228800

/-- The last second of the year 262142. -/
def maxSeconds : Int := 8210266876799

/-- The pairs of seconds and nanoseconds that are instants. Only a second 59 may be followed by a
    leap second. -/
def Valid (seconds : Int) (nanos : Nat) : Prop :=
  minSeconds ≤ seconds ∧ seconds ≤ maxSeconds ∧ nanos < 2000000000 ∧
    (1000000000 ≤ nanos → seconds % 60 = 59)

instance (seconds : Int) (nanos : Nat) : Decidable (Valid seconds nanos) := by
  unfold Valid
  infer_instance

end Instant

/-- A point of time in UTC. -/
structure Instant where
  /-- Seconds since the start of 1970, leap seconds not counted. -/
  seconds : Int
  /-- Nanoseconds within the second; from 10⁹ on within the leap second after it. -/
  nanos : Nat
  valid : Instant.Valid seconds nanos
deriving DecidableEq

/-- A time of day; the second is 60 in a leap second. -/
structure ClockTime where
  hour : Nat
  minute : Nat
  second : Nat
  nanos : Nat
deriving DecidableEq, Repr

namespace Instant

/-- The start of 1970. -/
def epoch : Instant where
  seconds := 0
  nanos := 0
  valid := by decide

instance : Inhabited Instant := ⟨epoch⟩

/-- The instant of the given seconds and nanoseconds, if there is one. -/
def ofParts? (seconds : Int) (nanos : Nat) : Option Instant :=
  if valid : Valid seconds nanos then some { seconds, nanos, valid } else none

/-- Whether `a` is not later than `b`. -/
def le (a b : Instant) : Bool :=
  a.seconds < b.seconds || (a.seconds == b.seconds && a.nanos ≤ b.nanos)

/-- The later of two instants. -/
def later (a b : Instant) : Instant :=
  if a.le b then b else a

/-- The latest of some instants, if there are any. -/
def latest? : List Instant → Option Instant
  | [] => none
  | a :: rest => some (rest.foldl later a)

/-- Whole microseconds since the start of 1970; those of a leap second run into the next second. -/
def micros (t : Instant) : Int :=
  t.seconds * 1000000 + (t.nanos / 1000 : Nat)

/-- The start of the second, which may be a leap second. -/
def wholeSecond (t : Instant) : Instant where
  seconds := t.seconds
  nanos := t.nanos / 1000000000 * 1000000000
  valid := by
    have h := t.valid
    unfold Valid at h ⊢
    refine ⟨h.1, h.2.1, by omega, fun hleap => h.2.2.2 (by omega)⟩

/-- The number of the day in UTC, counted from 1970-01-01. -/
def dayNumber (t : Instant) : Int :=
  t.seconds / 86400

/-- The date in UTC. -/
def date (t : Instant) : CivilDate :=
  CivilDate.ofDayNumber t.dayNumber

/-- The time of day in UTC. -/
def clock (t : Instant) : ClockTime :=
  let second := (t.seconds % 86400).toNat
  { hour := second / 3600
    minute := second / 60 % 60
    second := second % 60 + t.nanos / 1000000000
    nanos := t.nanos % 1000000000 }

/-- The first and the last year of the calendar of instants. -/
def yearInRange (year : Int) : Bool :=
  -262143 ≤ year && year ≤ 262142

/-- The instant at which clocks that run `offset` seconds ahead of UTC show the given date and
    time, if there are such a date, time and offset. -/
def ofLocal? (date : CivilDate) (clock : ClockTime) (offset : Int) : Option Instant :=
  if date.isValid && yearInRange date.year && clock.hour < 24 && clock.minute < 60
      && clock.second ≤ 60 && -86400 < offset && offset < 86400 then
    let secondOfDay := clock.hour * 3600 + clock.minute * 60 + min clock.second 59
    let leap := if clock.second = 60 then 1000000000 else 0
    ofParts? (date.dayNumber * 86400 + secondOfDay - offset) (clock.nanos + leap)
  else
    none

theorem le_refl (t : Instant) : t.le t = true := by
  simp [le]

theorem le_total (a b : Instant) : (a.le b || b.le a) = true := by
  simp only [le, Bool.or_eq_true, Bool.and_eq_true, decide_eq_true_eq, beq_iff_eq]
  omega

theorem le_trans {a b c : Instant} (hab : a.le b = true) (hbc : b.le c = true) :
    a.le c = true := by
  simp only [le, Bool.or_eq_true, Bool.and_eq_true, decide_eq_true_eq, beq_iff_eq] at *
  omega

end Instant

end LinkCatalog
