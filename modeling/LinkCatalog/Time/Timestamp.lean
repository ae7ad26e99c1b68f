import LinkCatalog.Text.Scan
import LinkCatalog.Time.Instant

/-!
# Time stamps

The text of instants in documents: `2023-11-14T22:13:20.250Z`.

Writing is in UTC, with as few of 0, 3, 6 or 9 decimal places as show the instant exactly. Reading
is more generous: it takes any offset from UTC, white space between the parts, a space in place of
the `T`, and numbers without leading zeros.

## Main definitions

- `Instant.toText`, `Instant.toMicrosText` — the time stamp of an instant
- `Timestamp.read?` — the instant of a time stamp
- `Timestamp.yearText` — years, with a sign outside 0 to 9999
-/

namespace LinkCatalog

namespace Timestamp

/-- The digits of a year or of its distance from the year 0: four, five or six. -/
def yearDigits (n : Nat) : List Char :=
  Digits.decimal (if n < 10000 then 4 else if n < 100000 then 5 else 6) n

/-- A year of at least four digits, with a sign where it lies outside 0 to 9999. -/
def yearText (year : Int) : List Char :=
  if year < 0 then '-' :: yearDigits year.natAbs
  else if year < 10000 then yearDigits year.toNat
  else '+' :: yearDigits year.toNat

/-- The decimal places of a second: none, or the fewest of 3, 6 and 9 that are exact. -/
def fractionText (nanos : Nat) : List Char :=
  if nanos = 0 then []
  else if nanos % 1000000 = 0 then '.' :: Digits.decimal 3 (nanos / 1000000)
  else if nanos % 1000 = 0 then '.' :: Digits.decimal 6 (nanos / 1000)
  else '.' :: Digits.decimal 9 nanos

/-- The characters of a date: year, month and day, separated by hyphens. -/
def dateText (date : CivilDate) : List Char :=
  yearText date.year ++ '-' :: Digits.decimal 2 date.month ++ '-' :: Digits.decimal 2 date.day

/-- The characters of a time of day: hour, minute and second, separated by colons. -/
def clockText (clock : ClockTime) : List Char :=
  Digits.decimal 2 clock.hour ++ ':' :: Digits.decimal 2 clock.minute ++ ':' ::
    Digits.decimal 2 clock.second

/-- The characters of the time stamp of an instant. -/
def chars (t : Instant) : List Char :=
  dateText t.date ++ 'T' :: clockText t.clock ++ fractionText t.clock.nanos ++ ['Z']

open Scan

/-- A year: up to four digits, or a sign and any number of digits. -/
def year : Scan Int := do
  blanks
  match ← optional (satisfying fun c => c == '-' || c == '+') with
  | some '-' => return -(← numberAtLeast 1)
  | some _ => return (← numberAtLeast 1)
  | none => return (← number 1 4)

/-- A number of one or two digits, after white space. -/
def twoDigits : Scan Nat := do
  blanks
  number 1 2

/-- A separator, after white space. -/
def separator (c : Char) : Scan Unit := do
  blanks
  char c

/-- Year, month and day, separated by hyphens. -/
def date : Scan CivilDate := do
  let year ← year
  separator '-'
  let month ← twoDigits
  separator '-'
  let day ← twoDigits
  return { year, month, day }

/-- The nanoseconds that decimal places stand for; places after the ninth are dropped. -/
def fraction : Scan Nat := do
  match ← optional (char '.') with
  | none => return 0
  | some () =>
    let places ← takeWhile Char.isDigit
    guard (places ≠ [])
    return Digits.ofDecimal ((places ++ List.replicate 9 '0').take 9)

/-- Hour, minute and second, separated by colons, and decimal places. -/
def clock : Scan ClockTime := do
  let hour ← twoDigits
  separator ':'
  let minute ← twoDigits
  separator ':'
  let second ← twoDigits
  let nanos ← fraction
  return { hour, minute, second, nanos }

/-- The sign of an offset: -1 or 1. A minus sign may be a hyphen or the character U+2212. -/
def sign : Scan Int := do
  match ← satisfying (fun c => c == '+' || c == '-' || c == '\u2212') with
  | '+' => return 1
  | _ => return -1

/-- Hours and minutes of an offset, each of two digits, in seconds. -/
def offsetLength (between : Scan Unit) : Scan Nat := do
  let hours ← number 2 2
  between
  let minutes ← number 2 2
  guard (minutes < 60)
  return hours * 3600 + minutes * 60

/-- The letters `UTC` in any case. -/
def utcName : Scan Unit := do
  let _ ← satisfying (fun c => c.toLower == 'u')
  let _ ← satisfying (fun c => c.toLower == 't')
  let _ ← satisfying (fun c => c.toLower == 'c')

/-- An offset from UTC in seconds: `UTC`, `Z`, or a sign, hours and minutes, which colons or white
    space may separate. -/
def offset : Scan Int := do
  match ← optional utcName with
  | some () => return 0
  | none =>
    match ← optional (satisfying fun c => c == 'Z' || c == 'z') with
    | some _ => return 0
    | none =>
      let sign ← sign
      let length ← offsetLength do
        let _ ← takeWhile fun c => c == ':' || Text.isBlank c
      return sign * length

/-- The instant of a time stamp; white space may stand at both ends. -/
def instant : Scan Instant := do
  let date ← date
  let _ ← satisfying fun c => c == 'T' || c == 't' || c == ' '
  let clock ← clock
  blanks
  let offset ← offset
  blanks
  Instant.ofLocal? date clock offset

/-- Reads a time stamp. -/
def read? (text : String) : Option Instant :=
  instant.whole text

end Timestamp

/-- The time stamp of an instant with six decimal places, in UTC. -/
def Instant.toMicrosText (t : Instant) : String :=
  String.ofList (Timestamp.dateText t.date ++ 'T' :: Timestamp.clockText t.clock ++
    '.' :: Digits.decimal 6 (t.clock.nanos / 1000) ++ ['Z'])

/-- The time stamp of an instant, in UTC. -/
def Instant.toText (t : Instant) : String :=
  String.ofList (Timestamp.chars t)

end LinkCatalog
