import LinkCatalog.Time.Timestamp

/-!
# Dates in header fields

The text of instants in header fields: `Tue, 14 Nov 2023 22:13:20 GMT`.

Writing gives exactly that form and drops fractions of a second. Reading takes the dates of mail
messages: the day of the week may be missing, names may be in any case, years may be short, zones
may have names or be given as an offset, and comments in parentheses may follow.

## Main definitions

- `MailDate.toText` — the date of an instant
- `MailDate.read?` — the instant of a date
- `MailDate.zone` — names of zones and offsets
- `MailDate.CommentState`, `MailDate.isTrailer` — nested comments after the zone
-/

namespace LinkCatalog.MailDate

/-- The names of the days of the week, from Sunday on. -/
def weekdayNames : List String :=
  ["Sun", "Mon", "Tue", "Wed", "Thu", "Fri", "Sat"]

/-- The names of the months, from January on. -/
def monthNames : List String :=
  ["Jan", "Feb", "Mar", "Apr", "May", "Jun", "Jul", "Aug", "Sep", "Oct", "Nov", "Dec"]

/-- The characters of the name at a position of a list of names. -/
def nameAt (names : List String) (index : Nat) : List Char :=
  (names.getD index "").toList

/-- The characters of the date of an instant. -/
def chars (t : Instant) : List Char :=
  nameAt weekdayNames (weekday t.dayNumber) ++ ',' :: ' ' ::
    Digits.decimal 2 t.date.day ++ ' ' :: nameAt monthNames (t.date.month - 1) ++ ' ' ::
    Timestamp.yearText t.date.year ++ ' ' :: Timestamp.clockText t.clock ++ " GMT".toList

/-- The date of an instant, in UTC and whole seconds. -/
def toText (t : Instant) : String :=
  String.ofList (chars t)

open Scan

/-- A name of three letters in any case, as its position in the list of names. -/
def name (names : List String) : Scan Nat := do
  let a ← satisfying fun _ => true
  let b ← satisfying fun _ => true
  let c ← satisfying fun _ => true
  let lower := [a.toLower, b.toLower, c.toLower]
  names.findIdx? fun n => n.toList.map Char.toLower == lower

/-- The day of the week, if the date starts with one; a comma must follow it. -/
def leadingWeekday : Scan (Option Nat) := do
  match ← optional (name weekdayNames) with
  | none => return none
  | some day =>
    char ','
    return some day

/-- A year of at least two digits. Two digits stand for the years 1950 to 2049, three digits count
    from 1900. -/
def year : Scan Nat := fun cs => do
  let (n, rest) ← numberAtLeast 2 cs
  match cs.length - rest.length with
  | 2 => some (if n < 50 then n + 2000 else n + 1900, rest)
  | 3 => some (n + 1900, rest)
  | _ => some (n, rest)

/-- Hour and minute, and a second where a second colon follows. White space may surround the first
    colon and precede the second. -/
def clock : Scan ClockTime := do
  let hour ← number 2 2
  blanks
  char ':'
  blanks
  let minute ← number 2 2
  match ← optional (do blanks; char ':') with
  | none => return { hour, minute, second := 0, nanos := 0 }
  | some () => return { hour, minute, second := ← number 2 2, nanos := 0 }

/-- The offset of a named zone in hours. Single letters but J stand for UTC. -/
def zoneHours? (letters : List Char) : Option Int :=
  match String.ofList (letters.map Char.toLower) with
  | "gmt" | "ut" | "z" => some 0
  | "edt" => some (-4)
  | "est" | "cdt" => some (-5)
  | "cst" | "mdt" => some (-6)
  | "mst" | "pdt" => some (-7)
  | "pst" => some (-8)
  | "j" => none
  | _ => if letters.length = 1 then some 0 else none

/-- A zone: a name, or a sign, hours and minutes; in seconds ahead of UTC. -/
def zone : Scan Int := do
  match ← takeWhile Char.isAlpha with
  | [] =>
    let sign ← satisfying fun c => c == '+' || c == '-'
    let length ← Timestamp.offsetLength (pure ())
    return if sign = '-' then -length else length
  | letters => return (← zoneHours? letters) * 3600

/-- Where a text stands relative to comments: between them, after white space that a comment has to
    follow, inside nested comments, or after a backslash in them. -/
inductive CommentState where
  | outside
  | gap
  | inside (depth : Nat)
  | escaped (depth : Nat)

/-- Whether a text consists of comments only, each with white space in front of it or none. A
    backslash in a comment hides the character after it. -/
def isTrailer : CommentState → List Char → Bool
  | .outside, [] => true
  | _, [] => false
  | .outside, c :: cs | .gap, c :: cs =>
    if c = '(' then isTrailer (.inside 0) cs
    else Text.isBlank c && isTrailer .gap cs
  | .inside depth, c :: cs =>
    if c = '\\' then isTrailer (.escaped depth) cs
    else if c = '(' then isTrailer (.inside (depth + 1)) cs
    else if c = ')' then
      match depth with
      | 0 => isTrailer .outside cs
      | depth + 1 => isTrailer (.inside depth) cs
    else isTrailer (.inside depth) cs
  | .escaped depth, _ :: cs => isTrailer (.inside depth) cs

/-- A date, a time of day and a zone, followed by comments only. A day of the week must be that of
    the date. -/
def instant : Scan Instant := do
  blanks
  let day? ← leadingWeekday
  blanks
  let day ← number 1 2
  someBlanks
  let month := (← name monthNames) + 1
  someBlanks
  let year ← year
  someBlanks
  let clock ← clock
  someBlanks
  let zone ← zone
  let rest ← takeWhile fun _ => true
  guard (isTrailer .outside rest)
  let date : CivilDate := { year, month, day }
  guard (day?.all (· == weekday date.dayNumber))
  Instant.ofLocal? date clock zone

/-- Reads the date of a header field or a mail message. -/
def read? (text : String) : Option Instant :=
  instant.whole text

end LinkCatalog.MailDate
