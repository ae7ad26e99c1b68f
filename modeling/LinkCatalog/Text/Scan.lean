import LinkCatalog.Text.Blank
import LinkCatalog.Text.Digits

/-!
# Scanning text

A scanner takes characters from the front of a text and returns what it read together with the
rest, or fails. Scanners are sequenced with `do`.

## Main definitions

- `Scan` — readers over the remaining characters
- `Scan.whole` — a scanner that must use up its text
- `Scan.number`, `Scan.numberAtLeast` — decimal digits
- `Scan.blanks`, `Scan.someBlanks` — white space
-/

namespace LinkCatalog

/-- A reader that takes characters from the front of a text. -/
abbrev Scan := StateT (List Char) Option

namespace Scan

/-- Runs a scanner that must use up the whole text. -/
def whole (scan : Scan α) (text : String) : Option α :=
  match scan.run text.toList with
  | some (a, []) => some a
  | _ => none

/-- Takes one character that satisfies the test. -/
def satisfying (test : Char → Bool) : Scan Char
  | [] => none
  | c :: rest => if test c then some (c, rest) else none

/-- Takes exactly the given character. -/
def char (c : Char) : Scan Unit := do
  let _ ← satisfying (· == c)

/-- Skips white space, if there is any. -/
def blanks : Scan Unit
  | cs => some ((), Text.trimStart cs)

/-- Skips white space, of which there must be some. -/
def someBlanks : Scan Unit := do
  let _ ← satisfying Text.isBlank
  blanks

/-- Takes all characters in front that satisfy the test. -/
def takeWhile (test : Char → Bool) : Scan (List Char)
  | cs => some (cs.takeWhile test, cs.dropWhile test)

/-- Reads at least `least` and at most `most` decimal digits; further digits stay in the text. -/
def number (least most : Nat) : Scan Nat
  | cs =>
    let digits := (cs.take most).takeWhile Char.isDigit
    if digits.length < least then none
    else some (Digits.ofDecimal digits, cs.drop digits.length)

/-- Reads at least `least` decimal digits, as many as there are. -/
def numberAtLeast (least : Nat) : Scan Nat
  | cs => number least cs.length cs

end Scan

end LinkCatalog
