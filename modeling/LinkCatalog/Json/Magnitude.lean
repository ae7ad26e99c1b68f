import LinkCatalog.Text.Digits

/-!
# The range of numbers

A number without fraction and exponent that fits 64 bits is kept as it is. Any other number is held
to the range of binary floating point with 53 digits, so a text with a larger number cannot be read.

## Main definitions

- `Json.Magnitude` — the decimal number that is compared with the range
- `Json.Magnitude.ofDigits` — the digits that count
- `Json.nearestDouble` — rounding to 53 binary digits
- `Json.Magnitude.isInRange` — whether a number lies within the range

## Main statements

- `Json.exists_append_extendSignificand`, `Json.extendSignificand_lt` — digits are taken from the
  front, and fit
- `Json.nearestDouble_of_log2_lt` — numbers of up to 53 binary digits are kept
-/

namespace LinkCatalog.Json

/-- The number `significand * 10 ^ exponent`. -/
structure Magnitude where
  significand : Nat
  exponent : Int
deriving DecidableEq, Repr

/-- Appends digits to a significand as long as it fits 64 bits. The digits from the first one on
    that does not fit are returned with it. -/
def extendSignificand (significand : Nat) : List Char → Nat × List Char
  | [] => (significand, [])
  | digit :: digits =>
    let extended := significand * 10 + Digits.decimalValue digit
    if extended < UInt64.size then extendSignificand extended digits
    else (significand, digit :: digits)

/-- The magnitude of a number. Digits before the point that do not fit count as zeros, and digits
    behind it are left out from the first one on that does not fit. -/
def Magnitude.ofDigits (whole fraction : List Char) (exponent : Int) : Magnitude :=
  let (significand, zeros) := extendSignificand 0 whole
  let (significand, omitted) := extendSignificand significand fraction
  { significand
    exponent := exponent + zeros.length - (fraction.length - omitted.length : Nat) }

/-- The nearest number with at most 53 binary digits before its trailing zeros; of two that are
    equally near, the even one. -/
def nearestDouble (n : Nat) : Nat :=
  let unit := Nat.pow 2 (Nat.log2 n + 1 - 53)
  let quotient := n / unit
  let twice := 2 * (n % unit)
  if unit < twice ∨ (unit = twice ∧ quotient % 2 = 1) then (quotient + 1) * unit
  else quotient * unit

/-- The least number that is rounded beyond the range: halfway between the largest double and the
    power of two behind it. -/
def outOfRange : Nat := Nat.pow 2 1024 - Nat.pow 2 970

/-- Whether a magnitude lies within the range, after rounding of its significand, of the power of
    ten, and of their product. -/
def Magnitude.isInRange (magnitude : Magnitude) : Bool :=
  match magnitude.exponent with
  | .negSucc _ => true
  | .ofNat exponent =>
    magnitude.significand == 0 ||
      exponent ≤ 308 &&
        nearestDouble magnitude.significand * nearestDouble (Nat.pow 10 exponent) < outOfRange

/-- The digits that are returned are the last ones. -/
theorem exists_append_extendSignificand (significand : Nat) (digits : List Char) :
    ∃ taken, taken ++ (extendSignificand significand digits).2 = digits := by
  induction digits generalizing significand with
  | nil => exact ⟨[], rfl⟩
  | cons digit digits ih =>
    rw [extendSignificand]
    split
    · obtain ⟨taken, h⟩ := ih (significand * 10 + Digits.decimalValue digit)
      exact ⟨digit :: taken, by rw [List.cons_append, h]⟩
    · exact ⟨[], rfl⟩

/-- A significand that fits 64 bits still does when digits have been appended. -/
theorem extendSignificand_lt {significand : Nat} (digits : List Char)
    (h : significand < UInt64.size) : (extendSignificand significand digits).1 < UInt64.size := by
  induction digits generalizing significand with
  | nil => exact h
  | cons digit digits ih =>
    rw [extendSignificand]
    split
    · next hfits => exact ih hfits
    · exact h

/-- Numbers of up to 53 binary digits are kept. -/
theorem nearestDouble_of_log2_lt {n : Nat} (h : Nat.log2 n < 53) : nearestDouble n = n := by
  have hshift : Nat.log2 n + 1 - 53 = 0 := by omega
  simp [nearestDouble, hshift, Nat.mod_one]

end LinkCatalog.Json
