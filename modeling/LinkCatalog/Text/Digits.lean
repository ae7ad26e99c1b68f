/-!
# Digits

Numbers as sequences of digits of a fixed width, and the reading of unsigned decimal text.

## Main definitions

- `Digits.fixed` — the last `width` digits of a number, most significant first
- `Digits.value` — the number that a sequence of digits stands for
- `Digits.decimal`, `Digits.hex` — fixed width digits as characters
- `Digits.unsigned?` — an optional plus sign and decimal digits, up to a bound
-/

namespace LinkCatalog.Digits

/-- The last `width` digits of `n` in the given base, most significant digit first. -/
def fixed (base : Nat) : (width n : Nat) → List Nat
  | 0, _ => []
  | width + 1, n => fixed base width (n / base) ++ [n % base]

/-- The number that a sequence of digits stands for, most significant digit first. -/
def value (base : Nat) (digits : List Nat) : Nat :=
  digits.foldl (fun total digit => total * base + digit) 0

/-- The last `width` decimal digits of `n` as characters. -/
def decimal (width n : Nat) : List Char :=
  (fixed 10 width n).map Nat.digitChar

/-- The last `width` hexadecimal digits of `n` as characters, in lower case. -/
def hex (width n : Nat) : List Char :=
  (fixed 16 width n).map Nat.digitChar

/-- The value of a decimal digit. -/
def decimalValue (c : Char) : Nat :=
  c.toNat - '0'.toNat

/-- The value of a hexadecimal digit of either case. -/
def hexValue? (c : Char) : Option Nat :=
  if c.isDigit then some (c.toNat - '0'.toNat)
  else if 'a' ≤ c ∧ c ≤ 'f' then some (c.toNat - 'a'.toNat + 10)
  else if 'A' ≤ c ∧ c ≤ 'F' then some (c.toNat - 'A'.toNat + 10)
  else none

/-- The number written by decimal digits. -/
def ofDecimal (cs : List Char) : Nat :=
  value 10 (cs.map decimalValue)

/-- The number written by hexadecimal digits, if all characters are such digits. -/
def ofHex? (cs : List Char) : Option Nat :=
  (cs.mapM hexValue?).map (value 16)

/-- Reads an optional plus sign followed by one or more decimal digits whose value is at most
    `bound`. -/
def unsigned? (bound : Nat) (cs : List Char) : Option Nat :=
  let digits := match cs with
    | '+' :: rest => rest
    | _ => cs
  if digits ≠ [] ∧ digits.all Char.isDigit ∧ ofDecimal digits ≤ bound then
    some (ofDecimal digits)
  else
    none

/-- The largest number of 64 bits. -/
def maxUnsigned64 : Nat := UInt64.size - 1

-- ════════════════════════════════════════════════════════════════════════
-- Fixed width digits determine the number
-- ════════════════════════════════════════════════════════════════════════

@[simp] theorem length_fixed (base width n : Nat) : (fixed base width n).length = width := by
  induction width generalizing n with
  | zero => rfl
  | succ width ih => simp [fixed, ih]

theorem value_append_singleton (base digit : Nat) (digits : List Nat) :
    value base (digits ++ [digit]) = value base digits * base + digit := by
  simp [value]

/-- Reading fixed width digits gives the number back, up to the digits that were left out. -/
theorem value_fixed (base width n : Nat) :
    value base (fixed base width n) = n % Nat.pow base width := by
  induction width generalizing n with
  | zero => exact (Nat.mod_one n).symm
  | succ width ih =>
    rw [fixed, value_append_singleton, ih]
    have hpow : Nat.pow base (width + 1) = base * Nat.pow base width := Nat.mul_comm _ _
    rw [hpow, Nat.mod_mul, Nat.mul_comm base, Nat.add_comm]

theorem lt_of_mem_fixed {base width n digit : Nat} (hbase : 0 < base)
    (h : digit ∈ fixed base width n) : digit < base := by
  induction width generalizing n with
  | zero => simp [fixed] at h
  | succ width ih =>
    rcases List.mem_append.1 h with h | h
    · exact ih h
    · rw [List.mem_singleton.1 h]
      exact Nat.mod_lt _ hbase

@[simp] theorem length_decimal (width n : Nat) : (decimal width n).length = width := by
  simp [decimal]

@[simp] theorem length_hex (width n : Nat) : (hex width n).length = width := by
  simp [hex]

end LinkCatalog.Digits
