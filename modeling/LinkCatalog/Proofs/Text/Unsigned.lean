import Mathlib.Data.List.Induction
import Mathlib.Data.Nat.Digits.Defs
import LinkCatalog.Text.Digits

/-!
# Unsigned numbers as texts

Which texts are read as numbers, and as which: one or more decimal digits, perhaps after one plus
sign, with the place value of their digits. Zeros in front do not matter, and neither does the sign.

## Main definitions

- `Digits.IsUnsigned` — a text stands for a number within a bound

## Main statements

- `Digits.unsigned?_eq_some_iff`, `Digits.unsigned?_eq_none_iff` — what is read, and what is not
- `Digits.IsUnsigned.unique` — a text stands for one number at most
-/

namespace LinkCatalog.Digits

variable {bound n : ℕ} {text : String}

/-- The text is one or more decimal digits, perhaps after a plus sign, and their place value is a
    number within the bound. -/
def IsUnsigned (bound : ℕ) (text : String) (n : ℕ) : Prop :=
  ∃ digits : List Char, (text.toList = digits ∨ text.toList = '+' :: digits) ∧ digits ≠ [] ∧
    (∀ c ∈ digits, '0' ≤ c ∧ c ≤ '9') ∧
    n = Nat.ofDigits 10 (digits.reverse.map decimalValue) ∧ n ≤ bound

theorem isDigit_iff {c : Char} : c.isDigit = true ↔ '0' ≤ c ∧ c ≤ '9' := by
  simp [Char.isDigit, Char.le_def]

theorem value_eq_ofDigits (digits : List ℕ) : value 10 digits = Nat.ofDigits 10 digits.reverse := by
  induction digits using List.reverseRecOn with
  | nil => rfl
  | append_singleton digits digit ih =>
    rw [value_append_singleton, ih, List.reverse_append, List.reverse_singleton,
      List.singleton_append, Nat.ofDigits_cons]
    omega

theorem ofDecimal_eq_ofDigits (cs : List Char) :
    ofDecimal cs = Nat.ofDigits 10 (cs.reverse.map decimalValue) := by
  rw [ofDecimal, value_eq_ofDigits, List.map_reverse]

/-- Reads decimal digits without sign. -/
def plain? (bound : ℕ) (digits : List Char) : Option ℕ :=
  if digits ≠ [] ∧ digits.all Char.isDigit ∧ ofDecimal digits ≤ bound then
    some (ofDecimal digits)
  else
    none

theorem plain?_eq_some_iff {digits : List Char} :
    plain? bound digits = some n ↔ digits ≠ [] ∧ (∀ c ∈ digits, '0' ≤ c ∧ c ≤ '9') ∧
      n = Nat.ofDigits 10 (digits.reverse.map decimalValue) ∧ n ≤ bound := by
  simp only [plain?, Option.ite_none_right_eq_some, Option.some.injEq, List.all_eq_true,
    isDigit_iff, ← ofDecimal_eq_ofDigits]
  constructor
  · rintro ⟨⟨hne, hall, hle⟩, rfl⟩
    exact ⟨hne, hall, rfl, hle⟩
  · rintro ⟨hne, hall, rfl, hle⟩
    exact ⟨⟨hne, hall, hle⟩, rfl⟩

/-- A plus sign in front is passed over. -/
theorem unsigned?_plus (digits : List Char) :
    unsigned? bound ('+' :: digits) = plain? bound digits := rfl

theorem unsigned?_of_ne_plus {digits : List Char} (h : ∀ rest, digits ≠ '+' :: rest) :
    unsigned? bound digits = plain? bound digits := by
  cases digits with
  | nil => rfl
  | cons c rest => simp [unsigned?, plain?]

/-- A number is read if and only if the text stands for it. -/
theorem unsigned?_eq_some_iff :
    unsigned? bound text.toList = some n ↔ IsUnsigned bound text n := by
  constructor
  · intro h
    by_cases hplus : ∃ rest, text.toList = '+' :: rest
    · obtain ⟨rest, htext⟩ := hplus
      rw [htext, unsigned?_plus, plain?_eq_some_iff] at h
      exact ⟨rest, .inr htext, h⟩
    · rw [unsigned?_of_ne_plus (not_exists.1 hplus), plain?_eq_some_iff] at h
      exact ⟨text.toList, .inl rfl, h⟩
  · rintro ⟨digits, htext | htext, h⟩
    · have hne : ∀ rest, digits ≠ '+' :: rest := by
        rintro rest rfl
        exact absurd (h.2.1 '+' List.mem_cons_self) (by decide)
      rw [htext, unsigned?_of_ne_plus hne, plain?_eq_some_iff]
      exact h
    · rw [htext, unsigned?_plus, plain?_eq_some_iff]
      exact h

theorem unsigned?_eq_none_iff :
    unsigned? bound text.toList = none ↔ ∀ n, ¬ IsUnsigned bound text n := by
  rw [Option.eq_none_iff_forall_ne_some]
  exact forall_congr' fun n => not_congr unsigned?_eq_some_iff

/-- A text stands for one number at most. -/
theorem IsUnsigned.unique {m : ℕ} (hn : IsUnsigned bound text n) (hm : IsUnsigned bound text m) :
    n = m :=
  Option.some.inj ((unsigned?_eq_some_iff.2 hn).symm.trans (unsigned?_eq_some_iff.2 hm))

end LinkCatalog.Digits
