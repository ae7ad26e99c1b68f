import LinkCatalog.Text.Scan

/-!
# What scanners take

A scanner that reads a written text takes exactly the characters of one part, whatever is left for
the scanners after it. Where a part has no fixed length, the first character of the rest has to show
that the part is over.

## Main definitions

- `Scan.Takes` — a scanner takes some characters and reads them as a value
- `Scan.StartsWithout` — the rest of a text does not go on with a kind of character

## Main statements

- `Scan.Takes.bind` — scanners in sequence take parts in sequence
- `Scan.takes_number`, `Scan.takes_numberAtLeast` — digits of fixed width
- `Scan.takes_takeWhile` — characters of one kind, as many as there are
- `Scan.whole_of_takes` — a scanner that takes a whole text
-/

namespace LinkCatalog

/-- Reading fixed width digits as a decimal number gives the number back. -/
theorem Digits.ofDecimal_decimal {width n : Nat} (h : n < Nat.pow 10 width) :
    ofDecimal (decimal width n) = n := by
  have hdigits : ∀ digit < 10, decimalValue (Nat.digitChar digit) = digit := by decide
  have hmap : (decimal width n).map decimalValue = fixed 10 width n := by
    rw [decimal, List.map_map]
    refine (List.map_congr_left fun digit hdigit => ?_).trans (List.map_id _)
    exact hdigits digit (lt_of_mem_fixed (by decide) hdigit)
  rw [ofDecimal, hmap, value_fixed, Nat.mod_eq_of_lt h]

theorem Digits.isBlank_of_mem_decimal {width n : Nat} {c : Char} (h : c ∈ decimal width n) :
    Text.isBlank c = false := by
  have hdigits : ∀ digit < 10, Text.isBlank (Nat.digitChar digit) = false := by decide
  obtain ⟨digit, hdigit, rfl⟩ := List.mem_map.1 h
  exact hdigits digit (lt_of_mem_fixed (by decide) hdigit)

theorem Digits.isDigit_of_mem_decimal {width n : Nat} {c : Char} (h : c ∈ decimal width n) :
    c.isDigit = true := by
  have hdigits : ∀ digit < 10, (Nat.digitChar digit).isDigit = true := by decide
  obtain ⟨digit, hdigit, rfl⟩ := List.mem_map.1 h
  exact hdigits digit (lt_of_mem_fixed (by decide) hdigit)

namespace Scan

variable {α β : Type} {taken rest : List Char} {value : α}

/-- In front of the rest of a text, the scanner takes some characters and reads them as a value. -/
def Takes (scan : Scan α) (taken rest : List Char) (value : α) : Prop :=
  scan.run (taken ++ rest) = some (value, rest)

/-- The text is over, or goes on with a character of another kind. -/
def StartsWithout (test : Char → Bool) (rest : List Char) : Prop :=
  ∀ c ∈ rest.head?, test c = false

theorem startsWithout_cons {test : Char → Bool} {c : Char} (h : test c = false)
    (rest : List Char) : StartsWithout test (c :: rest) := by
  intro other hother
  rw [← Option.some.inj hother]
  exact h

/-- Digits in front of a rest are visible. -/
theorem startsWithout_decimal {width n : Nat} (hwidth : 0 < width) (rest : List Char) :
    StartsWithout Text.isBlank (Digits.decimal width n ++ rest) := by
  cases hdigits : Digits.decimal width n with
  | nil =>
    have hlength := Digits.length_decimal width n
    rw [hdigits, List.length_nil] at hlength
    omega
  | cons c digits =>
    have hc : c ∈ Digits.decimal width n := by rw [hdigits]; exact List.mem_cons_self
    exact startsWithout_cons (Digits.isBlank_of_mem_decimal hc) _

namespace Takes

theorem bind {first : Scan α} {next : α → Scan β} {before after : List Char} {middle : α}
    {value : β} (hfirst : first.Takes before (after ++ rest) middle)
    (hnext : (next middle).Takes after rest value) :
    (first >>= next).Takes (before ++ after) rest value := by
  unfold Takes at hfirst hnext ⊢
  rw [List.append_assoc, StateT.run_bind, hfirst]
  exact hnext

/-- A scanner that takes nothing in front of another one. -/
theorem bind_nil {first : Scan α} {next : α → Scan β} {middle : α} {value : β}
    (hfirst : first.Takes [] (taken ++ rest) middle)
    (hnext : (next middle).Takes taken rest value) :
    (first >>= next).Takes taken rest value :=
  hfirst.bind hnext

/-- A scanner that takes a single character in front of another one. -/
theorem bind_cons {first : Scan α} {next : α → Scan β} {c : Char} {middle : α} {value : β}
    (hfirst : first.Takes [c] (taken ++ rest) middle)
    (hnext : (next middle).Takes taken rest value) :
    (first >>= next).Takes (c :: taken) rest value :=
  hfirst.bind hnext

/-- A scanner that takes nothing after another one. -/
theorem bind_last {first : Scan α} {next : α → Scan β} {middle : α} {value : β}
    (hfirst : first.Takes taken rest middle) (hnext : (next middle).Takes [] rest value) :
    (first >>= next).Takes taken rest value := by
  have h := Takes.bind hfirst hnext
  rwa [List.append_nil] at h

/-- A scanner that returns right after another one. -/
theorem andReturn {first : Scan α} (h : first.Takes taken rest value) (result : α → β) :
    (first >>= fun given => pure (result given)).Takes taken rest (result value) := by
  unfold Takes at h ⊢
  rw [StateT.run_bind, h]
  rfl

theorem map {scan : Scan α} (h : scan.Takes taken rest value) (change : α → β) :
    (change <$> scan).Takes taken rest (change value) := by
  unfold Takes at h ⊢
  rw [StateT.run_map, h]
  rfl

theorem optional {scan : Scan α} (h : scan.Takes taken rest value) :
    (optional scan).Takes taken rest (some value) := by
  have hmap := h.map some
  unfold Takes at hmap ⊢
  change ((some <$> scan).run (taken ++ rest)).orElse _ = _
  rw [hmap]
  rfl

end Takes

theorem takes_satisfying {test : Char → Bool} {c : Char} (h : test c = true) (rest : List Char) :
    (satisfying test).Takes [c] rest c := by
  show (if test c then some (c, rest) else none) = some (c, rest)
  rw [if_pos h]

theorem takes_char (c : Char) (rest : List Char) : (char c).Takes [c] rest () := by
  have hc : (c == c) = true := beq_self_eq_true c
  exact (takes_satisfying hc rest).andReturn fun _ => ()

theorem takes_blanks (h : StartsWithout Text.isBlank rest) : blanks.Takes [] rest () := by
  cases rest with
  | nil => rfl
  | cons c rest =>
    show some ((), Text.trimStart (c :: rest)) = some ((), c :: rest)
    rw [Text.trimStart_cons_of_not_isBlank rest (h c rfl)]

theorem takes_blanks_space (h : StartsWithout Text.isBlank rest) :
    blanks.Takes [' '] rest () := by
  have hspace : Text.isBlank ' ' = true := by decide
  have hrest : Text.trimStart rest = rest := congrArg Prod.snd (Option.some.inj (takes_blanks h))
  show some ((), Text.trimStart (' ' :: rest)) = some ((), rest)
  rw [Text.trimStart, List.dropWhile_cons_of_pos hspace, ← Text.trimStart, hrest]

theorem takes_someBlanks (h : StartsWithout Text.isBlank rest) :
    someBlanks.Takes [' '] rest () := by
  have hspace : Text.isBlank ' ' = true := by decide
  exact Takes.bind (takes_satisfying hspace ([] ++ rest)) (takes_blanks h)

/-- Digits of a fixed width are read as the number that they stand for, if no more digits may be
    read, or no more follow. -/
theorem takes_number {least most width n : Nat} (hn : n < Nat.pow 10 width) (hleast : least ≤ width)
    (hmost : width ≤ most) (hrest : width = most ∨ StartsWithout Char.isDigit rest) :
    (number least most).Takes (Digits.decimal width n) rest n := by
  have hdigits : ∀ c ∈ Digits.decimal width n, c.isDigit = true :=
    fun c => Digits.isDigit_of_mem_decimal
  have hlength : (Digits.decimal width n).length = width := Digits.length_decimal width n
  have htake : ((Digits.decimal width n ++ rest).take most).takeWhile Char.isDigit =
      Digits.decimal width n := by
    rw [List.take_append, hlength, List.take_of_length_le (by omega),
      List.takeWhile_append_of_pos hdigits]
    rcases hrest with rfl | hrest
    · simp
    · cases rest with
      | nil => simp
      | cons c rest =>
        have hc : c.isDigit = false := hrest c rfl
        cases most - width <;> simp [hc]
  unfold Takes number
  simp only [StateT.run, htake, hlength, if_neg (Nat.not_lt.2 hleast)]
  rw [Digits.ofDecimal_decimal hn, List.drop_left' hlength]

theorem takes_numberAtLeast {least width n : Nat} (hn : n < Nat.pow 10 width)
    (hleast : least ≤ width) (hrest : StartsWithout Char.isDigit rest) :
    (numberAtLeast least).Takes (Digits.decimal width n) rest n := by
  have hmost : width ≤ (Digits.decimal width n ++ rest).length := by simp
  exact takes_number hn hleast hmost (.inr hrest)

theorem takes_guard {condition : Prop} [Decidable condition] (h : condition) (rest : List Char) :
    (guard condition : Scan Unit).Takes [] rest () := by
  have hguard : (guard condition : Scan Unit) = pure () := if_pos h
  rw [hguard]
  rfl

theorem takes_optional_none {α : Type} {scan : Scan α} {rest : List Char}
    (h : scan.run rest = none) : (optional scan).Takes [] rest none := by
  have hmap : (some <$> scan).run rest = none := by
    rw [StateT.run_map, h]
    rfl
  unfold Takes
  change ((some <$> scan).run rest).orElse _ = _
  rw [hmap]
  rfl

theorem run_satisfying_of_startsWithout {test : Char → Bool} {rest : List Char}
    (h : StartsWithout test rest) : (satisfying test).run rest = none := by
  cases rest with
  | nil => rfl
  | cons c rest =>
    have hc : ¬ test c = true := Bool.not_eq_true _ ▸ h c rfl
    exact if_neg hc

theorem run_char_of_startsWithout {c : Char} {rest : List Char}
    (h : StartsWithout (· == c) rest) : (char c).run rest = none := by
  rw [char, StateT.run_bind, run_satisfying_of_startsWithout h]
  rfl

theorem takes_takeWhile {test : Char → Bool} {taken rest : List Char}
    (htaken : ∀ c ∈ taken, test c = true) (hrest : StartsWithout test rest) :
    (takeWhile test).Takes taken rest taken := by
  have hnone : rest.takeWhile test = [] ∧ rest.dropWhile test = rest := by
    cases rest with
    | nil => exact ⟨rfl, rfl⟩
    | cons c rest =>
      have hc : test c = false := hrest c rfl
      simp [hc]
  show some ((taken ++ rest).takeWhile test, (taken ++ rest).dropWhile test) = _
  rw [List.takeWhile_append_of_pos htaken, List.dropWhile_append_of_pos htaken, hnone.1, hnone.2,
    List.append_nil]

theorem takes_liftM (value : α) (rest : List Char) :
    (liftM (some value) : Scan α).Takes [] rest value := rfl

theorem whole_of_takes {scan : Scan α} {text : String} (h : scan.Takes text.toList [] value) :
    scan.whole text = some value := by
  unfold Takes at h
  rw [List.append_nil] at h
  rw [whole, h]

end Scan

end LinkCatalog
