import LinkCatalog.Uuid

/-!
# Reading written identifiers

The text of an identifier is read as that identifier, so it tells the identifier. Four hexadecimal
digits are read as their number in the same way.

## Main statements

- `Digits.ofHex?_hex` — hexadecimal digits are read as the number they stand for
- `Uuid.ofText?_toText` — writing and reading an identifier
-/

namespace LinkCatalog

theorem Digits.hexValue?_digitChar :
    ∀ digit < 16, hexValue? (Nat.digitChar digit) = some digit := by decide

theorem Digits.mapM_hexValue?_digitChar {digits : List Nat} (h : ∀ digit ∈ digits, digit < 16) :
    (digits.map Nat.digitChar).mapM hexValue? = some digits := by
  induction digits with
  | nil => rfl
  | cons digit digits ih =>
    have hdigit : hexValue? (Nat.digitChar digit) = some digit :=
      hexValue?_digitChar digit (h digit List.mem_cons_self)
    have hdigits := ih fun other hother => h other (List.mem_cons_of_mem digit hother)
    rw [List.map_cons, List.mapM_cons, hdigit, hdigits]
    rfl

theorem Digits.ofHex?_hex {width n : Nat} (h : n < Nat.pow 16 width) :
    ofHex? (hex width n) = some n := by
  have hlt : ∀ digit ∈ fixed 16 width n, digit < 16 :=
    fun digit hdigit => lt_of_mem_fixed (by decide) hdigit
  rw [ofHex?, hex, mapM_hexValue?_digitChar hlt, Option.map_some, value_fixed, Nat.mod_eq_of_lt h]

namespace Uuid

theorem length_chars (id : Uuid) : id.chars.length = 36 := by
  simp [chars, group, groupWidths]

theorem length_toText (id : Uuid) : id.toText.length = 36 := by
  rw [toText, String.length_ofList, length_chars]

theorem length_append_toText (start : String) (id : Uuid) :
    (start ++ id.toText).length = start.length + 36 := by
  rw [String.length_append, length_toText]

theorem ofGroups?_chars (id : Uuid) : ofGroups? id.chars = some id := by
  have hlength : (Digits.hex 32 id.bits.toNat).length = digitCount groupWidths :=
    Digits.length_hex 32 _
  have hlt : id.bits.toNat < Nat.pow 16 32 := id.bits.isLt
  rw [ofGroups?, chars, ungroup_group (by decide) hlength, Option.bind_some, ofHex?,
    Digits.ofHex?_hex hlt, Option.map_some, BitVec.ofNat_toNat, BitVec.setWidth_eq]

/-- **Round trip.** The text of an identifier is read as that identifier. -/
theorem ofText?_toText (id : Uuid) : ofText? id.toText = some id := by
  have hchars : id.toText.toList = id.chars := String.toList_ofList
  unfold ofText?
  simp only [hchars, length_chars]
  exact id.ofGroups?_chars

theorem toText_injective {a b : Uuid} (h : a.toText = b.toText) : a = b := by
  have hread := congrArg ofText? h
  rw [ofText?_toText, ofText?_toText] at hread
  exact Option.some.inj hread

end Uuid

end LinkCatalog
