import LinkCatalog.Text.Digits

/-!
# Universally unique identifiers

Identifiers of 128 bits and their text: 32 hexadecimal digits in groups of 8, 4, 4, 4 and 12,
separated by hyphens.

## Main definitions

- `Uuid` — an identifier; `Uuid.nil` has no bit set
- `Uuid.toText` — the text of an identifier, in lower case
- `Uuid.ofText?` — reads the text of an identifier, also without hyphens, in braces or as a name
- `Uuid.le` — the order of identifiers, which is that of their texts
-/

namespace LinkCatalog

/-- An identifier of 128 bits. -/
structure Uuid where
  bits : BitVec 128
deriving DecidableEq, Repr

namespace Uuid

/-- The identifier without any bit set, which stands for a missing one. -/
def nil : Uuid := ⟨0⟩

instance : Inhabited Uuid := ⟨nil⟩

/-- Whether `a` is `b` or comes before it. -/
def le (a b : Uuid) : Bool :=
  a.bits.toNat ≤ b.bits.toNat

/-- The numbers of digits of the groups. -/
def groupWidths : List Nat := [8, 4, 4, 4, 12]

/-- The number of digits in groups of the given widths. -/
def digitCount : List Nat → Nat
  | [] => 0
  | width :: widths => width + digitCount widths

/-- Digits in groups of the given widths, separated by hyphens. -/
def group : List Nat → List Char → List Char
  | [], cs => cs
  | [_], cs => cs
  | width :: widths, cs => cs.take width ++ '-' :: group widths (cs.drop width)

/-- The digits of groups of exactly the given widths, separated by hyphens. -/
def ungroup? : List Nat → List Char → Option (List Char)
  | [], _ => none
  | [width], cs => if cs.length = width then some cs else none
  | width :: widths, cs =>
    match cs.drop width with
    | '-' :: rest => (ungroup? widths rest).map (cs.take width ++ ·)
    | _ => none

/-- The characters of the text of an identifier. -/
def chars (id : Uuid) : List Char :=
  group groupWidths (Digits.hex 32 id.bits.toNat)

/-- The text of an identifier. -/
def toText (id : Uuid) : String :=
  String.ofList id.chars

/-- The identifier of 32 hexadecimal digits. -/
def ofHex? (digits : List Char) : Option Uuid :=
  (Digits.ofHex? digits).map fun n => ⟨BitVec.ofNat 128 n⟩

/-- The identifier of groups separated by hyphens. -/
def ofGroups? (cs : List Char) : Option Uuid :=
  (ungroup? groupWidths cs).bind ofHex?

/-- What stands in front of an identifier that is written as a name. -/
def nameStart : List Char := "urn:uuid:".toList

/-- Reads 32 hexadecimal digits; or groups separated by hyphens, also in braces or behind
    `urn:uuid:`. Letters may be in any case. -/
def ofText? (text : String) : Option Uuid :=
  let cs := text.toList
  match cs.length with
  | 32 => ofHex? cs
  | 36 => ofGroups? cs
  | 38 =>
    if cs.take 1 = ['\x7b'] ∧ cs.drop 37 = ['\x7d'] then ofGroups? ((cs.drop 1).take 36) else none
  | 45 =>
    if (cs.take 9).map Char.toLower = nameStart then ofGroups? (cs.drop 9) else none
  | _ => none

theorem le_total (a b : Uuid) : (a.le b || b.le a) = true := by
  simp only [le, Bool.or_eq_true, decide_eq_true_eq]
  omega

theorem le_trans {a b c : Uuid} (hab : a.le b = true) (hbc : b.le c = true) : a.le c = true := by
  simp only [le, decide_eq_true_eq] at *
  omega

theorem le_antisymm {a b : Uuid} (hab : a.le b = true) (hba : b.le a = true) : a = b := by
  simp only [le, decide_eq_true_eq] at hab hba
  cases a
  cases b
  simp only [mk.injEq]
  exact BitVec.eq_of_toNat_eq (Nat.le_antisymm hab hba)

/-- Taking groups apart undoes putting digits into groups. -/
theorem ungroup_group {widths : List Nat} {cs : List Char} (hne : widths ≠ [])
    (hlen : cs.length = digitCount widths) : ungroup? widths (group widths cs) = some cs := by
  induction widths generalizing cs with
  | nil => exact absurd rfl hne
  | cons width widths ih =>
    cases widths with
    | nil => simp_all [group, ungroup?, digitCount]
    | cons next widths =>
      have hwidth : width ≤ cs.length := by simp_all [digitCount]
      have hrest : (cs.drop width).length = digitCount (next :: widths) := by simp_all [digitCount]
      have htake : (cs.take width).length = width := by simp [hwidth]
      simp [group, ungroup?, htake, ih (by simp) hrest, List.take_append_drop]

end Uuid

end LinkCatalog
