import Mathlib.Data.List.Lex
import Mathlib.Data.String.Basic
import Mathlib.Order.Lattice

/-!
# Order of texts by bytes

Texts are ordered by their characters. The UTF-8 form keeps this order: comparing two texts byte by
byte gives the same result as comparing them character by character.

## Main definitions

- `Text.bytes` — the bytes of the UTF-8 form of a text

## Main statements

- `Text.charBytes_append_lt` — the bytes of a lesser character are less, whatever follows
- `Text.bytes_lt_bytes_iff` — texts are in the order of their bytes
-/

namespace LinkCatalog.Text

/-- The bytes of the UTF-8 form of a character. -/
def charBytes (c : Char) : List ℕ :=
  (String.utf8EncodeChar c).map UInt8.toNat

/-- The bytes of the UTF-8 form of a text. -/
def bytes (text : String) : List ℕ :=
  text.toList.flatMap charBytes

theorem charBytes_ne_nil (c : Char) : charBytes c ≠ [] := by
  intro hnil
  have hlength := congrArg List.length hnil
  have hpos := c.utf8Size_pos
  rw [charBytes, List.length_map, String.length_utf8EncodeChar, List.length_nil] at hlength
  omega

/-- The bytes of a lesser character are less already within themselves: a form of more bytes begins
    with a greater byte, and forms of one length are digits of base 64 behind equal marks. -/
theorem charBytes_append_lt {c d : Char} (h : c < d) (r s : List ℕ) :
    charBytes c ++ r < charBytes d ++ s := by
  have hlt : c.val.toNat < d.val.toNat := h
  have hmax : d.val.toNat < 0x110000 := by
    have hvalid := d.valid
    simp only [UInt32.isValidChar, Nat.isValidChar] at hvalid
    omega
  have htwice : ∀ k : ℕ, k / 4096 = k / 64 / 64 := fun k => by omega
  have hthrice : ∀ k : ℕ, k / 262144 = k / 64 / 64 / 64 := fun k => by omega
  unfold charBytes String.utf8EncodeChar
  generalize c.val.toNat = m at *
  generalize d.val.toNat = n at *
  simp only [htwice, hthrice]
  split_ifs <;>
    simp only [List.map_cons, List.map_nil, List.cons_append, List.cons_lt_cons_iff,
      UInt8.toNat_ofNat'] <;>
    omega

theorem flatMap_charBytes_lt {cs ds : List Char} (h : cs < ds) :
    cs.flatMap charBytes < ds.flatMap charBytes := by
  induction cs generalizing ds with
  | nil =>
    cases ds with
    | nil => exact absurd h (List.lt_irrefl [])
    | cons d ds =>
      rw [List.flatMap_nil, List.flatMap_cons]
      obtain ⟨byte, rest, hbytes⟩ := List.exists_cons_of_ne_nil (charBytes_ne_nil d)
      rw [hbytes, List.cons_append]
      exact List.nil_lt_cons byte _
  | cons c cs ih =>
    cases ds with
    | nil => exact absurd h (List.not_lt_nil _)
    | cons d ds =>
      rw [List.flatMap_cons, List.flatMap_cons]
      rcases List.cons_lt_cons_iff.1 h with hlt | ⟨rfl, hrest⟩
      · exact charBytes_append_lt hlt _ _
      · exact List.append_left_lt (ih hrest)

theorem bytes_strictMono : StrictMono bytes := by
  intro a b h
  exact flatMap_charBytes_lt (String.lt_iff_toList_lt.1 h)

/-- Texts are in the order of their bytes. -/
theorem bytes_lt_bytes_iff {a b : String} : bytes a < bytes b ↔ a < b :=
  bytes_strictMono.lt_iff_lt

/-- Different texts have different bytes. -/
theorem bytes_inj {a b : String} : bytes a = bytes b ↔ a = b :=
  bytes_strictMono.injective.eq_iff

end LinkCatalog.Text
