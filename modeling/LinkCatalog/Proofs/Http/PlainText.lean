import LinkCatalog.Document.Href
import LinkCatalog.Http.Headers

/-!
# Plain text in header fields

A text of visible ASCII characters and spaces can always be the value of a header field. Identifiers
and paths of resources are such texts.

## Main definitions

- `HeaderValue.IsPlain` — visible ASCII characters and the space
- `HeaderValue.bytes` — the bytes of a text

## Main statements

- `HeaderValue.ofText?_eq_some` — plain text is a value
- `Href.isPlain_linkType` — the path of a link type is plain
-/

namespace LinkCatalog

namespace HeaderValue

/-- A visible ASCII character or a space. -/
def IsPlain (c : Char) : Prop :=
  0x20 ≤ c.toNat ∧ c.toNat < 0x7f

instance (c : Char) : Decidable (IsPlain c) := by
  unfold IsPlain
  infer_instance

theorem isPlain_of_all {cs : List Char} (h : (cs.all fun c => decide (IsPlain c)) = true) {c : Char}
    (hc : c ∈ cs) : IsPlain c :=
  of_decide_eq_true (List.all_eq_true.1 h c hc)

/-- The bytes of a text. -/
def bytes (text : String) : HeaderValue :=
  text.toList.flatMap String.utf8EncodeChar

theorem utf8EncodeChar_of_ascii {c : Char} (h : c.toNat < 128) :
    String.utf8EncodeChar c = [UInt8.ofNat c.toNat] := by
  have hle : c.toNat ≤ 127 := by omega
  simp [String.utf8EncodeChar, hle]

theorem utf8EncodeChar_of_isPlain {c : Char} (h : IsPlain c) :
    String.utf8EncodeChar c = [UInt8.ofNat c.toNat] := by
  have hhigh := h.2
  exact utf8EncodeChar_of_ascii (by omega)

theorem isAllowed_of_isPlain {c : Char} (h : IsPlain c) :
    isAllowed (UInt8.ofNat c.toNat) = true := by
  obtain ⟨hlow, hhigh⟩ := h
  have hnat : (UInt8.ofNat c.toNat).toNat = c.toNat := by
    rw [UInt8.toNat_ofNat']
    omega
  have hle : 0x20 ≤ UInt8.ofNat c.toNat := by
    rw [UInt8.le_iff_toNat_le, hnat]
    exact hlow
  have hne : UInt8.ofNat c.toNat ≠ 0x7f := by
    intro heq
    have htoNat := congrArg UInt8.toNat heq
    rw [hnat] at htoNat
    change c.toNat = 0x7f at htoNat
    omega
  simp [isAllowed, hle, hne]

/-- Plain text can be the value of a header field. -/
theorem ofText?_eq_some {text : String} (h : ∀ c ∈ text.toList, IsPlain c) :
    ofText? text = some (bytes text) := by
  have hall : (bytes text).all isAllowed = true := by
    rw [List.all_eq_true]
    intro b hb
    obtain ⟨c, hc, hb⟩ := List.mem_flatMap.1 hb
    rw [utf8EncodeChar_of_isPlain (h c hc), List.mem_singleton] at hb
    exact hb ▸ isAllowed_of_isPlain (h c hc)
  simp only [bytes] at hall
  simp [ofText?, bytes, hall]

end HeaderValue

-- ════════════════════════════════════════════════════════════════════════
-- Identifiers and paths
-- ════════════════════════════════════════════════════════════════════════

namespace Uuid

open HeaderValue (IsPlain)

theorem isPlain_digitChar : ∀ n < 16, IsPlain (Nat.digitChar n) := by
  decide

theorem mem_of_mem_group {widths : List Nat} {cs : List Char} {c : Char}
    (h : c ∈ group widths cs) : c = '-' ∨ c ∈ cs := by
  induction widths generalizing cs with
  | nil => exact .inr h
  | cons width widths ih =>
    cases widths with
    | nil => exact .inr h
    | cons next widths =>
      rcases List.mem_append.1 h with h | h
      · exact .inr (List.mem_of_mem_take h)
      · rcases List.mem_cons.1 h with rfl | h
        · exact .inl rfl
        · exact (ih h).imp_right List.mem_of_mem_drop

/-- The text of an identifier consists of digits and hyphens. -/
theorem isPlain_of_mem_toText {id : Uuid} {c : Char} (h : c ∈ id.toText.toList) : IsPlain c := by
  rw [toText, String.toList_ofList] at h
  rcases mem_of_mem_group h with rfl | h
  · decide
  · obtain ⟨digit, hdigit, rfl⟩ := List.mem_map.1 h
    exact isPlain_digitChar digit (Digits.lt_of_mem_fixed (by decide) hdigit)

end Uuid

/-- The path of a link type is plain text. -/
theorem Href.isPlain_linkType {spaceId id : Uuid} {c : Char}
    (h : c ∈ (Href.linkType spaceId id).toList) : HeaderValue.IsPlain c := by
  have hspaces : ("/api/spaces/".toList.all fun c => decide (HeaderValue.IsPlain c)) = true := by
    decide
  have hlinkTypes :
      ("/workitemlinktypes/".toList.all fun c => decide (HeaderValue.IsPlain c)) = true := by
    decide
  simp only [Href.linkType, String.toList_append, List.mem_append] at h
  rcases h with ((h | h) | h) | h
  · exact HeaderValue.isPlain_of_all hspaces h
  · exact Uuid.isPlain_of_mem_toText h
  · exact HeaderValue.isPlain_of_all hlinkTypes h
  · exact Uuid.isPlain_of_mem_toText h

end LinkCatalog
