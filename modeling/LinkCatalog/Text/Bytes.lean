/-!
# Places in text

A place in a text is a number of bytes of its UTF-8 form. Not every such number is the place of a
character.

## Main definitions

- `Text.byteLength` — the length of a text in bytes
- `Text.splitAt?` — a text before and from a place
- `Text.slice?` — a text between two places

## Main statements

- `Text.splitAt?_byteLength` — a text splits at the length of its first part
- `Text.append_eq_of_splitAt?` — nothing is lost
-/

namespace LinkCatalog.Text

/-- The number of bytes of a text. -/
def byteLength : List Char → Nat
  | [] => 0
  | c :: cs => c.utf8Size + byteLength cs

/-- A text before and from a place, unless the place is within a character or beyond the end. -/
def splitAt? (place : Nat) : List Char → Option (List Char × List Char)
  | [] => if place = 0 then some ([], []) else none
  | c :: cs =>
    if place = 0 then some ([], c :: cs)
    else if place < c.utf8Size then none
    else (splitAt? (place - c.utf8Size) cs).map fun (before, after) => (c :: before, after)

/-- A text between two places. -/
def slice? (start stop : Nat) (cs : List Char) : Option (List Char) := do
  let (_, after) ← splitAt? start cs
  let (slice, _) ← splitAt? (stop - start) after
  return slice

@[simp] theorem byteLength_append (before after : List Char) :
    byteLength (before ++ after) = byteLength before + byteLength after := by
  induction before with
  | nil => exact (Nat.zero_add _).symm
  | cons c cs ih => rw [List.cons_append, byteLength, byteLength, ih, Nat.add_assoc]

theorem splitAt?_zero (cs : List Char) : splitAt? 0 cs = some ([], cs) := by
  cases cs <;> simp [splitAt?]

/-- A text splits at the length of its first part. -/
theorem splitAt?_byteLength (before after : List Char) :
    splitAt? (byteLength before) (before ++ after) = some (before, after) := by
  induction before with
  | nil => exact splitAt?_zero after
  | cons c cs ih =>
    have hpos := c.utf8Size_pos
    have hne : c.utf8Size + byteLength cs ≠ 0 := by omega
    have hle : ¬ c.utf8Size + byteLength cs < c.utf8Size := by omega
    simp only [List.cons_append, byteLength, splitAt?, if_neg hne, if_neg hle,
      Nat.add_sub_cancel_left, ih, Option.map_some]

/-- The two parts make up the text. -/
theorem append_eq_of_splitAt? {place : Nat} {cs before after : List Char}
    (h : splitAt? place cs = some (before, after)) : before ++ after = cs := by
  induction cs generalizing place before with
  | nil =>
    rw [splitAt?] at h
    split at h
    · cases h
      rfl
    · cases h
  | cons c cs ih =>
    rw [splitAt?] at h
    split at h
    · cases h
      rfl
    split at h
    · cases h
    obtain ⟨⟨rest, after'⟩, hsplit, heq⟩ := Option.map_eq_some_iff.1 h
    cases heq
    rw [List.cons_append, ih hsplit]

end LinkCatalog.Text
