import LinkCatalog.Text.Digits
import LinkCatalog.Text.Quoted

/-!
# The most recent record

Records carry a version as text, if one has been recorded yet. The most recent of some records is
the one with the greatest version; records without version come last, and keys decide between equal
versions, so that the choice does not depend on the order of the records.

## Main definitions

- `MalformedVersion` — a version that is no number
- `Rank` — what records are compared by
- `Ranked.greatest` — the first of the records with the greatest rank
- `mostRecent` — the most recent record

## Main statements

- `Rank.lt_irrefl`, `Rank.lt_trans`, `Rank.lt_or_eq_or_lt` — ranks are in a strict total order
-/

namespace LinkCatalog

/-- A record has a version that is no number. -/
structure MalformedVersion where
  /-- The key of the record. -/
  name : String
  /-- Its version. -/
  value : String
deriving DecidableEq, Repr

/-- The wording of the error. -/
def MalformedVersion.message (malformed : MalformedVersion) : String :=
  "record " ++ malformed.name ++ " has malformed version " ++ Text.quote malformed.value

/-- What records are compared by. -/
structure Rank where
  version : Option Nat
  key : String
deriving DecidableEq, Repr

namespace Rank

/-- Whether a version is less than another one; no version is less than any. -/
def versionLt : Option Nat → Option Nat → Bool
  | none, some _ => true
  | some a, some b => a < b
  | _, none => false

/-- Whether a rank is less than another one: by version, then by key. -/
def lt (a b : Rank) : Bool :=
  versionLt a.version b.version || (a.version == b.version && decide (a.key < b.key))

theorem versionLt_irrefl (a : Option Nat) : versionLt a a = false := by
  cases a <;> simp [versionLt]

theorem versionLt_trans {a b c : Option Nat} (hab : versionLt a b = true)
    (hbc : versionLt b c = true) : versionLt a c = true := by
  cases a <;> cases b <;> cases c <;> simp_all [versionLt]
  omega

theorem versionLt_or_eq_or_versionLt (a b : Option Nat) :
    versionLt a b = true ∨ a = b ∨ versionLt b a = true := by
  cases a <;> cases b <;> simp [versionLt]
  omega

theorem lt_irrefl (a : Rank) : a.lt a = false := by
  simp [lt, versionLt_irrefl]

theorem lt_trans {a b c : Rank} (hab : a.lt b = true) (hbc : b.lt c = true) :
    a.lt c = true := by
  simp only [lt, Bool.or_eq_true, Bool.and_eq_true, beq_iff_eq, decide_eq_true_eq] at *
  rcases hab with hab | ⟨hab, hkey⟩
  · rcases hbc with hbc | ⟨hbc, _⟩
    · exact .inl (versionLt_trans hab hbc)
    · exact .inl (hbc ▸ hab)
  · rcases hbc with hbc | ⟨hbc, hkey'⟩
    · exact .inl (hab ▸ hbc)
    · exact .inr ⟨hab.trans hbc, String.lt_trans hkey hkey'⟩

/-- Of two different ranks one is less than the other. -/
theorem lt_or_eq_or_lt (a b : Rank) : a.lt b = true ∨ a = b ∨ b.lt a = true := by
  obtain ⟨version, key⟩ := a
  obtain ⟨version', key'⟩ := b
  simp only [lt, Bool.or_eq_true, Bool.and_eq_true, beq_iff_eq, decide_eq_true_eq, mk.injEq]
  rcases versionLt_or_eq_or_versionLt version version' with h | rfl | h
  · exact .inl (.inl h)
  · by_cases hlt : key < key'
    · exact .inl (.inr ⟨rfl, hlt⟩)
    · by_cases hgt : key' < key
      · exact .inr (.inr (.inr ⟨rfl, hgt⟩))
      · exact .inr (.inl ⟨rfl, String.le_antisymm (String.not_lt.1 hgt) (String.not_lt.1 hlt)⟩)
  · exact .inr (.inr (.inl h))

/-- The rank of a record with a key and the text of its version. -/
def ofMarker (key : String) : Option String → Except MalformedVersion Rank
  | none => .ok { version := none, key }
  | some text =>
    match Digits.unsigned? Digits.maxUnsigned64 text.toList with
    | some version => .ok { version := some version, key }
    | none => .error { name := key, value := text }

end Rank

/-- A record with its rank. -/
structure Ranked (α : Type) where
  rank : Rank
  record : α

/-- The first of the records with the greatest rank. -/
def Ranked.greatest : List (Ranked α) → Option (Ranked α)
  | [] => none
  | first :: rest =>
    match greatest rest with
    | none => some first
    | some best => if first.rank.lt best.rank then some best else some first

/-- The most recent of some records under keys. The first record whose version is no number is an
    error, whatever the others are. -/
def mostRecent (marker : α → Option String) (records : List (String × α)) :
    Except MalformedVersion (Option α) := do
  let ranked ← records.mapM fun (key, record) => do
    let rank ← Rank.ofMarker key (marker record)
    return { rank, record : Ranked α }
  return (Ranked.greatest ranked).map Ranked.record

end LinkCatalog
