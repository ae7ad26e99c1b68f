import Mathlib.Data.List.TakeDrop
import LinkCatalog.Proofs.Service.History

/-!
# Rows and the clock

Every write stores the time at which it was made. If the clock of the service advances from write to
write, the time of a row tells whether the row was there at an earlier moment: either it was, in
exactly this form, or its time is later than those of all rows that were there.

## Main definitions

- `Turn.Stores` — a turn creates or updates a row
- `Catalog.before` — the catalog that a turn of a run meets
- `Catalog.ClockAdvances` — every row is stored at a time later than those of all rows so far

## Main statements

- `Turn.mem_rows_after` — where the rows after a turn come from
- `Catalog.ClockAdvances.kept_or_later` — where the rows at a later moment come from
-/

namespace LinkCatalog

/-- The command stores a row where it succeeds. -/
def Command.IsStoring : Command → Prop
  | .create .. | .update .. => True
  | _ => False

instance (command : Command) : Decidable command.IsStoring := by
  cases command <;> unfold Command.IsStoring <;> infer_instance

/-- Rows of one table with the same identifier are the same row. -/
theorem Table.eq_of_id_eq {α : Type} [Identified α] {table : Table α} {row other : α}
    (hrow : row ∈ table.rows) (hother : other ∈ table.rows)
    (hid : Identified.id row = Identified.id other) : row = other := by
  have hfound := mem_rows_iff.1 hrow
  rw [hid, mem_rows_iff.1 hother] at hfound
  exact (Option.some.inj hfound).symm

namespace Turn

/-- The turn creates or updates a row. -/
def Stores (turn : Turn) (catalog : Catalog) : Prop :=
  turn.command.IsStoring ∧ (turn.answer catalog).isOk

instance (turn : Turn) (catalog : Catalog) : Decidable (turn.Stores catalog) := by
  unfold Stores
  infer_instance

variable {turn : Turn} {catalog : Catalog} {row : LinkType}

theorem mem_rows_putLinkType {stored : LinkType}
    (h : row ∈ (catalog.putLinkType stored).linkTypes.rows) :
    row = stored ∨ row ∈ catalog.linkTypes.rows :=
  (List.mem_cons.1 h).imp_right List.mem_of_mem_filter

/-- A row that is there after a turn was there before, or the turn has stored it with its time. -/
theorem mem_rows_after (h : row ∈ (turn.after catalog).linkTypes.rows) :
    row ∈ catalog.linkTypes.rows ∨ turn.Stores catalog ∧ row.updatedAt = turn.now := by
  have heffect := turn.effect_run catalog
  generalize hanswer : turn.answer catalog = answer at heffect
  generalize turn.after catalog = after at heffect h
  cases heffect with
  | refused failure => exact .inl h
  | read hread => exact .inl h
  | created hcommand hrow hwrite =>
    have hstores : turn.Stores catalog := by
      rw [Stores, hcommand, hanswer]
      exact ⟨trivial, rfl⟩
    obtain ⟨-, -, -, rfl, rfl⟩ := Catalog.createLinkType_eq_ok_iff.1 hwrite
    rcases mem_rows_putLinkType h with rfl | h
    · exact .inr ⟨hstores, rfl⟩
    · exact .inl h
  | updated hcommand hrow hwrite =>
    have hstores : turn.Stores catalog := by
      rw [Stores, hcommand, hanswer]
      exact ⟨trivial, rfl⟩
    obtain ⟨-, stored, -, -, -, rfl, rfl⟩ := Catalog.saveLinkType_eq_ok_iff.1 hwrite
    rcases mem_rows_putLinkType h with rfl | h
    · exact .inr ⟨hstores, rfl⟩
    · exact .inl h
  | deleted hcommand hwrite =>
    obtain ⟨stored, -, -, rfl⟩ := Catalog.deleteLinkType_eq_ok_iff.1 hwrite
    exact .inl (List.mem_of_mem_filter h)

end Turn

namespace Catalog

/-- The catalog that the turn with a number meets, when the turns run one after the other. -/
def before (start : Catalog) (turns : List Turn) (number : Nat) : Catalog :=
  start.afterTurns (turns.take number)

theorem before_succ (start : Catalog) {turns : List Turn} {number : Nat}
    (h : number < turns.length) :
    start.before turns (number + 1) = turns[number].after (start.before turns number) := by
  rw [before, List.take_succ_eq_append_getElem h, afterTurns_concat, ← before]

/-- Whenever a turn stores a row, its clock shows more than the time of any row so far. The measure
    is the precision with which times are compared. -/
def ClockAdvances (measure : Instant → Int) (start : Catalog) (turns : List Turn) : Prop :=
  ∀ n (hn : n < turns.length), turns[n].Stores (start.before turns n) → ∀ m ≤ n,
    ∀ row ∈ (start.before turns m).linkTypes.rows,
      measure row.updatedAt < measure turns[n].now

instance (measure : Instant → Int) (start : Catalog) (turns : List Turn) :
    Decidable (start.ClockAdvances measure turns) := by
  unfold ClockAdvances
  infer_instance

variable {measure : Instant → Int} {start : Catalog} {turns : List Turn}

/-- A row at a later moment was there at the earlier one, or its time is later than those of all
    rows that were there. -/
theorem ClockAdvances.kept_or_later (h : start.ClockAdvances measure turns) {m n : Nat}
    (hmn : m ≤ n) (hn : n ≤ turns.length) {row : LinkType}
    (hrow : row ∈ (start.before turns n).linkTypes.rows) :
    row ∈ (start.before turns m).linkTypes.rows ∨
      ∀ other ∈ (start.before turns m).linkTypes.rows,
        measure other.updatedAt < measure row.updatedAt := by
  -- Induction on the later moment: the turn in front of it has stored the row, or it was there.
  induction n, hmn using Nat.le_induction with
  | base => exact .inl hrow
  | succ n hmn ih =>
    rw [before_succ start hn] at hrow
    rcases Turn.mem_rows_after hrow with hrow | ⟨hstores, htime⟩
    · exact ih (Nat.le_of_lt hn) hrow
    · refine .inr fun other hother => ?_
      rw [htime]
      exact h n hn hstores m hmn other hother

end Catalog

end LinkCatalog
