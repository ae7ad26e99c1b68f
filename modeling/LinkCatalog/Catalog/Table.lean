import LinkCatalog.Uuid

/-!
# Tables

Rows that are found by their identifiers. A row is always kept under its own identifier, and no two
rows have the same one, so a table is determined by which row each identifier leads to.

## Main definitions

- `Identified` — types whose values have an identifier
- `Table` — rows with different identifiers
- `Table.find?` — the row with an identifier
- `Table.put`, `Table.erase` — the table after a change

## Main statements

- `Table.find?_put`, `Table.find?_erase` — what a change does to the view by identifiers
- `Table.mem_rows_iff` — the rows are those that can be found
-/

namespace LinkCatalog

/-- Types whose values have an identifier. -/
class Identified (α : Type) where
  id : α → Uuid

/-- Rows with different identifiers. -/
structure Table (α : Type) [Identified α] where
  rows : List α
  distinct : (rows.map Identified.id).Nodup

namespace Table

variable {α : Type} [Identified α]

/-- A table without rows. -/
def empty : Table α :=
  { rows := [], distinct := List.nodup_nil }

instance : Inhabited (Table α) := ⟨empty⟩

/-- The row with an identifier. -/
def find? (table : Table α) (id : Uuid) : Option α :=
  table.rows.find? fun row => Identified.id row == id

/-- The table without the row that has the identifier. -/
def erase (table : Table α) (id : Uuid) : Table α :=
  { rows := table.rows.filter fun row => Identified.id row != id
    distinct := table.distinct.sublist (List.filter_sublist.map _) }

/-- The table with the row under its identifier, in place of any other. -/
def put (table : Table α) (row : α) : Table α :=
  { rows := row :: (table.erase (Identified.id row)).rows
    distinct := by
      rw [List.map_cons, List.nodup_cons]
      refine ⟨?_, (table.erase _).distinct⟩
      simp [erase] }

-- ════════════════════════════════════════════════════════════════════════
-- The view by identifiers
-- ════════════════════════════════════════════════════════════════════════

@[simp] theorem find?_empty (id : Uuid) : (empty : Table α).find? id = none := rfl

/-- A row is found under its own identifier. -/
theorem id_of_find? {table : Table α} {id : Uuid} {row : α} (h : table.find? id = some row) :
    Identified.id row = id := by
  simpa using List.find?_some h

theorem mem_of_find? {table : Table α} {id : Uuid} {row : α} (h : table.find? id = some row) :
    row ∈ table.rows :=
  List.mem_of_find?_eq_some h

theorem find?_erase (table : Table α) (id other : Uuid) :
    (table.erase id).find? other = if other = id then none else table.find? other := by
  simp only [find?, erase, List.find?_filter]
  split
  · next h =>
    subst h
    simp
  · next h =>
    congr 1
    funext row
    by_cases hrow : Identified.id row = other
    · simp [hrow, h]
    · simp [hrow]

theorem find?_put (table : Table α) (row : α) (id : Uuid) :
    (table.put row).find? id = if id = Identified.id row then some row else table.find? id := by
  have herase := find?_erase table (Identified.id row) id
  simp only [find?, put, List.find?_cons] at herase ⊢
  by_cases h : id = Identified.id row
  · simp [h]
  · have hne : (Identified.id row == id) = false := by simpa using fun e => h e.symm
    simp [h, hne, herase]

/-- The rows of a table are the rows that can be found. -/
theorem mem_rows_iff {table : Table α} {row : α} :
    row ∈ table.rows ↔ table.find? (Identified.id row) = some row := by
  refine ⟨fun h => ?_, mem_of_find?⟩
  obtain ⟨rows, distinct⟩ := table
  simp only [find?] at *
  induction rows with
  | nil => simp at h
  | cons first rest ih =>
    rw [List.map_cons, List.nodup_cons] at distinct
    rcases List.mem_cons.1 h with rfl | hrest
    · simp
    · have hne : Identified.id first ≠ Identified.id row := fun e =>
        distinct.1 (e ▸ List.mem_map_of_mem hrest)
      rw [List.find?_cons_of_neg (by simpa using hne)]
      exact ih distinct.2 hrest

end Table

end LinkCatalog
