import LinkCatalog.Catalog.Program
import LinkCatalog.Proofs.Failure

/-!
# Writes to the catalog

Each write either refuses and leaves the catalog as it is, or changes one row. The conditions under
which it succeeds are given once, together with what it does; everything else about writes follows
from these.

## Main definitions

- `LinkType.IsNamed` — what every stored link type satisfies
- `LinkType.created`, `LinkType.saved` — the row that a write stores
- `Catalog.Adds`, `Catalog.Replaces`, `Catalog.Removes` — a change of one row, seen from outside
- `Catalog.VersionsBelowMax` — no version is so large that it cannot be raised

## Main statements

- `Catalog.createLinkType_eq_ok_iff`, `Catalog.saveLinkType_eq_ok_iff`,
  `Catalog.deleteLinkType_eq_ok_iff` — when a write succeeds, and what it does
- `Catalog.adds_of_createLinkType`, `Catalog.replaces_of_saveLinkType`,
  `Catalog.removes_of_deleteLinkType` — a write changes one row and nothing else
-/

namespace LinkCatalog

namespace LinkType

/-- All three names are there. -/
def IsNamed (row : LinkType) : Prop :=
  row.name ≠ "" ∧ row.forwardName ≠ "" ∧ row.reverseName ≠ ""

instance (row : LinkType) : Decidable row.IsNamed := by
  unfold IsNamed
  infer_instance

/-- The row that is stored when a link type is created. -/
def created (row : LinkType) (fresh : Uuid) (now : Instant) : LinkType :=
  { row with
    id := if row.id = .nil then fresh else row.id
    version := 0
    createdAt := now
    updatedAt := now }

/-- The row that is stored when a link type is saved in place of another one. -/
def saved (row stored : LinkType) (now : Instant) : LinkType :=
  { row with version := stored.version + 1, createdAt := stored.createdAt, updatedAt := now }

theorem validate_ok_iff_isNamed {row : LinkType} : row.validate = .ok () ↔ row.IsNamed :=
  row.validate_eq_ok_iff

@[simp] theorem saved_id (row stored : LinkType) (now : Instant) :
    (row.saved stored now).id = row.id := rfl

/-- A created row has an identifier where the fresh one is an identifier. -/
theorem created_id_ne_nil {row : LinkType} {fresh : Uuid} {now : Instant} (hfresh : fresh ≠ .nil) :
    (row.created fresh now).id ≠ .nil := by
  simp only [created]
  split
  · exact hfresh
  · assumption

end LinkType

namespace Catalog

variable {catalog after : Catalog} {row stored : LinkType} {now : Instant}

theorem foundOr_eq_ok_iff {α : Type} {entity : Entity} {id : Uuid} {found : Option α} {row : α} :
    foundOr entity id found = .ok row ↔ found = some row := by
  cases found <;> simp [foundOr]

theorem loadLinkType_eq_ok_iff {id : Uuid} :
    catalog.loadLinkType id = .ok row ↔ catalog.linkTypes.find? id = some row :=
  foundOr_eq_ok_iff

theorem find?_putLinkType (catalog : Catalog) (row : LinkType) (id : Uuid) :
    (catalog.putLinkType row).linkTypes.find? id =
      if id = row.id then some row else catalog.linkTypes.find? id :=
  Table.find?_put catalog.linkTypes row id

/-- A name is free if every other row of the space has another one. -/
theorem isNameTaken_eq_false_iff :
    catalog.isNameTaken row = false ↔
      ∀ id other, catalog.linkTypes.find? id = some other → id ≠ row.id →
        other.spaceId = row.spaceId → other.name ≠ row.name := by
  simp only [isNameTaken, List.any_eq_false]
  constructor
  · intro h id other hother hid hspace hname
    have hne := h other (Table.mem_of_find? hother)
    have heq : other.id = id := Table.id_of_find? hother
    simp_all
  · intro h other hother
    have hne := h other.id other (Table.mem_rows_iff.1 hother)
    simp only [Bool.and_eq_true, bne_iff_ne, beq_iff_eq, not_and]
    intro ⟨hid, hspace⟩
    exact hne hid hspace

theorem checkName_eq_ok_iff : catalog.checkName row = .ok () ↔ catalog.isNameTaken row = false := by
  unfold checkName
  cases catalog.isNameTaken row <;> simp

-- ════════════════════════════════════════════════════════════════════════
-- Success of writes
-- ════════════════════════════════════════════════════════════════════════

/-- A link type is created if it has all names, and its identifier and its name are free. -/
theorem createLinkType_eq_ok_iff {fresh : Uuid} :
    catalog.createLinkType row fresh now = .ok (stored, after) ↔
      row.IsNamed ∧ catalog.linkTypes.find? stored.id = none ∧
        catalog.isNameTaken stored = false ∧ stored = row.created fresh now ∧
        after = catalog.putLinkType stored := by
  unfold createLinkType
  simp only [Failure.bind_eq_ok_iff, Failure.guard_eq_ok_iff]
  constructor
  · rintro ⟨_, hvalid, hfree, _, hname, hresult⟩
    cases hresult
    exact ⟨LinkType.validate_ok_iff_isNamed.1 hvalid, by simpa using hfree,
      checkName_eq_ok_iff.1 hname, rfl, rfl⟩
  · rintro ⟨hnamed, hfree, hname, rfl, rfl⟩
    have hid : catalog.linkTypes.find? (if row.id = Uuid.nil then fresh else row.id) = none := hfree
    exact ⟨(), LinkType.validate_ok_iff_isNamed.2 hnamed, by simpa using hid, (),
      checkName_eq_ok_iff.2 hname, rfl⟩

/-- A link type is saved if it has all names, a row with its identifier and its version is stored,
    and its name is free. -/
theorem saveLinkType_eq_ok_iff {result : LinkType} :
    catalog.saveLinkType row now = .ok (result, after) ↔
      row.IsNamed ∧ ∃ stored, catalog.linkTypes.find? row.id = some stored ∧
        stored.version = row.version ∧ catalog.isNameTaken row = false ∧
        result = row.saved stored now ∧ after = catalog.putLinkType result := by
  unfold saveLinkType
  simp only [Failure.bind_eq_ok_iff, Failure.guard_eq_ok_iff]
  constructor
  · rintro ⟨_, hvalid, stored, hload, hversion, _, hname, hresult⟩
    cases hresult
    exact ⟨LinkType.validate_ok_iff_isNamed.1 hvalid, stored, loadLinkType_eq_ok_iff.1 hload,
      by simpa using hversion, checkName_eq_ok_iff.1 hname, rfl, rfl⟩
  · rintro ⟨hnamed, stored, hstored, hversion, hname, rfl, rfl⟩
    refine ⟨(), LinkType.validate_ok_iff_isNamed.2 hnamed, stored,
      loadLinkType_eq_ok_iff.2 hstored, ?_, (), checkName_eq_ok_iff.2 hname, rfl⟩
    simpa using hversion

/-- A link type is deleted if it is stored in the space. -/
theorem deleteLinkType_eq_ok_iff {spaceId id : Uuid} :
    catalog.deleteLinkType spaceId id = .ok after ↔
      ∃ stored, catalog.linkTypes.find? id = some stored ∧ stored.spaceId = spaceId ∧
        after = { catalog with linkTypes := catalog.linkTypes.erase id } := by
  unfold deleteLinkType
  cases catalog.linkTypes.find? id with
  | none => simp
  | some stored =>
    by_cases hspace : stored.spaceId = spaceId
    · simp [hspace, eq_comm]
    · simp [hspace]

-- ════════════════════════════════════════════════════════════════════════
-- Changes of one row
-- ════════════════════════════════════════════════════════════════════════

/-- Two catalogs agree but for the link type under one identifier. -/
def DiffersAt (id : Uuid) (before after : Catalog) : Prop :=
  (∀ other, other ≠ id → after.linkTypes.find? other = before.linkTypes.find? other) ∧
    after.categories = before.categories ∧ after.spaces = before.spaces

/-- The catalog after the change has one row more, under an identifier that was free. -/
def Adds (row : LinkType) (before after : Catalog) : Prop :=
  before.linkTypes.find? row.id = none ∧ after.linkTypes.find? row.id = some row ∧
    DiffersAt row.id before after

/-- The catalog after the change has another row in place of a stored one. -/
def Replaces (stored row : LinkType) (before after : Catalog) : Prop :=
  before.linkTypes.find? row.id = some stored ∧ after.linkTypes.find? row.id = some row ∧
    DiffersAt row.id before after

/-- The catalog after the change has lost the row under an identifier. -/
def Removes (id : Uuid) (stored : LinkType) (before after : Catalog) : Prop :=
  before.linkTypes.find? id = some stored ∧ after.linkTypes.find? id = none ∧
    DiffersAt id before after

theorem differsAt_putLinkType (catalog : Catalog) (row : LinkType) :
    DiffersAt row.id catalog (catalog.putLinkType row) := by
  refine ⟨fun other hother => ?_, rfl, rfl⟩
  rw [find?_putLinkType, if_neg hother]

theorem adds_of_createLinkType {fresh : Uuid}
    (h : catalog.createLinkType row fresh now = .ok (stored, after)) :
    Adds stored catalog after := by
  obtain ⟨-, hfree, -, -, rfl⟩ := createLinkType_eq_ok_iff.1 h
  exact ⟨hfree, by simp [find?_putLinkType], differsAt_putLinkType catalog stored⟩

theorem replaces_of_saveLinkType {result : LinkType}
    (h : catalog.saveLinkType row now = .ok (result, after)) :
    ∃ stored, Replaces stored result catalog after ∧ stored.version = row.version ∧
      result = row.saved stored now := by
  obtain ⟨-, stored, hstored, hversion, -, rfl, rfl⟩ := saveLinkType_eq_ok_iff.1 h
  have hdiffers := differsAt_putLinkType catalog (row.saved stored now)
  exact ⟨stored, ⟨hstored, by simp [find?_putLinkType], hdiffers⟩, hversion, rfl⟩

theorem removes_of_deleteLinkType {spaceId id : Uuid}
    (h : catalog.deleteLinkType spaceId id = .ok after) :
    ∃ stored, Removes id stored catalog after ∧ stored.spaceId = spaceId := by
  obtain ⟨stored, hstored, hspace, rfl⟩ := deleteLinkType_eq_ok_iff.1 h
  refine ⟨stored, ⟨hstored, ?_, fun other hother => ?_, rfl, rfl⟩, hspace⟩
  · simp [Table.find?_erase]
  · simp [Table.find?_erase, hother]

theorem isNamed_of_createLinkType {fresh : Uuid}
    (h : catalog.createLinkType row fresh now = .ok (stored, after)) : stored.IsNamed := by
  obtain ⟨hnamed, -, -, rfl, -⟩ := createLinkType_eq_ok_iff.1 h
  exact hnamed

theorem isNamed_of_saveLinkType {result : LinkType}
    (h : catalog.saveLinkType row now = .ok (result, after)) : result.IsNamed := by
  obtain ⟨hnamed, stored, -, -, -, rfl, -⟩ := saveLinkType_eq_ok_iff.1 h
  exact hnamed

/-- No stored version is the largest number, which could not be raised. -/
def VersionsBelowMax (catalog : Catalog) : Prop :=
  ∀ row ∈ catalog.linkTypes.rows, row.version < Int32.maxValue

instance (catalog : Catalog) : Decidable catalog.VersionsBelowMax := by
  unfold VersionsBelowMax
  infer_instance

end Catalog

/-- Saving raises the version by one, unless it is the largest number. -/
theorem LinkType.toInt_version_saved {row stored : LinkType} {now : Instant}
    (h : stored.version < Int32.maxValue) :
    (row.saved stored now).version.toInt = stored.version.toInt + 1 := by
  have hlow := stored.version.le_toInt
  have hhigh : stored.version.toInt < 2 ^ 31 - 1 := Int32.lt_iff_toInt_lt.1 h
  simp only [saved, Int32.toInt_add, Int32.toInt_one]
  rw [Int.bmod_eq_of_le] <;> omega

end LinkCatalog
