import LinkCatalog.Proofs.Catalog.Writes

/-!
# Sound catalogs

What holds of every link type in a catalog that was filled by its own writes: it has an identifier
and all names, and no other link type of its space has its name.

## Main definitions

- `Catalog.IsSound` — the invariant

## Main statements

- `Catalog.isSound_of_rows_eq_nil` — a catalog without link types is sound
- `Catalog.IsSound.createLinkType`, `Catalog.IsSound.saveLinkType`,
  `Catalog.IsSound.deleteLinkType` — every write keeps a catalog sound
-/

namespace LinkCatalog.Catalog

/-- Every link type is stored under its identifier and has all names, and no two link types of a
    space have the same name. -/
structure IsSound (catalog : Catalog) : Prop where
  id_eq : ∀ {id row}, catalog.linkTypes.find? id = some row → row.id = id
  id_ne_nil : ∀ {id row}, catalog.linkTypes.find? id = some row → id ≠ .nil
  named : ∀ {id row}, catalog.linkTypes.find? id = some row → row.IsNamed
  id_of_name : ∀ {id row id' row'}, catalog.linkTypes.find? id = some row →
    catalog.linkTypes.find? id' = some row' → row.spaceId = row'.spaceId → row.name = row'.name →
    id = id'

theorem isSound_of_rows_eq_nil {catalog : Catalog} (h : catalog.linkTypes.rows = []) :
    catalog.IsSound := by
  have hnone : ∀ id, catalog.linkTypes.find? id = none := by
    intro id
    simp [Table.find?, h]
  constructor <;> simp [hnone]

namespace IsSound

variable {catalog after : Catalog} {row : LinkType} {now : Instant}

/-- A row may be put into a sound catalog if it has an identifier and all names, and its name is
    free. -/
theorem putLinkType (hsound : catalog.IsSound) (hid : row.id ≠ .nil) (hnamed : row.IsNamed)
    (hfree : catalog.isNameTaken row = false) : (catalog.putLinkType row).IsSound := by
  rw [isNameTaken_eq_false_iff] at hfree
  refine ⟨fun {id found} h => ?_, fun {id found} h => ?_, fun {id found} h => ?_,
    fun {id found id' found'} h h' hspace hname => ?_⟩
  · exact Table.id_of_find? h
  · rw [find?_putLinkType] at h
    split at h
    · next heq =>
      rw [heq]
      exact hid
    · exact hsound.id_ne_nil h
  · rw [find?_putLinkType] at h
    split at h
    · cases h
      exact hnamed
    · exact hsound.named h
  · rw [find?_putLinkType] at h h'
    split at h
    · next heq =>
      cases h
      split at h'
      · next heq' => rw [heq, heq']
      · next hne' => exact absurd hname.symm (hfree _ _ h' hne' hspace.symm)
    · next hne =>
      split at h'
      · cases h'
        exact absurd hname (hfree _ _ h hne hspace)
      · exact hsound.id_of_name h h' hspace hname

/-- A catalog that has lost some of its rows is still sound. -/
theorem of_find?_imp (hsound : catalog.IsSound)
    (h : ∀ {id row}, after.linkTypes.find? id = some row →
      catalog.linkTypes.find? id = some row) : after.IsSound :=
  ⟨fun hfound => hsound.id_eq (h hfound), fun hfound => hsound.id_ne_nil (h hfound),
    fun hfound => hsound.named (h hfound),
    fun hfound hfound' => hsound.id_of_name (h hfound) (h hfound')⟩

theorem createLinkType {stored : LinkType} {fresh : Uuid} (hsound : catalog.IsSound)
    (hfresh : fresh ≠ .nil) (hwrite : catalog.createLinkType row fresh now = .ok (stored, after)) :
    after.IsSound := by
  obtain ⟨hnamed, -, hfree, rfl, rfl⟩ := createLinkType_eq_ok_iff.1 hwrite
  exact hsound.putLinkType (LinkType.created_id_ne_nil hfresh) hnamed hfree

theorem saveLinkType {saved : LinkType} (hsound : catalog.IsSound)
    (hwrite : catalog.saveLinkType row now = .ok (saved, after)) : after.IsSound := by
  obtain ⟨hnamed, stored, hstored, -, hfree, rfl, rfl⟩ := saveLinkType_eq_ok_iff.1 hwrite
  exact hsound.putLinkType (hsound.id_ne_nil hstored) hnamed hfree

theorem deleteLinkType {spaceId id : Uuid} (hsound : catalog.IsSound)
    (hwrite : catalog.deleteLinkType spaceId id = .ok after) : after.IsSound := by
  obtain ⟨stored, hstored, -, rfl⟩ := deleteLinkType_eq_ok_iff.1 hwrite
  refine hsound.of_find?_imp fun {other found} hfound => ?_
  rw [Table.find?_erase] at hfound
  split at hfound
  · cases hfound
  · exact hfound

end IsSound

end LinkCatalog.Catalog
