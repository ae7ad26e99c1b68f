import LinkCatalog.Proofs.Service.Effects

/-!
# Updates without a version

The document of an update says which version of the row it is for. A document that says nothing
about it is not refused for that: the version that is missing counts as 0, so that rows which were
never saved are replaced, whatever the client has seen of them.

## Main definitions

- `Turn.IsRefused` — a turn that fails and leaves the catalog as it is
- `Turn.MayReplace` — an update with which nothing but the version can be wrong

## Main statements

- `Turn.isRefused_iff_of_update` — which updates are refused
- `Turn.isRefused_iff_of_unversioned` — which updates without a version are refused, and what the
  others do
-/

namespace LinkCatalog

namespace Turn

open Service

/-- A turn fails and leaves the catalog as it is. -/
def IsRefused (turn : Turn) (catalog : Catalog) : Prop :=
  (∃ failure, turn.answer catalog = .error failure) ∧ turn.after catalog = catalog

/-- An update names a stored row, and nothing but the version can be wrong with it. -/
def MayReplace (turn : Turn) (catalog : Catalog) (stored : LinkType) : Prop :=
  catalog.linkTypes.find? stored.id = some stored ∧
    ∃ request payload spaceId identity described,
      turn.command = .update request payload spaceId identity ∧
      turn.settings.mutationsEnabled = true ∧ identity ≠ none ∧
      (payload.spaceId? = none ∨ payload.spaceId? = some spaceId) ∧
      payload.id? = some stored.id ∧ payload.toLinkType = .ok described ∧ described.IsNamed ∧
      catalog.HasRelated { described with spaceId } ∧
      catalog.isNameTaken { described with spaceId } = false

variable {turn : Turn} {catalog : Catalog} {stored : LinkType} {request : Request}
  {payload : SingleDocument} {spaceId : Uuid} {identity : Option Uuid}

theorem not_isRefused_of_ok {response : Response Document}
    (hanswer : turn.answer catalog = .ok response) : ¬ turn.IsRefused catalog := by
  rintro ⟨⟨failure, hfailure⟩, -⟩
  rw [hanswer] at hfailure
  cases hfailure

/-- The row that an update is about to save has the version that the document names, or 0. -/
theorem version_of_rowToUpdate {settings : Settings} {row : LinkType}
    (h : rowToUpdate settings payload spaceId identity = .ok row) :
    row.version = payload.version?.getD 0 := by
  obtain ⟨-, -, -, described, -, hdescribed, rfl⟩ := rowToUpdate_eq_ok_iff.1 h
  have hversion := SingleDocument.version_eq_getD_of_toLinkType hdescribed
  exact hversion

/-- The conditions under which a row may be replaced, in terms of the row that the request is
    for. -/
theorem mayReplace_iff (hcommand : turn.command = .update request payload spaceId identity) :
    turn.MayReplace catalog stored ↔
      ∃ row, rowToUpdate turn.settings payload spaceId identity = .ok row ∧ row.id = stored.id ∧
        catalog.linkTypes.find? row.id = some stored ∧ row.IsNamed ∧ catalog.HasRelated row ∧
        catalog.isNameTaken row = false := by
  constructor
  · rintro ⟨hstored, _, _, _, _, described, hupdate, hmutations, hidentity, hspace, hid, hdescribed,
      hnamed, hrelated, hfree⟩
    rw [hcommand] at hupdate
    cases hupdate
    have hrowId : described.id = stored.id := SingleDocument.id_of_toLinkType hdescribed hid
    rw [← hrowId] at hid hstored
    exact ⟨{ described with spaceId }, rowToUpdate_eq_ok_iff.2 ⟨hmutations, hidentity, hspace,
      described, hid, hdescribed, rfl⟩, hrowId, hstored, hnamed, hrelated, hfree⟩
  · rintro ⟨row, hrow, hrowId, hstored, hnamed, hrelated, hfree⟩
    obtain ⟨hmutations, hidentity, hspace, described, hid, hdescribed, rfl⟩ :=
      rowToUpdate_eq_ok_iff.1 hrow
    rw [hrowId] at hstored
    exact ⟨hstored, request, payload, spaceId, identity, described, hcommand, hmutations, hidentity,
      hspace, hid.trans (congrArg some hrowId), hdescribed, hnamed, hrelated, hfree⟩

/-- An update that may replace a row does so if it is for the version of that row. -/
theorem MayReplace.replaces (h : turn.MayReplace catalog stored)
    (hcommand : turn.command = .update request payload spaceId identity)
    (hversion : stored.version = payload.version?.getD 0) :
    ∃ row response, turn.answer catalog = .ok response ∧ row.id = stored.id ∧
      row.version = stored.version + 1 ∧
      Catalog.Replaces stored row catalog (turn.after catalog) := by
  obtain ⟨row, hrow, hid, hstored, hnamed, hrelated, hfree⟩ := (mayReplace_iff hcommand).1 h
  rw [← version_of_rowToUpdate hrow] at hversion
  obtain ⟨response, hanswer, hreplaces⟩ := replaces_of_update hcommand hrow hnamed hrelated hstored
    hversion hfree
  exact ⟨row.saved stored turn.now, response, hanswer, hid, rfl, hreplaces⟩

/-- An update is refused unless it may replace a row of the version that it is for. -/
theorem isRefused_iff_of_update
    (hcommand : turn.command = .update request payload spaceId identity) :
    turn.IsRefused catalog ↔
      ∀ stored, turn.MayReplace catalog stored → stored.version ≠ payload.version?.getD 0 := by
  constructor
  · intro hrefused stored hmay hversion
    obtain ⟨row, response, hanswer, -⟩ := hmay.replaces hcommand hversion
    exact not_isRefused_of_ok hanswer hrefused
  · intro hother
    rcases update_cases hcommand catalog with ⟨failure, hanswer, hafter, -⟩ |
      ⟨row, saved, included, hrow, hrelated, hwrite, -⟩
    · exact ⟨⟨failure, hanswer⟩, hafter⟩
    · obtain ⟨hnamed, stored, hstored, hversion, hfree, -⟩ :=
        Catalog.saveLinkType_eq_ok_iff.1 hwrite
      have hid : row.id = stored.id := (Table.id_of_find? hstored).symm
      have hmay : turn.MayReplace catalog stored :=
        (mayReplace_iff hcommand).2 ⟨row, hrow, hid, hstored, hnamed, hrelated, hfree⟩
      rw [version_of_rowToUpdate hrow] at hversion
      exact absurd hversion (hother stored hmay)

/-- **Updates without a version.** An update whose document names no version is refused unless the
    row that it names has version 0 and nothing else is wrong with it. Then it succeeds, and
    replaces that row. -/
theorem isRefused_iff_of_unversioned (turn : Turn) (catalog : Catalog) (request : Request)
    (payload : SingleDocument) (spaceId : Uuid) (identity : Option Uuid)
    (hcommand : turn.command = .update request payload spaceId identity)
    (hunversioned : payload.version? = none) :
    (turn.IsRefused catalog ↔
      ∀ stored, turn.MayReplace catalog stored → stored.version ≠ 0) ∧
    ∀ stored, turn.MayReplace catalog stored → stored.version = 0 →
      ∃ row response, turn.answer catalog = .ok response ∧ row.id = stored.id ∧ row.version = 1 ∧
        Catalog.Replaces stored row catalog (turn.after catalog) := by
  have hzero : payload.version?.getD 0 = 0 := by rw [hunversioned, Option.getD_none]
  constructor
  · rw [isRefused_iff_of_update hcommand, hzero]
  · intro stored hmay hversion
    obtain ⟨row, response, hanswer, hid, hnext, hreplaces⟩ :=
      hmay.replaces hcommand (hversion.trans hzero.symm)
    refine ⟨row, response, hanswer, hid, ?_, hreplaces⟩
    rw [hnext, hversion]
    rfl

end Turn

/-- A document for the row for examples that names no version. -/
def SingleDocument.sampleUnversioned : SingleDocument :=
  { data := some
      { type := linkTypesType
        id := some LinkType.sample.id
        attributes := some
          { name := some "Obstacle", topology := some Topology.dependency.name
            forwardName := some "blocks", reverseName := some "blocked by" }
        relationships := some
          { linkCategory := some (.ofResource categoriesType Category.sample.id "")
            space := none } } }

/-- The row for examples is updated by a document that names no version. -/
def Turn.sampleUnversioned : Turn :=
  .sample (.update .sample .sampleUnversioned Space.sample.id (some ⟨6⟩))

/-- The row for examples is replaced, although the document names no version. -/
theorem Turn.isRefused_iff_of_unversioned_sample :
    SingleDocument.sampleUnversioned.version? = none ∧
      ¬ sampleUnversioned.IsRefused .sample ∧
      ∃ row response, sampleUnversioned.answer .sample = .ok response ∧
        row.id = LinkType.sample.id ∧ row.version = 1 ∧
        Catalog.Replaces .sample row .sample (sampleUnversioned.after .sample) := by
  have hunversioned : SingleDocument.sampleUnversioned.version? = none := rfl
  have hrelated : Catalog.sample.HasRelated .sample := ⟨⟨.sample, rfl⟩, .sample, rfl⟩
  have hmay : sampleUnversioned.MayReplace .sample .sample :=
    ⟨by decide, _, _, _, _, _, rfl, rfl, by decide, .inl rfl, rfl, rfl, by decide, hrelated,
      by decide⟩
  obtain ⟨hrefused, hreplaces⟩ := isRefused_iff_of_unversioned sampleUnversioned .sample .sample
    .sampleUnversioned Space.sample.id (some ⟨6⟩) rfl hunversioned
  exact ⟨hunversioned, fun h => hrefused.1 h .sample hmay rfl, hreplaces .sample hmay rfl⟩

end LinkCatalog
