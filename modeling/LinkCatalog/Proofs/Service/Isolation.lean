import Mathlib.Tactic.ByContra
import LinkCatalog.Proofs.Service.Effects

/-!
# Isolation of spaces

A deletion through one space never touches a row of another one. An update is not as careful: it
looks at the space of the path and at the space of the document, but not at the space in which the
row is stored, so that it can take a row over from another space. This is exactly when isolation
fails.

## Main definitions

- `Turn.IsIsolated` — a turn leaves the rows of other spaces alone
- `Turn.TakesOver` — an update that names a row of another space and passes every check

## Main statements

- `Turn.isIsolated_iff` — a write is isolated unless it takes a row over, and what it does then
-/

namespace LinkCatalog

namespace Command

/-- The space through which an update or a deletion comes. -/
def writtenSpace? : Command → Option Uuid
  | .update _ _ spaceId _ | .delete spaceId _ => some spaceId
  | _ => none

/-- The identifier of the row that an update or a deletion is for. -/
def namedRow? : Command → Option Uuid
  | .update _ payload _ _ => payload.id?
  | .delete _ id => some id
  | _ => none

end Command

namespace Turn

open Service

/-- A turn leaves the rows of all other spaces as they are, and fails if it is for one of them. -/
structure IsIsolated (turn : Turn) (catalog : Catalog) (spaceId : Uuid) : Prop where
  unchanged : ∀ id row, catalog.linkTypes.find? id = some row → row.spaceId ≠ spaceId →
    (turn.after catalog).linkTypes.find? id = some row
  refused : ∀ id row, turn.command.namedRow? = some id → catalog.linkTypes.find? id = some row →
    row.spaceId ≠ spaceId → ∃ failure, turn.answer catalog = .error failure

/-- An update through a space names a row that is stored in another one, and nothing else is wrong
    with it. -/
def TakesOver (turn : Turn) (catalog : Catalog) (spaceId : Uuid) (stored : LinkType) : Prop :=
  catalog.linkTypes.find? stored.id = some stored ∧ stored.spaceId ≠ spaceId ∧
    ∃ request payload identity described, turn.command = .update request payload spaceId identity ∧
      turn.settings.mutationsEnabled = true ∧ identity ≠ none ∧
      (payload.spaceId? = none ∨ payload.spaceId? = some spaceId) ∧
      payload.id? = some stored.id ∧ payload.toLinkType = .ok described ∧ described.IsNamed ∧
      described.version = stored.version ∧ catalog.HasRelated { described with spaceId } ∧
      catalog.isNameTaken { described with spaceId } = false

variable {turn : Turn} {catalog : Catalog} {spaceId : Uuid} {stored : LinkType}

/-- A turn that fails and changes nothing is isolated. -/
theorem isIsolated_of_error {failure : Failure} (hanswer : turn.answer catalog = .error failure)
    (hafter : turn.after catalog = catalog) : turn.IsIsolated catalog spaceId := by
  refine ⟨fun id row hrow _ => ?_, fun id row _ _ _ => ⟨failure, hanswer⟩⟩
  rw [hafter, hrow]

/-- A turn that changes no row but a row of its own space, which is the one that it names, is
    isolated. -/
theorem isIsolated_of_differsAt (hnamed : turn.command.namedRow? = some stored.id)
    (hstored : catalog.linkTypes.find? stored.id = some stored) (hspace : stored.spaceId = spaceId)
    (hdiffers : Catalog.DiffersAt stored.id catalog (turn.after catalog)) :
    turn.IsIsolated catalog spaceId := by
  refine ⟨fun id row hrow hother => ?_, fun id row hid hrow hother => ?_⟩
  · have hne : id ≠ stored.id := by
      rintro rfl
      rw [hstored] at hrow
      cases hrow
      exact hother hspace
    rw [hdiffers.1 id hne, hrow]
  · rw [hnamed] at hid
    cases hid
    rw [hstored] at hrow
    cases hrow
    exact absurd hspace hother

-- ════════════════════════════════════════════════════════════════════════
-- Deletions
-- ════════════════════════════════════════════════════════════════════════

/-- Deletions are isolated, because a row is only found in its own space. -/
theorem isIsolated_of_delete {id : Uuid} (hcommand : turn.command = .delete spaceId id)
    (catalog : Catalog) : turn.IsIsolated catalog spaceId := by
  rcases delete_cases hcommand catalog with ⟨failure, hanswer, hafter⟩ | ⟨hwrite, -⟩
  · exact isIsolated_of_error hanswer hafter
  · obtain ⟨stored, ⟨hstored, -, hdiffers⟩, hspace⟩ := Catalog.removes_of_deleteLinkType hwrite
    obtain rfl : stored.id = id := Table.id_of_find? hstored
    exact isIsolated_of_differsAt (by rw [hcommand]; rfl) hstored hspace hdiffers

-- ════════════════════════════════════════════════════════════════════════
-- Updates
-- ════════════════════════════════════════════════════════════════════════

/-- The conditions under which a row is taken over, in terms of the row that the request is for. -/
theorem takesOver_iff :
    turn.TakesOver catalog spaceId stored ↔
      catalog.linkTypes.find? stored.id = some stored ∧ stored.spaceId ≠ spaceId ∧
        ∃ request payload identity row,
          turn.command = .update request payload spaceId identity ∧
          rowToUpdate turn.settings payload spaceId identity = .ok row ∧ row.id = stored.id ∧
          row.IsNamed ∧ row.version = stored.version ∧ catalog.HasRelated row ∧
          catalog.isNameTaken row = false := by
  unfold TakesOver
  refine and_congr_right fun _ => and_congr_right fun _ => ?_
  constructor
  · rintro ⟨request, payload, identity, described, hcommand, hmutations, hidentity, hspace, hid,
      hdescribed, hnamed, hversion, hrelated, hfree⟩
    have hrowId : described.id = stored.id := SingleDocument.id_of_toLinkType hdescribed hid
    exact ⟨request, payload, identity, { described with spaceId }, hcommand,
      rowToUpdate_eq_ok_iff.2 ⟨hmutations, hidentity, hspace, described, by rw [hid, hrowId],
        hdescribed, rfl⟩, hrowId, hnamed, hversion, hrelated, hfree⟩
  · rintro ⟨request, payload, identity, row, hcommand, hrow, hrowId, hnamed, hversion, hrelated,
      hfree⟩
    obtain ⟨hmutations, hidentity, hspace, described, hid, hdescribed, rfl⟩ :=
      rowToUpdate_eq_ok_iff.1 hrow
    exact ⟨request, payload, identity, described, hcommand, hmutations, hidentity, hspace,
      hid.trans (congrArg some hrowId), hdescribed, hnamed, hversion, hrelated, hfree⟩

theorem spaceId_of_rowToUpdate {settings : Settings} {payload : SingleDocument}
    {identity : Option Uuid} {row : LinkType}
    (h : rowToUpdate settings payload spaceId identity = .ok row) : row.spaceId = spaceId := by
  obtain ⟨-, -, -, described, -, -, rfl⟩ := rowToUpdate_eq_ok_iff.1 h
  rfl

/-- What an update does that takes a row over: it succeeds, and the row belongs to the space of the
    path from then on. -/
theorem TakesOver.replaces (h : turn.TakesOver catalog spaceId stored) :
    ∃ row response, turn.answer catalog = .ok response ∧ row.id = stored.id ∧
      row.spaceId = spaceId ∧ Catalog.Replaces stored row catalog (turn.after catalog) := by
  obtain ⟨hstored, -, request, payload, identity, row, hcommand, hrow, hid, hnamed, hversion,
    hrelated, hfree⟩ := takesOver_iff.1 h
  rw [← hid] at hstored
  obtain ⟨response, hanswer, hreplaces⟩ := replaces_of_update hcommand hrow hnamed hrelated hstored
    hversion.symm hfree
  refine ⟨_, response, hanswer, ?_, ?_, hreplaces⟩
  · rw [LinkType.saved_id, hid]
  · rw [LinkType.saved, spaceId_of_rowToUpdate hrow]

/-- An update that does not take a row over is isolated. -/
theorem isIsolated_of_update {request : Request} {payload : SingleDocument} {identity : Option Uuid}
    (hcommand : turn.command = .update request payload spaceId identity)
    (h : ∀ stored, ¬ turn.TakesOver catalog spaceId stored) : turn.IsIsolated catalog spaceId := by
  rcases update_cases hcommand catalog with ⟨failure, hanswer, hafter, -⟩ |
    ⟨row, saved, included, hrow, hrelated, hwrite, -⟩
  · exact isIsolated_of_error hanswer hafter
  obtain ⟨hnamed, stored, hstored, hversion, hfree, -⟩ := Catalog.saveLinkType_eq_ok_iff.1 hwrite
  obtain ⟨found, ⟨-, -, hdiffers⟩, -, hsaved⟩ := Catalog.replaces_of_saveLinkType hwrite
  have hid : stored.id = row.id := Table.id_of_find? hstored
  rw [← hid] at hstored
  have hown : stored.spaceId = spaceId := by
    by_contra hother
    exact h stored (takesOver_iff.2 ⟨hstored, hother, request, payload, identity, row, hcommand,
      hrow, hid.symm, hnamed, hversion.symm, hrelated, hfree⟩)
  rw [hsaved, LinkType.saved_id, ← hid] at hdiffers
  refine isIsolated_of_differsAt ?_ hstored hown hdiffers
  obtain ⟨-, -, -, described, hdescribed, -, rfl⟩ := rowToUpdate_eq_ok_iff.1 hrow
  rw [hcommand, hid]
  exact hdescribed

-- ════════════════════════════════════════════════════════════════════════
-- All writes
-- ════════════════════════════════════════════════════════════════════════

/-- **Isolation.** A deletion or an update through a space leaves the rows of all other spaces as
    they are, and fails if it is for one of them, unless it is an update that passes all checks and
    names a row of another space. Then it succeeds, moves that row into its own space, and touches
    nothing else. -/
theorem isIsolated_iff (turn : Turn) (catalog : Catalog) (spaceId : Uuid)
    (h : turn.command.writtenSpace? = some spaceId) :
    (turn.IsIsolated catalog spaceId ↔ ∀ stored, ¬ turn.TakesOver catalog spaceId stored) ∧
      ∀ stored, turn.TakesOver catalog spaceId stored → ∃ row response,
        turn.answer catalog = .ok response ∧ row.id = stored.id ∧ row.spaceId = spaceId ∧
        Catalog.Replaces stored row catalog (turn.after catalog) := by
  refine ⟨⟨fun hisolated stored htakes => ?_, fun hnone => ?_⟩,
    fun stored htakes => htakes.replaces⟩
  · obtain ⟨row, response, -, hid, hspace, -, hafter, -⟩ := htakes.replaces
    have hunchanged := hisolated.unchanged stored.id stored htakes.1 htakes.2.1
    rw [← hid, hafter] at hunchanged
    exact htakes.2.1 (Option.some.inj hunchanged ▸ hspace)
  · cases hcommand : turn.command with
    | update request payload space identity =>
      rw [hcommand] at h
      obtain rfl : space = spaceId := Option.some.inj h
      exact isIsolated_of_update hcommand hnone
    | delete space id =>
      rw [hcommand] at h
      obtain rfl : space = spaceId := Option.some.inj h
      exact isIsolated_of_delete hcommand catalog
    | _ =>
      rw [hcommand] at h
      cases h

end Turn

/-- A space other than the one of the row for examples. -/
def Space.sampleOther : Space :=
  { Space.sample with id := ⟨7⟩, name := "elsewhere" }

/-- The row for examples in the other space. -/
def LinkType.sampleMoved : LinkType :=
  { LinkType.sample with spaceId := Space.sampleOther.id }

/-- The row for examples is updated through the other space. -/
def Turn.sampleTakeover : Turn :=
  .sample (.update .sample (.sample .sampleMoved) Space.sampleOther.id (some ⟨6⟩))

/-- The row for examples is taken over. -/
theorem Turn.isIsolated_iff_sampleTakeover :
    sampleTakeover.command.writtenSpace? = some Space.sampleOther.id ∧
      ¬ sampleTakeover.IsIsolated (Catalog.sample.putSpace .sampleOther) Space.sampleOther.id ∧
      ∃ row response,
        sampleTakeover.answer (Catalog.sample.putSpace .sampleOther) = .ok response ∧
        row.id = LinkType.sample.id ∧ row.spaceId = Space.sampleOther.id ∧
        Catalog.Replaces .sample row (Catalog.sample.putSpace .sampleOther)
          (sampleTakeover.after (Catalog.sample.putSpace .sampleOther)) := by
  have hspace : sampleTakeover.command.writtenSpace? = some Space.sampleOther.id := rfl
  have hnamed : LinkType.sampleMoved.IsNamed := by decide
  have hrelated : (Catalog.sample.putSpace .sampleOther).HasRelated .sampleMoved :=
    ⟨⟨.sample, rfl⟩, .sampleOther, rfl⟩
  have htakes : sampleTakeover.TakesOver (Catalog.sample.putSpace .sampleOther)
      Space.sampleOther.id .sample :=
    ⟨by decide, by decide, _, _, _, .sampleMoved, rfl, rfl, by decide, .inr rfl, rfl,
      SingleDocument.toLinkType_resource hnamed, hnamed, rfl, hrelated, by decide⟩
  obtain ⟨hisolated, hreplaces⟩ := isIsolated_iff sampleTakeover
    (Catalog.sample.putSpace .sampleOther) Space.sampleOther.id hspace
  exact ⟨hspace, fun h => hisolated.1 h .sample htakes, hreplaces .sample htakes⟩

end LinkCatalog
