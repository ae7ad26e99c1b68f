import LinkCatalog.Proofs.Service.History

/-!
# Revisions

An update is for one version of a row, and leaves the next one behind. From then on the row stays
ahead of the version that the update was for: saves get it further, a deletion removes it, and only
a creation could start its versions anew.

## Main definitions

- `Command.revision?` — the row and the version that an update is for
- `Catalog.IsAhead` — a row is ahead of a version by a number of saves

## Main statements

- `Catalog.IsAhead.turn`, `Catalog.IsAhead.afterTurns` — turns keep a row ahead
- `Turn.isAhead_of_update` — a successful update gets its row ahead of the version that it is for
-/

namespace LinkCatalog

namespace Command

/-- The row and the version that an update is for. A document without a version is for version 0. -/
def revision? : Command → Option (Uuid × Int32)
  | .update _ payload _ _ => payload.id?.map fun id => (id, payload.version?.getD 0)
  | _ => none

/-- The command is an update of the row with an identifier, but for another version of it. -/
def revisesOther (command : Command) (id : Uuid) (version : Int32) : Bool :=
  command.revision?.any fun revision => revision.1 == id && revision.2 != version

def IsCreation : Command → Prop
  | .create .. => True
  | _ => False

theorem revision?_update (request : Request) {settings : Settings} {payload : SingleDocument}
    {spaceId : Uuid} {identity : Option Uuid} {row : LinkType}
    (hrow : Service.rowToUpdate settings payload spaceId identity = .ok row) :
    (update request payload spaceId identity).revision? = some (row.id, row.version) := by
  obtain ⟨-, -, -, described, hid, hdescribed, rfl⟩ := Service.rowToUpdate_eq_ok_iff.1 hrow
  have hversion := SingleDocument.version_eq_getD_of_toLinkType hdescribed
  simp [revision?, hid, hversion]

end Command

namespace Catalog

/-- The row with an identifier, if there is one, is ahead of a version by at least one save and by
    no more than `most` further ones. -/
def IsAhead (id : Uuid) (version : Int32) (most : Nat) (catalog : Catalog) : Prop :=
  ∀ row, catalog.linkTypes.find? id = some row →
    ∃ saves ≤ most, row.version = version + 1 + Int32.ofNat saves

namespace IsAhead

variable {id : Uuid} {version : Int32} {most : Nat} {catalog : Catalog}

/-- A row that is ahead of a version does not have it, unless the versions have come round. -/
theorem version_ne {row : LinkType} (h : catalog.IsAhead id version most)
    (hmost : most + 1 < UInt32.size) (hrow : catalog.linkTypes.find? id = some row) :
    row.version ≠ version := by
  obtain ⟨saves, hsaves, hahead⟩ := h row hrow
  intro hversion
  have hsum : version + Int32.ofNat (1 + saves) = version := by
    rw [Int32.ofNat_add, ← Int32.add_assoc]
    exact hahead.symm.trans hversion
  have hzero : Int32.ofNat (1 + saves) = 0 := Int32.add_eq_left.1 hsum
  have hbits : (1 + saves) % 2 ^ 32 = 0 := by
    simpa using congrArg (fun version => version.toBitVec.toNat) hzero
  have hsize : most + 1 < 2 ^ 32 := hmost
  omega

theorem mono (h : catalog.IsAhead id version most) {more : Nat} (hle : most ≤ more) :
    catalog.IsAhead id version more := by
  intro row hrow
  obtain ⟨saves, hsaves, hahead⟩ := h row hrow
  exact ⟨saves, hsaves.trans hle, hahead⟩

/-- A turn keeps a row ahead of a version. Only updates from other versions get it further. -/
theorem turn (h : catalog.IsAhead id version most) (hmost : most + 1 < UInt32.size) {turn : Turn}
    (hcreation : ¬ turn.command.IsCreation) :
    (turn.after catalog).IsAhead id version
      (most + if turn.command.revisesOther id version then 1 else 0) := by
  have heffect := turn.effect_run catalog
  generalize turn.answer catalog = answer at heffect
  generalize turn.after catalog = after at heffect ⊢
  cases heffect with
  | refused failure => exact h.mono (Nat.le_add_right _ _)
  | read hread => exact h.mono (Nat.le_add_right _ _)
  | created hcommand hrow hwrite =>
    rw [hcommand] at hcreation
    exact absurd trivial hcreation
  | @updated request payload spaceId identity row saved included _ hcommand hrow hwrite =>
    obtain ⟨stored, ⟨hstored, hsaved, hothers, -, -⟩, hversion, hresult⟩ :=
      replaces_of_saveLinkType hwrite
    intro found hfound
    by_cases hid : saved.id = id
    · rw [← hid, hsaved] at hfound
      cases hfound
      rw [hid] at hstored
      -- The row is ahead of the version, so the update that has met it was for another version.
      have hne := h.version_ne hmost hstored
      have hrowId : row.id = id := by rw [← hid, hresult, LinkType.saved_id]
      have hother : turn.command.revisesOther id version = true := by
        rw [hversion] at hne
        simp [Command.revisesOther, hcommand, Command.revision?_update request hrow, hrowId, hne]
      obtain ⟨saves, hsaves, hahead⟩ := h stored hstored
      refine ⟨saves + 1, ?_, ?_⟩
      · rw [if_pos hother]
        omega
      · rw [hresult, LinkType.saved, hahead, Int32.ofNat_add, ← Int32.add_assoc]
        rfl
    · rw [hothers id (Ne.symm hid)] at hfound
      exact h.mono (Nat.le_add_right _ _) found hfound
  | @deleted spaceId deletedId _ hcommand hwrite =>
    obtain ⟨stored, ⟨-, hremoved, hothers, -, -⟩, -⟩ := removes_of_deleteLinkType hwrite
    intro found hfound
    by_cases hid : id = deletedId
    · rw [hid, hremoved] at hfound
      cases hfound
    · rw [hothers id hid] at hfound
      exact h.mono (Nat.le_add_right _ _) found hfound

theorem afterTurns (h : catalog.IsAhead id version most) {turns : List Turn}
    (hcreation : ∀ turn ∈ turns, ¬ turn.command.IsCreation)
    (hmost : most + turns.countP (fun turn => turn.command.revisesOther id version) + 1 <
      UInt32.size) :
    (catalog.afterTurns turns).IsAhead id version
      (most + turns.countP fun turn => turn.command.revisesOther id version) := by
  induction turns generalizing catalog most with
  | nil => exact h
  | cons turn turns ih =>
    rw [List.countP_cons] at hmost ⊢
    have hturn := h.turn (by omega) (hcreation turn (by simp))
    have hrest := ih hturn (fun other hother => hcreation other (by simp [hother])) (by omega)
    exact hrest.mono (by omega)

end IsAhead

end Catalog

/-- A successful update meets the version that it is for, and leaves the next one behind. -/
theorem Turn.isAhead_of_update {turn : Turn} {request : Request} {payload : SingleDocument}
    {spaceId id : Uuid} {identity : Option Uuid} {version : Int32} {catalog : Catalog}
    {response : Response Document}
    (hcommand : turn.command = .update request payload spaceId identity)
    (hid : payload.id? = some id) (hversion : payload.version? = some version)
    (hanswer : turn.answer catalog = .ok response) :
    (∃ stored, catalog.linkTypes.find? id = some stored ∧ stored.version = version) ∧
      (turn.after catalog).IsAhead id version 0 := by
  rcases Turn.update_cases hcommand catalog with ⟨failure, hfailure, -⟩ |
    ⟨row, saved, included, hrow, -, hwrite, -⟩
  · rw [hanswer] at hfailure
    cases hfailure
  have hrevision := Command.revision?_update request hrow
  obtain ⟨rfl, rfl⟩ : id = row.id ∧ version = row.version := by
    simpa [Command.revision?, hid, hversion] using hrevision
  obtain ⟨stored, ⟨hstored, hsaved, -⟩, hstoredVersion, hresult⟩ :=
    Catalog.replaces_of_saveLinkType hwrite
  have hsavedId : saved.id = row.id := by rw [hresult, LinkType.saved_id]
  rw [hsavedId] at hstored hsaved
  refine ⟨⟨stored, hstored, hstoredVersion⟩, fun found hfound => ⟨0, Nat.le_refl 0, ?_⟩⟩
  rw [hsaved] at hfound
  cases hfound
  rw [hresult, LinkType.saved, hstoredVersion]
  exact (Int32.add_zero _).symm

end LinkCatalog
