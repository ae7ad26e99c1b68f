import Mathlib.Data.List.Induction
import Mathlib.Data.List.Infix
import LinkCatalog.Proofs.Catalog.Soundness
import LinkCatalog.Proofs.Service.Effects

/-!
# The history of a row

A service that has run for a while has a journal: which commands came in, and what each was
answered. The journal alone tells of every stored row when it was created, how often it was updated
since, and when that was for the last time.

## Main definitions

- `Entry` — a turn and its answer
- `Catalog.afterTurns`, `Catalog.journal` — turns one after the other
- `LinkType.HasHistory` — the journal tells the version and the times of a row
- `Catalog.IsChronicled` — the invariant: the catalog is sound, and every row has a history

## Main statements

- `Catalog.IsChronicled.turn` — a turn keeps the invariant, with its entry in the journal
- `Catalog.isChronicled_afterTurns` — the invariant holds after every turn of a service that starts
  without link types
-/

namespace LinkCatalog

/-- A turn and its answer. -/
structure Entry where
  turn : Turn
  answer : Except Failure (Response Document)

namespace Entry

/-- The identifier in the answer to a creation that succeeded. -/
def created? (entry : Entry) : Option Uuid :=
  match entry.turn.command, entry.answer with
  | .create .., .ok { body := some (.single document), .. } => document.id?
  | _, _ => none

/-- The identifier in the document of an update that succeeded. -/
def updated? (entry : Entry) : Option Uuid :=
  match entry.turn.command, entry.answer with
  | .update _ payload _ _, .ok _ => payload.id?
  | _, _ => none

/-- The entry is a successful write of the row with the identifier. -/
def Writes (entry : Entry) (id : Uuid) : Prop :=
  entry.created? = some id ∨ entry.updated? = some id

instance (entry : Entry) (id : Uuid) : Decidable (entry.Writes id) := by
  unfold Writes
  infer_instance

end Entry

namespace Catalog

/-- The catalog after some turns. -/
def afterTurns (start : Catalog) (turns : List Turn) : Catalog :=
  turns.foldl (fun catalog turn => turn.after catalog) start

theorem afterTurns_cons_of_isRead {turn : Turn} (hread : turn.command.IsRead) (start : Catalog)
    (turns : List Turn) : start.afterTurns (turn :: turns) = start.afterTurns turns :=
  congrArg (afterTurns · turns) (Turn.after_of_isRead hread start)

/-- Some turns, each with its answer. -/
def journal (start : Catalog) : List Turn → List Entry
  | [] => []
  | turn :: turns => ⟨turn, turn.answer start⟩ :: (turn.after start).journal turns

@[simp] theorem afterTurns_concat (start : Catalog) (turns : List Turn) (turn : Turn) :
    start.afterTurns (turns ++ [turn]) = turn.after (start.afterTurns turns) := by
  simp [afterTurns]

@[simp] theorem journal_concat (start : Catalog) (turns : List Turn) (turn : Turn) :
    start.journal (turns ++ [turn]) =
      start.journal turns ++ [⟨turn, turn.answer (start.afterTurns turns)⟩] := by
  induction turns generalizing start with
  | nil => rfl
  | cons first rest ih =>
    rw [List.cons_append, journal, ih]
    rfl

end Catalog

-- ════════════════════════════════════════════════════════════════════════
-- Histories of single rows
-- ════════════════════════════════════════════════════════════════════════

/-- The last entry that is a successful write of the row with the identifier. -/
def lastWrite? (journal : List Entry) (id : Uuid) : Option Entry :=
  (journal.filter (fun entry => entry.Writes id)).getLast?

theorem lastWrite?_concat (journal : List Entry) (entry : Entry) (id : Uuid) :
    lastWrite? (journal ++ [entry]) id =
      if entry.Writes id then some entry else lastWrite? journal id := by
  unfold lastWrite?
  by_cases h : entry.Writes id <;> simp [h]

/-- The number of entries that are successful updates of the row with the identifier. -/
def updateCount (journal : List Entry) (id : Uuid) : Nat :=
  journal.countP fun entry => entry.updated? = some id

theorem updateCount_concat (journal : List Entry) (entry : Entry) (id : Uuid) :
    updateCount (journal ++ [entry]) id =
      updateCount journal id + if entry.updated? = some id then 1 else 0 := by
  simp [updateCount, List.countP_append, List.countP_singleton]

namespace LinkType

/-- The journal tells the version and the times of a row: it was created by the last creation with
    its identifier, and updated as often as its version says. -/
def HasHistory (row : LinkType) (journal : List Entry) : Prop :=
  ∃ before creation since, journal = before ++ creation :: since ∧
    creation.created? = some row.id ∧ (∀ entry ∈ since, entry.created? ≠ some row.id) ∧
    row.version.toInt = updateCount since row.id ∧ row.createdAt = creation.turn.now ∧
    (lastWrite? journal row.id).map (·.turn.now) = some row.updatedAt

namespace HasHistory

variable {row stored : LinkType} {journal : List Entry} {entry : Entry}

/-- A row has a history from its creation on. -/
theorem of_created (hcreated : entry.created? = some row.id) (hversion : row.version = 0)
    (hcreatedAt : row.createdAt = entry.turn.now) (hupdatedAt : row.updatedAt = entry.turn.now) :
    row.HasHistory (journal ++ [entry]) := by
  refine ⟨journal, entry, [], rfl, hcreated, by simp, by simp [hversion, updateCount],
    hcreatedAt, ?_⟩
  rw [lastWrite?_concat, if_pos (.inl hcreated), hupdatedAt]
  rfl

/-- A row that is not written keeps its history. -/
theorem concat (h : row.HasHistory journal) (hentry : ¬ entry.Writes row.id) :
    row.HasHistory (journal ++ [entry]) := by
  obtain ⟨before, creation, since, rfl, hcreation, hsince, hversion, hcreatedAt, hlast⟩ := h
  refine ⟨before, creation, since ++ [entry], by simp, hcreation, ?_, ?_, hcreatedAt, ?_⟩
  · intro other hother
    rcases List.mem_append.1 hother with hother | hother
    · exact hsince other hother
    · rw [List.mem_singleton.1 hother]
      exact fun hcreated => hentry (.inl hcreated)
  · rw [updateCount_concat, if_neg fun hupdated => hentry (.inr hupdated), hversion]
    rfl
  · rw [lastWrite?_concat, if_neg hentry, hlast]

/-- The history of an updated row is one entry longer than that of the row before. -/
theorem update (h : stored.HasHistory journal) (hid : row.id = stored.id)
    (hcreated : entry.created? = none) (hupdated : entry.updated? = some row.id)
    (hversion : row.version.toInt = stored.version.toInt + 1)
    (hcreatedAt : row.createdAt = stored.createdAt) (hupdatedAt : row.updatedAt = entry.turn.now) :
    row.HasHistory (journal ++ [entry]) := by
  obtain ⟨before, creation, since, rfl, hcreation, hsince, hstored, hstoredAt, -⟩ := h
  refine ⟨before, creation, since ++ [entry], by simp, hid ▸ hcreation, ?_, ?_,
    hcreatedAt.trans hstoredAt, ?_⟩
  · intro other hother
    rcases List.mem_append.1 hother with hother | hother
    · exact hid ▸ hsince other hother
    · rw [List.mem_singleton.1 hother, hcreated]
      simp
  · rw [updateCount_concat, if_pos hupdated, hversion, hstored, hid]
    rfl
  · rw [lastWrite?_concat, if_pos (.inr hupdated), hupdatedAt]
    rfl

end HasHistory

end LinkType

-- ════════════════════════════════════════════════════════════════════════
-- Histories of all rows
-- ════════════════════════════════════════════════════════════════════════

namespace Catalog

/-- The catalog is sound, and the journal tells the history of every row in it. -/
structure IsChronicled (catalog : Catalog) (journal : List Entry) : Prop where
  sound : catalog.IsSound
  history : ∀ {id row}, catalog.linkTypes.find? id = some row → row.HasHistory journal

/-- What a row that is found under an identifier after a change of another row was before. -/
theorem DiffersAt.find?_eq_some {id other : Uuid} {before after : Catalog} {row : LinkType}
    (h : DiffersAt id before after) (hne : other ≠ id)
    (hfound : after.linkTypes.find? other = some row) :
    before.linkTypes.find? other = some row := by
  rw [← h.1 other hne, hfound]

namespace IsChronicled

variable {catalog after : Catalog} {journal : List Entry} {entry : Entry}

/-- A turn that writes nothing keeps the histories. -/
theorem unwritten (h : catalog.IsChronicled journal) (hcreated : entry.created? = none)
    (hupdated : entry.updated? = none) : catalog.IsChronicled (journal ++ [entry]) := by
  refine ⟨h.sound, fun hfound => (h.history hfound).concat ?_⟩
  simp [Entry.Writes, hcreated, hupdated]

/-- A creation begins the history of its row. -/
theorem created {row stored : LinkType} {fresh : Uuid} (h : catalog.IsChronicled journal)
    (hfresh : fresh ≠ .nil)
    (hwrite : catalog.createLinkType row fresh entry.turn.now = .ok (stored, after))
    (hcreated : entry.created? = some stored.id) (hupdated : entry.updated? = none) :
    after.IsChronicled (journal ++ [entry]) := by
  obtain ⟨-, hstored, hdiffers⟩ := adds_of_createLinkType hwrite
  obtain ⟨-, -, -, hrow, -⟩ := createLinkType_eq_ok_iff.1 hwrite
  refine ⟨h.sound.createLinkType hfresh hwrite, fun {id found} hfound => ?_⟩
  by_cases hid : id = stored.id
  · rw [hid, hstored] at hfound
    cases hfound
    exact .of_created hcreated (by rw [hrow]; rfl) (by rw [hrow]; rfl) (by rw [hrow]; rfl)
  · have hbefore := hdiffers.find?_eq_some hid hfound
    refine (h.history hbefore).concat ?_
    rw [h.sound.id_eq hbefore]
    simp [Entry.Writes, hcreated, hupdated, Ne.symm hid]

/-- An update goes on with the history of its row. -/
theorem updated {row saved : LinkType} (h : catalog.IsChronicled journal)
    (hversions : catalog.VersionsBelowMax)
    (hwrite : catalog.saveLinkType row entry.turn.now = .ok (saved, after))
    (hcreated : entry.created? = none) (hupdated : entry.updated? = some saved.id) :
    after.IsChronicled (journal ++ [entry]) := by
  obtain ⟨stored, ⟨hstored, hsaved, hdiffers⟩, -, hrow⟩ := replaces_of_saveLinkType hwrite
  refine ⟨h.sound.saveLinkType hwrite, fun {id found} hfound => ?_⟩
  by_cases hid : id = saved.id
  · rw [hid, hsaved] at hfound
    cases hfound
    have hversion := hversions _ (Table.mem_of_find? hstored)
    refine (h.history hstored).update (h.sound.id_eq hstored).symm hcreated hupdated ?_ ?_ ?_
    · rw [hrow, LinkType.toInt_version_saved hversion]
    · rw [hrow, LinkType.saved]
    · rw [hrow, LinkType.saved]
  · have hbefore := hdiffers.find?_eq_some hid hfound
    refine (h.history hbefore).concat ?_
    rw [h.sound.id_eq hbefore]
    simp [Entry.Writes, hcreated, hupdated, Ne.symm hid]

/-- A deletion ends the history of its row, and keeps those of all others. -/
theorem deleted {spaceId id : Uuid} (h : catalog.IsChronicled journal)
    (hwrite : catalog.deleteLinkType spaceId id = .ok after) (hcreated : entry.created? = none)
    (hupdated : entry.updated? = none) : after.IsChronicled (journal ++ [entry]) := by
  obtain ⟨stored, ⟨-, hremoved, hdiffers⟩, -⟩ := removes_of_deleteLinkType hwrite
  refine ⟨h.sound.deleteLinkType hwrite, fun {other found} hfound => ?_⟩
  have hne : other ≠ id := by
    rintro rfl
    rw [hremoved] at hfound
    cases hfound
  exact (h.unwritten hcreated hupdated).history (hdiffers.find?_eq_some hne hfound)

/-- **One turn.** The histories are complete after a turn with its entry in the journal. -/
theorem turn (h : catalog.IsChronicled journal) (turn : Turn) (hfresh : turn.fresh ≠ .nil)
    (hversions : catalog.VersionsBelowMax) :
    (turn.after catalog).IsChronicled (journal ++ [⟨turn, turn.answer catalog⟩]) := by
  have heffect := turn.effect_run catalog
  generalize turn.answer catalog = answer at heffect ⊢
  generalize turn.after catalog = after at heffect ⊢
  cases heffect with
  | refused failure =>
    refine h.unwritten ?_ ?_
    · cases hcommand : turn.command <;> simp [Entry.created?, hcommand]
    · cases hcommand : turn.command <;> simp [Entry.updated?, hcommand]
  | read hread =>
    refine h.unwritten ?_ ?_
    · cases hcommand : turn.command <;> simp_all [Entry.created?, Command.IsRead]
    · cases hcommand : turn.command <;> simp_all [Entry.updated?, Command.IsRead]
  | created hcommand hrow hwrite =>
    refine h.created hfresh hwrite ?_ ?_
    · simp only [Entry.created?, hcommand]
      rfl
    · simp only [Entry.updated?, hcommand]
  | updated hcommand hrow hwrite =>
    obtain ⟨-, -, -, described, hid, -, rfl⟩ := Service.rowToUpdate_eq_ok_iff.1 hrow
    obtain ⟨stored, -, -, hsaved⟩ := replaces_of_saveLinkType hwrite
    refine h.updated hversions hwrite ?_ ?_
    · simp only [Entry.created?, hcommand]
    · simp only [Entry.updated?, hcommand]
      rw [hid, hsaved, LinkType.saved_id]
  | deleted hcommand hwrite =>
    refine h.deleted hwrite ?_ ?_
    · simp only [Entry.created?, hcommand]
    · simp only [Entry.updated?, hcommand]

end IsChronicled

/-- **All turns.** In a service that starts without link types, the catalog is sound after every
    turn, and the journal tells the version and the times of every row. -/
theorem isChronicled_afterTurns (start : Catalog) (turns : List Turn)
    (hstart : start.linkTypes.rows = []) (hfresh : ∀ turn ∈ turns, turn.fresh ≠ .nil)
    (hversions : ∀ done, done <+: turns → (start.afterTurns done).VersionsBelowMax) :
    ∀ done, done <+: turns → (start.afterTurns done).IsChronicled (start.journal done) := by
  intro done
  induction done using List.reverseRecOn with
  | nil =>
    intro _
    refine ⟨isSound_of_rows_eq_nil hstart, fun {id row} hfound => ?_⟩
    have hmem : row ∈ start.linkTypes.rows := Table.mem_of_find? hfound
    rw [hstart] at hmem
    cases hmem
  | append_singleton done turn ih =>
    intro hprefix
    have hdone : done <+: turns := (List.prefix_append done [turn]).trans hprefix
    have hturn : turn ∈ turns := hprefix.subset (by simp)
    rw [afterTurns_concat, journal_concat]
    exact (ih hdone).turn turn (hfresh turn hturn) (hversions done hdone)

/-- A row is created and renamed, and the journal has two entries then. -/
theorem isChronicled_afterTurns_sample :
    let turns := [Turn.sampleCreation, Turn.sampleRename]
    sampleStart.linkTypes.rows = [] ∧ (∀ turn ∈ turns, turn.fresh ≠ .nil) ∧
      (∀ done, done <+: turns → (sampleStart.afterTurns done).VersionsBelowMax) ∧
      ((sampleStart.afterTurns turns).linkTypes.find? LinkType.sample.id).map LinkType.version =
        some 1 ∧
      (sampleStart.afterTurns turns).IsChronicled (sampleStart.journal turns) := by
  intro turns
  have hstart : sampleStart.linkTypes.rows = [] := rfl
  have hfresh : ∀ turn ∈ turns, turn.fresh ≠ .nil := by decide
  have hinits : ∀ done ∈ turns.inits, (sampleStart.afterTurns done).VersionsBelowMax := by
    decide +kernel
  have hversions : ∀ done, done <+: turns → (sampleStart.afterTurns done).VersionsBelowMax :=
    fun done hdone => hinits done ((List.mem_inits done turns).2 hdone)
  refine ⟨hstart, hfresh, hversions, by decide +kernel, ?_⟩
  exact isChronicled_afterTurns sampleStart turns hstart hfresh hversions turns (List.prefix_refl _)

end Catalog

end LinkCatalog
