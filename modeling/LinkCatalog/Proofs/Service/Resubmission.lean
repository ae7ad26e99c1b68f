import LinkCatalog.Proofs.Document.RoundTrip
import LinkCatalog.Proofs.Service.Descriptions

/-!
# Saving what was shown

A client may take the document that a row was shown with, and send it back as an update. The
document is read back from its text, describes the row, and names its space and its version. So the
update is accepted, and changes nothing but the version and the time of the last change.

## Main definitions

- `SingleDocument.revised` — a document with another version and another time of change

## Main statements

- `Turn.shown_of_answer` — what a display answers with
- `Service.rowToUpdate_resource` — the resource of a row passes the checks of an update
- `Catalog.resaved_of_shown` — a shown document can be saved, and what that changes
-/

namespace LinkCatalog

/-- The document with another version and another time of change. -/
def SingleDocument.revised (document : SingleDocument) (version : Int32) (updatedAt : Instant) :
    SingleDocument :=
  { document with
    data := document.data.map fun data =>
      { data with
        attributes := data.attributes.map fun attributes =>
          { attributes with version := some version, updatedAt := some updatedAt } } }

/-- The resource of a row passes the checks of an update, and the update is for that row. -/
theorem Service.rowToUpdate_resource {settings : Settings} {request : Request} {row : LinkType}
    {included : List Included} {client : Uuid} (hmutations : settings.mutationsEnabled = true)
    (hnamed : row.IsNamed) :
    rowToUpdate settings { data := some (row.resource request row.spaceId), included } row.spaceId
      (some client) = .ok row := by
  rw [rowToUpdate_eq_ok_iff]
  exact ⟨hmutations, Option.some_ne_none client, .inr rfl, row, rfl,
    SingleDocument.toLinkType_resource hnamed, rfl⟩

/-- A display that has a body answers with the row and with what it refers to. -/
theorem Turn.shown_of_answer {turn : Turn} {catalog : Catalog} {request : Request} {spaceId : Uuid}
    {row : LinkType} {response : Response Document} {document : SingleDocument}
    (hcommand : turn.command = .display request spaceId row.id)
    (hrow : catalog.linkTypes.find? row.id = some row)
    (hanswer : turn.answer catalog = .ok response)
    (hbody : response.body = some (.single document)) :
    ∃ included, catalog.related request [row] = .ok included ∧
      document = { data := some (row.resource request spaceId), included } := by
  have hrows : Subject.rows catalog (.single spaceId row.id) = [row] := by
    rw [Subject.rows, hrow, Option.toList_some]
  rw [answer_of_display hcommand] at hanswer
  rcases Subject.body_of_answer hanswer with ⟨-, hnone⟩ | ⟨-, included, hincluded, hshown⟩
  · rw [hnone] at hbody
    cases hbody
  · rw [hrows] at hincluded hshown
    cases hbody.symm.trans hshown
    exact ⟨included, hincluded, rfl⟩

/-- **Saving what was shown.** Let a row have all names and a version that can be raised, and let no
    other row of its space have its name. If a display through its space answers with a document,
    the text of the document can be read, and an update with what is read, for the same request,
    succeeds. The row gets the next version and the time of the update, nothing else changes, and
    the answer is the document with these two. -/
theorem Catalog.resaved_of_shown (catalog : Catalog) (row : LinkType) (request : Request)
    (display : Turn) (response : Response Document) (document : SingleDocument)
    (hrow : catalog.linkTypes.find? row.id = some row) (hnamed : row.IsNamed)
    (hversion : row.version < Int32.maxValue)
    (hfree : ∀ id other, catalog.linkTypes.find? id = some other → id ≠ row.id →
      other.spaceId = row.spaceId → other.name ≠ row.name)
    (hdisplay : display.command = .display request row.spaceId row.id)
    (hanswer : display.answer catalog = .ok response)
    (hbody : response.body = some (.single document)) :
    ∃ value payload, Json.parse? document.toJson.compact = some value ∧
      SingleDocument.ofJson value = .ok payload ∧ ∀ (update : Turn) client,
        update.command = .update request payload row.spaceId (some client) →
        update.settings.mutationsEnabled = true →
        ∃ answer saved, update.answer catalog = .ok answer ∧ answer.status = .ok ∧
          answer.body = some (.single (document.revised saved.version update.now)) ∧
          Replaces row saved catalog (update.after catalog) ∧
          saved = { row with version := row.version + 1, updatedAt := update.now } ∧
          saved.version.toInt = row.version.toInt + 1 := by
  obtain ⟨included, hincluded, rfl⟩ := Turn.shown_of_answer hdisplay hrow hanswer hbody
  obtain ⟨htext, hread⟩ := (SingleDocument.inverts.roundTrips (by decide)).1
    { data := some (row.resource request row.spaceId), included }
  refine ⟨_, _, htext, hread, fun update client hupdate hmutations => ?_⟩
  have hwrite : catalog.saveLinkType row update.now =
      .ok (row.saved row update.now, catalog.putLinkType (row.saved row update.now)) :=
    saveLinkType_eq_ok_iff.2 ⟨hnamed, row, hrow, rfl, isNameTaken_eq_false_iff.2 hfree, rfl, rfl⟩
  obtain ⟨hupdated, hafter⟩ := Turn.answer_of_updated hupdate
    (Service.rowToUpdate_resource hmutations hnamed) hincluded hwrite
  refine ⟨_, row.saved row update.now, hupdated, rfl, rfl, ?_, rfl,
    LinkType.toInt_version_saved hversion⟩
  obtain ⟨stored, hreplaces, -, hsaved⟩ := replaces_of_saveLinkType hwrite
  rw [hafter]
  exact ⟨hrow, hreplaces.2⟩

/-- The row for examples is shown and saved as it was shown. -/
theorem Catalog.resaved_of_shown_sampleDisplay :
    ∃ response document payload, ∃ answer : Response Document,
      Turn.sampleDisplay.answer .sample = .ok response ∧
      response.body = some (.single document) ∧
      (Json.parse? document.toJson.compact).map SingleDocument.ofJson = some (.ok payload) ∧
      (Turn.sample (.update .sample payload Space.sample.id (some ⟨6⟩))).answer .sample =
        .ok answer ∧
      answer.body = some (.single (document.revised 1 .epoch)) := by
  have hunconditional : Request.sample.IsUnconditional := by decide
  have hpolicies : Turn.sampleDisplay.settings.HasPolicies := by decide +kernel
  obtain ⟨included, hincluded⟩ : ∃ included,
      Catalog.sample.related .sample [LinkType.sample] = .ok included :=
    exists_related isClosed_sample .sample
  obtain ⟨response, hanswer, -, hbody⟩ :=
    shows_of_related hunconditional rfl hincluded Space.sample.id .sampleDisplay rfl hpolicies
  obtain ⟨value, payload, htext, hread, hsaved⟩ :=
    resaved_of_shown .sample .sample .sample .sampleDisplay response _ rfl (by decide) (by decide)
      (isNameTaken_eq_false_iff.1 (by decide)) rfl hanswer hbody
  obtain ⟨answer, saved, hupdated, -, hrevised, -, rfl, -⟩ :=
    hsaved (.sample (.update .sample payload Space.sample.id (some ⟨6⟩))) ⟨6⟩ rfl rfl
  refine ⟨response, _, payload, answer, hanswer, hbody, ?_, hupdated, hrevised⟩
  rw [htext, Option.map_some, hread]

end LinkCatalog
