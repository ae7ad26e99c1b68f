import LinkCatalog.Proofs.Service.Answers
import LinkCatalog.Proofs.Service.Isolation
import LinkCatalog.Proofs.Uuid

/-!
# Addresses of entries

The address of a link type names a space and the link type. The entries of creations, updates and
lists are addressed under the spaces that they belong to, because the rows were found there or put
there. A display looks its row up by the identifier alone. It answers through any space in the same
way, and addresses the row under the space of the path, to which it may not belong.

## Main definitions

- `LinkTypeData.IsAtHome` — a resource is addressed under its own space
- `Response.entries` — the link types in an answer

## Main statements

- `Href.linkType_inj` — the path of a link type tells its space
- `Turn.display_ignores_space` — displays through two spaces differ in their bodies only
- `Turn.isAtHome_of_answer` — whose entries are addressed under their own spaces
-/

namespace LinkCatalog

theorem Href.linkType_inj {spaceId id otherSpace other : Uuid} :
    linkType spaceId id = linkType otherSpace other ↔ spaceId = otherSpace ∧ id = other := by
  constructor
  · intro h
    have hlength : ∀ id : Uuid, id.toText.toList.length = 36 := Uuid.length_toText
    have hchars := congrArg String.toList h
    simp only [linkType, String.toList_append, List.append_assoc] at hchars
    have hrest := List.append_cancel_left hchars
    obtain ⟨hspace, hrest⟩ := List.append_inj hrest ((hlength _).trans (hlength _).symm)
    have hid := List.append_cancel_left hrest
    exact ⟨Uuid.toText_injective (String.toList_inj.1 hspace),
      Uuid.toText_injective (String.toList_inj.1 hid)⟩
  · rintro ⟨rfl, rfl⟩
    rfl

theorem Request.absolute_inj {request : Request} {path other : String} :
    request.absolute path = request.absolute other ↔ path = other :=
  String.append_right_inj request.base

/-- A resource is addressed as a link type of the space that it belongs to. -/
def LinkTypeData.IsAtHome (request : Request) (data : LinkTypeData) : Prop :=
  ∃ spaceId id, data.spaceId = some spaceId ∧ data.id = some id ∧
    data.links = some (Links.same (request.absolute (Href.linkType spaceId id)))

theorem LinkTypeData.isAtHome_resource_iff {request : Request} {spaceId : Uuid} {row : LinkType} :
    (row.resource request spaceId).IsAtHome request ↔ row.spaceId = spaceId := by
  constructor
  · rintro ⟨own, id, hown, hid, hlinks⟩
    obtain rfl : row.spaceId = own := Option.some.inj hown
    obtain rfl : row.id = id := Option.some.inj hid
    have haddress := congrArg Links.self (Option.some.inj hlinks)
    have hpath := Request.absolute_inj.1 (Option.some.inj haddress)
    exact (Href.linkType_inj.1 hpath).1.symm
  · rintro rfl
    exact ⟨row.spaceId, row.id, rfl, rfl, rfl⟩

/-- The link types in a document. -/
def Document.entries : Document → List LinkTypeData
  | .single document => document.data.toList
  | .list document => document.data

/-- The link types in an answer. -/
def Response.entries (response : Response Document) : List LinkTypeData :=
  (response.body.map Document.entries).getD []

namespace Subject

variable {subject : Subject} {catalog : Catalog} {settings : Settings} {request : Request}
  {response : Response Document}

/-- The space that a subject is seen through. -/
def spaceId : Subject → Uuid
  | .single spaceId _ => spaceId
  | .all spaceId => spaceId

/-- The entries of a document are the resources of the rows, seen through the space. -/
theorem exists_row_of_mem_assembled {rows : List LinkType} {included : List Included}
    {entry : LinkTypeData} (hentry : entry ∈ (subject.assembled request rows included).entries) :
    ∃ row ∈ rows, entry = row.resource request subject.spaceId := by
  cases subject with
  | single spaceId id =>
    obtain ⟨row, hrow, rfl⟩ := Option.map_eq_some_iff.1 (Option.mem_toList.1 hentry)
    exact ⟨row, List.mem_of_head? hrow, rfl⟩
  | all spaceId =>
    obtain ⟨row, hrow, rfl⟩ := List.mem_map.1 hentry
    exact ⟨row, hrow, rfl⟩

/-- The entries of an answer are the resources of the rows, seen through the space. -/
theorem exists_row_of_mem_entries (h : subject.answer settings request catalog = .ok response)
    {entry : LinkTypeData} (hentry : entry ∈ response.entries) :
    ∃ row ∈ subject.rows catalog, entry = row.resource request subject.spaceId := by
  rcases body_of_answer h with ⟨-, hbody⟩ | ⟨-, included, -, hbody⟩
  · simp [Response.entries, hbody] at hentry
  · rw [Response.entries, hbody] at hentry
    exact exists_row_of_mem_assembled hentry

/-- Nothing but the body of an answer about a link type depends on the space that it is seen
    through. -/
theorem answer_single_congr (settings : Settings) (request : Request) (catalog : Catalog)
    (spaceId otherSpace id : Uuid) :
    (Subject.answer settings request catalog (.single spaceId id)).map (Response.map fun _ => ()) =
      (Subject.answer settings request catalog (.single otherSpace id)).map
        (Response.map fun _ => ()) := by
  cases hload : catalog.loadLinkType id with
  | error failure =>
    have hmissing : ∀ space, lookUp catalog (.single space id) = .error failure := by
      intro space
      rw [lookUp, hload]
      rfl
    rw [answer_of_missing (hmissing spaceId), answer_of_missing (hmissing otherSpace)]
  | ok row =>
    have hdocument : ∀ space,
        (document catalog request [row] (.single space id)).map (fun _ => ()) =
          ((catalog.related request [row]).mapError (Service.notEnriched "link type")).map
            fun _ => () := by
      intro space
      rw [document]
      cases catalog.related request [row] <;> rfl
    have hrows : ∀ space, lookUp catalog (.single space id) = .ok [row] := by
      intro space
      rw [lookUp, hload]
      rfl
    have hvalidators : validators (.single otherSpace id) settings catalog =
        validators (.single spaceId id) settings catalog := rfl
    rw [answer_of_lookUp (hrows spaceId), answer_of_lookUp (hrows otherSpace), hvalidators,
      Service.map_conditionalAnswer, Service.map_conditionalAnswer, hdocument, hdocument]

end Subject

namespace Turn

variable {turn : Turn} {catalog : Catalog} {request : Request} {response : Response Document}

/-- Displays of a row through two spaces fail alike, or differ in their bodies only. -/
theorem display_ignores_space {other : Turn} {spaceId otherSpace id : Uuid}
    (hcommand : turn.command = .display request spaceId id)
    (hother : other.command = .display request otherSpace id)
    (hsettings : other.settings = turn.settings) (catalog : Catalog) :
    (other.answer catalog).map (Response.map fun _ => ()) =
      (turn.answer catalog).map (Response.map fun _ => ()) := by
  rw [answer_of_display hcommand, answer_of_display hother, hsettings]
  exact Subject.answer_single_congr turn.settings request catalog otherSpace spaceId id

/-- **Addresses.** In answers of success, the entries of creations, lists and updates are addressed
    under the spaces that they belong to. A display answers through every space alike, but for the
    body, and its entry is addressed under its own space only if the display came through that. -/
theorem isAtHome_of_answer (turn : Turn) (catalog : Catalog) (response : Response Document)
    (hanswer : turn.answer catalog = .ok response) :
    match turn.command with
    | .create request _ _ _ | .list request _ | .update request _ _ _ =>
      ∀ entry ∈ response.entries, entry.IsAtHome request
    | .display request spaceId id =>
      (∃ row, catalog.linkTypes.find? id = some row ∧
        ∀ entry ∈ response.entries, entry.IsAtHome request ↔ row.spaceId = spaceId) ∧
      ∀ (other : Turn) otherSpace, other.command = .display request otherSpace id →
        other.settings = turn.settings →
        (other.answer catalog).map (Response.map fun _ => ()) = .ok (response.map fun _ => ())
    | .delete .. => response.entries = [] := by
  cases hcommand : turn.command with
  | create request payload spaceId identity =>
    obtain ⟨row, included, stored, -, -, -, rfl⟩ := created_of_answer hcommand hanswer
    intro entry hentry
    rw [List.mem_singleton.1 hentry]
    exact LinkTypeData.isAtHome_resource_iff.2 rfl
  | update request payload spaceId identity =>
    obtain ⟨row, included, saved, hrow, -, hwrite, rfl⟩ := updated_of_answer hcommand hanswer
    obtain ⟨stored, -, -, hsaved⟩ := Catalog.replaces_of_saveLinkType hwrite
    have hrowSpace : row.spaceId = spaceId := spaceId_of_rowToUpdate hrow
    have hspace : saved.spaceId = spaceId := by
      rw [hsaved]
      exact hrowSpace
    intro entry hentry
    rw [List.mem_singleton.1 hentry]
    exact LinkTypeData.isAtHome_resource_iff.2 hspace
  | list request spaceId =>
    have hread : turn.answer catalog =
        Subject.answer turn.settings request catalog (.all spaceId) :=
      answer_eq_of_read hcommand catalog
    intro entry hentry
    obtain ⟨row, hrow, rfl⟩ := Subject.exists_row_of_mem_entries (hread ▸ hanswer) hentry
    have hspace := (List.mem_filter.1 (List.mem_mergeSort.1 hrow)).2
    exact LinkTypeData.isAtHome_resource_iff.2 (eq_of_beq hspace)
  | display request spaceId id =>
    have hread : turn.answer catalog =
        Subject.answer turn.settings request catalog (.single spaceId id) :=
      answer_eq_of_read hcommand catalog
    refine ⟨?_, fun other otherSpace hother hsettings => ?_⟩
    · have hlookUp := Subject.lookUp_of_answer (hread ▸ hanswer)
      obtain ⟨row, hrow, -⟩ := Failure.map_eq_ok_iff.1 hlookUp
      have hfound := Catalog.loadLinkType_eq_ok_iff.1 hrow
      refine ⟨row, hfound, fun entry hentry => ?_⟩
      obtain ⟨found, hmem, rfl⟩ := Subject.exists_row_of_mem_entries (hread ▸ hanswer) hentry
      rw [Subject.rows, hfound] at hmem
      rw [List.mem_singleton.1 hmem]
      exact LinkTypeData.isAtHome_resource_iff
    · rw [display_ignores_space hcommand hother hsettings, hanswer]
      rfl
  | delete spaceId id =>
    rcases delete_cases hcommand catalog with ⟨failure, hfailure, -⟩ | ⟨-, hdeleted⟩
    · rw [hanswer] at hfailure
      cases hfailure
    · cases hanswer.symm.trans hdeleted
      rfl

end Turn

/-- The row for examples is shown through a space that it does not belong to. -/
def Turn.sampleStray : Turn :=
  .sample (.display .sample Space.sampleOther.id LinkType.sample.id)

/-- The row for examples is addressed under the other space. -/
theorem Turn.isAtHome_of_answer_sampleStray :
    ∃ response, sampleStray.answer .sample = .ok response ∧ response.entries ≠ [] ∧
      (∀ entry ∈ response.entries, ¬ entry.IsAtHome .sample) := by
  have hentries : ((sampleStray.answer .sample).toOption.map fun response =>
      response.entries.length) = some 1 := by decide +kernel
  cases hanswer : sampleStray.answer .sample with
  | error failure =>
    rw [hanswer] at hentries
    cases hentries
  | ok response =>
    rw [hanswer] at hentries
    obtain ⟨⟨row, hrow, hhome⟩, -⟩ := isAtHome_of_answer sampleStray .sample response hanswer
    obtain rfl : LinkType.sample = row := Option.some.inj hrow
    refine ⟨response, rfl, ?_, fun entry hentry h => ?_⟩
    · rintro hempty
      rw [Except.toOption, Option.map_some, hempty] at hentries
      cases hentries
    · exact absurd ((hhome entry hentry).1 h) (by decide)

end LinkCatalog
