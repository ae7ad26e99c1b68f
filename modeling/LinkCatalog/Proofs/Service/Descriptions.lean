import LinkCatalog.Proofs.Service.Answers
import LinkCatalog.Proofs.Service.Integrity

/-!
# One description of each row

A row is described by its resource and by what it refers to. Creation and update put the description
together before they write, a display after it has looked the row up, and a list for all rows at
once. All of them arrive at the same one.

## Main definitions

- `Request.IsUnconditional` — the request does not say what the client has already
- `Catalog.Shows` — the document that displays of a row answer with

## Main statements

- `Catalog.mem_related_iff` — what some rows refer to is what any of them refers to
- `Catalog.shows_of_related` — a row that is stored with what it refers to is shown
- `Turn.describes_as_shown` — creations, updates and lists describe rows as displays do
-/

namespace LinkCatalog

/-- The request does not say what the client has already. -/
def Request.IsUnconditional (request : Request) : Prop :=
  request.headers.get? "if-none-match" = none ∧ request.headers.get? "if-modified-since" = none

instance (request : Request) : Decidable request.IsUnconditional := by
  unfold Request.IsUnconditional
  infer_instance

theorem Validators.isNotModified_of_isUnconditional {request : Request}
    (h : request.IsUnconditional) (validators : Validators) :
    validators.isNotModified request.headers = false := by
  have hdate : request.headers.text? "if-modified-since" = none := by rw [Headers.text?, h.2]; rfl
  rw [isNotModified, h.1, hdate]

theorem Subject.status_of_isUnconditional {subject : Subject} {catalog : Catalog}
    {settings : Settings} {request : Request} {response : Response Document}
    (hunconditional : request.IsUnconditional)
    (hanswer : subject.answer settings request catalog = .ok response) : response.status = .ok := by
  obtain ⟨policy, -, -, hstatus⟩ := (answer_eq_ok_iff (lookUp_of_answer hanswer)).1 hanswer
  rw [Validators.isNotModified_of_isUnconditional hunconditional] at hstatus
  exact hstatus.1

-- ════════════════════════════════════════════════════════════════════════
-- What rows refer to
-- ════════════════════════════════════════════════════════════════════════

namespace Catalog

variable {catalog : Catalog} {request : Request} {rows : List LinkType} {included : List Included}

theorem related_eq_ok_iff :
    catalog.related request rows = .ok included ↔ ∃ categories spaces,
      (Uuid.sortedDistinct (rows.map LinkType.categoryId)).mapM catalog.loadCategory =
        .ok categories ∧
      (Uuid.sortedDistinct (rows.map LinkType.spaceId)).mapM catalog.loadSpace = .ok spaces ∧
      included = categories.map (.ofCategory request) ++ spaces.map (.ofSpace request) := by
  unfold related
  simp only [Failure.bind_eq_ok_iff]
  constructor
  · rintro ⟨categories, hcategories, spaces, hspaces, hincluded⟩
    cases hincluded
    exact ⟨categories, spaces, hcategories, hspaces, rfl⟩
  · rintro ⟨categories, spaces, hcategories, hspaces, rfl⟩
    exact ⟨categories, hcategories, spaces, hspaces, rfl⟩

/-- If what some rows refer to is found, then so is what each of them refers to. -/
theorem exists_related_of_mem {row : LinkType} (h : catalog.related request rows = .ok included)
    (hrow : row ∈ rows) : ∃ own, catalog.related request [row] = .ok own := by
  obtain ⟨categories, spaces, hcategories, hspaces, -⟩ := related_eq_ok_iff.1 h
  have hcategory := Failure.exists_of_mapM_eq_ok hcategories
    (Uuid.mem_sortedDistinct.2 (List.mem_map_of_mem hrow))
  have hspace := Failure.exists_of_mapM_eq_ok hspaces
    (Uuid.mem_sortedDistinct.2 (List.mem_map_of_mem hrow))
  apply exists_related
  intro other hother
  rw [List.mem_singleton.1 hother]
  exact hasRelated_iff.2 ⟨hcategory, hspace⟩

/-- What rows refer to are the categories and the spaces with the identifiers that they name. -/
theorem mem_related_iff (h : catalog.related request rows = .ok included) (resource : Included) :
    resource ∈ included ↔ ∃ row ∈ rows,
      (∃ category, catalog.loadCategory row.categoryId = .ok category ∧
        resource = .ofCategory request category) ∨
      ∃ space, catalog.loadSpace row.spaceId = .ok space ∧ resource = .ofSpace request space := by
  obtain ⟨categories, spaces, hcategories, hspaces, rfl⟩ := related_eq_ok_iff.1 h
  have hcategory := Failure.mem_mapM_iff hcategories
  have hspace := Failure.mem_mapM_iff hspaces
  simp only [Uuid.mem_sortedDistinct, List.mem_map] at hcategory hspace
  simp only [List.mem_append, List.mem_map, hcategory, hspace]
  constructor
  · rintro (⟨category, ⟨_, ⟨row, hrow, rfl⟩, hload⟩, rfl⟩ |
      ⟨space, ⟨_, ⟨row, hrow, rfl⟩, hload⟩, rfl⟩)
    · exact ⟨row, hrow, .inl ⟨category, hload, rfl⟩⟩
    · exact ⟨row, hrow, .inr ⟨space, hload, rfl⟩⟩
  · rintro ⟨row, hrow, ⟨category, hload, rfl⟩ | ⟨space, hload, rfl⟩⟩
    · exact .inl ⟨category, ⟨_, ⟨row, hrow, rfl⟩, hload⟩, rfl⟩
    · exact .inr ⟨space, ⟨_, ⟨row, hrow, rfl⟩, hload⟩, rfl⟩

/-- What rows refer to is what each of them refers to, taken together. -/
theorem mem_related_iff_exists (h : catalog.related request rows = .ok included)
    (resource : Included) :
    resource ∈ included ↔ ∃ row ∈ rows, ∃ own, catalog.related request [row] = .ok own ∧
      resource ∈ own := by
  rw [mem_related_iff h]
  constructor
  · rintro ⟨row, hrow, hresource⟩
    obtain ⟨own, hown⟩ := exists_related_of_mem h hrow
    exact ⟨row, hrow, own, hown, (mem_related_iff hown resource).2
      ⟨row, List.mem_singleton_self row, hresource⟩⟩
  · rintro ⟨row, hrow, own, hown, hresource⟩
    obtain ⟨other, hother, hresource⟩ := (mem_related_iff hown resource).1 hresource
    rw [List.mem_singleton.1 hother] at hresource
    exact ⟨row, hrow, hresource⟩

/-- What a row refers to depends only on its category and its space, and a write of link types
    touches neither. -/
theorem related_eq_of_differsAt {id : Uuid} {after : Catalog} {row other : LinkType}
    (h : DiffersAt id catalog after) (hcategory : other.categoryId = row.categoryId)
    (hspace : other.spaceId = row.spaceId) (request : Request) :
    after.related request [other] = catalog.related request [row] := by
  have hloadCategory : after.loadCategory = catalog.loadCategory := by
    funext id
    rw [loadCategory, loadCategory, h.2.1]
  have hloadSpace : after.loadSpace = catalog.loadSpace := by
    funext id
    rw [loadSpace, loadSpace, h.2.2]
  simp only [related, List.map_cons, List.map_nil, hcategory, hspace, hloadCategory, hloadSpace]

-- ════════════════════════════════════════════════════════════════════════
-- Displays
-- ════════════════════════════════════════════════════════════════════════

/-- A display of a row through a space answers with a document, whatever the settings are that it is
    made with. -/
def Shows (catalog : Catalog) (request : Request) (spaceId id : Uuid)
    (document : SingleDocument) : Prop :=
  ∀ turn : Turn, turn.command = .display request spaceId id → turn.settings.HasPolicies →
    ∃ response, turn.answer catalog = .ok response ∧ response.status = .ok ∧
      response.body = some (.single document)

/-- A row is shown if it is stored and what it refers to is found. -/
theorem shows_of_related {row : LinkType} (hunconditional : request.IsUnconditional)
    (hrow : catalog.linkTypes.find? row.id = some row)
    (hincluded : catalog.related request [row] = .ok included) (spaceId : Uuid) :
    catalog.Shows request spaceId row.id
      { data := some (row.resource request spaceId), included } := by
  intro turn hcommand hpolicies
  have hrows : Subject.lookUp catalog (.single spaceId row.id) = .ok [row] := by
    rw [Subject.lookUp, loadLinkType_eq_ok_iff.2 hrow]
    rfl
  have hdocument : Subject.document catalog request [row] (.single spaceId row.id) =
      .ok (.single { data := some (row.resource request spaceId), included }) :=
    Subject.document_eq_ok_iff.2 ⟨included, hincluded, rfl⟩
  obtain ⟨policy, hpolicy⟩ := Subject.exists_headerValue hpolicies (.single spaceId row.id)
  rw [Turn.answer_of_display hcommand]
  refine Subject.exists_answer_of_document hrows hpolicy ?_ hdocument
  rw [Validators.isNotModified_of_isUnconditional hunconditional]
  exact Bool.false_ne_true

/-- A row is shown in one way only. -/
theorem Shows.eq {spaceId id : Uuid} {document other : SingleDocument}
    (h : catalog.Shows request spaceId id document)
    (hother : catalog.Shows request spaceId id other) :
    document = other := by
  have hpolicies : Settings.HasPolicies {} := by decide +kernel
  obtain ⟨response, hanswer, -, hbody⟩ :=
    h { settings := {}, now := .epoch, fresh := .nil, command := _ } rfl hpolicies
  obtain ⟨response', hanswer', -, hbody'⟩ :=
    hother { settings := {}, now := .epoch, fresh := .nil, command := _ } rfl hpolicies
  cases hanswer.symm.trans hanswer'
  cases hbody.symm.trans hbody'
  rfl

end Catalog

namespace Turn

variable {turn : Turn} {catalog : Catalog} {request : Request} {spaceId : Uuid}
  {response : Response Document}

/-- What a creation answers with is shown afterwards. -/
theorem shows_of_created {payload : SingleDocument} {identity : Option Uuid}
    (hcommand : turn.command = .create request payload spaceId identity)
    (hunconditional : request.IsUnconditional) (hanswer : turn.answer catalog = .ok response) :
    ∃ document row, response.body = some (.single document) ∧
      (turn.after catalog).linkTypes.find? row.id = some row ∧ document.id? = some row.id ∧
      document.toLinkType = .ok row ∧
      (turn.after catalog).Shows request spaceId row.id document := by
  obtain ⟨row, included, stored, hrow, hincluded, hwrite, rfl⟩ := created_of_answer hcommand hanswer
  obtain ⟨-, hstored, hdiffers⟩ := Catalog.adds_of_createLinkType hwrite
  obtain ⟨-, -, -, hcreated, -⟩ := Catalog.createLinkType_eq_ok_iff.1 hwrite
  obtain ⟨-, -, described, -, rfl⟩ := Service.rowToCreate_eq_ok_iff.1 hrow
  have hspace : stored.spaceId = spaceId := by rw [hcreated]; rfl
  have hrelated : (turn.after catalog).related request [stored] = .ok included := by
    rw [← hincluded]
    exact Catalog.related_eq_of_differsAt hdiffers (by rw [hcreated]; rfl) hspace request
  have hshows := Catalog.shows_of_related hunconditional hstored hrelated spaceId
  refine ⟨_, stored, rfl, hstored, rfl,
    SingleDocument.toLinkType_resource (Catalog.isNamed_of_createLinkType hwrite), ?_⟩
  rwa [hspace]

/-- What an update answers with is shown afterwards. -/
theorem shows_of_updated {payload : SingleDocument} {identity : Option Uuid}
    (hcommand : turn.command = .update request payload spaceId identity)
    (hunconditional : request.IsUnconditional) (hanswer : turn.answer catalog = .ok response) :
    ∃ document row, response.body = some (.single document) ∧
      (turn.after catalog).linkTypes.find? row.id = some row ∧ document.id? = some row.id ∧
      document.toLinkType = .ok row ∧
      (turn.after catalog).Shows request spaceId row.id document := by
  obtain ⟨row, included, saved, hrow, hincluded, hwrite, rfl⟩ := updated_of_answer hcommand hanswer
  obtain ⟨stored, ⟨-, hsaved, hdiffers⟩, -, heq⟩ := Catalog.replaces_of_saveLinkType hwrite
  have hnamed : saved.IsNamed := Catalog.isNamed_of_saveLinkType hwrite
  have hrelated : (turn.after catalog).related request [saved] = .ok included := by
    rw [← hincluded]
    exact Catalog.related_eq_of_differsAt hdiffers (by rw [heq]; rfl) (by rw [heq]; rfl) request
  exact ⟨_, saved, rfl, hsaved, rfl, SingleDocument.toLinkType_resource hnamed,
    Catalog.shows_of_related hunconditional hsaved hrelated spaceId⟩

/-- A list is answered with the resources of the rows, and with what they refer to. -/
theorem listed_of_answer (hcommand : turn.command = .list request spaceId)
    (hunconditional : request.IsUnconditional) (hanswer : turn.answer catalog = .ok response) :
    ∃ included, catalog.related request (catalog.linkTypesOf spaceId) = .ok included ∧
      response.status = .ok ∧ response.body = some (.list
        { data := (catalog.linkTypesOf spaceId).map (LinkType.resource request spaceId)
          included
          totalCount := UInt64.ofNat (catalog.linkTypesOf spaceId).length }) := by
  rw [answer_of_list hcommand] at hanswer
  have hok := Subject.status_of_isUnconditional hunconditional hanswer
  rcases Subject.body_of_answer hanswer with ⟨hnot, -⟩ | ⟨hstatus, included, hincluded, hbody⟩
  · rw [hok] at hnot
    cases hnot
  · exact ⟨included, hincluded, hstatus, hbody⟩

/-- **One description.** To a client that has nothing yet, a creation or an update answers with a
    document that describes the stored row and is shown for it afterwards; and a list answers with
    the entries that are shown for its rows one by one, with their number, and with all that is
    included there. -/
theorem describes_as_shown (turn : Turn) (catalog : Catalog) (request : Request) (spaceId : Uuid)
    (response : Response Document) (hunconditional : request.IsUnconditional)
    (hanswer : turn.answer catalog = .ok response) :
    (∀ payload identity, turn.command = .create request payload spaceId identity ∨
        turn.command = .update request payload spaceId identity →
      ∃ document row, response.body = some (.single document) ∧
        (turn.after catalog).linkTypes.find? row.id = some row ∧ document.id? = some row.id ∧
        document.toLinkType = .ok row ∧
        (turn.after catalog).Shows request spaceId row.id document) ∧
      (turn.command = .list request spaceId →
        ∃ document, response.status = .ok ∧ response.body = some (.list document) ∧
          document.totalCount = UInt64.ofNat document.data.length ∧
          (∀ entry ∈ document.data, ∃ id shown, entry.id = some id ∧ shown.data = some entry ∧
            catalog.Shows request spaceId id shown) ∧
          ∀ resource, resource ∈ document.included ↔
            ∃ entry ∈ document.data, ∃ id shown, entry.id = some id ∧
              catalog.Shows request spaceId id shown ∧ resource ∈ shown.included) := by
  constructor
  · rintro payload identity (hcommand | hcommand)
    · exact shows_of_created hcommand hunconditional hanswer
    · exact shows_of_updated hcommand hunconditional hanswer
  intro hcommand
  obtain ⟨included, hincluded, hstatus, hbody⟩ := listed_of_answer hcommand hunconditional hanswer
  have hshown : ∀ row ∈ catalog.linkTypesOf spaceId, ∃ own,
      catalog.related request [row] = .ok own ∧ catalog.Shows request spaceId row.id
        { data := some (row.resource request spaceId), included := own } := by
    intro row hrow
    have hstored : catalog.linkTypes.find? row.id = some row :=
      Table.mem_rows_iff.1 (List.mem_of_mem_filter (List.mem_mergeSort.1 hrow))
    obtain ⟨own, hown⟩ := Catalog.exists_related_of_mem hincluded hrow
    exact ⟨own, hown, Catalog.shows_of_related hunconditional hstored hown spaceId⟩
  refine ⟨_, hstatus, hbody, ?_, ?_, fun resource => ?_⟩
  · rw [List.length_map]
  · intro entry hentry
    obtain ⟨row, hrow, rfl⟩ := List.mem_map.1 hentry
    obtain ⟨own, -, hshows⟩ := hshown row hrow
    exact ⟨row.id, _, rfl, rfl, hshows⟩
  · rw [Catalog.mem_related_iff_exists hincluded]
    constructor
    · rintro ⟨row, hrow, own, hown, hresource⟩
      obtain ⟨other, hother, hshows⟩ := hshown row hrow
      obtain rfl := Except.ok.inj (hown.symm.trans hother)
      exact ⟨_, List.mem_map_of_mem hrow, row.id, _, rfl, hshows, hresource⟩
    · rintro ⟨entry, hentry, id, shown, hid, hshows, hresource⟩
      obtain ⟨row, hrow, rfl⟩ := List.mem_map.1 hentry
      obtain rfl : row.id = id := Option.some.inj hid
      obtain ⟨own, hown, hsame⟩ := hshown row hrow
      rw [hshows.eq hsame] at hresource
      exact ⟨row, hrow, own, hown, hresource⟩

/-- The row for examples is created or renamed, and shown then as the answer has it. Both rows are
    listed as they are shown. -/
theorem describes_as_shown_samples :
    Request.sample.IsUnconditional ∧
      (∀ entry ∈ [(sampleCreation, Catalog.sampleStart), (sampleRename, Catalog.sample)],
        ∃ response document row, entry.1.answer entry.2 = .ok response ∧
          response.body = some (.single document) ∧
          (entry.1.after entry.2).linkTypes.find? row.id = some row ∧
          document.id? = some row.id ∧ document.toLinkType = .ok row ∧
          (entry.1.after entry.2).Shows .sample Space.sample.id row.id document) ∧
      ∃ response document, sampleListing.answer .samplePair = .ok response ∧
        response.body = some (.list document) ∧ document.data.length = 2 ∧
        (∀ entry ∈ document.data, ∃ id shown, entry.id = some id ∧ shown.data = some entry ∧
          Catalog.samplePair.Shows .sample Space.sample.id id shown) ∧
        ∀ resource, resource ∈ document.included ↔
          ∃ entry ∈ document.data, ∃ id shown, entry.id = some id ∧
            Catalog.samplePair.Shows .sample Space.sample.id id shown ∧
            resource ∈ shown.included := by
  have hunconditional : Request.sample.IsUnconditional := by decide
  refine ⟨hunconditional, fun entry hentry => ?_, ?_⟩
  · have hok : ∀ entry ∈ [(sampleCreation, Catalog.sampleStart), (sampleRename, Catalog.sample)],
        (entry.1.answer entry.2).isOk = true := by decide +kernel
    have hwrites : ∃ payload identity,
        entry.1.command = .create .sample payload Space.sample.id identity ∨
          entry.1.command = .update .sample payload Space.sample.id identity := by
      rcases List.mem_pair.1 hentry with rfl | rfl
      · exact ⟨_, _, .inl rfl⟩
      · exact ⟨_, _, .inr rfl⟩
    obtain ⟨payload, identity, hcommand⟩ := hwrites
    obtain ⟨response, hanswer⟩ := Failure.exists_of_isOk (hok entry hentry)
    obtain ⟨hwritten, -⟩ := describes_as_shown entry.1 entry.2 .sample Space.sample.id response
      hunconditional hanswer
    obtain ⟨document, row, h⟩ := hwritten payload identity hcommand
    exact ⟨response, document, row, hanswer, h⟩
  · have hpolicies : sampleListing.settings.HasPolicies := by decide +kernel
    obtain ⟨response, hserved, -⟩ : ∃ response, Subject.answer sampleListing.settings .sample
        .samplePair (.all Space.sample.id) = .ok response ∧ response.IsServed :=
      Subject.exists_isServed hpolicies rfl fun row hrow =>
        Catalog.isClosed_samplePair row (List.mem_of_mem_filter (List.mem_mergeSort.1 hrow))
    have hanswer : sampleListing.answer .samplePair = .ok response :=
      (answer_eq_of_read rfl _).trans hserved
    obtain ⟨-, hlisted⟩ := describes_as_shown sampleListing .samplePair .sample Space.sample.id
      response hunconditional hanswer
    obtain ⟨document, -, hbody, -, hentries, hresources⟩ := hlisted rfl
    have hlength : document.data.length = 2 := by
      obtain ⟨included, -, -, hlist⟩ := listed_of_answer rfl hunconditional hanswer
      cases hbody.symm.trans hlist
      rw [List.length_map, Catalog.linkTypesOf_samplePair]
      rfl
    exact ⟨response, document, hanswer, hbody, hlength, hentries, hresources⟩

end Turn

end LinkCatalog
