import Mathlib.Data.List.Forall2
import Mathlib.Data.List.Nodup
import LinkCatalog.Proofs.Document.References
import LinkCatalog.Proofs.Service.Descriptions
import LinkCatalog.Proofs.Service.Staleness

/-!
# Full linkage of lists

A list has an entry for each row of its space, and each category and each space that an entry
refers to once. Everything is in order: the entries by their names, the included resources by their
identifiers. So every relationship leads to exactly one included resource, and every included
resource is there for some relationship. All of them show what is stored, field by field.

## Main definitions

- `Table.Selects` — the rows of a table with some identifiers, each once, in order
- `LinkType.Precedes` — the order of entries, by name and then by identifier
- `LinkTypeData.Shows`, `CategoryData.Shows`, `SpaceData.Shows` — what a resource shows of a row
- `ListDocument.Includes` — the included resources show some categories and some spaces
- `ListDocument.IsLinked` — relationships and included resources belong together

## Main statements

- `Uuid.increasing_sortedDistinct` — identifiers in order, each once
- `Catalog.selects_of_related` — what is looked up for some rows
- `Turn.lists_linked` — what a list has
-/

namespace LinkCatalog

-- ════════════════════════════════════════════════════════════════════════
-- Rows with some identifiers
-- ════════════════════════════════════════════════════════════════════════

namespace Uuid

/-- The identifiers get larger from one to the next. -/
def Increasing (ids : List Uuid) : Prop :=
  ids.Pairwise fun a b => a.bits < b.bits

theorem Increasing.nodup {ids : List Uuid} (h : Increasing ids) : ids.Nodup := by
  refine List.Pairwise.imp (fun {a b} hlt => ?_) h
  rintro rfl
  exact BitVec.lt_irrefl _ hlt

theorem bits_lt_of_le {a b : Uuid} (hle : a.le b = true) (hne : a ≠ b) : a.bits < b.bits := by
  have hbits : a.bits.toNat ≠ b.bits.toNat := by
    intro heq
    exact hne (le_antisymm (by simp [le, heq]) (by simp [le, heq]))
  rw [le, decide_eq_true_eq] at hle
  exact BitVec.lt_def.2 (by omega)

/-- An identifier that is kept is dropped from the rest of the list, so that none is kept twice. -/
theorem nodup_eraseDups : (ids : List Uuid) → ids.eraseDups.Nodup
  | [] => List.nodup_nil
  | id :: ids => by
    rw [List.eraseDups_cons, List.nodup_cons]
    exact ⟨by simp, nodup_eraseDups _⟩
termination_by ids => ids.length
decreasing_by
  have hfilter := List.length_filter_le (fun other => !other == id) ids
  rw [List.length_cons]
  omega

theorem increasing_sortedDistinct (ids : List Uuid) : Increasing (sortedDistinct ids) := by
  have hsorted : (sortedDistinct ids).Pairwise fun a b => a.le b = true :=
    @List.pairwise_mergeSort Uuid le (fun _ _ _ => le_trans) le_total _
  have hnodup : (sortedDistinct ids).Nodup :=
    (List.mergeSort_perm _ _).nodup_iff.2 (nodup_eraseDups ids)
  exact (hsorted.and hnodup).imp fun h => bits_lt_of_le h.1 h.2

end Uuid

/-- Rows are the ones of a table with the given identifiers, each once, in order. -/
structure Table.Selects {α : Type} [Identified α] (table : Table α) (ids : List Uuid)
    (rows : List α) : Prop where
  stored : ∀ row ∈ rows, table.find? (Identified.id row) = some row
  mem_iff : ∀ id, id ∈ rows.map Identified.id ↔ id ∈ ids
  increasing : Uuid.Increasing (rows.map Identified.id)

/-- Rows that are looked up in order, each once, are selected. -/
theorem Table.selects_of_mapM {α : Type} [Identified α] {table : Table α}
    {lookUp : Uuid → Except Failure α}
    (hlookUp : ∀ id row, lookUp id = .ok row → table.find? id = some row) {ids : List Uuid}
    {rows : List α} (h : (Uuid.sortedDistinct ids).mapM lookUp = .ok rows) :
    table.Selects ids rows := by
  have hids : rows.map Identified.id = Uuid.sortedDistinct ids :=
    Failure.map_eq_of_mapM (fun id row hrow => table.id_of_find? (hlookUp id row hrow)) h
  refine ⟨fun row hrow => ?_, fun id => ?_, ?_⟩
  · obtain ⟨id, -, hfound⟩ := (Failure.mem_mapM_iff h row).1 hrow
    have hstored := hlookUp id row hfound
    rwa [Table.id_of_find? hstored]
  · rw [hids, Uuid.mem_sortedDistinct]
  · rw [hids]
    exact Uuid.increasing_sortedDistinct ids

namespace Catalog

/-- What some rows refer to: first the categories with the identifiers that they name, and then the
    spaces. -/
theorem selects_of_related {catalog : Catalog} {request : Request} {rows : List LinkType}
    {included : List Included} (h : catalog.related request rows = .ok included) :
    ∃ categories spaces,
      catalog.categories.Selects (rows.map LinkType.categoryId) categories ∧
      catalog.spaces.Selects (rows.map LinkType.spaceId) spaces ∧
      included = categories.map (.ofCategory request) ++ spaces.map (.ofSpace request) := by
  obtain ⟨categories, spaces, hcategories, hspaces, rfl⟩ := related_eq_ok_iff.1 h
  exact ⟨categories, spaces, Table.selects_of_mapM (fun _ _ => foundOr_eq_ok_iff.1) hcategories,
    Table.selects_of_mapM (fun _ _ => foundOr_eq_ok_iff.1) hspaces, rfl⟩

end Catalog

-- ════════════════════════════════════════════════════════════════════════
-- The rows of a list
-- ════════════════════════════════════════════════════════════════════════

/-- A row comes before another one: by its name, and by its identifier where the names agree. -/
def LinkType.Precedes (a b : LinkType) : Prop :=
  a.name < b.name ∨ a.name = b.name ∧ a.id.bits < b.id.bits

theorem LinkType.precedes_of_le {a b : LinkType} (hle : a.le b = true) (hne : a.id ≠ b.id) :
    a.Precedes b := by
  rcases le_iff.1 hle with hname | ⟨hname, hid⟩
  · exact .inl hname
  · exact .inr ⟨hname, Uuid.bits_lt_of_le hid hne⟩

theorem Catalog.pairwise_precedes_linkTypesOf (catalog : Catalog) (spaceId : Uuid) :
    (catalog.linkTypesOf spaceId).Pairwise LinkType.Precedes := by
  have hids : ((catalog.linkTypesOf spaceId).map LinkType.id).Nodup :=
    ((List.mergeSort_perm _ _).map _).nodup_iff.2
      (catalog.linkTypes.distinct.sublist (List.filter_sublist.map _))
  have hdistinct : (catalog.linkTypesOf spaceId).Pairwise fun a b => a.id ≠ b.id :=
    List.pairwise_map.1 hids
  exact ((pairwise_linkTypesOf catalog spaceId).and hdistinct).imp
    fun h => LinkType.precedes_of_le h.1 h.2

/-- Rows of one space refer to that space only. -/
theorem Table.Selects.ids_of_const {α : Type} [Identified α] {table : Table α} {id : Uuid}
    {ids : List Uuid} {rows : List α} (h : table.Selects ids rows)
    (hconst : ∀ other ∈ ids, other = id) :
    rows.map Identified.id = if ids = [] then [] else [id] := by
  split
  · next hnil =>
    rw [List.eq_nil_iff_forall_not_mem]
    intro other hother
    rw [h.mem_iff, hnil] at hother
    cases hother
  · next hne =>
    obtain ⟨first, hfirst⟩ := List.exists_mem_of_ne_nil ids hne
    refine List.perm_singleton.1 ((List.perm_ext_iff_of_nodup h.increasing.nodup
      (List.nodup_singleton id)).2 fun other => ?_)
    rw [h.mem_iff, List.mem_singleton]
    refine ⟨hconst other, ?_⟩
    rintro rfl
    rwa [← hconst first hfirst]

theorem Table.Selects.eq_singleton {α : Type} [Identified α] {table : Table α} {ids : List Uuid}
    {rows : List α} {row : α} (h : table.Selects ids rows)
    (hids : rows.map Identified.id = [Identified.id row])
    (hrow : table.find? (Identified.id row) = some row) : rows = [row] := by
  obtain ⟨other, rfl, hid⟩ := List.map_eq_singleton_iff.1 hids
  have hother := h.stored other List.mem_cons_self
  rw [hid, hrow] at hother
  rw [Option.some.inj hother]

-- ════════════════════════════════════════════════════════════════════════
-- What resources show
-- ════════════════════════════════════════════════════════════════════════

/-- An entry has what is stored for a link type. -/
structure LinkTypeData.Shows (entry : LinkTypeData) (row : LinkType) : Prop where
  id : entry.id = some row.id
  attributes : entry.attributes = some
    { name := some row.name
      description := row.description
      version := some row.version
      createdAt := some row.createdAt
      updatedAt := some row.updatedAt
      forwardName := some row.forwardName
      reverseName := some row.reverseName
      topology := some row.topology.name }
  category : entry.categoryId = some row.categoryId
  space : entry.spaceId = some row.spaceId

/-- An included category has what is stored for the category. -/
structure CategoryData.Shows (data : CategoryData) (category : Category) : Prop where
  id : data.id = category.id
  name : data.attributes.name = category.name
  description : data.attributes.description = category.description
  version : data.attributes.version = category.version
  createdAt : data.attributes.createdAt = category.createdAt
  updatedAt : data.attributes.updatedAt = category.updatedAt

/-- An included space has what is stored for the space. -/
structure SpaceData.Shows (data : SpaceData) (space : Space) : Prop where
  id : data.id = space.id
  name : data.attributes.name = space.name
  description : data.attributes.description = space.description
  version : data.attributes.version = space.version
  createdAt : data.attributes.createdAt = space.createdAt
  updatedAt : data.attributes.updatedAt = space.updatedAt
  owner : data.ownedBy.id = some space.ownerId

/-- The included resources are those of some categories and then those of some spaces, and show
    them one by one. -/
def ListDocument.Includes (document : ListDocument) (categories : List Category)
    (spaces : List Space) : Prop :=
  ∃ shownCategories shownSpaces,
    document.included = shownCategories.map .category ++ shownSpaces.map .space ∧
      List.Forall₂ CategoryData.Shows shownCategories categories ∧
      List.Forall₂ SpaceData.Shows shownSpaces spaces

theorem LinkType.shows_resource (request : Request) (spaceId : Uuid) (rows : List LinkType) :
    List.Forall₂ LinkTypeData.Shows (rows.map (LinkType.resource request spaceId)) rows :=
  List.forall₂_map_left_iff.2 (List.forall₂_same.2 fun _ _ => ⟨rfl, rfl, rfl, rfl⟩)

/-- An entry shows one row only. -/
theorem LinkTypeData.Shows.rightUnique : Relator.RightUnique LinkTypeData.Shows := by
  intro entry row other h hother
  have hid := Option.some.inj (h.id.symm.trans hother.id)
  have hattributes := Option.some.inj (h.attributes.symm.trans hother.attributes)
  have hcategory := Option.some.inj (h.category.symm.trans hother.category)
  have hspace := Option.some.inj (h.space.symm.trans hother.space)
  simp only [LinkTypeAttributes.mk.injEq, Option.some.injEq] at hattributes
  obtain ⟨hname, hdescription, hversion, hcreated, hupdated, hforward, hreverse, htopology⟩ :=
    hattributes
  have htopology : row.topology = other.topology := by
    have hfound := Topology.ofName?_name row.topology
    rw [htopology, Topology.ofName?_name] at hfound
    exact (Option.some.inj hfound).symm
  cases row
  cases other
  simp_all

/-- Resources of one kind that show rows one by one. -/
theorem Included.exists_shown {α β : Type} {convert : α → Included} {wrap : β → Included}
    {Shows : β → α → Prop} (h : ∀ row, ∃ data, convert row = wrap data ∧ Shows data row)
    (rows : List α) :
    ∃ shown, rows.map convert = shown.map wrap ∧ List.Forall₂ Shows shown rows := by
  choose data hconvert hshows using h
  refine ⟨rows.map data, ?_,
    List.forall₂_map_left_iff.2 (List.forall₂_same.2 fun _ _ => hshows _)⟩
  rw [List.map_map]
  exact List.map_congr_left fun row _ => hconvert row

theorem ListDocument.includes_of_eq {request : Request} {document : ListDocument}
    {categories : List Category} {spaces : List Space}
    (h : document.included =
      categories.map (.ofCategory request) ++ spaces.map (.ofSpace request)) :
    document.Includes categories spaces := by
  obtain ⟨shownCategories, hcategories, hshown⟩ := Included.exists_shown
    (fun category => ⟨_, rfl, ⟨rfl, rfl, rfl, rfl, rfl, rfl⟩⟩ :
      ∀ category, ∃ data, Included.ofCategory request category = .category data ∧
        data.Shows category) categories
  obtain ⟨shownSpaces, hspaces, hshown'⟩ := Included.exists_shown
    (fun space => ⟨_, rfl, ⟨rfl, rfl, rfl, rfl, rfl, rfl, rfl⟩⟩ :
      ∀ space, ∃ data, Included.ofSpace request space = .space data ∧ data.Shows space) spaces
  exact ⟨shownCategories, shownSpaces, by rw [h, hcategories, hspaces], hshown, hshown'⟩

-- ════════════════════════════════════════════════════════════════════════
-- Relationships and included resources
-- ════════════════════════════════════════════════════════════════════════

/-- Every relationship of an entry leads to exactly one included resource, and every included
    resource is what some relationship of an entry leads to. -/
structure ListDocument.IsLinked (document : ListDocument) : Prop where
  resolves : ∀ entry ∈ document.data, ∀ relation ∈ entry.relations, ∃ reference,
    relation.data = some reference ∧
      (document.included.map Included.reference).count reference = 1
  referenced : ∀ resource ∈ document.included, ∃ entry ∈ document.data,
    ∃ relation ∈ entry.relations, relation.data = some resource.reference

namespace Included

variable {request : Request} {categories : List Category} {spaces : List Space}

/-- The names of included resources are those of the categories and then those of the spaces. -/
theorem map_reference :
    (categories.map (ofCategory request) ++ spaces.map (ofSpace request)).map reference =
      (categories.map Category.id).map (ResourceId.ofType categoriesType) ++
        (spaces.map Space.id).map (ResourceId.ofType spacesType) := by
  simp only [List.map_append, List.map_map]
  rfl

theorem nodup_references (hcategories : (categories.map Category.id).Nodup)
    (hspaces : (spaces.map Space.id).Nodup) :
    ((categories.map (ofCategory request) ++ spaces.map (ofSpace request)).map
      reference).Nodup := by
  rw [map_reference, List.nodup_append]
  refine ⟨hcategories.map (ResourceId.ofType_injective _),
    hspaces.map (ResourceId.ofType_injective _), fun a ha b hb => ?_⟩
  obtain ⟨category, -, rfl⟩ := List.mem_map.1 ha
  obtain ⟨space, -, rfl⟩ := List.mem_map.1 hb
  simp [ResourceId.ofType, categoriesType, spacesType]

end Included

/-- A list is linked if what its rows refer to is selected and included. -/
theorem ListDocument.isLinked_of_selects {catalog : Catalog} {request : Request} {spaceId : Uuid}
    {rows : List LinkType} {categories : List Category} {spaces : List Space}
    {document : ListDocument} (hdata : document.data = rows.map (LinkType.resource request spaceId))
    (hincluded : document.included =
      categories.map (.ofCategory request) ++ spaces.map (.ofSpace request))
    (hcategories : catalog.categories.Selects (rows.map LinkType.categoryId) categories)
    (hspaces : catalog.spaces.Selects (rows.map LinkType.spaceId) spaces) : document.IsLinked := by
  have hnodup : (document.included.map Included.reference).Nodup := by
    rw [hincluded]
    exact Included.nodup_references hcategories.increasing.nodup hspaces.increasing.nodup
  have hnames : document.included.map Included.reference =
      (categories.map Category.id).map (ResourceId.ofType categoriesType) ++
        (spaces.map Space.id).map (ResourceId.ofType spacesType) := by
    rw [hincluded, Included.map_reference]
  constructor
  · intro entry hentry relation hrelation
    rw [hdata] at hentry
    obtain ⟨row, hrow, rfl⟩ := List.mem_map.1 hentry
    rw [LinkTypeData.relations_resource, List.mem_cons, List.mem_singleton] at hrelation
    rcases hrelation with rfl | rfl
    · have hid : row.categoryId ∈ categories.map Category.id :=
        (hcategories.mem_iff _).2 (List.mem_map_of_mem hrow)
      refine ⟨.ofType categoriesType row.categoryId, rfl, List.count_eq_one_of_mem hnodup ?_⟩
      rw [hnames]
      exact List.mem_append_left _ (List.mem_map_of_mem hid)
    · have hid : row.spaceId ∈ spaces.map Space.id :=
        (hspaces.mem_iff _).2 (List.mem_map_of_mem hrow)
      refine ⟨.ofType spacesType row.spaceId, rfl, List.count_eq_one_of_mem hnodup ?_⟩
      rw [hnames]
      exact List.mem_append_right _ (List.mem_map_of_mem hid)
  · intro resource hresource
    rw [hincluded, List.mem_append] at hresource
    rcases hresource with hresource | hresource
    · obtain ⟨category, hcategory, rfl⟩ := List.mem_map.1 hresource
      obtain ⟨row, hrow, hid⟩ := List.mem_map.1
        ((hcategories.mem_iff category.id).1 (List.mem_map_of_mem hcategory))
      refine ⟨row.resource request spaceId, hdata ▸ List.mem_map_of_mem hrow, _,
        List.mem_cons_self, ?_⟩
      rw [Included.reference_ofCategory, ← hid]
      rfl
    · obtain ⟨space, hspace, rfl⟩ := List.mem_map.1 hresource
      obtain ⟨row, hrow, hid⟩ := List.mem_map.1
        ((hspaces.mem_iff space.id).1 (List.mem_map_of_mem hspace))
      refine ⟨row.resource request spaceId, hdata ▸ List.mem_map_of_mem hrow, _,
        List.mem_cons_of_mem _ List.mem_cons_self, ?_⟩
      rw [Included.reference_ofSpace, ← hid]
      rfl

/-- **Full linkage.** A list with a body has an entry for each row of the space, in strict order by
    name and identifier, which shows the row. What is included shows the categories that the rows
    refer to, each once and in order, and then the space of the list if it has a row, field by field
    as they are stored. Every relationship leads to exactly one included resource, and nothing else
    is included. -/
theorem Turn.lists_linked (turn : Turn) (catalog : Catalog) (request : Request) (spaceId : Uuid)
    (response : Response Document) (hcommand : turn.command = .list request spaceId)
    (hanswer : turn.answer catalog = .ok response) (hstatus : response.status = .ok) :
    ∃ document rows categories spaces, response.body = some (.list document) ∧
      document.data = rows.map (LinkType.resource request spaceId) ∧
      List.Forall₂ LinkTypeData.Shows document.data rows ∧
      (∀ row, row ∈ rows ↔
        catalog.linkTypes.find? row.id = some row ∧ row.spaceId = spaceId) ∧
      rows.Pairwise LinkType.Precedes ∧
      document.Includes categories spaces ∧
      catalog.categories.Selects (rows.map LinkType.categoryId) categories ∧
      catalog.spaces.Selects (rows.map LinkType.spaceId) spaces ∧
      spaces.map Space.id = (if rows = [] then [] else [spaceId]) ∧
      document.IsLinked := by
  rw [answer_of_list hcommand] at hanswer
  rcases Subject.body_of_answer hanswer with ⟨hnot, -⟩ | ⟨-, included, hincluded, hbody⟩
  · rw [hstatus] at hnot
    cases hnot
  obtain ⟨categories, spaces, hcategories, hspaces, rfl⟩ := Catalog.selects_of_related hincluded
  have hrows : ∀ row, row ∈ catalog.linkTypesOf spaceId ↔
      catalog.linkTypes.find? row.id = some row ∧ row.spaceId = spaceId := by
    intro row
    rw [Catalog.mem_linkTypesOf, Table.mem_rows_iff]
    rfl
  refine ⟨_, catalog.linkTypesOf spaceId, categories, spaces, hbody, rfl,
    LinkType.shows_resource request spaceId _, hrows,
    catalog.pairwise_precedes_linkTypesOf spaceId, ListDocument.includes_of_eq rfl, hcategories,
    hspaces, ?_, ListDocument.isLinked_of_selects rfl rfl hcategories hspaces⟩
  have hids := hspaces.ids_of_const fun id hid => by
    obtain ⟨row, hrow, rfl⟩ := List.mem_map.1 hid
    exact ((hrows row).1 hrow).2
  exact hids.trans (if_congr List.map_eq_nil_iff rfl rfl)

/-- The list of both rows has their entries in order, shows the category and the space that they
    share once, and is linked. -/
theorem Turn.lists_linked_samplePair :
    let turn := Turn.sample (.list .sample Space.sample.id)
    ∃ response document, turn.answer .samplePair = .ok response ∧ response.status = .ok ∧
      response.body = some (.list document) ∧
      List.Forall₂ LinkTypeData.Shows document.data [LinkType.sampleNext, LinkType.sample] ∧
      document.Includes [Category.sample] [Space.sample] ∧ document.IsLinked := by
  intro turn
  have hrelated : ∀ row ∈ Catalog.samplePair.linkTypesOf Space.sample.id,
      Catalog.samplePair.HasRelated row := fun row hrow =>
    Catalog.isClosed_samplePair row (Catalog.mem_linkTypesOf.1 hrow).1
  obtain ⟨included, hincluded⟩ := Catalog.exists_related hrelated .sample
  obtain ⟨policy, hpolicy⟩ := Subject.exists_headerValue
    (by decide +kernel : turn.settings.HasPolicies) (.all Space.sample.id)
  have hcurrent := Validators.isNotModified_of_isUnconditional
    (by decide : Request.sample.IsUnconditional)
    (Subject.validators (.all Space.sample.id) turn.settings .samplePair)
  obtain ⟨response, hserved, hstatus, hbody⟩ := Subject.exists_answer_of_document rfl hpolicy
    (by simp [hcurrent]) (Subject.document_eq_ok_iff.2 ⟨included, hincluded, rfl⟩)
  have hanswer : turn.answer .samplePair = .ok response := (answer_eq_of_read rfl _).trans hserved
  obtain ⟨document, rows, categories, spaces, hlist, hdata, hshown, -, -, hincludes, hcategories,
    hspaces, -, hlinked⟩ :=
    lists_linked turn .samplePair .sample Space.sample.id response rfl hanswer hstatus
  have hrows : rows = [LinkType.sampleNext, LinkType.sample] := by
    have hexpected := LinkType.shows_resource .sample Space.sample.id
      (Catalog.samplePair.linkTypesOf Space.sample.id)
    have hlisted : document.data = (Catalog.samplePair.linkTypesOf Space.sample.id).map
        (LinkType.resource .sample Space.sample.id) := by
      cases hbody.symm.trans hlist
      rfl
    rw [← hlisted, Catalog.linkTypesOf_samplePair] at hexpected
    exact List.right_unique_forall₂' LinkTypeData.Shows.rightUnique hshown hexpected
  subst hrows
  have hcategory : categories = [Category.sample] := by
    refine hcategories.eq_singleton (hcategories.ids_of_const fun id hid => ?_) rfl
    obtain ⟨row, hrow, rfl⟩ := List.mem_map.1 hid
    rcases List.mem_pair.1 hrow with rfl | rfl <;> rfl
  have hspace : spaces = [Space.sample] := by
    refine hspaces.eq_singleton (hspaces.ids_of_const fun id hid => ?_) rfl
    obtain ⟨row, hrow, rfl⟩ := List.mem_map.1 hid
    rcases List.mem_pair.1 hrow with rfl | rfl <;> rfl
  rw [hcategory, hspace] at hincludes
  exact ⟨response, document, hanswer, hstatus, hlist, hshown, hincludes, hlinked⟩

end LinkCatalog
