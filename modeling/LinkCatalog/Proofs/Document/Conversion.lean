import LinkCatalog.Document.Convert
import LinkCatalog.Proofs.Catalog.Writes

/-!
# Rows and documents that describe them

A document describes a row if its required parts are there and its names are not empty. The resource
that shows a row describes that row again.

## Main definitions

- `LinkTypeData.row` — the row of a resource with attributes and a topology
- `LinkType.resource` — the resource of a row, with its address
- `SingleDocument.id?`, `SingleDocument.version?`, `SingleDocument.spaceId?` — what a document says
  about the row that it is for

## Main statements

- `SingleDocument.toLinkType_eq_ok_iff` — when a document describes a row, and which one
- `SingleDocument.toLinkType_resource` — the resource of a row describes it
-/

namespace LinkCatalog

theorem requirePart_eq_ok_iff {α : Type} {parameter : String} {part : Option α} {value : α} :
    requirePart parameter part = .ok value ↔ part = some value := by
  cases part <;> simp [requirePart]

/-- A name is accepted unless it is there and empty; a missing one is empty. -/
theorem optionalName_eq_ok_iff {parameter : String} {name : Option String} {value : String} :
    optionalName parameter name = .ok value ↔ name ≠ some "" ∧ value = name.getD "" := by
  cases name with
  | none => simp [optionalName, eq_comm]
  | some name =>
    by_cases hempty : name = ""
    · simp [optionalName, hempty]
    · simp [optionalName, hempty, eq_comm]

theorem Topology.parse_eq_ok_iff {name : String} {topology : Topology} :
    Topology.parse name = .ok topology ↔ name = topology.name := by
  constructor
  · intro h
    unfold parse at h
    split at h
    · next found hfound =>
      cases h
      have hname : topology.name = name := by simpa using List.find?_some hfound
      exact hname.symm
    · cases h
  · rintro rfl
    simp [parse, ofName?_name]

/-- A link type as a resource with its address under a space. -/
def LinkType.resource (request : Request) (spaceId : Uuid) (linkType : LinkType) : LinkTypeData :=
  { LinkTypeData.ofLinkType request linkType with
    links := some (Links.same (request.absolute (Href.linkType spaceId linkType.id))) }

/-- The row that a resource with the given attributes and topology stands for. -/
def LinkTypeData.row (data : LinkTypeData) (attributes : LinkTypeAttributes) (topology : Topology) :
    LinkType :=
  { id := data.id.getD .nil
    name := attributes.name.getD ""
    description := attributes.description
    version := attributes.version.getD 0
    createdAt := attributes.createdAt.getD .epoch
    updatedAt := attributes.updatedAt.getD .epoch
    forwardName := attributes.forwardName.getD ""
    reverseName := attributes.reverseName.getD ""
    topology
    categoryId := data.categoryId.getD .nil
    spaceId := data.spaceId.getD .nil }

namespace SingleDocument

variable {document : SingleDocument} {row : LinkType}

/-- The identifier that a document names. -/
def id? (document : SingleDocument) : Option Uuid :=
  document.data.bind LinkTypeData.id

/-- The version that a document names. -/
def version? (document : SingleDocument) : Option Int32 :=
  (document.data.bind LinkTypeData.attributes).bind LinkTypeAttributes.version

/-- The space that a document names. -/
def spaceId? (document : SingleDocument) : Option Uuid :=
  document.data.bind LinkTypeData.spaceId

/-- A document describes a row if attributes, relationships and a known topology are there, and no
    name is there and empty. -/
theorem toLinkType_eq_ok_iff :
    document.toLinkType = .ok row ↔
      ∃ data attributes topology, document.data = some data ∧ data.attributes = some attributes ∧
        data.relationships ≠ none ∧ attributes.topology = some topology.name ∧
        attributes.name ≠ some "" ∧ attributes.forwardName ≠ some "" ∧
        attributes.reverseName ≠ some "" ∧ row = data.row attributes topology := by
  unfold toLinkType
  simp only [Failure.bind_eq_ok_iff, requirePart_eq_ok_iff, optionalName_eq_ok_iff,
    Topology.parse_eq_ok_iff]
  constructor
  · rintro ⟨data, hdata, attributes, hattributes, relationships, hrelationships, _, htopology,
      topology, rfl, name, ⟨hname, rfl⟩, forwardName, ⟨hforward, rfl⟩, reverseName,
      ⟨hreverse, rfl⟩, hrow⟩
    cases hrow
    exact ⟨data, attributes, topology, hdata, hattributes, by simp [hrelationships], htopology,
      hname, hforward, hreverse, rfl⟩
  · rintro ⟨data, attributes, topology, hdata, hattributes, hrelationships, htopology, hname,
      hforward, hreverse, rfl⟩
    obtain ⟨relationships, hrelationships⟩ := Option.ne_none_iff_exists'.1 hrelationships
    exact ⟨data, hdata, attributes, hattributes, relationships, hrelationships, _, htopology,
      topology, rfl, _, ⟨hname, rfl⟩, _, ⟨hforward, rfl⟩, _, ⟨hreverse, rfl⟩, rfl⟩

/-- The row that a document describes has the identifier that the document names. -/
theorem id_of_toLinkType {id : Uuid} (h : document.toLinkType = .ok row)
    (hid : document.id? = some id) : row.id = id := by
  obtain ⟨data, attributes, topology, hdata, -, -, -, -, -, -, rfl⟩ := toLinkType_eq_ok_iff.1 h
  simp only [id?, hdata, Option.bind_some] at hid
  simp [LinkTypeData.row, hid]

/-- The row that a document describes has the version that the document names, or 0. -/
theorem version_eq_getD_of_toLinkType (h : document.toLinkType = .ok row) :
    row.version = document.version?.getD 0 := by
  obtain ⟨data, attributes, topology, hdata, hattributes, -, -, -, -, -, rfl⟩ :=
    toLinkType_eq_ok_iff.1 h
  simp [version?, hdata, hattributes, LinkTypeData.row]

theorem version_of_toLinkType {version : Int32} (h : document.toLinkType = .ok row)
    (hversion : document.version? = some version) : row.version = version := by
  rw [version_eq_getD_of_toLinkType h, hversion, Option.getD_some]

/-- The resource of a row with all names describes the row, whichever space it is shown under. -/
theorem toLinkType_resource {request : Request} {spaceId : Uuid} {included : List Included}
    (hnamed : row.IsNamed) :
    ({ data := some (row.resource request spaceId), included } : SingleDocument).toLinkType =
      .ok row := by
  obtain ⟨hname, hforward, hreverse⟩ := hnamed
  rw [toLinkType_eq_ok_iff]
  refine ⟨row.resource request spaceId, _, row.topology, rfl, rfl, ?_, rfl, ?_, ?_, ?_, rfl⟩
  · simp [LinkType.resource, LinkTypeData.ofLinkType]
  · simpa using hname
  · simpa using hforward
  · simpa using hreverse

end SingleDocument

end LinkCatalog
