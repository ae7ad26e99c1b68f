import LinkCatalog.Document.Json
import LinkCatalog.Model.Json
import LinkCatalog.Proofs.Json.Record

/-!
# Reading written documents and rows

Every document and every row is read back from the value it is written as, and that value from its
text. The proofs follow the fields of the records, from the innermost records on, and count how deep
they are nested.

## Main statements

- `Included.inverts` — resources that are told apart by their type
- `SingleDocument.inverts`, `ListDocument.inverts`, `ErrorDocument.inverts` — documents
- `LinkType.inverts`, `Category.inverts`, `Space.inverts` — rows
- `documents_and_rows_roundTrip` — all of them, and what follows for values that have been read
-/

namespace LinkCatalog

open Fields (bind_eq)
open Read (inverts_string inverts_uuid inverts_int32 inverts_instant inverts_uint64)

-- ════════════════════════════════════════════════════════════════════════
-- Links and relationships
-- ════════════════════════════════════════════════════════════════════════

theorem Links.inverts : Links.ofJson.Inverts Links.toJson 1 := by
  apply Read.Inverts.record
  · intro links
    refine bind_eq (inverts_string.optional links.self (by simp)) ?_
    refine bind_eq (inverts_string.optional links.related (by simp)) ?_
    rfl
  · intro links
    simp [inverts_string.hasText_optionalMember]

theorem ResourceId.inverts : ResourceId.ofJson.Inverts ResourceId.toJson 1 := by
  apply Read.Inverts.record
  · intro resource
    refine bind_eq (inverts_string.required resource.type (by simp)) ?_
    refine bind_eq (inverts_uuid.optional resource.id (by simp)) ?_
    rfl
  · intro resource
    simp [inverts_uuid.hasText_optionalMember]

theorem Relation.inverts : Relation.ofJson.Inverts Relation.toJson 2 := by
  apply Read.Inverts.record
  · intro relation
    refine bind_eq (ResourceId.inverts.optional relation.data (by simp)) ?_
    refine bind_eq (Links.inverts.optional relation.links (by simp)) ?_
    rfl
  · intro relation
    simp [ResourceId.inverts.hasText_optionalMember, Links.inverts.hasText_optionalMember]

-- ════════════════════════════════════════════════════════════════════════
-- Link types as resources
-- ════════════════════════════════════════════════════════════════════════

theorem LinkTypeAttributes.inverts :
    LinkTypeAttributes.ofJson.Inverts LinkTypeAttributes.toJson 1 := by
  apply Read.Inverts.record
  · intro attributes
    refine bind_eq (inverts_string.optional attributes.name (by simp)) ?_
    refine bind_eq (inverts_string.optional attributes.description (by simp)) ?_
    refine bind_eq (inverts_int32.optional attributes.version (by simp)) ?_
    refine bind_eq (inverts_instant.optional attributes.createdAt (by simp)) ?_
    refine bind_eq (inverts_instant.optional attributes.updatedAt (by simp)) ?_
    refine bind_eq (inverts_string.optional attributes.forwardName (by simp)) ?_
    refine bind_eq (inverts_string.optional attributes.reverseName (by simp)) ?_
    refine bind_eq (inverts_string.optional attributes.topology (by simp)) ?_
    rfl
  · intro attributes
    simp [inverts_string.hasText_optionalMember, inverts_int32.hasText_optionalMember,
      inverts_instant.hasText_optionalMember]

theorem LinkTypeRelationships.inverts :
    LinkTypeRelationships.ofJson.Inverts LinkTypeRelationships.toJson 3 := by
  apply Read.Inverts.record
  · intro relationships
    refine bind_eq (Relation.inverts.optional relationships.linkCategory (by simp)) ?_
    refine bind_eq (Relation.inverts.optional relationships.space (by simp)) ?_
    rfl
  · intro relationships
    simp [Relation.inverts.hasText_optionalMember]

theorem LinkTypeData.inverts : LinkTypeData.ofJson.Inverts LinkTypeData.toJson 4 := by
  apply Read.Inverts.record
  · intro data
    refine bind_eq (inverts_string.required data.type (by simp)) ?_
    refine bind_eq (inverts_uuid.optional data.id (by simp)) ?_
    refine bind_eq (LinkTypeAttributes.inverts.optional data.attributes (by simp)) ?_
    refine bind_eq (LinkTypeRelationships.inverts.optional data.relationships (by simp)) ?_
    refine bind_eq (Links.inverts.optional data.links (by simp)) ?_
    rfl
  · intro data
    simp [inverts_uuid.hasText_optionalMember,
      LinkTypeAttributes.inverts.hasText_optionalMember,
      LinkTypeRelationships.inverts.hasText_optionalMember,
      Links.inverts.hasText_optionalMember]

-- ════════════════════════════════════════════════════════════════════════
-- Included resources
-- ════════════════════════════════════════════════════════════════════════

theorem RelatedAttributes.inverts :
    RelatedAttributes.ofJson.Inverts RelatedAttributes.toJson 1 := by
  apply Read.Inverts.record
  · intro attributes
    refine bind_eq (inverts_string.required attributes.name (by simp)) ?_
    refine bind_eq (inverts_string.optional attributes.description (by simp)) ?_
    refine bind_eq (inverts_int32.required attributes.version (by simp)) ?_
    refine bind_eq (inverts_instant.required attributes.createdAt (by simp)) ?_
    refine bind_eq (inverts_instant.required attributes.updatedAt (by simp)) ?_
    rfl
  · intro attributes
    simp [inverts_string.hasText_optionalMember]

theorem CategoryData.inverts :
    CategoryData.ofJson.Inverts (fun data => .object data.members) 2 := by
  apply Read.Inverts.record
  · intro data
    refine bind_eq (inverts_uuid.required data.id (by simp [members])) ?_
    refine bind_eq (RelatedAttributes.inverts.required data.attributes (by simp [members])) ?_
    refine bind_eq (Links.inverts.required data.links (by simp [members])) ?_
    rfl
  · intro data
    simp [members, RelatedAttributes.inverts.hasText_of_le, Links.inverts.hasText_of_le]

theorem SpaceData.inverts_ownedBy :
    ownedByOfJson.Inverts (fun relation => .object [("owned-by", relation.toJson)]) 3 := by
  apply Read.Inverts.record
  · intro relation
    exact Relation.inverts.required relation (by simp)
  · intro relation
    simp [Relation.inverts.hasText_of_le]

theorem SpaceData.inverts : SpaceData.ofJson.Inverts (fun data => .object data.members) 4 := by
  apply Read.Inverts.record
  · intro data
    refine bind_eq (inverts_uuid.required data.id (by simp [members])) ?_
    refine bind_eq (RelatedAttributes.inverts.required data.attributes (by simp [members])) ?_
    refine bind_eq (SpaceData.inverts_ownedBy.required data.ownedBy (by simp [members])) ?_
    refine bind_eq (Links.inverts.required data.links (by simp [members])) ?_
    rfl
  · intro data
    simp [members, Relation.inverts.hasText_of_le, RelatedAttributes.inverts.hasText_of_le,
      Links.inverts.hasText_of_le]

namespace Included

/-- The type of a tagged object and its members besides the type are told apart. -/
theorem splitType_object {type : String} {members : Fields}
    (h : members.filter (fun member => member.1 == "type") = []) :
    splitType (.object (("type", .string type) :: members)) = .ok (type, .object members) := by
  have htype : Fields.required (("type", .string type) :: members) "type" Read.string = .ok type :=
    inverts_string.required type (by simp [h])
  have hmembers : members.filter (fun member => member.1 != "type") = members := by
    rw [List.filter_eq_self]
    intro member hmember
    have hother := List.filter_eq_nil_iff.1 h member hmember
    simpa using hother
  refine bind_eq htype ?_
  rw [List.filter_cons_of_neg (by simp), hmembers]
  rfl

theorem inverts : Included.ofJson.Inverts Included.toJson 4 := by
  apply Read.Inverts.buffered
  constructor
  · intro included
    cases included with
    | category data =>
      have hsplit : splitType (toJson (.category data)) =
          .ok (categoriesType, .object data.members) :=
        splitType_object (by simp [CategoryData.members])
      refine bind_eq hsplit ?_
      dsimp only
      rw [if_pos rfl]
      exact bind_eq (CategoryData.inverts.read_write data) rfl
    | space data =>
      have hsplit : splitType (toJson (.space data)) = .ok (spacesType, .object data.members) :=
        splitType_object (by simp [SpaceData.members])
      refine bind_eq hsplit ?_
      dsimp only
      rw [if_neg (by decide), if_pos rfl]
      exact bind_eq (SpaceData.inverts.read_write data) rfl
  · intro included
    cases included <;> exact Json.noConfusion
  · intro included
    cases included with
    | category data =>
      have hmembers := CategoryData.inverts.hasText_of_le (by decide : 2 ≤ 4) data
      simpa [toJson] using hmembers
    | space data =>
      have hmembers := SpaceData.inverts.hasText_write data
      simpa [toJson] using hmembers

@[simp] theorem filter_includedMember (included : List Included) (name : String) :
    (includedMember included).filter (fun field => field.1 == name) =
      if "included" == name then includedMember included else [] := by
  cases included with
  | nil => by_cases hname : "included" == name <;> simp [includedMember, hname]
  | cons resource included => by_cases hname : "included" == name <;> simp [includedMember, hname]

theorem orElse_eq {fields : Fields} (included : List Included)
    (h : fields.filter (fun field => field.1 == "included") = includedMember included) :
    fields.orElse "included" [] (Read.list Included.ofJson) = .ok included := by
  cases included with
  | nil =>
    have hfind : fields.find "included" = .ok none := Fields.find_eq h
    rw [Fields.orElse, hfind]
    rfl
  | cons resource included =>
    have hfind : fields.find "included" =
        .ok (some (.array ((resource :: included).map toJson))) := Fields.find_eq h
    rw [Fields.orElse, hfind]
    exact inverts.list.read_write (resource :: included)

theorem hasText_includedMember (included : List Included) :
    Json.membersHaveText 5 (includedMember included) = true := by
  cases included with
  | nil => rfl
  | cons resource included =>
    have htext := inverts.list.hasText_write (resource :: included)
    exact Bool.and_eq_true _ _ ▸ ⟨htext, rfl⟩

end Included

-- ════════════════════════════════════════════════════════════════════════
-- Documents
-- ════════════════════════════════════════════════════════════════════════

theorem SingleDocument.inverts : SingleDocument.ofJson.Inverts SingleDocument.toJson 6 := by
  apply Read.Inverts.record
  · intro document
    refine bind_eq (LinkTypeData.inverts.optional document.data (by simp)) ?_
    refine bind_eq (Included.orElse_eq document.included (by simp)) ?_
    rfl
  · intro document
    simp [LinkTypeData.inverts.hasText_optionalMember, Included.hasText_includedMember]

theorem ListDocument.inverts_totalCount :
    totalCountOfJson.Inverts (fun n => .object [("totalCount", .integer n.toNat)]) 1 := by
  apply Read.Inverts.record
  · intro n
    exact inverts_uint64.required n (by simp)
  · intro n
    simp

theorem ListDocument.inverts : ListDocument.ofJson.Inverts ListDocument.toJson 6 := by
  apply Read.Inverts.record
  · intro document
    refine bind_eq (LinkTypeData.inverts.list.required document.data (by simp)) ?_
    refine bind_eq (Included.orElse_eq document.included (by simp)) ?_
    refine bind_eq (ListDocument.inverts_totalCount.required document.totalCount (by simp)) ?_
    rfl
  · intro document
    simp [Json.haveText_map LinkTypeData.inverts.hasText_write,
      Included.hasText_includedMember]

theorem ErrorObject.inverts : ErrorObject.ofJson.Inverts ErrorObject.toJson 1 := by
  apply Read.Inverts.record
  · intro error
    refine bind_eq (inverts_string.required error.status (by simp)) ?_
    refine bind_eq (inverts_string.required error.title (by simp)) ?_
    refine bind_eq (inverts_string.required error.detail (by simp)) ?_
    rfl
  · intro error
    simp

theorem ErrorDocument.inverts : ErrorDocument.ofJson.Inverts ErrorDocument.toJson 3 := by
  apply Read.Inverts.record
  · intro document
    exact bind_eq (ErrorObject.inverts.list.required document.errors (by simp)) rfl
  · intro document
    simp [Json.haveText_map ErrorObject.inverts.hasText_write]

-- ════════════════════════════════════════════════════════════════════════
-- Rows
-- ════════════════════════════════════════════════════════════════════════

theorem Topology.inverts : Topology.ofJson.Inverts Topology.toJson 0 where
  read_write topology := by rw [toJson, ofJson, ofName?_name]
  write_ne_null _ := Json.noConfusion
  hasText_write _ := rfl

theorem LinkType.inverts : LinkType.ofJson.Inverts LinkType.toJson 1 := by
  apply Read.Inverts.record
  · intro row
    refine bind_eq (inverts_uuid.required row.id (by simp)) ?_
    refine bind_eq (inverts_string.required row.name (by simp)) ?_
    refine bind_eq (inverts_string.optional_orNull row.description (by simp)) ?_
    refine bind_eq (inverts_int32.required row.version (by simp)) ?_
    refine bind_eq (inverts_instant.required row.createdAt (by simp)) ?_
    refine bind_eq (inverts_instant.required row.updatedAt (by simp)) ?_
    refine bind_eq (inverts_string.required row.forwardName (by simp)) ?_
    refine bind_eq (inverts_string.required row.reverseName (by simp)) ?_
    refine bind_eq (Topology.inverts.required row.topology (by simp)) ?_
    refine bind_eq (inverts_uuid.required row.categoryId (by simp)) ?_
    refine bind_eq (inverts_uuid.required row.spaceId (by simp)) ?_
    rfl
  · intro row
    simp [Topology.inverts.hasText_of_le]

theorem Category.inverts : Category.ofJson.Inverts Category.toJson 1 := by
  apply Read.Inverts.record
  · intro row
    refine bind_eq (inverts_uuid.required row.id (by simp)) ?_
    refine bind_eq (inverts_string.required row.name (by simp)) ?_
    refine bind_eq (inverts_string.optional_orNull row.description (by simp)) ?_
    refine bind_eq (inverts_int32.required row.version (by simp)) ?_
    refine bind_eq (inverts_instant.required row.createdAt (by simp)) ?_
    refine bind_eq (inverts_instant.required row.updatedAt (by simp)) ?_
    rfl
  · intro row
    simp

theorem Space.inverts : Space.ofJson.Inverts Space.toJson 1 := by
  apply Read.Inverts.record
  · intro row
    refine bind_eq (inverts_uuid.required row.id (by simp)) ?_
    refine bind_eq (inverts_string.required row.name (by simp)) ?_
    refine bind_eq (inverts_string.optional_orNull row.description (by simp)) ?_
    refine bind_eq (inverts_uuid.required row.ownerId (by simp)) ?_
    refine bind_eq (inverts_int32.required row.version (by simp)) ?_
    refine bind_eq (inverts_instant.required row.createdAt (by simp)) ?_
    refine bind_eq (inverts_instant.required row.updatedAt (by simp)) ?_
    rfl
  · intro row
    simp

/-- **Round trips.** Every document and every row is read back from the value it is written as, and
    that value from its text. So whatever a value is read as can be written and read again without
    change. -/
theorem documents_and_rows_roundTrip :
    SingleDocument.ofJson.RoundTrips SingleDocument.toJson ∧
      ListDocument.ofJson.RoundTrips ListDocument.toJson ∧
      ErrorDocument.ofJson.RoundTrips ErrorDocument.toJson ∧
      LinkType.ofJson.RoundTrips LinkType.toJson ∧
      Category.ofJson.RoundTrips Category.toJson ∧
      Space.ofJson.RoundTrips Space.toJson :=
  ⟨SingleDocument.inverts.roundTrips (by decide), ListDocument.inverts.roundTrips (by decide),
    ErrorDocument.inverts.roundTrips (by decide), LinkType.inverts.roundTrips (by decide),
    Category.inverts.roundTrips (by decide), Space.inverts.roundTrips (by decide)⟩

end LinkCatalog
