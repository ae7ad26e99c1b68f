import LinkCatalog.Proofs.Document.Conversion
import LinkCatalog.Service.Actions

/-!
# Enriched documents

A document that is made from rows names everything that its enrichment needs: each entry has an
identifier, a category and a space. So the checks of the enrichment never fail on such a document,
neither before a write nor after it, and all that is left of it are the look-ups of what the rows
refer to. Answers that read and answers that write then have the same parts.

## Main definitions

- `Service.relatedTo` — the categories and the spaces that some rows refer to

## Main statements

- `Service.linkEntry_eq_ok_iff` — what an entry must have
- `Service.relatedOf_eq`, `Service.withRelated_eq` — what is related to a row, and its document
- `Service.enrichSingle_ofLinkType`, `Service.enrichList_ofLinkTypes` — documents made from rows
- `Service.toLinkType_overrideSpace` — a document whose space is replaced
-/

namespace LinkCatalog

theorem Uuid.sortedDistinct_singleton (id : Uuid) : Uuid.sortedDistinct [id] = [id] := by
  simp [sortedDistinct, List.eraseDups_cons]

namespace Action

variable {α β : Type}

theorem liftExcept_ok_bind (value : α) (next : α → Action β) :
    (liftExcept (.ok value : Except Failure α) >>= next) = next value :=
  rfl

/-- An action fails as its first part does if the rest cannot fail. -/
theorem mapFailure_bind_pure (change : Failure → Failure) (action : Action α)
    (next : α → β) :
    (action >>= fun value => pure (next value)).mapFailure change =
      action.mapFailure change >>= fun value => pure (next value) := by
  show Except.mapError change <$> (action >>= fun value => pure (next value)).run =
    ((action.mapFailure change) >>= fun value => pure (next value)).run
  rw [ExceptT.run_bind, ExceptT.run_bind, map_eq_pure_bind, bind_assoc]
  show _ = (Except.mapError change <$> action.run) >>= _
  rw [map_eq_pure_bind, bind_assoc]
  refine congrArg (action.run >>= ·) (funext fun value => ?_)
  cases value <;> rfl

end Action

namespace Service

variable {request : Request} {spaceId : Uuid} {data : LinkTypeData}

-- ════════════════════════════════════════════════════════════════════════
-- Entries
-- ════════════════════════════════════════════════════════════════════════

theorem relatedId_eq_ok_iff {what : String} {id : Option Uuid} {found : Uuid} :
    relatedId what id = .ok found ↔ id = some found := by
  cases id <;> simp [relatedId]

theorem addLinks_eq_ok_iff {linked : LinkTypeData} :
    addLinks request spaceId data = .ok linked ↔ ∃ id, data.id = some id ∧
      linked = { data with
        links := some (Links.same (request.absolute (Href.linkType spaceId id))) } := by
  unfold addLinks
  simp only [Failure.bind_eq_ok_iff, relatedId_eq_ok_iff]
  refine exists_congr fun id => and_congr_right fun _ => ?_
  exact ⟨fun h => (Except.ok.inj h).symm, fun h => congrArg Except.ok h.symm⟩

/-- An entry can be linked if and only if it has an identifier, a category and a space. -/
theorem linkEntry_eq_ok_iff {entry : LinkedEntry} :
    linkEntry request spaceId data = .ok entry ↔
      addLinks request spaceId data = .ok entry.data ∧
        data.categoryId = some entry.categoryId ∧ data.spaceId = some entry.spaceId := by
  unfold linkEntry
  simp only [Failure.bind_eq_ok_iff, relatedId_eq_ok_iff]
  constructor
  · rintro ⟨linked, hlinked, categoryId, hcategory, space, hspace, hentry⟩
    cases hentry
    obtain ⟨id, -, rfl⟩ := addLinks_eq_ok_iff.1 hlinked
    exact ⟨hlinked, hcategory, hspace⟩
  · rintro ⟨hlinked, hcategory, hspace⟩
    obtain ⟨id, -, hdata⟩ := addLinks_eq_ok_iff.1 hlinked
    refine ⟨entry.data, hlinked, entry.categoryId, ?_, entry.spaceId, ?_, rfl⟩
    · rw [hdata]
      exact hcategory
    · rw [hdata]
      exact hspace

theorem addLinks_ofLinkType (request : Request) (spaceId : Uuid) (row : LinkType) :
    addLinks request spaceId (.ofLinkType request row) = .ok (row.resource request spaceId) :=
  addLinks_eq_ok_iff.2 ⟨row.id, rfl, rfl⟩

/-- An entry that is made from a row can be linked. -/
theorem linkEntry_ofLinkType (request : Request) (spaceId : Uuid) (row : LinkType) :
    linkEntry request spaceId (.ofLinkType request row) =
      .ok { data := row.resource request spaceId
            categoryId := row.categoryId
            spaceId := row.spaceId } :=
  linkEntry_eq_ok_iff.2 ⟨addLinks_ofLinkType request spaceId row, rfl, rfl⟩

/-- Entries that are made from rows can be linked one after the other. -/
theorem mapM_linkEntry_ofLinkType (request : Request) (spaceId : Uuid) (rows : List LinkType) :
    (rows.map (LinkTypeData.ofLinkType request)).mapM (linkEntry request spaceId) =
      .ok (rows.map fun row =>
        { data := row.resource request spaceId
          categoryId := row.categoryId
          spaceId := row.spaceId }) := by
  induction rows with
  | nil => rfl
  | cons row rows ih =>
    rw [List.map_cons, Failure.mapM_cons_eq_ok_iff]
    exact ⟨_, _, linkEntry_ofLinkType request spaceId row, ih, rfl⟩

-- ════════════════════════════════════════════════════════════════════════
-- Documents made from rows
-- ════════════════════════════════════════════════════════════════════════

/-- The categories and the spaces that some rows refer to. -/
def relatedTo (request : Request) (rows : List LinkType) : Action (List Included) :=
  related request (Uuid.sortedDistinct (rows.map LinkType.categoryId))
    (Uuid.sortedDistinct (rows.map LinkType.spaceId))

theorem relatedOf_eq (request : Request) (row : LinkType) :
    relatedOf request row = relatedTo request [row] := by
  simp only [relatedOf, relatedTo, List.map_cons, List.map_nil, Uuid.sortedDistinct_singleton]

/-- The document of a row that has been written can always be made. -/
theorem withRelated_eq (request : Request) (spaceId : Uuid) (row : LinkType)
    (included : List Included) :
    withRelated request spaceId row included =
      .ok { data := some (row.resource request spaceId), included } := by
  simp only [withRelated, SingleDocument.ofLinkType, Option.mapM_some, addLinks_ofLinkType]
  rfl

theorem enrichSingle_ofLinkType (request : Request) (spaceId : Uuid) (row : LinkType) :
    enrichSingle request spaceId (.ofLinkType request row) = (do
      let included ← relatedTo request [row]
      return { data := some (row.resource request spaceId), included }) := by
  simp only [enrichSingle, SingleDocument.ofLinkType, linkEntry_ofLinkType, ← relatedOf_eq,
    Action.liftExcept_ok_bind, List.nil_append]
  rfl

theorem enrichList_ofLinkTypes (request : Request) (spaceId : Uuid) (rows : List LinkType) :
    enrichList request spaceId (.ofLinkTypes request rows) = (do
      let included ← relatedTo request rows
      return { data := rows.map (LinkType.resource request spaceId)
               included
               totalCount := UInt64.ofNat rows.length }) := by
  simp only [enrichList, ListDocument.ofLinkTypes, mapM_linkEntry_ofLinkType, relatedTo,
    Action.liftExcept_ok_bind, List.map_map]
  rfl

-- ════════════════════════════════════════════════════════════════════════
-- Documents whose space is replaced
-- ════════════════════════════════════════════════════════════════════════

/-- A document whose space is replaced is refused like the document itself, or describes the same
row in the other space. -/
theorem toLinkType_overrideSpace (request : Request) (spaceId : Uuid) (payload : SingleDocument) :
    (overrideSpace request spaceId payload).toLinkType =
      payload.toLinkType.map fun row => { row with spaceId } := by
  obtain ⟨data, included⟩ := payload
  cases data with
  | none => rfl
  | some data =>
    obtain ⟨type, id, attributes, relationships, links⟩ := data
    cases relationships with
    | none => cases attributes <;> rfl
    | some relationships =>
      simp only [SingleDocument.toLinkType, Failure.map_bind]
      rfl

end Service

end LinkCatalog
