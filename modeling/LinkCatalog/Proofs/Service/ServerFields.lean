import LinkCatalog.Proofs.Document.Acceptance
import LinkCatalog.Proofs.Service.Answers

/-!
# Fields that belong to the server

A document has room for things that a client does not decide: the times of a row, the version of a
new one, types, links and included resources. A client may fill them in or leave them out. The row
that is stored, the answer and the failures are the same, because the checks do not look at these
fields, and the catalog sets them itself when it writes.

## Main definitions

- `SingleDocument.forCreation`, `SingleDocument.forUpdate` — what is taken from a document
- `Catalog.storing` — a row is checked, what it refers to is looked up, and it is written

## Main statements

- `SingleDocument.toLinkType_blanked` — the row of a document without the fields of the server
- `Catalog.storing_map` — changes of a row that its look-ups and its write do not see
- `Turn.ignores_serverFields` — creations and updates with documents that differ in such fields
-/

namespace LinkCatalog

-- ════════════════════════════════════════════════════════════════════════
-- Documents without the fields of the server
-- ════════════════════════════════════════════════════════════════════════

/-- The relationship without its type and its links. -/
def Relation.bare (relation : Relation) : Relation :=
  { data := relation.data.map fun reference => { type := "", id := reference.id } }

theorem Relation.id_bare (relation : Relation) : relation.bare.id = relation.id := by
  obtain ⟨data, links⟩ := relation
  cases data <;> rfl

section Blanked

variable (version : Option Int32 → Option Int32) (space : Option Relation → Option Relation)

/-- The attributes without times, and with something else in place of the version. -/
def LinkTypeAttributes.blanked (attributes : LinkTypeAttributes) : LinkTypeAttributes :=
  { attributes with
    version := version attributes.version, createdAt := none, updatedAt := none }

/-- The resource without times, types and links, and with something else in place of the version and
    the space. -/
def LinkTypeData.blanked (data : LinkTypeData) : LinkTypeData :=
  { type := ""
    id := data.id
    attributes := data.attributes.map (·.blanked version)
    relationships := data.relationships.map fun relationships =>
      { linkCategory := relationships.linkCategory.map Relation.bare
        space := space relationships.space } }

/-- The document with its resource blanked, and without included resources. -/
def SingleDocument.blanked (document : SingleDocument) : SingleDocument :=
  { data := document.data.map (·.blanked version space) }

theorem LinkTypeData.categoryId_blanked (data : LinkTypeData) :
    (data.blanked version space).categoryId = data.categoryId := by
  unfold categoryId blanked
  cases data.relationships with
  | none => rfl
  | some relationships =>
    obtain ⟨linkCategory, own⟩ := relationships
    cases linkCategory with
    | none => rfl
    | some relation => exact relation.id_bare

/-- The conditions on a document are not about the fields of the server. -/
theorem SingleDocument.conditions_blanked (document : SingleDocument) :
    (document.blanked version space).conditions = document.conditions := by
  obtain ⟨data, included⟩ := document
  cases data with
  | none => rfl
  | some data =>
    obtain ⟨type, id, attributes, relationships, links⟩ := data
    cases attributes <;> cases relationships <;> rfl

/-- The document without the fields of the server is refused like the document itself, or describes
    the same row but for these fields. -/
theorem SingleDocument.toLinkType_blanked (document : SingleDocument) :
    (document.blanked version space).toLinkType = document.toLinkType.map fun row =>
      { row with
        version := (version document.version?).getD 0
        createdAt := .epoch
        updatedAt := .epoch
        spaceId := (document.blanked version space).spaceId?.getD .nil } := by
  cases hrow : document.toLinkType with
  | error failure =>
    rw [document.decides_toLinkType.eq_error_iff] at hrow
    rw [Except.map, (document.blanked version space).decides_toLinkType.eq_error_iff,
      conditions_blanked, hrow]
  | ok row =>
    obtain ⟨data, attributes, topology, hdata, hattributes, hrelationships, htopology, hname,
      hforward, hreverse, rfl⟩ := toLinkType_eq_ok_iff.1 hrow
    have hversion : document.version? = attributes.version := by
      rw [version?, hdata, Option.bind_some, hattributes, Option.bind_some]
    have hblanked : (document.blanked version space).data = some (data.blanked version space) := by
      rw [blanked, hdata, Option.map_some]
    have hspace : (document.blanked version space).spaceId? =
        (data.blanked version space).spaceId := by
      rw [spaceId?, hblanked, Option.bind_some]
    rw [Except.map, toLinkType_eq_ok_iff]
    refine ⟨data.blanked version space, attributes.blanked version, topology, hblanked, ?_, ?_,
      htopology, hname, hforward, hreverse, ?_⟩
    · rw [LinkTypeData.blanked, hattributes, Option.map_some]
    · rwa [LinkTypeData.blanked, Ne, Option.map_eq_none_iff]
    · rw [hversion, hspace, LinkTypeData.row, LinkTypeData.row, LinkTypeData.categoryId_blanked]
      rfl

end Blanked

namespace SingleDocument

/-- What a creation takes from a document: neither the version nor the space. -/
def forCreation (document : SingleDocument) : SingleDocument :=
  document.blanked (fun _ => none) fun _ => none

/-- What an update through a space takes from a document: the version, and the identifier of a
    space, which is that of the path where the document names none. -/
def forUpdate (document : SingleDocument) (spaceId : Uuid) : SingleDocument :=
  document.blanked id fun space =>
    some (.ofResource "" ((space.bind Relation.id).getD spaceId) "")

theorem id?_blanked (version : Option Int32 → Option Int32)
    (space : Option Relation → Option Relation) (document : SingleDocument) :
    (document.blanked version space).id? = document.id? := by
  unfold id? blanked
  cases document.data <;> rfl

end SingleDocument

-- ════════════════════════════════════════════════════════════════════════
-- Rows without the fields of the server
-- ════════════════════════════════════════════════════════════════════════

namespace LinkType

/-- The row without its version and its times. -/
def unstarted (row : LinkType) : LinkType :=
  { row with version := 0, createdAt := .epoch, updatedAt := .epoch }

/-- The row without its times. -/
def untimed (row : LinkType) : LinkType :=
  { row with createdAt := .epoch, updatedAt := .epoch }

end LinkType

namespace Service

variable {settings : Settings} {payload : SingleDocument} {spaceId : Uuid}
  {identity otherIdentity : Option Uuid}

/-- Only whether a client has an identity counts. -/
theorem identityGiven_congr (h : otherIdentity.isSome = identity.isSome) :
    identityGiven otherIdentity = identityGiven identity := by
  cases identity <;> cases otherIdentity <;> first | rfl | cases h

theorem rowToCreate_forCreation (h : otherIdentity.isSome = identity.isSome) :
    rowToCreate settings payload.forCreation spaceId otherIdentity =
      (rowToCreate settings payload spaceId identity).map LinkType.unstarted := by
  unfold rowToCreate SingleDocument.forCreation
  rw [SingleDocument.toLinkType_blanked, identityGiven_congr h]
  cases mutationsAllowed settings with
  | error failure => rfl
  | ok _ =>
    cases payload.toLinkType with
    | error failure => rfl
    | ok row => cases identityGiven identity <;> rfl

/-- A document that names no space is for the space of the path. -/
theorem updatedSpace_forUpdate :
    updatedSpace spaceId (payload.forUpdate spaceId).spaceId? =
      updatedSpace spaceId payload.spaceId? := by
  have hpath : ∀ named : Option Uuid,
      updatedSpace spaceId (some (named.getD spaceId)) = updatedSpace spaceId named := by
    intro named
    cases named with
    | none => exact if_pos rfl
    | some named => rfl
  obtain ⟨data, included⟩ := payload
  cases data with
  | none => rfl
  | some data =>
    obtain ⟨type, id, attributes, relationships, links⟩ := data
    cases relationships with
    | none => rfl
    | some relationships => exact hpath _

theorem rowToUpdate_forUpdate (h : otherIdentity.isSome = identity.isSome) :
    rowToUpdate settings (payload.forUpdate spaceId) spaceId otherIdentity =
      (rowToUpdate settings payload spaceId identity).map LinkType.untimed := by
  unfold rowToUpdate
  rw [updatedSpace_forUpdate, SingleDocument.forUpdate, SingleDocument.id?_blanked,
    SingleDocument.toLinkType_blanked, identityGiven_congr h]
  cases mutationsAllowed settings with
  | error failure => rfl
  | ok _ =>
    cases identityGiven identity with
    | error failure => rfl
    | ok _ =>
      cases requirePart "data.id" payload.id? with
      | error failure => rfl
      | ok _ =>
        cases hrow : payload.toLinkType with
        | error failure => rfl
        | ok row =>
          have hversion := SingleDocument.version_eq_getD_of_toLinkType hrow
          cases updatedSpace spaceId payload.spaceId? with
          | error failure => rfl
          | ok rowSpace =>
            simp only [id, ← hversion]
            rfl

end Service

-- ════════════════════════════════════════════════════════════════════════
-- Rows that are checked, looked up and written
-- ════════════════════════════════════════════════════════════════════════

namespace Catalog

variable {catalog : Catalog} {request : Request} {checked : Except Failure LinkType}
  {result : LinkType → Except Failure (LinkType × Catalog)}

/-- A row is checked, what it refers to is looked up, and it is written. -/
def storing (catalog : Catalog) (request : Request) (checked : Except Failure LinkType)
    (result : LinkType → Except Failure (LinkType × Catalog)) :
    Except Failure (List Included × LinkType × Catalog) := do
  let row ← checked
  let included ← catalog.related request [row]
  let (stored, after) ← result row
  return (included, stored, after)

/-- The answer after a row was stored or refused, and the catalog. -/
def answering (catalog : Catalog) (respond : LinkType → List Included → Response SingleDocument) :
    Except Failure (List Included × LinkType × Catalog) →
      Except Failure (Response Document) × Catalog
  | .ok (included, stored, after) => (.ok ((respond stored included).map .single), after)
  | .error failure => (.error failure, catalog)

theorem storing_eq_ok {row stored : LinkType} {included : List Included} {after : Catalog}
    (hrow : checked = .ok row) (hincluded : catalog.related request [row] = .ok included)
    (hwrite : result row = .ok (stored, after)) :
    catalog.storing request checked result = .ok (included, stored, after) := by
  subst hrow
  simp only [storing, Except.bind, bind, hincluded, hwrite]
  rfl

/-- A change of the row that is seen neither by its look-ups nor by its write changes nothing. -/
theorem storing_map {change : LinkType → LinkType}
    (hrelated : ∀ row, catalog.related request [change row] = catalog.related request [row])
    (hresult : ∀ row, result (change row) = result row) :
    catalog.storing request (checked.map change) result =
      catalog.storing request checked result := by
  cases checked with
  | error failure => rfl
  | ok row =>
    show (catalog.related request [change row] >>= fun included =>
      result (change row) >>= fun written => _) = _
    rw [hrelated, hresult]
    rfl

theorem fst_answering (respond : LinkType → List Included → Response SingleDocument) :
    (catalog.answering respond (catalog.storing request checked result)).1 = (do
      let row ← checked
      let included ← catalog.related request [row]
      let (stored, _) ← result row
      return respond stored included : Except Failure _).map (Response.map .single) := by
  unfold storing
  cases checked with
  | error failure => rfl
  | ok row =>
    show (catalog.answering respond (catalog.related request [row] >>= _)).1 =
      (catalog.related request [row] >>= _).map _
    cases catalog.related request [row] with
    | error failure => rfl
    | ok included =>
      show (catalog.answering respond (result row >>= _)).1 = (result row >>= _).map _
      cases result row <;> rfl

theorem answering_eq_of_error {respond : LinkType → List Included → Response SingleDocument}
    {given : Except Failure (List Included × LinkType × Catalog)} {failure : Failure}
    (h : (catalog.answering respond given).1 = .error failure) :
    catalog.answering respond given = (.error failure, catalog) := by
  cases given with
  | error other => exact Prod.ext h rfl
  | ok written => cases h

end Catalog

namespace Turn

open Service

variable {turn : Turn} {catalog : Catalog} {request : Request} {payload : SingleDocument}
  {spaceId : Uuid} {identity : Option Uuid}

theorem after_of_error {failure : Failure} (hanswer : turn.answer catalog = .error failure) :
    turn.after catalog = catalog := by
  have heffect := turn.effect_run catalog
  rw [hanswer] at heffect
  generalize turn.after catalog = after at heffect ⊢
  cases heffect
  rfl

/-- A turn that stores a row is determined by what comes of the row. -/
theorem outcome_of_storing {checked : Except Failure LinkType}
    {result : LinkType → Except Failure (LinkType × Catalog)}
    {respond : LinkType → List Included → Response SingleDocument}
    (hanswer : turn.answer catalog =
      (catalog.answering respond (catalog.storing request checked result)).1)
    (hstored : ∀ response, turn.answer catalog = .ok response → ∃ row included stored,
      checked = .ok row ∧ catalog.related request [row] = .ok included ∧
      result row = .ok (stored, turn.after catalog) ∧
      response = (respond stored included).map .single) :
    (turn.answer catalog, turn.after catalog) =
      catalog.answering respond (catalog.storing request checked result) := by
  cases hgiven : turn.answer catalog with
  | error failure =>
    rw [Catalog.answering_eq_of_error (hanswer.symm.trans hgiven), after_of_error hgiven]
  | ok response =>
    obtain ⟨row, included, stored, hrow, hincluded, hwrite, rfl⟩ := hstored response hgiven
    rw [Catalog.storing_eq_ok hrow hincluded hwrite]
    rfl

theorem outcome_of_create (hcommand : turn.command = .create request payload spaceId identity) :
    (turn.answer catalog, turn.after catalog) =
      catalog.answering (createdResponse request) (catalog.storing request
        (rowToCreate turn.settings payload spaceId identity)
        fun row => catalog.createLinkType row turn.fresh turn.now) :=
  outcome_of_storing ((answer_of_create hcommand catalog).trans (Catalog.fst_answering _).symm)
    fun _ => created_of_answer hcommand

theorem outcome_of_update (hcommand : turn.command = .update request payload spaceId identity) :
    (turn.answer catalog, turn.after catalog) =
      catalog.answering (updatedResponse request spaceId) (catalog.storing request
        (rowToUpdate turn.settings payload spaceId identity)
        fun row => catalog.saveLinkType row turn.now) :=
  outcome_of_storing ((answer_of_update hcommand catalog).trans (Catalog.fst_answering _).symm)
    fun _ => updated_of_answer hcommand

/-- A creation does with a document what it does with what is taken from it. -/
theorem outcome_forCreation (turn : Turn) (catalog : Catalog) (request : Request)
    (payload : SingleDocument) (spaceId : Uuid) {identity otherIdentity : Option Uuid}
    (hidentity : otherIdentity.isSome = identity.isSome) :
    let given := { turn with command := .create request payload spaceId identity }
    let taken := { turn with command := .create request payload.forCreation spaceId otherIdentity }
    (taken.answer catalog, taken.after catalog) = (given.answer catalog, given.after catalog) := by
  intro given taken
  have hgiven : (given.answer catalog, given.after catalog) = _ := outcome_of_create rfl
  have htaken : (taken.answer catalog, taken.after catalog) = _ := outcome_of_create rfl
  rw [hgiven, htaken, rowToCreate_forCreation hidentity]
  exact congrArg _ (Catalog.storing_map (fun _ => rfl) fun _ => rfl)

/-- An update does with a document what it does with what is taken from it. -/
theorem outcome_forUpdate (turn : Turn) (catalog : Catalog) (request : Request)
    (payload : SingleDocument) (spaceId : Uuid) {identity otherIdentity : Option Uuid}
    (hidentity : otherIdentity.isSome = identity.isSome) :
    let given := { turn with command := .update request payload spaceId identity }
    let taken :=
      { turn with command := .update request (payload.forUpdate spaceId) spaceId otherIdentity }
    (taken.answer catalog, taken.after catalog) = (given.answer catalog, given.after catalog) := by
  intro given taken
  have hgiven : (given.answer catalog, given.after catalog) = _ := outcome_of_update rfl
  have htaken : (taken.answer catalog, taken.after catalog) = _ := outcome_of_update rfl
  rw [hgiven, htaken, rowToUpdate_forUpdate hidentity]
  exact congrArg _ (Catalog.storing_map (fun _ => rfl) fun _ => rfl)

/-- **Fields of the server.** Two creations whose documents differ only in versions, times, types,
    links, included resources and the space, and of which both or neither have an identity, have the
    same answer and leave the same catalog. So do two updates whose documents differ only in times,
    types, links, included resources and in whether they name the space of the path or none. -/
theorem ignores_serverFields (turn : Turn) (catalog : Catalog) (request : Request)
    (payload other : SingleDocument) (spaceId : Uuid) (identity otherIdentity : Option Uuid)
    (hidentity : otherIdentity.isSome = identity.isSome) :
    (other.forCreation = payload.forCreation →
      let given := { turn with command := .create request payload spaceId identity }
      let again := { turn with command := .create request other spaceId otherIdentity }
      again.answer catalog = given.answer catalog ∧
        again.after catalog = given.after catalog) ∧
    (other.forUpdate spaceId = payload.forUpdate spaceId →
      let given := { turn with command := .update request payload spaceId identity }
      let again := { turn with command := .update request other spaceId otherIdentity }
      again.answer catalog = given.answer catalog ∧
        again.after catalog = given.after catalog) := by
  constructor
  · intro hsame
    have hgiven := outcome_forCreation turn catalog request payload spaceId hidentity
    have hagain :=
      outcome_forCreation turn catalog request other spaceId (Eq.refl otherIdentity.isSome)
    rw [hsame] at hagain
    exact Prod.mk.inj (hagain.symm.trans hgiven)
  · intro hsame
    have hgiven := outcome_forUpdate turn catalog request payload spaceId hidentity
    have hagain :=
      outcome_forUpdate turn catalog request other spaceId (Eq.refl otherIdentity.isSome)
    rw [hsame] at hagain
    exact Prod.mk.inj (hagain.symm.trans hgiven)

end Turn

/-- A document for the row for examples that says something else where the server decides. -/
def SingleDocument.sampleClaiming (version : Int32) (space : Option Relation) : SingleDocument :=
  { data := some
      { type := "anything"
        id := some LinkType.sample.id
        attributes := some
          { name := some LinkType.sample.name
            version := some version
            forwardName := some LinkType.sample.forwardName
            reverseName := some LinkType.sample.reverseName
            topology := some LinkType.sample.topology.name }
        relationships := some
          { linkCategory := some
              { data := some { type := "anything", id := some LinkType.sample.categoryId } }
            space }
        links := some (Links.same "elsewhere") }
    included := [.ofSpace .sample .sample] }

/-- The row for examples is created at version 0 in the space of the path, and then saved, whatever
    the document claims. -/
theorem Turn.ignores_serverFields_sampleClaiming :
    let plain := SingleDocument.sample .sample
    let foreign := SingleDocument.sampleClaiming 7 (some (.ofResource "" ⟨9⟩ ""))
    let silent := SingleDocument.sampleClaiming 0 none
    let create := fun payload identity =>
      Turn.sample (.create .sample payload Space.sample.id (some identity))
    let update := fun payload identity =>
      Turn.sample (.update .sample payload Space.sample.id (some identity))
    foreign ≠ plain ∧ foreign.forCreation = plain.forCreation ∧
      ((create plain ⟨6⟩).answer .sampleStart).isOk = true ∧
      (create foreign ⟨10⟩).answer .sampleStart = (create plain ⟨6⟩).answer .sampleStart ∧
      (create foreign ⟨10⟩).after .sampleStart = (create plain ⟨6⟩).after .sampleStart ∧
      silent ≠ plain ∧ silent.forUpdate Space.sample.id = plain.forUpdate Space.sample.id ∧
      ((update plain ⟨6⟩).answer .sample).isOk = true ∧
      (update silent ⟨10⟩).answer .sample = (update plain ⟨6⟩).answer .sample ∧
      (update silent ⟨10⟩).after .sample = (update plain ⟨6⟩).after .sample := by
  intro plain foreign silent create update
  have hforeign : foreign ≠ plain := by decide
  have hsilent : silent ≠ plain := by decide
  have hcreated : ((create plain ⟨6⟩).answer .sampleStart).isOk = true := by decide +kernel
  have hupdated : ((update plain ⟨6⟩).answer .sample).isOk = true := by decide +kernel
  have hcreation : foreign.forCreation = plain.forCreation := rfl
  have hupdate : silent.forUpdate Space.sample.id = plain.forUpdate Space.sample.id := rfl
  obtain ⟨hcreateAnswer, hcreateAfter⟩ := (ignores_serverFields (create plain ⟨6⟩) .sampleStart
    .sample plain foreign Space.sample.id (some ⟨6⟩) (some ⟨10⟩) rfl).1 hcreation
  obtain ⟨hupdateAnswer, hupdateAfter⟩ := (ignores_serverFields (update plain ⟨6⟩) .sample .sample
    plain silent Space.sample.id (some ⟨6⟩) (some ⟨10⟩) rfl).2 hupdate
  exact ⟨hforeign, hcreation, hcreated, hcreateAnswer, hcreateAfter, hsilent, hupdate, hupdated,
    hupdateAnswer, hupdateAfter⟩

end LinkCatalog
