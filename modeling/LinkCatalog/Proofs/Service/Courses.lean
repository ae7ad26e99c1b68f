import LinkCatalog.Proofs.Http.PlainText
import LinkCatalog.Proofs.Program.Calls
import LinkCatalog.Proofs.Service.Enrichment
import LinkCatalog.Service.Command

/-!
# Courses of the actions

Which calls each action makes, in which order, and how its answer depends on theirs. An action that
stores a row first checks the request, then looks up what the answer includes, and makes its only
write at the end; nothing after the write can fail. An action that reads makes one call to the link
types and then only looks up related resources.

Nothing here depends on a catalog: the answers to the calls are arbitrary.

## Main definitions

- `Action.CallsOnly` — all calls of an action have a property
- `Service.rowToCreate`, `Service.rowToUpdate` — the checks of a request, and the row that it is for
- `Service.Storing`, `Service.Deleting`, `Service.Displaying`, `Service.Listing` — the courses

## Main statements

- `Service.storing_of_create`, `Service.storing_of_update`, `Service.deleting_of_delete`,
  `Service.displaying_of_display`, `Service.listing_of_list` — every dialogue of an action is one of
  its courses
- `Service.dialogue_handle_iff` — counters and events take no part in dialogues
-/

namespace LinkCatalog

-- ════════════════════════════════════════════════════════════════════════
-- The calls of an action
-- ════════════════════════════════════════════════════════════════════════

/-- All calls of the action have a property, whatever they are answered. -/
def Action.CallsOnly {α : Type} (property : Call → Prop) (action : Action α) : Prop :=
  ∀ exchanges value, action.run.Dialogue exchanges value →
    ∀ exchange ∈ exchanges, property exchange.call

namespace Action.CallsOnly

variable {α β : Type} {property : Call → Prop}

theorem pure (value : α) : CallsOnly property (Pure.pure value : Action α) := by
  rintro exchanges result ⟨rfl, -⟩ exchange hexchange
  simp at hexchange

theorem ofCall (query : Call) (next : query.Answer → Except Failure α) (h : property query) :
    CallsOnly property (ofProgram (.call query fun answer => .done (next answer))) := by
  rintro exchanges result ⟨answer, rest, rfl, rfl, -⟩ exchange hexchange
  rw [List.mem_singleton.1 hexchange]
  exact h

theorem bind {first : Action α} {next : α → Action β} (hfirst : first.CallsOnly property)
    (hnext : ∀ value, (next value).CallsOnly property) : (first >>= next).CallsOnly property := by
  intro exchanges result h exchange hexchange
  rcases dialogue_bind_iff.1 h with ⟨failure, h, -⟩ | ⟨before, middle, after, rfl, hbefore, hafter⟩
  · exact hfirst _ _ h exchange hexchange
  · rcases List.mem_append.1 hexchange with hexchange | hexchange
    · exact hfirst _ _ hbefore exchange hexchange
    · exact hnext middle _ _ hafter exchange hexchange

theorem mapFailure {action : Action α} (h : action.CallsOnly property)
    (change : Failure → Failure) : (action.mapFailure change).CallsOnly property := by
  intro exchanges result hdialogue
  obtain ⟨inner, hinner, -⟩ := dialogue_mapFailure_iff.1 hdialogue
  exact h exchanges inner hinner

theorem mapM {action : α → Action β} (h : ∀ value, (action value).CallsOnly property)
    (values : List α) : (values.mapM action).CallsOnly property := by
  induction values with
  | nil => exact pure []
  | cons value values ih =>
    rw [List.mapM_cons]
    exact (h value).bind fun _ => ih.bind fun _ => pure _

end Action.CallsOnly

namespace Service

theorem callsOnly_relatedTo (request : Request) (rows : List LinkType) :
    (relatedTo request rows).CallsOnly Call.IsRelated := by
  refine Action.CallsOnly.bind (.mapM (fun id => ?_) _) fun categories =>
    Action.CallsOnly.bind (.mapM (fun id => ?_) _) fun spaces => .pure _
  · exact .ofCall (.loadCategory id) (fun answer => answer) trivial
  · exact .ofCall (.loadSpace id) (fun answer => answer) trivial

-- ════════════════════════════════════════════════════════════════════════
-- Actions that store a row
-- ════════════════════════════════════════════════════════════════════════

/-- Whether link types may be changed. -/
def mutationsAllowed (settings : Settings) : Except Failure Unit :=
  if settings.mutationsEnabled then .ok () else .error .methodNotAllowed

/-- Whether the client has an identity. -/
def identityGiven (identity : Option Uuid) : Except Failure Unit :=
  match identity with
  | some _ => .ok ()
  | none => .error (.unauthorized "missing identity")

/-- The row that a request to create a link type is for, or why the request is refused. -/
def rowToCreate (settings : Settings) (payload : SingleDocument) (spaceId : Uuid)
    (identity : Option Uuid) : Except Failure LinkType := do
  mutationsAllowed settings
  let row ← payload.toLinkType
  identityGiven identity
  return { row with spaceId }

/-- The row that a request to update a link type is for, or why the request is refused. -/
def rowToUpdate (settings : Settings) (payload : SingleDocument) (spaceId : Uuid)
    (identity : Option Uuid) : Except Failure LinkType := do
  mutationsAllowed settings
  identityGiven identity
  let _ ← requirePart "data.id" payload.id?
  let row ← payload.toLinkType
  let rowSpace ← updatedSpace spaceId payload.spaceId?
  return { row with spaceId := rowSpace }

theorem mutationsAllowed_eq_ok_iff {settings : Settings} :
    mutationsAllowed settings = .ok () ↔ settings.mutationsEnabled = true := by
  unfold mutationsAllowed
  cases settings.mutationsEnabled <;> simp

theorem identityGiven_eq_ok_iff {identity : Option Uuid} :
    identityGiven identity = .ok () ↔ identity ≠ none := by
  cases identity <;> simp [identityGiven]

theorem updatedSpace_eq_ok_iff {spaceId rowSpace : Uuid} {named : Option Uuid} :
    updatedSpace spaceId named = .ok rowSpace ↔
      (named = none ∨ named = some spaceId) ∧ rowSpace = spaceId := by
  cases named with
  | none => simp [updatedSpace, eq_comm]
  | some named =>
    by_cases hspace : named = spaceId
    · simp [updatedSpace, hspace, eq_comm]
    · simp [updatedSpace, hspace]

theorem rowToCreate_eq_ok_iff {settings : Settings} {payload : SingleDocument} {spaceId : Uuid}
    {identity : Option Uuid} {row : LinkType} :
    rowToCreate settings payload spaceId identity = .ok row ↔
      settings.mutationsEnabled = true ∧ identity ≠ none ∧
        ∃ described, payload.toLinkType = .ok described ∧ row = { described with spaceId } := by
  unfold rowToCreate
  simp only [Failure.bind_eq_ok_iff]
  constructor
  · rintro ⟨_, hmutations, described, hdescribed, _, hidentity, hrow⟩
    cases hrow
    exact ⟨mutationsAllowed_eq_ok_iff.1 hmutations, identityGiven_eq_ok_iff.1 hidentity,
      described, hdescribed, rfl⟩
  · rintro ⟨hmutations, hidentity, described, hdescribed, rfl⟩
    exact ⟨(), mutationsAllowed_eq_ok_iff.2 hmutations, described, hdescribed, (),
      identityGiven_eq_ok_iff.2 hidentity, rfl⟩

theorem rowToUpdate_eq_ok_iff {settings : Settings} {payload : SingleDocument} {spaceId : Uuid}
    {identity : Option Uuid} {row : LinkType} :
    rowToUpdate settings payload spaceId identity = .ok row ↔
      settings.mutationsEnabled = true ∧ identity ≠ none ∧
        (payload.spaceId? = none ∨ payload.spaceId? = some spaceId) ∧
        ∃ described, payload.id? = some described.id ∧ payload.toLinkType = .ok described ∧
          row = { described with spaceId } := by
  unfold rowToUpdate
  simp only [Failure.bind_eq_ok_iff, requirePart_eq_ok_iff, updatedSpace_eq_ok_iff]
  constructor
  · rintro ⟨_, hmutations, _, hidentity, id, hid, described, hdescribed, _, ⟨hspace, rfl⟩, hrow⟩
    cases hrow
    rw [← SingleDocument.id_of_toLinkType hdescribed hid] at hid
    exact ⟨mutationsAllowed_eq_ok_iff.1 hmutations, identityGiven_eq_ok_iff.1 hidentity, hspace,
      described, hid, hdescribed, rfl⟩
  · rintro ⟨hmutations, hidentity, hspace, described, hid, hdescribed, rfl⟩
    exact ⟨(), mutationsAllowed_eq_ok_iff.2 hmutations, (), identityGiven_eq_ok_iff.2 hidentity,
      described.id, hid, described, hdescribed, spaceId, ⟨hspace, rfl⟩, rfl⟩

/-- The answer to a request that created a row. -/
def createdResponse (request : Request) (created : LinkType) (included : List Included) :
    Response SingleDocument :=
  { status := .created
    headers := Headers.empty.insert "location"
      (HeaderValue.bytes (Href.linkType created.spaceId created.id))
    body := some { data := some (created.resource request created.spaceId), included } }

/-- The answer to a request that updated a row. -/
def updatedResponse (request : Request) (spaceId : Uuid) (saved : LinkType)
    (included : List Included) : Response SingleDocument :=
  { status := .ok
    headers := Headers.empty
    body := some { data := some (saved.resource request spaceId), included } }

/-- The course of an action that stores a row: it checks the request, looks up what the row refers
    to, writes, and answers as the write does. -/
inductive Storing (request : Request) (checked : Except Failure LinkType)
    (write : LinkType → Except Failure LinkType → Exchange)
    (respond : LinkType → List Included → Response SingleDocument) :
    List Exchange → Except Failure (Response SingleDocument) → Prop where
  | refused {failure : Failure} (hchecked : checked = .error failure) :
      Storing request checked write respond [] (.error failure)
  | unrelated {row : LinkType} {lookups : List Exchange} {failure : Failure}
      (hchecked : checked = .ok row)
      (hlookups : (relatedTo request [row]).run.Dialogue lookups (.error failure)) :
      Storing request checked write respond lookups (.error failure)
  | written {row : LinkType} {lookups : List Exchange} {included : List Included}
      (answer : Except Failure LinkType) (hchecked : checked = .ok row)
      (hlookups : (relatedTo request [row]).run.Dialogue lookups (.ok included)) :
      Storing request checked write respond (lookups ++ [write row answer])
        (answer.map fun stored => respond stored included)

theorem checkMutations_eq (settings : Settings) :
    checkMutations settings = liftExcept (mutationsAllowed settings) := by
  unfold checkMutations mutationsAllowed
  cases settings.mutationsEnabled <;> rfl

theorem checkIdentity_eq (identity : Option Uuid) :
    checkIdentity identity = liftExcept (identityGiven identity) := by
  cases identity <;> rfl

/-- The address of a link type can always be written into the header fields. -/
theorem locationValue_linkType (spaceId id : Uuid) :
    locationValue (Href.linkType spaceId id) =
      .ok (HeaderValue.bytes (Href.linkType spaceId id)) := by
  rw [locationValue, HeaderValue.ofText?_eq_some fun _ => Href.isPlain_linkType]

theorem create_eq (settings : Settings) (now : Instant) (fresh : Uuid) (request : Request)
    (payload : SingleDocument) (spaceId : Uuid) (identity : Option Uuid) :
    create settings now fresh request payload spaceId identity = (do
      let row ← liftExcept (rowToCreate settings payload spaceId identity)
      let included ← relatedTo request [row]
      let created ← Action.createLinkType row fresh now
      note createName "Created link type" [("id", created.id.toText), ("name", created.name)]
      return createdResponse request created included) := by
  unfold create rowToCreate
  simp only [checkMutations_eq, checkIdentity_eq, locationValue_linkType, relatedOf_eq,
    withRelated_eq, toLinkType_overrideSpace]
  cases mutationsAllowed settings with
  | error failure => rfl
  | ok _ =>
    cases payload.toLinkType with
    | error failure => rfl
    | ok row =>
      cases identityGiven identity <;> rfl

theorem update_eq (settings : Settings) (now : Instant) (request : Request)
    (payload : SingleDocument) (spaceId : Uuid) (identity : Option Uuid) :
    update settings now request payload spaceId identity = (do
      let row ← liftExcept (rowToUpdate settings payload spaceId identity)
      let included ← relatedTo request [row]
      let saved ← Action.saveLinkType row now
      note updateName "Updated link type"
        [("id", saved.id.toText), ("version", toString saved.version.toInt)]
      return updatedResponse request spaceId saved included) := by
  unfold update rowToUpdate
  simp only [checkMutations_eq, checkIdentity_eq, SingleDocument.id?, SingleDocument.spaceId?,
    relatedOf_eq, withRelated_eq]
  cases mutationsAllowed settings with
  | error failure => rfl
  | ok _ =>
    cases identityGiven identity with
    | error failure => rfl
    | ok _ =>
      cases requirePart "data.id" (payload.data.bind LinkTypeData.id) with
      | error failure => rfl
      | ok _ =>
        cases payload.toLinkType with
        | error failure => rfl
        | ok row => cases updatedSpace spaceId (payload.data.bind LinkTypeData.spaceId) <;> rfl

/-- An action that checks, looks up, writes and answers in this order has that course. -/
theorem storing_of_dialogue {request : Request} {checked : Except Failure LinkType}
    {store : LinkType → Action LinkType} {write : LinkType → Except Failure LinkType → Exchange}
    {event : LinkType → Signal} {respond : LinkType → List Included → Response SingleDocument}
    {exchanges : List Exchange} {value : Except Failure (Response SingleDocument)}
    (hstore : ∀ row made answer, (store row).run.Dialogue made answer → made = [write row answer])
    (h : (do
      let row ← liftExcept checked
      let included ← relatedTo request [row]
      let stored ← store row
      Action.raise (event stored)
      return respond stored included : Action (Response SingleDocument)).run.Dialogue
        exchanges value) :
    Storing request checked write respond exchanges value := by
  rcases Action.dialogue_liftExcept_bind_iff.1 h with ⟨failure, hchecked, rfl, rfl⟩ |
    ⟨row, hchecked, h⟩
  · exact .refused hchecked
  rcases Action.dialogue_bind_iff.1 h with ⟨failure, hlookups, rfl⟩ |
    ⟨lookups, included, made, rfl, hlookups, h⟩
  · exact .unrelated hchecked hlookups
  rcases Action.dialogue_bind_iff.1 h with ⟨failure, hmade, rfl⟩ |
    ⟨made, stored, rest, rfl, hmade, rfl, rfl⟩
  · rw [hstore _ _ _ hmade]
    exact .written (.error failure) hchecked hlookups
  · rw [hstore _ _ _ hmade, List.append_nil]
    exact .written (.ok stored) hchecked hlookups

-- ════════════════════════════════════════════════════════════════════════
-- Deletion
-- ════════════════════════════════════════════════════════════════════════

/-- The answer to a request that deleted a row. -/
def deletedResponse : Response SingleDocument :=
  { status := .ok, headers := Headers.empty, body := none }

/-- The course of a deletion: it checks the settings, writes, and answers as the write does. -/
inductive Deleting (settings : Settings) (spaceId id : Uuid) :
    List Exchange → Except Failure (Response SingleDocument) → Prop where
  | refused {failure : Failure} (hallowed : mutationsAllowed settings = .error failure) :
      Deleting settings spaceId id [] (.error failure)
  | written (answer : Except Failure Unit) (hallowed : mutationsAllowed settings = .ok ()) :
      Deleting settings spaceId id [⟨.deleteLinkType spaceId id, answer⟩]
        (answer.map fun _ => deletedResponse)

-- ════════════════════════════════════════════════════════════════════════
-- Actions that read
-- ════════════════════════════════════════════════════════════════════════

/-- The course of a conditional answer: without a body and without calls if the client's copy is
    still current, and else with the body that an action gives. -/
inductive Conditional {α : Type} (validators : Validators) (request : Request)
    (answer : Action α) : List Exchange → Except Failure (Response α) → Prop where
  | current (hcurrent : validators.isNotModified request.headers = true) :
      Conditional validators request answer [] (validated .notModified validators none)
  | failed {lookups : List Exchange} {failure : Failure}
      (hcurrent : validators.isNotModified request.headers = false)
      (hlookups : answer.run.Dialogue lookups (.error failure)) :
      Conditional validators request answer lookups (.error failure)
  | full {lookups : List Exchange} {body : α}
      (hcurrent : validators.isNotModified request.headers = false)
      (hlookups : answer.run.Dialogue lookups (.ok body)) :
      Conditional validators request answer lookups (validated .ok validators (some body))

/-- The document that shows a row. -/
def displayed (request : Request) (spaceId : Uuid) (row : LinkType) : Action SingleDocument := do
  let included ← (relatedTo request [row]).mapFailure (notEnriched "link type")
  return { data := some (row.resource request spaceId), included }

/-- The document that lists rows. -/
def listed (request : Request) (spaceId : Uuid) (rows : List LinkType) : Action ListDocument := do
  let included ← (relatedTo request rows).mapFailure (notEnriched "link types")
  return { data := rows.map (LinkType.resource request spaceId)
           included
           totalCount := UInt64.ofNat rows.length }

theorem display_eq (settings : Settings) (request : Request) (spaceId id : Uuid) :
    display settings request spaceId id = (do
      let row ← Action.loadLinkType id
      conditional displayName (Validators.ofStamps [row.stamp] settings.singleCacheControl) request
        (displayed request spaceId row)) := by
  unfold display
  simp only [enrichSingle_ofLinkType, Action.mapFailure_bind_pure]
  rfl

theorem list_eq (settings : Settings) (request : Request) (spaceId : Uuid) :
    list settings request spaceId = (do
      let rows ← Action.linkTypesOf spaceId
      conditional listName
        (Validators.ofStamps (rows.map LinkType.stamp) settings.listCacheControl) request
        (listed request spaceId rows)) := by
  unfold list
  simp only [enrichList_ofLinkTypes, Action.mapFailure_bind_pure]
  rfl

/-- The course of showing a row: it is looked up first, and is in the answer as it was then. -/
inductive Displaying (settings : Settings) (request : Request) (spaceId id : Uuid) :
    List Exchange → Except Failure (Response SingleDocument) → Prop where
  | missing (failure : Failure) :
      Displaying settings request spaceId id [⟨.loadLinkType id, .error failure⟩] (.error failure)
  | found {row : LinkType} {lookups : List Exchange}
      {value : Except Failure (Response SingleDocument)}
      (h : Conditional (Validators.ofStamps [row.stamp] settings.singleCacheControl) request
        (displayed request spaceId row) lookups value) :
      Displaying settings request spaceId id (⟨.loadLinkType id, .ok row⟩ :: lookups) value

/-- The course of listing rows: they are looked up first, and are in the answer as they were
    then. -/
inductive Listing (settings : Settings) (request : Request) (spaceId : Uuid) :
    List Exchange → Except Failure (Response ListDocument) → Prop where
  | found {rows : List LinkType} {lookups : List Exchange}
      {value : Except Failure (Response ListDocument)}
      (h : Conditional (Validators.ofStamps (rows.map LinkType.stamp) settings.listCacheControl)
        request (listed request spaceId rows) lookups value) :
      Listing settings request spaceId (⟨.linkTypesOf spaceId, rows⟩ :: lookups) value

theorem callsOnly_displayed (request : Request) (spaceId : Uuid) (row : LinkType) :
    (displayed request spaceId row).CallsOnly Call.IsRelated :=
  .bind ((callsOnly_relatedTo request [row]).mapFailure _) fun _ => .pure _

theorem callsOnly_listed (request : Request) (spaceId : Uuid) (rows : List LinkType) :
    (listed request spaceId rows).CallsOnly Call.IsRelated :=
  .bind ((callsOnly_relatedTo request rows).mapFailure _) fun _ => .pure _

/-- A conditional answer makes no calls but those of the action that gives its body. -/
theorem Conditional.callsOnly {α : Type} {property : Call → Prop} {validators : Validators}
    {request : Request} {answer : Action α} {exchanges : List Exchange}
    {value : Except Failure (Response α)}
    (h : Conditional validators request answer exchanges value)
    (hanswer : answer.CallsOnly property) : ∀ exchange ∈ exchanges, property exchange.call := by
  cases h with
  | current hcurrent => simp
  | failed hcurrent hlookups => exact hanswer _ _ hlookups
  | full hcurrent hlookups => exact hanswer _ _ hlookups

theorem conditional_of_dialogue {α : Type} {name : String} {validators : Validators}
    {request : Request} {answer : Action α} {exchanges : List Exchange}
    {value : Except Failure (Response α)}
    (h : (conditional name validators request answer).run.Dialogue exchanges value) :
    Conditional validators request answer exchanges value := by
  unfold conditional at h
  cases hcurrent : validators.isNotModified request.headers with
  | true =>
    rw [hcurrent, if_pos rfl, Action.dialogue_raise_bind_iff] at h
    obtain ⟨rfl, rfl⟩ := Action.dialogue_liftExcept_iff.1 h
    exact .current hcurrent
  | false =>
    rw [hcurrent, if_neg Bool.false_ne_true] at h
    rcases Action.dialogue_bind_iff.1 h with ⟨failure, hlookups, rfl⟩ |
      ⟨lookups, body, rest, rfl, hlookups, h⟩
    · exact .failed hcurrent hlookups
    · obtain ⟨rfl, rfl⟩ := Action.dialogue_liftExcept_iff.1 h
      rw [List.append_nil]
      exact .full hcurrent hlookups

section Courses

variable {settings : Settings} {now : Instant} {fresh : Uuid} {request : Request}
  {payload : SingleDocument} {spaceId id : Uuid} {identity : Option Uuid}
  {exchanges : List Exchange}

theorem storing_of_create {value : Except Failure (Response SingleDocument)}
    (h : (create settings now fresh request payload spaceId identity).run.Dialogue
      exchanges value) :
    Storing request (rowToCreate settings payload spaceId identity)
      (fun row answer => ⟨.createLinkType row fresh now, answer⟩) (createdResponse request)
      exchanges value := by
  rw [create_eq] at h
  refine storing_of_dialogue (fun row made answer hmade => ?_) h
  obtain ⟨_, rest, rfl, rfl, rfl⟩ := hmade
  rfl

theorem storing_of_update {value : Except Failure (Response SingleDocument)}
    (h : (update settings now request payload spaceId identity).run.Dialogue exchanges value) :
    Storing request (rowToUpdate settings payload spaceId identity)
      (fun row answer => ⟨.saveLinkType row now, answer⟩) (updatedResponse request spaceId)
      exchanges value := by
  rw [update_eq] at h
  refine storing_of_dialogue (fun row made answer hmade => ?_) h
  obtain ⟨_, rest, rfl, rfl, rfl⟩ := hmade
  rfl

theorem deleting_of_delete {value : Except Failure (Response SingleDocument)}
    (h : (delete settings spaceId id).run.Dialogue exchanges value) :
    Deleting settings spaceId id exchanges value := by
  unfold delete at h
  rw [checkMutations_eq] at h
  rcases Action.dialogue_liftExcept_bind_iff.1 h with ⟨failure, hallowed, rfl, rfl⟩ |
    ⟨_, hallowed, h⟩
  · exact .refused hallowed
  rcases Action.dialogue_bind_iff.1 h with ⟨failure, ⟨_, rest, rfl, rfl, rfl⟩, rfl⟩ |
    ⟨made, _, rest, rfl, ⟨_, others, rfl, rfl, rfl⟩, rfl, rfl⟩
  · exact .written (.error failure) hallowed
  · exact .written (.ok ()) hallowed

theorem displaying_of_display {value : Except Failure (Response SingleDocument)}
    (h : (display settings request spaceId id).run.Dialogue exchanges value) :
    Displaying settings request spaceId id exchanges value := by
  rw [display_eq] at h
  rcases Action.dialogue_bind_iff.1 h with ⟨failure, ⟨_, rest, rfl, rfl, rfl⟩, rfl⟩ |
    ⟨made, row, rest, rfl, ⟨_, others, rfl, rfl, rfl⟩, hrest⟩
  · exact .missing failure
  · exact .found (conditional_of_dialogue hrest)

theorem listing_of_list {value : Except Failure (Response ListDocument)}
    (h : (list settings request spaceId).run.Dialogue exchanges value) :
    Listing settings request spaceId exchanges value := by
  rw [list_eq] at h
  rcases Action.dialogue_bind_iff.1 h with ⟨failure, ⟨_, rest, rfl, rfl, hfailure⟩, rfl⟩ |
    ⟨made, rows, rest, rfl, ⟨_, others, rfl, rfl, hrows⟩, hrest⟩
  · cases hfailure
  · cases hrows
    exact .found (conditional_of_dialogue hrest)

/-- The counters and the event at the end of a command take no part in its dialogue. -/
theorem dialogue_handle_iff {command : Command} {answer : Except Failure (Response Document)} :
    (handle settings now fresh command).Dialogue exchanges answer ↔
      (command.action settings now fresh).run.Dialogue exchanges answer := by
  unfold handle observed
  rw [Program.dialogue_bind_iff]
  constructor
  · rintro ⟨before, result, after, rfl, h, hclosing⟩
    cases result <;> obtain ⟨rfl, rfl⟩ := hclosing <;> simpa using h
  · intro h
    refine ⟨exchanges, answer, [], by simp, h, ?_⟩
    cases answer <;> exact ⟨rfl, rfl⟩

end Courses

end Service

end LinkCatalog
