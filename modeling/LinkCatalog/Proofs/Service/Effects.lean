import LinkCatalog.Proofs.Service.Courses

/-!
# Effects of commands

A command that runs alone either leaves the catalog as it is, or is answered with success and has
the effect of exactly one write.

## Main definitions

- `Turn` — a command, and what the service carries it out with
- `Turn.answer`, `Turn.after` — a turn that has the catalog to itself
- `Turn.Effect` — the answers and the effects that a turn can have on a catalog
- `Turn.Accomplishes` — what a successful turn has done

## Main statements

- `Turn.create_cases`, `Turn.update_cases`, `Turn.delete_cases` — when a command succeeds, and what
  it does
- `Turn.effect_run` — what a turn does
- `Turn.writes_once` — failures and reads change nothing, and a successful write changes one row
-/

namespace LinkCatalog

-- ════════════════════════════════════════════════════════════════════════
-- Look-ups that succeed
-- ════════════════════════════════════════════════════════════════════════

/-- The category and the space of the row are stored. -/
def Catalog.HasRelated (catalog : Catalog) (row : LinkType) : Prop :=
  (∃ category, catalog.categories.find? row.categoryId = some category) ∧
    ∃ space, catalog.spaces.find? row.spaceId = some space

theorem Catalog.hasRelated_iff {catalog : Catalog} {row : LinkType} :
    catalog.HasRelated row ↔
      (∃ category, catalog.loadCategory row.categoryId = .ok category) ∧
        ∃ space, catalog.loadSpace row.spaceId = .ok space := by
  simp only [HasRelated, loadCategory, loadSpace, foundOr_eq_ok_iff]

namespace Service

theorem relatedTo_singleton (request : Request) (row : LinkType) :
    relatedTo request [row] = (do
      let category ← Action.loadCategory row.categoryId
      let space ← Action.loadSpace row.spaceId
      return [.ofCategory request category, .ofSpace request space]) := by
  simp [relatedTo, related, Uuid.sortedDistinct_singleton]

/-- What a row refers to is found if and only if it is stored. -/
theorem hasRelated_iff_of_performs {catalog after : Catalog} {request : Request} {row : LinkType}
    {lookups : List Exchange} {value : Except Failure (List Included)}
    (hlookups : (relatedTo request [row]).run.Dialogue lookups value)
    (hperforms : catalog.Performs lookups after) :
    catalog.HasRelated row ↔ ∃ included, value = .ok included := by
  rw [relatedTo_singleton] at hlookups
  rcases Action.dialogue_bind_iff.1 hlookups with ⟨failure, ⟨_, _, rfl, rfl, hfailure⟩, rfl⟩ |
    ⟨made, category, others, rfl, ⟨_, _, rfl, rfl, hcategory⟩, hrest⟩
  · have hmissing : catalog.loadCategory row.categoryId = .error failure :=
      hperforms.1.trans hfailure.symm
    simp [Catalog.hasRelated_iff, hmissing]
  have hfound : catalog.loadCategory row.categoryId = .ok category :=
    hperforms.1.trans hcategory.symm
  rcases Action.dialogue_bind_iff.1 hrest with ⟨failure, ⟨_, _, rfl, rfl, hfailure⟩, rfl⟩ |
    ⟨made, space, others, rfl, ⟨_, _, rfl, rfl, hspace⟩, rfl, rfl⟩
  · have hmissing : catalog.loadSpace row.spaceId = .error failure :=
      hperforms.2.1.trans hfailure.symm
    simp [Catalog.hasRelated_iff, hmissing]
  · have hspaceFound : catalog.loadSpace row.spaceId = .ok space :=
      hperforms.2.1.trans hspace.symm
    simp [Catalog.hasRelated_iff, hfound, hspaceFound]

end Service

-- ════════════════════════════════════════════════════════════════════════
-- Turns
-- ════════════════════════════════════════════════════════════════════════

/-- The command only reads. -/
def Command.IsRead : Command → Prop
  | .display .. | .list .. => True
  | _ => False

/-- A command, and what the service carries it out with. -/
structure Turn where
  settings : Settings
  /-- The time of the write, if the command makes one. -/
  now : Instant
  /-- The identifier of a created row that comes without one. -/
  fresh : Uuid
  command : Command

namespace Turn

/-- The program that answers the command. -/
def program (turn : Turn) : Program (Except Failure (Response Document)) :=
  Service.handle turn.settings turn.now turn.fresh turn.command

/-- The answer of a turn that has the catalog to itself. -/
def answer (turn : Turn) (catalog : Catalog) : Except Failure (Response Document) :=
  (turn.program.run catalog).value

/-- The catalog after a turn that has it to itself. -/
def after (turn : Turn) (catalog : Catalog) : Catalog :=
  (turn.program.run catalog).catalog

open Service

/-- The answers that a turn can give on a catalog, each with the catalog after it. -/
inductive Effect (turn : Turn) (catalog : Catalog) :
    Except Failure (Response Document) → Catalog → Prop where
  | refused (failure : Failure) : Effect turn catalog (.error failure) catalog
  | read {response : Response Document} (hcommand : turn.command.IsRead) :
      Effect turn catalog (.ok response) catalog
  | created {request : Request} {payload : SingleDocument} {spaceId : Uuid}
      {identity : Option Uuid} {row stored : LinkType} {included : List Included}
      {after : Catalog} (hcommand : turn.command = .create request payload spaceId identity)
      (hrow : rowToCreate turn.settings payload spaceId identity = .ok row)
      (hwrite : catalog.createLinkType row turn.fresh turn.now = .ok (stored, after)) :
      Effect turn catalog (.ok ((createdResponse request stored included).map .single)) after
  | updated {request : Request} {payload : SingleDocument} {spaceId : Uuid}
      {identity : Option Uuid} {row saved : LinkType} {included : List Included}
      {after : Catalog} (hcommand : turn.command = .update request payload spaceId identity)
      (hrow : rowToUpdate turn.settings payload spaceId identity = .ok row)
      (hwrite : catalog.saveLinkType row turn.now = .ok (saved, after)) :
      Effect turn catalog (.ok ((updatedResponse request spaceId saved included).map .single)) after
  | deleted {spaceId id : Uuid} {after : Catalog} (hcommand : turn.command = .delete spaceId id)
      (hwrite : catalog.deleteLinkType spaceId id = .ok after) :
      Effect turn catalog (.ok (deletedResponse.map .single)) after

/-- An action that stores a row succeeds if the request passes the checks, what the row refers to is
    stored, and the write succeeds; otherwise it changes nothing. -/
theorem storing_cases {catalog : Catalog} (result : LinkType → Except Failure (LinkType × Catalog))
    {request : Request} {checked : Except Failure LinkType}
    {write : LinkType → Except Failure LinkType → Exchange}
    {respond : LinkType → List Included → Response SingleDocument}
    {after : Catalog} {exchanges : List Exchange}
    {value : Except Failure (Response SingleDocument)}
    (h : Storing request checked write respond exchanges value)
    (hperforms : catalog.Performs exchanges after)
    (hwrite : ∀ row answer after, catalog.Performs [write row answer] after →
      Call.written catalog (result row) = (answer, after)) :
    (∃ failure, value = .error failure ∧ after = catalog ∧ ∀ row, checked = .ok row →
      catalog.HasRelated row → ∃ failure, result row = .error failure) ∨
    ∃ row stored included, checked = .ok row ∧ catalog.HasRelated row ∧
      result row = .ok (stored, after) ∧ value = .ok (respond stored included) := by
  cases h with
  | refused hchecked =>
    refine .inl ⟨_, rfl, hperforms, fun row hrow => ?_⟩
    rw [hchecked] at hrow
    cases hrow
  | unrelated hchecked hlookups =>
    refine .inl ⟨_, rfl, Catalog.eq_of_performs_related (callsOnly_relatedTo _ _ _ _ hlookups)
      hperforms, fun row hrow hrelated => ?_⟩
    rw [hchecked] at hrow
    cases hrow
    obtain ⟨included, hvalue⟩ := (hasRelated_iff_of_performs hlookups hperforms).1 hrelated
    cases hvalue
  | @written row lookups included answer hchecked hlookups =>
    obtain ⟨middle, hbefore, hlast⟩ := Catalog.performs_append_iff.1 hperforms
    have hrelated := (hasRelated_iff_of_performs hlookups hbefore).2 ⟨_, rfl⟩
    rw [Catalog.eq_of_performs_related (callsOnly_relatedTo _ _ _ _ hlookups) hbefore] at hlast
    have hresult := hwrite _ _ _ hlast
    rcases Call.written_cases catalog (result row) with
      ⟨failure, herror, hwritten⟩ | ⟨stored, rest, hok, hwritten⟩
    · rw [hwritten] at hresult
      cases hresult
      refine .inl ⟨failure, rfl, rfl, fun other hother _ => ?_⟩
      rw [hchecked] at hother
      cases hother
      exact ⟨failure, herror⟩
    · rw [hwritten] at hresult
      cases hresult
      exact .inr ⟨row, stored, _, hchecked, hrelated, hok, rfl⟩

theorem eq_of_displaying {settings : Settings} {request : Request} {spaceId id : Uuid}
    {catalog after : Catalog} {exchanges : List Exchange}
    {value : Except Failure (Response SingleDocument)}
    (h : Displaying settings request spaceId id exchanges value)
    (hperforms : catalog.Performs exchanges after) : after = catalog := by
  obtain failure | hcourse := h
  · exact hperforms.2
  · exact Catalog.eq_of_performs_related (hcourse.callsOnly (callsOnly_displayed _ _ _)) hperforms.2

theorem eq_of_listing {settings : Settings} {request : Request} {spaceId : Uuid}
    {catalog after : Catalog} {exchanges : List Exchange}
    {value : Except Failure (Response ListDocument)}
    (h : Listing settings request spaceId exchanges value)
    (hperforms : catalog.Performs exchanges after) : after = catalog := by
  obtain ⟨hcourse⟩ := h
  exact Catalog.eq_of_performs_related (hcourse.callsOnly (callsOnly_listed _ _ _)) hperforms.2

theorem deleting_cases {settings : Settings} {spaceId id : Uuid} {catalog after : Catalog}
    {exchanges : List Exchange} {value : Except Failure (Response SingleDocument)}
    (h : Deleting settings spaceId id exchanges value)
    (hperforms : catalog.Performs exchanges after) :
    (∃ failure, value = .error failure ∧ after = catalog) ∨
      (catalog.deleteLinkType spaceId id = .ok after ∧ value = .ok deletedResponse) := by
  cases h with
  | refused hallowed => exact .inl ⟨_, rfl, hperforms⟩
  | written answer hallowed =>
    obtain ⟨hanswer, rfl⟩ := hperforms
    simp only [Call.perform] at hanswer ⊢
    cases hdelete : catalog.deleteLinkType spaceId id with
    | error failure =>
      rw [hdelete] at hanswer
      subst hanswer
      exact .inl ⟨failure, rfl, rfl⟩
    | ok rest =>
      rw [hdelete] at hanswer
      subst hanswer
      exact .inr ⟨rfl, rfl⟩

-- ════════════════════════════════════════════════════════════════════════
-- Turns that have the catalog to themselves
-- ════════════════════════════════════════════════════════════════════════

/-- The calls of a turn are those of its action, and its answer is that of its action. -/
theorem dialogue_action (turn : Turn) (catalog : Catalog) :
    (turn.command.action turn.settings turn.now turn.fresh).run.Dialogue
      (turn.program.exchanges catalog) (turn.answer catalog) :=
  dialogue_handle_iff.1 (turn.program.dialogue_exchanges catalog)

theorem performs_after (turn : Turn) (catalog : Catalog) :
    catalog.Performs (turn.program.exchanges catalog) (turn.after catalog) :=
  turn.program.performs_exchanges catalog

section Cases

variable {turn : Turn} {request : Request} {payload : SingleDocument} {spaceId id : Uuid}
  {identity : Option Uuid}

/-- A creation succeeds if the request passes the checks, what the row refers to is stored, and the
    row can be created; otherwise it changes nothing. -/
theorem create_cases (hcommand : turn.command = .create request payload spaceId identity)
    (catalog : Catalog) :
    (∃ failure, turn.answer catalog = .error failure ∧ turn.after catalog = catalog ∧
      ∀ row, rowToCreate turn.settings payload spaceId identity = .ok row →
        catalog.HasRelated row →
        ∃ failure, catalog.createLinkType row turn.fresh turn.now = .error failure) ∨
    ∃ row stored included, rowToCreate turn.settings payload spaceId identity = .ok row ∧
      catalog.HasRelated row ∧
      catalog.createLinkType row turn.fresh turn.now = .ok (stored, turn.after catalog) ∧
      turn.answer catalog = .ok ((createdResponse request stored included).map .single) := by
  have hdialogue := turn.dialogue_action catalog
  rw [hcommand] at hdialogue
  obtain ⟨result, hcourse, hvalue⟩ := Action.dialogue_map_iff.1 hdialogue
  rcases storing_cases (fun row => catalog.createLinkType row turn.fresh turn.now)
    (storing_of_create hcourse) (turn.performs_after catalog)
    fun row answer after hwrite => Prod.ext hwrite.1 hwrite.2.symm with
    ⟨failure, rfl, hafter, hrefused⟩ | ⟨row, stored, included, hrow, hrelated, hwrite, rfl⟩
  · exact .inl ⟨failure, hvalue, hafter, hrefused⟩
  · exact .inr ⟨row, stored, included, hrow, hrelated, hwrite, hvalue⟩

/-- An update succeeds if the request passes the checks, what the row refers to is stored, and the
    row can be saved; otherwise it changes nothing. -/
theorem update_cases (hcommand : turn.command = .update request payload spaceId identity)
    (catalog : Catalog) :
    (∃ failure, turn.answer catalog = .error failure ∧ turn.after catalog = catalog ∧
      ∀ row, rowToUpdate turn.settings payload spaceId identity = .ok row →
        catalog.HasRelated row → ∃ failure, catalog.saveLinkType row turn.now = .error failure) ∨
    ∃ row saved included, rowToUpdate turn.settings payload spaceId identity = .ok row ∧
      catalog.HasRelated row ∧
      catalog.saveLinkType row turn.now = .ok (saved, turn.after catalog) ∧
      turn.answer catalog = .ok ((updatedResponse request spaceId saved included).map .single) := by
  have hdialogue := turn.dialogue_action catalog
  rw [hcommand] at hdialogue
  obtain ⟨result, hcourse, hvalue⟩ := Action.dialogue_map_iff.1 hdialogue
  rcases storing_cases (fun row => catalog.saveLinkType row turn.now)
    (storing_of_update hcourse) (turn.performs_after catalog)
    fun row answer after hwrite => Prod.ext hwrite.1 hwrite.2.symm with
    ⟨failure, rfl, hafter, hrefused⟩ | ⟨row, saved, included, hrow, hrelated, hwrite, rfl⟩
  · exact .inl ⟨failure, hvalue, hafter, hrefused⟩
  · exact .inr ⟨row, saved, included, hrow, hrelated, hwrite, hvalue⟩

/-- An update succeeds if its row can be saved, and then the saved row is in place of the stored
    one. -/
theorem replaces_of_update (hcommand : turn.command = .update request payload spaceId identity)
    {catalog : Catalog} {row stored : LinkType}
    (hrow : rowToUpdate turn.settings payload spaceId identity = .ok row)
    (hnamed : row.IsNamed) (hrelated : catalog.HasRelated row)
    (hstored : catalog.linkTypes.find? row.id = some stored)
    (hversion : stored.version = row.version) (hfree : catalog.isNameTaken row = false) :
    ∃ response, turn.answer catalog = .ok response ∧
      Catalog.Replaces stored (row.saved stored turn.now) catalog (turn.after catalog) := by
  have hsave := Catalog.saveLinkType_eq_ok_iff.2 ⟨hnamed, stored, hstored, hversion, hfree,
    Eq.refl (row.saved stored turn.now), rfl⟩
  rcases update_cases hcommand catalog with ⟨_, -, -, hrefused⟩ |
    ⟨updated, saved, included, hupdated, -, hwrite, hanswer⟩
  · obtain ⟨failure, hfailure⟩ := hrefused row hrow hrelated
    rw [hsave] at hfailure
    cases hfailure
  · obtain rfl : row = updated := Except.ok.inj (hrow.symm.trans hupdated)
    rw [hsave] at hwrite
    obtain ⟨rfl, hafter⟩ := Prod.mk.inj (Except.ok.inj hwrite)
    obtain ⟨found, hreplaces, -⟩ := Catalog.replaces_of_saveLinkType hsave
    have hfound : found = stored := by
      have hbefore := hreplaces.1
      rw [LinkType.saved_id, hstored] at hbefore
      exact (Option.some.inj hbefore).symm
    rw [hfound, hafter] at hreplaces
    exact ⟨_, hanswer, hreplaces⟩

/-- A deletion fails and changes nothing, or the row is deleted. -/
theorem delete_cases (hcommand : turn.command = .delete spaceId id) (catalog : Catalog) :
    (∃ failure, turn.answer catalog = .error failure ∧ turn.after catalog = catalog) ∨
      (catalog.deleteLinkType spaceId id = .ok (turn.after catalog) ∧
        turn.answer catalog = .ok (deletedResponse.map .single)) := by
  have hdialogue := turn.dialogue_action catalog
  rw [hcommand] at hdialogue
  obtain ⟨result, hcourse, hvalue⟩ := Action.dialogue_map_iff.1 hdialogue
  rcases deleting_cases (deleting_of_delete hcourse) (turn.performs_after catalog) with
    ⟨failure, rfl, hafter⟩ | ⟨hwrite, rfl⟩
  · exact .inl ⟨failure, hvalue, hafter⟩
  · exact .inr ⟨hwrite, hvalue⟩

theorem after_of_isRead (hread : turn.command.IsRead) (catalog : Catalog) :
    turn.after catalog = catalog := by
  have hdialogue := turn.dialogue_action catalog
  cases hcommand : turn.command with
  | display request spaceId id =>
    rw [hcommand] at hdialogue
    obtain ⟨result, hcourse, -⟩ := Action.dialogue_map_iff.1 hdialogue
    exact eq_of_displaying (displaying_of_display hcourse) (turn.performs_after catalog)
  | list request spaceId =>
    rw [hcommand] at hdialogue
    obtain ⟨result, hcourse, -⟩ := Action.dialogue_map_iff.1 hdialogue
    exact eq_of_listing (listing_of_list hcourse) (turn.performs_after catalog)
  | _ =>
    rw [hcommand] at hread
    exact hread.elim

end Cases

/-- What a turn does that has the catalog to itself. -/
theorem effect_run (turn : Turn) (catalog : Catalog) :
    Effect turn catalog (turn.answer catalog) (turn.after catalog) := by
  by_cases hread : turn.command.IsRead
  · rw [after_of_isRead hread]
    cases turn.answer catalog with
    | error failure => exact .refused failure
    | ok response => exact .read hread
  cases hcommand : turn.command with
  | create request payload spaceId identity =>
    rcases create_cases hcommand catalog with ⟨failure, hanswer, hafter, -⟩ |
      ⟨row, stored, included, hrow, -, hwrite, hanswer⟩
    · rw [hanswer, hafter]
      exact .refused failure
    · rw [hanswer]
      exact .created hcommand hrow hwrite
  | update request payload spaceId identity =>
    rcases update_cases hcommand catalog with ⟨failure, hanswer, hafter, -⟩ |
      ⟨row, saved, included, hrow, -, hwrite, hanswer⟩
    · rw [hanswer, hafter]
      exact .refused failure
    · rw [hanswer]
      exact .updated hcommand hrow hwrite
  | delete spaceId id =>
    rcases delete_cases hcommand catalog with ⟨failure, hanswer, hafter⟩ | ⟨hwrite, hanswer⟩
    · rw [hanswer, hafter]
      exact .refused failure
    · rw [hanswer]
      exact .deleted hcommand hwrite
  | _ =>
    rw [hcommand] at hread
    exact absurd trivial hread

-- ════════════════════════════════════════════════════════════════════════
-- One write for each success
-- ════════════════════════════════════════════════════════════════════════

/-- What a turn has done to the catalog when it was answered with a response. -/
def Accomplishes (turn : Turn) (response : Response Document) (before after : Catalog) : Prop :=
  match turn.command with
  | .create .. =>
    ∃ row document, response.body = some (.single document) ∧ document.id? = some row.id ∧
      document.toLinkType = .ok row ∧ Catalog.Adds row before after
  | .display .. | .list .. => after = before
  | .update _ payload _ _ =>
    ∃ stored row document, response.body = some (.single document) ∧
      document.id? = some row.id ∧ document.toLinkType = .ok row ∧ payload.id? = some row.id ∧
      Catalog.Replaces stored row before after ∧ stored.id = row.id ∧
      row.createdAt = stored.createdAt ∧ row.version.toInt = stored.version.toInt + 1
  | .delete _ id => ∃ stored, Catalog.Removes id stored before after

theorem accomplishes_of_isRead {turn : Turn} {catalog : Catalog} {response : Response Document}
    (hread : turn.command.IsRead) : turn.Accomplishes response catalog catalog := by
  unfold Accomplishes
  cases hcommand : turn.command with
  | display request spaceId id => exact rfl
  | list request spaceId => exact rfl
  | _ =>
    rw [hcommand] at hread
    exact hread.elim

/-- **One effect.** A turn that fails or only reads leaves the whole catalog as it is; one that
    succeeds adds the row that the answer describes, puts the row that the answer describes in place
    of the one that the document names, or removes the row that the path names, and touches nothing
    else. -/
theorem writes_once (turn : Turn) (catalog : Catalog) (hversions : catalog.VersionsBelowMax) :
    match turn.answer catalog with
    | .error _ => turn.after catalog = catalog
    | .ok response => turn.Accomplishes response catalog (turn.after catalog) := by
  have heffect := turn.effect_run catalog
  generalize turn.answer catalog = answer at heffect ⊢
  generalize turn.after catalog = after at heffect ⊢
  cases heffect with
  | refused failure => exact rfl
  | read hread => exact accomplishes_of_isRead hread
  | @created request payload spaceId identity row stored included _ hcommand hrow hwrite =>
    show turn.Accomplishes _ catalog _
    rw [Accomplishes, hcommand]
    exact ⟨stored, _, rfl, rfl,
      SingleDocument.toLinkType_resource (Catalog.isNamed_of_createLinkType hwrite),
      Catalog.adds_of_createLinkType hwrite⟩
  | @updated request payload spaceId identity row saved included _ hcommand hrow hwrite =>
    obtain ⟨-, -, -, described, hid, -, rfl⟩ := rowToUpdate_eq_ok_iff.1 hrow
    obtain ⟨stored, hreplaces, -, hsaved⟩ := Catalog.replaces_of_saveLinkType hwrite
    have hversion := hversions _ (Table.mem_of_find? hreplaces.1)
    show turn.Accomplishes _ catalog _
    rw [Accomplishes, hcommand]
    refine ⟨stored, saved, _, rfl, rfl,
      SingleDocument.toLinkType_resource (Catalog.isNamed_of_saveLinkType hwrite), ?_, hreplaces,
      Table.id_of_find? hreplaces.1, ?_, ?_⟩
    · rw [hid, hsaved, LinkType.saved_id]
    · rw [hsaved, LinkType.saved]
    · rw [hsaved, LinkType.toInt_version_saved hversion]
  | deleted hcommand hwrite =>
    obtain ⟨stored, hremoves, -⟩ := Catalog.removes_of_deleteLinkType hwrite
    show turn.Accomplishes _ catalog _
    rw [Accomplishes, hcommand]
    exact ⟨stored, hremoves⟩

end Turn

-- ════════════════════════════════════════════════════════════════════════
-- A catalog for examples, with one category, one space and one link type
-- ════════════════════════════════════════════════════════════════════════

def Category.sample : Category :=
  { id := ⟨2⟩, name := "dependencies", description := none, version := 0
    createdAt := .epoch, updatedAt := .epoch }

def Space.sample : Space :=
  { id := ⟨3⟩, name := "home", description := none, ownerId := ⟨4⟩, version := 0
    createdAt := .epoch, updatedAt := .epoch }

def LinkType.sample : LinkType :=
  { id := ⟨1⟩, name := "Blocker", description := none, version := 0
    createdAt := .epoch, updatedAt := .epoch, forwardName := "blocks", reverseName := "blocked by"
    topology := .dependency, categoryId := Category.sample.id, spaceId := Space.sample.id }

def Catalog.sampleStart : Catalog :=
  (Catalog.empty.putCategory .sample).putSpace .sample

def Catalog.sample : Catalog :=
  Catalog.sampleStart.putLinkType .sample

/-- A second after the epoch. -/
def Instant.sampleLater : Instant :=
  { seconds := 1, nanos := 0, valid := by decide }

/-- A row next to the one for examples, last changed a second later. -/
def LinkType.sampleNext : LinkType :=
  { LinkType.sample with
    id := ⟨8⟩, name := "Aggregate", updatedAt := .sampleLater }

/-- A catalog with both rows. -/
def Catalog.samplePair : Catalog :=
  Catalog.sample.putLinkType .sampleNext

def Request.sample : Request :=
  { uri := { scheme := none, authority := none, path := "/", query := none }
    headers := Headers.empty }

/-- A turn where link types may be changed. -/
def Turn.sample (command : Command) : Turn :=
  { settings := { mutationsEnabled := true }, now := .epoch, fresh := ⟨5⟩, command }

/-- A document for a row as a client would send it. -/
def SingleDocument.sample (row : LinkType) : SingleDocument :=
  { data := some (row.resource .sample row.spaceId) }

def Turn.sampleCreation : Turn :=
  .sample (.create .sample (.sample .sample) Space.sample.id (some ⟨6⟩))

def Turn.sampleDisplay : Turn :=
  .sample (.display .sample Space.sample.id LinkType.sample.id)

/-- The row for examples is saved under another name. -/
def Turn.sampleRename : Turn :=
  .sample (.update .sample (.sample { LinkType.sample with name := "Obstacle" }) Space.sample.id
    (some ⟨6⟩))

/-- The row for examples is deleted. -/
def Turn.sampleDeletion : Turn :=
  .sample (.delete Space.sample.id LinkType.sample.id)

def Turn.sampleListing : Turn :=
  .sample (.list .sample Space.sample.id)

/-- Each command succeeds once, with its one effect. The second creation of a row fails, and changes
    nothing. -/
theorem Turn.writes_once_samples :
    Catalog.sampleStart.VersionsBelowMax ∧ Catalog.sample.VersionsBelowMax ∧
      (∃ response, sampleCreation.answer .sampleStart = .ok response ∧
        sampleCreation.Accomplishes response .sampleStart (sampleCreation.after .sampleStart)) ∧
      (∀ turn ∈ [sampleDisplay, sampleListing, sampleRename, sampleDeletion], ∃ response,
        turn.answer .sample = .ok response ∧
          turn.Accomplishes response .sample (turn.after .sample)) ∧
      ∃ failure, sampleCreation.answer .sample = .error failure ∧
        sampleCreation.after .sample = .sample := by
  have hstart : Catalog.sampleStart.VersionsBelowMax := by decide
  have hversions : Catalog.sample.VersionsBelowMax := by decide
  have hsuccess : ∀ (turn : Turn) (catalog : Catalog), catalog.VersionsBelowMax →
      (turn.answer catalog).isOk = true → ∃ response, turn.answer catalog = .ok response ∧
        turn.Accomplishes response catalog (turn.after catalog) := by
    intro turn catalog hversions hok
    obtain ⟨response, hanswer⟩ := Failure.exists_of_isOk hok
    have h := writes_once turn catalog hversions
    rw [hanswer] at h
    exact ⟨response, hanswer, h⟩
  refine ⟨hstart, hversions, hsuccess _ _ hstart (by decide +kernel), fun turn hturn => ?_, ?_⟩
  · have hok : ∀ turn ∈ [sampleDisplay, sampleListing, sampleRename, sampleDeletion],
        (turn.answer .sample).isOk = true := by decide +kernel
    exact hsuccess turn .sample hversions (hok turn hturn)
  · have hfails : (sampleCreation.answer .sample).isOk = false := by decide +kernel
    have h := writes_once sampleCreation .sample hversions
    cases hanswer : sampleCreation.answer .sample with
    | error failure =>
      rw [hanswer] at h
      exact ⟨failure, rfl, h⟩
    | ok response =>
      rw [hanswer] at hfails
      cases hfails

end LinkCatalog
