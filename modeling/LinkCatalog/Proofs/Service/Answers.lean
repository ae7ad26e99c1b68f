import LinkCatalog.Proofs.Service.Reads

/-!
# Answers to writes

A creation or an update checks the request, looks up what the row refers to, and writes. So its
answer is a function of the catalog as well, and an answer of success tells what was looked up and
what was written.

## Main statements

- `Turn.answer_of_create`, `Turn.answer_of_update` — the answers of turns that store a row
- `Turn.created_of_answer`, `Turn.updated_of_answer` — what was stored when the answer is a success
- `Turn.answer_of_updated` — when an update is answered with success
-/

namespace LinkCatalog

variable {catalog : Catalog} {request : Request}

namespace Service

theorem value_map {α β : Type} (action : Action α) (change : α → β) (catalog : Catalog) :
    ((change <$> action).run.run catalog).value = (action.run.run catalog).value.map change := by
  rw [map_eq_pure_bind, ExceptT.run_bind, Program.run_bind]
  obtain ⟨value, after, signals⟩ := action.run.run catalog
  cases value <;> rfl

theorem value_storing {checked : Except Failure LinkType} {store : LinkType → Action LinkType}
    {result : LinkType → Except Failure (LinkType × Catalog)} {event : LinkType → Signal}
    {respond : LinkType → List Included → Response SingleDocument}
    (hstore : ∀ row, ((store row).run.run catalog).value = (result row).map Prod.fst) :
    ((do
      let row ← liftExcept checked
      let included ← relatedTo request [row]
      let stored ← store row
      Action.raise (event stored)
      return respond stored included : Action (Response SingleDocument)).run.run catalog).value =
      (do
        let row ← checked
        let included ← catalog.related request [row]
        let (stored, _) ← result row
        return respond stored included) := by
  refine (Action.gives_liftExcept checked).value_bind.trans (congrArg _ (funext fun row => ?_))
  refine (gives_relatedTo request [row]).value_bind.trans (congrArg _ (funext fun included => ?_))
  rw [ExceptT.run_bind, Program.run_bind]
  have hrow := hstore row
  cases hresult : result row with
  | error failure =>
    rw [hresult] at hrow
    simp only [hrow]
    rfl
  | ok written =>
    rw [hresult] at hrow
    simp only [hrow]
    rfl

theorem value_written {α : Type} (result : Except Failure (α × Catalog)) :
    (Call.written catalog result).1 = result.map Prod.fst := by
  cases result <;> rfl

/-- There is an answer of success if all parts of the action succeed. -/
theorem storing_eq_ok_iff {checked : Except Failure LinkType}
    {result : LinkType → Except Failure (LinkType × Catalog)}
    {respond : LinkType → List Included → Response SingleDocument} {response : Response Document} :
    (do
      let row ← checked
      let included ← catalog.related request [row]
      let (stored, _) ← result row
      return respond stored included : Except Failure (Response SingleDocument)).map
        (Response.map .single) = .ok response ↔
      ∃ row included stored after, checked = .ok row ∧
        catalog.related request [row] = .ok included ∧ result row = .ok (stored, after) ∧
        response = (respond stored included).map .single := by
  simp only [Failure.map_eq_ok_iff, Failure.bind_eq_ok_iff]
  constructor
  · rintro ⟨_, ⟨row, hrow, included, hincluded, ⟨stored, after⟩, hresult, hgiven⟩, rfl⟩
    cases hgiven
    exact ⟨row, included, stored, after, hrow, hincluded, hresult, rfl⟩
  · rintro ⟨row, included, stored, after, hrow, hincluded, hresult, rfl⟩
    exact ⟨_, ⟨row, hrow, included, hincluded, (stored, after), hresult, rfl⟩, rfl⟩

end Service

namespace Turn

open Service

variable {turn : Turn} {payload : SingleDocument} {spaceId : Uuid} {identity : Option Uuid}
  {response : Response Document}

theorem answer_of_create (hcommand : turn.command = .create request payload spaceId identity)
    (catalog : Catalog) :
    turn.answer catalog = (do
      let row ← rowToCreate turn.settings payload spaceId identity
      let included ← catalog.related request [row]
      let (stored, _) ← catalog.createLinkType row turn.fresh turn.now
      return createdResponse request stored included : Except Failure _).map
        (Response.map .single) := by
  refine (value_observed turn.command.name _ catalog).trans ?_
  rw [hcommand, Command.action, value_map, create_eq]
  exact congrArg _ (value_storing fun row => value_written _)

theorem answer_of_update (hcommand : turn.command = .update request payload spaceId identity)
    (catalog : Catalog) :
    turn.answer catalog = (do
      let row ← rowToUpdate turn.settings payload spaceId identity
      let included ← catalog.related request [row]
      let (saved, _) ← catalog.saveLinkType row turn.now
      return updatedResponse request spaceId saved included : Except Failure _).map
        (Response.map .single) := by
  refine (value_observed turn.command.name _ catalog).trans ?_
  rw [hcommand, Command.action, value_map, update_eq]
  exact congrArg _ (value_storing fun row => value_written _)

/-- A creation that succeeds has looked up what its row refers to, and stored the row. -/
theorem created_of_answer (hcommand : turn.command = .create request payload spaceId identity)
    (hanswer : turn.answer catalog = .ok response) :
    ∃ row included stored, rowToCreate turn.settings payload spaceId identity = .ok row ∧
      catalog.related request [row] = .ok included ∧
      catalog.createLinkType row turn.fresh turn.now = .ok (stored, turn.after catalog) ∧
      response = (createdResponse request stored included).map .single := by
  rcases create_cases hcommand catalog with ⟨failure, hfailure, -⟩ |
    ⟨row, stored, -, hrow, -, hwrite, -⟩
  · rw [hanswer] at hfailure
    cases hfailure
  rw [answer_of_create hcommand, storing_eq_ok_iff] at hanswer
  obtain ⟨_, included, _, _, hsame, hincluded, hwritten, rfl⟩ := hanswer
  obtain rfl := Except.ok.inj (hrow.symm.trans hsame)
  cases hwrite.symm.trans hwritten
  exact ⟨row, included, stored, hrow, hincluded, hwrite, rfl⟩

/-- An update that succeeds has looked up what its row refers to, and saved the row. -/
theorem updated_of_answer (hcommand : turn.command = .update request payload spaceId identity)
    (hanswer : turn.answer catalog = .ok response) :
    ∃ row included saved, rowToUpdate turn.settings payload spaceId identity = .ok row ∧
      catalog.related request [row] = .ok included ∧
      catalog.saveLinkType row turn.now = .ok (saved, turn.after catalog) ∧
      response = (updatedResponse request spaceId saved included).map .single := by
  rcases update_cases hcommand catalog with ⟨failure, hfailure, -⟩ |
    ⟨row, saved, -, hrow, -, hwrite, -⟩
  · rw [hanswer] at hfailure
    cases hfailure
  rw [answer_of_update hcommand, storing_eq_ok_iff] at hanswer
  obtain ⟨_, included, _, _, hsame, hincluded, hwritten, rfl⟩ := hanswer
  obtain rfl := Except.ok.inj (hrow.symm.trans hsame)
  cases hwrite.symm.trans hwritten
  exact ⟨row, included, saved, hrow, hincluded, hwrite, rfl⟩

/-- An update succeeds if its row passes the checks, what it refers to is found, and it can be
    saved. -/
theorem answer_of_updated {row saved : LinkType} {included : List Included} {after : Catalog}
    (hcommand : turn.command = .update request payload spaceId identity)
    (hrow : rowToUpdate turn.settings payload spaceId identity = .ok row)
    (hincluded : catalog.related request [row] = .ok included)
    (hwrite : catalog.saveLinkType row turn.now = .ok (saved, after)) :
    turn.answer catalog = .ok ((updatedResponse request spaceId saved included).map .single) ∧
      turn.after catalog = after := by
  have hanswer : turn.answer catalog =
      .ok ((updatedResponse request spaceId saved included).map .single) := by
    rw [answer_of_update hcommand, storing_eq_ok_iff]
    exact ⟨row, included, saved, after, hrow, hincluded, hwrite, rfl⟩
  refine ⟨hanswer, ?_⟩
  obtain ⟨_, _, _, hsame, -, hwritten, -⟩ := updated_of_answer hcommand hanswer
  obtain rfl := Except.ok.inj (hrow.symm.trans hsame)
  cases hwrite.symm.trans hwritten
  rfl

end Turn

end LinkCatalog
