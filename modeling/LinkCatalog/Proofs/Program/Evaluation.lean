import LinkCatalog.Catalog.Program

/-!
# Actions that only look

An action that makes no write leaves the catalog as it is, and its result is a function of the
catalog. The result of an action in parts is put together from the results of the parts, in the way
in which the action is.

## Main definitions

- `Action.Gives` — on a catalog the action has a result, and changes nothing

## Main statements

- `Action.Gives.bind`, `Action.Gives.mapM`, `Action.Gives.mapFailure` — results of actions in parts
- `Action.Gives.value_bind` — the result of an action that looks first and may write then
-/

namespace LinkCatalog.Action

variable {α β : Type} {catalog : Catalog}

/-- On a catalog the action has a result, and leaves the catalog as it is. -/
def Gives (catalog : Catalog) (action : Action α) (result : Except Failure α) : Prop :=
  (action.run.run catalog).value = result ∧ (action.run.run catalog).catalog = catalog

theorem gives_pure (value : α) : (pure value : Action α).Gives catalog (.ok value) :=
  ⟨rfl, rfl⟩

theorem gives_liftExcept (result : Except Failure α) :
    (liftExcept result : Action α).Gives catalog result := by
  cases result <;> exact ⟨rfl, rfl⟩

theorem gives_raise (event : Signal) : (raise event).Gives catalog (.ok ()) :=
  ⟨rfl, rfl⟩

/-- A single call gives what the catalog answers, if it is no write. -/
theorem gives_ofCall (query : Call) (answer : query.Answer → Except Failure α)
    (hread : (query.perform catalog).2 = catalog) :
    (ofProgram (.call query fun given => .done (answer given))).Gives catalog
      (answer (query.perform catalog).1) :=
  ⟨rfl, hread⟩

namespace Gives

theorem bind {first : Action α} {next : α → Action β} {result : Except Failure α}
    {rest : α → Except Failure β} (hfirst : first.Gives catalog result)
    (hnext : ∀ value, result = .ok value → (next value).Gives catalog (rest value)) :
    (first >>= next).Gives catalog (result >>= rest) := by
  obtain ⟨hvalue, hcatalog⟩ := hfirst
  unfold Gives
  rw [ExceptT.run_bind, Program.run_bind]
  simp only [hvalue, hcatalog]
  cases result with
  | error failure => exact ⟨rfl, rfl⟩
  | ok value => exact hnext value rfl

/-- What is looked up first counts only by its result. -/
theorem value_bind {first : Action α} {next : α → Action β} {result : Except Failure α}
    (hfirst : first.Gives catalog result) :
    ((first >>= next).run.run catalog).value =
      result >>= fun value => ((next value).run.run catalog).value := by
  obtain ⟨hvalue, hcatalog⟩ := hfirst
  rw [ExceptT.run_bind, Program.run_bind]
  simp only [hvalue, hcatalog]
  cases result <;> rfl

theorem map {action : Action α} {result : Except Failure α} (h : action.Gives catalog result)
    (change : α → β) : (change <$> action).Gives catalog (result.map change) := by
  rw [map_eq_pure_bind]
  have hmap : result.map change = result >>= fun value => .ok (change value) := by
    cases result <;> rfl
  rw [hmap]
  exact h.bind fun value _ => gives_pure (change value)

theorem mapFailure {action : Action α} {result : Except Failure α}
    (h : action.Gives catalog result) (change : Failure → Failure) :
    (action.mapFailure change).Gives catalog (result.mapError change) := by
  obtain ⟨hvalue, hcatalog⟩ := h
  show ((Except.mapError change <$> action.run).run catalog).value = _ ∧
    ((Except.mapError change <$> action.run).run catalog).catalog = _
  rw [map_eq_pure_bind, Program.run_bind]
  exact ⟨congrArg (Except.mapError change) hvalue, hcatalog⟩

theorem mapM {action : α → Action β} {result : α → Except Failure β}
    (h : ∀ value, (action value).Gives catalog (result value)) (values : List α) :
    (values.mapM action).Gives catalog (values.mapM result) := by
  induction values with
  | nil => exact gives_pure []
  | cons value values ih =>
    rw [List.mapM_cons, List.mapM_cons]
    exact (h value).bind fun first _ => ih.bind fun rest _ => gives_pure (first :: rest)

end Gives

end LinkCatalog.Action
