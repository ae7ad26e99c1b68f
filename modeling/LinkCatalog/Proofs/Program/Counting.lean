import LinkCatalog.Proofs.Program.Dialogue

/-!
# What programs count

A program raises counters on its way. Which ones it raises depends on the answers that it gets, so
that dialogues are looked at together with the counters that are raised in them. Nothing of what is
recorded comes back to the program: without its signals it has the same dialogues.

## Main definitions

- `Program.Raises` — a dialogue with the counters that the program raises in it
- `Program.silent` — a program without its signals
- `Action.Uncounted` — the action raises no counters

## Main statements

- `Program.dialogue_iff_exists_raises`, `Program.raises_run` — dialogues and runs with their
  counters
- `Program.dialogue_silent_iff` — signals do not change what a program does
- `Action.raises_bind_cases` — the counters of an action in two parts
- `Action.Uncounted.bind`, `Action.Uncounted.mapM` — actions that consist of uncounted ones
-/

namespace LinkCatalog

variable {α β : Type}

-- ════════════════════════════════════════════════════════════════════════
-- Dialogues with counters
-- ════════════════════════════════════════════════════════════════════════

namespace Program

/-- The program takes part in some exchanges and ends in a value, and it raises some counters on the
    way, in this order. -/
def Raises : Program α → List Exchange → List Series → α → Prop
  | .done result, exchanges, raised, value => exchanges = [] ∧ raised = [] ∧ value = result
  | .call query next, exchanges, raised, value =>
    ∃ answer rest, exchanges = ⟨query, answer⟩ :: rest ∧ (next answer).Raises rest raised value
  | .signal event next, exchanges, raised, value =>
    ∃ rest, raised = Signal.raised [event] ++ rest ∧ next.Raises exchanges rest value

/-- A program without its signals. -/
def silent : Program α → Program α
  | .done result => .done result
  | .call query next => .call query fun answer => (next answer).silent
  | .signal _ next => next.silent

/-- In every dialogue some counters are raised. -/
theorem dialogue_iff_exists_raises {program : Program α} {exchanges : List Exchange} {value : α} :
    program.Dialogue exchanges value ↔ ∃ raised, program.Raises exchanges raised value := by
  induction program generalizing exchanges with
  | done result => simp [Dialogue, Raises]
  | call query next ih =>
    constructor
    · rintro ⟨answer, rest, rfl, h⟩
      obtain ⟨raised, h⟩ := (ih answer).1 h
      exact ⟨raised, answer, rest, rfl, h⟩
    · rintro ⟨raised, answer, rest, rfl, h⟩
      exact ⟨answer, rest, rfl, (ih answer).2 ⟨raised, h⟩⟩
  | signal event next ih =>
    constructor
    · intro h
      obtain ⟨rest, h⟩ := ih.1 h
      exact ⟨_, rest, rfl, h⟩
    · rintro ⟨raised, rest, rfl, h⟩
      exact ih.2 ⟨rest, h⟩

/-- The counters of a run are raised in its dialogue. -/
theorem raises_run (program : Program α) (catalog : Catalog) :
    program.Raises (program.exchanges catalog) (Signal.raised (program.run catalog).signals)
      (program.run catalog).value := by
  induction program generalizing catalog with
  | done result => exact ⟨rfl, rfl, rfl⟩
  | call query next ih => exact ⟨_, _, rfl, ih _ _⟩
  | signal event next ih =>
    refine ⟨_, ?_, ih catalog⟩
    exact List.filterMap_append (l := [event])

/-- Signals do not change what a program does. -/
theorem dialogue_silent_iff {program : Program α} {exchanges : List Exchange} {value : α} :
    program.silent.Dialogue exchanges value ↔ program.Dialogue exchanges value := by
  induction program generalizing exchanges with
  | done result => exact Iff.rfl
  | call query next ih =>
    constructor
    · rintro ⟨answer, rest, rfl, h⟩
      exact ⟨answer, rest, rfl, (ih answer).1 h⟩
    · rintro ⟨answer, rest, rfl, h⟩
      exact ⟨answer, rest, rfl, (ih answer).2 h⟩
  | signal event next ih => exact ih

/-- The counters of a program in two parts are those of the first part and then those of the
    second. -/
theorem raises_bind_cases {first : Program α} {next : α → Program β} {exchanges : List Exchange}
    {raised : List Series} {value : β} (h : (first >>= next).Raises exchanges raised value) :
    ∃ before middle after earlier later, exchanges = before ++ after ∧ raised = earlier ++ later ∧
      first.Raises before earlier middle ∧ (next middle).Raises after later value := by
  change (first.bind next).Raises exchanges raised value at h
  induction first generalizing exchanges raised with
  | done result => exact ⟨[], result, exchanges, [], raised, rfl, rfl, ⟨rfl, rfl, rfl⟩, h⟩
  | call query rest ih =>
    obtain ⟨answer, others, rfl, h⟩ := h
    obtain ⟨before, middle, after, earlier, later, rfl, rfl, hfirst, hnext⟩ := ih answer h
    exact ⟨⟨query, answer⟩ :: before, middle, after, earlier, later, rfl, rfl,
      ⟨answer, before, rfl, hfirst⟩, hnext⟩
  | signal event rest ih =>
    obtain ⟨others, rfl, h⟩ := h
    obtain ⟨before, middle, after, earlier, later, rfl, rfl, hfirst, hnext⟩ := ih h
    exact ⟨before, middle, after, Signal.raised [event] ++ earlier, later, rfl,
      (List.append_assoc _ _ _).symm, ⟨earlier, rfl, hfirst⟩, hnext⟩

end Program

-- ════════════════════════════════════════════════════════════════════════
-- Counters of actions
-- ════════════════════════════════════════════════════════════════════════

namespace Action

variable {exchanges : List Exchange} {raised : List Series}

theorem raises_liftExcept {result value : Except Failure α}
    (h : (liftExcept result : Action α).run.Raises exchanges raised value) :
    raised = [] ∧ value = result := by
  cases result <;> exact h.2

/-- The second part of an action raises its counters only if the first part has succeeded. -/
theorem raises_bind_cases {first : Action α} {next : α → Action β} {value : Except Failure β}
    (h : (first >>= next).run.Raises exchanges raised value) :
    (∃ failure, first.run.Raises exchanges raised (.error failure) ∧ value = .error failure) ∨
      ∃ before middle after earlier later, exchanges = before ++ after ∧
        raised = earlier ++ later ∧ first.run.Raises before earlier (.ok middle) ∧
        (next middle).run.Raises after later value := by
  rw [ExceptT.run_bind] at h
  obtain ⟨before, result, after, earlier, later, rfl, rfl, hfirst, hnext⟩ :=
    Program.raises_bind_cases h
  cases result with
  | error failure =>
    obtain ⟨rfl, rfl, rfl⟩ := hnext
    exact .inl ⟨failure, by simpa using hfirst, rfl⟩
  | ok middle => exact .inr ⟨before, middle, after, earlier, later, rfl, rfl, hfirst, hnext⟩

/-- A function of the result raises nothing. -/
theorem raises_map_cases {change : α → β} {action : Action α} {value : Except Failure β}
    (h : (change <$> action).run.Raises exchanges raised value) :
    ∃ result, action.run.Raises exchanges raised result ∧ value = result.map change := by
  rw [ExceptT.run_map, map_eq_pure_bind] at h
  obtain ⟨before, result, after, earlier, later, rfl, rfl, hfirst, rfl, rfl, rfl⟩ :=
    Program.raises_bind_cases h
  exact ⟨result, by simpa using hfirst, rfl⟩

/-- The action raises no counters, whatever it is answered. -/
def Uncounted (action : Action α) : Prop :=
  ∀ exchanges raised value, action.run.Raises exchanges raised value → raised = []

namespace Uncounted

theorem pure (value : α) : Uncounted (Pure.pure value : Action α) := by
  rintro exchanges raised result ⟨-, hraised, -⟩
  exact hraised

theorem liftExcept (result : Except Failure α) : Uncounted (liftExcept result : Action α) := by
  intro exchanges raised value h
  exact (raises_liftExcept h).1

theorem log (event : Event) : (raise (.log event)).Uncounted := by
  rintro exchanges raised value ⟨rest, rfl, -, rfl, -⟩
  rfl

theorem ofCall (query : Call) (next : query.Answer → Except Failure α) :
    Uncounted (ofProgram (.call query fun answer => .done (next answer))) := by
  rintro exchanges raised value ⟨answer, rest, -, -, hraised, -⟩
  exact hraised

theorem bind {first : Action α} {next : α → Action β} (hfirst : first.Uncounted)
    (hnext : ∀ value, (next value).Uncounted) : (first >>= next).Uncounted := by
  intro exchanges raised value h
  rcases raises_bind_cases h with ⟨failure, h, -⟩ |
    ⟨before, middle, after, earlier, later, -, rfl, hbefore, hafter⟩
  · exact hfirst _ _ _ h
  · rw [hfirst _ _ _ hbefore, hnext _ _ _ _ hafter, List.append_nil]

theorem mapFailure {action : Action α} (h : action.Uncounted) (change : Failure → Failure) :
    (action.mapFailure change).Uncounted := by
  intro exchanges raised value hraises
  change (Except.mapError change <$> action.run).Raises exchanges raised value at hraises
  rw [map_eq_pure_bind] at hraises
  obtain ⟨before, result, after, earlier, later, -, rfl, hfirst, -, rfl, -⟩ :=
    Program.raises_bind_cases hraises
  rw [h _ _ _ hfirst, List.append_nil]

theorem mapM {action : α → Action β} (h : ∀ value, (action value).Uncounted) (values : List α) :
    (values.mapM action).Uncounted := by
  induction values with
  | nil => exact pure []
  | cons value values ih =>
    rw [List.mapM_cons]
    exact (h value).bind fun _ => ih.bind fun _ => pure _

end Uncounted

end Action

end LinkCatalog
