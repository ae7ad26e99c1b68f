import LinkCatalog.Proofs.Service.Interleaving

/-!
# Schedules

A schedule says, step by step, whose call comes next. Every schedule can be followed, and what comes
of it is an interleaving.

## Main definitions

- `Program.advance` — a program up to its next call
- `Execution`, `Catalog.execute` — what comes of a schedule

## Main statements

- `interleaving_execute` — a schedule leads to an interleaving
- `answered_execute` — a turn whose program has come to its end is answered
-/

namespace LinkCatalog

namespace Program

variable {α : Type}

/-- The next call of a program, the program that remains after it, and the catalog after it. -/
def advance (catalog : Catalog) : Program α → Option (Exchange × Program α × Catalog)
  | .done _ => none
  | .call query next =>
    let (answer, after) := query.perform catalog
    some (⟨query, answer⟩, next answer, after)
  | .signal _ next => next.advance catalog

/-- The value of a program that makes no more calls. -/
def result? : Program α → Option α
  | .done value => some value
  | .call .. => none
  | .signal _ next => next.result?

theorem advance_eq_some {program rest : Program α} {catalog after : Catalog} {exchange : Exchange}
    (h : program.advance catalog = some (exchange, rest, after)) :
    (exchange.call.perform catalog).1 = exchange.answer ∧
      (exchange.call.perform catalog).2 = after ∧
      ∀ exchanges value, rest.Dialogue exchanges value →
        program.Dialogue (exchange :: exchanges) value := by
  induction program with
  | done value => cases h
  | call query next ih =>
    cases h
    exact ⟨rfl, rfl, fun exchanges value hrest => ⟨_, exchanges, rfl, hrest⟩⟩
  | signal event next ih => exact ih h

theorem dialogue_of_result? {program : Program α} {value : α} (h : program.result? = some value) :
    program.Dialogue [] value := by
  induction program with
  | done result =>
    cases h
    exact ⟨rfl, rfl⟩
  | call query next ih => cases h
  | signal event next ih => exact ih h

end Program

/-- The calls that were made on a schedule, the catalog after them, and what remains of the
    programs. -/
structure Execution (α : Type) where
  trace : List Move
  catalog : Catalog
  programs : List (Program α)

namespace Catalog

variable {α : Type}

/-- Programs that make their calls on a schedule. A program that is over is passed over. -/
def execute (catalog : Catalog) (programs : List (Program α)) : List Nat → Execution α
  | [] => { trace := [], catalog, programs }
  | owner :: schedule =>
    match programs[owner]?.bind (Program.advance catalog) with
    | none => catalog.execute programs schedule
    | some (exchange, program, after) =>
      let rest := after.execute (programs.set owner program) schedule
      { rest with trace := ⟨owner, exchange⟩ :: rest.trace }

theorem performs_execute (catalog : Catalog) (programs : List (Program α)) (schedule : List Nat) :
    catalog.Performs ((catalog.execute programs schedule).trace.map Move.exchange)
      (catalog.execute programs schedule).catalog := by
  induction schedule generalizing catalog programs with
  | nil => rfl
  | cons owner schedule ih =>
    rw [execute]
    cases hstep : programs[owner]?.bind (Program.advance catalog) with
    | none => exact ih catalog programs
    | some step =>
      obtain ⟨exchange, rest, after⟩ := step
      obtain ⟨program, -, hadvance⟩ := Option.bind_eq_some_iff.1 hstep
      obtain ⟨hanswer, hafter, -⟩ := Program.advance_eq_some hadvance
      refine ⟨hanswer, ?_⟩
      rw [hafter]
      exact ih after (programs.set owner rest)

theorem owner_of_mem_execute {catalog : Catalog} {programs : List (Program α)} {schedule : List Nat}
    {move : Move} (h : move ∈ (catalog.execute programs schedule).trace) :
    move.owner < programs.length := by
  induction schedule generalizing catalog programs with
  | nil => cases h
  | cons owner schedule ih =>
    rw [execute] at h
    cases hstep : programs[owner]?.bind (Program.advance catalog) with
    | none =>
      rw [hstep] at h
      exact ih h
    | some step =>
      rw [hstep] at h
      obtain ⟨program, hprogram, -⟩ := Option.bind_eq_some_iff.1 hstep
      rcases List.mem_cons.1 h with rfl | h
      · exact (List.getElem?_eq_some_iff.1 hprogram).1
      · simpa using ih h

/-- What a program has done on a schedule and what remains of it make up the whole program. -/
theorem dialogue_execute (catalog : Catalog) (schedule : List Nat) {programs : List (Program α)}
    {owner : Nat} {program : Program α} (h : programs[owner]? = some program) :
    ∃ rest, (catalog.execute programs schedule).programs[owner]? = some rest ∧
      ∀ exchanges value, rest.Dialogue exchanges value →
        program.Dialogue (exchangesOf owner (catalog.execute programs schedule).trace ++ exchanges)
          value := by
  -- Induction on the schedule: the step of another turn leaves the program of this one as it is.
  induction schedule generalizing catalog programs program with
  | nil => exact ⟨program, h, fun exchanges value hrest => hrest⟩
  | cons next schedule ih =>
    rw [execute]
    cases hstep : programs[next]?.bind (Program.advance catalog) with
    | none => exact ih catalog h
    | some step =>
      obtain ⟨exchange, advanced, after⟩ := step
      obtain ⟨before, hbefore, hadvance⟩ := Option.bind_eq_some_iff.1 hstep
      obtain ⟨-, -, hdialogue⟩ := Program.advance_eq_some hadvance
      by_cases howner : next = owner
      · subst howner
        obtain rfl : before = program := by
          rw [h] at hbefore
          exact (Option.some.inj hbefore).symm
        have hlt : next < programs.length := (List.getElem?_eq_some_iff.1 h).1
        have hset : (programs.set next advanced)[next]? = some advanced := by simp [hlt]
        obtain ⟨rest, hrest, hmade⟩ := ih after hset
        refine ⟨rest, hrest, fun exchanges value hvalue => ?_⟩
        show before.Dialogue (exchangesOf next (⟨next, exchange⟩ :: _) ++ exchanges) value
        rw [exchangesOf_cons_of_eq (show Move.owner ⟨next, exchange⟩ = next from rfl)]
        exact hdialogue _ _ (hmade exchanges value hvalue)
      · have hset : (programs.set next advanced)[owner]? = some program := by
          rw [List.getElem?_set_ne howner, h]
        obtain ⟨rest, hrest, hmade⟩ := ih after hset
        refine ⟨rest, hrest, fun exchanges value hvalue => ?_⟩
        show program.Dialogue (exchangesOf owner (⟨next, exchange⟩ :: _) ++ exchanges) value
        rw [exchangesOf_cons_of_ne howner]
        exact hmade exchanges value hvalue

end Catalog

variable (start : Catalog) (turns : List Turn) (schedule : List Nat)

/-- **Schedules.** Turns that make their calls on a schedule are an interleaving. -/
theorem interleaving_execute :
    Interleaving turns start (start.execute (turns.map Turn.program) schedule).trace
      (start.execute (turns.map Turn.program) schedule).catalog := by
  refine ⟨start.performs_execute _ schedule, fun move hmove => ?_, fun owner turn hturn => ?_⟩
  · simpa using Catalog.owner_of_mem_execute hmove
  · have hprogram : (turns.map Turn.program)[owner]? = some turn.program := by simp [hturn]
    obtain ⟨rest, -, hdialogue⟩ := start.dialogue_execute schedule hprogram
    exact ⟨_, _, hdialogue _ _ (rest.dialogue_exchanges start)⟩

theorem answered_execute {owner : Nat} {turn : Turn} {answer : Except Failure (Response Document)}
    (hturn : turns[owner]? = some turn)
    (hresult : (start.execute (turns.map Turn.program) schedule).programs[owner]?.bind
      Program.result? = some answer) :
    Answered turns (start.execute (turns.map Turn.program) schedule).trace owner turn answer := by
  have hprogram : (turns.map Turn.program)[owner]? = some turn.program := by simp [hturn]
  obtain ⟨rest, hrest, hdialogue⟩ := start.dialogue_execute schedule hprogram
  rw [hrest] at hresult
  have hover := hdialogue [] answer (Program.dialogue_of_result? hresult)
  rw [List.append_nil] at hover
  exact ⟨hturn, hover⟩

end LinkCatalog
