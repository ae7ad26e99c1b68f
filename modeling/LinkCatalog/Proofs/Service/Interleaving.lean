import LinkCatalog.Proofs.Service.History

/-!
# Interleavings

Several turns use one catalog at the same time. Each of their calls is answered at once and as a
whole, and between two calls of one turn there may be calls of all others. A trace is the list of
these calls in the order in which the catalog answers them.

## Main definitions

- `Move` — a call of one of several turns, with its answer
- `exchangesOf` — the part of a trace that belongs to one turn
- `Interleaving` — a trace in which every turn follows its program
- `Answered` — a turn that has come to its end
- `Catalog.serialTrace` — the trace of turns that run one after the other

## Main statements

- `interleaving_serialTrace`, `answered_serialTrace` — turns that run one after the other are an
  interleaving, and are answered as in the journal
-/

namespace LinkCatalog

/-- A call of the turn with a number, with its answer. -/
structure Move where
  owner : Nat
  exchange : Exchange

/-- The exchanges of one turn in a trace. -/
def exchangesOf (owner : Nat) (trace : List Move) : List Exchange :=
  (trace.filter fun move => move.owner = owner).map Move.exchange

theorem exchangesOf_append (owner : Nat) (first second : List Move) :
    exchangesOf owner (first ++ second) = exchangesOf owner first ++ exchangesOf owner second := by
  simp [exchangesOf]

theorem exchangesOf_cons_of_eq {owner : Nat} {move : Move} (h : move.owner = owner)
    (trace : List Move) :
    exchangesOf owner (move :: trace) = move.exchange :: exchangesOf owner trace := by
  simp [exchangesOf, h]

theorem exchangesOf_cons_of_ne {owner : Nat} {move : Move} (h : move.owner ≠ owner)
    (trace : List Move) : exchangesOf owner (move :: trace) = exchangesOf owner trace := by
  simp [exchangesOf, h]

theorem mem_exchangesOf {move : Move} {trace : List Move} (h : move ∈ trace) :
    move.exchange ∈ exchangesOf move.owner trace :=
  List.mem_map_of_mem (List.mem_filter.2 ⟨h, by simp⟩)

/-- One catalog answers the calls of several turns in the order of the trace. Every turn makes the
    calls of its program, and may still be about to make more. -/
structure Interleaving (turns : List Turn) (start : Catalog) (trace : List Move)
    (finish : Catalog) : Prop where
  performed : start.Performs (trace.map Move.exchange) finish
  owned : ∀ move ∈ trace, move.owner < turns.length
  begun : ∀ (owner : Nat) (turn : Turn), turns[owner]? = some turn →
    ∃ rest value, turn.program.Dialogue (exchangesOf owner trace ++ rest) value

/-- A turn with all its calls in the trace, and the answer that it gives then. -/
def Answered (turns : List Turn) (trace : List Move) (owner : Nat) (turn : Turn)
    (answer : Except Failure (Response Document)) : Prop :=
  turns[owner]? = some turn ∧ turn.program.Dialogue (exchangesOf owner trace) answer

-- ════════════════════════════════════════════════════════════════════════
-- Turns that run one after the other
-- ════════════════════════════════════════════════════════════════════════

/-- The calls of a turn that has the catalog to itself. -/
def Catalog.soloTrace (catalog : Catalog) (owner : Nat) (turn : Turn) : List Move :=
  (turn.program.exchanges catalog).map (Move.mk owner)

/-- The calls of turns that run one after the other, the first of which has the given number. -/
def Catalog.serialTrace (catalog : Catalog) : Nat → List Turn → List Move
  | _, [] => []
  | owner, turn :: turns =>
    catalog.soloTrace owner turn ++ (turn.after catalog).serialTrace (owner + 1) turns

theorem exchangesOf_soloTrace (catalog : Catalog) (owner : Nat) (turn : Turn) :
    exchangesOf owner (catalog.soloTrace owner turn) = turn.program.exchanges catalog := by
  simp [exchangesOf, Catalog.soloTrace, List.filter_map, Function.comp_def]

theorem exchangesOf_eq_nil {owner : Nat} {trace : List Move}
    (h : ∀ move ∈ trace, move.owner ≠ owner) : exchangesOf owner trace = [] := by
  have hnone : trace.filter (fun move => move.owner = owner) = [] :=
    List.filter_eq_nil_iff.2 fun move hmove => by simpa using h move hmove
  rw [exchangesOf, hnone, List.map_nil]

theorem owner_of_mem_soloTrace {catalog : Catalog} {owner : Nat} {turn : Turn} {move : Move}
    (h : move ∈ catalog.soloTrace owner turn) : move.owner = owner := by
  obtain ⟨exchange, -, rfl⟩ := List.mem_map.1 h
  rfl

theorem owner_of_mem_serialTrace {catalog : Catalog} {owner : Nat} {turns : List Turn} {move : Move}
    (h : move ∈ catalog.serialTrace owner turns) :
    owner ≤ move.owner ∧ move.owner < owner + turns.length := by
  induction turns generalizing catalog owner with
  | nil => simp [Catalog.serialTrace] at h
  | cons turn turns ih =>
    rw [List.length_cons]
    rcases List.mem_append.1 h with h | h
    · have howner := owner_of_mem_soloTrace h
      omega
    · have howner := ih h
      omega

/-- In the trace of turns that run one after the other, each one makes the calls of its run. -/
theorem exchangesOf_serialTrace (catalog : Catalog) (first : Nat) {index : Nat} {turns : List Turn}
    {turn : Turn} (h : turns[index]? = some turn) :
    exchangesOf (first + index) (catalog.serialTrace first turns) =
      turn.program.exchanges (catalog.afterTurns (turns.take index)) := by
  induction turns generalizing catalog first index with
  | nil => simp at h
  | cons head turns ih =>
    rw [Catalog.serialTrace, exchangesOf_append]
    cases index with
    | zero =>
      obtain rfl : head = turn := by simpa using h
      rw [Nat.add_zero, exchangesOf_soloTrace, exchangesOf_eq_nil, List.append_nil]
      · rfl
      · intro move hmove
        have howner := owner_of_mem_serialTrace hmove
        omega
    | succ index =>
      have hrest : turns[index]? = some turn := by simpa using h
      rw [exchangesOf_eq_nil, List.nil_append, ← Nat.add_assoc, Nat.add_right_comm, ih _ _ hrest]
      · rfl
      · intro move hmove
        have howner := owner_of_mem_soloTrace hmove
        omega

theorem performs_serialTrace (catalog : Catalog) (owner : Nat) (turns : List Turn) :
    catalog.Performs ((catalog.serialTrace owner turns).map Move.exchange)
      (catalog.afterTurns turns) := by
  induction turns generalizing catalog owner with
  | nil => exact rfl
  | cons turn turns ih =>
    rw [Catalog.serialTrace, List.map_append, Catalog.performs_append_iff]
    refine ⟨turn.after catalog, ?_, ih _ _⟩
    have hsolo : (catalog.soloTrace owner turn).map Move.exchange =
        turn.program.exchanges catalog := by
      simp [Catalog.soloTrace, Function.comp_def]
    rw [hsolo]
    exact turn.program.performs_exchanges catalog

theorem serialTrace_append (catalog : Catalog) (owner : Nat) (first second : List Turn) :
    catalog.serialTrace owner (first ++ second) =
      catalog.serialTrace owner first ++
        (catalog.afterTurns first).serialTrace (owner + first.length) second := by
  induction first generalizing catalog owner with
  | nil => rfl
  | cons turn first ih =>
    rw [List.cons_append, Catalog.serialTrace, Catalog.serialTrace, ih, List.append_assoc,
      List.length_cons, Nat.add_assoc, Nat.add_comm 1]
    rfl

/-- Turns that run one after the other are answered as if each had been alone. -/
theorem answered_serialTrace (start : Catalog) {turns : List Turn} {index : Nat} {turn : Turn}
    {answer : Except Failure (Response Document)} (h : turns[index]? = some turn)
    (hanswer : turn.answer (start.afterTurns (turns.take index)) = answer) :
    Answered turns (start.serialTrace 0 turns) index turn answer := by
  refine ⟨h, ?_⟩
  have hexchanges := exchangesOf_serialTrace start 0 h
  rw [Nat.zero_add] at hexchanges
  rw [hexchanges, ← hanswer]
  exact turn.program.dialogue_exchanges _

/-- **Serial runs.** Turns that run one after the other are an interleaving. -/
theorem interleaving_serialTrace (start : Catalog) (turns : List Turn) :
    Interleaving turns start (start.serialTrace 0 turns) (start.afterTurns turns) := by
  refine ⟨performs_serialTrace start 0 turns, fun move hmove => ?_, fun owner turn hturn => ?_⟩
  · have howner := owner_of_mem_serialTrace hmove
    omega
  · obtain ⟨-, hdialogue⟩ := answered_serialTrace start hturn rfl
    exact ⟨[], _, by rw [List.append_nil]; exact hdialogue⟩

end LinkCatalog
