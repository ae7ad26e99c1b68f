import Mathlib.Data.List.Nodup
import Mathlib.Data.List.Perm.Basic
import LinkCatalog.Proofs.Program.Accesses
import LinkCatalog.Proofs.Service.Locking
import LinkCatalog.Proofs.Service.Revisions
import LinkCatalog.Proofs.Service.Schedule

/-!
# Linearization

Turns that use one catalog at the same time are answered as if each had been alone with it, one
after the other. A turn makes at most one call to the link types, and this call is the moment at
which it takes place; its look-ups of categories and spaces may as well be made at that moment.

## Main definitions

- `accessOrder` — the turns in the order of their calls to the link types
- `IsSerialOrder` — an order of all turns that agrees with it

## Main statements

- `Turn.length_accesses_le_one` — a turn makes at most one call to the link types
- `serial_of_accesses` — turns one after the other leave the same catalog behind, and give the same
  answers
- `Interleaving.linearizable` — every interleaving is that of such a serial run, and of several
  updates from one version of a row at most one succeeds
-/

namespace LinkCatalog

-- ════════════════════════════════════════════════════════════════════════
-- The calls of a turn to the link types
-- ════════════════════════════════════════════════════════════════════════

namespace Service

variable {exchanges : List Exchange}

theorem Storing.length_accesses_le_one {request : Request} {checked : Except Failure LinkType}
    {write : LinkType → Except Failure LinkType → Exchange}
    {respond : LinkType → List Included → Response SingleDocument}
    {value : Except Failure (Response SingleDocument)}
    (h : Storing request checked write respond exchanges value) :
    (accesses exchanges).length ≤ 1 := by
  cases h with
  | refused hchecked => simp [accesses]
  | unrelated hchecked hlookups =>
    have hrelated := callsOnly_relatedTo _ _ _ _ hlookups
    simp [accesses_eq_nil_iff.2 hrelated]
  | written answer hchecked hlookups =>
    have hrelated := callsOnly_relatedTo _ _ _ _ hlookups
    rw [accesses_append, accesses_eq_nil_iff.2 hrelated, List.nil_append]
    exact List.length_filter_le _ _

theorem Deleting.length_accesses_le_one {settings : Settings} {spaceId id : Uuid}
    {value : Except Failure (Response SingleDocument)}
    (h : Deleting settings spaceId id exchanges value) : (accesses exchanges).length ≤ 1 := by
  cases h with
  | refused hallowed => simp [accesses]
  | written answer hallowed => exact List.length_filter_le _ _

/-- One exchange followed by look-ups of related resources has at most one access. -/
theorem length_accesses_cons_le_one {first : Exchange} {lookups : List Exchange}
    (hrelated : ∀ exchange ∈ lookups, exchange.call.IsRelated) :
    (accesses (first :: lookups)).length ≤ 1 := by
  have hsplit : accesses (first :: lookups) = accesses [first] ++ accesses lookups :=
    accesses_append [first] lookups
  rw [hsplit, accesses_eq_nil_iff.2 hrelated, List.append_nil]
  exact List.length_filter_le _ _

end Service

open Service in
/-- A turn makes at most one call to the link types, whatever its calls are answered. -/
theorem Turn.length_accesses_le_one {turn : Turn} {exchanges : List Exchange}
    {answer : Except Failure (Response Document)}
    (h : turn.program.Dialogue exchanges answer) : (accesses exchanges).length ≤ 1 := by
  rw [Turn.program, dialogue_handle_iff] at h
  cases hcommand : turn.command with
  | create request payload spaceId identity =>
    rw [hcommand] at h
    obtain ⟨result, hcourse, -⟩ := Action.dialogue_map_iff.1 h
    exact (storing_of_create hcourse).length_accesses_le_one
  | display request spaceId id =>
    rw [hcommand] at h
    obtain ⟨result, hcourse, -⟩ := Action.dialogue_map_iff.1 h
    cases displaying_of_display hcourse with
    | missing failure => exact List.length_filter_le _ _
    | found hconditional =>
      exact length_accesses_cons_le_one (hconditional.callsOnly (callsOnly_displayed _ _ _))
  | list request spaceId =>
    rw [hcommand] at h
    obtain ⟨result, hcourse, -⟩ := Action.dialogue_map_iff.1 h
    obtain ⟨hconditional⟩ := listing_of_list hcourse
    exact length_accesses_cons_le_one (hconditional.callsOnly (callsOnly_listed _ _ _))
  | update request payload spaceId identity =>
    rw [hcommand] at h
    obtain ⟨result, hcourse, -⟩ := Action.dialogue_map_iff.1 h
    exact (storing_of_update hcourse).length_accesses_le_one
  | delete spaceId id =>
    rw [hcommand] at h
    obtain ⟨result, hcourse, -⟩ := Action.dialogue_map_iff.1 h
    exact (deleting_of_delete hcourse).length_accesses_le_one

-- ════════════════════════════════════════════════════════════════════════
-- Orders of turns
-- ════════════════════════════════════════════════════════════════════════

/-- The moves that are calls to the link types. -/
def accessMoves (trace : List Move) : List Move :=
  trace.filter fun move => move.exchange.IsAccess

/-- The turns in the order of their calls to the link types. -/
def accessOrder (trace : List Move) : List Nat :=
  (accessMoves trace).map Move.owner

/-- An order of all turns in which those that call the link types stand as their calls do. The other
    turns may stand anywhere. -/
structure IsSerialOrder (turns : List Turn) (trace : List Move) (order : List Nat) : Prop where
  complete : order.Perm (List.range turns.length)
  agrees : (accessOrder trace).Sublist order

/-- The turns with the given numbers. -/
def inOrder (turns : List Turn) (order : List Nat) : List Turn :=
  order.filterMap fun owner => turns[owner]?

/-- Every turn has come to its end. -/
def IsComplete (turns : List Turn) (trace : List Move) : Prop :=
  ∀ (owner : Nat) (turn : Turn), turns[owner]? = some turn →
    ∃ answer, Answered turns trace owner turn answer

theorem exchangesOf_accessMoves (owner : Nat) (trace : List Move) :
    exchangesOf owner (accessMoves trace) = accesses (exchangesOf owner trace) := by
  unfold exchangesOf accessMoves accesses
  rw [List.filter_comm, List.filter_map]
  rfl

theorem map_exchange_accessMoves (trace : List Move) :
    (accessMoves trace).map Move.exchange = accesses (trace.map Move.exchange) := by
  unfold accessMoves accesses
  rw [List.filter_map]
  rfl

theorem count_accessOrder (owner : Nat) (trace : List Move) :
    (accessOrder trace).count owner = (accesses (exchangesOf owner trace)).length := by
  rw [← exchangesOf_accessMoves, accessOrder, List.count, List.countP_map,
    List.countP_eq_length_filter, exchangesOf, List.length_map]
  rfl

theorem inOrder_range (turns : List Turn) : inOrder turns (List.range turns.length) = turns := by
  induction turns with
  | nil => rfl
  | cons turn turns ih =>
    have hfirst : (turn :: turns)[0]? = some turn := rfl
    rw [inOrder, List.length_cons, List.range_succ_eq_map, List.filterMap_cons_some hfirst,
      List.filterMap_map]
    exact congrArg (turn :: ·) ih

variable {turns : List Turn} {start finish : Catalog} {trace : List Move}

/-- A turn calls the link types at most once, so that no turn stands in the order twice. -/
theorem Interleaving.nodup_accessOrder (h : Interleaving turns start trace finish) :
    (accessOrder trace).Nodup := by
  refine List.nodup_iff_count_le_one.2 fun owner => ?_
  rw [count_accessOrder]
  cases hturn : turns[owner]? with
  | some turn =>
    obtain ⟨rest, value, hdialogue⟩ := h.begun owner turn hturn
    have hwhole := Turn.length_accesses_le_one hdialogue
    rw [accesses_append, List.length_append] at hwhole
    omega
  | none =>
    have hnone : exchangesOf owner trace = [] := exchangesOf_eq_nil fun move hmove => by
      have hlt := h.owned move hmove
      have hge := List.getElem?_eq_none_iff.1 hturn
      omega
    simp [hnone, accesses]

theorem Interleaving.exists_isSerialOrder (h : Interleaving turns start trace finish) :
    ∃ order, IsSerialOrder turns trace order := by
  have hnodup := h.nodup_accessOrder
  have hrest : ((List.range turns.length).filter fun owner => owner ∉ accessOrder trace).Nodup :=
    List.nodup_range.filter _
  refine ⟨accessOrder trace ++
    (List.range turns.length).filter fun owner => owner ∉ accessOrder trace, ?_,
    List.sublist_append_left _ _⟩
  rw [List.perm_ext_iff_of_nodup _ List.nodup_range]
  · intro owner
    have hlt : owner ∈ accessOrder trace → owner < turns.length := by
      intro howner
      obtain ⟨move, hmove, rfl⟩ := List.mem_map.1 howner
      exact h.owned move (List.mem_of_mem_filter hmove)
    by_cases howner : owner ∈ accessOrder trace <;> simp [howner, hlt]
  · refine List.nodup_append.2 ⟨hnodup, hrest, ?_⟩
    rintro owner howner _ hother rfl
    simp [howner] at hother

-- ════════════════════════════════════════════════════════════════════════
-- Serial runs
-- ════════════════════════════════════════════════════════════════════════

/-- A turn that has the catalog to itself when it calls the link types. -/
theorem Turn.run_of_accesses {turn : Turn} {base catalog after : Catalog}
    {exchanges : List Exchange} {answer : Except Failure (Response Document)}
    (hsame : catalog.SameRelated base) (hdialogue : turn.program.Dialogue exchanges answer)
    (hlookups : base.AnswersLookups exchanges)
    (haccesses : catalog.Performs (accesses exchanges) after) :
    turn.answer catalog = answer ∧ turn.after catalog = after :=
  Program.run_of_dialogue hdialogue (hsame.performs hlookups haccesses)

/-- The moves of the first turn of an order come first, if it has any. -/
theorem exists_split_of_sublist {moves : List Move} {head : Nat} {order : List Nat}
    (hhead : head ∉ order) (hsublist : (moves.map Move.owner).Sublist (head :: order))
    (hperforms : start.Performs (moves.map Move.exchange) finish) :
    ∃ next rest, start.Performs (exchangesOf head moves) next ∧
      next.Performs (rest.map Move.exchange) finish ∧ (rest.map Move.owner).Sublist order ∧
      ∀ other ∈ order, exchangesOf other rest = exchangesOf other moves := by
  rcases List.sublist_cons_iff.1 hsublist with hsub | ⟨owners, howners, hsub⟩
  · have hnone : exchangesOf head moves = [] := exchangesOf_eq_nil fun move hmove howner =>
      hhead (howner ▸ hsub.subset (List.mem_map_of_mem hmove))
    exact ⟨start, moves, by rw [hnone]; rfl, hperforms, hsub, fun _ _ => rfl⟩
  · cases moves with
    | nil => cases howners
    | cons move rest =>
      obtain ⟨hmove, hrest⟩ := List.cons.inj howners
      have hnone : exchangesOf head rest = [] := exchangesOf_eq_nil fun other hother howner =>
        hhead (howner ▸ hsub.subset (hrest ▸ List.mem_map_of_mem hother))
      have hown : exchangesOf head (move :: rest) = [move.exchange] := by
        rw [exchangesOf_cons_of_eq hmove, hnone]
      refine ⟨(move.exchange.call.perform start).2, rest, ?_, hperforms.2, hrest ▸ hsub,
        fun other hother => ?_⟩
      · rw [hown]
        exact ⟨hperforms.1, rfl⟩
      · have hne : move.owner ≠ other := fun howner => hhead (hmove ▸ howner ▸ hother)
        exact (exchangesOf_cons_of_ne hne rest).symm

/-- **Serial runs.** Turns whose calls to the link types were made in some order run one after the
    other in that order with the same answers, and leave the same catalog behind. -/
theorem serial_of_accesses (made : Nat → List Exchange) {base : Catalog} {order : List Nat}
    {moves : List Move} (hsame : start.SameRelated base) (hnodup : order.Nodup)
    (hsublist : (moves.map Move.owner).Sublist order)
    (hperforms : start.Performs (moves.map Move.exchange) finish)
    (hmade : ∀ owner ∈ order, accesses (made owner) = exchangesOf owner moves ∧
      base.AnswersLookups (made owner) ∧
      ∃ turn answer, turns[owner]? = some turn ∧ turn.program.Dialogue (made owner) answer) :
    start.afterTurns (inOrder turns order) = finish ∧
      ∀ before owner after turn answer, order = before ++ owner :: after →
        turns[owner]? = some turn → turn.program.Dialogue (made owner) answer →
        turn.answer (start.afterTurns (inOrder turns before)) = answer := by
  -- Induction on the order: the first turn makes the first call that is left, if it makes one, and
  -- its look-ups may be made then, since no call changes categories and spaces.
  induction order generalizing start moves with
  | nil =>
    obtain rfl : moves = [] := List.map_eq_nil_iff.1 (List.sublist_nil.1 hsublist)
    refine ⟨hperforms.symm, fun before owner after turn answer horder => ?_⟩
    simp at horder
  | cons head order ih =>
    obtain ⟨hhead, hnodup⟩ := List.nodup_cons.1 hnodup
    obtain ⟨haccesses, hlookups, turn, answer, hturn, hdialogue⟩ := hmade head (by simp)
    obtain ⟨next, rest, hown, hrest, hsub, hothers⟩ :=
      exists_split_of_sublist hhead hsublist hperforms
    rw [← haccesses] at hown
    obtain ⟨-, hafter⟩ := Turn.run_of_accesses hsame hdialogue hlookups hown
    have hnext : next.SameRelated base := hsame.of_performs hown
    have hfirst : ∀ others, inOrder turns (head :: others) = turn :: inOrder turns others :=
      fun others => by simp [inOrder, hturn]
    obtain ⟨hfinish, hanswers⟩ := ih hnext hnodup hsub hrest fun owner howner => by
      obtain ⟨hrestAccesses, hrest⟩ := hmade owner (List.mem_cons_of_mem _ howner)
      exact ⟨hrestAccesses.trans (hothers owner howner).symm, hrest⟩
    refine ⟨?_, fun before owner after other given horder hother hgiven => ?_⟩
    · rw [hfirst, ← hfinish, ← hafter]
      rfl
    · cases before with
      | nil =>
        obtain ⟨rfl, -⟩ := List.cons.inj horder
        obtain rfl : turn = other := Option.some.inj (hturn.symm.trans hother)
        exact (Turn.run_of_accesses hsame hgiven hlookups hown).1
      | cons first before =>
        obtain ⟨rfl, hbefore⟩ := List.cons.inj horder
        have hanswer := hanswers before owner after other given hbefore hother hgiven
        rw [hfirst, ← hanswer, ← hafter]
        rfl

-- ════════════════════════════════════════════════════════════════════════
-- Interleavings
-- ════════════════════════════════════════════════════════════════════════

theorem IsSerialOrder.nodup {order : List Nat} (h : IsSerialOrder turns trace order) :
    order.Nodup :=
  h.complete.nodup_iff.2 List.nodup_range

theorem IsSerialOrder.perm_inOrder {order : List Nat} (h : IsSerialOrder turns trace order) :
    (inOrder turns order).Perm turns := by
  have hperm := h.complete.filterMap fun owner => turns[owner]?
  rwa [← inOrder, ← inOrder, inOrder_range] at hperm

theorem Interleaving.afterTurns_of_serialOrder (h : Interleaving turns start trace finish)
    (hcomplete : IsComplete turns trace) {order : List Nat}
    (horder : IsSerialOrder turns trace order) :
    start.afterTurns (inOrder turns order) = finish ∧
      ∀ before owner after turn answer, order = before ++ owner :: after →
        Answered turns trace owner turn answer →
        turn.answer (start.afterTurns (inOrder turns before)) = answer := by
  have hsame : start.SameRelated start := ⟨rfl, rfl⟩
  have hperforms := Catalog.performs_accesses h.performed
  rw [← map_exchange_accessMoves] at hperforms
  have hlookups := hsame.answersLookups h.performed
  obtain ⟨hfinish, hanswers⟩ := serial_of_accesses (fun owner => exchangesOf owner trace)
    hsame horder.nodup horder.agrees hperforms fun owner howner => by
      have hlt : owner < turns.length := List.mem_range.1 (horder.complete.subset howner)
      obtain ⟨answer, hturn, hdialogue⟩ := hcomplete owner turns[owner]
        (List.getElem?_eq_getElem hlt)
      refine ⟨(exchangesOf_accessMoves owner trace).symm, fun exchange hexchange => ?_,
        turns[owner], answer, hturn, hdialogue⟩
      obtain ⟨move, hmove, rfl⟩ := List.mem_map.1 hexchange
      exact hlookups _ (List.mem_map_of_mem (List.mem_of_mem_filter hmove))
  exact ⟨hfinish, fun before owner after turn answer hsplit hanswered =>
    hanswers before owner after turn answer hsplit hanswered.1 hanswered.2⟩

/-- Of two updates from one version of a row, the one that comes second in a serial order fails. -/
theorem Interleaving.not_updatedAt_of_updatedAt (h : Interleaving turns start trace finish)
    (hcomplete : IsComplete turns trace) {order before between after : List Nat}
    (horder : IsSerialOrder turns trace order) {first second : Nat}
    (hsplit : order = before ++ first :: (between ++ second :: after)) {id : Uuid} {version : Int32}
    (hcreation : ∀ turn ∈ turns, ¬ turn.command.IsCreation)
    (hothers : turns.countP (fun turn => turn.command.revisesOther id version) + 1 < UInt32.size)
    (hfirst : UpdatedAt turns trace first id version) :
    ¬ UpdatedAt turns trace second id version := by
  rintro ⟨turn', request', payload', spaceId', identity', response', hcommand', hid', hversion',
    hanswered'⟩
  obtain ⟨turn, request, payload, spaceId, identity, response, hcommand, hid, hversion,
    hanswered⟩ := hfirst
  obtain ⟨-, hanswers⟩ := h.afterTurns_of_serialOrder hcomplete horder
  have hanswer := hanswers before first _ turn _ hsplit hanswered
  have hsplit' : order = (before ++ first :: between) ++ second :: after := by simp [hsplit]
  have hanswer' := hanswers _ second _ turn' _ hsplit' hanswered'
  obtain ⟨-, hahead⟩ := turn.isAhead_of_update hcommand hid hversion hanswer
  obtain ⟨⟨stored, hstored, hsame⟩, -⟩ := turn'.isAhead_of_update hcommand' hid' hversion' hanswer'
  -- The turns in between are some of all the turns.
  have hsub : (inOrder turns between).Sublist (inOrder turns order) := by
    rw [hsplit]
    refine List.Sublist.filterMap _ ?_
    exact ((List.sublist_append_left between _).cons _).trans (List.sublist_append_right before _)
  have hcount : (inOrder turns between).countP (fun turn => turn.command.revisesOther id version) ≤
      turns.countP fun turn => turn.command.revisesOther id version :=
    (hsub.countP_le).trans_eq (horder.perm_inOrder.countP_eq _)
  have hbetween := hahead.afterTurns
    (fun other hother => hcreation other (horder.perm_inOrder.subset (hsub.subset hother)))
    (by omega)
  have hturns : inOrder turns (before ++ first :: between) =
      inOrder turns before ++ turn :: inOrder turns between := by
    simp [inOrder, hanswered.1]
  rw [hturns, Catalog.afterTurns, List.foldl_append] at hstored
  exact hbetween.version_ne (by omega) hstored hsame

/-- **Linearizability.** Turns that use one catalog at the same time and have all come to their ends
    are answered as if they had run one after the other, and leave the same catalog behind. The
    order is that of their calls to the link types; turns without such a call may stand anywhere.

    Of the updates from one version of a row, at most one succeeds, unless rows are created at the
    same time, or there are so many updates from other versions that the versions come round. -/
theorem Interleaving.linearizable (h : Interleaving turns start trace finish)
    (hcomplete : IsComplete turns trace) :
    (∃ order, IsSerialOrder turns trace order) ∧
      (∀ order, IsSerialOrder turns trace order →
        start.afterTurns (inOrder turns order) = finish ∧
          ∀ before owner after turn answer, order = before ++ owner :: after →
            Answered turns trace owner turn answer →
            turn.answer (start.afterTurns (inOrder turns before)) = answer) ∧
      ∀ id version, (∀ turn ∈ turns, ¬ turn.command.IsCreation) →
        turns.countP (fun turn => turn.command.revisesOther id version) + 1 < UInt32.size →
        ∀ first second, UpdatedAt turns trace first id version →
          UpdatedAt turns trace second id version → first = second := by
  obtain ⟨order, horder⟩ := h.exists_isSerialOrder
  refine ⟨⟨order, horder⟩, fun other hother => h.afterTurns_of_serialOrder hcomplete hother,
    fun id version hcreation hothers first second hfirst hsecond => ?_⟩
  have hmem : ∀ {owner}, UpdatedAt turns trace owner id version → owner ∈ order := by
    rintro owner ⟨turn, -, -, -, -, -, -, -, -, hturn, -⟩
    have hlt := (List.getElem?_eq_some_iff.1 hturn).1
    exact horder.complete.mem_iff.2 (List.mem_range.2 hlt)
  obtain ⟨before, after, hsplit⟩ := List.append_of_mem (hmem hfirst)
  have hsecondMem := hmem hsecond
  rw [hsplit, List.mem_append, List.mem_cons] at hsecondMem
  rcases hsecondMem with hbefore | rfl | hafter
  · obtain ⟨earlier, between, rfl⟩ := List.append_of_mem hbefore
    rw [List.append_assoc, List.cons_append] at hsplit
    exact absurd hfirst
      (h.not_updatedAt_of_updatedAt hcomplete horder hsplit hcreation hothers hsecond)
  · rfl
  · obtain ⟨between, later, rfl⟩ := List.append_of_mem hafter
    exact absurd hsecond
      (h.not_updatedAt_of_updatedAt hcomplete horder hsplit hcreation hothers hfirst)

/-- The row for examples is saved under a name that another turn for it does not choose. -/
def Turn.sampleRival : Turn :=
  .sample (.update .sample (.sample { LinkType.sample with name := "Barrier" }) Space.sample.id
    (some ⟨6⟩))

/-- Two clients rename the row for examples while a third one looks at it. -/
def Turn.sampleRace : List Turn :=
  [.sampleRename, .sampleRival, .sampleDisplay]

/-- Both renames look up what the row refers to before either of them saves it, and the row is read
    before that and shown after it. -/
def Execution.sampleRace : Execution (Except Failure (Response Document)) :=
  Catalog.sample.execute (Turn.sampleRace.map Turn.program) [0, 1, 2, 1, 0, 1, 0, 2, 2]

theorem Execution.isComplete_sampleRace : IsComplete Turn.sampleRace sampleRace.trace := by
  have hover : ∀ owner < 3, (sampleRace.programs[owner]?.bind Program.result?).isSome = true := by
    decide +kernel
  intro owner turn hturn
  have hlt : owner < 3 := (List.getElem?_eq_some_iff.1 hturn).1
  obtain ⟨answer, hanswer⟩ := Option.isSome_iff_exists.1 (hover owner hlt)
  exact ⟨answer, answered_execute _ _ _ hturn hanswer⟩

theorem Execution.updatedAt_sampleRace :
    UpdatedAt Turn.sampleRace sampleRace.trace 1 LinkType.sample.id 0 := by
  have hok : ((sampleRace.programs[1]?.bind Program.result?).any Except.isOk) = true := by
    decide +kernel
  obtain ⟨answer, hanswer, hok⟩ := (Option.any_eq_true _ _).1 hok
  obtain ⟨response, rfl⟩ := Failure.exists_of_isOk hok
  exact ⟨.sampleRival, _, _, _, _, response, rfl, rfl, rfl, answered_execute _ _ _ rfl hanswer⟩

/-- The row is shown, one rename succeeds and the other fails, as if they had come in this order. -/
theorem Interleaving.linearizable_sampleRace :
    Interleaving Turn.sampleRace .sample Execution.sampleRace.trace Execution.sampleRace.catalog ∧
      IsComplete Turn.sampleRace Execution.sampleRace.trace ∧
      IsSerialOrder Turn.sampleRace Execution.sampleRace.trace [2, 1, 0] ∧
      Catalog.sample.afterTurns [.sampleDisplay, .sampleRival, .sampleRename] =
        Execution.sampleRace.catalog ∧
      UpdatedAt Turn.sampleRace Execution.sampleRace.trace 1 LinkType.sample.id 0 ∧
      ¬ UpdatedAt Turn.sampleRace Execution.sampleRace.trace 0 LinkType.sample.id 0 := by
  have hinterleaving := interleaving_execute .sample Turn.sampleRace [0, 1, 2, 1, 0, 1, 0, 2, 2]
  have hcomplete := Execution.isComplete_sampleRace
  have hupdated := Execution.updatedAt_sampleRace
  have haccesses : accessOrder Execution.sampleRace.trace = [2, 1, 0] := by decide +kernel
  have horder : IsSerialOrder Turn.sampleRace Execution.sampleRace.trace [2, 1, 0] := by
    refine ⟨by decide, ?_⟩
    rw [haccesses]
  have hcreation : ∀ turn ∈ Turn.sampleRace, ¬ turn.command.IsCreation := by
    simp [Turn.sampleRace, Turn.sampleRename, Turn.sampleRival, Turn.sampleDisplay, Turn.sample,
      Command.IsCreation]
  have hothers : Turn.sampleRace.countP
      (fun turn => turn.command.revisesOther LinkType.sample.id 0) + 1 < UInt32.size := by
    decide +kernel
  obtain ⟨-, hserial, honce⟩ := linearizable hinterleaving hcomplete
  refine ⟨hinterleaving, hcomplete, horder, (hserial _ horder).1, hupdated, fun hfirst => ?_⟩
  exact absurd (honce _ _ hcreation hothers 0 1 hfirst hupdated) (by decide)

end LinkCatalog
