import LinkCatalog.Proofs.Program.Counting
import LinkCatalog.Proofs.Service.Integrity
import LinkCatalog.Proofs.Service.Interleaving
import LinkCatalog.Proofs.Telemetry

/-!
# What the counters of the service count

Every turn raises the counter of its action once, and a failed one that of its status. These two are
raised when the answer is known. The counter of copies that are current is raised within the action,
before the answer is written: if the cache policy cannot stand in a header field, the client is
answered with a failure instead, and the counter has been raised all the same.

Turns are taken together with what passes between them and the catalog, whatever that is. So it
makes no difference whether they run one after the other or at the same time.

## Main definitions

- `Handling` — a turn with what the catalog has answered it, its counters and its answer
- `Revalidation` — the copy of a client, and what a read compares it with
- `Counted` — the counters that an action raises, and how it is answered

## Main statements

- `Handling.raised_eq` — the counters of one turn
- `Handling.reading_counters` — the counters of a run
- `Handling.reading_notModified_of_hasPolicies` — with policies that can be sent, all current copies
  are answered as such
-/

namespace LinkCatalog

/-- A turn that has come to its end, with what passed between it and the catalog. -/
structure Handling where
  turn : Turn
  exchanges : List Exchange
  /-- The counters that it has raised, in order and with repetitions. -/
  raised : List Series
  answer : Except Failure (Response Document)
  raises : turn.program.Raises exchanges raised answer

/-- A turn that has the catalog to itself. -/
def Turn.handling (turn : Turn) (catalog : Catalog) : Handling :=
  { turn
    exchanges := turn.program.exchanges catalog
    raised := Signal.raised (turn.program.run catalog).signals
    answer := turn.answer catalog
    raises := turn.program.raises_run catalog }

/-- A turn among others that use the catalog at the same time. -/
theorem Answered.exists_handling {turns : List Turn} {trace : List Move} {owner : Nat} {turn : Turn}
    {answer : Except Failure (Response Document)} (h : Answered turns trace owner turn answer) :
    ∃ handling : Handling, handling.turn = turn ∧
      handling.exchanges = exchangesOf owner trace ∧ handling.answer = answer := by
  obtain ⟨raised, hraises⟩ := Program.dialogue_iff_exists_raises.1 h.2
  exact ⟨⟨turn, exchangesOf owner trace, raised, answer, hraises⟩, rfl, rfl, rfl⟩

-- ════════════════════════════════════════════════════════════════════════
-- Current copies
-- ════════════════════════════════════════════════════════════════════════

/-- The copy of a client, as the fields of its request describe it, and the validators of what a
    read has found. -/
structure Revalidation where
  headers : Headers
  validators : Validators

/-- The copy of the client is current. -/
def Revalidation.isCurrent (revalidation : Revalidation) : Bool :=
  revalidation.validators.isNotModified revalidation.headers

/-- The copy of the client is current, but the client cannot be told so: the cache policy is no
    value of a header field. -/
def Revalidation.isWithheld (revalidation : Revalidation) : Bool :=
  revalidation.isCurrent && (HeaderValue.ofText? revalidation.validators.cacheControl).isNone

theorem Revalidation.isWithheld_of_isSome {revalidation : Revalidation}
    (h : (HeaderValue.ofText? revalidation.validators.cacheControl).isSome) :
    revalidation.isWithheld = false := by
  rw [isWithheld, Option.isNone_eq_false_iff.2 h, Bool.and_false]

/-- What a turn compares with the copy of its client. Only reads do so, and only if they have found
    what they ask for. -/
def Turn.revalidation? (turn : Turn) (exchanges : List Exchange) : Option Revalidation :=
  match turn.command with
  | .display request _ _ =>
    match exchanges with
    | ⟨.loadLinkType _, .ok row⟩ :: _ =>
      some ⟨request.headers, .ofStamps [row.stamp] turn.settings.singleCacheControl⟩
    | _ => none
  | .list request _ =>
    match exchanges with
    | ⟨.linkTypesOf _, rows⟩ :: _ =>
      some ⟨request.headers, .ofStamps (rows.map LinkType.stamp) turn.settings.listCacheControl⟩
    | _ => none
  | _ => none

/-- The answer is a response with the given status. -/
def answeredWith {α : Type} (status : Status) : Except Failure (Response α) → Bool
  | .ok response => response.status = status
  | .error _ => false

/-- The answer is a failure with the given status. -/
def failedWith {α : Type} (status : Status) : Except Failure (Response α) → Bool
  | .ok _ => false
  | .error failure => failure.status = status

/-- The counters that an action raises, and how it is answered. That a copy is current is counted
    whether or not the client can be told so. -/
inductive Counted {α : Type} (revalidation : Option Revalidation) (name : String) :
    List Series → Except Failure (Response α) → Prop where
  | plain {value : Except Failure (Response α)}
      (hcurrent : revalidation.any Revalidation.isCurrent = false)
      (hvalue : answeredWith .notModified value = false) : Counted revalidation name [] value
  | told {response : Response α} (hcurrent : revalidation.any Revalidation.isCurrent = true)
      (hwithheld : revalidation.any Revalidation.isWithheld = false)
      (hstatus : response.status = .notModified) :
      Counted revalidation name [.notModified name] (.ok response)
  | withheld (detail : String) (hcurrent : revalidation.any Revalidation.isCurrent = true)
      (hwithheld : revalidation.any Revalidation.isWithheld = true) :
      Counted revalidation name [.notModified name] (.error (.internal detail))

theorem any_isCurrent_of_any_isWithheld {revalidation : Option Revalidation}
    (h : revalidation.any Revalidation.isWithheld = true) :
    revalidation.any Revalidation.isCurrent = true := by
  cases revalidation with
  | none => cases h
  | some revalidation => exact (Bool.and_eq_true_iff.1 h).1

theorem answeredWith_map {α β : Type} (status : Status) (change : α → β)
    (value : Except Failure (Response α)) :
    answeredWith status (value.map (Response.map change)) = answeredWith status value := by
  cases value <;> rfl

namespace Counted

variable {α β : Type} {revalidation : Option Revalidation} {name : String} {raised : List Series}
  {value : Except Failure (Response α)}

theorem map (h : Counted revalidation name raised value) (change : α → β) :
    Counted revalidation name raised (value.map (Response.map change)) := by
  cases h with
  | plain hcurrent hvalue => exact .plain hcurrent ((answeredWith_map _ _ _).trans hvalue)
  | told hcurrent hwithheld hstatus => exact .told hcurrent hwithheld hstatus
  | withheld detail hcurrent hwithheld => exact .withheld detail hcurrent hwithheld

theorem raised_eq (h : Counted revalidation name raised value) :
    raised = if revalidation.any Revalidation.isCurrent then [.notModified name] else [] := by
  cases h with
  | plain hcurrent hvalue => rw [hcurrent, if_neg Bool.false_ne_true]
  | told hcurrent hwithheld hstatus => rw [hcurrent, if_pos rfl]
  | withheld detail hcurrent hwithheld => rw [hcurrent, if_pos rfl]

/-- A copy is current if the client is told so, or cannot be told. -/
theorem isCurrent_eq (h : Counted revalidation name raised value) :
    revalidation.any Revalidation.isCurrent =
      (answeredWith .notModified value || revalidation.any Revalidation.isWithheld) := by
  cases h with
  | plain hcurrent hvalue =>
    have hwithheld : revalidation.any Revalidation.isWithheld = false := by
      rw [← Bool.not_eq_true]
      intro hwithheld
      rw [any_isCurrent_of_any_isWithheld hwithheld] at hcurrent
      cases hcurrent
    rw [hcurrent, hvalue, hwithheld]
    rfl
  | told hcurrent hwithheld hstatus =>
    rw [hcurrent, hwithheld, answeredWith, decide_eq_true hstatus]
    rfl
  | withheld detail hcurrent hwithheld =>
    rw [hcurrent, hwithheld]
    rfl

/-- A client that cannot be told is answered with a failure. -/
theorem eq_error_of_isWithheld (h : Counted revalidation name raised value)
    (hwithheld : revalidation.any Revalidation.isWithheld = true) :
    ∃ detail, value = .error (.internal detail) := by
  cases h with
  | plain hcurrent hvalue =>
    rw [any_isCurrent_of_any_isWithheld hwithheld] at hcurrent
    cases hcurrent
  | told hcurrent hnot hstatus =>
    rw [hwithheld] at hnot
    cases hnot
  | withheld detail hcurrent _ => exact ⟨detail, rfl⟩

end Counted

-- ════════════════════════════════════════════════════════════════════════
-- The counters of each action
-- ════════════════════════════════════════════════════════════════════════

namespace Service

variable {α : Type} {exchanges : List Exchange} {raised : List Series}

theorem uncounted_relatedTo (request : Request) (rows : List LinkType) :
    (relatedTo request rows).Uncounted := by
  refine Action.Uncounted.bind (.mapM (fun id => ?_) _) fun categories =>
    Action.Uncounted.bind (.mapM (fun id => ?_) _) fun spaces => .pure _
  · exact .ofCall (.loadCategory id) fun answer => answer
  · exact .ofCall (.loadSpace id) fun answer => answer

/-- An action that checks, looks up, writes and logs counts nothing. -/
theorem uncounted_storing {request : Request} {checked : Except Failure LinkType}
    {store : LinkType → Action LinkType} {event : LinkType → Event}
    {respond : LinkType → List Included → Response SingleDocument}
    (hstore : ∀ row, (store row).Uncounted) :
    (do
      let row ← liftExcept checked
      let included ← relatedTo request [row]
      let stored ← store row
      Action.raise (.log (event stored))
      return respond stored included : Action (Response SingleDocument)).Uncounted :=
  .bind (.liftExcept _) fun row => .bind (uncounted_relatedTo _ _) fun _ =>
    .bind (hstore row) fun _ => .bind (.log _) fun _ => .pure _

theorem answeredWith_of_storing {request : Request} {checked : Except Failure LinkType}
    {write : LinkType → Except Failure LinkType → Exchange}
    {respond : LinkType → List Included → Response SingleDocument}
    {value : Except Failure (Response SingleDocument)}
    (h : Storing request checked write respond exchanges value)
    (hstatus : ∀ row included, (respond row included).status ≠ .notModified) :
    answeredWith .notModified value = false := by
  cases h with
  | refused hchecked => rfl
  | unrelated hchecked hlookups => rfl
  | @written row lookups included answer hchecked hlookups =>
    cases answer with
    | error failure => rfl
    | ok stored => exact decide_eq_false (hstatus stored included)

/-- A conditional answer counts a copy that is current, and then writes the answer. -/
theorem counted_of_conditional {answer : Action α} (hanswer : answer.Uncounted) {name : String}
    {stamps : List Stamp} {cacheControl : String} {request : Request}
    {value : Except Failure (Response α)}
    (h : (conditional name (.ofStamps stamps cacheControl) request answer).run.Raises
      exchanges raised value) :
    Counted (some ⟨request.headers, .ofStamps stamps cacheControl⟩) name raised value := by
  -- Only the policy decides whether there is a response; the tag need not be computed.
  have hvalidated : ∀ status (body : Option α), _ := fun status body =>
    validated_ofStamps status stamps cacheControl body
  have hcacheControl : cacheControl = (Validators.ofStamps stamps cacheControl).cacheControl := rfl
  generalize Validators.ofStamps stamps cacheControl = validators at h hvalidated hcacheControl ⊢
  subst hcacheControl
  unfold conditional at h
  cases hcurrent : validators.isNotModified request.headers with
  | true =>
    rw [hcurrent, if_pos rfl] at h
    obtain ⟨rest, rfl, hrest⟩ := h
    obtain ⟨rfl, rfl⟩ := Action.raises_liftExcept hrest
    rw [hvalidated, Validators.headerValue]
    cases hpolicy : HeaderValue.ofText? validators.cacheControl with
    | some policy =>
      refine .told hcurrent ?_ rfl
      simp [Revalidation.isWithheld, hpolicy]
    | none =>
      refine .withheld _ hcurrent ?_
      simp [Revalidation.isWithheld, Revalidation.isCurrent, hcurrent, hpolicy]
  | false =>
    rw [hcurrent, if_neg Bool.false_ne_true] at h
    rcases Action.raises_bind_cases h with ⟨failure, hfails, rfl⟩ |
      ⟨before, body, after, earlier, later, rfl, rfl, hbody, hrest⟩
    · rw [hanswer _ _ _ hfails]
      exact .plain hcurrent rfl
    · obtain ⟨rfl, rfl⟩ := Action.raises_liftExcept hrest
      rw [hanswer _ _ _ hbody, hvalidated]
      refine .plain hcurrent ?_
      cases Validators.headerValue validators.cacheControl <;> rfl

end Service

namespace Turn

open Service

variable {turn : Turn} {exchanges : List Exchange} {raised : List Series}

/-- The counters that the action of a turn raises. Actions that write count nothing themselves. -/
theorem counted_action {answer : Except Failure (Response Document)}
    (h : (turn.command.action turn.settings turn.now turn.fresh).run.Raises
      exchanges raised answer) :
    Counted (turn.revalidation? exchanges) turn.command.name raised answer := by
  obtain ⟨settings, now, fresh, command⟩ := turn
  cases command with
  | create request payload spaceId identity =>
    obtain ⟨value, hraises, rfl⟩ := Action.raises_map_cases h
    have hcourse := storing_of_create (Program.dialogue_iff_exists_raises.2 ⟨raised, hraises⟩)
    have hstatus : Status.created ≠ .notModified := by decide
    rw [create_eq] at hraises
    rw [uncounted_storing (fun row => .ofCall _ _) _ _ _ hraises]
    exact .map (.plain rfl (answeredWith_of_storing hcourse fun _ _ => hstatus)) _
  | display request spaceId id =>
    obtain ⟨value, hraises, rfl⟩ := Action.raises_map_cases h
    refine .map ?_ _
    rw [display_eq] at hraises
    rcases Action.raises_bind_cases hraises with ⟨failure, ⟨_, _, rfl, rfl, rfl, rfl⟩, rfl⟩ |
      ⟨before, row, after, earlier, later, rfl, rfl, ⟨_, _, rfl, rfl, rfl, rfl⟩, hrest⟩
    · exact .plain rfl rfl
    · exact counted_of_conditional
        (.bind (.mapFailure (uncounted_relatedTo _ _) _) fun _ => .pure _) hrest
  | list request spaceId =>
    obtain ⟨value, hraises, rfl⟩ := Action.raises_map_cases h
    refine .map ?_ _
    rw [list_eq] at hraises
    rcases Action.raises_bind_cases hraises with ⟨failure, ⟨_, _, rfl, rfl, rfl, hfails⟩, rfl⟩ |
      ⟨before, rows, after, earlier, later, rfl, rfl, ⟨_, _, rfl, rfl, rfl, hrows⟩, hrest⟩
    · cases hfails
    · cases hrows
      exact counted_of_conditional
        (.bind (.mapFailure (uncounted_relatedTo _ _) _) fun _ => .pure _) hrest
  | update request payload spaceId identity =>
    obtain ⟨value, hraises, rfl⟩ := Action.raises_map_cases h
    have hcourse := storing_of_update (Program.dialogue_iff_exists_raises.2 ⟨raised, hraises⟩)
    have hstatus : Status.ok ≠ .notModified := by decide
    rw [update_eq] at hraises
    rw [uncounted_storing (fun row => .ofCall _ _) _ _ _ hraises]
    exact .map (.plain rfl (answeredWith_of_storing hcourse fun _ _ => hstatus)) _
  | delete spaceId id =>
    obtain ⟨value, hraises, rfl⟩ := Action.raises_map_cases h
    have hcourse := deleting_of_delete (Program.dialogue_iff_exists_raises.2 ⟨raised, hraises⟩)
    have huncounted : (Service.delete settings spaceId id).Uncounted := by
      unfold Service.delete
      rw [checkMutations_eq]
      exact .bind (.liftExcept _) fun _ => .bind (.ofCall _ _) fun _ => .bind (.log _) fun _ =>
        .pure _
    rw [huncounted _ _ _ hraises]
    refine .map (.plain rfl ?_) _
    cases hcourse with
    | refused hallowed => rfl
    | written answer hallowed => cases answer <;> rfl

end Turn

/-- An action is followed by the counters of its end. -/
theorem Service.raises_observed {α : Type} {name : String} {action : Action α}
    {exchanges : List Exchange} {raised : List Series} {value : Except Failure α}
    (h : (observed name action).Raises exchanges raised value) :
    ∃ within, raised = within ++ Signal.raised (closingSignals name value) ∧
      action.run.Raises exchanges within value := by
  unfold observed at h
  obtain ⟨before, result, after, within, closing, rfl, rfl, haction, hclosing⟩ :=
    Program.raises_bind_cases h
  cases result with
  | ok result =>
    obtain ⟨_, rfl, rfl, rfl, rfl⟩ := hclosing
    exact ⟨within, rfl, by simpa using haction⟩
  | error failure =>
    obtain ⟨_, rfl, _, rfl, _, rfl, rfl, rfl, rfl⟩ := hclosing
    exact ⟨within, rfl, by simpa using haction⟩

namespace Handling

/-- The name of the action. -/
def name (handling : Handling) : String :=
  handling.turn.command.name

/-- The copy of the client is current. -/
def isCurrent (handling : Handling) : Bool :=
  (handling.turn.revalidation? handling.exchanges).any Revalidation.isCurrent

/-- The copy of the client is current, but the client cannot be told so. -/
def isWithheld (handling : Handling) : Bool :=
  (handling.turn.revalidation? handling.exchanges).any Revalidation.isWithheld

/-- The response says that the copy of the client is current. -/
def isTold (handling : Handling) : Bool :=
  answeredWith .notModified handling.answer

/-- The counters of a turn are those of its action and those of its end. -/
theorem exists_counted (handling : Handling) : ∃ within,
    handling.raised =
        within ++ Signal.raised (Service.closingSignals handling.name handling.answer) ∧
      Counted (handling.turn.revalidation? handling.exchanges) handling.name within
        handling.answer := by
  obtain ⟨within, hraised, haction⟩ := Service.raises_observed handling.raises
  exact ⟨within, hraised, Turn.counted_action haction⟩

/-- The counters of a turn. -/
theorem raised_eq (handling : Handling) :
    handling.raised = (if handling.isCurrent then [.notModified handling.name] else []) ++
      Signal.raised (Service.closingSignals handling.name handling.answer) := by
  obtain ⟨within, hraised, hcounted⟩ := handling.exists_counted
  rw [hraised, hcounted.raised_eq]
  rfl

theorem isCurrent_eq (handling : Handling) :
    handling.isCurrent = (handling.isTold || handling.isWithheld) := by
  obtain ⟨within, -, hcounted⟩ := handling.exists_counted
  exact hcounted.isCurrent_eq

theorem eq_error_of_isWithheld {handling : Handling} (h : handling.isWithheld = true) :
    ∃ detail, handling.answer = .error (.internal detail) := by
  obtain ⟨within, -, hcounted⟩ := handling.exists_counted
  exact hcounted.eq_error_of_isWithheld h

/-- A client can be told if both policies can be sent. -/
theorem isWithheld_of_hasPolicies {handling : Handling} (h : handling.turn.settings.HasPolicies) :
    handling.isWithheld = false := by
  unfold isWithheld Turn.revalidation?
  split
  · split
    · exact Revalidation.isWithheld_of_isSome h.1
    · rfl
  · split
    · exact Revalidation.isWithheld_of_isSome h.2
    · rfl
  · rfl

theorem isTold_of_isWithheld {handling : Handling} (h : handling.isWithheld = true) :
    handling.isTold = false := by
  obtain ⟨detail, hanswer⟩ := eq_error_of_isWithheld h
  rw [isTold, hanswer]
  rfl

-- ════════════════════════════════════════════════════════════════════════
-- The counters of a run
-- ════════════════════════════════════════════════════════════════════════

variable {handlings : List Handling} {handling : Handling}

/-- Whether a turn raises a counter. -/
def touches (handling : Handling) : Series → Bool
  | .requests action => handling.name = action
  | .notModified action => handling.name = action ∧ handling.isCurrent
  | .errors action status => handling.name = action ∧ failedWith status handling.answer

/-- A turn raises no counter twice. -/
theorem count_raised (handling : Handling) (series : Series) :
    handling.raised.count series = if handling.touches series then 1 else 0 := by
  rw [raised_eq]
  cases hcurrent : handling.isCurrent <;> cases hanswer : handling.answer <;> cases series <;>
    simp [touches, hcurrent, hanswer, failedWith, Signal.raised, Service.closingSignals,
      List.count_cons]

/-- Of the turns whose clients have current copies, some are told so and the others cannot be. -/
theorem countP_isCurrent (action : String) (handlings : List Handling) :
    handlings.countP (fun handling => handling.name = action ∧ handling.isCurrent) =
      handlings.countP (fun handling => handling.name = action ∧ handling.isTold) +
        handlings.countP (fun handling => handling.name = action ∧ handling.isWithheld) := by
  induction handlings with
  | nil => rfl
  | cons handling handlings ih =>
    have hcurrent := handling.isCurrent_eq
    have htold := handling.isTold_of_isWithheld
    simp only [List.countP_cons, ih]
    cases hwithheld : handling.isWithheld with
    | true =>
      rw [hwithheld, Bool.or_true] at hcurrent
      simp only [hcurrent, htold hwithheld, and_true, Bool.false_eq_true, and_false, decide_false,
        if_false]
      omega
    | false =>
      rw [hwithheld, Bool.or_false] at hcurrent
      simp only [hcurrent, Bool.false_eq_true, and_false, decide_false, if_false]
      omega

section Readings

variable {recorded : List Series} (hrecorded : recorded.Perm (handlings.flatMap Handling.raised))

include hrecorded

/-- What is shown for a counter is the number of turns that raise it. -/
theorem reading_eq_countP (series : Series) :
    Series.reading recorded series.name series.labels =
      handlings.countP fun handling => handling.touches series := by
  rw [Series.reading_eq_count, hrecorded.count_eq]
  clear hrecorded
  induction handlings with
  | nil => rfl
  | cons handling handlings ih =>
    rw [List.flatMap_cons, List.count_append, count_raised, ih, List.countP_cons, Nat.add_comm]

theorem reading_notModified (action : String) :
    Series.reading recorded "wit_link_type_not_modified_total" [("action", action)] =
      handlings.countP (fun handling => handling.name = action ∧ handling.isTold) +
        handlings.countP (fun handling => handling.name = action ∧ handling.isWithheld) := by
  rw [← countP_isCurrent]
  exact reading_eq_countP hrecorded (.notModified action)

/-- With policies that can be sent, the counter of current copies counts the clients that are told
    so. -/
theorem reading_notModified_of_hasPolicies
    (hpolicies : ∀ handling ∈ handlings, handling.turn.settings.HasPolicies) (action : String) :
    Series.reading recorded "wit_link_type_not_modified_total" [("action", action)] =
      handlings.countP fun handling => handling.name = action ∧ handling.isTold := by
  have hnone : handlings.countP
      (fun handling => handling.name = action ∧ handling.isWithheld) = 0 := by
    rw [List.countP_eq_zero]
    intro handling hhandling
    simp [isWithheld_of_hasPolicies (hpolicies handling hhandling)]
  rw [reading_notModified hrecorded, hnone, Nat.add_zero]

/-- The counters that are shown belong to the actions of the run. -/
theorem exists_of_mem_tally {series : Series} {n : Nat} (h : (series, n) ∈ Series.tally recorded) :
    ∃ handling ∈ handlings, series = .requests handling.name ∨
      series = .notModified handling.name ∨ ∃ status, series = .errors handling.name status := by
  have hraised := hrecorded.mem_iff.1 (Series.mem_tally_iff.1 h).1
  obtain ⟨handling, hhandling, hseries⟩ := List.mem_flatMap.1 hraised
  refine ⟨handling, hhandling, ?_⟩
  have htouches : handling.touches series = true := by
    have hcount := List.count_pos_iff.2 hseries
    rw [count_raised] at hcount
    by_contra hnot
    rw [if_neg hnot] at hcount
    exact Nat.lt_irrefl 0 hcount
  cases series with
  | requests action => exact .inl (congrArg _ (of_decide_eq_true htouches).symm)
  | notModified action => exact .inr (.inl (congrArg _ (of_decide_eq_true htouches).1.symm))
  | errors action status =>
    exact .inr (.inr ⟨status, by rw [(of_decide_eq_true htouches).1]⟩)

end Readings

/-- **Counters.** In whatever order the counters of some turns are recorded, they count the turns of
    each action, and those that fail with each status. The counter of current copies counts the
    clients that are told so, and also those that are answered with a failure because the cache
    policy cannot be sent. No other counters are raised, and nothing of this changes an answer. -/
theorem reading_counters {recorded : List Series} (handlings : List Handling)
    (hrecorded : recorded.Perm (handlings.flatMap Handling.raised)) (action : String)
    (status : Status) :
    Series.reading recorded "wit_link_type_requests_total" [("action", action)] =
        handlings.countP (fun handling => handling.name = action) ∧
      Series.reading recorded "wit_link_type_errors_total"
          [("action", action), ("status", status.toText)] =
        handlings.countP (fun handling =>
          handling.name = action ∧ failedWith status handling.answer) ∧
      Series.reading recorded "wit_link_type_not_modified_total" [("action", action)] =
        handlings.countP (fun handling => handling.name = action ∧ handling.isTold) +
          handlings.countP (fun handling => handling.name = action ∧ handling.isWithheld) ∧
      (∀ handling : Handling, handling.isWithheld →
        ∃ detail, handling.answer = .error (.internal detail)) ∧
      (∀ series n, (series, n) ∈ Series.tally recorded → ∃ handling ∈ handlings,
        series = .requests handling.name ∨ series = .notModified handling.name ∨
          ∃ status, series = .errors handling.name status) ∧
      ∀ (turn : Turn) exchanges answer,
        turn.program.silent.Dialogue exchanges answer ↔ turn.program.Dialogue exchanges answer := by
  refine ⟨?_, ?_, reading_notModified hrecorded action, ?_, ?_, ?_⟩
  · exact reading_eq_countP hrecorded (.requests action)
  · exact reading_eq_countP hrecorded (.errors action status)
  · intro handling
    exact eq_error_of_isWithheld
  · intro series n
    exact exists_of_mem_tally hrecorded
  · intro turn exchanges answer
    exact Program.dialogue_silent_iff

end Handling

/-- A client has a current copy of the row for examples, and the cache policy has a line feed in
    it. -/
def Turn.sampleUnsendable : Turn :=
  { Turn.sample (.display
      { Request.sample with headers := Headers.empty.insert "if-none-match" [0x2a] }
      Space.sample.id LinkType.sample.id) with
    settings := { singleCacheControl := "private\nmax-age=2" } }

/-- The counter of current copies shows one, but the client has been answered with a failure. -/
theorem Handling.reading_counters_sampleUnsendable :
    ∃ detail, Turn.sampleUnsendable.answer .sample = .error (.internal detail) ∧
      Series.reading (Turn.sampleUnsendable.handling .sample).raised
        "wit_link_type_not_modified_total" [("action", "show")] = 1 ∧
      Series.reading (Turn.sampleUnsendable.handling .sample).raised
        "wit_link_type_errors_total" [("action", "show"), ("status", "500")] = 1 := by
  have hperm : (Turn.sampleUnsendable.handling .sample).raised.Perm
      ([Turn.sampleUnsendable.handling .sample].flatMap Handling.raised) := by
    rw [List.flatMap_singleton]
  have hname : (Turn.sampleUnsendable.handling .sample).name = "show" := rfl
  have hwithheld : (Turn.sampleUnsendable.handling .sample).isWithheld = true := by
    decide +kernel
  obtain ⟨-, herrors, hnotModified, hfails, -⟩ :=
    reading_counters [Turn.sampleUnsendable.handling .sample] hperm "show" .internalServerError
  obtain ⟨detail, hanswer⟩ := hfails _ hwithheld
  have htold := isTold_of_isWithheld hwithheld
  have hfailed : failedWith .internalServerError (Turn.sampleUnsendable.handling .sample).answer =
      true := by
    rw [hanswer]
    rfl
  refine ⟨detail, hanswer, hnotModified.trans ?_, herrors.trans ?_⟩
  · simp only [List.countP_singleton, hname, htold, hwithheld, true_and, decide_true,
      Bool.false_eq_true, decide_false, if_true, if_false, Nat.zero_add]
  · simp only [List.countP_singleton, hname, hfailed, true_and, decide_true, if_true]

end LinkCatalog
