import LinkCatalog.Proofs.Http.ValidatorFields
import LinkCatalog.Proofs.Program.Evaluation
import LinkCatalog.Proofs.Service.Effects

/-!
# Answers to reads

A read leaves the catalog as it is, so that its answer is a function of the catalog. Showing one
link type and listing those of a space are the same with different rows: the rows are looked up,
their validators are compared with what the client has, and unless its copy is current, what the
rows refer to is looked up as well.

## Main definitions

- `Catalog.related` — what some rows refer to
- `Subject` — what a read is about, with the rows in question
- `Subject.answer` — the answer to a read

## Main statements

- `Turn.answer_eq_of_read` — the answer of a turn that reads
- `Subject.answer_eq_ok_iff` — when there is a response, and what it looks like
- `Subject.body_of_answer` — the document in a response
- `Subject.fields_of_answer`, `Subject.status_eq_notModified_iff` — what a client sees of it
-/

namespace LinkCatalog

/-- What some rows refer to, or the failure of the first resource that is missing. -/
def Catalog.related (catalog : Catalog) (request : Request) (rows : List LinkType) :
    Except Failure (List Included) := do
  let categories ← (Uuid.sortedDistinct (rows.map LinkType.categoryId)).mapM catalog.loadCategory
  let spaces ← (Uuid.sortedDistinct (rows.map LinkType.spaceId)).mapM catalog.loadSpace
  return categories.map (.ofCategory request) ++ spaces.map (.ofSpace request)

namespace Service

variable {catalog : Catalog} {α : Type}

theorem gives_relatedTo (request : Request) (rows : List LinkType) :
    (relatedTo request rows).Gives catalog (catalog.related request rows) := by
  have hcategory : ∀ id, (Action.loadCategory id).Gives catalog (catalog.loadCategory id) :=
    fun id => Action.gives_ofCall (.loadCategory id) (fun given => given) rfl
  have hspace : ∀ id, (Action.loadSpace id).Gives catalog (catalog.loadSpace id) :=
    fun id => Action.gives_ofCall (.loadSpace id) (fun given => given) rfl
  unfold relatedTo related Catalog.related
  refine (Action.Gives.mapM hcategory _).bind fun categories _ => ?_
  refine (Action.Gives.mapM hspace _).bind fun spaces _ => ?_
  exact Action.gives_pure _

/-- The answer to a conditional request, from the body that it would have. -/
def conditionalAnswer (validators : Validators) (request : Request) (body : Except Failure α) :
    Except Failure (Response α) :=
  if validators.isNotModified request.headers then validated .notModified validators none
  else body >>= fun body => validated .ok validators (some body)

theorem gives_conditional {answer : Action α} {body : Except Failure α}
    (h : answer.Gives catalog body) (name : String) (validators : Validators) (request : Request) :
    (conditional name validators request answer).Gives catalog
      (conditionalAnswer validators request body) := by
  unfold conditional conditionalAnswer
  split
  · exact (Action.gives_raise _).bind fun _ _ => Action.gives_liftExcept _
  · exact h.bind fun _ _ => Action.gives_liftExcept _

/-- An answer gets its validators if and only if its cache policy is a value. -/
theorem validated_ofStamps (status : Status) (stamps : List Stamp) (cacheControl : String)
    (body : Option α) :
    validated status (.ofStamps stamps cacheControl) body =
      (Validators.headerValue cacheControl).map fun policy =>
        { status, headers := (Validators.ofStamps stamps cacheControl).fields policy, body } := by
  have happly := Validators.run_apply stamps cacheControl
  unfold validated
  generalize Validators.ofStamps stamps cacheControl = validators at happly ⊢
  cases hpolicy : Validators.headerValue cacheControl with
  | ok policy =>
    simp only [hpolicy] at happly
    rw [happly]
    rfl
  | error failure =>
    simp only [hpolicy] at happly
    split
    · next hok =>
      rw [hok] at happly
      cases happly
    · next herror =>
      rw [herror] at happly
      exact congrArg Except.error (Except.error.inj happly)

theorem map_conditionalAnswer {β : Type} (change : α → β) (validators : Validators)
    (request : Request) (body : Except Failure α) :
    (conditionalAnswer validators request body).map (Response.map change) =
      conditionalAnswer validators request (body.map change) := by
  have hvalidated : ∀ status (body : Option α),
      (validated status validators body).map (Response.map change) =
        validated status validators (body.map change) := by
    intro status body
    unfold validated
    cases validators.apply.run.run Headers.empty with
    | mk result headers => cases result <;> rfl
  unfold conditionalAnswer
  split
  · exact hvalidated .notModified none
  · cases body with
    | error failure => rfl
    | ok body => exact hvalidated .ok (some body)

/-- There is an answer if and only if the cache policy is a value, and the body can be had where
    it is needed. -/
theorem conditionalAnswer_eq_ok_iff {stamps : List Stamp} {cacheControl : String}
    {request : Request} {body : Except Failure α} {response : Response α} :
    conditionalAnswer (.ofStamps stamps cacheControl) request body = .ok response ↔
      ∃ policy, Validators.headerValue cacheControl = .ok policy ∧
        response.headers = (Validators.ofStamps stamps cacheControl).fields policy ∧
        if (Validators.ofStamps stamps cacheControl).isNotModified request.headers then
          response.status = .notModified ∧ response.body = none
        else response.status = .ok ∧ ∃ document, body = .ok document ∧
          response.body = some document := by
  obtain ⟨status, headers, given⟩ := response
  unfold conditionalAnswer
  split
  · simp only [validated_ofStamps, Failure.map_eq_ok_iff, Response.mk.injEq]
    constructor
    · rintro ⟨policy, hpolicy, rfl, rfl, rfl⟩
      exact ⟨policy, hpolicy, rfl, rfl, rfl⟩
    · rintro ⟨policy, hpolicy, rfl, rfl, rfl⟩
      exact ⟨policy, hpolicy, rfl, rfl, rfl⟩
  · simp only [validated_ofStamps, Failure.bind_eq_ok_iff, Failure.map_eq_ok_iff, Response.mk.injEq]
    constructor
    · rintro ⟨document, hbody, policy, hpolicy, rfl, rfl, rfl⟩
      exact ⟨policy, hpolicy, rfl, rfl, document, hbody, rfl⟩
    · rintro ⟨policy, hpolicy, rfl, rfl, document, hbody, rfl⟩
      exact ⟨document, hbody, policy, hpolicy, rfl, rfl, rfl⟩

/-- Counters and events do not change the result of an action. -/
theorem value_observed (name : String) (action : Action α) (catalog : Catalog) :
    ((observed name action).run catalog).value = (action.run.run catalog).value := by
  unfold observed
  simp only [Program.run_bind, Program.run_pure]

end Service

-- ════════════════════════════════════════════════════════════════════════
-- What a read is about
-- ════════════════════════════════════════════════════════════════════════

/-- What a read is about: one link type, seen through a space, or all of a space. -/
inductive Subject where
  | single (spaceId id : Uuid)
  | all (spaceId : Uuid)
deriving DecidableEq

namespace Subject

/-- The command that asks for the subject. -/
def command (request : Request) : Subject → Command
  | .single spaceId id => .display request spaceId id
  | .all spaceId => .list request spaceId

/-- The rows of the subject in order; none for a link type that is not stored. -/
def rows (catalog : Catalog) : Subject → List LinkType
  | .single _ id => (catalog.linkTypes.find? id).toList
  | .all spaceId => catalog.linkTypesOf spaceId

/-- The cache policy for the subject. -/
def cacheControl (settings : Settings) : Subject → String
  | .single .. => settings.singleCacheControl
  | .all _ => settings.listCacheControl

/-- The validators of an answer about the subject. -/
def validators (subject : Subject) (settings : Settings) (catalog : Catalog) : Validators :=
  .ofStamps ((subject.rows catalog).map LinkType.stamp) (subject.cacheControl settings)

/-- The rows of the subject, or the failure of a link type that is not stored. -/
def lookUp (catalog : Catalog) : Subject → Except Failure (List LinkType)
  | .single _ id => (catalog.loadLinkType id).map fun row => [row]
  | .all spaceId => .ok (catalog.linkTypesOf spaceId)

/-- The document about the rows of the subject. -/
def document (catalog : Catalog) (request : Request) (rows : List LinkType) :
    Subject → Except Failure Document
  | .single spaceId _ => do
    let included ← (catalog.related request rows).mapError (Service.notEnriched "link type")
    return .single { data := rows.head?.map (LinkType.resource request spaceId), included }
  | .all spaceId => do
    let included ← (catalog.related request rows).mapError (Service.notEnriched "link types")
    return .list { data := rows.map (LinkType.resource request spaceId)
                   included
                   totalCount := UInt64.ofNat rows.length }

/-- The answer to a request for the subject. -/
def answer (settings : Settings) (request : Request) (catalog : Catalog) (subject : Subject) :
    Except Failure (Response Document) := do
  let rows ← subject.lookUp catalog
  let validators := Validators.ofStamps (rows.map LinkType.stamp) (subject.cacheControl settings)
  Service.conditionalAnswer validators request (subject.document catalog request rows)

variable {subject : Subject} {catalog : Catalog} {settings : Settings} {request : Request}

theorem rows_of_lookUp {rows : List LinkType} (h : subject.lookUp catalog = .ok rows) :
    subject.rows catalog = rows := by
  cases subject with
  | single spaceId id =>
    simp only [lookUp, Catalog.loadLinkType] at h
    cases hfound : catalog.linkTypes.find? id with
    | none =>
      rw [hfound] at h
      cases h
    | some row =>
      rw [hfound] at h
      cases h
      rw [Subject.rows, hfound]
      rfl
  | all spaceId => exact Except.ok.inj h

theorem answer_of_missing {failure : Failure} (hrows : subject.lookUp catalog = .error failure) :
    subject.answer settings request catalog = .error failure := by
  rw [answer, hrows]
  rfl

theorem answer_of_lookUp {rows : List LinkType} (hrows : subject.lookUp catalog = .ok rows) :
    subject.answer settings request catalog =
      Service.conditionalAnswer (subject.validators settings catalog) request
        (subject.document catalog request rows) := by
  obtain rfl := rows_of_lookUp hrows
  rw [answer, hrows]
  rfl

/-- When a request for the subject is answered, and with which validators and which status. -/
theorem answer_eq_ok_iff {rows : List LinkType} {response : Response Document}
    (hrows : subject.lookUp catalog = .ok rows) :
    subject.answer settings request catalog = .ok response ↔
      ∃ policy, Validators.headerValue (subject.cacheControl settings) = .ok policy ∧
        response.headers = (subject.validators settings catalog).fields policy ∧
        if (subject.validators settings catalog).isNotModified request.headers then
          response.status = .notModified ∧ response.body = none
        else response.status = .ok ∧ ∃ document,
          subject.document catalog request rows = .ok document ∧
          response.body = some document := by
  rw [answer_of_lookUp hrows, validators, Service.conditionalAnswer_eq_ok_iff]

theorem lookUp_of_answer {response : Response Document}
    (h : subject.answer settings request catalog = .ok response) :
    subject.lookUp catalog = .ok (subject.rows catalog) := by
  obtain ⟨rows, hrows, -⟩ := Failure.bind_eq_ok_iff.1 h
  rw [hrows, rows_of_lookUp hrows]

/-- What a client sees of the validators in an answer. -/
theorem fields_of_answer {response : Response Document}
    (h : subject.answer settings request catalog = .ok response) :
    response.headers.get? "etag" =
        some (HeaderValue.bytes (subject.validators settings catalog).etag) ∧
      response.headers.get? "last-modified" =
        (subject.validators settings catalog).lastModified.map
          fun t => HeaderValue.bytes (MailDate.toText t) := by
  obtain ⟨policy, -, hheaders, -⟩ := (answer_eq_ok_iff (lookUp_of_answer h)).1 h
  rw [hheaders]
  exact ⟨Validators.get?_fields_etag _ policy, Validators.get?_fields_lastModified _ policy⟩

/-- The status of an answer says whether the copy of the client is current. -/
theorem status_eq_notModified_iff {response : Response Document}
    (h : subject.answer settings request catalog = .ok response) :
    response.status = .notModified ↔
      (subject.validators settings catalog).isNotModified request.headers = true := by
  obtain ⟨policy, -, -, hstatus⟩ := (answer_eq_ok_iff (lookUp_of_answer h)).1 h
  split at hstatus
  · next hcurrent => simp [hcurrent, hstatus.1]
  · next hcurrent =>
    have hne : Status.ok ≠ Status.notModified := by decide
    simp [hcurrent, hstatus.1, hne]

/-- The document about some rows with what they refer to. -/
def assembled (request : Request) (rows : List LinkType) (included : List Included) :
    Subject → Document
  | .single spaceId _ =>
    .single { data := rows.head?.map (LinkType.resource request spaceId), included }
  | .all spaceId =>
    .list { data := rows.map (LinkType.resource request spaceId)
            included
            totalCount := UInt64.ofNat rows.length }

/-- There is a document if what the rows refer to is found. -/
theorem document_eq_ok_iff {rows : List LinkType} {document : Document} :
    subject.document catalog request rows = .ok document ↔
      ∃ included, catalog.related request rows = .ok included ∧
        document = subject.assembled request rows included := by
  cases subject with
  | single spaceId id =>
    simp only [Subject.document, Failure.bind_eq_ok_iff, Failure.mapError_eq_ok_iff]
    refine exists_congr fun included => and_congr_right fun _ => ?_
    exact ⟨fun h => (Except.ok.inj h).symm, fun h => congrArg Except.ok h.symm⟩
  | all spaceId =>
    simp only [Subject.document, Failure.bind_eq_ok_iff, Failure.mapError_eq_ok_iff]
    refine exists_congr fun included => and_congr_right fun _ => ?_
    exact ⟨fun h => (Except.ok.inj h).symm, fun h => congrArg Except.ok h.symm⟩

/-- An answer says that the copy of the client is current, or has the document about the rows. -/
theorem body_of_answer {response : Response Document}
    (h : subject.answer settings request catalog = .ok response) :
    response.status = .notModified ∧ response.body = none ∨
      response.status = .ok ∧ ∃ included,
        catalog.related request (subject.rows catalog) = .ok included ∧
        response.body = some (subject.assembled request (subject.rows catalog) included) := by
  obtain ⟨policy, -, -, hbody⟩ := (answer_eq_ok_iff (lookUp_of_answer h)).1 h
  split at hbody
  · exact .inl hbody
  · obtain ⟨hstatus, document, hdocument, hbody⟩ := hbody
    obtain ⟨included, hincluded, rfl⟩ := document_eq_ok_iff.1 hdocument
    exact .inr ⟨hstatus, included, hincluded, hbody⟩

/-- A client whose copy is current is told so, whatever the rows refer to. -/
theorem exists_answer_of_isNotModified {rows : List LinkType} {policy : HeaderValue}
    (hrows : subject.lookUp catalog = .ok rows)
    (hpolicy : Validators.headerValue (subject.cacheControl settings) = .ok policy)
    (hcurrent : (subject.validators settings catalog).isNotModified request.headers = true) :
    ∃ response, subject.answer settings request catalog = .ok response ∧
      response.status = .notModified := by
  refine ⟨{ status := .notModified, headers := _, body := none },
    (answer_eq_ok_iff hrows).2 ⟨policy, hpolicy, rfl, ?_⟩, rfl⟩
  rw [if_pos hcurrent]
  exact ⟨rfl, rfl⟩

/-- A client whose copy is not current gets the document, if that can be had. -/
theorem exists_answer_of_document {rows : List LinkType} {policy : HeaderValue}
    {document : Document} (hrows : subject.lookUp catalog = .ok rows)
    (hpolicy : Validators.headerValue (subject.cacheControl settings) = .ok policy)
    (hcurrent : ¬ (subject.validators settings catalog).isNotModified request.headers = true)
    (hdocument : subject.document catalog request rows = .ok document) :
    ∃ response, subject.answer settings request catalog = .ok response ∧
      response.status = .ok ∧ response.body = some document := by
  refine ⟨{ status := .ok, headers := _, body := some document },
    (answer_eq_ok_iff hrows).2 ⟨policy, hpolicy, rfl, ?_⟩, rfl, rfl⟩
  rw [if_neg hcurrent]
  exact ⟨rfl, document, hdocument, rfl⟩

theorem gives_display (catalog : Catalog) (settings : Settings) (request : Request)
    (spaceId id : Uuid) :
    (Response.map .single <$> Service.display settings request spaceId id).Gives catalog
      (Subject.answer settings request catalog (.single spaceId id)) := by
  have hload : (Action.loadLinkType id).Gives catalog (catalog.loadLinkType id) :=
    Action.gives_ofCall (.loadLinkType id) (fun given => given) rfl
  rw [Service.display_eq]
  have hdisplay : (do
      let row ← Action.loadLinkType id
      Service.conditional Service.displayName
        (Validators.ofStamps [row.stamp] settings.singleCacheControl) request
        (Service.displayed request spaceId row)).Gives catalog _ :=
    hload.bind fun row _ => Service.gives_conditional
      (((Service.gives_relatedTo request [row]).mapFailure _).bind fun _ _ => Action.gives_pure _)
      _ _ _
  refine cast (congrArg _ ?_) (hdisplay.map (Response.map Document.single))
  simp only [Subject.answer, Subject.lookUp, Subject.document]
  cases catalog.loadLinkType id with
  | error failure => rfl
  | ok row =>
    refine (Service.map_conditionalAnswer _ _ _ _).trans (congrArg _ ?_)
    cases catalog.related request [row] <;> rfl

theorem gives_list (catalog : Catalog) (settings : Settings) (request : Request) (spaceId : Uuid) :
    (Response.map .list <$> Service.list settings request spaceId).Gives catalog
      (Subject.answer settings request catalog (.all spaceId)) := by
  have hrows : (Action.linkTypesOf spaceId).Gives catalog (.ok (catalog.linkTypesOf spaceId)) :=
    Action.gives_ofCall (.linkTypesOf spaceId) .ok rfl
  rw [Service.list_eq]
  have hlist : (do
      let rows ← Action.linkTypesOf spaceId
      Service.conditional Service.listName
        (Validators.ofStamps (rows.map LinkType.stamp) settings.listCacheControl) request
        (Service.listed request spaceId rows)).Gives catalog _ :=
    hrows.bind fun rows _ => Service.gives_conditional
      (((Service.gives_relatedTo request rows).mapFailure _).bind fun _ _ => Action.gives_pure _)
      _ _ _
  refine cast (congrArg _ ?_) (hlist.map (Response.map Document.list))
  refine (Service.map_conditionalAnswer _ _ _ _).trans (congrArg _ ?_)
  simp only [Subject.document]
  cases catalog.related request (catalog.linkTypesOf spaceId) <;> rfl

end Subject

namespace Turn

variable {turn : Turn} {subject : Subject} {request : Request}

/-- The answer of a turn that asks for a subject. -/
theorem answer_eq_of_read (hcommand : turn.command = subject.command request)
    (catalog : Catalog) : turn.answer catalog = subject.answer turn.settings request catalog := by
  refine (Service.value_observed turn.command.name _ catalog).trans ?_
  rw [hcommand]
  cases subject with
  | single spaceId id => exact (Subject.gives_display catalog turn.settings request spaceId id).1
  | all spaceId => exact (Subject.gives_list catalog turn.settings request spaceId).1

theorem answer_of_display {spaceId id : Uuid}
    (hcommand : turn.command = .display request spaceId id) (catalog : Catalog) :
    turn.answer catalog = Subject.answer turn.settings request catalog (.single spaceId id) :=
  answer_eq_of_read hcommand catalog

theorem answer_of_list {spaceId : Uuid} (hcommand : turn.command = .list request spaceId)
    (catalog : Catalog) :
    turn.answer catalog = Subject.answer turn.settings request catalog (.all spaceId) :=
  answer_eq_of_read hcommand catalog

end Turn

end LinkCatalog
