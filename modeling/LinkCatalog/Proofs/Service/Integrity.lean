import LinkCatalog.Proofs.Service.History
import LinkCatalog.Proofs.Service.Reads

/-!
# Referential integrity

Every write looks up what its row refers to before it stores the row, and categories and spaces are
never removed. So whatever the link types of a catalog refer to stays there, and the answer to a read
cannot fail for a resource that is missing.

## Main definitions

- `Catalog.IsClosed` — all categories and spaces that link types refer to are stored
- `Settings.HasPolicies` — both cache policies can be values of header fields

## Main statements

- `Catalog.IsClosed.turn` — a turn keeps a catalog closed
- `Subject.exists_isServed` — reads of rows that are stored with all that they refer to
- `Catalog.isClosed_afterTurns` — the catalog after all turns, and reads on it
-/

namespace LinkCatalog

/-- All categories and spaces that link types refer to are stored. -/
def Catalog.IsClosed (catalog : Catalog) : Prop :=
  ∀ row ∈ catalog.linkTypes.rows, catalog.HasRelated row

/-- Both cache policies can be values of header fields. -/
def Settings.HasPolicies (settings : Settings) : Prop :=
  (HeaderValue.ofText? settings.singleCacheControl).isSome ∧
    (HeaderValue.ofText? settings.listCacheControl).isSome

instance (settings : Settings) : Decidable settings.HasPolicies := by
  unfold Settings.HasPolicies
  infer_instance

/-- The response says that the copy of the client is current, or has what the client asked for. -/
def Response.IsServed {α : Type} (response : Response α) : Prop :=
  response.status = .notModified ∨ response.status = .ok ∧ response.body.isSome

-- ════════════════════════════════════════════════════════════════════════
-- Catalogs stay closed
-- ════════════════════════════════════════════════════════════════════════

namespace Catalog.IsClosed

variable {catalog after : Catalog} {row : LinkType}

theorem putLinkType (h : catalog.IsClosed) (hrow : catalog.HasRelated row) :
    (catalog.putLinkType row).IsClosed := by
  intro other hother
  show catalog.HasRelated other
  -- What rows refer to is not touched by a write.
  rcases List.mem_cons.1 hother with rfl | hother
  · exact hrow
  · exact h other (List.mem_of_mem_filter hother)

theorem createLinkType {stored : LinkType} {fresh : Uuid} {now : Instant} (h : catalog.IsClosed)
    (hrow : catalog.HasRelated row)
    (hwrite : catalog.createLinkType row fresh now = .ok (stored, after)) : after.IsClosed := by
  obtain ⟨-, -, -, rfl, rfl⟩ := createLinkType_eq_ok_iff.1 hwrite
  exact h.putLinkType hrow

theorem saveLinkType {saved : LinkType} {now : Instant} (h : catalog.IsClosed)
    (hrow : catalog.HasRelated row) (hwrite : catalog.saveLinkType row now = .ok (saved, after)) :
    after.IsClosed := by
  obtain ⟨-, stored, -, -, -, rfl, rfl⟩ := saveLinkType_eq_ok_iff.1 hwrite
  exact h.putLinkType hrow

theorem deleteLinkType {spaceId id : Uuid} (h : catalog.IsClosed)
    (hwrite : catalog.deleteLinkType spaceId id = .ok after) : after.IsClosed := by
  obtain ⟨stored, -, -, rfl⟩ := deleteLinkType_eq_ok_iff.1 hwrite
  exact fun other hother => h other (List.mem_of_mem_filter hother)

/-- **One turn.** A turn keeps a catalog closed. -/
theorem turn (h : catalog.IsClosed) (turn : Turn) : (turn.after catalog).IsClosed := by
  cases hcommand : turn.command with
  | create request payload spaceId identity =>
    rcases Turn.create_cases hcommand catalog with ⟨_, -, hafter, -⟩ |
      ⟨row, stored, included, -, hrelated, hwrite, -⟩
    · rwa [hafter]
    · exact h.createLinkType hrelated hwrite
  | update request payload spaceId identity =>
    rcases Turn.update_cases hcommand catalog with ⟨_, -, hafter, -⟩ |
      ⟨row, saved, included, -, hrelated, hwrite, -⟩
    · rwa [hafter]
    · exact h.saveLinkType hrelated hwrite
  | delete spaceId id =>
    rcases Turn.delete_cases hcommand catalog with ⟨_, -, hafter⟩ | ⟨hwrite, -⟩
    · rwa [hafter]
    · exact h.deleteLinkType hwrite
  | _ =>
    have hread : turn.command.IsRead := by
      rw [hcommand]
      trivial
    rwa [Turn.after_of_isRead hread]

/-- **All turns.** A service that starts with a closed catalog keeps it closed. -/
theorem afterTurns (h : catalog.IsClosed) (turns : List Turn) :
    (catalog.afterTurns turns).IsClosed := by
  induction turns generalizing catalog with
  | nil => exact h
  | cons turn turns ih => exact ih (h.turn turn)

end Catalog.IsClosed

-- ════════════════════════════════════════════════════════════════════════
-- Reads do not fail
-- ════════════════════════════════════════════════════════════════════════

theorem Uuid.mem_sortedDistinct {id : Uuid} {ids : List Uuid} :
    id ∈ sortedDistinct ids ↔ id ∈ ids := by
  simp [sortedDistinct]

/-- What rows refer to is found if it is stored. -/
theorem Catalog.exists_related {catalog : Catalog} {rows : List LinkType}
    (h : ∀ row ∈ rows, catalog.HasRelated row) (request : Request) :
    ∃ included, catalog.related request rows = .ok included := by
  obtain ⟨categories, hcategories⟩ : ∃ categories,
      (Uuid.sortedDistinct (rows.map LinkType.categoryId)).mapM catalog.loadCategory =
        .ok categories := by
    refine Failure.exists_mapM_eq_ok fun id hid => ?_
    obtain ⟨row, hrow, rfl⟩ := List.mem_map.1 (Uuid.mem_sortedDistinct.1 hid)
    exact (Catalog.hasRelated_iff.1 (h row hrow)).1
  obtain ⟨spaces, hspaces⟩ : ∃ spaces,
      (Uuid.sortedDistinct (rows.map LinkType.spaceId)).mapM catalog.loadSpace = .ok spaces := by
    refine Failure.exists_mapM_eq_ok fun id hid => ?_
    obtain ⟨row, hrow, rfl⟩ := List.mem_map.1 (Uuid.mem_sortedDistinct.1 hid)
    exact (Catalog.hasRelated_iff.1 (h row hrow)).2
  rw [Catalog.related, hcategories, hspaces]
  exact ⟨_, rfl⟩

namespace Subject

variable {subject : Subject} {catalog : Catalog} {settings : Settings} {request : Request}

theorem exists_document {rows : List LinkType} (h : ∀ row ∈ rows, catalog.HasRelated row) :
    ∃ document, subject.document catalog request rows = .ok document := by
  obtain ⟨included, hincluded⟩ := Catalog.exists_related h request
  exact ⟨_, document_eq_ok_iff.2 ⟨included, hincluded, rfl⟩⟩

theorem exists_headerValue (h : settings.HasPolicies) (subject : Subject) :
    ∃ policy, Validators.headerValue (subject.cacheControl settings) = .ok policy := by
  have hsome : (HeaderValue.ofText? (subject.cacheControl settings)).isSome := by
    cases subject with
    | single spaceId id => exact h.1
    | all spaceId => exact h.2
  obtain ⟨policy, hpolicy⟩ := Option.isSome_iff_exists.1 hsome
  exact ⟨policy, by rw [Validators.headerValue, hpolicy]⟩

/-- A request for rows that are stored with all that they refer to is served. -/
theorem exists_isServed {rows : List LinkType} (hpolicies : settings.HasPolicies)
    (hrows : subject.lookUp catalog = .ok rows) (hrelated : ∀ row ∈ rows, catalog.HasRelated row) :
    ∃ response, subject.answer settings request catalog = .ok response ∧ response.IsServed := by
  obtain ⟨policy, hpolicy⟩ := exists_headerValue hpolicies subject
  obtain ⟨document, hdocument⟩ : ∃ document,
      subject.document catalog request rows = .ok document := exists_document hrelated
  cases hcurrent : (subject.validators settings catalog).isNotModified request.headers with
  | true =>
    obtain ⟨response, hanswer, hstatus⟩ :=
      exists_answer_of_isNotModified hrows hpolicy hcurrent
    exact ⟨response, hanswer, .inl hstatus⟩
  | false =>
    obtain ⟨response, hanswer, hstatus, hbody⟩ :=
      exists_answer_of_document hrows hpolicy (by simp [hcurrent]) hdocument
    exact ⟨response, hanswer, .inr ⟨hstatus, by rw [hbody]; rfl⟩⟩

end Subject

namespace Catalog

/-- **Integrity.** In a service that starts with a closed catalog, the catalog is closed after all
    turns, and a turn that then shows or lists link types cannot fail, except that a link type is
    missing. -/
theorem isClosed_afterTurns (start : Catalog) (turns : List Turn) (hstart : start.IsClosed) :
    (start.afterTurns turns).IsClosed ∧ ∀ turn : Turn, turn.settings.HasPolicies →
      (∀ request spaceId id, turn.command = .display request spaceId id →
        match (start.afterTurns turns).linkTypes.find? id with
        | none => turn.answer (start.afterTurns turns) = .error (.notFound .linkType id.toText)
        | some _ => ∃ response,
          turn.answer (start.afterTurns turns) = .ok response ∧ response.IsServed) ∧
      ∀ request spaceId, turn.command = .list request spaceId →
        ∃ response, turn.answer (start.afterTurns turns) = .ok response ∧ response.IsServed := by
  have hclosed : (start.afterTurns turns).IsClosed := hstart.afterTurns turns
  generalize start.afterTurns turns = catalog at hclosed ⊢
  refine ⟨hclosed, fun turn hpolicies => ⟨fun request spaceId id hcommand => ?_,
    fun request spaceId hcommand => ?_⟩⟩
  · have hanswer : turn.answer catalog =
        Subject.answer turn.settings request catalog (.single spaceId id) :=
      Turn.answer_eq_of_read hcommand catalog
    have hload : Subject.lookUp catalog (.single spaceId id) =
        (catalog.loadLinkType id).map fun row => [row] := rfl
    rw [hanswer]
    cases hfound : catalog.linkTypes.find? id with
    | none =>
      rw [Catalog.loadLinkType, hfound] at hload
      rw [Subject.answer, hload]
      rfl
    | some row =>
      rw [Catalog.loadLinkType, hfound] at hload
      refine Subject.exists_isServed hpolicies hload fun other hother => ?_
      rw [List.mem_singleton.1 hother]
      exact hclosed row (Table.mem_of_find? hfound)
  · have hanswer : turn.answer catalog =
        Subject.answer turn.settings request catalog (.all spaceId) :=
      Turn.answer_eq_of_read hcommand catalog
    rw [hanswer]
    refine Subject.exists_isServed hpolicies rfl fun row hrow => ?_
    exact hclosed row (List.mem_of_mem_filter (List.mem_mergeSort.1 hrow))

theorem isClosed_sample : Catalog.sample.IsClosed := by
  intro row hrow
  rw [List.mem_singleton.1 hrow]
  exact ⟨⟨Category.sample, rfl⟩, Space.sample, rfl⟩

theorem isClosed_samplePair : samplePair.IsClosed :=
  isClosed_sample.putLinkType ⟨⟨Category.sample, rfl⟩, Space.sample, rfl⟩

theorem linkTypesOf_samplePair :
    samplePair.linkTypesOf Space.sample.id = [LinkType.sampleNext, LinkType.sample] :=
  List.mergeSort_of_pairwise (by decide)

/-- A row is renamed, and can be shown and listed then. -/
theorem isClosed_afterTurns_sampleRename :
    Catalog.sample.IsClosed ∧ Turn.sampleDisplay.settings.HasPolicies ∧
      (∃ response,
        Turn.sampleDisplay.answer (Catalog.sample.afterTurns [Turn.sampleRename]) = .ok response ∧
        response.IsServed) ∧
      ∃ response,
        Turn.sampleListing.answer (Catalog.sample.afterTurns [Turn.sampleRename]) = .ok response ∧
        response.IsServed := by
  have hpolicies : Turn.sampleDisplay.settings.HasPolicies := by decide +kernel
  have hsome : ((Catalog.sample.afterTurns [Turn.sampleRename]).linkTypes.find?
      LinkType.sample.id).isSome := by decide +kernel
  obtain ⟨row, hrow⟩ := Option.isSome_iff_exists.1 hsome
  obtain ⟨-, hserved⟩ := isClosed_afterTurns .sample [Turn.sampleRename] isClosed_sample
  have hdisplay := (hserved Turn.sampleDisplay hpolicies).1 _ _ _ rfl
  rw [hrow] at hdisplay
  exact ⟨isClosed_sample, hpolicies, hdisplay,
    (hserved Turn.sampleListing hpolicies).2 _ _ rfl⟩

end Catalog

end LinkCatalog
