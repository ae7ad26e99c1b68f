import Mathlib.Data.List.Nodup
import LinkCatalog.Proofs.Service.Revalidation
import LinkCatalog.Proofs.Time.MailDate

/-!
# Revalidation by dates

A client that sends the date of an earlier list back asks whether any row of the space has changed
since. What it is told depends on the latest time among the rows that are there now. A row that was
added or changed has a later time, so that the client gets a new list. A row that is gone has no time
any more: the client is told that its copy is current as long as any other row of it is left.

## Main statements

- `Catalog.linkTypesOf_sublist_iff` — rows that are left from an earlier list are in the same order
- `Catalog.notModified_iff_of_date` — when a client is told that its list is current
- `Catalog.gone_of_sublist` — which rows its list may have in excess
-/

namespace LinkCatalog

-- ════════════════════════════════════════════════════════════════════════
-- The order of lists
-- ════════════════════════════════════════════════════════════════════════

namespace LinkType

theorem le_iff {a b : LinkType} :
    a.le b = true ↔ a.name < b.name ∨ a.name = b.name ∧ a.id.le b.id = true := by
  simp [le]

theorem name_cases (a b : LinkType) : a.name < b.name ∨ a.name = b.name ∨ b.name < a.name := by
  by_cases hlt : a.name < b.name
  · exact .inl hlt
  by_cases hgt : b.name < a.name
  · exact .inr (.inr hgt)
  · exact .inr (.inl (String.le_antisymm (String.not_lt.1 hgt) (String.not_lt.1 hlt)))

theorem le_total (a b : LinkType) : (a.le b || b.le a) = true := by
  rw [Bool.or_eq_true, le_iff, le_iff]
  rcases name_cases a b with hlt | heq | hgt
  · exact .inl (.inl hlt)
  · have hid := Uuid.le_total a.id b.id
    rw [Bool.or_eq_true] at hid
    exact hid.imp (fun h => .inr ⟨heq, h⟩) fun h => .inr ⟨heq.symm, h⟩
  · exact .inr (.inl hgt)

theorem le_trans {a b c : LinkType} (hab : a.le b = true) (hbc : b.le c = true) :
    a.le c = true := by
  rw [le_iff] at hab hbc ⊢
  rcases hab with hab | ⟨hab, hid⟩
  · rcases hbc with hbc | ⟨hbc, -⟩
    · exact .inl (String.lt_trans hab hbc)
    · exact .inl (hbc ▸ hab)
  · rcases hbc with hbc | ⟨hbc, hid'⟩
    · exact .inl (hab ▸ hbc)
    · exact .inr ⟨hab.trans hbc, Uuid.le_trans hid hid'⟩

theorem id_eq_of_le_of_le {a b : LinkType} (hab : a.le b = true) (hba : b.le a = true) :
    a.id = b.id := by
  rw [le_iff] at hab hba
  rcases hab with hab | ⟨hname, hab⟩
  · rcases hba with hba | ⟨hname, -⟩
    · exact absurd (String.lt_trans hab hba) (String.lt_irrefl _)
    · rw [hname] at hab
      exact absurd hab (String.lt_irrefl _)
  · rcases hba with hba | ⟨-, hba⟩
    · rw [hname] at hba
      exact absurd hba (String.lt_irrefl _)
    · exact Uuid.le_antisymm hab hba

end LinkType

theorem Subject.lastModified_validators (subject : Subject) (settings : Settings)
    (catalog : Catalog) :
    (subject.validators settings catalog).lastModified =
      Instant.latest? ((subject.rows catalog).map LinkType.updatedAt) := by
  simp only [validators, Validators.ofStamps, List.map_map]
  rfl

namespace Catalog

theorem mem_linkTypesOf {catalog : Catalog} {spaceId : Uuid} {row : LinkType} :
    row ∈ catalog.linkTypesOf spaceId ↔ row ∈ catalog.linkTypes.rows ∧ row.spaceId = spaceId := by
  simp [linkTypesOf]

theorem nodup_linkTypesOf (catalog : Catalog) (spaceId : Uuid) :
    (catalog.linkTypesOf spaceId).Nodup := by
  have hrows : catalog.linkTypes.rows.Nodup := List.Nodup.of_map _ catalog.linkTypes.distinct
  exact (List.mergeSort_perm _ _).nodup_iff.2 (hrows.filter _)

theorem pairwise_linkTypesOf (catalog : Catalog) (spaceId : Uuid) :
    (catalog.linkTypesOf spaceId).Pairwise fun a b => a.le b = true :=
  @List.pairwise_mergeSort LinkType LinkType.le (fun _ _ _ => LinkType.le_trans)
    LinkType.le_total _

/-- The rows that are listed at one moment are some of those that are listed at another one, in the
    same order, if all of them are listed there. -/
theorem linkTypesOf_sublist_iff {catalog other : Catalog} {spaceId : Uuid} :
    (catalog.linkTypesOf spaceId).Sublist (other.linkTypesOf spaceId) ↔
      ∀ row ∈ catalog.linkTypesOf spaceId, row ∈ other.linkTypesOf spaceId := by
  refine ⟨fun h row hrow => h.subset hrow, fun h => ?_⟩
  have hleft : ((other.linkTypesOf spaceId).filter fun row => row ∈ catalog.linkTypesOf spaceId) =
      catalog.linkTypesOf spaceId := by
    refine List.Perm.eq_of_pairwise (fun a b ha hb hab hba => ?_)
      ((pairwise_linkTypesOf other spaceId).filter _) (pairwise_linkTypesOf catalog spaceId)
      ((List.perm_ext_iff_of_nodup ((nodup_linkTypesOf other spaceId).filter _)
        (nodup_linkTypesOf catalog spaceId)).2 fun row => ?_)
    · have hrow := mem_linkTypesOf.1 (List.mem_of_mem_filter ha)
      have hother := mem_linkTypesOf.1 (h b hb)
      exact Table.eq_of_id_eq hrow.1 hother.1 (LinkType.id_eq_of_le_of_le hab hba)
    · rw [List.mem_filter, decide_eq_true_eq]
      exact ⟨fun hrow => hrow.2, fun hrow => ⟨h row hrow, hrow⟩⟩
  exact hleft ▸ List.filter_sublist

/-- A row that is not left from an earlier list was deleted, or moved to another space. -/
theorem gone_of_sublist {catalog other : Catalog} {spaceId : Uuid} {row stored : LinkType}
    (h : (catalog.linkTypesOf spaceId).Sublist (other.linkTypesOf spaceId))
    (hrow : row ∈ other.linkTypesOf spaceId) (hgone : row ∉ catalog.linkTypesOf spaceId)
    (hstored : catalog.linkTypes.find? row.id = some stored) : stored.spaceId ≠ spaceId := by
  intro hspace
  have hlisted : stored ∈ catalog.linkTypesOf spaceId :=
    mem_linkTypesOf.2 ⟨Table.mem_of_find? hstored, hspace⟩
  have hsame : stored = row := Table.eq_of_id_eq (mem_linkTypesOf.1 (h.subset hlisted)).1
    (mem_linkTypesOf.1 hrow).1 (Table.id_of_find? hstored)
  rw [hsame] at hlisted
  exact hgone hlisted

-- ════════════════════════════════════════════════════════════════════════
-- Lists at two moments
-- ════════════════════════════════════════════════════════════════════════

variable {start : Catalog} {turns : List Turn} {spaceId : Uuid} {m n : Nat}

/-- While the clock advances by seconds, the latest time among the rows that are listed is not later
    than it was if and only if no row was added or changed, and some are left. -/
theorem latest?_le_iff (hclock : start.ClockAdvances Instant.seconds turns) (hmn : m ≤ n)
    (hn : n ≤ turns.length) {since : Instant}
    (hsince : Instant.latest? (((start.before turns m).linkTypesOf spaceId).map
      LinkType.updatedAt) = some since) :
    (∃ latest, Instant.latest? (((start.before turns n).linkTypesOf spaceId).map
        LinkType.updatedAt) = some latest ∧ latest.seconds ≤ since.seconds) ↔
      (start.before turns n).linkTypesOf spaceId ≠ [] ∧
        ((start.before turns n).linkTypesOf spaceId).Sublist
          ((start.before turns m).linkTypesOf spaceId) := by
  obtain ⟨hsinceMem, hsinceLe⟩ := Instant.latest?_spec hsince
  obtain ⟨newest, hnewest, hnewestAt⟩ := List.mem_map.1 hsinceMem
  rw [Instant.exists_latest?_le_iff, Ne, List.map_eq_nil_iff, List.forall_mem_map,
    linkTypesOf_sublist_iff]
  refine and_congr_right fun _ => forall₂_congr fun row hrow => ?_
  constructor
  · intro hle
    obtain ⟨hstored, hspace⟩ := mem_linkTypesOf.1 hrow
    rcases hclock.kept_or_later hmn hn hstored with hkept | hlater
    · exact mem_linkTypesOf.2 ⟨hkept, hspace⟩
    · -- A row with a later time would have moved the latest time past the one before.
      have hrowLater := hlater newest (mem_linkTypesOf.1 hnewest).1
      rw [hnewestAt] at hrowLater
      omega
  · intro hleft
    exact Instant.seconds_le_of_le (hsinceLe _ (List.mem_map_of_mem hleft))

/-- **Revalidation by dates.** While the clock advances by seconds, a client that sends the date of
    an earlier list of a space, and no tag, is told that its list is current if and only if some of
    its rows are left, and no row was added or changed. Rows that were deleted or moved to another
    space do not count. -/
theorem notModified_iff_of_date (start : Catalog) (turns : List Turn) (spaceId : Uuid) {m n : Nat}
    {request later : Request} {response answer : Response Document} {date : HeaderValue}
    (hclock : start.ClockAdvances Instant.seconds turns)
    (hyears : ∀ row ∈ (start.before turns m).linkTypesOf spaceId,
      0 ≤ row.updatedAt.date.year ∧ row.updatedAt.date.year ≤ 9999)
    (hmn : m < n) (hresponse : start.RespondsAt turns m (.all spaceId) request response)
    (hdate : response.headers.get? "last-modified" = some date)
    (hanswer : start.RespondsAt turns n (.all spaceId) later answer)
    (htag : later.headers.get? "if-none-match" = none)
    (hsent : later.headers.get? "if-modified-since" = some date) :
    answer.status = .notModified ↔
      (start.before turns n).linkTypesOf spaceId ≠ [] ∧
        ((start.before turns n).linkTypesOf spaceId).Sublist
          ((start.before turns m).linkTypesOf spaceId) := by
  obtain ⟨settings, hfirst⟩ := hresponse.answer
  obtain ⟨laterSettings, hsecond⟩ := hanswer.answer
  rw [(Subject.fields_of_answer hfirst).2, Option.map_eq_some_iff] at hdate
  obtain ⟨since, hsince, rfl⟩ := hdate
  rw [Subject.lastModified_validators] at hsince
  obtain ⟨row, hrow, hrowAt⟩ := List.mem_map.1 (Instant.latest?_spec hsince).1
  obtain ⟨hlow, hhigh⟩ := hyears row hrow
  rw [hrowAt] at hlow hhigh
  rw [Subject.status_eq_notModified_iff hsecond,
    Validators.isNotModified_of_date htag hsent (MailDate.read?_toText since hlow hhigh),
    Subject.lastModified_validators]
  have hlatest := latest?_le_iff hclock (Nat.le_of_lt hmn) (Nat.le_of_lt hanswer.lt_length) hsince
  exact hlatest

end Catalog

/-- A request of a client that has a list with both rows. -/
def Request.sampleDated : Request :=
  { Request.sample with
    headers := Headers.empty.insert "if-modified-since"
      (HeaderValue.bytes (MailDate.toText LinkType.sampleNext.updatedAt)) }

/-- The second row is deleted. -/
def Turn.sampleNextDeletion : Turn :=
  .sample (.delete Space.sample.id LinkType.sampleNext.id)

/-- The rows are listed twice, before and after the deletion. -/
def Turn.sampleRemoval : List Turn :=
  [.sample (.list .sample Space.sample.id), .sampleNextDeletion,
    .sample (.list .sampleDated Space.sample.id)]

namespace Catalog

theorem before_sampleRemoval :
    samplePair.before Turn.sampleRemoval 2 = Turn.sampleNextDeletion.after samplePair := by
  have hread : (Turn.sample (.list .sample Space.sample.id)).command.IsRead := trivial
  exact afterTurns_cons_of_isRead hread samplePair [.sampleNextDeletion]

theorem linkTypesOf_before_sampleRemoval :
    (samplePair.before Turn.sampleRemoval 2).linkTypesOf Space.sample.id = [LinkType.sample] := by
  rw [before_sampleRemoval]
  decide +kernel

/-- The client is told that its list is current, although a row is gone. -/
theorem notModified_iff_of_date_sampleRemoval :
    let listed := fun number => (samplePair.before Turn.sampleRemoval number).linkTypesOf
      Space.sample.id
    samplePair.ClockAdvances Instant.seconds Turn.sampleRemoval ∧
      (∀ row ∈ listed 0, 0 ≤ row.updatedAt.date.year ∧ row.updatedAt.date.year ≤ 9999) ∧
      ∃ response answer date,
        samplePair.RespondsAt Turn.sampleRemoval 0 (.all Space.sample.id) .sample response ∧
        response.headers.get? "last-modified" = some date ∧
        samplePair.RespondsAt Turn.sampleRemoval 2 (.all Space.sample.id) .sampleDated answer ∧
        Request.sampleDated.headers.get? "if-none-match" = none ∧
        Request.sampleDated.headers.get? "if-modified-since" = some date ∧
        answer.status = .notModified ∧ listed 2 ≠ listed 0 := by
  intro listed
  have hfirst : listed 0 = [LinkType.sampleNext, LinkType.sample] := linkTypesOf_samplePair
  have hsecond : listed 2 = [LinkType.sample] := linkTypesOf_before_sampleRemoval
  have hclock : samplePair.ClockAdvances Instant.seconds Turn.sampleRemoval := by decide +kernel
  have hyears : ∀ row ∈ listed 0,
      0 ≤ row.updatedAt.date.year ∧ row.updatedAt.date.year ≤ 9999 := by
    rw [hfirst]
    decide +kernel
  have htag : Request.sampleDated.headers.get? "if-none-match" = none := by decide +kernel
  have hsent : Request.sampleDated.headers.get? "if-modified-since" =
      some (HeaderValue.bytes (MailDate.toText LinkType.sampleNext.updatedAt)) :=
    (Headers.get?_insert _ _ _ _).trans (if_pos rfl)
  have hpolicies : Turn.sampleDisplay.settings.HasPolicies := by decide +kernel
  obtain ⟨response, hresponse⟩ : ∃ response,
      samplePair.RespondsAt Turn.sampleRemoval 0 (.all Space.sample.id) .sample response :=
    RespondsAt.exists_of_isClosed isClosed_samplePair rfl rfl hpolicies rfl
  obtain ⟨answer, hanswer⟩ : ∃ answer,
      samplePair.RespondsAt Turn.sampleRemoval 2 (.all Space.sample.id) .sampleDated answer :=
    RespondsAt.exists_of_isClosed isClosed_samplePair rfl rfl hpolicies rfl
  obtain ⟨settings, hserved⟩ := hresponse.answer
  have hdate : response.headers.get? "last-modified" =
      some (HeaderValue.bytes (MailDate.toText LinkType.sampleNext.updatedAt)) := by
    rw [(Subject.fields_of_answer hserved).2, Subject.lastModified_validators]
    show (Instant.latest? ((listed 0).map LinkType.updatedAt)).map _ = _
    rw [hfirst]
    rfl
  have hleft : listed 2 ≠ [] ∧ (listed 2).Sublist (listed 0) := by
    rw [hfirst, hsecond]
    decide
  have hgone : listed 2 ≠ listed 0 := by
    rw [hfirst, hsecond]
    decide
  have hcurrent := (notModified_iff_of_date samplePair Turn.sampleRemoval Space.sample.id hclock
    hyears (by decide) hresponse hdate hanswer htag hsent).2 hleft
  exact ⟨hclock, hyears, response, answer, _, hresponse, hdate, hanswer, htag, hsent, hcurrent,
    hgone⟩

end Catalog

end LinkCatalog
