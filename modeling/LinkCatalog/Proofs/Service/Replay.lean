import LinkCatalog.Proofs.Service.Staleness

/-!
# Dates that are sent back

A date in a header field has no fractions of seconds. So a client that asks for changes since a date
is told that its copy is current if no row is later than the second of the date, leap seconds
included. The date that it has from an answer is that of the latest row, which is why it is told so
as long as the rows are the same.

## Main definitions

- `Headers.AsksSince` — a client sends a date and no tag

## Main statements

- `Validators.isNotModified_iff_of_asksSince` — the rows for which a copy is current
- `Subject.isNotModified_of_asksSince` — the rows of an answer whose date is sent back
- `Turn.current_since` — both for all dates, rows and answers
-/

namespace LinkCatalog

/-- A client sends a date and no tag. -/
def Headers.AsksSince (headers : Headers) (date : HeaderValue) : Prop :=
  headers.get? "if-none-match" = none ∧ headers.get? "if-modified-since" = some date

instance (headers : Headers) (date : HeaderValue) : Decidable (headers.AsksSince date) := by
  unfold Headers.AsksSince
  infer_instance

/-- A copy of some rows is current for a client that sends a date if and only if there are rows, and
    none of them was changed after the second of the date. -/
theorem Validators.isNotModified_iff_of_asksSince {rows : List LinkType} {cacheControl : String}
    {headers : Headers} {date : Instant} (hlow : 0 ≤ date.date.year)
    (hhigh : date.date.year ≤ 9999)
    (hasks : headers.AsksSince (HeaderValue.bytes (MailDate.toText date))) :
    (ofStamps (rows.map LinkType.stamp) cacheControl).isNotModified headers = true ↔
      rows ≠ [] ∧ ∀ row ∈ rows, row.updatedAt.seconds ≤ date.seconds := by
  have htimes : (rows.map LinkType.stamp).map Stamp.updatedAt = rows.map LinkType.updatedAt := by
    rw [List.map_map]
    rfl
  have hread := MailDate.read?_toText date hlow hhigh
  rw [isNotModified_of_date hasks.1 hasks.2 hread, ofStamps, htimes]
  -- The second of the date is all that is left of it when it is read.
  show (∃ last, Instant.latest? _ = some last ∧ last.seconds ≤ date.seconds) ↔ _
  rw [Instant.exists_latest?_le_iff, Ne, List.map_eq_nil_iff, List.forall_mem_map]

namespace Subject

variable {subject : Subject} {catalog after : Catalog} {settings : Settings}

theorem lookUp_eq_of_rows_eq (h : subject.rows after = subject.rows catalog) :
    subject.lookUp after = subject.lookUp catalog := by
  cases subject with
  | single spaceId id =>
    have hfound : after.linkTypes.find? id = catalog.linkTypes.find? id := by
      refine Option.ext fun row => ?_
      have hrow : row ∈ Subject.rows after (.single spaceId id) ↔
          row ∈ Subject.rows catalog (.single spaceId id) := by rw [h]
      exact Option.mem_toList.symm.trans (hrow.trans Option.mem_toList)
    simp only [lookUp, Catalog.loadLinkType, hfound]
  | all spaceId => exact congrArg Except.ok h

/-- The rows of an answer are current for a client that sends the date of the answer back. -/
theorem isNotModified_of_asksSince {headers : Headers} {latest : Instant}
    (hlatest : Instant.latest? ((subject.rows catalog).map LinkType.updatedAt) = some latest)
    (hlow : 0 ≤ latest.date.year) (hhigh : latest.date.year ≤ 9999)
    (hasks : headers.AsksSince (HeaderValue.bytes (MailDate.toText latest))) :
    (subject.validators settings catalog).isNotModified headers = true := by
  obtain ⟨hmem, hmax⟩ := Instant.latest?_spec hlatest
  refine (Validators.isNotModified_iff_of_asksSince hlow hhigh hasks).2 ⟨?_, fun row hrow => ?_⟩
  · exact fun hempty => List.ne_nil_of_mem hmem (List.map_eq_nil_iff.2 hempty)
  · exact Instant.seconds_le_of_le (hmax _ (List.mem_map_of_mem hrow))

end Subject

namespace Turn

/-- **Dates.** A client that sends the date of any instant in the years 0 to 9999, and no tag, is
    told that its copy is current if and only if there are rows and each of them was last changed in
    the second of the date or before. So a client that sends the date of an answer back is told that
    its copy is current, as long as the rows are the same. -/
theorem current_since :
    (∀ (rows : List LinkType) (cacheControl : String) (headers : Headers) (date : Instant),
      0 ≤ date.date.year → date.date.year ≤ 9999 →
      headers.AsksSince (HeaderValue.bytes (MailDate.toText date)) →
      ((Validators.ofStamps (rows.map LinkType.stamp) cacheControl).isNotModified headers = true ↔
        rows ≠ [] ∧ ∀ row ∈ rows, row.updatedAt.seconds ≤ date.seconds)) ∧
    ∀ (turn later : Turn) (catalog after : Catalog) (subject : Subject) (request again : Request)
      (response : Response Document) (latest : Instant) (date : HeaderValue),
      turn.command = subject.command request → turn.answer catalog = .ok response →
      Instant.latest? ((subject.rows catalog).map LinkType.updatedAt) = some latest →
      0 ≤ latest.date.year → latest.date.year ≤ 9999 →
      response.headers.get? "last-modified" = some date →
      later.command = subject.command again → later.settings = turn.settings →
      subject.rows after = subject.rows catalog → again.headers.AsksSince date →
      ∃ answer, later.answer after = .ok answer ∧ answer.status = .notModified := by
  constructor
  · intro rows cacheControl headers date hlow hhigh hasks
    exact Validators.isNotModified_iff_of_asksSince hlow hhigh hasks
  · intro turn later catalog after subject request again response latest date hcommand hanswer
      hlatest hlow hhigh hdate hagain hsettings hrows hasks
    rw [answer_eq_of_read hcommand] at hanswer
    have hlookUp := Subject.lookUp_of_answer hanswer
    obtain ⟨policy, hpolicy, -⟩ := (Subject.answer_eq_ok_iff hlookUp).1 hanswer
    rw [(Subject.fields_of_answer hanswer).2, Subject.lastModified_validators, hlatest] at hdate
    obtain rfl := Option.some.inj hdate
    rw [← hrows] at hlatest hlookUp
    rw [← Subject.lookUp_eq_of_rows_eq hrows] at hlookUp
    rw [answer_eq_of_read hagain, hsettings]
    exact Subject.exists_answer_of_isNotModified hlookUp hpolicy
      (Subject.isNotModified_of_asksSince hlatest hlow hhigh hasks)

end Turn

/-- Half a second into the leap second at the end of June 1972. -/
def Instant.sampleLeap : Instant :=
  { seconds := 78796799, nanos := 1500000000, valid := by decide }

example : MailDate.toText Instant.sampleLeap = "Fri, 30 Jun 1972 23:59:60 GMT" := by decide +kernel

/-- The start of the same second, without the leap second. -/
def Instant.sampleBeforeLeap : Instant :=
  { seconds := 78796799, nanos := 0, valid := by decide }

/-- A row that was changed in the leap second is current since the second before it; and a client
    that sends the date of the list of both rows is told that its copy is current. -/
theorem Turn.current_since_samplePair :
    let headers := Headers.empty.insert "if-modified-since"
      (HeaderValue.bytes (MailDate.toText .sampleBeforeLeap))
    headers.AsksSince (HeaderValue.bytes (MailDate.toText .sampleBeforeLeap)) ∧
      (Validators.ofStamps ([{ LinkType.sample with updatedAt := .sampleLeap }].map LinkType.stamp)
        "private").isNotModified headers = true ∧
      ∃ answer,
        (Turn.sample (.list .sampleDated Space.sample.id)).answer .samplePair = .ok answer ∧
        answer.status = .notModified := by
  intro headers
  have hasks : headers.AsksSince (HeaderValue.bytes (MailDate.toText .sampleBeforeLeap)) :=
    ⟨by decide +kernel, (Headers.get?_insert _ _ _ _).trans (if_pos rfl)⟩
  have hcurrent := (current_since.1 [{ LinkType.sample with updatedAt := .sampleLeap }] "private"
    headers .sampleBeforeLeap (by decide +kernel) (by decide +kernel) hasks).2 (by decide)
  let subject := Subject.all Space.sample.id
  let turn := Turn.sample (subject.command .sample)
  let later := Turn.sample (subject.command .sampleDated)
  have hdated : Request.sampleDated.headers.AsksSince
      (HeaderValue.bytes (MailDate.toText LinkType.sampleNext.updatedAt)) :=
    ⟨by decide +kernel, (Headers.get?_insert _ _ _ _).trans (if_pos rfl)⟩
  have hlatest : Instant.latest? ((subject.rows .samplePair).map LinkType.updatedAt) =
      some LinkType.sampleNext.updatedAt := by
    show Instant.latest? ((Catalog.samplePair.linkTypesOf _).map _) = _
    rw [Catalog.linkTypesOf_samplePair]
    rfl
  have hpolicies : turn.settings.HasPolicies := by decide +kernel
  have hrelated : ∀ row ∈ subject.rows .samplePair, Catalog.samplePair.HasRelated row :=
    fun row hrow => Catalog.isClosed_samplePair row (Subject.mem_of_mem_rows hrow)
  obtain ⟨response, hserved, -⟩ : ∃ response, subject.answer turn.settings .sample .samplePair =
      .ok response ∧ response.IsServed := Subject.exists_isServed hpolicies rfl hrelated
  have hanswer : turn.answer .samplePair = .ok response :=
    (answer_eq_of_read rfl _).trans hserved
  have hdate : response.headers.get? "last-modified" =
      some (HeaderValue.bytes (MailDate.toText LinkType.sampleNext.updatedAt)) := by
    rw [(Subject.fields_of_answer hserved).2, Subject.lastModified_validators, hlatest]
    rfl
  have hlater := current_since.2 turn later .samplePair .samplePair subject .sample .sampleDated
    response _ _ rfl hanswer hlatest (by decide +kernel) (by decide +kernel) hdate rfl rfl rfl
    hdated
  exact ⟨hasks, hcurrent, hlater⟩

end LinkCatalog
