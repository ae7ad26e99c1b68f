import LinkCatalog.Proofs.Http.TagMessage
import LinkCatalog.Proofs.Service.Clock
import LinkCatalog.Proofs.Service.Integrity

/-!
# Revalidation by tags

A client that sends a tag back asks whether its copy is still current. The tag says nothing about
the contents of rows, only which rows there were and when they were changed. While the clock
advances, this is enough: two rows that were stored under one identifier at different moments have
different times, so that the same tag means the same rows.

## Main definitions

- `Catalog.RespondsAt` — a turn of a run asks for a subject and gets a response
- `Catalog.hashed` — the messages whose digests a run computes
- `Sha256.TellsApart` — no two of some messages have the same digest

## Main statements

- `Subject.rows_eq_of_marks` — rows at two moments that agree in what a tag depends on
- `Catalog.rows_eq_of_tag` — no answer to a tag is stale
-/

namespace LinkCatalog

/-- What a command that reads is about. -/
def Command.subject? : Command → Option Subject
  | .display _ spaceId id => some (.single spaceId id)
  | .list _ spaceId => some (.all spaceId)
  | _ => none

theorem Subject.subject?_command (subject : Subject) (request : Request) :
    (subject.command request).subject? = some subject := by
  cases subject <;> rfl

theorem Subject.mem_of_mem_rows {subject : Subject} {catalog : Catalog} {row : LinkType}
    (h : row ∈ subject.rows catalog) : row ∈ catalog.linkTypes.rows := by
  cases subject with
  | single spaceId id => exact Table.mem_of_find? (Option.mem_toList.1 h)
  | all spaceId => exact List.mem_of_mem_filter (List.mem_mergeSort.1 h)

/-- No two of the messages have the same digest. -/
def Sha256.TellsApart (messages : List (List UInt8)) : Prop :=
  ∀ message ∈ messages, ∀ other ∈ messages, digest message = digest other → message = other

instance (messages : List (List UInt8)) : Decidable (Sha256.TellsApart messages) := by
  unfold Sha256.TellsApart
  infer_instance

/-- The message whose digest a turn computes, if it computes one. -/
def Turn.hashed (turn : Turn) (catalog : Catalog) : List (List UInt8) :=
  match turn.command.subject? with
  | some subject =>
    match subject.lookUp catalog with
    | .ok rows => [Validators.message (rows.map LinkType.stamp)]
    | .error _ => []
  | none => []

namespace Catalog

/-- The messages whose digests are computed in some turns, one after the other. -/
def hashed (start : Catalog) : List Turn → List (List UInt8)
  | [] => []
  | turn :: turns => turn.hashed start ++ (turn.after start).hashed turns

/-- The turn with a number asks for a subject, and gets a response. -/
def RespondsAt (start : Catalog) (turns : List Turn) (number : Nat) (subject : Subject)
    (request : Request) (response : Response Document) : Prop :=
  ∃ turn, turns[number]? = some turn ∧ turn.command = subject.command request ∧
    turn.answer (start.before turns number) = .ok response

variable {start : Catalog} {turns : List Turn}

theorem mem_hashed {turn : Turn} {number : Nat} {message : List UInt8}
    (hturn : turns[number]? = some turn) (h : message ∈ turn.hashed (start.before turns number)) :
    message ∈ start.hashed turns := by
  induction turns generalizing start number with
  | nil => cases hturn
  | cons first turns ih =>
    rw [hashed, List.mem_append]
    cases number with
    | zero =>
      obtain rfl := Option.some.inj hturn
      exact .inl h
    | succ number => exact .inr (ih hturn h)

namespace RespondsAt

variable {number : Nat} {subject : Subject} {request : Request} {response : Response Document}

theorem answer (h : start.RespondsAt turns number subject request response) :
    ∃ settings, subject.answer settings request (start.before turns number) = .ok response := by
  obtain ⟨turn, -, hcommand, hanswer⟩ := h
  exact ⟨turn.settings, (Turn.answer_eq_of_read hcommand _).symm.trans hanswer⟩

theorem lt_length (h : start.RespondsAt turns number subject request response) :
    number < turns.length := by
  obtain ⟨turn, hturn, -⟩ := h
  exact (List.getElem?_eq_some_iff.1 hturn).1

/-- A turn that asks for rows gets a response in a service that starts with a closed catalog. -/
theorem exists_of_isClosed {turn : Turn} {rows : List LinkType} (hstart : start.IsClosed)
    (hturn : turns[number]? = some turn) (hcommand : turn.command = subject.command request)
    (hpolicies : turn.settings.HasPolicies)
    (hrows : subject.lookUp (start.before turns number) = .ok rows) :
    ∃ response, start.RespondsAt turns number subject request response := by
  have hclosed : (start.before turns number).IsClosed := hstart.afterTurns (turns.take number)
  obtain ⟨response, hanswer, -⟩ : ∃ response, subject.answer turn.settings request
      (start.before turns number) = .ok response ∧ response.IsServed := by
    refine Subject.exists_isServed hpolicies hrows fun row hrow => hclosed row ?_
    rw [← Subject.rows_of_lookUp hrows] at hrow
    exact Subject.mem_of_mem_rows hrow
  exact ⟨response, turn, hturn, hcommand, (Turn.answer_eq_of_read hcommand _).trans hanswer⟩

/-- The digest behind the tag of a response is among those that the run computes. -/
theorem message_mem_hashed (h : start.RespondsAt turns number subject request response) :
    Validators.message ((subject.rows (start.before turns number)).map LinkType.stamp) ∈
      start.hashed turns := by
  obtain ⟨settings, hanswer⟩ := h.answer
  obtain ⟨turn, hturn, hcommand, -⟩ := h
  refine mem_hashed hturn ?_
  rw [Turn.hashed, hcommand, Subject.subject?_command]
  simp only [Subject.lookUp_of_answer hanswer, List.mem_singleton]

end RespondsAt

end Catalog

-- ════════════════════════════════════════════════════════════════════════
-- Rows at two moments
-- ════════════════════════════════════════════════════════════════════════

namespace Subject

/-- Rows at two moments that agree in identifiers and microseconds are the same rows. -/
theorem rows_eq_of_marks {start : Catalog} {turns : List Turn} {subject : Subject} {m n : Nat}
    (hclock : start.ClockAdvances Instant.micros turns) (hmn : m ≤ n) (hn : n ≤ turns.length)
    (hmarks : (subject.rows (start.before turns n)).map Validators.mark =
      (subject.rows (start.before turns m)).map Validators.mark) :
    subject.rows (start.before turns n) = subject.rows (start.before turns m) := by
  refine eq_of_map_eq (fun row hrow other hother hmark => ?_) hmarks
  obtain ⟨hid, hmicros⟩ := Prod.mk.inj hmark
  have hbefore := mem_of_mem_rows hother
  rcases hclock.kept_or_later hmn hn (mem_of_mem_rows hrow) with hkept | hlater
  · exact Table.eq_of_id_eq hkept hbefore hid
  · -- A row that was stored in between is later than all rows that were there.
    exact absurd hmicros.symm (Int.ne_of_lt (hlater other hbefore))

end Subject

namespace Catalog

/-- **Revalidation by tags.** While the clock advances by microseconds and no two messages of the
    run have the same digest, a client that sends the tag of an earlier response and is told that
    its copy is current has exactly the rows that are stored. -/
theorem rows_eq_of_tag (start : Catalog) (turns : List Turn) (subject : Subject) {m n : Nat}
    {request later : Request} {response answer : Response Document} {tag : HeaderValue}
    (hclock : start.ClockAdvances Instant.micros turns)
    (hhash : Sha256.TellsApart (start.hashed turns)) (hmn : m < n)
    (hresponse : start.RespondsAt turns m subject request response)
    (htag : response.headers.get? "etag" = some tag)
    (hanswer : start.RespondsAt turns n subject later answer)
    (hsent : later.headers.get? "if-none-match" = some tag)
    (hcurrent : answer.status = .notModified) :
    subject.rows (start.before turns n) = subject.rows (start.before turns m) := by
  obtain ⟨settings, hfirst⟩ := hresponse.answer
  obtain ⟨laterSettings, hsecond⟩ := hanswer.answer
  rw [(Subject.fields_of_answer hfirst).1] at htag
  have htags := (Validators.isNotModified_of_tag (hsent.trans htag.symm)).1
    ((Subject.status_eq_notModified_iff hsecond).1 hcurrent)
  have hmessages := hhash _ hanswer.message_mem_hashed _ hresponse.message_mem_hashed
    (Validators.tagOf_inj.1 htags)
  exact Subject.rows_eq_of_marks hclock (Nat.le_of_lt hmn) (Nat.le_of_lt hanswer.lt_length)
    (Validators.message_eq_iff.1 hmessages)

end Catalog

/-- A second after the epoch, another row is created next to the one for examples. -/
def Turn.sampleAddition : Turn :=
  { Turn.sample (.create .sample (.sample { LinkType.sample with id := ⟨8⟩, name := "Obstacle" })
      Space.sample.id (some ⟨6⟩)) with
    now := .sampleLater }

/-- A request of a client that has been shown the row for examples. -/
def Request.sampleTagged : Request :=
  { Request.sample with
    headers := Headers.empty.insert "if-none-match"
      (HeaderValue.bytes (Validators.tagOf (Validators.message [LinkType.sample.stamp]))) }

/-- The added row is deleted again. -/
def Turn.sampleWithdrawal : Turn :=
  .sample (.delete Space.sample.id ⟨8⟩)

/-- The row for examples is shown and listed twice. In between, another row comes and goes. -/
def Turn.sampleRevalidation : List Turn :=
  [.sampleDisplay, .sampleListing, .sampleAddition, .sampleWithdrawal,
    .sample (.display .sampleTagged Space.sample.id LinkType.sample.id),
    .sample (.list .sampleTagged Space.sample.id)]

namespace Catalog

/-- All reads compute the digest of the same message. -/
theorem hashed_sampleRevalidation :
    Catalog.sample.hashed Turn.sampleRevalidation =
      List.replicate 4 (Validators.message [LinkType.sample.stamp]) := by
  decide +kernel

/-- The client is told that its copies are current, and they are. -/
theorem rows_eq_of_tag_sampleRevalidation :
    Catalog.sample.ClockAdvances Instant.micros Turn.sampleRevalidation ∧
      Sha256.TellsApart (Catalog.sample.hashed Turn.sampleRevalidation) ∧
      ∀ read ∈ [(Subject.single Space.sample.id LinkType.sample.id, 0, 4),
          (Subject.all Space.sample.id, 1, 5)],
        ∃ response answer tag,
          Catalog.sample.RespondsAt Turn.sampleRevalidation read.2.1 read.1 .sample response ∧
          response.headers.get? "etag" = some tag ∧
          Catalog.sample.RespondsAt Turn.sampleRevalidation read.2.2 read.1 .sampleTagged answer ∧
          Request.sampleTagged.headers.get? "if-none-match" = some tag ∧
          answer.status = .notModified ∧
          read.1.rows (Catalog.sample.before Turn.sampleRevalidation read.2.2) =
            read.1.rows (Catalog.sample.before Turn.sampleRevalidation read.2.1) := by
  have hclock : Catalog.sample.ClockAdvances Instant.micros Turn.sampleRevalidation := by
    decide +kernel
  have hhash : Sha256.TellsApart (Catalog.sample.hashed Turn.sampleRevalidation) := by
    intro message hmessage other hother _
    rw [hashed_sampleRevalidation] at hmessage hother
    rw [List.eq_of_mem_replicate hmessage, List.eq_of_mem_replicate hother]
  have hpolicies : Turn.sampleDisplay.settings.HasPolicies := by decide +kernel
  have hsent : Request.sampleTagged.headers.get? "if-none-match" =
      some (HeaderValue.bytes (Validators.tagOf (Validators.message [LinkType.sample.stamp]))) :=
    (Headers.get?_insert _ _ _ _).trans (if_pos rfl)
  have hrows : ∀ read ∈ [(Subject.single Space.sample.id LinkType.sample.id, 0, 4),
      (Subject.all Space.sample.id, 1, 5)],
      read.1.lookUp (Catalog.sample.before Turn.sampleRevalidation read.2.1) =
          .ok [LinkType.sample] ∧
        read.1.lookUp (Catalog.sample.before Turn.sampleRevalidation read.2.2) =
          .ok [LinkType.sample] := by
    decide +kernel
  refine ⟨hclock, hhash, fun read hread => ?_⟩
  obtain ⟨hearlier, hlater⟩ := hrows read hread
  obtain ⟨response, hresponse⟩ : ∃ response,
      Catalog.sample.RespondsAt Turn.sampleRevalidation read.2.1 read.1 .sample response := by
    rcases List.mem_pair.1 hread with rfl | rfl <;>
      exact RespondsAt.exists_of_isClosed isClosed_sample rfl rfl hpolicies hearlier
  obtain ⟨answer, hanswer⟩ : ∃ answer,
      Catalog.sample.RespondsAt Turn.sampleRevalidation read.2.2 read.1 .sampleTagged answer := by
    rcases List.mem_pair.1 hread with rfl | rfl <;>
      exact RespondsAt.exists_of_isClosed isClosed_sample rfl rfl hpolicies hlater
  obtain ⟨settings, hfirst⟩ := hresponse.answer
  obtain ⟨laterSettings, hsecond⟩ := hanswer.answer
  have htag : response.headers.get? "etag" =
      some (HeaderValue.bytes (Validators.tagOf (Validators.message [LinkType.sample.stamp]))) := by
    rw [(Subject.fields_of_answer hfirst).1, Subject.validators, Subject.rows_of_lookUp hearlier]
    rfl
  have hcurrent : answer.status = .notModified := by
    rw [Subject.status_eq_notModified_iff hsecond, Validators.isNotModified_of_tag hsent,
      Subject.validators, Subject.rows_of_lookUp hlater]
    rfl
  have hmn : read.2.1 < read.2.2 := by
    rcases List.mem_pair.1 hread with rfl | rfl <;> decide
  exact ⟨response, answer, _, hresponse, htag, hanswer, hsent, hcurrent,
    rows_eq_of_tag .sample Turn.sampleRevalidation read.1 hclock hhash hmn hresponse htag hanswer
      hsent hcurrent⟩

end Catalog

end LinkCatalog
