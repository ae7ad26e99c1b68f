import LinkCatalog.Proofs.Http.TagList
import LinkCatalog.Proofs.Service.Descriptions

/-!
# Conditional requests

What a client says about its copy does not change what it is answered, except that the answer may be
cut to the message that the copy is current. That message has the header fields of the whole answer.
A client that lists the tag of the whole answer gets the message, whatever else is in its list.

## Main definitions

- `Request.unconditional` — the request of a client that has no copy
- `Response.IsShort` — the message that a copy is current

## Main statements

- `Subject.document_eq_of_base_eq` — documents depend on the scheme and the host of a request only
- `Subject.answer_unconditional` — what a client with a copy is answered
- `Turn.shortens` — the same for turns, and lists with the tag of the whole answer
-/

namespace LinkCatalog

-- ════════════════════════════════════════════════════════════════════════
-- Requests without conditions
-- ════════════════════════════════════════════════════════════════════════

/-- The request without what it says about the copy of the client. -/
def Request.unconditional (request : Request) : Request :=
  { request with headers := (request.headers.erase "if-none-match").erase "if-modified-since" }

namespace Request

theorem isUnconditional_unconditional (request : Request) :
    request.unconditional.IsUnconditional := by
  have hother : "if-none-match".toLower ≠ "if-modified-since".toLower := by decide +kernel
  constructor
  · rw [unconditional, Headers.get?_erase, if_neg hother, Headers.get?_erase, if_pos rfl]
  · rw [unconditional, Headers.get?_erase, if_pos rfl]

/-- The fields that say something else are still there. -/
theorem text?_unconditional (request : Request) {name : String}
    (htag : name.toLower ≠ "if-none-match".toLower)
    (hdate : name.toLower ≠ "if-modified-since".toLower) :
    request.unconditional.headers.text? name = request.headers.text? name := by
  rw [Headers.text?, Headers.text?, unconditional, Headers.get?_erase, if_neg hdate,
    Headers.get?_erase, if_neg htag]

theorem base_unconditional (request : Request) : request.unconditional.base = request.base := by
  have hscheme : request.unconditional.headers.text? "x-forwarded-proto" =
      request.headers.text? "x-forwarded-proto" :=
    request.text?_unconditional (by decide +kernel) (by decide +kernel)
  have hhost : request.unconditional.headers.text? "host" = request.headers.text? "host" :=
    request.text?_unconditional (by decide +kernel) (by decide +kernel)
  have huri : request.unconditional.uri = request.uri := rfl
  rw [base, base, scheme, scheme, host, host, hscheme, hhost, huri]

end Request

-- ════════════════════════════════════════════════════════════════════════
-- Documents for the same host
-- ════════════════════════════════════════════════════════════════════════

section Base

variable {request other : Request} (hbase : other.base = request.base)

include hbase

theorem Request.absolute_eq_of_base_eq : other.absolute = request.absolute := by
  funext path
  rw [absolute, absolute, hbase]

theorem LinkType.resource_eq_of_base_eq (spaceId : Uuid) :
    LinkType.resource other spaceId = LinkType.resource request spaceId := by
  funext row
  simp only [resource, LinkTypeData.ofLinkType, Request.absolute_eq_of_base_eq hbase]

theorem Catalog.related_eq_of_base_eq (catalog : Catalog) (rows : List LinkType) :
    catalog.related other rows = catalog.related request rows := by
  have hcategory : Included.ofCategory other = Included.ofCategory request := by
    funext category
    simp only [Included.ofCategory, Request.absolute_eq_of_base_eq hbase]
  have hspace : Included.ofSpace other = Included.ofSpace request := by
    funext space
    simp only [Included.ofSpace, Request.absolute_eq_of_base_eq hbase]
  rw [related, related, hcategory, hspace]

/-- A document depends on the scheme and the host of a request, and on nothing else in it. -/
theorem Subject.document_eq_of_base_eq (subject : Subject) (catalog : Catalog)
    (rows : List LinkType) :
    subject.document catalog other rows = subject.document catalog request rows := by
  cases subject with
  | single spaceId id =>
    simp only [document, Catalog.related_eq_of_base_eq hbase, LinkType.resource_eq_of_base_eq hbase]
  | all spaceId =>
    simp only [document, Catalog.related_eq_of_base_eq hbase, LinkType.resource_eq_of_base_eq hbase]

end Base

-- ════════════════════════════════════════════════════════════════════════
-- Short answers
-- ════════════════════════════════════════════════════════════════════════

/-- The response only says that the copy of the client is current. -/
def Response.IsShort {α : Type} (response : Response α) : Prop :=
  response.status = .notModified ∧ response.body = none

namespace Subject

variable {subject : Subject} {catalog : Catalog} {settings : Settings} {request : Request}

/-- A client whose copy is not current is answered as if it had none. -/
theorem answer_eq_of_not_current {rows : List LinkType} (hrows : subject.lookUp catalog = .ok rows)
    (hcurrent : (subject.validators settings catalog).isNotModified request.headers = false) :
    subject.answer settings request catalog =
      subject.answer settings request.unconditional catalog := by
  have hplain := Validators.isNotModified_of_isUnconditional request.isUnconditional_unconditional
    (subject.validators settings catalog)
  rw [answer_of_lookUp hrows, answer_of_lookUp hrows, Service.conditionalAnswer,
    Service.conditionalAnswer, hcurrent, hplain,
    document_eq_of_base_eq request.base_unconditional]

/-- A client with a copy is answered as if it had none, or that its copy is current. Then the header
    fields are those of the answer that it would have got otherwise. -/
theorem answer_unconditional (hpolicies : settings.HasPolicies) :
    subject.answer settings request catalog =
        subject.answer settings request.unconditional catalog ∨
      ∃ short, subject.answer settings request catalog = .ok short ∧ short.IsShort ∧
        ∀ full, subject.answer settings request.unconditional catalog = .ok full →
          short.headers = full.headers := by
  cases hrows : subject.lookUp catalog with
  | error failure => exact .inl (by rw [answer_of_missing hrows, answer_of_missing hrows])
  | ok rows =>
    cases hcurrent : (subject.validators settings catalog).isNotModified request.headers with
    | false => exact .inl (answer_eq_of_not_current hrows hcurrent)
    | true =>
      obtain ⟨policy, hpolicy⟩ := exists_headerValue hpolicies subject
      let short : Response Document :=
        { status := .notModified
          headers := (subject.validators settings catalog).fields policy
          body := none }
      have hshort : subject.answer settings request catalog = .ok short := by
        refine (answer_eq_ok_iff hrows).2 ⟨policy, hpolicy, rfl, ?_⟩
        rw [if_pos hcurrent]
        exact ⟨rfl, rfl⟩
      refine .inr ⟨short, hshort, ⟨rfl, rfl⟩, fun full hfull => ?_⟩
      obtain ⟨other, hother, hheaders, -⟩ := (answer_eq_ok_iff hrows).1 hfull
      obtain rfl : policy = other := Except.ok.inj (hpolicy.symm.trans hother)
      exact hheaders.symm

/-- The tag of an answer, as a client reads it. -/
theorem etag_of_answer {response : Response Document} {tag : List Char}
    (hanswer : subject.answer settings request catalog = .ok response)
    (htag : response.headers.text? "etag" = some tag) :
    tag = (subject.validators settings catalog).etag.toList := by
  rw [Headers.text?, (fields_of_answer hanswer).1, Option.bind_some, validators,
    Validators.ofStamps, HeaderValue.toText?_bytes fun c => Validators.isPlain_of_mem_tagOf] at htag
  exact (Option.some.inj htag).symm

/-- A client that lists the tag of an answer is told that its copy is current. -/
theorem isNotModified_of_spells {response : Response Document} {headers : Headers}
    {tag tags piece : List Char} (hanswer : subject.answer settings request catalog = .ok response)
    (htag : response.headers.text? "etag" = some tag)
    (htags : headers.text? "if-none-match" = some tags) (hpiece : piece ∈ tags.splitOn ',')
    (hspells : Validators.Spells piece tag) :
    (subject.validators settings catalog).isNotModified headers = true := by
  rw [etag_of_answer hanswer htag] at hspells
  rw [Validators.isNotModified_of_tags htags]
  exact Validators.matchesAny_iff.2 ⟨piece, hpiece, .inr hspells⟩

end Subject

namespace Turn

/-- **Short answers.** A client that says something about its copy is answered exactly as if it had
    not, or is told that its copy is current, without a body and with the header fields of the whole
    answer; where there is no whole answer, it gets the same failure or is told that its copy is
    current. And a client that has the tag of the whole answer among the pieces of a list, weak or
    not, is told so, whatever the other pieces are. -/
theorem shortens (turn plain : Turn) (subject : Subject) (request : Request) (catalog : Catalog)
    (hcommand : turn.command = subject.command request)
    (hplain : plain.command = subject.command request.unconditional)
    (hsettings : plain.settings = turn.settings) (hpolicies : turn.settings.HasPolicies) :
    match plain.answer catalog with
    | .ok full =>
      full.status = .ok ∧
      (turn.answer catalog = .ok full ∨ ∃ short, turn.answer catalog = .ok short ∧
        short.IsShort ∧ short.headers = full.headers) ∧
      ∃ tag, full.headers.text? "etag" = some tag ∧
        ∀ (later : Turn) (again : Request) (tags piece : List Char),
          later.command = subject.command again → later.settings = plain.settings →
          again.headers.text? "if-none-match" = some tags → piece ∈ tags.splitOn ',' →
          Validators.Spells piece tag →
          ∃ short, later.answer catalog = .ok short ∧ short.status = .notModified
    | .error failure =>
      turn.answer catalog = .error failure ∨
        ∃ short, turn.answer catalog = .ok short ∧ short.IsShort := by
  have hfull := answer_eq_of_read hplain catalog
  have hanswer := answer_eq_of_read hcommand catalog
  rw [hsettings] at hfull
  have hcases : subject.answer turn.settings request catalog =
      subject.answer turn.settings request.unconditional catalog ∨ _ :=
    Subject.answer_unconditional hpolicies
  rw [← hfull, ← hanswer] at hcases
  cases hgiven : plain.answer catalog with
  | error failure =>
    rw [hgiven] at hcases
    rcases hcases with hsame | ⟨short, hshort, hcut, -⟩
    · exact .inl hsame
    · exact .inr ⟨short, hshort, hcut⟩
  | ok full =>
    rw [hgiven] at hcases hfull
    have hlookUp := Subject.lookUp_of_answer hfull.symm
    have htag : ∃ tag, full.headers.text? "etag" = some tag := by
      rw [Headers.text?, (Subject.fields_of_answer hfull.symm).1, Option.bind_some]
      exact ⟨_, HeaderValue.toText?_bytes fun c => Validators.isPlain_of_mem_tagOf⟩
    obtain ⟨tag, htag⟩ := htag
    obtain ⟨policy, hpolicy⟩ := Subject.exists_headerValue hpolicies subject
    refine ⟨Subject.status_of_isUnconditional request.isUnconditional_unconditional hfull.symm,
      ?_, tag, htag, ?_⟩
    · rcases hcases with hsame | ⟨short, hshort, hcut, hheaders⟩
      · exact .inl hsame
      · exact .inr ⟨short, hshort, hcut, hheaders full rfl⟩
    · intro later again tags piece hagain hsame htags hpiece hspells
      rw [answer_eq_of_read hagain, hsame, hsettings]
      exact Subject.exists_answer_of_isNotModified hlookUp hpolicy
        (Subject.isNotModified_of_spells hfull.symm htag htags hpiece hspells)

end Turn

/-- A request of a client that lists the tag of the row for examples as a weak one, next to something
    that is no tag at all. -/
def Request.sampleListed : Request :=
  { Request.sample with
    headers := Headers.empty.insert "if-none-match"
      (HeaderValue.bytes ("?, W/" ++ Validators.tagOf (Validators.message [LinkType.sample.stamp]))) }

/-- What the client sends, as it is read. -/
theorem Request.text?_sampleListed :
    sampleListed.headers.text? "if-none-match" =
      some ("?, W/".toList ++
        (Validators.tagOf (Validators.message [LinkType.sample.stamp])).toList) := by
  have hsent : sampleListed.headers.get? "if-none-match" = some (HeaderValue.bytes _) :=
    (Headers.get?_insert _ _ _ _).trans (if_pos rfl)
  have hplain : ∀ c ∈ "?, W/".toList, HeaderValue.IsPlain c :=
    fun _ => HeaderValue.isPlain_of_all (by decide)
  rw [Headers.text?, hsent, Option.bind_some, HeaderValue.toText?_bytes, String.toList_append]
  intro c hc
  rw [String.toList_append, List.mem_append] at hc
  rcases hc with hc | hc
  · exact hplain c hc
  · exact Validators.isPlain_of_mem_tagOf hc

/-- The client that lists the tag gets a short answer in place of the whole one. -/
theorem Turn.shortens_sampleListed :
    let subject := Subject.single Space.sample.id LinkType.sample.id
    let turn := Turn.sample (subject.command .sampleListed)
    let plain := Turn.sample (subject.command Request.sampleListed.unconditional)
    turn.settings.HasPolicies ∧ ∃ full short, plain.answer .sample = .ok full ∧
      full.status = .ok ∧ turn.answer .sample = .ok short ∧ short.IsShort ∧
      short.headers = full.headers := by
  intro subject turn plain
  have hpolicies : turn.settings.HasPolicies := by decide +kernel
  have hrows : subject.lookUp .sample = .ok [LinkType.sample] := rfl
  have hrelated : ∀ row ∈ [LinkType.sample], Catalog.sample.HasRelated row := by
    intro row hrow
    rw [List.mem_singleton.1 hrow]
    exact ⟨⟨.sample, rfl⟩, .sample, rfl⟩
  obtain ⟨full, hserved, -⟩ : ∃ full, subject.answer turn.settings
      Request.sampleListed.unconditional .sample = .ok full ∧ full.IsServed :=
    Subject.exists_isServed hpolicies hrows hrelated
  have hfull : plain.answer .sample = .ok full := (answer_eq_of_read rfl _).trans hserved
  have hshortens := shortens turn plain subject .sampleListed .sample rfl rfl rfl hpolicies
  rw [hfull] at hshortens
  obtain ⟨hstatus, hcut, tag, htag, hlisted⟩ := hshortens
  have heq := Subject.etag_of_answer hserved htag
  rw [Subject.validators, Subject.rows_of_lookUp hrows] at heq
  have hcomma : ',' ∉ " W/".toList ++ tag := by
    rw [List.mem_append, not_or, heq]
    exact ⟨by decide +kernel, Validators.not_mem_tagOf_comma _⟩
  have hpiece : " W/".toList ++ tag ∈ ("?, W/".toList ++ tag).splitOn ',' := by
    have hsplit : "?, W/".toList ++ tag = ['?'] ++ ',' :: (" W/".toList ++ tag) := rfl
    rw [hsplit, List.splitOn_append_cons_self, List.splitOn_eq_singleton hcomma]
    exact List.mem_append_right _ (List.mem_singleton_self _)
  have hspells : Validators.Spells (" W/".toList ++ tag) tag :=
    ⟨[' '], 1, [], by decide, Text.areBlank_nil, (List.append_nil _).symm⟩
  have hsent := Request.text?_sampleListed
  have hlist : Validators.tagOf (Validators.message [LinkType.sample.stamp]) =
      (Validators.ofStamps ([LinkType.sample].map LinkType.stamp) (subject.cacheControl
        turn.settings)).etag := rfl
  rw [hlist, ← heq] at hsent
  obtain ⟨answer, hanswer, hcurrent⟩ :=
    hlisted turn .sampleListed _ _ rfl rfl hsent hpiece hspells
  rcases hcut with hsame | ⟨short, hshort, hcut, hheaders⟩
  · cases hanswer.symm.trans hsame
    rw [hstatus] at hcurrent
    cases hcurrent
  · exact ⟨hpolicies, full, short, hfull, hstatus, hshort, hcut, hheaders⟩

end LinkCatalog
