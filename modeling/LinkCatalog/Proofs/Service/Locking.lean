import LinkCatalog.Proofs.Program.Calls
import LinkCatalog.Proofs.Service.Interleaving

/-!
# Optimistic locking

A client that wants to change a row first asks for it, and sends the version that it was shown back
with the change. While other turns use the catalog, this keeps the change from overwriting what the
client has not seen, with one exception: a row that was created under the identifier of a deleted
one starts its versions anew.

## Main definitions

- `ShownAt`, `UpdatedAt` — what a client does, and is answered
- `Passage` — the part of a trace from the look-up of a row to a save
- `Passage.IsRevision` — the look-up and the save belong to a client that sends back the version
  that it was shown

## Main statements

- `Passage.stored_eq_seen` — the row that is overwritten is the one that was shown
- `exists_passage_of_serial` — revisions in turns that run one after the other
- `exists_unseen_overwritten` — the exception occurs
-/

namespace LinkCatalog

/-- The version in an answer that shows a row in full. -/
def Response.shownVersion? (response : Response Document) : Option Int32 :=
  match response.body with
  | some (.single document) => if response.status = .ok then document.version? else none
  | _ => none

/-- The turn with a number is over, and has shown the row with an identifier at a version. -/
def ShownAt (turns : List Turn) (trace : List Move) (owner : Nat) (id : Uuid) (version : Int32) :
    Prop :=
  ∃ turn request spaceId response, turn.command = .display request spaceId id ∧
    Answered turns trace owner turn (.ok response) ∧ response.shownVersion? = some version

/-- The turn with a number is over, and has succeeded in updating the row with an identifier from a
    version on. -/
def UpdatedAt (turns : List Turn) (trace : List Move) (owner : Nat) (id : Uuid) (version : Int32) :
    Prop :=
  ∃ turn request payload spaceId identity response,
    turn.command = .update request payload spaceId identity ∧ payload.id? = some id ∧
    payload.version? = some version ∧ Answered turns trace owner turn (.ok response)

-- ════════════════════════════════════════════════════════════════════════
-- The calls of the client
-- ════════════════════════════════════════════════════════════════════════

/-- An answer has the status and the body that it was given, if its validators can be written. -/
theorem Service.eq_of_validated {α : Type} {status : Status} {validators : Validators}
    {body : Option α} {response : Response α}
    (h : validated status validators body = .ok response) :
    response.status = status ∧ response.body = body := by
  unfold validated at h
  split at h
  · cases h
    exact ⟨rfl, rfl⟩
  · cases h

/-- The document that shows a row names its version. -/
theorem Service.version?_of_displayed {request : Request} {spaceId : Uuid} {row : LinkType}
    {lookups : List Exchange} {document : SingleDocument}
    (h : (displayed request spaceId row).run.Dialogue lookups (.ok document)) :
    document.version? = some row.version := by
  rcases Action.dialogue_bind_iff.1 h with ⟨failure, -, hvalue⟩ |
    ⟨before, included, after, rfl, -, -, hvalue⟩
  · cases hvalue
  · cases hvalue
    rfl

/-- A turn that has shown a row has looked it up first, and nothing else but related resources. -/
theorem exchanges_of_shown {turn : Turn} {request : Request} {spaceId id : Uuid} {version : Int32}
    {exchanges : List Exchange} {response : Response Document}
    (hcommand : turn.command = .display request spaceId id)
    (hdialogue : turn.program.Dialogue exchanges (.ok response))
    (hshown : response.shownVersion? = some version) :
    ∃ row lookups, exchanges = ⟨.loadLinkType id, .ok row⟩ :: lookups ∧ row.version = version ∧
      ∀ exchange ∈ lookups, exchange.call.IsRelated := by
  rw [Turn.program, Service.dialogue_handle_iff, hcommand] at hdialogue
  obtain ⟨result, hcourse, hvalue⟩ := Action.dialogue_map_iff.1 hdialogue
  cases result with
  | error failure => cases hvalue
  | ok single =>
    cases hvalue
    cases Service.displaying_of_display hcourse with
    | @found row lookups _ hconditional =>
      have hrelated := hconditional.callsOnly (Service.callsOnly_displayed request spaceId row)
      refine ⟨row, lookups, rfl, ?_, hrelated⟩
      generalize hresult : (Except.ok single : Except Failure _) = result at hconditional
      cases hconditional with
      | current hcurrent =>
        obtain ⟨hstatus, hbody⟩ := Service.eq_of_validated hresult.symm
        simp [Response.shownVersion?, Response.map, hbody] at hshown
      | failed hcurrent hlookups => cases hresult
      | @full lookups document hcurrent hlookups =>
        obtain ⟨hstatus, hbody⟩ := Service.eq_of_validated hresult.symm
        simp only [Response.shownVersion?, Response.map, hstatus, hbody, Option.map_some, if_pos,
          Service.version?_of_displayed hlookups, Option.some.injEq] at hshown
        exact hshown

/-- A turn that has updated a row has saved it last, and before that only looked up related
    resources. -/
theorem exchanges_of_updated {turn : Turn} {request : Request} {payload : SingleDocument}
    {spaceId id : Uuid} {identity : Option Uuid} {version : Int32} {exchanges : List Exchange}
    {response : Response Document}
    (hcommand : turn.command = .update request payload spaceId identity)
    (hid : payload.id? = some id) (hversion : payload.version? = some version)
    (hdialogue : turn.program.Dialogue exchanges (.ok response)) :
    ∃ lookups row saved, exchanges = lookups ++ [⟨.saveLinkType row turn.now, .ok saved⟩] ∧
      row.id = id ∧ row.version = version ∧ ∀ exchange ∈ lookups, exchange.call.IsRelated := by
  rw [Turn.program, Service.dialogue_handle_iff, hcommand] at hdialogue
  obtain ⟨result, hcourse, hvalue⟩ := Action.dialogue_map_iff.1 hdialogue
  cases result with
  | error failure => cases hvalue
  | ok single =>
    have hstoring := Service.storing_of_update hcourse
    generalize hresult : (Except.ok single : Except Failure _) = result at hstoring
    cases hstoring with
    | refused hchecked => cases hresult
    | unrelated hchecked hlookups => cases hresult
    | @written row lookups included answer hchecked hlookups =>
      cases answer with
      | error failure => cases hresult
      | ok saved =>
        obtain ⟨-, -, -, described, -, hdescribed, rfl⟩ :=
          Service.rowToUpdate_eq_ok_iff.1 hchecked
        have hrowId : described.id = id := SingleDocument.id_of_toLinkType hdescribed hid
        have hrowVersion : described.version = version :=
          SingleDocument.version_of_toLinkType hdescribed hversion
        exact ⟨lookups, _, saved, rfl, hrowId, hrowVersion,
          Service.callsOnly_relatedTo _ _ _ _ hlookups⟩

-- ════════════════════════════════════════════════════════════════════════
-- From the look-up to the save
-- ════════════════════════════════════════════════════════════════════════

/-- A trace with the look-up of a row and, after that, a save marked in it. -/
structure Passage where
  earlier : List Move
  shower : Nat
  id : Uuid
  /-- The row that was found. -/
  seen : LinkType
  between : List Move
  updater : Nat
  row : LinkType
  now : Instant
  saved : Except Failure LinkType
  later : List Move

namespace Passage

/-- The look-up of the row. -/
def lookup (passage : Passage) : Move :=
  ⟨passage.shower, ⟨.loadLinkType passage.id, .ok passage.seen⟩⟩

/-- The save. -/
def save (passage : Passage) : Move :=
  ⟨passage.updater, ⟨.saveLinkType passage.row passage.now, passage.saved⟩⟩

/-- The trace up to the save, and without it. -/
def head (passage : Passage) : List Move :=
  passage.earlier ++ passage.lookup :: passage.between

/-- The whole trace. -/
def trace (passage : Passage) : List Move :=
  passage.head ++ passage.save :: passage.later

/-- The catalog that the save meets. -/
def before (passage : Passage) (start : Catalog) : Catalog :=
  start.afterExchanges (passage.head.map Move.exchange)

/-- In an interleaving, the look-up belongs to a turn that shows the row, and the save to one that
    succeeds in updating it from the version on that was shown. -/
structure IsRevision (turns : List Turn) (start finish : Catalog) (version : Int32)
    (passage : Passage) : Prop where
  interleaving : Interleaving turns start passage.trace finish
  shown : ShownAt turns passage.trace passage.shower passage.id version
  updated : UpdatedAt turns passage.trace passage.updater passage.id version

variable {passage : Passage} {turns : List Turn} {start finish : Catalog} {version : Int32}

theorem lookup_mem_trace (passage : Passage) : passage.lookup ∈ passage.trace := by
  simp [trace, head]

theorem save_mem_trace (passage : Passage) : passage.save ∈ passage.trace := by
  simp [trace]

namespace IsRevision

/-- The row that was found has the version that was shown. -/
theorem version_seen (h : passage.IsRevision turns start finish version) :
    passage.seen.version = version := by
  obtain ⟨turn, request, spaceId, response, hcommand, ⟨-, hdialogue⟩, hshown⟩ := h.shown
  obtain ⟨row, lookups, hexchanges, hversion, hrelated⟩ :=
    exchanges_of_shown hcommand hdialogue hshown
  have hmem : passage.lookup.exchange ∈ exchangesOf passage.shower passage.trace :=
    mem_exchangesOf passage.lookup_mem_trace
  rw [hexchanges] at hmem
  rcases List.mem_cons.1 hmem with hlookup | hlookup
  · cases hlookup
    exact hversion
  · exact (hrelated _ hlookup).elim

/-- The save was for the row and the version that were shown, and it succeeded. -/
theorem save_succeeds (h : passage.IsRevision turns start finish version) :
    passage.row.id = passage.id ∧ passage.row.version = version ∧
      ∃ saved, passage.saved = .ok saved := by
  obtain ⟨turn, request, payload, spaceId, identity, response, hcommand, hid, hversion, -,
    hdialogue⟩ := h.updated
  obtain ⟨lookups, row, saved, hexchanges, hrow, hrowVersion, hrelated⟩ :=
    exchanges_of_updated hcommand hid hversion hdialogue
  have hmem : passage.save.exchange ∈ exchangesOf passage.updater passage.trace :=
    mem_exchangesOf passage.save_mem_trace
  rw [hexchanges] at hmem
  rcases List.mem_append.1 hmem with hsave | hsave
  · exact (hrelated _ hsave).elim
  · have hsave := List.mem_singleton.1 hsave
    cases passage
    cases hsave
    exact ⟨hrow, hrowVersion, saved, rfl⟩

end IsRevision

/-- **No lost update.** The row that an update overwrites is exactly the one that its client was
    shown, unless a row was inserted under its identifier in between, or it was saved so often that
    its versions have come round. -/
theorem stored_eq_seen (h : passage.IsRevision turns start finish version)
    (hinserted : ∀ move ∈ passage.between, move.exchange.inserted? ≠ some passage.id)
    (hsaves : saveCount (passage.between.map Move.exchange) passage.id < UInt32.size) :
    (passage.before start).linkTypes.find? passage.id = some passage.seen := by
  obtain ⟨hrow, hversion, saved, hsaved⟩ := h.save_succeeds
  have hperformed := h.interleaving.performed
  rw [trace, List.map_append, Catalog.performs_append_iff] at hperformed
  obtain ⟨before, hbefore, hsave, -⟩ := hperformed
  rw [Passage.before, Catalog.afterExchanges_of_performs hbefore]
  -- The catalog at the look-up, and what happened to the row since.
  rw [head, List.map_append, Catalog.performs_append_iff] at hbefore
  obtain ⟨looked, -, hlookup, hbetween⟩ := hbefore
  have hseen : looked.linkTypes.find? passage.id = some passage.seen :=
    Catalog.loadLinkType_eq_ok_iff.1 hlookup
  have hid : passage.seen.id = passage.id := Table.id_of_find? hseen
  rw [← hid] at hseen hinserted hsaves ⊢
  have hkeeps := (Catalog.Keeps.of_find? hseen).performs hbetween fun exchange hexchange => by
    obtain ⟨move, hmove, rfl⟩ := List.mem_map.1 hexchange
    exact hinserted move hmove
  rw [Nat.zero_add] at hkeeps
  -- The save succeeded, so that it met a row with the version that was shown.
  have hanswer : (Call.written before (before.saveLinkType passage.row passage.now)).1 =
      .ok saved := hsave.trans hsaved
  rcases Call.written_cases before (before.saveLinkType passage.row passage.now) with
    ⟨failure, -, hwritten⟩ | ⟨value, after, hwrite, -⟩
  · rw [hwritten] at hanswer
    cases hanswer
  · obtain ⟨-, stored, hstored, hstoredVersion, -⟩ := Catalog.saveLinkType_eq_ok_iff.1 hwrite
    rw [hrow, ← hid] at hstored
    have hsame : stored.version = passage.seen.version := by
      rw [hstoredVersion, hversion, h.version_seen]
    rw [hstored, hkeeps.eq_of_version hsaves hstored hsame]

end Passage

-- ════════════════════════════════════════════════════════════════════════
-- Turns that run one after the other
-- ════════════════════════════════════════════════════════════════════════

section Serial

variable {start : Catalog} {shower updater : Turn} {middle : List Turn} {id : Uuid}
  {seen row : LinkType} {saved : Except Failure LinkType} {lookups lookups' : List Exchange}

/-- The passage from a turn that looks up a row first, to one that saves a row last. -/
def Passage.serial (start : Catalog) (shower updater : Turn) (middle : List Turn) (id : Uuid)
    (seen row : LinkType) (saved : Except Failure LinkType) (lookups lookups' : List Exchange) :
    Passage :=
  { earlier := []
    shower := 0
    id, seen
    between := lookups.map (Move.mk 0) ++ (shower.after start).serialTrace 1 middle ++
      lookups'.map (Move.mk (middle.length + 1))
    updater := middle.length + 1
    row
    now := updater.now
    saved
    later := [] }

theorem Passage.trace_serial
    (hshower : shower.program.exchanges start = ⟨.loadLinkType id, .ok seen⟩ :: lookups)
    (hupdater : updater.program.exchanges (start.afterTurns (shower :: middle)) =
      lookups' ++ [⟨.saveLinkType row updater.now, saved⟩]) :
    (serial start shower updater middle id seen row saved lookups lookups').trace =
      start.serialTrace 0 (shower :: (middle ++ [updater])) := by
  have hmiddle : (shower.after start).afterTurns middle = start.afterTurns (shower :: middle) := rfl
  rw [Catalog.serialTrace, serialTrace_append, hmiddle, Catalog.serialTrace, Catalog.soloTrace,
    Catalog.soloTrace, hshower, hupdater]
  simp [serial, trace, head, lookup, save, Catalog.serialTrace, Nat.add_comm]

/-- The look-ups before a save leave the catalog as the turns in between have left it. -/
theorem Passage.before_serial
    (hshower : shower.program.exchanges start = ⟨.loadLinkType id, .ok seen⟩ :: lookups)
    (hupdater : updater.program.exchanges (start.afterTurns (shower :: middle)) =
      lookups' ++ [⟨.saveLinkType row updater.now, saved⟩])
    (hrelated : ∀ exchange ∈ lookups', exchange.call.IsRelated) :
    (serial start shower updater middle id seen row saved lookups lookups').before start =
      start.afterTurns (shower :: middle) := by
  have hfirst := shower.program.performs_exchanges start
  have hmiddle := performs_serialTrace (shower.after start) 1 middle
  have hlast := updater.program.performs_exchanges (start.afterTurns (shower :: middle))
  rw [hupdater, Catalog.performs_append_iff] at hlast
  obtain ⟨met, hlookups, -⟩ := hlast
  have hmet := Catalog.eq_of_performs_related hrelated hlookups
  rw [hmet] at hlookups
  refine Catalog.afterExchanges_of_performs ?_
  have hhead : ((serial start shower updater middle id seen row saved lookups lookups').head.map
      Move.exchange) = shower.program.exchanges start ++
        (((shower.after start).serialTrace 1 middle).map Move.exchange ++ lookups') := by
    rw [hshower]
    simp [serial, head, lookup, Function.comp_def]
  rw [hhead, Catalog.performs_append_iff]
  refine ⟨shower.after start, hfirst, ?_⟩
  rw [Catalog.performs_append_iff]
  exact ⟨_, hmiddle, hlookups⟩

/-- A row is shown, other turns come in between, and then the row is updated: that is a revision,
    and what happens in between is what the other turns do. Showing the row changes nothing, so
    that they start from the catalog that was shown. -/
theorem exists_passage_of_serial (start : Catalog) (shower updater : Turn) (middle : List Turn)
    {request request' : Request} {payload : SingleDocument} {spaceId spaceId' : Uuid}
    {identity : Option Uuid} {version : Int32}
    (hshow : shower.command = .display request spaceId id)
    (hshown : (shower.answer start).toOption.bind Response.shownVersion? = some version)
    (hupdate : updater.command = .update request' payload spaceId' identity)
    (hid : payload.id? = some id) (hversion : payload.version? = some version)
    (hupdated : (updater.answer (start.afterTurns middle)).isOk = true) :
    ∃ passage : Passage,
      passage.IsRevision (shower :: (middle ++ [updater])) start
        (start.afterTurns (shower :: (middle ++ [updater]))) version ∧
      passage.id = id ∧ start.linkTypes.find? id = some passage.seen ∧
      passage.before start = start.afterTurns middle ∧
      ∀ move ∈ passage.between, move.exchange.call.IsRelated ∨
        move ∈ start.serialTrace 1 middle := by
  have hread : shower.command.IsRead := by
    rw [hshow]
    trivial
  have hafter : shower.after start = start := Turn.after_of_isRead hread start
  have hmiddle := Catalog.afterTurns_cons_of_isRead hread start middle
  rw [← hmiddle] at hupdated
  obtain ⟨response, hresponse, hshown⟩ := Option.bind_eq_some_iff.1 hshown
  have hanswer : shower.answer start = .ok response := by
    cases h : shower.answer start <;> simp_all [Except.toOption]
  obtain ⟨updatedResponse, hupdated⟩ := Failure.exists_of_isOk hupdated
  have hfirst := shower.program.dialogue_exchanges start
  have hlast := updater.program.dialogue_exchanges (start.afterTurns (shower :: middle))
  rw [← Turn.answer, hanswer] at hfirst
  rw [← Turn.answer, hupdated] at hlast
  obtain ⟨seen, lookups, hshower, -, hrelated⟩ := exchanges_of_shown hshow hfirst hshown
  obtain ⟨lookups', row, saved, hupdater, -, -, hrelated'⟩ :=
    exchanges_of_updated hupdate hid hversion hlast
  have htrace := Passage.trace_serial hshower hupdater
  refine ⟨.serial start shower updater middle id seen row (.ok saved) lookups lookups',
    ⟨?_, ?_, ?_⟩, rfl, ?_, (Passage.before_serial hshower hupdater hrelated').trans hmiddle, ?_⟩
  · rw [htrace]
    exact interleaving_serialTrace start _
  · rw [htrace]
    exact ⟨shower, request, spaceId, response, hshow, answered_serialTrace start rfl hanswer,
      hshown⟩
  · rw [htrace]
    refine ⟨updater, request', payload, spaceId', identity, updatedResponse, hupdate, hid, hversion,
      answered_serialTrace start ?_ ?_⟩
    · simp [Passage.serial]
    · simpa [Passage.serial] using hupdated
  · have hperforms := shower.program.performs_exchanges start
    rw [hshower] at hperforms
    exact Catalog.loadLinkType_eq_ok_iff.1 hperforms.1
  · intro move hmove
    rcases List.mem_append.1 hmove with hmove | hmove
    · rcases List.mem_append.1 hmove with hmove | hmove
      · obtain ⟨exchange, hexchange, rfl⟩ := List.mem_map.1 hmove
        exact .inl (hrelated exchange hexchange)
      · rw [hafter] at hmove
        exact .inr hmove
    · obtain ⟨exchange, hexchange, rfl⟩ := List.mem_map.1 hmove
      exact .inl (hrelated' exchange hexchange)

end Serial

theorem shownVersion?_sampleDisplay :
    (Turn.sampleDisplay.answer .sample).toOption.bind Response.shownVersion? = some 0 := by
  decide +kernel

/-- Another client adds a row next to the one for examples. -/
def Turn.sampleAside : Turn :=
  .sample (.create .sample (.sample { LinkType.sample with id := ⟨8⟩, name := "Aggregate" })
    Space.sample.id (some ⟨7⟩))

/-- That client renames the row that it has added. -/
def Turn.sampleAsideRename : Turn :=
  .sample (.update .sample (.sample { LinkType.sample with id := ⟨8⟩, name := "Part" })
    Space.sample.id (some ⟨7⟩))

/-- The other client leaves the row for examples alone. -/
theorem spared_of_sampleAside :
    ∀ move ∈ Catalog.sample.serialTrace 1 [.sampleAside, .sampleAsideRename],
      move.exchange.inserted? ≠ some LinkType.sample.id ∧
        move.exchange.saved? ≠ some LinkType.sample.id := by
  decide +kernel

/-- The row for examples is shown and then renamed, while another client adds and renames a row. -/
theorem Passage.stored_eq_seen_sample :
    let turns := [Turn.sampleDisplay, .sampleAside, .sampleAsideRename, .sampleRename]
    ∃ passage : Passage,
      passage.IsRevision turns .sample (Catalog.sample.afterTurns turns) 0 ∧
      ((passage.before .sample).linkTypes.find? ⟨8⟩).map LinkType.name = some "Part" ∧
      (∀ move ∈ passage.between, move.exchange.inserted? ≠ some passage.id) ∧
      saveCount (passage.between.map Move.exchange) passage.id < UInt32.size ∧
      (passage.before .sample).linkTypes.find? passage.id = some passage.seen := by
  intro turns
  obtain ⟨passage, hrevision, hid, -, hbefore, hbetween⟩ :=
    exists_passage_of_serial .sample .sampleDisplay .sampleRename [.sampleAside, .sampleAsideRename]
      rfl shownVersion?_sampleDisplay rfl rfl rfl (by decide +kernel)
  have hother : ((passage.before .sample).linkTypes.find? ⟨8⟩).map LinkType.name = some "Part" := by
    rw [hbefore]
    decide +kernel
  have hspared : ∀ move ∈ passage.between, move.exchange.inserted? ≠ some passage.id ∧
      move.exchange.saved? ≠ some passage.id := by
    intro move hmove
    rcases hbetween move hmove with hrelated | hother
    · rw [Exchange.inserted?_of_isRelated hrelated, Exchange.saved?_of_isRelated hrelated]
      simp
    · rw [hid]
      exact spared_of_sampleAside move hother
  have hinserted : ∀ move ∈ passage.between, move.exchange.inserted? ≠ some passage.id :=
    fun move hmove => (hspared move hmove).1
  have hcount : saveCount (passage.between.map Move.exchange) passage.id = 0 := by
    refine List.countP_eq_zero.2 fun exchange hexchange => ?_
    obtain ⟨move, hmove, rfl⟩ := List.mem_map.1 hexchange
    simpa using (hspared move hmove).2
  have hsaves : saveCount (passage.between.map Move.exchange) passage.id < UInt32.size := by
    rw [hcount]
    decide
  exact ⟨passage, hrevision, hother, hinserted, hsaves,
    stored_eq_seen hrevision hinserted hsaves⟩

/-- Another row is created under the identifier of the row for examples. -/
def Turn.sampleRecreation : Turn :=
  .sample (.create .sample (.sample { LinkType.sample with name := "Barrier" }) Space.sample.id
    (some ⟨6⟩))

/-- **The exception.** A row is shown, deleted, and created anew with another name. The update of
    the row that was shown succeeds, and overwrites the one that was not. -/
theorem exists_unseen_overwritten :
    ∃ passage : Passage,
      passage.IsRevision [.sampleDisplay, .sampleDeletion, .sampleRecreation, .sampleRename] .sample
        (Catalog.sample.afterTurns
          [.sampleDisplay, .sampleDeletion, .sampleRecreation, .sampleRename]) 0 ∧
      passage.seen.name = "Blocker" ∧
      ((passage.before .sample).linkTypes.find? passage.id).map LinkType.name = some "Barrier" ∧
      (passage.before .sample).linkTypes.find? passage.id ≠ some passage.seen := by
  obtain ⟨passage, hrevision, hid, hseen, hbefore, -⟩ :=
    exists_passage_of_serial .sample .sampleDisplay .sampleRename
      [.sampleDeletion, .sampleRecreation] rfl shownVersion?_sampleDisplay rfl rfl rfl
      (by decide +kernel)
  have hblocker : passage.seen.name = "Blocker" := by
    have hsample : Catalog.sample.linkTypes.find? LinkType.sample.id = some .sample := by decide
    rw [hsample] at hseen
    rw [← Option.some.inj hseen]
    rfl
  have hbarrier : ((passage.before .sample).linkTypes.find? passage.id).map LinkType.name =
      some "Barrier" := by
    rw [hbefore, hid]
    decide +kernel
  refine ⟨passage, hrevision, hblocker, hbarrier, fun hsame => ?_⟩
  rw [hsame, Option.map_some, hblocker] at hbarrier
  exact absurd hbarrier (by decide)

end LinkCatalog
