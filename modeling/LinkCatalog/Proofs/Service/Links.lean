import LinkCatalog.Proofs.Document.References
import LinkCatalog.Proofs.Service.Addresses
import LinkCatalog.Proofs.Service.Descriptions

/-!
# Links

Wherever an answer names a resource, it links to the path of that resource on the host that the
client used. The four kinds of resources have paths of different lengths, and a path ends with an
identifier, so that a link tells its resource, whatever scheme and host the request gives.

## Main definitions

- `Resource` — what can be linked to
- `Mention.ofResource` — the name of a resource with links to it
- `Response.mentions` — all names and links in an answer

## Main statements

- `Resource.path_injective` — a path tells the resource
- `Turn.exists_namesUnder` — an answer names resources with links to them
- `Turn.links_identify` — what the links in an answer tell
-/

namespace LinkCatalog

-- ════════════════════════════════════════════════════════════════════════
-- Resources and their paths
-- ════════════════════════════════════════════════════════════════════════

/-- What can be linked to. A link type is linked to under a space. -/
inductive Resource where
  | linkType (spaceId id : Uuid)
  | category (id : Uuid)
  | space (id : Uuid)
  | identity (id : Uuid)
deriving DecidableEq

namespace Resource

/-- Where a resource is found on any host of the service. -/
def path : Resource → String
  | linkType spaceId id => Href.linkType spaceId id
  | category id => Href.category id
  | space id => Href.space id
  | identity id => Href.identity id

/-- The name of a resource in documents. It does not tell the space of a link type. -/
def name : Resource → ResourceId
  | linkType _ id => .ofType linkTypesType id
  | category id => .ofType categoriesType id
  | space id => .ofType spacesType id
  | identity id => .ofType identitiesType id

/-- A link type is linked to under the space. -/
def IsUnder (spaceId : Uuid) : Resource → Prop
  | linkType other _ => other = spaceId
  | category _ | space _ | identity _ => True

/-- The length of a path tells the kind of the resource. -/
theorem length_path (resource : Resource) :
    resource.path.length =
      match resource with
      | linkType .. => 103
      | category _ => 64
      | space _ => 48
      | identity _ => 47 := by
  cases resource with
  | linkType spaceId id =>
    simp only [path, Href.linkType, String.length_append, Uuid.length_toText]
    rfl
  | category id => exact Uuid.length_append_toText _ id
  | space id => exact Uuid.length_append_toText _ id
  | identity id => exact Uuid.length_append_toText _ id

/-- A path tells the resource. No two kinds of resources have paths of one length, and within a kind
    the paths differ in identifiers only. -/
theorem path_injective : Function.Injective path := by
  intro a b h
  have hlength := congrArg String.length h
  rw [length_path, length_path] at hlength
  have id_eq : ∀ {start : String} {id other : Uuid},
      start ++ id.toText = start ++ other.toText → id = other :=
    fun h => Uuid.toText_injective ((String.append_right_inj _).1 h)
  cases a with
  | linkType spaceId id =>
    cases b with
    | linkType otherSpace other =>
      obtain ⟨rfl, rfl⟩ := Href.linkType_inj.1 h
      rfl
    | _ => cases hlength
  | category id =>
    cases b with
    | category other => exact congrArg category (id_eq h)
    | _ => cases hlength
  | space id =>
    cases b with
    | space other => exact congrArg space (id_eq h)
    | _ => cases hlength
  | identity id =>
    cases b with
    | identity other => exact congrArg identity (id_eq h)
    | _ => cases hlength

/-- Under one space, the name of a resource tells the resource. -/
theorem eq_of_name_eq {spaceId : Uuid} {a b : Resource} (ha : a.IsUnder spaceId)
    (hb : b.IsUnder spaceId) (h : a.name = b.name) : a = b := by
  cases a <;> cases b <;>
    simp_all [name, ResourceId.ofType, IsUnder, linkTypesType, categoriesType, spacesType,
      identitiesType]

/-- The paths of resources are absolute. -/
theorem head?_path (resource : Resource) : resource.path.toList.head? = some '/' := by
  have append : ∀ {start rest : String}, start.toList.head? = some '/' →
      (start ++ rest).toList.head? = some '/' := by
    intro start rest h
    rw [String.toList_append, List.head?_append, h, Option.some_or]
  cases resource with
  | linkType spaceId id => exact append (append (append rfl))
  | category id => exact append rfl
  | space id => exact append rfl
  | identity id => exact append rfl

end Resource

namespace Mention

variable {request : Request} {a b : Resource}

/-- The name of a resource with links to it. -/
def ofResource (request : Request) (resource : Resource) : Mention :=
  { resource := some resource.name
    links := some (Links.same (request.absolute resource.path)) }

theorem mem_addresses_ofResource {address : String} :
    address ∈ (ofResource request a).addresses ↔ address = request.absolute a.path := by
  simp [ofResource, addresses, Links.same]

/-- Links to two resources have an address in common only if the resources are the same. -/
theorem exists_mem_addresses_iff :
    (∃ address, address ∈ (ofResource request a).addresses ∧
      address ∈ (ofResource request b).addresses) ↔ a = b := by
  simp only [mem_addresses_ofResource, exists_eq_left]
  rw [Request.absolute_inj, Resource.path_injective.eq_iff]

/-- A resource is named with links to it; a link type has its links under the space. -/
def NamesUnder (request : Request) (spaceId : Uuid) (mention : Mention) : Prop :=
  ∃ resource : Resource, resource.IsUnder spaceId ∧ mention = ofResource request resource

end Mention

-- ════════════════════════════════════════════════════════════════════════
-- What documents mention
-- ════════════════════════════════════════════════════════════════════════

/-- The resources attached to a document. -/
def Document.included : Document → List Included
  | .single document => document.included
  | .list document => document.included

/-- All names and links in a document. -/
def Document.mentions (document : Document) : List Mention :=
  document.entries.flatMap LinkTypeData.mentions ++ document.included.flatMap Included.mentions

/-- All names and links in an answer. -/
def Response.mentions (response : Response Document) : List Mention :=
  (response.body.map Document.mentions).getD []

variable {request : Request} {spaceId : Uuid} {mention : Mention}

theorem LinkTypeData.namesUnder_of_mem {row : LinkType}
    (h : mention ∈ (row.resource request spaceId).mentions) :
    mention.NamesUnder request spaceId := by
  have hmentions : (row.resource request spaceId).mentions =
      [.ofResource request (.linkType spaceId row.id),
        .ofResource request (.category row.categoryId),
        .ofResource request (.space row.spaceId)] := rfl
  simp only [hmentions, List.mem_cons, List.not_mem_nil, or_false] at h
  rcases h with rfl | rfl | rfl
  · exact ⟨.linkType spaceId row.id, rfl, rfl⟩
  · exact ⟨.category row.categoryId, trivial, rfl⟩
  · exact ⟨.space row.spaceId, trivial, rfl⟩

theorem Included.namesUnder_of_mem_ofCategory {category : Category}
    (h : mention ∈ (ofCategory request category).mentions) :
    mention.NamesUnder request spaceId := by
  obtain rfl := List.mem_singleton.1 h
  exact ⟨.category category.id, trivial, rfl⟩

theorem Included.namesUnder_of_mem_ofSpace {space : Space}
    (h : mention ∈ (ofSpace request space).mentions) : mention.NamesUnder request spaceId := by
  have hmentions : (ofSpace request space).mentions =
      [.ofResource request (.space space.id), .ofResource request (.identity space.ownerId)] := rfl
  simp only [hmentions, List.mem_cons, List.not_mem_nil, or_false] at h
  rcases h with rfl | rfl
  · exact ⟨.space space.id, trivial, rfl⟩
  · exact ⟨.identity space.ownerId, trivial, rfl⟩

/-- A document with entries of rows and with what some rows refer to mentions resources only. -/
theorem Document.namesUnder_of_mem {catalog : Catalog} {document : Document}
    {rows : List LinkType}
    (hentries : ∀ entry ∈ document.entries, ∃ row, entry = LinkType.resource request spaceId row)
    (hincluded : catalog.related request rows = .ok document.included)
    (h : mention ∈ document.mentions) : mention.NamesUnder request spaceId := by
  rcases List.mem_append.1 h with h | h
  · obtain ⟨entry, hentry, h⟩ := List.mem_flatMap.1 h
    obtain ⟨row, rfl⟩ := hentries entry hentry
    exact LinkTypeData.namesUnder_of_mem h
  · obtain ⟨resource, hresource, h⟩ := List.mem_flatMap.1 h
    obtain ⟨row, -, ⟨category, -, rfl⟩ | ⟨space, -, rfl⟩⟩ :=
      (Catalog.mem_related_iff hincluded resource).1 hresource
    · exact Included.namesUnder_of_mem_ofCategory h
    · exact Included.namesUnder_of_mem_ofSpace h

-- ════════════════════════════════════════════════════════════════════════
-- What answers mention
-- ════════════════════════════════════════════════════════════════════════

/-- The request of a command, if its answer depends on more than the path. -/
def Command.request? : Command → Option Request
  | .create request .. | .display request .. | .list request .. | .update request .. => some request
  | .delete .. => none

theorem Subject.namesUnder_of_answer {subject : Subject} {settings : Settings} {catalog : Catalog}
    {response : Response Document}
    (hanswer : subject.answer settings request catalog = .ok response)
    (h : mention ∈ response.mentions) : mention.NamesUnder request subject.spaceId := by
  rcases body_of_answer hanswer with ⟨-, hbody⟩ | ⟨-, included, hincluded, hbody⟩
  · simp [Response.mentions, hbody] at h
  have hattached : (subject.assembled request (subject.rows catalog) included).included =
      included := by
    cases subject <;> rfl
  rw [Response.mentions, hbody] at h
  refine Document.namesUnder_of_mem (fun entry hentry => ?_) (hattached ▸ hincluded) h
  obtain ⟨row, -, rfl⟩ := exists_row_of_mem_assembled hentry
  exact ⟨row, rfl⟩

namespace Turn

variable {turn : Turn} {catalog : Catalog} {response : Response Document}

/-- An answer of success mentions resources only, and all link types under one space. -/
theorem exists_namesUnder (hrequest : turn.command.request? = some request)
    (hanswer : turn.answer catalog = .ok response) :
    ∃ spaceId, ∀ mention ∈ response.mentions, mention.NamesUnder request spaceId := by
  cases hcommand : turn.command with
  | create other payload spaceId identity =>
    obtain ⟨row, included, stored, -, hincluded, -, rfl⟩ := created_of_answer hcommand hanswer
    rw [hcommand] at hrequest
    cases hrequest
    have hentries : ∀ entry ∈ [stored.resource request stored.spaceId],
        ∃ row, entry = LinkType.resource request stored.spaceId row :=
      fun entry hentry => ⟨stored, List.mem_singleton.1 hentry⟩
    exact ⟨stored.spaceId, fun mention => Document.namesUnder_of_mem hentries hincluded⟩
  | update other payload spaceId identity =>
    obtain ⟨row, included, saved, -, hincluded, -, rfl⟩ := updated_of_answer hcommand hanswer
    rw [hcommand] at hrequest
    cases hrequest
    have hentries : ∀ entry ∈ [saved.resource request spaceId],
        ∃ row, entry = LinkType.resource request spaceId row :=
      fun entry hentry => ⟨saved, List.mem_singleton.1 hentry⟩
    exact ⟨spaceId, fun mention => Document.namesUnder_of_mem hentries hincluded⟩
  | display other spaceId id =>
    rw [hcommand] at hrequest
    cases hrequest
    rw [answer_of_display hcommand] at hanswer
    exact ⟨spaceId, fun mention => Subject.namesUnder_of_answer hanswer⟩
  | list other spaceId =>
    rw [hcommand] at hrequest
    cases hrequest
    rw [answer_of_list hcommand] at hanswer
    exact ⟨spaceId, fun mention => Subject.namesUnder_of_answer hanswer⟩
  | delete spaceId id =>
    rw [hcommand] at hrequest
    cases hrequest

/-- **Links.** In an answer of success, everything that is named is linked to twice, at an absolute
    path behind the scheme and the host that the request gives. Two places have a link in common if
    and only if they name the same resource. A creation tells where its entry is by the path in the
    link of that entry. -/
theorem links_identify (turn : Turn) (catalog : Catalog) (request : Request)
    (response : Response Document) (hrequest : turn.command.request? = some request)
    (hanswer : turn.answer catalog = .ok response) :
    (∀ mention ∈ response.mentions, ∃ resource path, mention.resource = some resource ∧
      path.toList.head? = some '/' ∧
      mention.links = some (Links.same (request.scheme ++ "://" ++ request.host ++ path))) ∧
    (∀ mention ∈ response.mentions, ∀ other ∈ response.mentions,
      (∃ address, address ∈ mention.addresses ∧ address ∈ other.addresses) ↔
        mention.resource = other.resource) ∧
    ∀ payload spaceId identity, turn.command = .create request payload spaceId identity →
      ∃ entry path, response.entries = [entry] ∧
        response.headers.get? "location" = some (HeaderValue.bytes path) ∧
        entry.links.bind Links.self = some (request.scheme ++ "://" ++ request.host ++ path) := by
  obtain ⟨spaceId, hmentions⟩ := exists_namesUnder hrequest hanswer
  refine ⟨fun mention hmention => ?_, fun mention hmention other hother => ?_,
    fun payload spaceId identity hcommand => ?_⟩
  · obtain ⟨resource, -, rfl⟩ := hmentions mention hmention
    exact ⟨resource.name, resource.path, rfl, resource.head?_path, rfl⟩
  · obtain ⟨resource, hunder, rfl⟩ := hmentions mention hmention
    obtain ⟨otherResource, hotherUnder, rfl⟩ := hmentions other hother
    rw [Mention.exists_mem_addresses_iff]
    constructor
    · rintro rfl
      rfl
    · intro hname
      exact Resource.eq_of_name_eq hunder hotherUnder (Option.some.inj hname)
  · obtain ⟨row, included, stored, -, -, -, rfl⟩ := created_of_answer hcommand hanswer
    refine ⟨stored.resource request stored.spaceId, Href.linkType stored.spaceId stored.id, rfl, ?_,
      rfl⟩
    exact (Headers.get?_insert _ _ _ _).trans (if_pos rfl)

/-- The answer to the creation for examples has six names with links, and tells where its entry
    is. -/
theorem links_identify_sampleCreation :
    sampleCreation.command.request? = some .sample ∧ ∃ response entry path,
      sampleCreation.answer .sampleStart = .ok response ∧ response.mentions.length = 6 ∧
      response.entries = [entry] ∧
      response.headers.get? "location" = some (HeaderValue.bytes path) ∧
      entry.links.bind Links.self = some ("http" ++ "://" ++ "localhost" ++ path) := by
  have hmentions : ((sampleCreation.answer .sampleStart).toOption.map fun response =>
      response.mentions.length) = some 6 := by decide +kernel
  cases hanswer : sampleCreation.answer .sampleStart with
  | error failure =>
    rw [hanswer] at hmentions
    cases hmentions
  | ok response =>
    rw [hanswer] at hmentions
    obtain ⟨-, -, hlocation⟩ :=
      links_identify sampleCreation .sampleStart .sample response rfl hanswer
    obtain ⟨entry, path, hentries, hpath, hself⟩ := hlocation _ _ _ rfl
    exact ⟨rfl, response, entry, path, rfl, Option.some.inj hmentions, hentries, hpath, hself⟩

end Turn

end LinkCatalog
