import LinkCatalog.Cluster.Rollout
import LinkCatalog.Proofs.Cluster.Selection

/-!
# Which controller is of the latest deployment

The controllers of a deployment config come as a map, whose names are in order. So the first one
with a malformed version is the one with the least name, and only one can stand highest. A look-up
of the controller of the latest deployment sends one query, and its result follows from the answer.

The controllers are handed on as they are. Which one is chosen depends on nothing but the names in
the map and the text of one annotation: neither other annotations nor the names that controllers
have themselves count.

## Main definitions

- `ControllerQuery.recorded` — a query that notes what it is asked
- `Rollout.IsLatest` — which results the look-up may have, from the versions of the controllers
- `Rollout.latestName` — the name of the chosen controller, from names and versions alone

## Main statements

- `isFirstMalformed_entries_iff`, `isFirstHighest_entries_iff` — selections from a map
- `Rollout.choose_ok_iff` — which controller is chosen
- `Rollout.choose_eq_latestName` — what the choice depends on
- `Rollout.asks_once_for_latest` — the look-up from query to result
-/

namespace LinkCatalog

-- ════════════════════════════════════════════════════════════════════════
-- Selections from a map
-- ════════════════════════════════════════════════════════════════════════

section Map

variable {α : Type} {marker : α → Option String} {map : NameMap α}

/-- The names before an entry are less, and those after it greater. -/
theorem NameMap.lt_of_split {before after : List (String × α)} {name : String} {value : α}
    (h : map.entries = before ++ (name, value) :: after) :
    (∀ entry ∈ before, entry.1 < name) ∧ ∀ entry ∈ after, name < entry.1 := by
  have hsorted := map.sorted
  rw [h] at hsorted
  obtain ⟨-, hafter, hbefore⟩ := List.pairwise_append.1 hsorted
  constructor
  · intro entry hentry
    exact hbefore entry hentry _ List.mem_cons_self
  · exact (List.pairwise_cons.1 hafter).1

/-- The first malformed version of a map is the one with the least name. -/
theorem isFirstMalformed_entries_iff {malformed : MalformedVersion} :
    IsFirstMalformed marker map.entries malformed ↔ ∃ record,
      map.get? malformed.name = some record ∧ marker record = some malformed.value ∧
        IsMalformed (marker record) ∧
        ∀ name other, map.get? name = some other → IsMalformed (marker other) →
          Text.bytes malformed.name ≤ Text.bytes name := by
  constructor
  · rintro ⟨before, record, after, hsplit, hbefore, hvalue, hmalformed⟩
    refine ⟨record, NameMap.get?_eq_some_iff.2 (by simp [hsplit]), hvalue, hmalformed, ?_⟩
    intro name other hother hmalformed'
    have hmem := NameMap.get?_eq_some_iff.1 hother
    rw [hsplit, List.mem_append, List.mem_cons] at hmem
    obtain hmem | hhere | hmem := hmem
    · exact absurd hmalformed' (hbefore _ hmem)
    · cases hhere
      exact le_refl _
    · exact (Text.bytes_lt_bytes_iff.2 ((NameMap.lt_of_split hsplit).2 _ hmem)).le
  · rintro ⟨record, hrecord, hvalue, hmalformed, hleast⟩
    obtain ⟨before, after, hsplit⟩ := List.append_of_mem (NameMap.get?_eq_some_iff.1 hrecord)
    refine ⟨before, record, after, hsplit, ?_, hvalue, hmalformed⟩
    intro entry hentry hmalformed'
    have hother : map.get? entry.1 = some entry.2 :=
      NameMap.get?_eq_some_iff.2 (by simp [hsplit, hentry])
    have hless := Text.bytes_lt_bytes_iff.2 ((NameMap.lt_of_split hsplit).1 entry hentry)
    exact (hleast _ _ hother hmalformed').not_gt hless

/-- In a map only one record stands highest. -/
theorem isFirstHighest_entries_iff {key : String} {record : α} {highest : Standing} :
    IsFirstHighest marker map.entries key record highest ↔
      map.get? key = some record ∧ HasStanding key (marker record) highest ∧
        ∀ name other, map.get? name = some other →
          name = key ∨ ∃ s, HasStanding name (marker other) s ∧ s < highest := by
  constructor
  · rintro ⟨before, after, hsplit, hstanding, hbefore, hafter⟩
    refine ⟨NameMap.get?_eq_some_iff.2 (by simp [hsplit]), hstanding, ?_⟩
    intro name other hother
    have hmem := NameMap.get?_eq_some_iff.1 hother
    rw [hsplit, List.mem_append, List.mem_cons] at hmem
    obtain hmem | hhere | hmem := hmem
    · exact .inr (hbefore _ hmem)
    · cases hhere
      exact .inl rfl
    · obtain ⟨s, hs, hle⟩ := hafter _ hmem
      by_cases heq : s = highest
      · exact .inl ((heq ▸ hs).key_eq hstanding)
      · exact .inr ⟨s, hs, lt_of_le_of_ne hle heq⟩
  · rintro ⟨hrecord, hstanding, hothers⟩
    obtain ⟨before, after, hsplit⟩ := List.append_of_mem (NameMap.get?_eq_some_iff.1 hrecord)
    obtain ⟨hless, hgreater⟩ := NameMap.lt_of_split hsplit
    have hlower : ∀ entry ∈ map.entries, entry.1 ≠ key →
        ∃ s, HasStanding entry.1 (marker entry.2) s ∧ s < highest := by
      intro entry hentry hne
      exact (hothers _ _ (NameMap.get?_eq_some_iff.2 hentry)).resolve_left hne
    refine ⟨before, after, hsplit, hstanding, ?_, ?_⟩
    · intro entry hentry
      exact hlower entry (by simp [hsplit, hentry]) (hless entry hentry).ne
    · intro entry hentry
      obtain ⟨s, hs, hlt⟩ := hlower entry (by simp [hsplit, hentry]) (hgreater entry hentry).ne'
      exact ⟨s, hs, hlt.le⟩

end Map

-- ════════════════════════════════════════════════════════════════════════
-- The choice from an answer
-- ════════════════════════════════════════════════════════════════════════

namespace Rollout

/-- The results that a look-up may have if it was answered with some controllers, of which each has
    the text of a version or none. -/
def IsLatest (version : Controller → Option String) (found : NameMap Controller) :
    Except ClusterError (Option Controller) → Prop
  | .error (.malformedVersion malformed) => ∃ controller,
    found.get? malformed.name = some controller ∧ version controller = some malformed.value ∧
      IsMalformed (version controller) ∧
      ∀ name other, found.get? name = some other → IsMalformed (version other) →
        Text.bytes malformed.name ≤ Text.bytes name
  | .error _ => False
  | .ok none => found.entries = []
  | .ok (some controller) => ∃ key highest,
    found.get? key = some controller ∧ HasStanding key (version controller) highest ∧
      ∀ name other, found.get? name = some other →
        name = key ∨ ∃ s, HasStanding name (version other) s ∧ s < highest

theorem choose_ok (found : NameMap Controller) :
    choose (.ok found) =
      (mostRecent Controller.marker found.entries).mapError .malformedVersion :=
  rfl

theorem isLatest_choose (found : NameMap Controller) :
    IsLatest Controller.marker found (choose (.ok found)) := by
  have h := isMostRecent_mostRecent Controller.marker found.entries
  rw [choose_ok]
  cases hresult : mostRecent Controller.marker found.entries with
  | error malformed =>
    rw [hresult] at h
    exact isFirstMalformed_entries_iff.1 h
  | ok selected =>
    rw [hresult] at h
    cases selected with
    | none => exact h
    | some controller =>
      obtain ⟨key, highest, h⟩ := h
      exact ⟨key, highest, isFirstHighest_entries_iff.1 h⟩

/-- A result that the look-up may have is the result of the choice. -/
theorem IsLatest.choose_eq {found : NameMap Controller}
    {result : Except ClusterError (Option Controller)}
    (h : IsLatest Controller.marker found result) :
    choose (.ok found) = result := by
  rw [choose_ok]
  match result, h with
  | .error (.malformedVersion malformed), h =>
    have hfirst : IsMostRecent Controller.marker found.entries (.error malformed) :=
      isFirstMalformed_entries_iff.2 h
    rw [isMostRecent_iff.1 hfirst]
    rfl
  | .ok none, h =>
    have hnone : IsMostRecent Controller.marker found.entries (.ok none) := h
    rw [isMostRecent_iff.1 hnone]
    rfl
  | .ok (some controller), ⟨key, highest, h⟩ =>
    have hfirst : IsMostRecent Controller.marker found.entries (.ok (some controller)) :=
      ⟨key, highest, isFirstHighest_entries_iff.2 h⟩
    rw [isMostRecent_iff.1 hfirst]
    rfl

/-- A malformed version under the least name, or else the controller that stands highest. -/
theorem choose_ok_iff {found : NameMap Controller}
    {result : Except ClusterError (Option Controller)} :
    choose (.ok found) = result ↔ IsLatest Controller.marker found result := by
  constructor
  · rintro rfl
    exact isLatest_choose found
  · intro h
    exact h.choose_eq

/-- The name of the most recent of some records, from their names and versions. -/
def latestName (versions : List (String × Option String)) :
    Except MalformedVersion (Option String) :=
  (mostRecent Prod.snd (versions.map fun entry => (entry.1, entry))).map (Option.map Prod.fst)

/-- The names in a map, with the texts of the versions of the controllers under them. -/
def versionsOf (version : Controller → Option String) (found : NameMap Controller) :
    List (String × Option String) :=
  found.entries.map (Prod.map id version)

/-- The choice depends on names and versions only: these determine a name, and the controller under
    it is handed on. Both selections are maps of one selection from named controllers. -/
theorem choose_eq_latestName (found : NameMap Controller) :
    choose (.ok found) =
      ((latestName (versionsOf Controller.marker found)).map (Option.bind · found.get?)).mapError
        .malformedVersion := by
  let named : List (String × (String × Controller)) :=
    found.entries.map fun entry => (entry.1, entry)
  have hentries : found.entries = named.map (Prod.map id Prod.snd) := by
    simp [named, Function.comp_def]
  have hversions : (versionsOf Controller.marker found).map (fun entry => (entry.1, entry)) =
      named.map (Prod.map id (Prod.map id Controller.marker)) := by
    simp [named, versionsOf]
  rw [choose_ok, latestName, hversions, mostRecent_map Prod.snd (Prod.map id Controller.marker)]
  nth_rewrite 1 [hentries]
  rw [mostRecent_map Controller.marker Prod.snd]
  have h := isMostRecent_mostRecent (Controller.marker ∘ Prod.snd) named
  show Except.mapError _ (Except.map _ (mostRecent (Controller.marker ∘ Prod.snd) named)) =
    Except.mapError _ (Except.map _ (Except.map _ (Except.map _
      (mostRecent (Controller.marker ∘ Prod.snd) named))))
  cases hresult : mostRecent (Controller.marker ∘ Prod.snd) named with
  | error malformed => rfl
  | ok selected =>
    cases selected with
    | none => rfl
    | some entry =>
      rw [hresult] at h
      obtain ⟨key, highest, h⟩ := h
      obtain ⟨name, controller⟩ := entry
      have hmem : (name, controller) ∈ found.entries := by
        obtain ⟨entry, hentry, heq⟩ := List.mem_map.1 h.mem
        cases heq
        exact hentry
      have hget : found.get? name = some controller := NameMap.get?_eq_some_iff.2 hmem
      exact congrArg Except.ok hget.symm

end Rollout

-- ════════════════════════════════════════════════════════════════════════
-- From query to result
-- ════════════════════════════════════════════════════════════════════════

/-- A query that also notes with which namespace and which selector it is asked. -/
def ControllerQuery.recorded {m : Type → Type} [Monad m] (query : ControllerQuery m) :
    ControllerQuery (StateT (List (String × String)) m) :=
  fun namespaceName selector => do
    modify fun calls => calls ++ [(namespaceName, selector)]
    query namespaceName selector

/-- **Look-up of the latest deployment.** One query is sent, for the controllers labelled with the
    name of the config. If it fails, its error is the result; otherwise the controllers in the
    answer determine the result, by their names in the map and by the text of their annotation for
    the latest version only. -/
theorem Rollout.asks_once_for_latest {m : Type → Type} [Monad m] [LawfulMonad m]
    (query : ControllerQuery m) (namespaceName deploymentName : String)
    (calls : List (String × String)) :
    let version (controller : Controller) : Option String :=
      controller.metadata.annotations.bind fun annotations =>
        annotations.get? "openshift.io/deployment-config.latest-version"
    (mostRecentController query.recorded namespaceName deploymentName).run calls = (do
        let selector := "openshift.io/deployment-config.name=" ++ deploymentName
        let controllers ← query namespaceName selector
        return (choose controllers, calls ++ [(namespaceName, selector)])) ∧
      (∀ error, choose (.error error) = .error error) ∧
      (∀ found result, choose (.ok found) = result ↔ IsLatest version found result) ∧
      ∀ found, choose (.ok found) =
        ((latestName (versionsOf version found)).map (Option.bind · found.get?)).mapError
          .malformedVersion := by
  intro version
  have hversion : version = Controller.marker := rfl
  have hselector : selector deploymentName =
      "openshift.io/deployment-config.name=" ++ deploymentName := rfl
  rw [hversion]
  refine ⟨?_, fun error => rfl, fun found result => choose_ok_iff, choose_eq_latestName⟩
  simp [mostRecentController, ControllerQuery.recorded, hselector]

namespace Rollout

/-- A controller with some annotations, and with a name of its own. -/
def sampleController (name : String) (annotations : List (String × String)) : Controller :=
  { metadata := { name := some name, annotations := some (.ofList annotations) } }

/-- The controller of a tenth deployment. The annotation that comes first is not for its version. -/
def sampleTenth : Controller :=
  sampleController "web-1"
    [("app/description", "ten"), ("openshift.io/deployment-config.latest-version", "10"),
      ("zone", "west")]

/-- Two controllers with versions and one without, whose own names do not agree with those in the
    map. -/
def sampleFound : NameMap Controller :=
  .ofList
    [("web-10", sampleTenth), ("web-8", sampleController "web-10" [("zone", "11")]),
      ("web-9", sampleController "web-2"
        [("app/description", "nine"), ("openshift.io/deployment-config.latest-version", "9")])]

/-- The same with a controller whose version is no number. -/
def sampleMalformed : NameMap Controller :=
  sampleFound.insert "web-7"
    (sampleController "web-0"
      [("app/description", "7"), ("openshift.io/deployment-config.latest-version", "seven")])

/-- Versions are compared as numbers, so that the first name in the map is chosen, and other
    annotations do not count. A version that is no number is an error. -/
theorem asks_once_for_latest_sample :
    let version (controller : Controller) : Option String :=
      controller.metadata.annotations.bind fun annotations =>
        annotations.get? "openshift.io/deployment-config.latest-version"
    (mostRecentController (ControllerQuery.recorded (m := Id) fun _ _ => .ok sampleFound)
        "shop" "web").run [] =
      (.ok (some sampleTenth), [("shop", "openshift.io/deployment-config.name=web")]) ∧
      IsLatest version sampleFound (.ok (some sampleTenth)) ∧
      IsLatest version sampleMalformed
        (.error (.malformedVersion { name := "web-7", value := "seven" })) := by
  intro version
  have hchosen : choose (.ok sampleFound) = .ok (some sampleTenth) := by
    rfl
  have hmalformed : choose (.ok sampleMalformed) =
      .error (.malformedVersion { name := "web-7", value := "seven" }) := by
    rfl
  obtain ⟨hrun, -, hlatest, -⟩ :=
    asks_once_for_latest (m := Id) (fun _ _ => .ok sampleFound) "shop" "web" []
  refine ⟨hrun.trans ?_, (hlatest _ _).1 hchosen, (hlatest _ _).1 hmalformed⟩
  exact congrArg (fun result => (result, [("shop", "openshift.io/deployment-config.name=web")]))
    hchosen

end Rollout

end LinkCatalog
