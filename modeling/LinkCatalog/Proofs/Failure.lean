import LinkCatalog.Failure

/-!
# Sequences of checks

A sequence of checks succeeds if each of them does, the later ones on what the earlier ones gave. So
do look-ups of some keys one after the other.

## Main statements

- `Failure.bind_eq_ok_iff`, `Failure.guard_eq_ok_iff` — success of two checks in sequence
- `Failure.mapM_cons_eq_ok_iff` — success of look-ups
- `Failure.mem_mapM_iff`, `Failure.map_eq_of_mapM` — what is looked up
-/

namespace LinkCatalog.Failure

variable {α β : Type}

theorem exists_of_isOk {result : Except Failure α} (h : result.isOk = true) :
    ∃ value, result = .ok value := by
  cases result with
  | error failure => cases h
  | ok value => exact ⟨value, rfl⟩

theorem bind_eq_ok_iff {check : Except Failure α} {next : α → Except Failure β} {value : β} :
    (check >>= next) = .ok value ↔ ∃ checked, check = .ok checked ∧ next checked = .ok value := by
  cases check with
  | error failure =>
    constructor
    · intro h
      cases h
    · rintro ⟨checked, hchecked, h⟩
      cases hchecked
  | ok checked =>
    constructor
    · intro h
      exact ⟨checked, rfl, h⟩
    · rintro ⟨_, hchecked, h⟩
      cases hchecked
      exact h

theorem map_eq_ok_iff {result : Except Failure α} {change : α → β} {value : β} :
    result.map change = .ok value ↔ ∃ given, result = .ok given ∧ change given = value := by
  cases result with
  | error failure => simp [Except.map]
  | ok given => simp [Except.map]

/-- A change of the result of a sequence is a change at its end. -/
theorem map_bind {γ : Type} (check : Except Failure α) (next : α → Except Failure β)
    (change : β → γ) :
    (check >>= next).map change = check >>= fun value => (next value).map change := by
  cases check <;> rfl

theorem mapError_eq_ok_iff {result : Except Failure α} {change : Failure → Failure} {value : α} :
    result.mapError change = .ok value ↔ result = .ok value := by
  cases result with
  | error failure =>
    constructor
    · intro h
      cases h
    · intro h
      cases h
  | ok given => exact Iff.rfl

/-- A condition under which the sequence stops. -/
theorem guard_eq_ok_iff {refused : Prop} [Decidable refused] {failure : Failure}
    {next : Except Failure β} {value : β} :
    (if refused then (throw failure >>= fun _ : PUnit => next) else next) = .ok value ↔
      ¬ refused ∧ next = .ok value := by
  by_cases hrefused : refused
  · simp only [hrefused, if_true, not_true, false_and, iff_false]
    intro h
    cases h
  · simp [hrefused]

-- ════════════════════════════════════════════════════════════════════════
-- Look-ups
-- ════════════════════════════════════════════════════════════════════════

variable {lookUp : α → Except Failure β} {keys : List α} {values : List β}

theorem mapM_cons_eq_ok_iff {key : α} :
    (key :: keys).mapM lookUp = .ok values ↔ ∃ first rest,
      lookUp key = .ok first ∧ keys.mapM lookUp = .ok rest ∧ values = first :: rest := by
  rw [List.mapM_cons]
  simp only [bind_eq_ok_iff]
  constructor
  · rintro ⟨first, hfirst, rest, hrest, hvalues⟩
    cases hvalues
    exact ⟨first, rest, hfirst, hrest, rfl⟩
  · rintro ⟨first, rest, hfirst, hrest, rfl⟩
    exact ⟨first, hfirst, rest, hrest, rfl⟩

/-- Look-ups that all succeed succeed together. -/
theorem exists_mapM_eq_ok (h : ∀ key ∈ keys, ∃ value, lookUp key = .ok value) :
    ∃ values, keys.mapM lookUp = .ok values := by
  induction keys with
  | nil => exact ⟨[], rfl⟩
  | cons key keys ih =>
    obtain ⟨value, hvalue⟩ := h key List.mem_cons_self
    obtain ⟨values, hvalues⟩ := ih fun other hother => h other (List.mem_cons_of_mem key hother)
    exact ⟨value :: values, mapM_cons_eq_ok_iff.2 ⟨value, values, hvalue, hvalues, rfl⟩⟩

/-- Look-ups that succeed together succeed one by one. -/
theorem exists_of_mapM_eq_ok (h : keys.mapM lookUp = .ok values) {key : α} (hkey : key ∈ keys) :
    ∃ value, lookUp key = .ok value := by
  induction keys generalizing values with
  | nil => cases hkey
  | cons other keys ih =>
    obtain ⟨first, rest, hfirst, hrest, -⟩ := mapM_cons_eq_ok_iff.1 h
    rcases List.mem_cons.1 hkey with rfl | hkey
    · exact ⟨first, hfirst⟩
    · exact ih hrest hkey

/-- Look-ups that succeed together give what each of them gives. -/
theorem mem_mapM_iff (h : keys.mapM lookUp = .ok values) (value : β) :
    value ∈ values ↔ ∃ key ∈ keys, lookUp key = .ok value := by
  induction keys generalizing values with
  | nil =>
    cases h
    simp
  | cons key keys ih =>
    obtain ⟨first, rest, hfirst, hrest, rfl⟩ := mapM_cons_eq_ok_iff.1 h
    simp [ih hrest, hfirst, eq_comm]

/-- Look-ups that succeed together give values with the keys in order, if a value tells its key. -/
theorem map_eq_of_mapM {keyOf : β → α}
    (hkey : ∀ key value, lookUp key = .ok value → keyOf value = key)
    (h : keys.mapM lookUp = .ok values) : values.map keyOf = keys := by
  induction keys generalizing values with
  | nil =>
    cases h
    rfl
  | cons key keys ih =>
    obtain ⟨first, rest, hfirst, hrest, rfl⟩ := mapM_cons_eq_ok_iff.1 h
    rw [List.map_cons, hkey key first hfirst, ih hrest]

end LinkCatalog.Failure
