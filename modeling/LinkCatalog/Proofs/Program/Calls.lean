import LinkCatalog.Proofs.Catalog.Writes
import LinkCatalog.Proofs.Program.Dialogue

/-!
# Effects of single calls

Every call either leaves the catalog as it is or has the effect of one write. What happens to one
row while others use the catalog can thus be followed call by call: as long as no row is inserted
under its identifier, it is either gone, or its version is ahead by the number of saves.

## Main definitions

- `Call.IsRelated` — the calls that look up categories and spaces
- `Exchange.Effect` — what a call does that the catalog has answered
- `Catalog.Keeps` — a row is unchanged, or ahead by some saves, or gone

## Main statements

- `Exchange.effect_perform` — what any call does
- `Catalog.Keeps.perform`, `Catalog.Keeps.performs` — a row under calls of any kind
- `Catalog.Keeps.eq_of_version` — a row with the same version is the same row
-/

namespace LinkCatalog

/-- A successful write, or a refused one that changes nothing. -/
theorem Call.written_cases {α : Type} (catalog : Catalog)
    (result : Except Failure (α × Catalog)) :
    (∃ failure, result = .error failure ∧
      written catalog result = (.error failure, catalog)) ∨
    ∃ value after, result = .ok (value, after) ∧ written catalog result = (.ok value, after) := by
  cases result with
  | error failure => exact .inl ⟨failure, rfl, rfl⟩
  | ok result => exact .inr ⟨result.1, result.2, rfl, rfl⟩

/-- The call looks up a category or a space. -/
def Call.IsRelated : Call → Prop
  | .loadCategory _ | .loadSpace _ => True
  | _ => False

theorem Call.perform_of_isRelated {call : Call} (h : call.IsRelated) (catalog : Catalog) :
    (call.perform catalog).2 = catalog := by
  cases call with
  | loadCategory id => rfl
  | loadSpace id => rfl
  | _ => exact h.elim

/-- Look-ups of related resources leave the catalog as it is. -/
theorem Catalog.eq_of_performs_related {catalog after : Catalog} {exchanges : List Exchange}
    (hrelated : ∀ exchange ∈ exchanges, exchange.call.IsRelated)
    (hperforms : catalog.Performs exchanges after) : after = catalog := by
  induction exchanges with
  | nil => exact hperforms
  | cons exchange rest ih =>
    obtain ⟨-, hrest⟩ := hperforms
    rw [Call.perform_of_isRelated (hrelated exchange (by simp))] at hrest
    exact ih (fun other hother => hrelated other (by simp [hother])) hrest

namespace Exchange

/-- The identifier of the row that a call has inserted. -/
def inserted? : Exchange → Option Uuid
  | ⟨.createLinkType .., .ok stored⟩ => some stored.id
  | _ => none

/-- The identifier of the row that a call has replaced. -/
def saved? : Exchange → Option Uuid
  | ⟨.saveLinkType .., .ok saved⟩ => some saved.id
  | _ => none

/-- What a call does to the catalog that gives its answer. -/
inductive Effect (catalog : Catalog) : Exchange → Catalog → Prop where
  | unchanged {exchange : Exchange} (hinserted : exchange.inserted? = none)
      (hsaved : exchange.saved? = none) : Effect catalog exchange catalog
  | inserted {row stored : LinkType} {fresh : Uuid} {now : Instant} {after : Catalog}
      (hwrite : catalog.createLinkType row fresh now = .ok (stored, after)) :
      Effect catalog ⟨.createLinkType row fresh now, .ok stored⟩ after
  | saved {row saved : LinkType} {now : Instant} {after : Catalog}
      (hwrite : catalog.saveLinkType row now = .ok (saved, after)) :
      Effect catalog ⟨.saveLinkType row now, .ok saved⟩ after
  | deleted {spaceId id : Uuid} {after : Catalog}
      (hwrite : catalog.deleteLinkType spaceId id = .ok after) :
      Effect catalog ⟨.deleteLinkType spaceId id, .ok ()⟩ after

theorem effect_perform (catalog : Catalog) (call : Call) :
    Effect catalog ⟨call, (call.perform catalog).1⟩ (call.perform catalog).2 := by
  cases call with
  | createLinkType row fresh now =>
    simp only [Call.perform]
    cases hwrite : catalog.createLinkType row fresh now with
    | error failure => exact .unchanged rfl rfl
    | ok result => exact .inserted hwrite
  | saveLinkType row now =>
    simp only [Call.perform]
    cases hwrite : catalog.saveLinkType row now with
    | error failure => exact .unchanged rfl rfl
    | ok result => exact .saved hwrite
  | deleteLinkType spaceId id =>
    simp only [Call.perform]
    cases hwrite : catalog.deleteLinkType spaceId id with
    | error failure => exact .unchanged rfl rfl
    | ok after => exact .deleted hwrite
  | _ => exact .unchanged rfl rfl

end Exchange

theorem Exchange.inserted?_of_isRelated {exchange : Exchange} (h : exchange.call.IsRelated) :
    exchange.inserted? = none := by
  obtain ⟨call, answer⟩ := exchange
  cases call <;> first | rfl | exact h.elim

theorem Exchange.saved?_of_isRelated {exchange : Exchange} (h : exchange.call.IsRelated) :
    exchange.saved? = none := by
  obtain ⟨call, answer⟩ := exchange
  cases call <;> first | rfl | exact h.elim

/-- The number of saves of the row with an identifier. -/
def saveCount (exchanges : List Exchange) (id : Uuid) : Nat :=
  exchanges.countP fun exchange => exchange.saved? = some id

namespace Catalog

/-- A row that was stored before is gone, or its version is ahead by the given number of saves; it
    is unchanged if there were none. -/
def Keeps (seen : LinkType) (saves : Nat) (catalog : Catalog) : Prop :=
  ∀ row, catalog.linkTypes.find? seen.id = some row →
    row.version = seen.version + Int32.ofNat saves ∧ (saves = 0 → row = seen)

namespace Keeps

variable {seen : LinkType} {saves : Nat} {catalog after : Catalog}

theorem of_find? (h : catalog.linkTypes.find? seen.id = some seen) : catalog.Keeps seen 0 := by
  intro row hrow
  rw [h] at hrow
  cases hrow
  exact ⟨by simp, fun _ => rfl⟩

/-- A row with the version of the row that was seen is that row, unless the versions have come
    round. -/
theorem eq_of_version {row : LinkType} (h : catalog.Keeps seen saves) (hsaves : saves < UInt32.size)
    (hrow : catalog.linkTypes.find? seen.id = some row) (hversion : row.version = seen.version) :
    row = seen := by
  obtain ⟨hahead, hsame⟩ := h row hrow
  have hzero : Int32.ofNat saves = 0 := by
    rw [hversion] at hahead
    exact Int32.add_eq_left.1 hahead.symm
  have hbits : saves % 2 ^ 32 = 0 := by
    simpa using congrArg (fun version => version.toBitVec.toNat) hzero
  have hsize : saves < 2 ^ 32 := hsaves
  exact hsame (by omega)

/-- A call keeps a row, with one more save if it was one, unless it inserts a row in its place. -/
theorem perform {exchange : Exchange} (h : catalog.Keeps seen saves)
    (heffect : exchange.Effect catalog after) (hinserted : exchange.inserted? ≠ some seen.id) :
    after.Keeps seen (saves + if exchange.saved? = some seen.id then 1 else 0) := by
  cases heffect with
  | unchanged _ hsaved =>
    rw [hsaved, if_neg (by simp), Nat.add_zero]
    exact h
  | inserted hwrite =>
    obtain ⟨-, -, hothers, -, -⟩ := adds_of_createLinkType hwrite
    intro row hrow
    rw [hothers _ fun hid => hinserted (congrArg some hid.symm)] at hrow
    exact h row hrow
  | @saved row saved now after hwrite =>
    obtain ⟨stored, ⟨hstored, hsaved, hothers, -, -⟩, -, hresult⟩ := replaces_of_saveLinkType hwrite
    by_cases hid : saved.id = seen.id
    · rw [Exchange.saved?, if_pos (congrArg some hid)]
      intro found hfound
      rw [← hid, hsaved] at hfound
      cases hfound
      rw [hid] at hstored
      refine ⟨?_, by omega⟩
      rw [hresult, LinkType.saved, (h stored hstored).1, Int32.ofNat_add, Int32.add_assoc]
      rfl
    · rw [Exchange.saved?, if_neg fun heq => hid (Option.some.inj heq)]
      intro found hfound
      rw [hothers _ (Ne.symm hid)] at hfound
      exact h found hfound
  | @deleted spaceId id after hwrite =>
    obtain ⟨stored, ⟨-, hremoved, hothers, -, -⟩, -⟩ := removes_of_deleteLinkType hwrite
    intro found hfound
    by_cases hid : seen.id = id
    · rw [hid, hremoved] at hfound
      cases hfound
    · rw [hothers _ hid] at hfound
      exact h found hfound

/-- Calls keep a row as long as they insert none in its place. -/
theorem performs {exchanges : List Exchange} (h : catalog.Keeps seen saves)
    (hperforms : catalog.Performs exchanges after)
    (hinserted : ∀ exchange ∈ exchanges, exchange.inserted? ≠ some seen.id) :
    after.Keeps seen (saves + saveCount exchanges seen.id) := by
  induction exchanges generalizing catalog saves with
  | nil =>
    rw [show after = catalog from hperforms]
    exact h
  | cons exchange rest ih =>
    obtain ⟨hanswer, hrest⟩ := hperforms
    have heffect := Exchange.effect_perform catalog exchange.call
    rw [hanswer] at heffect
    have hkeeps := ih (h.perform heffect (hinserted exchange (by simp))) hrest
      fun other hother => hinserted other (by simp [hother])
    rw [saveCount, List.countP_cons, ← saveCount]
    simpa [Nat.add_assoc, Nat.add_comm, Nat.add_left_comm] using hkeeps

end Keeps

end Catalog

end LinkCatalog
