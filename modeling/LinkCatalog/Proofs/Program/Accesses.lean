import LinkCatalog.Proofs.Program.Calls

/-!
# Accesses and look-ups

The calls of a program are of two kinds: accesses, which read or write link types, and look-ups of
categories and spaces. Nothing ever changes a category or a space, so that a look-up is answered
alike at any time, and may be moved past any other call.

## Main definitions

- `Exchange.IsAccess`, `accesses` — the calls to the link types
- `Catalog.SameRelated` — catalogs with the same categories and spaces
- `Catalog.AnswersLookups` — a catalog gives the answers of all look-ups among some exchanges

## Main statements

- `Catalog.sameRelated_perform` — no call changes a category or a space
- `Catalog.performs_accesses`, `Catalog.SameRelated.performs` — look-ups may be left out, and may be
  added at any place
- `Program.run_of_dialogue` — a dialogue with a catalog that no one else uses is that of the run
-/

namespace LinkCatalog

-- ════════════════════════════════════════════════════════════════════════
-- Calls to the link types
-- ════════════════════════════════════════════════════════════════════════

instance (call : Call) : Decidable call.IsRelated := by
  unfold Call.IsRelated
  split <;> infer_instance

/-- The call reads or writes link types. -/
def Exchange.IsAccess (exchange : Exchange) : Prop :=
  ¬ exchange.call.IsRelated

instance (exchange : Exchange) : Decidable exchange.IsAccess :=
  inferInstanceAs (Decidable (¬ exchange.call.IsRelated))

/-- The exchanges that are calls to the link types. -/
def accesses (exchanges : List Exchange) : List Exchange :=
  exchanges.filter fun exchange => exchange.IsAccess

theorem accesses_append (first second : List Exchange) :
    accesses (first ++ second) = accesses first ++ accesses second :=
  List.filter_append ..

theorem accesses_eq_nil_iff {exchanges : List Exchange} :
    accesses exchanges = [] ↔ ∀ exchange ∈ exchanges, exchange.call.IsRelated := by
  simp only [accesses, List.filter_eq_nil_iff, decide_eq_true_eq]
  simp only [Exchange.IsAccess, Decidable.not_not]

-- ════════════════════════════════════════════════════════════════════════
-- Look-ups commute with everything
-- ════════════════════════════════════════════════════════════════════════

namespace Catalog

/-- Two catalogs have the same categories and spaces. -/
def SameRelated (first second : Catalog) : Prop :=
  first.categories = second.categories ∧ first.spaces = second.spaces

variable {base catalog after : Catalog} {exchanges : List Exchange}

theorem DiffersAt.sameRelated {id : Uuid} (h : DiffersAt id catalog after) :
    after.SameRelated catalog :=
  h.2

/-- No call changes a category or a space. -/
theorem sameRelated_perform (catalog : Catalog) (call : Call) :
    (call.perform catalog).2.SameRelated catalog := by
  have heffect := Exchange.effect_perform catalog call
  generalize (⟨call, (call.perform catalog).1⟩ : Exchange) = exchange at heffect
  generalize (call.perform catalog).2 = after at heffect ⊢
  cases heffect with
  | unchanged hinserted hsaved => exact ⟨rfl, rfl⟩
  | inserted hwrite => exact (adds_of_createLinkType hwrite).2.2.sameRelated
  | saved hwrite =>
    obtain ⟨stored, ⟨-, -, hdiffers⟩, -⟩ := replaces_of_saveLinkType hwrite
    exact hdiffers.sameRelated
  | deleted hwrite =>
    obtain ⟨stored, ⟨-, -, hdiffers⟩, -⟩ := removes_of_deleteLinkType hwrite
    exact hdiffers.sameRelated

theorem SameRelated.perform (h : catalog.SameRelated base) (call : Call) :
    (call.perform catalog).2.SameRelated base := by
  obtain ⟨hcategories, hspaces⟩ := sameRelated_perform catalog call
  exact ⟨hcategories.trans h.1, hspaces.trans h.2⟩

theorem SameRelated.of_performs (h : catalog.SameRelated base)
    (hperforms : catalog.Performs exchanges after) : after.SameRelated base := by
  induction exchanges generalizing catalog with
  | nil =>
    rw [show after = catalog from hperforms]
    exact h
  | cons exchange rest ih => exact ih (h.perform exchange.call) hperforms.2

/-- A look-up is answered alike by catalogs with the same categories and spaces. -/
theorem SameRelated.perform_fst (h : catalog.SameRelated base) {call : Call}
    (hrelated : call.IsRelated) : (call.perform catalog).1 = (call.perform base).1 := by
  cases call with
  | loadCategory id => simp only [Call.perform, loadCategory, h.1]
  | loadSpace id => simp only [Call.perform, loadSpace, h.2]
  | _ => exact hrelated.elim

/-- The catalog gives the answers of all look-ups among some exchanges. -/
def AnswersLookups (base : Catalog) (exchanges : List Exchange) : Prop :=
  ∀ exchange ∈ exchanges, exchange.call.IsRelated →
    (exchange.call.perform base).1 = exchange.answer

theorem SameRelated.answersLookups (h : catalog.SameRelated base)
    (hperforms : catalog.Performs exchanges after) : base.AnswersLookups exchanges := by
  induction exchanges generalizing catalog with
  | nil => simp [AnswersLookups]
  | cons exchange rest ih =>
    obtain ⟨hanswer, hrest⟩ := hperforms
    intro other hother hrelated
    rcases List.mem_cons.1 hother with rfl | hother
    · rw [← h.perform_fst hrelated, hanswer]
    · exact ih (h.perform exchange.call) hrest other hother hrelated

/-- Without its look-ups a sequence of calls has the same effect. -/
theorem performs_accesses (hperforms : catalog.Performs exchanges after) :
    catalog.Performs (accesses exchanges) after := by
  induction exchanges generalizing catalog with
  | nil => exact hperforms
  | cons exchange rest ih =>
    obtain ⟨hanswer, hrest⟩ := hperforms
    by_cases hrelated : exchange.call.IsRelated
    · rw [Call.perform_of_isRelated hrelated] at hrest
      have hskip : accesses (exchange :: rest) = accesses rest := by
        simp [accesses, Exchange.IsAccess, hrelated]
      rw [hskip]
      exact ih hrest
    · have hkeep : accesses (exchange :: rest) = exchange :: accesses rest := by
        simp [accesses, Exchange.IsAccess, hrelated]
      rw [hkeep]
      exact ⟨hanswer, ih hrest⟩

/-- Look-ups may be added at any place. -/
theorem SameRelated.performs (h : catalog.SameRelated base) (hlookups : base.AnswersLookups exchanges)
    (haccesses : catalog.Performs (accesses exchanges) after) :
    catalog.Performs exchanges after := by
  induction exchanges generalizing catalog with
  | nil => exact haccesses
  | cons exchange rest ih =>
    have hrest : base.AnswersLookups rest := fun other hother =>
      hlookups other (List.mem_cons_of_mem _ hother)
    by_cases hrelated : exchange.call.IsRelated
    · have hskip : accesses (exchange :: rest) = accesses rest := by
        simp [accesses, Exchange.IsAccess, hrelated]
      rw [hskip] at haccesses
      refine ⟨?_, ?_⟩
      · rw [h.perform_fst hrelated]
        exact hlookups exchange (by simp) hrelated
      · rw [Call.perform_of_isRelated hrelated]
        exact ih h hrest haccesses
    · have hkeep : accesses (exchange :: rest) = exchange :: accesses rest := by
        simp [accesses, Exchange.IsAccess, hrelated]
      rw [hkeep] at haccesses
      exact ⟨haccesses.1, ih (h.perform exchange.call) hrest haccesses.2⟩

end Catalog

/-- A program is deterministic: a dialogue with a catalog that no one else uses is that of its
    run. -/
theorem Program.run_of_dialogue {α : Type} {program : Program α} {catalog after : Catalog}
    {exchanges : List Exchange} {value : α} (hdialogue : program.Dialogue exchanges value)
    (hperforms : catalog.Performs exchanges after) :
    (program.run catalog).value = value ∧ (program.run catalog).catalog = after := by
  induction program generalizing catalog exchanges with
  | done result =>
    obtain ⟨rfl, rfl⟩ := hdialogue
    exact ⟨rfl, hperforms.symm⟩
  | call query next ih =>
    obtain ⟨answer, rest, rfl, hrest⟩ := hdialogue
    have hanswer : (query.perform catalog).1 = answer := hperforms.1
    have hafter : (query.perform catalog).2.Performs rest after := hperforms.2
    subst hanswer
    exact ih _ hrest hafter
  | signal event next ih => exact ih hdialogue hperforms

end LinkCatalog
