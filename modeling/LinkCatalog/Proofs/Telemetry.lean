import LinkCatalog.Telemetry

/-!
# What the counters show

A counter is published under a name and labels, with the number of times that it was raised. Name
and labels tell all counters apart, so that what is shown under them is the count of one counter.

## Main definitions

- `Series.reading` — the number that is shown under a name and labels

## Main statements

- `Series.eq_of_published` — counters with the same name and the same labels are the same
- `Series.reading_eq_count` — the number that is shown for a counter
- `Series.mem_tally_iff` — which counters are shown
-/

namespace LinkCatalog

theorem Status.toText_inj {a b : Status} : a.toText = b.toText ↔ a = b := by
  constructor
  · intro h
    obtain ⟨code⟩ := a
    obtain ⟨other⟩ := b
    have hdigits : Nat.toDigits 10 code = Nat.toDigits 10 other := by
      rw [← Nat.toList_repr, ← Nat.toList_repr]
      exact congrArg String.toList h
    have hread := congrArg (Nat.ofDigitChars 10 · 0) hdigits
    simp only [Nat.ofDigitChars_toDigits (by decide : 1 < 10) (by decide)] at hread
    exact congrArg Status.mk hread
  · rintro rfl
    rfl

namespace Series

/-- Counters with the same name and the same labels are the same. -/
theorem eq_of_published {first second : Series} (hname : first.name = second.name)
    (hlabels : first.labels = second.labels) : first = second := by
  cases first <;> cases second <;>
    simp_all [name, labels, Status.toText_inj]

/-- A counter is shown if it was raised, with the number of times that it was. -/
theorem mem_tally_iff {raised : List Series} {series : Series} {n : Nat} :
    (series, n) ∈ tally raised ↔ series ∈ raised ∧ n = raised.count series := by
  simp only [tally, List.mem_map, List.mem_eraseDups, Prod.mk.injEq]
  constructor
  · rintro ⟨other, hraised, rfl, rfl⟩
    exact ⟨hraised, rfl⟩
  · rintro ⟨hraised, rfl⟩
    exact ⟨series, hraised, rfl, rfl⟩

/-- The number that is shown under a name and labels; a counter that is not shown stands at zero. -/
def reading (raised : List Series) (name : String) (labels : List (String × String)) : Nat :=
  ((tally raised).find? fun row => row.1.name = name ∧ row.1.labels = labels).elim 0 Prod.snd

/-- The number that is shown for a counter is that of the times that it was raised. -/
theorem reading_eq_count (raised : List Series) (series : Series) :
    reading raised series.name series.labels = raised.count series := by
  unfold reading
  cases hfound : (tally raised).find? fun row =>
      row.1.name = series.name ∧ row.1.labels = series.labels with
  | none =>
    have hnone : series ∉ raised := by
      intro hraised
      have hshown := List.find?_eq_none.1 hfound _ (mem_tally_iff.2 ⟨hraised, rfl⟩)
      simp at hshown
    exact (List.count_eq_zero_of_not_mem hnone).symm
  | some row =>
    obtain ⟨other, n⟩ := row
    have hpublished := List.find?_some hfound
    simp only [decide_eq_true_eq] at hpublished
    obtain rfl := eq_of_published hpublished.1 hpublished.2
    exact (mem_tally_iff.1 (List.mem_of_find?_eq_some hfound)).2

end Series

end LinkCatalog
