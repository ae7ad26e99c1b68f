import Mathlib.Data.List.Forall2
import LinkCatalog.Proofs.Cluster.Selection

/-!
# Records in other orders and versions in other spellings

The entries of a map come in no particular order, and a number can be written in several ways. What
records are compared by depends on neither. So the selections from the same records in another
order, with other spellings of the same numbers, fail together, select nothing together, and
otherwise select the record under the same key. Which one of several malformed versions is named
does depend on the order.

## Main definitions

- `SaysSame` — versions that are the same, or write the same number
- `Respells` — records in another order, with numbers written in other ways
- `SelectAlike` — results of one kind

## Main statements

- `mostRecent_respells` — selections from records in another order, with other spellings
-/

namespace LinkCatalog

section Spelling

variable {α β : Type} {marker : α → Option String} {records : List (String × α)}

/-- Two versions say the same: they are the same, or two ways to write one number. -/
def SaysSame (version other : Option String) : Prop :=
  version = other ∨ ∃ text otherText n, version = some text ∧ other = some otherText ∧
    Digits.IsUnsigned (2 ^ 64 - 1) text n ∧ Digits.IsUnsigned (2 ^ 64 - 1) otherText n

/-- The same keys in another order, with versions that say the same. -/
def Respells (marker : α → Option String) (records others : List (String × α)) : Prop :=
  ∃ reordered, records.Perm reordered ∧
    List.Forall₂ (fun entry other => entry.1 = other.1 ∧ SaysSame (marker entry.2) (marker other.2))
      reordered others

/-- An error names a record whose version is malformed. -/
def NamesMalformed (marker : α → Option String) (records : List (String × α))
    (malformed : MalformedVersion) : Prop :=
  ∃ record, (malformed.name, record) ∈ records ∧ marker record = some malformed.value ∧
    IsMalformed (marker record)

/-- Two selections have results of one kind: both fail and name a record whose version is malformed,
    both select nothing, or both select the record under one key. -/
def SelectAlike (marker : α → Option String) (records others : List (String × α)) :
    Except MalformedVersion (Option α) → Except MalformedVersion (Option α) → Prop
  | .error malformed, .error otherMalformed =>
    NamesMalformed marker records malformed ∧ NamesMalformed marker others otherMalformed
  | .ok none, .ok none => True
  | .ok (some record), .ok (some other) =>
    ∃ key highest, IsFirstHighest marker records key record highest ∧
      IsFirstHighest marker others key other highest
  | _, _ => False

namespace SaysSame

variable {version other : Option String}

theorem symm (h : SaysSame version other) : SaysSame other version := by
  rcases h with rfl | ⟨text, otherText, n, hversion, hother, hnumber, hotherNumber⟩
  · exact .inl rfl
  · exact .inr ⟨otherText, text, n, hother, hversion, hotherNumber, hnumber⟩

theorem hasStanding {key : String} {s : Standing} (h : SaysSame version other)
    (hs : HasStanding key version s) : HasStanding key other s := by
  rcases h with rfl | ⟨text, otherText, n, rfl, rfl, hnumber, hotherNumber⟩
  · exact hs
  · have hn : HasStanding key (some otherText) (toLex ((n : WithBot ℕ), Text.bytes key)) :=
      ⟨n, .recorded hotherNumber, rfl⟩
    have hsame : HasStanding key (some text) (toLex ((n : WithBot ℕ), Text.bytes key)) :=
      ⟨n, .recorded hnumber, rfl⟩
    rw [hs.unique hsame]
    exact hn

theorem isMalformed (h : SaysSame version other) (hmalformed : IsMalformed version) :
    IsMalformed other := by
  rcases h with rfl | ⟨text, otherText, n, rfl, rfl, hnumber, -⟩
  · exact hmalformed
  · exact absurd hmalformed (HasNumber.recorded hnumber).not_isMalformed

end SaysSame

theorem exists_mem_of_forall₂ {R : α → β → Prop} {xs : List α} {ys : List β}
    (h : List.Forall₂ R xs ys) {x : α} (hx : x ∈ xs) : ∃ y ∈ ys, R x y := by
  induction h with
  | nil => cases hx
  | cons hhead hrest ih =>
    rcases List.mem_cons.1 hx with rfl | hx
    · exact ⟨_, List.mem_cons_self, hhead⟩
    · obtain ⟨y, hy, hR⟩ := ih hx
      exact ⟨y, List.mem_cons_of_mem _ hy, hR⟩

/-- For every record there is another one under its key with a version that says the same. -/
def HasCounterparts (marker : α → Option String) (records others : List (String × α)) : Prop :=
  ∀ entry ∈ records, ∃ other ∈ others,
    entry.1 = other.1 ∧ SaysSame (marker entry.2) (marker other.2)

theorem Respells.hasCounterparts {others : List (String × α)} (h : Respells marker records others) :
    HasCounterparts marker records others ∧ HasCounterparts marker others records := by
  obtain ⟨reordered, hperm, hsame⟩ := h
  constructor
  · intro entry hentry
    exact exists_mem_of_forall₂ hsame (hperm.subset hentry)
  · intro other hother
    obtain ⟨entry, hentry, hkey, hsame⟩ := exists_mem_of_forall₂ hsame.flip hother
    exact ⟨entry, hperm.symm.subset hentry, hkey.symm, hsame.symm⟩

namespace HasCounterparts

variable {others : List (String × α)}

theorem exists_isMalformed {malformed : MalformedVersion}
    (h : HasCounterparts marker records others)
    (hfirst : IsFirstMalformed marker records malformed) :
    ∃ entry ∈ others, IsMalformed (marker entry.2) := by
  obtain ⟨record, hmem, -, hmalformed⟩ := hfirst.exists_mem
  obtain ⟨other, hother, -, hsame⟩ := h _ hmem
  exact ⟨other, hother, hsame.isMalformed hmalformed⟩

theorem eq_nil (h : HasCounterparts marker records []) : records = [] := by
  refine List.eq_nil_iff_forall_not_mem.2 fun entry hentry => ?_
  obtain ⟨other, hother, -⟩ := h entry hentry
  cases hother

/-- The highest of some records stands no higher than the highest of others that say the same. -/
theorem highest_le {key otherKey : String} {record other : α} {highest otherHighest : Standing}
    (h : HasCounterparts marker records others)
    (hfirst : IsFirstHighest marker records key record highest)
    (hother : IsFirstHighest marker others otherKey other otherHighest) :
    highest ≤ otherHighest := by
  obtain ⟨counterpart, hmem, rfl, hsame⟩ := h _ hfirst.mem
  obtain ⟨s, hs, hle⟩ := hother.standing_le counterpart hmem
  rwa [(hsame.hasStanding hfirst.hasStanding).unique hs]

end HasCounterparts

/-- **Order and spelling.** The selections from records in another order, with numbers written in
    other ways, have results of one kind. Even keys may be repeated. -/
theorem mostRecent_respells {others : List (String × α)} (h : Respells marker records others) :
    SelectAlike marker records others (mostRecent marker records) (mostRecent marker others) := by
  obtain ⟨hforth, hback⟩ := h.hasCounterparts
  have hrecords := isMostRecent_mostRecent marker records
  have hothers := isMostRecent_mostRecent marker others
  generalize mostRecent marker records = result at hrecords ⊢
  generalize mostRecent marker others = otherResult at hothers ⊢
  match result, otherResult with
  | .error malformed, .error otherMalformed =>
    exact ⟨IsFirstMalformed.exists_mem hrecords, IsFirstMalformed.exists_mem hothers⟩
  | .error malformed, .ok selected =>
    obtain ⟨entry, hentry, hmalformed⟩ := hforth.exists_isMalformed hrecords
    exact absurd hmalformed (hothers.not_isMalformed entry hentry)
  | .ok selected, .error malformed =>
    obtain ⟨entry, hentry, hmalformed⟩ := hback.exists_isMalformed hothers
    exact absurd hmalformed (hrecords.not_isMalformed entry hentry)
  | .ok none, .ok none => trivial
  | .ok none, .ok (some other) =>
    obtain rfl : records = [] := hrecords
    exact absurd hback.eq_nil hothers.ne_nil
  | .ok (some record), .ok none =>
    obtain rfl : others = [] := hothers
    exact absurd hforth.eq_nil hrecords.ne_nil
  | .ok (some record), .ok (some other) =>
    obtain ⟨key, highest, hfirst⟩ := hrecords
    obtain ⟨otherKey, otherHighest, hother⟩ := hothers
    obtain rfl : highest = otherHighest :=
      le_antisymm (hforth.highest_le hfirst hother) (hback.highest_le hother hfirst)
    obtain rfl : key = otherKey := hfirst.hasStanding.key_eq hother.hasStanding
    exact ⟨key, highest, hfirst, hother⟩

/-- Two records have the same version, which is written in two ways, and one has none. -/
def sampleRecords : List (String × Option String) :=
  [("web-1", some "2"), ("web-2", some "+2"), ("web-3", none)]

/-- The same records the other way round, with the version written in two other ways. -/
def sampleRespelled : List (String × Option String) :=
  [("web-3", none), ("web-2", some "002"), ("web-1", some "+02")]

/-- The greater key decides, however its version is written. -/
theorem mostRecent_respells_sample :
    Respells id sampleRecords sampleRespelled ∧
      mostRecent id sampleRecords = .ok (some (some "+2")) ∧
      mostRecent id sampleRespelled = .ok (some (some "002")) ∧
      SelectAlike id sampleRecords sampleRespelled (mostRecent id sampleRecords)
        (mostRecent id sampleRespelled) := by
  have hread : ∀ text ∈ ["2", "+2", "002", "+02"], Digits.IsUnsigned (2 ^ 64 - 1) text 2 := by
    have htwo : ∀ text ∈ ["2", "+2", "002", "+02"],
        Digits.unsigned? (2 ^ 64 - 1) text.toList = some 2 := by decide
    exact fun text htext => Digits.unsigned?_eq_some_iff.1 (htwo text htext)
  have hrespells : Respells id sampleRecords sampleRespelled := by
    refine ⟨sampleRecords.reverse, (List.reverse_perm _).symm, .cons ⟨rfl, .inl rfl⟩
      (.cons ⟨rfl, .inr ⟨"+2", "002", 2, rfl, rfl, ?_, ?_⟩⟩
        (.cons ⟨rfl, .inr ⟨"2", "+02", 2, rfl, rfl, ?_, ?_⟩⟩ .nil))⟩
    all_goals exact hread _ (by simp)
  exact ⟨hrespells, by decide, by decide, mostRecent_respells hrespells⟩

end Spelling

end LinkCatalog
