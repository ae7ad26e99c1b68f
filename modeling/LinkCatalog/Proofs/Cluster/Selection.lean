import Mathlib.Data.Prod.Lex
import Mathlib.Order.WithBot
import LinkCatalog.Cluster.Selection
import LinkCatalog.Proofs.Text.ByteOrder
import LinkCatalog.Proofs.Text.Unsigned

/-!
# What the most recent record is

The most recent of some records under keys is described without ranks: a malformed version makes the
selection fail, and the first one is named; otherwise the record is selected that stands highest, by
the number of its version and then by the bytes of its key, and the first such record if there are
several. The description leaves no choice, so that it determines the selection.

Nothing but the keys and the versions is described, so that a selection goes along with every map of
the records that keeps them.

## Main definitions

- `IsMalformed`, `HasNumber` — versions that are no numbers, and the numbers of the others
- `HasStanding` — what a record is compared by
- `IsFirstMalformed`, `IsFirstHighest` — the record that is named, and the one that is selected
- `IsMostRecent` — which results a selection may have

## Main statements

- `isMostRecent_mostRecent`, `IsMostRecent.unique` — the selection has the one result that it may
  have
- `mostRecent_outcomes` — when a selection fails, selects nothing and selects a record
- `mostRecent_map` — selections from the images of records
-/

namespace LinkCatalog

-- ════════════════════════════════════════════════════════════════════════
-- Versions and standings
-- ════════════════════════════════════════════════════════════════════════

/-- A version has been recorded, but its text stands for no number of 64 bits. -/
def IsMalformed (version : Option String) : Prop :=
  ∃ text, version = some text ∧ ∀ n, ¬ Digits.IsUnsigned (2 ^ 64 - 1) text n

/-- The number of a version. It is below all numbers if no version has been recorded. -/
inductive HasNumber : Option String → WithBot ℕ → Prop where
  | unset : HasNumber none ⊥
  | recorded {text : String} {n : ℕ} (h : Digits.IsUnsigned (2 ^ 64 - 1) text n) :
      HasNumber (some text) n

/-- What records are compared by: the number of the version, then the bytes of the key. -/
abbrev Standing : Type := WithBot ℕ ×ₗ List ℕ

/-- The standing of a record under a key. -/
def HasStanding (key : String) (version : Option String) (standing : Standing) : Prop :=
  ∃ number, HasNumber version number ∧ standing = toLex (number, Text.bytes key)

theorem HasNumber.unique {version : Option String} {m n : WithBot ℕ} (hm : HasNumber version m)
    (hn : HasNumber version n) : m = n := by
  cases hm with
  | unset =>
    cases hn with
    | unset => rfl
  | recorded hm =>
    cases hn with
    | recorded hn => rw [hm.unique hn]

theorem HasNumber.not_isMalformed {version : Option String} {n : WithBot ℕ}
    (h : HasNumber version n) : ¬ IsMalformed version := by
  rintro ⟨text, rfl, hnone⟩
  cases h with
  | recorded h => exact hnone _ h

namespace HasStanding

variable {key other : String} {version : Option String} {s t : Standing}

theorem unique (hs : HasStanding key version s) (ht : HasStanding key version t) : s = t := by
  obtain ⟨m, hm, rfl⟩ := hs
  obtain ⟨n, hn, rfl⟩ := ht
  rw [hm.unique hn]

/-- Records under different keys stand differently. -/
theorem key_eq {otherVersion : Option String} (hs : HasStanding key version s)
    (ht : HasStanding other otherVersion s) : key = other := by
  obtain ⟨m, -, rfl⟩ := hs
  obtain ⟨n, -, heq⟩ := ht
  exact Text.bytes_inj.1 (congrArg (fun standing => (ofLex standing).2) heq)

theorem not_isMalformed (h : HasStanding key version s) : ¬ IsMalformed version := by
  obtain ⟨n, hn, -⟩ := h
  exact hn.not_isMalformed

end HasStanding

namespace Rank

/-- The number of a version that has been read. -/
def number : Option ℕ → WithBot ℕ
  | none => ⊥
  | some n => n

/-- The standing of a rank. -/
def standing (rank : Rank) : Standing :=
  toLex (number rank.version, Text.bytes rank.key)

theorem versionLt_iff {a b : Option ℕ} : versionLt a b = true ↔ number a < number b := by
  cases a <;> cases b <;> simp [versionLt, number]

theorem number_injective : Function.Injective number := by
  intro a b h
  cases a <;> cases b <;> simp_all [number]

/-- Ranks are in the order of their standings. -/
theorem lt_iff_standing_lt {a b : Rank} : a.lt b = true ↔ a.standing < b.standing := by
  simp only [lt, standing, Prod.Lex.toLex_lt_toLex, Bool.or_eq_true, Bool.and_eq_true, beq_iff_eq,
    decide_eq_true_eq, versionLt_iff, number_injective.eq_iff, Text.bytes_lt_bytes_iff]

variable {key : String} {version : Option String}

/-- The rank of a record says under which key it is, and how it stands. -/
theorem hasStanding_of_ofMarker {rank : Rank} (h : ofMarker key version = .ok rank) :
    rank.key = key ∧ HasStanding key version rank.standing := by
  cases version with
  | none =>
    cases h
    exact ⟨rfl, ⊥, .unset, rfl⟩
  | some text =>
    simp only [ofMarker] at h
    split at h
    · next n hread =>
      cases h
      exact ⟨rfl, n, .recorded (Digits.unsigned?_eq_some_iff.1 hread), rfl⟩
    · cases h

/-- A record without rank has a malformed version. -/
theorem isMalformed_of_ofMarker {malformed : MalformedVersion}
    (h : ofMarker key version = .error malformed) :
    malformed.name = key ∧ version = some malformed.value ∧ IsMalformed version := by
  cases version with
  | none => cases h
  | some text =>
    simp only [ofMarker] at h
    split at h
    · cases h
    · next hread =>
      cases h
      exact ⟨rfl, rfl, text, rfl, Digits.unsigned?_eq_none_iff.1 hread⟩

end Rank

-- ════════════════════════════════════════════════════════════════════════
-- The results that a selection may have
-- ════════════════════════════════════════════════════════════════════════

section Selection

variable {α : Type} {marker : α → Option String} {records : List (String × α)}

/-- The first of the records with a malformed version. -/
def IsFirstMalformed (marker : α → Option String) (records : List (String × α))
    (malformed : MalformedVersion) : Prop :=
  ∃ before record after, records = before ++ (malformed.name, record) :: after ∧
    (∀ entry ∈ before, ¬ IsMalformed (marker entry.2)) ∧
    marker record = some malformed.value ∧ IsMalformed (marker record)

/-- The record stands highest. Those before it stand lower, and those after it not higher; none of
    them has a malformed version. -/
def IsFirstHighest (marker : α → Option String) (records : List (String × α)) (key : String)
    (record : α) (highest : Standing) : Prop :=
  ∃ before after, records = before ++ (key, record) :: after ∧
    HasStanding key (marker record) highest ∧
    (∀ entry ∈ before, ∃ s, HasStanding entry.1 (marker entry.2) s ∧ s < highest) ∧
    ∀ entry ∈ after, ∃ s, HasStanding entry.1 (marker entry.2) s ∧ s ≤ highest

/-- The results that a selection from some records may have. -/
def IsMostRecent (marker : α → Option String) (records : List (String × α)) :
    Except MalformedVersion (Option α) → Prop
  | .error malformed => IsFirstMalformed marker records malformed
  | .ok none => records = []
  | .ok (some record) => ∃ key highest, IsFirstHighest marker records key record highest

/-- An entry with its rank. -/
def Ranked.ofEntry (marker : α → Option String) (entry : String × α) :
    Except MalformedVersion (Ranked α) := do
  let rank ← Rank.ofMarker entry.1 (marker entry.2)
  return { rank, record := entry.2 }

/-- The ranked record that a selection takes. -/
def Ranked.highest (marker : α → Option String) (records : List (String × α)) :
    Except MalformedVersion (Option (Ranked α)) :=
  (records.mapM (ofEntry marker)).map greatest

theorem mostRecent_eq_map (marker : α → Option String) (records : List (String × α)) :
    mostRecent marker records =
      (Ranked.highest marker records).map (Option.map Ranked.record) := by
  show (records.mapM (Ranked.ofEntry marker) >>= _) = _
  unfold Ranked.highest
  cases records.mapM (Ranked.ofEntry marker) <;> rfl

/-- The better one of a first record and what was selected from the others. -/
def Ranked.better (first : Ranked α) : Option (Ranked α) → Ranked α
  | none => first
  | some best => if first.rank.lt best.rank then best else first

theorem Ranked.greatest_cons (first : Ranked α) (rest : List (Ranked α)) :
    greatest (first :: rest) = some (better first (greatest rest)) := by
  rw [greatest]
  cases greatest rest with
  | none => rfl
  | some best => by_cases h : first.rank.lt best.rank <;> simp [better, h]

theorem Ranked.highest_cons (marker : α → Option String) (entry : String × α)
    (records : List (String × α)) :
    highest marker (entry :: records) = (do
      let first ← ofEntry marker entry
      let best ← highest marker records
      return some (better first best)) := by
  unfold highest
  rw [List.mapM_cons]
  cases ofEntry marker entry with
  | error malformed => rfl
  | ok first =>
    cases records.mapM (ofEntry marker) with
    | error malformed => rfl
    | ok rest => exact congrArg Except.ok (greatest_cons first rest)

/-- What is known of the ranked record that a selection takes. -/
def Ranked.IsHighest (marker : α → Option String) (records : List (String × α)) :
    Except MalformedVersion (Option (Ranked α)) → Prop
  | .error malformed => IsFirstMalformed marker records malformed
  | .ok none => records = []
  | .ok (some best) =>
    IsFirstHighest marker records best.rank.key best.record best.rank.standing

theorem IsFirstMalformed.cons {entry : String × α} {malformed : MalformedVersion}
    (h : IsFirstMalformed marker records malformed) (hentry : ¬ IsMalformed (marker entry.2)) :
    IsFirstMalformed marker (entry :: records) malformed := by
  obtain ⟨before, record, after, rfl, hbefore, hmalformed⟩ := h
  refine ⟨entry :: before, record, after, rfl, ?_, hmalformed⟩
  intro other hother
  rcases List.mem_cons.1 hother with rfl | hother
  · exact hentry
  · exact hbefore other hother

/-- The better one of a first record and the highest of the others is the highest of all. -/
theorem Ranked.IsHighest.cons {rank : Rank} {record : α} {best : Option (Ranked α)}
    (h : IsHighest marker records (.ok best))
    (hstanding : HasStanding rank.key (marker record) rank.standing) :
    IsHighest marker ((rank.key, record) :: records) (.ok (some (better ⟨rank, record⟩ best))) := by
  cases best with
  | none =>
    obtain rfl : records = [] := h
    exact ⟨[], [], rfl, hstanding, by simp, by simp⟩
  | some best =>
    obtain ⟨before, after, rfl, hbest, hbefore, hafter⟩ := h
    by_cases hlt : rank.lt best.rank = true
    · rw [show better ⟨rank, record⟩ (some best) = best from if_pos hlt]
      refine ⟨(rank.key, record) :: before, after, rfl, hbest, ?_, hafter⟩
      intro entry hentry
      rcases List.mem_cons.1 hentry with rfl | hentry
      · exact ⟨rank.standing, hstanding, Rank.lt_iff_standing_lt.1 hlt⟩
      · exact hbefore entry hentry
    · rw [show better ⟨rank, record⟩ (some best) = ⟨rank, record⟩ from if_neg hlt]
      have hle : best.rank.standing ≤ rank.standing :=
        not_lt.1 fun h => hlt (Rank.lt_iff_standing_lt.2 h)
      refine ⟨[], _, rfl, hstanding, by simp, ?_⟩
      intro entry hentry
      rcases List.mem_append.1 hentry with hentry | hentry
      · obtain ⟨s, hs, hless⟩ := hbefore entry hentry
        exact ⟨s, hs, hless.le.trans hle⟩
      rcases List.mem_cons.1 hentry with rfl | hentry
      · exact ⟨best.rank.standing, hbest, hle⟩
      · obtain ⟨s, hs, hless⟩ := hafter entry hentry
        exact ⟨s, hs, hless.trans hle⟩

/-- Induction on the records: the first one is compared with what was selected from the others. -/
theorem Ranked.isHighest_highest (marker : α → Option String) (records : List (String × α)) :
    IsHighest marker records (highest marker records) := by
  induction records with
  | nil => exact rfl
  | cons entry records ih =>
    obtain ⟨key, record⟩ := entry
    rw [highest_cons, ofEntry]
    cases hrank : Rank.ofMarker key (marker record) with
    | error malformed =>
      obtain ⟨rfl, hvalue, hmalformed⟩ := Rank.isMalformed_of_ofMarker hrank
      exact ⟨[], record, records, rfl, by simp, hvalue, hmalformed⟩
    | ok rank =>
      obtain ⟨rfl, hstanding⟩ := Rank.hasStanding_of_ofMarker hrank
      cases hhighest : highest marker records with
      | error malformed =>
        rw [hhighest] at ih
        exact IsFirstMalformed.cons ih hstanding.not_isMalformed
      | ok best =>
        rw [hhighest] at ih
        exact ih.cons hstanding

/-- The selection has a result that it may have. -/
theorem isMostRecent_mostRecent (marker : α → Option String) (records : List (String × α)) :
    IsMostRecent marker records (mostRecent marker records) := by
  have h := Ranked.isHighest_highest marker records
  rw [mostRecent_eq_map]
  cases hhighest : Ranked.highest marker records with
  | error malformed =>
    rw [hhighest] at h
    exact h
  | ok best =>
    rw [hhighest] at h
    cases best with
    | none => exact h
    | some best => exact ⟨best.rank.key, best.rank.standing, h⟩

-- ════════════════════════════════════════════════════════════════════════
-- There is only one such result
-- ════════════════════════════════════════════════════════════════════════

namespace IsFirstHighest

variable {key : String} {record : α} {highest : Standing}

theorem mem (h : IsFirstHighest marker records key record highest) : (key, record) ∈ records := by
  obtain ⟨before, after, rfl, -⟩ := h
  simp

theorem hasStanding (h : IsFirstHighest marker records key record highest) :
    HasStanding key (marker record) highest := by
  obtain ⟨before, after, -, hstanding, -⟩ := h
  exact hstanding

/-- No record stands higher. -/
theorem standing_le (h : IsFirstHighest marker records key record highest) :
    ∀ entry ∈ records, ∃ s, HasStanding entry.1 (marker entry.2) s ∧ s ≤ highest := by
  obtain ⟨before, after, rfl, hstanding, hbefore, hafter⟩ := h
  intro entry hentry
  rcases List.mem_append.1 hentry with hentry | hentry
  · obtain ⟨s, hs, hless⟩ := hbefore entry hentry
    exact ⟨s, hs, hless.le⟩
  rcases List.mem_cons.1 hentry with rfl | hentry
  · exact ⟨highest, hstanding, le_refl highest⟩
  · exact hafter entry hentry

theorem not_isMalformed (h : IsFirstHighest marker records key record highest) :
    ∀ entry ∈ records, ¬ IsMalformed (marker entry.2) := by
  intro entry hentry
  obtain ⟨s, hs, -⟩ := h.standing_le entry hentry
  exact hs.not_isMalformed

end IsFirstHighest

theorem IsFirstMalformed.exists_mem {malformed : MalformedVersion}
    (h : IsFirstMalformed marker records malformed) : ∃ record,
      (malformed.name, record) ∈ records ∧ marker record = some malformed.value ∧
        IsMalformed (marker record) := by
  obtain ⟨before, record, after, rfl, -, hvalue, hmalformed⟩ := h
  exact ⟨record, by simp, hvalue, hmalformed⟩

/-- Of the entries with a property one is the first. -/
theorem eq_of_isFirst (property : String × α → Prop)
    {before before' after after' : List (String × α)} {first first' : String × α}
    (h : before ++ first :: after = before' ++ first' :: after') (hfirst : property first)
    (hfirst' : property first') (hbefore : ∀ entry ∈ before, ¬ property entry)
    (hbefore' : ∀ entry ∈ before', ¬ property entry) : first = first' := by
  classical
  have hfind : ∀ before after first, property first → (∀ entry ∈ before, ¬ property entry) →
      (before ++ first :: after).find? (fun entry => decide (property entry)) = some first := by
    intro before after first hfirst hbefore
    rw [List.find?_eq_some_iff_append]
    exact ⟨by simpa using hfirst, before, after, rfl, by simpa using hbefore⟩
  have hsame := hfind before after first hfirst hbefore
  rw [h, hfind before' after' first' hfirst' hbefore'] at hsame
  exact (Option.some.inj hsame).symm

theorem IsFirstMalformed.unique {malformed other : MalformedVersion}
    (h : IsFirstMalformed marker records malformed)
    (hother : IsFirstMalformed marker records other) : malformed = other := by
  obtain ⟨name, value⟩ := malformed
  obtain ⟨otherName, otherValue⟩ := other
  obtain ⟨before, record, after, rfl, hbefore, hvalue, hmalformed⟩ := h
  obtain ⟨before', record', after', hsplit, hbefore', hvalue', hmalformed'⟩ := hother
  have hsame := eq_of_isFirst (fun entry => IsMalformed (marker entry.2)) hsplit hmalformed
    hmalformed' hbefore hbefore'
  cases hsame
  obtain rfl : value = otherValue := Option.some.inj (hvalue.symm.trans hvalue')
  rfl

/-- Two records that stand highest stand equally high, and one of them is the first. -/
theorem IsFirstHighest.unique {key other : String} {record otherRecord : α}
    {highest otherHighest : Standing} (h : IsFirstHighest marker records key record highest)
    (hother : IsFirstHighest marker records other otherRecord otherHighest) :
    record = otherRecord := by
  have hmem := h.mem
  have hmem' := hother.mem
  have hall := h.standing_le
  have hall' := hother.standing_le
  obtain ⟨before, after, hsplit, hstanding, hbefore, -⟩ := h
  obtain ⟨before', after', hsplit', hstanding', hbefore', -⟩ := hother
  have hle : highest ≤ otherHighest := by
    obtain ⟨s, hs, hle⟩ := hall' _ hmem
    rwa [hstanding.unique hs]
  have hge : otherHighest ≤ highest := by
    obtain ⟨s, hs, hge⟩ := hall _ hmem'
    rwa [hstanding'.unique hs]
  obtain rfl : highest = otherHighest := le_antisymm hle hge
  have hbelow : ∀ {before : List (String × α)},
      (∀ entry ∈ before, ∃ s, HasStanding entry.1 (marker entry.2) s ∧ s < highest) →
      ∀ entry ∈ before, ¬ HasStanding entry.1 (marker entry.2) highest := by
    intro before hbefore entry hentry hequal
    obtain ⟨s, hs, hless⟩ := hbefore entry hentry
    exact hless.ne (hs.unique hequal)
  have hsame := eq_of_isFirst (fun entry => HasStanding entry.1 (marker entry.2) highest)
    (hsplit.symm.trans hsplit') hstanding hstanding' (hbelow hbefore) (hbelow hbefore')
  exact congrArg Prod.snd hsame

namespace IsMostRecent

/-- Where something may be selected, no version is malformed. -/
theorem not_isMalformed {selected : Option α} (h : IsMostRecent marker records (.ok selected)) :
    ∀ entry ∈ records, ¬ IsMalformed (marker entry.2) := by
  cases selected with
  | none =>
    obtain rfl : records = [] := h
    simp
  | some record =>
    obtain ⟨key, highest, h⟩ := h
    exact h.not_isMalformed

theorem ne_nil {record : α} (h : IsMostRecent marker records (.ok (some record))) :
    records ≠ [] := by
  obtain ⟨key, highest, h⟩ := h
  exact List.ne_nil_of_mem h.mem

/-- A selection may have one result only. -/
theorem unique {result other : Except MalformedVersion (Option α)}
    (h : IsMostRecent marker records result) (hother : IsMostRecent marker records other) :
    result = other := by
  match result, other with
  | .error malformed, .error otherMalformed => rw [IsFirstMalformed.unique h hother]
  | .error malformed, .ok selected =>
    obtain ⟨record, hmem, -, hmalformed⟩ := IsFirstMalformed.exists_mem h
    exact absurd hmalformed (hother.not_isMalformed _ hmem)
  | .ok selected, .error malformed =>
    obtain ⟨record, hmem, -, hmalformed⟩ := IsFirstMalformed.exists_mem hother
    exact absurd hmalformed (h.not_isMalformed _ hmem)
  | .ok none, .ok none => rfl
  | .ok none, .ok (some record) => exact absurd h hother.ne_nil
  | .ok (some record), .ok none => exact absurd hother h.ne_nil
  | .ok (some record), .ok (some otherRecord) =>
    obtain ⟨key, highest, h⟩ := h
    obtain ⟨otherKey, otherHighest, hother⟩ := hother
    rw [h.unique hother]

end IsMostRecent

theorem isMostRecent_iff {result : Except MalformedVersion (Option α)} :
    IsMostRecent marker records result ↔ mostRecent marker records = result := by
  constructor
  · intro h
    exact (isMostRecent_mostRecent marker records).unique h
  · rintro rfl
    exact isMostRecent_mostRecent marker records

/-- A selection fails if a version is malformed, whatever the other records are. -/
theorem exists_mostRecent_eq_error_iff :
    (∃ malformed, mostRecent marker records = .error malformed) ↔
      ∃ entry ∈ records, IsMalformed (marker entry.2) := by
  have hresult := isMostRecent_mostRecent marker records
  constructor
  · rintro ⟨malformed, hfails⟩
    rw [hfails] at hresult
    obtain ⟨record, hmem, -, hmalformed⟩ := IsFirstMalformed.exists_mem hresult
    exact ⟨_, hmem, hmalformed⟩
  · rintro ⟨entry, hentry, hmalformed⟩
    cases hselects : mostRecent marker records with
    | error malformed => exact ⟨malformed, rfl⟩
    | ok selected =>
      rw [hselects] at hresult
      exact absurd hmalformed (hresult.not_isMalformed entry hentry)

/-- **Selection.** A malformed version makes the selection fail, whatever the other records are, and
    the first one is named; without records nothing is selected; and otherwise the first of the
    records that stand highest is selected. -/
theorem mostRecent_outcomes (marker : α → Option String) (records : List (String × α)) :
    ((∃ malformed, mostRecent marker records = .error malformed) ↔
        ∃ entry ∈ records, IsMalformed (marker entry.2)) ∧
      (∀ malformed, mostRecent marker records = .error malformed ↔
        IsFirstMalformed marker records malformed) ∧
      (mostRecent marker records = .ok none ↔ records = []) ∧
      ∀ record, mostRecent marker records = .ok (some record) ↔
        ∃ key highest, IsFirstHighest marker records key record highest := by
  refine ⟨exists_mostRecent_eq_error_iff, ?_, ?_, ?_⟩
  · intro malformed
    exact isMostRecent_iff.symm
  · exact isMostRecent_iff.symm
  · intro record
    exact isMostRecent_iff.symm

-- A sign alone is no number, and no version at all is less than zero.
example : mostRecent id [("a", some "7"), ("b", some "+"), ("c", some "")] = .error ⟨"b", "+"⟩ ∧
    mostRecent id [("b", none), ("a", some "0")] = .ok (some (some "0")) := by decide

-- ════════════════════════════════════════════════════════════════════════
-- Images of records
-- ════════════════════════════════════════════════════════════════════════

section Map

variable {β : Type} {marker : β → Option String} {f : α → β}

theorem IsFirstMalformed.map {malformed : MalformedVersion}
    (h : IsFirstMalformed (marker ∘ f) records malformed) :
    IsFirstMalformed marker (records.map (Prod.map id f)) malformed := by
  obtain ⟨before, record, after, rfl, hbefore, hmalformed⟩ := h
  exact ⟨before.map (Prod.map id f), f record, after.map (Prod.map id f), by simp,
    List.forall_mem_map.2 hbefore, hmalformed⟩

theorem IsFirstHighest.map {key : String} {record : α} {highest : Standing}
    (h : IsFirstHighest (marker ∘ f) records key record highest) :
    IsFirstHighest marker (records.map (Prod.map id f)) key (f record) highest := by
  obtain ⟨before, after, rfl, hstanding, hbefore, hafter⟩ := h
  exact ⟨before.map (Prod.map id f), after.map (Prod.map id f), by simp, hstanding,
    List.forall_mem_map.2 hbefore, List.forall_mem_map.2 hafter⟩

/-- The selected one of the images of some records is the image of the selected record. -/
theorem mostRecent_map (marker : β → Option String) (f : α → β) (records : List (String × α)) :
    mostRecent marker (records.map (Prod.map id f)) =
      (mostRecent (marker ∘ f) records).map (Option.map f) := by
  have h := isMostRecent_mostRecent (marker ∘ f) records
  refine isMostRecent_iff.1 ?_
  cases hresult : mostRecent (marker ∘ f) records with
  | error malformed =>
    rw [hresult] at h
    exact IsFirstMalformed.map h
  | ok selected =>
    rw [hresult] at h
    cases selected with
    | none =>
      obtain rfl : records = [] := h
      exact rfl
    | some record =>
      obtain ⟨key, highest, h⟩ := h
      exact ⟨key, highest, h.map⟩

end Map

end Selection

end LinkCatalog
