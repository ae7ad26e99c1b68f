import LinkCatalog.Json.Record
import LinkCatalog.Proofs.Json.Text
import LinkCatalog.Proofs.Time.Timestamp
import LinkCatalog.Proofs.Uuid

/-!
# Reading written records

A reader inverts a writer if it reads every value that is written as itself. Written values are
never null, which would stand for a missing field. Their integers fit and they are nested no deeper
than a text may be, so they can be told from their texts, and they have a reading in all their
parts, which counts where a value is put aside before it is read. The fields of a record are found
by their names wherever they stand, so a record is read back field by field.

## Main definitions

- `Read.Inverts` — a reader and a writer that fit together
- `Read.RoundTrips` — what follows for values that are written and read, or read and written

## Main statements

- `Read.Inverts.required`, `Read.Inverts.optional`, `Read.Inverts.record` — fields of records
- `Read.inverts_string`, `Read.inverts_uuid`, `Read.inverts_instant`, … — single values
- `Read.Inverts.list` — arrays
- `Read.Inverts.roundTrips` — what has been read can be written and read again
-/

namespace LinkCatalog

open Json (optionalMember)

-- ════════════════════════════════════════════════════════════════════════
-- Values that can be put into a text
-- ════════════════════════════════════════════════════════════════════════

namespace Json

attribute [simp] hasText haveText membersHaveText UInt64.toNat_lt_size

mutual

theorem hasText_mono : ∀ {least most : Nat} (value : Json), least ≤ most →
    value.hasText least = true → value.hasText most = true
  | _, _, .null, _, _ | _, _, .bool _, _, _ | _, _, .string _, _, _ => rfl
  | _, _, .integer _, _, h => by simpa using h
  | least + 1, most + 1, .array items, hle, h =>
    haveText_mono items (Nat.le_of_succ_le_succ hle) h
  | least + 1, most + 1, .object members, hle, h =>
    membersHaveText_mono members (Nat.le_of_succ_le_succ hle) h

theorem haveText_mono : ∀ {least most : Nat} (items : List Json), least ≤ most →
    haveText least items = true → haveText most items = true
  | _, _, [], _, _ => rfl
  | _, _, item :: items, hle, h => by
    rw [haveText, Bool.and_eq_true] at h ⊢
    exact ⟨hasText_mono item hle h.1, haveText_mono items hle h.2⟩

theorem membersHaveText_mono : ∀ {least most : Nat} (members : List (String × Json)),
    least ≤ most → membersHaveText least members = true → membersHaveText most members = true
  | _, _, [], _, _ => rfl
  | _, _, (_, value) :: members, hle, h => by
    rw [membersHaveText, Bool.and_eq_true] at h ⊢
    exact ⟨hasText_mono value hle h.1, membersHaveText_mono members hle h.2⟩

end

mutual

/-- What can be written has a reading in all its parts. -/
theorem isReadable_of_hasText : ∀ {depth : Nat} (value : Json), value.hasText depth = true →
    value.isReadable = true
  | _, .null, _ | _, .bool _, _ | _, .string _, _ | _, .integer _, _ => rfl
  | _ + 1, .array items, h => areReadable_of_haveText items h
  | _ + 1, .object members, h => areMembersReadable_of_membersHaveText members h

theorem areReadable_of_haveText : ∀ {depth : Nat} (items : List Json),
    haveText depth items = true → areReadable items = true
  | _, [], _ => rfl
  | _, item :: items, h => by
    rw [haveText, Bool.and_eq_true] at h
    rw [areReadable, isReadable_of_hasText item h.1, areReadable_of_haveText items h.2,
      Bool.and_self]

theorem areMembersReadable_of_membersHaveText : ∀ {depth : Nat} (members : List (String × Json)),
    membersHaveText depth members = true → areMembersReadable members = true
  | _, [], _ => rfl
  | _, (_, value) :: members, h => by
    rw [membersHaveText, Bool.and_eq_true] at h
    rw [areMembersReadable, isReadable_of_hasText value h.1,
      areMembersReadable_of_membersHaveText members h.2, Bool.and_self]

end

@[simp] theorem membersHaveText_append (depth : Nat) (members others : List (String × Json)) :
    membersHaveText depth (members ++ others) =
      (membersHaveText depth members && membersHaveText depth others) := by
  induction members with
  | nil => rfl
  | cons member members ih =>
    rw [List.cons_append, membersHaveText, membersHaveText, ih, Bool.and_assoc]

@[simp] theorem hasText_orNull_string (depth : Nat) (text : Option String) :
    (Json.orNull (text.map .string)).hasText depth = true := by
  cases text <;> rfl

theorem haveText_map {α : Type} {write : α → Json} {depth : Nat} {as : List α}
    (h : ∀ a, (write a).hasText depth = true) : haveText depth (as.map write) = true := by
  induction as with
  | nil => rfl
  | cons a as ih => rw [List.map_cons, haveText, h, ih, Bool.and_self]

@[simp] theorem natAbs_toInt_lt_size (n : Int32) : n.toInt.natAbs < UInt64.size := by
  have hlow := n.le_toInt
  have hhigh := n.toInt_lt
  have hsize : UInt64.size = 2 ^ 64 := rfl
  omega

end Json

/-- A reader reads every value that a writer writes as itself. Written values can be put into a text
    and are nested no deeper than `depth`. -/
structure Read.Inverts {α : Type} (read : Read α) (write : α → Json) (depth : Nat) : Prop where
  read_write : ∀ a, read (write a) = .ok a
  write_ne_null : ∀ a, write a ≠ .null
  hasText_write : ∀ a, (write a).hasText depth = true

/-- What is written is read back, also from a text, and writing what has been read and reading it
    again changes nothing. -/
def Read.RoundTrips {α : Type} (read : Read α) (write : α → Json) : Prop :=
  (∀ a, Json.parse? (write a).compact = some (write a) ∧ read (write a) = .ok a) ∧
    ∀ value, (do read (write (← read value))) = read value

-- ════════════════════════════════════════════════════════════════════════
-- Fields
-- ════════════════════════════════════════════════════════════════════════

namespace Fields

variable {α : Type} {fields : Fields} {name : String}

@[simp] theorem filter_optionalMember (other name : String) (value : Option Json) :
    (optionalMember other value).filter (fun field => field.1 == name) =
      if other == name then optionalMember other value else [] := by
  cases value with
  | none => by_cases hname : other == name <;> simp [optionalMember, hname]
  | some value => by_cases hname : other == name <;> simp [optionalMember, hname]

theorem find_eq {value : Option Json}
    (h : fields.filter (fun field => field.1 == name) = optionalMember name value) :
    fields.find name = .ok value := by
  rw [find, h]
  cases value <;> rfl

/-- A field that has been read is followed by the others. -/
theorem bind_eq {β : Type} {field : Except ReadError α} {next : α → Except ReadError β} {a : α}
    {result : β} (hfield : field = .ok a) (hnext : next a = .ok result) :
    (field >>= next) = .ok result := by
  rw [hfield]
  exact hnext

end Fields

namespace Read.Inverts

variable {α : Type} {read : Read α} {write : α → Json} {depth : Nat} {fields : Fields}
  {name : String}

theorem required (hread : read.Inverts write depth) (a : α)
    (h : fields.filter (fun field => field.1 == name) = [(name, write a)]) :
    fields.required name read = .ok a := by
  have hfind : fields.find name = .ok (some (write a)) := Fields.find_eq h
  rw [Fields.required, hfind]
  exact hread.read_write a

theorem optional (hread : read.Inverts write depth) (value : Option α)
    (h : fields.filter (fun field => field.1 == name) = optionalMember name (value.map write)) :
    fields.optional name read = .ok value := by
  rw [Fields.optional, Fields.find_eq h]
  cases value with
  | none => rfl
  | some a =>
    have hvalue : (do return some (← read (write a)) : Except ReadError (Option α)) =
        .ok (some a) := by
      rw [hread.read_write]
      rfl
    rw [← hvalue, Option.map_some]
    cases hwritten : write a with
    | null => exact absurd hwritten (hread.write_ne_null a)
    | _ => rfl

/-- An optional field that is written as null where it is missing. -/
theorem optional_orNull (hread : read.Inverts write depth) (value : Option α)
    (h : fields.filter (fun field => field.1 == name) = [(name, .orNull (value.map write))]) :
    fields.optional name read = .ok value := by
  cases value with
  | some a => exact hread.optional (some a) h
  | none =>
    have hfind : fields.find name = .ok (some .null) := Fields.find_eq h
    rw [Fields.optional, hfind]
    rfl

theorem hasText_of_le {most : Nat} (hread : read.Inverts write depth) (h : depth ≤ most) (a : α) :
    (write a).hasText most = true :=
  Json.hasText_mono (write a) h (hread.hasText_write a)

theorem hasText_optionalMember {most : Nat} (hread : read.Inverts write depth) (h : depth ≤ most)
    (name : String) (value : Option α) :
    Json.membersHaveText most (optionalMember name (value.map write)) = true := by
  cases value with
  | none => rfl
  | some a => exact Bool.and_eq_true _ _ ▸ ⟨hread.hasText_of_le h a, rfl⟩

/-- A record is read back if its fields are. -/
theorem record {names : List String} {build : Fields → Except ReadError α} {members : α → Fields}
    (hbuild : ∀ a, build (members a) = .ok a)
    (htext : ∀ a, Json.membersHaveText depth (members a) = true) :
    Read.Inverts (fun value => do build (← value.fields names)) (fun a => .object (members a))
      (depth + 1) where
  read_write := hbuild
  write_ne_null _ := Json.noConfusion
  hasText_write := htext

end Read.Inverts

-- ════════════════════════════════════════════════════════════════════════
-- Values
-- ════════════════════════════════════════════════════════════════════════

namespace Read

variable {α : Type} {read : Read α} {write : α → Json} {depth : Nat}

theorem inverts_string : string.Inverts .string 0 where
  read_write _ := rfl
  write_ne_null _ := Json.noConfusion
  hasText_write _ := rfl

theorem inverts_format {name : String} {ofText? : String → Option α} {toText : α → String}
    (h : ∀ a, ofText? (toText a) = some a) :
    (format name ofText?).Inverts (fun a => .string (toText a)) 0 where
  read_write a := by rw [format, h]
  write_ne_null _ := Json.noConfusion
  hasText_write _ := rfl

theorem inverts_uuid : uuid.Inverts (fun id => .string id.toText) 0 :=
  inverts_format Uuid.ofText?_toText

theorem inverts_instant : instant.Inverts (fun t => .string t.toText) 0 :=
  inverts_format Timestamp.read?_toText

theorem integer_eq {least most n : Int} (h : least ≤ n ∧ n ≤ most) :
    integer least most (.integer n) = .ok n :=
  if_pos h

theorem inverts_int32 : int32.Inverts (fun n => .integer n.toInt) 0 where
  read_write n := by
    rw [int32, integer_eq ⟨n.minValue_le_toInt, n.toInt_le⟩]
    exact congrArg Except.ok n.ofInt_toInt
  write_ne_null _ := Json.noConfusion
  hasText_write _ := by simp

theorem inverts_uint64 : uint64.Inverts (fun n => .integer n.toNat) 0 where
  read_write n := by
    have hn : n.toNat < UInt64.size := n.toNat_lt_size
    rw [uint64, integer_eq ⟨by omega, by omega⟩]
    exact congrArg Except.ok n.ofNat_toNat
  write_ne_null _ := Json.noConfusion
  hasText_write _ := by simp

theorem Inverts.mapM_map (h : read.Inverts write depth) (as : List α) :
    (as.map write).mapM read = .ok as := by
  induction as with
  | nil => rfl
  | cons a as ih =>
    rw [List.map_cons, List.mapM_cons, h.read_write, ih]
    rfl

theorem Inverts.list (h : read.Inverts write depth) :
    (Read.list read).Inverts (fun as => .array (as.map write)) (depth + 1) where
  read_write as := h.mapM_map as
  write_ne_null _ := Json.noConfusion
  hasText_write _ := Json.haveText_map h.hasText_write

theorem Inverts.buffered (h : read.Inverts write depth) :
    (Read.buffered read).Inverts write depth where
  read_write a := by
    rw [Read.buffered, if_pos (Json.isReadable_of_hasText _ (h.hasText_write a)), h.read_write]
  write_ne_null := h.write_ne_null
  hasText_write := h.hasText_write

theorem Inverts.roundTrips (h : read.Inverts write depth) (hdepth : depth ≤ Json.Machine.maxOpen) :
    read.RoundTrips write := by
  refine ⟨fun a => ?_, fun value => ?_⟩
  · exact ⟨Json.parse?_compact (h.hasText_of_le hdepth a), h.read_write a⟩
  cases hread : read value with
  | error failure => rfl
  | ok a => exact h.read_write a

end Read

end LinkCatalog
