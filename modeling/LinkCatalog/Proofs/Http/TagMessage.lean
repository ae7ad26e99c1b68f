import Mathlib.Data.List.Forall2
import LinkCatalog.Proofs.Http.ValidatorFields
import LinkCatalog.Proofs.Uuid
import LinkCatalog.Service.Conditional

/-!
# The message behind a tag

The bytes that a tag is a digest of can be taken apart again, although the bytes of a time may look
like the hyphens and line feeds between the parts: all parts have fixed widths. So the message tells
the identifier and the microseconds of every link type in the answer, in order.

## Main definitions

- `Validators.mark` — what a tag depends on for a link type
- `Validators.IsDigestTag` — the form of tags

## Main statements

- `Validators.microBytes_inj` — the time of a link type in a message
- `Validators.message_eq_iff` — messages are equal if and only if identifiers and times are
- `Validators.tagOf_inj` — tags are equal if and only if the digests are
- `Validators.etag_identifies` — what the tag of an answer tells, and what it looks like
-/

namespace LinkCatalog

-- ════════════════════════════════════════════════════════════════════════
-- Pieces of fixed width
-- ════════════════════════════════════════════════════════════════════════

/-- Lists are equal if they are equal under a function that tells their members apart. -/
theorem eq_of_map_eq {α β : Type} {f : α → β} {as bs : List α}
    (hinj : ∀ a ∈ as, ∀ b ∈ bs, f a = f b → a = b) (h : as.map f = bs.map f) : as = bs := by
  induction as generalizing bs with
  | nil => exact (List.map_eq_nil_iff.1 h.symm).symm
  | cons a as ih =>
    cases bs with
    | nil => cases h
    | cons b bs =>
      obtain ⟨hhead, htail⟩ := List.cons.inj h
      have hrest : as = bs := ih
        (fun c hc d hd => hinj c (List.mem_cons_of_mem a hc) d (List.mem_cons_of_mem b hd)) htail
      rw [hinj a List.mem_cons_self b List.mem_cons_self hhead, hrest]

/-- Pieces of one width that are put one after the other can be told apart. -/
theorem map_eq_of_flatMap_eq {α β γ : Type} {piece : α → List β} {key : α → γ} {width : Nat}
    (hwidth : 0 < width) (hlength : ∀ a, (piece a).length = width)
    (hkey : ∀ a b, piece a = piece b → key a = key b) {as bs : List α}
    (h : as.flatMap piece = bs.flatMap piece) : as.map key = bs.map key := by
  induction as generalizing bs with
  | nil =>
    cases bs with
    | nil => rfl
    | cons b bs =>
      have hempty := congrArg List.length h
      simp [hlength] at hempty
      omega
  | cons a as ih =>
    cases bs with
    | nil =>
      have hempty := congrArg List.length h
      simp [hlength] at hempty
      omega
    | cons b bs =>
      rw [List.flatMap_cons, List.flatMap_cons] at h
      obtain ⟨hhead, htail⟩ := List.append_inj h ((hlength a).trans (hlength b).symm)
      rw [List.map_cons, List.map_cons, hkey a b hhead, ih htail]

namespace Digits

/-- Digits that are written with different characters tell the number, up to the digits that were
    left out. -/
theorem mod_eq_of_map_fixed_eq {α : Type} {base width n m : Nat} {char : Nat → α} (hbase : 0 < base)
    (hinj : ∀ a < base, ∀ b < base, char a = char b → a = b)
    (h : (fixed base width n).map char = (fixed base width m).map char) :
    n % Nat.pow base width = m % Nat.pow base width := by
  have hdigits : fixed base width n = fixed base width m :=
    eq_of_map_eq (fun a ha b hb => hinj a (lt_of_mem_fixed hbase ha) b (lt_of_mem_fixed hbase hb)) h
  rw [← value_fixed, ← value_fixed, hdigits]

/-- Hexadecimal digits tell a number that they are enough for. -/
theorem eq_of_hex_eq {width n m : Nat} (hn : n < Nat.pow 16 width) (hm : m < Nat.pow 16 width)
    (h : hex width n = hex width m) : n = m := by
  have hinj : ∀ a < 16, ∀ b < 16, Nat.digitChar a = Nat.digitChar b → a = b := by decide
  have hmod := mod_eq_of_map_fixed_eq (by decide) hinj h
  rwa [Nat.mod_eq_of_lt hn, Nat.mod_eq_of_lt hm] at hmod

end Digits

-- ════════════════════════════════════════════════════════════════════════
-- Parts of messages
-- ════════════════════════════════════════════════════════════════════════

/-- Microseconds of instants fit into 64 bits. -/
theorem Instant.micros_bounds (t : Instant) :
    -0x8000000000000000 ≤ t.micros ∧ t.micros < 0x8000000000000000 := by
  obtain ⟨hlow, hhigh, hnanos, -⟩ := t.valid
  unfold minSeconds at hlow
  unfold maxSeconds at hhigh
  unfold micros
  omega

namespace Sha256

theorem length_bigEndian (width n : Nat) : (bigEndian width n).length = width := by
  simp [bigEndian]

theorem mod_eq_of_bigEndian_eq {width n m : Nat} (h : bigEndian width n = bigEndian width m) :
    n % Nat.pow 256 width = m % Nat.pow 256 width := by
  refine Digits.mod_eq_of_map_fixed_eq (by decide) (fun a ha b hb hbyte => ?_) h
  have hnat := congrArg UInt8.toNat hbyte
  rwa [UInt8.toNat_ofNat', UInt8.toNat_ofNat', Nat.mod_eq_of_lt ha, Nat.mod_eq_of_lt hb] at hnat

/-- A digest can be read off its digits. -/
theorem hexDigest_inj {message other : List UInt8} :
    hexDigest message = hexDigest other ↔ digest message = digest other := by
  refine ⟨fun h => ?_, fun h => by rw [hexDigest, h, hexDigest]⟩
  have hlt : ∀ word : UInt32, word.toNat < Nat.pow 16 8 := UInt32.toNat_lt
  have hwords : (digest message).words.map id = (digest other).words.map id :=
    map_eq_of_flatMap_eq (by decide) (fun word => Digits.length_hex 8 _)
      (fun a b hpiece => UInt32.toNat_inj.1 (Digits.eq_of_hex_eq (hlt a) (hlt b) hpiece)) h
  generalize digest message = s at hwords
  generalize digest other = t at hwords
  cases s
  cases t
  simpa [State.words] using hwords

end Sha256

namespace Validators

theorem tagOf_inj {message other : List UInt8} :
    tagOf message = tagOf other ↔ Sha256.digest message = Sha256.digest other := by
  rw [← Sha256.hexDigest_inj, ← String.toList_inj, toList_tagOf, toList_tagOf]
  simp

/-- The bytes of a time tell its microseconds. -/
theorem microBytes_inj {s t : Instant} :
    microBytes s.micros = microBytes t.micros ↔ s.micros = t.micros := by
  refine ⟨fun h => ?_, fun h => by rw [h]⟩
  have hs := s.micros_bounds
  have ht := t.micros_bounds
  have hmod := Sha256.mod_eq_of_bigEndian_eq h
  have hpow : Nat.pow 256 8 = 18446744073709551616 := by decide
  have hsize : (UInt64.size : Int) = 18446744073709551616 := rfl
  rw [hpow, hsize] at hmod
  omega

theorem length_bytes_toText (id : Uuid) : (HeaderValue.bytes id.toText).length = 36 := by
  have hreadable : ∀ c ∈ id.toText.toList, HeaderValue.IsReadable c :=
    fun c hc => .inl (Uuid.isPlain_of_mem_toText hc)
  rw [HeaderValue.bytes_eq_map hreadable, List.length_map, Uuid.toText, String.toList_ofList,
    Uuid.length_chars]

theorem bytes_toText_inj {a b : Uuid} (h : HeaderValue.bytes a.toText = HeaderValue.bytes b.toText) :
    a = b := by
  have htext := congrArg HeaderValue.toText? h
  rw [HeaderValue.toText?_bytes fun c => Uuid.isPlain_of_mem_toText,
    HeaderValue.toText?_bytes fun c => Uuid.isPlain_of_mem_toText] at htext
  exact Uuid.toText_injective (String.toList_inj.1 (Option.some.inj htext))

/-- A stamp takes 46 bytes: 36 for the identifier, 8 for the time, and two marks. -/
theorem length_stampBytes (row : LinkType) : (stampBytes row.stamp).length = 46 := by
  have hkey : (row.id.toText.toList.flatMap String.utf8EncodeChar).length = 36 :=
    length_bytes_toText row.id
  simp [stampBytes, LinkType.stamp, microBytes, Sha256.length_bigEndian, hkey]

/-- What a tag depends on for a link type. -/
def mark (row : LinkType) : Uuid × Int :=
  (row.id, row.updatedAt.micros)

/-- The bytes of what a tag depends on. -/
def markBytes (mark : Uuid × Int) : List UInt8 :=
  HeaderValue.bytes mark.1.toText ++ 0x2d :: microBytes mark.2 ++ [0x0a]

theorem stampBytes_stamp (row : LinkType) : stampBytes row.stamp = markBytes (mark row) := rfl

theorem stampBytes_inj {row other : LinkType} :
    stampBytes row.stamp = stampBytes other.stamp ↔ mark row = mark other := by
  simp only [mark, Prod.mk.injEq]
  constructor
  · intro h
    unfold stampBytes at h
    obtain ⟨hfront, -⟩ := List.append_inj' h rfl
    have hlength : (HeaderValue.bytes row.id.toText).length =
        (HeaderValue.bytes other.id.toText).length := by
      rw [length_bytes_toText, length_bytes_toText]
    obtain ⟨hkey, htime⟩ := List.append_inj hfront hlength
    exact ⟨bytes_toText_inj hkey, microBytes_inj.1 (List.cons.inj htime).2⟩
  · rintro ⟨hid, hmicros⟩
    rw [stampBytes_stamp, stampBytes_stamp, mark, mark, hid, hmicros]

/-- **Unique decoding.** The messages of two lists of link types are equal if and only if the lists
    agree in all identifiers and microseconds. -/
theorem message_eq_iff {rows others : List LinkType} :
    message (rows.map LinkType.stamp) = message (others.map LinkType.stamp) ↔
      rows.map mark = others.map mark := by
  have hbytes : ∀ rows : List LinkType,
      message (rows.map LinkType.stamp) = (rows.map mark).flatMap markBytes := by
    intro rows
    simp only [message, List.flatMap_map, stampBytes_stamp]
  constructor
  · intro h
    simp only [message, List.flatMap_map] at h
    exact map_eq_of_flatMap_eq (by decide) length_stampBytes (fun _ _ => stampBytes_inj.1) h
  · intro h
    rw [hbytes, hbytes, h]

-- ════════════════════════════════════════════════════════════════════════
-- Tags as texts
-- ════════════════════════════════════════════════════════════════════════

/-- A tag is 64 hexadecimal digits in lower case, in double quotes. -/
def IsDigestTag (tag : String) : Prop :=
  ∃ digits : List Char, tag.toList = '"' :: digits ++ ['"'] ∧ digits.length = 64 ∧
    ∀ c ∈ digits, ('0' ≤ c ∧ c ≤ '9') ∨ ('a' ≤ c ∧ c ≤ 'f')

theorem isDigestTag_tagOf (message : List UInt8) : IsDigestTag (tagOf message) := by
  have hdigits : ∀ digit < 16, ('0' ≤ Nat.digitChar digit ∧ Nat.digitChar digit ≤ '9') ∨
      ('a' ≤ Nat.digitChar digit ∧ Nat.digitChar digit ≤ 'f') := by
    decide
  refine ⟨Sha256.hexDigest message, toList_tagOf message, Sha256.length_hexDigest message, ?_⟩
  intro c hc
  obtain ⟨digit, hdigit, rfl⟩ := Sha256.mem_hexDigest hc
  exact hdigits digit hdigit

/-- Messages are equal if and only if there are equally many link types, and they agree one by
    one. -/
theorem message_eq_iff_forall₂ {rows others : List LinkType} :
    message (rows.map LinkType.stamp) = message (others.map LinkType.stamp) ↔
      List.Forall₂ (fun row other : LinkType =>
        row.id = other.id ∧ row.updatedAt.micros = other.updatedAt.micros) rows others := by
  rw [message_eq_iff, ← List.forall₂_eq_eq_eq, List.forall₂_map_left_iff,
    List.forall₂_map_right_iff]
  simp only [mark, Prod.mk.injEq]

/-- **Tags identify answers.** The message that the tag of an answer is a digest of tells the number
    of link types in the answer, and the identifier and the microseconds of each, in order. The tag
    is the digest in 64 digits and quotes, so that it can stand in a header field, and in a list that
    is separated by commas. -/
theorem etag_identifies (rows others : List LinkType) (cacheControl : String) :
    let stamps := rows.map LinkType.stamp
    let tag := (ofStamps stamps cacheControl).etag
    (message stamps = message (others.map LinkType.stamp) ↔
      List.Forall₂ (fun row other : LinkType =>
        row.id = other.id ∧ row.updatedAt.micros = other.updatedAt.micros) rows others) ∧
    tag.toList = '"' :: Sha256.hexDigest (message stamps) ++ ['"'] ∧ IsDigestTag tag ∧
    HeaderValue.ofText? tag = some (HeaderValue.bytes tag) ∧ ',' ∉ tag.toList := by
  intro stamps tag
  have hplain : ∀ c ∈ tag.toList, HeaderValue.IsPlain c := fun _ => isPlain_of_mem_tagOf
  exact ⟨message_eq_iff_forall₂, toList_tagOf _, isDigestTag_tagOf _,
    HeaderValue.ofText?_eq_some hplain, not_mem_tagOf_comma _⟩

end Validators

end LinkCatalog
