import LinkCatalog.Http.Validators
import LinkCatalog.Proofs.Http.PlainText

/-!
# Validators in header fields

Tags and dates are plain text, so that only the cache policy can keep validators from being written
into header fields, and a client that sends the bytes of such a field back sends the text of it.

## Main definitions

- `HeaderValue.IsReadable` — plain characters and the tab
- `Validators.fields` — the fields of validators whose cache policy is a value

## Main statements

- `Validators.run_apply` — the validators are written if and only if the cache policy is a value
- `HeaderValue.toText?_bytes_of_isReadable` — a reader of the bytes of a text sees that text
- `Validators.isNotModified_of_tags`, `Validators.isNotModified_of_tag`,
  `Validators.isNotModified_of_date` — which answers are current for a client that sends tags, a
  single tag, or a date
-/

namespace LinkCatalog

-- ════════════════════════════════════════════════════════════════════════
-- Plain text in the values
-- ════════════════════════════════════════════════════════════════════════

namespace HeaderValue

theorem isPlain_of_mem_decimal {width n : Nat} {c : Char} (h : c ∈ Digits.decimal width n) :
    IsPlain c := by
  obtain ⟨digit, hdigit, rfl⟩ := List.mem_map.1 h
  have hlt : digit < 10 := Digits.lt_of_mem_fixed (by decide) hdigit
  exact Uuid.isPlain_digitChar digit (by omega)

/-- A character that a reader of values accepts: plain, or a tab. -/
def IsReadable (c : Char) : Prop :=
  IsPlain c ∨ c = '\t'

theorem toNat_lt_of_isReadable {c : Char} (h : IsReadable c) : c.toNat < 0x7f := by
  rcases h with h | rfl
  · exact h.2
  · decide

theorem toNat_byte_of_isReadable {c : Char} (h : IsReadable c) :
    (UInt8.ofNat c.toNat).toNat = c.toNat := by
  have hhigh := toNat_lt_of_isReadable h
  rw [UInt8.toNat_ofNat']
  omega

theorem isText_of_isReadable {c : Char} (h : IsReadable c) :
    isText (UInt8.ofNat c.toNat) = true := by
  have hnat := toNat_byte_of_isReadable h
  rcases h with h | rfl
  · have hlow : 0x20 ≤ UInt8.ofNat c.toNat := by
      rw [UInt8.le_iff_toNat_le, hnat]
      exact h.1
    have hhigh : UInt8.ofNat c.toNat < 0x7f := by
      rw [UInt8.lt_iff_toNat_lt, hnat]
      exact h.2
    simp [isText, hlow, hhigh]
  · decide

theorem bytes_eq_map {text : String} (h : ∀ c ∈ text.toList, IsReadable c) :
    bytes text = text.toList.map fun c => UInt8.ofNat c.toNat := by
  unfold bytes
  generalize text.toList = cs at h ⊢
  induction cs with
  | nil => rfl
  | cons c cs ih =>
    have hrest := ih fun other hother => h other (List.mem_cons_of_mem c hother)
    have hhigh := toNat_lt_of_isReadable (h c List.mem_cons_self)
    rw [List.flatMap_cons, hrest, utf8EncodeChar_of_ascii (by omega)]
    rfl

/-- A reader of the bytes of a text without other characters sees that text. -/
theorem toText?_bytes_of_isReadable {text : String} (h : ∀ c ∈ text.toList, IsReadable c) :
    toText? (bytes text) = some text.toList := by
  have hall : (bytes text).all isText = true := by
    rw [bytes_eq_map h, List.all_map, List.all_eq_true]
    exact fun c hc => isText_of_isReadable (h c hc)
  have hchars : (bytes text).map (fun b => Char.ofNat b.toNat) = text.toList := by
    rw [bytes_eq_map h, List.map_map]
    refine (List.map_congr_left fun c hc => ?_).trans (List.map_id _)
    simp [toNat_byte_of_isReadable (h c hc)]
  rw [toText?, if_pos hall, hchars]

/-- A reader of the bytes of a plain text sees that text. -/
theorem toText?_bytes {text : String} (h : ∀ c ∈ text.toList, IsPlain c) :
    toText? (bytes text) = some text.toList :=
  toText?_bytes_of_isReadable fun c hc => .inl (h c hc)

end HeaderValue

open HeaderValue (IsPlain)

theorem Sha256.mem_hexDigest {message : List UInt8} {c : Char} (h : c ∈ hexDigest message) :
    ∃ digit < 16, c = Nat.digitChar digit := by
  obtain ⟨word, -, hword⟩ := List.mem_flatMap.1 h
  obtain ⟨digit, hdigit, rfl⟩ := List.mem_map.1 hword
  exact ⟨digit, Digits.lt_of_mem_fixed (by decide) hdigit, rfl⟩

namespace Validators

theorem toList_tagOf (message : List UInt8) :
    (tagOf message).toList = '"' :: Sha256.hexDigest message ++ ['"'] := by
  rw [tagOf, String.toList_ofList]

theorem mem_tagOf {message : List UInt8} {c : Char} (h : c ∈ (tagOf message).toList) :
    c = '"' ∨ ∃ digit < 16, c = Nat.digitChar digit := by
  simp only [toList_tagOf, List.cons_append, List.mem_cons, List.mem_append, List.not_mem_nil,
    or_false] at h
  rcases h with rfl | h | rfl
  · exact .inl rfl
  · exact .inr (Sha256.mem_hexDigest h)
  · exact .inl rfl

theorem isPlain_of_mem_tagOf {message : List UInt8} {c : Char} (h : c ∈ (tagOf message).toList) :
    IsPlain c := by
  rcases mem_tagOf h with rfl | ⟨digit, hdigit, rfl⟩
  · decide
  · exact Uuid.isPlain_digitChar digit hdigit

end Validators

namespace MailDate

theorem isPlain_of_mem_nameAt {names : List String} {index : Nat} {c : Char}
    (hnames : ∀ name ∈ names, (name.toList.all fun c => decide (IsPlain c)) = true)
    (h : c ∈ nameAt names index) : IsPlain c := by
  rw [nameAt, List.getD_eq_getElem?_getD] at h
  cases hname : names[index]? with
  | none =>
    rw [hname] at h
    cases h
  | some name =>
    rw [hname] at h
    exact HeaderValue.isPlain_of_all (hnames name (List.mem_of_getElem? hname)) h

theorem isPlain_of_mem_yearText {year : Int} {c : Char} (h : c ∈ Timestamp.yearText year) :
    IsPlain c := by
  have hminus : IsPlain '-' := by decide
  have hplus : IsPlain '+' := by decide
  unfold Timestamp.yearText at h
  split at h
  · rcases List.mem_cons.1 h with rfl | h
    · exact hminus
    · exact HeaderValue.isPlain_of_mem_decimal h
  · split at h
    · exact HeaderValue.isPlain_of_mem_decimal h
    · rcases List.mem_cons.1 h with rfl | h
      · exact hplus
      · exact HeaderValue.isPlain_of_mem_decimal h

/-- The date of an instant is plain text, for years of any length. -/
theorem isPlain_of_mem_toText {t : Instant} {c : Char} (h : c ∈ (toText t).toList) : IsPlain c := by
  have hweekday : ∀ c ∈ nameAt weekdayNames (weekday t.dayNumber), IsPlain c :=
    fun _ => isPlain_of_mem_nameAt (by decide +kernel)
  have hmonth : ∀ c ∈ nameAt monthNames (t.date.month - 1), IsPlain c :=
    fun _ => isPlain_of_mem_nameAt (by decide +kernel)
  have hzone : ∀ c ∈ " GMT".toList, IsPlain c :=
    fun _ => HeaderValue.isPlain_of_all (by decide +kernel)
  have hdigits : ∀ n, ∀ c ∈ Digits.decimal 2 n, IsPlain c :=
    fun _ _ => HeaderValue.isPlain_of_mem_decimal
  have hspace : IsPlain ' ' := by decide
  have hcomma : IsPlain ',' := by decide
  have hcolon : IsPlain ':' := by decide
  have hall : ∀ c ∈ (toText t).toList, IsPlain c := by
    simp only [toText, chars, Timestamp.clockText, String.toList_ofList, List.forall_mem_append,
      List.forall_mem_cons]
    exact ⟨⟨⟨⟨⟨hweekday, hcomma, hspace, hdigits _⟩, hspace, hmonth⟩, hspace,
      fun _ => isPlain_of_mem_yearText⟩, hspace, ⟨hdigits _, hcolon, hdigits _⟩, hcolon,
      hdigits _⟩, hzone⟩
  exact hall c h

end MailDate

-- ════════════════════════════════════════════════════════════════════════
-- Fields
-- ════════════════════════════════════════════════════════════════════════

namespace Headers

theorem get?_empty (name : String) : empty.get? name = none := rfl

theorem get?_erase (headers : Headers) (name other : String) :
    (headers.erase name).get? other =
      if other.toLower = name.toLower then none else headers.get? other := by
  simp only [get?, values, erase, List.filter_filter]
  by_cases h : other.toLower = name.toLower
  · have hnone : headers.fields.filter
        (fun field => (field.1 == other.toLower) && (field.1 != name.toLower)) = [] := by
      rw [List.filter_eq_nil_iff]
      intro field _
      simp [h]
    rw [hnone, if_pos h]
    rfl
  · have hsame : headers.fields.filter
        (fun field => (field.1 == other.toLower) && (field.1 != name.toLower)) =
        headers.fields.filter fun field => field.1 == other.toLower := by
      refine List.filter_congr fun field _ => ?_
      by_cases hfield : field.1 = other.toLower
      · simp [hfield, h]
      · simp [hfield]
    rw [hsame, if_neg h]

theorem get?_append (headers : Headers) (name other : String) (value : HeaderValue) :
    (headers.append name value).get? other =
      (headers.get? other).or (if other.toLower = name.toLower then some value else none) := by
  simp only [get?, values, append, List.filter_append, List.map_append, List.head?_append]
  by_cases h : other.toLower = name.toLower
  · simp [h]
  · simp [h, Ne.symm h]

theorem get?_insert (headers : Headers) (name other : String) (value : HeaderValue) :
    (headers.insert name value).get? other =
      if other.toLower = name.toLower then some value else headers.get? other := by
  rw [insert, get?_append, get?_erase]
  by_cases h : other.toLower = name.toLower
  · rw [if_pos h, if_pos h, if_pos h, Option.none_or]
  · rw [if_neg h, if_neg h, if_neg h, Option.or_none]

end Headers

namespace Validators

/-- The fields of validators whose cache policy is a value. -/
def fields (validators : Validators) (policy : HeaderValue) : Headers :=
  let tagged := Headers.empty.insert "etag" (HeaderValue.bytes validators.etag)
  let dated := match validators.lastModified with
    | some lastModified =>
      tagged.insert "last-modified" (HeaderValue.bytes (MailDate.toText lastModified))
    | none => tagged
  dated.insert "cache-control" policy

theorem headerValue_eq_ok {text : String} (h : ∀ c ∈ text.toList, IsPlain c) :
    headerValue text = .ok (HeaderValue.bytes text) := by
  rw [headerValue, HeaderValue.ofText?_eq_some h]

/-- A field is set before what comes after it, unless its text is no value. -/
theorem run_setField_bind {α : Type} (name text : String) (headers : Headers)
    (next : Unit → ExceptT Failure (StateM Headers) α) :
    (setField name text >>= next).run.run headers = match headerValue text with
      | .ok value => (next ()).run.run (headers.insert name value)
      | .error failure => (.error failure, headers) := by
  unfold setField
  cases headerValue text <;> rfl

theorem run_setField (name text : String) (headers : Headers) :
    (setField name text).run.run headers = match headerValue text with
      | .ok value => (.ok (), headers.insert name value)
      | .error failure => (.error failure, headers) := by
  unfold setField
  cases headerValue text <;> rfl

/-- Validators are written into empty fields if and only if their cache policy is a value. -/
theorem run_apply (stamps : List Stamp) (cacheControl : String) :
    match headerValue cacheControl with
    | .ok policy =>
      (ofStamps stamps cacheControl).apply.run.run Headers.empty =
        (.ok (), (ofStamps stamps cacheControl).fields policy)
    | .error failure =>
      ((ofStamps stamps cacheControl).apply.run.run Headers.empty).1 = .error failure := by
  have htag : headerValue (ofStamps stamps cacheControl).etag =
      .ok (HeaderValue.bytes (ofStamps stamps cacheControl).etag) :=
    headerValue_eq_ok fun c => isPlain_of_mem_tagOf
  have hdate : ∀ t, headerValue (MailDate.toText t) = .ok (HeaderValue.bytes (MailDate.toText t)) :=
    fun t => headerValue_eq_ok fun c => MailDate.isPlain_of_mem_toText
  have hpolicy : (ofStamps stamps cacheControl).cacheControl = cacheControl := rfl
  generalize ofStamps stamps cacheControl = validators at htag hpolicy ⊢
  unfold apply fields
  cases validators.lastModified with
  | none =>
    simp only [run_setField_bind, run_setField, hpolicy, htag]
    cases headerValue cacheControl <;> rfl
  | some t =>
    simp only [run_setField_bind, run_setField, hpolicy, htag, hdate]
    cases headerValue cacheControl <;> rfl

theorem get?_fields_etag (validators : Validators) (policy : HeaderValue) :
    (validators.fields policy).get? "etag" = some (HeaderValue.bytes validators.etag) := by
  have hpolicy : "etag".toLower ≠ "cache-control".toLower := by decide +kernel
  have hdate : "etag".toLower ≠ "last-modified".toLower := by decide +kernel
  cases hmodified : validators.lastModified with
  | none => simp [fields, hmodified, Headers.get?_insert, hpolicy]
  | some t => simp [fields, hmodified, Headers.get?_insert, hpolicy, hdate]

theorem get?_fields_lastModified (validators : Validators) (policy : HeaderValue) :
    (validators.fields policy).get? "last-modified" =
      validators.lastModified.map fun t => HeaderValue.bytes (MailDate.toText t) := by
  have hpolicy : "last-modified".toLower ≠ "cache-control".toLower := by decide +kernel
  have htag : "last-modified".toLower ≠ "etag".toLower := by decide +kernel
  cases hmodified : validators.lastModified with
  | none => simp [fields, hmodified, Headers.get?_insert, Headers.get?_empty, hpolicy, htag]
  | some t => simp [fields, hmodified, Headers.get?_insert, hpolicy]

-- ════════════════════════════════════════════════════════════════════════
-- Fields that are sent back
-- ════════════════════════════════════════════════════════════════════════

theorem not_mem_tagOf_comma (message : List UInt8) : ',' ∉ (tagOf message).toList := by
  have hquote : ',' ≠ '"' := by decide
  have hdigits : ∀ digit < 16, ',' ≠ Nat.digitChar digit := by decide
  intro h
  rcases mem_tagOf h with h | ⟨digit, hdigit, h⟩
  · exact hquote h
  · exact hdigits digit hdigit h

theorem trim_tagOf (message : List UInt8) :
    Text.trim (tagOf message).toList = (tagOf message).toList := by
  have hquote : Text.isBlank '"' = false := by decide
  rw [toList_tagOf, Text.trim, List.cons_append, Text.trimStart_cons_of_not_isBlank _ hquote,
    List.reverse_cons, List.reverse_append, List.reverse_singleton, List.singleton_append,
    List.cons_append, Text.trimStart_cons_of_not_isBlank _ hquote]
  simp

theorem withoutWeakMarks_tagOf (message : List UInt8) :
    withoutWeakMarks (tagOf message).toList = (tagOf message).toList := by
  rw [toList_tagOf]
  rfl

/-- A list of tags that is a single tag matches that tag only. -/
theorem matchesAny_tagOf_iff {etag : String} {message : List UInt8} :
    matchesAny etag (tagOf message).toList = true ↔ etag = tagOf message := by
  have hstar : (tagOf message).toList ≠ ['*'] := by
    rw [toList_tagOf]
    simp
  unfold matchesAny
  rw [List.splitOn_eq_singleton (not_mem_tagOf_comma message)]
  simp only [List.any_cons, List.any_nil, Bool.or_false, trim_tagOf, withoutWeakMarks_tagOf,
    Bool.or_eq_true, beq_iff_eq, hstar, false_or]
  rw [String.toList_inj, eq_comm]

/-- A client that sends tags is told whether they match. -/
theorem isNotModified_of_tags {validators : Validators} {headers : Headers} {tags : List Char}
    (htags : headers.text? "if-none-match" = some tags) :
    validators.isNotModified headers = matchesAny validators.etag tags := by
  rw [Headers.text?, Option.bind_eq_some_iff] at htags
  obtain ⟨value, hvalue, htext⟩ := htags
  rw [isNotModified, hvalue]
  simp only [htext]

/-- An answer is current for a client that sends one tag if and only if it has that tag. -/
theorem isNotModified_of_tag {validators : Validators} {headers : Headers} {message : List UInt8}
    (h : headers.get? "if-none-match" = some (HeaderValue.bytes (tagOf message))) :
    validators.isNotModified headers = true ↔ validators.etag = tagOf message := by
  have htags : headers.text? "if-none-match" = some (tagOf message).toList := by
    rw [Headers.text?, h, Option.bind_some, HeaderValue.toText?_bytes fun c => isPlain_of_mem_tagOf]
  rw [isNotModified_of_tags htags, matchesAny_tagOf_iff]

theorem unchangedSince_iff {lastModified : Option Instant} {text : List Char} {date : Instant}
    (hread : MailDate.read? (String.ofList text) = some date) :
    unchangedSince lastModified text = true ↔
      ∃ last, lastModified = some last ∧ last.seconds ≤ date.seconds := by
  unfold unchangedSince
  rw [hread]
  cases lastModified <;> simp

/-- An answer is current for a client that sends only a date if and only if it was last modified in
    the second of the date or before. -/
theorem isNotModified_of_date {validators : Validators} {headers : Headers} {since date : Instant}
    (htag : headers.get? "if-none-match" = none)
    (hdate : headers.get? "if-modified-since" = some (HeaderValue.bytes (MailDate.toText since)))
    (hread : MailDate.read? (MailDate.toText since) = some date) :
    validators.isNotModified headers = true ↔
      ∃ last, validators.lastModified = some last ∧ last.seconds ≤ date.seconds := by
  unfold isNotModified
  rw [htag, Headers.text?, hdate, Option.bind_some,
    HeaderValue.toText?_bytes fun c => MailDate.isPlain_of_mem_toText]
  exact unchangedSince_iff (by rw [String.ofList_toList, hread])

end Validators

end LinkCatalog
