import LinkCatalog.Proofs.Http.ValidatorFields
import LinkCatalog.Proofs.Text.Pieces

/-!
# Lists of tags

A client may list the tags of all copies that it has. The list is split at every comma, so that a
comma within the quotes of a tag ends a piece as well. A piece that is made in this way has at most
one of the quotes, so that it is never taken for the tag of an answer. But it may be an asterisk,
which stands for any tag: a client that lists such a tag is told that its copy is current whatever
the answer is.

## Main definitions

- `Validators.Spells` — a piece stands for a tag
- `EntityTag`, `ListedTag`, `tagList` — the lists that clients send
- `EntityTag.HidesAsterisk` — there is an asterisk between two commas of the tag

## Main statements

- `Validators.matchesAny_iff` — a list matches if one of its pieces stands for the tag or any tag
- `Validators.isNotModified_of_listedTags` — which lists match an answer
-/

namespace LinkCatalog

open Text (AreBlank)

namespace Validators

-- ════════════════════════════════════════════════════════════════════════
-- Weak marks
-- ════════════════════════════════════════════════════════════════════════

/-- The mark of weak tags, a number of times. -/
def weakMarks : Nat → List Char
  | 0 => []
  | marks + 1 => 'W' :: '/' :: weakMarks marks

theorem not_mem_weakMarks {c : Char} (hw : c ≠ 'W') (hslash : c ≠ '/') (marks : Nat) :
    c ∉ weakMarks marks := by
  induction marks with
  | zero => exact List.not_mem_nil
  | succ marks ih =>
    rw [weakMarks, List.mem_cons, List.mem_cons, not_or, not_or]
    exact ⟨hw, hslash, ih⟩

theorem withoutWeakMarks_append (marks : Nat) (tag : List Char) :
    withoutWeakMarks (weakMarks marks ++ tag) = withoutWeakMarks tag := by
  induction marks with
  | zero => rfl
  | succ marks ih => exact ih

theorem exists_weakMarks (tag : List Char) :
    ∃ marks, tag = weakMarks marks ++ withoutWeakMarks tag := by
  fun_induction withoutWeakMarks tag with
  | case1 rest ih =>
    obtain ⟨marks, hrest⟩ := ih
    exact ⟨marks + 1, congrArg (fun cs => 'W' :: '/' :: cs) hrest⟩
  | case2 tag h => exact ⟨0, rfl⟩

-- ════════════════════════════════════════════════════════════════════════
-- Pieces that stand for tags
-- ════════════════════════════════════════════════════════════════════════

/-- A piece stands for a tag: there are blanks around it and weak marks in front of it, if any. -/
def Spells (piece tag : List Char) : Prop :=
  ∃ before marks after, AreBlank before ∧ AreBlank after ∧
    piece = before ++ (weakMarks marks ++ tag) ++ after

/-- The tag begins and ends with a visible character, and does not begin with a weak mark. -/
structure IsBare (tag : List Char) : Prop where
  nonempty : tag ≠ []
  first : Scan.StartsWithout Text.isBlank tag
  last : Scan.StartsWithout Text.isBlank tag.reverse
  strong : withoutWeakMarks tag = tag

theorem isBare_asterisk : IsBare ['*'] where
  nonempty := List.cons_ne_nil _ _
  first := Scan.startsWithout_cons (by decide) _
  last := Scan.startsWithout_cons (by decide) _
  strong := rfl

theorem isBare_tagOf (message : List UInt8) : IsBare (tagOf message).toList where
  nonempty := by simp [toList_tagOf]
  first := by
    rw [toList_tagOf]
    exact Scan.startsWithout_cons (by decide) _
  last := by
    rw [toList_tagOf, List.reverse_append, List.reverse_singleton]
    exact Scan.startsWithout_cons (by decide) _
  strong := withoutWeakMarks_tagOf message

/-- A piece is read as a tag if and only if it stands for it. -/
theorem spells_iff {piece tag : List Char} (htag : IsBare tag) :
    withoutWeakMarks (Text.trim piece) = tag ↔ Spells piece tag := by
  constructor
  · intro heq
    obtain ⟨before, after, hbefore, hafter, hpiece⟩ := Text.exists_padding piece
    obtain ⟨marks, hmarks⟩ := exists_weakMarks (Text.trim piece)
    rw [heq] at hmarks
    exact ⟨before, marks, after, hbefore, hafter, hmarks ▸ hpiece⟩
  · rintro ⟨before, marks, after, hbefore, hafter, rfl⟩
    have hne : weakMarks marks ++ tag ≠ [] := fun h => htag.nonempty (List.append_eq_nil_iff.1 h).2
    have hfirst : Scan.StartsWithout Text.isBlank (weakMarks marks ++ tag) := by
      cases marks with
      | zero => exact htag.first
      | succ marks => exact Scan.startsWithout_cons (by decide) _
    have hlast : Scan.StartsWithout Text.isBlank (weakMarks marks ++ tag).reverse := by
      intro c hc
      have hreverse : tag.reverse ≠ [] := fun h => htag.nonempty (List.reverse_eq_nil_iff.1 h)
      rw [List.reverse_append, List.head?_append_of_ne_nil _ hreverse] at hc
      exact htag.last c hc
    rw [Text.trim_padded hbefore hafter hne hfirst hlast, withoutWeakMarks_append, htag.strong]

/-- A list matches a tag if and only if one of its pieces stands for the tag or for any tag. -/
theorem matchesAny_iff {message : List UInt8} {tags : List Char} :
    matchesAny (tagOf message) tags = true ↔ ∃ piece ∈ tags.splitOn ',',
      Spells piece ['*'] ∨ Spells piece (tagOf message).toList := by
  unfold matchesAny
  rw [List.any_eq_true]
  simp only [Bool.or_eq_true, beq_iff_eq, spells_iff isBare_asterisk,
    spells_iff (isBare_tagOf message)]

end Validators

open Validators (weakMarks not_mem_weakMarks Spells tagOf)

-- ════════════════════════════════════════════════════════════════════════
-- Lists of tags as clients send them
-- ════════════════════════════════════════════════════════════════════════

/-- A character that may stand between the quotes of a tag: visible ASCII, but no quote. -/
def EntityTag.IsVisible (c : Char) : Prop :=
  0x21 ≤ c.toNat ∧ c.toNat < 0x7f ∧ c ≠ '"'

instance (c : Char) : Decidable (EntityTag.IsVisible c) := by
  unfold EntityTag.IsVisible
  infer_instance

/-- A tag as clients send it. -/
structure EntityTag where
  isWeak : Bool
  /-- What stands between the quotes. -/
  text : List Char
  visible : ∀ c ∈ text, EntityTag.IsVisible c

namespace EntityTag

/-- The tag without the mark of weak tags. -/
def quoted (tag : EntityTag) : List Char :=
  '"' :: tag.text ++ ['"']

/-- The mark in front of a weak tag. -/
def mark (tag : EntityTag) : List Char :=
  if tag.isWeak then ['W', '/'] else []

/-- Between two commas of the tag there is an asterisk, with weak marks in front of it, if any. -/
def HidesAsterisk (tag : EntityTag) : Prop :=
  ∃ marks, ',' :: weakMarks marks ++ ['*'] ++ [','] <:+: tag.text

theorem mark_eq (tag : EntityTag) : ∃ marks, tag.mark = weakMarks marks := by
  unfold mark
  split
  · exact ⟨1, rfl⟩
  · exact ⟨0, rfl⟩

theorem isPlain_of_mem_mark {tag : EntityTag} {c : Char} (h : c ∈ tag.mark) :
    HeaderValue.IsPlain c := by
  unfold mark at h
  split at h
  · rw [List.mem_pair] at h
    rcases h with rfl | rfl <;> decide
  · cases h

theorem isBlank_of_isVisible {c : Char} (h : IsVisible c) : Text.isBlank c = false := by
  obtain ⟨hlow, hhigh, -⟩ := h
  simp only [Text.isBlank, Bool.or_eq_false_iff, Bool.and_eq_false_iff, decide_eq_false_iff_not,
    beq_eq_false_iff_ne]
  omega

theorem not_mem_text_quote (tag : EntityTag) : '"' ∉ tag.text :=
  fun h => (tag.visible _ h).2.2 rfl

/-- Blanks are not part of a tag. -/
theorem eq_nil_of_areBlank {tag : EntityTag} {cs : List Char} (hblank : AreBlank cs)
    (hsubset : ∀ c ∈ cs, c ∈ tag.text) : cs = [] := by
  rw [List.eq_nil_iff_forall_not_mem]
  intro c hc
  have hvisible := isBlank_of_isVisible (tag.visible c (hsubset c hc))
  rw [hblank c hc] at hvisible
  cases hvisible

end EntityTag

/-- A tag in a list, with the spaces and tabs around it. -/
structure ListedTag where
  before : List Char
  tag : EntityTag
  after : List Char
  padding : ∀ c ∈ before ++ after, c = ' ' ∨ c = '\t'

namespace ListedTag

/-- What a list has before the first quote of the tag. -/
def front (listed : ListedTag) : List Char :=
  listed.before ++ listed.tag.mark

/-- The tag as it stands in a list. -/
def chars (listed : ListedTag) : List Char :=
  listed.front ++ listed.tag.quoted ++ listed.after

variable (listed : ListedTag)

theorem areBlank : AreBlank listed.before ∧ AreBlank listed.after := by
  have hblank : ∀ c ∈ listed.before ++ listed.after, Text.isBlank c = true := by
    intro c hc
    rcases listed.padding c hc with rfl | rfl <;> decide
  exact ⟨fun c hc => hblank c (List.mem_append_left _ hc),
    fun c hc => hblank c (List.mem_append_right _ hc)⟩

/-- Neither commas nor quotes stand outside the quotes. -/
theorem not_mem_outside {c : Char} (hc : c = ',' ∨ c = '"') :
    c ∉ listed.front ∧ c ∉ listed.after := by
  have hpadding : c ∉ listed.before ++ listed.after := by
    intro hmem
    rcases hc with rfl | rfl <;> rcases listed.padding _ hmem with h | h <;> revert h <;> decide
  have hmark : c ∉ listed.tag.mark := by
    obtain ⟨marks, hmarks⟩ := listed.tag.mark_eq
    rw [hmarks]
    rcases hc with rfl | rfl <;> exact not_mem_weakMarks (by decide) (by decide) marks
  rw [List.mem_append, not_or] at hpadding
  rw [front, List.mem_append, not_or]
  exact ⟨⟨hpadding.1, hmark⟩, hpadding.2⟩

/-- The tag between two commas, split at its quotes. -/
theorem delimited_eq :
    ',' :: listed.chars ++ [','] =
      (',' :: listed.front) ++ '"' :: (listed.tag.text ++ '"' :: (listed.after ++ [','])) := by
  simp [chars, front, EntityTag.quoted]

/-- What stands between two commas has its place within the quotes, unless it has a quote. -/
theorem infix_text_of_delimited {piece : List Char} (hquote : '"' ∉ piece)
    (h : ',' :: piece ++ [','] <:+: ',' :: listed.chars ++ [',']) :
    ',' :: piece ++ [','] <:+: listed.tag.text := by
  have hcomma := listed.not_mem_outside (.inl rfl)
  have htwo : 2 ≤ (',' :: piece ++ [',']).count ',' := by
    simp only [List.count_append, List.count_cons_self, List.count_nil]
    omega
  have hfrontCount : (',' :: listed.front).count ',' = 1 := by
    rw [List.count_cons_self, List.count_eq_zero_of_not_mem hcomma.1]
  have hafterCount : (listed.after ++ [',']).count ',' = 1 := by
    rw [List.count_append, List.count_eq_zero_of_not_mem hcomma.2]
    rfl
  have hnot : '"' ∉ ',' :: piece ++ [','] := by simp [hquote]
  rw [delimited_eq, Text.infix_append_cons_iff hnot, Text.infix_append_cons_iff hnot] at h
  -- Outside the quotes there is only the comma at either end.
  rcases h with hfront | htext | hafter
  · have hle := hfront.count_le ','
    omega
  · exact htext
  · have hle := hafter.count_le ','
    omega

/-- A piece of the tag stands for any tag if and only if the tag hides an asterisk. -/
theorem exists_spells_asterisk_iff :
    (∃ piece ∈ listed.chars.splitOn ',', Spells piece ['*']) ↔ listed.tag.HidesAsterisk := by
  constructor
  · rintro ⟨piece, hpiece, before, marks, after, hbefore, hafter, rfl⟩
    have hquote : '"' ∉ before ++ (weakMarks marks ++ ['*']) ++ after := by
      simp only [List.mem_append, List.mem_singleton, not_or]
      refine ⟨⟨fun hmem => ?_, not_mem_weakMarks (by decide) (by decide) marks, by decide⟩,
        fun hmem => ?_⟩
      · exact absurd (hbefore _ hmem) (by decide)
      · exact absurd (hafter _ hmem) (by decide)
    have hinfix := listed.infix_text_of_delimited hquote (Text.mem_splitOn_iff.1 hpiece).2
    -- There are no blanks within the quotes.
    obtain rfl : before = [] := EntityTag.eq_nil_of_areBlank hbefore
      fun c hc => hinfix.subset (by simp [hc])
    obtain rfl : after = [] := EntityTag.eq_nil_of_areBlank hafter
      fun c hc => hinfix.subset (by simp [hc])
    refine ⟨marks, ?_⟩
    simpa using hinfix
  · rintro ⟨marks, hinfix⟩
    have hcomma : ',' ∉ weakMarks marks ++ ['*'] := by
      rw [List.mem_append, not_or]
      exact ⟨not_mem_weakMarks (by decide) (by decide) marks, by decide⟩
    have htext : listed.tag.text <:+: ',' :: listed.chars ++ [','] := by
      rw [delimited_eq]
      exact List.infix_append_of_infix_right (List.infix_cons List.infix_append_left)
    have hpiece : weakMarks marks ++ ['*'] ∈ listed.chars.splitOn ',' :=
      Text.mem_splitOn_iff.2 ⟨hcomma, List.IsInfix.trans (by simpa using hinfix) htext⟩
    exact ⟨_, hpiece, [], marks, [], Text.areBlank_nil, Text.areBlank_nil, by simp⟩

/-- A piece of the tag stands for the tag of an answer if and only if the tag is that one. -/
theorem exists_spells_tagOf_iff (message : List UInt8) :
    (∃ piece ∈ listed.chars.splitOn ',', Spells piece (tagOf message).toList) ↔
      listed.tag.quoted = (tagOf message).toList := by
  constructor
  · rintro ⟨piece, hpiece, before, marks, after, -, -, rfl⟩
    obtain ⟨-, hinfix⟩ := Text.mem_splitOn_iff.1 hpiece
    have hdigest : '"' ∉ Sha256.hexDigest message := by
      intro hmem
      obtain ⟨digit, hdigit, heq⟩ := Sha256.mem_hexDigest hmem
      revert digit
      decide
    have htag : '"' :: Sha256.hexDigest message ++ ['"'] <:+: ',' :: listed.chars ++ [','] := by
      refine List.IsInfix.trans ?_ hinfix
      rw [Validators.toList_tagOf]
      exact ⟨',' :: (before ++ weakMarks marks), after ++ [','], by simp⟩
    have hquotes := listed.not_mem_outside (.inr rfl)
    have hfront : '"' ∉ ',' :: listed.front := by simp [hquotes.1]
    have hafter : '"' ∉ listed.after ++ [','] := by simp [hquotes.2]
    rw [delimited_eq] at htag
    have heq := Text.eq_of_quoted_infix hfront listed.tag.not_mem_text_quote hafter hdigest htag
    rw [Validators.toList_tagOf, EntityTag.quoted, heq]
  · intro htag
    obtain ⟨hfront, hafter⟩ := listed.not_mem_outside (.inl rfl)
    have hcomma : ',' ∉ listed.chars := by
      rw [chars, htag, List.mem_append, List.mem_append, not_or, not_or]
      exact ⟨⟨hfront, Validators.not_mem_tagOf_comma message⟩, hafter⟩
    obtain ⟨marks, hmarks⟩ := listed.tag.mark_eq
    refine ⟨listed.chars, ?_, listed.before, marks, listed.after, listed.areBlank.1,
      listed.areBlank.2, ?_⟩
    · rw [List.splitOn_eq_singleton hcomma]
      exact List.mem_singleton_self _
    · rw [chars, front, hmarks, htag]
      simp only [List.append_assoc]

theorem isReadable_of_mem_chars {c : Char} (h : c ∈ listed.chars) : HeaderValue.IsReadable c := by
  have hpadding : c ∈ listed.before ++ listed.after → HeaderValue.IsReadable c := by
    intro hmem
    rcases listed.padding c hmem with rfl | rfl
    · exact .inl (by decide)
    · exact .inr rfl
  simp only [chars, front, EntityTag.quoted, List.mem_append, List.mem_cons,
    List.not_mem_nil, or_false] at h hpadding
  rcases h with ((h | h) | (rfl | h) | rfl) | h
  · exact hpadding (.inl h)
  · exact .inl (EntityTag.isPlain_of_mem_mark h)
  · exact .inl (by decide)
  · have hvisible := listed.tag.visible c h
    exact .inl ⟨Nat.le_of_succ_le hvisible.1, hvisible.2.1⟩
  · exact .inl (by decide)
  · exact hpadding (.inr h)

end ListedTag

/-- Tags in a list, separated by commas. -/
def tagList (listed : List ListedTag) : List Char :=
  [','].intercalate (listed.map ListedTag.chars)

theorem tagList_cons_cons (first second : ListedTag) (rest : List ListedTag) :
    tagList (first :: second :: rest) = first.chars ++ ',' :: tagList (second :: rest) := by
  simp [tagList, List.intercalate_cons_cons]

theorem tagList_singleton (listed : ListedTag) : tagList [listed] = listed.chars := by
  simp [tagList]

/-- The pieces of a list are those of its tags. -/
theorem mem_splitOn_tagList_iff {listed : List ListedTag} (hne : listed ≠ []) {piece : List Char} :
    piece ∈ (tagList listed).splitOn ',' ↔
      ∃ element ∈ listed, piece ∈ element.chars.splitOn ',' := by
  induction listed with
  | nil => exact absurd rfl hne
  | cons first rest ih =>
    cases rest with
    | nil => simp [tagList_singleton]
    | cons second rest =>
      rw [List.exists_mem_cons_iff, tagList_cons_cons, List.splitOn_append_cons_self,
        List.mem_append, ih (List.cons_ne_nil second rest)]

theorem isReadable_of_mem_tagList {listed : List ListedTag} {c : Char} (h : c ∈ tagList listed) :
    HeaderValue.IsReadable c := by
  induction listed with
  | nil => cases h
  | cons first rest ih =>
    cases rest with
    | nil =>
      rw [tagList_singleton] at h
      exact first.isReadable_of_mem_chars h
    | cons second rest =>
      rw [tagList_cons_cons, List.mem_append, List.mem_cons] at h
      rcases h with h | rfl | h
      · exact first.isReadable_of_mem_chars h
      · exact .inl (by decide)
      · exact ih h

namespace Validators

/-- A list of tags matches the tag of an answer if and only if that tag is listed, or some tag hides
    an asterisk. -/
theorem matchesAny_tagList_iff {message : List UInt8} {listed : List ListedTag}
    (hne : listed ≠ []) :
    matchesAny (tagOf message) (tagList listed) = true ↔
      (∃ element ∈ listed, element.tag.quoted = (tagOf message).toList) ∨
        ∃ element ∈ listed, element.tag.HidesAsterisk := by
  simp only [matchesAny_iff, mem_splitOn_tagList_iff hne,
    ← ListedTag.exists_spells_asterisk_iff, ← ListedTag.exists_spells_tagOf_iff]
  constructor
  · rintro ⟨piece, ⟨element, helement, hpiece⟩, hasterisk | htag⟩
    · exact .inr ⟨element, helement, piece, hpiece, hasterisk⟩
    · exact .inl ⟨element, helement, piece, hpiece, htag⟩
  · rintro (⟨element, helement, piece, hpiece, htag⟩ |
      ⟨element, helement, piece, hpiece, hasterisk⟩)
    · exact ⟨piece, ⟨element, helement, hpiece⟩, .inr htag⟩
    · exact ⟨piece, ⟨element, helement, hpiece⟩, .inl hasterisk⟩

/-- **Lists of tags.** A client that lists some tags is told that its copy is current if and only if
    the tag of the answer is among them, or one of them hides an asterisk. An asterisk alone stands
    for any tag. -/
theorem isNotModified_of_listedTags (stamps : List Stamp) (cacheControl : String)
    (headers : Headers) :
    (∀ listed : List ListedTag, listed ≠ [] →
      headers.get? "if-none-match" =
        some (HeaderValue.bytes (String.ofList (tagList listed))) →
      ((ofStamps stamps cacheControl).isNotModified headers = true ↔
        (∃ element ∈ listed,
          element.tag.quoted = (ofStamps stamps cacheControl).etag.toList) ∨
        ∃ element ∈ listed, element.tag.HidesAsterisk)) ∧
    (headers.get? "if-none-match" = some (HeaderValue.bytes "*") →
      (ofStamps stamps cacheControl).isNotModified headers = true) := by
  constructor
  · intro listed hne hsent
    have htags : headers.text? "if-none-match" = some (tagList listed) := by
      rw [Headers.text?, hsent, Option.bind_some, HeaderValue.toText?_bytes_of_isReadable]
      · rw [String.toList_ofList]
      · intro c hc
        rw [String.toList_ofList] at hc
        exact isReadable_of_mem_tagList hc
    rw [isNotModified_of_tags htags]
    exact matchesAny_tagList_iff hne
  · intro hsent
    have htags : headers.text? "if-none-match" = some ['*'] := by
      rw [Headers.text?, hsent]
      rfl
    rw [isNotModified_of_tags htags]
    exact matchesAny_iff.2 ⟨['*'], List.mem_singleton_self _,
      .inl ⟨[], 0, [], Text.areBlank_nil, Text.areBlank_nil, rfl⟩⟩

end Validators

/-- A tag with two commas, and an asterisk between them. -/
def ListedTag.sample : ListedTag where
  before := []
  tag :=
    { isWeak := false
      text := "a,*,b".toList
      visible := by
        have hall : ("a,*,b".toList.all fun c => decide (EntityTag.IsVisible c)) = true := by
          decide +kernel
        exact fun c hc => of_decide_eq_true (List.all_eq_true.1 hall c hc) }
  after := []
  padding := fun _ hc => absurd hc List.not_mem_nil

example : String.ofList (tagList [ListedTag.sample]) = "\"a,*,b\"" := by decide +kernel

/-- The tag is not that of the answer, but the client is told that its copy is current. -/
theorem Validators.isNotModified_of_listedTags_sample :
    let headers := Headers.empty.insert "if-none-match"
      (HeaderValue.bytes (String.ofList (tagList [ListedTag.sample])))
    [ListedTag.sample] ≠ [] ∧
      headers.get? "if-none-match" =
        some (HeaderValue.bytes (String.ofList (tagList [ListedTag.sample]))) ∧
      (∀ element ∈ [ListedTag.sample],
        element.tag.quoted ≠ (ofStamps [] "private").etag.toList) ∧
      (ofStamps [] "private").isNotModified headers = true := by
  intro headers
  have hne : [ListedTag.sample] ≠ [] := List.cons_ne_nil _ _
  have hsent : headers.get? "if-none-match" =
      some (HeaderValue.bytes (String.ofList (tagList [ListedTag.sample]))) :=
    (Headers.get?_insert _ _ _ _).trans (if_pos rfl)
  have hother : ∀ element ∈ [ListedTag.sample],
      element.tag.quoted ≠ (ofStamps [] "private").etag.toList := by
    intro element helement heq
    rw [List.mem_singleton.1 helement] at heq
    have hcomma : ',' ∈ ListedTag.sample.tag.quoted := by decide +kernel
    rw [heq] at hcomma
    exact not_mem_tagOf_comma _ hcomma
  have hides : ListedTag.sample.tag.HidesAsterisk := ⟨0, ['a'], ['b'], rfl⟩
  have hcurrent := ((isNotModified_of_listedTags [] "private" headers).1 _ hne hsent).2
    (.inr ⟨_, List.mem_singleton_self _, hides⟩)
  exact ⟨hne, hsent, hother, hcurrent⟩

end LinkCatalog
