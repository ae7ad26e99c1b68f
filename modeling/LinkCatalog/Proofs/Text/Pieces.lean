import Mathlib.Data.List.Infix
import LinkCatalog.Proofs.Text.Scan

/-!
# Pieces of separated text

A text is split at a separator into pieces, and each piece loses the blanks around it. The pieces
are what stands between two separators, once a separator is put at either end of the text.

## Main definitions

- `Text.AreBlank` — a text that has nothing but blanks

## Main statements

- `Text.mem_splitOn_iff` — the pieces of a text
- `Text.infix_append_cons_iff`, `Text.eq_of_quoted_infix` — parts of a text with marks in it
- `Text.trim_padded`, `Text.exists_padding` — a text and the blanks around it
-/

namespace LinkCatalog.Text

section Parts

variable {α : Type} {x : α} {piece text left right : List α}

/-- A part of a text that does not hold the mark stands before the mark or after it. -/
theorem infix_append_cons_iff (h : x ∉ piece) :
    piece <:+: left ++ x :: right ↔ piece <:+: left ∨ piece <:+: right := by
  constructor
  · intro hinfix
    have hfront : ∀ {front : List α}, x ∉ front → front <+: x :: right → front = [] := by
      intro front hnot hprefix
      rcases List.prefix_cons_iff.1 hprefix with hnil | ⟨rest, rfl, -⟩
      · exact hnil
      · exact absurd List.mem_cons_self hnot
    rcases List.infix_append_iff.1 hinfix with hleft | hright | ⟨front, back, rfl, hsuffix, hprefix⟩
    · exact .inl hleft
    · rcases List.infix_cons_iff.1 hright with hprefix | hrest
      · rw [hfront h hprefix]
        exact .inl List.nil_infix
      · exact .inr hrest
    · rw [hfront (fun hmem => h (List.mem_append_right front hmem)) hprefix, List.append_nil]
      exact .inl hsuffix.isInfix
  · rintro (hleft | hright)
    · exact List.infix_append_of_infix_left hleft
    · exact List.infix_append_of_infix_right (List.infix_cons hright)

variable [BEq α] [LawfulBEq α]

/-- If a text has exactly two marks, what stands between two marks of a part of it is what stands
    between these two. -/
theorem eq_of_quoted_infix (hleft : x ∉ left) (htext : x ∉ text) (hright : x ∉ right)
    (hpiece : x ∉ piece) (h : x :: piece ++ [x] <:+: left ++ x :: (text ++ x :: right)) :
    piece = text := by
  obtain ⟨before, after, heq⟩ := h
  have hcount := congrArg (List.count x) heq
  simp only [List.count_append, List.count_cons_self, List.count_nil,
    List.count_eq_zero_of_not_mem hleft, List.count_eq_zero_of_not_mem htext,
    List.count_eq_zero_of_not_mem hright, List.count_eq_zero_of_not_mem hpiece] at hcount
  have hbefore : x ∉ before := List.count_eq_zero.1 (by omega)
  have hafter : x ∉ after := List.count_eq_zero.1 (by omega)
  have hparts : before ++ x :: (piece ++ x :: after) = left ++ x :: (text ++ x :: right) := by
    simpa using heq
  -- Both sides have three pieces, and the ones in the middle are those in question.
  have hsplit := congrArg (List.splitOn x) hparts
  rw [List.splitOn_append_cons_self_of_not_mem hbefore,
    List.splitOn_append_cons_self_of_not_mem hpiece, List.splitOn_eq_singleton hafter,
    List.splitOn_append_cons_self_of_not_mem hleft,
    List.splitOn_append_cons_self_of_not_mem htext, List.splitOn_eq_singleton hright] at hsplit
  exact (List.cons.inj (List.cons.inj hsplit).2).1

theorem infix_of_mem_splitOn (h : piece ∈ text.splitOn x) :
    x ∉ piece ∧ x :: piece ++ [x] <:+: x :: text ++ [x] := by
  -- By induction on the length: the first piece is split off, and the others are those of the rest.
  induction hlength : text.length using Nat.strong_induction_on generalizing text with
  | _ length ih =>
    by_cases hx : x ∈ text
    · obtain ⟨first, rest, rfl, hfirst⟩ := List.eq_append_cons_of_mem hx
      rw [List.splitOn_append_cons_self_of_not_mem hfirst] at h
      rcases List.mem_cons.1 h with rfl | h
      · exact ⟨hfirst, [], rest ++ [x], by simp⟩
      · have hshort : rest.length < length := by
          rw [← hlength, List.length_append, List.length_cons]
          omega
        obtain ⟨hnot, hinfix⟩ := ih _ hshort h rfl
        exact ⟨hnot, hinfix.trans ⟨x :: first, [], by simp⟩⟩
    · rw [List.splitOn_eq_singleton hx, List.mem_singleton] at h
      rw [h]
      exact ⟨hx, List.infix_rfl⟩

/-- The pieces of a text are what stands between separators, with one more separator at either
    end. -/
theorem mem_splitOn_iff :
    piece ∈ text.splitOn x ↔ x ∉ piece ∧ x :: piece ++ [x] <:+: x :: text ++ [x] := by
  refine ⟨infix_of_mem_splitOn, ?_⟩
  rintro ⟨hnot, before, after, heq⟩
  have hparts : before ++ x :: (piece ++ x :: after) = [] ++ x :: (text ++ x :: []) := by
    simpa using heq
  have hsplit := congrArg (List.splitOn x) hparts
  rw [List.splitOn_append_cons_self, List.splitOn_append_cons_self_of_not_mem hnot,
    List.splitOn_append_cons_self, List.splitOn_append_cons_self, List.splitOn_nil] at hsplit
  -- There is a piece before this one and one after it; those at the ends are the empty ones.
  obtain ⟨first, others, hfirst⟩ := List.exists_cons_of_ne_nil (List.splitOn_ne_nil x before)
  rcases List.eq_nil_or_concat (after.splitOn x) with hnil | ⟨rest, last, hlast⟩
  · exact absurd hnil (List.splitOn_ne_nil x after)
  rw [hfirst, hlast] at hsplit
  have hinner : (others ++ piece :: rest) ++ [last] = text.splitOn x ++ [[]] := by
    simpa using (List.cons.inj hsplit).2
  rw [← (List.append_inj' hinner rfl).1]
  simp

end Parts

-- ════════════════════════════════════════════════════════════════════════
-- Blanks
-- ════════════════════════════════════════════════════════════════════════

/-- All characters of the text are blanks. -/
def AreBlank (cs : List Char) : Prop :=
  ∀ c ∈ cs, isBlank c = true

instance (cs : List Char) : Decidable (AreBlank cs) :=
  List.decidableBAll _ cs

theorem areBlank_nil : AreBlank [] := by
  simp [AreBlank]

theorem trimStart_append {before : List Char} (h : AreBlank before) (rest : List Char) :
    trimStart (before ++ rest) = trimStart rest :=
  List.dropWhile_append_of_pos h

theorem trimStart_of_startsWithout {cs : List Char} (h : Scan.StartsWithout isBlank cs) :
    trimStart cs = cs := by
  cases cs with
  | nil => rfl
  | cons c cs => exact trimStart_cons_of_not_isBlank cs (h c rfl)

/-- A text is left if the blanks around it are removed, provided that it has none at its ends. -/
theorem trim_padded {before after cs : List Char} (hbefore : AreBlank before)
    (hafter : AreBlank after) (hne : cs ≠ []) (hfirst : Scan.StartsWithout isBlank cs)
    (hlast : Scan.StartsWithout isBlank cs.reverse) : trim (before ++ cs ++ after) = cs := by
  have hpadded : Scan.StartsWithout isBlank (cs ++ after) := by
    intro c hc
    rw [List.head?_append_of_ne_nil cs hne] at hc
    exact hfirst c hc
  have hafter' : AreBlank after.reverse := fun c hc => hafter c (List.mem_reverse.1 hc)
  rw [trim, List.append_assoc, trimStart_append hbefore, trimStart_of_startsWithout hpadded,
    List.reverse_append, trimStart_append hafter', trimStart_of_startsWithout hlast,
    List.reverse_reverse]

theorem exists_trimStart (cs : List Char) :
    ∃ before, AreBlank before ∧ cs = before ++ trimStart cs := by
  refine ⟨cs.takeWhile isBlank, fun c hc => ?_, List.takeWhile_append_dropWhile.symm⟩
  exact List.all_eq_true.1 List.all_takeWhile c hc

/-- A text is what is left of it with blanks around. -/
theorem exists_padding (cs : List Char) :
    ∃ before after, AreBlank before ∧ AreBlank after ∧ cs = before ++ trim cs ++ after := by
  obtain ⟨before, hbefore, hfront⟩ := exists_trimStart cs
  obtain ⟨after, hafter, hback⟩ := exists_trimStart (trimStart cs).reverse
  refine ⟨before, after.reverse, hbefore, fun c hc => hafter c (List.mem_reverse.1 hc), ?_⟩
  have hrest : trimStart cs = trim cs ++ after.reverse := by
    rw [trim, ← List.reverse_append, ← hback, List.reverse_reverse]
  rw [List.append_assoc, ← hrest]
  exact hfront

end LinkCatalog.Text
