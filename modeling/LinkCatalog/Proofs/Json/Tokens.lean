import Mathlib.Data.Option.Basic
import LinkCatalog.Json.Text
import LinkCatalog.Proofs.Text.Scan
import LinkCatalog.Proofs.Uuid

/-!
# Tokens of written values

The text of a value is taken apart into the tokens of the value. Marks, words and strings tell where
they end; a number ends where the text does not go on with it. Numbers that fit 64 bits are kept as
they are, so that these are the integers that can be written and read.

## Main definitions

- `Json.hasText` — values that can be written, with a bound on how deep they are nested
- `Json.tokens` — the tokens of a value
- `Json.Lexes` — the tokens in front of a text

## Main statements

- `Json.string?_stringChars` — strings
- `Json.number?_toString` — integers
- `Json.lexes_chars` — values
- `Json.tokens?_chars` — the tokens of the text of a value
-/

namespace LinkCatalog.Json

open Scan (StartsWithout)

mutual

/-- The value can be written, and its arrays and objects are nested at most so deep. -/
def hasText : Nat → Json → Bool
  | _, .null | _, .bool _ | _, .string _ => true
  | _, .integer n => n.natAbs < UInt64.size
  | depth + 1, .array items => haveText depth items
  | depth + 1, .object members => membersHaveText depth members
  | _, _ => false

@[inherit_doc hasText]
def haveText : Nat → List Json → Bool
  | _, [] => true
  | depth, item :: items => item.hasText depth && haveText depth items

@[inherit_doc hasText]
def membersHaveText : Nat → List (String × Json) → Bool
  | _, [] => true
  | depth, (_, value) :: members => value.hasText depth && membersHaveText depth members

end

mutual

/-- The tokens of a value. -/
def tokens : Json → List Token
  | .string text => [.string (some text)]
  | .array items => .openArray :: itemTokens items ++ [.closeArray]
  | .object members => .openObject :: memberTokens members ++ [.closeObject]
  | value => [.scalar value]

/-- The tokens of the items of an array, separated by commas. -/
def itemTokens : List Json → List Token
  | [] => []
  | [item] => tokens item
  | item :: items => tokens item ++ .comma :: itemTokens items

/-- The tokens of the members of an object, separated by commas. -/
def memberTokens : List (String × Json) → List Token
  | [] => []
  | [(name, value)] => .string (some name) :: .colon :: tokens value
  | (name, value) :: members =>
    .string (some name) :: .colon :: tokens value ++ .comma :: memberTokens members

end

theorem itemTokens_cons_cons (item next : Json) (items : List Json) :
    itemTokens (item :: next :: items) =
      item.tokens ++ .comma :: itemTokens (next :: items) := rfl

theorem memberTokens_cons_cons (name : String) (value : Json) (next : String × Json)
    (members : List (String × Json)) :
    memberTokens ((name, value) :: next :: members) =
      .string (some name) :: .colon :: (value.tokens ++ .comma :: memberTokens (next :: members)) :=
  rfl

-- ════════════════════════════════════════════════════════════════════════
-- Strings
-- ════════════════════════════════════════════════════════════════════════

/-- A character that is written in a string is read as one piece, which stands for it. -/
theorem exists_piece (c : Char) :
    ∃ piece, (∀ rest, pieces? (escapeControls c ++ rest) = (do
        let (pieces, rest) ← pieces? rest
        return (piece :: pieces, rest))) ∧
      ∀ pieces, joinPieces? (piece :: pieces) = (joinPieces? pieces).map (c :: ·) := by
  unfold escapeControls
  split
  -- Seven characters have escapes of their own. Any other is written as a unit or as it is.
  case h_8 hquote hslash _ _ _ _ _ =>
    by_cases hcontrol : c.toNat < 0x20
    · refine ⟨.unit c.toNat, fun rest => ?_, fun pieces => ?_⟩
      · have hhex : Digits.ofHex? (Digits.hex 4 c.toNat) = some c.toNat :=
          Digits.ofHex?_hex (show c.toNat < 65536 by omega)
        obtain ⟨d₁, d₂, d₃, d₄, hdigits⟩ : ∃ d₁ d₂ d₃ d₄,
            Digits.hex 4 c.toNat = [d₁, d₂, d₃, d₄] := ⟨_, _, _, _, rfl⟩
        rw [hdigits] at hhex
        rw [if_pos hcontrol, unitEscape, hdigits]
        simp [pieces?, hhex]
      · have hlow : c.toNat < 0xd800 := by omega
        rw [joinPieces?.eq_def]
        simp [hlow]
    · refine ⟨.char c, fun rest => ?_, fun pieces => rfl⟩
      rw [if_neg hcontrol]
      simp only [List.cons_append, List.nil_append]
      rw [pieces?, if_neg hcontrol]
      · exact hquote
      · exact fun _ _ _ _ _ h _ => hslash h
      · exact fun _ _ h _ => hslash h
  all_goals
    refine ⟨.char _, fun rest => ?_, fun pieces => rfl⟩
    simp [pieces?, escapedChar?]

/-- A written string is read up to its closing quote. -/
theorem string?_stringChars (text : String) (rest : List Char) :
    string? (text.toList.flatMap escapeControls ++ '"' :: rest) = some (some text, rest) := by
  obtain ⟨pieces, hpieces, hjoin⟩ : ∃ pieces,
      pieces? (text.toList.flatMap escapeControls ++ '"' :: rest) = some (pieces, rest) ∧
        joinPieces? pieces = some text.toList := by
    induction text.toList with
    | nil => exact ⟨[], rfl, rfl⟩
    | cons c cs ih =>
      obtain ⟨pieces, hpieces, hjoin⟩ := ih
      obtain ⟨piece, hpiece, hc⟩ := exists_piece c
      refine ⟨piece :: pieces, ?_, ?_⟩
      · rw [List.flatMap_cons, List.append_assoc, hpiece, hpieces]
        rfl
      · rw [hc, hjoin]
        rfl
  rw [string?, hpieces]
  simp [hjoin]

-- ════════════════════════════════════════════════════════════════════════
-- Integers
-- ════════════════════════════════════════════════════════════════════════

theorem ofDecimal_toDigits (n : Nat) : Digits.ofDecimal (Nat.toDigits 10 n) = n := by
  have hvalue : ∀ (cs : List Char) (total : Nat),
      (cs.map Digits.decimalValue).foldl (fun total digit => total * 10 + digit) total =
        Nat.ofDigitChars 10 cs total := by
    intro cs
    induction cs with
    | nil => exact fun total => rfl
    | cons c cs ih =>
      intro total
      rw [Nat.ofDigitChars, List.foldl_cons, List.map_cons, List.foldl_cons, ih, Nat.mul_comm]
      rfl
  exact (hvalue _ 0).trans (Nat.ofDigitChars_toDigits (by decide) (by decide))

theorem isDigit_of_mem_toDigits {n : Nat} {c : Char} (h : c ∈ Nat.toDigits 10 n) :
    c.isDigit = true :=
  Nat.isDigit_of_mem_toDigits (by decide) (by decide) h

theorem toDigits_ne_nil (n : Nat) : Nat.toDigits 10 n ≠ [] := by
  by_cases h : n < 10
  · rw [Nat.toDigits_of_lt_base h]
    exact List.cons_ne_nil _ _
  · rw [Nat.toDigits_of_base_le (by decide) (Nat.not_lt.1 h)]
    exact List.append_ne_nil_of_right_ne_nil _ (List.cons_ne_nil _ _)

/-- Positive numbers are written without zeros in front. -/
theorem head?_toDigits_ne_zero {n : Nat} (h : 0 < n) : (Nat.toDigits 10 n).head? ≠ some '0' := by
  induction n using Nat.strongRecOn with
  | ind n ih =>
    by_cases hlt : n < 10
    · have hdigits : ∀ digit < 10, 0 < digit → [Nat.digitChar digit].head? ≠ some '0' := by decide
      rw [Nat.toDigits_of_lt_base hlt]
      exact hdigits n hlt h
    · have hfront := ih (n / 10) (by omega) (by omega)
      obtain ⟨c, cs, hdigits⟩ := List.exists_cons_of_ne_nil (toDigits_ne_nil (n / 10))
      rw [Nat.toDigits_of_base_le (by decide) (Nat.not_lt.1 hlt)]
      rw [hdigits] at hfront ⊢
      exact hfront

/-- The text is over, or does not go on with a number. -/
def EndsNumber (rest : List Char) : Prop :=
  StartsWithout (fun c => c.isDigit || c == '.' || c == 'e' || c == 'E') rest

theorem fraction?_of_endsNumber {rest : List Char} (h : EndsNumber rest) :
    fraction? rest = some ([], rest) := by
  cases rest with
  | nil => rfl
  | cons c rest =>
    have hc : c ≠ '.' := by
      rintro rfl
      exact Bool.noConfusion (h '.' rfl)
    rw [fraction?]
    exact fun _ heq => hc (List.cons.inj heq).1

theorem exponent?_of_endsNumber {rest : List Char} (h : EndsNumber rest) :
    exponent? rest = some ([], rest) := by
  cases rest with
  | nil => rfl
  | cons c rest =>
    have hc : ¬(c = 'e' ∨ c = 'E') := by
      rintro (rfl | rfl)
      · exact Bool.noConfusion (h 'e' rfl)
      · exact Bool.noConfusion (h 'E' rfl)
    simp [exponent?, hc]

section Digits

variable {whole rest : List Char}

theorem spanDigits_append (hwhole : ∀ c ∈ whole, c.isDigit = true) (h : EndsNumber rest) :
    spanDigits (whole ++ rest) = (whole, rest) := by
  have hrest : StartsWithout Char.isDigit rest := by
    intro c hc
    have hother := h c hc
    simp only [Bool.or_eq_false_iff] at hother
    exact hother.1.1.1
  exact Option.some.inj (Scan.takes_takeWhile hwhole hrest)

/-- Digits without others behind them are a number by themselves, with a sign in front or not. -/
theorem number?_append (hwhole : ∀ c ∈ whole, c.isDigit = true)
    (hlead : whole.head? ≠ some '0' ∨ whole.length = 1) (hne : whole ≠ []) (h : EndsNumber rest) :
    number? (whole ++ rest) = some (numberOfParts [] whole [] [], rest) ∧
      number? ('-' :: (whole ++ rest)) = some (numberOfParts ['-'] whole [] [], rest) := by
  have hspan := spanDigits_append hwhole h
  have hfraction := fraction?_of_endsNumber h
  have hexponent := exponent?_of_endsNumber h
  constructor
  · have hminus : ∀ digits, whole ++ rest = '-' :: digits → False := by
      intro digits heq
      obtain ⟨c, cs, rfl⟩ := List.exists_cons_of_ne_nil hne
      obtain rfl : c = '-' := (List.cons.inj heq).1
      exact Bool.noConfusion (hwhole '-' List.mem_cons_self)
    unfold number?
    split
    next sign digits heq =>
    split at heq
    · next digits heq' => exact (hminus digits heq').elim
    cases heq
    simp [hspan, guard, hne, hlead, hfraction, hexponent]
  · simp [number?, hspan, guard, hne, hlead, hfraction, hexponent]

end Digits

theorem head?_toDigits (n : Nat) :
    (Nat.toDigits 10 n).head? ≠ some '0' ∨ (Nat.toDigits 10 n).length = 1 := by
  by_cases h : 0 < n
  · exact .inl (head?_toDigits_ne_zero h)
  · obtain rfl : n = 0 := by omega
    exact .inr rfl

theorem toList_toString (n : Int) :
    (toString n).toList = (if n < 0 then ['-'] else []) ++ Nat.toDigits 10 n.natAbs := by
  cases n with
  | ofNat n => exact String.toList_ofList
  | negSucc n =>
    rw [if_pos (Int.negSucc_lt_zero n)]
    exact String.toList_append.trans (congrArg (['-'] ++ ·) String.toList_ofList)

/-- A number without a fraction that fits 64 bits is kept. -/
theorem numberOfParts_toDigits {sign : List Char} {n : Nat} (hn : n < UInt64.size)
    (h : sign = [] ∨ 0 < n) :
    numberOfParts sign (Nat.toDigits 10 n) [] [] = .integer (if sign = [] then n else -n) := by
  have hinteger : ([] : List Char) = [] ∧ ([] : List Char) = [] ∧
      ¬(sign ≠ [] ∧ Nat.toDigits 10 n = ['0']) := by
    refine ⟨rfl, rfl, ?_⟩
    rintro ⟨hsign, hzero⟩
    rcases h with h | h
    · exact hsign h
    · exact head?_toDigits_ne_zero h (congrArg List.head? hzero)
  rw [numberOfParts]
  dsimp only
  rw [if_pos hinteger, ofDecimal_toDigits, if_pos (.inl hn)]

/-- Integers that fit 64 bits are kept as they are written. -/
theorem number?_toString {n : Int} {rest : List Char} (hn : n.natAbs < UInt64.size)
    (h : EndsNumber rest) : number? ((toString n).toList ++ rest) = some (.integer n, rest) := by
  obtain ⟨hplain, hminus⟩ := number?_append (fun c => isDigit_of_mem_toDigits)
    (head?_toDigits n.natAbs) (toDigits_ne_nil n.natAbs) h
  rw [toList_toString]
  by_cases hsign : n < 0
  · have hvalue : -(n.natAbs : Int) = n := by omega
    rw [if_pos hsign, List.append_assoc, List.singleton_append, hminus,
      numberOfParts_toDigits hn (.inr (by omega)), if_neg (List.cons_ne_nil _ _), hvalue]
  · have hvalue : (n.natAbs : Int) = n := by omega
    rw [if_neg hsign, List.nil_append, hplain, numberOfParts_toDigits hn (.inl rfl), if_pos rfl,
      hvalue]

-- ════════════════════════════════════════════════════════════════════════
-- Tokens
-- ════════════════════════════════════════════════════════════════════════

/-- In front of the rest of a text, some characters are taken apart into tokens. -/
def Lexes (written : List Char) (made : List Token) (rest : List Char) : Prop :=
  made.length ≤ written.length ∧ ∀ bound,
    tokensUpTo? (made.length + bound) (written ++ rest) =
      (tokensUpTo? bound rest).map (made ++ ·)

theorem lexes_nil (rest : List Char) : Lexes [] [] rest := by
  refine ⟨Nat.le_refl 0, fun bound => ?_⟩
  simp

theorem Lexes.append {written other rest : List Char} {made more : List Token}
    (h : Lexes written made (other ++ rest)) (hother : Lexes other more rest) :
    Lexes (written ++ other) (made ++ more) rest := by
  obtain ⟨hlength, htokens⟩ := h
  obtain ⟨hlengthOther, htokensOther⟩ := hother
  refine ⟨?_, fun bound => ?_⟩
  · rw [List.length_append, List.length_append]
    omega
  · rw [List.length_append, Nat.add_assoc, List.append_assoc, htokens, htokensOther]
    cases tokensUpTo? bound rest <;> simp

theorem lexes_token {c : Char} {cs rest : List Char} {token : Token} (hspace : isSpace c = false)
    (h : token? (c :: (cs ++ rest)) = some (token, rest)) : Lexes (c :: cs) [token] rest := by
  refine ⟨Nat.succ_le_succ (Nat.zero_le _), fun bound => ?_⟩
  rw [List.length_singleton, Nat.add_comm, List.cons_append]
  have hskip : (c :: (cs ++ rest)).dropWhile isSpace = c :: (cs ++ rest) := by simp [hspace]
  rw [tokensUpTo?, hskip]
  simp only [h, Option.bind_eq_bind, Option.bind_some]
  cases tokensUpTo? bound rest <;> rfl

theorem lexes_mark {c : Char} {token : Token} (hspace : isSpace c = false)
    (h : mark? c = some token) (rest : List Char) : Lexes [c] [token] rest := by
  apply lexes_token hspace
  rw [token?, h]
  rfl

theorem lexes_string (text : String) (rest : List Char) :
    Lexes (stringChars escapeControls text) [.string (some text)] rest := by
  apply lexes_token (by decide)
  have hchars : (text.toList.flatMap escapeControls).append ['"'] ++ rest =
      text.toList.flatMap escapeControls ++ '"' :: rest := List.append_assoc _ _ _
  rw [hchars]
  show (string? (text.toList.flatMap escapeControls ++ '"' :: rest)).map _ = _
  rw [string?_stringChars]
  rfl

theorem lexes_integer {n : Int} {rest : List Char} (hn : n.natAbs < UInt64.size)
    (h : EndsNumber rest) : Lexes (toString n).toList [.scalar (.integer n)] rest := by
  have hnumber := number?_toString hn h
  obtain ⟨c, cs, htext, hc⟩ : ∃ c cs, (toString n).toList = c :: cs ∧ (c = '-' ∨ c.isDigit) := by
    rw [toList_toString]
    by_cases hsign : n < 0
    · exact ⟨'-', _, by rw [if_pos hsign]; rfl, .inl rfl⟩
    · obtain ⟨c, cs, hdigits⟩ := List.exists_cons_of_ne_nil (toDigits_ne_nil n.natAbs)
      have hc : c.isDigit = true := isDigit_of_mem_toDigits (hdigits ▸ List.mem_cons_self)
      exact ⟨c, cs, by rw [if_neg hsign, hdigits]; rfl, .inr hc⟩
  have hother : ∀ other, other ≠ '-' → other.isDigit = false → c ≠ other := by
    rintro other hminus hdigit rfl
    rcases hc with hc | hc
    · exact hminus hc
    · exact Bool.noConfusion (hc.symm.trans hdigit)
  rw [htext] at hnumber ⊢
  apply lexes_token
  · simp [isSpace, hother ' ' (by decide) (by decide), hother '\t' (by decide) (by decide),
      hother '\n' (by decide) (by decide), hother '\r' (by decide) (by decide)]
  · have hmark : mark? c = none := by
      unfold mark?
      split
      case h_7 => rfl
      all_goals exact absurd rfl (hother _ (by decide) (by decide))
    have hquote : c ≠ '"' := hother '"' (by decide) (by decide)
    rw [token?, hmark]
    dsimp only
    rw [if_neg hquote, if_pos hc, ← List.cons_append, hnumber]
    rfl

theorem endsNumber_cons {c : Char} (h : (c.isDigit || c == '.' || c == 'e' || c == 'E') = false)
    (rest : List Char) : EndsNumber (c :: rest) :=
  Scan.startsWithout_cons h rest

mutual

/-- The text of a value is taken apart into the tokens of the value. -/
theorem lexes_chars : ∀ (depth : Nat) (value : Json) (rest : List Char),
    value.hasText depth = true → EndsNumber rest →
    Lexes (value.chars escapeControls) value.tokens rest
  | _, .null, rest, _, _ => lexes_token (by decide) rfl
  | _, .bool true, rest, _, _ => lexes_token (by decide) rfl
  | _, .bool false, rest, _, _ => lexes_token (by decide) rfl
  | _, .string text, rest, _, _ => lexes_string text rest
  | _, .integer n, rest, h, hrest => lexes_integer (by simpa [hasText] using h) hrest
  | depth + 1, .array items, rest, h, _ => by
    have hitems := lexes_itemChars depth items (']' :: rest) h (endsNumber_cons (by decide) rest)
    have hopen := lexes_mark (c := '[') (by decide) rfl
    have hclose := lexes_mark (c := ']') (by decide) rfl rest
    exact ((hopen _).append hitems).append hclose
  | depth + 1, .object members, rest, h, _ => by
    have hmembers := lexes_memberChars depth members ('\x7d' :: rest) h
      (endsNumber_cons (by decide) rest)
    have hopen := lexes_mark (c := '\x7b') (by decide) rfl
    have hclose := lexes_mark (c := '\x7d') (by decide) rfl rest
    exact ((hopen _).append hmembers).append hclose

theorem lexes_itemChars : ∀ (depth : Nat) (items : List Json) (rest : List Char),
    haveText depth items = true → EndsNumber rest →
    Lexes (itemChars escapeControls items) (itemTokens items) rest
  | _, [], rest, _, _ => lexes_nil rest
  | depth, [item], rest, h, hrest => by
    simp only [haveText, Bool.and_true] at h
    exact lexes_chars depth item rest h hrest
  | depth, item :: next :: items, rest, h, hrest => by
    rw [haveText, Bool.and_eq_true] at h
    have hitems := lexes_itemChars depth (next :: items) rest h.2 hrest
    have hcomma := lexes_mark (c := ',') (by decide) rfl
    have hitem := lexes_chars depth item (',' :: (itemChars escapeControls (next :: items) ++ rest))
      h.1 (endsNumber_cons (by decide) _)
    exact hitem.append ((hcomma _).append hitems)

theorem lexes_memberChars : ∀ (depth : Nat) (members : List (String × Json)) (rest : List Char),
    membersHaveText depth members = true → EndsNumber rest →
    Lexes (memberChars escapeControls members) (memberTokens members) rest
  | _, [], rest, _, _ => lexes_nil rest
  | depth, [(name, value)], rest, h, hrest => by
    simp only [membersHaveText, Bool.and_true] at h
    have hvalue := lexes_chars depth value rest h hrest
    have hcolon := lexes_mark (c := ':') (by decide) rfl
    exact (lexes_string name _).append ((hcolon _).append hvalue)
  | depth, (name, value) :: next :: members, rest, h, hrest => by
    rw [membersHaveText, Bool.and_eq_true] at h
    have hmembers := lexes_memberChars depth (next :: members) rest h.2 hrest
    have hcomma := lexes_mark (c := ',') (by decide) rfl
    have hcolon := lexes_mark (c := ':') (by decide) rfl
    have hvalue := lexes_chars depth value
      (',' :: (memberChars escapeControls (next :: members) ++ rest)) h.1
      (endsNumber_cons (by decide) _)
    exact ((lexes_string name _).append ((hcolon _).append hvalue)).append
      ((hcomma _).append hmembers)

end

/-- The tokens of the text of a value are the tokens of the value. -/
theorem tokens?_chars {depth : Nat} {value : Json} (h : value.hasText depth = true) :
    tokens? (value.chars escapeControls) = some value.tokens := by
  obtain ⟨hlength, htokens⟩ := lexes_chars depth value [] h fun c hc => nomatch hc
  rw [List.append_nil] at htokens
  obtain ⟨bound, hbound⟩ := Nat.exists_eq_add_of_le hlength
  rw [tokens?, hbound, htokens]
  cases bound <;> simp [tokensUpTo?]

end LinkCatalog.Json
