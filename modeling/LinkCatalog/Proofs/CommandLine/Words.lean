import Mathlib.Data.List.TakeWhile
import LinkCatalog.CommandLine.Arguments

/-!
# Words of a command line

An option can be written in several ways, of which some are not free for all settings and values. An
argument in front of the task has a meaning if and only if it is part of an option that is written
in one of these ways, or the name of a task.

## Main definitions

- `Spelling` — the ways to write an option
- `Spelling.IsPlain` — values that can be written in all ways
- `GivenOption` — an option with a spelling that fits it
- `Word.IsSaidBy` — the arguments that have a meaning

## Main statements

- `Word.ofText?_long`, `Word.ofText?_longJoined`, `Word.ofText?_short`, `Word.ofText?_shortJoined`,
  `Word.ofText?_shortEquals`, `Word.ofText?_name` — what is written has its meaning
- `Word.isSaidBy_of_ofText?` — what has a meaning is written that way
-/

namespace LinkCatalog

-- ════════════════════════════════════════════════════════════════════════
-- Spellings
-- ════════════════════════════════════════════════════════════════════════

/-- The ways to write an option. -/
inductive Spelling where
  /-- The long name; the value is the next argument. -/
  | long
  /-- The long name, an equals sign and the value. -/
  | longJoined
  /-- The short name; the value is the next argument. -/
  | short
  /-- The short name and the value. -/
  | shortJoined
  /-- The short name, an equals sign and the value. -/
  | shortEquals
deriving DecidableEq, Repr

namespace Spelling

/-- The arguments that give a value to a setting. -/
def words (setting : Setting) (value : String) : Spelling → List String
  | .long => ["--" ++ setting.optionName, value]
  | .longJoined => ["--" ++ setting.optionName ++ "=" ++ value]
  | .short => ["-n", value]
  | .shortJoined => ["-n" ++ value]
  | .shortEquals => ["-n=" ++ value]

/-- Only the option for the namespace has a short name. -/
def IsFor (setting : Setting) : Spelling → Prop
  | .long | .longJoined => True
  | .short | .shortJoined | .shortEquals => setting = .namespaceName

/-- An argument of its own must not look like an option, and a value right behind the short name
    must not be empty or look like one behind an equals sign. -/
def Admits (value : String) : Spelling → Prop
  | .long | .short => isOperand value = true
  | .longJoined | .shortEquals => True
  | .shortJoined => value ≠ "" ∧ value.toList.head? ≠ some '='

instance (value : String) : (spelling : Spelling) → Decidable (spelling.Admits value)
  | .long | .short => inferInstanceAs (Decidable (isOperand value = true))
  | .longJoined | .shortEquals => inferInstanceAs (Decidable True)
  | .shortJoined => inferInstanceAs (Decidable (value ≠ "" ∧ value.toList.head? ≠ some '='))

/-- A value that can be written in all ways: it is not empty, and does not start with a hyphen or an
    equals sign. -/
def IsPlain (value : String) : Prop :=
  value ≠ "" ∧ value.toList.head? ≠ some '-' ∧ value.toList.head? ≠ some '='

instance (value : String) : Decidable (IsPlain value) :=
  inferInstanceAs
    (Decidable (value ≠ "" ∧ value.toList.head? ≠ some '-' ∧ value.toList.head? ≠ some '='))

theorem IsPlain.admits {value : String} (h : IsPlain value) (spelling : Spelling) :
    spelling.Admits value := by
  obtain ⟨hne, hhyphen, hequals⟩ := h
  have hoperand : isOperand value = true := by simp [isOperand, hhyphen]
  cases spelling with
  | long => exact hoperand
  | longJoined => trivial
  | short => exact hoperand
  | shortJoined => exact ⟨hne, hequals⟩
  | shortEquals => trivial

end Spelling

/-- An option as it is written. -/
structure GivenOption where
  setting : Setting
  value : String
  spelling : Spelling
  isFor : spelling.IsFor setting
  admits : spelling.Admits value

namespace GivenOption

/-- The arguments that an option takes. -/
def words (option : GivenOption) : List String :=
  option.spelling.words option.setting option.value

/-- What an option says, in whichever way it is written. -/
def given (option : GivenOption) : Setting × String :=
  (option.setting, option.value)

end GivenOption

/-- The name of a task. -/
def Task.name : Task → String
  | .latestController _ => "latest-rc"
  | .latestVersion _ => "latest-version"

-- ════════════════════════════════════════════════════════════════════════
-- Words and what they mean
-- ════════════════════════════════════════════════════════════════════════

namespace Setting

theorem ofOptionName?_eq_some_iff {name : List Char} {setting : Setting} :
    ofOptionName? name = some setting ↔ setting.optionName.toList = name := by
  constructor
  · intro h
    have hfound := List.find?_some h
    exact eq_of_beq hfound
  · rintro rfl
    cases setting <;> decide +kernel

theorem ne_equals_of_mem_optionName (setting : Setting) :
    ∀ c ∈ setting.optionName.toList, (c != '=') = true := by
  have hall : (setting.optionName.toList.all (· != '=')) = true := by
    cases setting <;> decide +kernel
  exact fun c => List.all_eq_true.1 hall c

end Setting

namespace Word

variable {text value : String} {setting : Setting}

/-- The meaning of a word behind two hyphens, by what is in front of the first equals sign. -/
theorem ofText?_of_long {rest : List Char} (h : text.toList = '-' :: '-' :: rest) :
    ofText? text = (Setting.ofOptionName? (rest.takeWhile (· != '='))).bind fun setting =>
      match rest.dropWhile (· != '=') with
      | '=' :: value => some (.option setting (String.ofList value))
      | _ => some (.optionName setting) := by
  unfold ofText?
  rw [h]
  rfl

theorem ofText?_long (setting : Setting) :
    ofText? ("--" ++ setting.optionName) = some (.optionName setting) := by
  have htext : ("--" ++ setting.optionName).toList = '-' :: '-' :: setting.optionName.toList := by
    simp [String.toList_append]
  have hfront := setting.ne_equals_of_mem_optionName
  rw [ofText?_of_long htext, List.takeWhile_eq_self_iff.2 hfront,
    List.dropWhile_eq_nil_iff.2 hfront, Setting.ofOptionName?_eq_some_iff.2 rfl]
  rfl

theorem ofText?_longJoined (setting : Setting) (value : String) :
    ofText? ("--" ++ setting.optionName ++ "=" ++ value) = some (.option setting value) := by
  have htext : ("--" ++ setting.optionName ++ "=" ++ value).toList =
      '-' :: '-' :: (setting.optionName.toList ++ '=' :: value.toList) := by
    simp [String.toList_append]
  have hfront := setting.ne_equals_of_mem_optionName
  rw [ofText?_of_long htext, List.takeWhile_append_of_pos hfront,
    List.dropWhile_append_of_pos hfront]
  simp [Setting.ofOptionName?_eq_some_iff.2 rfl]

theorem ofText?_short : ofText? "-n" = some (.optionName .namespaceName) := by
  simp [ofText?]

theorem ofText?_name (task : Task) : ∃ ofOperand, ofText? task.name = some (.task ofOperand) := by
  cases task with
  | latestController => exact ⟨.latestController, by simp [ofText?, Task.name]⟩
  | latestVersion => exact ⟨.latestVersion, by simp [ofText?, Task.name]⟩

theorem ofText?_of_short {c : Char} {rest : List Char} (h : text.toList = '-' :: 'n' :: c :: rest) :
    ofText? text = some (.option .namespaceName (attachedValue (c :: rest))) := by
  unfold ofText?
  rw [h]
  rfl

theorem attachedValue_of_ne {c : Char} {rest : List Char} (h : c ≠ '=') :
    attachedValue (c :: rest) = String.ofList (c :: rest) := by
  simp [attachedValue, h]

theorem ofText?_shortJoined (hne : value ≠ "") (hequals : value.toList.head? ≠ some '=') :
    ofText? ("-n" ++ value) = some (.option .namespaceName value) := by
  cases hvalue : value.toList with
  | nil => exact absurd (String.toList_eq_nil_iff.1 hvalue) hne
  | cons c rest =>
    have htext : ("-n" ++ value).toList = '-' :: 'n' :: c :: rest := by
      simp [String.toList_append, hvalue]
    have hc : c ≠ '=' := by
      rintro rfl
      exact hequals (by rw [hvalue]; rfl)
    rw [ofText?_of_short htext, attachedValue_of_ne hc, ← hvalue, String.ofList_toList]

theorem ofText?_shortEquals (value : String) :
    ofText? ("-n=" ++ value) = some (.option .namespaceName value) := by
  have htext : ("-n=" ++ value).toList = '-' :: 'n' :: '=' :: value.toList := by
    simp [String.toList_append]
  rw [ofText?_of_short htext, attachedValue, String.ofList_toList]

/-- What an argument says that has a certain meaning: an option, the first part of one, or the name
    of a task. -/
def IsSaidBy (text : String) : Word → Prop
  | .option setting value =>
    ∃ option : GivenOption, option.given = (setting, value) ∧ option.words = [text]
  | .optionName setting => ∀ value, isOperand value = true →
    ∃ option : GivenOption, option.given = (setting, value) ∧ option.words = [text, value]
  | .task ofOperand => ∀ operand, (ofOperand operand).name = text

/-- What is left of a text from its first mark on is nothing, or starts with the mark. -/
theorem dropWhile_ne_cases (mark : Char) (cs : List Char) :
    cs.dropWhile (· != mark) = [] ∨ ∃ back, cs.dropWhile (· != mark) = mark :: back := by
  cases hdrop : cs.dropWhile (· != mark) with
  | nil => exact .inl rfl
  | cons c back =>
    have hstop := List.head?_dropWhile_not (· != mark) cs
    simp only [hdrop, List.head?_cons, bne_eq_false_iff_eq] at hstop
    exact .inr ⟨back, by rw [hstop]⟩

theorem isSaidBy_of_long {rest : List Char} {word : Word} (htext : text.toList = '-' :: '-' :: rest)
    (h : ofText? text = some word) : word.IsSaidBy text := by
  rw [ofText?_of_long htext, Option.bind_eq_some_iff] at h
  obtain ⟨setting, hsetting, hword⟩ := h
  have hname := Setting.ofOptionName?_eq_some_iff.1 hsetting
  have hrest : rest = rest.takeWhile (· != '=') ++ rest.dropWhile (· != '=') :=
    List.takeWhile_append_dropWhile.symm
  rw [← hname] at hrest
  rcases dropWhile_ne_cases '=' rest with hnil | ⟨value, hvalue⟩
  · rw [hnil] at hword
    obtain rfl := Option.some.inj hword
    have heq : "--" ++ setting.optionName = text := by
      rw [← String.toList_inj, htext, hrest, hnil]
      simp [String.toList_append]
    intro value hoperand
    exact ⟨⟨setting, value, .long, trivial, hoperand⟩, rfl,
      congrArg (fun word => [word, value]) heq⟩
  · rw [hvalue] at hword
    obtain rfl := Option.some.inj hword
    have heq : "--" ++ setting.optionName ++ "=" ++ String.ofList value = text := by
      rw [← String.toList_inj, htext, hrest, hvalue]
      simp [String.toList_append]
    exact ⟨⟨setting, String.ofList value, .longJoined, trivial, trivial⟩, rfl,
      congrArg (fun word => [word]) heq⟩

theorem isSaidBy_of_short {rest : List Char} (htext : text.toList = '-' :: 'n' :: rest)
    (hne : rest ≠ []) : (Word.option .namespaceName (attachedValue rest)).IsSaidBy text := by
  obtain ⟨c, rest, rfl⟩ := List.exists_cons_of_ne_nil hne
  by_cases hc : c = '='
  · subst hc
    have heq : "-n=" ++ String.ofList rest = text := by
      rw [← String.toList_inj, htext]
      simp [String.toList_append]
    exact ⟨⟨.namespaceName, String.ofList rest, .shortEquals, rfl, trivial⟩, rfl,
      congrArg (fun word => [word]) heq⟩
  · have heq : "-n" ++ String.ofList (c :: rest) = text := by
      rw [← String.toList_inj, htext]
      simp [String.toList_append]
    have hadmits : Spelling.Admits (String.ofList (c :: rest)) .shortJoined := by
      simp [Spelling.Admits, hc]
    rw [attachedValue_of_ne hc]
    exact ⟨⟨.namespaceName, String.ofList (c :: rest), .shortJoined, rfl, hadmits⟩, rfl,
      congrArg (fun word => [word]) heq⟩

/-- Every argument that has a meaning says it in one of the ways to write options, or by the name of
    a task. -/
theorem isSaidBy_of_ofText? {word : Word} (h : ofText? text = some word) : word.IsSaidBy text := by
  have hmeaning := h
  unfold ofText? at h
  split at h
  · next rest htext => exact isSaidBy_of_long htext hmeaning
  · next htext =>
    obtain rfl := Option.some.inj h
    have heq : "-n" = text := by
      rw [← String.toList_inj, htext]
      rfl
    intro value hoperand
    exact ⟨⟨.namespaceName, value, .short, rfl, hoperand⟩, rfl,
      congrArg (fun word => [word, value]) heq⟩
  · next rest hne htext =>
    obtain rfl := Option.some.inj h
    exact isSaidBy_of_short htext hne
  · split at h
    · next htext =>
      obtain rfl := Option.some.inj h
      exact fun _ => htext.symm
    · split at h
      · next htext =>
        obtain rfl := Option.some.inj h
        exact fun _ => htext.symm
      · cases h

end Word

end LinkCatalog
