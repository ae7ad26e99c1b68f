import LinkCatalog.CommandLine.Run
import LinkCatalog.Proofs.CommandLine.Options
import LinkCatalog.Proofs.CommandLine.Words

/-!
# Command lines and environments

The arguments of an accepted command line are options, the name of a task, and its operand. What
they describe depends on what the options say, but not on their order and their spelling. Settings
without an option are settled as if there were no command line, although the environment on its own
is read less strictly: a variable that cannot be read is an error here, and has no effect there.

## Main definitions

- `CommandLine.ofOptions` — options, the name of a task, and what follows it

## Main statements

- `Arguments.parse?_flatMap_append` — arguments are read option by option
- `Arguments.exists_ofOptions` — no other arguments are accepted
- `CommandLine.request?_ofOptions_of_perm` — order and spelling make no difference
- `CommandLine.request_agrees` — options, variables and defaults agree
-/

namespace LinkCatalog

-- ════════════════════════════════════════════════════════════════════════
-- Command lines
-- ════════════════════════════════════════════════════════════════════════

/-- Options, the name of a task, and what follows it. -/
def CommandLine.ofOptions (options : List GivenOption) (task : Task) (operands : List String) :
    List String :=
  options.flatMap GivenOption.words ++ task.name :: operands

namespace Arguments

/-- An option in front of other arguments is added to what they say. -/
theorem parse?_words_append (option : GivenOption) (rest : List String) :
    parse? (option.words ++ rest) = (parse? rest).bind fun arguments =>
      arguments.withOption? option.setting option.value := by
  obtain ⟨setting, value, spelling, hfor, hadmits⟩ := option
  have hjoined : ∀ word, Word.ofText? word = some (.option setting value) →
      parse? (word :: rest) = (parse? rest).bind fun arguments =>
        arguments.withOption? setting value := by
    intro word hword
    cases rest with
    | nil => rfl
    | cons next rest => rw [parse?, hword]
  have happart : ∀ word, Word.ofText? word = some (.optionName setting) → isOperand value = true →
      parse? (word :: value :: rest) = (parse? rest).bind fun arguments =>
        arguments.withOption? setting value := by
    intro word hword hoperand
    rw [parse?, hword]
    exact if_pos hoperand
  cases spelling with
  | long => exact happart _ (Word.ofText?_long setting) hadmits
  | longJoined => exact hjoined _ (Word.ofText?_longJoined setting value)
  | short =>
    subst hfor
    exact happart _ Word.ofText?_short hadmits
  | shortJoined =>
    subst hfor
    exact hjoined _ (Word.ofText?_shortJoined hadmits.1 hadmits.2)
  | shortEquals =>
    subst hfor
    exact hjoined _ (Word.ofText?_shortEquals value)

/-- Arguments are read option by option. -/
theorem parse?_flatMap_append (options : List GivenOption) (rest : List String) :
    parse? (options.flatMap GivenOption.words ++ rest) =
      withOptions? (options.map GivenOption.given) (parse? rest) := by
  induction options with
  | nil => rfl
  | cons option options ih =>
    rw [List.flatMap_cons, List.append_assoc, parse?_words_append, ih]
    rfl

/-- The name of a task ends the options. -/
theorem collects_of_parse?_task {task : Task} {operands : List String} {arguments : Arguments}
    (h : parse? (task.name :: operands) = some arguments) : arguments.Collects [] := by
  obtain ⟨ofOperand, hword⟩ := Word.ofText?_name task
  cases operands with
  | nil => cases h
  | cons operand operands =>
    rw [parse?, hword] at h
    obtain ⟨_, -, rfl⟩ := Option.map_eq_some_iff.1 h
    refine ⟨fun option hoption => absurd hoption List.not_mem_nil, fun setting _ => ?_⟩
    cases setting <;> rfl

/-- An option in front of a command line makes another one. -/
theorem ofOptions_cons {words rest : List String} {setting : Setting} {value : String}
    {before arguments : Arguments} {option : GivenOption} (hwords : words = option.words ++ rest)
    (hadded : before.withOption? setting value = some arguments)
    (hrest : ∃ options operands, rest = CommandLine.ofOptions options before.task operands) :
    ∃ options operands, words = CommandLine.ofOptions options arguments.task operands := by
  obtain ⟨-, x, -, rfl⟩ := withOption?_eq_some_iff.1 hadded
  obtain ⟨options, operands, rfl⟩ := hrest
  refine ⟨option :: options, operands, ?_⟩
  rw [hwords, task_set, CommandLine.ofOptions, CommandLine.ofOptions, List.flatMap_cons,
    List.append_assoc]

/-- All arguments that can be read are options in front of the name of a task. -/
theorem exists_ofOptions {words : List String} {arguments : Arguments}
    (h : parse? words = some arguments) :
    ∃ options operands, words = CommandLine.ofOptions options arguments.task operands := by
  fun_induction parse? words generalizing arguments with
  | case1 first next rest setting value hword ih =>
    obtain ⟨before, hbefore, hadded⟩ := Option.bind_eq_some_iff.1 h
    obtain ⟨option, -, hfirst⟩ := Word.isSaidBy_of_ofText? hword
    exact ofOptions_cons (by rw [hfirst]; rfl) hadded (ih hbefore)
  | case2 first next rest setting hword hoperand ih =>
    obtain ⟨before, hbefore, hadded⟩ := Option.bind_eq_some_iff.1 h
    obtain ⟨option, -, hfirst⟩ := Word.isSaidBy_of_ofText? hword next hoperand
    exact ofOptions_cons (by rw [hfirst]; rfl) hadded (ih hbefore)
  | case3 first next rest setting hword hoperand => cases h
  | case4 first next rest ofOperand hword =>
    obtain ⟨operand, -, rfl⟩ := Option.map_eq_some_iff.1 h
    have hname := Word.isSaidBy_of_ofText? hword operand
    exact ⟨[], next :: rest, by rw [CommandLine.ofOptions, hname]; rfl⟩
  | case5 first next rest hword => cases h
  | case6 words hshort => cases h

end Arguments

-- ════════════════════════════════════════════════════════════════════════
-- Options, variables and defaults
-- ════════════════════════════════════════════════════════════════════════

namespace CommandLine

variable {arguments : List String} {environment : Environment} {config : ClusterConfig}
  {options others : List GivenOption} {task : Task} {operands : List String}

theorem request?_eq_some_iff :
    request? arguments environment = some (config, task) ↔ ∃ found,
      Arguments.parse? arguments = some found ∧ found.config? environment = some config ∧
        found.task = task := by
  simp only [request?, Option.bind_eq_bind, Option.bind_eq_some_iff, Option.pure_def,
    Option.some.injEq, Prod.mk.injEq]
  constructor
  · rintro ⟨found, hparse, _, hconfig, rfl, rfl⟩
    exact ⟨found, hparse, hconfig, rfl⟩
  · rintro ⟨found, hparse, hconfig, rfl⟩
    exact ⟨found, hparse, config, hconfig, rfl, rfl⟩

/-- What a command line asks for depends on what its options say, but not on the order in which they
    stand, nor on how they are written. -/
theorem request?_ofOptions_of_perm
    (h : (others.map GivenOption.given).Perm (options.map GivenOption.given)) :
    request? (ofOptions others task operands) environment =
      request? (ofOptions options task operands) environment := by
  rw [request?, request?, ofOptions, ofOptions, Arguments.parse?_flatMap_append,
    Arguments.parse?_flatMap_append, Arguments.withOptions?_of_perm h]

/-- A command line that can be read holds what its options say, and nothing else. -/
theorem collects_of_parse?_ofOptions {found : Arguments}
    (h : Arguments.parse? (ofOptions options task operands) = some found) :
    found.Collects (options.map GivenOption.given) := by
  rw [ofOptions, Arguments.parse?_flatMap_append] at h
  exact Arguments.collects_of_withOptions? (fun _ => Arguments.collects_of_parse?_task) h

/-- **Command line, environment and defaults agree.** The arguments of an accepted command line are
    options, the name of a task, and its operand. Each setting has the value of its option, if that
    is given, and otherwise the value that the environment alone gives it. The options may stand in
    any order and be written in any way, and all ways are free for a plain value. -/
theorem request_agrees (h : request? arguments environment = some (config, task)) :
    (∃ options operands, arguments = ofOptions options task operands) ∧
    ∀ options operands, arguments = ofOptions options task operands →
      (∀ option ∈ options,
        option.setting.read? option.value = some (config.get option.setting)) ∧
      (∀ setting, (∀ option ∈ options, option.setting ≠ setting) →
        config.get setting = (ClusterConfig.ofEnvironment environment).get setting) ∧
      (∀ others : List GivenOption,
        (others.map GivenOption.given).Perm (options.map GivenOption.given) →
          request? (ofOptions others task operands) environment = some (config, task)) ∧
      ∀ option ∈ options, Spelling.IsPlain option.value →
        ∀ spelling : Spelling, spelling.IsFor option.setting →
          ∃ other : GivenOption, other.given = option.given ∧
            other.words = spelling.words option.setting option.value := by
  obtain ⟨found, hparse, hconfig, htask⟩ := request?_eq_some_iff.1 h
  refine ⟨htask ▸ Arguments.exists_ofOptions hparse, ?_⟩
  rintro options operands rfl
  have hcollects := collects_of_parse?_ofOptions hparse
  have hget := Arguments.get_of_config? hconfig
  refine ⟨fun option hoption => ?_, fun setting hmissing => ?_, fun others hperm => ?_,
    fun option _ hplain spelling hfor => ?_⟩
  · obtain ⟨x, hread, hfound⟩ := hcollects.holds _ (List.mem_map_of_mem hoption)
    have hvalue : found.get? option.setting = some x := hfound
    rw [hget, hvalue]
    exact hread
  · have hnone : found.get? setting = none := by
      refine hcollects.missing setting fun given hgiven => ?_
      obtain ⟨option, hoption, rfl⟩ := List.mem_map.1 hgiven
      exact hmissing option hoption
    rw [hget, hnone, Option.getD_none]
  · rw [request?_ofOptions_of_perm hperm, h]
  · exact ⟨⟨option.setting, option.value, spelling, hfor, hplain.admits spelling⟩, rfl, rfl⟩

/-- Variables for examples: a namespace and nine seconds. -/
def sampleEnvironment : Environment :=
  [(ClusterConfig.namespaceVariable, "stage".toUTF8.data.toList),
    (ClusterConfig.timeoutVariable, "9".toUTF8.data.toList)]

/-- The connection for examples: two settings have options, one has a variable, and one has neither. -/
def sampleConfig : ClusterConfig :=
  { clusterUrl := "ftp://cluster", namespaceName := "team", timeoutSeconds := 9 }

/-- Options for examples. -/
def sampleOptions : List GivenOption :=
  [⟨.clusterUrl, "ftp://cluster", .longJoined, trivial, trivial⟩,
    ⟨.namespaceName, "team", .short, rfl, by decide +kernel⟩]

/-- The same options in another order and in other spellings. -/
def sampleRespelled : List GivenOption :=
  [⟨.namespaceName, "team", .shortJoined, rfl, by decide +kernel⟩,
    ⟨.clusterUrl, "ftp://cluster", .long, trivial, by decide +kernel⟩]

/-- The options win over the variables, and respelled options describe the same connection. -/
theorem request_agrees_sample :
    request? ["--cluster-url=ftp://cluster", "-n", "team", "latest-rc", "web"] sampleEnvironment =
        some (sampleConfig, .latestController "web") ∧
      Setting.namespaceName.read? "team" = some (sampleConfig.get .namespaceName) ∧
      sampleConfig.get .timeoutSeconds =
        (ClusterConfig.ofEnvironment sampleEnvironment).get .timeoutSeconds ∧
      request? ["-nteam", "--cluster-url", "ftp://cluster", "latest-rc", "web"] sampleEnvironment =
        some (sampleConfig, .latestController "web") ∧
      Spelling.IsPlain "team" ∧ ∃ other : GivenOption,
        other.given = (.namespaceName, "team") ∧ other.words = ["-nteam"] := by
  have haccepted : request? ["--cluster-url=ftp://cluster", "-n", "team", "latest-rc", "web"]
      sampleEnvironment = some (sampleConfig, .latestController "web") := by
    decide +kernel
  have hwords : ["--cluster-url=ftp://cluster", "-n", "team", "latest-rc", "web"] =
      ofOptions sampleOptions (.latestController "web") ["web"] := by
    decide +kernel
  have hrespelled : ["-nteam", "--cluster-url", "ftp://cluster", "latest-rc", "web"] =
      ofOptions sampleRespelled (.latestController "web") ["web"] := by
    decide +kernel
  have hgiven : ⟨.namespaceName, "team", .short, rfl, by decide +kernel⟩ ∈ sampleOptions :=
    List.mem_cons_of_mem _ List.mem_cons_self
  have hmissing : ∀ option ∈ sampleOptions, option.setting ≠ .timeoutSeconds := by
    simp [sampleOptions]
  have hperm : (sampleRespelled.map GivenOption.given).Perm
      (sampleOptions.map GivenOption.given) :=
    .swap _ _ _
  have hplain : Spelling.IsPlain "team" := by decide +kernel
  obtain ⟨hset, hother, hsame, hfree⟩ := (request_agrees haccepted).2 _ _ hwords
  refine ⟨haccepted, hset _ hgiven, hother .timeoutSeconds hmissing, ?_, hplain,
    hfree _ hgiven hplain .shortJoined rfl⟩
  rw [hrespelled]
  exact hsame sampleRespelled hperm

end CommandLine

end LinkCatalog
