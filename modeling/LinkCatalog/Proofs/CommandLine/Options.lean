import Mathlib.Data.List.Perm.Basic
import LinkCatalog.CommandLine.Arguments

/-!
# Options and settings

Options are added to the arguments one by one, each at most once, so that their order makes no
difference. What arguments and environment describe has, for every setting, the value of the option
if there is one, and otherwise the value that the environment alone describes.

## Main definitions

- `Setting.Value`, `Setting.read?` — what a setting is set to, and how it is read from text
- `ClusterConfig.get`, `Arguments.get?`, `Arguments.set` — connections and arguments by setting
- `Arguments.withOptions?` — arguments with several more options
- `Arguments.Collects` — arguments that hold the values of some options, and nothing else

## Main statements

- `Arguments.withOptions?_of_perm` — the order of options makes no difference
- `Arguments.collects_of_withOptions?` — what arguments hold after options have been added
- `Arguments.get_of_config?` — where the settings of a connection come from
-/

namespace LinkCatalog

namespace Setting

/-- What a setting is set to. -/
def Value : Setting → Type
  | .clusterUrl | .bearerToken | .namespaceName => String
  | .timeoutSeconds => Nat

/-- Reads the value of a setting. Any text is one, except for the seconds. -/
def read? : (setting : Setting) → String → Option setting.Value
  | .clusterUrl, text | .bearerToken, text | .namespaceName, text => some text
  | .timeoutSeconds, text => ClusterConfig.seconds? text

end Setting

/-- A setting of a connection. -/
def ClusterConfig.get (config : ClusterConfig) : (setting : Setting) → setting.Value
  | .clusterUrl => config.clusterUrl
  | .bearerToken => config.bearerToken
  | .namespaceName => config.namespaceName
  | .timeoutSeconds => config.timeoutSeconds

namespace Arguments

variable {arguments other : Arguments} {setting : Setting} {value : String}

/-- The value of the option for a setting, if it is given. -/
def get? (arguments : Arguments) : (setting : Setting) → Option setting.Value
  | .clusterUrl => arguments.clusterUrl
  | .bearerToken => arguments.bearerToken
  | .namespaceName => arguments.namespaceName
  | .timeoutSeconds => arguments.timeoutSeconds

/-- The arguments with a value for a setting. -/
def set (arguments : Arguments) : (setting : Setting) → setting.Value → Arguments
  | .clusterUrl, value => { arguments with clusterUrl := some value }
  | .bearerToken, value => { arguments with bearerToken := some value }
  | .namespaceName, value => { arguments with namespaceName := some value }
  | .timeoutSeconds, value => { arguments with timeoutSeconds := some value }

@[simp] theorem task_set (x : setting.Value) : (arguments.set setting x).task = arguments.task := by
  cases setting <;> rfl

@[simp] theorem get?_set_self (x : setting.Value) :
    (arguments.set setting x).get? setting = some x := by
  cases setting <;> rfl

theorem get?_set_of_ne {setting' : Setting} (h : setting' ≠ setting) (x : setting.Value) :
    (arguments.set setting x).get? setting' = arguments.get? setting' := by
  cases setting <;> cases setting' <;> first | rfl | exact absurd rfl h

theorem set_comm {setting' : Setting} (h : setting' ≠ setting) (x : setting.Value)
    (y : setting'.Value) :
    (arguments.set setting x).set setting' y = (arguments.set setting' y).set setting x := by
  cases setting <;> cases setting' <;> first | rfl | exact absurd rfl h

-- ════════════════════════════════════════════════════════════════════════
-- Adding options
-- ════════════════════════════════════════════════════════════════════════

/-- An option is added if it is not there yet and its value can be read. -/
theorem withOption?_eq_some_iff :
    arguments.withOption? setting value = some other ↔ arguments.get? setting = none ∧
      ∃ x, setting.read? value = some x ∧ arguments.set setting x = other := by
  have heq : arguments.withOption? setting value =
      if (arguments.get? setting).isSome then none
      else (setting.read? value).map (arguments.set setting) := by
    cases setting <;> rfl
  rw [heq, ← Option.map_eq_some_iff]
  cases arguments.get? setting with
  | none => simp
  | some x => simp

/-- Arguments with several more options, of which the last one is added first. -/
def withOptions? (given : List (Setting × String)) (start : Option Arguments) : Option Arguments :=
  given.foldr (fun option found => found.bind fun arguments =>
    arguments.withOption? option.1 option.2) start

theorem withOption?_swap {setting' : Setting} {value' : String} {last : Arguments}
    (hfirst : arguments.withOption? setting value = some other)
    (hsecond : other.withOption? setting' value' = some last) :
    ∃ between, arguments.withOption? setting' value' = some between ∧
      between.withOption? setting value = some last := by
  obtain ⟨hnone, x, hread, rfl⟩ := withOption?_eq_some_iff.1 hfirst
  obtain ⟨hnone', y, hread', rfl⟩ := withOption?_eq_some_iff.1 hsecond
  have hne : setting' ≠ setting := by
    rintro rfl
    rw [get?_set_self] at hnone'
    cases hnone'
  rw [get?_set_of_ne hne] at hnone'
  refine ⟨arguments.set setting' y, withOption?_eq_some_iff.2 ⟨hnone', y, hread', rfl⟩,
    withOption?_eq_some_iff.2 ⟨?_, x, hread, (set_comm hne x y).symm⟩⟩
  rw [get?_set_of_ne hne.symm, hnone]

/-- The order of options makes no difference, whether they can be added or not. -/
theorem withOptions?_of_perm {given others : List (Setting × String)} (h : given.Perm others)
    (start : Option Arguments) : withOptions? given start = withOptions? others start := by
  refine h.foldr_eq' (fun first _ second _ found => Option.ext fun last => ?_) start
  simp only [Option.bind_eq_some_iff]
  constructor
  · rintro ⟨between, ⟨arguments, hfound, hfirst⟩, hsecond⟩
    obtain ⟨between', hfirst', hsecond'⟩ := withOption?_swap hfirst hsecond
    exact ⟨between', ⟨arguments, hfound, hfirst'⟩, hsecond'⟩
  · rintro ⟨between, ⟨arguments, hfound, hfirst⟩, hsecond⟩
    obtain ⟨between', hfirst', hsecond'⟩ := withOption?_swap hfirst hsecond
    exact ⟨between', ⟨arguments, hfound, hfirst'⟩, hsecond'⟩

/-- The arguments hold the values of the given options, and of no others. -/
structure Collects (arguments : Arguments) (given : List (Setting × String)) : Prop where
  holds : ∀ option ∈ given, ∃ x, option.1.read? option.2 = some x ∧
    arguments.get? option.1 = some x
  missing : ∀ setting, (∀ option ∈ given, option.1 ≠ setting) → arguments.get? setting = none

/-- Options that are added to arguments without options are what these hold then. -/
theorem collects_of_withOptions? {start : Option Arguments}
    (hstart : ∀ first, start = some first → first.Collects [])
    {given : List (Setting × String)} (h : withOptions? given start = some arguments) :
    arguments.Collects given := by
  induction given generalizing arguments with
  | nil => exact hstart arguments h
  | cons option given ih =>
    obtain ⟨before, hbefore, hadded⟩ := Option.bind_eq_some_iff.1 h
    have hcollects := ih hbefore
    obtain ⟨hnone, x, hread, rfl⟩ := withOption?_eq_some_iff.1 hadded
    -- The setting is not among those of the other options, since they have values already.
    refine ⟨fun other hother => ?_, fun setting hmissing => ?_⟩
    · rcases List.mem_cons.1 hother with rfl | hother
      · exact ⟨x, hread, get?_set_self x⟩
      · obtain ⟨y, hread', hget⟩ := hcollects.holds other hother
        have hne : other.1 ≠ option.1 := by
          intro heq
          rw [← heq, hget] at hnone
          cases hnone
        exact ⟨y, hread', (get?_set_of_ne hne x).trans hget⟩
    · rw [get?_set_of_ne (hmissing option List.mem_cons_self).symm]
      exact hcollects.missing setting fun other hother =>
        hmissing other (List.mem_cons_of_mem option hother)

-- ════════════════════════════════════════════════════════════════════════
-- Connections
-- ════════════════════════════════════════════════════════════════════════

/-- Where a setting can be settled, a missing option is replaced by what the variable says, as long
    as that can be read, and else by the default. -/
theorem eq_of_settle? {α : Type} {given : Option α} {environment : Environment}
    {variableName : String} {read : String → Option α} {default x : α}
    (h : settle? given environment variableName read default = some x) :
    x = given.getD (((environment.text? variableName).bind read).getD default) := by
  unfold settle? at h
  split at h
  · exact (Option.some.inj h).symm
  · next hbytes =>
    rw [Environment.text?, hbytes]
    exact (Option.some.inj h).symm
  · rw [h]
    rfl

/-- A setting of a connection has the value of its option if there is one, and otherwise the value
    that the environment alone describes. -/
theorem get_of_config? {environment : Environment} {config : ClusterConfig}
    (h : arguments.config? environment = some config) (setting : Setting) :
    config.get setting =
      (arguments.get? setting).getD ((ClusterConfig.ofEnvironment environment).get setting) := by
  simp only [config?, Option.bind_eq_bind, Option.bind_eq_some_iff] at h
  obtain ⟨clusterUrl, hurl, bearerToken, htoken, namespaceName, hnamespace, timeoutSeconds,
    htimeout, hconfig⟩ := h
  obtain rfl := Option.some.inj hconfig
  have hany : ∀ text : Option String, text.bind some = text := Option.bind_fun_some
  cases setting with
  | clusterUrl => exact (eq_of_settle? hurl).trans (by rw [hany]; rfl)
  | bearerToken => exact (eq_of_settle? htoken).trans (by rw [hany]; rfl)
  | namespaceName => exact (eq_of_settle? hnamespace).trans (by rw [hany]; rfl)
  | timeoutSeconds => exact eq_of_settle? htimeout

end Arguments

end LinkCatalog
