import LinkCatalog.Cluster.Config

/-!
# Arguments of the command line

Options come first, each at most once; then the name of a task and its operand. The value of an
option is the next argument, or follows an equals sign in the same one. An option wins over the
variable for the same setting, and a variable over the default.

## Main definitions

- `Task` — what can be asked for
- `Arguments` — the options that are given, and the task
- `Arguments.parse?` — reads the arguments
- `Arguments.config?` — the connection that options and environment describe
-/

namespace LinkCatalog

/-- What can be asked for; both are about the deployment config with the given name. -/
inductive Task where
  /-- The replication controller of the latest deployment. -/
  | latestController (deploymentName : String)
  /-- The version of the latest deployment. -/
  | latestVersion (deploymentName : String)
deriving DecidableEq, Repr

/-- The settings that have options. -/
inductive Setting where
  | clusterUrl
  | bearerToken
  | namespaceName
  | timeoutSeconds
deriving DecidableEq, Repr

namespace Setting

/-- The name of an option, after two hyphens. -/
def optionName : Setting → String
  | .clusterUrl => "cluster-url"
  | .bearerToken => "bearer-token"
  | .namespaceName => "namespace"
  | .timeoutSeconds => "timeout-secs"

/-- All settings. -/
def all : List Setting :=
  [.clusterUrl, .bearerToken, .namespaceName, .timeoutSeconds]

/-- The setting whose option has the given name. -/
def ofOptionName? (name : List Char) : Option Setting :=
  all.find? fun setting => setting.optionName.toList == name

end Setting

/-- What an argument in front of the task means. -/
inductive Word where
  /-- An option with its value. -/
  | option (setting : Setting) (value : String)
  /-- An option whose value is the next argument. -/
  | optionName (setting : Setting)
  /-- The name of a task, which has an operand. -/
  | task (ofOperand : String → Task)

/-- The value behind the short name of an option; it may follow an equals sign. -/
def Word.attachedValue : List Char → String
  | '=' :: value => String.ofList value
  | value => String.ofList value

/-- The meaning of an argument in front of the task. -/
def Word.ofText? (text : String) : Option Word :=
  match text.toList with
  | '-' :: '-' :: rest => do
    let setting ← Setting.ofOptionName? (rest.takeWhile (· != '='))
    match rest.dropWhile (· != '=') with
    | '=' :: value => return .option setting (String.ofList value)
    | _ => return .optionName setting
  | ['-', 'n'] => some (.optionName .namespaceName)
  | '-' :: 'n' :: value => some (.option .namespaceName (attachedValue value))
  | _ =>
    if text = "latest-rc" then some (.task .latestController)
    else if text = "latest-version" then some (.task .latestVersion)
    else none

/-- Whether an argument cannot be taken for an option. -/
def isOperand (text : String) : Bool :=
  text == "-" || text.toList.head? != some '-'

/-- The operand of a task. Two hyphens say that no option follows. -/
def operand? : List String → Option String
  | ["--", operand] => some operand
  | [operand] | [operand, "--"] => if isOperand operand then some operand else none
  | _ => none

/-- The options that are given, and the task. -/
structure Arguments where
  clusterUrl : Option String := none
  bearerToken : Option String := none
  namespaceName : Option String := none
  timeoutSeconds : Option Nat := none
  task : Task
deriving DecidableEq, Repr

namespace Arguments

/-- The arguments with one more option, which must not be there already. -/
def withOption? (arguments : Arguments) (setting : Setting) (value : String) : Option Arguments :=
  match setting with
  | .clusterUrl =>
    if arguments.clusterUrl.isSome then none else some { arguments with clusterUrl := some value }
  | .bearerToken =>
    if arguments.bearerToken.isSome then none else some { arguments with bearerToken := some value }
  | .namespaceName =>
    if arguments.namespaceName.isSome then none
    else some { arguments with namespaceName := some value }
  | .timeoutSeconds =>
    if arguments.timeoutSeconds.isSome then none
    else (ClusterConfig.seconds? value).map fun n => { arguments with timeoutSeconds := some n }

/-- Reads the arguments. -/
def parse? : List String → Option Arguments
  | first :: next :: rest =>
    match Word.ofText? first with
    | some (.option setting value) =>
      (parse? (next :: rest)).bind fun arguments => arguments.withOption? setting value
    | some (.optionName setting) =>
      if isOperand next then
        (parse? rest).bind fun arguments => arguments.withOption? setting next
      else none
    | some (.task ofOperand) =>
      (operand? (next :: rest)).map fun operand => { task := ofOperand operand }
    | none => none
  | _ => none

/-- The value of a setting: that of its option, else that of its variable, which must be readable
    then, else the default. -/
def settle? (given : Option α) (environment : Environment) (variableName : String)
    (read : String → Option α) (default : α) : Option α :=
  match given, environment.bytes? variableName with
  | some value, _ => some value
  | none, none => some default
  | none, some _ => (environment.text? variableName).bind read

/-- The connection that the options describe, and the environment where an option is missing. -/
def config? (arguments : Arguments) (environment : Environment) : Option ClusterConfig := do
  let defaults : ClusterConfig := {}
  let clusterUrl ← settle? arguments.clusterUrl environment ClusterConfig.clusterUrlVariable
    some defaults.clusterUrl
  let bearerToken ← settle? arguments.bearerToken environment ClusterConfig.bearerTokenVariable
    some defaults.bearerToken
  let namespaceName ← settle? arguments.namespaceName environment ClusterConfig.namespaceVariable
    some defaults.namespaceName
  let timeoutSeconds ← settle? arguments.timeoutSeconds environment ClusterConfig.timeoutVariable
    ClusterConfig.seconds? defaults.timeoutSeconds
  return { clusterUrl, bearerToken, namespaceName, timeoutSeconds }

end Arguments

end LinkCatalog
