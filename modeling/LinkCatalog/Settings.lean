/-!
# Settings

The environment of a process, and the settings of the service that it can override.

## Main definitions

- `Environment` — variables and their bytes
- `Settings` — cache policy, and whether link types may be changed
- `Settings.ofEnvironment` — the defaults with overrides
-/

namespace LinkCatalog

/-- The variables of a process; values are bytes. -/
abbrev Environment := List (String × List UInt8)

namespace Environment

/-- The bytes of a variable, if it is set. -/
def bytes? (environment : Environment) (name : String) : Option (List UInt8) :=
  environment.lookup name

/-- The text of a variable, if it is set and its bytes are UTF-8. -/
def text? (environment : Environment) (name : String) : Option String :=
  (environment.bytes? name).bind fun bytes => String.fromUTF8? ⟨bytes.toArray⟩

end Environment

/-- The settings of the service. -/
structure Settings where
  /-- The cache policy of lists. -/
  listCacheControl : String := "private,max-age=2"
  /-- The cache policy of single link types. -/
  singleCacheControl : String := "private,max-age=2"
  /-- Whether link types may be created, updated and deleted. -/
  mutationsEnabled : Bool := false
deriving DecidableEq, Repr

namespace Settings

/-- Reads `true` or `false`. -/
def bool? : String → Option Bool
  | "true" => some true
  | "false" => some false
  | _ => none

/-- The default settings, overridden by variables. A variable that cannot be read has no effect. -/
def ofEnvironment (environment : Environment) : Settings :=
  let defaults : Settings := {}
  { listCacheControl :=
      (environment.text? "WIT_CACHE_CONTROL_LINK_TYPES").getD defaults.listCacheControl
    singleCacheControl :=
      (environment.text? "WIT_CACHE_CONTROL_LINK_TYPE").getD defaults.singleCacheControl
    mutationsEnabled :=
      ((environment.text? "WIT_LINK_TYPE_MUTATIONS").bind bool?).getD defaults.mutationsEnabled }

end Settings

end LinkCatalog
