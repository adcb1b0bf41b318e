import MarkdownPages.Files.Fault
import MarkdownPages.Files.Path

/-!
# Why settings are refused

## Main definitions

* `SettingsProblem` — settings that can be read but are not acceptable
* `SettingsError`, `SettingsError.message` — every reason, and how it is told
-/

namespace MarkdownPages

/-- Why readable settings are not acceptable. -/
inductive SettingsProblem where
  /-- The setting is empty. -/
  | empty (field : String)
  | notAName (field value : String)
  | noRoots
  | outputIsRoot
deriving DecidableEq, Repr

/-- Why settings are refused. -/
inductive SettingsError where
  | fileNotFound (path : Path)
  | unreadable (fault : Fault)
  /-- The text does not state settings. -/
  | notSettings
  | invalid (problem : SettingsProblem)
  /-- A variable without a value stands in a setting. -/
  | unsetVariable (field name : String)
deriving DecidableEq, Repr

namespace SettingsProblem

/-- How a problem is told. -/
def message : SettingsProblem → String
  | empty field => field ++ " cannot be empty"
  | notAName field value =>
    field ++ " must be a dotted name of identifiers, got '" ++ value ++ "'"
  | noRoots => "markdown.roots must list at least one directory"
  | outputIsRoot => "markdown.output_dir must not be one of the markdown roots"

end SettingsProblem

namespace SettingsError

/-- How the refusal is told. What a reader of the settings notation has to say is not part of
it. -/
def message : SettingsError → String
  | fileNotFound path => "Configuration file not found: " ++ path.text.shown
  | unreadable fault => "I/O error: " ++ fault.message
  | notSettings => "TOML parse error: "
  | invalid problem => "Configuration error: " ++ problem.message
  | unsetVariable field name =>
    "Environment variable error in " ++ field ++ ": $\x7b" ++ name ++ "\x7d not set"

end SettingsError

end MarkdownPages
