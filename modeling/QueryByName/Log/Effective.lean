import QueryByName.Config.Settings
import QueryByName.Log.Directive

/-!
# The filter in effect

The level in the settings is a plain level in any case of letters, or a row of directives.
The environment may add directives, which override those of the settings target by target.
-/

namespace QueryByName.Log

open QueryByName.Config (standardLevel)

/-- The plain levels that settings may name in any case, each with its proper name. -/
def plainLevels : List (String × String) :=
  [("trace", "trace"), ("debug", "debug"), ("info", "info"), ("warn", "warn"),
    ("warning", "warn"), ("error", "error")]

/-- The directives that the level in the settings stands for. -/
def normalized (level : String) : String :=
  let text := Text.trimmed level
  if text = "" then standardLevel
  else
    let lower := String.ofList (text.toList.map Char.toLower)
    match plainLevels.find? (·.1 == lower) with
    | some (_, proper) => proper
    | none => text

def fallback : Filter :=
  [⟨none, .info⟩]

/-! Whatever the texts of filters look like, the one in effect is found by reading them. -/

section Reading

variable (parse? : String → Option Filter)

def settingsFilter (level : String) : Filter :=
  (parse? (normalized level)).getD fallback

/-- The filter of the settings and the environment together.  If the two texts do not form a
filter, that of the environment alone is tried, and then that of the settings. -/
def combinedFilter (level environment : String) : Filter :=
  match parse? (normalized level ++ "," ++ environment) with
  | some filter => filter
  | none => (parse? environment).getD (settingsFilter parse? level)

/-- The filter in effect, given the level in the settings and what the environment says, if it
says anything. -/
def filterInEffect (level : String) (environment : Option String) : Filter :=
  match environment with
  | none => settingsFilter parse? level
  | some text =>
    if Text.isBlank text then settingsFilter parse? level
    else combinedFilter parse? level (Text.trimmed text)

end Reading

def effectiveFilter : String → Option String → Filter :=
  filterInEffect Filter.parse?

end QueryByName.Log
