import QueryByName.Config.Settings
import QueryByName.Text.Trim
import QueryByName.Unicode.Alphabetic
import QueryByName.Unicode.Numeric

/-!
# Settings that cannot be used

Some settings can be written but not used.  They are replaced when settings become
preferences, and each replacement has a warning.
-/

namespace QueryByName.Config

open QueryByName.Finder (Preferences standardAlias)
open QueryByName.Unicode (isAlphabetic isNumeric)

def beginsIdentifier (character : Char) : Bool :=
  isAlphabetic character || character == '_' || character == '$'

def continuesIdentifier (character : Char) : Bool :=
  isAlphabetic character || isNumeric character || character == '_' || character == '$'

def isIdentifierText : List Char → Bool
  | [] => false
  | first :: rest => beginsIdentifier first && rest.all continuesIdentifier

def isIdentifier (text : String) : Bool :=
  isIdentifierText text.toList

/-- A setting that is replaced when it is used, under its path in the document. -/
structure Warning where
  path : String
  message : String
deriving DecidableEq

def Warning.display (warning : Warning) : String :=
  warning.path ++ ": " ++ warning.message

namespace FinderSettings

/-- The warning about a depth of zero. -/
def depthWarnings (settings : FinderSettings) : List Warning :=
  if settings.depth = 0 then [⟨"finder.depth", "must be at least 1; using 1"⟩] else []

/-- The warning about an alias that is no identifier. -/
def aliasWarnings (settings : FinderSettings) : List Warning :=
  if isIdentifier settings.entityAlias then []
  else
    [⟨"finder.alias",
      "`" ++ settings.entityAlias ++ "` is not a valid JPQL identifier; using `" ++ standardAlias
        ++ "`"⟩]

/-- The warnings about blank names among those to exclude, counted from a number. -/
def blankWarnings : Nat → List String → List Warning
  | _, [] => []
  | index, name :: rest =>
    let further := blankWarnings (index + 1) rest
    if Text.isBlank name then
      ⟨"finder.exclude[" ++ toString index ++ "]", "empty field name is ignored"⟩ :: further
    else
      further

/-- The names to exclude that are not blank, trimmed, in increasing order. -/
def exclusions (settings : FinderSettings) : List String :=
  Ordered.ofList compare ((settings.exclude.map Text.trimmed).filter (· != ""))

/-- The preferences that the settings come to, with usable values throughout. -/
def preferences (settings : FinderSettings) : Preferences where
  depth := max settings.depth 1
  entityAlias := if isIdentifier settings.entityAlias then settings.entityAlias else standardAlias
  countQueries := settings.countQueries
  exclusions := settings.exclusions

end FinderSettings

def Settings.warnings (settings : Settings) : List Warning :=
  settings.finder.depthWarnings ++ settings.finder.aliasWarnings
    ++ FinderSettings.blankWarnings 0 settings.finder.exclude

end QueryByName.Config
