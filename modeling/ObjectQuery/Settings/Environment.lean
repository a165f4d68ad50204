import ObjectQuery.Settings.Document
import ObjectQuery.Text.Blank
import ObjectQuery.Text.Case

/-!
# Settings in the environment

Variables of the environment come before documents. Each of them sets one of the settings.
-/

namespace ObjectQuery

/-- The variables that are set, with their values. -/
abbrev Environment := String → Option String

namespace Settings

/-- The unsigned number of 64 bits that a text spells in decimal digits, with blanks around it and a
plus sign in front if need be. -/
def readCount? (text : String) : Option UInt64 :=
  let digits :=
    match (Text.trim text).toList with
    | '+' :: cs => cs
    | cs => cs
  if digits.isEmpty || !digits.all Char.isDigit then none
  else unsigned? (Json.digitsValue digits)

/-- Whether a text says yes. -/
def saysYes (text : String) : Bool :=
  ["true", "1", "yes"].contains (Text.lowerCase text)

/-- The settings with those that the environment has in their place. A tolerance that is no number
is passed over. -/
def withEnvironment (s : Settings) (env : Environment) : Settings :=
  ⟨((env "OBJSTORE_PLATFORM").map fun t => Text.lowerCase (Text.trim t)).getD s.platform,
    ((env "OBJSTORE_OFFSET_TOLERANCE").bind readCount?).getD s.offsetTolerance,
    ((env "OBJSTORE_DEBUG").map saysYes).getD s.debug,
    (env "OBJSTORE_LOG_LEVEL").getD s.logLevel⟩

/-- The settings of the environment alone. -/
def ofEnvironment (env : Environment) : Settings :=
  standard.withEnvironment env

/-- The settings of a file and, before it, of the environment. -/
def ofFileWithEnvironment (format : SettingsFormat) (path : String) (content : Option String)
    (env : Environment) : Except Failure Settings :=
  (ofFile format path content).map fun s => s.withEnvironment env

end Settings

end ObjectQuery
