import ObjectQuery.Failure
import ObjectQuery.Json.Canonical
import ObjectQuery.Settings.Basic
import ObjectQuery.Toml.Json

/-!
# Settings in documents

A document is a table of settings. What it names replaces what holds otherwise, each setting on its
own, and whatever else it holds is passed over.
-/

namespace ObjectQuery

namespace SettingsFormat

/-- The document a text spells. -/
def read? : SettingsFormat → String → Option Json
  | .toml => Toml.ofText?
  | .json => Json.ofText?

end SettingsFormat

namespace Settings

/-- A document that is a string. -/
def text? : Json → Option String
  | .string s => some s
  | _ => none

/-- A document that is a boolean. -/
def switch? : Json → Option Bool
  | .bool b => some b
  | _ => none

/-- A document that is an unsigned integer of 64 bits. -/
def count? : Json → Option UInt64
  | .number (.integer n) => unsigned? n
  | _ => none

/-- The value that a table gives a key, or `otherwise` if it has none; of a key that is repeated,
the last value counts. Absent if the value is not of the right kind. -/
def member? {α : Type} (members : List (String × Json)) (key : String) (read : Json → Option α)
    (otherwise : α) : Option α :=
  match members.reverse.lookup key with
  | none => some otherwise
  | some value => read value

/-- The settings with those that a table names in their place. -/
def layer? (s : Settings) (members : List (String × Json)) : Option Settings := do
  some ⟨← member? members "platform" text? s.platform,
    ← member? members "offset_tolerance" count? s.offsetTolerance,
    ← member? members "debug" switch? s.debug,
    ← member? members "log_level" text? s.logLevel⟩

/-- The settings of a document. -/
def ofDocument (format : SettingsFormat) : Json → Except Failure Settings
  | .object members =>
    match standard.layer? members with
    | some s => .ok s
    | none => .error (.settings (.mistyped format))
  | found => .error (.settings (.notTable format found.canonical.render))

/-- The settings of the document a text spells. -/
def ofText (format : SettingsFormat) (text : String) : Except Failure Settings :=
  match format.read? text with
  | some document => ofDocument format document
  | none => .error (.settings (.malformed format))

/-- The settings of a file; its content is absent if it cannot be read. -/
def ofFile (format : SettingsFormat) (path : String) (content : Option String) :
    Except Failure Settings :=
  match content with
  | some text => ofText format text
  | none => .error (.settings (.unreadable format path))

end Settings

end ObjectQuery
