import ObjectQuery.Toml.Document

/-!
# TOML documents as JSON documents

Both have the same values, but for dates and times, which become strings, and doubles that are not
finite, which become null.
-/

namespace ObjectQuery.Toml

/-- The key that, as the first of a table, makes the table stand for a date or time: the one that
the value of the key spells. -/
def dateKey : String :=
  "$__toml_private_datetime"

namespace Item

/-- A double; null stands for one that is not finite. -/
def floatJson (x : Binary64) : Json :=
  if x.isFinite then .number (.float x) else .null

/-- The date or time that a string spells. -/
def spelledDate? : Item → Option Json
  | .string s =>
    match readDateOrTime s.toList with
    | some (text, []) => some (.string (String.ofList text))
    | _ => none
  | _ => none

mutual

/-- The item as a JSON document. -/
def toJson? : Item → Option Json
  | .string s => some (.string s)
  | .integer n => some (.number (.integer n))
  | .float x => some (floatJson x)
  | .bool b => some (.bool b)
  | .dateTime s => some (.string s)
  | .array items => (itemsJson? items).map .array
  | .inline _ entries => tableJson? entries
  | .table _ entries => tableJson? entries
  | .tables elements => (tablesJson? elements).map .array

/-- The items of an array as JSON documents. -/
def itemsJson? : List Item → Option (List Json)
  | [] => some []
  | i :: is => do return (← toJson? i) :: (← itemsJson? is)

/-- A table as an object. -/
def tableJson? : List (String × Item) → Option Json
  | [] => some (.object [])
  | (k, i) :: es =>
    if k = dateKey then i.spelledDate?
    else do return .object ((k, ← toJson? i) :: (← entriesJson? es))

/-- The entries of a table as the members of an object. -/
def entriesJson? : List (String × Item) → Option (List (String × Json))
  | [] => some []
  | (k, i) :: es => do return (k, ← toJson? i) :: (← entriesJson? es)

/-- Tables as objects. -/
def tablesJson? : List (List (String × Item)) → Option (List Json)
  | [] => some []
  | es :: rest => do return (← tableJson? es) :: (← tablesJson? rest)

end

end Item

/-- The document a text spells, as a JSON document. -/
def ofText? (text : String) : Option Json := do
  Item.tableJson? (← read? text)

end ObjectQuery.Toml
