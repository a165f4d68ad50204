import ObjectQuery.Model.Json
import ObjectQuery.Value

/-!
# Values in JSON

A value is written as the name of its kind and its content. Reading takes the two in any order; a
content that comes first has to be in order as a whole.
-/

namespace ObjectQuery

open Json (Record Written)

namespace StoredObject

/-- The class type and the identity. -/
def toJson (o : StoredObject) : Json :=
  .object [("class_type", o.type.toJson),
    ("id", (o.id.map fun id => Json.number (.integer id.toInt)).getD .null)]

/-- Reads the class type and the identity, which may be missing. -/
def ofWritten? (w : Written) : Option StoredObject := do
  let r ← Record.read? ["class_type", "id"] 2 w
  some ⟨← r.required? "class_type" ClassType.ofWritten?, ← r.optional? "id" Written.int64?⟩

/-- Reads the object a JSON text spells. -/
def ofJsonText? (text : String) : Option StoredObject := do
  ofWritten? (← Json.read? text)

end StoredObject

namespace Value

/-- The name of the kind of a value. -/
def kind : Value → String
  | .null => "Null"
  | .bool _ => "Bool"
  | .int _ => "Int"
  | .float _ => "Float"
  | .string _ => "String"
  | .date _ => "Date"
  | .dateTime _ => "DateTime"
  | .universalTime _ => "DateTimeTz"
  | .object _ => "Object"
  | .sql _ => "Unknown"

/-- The content of a value; null has none. -/
def content? : Value → Option Json
  | .null => none
  | .bool b => some (.bool b)
  | .int n => some (.number (.integer n.toInt))
  | .float x => some (.number (.float x))
  | .string s => some (.string s)
  | .date d => some (.string d.text)
  | .dateTime t => some (.string (t.text 'T'))
  | .universalTime t => some (.string (t.text 'T' ++ "Z"))
  | .object o => some o.toJson
  | .sql s => some (.string s)

/-- The kind and the content. -/
def toJson (v : Value) : Json :=
  .object (("type", .string v.kind) :: (v.content?.map fun c => ("value", c)).toList)

/-- Reads the value of a kind from its content. -/
def ofContent? (kind : String) (w : Written) : Option Value :=
  match kind with
  | "Null" =>
    match w with
    | .null => some .null
    | _ => none
  | "Bool" => w.bool?.map .bool
  | "Int" => w.int64?.map .int
  | "Float" => w.float?.map .float
  | "String" => w.text?.map .string
  | "Date" => (w.text?.bind TimeText.date?).map .date
  | "DateTime" => (w.text?.bind TimeText.dateTime?).map .dateTime
  | "DateTimeTz" => (w.text?.bind TimeText.universalTime?).map .universalTime
  | "Object" => (StoredObject.ofWritten? w).map .object
  | "Unknown" => w.text?.map .sql
  | _ => none

/-- Reads the value of a kind without content. -/
def ofKind? : String → Option Value
  | "Null" => some .null
  | _ => none

/-- The members that tell kind and content, in their order; absent if a name is no text. -/
def relevant? (members : List (Option String × Written)) : Option (List (String × Written)) := do
  let members ← members.mapM fun (k, w) => k.map fun k => (k, w)
  some (members.filter fun m => m.1 == "type" || m.1 == "value")

/-- Reads a value. -/
def ofWritten? : Written → Option Value
  | .object members => do
    match ← relevant? members with
    | [("type", kind)] => ofKind? (← kind.choice?)
    | [("type", kind), ("value", content)] => ofContent? (← kind.choice?) content
    | [("value", content), ("type", kind)] =>
      guard (content.within? (Json.depthLimit - 1)).isSome
      ofContent? (← kind.choice?) content
    | _ => none
  | .array [kind, content] => do ofContent? (← kind.text?) content
  | _ => none

/-- Reads the value a JSON text spells. -/
def ofJsonText? (text : String) : Option Value := do
  ofWritten? (← Json.read? text)

end Value

end ObjectQuery
