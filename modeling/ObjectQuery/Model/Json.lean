import ObjectQuery.Json.Record
import ObjectQuery.Json.Writer
import ObjectQuery.Model.Lookup

/-!
# Models in JSON

The JSON form of link tables, fields, classes and models. A field is told by its kind; fields and
superclasses of a class, and the reverse and link table of a field, may be missing.
-/

namespace ObjectQuery

open Json (Record Written)

namespace ClassType

/-- The names in their order. -/
def toJson (t : ClassType) : Json :=
  .array (t.names.map .string)

/-- Reads an array of names, not empty. -/
def ofWritten? (w : Written) : Option ClassType := do
  ofNames? (← w.items? Written.text?)

/-- Reads the type a JSON text spells. -/
def ofJsonText? (text : String) : Option ClassType := do
  ofWritten? (← Json.read? text)

end ClassType

namespace LinkTable

/-- The table and its columns. -/
def toJson (l : LinkTable) : Json :=
  .object [("table", .string l.table), ("inward_column", .string l.inward),
    ("outward_column", .string l.outward)]

/-- Reads the table and its columns. -/
def ofWritten? (w : Written) : Option LinkTable := do
  let r ← Record.read? ["table", "inward_column", "outward_column"] 3 w
  some ⟨← r.required? "table" Written.text?, ← r.required? "inward_column" Written.text?,
    ← r.required? "outward_column" Written.text?⟩

/-- Reads the link table a JSON text spells. -/
def ofJsonText? (text : String) : Option LinkTable := do
  ofWritten? (← Json.read? text)

end LinkTable

namespace Field

/-- The kind of the field and its parts. -/
def toJson : Field → Json
  | .attribute name type =>
    .object [("kind", .string "attribute"), ("name", .string name), ("type", .string type.name)]
  | .reference name target reverse =>
    .object [("kind", .string "reference"), ("name", .string name),
      ("referenced_type", .string target), ("reverse", Json.ofOption reverse)]
  | .collection name target reverse link =>
    .object [("kind", .string "collection"), ("name", .string name),
      ("referenced_type", .string target), ("reverse", Json.ofOption reverse),
      ("indirection", (link.map LinkTable.toJson).getD .null)]

/-- Takes the kind out of a field: the member of that name, or the first item of an array. -/
def splitKind? : Written → Option (String × Written)
  | .object members =>
    match members.partition fun m => m.1 == some "kind" with
    | ([(_, kind)], rest) => kind.text?.map fun kind => (kind, .object rest)
    | _ => none
  | .array (kind :: rest) => kind.text?.map fun kind => (kind, .array rest)
  | _ => none

/-- Reads an attribute. -/
def attribute? (w : Written) : Option Field := do
  let r ← Record.read? ["name", "type"] 2 w
  let name ← r.required? "name" Written.text?
  some (.attribute name (← AttributeType.ofName? (← r.required? "type" Written.looseChoice?)))

/-- Reads a reference. -/
def reference? (w : Written) : Option Field := do
  let r ← Record.read? ["name", "referenced_type", "reverse"] 2 w
  some (.reference (← r.required? "name" Written.text?)
    (← r.required? "referenced_type" Written.text?) (← r.optional? "reverse" Written.text?))

/-- Reads a collection. -/
def collection? (w : Written) : Option Field := do
  let r ← Record.read? ["name", "referenced_type", "reverse", "indirection"] 2 w
  some (.collection (← r.required? "name" Written.text?)
    (← r.required? "referenced_type" Written.text?) (← r.optional? "reverse" Written.text?)
    (← r.optional? "indirection" LinkTable.ofWritten?))

/-- Reads a field of at most `room` levels. All of it has to be in order, known or not. -/
def ofWritten? (room : Nat) (w : Written) : Option Field := do
  guard (w.within? room).isSome
  let (kind, rest) ← splitKind? w
  match kind with
  | "attribute" => attribute? rest
  | "reference" => reference? rest
  | "collection" => collection? rest
  | _ => none

/-- Reads the field a JSON text spells. -/
def ofJsonText? (text : String) : Option Field := do
  ofWritten? Json.depthLimit (← Json.read? text)

end Field

namespace ClassDecl

/-- The name, the superclasses and the fields. -/
def toJson (d : ClassDecl) : Json :=
  .object [("name", .string d.name), ("extends", .array (d.superclasses.map .string)),
    ("fields", .array (d.fields.map Field.toJson))]

/-- Reads a class of at most `room` levels. -/
def ofWritten? (room : Nat) (w : Written) : Option ClassDecl := do
  let r ← Record.read? ["name", "extends", "fields"] 1 w
  some ⟨← r.required? "name" Written.text?, ← r.list? "extends" Written.text?,
    ← r.list? "fields" (Field.ofWritten? (room - 2))⟩

/-- Reads the class a JSON text spells. -/
def ofJsonText? (text : String) : Option ClassDecl := do
  ofWritten? Json.depthLimit (← Json.read? text)

end ClassDecl

/-- A model as it is described: its name and its classes. -/
structure ModelDescription where
  name : String
  classes : List ClassDecl
deriving DecidableEq

namespace ModelDescription

/-- The name and the classes. -/
def toJson (d : ModelDescription) : Json :=
  .object [("name", .string d.name), ("classes", .array (d.classes.map ClassDecl.toJson))]

/-- Reads the name and the classes. -/
def ofWritten? (w : Written) : Option ModelDescription := do
  let r ← Record.read? ["name", "classes"] 2 w
  some ⟨← r.required? "name" Written.text?,
    ← r.required? "classes" (Written.items? (ClassDecl.ofWritten? (Json.depthLimit - 2)))⟩

end ModelDescription

namespace Model

/-- The model of a description. -/
def ofDescription (id : ModelId) (d : ModelDescription) : Except Failure Model :=
  (build id d.name d.classes).mapError .model

/-- The model that a JSON text describes. -/
def ofJsonText (id : ModelId) (text : String) : Except Failure Model :=
  match (Json.read? text).bind ModelDescription.ofWritten? with
  | some d => ofDescription id d
  | none => .error .modelText

end Model

end ObjectQuery
