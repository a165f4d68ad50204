import ObjectQuery.Data.SortedMap
import ObjectQuery.Failure
import ObjectQuery.Model.Field

/-!
# Models

A model is a set of persistent classes that fit together: every class they mention is among them,
no class is its own ancestor, and both ends of a relationship are relationships. Building a model
gives every class the fields it declares and inherits.
-/

namespace ObjectQuery

/-- A class as it is declared. -/
structure ClassDecl where
  name : String
  superclasses : List String
  fields : List Field
deriving DecidableEq

/-- A class of a model, with the fields that it declares or inherits. -/
structure PersistentClass where
  decl : ClassDecl
  allFields : List Field
deriving DecidableEq

namespace PersistentClass

/-- The name of the class. -/
def name (c : PersistentClass) : String :=
  c.decl.name

/-- The table of the class. -/
def table (c : PersistentClass) : String :=
  Naming.tableName c.name

/-- The field of that name, declared or inherited. -/
def field? (c : PersistentClass) (name : String) : Option Field :=
  Field.find? c.allFields name

/-- Whether the class declares or inherits a field of that name. -/
def hasField (c : PersistentClass) (name : String) : Bool :=
  (c.field? name).isSome

/-- Whether the class itself declares a field of that name. -/
def declares (c : PersistentClass) (name : String) : Bool :=
  c.decl.fields.any (·.name == name)

end PersistentClass

/-- A consistent set of persistent classes. -/
structure Model where
  id : ModelId
  name : String
  classes : SortedMap String PersistentClass

namespace Model

/-- The declarations by name; no name may be declared twice. -/
def byName (decls : List ClassDecl) : Except ModelDefect (SortedMap String ClassDecl) :=
  decls.foldlM (fun m d =>
    if m.contains d.name then .error (.repeatedClass d.name) else .ok (m.insert d.name d)) .empty

/-- Every superclass has to be declared. -/
def checkSuperclasses (classes : SortedMap String ClassDecl) : Except ModelDefect Unit :=
  classes.values.forM fun d => d.superclasses.forM fun sup =>
    if classes.contains sup then .ok () else .error (.unknownSuperclass d.name sup)

/-- The fields of the classes resolved so far. -/
abbrev Resolved := List (String × List Field)

/-- The fields a class inherits, in the order of its superclasses, with its own put over them. -/
def ownOver (inherited own : List Field) : List Field :=
  Field.withIdentity (own.foldl (fun fs f => f.put fs) inherited)

/-- The fields that a class declares or inherits, along at most `depth` steps of inheritance. The
classes in `below` are being resolved; a class is resolved once. -/
def resolve (classes : SortedMap String ClassDecl) :
    Nat → List String → Resolved → String → Except ModelDefect (List Field × Resolved)
  | 0, _, _, name => .error (.inheritanceCycle name)
  | depth + 1, below, resolved, name =>
    match resolved.lookup name with
    | some fields => .ok (fields, resolved)
    | none =>
      if below.contains name then .error (.inheritanceCycle name)
      else
        match classes.get? name with
        | none => .error (.unknownClass name)
        | some d => do
          let (inherited, resolved) ← d.superclasses.foldlM (fun (acc, resolved) sup => do
            let (fields, resolved) ← resolve classes depth (name :: below) resolved sup
            return (fields.foldl Field.addNew acc, resolved)) ([], resolved)
          let fields := ownOver inherited d.fields
          return (fields, (name, fields) :: resolved)

/-- Every declared class with its fields. -/
def resolveAll (classes : SortedMap String ClassDecl) :
    Except ModelDefect (SortedMap String PersistentClass) := do
  let (resolved, _) ← classes.entries.foldlM (fun (acc, resolved) (name, d) => do
    let (fields, resolved) ← resolve classes (classes.size + 1) [] resolved name
    return (acc.insert name ⟨d, fields⟩, resolved))
    ((SortedMap.empty : SortedMap String PersistentClass), ([] : Resolved))
  return resolved

/-- The class of that name. -/
def class? (m : Model) (name : String) : Option PersistentClass :=
  m.classes.get? name

/-- The field at the other end of a relationship. -/
def reverseField? (m : Model) (f : Field) : Option Field := do
  let target ← m.class? (← f.target?)
  target.field? (← f.reverse?)

/-- The class that a relationship points at and the reverse it names have to exist. -/
def checkField (m : Model) (owner : String) (f : Field) : Except ModelDefect Unit :=
  match f.target? with
  | none => .ok ()
  | some target =>
    if m.classes.contains target then
      match f.reverse? with
      | none => .ok ()
      | some reverse =>
        if (m.reverseField? f).any (·.isRelationship) then .ok ()
        else .error (.badReverse owner f.name target reverse)
    else .error (.unknownTarget owner f.name target)

/-- Checks every declared relationship. -/
def checkRelationships (m : Model) : Except ModelDefect Unit :=
  m.classes.values.forM fun c => c.decl.fields.forM (m.checkField c.name)

/-- The model of the declared classes. -/
def build (id : ModelId) (name : String) (decls : List ClassDecl) : Except ModelDefect Model := do
  let classes ← byName decls
  checkSuperclasses classes
  let model : Model := ⟨id, name, ← resolveAll classes⟩
  model.checkRelationships
  return model

end Model

end ObjectQuery
