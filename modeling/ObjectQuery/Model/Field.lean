import ObjectQuery.Model.AttributeType
import ObjectQuery.Model.Naming

/-!
# Fields

The attributes, references and collections that classes declare, and where each is stored: an
attribute and a reference in a column, a collection in a column of its elements or in a link table.
-/

namespace ObjectQuery

/-- A table that links the owners of a collection with its elements. -/
structure LinkTable where
  table : String
  /-- The column with the identity of the owner. -/
  inward : String
  /-- The column with the identity of the element. -/
  outward : String
deriving DecidableEq

/-- A field that a class declares. -/
inductive Field where
  /-- A scalar. -/
  | attribute (name : String) (type : AttributeType)
  /-- A relationship with one object. -/
  | reference (name target : String) (reverse : Option String)
  /-- A relationship with many objects. -/
  | collection (name target : String) (reverse : Option String) (link : Option LinkTable)
deriving DecidableEq

/-- How a relationship is stored. -/
inductive Relation where
  /-- A foreign key of the owner. -/
  | toOne
  /-- A foreign key of each element. -/
  | oneToMany
  /-- A link table. -/
  | manyToMany
deriving DecidableEq

namespace Field

/-- The name of the field. -/
def name : Field → String
  | .attribute name _ => name
  | .reference name .. => name
  | .collection name .. => name

/-- The type of an attribute. -/
def type? : Field → Option AttributeType
  | .attribute _ type => some type
  | _ => none

/-- The class that a relationship points at. -/
def target? : Field → Option String
  | .attribute .. => none
  | .reference _ target _ => some target
  | .collection _ target _ _ => some target

/-- The field at the other end of a relationship, by name. -/
def reverse? : Field → Option String
  | .attribute .. => none
  | .reference _ _ reverse => reverse
  | .collection _ _ reverse _ => reverse

/-- Whether the field is a reference. -/
def isReference : Field → Bool
  | .reference .. => true
  | _ => false

/-- Whether the field is a relationship. -/
def isRelationship (f : Field) : Bool :=
  f.target?.isSome

/-- The column of the field; a collection has none. -/
def column? : Field → Option String
  | .attribute name _ => some (Naming.attributeColumn name)
  | .reference name .. => some (Naming.referenceColumn name)
  | .collection .. => none

/-- The link table with the columns of both ends and the name made of them in lexical order. -/
def linkOf (inward outward : String) : LinkTable :=
  ⟨if inward < outward then inward ++ outward else outward ++ inward, inward, outward⟩

/-- The link table of a collection: the one it names, else one named after both ends. -/
def linkTable? (owner : String) : Field → Option LinkTable
  | .collection name _ reverse link =>
    some (link.getD (linkOf (Naming.linkColumn (reverse.getD (Naming.unqualified owner)))
      (Naming.linkColumn name)))
  | _ => none

/-- Every class has a field of this name, its identity. -/
def identityName : String :=
  "id"

/-- The identity of objects, unless a class declares its own. -/
def identity : Field :=
  .attribute identityName .integer

/-- The first field of that name. -/
def find? (fields : List Field) (name : String) : Option Field :=
  fields.find? (·.name == name)

/-- Appends a field unless there is one of its name. -/
def addNew (fields : List Field) (f : Field) : List Field :=
  if fields.any (·.name == f.name) then fields else fields ++ [f]

/-- Puts a field in the place of the one of its name, else at the end. -/
def put (f : Field) : List Field → List Field
  | [] => [f]
  | g :: gs => if g.name = f.name then f :: gs else g :: put f gs

/-- The fields with an identity among them, in front if it is the implicit one. -/
def withIdentity (fields : List Field) : List Field :=
  if fields.any (·.name == identityName) then fields else identity :: fields

end Field

end ObjectQuery
