import ObjectQuery.Model.Basic
import ObjectQuery.Model.ClassType

/-!
# Looking up classes and fields

What a class type means in a model: its component classes, their fields, the class that declares a
field, and which types are assignable to which.
-/

namespace ObjectQuery.Model

/-- The classes that a type names, in its order. -/
def components (m : Model) (t : ClassType) : Except Failure (List PersistentClass) :=
  t.names.mapM fun name =>
    match m.class? name with
    | some c => .ok c
    | none => .error (.classNotInModel name)

/-- Adds the fields of a class whose names are not taken. -/
def addFields (fields : SortedMap String Field) (c : PersistentClass) : SortedMap String Field :=
  c.allFields.foldl (fun fs f => fs.insertNew f.name f) fields

/-- The fields of a type by name; the first component that has a name provides its field. -/
def fields (m : Model) (t : ClassType) : Except Failure (SortedMap String Field) :=
  return (← m.components t).foldl addFields .empty

/-- Whether one class is another or inherits from it in at most `depth` steps. -/
def isSubclassWithin (m : Model) : Nat → String → String → Bool
  | 0, name, ancestor => name == ancestor
  | depth + 1, name, ancestor =>
    name == ancestor ||
      match m.class? name with
      | some c => c.decl.superclasses.any fun sup => m.isSubclassWithin depth sup ancestor
      | none => false

/-- Whether one class is another or inherits from it. -/
def isSubclass (m : Model) (name ancestor : String) : Bool :=
  m.isSubclassWithin m.classes.size name ancestor

/-- Whether every object of type `sub` is one of type `sup`. -/
def isAssignable (m : Model) (sub sup : ClassType) : Bool :=
  sup.names.all fun wanted => sub.names.any fun name => m.isSubclass name wanted

/-- The class that declares a field, found in at most `depth` steps of inheritance. -/
def declaringWithin? (m : Model) : Nat → PersistentClass → String → Option PersistentClass
  | 0, c, field => if c.declares field then some c else none
  | depth + 1, c, field =>
    if c.declares field then some c
    else (c.decl.superclasses.filterMap m.class?).findSome? fun sup =>
      m.declaringWithin? depth sup field

/-- The class that declares a field: the class itself, else the first found through its
superclasses. -/
def declaringClass? (m : Model) (c : PersistentClass) (field : String) : Option PersistentClass :=
  m.declaringWithin? m.classes.size c field

/-- How a relationship is stored: a collection at whose other end is a reference is kept in the
foreign keys of its elements, every other one in a link table. -/
def relation? (m : Model) (f : Field) : Option Relation :=
  match f with
  | .attribute .. => none
  | .reference .. => some .toOne
  | .collection .. =>
    if (m.reverseField? f).any (·.isReference) then some .oneToMany else some .manyToMany

end ObjectQuery.Model
