import ObjectQuery.Data.SortedMap
import ObjectQuery.Failure

/-!
# Class types

The type of an object: the set of the classes it belongs to, in order and never empty.
-/

namespace ObjectQuery

/-- One or more class names, in strictly ascending order. -/
structure ClassType where
  names : List String
  ascending : Ascending names
  ne_nil : names ≠ []
deriving DecidableEq

namespace ClassType

/-- The type of objects of one class. -/
def single (name : String) : ClassType :=
  ⟨[name], by simp [Ascending], by simp⟩

/-- The type of objects that belong to every class named, if one is. -/
def ofNames? (names : List String) : Option ClassType :=
  if h : Ascending.ofList names ≠ [] then
    some ⟨Ascending.ofList names, Ascending.ascending_ofList names, h⟩
  else none

/-- The type of objects that belong to every class named; one has to be. -/
def ofNames (names : List String) : Except Failure ClassType :=
  match ofNames? names with
  | some t => .ok t
  | none => .error (.misuse .emptyClassType)

/-- Whether more than one class is named. -/
def isComposite (t : ClassType) : Bool :=
  1 < t.names.length

/-- The names with a plus sign between them. -/
def text (t : ClassType) : String :=
  " + ".intercalate t.names

end ClassType

end ObjectQuery
