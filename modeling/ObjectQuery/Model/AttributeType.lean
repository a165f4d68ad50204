/-!
# Attribute types

The logical types of attributes, which also name the targets of casts.
-/

namespace ObjectQuery

/-- The logical type of an attribute. -/
inductive AttributeType where
  | boolean
  | short
  /-- Object identities have this type. -/
  | integer
  | long
  | float
  | double
  | bigDecimal
  | string
  /-- A point in time, stored as milliseconds. -/
  | date
deriving DecidableEq

namespace AttributeType

/-- The types in their order. -/
def all : List AttributeType :=
  [.boolean, .short, .integer, .long, .float, .double, .bigDecimal, .string, .date]

/-- The name of the type. -/
def name : AttributeType → String
  | .boolean => "boolean"
  | .short => "short"
  | .integer => "integer"
  | .long => "long"
  | .float => "float"
  | .double => "double"
  | .bigDecimal => "big_decimal"
  | .string => "string"
  | .date => "date"

/-- The type of that name. -/
def ofName? (s : String) : Option AttributeType :=
  all.find? (·.name == s)

/-- Whether values of the type are numbers. -/
def isNumeric : AttributeType → Bool
  | .boolean | .string | .date => false
  | _ => true

/-- Whether values of the type are integers. -/
def isIntegral : AttributeType → Bool
  | .short | .integer | .long => true
  | _ => false

/-- Reading a name undoes writing it. -/
@[simp] theorem ofName?_name (t : AttributeType) : ofName? t.name = some t := by
  cases t <;> decide

end AttributeType

end ObjectQuery
