import ObjectQuery.Model.AttributeType
import ObjectQuery.Model.ClassType
import ObjectQuery.Number.Shortest
import ObjectQuery.Time.Text

/-!
# Values

The literal values of queries: scalars, points in time, stored objects and ready-made SQL, with
their plain text and the attribute types they can be compared with.
-/

namespace ObjectQuery

/-- An object by its type and its identity, which it lacks until it is stored. -/
structure StoredObject where
  type : ClassType
  id : Option Int64
deriving DecidableEq

namespace StoredObject

/-- The identity of an object that was stored. -/
def storedId (o : StoredObject) : Except Failure Int64 :=
  match o.id with
  | some id => .ok id
  | none => .error (.objectWithoutId o.type.text)

/-- The type of an object and its identity. -/
def text (o : StoredObject) : String :=
  o.type.text ++ ":" ++
    match o.id with
    | some id => toString id.toInt
    | none => "<unsaved>"

end StoredObject

/-- A literal value. -/
inductive Value where
  | null
  | bool (b : Bool)
  | int (n : Int64)
  | float (x : Binary64)
  | string (s : String)
  | date (d : Date)
  /-- A day and time taken as universal time. -/
  | dateTime (t : DateTime)
  /-- A universal time. -/
  | universalTime (t : DateTime)
  | object (o : StoredObject)
  /-- Text that is SQL already. -/
  | sql (text : String)
deriving DecidableEq

namespace Value

/-- Equality of values, where numbers are compared as numbers: a NaN differs from itself. -/
def same : Value → Value → Bool
  | .float x, .float y => x.numEq y
  | a, b => decide (a = b)

instance : BEq Value :=
  ⟨same⟩

/-- Whether the value is null. -/
def isNull : Value → Bool
  | .null => true
  | _ => false

/-- The text of a double that is not finite. -/
def nonFiniteText (x : Binary64) : String :=
  if x.isNaN then "NaN" else if x.isNegative then "-inf" else "inf"

/-- The plain text of the value. -/
def text : Value → String
  | .null => "NULL"
  | .bool b => if b then "true" else "false"
  | .int n => toString n.toInt
  | .float x => if x.isFinite then FloatFormat.plain.render x else nonFiniteText x
  | .string s => s
  | .date d => d.text
  | .dateTime t => t.text ' '
  | .universalTime t => t.text ' ' ++ " UTC"
  | .object o => o.text
  | .sql s => s

/-- The type that an attribute with this value has; null, objects and SQL have none. -/
def attributeType? : Value → Option AttributeType
  | .bool _ => some .boolean
  | .int _ => some .long
  | .float _ => some .double
  | .string _ => some .string
  | .date _ | .dateTime _ | .universalTime _ => some .date
  | .null | .object _ | .sql _ => none

/-- The milliseconds from 1970-01-01T00:00:00 to a point in time; a day starts at midnight. -/
def epochMillis? : Value → Option Int
  | .date d => some (DateTime.epochMillis ⟨d, .midnight⟩)
  | .dateTime t => some t.epochMillis
  | .universalTime t => some t.epochMillis
  | _ => none

end Value

namespace AttributeType

/-- Whether values can be compared with an attribute of the type: integers with every integral type
and doubles with every other numeric one, SQL with all types, null and objects with none. -/
def accepts (t : AttributeType) : Value → Bool
  | .null | .object _ => false
  | .sql _ => true
  | .bool _ => t == .boolean
  | .int _ => t.isIntegral
  | .float _ => t == .float || t == .double || t == .bigDecimal
  | .string _ => t == .string
  | .date _ | .dateTime _ | .universalTime _ => t == .date

end AttributeType

end ObjectQuery
