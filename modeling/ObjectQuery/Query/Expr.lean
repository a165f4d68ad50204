import ObjectQuery.Model.Lookup
import ObjectQuery.Value

/-!
# Expressions

The nodes of a query: the classes it reads from and the expressions over the columns of its sources,
with the attribute type an expression has.
-/

namespace ObjectQuery

/-- A class that a query reads objects from. -/
structure ClassNode where
  id : NodeId
  type : ClassType

namespace ClassNode

/-- Two nodes are the same if one is a copy of the other. -/
instance : BEq ClassNode :=
  ⟨fun a b => decide (a.id = b.id)⟩

/-- A source for the objects of a type; the model has to have its classes. -/
def ofType (id : NodeId) (m : Model) (t : ClassType) : Except Failure ClassNode := do
  discard (m.components t)
  return ⟨id, t⟩

end ClassNode

/-- A column of a source. -/
structure Column where
  source : NodeId
  /-- Whether the source is a query. -/
  ofQuery : Bool
  /-- A field, or the alias of a selected item if the source is a query. -/
  name : String
  /-- A field of a selected class. -/
  second : Option String
  type : AttributeType
deriving DecidableEq

namespace Column

/-- The attribute of that name of a class. -/
def ofClass (c : ClassNode) (field : String) (m : Model) : Except Failure Column := do
  match ((← m.fields c.type).get? field).bind Field.type? with
  | some type => return ⟨c.id, false, field, none, type⟩
  | none => .error (.fieldNotInModel c.type.text field)

/-- The identity of a class. -/
def identityOf (c : ClassNode) : Column :=
  ⟨c.id, false, Field.identityName, none, .integer⟩

end Column

/-- An expression over the columns of the sources of a query. -/
inductive Expr where
  | column (c : Column)
  | arithmetic (op : Arithmetic) (left right : Expr)
  /-- The text from a position on. -/
  | suffix (base start : Expr)
  /-- The text of a length from a position on. -/
  | substring (base start length : Expr)
  /-- The position of one text in another. -/
  | indexOf (haystack needle : Expr)
  | aggregate (op : Aggregate) (operand : Expr)
  /-- An aggregate without an operand, which makes sense for counting alone. -/
  | bareAggregate (op : Aggregate)
  | value (v : Value)
  | cast (inner : Expr) (target : AttributeType)

namespace Expr

/-- Equality of expressions, with values compared as values. -/
def same : Expr → Expr → Bool
  | .column c, .column d => decide (c = d)
  | .arithmetic op l r, .arithmetic op' l' r' => decide (op = op') && same l l' && same r r'
  | .suffix b s, .suffix b' s' => same b b' && same s s'
  | .substring b s n, .substring b' s' n' => same b b' && same s s' && same n n'
  | .indexOf h n, .indexOf h' n' => same h h' && same n n'
  | .aggregate op e, .aggregate op' e' => decide (op = op') && same e e'
  | .bareAggregate op, .bareAggregate op' => decide (op = op')
  | .value v, .value w => v.same w
  | .cast e t, .cast e' t' => decide (t = t') && same e e'
  | _, _ => false

instance : BEq Expr :=
  ⟨same⟩

/-- The number of rows. -/
def count : Expr :=
  .bareAggregate .count

/-- An aggregate of an expression; counting does without it. -/
def aggregated : Aggregate → Expr → Expr
  | .count, _ => count
  | op, e => .aggregate op e

/-- Whether the expression is a literal. -/
def isValue : Expr → Bool
  | .value _ => true
  | _ => false

/-- The type of an aggregate over operands of a type. -/
def aggregateType? : Aggregate → Option AttributeType → Option AttributeType
  | .count, _ => some .long
  | .average, _ => some .bigDecimal
  | .sum, t => t.map fun t => if t.isIntegral then .long else t
  | .min, t => t
  | .max, t => t

/-- The type of the expression, if it is known. -/
def type? : Expr → Option AttributeType
  | .column c => some c.type
  | .arithmetic _ left _ => left.type?
  | .suffix .. => some .string
  | .substring .. => some .string
  | .indexOf .. => some .integer
  | .aggregate op e => aggregateType? op e.type?
  | .bareAggregate op => aggregateType? op none
  | .value v => v.attributeType?
  | .cast _ t => some t

/-- The column of the expression, if it is one. -/
def column? : Expr → Option Column
  | .column c => some c
  | _ => none

end Expr

/-- What a query selects, groups or orders by: whole objects or an expression. -/
inductive Node where
  | object (c : ClassNode)
  | expr (e : Expr)

namespace Node

/-- Equality of nodes. -/
def same : Node → Node → Bool
  | .object c, .object d => c == d
  | .expr e, .expr f => e == f
  | _, _ => false

instance : BEq Node :=
  ⟨same⟩

/-- Whether the node is a literal. -/
def isValue : Node → Bool
  | .object _ => false
  | .expr e => e.isValue

end Node

end ObjectQuery
