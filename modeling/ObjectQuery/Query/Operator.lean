/-!
# Operators

The operators of conditions and expressions, with their SQL spelling.
-/

namespace ObjectQuery

/-- How the members of a group of conditions combine. -/
inductive GroupOp where
  /-- All members hold. -/
  | and
  /-- At least one member holds. -/
  | or
  /-- Not all members hold. -/
  | nand
  /-- No member holds. -/
  | nor
deriving DecidableEq

namespace GroupOp

/-- The operators in their order. -/
def all : List GroupOp :=
  [.and, .or, .nand, .nor]

/-- The name of the operator. -/
def text : GroupOp → String
  | .and => "AND"
  | .or => "OR"
  | .nand => "NAND"
  | .nor => "NOR"

/-- Whether the members are joined by `OR`. -/
def isDisjunctive : GroupOp → Bool
  | .or | .nor => true
  | .and | .nand => false

/-- Whether the joined members are negated. -/
def isNegated : GroupOp → Bool
  | .nand | .nor => true
  | .and | .or => false

end GroupOp

/-- A comparison of two expressions. -/
inductive Comparison where
  | equals
  | notEquals
  | less
  | lessOrEqual
  | greater
  | greaterOrEqual
  | like
  | notLike
deriving DecidableEq

namespace Comparison

/-- The operators in their order. -/
def all : List Comparison :=
  [.equals, .notEquals, .less, .lessOrEqual, .greater, .greaterOrEqual, .like, .notLike]

/-- The SQL spelling. -/
def text : Comparison → String
  | .equals => "="
  | .notEquals => "!="
  | .less => "<"
  | .lessOrEqual => "<="
  | .greater => ">"
  | .greaterOrEqual => ">="
  | .like => "LIKE"
  | .notLike => "NOT LIKE"

end Comparison

/-- A test for null. -/
inductive NullTest where
  | isNull
  | isNotNull
deriving DecidableEq

namespace NullTest

/-- The operators in their order. -/
def all : List NullTest :=
  [.isNull, .isNotNull]

/-- The SQL spelling. -/
def text : NullTest → String
  | .isNull => "IS NULL"
  | .isNotNull => "IS NOT NULL"

end NullTest

/-- An operator on expressions: a comparison takes two of them, a null test one. -/
inductive SimpleOp where
  | compare (op : Comparison)
  | null (op : NullTest)
deriving DecidableEq

namespace SimpleOp

/-- The operators in their order. -/
def all : List SimpleOp :=
  Comparison.all.map .compare ++ NullTest.all.map .null

/-- The SQL spelling. -/
def text : SimpleOp → String
  | .compare op => op.text
  | .null op => op.text

/-- Whether the operator takes one operand. -/
def isUnary : SimpleOp → Bool
  | .compare _ => false
  | .null _ => true

end SimpleOp

/-- Membership in a list of values or in the rows of a query. -/
inductive Membership where
  | isIn
  | notIn
deriving DecidableEq

namespace Membership

/-- The operators in their order. -/
def all : List Membership :=
  [.isIn, .notIn]

/-- The SQL spelling. -/
def text : Membership → String
  | .isIn => "IN"
  | .notIn => "NOT IN"

end Membership

/-- Identity of two objects. -/
inductive IdentityOp where
  | same
  | different
deriving DecidableEq

namespace IdentityOp

/-- The operators in their order. -/
def all : List IdentityOp :=
  [.same, .different]

/-- The comparison of the two identities. -/
def comparison : IdentityOp → Comparison
  | .same => .equals
  | .different => .notEquals

/-- The SQL spelling. -/
def text (op : IdentityOp) : String :=
  op.comparison.text

end IdentityOp

/-- Whether a relationship holds an object. -/
inductive Containment where
  | contains
  | doesNotContain
deriving DecidableEq

namespace Containment

/-- The operators in their order. -/
def all : List Containment :=
  [.contains, .doesNotContain]

/-- The name of the operator. -/
def text : Containment → String
  | .contains => "CONTAINS"
  | .doesNotContain => "DOES NOT CONTAIN"

/-- The comparison that stands for it on a single foreign key. -/
def comparison : Containment → Comparison
  | .contains => .equals
  | .doesNotContain => .notEquals

end Containment

/-- An operator on a relationship: containment takes a target, a null test takes none. -/
inductive ContainsOp where
  | holds (op : Containment)
  | null (op : NullTest)
deriving DecidableEq

namespace ContainsOp

/-- The operators in their order. -/
def all : List ContainsOp :=
  Containment.all.map .holds ++ NullTest.all.map .null

/-- The name of the operator. -/
def text : ContainsOp → String
  | .holds op => op.text
  | .null op => op.text

end ContainsOp

/-- Arithmetic on two expressions. -/
inductive Arithmetic where
  | add
  | subtract
  | multiply
  | divide
deriving DecidableEq

namespace Arithmetic

/-- The operators in their order. -/
def all : List Arithmetic :=
  [.add, .subtract, .multiply, .divide]

/-- The SQL spelling. -/
def text : Arithmetic → String
  | .add => "+"
  | .subtract => "-"
  | .multiply => "*"
  | .divide => "/"

end Arithmetic

/-- A function of the rows of a group. -/
inductive Aggregate where
  | count
  | sum
  | average
  | min
  | max
deriving DecidableEq

namespace Aggregate

/-- The functions in their order. -/
def all : List Aggregate :=
  [.count, .sum, .average, .min, .max]

/-- The SQL name. -/
def text : Aggregate → String
  | .count => "COUNT"
  | .sum => "SUM"
  | .average => "AVG"
  | .min => "MIN"
  | .max => "MAX"

end Aggregate

end ObjectQuery
