import ObjectQuery.Query.Expr

/-!
# Queries

A query has sources, a list of what it selects, a condition, and lists of what it groups and orders
by. A source may be a query itself, and a condition may ask for membership in the rows of a query.
-/

namespace ObjectQuery

/-- A relationship of a class that a query reads from. -/
structure Reference where
  owner : ClassNode
  field : String
  relation : Relation

namespace Reference

/-- The relationship of that name of a class. -/
def ofClass (c : ClassNode) (field : String) (m : Model) : Except Failure Reference := do
  match ((← m.fields c.type).get? field).bind m.relation? with
  | some relation => return ⟨c, field, relation⟩
  | none => .error (.fieldNotInModel c.type.text field)

/-- Whether the relationship is with many objects. -/
def isCollection (r : Reference) : Bool :=
  r.relation != .toOne

end Reference

/-- An object to compare with: one of a source, or a stored one. -/
inductive ObjectTarget where
  | node (c : ClassNode)
  | stored (o : StoredObject)

/-- An item of a select list and the alias it is selected under. -/
structure SelectItem where
  node : Node
  aliasName : String

mutual

/-- Where a query reads rows from. -/
inductive Source where
  | object (c : ClassNode)
  | query (q : Query)

/-- A condition on the rows of a query. -/
inductive Constraint where
  | group (op : GroupOp) (members : List Constraint)
  | compare (left : Expr) (op : Comparison) (right : Expr)
  | nullTest (e : Expr) (op : NullTest)
  | memberOf (left : Node) (op : Membership) (q : Query)
  | identity (left : ClassNode) (op : IdentityOp) (right : ObjectTarget)
  | contains (reference : Reference) (op : Containment) (target : ObjectTarget)
  | referenceNull (reference : Reference) (op : NullTest)
  | bag (node : Node) (op : Membership) (values : List Value)

/-- A query over the objects of a model. -/
structure Query where
  id : NodeId
  sources : List Source
  /-- The aliases given to sources and selected classes, the latest first. -/
  aliases : List (NodeId × String)
  select : List SelectItem
  constraint : Option Constraint
  groupBy : List Node
  orderBy : List Node
  distinct : Bool
  /-- How many aliases were made up. -/
  aliasCount : Nat

end

namespace Source

/-- The identity of the class node or the query. -/
def id : Source → NodeId
  | .object c => c.id
  | .query q => q.id

end Source

namespace Constraint

/-- The condition `left op right`. -/
def binary (left : Expr) (op : SimpleOp) (right : Expr) : Except Failure Constraint :=
  match op with
  | .compare op => .ok (.compare left op right)
  | .null op => .error (.misuse (.rightOperandGiven op))

/-- The condition `e op`. -/
def unary (e : Expr) (op : SimpleOp) : Except Failure Constraint :=
  match op with
  | .null op => .ok (.nullTest e op)
  | .compare op => .error (.misuse (.rightOperandMissing op))

/-- Whether a relationship holds the target. Which elements a collection kept in their foreign keys
holds can only be asked of a class. -/
def holds (r : Reference) (op : ContainsOp) (target : ObjectTarget) : Except Failure Constraint :=
  match op, r.relation, target with
  | .null op, _, _ => .error (.misuse (.targetGiven op))
  | .holds _, .oneToMany, .stored _ => .error (.misuse (.objectInCollection r.field))
  | .holds op, _, _ => .ok (.contains r op target)

/-- Whether a reference is null. -/
def nullCheck (r : Reference) (op : ContainsOp) : Except Failure Constraint :=
  match op with
  | .holds op => .error (.misuse (.targetMissing op))
  | .null op =>
    if r.isCollection then .error (.misuse (.nullTestOfCollection r.field))
    else .ok (.referenceNull r op)

end Constraint

namespace Query

/-- A query with nothing in it. -/
def empty (id : NodeId) : Query :=
  { id, sources := [], aliases := [], select := [], constraint := none, groupBy := [],
    orderBy := [], distinct := false, aliasCount := 0 }

/-- The same query under a new identity. -/
def copy (q : Query) (id : NodeId) : Query :=
  { q with id }

/-- The alias of a source or a selected class. -/
def alias? (q : Query) (n : NodeId) : Option String :=
  q.aliases.lookup n

/-- Whether a node is selected. -/
def selects (q : Query) (n : Node) : Bool :=
  q.select.any (·.node == n)

/-- The alias made up next. -/
def nextAlias (q : Query) : String :=
  "a" ++ toString (q.aliasCount + 1) ++ "_"

/-- Counts one more alias as made up. -/
def countAlias (q : Query) : Query :=
  { q with aliasCount := q.aliasCount + 1 }

/-- Gives a source or a selected class an alias. -/
def setAlias (q : Query) (n : NodeId) (aliasName : String) : Query :=
  { q with aliases := (n, aliasName) :: q.aliases }

/-- Adds a source under an alias. -/
def addSourceAs (q : Query) (s : Source) (aliasName : String) : Query :=
  { q.setAlias s.id aliasName with sources := q.sources ++ [s] }

/-- Adds a source under an alias made up for it. -/
def addSource (q : Query) (s : Source) : Query :=
  q.countAlias.addSourceAs s q.nextAlias

/-- Appends an item to the select list. -/
def addItem (q : Query) (n : Node) (aliasName : String) : Query :=
  { q with select := q.select ++ [⟨n, aliasName⟩] }

/-- Selects a node: a class under the alias it has, all else under an alias made up for it. -/
def addSelect (q : Query) (n : Node) : Query :=
  match n with
  | .object c =>
    match q.alias? c.id with
    | some aliasName => q.addItem n aliasName
    | none => (q.countAlias.setAlias c.id q.nextAlias).addItem n q.nextAlias
  | .expr _ => q.countAlias.addItem n q.nextAlias

/-- Selects a node under an alias, which a class takes as its own. -/
def addSelectAs (q : Query) (n : Node) (aliasName : String) : Query :=
  match n with
  | .object c => (q.setAlias c.id aliasName).addItem n aliasName
  | .expr _ => q.addItem n aliasName

/-- Replaces the condition. -/
def setConstraint (q : Query) (c : Constraint) : Query :=
  { q with constraint := some c }

/-- Removes the condition. -/
def clearConstraint (q : Query) : Query :=
  { q with constraint := none }

/-- Appends to what the rows are grouped by. -/
def addGroupBy (q : Query) (n : Node) : Query :=
  { q with groupBy := q.groupBy ++ [n] }

/-- Appends to what the rows are ordered by. -/
def addOrderBy (q : Query) (n : Node) : Query :=
  { q with orderBy := q.orderBy ++ [n] }

/-- Sets whether repeated rows are dropped. -/
def setDistinct (q : Query) (distinct : Bool) : Query :=
  { q with distinct }

end Query

namespace Column

/-- How a column of a query is called when it does not exist. -/
def queryColumnName (aliasName : String) (second : Option String) : String :=
  match second with
  | none => aliasName
  | some field => aliasName ++ "." ++ field

/-- A column of a query: a selected expression, or an attribute of a selected class. -/
def ofQueryItem (q : Query) (aliasName : String) (second : Option String) (m : Model) :
    Except Failure Column := do
  let missing : Failure := .fieldNotInModel "subquery" (queryColumnName aliasName second)
  match q.select.find? (·.aliasName == aliasName) with
  | none => .error missing
  | some item =>
    match item.node, second with
    | .expr e, none => return ⟨q.id, true, aliasName, none, e.type?.getD .string⟩
    | .object c, some field =>
      match ((← m.fields c.type).get? field).bind Field.type? with
      | some type => return ⟨q.id, true, aliasName, some field, type⟩
      | none => .error missing
    | _, _ => .error missing

end Column

end ObjectQuery
