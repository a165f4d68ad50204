import ObjectQuery.Sql.Scope

/-!
# Conditions without queries in them

The conditions of comparisons, relationships and bags of values. A relationship kept in a link table
adds the table to the sources of the statement, under an alias of its own.
-/

namespace ObjectQuery.Sql

namespace Condition

/-- A conjunction or its negation. -/
def both (negated : Bool) (a b : Condition) : Condition :=
  .group false negated [a, b]

end Condition

/-- What is asked of a relationship. -/
inductive RelationshipTest where
  | holds (op : Containment) (target : ObjectTarget)
  | null (op : NullTest)

namespace Scope

/-- The comparison of two expressions. -/
def comparison (s : Scope) (left : Expr) (op : Comparison) (right : Expr) :
    Except Failure Condition :=
  return .compare (← s.term left) op (← s.term right)

/-- The relationship of that name of the owner, in the model at hand. -/
def relationship (s : Scope) (r : Reference) : Except Failure (Field × Relation) := do
  match ((← s.model.fields r.owner.type).get? r.field).filter Field.isRelationship with
  | none => .error (.fieldNotInModel r.owner.type.text r.field)
  | some f =>
    match s.model.relation? f with
    | some relation => return (f, relation)
    | none => .error (.misuse (.unreachable "attributes were filtered out above"))

/-- The column of a reference. -/
def foreignKey (role : String) (f : Field) : Except Failure String :=
  match f.column? with
  | some column => .ok column
  | none => .error (.misuse (.unreachable (role ++ " " ++ f.name ++ " has a column")))

/-- A test of a reference looks at the foreign key of the owner. -/
def testReference (s : Scope) (r : Reference) (f : Field) (test : RelationshipTest) :
    Except Failure Condition := do
  let table ← s.tableOf r.owner.id f.name
  let key : Term := .column ⟨table, ← foreignKey "reference" f⟩
  match test with
  | .holds op target => return .compare key op.comparison (← s.targetTerm target)
  | .null op => return .nullTest key op

/-- A test of a collection without a link table compares the owner with the foreign key of the
element, which is the reference at the other end. -/
def testForeignKey (s : Scope) (r : Reference) (f : Field) (test : RelationshipTest) :
    Except Failure Condition := do
  match test with
  | .holds op (.node target) =>
    match s.model.reverseField? f with
    | some reverse =>
      let column ← foreignKey "reverse reference" reverse
      let table ← s.tableOf target.id reverse.name
      return .compare (← s.identity r.owner) op.comparison (.column ⟨table, column⟩)
    | none =>
      .error (.misuse (.unreachable ("one-to-many collection " ++ f.name ++ " has a reverse")))
  | _ => .error (.misuse (.classNeeded f.name))

/-- The link table of a collection, as the class that declares it has it. -/
def linkTable (s : Scope) (r : Reference) (f : Field) : Except Failure LinkTable := do
  let components ← s.model.components r.owner.type
  match components.findSome? fun c => s.model.declaringClass? c f.name with
  | none => .error (.fieldNotInModel r.owner.type.text f.name)
  | some declaring =>
    match f.linkTable? declaring.name with
    | some link => return link
    | none => .error (.misuse (.unreachable (f.name ++ " is a collection")))

/-- The alias of a link table. -/
def linkAlias (i : Nat) : String :=
  "indirect" ++ toString i

/-- A test of a collection with a link table joins the table with the owner and the target, where
`links` are the link tables of the statement so far. -/
def testLink (s : Scope) (r : Reference) (f : Field) (links : List FromItem)
    (test : RelationshipTest) : Except Failure (Condition × List FromItem) := do
  match test with
  | .null _ => .error (.misuse (.nullTestOfCollection f.name))
  | .holds op target =>
    let target ← s.targetTerm target
    let link ← s.linkTable r f
    let aliasName := linkAlias links.length
    let owner ← s.identity r.owner
    let condition := Condition.both (op == .doesNotContain)
      (.compare owner .equals (.column ⟨aliasName, link.inward⟩))
      (.compare (.column ⟨aliasName, link.outward⟩) .equals target)
    return (condition, links ++ [.table link.table aliasName])

/-- A test of a relationship. -/
def testRelationship (s : Scope) (r : Reference) (links : List FromItem)
    (test : RelationshipTest) : Except Failure (Condition × List FromItem) := do
  let (f, relation) ← s.relationship r
  match relation with
  | .toOne => return (← s.testReference r f test, links)
  | .oneToMany => return (← s.testForeignKey r f test, links)
  | .manyToMany => s.testLink r f links test

/-- Whether a value can be compared with a node: an object with the objects of a type it is
assignable to, else a value that the type of the expression accepts. -/
def comparable (m : Model) (n : Node) (v : Value) : Bool :=
  match n, v with
  | .object c, .object o => m.isAssignable o.type c.type
  | .object _, _ => false
  | .expr e, v =>
    match e.type?, v with
    | some t, v => t.accepts v
    | none, .null => false
    | none, .object _ => false
    | none, _ => true

/-- The comparisons of a term with values, in the order of their text and each once. -/
def members (s : Scope) (left : Term) (values : List Value) :
    Except Failure (SortedMap String Condition) :=
  values.foldlM (fun members v => do
    let c : Condition := .compare left .equals (.literal (← s.platform.literal v))
    return members.insert c.text c) .empty

/-- Membership in a bag: equality with one of the values that can be compared with the node. -/
def bag (s : Scope) (n : Node) (op : Membership) (values : List Value) :
    Except Failure Condition := do
  let left ← s.nodeTerm n
  let members ← s.members left (values.filter (comparable s.model n))
  if members.entries.isEmpty then return .constant (op == .notIn)
  else return .group true (op == .notIn) members.values

end Scope

end ObjectQuery.Sql
