import Mathlib
import ObjectQuery.Proofs.Sql.Tokens

/-!
# What a condition means

The truth of the condition of a query where the truth of every test is given, read off the query
itself: the operators of groups are conjunction, disjunction and their negations, a bag is the
disjunction of equalities with its values, and a link table is there for two joins at once.
-/

namespace ObjectQuery

/-- The truth of a group with members of those truths. -/
def GroupOp.truth : GroupOp → List Sql.Truth → Sql.Truth
  | .and, truths => .all truths
  | .or, truths => .any truths
  | .nand, truths => (Sql.Truth.all truths).not
  | .nor, truths => (Sql.Truth.any truths).not

/-- The truth of a membership test, given that of membership. -/
def Membership.truth : Membership → Sql.Truth → Sql.Truth
  | .isIn, member => member
  | .notIn, member => member.not

/-- The truth of a containment test, given that of containment. -/
def Containment.truth : Containment → Sql.Truth → Sql.Truth
  | .contains, held => held
  | .doesNotContain, held => held.not

namespace Sql

/-- The equality of two terms. -/
def Condition.equality (left right : Term) : Condition :=
  .compare left .equals right

section Truth

variable (s : Scope) (val : String → Truth)

/-- The truth of a membership test in a bag: equality with one of the values that can be compared
with the node. -/
def Scope.bagTruth (n : Node) (op : Membership) (values : List Value) : Except Failure Truth := do
  let left ← s.nodeTerm n
  let literals ← (values.filter (Scope.comparable s.model n)).mapM s.platform.literal
  return op.truth (.any (literals.map fun l => val (Condition.equality left (.literal l)).text))

/-- The truth of a test of a relationship behind a number of link tables, and how many link tables
there are then. A link table has the next alias and is joined with the owner and the target. -/
def Scope.relationshipTruth (links : Nat) (r : Reference) (test : RelationshipTest) :
    Except Failure (Truth × Nat) := do
  let (f, relation) ← s.relationship r
  match relation, test with
  | .toOne, test => return (val (← s.testReference r f test).text, links)
  | .oneToMany, test => return (val (← s.testForeignKey r f test).text, links)
  | .manyToMany, .null _ => .error (.misuse (.nullTestOfCollection f.name))
  | .manyToMany, .holds op target => do
    let target ← s.targetTerm target
    let link ← s.linkTable r f
    let owner ← s.identity r.owner
    let aliasName := Scope.linkAlias links
    let inward := Condition.equality owner (.column ⟨aliasName, link.inward⟩)
    let outward := Condition.equality (.column ⟨aliasName, link.outward⟩) target
    return (op.truth ((val inward.text).and (val outward.text)), links + 1)

mutual

/-- The truth of a constraint behind a number of link tables, and how many there are then. -/
def Scope.truth (links : Nat) : Constraint → Except Failure (Truth × Nat)
  | .group op members => do
    let (truths, links) ← Scope.truths links members
    return (op.truth truths, links)
  | .compare left op right => do
    return (val (Condition.compare (← s.term left) op (← s.term right)).text, links)
  | .nullTest e op => do
    return (val (Condition.nullTest (← s.term e) op).text, links)
  | .memberOf left op q => do
    let left ← s.nodeTerm left
    let rows ← (compile s.model s.platform .identities none q).outcome
    return (val (Condition.memberOf left op rows).text, links)
  | .identity left op right => do
    let left ← s.identity left
    return (val (Condition.compare left op.comparison (← s.targetTerm right)).text, links)
  | .contains r op target => s.relationshipTruth val links r (.holds op target)
  | .referenceNull r op => s.relationshipTruth val links r (.null op)
  | .bag n op values => do
    return (← s.bagTruth val n op values, links)
termination_by structural c => c

/-- The truths of the members of a group, in order. -/
def Scope.truths (links : Nat) : List Constraint → Except Failure (List Truth × Nat)
  | [] => return ([], links)
  | c :: cs => do
    let (first, links) ← Scope.truth links c
    let (rest, links) ← Scope.truths links cs
    return (first :: rest, links)
termination_by structural cs => cs

end

/-- The truth of the joins of a source: the tables of the components of a class have the same
identity, each as the one before it. -/
def Scope.joinTruth : Source → Except Failure Truth
  | .query _ => return .true
  | .object c => do
    let base ← s.aliasOf c.id
    let components ← s.model.components c.type
    let join (i : Nat) : Condition := .equality
      (Scope.identityColumn (Entered.partAlias base i))
      (Scope.identityColumn (Entered.partAlias base (i + 1)))
    return .all ((List.range (components.length - 1)).map fun i => val (join i).text)

/-- The truth of the joins of all sources. -/
def Scope.joinsTruth (sources : List Source) : Except Failure Truth := do
  return .all (← sources.mapM (Scope.joinTruth s val))

/-- The truth of the start of a query: its key is greater than the value. -/
def Seek.truth : Option Seek → Except Failure Truth
  | none => return .true
  | some seek => do
    let value ← s.platform.literal seek.value
    return val (Condition.compare (← s.term seek.key) .greater (.literal value)).text

/-- The truth of the condition of a query, where it has one. -/
def Scope.rootTruth : Option Constraint → Except Failure Truth
  | none => return .true
  | some c => return (← s.truth val 0 c).1

end Truth

/-- The truth of all that a query asks of its rows: of the joins of its sources, its condition and
the start it seeks. -/
def rowTruth (m : Model) (p : Platform) (seek : Option Seek) (q : Query) (val : String → Truth) :
    Except Failure Truth := do
  let entered ← (enter (.ofQuery m p q) q.sources).outcome
  let s := (Scope.ofQuery m p q).enteredWith entered
  let joins ← s.joinsTruth val q.sources
  let root ← s.rootTruth val q.constraint
  let start ← Seek.truth s val seek
  return .all [joins, root, start]

end Sql

end ObjectQuery
