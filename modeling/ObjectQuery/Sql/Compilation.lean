import ObjectQuery.Sql.Projection
import ObjectQuery.Sql.Relationship

/-!
# Compiling queries

A query becomes one statement: its sources first, then its condition, the condition that starts it
at a later row, its order, its output columns and its grouping. Queries inside it are compiled
where they stand, each in a scope of its own.
-/

namespace ObjectQuery.Sql

/-- Starts a query after the rows whose first key is at most a value. -/
structure Seek where
  key : Expr
  value : Value

namespace Seek

/-- The condition that the key is beyond the value, if there is a start to seek. -/
def conditions (s : Scope) : Option Seek → Except Failure (List Condition)
  | none => return []
  | some seek => return [← s.comparison seek.key .greater (.value seek.value)]

end Seek

namespace GroupOp

/-- A group of conditions; one without members is what its operator makes of no condition. -/
def condition (op : ObjectQuery.GroupOp) (members : List Condition) : Condition :=
  if members.isEmpty then .constant (op.isDisjunctive == op.isNegated)
  else .group op.isDisjunctive op.isNegated members

end GroupOp

/-- Puts together the statement of a query from its sources and conditions. -/
def assemble (s : Scope) (shape : Shape) (q : Query) (entered : Entered)
    (conditions : List Condition) (links : List FromItem) : Except Failure Statement := do
  let order ←
    if shape = .whole then Ordering.ofNodes s q.orderBy q.select links.length
    else pure .none
  let columns ← s.columns shape q.select
  let groupBy ← s.grouping q.groupBy
  return ⟨q.distinct, columns ++ order.columns, entered.items ++ links,
    entered.joins ++ conditions, groupBy, order.terms⟩

mutual

/-- The statement of a query in a shape. -/
def compile (m : Model) (p : Platform) (shape : Shape) (seek : Option Seek) (q : Query) :
    Traced Statement :=
  match q with
  | ⟨id, sources, aliases, select, constraint, groupBy, orderBy, distinct, count⟩ => do
    let q : Query := ⟨id, sources, aliases, select, constraint, groupBy, orderBy, distinct, count⟩
    let start := Scope.ofQuery m p q
    let entered ← enter start sources
    let s := { start with places := entered.places }
    let (conditions, links) ← rootCondition s constraint
    let seekConditions ← Seek.conditions s seek
    let statement ← assemble s shape q entered (conditions ++ seekConditions) links
    Traced.report (.compiled id shape statement.text)
    return statement
termination_by structural q

/-- Enters the sources of a query. -/
def enter (s : Scope) : List Source → Traced Entered
  | [] => return .none
  | source :: sources => do
    let first ← enterSource s source
    return first.append (← enter s sources)
termination_by structural sources => sources

/-- Enters a source. -/
def enterSource (s : Scope) : Source → Traced Entered
  | .object c => Entered.ofClass s c
  | .query q => do
    let aliasName ← s.aliasOf q.id
    return .ofStatement q.id (← compile s.model s.platform .derived none q) aliasName
termination_by structural source => source

/-- The conditions of a query, with the link tables they call for. -/
def rootCondition (s : Scope) : Option Constraint → Traced (List Condition × List FromItem)
  | none => return ([], [])
  | some c => do
    let (condition, links) ← condition s [] c
    return ([condition], links)
termination_by structural c => c

/-- A condition, with the link tables of the statement after those in `links`. -/
def condition (s : Scope) (links : List FromItem) :
    Constraint → Traced (Condition × List FromItem)
  | .group op members => do
    let (members, links) ← memberConditions s links members
    return (GroupOp.condition op members, links)
  | .compare left op right => do
    return (← s.comparison left op right, links)
  | .nullTest e op => do
    return (.nullTest (← s.term e) op, links)
  | .memberOf left op q => do
    let left ← s.nodeTerm left
    return (.memberOf left op (← compile s.model s.platform .identities none q), links)
  | .identity left op right => do
    return (.compare (← s.identity left) op.comparison (← s.targetTerm right), links)
  | .contains r op target => s.testRelationship r links (.holds op target)
  | .referenceNull r op => s.testRelationship r links (.null op)
  | .bag n op values => do
    return (← s.bag n op values, links)
termination_by structural c => c

/-- The conditions of the members of a group, in order. -/
def memberConditions (s : Scope) (links : List FromItem) :
    List Constraint → Traced (List Condition × List FromItem)
  | [] => return ([], links)
  | c :: cs => do
    let (first, links) ← condition s links c
    let (rest, links) ← memberConditions s links cs
    return (first :: rest, links)
termination_by structural cs => cs

end

end ObjectQuery.Sql
