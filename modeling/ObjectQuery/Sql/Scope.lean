import ObjectQuery.Platform
import ObjectQuery.Query.Basic
import ObjectQuery.Sql.Statement

/-!
# Scopes

The names that a statement can use: the aliases a query gives, and for each of its sources the table
that holds a field. In a scope an expression becomes an SQL term.
-/

namespace ObjectQuery.Sql

/-- Where the columns of a source are. -/
inductive Place where
  /-- One table for each component of a class type, with its alias. -/
  | tables (type : ClassType) (parts : List (PersistentClass × String))
  /-- The output of a statement. -/
  | derived (aliasName : String)

/-- What a statement is compiled with: the model and platform, and the names of one query. -/
structure Scope where
  model : Model
  platform : Platform
  query : NodeId
  aliases : List (NodeId × String)
  /-- The sources, the latest first. -/
  places : List (NodeId × Place)

namespace Scope

/-- The scope of a query before its sources are entered. -/
def ofQuery (m : Model) (p : Platform) (q : Query) : Scope :=
  ⟨m, p, q.id, q.aliases, []⟩

/-- The alias of a source or a selected class. -/
def aliasOf (s : Scope) (n : NodeId) : Except Failure String :=
  match s.aliases.lookup n with
  | some a => .ok a
  | none => .error (.misuse (.noAlias n s.query))

/-- The identity column of an alias. -/
def identityColumn (aliasName : String) : Term :=
  .column ⟨aliasName, Field.identityName⟩

/-- The identity of the objects of a class. -/
def identity (s : Scope) (c : ClassNode) : Except Failure Term :=
  return identityColumn (← s.aliasOf c.id)

/-- The alias of the table that holds a field of a source: of a class, the table of the first
component that has the field. -/
def tableOf (s : Scope) (n : NodeId) (field : String) : Except Failure String :=
  match s.places.lookup n with
  | none => .error (.misuse (.notASource n s.query))
  | some (.derived aliasName) => .ok aliasName
  | some (.tables type parts) =>
    match parts.find? fun (c, _) => c.hasField field with
    | some (_, aliasName) => .ok aliasName
    | none => .error (.fieldNotInModel type.text field)

/-- The column that a field of a source is read from. An attribute of a selected class is appended
to the alias of the class. -/
def column (s : Scope) (c : Column) : Except Failure ColumnRef :=
  return ⟨← s.tableOf c.source c.name,
    Naming.sqlName c.name ++ (c.second.map Naming.sqlName).getD ""⟩

/-- The term of an expression. -/
def term (s : Scope) : Expr → Except Failure Term
  | .column c => return .column (← s.column c)
  | .arithmetic op l r => return .arithmetic op (← s.term l) (← s.term r)
  | .suffix b p => return .suffix (← s.term b) (← s.term p)
  | .substring b p n => return .substring (← s.term b) (← s.term p) (← s.term n)
  | .indexOf h n => return .indexOf (← s.term h) (← s.term n)
  | .aggregate .count _ => return .countRows
  | .aggregate op e => return .aggregate op (← s.term e)
  | .bareAggregate .count => return .countRows
  | .bareAggregate op => .error (.misuse (.operandMissing op))
  | .value v => return .literal (← s.platform.literal v)
  | .cast e t => return .cast (← s.term e) (s.platform.columnType t)

/-- The term of a node: the identity of an object, else the expression. -/
def nodeTerm (s : Scope) : Node → Except Failure Term
  | .object c => s.identity c
  | .expr e => s.term e

/-- The identity of what a relationship or an object is compared with. -/
def targetTerm (s : Scope) : ObjectTarget → Except Failure Term
  | .node c => s.identity c
  | .stored o => return .literal (toString (← o.storedId).toInt)

end Scope

/-- The sources of a statement with what they bring into scope. -/
structure Entered where
  items : List FromItem
  joins : List Condition
  places : List (NodeId × Place)

namespace Entered

/-- No source. -/
def none : Entered :=
  ⟨[], [], []⟩

/-- The sources of both, in order. -/
def append (a b : Entered) : Entered :=
  ⟨a.items ++ b.items, a.joins ++ b.joins, b.places ++ a.places⟩

/-- The alias of a component table: the alias of the source, numbered from the second one on. -/
def partAlias (base : String) (i : Nat) : String :=
  if i = 0 then base else base ++ "_" ++ toString i

/-- The component tables of a class with their aliases. -/
def parts (base : String) (components : List PersistentClass) : List (PersistentClass × String) :=
  components.zipIdx.map fun (c, i) => (c, partAlias base i)

/-- Each table is joined with the one before it. -/
def joinsOf : List String → List Condition
  | a :: b :: rest =>
    .compare (Scope.identityColumn a) .equals (Scope.identityColumn b) :: joinsOf (b :: rest)
  | _ => []

/-- A class as a source: one table for each component of its type. -/
def ofClass (s : Scope) (c : ClassNode) : Except Failure Entered := do
  let base ← s.aliasOf c.id
  let ps := parts base (← s.model.components c.type)
  return ⟨ps.map fun (k, aliasName) => .table k.table aliasName, joinsOf (ps.map Prod.snd),
    [(c.id, .tables c.type ps)]⟩

/-- A statement as a source. -/
def ofStatement (n : NodeId) (s : Statement) (aliasName : String) : Entered :=
  ⟨[.derived s aliasName], [], [(n, .derived aliasName)]⟩

end Entered

end ObjectQuery.Sql
