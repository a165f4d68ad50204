import ObjectQuery.Sql.Scope
import ObjectQuery.Trace

/-!
# Output columns, grouping and order

How the select list of a query becomes output columns in each shape, what a statement is grouped by,
and its order. A query is ordered by what it says first and then by what it selects; an expression
that is ordered by but not selected becomes an output column of its own.
-/

namespace ObjectQuery.Sql

namespace Label

/-- A name as it is. -/
def plain (name : String) : Label :=
  ⟨name, false⟩

/-- A name made of an alias and a column, quoted unless the alias is in lower case. -/
def ofAlias (aliasName column : String) : Label :=
  ⟨aliasName ++ column, aliasName != Text.lowerCase aliasName⟩

end Label

namespace Scope

/-- The column of every table that holds the whole object. -/
def objectColumn (aliasName : String) : Term :=
  .column ⟨aliasName, "OBJECT"⟩

/-- The columns of the fields of a type in order, each with a field that is stored in it. -/
def storedColumns (s : Scope) (t : ClassType) : Except Failure (List (String × String)) := do
  let fields ← s.model.fields t
  let columns := fields.values.filterMap fun f => f.column?.map fun column => (column, f.name)
  return (SortedMap.ofList columns).entries

/-- The output columns of a class with all its fields, named if they are to be. -/
def allColumns (s : Scope) (c : ClassNode) (aliasName : String) (named : Bool) :
    Except Failure (List Output) := do
  let label (column : String) : Option Label :=
    if named then some (.ofAlias aliasName column) else none
  let columns ← (← s.storedColumns c.type).mapM fun (column, field) => do
    return (⟨.column ⟨← s.tableOf c.id field, column⟩, label column⟩ : Output)
  return ⟨objectColumn aliasName, label ""⟩ :: columns

/-- The output columns of a class. -/
def classColumns (s : Scope) (shape : Shape) (c : ClassNode) : Except Failure (List Output) := do
  let aliasName ← s.aliasOf c.id
  match shape with
  | .whole =>
    return [⟨objectColumn aliasName, some (.ofAlias aliasName "")⟩,
      ⟨identityColumn aliasName, some (.ofAlias aliasName Field.identityName)⟩]
  | .derived => s.allColumns c aliasName true
  | .identities => return [⟨identityColumn aliasName, none⟩]
  | .columns => s.allColumns c aliasName false

/-- The name that a selected expression gets. -/
def expressionLabel (shape : Shape) (aliasName : String) : Option Label :=
  match shape with
  | .whole => some (.ofAlias aliasName "")
  | .derived => some (.plain aliasName)
  | .identities | .columns => none

/-- The output columns of a selected item. -/
def itemColumns (s : Scope) (shape : Shape) (item : SelectItem) :
    Except Failure (List Output) := do
  match item.node with
  | .object c => s.classColumns shape c
  | .expr e => return [⟨← s.term e, expressionLabel shape item.aliasName⟩]

/-- The output columns of a select list. -/
def columns (s : Scope) (shape : Shape) (items : List SelectItem) :
    Except Failure (List Output) :=
  return (← items.mapM (s.itemColumns shape)).flatten

/-- What a node contributes to the grouping. -/
def groupTerms (s : Scope) : Node → Except Failure (List Term)
  | .object c => return (← s.classColumns .columns c).map Output.term
  | .expr e => return [← s.term e]

/-- The terms a statement is grouped by. -/
def grouping (s : Scope) (nodes : List Node) : Except Failure (List Term) :=
  return (← nodes.mapM s.groupTerms).flatten

end Scope

/-- The order of a statement, with the output columns it calls for. -/
structure Ordering where
  terms : List Term
  /-- The expressions that are ordered by but not selected. -/
  unselected : List Expr
  columns : List Output

namespace Ordering

/-- No order. -/
def none : Ordering :=
  ⟨[], [], []⟩

/-- The name of an output column that exists for the order alone. -/
def columnName (i : Nat) : String :=
  "orderbyfield" ++ toString i

/-- Orders by an expression. It gets an output column, numbered from `first` on, if it is new and
not selected. -/
def addExpr (o : Ordering) (first : Nat) (selected : Bool) (e : Expr) (t : Term) : Ordering :=
  if selected || o.unselected.any (· == e) then { o with terms := o.terms ++ [t] }
  else
    ⟨o.terms ++ [t], o.unselected ++ [e],
      o.columns ++ [⟨t, some (.plain (columnName (first + o.columns.length)))⟩]⟩

/-- Orders by a node; a literal does not order. -/
def addNode (s : Scope) (select : List SelectItem) (first : Nat) (o : Ordering) (n : Node) :
    Except Failure Ordering := do
  match n with
  | .object c => return { o with terms := o.terms ++ [← s.identity c] }
  | .expr e =>
    if e.isValue then return o
    else return o.addExpr first (select.any (·.node == n)) e (← s.term e)

/-- The nodes that a query is ordered by: those it names, then those it selects. -/
def nodes (orderBy : List Node) (select : List SelectItem) : List Node :=
  orderBy ++ select.map SelectItem.node

/-- The order of a query. -/
def ofNodes (s : Scope) (orderBy : List Node) (select : List SelectItem) (first : Nat) :
    Except Failure Ordering :=
  (nodes orderBy select).foldlM (addNode s select first) none

end Ordering

end ObjectQuery.Sql
