import ObjectQuery.Query.Operator

/-!
# SQL statements

The SELECT statements that queries are compiled into, as trees, and their text. A statement may
stand inside another one, as a source or as the operand of a membership test.
-/

namespace ObjectQuery.Sql

/-- A column of a table that the same statement reads from. -/
structure ColumnRef where
  table : String
  column : String
deriving DecidableEq

namespace ColumnRef

/-- The text `table.column`. -/
def text (c : ColumnRef) : String :=
  c.table ++ "." ++ c.column

end ColumnRef

/-- A scalar expression. -/
inductive Term where
  | column (c : ColumnRef)
  | literal (text : String)
  | arithmetic (op : Arithmetic) (left right : Term)
  | suffix (base start : Term)
  | substring (base start length : Term)
  | indexOf (haystack needle : Term)
  | aggregate (op : Aggregate) (operand : Term)
  | countRows
  | cast (inner : Term) (type : String)
deriving DecidableEq

namespace Term

/-- The text of the expression. -/
def text : Term → String
  | .column c => c.text
  | .literal s => s
  | .arithmetic op l r => "(" ++ l.text ++ " " ++ op.text ++ " " ++ r.text ++ ")"
  | .suffix b s => "SUBSTR(" ++ b.text ++ ", " ++ s.text ++ ")"
  | .substring b s n => "SUBSTR(" ++ b.text ++ ", " ++ s.text ++ ", " ++ n.text ++ ")"
  | .indexOf h n => "STRPOS(" ++ h.text ++ ", " ++ n.text ++ ")"
  | .aggregate op e => op.text ++ "(" ++ e.text ++ ")"
  | .countRows => "COUNT(*)"
  | .cast e type => "(" ++ e.text ++ ")::" ++ type

end Term

/-- The name of an output column. -/
structure Label where
  name : String
  quoted : Bool
deriving DecidableEq

namespace Label

/-- The name, in double quotes if they are called for. -/
def text (l : Label) : String :=
  if l.quoted then "\"" ++ l.name ++ "\"" else l.name

end Label

/-- An output column. -/
structure Output where
  term : Term
  label : Option Label
deriving DecidableEq

namespace Output

/-- The expression and its name. -/
def text (o : Output) : String :=
  match o.label with
  | none => o.term.text
  | some l => o.term.text ++ " AS " ++ l.text

end Output

mutual

/-- A condition on the rows. -/
inductive Condition where
  | constant (b : Bool)
  | compare (left : Term) (op : Comparison) (right : Term)
  | nullTest (e : Term) (op : NullTest)
  | memberOf (left : Term) (op : Membership) (s : Statement)
  /-- Conditions joined by `OR` or by `AND` between parentheses, and negated or not. -/
  | group (disjunctive negated : Bool) (members : List Condition)

/-- An entry of the list of sources. -/
inductive FromItem where
  | table (name aliasName : String)
  | derived (s : Statement) (aliasName : String)

/-- A SELECT statement. -/
structure Statement where
  distinct : Bool
  columns : List Output
  sources : List FromItem
  conditions : List Condition
  groupBy : List Term
  orderBy : List Term

end

/-- A clause: its keyword and its parts, or nothing if there are none. -/
def clause (keyword separator : String) (parts : List String) : String :=
  if parts.isEmpty then "" else keyword ++ separator.intercalate parts

/-- The conjunction between the members of a group. -/
def conjunction (disjunctive : Bool) : String :=
  if disjunctive then " OR " else " AND "

mutual

/-- The text of a condition. -/
def Condition.text : Condition → String
  | .constant b => if b then "true" else "false"
  | .compare l op r => l.text ++ " " ++ op.text ++ " " ++ r.text
  | .nullTest e op => e.text ++ " " ++ op.text
  | .memberOf l op s => l.text ++ " " ++ op.text ++ " (" ++ s.text ++ ")"
  | .group disjunctive negated members =>
    let joined := (conjunction disjunctive).intercalate (conditionTexts members)
    if negated then "( NOT (" ++ joined ++ "))" else "(" ++ joined ++ ")"

/-- The texts of conditions. -/
def conditionTexts : List Condition → List String
  | [] => []
  | c :: cs => c.text :: conditionTexts cs

/-- The text of an entry of the list of sources. -/
def FromItem.text : FromItem → String
  | .table name aliasName => name ++ " AS " ++ aliasName
  | .derived s aliasName => "(" ++ s.text ++ ") AS " ++ aliasName

/-- The texts of entries of the list of sources. -/
def sourceTexts : List FromItem → List String
  | [] => []
  | f :: fs => f.text :: sourceTexts fs

/-- The text of a statement. -/
def Statement.text : Statement → String
  | ⟨distinct, columns, sources, conditions, groupBy, orderBy⟩ =>
    "SELECT " ++ (if distinct then "DISTINCT " else "") ++
      ", ".intercalate (columns.map Output.text) ++
      clause " FROM " ", " (sourceTexts sources) ++
      clause " WHERE " " AND " (conditionTexts conditions) ++
      clause " GROUP BY " ", " (groupBy.map Term.text) ++
      clause " ORDER BY " ", " (orderBy.map Term.text)

end

namespace FromItem

/-- The alias of the entry. -/
def aliasName : FromItem → String
  | .table _ aliasName => aliasName
  | .derived _ aliasName => aliasName

end FromItem

end ObjectQuery.Sql
