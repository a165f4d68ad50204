import ObjectQuery.Text.Case
import ObjectQuery.Value

/-!
# Platforms

The databases that SQL is written for. They differ in the names of column types, which casts use,
and in the spelling of literals.
-/

namespace ObjectQuery

/-- A database that SQL is written for. -/
inductive Platform where
  | postgreSQL
  | mySQL
  | sqlite
deriving DecidableEq

namespace Platform

/-- The platforms in their order. -/
def all : List Platform :=
  [.postgreSQL, .mySQL, .sqlite]

/-- The platform that is meant if none is named. -/
def standard : Platform :=
  .postgreSQL

/-- The vendor of the database. -/
def vendor : Platform → String
  | .postgreSQL => "postgresql"
  | .mySQL => "mysql"
  | .sqlite => "sqlite"

/-- The proper name of the database. -/
def properName : Platform → String
  | .postgreSQL => "PostgreSQL"
  | .mySQL => "MySQL"
  | .sqlite => "SQLite"

/-- The platform with that name, in any case of ASCII letters. -/
def ofName (name : String) : Except Failure Platform :=
  match Text.asciiLowerCase name with
  | "postgresql" | "postgres" => .ok .postgreSQL
  | "mysql" => .ok .mySQL
  | "sqlite" | "sqlite3" => .ok .sqlite
  | other => .error (.settings (.unknownPlatform other))

/-- The column type that stores a logical type. -/
def columnType : Platform → AttributeType → String
  | .postgreSQL, .boolean => "BOOLEAN"
  | .postgreSQL, .short => "SMALLINT"
  | .postgreSQL, .integer => "INTEGER"
  | .postgreSQL, .long => "BIGINT"
  | .postgreSQL, .float => "REAL"
  | .postgreSQL, .double => "DOUBLE PRECISION"
  | .postgreSQL, .bigDecimal => "NUMERIC"
  | .postgreSQL, .string => "TEXT"
  | .postgreSQL, .date => "BIGINT"
  | .mySQL, .boolean => "TINYINT"
  | .mySQL, .short => "SMALLINT"
  | .mySQL, .integer => "INTEGER"
  | .mySQL, .long => "BIGINT"
  | .mySQL, .float => "FLOAT"
  | .mySQL, .double => "DOUBLE"
  | .mySQL, .bigDecimal => "DECIMAL"
  | .mySQL, .string => "TEXT"
  | .mySQL, .date => "BIGINT"
  | .sqlite, .float => "REAL"
  | .sqlite, .double => "REAL"
  | .sqlite, .bigDecimal => "NUMERIC"
  | .sqlite, .string => "TEXT"
  | .sqlite, _ => "INTEGER"

/-- How a character stands in a string literal: a quote is doubled, and so is a backslash where it
would escape. -/
def quoteChar (p : Platform) (c : Char) : List Char :=
  if c = '\'' then ['\'', '\'']
  else if c = '\\' ∧ p = .mySQL then ['\\', '\\']
  else [c]

/-- A string literal. -/
def quote (p : Platform) (s : String) : String :=
  String.ofList ('\'' :: s.toList.flatMap p.quoteChar ++ ['\''])

/-- A boolean literal. -/
def boolLiteral : Platform → Bool → String
  | .postgreSQL, true => "'true'"
  | .postgreSQL, false => "'false'"
  | _, true => "1"
  | _, false => "0"

/-- A literal for a double. -/
def floatLiteral (x : Binary64) : String :=
  if x.isFinite then FloatFormat.plain.render x
  else if x.isNaN then "'NaN'"
  else if x.isNegative then "'-Infinity'"
  else "'Infinity'"

/-- The SQL literal of a value: points in time as milliseconds, objects as their identity. -/
def literal (p : Platform) : Value → Except Failure String
  | .null => .ok "NULL"
  | .bool b => .ok (p.boolLiteral b)
  | .int n => .ok (toString n.toInt)
  | .float x => .ok (floatLiteral x)
  | .string s => .ok (p.quote s)
  | .date d => .ok (toString (DateTime.epochMillis ⟨d, .midnight⟩))
  | .dateTime t => .ok (toString t.epochMillis)
  | .universalTime t => .ok (toString t.epochMillis)
  | .object o => return toString (← o.storedId).toInt
  | .sql s => .ok s

end Platform

end ObjectQuery
