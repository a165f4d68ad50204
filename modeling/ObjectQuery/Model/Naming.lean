import ObjectQuery.Text.Case

/-!
# Names in the database

Tables are named after classes and columns after fields. A name that is an SQL keyword in any case
gets a mark in front.
-/

namespace ObjectQuery.Naming

/-- The words that SQL keeps for itself. -/
def reservedWords : List String := [
  "ALL", "ANALYSE", "ANALYZE", "AND", "ANY", "ARRAY", "AS", "ASC", "ASYMMETRIC", "BETWEEN",
  "BINARY", "BOTH", "CASE", "CAST", "CHECK", "COLLATE", "COLUMN", "CONSTRAINT", "CREATE",
  "CROSS", "CURRENT_DATE", "CURRENT_ROLE", "CURRENT_TIME", "CURRENT_TIMESTAMP",
  "CURRENT_USER", "DEFAULT", "DEFERRABLE", "DELETE", "DESC", "DISTINCT", "DO", "DROP", "ELSE",
  "END", "EXCEPT", "EXISTS", "FALSE", "FOR", "FOREIGN", "FROM", "FULL", "GRANT", "GROUP",
  "HAVING", "ILIKE", "IN", "INITIALLY", "INNER", "INSERT", "INTERSECT", "INTO", "IS",
  "ISNULL", "JOIN", "KEY", "LEADING", "LEFT", "LIKE", "LIMIT", "LOCALTIME", "LOCALTIMESTAMP",
  "NATURAL", "NEW", "NOT", "NOTNULL", "NULL", "OBJECT", "OFF", "OFFSET", "OLD", "ON", "ONLY",
  "OR", "ORDER", "OUTER", "OVERLAPS", "PLACING", "PRIMARY", "REFERENCES", "RIGHT", "SELECT",
  "SESSION_USER", "SET", "SIMILAR", "SOME", "SYMMETRIC", "TABLE", "THEN", "TO", "TRAILING",
  "TRUE", "UNION", "UNIQUE", "UPDATE", "USER", "USING", "VALUES", "VERBOSE", "WHEN", "WHERE"]

/-- Whether a name is an SQL keyword, in any case. -/
def isReserved (name : String) : Bool :=
  reservedWords.contains (Text.upperCase name)

/-- The mark in front of a name that is an SQL keyword. -/
def reservedMark : String :=
  "intermine_"

/-- The name, marked if it is an SQL keyword. -/
def sqlName (name : String) : String :=
  if isReserved name then reservedMark ++ name else name

/-- The part of a class name after its last point. -/
def unqualified (className : String) : String :=
  String.ofList (className.toList.reverse.takeWhile (· ≠ '.')).reverse

/-- The table of a class. -/
def tableName (className : String) : String :=
  sqlName (unqualified className)

/-- The column of an attribute. -/
def attributeColumn (field : String) : String :=
  sqlName field

/-- The column of a reference, which holds the identity of an object. -/
def referenceColumn (field : String) : String :=
  sqlName field ++ "Id"

/-- The capitalised name of one end of a relationship in a link table. -/
def linkColumn (name : String) : String :=
  Text.capitalise (sqlName name)

end ObjectQuery.Naming
