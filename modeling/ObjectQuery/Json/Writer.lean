import ObjectQuery.Json.Basic
import ObjectQuery.Number.Shortest

/-!
# Writing JSON text

The compact text of a document: no spaces, members in their order, and escapes for quotes,
backslashes and control characters alone.
-/

namespace ObjectQuery.Json

/-- A hexadecimal digit. -/
def hexDigit (n : Nat) : Char :=
  Nat.digitChar n

/-- How a character is written inside a string. -/
def escapeChar (c : Char) : List Char :=
  if c = '"' then ['\\', '"']
  else if c = '\\' then ['\\', '\\']
  else if c = '\x08' then ['\\', 'b']
  else if c = '\x0c' then ['\\', 'f']
  else if c = '\n' then ['\\', 'n']
  else if c = '\r' then ['\\', 'r']
  else if c = '\t' then ['\\', 't']
  else if c.toNat < 0x20 then
    ['\\', 'u', '0', '0', hexDigit (c.toNat / 16), hexDigit (c.toNat % 16)]
  else [c]

/-- A string between quotes. -/
def quote (s : String) : List Char :=
  '"' :: s.toList.flatMap escapeChar ++ ['"']

/-- The characters of an integer. -/
def integerChars (n : Int) : List Char :=
  if n < 0 then '-' :: Nat.toDigits 10 n.natAbs else Nat.toDigits 10 n.natAbs

/-- A number; one that is not finite is written as `null`. -/
def numberChars : JsonNumber → List Char
  | .integer n => integerChars n
  | .float x => if x.isFinite then (FloatFormat.json.render x).toList else "null".toList

mutual

/-- The characters of a document. -/
def chars : Json → List Char
  | .null => "null".toList
  | .bool true => "true".toList
  | .bool false => "false".toList
  | .number n => numberChars n
  | .string s => quote s
  | .array items => '[' :: itemsChars items ++ [']']
  | .object members => '{' :: membersChars members ++ ['}']

/-- Items with commas between them. -/
def itemsChars : List Json → List Char
  | [] => []
  | [v] => chars v
  | v :: vs => chars v ++ ',' :: itemsChars vs

/-- Members with commas between them. -/
def membersChars : List (String × Json) → List Char
  | [] => []
  | [(k, v)] => quote k ++ ':' :: chars v
  | (k, v) :: ms => quote k ++ ':' :: (chars v ++ ',' :: membersChars ms)

end

/-- The compact text of a document. -/
def render (j : Json) : String :=
  String.ofList j.chars

end ObjectQuery.Json
