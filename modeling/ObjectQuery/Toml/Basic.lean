import ObjectQuery.Number.Binary64

/-!
# TOML documents

A TOML document is a tree of tables. How a table came about decides who may still add to it: a table
that a header or an inline form wrote out is closed to dotted keys.
-/

namespace ObjectQuery.Toml

/-- How a table came about. -/
inductive Origin where
  /-- It was written out: the document itself, a table with a header, or an inline table. -/
  | written
  /-- A header named a table inside it. -/
  | implied
  /-- A dotted key named a value inside it. -/
  | dotted
deriving DecidableEq

/-- What a key stands for. -/
inductive Item where
  | string (s : String)
  | integer (n : Int)
  | float (x : Binary64)
  | bool (b : Bool)
  /-- A date, a time or both, as text. -/
  | dateTime (text : String)
  | array (items : List Item)
  | inline (origin : Origin) (entries : List (String × Item))
  | table (origin : Origin) (entries : List (String × Item))
  /-- The tables with one header in double brackets. -/
  | tables (elements : List (List (String × Item)))

/-- The keys of a table with what they stand for. -/
abbrev Entries := List (String × Item)

namespace Entries

/-- Replaces what a key stands for, or adds the key at the end. -/
def set (key : String) (i : Item) : Entries → Entries
  | [] => [(key, i)]
  | e :: es => if e.1 = key then (key, i) :: es else e :: set key i es

/-- The entries without a key. -/
def erase (es : Entries) (key : String) : Entries :=
  es.filter fun e => e.1 != key

/-- Changes the table that a path leads to, making the tables that are missing on the way. A path of
a dotted key does not enter a table that was written out, and no path enters a value. -/
def changeAt (dotted : Bool) (change : Origin → Entries → Option Entries) :
    List String → Origin → Entries → Option Entries
  | [], origin, es => change origin es
  | key :: path, _, es =>
    let made : Origin := if dotted then .dotted else .implied
    match es.lookup key with
    | none => do
      return es.set key (.table made (← changeAt dotted change path made []))
    | some (.table origin inner) =>
      if dotted && origin == .written then none
      else do return es.set key (.table origin (← changeAt dotted change path origin inner))
    | some (.tables elements) =>
      match elements.getLast? with
      | none => none
      | some inner => do
        let inner ← changeAt dotted change path .written inner
        return es.set key (.tables (elements.dropLast ++ [inner]))
    | some _ => none

/-- Adds an entry to a table. A dotted key adds only to a table that dotted keys made, and a plain
key only to one that they did not. -/
def add (plain : Bool) (key : String) (i : Item) (origin : Origin) (es : Entries) :
    Option Entries :=
  if (origin == .dotted) == plain then none
  else if (es.lookup key).isSome then none
  else some (es ++ [(key, i)])

/-- Adds the value of a dotted key to the table it is written in. -/
def addValue (path : List String) (key : String) (i : Item) (es : Entries) : Option Entries :=
  changeAt true (add path.isEmpty key i) path .written es

/-- Changes the inline table that a dotted key leads to inside an inline table. -/
def changeInline (change : Entries → Option Entries) : List String → Entries → Option Entries
  | [], es => change es
  | key :: path, es =>
    match es.lookup key with
    | none => do return es.set key (.inline .dotted (← changeInline change path []))
    | some (.inline .dotted inner) => do
      return es.set key (.inline .dotted (← changeInline change path inner))
    | some _ => none

/-- Adds the value of a dotted key to an inline table. -/
def addInline (path : List String) (key : String) (i : Item) (es : Entries) : Option Entries :=
  changeInline (fun es => if (es.lookup key).isSome then none else some (es ++ [(key, i)])) path es

end Entries

end ObjectQuery.Toml
