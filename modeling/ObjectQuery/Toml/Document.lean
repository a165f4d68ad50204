import ObjectQuery.Toml.Token

/-!
# Reading TOML documents

Values, and the lines of a document: each gives a key of the current table its value, or starts
another table with a header.
-/

namespace ObjectQuery.Toml

mutual

/-- Reads a value of at most `room` levels, going at most `fuel` calls deep. -/
def readValue (fuel room : Nat) (cs : List Char) : Option (Item × List Char) :=
  match fuel with
  | 0 => none
  | fuel + 1 =>
    match cs with
    | '"' :: _ => (readString cs).map fun (s, rest) => (.string s, rest)
    | '\'' :: _ => (readString cs).map fun (s, rest) => (.string s, rest)
    | 't' :: 'r' :: 'u' :: 'e' :: rest => some (.bool true, rest)
    | 'f' :: 'a' :: 'l' :: 's' :: 'e' :: rest => some (.bool false, rest)
    | '[' :: rest => do
      guard (0 < room)
      let (items, rest) ← readItems fuel (room - 1) rest
      return (.array items, rest)
    | '{' :: rest => do
      guard (0 < room)
      match skipBlanks rest with
      | '}' :: rest => return (.inline .written [], rest)
      | rest =>
        let (entries, rest) ← readMembers fuel (room - 1) [] rest
        return (.inline .written entries, rest)
    | _ => readNumberOrDate cs

/-- Reads the items of an array and the bracket that closes it. -/
def readItems (fuel room : Nat) (cs : List Char) : Option (List Item × List Char) :=
  match fuel with
  | 0 => none
  | fuel + 1 => do
    match ← skipLines false cs with
    | ']' :: rest => return ([], rest)
    | rest =>
      let (item, rest) ← readValue fuel room rest
      match ← skipLines false rest with
      | ',' :: rest =>
        let (items, rest) ← readItems fuel room rest
        return (item :: items, rest)
      | ']' :: rest => return ([item], rest)
      | _ => none

/-- Reads the members of an inline table after those in `entries`, and the brace that closes it. -/
def readMembers (fuel room : Nat) (entries : Entries) (cs : List Char) :
    Option (Entries × List Char) :=
  match fuel with
  | 0 => none
  | fuel + 1 => do
    let ((path, key), rest) ← readKey (nestingLimit - 1) cs
    match rest with
    | '=' :: rest =>
      let (item, rest) ← readValue fuel room (skipBlanks rest)
      let entries ← entries.addInline path key item
      match skipBlanks rest with
      | ',' :: rest => readMembers fuel room entries rest
      | '}' :: rest => return (entries, rest)
      | _ => none
    | _ => none

end

/-- A document while it is read: what is finished, and the table that lines add to, with its path
and whether it is one of several under its header. -/
structure Draft where
  root : Entries
  path : List String
  repeated : Bool
  current : Entries

namespace Draft

/-- The draft of an empty document. -/
def start : Draft :=
  ⟨[], [], false, []⟩

/-- The path without its last part, and the last part. -/
def splitLast? (path : List String) : Option (List String × String) :=
  path.getLast?.map fun last => (path.dropLast, last)

/-- Adds a table to those under one header. -/
def pushTable (key : String) (table : Entries) (es : Entries) : Option Entries :=
  match es.lookup key with
  | none => some (es.set key (.tables [table]))
  | some (.tables elements) => some (es.set key (.tables (elements ++ [table])))
  | some _ => none

/-- The document with the current table put in its place. -/
def finish (d : Draft) : Option Entries :=
  match splitLast? d.path with
  | none => some d.current
  | some (path, key) =>
    let put (_ : Origin) (es : Entries) : Option Entries :=
      if d.repeated then pushTable key d.current es
      else if (es.lookup key).isSome then none
      else some (es.set key (.table .written d.current))
    Entries.changeAt false put path .written d.root

/-- What a key stands for in the table that a path leads to. -/
def find? : List String → String → Entries → Option Item
  | [], key, es => es.lookup key
  | k :: path, key, es =>
    match es.lookup k with
    | some (.table _ inner) => find? path key inner
    | some (.tables elements) => elements.getLast?.bind (find? path key)
    | _ => none

/-- Starts a table with a header. Only a table that headers of inner tables implied may exist. -/
def openTable (d : Draft) (path : List String) (key : String) : Option Draft := do
  let root ← d.finish
  let current ←
    match find? path key root with
    | none => some []
    | some (.table .implied es) => some es
    | some _ => none
  let root ← Entries.changeAt false (fun _ es => some (es.erase key)) path .written root
  return ⟨root, path ++ [key], false, current⟩

/-- Starts a table with a header in double brackets. -/
def openRepeated (d : Draft) (path : List String) (key : String) : Option Draft := do
  let root ← d.finish
  match find? path key root with
  | none | some (.tables _) =>
    let root ← Entries.changeAt false (fun _ es => some es) path .written root
    return ⟨root, path ++ [key], true, []⟩
  | some _ => none

/-- Gives a dotted key of the current table its value. -/
def addValue (d : Draft) (path : List String) (key : String) (i : Item) : Option Draft := do
  return { d with current := ← d.current.addValue path key i }

end Draft

/-- Reads a header after its opening bracket. -/
def readHeader (d : Draft) (cs : List Char) : Option (Draft × List Char) :=
  match cs with
  | '[' :: rest => do
    let ((path, key), rest) ← readKey (nestingLimit - 1) rest
    match rest with
    | ']' :: ']' :: rest => return (← d.openRepeated path key, ← readLineEnd rest)
    | _ => none
  | rest => do
    let ((path, key), rest) ← readKey (nestingLimit - 1) rest
    match rest with
    | ']' :: rest => return (← d.openTable path key, ← readLineEnd rest)
    | _ => none

/-- Reads a key and its value. -/
def readEntry (d : Draft) (cs : List Char) : Option (Draft × List Char) := do
  let ((path, key), rest) ← readKey (nestingLimit - 1) cs
  match rest with
  | '=' :: rest =>
    let (item, rest) ← readValue (2 * rest.length + 2) (nestingLimit - 1) (skipBlanks rest)
    return (← d.addValue path key item, ← readLineEnd rest)
  | _ => none

/-- Reads the lines of a document, at most `fuel` of them. -/
def readLines : Nat → Draft → List Char → Option Draft
  | 0, _, _ => none
  | fuel + 1, d, cs =>
    match skipBlanks cs with
    | [] => some d
    | '#' :: rest => do readLines fuel d (← readLineEnd ('#' :: rest))
    | '\n' :: rest => readLines fuel d rest
    | '\r' :: rest => do readLines fuel d (← readNewline ('\r' :: rest))
    | '[' :: rest => do
      let (d, rest) ← readHeader d rest
      readLines fuel d rest
    | rest => do
      let (d, rest) ← readEntry d rest
      readLines fuel d rest

/-- The text without a mark of its byte order. -/
def dropOrderMark : List Char → List Char
  | '\ufeff' :: cs => cs
  | cs => cs

/-- The tables of the document a text spells. -/
def read? (text : String) : Option Entries := do
  let cs := dropOrderMark text.toList
  let d ← readLines (cs.length + 1) .start cs
  d.finish

end ObjectQuery.Toml
