import ObjectQuery.Number.Binary64

/-!
# JSON documents

`Json` is a JSON document with values in it; `Json.Written` is what a text spells, before its
numerals and strings are given values, so that a part nobody asks for may hold a numeral out of
range or half of a surrogate pair.
-/

namespace ObjectQuery

/-- A number of a JSON document: an integer from -2^63 to 2^64 - 1, or a double. -/
inductive JsonNumber where
  | integer (n : Int)
  | float (x : Binary64)
deriving DecidableEq

/-- A JSON document. Objects keep their members in the order written, repetitions included. -/
inductive Json where
  | null
  | bool (b : Bool)
  | number (n : JsonNumber)
  | string (s : String)
  | array (items : List Json)
  | object (members : List (String × Json))

namespace Json

/-- A numeral as it is written: its sign and the digits of its parts. -/
structure Numeral where
  negative : Bool
  whole : List Char
  fraction : List Char
  /-- Whether the exponent is negative, and its digits. -/
  exponent : Option (Bool × List Char)
deriving DecidableEq

/-- What a JSON text spells. A string is absent if it holds half of a surrogate pair. -/
inductive Written where
  | null
  | bool (b : Bool)
  | number (n : Numeral)
  | string (s : Option String)
  | array (items : List Written)
  | object (members : List (Option String × Written))

/-- The number of a decimal digit. -/
def digitValue (c : Char) : Nat :=
  c.toNat - '0'.toNat

/-- The number that decimal digits spell. -/
def digitsValue (ds : List Char) : Nat :=
  ds.foldl (fun n c => 10 * n + digitValue c) 0

namespace Numeral

/-- The first number beyond 64 bits. -/
def significandLimit : Nat :=
  UInt64.size

/-- Reads whole digits into `n` as long as it stays below 64 bits. The rest is only counted. -/
def takeWhole (n : Nat) : List Char → Nat × Nat
  | [] => (n, 0)
  | c :: cs =>
    if 10 * n + digitValue c < significandLimit then takeWhole (10 * n + digitValue c) cs
    else (n, cs.length + 1)

/-- Reads digits after the point into `n` as long as it stays below 64 bits, counting those read. -/
def takeFraction (n read : Nat) : List Char → Nat × Nat
  | [] => (n, read)
  | c :: cs =>
    if 10 * n + digitValue c < significandLimit then
      takeFraction (10 * n + digitValue c) (read + 1) cs
    else (n, read)

/-- The power of ten as a double. -/
def tenPower (k : Nat) : Binary64 :=
  Binary64.ofNat (Nat.pow 10 k)

/-- Divides by `10 ^ k` in steps of at most `10 ^ 308`. -/
def divideByTen (x : Binary64) (k : Nat) : Binary64 :=
  if h : k ≤ 308 then x.div (tenPower k)
  else if x.isZero then x
  else divideByTen (x.div (tenPower 308)) (k - 308)
termination_by k
decreasing_by omega

/-- The magnitude `n · 10 ^ e`, rounded once to a double and once by the power of ten. -/
def scaled? (n : Nat) (e : Int) : Option Binary64 :=
  let x := Binary64.ofNat n
  if e < 0 then some (divideByTen x (-e).toNat)
  else if 308 < e then
    if x.isZero then some x else none
  else
    let y := x.mul (tenPower e.toNat)
    if y.isFinite then some y else none

/-- The double a numeral stands for; absent if it is out of range. -/
def float? (d : Numeral) : Option Binary64 := do
  let (n, dropped) := takeWhole 0 d.whole
  let (n, read) := takeFraction n 0 d.fraction
  let start : Int := (dropped : Int) - read
  let magnitude ←
    match d.exponent with
    | none => scaled? n start
    | some (negative, digits) =>
      let e := digitsValue digits
      if 0x80000000 ≤ e then
        if n = 0 || negative then some ⟨0⟩ else none
      else scaled? n (if negative then start - e else start + e)
  some (magnitude.withSign d.negative)

/-- The value of a numeral: an integer if it is written as one and fits, else a double. -/
def value? (d : Numeral) : Option JsonNumber :=
  let n := digitsValue d.whole
  if d.fraction.isEmpty && d.exponent.isNone &&
      (if d.negative then n != 0 && n ≤ 0x8000000000000000 else n < significandLimit) then
    some (.integer (if d.negative then -(n : Int) else n))
  else
    d.float?.map .float

end Numeral

namespace Written

mutual

/-- The document a text spells; absent if a numeral is out of range or a string is not text. -/
def value? : Written → Option Json
  | .null => some .null
  | .bool b => some (.bool b)
  | .number n => n.value?.map .number
  | .string s => s.map .string
  | .array items => (valuesOf? items).map .array
  | .object members => (membersOf? members).map .object

/-- The documents of the items of an array. -/
def valuesOf? : List Written → Option (List Json)
  | [] => some []
  | v :: vs => do some ((← value? v) :: (← valuesOf? vs))

/-- The members of an object. -/
def membersOf? : List (Option String × Written) → Option (List (String × Json))
  | [] => some []
  | (k, v) :: ms => do some ((← k, ← value? v) :: (← membersOf? ms))

end

mutual

/-- How many arrays and objects stand inside one another at most. -/
def depth : Written → Nat
  | .array items => depthOfItems items + 1
  | .object members => depthOfMembers members + 1
  | _ => 0

/-- The greatest depth among items. -/
def depthOfItems : List Written → Nat
  | [] => 0
  | v :: vs => max (depth v) (depthOfItems vs)

/-- The greatest depth among members. -/
def depthOfMembers : List (Option String × Written) → Nat
  | [] => 0
  | (_, v) :: ms => max (depth v) (depthOfMembers ms)

end

end Written

/-- Documents with more arrays and objects inside one another are refused. -/
def depthLimit : Nat :=
  127

/-- The document a text spells, if it stays within `room` more levels of nesting. -/
def Written.within? (room : Nat) (w : Written) : Option Json :=
  if w.depth ≤ room then w.value? else none

end Json

end ObjectQuery
