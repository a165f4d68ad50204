import ObjectQuery.Text.Blank
import ObjectQuery.Time.Calendar

/-!
# Text of dates and times

Writing follows ISO 8601. Reading also allows blanks around the separators, numbers with fewer
digits, and years of any length with a sign.
-/

namespace ObjectQuery

/-- The decimal digits of a number, filled up with zeros to a width. -/
def paddedDigits (width n : Nat) : List Char :=
  let ds := Nat.toDigits 10 n
  List.replicate (width - ds.length) '0' ++ ds

namespace Date

/-- A year: four digits, and a sign outside of the years 0 to 9999. -/
def yearChars (year : Int) : List Char :=
  if year < 0 then '-' :: paddedDigits 4 year.natAbs
  else if 9999 < year then '+' :: paddedDigits 4 year.natAbs
  else paddedDigits 4 year.natAbs

/-- A day as `YYYY-MM-DD`. -/
def chars (d : Date) : List Char :=
  yearChars d.year ++ '-' :: paddedDigits 2 d.month ++ '-' :: paddedDigits 2 d.day

/-- A day as `YYYY-MM-DD`. -/
def text (d : Date) : String :=
  String.ofList d.chars

end Date

namespace TimeOfDay

/-- The fraction of a second with the fewest of three, six or nine digits; none if it is zero. -/
def fractionChars (nano : Nat) : List Char :=
  if nano = 0 then []
  else if nano % 1000000 = 0 then '.' :: paddedDigits 3 (nano / 1000000)
  else if nano % 1000 = 0 then '.' :: paddedDigits 6 (nano / 1000)
  else '.' :: paddedDigits 9 nano

/-- A time of day as `HH:MM:SS` with its fraction. -/
def chars (t : TimeOfDay) : List Char :=
  paddedDigits 2 t.hour ++ ':' :: paddedDigits 2 t.minute ++ ':' :: paddedDigits 2 t.second ++
    fractionChars t.nano

end TimeOfDay

namespace DateTime

/-- A day and a time of day around a separator. -/
def text (t : DateTime) (separator : Char) : String :=
  String.ofList (t.date.chars ++ separator :: t.time.chars)

end DateTime

namespace TimeText

/-- The number that decimal digits spell. -/
def digitsValue (ds : List Char) : Nat :=
  ds.foldl (fun n c => 10 * n + (c.toNat - '0'.toNat)) 0

/-- Reads at least one digit and at most `width`. -/
def readDigits (width : Nat) (cs : List Char) : Option (List Char × List Char) :=
  let ds := (cs.take width).takeWhile Char.isDigit
  if ds.isEmpty then none else some (ds, cs.drop ds.length)

/-- Reads a number of at most `width` digits after blanks. -/
def readNumber (width : Nat) (cs : List Char) : Option (Nat × List Char) := do
  let (ds, rest) ← readDigits width (Text.dropBlanks cs)
  some (digitsValue ds, rest)

/-- Reads a separator. -/
def readSeparator (separator : Char) : List Char → Option (List Char)
  | [] => none
  | c :: cs => if c = separator then some cs else none

/-- Reads a year after blanks: at most four digits, or any number of them after a sign. -/
def readYear (cs : List Char) : Option (Int × List Char) :=
  match Text.dropBlanks cs with
  | '-' :: rest => do
    let (ds, rest) ← readDigits rest.length rest
    some (-(digitsValue ds : Int), rest)
  | '+' :: rest => do
    let (ds, rest) ← readDigits rest.length rest
    some (digitsValue ds, rest)
  | rest => do
    let (ds, rest) ← readDigits 4 rest
    some (digitsValue ds, rest)

/-- Reads a day. -/
def readDate (cs : List Char) : Option (Date × List Char) := do
  let (year, cs) ← readYear cs
  let cs ← readSeparator '-' (Text.dropBlanks cs)
  let (month, cs) ← readNumber 2 cs
  let cs ← readSeparator '-' (Text.dropBlanks cs)
  let (day, cs) ← readNumber 2 cs
  some (← Date.ofParts? year month day, cs)

/-- The nanoseconds of the digits after a point; digits after the ninth do not count. -/
def nanoseconds (ds : List Char) : Nat :=
  let ds := ds.take 9
  digitsValue ds * Nat.pow 10 (9 - ds.length)

/-- Reads the fraction of a second, if there is one, in nanoseconds. -/
def readFraction : List Char → Option (Nat × List Char)
  | '.' :: cs => do
    let (ds, rest) ← readDigits cs.length cs
    some (nanoseconds ds, rest)
  | cs => some (0, cs)

/-- Reads a time of day and the blanks after it. -/
def readTime (cs : List Char) : Option (TimeOfDay × List Char) := do
  let (hour, cs) ← readNumber 2 cs
  let cs ← readSeparator ':' (Text.dropBlanks cs)
  let (minute, cs) ← readNumber 2 cs
  let cs ← readSeparator ':' (Text.dropBlanks cs)
  let (second, cs) ← readNumber 2 cs
  let (nano, cs) ← readFraction cs
  some (← TimeOfDay.ofParts? hour minute second nano, Text.dropBlanks cs)

/-- Reads the digits of a zone offset, in minutes. -/
def readOffset : List Char → Option (Nat × List Char)
  | h₁ :: h₂ :: cs => do
    guard (h₁.isDigit && h₂.isDigit)
    match cs.dropWhile (fun c => c == ':' || Text.isBlank c) with
    | m₁ :: m₂ :: rest => do
      guard (m₁.isDigit && m₂.isDigit && m₁ ≤ '5')
      let minutes := digitsValue [h₁, h₂] * 60 + digitsValue [m₁, m₂]
      guard (minutes < 1440)
      some (minutes, rest)
    | _ => none
  | _ => none

/-- Whether the three characters spell the name of universal time, in any case. -/
def isUniversal (a b c : Char) : Bool :=
  a.toUpper == 'U' && b.toUpper == 'T' && c.toUpper == 'C'

/-- Reads a zone: universal time by name or letter, or a signed offset, in minutes. -/
def readZone : List Char → Option (Int × List Char)
  | 'Z' :: cs => some (0, cs)
  | 'z' :: cs => some (0, cs)
  | '+' :: cs => (readOffset cs).map fun (n, rest) => ((n : Int), rest)
  | '-' :: cs => (readOffset cs).map fun (n, rest) => (-(n : Int), rest)
  | '\u2212' :: cs => (readOffset cs).map fun (n, rest) => (-(n : Int), rest)
  | a :: b :: c :: cs => if isUniversal a b c then some (0, cs) else none
  | _ => none

/-- Skips the character between a day and a time with a zone. -/
def skipDateMark : List Char → Option (List Char)
  | 'T' :: cs => some cs
  | 't' :: cs => some cs
  | ' ' :: cs => some cs
  | _ => none

/-- The day a text spells. -/
def date? (text : String) : Option Date := do
  let (d, rest) ← readDate text.toList
  guard (Text.dropBlanks rest).isEmpty
  some d

/-- The day and time a text spells. -/
def dateTime? (text : String) : Option DateTime := do
  let (d, rest) ← readDate text.toList
  let rest ← readSeparator 'T' (Text.dropBlanks rest)
  let (t, rest) ← readTime rest
  guard rest.isEmpty
  some ⟨d, t⟩

/-- The universal time that a text with a zone spells. -/
def universalTime? (text : String) : Option DateTime := do
  let (d, rest) ← readDate text.toList
  let rest ← skipDateMark rest
  let (t, rest) ← readTime rest
  let (offset, rest) ← readZone rest
  guard (Text.dropBlanks rest).isEmpty
  DateTime.behind? ⟨d, t⟩ offset

end TimeText

end ObjectQuery
