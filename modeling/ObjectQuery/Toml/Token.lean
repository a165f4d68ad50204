import ObjectQuery.Json.Reader
import ObjectQuery.Time.Calendar
import ObjectQuery.Toml.Basic

/-!
# Tokens of TOML

Reading keys, strings, numbers, dates and what stands between them. Each function takes what remains
of the text and returns what it read with the rest.
-/

namespace ObjectQuery.Toml

/-- Blanks within a line. -/
def isBlank (c : Char) : Bool :=
  c == ' ' || c == '\t'

/-- The text from its first character that is not a blank. -/
def skipBlanks (cs : List Char) : List Char :=
  cs.dropWhile isBlank

/-- The characters that comments and strings may hold as they are: all but controls other than the
tabulator. -/
def isText (c : Char) : Bool :=
  c == '\t' || (0x20 ≤ c.toNat && c.toNat != 0x7f)

/-- Reads the end of a line. -/
def readNewline : List Char → Option (List Char)
  | '\n' :: cs => some cs
  | '\r' :: '\n' :: cs => some cs
  | _ => none

/-- Skips a comment, if there is one. -/
def skipComment : List Char → List Char
  | '#' :: cs => cs.dropWhile isText
  | cs => cs

/-- Reads what may end a line: blanks, a comment, and the end of the line or the text. -/
def readLineEnd (cs : List Char) : Option (List Char) :=
  match skipComment (skipBlanks cs) with
  | [] => some []
  | rest => readNewline rest

/-- Skips blanks, ends of lines and comments, each of which ends with its line. -/
def skipLines (inComment : Bool) : List Char → Option (List Char)
  | [] => if inComment then none else some []
  | '\n' :: cs => skipLines false cs
  | '\r' :: '\n' :: cs => skipLines false cs
  | c :: cs =>
    if inComment then if isText c then skipLines true cs else none
    else if isBlank c then skipLines false cs
    else if c = '#' then skipLines true cs
    else if c = '\r' then none
    else some (c :: cs)

/-- The characters of a key without quotes. -/
def isBareKey (c : Char) : Bool :=
  c.isAlphanum || c == '-' || c == '_'

/-- The character with a number, if there is one. -/
def charOf? (n : Nat) : Option Char :=
  if n.isValidChar then some (Char.ofNat n) else none

/-- Reads the number of a character, written in `width` hexadecimal digits. -/
def readCode (width : Nat) (cs : List Char) : Option (Char × List Char) := do
  guard (width ≤ cs.length)
  return (← charOf? (← Json.hexNumber? (cs.take width)), cs.drop width)

/-- Reads the character of an escape after the backslash. -/
def readEscape : List Char → Option (Char × List Char)
  | 'b' :: cs => some ('\x08', cs)
  | 't' :: cs => some ('\t', cs)
  | 'n' :: cs => some ('\n', cs)
  | 'f' :: cs => some ('\x0c', cs)
  | 'r' :: cs => some ('\r', cs)
  | '"' :: cs => some ('"', cs)
  | '\\' :: cs => some ('\\', cs)
  | 'u' :: cs => readCode 4 cs
  | 'U' :: cs => readCode 8 cs
  | _ => none

/-- Reads a string in double quotes after the opening one, in at most `fuel` steps. -/
def readBasic : Nat → List Char → Option (List Char × List Char)
  | 0, _ => none
  | _ + 1, [] => none
  | _ + 1, '"' :: cs => some ([], cs)
  | fuel + 1, '\\' :: cs => do
    let (c, rest) ← readEscape cs
    let (s, rest) ← readBasic fuel rest
    return (c :: s, rest)
  | fuel + 1, c :: cs => do
    guard (isText c)
    let (s, rest) ← readBasic fuel cs
    return (c :: s, rest)

/-- Reads a string in single quotes after the opening one. -/
def readLiteral : List Char → Option (List Char × List Char)
  | [] => none
  | '\'' :: cs => some ([], cs)
  | c :: cs => do
    guard (isText c)
    let (s, rest) ← readLiteral cs
    return (c :: s, rest)

/-- The text from its first character that is neither a blank nor an end of a line. -/
def skipBlankLines : List Char → List Char
  | '\n' :: cs => skipBlankLines cs
  | '\r' :: '\n' :: cs => skipBlankLines cs
  | c :: cs => if isBlank c then skipBlankLines cs else c :: cs
  | [] => []

/-- Skips the end of a line that a backslash hides, with all blank text after it. -/
def skipHiddenNewline (cs : List Char) : Option (List Char) :=
  (readNewline (skipBlanks cs)).map skipBlankLines

/-- Reads a string in triple quotes after the opening ones, in at most `fuel` steps. Up to two
quotes may stand before the closing ones. -/
def readMultiline (quote : Char) : Nat → List Char → Option (List Char × List Char)
  | 0, _ => none
  | fuel + 1, cs => do
    let quotes := (cs.takeWhile (· == quote)).length
    if 3 ≤ quotes then
      let extra := min (quotes - 3) 2
      return (List.replicate extra quote, cs.drop (extra + 3))
    else if 0 < quotes then
      let (s, rest) ← readMultiline quote fuel (cs.drop quotes)
      return (List.replicate quotes quote ++ s, rest)
    else
      match cs with
      | [] => none
      | '\n' :: rest =>
        let (s, rest) ← readMultiline quote fuel rest
        return ('\n' :: s, rest)
      | '\r' :: '\n' :: rest =>
        let (s, rest) ← readMultiline quote fuel rest
        return ('\n' :: s, rest)
      | c :: rest =>
        if c = '\\' ∧ quote = '"' then
          match skipHiddenNewline rest with
          | some rest => readMultiline quote fuel rest
          | none =>
            let (c, rest) ← readEscape rest
            let (s, rest) ← readMultiline quote fuel rest
            return (c :: s, rest)
        else
          guard (isText c)
          let (s, rest) ← readMultiline quote fuel rest
          return (c :: s, rest)

/-- Reads a string in triple quotes after the opening ones and the end of line next to them. -/
def readMultilineString (quote : Char) (cs : List Char) : Option (List Char × List Char) :=
  let cs := (readNewline cs).getD cs
  readMultiline quote (cs.length + 1) cs

/-- Reads a string in any of its four forms. -/
def readString : List Char → Option (String × List Char)
  | '"' :: '"' :: '"' :: cs => (readMultilineString '"' cs).map fun (s, r) => (.ofList s, r)
  | '\'' :: '\'' :: '\'' :: cs => (readMultilineString '\'' cs).map fun (s, r) => (.ofList s, r)
  | '"' :: cs => (readBasic (cs.length + 1) cs).map fun (s, r) => (.ofList s, r)
  | '\'' :: cs => (readLiteral cs).map fun (s, r) => (.ofList s, r)
  | _ => none

/-- Reads one part of a dotted key and the blanks around it. -/
def readKeyPart (cs : List Char) : Option (String × List Char) := do
  let (key, rest) ←
    match skipBlanks cs with
    | '"' :: cs => readBasic (cs.length + 1) cs
    | '\'' :: cs => readLiteral cs
    | cs =>
      let key := cs.takeWhile isBareKey
      if key.isEmpty then none else some (key, cs.dropWhile isBareKey)
  return (String.ofList key, skipBlanks rest)

/-- A key has fewer parts, and values have fewer levels. -/
def nestingLimit : Nat :=
  80

/-- Reads a dotted key of at most so many parts: the path to its last part, and the last part. -/
def readKey : Nat → List Char → Option ((List String × String) × List Char)
  | 0, _ => none
  | parts + 1, cs => do
    let (key, rest) ← readKeyPart cs
    match rest with
    | '.' :: rest =>
      let ((path, last), rest) ← readKey parts rest
      return ((key :: path, last), rest)
    | rest => return (([], key), rest)

/-- Reads the digits of a group after its first one; an underscore stands between two digits. -/
def readGroup (isDigit : Char → Bool) : List Char → Option (List Char × List Char)
  | [] => some ([], [])
  | '_' :: c :: cs =>
    if isDigit c then (readGroup isDigit cs).map fun (ds, r) => (c :: ds, r) else none
  | c :: cs =>
    if isDigit c then (readGroup isDigit cs).map fun (ds, r) => (c :: ds, r)
    else if c = '_' then none
    else some ([], c :: cs)

/-- Reads one or more digits. -/
def readDigits (isDigit : Char → Bool) : List Char → Option (List Char × List Char)
  | c :: cs =>
    if isDigit c then (readGroup isDigit cs).map fun (ds, r) => (c :: ds, r) else none
  | [] => none

/-- Reads the whole digits of a number; a zero in front stands alone. -/
def readWhole : List Char → Option (List Char × List Char)
  | '0' :: cs => some (['0'], cs)
  | cs => readDigits Char.isDigit cs

/-- Reads a sign, if there is one: whether it is negative. -/
def readSign : List Char → Bool × List Char
  | '-' :: cs => (true, cs)
  | '+' :: cs => (false, cs)
  | cs => (false, cs)

/-- The integer of a sign and a magnitude, if it fits into 64 bits. -/
def integer? (negative : Bool) (n : Nat) : Option Item :=
  let i : Int := if negative then -(n : Int) else n
  if Int64.minValue.toInt ≤ i ∧ i ≤ Int64.maxValue.toInt then some (.integer i) else none

/-- The double of decimal digits; positive infinity is out of range. -/
def float? (negative : Bool) (whole fraction : List Char) (exponent : Int) : Option Item :=
  let x := (Binary64.ofDecimal (Json.digitsValue (whole ++ fraction))
    (exponent - fraction.length)).withSign negative
  if x = Binary64.infinity then none else some (.float x)

/-- Reads the exponent of a number after its mark. -/
def readExponent (cs : List Char) : Option (Int × List Char) := do
  let (negative, cs) := readSign cs
  let (ds, rest) ← readDigits Char.isDigit cs
  let n : Int := Json.digitsValue ds
  return (if negative then -n else n, rest)

/-- Reads what follows the whole digits and the fraction of a double. -/
def readFloatEnd (negative : Bool) (whole fraction : List Char) :
    List Char → Option (Item × List Char)
  | 'e' :: cs => do
    let (e, rest) ← readExponent cs
    return (← float? negative whole fraction e, rest)
  | 'E' :: cs => do
    let (e, rest) ← readExponent cs
    return (← float? negative whole fraction e, rest)
  | cs => do return (← float? negative whole fraction 0, cs)

/-- Reads a decimal number after its sign. -/
def readDecimal (negative : Bool) (cs : List Char) : Option (Item × List Char) := do
  let (whole, rest) ← readWhole cs
  match rest with
  | '.' :: rest =>
    let (fraction, rest) ← readDigits Char.isDigit rest
    readFloatEnd negative whole fraction rest
  | 'e' :: _ => readFloatEnd negative whole [] rest
  | 'E' :: _ => readFloatEnd negative whole [] rest
  | rest => return (← integer? negative (Json.digitsValue whole), rest)

/-- Whether a character is a digit of the base, at most 16. -/
def isDigitOf (base : Nat) (c : Char) : Bool :=
  (Json.hexValue? c).any (· < base)

/-- Reads an integer after the mark of its base. -/
def readBased (base : Nat) (cs : List Char) : Option (Item × List Char) := do
  let (ds, rest) ← readDigits (isDigitOf base) cs
  let n := ds.foldl (fun n c => base * n + (Json.hexValue? c).getD 0) 0
  return (← integer? false n, rest)

/-- A NaN, with the sign bit set if it is negative. -/
def nan (negative : Bool) : Item :=
  .float ((⟨0x7ff8000000000000⟩ : Binary64).withSign negative)

/-- Reads a number after its sign. -/
def readSigned (negative : Bool) : List Char → Option (Item × List Char)
  | 'i' :: 'n' :: 'f' :: cs => some (.float (Binary64.infinity.withSign negative), cs)
  | 'n' :: 'a' :: 'n' :: cs => some (nan negative, cs)
  | cs => readDecimal negative cs

/-- Reads a number. -/
def readNumber : List Char → Option (Item × List Char)
  | '0' :: 'x' :: cs => readBased 16 cs
  | '0' :: 'o' :: cs => readBased 8 cs
  | '0' :: 'b' :: cs => readBased 2 cs
  | cs =>
    let (negative, cs) := readSign cs
    readSigned negative cs

/-- Reads a number of exactly `width` decimal digits. -/
def readFixed (width : Nat) (cs : List Char) : Option ((List Char × Nat) × List Char) :=
  let ds := cs.take width
  if ds.length = width ∧ ds.all Char.isDigit then
    some ((ds, Json.digitsValue ds), cs.drop width)
  else none

/-- The digits of a fraction: at most nine, and no zeros at the end. -/
def fractionText (ds : List Char) : List Char :=
  match ((ds.take 9).reverse.dropWhile (· == '0')).reverse with
  | [] => []
  | ds => '.' :: ds

/-- Reads the fraction of a second, if there is one. -/
def readSecondFraction : List Char → Option (List Char × List Char)
  | '.' :: cs =>
    let ds := cs.takeWhile Char.isDigit
    if ds.isEmpty then none else some (fractionText ds, cs.dropWhile Char.isDigit)
  | cs => some ([], cs)

/-- Reads an hour and a minute, as text and in minutes. -/
def readHourMinute (cs : List Char) : Option ((List Char × Nat) × List Char) := do
  let ((h, hour), cs) ← readFixed 2 cs
  guard (hour < 24)
  match cs with
  | ':' :: cs =>
    let ((m, minute), cs) ← readFixed 2 cs
    guard (minute < 60)
    return ((h ++ ':' :: m, hour * 60 + minute), cs)
  | _ => none

/-- Reads a time of day. -/
def readTime (cs : List Char) : Option (List Char × List Char) := do
  let ((text, _), cs) ← readHourMinute cs
  match cs with
  | ':' :: cs =>
    let ((s, second), cs) ← readFixed 2 cs
    guard (second ≤ 60)
    let (fraction, cs) ← readSecondFraction cs
    return (text ++ ':' :: s ++ fraction, cs)
  | _ => none

/-- Reads a day. -/
def readDate (cs : List Char) : Option (List Char × List Char) := do
  let ((y, year), cs) ← readFixed 4 cs
  match cs with
  | '-' :: cs =>
    let ((m, month), cs) ← readFixed 2 cs
    match cs with
    | '-' :: cs =>
      let ((d, day), cs) ← readFixed 2 cs
      guard (IsDay year month day)
      return (y ++ '-' :: m ++ '-' :: d, cs)
    | _ => none
  | _ => none

/-- Reads the zone of a time, if there is one. A zone of no offset is written with a plus sign. -/
def readZone : List Char → Option (List Char × List Char)
  | 'Z' :: cs => some (['Z'], cs)
  | 'z' :: cs => some (['Z'], cs)
  | '+' :: cs => (readHourMinute cs).map fun ((text, _), rest) => ('+' :: text, rest)
  | '-' :: cs => (readHourMinute cs).map fun ((text, minutes), rest) =>
    ((if minutes = 0 then '+' else '-') :: text, rest)
  | cs => some ([], cs)

/-- Reads the time and zone after a day, if there are any. -/
def readTimeAfterDate (date : List Char) (cs : List Char) : Option (List Char × List Char) :=
  let time (rest : List Char) : Option (List Char × List Char) := do
    let (time, rest) ← readTime rest
    let (zone, rest) ← readZone rest
    return (date ++ 'T' :: time ++ zone, rest)
  match cs with
  | 'T' :: rest => time rest
  | 't' :: rest => time rest
  | ' ' :: rest =>
    match rest with
    | c :: _ => if c.isDigit then time rest else some (date, cs)
    | [] => some (date, cs)
  | cs => some (date, cs)

/-- Whether a text starts like a day: four digits and a hyphen. -/
def startsDate : List Char → Bool
  | a :: b :: c :: d :: '-' :: _ => [a, b, c, d].all Char.isDigit
  | _ => false

/-- Whether a text starts like a time of day: two digits and a colon. -/
def startsTime : List Char → Bool
  | a :: b :: ':' :: _ => a.isDigit && b.isDigit
  | _ => false

/-- Reads a day, a time of day, or both. -/
def readDateOrTime (cs : List Char) : Option (List Char × List Char) :=
  if startsDate cs then do
    let (date, rest) ← readDate cs
    readTimeAfterDate date rest
  else readTime cs

/-- Reads a date, a time, both, or a number. -/
def readNumberOrDate (cs : List Char) : Option (Item × List Char) :=
  if startsDate cs || startsTime cs then
    (readDateOrTime cs).map fun (text, rest) => (.dateTime (String.ofList text), rest)
  else readNumber cs

end ObjectQuery.Toml
