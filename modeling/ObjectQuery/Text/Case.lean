import ObjectQuery.Text.CaseTable

/-!
# Full case mapping

Upper- and lower-casing of text over all of Unicode, with the mappings from one character to several
and the rule for a capital sigma at the end of a word.
-/

namespace ObjectQuery.Text

/-- The characters with the given code points. -/
def charsOf (codes : List Nat) : List Char :=
  codes.map Char.ofNat

/-- The image of a character under case mapping data: an expansion, else a run, else itself. -/
def mapCase (expansions : List (Nat × List Nat)) (runs : List CaseRun) (c : Char) : List Char :=
  match expansions.lookup c.toNat with
  | some codes => charsOf codes
  | none =>
    match runs.findSome? (·.map? c.toNat) with
    | some code => [Char.ofNat code]
    | none => [c]

/-- The upper-case form of a character. -/
def upperChar (c : Char) : List Char :=
  mapCase upperExpansions upperRuns c

/-- The lower-case form of a character away from its neighbours. -/
def lowerChar (c : Char) : List Char :=
  mapCase lowerExpansions lowerRuns c

/-- Whether one of the spans holds the character. -/
def inSpans (spans : List (Nat × Nat)) (c : Char) : Bool :=
  spans.any fun (first, last) => decide (first ≤ c.toNat ∧ c.toNat ≤ last)

/-- Whether the first character that is not case-ignorable is cased. -/
def nextIsCased (cs : List Char) : Bool :=
  match cs.dropWhile (inSpans caseIgnorableSpans) with
  | [] => false
  | c :: _ => inSpans casedSpans c

/-- A capital sigma ends a word when a cased character precedes it and none follows it. -/
def lowerSigma (before after : List Char) : Char :=
  if nextIsCased before && !nextIsCased after then 'ς' else 'σ'

/-- Lower-cases the characters after `before`, which is held in reverse. -/
def lowerFrom (before : List Char) : List Char → List Char
  | [] => []
  | c :: cs =>
    (if c = 'Σ' then [lowerSigma before cs] else lowerChar c) ++ lowerFrom (c :: before) cs

/-- The text in upper case. -/
def upperCase (s : String) : String :=
  String.ofList (s.toList.flatMap upperChar)

/-- The text in lower case. -/
def lowerCase (s : String) : String :=
  String.ofList (lowerFrom [] s.toList)

/-- The text with its ASCII letters in lower case and all else kept. -/
def asciiLowerCase (s : String) : String :=
  s.map Char.toLower

/-- The text with its first character in upper case. -/
def capitalise (s : String) : String :=
  match s.toList with
  | [] => ""
  | c :: cs => String.ofList (upperChar c ++ cs)

/-- Upper-casing goes character by character. -/
@[simp] theorem toList_upperCase (s : String) :
    (upperCase s).toList = s.toList.flatMap upperChar := by
  simp [upperCase]

/-- Upper-casing distributes over concatenation. -/
theorem upperCase_append (s t : String) : upperCase (s ++ t) = upperCase s ++ upperCase t := by
  simp [upperCase]

end ObjectQuery.Text
