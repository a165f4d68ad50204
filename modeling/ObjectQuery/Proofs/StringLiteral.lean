import Mathlib
import ObjectQuery.Platform

/-!
# Reading string literals

How each platform reads a string literal, from the quote in front to the quote behind. A literal that
is written for a string is read back as the string, whatever text follows, so no string can end its
literal early (`readLiteral_literal`).
-/

namespace ObjectQuery.Platform

/-- What a character stands for behind a backslash. In front of the wildcards of a pattern the
backslash stays. -/
def unescape : Char → List Char
  | '0' => ['\x00']
  | 'b' => ['\x08']
  | 'n' => ['\n']
  | 'r' => ['\r']
  | 't' => ['\t']
  | 'Z' => ['\x1a']
  | '%' => ['\\', '%']
  | '_' => ['\\', '_']
  | c => [c]

/-- Text that is read before the rest. -/
def prepend (text : List Char) (read : Option (List Char × List Char)) :
    Option (List Char × List Char) :=
  read.map fun r => (text ++ r.1, r.2)

/-- The text up to the closing quote and what follows it. Two quotes are one in the text, and in MySQL
a backslash escapes what comes next. -/
def readText (p : Platform) : List Char → Option (List Char × List Char)
  | [] => none
  | [c] => if c = '\'' then some ([], []) else none
  | c :: d :: rest =>
    if c = '\'' then
      if d = '\'' then prepend ['\''] (readText p rest) else some ([], d :: rest)
    else if c = '\\' ∧ p = .mySQL then prepend (unescape d) (readText p rest)
    else prepend [c] (readText p (d :: rest))

/-- The string of the literal at the beginning of a text and what follows the literal. -/
def readLiteral (p : Platform) (text : String) : Option (String × String) :=
  match text.toList with
  | [] => none
  | c :: rest =>
    if c = '\'' then (readText p rest).map fun r => (String.ofList r.1, String.ofList r.2) else none

/-- Doubles each occurrence of a character. -/
def double (c : Char) (text : List Char) : List Char :=
  text.flatMap fun d => if d = c then [c, c] else [d]

/-- Text as it stands between the quotes: in MySQL backslashes are doubled and after that quotes, on
other platforms quotes only. -/
def escape : Platform → List Char → List Char
  | .mySQL, text => double '\'' (double '\\' text)
  | _, text => double '\'' text

/-- One pass writes what the replacements do one after the other. -/
lemma flatMap_quoteChar (p : Platform) (text : List Char) :
    text.flatMap p.quoteChar = p.escape text := by
  cases p with
  | mySQL =>
    show _ = double '\'' (double '\\' text)
    unfold double
    rw [List.flatMap_assoc]
    congr 1
    funext c
    by_cases hquote : c = '\''
    · subst hquote
      rfl
    · by_cases hbackslash : c = '\\'
      · subst hbackslash
        rfl
      · simp [quoteChar, hquote, hbackslash]
  | postgreSQL | sqlite =>
    show _ = double '\'' text
    unfold double
    congr 1
    funext c
    simp [quoteChar]

section

variable {p : Platform} {c : Char} {rest : List Char}

lemma readText_quotes : p.readText ('\'' :: '\'' :: rest) = prepend ['\''] (p.readText rest) := by
  rw [readText, if_pos rfl, if_pos rfl]

/-- A quote that no other one follows ends the literal. -/
lemma readText_close (h : rest.head? ≠ some '\'') : p.readText ('\'' :: rest) = some ([], rest) := by
  cases rest with
  | nil => rw [readText, if_pos rfl]
  | cons d rest =>
    have hne : d ≠ '\'' := by
      rintro rfl
      exact h rfl
    rw [readText, if_pos rfl, if_neg hne]

lemma readText_backslash :
    readText .mySQL ('\\' :: c :: rest) = prepend (unescape c) (readText .mySQL rest) := by
  rw [readText, if_neg (by decide), if_pos ⟨rfl, rfl⟩]

lemma readText_cons (hquote : c ≠ '\'') (hbackslash : ¬ (c = '\\' ∧ p = .mySQL)) :
    p.readText (c :: rest) = prepend [c] (p.readText rest) := by
  cases rest with
  | nil =>
    have hnone : p.readText [c] = none := by
      rw [readText, if_neg hquote]
    exact hnone
  | cons d rest => rw [readText, if_neg hquote, if_neg hbackslash]

lemma readText_quoteChar (p : Platform) (c : Char) (rest : List Char) :
    p.readText (p.quoteChar c ++ rest) = prepend [c] (p.readText rest) := by
  unfold quoteChar
  split
  · rename_i hquote
    subst hquote
    exact readText_quotes
  · rename_i hquote
    split
    · rename_i hbackslash
      obtain ⟨rfl, rfl⟩ := hbackslash
      exact readText_backslash
    · rename_i hbackslash
      exact readText_cons hquote hbackslash

end

lemma readText_escape (p : Platform) (text : List Char) {after : List Char}
    (hafter : after.head? ≠ some '\'') :
    p.readText (p.escape text ++ '\'' :: after) = some (text, after) := by
  rw [← flatMap_quoteChar]
  induction text with
  | nil => exact readText_close hafter
  | cons c text ih =>
    rw [List.flatMap_cons, List.append_assoc, readText_quoteChar, ih]
    rfl

lemma toList_quote (p : Platform) (s : String) :
    (p.quote s).toList = '\'' :: p.escape s.toList ++ ['\''] := by
  rw [quote, String.toList_ofList, flatMap_quoteChar]

lemma readLiteral_quote (p : Platform) (s : String) {after : String}
    (hafter : after.toList.head? ≠ some '\'') :
    p.readLiteral (p.quote s ++ after) = some (s, after) := by
  have happend : (p.quote s ++ after).toList =
      '\'' :: (p.escape s.toList ++ '\'' :: after.toList) := by
    rw [String.toList_append, toList_quote]
    simp
  unfold readLiteral
  rw [happend]
  show (p.readText (p.escape s.toList ++ '\'' :: after.toList)).map _ = _
  rw [readText_escape p s.toList hafter, Option.map_some, String.ofList_toList,
    String.ofList_toList]

/-- The literal of a string is the escaped string in quotes. Before text that does not go on with a
quote it is read back as the string, so no other string has the literal. -/
theorem readLiteral_literal (p : Platform) (s : String) :
    ∃ text, p.literal (.string s) = .ok text ∧
      text.toList = '\'' :: p.escape s.toList ++ ['\''] ∧
      (∀ after : String, after.toList.head? ≠ some '\'' →
        p.readLiteral (text ++ after) = some (s, after)) ∧
      ∀ s', p.literal (.string s') = .ok text → s' = s := by
  refine ⟨p.quote s, rfl, p.toList_quote s, fun after => p.readLiteral_quote s, ?_⟩
  intro s' hs'
  have hsame : p.quote s' = p.quote s := Except.ok.inj hs'
  have hempty : "".toList.head? ≠ some '\'' := nofun
  have hs := p.readLiteral_quote s hempty
  rw [← hsame, p.readLiteral_quote s' hempty] at hs
  cases hs
  rfl

/-- A path that ends in a backslash is read back by MySQL from in front of further conditions. -/
theorem readLiteral_literal_path :
    ∃ text, Platform.mySQL.literal (.string "O'Brien\\") = .ok text ∧
      text.toList = "'O''Brien\\\\'".toList ∧
      " OR 1 = 1".toList.head? ≠ some '\'' ∧
      Platform.mySQL.readLiteral (text ++ " OR 1 = 1") = some ("O'Brien\\", " OR 1 = 1") := by
  obtain ⟨text, htext, hlist, hread, _⟩ := readLiteral_literal .mySQL "O'Brien\\"
  have hafter : " OR 1 = 1".toList.head? ≠ some '\'' := by decide +kernel
  have hescaped : '\'' :: Platform.mySQL.escape "O'Brien\\".toList ++ ['\''] =
      "'O''Brien\\\\'".toList := by
    decide +kernel
  exact ⟨text, htext, hlist.trans hescaped, hafter, hread _ hafter⟩

end ObjectQuery.Platform
