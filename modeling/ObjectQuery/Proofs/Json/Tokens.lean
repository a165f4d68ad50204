import Mathlib
import ObjectQuery.Json.Reader
import ObjectQuery.Json.Writer

/-!
# Strings and integers in JSON text

A string is written character by character, and each character is read back from what it is written
as, whether it is escaped or not (`readString_escape`). The digits of an integer are read as a
numeral as long as what follows does not go on with one (`readNumeral_integerChars`), and an integer
of 64 bits is the value of its numeral (`Numeral.value?_ofInt`).
-/

namespace ObjectQuery.Json

section Strings

variable {c : Char} {cs : List Char}

/-- A piece that is read before the rest of a string. -/
def prependPiece (p : Piece) (read : Option (List Piece × List Char)) :
    Option (List Piece × List Char) :=
  read.map fun r => (p :: r.1, r.2)

lemma bind_prependPiece (p : Piece) (read : Option (List Piece × List Char)) :
    (do let (ps, rest) ← read; some (p :: ps, rest)) = prependPiece p read := by
  cases read <;> rfl

lemma readPieces_escaped {e : Char} (h : escaped? e = some c) (cs : List Char) :
    readPieces ('\\' :: e :: cs) = prependPiece (.char c) (readPieces cs) := by
  have hne : e ≠ 'u' := by
    rintro rfl
    cases h
  rw [readPieces, h, ← bind_prependPiece]
  · rfl
  · intro a b c' d rest heq
    exact absurd heq hne

lemma readPieces_unit {a b d e : Char} {n : Nat} (h : hexNumber? [a, b, d, e] = some n)
    (cs : List Char) :
    readPieces ('\\' :: 'u' :: a :: b :: d :: e :: cs) =
      prependPiece (.unit n) (readPieces cs) := by
  rw [readPieces, h, ← bind_prependPiece]
  rfl

lemma readPieces_char (hquote : c ≠ '"') (hbackslash : c ≠ '\\') (hcontrol : 0x20 ≤ c.toNat)
    (cs : List Char) : readPieces (c :: cs) = prependPiece (.char c) (readPieces cs) := by
  rw [readPieces, ← bind_prependPiece]
  · simp [hcontrol]
  all_goals simp [hquote, hbackslash]

/-- A character is written as an escape of one letter, by its number if it is another control
character, or else as it is. -/
lemma escapeChar_cases (c : Char) :
    (∃ e, escaped? e = some c ∧ escapeChar c = ['\\', e]) ∨
    (c.toNat < 0x20 ∧ escapeChar c =
      ['\\', 'u', '0', '0', hexDigit (c.toNat / 16), hexDigit (c.toNat % 16)]) ∨
    (c ≠ '"' ∧ c ≠ '\\' ∧ 0x20 ≤ c.toNat ∧ escapeChar c = [c]) := by
  unfold escapeChar
  split_ifs with hquote hbackslash hbackspace hfeed hline hreturn htab hcontrol
  case pos =>
    subst hquote
    exact .inl ⟨_, rfl, rfl⟩
  case pos =>
    subst hbackslash
    exact .inl ⟨_, rfl, rfl⟩
  case pos =>
    subst hbackspace
    exact .inl ⟨_, rfl, rfl⟩
  case pos =>
    subst hfeed
    exact .inl ⟨_, rfl, rfl⟩
  case pos =>
    subst hline
    exact .inl ⟨_, rfl, rfl⟩
  case pos =>
    subst hreturn
    exact .inl ⟨_, rfl, rfl⟩
  case pos =>
    subst htab
    exact .inl ⟨_, rfl, rfl⟩
  case pos => exact .inr (.inl ⟨hcontrol, rfl⟩)
  case neg => exact .inr (.inr ⟨hquote, hbackslash, Nat.le_of_not_lt hcontrol, rfl⟩)

lemma hexNumber?_control : ∀ n < 0x20,
    hexNumber? ['0', '0', hexDigit (n / 16), hexDigit (n % 16)] = some n := by
  decide

lemma textOf?_control (h : c.toNat < 0x20) (ps : List Piece) :
    textOf? (.unit c.toNat :: ps) = (textOf? ps).map (c :: ·) := by
  have hhigh : isHighUnit c.toNat = false := by
    simp only [isHighUnit, Bool.and_eq_false_iff, decide_eq_false_iff_not]
    omega
  have hlow : isLowUnit c.toNat = false := by
    simp only [isLowUnit, Bool.and_eq_false_iff, decide_eq_false_iff_not]
    omega
  rw [textOf?.eq_def]
  simp [hhigh, hlow]

/-- A character of a string is written so that one piece is read, which stands for the character. -/
lemma exists_piece (c : Char) : ∃ p,
    (∀ ps, textOf? (p :: ps) = (textOf? ps).map (c :: ·)) ∧
    ∀ cs, readPieces (escapeChar c ++ cs) = prependPiece p (readPieces cs) := by
  rcases escapeChar_cases c with ⟨e, he, hc⟩ | ⟨hcontrol, hc⟩ | ⟨hquote, hbackslash, hplain, hc⟩
  · rw [hc]
    exact ⟨.char c, fun ps => rfl, readPieces_escaped he⟩
  · rw [hc]
    exact ⟨.unit c.toNat, textOf?_control hcontrol,
      readPieces_unit (hexNumber?_control c.toNat hcontrol)⟩
  · rw [hc]
    exact ⟨.char c, fun ps => rfl, readPieces_char hquote hbackslash hplain⟩

/-- The characters of a string are read as pieces that spell it. -/
lemma exists_pieces (text rest : List Char) : ∃ ps, textOf? ps = some text ∧
    readPieces (text.flatMap escapeChar ++ '"' :: rest) = some (ps, rest) := by
  induction text with
  | nil => exact ⟨[], rfl, rfl⟩
  | cons c text ih =>
    obtain ⟨ps, htext, hread⟩ := ih
    obtain ⟨p, hp, hc⟩ := exists_piece c
    refine ⟨p :: ps, ?_, ?_⟩
    · rw [hp, htext]
      rfl
    · rw [List.flatMap_cons, List.append_assoc, hc, hread]
      rfl

/-- A string is read back, whatever follows its closing quote. -/
lemma readString_escape (s : String) (rest : List Char) :
    readString (s.toList.flatMap escapeChar ++ '"' :: rest) = some (some s, rest) := by
  obtain ⟨ps, htext, hread⟩ := exists_pieces s.toList rest
  simp [readString, hread, htext]

end Strings

section Numerals

/-- The numeral that an integer is written as. -/
def Numeral.ofInt (n : Int) : Numeral :=
  ⟨decide (n < 0), Nat.toDigits 10 n.natAbs, [], none⟩

/-- A numeral that is read before the text ends there. -/
def EndsNumeral (rest : List Char) : Prop :=
  ∀ c ∈ rest.head?, c.isDigit = false ∧ c ≠ '.' ∧ c ≠ 'e' ∧ c ≠ 'E'

/-- The digits of a number spell it. -/
lemma digitsValue_toDigits (n : Nat) : digitsValue (Nat.toDigits 10 n) = n := by
  have hvalue := Nat.ofDigitChars_ten_toDigits (n := n)
  rw [Nat.ofDigitChars_eq_foldl] at hvalue
  exact hvalue

/-- Only zero starts with a zero. -/
lemma head?_toDigits {n : Nat} (hn : n ≠ 0) : (Nat.toDigits 10 n).head? ≠ some '0' := by
  induction n using Nat.strong_induction_on with
  | h n ih =>
    by_cases hlt : n < 10
    · have hpos : 0 < n := Nat.pos_of_ne_zero hn
      rw [Nat.toDigits_of_lt_base hlt]
      interval_cases n <;> decide
    · rw [Nat.toDigits_of_base_le (by omega) (by omega),
        List.head?_append_of_ne_nil _ Nat.toDigits_ne_nil]
      exact ih (n / 10) (by omega) (by omega)

lemma spanDigits_append {ds rest : List Char} (hds : ∀ c ∈ ds, c.isDigit = true)
    (hrest : ∀ c ∈ rest.head?, c.isDigit = false) : spanDigits (ds ++ rest) = (ds, rest) := by
  have hstop : rest.takeWhile Char.isDigit = [] ∧ rest.dropWhile Char.isDigit = rest := by
    cases rest with
    | nil => exact ⟨rfl, rfl⟩
    | cons c rest =>
      have hc : c.isDigit = false := hrest c rfl
      simp [hc]
  rw [spanDigits, List.takeWhile_append_of_pos hds, List.dropWhile_append_of_pos hds, hstop.1,
    hstop.2, List.append_nil]

lemma readUnsigned_toDigits (negative : Bool) (n : Nat) {rest : List Char}
    (hrest : EndsNumeral rest) :
    readUnsigned negative (Nat.toDigits 10 n ++ rest) =
      some (⟨negative, Nat.toDigits 10 n, [], none⟩, rest) := by
  have hdigits : ∀ c ∈ Nat.toDigits 10 n, c.isDigit = true :=
    fun c hc => Nat.isDigit_of_mem_toDigits (by decide) le_rfl hc
  have hspan := spanDigits_append hdigits fun c hc => (hrest c hc).1
  have hfirst : (Nat.toDigits 10 n).head? ≠ some '0' ∨ (Nat.toDigits 10 n).length = 1 := by
    by_cases hn : n = 0
    · subst hn
      exact .inr rfl
    · exact .inl (head?_toDigits hn)
  have hfraction : readFraction rest = some ([], rest) := by
    cases rest with
    | nil => rfl
    | cons c rest =>
      have hc : c ≠ '.' := (hrest c rfl).2.1
      simp [readFraction, hc]
  have hexponent : readExponent rest = some (none, rest) := by
    cases rest with
    | nil => rfl
    | cons c rest =>
      obtain ⟨_, _, he, hE⟩ := hrest c rfl
      simp [readExponent, he, hE]
  simp [readUnsigned, hspan, hfraction, hexponent, Nat.toDigits_ne_nil, hfirst]

/-- An integer is read as its numeral. -/
lemma readNumeral_integerChars (n : Int) {rest : List Char} (hrest : EndsNumeral rest) :
    readNumeral (integerChars n ++ rest) = some (.ofInt n, rest) := by
  unfold integerChars
  split
  · rename_i hn
    have hread := readUnsigned_toDigits true n.natAbs hrest
    rw [List.cons_append, readNumeral, hread, Numeral.ofInt, decide_eq_true hn]
  · rename_i hn
    have hread := readUnsigned_toDigits false n.natAbs hrest
    have hsign : ∀ cs, Nat.toDigits 10 n.natAbs ++ rest ≠ '-' :: cs := by
      intro cs heq
      have hhead := congrArg List.head? heq
      rw [List.head?_append_of_ne_nil _ Nat.toDigits_ne_nil] at hhead
      have hdigit : '-'.isDigit = true :=
        Nat.isDigit_of_mem_toDigits (by decide) le_rfl (List.mem_of_mem_head? hhead)
      exact absurd hdigit (by decide)
    rw [readNumeral, hread, Numeral.ofInt, decide_eq_false hn]
    exact hsign

/-- An integer of 64 bits, with a sign or without, is the value of its numeral. -/
lemma Numeral.value?_ofInt {n : Int} (hlower : -0x8000000000000000 ≤ n)
    (hupper : n < 0x10000000000000000) : (Numeral.ofInt n).value? = some (.integer n) := by
  have hlimit : significandLimit = 0x10000000000000000 := rfl
  unfold value? ofInt
  simp only [digitsValue_toDigits, List.isEmpty_nil, Option.isNone_none, Bool.and_self,
    Bool.true_and, decide_eq_true_eq, hlimit]
  by_cases hn : n < 0
  · have habs : -(n.natAbs : Int) = n := by omega
    have hfits : n.natAbs ≠ 0 ∧ n.natAbs ≤ 0x8000000000000000 := by omega
    simp only [hn, if_true, habs]
    rw [if_pos (by simpa using hfits)]
  · have habs : (n.natAbs : Int) = n := by omega
    have hfits : n.natAbs < 0x10000000000000000 := by omega
    simp only [hn, if_false, habs]
    rw [if_pos (by simpa using hfits)]

end Numerals

end ObjectQuery.Json
