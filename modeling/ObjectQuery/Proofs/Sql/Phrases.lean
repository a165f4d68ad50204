import Mathlib
import ObjectQuery.Query.Operator

/-!
# Phrases

The pieces that the text of an expression is made of, and the trees that they are read as. Every
operation stands between parentheses or behind the name of a function, so a reader with a stack of
what is open finds the tree from the left to the right (`Phrase.read_lexemes`). A field and a literal
are one piece each, and the reader does not look into them.
-/

namespace ObjectQuery.Sql

/-- A function with its operands between parentheses. -/
inductive SqlFunction where
  | substring
  | position
  | aggregate (op : Aggregate)
deriving DecidableEq

namespace SqlFunction

/-- The name of the function. -/
def text : SqlFunction → String
  | .substring => "SUBSTR"
  | .position => "STRPOS"
  | .aggregate op => op.text

end SqlFunction

/-- A piece of the text of an expression. -/
inductive Lexeme where
  | openParen
  | closeParen
  | comma
  | star
  | castSign
  | operator (op : Arithmetic)
  | function (f : SqlFunction)
  | type (name : String)
  | field (text : String)
  | literal (text : String)
deriving DecidableEq

namespace Lexeme

/-- The text of the piece, with the blanks around it. -/
def text : Lexeme → String
  | .openParen => "("
  | .closeParen => ")"
  | .comma => ", "
  | .star => "*"
  | .castSign => "::"
  | .operator op => " " ++ op.text ++ " "
  | .function f => f.text
  | .type name => name
  | .field text => text
  | .literal text => text

end Lexeme

/-- What an expression is read as. -/
inductive Phrase where
  | field (text : String)
  | literal (text : String)
  | arithmetic (op : Arithmetic) (left right : Phrase)
  | suffix (base start : Phrase)
  | substring (base start length : Phrase)
  | indexOf (haystack needle : Phrase)
  | aggregate (op : Aggregate) (operand : Phrase)
  | countRows
  | cast (inner : Phrase) (type : String)
deriving DecidableEq

namespace Phrase

/-- The pieces that the phrase is written in. -/
def lexemes : Phrase → List Lexeme
  | .field text => [.field text]
  | .literal text => [.literal text]
  | .arithmetic op l r => .openParen :: (l.lexemes ++ .operator op :: (r.lexemes ++ [.closeParen]))
  | .suffix b s =>
    .function .substring :: .openParen :: (b.lexemes ++ .comma :: (s.lexemes ++ [.closeParen]))
  | .substring b s n =>
    .function .substring :: .openParen ::
      (b.lexemes ++ .comma :: (s.lexemes ++ .comma :: (n.lexemes ++ [.closeParen])))
  | .indexOf h n =>
    .function .position :: .openParen :: (h.lexemes ++ .comma :: (n.lexemes ++ [.closeParen]))
  | .aggregate op e =>
    .function (.aggregate op) :: .openParen :: (e.lexemes ++ [.closeParen])
  | .countRows => [.function (.aggregate .count), .openParen, .star, .closeParen]
  | .cast e type => .openParen :: (e.lexemes ++ [.closeParen, .castSign, .type type])

/-- What a function makes of its operands. -/
def ofCall : SqlFunction → List Phrase → Option Phrase
  | .substring, [b, s] => some (.suffix b s)
  | .substring, [b, s, n] => some (.substring b s n)
  | .position, [h, n] => some (.indexOf h n)
  | .aggregate op, [e] => some (.aggregate op e)
  | _, _ => none

/-- What is open around the place that a reader is at. -/
inductive Frame where
  /-- A parenthesis with nothing behind it. -/
  | paren
  /-- A parenthesis with a left operand and an operator behind it. -/
  | operation (left : Phrase) (op : Arithmetic)
  /-- A function with the operands that are complete. -/
  | call (f : SqlFunction) (operands : List Phrase)

/-- What a reader has just read. -/
inductive Focus where
  /-- Nothing of the next phrase. -/
  | start
  /-- The name of a function. -/
  | named (f : SqlFunction)
  /-- The star that all rows are counted by. -/
  | star
  | phrase (p : Phrase)
  /-- A phrase between parentheses. -/
  | parenthesized (p : Phrase)
  /-- The phrase that is to be cast, and the sign of the cast. -/
  | casting (p : Phrase)

/-- A reader of pieces from the left to the right. -/
structure Reader where
  focus : Focus
  outer : List Frame

namespace Reader

/-- Reads a piece, if it can stand here. -/
def step : Reader → Lexeme → Option Reader
  | ⟨.start, outer⟩, .field text => some ⟨.phrase (.field text), outer⟩
  | ⟨.start, outer⟩, .literal text => some ⟨.phrase (.literal text), outer⟩
  | ⟨.start, outer⟩, .openParen => some ⟨.start, .paren :: outer⟩
  | ⟨.start, outer⟩, .function f => some ⟨.named f, outer⟩
  | ⟨.start, .call (.aggregate .count) [] :: outer⟩, .star =>
    some ⟨.star, .call (.aggregate .count) [] :: outer⟩
  | ⟨.named f, outer⟩, .openParen => some ⟨.start, .call f [] :: outer⟩
  | ⟨.star, .call (.aggregate .count) [] :: outer⟩, .closeParen => some ⟨.phrase .countRows, outer⟩
  | ⟨.phrase p, .paren :: outer⟩, .operator op => some ⟨.start, .operation p op :: outer⟩
  | ⟨.phrase p, .call f operands :: outer⟩, .comma =>
    some ⟨.start, .call f (operands ++ [p]) :: outer⟩
  | ⟨.phrase p, .paren :: outer⟩, .closeParen => some ⟨.parenthesized p, outer⟩
  | ⟨.phrase p, .operation l op :: outer⟩, .closeParen =>
    some ⟨.phrase (.arithmetic op l p), outer⟩
  | ⟨.phrase p, .call f operands :: outer⟩, .closeParen =>
    (ofCall f (operands ++ [p])).map fun q => ⟨.phrase q, outer⟩
  | ⟨.parenthesized p, outer⟩, .castSign => some ⟨.casting p, outer⟩
  | ⟨.casting p, outer⟩, .type name => some ⟨.phrase (.cast p name), outer⟩
  | _, _ => none

/-- Reads pieces in a row. -/
def run (r : Reader) (lexemes : List Lexeme) : Option Reader :=
  lexemes.foldlM step r

@[simp] lemma run_nil (r : Reader) : r.run [] = some r := rfl

@[simp] lemma run_cons (r : Reader) (lexeme : Lexeme) (lexemes : List Lexeme) :
    r.run (lexeme :: lexemes) = (r.step lexeme).bind (run · lexemes) := rfl

/-- The reader comes from the start of a phrase to its end, whatever is open around it. -/
lemma run_lexemes (p : Phrase) (outer : List Frame) (rest : List Lexeme) :
    run ⟨.start, outer⟩ (p.lexemes ++ rest) = run ⟨.phrase p, outer⟩ rest := by
  induction p generalizing outer rest with
  | field text => rfl
  | literal text => rfl
  | arithmetic op l r ihl ihr => simp [lexemes, step, ihl, ihr]
  | suffix b s ihb ihs => simp [lexemes, step, ofCall, ihb, ihs]
  | substring b s n ihb ihs ihn => simp [lexemes, step, ofCall, ihb, ihs, ihn]
  | indexOf h n ihh ihn => simp [lexemes, step, ofCall, ihh, ihn]
  | aggregate op e ih => simp [lexemes, step, ofCall, ih]
  | countRows => rfl
  | cast e type ih => simp [lexemes, step, ih]

end Reader

/-- The phrase that pieces are read as, if they are the pieces of one. -/
def read (lexemes : List Lexeme) : Option Phrase :=
  match Reader.run ⟨.start, []⟩ lexemes with
  | some ⟨.phrase p, []⟩ => some p
  | _ => none

/-- The pieces of a phrase are read as the phrase. -/
lemma read_lexemes (p : Phrase) : read p.lexemes = some p := by
  have hrun := Reader.run_lexemes p [] []
  rw [List.append_nil, Reader.run_nil] at hrun
  rw [read, hrun]

/-- Phrases with the same pieces are the same. -/
lemma lexemes_injective : Function.Injective lexemes := by
  intro p q h
  have hread := congrArg read h
  rw [read_lexemes, read_lexemes] at hread
  exact Option.some.inj hread

end Phrase

end ObjectQuery.Sql
