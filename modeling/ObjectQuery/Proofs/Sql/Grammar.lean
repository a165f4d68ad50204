import Mathlib
import ObjectQuery.Proofs.Sql.Truth

/-!
# Reading conditions

How SQL reads the text of a condition: `NOT` binds more tightly than `AND`, and `AND` more tightly
than `OR`, and parentheses come before all of them. A text has one reading at most
(`ReadsClause.unique`), the one that a reader with a stack of open parentheses finds.
-/

namespace ObjectQuery.Sql

/-- A piece of the text of a condition. A test of terms is one piece. -/
inductive Token where
  | openParen
  | closeParen
  | not
  | and
  | or
  | constant (b : Bool)
  | test (text : String)
deriving DecidableEq

namespace Token

/-- The text of the piece, with the blanks around it. -/
def text : Token → String
  | .openParen => "("
  | .closeParen => ")"
  | .not => " NOT "
  | .and => " AND "
  | .or => " OR "
  | .constant b => if b then "true" else "false"
  | .test text => text

end Token

/-- The text of tokens in a row. -/
def tokensText (tokens : List Token) : String :=
  String.join (tokens.map Token.text)

@[simp] lemma tokensText_nil : tokensText [] = "" :=
  String.join_nil

@[simp] lemma tokensText_cons (token : Token) (tokens : List Token) :
    tokensText (token :: tokens) = token.text ++ tokensText tokens :=
  String.join_cons

@[simp] lemma tokensText_append (tokens more : List Token) :
    tokensText (tokens ++ more) = tokensText tokens ++ tokensText more := by
  rw [tokensText, List.map_append, String.join_append]
  rfl

/-- The text of tokens between separators has the text of the separator between theirs. -/
lemma tokensText_intercalate (separator : Token) (parts : List (List Token)) :
    tokensText ([separator].intercalate parts) =
      separator.text.intercalate (parts.map tokensText) := by
  induction parts with
  | nil => simp
  | cons part parts ih =>
    cases parts with
    | nil => simp
    | cons next rest =>
      rw [List.intercalate_cons_cons, List.map_cons, List.map_cons, String.intercalate_cons_cons,
        tokensText_append, tokensText_append, ih, List.map_cons, tokensText_cons, tokensText_nil,
        String.append_empty]

/-- A formula over tests. -/
inductive Formula where
  | constant (b : Bool)
  | test (text : String)
  | not (f : Formula)
  | and (f g : Formula)
  | or (f g : Formula)

namespace Formula

/-- The truth of a formula where that of the tests is given. -/
def eval (val : String → Truth) : Formula → Truth
  | .constant b => .ofBool b
  | .test text => val text
  | .not f => (eval val f).not
  | .and f g => (eval val f).and (eval val g)
  | .or f g => (eval val f).or (eval val g)

/-- The conjunction of all, from the left. -/
def conjunction : List Formula → Formula
  | [] => .constant true
  | f :: fs => fs.foldl .and f

/-- The disjunction of all, from the left. -/
def disjunction : List Formula → Formula
  | [] => .constant false
  | f :: fs => fs.foldl .or f

/-- An associative connective with a unit goes from the left as well as from the right. -/
lemma eval_foldl {val : String → Truth} {op : Formula → Formula → Formula}
    {t : Truth → Truth → Truth} {unit : Truth}
    (hop : ∀ f g, (op f g).eval val = t (f.eval val) (g.eval val))
    (hassoc : ∀ a b c, t (t a b) c = t a (t b c)) (hunit : ∀ a, t a unit = a)
    (f : Formula) (fs : List Formula) :
    (fs.foldl op f).eval val = ((f :: fs).map (eval val)).foldr t unit := by
  induction fs generalizing f with
  | nil => exact (hunit _).symm
  | cons g fs ih =>
    rw [List.foldl_cons, ih]
    simp only [List.map_cons, List.foldr_cons, hop, hassoc]

/-- A conjunction is true where all its parts are. -/
@[simp] lemma eval_conjunction (val : String → Truth) (fs : List Formula) :
    (conjunction fs).eval val = .all (fs.map (eval val)) := by
  cases fs with
  | nil => rfl
  | cons f fs => exact eval_foldl (fun _ _ => rfl) Truth.and_assoc Truth.and_true f fs

/-- A disjunction is true where a part is. -/
@[simp] lemma eval_disjunction (val : String → Truth) (fs : List Formula) :
    (disjunction fs).eval val = .any (fs.map (eval val)) := by
  cases fs with
  | nil => rfl
  | cons f fs => exact eval_foldl (fun _ _ => rfl) Truth.or_assoc Truth.or_false f fs

end Formula

/-- What a text can stand for, from what binds the least to what binds the most. -/
inductive Rank where
  | disjunction
  | conjunction
  | factor

/-- The reading of tokens as a formula of a rank. -/
inductive Reads : Rank → List Token → Formula → Prop where
  | constant {b : Bool} :
    Reads .factor [.constant b] (.constant b)
  | test {text : String} :
    Reads .factor [.test text] (.test text)
  | not {ts : List Token} {f : Formula} :
    Reads .factor ts f →
    Reads .factor (.not :: ts) (.not f)
  | paren {ts : List Token} {f : Formula} :
    Reads .disjunction ts f →
    Reads .factor (.openParen :: ts ++ [.closeParen]) f
  | factor {ts : List Token} {f : Formula} :
    Reads .factor ts f →
    Reads .conjunction ts f
  | and {ts us : List Token} {f g : Formula} :
    Reads .conjunction ts f →
    Reads .factor us g →
    Reads .conjunction (ts ++ .and :: us) (.and f g)
  | conjunction {ts : List Token} {f : Formula} :
    Reads .conjunction ts f →
    Reads .disjunction ts f
  | or {ts us : List Token} {f g : Formula} :
    Reads .disjunction ts f →
    Reads .conjunction us g →
    Reads .disjunction (ts ++ .or :: us) (.or f g)

namespace Reads

/-- The first two parts between separators count as one part with the separator in it. -/
lemma intercalate_merge (separator : Token) (ts us : List Token) (rest : List (List Token)) :
    [separator].intercalate (ts :: us :: rest) =
      [separator].intercalate ((ts ++ separator :: us) :: rest) := by
  cases rest with
  | nil => simp [List.intercalate_cons_cons]
  | cons vs rest => simp [List.intercalate_cons_cons]

/-- What is read together with one more factor is read together with any number of them. -/
lemma foldl {rank : Rank} {separator : Token} {op : Formula → Formula → Formula}
    (hop : ∀ {ts us f g}, Reads rank ts f → Reads .factor us g →
      Reads rank (ts ++ separator :: us) (op f g))
    {ts : List Token} {f : Formula} {rest : List (List Token)} {fs : List Formula}
    (hf : Reads rank ts f) (hrest : List.Forall₂ (Reads .factor) rest fs) :
    Reads rank ([separator].intercalate (ts :: rest)) (fs.foldl op f) := by
  induction hrest generalizing ts f with
  | nil =>
    rw [List.intercalate_singleton]
    exact hf
  | cons hg _ ih =>
    -- the factor joins what was read so far, as the connectives associate to the left
    rw [intercalate_merge]
    exact ih (hop hf hg)

/-- Factors with `AND` between them are read as their conjunction. -/
lemma intercalate_and {tss : List (List Token)} {fs : List Formula} (hne : tss ≠ [])
    (h : List.Forall₂ (Reads .factor) tss fs) :
    Reads .conjunction ([.and].intercalate tss) (.conjunction fs) := by
  cases h with
  | nil => exact absurd rfl hne
  | cons hf hrest => exact foldl .and (.factor hf) hrest

/-- Factors with `OR` between them are read as their disjunction. -/
lemma intercalate_or {tss : List (List Token)} {fs : List Formula} (hne : tss ≠ [])
    (h : List.Forall₂ (Reads .factor) tss fs) :
    Reads .disjunction ([.or].intercalate tss) (.disjunction fs) := by
  cases h with
  | nil => exact absurd rfl hne
  | cons hf hrest =>
    exact foldl (fun hf hg => .or hf (.factor hg)) (.conjunction (.factor hf)) hrest

end Reads

/-- What a reader knows about the text behind an open parenthesis. -/
structure Frame where
  /-- What stands before the latest `OR`. -/
  disjunction? : Option Formula
  /-- What stands behind it. -/
  conjunction? : Option Formula
  /-- How many `NOT` wait for their operand. -/
  negations : Nat

namespace Frame

/-- Nothing was read. -/
def empty : Frame :=
  ⟨none, none, 0⟩

/-- The formula that was read. -/
def value? (frame : Frame) : Option Formula :=
  Option.merge .or frame.disjunction? frame.conjunction?

/-- Another factor was read. -/
def push (frame : Frame) (f : Formula) : Frame :=
  let negated := Formula.not^[frame.negations] f
  ⟨frame.disjunction?, Option.merge .and frame.conjunction? (some negated), 0⟩

end Frame

/-- A reader of tokens: the frame of the innermost open parenthesis and those around it. -/
structure Reader where
  frame : Frame
  outer : List Frame

namespace Reader

/-- Reads a token. -/
def step (r : Reader) : Token → Reader
  | .openParen => ⟨.empty, r.frame :: r.outer⟩
  | .closeParen =>
    match r.frame.value?, r.outer with
    | some f, frame :: outer => ⟨frame.push f, outer⟩
    | _, _ => r
  | .not => ⟨⟨r.frame.disjunction?, r.frame.conjunction?, r.frame.negations + 1⟩, r.outer⟩
  | .and => r
  | .or => ⟨⟨r.frame.value?, none, 0⟩, r.outer⟩
  | .constant b => ⟨r.frame.push (.constant b), r.outer⟩
  | .test text => ⟨r.frame.push (.test text), r.outer⟩

/-- Reads tokens in a row. -/
def run (r : Reader) (tokens : List Token) : Reader :=
  tokens.foldl step r

@[simp] lemma run_nil (r : Reader) : r.run [] = r := rfl

@[simp] lemma run_cons (r : Reader) (token : Token) (tokens : List Token) :
    r.run (token :: tokens) = (r.step token).run tokens := rfl

@[simp] lemma run_append (r : Reader) (tokens more : List Token) :
    r.run (tokens ++ more) = (r.run tokens).run more :=
  List.foldl_append

/-- What reading a formula does: a factor goes into the frame, a conjunction becomes that of a frame
without one, and a disjunction is what an empty frame ends up with. -/
def Takes (tokens : List Token) (f : Formula) : Rank → Prop
  | .factor => ∀ frame outer, run ⟨frame, outer⟩ tokens = ⟨frame.push f, outer⟩
  | .conjunction => ∀ before outer,
    run ⟨⟨before, none, 0⟩, outer⟩ tokens = ⟨⟨before, some f, 0⟩, outer⟩
  | .disjunction => ∀ outer, ∃ before last,
    run ⟨.empty, outer⟩ tokens = ⟨⟨before, some last, 0⟩, outer⟩ ∧
    Option.merge .or before (some last) = some f

end Reader

/-- The reader takes a formula from its tokens. -/
lemma Reads.takes {rank : Rank} {tokens : List Token} {f : Formula} (h : Reads rank tokens f) :
    Reader.Takes tokens f rank := by
  induction h with
  | constant => exact fun frame outer => rfl
  | test => exact fun frame outer => rfl
  | not _ ih =>
    intro frame outer
    rw [Reader.run_cons, Reader.step, ih]
    rfl
  | @paren ts f _ ih =>
    intro frame outer
    -- the frame outside waits for the factor, with the negations in front of it
    obtain ⟨before, last, hrun, hvalue⟩ := ih (frame :: outer)
    have hframe : (⟨before, some last, 0⟩ : Frame).value? = some f := hvalue
    rw [List.cons_append, Reader.run_cons, Reader.step, Reader.run_append, hrun, Reader.run_cons,
      Reader.step, hframe, Reader.run_nil]
  | factor _ ih =>
    intro before outer
    rw [ih]
    rfl
  | and _ _ ihf ihg =>
    intro before outer
    rw [Reader.run_append, ihf, Reader.run_cons, Reader.step, ihg]
    rfl
  | conjunction _ ih =>
    intro outer
    exact ⟨none, _, ih none outer, rfl⟩
  | @or ts us f g _ _ ihf ihg =>
    intro outer
    obtain ⟨before, last, hrun, hvalue⟩ := ihf outer
    have hframe : (⟨before, some last, 0⟩ : Frame).value? = some f := hvalue
    refine ⟨some f, g, ?_, rfl⟩
    rw [Reader.run_append, hrun, Reader.run_cons, Reader.step, hframe, ihg]

/-- What the reader finds in tokens. -/
def reading (tokens : List Token) : Option Formula :=
  (Reader.run ⟨.empty, []⟩ tokens).frame.value?

/-- The reader finds the formula that tokens are read as. -/
lemma Reads.reading_eq {tokens : List Token} {f : Formula} (h : Reads .disjunction tokens f) :
    reading tokens = some f := by
  obtain ⟨before, last, hrun, hvalue⟩ := h.takes []
  rw [reading, hrun]
  exact hvalue

/-- The reading of a clause; a clause that is absent holds. -/
inductive ReadsClause : List Token → Formula → Prop where
  | absent :
    ReadsClause [] (.constant true)
  | present {ts : List Token} {f : Formula} :
    Reads .disjunction ts f →
    ReadsClause ts f

/-- A clause has one reading. -/
lemma ReadsClause.unique {ts : List Token} {f g : Formula} (hf : ReadsClause ts f)
    (hg : ReadsClause ts g) : f = g := by
  cases hf with
  | absent =>
    cases hg with
    | absent => rfl
    | present hg => cases hg.reading_eq
  | present hf =>
    cases hg with
    | absent => cases hf.reading_eq
    | present hg => exact Option.some.inj (hf.reading_eq.symm.trans hg.reading_eq)

/-- Factors with `AND` between them are read as a clause that is their conjunction. -/
lemma ReadsClause.intercalate_and {tss : List (List Token)} {fs : List Formula}
    (h : List.Forall₂ (Reads .factor) tss fs) :
    ReadsClause ([.and].intercalate tss) (.conjunction fs) := by
  cases h with
  | nil => exact .absent
  | cons hf hrest =>
    exact .present (.conjunction (Reads.intercalate_and (List.cons_ne_nil _ _) (.cons hf hrest)))

end ObjectQuery.Sql
