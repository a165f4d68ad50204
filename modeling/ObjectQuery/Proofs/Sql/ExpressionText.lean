import Mathlib
import ObjectQuery.Proofs.Except
import ObjectQuery.Proofs.Model.Accepted
import ObjectQuery.Proofs.Query.Edit
import ObjectQuery.Proofs.Sql.Phrases
import ObjectQuery.Sql.Scope

/-!
# Reading expressions

The text of an expression can be read in one way only: the reader of phrases finds the tree of the
expression. Two expressions have the same pieces just if they are alike, which is to say that they
differ at most in what counting leaves out, in fields and in literals that have the same text, and in
types of casts that have the same name on the platform (`term_reading`).
-/

namespace ObjectQuery

namespace Sql

namespace Term

/-- What the term is read as. -/
def phrase : Term → Phrase
  | .column c => .field c.text
  | .literal text => .literal text
  | .arithmetic op l r => .arithmetic op l.phrase r.phrase
  | .suffix b s => .suffix b.phrase s.phrase
  | .substring b s n => .substring b.phrase s.phrase n.phrase
  | .indexOf h n => .indexOf h.phrase n.phrase
  | .aggregate op e => .aggregate op e.phrase
  | .countRows => .countRows
  | .cast e type => .cast e.phrase type

/-- The pieces of the text of the term. -/
def lexemes (t : Term) : List Lexeme :=
  t.phrase.lexemes

/-- The pieces are a division of the text. -/
lemma join_lexemes (t : Term) : String.join (t.lexemes.map Lexeme.text) = t.text := by
  unfold lexemes
  induction t with
  | column | literal => simp [phrase, Phrase.lexemes, Lexeme.text, text]
  | arithmetic op l r ihl ihr =>
    simp [phrase, Phrase.lexemes, Lexeme.text, text, ihl, ihr, ← String.append_assoc]
  | suffix b s ihb ihs =>
    simp [phrase, Phrase.lexemes, Lexeme.text, SqlFunction.text, text, ihb, ihs,
      ← String.append_assoc]
  | substring b s n ihb ihs ihn =>
    simp [phrase, Phrase.lexemes, Lexeme.text, SqlFunction.text, text, ihb, ihs, ihn,
      ← String.append_assoc]
  | indexOf h n ihh ihn =>
    simp [phrase, Phrase.lexemes, Lexeme.text, SqlFunction.text, text, ihh, ihn,
      ← String.append_assoc]
  | aggregate op e ih =>
    simp [phrase, Phrase.lexemes, Lexeme.text, SqlFunction.text, text, ih, ← String.append_assoc]
  | countRows => rfl
  | cast e type ih =>
    have hclose : ")::" ++ type = ")" ++ ("::" ++ type) := by rw [← String.append_assoc]; rfl
    simp [phrase, Phrase.lexemes, Lexeme.text, text, ih, String.append_assoc, hclose]

end Term

/-- The expression counts rows, whatever operand it has. -/
inductive CountsRows : Expr → Prop where
  | operand (e : Expr) :
    CountsRows (.aggregate .count e)
  | bare :
    CountsRows (.bareAggregate .count)

namespace Scope

/-- The phrase is the tree of the expression: without what counting leaves out, and with the texts of
fields, literals and types. -/
inductive ReadsAs (s : Scope) : Expr → Phrase → Prop where
  | column {c : Column} {r : ColumnRef} :
    s.column c = .ok r →
    ReadsAs s (.column c) (.field r.text)
  | value {v : Value} {l : String} :
    s.platform.literal v = .ok l →
    ReadsAs s (.value v) (.literal l)
  | arithmetic {op : Arithmetic} {l r : Expr} {p q : Phrase} :
    ReadsAs s l p →
    ReadsAs s r q →
    ReadsAs s (.arithmetic op l r) (.arithmetic op p q)
  | suffix {b i : Expr} {p q : Phrase} :
    ReadsAs s b p →
    ReadsAs s i q →
    ReadsAs s (.suffix b i) (.suffix p q)
  | substring {b i n : Expr} {p q r : Phrase} :
    ReadsAs s b p →
    ReadsAs s i q →
    ReadsAs s n r →
    ReadsAs s (.substring b i n) (.substring p q r)
  | indexOf {h n : Expr} {p q : Phrase} :
    ReadsAs s h p →
    ReadsAs s n q →
    ReadsAs s (.indexOf h n) (.indexOf p q)
  | aggregate {op : Aggregate} {e : Expr} {p : Phrase} :
    op ≠ .count →
    ReadsAs s e p →
    ReadsAs s (.aggregate op e) (.aggregate op p)
  | count (e : Expr) :
    ReadsAs s (.aggregate .count e) .countRows
  | bareCount :
    ReadsAs s (.bareAggregate .count) .countRows
  | cast {e : Expr} {t : AttributeType} {p : Phrase} :
    ReadsAs s e p →
    ReadsAs s (.cast e t) (.cast p (s.platform.columnType t))

/-- Expressions that differ at most in what counting leaves out, in fields and in literals that have
the same text, and in types of casts that have the same name on the platform. -/
inductive Alike (s : Scope) : Expr → Expr → Prop where
  | column {c d : Column} {r r' : ColumnRef} :
    s.column c = .ok r →
    s.column d = .ok r' →
    r.text = r'.text →
    Alike s (.column c) (.column d)
  | value {v w : Value} {l : String} :
    s.platform.literal v = .ok l →
    s.platform.literal w = .ok l →
    Alike s (.value v) (.value w)
  | arithmetic {op : Arithmetic} {l l' r r' : Expr} :
    Alike s l l' →
    Alike s r r' →
    Alike s (.arithmetic op l r) (.arithmetic op l' r')
  | suffix {b b' i i' : Expr} :
    Alike s b b' →
    Alike s i i' →
    Alike s (.suffix b i) (.suffix b' i')
  | substring {b b' i i' n n' : Expr} :
    Alike s b b' →
    Alike s i i' →
    Alike s n n' →
    Alike s (.substring b i n) (.substring b' i' n')
  | indexOf {h h' n n' : Expr} :
    Alike s h h' →
    Alike s n n' →
    Alike s (.indexOf h n) (.indexOf h' n')
  | aggregate {op : Aggregate} {e e' : Expr} :
    op ≠ .count →
    Alike s e e' →
    Alike s (.aggregate op e) (.aggregate op e')
  | count {e e' : Expr} :
    CountsRows e →
    CountsRows e' →
    Alike s e e'
  | cast {e e' : Expr} {t t' : AttributeType} :
    Alike s e e' →
    s.platform.columnType t = s.platform.columnType t' →
    Alike s (.cast e t) (.cast e' t')

variable {s : Scope}

/-- The term of an expression is read as the expression. -/
lemma readsAs_of_term {e : Expr} {t : Term} (h : s.term e = .ok t) : s.ReadsAs e t.phrase := by
  induction e generalizing t with
  | column c =>
    obtain ⟨r, hr, h⟩ := Except.bind_eq_ok.1 h
    cases h
    exact .column hr
  | arithmetic op l r ihl ihr =>
    obtain ⟨l', hl, h⟩ := Except.bind_eq_ok.1 h
    obtain ⟨r', hr, h⟩ := Except.bind_eq_ok.1 h
    cases h
    exact .arithmetic (ihl hl) (ihr hr)
  | suffix b i ihb ihi =>
    obtain ⟨b', hb, h⟩ := Except.bind_eq_ok.1 h
    obtain ⟨i', hi, h⟩ := Except.bind_eq_ok.1 h
    cases h
    exact .suffix (ihb hb) (ihi hi)
  | substring b i n ihb ihi ihn =>
    obtain ⟨b', hb, h⟩ := Except.bind_eq_ok.1 h
    obtain ⟨i', hi, h⟩ := Except.bind_eq_ok.1 h
    obtain ⟨n', hn, h⟩ := Except.bind_eq_ok.1 h
    cases h
    exact .substring (ihb hb) (ihi hi) (ihn hn)
  | indexOf b n ihb ihn =>
    obtain ⟨b', hb, h⟩ := Except.bind_eq_ok.1 h
    obtain ⟨n', hn, h⟩ := Except.bind_eq_ok.1 h
    cases h
    exact .indexOf (ihb hb) (ihn hn)
  | aggregate op e ih =>
    cases op with
    | count =>
      cases h
      exact .count e
    | sum | average | min | max =>
      obtain ⟨e', he, h⟩ := Except.bind_eq_ok.1 h
      cases h
      exact .aggregate nofun (ih he)
  | bareAggregate op =>
    cases op with
    | count =>
      cases h
      exact .bareCount
    | sum | average | min | max => cases h
  | value v =>
    obtain ⟨l, hl, h⟩ := Except.bind_eq_ok.1 h
    cases h
    exact .value hl
  | cast e type ih =>
    obtain ⟨e', he, h⟩ := Except.bind_eq_ok.1 h
    cases h
    exact .cast (ih he)

/-- Expressions that are read as one phrase are alike. -/
lemma ReadsAs.alike {e e' : Expr} {p p' : Phrase} (h : s.ReadsAs e p) (h' : s.ReadsAs e' p')
    (hp : p = p') : s.Alike e e' := by
  induction h generalizing e' p' with
  | column hr =>
    cases h' with
    | column hr' => exact .column hr hr' (Phrase.field.inj hp)
    | _ => cases hp
  | value hl =>
    cases h' with
    | value hl' =>
      cases hp
      exact .value hl hl'
    | _ => cases hp
  | arithmetic _ _ ihl ihr =>
    cases h' with
    | arithmetic hl hr =>
      cases hp
      exact .arithmetic (ihl hl rfl) (ihr hr rfl)
    | _ => cases hp
  | suffix _ _ ihb ihi =>
    cases h' with
    | suffix hb hi =>
      cases hp
      exact .suffix (ihb hb rfl) (ihi hi rfl)
    | _ => cases hp
  | substring _ _ _ ihb ihi ihn =>
    cases h' with
    | substring hb hi hn =>
      cases hp
      exact .substring (ihb hb rfl) (ihi hi rfl) (ihn hn rfl)
    | _ => cases hp
  | indexOf _ _ ihh ihn =>
    cases h' with
    | indexOf hh hn =>
      cases hp
      exact .indexOf (ihh hh rfl) (ihn hn rfl)
    | _ => cases hp
  | aggregate hop _ ih =>
    cases h' with
    | aggregate _ he =>
      cases hp
      exact .aggregate hop (ih he rfl)
    | _ => cases hp
  | count e =>
    cases h' with
    | count e' => exact .count (.operand e) (.operand e')
    | bareCount => exact .count (.operand e) .bare
    | _ => cases hp
  | bareCount =>
    cases h' with
    | count e' => exact .count .bare (.operand e')
    | bareCount => exact .count .bare .bare
    | _ => cases hp
  | cast _ ih =>
    cases h' with
    | cast he =>
      obtain ⟨hinner, htype⟩ := Phrase.cast.inj hp
      exact .cast (ih he hinner) htype
    | _ => cases hp

/-- Counting is read as the count of all rows. -/
lemma ReadsAs.eq_countRows {e : Expr} {p : Phrase} (h : s.ReadsAs e p) (hcounts : CountsRows e) :
    p = .countRows := by
  cases hcounts with
  | operand e =>
    cases h with
    | aggregate hop _ => exact absurd rfl hop
    | count => rfl
  | bare =>
    cases h
    rfl

/-- Expressions that are alike are read as one phrase. -/
lemma Alike.phrase_eq {e e' : Expr} {p p' : Phrase} (h : s.Alike e e') (hp : s.ReadsAs e p)
    (hp' : s.ReadsAs e' p') : p = p' := by
  induction h generalizing p p' with
  | column hr hr' htext =>
    cases hp with | column hp
    cases hp' with | column hp'
    obtain rfl := Except.ok.inj (hr.symm.trans hp)
    obtain rfl := Except.ok.inj (hr'.symm.trans hp')
    rw [htext]
  | value hl hl' =>
    cases hp with | value hp
    cases hp' with | value hp'
    obtain rfl := Except.ok.inj (hl.symm.trans hp)
    obtain rfl := Except.ok.inj (hl'.symm.trans hp')
    rfl
  | arithmetic _ _ ihl ihr =>
    cases hp with | arithmetic hl hr
    cases hp' with | arithmetic hl' hr'
    rw [ihl hl hl', ihr hr hr']
  | suffix _ _ ihb ihi =>
    cases hp with | suffix hb hi
    cases hp' with | suffix hb' hi'
    rw [ihb hb hb', ihi hi hi']
  | substring _ _ _ ihb ihi ihn =>
    cases hp with | substring hb hi hn
    cases hp' with | substring hb' hi' hn'
    rw [ihb hb hb', ihi hi hi', ihn hn hn']
  | indexOf _ _ ihh ihn =>
    cases hp with | indexOf hh hn
    cases hp' with | indexOf hh' hn'
    rw [ihh hh hh', ihn hn hn']
  | aggregate hop _ ih =>
    cases hp with
    | count => exact absurd rfl hop
    | aggregate _ he =>
      cases hp' with
      | count => exact absurd rfl hop
      | aggregate _ he' => rw [ih he he']
  | count hcounts hcounts' => rw [hp.eq_countRows hcounts, hp'.eq_countRows hcounts']
  | cast _ htype ih =>
    cases hp with | cast he
    cases hp' with | cast he'
    rw [ih he he', htype]

end Scope

/-- The text of an expression has one reading. The reader finds the tree of the expression in the
pieces of the text, and another expression has the same pieces just if it is alike. -/
theorem term_reading {s : Scope} {e : Expr} {t : Term} (h : s.term e = .ok t) :
    String.join (t.lexemes.map Lexeme.text) = t.text ∧
    (∃ p, Phrase.read t.lexemes = some p ∧ s.ReadsAs e p) ∧
    ∀ e' t', s.term e' = .ok t' → (t'.lexemes = t.lexemes ↔ s.Alike e e') := by
  have hreads := Scope.readsAs_of_term h
  refine ⟨t.join_lexemes, ⟨t.phrase, Phrase.read_lexemes t.phrase, hreads⟩, ?_⟩
  intro e' t' h'
  have hreads' := Scope.readsAs_of_term h'
  constructor
  · intro hsame
    exact hreads.alike hreads' (Phrase.lexemes_injective hsame.symm)
  · intro halike
    rw [Term.lexemes, Term.lexemes, halike.phrase_eq hreads hreads']

end Sql

namespace Sample

/-- The difference of two expressions. -/
def difference (l r : Expr) : Expr :=
  .arithmetic .subtract l r

/-- The expression of an integer. -/
def int (n : Int64) : Expr :=
  .value (.int n)

end Sample

/-- Differences of differences have different pieces if they associate in different ways. -/
theorem term_reading_differences :
    let s := Sql.Scope.ofQuery Sample.company .postgreSQL Sample.employees
    ∃ t t', s.term (Sample.difference (Sample.difference (Sample.int 7) (Sample.int 4))
        (Sample.int 1)) = .ok t ∧
      s.term (Sample.difference (Sample.int 7)
        (Sample.difference (Sample.int 4) (Sample.int 1))) = .ok t' ∧
      t.text = "((7 - 4) - 1)" ∧ t'.text = "(7 - (4 - 1))" ∧ t'.lexemes ≠ t.lexemes := by
  intro s
  have hleft : (s.term (Sample.difference (Sample.difference (Sample.int 7) (Sample.int 4))
      (Sample.int 1))).toOption.map Sql.Term.text = some "((7 - 4) - 1)" := by
    decide +kernel
  have hright : (s.term (Sample.difference (Sample.int 7)
      (Sample.difference (Sample.int 4) (Sample.int 1)))).toOption.map Sql.Term.text =
      some "(7 - (4 - 1))" := by
    decide +kernel
  obtain ⟨t, ht, htext⟩ := Except.exists_of_toOption hleft
  obtain ⟨t', ht', htext'⟩ := Except.exists_of_toOption hright
  obtain ⟨_, _, hsame⟩ := Sql.term_reading ht
  refine ⟨t, t', ht, ht', htext, htext', fun hlexemes => ?_⟩
  -- the left operand is a difference in one of them and an integer in the other
  cases (hsame _ t' ht').1 hlexemes with
  | arithmetic hoperand _ => cases hoperand with | count hcounts => cases hcounts
  | count hcounts => cases hcounts

end ObjectQuery
