import Mathlib
import ObjectQuery.Proofs.Sql.Clauses
import ObjectQuery.Proofs.Sql.Grammar

/-!
# Conditions as tokens

The text of a condition as the tokens it is read from, each comparison, null test and membership
test being one of them. A group stands between parentheses, and so does its negation, so a condition
is a factor wherever it stands.
-/

namespace ObjectQuery.Sql

/-- The token of the conjunction between the members of a group. -/
def connective (disjunctive : Bool) : Token :=
  if disjunctive then .or else .and

/-- Tokens between parentheses. -/
def parenthesized (tokens : List Token) : List Token :=
  .openParen :: tokens ++ [.closeParen]

lemma tokensText_parenthesized (tokens : List Token) :
    tokensText (parenthesized tokens) = "(" ++ tokensText tokens ++ ")" := by
  simp [parenthesized, Token.text, String.append_assoc]

mutual

/-- The tokens of a condition. -/
def Condition.tokens : Condition → List Token
  | .constant b => [.constant b]
  | .compare l op r => [.test (Condition.compare l op r).text]
  | .nullTest e op => [.test (Condition.nullTest e op).text]
  | .memberOf l op s => [.test (Condition.memberOf l op s).text]
  | .group disjunctive negated members =>
    let joined := [connective disjunctive].intercalate (conditionTokens members)
    if negated then parenthesized (.not :: parenthesized joined) else parenthesized joined
termination_by structural c => c

/-- The tokens of conditions. -/
def conditionTokens : List Condition → List (List Token)
  | [] => []
  | c :: cs => c.tokens :: conditionTokens cs
termination_by structural cs => cs

end

/-- The tokens of conditions, one after the other. -/
lemma conditionTokens_eq_map (conditions : List Condition) :
    conditionTokens conditions = conditions.map Condition.tokens := by
  induction conditions with
  | nil => rfl
  | cons c conditions ih => rw [conditionTokens, ih, List.map_cons]

lemma conditionTokens_append (conditions more : List Condition) :
    conditionTokens (conditions ++ more) = conditionTokens conditions ++ conditionTokens more := by
  rw [conditionTokens_eq_map, List.map_append, ← conditionTokens_eq_map, ← conditionTokens_eq_map]

mutual

/-- The tokens of a condition are a division of its text. -/
lemma Condition.tokensText_tokens (c : Condition) : tokensText c.tokens = c.text := by
  match c with
  | .constant b => simp [Condition.tokens, Condition.text, Token.text]
  | .compare l op r => simp [Condition.tokens, Token.text]
  | .nullTest e op => simp [Condition.tokens, Token.text]
  | .memberOf l op s => simp [Condition.tokens, Token.text]
  | .group disjunctive negated members =>
    have hjoined : tokensText ([connective disjunctive].intercalate (conditionTokens members)) =
        (conjunction disjunctive).intercalate (conditionTexts members) := by
      rw [tokensText_intercalate, map_tokensText_conditionTokens members]
      cases disjunctive <;> rfl
    have hopen : "( NOT (" = "(" ++ " NOT " ++ "(" := by decide
    have hclose : "))" = ")" ++ ")" := by decide
    rw [Condition.tokens, Condition.text, ← hjoined]
    cases negated with
    | false => exact tokensText_parenthesized _
    | true =>
      simp only [if_true, tokensText_parenthesized, tokensText_cons, Token.text, hopen, hclose,
        String.append_assoc]

/-- The tokens of conditions are divisions of their texts. -/
lemma map_tokensText_conditionTokens (cs : List Condition) :
    (conditionTokens cs).map tokensText = conditionTexts cs := by
  match cs with
  | [] => rfl
  | c :: cs =>
    rw [conditionTokens, conditionTexts, List.map_cons, c.tokensText_tokens,
      map_tokensText_conditionTokens cs]

end

/-- The tokens of the condition of a statement. -/
def Statement.whereTokens (st : Statement) : List Token :=
  [.and].intercalate (conditionTokens st.conditions)

/-- The condition of a statement follows its keyword, and the tokens are a division of its text. -/
lemma Statement.textWhere_eq (st : Statement) :
    st.textWhere =
      if st.conditions.isEmpty then "" else " WHERE " ++ tokensText st.whereTokens := by
  have hjoined :
      tokensText st.whereTokens = " AND ".intercalate (conditionTexts st.conditions) := by
    rw [whereTokens, tokensText_intercalate, map_tokensText_conditionTokens]
    rfl
  have hempty : (conditionTexts st.conditions).isEmpty = st.conditions.isEmpty := by
    rw [conditionTexts_eq_map, List.isEmpty_map]
  rw [textWhere, clause, hempty, hjoined]

/-- The formula of a group. -/
def Formula.group (disjunctive negated : Bool) (fs : List Formula) : Formula :=
  let joined := if disjunctive then .disjunction fs else .conjunction fs
  if negated then .not joined else joined

/-- A group with members that are factors is a factor. -/
lemma reads_group (disjunctive negated : Bool) {members : List Condition} {fs : List Formula}
    (hne : members ≠ []) (h : List.Forall₂ (Reads .factor) (conditionTokens members) fs) :
    Reads .factor (Condition.group disjunctive negated members).tokens
      (.group disjunctive negated fs) := by
  have htokens : conditionTokens members ≠ [] := by
    rw [conditionTokens_eq_map]
    exact fun hnil => hne (List.map_eq_nil_iff.1 hnil)
  have hjoined : Reads .disjunction
      ([connective disjunctive].intercalate (conditionTokens members))
      (if disjunctive then .disjunction fs else .conjunction fs) := by
    cases disjunctive with
    | true => exact Reads.intercalate_or htokens h
    | false => exact .conjunction (Reads.intercalate_and htokens h)
  rw [Condition.tokens, Formula.group]
  cases negated with
  | false => exact .paren hjoined
  | true => exact .paren (.conjunction (.factor (.not (.paren hjoined))))

end ObjectQuery.Sql
