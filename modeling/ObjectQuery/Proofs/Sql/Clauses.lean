import Mathlib
import ObjectQuery.Proofs.Sql.Compilation

/-!
# Clauses of a statement

The text of a statement is that of its clauses in a row. Each clause is there if it has parts, so
one more condition goes behind the keyword or behind the conditions there are.
-/

namespace ObjectQuery.Sql

/-- The text of a statement before its condition. -/
def Statement.textBefore (st : Statement) : String :=
  "SELECT " ++ (if st.distinct then "DISTINCT " else "") ++
    ", ".intercalate (st.columns.map Output.text) ++
    clause " FROM " ", " (sourceTexts st.sources)

/-- The text of the condition of a statement. -/
def Statement.textWhere (st : Statement) : String :=
  clause " WHERE " " AND " (conditionTexts st.conditions)

/-- The text of a statement after its condition. -/
def Statement.textAfter (st : Statement) : String :=
  clause " GROUP BY " ", " (st.groupBy.map Term.text) ++
    clause " ORDER BY " ", " (st.orderBy.map Term.text)

/-- The condition stands between the sources and the grouping. -/
lemma Statement.text_eq (st : Statement) :
    st.text = st.textBefore ++ st.textWhere ++ st.textAfter := by
  obtain ⟨distinct, columns, sources, conditions, groupBy, orderBy⟩ := st
  simp only [Statement.text, textBefore, textWhere, textAfter, String.append_assoc]

/-- One more part goes behind the keyword, or behind the separator if it is not the first. -/
lemma clause_append_singleton (keyword separator : String) (parts : List String) (part : String) :
    clause keyword separator (parts ++ [part]) =
      clause keyword separator parts ++ (if parts.isEmpty then keyword else separator) ++ part := by
  unfold clause
  cases parts with
  | nil => simp
  | cons first rest =>
    have hjoin := String.intercalate_append_of_ne_nil (s := separator)
      (List.cons_ne_nil first rest) (List.cons_ne_nil part [])
    rw [String.intercalate_singleton] at hjoin
    simp only [List.cons_append, List.isEmpty_cons, Bool.false_eq_true, if_false]
    rw [← List.cons_append, hjoin]
    simp only [String.append_assoc]

/-- The texts of conditions, one after the other. -/
lemma conditionTexts_eq_map (conditions : List Condition) :
    conditionTexts conditions = conditions.map Condition.text := by
  induction conditions with
  | nil => rfl
  | cons c conditions ih => rw [conditionTexts, ih, List.map_cons]

/-- One more condition goes behind `WHERE`, or behind `AND` if it is not the first. -/
lemma Statement.textWhere_addCondition (st : Statement) (c : Condition) :
    (st.addCondition c).textWhere =
      st.textWhere ++ (if st.conditions.isEmpty then " WHERE " else " AND ") ++ c.text := by
  have hempty : (conditionTexts st.conditions).isEmpty = st.conditions.isEmpty := by
    rw [conditionTexts_eq_map, List.isEmpty_map]
  unfold textWhere addCondition
  rw [← hempty, ← clause_append_singleton]
  simp only [conditionTexts_eq_map, List.map_append, List.map_singleton]

end ObjectQuery.Sql
