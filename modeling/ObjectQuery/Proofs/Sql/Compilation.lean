import Mathlib
import ObjectQuery.Proofs.Except
import ObjectQuery.Sql.Compilation

/-!
# When a query compiles

A query compiles if its sources can be entered and its condition, the start it seeks and its clauses
compile in the scope that the sources make. The start comes after all else in the condition, so to
seek one only adds a last condition to the statement (`compile_seek_eq_ok_iff`).
-/

namespace ObjectQuery.Sql

namespace Scope

/-- The scope with the sources entered. -/
def enteredWith (s : Scope) (entered : Entered) : Scope :=
  { s with places := entered.places }

@[simp] lemma aliasOf_enteredWith (s : Scope) (entered : Entered) :
    (s.enteredWith entered).aliasOf = s.aliasOf := rfl

end Scope

/-- The statement with one more condition at the end. -/
def Statement.addCondition (st : Statement) (c : Condition) : Statement :=
  { st with conditions := st.conditions ++ [c] }

/-- A class is output as its objects and as all columns that its fields are stored in, each from the
table of a field. -/
lemma Scope.exists_of_allColumns {s : Scope} {c : ClassNode} {aliasName : String} {named : Bool}
    {outputs : List Output} (h : s.allColumns c aliasName named = .ok outputs) :
    ∃ stored columns, s.storedColumns c.type = .ok stored ∧
      List.Forall₂ (fun entry o => ∃ table, s.tableOf c.id entry.2 = .ok table ∧
        o = (⟨.column ⟨table, entry.1⟩,
          if named then some (.ofAlias aliasName entry.1) else none⟩ : Output)) stored columns ∧
      outputs = ⟨Scope.objectColumn aliasName,
        if named then some (.ofAlias aliasName "") else none⟩ :: columns := by
  obtain ⟨stored, hstored, h⟩ := Except.bind_eq_ok.1 h
  obtain ⟨columns, hcolumns, h⟩ := Except.bind_eq_ok.1 h
  cases h
  refine ⟨stored, columns, hstored, ?_, rfl⟩
  refine (Except.mapM_eq_ok_iff.1 hcolumns).imp fun entry o ho => ?_
  obtain ⟨table, htable, ho⟩ := Except.bind_eq_ok.1 ho
  cases ho
  exact ⟨table, htable, rfl⟩

/-- A query compiles if each of its parts does. -/
lemma compile_eq_ok_iff {m : Model} {p : Platform} {shape : Shape} {seek : Option Seek} {q : Query}
    {st : Statement} :
    (compile m p shape seek q).outcome = .ok st ↔
    ∃ entered conditions links seekConditions,
      (enter (.ofQuery m p q) q.sources).outcome = .ok entered ∧
      (rootCondition ((Scope.ofQuery m p q).enteredWith entered) q.constraint).outcome =
        .ok (conditions, links) ∧
      Seek.conditions ((Scope.ofQuery m p q).enteredWith entered) seek = .ok seekConditions ∧
      assemble ((Scope.ofQuery m p q).enteredWith entered) shape q entered
        (conditions ++ seekConditions) links = .ok st := by
  obtain ⟨id, sources, aliases, select, constraint, groupBy, orderBy, distinct, count⟩ := q
  simp only [compile, Traced.outcome_bind, Traced.outcome_liftM, Traced.outcome_report,
    Traced.outcome_pure, Except.bind_eq_ok]
  constructor
  · rintro ⟨entered, hentered, ⟨conditions, links⟩, hconditions, seekConditions, hseek, st', hst, h⟩
    obtain ⟨_, _, h⟩ := h
    cases h
    exact ⟨entered, conditions, links, seekConditions, hentered, hconditions, hseek, hst⟩
  · rintro ⟨entered, conditions, links, seekConditions, hentered, hconditions, hseek, hst⟩
    exact ⟨entered, hentered, (conditions, links), hconditions, seekConditions, hseek, st, hst, (),
      trivial, rfl⟩

/-- The order that a shape gives a query: only a whole statement has one. -/
def Ordering.ofShape (s : Scope) (shape : Shape) (q : Query) (first : Nat) :
    Except Failure Ordering :=
  if shape = .whole then Ordering.ofNodes s q.orderBy q.select first else .ok .none

/-- A statement is put together from the order, the columns and the grouping of the query. -/
lemma assemble_eq_ok_iff {s : Scope} {shape : Shape} {q : Query} {entered : Entered}
    {conditions : List Condition} {links : List FromItem} {st : Statement} :
    assemble s shape q entered conditions links = .ok st ↔
    ∃ order columns groupBy, Ordering.ofShape s shape q links.length = .ok order ∧
      s.columns shape q.select = .ok columns ∧ s.grouping q.groupBy = .ok groupBy ∧
      st = ⟨q.distinct, columns ++ order.columns, entered.items ++ links,
        entered.joins ++ conditions, groupBy, order.terms⟩ := by
  have rest (order : Ordering) : (do
        let columns ← s.columns shape q.select
        let groupBy ← s.grouping q.groupBy
        return (⟨q.distinct, columns ++ order.columns, entered.items ++ links,
          entered.joins ++ conditions, groupBy, order.terms⟩ : Statement)) = .ok st ↔
      ∃ columns groupBy, s.columns shape q.select = .ok columns ∧
        s.grouping q.groupBy = .ok groupBy ∧
        st = ⟨q.distinct, columns ++ order.columns, entered.items ++ links,
          entered.joins ++ conditions, groupBy, order.terms⟩ := by
    simp only [Except.bind_eq_ok]
    constructor
    · rintro ⟨columns, hcolumns, groupBy, hgroupBy, h⟩
      cases h
      exact ⟨columns, groupBy, hcolumns, hgroupBy, rfl⟩
    · rintro ⟨columns, groupBy, hcolumns, hgroupBy, rfl⟩
      exact ⟨columns, hcolumns, groupBy, hgroupBy, rfl⟩
  unfold assemble Ordering.ofShape
  split
  · rw [Except.bind_eq_ok]
    simp only [rest, exists_and_left]
  · simp only [pure_bind, rest, Except.ok.injEq, exists_and_left, exists_eq_left']

/-- A last condition goes through the assembly as it is. -/
lemma assemble_append {s : Scope} {shape : Shape} {q : Query} {entered : Entered}
    {conditions : List Condition} {c : Condition} {links : List FromItem} {st : Statement} :
    assemble s shape q entered (conditions ++ [c]) links = .ok st ↔
    ∃ plain, assemble s shape q entered conditions links = .ok plain ∧
      st = plain.addCondition c := by
  simp only [assemble_eq_ok_iff]
  constructor
  · rintro ⟨order, columns, groupBy, horder, hcolumns, hgroupBy, rfl⟩
    refine ⟨_, ⟨order, columns, groupBy, horder, hcolumns, hgroupBy, rfl⟩, ?_⟩
    simp [Statement.addCondition]
  · rintro ⟨plain, ⟨order, columns, groupBy, horder, hcolumns, hgroupBy, rfl⟩, rfl⟩
    refine ⟨order, columns, groupBy, horder, hcolumns, hgroupBy, ?_⟩
    simp [Statement.addCondition]

/-- The condition of a start compiles if its key and its value do. -/
lemma seekConditions_eq_ok_iff {s : Scope} {key : Expr} {value : Value}
    {conditions : List Condition} :
    Seek.conditions s (some ⟨key, value⟩) = .ok conditions ↔
    ∃ k l, s.term key = .ok k ∧ s.platform.literal value = .ok l ∧
      conditions = [.compare k .greater (.literal l)] := by
  simp only [Seek.conditions, Scope.comparison, Except.bind_eq_ok]
  constructor
  · rintro ⟨c, ⟨k, hk, t, ht, hc⟩, h⟩
    obtain ⟨l, hl, ht⟩ := Except.bind_eq_ok.1 ht
    cases ht
    cases hc
    cases h
    exact ⟨k, l, hk, hl, rfl⟩
  · rintro ⟨k, l, hk, hl, rfl⟩
    exact ⟨_, ⟨k, hk, .literal l, Except.bind_eq_ok.2 ⟨l, hl, rfl⟩, rfl⟩, rfl⟩

lemma length_seekConditions {s : Scope} {seek : Option Seek} {conditions : List Condition}
    (h : Seek.conditions s seek = .ok conditions) : conditions.length = seek.toList.length := by
  cases seek with
  | none =>
    cases h
    rfl
  | some seek =>
    obtain ⟨k, l, _, _, rfl⟩ := seekConditions_eq_ok_iff.1 h
    rfl

/-- A query that seeks a start compiles if the query alone does, and the key and the value of the
start. The statement has one more condition than that of the query alone. -/
lemma compile_seek_eq_ok_iff {m : Model} {p : Platform} {shape : Shape} {key : Expr}
    {value : Value} {q : Query} {st : Statement} :
    (compile m p shape (some ⟨key, value⟩) q).outcome = .ok st ↔
    ∃ plain entered k l, (compile m p shape none q).outcome = .ok plain ∧
      (enter (.ofQuery m p q) q.sources).outcome = .ok entered ∧
      ((Scope.ofQuery m p q).enteredWith entered).term key = .ok k ∧ p.literal value = .ok l ∧
      st = plain.addCondition (.compare k .greater (.literal l)) := by
  constructor
  · intro h
    obtain ⟨entered, conditions, links, seekConditions, hentered, hconditions, hseek, hst⟩ :=
      compile_eq_ok_iff.1 h
    obtain ⟨k, l, hk, hl, rfl⟩ := seekConditions_eq_ok_iff.1 hseek
    obtain ⟨plain, hplain, rfl⟩ := assemble_append.1 hst
    refine ⟨plain, entered, k, l, ?_, hentered, hk, hl, rfl⟩
    refine compile_eq_ok_iff.2 ⟨entered, conditions, links, [], hentered, hconditions, rfl, ?_⟩
    rw [List.append_nil]
    exact hplain
  · rintro ⟨plain, entered, k, l, hplain, hentered, hk, hl, rfl⟩
    obtain ⟨entered', conditions, links, none', hentered', hconditions, hnone, hplain⟩ :=
      compile_eq_ok_iff.1 hplain
    obtain rfl : entered' = entered := Except.ok.inj (hentered'.symm.trans hentered)
    cases hnone
    rw [List.append_nil] at hplain
    refine compile_eq_ok_iff.2 ⟨entered', conditions, links, _, hentered, hconditions,
      seekConditions_eq_ok_iff.2 ⟨k, l, hk, hl, rfl⟩, ?_⟩
    exact assemble_append.2 ⟨plain, hplain, rfl⟩

end ObjectQuery.Sql
