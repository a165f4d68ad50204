import Mathlib
import ObjectQuery.Query.Basic

/-!
# Levels of a query

A query may hold queries, as sources and as the operands of membership tests. Each of them is a
level of its own, and what holds of a query if it holds of those that stand directly in it holds of
every query (`Query.nested_induction`). Within a level the constraint is a tree of groups over
tests.
-/

namespace ObjectQuery

namespace Constraint

mutual

/-- The tests that a constraint is made of, in order. -/
def tests : Constraint → List Constraint
  | .group _ members => memberTests members
  | c => [c]
termination_by structural c => c

/-- The tests of the members of a group, in order. -/
def memberTests : List Constraint → List Constraint
  | [] => []
  | c :: cs => c.tests ++ memberTests cs
termination_by structural cs => cs

end

/-- Whether the constraint is a group and not a test. -/
def isGroup : Constraint → Bool
  | .group _ _ => true
  | _ => false

lemma tests_of_not_isGroup {c : Constraint} (h : c.isGroup = false) : c.tests = [c] := by
  cases c with
  | group => cases h
  | _ => rfl

mutual

lemma isGroup_of_mem_tests {c test : Constraint} (h : test ∈ c.tests) : test.isGroup = false := by
  match c with
  | .group op members =>
    have h : test ∈ memberTests members := h
    exact isGroup_of_mem_memberTests h
  | .compare .. | .nullTest .. | .memberOf .. | .identity .. | .contains .. | .referenceNull ..
  | .bag .. => exact (List.mem_singleton.1 h) ▸ rfl
termination_by structural c

lemma isGroup_of_mem_memberTests {cs : List Constraint} {test : Constraint}
    (h : test ∈ memberTests cs) : test.isGroup = false := by
  match cs with
  | [] => cases h
  | c :: cs =>
    rcases List.mem_append.1 h with h | h
    · exact isGroup_of_mem_tests h
    · exact isGroup_of_mem_memberTests h
termination_by structural cs

end

/-- The query whose rows a test looks among. -/
def operand? : Constraint → Option Query
  | .memberOf _ _ q => some q
  | _ => none

mutual

lemma sizeOf_le_of_mem_tests {c test : Constraint} (h : test ∈ c.tests) :
    sizeOf test ≤ sizeOf c := by
  match c with
  | .group op members =>
    have h : test ∈ memberTests members := h
    have hle := sizeOf_le_of_mem_memberTests h
    simp
    omega
  | .compare .. | .nullTest .. | .memberOf .. | .identity .. | .contains .. | .referenceNull ..
  | .bag .. => exact (List.mem_singleton.1 h) ▸ le_rfl
termination_by structural c

lemma sizeOf_le_of_mem_memberTests {cs : List Constraint} {test : Constraint}
    (h : test ∈ memberTests cs) : sizeOf test ≤ sizeOf cs := by
  match cs with
  | [] => cases h
  | c :: cs =>
    rcases List.mem_append.1 h with h | h
    · have hle := sizeOf_le_of_mem_tests h
      simp
      omega
    · have hle := sizeOf_le_of_mem_memberTests h
      simp
      omega
termination_by structural cs

end

end Constraint

namespace Source

/-- The query that a source is. -/
def query? : Source → Option Query
  | .object _ => none
  | .query q => some q

end Source

namespace Query

/-- The tests of the constraint of a query. -/
def tests (q : Query) : List Constraint :=
  (q.constraint.map Constraint.tests).getD []

/-- The queries that stand directly in a query. -/
def nested (q : Query) : List Query :=
  q.sources.filterMap Source.query? ++ q.tests.filterMap Constraint.operand?

lemma mem_nested_of_source {q inner : Query} (h : .query inner ∈ q.sources) : inner ∈ q.nested :=
  List.mem_append_left _ (List.mem_filterMap.2 ⟨_, h, rfl⟩)

lemma mem_tests {q : Query} {c test : Constraint} (hc : q.constraint = some c)
    (h : test ∈ c.tests) : test ∈ q.tests := by
  rw [tests, hc]
  exact h

lemma isGroup_of_mem_tests {q : Query} {test : Constraint} (h : test ∈ q.tests) :
    test.isGroup = false := by
  unfold tests at h
  cases hconstraint : q.constraint with
  | none =>
    rw [hconstraint] at h
    cases h
  | some c =>
    rw [hconstraint] at h
    exact Constraint.isGroup_of_mem_tests h

lemma mem_nested_of_operand {q inner : Query} {test : Constraint} (htest : test ∈ q.tests)
    (h : test.operand? = some inner) : inner ∈ q.nested :=
  List.mem_append_right _ (List.mem_filterMap.2 ⟨test, htest, h⟩)

lemma sizeOf_lt_of_mem_nested {q inner : Query} (h : inner ∈ q.nested) :
    sizeOf inner < sizeOf q := by
  obtain ⟨id, sources, aliases, select, constraint, groupBy, orderBy, distinct, count⟩ := q
  rcases List.mem_append.1 h with h | h
  · obtain ⟨source, hsource, hinner⟩ := List.mem_filterMap.1 h
    have hlt := List.sizeOf_lt_of_mem hsource
    cases source with
    | object c => cases hinner
    | query q =>
      cases hinner
      simp at hlt ⊢
      omega
  · obtain ⟨test, htest, hinner⟩ := List.mem_filterMap.1 h
    cases constraint with
    | none => cases htest
    | some c =>
      have hle := Constraint.sizeOf_le_of_mem_tests htest
      cases test with
      | memberOf n op q =>
        cases hinner
        simp at hle ⊢
        omega
      | _ => cases hinner

/-- What holds of a query if it holds of those that stand directly in it holds of every query. -/
@[elab_as_elim]
theorem nested_induction {motive : Query → Prop}
    (step : ∀ q : Query, (∀ inner ∈ q.nested, motive inner) → motive q) (q : Query) : motive q :=
  step q fun inner _ => nested_induction step inner
termination_by sizeOf q
decreasing_by exact sizeOf_lt_of_mem_nested ‹_›

/-- A query is a level of itself, and so are the queries that stand in its levels. -/
inductive Level (q : Query) : Query → Prop where
  | self : Level q q
  | nested {outer inner : Query} :
    Level q outer →
    inner ∈ outer.nested →
    Level q inner

namespace Level

lemma of_nested {q inner level : Query} (h : inner ∈ q.nested) (hlevel : inner.Level level) :
    q.Level level := by
  induction hlevel with
  | self => exact .nested .self h
  | nested _ hmem ih => exact ih.nested hmem

lemma eq_or {q level : Query} (h : q.Level level) :
    level = q ∨ ∃ inner ∈ q.nested, inner.Level level := by
  induction h with
  | self => exact .inl rfl
  | nested _ hmem ih =>
    rcases ih with rfl | ⟨inner, hinner, hlevel⟩
    · exact .inr ⟨_, hmem, .self⟩
    · exact .inr ⟨inner, hinner, hlevel.nested hmem⟩

end Level

/-- What holds of all levels of a query holds of the query and of all levels of what it holds. -/
lemma forall_level_iff {q : Query} {P : Query → Prop} :
    (∀ level, q.Level level → P level) ↔
      P q ∧ ∀ inner ∈ q.nested, ∀ level, inner.Level level → P level := by
  constructor
  · intro h
    exact ⟨h q .self, fun inner hinner level hlevel => h level (hlevel.of_nested hinner)⟩
  · rintro ⟨hq, hinner⟩ level hlevel
    rcases hlevel.eq_or with rfl | ⟨inner, hmem, hlevel⟩
    · exact hq
    · exact hinner inner hmem level hlevel

end Query

end ObjectQuery
