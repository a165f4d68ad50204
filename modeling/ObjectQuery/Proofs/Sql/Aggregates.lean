import Mathlib
import ObjectQuery.Proofs.Sql.Factors
import ObjectQuery.Proofs.Sql.FromClause
import ObjectQuery.Proofs.Sql.Tests

/-!
# Aggregates in the conditions of a statement

The conditions of a statement are decided row by row, before there are any groups, so SQL allows no
aggregate in them. A term has an aggregate if its expression has one, and nothing else that a scope
makes has any: no join, no relationship and no bag without values to compare with. So a statement
has an aggregate in its conditions if and only if a test of its query has one or the key of the
start that it seeks does (`testsAggregate_compile`, `testsAggregate_compile_seek`). The statements
inside it are not looked into, and neither is SQL that a value gives as it is.
-/

namespace ObjectQuery

/-- Whether an aggregate is called in the expression. -/
def Expr.hasAggregate : Expr → Bool
  | .column _ => false
  | .arithmetic _ l r => l.hasAggregate || r.hasAggregate
  | .suffix b s => b.hasAggregate || s.hasAggregate
  | .substring b s n => b.hasAggregate || s.hasAggregate || n.hasAggregate
  | .indexOf h n => h.hasAggregate || n.hasAggregate
  | .aggregate .. => true
  | .bareAggregate _ => true
  | .value _ => false
  | .cast e _ => e.hasAggregate

def Node.hasAggregate : Node → Bool
  | .object _ => false
  | .expr e => e.hasAggregate

/-- Whether a test asks for an aggregate. A bag does so only if there is a value in it that can be
compared with its node. -/
def Constraint.hasAggregate (m : Model) : Constraint → Bool
  | .compare l _ r => l.hasAggregate || r.hasAggregate
  | .nullTest e _ => e.hasAggregate
  | .memberOf n _ _ => n.hasAggregate
  | .bag n _ values => n.hasAggregate && values.any (Sql.Scope.comparable m n)
  | .group .. | .identity .. | .contains .. | .referenceNull .. => false

/-- Whether a test of the query asks for an aggregate. -/
def Query.testsAggregate (m : Model) (q : Query) : Bool :=
  q.tests.any (Constraint.hasAggregate m)

namespace Sql

/-- Whether an aggregate is called in the term. -/
def Term.hasAggregate : Term → Bool
  | .column _ => false
  | .literal _ => false
  | .arithmetic _ l r => l.hasAggregate || r.hasAggregate
  | .suffix b s => b.hasAggregate || s.hasAggregate
  | .substring b s n => b.hasAggregate || s.hasAggregate || n.hasAggregate
  | .indexOf h n => h.hasAggregate || n.hasAggregate
  | .aggregate .. => true
  | .countRows => true
  | .cast e _ => e.hasAggregate

mutual

/-- Whether an aggregate is called in the condition, not counting what a statement in it calls. -/
def Condition.hasAggregate : Condition → Bool
  | .constant _ => false
  | .compare l _ r => l.hasAggregate || r.hasAggregate
  | .nullTest e _ => e.hasAggregate
  | .memberOf l _ _ => l.hasAggregate
  | .group _ _ members => membersHaveAggregate members
termination_by structural c => c

def membersHaveAggregate : List Condition → Bool
  | [] => false
  | c :: cs => c.hasAggregate || membersHaveAggregate cs
termination_by structural cs => cs

end

lemma membersHaveAggregate_eq_any (cs : List Condition) :
    membersHaveAggregate cs = cs.any Condition.hasAggregate := by
  induction cs with
  | nil => rfl
  | cons c cs ih => rw [membersHaveAggregate, ih, List.any_cons]

/-- Whether an aggregate is called in the conditions of the statement itself. -/
def Statement.testsAggregate (st : Statement) : Bool :=
  st.conditions.any Condition.hasAggregate

lemma Statement.testsAggregate_addCondition (st : Statement) (c : Condition) :
    (st.addCondition c).testsAggregate = (st.testsAggregate || c.hasAggregate) := by
  simp [testsAggregate, addCondition]

lemma hasAggregate_groupCondition (op : ObjectQuery.GroupOp) (cs : List Condition) :
    (GroupOp.condition op cs).hasAggregate = cs.any Condition.hasAggregate := by
  cases cs with
  | nil => rfl
  | cons c cs => exact membersHaveAggregate_eq_any (c :: cs)

lemma any_hasAggregate_joinsOf (aliases : List String) :
    (Entered.joinsOf aliases).any Condition.hasAggregate = false := by
  induction aliases with
  | nil => rfl
  | cons a aliases ih =>
    cases aliases with
    | nil => rfl
    | cons b aliases => exact ih

namespace Scope

variable {s : Scope}

lemma hasAggregate_identity {c : ClassNode} {t : Term} (h : s.identity c = .ok t) :
    t.hasAggregate = false := by
  obtain ⟨a, _, h⟩ := Except.bind_eq_ok.1 h
  cases h
  rfl

/-- A term has an aggregate if its expression has one. -/
lemma hasAggregate_term {e : Expr} {t : Term} (h : s.term e = .ok t) :
    t.hasAggregate = e.hasAggregate := by
  induction e generalizing t with
  | column c =>
    obtain ⟨ref, _, h⟩ := Except.bind_eq_ok.1 h
    cases h
    rfl
  | arithmetic op l r ihl ihr =>
    obtain ⟨tl, hl, h⟩ := Except.bind_eq_ok.1 h
    obtain ⟨tr, hr, h⟩ := Except.bind_eq_ok.1 h
    cases h
    rw [Term.hasAggregate, ihl hl, ihr hr, Expr.hasAggregate]
  | suffix b p ihb ihp =>
    obtain ⟨tb, hb, h⟩ := Except.bind_eq_ok.1 h
    obtain ⟨tp, hp, h⟩ := Except.bind_eq_ok.1 h
    cases h
    rw [Term.hasAggregate, ihb hb, ihp hp, Expr.hasAggregate]
  | substring b p n ihb ihp ihn =>
    obtain ⟨tb, hb, h⟩ := Except.bind_eq_ok.1 h
    obtain ⟨tp, hp, h⟩ := Except.bind_eq_ok.1 h
    obtain ⟨tn, hn, h⟩ := Except.bind_eq_ok.1 h
    cases h
    rw [Term.hasAggregate, ihb hb, ihp hp, ihn hn, Expr.hasAggregate]
  | indexOf b n ihb ihn =>
    obtain ⟨tb, hb, h⟩ := Except.bind_eq_ok.1 h
    obtain ⟨tn, hn, h⟩ := Except.bind_eq_ok.1 h
    cases h
    rw [Term.hasAggregate, ihb hb, ihn hn, Expr.hasAggregate]
  | aggregate op e ih =>
    cases op with
    | count =>
      cases h
      rfl
    | _ =>
      obtain ⟨te, _, h⟩ := Except.bind_eq_ok.1 h
      cases h
      rfl
  | bareAggregate op =>
    cases op with
    | count =>
      cases h
      rfl
    | _ => cases h
  | value v =>
    obtain ⟨l, _, h⟩ := Except.bind_eq_ok.1 h
    cases h
    rfl
  | cast e type ih =>
    obtain ⟨te, he, h⟩ := Except.bind_eq_ok.1 h
    cases h
    rw [Term.hasAggregate, ih he, Expr.hasAggregate]

lemma hasAggregate_nodeTerm {n : Node} {t : Term} (h : s.nodeTerm n = .ok t) :
    t.hasAggregate = n.hasAggregate := by
  cases n with
  | object c => exact hasAggregate_identity h
  | expr e => exact hasAggregate_term h

lemma hasAggregate_targetTerm {target : ObjectTarget} {t : Term}
    (h : s.targetTerm target = .ok t) : t.hasAggregate = false := by
  cases target with
  | node c => exact hasAggregate_identity h
  | stored o =>
    obtain ⟨id, _, h⟩ := Except.bind_eq_ok.1 h
    cases h
    rfl

lemma hasAggregate_comparison {l r : Expr} {op : Comparison} {c : Condition}
    (h : s.comparison l op r = .ok c) : c.hasAggregate = (l.hasAggregate || r.hasAggregate) := by
  obtain ⟨tl, hl, h⟩ := Except.bind_eq_ok.1 h
  obtain ⟨tr, hr, h⟩ := Except.bind_eq_ok.1 h
  cases h
  rw [Condition.hasAggregate, hasAggregate_term hl, hasAggregate_term hr]

lemma hasAggregate_testReference {r : Reference} {f : Field} {test : RelationshipTest}
    {c : Condition} (h : s.testReference r f test = .ok c) : c.hasAggregate = false := by
  obtain ⟨a, _, h⟩ := Except.bind_eq_ok.1 h
  obtain ⟨column, _, h⟩ := Except.bind_eq_ok.1 h
  cases test with
  | holds op target =>
    obtain ⟨t, ht, h⟩ := Except.bind_eq_ok.1 h
    cases h
    exact hasAggregate_targetTerm ht
  | null op =>
    cases h
    rfl

lemma hasAggregate_testForeignKey {r : Reference} {f : Field} {test : RelationshipTest}
    {c : Condition} (h : s.testForeignKey r f test = .ok c) : c.hasAggregate = false := by
  obtain ⟨op, target, reverse, column, a, owner, rfl, _, _, _, howner, rfl⟩ :=
    testForeignKey_eq_ok_iff.1 h
  rw [Condition.hasAggregate, hasAggregate_identity howner]
  rfl

lemma hasAggregate_testLink {r : Reference} {f : Field} {links links' : List FromItem}
    {test : RelationshipTest} {c : Condition} (h : s.testLink r f links test = .ok (c, links')) :
    c.hasAggregate = false := by
  cases test with
  | null op => cases h
  | holds op target =>
    obtain ⟨t, ht, h⟩ := Except.bind_eq_ok.1 h
    obtain ⟨link, _, h⟩ := Except.bind_eq_ok.1 h
    obtain ⟨owner, howner, h⟩ := Except.bind_eq_ok.1 h
    cases h
    simp only [Condition.both, Condition.hasAggregate, membersHaveAggregate, Term.hasAggregate,
      hasAggregate_identity howner, hasAggregate_targetTerm ht, Bool.or_self]

/-- No test of a relationship has an aggregate. -/
lemma hasAggregate_testRelationship {r : Reference} {links links' : List FromItem}
    {test : RelationshipTest} {c : Condition}
    (h : s.testRelationship r links test = .ok (c, links')) : c.hasAggregate = false := by
  obtain ⟨⟨f, relation⟩, _, h⟩ := Except.bind_eq_ok.1 h
  cases relation with
  | toOne =>
    obtain ⟨c', hc, h⟩ := Except.bind_eq_ok.1 h
    cases h
    exact hasAggregate_testReference hc
  | oneToMany =>
    obtain ⟨c', hc, h⟩ := Except.bind_eq_ok.1 h
    cases h
    exact hasAggregate_testForeignKey hc
  | manyToMany => exact hasAggregate_testLink h

/-- A bag compares its node with each value that can be compared with it. -/
lemma hasAggregate_bag {n : Node} {op : Membership} {values : List Value} {c : Condition}
    (h : s.bag n op values = .ok c) :
    c.hasAggregate = (n.hasAggregate && values.any (comparable s.model n)) := by
  obtain ⟨left, hleft, h⟩ := Except.bind_eq_ok.1 h
  obtain ⟨members, hmembers, h⟩ := Except.bind_eq_ok.1 h
  obtain ⟨literals, hliterals, hentries⟩ := mem_members hmembers
  have hliterals := Except.mapM_eq_ok_iff.1 hliterals
  have hentry (l : String) : (bagEntry left l).2.hasAggregate = n.hasAggregate := by
    show (left.hasAggregate || false) = _
    rw [hasAggregate_nodeTerm hleft, Bool.or_false]
  have hany : members.values.any Condition.hasAggregate =
      (n.hasAggregate && values.any (comparable s.model n)) := by
    rw [Bool.eq_iff_iff, List.any_eq_true, Bool.and_eq_true, List.any_eq_true]
    constructor
    · rintro ⟨_, hc, haggregate⟩
      obtain ⟨e, he, rfl⟩ := List.mem_map.1 hc
      obtain ⟨l, hl, rfl⟩ := (hentries e).1 he
      obtain ⟨v, hv, _⟩ := hliterals.exists_of_mem_right hl
      obtain ⟨hv, hcomparable⟩ := List.mem_filter.1 hv
      exact ⟨(hentry l).symm.trans haggregate, v, hv, hcomparable⟩
    · rintro ⟨haggregate, v, hv, hcomparable⟩
      obtain ⟨l, hl, _⟩ := hliterals.exists_of_mem_left (List.mem_filter.2 ⟨hv, hcomparable⟩)
      exact ⟨_, List.mem_map_of_mem ((hentries _).2 ⟨l, hl, rfl⟩), (hentry l).trans haggregate⟩
  rw [← hany]
  -- without members the node does not show up in the condition at all
  split at h
  · rename_i hempty
    cases h
    rw [SortedMap.values, List.isEmpty_iff.1 hempty]
    rfl
  · cases h
    exact membersHaveAggregate_eq_any _

end Scope

section

variable {s : Scope}

/-- The condition of a test has an aggregate if the test asks for one. -/
lemma hasAggregate_test {links links' : List FromItem} {test : Constraint} {c : Condition}
    (hgroup : test.isGroup = false) (h : (condition s links test).outcome = .ok (c, links')) :
    c.hasAggregate = test.hasAggregate s.model := by
  cases tested_of_condition hgroup h with
  | compare hd => exact Scope.hasAggregate_comparison hd
  | nullTest ht => exact Scope.hasAggregate_term ht
  | memberOf ht _ => exact Scope.hasAggregate_nodeTerm ht
  | identity hl hr =>
    rw [Condition.hasAggregate, Scope.hasAggregate_identity hl, Scope.hasAggregate_targetTerm hr]
    rfl
  | contains hd => exact Scope.hasAggregate_testRelationship hd
  | referenceNull hd => exact Scope.hasAggregate_testRelationship hd
  | bag hd => exact Scope.hasAggregate_bag hd

/-- Groups add no aggregate to those of their members, and lose none. -/
lemma hasAggregate_condition {links links' : List FromItem} {c : Constraint} {d : Condition}
    (h : (condition s links c).outcome = .ok (d, links')) :
    d.hasAggregate = c.tests.any (Constraint.hasAggregate s.model) := by
  have hind : Inductive s (fun _ => True)
      (fun _ c d _ => d.hasAggregate = c.tests.any (Constraint.hasAggregate s.model))
      (fun _ cs ds _ => ds.any Condition.hasAggregate =
        (Constraint.memberTests cs).any (Constraint.hasAggregate s.model)) := by
    constructor
    · intro links c d links' _ hc h
      rw [Constraint.tests_of_not_isGroup hc, hasAggregate_test hc h, List.any_cons, List.any_nil,
        Bool.or_false]
    · intro links op cs ds links' h
      rw [hasAggregate_groupCondition, h]
      rfl
    · intro links
      rfl
    · intro links c d middle cs ds links' _ hc hcs
      rw [List.any_cons, hc, hcs, Constraint.memberTests, List.any_append]
  exact condition_induction hind (fun _ _ => trivial) h

lemma any_hasAggregate_root {q : Query} {cs : List Condition} {links : List FromItem}
    (h : (rootCondition s q.constraint).outcome = .ok (cs, links)) :
    cs.any Condition.hasAggregate = q.testsAggregate s.model := by
  unfold Query.testsAggregate Query.tests
  cases hconstraint : q.constraint with
  | none =>
    rw [hconstraint] at h
    cases h
    rfl
  | some c =>
    rw [hconstraint] at h
    simp only [rootCondition, Traced.outcome_bind, Traced.outcome_pure] at h
    obtain ⟨⟨d, links'⟩, hd, h⟩ := Except.bind_eq_ok.1 h
    cases h
    rw [List.any_cons, List.any_nil, Bool.or_false, hasAggregate_condition hd]
    rfl

/-- Sources are joined by their identities alone. -/
lemma any_hasAggregate_joins {sources : List Source} {entered : Entered}
    (h : (enter s sources).outcome = .ok entered) :
    entered.joins.any Condition.hasAggregate = false := by
  obtain ⟨es, hes, rfl⟩ := enter_eq_ok_iff.1 h
  rw [Entered.joins_all, List.any_flatMap, List.any_eq_false]
  intro e he
  obtain ⟨source, _, henters⟩ := hes.exists_of_mem_right he
  rw [henters.joins_eq, any_hasAggregate_joinsOf]
  exact Bool.false_ne_true

end

variable {m : Model} {p : Platform} {shape : Shape} {q : Query} {st : Statement}

/-- A statement tests an aggregate if its query does. -/
lemma testsAggregate_compile (h : (compile m p shape none q).outcome = .ok st) :
    st.testsAggregate = q.testsAggregate m := by
  obtain ⟨entered, conditions, links, seekConditions, hentered, hroot, hseek, hst⟩ :=
    compile_eq_ok_iff.1 h
  obtain ⟨order, columns, groupBy, _, _, _, rfl⟩ := assemble_eq_ok_iff.1 hst
  cases hseek
  rw [Statement.testsAggregate, List.append_nil, List.any_append, any_hasAggregate_joins hentered,
    any_hasAggregate_root hroot, Bool.false_or]
  rfl

/-- A statement that starts behind a key tests it like the query its tests. -/
lemma testsAggregate_compile_seek {key : Expr} {value : Value}
    (h : (compile m p shape (some ⟨key, value⟩) q).outcome = .ok st) :
    st.testsAggregate = (q.testsAggregate m || key.hasAggregate) := by
  obtain ⟨plain, entered, k, l, hplain, _, hk, _, rfl⟩ := compile_seek_eq_ok_iff.1 h
  rw [Statement.testsAggregate_addCondition, testsAggregate_compile hplain, Condition.hasAggregate,
    Scope.hasAggregate_term hk, Term.hasAggregate, Bool.or_false]

end Sql

end ObjectQuery
