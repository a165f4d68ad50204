import Mathlib
import ObjectQuery.Proofs.Query.Levels
import ObjectQuery.Proofs.Sql.Compilation

/-!
# Conditions by their tests

The condition of a group is put together from those of its members, and the link tables are passed
on from member to member. What holds of the conditions of tests and is kept by groups holds of the
condition of every constraint (`condition_induction`). `Tested` lists what the tests compile into.
-/

namespace ObjectQuery.Sql

/-- What a test compiles into behind some link tables: its condition, and the link tables then. -/
inductive Tested (s : Scope) (links : List FromItem) :
    Constraint → Condition → List FromItem → Prop where
  | compare {l r : Expr} {op : Comparison} {d : Condition} :
    s.comparison l op r = .ok d →
    Tested s links (.compare l op r) d links
  | nullTest {e : Expr} {op : NullTest} {t : Term} :
    s.term e = .ok t →
    Tested s links (.nullTest e op) (.nullTest t op) links
  | memberOf {n : Node} {op : Membership} {q : Query} {t : Term} {st : Statement} :
    s.nodeTerm n = .ok t →
    (compile s.model s.platform .identities none q).outcome = .ok st →
    Tested s links (.memberOf n op q) (.memberOf t op st) links
  | identity {c : ClassNode} {op : IdentityOp} {target : ObjectTarget} {l r : Term} :
    s.identity c = .ok l →
    s.targetTerm target = .ok r →
    Tested s links (.identity c op target) (.compare l op.comparison r) links
  | contains {r : Reference} {op : Containment} {target : ObjectTarget} {d : Condition}
      {links' : List FromItem} :
    s.testRelationship r links (.holds op target) = .ok (d, links') →
    Tested s links (.contains r op target) d links'
  | referenceNull {r : Reference} {op : NullTest} {d : Condition} {links' : List FromItem} :
    s.testRelationship r links (.null op) = .ok (d, links') →
    Tested s links (.referenceNull r op) d links'
  | bag {n : Node} {op : Membership} {values : List Value} {d : Condition} :
    s.bag n op values = .ok d →
    Tested s links (.bag n op values) d links

lemma tested_of_condition {s : Scope} {links links' : List FromItem} {test : Constraint}
    {d : Condition} (hgroup : test.isGroup = false)
    (h : (condition s links test).outcome = .ok (d, links')) : Tested s links test d links' := by
  cases test with
  | group op members => cases hgroup
  | compare l op r =>
    simp only [condition, Traced.outcome_bind, Traced.outcome_liftM, Traced.outcome_pure] at h
    obtain ⟨d', hd, h⟩ := Except.bind_eq_ok.1 h
    cases h
    exact .compare hd
  | nullTest e op =>
    simp only [condition, Traced.outcome_bind, Traced.outcome_liftM, Traced.outcome_pure] at h
    obtain ⟨t, ht, h⟩ := Except.bind_eq_ok.1 h
    cases h
    exact .nullTest ht
  | memberOf n op q =>
    simp only [condition, Traced.outcome_bind, Traced.outcome_liftM, Traced.outcome_pure] at h
    obtain ⟨t, ht, h⟩ := Except.bind_eq_ok.1 h
    obtain ⟨st, hst, h⟩ := Except.bind_eq_ok.1 h
    cases h
    exact .memberOf ht hst
  | identity c op target =>
    simp only [condition, Traced.outcome_bind, Traced.outcome_liftM, Traced.outcome_pure] at h
    obtain ⟨l, hl, h⟩ := Except.bind_eq_ok.1 h
    obtain ⟨r, hr, h⟩ := Except.bind_eq_ok.1 h
    cases h
    exact .identity hl hr
  | contains r op target => exact .contains h
  | referenceNull r op => exact .referenceNull h
  | bag n op values =>
    simp only [condition, Traced.outcome_bind, Traced.outcome_liftM, Traced.outcome_pure] at h
    obtain ⟨d', hd, h⟩ := Except.bind_eq_ok.1 h
    cases h
    exact .bag hd

/-- A statement about the link tables before a constraint, its condition and the link tables after
it, which holds of tests and is kept by groups. -/
structure Inductive (s : Scope) (Test : Constraint → Prop)
    (motive : List FromItem → Constraint → Condition → List FromItem → Prop)
    (motives : List FromItem → List Constraint → List Condition → List FromItem → Prop) :
    Prop where
  test : ∀ {links c d links'}, Test c → c.isGroup = false →
    (condition s links c).outcome = .ok (d, links') → motive links c d links'
  group : ∀ {links op cs ds links'}, motives links cs ds links' →
    motive links (.group op cs) (GroupOp.condition op ds) links'
  nil : ∀ {links}, motives links [] [] links
  cons : ∀ {links c d middle cs ds links'}, (condition s links c).outcome = .ok (d, middle) →
    motive links c d middle → motives middle cs ds links' →
    motives links (c :: cs) (d :: ds) links'

section

variable {s : Scope} {Test : Constraint → Prop}
  {motive : List FromItem → Constraint → Condition → List FromItem → Prop}
  {motives : List FromItem → List Constraint → List Condition → List FromItem → Prop}

mutual

/-- What holds of tests and is kept by groups holds of every constraint that compiles. -/
theorem condition_induction (hind : Inductive s Test motive motives)
    {links links' : List FromItem} {c : Constraint} {d : Condition} (hc : ∀ t ∈ c.tests, Test t)
    (h : (condition s links c).outcome = .ok (d, links')) : motive links c d links' := by
  match c with
  | .group op cs =>
    simp only [condition, Traced.outcome_bind, Traced.outcome_pure] at h
    obtain ⟨⟨ds, middle⟩, hds, h⟩ := Except.bind_eq_ok.1 h
    cases h
    exact hind.group (members_induction hind hc hds)
  | .compare .. | .nullTest .. | .memberOf .. | .identity .. | .contains .. | .referenceNull ..
  | .bag .. => exact hind.test (hc _ (List.mem_singleton_self _)) rfl h
termination_by structural c

theorem members_induction (hind : Inductive s Test motive motives)
    {links links' : List FromItem} {cs : List Constraint} {ds : List Condition}
    (hcs : ∀ t ∈ Constraint.memberTests cs, Test t)
    (h : (memberConditions s links cs).outcome = .ok (ds, links')) :
    motives links cs ds links' := by
  match cs with
  | [] =>
    cases h
    exact hind.nil
  | c :: cs =>
    simp only [memberConditions, Traced.outcome_bind, Traced.outcome_pure] at h
    obtain ⟨⟨d, middle⟩, hd, h⟩ := Except.bind_eq_ok.1 h
    obtain ⟨⟨ds, links''⟩, hds, h⟩ := Except.bind_eq_ok.1 h
    cases h
    have hc : ∀ t ∈ c.tests, Test t := fun t ht => hcs t (List.mem_append_left _ ht)
    have hcs : ∀ t ∈ Constraint.memberTests cs, Test t := fun t ht =>
      hcs t (List.mem_append_right _ ht)
    exact hind.cons hd (condition_induction hind hc hd) (members_induction hind hcs hds)
termination_by structural cs

end

end

/-- Every test of a constraint that compiles does so itself, behind some link tables. -/
lemma exists_of_mem_tests {s : Scope} {links links' : List FromItem} {c : Constraint}
    {d : Condition} (h : (condition s links c).outcome = .ok (d, links')) :
    ∀ test ∈ c.tests, ∃ before e after,
      (condition s before test).outcome = .ok (e, after) := by
  have hind : Inductive s (fun _ => True)
      (fun _ c _ _ => ∀ test ∈ c.tests, ∃ before e after,
        (condition s before test).outcome = .ok (e, after))
      (fun _ cs _ _ => ∀ test ∈ Constraint.memberTests cs, ∃ before e after,
        (condition s before test).outcome = .ok (e, after)) := by
    constructor
    · intro links c d links' _ hc h test htest
      rw [Constraint.tests_of_not_isGroup hc] at htest
      obtain rfl := List.mem_singleton.1 htest
      exact ⟨links, d, links', h⟩
    · exact fun h => h
    · exact nofun
    · exact fun _ hc hcs => List.forall_mem_append.2 ⟨hc, hcs⟩
  exact condition_induction hind (fun _ _ => trivial) h

lemma exists_of_mem_rootTests {s : Scope} {constraint : Option Constraint} {cs : List Condition}
    {links : List FromItem} (h : (rootCondition s constraint).outcome = .ok (cs, links)) :
    ∀ test ∈ (constraint.map Constraint.tests).getD [], ∃ before e after,
      (condition s before test).outcome = .ok (e, after) := by
  cases constraint with
  | none => exact List.forall_mem_nil _
  | some c =>
    simp only [rootCondition, Traced.outcome_bind, Traced.outcome_pure] at h
    obtain ⟨⟨d, links'⟩, hd, _⟩ := Except.bind_eq_ok.1 h
    exact exists_of_mem_tests hd

end ObjectQuery.Sql
