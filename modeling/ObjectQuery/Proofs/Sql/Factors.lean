import Mathlib
import ObjectQuery.Proofs.Except
import ObjectQuery.Proofs.SortedMap
import ObjectQuery.Proofs.Sql.Meaning
import ObjectQuery.Proofs.Sql.Relationship

/-!
# Conditions are factors that mean their constraints

A constraint compiles into a condition that is read as a factor, and the formula it is read as has
the truth of the constraint, whatever that of the tests is (`formula_of_condition`, with the members
of groups in `formulas_of_members`). Groups, bags and tests of relationships come first, each with a
lemma of its own.
-/

namespace ObjectQuery.Sql

/-- A group means what its operator makes of the truths of the members. -/
lemma factor_of_group {members : List Condition} {fs : List Formula}
    (h : List.Forall₂ (Reads .factor) (conditionTokens members) fs) (op : ObjectQuery.GroupOp) :
    ∃ f, Reads .factor (GroupOp.condition op members).tokens f ∧
      ∀ val, f.eval val = op.truth (fs.map (Formula.eval val)) := by
  cases members with
  | nil =>
    -- without members there is nothing to put between parentheses, and the group is a constant
    cases h
    refine ⟨_, .constant, fun val => ?_⟩
    cases op <;> rfl
  | cons c members =>
    refine ⟨_, reads_group op.isDisjunctive op.isNegated (List.cons_ne_nil c members) h, ?_⟩
    intro val
    cases op <;> simp [Formula.group, ObjectQuery.GroupOp.isDisjunctive,
      ObjectQuery.GroupOp.isNegated, GroupOp.truth, Formula.eval]

/-- A test is read as itself. -/
lemma reads_test {c : Condition} (h : c.tokens = [.test c.text]) :
    Reads .factor c.tokens (.test c.text) := by
  rw [h]
  exact .test

lemma reads_tests {cs : List Condition} (h : ∀ c ∈ cs, c.tokens = [.test c.text]) :
    List.Forall₂ (Reads .factor) (conditionTokens cs) (cs.map fun c => .test c.text) := by
  induction cs with
  | nil => exact .nil
  | cons c cs ih =>
    have hc := reads_test (h c List.mem_cons_self)
    exact .cons hc (ih fun d hd => h d (List.mem_cons_of_mem c hd))

/-- The entry of a literal among the members of a bag. -/
def bagEntry (left : Term) (literal : String) : String × Condition :=
  ((Condition.equality left (.literal literal)).text, .equality left (.literal literal))

/-- Literals with equalities of the same text are the same. -/
lemma bagEntry_fst_injective {left : Term} {l l' : String}
    (h : (bagEntry left l).1 = (bagEntry left l').1) : l = l' := by
  simpa [bagEntry, Condition.equality, Condition.text, Term.text] using h

/-- The members of a bag with one more value. -/
def Scope.addMember (s : Scope) (left : Term) (members : SortedMap String Condition) (v : Value) :
    Except Failure (SortedMap String Condition) := do
  let l ← s.platform.literal v
  return members.insert (bagEntry left l).1 (bagEntry left l).2

/-- The members of a bag whose values have these literals. -/
def literalMembers (left : Term) (literals : List String) : SortedMap String Condition :=
  literals.foldl (fun members l => members.insert (bagEntry left l).1 (bagEntry left l).2) .empty

/-- The members of a bag are made of the literals of its values, all of which need one. -/
lemma members_eq (s : Scope) (left : Term) (values : List Value) :
    s.members left values = (values.mapM s.platform.literal).map (literalMembers left) := by
  have hfold (start : SortedMap String Condition) : values.foldlM (s.addMember left) start =
      (values.mapM s.platform.literal).map fun literals => literals.foldl
        (fun members l => members.insert (bagEntry left l).1 (bagEntry left l).2) start := by
    induction values generalizing start with
    | nil => rfl
    | cons v values ih =>
      rw [List.foldlM_cons, List.mapM_cons, Scope.addMember]
      cases s.platform.literal v with
      | error e => rfl
      | ok l =>
        show values.foldlM (s.addMember left) _ = _
        rw [ih]
        cases values.mapM s.platform.literal <;> rfl
  exact hfold .empty

/-- Each literal has its entry, once. -/
lemma mem_literalMembers {left : Term} {literals : List String} {e : String × Condition} :
    e ∈ (literalMembers left literals).entries ↔ ∃ l ∈ literals, e = bagEntry left l := by
  induction literals using List.reverseRecOn with
  | nil => simp [literalMembers, SortedMap.empty]
  | append_singleton literals l ih =>
    have hlast : literalMembers left (literals ++ [l]) =
        (literalMembers left literals).insert (bagEntry left l).1 (bagEntry left l).2 := by
      rw [literalMembers, List.foldl_append]
      rfl
    rw [hlast, SortedMap.mem_entries_insert, ih]
    constructor
    · rintro (rfl | ⟨⟨l', hl', rfl⟩, _⟩)
      · exact ⟨l, List.mem_append_right _ (List.mem_singleton_self l), rfl⟩
      · exact ⟨l', List.mem_append_left _ hl', rfl⟩
    · rintro ⟨l', hl', rfl⟩
      -- the new entry takes the place of that of the same literal only
      by_cases heq : l' = l
      · exact .inl (by rw [heq])
      · have hbefore : l' ∈ literals := by
          rcases List.mem_append.1 hl' with hbefore | hlast
          · exact hbefore
          · exact absurd (List.mem_singleton.1 hlast) heq
        exact .inr ⟨⟨l', hbefore, rfl⟩, fun hfst => heq (bagEntry_fst_injective hfst)⟩

/-- The members of a bag are the equalities with its values. -/
lemma mem_members {s : Scope} {left : Term} {values : List Value}
    {members : SortedMap String Condition} (h : s.members left values = .ok members) :
    ∃ literals, values.mapM s.platform.literal = .ok literals ∧
      ∀ e, e ∈ members.entries ↔ ∃ l ∈ literals, e = bagEntry left l := by
  rw [members_eq] at h
  cases hliterals : values.mapM s.platform.literal with
  | error e =>
    rw [hliterals] at h
    cases h
  | ok literals =>
    rw [hliterals] at h
    cases h
    exact ⟨literals, rfl, fun e => mem_literalMembers⟩

/-- A bag means the disjunction of the equalities with its values, or the negation of it. -/
lemma factor_of_bag {s : Scope} {n : Node} {op : Membership} {values : List Value} {c : Condition}
    (h : s.bag n op values = .ok c) :
    ∃ f, Reads .factor c.tokens f ∧ ∀ val, s.bagTruth val n op values = .ok (f.eval val) := by
  obtain ⟨left, hleft, h⟩ := Except.bind_eq_ok.1 h
  obtain ⟨members, hmembers, h⟩ := Except.bind_eq_ok.1 h
  obtain ⟨literals, hliterals, hmem⟩ := mem_members hmembers
  have htruth (val : String → Truth) : s.bagTruth val n op values =
      .ok (op.truth (.any (literals.map fun l => val (bagEntry left l).1))) := by
    rw [Scope.bagTruth, hleft]
    refine Except.bind_eq_ok.2 ⟨left, rfl, ?_⟩
    exact Except.bind_eq_ok.2 ⟨literals, hliterals, rfl⟩
  split at h
  · rename_i hempty
    cases h
    have hliterals : literals = [] := by
      rw [List.isEmpty_iff] at hempty
      refine List.eq_nil_iff_forall_not_mem.2 fun l hl => ?_
      have hmem := (hmem (bagEntry left l)).2 ⟨l, hl, rfl⟩
      rw [hempty] at hmem
      cases hmem
    refine ⟨_, .constant, fun val => ?_⟩
    rw [htruth, hliterals]
    cases op <;> rfl
  · rename_i hempty
    cases h
    have hne : members.values ≠ [] := by
      intro hnil
      rw [List.map_eq_nil_iff.1 hnil] at hempty
      exact hempty rfl
    have htests : ∀ c ∈ members.values, c.tokens = [.test c.text] := by
      intro c hc
      obtain ⟨e, he, rfl⟩ := List.mem_map.1 hc
      obtain ⟨l, _, rfl⟩ := (hmem e).1 he
      rfl
    refine ⟨_, reads_group true (op == .notIn) hne (reads_tests htests), fun val => ?_⟩
    -- the members are sorted and without repetition, which a disjunction does not show
    have hany : Truth.any (literals.map fun l => val (bagEntry left l).1) =
        .any (members.values.map fun c => val c.text) := by
      refine Truth.any_congr fun a => ?_
      rw [List.mem_map, List.mem_map]
      constructor
      · rintro ⟨l, hl, rfl⟩
        exact ⟨_, List.mem_map_of_mem ((hmem _).2 ⟨l, hl, rfl⟩), rfl⟩
      · rintro ⟨c, hc, rfl⟩
        obtain ⟨e, he, rfl⟩ := List.mem_map.1 hc
        obtain ⟨l, hl, rfl⟩ := (hmem e).1 he
        exact ⟨l, hl, rfl⟩
    have heval : (Formula.disjunction (members.values.map fun c => .test c.text)).eval val =
        .any (members.values.map fun c => val c.text) := by
      rw [Formula.eval_disjunction, List.map_map]
      rfl
    rw [htruth, hany, ← heval]
    cases op <;> rfl

/-- A test of a reference is one test. -/
lemma tokens_testReference {s : Scope} {r : Reference} {f : Field} {test : RelationshipTest}
    {c : Condition} (h : s.testReference r f test = .ok c) : c.tokens = [.test c.text] := by
  obtain ⟨table, _, h⟩ := Except.bind_eq_ok.1 h
  obtain ⟨column, _, h⟩ := Except.bind_eq_ok.1 h
  cases test with
  | null op =>
    cases h
    rfl
  | holds op target =>
    obtain ⟨target', _, h⟩ := Except.bind_eq_ok.1 h
    cases h
    rfl

/-- A test of a foreign key is one test. -/
lemma tokens_testForeignKey {s : Scope} {r : Reference} {f : Field} {test : RelationshipTest}
    {c : Condition} (h : s.testForeignKey r f test = .ok c) : c.tokens = [.test c.text] := by
  obtain ⟨op, target, reverse, column, table, owner, rfl, _, _, _, _, rfl⟩ :=
    Scope.testForeignKey_eq_ok_iff.1 h
  rfl

/-- The joins of a link table are read as their conjunction, or as the negation of it. -/
lemma reads_both (negated : Bool) {a b : Condition} (ha : a.tokens = [.test a.text])
    (hb : b.tokens = [.test b.text]) :
    Reads .factor (Condition.both negated a b).tokens
      (.group false negated [.test a.text, .test b.text]) := by
  have htests : ∀ c ∈ [a, b], c.tokens = [.test c.text] := by
    intro c hc
    rcases List.mem_pair.1 hc with rfl | rfl
    · exact ha
    · exact hb
  exact reads_group false negated (List.cons_ne_nil a [b]) (reads_tests htests)

/-- A test of a relationship means what it asks of the foreign key, or of both ends of the link
table. -/
lemma factor_of_relationship {s : Scope} {r : Reference} {links links' : List FromItem}
    {test : RelationshipTest} {c : Condition}
    (h : s.testRelationship r links test = .ok (c, links')) :
    ∃ f, Reads .factor c.tokens f ∧
      ∀ val, s.relationshipTruth val links.length r test = .ok (f.eval val, links'.length) := by
  obtain ⟨⟨f, relation⟩, hr, h⟩ := Except.bind_eq_ok.1 h
  cases relation with
  | toOne =>
    obtain ⟨c', hc, h⟩ := Except.bind_eq_ok.1 h
    cases h
    refine ⟨.test c.text, reads_test (tokens_testReference hc), fun val => ?_⟩
    exact Except.bind_eq_ok.2 ⟨_, hr, Except.bind_eq_ok.2 ⟨c, hc, rfl⟩⟩
  | oneToMany =>
    obtain ⟨c', hc, h⟩ := Except.bind_eq_ok.1 h
    cases h
    refine ⟨.test c.text, reads_test (tokens_testForeignKey hc), fun val => ?_⟩
    exact Except.bind_eq_ok.2 ⟨_, hr, Except.bind_eq_ok.2 ⟨c, hc, rfl⟩⟩
  | manyToMany =>
    cases test with
    | null op => cases h
    | holds op target =>
      obtain ⟨target', htarget, h⟩ := Except.bind_eq_ok.1 h
      obtain ⟨link, hlink, h⟩ := Except.bind_eq_ok.1 h
      obtain ⟨owner, howner, h⟩ := Except.bind_eq_ok.1 h
      cases h
      refine ⟨_, reads_both (op == .doesNotContain) rfl rfl, fun val => ?_⟩
      refine Except.bind_eq_ok.2 ⟨_, hr, ?_⟩
      refine Except.bind_eq_ok.2 ⟨target', htarget, ?_⟩
      refine Except.bind_eq_ok.2 ⟨link, hlink, ?_⟩
      refine Except.bind_eq_ok.2 ⟨owner, howner, ?_⟩
      rw [List.length_append]
      cases op <;> rfl

mutual

/-- A constraint compiles into a condition that is read as a factor of the same truth. -/
lemma formula_of_condition {s : Scope} {links links' : List FromItem} {constraint : Constraint}
    {c : Condition} (h : (condition s links constraint).outcome = .ok (c, links')) :
    ∃ f, Reads .factor c.tokens f ∧
      ∀ val, s.truth val links.length constraint = .ok (f.eval val, links'.length) := by
  match constraint with
  | .group op members =>
    simp only [condition, Traced.outcome_bind, Traced.outcome_pure] at h
    obtain ⟨⟨cs, links''⟩, hcs, h⟩ := Except.bind_eq_ok.1 h
    cases h
    obtain ⟨fs, hfs, htruths⟩ := formulas_of_members hcs
    obtain ⟨f, hf, heval⟩ := factor_of_group hfs op
    refine ⟨f, hf, fun val => ?_⟩
    rw [Scope.truth, htruths, heval]
    rfl
  | .compare left op right =>
    simp only [condition, Traced.outcome_bind, Traced.outcome_liftM, Traced.outcome_pure] at h
    obtain ⟨c', hc, h⟩ := Except.bind_eq_ok.1 h
    cases h
    obtain ⟨l, hl, hc⟩ := Except.bind_eq_ok.1 hc
    obtain ⟨r, hr, hc⟩ := Except.bind_eq_ok.1 hc
    cases hc
    refine ⟨_, .test, fun val => ?_⟩
    rw [Scope.truth, hl, hr]
    rfl
  | .nullTest e op =>
    simp only [condition, Traced.outcome_bind, Traced.outcome_liftM, Traced.outcome_pure] at h
    obtain ⟨t, ht, h⟩ := Except.bind_eq_ok.1 h
    cases h
    refine ⟨_, .test, fun val => ?_⟩
    rw [Scope.truth, ht]
    rfl
  | .memberOf left op q =>
    simp only [condition, Traced.outcome_bind, Traced.outcome_liftM, Traced.outcome_pure] at h
    obtain ⟨l, hl, h⟩ := Except.bind_eq_ok.1 h
    obtain ⟨rows, hrows, h⟩ := Except.bind_eq_ok.1 h
    cases h
    refine ⟨_, .test, fun val => ?_⟩
    rw [Scope.truth, hl, hrows]
    rfl
  | .identity left op right =>
    simp only [condition, Traced.outcome_bind, Traced.outcome_liftM, Traced.outcome_pure] at h
    obtain ⟨l, hl, h⟩ := Except.bind_eq_ok.1 h
    obtain ⟨r, hr, h⟩ := Except.bind_eq_ok.1 h
    cases h
    refine ⟨_, .test, fun val => ?_⟩
    rw [Scope.truth, hl, hr]
    rfl
  | .contains r op target =>
    simp only [condition, Traced.outcome_liftM] at h
    simp only [Scope.truth]
    exact factor_of_relationship h
  | .referenceNull r op =>
    simp only [condition, Traced.outcome_liftM] at h
    simp only [Scope.truth]
    exact factor_of_relationship h
  | .bag n op values =>
    simp only [condition, Traced.outcome_bind, Traced.outcome_liftM, Traced.outcome_pure] at h
    obtain ⟨c', hc, h⟩ := Except.bind_eq_ok.1 h
    cases h
    obtain ⟨f, hf, htruth⟩ := factor_of_bag hc
    refine ⟨f, hf, fun val => ?_⟩
    rw [Scope.truth, htruth]
    rfl
termination_by structural constraint

/-- The members of a group compile into conditions that are read as factors of the same truths. -/
lemma formulas_of_members {s : Scope} {links links' : List FromItem} {members : List Constraint}
    {cs : List Condition} (h : (memberConditions s links members).outcome = .ok (cs, links')) :
    ∃ fs, List.Forall₂ (Reads .factor) (conditionTokens cs) fs ∧
      ∀ val, s.truths val links.length members =
        .ok (fs.map (Formula.eval val), links'.length) := by
  match members with
  | [] =>
    simp only [memberConditions, Traced.outcome_pure] at h
    cases h
    exact ⟨[], .nil, fun val => rfl⟩
  | constraint :: members =>
    simp only [memberConditions, Traced.outcome_bind, Traced.outcome_pure] at h
    obtain ⟨⟨c, links₁⟩, hc, h⟩ := Except.bind_eq_ok.1 h
    obtain ⟨⟨rest, links₂⟩, hrest, h⟩ := Except.bind_eq_ok.1 h
    cases h
    obtain ⟨f, hf, htruth⟩ := formula_of_condition hc
    obtain ⟨fs, hfs, htruths⟩ := formulas_of_members hrest
    refine ⟨f :: fs, .cons hf hfs, fun val => ?_⟩
    rw [Scope.truths, htruth]
    exact Except.bind_eq_ok.2 ⟨_, rfl, Except.bind_eq_ok.2 ⟨_, htruths val, rfl⟩⟩
termination_by structural members

end

end ObjectQuery.Sql
