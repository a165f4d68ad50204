import Mathlib
import ObjectQuery.Proofs.Query.Edit
import ObjectQuery.Proofs.Sql.Entering
import ObjectQuery.Proofs.Sql.Factors

/-!
# The condition of a statement means that of its query

The conditions of a statement are the joins of its sources, the constraint of the query and the
start it seeks. All of them are factors, so the `AND` between them needs no parentheses, and the
clause is read as their conjunction and in no other way (`where_clause_means`).
-/

namespace ObjectQuery

namespace Sql

/-- Conditions that are factors whose conjunction has that truth. -/
def Conjoined (conditions : List Condition) (truth : (String → Truth) → Except Failure Truth) :
    Prop :=
  ∃ fs, List.Forall₂ (Reads .factor) (conditionTokens conditions) fs ∧
    ∀ val, truth val = .ok (.all (fs.map (Formula.eval val)))

/-- The condition of a query means what its constraint does. -/
lemma conjoined_root {s : Scope} {constraint : Option Constraint} {cs : List Condition}
    {links : List FromItem} (h : (rootCondition s constraint).outcome = .ok (cs, links)) :
    Conjoined cs fun val => s.rootTruth val constraint := by
  cases constraint with
  | none =>
    cases h
    exact ⟨[], .nil, fun val => rfl⟩
  | some constraint =>
    simp only [rootCondition, Traced.outcome_bind, Traced.outcome_pure] at h
    obtain ⟨⟨c, links'⟩, hc, h⟩ := Except.bind_eq_ok.1 h
    cases h
    obtain ⟨f, hf, htruth⟩ := formula_of_condition hc
    refine ⟨[f], .cons hf .nil, fun val => ?_⟩
    refine Except.bind_eq_ok.2 ⟨_, htruth val, ?_⟩
    rw [List.map_singleton, Truth.all_cons, Truth.all_nil, Truth.and_true]
    rfl

/-- The condition of a start means that the key is greater than the value. -/
lemma conjoined_seek {s : Scope} {seek : Option Seek} {cs : List Condition}
    (h : Seek.conditions s seek = .ok cs) : Conjoined cs fun val => Seek.truth s val seek := by
  cases seek with
  | none =>
    cases h
    exact ⟨[], .nil, fun val => rfl⟩
  | some seek =>
    obtain ⟨k, l, hk, hl, rfl⟩ := seekConditions_eq_ok_iff.1 h
    refine ⟨_, reads_tests ?_, fun val => ?_⟩
    · intro c hc
      obtain rfl := List.mem_singleton.1 hc
      rfl
    · refine Except.bind_eq_ok.2 ⟨l, hl, Except.bind_eq_ok.2 ⟨k, hk, ?_⟩⟩
      rw [List.map_singleton, List.map_singleton, Truth.all_cons, Truth.all_nil, Truth.and_true]
      rfl

/-- The joins of a source mean that its tables have the same identity. -/
lemma conjoined_source {s : Scope} {source : Source} {entered : Entered}
    (h : (enterSource s source).outcome = .ok entered) :
    Conjoined entered.joins fun val => s.joinTruth val source := by
  cases source with
  | query q =>
    simp only [enterSource, Traced.outcome_bind, Traced.outcome_liftM, Except.bind_eq_ok] at h
    obtain ⟨base, _, statement, _, h⟩ := h
    cases h
    exact ⟨[], .nil, fun val => rfl⟩
  | object c =>
    simp only [enterSource, Entered.ofClass, Traced.outcome_liftM, Except.bind_eq_ok] at h
    obtain ⟨base, hbase, components, hcomponents, h⟩ := h
    cases h
    -- the tables are numbered from 0 on, and each is joined with the one of the number before
    have hjoins := Entered.joinsOf_map_range' (Entered.partAlias base) 0 components.length
    rw [← Entered.map_snd_parts, ← List.range_eq_range'] at hjoins
    refine ⟨_, reads_tests ?_, fun val => ?_⟩
    · intro d hd
      rw [hjoins] at hd
      obtain ⟨i, _, rfl⟩ := List.mem_map.1 hd
      rfl
    · refine Except.bind_eq_ok.2 ⟨base, hbase, Except.bind_eq_ok.2 ⟨components, hcomponents, ?_⟩⟩
      rw [hjoins, List.map_map, List.map_map]
      rfl

/-- The joins of all sources mean those of each of them. -/
lemma conjoined_enter {s : Scope} {sources : List Source} {entered : Entered}
    (h : (enter s sources).outcome = .ok entered) :
    Conjoined entered.joins fun val => s.joinsTruth val sources := by
  induction sources generalizing entered with
  | nil =>
    cases h
    exact ⟨[], .nil, fun val => rfl⟩
  | cons source sources ih =>
    obtain ⟨first, rest, hfirst, hrest, rfl⟩ := enter_cons_eq_ok_iff.1 h
    obtain ⟨fs, hfs, hsource⟩ := conjoined_source hfirst
    obtain ⟨gs, hgs, hsources⟩ := ih hrest
    refine ⟨fs ++ gs, ?_, fun val => ?_⟩
    · rw [Entered.append, conditionTokens_append]
      exact List.rel_append hfs hgs
    · obtain ⟨truths, htruths, hall⟩ := Except.bind_eq_ok.1 (hsources val)
      have hmapM : (source :: sources).mapM (s.joinTruth val) =
          .ok (.all (fs.map (Formula.eval val)) :: truths) := by
        rw [List.mapM_cons]
        exact Except.bind_eq_ok.2 ⟨_, hsource val, Except.bind_eq_ok.2 ⟨truths, htruths, rfl⟩⟩
      refine Except.bind_eq_ok.2 ⟨_, hmapM, ?_⟩
      rw [List.map_append, Truth.all_append, Truth.all_cons, ← Except.ok.inj hall]
      rfl

/-- The joins of a source have no part in what was entered. -/
lemma joinsTruth_enteredWith (s : Scope) (entered : Entered) (val : String → Truth)
    (sources : List Source) :
    (s.enteredWith entered).joinsTruth val sources = s.joinsTruth val sources := by
  have hsource : (s.enteredWith entered).joinTruth val = s.joinTruth val := by
    funext source
    cases source <;> rfl
  rw [Scope.joinsTruth, hsource]
  rfl

/-- The text of the condition of a statement, taken as tokens, has one reading with the precedence
of SQL. That formula is the conjunction of the joins of the sources, of the constraint of the query
and of the start it seeks, whatever the truth of each test is. -/
theorem where_clause_means {m : Model} {p : Platform} {shape : Shape} {seek : Option Seek}
    {q : Query} {st : Statement} (h : (compile m p shape seek q).outcome = .ok st) :
    st.text = st.textBefore ++
      (if st.conditions.isEmpty then "" else " WHERE " ++ tokensText st.whereTokens) ++
      st.textAfter ∧
    ∃ f, ReadsClause st.whereTokens f ∧ (∀ g, ReadsClause st.whereTokens g → g = f) ∧
      ∀ val, rowTruth m p seek q val = .ok (f.eval val) := by
  obtain ⟨entered, conditions, links, seekConditions, hentered, hroot, hseek, hst⟩ :=
    compile_eq_ok_iff.1 h
  obtain ⟨order, columns, groupBy, _, _, _, rfl⟩ := assemble_eq_ok_iff.1 hst
  constructor
  · rw [Statement.text_eq, Statement.textWhere_eq]
  · obtain ⟨fs, hfs, hjoins⟩ := conjoined_enter hentered
    obtain ⟨gs, hgs, hconstraint⟩ := conjoined_root hroot
    obtain ⟨hs, hhs, hstart⟩ := conjoined_seek hseek
    have hreads : ReadsClause
        ([.and].intercalate (conditionTokens (entered.joins ++ (conditions ++ seekConditions))))
        (.conjunction (fs ++ (gs ++ hs))) := by
      rw [conditionTokens_append, conditionTokens_append]
      exact ReadsClause.intercalate_and (List.rel_append hfs (List.rel_append hgs hhs))
    refine ⟨_, hreads, fun g hg => hg.unique hreads, fun val => ?_⟩
    have hentered' := joinsTruth_enteredWith (.ofQuery m p q) entered val q.sources
    refine Except.bind_eq_ok.2 ⟨entered, hentered, ?_⟩
    refine Except.bind_eq_ok.2 ⟨_, hentered'.trans (hjoins val), ?_⟩
    refine Except.bind_eq_ok.2 ⟨_, hconstraint val, ?_⟩
    refine Except.bind_eq_ok.2 ⟨_, hstart val, ?_⟩
    rw [Formula.eval_conjunction, List.map_append, List.map_append, Truth.all_append,
      Truth.all_append]
    simp only [Truth.all_cons, Truth.all_nil, Truth.and_true]
    rfl

end Sql

namespace Sample

/-- The name of the objects that are employees and projects. -/
def nameOfBoth : Expr :=
  .column ⟨both.id, false, "name", none, .string⟩

/-- Groups in a group, one of them empty, with a bag and a test of a link table between them. -/
def nested : Constraint :=
  .group .nor [
    .bag (.expr nameOfBoth) .notIn [.string "Ada", .string "Bob", .string "Ada"],
    .group .nand [.nullTest nameOfBoth .isNotNull, .group .or []],
    .contains ⟨both, "projects", .manyToMany⟩ .doesNotContain (.stored ⟨.single "Project", some 7⟩)]

/-- The objects in both tables for which the groups hold, beyond the third one. -/
lemma exists_nested : ∃ st,
    (Sql.compile company .postgreSQL .whole (some ⟨.column (.identityOf both), .int 3⟩)
      (joined.setConstraint nested)).outcome = .ok st ∧
    st.textWhere = " WHERE a1_.id = a1__1.id AND ( NOT (" ++
      "( NOT (a1_.name = 'Ada' OR a1_.name = 'Bob')) OR " ++
      "( NOT (a1_.name IS NOT NULL AND false)) OR " ++
      "( NOT (a1_.id = indirect0.Members AND indirect0.Projects = 7)))) AND a1_.id > 3" :=
  Except.exists_of_toOption (by decide +kernel)

end Sample

/-- Groups within groups keep their meaning between the joins of two tables and a start. -/
theorem where_clause_means_nested : ∃ st,
    (Sql.compile Sample.company .postgreSQL .whole
      (some ⟨.column (.identityOf Sample.both), .int 3⟩)
      (Sample.joined.setConstraint Sample.nested)).outcome = .ok st ∧
    st.textWhere = " WHERE a1_.id = a1__1.id AND ( NOT (" ++
      "( NOT (a1_.name = 'Ada' OR a1_.name = 'Bob')) OR " ++
      "( NOT (a1_.name IS NOT NULL AND false)) OR " ++
      "( NOT (a1_.id = indirect0.Members AND indirect0.Projects = 7)))) AND a1_.id > 3" ∧
    ∃ f, Sql.ReadsClause st.whereTokens f ∧ (∀ g, Sql.ReadsClause st.whereTokens g → g = f) ∧
      ∀ val, Sql.rowTruth Sample.company .postgreSQL
        (some ⟨.column (.identityOf Sample.both), .int 3⟩)
        (Sample.joined.setConstraint Sample.nested) val = .ok (f.eval val) := by
  obtain ⟨st, hst, htext⟩ := Sample.exists_nested
  exact ⟨st, hst, htext, (Sql.where_clause_means hst).2⟩

end ObjectQuery
