import Mathlib
import ObjectQuery.Proofs.Query.Edit
import ObjectQuery.Proofs.Sql.Entering
import ObjectQuery.Proofs.Sql.LinkTables
import ObjectQuery.Proofs.Sql.References

/-!
# Scopes of statements

A statement reads columns of the tables that its own sources declare, and so does every statement
inside it (`compile_wellScoped`). Aliases come from three places: the aliases of the query, the
places of its sources and the numbers of its link tables. The first two are declared by the sources
(`declares_enter`), and a link table is declared where its alias is used.
-/

namespace ObjectQuery.Sql

lemma refs_groupCondition (op : ObjectQuery.GroupOp) (cs : List Condition) :
    (GroupOp.condition op cs).refs = conditionRefs cs := by
  cases cs <;> rfl

lemma operands_groupCondition (op : ObjectQuery.GroupOp) (cs : List Condition) :
    (GroupOp.condition op cs).operands = conditionOperands cs := by
  cases cs <;> rfl

/-- The link tables stay where they are when more follow, the columns are of the declared tables
and of the link tables, and the operands are well scoped. -/
def Scoped (declared : List String) (links : List FromItem) (refs : List ColumnRef)
    (operands : List Statement) (links' : List FromItem) : Prop :=
  links <+: links' ∧ Covers (declared ++ links'.map FromItem.aliasName) refs ∧
    ∀ st ∈ operands, st.WellScoped

namespace Scoped

variable {declared : List String} {links middle links' : List FromItem}

lemma of_covered {c : Condition} (h : c.Covered declared) :
    Scoped declared links c.refs c.operands links :=
  ⟨List.prefix_rfl, h.refs.mono (List.subset_append_left _ _),
    by simp [h.operands]⟩

lemma append {refs refs' : List ColumnRef} {operands operands' : List Statement}
    (h : Scoped declared links refs operands middle)
    (h' : Scoped declared middle refs' operands' links') :
    Scoped declared links (refs ++ refs') (operands ++ operands') links' := by
  obtain ⟨hmiddle, hcovers, hoperands⟩ := h
  obtain ⟨hmiddle', hcovers', hoperands'⟩ := h'
  have hsub : declared ++ middle.map FromItem.aliasName ⊆
      declared ++ links'.map FromItem.aliasName :=
    List.append_subset.2 ⟨List.subset_append_left _ _,
      List.subset_append_of_subset_right _ (hmiddle'.map _).subset⟩
  exact ⟨hmiddle.trans hmiddle', Covers.append_iff.2 ⟨hcovers.mono hsub, hcovers'⟩,
    List.forall_mem_append.2 ⟨hoperands, hoperands'⟩⟩

end Scoped

/-- The operands of the tests compile into well scoped statements. -/
def OperandScoped (s : Scope) (c : Constraint) : Prop :=
  ∀ q ∈ c.operand?, ∀ st, (compile s.model s.platform .identities none q).outcome = .ok st →
    st.WellScoped

namespace Scope.Declares

variable {s : Scope} {declared : List String}

lemma condition_of_test (hs : s.Declares declared) {links links' : List FromItem}
    {c : Constraint} {d : Condition} (hc : OperandScoped s c) (htest : c.isGroup = false)
    (h : (condition s links c).outcome = .ok (d, links')) :
    Scoped declared links d.refs d.operands links' := by
  cases tested_of_condition htest h with
  | compare hd => exact .of_covered (hs.comparison hd)
  | nullTest ht => exact .of_covered ⟨hs.term ht, rfl⟩
  | memberOf hl hst =>
    exact ⟨List.prefix_rfl, (hs.nodeTerm hl).mono (List.subset_append_left _ _),
      List.forall_mem_singleton.2 (hc _ rfl _ hst)⟩
  | identity hl hr =>
    exact .of_covered ⟨Covers.append_iff.2 ⟨hs.identity hl, hs.targetTerm hr⟩, rfl⟩
  | contains hd =>
    obtain ⟨hmiddle, hcovered⟩ := hs.testRelationship hd
    exact ⟨hmiddle, hcovered.refs, by simp [hcovered.operands]⟩
  | referenceNull hd =>
    obtain ⟨hmiddle, hcovered⟩ := hs.testRelationship hd
    exact ⟨hmiddle, hcovered.refs, by simp [hcovered.operands]⟩
  | bag hd => exact .of_covered (hs.bag hd)

/-- Every constraint has a condition that is in scope behind the link tables it calls for. -/
lemma condition (hs : s.Declares declared) {links links' : List FromItem} {c : Constraint}
    {d : Condition} (hc : ∀ test ∈ c.tests, OperandScoped s test)
    (h : (Sql.condition s links c).outcome = .ok (d, links')) :
    Scoped declared links d.refs d.operands links' := by
  have hind : Inductive s (OperandScoped s)
      (fun links _ d links' => Scoped declared links d.refs d.operands links')
      (fun links _ ds links' =>
        Scoped declared links (conditionRefs ds) (conditionOperands ds) links') :=
    { test := hs.condition_of_test
      group := fun {links op cs ds links'} h => by
        rw [refs_groupCondition, operands_groupCondition]
        exact h
      nil := .of_covered (c := .constant true) ⟨Covers.nil, rfl⟩
      cons := fun _ => .append }
  exact condition_induction hind hc h

end Scope.Declares

lemma conditionRefs_append (cs more : List Condition) :
    conditionRefs (cs ++ more) = conditionRefs cs ++ conditionRefs more := by
  simp only [conditionRefs_eq_flatMap, List.flatMap_append]

lemma conditionOperands_append (cs more : List Condition) :
    conditionOperands (cs ++ more) = conditionOperands cs ++ conditionOperands more := by
  simp only [conditionOperands_eq_flatMap, List.flatMap_append]

/-- Joins read columns of the tables that are joined. -/
lemma covered_joinsOf {aliases declared : List String} (h : aliases ⊆ declared) :
    ∀ c ∈ Entered.joinsOf aliases, c.Covered declared := by
  induction aliases with
  | nil => exact nofun
  | cons a rest ih =>
    cases rest with
    | nil => exact nofun
    | cons b rest =>
      obtain ⟨ha, hrest⟩ := List.cons_subset.1 h
      obtain ⟨hb, _⟩ := List.cons_subset.1 hrest
      have hjoin : Covers declared [⟨a, Field.identityName⟩, ⟨b, Field.identityName⟩] := by
        simp [Covers, ha, hb]
      exact List.forall_mem_cons.2 ⟨⟨hjoin, rfl⟩, ih hrest⟩

lemma covered_joins_enter {s : Scope} {sources : List Source} {entered : Entered}
    (h : (enter s sources).outcome = .ok entered) :
    ∀ c ∈ entered.joins, c.Covered (entered.items.map FromItem.aliasName) := by
  obtain ⟨es, hes, rfl⟩ := enter_eq_ok_iff.1 h
  rw [Entered.joins_all, Entered.items_all]
  intro c hc
  obtain ⟨e, he, hc⟩ := List.mem_flatMap.1 hc
  obtain ⟨source, _, henters⟩ := hes.exists_of_mem_right he
  have hitems : e.items ⊆ es.flatMap Entered.items :=
    fun item hitem => List.mem_flatMap.2 ⟨e, he, hitem⟩
  cases henters with
  | @object c base components _ _ =>
    have haliases := Entered.aliases_classItems base components
    have hcovered := covered_joinsOf (List.Subset.refl _) _ hc
    rw [← haliases] at hcovered
    exact hcovered.mono (List.map_subset _ hitems)
  | query _ _ => cases hc

lemma operands_seek {s : Scope} {start : Option Seek} {cs : List Condition}
    (h : Seek.conditions s start = .ok cs) : conditionOperands cs = [] := by
  cases start with
  | none =>
    cases h
    rfl
  | some start =>
    obtain ⟨k, l, _, _, rfl⟩ := seekConditions_eq_ok_iff.1 h
    rfl

lemma statement?_of_linkItems {first : Nat} {links : List LinkTable} {item : FromItem}
    (h : item ∈ linkItems first links) : item.statement? = none := by
  obtain ⟨i, hi, rfl⟩ := List.mem_mapIdx.1 h
  rfl

lemma ordering_ofShape {s : Scope} {declared : List String} (hs : s.Declares declared)
    {shape : Shape} {q : Query} {first : Nat} {o : Ordering}
    (h : Ordering.ofShape s shape q first = .ok o) : o.Covered declared := by
  unfold Ordering.ofShape at h
  split at h
  · exact hs.ofNodes h
  · cases h
    exact ⟨by simp [Ordering.none], by simp [Ordering.none]⟩

lemma tableOf_mem_aliases {s : Scope} {n : NodeId} {field a : String}
    (h : s.tableOf n field = .ok a) :
    ∃ place, s.places.lookup n = some place ∧ a ∈ place.aliases := by
  unfold Scope.tableOf at h
  split at h
  · cases h
  · rename_i base hplace
    cases h
    exact ⟨_, hplace, List.mem_singleton_self _⟩
  · rename_i type parts hplace
    split at h
    · rename_i part hpart
      cases h
      exact ⟨_, hplace, List.mem_map.2 ⟨_, List.mem_of_find?_eq_some hpart, rfl⟩⟩
    · cases h

/-- The tables of the places of the sources are among those that the sources bring in. -/
lemma aliases_subset_items {s : Scope} {sources : List Source} {entered : Entered}
    (h : (enter s sources).outcome = .ok entered) {n : NodeId} {place : Place}
    (hplace : entered.places.lookup n = some place) :
    place.aliases ⊆ entered.items.map FromItem.aliasName := by
  obtain ⟨es, hes, rfl⟩ := enter_eq_ok_iff.1 h
  have hmem := List.mem_of_lookup_eq_some hplace
  rw [Entered.places_all] at hmem
  obtain ⟨e, he, hplace⟩ := List.mem_flatMap.1 hmem
  have he := List.mem_reverse.1 he
  obtain ⟨source, _, hsource⟩ := hes.exists_of_mem_right he
  obtain ⟨own, hown, haliases⟩ := hsource.place
  rw [hown] at hplace
  cases List.mem_singleton.1 hplace
  rw [← haliases, Entered.items_all]
  exact List.map_subset _ fun item hitem => List.mem_flatMap.2 ⟨e, he, hitem⟩

/-- The alias of a source is one of the aliases of the tables that it brings in. -/
lemma aliasOf_mem_items {s : Scope} {sources : List Source} {entered : Entered}
    (h : (enter s sources).outcome = .ok entered) {source : Source} (hsource : source ∈ sources)
    {a : String} (ha : s.aliasOf source.id = .ok a) :
    a ∈ entered.items.map FromItem.aliasName := by
  obtain ⟨es, hes, rfl⟩ := enter_eq_ok_iff.1 h
  obtain ⟨e, he, henters⟩ := hes.exists_of_mem_left hsource
  obtain ⟨item, items, hitems, rfl⟩ := henters.head_items ha
  rw [Entered.items_all]
  refine List.mem_map_of_mem (List.mem_flatMap.2 ⟨e, he, ?_⟩)
  rw [hitems]
  exact List.mem_cons_self

/-- In a built query that selects from its sources only, the sources declare all aliases that the
scope of the query gives out. -/
lemma declares_enter {m : Model} {p : Platform} {q : Query} (hq : q.Built)
    (hs : q.SelectsSources) {entered : Entered}
    (h : (enter (.ofQuery m p q) q.sources).outcome = .ok entered) :
    ((Scope.ofQuery m p q).enteredWith entered).Declares
      (entered.items.map FromItem.aliasName) := by
  constructor
  · intro n a ha
    have hlookup := aliasOf_eq_ok_iff.1 ha
    obtain ⟨source, hsource, rfl⟩ := List.mem_map.1 (hq.hasSource_of_lookup hs hlookup)
    exact aliasOf_mem_items h hsource ha
  · intro n field a ha
    obtain ⟨place, hplace, hmem⟩ := tableOf_mem_aliases ha
    exact aliases_subset_items h hplace hmem

/-- Each statement that the sources bring in is compiled from a source. -/
lemma statement_of_item {s : Scope} {sources : List Source} {entered : Entered}
    (h : (enter s sources).outcome = .ok entered) {item : FromItem} (hitem : item ∈ entered.items)
    {st : Statement} (hst : item.statement? = some st) :
    ∃ inner, .query inner ∈ sources ∧
      (compile s.model s.platform .derived none inner).outcome = .ok st := by
  obtain ⟨es, hes, rfl⟩ := enter_eq_ok_iff.1 h
  rw [Entered.items_all] at hitem
  obtain ⟨e, he, hitem⟩ := List.mem_flatMap.1 hitem
  obtain ⟨source, hsource, henters⟩ := hes.exists_of_mem_right he
  cases henters with
  | object _ _ =>
    obtain ⟨i, hi, rfl⟩ := List.mem_mapIdx.1 hitem
    cases hst
  | query _ hcompile =>
    obtain rfl := List.mem_singleton.1 hitem
    cases hst
    exact ⟨_, hsource, hcompile⟩

/-- The condition of a query is in scope behind its sources and its link tables. -/
lemma scoped_root {s : Scope} {declared : List String} (hs : s.Declares declared)
    {constraint : Option Constraint} (hc : ∀ c ∈ constraint, ∀ test ∈ c.tests, OperandScoped s test)
    {cs : List Condition} {links : List FromItem}
    (h : (rootCondition s constraint).outcome = .ok (cs, links)) :
    Scoped declared [] (conditionRefs cs) (conditionOperands cs) links := by
  cases constraint with
  | none =>
    cases h
    exact .of_covered (c := .constant true) ⟨Covers.nil, rfl⟩
  | some c =>
    simp only [rootCondition, Traced.outcome_bind, Traced.outcome_pure] at h
    obtain ⟨⟨d, links'⟩, hd, h⟩ := Except.bind_eq_ok.1 h
    cases h
    simpa [conditionRefs, conditionOperands] using hs.condition (hc c rfl) hd

/-- If every level of a query is built and selects from its own sources only, every column that the
statement reads is of a table that its own sources declare, and so it is in every statement inside
it. -/
theorem compile_wellScoped {m : Model} {p : Platform} {shape : Shape} {seek : Option Seek}
    {q : Query} (hq : ∀ level, q.Level level → level.Built ∧ level.SelectsSources)
    {st : Statement} (h : (compile m p shape seek q).outcome = .ok st) : st.WellScoped := by
  induction q using Query.nested_induction generalizing shape seek st with
  | step q ih =>
    obtain ⟨entered, conditions, links, starts, hentered, hroot, hseek, hst⟩ :=
      compile_eq_ok_iff.1 h
    obtain ⟨order, columns, groupBy, horder, hcolumns, hgroupBy, rfl⟩ := assemble_eq_ok_iff.1 hst
    obtain ⟨hbuilt, hselects⟩ := hq q .self
    have hs := declares_enter hbuilt hselects hentered
    have hinner : ∀ inner ∈ q.nested, ∀ shape st,
        (compile m p shape none inner).outcome = .ok st → st.WellScoped := by
      intro inner hinner shape st hcompile
      exact ih inner hinner (fun level hlevel => hq level (hlevel.of_nested hinner)) hcompile
    have htests : ∀ c ∈ q.constraint, ∀ test ∈ c.tests,
        OperandScoped ((Scope.ofQuery m p q).enteredWith entered) test := by
      intro c hc test htest inner hinner' st hcompile
      exact hinner inner (Query.mem_nested_of_operand (Query.mem_tests hc htest) hinner') _ st
        hcompile
    obtain ⟨_, hconditions, hoperands⟩ := scoped_root hs htests hroot
    have hjoins := covered_joins_enter hentered
    have horder := ordering_ofShape hs horder
    have hsub := List.subset_append_left (entered.items.map FromItem.aliasName)
      (links.map FromItem.aliasName)
    constructor
    · rw [Statement.declared, List.map_append]
      have hselected : ∀ o ∈ columns ++ order.columns,
          Covers (entered.items.map FromItem.aliasName) o.term.refs :=
        List.forall_mem_append.2 ⟨hs.columns hcolumns, horder.columns⟩
      have hrefs : Covers (entered.items.map FromItem.aliasName) (conditionRefs entered.joins) := by
        rw [conditionRefs_eq_flatMap, Covers.flatMap_iff]
        exact fun c hc => (hjoins c hc).refs
      show Covers _ _
      simp only [Statement.refs, conditionRefs_append, Covers.append_iff, Covers.flatMap_iff]
      exact ⟨⟨⟨fun o ho => (hselected o ho).mono hsub, hrefs.mono hsub, hconditions,
          (hs.seek hseek).mono hsub⟩, fun t ht => (hs.grouping hgroupBy t ht).mono hsub⟩,
        fun t ht => (horder.terms t ht).mono hsub⟩
    · intro inner hst
      -- an inner statement is a source or the operand of a test, both of which are levels below
      rcases List.mem_append.1 hst with hst | hst
      · obtain ⟨item, hitem, hst⟩ := List.mem_filterMap.1 hst
        rcases List.mem_append.1 hitem with hitem | hitem
        · obtain ⟨source, hsource, hcompile⟩ := statement_of_item hentered hitem hst
          exact hinner source (Query.mem_nested_of_source hsource) _ _ hcompile
        · rw [(links_root hroot).1] at hitem
          rw [statement?_of_linkItems hitem] at hst
          cases hst
      · have hjoins : conditionOperands entered.joins = [] := by
          rw [conditionOperands_eq_flatMap, List.flatMap_eq_nil_iff]
          exact fun c hc => (hjoins c hc).operands
        rw [conditionOperands_append, conditionOperands_append, hjoins, operands_seek hseek,
          List.nil_append, List.append_nil] at hst
        exact hoperands inner hst

end ObjectQuery.Sql

namespace ObjectQuery

namespace Sample

/-- Objects that are employees and projects, in a query with others in it. -/
def worker : ClassNode :=
  ⟨⟨5⟩, both.type⟩

/-- The workers that are among all employees, not in one project or in another one, next to each of
the employees and in the order of their names. -/
def layered : Query :=
  [.addSource (.object worker), .addSource (.query employees), .addSelect (.object worker),
    .addOrderBy (.expr (.column ⟨employees.id, true, "a1_", some "name", .string⟩)),
    .setConstraint (.group .or [.memberOf (.object worker) .isIn (employees.copy ⟨7⟩),
      .contains ⟨worker, "projects", .manyToMany⟩ .doesNotContain
        (.stored ⟨.single "Project", some 7⟩),
      .contains ⟨worker, "projects", .manyToMany⟩ .contains
        (.stored ⟨.single "Project", some 8⟩)])].foldl Edit.apply (.empty ⟨6⟩)

lemma built_employees : employees.Built :=
  .edit _ (.edit _ (.empty _))

lemma selectsSources_employees : employees.SelectsSources := by
  rintro n ⟨item, hitem, c, hc, rfl⟩
  obtain rfl := List.mem_singleton.1 hitem
  cases hc
  exact List.mem_singleton_self _

lemma selectsSources_layered : layered.SelectsSources := by
  rintro n ⟨item, hitem, c, hc, rfl⟩
  obtain rfl := List.mem_singleton.1 hitem
  cases hc
  exact List.mem_cons_self

/-- The query for the workers has three levels. -/
lemma forall_level_layered {P : Query → Prop} (hlayered : P layered) (hemployees : P employees)
    (hoperand : P (employees.copy ⟨7⟩)) : ∀ level, layered.Level level → P level := by
  refine Query.forall_level_iff.2 ⟨hlayered, ?_⟩
  rintro inner hinner level hlevel
  rcases List.mem_pair.1 hinner with rfl | rfl
  · exact Query.forall_level_iff.2 ⟨hemployees, nofun⟩ level hlevel
  · exact Query.forall_level_iff.2 ⟨hoperand, nofun⟩ level hlevel

/-- All three queries are built and select from their own sources. -/
lemma levels_layered : ∀ level, layered.Level level → level.Built ∧ level.SelectsSources :=
  forall_level_layered ⟨Query.Built.edits (.empty _) _, selectsSources_layered⟩
    ⟨built_employees, selectsSources_employees⟩
    ⟨.copy _ built_employees, selectsSources_employees⟩

/-- The column of the employees that the workers are ordered by has the alias of their query, and
the operand has an alias of that name for a table of its own. -/
lemma exists_layered : ∃ st,
    (Sql.compile company .postgreSQL .whole none layered).outcome = .ok st ∧
    st.text = "SELECT a1_.OBJECT AS a1_, a1_.id AS a1_id, a2_.a1_name AS orderbyfield2 " ++
      "FROM Employee AS a1_, Project AS a1__1, (SELECT a1_.OBJECT AS a1_, a1_.id AS a1_id, " ++
      "a1_.name AS a1_name FROM Employee AS a1_) AS a2_, MembersProjects AS indirect0, " ++
      "MembersProjects AS indirect1 " ++
      "WHERE a1_.id = a1__1.id AND (a1_.id IN (SELECT a1_.id FROM Employee AS a1_) OR " ++
      "( NOT (a1_.id = indirect0.Members AND indirect0.Projects = 7)) OR " ++
      "(a1_.id = indirect1.Members AND indirect1.Projects = 8)) " ++
      "ORDER BY a2_.a1_name, a1_.id" :=
  Except.exists_of_toOption (by decide +kernel)

end Sample

/-- The three statements of the workers, their employees and the operand are scoped apart. -/
theorem compile_wellScoped_layered :
    (∀ level, Sample.layered.Level level → level.Built ∧ level.SelectsSources) ∧
    ∃ st, (Sql.compile Sample.company .postgreSQL .whole none Sample.layered).outcome = .ok st ∧
      st.text = "SELECT a1_.OBJECT AS a1_, a1_.id AS a1_id, a2_.a1_name AS orderbyfield2 " ++
        "FROM Employee AS a1_, Project AS a1__1, (SELECT a1_.OBJECT AS a1_, a1_.id AS a1_id, " ++
        "a1_.name AS a1_name FROM Employee AS a1_) AS a2_, MembersProjects AS indirect0, " ++
      "MembersProjects AS indirect1 " ++
        "WHERE a1_.id = a1__1.id AND (a1_.id IN (SELECT a1_.id FROM Employee AS a1_) OR " ++
        "( NOT (a1_.id = indirect0.Members AND indirect0.Projects = 7)) OR " ++
      "(a1_.id = indirect1.Members AND indirect1.Projects = 8)) " ++
        "ORDER BY a2_.a1_name, a1_.id" ∧ st.WellScoped := by
  obtain ⟨st, hst, htext⟩ := Sample.exists_layered
  exact ⟨Sample.levels_layered, st, hst, htext, Sql.compile_wellScoped Sample.levels_layered hst⟩

end ObjectQuery
