import Mathlib
import ObjectQuery.Proofs.Sql.FromClause
import ObjectQuery.Proofs.Sql.Links

/-!
# Rows that tests of relationships select

A foreign key is a value of the rows that are selected, but a link table stands among the sources of
the statement, and a test of it holds if it does for one of its rows. So a statement whose query
tests relationships selects the rows for which its constraint holds where `contains` is read as some
row being the link and `doesNotContain` as some row not being it, as long as no link table is empty
(`selects_iff`). A row of another link is enough for `doesNotContain`, whether there is the link or
not.
-/

namespace ObjectQuery

namespace Sql

section Selection

variable {s : Scope} {declared : List String} (E : Evaluator) (db : Database) (own : Combination)

/-- A test of a relationship. -/
def IsContainment (c : Constraint) : Prop :=
  ∃ r op target, c = .contains r op target

/-- The link table of a test is the next one. -/
lemma draws_linkItems_iff {rows : Combination} {first : Nat} {link : Option LinkTable} :
    (∀ item ∈ linkItems first link.toList, item.Draws db rows) ↔
      ∀ l ∈ link, rows (Scope.linkAlias first) ∈ db.table l.table := by
  cases link with
  | none => simp
  | some l => simp [linkItems, FromItem.Draws]

/-- A truth that a condition has for some rows is one that its constraint is found to have. -/
lemma found_of_truth (hs : s.Declares declared) {links links' : List FromItem} {c : Constraint}
    {d : Condition} (hc : ∀ test ∈ c.tests, IsContainment test)
    (h : (condition s links c).outcome = .ok (d, links')) {rows : Combination}
    (hown : SameRows declared rows own)
    (hrows : ∀ item ∈ linkItems links.length (s.linkTables c.tests), item.Draws db rows) {v : Bool}
    (htruth : E.truth rows d = .ofBool v) : c.Reads (s.Found db own) v := by
  -- the numbers of the aliases go on from those of the links that stand already
  have hind : Inductive s IsContainment
      (fun links c d _ => (∀ item ∈ linkItems links.length (s.linkTables c.tests),
        item.Draws db rows) → ∀ v, E.truth rows d = .ofBool v → c.Reads (s.Found db own) v)
      (fun links cs ds _ => (∀ item ∈ linkItems links.length
          (s.linkTables (Constraint.memberTests cs)), item.Draws db rows) →
        List.Forall₂ (fun c d => ∀ v, E.truth rows d = .ofBool v → c.Reads (s.Found db own) v)
          cs ds) := by
    constructor
    · rintro links _ d links' ⟨r, op, target, rfl⟩ hgroup h hrows v htruth
      obtain ⟨link, hlink, htable, heq⟩ := truth_testRelationship E own hs h
      rw [Constraint.tests_of_not_isGroup hgroup, linkTables_singleton, htable,
        draws_linkItems_iff] at hrows
      rw [heq rows hown] at htruth
      rw [Constraint.reads_of_not_isGroup _ hgroup]
      exact ⟨link, hlink, _, Link.mem_truths_iff.2 ⟨_, hrows, rfl⟩, htruth⟩
    · intro links op cs ds links' hmembers hrows v htruth
      have hall := hmembers hrows
      rw [Constraint.reads_group_iff]
      rw [E.truth_groupCondition, GroupOp.truth_eq_ofBool_iff] at htruth
      split at htruth
      · rename_i hone
        rw [if_pos hone]
        obtain ⟨d, hd, htruth⟩ := List.mem_map.1 htruth
        obtain ⟨c, hc, hread⟩ := hall.exists_of_mem_right hd
        exact ⟨c, hc, hread _ htruth⟩
      · rename_i hone
        rw [if_neg hone]
        intro c hc
        obtain ⟨d, hd, hread⟩ := hall.exists_of_mem_left hc
        exact hread _ (htruth _ (List.mem_map_of_mem hd))
    · exact fun _ => .nil
    · intro links c d middle cs ds links' hcompiled hfirst hrest hrows
      rw [Constraint.memberTests, linkTables_append, linkItems_append, List.forall_mem_append]
        at hrows
      rw [links_condition hcompiled, List.length_append, length_linkItems] at hrest
      exact .cons (hfirst hrows.1) (hrest hrows.2)
  exact condition_induction hind hc h hrows v htruth

/-- Rows can be drawn for link tables such that, for all combinations with them and the own rows,
something holds. -/
def Drawable (declared : List String) (first : Nat) (links : List LinkTable)
    (P : Combination → Prop) : Prop :=
  ∃ chosen, (∀ item ∈ linkItems first links, item.Draws db chosen) ∧
    ∀ rows, SameRows declared rows own →
      SameRows ((linkItems first links).map FromItem.aliasName) rows chosen → P rows

namespace Drawable

variable {db : Database} {own : Combination} {first : Nat} {links more : List LinkTable}
  {P P' : Combination → Prop}

lemma mono (h : Drawable db own declared first links P) (hP : ∀ rows, P rows → P' rows) :
    Drawable db own declared first links P' := by
  obtain ⟨chosen, hdraws, hchosen⟩ := h
  exact ⟨chosen, hdraws, fun rows hown hrows => hP rows (hchosen rows hown hrows)⟩

/-- Link tables have aliases of their own, so their rows are drawn apart. -/
lemma append (h : Drawable db own declared first links P)
    (h' : Drawable db own declared (first + links.length) more P') :
    Drawable db own declared first (links ++ more) fun rows => P rows ∧ P' rows := by
  obtain ⟨chosen, hdraws, hchosen⟩ := h
  obtain ⟨chosen', hdraws', hchosen'⟩ := h'
  have hnodup := nodup_linkItems first (links ++ more)
  rw [linkItems_append, List.map_append] at hnodup
  obtain ⟨both, hboth, hboth'⟩ :=
    SameRows.exists_merge (List.disjoint_of_nodup_append hnodup) chosen chosen'
  refine ⟨both, ?_, ?_⟩
  · rw [linkItems_append]
    exact List.forall_mem_append.2 ⟨hboth.symm.draws hdraws, hboth'.symm.draws hdraws'⟩
  · intro rows hown hrows
    rw [linkItems_append, List.map_append, SameRows.append_iff] at hrows
    exact ⟨hchosen rows hown (hrows.1.trans hboth), hchosen' rows hown (hrows.2.trans hboth')⟩

/-- A row is drawn for the link table, if there is one. -/
lemma of_option {link : Option LinkTable} {row : Row}
    (hrow : ∀ l ∈ link, row ∈ db.table l.table)
    (hP : ∀ rows, SameRows declared rows own →
      (∀ l ∈ link, rows (Scope.linkAlias first) = row) → P rows) :
    Drawable db own declared first link.toList P := by
  cases link with
  | none => exact ⟨fun _ => row, List.forall_mem_nil _, fun rows hown _ => hP rows hown nofun⟩
  | some l =>
    refine ⟨fun _ => row, List.forall_mem_singleton.2 (hrow l rfl), fun rows hown hrows => ?_⟩
    exact hP rows hown fun _ _ => hrows _ (List.mem_singleton_self _)

/-- Rows can be drawn if no link table is empty. -/
lemma of_ne_nil (h : ∀ link ∈ links, db.table link.table ≠ []) :
    Drawable db own declared first links fun _ => True := by
  induction links generalizing first with
  | nil => exact ⟨fun _ _ => none, List.forall_mem_nil _, fun _ _ _ => trivial⟩
  | cons link links ih =>
    obtain ⟨hlink, hrest⟩ := List.forall_mem_cons.1 h
    obtain ⟨row, hrow⟩ := List.exists_mem_of_ne_nil _ hlink
    have hone : Drawable db own declared first (some link).toList fun _ => True :=
      of_option (by rintro _ ⟨⟩; exact hrow) fun _ _ _ => trivial
    exact (hone.append (ih hrest)).mono fun _ _ => trivial

end Drawable

/-- If no link table is empty, a truth that a constraint is found to have is one that its condition
has for some rows of the link tables. -/
lemma drawable_of_found (hs : s.Declares declared) {links links' : List FromItem} {c : Constraint}
    {d : Condition} (hc : ∀ test ∈ c.tests, IsContainment test)
    (h : (condition s links c).outcome = .ok (d, links'))
    (hlinks : ∀ link ∈ s.linkTables c.tests, db.table link.table ≠ []) {v : Bool}
    (hread : c.Reads (s.Found db own) v) :
    Drawable db own declared links.length (s.linkTables c.tests) fun rows =>
      E.truth rows d = .ofBool v := by
  have hind : Inductive s IsContainment
      (fun links c d _ => (∀ link ∈ s.linkTables c.tests, db.table link.table ≠ []) →
        ∀ v, c.Reads (s.Found db own) v →
        Drawable db own declared links.length (s.linkTables c.tests) fun rows =>
          E.truth rows d = .ofBool v)
      (fun links cs ds _ =>
        (∀ link ∈ s.linkTables (Constraint.memberTests cs), db.table link.table ≠ []) → ∀ v,
        ((∃ c ∈ cs, c.Reads (s.Found db own) v) →
          Drawable db own declared links.length (s.linkTables (Constraint.memberTests cs))
            fun rows => ∃ d ∈ ds, E.truth rows d = .ofBool v) ∧
        ((∀ c ∈ cs, c.Reads (s.Found db own) v) →
          Drawable db own declared links.length (s.linkTables (Constraint.memberTests cs))
            fun rows => ∀ d ∈ ds, E.truth rows d = .ofBool v)) := by
    constructor
    · rintro links _ d links' ⟨r, op, target, rfl⟩ hgroup h hlinks v hread
      obtain ⟨link, hlink, htable, heq⟩ := truth_testRelationship E own hs h
      rw [Constraint.reads_of_not_isGroup _ hgroup] at hread
      obtain ⟨link', hlink', t, ht, htruth⟩ := hread
      obtain rfl := Except.ok.inj (hlink.symm.trans hlink')
      obtain ⟨row, hrow, rfl⟩ := Link.mem_truths_iff.1 ht
      rw [Constraint.tests_of_not_isGroup hgroup, linkTables_singleton, htable]
      refine Drawable.of_option hrow fun rows hown hrows => ?_
      rw [heq rows hown, Link.truth_congr hrows]
      exact htruth
    · intro links op cs ds links' hmembers hlinks v hread
      obtain ⟨hsome, hall⟩ := hmembers hlinks (op.asks v)
      rw [Constraint.reads_group_iff] at hread
      split at hread
      · rename_i hone
        refine (hsome hread).mono fun rows hrows => ?_
        rw [E.truth_groupCondition, GroupOp.truth_eq_ofBool_iff, if_pos hone]
        obtain ⟨d, hd, htruth⟩ := hrows
        exact List.mem_map.2 ⟨d, hd, htruth⟩
      · rename_i hone
        refine (hall hread).mono fun rows hrows => ?_
        rw [E.truth_groupCondition, GroupOp.truth_eq_ofBool_iff, if_neg hone]
        exact List.forall_mem_map.2 hrows
    · intro links hlinks v
      -- of no members none has the truth, and all do with whatever rows are drawn
      refine ⟨nofun, fun _ => ?_⟩
      exact (Drawable.of_ne_nil hlinks).mono fun _ _ => List.forall_mem_nil _
    · intro links c d middle cs ds links' hcompiled hfirst hrest hlinks v
      rw [Constraint.memberTests, linkTables_append, List.forall_mem_append] at hlinks
      obtain ⟨hlinks, hlinks'⟩ := hlinks
      rw [links_condition hcompiled, List.length_append, length_linkItems] at hrest
      obtain ⟨hsome, hall⟩ := hrest hlinks' v
      rw [Constraint.memberTests, linkTables_append]
      constructor
      · rintro ⟨c', hc', hread⟩
        -- one member has the truth, but the tables of the others take part and need rows as well
        rcases List.mem_cons.1 hc' with rfl | hc'
        · have hrows := (hfirst hlinks v hread).append (Drawable.of_ne_nil hlinks')
          exact hrows.mono fun rows h => ⟨d, List.mem_cons_self, h.1⟩
        · have hrows := (Drawable.of_ne_nil hlinks).append (hsome ⟨c', hc', hread⟩)
          refine hrows.mono fun rows h => ?_
          obtain ⟨_, d', hd', htruth⟩ := h
          exact ⟨d', List.mem_cons_of_mem d hd', htruth⟩
      · intro hread
        obtain ⟨hread, hreads⟩ := List.forall_mem_cons.1 hread
        have hrows := (hfirst hlinks v hread).append (hall hreads)
        exact hrows.mono fun rows h => List.forall_mem_cons.2 h
  exact condition_induction hind hc h hlinks v hread

lemma found_root (hs : s.Declares declared) {constraint : Option Constraint}
    (hc : ∀ test ∈ (constraint.map Constraint.tests).getD [], IsContainment test)
    {cs : List Condition} {links : List FromItem}
    (h : (rootCondition s constraint).outcome = .ok (cs, links)) {rows : Combination}
    (hown : SameRows declared rows own) (hrows : ∀ item ∈ links, item.Draws db rows)
    (htruth : ∀ c ∈ cs, E.truth rows c = .true) :
    ∀ c ∈ constraint, c.Reads (s.Found db own) true := by
  rintro c rfl
  obtain ⟨rfl, _⟩ := links_root h
  simp only [rootCondition, Traced.outcome_bind, Traced.outcome_pure] at h
  obtain ⟨⟨d, links'⟩, hd, h⟩ := Except.bind_eq_ok.1 h
  cases h
  exact found_of_truth E db own hs hc hd hown hrows (htruth d (List.mem_singleton_self d))

lemma drawable_root (hs : s.Declares declared) {constraint : Option Constraint}
    (hc : ∀ test ∈ (constraint.map Constraint.tests).getD [], IsContainment test)
    {cs : List Condition} {links : List FromItem}
    (h : (rootCondition s constraint).outcome = .ok (cs, links))
    (hlinks : ∀ link ∈ s.linkTables ((constraint.map Constraint.tests).getD []),
      db.table link.table ≠ [])
    (hread : ∀ c ∈ constraint, c.Reads (s.Found db own) true) :
    Drawable db own declared 0 (s.linkTables ((constraint.map Constraint.tests).getD []))
      fun rows => ∀ c ∈ cs, E.truth rows c = .true := by
  cases constraint with
  | none =>
    cases h
    exact (Drawable.of_ne_nil hlinks).mono fun _ _ => List.forall_mem_nil _
  | some c =>
    simp only [rootCondition, Traced.outcome_bind, Traced.outcome_pure] at h
    obtain ⟨⟨d, links'⟩, hd, h⟩ := Except.bind_eq_ok.1 h
    cases h
    have hrows := drawable_of_found E db own hs hc hd hlinks (hread c rfl)
    refine hrows.mono fun rows htruth => ?_
    exact List.forall_mem_singleton.2 htruth

/-- The joins of the sources hold if the tables of each source have the same identity. -/
lemma joins_true_iff {s : Scope} {sources : List Source} {es : List Entered}
    (hes : List.Forall₂ (Enters s) sources es) (rows : Combination) :
    (∀ c ∈ es.flatMap Entered.joins, E.truth rows c = .true) ↔
      ∀ e ∈ es, (e.items.map FromItem.aliasName).Pairwise (SameIdentity rows) := by
  rw [List.forall_mem_flatMap]
  refine forall₂_congr fun e he => ?_
  obtain ⟨source, _, henters⟩ := hes.exists_of_mem_right he
  rw [← (henters.joins.2 E rows), Truth.all_eq_true_iff, List.forall_mem_map]

/-- Of a built query that tests relationships only and selects from its sources only, the statement
selects just those rows of the database of which the tables of each source have the same identity
and the constraint holds where each test is found to hold, as long as no link table is empty. -/
theorem selects_iff {m : Model} {p : Platform} {shape : Shape} {q : Query} (hq : q.Built)
    (hselect : q.SelectsSources) (htests : ∀ test ∈ q.tests, IsContainment test)
    {es : List Entered} (hes : List.Forall₂ (Enters (.ofQuery m p q)) q.sources es)
    {st : Statement} (h : (compile m p shape none q).outcome = .ok st)
    (hdeclared : st.declared.Nodup) :
    st.Selects E db ((es.flatMap Entered.items).map FromItem.aliasName) own ↔
      (∀ item ∈ es.flatMap Entered.items, item.Draws db own) ∧
      (∀ e ∈ es, (e.items.map FromItem.aliasName).Pairwise (SameIdentity own)) ∧
      (∀ link ∈ (Scope.ofQuery m p q).linkTables q.tests, db.table link.table ≠ []) ∧
      ∀ c ∈ q.constraint,
        c.Reads (((Scope.ofQuery m p q).enteredWith (.all es)).Found db own) true := by
  obtain ⟨entered, conditions, links, seekConditions, hentered, hroot, hseek, hst⟩ :=
    compile_eq_ok_iff.1 h
  cases hseek
  obtain ⟨order, columns, groupBy, _, _, _, rfl⟩ := assemble_eq_ok_iff.1 hst
  obtain rfl := Except.ok.inj (hentered.symm.trans (enter_eq_ok_iff.2 ⟨es, hes, rfl⟩))
  have hs := declares_enter hq hselect hentered
  obtain ⟨hlinks, _⟩ := links_root hroot
  rw [Statement.declared, List.map_append, Entered.items_all] at hdeclared
  rw [Entered.items_all] at hs
  have hsub : ∀ e ∈ es, e.items.map FromItem.aliasName ⊆
      (es.flatMap Entered.items).map FromItem.aliasName :=
    fun e he => List.map_subset _ fun item hitem => List.mem_flatMap.2 ⟨e, he, hitem⟩
  simp only [Statement.Selects, Entered.items_all, Entered.joins_all, List.append_nil,
    List.forall_mem_append]
  constructor
  · rintro ⟨rows, hown, ⟨hitems, hdraws⟩, hjoins, htruth⟩
    refine ⟨hown.draws hitems, ?_, ?_, found_root E db own hs htests hroot hown hdraws htruth⟩
    · intro e he
      have hpairs := (joins_true_iff E hes rows).1 hjoins e he
      exact (hown.mono (hsub e he)).pairwise hpairs
    · intro link hlink
      obtain ⟨aliasName, hmem⟩ := exists_mem_linkItems hlink 0
      rw [hlinks] at hdraws
      exact List.ne_nil_of_mem (hdraws _ hmem)
  · rintro ⟨hitems, hpairs, htables, hread⟩
    obtain ⟨chosen, hdraws, hchosen⟩ := drawable_root E db own hs htests hroot htables hread
    -- no link table goes by the alias of a source, so the drawn rows stand next to the own ones
    obtain ⟨rows, hrows, hrows'⟩ :=
      SameRows.exists_merge (List.disjoint_of_nodup_append hdeclared) own chosen
    rw [hlinks] at hrows' ⊢
    refine ⟨rows, hrows, ⟨hrows.symm.draws hitems, hrows'.symm.draws hdraws⟩, ?_, ?_⟩
    · rw [joins_true_iff E hes]
      exact fun e he => (hrows.symm.mono (hsub e he)).pairwise (hpairs e he)
    · exact hchosen rows hrows hrows'

end Selection

end Sql

namespace Sample

/-- The projects of a company. -/
def project : ClassNode :=
  ⟨⟨2⟩, .single "Project"⟩

/-- The employees and the projects that they do not work on. -/
def unassigned : Query :=
  [.addSource (.object employee), .addSource (.object project), .addSelect (.object employee),
    .addSelect (.object project), .setConstraint (.contains ⟨employee, "projects", .manyToMany⟩
      .doesNotContain (.node project))].foldl Edit.apply (.empty ⟨0⟩)

lemma built_unassigned : unassigned.Built :=
  Query.Built.edits (.empty _) _

lemma selectsSources_unassigned : unassigned.SelectsSources := by
  rintro n ⟨item, hitem, c, hc, rfl⟩
  rcases List.mem_pair.1 hitem with rfl | rfl
  · cases hc
    exact List.mem_cons_self
  · cases hc
    exact List.mem_cons_of_mem _ List.mem_cons_self

lemma isContainment_unassigned : ∀ test ∈ unassigned.tests, Sql.IsContainment test :=
  List.forall_mem_singleton.2 ⟨_, _, _, rfl⟩

/-- A row with values in some columns. -/
def row (columns : List (String × Int)) : Sql.Row :=
  fun column => columns.lookup column

/-- One employee who works on two projects. -/
def staffing : Sql.Database where
  table
    | "Employee" => [row [("id", 1)]]
    | "Project" => [row [("id", 1)], row [("id", 2)]]
    | "MembersProjects" =>
      [row [("Members", 1), ("Projects", 1)], row [("Members", 1), ("Projects", 2)]]
    | _ => []
  derived _ := []

/-- The employee and the first project. -/
def assigned : Sql.Combination :=
  fun _ => row [("id", 1)]

/-- The employee and the first project, next to the link with the second one. -/
def apart : Sql.Combination
  | "indirect0" => row [("Members", 1), ("Projects", 2)]
  | _ => row [("id", 1)]

/-- The table of a source and its alias. -/
def namedTable : Sql.FromItem → String × String
  | .table name aliasName => (name, aliasName)
  | .derived _ aliasName => ("", aliasName)

lemma snd_namedTable (item : Sql.FromItem) : (namedTable item).2 = item.aliasName := by
  cases item <;> rfl

lemma draws_of_namedTable {item : Sql.FromItem} {rows : Sql.Combination}
    (h : rows (namedTable item).2 ∈ staffing.table (namedTable item).1) :
    item.Draws staffing rows := by
  cases item with
  | table name aliasName => exact h
  | derived st aliasName => cases h

lemma exists_unassigned : ∃ st,
    (Sql.compile company .postgreSQL .whole none unassigned).outcome = .ok st ∧
    (st.sources.map namedTable, st.conditions.map (Sql.Evaluator.least.truth apart)) =
      ([("Employee", "a1_"), ("Project", "a2_"), ("MembersProjects", "indirect0")], [.true]) :=
  Except.exists_of_toOption (by decide +kernel)

lemma exists_entered_unassigned : ∃ entered,
    (Sql.enter (.ofQuery company .postgreSQL unassigned) unassigned.sources).outcome = .ok entered ∧
    entered.items.map namedTable = [("Employee", "a1_"), ("Project", "a2_")] :=
  Except.exists_of_toOption (by decide +kernel)

lemma relationship_projects : ∃ f,
    (Sql.Scope.ofQuery company .postgreSQL unassigned).relationship
      ⟨employee, "projects", .manyToMany⟩ = .ok f ∧ f.2 = .manyToMany :=
  Except.exists_of_toOption (by decide +kernel)

/-- The employee works on the project. -/
lemma link_projects : ∃ link,
    (Sql.Scope.ofQuery company .postgreSQL unassigned).link assigned
      ⟨employee, "projects", .manyToMany⟩ (.node project) = .ok link ∧
    link.truths staffing = [.true, .false] :=
  Except.exists_of_toOption (by decide +kernel)

end Sample

/-- Of the query for the projects that employees do not work on, in every database and whatever its
tests mean there. -/
theorem selects_iff_unassigned :
    Sample.unassigned.Built ∧ Sample.unassigned.SelectsSources ∧
    (∀ test ∈ Sample.unassigned.tests, Sql.IsContainment test) ∧ ∃ es st,
    List.Forall₂ (Sql.Enters (.ofQuery Sample.company .postgreSQL Sample.unassigned))
      Sample.unassigned.sources es ∧
    (Sql.compile Sample.company .postgreSQL .whole none Sample.unassigned).outcome = .ok st ∧
    st.declared.Nodup ∧ ∀ (E : Sql.Evaluator) (db : Sql.Database) (own : Sql.Combination),
      st.Selects E db ((es.flatMap Sql.Entered.items).map Sql.FromItem.aliasName) own ↔
        (∀ item ∈ es.flatMap Sql.Entered.items, item.Draws db own) ∧
        (∀ e ∈ es, (e.items.map Sql.FromItem.aliasName).Pairwise (Sql.SameIdentity own)) ∧
        (∀ link ∈ (Sql.Scope.ofQuery Sample.company .postgreSQL Sample.unassigned).linkTables
          Sample.unassigned.tests, db.table link.table ≠ []) ∧
        ∀ c ∈ Sample.unassigned.constraint,
          c.Reads (((Sql.Scope.ofQuery Sample.company .postgreSQL Sample.unassigned).enteredWith
            (.all es)).Found db own) true := by
  obtain ⟨st, hst, hsources⟩ := Sample.exists_unassigned
  obtain ⟨entered, hentered, _⟩ := Sample.exists_entered_unassigned
  obtain ⟨es, hes, rfl⟩ := Sql.enter_eq_ok_iff.1 hentered
  have hdeclared : st.declared.Nodup := by
    rw [Sql.Statement.declared, ← funext Sample.snd_namedTable, ← Function.comp_def,
      ← List.map_map, (Prod.mk.inj hsources).1]
    decide
  refine ⟨Sample.built_unassigned, Sample.selectsSources_unassigned,
    Sample.isContainment_unassigned, es, st, hes, hst, hdeclared, fun E db own => ?_⟩
  exact Sql.selects_iff E db own Sample.built_unassigned Sample.selectsSources_unassigned
    Sample.isContainment_unassigned hes hst hdeclared

/-- A statement selects an employee and a project that the employee works on, as one that the
employee does not work on: the row of another project is in the link table. -/
theorem selects_linked : ∃ es st,
    List.Forall₂ (Sql.Enters (.ofQuery Sample.company .postgreSQL Sample.unassigned))
      Sample.unassigned.sources es ∧
    (Sql.compile Sample.company .postgreSQL .whole none Sample.unassigned).outcome = .ok st ∧
    st.Selects .least Sample.staffing ((es.flatMap Sql.Entered.items).map Sql.FromItem.aliasName)
      Sample.assigned ∧
    ¬ ∀ c ∈ Sample.unassigned.constraint,
      c.Reads (((Sql.Scope.ofQuery Sample.company .postgreSQL Sample.unassigned).enteredWith
        (.all es)).Holds Sample.staffing Sample.assigned) true := by
  obtain ⟨st, hst, hsources⟩ := Sample.exists_unassigned
  obtain ⟨entered, hentered, hitems⟩ := Sample.exists_entered_unassigned
  obtain ⟨es, hes, rfl⟩ := Sql.enter_eq_ok_iff.1 hentered
  obtain ⟨hsources, hconditions⟩ := Prod.mk.inj hsources
  refine ⟨es, st, hes, hst, ⟨Sample.apart, ?_, ?_, ?_⟩, ?_⟩
  · rintro a ha
    obtain ⟨item, hitem, rfl⟩ := List.mem_map.1 ha
    rw [← Sql.Entered.items_all] at hitem
    have hmem := List.mem_map_of_mem (f := Sample.namedTable) hitem
    rw [hitems] at hmem
    rw [← Sample.snd_namedTable]
    rcases List.mem_pair.1 hmem with h | h
    · rw [h]
      rfl
    · rw [h]
      rfl
  · intro item hitem
    have hmem := List.mem_map_of_mem (f := Sample.namedTable) hitem
    rw [hsources] at hmem
    apply Sample.draws_of_namedTable
    simp only [List.mem_cons, List.not_mem_nil, or_false] at hmem
    rcases hmem with h | h | h
    · rw [h]
      exact List.mem_cons_self
    · rw [h]
      exact List.mem_cons_self
    · rw [h]
      exact List.mem_cons_of_mem _ List.mem_cons_self
  · intro c hc
    have hmem := List.mem_map_of_mem (f := Sql.Evaluator.least.truth Sample.apart) hc
    rw [hconditions] at hmem
    exact List.mem_singleton.1 hmem
  · intro h
    obtain ⟨⟨f, relation⟩, hrelationship, hrelation⟩ := Sample.relationship_projects
    cases hrelation
    obtain ⟨link, hlink, hiff⟩ := h _ rfl
    obtain ⟨link', hlink', htruths⟩ := Sample.link_projects
    rw [Sql.Scope.link_enteredWith hrelationship, hlink'] at hlink
    cases hlink
    rw [htruths] at hiff
    simp at hiff

end ObjectQuery
