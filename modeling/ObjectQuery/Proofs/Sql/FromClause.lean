import Mathlib
import ObjectQuery.Proofs.Query.Aliases
import ObjectQuery.Proofs.Sql.Evaluation
import ObjectQuery.Proofs.Sql.Scoping

/-!
# The sources of a statement

The sources of a statement are the tables that the sources of its query bring in and then the link
tables that its tests call for. If the query makes up its aliases and has no source twice, all
aliases of the statement are different: those of tables start with a made-up alias, which is of one
source, and go on with the number of the component, and those of link tables have another first
letter (`compile_sources`).
-/

namespace ObjectQuery.Sql

open ObjectQuery.Query (AliasesMade madeAlias madeAlias_append_inj toList_madeAlias)

lemma partAlias_eq (base : String) (i : Nat) :
    Entered.partAlias base i = base ++ if i = 0 then "" else "_" ++ toString i := by
  unfold Entered.partAlias
  split
  · rw [String.append_empty]
  · rw [String.append_assoc]

/-- The alias of a table tells the source and the number of the component. -/
lemma partAlias_inj {n n' i i' : Nat}
    (h : Entered.partAlias (madeAlias n) i = Entered.partAlias (madeAlias n') i') :
    n = n' ∧ i = i' := by
  rw [partAlias_eq, partAlias_eq] at h
  obtain ⟨hn, hrest⟩ := madeAlias_append_inj h
  refine ⟨hn, ?_⟩
  split at hrest <;> split at hrest
  · omega
  · exact absurd (congrArg String.toList hrest) (by simp)
  · exact absurd (congrArg String.toList hrest) (by simp)
  · exact append_number_injective "_" hrest

lemma partAlias_ne_linkAlias (n i j : Nat) :
    Entered.partAlias (madeAlias n) i ≠ Scope.linkAlias j := by
  intro h
  rw [partAlias_eq] at h
  have hlist := congrArg String.toList h
  simp [toList_madeAlias, Scope.linkAlias] at hlist

lemma madeAlias_append_ne_columnName (n j : Nat) (rest : String) :
    madeAlias n ++ rest ≠ Ordering.columnName j := by
  intro h
  have hlist := congrArg String.toList h
  simp [toList_madeAlias, Ordering.columnName] at hlist

namespace Enters

variable {s : Scope} {source : Source} {e : Entered}

lemma exists_alias (h : Enters s source e) : ∃ base, s.aliasOf source.id = .ok base := by
  cases h with
  | object hbase _ => exact ⟨_, hbase⟩
  | query hbase _ => exact ⟨_, hbase⟩

/-- The tables of a source have its alias and the numbers from 0 on. -/
lemma map_aliasName (h : Enters s source e) {base : String}
    (hbase : s.aliasOf source.id = .ok base) :
    e.items.map FromItem.aliasName = (List.range e.items.length).map (Entered.partAlias base) := by
  cases h with
  | @object c base' components hbase' _ =>
    obtain rfl := Except.ok.inj (hbase'.symm.trans hbase)
    have hlength : (Entered.classItems base' components).length = components.length :=
      List.length_mapIdx
    show (Entered.classItems base' components).map FromItem.aliasName =
      (List.range (Entered.classItems base' components).length).map (Entered.partAlias base')
    rw [Entered.aliases_classItems, Entered.map_snd_parts, hlength, List.range_eq_range']
  | query hbase' _ =>
    obtain rfl := Except.ok.inj (hbase'.symm.trans hbase)
    rfl

/-- The joins of a source are those of its tables in a row. -/
lemma joins_eq (h : Enters s source e) :
    e.joins = Entered.joinsOf (e.items.map FromItem.aliasName) := by
  cases h with
  | object _ _ => exact congrArg Entered.joinsOf (Entered.aliases_classItems _ _).symm
  | query _ _ => rfl

/-- A source has one join less than it has tables, and the joins hold if any two tables have the
same identity. -/
lemma joins (h : Enters s source e) :
    e.joins.length = e.items.length - 1 ∧
    ∀ (E : Evaluator) (rows : Combination),
      Truth.all (e.joins.map (E.truth rows)) = .true ↔
        (e.items.map FromItem.aliasName).Pairwise (SameIdentity rows) := by
  obtain ⟨base, hbase⟩ := h.exists_alias
  constructor
  · rw [h.joins_eq, h.map_aliasName hbase, List.range_eq_range', Entered.joinsOf_map_range',
      List.length_map, List.length_range']
  · intro E rows
    rw [h.joins_eq, E.joinsOf_true_iff rows]

end Enters

section Aliases

variable {s : Scope} {q : Query}

/-- Every table of a source has an alias that is made up, and a number. -/
lemma exists_of_mem_aliases (hq : q.AliasesMade) (hs : s.aliases = q.aliases) {source : Source}
    {e : Entered} (h : Enters s source e) {a : String} (ha : a ∈ e.items.map FromItem.aliasName) :
    ∃ n i, s.aliasOf source.id = .ok (madeAlias n) ∧ a = Entered.partAlias (madeAlias n) i := by
  obtain ⟨base, hbase⟩ := h.exists_alias
  have hlookup := aliasOf_eq_ok_iff.1 hbase
  rw [hs] at hlookup
  obtain ⟨n, rfl⟩ := hq.of_lookup hlookup
  rw [h.map_aliasName hbase] at ha
  obtain ⟨i, _, rfl⟩ := List.mem_map.1 ha
  exact ⟨n, i, hbase, rfl⟩

/-- The tables of a source have different aliases. -/
lemma nodup_aliases (hq : q.AliasesMade) (hs : s.aliases = q.aliases) {source : Source}
    {e : Entered} (h : Enters s source e) : (e.items.map FromItem.aliasName).Nodup := by
  obtain ⟨base, hbase⟩ := h.exists_alias
  have hlookup := aliasOf_eq_ok_iff.1 hbase
  rw [hs] at hlookup
  obtain ⟨n, rfl⟩ := hq.of_lookup hlookup
  rw [h.map_aliasName hbase]
  exact List.nodup_range.map fun i i' hi => (partAlias_inj hi).2

/-- The tables of different sources have different aliases. -/
lemma nodup_all (hq : q.AliasesMade) (hs : s.aliases = q.aliases) {sources : List Source}
    {es : List Entered} (h : List.Forall₂ (Enters s) sources es)
    (hsources : (sources.map Source.id).Nodup) :
    ((es.flatMap Entered.items).map FromItem.aliasName).Nodup := by
  induction h with
  | nil => exact .nil
  | @cons source e sources es hsource hes ih =>
    obtain ⟨hnew, hrest⟩ := List.nodup_cons.1 hsources
    rw [List.flatMap_cons, List.map_append]
    refine List.nodup_append.2 ⟨nodup_aliases hq hs hsource, ih hrest, ?_⟩
    -- an alias that is shared would be made up for two sources
    rintro a ha b hb rfl
    obtain ⟨item, hitem, rfl⟩ := List.mem_map.1 hb
    obtain ⟨e', he', hitem⟩ := List.mem_flatMap.1 hitem
    obtain ⟨source', hsource', henters⟩ := hes.exists_of_mem_right he'
    obtain ⟨n, i, hn, halias⟩ := exists_of_mem_aliases hq hs hsource ha
    obtain ⟨n', i', hn', halias'⟩ :=
      exists_of_mem_aliases hq hs henters (List.mem_map_of_mem hitem)
    obtain ⟨rfl, _⟩ := partAlias_inj (halias.symm.trans halias')
    have hlookup := aliasOf_eq_ok_iff.1 hn
    have hlookup' := aliasOf_eq_ok_iff.1 hn'
    rw [hs] at hlookup hlookup'
    have hid := hq.lookup_inj hlookup hlookup'
    rw [hid] at hnew
    exact hnew (List.mem_map_of_mem hsource')

/-- No table of a source has the alias of a link table. -/
lemma linkAlias_notMem (hq : q.AliasesMade) (hs : s.aliases = q.aliases) {sources : List Source}
    {es : List Entered} (h : List.Forall₂ (Enters s) sources es) (j : Nat) :
    Scope.linkAlias j ∉ (es.flatMap Entered.items).map FromItem.aliasName := by
  intro hmem
  obtain ⟨item, hitem, halias⟩ := List.mem_map.1 hmem
  obtain ⟨e, he, hitem⟩ := List.mem_flatMap.1 hitem
  obtain ⟨source, _, henters⟩ := h.exists_of_mem_right he
  obtain ⟨n, i, _, hn⟩ := exists_of_mem_aliases hq hs henters (List.mem_map_of_mem hitem)
  exact partAlias_ne_linkAlias n i j (hn.symm.trans halias)

end Aliases

section Labels

variable {s : Scope} {q : Query}

/-- The label, if there is one, starts with an alias that is made up. -/
def MadeLabel (o : Output) : Prop :=
  ∀ l ∈ o.label, ∃ n rest, l.name = madeAlias n ++ rest

lemma madeLabel_ofAlias (t : Term) (n : Nat) (column : String) :
    MadeLabel ⟨t, some (.ofAlias (madeAlias n) column)⟩ := by
  rintro l ⟨⟩
  exact ⟨n, column, rfl⟩

lemma madeLabel_none (t : Term) : MadeLabel ⟨t, none⟩ :=
  nofun

lemma madeLabel_allColumns {c : ClassNode} {n : Nat} {named : Bool} {outputs : List Output}
    (h : s.allColumns c (madeAlias n) named = .ok outputs) : ∀ o ∈ outputs, MadeLabel o := by
  have label (t : Term) (column : String) : MadeLabel
      ⟨t, if named then some (.ofAlias (madeAlias n) column) else none⟩ := by
    split
    · exact madeLabel_ofAlias t n column
    · exact madeLabel_none t
  obtain ⟨stored, columns, _, hcolumns, rfl⟩ := Scope.exists_of_allColumns h
  refine List.forall_mem_cons.2 ⟨label _ _, fun o ho => ?_⟩
  obtain ⟨entry, _, table, _, rfl⟩ := hcolumns.exists_of_mem_right ho
  exact label _ _

lemma madeLabel_classColumns (hq : q.AliasesMade) (hs : s.aliases = q.aliases) {shape : Shape}
    {c : ClassNode} {outputs : List Output} (h : s.classColumns shape c = .ok outputs) :
    ∀ o ∈ outputs, MadeLabel o := by
  obtain ⟨base, hbase, h⟩ := Except.bind_eq_ok.1 h
  have hlookup := aliasOf_eq_ok_iff.1 hbase
  rw [hs] at hlookup
  obtain ⟨n, rfl⟩ := hq.of_lookup hlookup
  cases shape with
  | whole =>
    cases h
    exact List.forall_mem_cons.2
      ⟨madeLabel_ofAlias _ n _, List.forall_mem_singleton.2 (madeLabel_ofAlias _ n _)⟩
  | derived => exact madeLabel_allColumns h
  | identities =>
    cases h
    exact List.forall_mem_singleton.2 (madeLabel_none _)
  | columns => exact madeLabel_allColumns h

lemma madeLabel_expression (t : Term) (shape : Shape) (n : Nat) :
    MadeLabel ⟨t, Scope.expressionLabel shape (madeAlias n)⟩ := by
  cases shape with
  | whole => exact madeLabel_ofAlias t n ""
  | derived =>
    rintro l ⟨⟩
    exact ⟨n, "", String.append_empty.symm⟩
  | identities => exact madeLabel_none t
  | columns => exact madeLabel_none t

/-- The output columns of what a query selects have names that are made up. -/
lemma madeLabel_columns (hq : q.AliasesMade) (hs : s.aliases = q.aliases) {shape : Shape}
    {outputs : List Output} (h : s.columns shape q.select = .ok outputs) :
    ∀ o ∈ outputs, MadeLabel o := by
  obtain ⟨parts, hparts, h⟩ := Except.bind_eq_ok.1 h
  cases h
  intro o ho
  obtain ⟨part, hpart, ho⟩ := List.mem_flatten.1 ho
  obtain ⟨item, hselect, hitem⟩ := (Except.mapM_eq_ok_iff.1 hparts).exists_of_mem_right hpart
  unfold Scope.itemColumns at hitem
  split at hitem
  · exact madeLabel_classColumns hq hs hitem o ho
  · obtain ⟨t, _, hitem⟩ := Except.bind_eq_ok.1 hitem
    cases hitem
    obtain rfl := List.mem_singleton.1 ho
    obtain ⟨n, hn⟩ := hq.selected item hselect
    rw [hn]
    exact madeLabel_expression t shape n

/-- The output columns that an order calls for are numbered from `first` on. -/
lemma label_ofNodes {orderBy : List Node} {select : List SelectItem} {first : Nat} {o : Ordering}
    (h : Ordering.ofNodes s orderBy select first = .ok o) :
    ∀ c ∈ o.columns, ∃ k, c.label = some (.plain (Ordering.columnName (first + k))) := by
  refine Except.foldlM_invariant (fun o : Ordering =>
    ∀ c ∈ o.columns, ∃ k, c.label = some (.plain (Ordering.columnName (first + k)))) ?_
    (List.forall_mem_nil _) h
  intro n _ o o' ho hn
  obtain rfl | ⟨t, _, _, hcolumns⟩ := Ordering.addNode_cases hn
  · exact ho
  · obtain hcolumns | hcolumns := hcolumns
    · rw [hcolumns]
      exact ho
    · rw [hcolumns]
      exact List.forall_mem_append.2 ⟨ho, List.forall_mem_singleton.2 ⟨_, rfl⟩⟩

lemma label_ofShape {shape : Shape} {first : Nat} {o : Ordering}
    (h : Ordering.ofShape s shape q first = .ok o) :
    ∀ c ∈ o.columns, ∃ k, c.label = some (.plain (Ordering.columnName (first + k))) := by
  unfold Ordering.ofShape at h
  split at h
  · exact label_ofNodes h
  · cases h
    exact List.forall_mem_nil _

end Labels

/-- The sources of a statement whose query makes up its aliases and has no source twice: the tables
that each source brings in, in order, and one link table for each test of a relationship that is
kept in one. All aliases are different, and no column for the order has the number of a link
table. -/
theorem compile_sources {m : Model} {p : Platform} {shape : Shape} {seek : Option Seek} {q : Query}
    (hq : q.Generated) (hsources : (q.sources.map Source.id).Nodup) {st : Statement}
    (h : (compile m p shape seek q).outcome = .ok st) :
    ∃ (es : List Entered) (links : List LinkTable) (rest : List Condition),
      List.Forall₂ (Enters (.ofQuery m p q)) q.sources es ∧
      List.Forall₂ (fun test link => (Scope.ofQuery m p q).linkTable? test = some link)
        (q.tests.filter m.isLinked) links ∧
      st.sources = es.flatMap Entered.items ++ linkItems 0 links ∧
      st.conditions = es.flatMap Entered.joins ++ rest ∧
      rest.length = q.constraint.toList.length + seek.toList.length ∧
      (∀ e ∈ es, e.joins.length = e.items.length - 1 ∧
        ∀ (E : Evaluator) (rows : Combination),
          Truth.all (e.joins.map (E.truth rows)) = .true ↔
            (e.items.map FromItem.aliasName).Pairwise (SameIdentity rows)) ∧
      st.declared.Nodup ∧
      ∀ o ∈ st.columns, ∀ i, o.label.map Label.name = some (Ordering.columnName i) →
        Scope.linkAlias i ∉ st.declared := by
  obtain ⟨entered, conditions, links, seekConditions, hentered, hroot, hseek, hst⟩ :=
    compile_eq_ok_iff.1 h
  obtain ⟨order, columns, groupBy, horder, hcolumns, _, rfl⟩ := assemble_eq_ok_iff.1 hst
  obtain ⟨es, hes, rfl⟩ := enter_eq_ok_iff.1 hentered
  obtain ⟨rfl, hlength⟩ := links_root hroot
  have hmade := hq.aliasesMade
  have hlinked : ∀ test ∈ q.tests,
      (((Scope.ofQuery m p q).enteredWith (.all es)).linkTable? test).isSome =
        m.isLinked test := by
    intro test htest
    obtain ⟨before, e, after, hcompiled⟩ := exists_of_mem_rootTests hroot test htest
    exact isSome_linkTable? hcompiled
  have hitems := nodup_all hmade rfl hes hsources
  refine ⟨es, (Scope.ofQuery m p q).linkTables q.tests, conditions ++ seekConditions, hes,
    forall₂_linkTables hlinked, ?_, ?_, ?_, ?_, ?_, ?_⟩
  · rw [← Entered.items_all]
    rfl
  · rw [← Entered.joins_all]
  · rw [List.length_append, hlength, length_seekConditions hseek]
  · intro e he
    obtain ⟨source, _, henters⟩ := hes.exists_of_mem_right he
    exact henters.joins
  · rw [Statement.declared, List.map_append, Entered.items_all]
    refine List.nodup_append.2 ⟨hitems, nodup_linkItems 0 _, ?_⟩
    rintro a ha b hb rfl
    rw [map_linkItems] at hb
    obtain ⟨j, _, rfl⟩ := List.mem_map.1 hb
    exact linkAlias_notMem hmade rfl hes _ ha
  · intro o ho i hi hmem
    rw [Statement.declared, List.map_append, Entered.items_all] at hmem
    rcases List.mem_append.1 hmem with hmem | hmem
    · exact linkAlias_notMem hmade rfl hes i hmem
    obtain ⟨l, hl, hname⟩ := Option.map_eq_some_iff.1 hi
    -- a label is made of the alias of a source, or it names the key of an order
    rcases List.mem_append.1 ho with ho | ho
    · obtain ⟨n, rest, hmade⟩ := madeLabel_columns hmade rfl hcolumns o ho l hl
      exact madeAlias_append_ne_columnName n i rest (hmade.symm.trans hname)
    · obtain ⟨k, hk⟩ := label_ofShape horder o ho
      obtain rfl := Option.some.inj (hk.symm.trans hl)
      have hki := append_number_injective "orderbyfield" hname
      rw [map_linkItems] at hmem
      obtain ⟨j, hj, hji⟩ := List.mem_map.1 hmem
      have hji := append_number_injective "indirect" hji
      rw [length_linkItems] at hki
      have hj := List.mem_range.1 hj
      omega

end ObjectQuery.Sql

namespace ObjectQuery

namespace Sample

lemma generated_layered : layered.Generated :=
  Query.Generated.edits (.empty _) (by decide)

end Sample

/-- The workers come from two tables, the employees from a statement and each test of a project has
a link table of its own. -/
theorem compile_sources_layered :
    Sample.layered.Generated ∧ (Sample.layered.sources.map Source.id).Nodup ∧
    ∃ st, (Sql.compile Sample.company .postgreSQL .whole none Sample.layered).outcome = .ok st ∧
      ∃ (es : List Sql.Entered) (links : List LinkTable),
        List.Forall₂ (Sql.Enters (.ofQuery Sample.company .postgreSQL Sample.layered))
          Sample.layered.sources es ∧
        links.length = (Sample.layered.tests.filter Sample.company.isLinked).length ∧
        st.sources = es.flatMap Sql.Entered.items ++ Sql.linkItems 0 links ∧
        st.declared.Nodup := by
  obtain ⟨st, hst, _⟩ := Sample.exists_layered
  have hsources : (Sample.layered.sources.map Source.id).Nodup := by decide
  obtain ⟨es, links, _, hes, hlinks, hitems, _, _, _, hnodup, _⟩ :=
    Sql.compile_sources Sample.generated_layered hsources hst
  exact ⟨Sample.generated_layered, hsources, st, hst, es, links, hes, hlinks.length_eq.symm,
    hitems, hnodup⟩

end ObjectQuery
