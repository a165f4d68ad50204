import Mathlib
import ObjectQuery.Proofs.Model.Naming
import ObjectQuery.Proofs.Query.Aliases
import ObjectQuery.Proofs.Query.WellBuilt
import ObjectQuery.Proofs.Sql.Scoping

/-!
# Columns that queries export

A query that is a source of another one exports the items of its select list under names that it
makes of their aliases, between quotes where an alias is not in lower case. The other query makes up
the names that it reads once more, and marks an alias that is an SQL keyword but never quotes one.
So it reads a name that is exported if the alias needs neither, and never otherwise, with the
exception that the alias of an expression is exported as it is (`reads_exported_iff`). Aliases that
are made up need neither (`Query.isReserved_madeAlias`, `Query.lowerCase_madeAlias`).
-/

namespace ObjectQuery

namespace SortedMap

variable {α β : Type} [Ord α] [Std.TransOrd α] [Std.LawfulEqOrd α]

/-- Every key that is listed has a value, of its last entry if not of this one. -/
lemma exists_mem_ofList {es : List (α × β)} {k : α} {v : β} (h : (k, v) ∈ es) :
    ∃ w, (k, w) ∈ (ofList es).entries := by
  induction es using List.reverseRecOn with
  | nil => cases h
  | append_singleton es e ih =>
    have hlast : ofList (es ++ [e]) = (ofList es).insert e.1 e.2 := by
      simp [ofList]
    simp only [hlast, mem_entries_insert]
    by_cases hk : k = e.1
    · exact ⟨e.2, .inl (by rw [hk])⟩
    · rcases List.mem_append.1 h with h | h
      · obtain ⟨w, hw⟩ := ih h
        exact ⟨w, .inr ⟨hw, hk⟩⟩
      · cases List.mem_singleton.1 h
        exact absurd rfl hk

end SortedMap

/-- An attribute is stored in a column of its name. -/
lemma Field.column?_of_type? {f : Field} {type : AttributeType} (h : f.type? = some type) :
    f.column? = some (Naming.attributeColumn f.name) := by
  obtain ⟨name, _⟩ | _ | _ := f
  · rfl
  · cases h
  · cases h

namespace Text

/-- A text is in lower case if none of its characters has another lower-case form. -/
lemma lowerCase_of_forall {s : String} (h : ∀ c ∈ s.toList, c ≠ 'Σ' ∧ lowerChar c = [c]) :
    lowerCase s = s := by
  have hfrom (cs : List Char) (hcs : ∀ c ∈ cs, c ≠ 'Σ' ∧ lowerChar c = [c]) (before : List Char) :
      lowerFrom before cs = cs := by
    induction cs generalizing before with
    | nil => rfl
    | cons c cs ih =>
      obtain ⟨⟨hsigma, hlower⟩, hcs⟩ := List.forall_mem_cons.1 hcs
      rw [lowerFrom, if_neg hsigma, hlower, ih hcs]
      rfl
  rw [lowerCase, hfrom s.toList h, String.ofList_toList]

lemma lowerChar_of_isDigit {c : Char} (h : c.isDigit = true) : lowerChar c = [c] := by
  have hbounds : 48 ≤ c.toNat ∧ c.toNat ≤ 57 := by
    simpa [Char.isDigit, UInt32.le_iff_toNat_le] using h
  have hdigits : ∀ i ∈ List.range 10, lowerChar (Char.ofNat (48 + i)) = [Char.ofNat (48 + i)] := by
    decide +kernel
  have hc := hdigits (c.toNat - 48) (List.mem_range.2 (by omega))
  rwa [Nat.add_sub_cancel' hbounds.1, Char.ofNat_toNat] at hc

end Text

namespace Query

/-- Aliases that are made up are in lower case. -/
lemma lowerCase_madeAlias (n : Nat) : Text.lowerCase (madeAlias n) = madeAlias n := by
  refine Text.lowerCase_of_forall fun c hc => ?_
  rw [toList_madeAlias, List.mem_cons, List.mem_append, List.mem_singleton] at hc
  rcases hc with rfl | hc | rfl
  · decide +kernel
  · have hdigit := Nat.isDigit_of_mem_toDigits (by decide) (by decide) hc
    refine ⟨?_, Text.lowerChar_of_isDigit hdigit⟩
    rintro rfl
    cases hdigit
  · decide +kernel

/-- No SQL keyword ends like an alias that is made up. -/
lemma isReserved_madeAlias (n : Nat) : Naming.isReserved (madeAlias n) = false :=
  Naming.isReserved_append (by decide +kernel) ("a" ++ toString n)

end Query

namespace Naming

lemma attributeColumn_ne_object (field : String) : attributeColumn field ≠ "OBJECT" := by
  have hobject : isReserved "OBJECT" = true := by decide +kernel
  intro h
  have hfree := isReserved_sqlName field
  rw [← attributeColumn, h, hobject] at hfree
  cases hfree

end Naming

namespace Sql.Label

/-- A name made of an alias and a column is read as it is exported if the alias is neither marked
nor quoted. -/
lemma sqlName_append_eq_text_ofAlias_iff (a column : String) :
    Naming.sqlName a ++ column = (ofAlias a column).text ↔
      Naming.isReserved a = false ∧ a = Text.lowerCase a := by
  by_cases hlower : a = Text.lowerCase a
  · have htext : (ofAlias a column).text = a ++ column := by
      simp [text, ofAlias, ← hlower]
    rw [htext, String.append_left_inj, Naming.sqlName_eq_self_iff]
    exact ⟨fun h => ⟨h, hlower⟩, And.left⟩
  · have htext : (ofAlias a column).text = "\"" ++ (a ++ column) ++ "\"" := by
      have hquoted : (a != Text.lowerCase a) = true := by simpa using hlower
      simp [text, ofAlias, hquoted]
    refine ⟨fun h => ?_, fun h => absurd h.2 hlower⟩
    -- two quotes are never as long as the mark, or as no mark
    have hlength := congrArg String.length h
    rw [htext, String.length_append, String.length_append, String.length_append,
      String.length_append, Naming.length_sqlName] at hlength
    have hquote : "\"".length = 1 := rfl
    rw [hquote] at hlength
    split at hlength <;> omega

end Sql.Label

/-- What an alias addresses in a query: an expression, or an attribute of a class. -/
inductive Node.Addressed (m : Model) : Node → Option String → Prop where
  | expr (e : Expr) : Addressed m (.expr e) none
  | field {c : ClassNode} {fields : SortedMap String Field} {field : String} {f : Field}
      {type : AttributeType} :
    m.fields c.type = .ok fields →
    fields.get? field = some f →
    f.type? = some type →
    Addressed m (.object c) (some field)

/-- A column of a query has the names of an item that is selected. -/
lemma Column.exists_of_ofQueryItem {q : Query} {a : String} {second : Option String} {m : Model}
    {column : Column} (h : Column.ofQueryItem q a second m = .ok column) :
    ∃ item, q.select.find? (·.aliasName == a) = some item ∧ item.node.Addressed m second ∧
      column.name = a ∧ column.second = second := by
  unfold ofQueryItem at h
  split at h
  · cases h
  · rename_i item hitem
    refine ⟨item, hitem, ?_⟩
    split at h
    · rename_i e hnode
      cases h
      rw [hnode]
      exact ⟨.expr e, rfl, rfl⟩
    · rename_i c field hnode
      obtain ⟨fields, hfields, h⟩ := Except.bind_eq_ok.1 h
      split at h
      · rename_i type htype
        cases h
        obtain ⟨f, hf, htype⟩ := Option.bind_eq_some_iff.1 htype
        rw [hnode]
        exact ⟨.field hfields hf htype, rfl, rfl⟩
      · cases h
    · cases h

namespace Sql

/-- An output column with what a selected node is addressed for: of an expression its value, of a
class the column of an attribute. -/
inductive Output.Holds : Output → Node → Option String → Prop where
  | expr (o : Output) (e : Expr) : Holds o (.expr e) none
  | field (c : ClassNode) (table field : String) (label : Option Label) :
    Holds ⟨.column ⟨table, Naming.attributeColumn field⟩, label⟩ (.object c) (some field)

/-- The first item under an alias has these output columns, between those of the items before it and
of the items after it. -/
structure Statement.Exports (st : Statement) (s : Scope) (select : List SelectItem) (a : String)
    (item : SelectItem) (outputs : List Output) : Prop where
  aliasName : item.aliasName = a
  columns : s.itemColumns .derived item = .ok outputs
  place : ∃ earlier later before after, select = earlier ++ item :: later ∧
    (∀ i ∈ earlier, i.aliasName ≠ a) ∧ s.columns .derived earlier = .ok before ∧
    s.columns .derived later = .ok after ∧ st.columns = before ++ outputs ++ after

section

variable {s : Scope}

lemma columns_append {shape : Shape} {earlier later : List SelectItem} {outputs : List Output}
    (h : s.columns shape (earlier ++ later) = .ok outputs) :
    ∃ before after, s.columns shape earlier = .ok before ∧ s.columns shape later = .ok after ∧
      outputs = before ++ after := by
  unfold Scope.columns at h ⊢
  rw [List.mapM_append] at h
  obtain ⟨parts, hparts, h⟩ := Except.bind_eq_ok.1 h
  obtain ⟨before, hbefore, hparts⟩ := Except.bind_eq_ok.1 hparts
  obtain ⟨after, hafter, hparts⟩ := Except.bind_eq_ok.1 hparts
  cases hparts
  cases h
  rw [hbefore, hafter]
  exact ⟨before.flatten, after.flatten, rfl, rfl, List.flatten_append⟩

lemma columns_cons {shape : Shape} {item : SelectItem} {later : List SelectItem}
    {outputs : List Output} (h : s.columns shape (item :: later) = .ok outputs) :
    ∃ own after, s.itemColumns shape item = .ok own ∧ s.columns shape later = .ok after ∧
      outputs = own ++ after := by
  unfold Scope.columns at h ⊢
  rw [List.mapM_cons] at h
  obtain ⟨parts, hparts, h⟩ := Except.bind_eq_ok.1 h
  obtain ⟨own, hown, hparts⟩ := Except.bind_eq_ok.1 hparts
  obtain ⟨after, hafter, hparts⟩ := Except.bind_eq_ok.1 hparts
  cases hparts
  cases h
  rw [hafter]
  exact ⟨own, after.flatten, hown, rfl, rfl⟩

/-- The statement of a query has output columns for each item that is selected. -/
lemma exists_exports {m : Model} {p : Platform} {q : Query} {st : Statement} {entered : Entered}
    (hst : (compile m p .derived none q).outcome = .ok st)
    (hentered : (enter (.ofQuery m p q) q.sources).outcome = .ok entered) {a : String}
    {item : SelectItem} (hitem : q.select.find? (·.aliasName == a) = some item) :
    ∃ outputs, st.Exports ((Scope.ofQuery m p q).enteredWith entered) q.select a item outputs := by
  obtain ⟨entered', conditions, links, seekConditions, hentered', _, _, hst⟩ :=
    compile_eq_ok_iff.1 hst
  obtain rfl : entered' = entered := Except.ok.inj (hentered'.symm.trans hentered)
  obtain ⟨order, columns, groupBy, horder, hcolumns, _, rfl⟩ := assemble_eq_ok_iff.1 hst
  cases horder
  obtain ⟨hname, earlier, later, hselect, hearlier⟩ := List.find?_eq_some_iff_append.1 hitem
  rw [hselect] at hcolumns ⊢
  obtain ⟨before, rest, hbefore, hrest, rfl⟩ := columns_append hcolumns
  obtain ⟨outputs, after, houtputs, hafter, rfl⟩ := columns_cons hrest
  refine ⟨outputs, by simpa using hname, houtputs, earlier, later, before, after, rfl, ?_, hbefore,
    hafter, ?_⟩
  · exact fun i hi => by simpa using hearlier i hi
  · show before ++ (outputs ++ after) ++ [] = _
    rw [List.append_nil, List.append_assoc]

/-- The column of a field is among the columns that the fields of its type are stored in. -/
lemma exists_storedColumn {t : ClassType} {fields : SortedMap String Field} {f : Field}
    {column : String} {stored : List (String × String)} (hfields : s.model.fields t = .ok fields)
    (hf : fields.get? f.name = some f) (hcolumn : f.column? = some column)
    (hstored : s.storedColumns t = .ok stored) : ∃ owner, (column, owner) ∈ stored := by
  obtain ⟨fields', hfields', h⟩ := Except.bind_eq_ok.1 hstored
  obtain rfl : fields' = fields := Except.ok.inj (hfields'.symm.trans hfields)
  cases h
  have hvalue : f ∈ fields'.values := List.mem_map_of_mem (SortedMap.get?_eq_some_iff.1 hf)
  refine SortedMap.exists_mem_ofList (v := f.name) (List.mem_filterMap.2 ⟨f, hvalue, ?_⟩)
  rw [hcolumn]
  rfl

/-- What an alias addresses is exported. -/
lemma exists_holds {item : SelectItem} {second : Option String} {outputs : List Output}
    (haddressed : item.node.Addressed s.model second)
    (h : s.itemColumns .derived item = .ok outputs) :
    ∃ o ∈ outputs, o.Holds item.node second := by
  obtain ⟨node, aliasName⟩ := item
  cases haddressed with
  | expr e =>
    obtain ⟨t, _, h⟩ := Except.bind_eq_ok.1 h
    cases h
    exact ⟨_, List.mem_singleton_self _, .expr _ e⟩
  | @field c fields field f type hfields hf htype =>
    obtain ⟨base, _, h⟩ := Except.bind_eq_ok.1 h
    obtain ⟨stored, columns, hstored, hcolumns, rfl⟩ := Scope.exists_of_allColumns h
    obtain rfl := Model.name_of_get?_fields hfields hf
    have hcolumn := Field.column?_of_type? htype
    obtain ⟨owner, howner⟩ := exists_storedColumn hfields hf hcolumn hstored
    obtain ⟨_, ho, table, _, rfl⟩ := hcolumns.exists_of_mem_left howner
    exact ⟨_, List.mem_cons_of_mem _ ho, .field c table f.name _⟩

/-- The name under which a node is exported for what it is addressed for. -/
def exportLabel (a : String) : Node → Option String → Label
  | .expr _, _ => .plain a
  | .object _, second => .ofAlias a (Naming.attributeColumn (second.getD ""))

/-- An expression is exported under its alias, and the column of an attribute under the alias of its
class and its own name. -/
lemma label_of_holds {item : SelectItem} {second : Option String} {outputs : List Output}
    (h : s.itemColumns .derived item = .ok outputs)
    (halias : ∀ c, item.node = .object c → s.aliasOf c.id = .ok item.aliasName) {o : Output}
    (ho : o ∈ outputs) (hholds : o.Holds item.node second) :
    o.label = some (exportLabel item.aliasName item.node second) := by
  obtain ⟨node, aliasName⟩ := item
  cases hholds with
  | expr e =>
    obtain ⟨t, _, h⟩ := Except.bind_eq_ok.1 h
    cases h
    rw [List.mem_singleton.1 ho]
    rfl
  | field c table field label =>
    obtain ⟨base, hbase, h⟩ := Except.bind_eq_ok.1 h
    obtain ⟨stored, columns, _, hcolumns, rfl⟩ := Scope.exists_of_allColumns h
    obtain rfl : base = aliasName := Except.ok.inj (hbase.symm.trans (halias c rfl))
    rcases List.mem_cons.1 ho with ho | ho
    · -- the column of the whole object is that of no attribute
      have hobject : Naming.attributeColumn field = "OBJECT" :=
        congrArg ColumnRef.column (Term.column.inj (Output.mk.inj ho).1)
      exact absurd hobject (Naming.attributeColumn_ne_object field)
    · obtain ⟨entry, _, table', _, hcolumn⟩ := hcolumns.exists_of_mem_right ho
      obtain ⟨hterm, rfl⟩ := Output.mk.inj hcolumn
      have hname : Naming.attributeColumn field = entry.1 :=
        congrArg ColumnRef.column (Term.column.inj hterm)
      rw [if_pos rfl, ← hname]
      rfl

/-- The name that is read for a column of a query is the name that it is exported under if the alias
is no SQL keyword, and is in lower case or that of an expression. -/
lemma reads_exportLabel_iff {m : Model} {a : String} {n : Node} {second : Option String}
    (haddressed : n.Addressed m second) :
    Naming.sqlName a ++ (second.map Naming.sqlName).getD "" = (exportLabel a n second).text ↔
      Naming.isReserved a = false ∧ ((∃ e, n = .expr e) ∨ a = Text.lowerCase a) := by
  cases haddressed with
  | expr e =>
    have htext : (exportLabel a (.expr e) none).text = a := rfl
    rw [htext, Option.map_none, Option.getD_none, String.append_empty, Naming.sqlName_eq_self_iff]
    exact ⟨fun h => ⟨h, .inl ⟨e, rfl⟩⟩, And.left⟩
  | @field c _ field =>
    refine (Label.sqlName_append_eq_text_ofAlias_iff a (Naming.attributeColumn field)).trans
      (and_congr_right fun _ => ⟨.inr, ?_⟩)
    rintro (⟨e, he⟩ | h)
    · cases he
    · exact h

/-- A query as a source is a derived table under the alias that it has there, and all its columns
are read from that table. -/
lemma exists_derived {sources : List Source} {entered : Entered}
    (he : (enter s sources).outcome = .ok entered) (hknown : KnownById sources) {inner : Query}
    (h : .query inner ∈ sources) : ∃ base st, s.aliasOf inner.id = .ok base ∧
      (compile s.model s.platform .derived none inner).outcome = .ok st ∧
      .derived st base ∈ entered.items ∧ ∀ column : Column, column.source = inner.id →
        (s.enteredWith entered).column column = .ok ⟨base,
          Naming.sqlName column.name ++ (column.second.map Naming.sqlName).getD ""⟩ := by
  obtain ⟨e, place, henters, hplaces, hlookup⟩ := exists_enters he hknown h
  cases henters with
  | @query _ base st hbase hst =>
    cases hplaces
    refine ⟨base, st, hbase, hst, ?_, fun column hsource => ?_⟩
    · obtain ⟨es, hes, rfl⟩ := enter_eq_ok_iff.1 he
      obtain ⟨e', hmem, henters'⟩ := hes.exists_of_mem_left h
      obtain ⟨_, _⟩ | ⟨hbase', hst'⟩ := henters'
      obtain rfl := Except.ok.inj (hbase'.symm.trans hbase)
      obtain rfl := Except.ok.inj (hst'.symm.trans hst)
      rw [Entered.items_all]
      exact List.mem_flatMap.2 ⟨_, hmem, List.mem_singleton_self _⟩
    · have htable : (s.enteredWith entered).tableOf column.source column.name = .ok base := by
        have hlookup : (s.enteredWith entered).places.lookup column.source =
            some (.derived base) := by
          rw [hsource]
          exact hlookup
        simp only [Scope.tableOf, hlookup]
      rw [Scope.column, htable]
      rfl

end

/-- A column of a query that compiles as a source is exported, by the first item under the alias of
the column: as the value of an expression, or as the column of an attribute. Every other query with
this source reads it from the derived table, and under the name that it is exported under if and
only if the alias is no SQL keyword, and is in lower case or that of an expression. That is so for
all aliases that are made up. Of an object, the alias is to be the one that its class has. -/
theorem reads_exported_iff {m : Model} {p : Platform} {inner : Query} {a : String}
    {second : Option String} {column : Column} {st : Statement}
    (hcolumn : Column.ofQueryItem inner a second m = .ok column)
    (hst : (compile m p .derived none inner).outcome = .ok st)
    (halias : ∀ item ∈ inner.select.find? (·.aliasName == a), ∀ c, item.node = .object c →
      inner.alias? c.id = some a) :
    ∃ entered item outputs,
      (enter (.ofQuery m p inner) inner.sources).outcome = .ok entered ∧
      st.Exports ((Scope.ofQuery m p inner).enteredWith entered) inner.select a item outputs ∧
      (∃ o ∈ outputs, o.Holds item.node second) ∧
      ∀ o ∈ outputs, o.Holds item.node second → ∃ label, o.label = some label ∧
        ∀ outer entered', .query inner ∈ outer.sources → KnownById outer.sources →
          (enter (.ofQuery m p outer) outer.sources).outcome = .ok entered' →
          ∃ ref, ((Scope.ofQuery m p outer).enteredWith entered').column column = .ok ref ∧
            outer.alias? inner.id = some ref.table ∧ .derived st ref.table ∈ entered'.items ∧
            (ref.column = label.text ↔ Naming.isReserved a = false ∧
              ((∃ e, item.node = .expr e) ∨ a = Text.lowerCase a)) ∧
            ∀ n, a = Query.madeAlias n → ref.column = label.text := by
  obtain ⟨entered, _, _, _, hentered, _, _, _⟩ := compile_eq_ok_iff.1 hst
  obtain ⟨item, hitem, haddressed, hname, hsecond⟩ := Column.exists_of_ofQueryItem hcolumn
  obtain ⟨outputs, hexports⟩ := exists_exports hst hentered hitem
  refine ⟨entered, item, outputs, hentered, hexports,
    exists_holds haddressed hexports.columns, fun o ho hholds => ?_⟩
  -- the columns of a class are named after its own alias, which is that of the item
  have hown (c : ClassNode) (hc : item.node = .object c) :
      ((Scope.ofQuery m p inner).enteredWith entered).aliasOf c.id = .ok item.aliasName := by
    rw [hexports.aliasName]
    exact aliasOf_eq_ok_iff.2 (halias item hitem c hc)
  have hlabel := label_of_holds hexports.columns hown ho hholds
  rw [hexports.aliasName] at hlabel
  refine ⟨_, hlabel, fun outer entered' hsource hknown hentered' => ?_⟩
  obtain ⟨base, st', hbase, hst', hderived, hread⟩ := exists_derived hentered' hknown hsource
  obtain rfl : st' = st := Except.ok.inj (hst'.symm.trans hst)
  have hiff := reads_exportLabel_iff (a := a) haddressed
  have href := hread column (Column.source_ofQueryItem hcolumn)
  rw [hname, hsecond] at href
  refine ⟨_, href, aliasOf_eq_ok_iff.1 hbase, hderived, hiff, ?_⟩
  rintro n rfl
  exact hiff.2 ⟨Query.isReserved_madeAlias n, .inr (Query.lowerCase_madeAlias n).symm⟩

end Sql

/-- The name of an employee is exported by the query for all employees, and read from it under that
name by the query for the workers. -/
theorem reads_exported_iff_layered : ∃ st label entered ref,
    (Sql.compile Sample.company .postgreSQL .derived none Sample.employees).outcome = .ok st ∧
    (∃ o ∈ st.columns, o.label = some label) ∧
    (Sql.enter (.ofQuery Sample.company .postgreSQL Sample.layered)
      Sample.layered.sources).outcome = .ok entered ∧
    ((Sql.Scope.ofQuery Sample.company .postgreSQL Sample.layered).enteredWith entered).column
      ⟨Sample.employees.id, true, "a1_", some "name", .string⟩ = .ok ref ∧
    ref.column = label.text := by
  have hcolumn : Column.ofQueryItem Sample.employees "a1_" (some "name") Sample.company =
      .ok ⟨Sample.employees.id, true, "a1_", some "name", .string⟩ := by
    rfl
  have hst : (Sql.compile Sample.company .postgreSQL .derived none
      Sample.employees).outcome.toOption.isSome := by
    decide +kernel
  obtain ⟨st, hst⟩ := Except.exists_of_isSome_toOption hst
  have hentered : (Sql.enter (.ofQuery Sample.company .postgreSQL Sample.layered)
      Sample.layered.sources).outcome.toOption.isSome := by
    decide +kernel
  obtain ⟨entered, hentered⟩ := Except.exists_of_isSome_toOption hentered
  have halias : ∀ item ∈ Sample.employees.select.find? (·.aliasName == "a1_"),
      ∀ c, item.node = .object c → Sample.employees.alias? c.id = some "a1_" := by
    rintro item ⟨⟩ c ⟨⟩
    rfl
  have hknown : Sql.KnownById Sample.layered.sources := Sql.knownById_of_nodup (by decide)
  have hsource : .query Sample.employees ∈ Sample.layered.sources :=
    List.mem_cons_of_mem _ List.mem_cons_self
  obtain ⟨_, _, outputs, _, hexports, ⟨o, ho, hholds⟩, hread⟩ :=
    Sql.reads_exported_iff hcolumn hst halias
  obtain ⟨label, hlabel, hread⟩ := hread o ho hholds
  obtain ⟨ref, href, _, _, _, hmade⟩ := hread _ _ hsource hknown hentered
  refine ⟨st, label, entered, ref, hst, ⟨o, ?_, hlabel⟩, hentered, href, hmade 1 rfl⟩
  obtain ⟨_, _, _, _, _, _, _, _, hcolumns⟩ := hexports.place
  rw [hcolumns]
  exact List.mem_append_left _ (List.mem_append_right _ ho)

end ObjectQuery
