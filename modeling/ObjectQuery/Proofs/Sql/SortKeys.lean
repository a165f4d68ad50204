import Mathlib
import ObjectQuery.Proofs.Sql.Selection
import ObjectQuery.Proofs.Sql.SortColumns

/-!
# Sort keys among the output columns

A statement without repeated rows can be ordered by what it outputs only. The walk over the nodes of
an order outputs every expression, as an item that is selected or in a column of its own, but it
never adds a column for a class. So the sort keys are output up to those of classes that the order
names and the query does not select (`compile_sortKeys`). Doubles are left out: two of them are equal
as numbers where their literals differ.
-/

namespace ObjectQuery

namespace Value

/-- Whether the value is a double. -/
def isFloat : Value → Bool
  | .float _ => true
  | _ => false

lemma isNaN_of_isFloat {v : Value} (h : v.isFloat = false) : v.isNaN = false := by
  cases v with
  | float x => cases h
  | _ => rfl

/-- Other values than doubles are equal only if they are the same. -/
lemma eq_of_same {v w : Value} (hv : v.isFloat = false) (h : v.same w = true) : v = w := by
  cases v with
  | float x => cases hv
  | _ => exact of_decide_eq_true h

end Value

namespace Expr

/-- Expressions without doubles are equal only if they are the same. -/
lemma eq_of_same {e f : Expr} (he : ∀ v ∈ e.values, v.isFloat = false) (h : e.same f = true) :
    e = f := by
  induction e generalizing f with
  | column c =>
    cases f with
    | column d => rw [of_decide_eq_true h]
    | _ => cases h
  | arithmetic op l r ihl ihr =>
    obtain ⟨hl, hr⟩ := List.forall_mem_append.1 he
    cases f with
    | arithmetic op' l' r' =>
      simp only [same, Bool.and_eq_true, decide_eq_true_eq] at h
      obtain ⟨⟨rfl, hsamel⟩, hsamer⟩ := h
      rw [ihl hl hsamel, ihr hr hsamer]
    | _ => cases h
  | suffix b p ihb ihp =>
    obtain ⟨hb, hp⟩ := List.forall_mem_append.1 he
    cases f with
    | suffix b' p' =>
      obtain ⟨hsameb, hsamep⟩ := Bool.and_eq_true_iff.1 h
      rw [ihb hb hsameb, ihp hp hsamep]
    | _ => cases h
  | substring b p n ihb ihp ihn =>
    obtain ⟨hbp, hn⟩ := List.forall_mem_append.1 he
    obtain ⟨hb, hp⟩ := List.forall_mem_append.1 hbp
    cases f with
    | substring b' p' n' =>
      obtain ⟨hsame, hsamen⟩ := Bool.and_eq_true_iff.1 h
      obtain ⟨hsameb, hsamep⟩ := Bool.and_eq_true_iff.1 hsame
      rw [ihb hb hsameb, ihp hp hsamep, ihn hn hsamen]
    | _ => cases h
  | indexOf b p ihb ihp =>
    obtain ⟨hb, hp⟩ := List.forall_mem_append.1 he
    cases f with
    | indexOf b' p' =>
      obtain ⟨hsameb, hsamep⟩ := Bool.and_eq_true_iff.1 h
      rw [ihb hb hsameb, ihp hp hsamep]
    | _ => cases h
  | aggregate op e ih =>
    cases f with
    | aggregate op' e' =>
      simp only [same, Bool.and_eq_true, decide_eq_true_eq] at h
      obtain ⟨rfl, hsame⟩ := h
      rw [ih he hsame]
    | _ => cases h
  | bareAggregate op =>
    cases f with
    | bareAggregate op' => rw [of_decide_eq_true h]
    | _ => cases h
  | value v =>
    cases f with
    | value w => rw [Value.eq_of_same (he v (List.mem_singleton_self v)) h]
    | _ => cases h
  | cast e t ih =>
    cases f with
    | cast e' t' =>
      simp only [same, Bool.and_eq_true, decide_eq_true_eq] at h
      obtain ⟨rfl, hsame⟩ := h
      rw [ih he hsame]
    | _ => cases h

end Expr

/-- A node equals an expression only if it is one. -/
lemma Node.exists_of_same_expr {n : Node} {e : Expr} (h : (n == .expr e) = true) :
    ∃ f, n = .expr f ∧ f.same e = true := by
  cases n with
  | object c => cases h
  | expr f => exact ⟨f, rfl, h⟩

/-- A node equals a class only if it is a copy of it. -/
lemma Node.exists_of_same_object {n : Node} {c : ClassNode} (h : (n == .object c) = true) :
    ∃ d, n = .object d ∧ d.id = c.id := by
  cases n with
  | object d => exact ⟨d, rfl, of_decide_eq_true h⟩
  | expr e => cases h

/-- The query has the node to output: it selects it, or it is ordered by it and the node is an
expression and no literal. -/
def Query.Outputs (q : Query) (n : Node) : Prop :=
  n ∈ q.select.map SelectItem.node ∨ n ∈ q.orderBy ∧ ∃ e, n = .expr e ∧ e.isValue = false

namespace Sql

namespace Ordering

section Keys

variable {es keys : List Expr} {e : Expr}

lemma mem_of_mem_foldl_addKey (h : e ∈ es.foldl addKey keys) : e ∈ keys ∨ e ∈ es := by
  induction es generalizing keys with
  | nil => exact .inl h
  | cons f es ih =>
    rcases ih h with h | h
    · unfold addKey at h
      split at h
      · exact .inl h
      · rcases List.mem_append.1 h with h | h
        · exact .inl h
        · exact .inr (List.mem_singleton.1 h ▸ List.mem_cons_self)
    · exact .inr (List.mem_cons_of_mem f h)

/-- What equals a key goes on to equal one when more keys are added. -/
lemma exists_mem_foldl_addKey (h : ∃ k ∈ keys, (k == e) = true) :
    ∃ k ∈ es.foldl addKey keys, (k == e) = true := by
  induction es generalizing keys with
  | nil => exact h
  | cons f es ih =>
    obtain ⟨k, hk, hsame⟩ := h
    refine ih ⟨k, ?_, hsame⟩
    unfold addKey
    split
    · exact hk
    · exact List.mem_append_left _ hk

/-- An expression that equals itself has a key that it equals once it is added. -/
lemma exists_mem_foldl_addKey_of_mem (h : e ∈ es) (hself : e.same e = true) :
    ∃ k ∈ es.foldl addKey keys, (k == e) = true := by
  induction es generalizing keys with
  | nil => cases h
  | cons f es ih =>
    rcases List.mem_cons.1 h with rfl | h
    · rw [List.foldl_cons]
      refine exists_mem_foldl_addKey ?_
      unfold addKey
      split
      · rename_i hold
        exact List.any_eq_true.1 hold
      · exact ⟨e, List.mem_append_right _ (List.mem_singleton_self e), hself⟩
    · exact ih h

lemma unselectedKeys_eq_foldl (orderBy : List Node) (select : List SelectItem) :
    unselectedKeys orderBy select =
      ((orderBy.filterMap Node.expr?).filter (needsColumn select)).foldl addKey [] := by
  rw [foldl_addKey, List.nil_append, unselectedKeys]
  simp

end Keys

section Columns

variable {s : Scope} {select : List SelectItem} {first : Nat}

lemma mem_sortColumns_iff {terms : List Term} {t : Term} :
    (∃ o ∈ sortColumns first terms, o.term = t) ↔ t ∈ terms := by
  constructor
  · rintro ⟨o, ho, rfl⟩
    obtain ⟨i, hi, rfl⟩ := List.mem_mapIdx.1 ho
    exact List.getElem_mem hi
  · intro ht
    obtain ⟨i, hi, rfl⟩ := List.mem_iff_getElem.1 ht
    exact ⟨_, List.mem_mapIdx.2 ⟨i, hi, rfl⟩, rfl⟩

/-- The columns of an order are of expressions that it names and that are no literals. -/
lemma exists_of_mem_columns {orderBy : List Node} {o : Ordering}
    (hselect : ∀ item ∈ select, ∀ v ∈ item.node.values, v.isFloat = false)
    (h : ofNodes s orderBy select first = .ok o) {column : Output} (hcolumn : column ∈ o.columns) :
    ∃ e, .expr e ∈ orderBy ∧ e.isValue = false ∧ s.term e = .ok column.term := by
  have hnan : ∀ item ∈ select, ∀ v ∈ item.node.values, v.isNaN = false :=
    fun item hitem v hv => Value.isNaN_of_isFloat (hselect item hitem v hv)
  obtain ⟨terms, hterms, hcolumns⟩ := columns_ofNodes hnan h
  rw [hcolumns] at hcolumn
  obtain ⟨e, he, hterm⟩ :=
    hterms.exists_of_mem_right (mem_sortColumns_iff.1 ⟨column, hcolumn, rfl⟩)
  rw [unselectedKeys_eq_foldl] at he
  rcases mem_of_mem_foldl_addKey he with he | he
  · cases he
  · obtain ⟨hmem, hneeds⟩ := List.mem_filter.1 he
    obtain ⟨n, hn, hexpr⟩ := List.mem_filterMap.1 hmem
    cases n with
    | object c => cases hexpr
    | expr f =>
      cases hexpr
      simp only [needsColumn, Bool.and_eq_true, Bool.not_eq_true'] at hneeds
      exact ⟨e, hn, hneeds.1, hterm⟩

/-- An expression that the order names and that is neither a literal nor selected is output in a
column of the order. -/
lemma exists_column_of_mem {orderBy : List Node} {o : Ordering}
    (hselect : ∀ item ∈ select, ∀ v ∈ item.node.values, v.isFloat = false)
    (horderBy : ∀ n ∈ orderBy, ∀ v ∈ n.values, v.isFloat = false)
    (h : ofNodes s orderBy select first = .ok o) {e : Expr} (he : .expr e ∈ orderBy)
    (hneeds : needsColumn select e = true) {t : Term} (ht : s.term e = .ok t) :
    ∃ column ∈ o.columns, column.term = t := by
  have hnan : ∀ item ∈ select, ∀ v ∈ item.node.values, v.isNaN = false :=
    fun item hitem v hv => Value.isNaN_of_isFloat (hselect item hitem v hv)
  obtain ⟨terms, hterms, hcolumns⟩ := columns_ofNodes hnan h
  have hmem : e ∈ (orderBy.filterMap Node.expr?).filter (needsColumn select) :=
    List.mem_filter.2 ⟨List.mem_filterMap.2 ⟨_, he, rfl⟩, hneeds⟩
  have hself : e.same e = true :=
    Expr.same_self fun v hv => Value.isNaN_of_isFloat (horderBy _ he v hv)
  obtain ⟨k, hk, hsame⟩ : ∃ k ∈ unselectedKeys orderBy select, (k == e) = true := by
    rw [unselectedKeys_eq_foldl]
    exact exists_mem_foldl_addKey_of_mem hmem hself
  -- the key that the expression equals has its values, so it is the expression itself
  obtain rfl : e = k := Expr.eq_of_same (horderBy _ he) ((Expr.same_comm e k).trans hsame)
  obtain ⟨t', ht', hterm⟩ := hterms.exists_of_mem_left hk
  obtain rfl := Except.ok.inj (hterm.symm.trans ht)
  rw [hcolumns]
  exact mem_sortColumns_iff.2 ht'

end Columns

end Ordering

namespace Scope

variable {s : Scope}

lemma IsSortTerm.of_id {c d : ClassNode} {t : Term} (h : s.IsSortTerm (.object c) t)
    (hid : d.id = c.id) : s.IsSortTerm (.object d) t := by
  obtain ⟨aliasName, halias, rfl⟩ := h
  exact ⟨aliasName, hid ▸ halias, rfl⟩

/-- A selected item of a whole statement is output. -/
lemma exists_itemColumn {item : SelectItem} {outputs : List Output}
    (h : s.itemColumns .whole item = .ok outputs) {t : Term} (ht : s.IsSortTerm item.node t) :
    ∃ o ∈ outputs, o.term = t := by
  obtain ⟨n, aliasName⟩ := item
  cases n with
  | object c =>
    obtain ⟨base, hbase, h⟩ := Except.bind_eq_ok.1 h
    obtain ⟨base', hbase', rfl⟩ := ht
    obtain rfl := Except.ok.inj (hbase.symm.trans hbase')
    cases h
    exact ⟨_, List.mem_cons_of_mem _ (List.mem_singleton_self _), rfl⟩
  | expr e =>
    obtain ⟨t', ht', h⟩ := Except.bind_eq_ok.1 h
    obtain rfl := Except.ok.inj (ht'.symm.trans ht)
    cases h
    exact ⟨_, List.mem_singleton_self _, rfl⟩

/-- What is output for a selected item of a whole statement is its sort key or a whole object. -/
lemma isSortTerm_or_objectColumn {item : SelectItem} {outputs : List Output}
    (h : s.itemColumns .whole item = .ok outputs) {o : Output} (ho : o ∈ outputs) :
    s.IsSortTerm item.node o.term ∨ ∃ aliasName, o.term = objectColumn aliasName := by
  obtain ⟨n, aliasName⟩ := item
  cases n with
  | object c =>
    obtain ⟨base, hbase, h⟩ := Except.bind_eq_ok.1 h
    cases h
    rcases List.mem_pair.1 ho with rfl | rfl
    · exact .inr ⟨base, rfl⟩
    · exact .inl ⟨base, hbase, rfl⟩
  | expr e =>
    obtain ⟨t, ht, h⟩ := Except.bind_eq_ok.1 h
    cases h
    obtain rfl := List.mem_singleton.1 ho
    exact .inl ht

/-- The output columns of a select list are those of its items. -/
lemma mem_columns_iff {shape : Shape} {select : List SelectItem} {outputs : List Output}
    (h : s.columns shape select = .ok outputs) {o : Output} :
    o ∈ outputs ↔ ∃ item ∈ select, ∃ own, s.itemColumns shape item = .ok own ∧ o ∈ own := by
  obtain ⟨parts, hparts, h⟩ := Except.bind_eq_ok.1 h
  cases h
  have hparts := Except.mapM_eq_ok_iff.1 hparts
  rw [List.mem_flatten]
  constructor
  · rintro ⟨own, hown, ho⟩
    obtain ⟨item, hitem, h⟩ := hparts.exists_of_mem_right hown
    exact ⟨item, hitem, own, h, ho⟩
  · rintro ⟨item, hitem, own, h, ho⟩
    obtain ⟨own', hown', h'⟩ := hparts.exists_of_mem_left hitem
    obtain rfl := Except.ok.inj (h'.symm.trans h)
    exact ⟨own', hown', ho⟩

end Scope

section Whole

variable {s : Scope} {q : Query} {first : Nat} {order : Ordering} {selected : List Output}

/-- What a query has to output is output. -/
lemma exists_output (hvalues : ∀ n ∈ q.orderBy ++ q.select.map SelectItem.node,
      ∀ v ∈ n.values, v.isFloat = false)
    (horder : Ordering.ofNodes s q.orderBy q.select first = .ok order)
    (hselected : s.columns .whole q.select = .ok selected) {n : Node} (hn : q.Outputs n) {t : Term}
    (ht : s.IsSortTerm n t) : ∃ o ∈ selected ++ order.columns, o.term = t := by
  obtain ⟨horderBy, hselect⟩ := List.forall_mem_append.1 hvalues
  have hselect := List.forall_mem_map.1 hselect
  have hitem : ∀ item ∈ q.select, s.IsSortTerm item.node t →
      ∃ o ∈ selected ++ order.columns, o.term = t := by
    intro item hitem ht
    obtain ⟨parts, hparts, _⟩ := Except.bind_eq_ok.1 hselected
    obtain ⟨own, _, hown⟩ := (Except.mapM_eq_ok_iff.1 hparts).exists_of_mem_left hitem
    obtain ⟨o, ho, hterm⟩ := Scope.exists_itemColumn hown ht
    have hmem := (Scope.mem_columns_iff hselected).2 ⟨item, hitem, own, hown, ho⟩
    exact ⟨o, List.mem_append_left _ hmem, hterm⟩
  rcases hn with hn | ⟨hn, e, rfl, hvalue⟩
  · obtain ⟨item, hmem, rfl⟩ := List.mem_map.1 hn
    exact hitem item hmem ht
  · cases hany : q.select.any (·.node == .expr e) with
    | true =>
      obtain ⟨item, hmem, hsame⟩ := List.any_eq_true.1 hany
      obtain ⟨f, hf, hsame⟩ := Node.exists_of_same_expr hsame
      obtain rfl : e = f := Expr.eq_of_same (horderBy _ hn) ((Expr.same_comm e f).trans hsame)
      rw [← hf] at ht
      exact hitem item hmem ht
    | false =>
      have hneeds : Ordering.needsColumn q.select e = true := by
        rw [Ordering.needsColumn, hvalue, hany]
        rfl
      obtain ⟨o, ho, hterm⟩ :=
        Ordering.exists_column_of_mem hselect horderBy horder hn hneeds ht
      exact ⟨o, List.mem_append_right _ ho, hterm⟩

/-- A sort key that is output is that of something that the query has to output. -/
lemma outputs_of_mem (hselect : ∀ item ∈ q.select, ∀ v ∈ item.node.values, v.isFloat = false)
    (horder : Ordering.ofNodes s q.orderBy q.select first = .ok order)
    (hselected : s.columns .whole q.select = .ok selected) {n : Node}
    (hn : n ∈ q.orderBy ++ q.select.map SelectItem.node) (hvalue : n.isValue = false) {o : Output}
    (ho : o ∈ selected ++ order.columns) (ht : s.IsSortTerm n o.term) :
    ∃ n, q.Outputs n ∧ s.IsSortTerm n o.term := by
  rcases List.mem_append.1 hn with horderBy | hnode
  · cases n with
    | expr e => exact ⟨_, .inr ⟨horderBy, e, rfl, hvalue⟩, ht⟩
    | object c =>
      rcases List.mem_append.1 ho with ho | ho
      · obtain ⟨item, hitem, own, hown, ho⟩ := (Scope.mem_columns_iff hselected).1 ho
        rcases Scope.isSortTerm_or_objectColumn hown ho with hkey | ⟨base, hobject⟩
        · exact ⟨_, .inl (List.mem_map_of_mem hitem), hkey⟩
        · -- a whole object is no identity
          obtain ⟨base', _, hidentity⟩ := ht
          rw [hidentity] at hobject
          have hcolumn := congrArg ColumnRef.column (Term.column.inj hobject)
          exact absurd hcolumn (show "id" ≠ "OBJECT" by decide)
      · obtain ⟨e, he, hvalue, hterm⟩ := Ordering.exists_of_mem_columns hselect horder ho
        exact ⟨.expr e, .inr ⟨he, e, rfl, hvalue⟩, hterm⟩
  · exact ⟨n, .inl hnode, ht⟩

end Whole

/-- A sort key of a whole statement is output just if it is the key of something that the query
selects, or of an expression that its order names. So all keys are output but those of classes that
the order names and the query does not select. -/
theorem compile_sortKeys {m : Model} {p : Platform} {seek : Option Seek} {q : Query}
    (hvalues : ∀ n ∈ q.orderBy ++ q.select.map SelectItem.node, ∀ v ∈ n.values, v.isFloat = false)
    {st : Statement} (h : (compile m p .whole seek q).outcome = .ok st) :
    ∃ entered, (enter (.ofQuery m p q) q.sources).outcome = .ok entered ∧
      ∀ t ∈ st.orderBy,
        ((∃ o ∈ st.columns, o.term = t) ↔
          ∃ n, q.Outputs n ∧ ((Scope.ofQuery m p q).enteredWith entered).IsSortTerm n t) ∧
        ((∃ o ∈ st.columns, o.term = t) ∨
          ∃ c, .object c ∈ q.orderBy ∧ q.selects (.object c) = false ∧
            ((Scope.ofQuery m p q).enteredWith entered).IsSortTerm (.object c) t) := by
  obtain ⟨entered, conditions, links, _, hentered, _, _, hst⟩ := compile_eq_ok_iff.1 h
  obtain ⟨order, selected, _, horder, hselected, _, rfl⟩ := assemble_eq_ok_iff.1 hst
  have horder : Ordering.ofNodes _ q.orderBy q.select links.length = .ok order := horder
  have hselect := List.forall_mem_map.1 (List.forall_mem_append.1 hvalues).2
  refine ⟨entered, hentered, fun t ht => ?_⟩
  obtain ⟨n, hn, hkey⟩ := (Ordering.terms_ofNodes horder).exists_of_mem_right ht
  obtain ⟨hmem, hvalue⟩ := List.mem_filter.1 hn
  have hvalue : n.isValue = false := by simpa using hvalue
  have hkey := Scope.isSortTerm_of_nodeTerm hkey
  have houtput {n : Node} (hn : q.Outputs n) (hkey : Scope.IsSortTerm _ n t) :
      ∃ o ∈ selected ++ order.columns, o.term = t :=
    exists_output hvalues horder hselected hn hkey
  constructor
  · constructor
    · rintro ⟨o, ho, rfl⟩
      exact outputs_of_mem hselect horder hselected hmem hvalue ho hkey
    · rintro ⟨n, hn, hkey⟩
      exact houtput hn hkey
  · rcases List.mem_append.1 hmem with horderBy | hnode
    · cases n with
      | expr e => exact .inl (houtput (.inr ⟨horderBy, e, rfl, hvalue⟩) hkey)
      | object c =>
        cases hselects : q.selects (.object c) with
        | false => exact .inr ⟨c, horderBy, hselects, hkey⟩
        | true =>
          obtain ⟨item, hitem, hsame⟩ := List.any_eq_true.1 hselects
          obtain ⟨d, hd, hid⟩ := Node.exists_of_same_object hsame
          refine .inl (houtput (.inl (List.mem_map_of_mem hitem)) ?_)
          rw [hd]
          exact hkey.of_id hid
    · exact .inl (houtput (.inl hnode) hkey)

end Sql

/-- The workers are selected, and the names of the employees are expressions: all sort keys are
output. -/
theorem compile_sortKeys_ordered :
    (∀ n ∈ Sample.ordered.orderBy ++ Sample.ordered.select.map SelectItem.node,
      ∀ v ∈ n.values, v.isFloat = false) ∧
    ∃ st, (Sql.compile Sample.company .postgreSQL .whole none Sample.ordered).outcome = .ok st ∧
      st.orderBy.length = 4 ∧ ∀ t ∈ st.orderBy, ∃ o ∈ st.columns, o.term = t := by
  have hvalues : ∀ n ∈ Sample.ordered.orderBy ++ Sample.ordered.select.map SelectItem.node,
      ∀ v ∈ n.values, v.isFloat = false := by
    decide
  have hcompiled : (Sql.compile Sample.company .postgreSQL .whole none
      Sample.ordered).outcome.toOption.map (fun st => st.orderBy.length) = some 4 := by
    decide +kernel
  obtain ⟨st, hst, hlength⟩ := Except.exists_of_toOption hcompiled
  obtain ⟨_, _, hkeys⟩ := Sql.compile_sortKeys hvalues hst
  have hclass : ∀ n ∈ Sample.ordered.orderBy, n.expr?.isSome := by decide
  refine ⟨hvalues, st, hst, hlength, fun t ht => ?_⟩
  rcases (hkeys t ht).2 with houtput | ⟨c, hc, _⟩
  · exact houtput
  · cases hclass _ hc

namespace Sample

/-- Employees next to projects and in the order of the projects, each employee once. -/
def byProject : Query :=
  [.addSource (.object employee), .addSource (.object project), .addSelect (.object employee),
    .addOrderBy (.object project), .setDistinct true].foldl Edit.apply (.empty ⟨3⟩)

end Sample

/-- The projects are a sort key that is not output, although no row is to be repeated. -/
theorem sort_key_missing :
    (∀ n ∈ Sample.byProject.orderBy ++ Sample.byProject.select.map SelectItem.node,
      ∀ v ∈ n.values, v.isFloat = false) ∧
    ∃ st, (Sql.compile Sample.company .postgreSQL .whole none Sample.byProject).outcome = .ok st ∧
      st.text = "SELECT DISTINCT a1_.OBJECT AS a1_, a1_.id AS a1_id " ++
        "FROM Employee AS a1_, Project AS a2_ ORDER BY a2_.id, a1_.id" ∧
      ∃ t ∈ st.orderBy, ∀ o ∈ st.columns, o.term.text ≠ t.text := by
  have hcompiled : ((Sql.compile Sample.company .postgreSQL .whole none
      Sample.byProject).outcome.toOption.map fun st =>
        (st.text, decide (∃ t ∈ st.orderBy, ∀ o ∈ st.columns, o.term.text ≠ t.text))) =
      some ("SELECT DISTINCT a1_.OBJECT AS a1_, a1_.id AS a1_id " ++
        "FROM Employee AS a1_, Project AS a2_ ORDER BY a2_.id, a1_.id", true) := by
    decide +kernel
  obtain ⟨st, hst, hview⟩ := Except.exists_of_toOption hcompiled
  obtain ⟨htext, hmissing⟩ := Prod.mk.inj hview
  exact ⟨by decide, st, hst, htext, of_decide_eq_true hmissing⟩

end ObjectQuery
