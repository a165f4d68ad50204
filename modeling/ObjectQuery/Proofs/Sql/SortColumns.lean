import Mathlib
import ObjectQuery.Proofs.Query.WellBuilt
import ObjectQuery.Proofs.Sql.LinkTables
import ObjectQuery.Proofs.Sql.Ordering
import ObjectQuery.Proofs.Sql.Scoping

/-!
# Columns for the order

An expression that a query is ordered by gets an output column of its own if it is not selected, and
only the first time that it occurs. The walk that makes these columns also goes over the select list,
but what is selected is selected: only the expressions that the order names get columns, numbered
from the number of link tables on (`compile_sortColumns`). This takes values that equal themselves;
a NaN does not.
-/

namespace ObjectQuery

namespace Value

/-- Whether the value is a double that is not a number. -/
def isNaN : Value → Bool
  | .float x => x.isNaN
  | _ => false

lemma same_comm (v w : Value) : v.same w = w.same v := by
  cases v <;> cases w <;> first | exact Binary64.numEq_comm _ _ | simp [same, eq_comm]

lemma same_self {v : Value} (h : v.isNaN = false) : v.same v = true := by
  cases v with
  | float x =>
    have hx : x.isNaN = false := h
    simp [same, x.numEq_self, hx]
  | _ => simp [same]

end Value

namespace Expr

/-- Equality of expressions is symmetric. -/
lemma same_comm (e f : Expr) : e.same f = f.same e := by
  induction e generalizing f with
  | value v => cases f <;> simp [same, Value.same_comm v]
  | column c => cases f <;> simp [same, eq_comm]
  | arithmetic op l r ihl ihr => cases f <;> simp [same, ihl, ihr, eq_comm (a := op)]
  | suffix b p ihb ihp => cases f <;> simp [same, ihb, ihp]
  | substring b p n ihb ihp ihn => cases f <;> simp [same, ihb, ihp, ihn]
  | indexOf h n ihh ihn => cases f <;> simp [same, ihh, ihn]
  | aggregate op e ih => cases f <;> simp [same, ih, eq_comm (a := op)]
  | bareAggregate op => cases f <;> simp [same, eq_comm]
  | cast e t ih => cases f <;> simp [same, ih, eq_comm (a := t)]

/-- An expression equals itself if its values do. -/
lemma same_self {e : Expr} (h : ∀ v ∈ e.values, v.isNaN = false) : e.same e = true := by
  induction e with
  | value v => exact Value.same_self (h v (List.mem_singleton_self v))
  | column | bareAggregate => simp [same]
  | arithmetic op l r ihl ihr =>
    obtain ⟨hl, hr⟩ := List.forall_mem_append.1 h
    simp [same, ihl hl, ihr hr]
  | suffix b p ihb ihp | indexOf b p ihb ihp =>
    obtain ⟨hb, hp⟩ := List.forall_mem_append.1 h
    simp [same, ihb hb, ihp hp]
  | substring b p n ihb ihp ihn =>
    obtain ⟨hbp, hn⟩ := List.forall_mem_append.1 h
    obtain ⟨hb, hp⟩ := List.forall_mem_append.1 hbp
    simp [same, ihb hb, ihp hp, ihn hn]
  | aggregate op e ih | cast e t ih => simp [same, ih h]

end Expr

/-- The expression of a node that is no class. -/
def Node.expr? : Node → Option Expr
  | .object _ => none
  | .expr e => some e

namespace Sql

namespace Ordering

/-- Whether an expression has to be output for the order alone. -/
def needsColumn (select : List SelectItem) (e : Expr) : Bool :=
  !e.isValue && !select.any (·.node == .expr e)

/-- The expressions among the nodes that have to be output for the order alone, each one where it
occurs first. -/
def unselectedKeys (orderBy : List Node) (select : List SelectItem) : List Expr :=
  ((orderBy.filterMap Node.expr?).filter (needsColumn select)).eraseDups

/-- The output columns of terms for the order, numbered from `first` on. -/
def sortColumns (first : Nat) (terms : List Term) : List Output :=
  terms.mapIdx fun i t => ⟨t, some (.plain ("orderbyfield" ++ toString (first + i)))⟩

lemma sortColumns_append_singleton (first : Nat) (terms : List Term) (t : Term) :
    sortColumns first (terms ++ [t]) = sortColumns first terms ++
      [⟨t, some (.plain (columnName (first + (sortColumns first terms).length)))⟩] := by
  simp [sortColumns, columnName, List.mapIdx_append]

/-- One more expression, unless it equals one that is there. -/
def addKey (keys : List Expr) (e : Expr) : List Expr :=
  if keys.any (· == e) then keys else keys ++ [e]

/-- Adding expressions one after the other keeps the first of those that are equal. -/
lemma foldl_addKey (es keys : List Expr) :
    es.foldl addKey keys = keys ++ (es.filter fun e => !keys.any (· == e)).eraseDups := by
  induction es generalizing keys with
  | nil => simp
  | cons e es ih =>
    rw [List.foldl_cons, ih, addKey]
    cases hold : keys.any (· == e) with
    | true => rw [if_pos rfl, List.filter_cons_of_neg (by simp [hold])]
    | false =>
      rw [if_neg Bool.false_ne_true, List.filter_cons_of_pos (by simp [hold]),
        List.eraseDups_cons, List.filter_filter, List.append_assoc, List.singleton_append]
      congr 4
      funext f
      have hcomm : (f == e) = (e == f) := Expr.same_comm f e
      rw [List.any_append, List.any_cons, List.any_nil, Bool.or_false, Bool.not_or, hcomm,
        Bool.and_comm]

variable {s : Scope} {select : List SelectItem} {first : Nat} {o o' : Ordering}

/-- The columns of an order are those of the terms of its unselected expressions. -/
def HasColumns (s : Scope) (first : Nat) (o : Ordering) : Prop :=
  ∃ terms, List.Forall₂ (fun e t => s.term e = .ok t) o.unselected terms ∧
    o.columns = sortColumns first terms

lemma unselected_addExpr (o : Ordering) (first : Nat) (selected : Bool) (e : Expr) (t : Term) :
    (o.addExpr first selected e t).unselected =
      if selected then o.unselected else addKey o.unselected e := by
  unfold addExpr addKey
  cases selected <;> cases o.unselected.any (· == e) <;> rfl

lemma HasColumns.addExpr (h : o.HasColumns s first) (selected : Bool) {e : Expr} {t : Term}
    (ht : s.term e = .ok t) : (o.addExpr first selected e t).HasColumns s first := by
  obtain ⟨terms, hterms, hcolumns⟩ := h
  unfold Ordering.addExpr
  split
  · exact ⟨terms, hterms, hcolumns⟩
  · refine ⟨terms ++ [t], List.rel_append hterms (.cons ht .nil), ?_⟩
    rw [sortColumns_append_singleton, hcolumns]

/-- A node adds its expression to the unselected ones if that has to be output for the order. -/
lemma step_addNode {n : Node} (ho : o.HasColumns s first)
    (h : addNode s select first o n = .ok o') :
    o'.HasColumns s first ∧
      o'.unselected = (n.expr?.toList.filter (needsColumn select)).foldl addKey o.unselected := by
  cases n with
  | object c =>
    obtain ⟨t, _, h⟩ := Except.bind_eq_ok.1 h
    cases h
    exact ⟨ho, rfl⟩
  | expr e =>
    simp only [addNode] at h
    split at h
    · rename_i hvalue
      cases h
      refine ⟨ho, ?_⟩
      simp [Node.expr?, needsColumn, hvalue]
    · rename_i hvalue
      obtain ⟨t, ht, h⟩ := Except.bind_eq_ok.1 h
      cases h
      refine ⟨ho.addExpr _ ht, ?_⟩
      rw [unselected_addExpr]
      cases hselected : select.any (·.node == .expr e) <;>
        simp [Node.expr?, needsColumn, hvalue, hselected]

lemma run_addNode {nodes : List Node} (ho : o.HasColumns s first)
    (h : nodes.foldlM (addNode s select first) o = .ok o') :
    o'.HasColumns s first ∧
      o'.unselected =
        ((nodes.filterMap Node.expr?).filter (needsColumn select)).foldl addKey o.unselected := by
  induction nodes generalizing o with
  | nil =>
    cases h
    exact ⟨ho, rfl⟩
  | cons n nodes ih =>
    rw [List.foldlM_cons] at h
    obtain ⟨o'', hn, h⟩ := Except.bind_eq_ok.1 h
    obtain ⟨ho'', hstep⟩ := step_addNode ho hn
    obtain ⟨ho', hrest⟩ := ih ho'' h
    refine ⟨ho', ?_⟩
    rw [hrest, hstep, ← List.foldl_append, ← List.filter_append]
    cases hexpr : n.expr? <;> simp [hexpr]

/-- No selected node has to be output for the order alone. -/
lemma filter_needsColumn_select
    (h : ∀ item ∈ select, ∀ v ∈ item.node.values, v.isNaN = false) :
    ((select.map SelectItem.node).filterMap Node.expr?).filter (needsColumn select) = [] := by
  refine List.filter_eq_nil_iff.2 fun e he => ?_
  obtain ⟨n, hn, hexpr⟩ := List.mem_filterMap.1 he
  obtain ⟨item, hitem, rfl⟩ := List.mem_map.1 hn
  cases hnode : item.node with
  | object c =>
    rw [hnode] at hexpr
    cases hexpr
  | expr f =>
    rw [hnode] at hexpr
    cases hexpr
    have hvalues := h item hitem
    rw [hnode] at hvalues
    have hself : (item.node == .expr e) = true := by
      rw [hnode]
      exact Expr.same_self hvalues
    have hany : select.any (·.node == .expr e) = true := List.any_eq_true.2 ⟨item, hitem, hself⟩
    simp [needsColumn, hany]

/-- The columns of the order of a query are those of the unselected expressions that it names. -/
lemma columns_ofNodes {orderBy : List Node}
    (hselect : ∀ item ∈ select, ∀ v ∈ item.node.values, v.isNaN = false)
    (h : ofNodes s orderBy select first = .ok o) :
    ∃ terms, List.Forall₂ (fun e t => s.term e = .ok t) (unselectedKeys orderBy select) terms ∧
      o.columns = sortColumns first terms := by
  have hnone : Ordering.none.HasColumns s first := ⟨[], .nil, rfl⟩
  obtain ⟨⟨terms, hterms, hcolumns⟩, hunselected⟩ := run_addNode hnone h
  refine ⟨terms, ?_, hcolumns⟩
  rw [nodes, List.filterMap_append, List.filter_append, filter_needsColumn_select hselect,
    List.append_nil, foldl_addKey] at hunselected
  have hkeys : o.unselected = unselectedKeys orderBy select := by
    rw [hunselected]
    simp [none, unselectedKeys]
  rw [← hkeys]
  exact hterms

end Ordering

/-- The term that a statement is ordered by for a node: the identity under the alias of a class, and
else the expression. -/
def Scope.IsSortTerm (s : Scope) : Node → Term → Prop
  | .object c, t => ∃ aliasName, s.aliasOf c.id = .ok aliasName ∧ t = .column ⟨aliasName, "id"⟩
  | .expr e, t => s.term e = .ok t

lemma Scope.isSortTerm_of_nodeTerm {s : Scope} {n : Node} {t : Term} (h : s.nodeTerm n = .ok t) :
    s.IsSortTerm n t := by
  cases n with
  | object c =>
    obtain ⟨aliasName, halias, h⟩ := Except.bind_eq_ok.1 h
    cases h
    exact ⟨aliasName, halias, rfl⟩
  | expr e => exact h

/-- A query has as many link tables as tests of relationships that are kept in one. -/
lemma length_links {s : Scope} {q : Query} {conditions : List Condition} {links : List FromItem}
    (h : (rootCondition s q.constraint).outcome = .ok (conditions, links)) :
    links.length = (q.tests.filter s.model.isLinked).length := by
  obtain ⟨rfl, _⟩ := links_root h
  have hlinked : ∀ test ∈ q.tests, (s.linkTable? test).isSome = s.model.isLinked test := by
    intro test htest
    obtain ⟨_, _, _, htested⟩ := exists_of_mem_rootTests h test htest
    exact isSome_linkTable? htested
  rw [length_linkItems]
  exact (forall₂_linkTables hlinked).length_eq.symm

/-- A whole statement is ordered by a term for each node that the query names or selects, literals
apart. Behind the columns of what is selected it has one for each expression that the order names and
that is neither a literal nor selected nor named before, numbered from the number of link tables on.
Statements of other shapes have no order and no such columns. -/
theorem compile_sortColumns {m : Model} {p : Platform} {shape : Shape} {seek : Option Seek}
    {q : Query} {st : Statement} (h : (compile m p shape seek q).outcome = .ok st) :
    ∃ entered selected,
      (enter (.ofQuery m p q) q.sources).outcome = .ok entered ∧
      ((Scope.ofQuery m p q).enteredWith entered).columns shape q.select = .ok selected ∧
      (shape = .whole →
        List.Forall₂ ((Scope.ofQuery m p q).enteredWith entered).IsSortTerm
          ((q.orderBy ++ q.select.map SelectItem.node).filter fun n => !n.isValue) st.orderBy) ∧
      (shape = .whole → (∀ item ∈ q.select, ∀ v ∈ item.node.values, v.isNaN = false) →
        ∃ terms,
          List.Forall₂ (fun e t => ((Scope.ofQuery m p q).enteredWith entered).term e = .ok t)
            (Ordering.unselectedKeys q.orderBy q.select) terms ∧
          st.columns = selected ++
            Ordering.sortColumns (q.tests.filter m.isLinked).length terms) ∧
      (shape ≠ .whole → st.orderBy = [] ∧ st.columns = selected) := by
  obtain ⟨entered, conditions, links, _, hentered, hroot, _, hst⟩ := compile_eq_ok_iff.1 h
  obtain ⟨order, selected, _, horder, hselected, _, rfl⟩ := assemble_eq_ok_iff.1 hst
  refine ⟨entered, selected, hentered, hselected, ?_, ?_, ?_⟩
  · rintro rfl
    have hterms := @Ordering.terms_ofNodes _ q.orderBy q.select _ _ horder
    exact hterms.imp fun _ _ => Scope.isSortTerm_of_nodeTerm
  · rintro rfl hvalues
    obtain ⟨terms, hterms, hcolumns⟩ := Ordering.columns_ofNodes hvalues horder
    refine ⟨terms, hterms, ?_⟩
    rw [hcolumns, length_links hroot]
    rfl
  · intro hshape
    rw [Ordering.ofShape, if_neg hshape] at horder
    cases horder
    exact ⟨rfl, List.append_nil selected⟩

end Sql

namespace Sample

/-- The name of one of the employees. -/
def employeeName : Expr :=
  .column ⟨employees.id, true, "a1_", some "name", .string⟩

/-- The workers by the names of the employees, then by a literal and the names from the second
letter on, and once more by the names. -/
def ordered : Query :=
  [.addOrderBy (.expr (.value (.int 1))),
    .addOrderBy (.expr (.suffix employeeName (.value (.int 2)))),
    .addOrderBy (.expr employeeName)].foldl Edit.apply layered

end Sample

/-- Behind two link tables, the names have the third number and their ends the fourth. The literal
and the second occurrence of the names have no columns. -/
theorem compile_sortColumns_ordered :
    (∀ item ∈ Sample.ordered.select, ∀ v ∈ item.node.values, v.isNaN = false) ∧
    ∃ st, (Sql.compile Sample.company .postgreSQL .whole none Sample.ordered).outcome = .ok st ∧
      st.orderBy.map Sql.Term.text =
        ["a2_.a1_name", "SUBSTR(a2_.a1_name, 2)", "a2_.a1_name", "a1_.id"] ∧
      st.columns.map Sql.Output.text = ["a1_.OBJECT AS a1_", "a1_.id AS a1_id",
        "a2_.a1_name AS orderbyfield2", "SUBSTR(a2_.a1_name, 2) AS orderbyfield3"] ∧
      ∃ selected terms, st.columns = selected ++ Sql.Ordering.sortColumns 2 terms ∧
        terms.length = 2 := by
  have hcompiled : ((Sql.compile Sample.company .postgreSQL .whole none
      Sample.ordered).outcome.toOption.map fun st =>
        (st.orderBy.map Sql.Term.text, st.columns.map Sql.Output.text)) =
      some (["a2_.a1_name", "SUBSTR(a2_.a1_name, 2)", "a2_.a1_name", "a1_.id"],
        ["a1_.OBJECT AS a1_", "a1_.id AS a1_id", "a2_.a1_name AS orderbyfield2",
          "SUBSTR(a2_.a1_name, 2) AS orderbyfield3"]) := by
    decide +kernel
  obtain ⟨st, hst, htexts⟩ := Except.exists_of_toOption hcompiled
  obtain ⟨horder, hcolumns⟩ := Prod.mk.inj htexts
  have hvalues : ∀ item ∈ Sample.ordered.select, ∀ v ∈ item.node.values, v.isNaN = false := by
    decide
  have hlinks : (Sample.ordered.tests.filter Sample.company.isLinked).length = 2 := by
    decide +kernel
  have hlength :
      (Sql.Ordering.unselectedKeys Sample.ordered.orderBy Sample.ordered.select).length = 2 := by
    decide +kernel
  obtain ⟨_, selected, _, _, _, hkeys, _⟩ := Sql.compile_sortColumns hst
  obtain ⟨terms, hterms, hsplit⟩ := hkeys rfl hvalues
  rw [hlinks] at hsplit
  exact ⟨hvalues, st, hst, horder, hcolumns, selected, terms, hsplit,
    hterms.length_eq.symm.trans hlength⟩

end ObjectQuery
