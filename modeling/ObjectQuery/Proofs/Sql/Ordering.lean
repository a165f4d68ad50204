import Mathlib
import ObjectQuery.Proofs.Except
import ObjectQuery.Sql.Projection

/-!
# The terms of an order

An order has one term for each node that a query is ordered by and that is no literal, in the order
of the nodes: the identity of a class, and else the expression.
-/

namespace ObjectQuery.Sql.Ordering

/-- Another expression adds its term at the end of the order. -/
lemma terms_addExpr (o : Ordering) (first : Nat) (selected : Bool) (e : Expr) (t : Term) :
    (o.addExpr first selected e t).terms = o.terms ++ [t] := by
  unfold addExpr
  split <;> rfl

/-- A node that is no literal adds its term at the end of the order. -/
lemma terms_addNode {s : Scope} {select : List SelectItem} {first : Nat} {o o' : Ordering}
    {n : Node} (hn : n.isValue = false) (h : addNode s select first o n = .ok o') :
    ∃ t, s.nodeTerm n = .ok t ∧ o'.terms = o.terms ++ [t] := by
  cases n with
  | object c =>
    obtain ⟨t, ht, h⟩ := Except.bind_eq_ok.1 h
    cases h
    exact ⟨t, ht, rfl⟩
  | expr e =>
    have he : e.isValue = false := hn
    simp only [addNode, he] at h
    obtain ⟨t, ht, h⟩ := Except.bind_eq_ok.1 h
    cases h
    exact ⟨t, ht, terms_addExpr o first _ e t⟩

/-- A literal adds nothing to the order. -/
lemma addNode_of_isValue {s : Scope} {select : List SelectItem} {first : Nat} {o : Ordering}
    {n : Node} (hn : n.isValue = true) : addNode s select first o n = .ok o := by
  cases n with
  | object c => cases hn
  | expr e =>
    have he : e.isValue = true := hn
    simp only [addNode, he]
    rfl

/-- All that a node can add: nothing, or its term at the end of the order and perhaps an output
column of that term, with the next number. -/
lemma addNode_cases {s : Scope} {select : List SelectItem} {first : Nat} {o o' : Ordering}
    {n : Node} (h : addNode s select first o n = .ok o') :
    o' = o ∨ ∃ t, s.nodeTerm n = .ok t ∧ o'.terms = o.terms ++ [t] ∧
      (o'.columns = o.columns ∨ o'.columns =
        o.columns ++ [⟨t, some (.plain (columnName (first + o.columns.length)))⟩]) := by
  cases n with
  | object c =>
    obtain ⟨t, ht, h⟩ := Except.bind_eq_ok.1 h
    cases h
    exact .inr ⟨t, ht, rfl, .inl rfl⟩
  | expr e =>
    simp only [addNode] at h
    split at h
    · cases h
      exact .inl rfl
    · obtain ⟨t, ht, h⟩ := Except.bind_eq_ok.1 h
      cases h
      refine .inr ⟨t, ht, terms_addExpr o first _ e t, ?_⟩
      unfold addExpr
      split
      · exact .inl rfl
      · exact .inr rfl

/-- Adding nodes adds the terms of those that are no literals. -/
lemma terms_foldlM {s : Scope} {select : List SelectItem} {first : Nat} {nodes : List Node}
    {o o' : Ordering} (h : nodes.foldlM (addNode s select first) o = .ok o') :
    ∃ terms, o'.terms = o.terms ++ terms ∧
      List.Forall₂ (fun n t => s.nodeTerm n = .ok t) (nodes.filter fun n => !n.isValue) terms := by
  induction nodes generalizing o with
  | nil =>
    cases h
    exact ⟨[], (List.append_nil _).symm, .nil⟩
  | cons n nodes ih =>
    rw [List.foldlM_cons] at h
    obtain ⟨o'', hn, h⟩ := Except.bind_eq_ok.1 h
    obtain ⟨terms, hterms, hall⟩ := ih h
    cases hvalue : n.isValue with
    | true =>
      rw [addNode_of_isValue hvalue] at hn
      cases hn
      exact ⟨terms, hterms, by simpa [hvalue] using hall⟩
    | false =>
      obtain ⟨t, ht, ho⟩ := terms_addNode hvalue hn
      refine ⟨t :: terms, ?_, ?_⟩
      · rw [hterms, ho, List.append_assoc]
        rfl
      · rw [List.filter_cons_of_pos (by simp [hvalue])]
        exact .cons ht hall

/-- The order of a query has a term for each node it is ordered by, literals apart. -/
lemma terms_ofNodes {s : Scope} {orderBy : List Node} {select : List SelectItem} {first : Nat}
    {o : Ordering} (h : ofNodes s orderBy select first = .ok o) :
    List.Forall₂ (fun n t => s.nodeTerm n = .ok t)
      ((nodes orderBy select).filter fun n => !n.isValue) o.terms := by
  obtain ⟨terms, hterms, hall⟩ := terms_foldlM h
  rw [hterms]
  exact hall

end ObjectQuery.Sql.Ordering
