import Mathlib
import ObjectQuery.Proofs.Except
import ObjectQuery.Query.Basic

/-!
# Edits

A query is built from the empty one by edits and copies. Along the way every alias is given to a
source or to a selected class, so the aliases of a built query never name anything else.
-/

namespace ObjectQuery

/-- A change of a query. -/
inductive Edit where
  | addSource (s : Source)
  | addSourceAs (s : Source) (aliasName : String)
  | addSelect (n : Node)
  | addSelectAs (n : Node) (aliasName : String)
  | setConstraint (c : Constraint)
  | clearConstraint
  | addGroupBy (n : Node)
  | addOrderBy (n : Node)
  | setDistinct (distinct : Bool)

namespace Edit

/-- The query after the change. -/
def apply (q : Query) : Edit → Query
  | addSource s => q.addSource s
  | addSourceAs s aliasName => q.addSourceAs s aliasName
  | addSelect n => q.addSelect n
  | addSelectAs n aliasName => q.addSelectAs n aliasName
  | setConstraint c => q.setConstraint c
  | clearConstraint => q.clearConstraint
  | addGroupBy n => q.addGroupBy n
  | addOrderBy n => q.addOrderBy n
  | setDistinct distinct => q.setDistinct distinct

end Edit

namespace Query

/-- The query comes from the empty one by edits and copies. -/
inductive Built : Query → Prop where
  | empty (id : NodeId) : Built (.empty id)
  | edit {q : Query} (e : Edit) : Built q → Built (e.apply q)
  | copy {q : Query} (id : NodeId) : Built q → Built (q.copy id)

lemma Built.edits {q : Query} (h : q.Built) (es : List Edit) : (es.foldl Edit.apply q).Built := by
  induction es generalizing q with
  | nil => exact h
  | cons e es ih => exact ih (.edit e h)

/-- The query has a source of that identity. -/
def HasSource (q : Query) (n : NodeId) : Prop :=
  n ∈ q.sources.map Source.id

/-- The query selects a class of that identity. -/
def SelectsClass (q : Query) (n : NodeId) : Prop :=
  ∃ item ∈ q.select, ∃ c : ClassNode, item.node = .object c ∧ c.id = n

/-- Every class that is selected is a source as well. -/
def SelectsSources (q : Query) : Prop :=
  ∀ n, q.SelectsClass n → q.HasSource n

/-- Only sources and selected classes have an alias. -/
def AliasesUsed (q : Query) : Prop :=
  ∀ e ∈ q.aliases, q.HasSource e.1 ∨ q.SelectsClass e.1

/-- Adding a source under an alias uses the alias. -/
lemma AliasesUsed.addSourceAs {q : Query} (h : q.AliasesUsed) (s : Source) (aliasName : String) :
    (q.addSourceAs s aliasName).AliasesUsed := by
  intro e he
  rcases List.mem_cons.1 he with rfl | he
  · exact .inl (by simp [HasSource, Query.addSourceAs])
  · rcases h e he with hs | hc
    · refine .inl (List.map_subset _ ?_ hs)
      exact List.subset_append_left _ _
    · exact .inr hc

/-- Appending an item to the select list leaves the use of the aliases. -/
lemma AliasesUsed.addItem {q : Query} (h : q.AliasesUsed) (n : Node) (aliasName : String) :
    (q.addItem n aliasName).AliasesUsed := by
  intro e he
  rcases h e he with hs | ⟨item, hi, hc⟩
  · exact .inl hs
  · exact .inr ⟨item, List.mem_append_left _ hi, hc⟩

/-- An alias for a class that is selected at once is used. -/
lemma AliasesUsed.addClass {q : Query} (h : q.AliasesUsed) (c : ClassNode)
    (given aliasName : String) :
    ((q.setAlias c.id given).addItem (.object c) aliasName).AliasesUsed := by
  intro e he
  rcases List.mem_cons.1 he with rfl | he
  · exact .inr ⟨⟨.object c, aliasName⟩, by simp [Query.addItem], c, rfl, rfl⟩
  · exact h.addItem (.object c) aliasName e he

/-- An edit leaves no alias unused. -/
lemma AliasesUsed.edit {q : Query} (h : q.AliasesUsed) (e : Edit) : (e.apply q).AliasesUsed := by
  have hcount : q.countAlias.AliasesUsed := h
  cases e with
  | addSource s => exact hcount.addSourceAs s q.nextAlias
  | addSourceAs s aliasName => exact h.addSourceAs s aliasName
  | addSelect n =>
    cases n with
    | object c =>
      simp only [Edit.apply, Query.addSelect]
      split
      · rename_i aliasName _
        exact h.addItem (.object c) aliasName
      · exact hcount.addClass c q.nextAlias q.nextAlias
    | expr e => exact hcount.addItem (.expr e) q.nextAlias
  | addSelectAs n aliasName =>
    cases n with
    | object c => exact h.addClass c aliasName aliasName
    | expr e => exact h.addItem (.expr e) aliasName
  | setConstraint c => exact h
  | clearConstraint => exact h
  | addGroupBy n => exact h
  | addOrderBy n => exact h
  | setDistinct distinct => exact h

/-- A built query has no alias without a source or a selected class. -/
lemma Built.aliasesUsed {q : Query} (h : q.Built) : q.AliasesUsed := by
  induction h with
  | empty id => exact fun e he => by cases he
  | edit e _ ih => exact ih.edit e
  | copy id _ ih => exact ih

/-- What has an alias in a built query that selects from its sources only is a source. -/
lemma Built.hasSource_of_lookup {q : Query} (h : q.Built) (hs : q.SelectsSources) {n : NodeId}
    {aliasName : String} (hn : q.aliases.lookup n = some aliasName) : q.HasSource n := by
  rcases h.aliasesUsed _ (List.mem_of_lookup_eq_some hn) with hsource | hclass
  · exact hsource
  · exact hs n hclass

end Query

namespace Sample

/-- The employees of a company. -/
def employee : ClassNode :=
  ⟨⟨1⟩, .single "Employee"⟩

/-- The query for all employees. -/
def employees : Query :=
  Edit.apply (Edit.apply (.empty ⟨0⟩) (.addSource (.object employee)))
    (.addSelect (.object employee))

/-- Employees that are projects as well, of which there are two tables to join. -/
def both : ClassNode :=
  ⟨⟨1⟩, ⟨["Employee", "Project"], by unfold Ascending; decide +kernel, by decide⟩⟩

/-- The query for the objects in both tables. -/
def joined : Query :=
  Edit.apply (Edit.apply (.empty ⟨0⟩) (.addSource (.object both))) (.addSelect (.object both))

end Sample

end ObjectQuery
