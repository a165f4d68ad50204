import Mathlib
import ObjectQuery.Proofs.Except
import ObjectQuery.Proofs.Query.Aliases

/-!
# Aliases of selected items

An expression gets a new alias when it is selected, which stays that of no source and no class
(`Generated.expressionsNumbered`). So the items of a query that names no alias have different ones if
no class is selected twice (`pairwise_itemAlias`).
-/

namespace ObjectQuery

/-- The class of a node. -/
def Node.class? : Node → Option ClassNode
  | .object c => some c
  | .expr _ => none

namespace Query

/-- The classes that a query selects. -/
def selectedClasses (q : Query) : List ClassNode :=
  q.select.filterMap (·.node.class?)

/-- The alias of an item that is no class. -/
def expressionAlias? (item : SelectItem) : Option String :=
  match item.node with
  | .object _ => none
  | .expr _ => some item.aliasName

/-- The aliases of the expressions that a query selects. -/
def expressionAliases (q : Query) : List String :=
  q.select.filterMap expressionAlias?

/-- Every selected expression has a made-up alias of its own, which is that of no source and no
class. -/
structure ExpressionsNumbered (q : Query) : Prop where
  made : ∀ a ∈ q.expressionAliases, ∃ n ≤ q.aliasCount, a = madeAlias n
  nodup : q.expressionAliases.Nodup
  apart : ∀ a ∈ q.expressionAliases, a ∉ q.aliases.map Prod.snd

lemma nextAlias_notMem {q : Query} {as : List String}
    (h : ∀ a ∈ as, ∃ n ≤ q.aliasCount, a = madeAlias n) : q.nextAlias ∉ as := by
  intro hmem
  obtain ⟨n, hn, hname⟩ := h _ hmem
  have hnext : q.aliasCount + 1 = n := madeAlias_injective hname
  omega

namespace ExpressionsNumbered

variable {q : Query}

lemma countAlias (h : q.ExpressionsNumbered) : q.countAlias.ExpressionsNumbered where
  made a ha := by
    obtain ⟨n, hn, hname⟩ := h.made a ha
    exact ⟨n, Nat.le_succ_of_le hn, hname⟩
  nodup := h.nodup
  apart := h.apart

/-- The next alias is that of no expression. -/
lemma setAlias (h : q.ExpressionsNumbered) (n : NodeId) :
    (q.countAlias.setAlias n q.nextAlias).ExpressionsNumbered where
  made := h.countAlias.made
  nodup := h.nodup
  apart a ha hmem := by
    rcases List.mem_cons.1 hmem with rfl | hmem
    · exact nextAlias_notMem h.made ha
    · exact h.apart a ha hmem

lemma addObject (h : q.ExpressionsNumbered) (c : ClassNode) (a : String) :
    (q.addItem (.object c) a).ExpressionsNumbered := by
  have haliases : (q.addItem (.object c) a).expressionAliases = q.expressionAliases := by
    simp [expressionAliases, addItem, expressionAlias?]
  exact ⟨haliases ▸ h.made, haliases ▸ h.nodup, haliases ▸ h.apart⟩

lemma addExpr (h : q.ExpressionsNumbered) (hq : q.AliasesMade) (e : Expr) :
    (q.countAlias.addItem (.expr e) q.nextAlias).ExpressionsNumbered := by
  have haliases : (q.countAlias.addItem (.expr e) q.nextAlias).expressionAliases =
      q.expressionAliases ++ [q.nextAlias] := by
    simp [expressionAliases, addItem, expressionAlias?, Query.countAlias]
  constructor
  · rw [haliases]
    exact List.forall_mem_append.2
      ⟨h.countAlias.made, List.forall_mem_singleton.2 ⟨q.aliasCount + 1, le_rfl, rfl⟩⟩
  · rw [haliases]
    refine List.nodup_append.2 ⟨h.nodup, List.nodup_singleton _, ?_⟩
    rintro a ha b hb rfl
    rw [List.mem_singleton.1 hb] at ha
    exact nextAlias_notMem h.made ha
  · rw [haliases]
    exact List.forall_mem_append.2
      ⟨h.apart, List.forall_mem_singleton.2 (nextAlias_notMem hq.made)⟩

lemma edit (h : q.ExpressionsNumbered) (hq : q.AliasesMade) {e : Edit} (he : e.isNamed = false) :
    (e.apply q).ExpressionsNumbered := by
  cases e with
  | addSource s => exact ⟨(h.setAlias s.id).made, h.nodup, (h.setAlias s.id).apart⟩
  | addSourceAs => cases he
  | addSelect node =>
    cases node with
    | object c =>
      simp only [Edit.apply, Query.addSelect]
      split
      · exact h.addObject c _
      · exact (h.setAlias c.id).addObject c _
    | expr e => exact h.addExpr hq e
  | addSelectAs => cases he
  | setConstraint | clearConstraint | addGroupBy | addOrderBy | setDistinct =>
    exact ⟨h.made, h.nodup, h.apart⟩

end ExpressionsNumbered

/-- A query that names no alias has made up one for each expression that it selects. -/
lemma Generated.expressionsNumbered {q : Query} (h : q.Generated) : q.ExpressionsNumbered := by
  induction h with
  | empty id => exact ⟨nofun, .nil, nofun⟩
  | edit e he hq ih => exact ih.edit hq.aliasesMade he
  | copy id _ ih => exact ⟨ih.made, ih.nodup, ih.apart⟩

/-- The alias that starts the names of the columns of an item: that of the class, or of the
expression. -/
def itemAlias? (q : Query) (item : SelectItem) : Option String :=
  match item.node with
  | .object c => q.alias? c.id
  | .expr _ => some item.aliasName

/-- If no class is selected twice, no two items have one alias. -/
lemma pairwise_itemAlias {q : Query} (hq : q.Generated)
    (honce : (q.selectedClasses.map ClassNode.id).Nodup) :
    q.select.Pairwise fun i j => ∀ a, q.itemAlias? i = some a → q.itemAlias? j ≠ some a := by
  have hmade := hq.aliasesMade
  have hnumbered := hq.expressionsNumbered
  have hapart : ∀ c item e a, q.alias? c = some a → item ∈ q.select → item.node = .expr e →
      item.aliasName ≠ a := by
    rintro c item e a ha hitem hnode rfl
    have hmem : item.aliasName ∈ q.expressionAliases :=
      List.mem_filterMap.2 ⟨item, hitem, by rw [expressionAlias?, hnode]⟩
    exact hnumbered.apart _ hmem (List.mem_map_of_mem (List.mem_of_lookup_eq_some ha))
  have hclasses := List.pairwise_filterMap.1 (List.pairwise_map.1 honce)
  have hexprs := List.pairwise_filterMap.1 hnumbered.nodup
  refine (hclasses.and hexprs).imp_of_mem fun {i j} hi hj ⟨hclass, hexpr⟩ a ha ha' => ?_
  unfold itemAlias? at ha ha'
  cases hnode : i.node with
  | object c =>
    rw [hnode] at ha
    cases hnode' : j.node with
    | object d =>
      rw [hnode'] at ha'
      have hid := hmade.lookup_inj ha ha'
      exact hclass c (by rw [hnode]; rfl) d (by rw [hnode']; rfl) hid
    | expr e =>
      rw [hnode'] at ha'
      exact hapart c.id j e a ha hj hnode' (Option.some.inj ha')
  | expr e =>
    rw [hnode] at ha
    cases hnode' : j.node with
    | object d =>
      rw [hnode'] at ha'
      exact hapart d.id i e a ha' hi hnode (Option.some.inj ha)
    | expr f =>
      rw [hnode'] at ha'
      refine hexpr i.aliasName (by rw [expressionAlias?, hnode]) j.aliasName
        (by rw [expressionAlias?, hnode']) ?_
      exact Option.some.inj (ha.trans ha'.symm)

end Query

end ObjectQuery
