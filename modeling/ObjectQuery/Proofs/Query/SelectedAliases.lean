import Mathlib
import ObjectQuery.Proofs.Model.Accepted
import ObjectQuery.Proofs.Query.Edit
import ObjectQuery.Proofs.Sql.Sources
import ObjectQuery.Sql.Compilation

/-!
# Aliases of selected classes

A class is selected under the alias that it has by then, and its item keeps that alias, while later
edits may give the class another one: to add it as a source always does, and to select it under an
alias. The columns of the class are named by the last alias given to it (`alias?_edits`), so the item
reports the right one just if the last edit to give one gives the same again (`selected_alias_iff`).
-/

namespace ObjectQuery

namespace Edit

/-- The node that the edit selects. -/
def selected? : Edit → Option Node
  | addSelect n | addSelectAs n _ => some n
  | _ => none

/-- The alias that the edit of the query gives to a source or a class: a class that is selected gets
one made up only if it has none. -/
def given? (q : Query) (n : NodeId) : Edit → Option String
  | addSource s => if s.id = n then some q.nextAlias else none
  | addSourceAs s aliasName => if s.id = n then some aliasName else none
  | addSelect (.object c) => if c.id = n ∧ q.alias? n = none then some q.nextAlias else none
  | addSelectAs (.object c) aliasName => if c.id = n then some aliasName else none
  | _ => none

/-- The alias that the last of the edits to give one gives to a source or a class. -/
def lastGiven? (n : NodeId) : Query → List Edit → Option String
  | _, [] => none
  | q, e :: es => (lastGiven? n (e.apply q) es).or (e.given? q n)

end Edit

namespace Query

/-- The query that edits make of the empty one. -/
def ofEdits (id : NodeId) (es : List Edit) : Query :=
  es.foldl Edit.apply (.empty id)

/-- One more edit comes last. -/
lemma ofEdits_append_singleton (id : NodeId) (es : List Edit) (e : Edit) :
    ofEdits id (es ++ [e]) = e.apply (ofEdits id es) := by
  simp [ofEdits]

lemma ofEdits_append (id : NodeId) (before after : List Edit) :
    ofEdits id (before ++ after) = after.foldl Edit.apply (ofEdits id before) :=
  List.foldl_append

/-- An alias that is given takes the place of the one before. -/
lemma alias?_setAlias (q : Query) (k : NodeId) (aliasName : String) (n : NodeId) :
    (q.setAlias k aliasName).alias? n =
      (if k = n then some aliasName else none).or (q.alias? n) := by
  unfold alias? setAlias
  by_cases h : k = n
  · subst h
    simp
  · rw [List.lookup_cons, if_neg h, beq_false_of_ne (Ne.symm h)]
    rfl

/-- After an edit a source or a class has the alias that the edit gives to it, or else the one from
before. -/
lemma alias?_apply (q : Query) (e : Edit) (n : NodeId) :
    (e.apply q).alias? n = (e.given? q n).or (q.alias? n) := by
  cases e with
  | addSource s => exact alias?_setAlias q.countAlias s.id q.nextAlias n
  | addSourceAs s aliasName => exact alias?_setAlias q s.id aliasName n
  | addSelect node =>
    cases node with
    | object c =>
      simp only [Edit.apply, addSelect, Edit.given?]
      cases hc : q.alias? c.id with
      | some a =>
        have hkept : ¬ (c.id = n ∧ q.alias? n = none) := by
          rintro ⟨rfl, hnone⟩
          rw [hc] at hnone
          cases hnone
        rw [if_neg hkept]
        rfl
      | none =>
        refine (alias?_setAlias q.countAlias c.id q.nextAlias n).trans ?_
        congr 1
        refine if_congr ⟨fun h => ⟨h, h ▸ hc⟩, And.left⟩ rfl rfl
    | expr e => rfl
  | addSelectAs node aliasName =>
    cases node with
    | object c => exact alias?_setAlias q c.id aliasName n
    | expr e => rfl
  | setConstraint | clearConstraint | addGroupBy | addOrderBy | setDistinct => rfl

/-- After edits a source or a class has the alias that was given to it last. -/
lemma alias?_edits (q : Query) (es : List Edit) (n : NodeId) :
    (es.foldl Edit.apply q).alias? n = (Edit.lastGiven? n q es).or (q.alias? n) := by
  induction es generalizing q with
  | nil => rfl
  | cons e es ih => rw [List.foldl_cons, ih, alias?_apply, Edit.lastGiven?, Option.or_assoc]

/-- An edit leaves the select list, or appends the node that it selects: a class under the alias that
it has from then on. -/
lemma select_apply_cases (q : Query) (e : Edit) :
    (e.apply q).select = q.select ∨
    ∃ item, (e.apply q).select = q.select ++ [item] ∧ e.selected? = some item.node ∧
      ∀ c, item.node = .object c → (e.apply q).alias? c.id = some item.aliasName := by
  cases e with
  | addSelect node =>
    right
    cases node with
    | object c =>
      simp only [Edit.apply, addSelect]
      cases hc : q.alias? c.id with
      | some a =>
        refine ⟨⟨.object c, a⟩, rfl, rfl, ?_⟩
        rintro _ ⟨⟩
        exact hc
      | none =>
        refine ⟨⟨.object c, q.nextAlias⟩, rfl, rfl, ?_⟩
        rintro _ ⟨⟩
        exact List.lookup_cons_self
    | expr e =>
      refine ⟨⟨.expr e, q.nextAlias⟩, rfl, rfl, ?_⟩
      intro c hc
      cases hc
  | addSelectAs node aliasName =>
    right
    cases node with
    | object c =>
      refine ⟨⟨.object c, aliasName⟩, rfl, rfl, ?_⟩
      rintro _ ⟨⟩
      exact List.lookup_cons_self
    | expr e =>
      refine ⟨⟨.expr e, aliasName⟩, rfl, rfl, ?_⟩
      intro c hc
      cases hc
  | addSource | addSourceAs | setConstraint | clearConstraint | addGroupBy | addOrderBy
    | setDistinct => exact .inl rfl

/-- Every item comes from the edit that selects its node, and a class has the alias of its item right
after that edit. -/
lemma exists_edit_of_select {id : NodeId} {es : List Edit} {i : Nat} {item : SelectItem}
    (hitem : (ofEdits id es).select[i]? = some item) :
    ∃ before e after, es = before ++ e :: after ∧ (ofEdits id before).select.length = i ∧
      e.selected? = some item.node ∧
      ∀ c, item.node = .object c →
        (ofEdits id (before ++ [e])).alias? c.id = some item.aliasName := by
  induction es using List.reverseRecOn with
  | nil => cases hitem
  | append_singleton es e ih =>
    have earlier (h : (ofEdits id es).select[i]? = some item) :
        ∃ before e' after, es ++ [e] = before ++ e' :: after ∧
          (ofEdits id before).select.length = i ∧ e'.selected? = some item.node ∧
          ∀ c, item.node = .object c →
            (ofEdits id (before ++ [e'])).alias? c.id = some item.aliasName := by
      obtain ⟨before, e', after, rfl, hrest⟩ := ih h
      exact ⟨before, e', after ++ [e], by simp, hrest⟩
    rw [ofEdits_append_singleton] at hitem
    rcases select_apply_cases (ofEdits id es) e with hsame | ⟨new, happ, hnode, halias⟩
    · rw [hsame] at hitem
      exact earlier hitem
    · rw [happ] at hitem
      by_cases hi : i < (ofEdits id es).select.length
      · rw [List.getElem?_append_left hi] at hitem
        exact earlier hitem
      · rw [List.getElem?_append_right (Nat.not_lt.1 hi), List.getElem?_singleton] at hitem
        split at hitem
        · rename_i hlast
          cases hitem
          refine ⟨es, e, [], rfl, by omega, hnode, fun c hc => ?_⟩
          rw [ofEdits_append_singleton]
          exact halias c hc
        · cases hitem

/-- The columns of a selected class are named by the alias of the class, whatever its item says. -/
lemma itemColumns_of_alias {s : Sql.Scope} {item : SelectItem} {c : ClassNode} {a : String}
    (hnode : item.node = .object c) (ha : s.aliases.lookup c.id = some a) :
    s.itemColumns .whole item =
      .ok [⟨Sql.Scope.objectColumn a, some (.ofAlias a "")⟩,
        ⟨Sql.Scope.identityColumn a, some (.ofAlias a Field.identityName)⟩] := by
  unfold Sql.Scope.itemColumns
  rw [hnode]
  simp only [Sql.Scope.classColumns, Sql.aliasOf_eq_ok_iff.2 ha]
  rfl

/-- A class in the select list of a query got there by an edit, and right after it the class had the
alias of the item. The columns of the class have the alias that the later edits gave to it last, or
else still that one. So the alias of the class is that of the item just if the last of the later edits
to give it one gave it the same. -/
theorem selected_alias_iff (id : NodeId) (es : List Edit) {i : Nat} {item : SelectItem}
    {c : ClassNode} (hitem : (ofEdits id es).select[i]? = some item)
    (hnode : item.node = .object c) :
    ∃ before e after, es = before ++ e :: after ∧
      (ofEdits id before).select.length = i ∧ e.selected? = some (.object c) ∧
      (ofEdits id (before ++ [e])).alias? c.id = some item.aliasName ∧
      (∃ a, (ofEdits id es).alias? c.id = some a ∧
        a = (Edit.lastGiven? c.id (ofEdits id (before ++ [e])) after).getD item.aliasName ∧
        ∀ s : Sql.Scope, s.aliases = (ofEdits id es).aliases →
          s.itemColumns .whole item =
            .ok [⟨Sql.Scope.objectColumn a, some (.ofAlias a "")⟩,
              ⟨Sql.Scope.identityColumn a, some (.ofAlias a Field.identityName)⟩]) ∧
      ((ofEdits id es).alias? c.id = some item.aliasName ↔
        ∀ a, Edit.lastGiven? c.id (ofEdits id (before ++ [e])) after = some a →
          a = item.aliasName) := by
  obtain ⟨before, e, after, rfl, hlength, hselected, halias⟩ := exists_edit_of_select hitem
  rw [hnode] at hselected
  have hthen := halias c hnode
  have hnow : (ofEdits id (before ++ e :: after)).alias? c.id =
      some ((Edit.lastGiven? c.id (ofEdits id (before ++ [e])) after).getD item.aliasName) := by
    rw [List.append_cons before e after, ofEdits_append, alias?_edits, hthen]
    exact Option.or_some
  refine ⟨before, e, after, rfl, hlength, hselected, hthen, ⟨_, hnow, rfl, ?_⟩, ?_⟩
  · intro s hs
    exact itemColumns_of_alias hnode (hs ▸ hnow)
  · rw [hnow, Option.some.injEq]
    cases Edit.lastGiven? c.id (ofEdits id (before ++ [e])) after <;> simp

end Query

namespace Sample

/-- The employees, selected before they are a source. -/
def selectedFirst : Query :=
  .ofEdits ⟨0⟩ [.addSelect (.object employee), .addSource (.object employee)]

/-- The employees, selected under their alias and then under another one. -/
def selectedTwice : List Edit :=
  [.addSource (.object employee), .addSelect (.object employee),
    .addSelectAs (.object employee) "e", .setDistinct true]

end Sample

/-- A class that is selected before it is a source is selected as `a1_`, and the statement calls it
`a2_`. -/
theorem selected_alias_lost :
    Sample.selectedFirst.select.map SelectItem.aliasName = ["a1_"] ∧
    Sample.selectedFirst.alias? Sample.employee.id = some "a2_" ∧
    (Sql.compile Sample.company .postgreSQL .whole none Sample.selectedFirst).outcome.toOption.map
        Sql.Statement.text =
      some ("SELECT a2_.OBJECT AS a2_, a2_.id AS a2_id FROM Employee AS a2_ " ++
        "ORDER BY a2_.id") := by
  decide +kernel

/-- The class goes by the alias of its second item, as no edit gives it another one. -/
theorem selected_alias_iff_twice :
    ∃ item, (Query.ofEdits ⟨0⟩ Sample.selectedTwice).select[1]? = some item ∧
      item.node = .object Sample.employee ∧ item.aliasName = "e" ∧
      ∃ before e after, Sample.selectedTwice = before ++ e :: after ∧
        (Query.ofEdits ⟨0⟩ before).select.length = 1 ∧
        ((Query.ofEdits ⟨0⟩ Sample.selectedTwice).alias? Sample.employee.id = some item.aliasName ↔
          ∀ a, Edit.lastGiven? Sample.employee.id (.ofEdits ⟨0⟩ (before ++ [e])) after = some a →
            a = item.aliasName) := by
  have hitem : (Query.ofEdits ⟨0⟩ Sample.selectedTwice).select[1]? =
      some ⟨.object Sample.employee, "e"⟩ := rfl
  obtain ⟨before, e, after, hsplit, hlength, _, _, _, hiff⟩ :=
    Query.selected_alias_iff ⟨0⟩ Sample.selectedTwice hitem rfl
  exact ⟨_, hitem, rfl, rfl, before, e, after, hsplit, hlength, hiff⟩

end ObjectQuery
