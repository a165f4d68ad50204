import Mathlib
import ObjectQuery.Proofs.Model.Fields
import ObjectQuery.Proofs.Query.WellBuilt
import ObjectQuery.Proofs.Sql.Compilation

/-!
# Resolution of names

A scope resolves a vocabulary if it finds whatever the vocabulary mentions, or fails to for reasons
of a kind (`Scope.Resolves`). Then all that is made of the vocabulary compiles or fails for such
reasons, and so does a query if the scopes of all its levels resolve what the levels mention
(`failsOnly_compile`).
-/

namespace ObjectQuery

open Except (FailsOnly)

namespace Constraint

/-- The relationship that a test is of, with what it asks. -/
def relationship? : Constraint → Option (Reference × Sql.RelationshipTest)
  | .contains r op target => some (r, .holds op target)
  | .referenceNull r op => some (r, .null op)
  | _ => none

lemma contains_of_relationship? {test : Constraint} {r : Reference} {op : Containment}
    {target : ObjectTarget} (h : test.relationship? = some (r, .holds op target)) :
    test = .contains r op target := by
  cases test with
  | contains r op target =>
    cases h
    rfl
  | _ => cases h

lemma Of.relationship {v : Vocabulary} {test : Constraint} (h : test.Of v)
    {r : Reference} {t : Sql.RelationshipTest} (ht : test.relationship? = some (r, t)) :
    v.relationship r t := by
  cases test with
  | contains r op target =>
    cases ht
    exact h.1
  | referenceNull r op =>
    cases ht
    exact h
  | _ => cases ht

lemma Of.target {v : Vocabulary} {test : Constraint} (h : test.Of v) {r : Reference}
    {op : Containment} {target : ObjectTarget}
    (ht : test.relationship? = some (r, .holds op target)) : target.Of v := by
  rw [contains_of_relationship? ht] at h
  exact h.2

end Constraint

namespace Sql

/-- What the vocabulary mentions is found, or is not for a reason of the kind, and so are the
identities of the objects among its values. -/
structure Scope.Resolves (s : Scope) (v : Vocabulary) (P : Failure → Prop) : Prop where
  column : ∀ c, v.column c → FailsOnly P (s.tableOf c.source c.name)
  bare : ∀ op, v.bare op → op ≠ .count → P (.misuse (.operandMissing op))
  object : ∀ c, v.object c → FailsOnly P (s.aliasOf c.id)
  fields : ∀ c, v.object c → FailsOnly P (s.model.fields c.type)
  field : ∀ c, v.object c → ∀ fields, s.model.fields c.type = .ok fields →
    ∀ f ∈ fields.values, FailsOnly P (s.tableOf c.id f.name)
  stored : ∀ o, v.value (.object o) → FailsOnly P o.storedId

namespace Scope.Resolves

variable {s : Scope} {v : Vocabulary} {P : Failure → Prop}

lemma literal (hs : s.Resolves v P) {value : Value} (h : v.value value) :
    FailsOnly P (s.platform.literal value) := by
  cases value with
  | object o => exact (hs.stored o h).bind fun _ _ => .ok
  | _ => exact .ok

lemma term (hs : s.Resolves v P) {e : Expr} (h : e.Of v) : FailsOnly P (s.term e) := by
  induction e with
  | column c => exact ((hs.column c h).bind fun _ _ => .ok).bind fun _ _ => .ok
  | arithmetic op l r ihl ihr =>
    exact (ihl h.1).bind fun _ _ => (ihr h.2).bind fun _ _ => .ok
  | suffix b start ihb ihs =>
    exact (ihb h.1).bind fun _ _ => (ihs h.2).bind fun _ _ => .ok
  | substring b start n ihb ihs ihn =>
    exact (ihb h.1).bind fun _ _ => (ihs h.2.1).bind fun _ _ => (ihn h.2.2).bind fun _ _ => .ok
  | indexOf haystack needle ihh ihn =>
    exact (ihh h.1).bind fun _ _ => (ihn h.2).bind fun _ _ => .ok
  | aggregate op e ih =>
    cases op with
    | count => exact .ok
    | _ => exact (ih h).bind fun _ _ => .ok
  | bareAggregate op =>
    cases op with
    | count => exact .ok
    | _ => exact .error (hs.bare _ h nofun)
  | value w => exact (hs.literal h).bind fun _ _ => .ok
  | cast e t ih => exact (ih h).bind fun _ _ => .ok

lemma identity (hs : s.Resolves v P) {c : ClassNode} (h : v.object c) :
    FailsOnly P (s.identity c) :=
  (hs.object c h).bind fun _ _ => .ok

lemma nodeTerm (hs : s.Resolves v P) {n : Node} (h : n.Of v) : FailsOnly P (s.nodeTerm n) := by
  cases n with
  | object c => exact hs.identity h
  | expr e => exact hs.term h

lemma targetTerm (hs : s.Resolves v P) {target : ObjectTarget} (h : target.Of v) :
    FailsOnly P (s.targetTerm target) := by
  cases target with
  | node c => exact hs.identity h
  | stored o => exact (hs.stored o h).bind fun _ _ => .ok

lemma comparison (hs : s.Resolves v P) {l r : Expr} {op : Comparison} (hl : l.Of v) (hr : r.Of v) :
    FailsOnly P (s.comparison l op r) :=
  (hs.term hl).bind fun _ _ => (hs.term hr).bind fun _ _ => .ok

lemma bag (hs : s.Resolves v P) {n : Node} {op : Membership} {values : List Value} (h : n.Of v)
    (hvalues : ∀ w ∈ values, v.value w) : FailsOnly P (s.bag n op values) := by
  refine (hs.nodeTerm h).bind fun left _ => Except.FailsOnly.bind ?_ fun members _ => ?_
  · refine .foldlM fun w hw _ => ?_
    exact (hs.literal (hvalues w (List.mem_filter.1 hw).1)).bind fun _ _ => .ok
  · split <;> exact .ok

lemma testReference (hs : s.Resolves v P) {r : Reference} {f : Field} {test : RelationshipTest}
    (htable : FailsOnly P (s.tableOf r.owner.id f.name))
    (hkey : FailsOnly P (foreignKey "reference" f))
    (htarget : ∀ op target, test = .holds op target → target.Of v) :
    FailsOnly P (s.testReference r f test) := by
  refine htable.bind fun table _ => hkey.bind fun column _ => ?_
  cases test with
  | holds op target => exact (hs.targetTerm (htarget op target rfl)).bind fun _ _ => .ok
  | null op => exact .ok

lemma testForeignKey (hs : s.Resolves v P) {r : Reference} {f reverse : Field} {op : Containment}
    {target : ClassNode} (howner : v.object r.owner)
    (hreverse : s.model.reverseField? f = some reverse)
    (hkey : FailsOnly P (foreignKey "reverse reference" reverse))
    (htable : FailsOnly P (s.tableOf target.id reverse.name)) :
    FailsOnly P (s.testForeignKey r f (.holds op (.node target))) := by
  simp only [Scope.testForeignKey, hreverse]
  exact hkey.bind fun _ _ => htable.bind fun _ _ => (hs.identity howner).bind fun _ _ => .ok

lemma testLink (hs : s.Resolves v P) {r : Reference} {f : Field} {links : List FromItem}
    {op : Containment} {target : ObjectTarget} (howner : v.object r.owner) (htarget : target.Of v)
    (hlink : FailsOnly P (s.linkTable r f)) :
    FailsOnly P (s.testLink r f links (.holds op target)) :=
  (hs.targetTerm htarget).bind fun _ _ => hlink.bind fun _ _ =>
    (hs.identity howner).bind fun _ _ => .ok

lemma allColumns (hs : s.Resolves v P) {c : ClassNode} (h : v.object c) {aliasName : String}
    {named : Bool} : FailsOnly P (s.allColumns c aliasName named) := by
  refine ((hs.fields c h).bind fun _ _ => .ok).bind fun columns hcolumns => ?_
  obtain ⟨fields, hfields, hcolumns⟩ := Except.bind_eq_ok.1 hcolumns
  cases hcolumns
  refine Except.FailsOnly.bind (.mapM fun e he => ?_) fun _ _ => .ok
  obtain ⟨f, hf, he⟩ := List.mem_filterMap.1 (SortedMap.mem_of_mem_ofList he)
  obtain ⟨column, _, rfl⟩ := Option.map_eq_some_iff.1 he
  exact (hs.field c h fields hfields f hf).bind fun _ _ => .ok

lemma classColumns (hs : s.Resolves v P) {shape : Shape} {c : ClassNode} (h : v.object c) :
    FailsOnly P (s.classColumns shape c) := by
  refine (hs.object c h).bind fun aliasName _ => ?_
  cases shape with
  | whole | identities => exact .ok
  | derived | columns => exact hs.allColumns h

lemma itemColumns (hs : s.Resolves v P) {shape : Shape} {item : SelectItem} (h : item.node.Of v) :
    FailsOnly P (s.itemColumns shape item) := by
  obtain ⟨n, aliasName⟩ := item
  cases n with
  | object c => exact hs.classColumns h
  | expr e => exact (hs.term h).bind fun _ _ => .ok

lemma columns (hs : s.Resolves v P) {shape : Shape} {items : List SelectItem}
    (h : ∀ item ∈ items, item.node.Of v) : FailsOnly P (s.columns shape items) :=
  Except.FailsOnly.bind (.mapM fun item hitem => hs.itemColumns (h item hitem)) fun _ _ => .ok

lemma groupTerms (hs : s.Resolves v P) {n : Node} (h : n.Of v) : FailsOnly P (s.groupTerms n) := by
  cases n with
  | object c => exact (hs.classColumns h).bind fun _ _ => .ok
  | expr e => exact (hs.term h).bind fun _ _ => .ok

lemma grouping (hs : s.Resolves v P) {nodes : List Node} (h : ∀ n ∈ nodes, n.Of v) :
    FailsOnly P (s.grouping nodes) :=
  Except.FailsOnly.bind (.mapM fun n hn => hs.groupTerms (h n hn)) fun _ _ => .ok

lemma ofNodes (hs : s.Resolves v P) {q : Query} {first : Nat} (h : q.Of v) :
    FailsOnly P (Ordering.ofNodes s q.orderBy q.select first) := by
  refine .foldlM fun n hn o => ?_
  have hn : n.Of v := by
    rcases List.mem_append.1 hn with hn | hn
    · exact h.orderBy n hn
    · obtain ⟨item, hitem, rfl⟩ := List.mem_map.1 hn
      exact h.select item hitem
  cases n with
  | object c => exact (hs.identity hn).bind fun _ _ => .ok
  | expr e =>
    simp only [Ordering.addNode]
    split
    · exact .ok
    · exact (hs.term hn).bind fun _ _ => .ok

lemma assemble (hs : s.Resolves v P) {shape : Shape} {q : Query} {entered : Entered}
    {conditions : List Condition} {links : List FromItem} (h : q.Of v) :
    FailsOnly P (assemble s shape q entered conditions links) := by
  have hrest (order : Ordering) : FailsOnly P (do
      let columns ← s.columns shape q.select
      let groupBy ← s.grouping q.groupBy
      return (⟨q.distinct, columns ++ order.columns, entered.items ++ links,
        entered.joins ++ conditions, groupBy, order.terms⟩ : Statement)) :=
    (hs.columns h.select).bind fun _ _ => (hs.grouping h.groupBy).bind fun _ _ => .ok
  unfold Sql.assemble
  split
  · exact (hs.ofNodes h).bind fun order _ => hrest order
  · rw [pure_bind]
    exact hrest .none

lemma seek (hs : s.Resolves v P) {start : Option Seek}
    (h : ∀ x ∈ start, x.key.Of v ∧ v.value x.value) : FailsOnly P (Seek.conditions s start) := by
  cases start with
  | none => exact .ok
  | some start =>
    obtain ⟨hkey, hvalue⟩ := h start rfl
    exact (hs.comparison hkey (r := .value start.value) hvalue).bind fun _ _ => .ok

end Scope.Resolves

section

variable {s : Scope} {P : Failure → Prop}

lemma failsOnly_enter {sources : List Source}
    (h : ∀ source ∈ sources, FailsOnly P (enterSource s source).outcome) :
    FailsOnly P (enter s sources).outcome := by
  induction sources with
  | nil => exact .ok
  | cons source sources ih =>
    obtain ⟨hsource, hsources⟩ := List.forall_mem_cons.1 h
    simp only [enter, Traced.outcome_bind, Traced.outcome_pure]
    exact hsource.bind fun _ _ => (ih hsources).bind fun _ _ => .ok

mutual

/-- A constraint fails for the reasons that its tests fail for. -/
lemma failsOnly_condition {c : Constraint} (links : List FromItem)
    (h : ∀ test ∈ c.tests, ∀ links, FailsOnly P (condition s links test).outcome) :
    FailsOnly P (condition s links c).outcome := by
  match c with
  | .group op cs =>
    simp only [condition, Traced.outcome_bind, Traced.outcome_pure]
    exact (failsOnly_members links h).bind fun _ _ => .ok
  | .compare .. | .nullTest .. | .memberOf .. | .identity .. | .contains .. | .referenceNull ..
  | .bag .. => exact h _ (List.mem_singleton_self _) links
termination_by structural c

lemma failsOnly_members {cs : List Constraint} (links : List FromItem)
    (h : ∀ test ∈ Constraint.memberTests cs, ∀ links,
      FailsOnly P (condition s links test).outcome) :
    FailsOnly P (memberConditions s links cs).outcome := by
  match cs with
  | [] => exact .ok
  | c :: cs =>
    obtain ⟨hc, hcs⟩ := List.forall_mem_append.1 h
    simp only [memberConditions, Traced.outcome_bind, Traced.outcome_pure]
    exact (failsOnly_condition links hc).bind fun first _ =>
      (failsOnly_members first.2 hcs).bind fun _ _ => .ok
termination_by structural cs

end

lemma failsOnly_root {q : Query}
    (h : ∀ test ∈ q.tests, ∀ links, FailsOnly P (condition s links test).outcome) :
    FailsOnly P (rootCondition s q.constraint).outcome := by
  unfold Query.tests at h
  cases hconstraint : q.constraint with
  | none => exact .ok
  | some c =>
    rw [hconstraint] at h
    simp only [rootCondition, Traced.outcome_bind, Traced.outcome_pure]
    exact (failsOnly_condition [] h).bind fun _ _ => .ok

end

/-- A test fails for reasons of the kind if what it mentions is resolved and the query that it looks
in and the relationship that it is of fail for such reasons. -/
lemma Scope.Resolves.test {s : Scope} {v : Vocabulary} {P : Failure → Prop} (hs : s.Resolves v P)
    {test : Constraint} (h : test.Of v) (hgroup : test.isGroup = false)
    (hoperand : ∀ inner ∈ test.operand?,
      FailsOnly P (compile s.model s.platform .identities none inner).outcome)
    (hrelationship : ∀ r t, test.relationship? = some (r, t) → ∀ links,
      FailsOnly P (s.testRelationship r links t)) (links : List FromItem) :
    FailsOnly P (condition s links test).outcome := by
  cases test with
  | group op members => cases hgroup
  | compare l op r =>
    simp only [condition, Traced.outcome_bind, Traced.outcome_liftM, Traced.outcome_pure]
    exact (hs.comparison h.1 h.2).bind fun _ _ => .ok
  | nullTest e op =>
    simp only [condition, Traced.outcome_bind, Traced.outcome_liftM, Traced.outcome_pure]
    exact (hs.term h).bind fun _ _ => .ok
  | memberOf left op q =>
    simp only [condition, Traced.outcome_bind, Traced.outcome_liftM, Traced.outcome_pure]
    exact (hs.nodeTerm h).bind fun _ _ => (hoperand q rfl).bind fun _ _ => .ok
  | identity left op right =>
    simp only [condition, Traced.outcome_bind, Traced.outcome_liftM, Traced.outcome_pure]
    exact (hs.identity h.1).bind fun _ _ => (hs.targetTerm h.2).bind fun _ _ => .ok
  | contains r op target => exact hrelationship r _ rfl links
  | referenceNull r op => exact hrelationship r _ rfl links
  | bag n op values =>
    simp only [condition, Traced.outcome_bind, Traced.outcome_liftM, Traced.outcome_pure]
    exact (hs.bag h.1 h.2).bind fun _ _ => .ok

/-- The scope of the query resolves what the query mentions: the aliases and types of its sources,
and with the sources entered the vocabulary of its clauses and the relationships of its tests. -/
structure QueryResolves (m : Model) (p : Platform) (P : Failure → Prop) (v : Vocabulary)
    (q : Query) : Prop where
  of : q.Of v
  aliases : ∀ source ∈ q.sources, FailsOnly P ((Scope.ofQuery m p q).aliasOf source.id)
  components : ∀ c, .object c ∈ q.sources → FailsOnly P (m.components c.type)
  entered : ∀ e, (enter (.ofQuery m p q) q.sources).outcome = .ok e →
    ((Scope.ofQuery m p q).enteredWith e).Resolves v P ∧
    ∀ test ∈ q.tests, ∀ r t, test.relationship? = some (r, t) → ∀ links,
      FailsOnly P (((Scope.ofQuery m p q).enteredWith e).testRelationship r links t)

/-- A query compiles or fails for reasons of a kind, if the scopes of all its levels resolve what
the levels mention. -/
theorem failsOnly_compile {m : Model} {p : Platform} {shape : Shape} {seek : Option Seek}
    {q : Query} {P : Failure → Prop} {v : Query → Vocabulary}
    (h : ∀ level, q.Level level → QueryResolves m p P (v level) level)
    (hseek : ∀ start ∈ seek, start.key.Of (v q) ∧ (v q).value start.value) :
    FailsOnly P (compile m p shape seek q).outcome := by
  induction q using Query.nested_induction generalizing shape seek with
  | step q ih =>
    have hinner : ∀ inner ∈ q.nested, ∀ shape,
        FailsOnly P (compile m p shape none inner).outcome := fun inner hinner shape =>
      ih inner hinner (fun level hlevel => h level (hlevel.of_nested hinner)) fun _ hnone => by
        cases hnone
    have hq := h q .self
    have henter : FailsOnly P (enter (.ofQuery m p q) q.sources).outcome := by
      refine failsOnly_enter fun source hsource => ?_
      cases source with
      | object c =>
        exact (hq.aliases _ hsource).bind fun _ _ => (hq.components c hsource).bind fun _ _ => .ok
      | query inner =>
        simp only [enterSource, Traced.outcome_bind, Traced.outcome_liftM, Traced.outcome_pure]
        exact (hq.aliases _ hsource).bind fun _ _ =>
          (hinner inner (Query.mem_nested_of_source hsource) .derived).bind fun _ _ => .ok
    have hrest : ∀ e, (enter (.ofQuery m p q) q.sources).outcome = .ok e → ∀ test ∈ q.tests,
        ∀ links, FailsOnly P
          (condition ((Scope.ofQuery m p q).enteredWith e) links test).outcome := by
      intro e he test htest
      obtain ⟨hs, hrelationships⟩ := hq.entered e he
      have hoperand : ∀ inner ∈ test.operand?,
          FailsOnly P (compile m p .identities none inner).outcome := fun inner hoperand =>
        hinner inner (Query.mem_nested_of_operand htest hoperand) .identities
      exact hs.test (hq.of.tests test htest) (Query.isGroup_of_mem_tests htest) hoperand
        (hrelationships test htest)
    -- the steps of the compilation in turn, each in the scope that the sources left
    obtain ⟨id, sources, aliases, select, constraint, groupBy, orderBy, distinct, count⟩ := q
    simp only [compile, Traced.outcome_bind, Traced.outcome_liftM, Traced.outcome_report,
      Traced.outcome_pure]
    refine henter.bind fun e he => ?_
    obtain ⟨hs, _⟩ := hq.entered e he
    refine (failsOnly_root (hrest e he)).bind fun conditions _ => ?_
    refine (hs.seek hseek).bind fun _ _ => ?_
    exact (hs.assemble hq.of).bind fun _ _ => .bind .ok fun _ _ => .ok

end Sql

end ObjectQuery
