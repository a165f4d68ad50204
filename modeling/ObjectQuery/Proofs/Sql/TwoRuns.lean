import Mathlib
import ObjectQuery.Proofs.Query.Levels
import ObjectQuery.Proofs.Query.Renaming
import ObjectQuery.Proofs.Query.WellBuilt
import ObjectQuery.Proofs.Sql.Compilation

/-!
# Two runs of the compiler

A query is compiled twice: once as it is, and once with its identities replaced and for a platform
that writes its literals and casts alike. Scopes that give out the same names for the identities
that stand for each other (`Scope.Twin`) make the same terms, conditions and clauses, one function
after the other, and so the two runs end in the same statement or fail for the same reason, up to
the identities in it (`agree_compile`).
-/

namespace ObjectQuery

open Except (Agree)

/-- The types that an expression casts to. -/
def Expr.casts : Expr → List AttributeType
  | .column _ => []
  | .arithmetic _ l r => l.casts ++ r.casts
  | .suffix b s => b.casts ++ s.casts
  | .substring b s n => b.casts ++ s.casts ++ n.casts
  | .indexOf h n => h.casts ++ n.casts
  | .aggregate _ e => e.casts
  | .bareAggregate _ => []
  | .value _ => []
  | .cast e t => t :: e.casts

def Node.casts : Node → List AttributeType
  | .object _ => []
  | .expr e => e.casts

/-- The types that a test casts to, without those of a query that it looks in. -/
def Constraint.casts : Constraint → List AttributeType
  | .compare l _ r => l.casts ++ r.casts
  | .nullTest e _ => e.casts
  | .memberOf n _ _ => n.casts
  | .bag n _ _ => n.casts
  | .group .. | .identity .. | .contains .. | .referenceNull .. => []

/-- The types that the clauses of a query cast to. -/
def Query.casts (q : Query) : List AttributeType :=
  q.select.flatMap (fun item => item.node.casts) ++ q.tests.flatMap Constraint.casts ++
    q.groupBy.flatMap Node.casts ++ q.orderBy.flatMap Node.casts

/-- The platforms write those values and types alike. -/
structure Platform.Alike (p p' : Platform) (values : List Value) (types : List AttributeType) :
    Prop where
  literal : ∀ v ∈ values, p'.literal v = p.literal v
  columnType : ∀ t ∈ types, p'.columnType t = p.columnType t

namespace Platform.Alike

variable {p p' : Platform} {vs ws : List Value} {ts us : List AttributeType}

lemma refl (p : Platform) (vs : List Value) (ts : List AttributeType) : p.Alike p vs ts :=
  ⟨fun _ _ => rfl, fun _ _ => rfl⟩

lemma append_iff : p.Alike p' (vs ++ ws) (ts ++ us) ↔ p.Alike p' vs ts ∧ p.Alike p' ws us := by
  constructor
  · intro h
    obtain ⟨hvs, hws⟩ := List.forall_mem_append.1 h.literal
    obtain ⟨hts, hus⟩ := List.forall_mem_append.1 h.columnType
    exact ⟨⟨hvs, hts⟩, ⟨hws, hus⟩⟩
  · rintro ⟨h, h'⟩
    exact ⟨List.forall_mem_append.2 ⟨h.literal, h'.literal⟩,
      List.forall_mem_append.2 ⟨h.columnType, h'.columnType⟩⟩

lemma append_values_iff :
    p.Alike p' (vs ++ ws) ts ↔ p.Alike p' vs ts ∧ ∀ v ∈ ws, p'.literal v = p.literal v := by
  constructor
  · intro h
    obtain ⟨hvs, hws⟩ := List.forall_mem_append.1 h.literal
    exact ⟨⟨hvs, h.columnType⟩, hws⟩
  · rintro ⟨h, hws⟩
    exact ⟨List.forall_mem_append.2 ⟨h.literal, hws⟩, h.columnType⟩

lemma flatMap {α : Type} {as : List α} {values : α → List Value} {casts : α → List AttributeType}
    (h : p.Alike p' (as.flatMap values) (as.flatMap casts)) {a : α} (ha : a ∈ as) :
    p.Alike p' (values a) (casts a) :=
  ⟨fun v hv => h.literal v (List.mem_flatMap.2 ⟨a, ha, hv⟩),
    fun t ht => h.columnType t (List.mem_flatMap.2 ⟨a, ha, ht⟩)⟩

/-- What is written alike in a query is so in each of its clauses. -/
lemma query {q : Query} (h : p.Alike p' q.values q.casts) :
    (∀ item ∈ q.select, p.Alike p' item.node.values item.node.casts) ∧
    (∀ test ∈ q.tests, p.Alike p' test.values test.casts) ∧
    (∀ n ∈ q.groupBy, p.Alike p' n.values n.casts) ∧
    ∀ n ∈ q.orderBy, p.Alike p' n.values n.casts := by
  obtain ⟨h, horderBy⟩ := append_iff.1 h
  obtain ⟨h, hgroupBy⟩ := append_iff.1 h
  obtain ⟨hselect, htests⟩ := append_iff.1 h
  exact ⟨fun _ => hselect.flatMap, fun _ => htests.flatMap, fun _ => hgroupBy.flatMap,
    fun _ => horderBy.flatMap⟩

end Platform.Alike

namespace Sql

variable {f : NodeId → NodeId} {E : Failure → Failure → Prop}

def RelationshipTest.rename (f : NodeId → NodeId) : RelationshipTest → RelationshipTest
  | .holds op target => .holds op (target.rename f)
  | .null op => .null op

def Ordering.rename (f : NodeId → NodeId) (o : Ordering) : Ordering :=
  { o with unselected := o.unselected.map (Expr.rename f) }

def Entered.rename (f : NodeId → NodeId) (e : Entered) : Entered :=
  { e with places := renameKeys f e.places }

/-- The scopes give out the same names for identities that stand for each other. -/
structure Scope.Twin (f : NodeId → NodeId) (E : Failure → Failure → Prop) (s s' : Scope) :
    Prop where
  injective : Function.Injective f
  refl : ∀ e, E e e
  model : s'.model = s.model
  aliasOf : ∀ n, Agree E Eq (s.aliasOf n) (s'.aliasOf (f n))
  tableOf : ∀ n field, Agree E Eq (s.tableOf n field) (s'.tableOf (f n) field)

namespace Scope.Twin

variable {s s' : Scope}

lemma column (hs : s.Twin f E s') (c : Column) : Agree E Eq (s.column c) (s'.column (c.rename f)) :=
  (hs.tableOf c.source c.name).bind_eq fun _ => .ok rfl

lemma identity (hs : s.Twin f E s') (c : ClassNode) :
    Agree E Eq (s.identity c) (s'.identity (c.rename f)) :=
  (hs.aliasOf c.id).bind_eq fun _ => .ok rfl

lemma literal (hs : s.Twin f E s') {v : Value}
    (h : s'.platform.literal v = s.platform.literal v) :
    Agree E Eq (s.platform.literal v) (s'.platform.literal v) := by
  rw [h]
  exact .refl hs.refl _

lemma term (hs : s.Twin f E s') {e : Expr} (h : s.platform.Alike s'.platform e.values e.casts) :
    Agree E Eq (s.term e) (s'.term (e.rename f)) := by
  induction e with
  | column c => exact (hs.column c).bind_eq fun _ => .ok rfl
  | arithmetic op l r ihl ihr =>
    obtain ⟨hl, hr⟩ := Platform.Alike.append_iff.1 h
    exact (ihl hl).bind_eq fun _ => (ihr hr).bind_eq fun _ => .ok rfl
  | suffix b start ihb ihs =>
    obtain ⟨hb, hstart⟩ := Platform.Alike.append_iff.1 h
    exact (ihb hb).bind_eq fun _ => (ihs hstart).bind_eq fun _ => .ok rfl
  | substring b start n ihb ihs ihn =>
    obtain ⟨h, hn⟩ := Platform.Alike.append_iff.1 h
    obtain ⟨hb, hstart⟩ := Platform.Alike.append_iff.1 h
    exact (ihb hb).bind_eq fun _ => (ihs hstart).bind_eq fun _ => (ihn hn).bind_eq fun _ => .ok rfl
  | indexOf haystack needle ihh ihn =>
    obtain ⟨hh, hn⟩ := Platform.Alike.append_iff.1 h
    exact (ihh hh).bind_eq fun _ => (ihn hn).bind_eq fun _ => .ok rfl
  | aggregate op e ih =>
    cases op with
    | count => exact .ok rfl
    | _ => exact (ih h).bind_eq fun _ => .ok rfl
  | bareAggregate op =>
    cases op with
    | count => exact .ok rfl
    | _ => exact .error (hs.refl _)
  | value v => exact (hs.literal (h.literal v List.mem_cons_self)).bind_eq fun _ => .ok rfl
  | cast e t ih =>
    obtain ⟨htype, hcasts⟩ := List.forall_mem_cons.1 h.columnType
    refine (ih ⟨h.literal, hcasts⟩).bind_eq fun te => .ok ?_
    rw [htype]

lemma nodeTerm (hs : s.Twin f E s') {n : Node}
    (h : s.platform.Alike s'.platform n.values n.casts) :
    Agree E Eq (s.nodeTerm n) (s'.nodeTerm (n.rename f)) := by
  cases n with
  | object c => exact hs.identity c
  | expr e => exact hs.term h

lemma targetTerm (hs : s.Twin f E s') (target : ObjectTarget) :
    Agree E Eq (s.targetTerm target) (s'.targetTerm (target.rename f)) := by
  cases target with
  | node c => exact hs.identity c
  | stored o => exact .refl hs.refl _

lemma comparison (hs : s.Twin f E s') {l r : Expr} (op : Comparison)
    (hl : s.platform.Alike s'.platform l.values l.casts)
    (hr : s.platform.Alike s'.platform r.values r.casts) :
    Agree E Eq (s.comparison l op r) (s'.comparison (l.rename f) op (r.rename f)) :=
  (hs.term hl).bind_eq fun _ => (hs.term hr).bind_eq fun _ => .ok rfl

lemma relationship (hs : s.Twin f E s') (r : Reference) :
    s'.relationship (r.rename f) = s.relationship r := by
  unfold Scope.relationship
  rw [hs.model]
  rfl

lemma testReference (hs : s.Twin f E s') (r : Reference) (g : Field) (test : RelationshipTest) :
    Agree E Eq (s.testReference r g test) (s'.testReference (r.rename f) g (test.rename f)) := by
  refine (hs.tableOf r.owner.id g.name).bind_eq fun table => ?_
  refine (Agree.refl hs.refl (foreignKey "reference" g)).bind_eq fun column => ?_
  cases test with
  | holds op target => exact (hs.targetTerm target).bind_eq fun _ => .ok rfl
  | null op => exact .ok rfl

lemma testForeignKey (hs : s.Twin f E s') (r : Reference) (g : Field) (test : RelationshipTest) :
    Agree E Eq (s.testForeignKey r g test) (s'.testForeignKey (r.rename f) g (test.rename f)) := by
  cases test with
  | null op => exact .error (hs.refl _)
  | holds op target =>
    cases target with
    | stored o => exact .error (hs.refl _)
    | node c =>
      simp only [Scope.testForeignKey, RelationshipTest.rename, ObjectTarget.rename, hs.model]
      split
      · rename_i reverse _
        refine (Agree.refl hs.refl (foreignKey "reverse reference" reverse)).bind_eq fun _ => ?_
        exact (hs.tableOf c.id reverse.name).bind_eq fun _ =>
          (hs.identity r.owner).bind_eq fun _ => .ok rfl
      · exact .error (hs.refl _)

lemma linkTable (hs : s.Twin f E s') (r : Reference) (g : Field) :
    s'.linkTable (r.rename f) g = s.linkTable r g := by
  unfold Scope.linkTable
  rw [hs.model]
  rfl

lemma testLink (hs : s.Twin f E s') (r : Reference) (g : Field) (links : List FromItem)
    (test : RelationshipTest) :
    Agree E Eq (s.testLink r g links test) (s'.testLink (r.rename f) g links (test.rename f)) := by
  cases test with
  | null op => exact .error (hs.refl _)
  | holds op target =>
    refine (hs.targetTerm target).bind_eq fun t => ?_
    rw [hs.linkTable]
    exact (Agree.refl hs.refl _).bind_eq fun _ => (hs.identity r.owner).bind_eq fun _ => .ok rfl

lemma testRelationship (hs : s.Twin f E s') (r : Reference) (links : List FromItem)
    (test : RelationshipTest) :
    Agree E Eq (s.testRelationship r links test)
      (s'.testRelationship (r.rename f) links (test.rename f)) := by
  unfold Scope.testRelationship
  rw [hs.relationship]
  refine (Agree.refl hs.refl _).bind_eq fun found => ?_
  obtain ⟨g, relation⟩ := found
  cases relation with
  | toOne => exact (hs.testReference r g test).bind_eq fun _ => .ok rfl
  | oneToMany => exact (hs.testForeignKey r g test).bind_eq fun _ => .ok rfl
  | manyToMany => exact hs.testLink r g links test

lemma comparable_rename (m : Model) (n : Node) (v : Value) :
    comparable m (n.rename f) v = comparable m n v := by
  cases n with
  | object c => cases v <;> rfl
  | expr e => simp only [Node.rename, comparable, Expr.type?_rename]

/-- The members of a bag are put in the order of their texts, which are the same. -/
lemma members {values : List Value}
    (h : ∀ v ∈ values, s'.platform.literal v = s.platform.literal v) (left : Term) :
    s'.members left values = s.members left values := by
  unfold Scope.members
  refine Except.foldlM_congr (fun v hv _ => ?_) _
  rw [h v hv]

lemma bag (hs : s.Twin f E s') {n : Node} {values : List Value} (op : Membership)
    (h : s.platform.Alike s'.platform n.values n.casts)
    (hvalues : ∀ v ∈ values, s'.platform.literal v = s.platform.literal v) :
    Agree E Eq (s.bag n op values) (s'.bag (n.rename f) op values) := by
  refine (hs.nodeTerm h).bind_eq fun left => ?_
  have hfilter : values.filter (comparable s'.model (n.rename f)) =
      values.filter (comparable s.model n) := by
    rw [hs.model]
    exact List.filter_congr fun v _ => comparable_rename s.model n v
  rw [hfilter, members fun v hv => hvalues v (List.mem_filter.1 hv).1]
  exact .refl hs.refl _

lemma allColumns (hs : s.Twin f E s') (c : ClassNode) (aliasName : String) (named : Bool) :
    Agree E Eq (s.allColumns c aliasName named) (s'.allColumns (c.rename f) aliasName named) := by
  have hstored : s'.storedColumns c.type = s.storedColumns c.type := by
    unfold Scope.storedColumns
    rw [hs.model]
  unfold Scope.allColumns
  rw [show (c.rename f).type = c.type from rfl, hstored]
  refine (Agree.refl hs.refl _).bind_eq fun columns => ?_
  refine Agree.bind_eq (.mapM (List.forall₂_same.2 fun column _ => ?_)) fun _ => .ok rfl
  exact (hs.tableOf c.id column.2).bind_eq fun _ => .ok rfl

lemma classColumns (hs : s.Twin f E s') (shape : Shape) (c : ClassNode) :
    Agree E Eq (s.classColumns shape c) (s'.classColumns shape (c.rename f)) := by
  refine (hs.aliasOf c.id).bind_eq fun aliasName => ?_
  cases shape with
  | whole | identities => exact .ok rfl
  | derived | columns => exact hs.allColumns c aliasName _

lemma itemColumns (hs : s.Twin f E s') (shape : Shape) {item : SelectItem}
    (h : s.platform.Alike s'.platform item.node.values item.node.casts) :
    Agree E Eq (s.itemColumns shape item) (s'.itemColumns shape (item.rename f)) := by
  obtain ⟨n, aliasName⟩ := item
  cases n with
  | object c => exact hs.classColumns shape c
  | expr e => exact (hs.term h).bind_eq fun _ => .ok rfl

lemma columns (hs : s.Twin f E s') (shape : Shape) {items : List SelectItem}
    (h : ∀ item ∈ items, s.platform.Alike s'.platform item.node.values item.node.casts) :
    Agree E Eq (s.columns shape items) (s'.columns shape (items.map (SelectItem.rename f))) := by
  refine Agree.bind_eq (.mapM (List.forall₂_map_right_iff.2 (List.forall₂_same.2 ?_))) fun _ =>
    .ok rfl
  exact fun item hitem => hs.itemColumns shape (h item hitem)

lemma groupTerms (hs : s.Twin f E s') {n : Node}
    (h : s.platform.Alike s'.platform n.values n.casts) :
    Agree E Eq (s.groupTerms n) (s'.groupTerms (n.rename f)) := by
  cases n with
  | object c => exact (hs.classColumns .columns c).bind_eq fun _ => .ok rfl
  | expr e => exact (hs.term h).bind_eq fun _ => .ok rfl

lemma grouping (hs : s.Twin f E s') {nodes : List Node}
    (h : ∀ n ∈ nodes, s.platform.Alike s'.platform n.values n.casts) :
    Agree E Eq (s.grouping nodes) (s'.grouping (nodes.map (Node.rename f))) := by
  refine Agree.bind_eq (.mapM (List.forall₂_map_right_iff.2 (List.forall₂_same.2 ?_))) fun _ =>
    .ok rfl
  exact fun n hn => hs.groupTerms (h n hn)

/-- A node is new or selected, and so calls for an output column or not, if the renamed one is. -/
lemma addNode (hs : s.Twin f E s') (select : List SelectItem) (first : Nat) (o : Ordering)
    {n : Node} (h : s.platform.Alike s'.platform n.values n.casts) :
    Agree E (fun o o' => o' = o.rename f) (Ordering.addNode s select first o n)
      (Ordering.addNode s' (select.map (SelectItem.rename f)) first (o.rename f) (n.rename f)) := by
  cases n with
  | object c => exact (hs.identity c).bind_eq fun _ => .ok rfl
  | expr e =>
    have hvalue : (e.rename f).isValue = e.isValue := Node.isValue_rename f (.expr e)
    have hselected : (select.map (SelectItem.rename f)).any (·.node == .expr (e.rename f)) =
        select.any (·.node == .expr e) := by
      rw [List.any_map]
      exact List.any_congr rfl fun item => Node.same_rename hs.injective item.node (.expr e)
    have hnew : (o.rename f).unselected.any (· == e.rename f) = o.unselected.any (· == e) := by
      unfold Ordering.rename
      rw [List.any_map]
      exact List.any_congr rfl fun e' => Expr.same_rename hs.injective e' e
    -- so both runs take the same branch, and number their output columns alike
    simp only [Ordering.addNode, Node.rename, hvalue, hselected]
    split
    · exact .ok rfl
    · refine (hs.term h).bind_eq fun t => .ok ?_
      simp only [Ordering.addExpr, hnew]
      split
      · rfl
      · simp [Ordering.rename]

lemma ofNodes (hs : s.Twin f E s') {orderBy : List Node} {select : List SelectItem} {first : Nat}
    (h : ∀ n ∈ Ordering.nodes orderBy select, s.platform.Alike s'.platform n.values n.casts) :
    Agree E (fun o o' => o' = o.rename f) (Ordering.ofNodes s orderBy select first)
      (Ordering.ofNodes s' (orderBy.map (Node.rename f)) (select.map (SelectItem.rename f))
        first) := by
  unfold Ordering.ofNodes
  rw [Ordering.nodes_rename]
  refine .foldlM (fun n hn o _ ho => ?_) rfl
  rw [ho]
  exact hs.addNode select first o (h n hn)

lemma seek (hs : s.Twin f E s') {start : Option Seek}
    (h : ∀ x ∈ start, s.platform.Alike s'.platform (x.key.values ++ [x.value]) x.key.casts) :
    Agree E Eq (Seek.conditions s start) (Seek.conditions s' (start.map (Seek.rename f))) := by
  cases start with
  | none => exact .ok rfl
  | some x =>
    obtain ⟨hkey, hvalue⟩ := Platform.Alike.append_values_iff.1 (h x rfl)
    exact (hs.comparison (r := .value x.value) .greater hkey ⟨hvalue, nofun⟩).bind_eq fun _ =>
      .ok rfl

/-- A test agrees with the renamed one if the statements of the query that it looks in do. -/
lemma test (hs : s.Twin f E s') {test : Constraint}
    (h : s.platform.Alike s'.platform test.values test.casts) (hgroup : test.isGroup = false)
    (hoperand : ∀ inner ∈ test.operand?,
      Agree E Eq (compile s.model s.platform .identities none inner).outcome
        (compile s'.model s'.platform .identities none (inner.rename f)).outcome)
    (links : List FromItem) :
    Agree E Eq (condition s links test).outcome (condition s' links (test.rename f)).outcome := by
  cases test with
  | group op members => cases hgroup
  | compare l op r =>
    obtain ⟨hl, hr⟩ := Platform.Alike.append_iff.1 h
    simp only [condition, Constraint.rename, Traced.outcome_bind, Traced.outcome_liftM]
    exact (hs.comparison op hl hr).bind_eq fun _ => .ok rfl
  | nullTest e op =>
    simp only [condition, Constraint.rename, Traced.outcome_bind, Traced.outcome_liftM]
    exact (hs.term h).bind_eq fun _ => .ok rfl
  | memberOf left op q =>
    simp only [condition, Constraint.rename, Traced.outcome_bind, Traced.outcome_liftM]
    exact (hs.nodeTerm h).bind_eq fun _ => (hoperand q rfl).bind_eq fun _ => .ok rfl
  | identity left op right =>
    simp only [condition, Constraint.rename, Traced.outcome_bind, Traced.outcome_liftM]
    exact (hs.identity left).bind_eq fun _ => (hs.targetTerm right).bind_eq fun _ => .ok rfl
  | contains r op target => exact hs.testRelationship r links (.holds op target)
  | referenceNull r op => exact hs.testRelationship r links (.null op)
  | bag n op values =>
    obtain ⟨hn, hvalues⟩ := Platform.Alike.append_values_iff.1 h
    simp only [condition, Constraint.rename, Traced.outcome_bind, Traced.outcome_liftM]
    exact (hs.bag op hn hvalues).bind_eq fun _ => .ok rfl

/-- The clauses of a query and of the renamed one are put together alike, whatever identity the
renamed query has itself. -/
lemma assemble (hs : s.Twin f E s') (shape : Shape) {q : Query} (id : NodeId) (entered : Entered)
    (conditions : List Condition) (links : List FromItem)
    (h : s.platform.Alike s'.platform q.values q.casts) :
    Agree E Eq (assemble s shape q entered conditions links)
      (assemble s' shape ((q.rename f).copy id) (entered.rename f) conditions links) := by
  obtain ⟨hselect, _, hgroupBy, horderBy⟩ := h.query
  have horder : ∀ n ∈ Ordering.nodes q.orderBy q.select,
      s.platform.Alike s'.platform n.values n.casts := by
    intro n hn
    rcases List.mem_append.1 hn with hn | hn
    · exact horderBy n hn
    · obtain ⟨item, hitem, rfl⟩ := List.mem_map.1 hn
      exact hselect item hitem
  have hrest (order order' : Ordering) (ho : order' = order.rename f) : Agree E Eq (do
        let columns ← s.columns shape q.select
        let groupBy ← s.grouping q.groupBy
        return (⟨q.distinct, columns ++ order.columns, entered.items ++ links,
          entered.joins ++ conditions, groupBy, order.terms⟩ : Statement)) (do
        let columns ← s'.columns shape (q.select.map (SelectItem.rename f))
        let groupBy ← s'.grouping (q.groupBy.map (Node.rename f))
        return (⟨q.distinct, columns ++ order'.columns, entered.items ++ links,
          entered.joins ++ conditions, groupBy, order'.terms⟩ : Statement)) := by
    rw [ho]
    exact (hs.columns shape hselect).bind_eq fun _ =>
      (hs.grouping hgroupBy).bind_eq fun _ => .ok rfl
  rw [Query.rename_eq]
  unfold Sql.assemble
  split
  · exact (hs.ofNodes horder).bind hrest
  · rw [pure_bind, pure_bind]
    exact hrest .none .none rfl

end Scope.Twin

section

variable {s s' : Scope}

mutual

/-- A constraint agrees with the renamed one if its tests do. -/
lemma agree_condition {c : Constraint} (links : List FromItem)
    (h : ∀ test ∈ c.tests, ∀ links, Agree E Eq (condition s links test).outcome
      (condition s' links (test.rename f)).outcome) :
    Agree E Eq (condition s links c).outcome (condition s' links (c.rename f)).outcome := by
  match c with
  | .group op cs =>
    simp only [condition, Constraint.rename, Traced.outcome_bind, Traced.outcome_pure]
    exact (agree_members links h).bind_eq fun _ => .ok rfl
  | .compare .. | .nullTest .. | .memberOf .. | .identity .. | .contains .. | .referenceNull ..
  | .bag .. => exact h _ (List.mem_singleton_self _) links
termination_by structural c

lemma agree_members {cs : List Constraint} (links : List FromItem)
    (h : ∀ test ∈ Constraint.memberTests cs, ∀ links,
      Agree E Eq (condition s links test).outcome (condition s' links (test.rename f)).outcome) :
    Agree E Eq (memberConditions s links cs).outcome
      (memberConditions s' links (renameConstraints f cs)).outcome := by
  match cs with
  | [] => exact .ok rfl
  | c :: cs =>
    obtain ⟨hc, hcs⟩ := List.forall_mem_append.1 h
    simp only [memberConditions, renameConstraints, Traced.outcome_bind, Traced.outcome_pure]
    exact (agree_condition links hc).bind_eq fun first =>
      (agree_members first.2 hcs).bind_eq fun _ => .ok rfl
termination_by structural cs

end

lemma agree_root {q : Query}
    (h : ∀ test ∈ q.tests, ∀ links, Agree E Eq (condition s links test).outcome
      (condition s' links (test.rename f)).outcome) :
    Agree E Eq (rootCondition s q.constraint).outcome
      (rootCondition s' (q.constraint.map (Constraint.rename f))).outcome := by
  unfold Query.tests at h
  cases hconstraint : q.constraint with
  | none => exact .ok rfl
  | some c =>
    rw [hconstraint] at h
    simp only [Option.map_some, rootCondition, Traced.outcome_bind, Traced.outcome_pure]
    exact (agree_condition [] h).bind_eq fun _ => .ok rfl

/-- Sources bring in the same, under the names of the identities that stand for theirs. -/
lemma agree_enter (hs : s.Twin f E s') {sources : List Source}
    (hcompile : ∀ inner, .query inner ∈ sources →
      Agree E Eq (compile s.model s.platform .derived none inner).outcome
        (compile s'.model s'.platform .derived none (inner.rename f)).outcome) :
    Agree E (fun e e' => e' = e.rename f) (enter s sources).outcome
      (enter s' (sources.map (Source.rename f))).outcome := by
  induction sources with
  | nil => exact .ok rfl
  | cons source sources ih =>
    have hfirst : Agree E (fun e e' => e' = e.rename f) (enterSource s source).outcome
        (enterSource s' (source.rename f)).outcome := by
      cases source with
      | object c =>
        simp only [enterSource, Source.rename, Entered.ofClass, Traced.outcome_liftM, hs.model]
        exact (hs.aliasOf c.id).bind_eq fun _ =>
          (Agree.refl hs.refl (s.model.components c.type)).bind_eq fun _ => .ok rfl
      | query q =>
        simp only [enterSource, Source.rename, Traced.outcome_bind, Traced.outcome_liftM,
          Query.id_rename]
        exact (hs.aliasOf q.id).bind_eq fun _ =>
          (hcompile q List.mem_cons_self).bind_eq fun _ => .ok rfl
    have hrest := ih fun inner hinner => hcompile inner (List.mem_cons_of_mem _ hinner)
    simp only [List.map_cons, enter, Traced.outcome_bind, Traced.outcome_pure]
    refine hfirst.bind fun e _ he => hrest.bind fun rest _ hrest => .ok ?_
    rw [he, hrest]
    simp [Entered.append, Entered.rename, renameKeys]

end

/-- Failures count as the same where they name a node of the one query and the node that stands for
it in the other. -/
def Stands (f : NodeId → NodeId) (E : Failure → Failure → Prop) (query query' : NodeId) : Prop :=
  ∀ n, E (.misuse (.noAlias n query)) (.misuse (.noAlias (f n) query')) ∧
    E (.misuse (.notASource n query)) (.misuse (.notASource (f n) query'))

/-- The renaming keeps identities apart, and failures count as the same if they are renamed. -/
structure Renaming (f : NodeId → NodeId) (E : Failure → Failure → Prop) : Prop where
  injective : Function.Injective f
  refl : ∀ e, E e e
  stands : ∀ query, Stands f E query (f query)

/-- The scopes of a query and of the renamed one are twins, whatever identity the renamed query has
itself. -/
lemma Renaming.twin (hf : Renaming f E) (m : Model) (p p' : Platform) {q : Query} {id : NodeId}
    (hid : Stands f E q.id id) (entered : Entered) :
    ((Scope.ofQuery m p q).enteredWith entered).Twin f E
      ((Scope.ofQuery m p' ((q.rename f).copy id)).enteredWith (entered.rename f)) where
  injective := hf.injective
  refl := hf.refl
  model := rfl
  aliasOf n := by
    have hlookup := lookup_renameKeys hf.injective q.aliases n
    simp only [Scope.aliasOf, Scope.enteredWith, Scope.ofQuery, Query.copy, Query.rename_eq,
      hlookup]
    split
    · exact .ok rfl
    · exact .error (hid n).1
  tableOf n field := by
    have hlookup := lookup_renameKeys hf.injective entered.places n
    simp only [Scope.tableOf, Scope.enteredWith, Entered.rename, Scope.ofQuery, Query.copy,
      hlookup]
    split
    · exact .error (hid n).2
    · exact .ok rfl
    · exact .refl hf.refl _

/-- The outcome of a compilation comes from the outcomes of its steps. -/
lemma outcome_compile (m : Model) (p : Platform) (shape : Shape) (seek : Option Seek) (q : Query) :
    (compile m p shape seek q).outcome =
      (enter (.ofQuery m p q) q.sources).outcome >>= fun entered =>
      (rootCondition ((Scope.ofQuery m p q).enteredWith entered) q.constraint).outcome >>=
        fun found =>
      Seek.conditions ((Scope.ofQuery m p q).enteredWith entered) seek >>= fun seekConditions =>
      assemble ((Scope.ofQuery m p q).enteredWith entered) shape q entered
        (found.1 ++ seekConditions) found.2 := by
  obtain ⟨id, sources, aliases, select, constraint, groupBy, orderBy, distinct, count⟩ := q
  simp only [compile, Traced.outcome_bind, Traced.outcome_liftM, Traced.outcome_report,
    Traced.outcome_pure]
  have hlast (x : Except Failure Statement) :
      (x >>= fun st => (.ok () : Except Failure Unit) >>= fun _ => .ok st) = x := by
    cases x <;> rfl
  simp only [hlast]
  rfl

/-- A query and the renamed one, compiled for platforms that write all its literals and casts
alike, have the same statement or fail for the same reason, up to the identities in it. -/
theorem agree_compile (hf : Renaming f E) {m : Model} {p p' : Platform} {shape : Shape}
    {seek : Option Seek} {q : Query} {id : NodeId} (hid : Stands f E q.id id)
    (hlevels : ∀ level, q.Level level → p.Alike p' level.values level.casts)
    (hseek : ∀ start ∈ seek, p.Alike p' (start.key.values ++ [start.value]) start.key.casts) :
    Agree E Eq (compile m p shape seek q).outcome
      (compile m p' shape (seek.map (Seek.rename f)) ((q.rename f).copy id)).outcome := by
  induction q using Query.nested_induction generalizing shape seek id with
  | step q ih =>
    obtain ⟨hq, hnested⟩ := Query.forall_level_iff.1 hlevels
    have inner (shape : Shape) {q' : Query} (h : q' ∈ q.nested) :
        Agree E Eq (compile m p shape none q').outcome
          (compile m p' shape none (q'.rename f)).outcome := by
      have hinner : Agree E Eq (compile m p shape none q').outcome
          (compile m p' shape none ((q'.rename f).copy (f q'.id))).outcome :=
        ih q' h (hf.stands q'.id) (hnested q' h) fun _ h => by cases h
      rwa [Query.copy_rename] at hinner
    have hstart := hf.twin m p p' hid .none
    have henter := agree_enter hstart fun q' h => inner .derived (Query.mem_nested_of_source h)
    rw [← q.sources_rename] at henter
    -- the sources come first, and what they bring in makes the scopes of all that follows
    rw [outcome_compile, outcome_compile]
    refine henter.bind fun entered _ hentered => ?_
    rw [hentered]
    have hs := hf.twin m p p' hid entered
    have hroot := agree_root fun test htest =>
      hs.test (hq.query.2.1 test htest) (Query.isGroup_of_mem_tests htest) fun q' h =>
        inner .identities (Query.mem_nested_of_operand htest h)
    rw [← q.constraint_rename] at hroot
    exact hroot.bind_eq fun found => (hs.seek hseek).bind_eq fun seekConditions =>
      hs.assemble shape id entered (found.1 ++ seekConditions) found.2 hq

end Sql

end ObjectQuery
