import Mathlib
import ObjectQuery.Proofs.Query.Edit
import ObjectQuery.Proofs.Query.Levels
import ObjectQuery.Sql.Relationship

/-!
# Well-built queries

What the expressions and tests of a query mention: columns, classes, relationships and aggregates
without an operand. A query is well built against a model if all of them were made for the model and
are of its sources (`Query.WellBuilt`).
-/

namespace ObjectQuery

/-- A class node is made of a type of the model. -/
lemma ClassNode.ofType_eq_ok_iff {id : NodeId} {m : Model} {t : ClassType} {c : ClassNode} :
    ClassNode.ofType id m t = .ok c ↔
      (∃ components, m.components t = .ok components) ∧ c = ⟨id, t⟩ := by
  unfold ofType
  cases m.components t with
  | ok components =>
    constructor
    · rintro ⟨⟩
      exact ⟨⟨components, rfl⟩, rfl⟩
    · rintro ⟨_, rfl⟩
      rfl
  | error e => exact ⟨nofun, fun ⟨⟨_, h⟩, _⟩ => by cases h⟩

/-- A column of a class is made of an attribute of its type. -/
lemma Column.ofClass_eq_ok_iff {c : ClassNode} {field : String} {m : Model} {column : Column} :
    Column.ofClass c field m = .ok column ↔
    ∃ fields f type, m.fields c.type = .ok fields ∧ fields.get? field = some f ∧
      f.type? = some type ∧ column = ⟨c.id, false, field, none, type⟩ := by
  unfold ofClass
  rw [Except.bind_eq_ok]
  constructor
  · rintro ⟨fields, hfields, h⟩
    split at h
    · rename_i type htype
      obtain ⟨f, hf, htype⟩ := Option.bind_eq_some_iff.1 htype
      cases h
      exact ⟨fields, f, type, hfields, hf, htype, rfl⟩
    · cases h
  · rintro ⟨fields, f, type, hfields, hf, htype, rfl⟩
    refine ⟨fields, hfields, ?_⟩
    simp only [hf, Option.bind_some, htype]
    rfl

/-- A reference is made of a relationship of the type of its owner. -/
lemma Reference.ofClass_eq_ok_iff {c : ClassNode} {field : String} {m : Model} {r : Reference} :
    Reference.ofClass c field m = .ok r ↔
    ∃ fields f relation, m.fields c.type = .ok fields ∧ fields.get? field = some f ∧
      m.relation? f = some relation ∧ r = ⟨c, field, relation⟩ := by
  unfold ofClass
  rw [Except.bind_eq_ok]
  constructor
  · rintro ⟨fields, hfields, h⟩
    split at h
    · rename_i relation hrelation
      obtain ⟨f, hf, hrelation⟩ := Option.bind_eq_some_iff.1 hrelation
      cases h
      exact ⟨fields, f, relation, hfields, hf, hrelation, rfl⟩
    · cases h
  · rintro ⟨fields, f, relation, hfields, hf, hrelation, rfl⟩
    refine ⟨fields, hfields, ?_⟩
    simp only [hf, Option.bind_some, hrelation]
    rfl

/-- A column of a query is of that query. -/
lemma Column.source_ofQueryItem {q : Query} {aliasName : String} {second : Option String}
    {m : Model} {column : Column} (h : Column.ofQueryItem q aliasName second m = .ok column) :
    column.source = q.id := by
  unfold ofQueryItem at h
  split at h
  · cases h
  · split at h
    · cases h
      rfl
    · obtain ⟨fields, _, h⟩ := Except.bind_eq_ok.1 h
      split at h
      · cases h
        rfl
      · cases h
    · cases h

/-- What may be mentioned. -/
structure Vocabulary where
  column : Column → Prop
  /-- A literal, or a stored object that is compared with. -/
  value : Value → Prop
  /-- An aggregate without an operand. -/
  bare : Aggregate → Prop
  object : ClassNode → Prop
  relationship : Reference → Sql.RelationshipTest → Prop

/-- The expression mentions nothing else. -/
def Expr.Of (v : Vocabulary) : Expr → Prop
  | .column c => v.column c
  | .arithmetic _ l r => l.Of v ∧ r.Of v
  | .suffix b s => b.Of v ∧ s.Of v
  | .substring b s n => b.Of v ∧ s.Of v ∧ n.Of v
  | .indexOf h n => h.Of v ∧ n.Of v
  | .aggregate _ e => e.Of v
  | .bareAggregate op => v.bare op
  | .value w => v.value w
  | .cast e _ => e.Of v

def Node.Of (v : Vocabulary) : Node → Prop
  | .object c => v.object c
  | .expr e => e.Of v

def ObjectTarget.Of (v : Vocabulary) : ObjectTarget → Prop
  | .node c => v.object c
  | .stored o => v.value (.object o)

/-- The test mentions nothing else, where a query that it looks in does not count. -/
def Constraint.Of (v : Vocabulary) : Constraint → Prop
  | .group _ _ => True
  | .compare l _ r => l.Of v ∧ r.Of v
  | .nullTest e _ => e.Of v
  | .memberOf n _ _ => n.Of v
  | .identity c _ target => v.object c ∧ target.Of v
  | .contains r op target => v.relationship r (.holds op target) ∧ target.Of v
  | .referenceNull r op => v.relationship r (.null op)
  | .bag n _ values => n.Of v ∧ ∀ w ∈ values, v.value w

/-- The clauses of the query mention nothing else. -/
structure Query.Of (v : Vocabulary) (q : Query) : Prop where
  select : ∀ item ∈ q.select, item.node.Of v
  tests : ∀ test ∈ q.tests, test.Of v
  groupBy : ∀ n ∈ q.groupBy, n.Of v
  orderBy : ∀ n ∈ q.orderBy, n.Of v

/-- The values in an expression. -/
def Expr.values : Expr → List Value
  | .column _ => []
  | .arithmetic _ l r => l.values ++ r.values
  | .suffix b s => b.values ++ s.values
  | .substring b s n => b.values ++ s.values ++ n.values
  | .indexOf h n => h.values ++ n.values
  | .aggregate _ e => e.values
  | .bareAggregate _ => []
  | .value w => [w]
  | .cast e _ => e.values

def Node.values : Node → List Value
  | .object _ => []
  | .expr e => e.values

def ObjectTarget.values : ObjectTarget → List Value
  | .node _ => []
  | .stored o => [.object o]

/-- The values in a test, without those of a query that it looks in. -/
def Constraint.values : Constraint → List Value
  | .group _ _ => []
  | .compare l _ r => l.values ++ r.values
  | .nullTest e _ => e.values
  | .memberOf n _ _ => n.values
  | .identity _ _ target => target.values
  | .contains _ _ target => target.values
  | .referenceNull _ _ => []
  | .bag n _ values => n.values ++ values

/-- The values in the clauses of a query. -/
def Query.values (q : Query) : List Value :=
  q.select.flatMap (fun item => item.node.values) ++ q.tests.flatMap Constraint.values ++
    q.groupBy.flatMap Node.values ++ q.orderBy.flatMap Node.values

/-- The same vocabulary with other values. -/
def Vocabulary.withValues (v : Vocabulary) (P : Value → Prop) : Vocabulary :=
  { v with value := P }

section

variable {v : Vocabulary} {P : Value → Prop}

lemma Expr.Of.withValues {e : Expr} (h : e.Of v) (hP : ∀ w ∈ e.values, P w) :
    e.Of (v.withValues P) := by
  induction e with
  | column c => exact h
  | arithmetic op l r ihl ihr =>
    obtain ⟨hl, hr⟩ := List.forall_mem_append.1 hP
    exact ⟨ihl h.1 hl, ihr h.2 hr⟩
  | suffix b s ihb ihs =>
    obtain ⟨hb, hs⟩ := List.forall_mem_append.1 hP
    exact ⟨ihb h.1 hb, ihs h.2 hs⟩
  | substring b s n ihb ihs ihn =>
    obtain ⟨hP, hn⟩ := List.forall_mem_append.1 hP
    obtain ⟨hb, hs⟩ := List.forall_mem_append.1 hP
    exact ⟨ihb h.1 hb, ihs h.2.1 hs, ihn h.2.2 hn⟩
  | indexOf haystack needle ihh ihn =>
    obtain ⟨hh, hn⟩ := List.forall_mem_append.1 hP
    exact ⟨ihh h.1 hh, ihn h.2 hn⟩
  | aggregate op e ih => exact ih h hP
  | bareAggregate op => exact h
  | value w => exact hP w List.mem_cons_self
  | cast e t ih => exact ih h hP

lemma Node.Of.withValues {n : Node} (h : n.Of v) (hP : ∀ w ∈ n.values, P w) :
    n.Of (v.withValues P) := by
  cases n with
  | object c => exact h
  | expr e => exact Expr.Of.withValues h hP

lemma ObjectTarget.Of.withValues {target : ObjectTarget} (h : target.Of v)
    (hP : ∀ w ∈ target.values, P w) : target.Of (v.withValues P) := by
  cases target with
  | node c => exact h
  | stored o => exact hP _ List.mem_cons_self

lemma Constraint.Of.withValues {test : Constraint} (h : test.Of v)
    (hP : ∀ w ∈ test.values, P w) : test.Of (v.withValues P) := by
  cases test with
  | group op members => trivial
  | compare l op r =>
    obtain ⟨hl, hr⟩ := List.forall_mem_append.1 hP
    exact ⟨h.1.withValues hl, h.2.withValues hr⟩
  | nullTest e op => exact Expr.Of.withValues h hP
  | memberOf n op q => exact Node.Of.withValues h hP
  | identity c op target => exact ⟨h.1, h.2.withValues hP⟩
  | contains r op target => exact ⟨h.1, h.2.withValues hP⟩
  | referenceNull r op => exact h
  | bag n op values =>
    obtain ⟨hn, hvalues⟩ := List.forall_mem_append.1 hP
    exact ⟨h.1.withValues hn, hvalues⟩

lemma Query.Of.withValues {q : Query} (h : q.Of v) (hP : ∀ w ∈ q.values, P w) :
    q.Of (v.withValues P) := by
  simp only [Query.values, List.forall_mem_append, List.forall_mem_flatMap] at hP
  obtain ⟨⟨⟨hselect, htests⟩, hgroupBy⟩, horderBy⟩ := hP
  exact ⟨fun item hitem => (h.select item hitem).withValues (hselect item hitem),
    fun test htest => (h.tests test htest).withValues (htests test htest),
    fun n hn => (h.groupBy n hn).withValues (hgroupBy n hn),
    fun n hn => (h.orderBy n hn).withValues (horderBy n hn)⟩

end

/-- The column was made for one of the sources. -/
inductive Column.Made (m : Model) (sources : List Source) : Column → Prop where
  | ofClass {c : ClassNode} {field : String} {column : Column} :
    .object c ∈ sources →
    Column.ofClass c field m = .ok column →
    Made m sources column
  | identityOf {c : ClassNode} :
    .object c ∈ sources →
    Made m sources (.identityOf c)
  | ofQueryItem {q : Query} {aliasName : String} {second : Option String} {column : Column} :
    .query q ∈ sources →
    Column.ofQueryItem q aliasName second m = .ok column →
    Made m sources column

/-- The relationship was made for one of the sources. -/
structure Reference.Made (m : Model) (sources : List Source) (r : Reference) : Prop where
  mem : .object r.owner ∈ sources
  ofClass : Reference.ofClass r.owner r.field m = .ok r

/-- What is made for the sources of a query, next to any values: only rows are counted without an
operand, and a relationship is tested as the constraint for it allows. -/
def Vocabulary.made (m : Model) (sources : List Source) : Vocabulary where
  column := Column.Made m sources
  value _ := True
  bare op := op = .count
  object c := .object c ∈ sources
  relationship r test := r.Made m sources ∧
    match test with
    | .holds op target => Constraint.holds r (.holds op) target = .ok (.contains r op target)
    | .null op => Constraint.nullCheck r (.null op) = .ok (.referenceNull r op)

/-- The query is built by edits, its classes are classes of the model, a source is known by its
identity, and what its clauses mention is made for its sources. -/
structure Query.WellBuilt (m : Model) (q : Query) : Prop where
  built : q.Built
  classes : ∀ c, .object c ∈ q.sources → ClassNode.ofType c.id m c.type = .ok c
  known : ∀ source ∈ q.sources, ∀ source' ∈ q.sources, source.id = source'.id → source = source'
  made : q.Of (.made m q.sources)

namespace Query

lemma WellBuilt.copy {m : Model} {q : Query} (h : q.WellBuilt m) (id : NodeId) :
    (q.copy id).WellBuilt m where
  built := h.built.copy id
  classes := h.classes
  known := h.known
  made := ⟨h.made.select, h.made.tests, h.made.groupBy, h.made.orderBy⟩

/-- Every source has an alias. -/
def SourcesNamed (q : Query) : Prop :=
  ∀ source ∈ q.sources, (q.aliases.lookup source.id).isSome

namespace SourcesNamed

variable {q : Query}

lemma isSome_lookup_cons {aliases : List (NodeId × String)} {n : NodeId}
    (h : (aliases.lookup n).isSome) (e : NodeId × String) : ((e :: aliases).lookup n).isSome := by
  rw [List.lookup_cons]
  split
  · rfl
  · exact h

lemma setAlias (h : q.SourcesNamed) (n : NodeId) (aliasName : String) :
    (q.setAlias n aliasName).SourcesNamed :=
  fun source hsource => isSome_lookup_cons (h source hsource) _

lemma addSourceAs (h : q.SourcesNamed) (s : Source) (aliasName : String) :
    (q.addSourceAs s aliasName).SourcesNamed := by
  intro source hsource
  rcases List.mem_append.1 hsource with hsource | hsource
  · exact isSome_lookup_cons (h source hsource) _
  · obtain rfl := List.mem_singleton.1 hsource
    show (((source.id, aliasName) :: q.aliases).lookup source.id).isSome
    simp

lemma edit (h : q.SourcesNamed) (e : Edit) : (e.apply q).SourcesNamed := by
  cases e with
  | addSource s => exact addSourceAs (q := q.countAlias) h s q.nextAlias
  | addSourceAs s aliasName => exact h.addSourceAs s aliasName
  | addSelect n =>
    cases n with
    | object c =>
      simp only [Edit.apply, Query.addSelect]
      split
      · exact h
      · exact setAlias (q := q.countAlias) h c.id q.nextAlias
    | expr e => exact h
  | addSelectAs n aliasName =>
    cases n with
    | object c => exact h.setAlias c.id aliasName
    | expr e => exact h
  | _ => exact h

end SourcesNamed

/-- Adding a source gives it an alias, and no edit takes one away. -/
lemma Built.sourcesNamed {q : Query} (h : q.Built) : q.SourcesNamed := by
  induction h with
  | empty id => exact List.forall_mem_nil _
  | edit e _ ih => exact ih.edit e
  | copy id _ ih => exact ih

end Query

end ObjectQuery
