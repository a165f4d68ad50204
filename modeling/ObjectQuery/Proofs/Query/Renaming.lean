import Mathlib
import ObjectQuery.Proofs.Query.Edit
import ObjectQuery.Sql.Compilation

/-!
# Renamed queries

Sources and queries are told apart by their identities, and no identity means anything but that. A
query is renamed by replacing every identity in it, in its sources, aliases, clauses, constraints
and in the queries inside it. A renaming that keeps identities apart keeps all that a query looks up
or compares by identity, so an edit of a renamed query is a renamed edit (`Query.rename_edit`).
-/

namespace ObjectQuery

section

variable (f : NodeId → NodeId)

def ClassNode.rename (c : ClassNode) : ClassNode :=
  { c with id := f c.id }

def Column.rename (c : Column) : Column :=
  { c with source := f c.source }

def Expr.rename : Expr → Expr
  | .column c => .column (c.rename f)
  | .arithmetic op l r => .arithmetic op l.rename r.rename
  | .suffix b s => .suffix b.rename s.rename
  | .substring b s n => .substring b.rename s.rename n.rename
  | .indexOf h n => .indexOf h.rename n.rename
  | .aggregate op e => .aggregate op e.rename
  | .bareAggregate op => .bareAggregate op
  | .value v => .value v
  | .cast e t => .cast e.rename t

def Node.rename : Node → Node
  | .object c => .object (c.rename f)
  | .expr e => .expr (e.rename f)

def Reference.rename (r : Reference) : Reference :=
  { r with owner := r.owner.rename f }

def ObjectTarget.rename : ObjectTarget → ObjectTarget
  | .node c => .node (c.rename f)
  | .stored o => .stored o

def SelectItem.rename (item : SelectItem) : SelectItem :=
  { item with node := item.node.rename f }

/-- Entries that are kept by identity, such as aliases and places. -/
def renameKeys {α : Type} (entries : List (NodeId × α)) : List (NodeId × α) :=
  entries.map (Prod.map f id)

mutual

def Source.rename : Source → Source
  | .object c => .object (c.rename f)
  | .query q => .query q.rename
termination_by structural source => source

def renameSources : List Source → List Source
  | [] => []
  | source :: sources => source.rename :: renameSources sources
termination_by structural sources => sources

def Constraint.rename : Constraint → Constraint
  | .group op members => .group op (renameConstraints members)
  | .compare l op r => .compare (l.rename f) op (r.rename f)
  | .nullTest e op => .nullTest (e.rename f) op
  | .memberOf n op q => .memberOf (n.rename f) op q.rename
  | .identity c op target => .identity (c.rename f) op (target.rename f)
  | .contains r op target => .contains (r.rename f) op (target.rename f)
  | .referenceNull r op => .referenceNull (r.rename f) op
  | .bag n op values => .bag (n.rename f) op values
termination_by structural c => c

def renameConstraints : List Constraint → List Constraint
  | [] => []
  | c :: cs => c.rename :: renameConstraints cs
termination_by structural cs => cs

def renameRoot : Option Constraint → Option Constraint
  | none => none
  | some c => some c.rename
termination_by structural c => c

/-- The query with every identity in it replaced. -/
def Query.rename : Query → Query
  | ⟨id, sources, aliases, select, constraint, groupBy, orderBy, distinct, count⟩ =>
    ⟨f id, renameSources sources, renameKeys f aliases, select.map (SelectItem.rename f),
      renameRoot constraint, groupBy.map (Node.rename f), orderBy.map (Node.rename f), distinct,
      count⟩
termination_by structural q => q

end

def Edit.rename : Edit → Edit
  | .addSource s => .addSource (s.rename f)
  | .addSourceAs s aliasName => .addSourceAs (s.rename f) aliasName
  | .addSelect n => .addSelect (n.rename f)
  | .addSelectAs n aliasName => .addSelectAs (n.rename f) aliasName
  | .setConstraint c => .setConstraint (c.rename f)
  | .clearConstraint => .clearConstraint
  | .addGroupBy n => .addGroupBy (n.rename f)
  | .addOrderBy n => .addOrderBy (n.rename f)
  | .setDistinct distinct => .setDistinct distinct

def Sql.Seek.rename (start : Sql.Seek) : Sql.Seek :=
  { start with key := start.key.rename f }

lemma renameSources_eq_map (sources : List Source) :
    renameSources f sources = sources.map (Source.rename f) := by
  induction sources with
  | nil => rfl
  | cons source sources ih => rw [renameSources, ih, List.map_cons]

lemma renameRoot_eq_map (c : Option Constraint) :
    renameRoot f c = c.map (Constraint.rename f) := by
  cases c <;> rfl

/-- A renamed query has its parts renamed. -/
lemma Query.rename_eq (q : Query) : q.rename f =
    ⟨f q.id, q.sources.map (Source.rename f), renameKeys f q.aliases,
      q.select.map (SelectItem.rename f), q.constraint.map (Constraint.rename f),
      q.groupBy.map (Node.rename f), q.orderBy.map (Node.rename f), q.distinct, q.aliasCount⟩ := by
  obtain ⟨id, sources, aliases, select, constraint, groupBy, orderBy, distinct, count⟩ := q
  simp only [rename, renameSources_eq_map, renameRoot_eq_map]

lemma Query.id_rename (q : Query) : (q.rename f).id = f q.id := by
  rw [rename_eq]

lemma Query.sources_rename (q : Query) :
    (q.rename f).sources = q.sources.map (Source.rename f) := by
  rw [rename_eq]

lemma Query.constraint_rename (q : Query) :
    (q.rename f).constraint = q.constraint.map (Constraint.rename f) := by
  rw [rename_eq]

lemma Query.copy_rename (q : Query) : (q.rename f).copy (f q.id) = q.rename f := by
  rw [rename_eq]
  rfl

lemma Source.id_rename (source : Source) : (source.rename f).id = f source.id := by
  cases source with
  | object c => rfl
  | query q => exact q.id_rename f

namespace Query

lemma nextAlias_rename (q : Query) : (q.rename f).nextAlias = q.nextAlias := by
  rw [rename_eq]
  rfl

lemma rename_countAlias (q : Query) : q.countAlias.rename f = (q.rename f).countAlias := by
  simp only [rename_eq, countAlias]

lemma rename_setAlias (q : Query) (n : NodeId) (aliasName : String) :
    (q.setAlias n aliasName).rename f = (q.rename f).setAlias (f n) aliasName := by
  simp only [rename_eq, setAlias, renameKeys, List.map_cons, Prod.map_apply, id_eq]

lemma rename_addItem (q : Query) (n : Node) (aliasName : String) :
    (q.addItem n aliasName).rename f = (q.rename f).addItem (n.rename f) aliasName := by
  simp only [rename_eq, addItem, List.map_append, List.map_cons, List.map_nil, SelectItem.rename]

lemma rename_addSourceAs (q : Query) (s : Source) (aliasName : String) :
    (q.addSourceAs s aliasName).rename f = (q.rename f).addSourceAs (s.rename f) aliasName := by
  simp only [rename_eq, addSourceAs, setAlias, Source.id_rename, renameKeys, List.map_append,
    List.map_cons, List.map_nil, Prod.map_apply, id_eq]

end Query

lemma Node.isValue_rename (n : Node) : (n.rename f).isValue = n.isValue := by
  cases n with
  | object c => rfl
  | expr e => cases e <;> rfl

lemma Sql.Ordering.nodes_rename (orderBy : List Node) (select : List SelectItem) :
    nodes (orderBy.map (Node.rename f)) (select.map (SelectItem.rename f)) =
      (nodes orderBy select).map (Node.rename f) := by
  simp [nodes, SelectItem.rename, Function.comp_def]

lemma Expr.type?_rename (e : Expr) : (e.rename f).type? = e.type? := by
  induction e with
  | arithmetic op l r ihl ihr => exact ihl
  | aggregate op e ih => exact congrArg (aggregateType? op) ih
  | _ => rfl

end

section

variable {f : NodeId → NodeId} (hf : Function.Injective f)

include hf

/-- What is kept by identity is found under the new one. -/
lemma lookup_renameKeys {α : Type} (entries : List (NodeId × α)) (n : NodeId) :
    (renameKeys f entries).lookup (f n) = entries.lookup n := by
  induction entries with
  | nil => rfl
  | cons e entries ih =>
    obtain ⟨k, a⟩ := e
    have hbeq : (f n == f k) = (n == k) := by
      rw [Bool.eq_iff_iff, beq_iff_eq, beq_iff_eq, hf.eq_iff]
    show List.lookup (f n) ((f k, a) :: renameKeys f entries) = _
    rw [List.lookup_cons, List.lookup_cons, hbeq, ih]

lemma Column.rename_eq_iff {c d : Column} : c.rename f = d.rename f ↔ c = d := by
  obtain ⟨source, ofQuery, name, second, type⟩ := c
  obtain ⟨source', ofQuery', name', second', type'⟩ := d
  simp only [Column.rename, Column.mk.injEq, hf.eq_iff]

/-- Expressions are as equal as before. -/
lemma Expr.same_rename (e e' : Expr) : (e.rename f).same (e'.rename f) = e.same e' := by
  induction e generalizing e' with
  | column c =>
    cases e' with
    | column d => exact decide_eq_decide.2 (Column.rename_eq_iff hf)
    | _ => rfl
  | arithmetic op l r ihl ihr => cases e' <;> simp only [Expr.rename, Expr.same, ihl, ihr]
  | suffix b s ihb ihs => cases e' <;> simp only [Expr.rename, Expr.same, ihb, ihs]
  | substring b s n ihb ihs ihn => cases e' <;> simp only [Expr.rename, Expr.same, ihb, ihs, ihn]
  | indexOf h n ihh ihn => cases e' <;> simp only [Expr.rename, Expr.same, ihh, ihn]
  | aggregate op e ih => cases e' <;> simp only [Expr.rename, Expr.same, ih]
  | bareAggregate op => cases e' <;> rfl
  | value v => cases e' <;> rfl
  | cast e t ih => cases e' <;> simp only [Expr.rename, Expr.same, ih]

lemma Node.same_rename (n n' : Node) : (n.rename f).same (n'.rename f) = n.same n' := by
  cases n with
  | object c =>
    cases n' with
    | object d => exact decide_eq_decide.2 hf.eq_iff
    | expr e => rfl
  | expr e =>
    cases n' with
    | object d => rfl
    | expr e' => exact Expr.same_rename hf e e'

/-- The alias of a renamed class is that of the class. -/
lemma Query.alias?_rename (q : Query) (n : NodeId) : (q.rename f).alias? (f n) = q.alias? n := by
  rw [rename_eq]
  exact lookup_renameKeys hf q.aliases n

/-- Selecting a class looks for its alias, which is the same for the renamed class. -/
lemma Query.rename_addSelect (q : Query) (n : Node) :
    (q.addSelect n).rename f = (q.rename f).addSelect (n.rename f) := by
  cases n with
  | object c =>
    have halias : (q.rename f).alias? (c.rename f).id = q.alias? c.id := q.alias?_rename hf c.id
    simp only [addSelect, Node.rename, halias]
    cases q.alias? c.id with
    | some aliasName => exact rename_addItem f q _ aliasName
    | none =>
      rw [rename_addItem, rename_setAlias, rename_countAlias, nextAlias_rename]
      rfl
  | expr e =>
    simp only [addSelect, rename_addItem, rename_countAlias, nextAlias_rename]
    rfl

/-- An edit of a renamed query is a renamed edit. -/
lemma Query.rename_edit (e : Edit) (q : Query) :
    (e.apply q).rename f = (e.rename f).apply (q.rename f) := by
  cases e with
  | addSource s =>
    simp only [Edit.apply, Edit.rename, addSource, rename_addSourceAs, rename_countAlias,
      nextAlias_rename]
  | addSourceAs s aliasName => exact rename_addSourceAs f q s aliasName
  | addSelect n => exact q.rename_addSelect hf n
  | addSelectAs n aliasName =>
    cases n with
    | object c =>
      simp only [Edit.apply, addSelectAs, rename_addItem, rename_setAlias]
      rfl
    | expr e => exact rename_addItem f q _ aliasName
  | setConstraint c => simp [Edit.apply, Edit.rename, rename_eq, setConstraint]
  | clearConstraint => simp [Edit.apply, Edit.rename, rename_eq, clearConstraint]
  | addGroupBy n => simp [Edit.apply, Edit.rename, rename_eq, addGroupBy]
  | addOrderBy n => simp [Edit.apply, Edit.rename, rename_eq, addOrderBy]
  | setDistinct distinct => simp [Edit.apply, Edit.rename, rename_eq, setDistinct]

end

section

lemma Expr.rename_id (e : Expr) : e.rename id = e := by
  induction e with
  | arithmetic op l r ihl ihr => simp only [Expr.rename, ihl, ihr]
  | suffix b s ihb ihs => simp only [Expr.rename, ihb, ihs]
  | substring b s n ihb ihs ihn => simp only [Expr.rename, ihb, ihs, ihn]
  | indexOf h n ihh ihn => simp only [Expr.rename, ihh, ihn]
  | aggregate op e ih => simp only [Expr.rename, ih]
  | cast e t ih => simp only [Expr.rename, ih]
  | _ => rfl

lemma Node.rename_id (n : Node) : n.rename id = n := by
  cases n with
  | object c => rfl
  | expr e => exact congrArg Node.expr e.rename_id

lemma ObjectTarget.rename_id (target : ObjectTarget) : target.rename id = target := by
  cases target <;> rfl

lemma SelectItem.rename_id (item : SelectItem) : item.rename id = item := by
  obtain ⟨n, aliasName⟩ := item
  exact congrArg (SelectItem.mk · aliasName) n.rename_id

lemma renameKeys_id {α : Type} (entries : List (NodeId × α)) : renameKeys id entries = entries :=
  List.map_id entries

mutual

lemma Source.rename_id (source : Source) : source.rename id = source := by
  match source with
  | .object c => rfl
  | .query q => exact congrArg Source.query q.rename_id
termination_by structural source

lemma renameSources_id (sources : List Source) : renameSources id sources = sources := by
  match sources with
  | [] => rfl
  | source :: sources => exact congrArg₂ List.cons source.rename_id (renameSources_id sources)
termination_by structural sources

lemma Constraint.rename_id (c : Constraint) : c.rename id = c := by
  match c with
  | .group op members => exact congrArg (Constraint.group op) (renameConstraints_id members)
  | .compare l op r => simp only [Constraint.rename, l.rename_id, r.rename_id]
  | .nullTest e op => simp only [Constraint.rename, e.rename_id]
  | .memberOf n op q => simp only [Constraint.rename, n.rename_id, q.rename_id]
  | .identity c op target => exact congrArg (Constraint.identity c op) target.rename_id
  | .contains r op target => exact congrArg (Constraint.contains r op) target.rename_id
  | .referenceNull r op => rfl
  | .bag n op values => simp only [Constraint.rename, n.rename_id]
termination_by structural c

lemma renameConstraints_id (cs : List Constraint) : renameConstraints id cs = cs := by
  match cs with
  | [] => rfl
  | c :: cs => exact congrArg₂ List.cons c.rename_id (renameConstraints_id cs)
termination_by structural cs

lemma renameRoot_id (c : Option Constraint) : renameRoot id c = c := by
  match c with
  | none => rfl
  | some c => exact congrArg some c.rename_id
termination_by structural c

lemma Query.rename_id (q : Query) : q.rename id = q := by
  match q with
  | ⟨id, sources, aliases, select, constraint, groupBy, orderBy, distinct, count⟩ =>
    simp only [Query.rename, renameSources_id sources, renameKeys_id, renameRoot_id constraint,
      List.map_id'' SelectItem.rename_id, List.map_id'' Node.rename_id, id_eq]
termination_by structural q

end

lemma Sql.Seek.rename_id (start : Sql.Seek) : start.rename id = start :=
  congrArg (Sql.Seek.mk · start.value) start.key.rename_id

end

end ObjectQuery
