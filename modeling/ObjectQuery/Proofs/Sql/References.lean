import Mathlib
import ObjectQuery.Proofs.Sql.Factors
import ObjectQuery.Proofs.Sql.Ordering

/-!
# References to columns

The columns that a statement reads and the aliases that its sources declare. A scope gives out
aliases for sources and for the tables of their fields; if these are declared (`Scope.Declares`), so
is every alias in the terms, conditions and clauses that the scope makes, one function after the
other.
-/

namespace ObjectQuery.Sql

/-- The columns that a term reads. -/
def Term.refs : Term → List ColumnRef
  | .column c => [c]
  | .literal _ | .countRows => []
  | .arithmetic _ l r => l.refs ++ r.refs
  | .suffix b s => b.refs ++ s.refs
  | .substring b s n => b.refs ++ s.refs ++ n.refs
  | .indexOf h n => h.refs ++ n.refs
  | .aggregate _ e => e.refs
  | .cast e _ => e.refs

mutual

/-- The columns that a condition reads, not counting those that an operand reads for itself. -/
def Condition.refs : Condition → List ColumnRef
  | .constant _ => []
  | .compare l _ r => l.refs ++ r.refs
  | .nullTest e _ => e.refs
  | .memberOf l _ _ => l.refs
  | .group _ _ members => conditionRefs members
termination_by structural c => c

/-- The columns that conditions read. -/
def conditionRefs : List Condition → List ColumnRef
  | [] => []
  | c :: cs => c.refs ++ conditionRefs cs
termination_by structural cs => cs

end

lemma conditionRefs_eq_flatMap (cs : List Condition) :
    conditionRefs cs = cs.flatMap Condition.refs := by
  induction cs with
  | nil => rfl
  | cons c cs ih => rw [conditionRefs, ih, List.flatMap_cons]

mutual

/-- The statements that a condition has as operands. -/
def Condition.operands : Condition → List Statement
  | .memberOf _ _ s => [s]
  | .group _ _ members => conditionOperands members
  | .constant _ | .compare .. | .nullTest .. => []
termination_by structural c => c

/-- The statements that conditions have as operands. -/
def conditionOperands : List Condition → List Statement
  | [] => []
  | c :: cs => c.operands ++ conditionOperands cs
termination_by structural cs => cs

end

lemma conditionOperands_eq_flatMap (cs : List Condition) :
    conditionOperands cs = cs.flatMap Condition.operands := by
  induction cs with
  | nil => rfl
  | cons c cs ih => rw [conditionOperands, ih, List.flatMap_cons]

/-- The statement that a source is. -/
def FromItem.statement? : FromItem → Option Statement
  | .table _ _ => none
  | .derived s _ => some s

namespace Statement

/-- The aliases that the sources of a statement declare. -/
def declared (st : Statement) : List String :=
  st.sources.map FromItem.aliasName

/-- The columns that the clauses of a statement read, not counting those that the statements inside
it read for themselves. -/
def refs (st : Statement) : List ColumnRef :=
  st.columns.flatMap (fun o => o.term.refs) ++ conditionRefs st.conditions ++
    st.groupBy.flatMap Term.refs ++ st.orderBy.flatMap Term.refs

/-- The statements that stand directly in a statement. -/
def nested (st : Statement) : List Statement :=
  st.sources.filterMap FromItem.statement? ++ conditionOperands st.conditions

/-- Every column that a statement reads is of a table that its own sources declare, and so it is in
the statements inside it. -/
inductive WellScoped : Statement → Prop where
  | intro {st : Statement} :
    (∀ r ∈ st.refs, r.table ∈ st.declared) →
    (∀ inner ∈ st.nested, WellScoped inner) →
    WellScoped st

end Statement

/-- All columns are of declared tables. -/
def Covers (declared : List String) (refs : List ColumnRef) : Prop :=
  ∀ r ∈ refs, r.table ∈ declared

namespace Covers

variable {declared more : List String} {refs refs' : List ColumnRef}

@[simp] lemma nil : Covers declared [] :=
  fun _ hr => by cases hr

@[simp] lemma singleton_iff {c : ColumnRef} : Covers declared [c] ↔ c.table ∈ declared := by
  simp [Covers]

@[simp] lemma append_iff :
    Covers declared (refs ++ refs') ↔ Covers declared refs ∧ Covers declared refs' :=
  List.forall_mem_append

@[simp] lemma flatMap_iff {α : Type} {xs : List α} {f : α → List ColumnRef} :
    Covers declared (xs.flatMap f) ↔ ∀ x ∈ xs, Covers declared (f x) :=
  List.forall_mem_flatMap

lemma mono (h : Covers declared refs) (hsub : declared ⊆ more) : Covers more refs :=
  fun r hr => hsub (h r hr)

end Covers

/-- The condition reads columns of declared tables and has no operand. -/
structure Condition.Covered (declared : List String) (c : Condition) : Prop where
  refs : Covers declared c.refs
  operands : c.operands = []

lemma Condition.Covered.mono {declared more : List String} {c : Condition}
    (h : c.Covered declared) (hsub : declared ⊆ more) : c.Covered more :=
  ⟨h.refs.mono hsub, h.operands⟩

/-- The order, and the output columns that it calls for, read columns of declared tables. -/
structure Ordering.Covered (declared : List String) (o : Ordering) : Prop where
  terms : ∀ t ∈ o.terms, Covers declared t.refs
  columns : ∀ c ∈ o.columns, Covers declared c.term.refs

/-- The aliases that a scope gives out are declared. -/
structure Scope.Declares (s : Scope) (declared : List String) : Prop where
  ofSource : ∀ {n a}, s.aliasOf n = .ok a → a ∈ declared
  ofField : ∀ {n field a}, s.tableOf n field = .ok a → a ∈ declared

namespace Scope.Declares

variable {s : Scope} {declared : List String}

lemma identity (hs : s.Declares declared) {c : ClassNode} {t : Term} (h : s.identity c = .ok t) :
    Covers declared t.refs := by
  obtain ⟨a, ha, h⟩ := Except.bind_eq_ok.1 h
  cases h
  exact Covers.singleton_iff.2 (hs.ofSource ha)

lemma term (hs : s.Declares declared) {e : Expr} {t : Term} (h : s.term e = .ok t) :
    Covers declared t.refs := by
  induction e generalizing t with
  | column c =>
    obtain ⟨ref, href, h⟩ := Except.bind_eq_ok.1 h
    cases h
    obtain ⟨a, ha, href⟩ := Except.bind_eq_ok.1 href
    cases href
    exact Covers.singleton_iff.2 (hs.ofField ha)
  | arithmetic op l r ihl ihr =>
    obtain ⟨tl, hl, h⟩ := Except.bind_eq_ok.1 h
    obtain ⟨tr, hr, h⟩ := Except.bind_eq_ok.1 h
    cases h
    exact Covers.append_iff.2 ⟨ihl hl, ihr hr⟩
  | suffix b p ihb ihp =>
    obtain ⟨tb, hb, h⟩ := Except.bind_eq_ok.1 h
    obtain ⟨tp, hp, h⟩ := Except.bind_eq_ok.1 h
    cases h
    exact Covers.append_iff.2 ⟨ihb hb, ihp hp⟩
  | substring b p n ihb ihp ihn =>
    obtain ⟨tb, hb, h⟩ := Except.bind_eq_ok.1 h
    obtain ⟨tp, hp, h⟩ := Except.bind_eq_ok.1 h
    obtain ⟨tn, hn, h⟩ := Except.bind_eq_ok.1 h
    cases h
    exact Covers.append_iff.2 ⟨Covers.append_iff.2 ⟨ihb hb, ihp hp⟩, ihn hn⟩
  | indexOf b n ihb ihn =>
    obtain ⟨tb, hb, h⟩ := Except.bind_eq_ok.1 h
    obtain ⟨tn, hn, h⟩ := Except.bind_eq_ok.1 h
    cases h
    exact Covers.append_iff.2 ⟨ihb hb, ihn hn⟩
  | aggregate op e ih =>
    cases op with
    | count =>
      cases h
      exact Covers.nil
    | _ =>
      obtain ⟨te, he, h⟩ := Except.bind_eq_ok.1 h
      cases h
      show Covers declared te.refs
      exact ih he
  | bareAggregate op =>
    cases op with
    | count =>
      cases h
      exact Covers.nil
    | _ => cases h
  | value v =>
    obtain ⟨l, hl, h⟩ := Except.bind_eq_ok.1 h
    cases h
    exact Covers.nil
  | cast e type ih =>
    obtain ⟨te, he, h⟩ := Except.bind_eq_ok.1 h
    cases h
    show Covers declared te.refs
    exact ih he

lemma nodeTerm (hs : s.Declares declared) {n : Node} {t : Term} (h : s.nodeTerm n = .ok t) :
    Covers declared t.refs := by
  cases n with
  | object c => exact hs.identity h
  | expr e => exact hs.term h

lemma targetTerm (hs : s.Declares declared) {target : ObjectTarget} {t : Term}
    (h : s.targetTerm target = .ok t) : Covers declared t.refs := by
  cases target with
  | node c => exact hs.identity h
  | stored o =>
    obtain ⟨id, _, h⟩ := Except.bind_eq_ok.1 h
    cases h
    exact Covers.nil

lemma comparison (hs : s.Declares declared) {l r : Expr} {op : Comparison} {c : Condition}
    (h : s.comparison l op r = .ok c) : c.Covered declared := by
  obtain ⟨tl, hl, h⟩ := Except.bind_eq_ok.1 h
  obtain ⟨tr, hr, h⟩ := Except.bind_eq_ok.1 h
  cases h
  exact ⟨Covers.append_iff.2 ⟨hs.term hl, hs.term hr⟩, rfl⟩

lemma testReference (hs : s.Declares declared) {r : Reference} {f : Field}
    {test : RelationshipTest} {c : Condition} (h : s.testReference r f test = .ok c) :
    c.Covered declared := by
  obtain ⟨a, ha, h⟩ := Except.bind_eq_ok.1 h
  obtain ⟨column, _, h⟩ := Except.bind_eq_ok.1 h
  have hkey : Covers declared [⟨a, column⟩] := Covers.singleton_iff.2 (hs.ofField ha)
  cases test with
  | holds op target =>
    obtain ⟨t, ht, h⟩ := Except.bind_eq_ok.1 h
    cases h
    exact ⟨Covers.append_iff.2 ⟨hkey, hs.targetTerm ht⟩, rfl⟩
  | null op =>
    cases h
    exact ⟨hkey, rfl⟩

lemma testForeignKey (hs : s.Declares declared) {r : Reference} {f : Field}
    {test : RelationshipTest} {c : Condition} (h : s.testForeignKey r f test = .ok c) :
    c.Covered declared := by
  obtain ⟨op, target, reverse, column, a, owner, rfl, _, _, ha, howner, rfl⟩ :=
    Scope.testForeignKey_eq_ok_iff.1 h
  have hkey : Covers declared [⟨a, column⟩] := Covers.singleton_iff.2 (hs.ofField ha)
  exact ⟨Covers.append_iff.2 ⟨hs.identity howner, hkey⟩, rfl⟩

/-- The alias of a link table is declared by the table itself. -/
lemma testLink (hs : s.Declares declared) {r : Reference} {f : Field} {links links' : List FromItem}
    {test : RelationshipTest} {c : Condition} (h : s.testLink r f links test = .ok (c, links')) :
    links <+: links' ∧ c.Covered (declared ++ links'.map FromItem.aliasName) := by
  cases test with
  | null op => cases h
  | holds op target =>
    obtain ⟨t, ht, h⟩ := Except.bind_eq_ok.1 h
    obtain ⟨link, _, h⟩ := Except.bind_eq_ok.1 h
    obtain ⟨owner, howner, h⟩ := Except.bind_eq_ok.1 h
    cases h
    have hsub := List.subset_append_left declared
      ((links ++ [FromItem.table link.table (linkAlias links.length)]).map FromItem.aliasName)
    have hend (column : String) : Covers
        (declared ++ (links ++ [FromItem.table link.table (linkAlias links.length)]).map
          FromItem.aliasName) [⟨linkAlias links.length, column⟩] := by
      simp [FromItem.aliasName]
    have howner := (hs.identity howner).mono hsub
    have ht := (hs.targetTerm ht).mono hsub
    refine ⟨List.prefix_append _ _, ?_⟩
    have hinward := Covers.append_iff.2 ⟨howner, hend link.inward⟩
    have houtward := Covers.append_iff.2 ⟨hend link.outward, ht⟩
    exact ⟨Covers.append_iff.2 ⟨hinward, Covers.append_iff.2 ⟨houtward, Covers.nil⟩⟩, rfl⟩

lemma testRelationship (hs : s.Declares declared) {r : Reference} {links links' : List FromItem}
    {test : RelationshipTest} {c : Condition}
    (h : s.testRelationship r links test = .ok (c, links')) :
    links <+: links' ∧ c.Covered (declared ++ links'.map FromItem.aliasName) := by
  obtain ⟨⟨f, relation⟩, _, h⟩ := Except.bind_eq_ok.1 h
  have hsub := List.subset_append_left declared (links.map FromItem.aliasName)
  cases relation with
  | toOne =>
    obtain ⟨c', hc, h⟩ := Except.bind_eq_ok.1 h
    cases h
    exact ⟨List.prefix_rfl, (hs.testReference hc).mono hsub⟩
  | oneToMany =>
    obtain ⟨c', hc, h⟩ := Except.bind_eq_ok.1 h
    cases h
    exact ⟨List.prefix_rfl, (hs.testForeignKey hc).mono hsub⟩
  | manyToMany => exact hs.testLink h

lemma bag (hs : s.Declares declared) {n : Node} {op : Membership} {values : List Value}
    {c : Condition} (h : s.bag n op values = .ok c) : c.Covered declared := by
  obtain ⟨left, hleft, h⟩ := Except.bind_eq_ok.1 h
  obtain ⟨members, hmembers, h⟩ := Except.bind_eq_ok.1 h
  obtain ⟨literals, _, hentries⟩ := mem_members hmembers
  have hmember : ∀ d ∈ members.values, d.Covered declared := by
    intro d hd
    obtain ⟨e, he, rfl⟩ := List.mem_map.1 hd
    obtain ⟨l, _, rfl⟩ := (hentries e).1 he
    exact ⟨Covers.append_iff.2 ⟨hs.nodeTerm hleft, Covers.nil⟩, rfl⟩
  split at h
  · cases h
    exact ⟨Covers.nil, rfl⟩
  · cases h
    constructor
    · show Covers declared (conditionRefs members.values)
      rw [conditionRefs_eq_flatMap, Covers.flatMap_iff]
      exact fun d hd => (hmember d hd).refs
    · show conditionOperands members.values = []
      rw [conditionOperands_eq_flatMap, List.flatMap_eq_nil_iff]
      exact fun d hd => (hmember d hd).operands

lemma allColumns (hs : s.Declares declared) {c : ClassNode} {a : String} (ha : a ∈ declared)
    {named : Bool} {outputs : List Output} (h : s.allColumns c a named = .ok outputs) :
    ∀ o ∈ outputs, Covers declared o.term.refs := by
  obtain ⟨stored, columns, _, hcolumns, rfl⟩ := Scope.exists_of_allColumns h
  refine List.forall_mem_cons.2 ⟨Covers.singleton_iff.2 ha, fun o ho => ?_⟩
  obtain ⟨entry, _, table, htable, rfl⟩ := hcolumns.exists_of_mem_right ho
  exact Covers.singleton_iff.2 (hs.ofField htable)

lemma classColumns (hs : s.Declares declared) {shape : Shape} {c : ClassNode}
    {outputs : List Output} (h : s.classColumns shape c = .ok outputs) :
    ∀ o ∈ outputs, Covers declared o.term.refs := by
  obtain ⟨a, ha, h⟩ := Except.bind_eq_ok.1 h
  have ha := hs.ofSource ha
  cases shape with
  | whole =>
    cases h
    simp [Scope.objectColumn, Scope.identityColumn, Term.refs, ha]
  | derived => exact hs.allColumns ha h
  | identities =>
    cases h
    simp [Scope.identityColumn, Term.refs, ha]
  | columns => exact hs.allColumns ha h

lemma itemColumns (hs : s.Declares declared) {shape : Shape} {item : SelectItem}
    {outputs : List Output} (h : s.itemColumns shape item = .ok outputs) :
    ∀ o ∈ outputs, Covers declared o.term.refs := by
  unfold Scope.itemColumns at h
  split at h
  · exact hs.classColumns h
  · obtain ⟨t, ht, h⟩ := Except.bind_eq_ok.1 h
    cases h
    intro o ho
    obtain rfl := List.mem_singleton.1 ho
    exact hs.term ht

lemma columns (hs : s.Declares declared) {shape : Shape} {items : List SelectItem}
    {outputs : List Output} (h : s.columns shape items = .ok outputs) :
    ∀ o ∈ outputs, Covers declared o.term.refs := by
  obtain ⟨parts, hparts, h⟩ := Except.bind_eq_ok.1 h
  cases h
  intro o ho
  obtain ⟨part, hpart, ho⟩ := List.mem_flatten.1 ho
  obtain ⟨item, _, hitem⟩ := (Except.mapM_eq_ok_iff.1 hparts).exists_of_mem_right hpart
  exact hs.itemColumns hitem o ho

lemma groupTerms (hs : s.Declares declared) {n : Node} {terms : List Term}
    (h : s.groupTerms n = .ok terms) : ∀ t ∈ terms, Covers declared t.refs := by
  cases n with
  | object c =>
    obtain ⟨outputs, houtputs, h⟩ := Except.bind_eq_ok.1 h
    cases h
    exact List.forall_mem_map.2 (hs.classColumns houtputs)
  | expr e =>
    obtain ⟨t, ht, h⟩ := Except.bind_eq_ok.1 h
    cases h
    exact List.forall_mem_singleton.2 (hs.term ht)

lemma grouping (hs : s.Declares declared) {nodes : List Node} {terms : List Term}
    (h : s.grouping nodes = .ok terms) : ∀ t ∈ terms, Covers declared t.refs := by
  obtain ⟨parts, hparts, h⟩ := Except.bind_eq_ok.1 h
  cases h
  intro t ht
  obtain ⟨part, hpart, ht⟩ := List.mem_flatten.1 ht
  obtain ⟨n, _, hn⟩ := (Except.mapM_eq_ok_iff.1 hparts).exists_of_mem_right hpart
  exact hs.groupTerms hn t ht

lemma ofNodes (hs : s.Declares declared) {orderBy : List Node} {select : List SelectItem}
    {first : Nat} {o : Ordering} (h : Ordering.ofNodes s orderBy select first = .ok o) :
    o.Covered declared := by
  refine Except.foldlM_invariant (Ordering.Covered declared) ?_
    ⟨List.forall_mem_nil _, List.forall_mem_nil _⟩ h
  rintro n _ o o' ho hn
  obtain rfl | ⟨t, ht, hterms, hcolumns⟩ := Ordering.addNode_cases hn
  · exact ho
  · have hlast := hs.nodeTerm ht
    constructor
    · rw [hterms]
      exact List.forall_mem_append.2 ⟨ho.terms, List.forall_mem_singleton.2 hlast⟩
    · obtain hcolumns | hcolumns := hcolumns
      · rw [hcolumns]
        exact ho.columns
      · rw [hcolumns]
        exact List.forall_mem_append.2 ⟨ho.columns, List.forall_mem_singleton.2 hlast⟩

lemma seek (hs : s.Declares declared) {start : Option Seek} {cs : List Condition}
    (h : Seek.conditions s start = .ok cs) : Covers declared (conditionRefs cs) := by
  cases start with
  | none =>
    cases h
    exact Covers.nil
  | some start =>
    obtain ⟨c, hc, h⟩ := Except.bind_eq_ok.1 h
    cases h
    exact Covers.append_iff.2 ⟨(hs.comparison hc).refs, Covers.nil⟩

end Scope.Declares

end ObjectQuery.Sql
