import Mathlib
import ObjectQuery.Proofs.Sql.Relationship
import ObjectQuery.Proofs.Sql.Tests

/-!
# Link tables of a statement

A test of a relationship that is kept in a link table adds the table to the sources. The tables
stand in the order of the tests, each under the alias of its number, whatever groups the tests are
in (`links_condition`).
-/

namespace ObjectQuery

/-- Whether a test is of a relationship that the model keeps in a link table. -/
def Model.isLinked (m : Model) : Constraint → Bool
  | .contains r _ _ =>
    ((m.fields r.owner.type).toOption.bind fun fields => (fields.get? r.field).bind m.relation?) ==
      some .manyToMany
  | _ => false

namespace Sql

/-- The link table that a test calls for, if it does for one. -/
def Scope.linkTable? (s : Scope) : Constraint → Option LinkTable
  | .contains r _ _ =>
    match s.relationship r with
    | .ok (f, .manyToMany) => (s.linkTable r f).toOption
    | _ => none
  | _ => none

/-- The link tables that tests call for, in order. -/
def Scope.linkTables (s : Scope) (tests : List Constraint) : List LinkTable :=
  tests.filterMap s.linkTable?

/-- Link tables as sources, under aliases that are numbered from `first` on. -/
def linkItems (first : Nat) (links : List LinkTable) : List FromItem :=
  links.mapIdx fun i link => .table link.table (Scope.linkAlias (first + i))

@[simp] lemma linkItems_nil (first : Nat) : linkItems first [] = [] := rfl

@[simp] lemma length_linkItems (first : Nat) (links : List LinkTable) :
    (linkItems first links).length = links.length :=
  List.length_mapIdx

lemma linkItems_append (first : Nat) (links more : List LinkTable) :
    linkItems first (links ++ more) =
      linkItems first links ++ linkItems (first + links.length) more := by
  simp only [linkItems, List.mapIdx_append, Nat.add_comm, Nat.add_left_comm]

lemma append_number_injective (base : String) :
    Function.Injective fun i : Nat => base ++ toString i :=
  fun _ _ h => Nat.repr_injective ((String.append_right_inj base).1 h)

lemma map_linkItems (first : Nat) (links : List LinkTable) :
    (linkItems first links).map FromItem.aliasName =
      (List.range links.length).map fun i => Scope.linkAlias (first + i) := by
  exact List.ext_getElem (by simp) (by simp [linkItems, FromItem.aliasName])

lemma exists_mem_linkItems {links : List LinkTable} {link : LinkTable} (h : link ∈ links)
    (first : Nat) : ∃ aliasName, .table link.table aliasName ∈ linkItems first links := by
  obtain ⟨i, hi, rfl⟩ := List.mem_iff_getElem.1 h
  exact ⟨_, List.mem_mapIdx.2 ⟨i, hi, rfl⟩⟩

/-- Link tables have different aliases. -/
lemma nodup_linkItems (first : Nat) (links : List LinkTable) :
    ((linkItems first links).map FromItem.aliasName).Nodup := by
  rw [map_linkItems]
  refine List.nodup_range.map fun i j h => ?_
  have hij := append_number_injective "indirect" h
  omega

lemma linkTables_append (s : Scope) (tests more : List Constraint) :
    s.linkTables (tests ++ more) = s.linkTables tests ++ s.linkTables more :=
  List.filterMap_append

lemma linkTables_singleton (s : Scope) (c : Constraint) :
    s.linkTables [c] = (s.linkTable? c).toList := by
  unfold Scope.linkTables
  cases hlink : s.linkTable? c with
  | none => exact List.filterMap_cons_none hlink
  | some link => exact List.filterMap_cons_some hlink

/-- A test without a link table leaves the sources as they are. -/
lemma append_linkItems_of_none {s : Scope} {c : Constraint} (hc : s.linkTable? c = none)
    (links : List FromItem) : links ++ linkItems links.length (s.linkTables [c]) = links := by
  rw [linkTables_singleton, hc, Option.toList_none, linkItems_nil, List.append_nil]

lemma links_testRelationship {s : Scope} {r : Reference} {op : Containment} {target : ObjectTarget}
    {links links' : List FromItem} {d : Condition}
    (h : s.testRelationship r links (.holds op target) = .ok (d, links')) :
    links' = links ++ linkItems links.length (s.linkTables [.contains r op target]) := by
  obtain ⟨⟨f, relation⟩, hr, h⟩ := Except.bind_eq_ok.1 h
  cases relation with
  | toOne | oneToMany =>
    obtain ⟨d', _, h⟩ := Except.bind_eq_ok.1 h
    cases h
    exact (append_linkItems_of_none (by simp [Scope.linkTable?, hr]) links).symm
  | manyToMany =>
    obtain ⟨t, _, h⟩ := Except.bind_eq_ok.1 h
    obtain ⟨link, hlink, h⟩ := Except.bind_eq_ok.1 h
    obtain ⟨owner, _, h⟩ := Except.bind_eq_ok.1 h
    cases h
    simp [Scope.linkTables, Scope.linkTable?, hr, hlink, Except.toOption, linkItems]

/-- A null test calls for no link table: it fails on a collection that is kept in one. -/
lemma links_testNull {s : Scope} {r : Reference} {op : NullTest} {links links' : List FromItem}
    {d : Condition} (h : s.testRelationship r links (.null op) = .ok (d, links')) :
    links' = links := by
  obtain ⟨⟨f, relation⟩, _, h⟩ := Except.bind_eq_ok.1 h
  cases relation with
  | toOne | oneToMany =>
    obtain ⟨d', _, h⟩ := Except.bind_eq_ok.1 h
    cases h
    rfl
  | manyToMany => cases h

lemma links_test {s : Scope} {links links' : List FromItem} {c : Constraint} {d : Condition}
    (hc : c.isGroup = false) (h : (condition s links c).outcome = .ok (d, links')) :
    links' = links ++ linkItems links.length (s.linkTables c.tests) := by
  cases tested_of_condition hc h with
  | contains hd => exact links_testRelationship hd
  | referenceNull hd =>
    obtain rfl := links_testNull hd
    exact (append_linkItems_of_none rfl _).symm
  | compare | nullTest | memberOf | identity | bag =>
    exact (append_linkItems_of_none rfl links).symm

/-- A constraint adds the link tables that its tests call for, in their order. -/
lemma links_condition {s : Scope} {links links' : List FromItem} {c : Constraint} {d : Condition}
    (h : (condition s links c).outcome = .ok (d, links')) :
    links' = links ++ linkItems links.length (s.linkTables c.tests) := by
  have hind : Inductive s (fun _ => True)
      (fun links c _ links' => links' = links ++ linkItems links.length (s.linkTables c.tests))
      (fun links cs _ links' =>
        links' = links ++ linkItems links.length (s.linkTables (Constraint.memberTests cs))) := by
    constructor
    · exact fun _ hc h => links_test hc h
    · exact fun h => h
    · exact fun {links} => (List.append_nil links).symm
    · rintro links c d middle cs ds links' _ rfl rfl
      rw [Constraint.memberTests, linkTables_append, linkItems_append, List.length_append,
        length_linkItems, List.append_assoc]
  exact condition_induction hind (fun _ _ => trivial) h

/-- The link tables of a query are those that its tests call for. -/
lemma links_root {s : Scope} {constraint : Option Constraint} {cs : List Condition}
    {links : List FromItem} (h : (rootCondition s constraint).outcome = .ok (cs, links)) :
    links = linkItems 0 (s.linkTables ((constraint.map Constraint.tests).getD [])) ∧
      cs.length = constraint.toList.length := by
  cases constraint with
  | none =>
    cases h
    exact ⟨rfl, rfl⟩
  | some c =>
    simp only [rootCondition, Traced.outcome_bind, Traced.outcome_pure] at h
    obtain ⟨⟨d, links'⟩, hd, h⟩ := Except.bind_eq_ok.1 h
    cases h
    exact ⟨links_condition hd, rfl⟩

lemma isLinked_eq {s : Scope} {r : Reference} {op : Containment} {target : ObjectTarget} {f : Field}
    {relation : Relation} (h : s.relationship r = .ok (f, relation)) :
    s.model.isLinked (.contains r op target) = (relation == .manyToMany) := by
  obtain ⟨fields, hfields, hf, hrelation⟩ := Scope.relationship_eq_ok_iff.1 h
  simp [Model.isLinked, hfields, hf, hrelation, Except.toOption]

/-- Among tests that compile, those of relationships that are kept in a link table call for one. -/
lemma isSome_linkTable? {s : Scope} {test : Constraint} {before after : List FromItem}
    {d : Condition} (h : (condition s before test).outcome = .ok (d, after)) :
    (s.linkTable? test).isSome = s.model.isLinked test := by
  cases test with
  | contains r op target =>
    obtain ⟨⟨f, relation⟩, hr, h⟩ := Except.bind_eq_ok.1 h
    rw [isLinked_eq hr]
    cases relation with
    | toOne | oneToMany => simp [Scope.linkTable?, hr]
    | manyToMany =>
      obtain ⟨t, _, h⟩ := Except.bind_eq_ok.1 h
      obtain ⟨link, hlink, _⟩ := Except.bind_eq_ok.1 h
      simp [Scope.linkTable?, hr, hlink, Except.toOption]
  | _ => rfl

/-- There is one link table for each test of a relationship that is kept in one, in order. -/
lemma forall₂_linkTables {s : Scope} {tests : List Constraint}
    (h : ∀ test ∈ tests, (s.linkTable? test).isSome = s.model.isLinked test) :
    List.Forall₂ (fun test link => s.linkTable? test = some link)
      (tests.filter s.model.isLinked) (s.linkTables tests) := by
  induction tests with
  | nil => exact .nil
  | cons test tests ih =>
    obtain ⟨htest, hrest⟩ := List.forall_mem_cons.1 h
    have ih := ih hrest
    cases hlink : s.linkTable? test with
    | none =>
      rw [hlink] at htest
      rw [List.filter_cons_of_neg (by simp [← htest]), Scope.linkTables,
        List.filterMap_cons_none hlink]
      exact ih
    | some link =>
      rw [hlink] at htest
      rw [List.filter_cons_of_pos (by simp [← htest]), Scope.linkTables,
        List.filterMap_cons_some hlink]
      exact .cons hlink ih

end Sql

end ObjectQuery
