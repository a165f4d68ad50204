import Mathlib
import ObjectQuery.Proofs.Query.Edit
import ObjectQuery.Proofs.Sql.FieldTables
import ObjectQuery.Sql.Compilation

/-!
# A relationship from both ends

A collection and the field at its other end are one relationship, so a test of either says the same of
two objects. If the other end is a reference, both tests compare its column with the identity of the
owner. Otherwise both join the objects with a link table, whose name and columns come out the same
from either end (`linkOf_comm`).
-/

namespace ObjectQuery

namespace Field

variable {f : Field}

/-- The link table that a collection names for itself. -/
def ownLink? : Field → Option LinkTable
  | .collection _ _ _ link => link
  | _ => none

lemma linkOf_eq (a b : String) : linkOf a b = ⟨(linkOf a b).table, a, b⟩ := rfl

/-- From the other end a link table has the same name, and its columns change places. -/
lemma linkOf_comm (a b : String) : linkOf b a = ⟨(linkOf a b).table, b, a⟩ := by
  unfold linkOf
  rcases lt_trichotomy a b with h | rfl | h
  · rw [if_pos h, if_neg h.asymm]
  · rfl
  · rw [if_pos h, if_neg h.asymm]

lemma linkTable?_eq_linkOf (hunnamed : f.ownLink? = none) {reverse : String}
    (hreverse : f.reverse? = some reverse) {owner : String} {link : LinkTable}
    (hlink : f.linkTable? owner = some link) :
    link = linkOf (Naming.linkColumn reverse) (Naming.linkColumn f.name) := by
  cases f with
  | collection name target reverse' given =>
    obtain rfl : given = none := hunnamed
    obtain rfl : reverse' = some reverse := hreverse
    exact (Option.some.inj hlink).symm
  | _ => cases hlink

end Field

namespace Model

variable {m : Model} {f : Field}

/-- A collection of one type and a field of another are the two ends of a relationship: each names the
other one and is led to it, and neither names a link table. -/
structure BothEnds (m : Model) (owner element : ClassType) (d e : Field) : Prop where
  collection : d.isRelationship = true ∧ d.isReference = false
  relationship : e.isRelationship = true
  field : ∃ fields, m.fields owner = .ok fields ∧ fields.get? d.name = some d
  back : ∃ fields, m.fields element = .ok fields ∧ fields.get? e.name = some e
  names : d.reverse? = some e.name ∧ e.reverse? = some d.name
  leads : m.reverseField? d = some e ∧ m.reverseField? e = some d
  unnamed : d.ownLink? = none ∧ e.ownLink? = none

end Model

namespace Sql

/-- A row of a link table joins an owner with an element. -/
def Condition.joined (op : Containment) (row : String) (link : LinkTable)
    (owner element : Term) : Condition :=
  .both (op == .doesNotContain) (.compare owner .equals (.column ⟨row, link.inward⟩))
    (.compare (.column ⟨row, link.outward⟩) .equals element)

namespace Scope

variable {s : Scope} {r : Reference} {f : Field} {links : List FromItem} {op : Containment}

lemma outcome_contains (target : ObjectTarget) :
    (condition s links (.contains r op target)).outcome =
      s.testRelationship r links (.holds op target) := by
  rfl

lemma testRelationship_reference (hf : s.relationship r = .ok (f, .toOne))
    (hreference : f.isReference = true) {table : String}
    (htable : s.tableOf r.owner.id f.name = .ok table) {target : ClassNode} {identity : Term}
    (htarget : s.identity target = .ok identity) :
    s.testRelationship r links (.holds op (.node target)) = .ok
      (.compare (.column ⟨table, Naming.referenceColumn f.name⟩) op.comparison identity, links) := by
  have htest : s.testReference r f (.holds op (.node target)) = .ok
      (.compare (.column ⟨table, Naming.referenceColumn f.name⟩) op.comparison identity) := by
    refine Except.bind_eq_ok.2 ⟨table, htable, ?_⟩
    refine Except.bind_eq_ok.2 ⟨_, foreignKey_of_isReference hreference "reference", ?_⟩
    exact Except.bind_eq_ok.2 ⟨identity, htarget, rfl⟩
  exact Except.bind_eq_ok.2 ⟨_, hf, Except.bind_eq_ok.2 ⟨_, htest, rfl⟩⟩

lemma testRelationship_foreignKey (hf : s.relationship r = .ok (f, .oneToMany)) {reverse : Field}
    (hreverse : s.model.reverseField? f = some reverse) (hreference : reverse.isReference = true)
    {owner : Term} (howner : s.identity r.owner = .ok owner) {target : ClassNode} {table : String}
    (htable : s.tableOf target.id reverse.name = .ok table) :
    s.testRelationship r links (.holds op (.node target)) = .ok (.compare owner op.comparison
      (.column ⟨table, Naming.referenceColumn reverse.name⟩), links) := by
  have htest := testForeignKey_eq_ok_iff.2 ⟨op, target, reverse, _, table, owner, rfl, hreverse,
    foreignKey_of_isReference hreference "reverse reference", htable, howner, rfl⟩
  exact Except.bind_eq_ok.2 ⟨_, hf, Except.bind_eq_ok.2 ⟨_, htest, rfl⟩⟩

lemma testRelationship_link (hf : s.relationship r = .ok (f, .manyToMany)) {link : LinkTable}
    (hlink : s.linkTable r f = .ok link) {owner : Term} (howner : s.identity r.owner = .ok owner)
    {target : ClassNode} {element : Term} (helement : s.identity target = .ok element) :
    s.testRelationship r links (.holds op (.node target)) = .ok
      (.joined op (linkAlias links.length) link owner element,
        links ++ [.table link.table (linkAlias links.length)]) := by
  refine Except.bind_eq_ok.2 ⟨_, hf, ?_⟩
  refine Except.bind_eq_ok.2 ⟨element, helement, ?_⟩
  refine Except.bind_eq_ok.2 ⟨link, hlink, ?_⟩
  exact Except.bind_eq_ok.2 ⟨owner, howner, rfl⟩

/-- A collection that names no link table has the one that is named after both ends, whichever class
declares it. -/
lemma linkTable_eq_linkOf (hm : s.model.Accepted) {fields : SortedMap String Field}
    (hfields : s.model.fields r.owner.type = .ok fields) (hf : fields.get? f.name = some f)
    (hrelation : s.model.relation? f = some .manyToMany) (hunnamed : f.ownLink? = none)
    {reverse : String} (hreverse : f.reverse? = some reverse) :
    s.linkTable r f =
      .ok (Field.linkOf (Naming.linkColumn reverse) (Naming.linkColumn f.name)) := by
  obtain ⟨link, hlink⟩ := exists_linkTable hm hfields hf hrelation
  obtain ⟨_, declaring, _, _, hnamed⟩ := linkTable_eq_ok_iff.1 hlink
  rw [hlink, Field.linkTable?_eq_linkOf hunnamed hreverse hnamed]

end Scope

/-- Tests from either end compare the identity of the owner with the column of the reference. -/
def CompareColumn (s : Scope) (owner element : ClassNode) (d e : Field) : Prop :=
  ∃ identity table, s.identity owner = .ok identity ∧ s.tableOf element.id e.name = .ok table ∧
    ∀ relation relation' op links,
      (condition s links (.contains ⟨owner, d.name, relation⟩ op (.node element))).outcome =
        .ok (.compare identity op.comparison
          (.column ⟨table, Naming.referenceColumn e.name⟩), links) ∧
      (condition s links (.contains ⟨element, e.name, relation'⟩ op (.node owner))).outcome =
        .ok (.compare (.column ⟨table, Naming.referenceColumn e.name⟩) op.comparison
          identity, links)

/-- Tests from either end join the objects with the same table, each with the same column. -/
def JoinLinkTable (s : Scope) (owner element : ClassNode) (d e : Field) : Prop :=
  ∃ identity identity' table column column', s.identity owner = .ok identity ∧
    s.identity element = .ok identity' ∧
    ∀ relation relation' op links,
      (condition s links (.contains ⟨owner, d.name, relation⟩ op (.node element))).outcome =
        .ok (.joined op (Scope.linkAlias links.length) ⟨table, column, column'⟩ identity identity',
          links ++ [.table table (Scope.linkAlias links.length)]) ∧
      (condition s links (.contains ⟨element, e.name, relation'⟩ op (.node owner))).outcome =
        .ok (.joined op (Scope.linkAlias links.length) ⟨table, column', column⟩ identity' identity,
          links ++ [.table table (Scope.linkAlias links.length)])

section

variable {s : Scope} {owner element : ClassNode} {d e : Field}

lemma compareColumn_of_isReference (h : s.model.BothEnds owner.type element.type d e)
    (hreference : e.isReference = true) {identity : Term} (hidentity : s.identity owner = .ok identity)
    {table : String} (htable : s.tableOf element.id e.name = .ok table) :
    CompareColumn s owner element d e := by
  obtain ⟨fields, hfields, hd⟩ := h.field
  obtain ⟨fields', hfields', he⟩ := h.back
  have hrelation := Model.relation?_of_reverseField? h.collection.1 h.collection.2 h.leads.1
  rw [if_pos hreference] at hrelation
  refine ⟨identity, table, hidentity, htable, fun relation relation' op links => ⟨?_, ?_⟩⟩
  · have hfound : s.relationship ⟨owner, d.name, relation⟩ = .ok (d, .oneToMany) :=
      Scope.relationship_eq_ok_iff.2 ⟨fields, hfields, hd, hrelation⟩
    rw [Scope.outcome_contains]
    exact Scope.testRelationship_foreignKey hfound h.leads.1 hreference hidentity htable
  · have hrelation' := s.model.relation?_of_isReference hreference
    have hfound : s.relationship ⟨element, e.name, relation'⟩ = .ok (e, .toOne) :=
      Scope.relationship_eq_ok_iff.2 ⟨fields', hfields', he, hrelation'⟩
    rw [Scope.outcome_contains]
    exact Scope.testRelationship_reference hfound hreference htable hidentity

/-- Both ends are kept in one link table, in which their columns change places. -/
lemma exists_linkTable_of_bothEnds (hm : s.model.Accepted)
    (h : s.model.BothEnds owner.type element.type d e)
    (hrelation : s.model.relation? d = some .manyToMany)
    (hrelation' : s.model.relation? e = some .manyToMany) :
    ∃ table column column',
      (∀ relation, s.linkTable ⟨owner, d.name, relation⟩ d = .ok ⟨table, column, column'⟩) ∧
      ∀ relation, s.linkTable ⟨element, e.name, relation⟩ e = .ok ⟨table, column', column⟩ := by
  obtain ⟨fields, hfields, hd⟩ := h.field
  obtain ⟨fields', hfields', he⟩ := h.back
  refine ⟨(Field.linkOf (Naming.linkColumn e.name) (Naming.linkColumn d.name)).table,
    Naming.linkColumn e.name, Naming.linkColumn d.name, fun relation => ?_, fun relation => ?_⟩
  · rw [← Field.linkOf_eq]
    exact Scope.linkTable_eq_linkOf hm hfields hd hrelation h.unnamed.1 h.names.1
  · rw [← Field.linkOf_comm]
    exact Scope.linkTable_eq_linkOf hm hfields' he hrelation' h.unnamed.2 h.names.2

lemma joinLinkTable_of_isReference (hm : s.model.Accepted)
    (h : s.model.BothEnds owner.type element.type d e) (hreference : e.isReference = false)
    {identity identity' : Term} (hidentity : s.identity owner = .ok identity)
    (hidentity' : s.identity element = .ok identity') : JoinLinkTable s owner element d e := by
  obtain ⟨fields, hfields, hd⟩ := h.field
  obtain ⟨fields', hfields', he⟩ := h.back
  have hrelation := Model.relation?_of_reverseField? h.collection.1 h.collection.2 h.leads.1
  rw [hreference] at hrelation
  have hrelation' := Model.relation?_of_reverseField? h.relationship hreference h.leads.2
  rw [h.collection.2] at hrelation'
  obtain ⟨table, column, column', hlink, hlink'⟩ :=
    exists_linkTable_of_bothEnds hm h hrelation hrelation'
  refine ⟨identity, identity', table, column, column', hidentity, hidentity',
    fun relation relation' op links => ⟨?_, ?_⟩⟩
  · have hfound : s.relationship ⟨owner, d.name, relation⟩ = .ok (d, .manyToMany) :=
      Scope.relationship_eq_ok_iff.2 ⟨fields, hfields, hd, hrelation⟩
    exact Scope.testRelationship_link hfound (hlink relation) hidentity hidentity'
  · have hfound : s.relationship ⟨element, e.name, relation'⟩ = .ok (e, .manyToMany) :=
      Scope.relationship_eq_ok_iff.2 ⟨fields', hfields', he, hrelation'⟩
    exact Scope.testRelationship_link hfound (hlink' relation') hidentity' hidentity

end

/-- In an accepted model, tests of a relationship of two sources from both of its ends become one
comparison, or joins with one link table. -/
theorem contains_from_both_ends {m : Model} (hm : m.Accepted) {p : Platform} {q : Query}
    {entered : Entered} (hentered : (enter (.ofQuery m p q) q.sources).outcome = .ok entered)
    (hknown : KnownById q.sources) {owner element : ClassNode} (howner : .object owner ∈ q.sources)
    (helement : .object element ∈ q.sources) {d e : Field}
    (h : m.BothEnds owner.type element.type d e) :
    (e.isReference = true →
      CompareColumn ((Scope.ofQuery m p q).enteredWith entered) owner element d e) ∧
    (e.isReference = false →
      JoinLinkTable ((Scope.ofQuery m p q).enteredWith entered) owner element d e) := by
  have hidentity : ∀ c, .object c ∈ q.sources →
      ∃ identity, ((Scope.ofQuery m p q).enteredWith entered).identity c = .ok identity := by
    intro c hc
    obtain ⟨base, _, hbase, _⟩ := lookup_object hentered hknown hc
    exact ⟨_, Except.bind_eq_ok.2 ⟨base, hbase, rfl⟩⟩
  obtain ⟨identity, hidentity₁⟩ := hidentity owner howner
  obtain ⟨identity', hidentity₂⟩ := hidentity element helement
  constructor
  · intro hreference
    obtain ⟨fields, hfields, he⟩ := h.back
    obtain ⟨table, htable⟩ := exists_tableOf hentered hknown helement hfields he
    exact compareColumn_of_isReference h hreference hidentity₁ htable
  · intro hreference
    exact joinLinkTable_of_isReference hm h hreference hidentity₁ hidentity₂

end Sql

namespace Sample

/-- Folders that are drafts, with tags and shelves. -/
def folder : ClassNode :=
  ⟨⟨0⟩, draftFolder⟩

def tag : ClassNode :=
  ⟨⟨1⟩, .single "Tag"⟩

def shelf : ClassNode :=
  ⟨⟨2⟩, .single "Shelf"⟩

/-- The query for the three of them. -/
def filed : Query :=
  [.addSource (.object folder), .addSource (.object tag),
    .addSource (.object shelf)].foldl Edit.apply (.empty ⟨3⟩)

/-- The tags of a folder and the items of a tag are one relationship, although both ends are declared
for items. -/
lemma bothEnds_tags : archive.BothEnds folder.type tag.type
    (.collection "tags" "Tag" (some "items") none)
    (.collection "items" "Item" (some "tags") none) where
  collection := by decide
  relationship := by decide
  field := Except.exists_of_toOption_bind (by decide +kernel)
  back := Except.exists_of_toOption_bind (by decide +kernel)
  names := by decide
  leads := by decide +kernel
  unnamed := by decide

/-- The folders on a shelf have it as their reference. -/
lemma bothEnds_shelf : archive.BothEnds shelf.type folder.type
    (.collection "folders" "Folder" (some "shelf") none)
    (.reference "shelf" "Shelf" (some "folders")) where
  collection := by decide
  relationship := by decide
  field := Except.exists_of_toOption_bind (by decide +kernel)
  back := Except.exists_of_toOption_bind (by decide +kernel)
  names := by decide
  leads := by decide +kernel
  unnamed := by decide

end Sample

/-- Folders join with tags by one link table, and with shelves by a column of theirs. -/
theorem contains_from_both_ends_filed : ∃ entered,
    (Sql.enter (.ofQuery Sample.archive .sqlite Sample.filed) Sample.filed.sources).outcome =
      .ok entered ∧
    Sql.JoinLinkTable ((Sql.Scope.ofQuery Sample.archive .sqlite Sample.filed).enteredWith entered)
      Sample.folder Sample.tag (.collection "tags" "Tag" (some "items") none)
      (.collection "items" "Item" (some "tags") none) ∧
    Sql.CompareColumn ((Sql.Scope.ofQuery Sample.archive .sqlite Sample.filed).enteredWith entered)
      Sample.shelf Sample.folder (.collection "folders" "Folder" (some "shelf") none)
      (.reference "shelf" "Shelf" (some "folders")) := by
  have hentered : (Sql.enter (.ofQuery Sample.archive .sqlite Sample.filed)
      Sample.filed.sources).outcome.toOption.isSome := by
    decide +kernel
  obtain ⟨entered, hentered⟩ := Except.exists_of_isSome_toOption hentered
  have hknown : Sql.KnownById Sample.filed.sources := Sql.knownById_of_nodup (by decide)
  have hfolder : .object Sample.folder ∈ Sample.filed.sources := List.mem_cons_self
  have htag : .object Sample.tag ∈ Sample.filed.sources :=
    List.mem_cons_of_mem _ List.mem_cons_self
  have hshelf : .object Sample.shelf ∈ Sample.filed.sources :=
    List.mem_cons_of_mem _ (List.mem_cons_of_mem _ List.mem_cons_self)
  have hlink := Sql.contains_from_both_ends Sample.accepted_archive hentered hknown hfolder htag
    Sample.bothEnds_tags
  have hcolumn := Sql.contains_from_both_ends Sample.accepted_archive hentered hknown hshelf hfolder
    Sample.bothEnds_shelf
  exact ⟨entered, hentered, hlink.2 rfl, hcolumn.1 rfl⟩

end ObjectQuery
