import Mathlib
import ObjectQuery.Proofs.Model.Naming
import ObjectQuery.Proofs.Sql.BothEnds
import ObjectQuery.Proofs.Sql.Evaluation

/-!
# Columns of derived link tables

A collection that names no link table has one that is named after both ends, with a column for each.
A row of it may join any two objects, unless both ends are named alike, as those of a collection
that is its own reverse: then both columns are one, and a row joins an object with itself alone
(`linkColumns_eq_iff`).
-/

namespace ObjectQuery

namespace Sql

/-- Objects of the type have the collection, in the link table. -/
structure Linked (m : Model) (t : ClassType) (f : Field) (link : LinkTable) : Prop where
  field : ∃ fields, m.fields t = .ok fields ∧ fields.get? f.name = some f
  kept : KeptInLinkTable m t f link

/-- Some row of the table under the alias makes the condition true, whatever the other rows are. -/
def Joinable (E : Evaluator) (rows : Combination) (aliasName : String) (c : Condition) : Prop :=
  ∃ row, E.truth (Function.update rows aliasName row) c = .true

/-- A test whether the collection of a source has an object of another source, or of the same one,
can be made true by a row of the link table: for any two objects or, if the table has one column,
for an object and itself. -/
def JoinsBy (m : Model) (t : ClassType) (f : Field) (link : LinkTable) : Prop :=
  ∀ (p : Platform) (q : Query) (entered : Entered),
    (enter (.ofQuery m p q) q.sources).outcome = .ok entered → KnownById q.sources →
    ∀ owner element, .object owner ∈ q.sources → .object element ∈ q.sources → owner.type = t →
    ∀ relation links, ∃ a b d,
      (Scope.ofQuery m p q).aliasOf owner.id = .ok a ∧
      (Scope.ofQuery m p q).aliasOf element.id = .ok b ∧
      (condition ((Scope.ofQuery m p q).enteredWith entered) links
        (.contains ⟨owner, f.name, relation⟩ .contains (.node element))).outcome =
          .ok (d, links ++ [.table link.table (Scope.linkAlias links.length)]) ∧
      (a ≠ Scope.linkAlias links.length → b ≠ Scope.linkAlias links.length →
        ∀ (E : Evaluator) (rows : Combination),
          Joinable E rows (Scope.linkAlias links.length) d ↔
            (rows a Field.identityName).isSome ∧ (rows b Field.identityName).isSome ∧
              (link.inward = link.outward → SameIdentity rows a b))

section

variable {E : Evaluator} {rows : Combination} {a b aliasName : String} {link : LinkTable}

lemma truth_joined (E : Evaluator) (rows : Combination) (aliasName : String) (link : LinkTable)
    (owner element : Term) :
    E.truth rows (.joined .contains aliasName link owner element) =
      (Truth.equal (E.value rows owner) (rows aliasName link.inward)).and
        (.equal (rows aliasName link.outward) (E.value rows element)) := by
  show Truth.all [E.test rows _, E.test rows _] = _
  rw [E.test_equals, E.test_equals, E.value_column, E.value_column, Truth.all_cons, Truth.all_cons,
    Truth.all_nil, Truth.and_true]

/-- A row joins two objects if it has the identities of both in its columns. -/
lemma joinable_iff_exists (ha : a ≠ aliasName) (hb : b ≠ aliasName) :
    Joinable E rows aliasName
        (.joined .contains aliasName link (Scope.identityColumn a) (Scope.identityColumn b)) ↔
      ∃ row : Row, Truth.equal (rows a Field.identityName) (row link.inward) = .true ∧
        Truth.equal (row link.outward) (rows b Field.identityName) = .true := by
  refine exists_congr fun row => ?_
  rw [truth_joined, Scope.identityColumn, Scope.identityColumn, E.value_column, E.value_column,
    Function.update_of_ne ha, Function.update_of_ne hb, Function.update_self, Truth.and_eq_true_iff]

/-- There is such a row for any two objects if the columns are two, and otherwise for one object. -/
lemma joinable_iff (ha : a ≠ aliasName) (hb : b ≠ aliasName) :
    Joinable E rows aliasName
        (.joined .contains aliasName link (Scope.identityColumn a) (Scope.identityColumn b)) ↔
      (rows a Field.identityName).isSome ∧ (rows b Field.identityName).isSome ∧
        (link.inward = link.outward → SameIdentity rows a b) := by
  simp only [joinable_iff_exists ha hb, SameIdentity, Truth.equal_eq_true_iff]
  constructor
  · rintro ⟨row, ⟨hsome, hinward⟩, hsome', houtward⟩
    refine ⟨hsome, houtward ▸ hsome', fun hcolumns => ⟨hsome, ?_⟩⟩
    rw [hinward, hcolumns, houtward]
  · rintro ⟨hsome, hsome', hsame⟩
    by_cases hcolumns : link.inward = link.outward
    · obtain ⟨_, hsame⟩ := hsame hcolumns
      exact ⟨fun _ => rows a Field.identityName, ⟨hsome, rfl⟩, hsome, hsame⟩
    · refine ⟨Function.update (fun _ => rows b Field.identityName) link.inward
        (rows a Field.identityName), ?_⟩
      rw [Function.update_self, Function.update_of_ne (Ne.symm hcolumns)]
      exact ⟨⟨hsome, rfl⟩, hsome', rfl⟩

end

section

variable {m : Model} {t : ClassType} {f : Field} {link : LinkTable}

lemma Linked.joinsBy (h : Linked m t f link) (hrelation : m.relation? f = some .manyToMany) :
    JoinsBy m t f link := by
  intro p q entered hentered hknown owner element howner helement ht relation links
  subst ht
  obtain ⟨fields, hfields, hf⟩ := h.field
  obtain ⟨a, _, ha, _⟩ := lookup_object hentered hknown howner
  obtain ⟨b, _, hb, _⟩ := lookup_object hentered hknown helement
  have hfound : ((Scope.ofQuery m p q).enteredWith entered).relationship
      ⟨owner, f.name, relation⟩ = .ok (f, .manyToMany) :=
    Scope.relationship_eq_ok_iff.2 ⟨fields, hfields, hf, hrelation⟩
  have hlink := h.kept ((Scope.ofQuery m p q).enteredWith entered) ⟨owner, f.name, relation⟩ rfl rfl
  have hidentity : ((Scope.ofQuery m p q).enteredWith entered).identity owner =
      .ok (Scope.identityColumn a) := Except.bind_eq_ok.2 ⟨a, ha, rfl⟩
  have hidentity' : ((Scope.ofQuery m p q).enteredWith entered).identity element =
      .ok (Scope.identityColumn b) := Except.bind_eq_ok.2 ⟨b, hb, rfl⟩
  refine ⟨a, b, _, ha, hb, ?_, fun ha hb E rows => joinable_iff ha hb⟩
  rw [Scope.outcome_contains]
  exact Scope.testRelationship_link hfound hlink hidentity hidentity'

/-- A class has its own declaration of a collection in the link table of it. -/
lemma linked_of_declaration? (hm : m.Accepted) {c : PersistentClass}
    (hc : m.class? c.name = some c) (hf : c.declaration? f.name = some f)
    (hlink : f.linkTable? c.name = some link) : Linked m (.single c.name) f link := by
  have hcomponents : m.components (.single c.name) = .ok [c] := Model.components_single hc
  have hdeclares : c.declares f.name = true := by
    rw [← c.isSome_declaration?, hf]
    rfl
  constructor
  · obtain ⟨fields, hfields⟩ := Model.exists_fields hcomponents
    refine ⟨fields, hfields, ?_⟩
    rw [Model.get?_fields hcomponents hfields, List.findSome?_singleton,
      hm.field?_of_declaration? hc hf]
  · refine keptInLinkTable_of_search hcomponents ?_ hlink
    rw [List.findSome?_singleton, hm.declaringClass?_eq hc, if_pos hdeclares]

/-- In an accepted model, a collection that names no link table has one with a column for each end.
They are the same column just if both ends are named alike: the field and its reverse or, if it has
none, the class that declares it. A test of the collection can be made true by a row of the table
for any two objects if the columns are two, and otherwise for an object and itself alone. -/
theorem linkColumns_eq_iff (hm : m.Accepted) {c : PersistentClass} (hc : m.class? c.name = some c)
    (hf : f ∈ c.decl.fields) (hunnamed : f.ownLink? = none)
    (hrelation : m.relation? f = some .manyToMany) :
    ∃ link, f.linkTable? c.name = some link ∧
      (link.inward = link.outward ↔ Naming.SameEnd (Naming.ownerEnd c.name f.reverse?) f.name) ∧
      (c.declaration? f.name = some f → Linked m (.single c.name) f link) ∧
      ∀ t, Linked m t f link → JoinsBy m t f link := by
  obtain ⟨link, hlink⟩ :=
    Option.isSome_iff_exists.1 (Model.isSome_linkTable?_of_manyToMany hrelation c.name)
  refine ⟨link, hlink, ?_, fun hf => linked_of_declaration? hm hc hf hlink,
    fun t h => h.joinsBy hrelation⟩
  obtain _ | _ | ⟨name, target, reverse, _⟩ := f
  · cases hrelation
  · cases hrelation
  · obtain rfl := hunnamed
    rw [Naming.linkTable?_collection] at hlink
    obtain rfl := Option.some.inj hlink
    rw [Field.inward_linkOf, Field.outward_linkOf]
    exact Naming.linkColumn_eq_iff

end

end Sql

namespace Sample

/-- The tags of items, which are the other end of the items of tags. -/
def tags : Field :=
  .collection "tags" "Tag" (some "items") none

/-- The friends of members, which are their own other end. -/
def friends : Field :=
  .collection "friends" "Member" (some "friends") none

lemma isSome_build_club :
    (Model.build ⟨0⟩ "club" [⟨"Member", [], [friends]⟩]).toOption.isSome := by
  decide +kernel

/-- A club of members. -/
def club : Model :=
  (Model.build ⟨0⟩ "club" [⟨"Member", [], [friends]⟩]).toOption.get isSome_build_club

lemma accepted_club : club.Accepted :=
  Model.accepted_get isSome_build_club

end Sample

/-- The tags of items are kept in a table with two columns, and a row of it may join any item with
any tag. -/
theorem linkColumns_eq_iff_tags :
    Sample.archive.Accepted ∧ ∃ c, Sample.archive.class? c.name = some c ∧ c.name = "Item" ∧
      Sample.tags ∈ c.decl.fields ∧ Sample.tags.ownLink? = none ∧
      Sample.archive.relation? Sample.tags = some .manyToMany ∧
      Sample.tags.linkTable? c.name = some ⟨"ItemsTags", "Items", "Tags"⟩ ∧
      ¬ Naming.SameEnd "items" "tags" ∧
      Sql.JoinsBy Sample.archive (.single "Item") Sample.tags ⟨"ItemsTags", "Items", "Tags"⟩ := by
  have hitem : (Sample.archive.class? "Item").any (fun c => c.name = "Item" ∧
      Sample.tags ∈ c.decl.fields ∧ c.declaration? "tags" = some Sample.tags) = true := by
    decide +kernel
  obtain ⟨c, hc, hitem⟩ := (Option.any_eq_true _ _).1 hitem
  obtain ⟨hname, htags, hdeclaration⟩ := of_decide_eq_true hitem
  rw [← hname] at hc
  have hrelation : Sample.archive.relation? Sample.tags = some .manyToMany := by decide +kernel
  have htable : Sample.tags.linkTable? "Item" = some ⟨"ItemsTags", "Items", "Tags"⟩ := by
    decide +kernel
  rw [← hname] at htable ⊢
  obtain ⟨link, hlink, hcolumns, hlinked, hjoins⟩ :=
    Sql.linkColumns_eq_iff Sample.accepted_archive hc htags rfl hrelation
  obtain rfl := Option.some.inj (hlink.symm.trans htable)
  refine ⟨Sample.accepted_archive, c, hc, rfl, htags, rfl, hrelation, htable, ?_,
    hjoins _ (hlinked hdeclaration)⟩
  intro hends
  have hne : "Items" ≠ "Tags" := by decide
  exact hne (hcolumns.2 hends)

/-- The friends of members are kept in a table with one column. -/
theorem linkColumns_eq_friends :
    Sample.club.Accepted ∧ ∃ c, Sample.club.class? c.name = some c ∧
      Sample.friends ∈ c.decl.fields ∧ Sample.friends.ownLink? = none ∧
      Sample.club.relation? Sample.friends = some .manyToMany ∧
      Sample.friends.linkTable? c.name = some ⟨"FriendsFriends", "Friends", "Friends"⟩ := by
  have hmember : (Sample.club.class? "Member").any (fun c =>
      c.name = "Member" ∧ Sample.friends ∈ c.decl.fields) = true := by
    decide +kernel
  obtain ⟨c, hc, hmember⟩ := (Option.any_eq_true _ _).1 hmember
  obtain ⟨hname, hfriends⟩ := of_decide_eq_true hmember
  rw [← hname] at hc
  have htable : Sample.friends.linkTable? "Member" =
      some ⟨"FriendsFriends", "Friends", "Friends"⟩ := by
    decide +kernel
  rw [← hname] at htable
  exact ⟨Sample.accepted_club, c, hc, hfriends, rfl, by decide +kernel, htable⟩

end ObjectQuery
