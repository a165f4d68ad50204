import Mathlib
import ObjectQuery.Proofs.Model.Declarations
import ObjectQuery.Proofs.Sql.Entering
import ObjectQuery.Proofs.Sql.Relationship

/-!
# Where a field is kept

A field of a type is looked up in the map of its fields, among the tables of a source and, for a link
table, by the class that declares it. All of them follow the first component that has the field and
end at one declaration (`lookups_agree`).
-/

namespace ObjectQuery

namespace Sql

lemma Entered.parts_append (base : String) (before after : List PersistentClass)
    (c : PersistentClass) : ∃ rest, parts base (before ++ c :: after) =
      parts base before ++ (c, partAlias base before.length) :: rest := by
  unfold parts
  rw [List.zipIdx_append, List.zipIdx_cons, List.map_append, List.map_cons, Nat.zero_add]
  exact ⟨_, rfl⟩

/-- A field is read from the table of the first component that has it. -/
lemma tableOf_first {s : Scope} {n : NodeId} {t : ClassType} {base field : String}
    {before after : List PersistentClass} {c : PersistentClass}
    (h : s.places.lookup n = some (.tables t (Entered.parts base (before ++ c :: after))))
    (hbefore : ∀ k ∈ before, k.hasField field = false) (hc : c.hasField field = true) :
    s.tableOf n field = .ok (Entered.partAlias base before.length) := by
  obtain ⟨rest, hparts⟩ := Entered.parts_append base before after c
  have hfind : (Entered.parts base (before ++ c :: after)).find? (fun part => part.1.hasField field) =
      some (c, Entered.partAlias base before.length) := by
    rw [hparts, List.find?_eq_some_iff_append]
    refine ⟨hc, Entered.parts base before, rest, rfl, fun part hpart => ?_⟩
    have hmem : part.1 ∈ before := by
      rw [← Entered.map_fst_parts base before]
      exact List.mem_map_of_mem hpart
    rw [hbefore part.1 hmem]
    rfl
  simp only [Scope.tableOf, h, hfind]

/-- A field of a class is read from a table, or no component of the class has it. -/
lemma tableOf_tables {s : Scope} {n : NodeId} {type : ClassType} {base : String}
    {components : List PersistentClass}
    (h : s.places.lookup n = some (.tables type (Entered.parts base components))) (field : String) :
    (∃ a, s.tableOf n field = .ok a) ∨
      s.tableOf n field = .error (.fieldNotInModel type.text field) ∧
        ∀ k ∈ components, k.hasField field = false := by
  simp only [Scope.tableOf, h]
  split
  · exact .inl ⟨_, rfl⟩
  · rename_i hnone
    refine .inr ⟨rfl, fun k hk => ?_⟩
    rw [← Entered.map_fst_parts base components] at hk
    obtain ⟨part, hpart, rfl⟩ := List.mem_map.1 hk
    simpa using List.find?_eq_none.1 hnone part hpart

section

variable {s : Scope} {sources : List Source} {entered : Entered} {c : ClassNode}

lemma tableOf_cases (he : (enter s sources).outcome = .ok entered)
    (hknown : KnownById sources) (h : .object c ∈ sources) (name : String) :
    (∃ a, (s.enteredWith entered).tableOf c.id name = .ok a) ∨
    (s.enteredWith entered).tableOf c.id name = .error (.fieldNotInModel c.type.text name) ∧
      ∃ fields, s.model.fields c.type = .ok fields ∧ fields.get? name = none := by
  obtain ⟨base, components, _, hcomponents, hlookup⟩ := lookup_object he hknown h
  rcases tableOf_tables (s := s.enteredWith entered) hlookup name with ha | ⟨herror, hnone⟩
  · exact .inl ha
  · have hfields := Model.fields_eq_ok_iff.2 ⟨components, hcomponents, rfl⟩
    refine .inr ⟨herror, _, hfields, ?_⟩
    rw [Model.get?_fields hcomponents hfields, List.findSome?_eq_none_iff]
    intro k hk
    exact PersistentClass.hasField_eq_false_iff.1 (hnone k hk)

lemma exists_tableOf (he : (enter s sources).outcome = .ok entered)
    (hknown : KnownById sources) (h : .object c ∈ sources) {fields : SortedMap String Field}
    (hfields : s.model.fields c.type = .ok fields) {name : String} {f : Field}
    (hf : fields.get? name = some f) : ∃ a, (s.enteredWith entered).tableOf c.id name = .ok a := by
  rcases tableOf_cases he hknown h name with ha | ⟨_, fields', hfields', hnone⟩
  · exact ha
  · obtain rfl := Except.ok.inj (hfields.symm.trans hfields')
    exact absurd (hf.symm.trans hnone) nofun

end

/-- A collection that the model keeps in a link table has one, as an accepted model finds the class
that declares it. -/
lemma exists_linkTable {s : Scope} (hm : s.model.Accepted) {r : Reference} {f : Field}
    {fields : SortedMap String Field} (hfields : s.model.fields r.owner.type = .ok fields)
    (hf : fields.get? f.name = some f) (hrelation : s.model.relation? f = some .manyToMany) :
    ∃ link, s.linkTable r f = .ok link := by
  obtain ⟨components, hcomponents, _⟩ := Model.fields_eq_ok_iff.1 hfields
  rw [Model.get?_fields hcomponents hfields] at hf
  have hne : f ≠ Field.identity := by
    rintro rfl
    cases hrelation
  have hdeclaring : ∃ declaring,
      components.findSome? (s.model.declaringClass? · f.name) = some declaring ∧
        declaring.declaration? f.name = some f := by
    apply List.exists_findSome? _ _ hf
    · intro c hc hnone
      obtain ⟨_, hname⟩ := Model.exists_class_of_mem_components hcomponents hc
      exact hm.declaringClass?_eq_none hname hnone
    · intro c hc hf
      obtain ⟨_, hname⟩ := Model.exists_class_of_mem_components hcomponents hc
      exact hm.exists_declaration hname hf hne
  obtain ⟨declaring, hdeclaring, _⟩ := hdeclaring
  have hlink := Model.isSome_linkTable?_of_manyToMany hrelation declaring.name
  obtain ⟨link, hlink⟩ := Option.isSome_iff_exists.1 hlink
  exact ⟨link, Scope.linkTable_eq_ok_iff.2
    ⟨components, declaring, hcomponents, hdeclaring, hlink⟩⟩

/-- A source of the type has the field in its table with that number, which is the table of the
class, wherever it stands among other sources. -/
def KeptInTable (m : Model) (t : ClassType) (field : String) (i : Nat) (c : PersistentClass) : Prop :=
  ∀ (s : Scope) (n : ClassNode) (base : String), s.model = m → n.type = t →
    s.aliasOf n.id = .ok base →
    ∃ e, Entered.ofClass s n = .ok e ∧
      e.items[i]? = some (.table c.table (Entered.partAlias base i)) ∧
      ∀ s' : Scope, s'.places.lookup n.id = e.places.lookup n.id →
        s'.tableOf n.id field = .ok (Entered.partAlias base i)

/-- Objects of the type have the field in the link table. -/
def KeptInLinkTable (m : Model) (t : ClassType) (f : Field) (link : LinkTable) : Prop :=
  ∀ (s : Scope) (r : Reference), s.model = m → r.owner.type = t → s.linkTable r f = .ok link

/-- The searches for a field of a type end at one declaration, which component number `i` has from
the class `declaring`. -/
structure LookupsAgree (m : Model) (t : ClassType) (components : List PersistentClass)
    (field : String) (f : Field) (i : Nat) (c declaring : PersistentClass) : Prop where
  component : components[i]? = some c
  first : ∀ k ∈ components.take i, k.hasField field = false
  resolved : c.field? field = some f
  table : KeptInTable m t field i c
  declares : m.declaringClass? c field = some declaring
  search : components.findSome? (m.declaringClass? · field) = some declaring
  declaration : declaring.declaration? field = some f
  self : m.class? declaring.name = some declaring
  own : ∃ fields, m.fields (.single declaring.name) = .ok fields ∧ fields.get? field = some f
  link : m.relation? f = some .manyToMany → ∃ link, f.linkTable? declaring.name = some link ∧
    KeptInLinkTable m t f link ∧ KeptInLinkTable m (.single declaring.name) f link

section

variable {m : Model} {t : ClassType} {field : String}

lemma keptInTable_first {before after : List PersistentClass} {c : PersistentClass}
    (hcomponents : m.components t = .ok (before ++ c :: after))
    (hbefore : ∀ k ∈ before, k.hasField field = false) (hc : c.hasField field = true) :
    KeptInTable m t field before.length c := by
  rintro s n base rfl rfl hbase
  have hentered : Entered.ofClass s n = .ok (.ofComponents n base (before ++ c :: after)) := by
    have h := enterSource_eq_ok_iff.2 (.object hbase hcomponents)
    rwa [enterSource, Traced.outcome_liftM] at h
  refine ⟨_, hentered, ?_, ?_⟩
  · simp [Entered.ofComponents, Entered.classItems]
  · intro s' hs'
    have hplace : s'.places.lookup n.id =
        some (.tables n.type (Entered.parts base (before ++ c :: after))) := by
      rw [hs']
      exact List.lookup_cons_self
    exact tableOf_first hplace hbefore hc

lemma keptInLinkTable_of_search {components : List PersistentClass} {f : Field}
    {declaring : PersistentClass} {link : LinkTable} (hcomponents : m.components t = .ok components)
    (hdeclaring : components.findSome? (m.declaringClass? · f.name) = some declaring)
    (hlink : f.linkTable? declaring.name = some link) : KeptInLinkTable m t f link := by
  rintro s r rfl rfl
  exact Scope.linkTable_eq_ok_iff.2 ⟨components, declaring, hcomponents, hdeclaring, hlink⟩

/-- Every field of a type is found in the same component and at the same declaration by all
searches. Only the identity, which no class has to declare, is left out. -/
theorem lookups_agree (hm : m.Accepted) {components : List PersistentClass}
    (hcomponents : m.components t = .ok components) :
    ∃ fields, m.fields t = .ok fields ∧
      ∀ field f, fields.get? field = some f → field ≠ Field.identityName →
        ∃ i c declaring, LookupsAgree m t components field f i c declaring := by
  obtain ⟨fields, hfields⟩ := Model.exists_fields hcomponents
  refine ⟨fields, hfields, ?_⟩
  intro field f hf hfield
  have hname : f.name = field := Model.name_of_get?_fields hfields hf
  rw [Model.get?_fields hcomponents hfields, List.findSome?_eq_some_iff] at hf
  obtain ⟨before, c, after, rfl, hc, hbefore⟩ := hf
  have hclass : ∀ k ∈ before ++ c :: after, ∃ name, m.class? name = some k :=
    fun k hk => Model.exists_class_of_mem_components hcomponents hk
  have hmem : c ∈ before ++ c :: after := List.mem_append_right _ List.mem_cons_self
  -- the class that declares the field, and its declaration
  obtain ⟨name, hcname⟩ := hclass c hmem
  have hne : f ≠ Field.identity := by
    rintro rfl
    exact hfield hname.symm
  obtain ⟨declaring, hdeclaring, hdeclaration⟩ := hm.exists_declaration hcname hc hne
  obtain ⟨hdeclares, hself⟩ := hm.declares_of_declaringClass? hcname hdeclaring
  have hsearch : (before ++ c :: after).findSome? (m.declaringClass? · field) = some declaring := by
    refine List.findSome?_eq_some_iff.2 ⟨before, c, after, rfl, hdeclaring, fun k hk => ?_⟩
    obtain ⟨name, hkname⟩ := hclass k (List.mem_append_left _ hk)
    exact hm.declaringClass?_eq_none hkname (hbefore k hk)
  -- the declaring class finds itself
  have hcomponents' : m.components (.single declaring.name) = .ok [declaring] :=
    Model.components_single hself
  have hdeclaring' : m.declaringClass? declaring field = some declaring := by
    rw [hm.declaringClass?_eq hself, if_pos hdeclares]
  have hown : declaring.field? field = some f := hm.field?_of_declaration? hself hdeclaration
  refine ⟨before.length, c, declaring, ?_⟩
  constructor
  case component => simp
  case first =>
    intro k hk
    rw [List.take_left] at hk
    exact PersistentClass.hasField_eq_false_iff.2 (hbefore k hk)
  case resolved => exact hc
  case table =>
    apply keptInTable_first hcomponents
    · intro k hk
      exact PersistentClass.hasField_eq_false_iff.2 (hbefore k hk)
    · rw [PersistentClass.hasField, hc]
      rfl
  case declares => exact hdeclaring
  case search => exact hsearch
  case declaration => exact hdeclaration
  case self => exact hself
  case own =>
    obtain ⟨fields', hfields'⟩ := Model.exists_fields hcomponents'
    refine ⟨fields', hfields', ?_⟩
    rw [Model.get?_fields hcomponents' hfields', List.findSome?_singleton, hown]
  case link =>
    intro hrelation
    have hlink := Model.isSome_linkTable?_of_manyToMany hrelation declaring.name
    obtain ⟨link, hlink⟩ := Option.isSome_iff_exists.1 hlink
    subst hname
    refine ⟨link, hlink, ?_, ?_⟩
    · exact keptInLinkTable_of_search hcomponents hsearch hlink
    · refine keptInLinkTable_of_search hcomponents' ?_ hlink
      rw [List.findSome?_singleton, hdeclaring']

end

end Sql

namespace Sample

/-- Items with tags, among them folders on shelves, whose titles are declared anew and twice. -/
def archiveDecls : List ClassDecl :=
  [⟨"Draft", [], [.attribute "text" .string]⟩,
    ⟨"Folder", ["Item"], [.attribute "title" .integer, .attribute "title" .string,
      .reference "shelf" "Shelf" (some "folders")]⟩,
    ⟨"Item", [], [.attribute "title" .integer, .collection "tags" "Tag" (some "items") none]⟩,
    ⟨"Shelf", [], [.collection "folders" "Folder" (some "shelf") none]⟩,
    ⟨"Tag", [], [.collection "items" "Item" (some "tags") none]⟩]

lemma isSome_build_archive : (Model.build ⟨0⟩ "archive" archiveDecls).toOption.isSome := by
  decide +kernel

/-- The model of the archive. -/
def archive : Model :=
  (Model.build ⟨0⟩ "archive" archiveDecls).toOption.get isSome_build_archive

lemma accepted_archive : archive.Accepted :=
  Model.accepted_get isSome_build_archive

/-- Folders that are drafts. -/
def draftFolder : ClassType :=
  ⟨["Draft", "Folder"], List.pairwise_pair.2 (by decide), List.cons_ne_nil _ _⟩

end Sample

/-- The tags of a folder that is a draft are those of an item. -/
theorem lookups_agree_archive :
    Sample.archive.Accepted ∧
    ∃ components, Sample.archive.components Sample.draftFolder = .ok components ∧
    ∃ fields tags, Sample.archive.fields Sample.draftFolder = .ok fields ∧
      fields.get? "tags" = some tags ∧ Sample.archive.relation? tags = some .manyToMany ∧
      ∃ i c declaring, Sql.LookupsAgree Sample.archive Sample.draftFolder components "tags" tags
        i c declaring ∧ declaring.name = "Item" := by
  have hitem : ((Sample.archive.components Sample.draftFolder).toOption.bind
      (·.findSome? (Sample.archive.declaringClass? · "tags"))).map (·.name) = some "Item" := by
    decide +kernel
  have htags : (Sample.archive.fields Sample.draftFolder).toOption.bind (·.get? "tags") =
      some (.collection "tags" "Tag" (some "items") none) := by
    decide +kernel
  obtain ⟨item, hitem, hname⟩ := Option.map_eq_some_iff.1 hitem
  obtain ⟨components, hcomponents, hitem⟩ := Except.exists_of_toOption_bind hitem
  obtain ⟨fields, hfields, htags⟩ := Except.exists_of_toOption_bind htags
  obtain ⟨fields', hfields', hagree⟩ := Sql.lookups_agree Sample.accepted_archive hcomponents
  obtain rfl := Except.ok.inj (hfields.symm.trans hfields')
  obtain ⟨i, c, declaring, h⟩ := hagree "tags" _ htags (by decide)
  obtain rfl := Option.some.inj (h.search.symm.trans hitem)
  exact ⟨Sample.accepted_archive, components, hcomponents, fields, _, hfields, htags, by
    decide +kernel, i, c, declaring, h, hname⟩

end ObjectQuery
