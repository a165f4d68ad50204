import Mathlib
import ObjectQuery.Proofs.Model.Naming
import ObjectQuery.Proofs.Sql.BothEnds

/-!
# Foreign keys of elements

A collection without a link table is tested against the column of the reference at its other end.
The reference is one of the class that the model names for the elements, but the table is that of
the target, whose type may be any: it is the table of the first component with a field of the name
of the reference, whatever that field is. So the column is one of the table if the field is a
reference too, and otherwise just if another reference of the component has a column of that name
(`contains_foreignKey`).
-/

namespace ObjectQuery

/-- The class has a reference in the column, whether it declares or inherits it. -/
def PersistentClass.HasForeignKey (c : PersistentClass) (column : String) : Prop :=
  ∃ g, c.field? g.name = some g ∧ g.isReference = true ∧ g.column? = some column

namespace Sql

/-- Tests whether the collection of a source has another one compare the identity of the owner with
the column. -/
def ComparesWith (s : Scope) (owner target : ClassNode) (field : String) (column : ColumnRef) :
    Prop :=
  ∀ relation op links,
    (condition s links (.contains ⟨owner, field, relation⟩ op (.node target))).outcome =
      (s.identity owner).map fun identity =>
        (.compare identity op.comparison (.column column), links)

/-- Tests whether the collection of a source has another one fail, as the type of the other one has
no field of that name. -/
def LacksField (s : Scope) (owner target : ClassNode) (field missing : String) : Prop :=
  ∀ relation op links,
    (condition s links (.contains ⟨owner, field, relation⟩ op (.node target))).outcome =
      .error (.fieldNotInModel target.type.text missing)

section

variable {s : Scope} {r : Reference} {f reverse : Field} {links : List FromItem} {op : Containment}

/-- The table of the target is looked up before the owner. -/
lemma outcome_foreignKey (hf : s.relationship r = .ok (f, .oneToMany))
    (hreverse : s.model.reverseField? f = some reverse) (hreference : reverse.isReference = true)
    (target : ClassNode) :
    (condition s links (.contains r op (.node target))).outcome =
      (s.tableOf target.id reverse.name).bind fun table => (s.identity r.owner).map fun identity =>
        (.compare identity op.comparison (.column ⟨table, Naming.referenceColumn reverse.name⟩),
          links) := by
  have htest : s.testForeignKey r f (.holds op (.node target)) =
      (s.tableOf target.id reverse.name).bind fun table => (s.identity r.owner).map fun identity =>
        .compare identity op.comparison (.column ⟨table, Naming.referenceColumn reverse.name⟩) := by
    simp only [Scope.testForeignKey, hreverse, Scope.foreignKey_of_isReference hreference]
    generalize Naming.referenceColumn reverse.name = column
    cases s.tableOf target.id reverse.name with
    | error e => rfl
    | ok table => cases s.identity r.owner <;> rfl
  rw [Scope.outcome_contains, Scope.testRelationship, hf]
  show (s.testForeignKey r f (.holds op (.node target)) >>= fun c => .ok (c, links)) = _
  rw [htest]
  cases s.tableOf target.id reverse.name with
  | error e => rfl
  | ok table => cases s.identity r.owner <;> rfl

/-- No table of a class is found for a field that none of its components has. -/
lemma tableOf_none {n : NodeId} {t : ClassType} {base field : String}
    {components : List PersistentClass}
    (h : s.places.lookup n = some (.tables t (Entered.parts base components)))
    (hnone : ∀ k ∈ components, k.hasField field = false) :
    s.tableOf n field = .error (.fieldNotInModel t.text field) := by
  have hfind :
      (Entered.parts base components).find? (fun part => part.1.hasField field) = none := by
    rw [List.find?_eq_none]
    intro part hpart
    have hmem := List.mem_map_of_mem (f := Prod.fst) hpart
    rw [Entered.map_fst_parts] at hmem
    rw [hnone part.1 hmem]
    exact Bool.false_ne_true
  simp only [Scope.tableOf, h, hfind]

/-- The tables of the components of a class are sources, each under its alias. -/
lemma mem_items_of_component {sources : List Source} {entered : Entered}
    (he : (enter s sources).outcome = .ok entered) {c : ClassNode} (hc : .object c ∈ sources)
    {base : String} (hbase : s.aliasOf c.id = .ok base) {before after : List PersistentClass}
    {k : PersistentClass} (hcomponents : s.model.components c.type = .ok (before ++ k :: after)) :
    .table k.table (Entered.partAlias base before.length) ∈ entered.items := by
  obtain ⟨es, hes, rfl⟩ := enter_eq_ok_iff.1 he
  obtain ⟨e, hmem, henters⟩ := hes.exists_of_mem_left hc
  rw [Entered.items_all]
  refine List.mem_flatMap.2 ⟨e, hmem, ?_⟩
  cases henters with
  | object hbase' hcomponents' =>
    obtain rfl := Except.ok.inj (hbase.symm.trans hbase')
    obtain rfl := Except.ok.inj (hcomponents.symm.trans hcomponents')
    exact List.mem_mapIdx.2 ⟨before.length, by simp, by simp⟩

end

/-- The column of a reference is that of a reference of the class if the class has one of that name
or, where one of them is a keyword with its mark, one in the same column. -/
lemma hasForeignKey_iff {c : PersistentClass} {name : String} :
    c.HasForeignKey (Naming.referenceColumn name) ↔
      ∃ g, c.field? g.name = some g ∧ g.isReference = true ∧ Naming.SameName name g.name := by
  refine exists_congr fun g => and_congr_right fun _ => and_congr_right fun hreference => ?_
  rw [g.column?_of_isReference hreference, Option.some_inj, Naming.referenceColumn,
    Naming.referenceColumn, String.append_left_inj, eq_comm, Naming.sqlName_eq_iff]

/-- A test of a collection against a source, where the other end of the collection is a reference,
fails if no component of the source has a field of the name of the reference. Otherwise it compares
the owner with the column of the reference in the table of the first component that has. That
component has a reference in the column if the field is one or, where the name or the field's own is
a keyword with its mark, if another field is. -/
theorem contains_foreignKey {m : Model} {p : Platform} {q : Query} {entered : Entered}
    (hentered : (enter (.ofQuery m p q) q.sources).outcome = .ok entered)
    (hknown : KnownById q.sources) {owner target : ClassNode} (htarget : .object target ∈ q.sources)
    {f : Field} (hf : ∃ fields, m.fields owner.type = .ok fields ∧ fields.get? f.name = some f)
    (hrelation : m.relation? f = some .oneToMany) :
    ∃ (reverse : Field) (base : String) (components : List PersistentClass),
      m.reverseField? f = some reverse ∧ reverse.isReference = true ∧
      (Scope.ofQuery m p q).aliasOf target.id = .ok base ∧
      m.components target.type = .ok components ∧
      ((∀ k ∈ components, k.hasField reverse.name = false) ∧
          LacksField ((Scope.ofQuery m p q).enteredWith entered) owner target f.name reverse.name ∨
        ∃ (before : List PersistentClass) (c : PersistentClass) (after : List PersistentClass),
          components = before ++ c :: after ∧ (∀ k ∈ before, k.hasField reverse.name = false) ∧
          c.hasField reverse.name = true ∧
          .table c.table (Entered.partAlias base before.length) ∈ entered.items ∧
          ComparesWith ((Scope.ofQuery m p q).enteredWith entered) owner target f.name
            ⟨Entered.partAlias base before.length, Naming.referenceColumn reverse.name⟩ ∧
          (c.HasForeignKey (Naming.referenceColumn reverse.name) ↔
            ∃ g, c.field? g.name = some g ∧ g.isReference = true ∧
              Naming.SameName reverse.name g.name)) := by
  obtain ⟨fields, hfields, hf⟩ := hf
  obtain ⟨reverse, hreverse, hreference⟩ := Model.exists_reverse_of_oneToMany hrelation
  obtain ⟨base, components, hbase, hcomponents, hlookup⟩ := lookup_object hentered hknown htarget
  have hfound (relation : Relation) :
      ((Scope.ofQuery m p q).enteredWith entered).relationship ⟨owner, f.name, relation⟩ =
        .ok (f, .oneToMany) :=
    Scope.relationship_eq_ok_iff.2 ⟨fields, hfields, hf, hrelation⟩
  refine ⟨reverse, base, components, hreverse, hreference, hbase, hcomponents, ?_⟩
  cases hfind : components.find? (·.hasField reverse.name) with
  | none =>
    have hnone : ∀ k ∈ components, k.hasField reverse.name = false := by
      simpa using hfind
    refine .inl ⟨hnone, fun relation op links => ?_⟩
    rw [outcome_foreignKey (hfound relation) hreverse hreference,
      tableOf_none (s := (Scope.ofQuery m p q).enteredWith entered) hlookup hnone]
    rfl
  | some c =>
    obtain ⟨hc, before, after, rfl, hbefore⟩ := List.find?_eq_some_iff_append.1 hfind
    have hbefore : ∀ k ∈ before, k.hasField reverse.name = false := by
      simpa using hbefore
    refine .inr ⟨before, c, after, rfl, hbefore, hc,
      mem_items_of_component hentered htarget hbase hcomponents, fun relation op links => ?_,
      hasForeignKey_iff⟩
    rw [outcome_foreignKey (hfound relation) hreverse hreference,
      tableOf_first (s := (Scope.ofQuery m p q).enteredWith entered) hlookup hbefore hc]
    rfl

end Sql

namespace Sample

/-- Departments with employees, and memos about departments. -/
def officeDecls : List ClassDecl :=
  [⟨"Department", [], [.collection "employees" "Employee" (some "department") none]⟩,
    ⟨"Employee", [], [.reference "department" "Department" (some "employees")]⟩,
    ⟨"Memo", [], [.attribute "department" .string]⟩]

lemma isSome_build_office : (Model.build ⟨0⟩ "office" officeDecls).toOption.isSome := by
  decide +kernel

/-- The model of the office. -/
def office : Model :=
  (Model.build ⟨0⟩ "office" officeDecls).toOption.get isSome_build_office

lemma accepted_office : office.Accepted :=
  Model.accepted_get isSome_build_office

def department : ClassNode :=
  ⟨⟨0⟩, .single "Department"⟩

def memo : ClassNode :=
  ⟨⟨1⟩, .single "Memo"⟩

/-- The query for departments and memos. -/
def circulated : Query :=
  [.addSource (.object department), .addSource (.object memo)].foldl Edit.apply (.empty ⟨2⟩)

end Sample

/-- The folders of a shelf are compared with a column of theirs, although drafts, which come first
among the tables of folders that are drafts, have none. -/
theorem contains_foreignKey_filed :
    ∃ (entered : Sql.Entered) (base : String) (before : List PersistentClass) (c : PersistentClass)
      (after : List PersistentClass),
    (Sql.enter (.ofQuery Sample.archive .sqlite Sample.filed) Sample.filed.sources).outcome =
      .ok entered ∧
    (Sql.Scope.ofQuery Sample.archive .sqlite Sample.filed).aliasOf Sample.folder.id = .ok base ∧
    Sample.archive.components Sample.draftFolder = .ok (before ++ c :: after) ∧
    .table c.table (Sql.Entered.partAlias base before.length) ∈ entered.items ∧
    Sql.ComparesWith ((Sql.Scope.ofQuery Sample.archive .sqlite Sample.filed).enteredWith entered)
      Sample.shelf Sample.folder "folders"
      ⟨Sql.Entered.partAlias base before.length, Naming.referenceColumn "shelf"⟩ ∧
    c.HasForeignKey (Naming.referenceColumn "shelf") := by
  have hentered : (Sql.enter (.ofQuery Sample.archive .sqlite Sample.filed)
      Sample.filed.sources).outcome.toOption.isSome := by
    decide +kernel
  obtain ⟨entered, hentered⟩ := Except.exists_of_isSome_toOption hentered
  have hknown : Sql.KnownById Sample.filed.sources := Sql.knownById_of_nodup (by decide)
  have hfolder : .object Sample.folder ∈ Sample.filed.sources := List.mem_cons_self
  have hrelation : Sample.archive.relation? (.collection "folders" "Folder" (some "shelf") none) =
      some .oneToMany := by
    decide +kernel
  obtain ⟨reverse, base, components, hreverse, _, hbase, hcomponents, h⟩ :=
    Sql.contains_foreignKey hentered hknown hfolder Sample.bothEnds_shelf.field hrelation
  obtain rfl := Option.some.inj (hreverse.symm.trans Sample.bothEnds_shelf.leads.1)
  have hshelf : (Sample.archive.components Sample.draftFolder).toOption.any (fun components =>
      (∃ k ∈ components, k.hasField "shelf" = true) ∧ ∀ k ∈ components, k.hasField "shelf" = true →
        k.field? "shelf" = some (.reference "shelf" "Shelf" (some "folders"))) = true := by
    decide +kernel
  have hdrafts : Sample.archive.components Sample.draftFolder = .ok components := hcomponents
  rw [hdrafts] at hshelf
  obtain ⟨⟨k, hk, hfield⟩, hreference⟩ := of_decide_eq_true hshelf
  rcases h with ⟨hnone, _⟩ | ⟨before, c, after, rfl, _, hc, hitem, hcompares, hkey⟩
  · exact absurd (hfield.symm.trans (hnone k hk)) (by decide)
  · have hdeclaration := hreference c (List.mem_append_right _ List.mem_cons_self) hc
    exact ⟨entered, base, before, c, after, hentered, hbase, hdrafts, hitem, hcompares,
      hkey.2 ⟨.reference "shelf" "Shelf" (some "folders"), hdeclaration, rfl, .refl "shelf"⟩⟩

/-- The employees of a department are compared with a column of a memo that memos do not have. -/
theorem foreignKey_missing :
    Sample.office.Accepted ∧ ∃ entered c,
      (Sql.enter (.ofQuery Sample.office .sqlite Sample.circulated)
        Sample.circulated.sources).outcome = .ok entered ∧
      ((Sql.condition ((Sql.Scope.ofQuery Sample.office .sqlite Sample.circulated).enteredWith
        entered) [] (.contains ⟨Sample.department, "employees", .oneToMany⟩ .contains
          (.node Sample.memo))).outcome.toOption.map fun test => test.1.text) =
        some "a1_.id = a2_.departmentId" ∧
      Sample.office.components Sample.memo.type = .ok [c] ∧ ¬ c.HasForeignKey "departmentId" := by
  have hentered : (Sql.enter (.ofQuery Sample.office .sqlite Sample.circulated)
      Sample.circulated.sources).outcome.toOption.bind (fun entered =>
        (Sql.condition ((Sql.Scope.ofQuery Sample.office .sqlite Sample.circulated).enteredWith
          entered) [] (.contains ⟨Sample.department, "employees", .oneToMany⟩ .contains
            (.node Sample.memo))).outcome.toOption.map fun test => test.1.text) =
      some "a1_.id = a2_.departmentId" := by
    decide +kernel
  obtain ⟨entered, hentered, htext⟩ := Except.exists_of_toOption_bind hentered
  have hmemo : (Sample.office.class? "Memo").any (fun c =>
      c.allFields.all (!·.isReference)) = true := by
    decide +kernel
  obtain ⟨c, hc, hreferences⟩ := (Option.any_eq_true _ _).1 hmemo
  refine ⟨Sample.accepted_office, entered, c, hentered, htext, Model.components_single hc, ?_⟩
  rintro ⟨g, hg, hreference, _⟩
  have hnot := List.all_eq_true.1 hreferences g (List.mem_of_find?_eq_some hg)
  rw [hreference] at hnot
  cases hnot

end ObjectQuery
