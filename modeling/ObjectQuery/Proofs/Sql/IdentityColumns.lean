import Mathlib
import ObjectQuery.Proofs.Sql.BothEnds
import ObjectQuery.Proofs.Sql.DerivedColumns

/-!
# Columns of identities

Every class has a field for the identity of its objects. It is an integer attribute of the class
unless the class, or the first on the way up its first superclasses that does, declares a field of
that name itself (`Model.IdentityFrom`). Joins, comparisons of objects and the order of a statement
read the identity of a source from a column of that name all the same, which is a column that the
source is listed with, and grouped by, just if the field is an attribute, of whatever type
(`identity_column_iff`).
-/

namespace ObjectQuery

namespace Model

/-- Where a class has the field with the identity from: its own declaration, else the first of its
superclasses, and without any the field is there by itself. -/
inductive IdentityFrom (m : Model) : PersistentClass → Field → Prop where
  | declared {c : PersistentClass} {f : Field} :
    c.declaration? Field.identityName = some f →
    IdentityFrom m c f
  | inherited {c sup : PersistentClass} {later : List PersistentClass} {f : Field} :
    c.declaration? Field.identityName = none →
    m.superclasses c = sup :: later →
    IdentityFrom m sup f →
    IdentityFrom m c f
  | implicit {c : PersistentClass} :
    c.declaration? Field.identityName = none →
    m.superclasses c = [] →
    IdentityFrom m c Field.identity

/-- A class of an accepted model has one field with the identity, the one it has from there. -/
lemma Accepted.field?_identityName_iff {m : Model} (hm : m.Accepted) {name : String}
    {c : PersistentClass} (hc : m.class? name = some c) {f : Field} :
    c.field? Field.identityName = some f ↔ m.IdentityFrom c f := by
  obtain ⟨_, _, _, hresolved⟩ := hm.exists_declared
  refine hresolved.induction ?_ hc
  intro name c hc ih
  rw [hresolved.field?_eq hc, if_pos rfl]
  cases hdeclaration : c.declaration? Field.identityName with
  | some g =>
    rw [Option.some_or, Option.some_or, Option.some_inj]
    constructor
    · rintro rfl
      exact .declared hdeclaration
    · intro h
      cases h with
      | declared h => exact Option.some.inj (hdeclaration.symm.trans h)
      | inherited h | implicit h => cases hdeclaration.symm.trans h
  | none =>
    rw [Option.none_or]
    cases hsups : m.superclasses c with
    | nil =>
      rw [List.findSome?_nil, Option.none_or, Option.some_inj]
      constructor
      · rintro rfl
        exact .implicit hdeclaration hsups
      · intro h
        cases h with
        | declared h => cases hdeclaration.symm.trans h
        | inherited _ h => cases hsups.symm.trans h
        | implicit => rfl
    | cons sup later =>
      have hmem : sup ∈ m.superclasses c := by
        rw [hsups]
        exact List.mem_cons_self
      have hsup := hm.hasField_identityName (hresolved.class?_of_mem_superclasses hmem)
      have hfirst : (sup :: later).findSome? (·.field? Field.identityName) =
          sup.field? Field.identityName := List.findSome?_cons_of_isSome hsup
      rw [hfirst, Option.or_of_isSome hsup, ih sup hmem]
      constructor
      · exact .inherited hdeclaration hsups
      · intro h
        cases h with
        | declared h => cases hdeclaration.symm.trans h
        | inherited _ h hfrom =>
          obtain ⟨rfl, _⟩ := List.cons.inj (hsups.symm.trans h)
          exact hfrom
        | implicit _ h => cases hsups.symm.trans h

end Model

/-- A field is kept in the column of the identity if it is an attribute of that name. -/
lemma Field.column?_eq_identityName_iff {f : Field} :
    f.column? = some Field.identityName ↔ f.name = Field.identityName ∧ f.type?.isSome := by
  have hid : Naming.sqlName Field.identityName = Field.identityName := by decide +kernel
  obtain ⟨name, type⟩ | ⟨name, target, reverse⟩ | _ := f
  · show some (Naming.sqlName name) = some Field.identityName ↔ name = Field.identityName ∧ _
    rw [Option.some_inj]
    constructor
    · intro h
      refine ⟨?_, rfl⟩
      cases hreserved : Naming.isReserved name with
      | false => rw [← h, Naming.sqlName_eq_self_iff.2 hreserved]
      | true =>
        have htwo : Field.identityName.length = 2 := rfl
        have hlength := Naming.length_sqlName name
        rw [h, htwo, if_pos hreserved] at hlength
        omega
    · rintro ⟨rfl, _⟩
      exact hid
  · constructor
    · intro h
      have hends := congrArg (fun s : String => s.toList.reverse) (Option.some.inj h)
      simp [Naming.referenceColumn, Field.identityName] at hends
    · rintro ⟨_, h⟩
      cases h
  · simp [Field.column?, Field.type?]

/-- The identity that a type has as an attribute is that of its objects if it is the integer one. -/
lemma Column.ofClass_identityName_iff {m : Model} {n : ClassNode}
    {fields : SortedMap String Field} (hfields : m.fields n.type = .ok fields) {f : Field}
    (hf : fields.get? Field.identityName = some f) :
    Column.ofClass n Field.identityName m = .ok (.identityOf n) ↔ f = Field.identity := by
  have hname := Model.name_of_get?_fields hfields hf
  rw [Column.ofClass_eq_ok_iff]
  constructor
  · rintro ⟨fields', f', type, hfields', hf', htype, hcolumn⟩
    obtain rfl := Except.ok.inj (hfields.symm.trans hfields')
    obtain rfl := Option.some.inj (hf.symm.trans hf')
    obtain rfl : AttributeType.integer = type := congrArg Column.type hcolumn
    obtain ⟨name', _⟩ | _ | _ := f
    · obtain rfl : name' = Field.identityName := hname
      obtain rfl := Option.some.inj htype
      rfl
    · cases htype
    · cases htype
  · rintro rfl
    exact ⟨fields, Field.identity, .integer, hfields, hf, rfl, rfl⟩

namespace Sql

variable {s : Scope} {sources : List Source} {entered : Entered} {n : ClassNode}

lemma exists_derivedColumns (he : (enter s sources).outcome = .ok entered)
    (hknown : KnownById sources) (hn : .object n ∈ sources) {fields : SortedMap String Field}
    (hfields : s.model.fields n.type = .ok fields) {base : String}
    (hbase : s.aliasOf n.id = .ok base) :
    ∃ outputs, (s.enteredWith entered).classColumns .derived n = .ok outputs := by
  have hfails : Except.FailsOnly (fun _ => False)
      ((s.enteredWith entered).classColumns .derived n) := by
    refine .bind_of_ok (a := base) hbase ?_
    refine .bind (.bind_of_ok (a := fields) hfields .ok) fun stored hstored => ?_
    obtain ⟨_, hfield⟩ := storedColumns_of_fields (s := s.enteredWith entered) hfields hstored
    refine .bind (.mapM fun entry hentry => ?_) fun _ _ => .ok
    obtain ⟨f, hf, _, hname⟩ := hfield entry hentry
    obtain ⟨table, htable⟩ := exists_tableOf he hknown hn hfields hf
    rw [hname] at htable
    exact .bind_of_ok htable .ok
  rcases hfails.ok_or_error with h | ⟨_, _, h⟩
  · exact h
  · exact h.elim

/-- A source is listed with its identity if the field is an attribute. -/
lemma identityColumn_mem_iff (hm : s.model.Accepted) (he : (enter s sources).outcome = .ok entered)
    (hn : .object n ∈ sources) {fields : SortedMap String Field}
    (hfields : s.model.fields n.type = .ok fields) {f : Field}
    (hf : fields.get? Field.identityName = some f) {base : String}
    (hbase : s.aliasOf n.id = .ok base) {refs : List ColumnRef}
    (hrefs : (s.enteredWith entered).ListsColumns n refs) :
    Scope.identityColumn base ∈ Scope.objectColumn base :: refs.map Term.column ↔
      f.type?.isSome := by
  have hname := Model.name_of_get?_fields hfields hf
  obtain ⟨components, hcomponents, hmem⟩ := hrefs.mem_iff
  have hstored : Field.identityName ∈ refs.map ColumnRef.column ↔ f.type?.isSome := by
    rw [hmem, storedIn_iff hcomponents hfields]
    constructor
    · rintro ⟨g, hg, hcolumn⟩
      obtain ⟨hgname, htype⟩ := Field.column?_eq_identityName_iff.1 hcolumn
      rw [hgname, hf] at hg
      obtain rfl := Option.some.inj hg
      exact htype
    · intro htype
      refine ⟨f, ?_, Field.column?_eq_identityName_iff.2 ⟨hname, htype⟩⟩
      rw [hname, hf]
  rw [← hstored, List.mem_cons, List.mem_map]
  constructor
  · rintro (hobject | ⟨r, hr, hcolumn⟩)
    · have hne : Field.identityName ≠ "OBJECT" := by decide
      exact absurd (congrArg ColumnRef.column (Term.column.inj hobject)) hne
    · obtain rfl := Term.column.inj hcolumn
      exact List.mem_map_of_mem hr
  · intro hcolumn
    obtain ⟨r, hr, hcolumn⟩ := List.mem_map.1 hcolumn
    refine .inr ⟨r, hr, ?_⟩
    obtain ⟨fields', g, hfields', hg, hstored, htable⟩ := hrefs.table r hr
    rw [hcolumn] at hstored
    obtain ⟨hgname, _⟩ := Field.column?_eq_identityName_iff.1 hstored
    have hid : n.id ∈ sources.map Source.id := List.mem_map_of_mem hn
    rw [hgname, tableOf_identityName hm he hid hbase] at htable
    obtain ⟨table, column⟩ := r
    obtain rfl := Except.ok.inj htable
    obtain rfl : column = Field.identityName := hcolumn
    rfl

/-- In an accepted model, the first component of a type has a field with the identity that is a
declaration of a field of that name, or an integer attribute where nothing on the way declares one.
It is the field that the type has. As an attribute it is the identity of a class only if it is that
integer attribute, and a source is listed with its identity, and grouped by it, just if it is an
attribute. -/
theorem identity_column_iff {m : Model} (hm : m.Accepted) {n : ClassNode}
    {components : List PersistentClass} (hcomponents : m.components n.type = .ok components) :
    ∃ first rest f fields, components = first :: rest ∧ m.IdentityFrom first f ∧
      m.fields n.type = .ok fields ∧ fields.get? Field.identityName = some f ∧
      (Column.ofClass n Field.identityName m = .ok (.identityOf n) ↔ f = Field.identity) ∧
      ∀ (p : Platform) (q : Query) (entered : Entered),
        (enter (.ofQuery m p q) q.sources).outcome = .ok entered → KnownById q.sources →
        .object n ∈ q.sources →
        ∃ base outputs, (Scope.ofQuery m p q).aliasOf n.id = .ok base ∧
          ((Scope.ofQuery m p q).enteredWith entered).identity n = .ok (Scope.identityColumn base) ∧
          ((Scope.ofQuery m p q).enteredWith entered).classColumns .derived n = .ok outputs ∧
          ((Scope.ofQuery m p q).enteredWith entered).groupTerms (.object n) =
            .ok (outputs.map Output.term) ∧
          (Scope.identityColumn base ∈ outputs.map Output.term ↔ f.type?.isSome) := by
  obtain ⟨first, rest, name, rfl, hfirst⟩ := exists_of_components hcomponents
  obtain ⟨fields, hfields⟩ := Model.exists_fields hcomponents
  have hid := hm.hasField_identityName hfirst
  obtain ⟨f, hf⟩ := Option.isSome_iff_exists.1 hid
  have hget : fields.get? Field.identityName = some f := by
    rw [Model.get?_fields hcomponents hfields, ← hf]
    exact List.findSome?_cons_of_isSome hid
  refine ⟨first, rest, f, fields, rfl, (hm.field?_identityName_iff hfirst).1 hf, hfields, hget,
    Column.ofClass_identityName_iff hfields hget, fun p q entered hentered hknown hn => ?_⟩
  obtain ⟨base, _, hbase, _⟩ := lookup_object hentered hknown hn
  obtain ⟨outputs, houtputs⟩ := exists_derivedColumns hentered hknown hn hfields hbase
  refine ⟨base, outputs, hbase, Except.bind_eq_ok.2 ⟨base, hbase, rfl⟩, houtputs, ?_⟩
  have hitem : ((Scope.ofQuery m p q).enteredWith entered).itemColumns .derived
      ⟨.object n, base⟩ = .ok outputs := houtputs
  cases listsItem_of_itemColumns hitem with
  | @object _ _ base' refs hbase' hrefs hgroup =>
    obtain rfl := Except.ok.inj (hbase.symm.trans hbase')
    have hterms : (⟨Scope.objectColumn base, some (.ofAlias base "")⟩ ::
        refs.map fun r => (⟨.column r, some (.ofAlias base r.column)⟩ : Output)).map Output.term =
        Scope.objectColumn base :: refs.map Term.column := by
      rw [List.map_cons, List.map_map]
      rfl
    rw [hterms]
    exact ⟨hgroup, identityColumn_mem_iff hm hentered hn hfields hget hbase hrefs⟩

end Sql

namespace Sample

/-- Documents that have texts for identities, and badges whose identities are documents. -/
def cabinetDecls : List ClassDecl :=
  [⟨"Badge", [], [.reference "id" "Document" none]⟩, ⟨"Document", [], [.attribute "id" .string]⟩]

lemma isSome_build_cabinet : (Model.build ⟨0⟩ "cabinet" cabinetDecls).toOption.isSome := by
  decide +kernel

/-- The model of the cabinet. -/
def cabinet : Model :=
  (Model.build ⟨0⟩ "cabinet" cabinetDecls).toOption.get isSome_build_cabinet

lemma accepted_cabinet : cabinet.Accepted :=
  Model.accepted_get isSome_build_cabinet

def document : ClassNode :=
  ⟨⟨0⟩, .single "Document"⟩

def badge : ClassNode :=
  ⟨⟨1⟩, .single "Badge"⟩

/-- The query for badges. -/
def badges : Query :=
  [.addSource (.object badge)].foldl Edit.apply (.empty ⟨2⟩)

end Sample

/-- Folders that are drafts have an identity that no class declares, and are listed with it. -/
theorem identity_column_iff_filed :
    Sample.archive.Accepted ∧
    ∃ components, Sample.archive.components Sample.folder.type = .ok components ∧
    Column.ofClass Sample.folder Field.identityName Sample.archive =
      .ok (.identityOf Sample.folder) ∧
    ∃ entered base, ∃ outputs : List Sql.Output,
      (Sql.enter (.ofQuery Sample.archive .sqlite Sample.filed) Sample.filed.sources).outcome =
        .ok entered ∧
      ((Sql.Scope.ofQuery Sample.archive .sqlite Sample.filed).enteredWith entered).identity
        Sample.folder = .ok (Sql.Scope.identityColumn base) ∧
      ((Sql.Scope.ofQuery Sample.archive .sqlite Sample.filed).enteredWith entered).classColumns
        .derived Sample.folder = .ok outputs ∧
      Sql.Scope.identityColumn base ∈ outputs.map Sql.Output.term := by
  have hfield : (Sample.archive.fields Sample.folder.type).toOption.bind
      (·.get? Field.identityName) = some Field.identity := by
    decide +kernel
  obtain ⟨fields, hfields, hfield⟩ := Except.exists_of_toOption_bind hfield
  obtain ⟨components, hcomponents, _⟩ := Model.fields_eq_ok_iff.1 hfields
  obtain ⟨_, _, f, fields', _, _, hfields', hget, hcolumn, hlisted⟩ :=
    Sql.identity_column_iff Sample.accepted_archive hcomponents
  obtain rfl := Except.ok.inj (hfields.symm.trans hfields')
  obtain rfl := Option.some.inj (hfield.symm.trans hget)
  have hentered : (Sql.enter (.ofQuery Sample.archive .sqlite Sample.filed)
      Sample.filed.sources).outcome.toOption.isSome := by
    decide +kernel
  obtain ⟨entered, hentered⟩ := Except.exists_of_isSome_toOption hentered
  have hknown : Sql.KnownById Sample.filed.sources := Sql.knownById_of_nodup (by decide)
  obtain ⟨base, outputs, _, hidentity, hderived, _, hmem⟩ :=
    hlisted _ _ entered hentered hknown List.mem_cons_self
  exact ⟨Sample.accepted_archive, components, hcomponents, hcolumn.2 rfl, entered, base, outputs,
    hentered, hidentity, hderived, hmem.2 rfl⟩

/-- The identity of documents is no integer, and badges are grouped by a column of a document in the
place of their identity. -/
theorem identity_column_missing :
    Sample.cabinet.Accepted ∧
    Column.ofClass Sample.document Field.identityName Sample.cabinet ≠
      .ok (.identityOf Sample.document) ∧
    ∃ entered terms,
      (Sql.enter (.ofQuery Sample.cabinet .sqlite Sample.badges) Sample.badges.sources).outcome =
        .ok entered ∧
      ((Sql.Scope.ofQuery Sample.cabinet .sqlite Sample.badges).enteredWith entered).identity
        Sample.badge = .ok (Sql.Scope.identityColumn "a1_") ∧
      ((Sql.Scope.ofQuery Sample.cabinet .sqlite Sample.badges).enteredWith entered).groupTerms
        (.object Sample.badge) = .ok terms ∧
      Sql.Scope.identityColumn "a1_" ∉ terms := by
  have hdocument : (Column.ofClass Sample.document Field.identityName Sample.cabinet).toOption.map
      Column.type = some .string := by
    decide +kernel
  have hbadge : (Sql.enter (.ofQuery Sample.cabinet .sqlite Sample.badges)
      Sample.badges.sources).outcome.toOption.bind (fun entered =>
        (((Sql.Scope.ofQuery Sample.cabinet .sqlite Sample.badges).enteredWith entered).groupTerms
          (.object Sample.badge)).toOption) =
      some [.column ⟨"a1_", "OBJECT"⟩, .column ⟨"a1_", "idId"⟩] := by
    decide +kernel
  obtain ⟨entered, hentered, hgroup⟩ := Except.exists_of_toOption_bind hbadge
  obtain ⟨terms, hterms⟩ := Except.exists_of_isSome_toOption (Option.isSome_of_eq_some hgroup)
  rw [hterms] at hgroup
  obtain rfl := Option.some.inj hgroup
  refine ⟨Sample.accepted_cabinet, ?_, entered, _, hentered, ?_, hterms, by decide⟩
  · intro hidentity
    rw [hidentity] at hdocument
    cases Option.some.inj hdocument
  · have hbase : (Sql.Scope.ofQuery Sample.cabinet .sqlite Sample.badges).aliasOf Sample.badge.id =
        .ok "a1_" := Sql.aliasOf_eq_ok_iff.2 (by decide +kernel)
    exact Except.bind_eq_ok.2 ⟨"a1_", hbase, rfl⟩

end ObjectQuery
