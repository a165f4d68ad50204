import Mathlib
import ObjectQuery.Proofs.Sql.FieldTables
import ObjectQuery.Proofs.Sql.Resolution
import ObjectQuery.Proofs.Sql.Scoping

/-!
# How queries fail to compile

With whatever model, a query that breaks no demand is refused only for something that the model or
an object cannot give (`compile_fromCompiling`). A query that is well built against the model breaks
no demand, and little can be missing: the identity of an object that was never stored, or the
reference at the other end of a collection (`compile_failures`). All else that it looks up was found
when it was made, and an accepted model finds it again.
-/

namespace ObjectQuery

open Except (FailsOnly)

/-- Anything may be mentioned. -/
def Vocabulary.any : Vocabulary :=
  ⟨fun _ => True, fun _ => True, fun _ => True, fun _ => True, fun _ _ => True⟩

lemma Expr.of_any (e : Expr) : e.Of .any := by
  induction e with
  | column | bareAggregate | value => trivial
  | arithmetic op l r ihl ihr => exact ⟨ihl, ihr⟩
  | suffix b start ihb ihs => exact ⟨ihb, ihs⟩
  | substring b start n ihb ihs ihn => exact ⟨ihb, ihs, ihn⟩
  | indexOf haystack needle ihh ihn => exact ⟨ihh, ihn⟩
  | aggregate op e ih => exact ih
  | cast e t ih => exact ih

lemma Node.of_any (n : Node) : n.Of .any := by
  cases n with
  | object c => trivial
  | expr e => exact e.of_any

lemma ObjectTarget.of_any (target : ObjectTarget) : target.Of .any := by
  cases target with
  | node c => trivial
  | stored o => trivial

lemma Constraint.of_any (c : Constraint) : c.Of .any := by
  cases c with
  | compare l op r => exact ⟨l.of_any, r.of_any⟩
  | nullTest e op => exact e.of_any
  | memberOf n op q => exact n.of_any
  | identity c op target => exact ⟨trivial, target.of_any⟩
  | contains r op target => exact ⟨trivial, target.of_any⟩
  | bag n op values => exact ⟨n.of_any, fun _ _ => trivial⟩
  | _ => trivial

lemma Query.of_any (q : Query) : q.Of .any :=
  ⟨fun item _ => item.node.of_any, fun test _ => test.of_any, fun n _ => n.of_any,
    fun n _ => n.of_any⟩

/-- A misuse, or something that the model or an object cannot give. -/
def Failure.FromCompiling (e : Failure) : Prop :=
  e.isMisuse = true ∨ e.isModeling = true

section

open Failure (FromCompiling)

lemma Model.fromCompiling_components (m : Model) (t : ClassType) :
    FailsOnly FromCompiling (m.components t) := by
  refine .mapM fun name _ => ?_
  split
  · exact .ok
  · exact .error (.inr rfl)

lemma Model.fromCompiling_fields (m : Model) (t : ClassType) :
    FailsOnly FromCompiling (m.fields t) :=
  (m.fromCompiling_components t).bind fun _ _ => .ok

lemma fromCompiling_storedId (o : StoredObject) : FailsOnly FromCompiling o.storedId := by
  unfold StoredObject.storedId
  split
  · exact .ok
  · exact .error (.inr rfl)

namespace Sql.Scope

variable (s : Scope)

lemma fromCompiling_aliasOf (n : NodeId) : FailsOnly FromCompiling (s.aliasOf n) := by
  unfold aliasOf
  split
  · exact .ok
  · exact .error (.inl rfl)

lemma fromCompiling_tableOf (n : NodeId) (field : String) :
    FailsOnly FromCompiling (s.tableOf n field) := by
  unfold tableOf
  split
  · exact .error (.inl rfl)
  · exact .ok
  · split
    · exact .ok
    · exact .error (.inr rfl)

lemma resolves_any : s.Resolves .any FromCompiling where
  column c _ := s.fromCompiling_tableOf c.source c.name
  bare _ _ _ := .inl rfl
  object c _ := s.fromCompiling_aliasOf c.id
  fields c _ := s.model.fromCompiling_fields c.type
  field c _ _ _ f _ := s.fromCompiling_tableOf c.id f.name
  stored o _ := fromCompiling_storedId o

lemma fromCompiling_foreignKey (role : String) (f : Field) :
    FailsOnly FromCompiling (foreignKey role f) := by
  unfold foreignKey
  split
  · exact .ok
  · exact .error (.inl rfl)

lemma fromCompiling_relationship (r : Reference) : FailsOnly FromCompiling (s.relationship r) := by
  refine (s.model.fromCompiling_fields r.owner.type).bind fun fields _ => ?_
  split
  · exact .error (.inr rfl)
  · split
    · exact .ok
    · exact .error (.inl rfl)

lemma fromCompiling_linkTable (r : Reference) (f : Field) :
    FailsOnly FromCompiling (s.linkTable r f) := by
  refine (s.model.fromCompiling_components r.owner.type).bind fun components _ => ?_
  split
  · exact .error (.inr rfl)
  · split
    · exact .ok
    · exact .error (.inl rfl)

lemma fromCompiling_testForeignKey (r : Reference) (f : Field) (test : RelationshipTest) :
    FailsOnly FromCompiling (s.testForeignKey r f test) := by
  unfold testForeignKey
  split
  · split
    · exact (fromCompiling_foreignKey _ _).bind fun _ _ => (s.fromCompiling_tableOf _ _).bind
        fun _ _ => (s.resolves_any.identity trivial).bind fun _ _ => .ok
    · exact .error (.inl rfl)
  · exact .error (.inl rfl)

lemma fromCompiling_testRelationship (r : Reference) (links : List FromItem)
    (test : RelationshipTest) : FailsOnly FromCompiling (s.testRelationship r links test) := by
  refine (s.fromCompiling_relationship r).bind fun found _ => ?_
  obtain ⟨f, relation⟩ := found
  cases relation with
  | toOne =>
    have htest := s.resolves_any.testReference (s.fromCompiling_tableOf r.owner.id f.name)
      (fromCompiling_foreignKey "reference" f) fun _ target (_ : test = _) => target.of_any
    exact htest.bind fun _ _ => .ok
  | oneToMany => exact (s.fromCompiling_testForeignKey r f test).bind fun _ _ => .ok
  | manyToMany =>
    cases test with
    | holds op target =>
      exact s.resolves_any.testLink trivial target.of_any (s.fromCompiling_linkTable r f)
    | null op => exact .error (.inl rfl)

end Sql.Scope

/-- Whatever the model, compiling a query fails only by misuse or for something that the model or an
object cannot give. -/
lemma Sql.compile_fromCompiling (m : Model) (p : Platform) (shape : Shape) (seek : Option Seek)
    (q : Query) : FailsOnly FromCompiling (compile m p shape seek q).outcome := by
  refine failsOnly_compile (v := fun _ => .any) (fun level _ => ?_)
    fun start _ => ⟨start.key.of_any, trivial⟩
  exact ⟨level.of_any, fun source _ => Scope.fromCompiling_aliasOf _ _,
    fun c _ => m.fromCompiling_components c.type, fun entered _ => ⟨Scope.resolves_any _,
      fun _ _ r t _ links => Scope.fromCompiling_testRelationship _ r links t⟩⟩

end

/-- The values in a start. -/
def Sql.Seek.values (start : Seek) : List Value :=
  start.key.values ++ [start.value]

/-- What a well-built query is refused for, with the start that it seeks: the identity of one of its
objects that was never stored, or objects in a collection whose class has no field named like the
reference at the other end. -/
inductive Query.Refused (m : Model) (q : Query) (seek : Option Sql.Seek) : Failure → Prop where
  | unsaved {level : Query} {o : StoredObject} :
    q.Level level →
    .object o ∈ level.values →
    o.id = none →
    Refused m q seek (.objectWithoutId o.type.text)
  | unsavedStart {start : Sql.Seek} {o : StoredObject} :
    start ∈ seek →
    .object o ∈ start.values →
    o.id = none →
    Refused m q seek (.objectWithoutId o.type.text)
  | noReverse {level : Query} {r : Reference} {op : Containment} {target : ClassNode}
      {f reverse : Field} {fields targetFields : SortedMap String Field} :
    q.Level level →
    .contains r op (.node target) ∈ level.tests →
    m.fields r.owner.type = .ok fields →
    fields.get? r.field = some f →
    m.relation? f = some .oneToMany →
    m.reverseField? f = some reverse →
    m.fields target.type = .ok targetFields →
    targetFields.get? reverse.name = none →
    Refused m q seek (.fieldNotInModel target.type.text reverse.name)

/-- The value stands in the query or in the start. -/
def Query.HasValue (q : Query) (seek : Option Sql.Seek) (w : Value) : Prop :=
  w ∈ q.values ∨ ∃ start ∈ seek, w ∈ start.values

lemma Query.failsOnly_storedId {m : Model} {q level : Query} {seek : Option Sql.Seek}
    (hlevel : q.Level level) {o : StoredObject} (ho : level.HasValue seek (.object o)) :
    FailsOnly (q.Refused m seek) o.storedId := by
  unfold StoredObject.storedId
  split
  · exact .ok
  · rename_i hid
    rcases ho with ho | ⟨start, hstart, ho⟩
    · exact .error (.unsaved hlevel ho hid)
    · exact .error (.unsavedStart hstart ho hid)

namespace Query.WellBuilt

open Sql

variable {m : Model} {p : Platform} {q : Query} {entered : Entered}

lemma exists_aliasOf (hq : q.WellBuilt m) {source : Source} (h : source ∈ q.sources) :
    ∃ base, (Scope.ofQuery m p q).aliasOf source.id = .ok base := by
  obtain ⟨base, hbase⟩ := Option.isSome_iff_exists.1 (hq.built.sourcesNamed source h)
  exact ⟨base, aliasOf_eq_ok_iff.2 hbase⟩

lemma exists_components (hq : q.WellBuilt m) {c : ClassNode} (h : .object c ∈ q.sources) :
    ∃ components, m.components c.type = .ok components :=
  (ClassNode.ofType_eq_ok_iff.1 (hq.classes c h)).1

/-- Behind its sources, a well-built query finds all that it mentions. -/
lemma resolves (hq : q.WellBuilt m) (hm : m.Accepted)
    (he : (enter (.ofQuery m p q) q.sources).outcome = .ok entered) {V : Value → Prop}
    {P : Failure → Prop} (hV : ∀ o, V (.object o) → FailsOnly P o.storedId) :
    ((Scope.ofQuery m p q).enteredWith entered).Resolves
      ((Vocabulary.made m q.sources).withValues V) P where
  column c hc := by
    cases hc with
    | ofClass hsource hcolumn =>
      obtain ⟨fields, f, type, hfields, hf, _, rfl⟩ := Column.ofClass_eq_ok_iff.1 hcolumn
      obtain ⟨a, ha⟩ := exists_tableOf he hq.known hsource hfields hf
      exact .of_ok ha
    | identityOf hsource =>
      obtain ⟨base, hbase⟩ := hq.exists_aliasOf (p := p) hsource
      exact .of_ok (tableOf_identityName hm he (List.mem_map_of_mem hsource) hbase)
    | ofQueryItem hsource hcolumn =>
      obtain ⟨base, hlookup⟩ := lookup_query he hq.known hsource
      have hs : ((Scope.ofQuery m p q).enteredWith entered).places.lookup c.source =
          some (.derived base) := by
        rw [Column.source_ofQueryItem hcolumn]
        exact hlookup
      unfold Scope.tableOf
      rw [hs]
      exact .ok
  bare op hop hne := absurd hop hne
  object c hc := by
    obtain ⟨base, hbase⟩ := hq.exists_aliasOf (p := p) hc
    exact .of_ok hbase
  fields c hc := by
    obtain ⟨components, hcomponents⟩ := hq.exists_components hc
    exact .of_ok (Model.fields_eq_ok_iff.2 ⟨components, hcomponents, rfl⟩)
  field c hc fields hfields f hf := by
    obtain ⟨⟨name, f⟩, hmem, rfl⟩ := List.mem_map.1 hf
    have hget := SortedMap.get?_eq_some_iff.2 hmem
    obtain ⟨a, ha⟩ := exists_tableOf he hq.known hc hfields hget
    obtain rfl := Model.name_of_get?_fields hfields hget
    exact .of_ok ha
  stored := hV

lemma of_hasValue (hq : q.WellBuilt m) (seek : Option Seek) :
    q.Of ((Vocabulary.made m q.sources).withValues (q.HasValue seek)) :=
  hq.made.withValues fun _ hw => .inl hw

/-- A relationship that a well-built query tests is found again, with the link table that it may be
kept in. What can be missing is the reference at the other end of a collection, in the class that
the collection is asked for. -/
lemma failsOnly_testRelationship (hq : q.WellBuilt m) (hm : m.Accepted)
    (he : (enter (.ofQuery m p q) q.sources).outcome = .ok entered) {top : Query}
    (hlevel : top.Level q) (seek : Option Seek) {test : Constraint} (htest : test ∈ q.tests)
    {r : Reference} {t : RelationshipTest} (ht : test.relationship? = some (r, t))
    (links : List FromItem) : FailsOnly (top.Refused m seek)
      (((Scope.ofQuery m p q).enteredWith entered).testRelationship r links t) := by
  have hstored : ∀ o, q.HasValue seek (.object o) → FailsOnly (top.Refused m seek) o.storedId :=
    fun _ => failsOnly_storedId hlevel
  have hs := hq.resolves hm he hstored
  have hof := (hq.of_hasValue seek).tests test htest
  obtain ⟨⟨howner, hmade⟩, hallowed⟩ := hof.relationship ht
  obtain ⟨fields, f, relation, hfields, hf, hrelation, hr⟩ := Reference.ofClass_eq_ok_iff.1 hmade
  have hr : r.relation = relation := congrArg Reference.relation hr
  have hfound : ((Scope.ofQuery m p q).enteredWith entered).relationship r = .ok (f, relation) :=
    Scope.relationship_eq_ok_iff.2 ⟨fields, hfields, hf, hrelation⟩
  refine .bind_of_ok hfound ?_
  cases relation with
  | toOne =>
    obtain ⟨a, ha⟩ := exists_tableOf he hq.known howner hfields hf
    rw [← Model.name_of_get?_fields hfields hf] at ha
    have hkey := Scope.foreignKey_of_isReference (Model.isReference_of_toOne hrelation) "reference"
    have htarget : ∀ op target, t = .holds op target →
        target.Of ((Vocabulary.made m q.sources).withValues (q.HasValue seek)) := by
      rintro op target rfl
      exact hof.target ht
    exact (hs.testReference (.of_ok ha) (.of_ok hkey) htarget).bind fun _ _ => .ok
  | oneToMany =>
    cases t with
    | null op => simp [Constraint.nullCheck, Reference.isCollection, hr] at hallowed
    | holds op target =>
      cases target with
      | stored o => simp [Constraint.holds, hr] at hallowed
      | node c =>
        have hc : .object c ∈ q.sources := hof.target ht
        have hmem := Constraint.contains_of_relationship? ht ▸ htest
        obtain ⟨reverse, hreverse, hreference⟩ := Model.exists_reverse_of_oneToMany hrelation
        have hkey := Scope.foreignKey_of_isReference hreference "reverse reference"
        have htable : FailsOnly (top.Refused m seek)
            (((Scope.ofQuery m p q).enteredWith entered).tableOf c.id reverse.name) := by
          -- the class of the target need not be the one that the collection refers to
          rcases tableOf_cases he hq.known hc reverse.name with
            ⟨a, ha⟩ | ⟨herror, targets, htargets, hnone⟩
          · exact .of_ok ha
          · rw [herror]
            exact .error (.noReverse hlevel hmem hfields hf hrelation hreverse htargets hnone)
        exact (hs.testForeignKey howner hreverse (.of_ok hkey) htable).bind fun _ _ => .ok
  | manyToMany =>
    cases t with
    | null op => simp [Constraint.nullCheck, Reference.isCollection, hr] at hallowed
    | holds op target =>
      rw [← Model.name_of_get?_fields hfields hf] at hf
      obtain ⟨link, hlink⟩ := exists_linkTable
        (s := (Scope.ofQuery m p q).enteredWith entered) hm hfields hf hrelation
      exact hs.testLink howner (hof.target ht) (.of_ok hlink)

/-- The scopes of a well-built query resolve what the query mentions. -/
lemma queryResolves (hq : q.WellBuilt m) (hm : m.Accepted) {top : Query} (hlevel : top.Level q)
    (seek : Option Seek) : QueryResolves m p (top.Refused m seek)
      ((Vocabulary.made m q.sources).withValues (q.HasValue seek)) q where
  of := hq.of_hasValue seek
  aliases source hsource := by
    obtain ⟨base, hbase⟩ := hq.exists_aliasOf (p := p) hsource
    exact .of_ok hbase
  components c hc := by
    obtain ⟨components, hcomponents⟩ := hq.exists_components hc
    exact .of_ok hcomponents
  entered _ he := ⟨hq.resolves hm he fun _ => failsOnly_storedId hlevel,
    fun _ htest _ _ ht links =>
      hq.failsOnly_testRelationship hm he hlevel seek htest ht links⟩

end Query.WellBuilt

/-- In an accepted model a query whose levels are well built compiles, in every shape and for every
platform, or is refused for an object that was never stored or for a reference that is missing at
the other end of a collection. It breaks no demand, and nothing is reached that is taken for
unreachable. With any other model it fails, if not by misuse, for something that the model or an
object cannot give. -/
theorem Sql.compile_failures {m : Model} (hm : m.Accepted) {q : Query}
    (hq : ∀ level, q.Level level → level.WellBuilt m) {seek : Option Seek}
    (hseek : ∀ start ∈ seek, start.key.Of (.made m q.sources)) :
    (∀ p shape, (∃ st, (compile m p shape seek q).outcome = .ok st) ∨
      ∃ e, (compile m p shape seek q).outcome = .error e ∧ q.Refused m seek e) ∧
    ∀ m' p shape e, (compile m' p shape seek q).outcome = .error e → e.isMisuse = false →
      e.isModeling = true := by
  constructor
  · intro p shape
    have hstart : ∀ start ∈ seek,
        start.key.Of ((Vocabulary.made m q.sources).withValues (q.HasValue seek)) ∧
          q.HasValue seek start.value := by
      intro start hstart
      have hvalues : ∀ w ∈ start.values, q.HasValue seek w := fun w hw => .inr ⟨start, hstart, hw⟩
      obtain ⟨hkey, hvalue⟩ := List.forall_mem_append.1 hvalues
      exact ⟨(hseek start hstart).withValues hkey, List.forall_mem_singleton.1 hvalue⟩
    have hfails : FailsOnly (q.Refused m seek) (compile m p shape seek q).outcome :=
      failsOnly_compile
        (v := fun level => (Vocabulary.made m level.sources).withValues (level.HasValue seek))
        (fun level hlevel => (hq level hlevel).queryResolves hm hlevel seek) hstart
    exact hfails.ok_or_error
  · intro m' p shape e he hmisuse
    rcases compile_fromCompiling m' p shape seek q e he with h | h
    · exact absurd (h.symm.trans hmisuse) nofun
    · exact h

namespace Sample

lemma wellBuilt_employees : employees.WellBuilt company where
  built := built_employees
  classes c hc := by
    obtain rfl := Source.object.inj (List.mem_singleton.1 hc)
    have hcomponents : (company.components employee.type).toOption.isSome := by
      decide +kernel
    exact ClassNode.ofType_eq_ok_iff.2 ⟨Except.exists_of_isSome_toOption hcomponents, rfl⟩
  known source hsource source' hsource' _ :=
    (List.mem_singleton.1 hsource).trans (List.mem_singleton.1 hsource').symm
  made := {
    select := List.forall_mem_singleton.2 List.mem_cons_self
    tests := List.forall_mem_nil _
    groupBy := List.forall_mem_nil _
    orderBy := List.forall_mem_nil _ }

lemma wellBuilt_layered : layered.WellBuilt company where
  built := Query.Built.edits (.empty _) _
  classes c hc := by
    rcases List.mem_cons.1 hc with hc | hc
    · obtain rfl := Source.object.inj hc
      have hcomponents : (company.components worker.type).toOption.isSome := by
        decide +kernel
      exact ClassNode.ofType_eq_ok_iff.2 ⟨Except.exists_of_isSome_toOption hcomponents, rfl⟩
    · cases List.mem_singleton.1 hc
  known source hsource source' hsource' hid := by
    rcases List.mem_pair.1 hsource with rfl | rfl <;> rcases List.mem_pair.1 hsource' with rfl | rfl
    · rfl
    · exact absurd hid (by decide)
    · exact absurd hid (by decide)
    · rfl
  made := {
    select := List.forall_mem_singleton.2 List.mem_cons_self
    tests := by
      have hprojects : Reference.ofClass worker "projects" company =
          .ok ⟨worker, "projects", .manyToMany⟩ := by
        have hsome : (Reference.ofClass worker "projects" company).toOption.map
            Reference.relation = some .manyToMany := by
          decide +kernel
        obtain ⟨r, hr, hrelation⟩ := Except.exists_of_toOption hsome
        obtain ⟨_, _, relation, _, _, _, rfl⟩ := Reference.ofClass_eq_ok_iff.1 hr
        exact hrelation ▸ hr
      have hmade : Reference.Made company layered.sources ⟨worker, "projects", .manyToMany⟩ :=
        ⟨List.mem_cons_self, hprojects⟩
      refine List.forall_mem_cons.2 ⟨List.mem_cons_self, ?_⟩
      refine List.forall_mem_cons.2 ⟨⟨⟨hmade, rfl⟩, trivial⟩, ?_⟩
      exact List.forall_mem_singleton.2 ⟨⟨hmade, rfl⟩, trivial⟩
    groupBy := List.forall_mem_nil _
    orderBy := by
      have hsome : (Column.ofQueryItem employees "a1_" (some "name") company).toOption.map id =
          some ⟨employees.id, true, "a1_", some "name", .string⟩ := by
        decide +kernel
      obtain ⟨column, hcolumn, rfl⟩ := Except.exists_of_toOption hsome
      exact List.forall_mem_singleton.2 (.ofQueryItem (List.mem_cons_of_mem _ List.mem_cons_self)
        hcolumn) }

/-- All three queries are well built. -/
lemma wellBuiltLevels_layered : ∀ level, layered.Level level → level.WellBuilt company :=
  forall_level_layered wellBuilt_layered wellBuilt_employees (wellBuilt_employees.copy ⟨7⟩)

/-- The start behind one of the workers. -/
def behindWorker : Sql.Seek :=
  ⟨.column (.identityOf worker), .int 5⟩

/-- The objects in the three queries were stored, and no collection is asked for a class. -/
lemma not_refused_layered (e : Failure) : ¬ layered.Refused company (some behindWorker) e := by
  have hlevels : ∀ level, layered.Level level → (∀ o, .object o ∈ level.values → o.id.isSome) ∧
      ∀ r op target, .contains r op (.node target) ∉ level.tests := by
    refine forall_level_layered ⟨fun o ho => ?_, fun r op target htest => ?_⟩ ⟨nofun, nofun⟩
      ⟨nofun, nofun⟩
    · rcases List.mem_pair.1 ho with ho | ho <;> cases ho <;> rfl
    · rcases List.mem_cons.1 htest with htest | htest
      · cases htest
      · rcases List.mem_pair.1 htest with htest | htest <;> cases htest
  intro h
  cases h with
  | unsaved hlevel ho hid => simpa [hid] using (hlevels _ hlevel).1 _ ho
  | unsavedStart hstart ho hid =>
    cases hstart
    cases List.mem_singleton.1 ho
  | noReverse hlevel htest => exact (hlevels _ hlevel).2 _ _ _ htest

end Sample

/-- The query for the workers is not refused in any shape, also if it starts behind a worker. -/
theorem compile_failures_layered :
    Sample.company.Accepted ∧
    (∀ level, Sample.layered.Level level → level.WellBuilt Sample.company) ∧
    (∀ start ∈ some Sample.behindWorker,
      start.key.Of (.made Sample.company Sample.layered.sources)) ∧
    ∀ p shape, ∃ st, (Sql.compile Sample.company p shape (some Sample.behindWorker)
      Sample.layered).outcome = .ok st := by
  have hseek : ∀ start ∈ some Sample.behindWorker,
      start.key.Of (.made Sample.company Sample.layered.sources) := by
    rintro start hstart
    cases hstart
    exact Column.Made.identityOf List.mem_cons_self
  have hfails := Sql.compile_failures Sample.accepted_company Sample.wellBuiltLevels_layered hseek
  refine ⟨Sample.accepted_company, Sample.wellBuiltLevels_layered, hseek, fun p shape => ?_⟩
  rcases hfails.1 p shape with h | ⟨e, _, hrefused⟩
  · exact h
  · exact absurd hrefused (Sample.not_refused_layered e)

end ObjectQuery
