import Mathlib
import ObjectQuery.Proofs.Sql.Evaluation
import ObjectQuery.Proofs.Sql.LinkTables
import ObjectQuery.Proofs.Sql.References

/-!
# Links

A test of a relationship looks for a link between an owner and a target: a foreign key that is the
identity at the other end, or a row of a link table with the identities of both ends. The condition
of the test has the truth that its operator makes of that of the link
(`truth_testRelationship`), and a link table has a truth for each of its rows.
-/

namespace ObjectQuery

namespace GroupOp

/-- The truth that a group asks of its members to have a truth itself. -/
def asks (op : GroupOp) (v : Bool) : Bool :=
  v != op.isNegated

/-- Whether one member with the truth that the group asks for is enough. -/
def asksOne (op : GroupOp) (v : Bool) : Bool :=
  op.isDisjunctive == op.asks v

lemma truth_eq_ofBool_iff (op : GroupOp) (v : Bool) (truths : List Sql.Truth) :
    op.truth truths = .ofBool v ↔
      if op.asksOne v then .ofBool (op.asks v) ∈ truths
      else ∀ t ∈ truths, t = .ofBool (op.asks v) := by
  cases op <;> cases v <;> simp [truth, asksOne, asks, isDisjunctive, isNegated, Sql.Truth.ofBool,
    Sql.Truth.any_eq_true_iff, Sql.Truth.any_eq_false_iff, Sql.Truth.all_eq_true_iff,
    Sql.Truth.all_eq_false_iff, Sql.Truth.not_eq_true_iff, Sql.Truth.not_eq_false_iff]

end GroupOp

namespace Constraint

section

variable (test : Constraint → Bool → Prop)

mutual

/-- A constraint has a truth if its tests, read one by one, have the truths that its groups ask
for. -/
def Reads : Constraint → Bool → Prop
  | .group op members, v =>
    if op.asksOne v then SomeReads members (op.asks v) else AllRead members (op.asks v)
  | c, v => test c v
termination_by structural c => c

/-- One of the members of a group has a truth. -/
def SomeReads : List Constraint → Bool → Prop
  | [], _ => False
  | c :: cs, v => Reads c v ∨ SomeReads cs v
termination_by structural cs => cs

/-- All members of a group have a truth. -/
def AllRead : List Constraint → Bool → Prop
  | [], _ => True
  | c :: cs, v => Reads c v ∧ AllRead cs v
termination_by structural cs => cs

end

lemma someReads_iff {members : List Constraint} {v : Bool} :
    SomeReads test members v ↔ ∃ c ∈ members, Reads test c v := by
  induction members with
  | nil => simp [SomeReads]
  | cons c cs ih => simp [SomeReads, ih]

lemma allRead_iff {members : List Constraint} {v : Bool} :
    AllRead test members v ↔ ∀ c ∈ members, Reads test c v := by
  induction members with
  | nil => simp [AllRead]
  | cons c cs ih => simp [AllRead, ih]

lemma reads_of_not_isGroup {c : Constraint} (hc : c.isGroup = false) {v : Bool} :
    Reads test c v ↔ test c v := by
  cases c with
  | group => cases hc
  | _ => rfl

lemma reads_group_iff {op : GroupOp} {members : List Constraint} {v : Bool} :
    Reads test (.group op members) v ↔
      if op.asksOne v then ∃ c ∈ members, Reads test c (op.asks v)
      else ∀ c ∈ members, Reads test c (op.asks v) := by
  rw [Reads, someReads_iff, allRead_iff]

end

end Constraint

namespace Sql

/-- How a relationship with a target is kept for given rows: whether a foreign key is the link, or
which rows of a link table are. -/
inductive Link where
  | key (truth : Truth)
  | table (link : LinkTable) (truth : Row → Truth)

namespace Link

/-- The link table, if there is one. -/
def table? : Link → Option LinkTable
  | .key _ => none
  | .table link _ => some link

/-- Whether a row of the link table is the link; a foreign key does without one. -/
def truth (row : Row) : Link → Truth
  | .key t => t
  | .table _ truth => truth row

/-- The truths that the link has in a database: one, or one for each row of the link table. -/
def truths (db : Database) : Link → List Truth
  | .key t => [t]
  | .table link truth => (db.table link.table).map truth

lemma mem_truths_iff {db : Database} {link : Link} {t : Truth} :
    t ∈ link.truths db ↔
      ∃ row, (∀ l ∈ link.table?, row ∈ db.table l.table) ∧ link.truth row = t := by
  cases link with
  | key t' => simp [truths, table?, truth, eq_comm]
  | table l f => simp [truths, table?, truth]

/-- The row matters if there is a link table. -/
lemma truth_congr {link : Link} {row row' : Row} (h : ∀ l ∈ link.table?, row = row') :
    link.truth row = link.truth row' := by
  cases link with
  | key t => rfl
  | table l f => exact congrArg f (h l rfl)

end Link

namespace Scope

/-- The identity of what a relationship is compared with. -/
def targetIdentity (s : Scope) (own : Combination) : ObjectTarget → Except Failure (Option Int)
  | .node c => return own (← s.aliasOf c.id) Field.identityName
  | .stored o => return some (← o.storedId).toInt

/-- The link of a reference: its foreign key is the identity of the target. -/
def referenceLink (s : Scope) (own : Combination) (r : Reference) (f : Field)
    (target : ObjectTarget) : Except Failure Link := do
  let table ← s.tableOf r.owner.id f.name
  let id ← s.targetIdentity own target
  return .key (.equal (own table (Naming.referenceColumn f.name)) id)

/-- The link of a collection without a link table: the foreign key of the target, which is the
reference at the other end, is the identity of the owner. -/
def foreignKeyLink (s : Scope) (own : Combination) (r : Reference) (f : Field)
    (target : ObjectTarget) : Except Failure Link := do
  match target, s.model.reverseField? f with
  | .node c, some reverse =>
    let table ← s.tableOf c.id reverse.name
    let owner ← s.aliasOf r.owner.id
    return .key (.equal (own owner Field.identityName)
      (own table (Naming.referenceColumn reverse.name)))
  | _, _ => .error (.misuse (.classNeeded f.name))

/-- The link of a collection with a link table: a row with the identities of both ends. -/
def tableLink (s : Scope) (own : Combination) (r : Reference) (f : Field)
    (target : ObjectTarget) : Except Failure Link := do
  let owner ← s.aliasOf r.owner.id
  let id ← s.targetIdentity own target
  let link ← s.linkTable r f
  return .table link fun row =>
    (Truth.equal (own owner Field.identityName) (row link.inward)).and
      (.equal (row link.outward) id)

/-- The link of a relationship with a target. -/
def link (s : Scope) (own : Combination) (r : Reference) (target : ObjectTarget) :
    Except Failure Link := do
  let (f, relation) ← s.relationship r
  match relation with
  | .toOne => s.referenceLink own r f target
  | .oneToMany => s.foreignKeyLink own r f target
  | .manyToMany => s.tableLink own r f target

/-- Where sources are placed does not matter to a link table. -/
lemma link_enteredWith {s : Scope} {r : Reference} {f : Field}
    (h : s.relationship r = .ok (f, .manyToMany)) (own : Combination) (target : ObjectTarget)
    (entered : Entered) : (s.enteredWith entered).link own r target = s.link own r target := by
  have h' : (s.enteredWith entered).relationship r = .ok (f, .manyToMany) := h
  rw [link, link, h, h']
  cases target with
  | node c => rfl
  | stored o => rfl

/-- A test of a relationship has a truth if the link has one that the operator makes that of: a link
table may have rows for both. -/
def Found (s : Scope) (db : Database) (own : Combination) : Constraint → Bool → Prop
  | .contains r op target, v =>
    ∃ link, s.link own r target = .ok link ∧ ∃ t ∈ link.truths db, op.truth t = .ofBool v
  | _, _ => False

/-- A test of a relationship has the truth that there is a link, or that there is none. -/
def Holds (s : Scope) (db : Database) (own : Combination) : Constraint → Bool → Prop
  | .contains r op target, v =>
    ∃ link, s.link own r target = .ok link ∧ (v ↔ (op = .contains ↔ .true ∈ link.truths db))
  | _, _ => False

end Scope

section Tests

variable {s : Scope} {declared : List String} (E : Evaluator) (own : Combination)

lemma value_identity {c : ClassNode} {t : Term} (h : s.identity c = .ok t) :
    ∃ a, s.aliasOf c.id = .ok a ∧ ∀ rows, E.value rows t = rows a Field.identityName := by
  obtain ⟨a, ha, h⟩ := Except.bind_eq_ok.1 h
  cases h
  exact ⟨a, ha, fun rows => E.value_column rows _⟩

lemma value_targetTerm (hs : s.Declares declared) {target : ObjectTarget} {t : Term}
    (h : s.targetTerm target = .ok t) :
    ∃ id, s.targetIdentity own target = .ok id ∧
      ∀ rows, SameRows declared rows own → E.value rows t = id := by
  cases target with
  | node c =>
    obtain ⟨a, ha, hvalue⟩ := value_identity E h
    refine ⟨own a Field.identityName, Except.bind_eq_ok.2 ⟨a, ha, rfl⟩, fun rows hrows => ?_⟩
    rw [hvalue, hrows a (hs.ofSource ha)]
  | stored o =>
    obtain ⟨id, hid, h⟩ := Except.bind_eq_ok.1 h
    cases h
    exact ⟨some id.toInt, Except.bind_eq_ok.2 ⟨id, hid, rfl⟩, fun rows _ => E.value_integer rows _⟩

/-- The comparison for a containment has the truth that the operator makes of the equality. -/
lemma test_comparison (rows : Combination) (l r : Term) (op : Containment) :
    E.test rows (.compare l op.comparison r) =
      op.truth (.equal (E.value rows l) (E.value rows r)) := by
  cases op with
  | contains => exact E.test_equals rows l r
  | doesNotContain => exact E.test_notEquals rows l r

/-- A test of a relationship has the truth that the operator makes of that of the link, which is
sought in the row of the next link table. -/
lemma truth_testRelationship (hs : s.Declares declared) {r : Reference} {op : Containment}
    {target : ObjectTarget} {links links' : List FromItem} {d : Condition}
    (h : s.testRelationship r links (.holds op target) = .ok (d, links')) :
    ∃ link, s.link own r target = .ok link ∧
      s.linkTable? (.contains r op target) = link.table? ∧
      ∀ rows, SameRows declared rows own →
        E.truth rows d = op.truth (link.truth (rows (Scope.linkAlias links.length))) := by
  obtain ⟨⟨f, relation⟩, hr, h⟩ := Except.bind_eq_ok.1 h
  obtain ⟨_, _, _, hrelation⟩ := Scope.relationship_eq_ok_iff.1 hr
  cases relation with
  | toOne =>
    obtain ⟨c, hc, h⟩ := Except.bind_eq_ok.1 h
    cases h
    obtain ⟨a, ha, hc⟩ := Except.bind_eq_ok.1 hc
    obtain ⟨column, hcolumn, hc⟩ := Except.bind_eq_ok.1 hc
    rw [Scope.foreignKey_of_isReference (Model.isReference_of_toOne hrelation)] at hcolumn
    obtain rfl := Except.ok.inj hcolumn
    obtain ⟨t, ht, hc⟩ := Except.bind_eq_ok.1 hc
    cases hc
    obtain ⟨id, hid, hvalue⟩ := value_targetTerm E own hs ht
    refine ⟨.key (.equal (own a (Naming.referenceColumn f.name)) id), ?_, ?_, ?_⟩
    · exact Except.bind_eq_ok.2 ⟨_, hr,
        Except.bind_eq_ok.2 ⟨a, ha, Except.bind_eq_ok.2 ⟨id, hid, rfl⟩⟩⟩
    · simp [Scope.linkTable?, hr, Link.table?]
    · intro rows hrows
      have ha := hrows a (hs.ofField ha)
      show E.test rows _ = _
      rw [test_comparison, E.value_column, hvalue rows hrows, ha]
      rfl
  | oneToMany =>
    obtain ⟨c, hc, h⟩ := Except.bind_eq_ok.1 h
    cases h
    obtain ⟨op', c, reverse, column, a, owner, htest, hreverse, hcolumn, ha, howner, rfl⟩ :=
      Scope.testForeignKey_eq_ok_iff.1 hc
    cases htest
    obtain ⟨reverse', hreverse', hreference⟩ := Model.exists_reverse_of_oneToMany hrelation
    obtain rfl := Option.some.inj (hreverse'.symm.trans hreverse)
    rw [Scope.foreignKey_of_isReference hreference] at hcolumn
    obtain rfl := Except.ok.inj hcolumn
    obtain ⟨b, hb, hvalue⟩ := value_identity E howner
    refine ⟨.key (.equal (own b Field.identityName)
      (own a (Naming.referenceColumn reverse'.name))), ?_, ?_, ?_⟩
    · refine Except.bind_eq_ok.2 ⟨_, hr, ?_⟩
      simp only [Scope.foreignKeyLink, hreverse]
      exact Except.bind_eq_ok.2 ⟨a, ha, Except.bind_eq_ok.2 ⟨b, hb, rfl⟩⟩
    · simp [Scope.linkTable?, hr, Link.table?]
    · intro rows hrows
      have ha := hrows a (hs.ofField ha)
      have hb := hrows b (hs.ofSource hb)
      show E.test rows _ = _
      rw [test_comparison, E.value_column, hvalue rows, ha, hb]
      rfl
  | manyToMany =>
    obtain ⟨t, ht, h⟩ := Except.bind_eq_ok.1 h
    obtain ⟨link, hlink, h⟩ := Except.bind_eq_ok.1 h
    obtain ⟨owner, howner, h⟩ := Except.bind_eq_ok.1 h
    cases h
    obtain ⟨id, hid, htarget⟩ := value_targetTerm E own hs ht
    obtain ⟨b, hb, hvalue⟩ := value_identity E howner
    refine ⟨.table link fun row => (Truth.equal (own b Field.identityName) (row link.inward)).and
      (.equal (row link.outward) id), ?_, ?_, ?_⟩
    · exact Except.bind_eq_ok.2 ⟨_, hr, Except.bind_eq_ok.2 ⟨b, hb,
        Except.bind_eq_ok.2 ⟨id, hid, Except.bind_eq_ok.2 ⟨link, hlink, rfl⟩⟩⟩⟩
    · simp [Scope.linkTable?, hr, hlink, Link.table?, Except.toOption]
    · intro rows hrows
      have hb := hrows b (hs.ofSource hb)
      have hinward : E.truth rows
          (.compare owner .equals (.column ⟨Scope.linkAlias links.length, link.inward⟩)) =
          .equal (own b Field.identityName) (rows (Scope.linkAlias links.length) link.inward) := by
        show E.test rows _ = _
        rw [E.test_equals, hvalue rows, E.value_column, hb]
      have houtward : E.truth rows
          (.compare (.column ⟨Scope.linkAlias links.length, link.outward⟩) .equals t) =
          .equal (rows (Scope.linkAlias links.length) link.outward) id := by
        show E.test rows _ = _
        rw [E.test_equals, htarget rows hrows, E.value_column]
      cases op with
      | contains =>
        show Truth.all [E.truth rows _, E.truth rows _] = _
        rw [hinward, houtward, Truth.all_cons, Truth.all_cons, Truth.all_nil, Truth.and_true]
        rfl
      | doesNotContain =>
        show (Truth.all [E.truth rows _, E.truth rows _]).not = _
        rw [hinward, houtward, Truth.all_cons, Truth.all_cons, Truth.all_nil, Truth.and_true]
        rfl

end Tests

end Sql

end ObjectQuery
