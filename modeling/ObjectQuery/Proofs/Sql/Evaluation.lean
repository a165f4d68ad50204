import Mathlib
import ObjectQuery.Proofs.Sql.Meaning

/-!
# Evaluating conditions

A condition is true, false or unknown of a combination of rows, one row for each alias of a
statement. Only identities and foreign keys are compared here, so values are integers or null, and
of a database nothing more is assumed than that it reads columns and integers as they stand and
that an equality with null is unknown.
-/

namespace ObjectQuery.Sql

/-- A row of a table: the value in each column, which null lacks. -/
abbrev Row := String → Option Int

/-- A combination of rows: the row of the table under each alias. -/
abbrev Combination := String → Row

/-- The equality of two values. -/
def Truth.equal : Option Int → Option Int → Truth
  | some a, some b => if a = b then .true else .false
  | _, _ => .unknown

namespace Truth

lemma equal_eq_true_iff {a b : Option Int} : equal a b = .true ↔ a.isSome ∧ a = b := by
  cases a with
  | none => simp [equal]
  | some a =>
    cases b with
    | none => simp [equal]
    | some b => by_cases h : a = b <;> simp [equal, h]

end Truth

/-- The tables under two aliases have the same identity. -/
def SameIdentity (rows : Combination) (a b : String) : Prop :=
  Truth.equal (rows a Field.identityName) (rows b Field.identityName) = .true

instance (rows : Combination) : IsTrans String (SameIdentity rows) where
  trans _ _ _ hab hbc := by
    obtain ⟨ha, hab⟩ := Truth.equal_eq_true_iff.1 hab
    obtain ⟨_, hbc⟩ := Truth.equal_eq_true_iff.1 hbc
    exact Truth.equal_eq_true_iff.2 ⟨ha, hab.trans hbc⟩

/-- How a database evaluates terms and tests. -/
structure Evaluator where
  value : Combination → Term → Option Int
  test : Combination → Condition → Truth
  value_column : ∀ rows c, value rows (.column c) = rows c.table c.column
  value_integer : ∀ rows (i : Int), value rows (.literal (toString i)) = some i
  test_equals : ∀ rows l r, test rows (.compare l .equals r) = .equal (value rows l) (value rows r)
  test_notEquals : ∀ rows l r,
    test rows (.compare l .notEquals r) = (Truth.equal (value rows l) (value rows r)).not

namespace Evaluator

/-- The value of a column or an integer; nothing else has one. -/
def leastValue (rows : Combination) : Term → Option Int
  | .column c => rows c.table c.column
  | .literal text => text.toInt?
  | _ => none

/-- The truth of an equality or its negation; nothing else is known. -/
def leastTest (rows : Combination) : Condition → Truth
  | .compare l .equals r => .equal (leastValue rows l) (leastValue rows r)
  | .compare l .notEquals r => (Truth.equal (leastValue rows l) (leastValue rows r)).not
  | _ => .unknown

/-- Evaluates columns, integers and their equalities. -/
def least : Evaluator where
  value := leastValue
  test := leastTest
  value_column _ _ := rfl
  value_integer _ i := Int.toInt?_repr i
  test_equals _ _ _ := rfl
  test_notEquals _ _ _ := rfl

variable (E : Evaluator) (rows : Combination)

mutual

/-- The truth of a condition: groups combine the truths of their members. -/
def truth (E : Evaluator) (rows : Combination) : Condition → Truth
  | .constant b => .ofBool b
  | .group disjunctive negated members =>
    let joined := if disjunctive then Truth.any (truths E rows members)
      else Truth.all (truths E rows members)
    if negated then joined.not else joined
  | c => E.test rows c
termination_by structural c => c

/-- The truths of conditions. -/
def truths (E : Evaluator) (rows : Combination) : List Condition → List Truth
  | [] => []
  | c :: cs => truth E rows c :: truths E rows cs
termination_by structural cs => cs

end

lemma truths_eq_map (cs : List Condition) : E.truths rows cs = cs.map (E.truth rows) := by
  induction cs with
  | nil => rfl
  | cons c cs ih => rw [truths, ih, List.map_cons]

/-- The condition of a group combines the truths as the operator does. -/
lemma truth_groupCondition (op : ObjectQuery.GroupOp) (cs : List Condition) :
    E.truth rows (GroupOp.condition op cs) = op.truth (cs.map (E.truth rows)) := by
  cases cs with
  | nil => cases op <;> rfl
  | cons c cs =>
    rw [← truths_eq_map]
    cases op <;> rfl

/-- Tables in a row are joined if any two of them have the same identity. -/
lemma joinsOf_true_iff (aliases : List String) :
    Truth.all ((Entered.joinsOf aliases).map (E.truth rows)) = .true ↔
      aliases.Pairwise (SameIdentity rows) := by
  rw [← List.isChain_iff_pairwise]
  induction aliases with
  | nil => simp [Entered.joinsOf]
  | cons a rest ih =>
    cases rest with
    | nil => simp [Entered.joinsOf]
    | cons b rest =>
      have hjoin : E.truth rows
          (.compare (Scope.identityColumn a) .equals (Scope.identityColumn b)) =
          Truth.equal (rows a Field.identityName) (rows b Field.identityName) := by
        show E.test rows _ = _
        rw [E.test_equals, Scope.identityColumn, Scope.identityColumn, E.value_column,
          E.value_column]
      rw [Entered.joinsOf, List.map_cons, Truth.all_cons, Truth.and_eq_true_iff, hjoin, ih,
        List.isChain_cons_cons, SameIdentity]

end Evaluator

/-- The rows of tables and of the statements that stand in for one. -/
structure Database where
  table : String → List Row
  derived : Statement → List Row

/-- The combination has a row of the database under the alias of a source. -/
def FromItem.Draws (db : Database) (rows : Combination) : FromItem → Prop
  | .table name aliasName => rows aliasName ∈ db.table name
  | .derived st aliasName => rows aliasName ∈ db.derived st

/-- Two combinations have the same rows under aliases. -/
def SameRows (aliases : List String) (rows rows' : Combination) : Prop :=
  ∀ a ∈ aliases, rows a = rows' a

/-- The statement selects rows for some of its aliases: rows of the database can be drawn for all
its sources, these among them, for which all its conditions hold. -/
def Statement.Selects (st : Statement) (E : Evaluator) (db : Database) (aliases : List String)
    (own : Combination) : Prop :=
  ∃ rows, SameRows aliases rows own ∧ (∀ item ∈ st.sources, item.Draws db rows) ∧
    ∀ c ∈ st.conditions, E.truth rows c = .true

namespace SameRows

variable {aliases more : List String} {rows rows' : Combination}

lemma append_iff :
    SameRows (aliases ++ more) rows rows' ↔
      SameRows aliases rows rows' ∧ SameRows more rows rows' :=
  List.forall_mem_append

lemma symm (h : SameRows aliases rows rows') : SameRows aliases rows' rows :=
  fun a ha => (h a ha).symm

lemma mono (h : SameRows aliases rows rows') (hsub : more ⊆ aliases) : SameRows more rows rows' :=
  fun a ha => h a (hsub ha)

lemma trans {rows'' : Combination} (h : SameRows aliases rows rows')
    (h' : SameRows aliases rows' rows'') : SameRows aliases rows rows'' :=
  fun a ha => (h a ha).trans (h' a ha)

/-- What is drawn depends on the rows under the aliases of the sources. -/
lemma draws {items : List FromItem} (h : SameRows (items.map FromItem.aliasName) rows rows')
    {db : Database} (hrows : ∀ item ∈ items, item.Draws db rows) :
    ∀ item ∈ items, item.Draws db rows' := by
  intro item hitem
  have hdraws := hrows item hitem
  have hsame := h item.aliasName (List.mem_map_of_mem hitem)
  cases item with
  | table name aliasName => exact Eq.subst (motive := (· ∈ db.table name)) hsame hdraws
  | derived st aliasName => exact Eq.subst (motive := (· ∈ db.derived st)) hsame hdraws

lemma pairwise (h : SameRows aliases rows rows') (hrows : aliases.Pairwise (SameIdentity rows)) :
    aliases.Pairwise (SameIdentity rows') := by
  refine hrows.imp_of_mem fun ha hb hab => ?_
  rw [SameIdentity, ← h _ ha, ← h _ hb]
  exact hab

/-- Rows under different aliases can be put together. -/
lemma exists_merge (h : aliases.Disjoint more) (rows rows' : Combination) :
    ∃ both, SameRows aliases both rows ∧ SameRows more both rows' := by
  refine ⟨fun a => if a ∈ aliases then rows a else rows' a, ?_, ?_⟩
  · exact fun a ha => if_pos ha
  · exact fun a ha => if_neg fun hmem => h hmem ha

end SameRows

end ObjectQuery.Sql
