import Mathlib

/-!
# Truth in SQL

A comparison with null is neither true nor false. The connectives extend those of two truth values:
a conjunction is false if a part is, whatever is unknown, and a disjunction is true if a part is.
-/

namespace ObjectQuery.Sql

/-- A truth value of SQL. -/
inductive Truth where
  | true
  | false
  | unknown
deriving DecidableEq

namespace Truth

/-- The truth value of a constant. -/
def ofBool : Bool → Truth
  | .true => .true
  | .false => .false

/-- Negation. -/
def not : Truth → Truth
  | .true => .false
  | .false => .true
  | .unknown => .unknown

/-- Conjunction. -/
def and : Truth → Truth → Truth
  | .true, b => b
  | .false, _ => .false
  | .unknown, .false => .false
  | .unknown, _ => .unknown

/-- Disjunction. -/
def or : Truth → Truth → Truth
  | .true, _ => .true
  | .false, b => b
  | .unknown, .true => .true
  | .unknown, _ => .unknown

/-- The conjunction of all; nothing makes it true. -/
def all (truths : List Truth) : Truth :=
  truths.foldr and .true

/-- The disjunction of all; nothing makes it false. -/
def any (truths : List Truth) : Truth :=
  truths.foldr or .false

@[simp] lemma all_nil : all [] = .true := rfl

@[simp] lemma all_cons (a : Truth) (truths : List Truth) : all (a :: truths) = a.and (all truths) :=
  rfl

@[simp] lemma any_nil : any [] = .false := rfl

@[simp] lemma any_cons (a : Truth) (truths : List Truth) : any (a :: truths) = a.or (any truths) :=
  rfl

@[simp] lemma and_true (a : Truth) : a.and .true = a := by
  cases a <;> rfl

@[simp] lemma or_false (a : Truth) : a.or .false = a := by
  cases a <;> rfl

lemma and_assoc (a b c : Truth) : (a.and b).and c = a.and (b.and c) := by
  cases a <;> cases b <;> cases c <;> rfl

lemma or_assoc (a b c : Truth) : (a.or b).or c = a.or (b.or c) := by
  cases a <;> cases b <;> cases c <;> rfl

lemma and_eq_true_iff {a b : Truth} : a.and b = .true ↔ a = .true ∧ b = .true := by
  cases a <;> cases b <;> simp [and]

lemma and_eq_false_iff {a b : Truth} : a.and b = .false ↔ a = .false ∨ b = .false := by
  cases a <;> cases b <;> simp [and]

lemma not_eq_true_iff {a : Truth} : a.not = .true ↔ a = .false := by
  cases a <;> simp [not]

lemma not_eq_false_iff {a : Truth} : a.not = .false ↔ a = .true := by
  cases a <;> simp [not]

/-- The conjunction of two lists is that of their conjunctions. -/
@[simp] lemma all_append (truths more : List Truth) :
    all (truths ++ more) = (all truths).and (all more) := by
  induction truths with
  | nil => rfl
  | cons a truths ih => rw [List.cons_append, all_cons, ih, all_cons, and_assoc]

/-- A disjunction is true if a part is. -/
lemma any_eq_true_iff {truths : List Truth} : any truths = .true ↔ .true ∈ truths := by
  induction truths with
  | nil => simp
  | cons a truths ih =>
    rw [any_cons, List.mem_cons, ← ih]
    cases a <;> cases any truths <;> simp [or]

/-- A disjunction is false if all its parts are. -/
lemma any_eq_false_iff {truths : List Truth} : any truths = .false ↔ ∀ a ∈ truths, a = .false := by
  induction truths with
  | nil => simp
  | cons a truths ih =>
    rw [any_cons, List.forall_mem_cons, ← ih]
    cases a <;> cases any truths <;> simp [or]

/-- A conjunction is true if all its parts are. -/
lemma all_eq_true_iff {truths : List Truth} : all truths = .true ↔ ∀ a ∈ truths, a = .true := by
  induction truths with
  | nil => simp
  | cons a truths ih => rw [all_cons, List.forall_mem_cons, and_eq_true_iff, ih]

/-- A conjunction is false if a part is. -/
lemma all_eq_false_iff {truths : List Truth} : all truths = .false ↔ .false ∈ truths := by
  induction truths with
  | nil => simp
  | cons a truths ih => rw [all_cons, List.mem_cons, and_eq_false_iff, ih, eq_comm]

/-- A disjunction does not depend on the order of its parts nor on how often each is there. -/
lemma any_congr {truths others : List Truth} (h : ∀ a, a ∈ truths ↔ a ∈ others) :
    any truths = any others := by
  have htrue : any truths = .true ↔ any others = .true := by
    rw [any_eq_true_iff, any_eq_true_iff, h]
  have hfalse : any truths = .false ↔ any others = .false := by
    rw [any_eq_false_iff, any_eq_false_iff]
    simp only [h]
  cases ht : any truths <;> cases ho : any others <;> simp [ht, ho] at htrue hfalse ⊢

end Truth

end ObjectQuery.Sql
