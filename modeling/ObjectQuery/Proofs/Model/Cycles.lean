import Mathlib
import ObjectQuery.Proofs.Model.Declarations

/-!
# Cycles of inheritance

Resolving a class goes up through its superclasses, one class below the other. These are different
classes as long as none is its own ancestor. So resolving declared classes fails for a cycle only
(`failsOnly_resolve`), and the number of steps it may take makes no difference once there is one for
each class and one more (`resolve_eq_of_size_lt`).
-/

namespace ObjectQuery.Model

variable {classes : SortedMap String ClassDecl}

/-- The classes that are being resolved when a class is come to: they are declared, each once, and
inherit from the class. -/
structure Below (classes : SortedMap String ClassDecl) (below : List String) (name : String) :
    Prop where
  nodup : below.Nodup
  declared : ∀ b ∈ below, classes.contains b = true
  ancestor : ∀ b ∈ below, Relation.TransGen (IsSuperclass classes) name b

namespace Below

variable {below : List String} {name : String}

lemma nil (name : String) : Below classes [] name :=
  ⟨.nil, List.forall_mem_nil _, List.forall_mem_nil _⟩

lemma cons (h : Below classes below name) (hnew : name ∉ below) {d : ClassDecl}
    (hd : classes.get? name = some d) {sup : String} (hsup : sup ∈ d.superclasses) :
    Below classes (name :: below) sup := by
  have hstep : IsSuperclass classes sup name := ⟨d, hd, hsup⟩
  have hdeclared : classes.contains name = true := by
    rw [SortedMap.contains_eq_isSome_get?, hd]
    rfl
  constructor
  case nodup => exact List.nodup_cons.2 ⟨hnew, h.nodup⟩
  case declared => exact List.forall_mem_cons.2 ⟨hdeclared, h.declared⟩
  case ancestor =>
    refine List.forall_mem_cons.2 ⟨.single hstep, ?_⟩
    intro b hb
    exact .head hstep (h.ancestor b hb)

lemma length_le (h : Below classes below name) : below.length ≤ classes.size :=
  SortedMap.length_le_size h.nodup h.declared

end Below

/-- A defect is a class that is its own ancestor. -/
def OfCycle (classes : SortedMap String ClassDecl) (defect : ModelDefect) : Prop :=
  ∃ name, defect = .inheritanceCycle name ∧ Relation.TransGen (IsSuperclass classes) name name

/-- Superclasses are declared. -/
def SuperclassesDeclared (classes : SortedMap String ClassDecl) : Prop :=
  ∀ name d, classes.get? name = some d → ∀ sup ∈ d.superclasses, classes.contains sup = true

lemma failsOnly_resolve (hsups : SuperclassesDeclared classes) {depth : Nat} {below : List String}
    {resolved : Resolved} {name : String} (hbelow : Below classes below name)
    (hname : classes.contains name = true) (hdepth : classes.size < depth + below.length) :
    Except.FailsOnly (OfCycle classes) (resolve classes depth below resolved name) := by
  induction depth generalizing below resolved name with
  | zero =>
    have hle := hbelow.length_le
    omega
  | succ depth ih =>
    unfold resolve
    split
    · exact .ok
    · split
      · rename_i hcycle
        exact .error ⟨name, rfl, hbelow.ancestor name (List.contains_iff_mem.1 hcycle)⟩
      · rename_i hnew
        split
        · rename_i hnone
          rw [SortedMap.contains_eq_isSome_get?, hnone] at hname
          cases hname
        · rename_i d hd
          have hnew' : name ∉ below := fun hmem => hnew (List.contains_iff_mem.2 hmem)
          refine Except.FailsOnly.bind (.foldlM ?_) fun _ _ => .ok
          rintro sup hsup ⟨acc, table⟩
          refine (ih (hbelow.cons hnew' hd hsup) (hsups name d hd sup hsup) ?_).bind fun _ _ => .ok
          rw [List.length_cons]
          omega

/-- Classes whose superclasses are declared are resolved unless there is a cycle. -/
lemma failsOnly_resolveAll (hsups : SuperclassesDeclared classes) :
    Except.FailsOnly (OfCycle classes) (resolveAll classes) := by
  refine Except.FailsOnly.bind (.foldlM ?_) fun _ _ => .ok
  rintro ⟨name, d⟩ hmem ⟨acc, table⟩
  have hname : classes.contains name = true := by
    rw [SortedMap.contains_eq_isSome_get?, SortedMap.get?_eq_some_iff.2 hmem]
    rfl
  have hresolve : Except.FailsOnly (OfCycle classes)
      (resolve classes (classes.size + 1) [] table name) :=
    failsOnly_resolve hsups (.nil name) hname (Nat.lt_succ_self classes.size)
  exact hresolve.bind fun _ _ => .ok

lemma resolve_succ {depth : Nat} {below : List String} {resolved : Resolved} {name : String}
    (hbelow : Below classes below name) (hdepth : classes.size < depth + below.length) :
    resolve classes (depth + 1) below resolved name = resolve classes depth below resolved name := by
  induction depth generalizing below resolved name with
  | zero =>
    have hle := hbelow.length_le
    omega
  | succ depth ih =>
    rw [resolve, resolve]
    split
    · rfl
    · split
      · rfl
      · rename_i hnew
        split
        · rfl
        · rename_i d hd
          have hnew' : name ∉ below := fun hmem => hnew (List.contains_iff_mem.2 hmem)
          -- the superclasses have one step less, and one class more is being resolved
          congr 1
          refine Except.foldlM_congr ?_ _
          rintro sup hsup ⟨acc, table⟩
          have hdepth' : classes.size < depth + (name :: below).length := by
            rw [List.length_cons]
            omega
          have hsame : resolve classes (depth + 1) (name :: below) table sup =
              resolve classes depth (name :: below) table sup :=
            ih (hbelow.cons hnew' hd hsup) hdepth'
          simp only [hsame]

lemma resolve_eq_of_size_lt {depth : Nat} (hdepth : classes.size < depth) (resolved : Resolved)
    (name : String) :
    resolve classes depth [] resolved name =
      resolve classes (classes.size + 1) [] resolved name := by
  induction depth, hdepth using Nat.le_induction with
  | base => rfl
  | succ depth hdepth ih =>
    rw [resolve_succ (.nil name) hdepth]
    exact ih

end ObjectQuery.Model
