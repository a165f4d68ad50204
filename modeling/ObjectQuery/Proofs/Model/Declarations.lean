import Mathlib
import ObjectQuery.Proofs.Model.Fields
import ObjectQuery.Proofs.Model.Inheritance

/-!
# Declarations

Which declaration a class has of a field. Looking a field up in a class follows its superclasses: the
own declaration comes first, the last one of the name, then the field of the first superclass that
has one (`ResolvedFrom.field?_eq`). The search for the declaring class takes the same way
(`Accepted.declaringClass?_eq`), so it ends at the declaration that the class has
(`Accepted.exists_declaration`).
-/

namespace ObjectQuery

lemma List.findSome?_congr {α β : Type} {f g : α → Option β} {as : List α}
    (h : ∀ a ∈ as, f a = g a) : as.findSome? f = as.findSome? g := by
  rw [← List.head?_filterMap, List.filterMap_congr h, List.head?_filterMap]

/-- A search that finds something where another one does ends at the same element. -/
lemma List.exists_findSome? {α β γ : Type} {f : α → Option β} {g : α → Option γ} {as : List α}
    {b : β} {P : γ → Prop} (hnone : ∀ a ∈ as, f a = none → g a = none)
    (hsome : ∀ a ∈ as, f a = some b → ∃ c, g a = some c ∧ P c) (h : as.findSome? f = some b) :
    ∃ c, as.findSome? g = some c ∧ P c := by
  obtain ⟨before, a, after, rfl, ha, hbefore⟩ := List.findSome?_eq_some_iff.1 h
  obtain ⟨c, hc, hP⟩ := hsome a (List.mem_append_right _ List.mem_cons_self) ha
  refine ⟨c, List.findSome?_eq_some_iff.2 ⟨before, a, after, rfl, hc, ?_⟩, hP⟩
  intro k hk
  exact hnone k (List.mem_append_left _ hk) (hbefore k hk)

namespace PersistentClass

/-- The declaration that a class itself has of a field, the last one of the name. -/
def declaration? (c : PersistentClass) (name : String) : Option Field :=
  Field.find? c.decl.fields.reverse name

lemma isSome_declaration? (c : PersistentClass) (name : String) :
    (c.declaration? name).isSome = c.declares name := by
  rw [declaration?, Field.isSome_find?, List.any_reverse]
  rfl

end PersistentClass

namespace Model

/-- The superclasses of a class, in its order. -/
def superclasses (m : Model) (c : PersistentClass) : List PersistentClass :=
  c.decl.superclasses.filterMap m.class?

/-- A class is declared to be a superclass of another one. -/
def IsSuperclass (classes : SortedMap String ClassDecl) (sup name : String) : Prop :=
  ∃ d, classes.get? name = some d ∧ sup ∈ d.superclasses

namespace Resolved

lemma inherited_cons {name : String} {fields : List Field} {rest : Resolved} {sups : List String}
    (h : name ∉ sups) : inherited ((name, fields) :: rest) sups = rest.inherited sups := by
  refine List.foldl_ext _ _ _ fun acc sup hsup => ?_
  have hne : sup ≠ name := by
    rintro rfl
    exact h hsup
  rw [List.lookup_cons, beq_false_of_ne hne]

/-- A class has its own fields put over those that its superclasses have in the end, as nothing
changes once it is resolved. -/
lemma Ordered.eq_ownOver {classes : SortedMap String ClassDecl} {resolved : Resolved}
    (h : resolved.Ordered classes) {name : String} {fields : List Field} {d : ClassDecl}
    (hmem : (name, fields) ∈ resolved) (hd : classes.get? name = some d) :
    d.superclasses ⊆ resolved.map Prod.fst ∧
      fields = ownOver (resolved.inherited d.superclasses) d.fields := by
  induction h with
  | nil => cases hmem
  | @cons name' d' rest hrest hnew hd' hsups ih =>
    -- in the table that the latest class was put on
    have hbefore : d.superclasses ⊆ rest.map Prod.fst ∧
        fields = ownOver (rest.inherited d.superclasses) d.fields := by
      rcases List.mem_cons.1 hmem with heq | hmem
      · cases heq
        obtain rfl := Option.some.inj (hd'.symm.trans hd)
        exact ⟨hsups, rfl⟩
      · exact ih hmem
    obtain ⟨hsub, hfields⟩ := hbefore
    refine ⟨List.subset_cons_of_subset _ hsub, ?_⟩
    rw [inherited_cons fun hname => hnew (hsub hname)]
    exact hfields

lemma Ordered.acc {classes : SortedMap String ClassDecl} {resolved : Resolved}
    (h : resolved.Ordered classes) {name : String} (hname : name ∈ resolved.map Prod.fst) :
    Acc (IsSuperclass classes) name := by
  induction h generalizing name with
  | nil => cases hname
  | @cons name' d rest _ _ hd hsups ih =>
    rcases List.mem_cons.1 hname with rfl | hname
    · constructor
      rintro sup ⟨d', hd', hsup⟩
      obtain rfl := Option.some.inj (hd.symm.trans hd')
      exact ih (hsups hsup)
    · exact ih hname

end Resolved

section

variable {m : Model} {classes : SortedMap String ClassDecl} {resolved : Resolved}

lemma mem_superclasses_iff {c sup : PersistentClass} :
    sup ∈ m.superclasses c ↔ ∃ name ∈ c.decl.superclasses, m.class? name = some sup :=
  List.mem_filterMap

lemma Declared.class?_of_mem_superclasses {decls : List ClassDecl}
    (hm : m.Declared decls classes resolved) {c sup : PersistentClass}
    (hsup : sup ∈ m.superclasses c) : m.class? sup.name = some sup := by
  obtain ⟨name, _, hname⟩ := mem_superclasses_iff.1 hsup
  rw [hm.name_eq hname]
  exact hname

namespace ResolvedFrom

lemma mem_of_get? (hm : m.ResolvedFrom classes resolved) {name : String} {d : ClassDecl}
    (hd : classes.get? name = some d) : name ∈ resolved.map Prod.fst := by
  obtain ⟨c, hc⟩ := hm.all hd
  exact List.mem_map_of_mem (hm.fields hc)

lemma wellFounded (hm : m.ResolvedFrom classes resolved) : WellFounded (IsSuperclass classes) := by
  constructor
  intro name
  cases hd : classes.get? name with
  | some d => exact hm.ordered.acc (hm.mem_of_get? hd)
  | none =>
    constructor
    rintro sup ⟨d, hd', _⟩
    exact absurd (hd.symm.trans hd') nofun

lemma inherited_eq (hm : m.ResolvedFrom classes resolved) {sups : List String}
    (hsups : sups ⊆ resolved.map Prod.fst) :
    resolved.inherited sups = (sups.filterMap m.class?).foldl
      (fun acc sup => sup.allFields.foldl Field.addNew acc) [] := by
  rw [List.foldl_filterMap, Resolved.inherited]
  refine List.foldl_ext _ _ _ fun acc sup hsup => ?_
  obtain ⟨⟨_, fields⟩, hmem, rfl⟩ := List.mem_map.1 (hsups hsup)
  obtain ⟨d, hd⟩ := hm.ordered.exists_decl hmem
  obtain ⟨c, hc⟩ := hm.all hd
  rw [hm.ordered.lookup_of_mem (hm.fields hc), hc]
  rfl

end ResolvedFrom

/-- What holds of a class if it holds of its superclasses holds of every class of the model. -/
@[elab_as_elim]
lemma ResolvedFrom.induction (hm : m.ResolvedFrom classes resolved)
    {motive : PersistentClass → Prop}
    (step : ∀ name c, m.class? name = some c → (∀ sup ∈ m.superclasses c, motive sup) → motive c)
    {name : String} {c : PersistentClass} (hc : m.class? name = some c) : motive c := by
  induction name using hm.wellFounded.induction generalizing c with
  | h name ih =>
    apply step name c hc
    intro sup hsup
    obtain ⟨name', hname', hsup⟩ := mem_superclasses_iff.1 hsup
    exact ih name' ⟨c.decl, hm.declared hc, hname'⟩ hsup

/-- A class has its own fields put over those of its superclasses, of which the first that has a name
passes on its field. -/
lemma ResolvedFrom.allFields_eq (hm : m.ResolvedFrom classes resolved) {name : String}
    {c : PersistentClass} (hc : m.class? name = some c) :
    c.allFields = ownOver
      ((m.superclasses c).foldl (fun acc sup => sup.allFields.foldl Field.addNew acc) [])
      c.decl.fields := by
  obtain ⟨hsups, hfields⟩ := hm.ordered.eq_ownOver (hm.fields hc) (hm.declared hc)
  rw [hfields, hm.inherited_eq hsups]
  rfl

lemma find?_inherited (sups : List PersistentClass) (fields : List Field) (name : String) :
    Field.find? (sups.foldl (fun acc sup => sup.allFields.foldl Field.addNew acc) fields) name =
      (Field.find? fields name).or (sups.findSome? (·.field? name)) := by
  induction sups generalizing fields with
  | nil => rw [List.foldl_nil, List.findSome?_nil, Option.or_none]
  | cons sup sups ih =>
    rw [List.foldl_cons, ih, Field.find?_foldl_addNew, Option.or_assoc, List.findSome?_cons]
    congr 1
    show (sup.field? name).or _ = _
    cases sup.field? name <;> rfl

/-- The own declaration of a field comes first, then the field of the first superclass that has one;
an identity is there anyway. -/
lemma ResolvedFrom.field?_eq (hm : m.ResolvedFrom classes resolved) {name : String}
    {c : PersistentClass} (hc : m.class? name = some c) (field : String) :
    c.field? field = ((c.declaration? field).or
      ((m.superclasses c).findSome? (·.field? field))).or
        (if Field.identityName = field then some Field.identity else none) := by
  rw [PersistentClass.field?, hm.allFields_eq hc, ownOver, Field.find?_withIdentity,
    Field.find?_foldl_put, find?_inherited]
  rfl

/-- As many steps as there are classes to go through are enough to find the declaring class. -/
lemma ResolvedFrom.declaringWithin?_succ {all : Resolved} (hm : m.ResolvedFrom classes all)
    (h : resolved.Ordered classes) {name field : String} {c : PersistentClass} {depth : Nat}
    (hname : name ∈ resolved.map Prod.fst) (hc : m.class? name = some c)
    (hdepth : resolved.length ≤ depth + 1) :
    m.declaringWithin? (depth + 1) c field = m.declaringWithin? depth c field := by
  induction h generalizing name c depth with
  | nil => cases hname
  | @cons name' d rest hrest hnew hd hsups ih =>
    rw [List.length_cons] at hdepth
    rcases List.mem_cons.1 hname with rfl | hname
    · obtain rfl := Option.some.inj (hd.symm.trans (hm.declared hc))
      cases depth with
      | zero =>
        -- there is no class behind this one
        have hnil : rest = [] := List.length_eq_zero_iff.1 (by omega)
        have hsuperclasses : c.decl.superclasses = [] := by
          rw [hnil] at hsups
          exact List.subset_nil.1 hsups
        simp only [declaringWithin?, hsuperclasses, List.filterMap_nil, List.findSome?_nil]
      | succ depth =>
        have hsup : ∀ sup ∈ m.superclasses c,
            m.declaringWithin? (depth + 1) sup field = m.declaringWithin? depth sup field := by
          intro sup hsup
          obtain ⟨name', hname', hsup⟩ := mem_superclasses_iff.1 hsup
          exact ih (hsups hname') hsup (by omega)
        have hsearch := List.findSome?_congr hsup
        unfold declaringWithin?
        split
        · rfl
        · exact hsearch
    · exact ih hname hc (by omega)

namespace Accepted

variable {name field : String} {c : PersistentClass}

/-- The class that declares a field is the class itself or the one that the first superclass with
such a class has it from. -/
lemma declaringClass?_eq (h : m.Accepted) (hc : m.class? name = some c) (field : String) :
    m.declaringClass? c field = if c.declares field then some c else
      (m.superclasses c).findSome? (m.declaringClass? · field) := by
  obtain ⟨_, _, resolved, hm⟩ := h.exists_declared
  have hmem : name ∈ resolved.map Prod.fst := List.mem_map_of_mem (hm.fields hc)
  have hle : resolved.length ≤ m.classes.size + 1 := Nat.le_succ_of_le hm.length_le
  -- one step more makes no difference, and it shows what the search does first
  show m.declaringWithin? m.classes.size c field = _
  rw [← hm.declaringWithin?_succ hm.ordered hmem hc hle]
  rfl

/-- The class that is found is a class of the model and declares the field. -/
lemma declares_of_declaringClass? (h : m.Accepted) (hc : m.class? name = some c)
    {declaring : PersistentClass} (hdeclaring : m.declaringClass? c field = some declaring) :
    declaring.declares field = true ∧ m.class? declaring.name = some declaring := by
  obtain ⟨_, _, resolved, hm⟩ := h.exists_declared
  revert hdeclaring
  refine hm.induction ?_ hc
  intro name c hc ih hdeclaring
  rw [h.declaringClass?_eq hc] at hdeclaring
  split at hdeclaring
  · rename_i hdeclares
    obtain rfl := Option.some.inj hdeclaring
    rw [hm.name_eq hc]
    exact ⟨hdeclares, hc⟩
  · obtain ⟨sup, hsup, hdeclaring⟩ := List.exists_of_findSome?_eq_some hdeclaring
    exact ih sup hsup hdeclaring

lemma field?_of_declaration? (h : m.Accepted) (hc : m.class? name = some c) {f : Field}
    (hf : c.declaration? field = some f) : c.field? field = some f := by
  obtain ⟨_, _, resolved, hm⟩ := h.exists_declared
  rw [hm.field?_eq hc, hf]
  rfl

/-- A class without a field has it from no class. -/
lemma declaringClass?_eq_none (h : m.Accepted) (hc : m.class? name = some c)
    (hnone : c.field? field = none) : m.declaringClass? c field = none := by
  obtain ⟨_, _, resolved, hm⟩ := h.exists_declared
  revert hnone
  refine hm.induction ?_ hc
  intro name c hc ih hnone
  rw [hm.field?_eq hc, Option.or_eq_none_iff, Option.or_eq_none_iff,
    List.findSome?_eq_none_iff] at hnone
  obtain ⟨⟨hown, hsups⟩, _⟩ := hnone
  have hdeclares : ¬ c.declares field = true := by
    rw [← c.isSome_declaration?, hown]
    exact Bool.false_ne_true
  rw [h.declaringClass?_eq hc, if_neg hdeclares, List.findSome?_eq_none_iff]
  intro sup hsup
  exact ih sup hsup (hsups sup hsup)

/-- A field that a class has is the declaration of the class that declares it. Only the identity,
which no class has to declare, may be another field. -/
theorem exists_declaration (h : m.Accepted) (hc : m.class? name = some c) {f : Field}
    (hf : c.field? field = some f) (hne : f ≠ Field.identity) :
    ∃ declaring, m.declaringClass? c field = some declaring ∧
      declaring.declaration? field = some f := by
  obtain ⟨_, _, resolved, hm⟩ := h.exists_declared
  revert hf
  refine hm.induction ?_ hc
  intro name c hc ih hf
  rw [hm.field?_eq hc, Option.or_eq_some_iff, Option.or_eq_some_iff] at hf
  rw [h.declaringClass?_eq hc, ← c.isSome_declaration?]
  rcases hf with (hown | ⟨hown, hf⟩) | ⟨_, hid⟩
  · refine ⟨c, if_pos ?_, hown⟩
    rw [hown]
    rfl
  · rw [hown, Option.isSome_none, if_neg Bool.false_ne_true]
    apply List.exists_findSome? _ ih hf
    intro sup hsup
    exact h.declaringClass?_eq_none (hm.class?_of_mem_superclasses hsup)
  · split at hid
    · exact absurd (Option.some.inj hid).symm hne
    · cases hid

lemma hasField_identityName (h : m.Accepted) (hc : m.class? name = some c) :
    c.hasField Field.identityName = true := by
  obtain ⟨_, _, resolved, hm⟩ := h.exists_declared
  rw [PersistentClass.hasField, hm.field?_eq hc, if_pos rfl, Option.isSome_or]
  exact Bool.or_true _

end Accepted

end

end Model

end ObjectQuery
