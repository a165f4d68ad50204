import Mathlib
import ObjectQuery.Proofs.Model.Declarations

/-!
# Assignability

The search up the superclasses of a class comes to an end in every accepted model, and it finds the
class itself and its ancestors (`Accepted.isSubclass_iff`). So a type is assignable to another one if
each class that the other one names is, or is an ancestor of, a class that it names. That is a
preorder on the types, and along it a type has all fields of the other one (`isAssignable_preorder`).
-/

namespace ObjectQuery

namespace Model

/-- A class of the model extends another one, its parent. -/
def IsParent (m : Model) (parent name : String) : Prop :=
  ∃ c, m.class? name = some c ∧ parent ∈ c.decl.superclasses

/-- A class is reached from another one through one or more superclasses. -/
def IsAncestor (m : Model) : String → String → Prop :=
  Relation.TransGen m.IsParent

section

variable {m : Model} {classes : SortedMap String ClassDecl} {resolved : Resolved}

/-- No class is reached from itself, so going up from a class comes to an end. -/
lemma ResolvedFrom.wellFounded_isParent (hm : m.ResolvedFrom classes resolved) :
    WellFounded m.IsParent := by
  refine Subrelation.wf (fun {parent name} h => ?_) hm.wellFounded
  obtain ⟨c, hc, hparent⟩ := h
  exact ⟨c.decl, hm.declared hc, hparent⟩

lemma isSubclassWithin_of_unknown {name : String} (hname : m.class? name = none) (depth : Nat)
    (ancestor : String) : m.isSubclassWithin depth name ancestor = (name == ancestor) := by
  cases depth with
  | zero => rfl
  | succ depth => rw [isSubclassWithin, hname, Bool.or_false]

/-- Every superclass is resolved before the class, so as many steps as there are classes up to it are
enough. -/
lemma ResolvedFrom.isSubclassWithin_succ {all : Resolved} (hm : m.ResolvedFrom classes all)
    (h : resolved.Ordered classes) {name : String} {depth : Nat}
    (hname : name ∈ resolved.map Prod.fst) (hdepth : resolved.length ≤ depth + 1)
    (ancestor : String) :
    m.isSubclassWithin (depth + 1) name ancestor = m.isSubclassWithin depth name ancestor := by
  induction h generalizing name depth with
  | nil => cases hname
  | @cons name' d rest _ _ hd hsups ih =>
    rw [List.length_cons] at hdepth
    rcases List.mem_cons.1 hname with rfl | hname
    · obtain ⟨c, hc⟩ := hm.all hd
      obtain rfl := Option.some.inj (hd.symm.trans (hm.declared hc))
      cases depth with
      | zero =>
        -- there is no class behind this one
        have hnil : rest = [] := List.length_eq_zero_iff.1 (by omega)
        have hsuperclasses : c.decl.superclasses = [] := by
          rw [hnil] at hsups
          exact List.subset_nil.1 hsups
        simp only [isSubclassWithin, hc, hsuperclasses, List.any_nil, Bool.or_false]
      | succ depth =>
        have hsup : ∀ sup ∈ c.decl.superclasses,
            m.isSubclassWithin (depth + 1) sup ancestor =
              m.isSubclassWithin depth sup ancestor :=
          fun sup hsup => ih (hsups hsup) (by omega)
        simp only [isSubclassWithin, hc] at hsup ⊢
        congr 1
        rw [Bool.eq_iff_iff, List.any_eq_true, List.any_eq_true]
        exact exists_congr fun sup => and_congr_right fun hmem => by rw [hsup sup hmem]
    · exact ih hname (by omega)

namespace Accepted

variable (h : m.Accepted)

include h

lemma wellFounded_isParent : WellFounded m.IsParent := by
  obtain ⟨_, _, _, hm⟩ := h.exists_declared
  exact hm.wellFounded_isParent

/-- More steps than there are classes find nothing else. -/
lemma isSubclassWithin_eq {depth : Nat} (hdepth : m.classes.size ≤ depth) (name ancestor : String) :
    m.isSubclassWithin depth name ancestor = m.isSubclass name ancestor := by
  obtain ⟨_, _, resolved, hm⟩ := h.exists_declared
  induction depth, hdepth using Nat.le_induction with
  | base => rfl
  | succ depth hdepth ih =>
    rw [← ih]
    cases hname : m.class? name with
    | none => rw [isSubclassWithin_of_unknown hname, isSubclassWithin_of_unknown hname]
    | some c =>
      have hmem : name ∈ resolved.map Prod.fst := List.mem_map_of_mem (hm.fields hname)
      have hle := hm.length_le
      exact hm.isSubclassWithin_succ hm.ordered hmem (by omega) ancestor

/-- The search looks at the class and then at its superclasses, one after the other. -/
lemma isSubclass_eq (name ancestor : String) :
    m.isSubclass name ancestor = (name == ancestor ||
      (m.class? name).any fun c => c.decl.superclasses.any (m.isSubclass · ancestor)) := by
  rw [← h.isSubclassWithin_eq (Nat.le_succ m.classes.size), isSubclassWithin]
  cases m.class? name <;> rfl

/-- The search finds the class itself and its ancestors. -/
lemma isSubclass_iff (name ancestor : String) :
    m.isSubclass name ancestor = true ↔ ancestor = name ∨ m.IsAncestor ancestor name := by
  induction name using h.wellFounded_isParent.induction with
  | h name ih =>
    rw [h.isSubclass_eq, Bool.or_eq_true, beq_iff_eq, Option.any_eq_true, eq_comm (a := name),
      IsAncestor, Relation.TransGen.tail'_iff]
    refine or_congr_right ⟨?_, ?_⟩
    · rintro ⟨c, hc, hany⟩
      obtain ⟨sup, hsup, hfound⟩ := List.any_eq_true.1 hany
      have hparent : m.IsParent sup name := ⟨c, hc, hsup⟩
      have hreached := (ih sup hparent).1 hfound
      exact ⟨sup, Relation.reflTransGen_iff_eq_or_transGen.2 (hreached.imp_left Eq.symm), hparent⟩
    · rintro ⟨sup, hreached, hparent⟩
      obtain ⟨c, hc, hsup⟩ := hparent
      refine ⟨c, hc, List.any_eq_true.2 ⟨sup, hsup, ?_⟩⟩
      rw [ih sup ⟨c, hc, hsup⟩]
      exact (Relation.reflTransGen_iff_eq_or_transGen.1 hreached).imp_left Eq.symm

lemma isSubclass_trans {a b c : String} (hab : m.isSubclass a b = true)
    (hbc : m.isSubclass b c = true) : m.isSubclass a c = true := by
  rw [h.isSubclass_iff] at hab hbc ⊢
  rcases hab with rfl | hab
  · exact hbc
  · rcases hbc with rfl | hbc
    · exact .inr hab
    · exact .inr (hbc.trans hab)

/-- A class has every field of a superclass, if not from there. -/
lemma hasField_of_isParent {parent name field : String} {p c : PersistentClass}
    (hparent : m.IsParent parent name) (hp : m.class? parent = some p)
    (hc : m.class? name = some c) (hfield : p.hasField field = true) :
    c.hasField field = true := by
  obtain ⟨_, _, _, hm⟩ := h.exists_declared
  obtain ⟨c', hc', hparent⟩ := hparent
  obtain rfl := Option.some.inj (hc.symm.trans hc')
  have hmem : p ∈ m.superclasses c := mem_superclasses_iff.2 ⟨parent, hparent, hp⟩
  have hfound : ((m.superclasses c).findSome? (·.field? field)).isSome :=
    List.findSome?_isSome_iff.2 ⟨p, hmem, hfield⟩
  rw [PersistentClass.hasField, hm.field?_eq hc, Option.isSome_or, Option.isSome_or, hfound,
    Bool.or_true, Bool.true_or]

/-- A class has every field of the classes that it is among. -/
lemma hasField_of_isSubclass {name ancestor field : String} {c d : PersistentClass}
    (hsub : m.isSubclass name ancestor = true) (hc : m.class? name = some c)
    (hd : m.class? ancestor = some d) (hfield : d.hasField field = true) :
    c.hasField field = true := by
  rw [h.isSubclass_iff] at hsub
  rcases hsub with rfl | hreached
  · obtain rfl := Option.some.inj (hc.symm.trans hd)
    exact hfield
  · induction hreached generalizing c with
    | single hparent => exact h.hasField_of_isParent hparent hd hc hfield
    | tail hreached hparent ih =>
      obtain ⟨_, _, p, hp, _⟩ := Relation.TransGen.tail'_iff.1 hreached
      exact h.hasField_of_isParent hparent hp hc (ih hp)

end Accepted

/-- Every class that the second type names is one that the first type names or an ancestor of one. -/
lemma isAssignable_eq_true_iff {sub sup : ClassType} :
    m.isAssignable sub sup = true ↔
      ∀ wanted ∈ sup.names, ∃ name ∈ sub.names, m.isSubclass name wanted = true := by
  unfold isAssignable
  rw [List.all_eq_true]
  exact forall₂_congr fun _ _ => List.any_eq_true

/-- The components of a type are the classes that it names, if all of them are in the model. -/
lemma components_eq_ok_iff {t : ClassType} {components : List PersistentClass} :
    m.components t = .ok components ↔
      List.Forall₂ (fun name c => m.class? name = some c) t.names components := by
  unfold Model.components
  rw [Except.mapM_eq_ok_iff]
  refine ⟨fun h => h.imp fun name c hc => ?_, fun h => h.imp fun name c hc => ?_⟩
  · split at hc
    · rename_i hname
      rw [hname, Except.ok.inj hc]
    · cases hc
  · rw [hc]

/-- The fields of a type are those that its components have. -/
lemma mem_keys_fields_iff {t : ClassType} {components : List PersistentClass}
    (hcomponents : m.components t = .ok components) {fields : SortedMap String Field}
    (hfields : m.fields t = .ok fields) {field : String} :
    field ∈ fields.keys ↔ ∃ c ∈ components, c.hasField field = true := by
  have hget : field ∈ fields.keys ↔ (fields.get? field).isSome := by
    rw [Option.isSome_iff_exists, SortedMap.keys, List.mem_map]
    constructor
    · rintro ⟨⟨_, f⟩, hmem, rfl⟩
      exact ⟨f, SortedMap.get?_eq_some_iff.2 hmem⟩
    · rintro ⟨f, hf⟩
      exact ⟨(field, f), SortedMap.get?_eq_some_iff.1 hf, rfl⟩
  rw [hget, get?_fields hcomponents hfields, List.findSome?_isSome_iff]
  rfl

/-- In an accepted model going up from a class comes to an end, and a search goes that way: it looks
at the class and then at its superclasses, and with more steps than there are classes it finds
nothing else. By it, a type is assignable to another one if every class that the other one names is
named by the type or is an ancestor of a class that is. This is a preorder; classes may be added to
the first type and left out of the second one. A type has every field of a type that it is
assignable to. -/
theorem isAssignable_preorder (h : m.Accepted) :
    WellFounded m.IsParent ∧
    (∀ name ancestor, m.isSubclass name ancestor = (name == ancestor ||
      (m.class? name).any fun c => c.decl.superclasses.any (m.isSubclass · ancestor))) ∧
    (∀ depth, m.classes.size ≤ depth → ∀ name ancestor,
      m.isSubclassWithin depth name ancestor = m.isSubclass name ancestor) ∧
    (∀ sub sup, m.isAssignable sub sup = true ↔
      ∀ wanted ∈ sup.names, ∃ name ∈ sub.names, wanted = name ∨ m.IsAncestor wanted name) ∧
    (∀ t, m.isAssignable t t = true) ∧
    (∀ a b c, m.isAssignable a b = true → m.isAssignable b c = true →
      m.isAssignable a c = true) ∧
    (∀ sub sub' sup sup' : ClassType, sub.names ⊆ sub'.names → sup'.names ⊆ sup.names →
      m.isAssignable sub sup = true → m.isAssignable sub' sup' = true) ∧
    ∀ sub sup fields fields', m.isAssignable sub sup = true → m.fields sub = .ok fields →
      m.fields sup = .ok fields' → fields'.keys ⊆ fields.keys := by
  refine ⟨h.wellFounded_isParent, h.isSubclass_eq, fun _ => h.isSubclassWithin_eq, ?_, ?_, ?_, ?_,
    ?_⟩
  · intro sub sup
    simp only [isAssignable_eq_true_iff, h.isSubclass_iff]
  · intro t
    refine isAssignable_eq_true_iff.2 fun wanted hwanted => ⟨wanted, hwanted, ?_⟩
    exact (h.isSubclass_iff wanted wanted).2 (.inl rfl)
  · intro a b c hab hbc
    rw [isAssignable_eq_true_iff] at hab hbc ⊢
    intro wanted hwanted
    obtain ⟨middle, hmiddle, hupper⟩ := hbc wanted hwanted
    obtain ⟨name, hname, hlower⟩ := hab middle hmiddle
    exact ⟨name, hname, h.isSubclass_trans hlower hupper⟩
  · intro sub sub' sup sup' hsub hsup hassignable
    rw [isAssignable_eq_true_iff] at hassignable ⊢
    intro wanted hwanted
    obtain ⟨name, hname, hfound⟩ := hassignable wanted (hsup hwanted)
    exact ⟨name, hsub hname, hfound⟩
  · intro sub sup fields fields' hassignable hfields hfields' field hfield
    obtain ⟨components, hcomponents, _⟩ := fields_eq_ok_iff.1 hfields
    obtain ⟨components', hcomponents', _⟩ := fields_eq_ok_iff.1 hfields'
    obtain ⟨d, hd, hhas⟩ := (mem_keys_fields_iff hcomponents' hfields').1 hfield
    refine (mem_keys_fields_iff hcomponents hfields).2 ?_
    -- the component with the field is an ancestor of a component of the other type
    obtain ⟨wanted, hwanted, hd⟩ := (components_eq_ok_iff.1 hcomponents').exists_of_mem_right hd
    obtain ⟨name, hname, hsub⟩ := isAssignable_eq_true_iff.1 hassignable wanted hwanted
    obtain ⟨c, hc, hname⟩ := (components_eq_ok_iff.1 hcomponents).exists_of_mem_left hname
    exact ⟨c, hc, h.hasField_of_isSubclass hsub hname hd hhas⟩

end

end Model

namespace Sample

/-- People, some of whom are guests and some employees, with managers among them. -/
def staffDecls : List ClassDecl :=
  [⟨"Person", [], [.attribute "name" .string]⟩,
    ⟨"Guest", ["Person"], []⟩,
    ⟨"Employee", ["Person"], [.reference "boss" "Manager" none]⟩,
    ⟨"Manager", ["Employee"], []⟩]

lemma isSome_build_staff : (Model.build ⟨0⟩ "staff" staffDecls).toOption.isSome := by
  decide +kernel

/-- The model of the people. -/
def staff : Model :=
  (Model.build ⟨0⟩ "staff" staffDecls).toOption.get isSome_build_staff

lemma accepted_staff : staff.Accepted :=
  Model.accepted_get isSome_build_staff

/-- Managers that are guests. -/
def managingGuest : ClassType :=
  ⟨["Guest", "Manager"], List.pairwise_pair.2 (by decide), List.cons_ne_nil _ _⟩

/-- Employees that are persons. -/
def employedPerson : ClassType :=
  ⟨["Employee", "Person"], List.pairwise_pair.2 (by decide), List.cons_ne_nil _ _⟩

end Sample

/-- Managers that are guests are employees and persons, as a manager inherits from both, and have all
fields of these; not every employee is a guest. -/
theorem isAssignable_preorder_staff :
    Sample.staff.Accepted ∧
    Sample.staff.isAssignable Sample.managingGuest Sample.employedPerson = true ∧
    (∀ wanted ∈ Sample.employedPerson.names, ∃ name ∈ Sample.managingGuest.names,
      wanted = name ∨ Sample.staff.IsAncestor wanted name) ∧
    Sample.staff.isAssignable Sample.employedPerson Sample.managingGuest = false ∧
    ∃ fields fields', Sample.staff.fields Sample.managingGuest = .ok fields ∧
      Sample.staff.fields Sample.employedPerson = .ok fields' ∧ fields'.keys ⊆ fields.keys := by
  have hassignable :
      Sample.staff.isAssignable Sample.managingGuest Sample.employedPerson = true := by
    decide +kernel
  have hfields : (Sample.staff.fields Sample.managingGuest).toOption.isSome := by decide +kernel
  have hfields' : (Sample.staff.fields Sample.employedPerson).toOption.isSome := by decide +kernel
  obtain ⟨fields, hfields⟩ := Except.exists_of_isSome_toOption hfields
  obtain ⟨fields', hfields'⟩ := Except.exists_of_isSome_toOption hfields'
  obtain ⟨_, _, _, hiff, _, _, _, hkeys⟩ := Model.isAssignable_preorder Sample.accepted_staff
  exact ⟨Sample.accepted_staff, hassignable, (hiff _ _).1 hassignable, by decide +kernel, fields,
    fields', hfields, hfields', hkeys _ _ _ _ hassignable hfields hfields'⟩

end ObjectQuery
