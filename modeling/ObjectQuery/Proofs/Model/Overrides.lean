import Mathlib
import ObjectQuery.Proofs.Model.Assignability

/-!
# Overridden declarations

A class that declares a field of an ancestor again overrides it, and a class below both has the
override if the search for the field comes to it first. The search follows from each class the first
superclass that has the field (`PassesTo`), all the way to the declaration. So what it finds is
overridden just if an override is reached through a later superclass of a class on its way
(`Accepted.overridden_iff`), which takes more than one superclass that has the field.
-/

namespace ObjectQuery

namespace Model

/-- The class does not declare the field, and `sup` is the first of its superclasses to have it;
`later` are those behind it. -/
def PassesTo (m : Model) (field : String) (c sup : PersistentClass)
    (later : List PersistentClass) : Prop :=
  c.declares field = false ∧ ∃ before, m.superclasses c = before ++ sup :: later ∧
    (∀ k ∈ before, k.hasField field = false) ∧ sup.hasField field = true

/-- The search for the field in a class comes to another one. -/
def ComesTo (m : Model) (field : String) : PersistentClass → PersistentClass → Prop :=
  Relation.ReflTransGen fun c sup => ∃ later, m.PassesTo field c sup later

/-- A class declares the field that is the named one or an ancestor of it, and `declaring` is an
ancestor of that class. -/
def Overridden (m : Model) (field : String) (declaring : PersistentClass) (name : String) : Prop :=
  ∃ k d, m.class? k = some d ∧ d.declares field = true ∧ (k = name ∨ m.IsAncestor k name) ∧
    m.IsAncestor declaring.name k

variable {m : Model} {field name : String} {c sup declaring : PersistentClass}
  {later : List PersistentClass}

lemma PassesTo.mem_superclasses (hpass : m.PassesTo field c sup later) :
    sup ∈ m.superclasses c := by
  obtain ⟨_, before, hsups, _⟩ := hpass
  rw [hsups]
  exact List.mem_append_right _ List.mem_cons_self

lemma PassesTo.later_subset (hpass : m.PassesTo field c sup later) :
    later ⊆ m.superclasses c := by
  obtain ⟨_, before, hsups, _⟩ := hpass
  rw [hsups]
  exact List.subset_append_of_subset_right _ (List.subset_cons_self _ _)

lemma PassesTo.hasField (hpass : m.PassesTo field c sup later) : sup.hasField field = true := by
  obtain ⟨_, _, _, _, hsup⟩ := hpass
  exact hsup

namespace Accepted

variable (h : m.Accepted)

include h

lemma name_eq (hc : m.class? name = some c) : c.name = name := by
  obtain ⟨_, _, _, hm⟩ := h.exists_declared
  exact hm.name_eq hc

/-- The superclasses of a class are classes of the model. -/
lemma class?_of_mem_superclasses (hsup : sup ∈ m.superclasses c) :
    m.class? sup.name = some sup := by
  obtain ⟨_, _, _, hm⟩ := h.exists_declared
  exact hm.class?_of_mem_superclasses hsup

/-- No class is its own ancestor. -/
lemma not_isAncestor_self (name : String) : ¬ m.IsAncestor name name := fun hcycle =>
  h.wellFounded_isParent.transGen.asymmetric name name hcycle hcycle

lemma hasField_of_declares (hc : m.class? name = some c) (hdeclares : c.declares field = true) :
    c.hasField field = true := by
  rw [← c.isSome_declaration?, Option.isSome_iff_exists] at hdeclares
  obtain ⟨f, hf⟩ := hdeclares
  rw [PersistentClass.hasField, h.field?_of_declaration? hc hf]
  rfl

/-- Where a declaration is overridden, there is the field. -/
lemma hasField_of_overridden (hc : m.class? name = some c)
    (hoverridden : m.Overridden field declaring name) : c.hasField field = true := by
  obtain ⟨k, d, hd, hdeclares, hk, _⟩ := hoverridden
  have hsub : m.isSubclass name k = true := (h.isSubclass_iff name k).2 hk
  exact h.hasField_of_isSubclass hsub hc hd (h.hasField_of_declares hd hdeclares)

/-- The declaration of a class is overridden by none of its ancestors. -/
lemma not_overridden_self (hc : m.class? name = some c) : ¬ m.Overridden field c name := by
  rintro ⟨k, _, _, _, hk, hbelow⟩
  rw [h.name_eq hc] at hbelow
  rcases hk with rfl | habove
  · exact h.not_isAncestor_self k hbelow
  · exact h.not_isAncestor_self k (habove.trans hbelow)

/-- A class that does not declare the field sees the overrides that its superclasses see. -/
lemma overridden_iff_superclasses (hc : m.class? name = some c)
    (hdeclares : c.declares field = false) :
    m.Overridden field declaring name ↔
      ∃ sup ∈ m.superclasses c, m.Overridden field declaring sup.name := by
  constructor
  · rintro ⟨k, d, hd, hfield, hk, hbelow⟩
    rcases hk with rfl | habove
    · obtain rfl := Option.some.inj (hc.symm.trans hd)
      rw [hdeclares] at hfield
      cases hfield
    · obtain ⟨parent, habove, c', hc', hparent⟩ := Relation.TransGen.tail'_iff.1 habove
      obtain rfl := Option.some.inj (hc.symm.trans hc')
      rw [Relation.reflTransGen_iff_eq_or_transGen] at habove
      obtain ⟨p, hp⟩ : ∃ p, m.class? parent = some p := by
        rcases habove with rfl | habove
        · exact ⟨d, hd⟩
        · obtain ⟨_, _, p, hp, _⟩ := Relation.TransGen.tail'_iff.1 habove
          exact ⟨p, hp⟩
      refine ⟨p, mem_superclasses_iff.2 ⟨parent, hparent, hp⟩, k, d, hd, hfield, ?_, hbelow⟩
      rw [h.name_eq hp]
      exact habove.imp_left Eq.symm
  · rintro ⟨sup, hsup, k, d, hd, hfield, hk, hbelow⟩
    obtain ⟨parent, hparent, hp⟩ := mem_superclasses_iff.1 hsup
    rw [h.name_eq hp] at hk
    have hstep : m.IsAncestor parent name := .single ⟨c, hc, hparent⟩
    refine ⟨k, d, hd, hfield, .inr ?_, hbelow⟩
    rcases hk with rfl | habove
    · exact hstep
    · exact habove.trans hstep

/-- Behind the superclass that the search follows only the later ones add to what it sees. -/
lemma overridden_iff_passesTo (hc : m.class? name = some c)
    (hpass : m.PassesTo field c sup later) :
    m.Overridden field declaring name ↔ m.Overridden field declaring sup.name ∨
      ∃ other ∈ later, m.Overridden field declaring other.name := by
  obtain ⟨hdeclares, before, hsups, hbefore, _⟩ := hpass
  have hnone : ¬ ∃ k ∈ before, m.Overridden field declaring k.name := by
    rintro ⟨k, hk, hoverridden⟩
    have hclass : m.class? k.name = some k := by
      apply h.class?_of_mem_superclasses (c := c)
      rw [hsups]
      exact List.mem_append_left _ hk
    have hfield := h.hasField_of_overridden hclass hoverridden
    rw [hbefore k hk] at hfield
    cases hfield
  simp only [h.overridden_iff_superclasses hc hdeclares, hsups, List.mem_append, or_and_right,
    exists_or, List.mem_cons, exists_eq_left]
  exact or_iff_right hnone

/-- A field other than the identity comes from a declaration. -/
lemma exists_declaration_of_hasField (hc : m.class? name = some c)
    (hfield : c.hasField field = true) (hne : field ≠ Field.identityName) :
    ∃ declaring f, m.declaringClass? c field = some declaring ∧ c.field? field = some f ∧
      declaring.declaration? field = some f := by
  obtain ⟨f, hf⟩ := Option.isSome_iff_exists.1 hfield
  have hfid : f ≠ Field.identity := by
    rintro rfl
    exact hne (Field.name_of_find? hf).symm
  obtain ⟨declaring, hdeclaring, hdeclaration⟩ := h.exists_declaration hc hf hfid
  exact ⟨declaring, f, hdeclaring, hf, hdeclaration⟩

/-- A class that has the field and does not declare it has it from a superclass. -/
lemma exists_passesTo (hc : m.class? name = some c) (hfield : c.hasField field = true)
    (hne : field ≠ Field.identityName) (hdeclares : c.declares field = false) :
    ∃ sup later, m.PassesTo field c sup later := by
  obtain ⟨_, _, _, hm⟩ := h.exists_declared
  rw [← c.isSome_declaration?] at hdeclares
  rw [PersistentClass.hasField, hm.field?_eq hc, if_neg hne.symm, Option.or_none, Option.isSome_or,
    hdeclares, Bool.false_or, Option.isSome_iff_exists] at hfield
  obtain ⟨f, hf⟩ := hfield
  obtain ⟨before, sup, later, hsups, hsup, hbefore⟩ := List.findSome?_eq_some_iff.1 hf
  refine ⟨sup, later, by rw [← c.isSome_declaration?]; exact hdeclares, before, hsups, ?_, ?_⟩
  · intro k hk
    rw [PersistentClass.hasField, hbefore k hk]
    rfl
  · rw [PersistentClass.hasField, hsup]
    rfl

/-- The declaring class is that of the superclass that the search follows. -/
lemma declaringClass?_of_passesTo (hc : m.class? name = some c)
    (hpass : m.PassesTo field c sup later) (hne : field ≠ Field.identityName) :
    m.declaringClass? c field = m.declaringClass? sup field := by
  obtain ⟨hdeclares, before, hsups, hbefore, hsup⟩ := hpass
  have hclass : ∀ k ∈ m.superclasses c, m.class? k.name = some k :=
    fun k hk => h.class?_of_mem_superclasses hk
  rw [hsups] at hclass
  have hnone : before.findSome? (m.declaringClass? · field) = none := by
    refine List.findSome?_eq_none_iff.2 fun k hk => ?_
    apply h.declaringClass?_eq_none (hclass k (List.mem_append_left _ hk))
    exact Option.not_isSome_iff_eq_none.1 (Bool.eq_false_iff.1 (hbefore k hk))
  obtain ⟨declaring, _, hdeclaring, _⟩ := h.exists_declaration_of_hasField
    (hclass sup (List.mem_append_right _ List.mem_cons_self)) hsup hne
  rw [h.declaringClass?_eq hc, if_neg (Bool.eq_false_iff.1 hdeclares), hsups,
    List.findSome?_append, hnone, Option.none_or, List.findSome?_cons, hdeclaring]

/-- The search comes to the class that it finds. -/
lemma comesTo_declaringClass? (hc : m.class? name = some c) (hfield : c.hasField field = true)
    (hne : field ≠ Field.identityName) (hdeclaring : m.declaringClass? c field = some declaring) :
    m.ComesTo field c declaring := by
  obtain ⟨_, _, _, hm⟩ := h.exists_declared
  revert hfield hdeclaring
  refine hm.induction ?_ hc
  intro name c hc ih hfield hdeclaring
  cases hdeclares : c.declares field with
  | true =>
    rw [h.declaringClass?_eq hc, if_pos hdeclares] at hdeclaring
    obtain rfl := Option.some.inj hdeclaring
    exact .refl
  | false =>
    obtain ⟨sup, later, hpass⟩ := h.exists_passesTo hc hfield hne hdeclares
    rw [h.declaringClass?_of_passesTo hc hpass hne] at hdeclaring
    exact .head ⟨later, hpass⟩ (ih sup hpass.mem_superclasses hpass.hasField hdeclaring)

/-- An override is seen at the start of the search just if a later superclass of a class on the way
sees it. -/
lemma overridden_iff_comesTo (hc : m.class? name = some c) (hfield : c.hasField field = true)
    (hne : field ≠ Field.identityName) (hdeclaring : m.declaringClass? c field = some declaring) :
    m.Overridden field declaring c.name ↔
      ∃ x sup later other, m.ComesTo field c x ∧ m.PassesTo field x sup later ∧ other ∈ later ∧
        m.Overridden field declaring other.name := by
  obtain ⟨_, _, _, hm⟩ := h.exists_declared
  revert hfield hdeclaring
  refine hm.induction ?_ hc
  intro name c hc ih hfield hdeclaring
  have hname := hm.name_eq hc
  constructor
  · intro hoverridden
    rw [hname] at hoverridden
    cases hdeclares : c.declares field with
    | true =>
      rw [h.declaringClass?_eq hc, if_pos hdeclares] at hdeclaring
      obtain rfl := Option.some.inj hdeclaring
      exact absurd hoverridden (h.not_overridden_self hc)
    | false =>
      obtain ⟨sup, later, hpass⟩ := h.exists_passesTo hc hfield hne hdeclares
      rw [h.declaringClass?_of_passesTo hc hpass hne] at hdeclaring
      rcases (h.overridden_iff_passesTo hc hpass).1 hoverridden with hsup | ⟨other, hmem, hother⟩
      · obtain ⟨x, sup', later', other, hway, hrest⟩ :=
          (ih sup hpass.mem_superclasses hpass.hasField hdeclaring).1 hsup
        exact ⟨x, sup', later', other, .head ⟨later, hpass⟩ hway, hrest⟩
      · exact ⟨c, sup, later, other, .refl, hpass, hmem, hother⟩
  · rintro ⟨x, sup, later, other, hway, hpass, hmem, hother⟩
    rw [hname]
    rcases Relation.ReflTransGen.cases_head hway with rfl | ⟨sup', ⟨later', hpass'⟩, hway⟩
    · exact (h.overridden_iff_passesTo hc hpass).2 (.inr ⟨other, hmem, hother⟩)
    · rw [h.declaringClass?_of_passesTo hc hpass' hne] at hdeclaring
      have hsup := (ih sup' hpass'.mem_superclasses hpass'.hasField hdeclaring).2
        ⟨x, sup, later, other, hway, hpass, hmem, hother⟩
      exact (h.overridden_iff_passesTo hc hpass').2 (.inl hsup)

/-- Where no class on the way has a second superclass with the field, the declaration that is found is
the most specific one. -/
theorem not_overridden_of_single (hc : m.class? name = some c) (hfield : c.hasField field = true)
    (hne : field ≠ Field.identityName) (hdeclaring : m.declaringClass? c field = some declaring)
    (hsingle : ∀ x sup later, m.ComesTo field c x → m.PassesTo field x sup later →
      ∀ other ∈ later, other.hasField field = false) :
    ¬ m.Overridden field declaring c.name := by
  intro hoverridden
  obtain ⟨x, sup, later, other, hway, hpass, hmem, hother⟩ :=
    (h.overridden_iff_comesTo hc hfield hne hdeclaring).1 hoverridden
  have hclass := h.class?_of_mem_superclasses (hpass.later_subset hmem)
  have hhas := h.hasField_of_overridden hclass hother
  rw [hsingle x sup later hway hpass other hmem] at hhas
  cases hhas

/-- A field other than the identity that a class has is the declaration of the class that the search
comes to. That declaration is overridden by the class or one of its ancestors just if it is by a later
superclass of a class on the way of the search, or by an ancestor of one. -/
theorem overridden_iff (hc : m.class? name = some c) (hfield : c.hasField field = true)
    (hne : field ≠ Field.identityName) :
    ∃ declaring f, m.declaringClass? c field = some declaring ∧ c.field? field = some f ∧
      declaring.declaration? field = some f ∧ m.ComesTo field c declaring ∧
      (m.Overridden field declaring c.name ↔
        ∃ x sup later other, m.ComesTo field c x ∧ m.PassesTo field x sup later ∧ other ∈ later ∧
          m.Overridden field declaring other.name) := by
  obtain ⟨declaring, f, hdeclaring, hf, hdeclaration⟩ :=
    h.exists_declaration_of_hasField hc hfield hne
  exact ⟨declaring, f, hdeclaring, hf, hdeclaration,
    h.comesTo_declaringClass? hc hfield hne hdeclaring,
    h.overridden_iff_comesTo hc hfield hne hdeclaring⟩

end Accepted

end Model

namespace Sample

/-- Workers have badges of another type than all other persons. Interns and apprentices are visitors
and workers, but in different orders. -/
def deskDecls : List ClassDecl :=
  [⟨"Person", [], [.attribute "badge" .string]⟩,
    ⟨"Visitor", ["Person"], []⟩,
    ⟨"Worker", ["Person"], [.attribute "badge" .integer]⟩,
    ⟨"Intern", ["Visitor", "Worker"], []⟩,
    ⟨"Apprentice", ["Worker", "Visitor"], []⟩]

/-- The classes of the desk form a model. -/
lemma isSome_build_desk : (Model.build ⟨0⟩ "desk" deskDecls).toOption.isSome := by
  decide +kernel

/-- The model of the desk. -/
def desk : Model :=
  (Model.build ⟨0⟩ "desk" deskDecls).toOption.get isSome_build_desk

/-- The model of the desk is accepted. -/
lemma accepted_desk : desk.Accepted :=
  Model.accepted_get isSome_build_desk

/-- The class of all persons. -/
def person : PersistentClass :=
  ⟨⟨"Person", [], [.attribute "badge" .string]⟩, [.identity, .attribute "badge" .string]⟩

/-- The class that has the badge through visitors. -/
def intern : PersistentClass :=
  ⟨⟨"Intern", ["Visitor", "Worker"], []⟩, [.identity, .attribute "badge" .string]⟩

/-- The class that has the badge through workers. -/
def apprentice : PersistentClass :=
  ⟨⟨"Apprentice", ["Worker", "Visitor"], []⟩, [.identity, .attribute "badge" .integer]⟩

end Sample

/-- Interns have the badge of persons, although they are workers as well, who override it. -/
theorem override_undone :
    Sample.desk.Accepted ∧ Sample.desk.class? "Intern" = some Sample.intern ∧
    Sample.desk.declaringClass? Sample.intern "badge" = some Sample.person ∧
    Sample.desk.Overridden "badge" Sample.person "Intern" := by
  have hdeclares : (Sample.desk.class? "Worker").any (·.declares "badge") = true := by
    decide +kernel
  obtain ⟨worker, hworker, hdeclares⟩ := (Option.any_eq_true _ _).1 hdeclares
  have above (name ancestor : String) (hne : ancestor ≠ name)
      (hsub : Sample.desk.isSubclass name ancestor = true) :
      Sample.desk.IsAncestor ancestor name :=
    ((Sample.accepted_desk.isSubclass_iff name ancestor).1 hsub).resolve_left hne
  refine ⟨Sample.accepted_desk, by decide +kernel, by decide +kernel, "Worker", worker, hworker,
    hdeclares, .inr ?_, ?_⟩
  · exact above "Intern" "Worker" (by decide) (by decide +kernel)
  · exact above "Worker" "Person" (by decide) (by decide +kernel)

/-- Apprentices have the badge of workers, which none of their classes overrides. -/
theorem overridden_iff_apprentice :
    Sample.desk.class? "Apprentice" = some Sample.apprentice ∧
    Sample.apprentice.hasField "badge" = true ∧ "badge" ≠ Field.identityName ∧
    ∃ declaring, Sample.desk.declaringClass? Sample.apprentice "badge" = some declaring ∧
      declaring.declaration? "badge" = some (.attribute "badge" .integer) ∧
      (Sample.desk.Overridden "badge" declaring "Apprentice" ↔
        ∃ x sup later other, Sample.desk.ComesTo "badge" Sample.apprentice x ∧
          Sample.desk.PassesTo "badge" x sup later ∧ other ∈ later ∧
            Sample.desk.Overridden "badge" declaring other.name) := by
  have hclass : Sample.desk.class? "Apprentice" = some Sample.apprentice := by decide +kernel
  have hfield : Sample.apprentice.hasField "badge" = true := by decide +kernel
  have hne : "badge" ≠ Field.identityName := by decide
  obtain ⟨declaring, f, hdeclaring, hf, hdeclaration, _, hiff⟩ :=
    Model.Accepted.overridden_iff Sample.accepted_desk hclass hfield hne
  have hbadge : Sample.apprentice.field? "badge" = some (.attribute "badge" .integer) := by
    decide +kernel
  rw [← hf, hbadge] at hdeclaration
  exact ⟨hclass, hfield, hne, declaring, hdeclaring, hdeclaration, hiff⟩

end ObjectQuery
