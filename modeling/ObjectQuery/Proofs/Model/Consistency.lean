import Mathlib
import ObjectQuery.Proofs.Model.Cycles

/-!
# Consistent declarations

What declared classes have to be like to form a model, said of the list of declarations alone:
names differ, superclasses are declared and lead to no cycle, and the relationships have their
targets and reverses among the classes. The field that a class has of a name is given by rules
(`Has`). A model can be built of consistent declarations and of no other, and a defect that is
reported is there (`build_iff_consistent`).
-/

namespace ObjectQuery

namespace Model

/-- A class is declared to be a superclass of another one. -/
def Extends (decls : List ClassDecl) (sup name : String) : Prop :=
  ∃ d ∈ decls, d.name = name ∧ sup ∈ d.superclasses

/-- The class neither declares nor inherits a field of the name, which is not that of the identity. -/
inductive Lacks (decls : List ClassDecl) (field : String) : String → Prop where
  | intro {d : ClassDecl} {name : String} :
    d ∈ decls → d.name = name →
    Field.find? d.fields.reverse field = none →
    (∀ sup ∈ d.superclasses, Lacks decls field sup) →
    field ≠ Field.identityName →
    Lacks decls field name

/-- The field of the name that a class has: the one it declares last, else that of the first
superclass that has one, else the identity of all objects. -/
inductive Has (decls : List ClassDecl) (field : String) : String → Field → Prop where
  | own {d : ClassDecl} {name : String} {f : Field} :
    d ∈ decls → d.name = name →
    Field.find? d.fields.reverse field = some f →
    Has decls field name f
  | inherited {d : ClassDecl} {name sup : String} {before after : List String} {f : Field} :
    d ∈ decls → d.name = name →
    Field.find? d.fields.reverse field = none →
    d.superclasses = before ++ sup :: after →
    (∀ k ∈ before, Lacks decls field k) →
    Has decls field sup f →
    Has decls field name f
  | identity {d : ClassDecl} {name : String} :
    d ∈ decls → d.name = name →
    Field.find? d.fields.reverse field = none →
    d.superclasses = [] →
    field = Field.identityName →
    Has decls field name Field.identity

/-- The declared classes fit together. -/
structure Consistent (decls : List ClassDecl) : Prop where
  distinct : (decls.map ClassDecl.name).Nodup
  superclasses : ∀ d ∈ decls, ∀ sup ∈ d.superclasses, sup ∈ decls.map ClassDecl.name
  acyclic : ∀ name, ¬ Relation.TransGen (Extends decls) name name
  targets : ∀ d ∈ decls, ∀ f ∈ d.fields, ∀ target, f.target? = some target →
    target ∈ decls.map ClassDecl.name
  reverses : ∀ d ∈ decls, ∀ f ∈ d.fields, ∀ target reverse, f.target? = some target →
    f.reverse? = some reverse → ∃ g, Has decls reverse target g ∧ g.isRelationship = true

/-- The defect is in the declared classes. -/
def Found (decls : List ClassDecl) : ModelDefect → Prop
  | .repeatedClass name => (decls.map ClassDecl.name).Duplicate name
  | .unknownSuperclass name sup => Extends decls sup name ∧ sup ∉ decls.map ClassDecl.name
  | .unknownClass _ => False
  | .inheritanceCycle name => Relation.TransGen (Extends decls) name name
  | .unknownTarget owner field target => ∃ d ∈ decls, d.name = owner ∧ ∃ f ∈ d.fields,
    f.name = field ∧ f.target? = some target ∧ target ∉ decls.map ClassDecl.name
  | .badReverse owner field target reverse => ∃ d ∈ decls, d.name = owner ∧ ∃ f ∈ d.fields,
    f.name = field ∧ f.target? = some target ∧ f.reverse? = some reverse ∧
      ∀ g, Has decls reverse target g → g.isRelationship = false

section

variable {decls : List ClassDecl}

lemma Found.not_consistent {defect : ModelDefect} (h : Found decls defect) :
    ¬ Consistent decls := by
  intro hc
  cases defect with
  | repeatedClass name => exact h.not_nodup hc.distinct
  | unknownSuperclass name sup =>
    obtain ⟨⟨d, hd, _, hsup⟩, hunknown⟩ := h
    exact hunknown (hc.superclasses d hd sup hsup)
  | unknownClass name => exact h
  | inheritanceCycle name => exact hc.acyclic name h
  | unknownTarget owner field target =>
    obtain ⟨d, hd, _, f, hf, _, htarget, hunknown⟩ := h
    exact hunknown (hc.targets d hd f hf target htarget)
  | badReverse owner field target reverse =>
    obtain ⟨d, hd, _, f, hf, _, htarget, hreverse, hnone⟩ := h
    obtain ⟨g, hg, hrelated⟩ := hc.reverses d hd f hf target reverse htarget hreverse
    rw [hnone g hg] at hrelated
    cases hrelated

lemma ByName.isSuperclass_eq {classes : SortedMap String ClassDecl} (h : ByName decls classes) :
    IsSuperclass classes = Extends decls := by
  funext sup name
  apply propext
  unfold IsSuperclass Extends
  constructor
  · rintro ⟨d, hd, hsup⟩
    obtain ⟨hd, hname⟩ := (h name d).1 hd
    exact ⟨d, hd, hname, hsup⟩
  · rintro ⟨d, hd, hname, hsup⟩
    exact ⟨d, h.get?_eq hd hname, hsup⟩

namespace Declared

variable {m : Model} {classes : SortedMap String ClassDecl} {resolved : Resolved}
variable {name field : String} {c : PersistentClass}

lemma map_name_superclasses (hm : m.Declared decls classes resolved) (hc : m.class? name = some c) :
    (m.superclasses c).map (·.name) = c.decl.superclasses := by
  have hsups := (hm.ordered.eq_ownOver (hm.fields hc) (hm.declared hc)).1
  have hall : ∀ sup ∈ c.decl.superclasses,
      (m.class? sup).map (·.name) = some sup := by
    intro sup hsup
    obtain ⟨⟨_, fields⟩, hmem, rfl⟩ := List.mem_map.1 (hsups hsup)
    obtain ⟨d, hd⟩ := hm.ordered.exists_decl hmem
    obtain ⟨k, hk⟩ := hm.all hd
    rw [hk, Option.map_some, hm.name_eq hk]
  rw [superclasses, List.map_filterMap, List.filterMap_congr hall, List.filterMap_some]

lemma lacks_iff (hm : m.Declared decls classes resolved) (hc : m.class? name = some c) :
    Lacks decls field name ↔ c.field? field = none := by
  obtain rfl := hm.name_eq hc
  refine hm.induction ?_ hc
  intro name c hc ih
  obtain rfl := hm.name_eq hc
  have hnames := hm.map_name_superclasses hc
  rw [hm.field?_eq hc, Option.or_eq_none_iff, Option.or_eq_none_iff, List.findSome?_eq_none_iff]
  constructor
  · intro h
    cases h with
    | intro hd hname hnone hsups hne =>
      obtain rfl := hm.decl_eq hc hd hname
      refine ⟨⟨hnone, fun sup hsup => ?_⟩, if_neg hne.symm⟩
      apply (ih sup hsup).1
      apply hsups
      rw [← hnames]
      exact List.mem_map_of_mem hsup
  · rintro ⟨⟨hnone, hsups⟩, hid⟩
    refine .intro (hm.mem hc) rfl hnone ?_ ?_
    · intro name' hname'
      rw [← hnames] at hname'
      obtain ⟨sup, hsup, rfl⟩ := List.mem_map.1 hname'
      exact (ih sup hsup).2 (hsups sup hsup)
    · rintro rfl
      cases hid

/-- A class has a field in the model if it does by the rules. -/
lemma has_iff (hm : m.Declared decls classes resolved) (hc : m.class? name = some c) {f : Field} :
    Has decls field name f ↔ c.field? field = some f := by
  obtain rfl := hm.name_eq hc
  refine hm.induction ?_ hc
  intro name c hc ih
  obtain rfl := hm.name_eq hc
  have hnames := hm.map_name_superclasses hc
  have hclass : ∀ sup ∈ m.superclasses c, m.class? sup.name = some sup :=
    fun _ => hm.class?_of_mem_superclasses
  rw [hm.field?_eq hc]
  constructor
  · intro h
    cases h with
    | own hd hname hf =>
      obtain rfl := hm.decl_eq hc hd hname
      have hown : c.declaration? field = some f := hf
      rw [hown]
      rfl
    | @inherited d _ sup before after _ hd hname hnone hsups hlacks hhas =>
      obtain rfl := hm.decl_eq hc hd hname
      have hown : c.declaration? field = none := hnone
      rw [← hnames] at hsups
      obtain ⟨before', rest, hsuperclasses, rfl, hrest⟩ := List.map_eq_append_iff.1 hsups
      obtain ⟨sup', after', rfl, rfl, _⟩ := List.map_eq_cons_iff.1 hrest
      have hfound : (m.superclasses c).findSome? (·.field? field) = some f := by
        refine List.findSome?_eq_some_iff.2 ⟨before', sup', after', hsuperclasses, ?_, ?_⟩
        · have hmem : sup' ∈ m.superclasses c := by
            rw [hsuperclasses]
            exact List.mem_append_right _ List.mem_cons_self
          exact (ih sup' hmem).1 hhas
        · intro k hk
          have hmem : k ∈ m.superclasses c := by
            rw [hsuperclasses]
            exact List.mem_append_left _ hk
          exact (hm.lacks_iff (hclass k hmem)).1 (hlacks k.name (List.mem_map_of_mem hk))
      rw [hown, hfound]
      rfl
    | identity hd hname hnone hsups hid =>
      obtain rfl := hm.decl_eq hc hd hname
      have hown : c.declaration? field = none := hnone
      rw [← hnames, List.map_eq_nil_iff] at hsups
      rw [hown, hsups, if_pos hid.symm]
      rfl
  · intro h
    rw [Option.or_eq_some_iff, Option.or_eq_some_iff, List.findSome?_eq_some_iff,
      Option.or_eq_none_iff, List.findSome?_eq_none_iff] at h
    rcases h with (hown | ⟨hnone, before, sup, after, hsups, hf, hbefore⟩) | ⟨⟨hnone, hsups⟩, hid⟩
    · exact .own (hm.mem hc) rfl hown
    · have hmem : ∀ k ∈ before, k ∈ m.superclasses c := by
        intro k hk
        rw [hsups]
        exact List.mem_append_left _ hk
      have hsup : sup ∈ m.superclasses c := by
        rw [hsups]
        exact List.mem_append_right _ List.mem_cons_self
      rw [hsups, List.map_append, List.map_cons] at hnames
      refine .inherited (hm.mem hc) rfl hnone hnames.symm ?_ ((ih sup hsup).2 hf)
      intro name' hname'
      obtain ⟨k, hk, rfl⟩ := List.mem_map.1 hname'
      exact (hm.lacks_iff (hclass k (hmem k hk))).2 (hbefore k hk)
    · split at hid
      · rename_i hfield
        obtain rfl := Option.some.inj hid
        refine .identity (hm.mem hc) rfl hnone ?_ hfield.symm
        -- every superclass has an identity
        rw [← hnames, List.map_eq_nil_iff, List.eq_nil_iff_forall_not_mem]
        intro sup hsup
        cases (hm.lacks_iff (hclass sup hsup)).2 (hsups sup hsup) with
        | intro _ _ _ _ hne => exact hne hfield.symm
      · cases hid

lemma reverseField?_eq_some_iff (hm : m.Declared decls classes resolved) {f g : Field}
    {target reverse : String} (htarget : f.target? = some target)
    (hreverse : f.reverse? = some reverse) (hdeclared : target ∈ decls.map ClassDecl.name) :
    m.reverseField? f = some g ↔ Has decls reverse target g := by
  obtain ⟨c, hc⟩ := hm.exists_class hdeclared
  rw [hm.has_iff hc]
  unfold reverseField?
  rw [htarget, hreverse]
  show (m.class? target).bind (·.field? reverse) = some g ↔ _
  rw [hc, Option.bind_some]

/-- A relationship is refused for the target or the reverse that it does not have. -/
lemma failsOnly_checkField (hm : m.Declared decls classes resolved) {d : ClassDecl} (hd : d ∈ decls)
    {f : Field} (hf : f ∈ d.fields) :
    Except.FailsOnly (Found decls) (m.checkField d.name f) := by
  unfold checkField
  split
  · exact .ok
  · rename_i target htarget
    split
    · rename_i hdeclared
      rw [hm.contains_iff] at hdeclared
      split
      · exact .ok
      · rename_i reverse hreverse
        split
        · exact .ok
        · rename_i hnot
          refine .error ⟨d, hd, rfl, f, hf, rfl, htarget, hreverse, fun g hg => ?_⟩
          rw [← hm.reverseField?_eq_some_iff htarget hreverse hdeclared] at hg
          rw [hg] at hnot
          exact Bool.eq_false_of_not_eq_true hnot
    · rename_i hunknown
      rw [hm.contains_iff] at hunknown
      exact .error ⟨d, hd, rfl, f, hf, rfl, htarget, hunknown⟩

/-- A relationship that passes has its target and reverse. -/
lemma of_checkField (hm : m.Declared decls classes resolved) {owner : String} {f : Field}
    (h : m.checkField owner f = .ok ()) {target : String} (htarget : f.target? = some target) :
    target ∈ decls.map ClassDecl.name ∧ ∀ reverse, f.reverse? = some reverse →
      ∃ g, Has decls reverse target g ∧ g.isRelationship = true := by
  unfold checkField at h
  rw [htarget] at h
  dsimp only at h
  split at h
  · rename_i hdeclared
    rw [hm.contains_iff] at hdeclared
    refine ⟨hdeclared, fun reverse hreverse => ?_⟩
    rw [hreverse] at h
    dsimp only at h
    split at h
    · rename_i hany
      obtain ⟨g, hg, hrelated⟩ := (Option.any_eq_true _ _).1 hany
      exact ⟨g, (hm.reverseField?_eq_some_iff htarget hreverse hdeclared).1 hg, hrelated⟩
    · cases h
  · cases h

end Declared

lemma checkSuperclasses_eq_ok_iff {classes : SortedMap String ClassDecl} :
    checkSuperclasses classes = .ok () ↔ SuperclassesDeclared classes := by
  unfold checkSuperclasses SuperclassesDeclared
  rw [Except.forM_eq_ok_iff]
  constructor
  · intro h name d hd sup hsup
    have hmem : d ∈ classes.values := List.mem_map_of_mem (SortedMap.get?_eq_some_iff.1 hd)
    have hcheck := Except.forM_eq_ok_iff.1 (h d hmem) sup hsup
    split at hcheck
    · assumption
    · cases hcheck
  · intro h d hd
    obtain ⟨⟨name, _⟩, hmem, rfl⟩ := List.mem_map.1 hd
    refine Except.forM_eq_ok_iff.2 fun sup hsup => ?_
    rw [if_pos (h name _ (SortedMap.get?_eq_some_iff.2 hmem) sup hsup)]

lemma failsOnly_checkSuperclasses {classes : SortedMap String ClassDecl}
    (hclasses : ByName decls classes) :
    Except.FailsOnly (Found decls) (checkSuperclasses classes) := by
  refine .forM fun d hd => .forM fun sup hsup => ?_
  split
  · exact .ok
  · rename_i hunknown
    rw [hclasses.contains_iff] at hunknown
    obtain ⟨⟨name, d⟩, hmem, rfl⟩ := List.mem_map.1 hd
    have hdecl := ((hclasses name d).1 (SortedMap.get?_eq_some_iff.2 hmem)).1
    exact .error ⟨⟨d, hdecl, rfl, hsup⟩, hunknown⟩

/-- A defect that keeps a model from being built is in the declarations. -/
lemma failsOnly_build (id : ModelId) (name : String) (decls : List ClassDecl) :
    Except.FailsOnly (Found decls) (build id name decls) := by
  apply Except.FailsOnly.bind
  · intro defect hdefect
    obtain ⟨name, rfl, hname⟩ := failsOnly_byName decls defect hdefect
    exact hname
  intro classes hclasses
  have hbyName := (byName_eq_ok hclasses).2
  apply (failsOnly_checkSuperclasses hbyName).bind
  intro _ hsuperclasses
  have hsups := checkSuperclasses_eq_ok_iff.1 hsuperclasses
  apply Except.FailsOnly.bind
  · intro defect hdefect
    obtain ⟨name, rfl, hname⟩ := failsOnly_resolveAll hsups defect hdefect
    rw [hbyName.isSuperclass_eq] at hname
    exact hname
  intro all hall
  let m : Model := ⟨id, name, all⟩
  obtain ⟨resolved, hm⟩ := exists_declared hclasses hall m rfl
  refine Except.FailsOnly.bind (.forM fun c hc => .forM fun f hf => ?_) fun _ _ => .ok
  obtain ⟨⟨name', _⟩, hmem, rfl⟩ := List.mem_map.1 hc
  have hclass : m.class? name' = some _ := SortedMap.get?_eq_some_iff.2 hmem
  exact hm.failsOnly_checkField (hm.mem hclass) hf

/-- Declarations that a model can be built of are consistent. -/
lemma consistent_of_build {id : ModelId} {name : String} {m : Model}
    (h : build id name decls = .ok m) : Consistent decls := by
  obtain ⟨classes, hclasses, hsuperclasses, hall, hrelationships, _, _⟩ := build_eq_ok_iff.1 h
  obtain ⟨hnodup, hbyName⟩ := byName_eq_ok hclasses
  obtain ⟨resolved, hm⟩ := exists_declared hclasses hall m rfl
  have hfields : ∀ d ∈ decls, ∀ f ∈ d.fields, m.checkField d.name f = .ok () := by
    intro d hd f hf
    obtain ⟨c, hc⟩ := hm.all (hbyName.get?_eq hd rfl)
    obtain rfl := hm.decl_eq hc hd rfl
    have hmem : c ∈ m.classes.values := List.mem_map_of_mem (SortedMap.get?_eq_some_iff.1 hc)
    have hclass := Except.forM_eq_ok_iff.1 hrelationships c hmem
    exact Except.forM_eq_ok_iff.1 hclass f hf
  constructor
  case distinct => exact hnodup
  case superclasses =>
    intro d hd sup hsup
    have hdeclared := checkSuperclasses_eq_ok_iff.1 hsuperclasses
    exact (hbyName.contains_iff sup).1 (hdeclared d.name d (hbyName.get?_eq hd rfl) sup hsup)
  case acyclic =>
    intro name hcycle
    rw [← hbyName.isSuperclass_eq] at hcycle
    exact hm.wellFounded.transGen.asymmetric name name hcycle hcycle
  case targets => exact fun d hd f hf target htarget => (hm.of_checkField (hfields d hd f hf) htarget).1
  case reverses =>
    intro d hd f hf target reverse htarget hreverse
    exact (hm.of_checkField (hfields d hd f hf) htarget).2 reverse hreverse

/-- A model can be built of declarations just if they are consistent; otherwise one of their defects
is reported. The order of the declarations makes no difference to the model, and resolving the
classes never ends for want of steps. -/
theorem build_iff_consistent (id : ModelId) (name : String) (decls : List ClassDecl) :
    ((∃ m, build id name decls = .ok m) ↔ Consistent decls) ∧
    (¬ Consistent decls → ∃ defect, build id name decls = .error defect ∧ Found decls defect) ∧
    (∀ decls', decls.Perm decls' → ∀ m, build id name decls = .ok m →
      build id name decls' = .ok m) ∧
    ∀ (classes : SortedMap String ClassDecl) (depth : Nat), classes.size < depth →
      ∀ resolved name, resolve classes depth [] resolved name =
        resolve classes (classes.size + 1) [] resolved name := by
  have hfails := failsOnly_build id name decls
  refine ⟨⟨?_, ?_⟩, ?_, ?_, ?_⟩
  · rintro ⟨m, hm⟩
    exact consistent_of_build hm
  · intro hconsistent
    rcases hfails.ok_or_error with hok | ⟨defect, _, hfound⟩
    · exact hok
    · exact absurd hconsistent hfound.not_consistent
  · intro hinconsistent
    rcases hfails.ok_or_error with ⟨m, hm⟩ | herror
    · exact absurd (consistent_of_build hm) hinconsistent
    · exact herror
  · intro decls' hperm m hm
    obtain ⟨classes, hclasses, hrest⟩ := build_eq_ok_iff.1 hm
    exact build_eq_ok_iff.2 ⟨classes, byName_perm hperm hclasses, hrest⟩
  · intro classes depth hdepth resolved name
    exact resolve_eq_of_size_lt hdepth resolved name

end

end Model

namespace Sample

/-- Two classes, each of which is the superclass of the other. -/
def loopDecls : List ClassDecl :=
  [⟨"Chicken", ["Egg"], []⟩, ⟨"Egg", ["Chicken"], []⟩]

lemma not_consistent_loopDecls : ¬ Model.Consistent loopDecls := by
  intro h
  have hchicken : Model.Extends loopDecls "Chicken" "Egg" :=
    ⟨_, List.mem_cons_of_mem _ List.mem_cons_self, rfl, List.mem_cons_self⟩
  have hegg : Model.Extends loopDecls "Egg" "Chicken" :=
    ⟨_, List.mem_cons_self, rfl, List.mem_cons_self⟩
  exact h.acyclic "Chicken" (.head hchicken (.single hegg))

end Sample

/-- The classes of the company are consistent, so they form the same model in the other order; two
classes that inherit from each other form none. -/
theorem build_iff_consistent_samples :
    Model.Consistent Sample.companyDecls ∧
    Model.build ⟨0⟩ "company" Sample.companyDecls.reverse = .ok Sample.company ∧
    ¬ Model.Consistent Sample.loopDecls ∧
    ∃ defect, Model.build ⟨1⟩ "loop" Sample.loopDecls = .error defect ∧
      Model.Found Sample.loopDecls defect := by
  have hcompany := Model.build_iff_consistent ⟨0⟩ "company" Sample.companyDecls
  have hbuild : Model.build ⟨0⟩ "company" Sample.companyDecls = .ok Sample.company :=
    Model.build_eq_ok_get Sample.isSome_build_company
  have hreverse := hcompany.2.2.1 _ (List.reverse_perm _).symm _ hbuild
  have hloop := Model.build_iff_consistent ⟨1⟩ "loop" Sample.loopDecls
  exact ⟨hcompany.1.1 ⟨_, hbuild⟩, hreverse, Sample.not_consistent_loopDecls,
    hloop.2.1 Sample.not_consistent_loopDecls⟩

end ObjectQuery
