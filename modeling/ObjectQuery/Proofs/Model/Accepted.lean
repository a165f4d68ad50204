import Mathlib
import ObjectQuery.Model.Lookup
import ObjectQuery.Proofs.Except
import ObjectQuery.Proofs.SortedMap

/-!
# Accepted models

A model is accepted if it was built from declared classes. Building one takes four steps, each of
which may refuse the declarations (`build_eq_ok_iff`).
-/

namespace ObjectQuery

namespace Model

/-- The model is built from declared classes. -/
def Accepted (m : Model) : Prop :=
  ∃ id name decls, build id name decls = .ok m

/-- A model is built of declarations whose names differ, whose superclasses are declared and can be
resolved, and whose relationships have their other ends. -/
lemma build_eq_ok_iff {id : ModelId} {name : String} {decls : List ClassDecl} {m : Model} :
    build id name decls = .ok m ↔
    ∃ classes, byName decls = .ok classes ∧ checkSuperclasses classes = .ok () ∧
      resolveAll classes = .ok m.classes ∧ m.checkRelationships = .ok () ∧
      m.id = id ∧ m.name = name := by
  constructor
  · intro h
    obtain ⟨classes, hclasses, h⟩ := Except.bind_eq_ok.1 h
    obtain ⟨_, hsuperclasses, h⟩ := Except.bind_eq_ok.1 h
    obtain ⟨all, hall, h⟩ := Except.bind_eq_ok.1 h
    obtain ⟨_, hrelationships, h⟩ := Except.bind_eq_ok.1 h
    cases h
    exact ⟨classes, hclasses, hsuperclasses, hall, hrelationships, rfl, rfl⟩
  · obtain ⟨_, _, all⟩ := m
    rintro ⟨classes, hclasses, hsuperclasses, hall, hrelationships, rfl, rfl⟩
    exact Except.bind_eq_ok.2 ⟨classes, hclasses, Except.bind_eq_ok.2 ⟨(), hsuperclasses,
      Except.bind_eq_ok.2 ⟨all, hall, Except.bind_eq_ok.2 ⟨(), hrelationships, rfl⟩⟩⟩⟩

lemma build_eq_ok_get {id : ModelId} {name : String} {decls : List ClassDecl}
    (h : (build id name decls).toOption.isSome) :
    build id name decls = .ok ((build id name decls).toOption.get h) := by
  obtain ⟨m, hm⟩ := Except.exists_of_isSome_toOption h
  have hget : (build id name decls).toOption.get h = m := by
    apply Option.get_of_eq_some h
    rw [hm]
    rfl
  rw [hget, hm]

/-- What can be built from declared classes is accepted. -/
lemma accepted_get {id : ModelId} {name : String} {decls : List ClassDecl}
    (h : (build id name decls).toOption.isSome) :
    ((build id name decls).toOption.get h).Accepted :=
  ⟨id, name, decls, build_eq_ok_get h⟩

end Model

namespace Sample

/-- Employees and the projects that they work on. -/
def companyDecls : List ClassDecl :=
  [⟨"Employee", [],
      [.attribute "name" .string, .collection "projects" "Project" (some "members") none]⟩,
    ⟨"Project", [], [.collection "members" "Employee" (some "projects") none]⟩]

/-- The classes of the company form a model. -/
lemma isSome_build_company : (Model.build ⟨0⟩ "company" companyDecls).toOption.isSome := by
  decide +kernel

/-- The model of the company. -/
def company : Model :=
  (Model.build ⟨0⟩ "company" companyDecls).toOption.get isSome_build_company

/-- The model of the company is accepted. -/
lemma accepted_company : company.Accepted :=
  Model.accepted_get isSome_build_company

end Sample

end ObjectQuery
