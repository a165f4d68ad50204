import Mathlib
import ObjectQuery.Proofs.Model.Fields
import ObjectQuery.Sql.Relationship

/-!
# When a test of a relationship compiles

A relationship is looked up in the model at hand, and what it is there decides where it is kept: a
reference in a column, a collection without a link table in the column of the reference at its other
end.
-/

namespace ObjectQuery.Sql.Scope

variable {s : Scope} {r : Reference} {f : Field}

lemma relationship_eq_ok_iff {relation : Relation} :
    s.relationship r = .ok (f, relation) ↔
    ∃ fields, s.model.fields r.owner.type = .ok fields ∧ fields.get? r.field = some f ∧
      s.model.relation? f = some relation := by
  unfold relationship
  rw [Except.bind_eq_ok]
  refine exists_congr fun fields => and_congr_right fun _ => ?_
  constructor
  · intro h
    split at h
    · cases h
    · rename_i g hg
      split at h
      · rename_i relation' hrelation
        cases h
        exact ⟨(Option.filter_eq_some_iff.1 hg).1, hrelation⟩
      · cases h
  · rintro ⟨hf, hrelation⟩
    have hrelated : f.isRelationship = true := by
      rw [← s.model.isSome_relation? f, hrelation]
      rfl
    simp only [hf, Option.filter_some, hrelated, if_true, hrelation]
    rfl

/-- A reference has a column. -/
lemma foreignKey_of_isReference (h : f.isReference = true) (role : String) :
    foreignKey role f = .ok (Naming.referenceColumn f.name) := by
  unfold foreignKey
  rw [f.column?_of_isReference h]

/-- A foreign key is tested against a class, whose objects have it. -/
lemma testForeignKey_eq_ok_iff {test : RelationshipTest} {c : Condition} :
    s.testForeignKey r f test = .ok c ↔
    ∃ op target reverse column table owner, test = .holds op (.node target) ∧
      s.model.reverseField? f = some reverse ∧ foreignKey "reverse reference" reverse = .ok column ∧
      s.tableOf target.id reverse.name = .ok table ∧ s.identity r.owner = .ok owner ∧
      c = .compare owner op.comparison (.column ⟨table, column⟩) := by
  constructor
  · intro h
    unfold testForeignKey at h
    split at h
    · rename_i op target
      split at h
      · rename_i reverse hreverse
        obtain ⟨column, hcolumn, h⟩ := Except.bind_eq_ok.1 h
        obtain ⟨table, htable, h⟩ := Except.bind_eq_ok.1 h
        obtain ⟨owner, howner, h⟩ := Except.bind_eq_ok.1 h
        cases h
        exact ⟨op, target, reverse, column, table, owner, rfl, hreverse, hcolumn, htable, howner,
          rfl⟩
      · cases h
    · cases h
  · rintro ⟨op, target, reverse, column, table, owner, rfl, hreverse, hcolumn, htable, howner, rfl⟩
    simp only [testForeignKey, hreverse]
    exact Except.bind_eq_ok.2 ⟨column, hcolumn, Except.bind_eq_ok.2 ⟨table, htable,
      Except.bind_eq_ok.2 ⟨owner, howner, rfl⟩⟩⟩

/-- A link table is that of the class that declares the field, the first one found. -/
lemma linkTable_eq_ok_iff {link : LinkTable} :
    s.linkTable r f = .ok link ↔
    ∃ components declaring, s.model.components r.owner.type = .ok components ∧
      components.findSome? (s.model.declaringClass? · f.name) = some declaring ∧
      f.linkTable? declaring.name = some link := by
  unfold linkTable
  rw [Except.bind_eq_ok]
  constructor
  · rintro ⟨components, hcomponents, h⟩
    split at h
    · cases h
    · rename_i declaring hdeclaring
      split at h
      · rename_i link' hlink
        cases h
        exact ⟨components, declaring, hcomponents, hdeclaring, hlink⟩
      · cases h
  · rintro ⟨components, declaring, hcomponents, hdeclaring, hlink⟩
    refine ⟨components, hcomponents, ?_⟩
    simp only [hdeclaring, hlink]
    rfl

end ObjectQuery.Sql.Scope
