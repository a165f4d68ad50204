import Mathlib
import ObjectQuery.Model.Lookup
import ObjectQuery.Proofs.Except
import ObjectQuery.Proofs.SortedMap

/-!
# Fields by name

What is found in lists of fields that were put together: a field that is put takes the place of the
one of its name, one that is added does not. So the field of a type is that of the first component
that has one (`Model.get?_fields`). How a relationship is stored says which field it is and where it
is kept: in a column of its own, in that of the reference at its other end or in a link table.
-/

namespace ObjectQuery

namespace SortedMap

variable {α β : Type} [Ord α] [Std.TransOrd α] [Std.LawfulEqOrd α]

lemma mem_of_mem_ofList {es : List (α × β)} {e : α × β} (h : e ∈ (ofList es).entries) : e ∈ es := by
  have hall : ∀ e ∈ (ofList es).entries, e ∈ es := by
    refine List.foldlRecOn (motive := fun m : SortedMap α β => ∀ e ∈ m.entries, e ∈ es) es _
      (List.forall_mem_nil _) fun m hm first hfirst e he => ?_
    rcases mem_entries_insert.1 he with rfl | ⟨he, _⟩
    · exact hfirst
    · exact hm e he
  exact hall e h

end SortedMap

namespace Field

/-- A reference is kept in a column. -/
lemma column?_of_isReference {f : Field} (h : f.isReference = true) :
    f.column? = some (Naming.referenceColumn f.name) := by
  cases f with
  | reference name target reverse => rfl
  | _ => cases h

@[simp] lemma find?_nil (name : String) : find? [] name = none := rfl

lemma find?_cons (f : Field) (fields : List Field) (name : String) :
    find? (f :: fields) name = if f.name = name then some f else find? fields name := by
  unfold find?
  rw [List.find?_cons]
  by_cases h : f.name = name
  · rw [if_pos h, beq_iff_eq.2 h]
  · rw [if_neg h, beq_false_of_ne h]

lemma find?_append (fields more : List Field) (name : String) :
    find? (fields ++ more) name = (find? fields name).or (find? more name) :=
  List.find?_append

lemma name_of_find? {fields : List Field} {name : String} {f : Field}
    (h : find? fields name = some f) : f.name = name := by
  unfold find? at h
  have hname := List.find?_some h
  exact beq_iff_eq.1 hname

lemma isSome_find? (fields : List Field) (name : String) :
    (find? fields name).isSome = fields.any (·.name == name) := by
  rw [find?, Bool.eq_iff_iff, List.find?_isSome, List.any_eq_true]

/-- A field that is put takes the place of the one of its name and no other. -/
lemma find?_put (f : Field) (fields : List Field) (name : String) :
    find? (f.put fields) name = if f.name = name then some f else find? fields name := by
  induction fields with
  | nil => exact find?_cons f [] name
  | cons g fields ih =>
    unfold put
    split
    · rename_i h
      rw [find?_cons, find?_cons, h]
      split <;> rfl
    · rename_i h
      rw [find?_cons, find?_cons, ih]
      by_cases hg : g.name = name
      · have hf : f.name ≠ name := by
          rintro rfl
          exact h hg
        rw [if_pos hg, if_neg hf, if_pos hg]
      · rw [if_neg hg, if_neg hg]

lemma find?_or_of_any {fields : List Field} {f : Field} (h : fields.any (·.name == f.name) = true)
    (name : String) :
    (find? fields name).or (if f.name = name then some f else none) = find? fields name := by
  rw [← isSome_find?, Option.isSome_iff_exists] at h
  obtain ⟨g, hg⟩ := h
  split
  · rename_i hname
    rw [← hname, hg]
    rfl
  · rw [Option.or_none]

lemma find?_addNew (fields : List Field) (f : Field) (name : String) :
    find? (addNew fields f) name = (find? fields name).or (if f.name = name then some f else none) := by
  unfold addNew
  split
  · rename_i h
    exact (find?_or_of_any h name).symm
  · rw [find?_append, find?_cons, find?_nil]

lemma find?_withIdentity (fields : List Field) (name : String) :
    find? (withIdentity fields) name =
      (find? fields name).or (if identityName = name then some identity else none) := by
  unfold withIdentity
  split
  · rename_i h
    have hany : fields.any (·.name == identity.name) = true := h
    exact (find?_or_of_any hany name).symm
  · rename_i h
    rw [find?_cons, show identity.name = identityName from rfl]
    split
    · rename_i hname
      have hnone : find? fields name = none := by
        rw [← Option.not_isSome_iff_eq_none, isSome_find?, ← hname]
        exact h
      rw [hnone, Option.none_or]
    · rw [Option.or_none]

/-- Of fields that are put one after the other the last one of a name stays. -/
lemma find?_foldl_put (own fields : List Field) (name : String) :
    find? (own.foldl (fun fs f => f.put fs) fields) name =
      (find? own.reverse name).or (find? fields name) := by
  induction own generalizing fields with
  | nil => rfl
  | cons f own ih =>
    rw [List.foldl_cons, ih, find?_put, List.reverse_cons, find?_append, Option.or_assoc, find?_cons]
    congr 1
    split <;> rfl

lemma find?_foldl_addNew (fields more : List Field) (name : String) :
    find? (more.foldl addNew fields) name = (find? fields name).or (find? more name) := by
  induction more generalizing fields with
  | nil => rw [List.foldl_nil, find?_nil, Option.or_none]
  | cons f more ih =>
    rw [List.foldl_cons, ih, find?_addNew, Option.or_assoc, find?_cons]
    congr 1
    split <;> rfl

end Field

lemma PersistentClass.hasField_eq_false_iff {c : PersistentClass} {name : String} :
    c.hasField name = false ↔ c.field? name = none := by
  rw [hasField, Option.isSome_eq_false_iff, Option.isNone_iff_eq_none]

namespace Model

section

variable (m : Model) {f : Field}

lemma isSome_relation? (f : Field) : (m.relation? f).isSome = f.isRelationship := by
  cases f with
  | collection name target reverse link =>
    simp only [relation?]
    split <;> rfl
  | _ => rfl

variable {m}

lemma relation?_of_isReference (h : f.isReference = true) : m.relation? f = some .toOne := by
  cases f with
  | reference => rfl
  | _ => cases h

/-- A collection is kept in the column at its other end if that is a reference. -/
lemma relation?_of_reverseField? (hf : f.isRelationship = true) (hcollection : f.isReference = false)
    {reverse : Field} (hreverse : m.reverseField? f = some reverse) :
    m.relation? f = if reverse.isReference then some .oneToMany else some .manyToMany := by
  cases f with
  | collection =>
    unfold relation?
    rw [hreverse]
    rfl
  | reference => cases hcollection
  | _ => cases hf

lemma isReference_of_toOne (h : m.relation? f = some .toOne) : f.isReference = true := by
  cases f with
  | reference name target reverse => rfl
  | collection name target reverse link =>
    simp only [relation?] at h
    split at h <;> cases h
  | _ => cases h

lemma exists_reverse_of_oneToMany (h : m.relation? f = some .oneToMany) :
    ∃ reverse, m.reverseField? f = some reverse ∧ reverse.isReference = true := by
  cases f with
  | collection name target reverse link =>
    simp only [relation?] at h
    split at h
    · rename_i hreverse
      rwa [Option.any_eq_true] at hreverse
    · cases h
  | _ => cases h

lemma isSome_linkTable?_of_manyToMany (h : m.relation? f = some .manyToMany) (owner : String) :
    (f.linkTable? owner).isSome := by
  cases f with
  | collection name target reverse link => rfl
  | _ => cases h

end

variable {m : Model} {t : ClassType} {components : List PersistentClass}

/-- The components of a type are classes of the model. -/
lemma exists_class_of_mem_components (h : m.components t = .ok components) {c : PersistentClass}
    (hc : c ∈ components) : ∃ name, m.class? name = some c := by
  obtain ⟨name, _, hname⟩ := (Except.mapM_eq_ok_iff.1 h).exists_of_mem_right hc
  refine ⟨name, ?_⟩
  split at hname
  · rename_i d hd
    cases hname
    exact hd
  · cases hname

lemma fields_eq_ok_iff {fields : SortedMap String Field} :
    m.fields t = .ok fields ↔
      ∃ components, m.components t = .ok components ∧
        components.foldl addFields .empty = fields := by
  unfold Model.fields
  rw [Except.bind_eq_ok]
  refine exists_congr fun components => and_congr_right fun _ => ?_
  exact ⟨fun h => by cases h; rfl, fun h => by rw [h]; rfl⟩

lemma exists_fields (h : m.components t = .ok components) : ∃ fields, m.fields t = .ok fields :=
  ⟨_, fields_eq_ok_iff.2 ⟨components, h, rfl⟩⟩

lemma get?_addFields (fields : SortedMap String Field) (c : PersistentClass) (name : String) :
    (addFields fields c).get? name = (fields.get? name).or (c.field? name) := by
  unfold addFields PersistentClass.field?
  induction c.allFields generalizing fields with
  | nil => rw [List.foldl_nil, Field.find?_nil, Option.or_none]
  | cons f more ih =>
    rw [List.foldl_cons, ih, SortedMap.get?_insertNew, Option.or_assoc, Field.find?_cons]
    congr 1
    split <;> rfl

lemma get?_foldl_addFields (components : List PersistentClass) (fields : SortedMap String Field)
    (name : String) : (components.foldl addFields fields).get? name =
      (fields.get? name).or (components.findSome? (·.field? name)) := by
  induction components generalizing fields with
  | nil => rw [List.foldl_nil, List.findSome?_nil, Option.or_none]
  | cons c components ih =>
    rw [List.foldl_cons, ih, get?_addFields, Option.or_assoc, List.findSome?_cons]
    congr 1
    cases c.field? name <;> rfl

/-- The field of a type is that of the first component that has one. -/
lemma get?_fields (hcomponents : m.components t = .ok components) {fields : SortedMap String Field}
    (hfields : m.fields t = .ok fields) (name : String) :
    fields.get? name = components.findSome? (·.field? name) := by
  obtain ⟨components', hcomponents', rfl⟩ := fields_eq_ok_iff.1 hfields
  obtain rfl := Except.ok.inj (hcomponents.symm.trans hcomponents')
  rw [get?_foldl_addFields, SortedMap.get?_empty, Option.none_or]

lemma components_single {name : String} {c : PersistentClass} (hc : m.class? name = some c) :
    m.components (.single name) = .ok [c] := by
  refine Except.mapM_eq_ok_iff.2 (.cons ?_ .nil)
  rw [hc]

lemma name_of_get?_fields {fields : SortedMap String Field} (hfields : m.fields t = .ok fields)
    {name : String} {f : Field} (hf : fields.get? name = some f) : f.name = name := by
  obtain ⟨components, hcomponents, _⟩ := fields_eq_ok_iff.1 hfields
  rw [get?_fields hcomponents hfields] at hf
  obtain ⟨c, _, hf⟩ := List.exists_of_findSome?_eq_some hf
  exact Field.name_of_find? hf

end Model

end ObjectQuery
