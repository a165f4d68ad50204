import Mathlib
import ObjectQuery.Model.Json
import ObjectQuery.Proofs.Json.Records
import ObjectQuery.Proofs.Model.ByName
import ObjectQuery.Proofs.Model.Inheritance

/-!
# Descriptions of models

Link tables, fields and classes are read back from their text, whatever characters their names are
made of, and so is the description of a model. A model that is loaded from the text of a description
is therefore the one that is built of the classes described, or is refused for the same reason. The
classes of a model describe the model again (`build_description`): they are its declarations in the
order of their names.
-/

namespace ObjectQuery

open Json (Record Written)

section Reading

lemma LinkTable.exact_toJson (l : LinkTable) : l.toJson.Exact := by
  simp [toJson]

lemma LinkTable.ofWritten?_toJson (l : LinkTable) : ofWritten? l.toJson.written = some l := by
  unfold ofWritten? toJson
  rw [Record.read?_written (by simp) (by simp)]
  simp only [Option.bind_eq_bind, Option.bind_some]
  rw [Record.required?_ofMembers Written.text? (by rfl),
    Record.required?_ofMembers Written.text? (by rfl),
    Record.required?_ofMembers Written.text? (by rfl)]
  rfl

namespace Field

lemma exact_toJson (f : Field) : f.toJson.Exact := by
  match f with
  | .attribute .. => simp [toJson]
  | .reference _ _ reverse => cases reverse <;> simp [toJson, Json.ofOption]
  | .collection _ _ reverse link =>
    cases reverse <;> cases link <;> simp [toJson, Json.ofOption, LinkTable.exact_toJson]

/-- A field has at most the levels of its link table within its own. -/
lemma depth_toJson (f : Field) : f.toJson.written.depth ≤ 2 := by
  match f with
  | .attribute .. => exact Nat.le_of_ble_eq_true rfl
  | .reference _ _ reverse => cases reverse <;> exact Nat.le_of_ble_eq_true rfl
  | .collection _ _ reverse link =>
    cases reverse <;> cases link <;> exact Nat.le_of_ble_eq_true rfl

lemma isSome_within?_toJson (f : Field) {room : Nat} (hroom : 2 ≤ room) :
    (f.toJson.written.within? room).isSome := by
  rw [Json.within?_written f.exact_toJson (f.depth_toJson.trans hroom)]
  rfl

/-- The kind is the only member of its name, so it is taken out of the others. -/
lemma splitKind?_written {kind : String} {members : List (String × Json)}
    (hmembers : ∀ m ∈ members, m.1 ≠ "kind") :
    splitKind? (Json.object (("kind", .string kind) :: members)).written =
      some (kind, (Json.object members).written) := by
  have hother : ∀ m ∈ Json.writtenMembers members, (m.1 == some "kind") = false := by
    intro _ hm
    rw [Json.writtenMembers_eq_map] at hm
    obtain ⟨e, he, rfl⟩ := List.mem_map.1 hm
    exact beq_false_of_ne fun heq => hmembers e he (Option.some.inj heq)
  have hkind := List.filter_eq_nil_iff.2 fun m hm => ne_true_of_eq_false (hother m hm)
  have hrest := List.filter_eq_self.2 fun m hm => congrArg (!·) (hother m hm)
  have hsplit : (Json.writtenMembers (("kind", .string kind) :: members)).partition
      (fun m => m.1 == some "kind") =
        ([(some "kind", .string (some kind))], Json.writtenMembers members) := by
    rw [List.partition_eq_filter_filter, Json.writtenMembers, List.filter_cons_of_pos (by rfl),
      List.filter_cons_of_neg (by simp), hkind]
    exact congrArg _ hrest
  rw [Json.written, splitKind?, hsplit]
  rfl

lemma attribute?_written (name : String) (type : AttributeType) :
    attribute? (Json.object [("name", .string name), ("type", .string type.name)]).written =
      some (.attribute name type) := by
  unfold attribute?
  rw [Record.read?_written (by simp) (by simp)]
  simp only [Option.bind_eq_bind, Option.bind_some]
  rw [Record.required?_ofMembers Written.text? (by rfl),
    Record.required?_ofMembers Written.looseChoice? (by rfl)]
  have hname : (Json.string type.name).written.looseChoice? = some type.name := rfl
  simp only [hname, Option.bind_some, AttributeType.ofName?_name]
  rfl

lemma reference?_written (name target : String) (reverse : Option String) :
    reference? (Json.object [("name", .string name), ("referenced_type", .string target),
      ("reverse", Json.ofOption reverse)]).written = some (.reference name target reverse) := by
  unfold reference?
  rw [Record.read?_written (by simp) (by simp)]
  simp only [Option.bind_eq_bind, Option.bind_some]
  rw [Record.required?_ofMembers Written.text? (by rfl),
    Record.required?_ofMembers Written.text? (by rfl),
    Record.optional?_ofMembers Written.text? (by rfl), Json.nullable?_text]
  rfl

lemma collection?_written (name target : String) (reverse : Option String)
    (link : Option LinkTable) :
    collection? (Json.object [("name", .string name), ("referenced_type", .string target),
      ("reverse", Json.ofOption reverse),
      ("indirection", (link.map LinkTable.toJson).getD .null)]).written =
        some (.collection name target reverse link) := by
  have hlink : ((link.map LinkTable.toJson).getD .null).written.nullable? LinkTable.ofWritten? =
      some link := Json.nullable?_written (fun _ => nofun) LinkTable.ofWritten?_toJson
  unfold collection?
  rw [Record.read?_written (by simp) (by simp)]
  simp only [Option.bind_eq_bind, Option.bind_some]
  rw [Record.required?_ofMembers Written.text? (by rfl),
    Record.required?_ofMembers Written.text? (by rfl),
    Record.optional?_ofMembers Written.text? (by rfl), Json.nullable?_text,
    Record.optional?_ofMembers LinkTable.ofWritten? (by rfl), hlink]
  rfl

/-- A field is read back where there is room for its levels. -/
lemma ofWritten?_toJson (f : Field) {room : Nat} (hroom : 2 ≤ room) :
    ofWritten? room f.toJson.written = some f := by
  have hwithin := f.isSome_within?_toJson hroom
  unfold ofWritten?
  rw [hwithin]
  match f with
  | .attribute name type =>
    rw [toJson, splitKind?_written (by simp)]
    exact attribute?_written name type
  | .reference name target reverse =>
    rw [toJson, splitKind?_written (by simp)]
    exact reference?_written name target reverse
  | .collection name target reverse link =>
    rw [toJson, splitKind?_written (by simp)]
    exact collection?_written name target reverse link

end Field

namespace ClassDecl

lemma exact_toJson (d : ClassDecl) : d.toJson.Exact := by
  simp [toJson, Field.exact_toJson]

/-- A class is read back where there is room for its fields. -/
lemma ofWritten?_toJson (d : ClassDecl) {room : Nat} (hroom : 4 ≤ room) :
    ofWritten? room d.toJson.written = some d := by
  have hfields : (Json.array (d.fields.map Field.toJson)).written.items?
      (Field.ofWritten? (room - 2)) = some d.fields :=
    Json.items?_written fun f _ => f.ofWritten?_toJson (by omega)
  unfold ofWritten? toJson
  rw [Record.read?_written (by simp) (by simp)]
  simp only [Option.bind_eq_bind, Option.bind_some]
  rw [Record.required?_ofMembers Written.text? (by rfl),
    Record.list?_ofMembers Written.text? (by rfl), Json.items?_text,
    Record.list?_ofMembers (Field.ofWritten? (room - 2)) (by rfl), hfields]
  rfl

end ClassDecl

namespace ModelDescription

lemma exact_toJson (d : ModelDescription) : d.toJson.Exact := by
  simp [toJson, ClassDecl.exact_toJson]

lemma ofWritten?_toJson (d : ModelDescription) : ofWritten? d.toJson.written = some d := by
  have hclasses : (Json.array (d.classes.map ClassDecl.toJson)).written.items?
      (ClassDecl.ofWritten? (Json.depthLimit - 2)) = some d.classes :=
    Json.items?_written fun c _ => c.ofWritten?_toJson (by decide)
  unfold ofWritten? toJson
  rw [Record.read?_written (by simp) (by simp)]
  simp only [Option.bind_eq_bind, Option.bind_some]
  rw [Record.required?_ofMembers Written.text? (by rfl),
    Record.required?_ofMembers (Written.items? _) (by rfl), hclasses]
  rfl

end ModelDescription

end Reading

namespace Model

/-- What describes the model: its name and its classes as they are declared. -/
def description (m : Model) : ModelDescription :=
  ⟨m.name, m.classes.values.map PersistentClass.decl⟩

section Rebuilding

variable {m : Model} {decls : List ClassDecl} {classes : SortedMap String ClassDecl}
  {resolved : Resolved}

lemma Declared.map_name_description (hm : m.Declared decls classes resolved) :
    m.description.classes.map ClassDecl.name = m.classes.keys := by
  rw [description, SortedMap.values, List.map_map, List.map_map, SortedMap.keys]
  apply List.map_congr_left
  rintro ⟨name, c⟩ hc
  exact hm.name_eq (SortedMap.get?_eq_some_iff.2 hc)

/-- The classes of a model are those it was declared with, in the order of their names. -/
lemma Declared.perm_description (hm : m.Declared decls classes resolved)
    (hnodup : (decls.map ClassDecl.name).Nodup) : decls.Perm m.description.classes := by
  have hkeys : m.classes.keys.Nodup := m.classes.ascending.nodup
  have hnodup' : (m.description.classes.map ClassDecl.name).Nodup := by
    rw [hm.map_name_description]
    exact hkeys
  refine (List.perm_ext_iff_of_nodup hnodup.of_map hnodup'.of_map).2 fun d => ?_
  constructor
  · intro hd
    obtain ⟨c, hc⟩ := hm.exists_class (List.mem_map_of_mem hd)
    rw [hm.decl_eq hc hd rfl]
    have hmem := SortedMap.get?_eq_some_iff.1 hc
    exact List.mem_map_of_mem (List.mem_map_of_mem hmem)
  · intro hd
    obtain ⟨c, hc, rfl⟩ := List.mem_map.1 hd
    obtain ⟨⟨name, _⟩, hmem, rfl⟩ := List.mem_map.1 hc
    exact hm.mem (SortedMap.get?_eq_some_iff.2 hmem)

/-- A model is built again of its own classes. -/
lemma build_description (h : m.Accepted) (id : ModelId) :
    build id m.name m.description.classes = .ok ⟨id, m.name, m.classes⟩ := by
  obtain ⟨_, _, decls, hbuild⟩ := h
  obtain ⟨classes, hclasses, hsuperclasses, hall, hrelationships, -, -⟩ := build_eq_ok_iff.1 hbuild
  obtain ⟨resolved, hm⟩ := exists_declared hclasses hall m rfl
  have hperm := hm.perm_description (byName_eq_ok hclasses).1
  exact build_eq_ok_iff.2
    ⟨classes, byName_perm hperm hclasses, hsuperclasses, hall, hrelationships, rfl, rfl⟩

/-- A description is loaded as the model that is built of its classes. -/
lemma ofJsonText_render (id : ModelId) (d : ModelDescription) :
    ofJsonText id d.toJson.render = (build id d.name d.classes).mapError .model := by
  rw [ofJsonText, Json.read?_render d.exact_toJson, Option.bind_some, d.ofWritten?_toJson]
  rfl

end Rebuilding

/-- Link tables, fields and classes are read back from their text. A description is loaded as what
is built of its classes, be it a model or the reason why there is none, and the classes of a model
are loaded as the same model again, with the same fields. -/
theorem description_roundTrip :
    (∀ l : LinkTable, LinkTable.ofJsonText? l.toJson.render = some l) ∧
    (∀ f : Field, Field.ofJsonText? f.toJson.render = some f) ∧
    (∀ d : ClassDecl, ClassDecl.ofJsonText? d.toJson.render = some d) ∧
    (∀ (id : ModelId) (name : String) (decls : List ClassDecl),
      ofJsonText id (ModelDescription.toJson ⟨name, decls⟩).render =
        (build id name decls).mapError .model) ∧
    ∀ m : Model, m.Accepted → ∀ id : ModelId,
      ofJsonText id m.description.toJson.render = .ok ⟨id, m.name, m.classes⟩ := by
  refine ⟨fun l => ?_, fun f => ?_, fun d => ?_, fun id name decls => ?_, fun m hm id => ?_⟩
  · rw [LinkTable.ofJsonText?, Json.read?_render l.exact_toJson]
    exact l.ofWritten?_toJson
  · rw [Field.ofJsonText?, Json.read?_render f.exact_toJson]
    exact f.ofWritten?_toJson (by decide)
  · rw [ClassDecl.ofJsonText?, Json.read?_render d.exact_toJson]
    exact d.ofWritten?_toJson (by decide)
  · exact ofJsonText_render id ⟨name, decls⟩
  · have hbuild := build_description hm id
    have hload := ofJsonText_render id m.description
    rw [show m.description.name = m.name from rfl, hbuild] at hload
    exact hload

end Model

namespace Sample

/-- Guests and the rooms they stay in, under names that are escaped in a text or go beyond ASCII. -/
def lodgingDecls : List ClassDecl :=
  [⟨"Zimmer \"blau\"", [],
      [.collection "Gäste" "guest\n\x01" (some "room\\") none,
        .collection "doors" "Zimmer \"blau\"" none (some ⟨"\t", "from", "\u0434\u043e"⟩)]⟩,
    ⟨"guest\n\x01", ["Person"], [.reference "room\\" "Zimmer \"blau\"" (some "Gäste")]⟩,
    ⟨"Person", [], [.attribute "\u540d\u524d" .string]⟩]

lemma isSome_build_lodging : (Model.build ⟨0⟩ "lodging" lodgingDecls).toOption.isSome := by
  decide +kernel

/-- The model of the guests and their rooms. -/
def lodging : Model :=
  (Model.build ⟨0⟩ "lodging" lodgingDecls).toOption.get isSome_build_lodging

lemma accepted_lodging : lodging.Accepted :=
  Model.accepted_get isSome_build_lodging

end Sample

/-- The classes of the model are written in the order of their names and loaded as they are, a guest
with the field of persons. -/
theorem description_roundTrip_lodging :
    Sample.lodging.Accepted ∧
    Sample.lodging.description.classes.map ClassDecl.name =
      ["Person", "Zimmer \"blau\"", "guest\n\x01"] ∧
    (Sample.lodging.class? "guest\n\x01").map (·.allFields.map Field.name) =
      some ["id", "\u540d\u524d", "room\\"] ∧
    Model.ofJsonText ⟨1⟩ Sample.lodging.description.toJson.render =
      .ok ⟨⟨1⟩, "lodging", Sample.lodging.classes⟩ := by
  obtain ⟨_, _, _, _, hload⟩ := Model.description_roundTrip
  exact ⟨Sample.accepted_lodging, by decide +kernel, by decide +kernel,
    hload Sample.lodging Sample.accepted_lodging ⟨1⟩⟩

end ObjectQuery
