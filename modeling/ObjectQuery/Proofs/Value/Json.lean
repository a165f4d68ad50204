import Mathlib
import ObjectQuery.Platform
import ObjectQuery.Proofs.Json.Records
import ObjectQuery.Proofs.SortedMap
import ObjectQuery.Proofs.Time.Text
import ObjectQuery.Value.Json

/-!
# Values and their JSON text

Values are read back from their text, all but doubles (`Value.ofJsonText?_render`). A class type is
read from its names in any order, repetitions included, as these only tell which names are in the
set (`ClassType.ofNames?_eq_some_iff`), and so is the type of an object.
-/

namespace ObjectQuery

open Json (Record Written)

namespace ClassType

/-- Names are those of a type if they name the same classes, in whatever order. -/
lemma ofNames?_eq_some_iff {names : List String} {t : ClassType} :
    ofNames? names = some t ↔ ∀ name, name ∈ t.names ↔ name ∈ names := by
  unfold ofNames?
  constructor
  · intro h name
    split at h
    · cases h
      exact Ascending.mem_ofList_iff
    · cases h
  · intro h
    have heq : Ascending.ofList names = t.names :=
      Ascending.ext (Ascending.ascending_ofList names) t.ascending fun name =>
        Ascending.mem_ofList_iff.trans (h name).symm
    have hne : Ascending.ofList names ≠ [] := by
      rw [heq]
      exact t.ne_nil
    rw [dif_pos hne]
    obtain ⟨_, _, _⟩ := t
    simp only at heq
    subst heq
    rfl

lemma ofNames?_names (t : ClassType) : ofNames? t.names = some t :=
  ofNames?_eq_some_iff.2 fun _ => Iff.rfl

/-- One name or more are those of a type. -/
lemma exists_ofNames?_eq_some {names : List String} (hne : names ≠ []) :
    ∃ t, ofNames? names = some t := by
  obtain ⟨name, hname⟩ := List.exists_mem_of_ne_nil names hne
  have hmem := Ascending.mem_ofList_iff.2 hname
  exact ⟨_, dif_pos (List.ne_nil_of_mem hmem)⟩

/-- A type is read from an array of names as it is made of them. -/
lemma ofWritten?_names (names : List String) :
    ofWritten? (Json.array (names.map .string)).written = ofNames? names := by
  rw [ofWritten?, Json.items?_text]
  rfl

lemma ofJsonText?_names (names : List String) :
    ofJsonText? (Json.array (names.map .string)).render = ofNames? names := by
  rw [ofJsonText?, Json.read?_render (by simp)]
  exact ofWritten?_names names

end ClassType

namespace StoredObject

/-- The document of an object whose class type is written as an array of names. -/
def jsonOf (names : List String) (id : Option Int64) : Json :=
  .object [("class_type", .array (names.map .string)),
    ("id", (id.map fun id => Json.number (.integer id.toInt)).getD .null)]

lemma exact_jsonOf (names : List String) (id : Option Int64) : (jsonOf names id).Exact := by
  cases id <;> simp [jsonOf]

/-- An object is read back if its class type is made of the names. -/
lemma ofWritten?_jsonOf {names : List String} {o : StoredObject}
    (h : ClassType.ofNames? names = some o.type) :
    ofWritten? (jsonOf names o.id).written = some o := by
  have hid : ((o.id.map fun id => Json.number (.integer id.toInt)).getD .null).written.nullable?
      Written.int64? = some o.id := Json.nullable?_written (fun _ => nofun) Json.int64?_written
  unfold ofWritten? jsonOf
  rw [Record.read?_written (by simp) (by simp)]
  simp only [Option.bind_eq_bind, Option.bind_some]
  rw [Record.required?_ofMembers ClassType.ofWritten? (by rfl), ClassType.ofWritten?_names, h,
    Record.optional?_ofMembers Written.int64? (by rfl), hid]
  rfl

lemma ofWritten?_toJson (o : StoredObject) : ofWritten? o.toJson.written = some o :=
  ofWritten?_jsonOf o.type.ofNames?_names

lemma ofJsonText?_jsonOf {names : List String} {o : StoredObject}
    (h : ClassType.ofNames? names = some o.type) :
    ofJsonText? (jsonOf names o.id).render = some o := by
  rw [ofJsonText?, Json.read?_render (exact_jsonOf names o.id)]
  exact ofWritten?_jsonOf h

end StoredObject

namespace Value

/-- The value of a kind with its content. -/
def jsonOf (kind : String) (content : Json) : Json :=
  .object [("type", .string kind), ("value", content)]

/-- The kind, which stands first, tells how the content is read. -/
lemma ofWritten?_jsonOf (kind : String) (content : Json) :
    ofWritten? (jsonOf kind content).written = ofContent? kind content.written :=
  rfl

lemma exact_toJson {v : Value} (hv : ∀ x, v ≠ .float x) : v.toJson.Exact := by
  cases v with
  | float x => exact absurd rfl (hv x)
  | object o =>
    have hobject : o.toJson.Exact := StoredObject.exact_jsonOf o.type.names o.id
    simp [toJson, content?, hobject]
  | _ => simp [toJson, content?]

lemma toJson_of_content {v : Value} {content : Json} (h : v.content? = some content) :
    v.toJson = jsonOf v.kind content := by
  rw [toJson, h]
  rfl

/-- Each kind of value is read back from its content. -/
lemma ofContent?_content {v : Value} (hv : ∀ x, v ≠ .float x) {content : Json}
    (h : v.content? = some content) : ofContent? v.kind content.written = some v := by
  cases v with
  | null => cases h
  | float x => exact absurd rfl (hv x)
  | bool b =>
    cases h
    rfl
  | int n =>
    cases h
    exact congrArg (Option.map Value.int) (Json.int64?_written n)
  | string s =>
    cases h
    rfl
  | date d =>
    cases h
    simp only [kind, ofContent?, Json.written, Written.text?, Option.bind_some,
      TimeText.date?_text, Option.map_some]
  | dateTime t =>
    cases h
    simp only [kind, ofContent?, Json.written, Written.text?, Option.bind_some,
      TimeText.dateTime?_text, Option.map_some]
  | universalTime t =>
    cases h
    simp only [kind, ofContent?, Json.written, Written.text?, Option.bind_some,
      TimeText.universalTime?_text, Option.map_some]
  | object o =>
    cases h
    exact congrArg (Option.map Value.object) o.ofWritten?_toJson
  | sql s =>
    cases h
    rfl

lemma ofWritten?_toJson {v : Value} (hv : ∀ x, v ≠ .float x) :
    ofWritten? v.toJson.written = some v := by
  cases hcontent : v.content? with
  | none =>
    cases v with
    | null => rfl
    | _ => cases hcontent
  | some content =>
    rw [toJson_of_content hcontent, ofWritten?_jsonOf, ofContent?_content hv hcontent]

/-- A value that is no double is read back from its text, so its literals stay the same, and so are
an object and a class type. Their names come back in order and once each, in whatever order and
however often they are written; no type is read from no name. -/
theorem ofJsonText?_render :
    (∀ v : Value, (∀ x, v ≠ .float x) → ofJsonText? v.toJson.render = some v ∧
      ∀ p : Platform, (ofJsonText? v.toJson.render).map p.literal = some (p.literal v)) ∧
    (∀ o : StoredObject, StoredObject.ofJsonText? o.toJson.render = some o) ∧
    (∀ t : ClassType, ClassType.ofJsonText? t.toJson.render = some t) ∧
    (∀ names : List String, names ≠ [] → ∃ t : ClassType,
      Ascending t.names ∧ (∀ name, name ∈ t.names ↔ name ∈ names) ∧
      ClassType.ofNames names = .ok t ∧
      ClassType.ofJsonText? (Json.array (names.map .string)).render = some t ∧
      ∀ id : Option Int64,
        StoredObject.ofJsonText? (StoredObject.jsonOf names id).render = some ⟨t, id⟩ ∧
        ofJsonText? (jsonOf "Object" (StoredObject.jsonOf names id)).render =
          some (.object ⟨t, id⟩)) ∧
    ClassType.ofJsonText? (Json.array []).render = none := by
  refine ⟨fun v hv => ?_, fun o => ?_, fun t => ?_, fun names hne => ?_, ?_⟩
  · have hread : ofJsonText? v.toJson.render = some v := by
      rw [ofJsonText?, Json.read?_render (exact_toJson hv)]
      exact ofWritten?_toJson hv
    refine ⟨hread, fun p => ?_⟩
    rw [hread, Option.map_some]
  · exact StoredObject.ofJsonText?_jsonOf o.type.ofNames?_names
  · exact (ClassType.ofJsonText?_names t.names).trans t.ofNames?_names
  · obtain ⟨t, ht⟩ := ClassType.exists_ofNames?_eq_some hne
    refine ⟨t, t.ascending, ClassType.ofNames?_eq_some_iff.1 ht, ?_, ?_, fun id => ⟨?_, ?_⟩⟩
    · rw [ClassType.ofNames, ht]
    · rw [ClassType.ofJsonText?_names, ht]
    · exact StoredObject.ofJsonText?_jsonOf (o := ⟨t, id⟩) ht
    · have hexact : (jsonOf "Object" (StoredObject.jsonOf names id)).Exact := by
        simp [jsonOf, StoredObject.exact_jsonOf]
      calc ofJsonText? (jsonOf "Object" (StoredObject.jsonOf names id)).render
        _ = ofWritten? (jsonOf "Object" (StoredObject.jsonOf names id)).written := by
          rw [ofJsonText?, Json.read?_render hexact]
          rfl
        _ = (StoredObject.ofWritten? (StoredObject.jsonOf names id).written).map .object :=
          ofWritten?_jsonOf ..
        _ = some (.object ⟨t, id⟩) := by
          rw [StoredObject.ofWritten?_jsonOf (o := ⟨t, id⟩) ht, Option.map_some]
  · exact ClassType.ofJsonText?_names []

end Value

namespace Sample

/-- A moment before the common era, within a leap second. -/
def leapSecond : DateTime :=
  ⟨⟨-4712, 6, 30, by decide⟩, ⟨23, 59, 60, 1000, by decide, by decide, by decide, by decide⟩⟩

/-- The names of two classes, one of them twice. -/
def roles : List String :=
  ["Manager", "Contractor", "Manager"]

end Sample

/-- A leap second of a negative year is read back, and so is an object of two classes that are out
of order, whose identity is missing. -/
theorem ofJsonText?_render_samples :
    (∀ x, Value.universalTime Sample.leapSecond ≠ .float x) ∧
    Sample.leapSecond.text 'T' = "-4712-06-30T23:59:60.000001" ∧
    Value.ofJsonText? (Value.universalTime Sample.leapSecond).toJson.render =
      some (.universalTime Sample.leapSecond) ∧
    Sample.roles ≠ [] ∧
    ∃ t : ClassType, t.names = ["Contractor", "Manager"] ∧
      Value.ofJsonText? (Value.jsonOf "Object" (StoredObject.jsonOf Sample.roles none)).render =
        some (.object ⟨t, none⟩) := by
  obtain ⟨hvalues, _, _, htypes, _⟩ := Value.ofJsonText?_render
  have hleap : ∀ x, Value.universalTime Sample.leapSecond ≠ .float x := fun _ => nofun
  have hroles : Sample.roles ≠ [] := List.cons_ne_nil _ _
  obtain ⟨t, hascending, hnames, _, _, hobject⟩ := htypes Sample.roles hroles
  have hpair : Ascending ["Contractor", "Manager"] := List.pairwise_pair.2 (by decide)
  have heq : t.names = ["Contractor", "Manager"] := by
    refine hascending.ext hpair fun name => ?_
    rw [hnames]
    grind [Sample.roles]
  exact ⟨hleap, by decide +kernel, (hvalues _ hleap).1, hroles, t, heq, (hobject none).2⟩

end ObjectQuery
