import Mathlib
import ObjectQuery.Proofs.Except
import ObjectQuery.Toml.Json

/-!
# Values of TOML documents

What a TOML document spells is a value before it is turned into a JSON document: how a table came
about no longer matters, and a table that starts with the key for dates is the date or time that it
spells. The JSON document of a text is the one that its value is turned into
(`ofText?_eq`), where a date or time becomes a string and a double that is not finite becomes null.
-/

namespace ObjectQuery.Toml

/-- A value of a TOML document. Tables have their entries in the order written. -/
inductive Value where
  | string (s : String)
  | integer (n : Int)
  | float (x : Binary64)
  | bool (b : Bool)
  /-- A date, a time or both, as text. -/
  | dateTime (text : String)
  | array (items : List Value)
  | table (entries : List (String × Value))

namespace Value

mutual

/-- The value as a JSON document. -/
def toJson : Value → Json
  | .string s => .string s
  | .integer n => .number (.integer n)
  | .float x => Item.floatJson x
  | .bool b => .bool b
  | .dateTime text => .string text
  | .array items => .array (itemsJson items)
  | .table entries => .object (entriesJson entries)

def itemsJson : List Value → List Json
  | [] => []
  | v :: vs => toJson v :: itemsJson vs

def entriesJson : List (String × Value) → List (String × Json)
  | [] => []
  | (k, v) :: es => (k, toJson v) :: entriesJson es

end

lemma entriesJson_eq_map (entries : List (String × Value)) :
    entriesJson entries = entries.map fun e => (e.1, e.2.toJson) := by
  induction entries with
  | nil => rfl
  | cons e entries ih => rw [entriesJson, ih, List.map_cons]

/-- A value and a JSON document hold the same. Dates and times are strings there, null stands for a
double that is not finite, and of a key that is repeated the last value counts. -/
inductive Same : Value → Json → Prop where
  | string (s : String) :
    Same (.string s) (.string s)
  | integer (n : Int) :
    Same (.integer n) (.number (.integer n))
  | float {x : Binary64} :
    x.isFinite = true →
    Same (.float x) (.number (.float x))
  | notFinite {x : Binary64} :
    x.isFinite = false →
    Same (.float x) .null
  | bool (b : Bool) :
    Same (.bool b) (.bool b)
  | dateTime (text : String) :
    Same (.dateTime text) (.string text)
  | array {items : List Value} {items' : List Json} :
    List.Forall₂ Same items items' →
    Same (.array items) (.array items')
  | table {entries : List (String × Value)} {members : List (String × Json)} :
    (∀ key, Option.Rel Same (entries.reverse.lookup key) (members.reverse.lookup key)) →
    Same (.table entries) (.object members)

mutual

/-- A value becomes a JSON document that holds the same. -/
theorem same_toJson (v : Value) : v.Same v.toJson := by
  match v with
  | .string s => exact .string s
  | .integer n => exact .integer n
  | .float x =>
    rw [toJson, Item.floatJson]
    split
    · rename_i h
      exact .float h
    · rename_i h
      exact .notFinite (Bool.eq_false_iff.2 h)
  | .bool b => exact .bool b
  | .dateTime text => exact .dateTime text
  | .array items =>
    rw [toJson]
    exact .array (same_itemsJson items)
  | .table entries =>
    rw [toJson]
    refine .table fun key => ?_
    rw [entriesJson_eq_map, ← List.map_reverse, List.lookup_map_snd]
    cases hlookup : entries.reverse.lookup key with
    | none => exact .none
    | some v =>
      have hmem := List.mem_reverse.1 (List.mem_of_lookup_eq_some hlookup)
      exact .some (same_entriesJson entries _ hmem)
termination_by structural v

theorem same_itemsJson (items : List Value) : List.Forall₂ Same items (itemsJson items) := by
  match items with
  | [] => exact .nil
  | v :: vs => exact .cons (same_toJson v) (same_itemsJson vs)
termination_by structural items

theorem same_entriesJson (entries : List (String × Value)) :
    ∀ e ∈ entries, e.2.Same e.2.toJson := by
  match entries with
  | [] => exact List.forall_mem_nil _
  | (_, v) :: es => exact List.forall_mem_cons.2 ⟨same_toJson v, same_entriesJson es⟩
termination_by structural entries

end

end Value

namespace Item

/-- The text of the date or time that a string spells. -/
def spelledText? : Item → Option String
  | .string s =>
    match readDateOrTime s.toList with
    | some (text, []) => some (String.ofList text)
    | _ => none
  | _ => none

lemma spelledDate?_eq (i : Item) : i.spelledDate? = i.spelledText?.map .string := by
  cases i with
  | string s =>
    simp only [spelledDate?, spelledText?]
    rcases readDateOrTime s.toList with _ | ⟨text, _ | ⟨c, rest⟩⟩ <;> rfl
  | _ => rfl

mutual

/-- The value of an item; absent if a table starts with the key for dates and spells none. -/
def value? : Item → Option Value
  | .string s => some (.string s)
  | .integer n => some (.integer n)
  | .float x => some (.float x)
  | .bool b => some (.bool b)
  | .dateTime s => some (.dateTime s)
  | .array items => (itemsValue? items).map .array
  | .inline _ entries => tableValue? entries
  | .table _ entries => tableValue? entries
  | .tables elements => (tablesValue? elements).map .array

def itemsValue? : List Item → Option (List Value)
  | [] => some []
  | i :: is => do return (← value? i) :: (← itemsValue? is)

/-- The value of a table. -/
def tableValue? : List (String × Item) → Option Value
  | [] => some (.table [])
  | (k, i) :: es =>
    if k = dateKey then i.spelledText?.map .dateTime
    else do return .table ((k, ← value? i) :: (← entriesValue? es))

def entriesValue? : List (String × Item) → Option (List (String × Value))
  | [] => some []
  | (k, i) :: es => do return (k, ← value? i) :: (← entriesValue? es)

def tablesValue? : List (List (String × Item)) → Option (List Value)
  | [] => some []
  | es :: rest => do return (← tableValue? es) :: (← tablesValue? rest)

end

mutual

/-- An item becomes a JSON document as its value does. -/
theorem toJson?_eq (i : Item) : i.toJson? = i.value?.map Value.toJson := by
  match i with
  | .string _ | .integer _ | .float _ | .bool _ | .dateTime _ => rfl
  | .array items =>
    rw [toJson?, value?, itemsJson?_eq items, Option.map_map, Option.map_map]
    rfl
  | .inline _ entries => exact tableJson?_eq entries
  | .table _ entries => exact tableJson?_eq entries
  | .tables elements =>
    rw [toJson?, value?, tablesJson?_eq elements, Option.map_map, Option.map_map]
    rfl
termination_by structural i

theorem itemsJson?_eq (items : List Item) :
    itemsJson? items = (itemsValue? items).map Value.itemsJson := by
  match items with
  | [] => rfl
  | i :: is =>
    rw [itemsJson?, itemsValue?, toJson?_eq i, itemsJson?_eq is]
    cases value? i with
    | none => rfl
    | some v => cases itemsValue? is <;> rfl
termination_by structural items

theorem tableJson?_eq (entries : List (String × Item)) :
    tableJson? entries = (tableValue? entries).map Value.toJson := by
  match entries with
  | [] => rfl
  | (k, i) :: es =>
    rw [tableJson?, tableValue?, toJson?_eq i, entriesJson?_eq es, spelledDate?_eq]
    split
    · rw [Option.map_map]
      rfl
    · cases value? i with
      | none => rfl
      | some v => cases entriesValue? es <;> rfl
termination_by structural entries

theorem entriesJson?_eq (entries : List (String × Item)) :
    entriesJson? entries = (entriesValue? entries).map Value.entriesJson := by
  match entries with
  | [] => rfl
  | (k, i) :: es =>
    rw [entriesJson?, entriesValue?, toJson?_eq i, entriesJson?_eq es]
    cases value? i with
    | none => rfl
    | some v => cases entriesValue? es <;> rfl
termination_by structural entries

theorem tablesJson?_eq (elements : List (List (String × Item))) :
    tablesJson? elements = (tablesValue? elements).map Value.itemsJson := by
  match elements with
  | [] => rfl
  | es :: rest =>
    rw [tablesJson?, tablesValue?, tableJson?_eq es, tablesJson?_eq rest]
    cases tableValue? es with
    | none => rfl
    | some v => cases tablesValue? rest <;> rfl
termination_by structural elements

end

end Item

/-- The value of the document that a text spells. -/
def Value.ofText? (text : String) : Option Value := do
  Item.tableValue? (← read? text)

/-- A text spells the JSON document that its value becomes. -/
lemma ofText?_eq (text : String) : ofText? text = (Value.ofText? text).map Value.toJson := by
  unfold ofText? Value.ofText?
  cases read? text with
  | none => rfl
  | some entries => exact Item.tableJson?_eq entries

end ObjectQuery.Toml
