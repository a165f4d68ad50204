import Mathlib
import ObjectQuery.Proofs.Toml.Values
import ObjectQuery.Settings.Document

/-!
# What documents say about settings

A document is what was parsed from a text, in one of two languages (`Document`). Of a table four keys
matter, each with values of one kind (`Says`). A document that is no table, or that has a value of
another kind under one of the keys, is flawed (`Flawed`), and then it fails to load; every other one is
a layer over the standard settings (`Layer.atop`), which gives each setting one value
(`ofDocument_cases`).
-/

namespace ObjectQuery

namespace Settings

lemma unsigned?_eq_some_iff {k : Int} {n : UInt64} : unsigned? k = some n ↔ k = n.toNat := by
  have hn := n.toNat_lt
  unfold unsigned?
  constructor
  · intro h
    split at h
    · rename_i hk
      obtain rfl := Option.some.inj h
      simp only [UInt64.size] at hk
      rw [Nat.toUInt64_eq, UInt64.toNat_ofNat']
      omega
    · cases h
  · rintro rfl
    rw [if_pos ⟨Int.natCast_nonneg _, by simpa [UInt64.size] using hn⟩]
    simp

/-- A document that was parsed, or a value in one. -/
inductive Document where
  | toml (value : Toml.Value)
  | json (value : Json)

namespace Document

/-- The language of the document. -/
def format : Document → SettingsFormat
  | .toml _ => .toml
  | .json _ => .json

/-- The document that a text in the language spells. -/
def parse? : SettingsFormat → String → Option Document
  | .toml, text => (Toml.Value.ofText? text).map .toml
  | .json, text => (Json.ofText? text).map .json

/-- The document as a JSON document. -/
def toJson : Document → Json
  | .toml v => v.toJson
  | .json j => j

/-- What a table has under a key; of a key that is repeated, the last value counts. -/
def get? : Document → String → Option Document
  | .toml (.table entries), key => (entries.reverse.lookup key).map .toml
  | .json (.object members), key => (members.reverse.lookup key).map .json
  | _, _ => none

@[simp] lemma get?_table (entries : List (String × Toml.Value)) (key : String) :
    get? (.toml (.table entries)) key = (entries.reverse.lookup key).map .toml := rfl

@[simp] lemma get?_object (members : List (String × Json)) (key : String) :
    get? (.json (.object members)) key = (members.reverse.lookup key).map .json := rfl

/-- The document is a table of keys. -/
inductive IsTable : Document → Prop where
  | toml (entries : List (String × Toml.Value)) :
    IsTable (.toml (.table entries))
  | json (members : List (String × Json)) :
    IsTable (.json (.object members))

/-- The value is a string. A date or time is one as well. -/
inductive IsText : Document → String → Prop where
  | toml (s : String) :
    IsText (.toml (.string s)) s
  | tomlDateTime (text : String) :
    IsText (.toml (.dateTime text)) text
  | json (s : String) :
    IsText (.json (.string s)) s

/-- The value is a boolean. -/
inductive IsSwitch : Document → Bool → Prop where
  | toml (b : Bool) :
    IsSwitch (.toml (.bool b)) b
  | json (b : Bool) :
    IsSwitch (.json (.bool b)) b

/-- The value is an unsigned integer of 64 bits. -/
inductive IsCount : Document → UInt64 → Prop where
  | toml (n : UInt64) :
    IsCount (.toml (.integer n.toNat)) n
  | json (n : UInt64) :
    IsCount (.json (.number (.integer n.toNat))) n

section

variable {α : Type}

/-- The document has a value of the kind under the key. -/
def Says (d : Document) (key : String) (Is : Document → α → Prop) (a : α) : Prop :=
  ∃ v, d.get? key = some v ∧ Is v a

/-- The document has a value of another kind under the key. -/
def Mistyped (d : Document) (key : String) (Is : Document → α → Prop) : Prop :=
  ∃ v, d.get? key = some v ∧ ∀ a, ¬ Is v a

end

/-- The document is no table, or one of the four keys has a value of another kind than it has to. -/
def Flawed (d : Document) : Prop :=
  ¬ d.IsTable ∨ d.Mistyped "platform" IsText ∨ d.Mistyped "offset_tolerance" IsCount ∨
    d.Mistyped "debug" IsSwitch ∨ d.Mistyped "log_level" IsText

end Document

/-- What holds above, or else what holds below. -/
inductive Over {α : Type} (above below : α → Prop) (a : α) : Prop where
  | above :
    above a →
    Over above below a
  | below :
    (∀ b, ¬ above b) →
    below a →
    Over above below a

section

variable {α : Type} {above below : α → Prop} {a b : α}

lemma over_getD {o : Option α} (habove : ∀ b, above b ↔ o = some b)
    (hbelow : ∀ b, below b ↔ b = a) (b : α) : Over above below b ↔ b = o.getD a := by
  cases o with
  | none =>
    have hnone : ∀ b, ¬ above b := fun b hb => nomatch (habove b).1 hb
    rw [Option.getD_none, ← hbelow]
    refine ⟨?_, .below hnone⟩
    rintro (hb | ⟨_, hb⟩)
    · exact absurd hb (hnone b)
    · exact hb
  | some c =>
    have hc : ∀ b, above b ↔ b = c := fun b => by rw [habove, Option.some_inj, eq_comm]
    rw [Option.getD_some, ← hc]
    refine ⟨?_, .above⟩
    rintro (hb | ⟨hnone, _⟩)
    · exact hb
    · exact absurd ((hc c).2 rfl) (hnone c)

end

/-- The values that each of the settings may have. -/
structure Layer where
  platform : String → Prop
  offsetTolerance : UInt64 → Prop
  debug : Bool → Prop
  logLevel : String → Prop

namespace Layer

/-- One layer over another, each setting on its own. -/
def atop (above below : Layer) : Layer where
  platform := Over above.platform below.platform
  offsetTolerance := Over above.offsetTolerance below.offsetTolerance
  debug := Over above.debug below.debug
  logLevel := Over above.logLevel below.logLevel

/-- Each setting has one value, that of `s`. -/
structure Gives (l : Layer) (s : Settings) : Prop where
  platform : ∀ p, l.platform p ↔ p = s.platform
  offsetTolerance : ∀ n, l.offsetTolerance n ↔ n = s.offsetTolerance
  debug : ∀ b, l.debug b ↔ b = s.debug
  logLevel : ∀ t, l.logLevel t ↔ t = s.logLevel

/-- The standard settings. -/
def standard : Layer where
  platform p := p = Settings.standard.platform
  offsetTolerance n := n = Settings.standard.offsetTolerance
  debug b := b = Settings.standard.debug
  logLevel t := t = Settings.standard.logLevel

lemma gives_standard : standard.Gives Settings.standard :=
  ⟨fun _ => Iff.rfl, fun _ => Iff.rfl, fun _ => Iff.rfl, fun _ => Iff.rfl⟩

lemma Gives.unique {l : Layer} {s s' : Settings} (h : l.Gives s) (h' : l.Gives s') : s = s' := by
  obtain ⟨platform, tolerance, debug, logLevel⟩ := s
  congr
  · exact (h'.platform platform).1 ((h.platform platform).2 rfl)
  · exact (h'.offsetTolerance tolerance).1 ((h.offsetTolerance tolerance).2 rfl)
  · exact (h'.debug debug).1 ((h.debug debug).2 rfl)
  · exact (h'.logLevel logLevel).1 ((h.logLevel logLevel).2 rfl)

end Layer

namespace Document

/-- What the document says about each of the settings. -/
def layer (d : Document) : Layer where
  platform := d.Says "platform" IsText
  offsetTolerance := d.Says "offset_tolerance" IsCount
  debug := d.Says "debug" IsSwitch
  logLevel := d.Says "log_level" IsText

section Reading

variable {α : Type} {read : Json → Option α} {Is : Document → α → Prop} {d : Document}
  {key : String} {a : α}

/-- The values of a kind are those that are read. -/
def Reads (read : Json → Option α) (Is : Document → α → Prop) : Prop :=
  ∀ d a, read (toJson d) = some a ↔ Is d a

/-- What is read from the value under a key. -/
def find? (d : Document) (key : String) (read : Json → Option α) : Option α :=
  (d.get? key).bind fun v => read v.toJson

lemma Reads.says_iff (h : Reads read Is) : d.Says key Is a ↔ d.find? key read = some a := by
  rw [find?, Option.bind_eq_some_iff]
  exact exists_congr fun v => and_congr_right fun _ => (h v a).symm

lemma Reads.mistyped_iff (h : Reads read Is) :
    d.Mistyped key Is ↔ ∃ v, d.get? key = some v ∧ read v.toJson = none := by
  refine exists_congr fun v => and_congr_right fun _ => ?_
  rw [Option.eq_none_iff_forall_ne_some]
  exact forall_congr' fun a => not_congr (h v a).symm

/-- A value that is not of its kind keeps a setting from being read. -/
lemma Reads.member?_of_mistyped {members : List (String × Json)} (h : Reads read Is)
    (hmembers : members.reverse.lookup key = (d.get? key).map toJson)
    (hmistyped : d.Mistyped key Is) (otherwise : α) :
    member? members key read otherwise = none := by
  obtain ⟨v, hv, hread⟩ := h.mistyped_iff.1 hmistyped
  simp only [member?, hmembers, hv, Option.map_some, hread]

lemma Reads.member?_of_not_mistyped {members : List (String × Json)} (h : Reads read Is)
    (hmembers : members.reverse.lookup key = (d.get? key).map toJson)
    (hmistyped : ¬ d.Mistyped key Is) (otherwise : α) :
    member? members key read otherwise = some ((d.find? key read).getD otherwise) := by
  cases hget : d.get? key with
  | none => simp only [member?, hmembers, find?, hget, Option.map_none, Option.bind_none,
      Option.getD_none]
  | some v =>
    cases hread : read v.toJson with
    | none => exact absurd (h.mistyped_iff.2 ⟨v, hget, hread⟩) hmistyped
    | some a => simp only [member?, hmembers, find?, hget, Option.map_some, Option.bind_some, hread,
        Option.getD_some]

end Reading

/-- A double is read as none of the kinds. -/
lemma read_floatJson {α : Type} {read : Json → Option α} (hnull : read .null = none)
    (hfloat : ∀ x, read (.number (.float x)) = none) (x : Binary64) :
    read (Toml.Item.floatJson x) = none := by
  unfold Toml.Item.floatJson
  split
  · exact hfloat x
  · exact hnull

lemma reads_text : Reads text? IsText := by
  intro d s
  constructor
  · intro h
    rcases d with v | j
    · cases v with
      | string => cases h; exact .toml s
      | dateTime => cases h; exact .tomlDateTime s
      | float x => exact absurd ((read_floatJson rfl (fun _ => rfl) x).symm.trans h) nofun
      | _ => cases h
    · cases j with
      | string => cases h; exact .json s
      | _ => cases h
  · rintro ⟨⟩ <;> rfl

lemma reads_switch : Reads switch? IsSwitch := by
  intro d b
  constructor
  · intro h
    rcases d with v | j
    · cases v with
      | bool => cases h; exact .toml b
      | float x => exact absurd ((read_floatJson rfl (fun _ => rfl) x).symm.trans h) nofun
      | _ => cases h
    · cases j with
      | bool => cases h; exact .json b
      | _ => cases h
  · rintro ⟨⟩ <;> rfl

lemma reads_count : Reads count? IsCount := by
  intro d n
  constructor
  · intro h
    rcases d with v | j
    · cases v with
      | integer k =>
        obtain rfl := unsigned?_eq_some_iff.1 h
        exact .toml n
      | float x => exact absurd ((read_floatJson rfl (fun _ => rfl) x).symm.trans h) nofun
      | _ => cases h
    · cases j with
      | number k =>
        cases k with
        | integer k =>
          obtain rfl := unsigned?_eq_some_iff.1 h
          exact .json n
        | float x => cases h
      | _ => cases h
  · rintro ⟨⟩ <;> exact unsigned?_eq_some_iff.2 rfl

variable {d : Document}

/-- A table is a table as a JSON document, with the same values under its keys. -/
lemma IsTable.exists_members (h : d.IsTable) : ∃ members, d.toJson = .object members ∧
    ∀ key, members.reverse.lookup key = (d.get? key).map toJson := by
  cases h with
  | toml entries =>
    refine ⟨_, rfl, fun key => ?_⟩
    rw [Toml.Value.entriesJson_eq_map, ← List.map_reverse, List.lookup_map_snd, get?_table,
      Option.map_map]
    rfl
  | json members =>
    refine ⟨members, rfl, fun key => ?_⟩
    rw [get?_object, Option.map_map]
    exact Option.map_id'.symm

lemma isTable_of_toJson {members : List (String × Json)} (h : d.toJson = .object members) :
    d.IsTable := by
  rcases d with v | j
  · cases v with
    | table entries => exact .toml entries
    | float x =>
      simp only [toJson, Toml.Value.toJson, Toml.Item.floatJson] at h
      split at h <;> cases h
    | _ => cases h
  · cases h
    exact .json members

section Members

variable {members : List (String × Json)}
  (hmembers : ∀ key, members.reverse.lookup key = (d.get? key).map toJson)

include hmembers

lemma layer?_of_mistyped (h : d.Mistyped "platform" IsText ∨ d.Mistyped "offset_tolerance" IsCount ∨
      d.Mistyped "debug" IsSwitch ∨ d.Mistyped "log_level" IsText) (s : Settings) :
    s.layer? members = none := by
  rcases h with h | h | h | h
  · simp [layer?, reads_text.member?_of_mistyped (hmembers _) h]
  · simp [layer?, reads_count.member?_of_mistyped (hmembers _) h]
  · simp [layer?, reads_switch.member?_of_mistyped (hmembers _) h]
  · simp [layer?, reads_text.member?_of_mistyped (hmembers _) h]

lemma exists_layer? (h : ¬ d.Flawed) {s : Settings} {below : Layer} (hbelow : below.Gives s) :
    ∃ s', s.layer? members = some s' ∧ (d.layer.atop below).Gives s' := by
  unfold Flawed at h
  simp only [not_or] at h
  obtain ⟨_, hplatform, htolerance, hdebug, hlevel⟩ := h
  rw [layer?, reads_text.member?_of_not_mistyped (hmembers _) hplatform,
    reads_count.member?_of_not_mistyped (hmembers _) htolerance,
    reads_switch.member?_of_not_mistyped (hmembers _) hdebug,
    reads_text.member?_of_not_mistyped (hmembers _) hlevel]
  refine ⟨_, rfl, ?_⟩
  constructor
  · exact over_getD (fun _ => reads_text.says_iff) hbelow.platform
  · exact over_getD (fun _ => reads_count.says_iff) hbelow.offsetTolerance
  · exact over_getD (fun _ => reads_switch.says_iff) hbelow.debug
  · exact over_getD (fun _ => reads_text.says_iff) hbelow.logLevel

end Members

/-- A flawed document fails to load. Every other one gives what it says over the standard settings. -/
theorem ofDocument_cases (d : Document) :
    (d.Flawed ∧ ∃ defect, ofDocument d.format d.toJson = .error (.settings defect) ∧
      (d.IsTable → defect = .mistyped d.format)) ∨
    (¬ d.Flawed ∧ ∃ s, ofDocument d.format d.toJson = .ok s ∧
      (d.layer.atop .standard).Gives s) := by
  by_cases htable : d.IsTable
  · obtain ⟨members, hjson, hmembers⟩ := htable.exists_members
    rw [hjson, ofDocument]
    by_cases hflawed : d.Flawed
    · -- one value of another kind is enough, and which one it is does not show
      have hmistyped := hflawed.resolve_left (not_not_intro htable)
      refine .inl ⟨hflawed, .mistyped d.format, ?_, fun _ => rfl⟩
      rw [layer?_of_mistyped hmembers hmistyped]
    · obtain ⟨s, hs, hgives⟩ := exists_layer? hmembers hflawed Layer.gives_standard
      refine .inr ⟨hflawed, s, ?_, hgives⟩
      rw [hs]
  · refine .inl ⟨.inl htable, ?_⟩
    unfold ofDocument
    split
    · rename_i members hmembers
      exact absurd (isTable_of_toJson hmembers) htable
    · exact ⟨_, rfl, fun h => absurd h htable⟩

section Alike

/-- No kind tells the values apart. -/
structure Alike (v w : Document) : Prop where
  text : ∀ s, v.IsText s ↔ w.IsText s
  switch : ∀ b, v.IsSwitch b ↔ w.IsSwitch b
  count : ∀ n, v.IsCount n ↔ w.IsCount n

/-- The keys that set something. -/
def keys : List String :=
  ["platform", "offset_tolerance", "debug", "log_level"]

/-- Both documents are tables, or neither is, and what they have under the four keys is alike. -/
structure AlikeInKeys (d d' : Document) : Prop where
  isTable : d.IsTable ↔ d'.IsTable
  get? : ∀ key ∈ keys, Option.Rel Alike (d.get? key) (d'.get? key)

variable {α : Type} {Is : Document → α → Prop} {d' : Document} {key : String}

/-- What does not tell values apart does not tell apart what two documents have under a key. -/
lemma exists_get?_congr {P : Document → Prop} (hP : ∀ {v w}, Alike v w → (P v ↔ P w))
    (h : Option.Rel Alike (d.get? key) (d'.get? key)) :
    (∃ v, d.get? key = some v ∧ P v) ↔ ∃ v, d'.get? key = some v ∧ P v := by
  generalize d.get? key = found at h
  generalize d'.get? key = found' at h
  cases h with
  | some hvw => simp only [Option.some_inj, exists_eq_left', hP hvw]
  | none => rfl

lemma says_congr (hIs : ∀ {v w}, Alike v w → ∀ a, Is v a ↔ Is w a)
    (h : Option.Rel Alike (d.get? key) (d'.get? key)) : d.Says key Is = d'.Says key Is :=
  funext fun a => propext (exists_get?_congr (fun hvw => hIs hvw a) h)

lemma mistyped_congr (hIs : ∀ {v w}, Alike v w → ∀ a, Is v a ↔ Is w a)
    (h : Option.Rel Alike (d.get? key) (d'.get? key)) :
    d.Mistyped key Is ↔ d'.Mistyped key Is :=
  exists_get?_congr (fun hvw => forall_congr' fun a => not_congr (hIs hvw a)) h

lemma AlikeInKeys.layer_eq (h : AlikeInKeys d d') : d.layer = d'.layer := by
  unfold layer
  rw [says_congr Alike.text (h.get? "platform" (by decide)),
    says_congr Alike.count (h.get? "offset_tolerance" (by decide)),
    says_congr Alike.switch (h.get? "debug" (by decide)),
    says_congr Alike.text (h.get? "log_level" (by decide))]

lemma AlikeInKeys.flawed_iff (h : AlikeInKeys d d') : d.Flawed ↔ d'.Flawed := by
  unfold Flawed
  rw [h.isTable, mistyped_congr Alike.text (h.get? "platform" (by decide)),
    mistyped_congr Alike.count (h.get? "offset_tolerance" (by decide)),
    mistyped_congr Alike.switch (h.get? "debug" (by decide)),
    mistyped_congr Alike.text (h.get? "log_level" (by decide))]

/-- A value and a JSON document that hold the same are alike. -/
lemma alike_of_same {v : Toml.Value} {j : Json} (h : v.Same j) : Alike (.toml v) (.json j) := by
  constructor
  case text =>
    intro s
    cases h <;> constructor <;> rintro ⟨⟩ <;> constructor
  case switch =>
    intro b
    cases h <;> constructor <;> rintro ⟨⟩ <;> constructor
  case count =>
    intro n
    cases h <;> constructor <;> rintro ⟨⟩ <;> constructor

lemma alikeInKeys_of_same {v : Toml.Value} {j : Json} (h : v.Same j) :
    AlikeInKeys (.toml v) (.json j) := by
  constructor
  case isTable => cases h <;> constructor <;> rintro ⟨⟩ <;> constructor
  case get? =>
    intro key _
    cases h with
    | @table entries members hsame =>
      have hkey := hsame key
      rw [get?_table, get?_object]
      generalize entries.reverse.lookup key = found at hkey
      generalize members.reverse.lookup key = found' at hkey
      cases hkey with
      | some hvj => exact .some (alike_of_same hvj)
      | none => exact .none
    | _ => exact .none

end Alike

end Document

end Settings

end ObjectQuery
