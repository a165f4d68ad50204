import Mathlib
import ObjectQuery.Proofs.Json.Records
import ObjectQuery.Proofs.Settings.Documents
import ObjectQuery.Proofs.Text.LowerCase
import ObjectQuery.Settings.Environment

/-!
# Settings in layers

Settings are loaded in layers: what variables of the environment set, over what a document says, over
the standard settings, each setting on its own. A document that is flawed fails to load, whatever the
environment sets. Nothing but the four keys of a document matters, and the language it is written in
does not matter either (`load_layered`).
-/

namespace ObjectQuery

lemma Json.digitsValue_eq_ofDigits (ds : List Char) :
    Json.digitsValue ds = Nat.ofDigits 10 (ds.map Json.digitValue).reverse := by
  unfold Json.digitsValue
  induction ds using List.reverseRecOn with
  | nil => rfl
  | append_singleton ds c ih =>
    rw [List.foldl_append, List.foldl_cons, List.foldl_nil, ih, List.map_append, List.map_singleton,
      List.reverse_append, List.reverse_singleton, List.singleton_append, Nat.ofDigits_cons]
    exact Nat.add_comm _ _

namespace Settings

/-- A text spells a number in decimal digits, with blanks around them and a plus sign in front if need
be. -/
def SpellsCount (text : String) (n : UInt64) : Prop :=
  ∃ ds : List Char, ds ≠ [] ∧ (∀ c ∈ ds, c.isDigit = true) ∧
    ((Text.trim text).toList = ds ∨ (Text.trim text).toList = '+' :: ds) ∧
    Nat.ofDigits 10 (ds.map Json.digitValue).reverse = n.toNat

/-- A text says yes: it is one of three words, whatever the case of its letters. -/
def AnswersYes (text : String) : Prop :=
  Text.asciiLowerCase text ∈ ["true", "1", "yes"]

/-- A variable is set, and to a text that stands for the value. -/
def Sets {α : Type} (env : Environment) (name : String) (StandsFor : String → α → Prop) (a : α) :
    Prop :=
  ∃ text, env name = some text ∧ StandsFor text a

namespace Layer

/-- What the environment sets. -/
def ofEnvironment (env : Environment) : Layer where
  platform := Sets env "OBJSTORE_PLATFORM" fun text p => p = Text.lowerCase (Text.trim text)
  offsetTolerance := Sets env "OBJSTORE_OFFSET_TOLERANCE" SpellsCount
  debug := Sets env "OBJSTORE_DEBUG" fun text b => b = true ↔ AnswersYes text
  logLevel := Sets env "OBJSTORE_LOG_LEVEL" fun text level => level = text

end Layer

section Variables

lemma count_eq_some_iff {ds : List Char} {n : UInt64} :
    (if ds.isEmpty || !ds.all Char.isDigit then none else unsigned? (Json.digitsValue ds)) = some n ↔
      ds ≠ [] ∧ (∀ c ∈ ds, c.isDigit = true) ∧
        Nat.ofDigits 10 (ds.map Json.digitValue).reverse = n.toNat := by
  rw [← Json.digitsValue_eq_ofDigits]
  split
  · rename_i h
    refine iff_of_false nofun ?_
    rintro ⟨hne, hdigits, _⟩
    rw [Bool.or_eq_true, List.isEmpty_iff, Bool.not_eq_true', ← Bool.not_eq_true,
      List.all_eq_true] at h
    exact h.elim hne fun h => h hdigits
  · rename_i h
    rw [Bool.or_eq_true, List.isEmpty_iff, Bool.not_eq_true', ← Bool.not_eq_true,
      List.all_eq_true, not_or, not_not] at h
    rw [unsigned?_eq_some_iff, Int.natCast_inj]
    exact ⟨fun hn => ⟨h.1, h.2, hn⟩, fun hn => hn.2.2⟩

/-- A tolerance is read just if it is spelled. -/
lemma readCount?_eq_some_iff {text : String} {n : UInt64} :
    readCount? text = some n ↔ SpellsCount text n := by
  unfold readCount? SpellsCount
  generalize (Text.trim text).toList = cs
  split
  · rename_i cs
    rw [count_eq_some_iff]
    constructor
    · rintro ⟨hne, hdigits, hn⟩
      exact ⟨cs, hne, hdigits, .inr rfl, hn⟩
    · rintro ⟨ds, hne, hdigits, rfl | hcs, hn⟩
      · -- the sign is no digit
        have hplus := hdigits '+' List.mem_cons_self
        cases hplus
      · obtain rfl := (List.cons.inj hcs).2
        exact ⟨hne, hdigits, hn⟩
  · rename_i hsign
    rw [count_eq_some_iff]
    constructor
    · rintro ⟨hne, hdigits, hn⟩
      exact ⟨cs, hne, hdigits, .inl rfl, hn⟩
    · rintro ⟨ds, hne, hdigits, rfl | hcs, hn⟩
      · exact ⟨hne, hdigits, hn⟩
      · exact absurd hcs (hsign ds)

lemma saysYes_iff (text : String) : saysYes text = true ↔ AnswersYes text := by
  have hplain : ∀ word ∈ ["true", "1", "yes"], ∀ c ∈ word.toList, Text.IsPlain c := by
    simp [Text.IsPlain]
  unfold saysYes AnswersYes
  rw [List.contains_iff_mem]
  constructor
  · intro h
    rwa [(Text.lowerCase_eq_iff (hplain _ h) text).1 rfl]
  · intro h
    rwa [(Text.lowerCase_eq_iff (hplain _ h) text).2 rfl]

/-- The environment comes over any other settings. -/
lemma gives_withEnvironment {below : Layer} {s : Settings} (h : below.Gives s) (env : Environment) :
    ((Layer.ofEnvironment env).atop below).Gives (s.withEnvironment env) := by
  constructor
  case platform =>
    refine over_getD (fun p => ?_) h.platform
    rw [Option.map_eq_some_iff]
    exact exists_congr fun text => and_congr_right fun _ => eq_comm
  case offsetTolerance =>
    refine over_getD (fun n => ?_) h.offsetTolerance
    rw [Option.bind_eq_some_iff]
    exact exists_congr fun text => and_congr_right fun _ => readCount?_eq_some_iff.symm
  case debug =>
    refine over_getD (fun b => ?_) h.debug
    rw [Option.map_eq_some_iff]
    refine exists_congr fun text => and_congr_right fun _ => ?_
    show (b = true ↔ AnswersYes text) ↔ saysYes text = b
    rw [← saysYes_iff, ← Bool.eq_iff_iff, eq_comm]
  case logLevel =>
    refine over_getD (fun level => ?_) h.logLevel
    constructor
    · rintro ⟨text, htext, rfl⟩
      exact htext
    · intro htext
      exact ⟨level, htext, rfl⟩

end Variables

/-- A text that is parsed is loaded as the document that it spells. -/
lemma ofText_eq {format : SettingsFormat} {text : String} {d : Document}
    (h : Document.parse? format text = some d) :
    d.format = format ∧ ofText format text = ofDocument format d.toJson := by
  cases format with
  | toml =>
    obtain ⟨v, hv, rfl⟩ := Option.map_eq_some_iff.1 h
    refine ⟨rfl, ?_⟩
    simp only [ofText, SettingsFormat.read?, Toml.ofText?_eq, hv, Option.map_some]
    rfl
  | json =>
    obtain ⟨j, hj, rfl⟩ := Option.map_eq_some_iff.1 h
    refine ⟨rfl, ?_⟩
    simp only [ofText, SettingsFormat.read?, hj]
    rfl

section RoundTrip

variable (s : Settings)

lemma exact_toJson : s.toJson.Exact := by
  have hn := s.offsetTolerance.toNat_lt
  simp only [toJson, Json.exact_object, List.forall_mem_cons, Json.exact_string, Json.exact_bool,
    true_and]
  refine ⟨?_, List.forall_mem_nil _⟩
  rw [Json.Exact]
  omega

/-- The members of the settings in their JSON form. -/
def members : List (String × Json) :=
  [("platform", .string s.platform),
    ("offset_tolerance", .number (.integer s.offsetTolerance.toNat)), ("debug", .bool s.debug),
    ("log_level", .string s.logLevel)]

/-- Settings that are written are loaded as they were. -/
lemma ofText_render : ofText .json s.toJson.render = .ok s := by
  have hread : Json.ofText? s.toJson.render = some s.toJson :=
    Json.ofText?_render s.exact_toJson (Nat.le_of_ble_eq_true rfl)
  have htolerance : count? (.number (.integer s.offsetTolerance.toNat)) = some s.offsetTolerance :=
    unsigned?_eq_some_iff.2 rfl
  have hlayer : standard.layer? s.members = some s := by
    simp [layer?, member?, members, List.lookup_cons, text?, switch?, htolerance]
  simp only [ofText, SettingsFormat.read?, hread]
  rw [show s.toJson = .object s.members from rfl, ofDocument, hlayer]

lemma ofWritten?_toJson : ofWritten? s.toJson.written = some s := by
  have htolerance : (Json.number (.integer s.offsetTolerance.toNat)).written.integer? =
      some (s.offsetTolerance.toNat : Int) := by
    have hn := s.offsetTolerance.toNat_lt
    rw [Json.written, Json.Written.integer?, Json.Numeral.value?_ofInt (by omega) (by omega)]
  have hunsigned : unsigned? s.offsetTolerance.toNat = some s.offsetTolerance :=
    unsigned?_eq_some_iff.2 rfl
  unfold ofWritten? toJson
  rw [Json.Record.read?_written (by simp) (by simp)]
  simp only [Option.bind_eq_bind, Option.bind_some]
  rw [Json.Record.required?_ofMembers Json.Written.integer? (by rfl), htolerance,
    Option.bind_some, hunsigned, Json.Record.required?_ofMembers Json.Written.text? (by rfl),
    Json.Record.required?_ofMembers Json.Written.bool? (by rfl),
    Json.Record.required?_ofMembers Json.Written.text? (by rfl)]
  rfl

/-- Settings that are written are read back. -/
lemma ofJsonText?_written : ofJsonText? s.toJson.render = some s := by
  rw [ofJsonText?, Json.read?_render s.exact_toJson]
  exact s.ofWritten?_toJson

end RoundTrip

section Loading

variable {format format' : SettingsFormat} {text text' : String} {d d' : Document}

/-- A file that is parsed fails to load if its document is flawed, whatever the environment sets. From
any other one each setting is what the environment sets, or else what the document says, or else the
standard one. -/
lemma load_cases (h : Document.parse? format text = some d) (path : String) (env : Environment) :
    (d.Flawed ∧ ∃ defect,
      ofFileWithEnvironment format path (some text) env = .error (.settings defect) ∧
        (d.IsTable → defect = .mistyped format)) ∨
    (¬ d.Flawed ∧ ∃ s, ofFileWithEnvironment format path (some text) env = .ok s ∧
      ((Layer.ofEnvironment env).atop (d.layer.atop .standard)).Gives s) := by
  obtain ⟨rfl, hload⟩ := ofText_eq h
  unfold ofFileWithEnvironment ofFile
  simp only [hload]
  rcases d.ofDocument_cases with ⟨hflawed, defect, hdefect, hmistyped⟩ | ⟨hflawed, s, hs, hgives⟩
  · rw [hdefect]
    exact .inl ⟨hflawed, defect, rfl, hmistyped⟩
  · rw [hs]
    exact .inr ⟨hflawed, _, rfl, gives_withEnvironment hgives env⟩

/-- Documents that are alike in the four keys give the same settings. -/
lemma load_eq_ok_iff (h : Document.parse? format text = some d)
    (h' : Document.parse? format' text' = some d') (halike : d.AlikeInKeys d') (path path' : String)
    (env : Environment) (s : Settings) :
    ofFileWithEnvironment format path (some text) env = .ok s ↔
      ofFileWithEnvironment format' path' (some text') env = .ok s := by
  have hflawed := halike.flawed_iff
  have hlayer := halike.layer_eq
  -- both documents fail to load, or both give the only settings of the same layers
  rcases load_cases h path env with ⟨hd, _, hload, _⟩ | ⟨hd, t, hload, hgives⟩
  · rcases load_cases h' path' env with ⟨_, _, hload', _⟩ | ⟨hd', _⟩
    · rw [hload, hload']
      exact iff_of_false nofun nofun
    · exact absurd (hflawed.1 hd) hd'
  · rcases load_cases h' path' env with ⟨hd', _⟩ | ⟨_, t', hload', hgives'⟩
    · exact absurd (hflawed.2 hd') hd
    · rw [← hlayer] at hgives'
      rw [hload, hload', hgives.unique hgives']

end Loading

/-- What is loaded from a file that is parsed, and from the environment alone. A flawed document fails
to load; from any other one each setting is what the environment sets, or else what the document says,
or else the standard one (1), where the environment may be left out (2) and the document as well (3).
Documents that are tables and alike in the four keys are loaded alike, whatever else they hold (4). A
document in TOML and one in JSON that hold the same give the same settings, and every document in TOML
has such a one (5). Settings that are written are loaded and read back as they were (6). -/
theorem load_layered {format : SettingsFormat} {text : String} {d : Document}
    (h : Document.parse? format text = some d) (path : String) (env : Environment) :
    ((d.Flawed ∧ ∃ defect,
        ofFileWithEnvironment format path (some text) env = .error (.settings defect)) ∨
      (¬ d.Flawed ∧ ∃ s, ofFileWithEnvironment format path (some text) env = .ok s ∧
        ((Layer.ofEnvironment env).atop (d.layer.atop .standard)).Gives s)) ∧
    ((d.Flawed ∧ ∃ defect, ofText format text = .error (.settings defect)) ∨
      (¬ d.Flawed ∧ ∃ s, ofText format text = .ok s ∧ (d.layer.atop .standard).Gives s)) ∧
    ((Layer.ofEnvironment env).atop .standard).Gives (ofEnvironment env) ∧
    (∀ path' text' d', Document.parse? format text' = some d' → d.IsTable → d.AlikeInKeys d' →
      ofFileWithEnvironment format path' (some text') env =
        ofFileWithEnvironment format path (some text) env) ∧
    (∀ v, d = .toml v → v.Same v.toJson ∧
      ∀ j path' text', Document.parse? .json text' = some (.json j) → v.Same j →
        ∀ s, ofFileWithEnvironment .json path' (some text') env = .ok s ↔
          ofFileWithEnvironment format path (some text) env = .ok s) ∧
    ∀ s : Settings, ofText .json s.toJson.render = .ok s ∧ ofJsonText? s.toJson.render = some s := by
  refine ⟨?_, ?_, gives_withEnvironment Layer.gives_standard env, ?_, ?_, fun s =>
    ⟨s.ofText_render, s.ofJsonText?_written⟩⟩
  · exact (load_cases h path env).imp_left fun ⟨hflawed, defect, hdefect, _⟩ =>
      ⟨hflawed, defect, hdefect⟩
  · obtain ⟨rfl, hload⟩ := ofText_eq h
    rw [hload]
    exact d.ofDocument_cases.imp_left fun ⟨hflawed, defect, hdefect, _⟩ =>
      ⟨hflawed, defect, hdefect⟩
  · intro path' text' d' h' htable halike
    rcases load_cases h path env with ⟨hflawed, defect, hload, hmistyped⟩ | ⟨_, s, hload, _⟩
    · rcases load_cases h' path' env with ⟨_, defect', hload', hmistyped'⟩ | ⟨hflawed', _⟩
      · rw [hload, hload', hmistyped htable, hmistyped' (halike.isTable.1 htable)]
      · exact absurd (halike.flawed_iff.1 hflawed) hflawed'
    · rw [hload]
      exact (load_eq_ok_iff h h' halike path path' env s).1 hload
  · rintro v rfl
    refine ⟨v.same_toJson, fun j path' text' h' hsame s => ?_⟩
    exact (load_eq_ok_iff h h' (Document.alikeInKeys_of_same hsame) path path' env s).symm

end Settings

namespace Sample

/-- A file with two settings, a date in the place of a third one and a table inside it. -/
def settingsText : String :=
  "platform = 'sqlite'\noffset_tolerance = 5_000\nlog_level = 2024-01-31\n[extra]\ndebug = 1\n"

lemma isSome_parse_settingsText : (Settings.Document.parse? .toml settingsText).isSome := by
  decide +kernel

/-- The document of the file. -/
def settingsDocument : Settings.Document :=
  (Settings.Document.parse? .toml settingsText).get isSome_parse_settingsText

/-- Variables, one of which is not set to a number. -/
def settingsVariables : Environment
  | "OBJSTORE_PLATFORM" => some " MySQL "
  | "OBJSTORE_OFFSET_TOLERANCE" => some "lots"
  | "OBJSTORE_DEBUG" => some "Yes"
  | _ => none

/-- What is loaded: the platform and the switch of the environment, and the rest of the file. -/
def settings : Settings :=
  ⟨"mysql", 5000, true, "2024-01-31"⟩

end Sample

/-- The platform and the switch come from the environment and the other settings from the file, where
the date is the level. -/
theorem load_layered_file :
    Settings.Document.parse? .toml Sample.settingsText = some Sample.settingsDocument ∧
    Settings.ofFileWithEnvironment .toml "settings.toml" (some Sample.settingsText)
      Sample.settingsVariables = .ok Sample.settings ∧
    ¬ Sample.settingsDocument.Flawed ∧
    ((Settings.Layer.ofEnvironment Sample.settingsVariables).atop
      (Sample.settingsDocument.layer.atop .standard)).Gives Sample.settings := by
  have hparse : Settings.Document.parse? .toml Sample.settingsText = some Sample.settingsDocument :=
    (Option.some_get _).symm
  have hload : Settings.ofFileWithEnvironment .toml "settings.toml" (some Sample.settingsText)
      Sample.settingsVariables = .ok Sample.settings := by
    decide +kernel
  refine ⟨hparse, hload, ?_⟩
  rcases (Settings.load_layered hparse "settings.toml" Sample.settingsVariables).1 with
    ⟨_, defect, hdefect⟩ | ⟨hflawed, s, hs, hgives⟩
  · cases hload.symm.trans hdefect
  · obtain rfl := Except.ok.inj (hload.symm.trans hs)
    exact ⟨hflawed, hgives⟩

end ObjectQuery
