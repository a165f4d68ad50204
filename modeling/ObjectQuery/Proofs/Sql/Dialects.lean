import Mathlib
import ObjectQuery.Proofs.Sql.Scoping
import ObjectQuery.Proofs.Sql.TwoRuns

/-!
# Dialects

Platforms differ in the types of casts, in booleans and in the backslashes of strings, and in
nothing else: they write every other value alike (`Platform.literal_congr`), and so they have the
same statement for a query, or refuse it for the same reason, if neither its levels nor the start
that it seeks hold anything of the kind (`compile_on_platforms`).
-/

namespace ObjectQuery

namespace Value

/-- Whether the value is a boolean. -/
def isBool : Value → Bool
  | .bool _ => true
  | _ => false

/-- Whether the value is a string with a backslash in it. -/
def hasBackslash : Value → Bool
  | .string s => s.toList.contains '\\'
  | _ => false

end Value

namespace Platform

variable {p p' : Platform}

/-- Only a backslash is escaped on some platforms and not on others. -/
lemma quote_congr {s : String} (h : '\\' ∈ s.toList → (p' = .mySQL ↔ p = .mySQL)) :
    p'.quote s = p.quote s := by
  have hchar : ∀ c ∈ s.toList, p'.quoteChar c = p.quoteChar c := by
    intro c hc
    by_cases hbackslash : c = '\\'
    · subst hbackslash
      simp only [quoteChar, h hc]
    · simp only [quoteChar, hbackslash, false_and]
  unfold quote
  rw [List.flatMap_congr hchar]

/-- Platforms that write booleans alike and escape backslashes alike write all values alike. -/
lemma literal_congr {v : Value}
    (hbool : v.isBool = true → ∀ b, p'.boolLiteral b = p.boolLiteral b)
    (hbackslash : v.hasBackslash = true → (p' = .mySQL ↔ p = .mySQL)) :
    p'.literal v = p.literal v := by
  cases v with
  | bool b => exact congrArg Except.ok (hbool rfl b)
  | string s =>
    refine congrArg Except.ok (quote_congr fun h => hbackslash ?_)
    simpa [Value.hasBackslash] using h
  | _ => rfl

end Platform

namespace Query

open Sql

/-- The value is written in the query, at one of its levels, or in the start that it seeks. -/
def Writes (q : Query) (seek : Option Seek) (v : Value) : Prop :=
  (∃ level, q.Level level ∧ v ∈ level.values) ∨
    ∃ start ∈ seek, v ∈ start.key.values ++ [start.value]

/-- The query casts to the type, at one of its levels, or the start that it seeks does. -/
def CastsTo (q : Query) (seek : Option Seek) (t : AttributeType) : Prop :=
  (∃ level, q.Level level ∧ t ∈ level.casts) ∨ ∃ start ∈ seek, t ∈ start.key.casts

end Query

namespace Sql

lemma renaming_id : Renaming id Eq where
  injective := Function.injective_id
  refl _ := rfl
  stands _ _ := ⟨rfl, rfl⟩

/-- Platforms that write all values of a query alike have the same statement for it if it casts to
no type, or refuse it for the same reason. -/
lemma compile_congr {m : Model} {p p' : Platform} {shape : Shape} {seek : Option Seek} {q : Query}
    (hcasts : ∀ t, ¬ q.CastsTo seek t)
    (hvalues : ∀ v, q.Writes seek v → p'.literal v = p.literal v) :
    (compile m p' shape seek q).outcome = (compile m p shape seek q).outcome := by
  have hlevels : ∀ level, q.Level level → p.Alike p' level.values level.casts :=
    fun level hlevel => ⟨fun v hv => hvalues v (.inl ⟨level, hlevel, hv⟩),
      fun t ht => absurd (.inl ⟨level, hlevel, ht⟩) (hcasts t)⟩
  have hseek : ∀ start ∈ seek,
      p.Alike p' (start.key.values ++ [start.value]) start.key.casts :=
    fun start hstart => ⟨fun v hv => hvalues v (.inr ⟨start, hstart, hv⟩),
      fun t ht => absurd (.inr ⟨start, hstart, ht⟩) (hcasts t)⟩
  have hruns : Except.Agree Eq Eq (compile m p shape seek q).outcome
      (compile m p' shape (seek.map (Seek.rename id)) ((q.rename id).copy (id q.id))).outcome :=
    agree_compile renaming_id (renaming_id.stands q.id) hlevels hseek
  -- nothing is renamed here, only the platforms differ
  rw [q.copy_rename, q.rename_id, Option.map_congr fun start _ => start.rename_id,
    Option.map_id'] at hruns
  exact hruns.eq.symm

/-- A query that casts to no type at any level, and seeks no start that does, has the same statement
on all platforms or is refused on all of them for the same reason, if no boolean and no string with
a backslash is written in it. With booleans, the two platforms that write them as numbers still
agree, and with backslashes the two that do not escape them. -/
theorem compile_on_platforms (m : Model) (shape : Shape) (seek : Option Seek) (q : Query)
    (hcasts : ∀ t, ¬ q.CastsTo seek t) :
    ((∀ v, q.Writes seek v → v.isBool = false ∧ v.hasBackslash = false) → ∀ p p',
      (compile m p' shape seek q).outcome = (compile m p shape seek q).outcome) ∧
    ((∀ v, q.Writes seek v → v.hasBackslash = false) →
      (compile m .mySQL shape seek q).outcome = (compile m .sqlite shape seek q).outcome) ∧
    ((∀ v, q.Writes seek v → v.isBool = false) →
      (compile m .postgreSQL shape seek q).outcome = (compile m .sqlite shape seek q).outcome) := by
  refine ⟨fun h p p' => ?_, fun h => ?_, fun h => ?_⟩
  · refine compile_congr hcasts fun v hv => Platform.literal_congr ?_ ?_
    · exact fun hbool => absurd ((h v hv).1.symm.trans hbool) nofun
    · exact fun hbackslash => absurd ((h v hv).2.symm.trans hbackslash) nofun
  · refine compile_congr hcasts fun v hv => Platform.literal_congr ?_ ?_
    · exact fun _ b => by cases b <;> rfl
    · exact fun hbackslash => absurd ((h v hv).symm.trans hbackslash) nofun
  · refine compile_congr hcasts fun v hv => Platform.literal_congr ?_ ?_
    · exact fun hbool => absurd ((h v hv).symm.trans hbool) nofun
    · exact fun _ => by decide

end Sql

namespace Sample

/-- The start behind a name with a backslash in it. -/
def behindName : Sql.Seek :=
  ⟨.column ⟨employees.id, true, "a1_", some "name", .string⟩, .string "Ada\\"⟩

lemma castsTo_layered (t : AttributeType) : ¬ layered.CastsTo (some behindName) t := by
  have hlevels : ∀ level, layered.Level level → level.casts = [] :=
    forall_level_layered rfl rfl rfl
  rintro (⟨level, hlevel, ht⟩ | ⟨start, hstart, ht⟩)
  · rw [hlevels level hlevel] at ht
    cases ht
  · cases hstart
    cases ht

lemma isBool_layered (v : Value) (h : layered.Writes (some behindName) v) : v.isBool = false := by
  have hlevels : ∀ level, layered.Level level → ∀ v ∈ level.values, v.isBool = false :=
    forall_level_layered (by decide) (fun _ h => by cases h) fun _ h => by cases h
  rcases h with ⟨level, hlevel, hv⟩ | ⟨start, hstart, hv⟩
  · exact hlevels level hlevel v hv
  · cases hstart
    cases List.mem_singleton.1 hv
    rfl

end Sample

/-- The workers behind a name are read with the same statement on two of the platforms, and with
another one where the backslash of the name is escaped. -/
theorem compile_on_platforms_layered :
    (∀ t, ¬ Sample.layered.CastsTo (some Sample.behindName) t) ∧
    (Sql.compile Sample.company .postgreSQL .whole (some Sample.behindName)
        Sample.layered).outcome =
      (Sql.compile Sample.company .sqlite .whole (some Sample.behindName) Sample.layered).outcome ∧
    (Sql.compile Sample.company .mySQL .whole (some Sample.behindName)
        Sample.layered).outcome.toOption.map Sql.Statement.text ≠
      (Sql.compile Sample.company .sqlite .whole (some Sample.behindName)
        Sample.layered).outcome.toOption.map Sql.Statement.text := by
  have hcompile := Sql.compile_on_platforms Sample.company .whole (some Sample.behindName)
    Sample.layered Sample.castsTo_layered
  exact ⟨Sample.castsTo_layered, hcompile.2.2 Sample.isBool_layered, by decide +kernel⟩

end ObjectQuery
