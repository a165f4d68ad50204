import Mathlib
import ObjectQuery.Proofs.Sql.Sources

/-!
# Entering sources

What each source brings in: a class the tables of its components with the joins between them, a
query a derived table. The sources of a query bring in what each of them does, in order
(`enter_eq_ok_iff`), and the place of a source is made of the tables that it brings in.
-/

namespace ObjectQuery.Sql

namespace Place

/-- The aliases of the tables of a place. -/
def aliases : Place → List String
  | .tables _ parts => parts.map Prod.snd
  | .derived aliasName => [aliasName]

end Place

namespace Entered

/-- Aliases in a row are joined each with the one before it. -/
lemma joinsOf_map_range' (aliasName : Nat → String) (start n : Nat) :
    joinsOf ((List.range' start n).map aliasName) =
      (List.range' start (n - 1)).map fun i => .compare (Scope.identityColumn (aliasName i)) .equals
        (Scope.identityColumn (aliasName (i + 1))) := by
  induction n generalizing start with
  | zero => rfl
  | succ n ih =>
    cases n with
    | zero => rfl
    | succ n =>
      have hrest := ih (start + 1)
      rw [List.range'_succ, List.map_cons] at hrest
      rw [List.range'_succ, List.range'_succ, List.map_cons, List.map_cons, joinsOf, hrest]
      rfl

/-- The aliases of the tables of a class are numbered. -/
lemma map_snd_parts (base : String) (components : List PersistentClass) :
    (parts base components).map Prod.snd =
      (List.range' 0 components.length).map (partAlias base) := by
  rw [← List.zipIdx_map_snd 0 components, parts, List.map_map, List.map_map]
  rfl

lemma map_fst_parts (base : String) (components : List PersistentClass) :
    (parts base components).map Prod.fst = components := by
  rw [parts, List.map_map]
  exact List.zipIdx_map_fst 0 components

/-- The table of each component of a class, under its alias. -/
def classItems (base : String) (components : List PersistentClass) : List FromItem :=
  components.mapIdx fun i k => .table k.table (partAlias base i)

lemma classItems_eq_map (base : String) (components : List PersistentClass) :
    classItems base components =
      (parts base components).map fun part => .table part.1.table part.2 := by
  rw [classItems, parts, List.map_map, List.mapIdx_eq_zipIdx_map]
  rfl

/-- What a class of those components brings in under an alias. -/
def ofComponents (c : ClassNode) (base : String) (components : List PersistentClass) : Entered :=
  ⟨classItems base components, joinsOf ((parts base components).map Prod.snd),
    [(c.id, .tables c.type (parts base components))]⟩

/-- All that sources bring in, in order. -/
def all (es : List Entered) : Entered :=
  es.foldr append none

@[simp] lemma items_all (es : List Entered) : (all es).items = es.flatMap items := by
  induction es with
  | nil => rfl
  | cons e es ih => exact congrArg (e.items ++ ·) ih

@[simp] lemma joins_all (es : List Entered) : (all es).joins = es.flatMap joins := by
  induction es with
  | nil => rfl
  | cons e es ih => exact congrArg (e.joins ++ ·) ih

@[simp] lemma places_all (es : List Entered) :
    (all es).places = es.reverse.flatMap places := by
  induction es with
  | nil => rfl
  | cons e es ih =>
    rw [List.reverse_cons, List.flatMap_append, ← ih, List.flatMap_singleton]
    rfl

lemma aliases_classItems (base : String) (components : List PersistentClass) :
    (classItems base components).map FromItem.aliasName =
      (parts base components).map Prod.snd := by
  rw [classItems_eq_map, List.map_map]
  rfl

end Entered

/-- What a source brings in: a class the tables of its components, a query its statement. -/
inductive Enters (s : Scope) : Source → Entered → Prop where
  | object {c : ClassNode} {base : String} {components : List PersistentClass} :
    s.aliasOf c.id = .ok base →
    s.model.components c.type = .ok components →
    Enters s (.object c) (.ofComponents c base components)
  | query {q : Query} {base : String} {st : Statement} :
    s.aliasOf q.id = .ok base →
    (compile s.model s.platform .derived none q).outcome = .ok st →
    Enters s (.query q) (.ofStatement q.id st base)

lemma enterSource_eq_ok_iff {s : Scope} {source : Source} {entered : Entered} :
    (enterSource s source).outcome = .ok entered ↔ Enters s source entered := by
  cases source with
  | object c =>
    simp only [enterSource, Entered.ofClass, Traced.outcome_liftM, Except.bind_eq_ok,
      ← Entered.classItems_eq_map]
    constructor
    · rintro ⟨base, hbase, components, hcomponents, h⟩
      cases h
      exact .object hbase hcomponents
    · rintro (⟨hbase, hcomponents⟩ | _)
      exact ⟨_, hbase, _, hcomponents, rfl⟩
  | query q =>
    simp only [enterSource, Traced.outcome_bind, Traced.outcome_liftM, Except.bind_eq_ok]
    constructor
    · rintro ⟨base, hbase, st, hst, h⟩
      cases h
      exact .query hbase hst
    · rintro (_ | ⟨hbase, hst⟩)
      exact ⟨_, hbase, _, hst, rfl⟩

lemma enter_eq_ok_iff {s : Scope} {sources : List Source} {entered : Entered} :
    (enter s sources).outcome = .ok entered ↔
    ∃ es, List.Forall₂ (Enters s) sources es ∧ entered = .all es := by
  induction sources generalizing entered with
  | nil =>
    simp only [List.forall₂_nil_left_iff, exists_eq_left]
    exact ⟨fun h => by cases h; rfl, fun h => by subst h; rfl⟩
  | cons source sources ih =>
    simp only [enter_cons_eq_ok_iff, ih, enterSource_eq_ok_iff]
    constructor
    · rintro ⟨first, _, hfirst, ⟨es, hes, rfl⟩, rfl⟩
      exact ⟨first :: es, .cons hfirst hes, rfl⟩
    · rintro ⟨_, h, rfl⟩
      obtain ⟨first, es, hfirst, hes, rfl⟩ := List.forall₂_cons_left_iff.1 h
      exact ⟨first, _, hfirst, ⟨es, hes, rfl⟩, rfl⟩

namespace Enters

variable {s : Scope} {source : Source} {e : Entered}

/-- A source makes one place, of the tables that it brings in. -/
lemma place (h : Enters s source e) :
    ∃ place, e.places = [(source.id, place)] ∧ e.items.map FromItem.aliasName = place.aliases := by
  cases h with
  | @object c base components _ _ =>
    exact ⟨_, rfl, Entered.aliases_classItems base components⟩
  | query _ _ => exact ⟨_, rfl, rfl⟩

/-- The first table of a source has the alias of the source. -/
lemma head_items (h : Enters s source e) {base : String} (hbase : s.aliasOf source.id = .ok base) :
    ∃ item items, e.items = item :: items ∧ item.aliasName = base := by
  cases h with
  | @object c base' components hbase' hcomponents =>
    obtain rfl := Except.ok.inj (hbase'.symm.trans hbase)
    obtain ⟨first, rest, _, rfl, _⟩ := exists_of_components hcomponents
    exact ⟨_, _, List.mapIdx_cons, rfl⟩
  | query hbase' _ =>
    obtain rfl := Except.ok.inj (hbase'.symm.trans hbase)
    exact ⟨_, _, rfl, rfl⟩

end Enters

section

variable {s : Scope} {sources : List Source} {entered : Entered}

/-- No two sources have the same identity. -/
def KnownById (sources : List Source) : Prop :=
  ∀ source ∈ sources, ∀ source' ∈ sources, source.id = source'.id → source = source'

lemma knownById_of_nodup (h : (sources.map Source.id).Nodup) : KnownById sources :=
  fun _ hsource _ hsource' hid => List.inj_on_of_nodup_map h hsource hsource' hid

/-- The place of a source is the one that entering it makes, as no other source has its identity. -/
lemma exists_enters (he : (enter s sources).outcome = .ok entered)
    (hknown : KnownById sources) {source : Source} (h : source ∈ sources) :
    ∃ e place, Enters s source e ∧ e.places = [(source.id, place)] ∧
      entered.places.lookup source.id = some place := by
  obtain ⟨place, hlookup, _⟩ := lookup_places he (List.mem_map_of_mem h)
  obtain ⟨es, hes, rfl⟩ := enter_eq_ok_iff.1 he
  have hmem := List.mem_of_lookup_eq_some hlookup
  rw [Entered.places_all] at hmem
  obtain ⟨e, he, hplace⟩ := List.mem_flatMap.1 hmem
  obtain ⟨source', hsource', henters⟩ := hes.exists_of_mem_right (List.mem_reverse.1 he)
  obtain ⟨own, hown, _⟩ := henters.place
  rw [hown] at hplace
  obtain ⟨hid, rfl⟩ := Prod.mk.inj (List.mem_singleton.1 hplace)
  obtain rfl := hknown source h source' hsource' hid
  exact ⟨e, place, henters, hown, hlookup⟩

lemma lookup_object (he : (enter s sources).outcome = .ok entered)
    (hknown : KnownById sources) {c : ClassNode} (h : .object c ∈ sources) :
    ∃ base components, s.aliasOf c.id = .ok base ∧ s.model.components c.type = .ok components ∧
      entered.places.lookup c.id = some (.tables c.type (Entered.parts base components)) := by
  obtain ⟨e, place, henters, hplaces, hlookup⟩ := exists_enters he hknown h
  cases henters with
  | object hbase hcomponents =>
    cases hplaces
    exact ⟨_, _, hbase, hcomponents, hlookup⟩

lemma lookup_query (he : (enter s sources).outcome = .ok entered)
    (hknown : KnownById sources) {inner : Query} (h : .query inner ∈ sources) :
    ∃ base, entered.places.lookup inner.id = some (.derived base) := by
  obtain ⟨e, place, henters, hplaces, hlookup⟩ := exists_enters he hknown h
  cases henters with
  | query _ _ =>
    cases hplaces
    exact ⟨_, hlookup⟩

end

end ObjectQuery.Sql
