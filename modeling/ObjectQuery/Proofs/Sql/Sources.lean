import Mathlib
import ObjectQuery.Proofs.Model.Declarations
import ObjectQuery.Proofs.Sql.Compilation

/-!
# Places of sources

Entering the sources of a query makes one place for each of them, under the alias that the query
gives it. The identity of a source is read from its first table, which has the alias of the source,
so the identity as a column and the identity as the class of a term are one.
-/

namespace ObjectQuery.Sql

lemma aliasOf_eq_ok_iff {s : Scope} {n : NodeId} {a : String} :
    s.aliasOf n = .ok a ↔ s.aliases.lookup n = some a := by
  unfold Scope.aliasOf
  split
  · rename_i b hb
    rw [hb, Except.ok.injEq, Option.some.injEq]
  · rename_i hnone
    simp [hnone]

/-- A place that entering a source makes: a derived table under the alias of the source, or the
tables of the components of its type. -/
inductive Placed (s : Scope) (n : NodeId) : Place → Prop where
  | derived {base : String} :
    s.aliasOf n = .ok base →
    Placed s n (.derived base)
  | tables {base : String} {type : ClassType} {components : List PersistentClass} :
    s.aliasOf n = .ok base →
    s.model.components type = .ok components →
    Placed s n (.tables type (Entered.parts base components))

/-- Entering a source makes one place, its own. -/
lemma places_enterSource {s : Scope} {source : Source} {entered : Entered}
    (h : (enterSource s source).outcome = .ok entered) :
    ∃ place, entered.places = [(source.id, place)] ∧ Placed s source.id place := by
  cases source with
  | object c =>
    simp only [enterSource, Entered.ofClass, Traced.outcome_liftM, Except.bind_eq_ok] at h
    obtain ⟨base, hbase, components, hcomponents, h⟩ := h
    cases h
    exact ⟨_, rfl, .tables hbase hcomponents⟩
  | query q =>
    simp only [enterSource, Traced.outcome_bind, Traced.outcome_liftM, Except.bind_eq_ok] at h
    obtain ⟨base, hbase, statement, _, h⟩ := h
    cases h
    exact ⟨_, rfl, .derived hbase⟩

/-- Sources are entered one after the other. -/
lemma enter_cons_eq_ok_iff {s : Scope} {source : Source} {sources : List Source}
    {entered : Entered} :
    (enter s (source :: sources)).outcome = .ok entered ↔
    ∃ first rest, (enterSource s source).outcome = .ok first ∧
      (enter s sources).outcome = .ok rest ∧ entered = first.append rest := by
  simp only [enter, Traced.outcome_bind, Traced.outcome_pure, Except.bind_eq_ok]
  constructor
  · rintro ⟨first, hfirst, rest, hrest, h⟩
    cases h
    exact ⟨first, rest, hfirst, hrest, rfl⟩
  · rintro ⟨first, rest, hfirst, hrest, rfl⟩
    exact ⟨first, hfirst, rest, hrest, rfl⟩

/-- Entering the sources makes a place for each, the latest source first. -/
lemma places_enter {s : Scope} {sources : List Source} {entered : Entered}
    (h : (enter s sources).outcome = .ok entered) :
    entered.places.map Prod.fst = (sources.map Source.id).reverse ∧
    ∀ x ∈ entered.places, Placed s x.1 x.2 := by
  induction sources generalizing entered with
  | nil =>
    cases h
    exact ⟨rfl, fun x hx => by cases hx⟩
  | cons source sources ih =>
    obtain ⟨first, rest, hfirst, hrest, rfl⟩ := enter_cons_eq_ok_iff.1 h
    obtain ⟨place, hplace, hplaced⟩ := places_enterSource hfirst
    obtain ⟨hkeys, hrest⟩ := ih hrest
    constructor
    · simp [Entered.append, hplace, hkeys]
    · intro x hx
      rcases List.mem_append.1 hx with hx | hx
      · exact hrest x hx
      · rw [hplace] at hx
        obtain rfl := List.mem_singleton.1 hx
        exact hplaced

/-- Every source has a place. -/
lemma lookup_places {s : Scope} {sources : List Source} {entered : Entered}
    (h : (enter s sources).outcome = .ok entered) {n : NodeId} (hn : n ∈ sources.map Source.id) :
    ∃ place, entered.places.lookup n = some place ∧ Placed s n place := by
  obtain ⟨hkeys, hplaced⟩ := places_enter h
  cases hlookup : entered.places.lookup n with
  | none =>
    have hmem : n ∈ entered.places.map Prod.fst := by
      rw [hkeys]
      exact List.mem_reverse.2 hn
    obtain ⟨x, hx, rfl⟩ := List.mem_map.1 hmem
    have hne := List.lookup_eq_none_iff.1 hlookup x hx
    simp at hne
  | some place =>
    exact ⟨place, rfl, hplaced (n, place) (List.mem_of_lookup_eq_some hlookup)⟩

/-- The classes that a type names are classes of the model, and there is one. -/
lemma exists_of_components {m : Model} {t : ClassType} {components : List PersistentClass}
    (h : m.components t = .ok components) :
    ∃ first rest name, components = first :: rest ∧ m.class? name = some first := by
  have hall := Except.mapM_eq_ok_iff.1 h
  cases hnames : t.names with
  | nil => exact absurd hnames t.ne_nil
  | cons name names =>
    rw [hnames] at hall
    obtain ⟨first, rest, hfirst, _, rfl⟩ := List.forall₂_cons_left_iff.1 hall
    refine ⟨first, rest, name, rfl, ?_⟩
    cases hclass : m.class? name with
    | none => simp [hclass] at hfirst
    | some c =>
      simp only [hclass, Except.ok.injEq] at hfirst
      rw [hfirst]

/-- In an accepted model the identity of a source is read under the alias of the source. -/
lemma tableOf_identityName {s : Scope} (hm : s.model.Accepted) {sources : List Source}
    {entered : Entered} (h : (enter s sources).outcome = .ok entered) {n : NodeId}
    (hn : n ∈ sources.map Source.id) {base : String} (hbase : s.aliasOf n = .ok base) :
    (s.enteredWith entered).tableOf n Field.identityName = .ok base := by
  obtain ⟨place, hlookup, hplaced⟩ := lookup_places h hn
  have hlookup : (s.enteredWith entered).places.lookup n = some place := hlookup
  unfold Scope.tableOf
  rw [hlookup]
  cases hplaced with
  | @derived base' hbase' =>
    obtain rfl := Except.ok.inj (hbase'.symm.trans hbase)
    rfl
  | @tables base' type components hbase' hcomponents =>
    obtain rfl := Except.ok.inj (hbase'.symm.trans hbase)
    obtain ⟨first, rest, name, rfl, hclass⟩ := exists_of_components hcomponents
    have hfield := hm.hasField_identityName hclass
    simp [Entered.parts, Entered.partAlias, List.zipIdx_cons, hfield]

/-- The identity of a class that is a source, as a column, is its identity as a term. -/
lemma term_identityOf {s : Scope} (hm : s.model.Accepted) {sources : List Source}
    {entered : Entered} (h : (enter s sources).outcome = .ok entered) {c : ClassNode}
    (hc : c.id ∈ sources.map Source.id) {t : Term} (ht : s.identity c = .ok t) :
    (s.enteredWith entered).term (.column (.identityOf c)) = .ok t := by
  obtain ⟨base, hbase, ht⟩ := Except.bind_eq_ok.1 ht
  cases ht
  have htable := tableOf_identityName hm h hc hbase
  have hname : Naming.sqlName Field.identityName = Field.identityName := by
    decide +kernel
  simp only [Scope.term, Scope.column, Column.identityOf, htable, hname]
  rfl

end ObjectQuery.Sql
