import Mathlib
import ObjectQuery.Proofs.Sql.Clauses
import ObjectQuery.Proofs.Sql.Factors
import ObjectQuery.Proofs.Sql.Selection
import ObjectQuery.Proofs.Text.ByteOrder

/-!
# Bags

Membership in a bag depends on the values alone that can be compared with the node. It fails if one
of them is an object that is not stored. Else it is a disjunction with one equality for each of their
literals, in the order of the bytes, or a constant if there is none (`condition_bag`).
-/

namespace ObjectQuery

/-- Only an object that is not stored has no literal. -/
lemma Platform.literal_cases (p : Platform) (v : Value) :
    (∃ l, p.literal v = .ok l) ∨
      ∃ o, v = .object o ∧ o.id = none ∧ p.literal v = .error (.objectWithoutId o.type.text) := by
  cases v with
  | object o =>
    cases hid : o.id with
    | none =>
      refine .inr ⟨o, rfl, hid, ?_⟩
      rw [literal, StoredObject.storedId, hid]
      rfl
    | some id =>
      refine .inl ⟨toString id.toInt, ?_⟩
      rw [literal, StoredObject.storedId, hid]
      rfl
  | null | bool | int | float | string | date | dateTime | universalTime | sql => exact .inl ⟨_, rfl⟩

namespace Sql

namespace Scope

/-- A value can be compared with a node: with a class an object of a type that is assignable to that
of the class, with an expression of a known type a value that the type accepts, and with another
expression a value that is neither null nor an object. -/
inductive Comparable (m : Model) : Node → Value → Prop where
  | object {c : ClassNode} {o : StoredObject} :
    m.isAssignable o.type c.type = true →
    Comparable m (.object c) (.object o)
  | typed {e : Expr} {t : AttributeType} {v : Value} :
    e.type? = some t →
    t.accepts v = true →
    Comparable m (.expr e) v
  | untyped {e : Expr} {v : Value} :
    e.type? = none →
    v ≠ .null →
    (∀ o, v ≠ .object o) →
    Comparable m (.expr e) v

lemma comparable_iff {m : Model} {n : Node} {v : Value} :
    comparable m n v = true ↔ Comparable m n v := by
  constructor
  · intro h
    cases n with
    | object c =>
      cases v with
      | object o => exact .object h
      | _ => cases h
    | expr e =>
      cases htype : e.type? with
      | some t =>
        simp only [comparable, htype] at h
        exact .typed htype h
      | none =>
        simp only [comparable, htype] at h
        refine .untyped htype ?_ ?_
        · rintro rfl
          cases h
        · rintro o rfl
          cases h
  · intro h
    cases h with
    | object h => exact h
    | typed htype h => simpa only [comparable, htype] using h
    | @untyped e v htype hnull hobject =>
      cases v with
      | null => exact absurd rfl hnull
      | object o => exact absurd rfl (hobject o)
      | _ => simp only [comparable, htype]

/-- The texts are the equalities of a term with the literals of the values of a bag that can be
compared with the node, each once and in the order of their bytes. -/
structure BagTexts (s : Scope) (n : Node) (left : Term) (values : List Value)
    (texts : List String) : Prop where
  ascending : texts.Pairwise fun a b => Text.bytes a < Text.bytes b
  mem_of_comparable : ∀ v ∈ values, Comparable s.model n v →
    ∃ l, s.platform.literal v = .ok l ∧ left.text ++ " = " ++ l ∈ texts
  exists_of_mem : ∀ t ∈ texts, ∃ v ∈ values, Comparable s.model n v ∧
    ∃ l, s.platform.literal v = .ok l ∧ t = left.text ++ " = " ++ l

/-- The text of membership in a bag with these equalities. -/
def bagText (op : Membership) (texts : List String) : String :=
  match op, texts with
  | .isIn, [] => "false"
  | .notIn, [] => "true"
  | .isIn, texts => "(" ++ " OR ".intercalate texts ++ ")"
  | .notIn, texts => "( NOT (" ++ " OR ".intercalate texts ++ "))"

section

variable {s : Scope} {n : Node} {left : Term} {op : Membership} {values : List Value}

/-- A bag with more comparable values has more equalities. -/
lemma BagTexts.subset {values' : List Value} {texts texts' : List String}
    (h : s.BagTexts n left values texts) (h' : s.BagTexts n left values' texts')
    (hsub : ∀ v, Comparable s.model n v → v ∈ values → v ∈ values') : texts ⊆ texts' := by
  intro t ht
  obtain ⟨v, hv, hcomparable, l, hl, rfl⟩ := h.exists_of_mem t ht
  obtain ⟨l', hl', hmem⟩ := h'.mem_of_comparable v (hsub v hcomparable hv) hcomparable
  obtain rfl := Except.ok.inj (hl.symm.trans hl')
  exact hmem

/-- Bags with the same comparable values have the same equalities. -/
lemma BagTexts.unique {values' : List Value} {texts texts' : List String}
    (h : s.BagTexts n left values texts) (h' : s.BagTexts n left values' texts')
    (hsame : ∀ v, Comparable s.model n v → (v ∈ values ↔ v ∈ values')) : texts = texts' := by
  have hsub := h.subset h' fun v hcomparable => (hsame v hcomparable).1
  have hsup := h'.subset h fun v hcomparable => (hsame v hcomparable).2
  exact Ascending.ext (Text.ascending_iff.2 h.ascending) (Text.ascending_iff.2 h'.ascending)
    fun t => ⟨fun ht => hsub ht, fun ht => hsup ht⟩

/-- If the values of a bag have literals, all comparable objects are stored. -/
lemma BagTexts.id_ne_none {texts : List String} (h : s.BagTexts n left values texts)
    {o : StoredObject} (ho : .object o ∈ values) (hcomparable : Comparable s.model n (.object o)) :
    o.id ≠ none := by
  intro hid
  obtain ⟨l, hl, _⟩ := h.mem_of_comparable _ ho hcomparable
  rw [Platform.literal, StoredObject.storedId, hid] at hl
  cases hl

/-- A bag is refused for a comparable object that is not stored. -/
lemma failsOnly_bag (hleft : s.nodeTerm n = .ok left) :
    Except.FailsOnly (fun e => ∃ o, .object o ∈ values ∧ Comparable s.model n (.object o) ∧
      o.id = none ∧ e = .objectWithoutId o.type.text) (s.bag n op values) := by
  refine .bind_of_ok hleft (.bind (.foldlM fun v hv members => .bind ?_ fun _ _ => .ok) ?_)
  · obtain ⟨hmem, hcomparable⟩ := List.mem_filter.1 hv
    rcases s.platform.literal_cases v with ⟨l, hl⟩ | ⟨o, rfl, hid, hl⟩
    · exact .of_ok hl
    · rw [hl]
      exact .error ⟨o, hmem, comparable_iff.1 hcomparable, hid, rfl⟩
  · intro members _
    split
    · exact .ok
    · exact .ok

lemma fst_bagEntry (left : Term) (l : String) :
    (bagEntry left l).1 = left.text ++ " = " ++ l := by
  have hoperator : " = " = " " ++ "=" ++ " " := rfl
  rw [hoperator]
  simp only [← String.append_assoc]
  rfl

/-- The members of a bag, in the order of their texts, are the equalities with its comparable
values. -/
lemma bagTexts_keys {members : SortedMap String Condition}
    (h : s.members left (values.filter (comparable s.model n)) = .ok members) :
    s.BagTexts n left values members.keys := by
  obtain ⟨literals, hliterals, hmem⟩ := mem_members h
  have hliterals := Except.mapM_eq_ok_iff.1 hliterals
  refine ⟨Text.ascending_iff.1 members.ascending, fun v hv hcomparable => ?_, fun t ht => ?_⟩
  · have hfilter := List.mem_filter.2 ⟨hv, comparable_iff.2 hcomparable⟩
    obtain ⟨l, hl, hliteral⟩ := hliterals.exists_of_mem_left hfilter
    refine ⟨l, hliteral, ?_⟩
    rw [← fst_bagEntry]
    exact List.mem_map_of_mem ((hmem _).2 ⟨l, hl, rfl⟩)
  · obtain ⟨e, he, rfl⟩ := List.mem_map.1 ht
    obtain ⟨l, hl, rfl⟩ := (hmem e).1 he
    obtain ⟨v, hv, hliteral⟩ := hliterals.exists_of_mem_right hl
    obtain ⟨hv, hcomparable⟩ := List.mem_filter.1 hv
    exact ⟨v, hv, comparable_iff.1 hcomparable, l, hliteral, fst_bagEntry left l⟩

/-- A bag is a constant, or the disjunction of the equalities with its comparable values. -/
lemma exists_bagTexts (hleft : s.nodeTerm n = .ok left) {c : Condition}
    (h : s.bag n op values = .ok c) :
    ∃ texts, s.BagTexts n left values texts ∧ c.text = bagText op texts := by
  obtain ⟨left', hleft', h⟩ := Except.bind_eq_ok.1 h
  obtain rfl := Except.ok.inj (hleft.symm.trans hleft')
  obtain ⟨members, hmembers, h⟩ := Except.bind_eq_ok.1 h
  refine ⟨members.keys, bagTexts_keys hmembers, ?_⟩
  obtain ⟨literals, _, hmem⟩ := mem_members hmembers
  have htexts : conditionTexts members.values = members.keys := by
    rw [conditionTexts_eq_map, SortedMap.values, SortedMap.keys, List.map_map]
    refine List.map_congr_left fun e he => ?_
    obtain ⟨l, _, rfl⟩ := (hmem e).1 he
    rfl
  cases hentries : members.entries with
  | nil =>
    rw [hentries] at h
    cases h
    rw [SortedMap.keys, hentries]
    cases op <;> rfl
  | cons e entries =>
    rw [hentries] at h
    cases h
    rw [Condition.text, htexts, SortedMap.keys, hentries]
    cases op <;> rfl

/-- A bag is refused for a comparable object that is not stored, or it has a text. -/
lemma bag_cases (hleft : s.nodeTerm n = .ok left) (op : Membership) (values : List Value) :
    (∃ o, .object o ∈ values ∧ Comparable s.model n (.object o) ∧ o.id = none ∧
      s.bag n op values = .error (.objectWithoutId o.type.text)) ∨
    ∃ c texts, s.bag n op values = .ok c ∧ s.BagTexts n left values texts ∧
      c.text = bagText op texts := by
  rcases (failsOnly_bag hleft).ok_or_error with ⟨c, hc⟩ | ⟨e, he, o, ho, hcomparable, hid, rfl⟩
  · obtain ⟨texts, htexts, htext⟩ := exists_bagTexts hleft hc
    exact .inr ⟨c, texts, hc, htexts, htext⟩
  · exact .inl ⟨o, ho, hcomparable, hid, he⟩

end

end Scope

section

variable {s : Scope} {links : List FromItem} {n : Node} {op : Membership} {values : List Value}

lemma outcome_condition_bag : (condition s links (.bag n op values)).outcome =
    (s.bag n op values).map (·, links) := by
  simp only [condition, Traced.outcome_bind, Traced.outcome_liftM, Traced.outcome_pure]
  cases s.bag n op values <;> rfl

/-- Membership in a bag is refused just if a comparable value is an object that is not stored. Else
it has no links and is made of one equality for each literal of a comparable value. So it is the
same for any bag with these comparable values. -/
theorem condition_bag {left : Term} (hleft : s.nodeTerm n = .ok left) (op : Membership)
    (values : List Value) :
    ((∃ e, (condition s links (.bag n op values)).outcome = .error e) ↔
      ∃ o, .object o ∈ values ∧ Scope.Comparable s.model n (.object o) ∧ o.id = none) ∧
    (∀ e, (condition s links (.bag n op values)).outcome = .error e →
      ∃ o, .object o ∈ values ∧ Scope.Comparable s.model n (.object o) ∧ o.id = none ∧
        e = .objectWithoutId o.type.text) ∧
    (∀ c links', (condition s links (.bag n op values)).outcome = .ok (c, links') →
      links' = links ∧
        ∃ texts, s.BagTexts n left values texts ∧ c.text = Scope.bagText op texts) ∧
    ∀ values', (∀ v, Scope.Comparable s.model n v → (v ∈ values ↔ v ∈ values')) →
      (condition s links (.bag n op values')).outcome.toOption.map (·.1.text) =
        (condition s links (.bag n op values)).outcome.toOption.map (·.1.text) := by
  simp only [outcome_condition_bag]
  rcases Scope.bag_cases hleft op values with
    ⟨o, ho, hcomparable, hid, hbag⟩ | ⟨c, texts, hbag, htexts, htext⟩
  · rw [hbag]
    refine ⟨⟨fun _ => ⟨o, ho, hcomparable, hid⟩, fun _ => ⟨_, rfl⟩⟩, ?_, nofun, ?_⟩
    · rintro _ ⟨⟩
      exact ⟨o, ho, hcomparable, hid, rfl⟩
    · intro values' hsame
      rcases Scope.bag_cases hleft op values' with ⟨_, _, _, _, hbag'⟩ | ⟨_, _, _, htexts', _⟩
      · rw [hbag']
        rfl
      · exact absurd hid (htexts'.id_ne_none ((hsame _ hcomparable).1 ho) hcomparable)
  · rw [hbag]
    refine ⟨⟨nofun, ?_⟩, nofun, ?_, ?_⟩
    · rintro ⟨o, ho, hcomparable, hid⟩
      exact absurd hid (htexts.id_ne_none ho hcomparable)
    · rintro _ _ ⟨⟩
      exact ⟨rfl, texts, htexts, htext⟩
    · intro values' hsame
      rcases Scope.bag_cases hleft op values' with
        ⟨o, ho, hcomparable, hid, _⟩ | ⟨c', texts', hbag', htexts', htext'⟩
      · exact absurd hid (htexts.id_ne_none ((hsame _ hcomparable).2 ho) hcomparable)
      · obtain rfl := htexts.unique htexts' hsame
        rw [hbag']
        exact congrArg some (htext'.trans htext.symm)

end

end Sql

namespace Sample

/-- A stored employee. -/
def storedEmployee (id : Int64) : Value :=
  .object ⟨.single "Employee", some id⟩

/-- Two employees, one of them twice, next to a project that is not stored. -/
def staffBag : List Value :=
  [storedEmployee 2, storedEmployee 1, .object ⟨.single "Project", none⟩, .null, storedEmployee 2]

end Sample

/-- The project cannot be compared with employees, so that it is not stored does not matter, and
neither does the order of the employees. -/
theorem condition_bag_staff :
    (Sql.Scope.ofQuery Sample.company .postgreSQL Sample.employees).nodeTerm
      (.object Sample.employee) = .ok (Sql.Scope.identityColumn "a1_") ∧
    (Sql.condition (.ofQuery Sample.company .postgreSQL Sample.employees) []
      (.bag (.object Sample.employee) .notIn Sample.staffBag)).outcome.toOption.map (·.1.text) =
      some "( NOT (a1_.id = 1 OR a1_.id = 2))" := by
  have hleft : (Sql.Scope.ofQuery Sample.company .postgreSQL Sample.employees).nodeTerm
      (.object Sample.employee) = .ok (Sql.Scope.identityColumn "a1_") := by
    decide +kernel
  have hpair : (Sql.condition (.ofQuery Sample.company .postgreSQL Sample.employees) []
      (.bag (.object Sample.employee) .notIn
        [Sample.storedEmployee 1, Sample.storedEmployee 2])).outcome.toOption.map (·.1.text) =
      some "( NOT (a1_.id = 1 OR a1_.id = 2))" := by
    decide +kernel
  have hkept : ∀ v ∈ Sample.staffBag,
      Sql.Scope.comparable Sample.company (.object Sample.employee) v = true →
      ∃ w ∈ [Sample.storedEmployee 1, Sample.storedEmployee 2], w = v := by
    decide +kernel
  have hadded : ∀ v ∈ [Sample.storedEmployee 1, Sample.storedEmployee 2],
      ∃ w ∈ Sample.staffBag, w = v := by
    decide +kernel
  obtain ⟨_, _, _, hsame⟩ := Sql.condition_bag hleft .notIn
    [Sample.storedEmployee 1, Sample.storedEmployee 2]
  have htext := hsame Sample.staffBag fun v hcomparable => by
    constructor
    · intro hv
      obtain ⟨_, hmem, rfl⟩ := hadded v hv
      exact hmem
    · intro hv
      obtain ⟨_, hmem, rfl⟩ := hkept v hv (Sql.Scope.comparable_iff.2 hcomparable)
      exact hmem
  exact ⟨hleft, htext.trans hpair⟩

end ObjectQuery
