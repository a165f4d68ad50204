import Mathlib
import ObjectQuery.Paging.Generator
import ObjectQuery.Proofs.Query.Edit
import ObjectQuery.Proofs.Sql.Clauses
import ObjectQuery.Proofs.Sql.Ordering
import ObjectQuery.Proofs.Sql.Sources

/-!
# Statements that seek a start

The statement of a query beyond a key differs from that of the query alone in one last condition,
which compares the first term of the order with the key (`seek_adds_condition`). The key is found by
a walk of its own, over the nodes of the query and not over the terms of the statement; the two
agree because the first node that is no literal gives the first term, and because the identity of a
class reads the same as a column and as a term.
-/

namespace ObjectQuery

namespace Query

/-- The first key is that of the first node that is no literal. -/
lemma seekKey?_eq (q : Query) :
    q.seekKey? =
      ((Sql.Ordering.nodes q.orderBy q.select).filter fun n => !n.isValue).head?.map sortKey := by
  unfold seekKey?
  rw [List.head?_filter]

end Query

namespace Sql

/-- In a built query that selects from its sources only, the key of a node reads as its term. -/
lemma term_sortKey {m : Model} (hm : m.Accepted) {p : Platform} {q : Query} (hq : q.Built)
    (hs : q.SelectsSources) {entered : Entered}
    (hentered : (enter (.ofQuery m p q) q.sources).outcome = .ok entered) {n : Node} {t : Term}
    (ht : ((Scope.ofQuery m p q).enteredWith entered).nodeTerm n = .ok t) :
    ((Scope.ofQuery m p q).enteredWith entered).term (Query.sortKey n) = .ok t := by
  cases n with
  | expr e => exact ht
  | object c =>
    have hc : q.HasSource c.id := by
      obtain ⟨base, hbase, _⟩ := Except.bind_eq_ok.1 ht
      cases hlookup : q.aliases.lookup c.id with
      | none =>
        have hnone :
            (Scope.ofQuery m p q).aliasOf c.id = .error (.misuse (.noAlias c.id q.id)) := by
          simp [Scope.aliasOf, Scope.ofQuery, hlookup]
        rw [Scope.aliasOf_enteredWith, hnone] at hbase
        cases hbase
      | some base => exact hq.hasSource_of_lookup hs hlookup
    exact term_identityOf (s := .ofQuery m p q) hm hentered hc ht

/-- A statement that compiles is ordered by the terms of the nodes of the query, literals apart. -/
lemma orderBy_of_compile {m : Model} {p : Platform} {seek : Option Seek} {q : Query}
    {st : Statement} {entered : Entered} (h : (compile m p .whole seek q).outcome = .ok st)
    (hentered : (enter (.ofQuery m p q) q.sources).outcome = .ok entered) :
    List.Forall₂ (fun n t => ((Scope.ofQuery m p q).enteredWith entered).nodeTerm n = .ok t)
      ((Ordering.nodes q.orderBy q.select).filter fun n => !n.isValue) st.orderBy := by
  obtain ⟨entered', conditions, links, seekConditions, hentered', _, _, hst⟩ :=
    compile_eq_ok_iff.1 h
  obtain rfl : entered' = entered := Except.ok.inj (hentered'.symm.trans hentered)
  obtain ⟨order, columns, groupBy, horder, _, _, rfl⟩ := assemble_eq_ok_iff.1 hst
  exact Ordering.terms_ofNodes horder

/-- If a built query that selects from its sources only compiles, and a value has a literal, then
the query compiles beyond the value of its first key. Its statement has one more condition, the last
one: the first term of the order is greater than the literal. In the text only the condition
differs. A query without a key has no order. -/
theorem seek_adds_condition {m : Model} (hm : m.Accepted) {p : Platform} {q : Query}
    (hq : q.Built) (hs : q.SelectsSources) {plain : Statement}
    (hplain : (compile m p .whole none q).outcome = .ok plain) {value : Value} {literal : String}
    (hliteral : p.literal value = .ok literal) :
    (∀ key, q.seekKey? = some key → ∃ first rest beyond,
      plain.orderBy = first :: rest ∧
      (compile m p .whole (some ⟨key, value⟩) q).outcome = .ok beyond ∧
      beyond = { plain with
        conditions := plain.conditions ++ [.compare first .greater (.literal literal)] } ∧
      plain.text = plain.textBefore ++ plain.textWhere ++ plain.textAfter ∧
      beyond.text = plain.textBefore ++
        (plain.textWhere ++ (if plain.conditions.isEmpty then " WHERE " else " AND ") ++
          (first.text ++ " > " ++ literal)) ++ plain.textAfter) ∧
    (q.seekKey? = none → plain.orderBy = []) := by
  obtain ⟨entered, _, _, _, hentered, _, _, _⟩ := compile_eq_ok_iff.1 hplain
  have hterms := orderBy_of_compile hplain hentered
  constructor
  · intro key hkey
    rw [Query.seekKey?_eq] at hkey
    obtain ⟨n, hn, rfl⟩ := Option.map_eq_some_iff.1 hkey
    obtain ⟨nodes, hnodes⟩ := List.head?_eq_some_iff.1 hn
    rw [hnodes] at hterms
    obtain ⟨first, rest, hfirst, _, horder⟩ := List.forall₂_cons_left_iff.1 hterms
    have hterm := term_sortKey hm hq hs hentered hfirst
    let c : Condition := .compare first .greater (.literal literal)
    refine ⟨first, rest, plain.addCondition c, horder, ?_, rfl, plain.text_eq, ?_⟩
    · exact compile_seek_eq_ok_iff.2 ⟨plain, entered, first, literal, hplain, hentered, hterm,
        hliteral, rfl⟩
    · rw [(plain.addCondition c).text_eq, Statement.textWhere_addCondition]
      have hgreater : " " ++ Comparison.greater.text ++ " " = " > " := by decide
      have hc : c.text = first.text ++ " > " ++ literal := by
        rw [← hgreater]
        simp only [c, Condition.text, Term.text, String.append_assoc]
      rw [hc]
      rfl
  · intro hkey
    rw [Query.seekKey?_eq, Option.map_eq_none_iff, List.head?_eq_none_iff] at hkey
    rw [hkey] at hterms
    exact List.forall₂_nil_left_iff.1 hterms

end Sql

namespace Sample

/-- The query for the objects in both tables is built by two edits. -/
lemma built_joined : joined.Built :=
  .edit _ (.edit _ (.empty _))

/-- The query for the objects in both tables selects from its source. -/
lemma selectsSources_joined : joined.SelectsSources := by
  rintro n ⟨item, hitem, c, hc, rfl⟩
  rw [List.mem_singleton.1 (show item ∈ [⟨.object both, "a1_"⟩] from hitem)] at hc
  cases hc
  exact List.mem_singleton_self _

/-- The query for the objects in both tables compiles. -/
lemma exists_joined : ∃ plain,
    (Sql.compile company .postgreSQL .whole none joined).outcome = .ok plain ∧
    plain.text = "SELECT a1_.OBJECT AS a1_, a1_.id AS a1_id FROM Employee AS a1_, " ++
      "Project AS a1__1 WHERE a1_.id = a1__1.id ORDER BY a1_.id" :=
  Except.exists_of_toOption (by decide +kernel)

end Sample

/-- The join of the two tables stays the first condition when a start is sought. -/
theorem seek_adds_condition_joined :
    Sample.company.Accepted ∧ Sample.joined.Built ∧ Sample.joined.SelectsSources ∧
    Platform.postgreSQL.literal (.int 7) = .ok "7" ∧
    Sample.joined.seekKey? = some (.column (.identityOf Sample.both)) ∧
    ∃ plain, (Sql.compile Sample.company .postgreSQL .whole none Sample.joined).outcome =
        .ok plain ∧
      plain.text = "SELECT a1_.OBJECT AS a1_, a1_.id AS a1_id FROM Employee AS a1_, " ++
        "Project AS a1__1 WHERE a1_.id = a1__1.id ORDER BY a1_.id" ∧
      ∃ first rest beyond,
        plain.orderBy = first :: rest ∧
        (Sql.compile Sample.company .postgreSQL .whole
          (some ⟨.column (.identityOf Sample.both), .int 7⟩) Sample.joined).outcome =
            .ok beyond ∧
        beyond = { plain with
          conditions := plain.conditions ++ [.compare first .greater (.literal "7")] } ∧
        plain.text = plain.textBefore ++ plain.textWhere ++ plain.textAfter ∧
        beyond.text = plain.textBefore ++
          (plain.textWhere ++ (if plain.conditions.isEmpty then " WHERE " else " AND ") ++
            (first.text ++ " > " ++ "7")) ++ plain.textAfter := by
  obtain ⟨plain, hplain, htext⟩ := Sample.exists_joined
  have hliteral : Platform.postgreSQL.literal (.int 7) = .ok "7" := by rfl
  refine ⟨Sample.accepted_company, Sample.built_joined, Sample.selectsSources_joined, hliteral,
    rfl, plain, hplain, htext, ?_⟩
  exact (Sql.seek_adds_condition Sample.accepted_company Sample.built_joined
    Sample.selectsSources_joined hplain hliteral).1 _ rfl

end ObjectQuery
