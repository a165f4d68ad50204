import Mathlib
import ObjectQuery.Proofs.Paging.Session
import ObjectQuery.Proofs.Sql.Aggregates

/-!
# Aggregates in the conditions of pages

A start is sought by the first key of the order, whatever it is. If the key has an aggregate, every
page from an offset that was registered has one in its conditions, where SQL allows none, while the
same page from the plain statement has not (`page_testsAggregate_iff`). So registering an offset
breaks the later pages of a query that is ordered by an aggregate first.
-/

namespace ObjectQuery

namespace Session

/-- A page on the way of a session shows a statement compiled for its generator. -/
lemma kept_of_run {q : Query} {actions : Session} (ids : actions.IdentifiesModels)
    {before after : Session} {g : Generator} {start : Nat} {limit : Option Nat}
    {page : Page Sql.Statement} (hactions : actions = before ++ .page g start limit :: after)
    (hpage : (g.page (run (.ofQuery q) before) start limit).2.outcome = .ok page) :
    ∃ n ≤ start, page.skip = start - n ∧
      Kept g.model g.platform (sinceEdit before) (edited q before) n page.body := by
  subst hactions
  have hg : g ∈ generators (before ++ .page g start limit :: after) :=
    mem_generators (List.mem_append_right before List.mem_cons_self) rfl
  have hpage := kept_of_page (owned_run q before)
    (fun g' hg' hkey => ids.eq_of_key (mem_generators_append hg' _) hg hkey) hpage
  rw [query_run] at hpage
  exact hpage.2

/-- A page that a session answers has an aggregate in its conditions if and only if a test of the
query of that moment asks for one, or if the page starts from an offset that was registered and the
first key of the order has one. -/
theorem page_testsAggregate_iff {q : Query} {actions : Session} (ids : actions.IdentifiesModels)
    {before after : Session} {g : Generator} {start : Nat} {limit : Option Nat}
    {page : Page Sql.Statement} (hactions : actions = before ++ .page g start limit :: after)
    (hpage : (g.page (run (.ofQuery q) before) start limit).2.outcome = .ok page) :
    page.body.testsAggregate = true ↔
      (edited q before).testsAggregate g.model = true ∨
        (page.skip < start ∧ ∃ key ∈ (edited q before).seekKey?, key.hasAggregate = true) := by
  obtain ⟨n, hn, hskip, hkept⟩ := kept_of_run ids hactions hpage
  cases hkept with
  | plain hcompile =>
    rw [Sql.testsAggregate_compile hcompile]
    refine ⟨.inl, fun h => h.resolve_right fun ⟨hlt, _⟩ => ?_⟩
    rw [hskip] at hlt
    exact lt_irrefl _ hlt
  | @beyond n _ _ key _ hpos _ _ hkey hcompile =>
    have hlt : page.skip < start := by omega
    rw [Sql.testsAggregate_compile_seek hcompile, Bool.or_eq_true, hkey]
    refine or_congr_right ⟨fun h => ⟨hlt, key, rfl, h⟩, ?_⟩
    rintro ⟨_, _, ⟨⟩, h⟩
    exact h

end Session

namespace Sample

/-- How many employees have each name, the rarest name first. -/
def tally : Query :=
  [.addSource (.object employee),
    .addSelect (.expr (.column ⟨employee.id, false, "name", none, .string⟩)),
    .addSelect (.expr .count),
    .addGroupBy (.expr (.column ⟨employee.id, false, "name", none, .string⟩)),
    .addOrderBy (.expr .count)].foldl Edit.apply (.empty ⟨8⟩)

/-- Serves the pages of the company. -/
def clerk : Generator :=
  ⟨company, .postgreSQL, Generator.standardTolerance⟩

/-- The fifth name is had by three employees, and the page behind it is asked for. -/
def tallied : Session :=
  [.register clerk 5 (.int 3), .page clerk 5 none]

lemma identifiesModels_tallied : tallied.IdentifiesModels := by
  have hclerk : ∀ g ∈ tallied.generators, g = clerk := by
    rintro g (_ | ⟨_, _ | ⟨_, ⟨⟩⟩⟩) <;> rfl
  intro g hg g' hg' _
  rw [hclerk g hg, hclerk g' hg']

lemma exists_page_tally : ∃ page,
    (clerk.page (Session.run (.ofQuery tally) [.register clerk 5 (.int 3)]) 5 none).2.outcome =
      .ok page ∧
    (page.skip, page.body.testsAggregate, page.text) = (0, true,
      "SELECT a1_.name AS a2_, COUNT(*) AS a3_ FROM Employee AS a1_ WHERE COUNT(*) > 3 " ++
        "GROUP BY a1_.name ORDER BY COUNT(*), a1_.name, COUNT(*)") :=
  Except.exists_of_toOption (by decide +kernel)

end Sample

/-- The tally tests nothing and still gets a page that tests its count. -/
theorem page_tests_count :
    Sample.company.Accepted ∧ Sample.tally.constraint = none ∧
    ∃ page, (Sample.clerk.page (Session.run (.ofQuery Sample.tally)
        [.register Sample.clerk 5 (.int 3)]) 5 none).2.outcome = .ok page ∧
      page.body.testsAggregate = true ∧
      page.text = "SELECT a1_.name AS a2_, COUNT(*) AS a3_ FROM Employee AS a1_ " ++
        "WHERE COUNT(*) > 3 GROUP BY a1_.name ORDER BY COUNT(*), a1_.name, COUNT(*)" := by
  obtain ⟨page, hpage, hview⟩ := Sample.exists_page_tally
  obtain ⟨_, hview⟩ := Prod.mk.inj hview
  obtain ⟨htests, htext⟩ := Prod.mk.inj hview
  exact ⟨Sample.accepted_company, rfl, page, hpage, htests, htext⟩

/-- The page of the tally tests the count because it is served from the offset that was
registered. -/
theorem page_testsAggregate_iff_tally :
    Sample.tallied.IdentifiesModels ∧
    Sample.tallied = [.register Sample.clerk 5 (.int 3)] ++ .page Sample.clerk 5 none :: [] ∧
    ∃ page, (Sample.clerk.page (Session.run (.ofQuery Sample.tally)
        [.register Sample.clerk 5 (.int 3)]) 5 none).2.outcome = .ok page ∧
      (page.body.testsAggregate = true ↔ Sample.tally.testsAggregate Sample.company = true ∨
        (page.skip < 5 ∧ ∃ key ∈ Sample.tally.seekKey?, key.hasAggregate = true)) := by
  obtain ⟨page, hpage, _⟩ := Sample.exists_page_tally
  exact ⟨Sample.identifiesModels_tallied, rfl, page, hpage,
    Session.page_testsAggregate_iff Sample.identifiesModels_tallied rfl hpage⟩

end ObjectQuery
