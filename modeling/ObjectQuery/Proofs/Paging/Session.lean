import Mathlib
import ObjectQuery.Paging.Generator
import ObjectQuery.Proofs.Model.Accepted
import ObjectQuery.Proofs.Paging.OffsetCache
import ObjectQuery.Proofs.Query.Edit

/-!
# Sessions

A session is a sequence of edits of one query, of pages served and of offsets registered by any
generators. The statements kept for the query are sound in every state of a session: they were
compiled for one model and platform from the query as it stands, the one at offset 0 without a
start to seek and each other one to seek a value registered for its offset since the last edit
(`statements_sound`). So no page shows a statement of an earlier form of the query or of another
generator.
-/

namespace ObjectQuery

/-- What can happen to a query and its statements. -/
inductive Action where
  | edit (e : Edit)
  | page (g : Generator) (start : Nat) (limit : Option Nat)
  | register (g : Generator) (start : Nat) (value : Value)

namespace Action

/-- Whether the action changes the query. -/
def isEdit : Action → Bool
  | .edit _ => true
  | _ => false

/-- The generator that acts. -/
def generator? : Action → Option Generator
  | .edit _ => none
  | .page g _ _ => some g
  | .register g _ _ => some g

/-- The query after the action: only an edit changes it. -/
def change (q : Query) : Action → Query
  | .edit e => e.apply q
  | _ => q

/-- The query and its statements after the action. -/
def run (q : PagedQuery) : Action → PagedQuery
  | .edit e => q.edit e.apply
  | .page g start limit => (g.page q start limit).1
  | .register g start value => (g.register q start value).1

/-- Registering an offset leaves the query. -/
lemma query_register (g : Generator) (q : PagedQuery) (start : Nat) (value : Value) :
    (g.register q start value).1.query = q.query := by
  unfold Generator.register
  cases q.query.seekKey? <;> rfl

/-- The query is as the action changes it. -/
lemma query_run (q : PagedQuery) (a : Action) : (a.run q).query = a.change q.query := by
  cases a with
  | edit e => rfl
  | page g start limit => rfl
  | register g start value => exact query_register g q start value

end Action

/-- Actions one after the other. -/
abbrev Session := List Action

namespace Session

/-- The query and its statements after the session. -/
def run (q : PagedQuery) (actions : Session) : PagedQuery :=
  actions.foldl Action.run q

/-- The query with the edits of the session made. -/
def edited (q : Query) (actions : Session) : Query :=
  actions.foldl Action.change q

/-- The generators that act. -/
def generators (actions : Session) : List Generator :=
  actions.filterMap Action.generator?

/-- The actions after the last edit. -/
def sinceEdit (actions : Session) : Session :=
  actions.rtakeWhile fun a => !a.isEdit

/-- Models with the same identity are copies of each other. -/
def IdentifiesModels (actions : Session) : Prop :=
  ∀ g ∈ actions.generators, ∀ h ∈ actions.generators,
    g.model.id = h.model.id → g.model = h.model

/-- One more action comes last. -/
@[simp] lemma run_append_singleton (q : PagedQuery) (actions : Session) (a : Action) :
    run q (actions ++ [a]) = a.run (run q actions) := by
  simp [run]

/-- The query that the session leaves has its edits made and is not changed otherwise. -/
lemma query_run (q : Query) (actions : Session) :
    (run (.ofQuery q) actions).query = edited q actions := by
  induction actions using List.reverseRecOn with
  | nil => rfl
  | append_singleton actions a ih =>
    rw [run_append_singleton, Action.query_run, ih]
    simp [edited]

/-- A call adds to the actions since the last edit. -/
lemma sinceEdit_append_call (actions : Session) {a : Action} (h : a.isEdit = false) :
    sinceEdit (actions ++ [a]) = sinceEdit actions ++ [a] :=
  List.rtakeWhile_concat_pos _ _ _ (by simp [h])

/-- Whoever acts is one of the generators. -/
lemma mem_generators {actions : Session} {a : Action} {g : Generator} (ha : a ∈ actions)
    (hg : a.generator? = some g) : g ∈ actions.generators :=
  List.mem_filterMap.2 ⟨a, ha, hg⟩

/-- The generators of the first actions are among the generators of them all. -/
lemma mem_generators_append {actions : Session} {g : Generator} (h : g ∈ actions.generators)
    (more : Session) : g ∈ generators (actions ++ more) := by
  unfold generators at h ⊢
  rw [List.filterMap_append]
  exact List.mem_append_left _ h

end Session

/-- What a statement kept for an offset was compiled from: the query alone for offset 0, and else
the query beyond a value that a call registered for the offset under the same key. -/
inductive Kept (m : Model) (p : Platform) (calls : Session) (q : Query) : Nat → Sql.Statement → Prop
  | plain {s : Sql.Statement} :
    (Sql.compile m p .whole none q).outcome = .ok s →
    Kept m p calls q 0 s
  | beyond {n : Nat} {s : Sql.Statement} {g : Generator} {key : Expr} {value : Value} :
    0 < n →
    .register g n value ∈ calls →
    g.key = ⟨p, m.id⟩ →
    q.seekKey? = some key →
    (Sql.compile m p .whole (some ⟨key, value⟩) q).outcome = .ok s →
    Kept m p calls q n s

namespace Kept

variable {m : Model} {p : Platform} {calls : Session} {q : Query} {n : Nat} {s : Sql.Statement}

/-- More calls leave what the kept statements were compiled from. -/
lemma append (h : Kept m p calls q n s) (a : Action) : Kept m p (calls ++ [a]) q n s := by
  cases h with
  | plain h => exact .plain h
  | beyond hn hmem hg hkey h => exact .beyond hn (List.mem_append_left _ hmem) hg hkey h

end Kept

namespace Session

/-- Each statement belongs to a generator that acts and has the key of them all. -/
def Owned (actions : Session) (c : OffsetCache Sql.Statement) (q : Query) : Prop :=
  ∀ e ∈ c.entries.entries, ∃ g ∈ actions.generators,
    c.key = some g.key ∧ Kept g.model g.platform actions.sinceEdit q e.1 e.2

variable {actions : Session} {c : OffsetCache Sql.Statement} {q : Query}

/-- A call disowns nothing. -/
lemma Owned.call (h : Owned actions c q) {a : Action} (ha : a.isEdit = false) :
    Owned (actions ++ [a]) c q := by
  intro e he
  obtain ⟨g, hg, hkey, hkept⟩ := h e he
  refine ⟨g, mem_generators_append hg [a], hkey, ?_⟩
  rw [sinceEdit_append_call actions ha]
  exact hkept.append a

/-- What is left under a key stays owned. -/
lemma Owned.underKey (h : Owned actions c q) (key : CacheKey) :
    Owned actions (c.underKey key).1 q := by
  intro e he
  obtain ⟨hkey, he⟩ := OffsetCache.mem_of_mem_underKey he
  obtain ⟨g, hg, hgkey, hkept⟩ := h e he
  refine ⟨g, hg, ?_, hkept⟩
  rw [OffsetCache.key_underKey, ← hkey, hgkey]

/-- A generator with the key of the statements can add one of its own. -/
lemma Owned.keep (h : Owned actions c q) {g : Generator} {n : Nat} {s : Sql.Statement}
    (hg : g ∈ actions.generators) (hkey : c.key = some g.key)
    (hs : Kept g.model g.platform actions.sinceEdit q n s) : Owned actions (c.keep n s) q := by
  intro e he
  rcases OffsetCache.mem_keep.1 he with rfl | ⟨he, _⟩
  · exact ⟨g, hg, hkey, hs⟩
  · exact h e he

/-- Serving a page keeps the statements owned. -/
lemma Owned.page {q : PagedQuery} (h : Owned actions q.cache q.query) (g : Generator) (start : Nat)
    (limit : Option Nat) :
    Owned (actions ++ [.page g start limit]) (g.page q start limit).1.cache q.query := by
  have left := (h.call (a := .page g start limit) rfl).underKey g.key
  change Owned _ (q.cache.serve g.key start limit (g.compile none q.query)).1 _
  rcases OffsetCache.serve_cases q.cache g.key start limit (g.compile none q.query) with
    ⟨_, _, _, hcache, _⟩ | ⟨s, _, hs, hcache, _⟩ | ⟨_, _, _, hcache, _⟩
  · rw [hcache]
    exact left
  · rw [hcache]
    apply left.keep (mem_generators (List.mem_concat_self) rfl)
    · exact OffsetCache.key_underKey q.cache g.key
    · exact .plain hs
  · rw [hcache]
    exact left

/-- Registering an offset keeps the statements owned. -/
lemma Owned.register {q : PagedQuery} (h : Owned actions q.cache q.query) (g : Generator)
    (start : Nat) (value : Value) :
    Owned (actions ++ [.register g start value]) (g.register q start value).1.cache q.query := by
  have all := h.call (a := .register g start value) rfl
  have left := all.underKey g.key
  unfold Generator.register
  cases hseek : q.query.seekKey? with
  | none => exact all
  | some key =>
    change Owned _ (q.cache.register g.key start g.tolerance Sql.Statement.text
      (g.compile (some ⟨key, value⟩) q.query)).1 _
    rcases OffsetCache.register_cases q.cache g.key start g.tolerance Sql.Statement.text
      (g.compile (some ⟨key, value⟩) q.query) with
      ⟨_, hcache⟩ | ⟨_, _, hcache⟩ | ⟨s, hpos, _, hs, hcache⟩ | ⟨_, _, _, hcache⟩
    · rw [hcache]
      exact all
    · rw [hcache]
      exact left
    · rw [hcache]
      apply left.keep (mem_generators (List.mem_concat_self) rfl)
      · exact OffsetCache.key_underKey q.cache g.key
      · refine .beyond (g := g) hpos ?_ rfl hseek hs
        rw [sinceEdit_append_call actions rfl]
        exact List.mem_append_right _ (List.mem_singleton_self _)
    · rw [hcache]
      exact left

/-- Every session of a query without statements keeps the statements owned. -/
lemma owned_run (q : Query) (actions : Session) :
    Owned actions (run (.ofQuery q) actions).cache (run (.ofQuery q) actions).query := by
  induction actions using List.reverseRecOn with
  | nil => exact fun e he => by cases he
  | append_singleton actions a ih =>
    rw [run_append_singleton]
    cases a with
    | edit e =>
      -- an edit drops all statements, so there is none to own
      exact fun _ he => by cases he
    | page g start limit => exact ih.page g start limit
    | register g start value =>
      rw [Action.query_run]
      exact ih.register g start value

/-- Generators with the same key have the same model and platform. -/
lemma IdentifiesModels.eq_of_key (ids : actions.IdentifiesModels) {g h : Generator}
    (hg : g ∈ actions.generators) (hh : h ∈ actions.generators) (hkey : g.key = h.key) :
    g.model = h.model ∧ g.platform = h.platform := by
  obtain ⟨hplatform, hid⟩ := CacheKey.mk.inj hkey
  exact ⟨ids g hg h hh hid, hplatform⟩

/-- A page that is answered shows a statement compiled for the generator, if those kept under its
key are. -/
lemma kept_of_page {q : PagedQuery} (h : Owned actions q.cache q.query) {g : Generator}
    (same : ∀ g' ∈ actions.generators, g'.key = g.key →
      g'.model = g.model ∧ g'.platform = g.platform)
    {start : Nat} {limit : Option Nat} {page : Page Sql.Statement}
    (hpage : (g.page q start limit).2.outcome = .ok page) :
    page.limit = limit ∧ ∃ n ≤ start, page.skip = start - n ∧
      Kept g.model g.platform actions.sinceEdit q.query n page.body := by
  change (q.cache.serve g.key start limit (g.compile none q.query)).2.outcome = .ok page at hpage
  rcases OffsetCache.serve_cases q.cache g.key start limit (g.compile none q.query) with
    ⟨n, s, hfloor, _, hout⟩ | ⟨s, _, hs, _, hout⟩ | ⟨_, _, _, _, hout⟩
  · -- the statement was kept under the key of the generator, so its owner has the same model
    rw [hout] at hpage
    cases hpage
    obtain ⟨hmem, hle⟩ := SortedMap.mem_of_floor?_eq_some hfloor
    obtain ⟨owner, howner, hkey, hkept⟩ := h.underKey g.key _ hmem
    rw [OffsetCache.key_underKey] at hkey
    obtain ⟨hmodel, hplatform⟩ := same owner howner (Option.some.inj hkey).symm
    rw [hmodel, hplatform] at hkept
    exact ⟨rfl, n, Nat.isLE_compare.1 hle, rfl, hkept⟩
  · rw [hout] at hpage
    cases hpage
    exact ⟨rfl, 0, Nat.zero_le start, rfl, .plain hs⟩
  · rw [hout] at hpage
    cases hpage

/-- In every state that a session reaches, the statements kept were compiled for one model and
platform from the query as it is edited by then, without a start to seek or to seek a value
registered under that key since the last edit. So every page that a generator answers on the way
shows a statement compiled for its own model and platform from the query of that moment. -/
theorem statements_sound (q : Query) (actions : Session) (ids : actions.IdentifiesModels) :
    (∃ m p, ∀ n s, (run (.ofQuery q) actions).cache.entries.get? n = some s →
      Kept m p actions.sinceEdit (edited q actions) n s) ∧
    ∀ before g start limit after page, actions = before ++ .page g start limit :: after →
      (g.page (run (.ofQuery q) before) start limit).2.outcome = .ok page →
      page.limit = limit ∧ ∃ n ≤ start, page.skip = start - n ∧
        Kept g.model g.platform (sinceEdit before) (edited q before) n page.body := by
  constructor
  · have howned := owned_run q actions
    rw [query_run] at howned
    by_cases hempty : (run (.ofQuery q) actions).cache.entries.entries = []
    · -- no statement is kept, and any model will do
      refine ⟨⟨⟨0⟩, "", .empty⟩, .standard, fun n s hs => ?_⟩
      rw [SortedMap.get?_eq_some_iff, hempty] at hs
      cases hs
    · obtain ⟨e, he⟩ := List.exists_mem_of_ne_nil _ hempty
      obtain ⟨g, hg, hkey, _⟩ := howned e he
      refine ⟨g.model, g.platform, fun n s hs => ?_⟩
      obtain ⟨g', hg', hkey', hkept⟩ := howned (n, s) (SortedMap.get?_eq_some_iff.1 hs)
      have heq : g'.key = g.key := Option.some.inj (hkey'.symm.trans hkey)
      obtain ⟨hmodel, hplatform⟩ := ids.eq_of_key hg' hg heq
      rw [hmodel, hplatform] at hkept
      exact hkept
  · rintro before g start limit after page rfl hpage
    have hpage := kept_of_page (owned_run q before) ?_ hpage
    · rw [query_run] at hpage
      exact hpage
    · intro g' hg' hkey
      apply ids.eq_of_key (mem_generators_append hg' _) ?_ hkey
      exact mem_generators (List.mem_append_right _ List.mem_cons_self) rfl

end Session

namespace Sample

/-- Pages and offsets of the employees on two platforms, with an edit and, before it, a generator
whose model lacks the class. -/
def session : Session :=
  [.page ⟨company, .postgreSQL, 10⟩ 5 none,
    .register ⟨company, .postgreSQL, 10⟩ 20 (.int 7),
    .page ⟨⟨⟨1⟩, "empty", .empty⟩, .sqlite, 10⟩ 0 none,
    .edit (.setDistinct true),
    .page ⟨company, .mySQL, 10⟩ 0 (some 10),
    .register ⟨company, .mySQL, 3⟩ 12 (.int 4)]

/-- The two models of the session differ in their identities. -/
lemma identifiesModels_session : session.IdentifiesModels := by
  have models : ∀ g ∈ session.generators, g.model = company ∨ g.model = ⟨⟨1⟩, "empty", .empty⟩ := by
    intro g hg
    simp only [session, Session.generators, Action.generator?, List.filterMap_cons,
      List.filterMap_nil, List.mem_cons, List.not_mem_nil, or_false] at hg
    rcases hg with rfl | rfl | rfl | rfl | rfl <;> simp
  have id : company.id = ⟨0⟩ := by decide +kernel
  intro g hg h hh hid
  rcases models g hg with eg | eg <;> rcases models h hh with eh | eh
  · rw [eg, eh]
  · rw [eg, eh, id] at hid
    cases hid
  · rw [eg, eh, id] at hid
    cases hid
  · rw [eg, eh]

end Sample

/-- The two statements that the sample session leaves are sound. -/
theorem statements_sound_session :
    Sample.session.IdentifiesModels ∧
    (Session.run (.ofQuery Sample.employees) Sample.session).offsets = [0, 12] ∧
    ∃ m p, ∀ n s,
      (Session.run (.ofQuery Sample.employees) Sample.session).cache.entries.get? n = some s →
      Kept m p (Session.sinceEdit Sample.session) (Session.edited Sample.employees Sample.session)
        n s :=
  ⟨Sample.identifiesModels_session, by decide +kernel,
    (Session.statements_sound Sample.employees Sample.session Sample.identifiesModels_session).1⟩

end ObjectQuery
