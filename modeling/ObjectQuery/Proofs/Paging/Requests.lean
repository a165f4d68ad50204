import Mathlib
import ObjectQuery.Proofs.Paging.Session

/-!
# Requests for pages in any order

A page is cut from the nearest statement, or from the plain one, which is then kept for offset 0. So
a request may leave a statement more for those after it, and their answers are the same as without
it: the nearest statement stays the nearest, and the plain one is what would have been compiled
(`OffsetCache.source_ensure`). Requests for one model and platform can therefore be served in any
order (`answers_perm`).
-/

namespace ObjectQuery

namespace OffsetCache

variable {α : Type}

/-- With the plain statement there is a statement for every row. -/
lemma floor?_keep_zero_ne_none (c : OffsetCache α) (a : α) (start : Nat) :
    (c.keep 0 a).entries.floor? start ≠ none := by
  intro hnone
  have hzero : 0 ∈ (c.keep 0 a).offsets := mem_offsets_keep.2 (.inl rfl)
  exact Nat.not_lt_zero start (floor?_eq_none_iff.1 hnone 0 hzero)

/-- Once the plain statement is kept, it is there for the rows that had none, and the others keep
theirs. -/
lemma source_keep (c : OffsetCache α) (a : α) (hnew : 0 ∉ c.offsets) (start : Nat) :
    (c.keep 0 a).source start (.ok a) = c.source start (.ok a) := by
  cases hfloor : c.entries.floor? start with
  | some e =>
    obtain ⟨n, b⟩ := e
    obtain ⟨hmem, hle, hlast⟩ := floor?_eq_some_iff.1 hfloor
    have hkept : (c.keep 0 a).entries.floor? start = some (n, b) := by
      refine floor?_eq_some_iff.2
        ⟨(mem_keep_of_new hnew).2 (.inl hmem), hle, fun k hk hkle => ?_⟩
      rcases mem_offsets_keep.1 hk with rfl | hk
      · exact Nat.zero_le n
      · exact hlast k hk hkle
    rw [source, source, hkept, hfloor]
  | none =>
    have hbehind := floor?_eq_none_iff.1 hfloor
    have hkept : (c.keep 0 a).entries.floor? start = some (0, a) := by
      refine floor?_eq_some_iff.2 ⟨mem_keep.2 (.inl rfl), Nat.zero_le start, fun k hk hkle => ?_⟩
      rcases mem_offsets_keep.1 hk with rfl | hk
      · exact le_rfl
      · exact absurd (hbehind k hk) (Nat.not_lt.2 hkle)
    rw [source, source, hkept, hfloor]
    rfl

/-- What was looked for before makes no difference to where a row is looked for. -/
lemma source_ensure (c : OffsetCache α) (plain : Except Failure α) (start start' : Nat) :
    (c.ensure start plain).source start' plain = c.source start' plain := by
  rcases ensure_cases c start plain with h | ⟨a, hfloor, rfl, h⟩
  · rw [h]
  · rw [h]
    refine source_keep c a (fun hzero => ?_) start'
    exact Nat.not_lt_zero start (floor?_eq_none_iff.1 hfloor 0 hzero)

/-- With the plain statement kept, all is there. -/
lemma ensure_keep_zero (c : OffsetCache α) (a : α) (start : Nat) (plain : Except Failure α) :
    (c.keep 0 a).ensure start plain = c.keep 0 a := by
  refine (ensure_cases (c.keep 0 a) start plain).resolve_right ?_
  rintro ⟨_, hnone, _⟩
  exact floor?_keep_zero_ne_none c a start hnone

/-- The plain statement is the only one to be added, whichever row asks for it first. -/
lemma ensure_ensure_comm (c : OffsetCache α) (plain : Except Failure α) (start start' : Nat) :
    (c.ensure start plain).ensure start' plain = (c.ensure start' plain).ensure start plain := by
  rcases ensure_cases c start plain with h | ⟨a, _, rfl, h⟩
  · rcases ensure_cases c start' plain with h' | ⟨b, _, _, h'⟩
    · rw [h, h', h]
    · rw [h, h', ensure_keep_zero]
  · rcases ensure_cases c start' (.ok a) with h' | ⟨b, _, hb, h'⟩
    · rw [h, h', ensure_keep_zero, h]
    · obtain rfl : a = b := Except.ok.inj hb
      rw [h, h', ensure_keep_zero, ensure_keep_zero]

/-- After rows were looked for there are the statements from before and, if one of the rows had none,
the plain one. -/
lemma mem_foldl_ensure_iff (c : OffsetCache α) (starts : List Nat) {plain : Except Failure α}
    {n : Nat} {a : α} :
    (n, a) ∈ (starts.foldl (fun c start => c.ensure start plain) c).entries.entries ↔
      (n, a) ∈ c.entries.entries ∨
      (n = 0 ∧ (∃ start ∈ starts, ∀ k ∈ c.offsets, start < k) ∧ plain = .ok a) := by
  induction starts generalizing c with
  | nil => simp
  | cons start starts ih =>
    rw [List.foldl_cons, ih]
    rcases ensure_cases c start plain with hsame | ⟨b, hfloor, rfl, hadded⟩
    · -- nothing is added, also if there is no statement for the row, as then none was compiled
      have hfirst : (n, a) ∈ c.entries.entries ∨
          (n = 0 ∧ (∀ k ∈ c.offsets, start < k) ∧ plain = .ok a) ↔
          (n, a) ∈ c.entries.entries := by
        rw [← mem_ensure_iff, hsame]
      rw [hsame, List.exists_mem_cons_iff, ← hfirst]
      tauto
    · have hnone : ¬ ∃ start' ∈ starts, ∀ k ∈ (c.ensure start (.ok b)).offsets, start' < k := by
        rintro ⟨start', _, hbehind⟩
        rw [hadded] at hbehind
        exact Nat.not_lt_zero start' (hbehind 0 (mem_offsets_keep.2 (.inl rfl)))
      have hbehind := floor?_eq_none_iff.1 hfloor
      rw [mem_ensure_iff, List.exists_mem_cons_iff]
      tauto

end OffsetCache

/-- A request for a page from a generator that has the tolerance. -/
structure PageRequest where
  tolerance : Nat
  start : Nat
  limit : Option Nat

namespace PageRequest

variable (m : Model) (p : Platform) (q : PagedQuery)

/-- The generator that serves the request for a model and a platform. -/
def generator (r : PageRequest) : Generator :=
  ⟨m, p, r.tolerance⟩

/-- The request as a part of a session. -/
def action (r : PageRequest) : Action :=
  .page (r.generator m p) r.start r.limit

/-- The page, or the failure of its compilation. -/
def answer (r : PageRequest) : Except Failure (Page Sql.Statement) :=
  ((r.generator m p).page q r.start r.limit).2.outcome

/-- The answers to requests one after the other. -/
def answers (q : PagedQuery) : List PageRequest → List (Except Failure (Page Sql.Statement))
  | [] => []
  | r :: requests => r.answer m p q :: answers ((r.action m p).run q) requests

/-- What is compiled for a request that finds no statement: it is the same for all of them. -/
def plain (q : Query) : Except Failure Sql.Statement :=
  (Sql.compile m p .whole none q).outcome

lemma run_action (r : PageRequest) :
    (r.action m p).run q =
      ⟨q.query, (q.cache.underKey ⟨p, m.id⟩).1.ensure r.start (plain m p q.query)⟩ := by
  change PagedQuery.mk q.query (q.cache.serve _ _ _ _).1 = _
  rw [OffsetCache.fst_serve]
  rfl

lemma answer_eq (r : PageRequest) :
    r.answer m p q =
      ((q.cache.underKey ⟨p, m.id⟩).1.source r.start (plain m p q.query)).map fun e =>
        ⟨e.2, r.limit, r.start - e.1⟩ :=
  OffsetCache.outcome_serve q.cache ⟨p, m.id⟩ r.start r.limit (Sql.compile m p .whole none q.query)

/-- The statements are those of the key once a request for it was served. -/
lemma underKey_ensure (c : OffsetCache Sql.Statement) (key : CacheKey) (start : Nat)
    (compiled : Except Failure Sql.Statement) :
    (((c.underKey key).1.ensure start compiled).underKey key).1 =
      (c.underKey key).1.ensure start compiled := by
  apply OffsetCache.underKey_of_key
  rw [OffsetCache.key_ensure, OffsetCache.key_underKey]

/-- A request leaves the answers to the others. -/
lemma answer_run_action (r s : PageRequest) :
    s.answer m p ((r.action m p).run q) = s.answer m p q := by
  rw [answer_eq, answer_eq, run_action, underKey_ensure, OffsetCache.source_ensure]

/-- Two requests leave the same statements in both orders. -/
lemma run_action_comm (r s : PageRequest) :
    (s.action m p).run ((r.action m p).run q) = (r.action m p).run ((s.action m p).run q) := by
  simp only [run_action, underKey_ensure]
  rw [OffsetCache.ensure_ensure_comm]

/-- Every request is answered as if it came first. -/
lemma answers_eq_map (q : PagedQuery) (requests : List PageRequest) :
    answers m p q requests = requests.map (answer m p q) := by
  induction requests generalizing q with
  | nil => rfl
  | cons r requests ih =>
    rw [answers, ih, List.map_cons]
    congr 1
    exact List.map_congr_left fun s _ => answer_run_action m p q r s

lemma run_eq_of_perm {order requests : List PageRequest} (h : order.Perm requests) :
    Session.run q (order.map (action m p)) = Session.run q (requests.map (action m p)) := by
  unfold Session.run
  rw [List.foldl_map, List.foldl_map]
  exact h.foldl_eq' (fun r _ s _ q => run_action_comm m p q r s) q

/-- The statements of the key are those that the search for the first rows leaves. -/
lemma underKey_run (q : PagedQuery) (requests : List PageRequest) :
    ((Session.run q (requests.map (action m p))).cache.underKey ⟨p, m.id⟩).1 =
      (requests.map start).foldl (fun c start => c.ensure start (plain m p q.query))
        (q.cache.underKey ⟨p, m.id⟩).1 := by
  induction requests generalizing q with
  | nil => rfl
  | cons r requests ih =>
    rw [List.map_cons, List.map_cons, List.foldl_cons]
    refine (ih ((r.action m p).run q)).trans ?_
    rw [run_action, underKey_ensure]

/-- After requests there are the statements of the key from before, and the plain one if one of the
requests found none. -/
lemma get?_run (requests : List PageRequest) {n : Nat} {s : Sql.Statement} :
    ((Session.run q (requests.map (action m p))).cache.underKey ⟨p, m.id⟩).1.entries.get? n =
        some s ↔
      (q.cache.underKey ⟨p, m.id⟩).1.entries.get? n = some s ∨
      (n = 0 ∧ (∃ r ∈ requests, ∀ k ∈ (q.cache.underKey ⟨p, m.id⟩).1.offsets, r.start < k) ∧
        plain m p q.query = .ok s) := by
  rw [SortedMap.get?_eq_some_iff, SortedMap.get?_eq_some_iff, underKey_run,
    OffsetCache.mem_foldl_ensure_iff]
  simp only [List.mem_map, exists_exists_and_eq_and]

/-- In every order requests for one model and platform are answered, with pages or failures, as if
each of them came first, and they leave the same statements for the same offsets: those of the key
from before, and the plain one for offset 0 if one of the requests found none. -/
theorem answers_perm {order requests : List PageRequest} (h : order.Perm requests) :
    answers m p q order = order.map (answer m p q) ∧
    Session.run q (order.map (action m p)) = Session.run q (requests.map (action m p)) ∧
    ∀ n s,
      ((Session.run q (order.map (action m p))).cache.underKey ⟨p, m.id⟩).1.entries.get? n =
          some s ↔
        (q.cache.underKey ⟨p, m.id⟩).1.entries.get? n = some s ∨
        (n = 0 ∧
          (∃ r ∈ requests, ∀ k ∈ (q.cache.underKey ⟨p, m.id⟩).1.offsets, r.start < k) ∧
          plain m p q.query = .ok s) := by
  have hrun := run_eq_of_perm m p q h
  refine ⟨answers_eq_map m p q order, hrun, fun n s => ?_⟩
  rw [hrun]
  exact get?_run m p q requests

end PageRequest

namespace Sample

/-- The employees with a statement kept for offset 20. -/
def employeesFromTwenty : PagedQuery :=
  Session.run (.ofQuery employees) [.register ⟨company, .postgreSQL, 10⟩ 20 (.int 7)]

/-- A page behind the offset that is kept, all the employees, and two pages before the offset. -/
def requests : List PageRequest :=
  [⟨10, 30, some 5⟩, ⟨0, 0, none⟩, ⟨10, 10, some 5⟩, ⟨10, 15, some 5⟩]

end Sample

/-- The first request to come before offset 20 adds the plain statement, whichever that is. -/
theorem answers_perm_requests :
    Sample.requests.reverse.Perm Sample.requests ∧
    Sample.employeesFromTwenty.offsets = [20] ∧
    PageRequest.answers Sample.company .postgreSQL Sample.employeesFromTwenty
        Sample.requests.reverse =
      Sample.requests.reverse.map
        (PageRequest.answer Sample.company .postgreSQL Sample.employeesFromTwenty) ∧
    Session.run Sample.employeesFromTwenty
        (Sample.requests.reverse.map (PageRequest.action Sample.company .postgreSQL)) =
      Session.run Sample.employeesFromTwenty
        (Sample.requests.map (PageRequest.action Sample.company .postgreSQL)) ∧
    (Session.run Sample.employeesFromTwenty
      (Sample.requests.map (PageRequest.action Sample.company .postgreSQL))).offsets = [0, 20] := by
  have hperm : Sample.requests.reverse.Perm Sample.requests := List.reverse_perm _
  obtain ⟨hanswers, hrun, _⟩ :=
    PageRequest.answers_perm Sample.company .postgreSQL Sample.employeesFromTwenty hperm
  exact ⟨hperm, by decide +kernel, hanswers, hrun, by decide +kernel⟩

end ObjectQuery
