import ObjectQuery.Paging.OffsetCache
import ObjectQuery.Settings.Basic
import ObjectQuery.Sql.Compilation

/-!
# Pages of a query

A query together with the statements compiled for it, which every change of the query drops, and
the generators that serve its pages for one model and platform.
-/

namespace ObjectQuery

open Sql

namespace Page

/-- The text of a page: the statement with its limit, and the rows to skip if there are any. -/
def text (p : Page Statement) : String :=
  p.body.text ++
    (match p.limit with
      | some n => " LIMIT " ++ toString n
      | none => "") ++
    (if p.skip = 0 then "" else " OFFSET " ++ toString p.skip)

end Page

/-- A query and the statements kept for it. -/
structure PagedQuery where
  query : Query
  cache : OffsetCache Statement

namespace PagedQuery

/-- A query without statements. -/
def ofQuery (q : Query) : PagedQuery :=
  ⟨q, .empty⟩

/-- Changes the query and drops its statements. -/
def edit (q : PagedQuery) (change : Query → Query) : PagedQuery :=
  ofQuery (change q.query)

/-- The same query under a new identity, without statements. -/
def copy (q : PagedQuery) (id : NodeId) : PagedQuery :=
  ofQuery (q.query.copy id)

/-- The offsets with a statement, in order. -/
def offsets (q : PagedQuery) : List Nat :=
  q.cache.offsets

end PagedQuery

namespace Query

/-- What a node is ordered by: a class by its identity. -/
def sortKey : Node → Expr
  | .object c => .column (.identityOf c)
  | .expr e => e

/-- The first expression that the query is ordered by. -/
def seekKey? (q : Query) : Option Expr :=
  ((Ordering.nodes q.orderBy q.select).find? fun n => !n.isValue).map sortKey

end Query

/-- Serves the pages of queries for a model and a platform. -/
structure Generator where
  model : Model
  platform : Platform
  /-- How many rows may lie between an offset and a statement that is good enough for it. -/
  tolerance : Nat

namespace Generator

/-- The tolerance that holds if none is set. -/
def standardTolerance : Nat :=
  Settings.standard.offsetTolerance.toNat

/-- The generator for a model that has the platform and the tolerance of the settings. -/
def ofSettings (m : Model) (s : Settings) : Except Failure Generator := do
  return ⟨m, ← Platform.ofName s.platform, s.offsetTolerance.toNat⟩

/-- What the statements of the generator depend on. -/
def key (g : Generator) : CacheKey :=
  ⟨g.platform, g.model.id⟩

/-- The statement of a query, or of its rows beyond a key. -/
def compile (g : Generator) (seek : Option Seek) (q : Query) : Traced Statement :=
  Sql.compile g.model g.platform .whole seek q

/-- The page of at most `limit` rows from row `start` on. -/
def page (g : Generator) (q : PagedQuery) (start : Nat) (limit : Option Nat) :
    PagedQuery × Traced (Page Statement) :=
  let (cache, page) := q.cache.serve g.key start limit (g.compile none q.query)
  ({ q with cache }, page)

/-- Reports a failed registration. A misuse is passed on, all else ends there. -/
def settle (start : Nat) (query : NodeId) (x : Traced Unit) : Traced Unit :=
  match x.outcome with
  | .ok () => x
  | .error e =>
    if e.isMisuse then x
    else ⟨x.events ++ [.notRegistered start query e], .ok ()⟩

/-- Keeps a statement for the rows from `start` on, where `value` is the first key of the row
before: later pages need not skip the rows up to there. -/
def register (g : Generator) (q : PagedQuery) (start : Nat) (value : Value) :
    PagedQuery × Traced Unit :=
  match q.query.seekKey? with
  | none => (q, .report (.unordered start q.query.id))
  | some key =>
    let (cache, result) := q.cache.register g.key start g.tolerance Statement.text
      (g.compile (some ⟨key, value⟩) q.query)
    ({ q with cache }, settle start q.query.id result)

end Generator

namespace Model

/-- The statement that fetches the object with an identity. A second row would show that it is not
unique. -/
def objectQuery (m : Model) (id : Int64) (className : String) : Except Failure (Page Statement) :=
  match m.class? className with
  | none => .error (.classNotInModel className)
  | some c =>
    let row := "a1_"
    .ok ⟨⟨true, [⟨Scope.objectColumn row, some (.plain row)⟩], [.table c.table row],
      [.compare (Scope.identityColumn row) .equals (.literal (toString id.toInt))], [], []⟩,
      some 2, 0⟩

end Model

end ObjectQuery
