import ObjectQuery.Data.SortedMap
import ObjectQuery.Trace

/-!
# Statements by offset

Compiled statements kept by the row they start at, all under one key. A page is served from the
statement with the greatest offset that is not beyond its first row; only the rows between the two
are skipped.
-/

namespace ObjectQuery

/-- Rows of a statement: at most `limit` of them, after the first `skip`. -/
structure Page (α : Type) where
  body : α
  limit : Option Nat
  skip : Nat

/-- The statements kept for a query, by the row each starts at. -/
structure OffsetCache (α : Type) where
  key : Option CacheKey
  entries : SortedMap Nat α

namespace OffsetCache

variable {α : Type}

/-- No statement. -/
def empty : OffsetCache α :=
  ⟨none, .empty⟩

/-- The offsets with a statement, in order. -/
def offsets (c : OffsetCache α) : List Nat :=
  c.entries.keys

/-- The statements under a key: those of another key are dropped. -/
def underKey (c : OffsetCache α) (key : CacheKey) : OffsetCache α × List Event :=
  if c.key = some key then (c, [])
  else
    (⟨some key, .empty⟩,
      if c.entries.entries.isEmpty then [] else [.discarded c.entries.size c.key])

/-- Keeps a statement for an offset. -/
def keep (c : OffsetCache α) (offset : Nat) (a : α) : OffsetCache α :=
  { c with entries := c.entries.insert offset a }

/-- The page of at most `limit` rows from row `start` on. Without a statement that starts early
enough, the plain one is compiled and kept for offset 0. -/
def serve (c : OffsetCache α) (key : CacheKey) (start : Nat) (limit : Option Nat)
    (compile : Traced α) : OffsetCache α × Traced (Page α) :=
  let (c, events) := c.underKey key
  match c.entries.floor? start with
  | some (offset, a) =>
    (c, ⟨events ++ [.served start offset], .ok ⟨a, limit, start - offset⟩⟩)
  | none =>
    match compile.outcome with
    | .ok a => (c.keep 0 a, ⟨events ++ compile.events, .ok ⟨a, limit, start⟩⟩)
    | .error e => (c, ⟨events ++ compile.events, .error e⟩)

/-- Compiles and keeps a statement for an offset above 0, unless one is kept at most `tolerance`
rows before it. -/
def register (c : OffsetCache α) (key : CacheKey) (start tolerance : Nat) (text : α → String)
    (compile : Traced α) : OffsetCache α × Traced Unit :=
  if start = 0 then (c, .report .zeroOffset)
  else
    let (c, events) := c.underKey key
    match (c.entries.floor? start).filter fun (offset, _) => start - offset ≤ tolerance with
    | some (offset, _) => (c, ⟨events ++ [.nearOffset start tolerance offset], .ok ()⟩)
    | none =>
      match compile.outcome with
      | .ok a => (c.keep start a, ⟨events ++ compile.events ++ [.created start (text a)], .ok ()⟩)
      | .error e => (c, ⟨events ++ compile.events, .error e⟩)

end OffsetCache

end ObjectQuery
