import ObjectQuery.Json.Writer
import ObjectQuery.Data.SortedMap

/-!
# Canonical documents

A document whose objects have their members in the order of the keys, the last member of a repeated
key standing for all of them.
-/

namespace ObjectQuery.Json

mutual

/-- The document with every object in canonical order. -/
def canonical : Json → Json
  | .array items => .array (canonicalItems items)
  | .object members => .object (SortedMap.ofList (canonicalMembers members)).entries
  | j => j

/-- The items, each canonical. -/
def canonicalItems : List Json → List Json
  | [] => []
  | v :: vs => canonical v :: canonicalItems vs

/-- The members, each value canonical. -/
def canonicalMembers : List (String × Json) → List (String × Json)
  | [] => []
  | (k, v) :: ms => (k, canonical v) :: canonicalMembers ms

end

end ObjectQuery.Json
