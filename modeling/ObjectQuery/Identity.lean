/-!
# Identities

Sources and queries are told apart by numbers, and so are models: two of them are the same only if
one is a copy of the other, however alike they are.
-/

namespace ObjectQuery

/-- The identity of a source or a query. -/
structure NodeId where
  index : Nat
deriving DecidableEq

/-- The identity of a model. -/
structure ModelId where
  index : Nat
deriving DecidableEq

namespace NodeId

/-- The text of an identity. -/
def text (n : NodeId) : String :=
  "NodeId(" ++ toString n.index ++ ")"

end NodeId

namespace ModelId

/-- The text of an identity. -/
def text (m : ModelId) : String :=
  "ModelId(" ++ toString m.index ++ ")"

end ModelId

end ObjectQuery
