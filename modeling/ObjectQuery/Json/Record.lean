import ObjectQuery.Json.Reader

/-!
# Records in JSON

How parts of a JSON text are taken as values of known types. A record is an object whose known
members stand in any order and at most once, or an array of their values; members that are not known
are passed over.
-/

namespace ObjectQuery.Json

namespace Written

/-- A string. -/
def text? : Written → Option String
  | .string s => s
  | _ => none

/-- A boolean. -/
def bool? : Written → Option Bool
  | .bool b => some b
  | _ => none

/-- An integer that is written as one. -/
def integer? : Written → Option Int
  | .number n =>
    match n.value? with
    | some (.integer i) => some i
    | _ => none
  | _ => none

/-- A signed integer of 64 bits. -/
def int64? (w : Written) : Option Int64 := do
  let n ← w.integer?
  if Int64.minValue.toInt ≤ n ∧ n ≤ Int64.maxValue.toInt then some (Int64.ofInt n) else none

/-- A number as a double. -/
def float? : Written → Option Binary64
  | .number n =>
    match n.value? with
    | some (.integer i) => some ((Binary64.ofNat i.natAbs).withSign (i < 0))
    | some (.float x) => some x
    | none => none
  | _ => none

/-- The items of an array, each read the same way. -/
def items? {α : Type} (read : Written → Option α) : Written → Option (List α)
  | .array items => items.mapM read
  | _ => none

/-- A value that may be null. -/
def nullable? {α : Type} (read : Written → Option α) : Written → Option (Option α)
  | .null => some none
  | w => (read w).map some

/-- A name out of a choice of names: a string, or an object whose only member has the name and is
null. -/
def choice? : Written → Option String
  | .string s => s
  | .object [(k, .null)] => k
  | _ => none

/-- A name out of a choice of names, where the only member may also be an empty object. -/
def looseChoice? : Written → Option String
  | .object [(k, .object [])] => k
  | w => w.choice?

end Written

/-- The known members of a record. -/
structure Record where
  members : List (String × Written)

namespace Record

/-- Takes over a member if it is known. A known member stands only once. -/
def addMember (known : List String) (r : Record) (m : Option String × Written) :
    Option Record := do
  let name ← m.1
  if known.contains name then
    if (r.members.lookup name).isSome then none
    else some ⟨r.members ++ [(name, m.2)]⟩
  else some r

/-- Reads a record. As an array it has at least `least` of the known members, in order. -/
def read? (known : List String) (least : Nat) : Written → Option Record
  | .object members => members.foldlM (addMember known) ⟨[]⟩
  | .array items =>
    if least ≤ items.length ∧ items.length ≤ known.length then some ⟨known.zip items⟩ else none
  | _ => none

variable {α : Type}

/-- A member that has to be there. -/
def required? (r : Record) (name : String) (read : Written → Option α) : Option α := do
  read (← r.members.lookup name)

/-- A member that may be missing or null. -/
def optional? (r : Record) (name : String) (read : Written → Option α) : Option (Option α) :=
  match r.members.lookup name with
  | none => some none
  | some w => w.nullable? read

/-- A list that may be missing. -/
def list? (r : Record) (name : String) (read : Written → Option α) : Option (List α) :=
  match r.members.lookup name with
  | none => some []
  | some w => w.items? read

end Record

/-- A string, or null if there is none. -/
def ofOption (s : Option String) : Json :=
  match s with
  | some s => .string s
  | none => .null

end ObjectQuery.Json
