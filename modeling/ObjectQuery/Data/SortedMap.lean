/-!
# Sorted sets and maps

Finite sets and maps held as strictly ascending lists, so that two of them with the same content
are equal and their order is the order of the keys.
-/

namespace ObjectQuery

variable {α β : Type}

/-- The list is strictly ascending. -/
def Ascending [Ord α] (xs : List α) : Prop :=
  xs.Pairwise fun a b => compare a b = .lt

namespace Ascending

/-- Puts an element into its place unless it is there. -/
def insert [Ord α] (a : α) : List α → List α
  | [] => [a]
  | b :: bs =>
    match compare a b with
    | .lt => a :: b :: bs
    | .eq => b :: bs
    | .gt => b :: insert a bs

/-- The distinct elements of a list in ascending order. -/
def ofList [Ord α] (xs : List α) : List α :=
  xs.foldl (fun acc a => insert a acc) []

section Laws

variable [Ord α]

theorem mem_of_mem_insert {a x : α} {xs : List α} (h : x ∈ insert a xs) : x = a ∨ x ∈ xs := by
  induction xs with
  | nil => simpa [insert] using h
  | cons b bs ih => grind [insert]

theorem mem_insert_of_mem {a x : α} {xs : List α} (h : x ∈ xs) : x ∈ insert a xs := by
  induction xs with
  | nil => simp at h
  | cons b bs ih => grind [insert]

theorem ne_nil_insert (a : α) (xs : List α) : insert a xs ≠ [] := by
  cases xs with
  | nil => simp [insert]
  | cons b bs => simp only [insert]; split <;> simp

variable [Std.TransOrd α]

theorem ascending_insert (a : α) {xs : List α} (h : Ascending xs) : Ascending (insert a xs) := by
  induction xs with
  | nil => simp [insert, Ascending]
  | cons b bs ih =>
    obtain ⟨hb, hbs⟩ := List.pairwise_cons.1 h
    simp only [insert]
    split
    · rename_i hab
      refine List.pairwise_cons.2 ⟨fun x hx => ?_, h⟩
      rcases List.mem_cons.1 hx with rfl | hx
      · exact hab
      · exact Std.TransCmp.lt_trans hab (hb x hx)
    · exact h
    · rename_i hab
      refine List.pairwise_cons.2 ⟨fun x hx => ?_, ih hbs⟩
      rcases mem_of_mem_insert hx with rfl | hx
      · exact Std.OrientedCmp.lt_of_gt hab
      · exact hb x hx

theorem ascending_foldl (xs acc : List α) (h : Ascending acc) :
    Ascending (xs.foldl (fun acc a => insert a acc) acc) := by
  induction xs generalizing acc with
  | nil => exact h
  | cons x xs ih => exact ih _ (ascending_insert x h)

theorem ascending_ofList (xs : List α) : Ascending (ofList xs) :=
  ascending_foldl xs [] List.Pairwise.nil

end Laws

end Ascending

/-- A finite map, held as its entries in strictly ascending order of the keys. -/
structure SortedMap (α β : Type) [Ord α] where
  entries : List (α × β)
  ascending : Ascending (entries.map Prod.fst)

namespace SortedMap

variable [Ord α]

/-- The map without entries. -/
def empty : SortedMap α β :=
  ⟨[], List.Pairwise.nil⟩

instance : Inhabited (SortedMap α β) :=
  ⟨empty⟩

/-- The keys in ascending order. -/
def keys (m : SortedMap α β) : List α :=
  m.entries.map Prod.fst

/-- The values in the order of their keys. -/
def values (m : SortedMap α β) : List β :=
  m.entries.map Prod.snd

/-- The value of a key. -/
def get? (m : SortedMap α β) (k : α) : Option β :=
  (m.entries.find? fun e => compare e.1 k == .eq).map Prod.snd

/-- Whether the key has a value. -/
def contains (m : SortedMap α β) (k : α) : Bool :=
  m.entries.any fun e => compare e.1 k == .eq

/-- The number of keys. -/
def size (m : SortedMap α β) : Nat :=
  m.entries.length

/-- Sets the value of a key in an ascending list of entries. -/
def insertEntry (k : α) (v : β) : List (α × β) → List (α × β)
  | [] => [(k, v)]
  | e :: es =>
    match compare k e.1 with
    | .lt => (k, v) :: e :: es
    | .eq => (k, v) :: es
    | .gt => e :: insertEntry k v es

theorem mem_keys_insertEntry {k x : α} {v : β} {es : List (α × β)}
    (h : x ∈ (insertEntry k v es).map Prod.fst) : x = k ∨ x ∈ es.map Prod.fst := by
  induction es with
  | nil => simpa [insertEntry] using h
  | cons e es ih => grind [insertEntry]

theorem ascending_insertEntry [Std.TransOrd α] (k : α) (v : β) {es : List (α × β)}
    (h : Ascending (es.map Prod.fst)) : Ascending ((insertEntry k v es).map Prod.fst) := by
  induction es with
  | nil => simp [insertEntry, Ascending]
  | cons e es ih =>
    obtain ⟨he, hes⟩ := List.pairwise_cons.1 h
    simp only [insertEntry]
    split
    · rename_i hk
      refine List.pairwise_cons.2 ⟨fun x hx => ?_, h⟩
      rcases List.mem_cons.1 hx with rfl | hx
      · exact hk
      · exact Std.TransCmp.lt_trans hk (he x hx)
    · rename_i hk
      refine List.pairwise_cons.2 ⟨fun x hx => ?_, hes⟩
      exact Std.TransCmp.lt_of_eq_of_lt hk (he x hx)
    · rename_i hk
      refine List.pairwise_cons.2 ⟨fun x hx => ?_, ih hes⟩
      rcases mem_keys_insertEntry hx with rfl | hx
      · exact Std.OrientedCmp.lt_of_gt hk
      · exact he x hx

/-- Sets the value of a key. -/
def insert [Std.TransOrd α] (m : SortedMap α β) (k : α) (v : β) : SortedMap α β :=
  ⟨insertEntry k v m.entries, ascending_insertEntry k v m.ascending⟩

/-- Gives a key a value unless it has one. -/
def insertNew [Std.TransOrd α] (m : SortedMap α β) (k : α) (v : β) : SortedMap α β :=
  if m.contains k then m else m.insert k v

/-- The map of a list of entries; the last entry of a key wins. -/
def ofList [Std.TransOrd α] (es : List (α × β)) : SortedMap α β :=
  es.foldl (fun m e => m.insert e.1 e.2) empty

/-- The entry with the greatest key that is not above `k`. -/
def floor? (m : SortedMap α β) (k : α) : Option (α × β) :=
  (m.entries.takeWhile fun e => (compare e.1 k).isLE).getLast?

end SortedMap

end ObjectQuery
