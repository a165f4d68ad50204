import Mathlib
import ObjectQuery.Data.SortedMap

/-!
# Entries of sorted maps

What look-up, insertion and the search for the greatest key below a bound say about the entries of a
map. The keys of the entries are strictly ascending, so an entry is determined by its key and the
search can stop at the first key beyond the bound. A sorted set is determined by its elements.
-/

namespace ObjectQuery

namespace Ascending

variable {α : Type} [Ord α]

lemma mem_insert_iff [Std.LawfulEqOrd α] {a x : α} {xs : List α} :
    x ∈ insert a xs ↔ x = a ∨ x ∈ xs := by
  refine ⟨mem_of_mem_insert, ?_⟩
  rintro (rfl | hx)
  · induction xs with
    | nil => exact List.mem_singleton_self x
    | cons b bs ih =>
      simp only [insert]
      split
      · exact List.mem_cons_self
      · rename_i heq
        rw [Std.LawfulEqCmp.eq_of_compare heq]
        exact List.mem_cons_self
      · exact List.mem_cons_of_mem _ ih
  · exact mem_insert_of_mem hx

lemma mem_ofList_iff [Std.LawfulEqOrd α] {x : α} {xs : List α} : x ∈ ofList xs ↔ x ∈ xs := by
  unfold ofList
  induction xs using List.reverseRecOn with
  | nil => rfl
  | append_singleton xs a ih =>
    rw [List.foldl_append, List.foldl_cons, List.foldl_nil, mem_insert_iff, ih, List.mem_append,
      List.mem_singleton, or_comm]

variable [Std.TransOrd α]

lemma nodup {xs : List α} (h : Ascending xs) : xs.Nodup := by
  refine h.imp fun {a b} hab heq => ?_
  rw [heq, Std.compare_self] at hab
  cases hab

/-- Ascending lists with the same elements are equal. -/
lemma ext {xs ys : List α} (hxs : Ascending xs) (hys : Ascending ys)
    (h : ∀ x, x ∈ xs ↔ x ∈ ys) : xs = ys := by
  have hperm := (List.perm_ext_iff_of_nodup hxs.nodup hys.nodup).2 h
  refine hperm.eq_of_pairwise (fun a b _ _ hab hba => ?_) hxs hys
  have hgt := Std.OrientedCmp.gt_of_lt hab
  rw [hba] at hgt
  cases hgt

end Ascending

namespace SortedMap

variable {α β : Type} [Ord α]

/-- The keys of the entries are strictly ascending. -/
lemma pairwise_entries (m : SortedMap α β) :
    m.entries.Pairwise fun a b => compare a.1 b.1 = .lt :=
  List.pairwise_map.1 m.ascending

/-- The search finds an entry of the map, and its key is not above the bound. -/
lemma mem_of_floor?_eq_some {m : SortedMap α β} {k : α} {e : α × β} (h : m.floor? k = some e) :
    e ∈ m.entries ∧ (compare e.1 k).isLE := by
  have hmem := List.mem_of_getLast? h
  have hle := List.mem_takeWhile_imp (p := fun e : α × β => (compare e.1 k).isLE) hmem
  exact ⟨(List.takeWhile_prefix _).subset hmem, hle⟩

/-- A map has the keys that it has values of. -/
lemma contains_eq_isSome_get? (m : SortedMap α β) (k : α) : m.contains k = (m.get? k).isSome := by
  rw [Bool.eq_iff_iff, contains, get?, Option.isSome_map, List.find?_isSome, List.any_eq_true]

lemma get?_empty (k : α) : (empty : SortedMap α β).get? k = none := rfl

variable [Std.TransOrd α]

/-- No key is below itself. -/
lemma not_lt_self (k : α) : compare k k ≠ .lt := by
  rw [Std.compare_self]
  decide

/-- In ascending entries, the entry of a key is unique. -/
lemma eq_of_mem_pairwise {es : List (α × β)} {k : α} {v w : β}
    (hes : es.Pairwise fun a b => compare a.1 b.1 = .lt)
    (hv : (k, v) ∈ es) (hw : (k, w) ∈ es) : v = w := by
  induction hes with
  | nil => cases hv
  | @cons e es he _ ih =>
    rcases List.mem_cons.1 hv with rfl | hv' <;> rcases List.mem_cons.1 hw with hw' | hw'
    · exact (Prod.mk.inj hw').2.symm
    · have hlt := he _ hw'
      exact absurd hlt (not_lt_self k)
    · subst hw'
      have hlt := he _ hv'
      exact absurd hlt (not_lt_self k)
    · exact ih hv' hw'

/-- The keys that are not above a bound come first. -/
lemma takeWhile_eq_filter {es : List (α × β)} (k : α)
    (hes : es.Pairwise fun a b => compare a.1 b.1 = .lt) :
    es.takeWhile (fun e => (compare e.1 k).isLE) = es.filter fun e => (compare e.1 k).isLE := by
  induction hes with
  | nil => rfl
  | @cons e es he _ ih =>
    rw [List.takeWhile_cons, List.filter_cons, ih]
    split
    · rfl
    · rename_i habove
      refine (List.filter_eq_nil_iff.2 fun d hd hle => habove ?_).symm
      exact Std.TransCmp.isLE_trans (by rw [he d hd]; rfl) hle

lemma floor?_eq (m : SortedMap α β) (k : α) :
    m.floor? k = (m.entries.filter fun e => (compare e.1 k).isLE).getLast? := by
  rw [floor?, takeWhile_eq_filter k m.pairwise_entries]

/-- Nothing is found just if all keys are above the bound. -/
lemma floor?_eq_none_iff {m : SortedMap α β} {k : α} :
    m.floor? k = none ↔ ∀ e ∈ m.entries, ¬ (compare e.1 k).isLE := by
  rw [floor?_eq, List.getLast?_eq_none_iff, List.filter_eq_nil_iff]

variable [Std.LawfulEqOrd α]

/-- A look-up finds the entries of the map. -/
lemma get?_eq_some_iff {m : SortedMap α β} {k : α} {v : β} :
    m.get? k = some v ↔ (k, v) ∈ m.entries := by
  unfold get?
  constructor
  · intro h
    obtain ⟨e, he, rfl⟩ := Option.map_eq_some_iff.1 h
    have hk : compare e.1 k = .eq := by
      simpa using List.find?_some he
    obtain rfl := Std.LawfulEqCmp.eq_of_compare hk
    exact List.mem_of_find?_eq_some he
  · intro h
    cases hf : m.entries.find? fun e => compare e.1 k == .eq with
    | none =>
      have hne := List.find?_eq_none.1 hf _ h
      rw [Std.compare_self] at hne
      exact absurd rfl hne
    | some e =>
      have hk : compare e.1 k = .eq := by
        simpa using List.find?_some hf
      obtain rfl := Std.LawfulEqCmp.eq_of_compare hk
      rw [Option.map_some,
        eq_of_mem_pairwise m.pairwise_entries (List.mem_of_find?_eq_some hf) h]

/-- Setting the value of a key leaves the entries of the other keys alone. -/
lemma mem_insertEntry {es : List (α × β)} {k : α} {v : β} {e : α × β}
    (hes : es.Pairwise fun a b => compare a.1 b.1 = .lt) :
    e ∈ insertEntry k v es ↔ e = (k, v) ∨ (e ∈ es ∧ e.1 ≠ k) := by
  induction hes with
  | nil => simp [insertEntry]
  | @cons d ds hd _ ih =>
    have self : compare k k = .eq := Std.compare_self
    have apart : compare k d.1 ≠ .gt → ∀ e ∈ ds, e.1 ≠ k := by
      rintro hk e he rfl
      exact hk (Std.OrientedCmp.gt_of_lt (hd e he))
    simp only [insertEntry]
    split
    · rename_i hk
      have hdk : d.1 ≠ k := by
        rintro rfl
        rw [self] at hk
        cases hk
      have hds := apart (by rw [hk]; decide)
      grind
    · rename_i hk
      obtain rfl := Std.LawfulEqCmp.eq_of_compare hk
      have hds := apart (by rw [hk]; decide)
      grind
    · rename_i hk
      have hdk : d.1 ≠ k := by
        rintro rfl
        rw [self] at hk
        cases hk
      rw [List.mem_cons, ih]
      grind

/-- The entries after an insertion are the new one and those of the other keys. -/
lemma mem_entries_insert {m : SortedMap α β} {k : α} {v : β} {e : α × β} :
    e ∈ (m.insert k v).entries ↔ e = (k, v) ∨ (e ∈ m.entries ∧ e.1 ≠ k) :=
  mem_insertEntry m.pairwise_entries

lemma get?_insert [DecidableEq α] (m : SortedMap α β) (k k' : α) (v : β) :
    (m.insert k v).get? k' = if k = k' then some v else m.get? k' := by
  ext w
  rw [get?_eq_some_iff, mem_entries_insert]
  split
  · rename_i h
    simp [h, eq_comm]
  · rename_i h
    rw [get?_eq_some_iff, Prod.mk.injEq]
    constructor
    · rintro (⟨hk, _⟩ | ⟨hmem, _⟩)
      · exact absurd hk.symm h
      · exact hmem
    · exact fun hmem => .inr ⟨hmem, Ne.symm h⟩

lemma get?_insertNew [DecidableEq α] (m : SortedMap α β) (k k' : α) (v : β) :
    (m.insertNew k v).get? k' = (m.get? k').or (if k = k' then some v else none) := by
  unfold insertNew
  split
  · rename_i h
    rw [contains_eq_isSome_get?, Option.isSome_iff_exists] at h
    obtain ⟨w, hw⟩ := h
    split
    · rename_i hk
      rw [← hk, hw]
      rfl
    · rw [Option.or_none]
  · rename_i h
    rw [contains_eq_isSome_get?, Option.not_isSome_iff_eq_none] at h
    rw [get?_insert]
    split
    · rename_i hk
      rw [← hk, h]
      rfl
    · rw [Option.or_none]

/-- Maps with the same values are equal, as their entries are in the order of the keys. -/
lemma ext_get? {m m' : SortedMap α β} (h : ∀ k, m.get? k = m'.get? k) : m = m' := by
  have hmem (e : α × β) : e ∈ m.entries ↔ e ∈ m'.entries := by
    rw [← get?_eq_some_iff (k := e.1) (v := e.2), h, get?_eq_some_iff]
  have hentries : m.entries = m'.entries := by
    have hnodup (m : SortedMap α β) : m.entries.Nodup := m.ascending.nodup.of_map
    have hperm := (List.perm_ext_iff_of_nodup (hnodup m) (hnodup m')).2 hmem
    refine hperm.eq_of_pairwise (fun a b _ _ hab hba => ?_) m.pairwise_entries m'.pairwise_entries
    have hgt := Std.OrientedCmp.gt_of_lt hab
    rw [hba] at hgt
    cases hgt
  cases m
  cases m'
  cases hentries
  rfl

/-- Different keys of a map are no more than its entries. -/
lemma length_le_size {m : SortedMap α β} {keys : List α} (hnodup : keys.Nodup)
    (hkeys : ∀ k ∈ keys, m.contains k = true) : keys.length ≤ m.size := by
  have hsub : keys ⊆ m.entries.map Prod.fst := by
    intro k hk
    have hcontains := hkeys k hk
    rw [contains_eq_isSome_get?, Option.isSome_iff_exists] at hcontains
    obtain ⟨v, hv⟩ := hcontains
    exact List.mem_map_of_mem (get?_eq_some_iff.1 hv)
  have hle := (List.subperm_of_subset hnodup hsub).length_le
  rw [List.length_map] at hle
  exact hle

/-- The search finds the entry whose key is the greatest one up to the bound. -/
lemma floor?_eq_some_iff {m : SortedMap α β} {k : α} {e : α × β} :
    m.floor? k = some e ↔ e ∈ m.entries ∧ (compare e.1 k).isLE ∧
      ∀ d ∈ m.entries, (compare d.1 k).isLE → (compare d.1 e.1).isLE := by
  have greatest {e : α × β} (h : m.floor? k = some e) :
      ∀ d ∈ m.entries, (compare d.1 k).isLE → (compare d.1 e.1).isLE := by
    intro d hd hle
    have hasc := m.pairwise_entries.filter fun e => (compare e.1 k).isLE
    have hmem : d ∈ m.entries.filter fun e => (compare e.1 k).isLE := List.mem_filter.2 ⟨hd, hle⟩
    rw [floor?_eq] at h
    obtain ⟨before, hsplit⟩ := List.getLast?_eq_some_iff.1 h
    rw [hsplit] at hasc hmem
    rcases List.mem_append.1 hmem with hbefore | hlast
    · rw [(List.pairwise_append.1 hasc).2.2 d hbefore e (List.mem_singleton_self e)]
      rfl
    · rw [List.mem_singleton.1 hlast, Std.compare_self]
      rfl
  constructor
  · intro h
    obtain ⟨hmem, hle⟩ := mem_of_floor?_eq_some h
    exact ⟨hmem, hle, greatest h⟩
  · rintro ⟨hmem, hle, hmax⟩
    cases hfloor : m.floor? k with
    | none => exact absurd hle (floor?_eq_none_iff.1 hfloor e hmem)
    | some d =>
      -- each of the two keys is up to the other one
      obtain ⟨hd, hdle⟩ := mem_of_floor?_eq_some hfloor
      have hkey : compare d.1 e.1 = .eq :=
        Std.OrientedCmp.isLE_antisymm (hmax d hd hdle) (greatest hfloor e hmem hle)
      obtain ⟨k', v⟩ := e
      obtain ⟨k'', w⟩ := d
      obtain rfl := Std.LawfulEqCmp.eq_of_compare hkey
      rw [eq_of_mem_pairwise m.pairwise_entries hd hmem]

/-- A key of the map is the greatest one not above itself. -/
lemma floor?_eq_some_of_mem {m : SortedMap α β} {k : α} {v : β} (h : (k, v) ∈ m.entries) :
    m.floor? k = some (k, v) := by
  refine floor?_eq_some_iff.2 ⟨h, ?_, fun _ _ hle => hle⟩
  rw [Std.compare_self]
  rfl

end SortedMap

end ObjectQuery
