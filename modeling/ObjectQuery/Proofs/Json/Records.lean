import Mathlib
import ObjectQuery.Json.Record
import ObjectQuery.Proofs.Except
import ObjectQuery.Proofs.Json.Documents

/-!
# Records and their text

An object whose members are known and stand once is read as the record of its members
(`Record.read?_written`). What is written for a list, or for a value that may be missing, is read
back if its items, or the value, are (`items?_written`, `nullable?_written`).
-/

namespace ObjectQuery.Json

section Parts

variable {α : Type} {write : α → Json} {read : Written → Option α}

/-- Items that are read back one by one are read back from an array. -/
lemma items?_written {xs : List α} (h : ∀ x ∈ xs, read (write x).written = some x) :
    (Json.array (xs.map write)).written.items? read = some xs := by
  rw [written, writtenItems_eq_map, List.map_map, Written.items?]
  induction xs with
  | nil => rfl
  | cons x xs ih =>
    obtain ⟨hx, hxs⟩ := List.forall_mem_cons.1 h
    rw [List.map_cons, List.mapM_cons, ih hxs, Function.comp_apply, hx]
    rfl

lemma items?_text (names : List String) :
    (Json.array (names.map .string)).written.items? Written.text? = some names :=
  items?_written fun _ _ => rfl

lemma nullable?_of_ne_null {w : Written} (hw : w ≠ .null) :
    w.nullable? read = (read w).map some := by
  cases w with
  | null => exact absurd rfl hw
  | _ => rfl

/-- A value that may be missing is read back if it is never written as null. -/
lemma nullable?_written {x : Option α} (hnull : ∀ x, (write x).written ≠ .null)
    (h : ∀ x, read (write x).written = some x) :
    ((x.map write).getD .null).written.nullable? read = some x := by
  cases x with
  | none => rfl
  | some x =>
    rw [Option.map_some, Option.getD_some, nullable?_of_ne_null (hnull x), h]
    rfl

lemma int64?_written (n : Int64) : (Json.number (.integer n.toInt)).written.int64? = some n := by
  obtain ⟨hlower, hupper⟩ := exact_int64 n
  have hinteger : (Json.number (.integer n.toInt)).written.integer? = some n.toInt := by
    rw [written, Written.integer?, Numeral.value?_ofInt hlower hupper]
  have hrange : Int64.minValue.toInt ≤ n.toInt ∧ n.toInt ≤ Int64.maxValue.toInt :=
    ⟨Int64.minValue_le_toInt n, Int64.toInt_le n⟩
  simp only [Written.int64?, hinteger, Option.bind_eq_bind, Option.bind_some, if_pos hrange,
    Int64.ofInt_toInt]

lemma nullable?_text (s : Option String) :
    (ofOption s).written.nullable? Written.text? = some s := by
  cases s <;> rfl

end Parts

namespace Record

/-- The record of the members of an object. -/
def ofMembers (members : List (String × Json)) : Record :=
  ⟨members.map fun m => (m.1, m.2.written)⟩

variable {members : List (String × Json)} {name : String} {v : Json}

lemma lookup_ofMembers (members : List (String × Json)) (name : String) :
    (ofMembers members).members.lookup name = (members.lookup name).map written :=
  List.lookup_map_snd written members name

/-- A known member is taken over if there is none of its name. -/
lemma addMember_ofMembers {known : List String} {m : String × Json} (hm : m.1 ∈ known)
    (hnew : members.lookup m.1 = none) :
    addMember known (ofMembers members) (some m.1, m.2.written) =
      some (ofMembers (members ++ [m])) := by
  simp only [addMember, Option.bind_eq_bind, Option.bind_some, List.contains_iff_mem, hm, if_true,
    lookup_ofMembers, hnew, Option.map_none, Option.isSome_none, Bool.false_eq_true, if_false]
  rw [ofMembers, ofMembers, List.map_append, List.map_singleton]

/-- An object of known members, each of which stands once, is the record of them. -/
lemma read?_written {known : List String} (hknown : ∀ m ∈ members, m.1 ∈ known)
    (hnodup : (members.map Prod.fst).Nodup) (least : Nat) :
    read? known least (Json.object members).written = some (ofMembers members) := by
  rw [written, writtenMembers_eq_map, read?]
  induction members using List.reverseRecOn with
  | nil => rfl
  | append_singleton members m ih =>
    rw [List.map_append, List.nodup_append] at hnodup
    obtain ⟨hbefore, -, hapart⟩ := hnodup
    have hnew : members.lookup m.1 = none := by
      rw [List.lookup_eq_none_iff]
      intro e he
      rw [bne_iff_ne]
      exact (hapart _ (List.mem_map_of_mem he) _ (List.mem_singleton_self _)).symm
    have hm : m.1 ∈ known := hknown m (List.mem_append_right _ (List.mem_singleton_self m))
    have hfold := ih (fun e he => hknown e (List.mem_append_left _ he)) hbefore
    rw [List.map_append, List.foldlM_append, hfold, List.map_singleton]
    simp only [List.foldlM_cons, Option.bind_eq_bind, Option.bind_some, addMember_ofMembers hm hnew]
    rfl

/-- A member that is there is read. -/
lemma required?_ofMembers {α : Type} (read : Written → Option α)
    (h : members.lookup name = some v) :
    (ofMembers members).required? name read = read v.written := by
  rw [required?, lookup_ofMembers, h]
  rfl

lemma optional?_ofMembers {α : Type} (read : Written → Option α)
    (h : members.lookup name = some v) :
    (ofMembers members).optional? name read = v.written.nullable? read := by
  rw [optional?, lookup_ofMembers, h]
  rfl

lemma list?_ofMembers {α : Type} (read : Written → Option α)
    (h : members.lookup name = some v) :
    (ofMembers members).list? name read = v.written.items? read := by
  rw [list?, lookup_ofMembers, h]
  rfl

end Record

end ObjectQuery.Json
