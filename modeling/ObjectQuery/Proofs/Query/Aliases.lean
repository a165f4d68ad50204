import Mathlib
import ObjectQuery.Proofs.Query.Edit

/-!
# Made-up aliases

A query that names no alias has only aliases that it made up. They are numbered in the order in
which they are made, so no two sources or selected classes share one (`Generated.aliasesMade`).
-/

namespace ObjectQuery

namespace Edit

/-- Whether the change names an alias. -/
def isNamed : Edit → Bool
  | addSourceAs .. | addSelectAs .. => true
  | _ => false

end Edit

namespace Query

/-- The query comes from the empty one by copies and by edits that name no alias. -/
inductive Generated : Query → Prop where
  | empty (id : NodeId) : Generated (.empty id)
  | edit {q : Query} (e : Edit) : e.isNamed = false → Generated q → Generated (e.apply q)
  | copy {q : Query} (id : NodeId) : Generated q → Generated (q.copy id)

lemma Generated.edits {q : Query} (h : q.Generated) {es : List Edit}
    (hes : ∀ e ∈ es, e.isNamed = false) : (es.foldl Edit.apply q).Generated := by
  induction es generalizing q with
  | nil => exact h
  | cons e es ih =>
    obtain ⟨he, hes⟩ := List.forall_mem_cons.1 hes
    exact ih (.edit e he h) hes

/-- The alias that is made up as number `n`. -/
def madeAlias (n : Nat) : String :=
  "a" ++ toString n ++ "_"

lemma toList_madeAlias (n : Nat) : (madeAlias n).toList = 'a' :: (Nat.toDigits 10 n ++ ['_']) := by
  simp [madeAlias, Nat.toString_eq_repr]

/-- The digits end at the underscore, so a made-up alias can be told from what follows it. -/
lemma madeAlias_append_inj {n n' : Nat} {rest rest' : String}
    (h : madeAlias n ++ rest = madeAlias n' ++ rest') : n = n' ∧ rest = rest' := by
  have hlist := congrArg String.toList h
  simp only [String.toList_append, toList_madeAlias, List.cons_append, List.cons.injEq,
    true_and, List.append_assoc] at hlist
  have digits (n : Nat) (rest : List Char) :
      (Nat.toDigits 10 n ++ ('_' :: rest)).takeWhile (· != '_') = Nat.toDigits 10 n := by
    rw [List.takeWhile_append_of_pos]
    · simp
    · intro c hc
      have hne : c ≠ '_' := fun h => Nat.underscore_not_in_toDigits (h ▸ hc)
      simpa using hne
  have hdigits : Nat.toDigits 10 n = Nat.toDigits 10 n' := by
    rw [← digits n rest.toList, ← digits n' rest'.toList]
    exact congrArg _ hlist
  have hn : n = n' := Nat.repr_injective (String.toList_injective (by simpa using hdigits))
  subst hn
  exact ⟨rfl, String.toList_injective (by simpa using hlist)⟩

lemma madeAlias_injective : Function.Injective madeAlias := by
  intro n n' h
  exact (madeAlias_append_inj (congrArg (· ++ "") h)).1

/-- Every alias is made up, and each number is used once. -/
structure AliasesMade (q : Query) : Prop where
  made : ∀ aliasName ∈ q.aliases.map Prod.snd, ∃ n ≤ q.aliasCount, aliasName = madeAlias n
  nodup : (q.aliases.map Prod.snd).Nodup
  selected : ∀ item ∈ q.select, ∃ n, item.aliasName = madeAlias n

namespace AliasesMade

variable {q : Query}

lemma countAlias (h : q.AliasesMade) : q.countAlias.AliasesMade where
  made a ha := by
    obtain ⟨n, hn, hname⟩ := h.made a ha
    exact ⟨n, Nat.le_succ_of_le hn, hname⟩
  nodup := h.nodup
  selected := h.selected

/-- The next alias is new. -/
lemma setAlias (h : q.AliasesMade) (n : NodeId) :
    (q.countAlias.setAlias n q.nextAlias).AliasesMade where
  made := by
    refine List.forall_mem_cons.2 ⟨⟨q.aliasCount + 1, le_rfl, rfl⟩, ?_⟩
    exact h.countAlias.made
  nodup := by
    refine List.nodup_cons.2 ⟨fun hmem => ?_, h.nodup⟩
    obtain ⟨i, hi, hname⟩ := h.made _ hmem
    have hnext : q.aliasCount + 1 = i := madeAlias_injective hname
    omega
  selected := h.selected

lemma addItem (h : q.AliasesMade) (node : Node) (n : Nat) :
    (q.addItem node (madeAlias n)).AliasesMade where
  made := h.made
  nodup := h.nodup
  selected := List.forall_mem_append.2 ⟨h.selected, List.forall_mem_singleton.2 ⟨n, rfl⟩⟩

lemma of_lookup (h : q.AliasesMade) {n : NodeId} {a : String}
    (ha : q.aliases.lookup n = some a) : ∃ i, a = madeAlias i := by
  obtain ⟨i, _, hname⟩ := h.made a (List.mem_map_of_mem (List.mem_of_lookup_eq_some ha))
  exact ⟨i, hname⟩

lemma addSelect (h : q.AliasesMade) (node : Node) : (q.addSelect node).AliasesMade := by
  cases node with
  | object c =>
    simp only [Query.addSelect]
    split
    · rename_i a ha
      obtain ⟨i, rfl⟩ := h.of_lookup ha
      exact h.addItem (.object c) i
    · exact (h.setAlias c.id).addItem (.object c) (q.aliasCount + 1)
  | expr e => exact h.countAlias.addItem (.expr e) (q.aliasCount + 1)

lemma edit (h : q.AliasesMade) {e : Edit} (he : e.isNamed = false) : (e.apply q).AliasesMade := by
  cases e with
  | addSource s => exact ⟨(h.setAlias s.id).made, (h.setAlias s.id).nodup, h.selected⟩
  | addSourceAs => cases he
  | addSelect node => exact h.addSelect node
  | addSelectAs => cases he
  | setConstraint | clearConstraint | addGroupBy | addOrderBy | setDistinct =>
    exact ⟨h.made, h.nodup, h.selected⟩

/-- No two nodes have one alias. -/
lemma lookup_inj (h : q.AliasesMade) {n n' : NodeId} {a : String}
    (ha : q.aliases.lookup n = some a) (ha' : q.aliases.lookup n' = some a) : n = n' := by
  have hmem := List.mem_of_lookup_eq_some ha
  have hmem' := List.mem_of_lookup_eq_some ha'
  exact (Prod.mk.inj (List.inj_on_of_nodup_map h.nodup hmem hmem' rfl)).1

end AliasesMade

/-- A query that names no alias has made up all of them, each once. -/
lemma Generated.aliasesMade {q : Query} (h : q.Generated) : q.AliasesMade := by
  induction h with
  | empty id => exact ⟨nofun, .nil, nofun⟩
  | edit e he _ ih => exact ih.edit he
  | copy id _ ih => exact ⟨ih.made, ih.nodup, ih.selected⟩

end Query

end ObjectQuery
