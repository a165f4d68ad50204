import Mathlib
import ObjectQuery.Paging.OffsetCache
import ObjectQuery.Proofs.SortedMap

/-!
# What a call does to the statements kept

Serving a page and registering an offset first drop the statements of another key. After that a page
comes from the statement with the greatest offset up to its start, and only where there is none is a
statement compiled; registering adds at most the statement of its own offset. `serve_cases` and
`register_cases` list all that can happen, failures included; nothing else looks into the two
operations.
-/

namespace ObjectQuery.OffsetCache

variable {α : Type} {c : OffsetCache α} {key : CacheKey} {start tolerance : Nat}
  {limit : Option Nat} {compile : Traced α} {text : α → String}

/-- The statements under the key they were compiled for are all there; under another key there are
none. -/
lemma underKey_cases (c : OffsetCache α) (key : CacheKey) :
    (c.key = some key ∧ (c.underKey key).1 = c) ∨
    (c.key ≠ some key ∧ (c.underKey key).1 = ⟨some key, .empty⟩) := by
  unfold underKey
  by_cases h : c.key = some key
  · exact .inl ⟨h, by rw [if_pos h]⟩
  · exact .inr ⟨h, by rw [if_neg h]⟩

/-- After the look at the key, the statements are those of the key. -/
@[simp] lemma key_underKey (c : OffsetCache α) (key : CacheKey) :
    (c.underKey key).1.key = some key := by
  rcases underKey_cases c key with ⟨h, e⟩ | ⟨_, e⟩
  · rw [e, h]
  · rw [e]

/-- The look at the key adds no statement. -/
lemma mem_of_mem_underKey {e : Nat × α} (h : e ∈ (c.underKey key).1.entries.entries) :
    c.key = some key ∧ e ∈ c.entries.entries := by
  rcases underKey_cases c key with ⟨hk, he⟩ | ⟨_, he⟩
  · rw [he] at h
    exact ⟨hk, h⟩
  · rw [he] at h
    cases h

/-- The look at the key loses nothing that was compiled for it. -/
lemma underKey_of_key (h : c.key = some key) : (c.underKey key).1 = c := by
  rcases underKey_cases c key with ⟨_, he⟩ | ⟨hk, _⟩
  · exact he
  · exact absurd h hk

/-- Keeping a statement leaves the statements of the other offsets. -/
lemma mem_keep {n : Nat} {a : α} {e : Nat × α} :
    e ∈ (c.keep n a).entries.entries ↔ e = (n, a) ∨ (e ∈ c.entries.entries ∧ e.1 ≠ n) :=
  SortedMap.mem_entries_insert

lemma mem_offsets_iff {n : Nat} : n ∈ c.offsets ↔ ∃ a, (n, a) ∈ c.entries.entries := by
  rw [offsets, SortedMap.keys, List.mem_map]
  constructor
  · rintro ⟨⟨_, a⟩, hmem, rfl⟩
    exact ⟨a, hmem⟩
  · rintro ⟨a, hmem⟩
    exact ⟨(n, a), hmem, rfl⟩

/-- Keeping a statement for a new offset loses none. -/
lemma mem_keep_of_new {n k : Nat} {a b : α} (hnew : k ∉ c.offsets) :
    (n, a) ∈ (c.keep k b).entries.entries ↔ (n, a) ∈ c.entries.entries ∨ (n = k ∧ a = b) := by
  rw [mem_keep, Prod.mk.injEq, or_comm]
  refine or_congr_left (and_iff_left_of_imp ?_)
  rintro hmem rfl
  exact hnew (mem_offsets_iff.2 ⟨a, hmem⟩)

/-- Keeping a statement adds its offset. -/
lemma mem_offsets_keep {n k : Nat} {a : α} :
    k ∈ (c.keep n a).offsets ↔ k = n ∨ k ∈ c.offsets := by
  simp only [mem_offsets_iff, mem_keep, Prod.mk.injEq]
  by_cases h : k = n <;> simp [h]

/-- No statement is found for a row just if all start behind it. -/
lemma floor?_eq_none_iff : c.entries.floor? start = none ↔ ∀ n ∈ c.offsets, start < n := by
  rw [SortedMap.floor?_eq_none_iff, offsets, SortedMap.keys, List.forall_mem_map]
  simp only [Nat.isLE_compare, Nat.not_le]

/-- The statement that is found for a row starts last of those that do not start behind it. -/
lemma floor?_eq_some_iff {n : Nat} {a : α} :
    c.entries.floor? start = some (n, a) ↔
      (n, a) ∈ c.entries.entries ∧ n ≤ start ∧ ∀ k ∈ c.offsets, k ≤ start → k ≤ n := by
  rw [SortedMap.floor?_eq_some_iff, offsets, SortedMap.keys, List.forall_mem_map]
  simp only [Nat.isLE_compare]

/-- A page comes from the nearest statement, from a statement compiled for offset 0, or not at
all. -/
lemma serve_cases (c : OffsetCache α) (key : CacheKey) (start : Nat) (limit : Option Nat)
    (compile : Traced α) :
    (∃ n a, (c.underKey key).1.entries.floor? start = some (n, a) ∧
      (c.serve key start limit compile).1 = (c.underKey key).1 ∧
      (c.serve key start limit compile).2.outcome = .ok ⟨a, limit, start - n⟩) ∨
    (∃ a, (c.underKey key).1.entries.floor? start = none ∧ compile.outcome = .ok a ∧
      (c.serve key start limit compile).1 = (c.underKey key).1.keep 0 a ∧
      (c.serve key start limit compile).2.outcome = .ok ⟨a, limit, start⟩) ∨
    (∃ e, (c.underKey key).1.entries.floor? start = none ∧ compile.outcome = .error e ∧
      (c.serve key start limit compile).1 = (c.underKey key).1 ∧
      (c.serve key start limit compile).2.outcome = .error e) := by
  unfold serve
  obtain ⟨u, events⟩ := c.underKey key
  cases hf : u.entries.floor? start with
  | some e =>
    obtain ⟨n, a⟩ := e
    exact .inl ⟨n, a, rfl, by simp [hf], by simp [hf]⟩
  | none =>
    cases ho : compile.outcome with
    | ok a => exact .inr (.inl ⟨a, rfl, rfl, by simp [hf], by simp [hf]⟩)
    | error e => exact .inr (.inr ⟨e, rfl, rfl, by simp [hf], by simp [hf]⟩)

/-- The offset and the statement that a row is looked for in: the nearest one, or else the plain
one. -/
def source (c : OffsetCache α) (start : Nat) (plain : Except Failure α) :
    Except Failure (Nat × α) :=
  match c.entries.floor? start with
  | some e => .ok e
  | none => plain.map fun a => (0, a)

/-- The statements that are kept once a row was looked for: if none starts up to it, also the plain
one. -/
def ensure (c : OffsetCache α) (start : Nat) (plain : Except Failure α) : OffsetCache α :=
  match c.entries.floor? start with
  | some _ => c
  | none =>
    match plain with
    | .ok a => c.keep 0 a
    | .error _ => c

/-- Looking for a row leaves the statements, or adds the plain one where none starts up to the
row. -/
lemma ensure_cases (c : OffsetCache α) (start : Nat) (plain : Except Failure α) :
    c.ensure start plain = c ∨
    ∃ a, c.entries.floor? start = none ∧ plain = .ok a ∧ c.ensure start plain = c.keep 0 a := by
  unfold ensure
  cases c.entries.floor? start with
  | some e => exact .inl rfl
  | none =>
    cases plain with
    | error e => exact .inl rfl
    | ok a => exact .inr ⟨a, rfl, rfl, rfl⟩

/-- Looking for a row leaves the key. -/
lemma key_ensure (c : OffsetCache α) (start : Nat) (plain : Except Failure α) :
    (c.ensure start plain).key = c.key := by
  rcases ensure_cases c start plain with h | ⟨a, _, _, h⟩
  · rw [h]
  · rw [h]
    rfl

/-- The plain statement is all that is added, and only where no statement starts up to the row. -/
lemma mem_ensure_iff {plain : Except Failure α} {n : Nat} {a : α} :
    (n, a) ∈ (c.ensure start plain).entries.entries ↔ (n, a) ∈ c.entries.entries ∨
      (n = 0 ∧ (∀ k ∈ c.offsets, start < k) ∧ plain = .ok a) := by
  unfold ensure
  cases hfloor : c.entries.floor? start with
  | some e =>
    obtain ⟨hmem, hle, _⟩ := floor?_eq_some_iff.1 hfloor
    refine (or_iff_left ?_).symm
    rintro ⟨_, hbehind, _⟩
    exact absurd (hbehind e.1 (mem_offsets_iff.2 ⟨e.2, hmem⟩)) (Nat.not_lt.2 hle)
  | none =>
    have hbehind := floor?_eq_none_iff.1 hfloor
    have hnew : 0 ∉ c.offsets := fun hmem => Nat.not_lt_zero start (hbehind 0 hmem)
    cases plain with
    | error e => simp
    | ok b =>
      refine (mem_keep_of_new hnew).trans (or_congr_right (and_congr_right fun _ => ⟨?_, ?_⟩))
      · rintro rfl
        exact ⟨hbehind, rfl⟩
      · rintro ⟨_, hb⟩
        exact (Except.ok.inj hb).symm

/-- A page leaves the statements under the key that the search for its first row leaves. -/
lemma fst_serve (c : OffsetCache α) (key : CacheKey) (start : Nat) (limit : Option Nat)
    (compile : Traced α) :
    (c.serve key start limit compile).1 =
      (c.underKey key).1.ensure start compile.outcome := by
  rcases serve_cases c key start limit compile with
    ⟨n, a, hfloor, hrun, _⟩ | ⟨a, hfloor, ha, hrun, _⟩ | ⟨e, hfloor, he, hrun, _⟩
  · rw [hrun, ensure.eq_def, hfloor]
  · rw [hrun, ensure.eq_def, hfloor, ha]
  · rw [hrun, ensure.eq_def, hfloor, he]

/-- A page comes from where its first row is looked for. -/
lemma outcome_serve (c : OffsetCache α) (key : CacheKey) (start : Nat) (limit : Option Nat)
    (compile : Traced α) :
    (c.serve key start limit compile).2.outcome =
      ((c.underKey key).1.source start compile.outcome).map fun e =>
        ⟨e.2, limit, start - e.1⟩ := by
  rcases serve_cases c key start limit compile with
    ⟨n, a, hfloor, _, hout⟩ | ⟨a, hfloor, ha, _, hout⟩ | ⟨e, hfloor, he, _, hout⟩
  · rw [hout, source, hfloor]
    rfl
  · rw [hout, source, hfloor, ha]
    rfl
  · rw [hout, source, hfloor, he]
    rfl

/-- A page from an offset with a statement comes from that statement, with no row to skip. -/
lemma serve_of_mem {n : Nat} {a : α} (hkey : c.key = some key) (h : (n, a) ∈ c.entries.entries)
    (limit : Option Nat) (compile : Traced α) :
    (c.serve key n limit compile).2.outcome = .ok ⟨a, limit, 0⟩ := by
  have hfloor := SortedMap.floor?_eq_some_of_mem h
  rw [← underKey_of_key hkey] at hfloor
  rcases serve_cases c key n limit compile with
    ⟨n', a', hfloor', _, hout⟩ | ⟨_, hnone, _⟩ | ⟨_, hnone, _⟩
  · rw [hfloor] at hfloor'
    cases hfloor'
    rw [hout, Nat.sub_self]
  · rw [hfloor] at hnone
    cases hnone
  · rw [hfloor] at hnone
    cases hnone

/-- A registration does nothing for offset 0 or near a statement, adds the statement of its offset,
or fails. -/
lemma register_cases (c : OffsetCache α) (key : CacheKey) (start tolerance : Nat)
    (text : α → String) (compile : Traced α) :
    (start = 0 ∧ (c.register key start tolerance text compile).1 = c) ∨
    (0 < start ∧ (∃ n a, (c.underKey key).1.entries.floor? start = some (n, a) ∧
        start - n ≤ tolerance) ∧
      (c.register key start tolerance text compile).1 = (c.underKey key).1) ∨
    (∃ a, 0 < start ∧ (∀ n b, (c.underKey key).1.entries.floor? start = some (n, b) →
        tolerance < start - n) ∧ compile.outcome = .ok a ∧
      (c.register key start tolerance text compile).1 = (c.underKey key).1.keep start a) ∨
    (∃ e, 0 < start ∧ compile.outcome = .error e ∧
      (c.register key start tolerance text compile).1 = (c.underKey key).1) := by
  unfold register
  by_cases h0 : start = 0
  · exact .inl ⟨h0, by rw [if_pos h0]⟩
  right
  have hpos : 0 < start := Nat.pos_of_ne_zero h0
  simp only [if_neg h0]
  obtain ⟨u, events⟩ := c.underKey key
  split
  · rename_i n a hf
    obtain ⟨hfloor, hnear⟩ := Option.filter_eq_some_iff.1 hf
    exact .inl ⟨hpos, ⟨n, a, hfloor, by simpa using hnear⟩, rfl⟩
  · rename_i hf
    right
    have hfar : ∀ n b, u.entries.floor? start = some (n, b) → tolerance < start - n := by
      intro n b hfloor
      rw [hfloor] at hf
      have hfar : ¬ start - n ≤ tolerance := by simpa using hf
      exact Nat.lt_of_not_le hfar
    cases ho : compile.outcome with
    | ok a => exact .inl ⟨a, hpos, hfar, rfl, rfl⟩
    | error e => exact .inr ⟨e, hpos, rfl, rfl⟩

end ObjectQuery.OffsetCache
