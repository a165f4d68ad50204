import Mathlib
import ObjectQuery.Proofs.Paging.OffsetCache

/-!
# Growth of the statements kept

As long as all calls have one key, statements are added to those kept and none is replaced or
dropped. A call adds one at most, which `Call.Adds` tells from the offsets kept before
(`Call.mem_run_iff`), and an offset that is registered comes further behind each of them than its
tolerance (`run_grows`). Under another key a call finds no statement. The one exception is a
registration of offset 0, which does not even look at the key.
-/

namespace ObjectQuery

namespace OffsetCache

/-- A call on the statements kept: for a page, or to register an offset. -/
inductive Call (α : Type) where
  | serve (start : Nat) (limit : Option Nat) (compile : Traced α)
  | register (start tolerance : Nat) (text : α → String) (compile : Traced α)

variable {α : Type}

namespace Call

/-- The statements kept after the call. -/
def run (key : CacheKey) (c : OffsetCache α) : Call α → OffsetCache α
  | serve start limit compile => (c.serve key start limit compile).1
  | register start tolerance text compile => (c.register key start tolerance text compile).1

/-- The answer to the call: a page if it asks for one. -/
def answer (key : CacheKey) (c : OffsetCache α) : Call α → Except Failure (Option (Page α))
  | serve start limit compile => (c.serve key start limit compile).2.outcome.map some
  | register start tolerance text compile =>
    (c.register key start tolerance text compile).2.outcome.map fun _ => none

/-- The call adds the statement for the offset: that of offset 0 for a page if no statement starts up
to it, and that of a later offset to register if none starts in the window below it. -/
def Adds (c : OffsetCache α) (n : Nat) (a : α) : Call α → Prop
  | serve start _ compile =>
    n = 0 ∧ (∀ k ∈ c.offsets, start < k) ∧ compile.outcome = .ok a
  | register start tolerance _ compile =>
    n = start ∧ 0 < n ∧ (∀ k ∈ c.offsets, k ∉ Set.Icc (n - tolerance) n) ∧
      compile.outcome = .ok a

end Call

/-- The statements kept after calls under one key. -/
def run (key : CacheKey) (c : OffsetCache α) (calls : List (Call α)) : OffsetCache α :=
  calls.foldl (Call.run key) c

/-- No statement is kept for another key. -/
def Under (c : OffsetCache α) (key : CacheKey) : Prop :=
  c.key = some key ∨ c.entries = .empty

variable {c d : OffsetCache α} {key : CacheKey} {call : Call α} {n : Nat} {a : α}

/-- The look at the key drops nothing of the key. -/
lemma Under.entries_underKey (h : c.Under key) : (c.underKey key).1.entries = c.entries := by
  rcases underKey_cases c key with ⟨_, he⟩ | ⟨hkey, he⟩
  · rw [he]
  · rw [he, h.resolve_left hkey]

/-- After the look at the key there are the statements of the key and no others. -/
lemma Under.underKey (h : c.Under key) : (c.underKey key).1 = ⟨some key, c.entries⟩ := by
  rw [← h.entries_underKey, ← key_underKey c key]

/-- A registration does not fail if its compilation does not. -/
lemma outcome_register_of_ok {start tolerance : Nat} {text : α → String} {compile : Traced α}
    (h : compile.outcome = .ok a) :
    (c.register key start tolerance text compile).2.outcome = .ok () := by
  unfold register
  split
  · rfl
  · obtain ⟨u, events⟩ := c.underKey key
    dsimp only
    split
    · rfl
    · rw [h]

namespace Call

/-- A call leaves all as it is, or it leaves statements of its key. -/
lemma key_run (key : CacheKey) (c : OffsetCache α) (call : Call α) :
    call.run key c = c ∨ (call.run key c).key = some key := by
  cases call with
  | serve start limit compile =>
    right
    rw [run, fst_serve, key_ensure, key_underKey]
  | register start tolerance text compile =>
    rcases register_cases c key start tolerance text compile with
      ⟨_, hrun⟩ | ⟨_, _, hrun⟩ | ⟨_, _, _, _, hrun⟩ | ⟨_, _, _, hrun⟩
    · exact .inl hrun
    all_goals
      right
      rw [run, hrun]
      exact key_underKey c key

lemma under_run (h : c.Under key) (call : Call α) : (call.run key c).Under key := by
  rcases key_run key c call with hrun | hkey
  · rw [hrun]
    exact h
  · exact .inl hkey

/-- A page adds the plain statement if there is no statement up to it. -/
lemma mem_serve_iff (h : c.Under key) {start : Nat} {limit : Option Nat} {compile : Traced α} :
    (n, a) ∈ (c.serve key start limit compile).1.entries.entries ↔
      (n, a) ∈ c.entries.entries ∨ (serve start limit compile).Adds c n a := by
  rw [fst_serve, h.underKey]
  exact mem_ensure_iff

/-- A registration adds the statement of its offset if there is none in the window below it. -/
lemma mem_register_iff (h : c.Under key) {start tolerance : Nat} {text : α → String}
    {compile : Traced α} :
    (n, a) ∈ (c.register key start tolerance text compile).1.entries.entries ↔
      (n, a) ∈ c.entries.entries ∨ (register start tolerance text compile).Adds c n a := by
  rcases register_cases c key start tolerance text compile with
    ⟨hzero, hrun⟩ | ⟨_, ⟨k, b, hfloor, hnear⟩, hrun⟩ | ⟨b, hpos, hfar, hb, hrun⟩ |
      ⟨e, _, he, hrun⟩
  · rw [hrun]
    refine (or_iff_left ?_).symm
    rintro ⟨rfl, hpos, _⟩
    exact absurd hzero (Nat.ne_of_gt hpos)
  · -- the nearest statement is in the window
    rw [h.underKey] at hfloor hrun
    obtain ⟨hmem, hle, _⟩ := floor?_eq_some_iff.1 hfloor
    rw [hrun]
    refine (or_iff_left ?_).symm
    rintro ⟨rfl, _, hwindow, _⟩
    exact hwindow k (mem_offsets_iff.2 ⟨b, hmem⟩) ⟨by omega, hle⟩
  · -- the nearest statement starts below the window, and with it all up to the offset
    rw [h.underKey] at hfar hrun
    have hwindow : ∀ k ∈ c.offsets, k ∉ Set.Icc (start - tolerance) start := by
      rintro k hk ⟨hlow, hle⟩
      cases hfloor : c.entries.floor? start with
      | none => exact absurd (floor?_eq_none_iff.1 hfloor k hk) (Nat.not_lt.2 hle)
      | some e =>
        obtain ⟨_, _, hlast⟩ := floor?_eq_some_iff.1 hfloor
        have hkn := hlast k hk hle
        have hdistance := hfar e.1 e.2 hfloor
        omega
    have hnew : start ∉ c.offsets := fun hmem =>
      hwindow start hmem ⟨Nat.sub_le start tolerance, le_rfl⟩
    rw [hrun]
    refine (mem_keep_of_new (c := ⟨some key, c.entries⟩) hnew).trans (or_congr_right ⟨?_, ?_⟩)
    · rintro ⟨rfl, rfl⟩
      exact ⟨rfl, hpos, hwindow, hb⟩
    · rintro ⟨hn, _, _, ha⟩
      exact ⟨hn, Except.ok.inj (ha.symm.trans hb)⟩
  · rw [h.underKey] at hrun
    rw [hrun]
    refine (or_iff_left ?_).symm
    rintro ⟨_, _, _, ha⟩
    cases he.symm.trans ha

/-- After a call there are the statements from before it and the one that it adds. -/
lemma mem_run_iff (h : c.Under key) (call : Call α) :
    (n, a) ∈ (call.run key c).entries.entries ↔ (n, a) ∈ c.entries.entries ∨ call.Adds c n a := by
  cases call with
  | serve start limit compile => exact mem_serve_iff h
  | register start tolerance text compile => exact mem_register_iff h

lemma unchanged (h : c.Under key) (hnone : ∀ n a, ¬ call.Adds c n a) :
    (call.run key c).entries = c.entries := by
  refine SortedMap.ext_get? fun n => Option.ext fun a => ?_
  rw [SortedMap.get?_eq_some_iff, SortedMap.get?_eq_some_iff, mem_run_iff h,
    or_iff_left (hnone n a)]

/-- A call that fails adds nothing, as it is the compilation that fails. -/
lemma not_adds_of_error {e : Failure} (herror : call.answer key c = .error e) (n : Nat) (a : α) :
    ¬ call.Adds c n a := by
  cases call with
  | serve start limit compile =>
    rintro ⟨_, _, ha⟩
    rcases serve_cases c key start limit compile with
      ⟨_, _, _, _, hout⟩ | ⟨_, _, _, _, hout⟩ | ⟨e', _, he', _⟩
    · rw [answer, hout] at herror
      cases herror
    · rw [answer, hout] at herror
      cases herror
    · cases he'.symm.trans ha
  | register start tolerance text compile =>
    rintro ⟨_, _, _, ha⟩
    rw [answer, outcome_register_of_ok ha] at herror
    cases herror

/-- An offset that a call adds behind another one is registered, and the other one is further away
than the tolerance. -/
lemma spaced (h : c.Under key) {b k : Nat} (hb : b ∈ (call.run key c).offsets)
    (hnew : b ∉ c.offsets) (hk : k ∈ c.offsets) (hlt : k < b) :
    ∃ tolerance text compile, call = .register b tolerance text compile ∧ tolerance < b - k := by
  obtain ⟨a, ha⟩ := mem_offsets_iff.1 hb
  have hadds := ((mem_run_iff h call).1 ha).resolve_left fun hmem =>
    hnew (mem_offsets_iff.2 ⟨a, hmem⟩)
  cases call with
  | serve start limit compile =>
    obtain ⟨rfl, _⟩ := hadds
    exact absurd hlt (Nat.not_lt_zero k)
  | register start tolerance text compile =>
    obtain ⟨rfl, _, hwindow, _⟩ := hadds
    have hbelow : k < b - tolerance := by
      by_contra hle
      exact hwindow k hk ⟨Nat.not_lt.1 hle, hlt.le⟩
    exact ⟨tolerance, text, compile, rfl, by omega⟩

/-- Apart from a registration of offset 0, a call goes by the statements of its key alone. -/
lemma run_congr (hsame : (c.underKey key).1 = (d.underKey key).1)
    (hzero : ∀ tolerance text compile, call ≠ .register 0 tolerance text compile) :
    call.run key c = call.run key d ∧ call.answer key c = call.answer key d := by
  cases call with
  | serve start limit compile =>
    constructor
    · rw [run, run, fst_serve, fst_serve, hsame]
    · rw [answer, answer, outcome_serve, outcome_serve, hsame]
  | register start tolerance text compile =>
    have hstart : start ≠ 0 := by
      rintro rfl
      exact hzero tolerance text compile rfl
    simp only [run, answer, OffsetCache.register, if_neg hstart]
    generalize c.underKey key = x at hsame ⊢
    generalize d.underKey key = y at hsame ⊢
    obtain ⟨u, events⟩ := x
    obtain ⟨v, events'⟩ := y
    obtain rfl : u = v := hsame
    dsimp only
    split
    · exact ⟨rfl, rfl⟩
    · cases compile.outcome <;> exact ⟨rfl, rfl⟩

/-- What a call does to the statements of its key. -/
structure Grows (key : CacheKey) (c : OffsetCache α) (call : Call α) : Prop where
  added : ∀ n a, (call.run key c).entries.get? n = some a ↔
    c.entries.get? n = some a ∨ call.Adds c n a
  unchanged : (∀ n a, ¬ call.Adds c n a) → (call.run key c).entries = c.entries
  failed : ∀ e, call.answer key c = .error e → (call.run key c).entries = c.entries
  spaced : ∀ b ∈ (call.run key c).offsets, b ∉ c.offsets → ∀ k ∈ c.offsets, k < b →
    ∃ tolerance text compile, call = .register b tolerance text compile ∧ tolerance < b - k

lemma grows (h : c.Under key) (call : Call α) : call.Grows key c where
  added n a := by
    rw [SortedMap.get?_eq_some_iff, SortedMap.get?_eq_some_iff]
    exact mem_run_iff h call
  unchanged := unchanged h
  failed _ herror := unchanged h (not_adds_of_error herror)
  spaced _ hb hnew _ hk hlt := spaced h hb hnew hk hlt

end Call

/-- One more call comes last. -/
lemma run_append_singleton (key : CacheKey) (c : OffsetCache α) (calls : List (Call α))
    (call : Call α) : run key c (calls ++ [call]) = call.run key (run key c calls) := by
  simp [run]

lemma run_append (key : CacheKey) (c : OffsetCache α) (before after : List (Call α)) :
    run key c (before ++ after) = run key (run key c before) after :=
  List.foldl_append

lemma under_run (h : c.Under key) (calls : List (Call α)) : (run key c calls).Under key := by
  induction calls using List.reverseRecOn with
  | nil => exact h
  | append_singleton calls call ih =>
    rw [run_append_singleton]
    exact Call.under_run ih call

/-- What is kept stays. -/
lemma get?_run (h : c.Under key) (calls : List (Call α)) (hn : c.entries.get? n = some a) :
    (run key c calls).entries.get? n = some a := by
  induction calls using List.reverseRecOn with
  | nil => exact hn
  | append_singleton calls call ih =>
    rw [run_append_singleton]
    exact ((Call.grows (under_run h calls) call).added n a).2 (.inl ih)

/-- An offset is there from the start, or one of the calls adds it. -/
lemma exists_of_mem_offsets_run {b : Nat} {calls : List (Call α)}
    (hb : b ∈ (run key c calls).offsets) :
    b ∈ c.offsets ∨ ∃ before call after, calls = before ++ call :: after ∧
      b ∉ (run key c before).offsets ∧ b ∈ (call.run key (run key c before)).offsets := by
  induction calls using List.reverseRecOn with
  | nil => exact .inl hb
  | append_singleton calls call ih =>
    rw [run_append_singleton] at hb
    by_cases hbefore : b ∈ (run key c calls).offsets
    · refine (ih hbefore).imp_right ?_
      rintro ⟨before, added, after, rfl, hnew, hadded⟩
      exact ⟨before, added, after ++ [call], by simp, hnew, hadded⟩
    · exact .inr ⟨calls, call, [], rfl, hbefore, hb⟩

/-- In calls under one key, each call adds the plain statement for a page that no statement starts up
to, or the statement of a later offset to register that none starts in the window below, as far as
the compilation succeeds, and else it changes nothing. What is kept stays. Every offset is there from
the start or added by a call, and it is further behind each offset from before that call than the
tolerance it is registered with. A call under another key finds no statement, except that a
registration of offset 0 changes nothing under any key. -/
theorem run_grows (h : c.Under key) (calls : List (Call α)) :
    (∀ before call after, calls = before ++ call :: after →
      call.Grows key (run key c before)) ∧
    (∀ before after, calls = before ++ after → ∀ n a,
      (run key c before).entries.get? n = some a → (run key c calls).entries.get? n = some a) ∧
    (∀ b ∈ (run key c calls).offsets, b ∈ c.offsets ∨
      ∃ before call after, calls = before ++ call :: after ∧
        b ∉ (run key c before).offsets ∧ b ∈ (call.run key (run key c before)).offsets) ∧
    (∀ key' (call : Call α), (run key c calls).key ≠ some key' →
      (∀ tolerance text compile, call ≠ .register 0 tolerance text compile) →
      call.run key' (run key c calls) = call.run key' .empty ∧
        call.answer key' (run key c calls) = call.answer key' .empty) ∧
    ∀ key' tolerance text compile,
      (Call.register 0 tolerance text compile).run key' (run key c calls) = run key c calls := by
  refine ⟨?_, ?_, fun _ => exists_of_mem_offsets_run, ?_, fun _ _ _ _ => rfl⟩
  · intro before call _ _
    exact Call.grows (under_run h before) call
  · rintro before after rfl n a hn
    rw [run_append]
    exact get?_run (under_run h before) after hn
  · intro key' call hkey hzero
    apply Call.run_congr _ hzero
    rcases underKey_cases (run key c calls) key' with ⟨hsame, _⟩ | ⟨_, he⟩
    · exact absurd hsame hkey
    · exact he

end OffsetCache

namespace Sample

open OffsetCache

/-- Registrations and pages, of which one registration is as near as its tolerance and one fails. -/
def filling : List (Call String) :=
  [.register 300 10 id ⟨[], .ok "from 300"⟩,
    .register 5 10 id ⟨[], .ok "from 5"⟩,
    .register 15 10 id ⟨[], .ok "from 15"⟩,
    .register 16 10 id ⟨[], .error (.classNotInModel "Guest")⟩,
    .register 16 10 id ⟨[], .ok "from 16"⟩,
    .serve 2 none ⟨[], .ok "all"⟩,
    .serve 400 (some 10) ⟨[], .ok "all again"⟩]

/-- The statements that the calls leave for PostgreSQL. -/
def filled : OffsetCache String :=
  OffsetCache.run ⟨.postgreSQL, ⟨0⟩⟩ .empty filling

end Sample

/-- Each of the four offsets that the sample calls leave was added by one of them, and each call adds
what the window below its offset allows. -/
theorem run_grows_filling :
    (OffsetCache.empty : OffsetCache String).Under ⟨.postgreSQL, ⟨0⟩⟩ ∧
    Sample.filled.offsets = [0, 5, 16, 300] ∧
    (∀ before call after, Sample.filling = before ++ call :: after →
      call.Grows ⟨.postgreSQL, ⟨0⟩⟩ (OffsetCache.run ⟨.postgreSQL, ⟨0⟩⟩ .empty before)) ∧
    ∀ b ∈ Sample.filled.offsets, ∃ before call after, Sample.filling = before ++ call :: after ∧
      b ∉ (OffsetCache.run ⟨.postgreSQL, ⟨0⟩⟩ .empty before).offsets := by
  have hunder : (OffsetCache.empty : OffsetCache String).Under ⟨.postgreSQL, ⟨0⟩⟩ := .inr rfl
  obtain ⟨hgrows, _, horigin, _⟩ := OffsetCache.run_grows hunder Sample.filling
  refine ⟨hunder, by decide +kernel, hgrows, fun b hb => ?_⟩
  rcases horigin b hb with hempty | ⟨before, call, after, hsplit, hnew, _⟩
  · cases hempty
  · exact ⟨before, call, after, hsplit, hnew⟩

/-- A registration of offset 0 for another platform leaves the statements as they are, where an empty
store would stay empty. -/
theorem zero_offset_keeps_statements :
    Sample.filled.key ≠ some ⟨.mySQL, ⟨0⟩⟩ ∧
    ((OffsetCache.Call.register 0 10 id ⟨[], .ok "all"⟩).run ⟨.mySQL, ⟨0⟩⟩
      Sample.filled).offsets = [0, 5, 16, 300] ∧
    ((OffsetCache.Call.register 0 10 id ⟨[], .ok "all"⟩).run ⟨.mySQL, ⟨0⟩⟩
      (.empty : OffsetCache String)).offsets = [] := by
  decide +kernel

end ObjectQuery
