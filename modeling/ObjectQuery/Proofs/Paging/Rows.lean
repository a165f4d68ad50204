import Mathlib
import ObjectQuery.Proofs.Paging.Session
import ObjectQuery.Proofs.Sql.Compilation

/-!
# The rows of pages

A page skips the rows before it, or starts at a statement that seeks the rows beyond the key of the
row before an offset. The second is as good as the first exactly where the key rises at the offset:
rows with the same key on both sides of it are lost. So the pages served after a history of calls
are all right if and only if each offset kept stands where the key rises or at the end of the rows
(`pages_exact_iff_strict`).
-/

namespace ObjectQuery

variable {ρ κ : Type} [LinearOrder κ]

/-- Rows in nondecreasing order of a key. -/
structure KeyedRows (ρ κ : Type) [LinearOrder κ] where
  rows : List ρ
  key : ρ → κ
  sorted : rows.Pairwise fun a b => key a ≤ key b

namespace KeyedRows

/-- The key of the row at a position. -/
def keyAt (R : KeyedRows ρ κ) (i : Nat) : Option κ :=
  R.rows[i]?.map R.key

/-- The rows beyond a key. -/
def beyond (R : KeyedRows ρ κ) (k : κ) : List ρ :=
  R.rows.filter fun r => k < R.key r

/-- The key rises at the offset, or the rows end there. -/
def StrictAt (R : KeyedRows ρ κ) (n : Nat) : Prop :=
  n = R.rows.length ∨ ∃ a b, R.keyAt (n - 1) = some a ∧ R.keyAt n = some b ∧ a < b

/-- At most `limit` of the rows from row `start` on. -/
def cut (rows : List ρ) (start : Nat) (limit : Option Nat) : List ρ :=
  match limit with
  | none => rows.drop start
  | some n => (rows.drop start).take n

/-- What is cut after a drop is cut further on. -/
lemma cut_drop (rows : List ρ) {n start : Nat} (h : n ≤ start) (limit : Option Nat) :
    cut (rows.drop n) (start - n) limit = cut rows start limit := by
  have hdrop : (rows.drop n).drop (start - n) = rows.drop start := by
    rw [List.drop_drop, Nat.add_sub_cancel' h]
  cases limit with
  | none => exact hdrop
  | some l => simp only [cut, hdrop]

/-- No row before an offset has a key beyond that of the last one before it. -/
lemma filter_take {R : KeyedRows ρ κ} {n : Nat} {a : κ} (hpos : 0 < n)
    (ha : R.keyAt (n - 1) = some a) : (R.rows.take n).filter (fun r => a < R.key r) = [] := by
  obtain ⟨last, hlast, rfl⟩ := Option.map_eq_some_iff.1 ha
  obtain ⟨hlen, hget⟩ := List.getElem?_eq_some_iff.1 hlast
  apply List.filter_eq_nil_iff.2
  intro r hr
  obtain ⟨i, hi, rfl⟩ := List.mem_take_iff_getElem.1 hr
  have hle : R.key R.rows[i] ≤ R.key last := by
    rcases Nat.lt_or_ge i (n - 1) with hlt | hge
    · rw [← hget]
      exact List.pairwise_iff_getElem.1 R.sorted i (n - 1) _ hlen hlt
    · have heq : i = n - 1 := by omega
      subst heq
      rw [hget]
  simpa using hle

/-- All rows from an offset on have keys beyond one that is below the first of them. -/
lemma filter_drop {R : KeyedRows ρ κ} {n : Nat} {a b : κ} (hb : R.keyAt n = some b) (hab : a < b) :
    (R.rows.drop n).filter (fun r => a < R.key r) = R.rows.drop n := by
  obtain ⟨first, hfirst, rfl⟩ := Option.map_eq_some_iff.1 hb
  obtain ⟨hlen, hget⟩ := List.getElem?_eq_some_iff.1 hfirst
  apply List.filter_eq_self.2
  intro r hr
  obtain ⟨i, hi, rfl⟩ := List.mem_drop_iff_getElem.1 hr
  have hle : R.key first ≤ R.key R.rows[n + i] := by
    rcases Nat.eq_zero_or_pos i with rfl | hpos
    · simp [hget]
    · rw [← hget]
      exact List.pairwise_iff_getElem.1 R.sorted n (n + i) hlen _ (by omega)
  have hlt : a < R.key R.rows[n + i] := lt_of_lt_of_le hab hle
  simpa using hlt

/-- The rows beyond the key of the row before an offset are those from the offset on exactly where
the key rises. -/
lemma beyond_eq_drop_iff {R : KeyedRows ρ κ} {n : Nat} {a : κ} (hpos : 0 < n)
    (ha : R.keyAt (n - 1) = some a) : R.beyond a = R.rows.drop n ↔ R.StrictAt n := by
  have hsplit : R.beyond a = (R.rows.drop n).filter fun r => a < R.key r := by
    unfold beyond
    conv_lhs => rw [← List.take_append_drop n R.rows, List.filter_append]
    rw [filter_take hpos ha, List.nil_append]
  rw [hsplit]
  constructor
  · intro h
    rcases Nat.lt_or_ge n R.rows.length with hlen | hlen
    · right
      have hmem : R.rows[n] ∈ R.rows.drop n :=
        List.mem_drop_iff_getElem.2 ⟨0, by simpa using hlen, by simp⟩
      have hrise : a < R.key R.rows[n] := by
        simpa using List.filter_eq_self.1 h _ hmem
      refine ⟨a, R.key R.rows[n], ha, ?_, hrise⟩
      rw [keyAt, List.getElem?_eq_getElem hlen]
      rfl
    · left
      obtain ⟨last, hlast, _⟩ := Option.map_eq_some_iff.1 ha
      obtain ⟨hlast, _⟩ := List.getElem?_eq_some_iff.1 hlast
      omega
  · rintro (rfl | ⟨a', b, ha', hb, hab⟩)
    · rw [List.drop_length]
      rfl
    · obtain rfl : a' = a := Option.some.inj (ha'.symm.trans ha)
      exact filter_drop hb hab

end KeyedRows

namespace Page

/-- The rows of a page, if a statement stands for rows. -/
def rows (answer : Sql.Statement → List ρ) (page : Page Sql.Statement) : List ρ :=
  KeyedRows.cut (answer page.body) page.skip page.limit

end Page

namespace Session

/-- A call of a generator for the model and platform, which gives the key of the row before an
offset where it registers one. -/
def Documented (R : KeyedRows ρ κ) (denote : Value → κ) (m : Model) (p : Platform) : Action → Prop
  | .edit _ => False
  | .page g _ _ => g.model = m ∧ g.platform = p
  | .register g start value => g.model = m ∧ g.platform = p ∧
    1 ≤ start ∧ start ≤ R.rows.length ∧ R.keyAt (start - 1) = some (denote value)

/-- Statements stand for rows: that of the query alone for all of them, and one that seeks a value
registered for those with a key beyond it. -/
structure Answers (R : KeyedRows ρ κ) (denote : Value → κ) (m : Model) (p : Platform) (q : Query)
    (calls : Session) (answer : Sql.Statement → List ρ) : Prop where
  plain : ∀ s, (Sql.compile m p .whole none q).outcome = .ok s → answer s = R.rows
  beyond : ∀ g n value key s, .register g n value ∈ calls → q.seekKey? = some key →
    (Sql.compile m p .whole (some ⟨key, value⟩) q).outcome = .ok s →
    answer s = R.beyond (denote value)

variable {R : KeyedRows ρ κ} {denote : Value → κ} {m : Model} {p : Platform} {q : Query}
  {calls : Session} {answer : Sql.Statement → List ρ}

/-- Calls leave the query. -/
lemma edited_of_documented (documented : ∀ a ∈ calls, Documented R denote m p a) :
    edited q calls = q := by
  unfold edited
  induction calls generalizing q with
  | nil => rfl
  | cons a calls ih =>
    have ha := documented a List.mem_cons_self
    have hcalls := fun a' ha' => documented a' (List.mem_cons_of_mem a ha')
    cases a with
    | edit e => exact ha.elim
    | page g start limit => exact ih hcalls
    | register g start value => exact ih hcalls

/-- The generators of documented calls are for the model and platform. -/
lemma key_of_documented (documented : ∀ a ∈ calls, Documented R denote m p a) {g : Generator}
    (hg : g ∈ calls.generators) : g.model = m ∧ g.platform = p := by
  obtain ⟨a, ha, hga⟩ := List.mem_filterMap.1 hg
  have hdoc := documented a ha
  cases a with
  | edit e => cases hga
  | page g' start limit =>
    cases hga
    exact hdoc
  | register g' start value =>
    cases hga
    exact ⟨hdoc.1, hdoc.2.1⟩

/-- The statement kept for an offset stands for all rows, or for those beyond the key of the row
before the offset. Either way the query alone compiles. -/
lemma answer_of_kept (documented : ∀ a ∈ calls, Documented R denote m p a)
    (answers : Answers R denote m p q calls answer) {n : Nat} {s : Sql.Statement}
    (h : Kept m p calls.sinceEdit q n s) :
    (∃ plain, (Sql.compile m p .whole none q).outcome = .ok plain) ∧
    ((n = 0 ∧ answer s = R.rows) ∨
      (0 < n ∧ ∃ a, R.keyAt (n - 1) = some a ∧ answer s = R.beyond a)) := by
  cases h with
  | plain h => exact ⟨⟨s, h⟩, .inl ⟨rfl, answers.plain s h⟩⟩
  | @beyond _ _ g key value hpos hmem _ hkey h =>
    have hmem : .register g n value ∈ calls := (List.rtakeWhile_suffix _ _).subset hmem
    obtain ⟨_, _, _, _, hdoc⟩ := documented _ hmem
    obtain ⟨plain, _, _, _, hplain, _⟩ := Sql.compile_seek_eq_ok_iff.1 h
    refine ⟨⟨plain, hplain⟩, .inr ⟨hpos, denote value, hdoc, ?_⟩⟩
    exact answers.beyond g n value key s hmem hkey h

/-- After documented calls the statements belong to the model and platform. -/
lemma owned_of_documented (documented : ∀ a ∈ calls, Documented R denote m p a)
    {e : Nat × Sql.Statement} (he : e ∈ (run (.ofQuery q) calls).cache.entries.entries) :
    (run (.ofQuery q) calls).cache.key = some ⟨p, m.id⟩ ∧ Kept m p calls.sinceEdit q e.1 e.2 := by
  obtain ⟨g, hg, hkey, hkept⟩ := owned_run q calls e he
  obtain ⟨rfl, rfl⟩ := key_of_documented documented hg
  rw [query_run, edited_of_documented documented] at hkept
  exact ⟨hkey, hkept⟩

/-- After calls of generators for one model and platform that register the documented keys, the
pages of such a generator show exactly the rows asked for, whatever they start at and however many
they are, if and only if the key rises at each offset above 0 that is kept, or the rows end there.
Where the query alone does not compile, a right page is one that fails like it. -/
theorem pages_exact_iff_strict (documented : ∀ a ∈ calls, Documented R denote m p a)
    (answers : Answers R denote m p q calls answer) (tolerance : Nat) :
    (∀ start limit,
      ((Generator.page ⟨m, p, tolerance⟩ (run (.ofQuery q) calls) start limit).2.outcome.map
        (Page.rows answer)) =
      (Sql.compile m p .whole none q).outcome.map fun _ => KeyedRows.cut R.rows start limit) ↔
    ∀ n ∈ (run (.ofQuery q) calls).offsets, 0 < n → R.StrictAt n := by
  have hquery : (run (.ofQuery q) calls).query = q := by
    rw [query_run, edited_of_documented documented]
  have hpage (start : Nat) (limit : Option Nat) :
      (Generator.page ⟨m, p, tolerance⟩ (run (.ofQuery q) calls) start limit).2 =
      ((run (.ofQuery q) calls).cache.serve ⟨p, m.id⟩ start limit
        (Sql.compile m p .whole none q)).2 := by
    change ((run (.ofQuery q) calls).cache.serve ⟨p, m.id⟩ start limit
      (Sql.compile m p .whole none (run (.ofQuery q) calls).query)).2 = _
    rw [hquery]
  simp only [hpage]
  constructor
  · -- the page from a kept offset on shows that the key rises there
    intro right n hn hpos
    obtain ⟨⟨n, s⟩, he, rfl⟩ := List.mem_map.1 hn
    obtain ⟨hkey, hkept⟩ := owned_of_documented documented he
    obtain ⟨⟨plain, hplain⟩, ⟨h0, _⟩ | ⟨_, a, ha, hanswer⟩⟩ :=
      answer_of_kept documented answers hkept
    · exact absurd h0 (Nat.ne_of_gt hpos)
    have hrows := right n none
    rw [OffsetCache.serve_of_mem hkey he, hplain] at hrows
    have hdrop : answer s = R.rows.drop n := Except.ok.inj hrows
    exact (KeyedRows.beyond_eq_drop_iff hpos ha).1 (hanswer.symm.trans hdrop)
  · intro strict start limit
    rcases OffsetCache.serve_cases (run (.ofQuery q) calls).cache ⟨p, m.id⟩ start limit
      (Sql.compile m p .whole none q) with
      ⟨n, s, hfloor, _, hout⟩ | ⟨s, _, hs, _, hout⟩ | ⟨_, _, hs, _, hout⟩
    · obtain ⟨hmem, hle⟩ := SortedMap.mem_of_floor?_eq_some hfloor
      have hle : n ≤ start := Nat.isLE_compare.1 hle
      obtain ⟨_, he⟩ := OffsetCache.mem_of_mem_underKey hmem
      obtain ⟨_, hkept⟩ := owned_of_documented documented he
      obtain ⟨⟨plain, hplain⟩, hanswer⟩ := answer_of_kept documented answers hkept
      have hdrop : answer s = R.rows.drop n := by
        rcases hanswer with ⟨rfl, hanswer⟩ | ⟨hpos, a, ha, hanswer⟩
        · exact hanswer
        · have hstrict := strict n (List.mem_map.2 ⟨(n, s), he, rfl⟩) hpos
          rw [hanswer]
          exact (KeyedRows.beyond_eq_drop_iff hpos ha).2 hstrict
      have hcut :
          KeyedRows.cut (answer s) (start - n) limit = KeyedRows.cut R.rows start limit := by
        rw [hdrop, KeyedRows.cut_drop R.rows hle]
      rw [hout, hplain]
      exact congrArg Except.ok hcut
    · rw [hout, hs]
      exact congrArg (fun rows => Except.ok (KeyedRows.cut rows start limit)) (answers.plain s hs)
    · rw [hout, hs]
      rfl

end Session

namespace Sample

/-- Identities of employees, one of which two rows share. -/
def identities : KeyedRows ℕ ℕ :=
  ⟨[10, 20, 20, 30], id, by decide⟩

/-- The identity that an integer stands for. -/
def identityOf : Value → ℕ
  | .int n => n.toInt.toNat
  | _ => 0

/-- The number that decimal digits spell. -/
def number (digits : String) : ℕ :=
  digits.toList.foldl (fun n c => 10 * n + (c.toNat - '0'.toNat)) 0

/-- The rows of a statement whose last condition, if it has one, compares with an identity. -/
def answer (s : Sql.Statement) : List ℕ :=
  match s.conditions.getLast? with
  | some (.compare _ .greater (.literal text)) => identities.beyond (number text)
  | _ => identities.rows

/-- Two offsets registered for the employees, the second one between the rows that share their
identity. -/
def registrations : Session :=
  [.page ⟨company, .postgreSQL, 0⟩ 0 none,
    .register ⟨company, .postgreSQL, 0⟩ 1 (.int 10),
    .register ⟨company, .postgreSQL, 0⟩ 2 (.int 20)]

/-- The registrations give the identities of the rows before the offsets. -/
lemma documented_registrations :
    ∀ a ∈ registrations, Session.Documented identities identityOf company .postgreSQL a := by
  intro a ha
  simp only [registrations, List.mem_cons, List.not_mem_nil, or_false] at ha
  rcases ha with rfl | rfl | rfl
  · exact ⟨rfl, rfl⟩
  · exact ⟨rfl, rfl, by decide⟩
  · exact ⟨rfl, rfl, by decide⟩

/-- The employees are selected without a condition. -/
lemma conditions_employees {s : Sql.Statement}
    (h : (Sql.compile company .postgreSQL .whole none employees).outcome = .ok s) :
    s.conditions = [] := by
  have hempty : (Sql.compile company .postgreSQL .whole none employees).outcome.toOption.map
      (fun s => s.conditions.isEmpty) = some true := by
    decide +kernel
  rw [h] at hempty
  exact List.isEmpty_iff.1 (Option.some.inj hempty)

/-- The statements of the registrations stand for the rows they seek. -/
lemma answers_registrations :
    Session.Answers identities identityOf company .postgreSQL employees registrations answer where
  plain s h := by
    simp [answer, conditions_employees h]
  beyond g n value key s hmem _ h := by
    obtain ⟨plain, _, k, text, hplain, _, _, htext, rfl⟩ := Sql.compile_seek_eq_ok_iff.1 h
    have hrows : answer (plain.addCondition (.compare k .greater (.literal text))) =
        identities.beyond (number text) := by
      simp [answer, Sql.Statement.addCondition, conditions_employees hplain]
    have hvalue : value = .int 10 ∨ value = .int 20 := by
      simp only [registrations, List.mem_cons, List.not_mem_nil, or_false, reduceCtorEq, false_or,
        Action.register.injEq] at hmem
      rcases hmem with ⟨_, _, h⟩ | ⟨_, _, h⟩
      · exact .inl h
      · exact .inr h
    rw [hrows]
    rcases hvalue with rfl | rfl <;> cases htext <;> decide +kernel

/-- Two rows share their identity at the second offset. -/
lemma not_strictAt_two : ¬ identities.StrictAt 2 := by
  rintro (h | ⟨a, b, ha, hb, hab⟩)
  · cases h
  · cases ha
    cases hb
    exact absurd hab (by decide)

end Sample

/-- The second offset of the registrations loses a row: the key does not rise there. -/
theorem pages_exact_iff_strict_registrations :
    (∀ a ∈ Sample.registrations,
      Session.Documented Sample.identities Sample.identityOf Sample.company .postgreSQL a) ∧
    Session.Answers Sample.identities Sample.identityOf Sample.company .postgreSQL
      Sample.employees Sample.registrations Sample.answer ∧
    ((∀ start limit,
        ((Generator.page ⟨Sample.company, .postgreSQL, 0⟩
          (Session.run (.ofQuery Sample.employees) Sample.registrations) start limit).2.outcome.map
          (Page.rows Sample.answer)) =
        (Sql.compile Sample.company .postgreSQL .whole none Sample.employees).outcome.map
          fun _ => KeyedRows.cut Sample.identities.rows start limit) ↔
      ∀ n ∈ (Session.run (.ofQuery Sample.employees) Sample.registrations).offsets, 0 < n →
        Sample.identities.StrictAt n) ∧
    (Session.run (.ofQuery Sample.employees) Sample.registrations).offsets = [0, 1, 2] ∧
    Sample.identities.StrictAt 1 ∧ ¬ Sample.identities.StrictAt 2 :=
  ⟨Sample.documented_registrations, Sample.answers_registrations,
    Session.pages_exact_iff_strict Sample.documented_registrations Sample.answers_registrations 0,
    by decide +kernel, .inr ⟨10, 20, rfl, rfl, by decide⟩, Sample.not_strictAt_two⟩

end ObjectQuery
