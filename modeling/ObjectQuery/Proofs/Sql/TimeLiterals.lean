import Mathlib
import ObjectQuery.Proofs.Sql.Bags
import ObjectQuery.Proofs.Time.Calendar

/-!
# Literals of points in time

Days, times and universal times are all written as their exact number of milliseconds, rounded down,
so their literals are in the order of the clock. Values that mean the same point in time have the same
literal, and a bag that has one of them is not changed by another one (`time_literals_ordered`).
-/

namespace ObjectQuery

/-- The value means a point in time that is no leap second: a day its midnight, and a time without a
zone the universal time it shows. -/
inductive Value.IsTime : Value → DateTime → Prop where
  | date (d : Date) : IsTime (.date d) ⟨d, .midnight⟩
  | dateTime {t : DateTime} :
    t.time.second < 60 →
    IsTime (.dateTime t) t
  | universalTime {t : DateTime} :
    t.time.second < 60 →
    IsTime (.universalTime t) t

namespace Value.IsTime

variable {v w : Value} {t u : DateTime}

lemma second_lt (h : v.IsTime t) : t.time.second < 60 := by
  cases h with
  | date d => exact (by decide : TimeOfDay.midnight.second < 60)
  | dateTime h => exact h
  | universalTime h => exact h

lemma epochMillis?_eq (h : v.IsTime t) : v.epochMillis? = some t.epochMillis := by
  cases h <;> rfl

lemma literal_eq (h : v.IsTime t) (p : Platform) : p.literal v = .ok (toString t.epochMillis) := by
  cases h <;> rfl

/-- All points in time can be compared with the same nodes. -/
lemma comparable_eq (hv : v.IsTime t) (hw : w.IsTime u) (m : Model) (n : Node) :
    Sql.Scope.comparable m n v = Sql.Scope.comparable m n w := by
  cases n with
  | object c => cases hv <;> cases hw <;> rfl
  | expr e =>
    cases htype : e.type? <;> cases hv <;> cases hw <;> simp only [Sql.Scope.comparable, htype] <;>
      rfl

end Value.IsTime

namespace Sql.Scope

variable {s : Scope} {left : Term}

/-- The members are determined by which literals there are. -/
lemma literalMembers_congr {literals literals' : List String}
    (h : ∀ l, l ∈ literals ↔ l ∈ literals') :
    literalMembers left literals = literalMembers left literals' := by
  apply SortedMap.ext_get?
  intro k
  ext c
  rw [SortedMap.get?_eq_some_iff, SortedMap.get?_eq_some_iff, mem_literalMembers,
    mem_literalMembers]
  exact exists_congr fun l => and_congr_left' (h l)

/-- A value with the literal of another one adds nothing to the members of a bag. -/
lemma members_insert {before after : List Value} {v w : Value} {l : String}
    (hv : s.platform.literal v = .ok l) (hw : s.platform.literal w = .ok l)
    (hmem : v ∈ before ++ after) :
    s.members left (before ++ w :: after) = s.members left (before ++ after) := by
  simp only [members_eq, List.mapM_append, List.mapM_cons, hw]
  cases hbefore : before.mapM s.platform.literal with
  | error e => rfl
  | ok literals =>
    cases hafter : after.mapM s.platform.literal with
    | error e => rfl
    | ok literals' =>
      have hknown : l ∈ literals ++ literals' := by
        rcases List.mem_append.1 hmem with hmem | hmem
        · obtain ⟨_, hl, hv'⟩ := (Except.mapM_eq_ok_iff.1 hbefore).exists_of_mem_left hmem
          obtain rfl := Except.ok.inj (hv.symm.trans hv')
          exact List.mem_append_left _ hl
        · obtain ⟨_, hl, hv'⟩ := (Except.mapM_eq_ok_iff.1 hafter).exists_of_mem_left hmem
          obtain rfl := Except.ok.inj (hv.symm.trans hv')
          exact List.mem_append_right _ hl
      refine congrArg Except.ok (literalMembers_congr fun l' => ?_)
      rw [List.perm_middle.mem_iff, List.mem_cons, or_iff_right_of_imp]
      rintro rfl
      exact hknown

/-- A value that can be compared with the nodes of another one and has its literal adds nothing to a
bag. -/
lemma bag_insert {n : Node} {op : Membership} {before after : List Value} {v w : Value} {l : String}
    (hcomparable : comparable s.model n v = comparable s.model n w)
    (hv : s.platform.literal v = .ok l) (hw : s.platform.literal w = .ok l)
    (hmem : v ∈ before ++ after) :
    s.bag n op (before ++ w :: after) = s.bag n op (before ++ after) := by
  have hmembers (left : Term) :
      s.members left ((before ++ w :: after).filter (comparable s.model n)) =
        s.members left ((before ++ after).filter (comparable s.model n)) := by
    rw [List.filter_append, List.filter_append, List.filter_cons]
    split
    · rename_i hkept
      have hmem' : v ∈ (before ++ after).filter (comparable s.model n) :=
        List.mem_filter.2 ⟨hmem, hcomparable.trans hkept⟩
      rw [List.filter_append] at hmem'
      exact members_insert hv hw hmem'
    · rfl
  simp only [bag, hmembers]

end Sql.Scope

/-- Points in time are written as the exact number of milliseconds from 1970-01-01T00:00:00, rounded
down, which 64 bits are enough for. An earlier one, by the clock as by that number, has no greater
literal, and one at the same instant has the same literal and adds nothing to a bag. -/
theorem time_literals_ordered {v w : Value} {t u : DateTime} (hv : v.IsTime t) (hw : w.IsTime u) :
    (∃! x, t.MillisFromEpoch x) ∧ (∃! y, u.MillisFromEpoch y) ∧
    ∀ x y, t.MillisFromEpoch x → u.MillisFromEpoch y →
      v.epochMillis? = some ⌊x⌋ ∧ w.epochMillis? = some ⌊y⌋ ∧
      (Int64.minValue.toInt ≤ ⌊x⌋ ∧ ⌊x⌋ ≤ Int64.maxValue.toInt) ∧
      (Int64.minValue.toInt ≤ ⌊y⌋ ∧ ⌊y⌋ ≤ Int64.maxValue.toInt) ∧
      (∀ p : Platform, p.literal v = .ok (toString ⌊x⌋) ∧ p.literal w = .ok (toString ⌊y⌋)) ∧
      (t.parts ≤ u.parts ↔ x ≤ y) ∧
      (x ≤ y → ⌊x⌋ ≤ ⌊y⌋) ∧
      (x = y → (∀ p : Platform, p.literal v = p.literal w) ∧
        ∀ (s : Sql.Scope) n op before after, v ∈ before ++ after →
          s.bag n op (before ++ w :: after) = s.bag n op (before ++ after)) := by
  refine ⟨t.existsUnique_millisFromEpoch, u.existsUnique_millisFromEpoch, fun x y hx hy => ?_⟩
  have ht := DateTime.epochMillis_eq_floor hx
  have hu := DateTime.epochMillis_eq_floor hy
  have hliteral (p : Platform) := hv.literal_eq p
  have hliteral' (p : Platform) := hw.literal_eq p
  simp only [← ht, ← hu]
  refine ⟨hv.epochMillis?_eq, hw.epochMillis?_eq, t.epochMillis_bounds, u.epochMillis_bounds,
    fun p => ⟨hliteral p, hliteral' p⟩,
    DateTime.parts_le_iff hv.second_lt hw.second_lt hx hy, fun hle => ?_, fun heq => ?_⟩
  · rw [ht, hu]
    exact Int.floor_mono hle
  · have hsame : t.epochMillis = u.epochMillis := by rw [ht, hu, heq]
    refine ⟨fun p => ?_, fun s n op before after hmem => ?_⟩
    · rw [hliteral, hliteral', hsame]
    · refine Sql.Scope.bag_insert (hv.comparable_eq hw s.model n) (hliteral _) ?_ hmem
      rw [hliteral', hsame]

namespace Sample

/-- The day before the count of days starts. -/
def lastDay : Date :=
  ⟨1969, 12, 31, by decide⟩

/-- The last nanosecond of the day. -/
def lastInstant : DateTime :=
  ⟨lastDay, (TimeOfDay.ofParts? 23 59 59 999999999).get (by decide)⟩

end Sample

/-- The last instant before 1970 is less than a millisecond away, which counts as a whole one, and the
midnight before it can be written as a day or as a time. -/
theorem time_literals_ordered_last_day :
    (Value.date Sample.lastDay).IsTime ⟨Sample.lastDay, .midnight⟩ ∧
    (Value.dateTime ⟨Sample.lastDay, .midnight⟩).IsTime ⟨Sample.lastDay, .midnight⟩ ∧
    (Value.universalTime Sample.lastInstant).IsTime Sample.lastInstant ∧
    DateTime.MillisFromEpoch ⟨Sample.lastDay, .midnight⟩ (-86400000) ∧
    Sample.lastInstant.MillisFromEpoch (-1 / 1000000) ∧
    Platform.sqlite.literal (.date Sample.lastDay) = .ok "-86400000" ∧
    Platform.sqlite.literal (.universalTime Sample.lastInstant) = .ok "-1" ∧
    (Sql.Scope.ofQuery Sample.company .sqlite Sample.employees).bag
        (.expr (.value (.universalTime Sample.lastInstant))) .isIn
        [.date Sample.lastDay, .dateTime ⟨Sample.lastDay, .midnight⟩] =
      (Sql.Scope.ofQuery Sample.company .sqlite Sample.employees).bag
        (.expr (.value (.universalTime Sample.lastInstant))) .isIn [.date Sample.lastDay] := by
  have hday : (Value.date Sample.lastDay).IsTime ⟨Sample.lastDay, .midnight⟩ := .date _
  have hmidnight : (Value.dateTime ⟨Sample.lastDay, .midnight⟩).IsTime
      ⟨Sample.lastDay, .midnight⟩ := .dateTime (by decide)
  have hinstant : (Value.universalTime Sample.lastInstant).IsTime Sample.lastInstant :=
    .universalTime (by decide)
  have hnumber : Sample.lastDay.Numbered (-1) := .previous .epoch (by decide)
  have hmillis : DateTime.MillisFromEpoch ⟨Sample.lastDay, .midnight⟩ (-86400000) :=
    ⟨-1, hnumber, by norm_num [TimeOfDay.midnight]⟩
  have hmillis' : Sample.lastInstant.MillisFromEpoch (-1 / 1000000) :=
    ⟨-1, hnumber, by norm_num [Sample.lastInstant, TimeOfDay.ofParts?]⟩
  obtain ⟨_, _, hordered⟩ := time_literals_ordered hday hinstant
  obtain ⟨_, _, hsame⟩ := time_literals_ordered hday hmidnight
  obtain ⟨_, _, _, _, hliterals, _⟩ := hordered _ _ hmillis hmillis'
  obtain ⟨hfirst, hsecond⟩ := hliterals .sqlite
  obtain ⟨_, _, _, _, _, _, _, hequal⟩ := hsame _ _ hmillis hmillis
  obtain ⟨_, hbag⟩ := hequal rfl
  refine ⟨hday, hmidnight, hinstant, hmillis, hmillis', ?_, ?_, ?_⟩
  · rw [hfirst]
    norm_num
    rfl
  · rw [hsecond]
    norm_num
    rfl
  · exact hbag _ _ _ [.date Sample.lastDay] [] List.mem_cons_self

end ObjectQuery
