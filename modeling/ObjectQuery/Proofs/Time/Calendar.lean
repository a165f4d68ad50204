import Mathlib
import ObjectQuery.Time.Calendar

/-!
# Counting days and milliseconds

The days of the calendar are numbered from 1970-01-01, one after the other in both directions
(`Date.Numbered`). Each day has one number, the one that is computed from its year, month and day
(`Date.numbered_iff`), and the numbers are in the order of the calendar (`Date.parts_lt_iff`). So the
milliseconds of a time are the exact number of them, rounded down (`DateTime.epochMillis_eq_floor`),
and without leap seconds they are in the order of the clock (`DateTime.parts_le_iff`).
-/

namespace ObjectQuery

lemma daysInMonth_pos (year : Int) (month : Nat) : 0 < daysInMonth year month := by
  unfold daysInMonth
  split
  · split <;> decide
  all_goals decide

namespace Date

section Counts

/-- A year has 365 days, and one more if it has a 29 February. -/
lemma daysBeforeYear_succ (year : Int) :
    daysBeforeYear (year + 1) = daysBeforeYear year + if isLeapYear year then 366 else 365 := by
  have hleap : isLeapYear year = true ↔ year % 4 = 0 ∧ (year % 100 ≠ 0 ∨ year % 400 = 0) := by
    simp [isLeapYear]
  simp only [daysBeforeYear]
  split_ifs with h
  · obtain ⟨hfour, hcentury⟩ := hleap.1 h
    omega
  · rw [hleap] at h
    omega

lemma daysBeforeYear_mono {year year' : Int} (h : year ≤ year') :
    daysBeforeYear year ≤ daysBeforeYear year' := by
  simp only [daysBeforeYear]
  omega

lemma daysBeforeMonth_succ (year : Int) {month : Nat} (h : 1 ≤ month) :
    daysBeforeMonth year (month + 1) = daysBeforeMonth year month + daysInMonth year month := by
  obtain ⟨month, rfl⟩ := Nat.exists_eq_add_of_le' h
  simp only [daysBeforeMonth, Nat.add_sub_cancel, List.range_succ, List.foldl_append,
    List.foldl_cons, List.foldl_nil]

lemma daysBeforeMonth_mono (year : Int) {month month' : Nat} (hmonth : 1 ≤ month)
    (h : month ≤ month') : daysBeforeMonth year month ≤ daysBeforeMonth year month' := by
  induction h with
  | refl => exact le_rfl
  | step h ih =>
    rw [daysBeforeMonth_succ year (hmonth.trans h)]
    exact ih.trans (Nat.le_add_right _ _)

/-- The months make up the year. -/
lemma daysBeforeMonth_thirteen (year : Int) :
    daysBeforeMonth year 13 = if isLeapYear year then 366 else 365 := by
  have hmonths : daysBeforeMonth year 13 = 337 + if isLeapYear year then 29 else 28 := by
    simp only [daysBeforeMonth, List.range, List.range.loop, List.foldl_cons, List.foldl_nil,
      daysInMonth]
    omega
  rw [hmonths]
  split <;> rfl

end Counts

/-- Year, month and day. -/
def parts (d : Date) : List Int :=
  [d.year, d.month, d.day]

/-- The number of a day is that of the first day of its month and what the day adds. -/
lemma epochDays_add_le {d : Date} :
    d.epochDays + 1 ≤ daysBeforeYear d.year - daysBeforeYear 1970 +
      daysBeforeMonth d.year (d.month + 1) := by
  obtain ⟨-, -, hmonth, -, hday, hday'⟩ := d.isDay
  rw [daysBeforeMonth_succ d.year hmonth, epochDays]
  omega

/-- The number of a day is below those of the next year. -/
lemma epochDays_lt_nextYear (d : Date) :
    d.epochDays < daysBeforeYear (d.year + 1) - daysBeforeYear 1970 := by
  obtain ⟨-, -, -, hmonth, -, -⟩ := d.isDay
  have hle := d.epochDays_add_le
  have hmono : daysBeforeMonth d.year (d.month + 1) ≤ daysBeforeMonth d.year 13 :=
    daysBeforeMonth_mono d.year (by omega) (by omega)
  rw [daysBeforeMonth_thirteen] at hmono
  rw [daysBeforeYear_succ]
  split_ifs at hmono ⊢ <;> omega

lemma le_epochDays (d : Date) :
    daysBeforeYear d.year - daysBeforeYear 1970 + daysBeforeMonth d.year d.month ≤ d.epochDays := by
  obtain ⟨-, -, -, -, hday, -⟩ := d.isDay
  rw [epochDays]
  omega

/-- A later day of the calendar has a greater number. -/
lemma epochDays_lt_of_parts_lt {d e : Date} (h : d.parts < e.parts) :
    d.epochDays < e.epochDays := by
  have hd := d.epochDays_lt_nextYear
  have hd' := d.epochDays_add_le
  have he := e.le_epochDays
  simp only [parts, List.cons_lt_cons_iff, Nat.cast_lt, Nat.cast_inj, List.not_lt_nil, and_false,
    or_false] at h
  rcases h with hyear | ⟨hyear, hmonth | ⟨hmonth, hday⟩⟩
  · have hmono := daysBeforeYear_mono (show d.year + 1 ≤ e.year from hyear)
    omega
  · have hmono := daysBeforeMonth_mono e.year (Nat.le_add_left 1 d.month) hmonth
    rw [hyear] at hd'
    omega
  · rw [epochDays, epochDays, hyear, hmonth]
    omega

lemma parts_injective {d e : Date} (h : d.parts = e.parts) : d = e := by
  obtain ⟨year, month, day, _⟩ := d
  obtain ⟨year', month', day', _⟩ := e
  simpa [parts] using h

/-- Days are in the order of their numbers. -/
lemma parts_lt_iff {d e : Date} : d.parts < e.parts ↔ d.epochDays < e.epochDays := by
  refine ⟨epochDays_lt_of_parts_lt, fun h => ?_⟩
  rcases lt_trichotomy d.parts e.parts with hlt | heq | hgt
  · exact hlt
  · rw [parts_injective heq] at h
    exact absurd h (lt_irrefl _)
  · exact absurd (epochDays_lt_of_parts_lt hgt) h.asymm

lemma epochDays_injective {d e : Date} (h : d.epochDays = e.epochDays) : d = e := by
  rcases lt_trichotomy d.parts e.parts with hlt | heq | hgt
  · exact absurd h (parts_lt_iff.1 hlt).ne
  · exact parts_injective heq
  · exact absurd h (parts_lt_iff.1 hgt).ne'

/-- The first day of the count. -/
def epoch : Date :=
  ⟨1970, 1, 1, by decide⟩

/-- Days are numbered from the first of January 1970, along the calendar in both directions. -/
inductive Numbered : Date → Int → Prop where
  | epoch : Numbered epoch 0
  | next {d e : Date} {n : Int} :
    Numbered d n →
    d.next? = some e →
    Numbered e (n + 1)
  | previous {d e : Date} {n : Int} :
    Numbered d n →
    e.next? = some d →
    Numbered e (n - 1)

lemma ofParts?_eq_some_iff {year : Int} {month day : Nat} {d : Date} :
    ofParts? year month day = some d ↔ d.year = year ∧ d.month = month ∧ d.day = day := by
  unfold ofParts?
  constructor
  · intro h
    split at h
    · cases h
      exact ⟨rfl, rfl, rfl⟩
    · cases h
  · rintro ⟨rfl, rfl, rfl⟩
    exact dif_pos d.isDay

/-- The day after has the next number. -/
lemma epochDays_next? {d e : Date} (h : d.next? = some e) : e.epochDays = d.epochDays + 1 := by
  obtain ⟨-, -, hmonth, hmonth', hday, hday'⟩ := d.isDay
  unfold next? at h
  unfold epochDays
  split_ifs at h with hlast hyear
  · obtain ⟨hy, hm, hd⟩ := ofParts?_eq_some_iff.1 h
    rw [hy, hm, hd]
    omega
  · obtain ⟨hy, hm, hd⟩ := ofParts?_eq_some_iff.1 h
    rw [hy, hm, hd, daysBeforeMonth_succ d.year hmonth]
    omega
  · obtain ⟨hy, hm, hd⟩ := ofParts?_eq_some_iff.1 h
    have hdecember : d.month = 12 := by omega
    have hlength := daysBeforeMonth_thirteen d.year
    rw [daysBeforeMonth_succ d.year (by decide : 1 ≤ 12), ← hdecember] at hlength
    rw [hy, hm, hd, daysBeforeYear_succ, show daysBeforeMonth (d.year + 1) 1 = 0 from rfl]
    split_ifs at hlength ⊢ <;> omega

/-- The day before the day after is the day. -/
lemma next?_of_previous? {d e : Date} (h : d.previous? = some e) : e.next? = some d := by
  obtain ⟨-, -, hmonth, hmonth', hday, hday'⟩ := d.isDay
  unfold previous? at h
  unfold next?
  split_ifs at h with hfirst hyear
  · obtain ⟨hy, hm, hd⟩ := ofParts?_eq_some_iff.1 h
    rw [hy, hm, hd, if_pos (by omega), ofParts?_eq_some_iff]
    omega
  · obtain ⟨hy, hm, hd⟩ := ofParts?_eq_some_iff.1 h
    rw [hy, hm, hd, if_neg (lt_irrefl _), if_pos (by omega), ofParts?_eq_some_iff]
    omega
  · obtain ⟨hy, hm, hd⟩ := ofParts?_eq_some_iff.1 h
    have hlast : daysInMonth (d.year - 1) 12 = 31 := rfl
    rw [hy, hm, hd, hlast, if_neg (by decide), if_neg (by decide), ofParts?_eq_some_iff]
    omega

/-- Only the first day of the calendar has no day before. -/
lemma exists_previous? {d : Date} (h : firstYear < d.year) : ∃ e, d.previous? = some e := by
  obtain ⟨-, hyear, hmonth, hmonth', hday, hday'⟩ := d.isDay
  unfold previous? ofParts?
  split_ifs with hfirst hpart hjanuary hpart hpart
  · exact ⟨_, rfl⟩
  · exact absurd ⟨d.isDay.1, hyear, hmonth, hmonth', by omega, by omega⟩ hpart
  · exact ⟨_, rfl⟩
  · exact absurd ⟨d.isDay.1, hyear, by omega, by omega, daysInMonth_pos _ _, le_rfl⟩ hpart
  · exact ⟨_, rfl⟩
  · refine absurd ⟨?_, ?_, by decide, by decide, by decide, le_rfl⟩ hpart <;> omega

/-- Only the last day of the calendar has no day after. -/
lemma exists_next? {d : Date} (h : d.year < lastYear) : ∃ e, d.next? = some e := by
  obtain ⟨hyear, -, hmonth, hmonth', hday, hday'⟩ := d.isDay
  unfold next? ofParts?
  split_ifs with hlast hpart hdecember hpart hpart
  · exact ⟨_, rfl⟩
  · exact absurd ⟨hyear, d.isDay.2.1, hmonth, hmonth', by omega, hlast⟩ hpart
  · exact ⟨_, rfl⟩
  · exact absurd ⟨hyear, d.isDay.2.1, by omega, by omega, le_rfl, daysInMonth_pos _ _⟩ hpart
  · exact ⟨_, rfl⟩
  · refine absurd ⟨?_, ?_, by decide, by decide, le_rfl, daysInMonth_pos _ _⟩ hpart <;> omega

lemma numbered_epochDays (d : Date) : Numbered d d.epochDays := by
  induction hdistance : d.epochDays.natAbs using Nat.strong_induction_on generalizing d with
  | h distance ih =>
    subst hdistance
    rcases lt_trichotomy d.epochDays 0 with hneg | hzero | hpos
    · -- towards 1970 from below
      have hyear : d.year < 1970 := by
        by_contra hyear
        have hmono := daysBeforeYear_mono (not_lt.1 hyear)
        have hle := d.le_epochDays
        omega
      obtain ⟨e, he⟩ := exists_next? (d := d) (hyear.trans (by decide))
      have hnumber := epochDays_next? he
      have hprevious := Numbered.previous (ih _ (by omega) e rfl) he
      rwa [hnumber, add_sub_cancel_right] at hprevious
    · have hepoch : epoch = d := epochDays_injective (hzero.symm ▸ by decide)
      rw [hzero, ← hepoch]
      exact .epoch
    · have hyear : 1970 ≤ d.year := by
        by_contra hyear
        have hmono := daysBeforeYear_mono (show d.year + 1 ≤ 1970 by omega)
        have hlt := d.epochDays_lt_nextYear
        omega
      obtain ⟨e, he⟩ := exists_previous? (d := d) (lt_of_lt_of_le (by decide) hyear)
      have he := next?_of_previous? he
      have hnumber := epochDays_next? he
      have hnext := Numbered.next (ih _ (by omega) e rfl) he
      rwa [← hnumber] at hnext

/-- A day has one number, which its parts determine. -/
lemma numbered_iff {d : Date} {n : Int} : Numbered d n ↔ n = d.epochDays := by
  constructor
  · intro h
    induction h with
    | epoch => decide
    | next _ hnext ih => rw [epochDays_next? hnext, ih]
    | previous _ hnext ih => rw [ih, epochDays_next? hnext, add_sub_cancel_right]
  · rintro rfl
    exact numbered_epochDays d

end Date

namespace DateTime

/-- Year, month, day, hour, minute, second and nanosecond. -/
def parts (t : DateTime) : List Int :=
  t.date.parts ++ [(t.time.hour : Int), (t.time.minute : Int), (t.time.second : Int),
    (t.time.nano : Int)]

/-- The exact number of milliseconds from 1970-01-01T00:00:00 to a time: those of the days up to its
own, and those that the clock shows. -/
def MillisFromEpoch (t : DateTime) (x : ℚ) : Prop :=
  ∃ n, t.date.Numbered n ∧
    x = (((n * 24 + t.time.hour) * 60 + t.time.minute) * 60 + t.time.second) * 1000 +
      t.time.nano / 1000000

/-- The nanoseconds from 1970-01-01T00:00:00. -/
def epochNanos (t : DateTime) : Int :=
  (((t.date.epochDays * 24 + t.time.hour) * 60 + t.time.minute) * 60 + t.time.second) * 1000000000 +
    t.time.nano

lemma millisFromEpoch_iff {t : DateTime} {x : ℚ} :
    t.MillisFromEpoch x ↔ x = (t.epochNanos : ℚ) / (1000000 : ℕ) := by
  have hnanos : ((((t.date.epochDays * 24 + t.time.hour) * 60 + t.time.minute) * 60 +
      t.time.second) * 1000 + t.time.nano / 1000000 : ℚ) =
        (t.epochNanos : ℚ) / (1000000 : ℕ) := by
    rw [epochNanos]
    push_cast
    ring
  rw [← hnanos]
  constructor
  · rintro ⟨n, hn, rfl⟩
    rw [Date.numbered_iff.1 hn]
  · rintro rfl
    exact ⟨_, Date.numbered_epochDays t.date, rfl⟩

/-- There is one exact number of milliseconds. -/
lemma existsUnique_millisFromEpoch (t : DateTime) : ∃! x, t.MillisFromEpoch x :=
  ⟨_, millisFromEpoch_iff.2 rfl, fun _ hx => millisFromEpoch_iff.1 hx⟩

/-- The milliseconds of a time are the exact number of them, rounded down. -/
lemma epochMillis_eq_floor {t : DateTime} {x : ℚ} (hx : t.MillisFromEpoch x) :
    t.epochMillis = ⌊x⌋ := by
  rw [millisFromEpoch_iff.1 hx, Rat.floor_intCast_div_natCast]
  simp only [epochMillis, TimeOfDay.millis, epochNanos]
  omega

/-- All times of the calendar are counted in 64 bits. -/
lemma epochMillis_bounds (t : DateTime) :
    Int64.minValue.toInt ≤ t.epochMillis ∧ t.epochMillis ≤ Int64.maxValue.toInt := by
  obtain ⟨hfirst, hlast, -, -, -, -⟩ := t.date.isDay
  have hlower := t.date.le_epochDays
  have hupper := t.date.epochDays_lt_nextYear
  have hlower' := Date.daysBeforeYear_mono hfirst
  have hupper' := Date.daysBeforeYear_mono (show t.date.year + 1 ≤ lastYear + 1 by omega)
  have hyears : -96000000 < Date.daysBeforeYear firstYear ∧
      Date.daysBeforeYear (lastYear + 1) < 96000000 ∧ Date.daysBeforeYear 1970 = 719162 := by
    decide
  have hints : Int64.minValue.toInt = -9223372036854775808 ∧
      Int64.maxValue.toInt = 9223372036854775807 := by
    decide
  have hhour := t.time.hour_lt
  have hminute := t.time.minute_lt
  have hsecond := t.time.second_le
  have hnano := t.time.nano_lt
  simp only [epochMillis, TimeOfDay.millis]
  omega

/-- Without leap seconds, times are in the order of year, month, day, hour, minute, second and
nanosecond. -/
lemma parts_lt_iff {s t : DateTime} (hs : s.time.second < 60) (ht : t.time.second < 60) :
    s.parts < t.parts ↔ s.epochNanos < t.epochNanos := by
  have hdates : s.date.parts < t.date.parts ↔ s.date.epochDays < t.date.epochDays :=
    Date.parts_lt_iff
  have hsame : s.date.parts = t.date.parts ↔ s.date.epochDays = t.date.epochDays :=
    ⟨fun h => by rw [Date.parts_injective h], fun h => by rw [Date.epochDays_injective h]⟩
  have hs' := s.time.hour_lt
  have hs'' := s.time.minute_lt
  have hs''' := s.time.nano_lt
  have ht' := t.time.hour_lt
  have ht'' := t.time.minute_lt
  have ht''' := t.time.nano_lt
  simp only [Date.parts, List.cons_lt_cons_iff, List.cons.injEq, List.not_lt_nil, and_false,
    or_false, and_true] at hdates hsame
  simp only [parts, Date.parts, List.cons_append, List.nil_append, List.cons_lt_cons_iff,
    List.not_lt_nil, and_false, or_false, epochNanos]
  omega

/-- Without leap seconds, a time that is not later by the clock has no greater exact number of
milliseconds. -/
lemma parts_le_iff {s t : DateTime} (hs : s.time.second < 60) (ht : t.time.second < 60) {x y : ℚ}
    (hx : s.MillisFromEpoch x) (hy : t.MillisFromEpoch y) : s.parts ≤ t.parts ↔ x ≤ y := by
  rw [← not_lt, parts_lt_iff ht hs, not_lt, millisFromEpoch_iff.1 hx, millisFromEpoch_iff.1 hy,
    div_le_div_iff_of_pos_right (by norm_num), Int.cast_le]

end DateTime

end ObjectQuery
