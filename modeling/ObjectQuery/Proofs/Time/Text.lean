import Mathlib
import ObjectQuery.Time.Text

/-!
# Dates and times and their text

A date is read back from its text, and so are a time without a zone and a universal time, in every
year of the calendar, with every fraction and with second 60 (`date?_text`, `dateTime?_text`,
`universalTime?_text`). Numbers are padded to the widths that are read at most, and each of them
ends where the digits end (`readDigits_append`).
-/

namespace ObjectQuery

section Digits

/-- What follows does not go on with a digit. -/
def EndsDigits (rest : List Char) : Prop :=
  ∀ c ∈ rest.head?, c.isDigit = false

lemma endsDigits_nil : EndsDigits [] := nofun

lemma endsDigits_cons {c : Char} (hc : c.isDigit = false) (cs : List Char) :
    EndsDigits (c :: cs) := by
  rintro _ ⟨⟩
  exact hc

lemma paddedDigits_ne_nil (width n : Nat) : paddedDigits width n ≠ [] :=
  List.append_ne_nil_of_right_ne_nil _ Nat.toDigits_ne_nil

lemma isDigit_of_mem_paddedDigits {width n : Nat} {c : Char} (hc : c ∈ paddedDigits width n) :
    c.isDigit = true := by
  rcases List.mem_append.1 hc with hc | hc
  · rw [List.eq_of_mem_replicate hc]
    decide
  · exact Nat.isDigit_of_mem_toDigits (by decide) le_rfl hc

/-- A number that the width is enough for has as many digits. -/
lemma length_paddedDigits {width n : Nat} (hwidth : 0 < width) (hn : n < 10 ^ width) :
    (paddedDigits width n).length = width := by
  have hle : (Nat.toDigits 10 n).length ≤ width :=
    (Nat.length_toDigits_le_iff (by decide) hwidth).2 hn
  rw [paddedDigits, List.length_append, List.length_replicate]
  omega

/-- Zeros in front do not change the number. -/
lemma digitsValue_paddedDigits (width n : Nat) :
    TimeText.digitsValue (paddedDigits width n) = n := by
  have hvalue : Nat.ofDigitChars 10 (paddedDigits width n) 0 = n := by
    rw [paddedDigits, Nat.ofDigitChars_append, Nat.ofDigitChars_replicate_zero]
    simp
  rw [Nat.ofDigitChars_eq_foldl] at hvalue
  exact hvalue

lemma isBlank_of_isDigit {c : Char} (hc : c.isDigit = true) : Text.isBlank c = false := by
  simp only [Char.isDigit, Bool.and_eq_true, decide_eq_true_eq] at hc
  have hlower : 48 ≤ c.toNat := hc.1
  have hupper : c.toNat ≤ 57 := hc.2
  simp only [Text.isBlank, Bool.or_eq_false_iff, Bool.and_eq_false_iff, decide_eq_false_iff_not,
    beq_eq_false_iff_ne]
  omega

lemma dropBlanks_cons {c : Char} (hc : Text.isBlank c = false) (cs : List Char) :
    Text.dropBlanks (c :: cs) = c :: cs := by
  rw [Text.dropBlanks, List.dropWhile_cons, hc]
  rfl

end Digits

section Parts

lemma Date.ofParts?_self (d : Date) : Date.ofParts? d.year d.month d.day = some d :=
  dif_pos d.isDay

lemma TimeOfDay.ofParts?_self (t : TimeOfDay) :
    TimeOfDay.ofParts? t.hour t.minute t.second t.nano = some t :=
  dif_pos ⟨t.hour_lt, t.minute_lt, t.second_le, t.nano_lt⟩

/-- A clock that is not ahead shows the time. -/
lemma DateTime.behind?_zero (t : DateTime) : t.behind? 0 = some t := by
  have hhour := t.time.hour_lt
  have hminute := t.time.minute_lt
  have hday : ¬ ((t.time.hour * 60 + t.time.minute : Nat) : Int) - 0 < 0 ∧
      ((t.time.hour * 60 + t.time.minute : Nat) : Int) - 0 < 1440 := by omega
  have hclock : ((((t.time.hour * 60 + t.time.minute : Nat) : Int) - 0) % 1440).toNat =
      t.time.hour * 60 + t.time.minute := by omega
  have hparts : (t.time.hour * 60 + t.time.minute) / 60 = t.time.hour ∧
      (t.time.hour * 60 + t.time.minute) % 60 = t.time.minute := by omega
  simp only [behind?, if_neg hday.1, if_pos hday.2, hclock, atMinute, hparts,
    TimeOfDay.ofParts?_self, Option.bind_eq_bind, Option.bind_some]

end Parts

namespace TimeText

variable {ds rest : List Char}

/-- A text starts with digits. -/
lemma exists_cons_of_digits (hds : ∀ c ∈ ds, c.isDigit = true) (hne : ds ≠ []) (rest : List Char) :
    ∃ c cs, ds ++ rest = c :: cs ∧ c.isDigit = true := by
  obtain ⟨c, ds, rfl⟩ := List.exists_cons_of_ne_nil hne
  exact ⟨c, ds ++ rest, rfl, hds c List.mem_cons_self⟩

lemma dropBlanks_digits (hds : ∀ c ∈ ds, c.isDigit = true) (hne : ds ≠ []) (rest : List Char) :
    Text.dropBlanks (ds ++ rest) = ds ++ rest := by
  obtain ⟨c, cs, heq, hc⟩ := exists_cons_of_digits hds hne rest
  rw [heq, dropBlanks_cons (isBlank_of_isDigit hc)]

/-- Digits are read up to where they end, if no more of them are than the width. -/
lemma readDigits_append (hds : ∀ c ∈ ds, c.isDigit = true) (hne : ds ≠ [])
    (hrest : EndsDigits rest) {width : Nat} (hwidth : ds.length ≤ width) :
    readDigits width (ds ++ rest) = some (ds, rest) := by
  have hstop : (rest.take (width - ds.length)).takeWhile Char.isDigit = [] := by
    cases hhead : rest.take (width - ds.length) with
    | nil => rfl
    | cons c cs =>
      have hc : c ∈ rest.head? := by
        rw [← List.take_append_drop (width - ds.length) rest, hhead]
        rfl
      rw [List.takeWhile_cons, hrest c hc]
      rfl
  have htake : ((ds ++ rest).take width).takeWhile Char.isDigit = ds := by
    rw [List.take_append, List.take_of_length_le hwidth, List.takeWhile_append_of_pos hds, hstop,
      List.append_nil]
  simp only [readDigits, htake, List.isEmpty_eq_false_iff.2 hne, List.drop_left]
  rfl

/-- A number is read back that the width is enough for. -/
lemma readNumber_paddedDigits {width n : Nat} (hwidth : 0 < width) (hn : n < 10 ^ width)
    (hrest : EndsDigits rest) :
    readNumber width (paddedDigits width n ++ rest) = some (n, rest) := by
  have hdigits : ∀ c ∈ paddedDigits width n, c.isDigit = true := fun c hc =>
    isDigit_of_mem_paddedDigits hc
  have hne := paddedDigits_ne_nil width n
  have hread := readDigits_append hdigits hne hrest (length_paddedDigits hwidth hn).le
  rw [readNumber, dropBlanks_digits hdigits hne, hread]
  simp only [Option.bind_eq_bind, Option.bind_some, digitsValue_paddedDigits]

/-- A year is read back, with a sign if it has one. -/
lemma readYear_yearChars {year : Int} (hrest : EndsDigits rest) :
    readYear (Date.yearChars year ++ rest) = some (year, rest) := by
  have hdigits : ∀ c ∈ paddedDigits 4 year.natAbs, c.isDigit = true := fun c hc =>
    isDigit_of_mem_paddedDigits hc
  have hne := paddedDigits_ne_nil 4 year.natAbs
  -- after a sign there is no limit to the digits
  have hlength :
      (paddedDigits 4 year.natAbs).length ≤ (paddedDigits 4 year.natAbs ++ rest).length := by
    simp
  have hsigned := readDigits_append hdigits hne hrest hlength
  unfold Date.yearChars
  split_ifs with hnegative hlong
  · have habs : -(year.natAbs : Int) = year := by omega
    rw [List.cons_append, readYear, dropBlanks_cons (by decide)]
    simp only [hsigned, Option.bind_eq_bind, Option.bind_some, digitsValue_paddedDigits, habs]
  · have habs : (year.natAbs : Int) = year := by omega
    rw [List.cons_append, readYear, dropBlanks_cons (by decide)]
    simp only [hsigned, Option.bind_eq_bind, Option.bind_some, digitsValue_paddedDigits, habs]
  · have habs : (year.natAbs : Int) = year := by omega
    have hfour : (paddedDigits 4 year.natAbs).length = 4 :=
      length_paddedDigits (by decide) (by omega)
    have hread := readDigits_append hdigits hne hrest hfour.le
    obtain ⟨c, cs, heq, hc⟩ := exists_cons_of_digits hdigits hne rest
    rw [readYear, dropBlanks_digits hdigits hne]
    rw [heq] at hread ⊢
    split
    · rename_i h
      cases h
      exact absurd hc (by decide)
    · rename_i h
      cases h
      exact absurd hc (by decide)
    · simp only [hread, Option.bind_eq_bind, Option.bind_some, digitsValue_paddedDigits, habs]

/-- A day is read back. -/
lemma readDate_chars (d : Date) (hrest : EndsDigits rest) :
    readDate (d.chars ++ rest) = some (d, rest) := by
  obtain ⟨-, -, -, hmonth, -, hday⟩ := d.isDay
  have hmonth : d.month < 10 ^ 2 := by omega
  have hday : d.day < 10 ^ 2 := by
    have hdays : daysInMonth d.year d.month ≤ 31 := by
      unfold daysInMonth
      split
      · split <;> decide
      all_goals decide
    omega
  have hdash (cs : List Char) : EndsDigits ('-' :: cs) := endsDigits_cons (by decide) cs
  have hskip (cs : List Char) : Text.dropBlanks ('-' :: cs) = '-' :: cs :=
    dropBlanks_cons (by decide) cs
  have hseparator (cs : List Char) : readSeparator '-' ('-' :: cs) = some cs := rfl
  simp only [Date.chars, List.append_assoc, List.cons_append, readDate, Option.bind_eq_bind,
    readYear_yearChars (hdash _), readNumber_paddedDigits (by decide) hmonth (hdash _),
    readNumber_paddedDigits (by decide) hday hrest, Option.bind_some, hskip, hseparator,
    Date.ofParts?_self]

/-- Up to nine digits after the point stand for as many places. -/
lemma nanoseconds_paddedDigits {width n : Nat} (hwidth : 0 < width) (hwidth' : width ≤ 9)
    (hn : n < 10 ^ width) : nanoseconds (paddedDigits width n) = n * 10 ^ (9 - width) := by
  have hlength := length_paddedDigits hwidth hn
  have htake : (paddedDigits width n).take 9 = paddedDigits width n :=
    List.take_of_length_le (by omega)
  simp only [nanoseconds, htake, digitsValue_paddedDigits, hlength]
  rfl

lemma readFraction_point {width n : Nat} (hwidth : 0 < width) (hwidth' : width ≤ 9)
    (hn : n < 10 ^ width) (hrest : EndsDigits rest) :
    readFraction ('.' :: (paddedDigits width n ++ rest)) =
      some (n * 10 ^ (9 - width), rest) := by
  have hlength : (paddedDigits width n).length ≤ (paddedDigits width n ++ rest).length := by simp
  have hread := readDigits_append (fun _ => isDigit_of_mem_paddedDigits)
    (paddedDigits_ne_nil width n) hrest hlength
  simp only [readFraction, hread, Option.bind_eq_bind, Option.bind_some,
    nanoseconds_paddedDigits hwidth hwidth' hn]

/-- What follows a time of day ends its digits and has no point. -/
def EndsTime (rest : List Char) : Prop :=
  EndsDigits rest ∧ rest.head? ≠ some '.'

/-- A fraction is read back, as the places left out are zeros. -/
lemma readFraction_fractionChars {nano : Nat} (hnano : nano < 1000000000)
    (hrest : EndsTime rest) :
    readFraction (TimeOfDay.fractionChars nano ++ rest) = some (nano, rest) := by
  obtain ⟨hdigits, hpoint⟩ := hrest
  unfold TimeOfDay.fractionChars
  split_ifs with hzero hmillis hmicros
  · rw [hzero, List.nil_append, readFraction]
    rintro cs rfl
    exact hpoint rfl
  · have hthree : nano / 1000000 < 10 ^ 3 := by omega
    have hread := readFraction_point (by decide) (by decide) hthree hdigits
    have hwhole : nano / 1000000 * 10 ^ (9 - 3) = nano := by omega
    rw [List.cons_append, hread, hwhole]
  · have hsix : nano / 1000 < 10 ^ 6 := by omega
    have hread := readFraction_point (by decide) (by decide) hsix hdigits
    have hwhole : nano / 1000 * 10 ^ (9 - 6) = nano := by omega
    rw [List.cons_append, hread, hwhole]
  · have hnine : nano < 10 ^ 9 := hnano
    have hread := readFraction_point (by decide) (by decide) hnine hdigits
    have hwhole : nano * 10 ^ (9 - 9) = nano := by omega
    rw [List.cons_append, hread, hwhole]

/-- A fraction starts with a point if there is one. -/
lemma endsDigits_fractionChars (nano : Nat) (hrest : EndsTime rest) :
    EndsDigits (TimeOfDay.fractionChars nano ++ rest) := by
  unfold TimeOfDay.fractionChars
  split_ifs
  · exact hrest.1
  all_goals exact endsDigits_cons (by decide) _

/-- A time of day is read back, with what follows it after blanks. -/
lemma readTime_chars (t : TimeOfDay) (hrest : EndsTime rest) :
    readTime (t.chars ++ rest) = some (t, Text.dropBlanks rest) := by
  have hhour : t.hour < 10 ^ 2 := t.hour_lt.trans (by decide)
  have hminute : t.minute < 10 ^ 2 := t.minute_lt.trans (by decide)
  have hsecond : t.second < 10 ^ 2 := t.second_le.trans_lt (by decide)
  have hcolon (cs : List Char) : EndsDigits (':' :: cs) := endsDigits_cons (by decide) cs
  have hskip (cs : List Char) : Text.dropBlanks (':' :: cs) = ':' :: cs :=
    dropBlanks_cons (by decide) cs
  have hseparator (cs : List Char) : readSeparator ':' (':' :: cs) = some cs := rfl
  simp only [TimeOfDay.chars, List.append_assoc, List.cons_append, readTime, Option.bind_eq_bind,
    readNumber_paddedDigits (by decide) hhour (hcolon _),
    readNumber_paddedDigits (by decide) hminute (hcolon _),
    readNumber_paddedDigits (by decide) hsecond (endsDigits_fractionChars t.nano hrest),
    readFraction_fractionChars t.nano_lt hrest, Option.bind_some, hskip, hseparator,
    TimeOfDay.ofParts?_self]

lemma endsDigits_mark (cs : List Char) : EndsDigits ('T' :: cs) :=
  endsDigits_cons (by decide) cs

/-- A date is read back from its text. -/
lemma date?_text (d : Date) : date? d.text = some d := by
  have hread := readDate_chars d endsDigits_nil
  rw [List.append_nil] at hread
  simp only [date?, Date.text, String.toList_ofList, hread, Option.bind_eq_bind, Option.bind_some]
  rfl

/-- A time without a zone is read back from its text. -/
lemma dateTime?_text (t : DateTime) : dateTime? (t.text 'T') = some t := by
  have hdate := readDate_chars t.date (endsDigits_mark t.time.chars)
  have htime := readTime_chars t.time (⟨endsDigits_nil, nofun⟩ : EndsTime [])
  have hskip : Text.dropBlanks ('T' :: t.time.chars) = 'T' :: t.time.chars :=
    dropBlanks_cons (by decide) _
  have hseparator : readSeparator 'T' ('T' :: t.time.chars) = some t.time.chars := rfl
  rw [List.append_nil] at htime
  simp only [dateTime?, DateTime.text, String.toList_ofList, hdate, hskip, hseparator, htime,
    Option.bind_eq_bind, Option.bind_some]
  rfl

/-- A universal time is read back from its text. -/
lemma universalTime?_text (t : DateTime) : universalTime? (t.text 'T' ++ "Z") = some t := by
  have hchars : (t.text 'T' ++ "Z").toList = t.date.chars ++ 'T' :: (t.time.chars ++ ['Z']) := by
    simp [DateTime.text]
  have hdate := readDate_chars t.date (endsDigits_mark (t.time.chars ++ ['Z']))
  have htime := readTime_chars t.time (⟨endsDigits_cons (by decide) _, by decide⟩ : EndsTime ['Z'])
  have hmark (cs : List Char) : skipDateMark ('T' :: cs) = some cs := rfl
  have hzone : readZone (Text.dropBlanks ['Z']) = some (0, []) := rfl
  have hend : (Text.dropBlanks []).isEmpty = true := rfl
  simp only [universalTime?, hchars, hdate, hmark, htime, hzone, hend, guard_true,
    DateTime.behind?_zero, Option.bind_eq_bind, Option.bind_some, Option.pure_def]

end TimeText

end ObjectQuery
