import Mathlib
import ObjectQuery.Proofs.Json.Tokens

/-!
# Documents and their text

Reading the compact text of a document gives back the document, member by member and item by item
(`ofText?_render`). Doubles are not considered here: numbers are integers of 64 bits, with a sign
or without (`Exact`). A text that is read as a value of another type is first read as what it spells
(`read?_render`).
-/

namespace ObjectQuery.Json

mutual

/-- All numbers of the document are integers of 64 bits, with a sign or without. -/
def Exact : Json → Prop
  | .number (.integer n) => -0x8000000000000000 ≤ n ∧ n < 0x10000000000000000
  | .number (.float _) => False
  | .array items => ItemsExact items
  | .object members => MembersExact members
  | .null | .bool _ | .string _ => True

def ItemsExact : List Json → Prop
  | [] => True
  | v :: vs => Exact v ∧ ItemsExact vs

def MembersExact : List (String × Json) → Prop
  | [] => True
  | (_, v) :: ms => Exact v ∧ MembersExact ms

end

mutual

/-- What the text of a document without doubles spells. -/
def written : Json → Written
  | .null => .null
  | .bool b => .bool b
  | .number (.integer n) => .number (.ofInt n)
  | .number (.float _) => .null
  | .string s => .string (some s)
  | .array items => .array (writtenItems items)
  | .object members => .object (writtenMembers members)

def writtenItems : List Json → List Written
  | [] => []
  | v :: vs => written v :: writtenItems vs

def writtenMembers : List (String × Json) → List (Option String × Written)
  | [] => []
  | (k, v) :: ms => (some k, written v) :: writtenMembers ms

end

lemma writtenItems_eq_map (items : List Json) : writtenItems items = items.map written := by
  induction items with
  | nil => rfl
  | cons v items ih => rw [writtenItems, ih, List.map_cons]

lemma writtenMembers_eq_map (members : List (String × Json)) :
    writtenMembers members = members.map fun m => (some m.1, m.2.written) := by
  induction members with
  | nil => rfl
  | cons m members ih => rw [writtenMembers, ih, List.map_cons]

section Exact

@[simp] lemma exact_null : Exact .null := trivial

@[simp] lemma exact_bool (b : Bool) : (Json.bool b).Exact := trivial

@[simp] lemma exact_string (s : String) : (Json.string s).Exact := trivial

@[simp] lemma exact_array {items : List Json} :
    (Json.array items).Exact ↔ ∀ v ∈ items, v.Exact := by
  rw [Exact]
  induction items with
  | nil => simp [ItemsExact]
  | cons v items ih => rw [ItemsExact, ih, List.forall_mem_cons]

@[simp] lemma exact_object {members : List (String × Json)} :
    (Json.object members).Exact ↔ ∀ m ∈ members, m.2.Exact := by
  rw [Exact]
  induction members with
  | nil => simp [MembersExact]
  | cons m members ih => rw [MembersExact, ih, List.forall_mem_cons]

/-- A signed integer of 64 bits. -/
@[simp] lemma exact_int64 (n : Int64) : (Json.number (.integer n.toInt)).Exact := by
  have hlower := n.le_toInt
  have hupper := n.toInt_lt
  rw [Exact]
  omega

end Exact

section Reading

lemma endsNumeral_nil : EndsNumeral [] := nofun

lemma endsNumeral_cons {c : Char} (hc : c.isDigit = false ∧ c ≠ '.' ∧ c ≠ 'e' ∧ c ≠ 'E')
    (cs : List Char) : EndsNumeral (c :: cs) := by
  rintro _ ⟨⟩
  exact hc

lemma skipSpace_cons {c : Char} (hc : isSpace c = false) (cs : List Char) :
    skipSpace (c :: cs) = c :: cs := by
  rw [skipSpace, List.dropWhile_cons, hc]
  rfl

/-- The first character of a numeral is a sign or a digit. -/
lemma exists_integerChars (n : Int) :
    ∃ c cs, integerChars n = c :: cs ∧ (c = '-' ∨ c.isDigit = true) := by
  unfold integerChars
  split
  · exact ⟨_, _, rfl, .inl rfl⟩
  · cases hdigits : Nat.toDigits 10 n.natAbs with
    | nil => exact absurd hdigits Nat.toDigits_ne_nil
    | cons c cs =>
      have hc : c ∈ Nat.toDigits 10 n.natAbs := by
        rw [hdigits]
        exact List.mem_cons_self
      exact ⟨c, cs, rfl, .inr (Nat.isDigit_of_mem_toDigits (by decide) le_rfl hc)⟩

lemma isSpace_numeral {c : Char} (hc : c = '-' ∨ c.isDigit = true) : isSpace c = false := by
  rcases hc with rfl | hc
  · decide
  · rw [Bool.eq_false_iff]
    intro hspace
    simp only [isSpace, Bool.or_eq_true, beq_iff_eq] at hspace
    rcases hspace with ((rfl | rfl) | rfl) | rfl <;> exact absurd hc (by decide)

/-- What starts with a sign or a digit is read as a numeral. -/
lemma readValue_numeral {c : Char} (hc : c = '-' ∨ c.isDigit = true) (cs : List Char) (fuel : Nat) :
    readValue (fuel + 1) (c :: cs) =
      (readNumeral (c :: cs)).map fun (n, rest) => (.number n, rest) := by
  rw [readValue, skipSpace_cons (isSpace_numeral hc)]
  split
  case h_7 => rfl
  all_goals
    rename_i heq
    cases heq
    exact absurd hc (by decide)

/-- A document starts with a character that is neither a space nor closes an array. -/
lemma exists_chars {j : Json} (hj : j.Exact) :
    ∃ c cs, j.chars = c :: cs ∧ isSpace c = false ∧ c ≠ ']' := by
  cases j with
  | null => exact ⟨_, _, rfl, by decide, by decide⟩
  | bool b => cases b <;> exact ⟨_, _, rfl, by decide, by decide⟩
  | number n =>
    cases n with
    | integer n =>
      obtain ⟨c, cs, hchars, hc⟩ := exists_integerChars n
      refine ⟨c, cs, hchars, isSpace_numeral hc, ?_⟩
      rintro rfl
      exact absurd hc (by decide)
    | float x => exact hj.elim
  | string s => exact ⟨_, _, rfl, by decide, by decide⟩
  | array items => exact ⟨_, _, rfl, by decide, by decide⟩
  | object members => exact ⟨_, _, rfl, by decide, by decide⟩

lemma quote_append (s : String) (rest : List Char) :
    quote s ++ rest = '"' :: (s.toList.flatMap escapeChar ++ '"' :: rest) := by
  simp [quote]

/-- A string between quotes is read back, whatever follows it. -/
lemma readValue_quote (s : String) (rest : List Char) (fuel : Nat) :
    readValue (fuel + 1) (quote s ++ rest) = some (.string (some s), rest) := by
  rw [quote_append, readValue, skipSpace_cons (by decide)]
  simp only [readString_escape, Option.map_some]

variable {fuel : Nat} {cs rest rest' : List Char} {v : Written} {vs : List Written} {k : String}
  {ms : List (Option String × Written)}

lemma readValue_items {c : Char} (hspace : isSpace c = false) (hclose : c ≠ ']')
    (hitems : readItems fuel (c :: cs) = some (vs, rest)) :
    readValue (fuel + 1) ('[' :: c :: cs) = some (.array vs, rest) := by
  rw [readValue, skipSpace_cons (by decide)]
  simp only [skipSpace_cons hspace]
  split
  · rename_i heq
    cases heq
    exact absurd rfl hclose
  · rw [hitems]
    rfl

lemma readItems_last (hv : readValue fuel cs = some (v, ']' :: rest)) :
    readItems (fuel + 1) cs = some ([v], rest) := by
  rw [readItems, hv]
  simp (disch := decide) only [Option.bind_eq_bind, Option.bind_some, skipSpace_cons]

lemma readItems_next (hv : readValue fuel cs = some (v, ',' :: rest))
    (hitems : readItems fuel rest = some (vs, rest')) :
    readItems (fuel + 1) cs = some (v :: vs, rest') := by
  rw [readItems, hv]
  simp (disch := decide) only [Option.bind_eq_bind, Option.bind_some, skipSpace_cons, hitems,
    Option.map_some]

lemma readValue_members (hmembers : readMembers fuel ('"' :: cs) = some (ms, rest)) :
    readValue (fuel + 1) ('{' :: '"' :: cs) = some (.object ms, rest) := by
  rw [readValue, skipSpace_cons (by decide)]
  simp (disch := decide) only [skipSpace_cons]
  exact congrArg (Option.map _) hmembers

lemma readMembers_last (hv : readValue fuel cs = some (v, '}' :: rest)) :
    readMembers (fuel + 1) (quote k ++ ':' :: cs) = some ([(some k, v)], rest) := by
  rw [quote_append, readMembers, skipSpace_cons (by decide)]
  simp (disch := decide) only [readString_escape, Option.bind_eq_bind, Option.bind_some,
    skipSpace_cons, hv]

lemma readMembers_next (hv : readValue fuel cs = some (v, ',' :: rest))
    (hmembers : readMembers fuel rest = some (ms, rest')) :
    readMembers (fuel + 1) (quote k ++ ':' :: cs) = some ((some k, v) :: ms, rest') := by
  rw [quote_append, readMembers, skipSpace_cons (by decide)]
  simp (disch := decide) only [readString_escape, Option.bind_eq_bind, Option.bind_some,
    skipSpace_cons, hv, hmembers, Option.map_some]

/-- The items of an array start as their first does. -/
lemma exists_itemsChars {v : Json} {vs : List Json} (hitems : ItemsExact (v :: vs)) :
    ∃ c cs, itemsChars (v :: vs) = c :: cs ∧ isSpace c = false ∧ c ≠ ']' := by
  obtain ⟨c, cs, hchars, hc⟩ := exists_chars hitems.1
  cases vs with
  | nil => exact ⟨c, cs, hchars, hc⟩
  | cons w vs =>
    refine ⟨c, cs ++ ',' :: itemsChars (w :: vs), ?_, hc⟩
    rw [itemsChars, hchars, List.cons_append]
    nofun

lemma exists_membersChars (m : String × Json) (ms : List (String × Json)) :
    ∃ cs, membersChars (m :: ms) = '"' :: cs := by
  cases ms with
  | nil => exact ⟨_, rfl⟩
  | cons m' ms => exact ⟨_, rfl⟩

mutual

/-- The text of a document is read as what it spells, if each character may take two calls. -/
theorem readValue_chars (j : Json) (hj : j.Exact) {rest : List Char} (hrest : EndsNumeral rest)
    {fuel : Nat} (hfuel : 2 * j.chars.length ≤ fuel) :
    readValue fuel (j.chars ++ rest) = some (j.written, rest) := by
  obtain ⟨c, cs, hchars, hspace, hclose⟩ := exists_chars hj
  obtain ⟨fuel, rfl⟩ : ∃ n, fuel = n + 1 := Nat.exists_eq_add_one.mpr (by grind)
  match j with
  | .null | .bool true | .bool false =>
    simp only [chars, String.toList]
    rfl
  | .number (.integer n) =>
    obtain ⟨d, ds, hdigits, hd⟩ := exists_integerChars n
    have hread := readNumeral_integerChars n hrest
    rw [chars, numberChars]
    rw [hdigits, List.cons_append] at hread ⊢
    rw [readValue_numeral hd, hread]
    rfl
  | .string s => exact readValue_quote s rest fuel
  | .array [] => rfl
  | .array (v :: vs) =>
    have hlength : (chars (.array (v :: vs))).length = (itemsChars (v :: vs)).length + 2 := by
      simp [chars]
    obtain ⟨d, ds, hitems, hspace, hclose⟩ := exists_itemsChars hj
    have hfuel' : 2 * (itemsChars (v :: vs)).length < fuel := by omega
    have hread := readItems_chars (v :: vs) nofun hj rest hfuel'
    rw [chars, List.append_assoc, List.cons_append, hitems]
    rw [hitems] at hread
    exact readValue_items hspace hclose hread
  | .object [] => rfl
  | .object (m :: ms) =>
    have hlength : (chars (.object (m :: ms))).length = (membersChars (m :: ms)).length + 2 := by
      simp [chars]
    obtain ⟨ds, hmembers⟩ := exists_membersChars m ms
    have hfuel' : 2 * (membersChars (m :: ms)).length < fuel := by omega
    have hread := readMembers_chars (m :: ms) nofun hj rest hfuel'
    rw [chars, List.append_assoc, List.cons_append, hmembers]
    rw [hmembers] at hread
    exact readValue_members hread
termination_by structural j

theorem readItems_chars (items : List Json) (hne : items ≠ []) (hitems : ItemsExact items)
    (rest : List Char) {fuel : Nat} (hfuel : 2 * (itemsChars items).length < fuel) :
    readItems fuel (itemsChars items ++ ']' :: rest) = some (writtenItems items, rest) := by
  obtain ⟨fuel, rfl⟩ : ∃ n, fuel = n + 1 := Nat.exists_eq_add_one.mpr (by omega)
  match items with
  | [] => exact absurd rfl hne
  | [v] =>
    rw [itemsChars] at hfuel ⊢
    exact readItems_last
      (readValue_chars v hitems.1 (endsNumeral_cons (by decide) rest) (by omega))
  | v :: w :: vs =>
    rw [itemsChars, List.length_append, List.length_cons] at hfuel
    · rw [itemsChars, List.append_assoc, List.cons_append]
      · exact readItems_next
          (readValue_chars v hitems.1 (endsNumeral_cons (by decide) _) (by omega))
          (readItems_chars (w :: vs) nofun hitems.2 rest (by omega))
      · nofun
    · nofun
termination_by structural items

theorem readMembers_chars (members : List (String × Json)) (hne : members ≠ [])
    (hmembers : MembersExact members) (rest : List Char) {fuel : Nat}
    (hfuel : 2 * (membersChars members).length < fuel) :
    readMembers fuel (membersChars members ++ '}' :: rest) =
      some (writtenMembers members, rest) := by
  obtain ⟨fuel, rfl⟩ : ∃ n, fuel = n + 1 := Nat.exists_eq_add_one.mpr (by omega)
  match members with
  | [] => exact absurd rfl hne
  | [(k, v)] =>
    rw [membersChars, List.length_append, List.length_cons] at hfuel
    rw [membersChars, List.append_assoc, List.cons_append]
    exact readMembers_last
      (readValue_chars v hmembers.1 (endsNumeral_cons (by decide) rest) (by omega))
  | (k, v) :: m :: ms =>
    rw [membersChars, List.length_append, List.length_cons, List.length_append,
      List.length_cons] at hfuel
    · rw [membersChars, List.append_assoc, List.cons_append, List.append_assoc, List.cons_append]
      · exact readMembers_next
          (readValue_chars v hmembers.1 (endsNumeral_cons (by decide) _) (by omega))
          (readMembers_chars (m :: ms) nofun hmembers.2 rest (by omega))
      · nofun
    · nofun
termination_by structural members

end

/-- A text that is written for a document is read as what the document spells. -/
lemma read?_render {j : Json} (hj : j.Exact) : read? j.render = some j.written := by
  have hlength : 2 * j.chars.length ≤ 2 * j.chars.length + 2 := Nat.le_add_right _ _
  have hread := readValue_chars j hj endsNumeral_nil hlength
  rw [List.append_nil] at hread
  have hchars : j.render.toList = j.chars := String.toList_ofList
  simp only [read?, hchars, hread, Option.bind_eq_bind, Option.bind_some]
  rfl

end Reading

section Values

lemma value?_written_integer {n : Int} (hn : (Json.number (.integer n)).Exact) :
    (Json.number (.integer n)).written.value? = some (.number (.integer n)) := by
  rw [Exact] at hn
  obtain ⟨hlower, hupper⟩ := hn
  rw [written, Written.value?, Numeral.value?_ofInt hlower hupper, Option.map_some]

mutual

/-- What a document spells has the document as its value. -/
theorem value?_written (j : Json) (hj : j.Exact) : j.written.value? = some j := by
  match j with
  | .null | .bool _ | .string _ => rfl
  | .number (.integer n) => exact value?_written_integer hj
  | .array items =>
    rw [written, Written.value?, valuesOf?_written items hj]
    rfl
  | .object members =>
    rw [written, Written.value?, membersOf?_written members hj]
    rfl
termination_by structural j

theorem valuesOf?_written (items : List Json) (hitems : ItemsExact items) :
    Written.valuesOf? (writtenItems items) = some items := by
  match items with
  | [] => rfl
  | v :: vs =>
    rw [writtenItems, Written.valuesOf?, value?_written v hitems.1,
      valuesOf?_written vs hitems.2]
    rfl
termination_by structural items

theorem membersOf?_written (members : List (String × Json)) (hmembers : MembersExact members) :
    Written.membersOf? (writtenMembers members) = some members := by
  match members with
  | [] => rfl
  | (k, v) :: ms =>
    rw [writtenMembers, Written.membersOf?, value?_written v hmembers.1,
      membersOf?_written ms hmembers.2]
    rfl
termination_by structural members

end

/-- A document that is not too deep is the value of what it spells. -/
lemma within?_written {j : Json} (hj : j.Exact) {room : Nat} (hroom : j.written.depth ≤ room) :
    j.written.within? room = some j := by
  rw [Written.within?, if_pos hroom, value?_written j hj]

/-- Reading the text of a document that is not too deep gives back the document. -/
theorem ofText?_render {j : Json} (hj : j.Exact) (hdepth : j.written.depth ≤ depthLimit) :
    ofText? j.render = some j := by
  rw [ofText?, read?_render hj]
  exact within?_written hj hdepth

end Values

end ObjectQuery.Json
