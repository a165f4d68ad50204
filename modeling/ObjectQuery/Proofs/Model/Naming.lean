import Mathlib
import ObjectQuery.Model.Field
import ObjectQuery.Proofs.Text.ByteOrder
import ObjectQuery.Proofs.Text.Case

/-!
# Derived names

Tables and columns are named after classes and fields, with a mark in front of SQL keywords. Whether
a text is a keyword depends on the text in upper case alone, and none has the mark in it or ends in
the letters of a reference column. So no derived name is a keyword, except for tables that link two
ends: their names are two names in a row, neither of which is a keyword, but both together may be
(`names_reserved_iff`).

The mark and the upper case of a first letter make some names one: `SameName` says which fields
share a column, `SameEnd` which ends of a link do.
-/

namespace ObjectQuery

namespace Field

@[simp] lemma inward_linkOf (a b : String) : (linkOf a b).inward = a := rfl

@[simp] lemma outward_linkOf (a b : String) : (linkOf a b).outward = b := rfl

end Field

namespace Naming

variable {name : String}

lemma isReserved_congr {s t : String} (h : Text.upperCase s = Text.upperCase t) :
    isReserved s = isReserved t := by
  rw [isReserved, isReserved, h]

lemma upperCase_mem_of_isReserved (h : isReserved name = true) :
    Text.upperCase name ∈ reservedWords :=
  List.contains_iff_mem.1 h

/-- No keyword has the mark in it or ends like the column of a reference. -/
lemma reservedWords_apart : ∀ word ∈ reservedWords,
    ¬ Text.bytes (Text.upperCase reservedMark) <:+: Text.bytes word ∧
    ¬ Text.bytes (Text.upperCase "Id") <:+ Text.bytes word := by
  decide +kernel

lemma isReserved_append_mark (before after : String) :
    isReserved (before ++ (reservedMark ++ after)) = false := by
  rw [Bool.eq_false_iff]
  intro h
  apply (reservedWords_apart _ (upperCase_mem_of_isReserved h)).1
  rw [Text.upperCase_append, Text.upperCase_append, Text.bytes_append, Text.bytes_append]
  exact ⟨_, _, List.append_assoc _ _ _⟩

lemma isReserved_append {ending : String}
    (h : ∀ word ∈ reservedWords, ¬ Text.bytes (Text.upperCase ending) <:+ Text.bytes word)
    (name : String) : isReserved (name ++ ending) = false := by
  rw [Bool.eq_false_iff]
  intro hreserved
  apply h _ (upperCase_mem_of_isReserved hreserved)
  rw [Text.upperCase_append, Text.bytes_append]
  exact List.suffix_append _ _

lemma isReserved_append_id (name : String) : isReserved (name ++ "Id") = false :=
  isReserved_append (fun word hword => (reservedWords_apart word hword).2) name

lemma length_reservedMark : reservedMark.length = 10 :=
  rfl

lemma length_sqlName (name : String) :
    (sqlName name).length = name.length + if isReserved name then 10 else 0 := by
  unfold sqlName
  split
  · rw [String.length_append, length_reservedMark, Nat.add_comm]
  · rfl

lemma sqlName_eq_self_iff : sqlName name = name ↔ isReserved name = false := by
  constructor
  · intro h
    have hlength := length_sqlName name
    rw [h] at hlength
    cases hreserved : isReserved name with
    | false => rfl
    | true =>
      rw [hreserved] at hlength
      simp at hlength
  · intro h
    simp [sqlName, h]

lemma isReserved_sqlName (name : String) : isReserved (sqlName name) = false := by
  unfold sqlName
  split
  · have hmark := isReserved_append_mark "" name
    rwa [String.empty_append] at hmark
  · rename_i h
    exact Bool.eq_false_iff.2 h

lemma isReserved_column {f : Field} {column : String} (h : f.column? = some column) :
    isReserved column = false := by
  match f, h with
  | .attribute name _, rfl => exact isReserved_sqlName name
  | .reference name _ _, rfl => exact isReserved_append_id (sqlName name)

/-- Names of fields in one column: the same name, or a keyword and the keyword with its mark. -/
inductive SameName : String → String → Prop
  | refl (a : String) : SameName a a
  | marked {a : String} : isReserved a = true → SameName a (reservedMark ++ a)
  | unmarked {b : String} : isReserved b = true → SameName (reservedMark ++ b) b

lemma sqlName_mark_append (name : String) :
    sqlName (reservedMark ++ name) = reservedMark ++ name := by
  rw [sqlName_eq_self_iff, ← isReserved_append_mark "" name, String.empty_append]

lemma sqlName_eq_iff {a b : String} : sqlName a = sqlName b ↔ SameName a b := by
  constructor
  · intro h
    unfold sqlName at h
    split at h <;> rename_i ha <;> split at h <;> rename_i hb
    · rw [String.append_right_inj] at h
      rw [h]
      exact .refl b
    · rw [← h]
      exact .marked ha
    · rw [h]
      exact .unmarked hb
    · rw [h]
      exact .refl b
  · intro h
    cases h with
    | refl => rfl
    | marked ha => rw [sqlName_mark_append, sqlName, if_pos ha]
    | unmarked hb => rw [sqlName_mark_append, sqlName, if_pos hb]

/-- The column of an end of a link table is in upper case like the name with its mark. -/
lemma isReserved_linkColumn (name : String) : isReserved (linkColumn name) = false := by
  rw [linkColumn, isReserved_congr (Text.upperCase_capitalise _), isReserved_sqlName]

lemma isReserved_linkColumn_append (a b : String) :
    isReserved (linkColumn a ++ linkColumn b) = true ↔
      isReserved a = false ∧ isReserved b = false ∧ isReserved (a ++ b) = true := by
  have hupper : Text.upperCase (linkColumn a ++ linkColumn b) =
      Text.upperCase (sqlName a ++ sqlName b) := by
    rw [Text.upperCase_append, Text.upperCase_append, linkColumn, linkColumn,
      Text.upperCase_capitalise, Text.upperCase_capitalise]
  rw [isReserved_congr hupper]
  cases ha : isReserved a with
  | true =>
    have hmark := isReserved_append_mark "" (a ++ sqlName b)
    rw [String.empty_append, ← String.append_assoc] at hmark
    simp [sqlName, ha] at hmark ⊢
    exact hmark
  | false =>
    cases hb : isReserved b with
    | true => simp [sqlName, ha, hb, isReserved_append_mark]
    | false => simp [sqlName, ha, hb]

/-- Names of two ends that come out as one column: the same name, names that are the same once they
are capitalised, or a keyword and a name that is capitalised like the keyword with its mark.
Keywords keep their case behind the mark, so two of them have to be the same. -/
inductive SameEnd : String → String → Prop
  | refl (a : String) : SameEnd a a
  | capitalised {a b : String} :
    isReserved a = false → Text.capitalise a = Text.capitalise b → SameEnd a b
  | marked {a b : String} :
    isReserved a = true → Text.capitalise (reservedMark ++ a) = Text.capitalise b → SameEnd a b
  | unmarked {a b : String} :
    isReserved b = true → Text.capitalise a = Text.capitalise (reservedMark ++ b) → SameEnd a b

lemma isReserved_eq_of_capitalise {a b : String} (h : Text.capitalise a = Text.capitalise b) :
    isReserved a = isReserved b := by
  apply isReserved_congr
  rw [← Text.upperCase_capitalise a, h, Text.upperCase_capitalise]

/-- No keyword is capitalised like a name with the mark. -/
lemma isReserved_of_capitalise_mark {a b : String}
    (h : Text.capitalise (reservedMark ++ a) = Text.capitalise b) : isReserved b = false := by
  rw [← isReserved_eq_of_capitalise h, ← isReserved_append_mark "" a, String.empty_append]

lemma linkColumn_eq_iff {a b : String} : linkColumn a = linkColumn b ↔ SameEnd a b := by
  unfold linkColumn sqlName
  constructor
  · intro h
    cases ha : isReserved a with
    | true =>
      cases hb : isReserved b with
      | true =>
        rw [if_pos ha, if_pos hb, Text.capitalise_append_inj (by decide)] at h
        rw [h]
        exact .refl b
      | false =>
        rw [if_pos ha, if_neg (Bool.eq_false_iff.1 hb)] at h
        exact .marked ha h
    | false =>
      rw [if_neg (Bool.eq_false_iff.1 ha)] at h
      cases hb : isReserved b with
      | true =>
        rw [if_pos hb] at h
        exact .unmarked hb h
      | false =>
        rw [if_neg (Bool.eq_false_iff.1 hb)] at h
        exact .capitalised ha h
  · intro h
    cases h with
    | refl => rfl
    | capitalised ha h =>
      have hb := (isReserved_eq_of_capitalise h).symm.trans ha
      rw [if_neg (Bool.eq_false_iff.1 ha), if_neg (Bool.eq_false_iff.1 hb), h]
    | marked ha h =>
      have hb := isReserved_of_capitalise_mark h
      rw [if_pos ha, if_neg (Bool.eq_false_iff.1 hb), h]
    | unmarked hb h =>
      have ha := isReserved_of_capitalise_mark h.symm
      rw [if_neg (Bool.eq_false_iff.1 ha), if_pos hb, h]

/-- What a collection calls the end of its owner: the reverse, else the class. -/
def ownerEnd (owner : String) (reverse : Option String) : String :=
  reverse.getD (unqualified owner)

lemma linkTable?_collection (owner name target : String) (reverse : Option String) :
    (Field.collection name target reverse none).linkTable? owner =
      some (Field.linkOf (linkColumn (ownerEnd owner reverse)) (linkColumn name)) :=
  rfl

/-- A table that links two ends has a keyword for a name if the two names are the parts of one, in
the order of their columns. -/
lemma isReserved_linkOf_iff (a b : String) :
    isReserved (Field.linkOf (linkColumn a) (linkColumn b)).table = true ↔
      isReserved a = false ∧ isReserved b = false ∧
        isReserved (if linkColumn a < linkColumn b then a ++ b else b ++ a) = true := by
  unfold Field.linkOf
  split
  · exact isReserved_linkColumn_append a b
  · rw [isReserved_linkColumn_append b a, and_left_comm]

/-- Marking a name again changes nothing, and no name that is marked if need be is a keyword. So
neither are the tables of classes, the columns of attributes and references, and the columns of
tables that link two ends. The name of such a table is a keyword just if neither end is named like
one, but the two names in the order of their columns make one up. -/
theorem names_reserved_iff (name className owner target : String) (reverse : Option String)
    (f : Field) :
    sqlName (sqlName name) = sqlName name ∧
    isReserved (sqlName name) = false ∧
    isReserved (tableName className) = false ∧
    (∀ column, f.column? = some column → isReserved column = false) ∧
    ∃ link, (Field.collection name target reverse none).linkTable? owner = some link ∧
      isReserved link.inward = false ∧
      isReserved link.outward = false ∧
      (isReserved link.table = true ↔
        isReserved (ownerEnd owner reverse) = false ∧ isReserved name = false ∧
          isReserved (if link.inward < link.outward then ownerEnd owner reverse ++ name
            else name ++ ownerEnd owner reverse) = true) := by
  have hname := isReserved_sqlName name
  refine ⟨sqlName_eq_self_iff.2 hname, hname, isReserved_sqlName (unqualified className),
    fun column => isReserved_column, _, linkTable?_collection owner name target reverse, ?_⟩
  rw [Field.inward_linkOf, Field.outward_linkOf]
  exact ⟨isReserved_linkColumn (ownerEnd owner reverse), isReserved_linkColumn name,
    isReserved_linkOf_iff (ownerEnd owner reverse) name⟩

/-- The order of a group is kept in a column that is no keyword, and the orders of groups in a table
that is none, as both of its ends are marked. -/
theorem names_reserved_iff_orders :
    (Field.reference "order" "Order" none).column? = some "intermine_orderId" ∧
    isReserved "intermine_orderId" = false ∧
    (Field.collection "order" "Order" none none).linkTable? "shop.Group" =
      some ⟨"Intermine_GroupIntermine_order", "Intermine_Group", "Intermine_order"⟩ ∧
    isReserved "Intermine_GroupIntermine_order" = false := by
  have horders : (Field.reference "order" "Order" none).column? = some "intermine_orderId" ∧
      (Field.collection "order" "Order" none none).linkTable? "shop.Group" =
        some ⟨"Intermine_GroupIntermine_order", "Intermine_Group", "Intermine_order"⟩ ∧
      isReserved "order" = true := by
    decide +kernel
  obtain ⟨hcolumn, hlink, horder⟩ := horders
  obtain ⟨_, _, _, hcolumns, link, hlink', _, _, htable⟩ :=
    names_reserved_iff "order" "shop.Group" "shop.Group" "Order" none
      (.reference "order" "Order" none)
  obtain rfl := Option.some.inj (hlink'.symm.trans hlink)
  refine ⟨hcolumn, hcolumns _ hcolumn, hlink, ?_⟩
  rw [Bool.eq_false_iff]
  intro hreserved
  have hname := (htable.1 hreserved).2.1
  rw [horder] at hname
  cases hname

/-- The table with the times of a class `Local` has a keyword for a name. -/
theorem table_reserved :
    (Field.collection "time" "Clock" none none).linkTable? "Local" =
      some ⟨"LocalTime", "Local", "Time"⟩ ∧
    isReserved "LocalTime" = true := by
  decide +kernel

end Naming

end ObjectQuery
