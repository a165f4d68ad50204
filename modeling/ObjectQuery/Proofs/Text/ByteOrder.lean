import Mathlib
import ObjectQuery.Data.SortedMap

/-!
# The order of texts is that of their bytes

Texts are compared character by character. In UTF-8 a greater character has a greater byte at the
first place in which it differs, so texts are in the same order as the bytes that they are written
in (`bytes_lt_bytes_iff`).
-/

namespace ObjectQuery.Text

/-- The bytes of a text in UTF-8. -/
def bytes (s : String) : List UInt8 :=
  s.toUTF8.data.toList

lemma bytes_eq_flatMap (s : String) : bytes s = s.toList.flatMap String.utf8EncodeChar := by
  rw [bytes, String.toUTF8_eq_toByteArray, ← String.utf8Encode_toList, List.utf8Encode,
    List.data_toByteArray]

lemma bytes_append (s t : String) : bytes (s ++ t) = bytes s ++ bytes t := by
  rw [bytes_eq_flatMap, bytes_eq_flatMap, bytes_eq_flatMap, String.toList_append,
    List.flatMap_append]

/-- The lists differ within both of them, and the first one has the smaller byte there. -/
def DiffersBelow : List UInt8 → List UInt8 → Prop
  | x :: xs, y :: ys => x < y ∨ x = y ∧ DiffersBelow xs ys
  | _, _ => False

lemma DiffersBelow.append_lt {xs ys : List UInt8} (h : DiffersBelow xs ys) (us vs : List UInt8) :
    xs ++ us < ys ++ vs := by
  induction xs generalizing ys with
  | nil => cases h
  | cons x xs ih =>
    cases ys with
    | nil => cases h
    | cons y ys =>
      rw [List.cons_append, List.cons_append, List.cons_lt_cons_iff]
      exact h.imp_right fun ⟨hxy, h⟩ => ⟨hxy, ih h⟩

/-- The greater of two characters has the greater byte where their bytes differ first. -/
lemma differsBelow_utf8EncodeChar {c d : Char} (h : c < d) :
    DiffersBelow (String.utf8EncodeChar c) (String.utf8EncodeChar d) := by
  have hlt : c.val.toNat < d.val.toNat := h
  have hd : d.val.toNat < 0x110000 := by
    rcases d.valid with hd | hd <;> omega
  unfold String.utf8EncodeChar
  generalize c.val.toNat = i at hlt ⊢
  generalize d.val.toNat = j at hlt hd ⊢
  -- a longer form starts with a greater byte; within one form the parts of the number are compared
  have hparts (n : Nat) : n / 4096 = n / 64 / 64 ∧ n / 262144 = n / 64 / 64 / 64 := by omega
  simp only [(hparts _).1, (hparts _).2]
  split_ifs <;>
    simp (disch := omega) only [DiffersBelow, UInt8.lt_iff_toNat_lt, ← UInt8.toNat_inj,
      UInt8.toNat_ofNat', Nat.mod_eq_of_lt] <;>
    omega

lemma flatMap_utf8EncodeChar_lt {cs ds : List Char} (h : cs < ds) :
    cs.flatMap String.utf8EncodeChar < ds.flatMap String.utf8EncodeChar := by
  induction cs generalizing ds with
  | nil =>
    cases ds with
    | nil => cases h
    | cons d ds =>
      rw [List.flatMap_nil, List.flatMap_cons]
      obtain ⟨b, bs, hbs⟩ := List.exists_cons_of_ne_nil (String.utf8EncodeChar_ne_nil (c := d))
      rw [hbs]
      exact List.nil_lt_cons _ _
  | cons c cs ih =>
    cases ds with
    | nil => cases h
    | cons d ds =>
      rw [List.flatMap_cons, List.flatMap_cons]
      rcases List.cons_lt_cons_iff.1 h with hcd | ⟨rfl, hrest⟩
      · exact (differsBelow_utf8EncodeChar hcd).append_lt _ _
      · exact List.append_left_lt (ih hrest)

/-- Texts are in the order of their bytes. -/
theorem bytes_lt_bytes_iff {s t : String} : bytes s < bytes t ↔ s < t := by
  have hforward {s t : String} (h : s < t) : bytes s < bytes t := by
    rw [bytes_eq_flatMap, bytes_eq_flatMap]
    exact flatMap_utf8EncodeChar_lt (String.lt_iff_toList_lt.1 h)
  refine ⟨fun h => ?_, hforward⟩
  rcases lt_trichotomy s t with hlt | rfl | hgt
  · exact hlt
  · exact absurd h (List.lt_irrefl _)
  · exact absurd (List.lt_trans h (hforward hgt)) (List.lt_irrefl _)

/-- Texts ascend if their bytes do. -/
lemma ascending_iff {texts : List String} :
    Ascending texts ↔ texts.Pairwise fun s t => bytes s < bytes t := by
  refine List.Pairwise.iff fun s t => ?_
  rw [bytes_lt_bytes_iff]
  exact compareOfLessAndEq_eq_lt

end ObjectQuery.Text
