import Mathlib
import ObjectQuery.Proofs.Except
import ObjectQuery.Text.Case

/-!
# Upper case

A character in upper case is in upper case already: no code point that the mappings lead to is one
that they change, which two sets of bits show at once (`apart_upperImages`). So upper-casing a text
twice is upper-casing it once (`upperCase_upperCase`), and a text in upper case does not show
whether its first character was capitalised before (`upperCase_capitalise`).
-/

namespace ObjectQuery.Text

/-- Numbers as the bits of one. -/
def bits (ns : List Nat) : Nat :=
  ns.foldr (fun n m => 2 ^ n ||| m) 0

/-- Numbers in groups as the bits of one. -/
def groupBits (groups : List (List Nat)) : Nat :=
  groups.foldr (fun ns m => bits ns ||| m) 0

lemma testBit_bits (ns : List Nat) (n : Nat) : (bits ns).testBit n = true ↔ n ∈ ns := by
  induction ns with
  | nil => simp [bits]
  | cons k ns ih =>
    show (2 ^ k ||| bits ns).testBit n = true ↔ n ∈ k :: ns
    rw [Nat.testBit_lor, Bool.or_eq_true, ih, Nat.testBit_two_pow, decide_eq_true_eq, List.mem_cons,
      eq_comm]

lemma testBit_groupBits (groups : List (List Nat)) (n : Nat) :
    (groupBits groups).testBit n = true ↔ ∃ ns ∈ groups, n ∈ ns := by
  induction groups with
  | nil => simp [groupBits]
  | cons ns groups ih =>
    show (bits ns ||| groupBits groups).testBit n = true ↔ _
    rw [Nat.testBit_lor, Bool.or_eq_true, ih, testBit_bits, List.exists_mem_cons_iff]

namespace CaseRun

/-- The code points of the run. -/
def codes (r : CaseRun) : List Nat :=
  (List.range ((r.last - r.first) / r.step + 1)).map fun k => r.first + r.step * k

/-- The code points that those of the run are mapped to. -/
def images (r : CaseRun) : List Nat :=
  r.codes.map fun (n : Nat) => ((n : Int) + r.offset).toNat

lemma mem_codes_of_map? {r : CaseRun} {n code : Nat} (h : r.map? n = some code) :
    n ∈ r.codes ∧ code ∈ r.images := by
  unfold map? at h
  split at h
  · rename_i hn
    obtain ⟨hfirst, hlast, hstep⟩ := hn
    obtain rfl := Option.some.inj h
    have hmem : n ∈ r.codes := by
      refine List.mem_map.2 ⟨(n - r.first) / r.step, List.mem_range.2 ?_, ?_⟩
      · have hle : (n - r.first) / r.step ≤ (r.last - r.first) / r.step :=
          Nat.div_le_div_right (by omega)
        omega
      · have hdiv := Nat.div_add_mod (n - r.first) r.step
        omega
    exact ⟨hmem, List.mem_map_of_mem hmem⟩
  · cases h

end CaseRun

/-- The code points that upper-casing changes. -/
def upperCodes : List (List Nat) :=
  upperExpansions.map Prod.fst :: upperRuns.map CaseRun.codes

/-- The code points that upper-casing leads to, and that of the null character, which stands for
code points of no character. -/
def upperImages : List (List Nat) :=
  [0] :: upperExpansions.map Prod.snd ++ upperRuns.map CaseRun.images

lemma apart_upperImages : groupBits upperCodes &&& groupBits upperImages = 0 := by
  decide +kernel

/-- No code point that upper-casing leads to is one that it changes. -/
lemma notMem_upperCodes {code : Nat} {ns : List Nat} (hns : ns ∈ upperImages) (hcode : code ∈ ns) :
    ∀ ms ∈ upperCodes, code ∉ ms := by
  intro ms hms hmem
  have hboth : (groupBits upperCodes &&& groupBits upperImages).testBit code = true := by
    rw [Nat.testBit_land, Bool.and_eq_true, testBit_groupBits, testBit_groupBits]
    exact ⟨⟨ms, hms, hmem⟩, ns, hns, hcode⟩
  rw [apart_upperImages, Nat.zero_testBit] at hboth
  cases hboth

lemma upperChar_of_notMem {c : Char} (hc : ∀ ms ∈ upperCodes, c.toNat ∉ ms) :
    upperChar c = [c] := by
  have hlookup : upperExpansions.lookup c.toNat = none := by
    refine List.lookup_eq_none_iff.2 fun e he => bne_iff_ne.2 ?_
    intro hcode
    apply hc _ List.mem_cons_self
    rw [hcode]
    exact List.mem_map_of_mem he
  have hruns : upperRuns.findSome? (·.map? c.toNat) = none := by
    refine List.findSome?_eq_none_iff.2 fun r hr => ?_
    rw [Option.eq_none_iff_forall_ne_some]
    intro code hcode
    exact hc _ (List.mem_cons_of_mem _ (List.mem_map_of_mem hr)) (CaseRun.mem_codes_of_map? hcode).1
  simp only [upperChar, mapCase, hlookup, hruns]

/-- A character that upper-casing leads to is in upper case. -/
lemma upperChar_ofNat {code : Nat} {ns : List Nat} (hns : ns ∈ upperImages) (hcode : code ∈ ns) :
    upperChar (Char.ofNat code) = [Char.ofNat code] := by
  apply upperChar_of_notMem
  rw [Char.toNat_ofNat]
  split
  · exact notMem_upperCodes hns hcode
  · exact notMem_upperCodes List.mem_cons_self (List.mem_singleton_self 0)

/-- The upper-case form of a character consists of characters that are in upper case. -/
lemma upperChar_of_mem_upperChar {c d : Char} (hd : d ∈ upperChar c) : upperChar d = [d] := by
  cases hlookup : upperExpansions.lookup c.toNat with
  | some codes =>
    simp only [upperChar, mapCase, hlookup] at hd
    obtain ⟨code, hcode, rfl⟩ := List.mem_map.1 hd
    have hmem : codes ∈ upperExpansions.map Prod.snd :=
      List.mem_map_of_mem (List.mem_of_lookup_eq_some hlookup)
    exact upperChar_ofNat (List.mem_append_left _ (List.mem_cons_of_mem _ hmem)) hcode
  | none =>
    cases hrun : upperRuns.findSome? (·.map? c.toNat) with
    | some code =>
      simp only [upperChar, mapCase, hlookup, hrun] at hd
      obtain rfl := List.mem_singleton.1 hd
      obtain ⟨r, hr, hcode⟩ := List.exists_of_findSome?_eq_some hrun
      have hmem : r.images ∈ upperRuns.map CaseRun.images := List.mem_map_of_mem hr
      exact upperChar_ofNat (List.mem_append_right _ hmem) (CaseRun.mem_codes_of_map? hcode).2
    | none =>
      have hself : upperChar c = [c] := by
        simp only [upperChar, mapCase, hlookup, hrun]
      rw [hself] at hd
      rw [List.mem_singleton.1 hd, hself]

lemma flatMap_upperChar (c : Char) : (upperChar c).flatMap upperChar = upperChar c := by
  have hsingle : (upperChar c).flatMap upperChar = (upperChar c).flatMap fun d => [d] :=
    List.flatMap_congr fun d hd => upperChar_of_mem_upperChar hd
  rw [hsingle, List.flatMap_singleton']

/-- A text in upper case stays as it is. -/
theorem upperCase_upperCase (s : String) : upperCase (upperCase s) = upperCase s := by
  rw [String.ext_iff, toList_upperCase, toList_upperCase, List.flatMap_assoc]
  exact List.flatMap_congr fun c _ => flatMap_upperChar c

/-- A text and the capitalised one are the same in upper case. -/
theorem upperCase_capitalise (s : String) : upperCase (capitalise s) = upperCase s := by
  unfold capitalise
  rw [String.ext_iff, toList_upperCase, toList_upperCase]
  cases s.toList with
  | nil => rfl
  | cons c cs =>
    rw [String.toList_ofList, List.flatMap_append, flatMap_upperChar, List.flatMap_cons]

/-- Texts with the same start are the same if they are once they are capitalised. -/
lemma capitalise_append_inj {s t u : String} (hs : s ≠ "") :
    capitalise (s ++ t) = capitalise (s ++ u) ↔ t = u := by
  refine ⟨fun h => ?_, fun h => by rw [h]⟩
  unfold capitalise at h
  rw [String.toList_append, String.toList_append] at h
  cases hchars : s.toList with
  | nil => exact absurd (String.toList_eq_nil_iff.1 hchars) hs
  | cons c cs =>
    rw [hchars, String.ext_iff] at h
    simpa [String.ext_iff] using h

end ObjectQuery.Text
