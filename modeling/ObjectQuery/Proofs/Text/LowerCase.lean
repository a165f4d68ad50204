import Mathlib
import ObjectQuery.Proofs.Text.Case

/-!
# Lower case

Few characters are in lower case what an ASCII letter is: its capital, and for `k` the sign of the
unit kelvin. So a text is in lower case a given word of other ASCII characters just if its ASCII
capitals are all that keeps it from being the word (`lowerCase_eq_iff`).
-/

namespace ObjectQuery.Text

/-- An ASCII character that only ASCII characters are in lower case. -/
abbrev IsPlain (c : Char) : Prop :=
  c.toNat < 0x80 ∧ c ≠ 'k'

lemma lowerChar_ofNat : ∀ n < 0x80, lowerChar (Char.ofNat n) = [(Char.ofNat n).toLower] := by
  decide +kernel

lemma lowerChar_of_ascii {c : Char} (hc : c.toNat < 0x80) : lowerChar c = [c.toLower] := by
  rw [← Char.ofNat_toNat c]
  exact lowerChar_ofNat c.toNat hc

lemma not_isPlain_lowerRuns : ∀ r ∈ lowerRuns,
    r.last < 0x80 ∨ ∀ code ∈ r.images, ¬ IsPlain (Char.ofNat code) := by
  decide +kernel

lemma not_isPlain_lowerExpansions : ∀ e ∈ lowerExpansions,
    ∃ code ∈ e.2, ¬ IsPlain (Char.ofNat code) := by
  decide +kernel

/-- A character beyond ASCII is in lower case something else than plain characters. -/
lemma exists_not_isPlain {c : Char} (hc : ¬ c.toNat < 0x80) : ∃ d ∈ lowerChar c, ¬ IsPlain d := by
  -- it is lowered by an expansion or a run of the table, which are checked as a whole, or kept
  cases hlookup : lowerExpansions.lookup c.toNat with
  | some codes =>
    obtain ⟨code, hcode, hplain⟩ :=
      not_isPlain_lowerExpansions _ (List.mem_of_lookup_eq_some hlookup)
    simp only [lowerChar, mapCase, hlookup]
    exact ⟨Char.ofNat code, List.mem_map_of_mem hcode, hplain⟩
  | none =>
    cases hrun : lowerRuns.findSome? (·.map? c.toNat) with
    | some code =>
      obtain ⟨r, hr, hcode⟩ := List.exists_of_findSome?_eq_some hrun
      obtain ⟨hmem, himage⟩ := CaseRun.mem_codes_of_map? hcode
      have hlast : ¬ r.last < 0x80 := by
        unfold CaseRun.map? at hcode
        split at hcode
        · omega
        · cases hcode
      simp only [lowerChar, mapCase, hlookup, hrun]
      exact ⟨Char.ofNat code, List.mem_singleton_self _,
        (not_isPlain_lowerRuns r hr).resolve_left hlast code himage⟩
    | none =>
      simp only [lowerChar, mapCase, hlookup, hrun]
      exact ⟨c, List.mem_singleton_self c, fun hplain => hc hplain.1⟩

lemma not_isPlain_lowerSigma (before after : List Char) : ¬ IsPlain (lowerSigma before after) := by
  unfold lowerSigma
  split <;> decide

/-- ASCII characters are lowered one by one. -/
lemma lowerFrom_of_ascii {cs : List Char} (hcs : ∀ c ∈ cs, c.toNat < 0x80) (before : List Char) :
    lowerFrom before cs = cs.map Char.toLower := by
  induction cs generalizing before with
  | nil => rfl
  | cons c cs ih =>
    obtain ⟨hc, hcs⟩ := List.forall_mem_cons.1 hcs
    have hsigma : c ≠ 'Σ' := by
      rintro rfl
      exact absurd hc (by decide)
    rw [lowerFrom, if_neg hsigma, lowerChar_of_ascii hc, ih hcs, List.map_cons, List.singleton_append]

/-- What is lowered to plain characters consists of ASCII characters. -/
lemma ascii_of_isPlain_lowerFrom {before cs : List Char} (h : ∀ d ∈ lowerFrom before cs, IsPlain d) :
    ∀ c ∈ cs, c.toNat < 0x80 := by
  induction cs generalizing before with
  | nil => exact List.forall_mem_nil _
  | cons c cs ih =>
    rw [lowerFrom, List.forall_mem_append] at h
    obtain ⟨hfirst, hrest⟩ := h
    refine List.forall_mem_cons.2 ⟨?_, ih hrest⟩
    by_contra hc
    split at hfirst
    · exact not_isPlain_lowerSigma before cs (hfirst _ (List.mem_singleton_self _))
    · obtain ⟨d, hd, hplain⟩ := exists_not_isPlain hc
      exact hplain (hfirst d hd)

lemma ascii_of_toLower {c : Char} (hc : c.toLower.toNat < 0x80) : c.toNat < 0x80 := by
  unfold Char.toLower at hc
  split at hc
  · rename_i hcapital
    have hle : c.toNat ≤ 'Z'.toNat := UInt32.le_iff_toNat_le.1 hcapital.2
    exact hle.trans_lt (by decide)
  · exact hc

/-- A text is in lower case a word of plain characters just if it is the word but for ASCII
capitals. -/
theorem lowerCase_eq_iff {word : String} (hword : ∀ c ∈ word.toList, IsPlain c) (text : String) :
    lowerCase text = word ↔ asciiLowerCase text = word := by
  rw [lowerCase, asciiLowerCase, String.ext_iff, String.ext_iff, String.toList_ofList,
    String.toList_map]
  by_cases hascii : ∀ c ∈ text.toList, c.toNat < 0x80
  · rw [lowerFrom_of_ascii hascii]
  · refine iff_of_false (fun h => hascii ?_) (fun h => hascii ?_)
    · rw [← h] at hword
      exact ascii_of_isPlain_lowerFrom hword
    · intro c hc
      rw [← h] at hword
      exact ascii_of_toLower (hword _ (List.mem_map_of_mem hc)).1

end ObjectQuery.Text
