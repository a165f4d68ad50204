import Mathlib
import ObjectQuery.Proofs.Model.Accepted

/-!
# Declared classes by name

Declarations are put into a map by name unless a name is declared twice. The map has each declaration
under its name (`byName_eq_ok`), so it does not depend on their order (`byName_perm`).
-/

namespace ObjectQuery.Model

/-- The map has each of the declarations under its name, and no other. -/
def ByName (decls : List ClassDecl) (classes : SortedMap String ClassDecl) : Prop :=
  ∀ name d, classes.get? name = some d ↔ d ∈ decls ∧ d.name = name

lemma byName_append_singleton (decls : List ClassDecl) (d : ClassDecl) :
    byName (decls ++ [d]) = byName decls >>= fun classes =>
      if classes.contains d.name then .error (.repeatedClass d.name)
      else .ok (classes.insert d.name d) := by
  unfold byName
  rw [List.foldlM_append]
  congr 1
  funext classes
  exact bind_pure _

lemma ByName.get?_eq {decls : List ClassDecl} {classes : SortedMap String ClassDecl}
    (h : ByName decls classes) {d : ClassDecl} {name : String} (hd : d ∈ decls)
    (hname : d.name = name) : classes.get? name = some d :=
  (h name d).2 ⟨hd, hname⟩

lemma ByName.contains_iff {decls : List ClassDecl} {classes : SortedMap String ClassDecl}
    (h : ByName decls classes) (name : String) :
    classes.contains name = true ↔ name ∈ decls.map ClassDecl.name := by
  rw [SortedMap.contains_eq_isSome_get?, Option.isSome_iff_exists, List.mem_map]
  exact exists_congr fun d => h name d

lemma ByName.append_singleton {decls : List ClassDecl} {classes : SortedMap String ClassDecl}
    (h : ByName decls classes) {d : ClassDecl} (hnew : d.name ∉ decls.map ClassDecl.name) :
    ByName (decls ++ [d]) (classes.insert d.name d) := by
  intro name d'
  rw [SortedMap.get?_insert, List.mem_append, List.mem_singleton]
  split
  · rename_i hname
    subst hname
    constructor
    · intro hd
      obtain rfl := Option.some.inj hd
      exact ⟨.inr rfl, rfl⟩
    · rintro ⟨hd' | rfl, hname⟩
      · exact absurd (List.mem_map.2 ⟨d', hd', hname⟩) hnew
      · rfl
  · rename_i hname
    rw [h]
    constructor
    · exact fun ⟨hd', hname'⟩ => ⟨.inl hd', hname'⟩
    · rintro ⟨hd' | rfl, hname'⟩
      · exact ⟨hd', hname'⟩
      · exact absurd hname' hname

lemma byName_eq_ok {decls : List ClassDecl} {classes : SortedMap String ClassDecl}
    (h : byName decls = .ok classes) :
    (decls.map ClassDecl.name).Nodup ∧ ByName decls classes := by
  induction decls using List.reverseRecOn generalizing classes with
  | nil =>
    cases h
    refine ⟨.nil, fun name d => ?_⟩
    simp [SortedMap.get?_empty]
  | append_singleton decls d ih =>
    rw [byName_append_singleton] at h
    obtain ⟨before, hbefore, h⟩ := Except.bind_eq_ok.1 h
    obtain ⟨hnodup, hclasses⟩ := ih hbefore
    split at h
    · cases h
    · rename_i hnew
      cases h
      rw [hclasses.contains_iff] at hnew
      refine ⟨?_, hclasses.append_singleton hnew⟩
      rw [List.map_append, List.nodup_append]
      refine ⟨hnodup, List.nodup_singleton _, ?_⟩
      rintro name hname _ hlast rfl
      obtain rfl := List.mem_singleton.1 hlast
      exact hnew hname

/-- What keeps declarations from being put into a map is a name that is declared twice. -/
lemma failsOnly_byName (decls : List ClassDecl) : Except.FailsOnly
    (fun e => ∃ name, e = .repeatedClass name ∧ (decls.map ClassDecl.name).Duplicate name)
    (byName decls) := by
  induction decls using List.reverseRecOn with
  | nil => exact .ok
  | append_singleton decls d ih =>
    rw [byName_append_singleton, List.map_append]
    intro e he
    cases hbefore : byName decls with
    | error e' =>
      rw [hbefore] at he
      cases he
      obtain ⟨name, rfl, hname⟩ := ih _ hbefore
      exact ⟨name, rfl, hname.mono_sublist (List.sublist_append_left _ _)⟩
    | ok classes =>
      rw [hbefore] at he
      change (if classes.contains d.name then _ else _) = _ at he
      split at he
      · rename_i hold
        cases he
        rw [(byName_eq_ok hbefore).2.contains_iff] at hold
        refine ⟨d.name, rfl, List.duplicate_iff_sublist.2 ?_⟩
        exact (List.singleton_sublist.2 hold).append (List.Sublist.refl [d.name])
      · cases he

/-- Declarations of different names are put into a map, the same in every order. -/
lemma byName_perm {decls decls' : List ClassDecl} (hperm : decls.Perm decls')
    {classes : SortedMap String ClassDecl} (h : byName decls = .ok classes) :
    byName decls' = .ok classes := by
  obtain ⟨hnodup, hclasses⟩ := byName_eq_ok h
  have hnodup' : (decls'.map ClassDecl.name).Nodup := (hperm.map _).nodup_iff.1 hnodup
  rcases (failsOnly_byName decls').ok_or_error with ⟨classes', h'⟩ | ⟨_, _, name, _, hname⟩
  · obtain ⟨_, hclasses'⟩ := byName_eq_ok h'
    have heq : classes = classes' := by
      apply SortedMap.ext_get?
      intro name
      ext d
      rw [hclasses, hclasses', hperm.mem_iff]
    rw [heq]
    exact h'
  · exact absurd hnodup' hname.not_nodup

end ObjectQuery.Model
