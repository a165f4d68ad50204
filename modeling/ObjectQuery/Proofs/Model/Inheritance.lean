import Mathlib
import ObjectQuery.Proofs.Model.ByName

/-!
# Inheritance

Declared classes are resolved in an order in which each one inherits from classes before it only
(`Resolved.Ordered`). No class is resolved twice, so the classes of a model are those that were
resolved, each with the fields that its superclasses leave it and its own put over them
(`ResolvedFrom`).
-/

namespace ObjectQuery

namespace Model

/-- The fields that superclasses leave a class as far as they are resolved, the first of a name. -/
def Resolved.inherited (resolved : Resolved) (superclasses : List String) : List Field :=
  superclasses.foldl (fun acc sup => ((resolved.lookup sup).getD []).foldl Field.addNew acc) []

/-- Each class comes behind its superclasses, the latest first and once, with its own fields put over
those that they leave it. -/
inductive Resolved.Ordered (classes : SortedMap String ClassDecl) : Resolved → Prop where
  | nil : Ordered classes []
  | cons {name : String} {d : ClassDecl} {rest : Resolved} :
    Ordered classes rest →
    name ∉ rest.map Prod.fst →
    classes.get? name = some d →
    d.superclasses ⊆ rest.map Prod.fst →
    Ordered classes ((name, ownOver (rest.inherited d.superclasses) d.fields) :: rest)

/-- A class is resolved once, so it is found with the fields that it was resolved with. -/
lemma Resolved.Ordered.lookup_of_mem {classes : SortedMap String ClassDecl} {resolved : Resolved}
    (h : resolved.Ordered classes) {name : String} {fields : List Field}
    (hmem : (name, fields) ∈ resolved) : resolved.lookup name = some fields := by
  induction h with
  | nil => cases hmem
  | @cons name' d rest _ hnew _ _ ih =>
    rcases List.mem_cons.1 hmem with heq | hrest
    · cases heq
      exact List.lookup_cons_self
    · have hne : name ≠ name' := by
        rintro rfl
        exact hnew (List.mem_map_of_mem hrest)
      rw [List.lookup_cons, beq_false_of_ne hne]
      exact ih hrest

/-- What resolving a class makes of the table: what was resolved stays as it is, and the classes in
`below` are left for later. -/
structure Resolved.Grown (classes : SortedMap String ClassDecl) (below : List String)
    (resolved resolved' : Resolved) : Prop where
  ordered : resolved'.Ordered classes
  subset : resolved ⊆ resolved'
  later : ∀ n ∈ below, n ∉ resolved.map Prod.fst → n ∉ resolved'.map Prod.fst

namespace Resolved.Grown

variable {classes : SortedMap String ClassDecl} {below : List String} {r r' r'' : Resolved}

lemma refl (h : r.Ordered classes) : Grown classes below r r :=
  ⟨h, List.Subset.refl r, fun _ _ hn => hn⟩

lemma trans (h : Grown classes below r r') (h' : Grown classes below r' r'') :
    Grown classes below r r'' where
  ordered := h'.ordered
  subset := List.Subset.trans h.subset h'.subset
  later n hn hnew := h'.later n hn (h.later n hn hnew)

end Resolved.Grown

/-- Resolving superclasses one after the other leaves what the table at the end has of them. -/
lemma grown_foldlM {classes : SortedMap String ClassDecl} (below : List String)
    (next : Resolved → String → Except ModelDefect (List Field × Resolved))
    {superclasses : List String}
    (hnext : ∀ sup r fields r', r.Ordered classes → next r sup = .ok (fields, r') →
      Resolved.Grown classes below r r' ∧ (sup, fields) ∈ r')
    {acc acc' : List Field} {r r' : Resolved} (hr : r.Ordered classes)
    (h : superclasses.foldlM (fun (b : List Field × Resolved) sup => next b.2 sup >>= fun res =>
      (.ok (res.1.foldl Field.addNew b.1, res.2) : Except ModelDefect _)) (acc, r) =
        .ok (acc', r')) :
    Resolved.Grown classes below r r' ∧ superclasses ⊆ r'.map Prod.fst ∧
      acc' = superclasses.foldl
        (fun acc sup => ((r'.lookup sup).getD []).foldl Field.addNew acc) acc := by
  induction superclasses generalizing acc r with
  | nil =>
    cases h
    exact ⟨.refl hr, List.nil_subset _, rfl⟩
  | cons sup superclasses ih =>
    rw [List.foldlM_cons] at h
    obtain ⟨_, hfirst, h⟩ := Except.bind_eq_ok.1 h
    obtain ⟨⟨fields, r₁⟩, hfields, hfirst⟩ := Except.bind_eq_ok.1 hfirst
    cases hfirst
    obtain ⟨hgrown, hmem⟩ := hnext sup r fields r₁ hr hfields
    obtain ⟨hgrown', hsub, hacc⟩ := ih hgrown.ordered h
    have hmem' : (sup, fields) ∈ r' := hgrown'.subset hmem
    refine ⟨hgrown.trans hgrown', List.cons_subset.2 ⟨List.mem_map_of_mem hmem', hsub⟩, ?_⟩
    rw [hacc, List.foldl_cons, hgrown'.ordered.lookup_of_mem hmem']
    rfl

/-- Resolving a class puts it behind those it inherits from, and leaves the classes that are being
resolved for later. -/
lemma grown_resolve {classes : SortedMap String ClassDecl} {depth : Nat} {below : List String}
    {resolved resolved' : Resolved} {name : String} {fields : List Field}
    (hr : resolved.Ordered classes)
    (h : resolve classes depth below resolved name = .ok (fields, resolved')) :
    Resolved.Grown classes below resolved resolved' ∧ (name, fields) ∈ resolved' := by
  induction depth generalizing below resolved resolved' name fields with
  | zero => cases h
  | succ depth ih =>
    unfold resolve at h
    split at h
    · rename_i found hfound
      cases h
      exact ⟨.refl hr, List.mem_of_lookup_eq_some hfound⟩
    · rename_i hnone
      split at h
      · cases h
      · rename_i hbelow
        split at h
        · cases h
        · rename_i d hd
          obtain ⟨⟨inherited, table⟩, hfold, h⟩ := Except.bind_eq_ok.1 h
          cases h
          -- what the superclasses leave: they are in order, and this class is not among them
          obtain ⟨hgrown, hsub, hinherited⟩ := grown_foldlM (name :: below)
            (resolve classes depth (name :: below)) (fun _ _ _ _ hr h => ih hr h) hr hfold
          subst hinherited
          have hnew : name ∉ resolved.map Prod.fst := by
            intro hmem
            obtain ⟨e, he, rfl⟩ := List.mem_map.1 hmem
            have hne := List.lookup_eq_none_iff.1 hnone e he
            simp at hne
          have hlast := hgrown.later name List.mem_cons_self hnew
          refine ⟨⟨.cons hgrown.ordered hlast hd hsub, ?_, ?_⟩, List.mem_cons_self⟩
          · exact List.subset_cons_of_subset _ hgrown.subset
          · intro n hn hnotin hmem
            rcases List.mem_cons.1 hmem with rfl | hmem
            · exact hbelow (List.contains_iff_mem.2 hn)
            · exact hgrown.later n (List.mem_cons_of_mem name hn) hnotin hmem

/-- The classes of a model come from declarations: they were resolved in order, all of them. -/
structure ResolvedFrom (m : Model) (classes : SortedMap String ClassDecl) (resolved : Resolved) :
    Prop where
  ordered : resolved.Ordered classes
  declared : ∀ {name c}, m.class? name = some c → classes.get? name = some c.decl
  fields : ∀ {name c}, m.class? name = some c → (name, c.allFields) ∈ resolved
  all : ∀ {name d}, classes.get? name = some d → ∃ c, m.class? name = some c

/-- All declared classes are resolved, and each with its declaration. -/
lemma resolvedFrom_resolveAll {classes : SortedMap String ClassDecl}
    {all : SortedMap String PersistentClass} (h : resolveAll classes = .ok all) (m : Model)
    (hm : m.classes = all) : ∃ resolved, m.ResolvedFrom classes resolved := by
  obtain ⟨⟨acc, resolved⟩, hfold, h⟩ := Except.bind_eq_ok.1 h
  cases h
  have hinv := Except.foldlM_invariant (fun b : SortedMap String PersistentClass × Resolved =>
    b.2.Ordered classes ∧ ∀ e ∈ b.1.entries,
      classes.get? e.1 = some e.2.decl ∧ (e.1, e.2.allFields) ∈ b.2) ?_
    ⟨.nil, List.forall_mem_nil _⟩ hfold
  · have hall := Except.foldlM_forall
      (fun e (b : SortedMap String PersistentClass × Resolved) => ∃ c, (e.1, c) ∈ b.1.entries)
      ?_ ?_ hfold
    · refine ⟨resolved, hinv.1, fun hc => ?_, fun hc => ?_, fun hd => ?_⟩
      · rw [class?, hm] at hc
        exact (hinv.2 _ (SortedMap.get?_eq_some_iff.1 hc)).1
      · rw [class?, hm] at hc
        exact (hinv.2 _ (SortedMap.get?_eq_some_iff.1 hc)).2
      · obtain ⟨c, hc⟩ := hall _ (SortedMap.get?_eq_some_iff.1 hd)
        refine ⟨c, ?_⟩
        rw [class?, hm]
        exact SortedMap.get?_eq_some_iff.2 hc
    · rintro ⟨name, d⟩ _ ⟨acc, table⟩ ⟨acc', table'⟩ hstep
      obtain ⟨⟨fields, table''⟩, _, hstep⟩ := Except.bind_eq_ok.1 hstep
      cases hstep
      exact ⟨_, SortedMap.mem_entries_insert.2 (.inl rfl)⟩
    · rintro ⟨name, d⟩ ⟨name', d'⟩ ⟨acc, table⟩ ⟨acc', table'⟩ ⟨c, hc⟩ hstep
      obtain ⟨⟨fields, table''⟩, _, hstep⟩ := Except.bind_eq_ok.1 hstep
      cases hstep
      by_cases hname : name = name'
      · exact ⟨_, SortedMap.mem_entries_insert.2 (.inl (by rw [hname]))⟩
      · exact ⟨c, SortedMap.mem_entries_insert.2 (.inr ⟨hc, hname⟩)⟩
  · rintro ⟨name, d⟩ hmem ⟨acc, table⟩ ⟨acc', table'⟩ ⟨hordered, hacc⟩ hstep
    obtain ⟨⟨fields, table''⟩, hresolve, hstep⟩ := Except.bind_eq_ok.1 hstep
    cases hstep
    obtain ⟨hgrown, hmem'⟩ := grown_resolve hordered hresolve
    refine ⟨hgrown.ordered, fun e he => ?_⟩
    rcases SortedMap.mem_entries_insert.1 he with rfl | ⟨he, _⟩
    · exact ⟨SortedMap.get?_eq_some_iff.2 hmem, hmem'⟩
    · exact ⟨(hacc e he).1, hgrown.subset (hacc e he).2⟩

lemma Resolved.Ordered.exists_decl {classes : SortedMap String ClassDecl} {resolved : Resolved}
    (h : resolved.Ordered classes) {name : String} {fields : List Field}
    (hmem : (name, fields) ∈ resolved) : ∃ d, classes.get? name = some d := by
  induction h with
  | nil => cases hmem
  | cons _ _ hd _ ih =>
    rcases List.mem_cons.1 hmem with heq | hmem
    · cases heq
      exact ⟨_, hd⟩
    · exact ih hmem

lemma Resolved.Ordered.nodup {classes : SortedMap String ClassDecl} {resolved : Resolved}
    (h : resolved.Ordered classes) : (resolved.map Prod.fst).Nodup := by
  induction h with
  | nil => exact .nil
  | cons _ hnew _ _ ih => exact List.nodup_cons.2 ⟨hnew, ih⟩

/-- No class is resolved twice, so there are as many steps to take as there are classes. -/
lemma Resolved.Ordered.length_le {classes : SortedMap String ClassDecl} {resolved : Resolved}
    (h : resolved.Ordered classes) : resolved.length ≤ classes.size := by
  rw [← List.length_map (f := Prod.fst)]
  refine SortedMap.length_le_size h.nodup fun name hname => ?_
  obtain ⟨⟨_, fields⟩, hmem, rfl⟩ := List.mem_map.1 hname
  obtain ⟨d, hd⟩ := h.exists_decl hmem
  rw [SortedMap.contains_eq_isSome_get?, hd]
  rfl

lemma ResolvedFrom.length_le {m : Model} {classes : SortedMap String ClassDecl}
    {resolved : Resolved} (hm : m.ResolvedFrom classes resolved) :
    resolved.length ≤ m.classes.size := by
  rw [← List.length_map (f := Prod.fst)]
  refine SortedMap.length_le_size hm.ordered.nodup fun name hname => ?_
  obtain ⟨⟨_, fields⟩, hmem, rfl⟩ := List.mem_map.1 hname
  obtain ⟨d, hd⟩ := hm.ordered.exists_decl hmem
  obtain ⟨c, hc⟩ := hm.all hd
  unfold class? at hc
  rw [SortedMap.contains_eq_isSome_get?, hc]
  rfl

/-- The classes of a model were resolved from a list of declarations, which have different names. -/
structure Declared (m : Model) (decls : List ClassDecl) (classes : SortedMap String ClassDecl)
    (resolved : Resolved) : Prop extends m.ResolvedFrom classes resolved where
  byName : ByName decls classes

lemma exists_declared {decls : List ClassDecl} {classes : SortedMap String ClassDecl}
    {all : SortedMap String PersistentClass} (hclasses : byName decls = .ok classes)
    (hall : resolveAll classes = .ok all) (m : Model) (hm : m.classes = all) :
    ∃ resolved, m.Declared decls classes resolved := by
  obtain ⟨resolved, hresolved⟩ := resolvedFrom_resolveAll hall m hm
  exact ⟨resolved, hresolved, (byName_eq_ok hclasses).2⟩

lemma Accepted.exists_declared {m : Model} (h : m.Accepted) :
    ∃ decls classes resolved, m.Declared decls classes resolved := by
  obtain ⟨_, _, decls, h⟩ := h
  obtain ⟨classes, hclasses, _, hall, _⟩ := build_eq_ok_iff.1 h
  exact ⟨decls, classes, Model.exists_declared hclasses hall m rfl⟩

namespace Declared

variable {m : Model} {decls : List ClassDecl} {classes : SortedMap String ClassDecl}
variable {resolved : Resolved} {name : String} {c : PersistentClass}

lemma mem (hm : m.Declared decls classes resolved) (hc : m.class? name = some c) : c.decl ∈ decls :=
  ((hm.byName name c.decl).1 (hm.declared hc)).1

lemma name_eq (hm : m.Declared decls classes resolved) (hc : m.class? name = some c) :
    c.name = name :=
  ((hm.byName name c.decl).1 (hm.declared hc)).2

/-- A declaration under the name of a class is that of the class. -/
lemma decl_eq (hm : m.Declared decls classes resolved) (hc : m.class? name = some c) {d : ClassDecl}
    (hd : d ∈ decls) (hname : d.name = name) : d = c.decl := by
  have hget := hm.byName.get?_eq hd hname
  exact Option.some.inj (hget.symm.trans (hm.declared hc))

lemma exists_class (hm : m.Declared decls classes resolved)
    (hname : name ∈ decls.map ClassDecl.name) : ∃ c, m.class? name = some c := by
  obtain ⟨d, hd, rfl⟩ := List.mem_map.1 hname
  exact hm.all (hm.byName.get?_eq hd rfl)

lemma contains_iff (hm : m.Declared decls classes resolved) :
    m.classes.contains name = true ↔ name ∈ decls.map ClassDecl.name := by
  rw [SortedMap.contains_eq_isSome_get?, Option.isSome_iff_exists]
  constructor
  · rintro ⟨c, hc⟩
    rw [← hm.name_eq hc]
    exact List.mem_map_of_mem (hm.mem hc)
  · exact hm.exists_class

end Declared

end Model

end ObjectQuery
