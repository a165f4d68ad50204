import Mathlib
import ObjectQuery.Proofs.Model.Consistency
import ObjectQuery.Proofs.Model.Overrides

/-!
# The fields of a class in order

A class has the fields that it and its ancestors declare, and its identity, each name once
(`Accepted.hasField_iff`, `ResolvedFrom.map_name_allFields`). Their order is that of the superclasses
with the own new names behind them, where an own declaration stands in the place of the field that it
replaces. The table of classes that are resolved saves work and changes nothing: resolving each
superclass anew gives the same fields (`Ordered.resolveAnew_eq`), and so does the table after any
classes were resolved (`Ordered.exists_resolve`).
-/

namespace ObjectQuery

section Names

variable {names : List String} {fields more : List Field}

/-- One more name comes behind the others unless it is one of them. -/
lemma eraseDups_append_singleton (names : List String) (name : String) :
    (names ++ [name]).eraseDups =
      if name ∈ names then names.eraseDups else names.eraseDups ++ [name] := by
  rw [List.eraseDups_append]
  split
  · rename_i h
    have hnone : [name].removeAll names = [] := by simp [List.removeAll, h]
    rw [hnone, List.eraseDups_nil, List.append_nil]
  · rename_i h
    have hall : [name].removeAll names = [name] := by simp [List.removeAll, h]
    rw [hall]
    rfl

lemma nodup_eraseDups (names : List String) : names.eraseDups.Nodup := by
  induction names using List.reverseRecOn with
  | nil => exact .nil
  | append_singleton names name ih =>
    rw [eraseDups_append_singleton]
    split
    · exact ih
    · rename_i h
      rw [List.nodup_append]
      refine ⟨ih, List.nodup_singleton name, ?_⟩
      rintro a ha _ hlast rfl
      obtain rfl := List.mem_singleton.1 hlast
      exact h (List.mem_eraseDups.1 ha)

namespace Field

/-- The fields have these names, each where it occurs first. -/
def NamedInOrder (fields : List Field) (names : List String) : Prop :=
  fields.map name = names.eraseDups

lemma any_name_iff {fields : List Field} {n : String} :
    fields.any (·.name == n) = true ↔ n ∈ fields.map name := by
  rw [List.any_eq_true, List.mem_map]
  exact exists_congr fun f => and_congr_right fun _ => beq_iff_eq

lemma map_name_addNew (fields : List Field) (f : Field) :
    (addNew fields f).map name =
      if f.name ∈ fields.map name then fields.map name else fields.map name ++ [f.name] := by
  unfold addNew
  simp only [any_name_iff]
  split
  · rfl
  · rw [List.map_append]
    rfl

lemma map_name_put (f : Field) (fields : List Field) :
    (f.put fields).map name =
      if f.name ∈ fields.map name then fields.map name else fields.map name ++ [f.name] := by
  induction fields with
  | nil => rfl
  | cons g fields ih =>
    rw [put]
    by_cases hg : g.name = f.name
    · rw [if_pos hg, List.map_cons, List.map_cons, hg, if_pos List.mem_cons_self]
    · have hmem : f.name ∈ (g :: fields).map name ↔ f.name ∈ fields.map name := by
        rw [List.map_cons, List.mem_cons, or_iff_right (Ne.symm hg)]
      rw [if_neg hg, List.map_cons, ih]
      simp only [hmem]
      split <;> rfl

/-- Fields that are added or put one after the other have their names behind those that are there. -/
lemma NamedInOrder.foldl {step : List Field → Field → List Field}
    (hstep : ∀ fields f, (step fields f).map name =
      if f.name ∈ fields.map name then fields.map name else fields.map name ++ [f.name])
    (h : NamedInOrder fields names) (more : List Field) :
    NamedInOrder (more.foldl step fields) (names ++ more.map name) := by
  induction more generalizing fields names with
  | nil =>
    rw [List.map_nil, List.append_nil]
    exact h
  | cons f more ih =>
    have hfirst : NamedInOrder (step fields f) (names ++ [f.name]) := by
      unfold NamedInOrder at h ⊢
      rw [hstep, h, eraseDups_append_singleton]
      simp only [List.mem_eraseDups]
    rw [List.map_cons, List.append_cons]
    exact ih hfirst

lemma map_name_withIdentity (fields : List Field) :
    (withIdentity fields).map name =
      if identityName ∈ fields.map name then fields.map name
      else identityName :: fields.map name := by
  unfold withIdentity
  simp only [any_name_iff]
  split <;> rfl

/-- Where no name is repeated, each field is the one of its name. -/
lemma eq_filterMap_find? {fields : List Field} (h : (fields.map name).Nodup) :
    fields = (fields.map name).filterMap (find? fields) := by
  induction fields with
  | nil => rfl
  | cons f fields ih =>
    rw [List.map_cons, List.nodup_cons] at h
    have hrest : (fields.map name).filterMap (find? (f :: fields)) =
        (fields.map name).filterMap (find? fields) := by
      refine List.filterMap_congr fun n hn => ?_
      have hne : f.name ≠ n := by
        rintro rfl
        exact h.1 hn
      rw [find?_cons, if_neg hne]
    rw [List.map_cons, List.filterMap_cons, find?_cons, if_pos rfl, hrest, ← ih h.2]

end Field

end Names

namespace Model

/-- The names of the fields of a class in order: those of its superclasses, one superclass after the
other, and then its own, each where it occurs first. An identity that is not among them comes in
front. -/
def fieldOrder (m : Model) (c : PersistentClass) : List String :=
  let names := ((m.superclasses c).flatMap (·.allFields.map Field.name) ++
    c.decl.fields.map Field.name).eraseDups
  if Field.identityName ∈ names then names else Field.identityName :: names

variable {m : Model} {classes : SortedMap String ClassDecl} {resolved table : Resolved}
variable {name : String} {c : PersistentClass}

lemma nodup_fieldOrder (m : Model) (c : PersistentClass) : (m.fieldOrder c).Nodup := by
  simp only [fieldOrder]
  split
  · exact nodup_eraseDups _
  · rename_i h
    exact List.nodup_cons.2 ⟨h, nodup_eraseDups _⟩

/-- Superclasses leave a class their fields in their order. -/
lemma namedInOrder_inherited (sups : List PersistentClass) {fields : List Field}
    {names : List String} (h : Field.NamedInOrder fields names) :
    Field.NamedInOrder (sups.foldl (fun acc sup => sup.allFields.foldl Field.addNew acc) fields)
      (names ++ sups.flatMap (·.allFields.map Field.name)) := by
  induction sups generalizing fields names with
  | nil =>
    rw [List.flatMap_nil, List.append_nil]
    exact h
  | cons sup sups ih =>
    rw [List.flatMap_cons, ← List.append_assoc]
    exact ih (h.foldl Field.map_name_addNew sup.allFields)

/-- The fields of a class are named in order. -/
lemma ResolvedFrom.map_name_allFields (hm : m.ResolvedFrom classes resolved)
    (hc : m.class? name = some c) : c.allFields.map Field.name = m.fieldOrder c := by
  have hempty : Field.NamedInOrder [] [] := List.eraseDups_nil.symm
  have hinherited := namedInOrder_inherited (m.superclasses c) hempty
  have hput (fields : List Field) (f : Field) := Field.map_name_put f fields
  have hown := hinherited.foldl hput c.decl.fields
  unfold Field.NamedInOrder at hown
  rw [hm.allFields_eq hc, ownOver, Field.map_name_withIdentity, hown, List.nil_append]
  rfl

/-- A class has its identity and the fields that it or an ancestor declares. -/
lemma Accepted.hasField_iff (h : m.Accepted) (hc : m.class? name = some c) (field : String) :
    c.hasField field = true ↔ field = Field.identityName ∨
      ∃ owner d, m.class? owner = some d ∧ d.declares field = true ∧
        (owner = name ∨ m.IsAncestor owner name) := by
  obtain ⟨_, _, _, hm⟩ := h.exists_declared
  constructor
  · rw [← hm.name_eq hc]
    refine hm.induction ?_ hc
    intro name c hc ih hfield
    rw [PersistentClass.hasField, hm.field?_eq hc, Option.isSome_or, Option.isSome_or,
      c.isSome_declaration?, Bool.or_eq_true, Bool.or_eq_true, List.findSome?_isSome_iff] at hfield
    rw [hm.name_eq hc]
    rcases hfield with (hown | ⟨sup, hsup, hfield⟩) | hid
    · exact .inr ⟨name, c, hc, hown, .inl rfl⟩
    · refine (ih sup hsup hfield).imp_right ?_
      rintro ⟨owner, d, hd, hdeclares, howner⟩
      obtain ⟨parent, hparent, hsup⟩ := mem_superclasses_iff.1 hsup
      rw [hm.name_eq hsup] at howner
      have hstep : m.IsParent parent name := ⟨c, hc, hparent⟩
      refine ⟨owner, d, hd, hdeclares, .inr ?_⟩
      rcases howner with rfl | habove
      · exact .single hstep
      · exact habove.tail hstep
    · split at hid
      · rename_i heq
        exact .inl heq.symm
      · cases hid
  · rintro (rfl | ⟨owner, d, hd, hdeclares, howner⟩)
    · exact h.hasField_identityName hc
    · have hsub : m.isSubclass name owner = true := (h.isSubclass_iff name owner).2 howner
      exact h.hasField_of_isSubclass hsub hc hd (h.hasField_of_declares hd hdeclares)

/-- The fields that a class declares or inherits, along at most `depth` steps of inheritance, where
every superclass is resolved anew. The classes in `below` are being resolved. -/
def resolveAnew (classes : SortedMap String ClassDecl) :
    Nat → List String → String → Except ModelDefect (List Field)
  | 0, _, name => .error (.inheritanceCycle name)
  | depth + 1, below, name =>
    if below.contains name then .error (.inheritanceCycle name)
    else
      match classes.get? name with
      | none => .error (.unknownClass name)
      | some d => do
        let inherited ← d.superclasses.foldlM (fun acc sup => do
          let fields ← resolveAnew classes depth (name :: below) sup
          return fields.foldl Field.addNew acc) []
        return ownOver inherited d.fields

/-- The table after the classes were resolved, one after the other. -/
def resolveEach (classes : SortedMap String ClassDecl) (names : List String) :
    Except ModelDefect Resolved :=
  names.foldlM (fun resolved name =>
    Prod.snd <$> resolve classes (classes.size + 1) [] resolved name) []

lemma resolveEach_append_singleton (names : List String) (name : String) :
    resolveEach classes (names ++ [name]) = resolveEach classes names >>= fun table =>
      Prod.snd <$> resolve classes (classes.size + 1) [] table name := by
  unfold resolveEach
  rw [List.foldlM_append]
  congr 1
  funext table
  exact bind_pure _

/-- A class that is in the table has the fields there that resolving it anew gives. -/
lemma Resolved.Ordered.resolveAnew_eq (h : resolved.Ordered classes) {fields : List Field}
    (hmem : (name, fields) ∈ resolved) {depth : Nat} (hdepth : resolved.length ≤ depth)
    {below : List String} (hbelow : below.Disjoint (resolved.map Prod.fst)) :
    resolveAnew classes depth below name = .ok fields := by
  induction h generalizing name fields depth below with
  | nil => cases hmem
  | @cons name' d rest hrest hnew hd hsups ih =>
    rw [List.length_cons] at hdepth
    rw [List.map_cons, List.disjoint_cons_right] at hbelow
    obtain ⟨hname, hbelow⟩ := hbelow
    rcases List.mem_cons.1 hmem with heq | hmem
    · cases heq
      obtain ⟨depth, rfl⟩ := Nat.exists_eq_add_one.2 (Nat.zero_lt_of_lt hdepth)
      -- the superclasses are behind the class, with one step less
      have hsup : ∀ sup ∈ d.superclasses, ∀ acc : List Field,
          (resolveAnew classes depth (name' :: below) sup >>= fun fields =>
            pure (fields.foldl Field.addNew acc)) =
          .ok (((rest.lookup sup).getD []).foldl Field.addNew acc) := by
        intro sup hsup acc
        obtain ⟨⟨_, fields⟩, hmem, rfl⟩ := List.mem_map.1 (hsups hsup)
        have hdisjoint : (name' :: below).Disjoint (rest.map Prod.fst) :=
          List.disjoint_cons_left.2 ⟨hnew, hbelow⟩
        rw [ih hmem (Nat.le_of_succ_le_succ hdepth) hdisjoint, hrest.lookup_of_mem hmem]
        rfl
      have hinherited : d.superclasses.foldlM (fun acc sup => do
          let fields ← resolveAnew classes depth (name' :: below) sup
          return fields.foldl Field.addNew acc) [] = .ok (rest.inherited d.superclasses) :=
        (Except.foldlM_congr hsup []).trans (List.foldlM_pure ..)
      rw [resolveAnew, if_neg (by rwa [List.contains_iff_mem]), hd]
      exact Except.bind_eq_ok.2 ⟨_, hinherited, rfl⟩
    · exact ih hmem (Nat.le_of_succ_le hdepth) hbelow

/-- Whatever was resolved before, resolving a class gives the fields that resolving it anew gives. -/
lemma ResolvedFrom.exists_resolve (hm : m.ResolvedFrom classes resolved)
    (hsups : SuperclassesDeclared classes) (hname : classes.contains name = true)
    (htable : table.Ordered classes) :
    ∃ fields table', resolve classes (classes.size + 1) [] table name = .ok (fields, table') ∧
      table'.Ordered classes ∧
      ∀ depth, classes.size ≤ depth → resolveAnew classes depth [] name = .ok fields := by
  have hfails : Except.FailsOnly (OfCycle classes)
      (resolve classes (classes.size + 1) [] table name) :=
    failsOnly_resolve hsups (.nil name) hname (Nat.lt_succ_self classes.size)
  rcases hfails.ok_or_error with ⟨⟨fields, table'⟩, hresolve⟩ | ⟨_, _, hcycle⟩
  · obtain ⟨hgrown, hmem⟩ := grown_resolve htable hresolve
    refine ⟨fields, table', hresolve, hgrown.ordered, fun depth hdepth => ?_⟩
    exact hgrown.ordered.resolveAnew_eq hmem (hgrown.ordered.length_le.trans hdepth)
      (List.disjoint_nil_left _)
  · obtain ⟨name, _, hcycle⟩ := hcycle
    exact absurd hcycle (hm.wellFounded.transGen.asymmetric name name hcycle)

lemma ResolvedFrom.exists_resolveEach (hm : m.ResolvedFrom classes resolved)
    (hsups : SuperclassesDeclared classes) {names : List String}
    (hnames : ∀ n ∈ names, classes.contains n = true) :
    ∃ table, resolveEach classes names = .ok table ∧ table.Ordered classes := by
  induction names using List.reverseRecOn with
  | nil => exact ⟨[], rfl, .nil⟩
  | append_singleton names name ih =>
    rw [List.forall_mem_append] at hnames
    obtain ⟨table, htable, hordered⟩ := ih hnames.1
    obtain ⟨fields, table', hresolve, hordered', _⟩ :=
      hm.exists_resolve hsups (hnames.2 name (List.mem_singleton_self name)) hordered
    refine ⟨table', ?_, hordered'⟩
    rw [resolveEach_append_singleton, htable]
    show Prod.snd <$> resolve classes (classes.size + 1) [] table name = .ok table'
    rw [hresolve]
    rfl

/-- The fields of a class of an accepted model. Their names are different ones: the identity and what
the class and its ancestors declare (1, 2). They are the fields that the class gets where every
superclass is resolved anew, and the same if any classes were resolved before (3). In order they come
as they occur first in the superclasses, one after the other, and then among the own fields, and an
identity that no class declares comes first (4). In each place there is the own field of the name, the
last one declared, or else that of the first superclass that has one (5). -/
theorem allFields_resolved {id : ModelId} {label : String} {decls : List ClassDecl}
    (h : build id label decls = .ok m) (hc : m.class? name = some c) :
    (c.allFields.map Field.name).Nodup ∧
    (∀ field, field ∈ c.allFields.map Field.name ↔ field = Field.identityName ∨
      ∃ owner d, m.class? owner = some d ∧ field ∈ d.decl.fields.map Field.name ∧
        (owner = name ∨ m.IsAncestor owner name)) ∧
    (∃ classes, byName decls = .ok classes ∧
      (∀ depth, classes.size ≤ depth → resolveAnew classes depth [] name = .ok c.allFields) ∧
      ∀ before ⊆ decls.map ClassDecl.name, ∃ table table',
        resolveEach classes before = .ok table ∧
        resolve classes (classes.size + 1) [] table name = .ok (c.allFields, table')) ∧
    c.allFields.map Field.name = m.fieldOrder c ∧
    c.allFields = (m.fieldOrder c).filterMap fun field =>
      ((c.declaration? field).or ((m.superclasses c).findSome? (·.field? field))).or
        (if Field.identityName = field then some Field.identity else none) := by
  have haccepted : m.Accepted := ⟨id, label, decls, h⟩
  obtain ⟨classes, hclasses, hsups, hall, _, _⟩ := build_eq_ok_iff.1 h
  obtain ⟨resolved, hm⟩ := exists_declared hclasses hall m rfl
  have hsups := checkSuperclasses_eq_ok_iff.1 hsups
  have horder := hm.map_name_allFields hc
  have hnodup : (c.allFields.map Field.name).Nodup := by
    rw [horder]
    exact m.nodup_fieldOrder c
  refine ⟨hnodup, fun field => ?_, ⟨classes, hclasses, ?_, ?_⟩, horder, ?_⟩
  · rw [← Field.any_name_iff, ← Field.isSome_find?]
    simp only [← Field.any_name_iff]
    exact haccepted.hasField_iff hc field
  · intro depth hdepth
    exact hm.ordered.resolveAnew_eq (hm.fields hc) (hm.ordered.length_le.trans hdepth)
      (List.disjoint_nil_left _)
  · intro before hbefore
    have hdeclared : ∀ n ∈ before, classes.contains n = true :=
      fun n hn => (hm.byName.contains_iff n).2 (hbefore hn)
    have hname : classes.contains name = true := by
      rw [SortedMap.contains_eq_isSome_get?, hm.declared hc]
      rfl
    obtain ⟨table, htable, hordered⟩ := hm.exists_resolveEach hsups hdeclared
    obtain ⟨fields, table', hresolve, _, hanew⟩ := hm.exists_resolve hsups hname hordered
    have hfields := hm.ordered.resolveAnew_eq (hm.fields hc) hm.ordered.length_le
      (List.disjoint_nil_left _)
    rw [hanew _ le_rfl] at hfields
    obtain rfl := Except.ok.inj hfields
    exact ⟨table, table', htable, hresolve⟩
  · rw [← horder]
    simp only [← hm.field?_eq hc]
    exact Field.eq_filterMap_find? hnodup

end Model

namespace Sample

/-- Ships have a name and may take cargo or passengers, and a ferry takes both. A ferry has a name of
another type and is declared to be a ship once more. -/
def fleetDecls : List ClassDecl :=
  [⟨"Ship", [], [.attribute "name" .string]⟩,
    ⟨"Freighter", ["Ship"], [.attribute "hold" .integer]⟩,
    ⟨"Liner", ["Ship"], [.attribute "cabins" .integer]⟩,
    ⟨"Ferry", ["Freighter", "Liner", "Ship"],
      [.attribute "ramp" .boolean, .attribute "name" .integer]⟩]

lemma isSome_build_fleet : (Model.build ⟨0⟩ "fleet" fleetDecls).toOption.isSome := by
  decide +kernel

/-- The model of the ships. -/
def fleet : Model :=
  (Model.build ⟨0⟩ "fleet" fleetDecls).toOption.get isSome_build_fleet

/-- The class of the ferries. -/
def ferry : PersistentClass :=
  ⟨⟨"Ferry", ["Freighter", "Liner", "Ship"],
      [.attribute "ramp" .boolean, .attribute "name" .integer]⟩,
    [.identity, .attribute "name" .integer, .attribute "hold" .integer,
      .attribute "cabins" .integer, .attribute "ramp" .boolean]⟩

end Sample

/-- A ferry has its own name in the place of that of ships, and no name twice. -/
theorem allFields_resolved_ferry :
    Model.build ⟨0⟩ "fleet" Sample.fleetDecls = .ok Sample.fleet ∧
    Sample.fleet.class? "Ferry" = some Sample.ferry ∧
    Sample.fleet.fieldOrder Sample.ferry = ["id", "name", "hold", "cabins", "ramp"] ∧
    ∃ classes, Model.byName Sample.fleetDecls = .ok classes ∧
      ∃ table table', Model.resolveEach classes ["Liner", "Ship", "Liner"] = .ok table ∧
        Model.resolve classes (classes.size + 1) [] table "Ferry" =
          .ok (Sample.ferry.allFields, table') := by
  have hbuild := Model.build_eq_ok_get Sample.isSome_build_fleet
  have hclass : Sample.fleet.class? "Ferry" = some Sample.ferry := by decide +kernel
  obtain ⟨_, _, ⟨classes, hclasses, _, hbefore⟩, horder, _⟩ :=
    Model.allFields_resolved hbuild hclass
  have hnames : ["Liner", "Ship", "Liner"] ⊆ Sample.fleetDecls.map ClassDecl.name := by decide
  exact ⟨hbuild, hclass, horder.symm, classes, hclasses, hbefore _ hnames⟩

end ObjectQuery
