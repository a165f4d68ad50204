import Mathlib
import ObjectQuery.Proofs.Query.ItemAliases
import ObjectQuery.Proofs.Sql.Exports

/-!
# Columns of derived tables

A derived table lists the objects of a class that is selected and then the columns of its fields. The
fields are merged by name first, where the first component that has a name provides its field, and
then by column, so every column of these fields is listed once and in the order of the names. If the
query makes up its aliases and selects no class twice, all columns of the table have different names:
each starts with an alias that is made up for its item alone and goes on with a column of the item
(`compile_derivedColumns`).
-/

namespace List

/-- Lists whose elements have different images, within each list and between any two, have so when
put together. -/
lemma nodup_map_flatten_of_forall₂ {α β γ : Type} {R : α → List β → Prop} {f : β → γ} {as : List α}
    {bss : List (List β)} (h : Forall₂ R as bss)
    (hnodup : ∀ a ∈ as, ∀ bs, R a bs → (bs.map f).Nodup)
    (hapart : as.Pairwise fun a a' => ∀ bs bs', R a bs → R a' bs' →
      ∀ b ∈ bs, ∀ b' ∈ bs', f b ≠ f b') : (bss.flatten.map f).Nodup := by
  induction h with
  | nil => exact .nil
  | @cons a bs as bss hab hrest ih =>
    obtain ⟨ha, has⟩ := pairwise_cons.1 hapart
    obtain ⟨hbs, hnodup⟩ := forall_mem_cons.1 hnodup
    rw [flatten_cons, map_append]
    refine (hbs bs hab).append (ih hnodup has) fun c hc hc' => ?_
    obtain ⟨b, hb, rfl⟩ := mem_map.1 hc
    obtain ⟨b', hb', hsame⟩ := mem_map.1 hc'
    obtain ⟨bs', hbs', hb'⟩ := mem_flatten.1 hb'
    obtain ⟨a', ha', hR⟩ := hrest.exists_of_mem_right hbs'
    exact ha a' ha' bs bs' hab hR b hb b' hb' hsame.symm

/-- Lists that are related through an image have a list between them. -/
lemma exists_map_of_forall₂ {α β γ : Type} {S : α → γ → Prop} {f : γ → β} {as : List α}
    {bs : List β} (h : Forall₂ (fun a b => ∃ c, S a c ∧ b = f c) as bs) :
    ∃ cs, Forall₂ S as cs ∧ bs = cs.map f := by
  induction h with
  | nil => exact ⟨[], .nil, rfl⟩
  | cons hab _ ih =>
    obtain ⟨c, hac, rfl⟩ := hab
    obtain ⟨cs, hcs, rfl⟩ := ih
    exact ⟨c :: cs, .cons hac hcs, rfl⟩

end List

namespace ObjectQuery

open ObjectQuery.Query (madeAlias madeAlias_append_inj)

/-- A column of the components: a component has a field that is stored in it, and no component
before has a field of that name that is stored elsewhere. -/
def StoredIn (components : List PersistentClass) (column : String) : Prop :=
  ∃ before c after f, components = before ++ c :: after ∧ c.field? f.name = some f ∧
    f.column? = some column ∧
    ∀ c' ∈ before, ∀ g, c'.field? f.name = some g → g.column? = some column

/-- The columns of the components are those of the fields of their type. -/
lemma storedIn_iff {m : Model} {t : ClassType} {components : List PersistentClass}
    (hcomponents : m.components t = .ok components) {fields : SortedMap String Field}
    (hfields : m.fields t = .ok fields) {column : String} :
    StoredIn components column ↔
      ∃ f, fields.get? f.name = some f ∧ f.column? = some column := by
  have hget := Model.get?_fields hcomponents hfields
  constructor
  · rintro ⟨before, c, after, f, rfl, hf, hcolumn, hbefore⟩
    cases hfirst : before.findSome? (·.field? f.name) with
    | none =>
      refine ⟨f, ?_, hcolumn⟩
      rw [hget, List.findSome?_append, hfirst, Option.none_or,
        List.findSome?_cons_of_isSome (by rw [hf]; rfl), hf]
    | some g =>
      -- the name is taken by an earlier component, whose field is stored in the same column
      obtain ⟨c', hc', hg⟩ := List.exists_of_findSome?_eq_some hfirst
      refine ⟨g, ?_, hbefore c' hc' g hg⟩
      rw [hget, Field.name_of_find? hg, List.findSome?_append, hfirst, Option.some_or]
  · rintro ⟨f, hf, hcolumn⟩
    rw [hget] at hf
    obtain ⟨before, c, after, hsplit, hc, hbefore⟩ := List.findSome?_eq_some_iff.1 hf
    refine ⟨before, c, after, f, hsplit, hc, hcolumn, fun c' hc' g hg => ?_⟩
    rw [hbefore c' hc'] at hg
    cases hg

/-- No column has an empty name if no attribute has. -/
lemma not_storedIn_empty {components : List PersistentClass}
    (h : ∀ c ∈ components, ∀ type, .attribute "" type ∉ c.allFields) :
    ¬ StoredIn components "" := by
  rintro ⟨before, c, after, f, rfl, hf, hcolumn, _⟩
  have hmem : f ∈ c.allFields := List.mem_of_find?_eq_some hf
  obtain ⟨name, type⟩ | ⟨name, _, _⟩ | _ := f
  · have hname : Naming.attributeColumn name = "" := Option.some.inj hcolumn
    have hlength := congrArg String.length hname
    rw [Naming.attributeColumn, Naming.length_sqlName, String.length_empty] at hlength
    obtain rfl : name = "" := String.length_eq_zero_iff.1 (by omega)
    exact h c (List.mem_append_right _ List.mem_cons_self) type hmem
  · have hlength := congrArg String.length (Option.some.inj hcolumn)
    rw [Naming.referenceColumn, String.length_append, String.length_empty] at hlength
    exact absurd hlength (Nat.succ_ne_zero _)
  · cases hcolumn

namespace Sql

/-- The name of an output column. -/
def Output.name (o : Output) : Option String :=
  o.label.map Label.text

/-- The columns that a class is listed with: one for each column of its components, in the order of
the names, and each from the table of a field that is stored in it. -/
structure Scope.ListsColumns (s : Scope) (c : ClassNode) (refs : List ColumnRef) : Prop where
  ascending : Ascending (refs.map ColumnRef.column)
  mem_iff : ∃ components, s.model.components c.type = .ok components ∧
    ∀ column, column ∈ refs.map ColumnRef.column ↔ StoredIn components column
  table : ∀ r ∈ refs, ∃ fields f, s.model.fields c.type = .ok fields ∧
    fields.get? f.name = some f ∧ f.column? = some r.column ∧ s.tableOf c.id f.name = .ok r.table

/-- What an item is in a derived table: an expression under its alias; the objects of a class under
its alias and its columns under the alias and their names, which the class is grouped by as well. -/
inductive Scope.ListsItem (s : Scope) : SelectItem → List Output → Prop where
  | expr {e : Expr} {a : String} {t : Term} :
    s.term e = .ok t →
    ListsItem s ⟨.expr e, a⟩ [⟨t, some (.plain a)⟩]
  | object {c : ClassNode} {a base : String} {refs : List ColumnRef} :
    s.aliasOf c.id = .ok base →
    s.ListsColumns c refs →
    s.groupTerms (.object c) = .ok (Scope.objectColumn base :: refs.map Term.column) →
    ListsItem s ⟨.object c, a⟩ (⟨Scope.objectColumn base, some (.ofAlias base "")⟩ ::
      refs.map fun r => ⟨.column r, some (.ofAlias base r.column)⟩)

section

variable {s : Scope} {c : ClassNode}

/-- The columns of a class are the same with names and without. -/
lemma exists_refs_of_allColumns {a : String} {outputs : List Output}
    (h : s.allColumns c a true = .ok outputs) :
    ∃ stored refs, s.storedColumns c.type = .ok stored ∧
      List.Forall₂ (fun entry (r : ColumnRef) =>
        s.tableOf c.id entry.2 = .ok r.table ∧ r.column = entry.1) stored refs ∧
      outputs = ⟨Scope.objectColumn a, some (.ofAlias a "")⟩ ::
        refs.map (fun r => ⟨.column r, some (.ofAlias a r.column)⟩) ∧
      s.allColumns c a false = .ok (⟨Scope.objectColumn a, none⟩ ::
        refs.map fun r => ⟨.column r, none⟩) := by
  obtain ⟨stored, columns, hstored, hcolumns, rfl⟩ := Scope.exists_of_allColumns h
  have hentries := hcolumns.imp (S := fun entry o => ∃ r : ColumnRef,
      (s.tableOf c.id entry.2 = .ok r.table ∧ r.column = entry.1) ∧
      o = ⟨.column r, some (.ofAlias a r.column)⟩) fun entry o ⟨table, htable, ho⟩ =>
    ⟨⟨table, entry.1⟩, ⟨htable, rfl⟩, ho⟩
  obtain ⟨refs, hrefs, rfl⟩ := List.exists_map_of_forall₂ hentries
  refine ⟨stored, refs, hstored, hrefs, rfl, Except.bind_eq_ok.2 ⟨stored, hstored, ?_⟩⟩
  -- the tables are found as before, only the labels are left out
  refine Except.bind_eq_ok.2 ⟨_, Except.mapM_eq_ok_iff.2 ?_, rfl⟩
  refine List.forall₂_map_right_iff.2 (hrefs.imp fun entry r ⟨htable, hname⟩ => ?_)
  refine Except.bind_eq_ok.2 ⟨r.table, htable, ?_⟩
  rw [← hname]
  rfl

/-- The columns of a type are in order, and each has a field that is stored in it. -/
lemma storedColumns_of_fields {t : ClassType} {fields : SortedMap String Field}
    {stored : List (String × String)} (hfields : s.model.fields t = .ok fields)
    (hstored : s.storedColumns t = .ok stored) :
    Ascending (stored.map Prod.fst) ∧
    ∀ entry ∈ stored, ∃ f, fields.get? f.name = some f ∧ f.column? = some entry.1 ∧
      f.name = entry.2 := by
  obtain ⟨fields', hfields', h⟩ := Except.bind_eq_ok.1 hstored
  obtain rfl : fields' = fields := Except.ok.inj (hfields'.symm.trans hfields)
  cases h
  refine ⟨SortedMap.ascending _, fun entry hentry => ?_⟩
  have hmem := SortedMap.mem_of_mem_ofList hentry
  obtain ⟨f, hvalue, hf⟩ := List.mem_filterMap.1 hmem
  obtain ⟨column, hcolumn, rfl⟩ := Option.map_eq_some_iff.1 hf
  obtain ⟨⟨field, f⟩, hfield, rfl⟩ := List.mem_map.1 hvalue
  have hget := SortedMap.get?_eq_some_iff.2 hfield
  obtain rfl := Model.name_of_get?_fields hfields hget
  exact ⟨f, hget, hcolumn, rfl⟩

/-- The columns of a class are those that the fields of its type are stored in. -/
lemma listsColumns_of_storedColumns {stored : List (String × String)} {refs : List ColumnRef}
    (hstored : s.storedColumns c.type = .ok stored)
    (hrefs : List.Forall₂ (fun entry (r : ColumnRef) =>
      s.tableOf c.id entry.2 = .ok r.table ∧ r.column = entry.1) stored refs) :
    s.ListsColumns c refs := by
  obtain ⟨fields, hfields, _⟩ := Except.bind_eq_ok.1 hstored
  obtain ⟨components, hcomponents, _⟩ := Model.fields_eq_ok_iff.1 hfields
  obtain ⟨hascending, hsound⟩ := storedColumns_of_fields hfields hstored
  have hnames : refs.map ColumnRef.column = stored.map Prod.fst := by
    have hsame := List.forall₂_map_left_iff.2 (List.forall₂_map_right_iff.2
      (hrefs.flip.imp fun r entry h => h.2))
    exact List.forall₂_eq_eq_eq ▸ hsame
  refine ⟨hnames ▸ hascending, ⟨components, hcomponents, fun column => ?_⟩, fun r hr => ?_⟩
  · rw [storedIn_iff hcomponents hfields, hnames]
    constructor
    · intro hcolumn
      obtain ⟨entry, hentry, rfl⟩ := List.mem_map.1 hcolumn
      obtain ⟨f, hf, hstoredIn, _⟩ := hsound entry hentry
      exact ⟨f, hf, hstoredIn⟩
    · rintro ⟨f, hf, hcolumn⟩
      obtain ⟨field, hentry⟩ := exists_storedColumn hfields hf hcolumn hstored
      exact List.mem_map.2 ⟨_, hentry, rfl⟩
  · obtain ⟨entry, hentry, htable, hname⟩ := hrefs.exists_of_mem_right hr
    obtain ⟨f, hf, hcolumn, hfield⟩ := hsound entry hentry
    exact ⟨fields, f, hfields, hf, hname ▸ hcolumn, hfield ▸ htable⟩

/-- An item is output in a derived table as it is listed. -/
lemma listsItem_of_itemColumns {item : SelectItem} {outputs : List Output}
    (h : s.itemColumns .derived item = .ok outputs) : s.ListsItem item outputs := by
  obtain ⟨node, a⟩ := item
  cases node with
  | expr e =>
    obtain ⟨t, ht, h⟩ := Except.bind_eq_ok.1 h
    cases h
    exact .expr ht
  | object c =>
    obtain ⟨base, hbase, h⟩ := Except.bind_eq_ok.1 h
    obtain ⟨stored, refs, hstored, hrefs, rfl, hplain⟩ := exists_refs_of_allColumns h
    refine .object hbase (listsColumns_of_storedColumns hstored hrefs) ?_
    refine Except.bind_eq_ok.2 ⟨_, Except.bind_eq_ok.2 ⟨base, hbase, hplain⟩, ?_⟩
    rw [List.map_cons, List.map_map]
    rfl

end

section

variable {s : Scope} {q : Query}

lemma text_ofAlias_madeAlias (n : Nat) (column : String) :
    (Label.ofAlias (madeAlias n) column).text = madeAlias n ++ column := by
  simp [Label.text, Label.ofAlias, Query.lowerCase_madeAlias]

/-- If a query makes up its aliases, that of a class is made up. -/
lemma Scope.exists_madeAlias (hq : q.AliasesMade) (hs : s.aliases = q.aliases) {n : NodeId}
    {base : String} (h : s.aliasOf n = .ok base) :
    ∃ i, base = madeAlias i ∧ q.alias? n = some (madeAlias i) := by
  have hlookup := aliasOf_eq_ok_iff.1 h
  rw [hs] at hlookup
  obtain ⟨i, rfl⟩ := hq.of_lookup hlookup
  exact ⟨i, rfl, hlookup⟩

/-- What is output for an item has names that start with the alias of the item. -/
lemma Scope.ListsItem.exists_name (hq : q.AliasesMade) (hs : s.aliases = q.aliases)
    {item : SelectItem} (hitem : item ∈ q.select) {outputs : List Output}
    (h : s.ListsItem item outputs) :
    ∃ n, q.itemAlias? item = some (madeAlias n) ∧
      ∀ o ∈ outputs, ∃ rest, o.name = some (madeAlias n ++ rest) := by
  cases h with
  | @expr e a t _ =>
    obtain ⟨n, rfl⟩ := hq.selected _ hitem
    refine ⟨n, rfl, List.forall_mem_singleton.2 ⟨"", ?_⟩⟩
    rw [String.append_empty]
    rfl
  | @object c a base refs hbase hlists hgroup =>
    obtain ⟨n, rfl, halias⟩ := Scope.exists_madeAlias hq hs hbase
    refine ⟨n, halias, List.forall_mem_cons.2 ⟨⟨"", ?_⟩, List.forall_mem_map.2 fun r _ => ?_⟩⟩
    · exact congrArg some (text_ofAlias_madeAlias n "")
    · exact ⟨r.column, congrArg some (text_ofAlias_madeAlias n r.column)⟩

/-- The output columns of an item have different names if no attribute has the empty name. -/
lemma Scope.ListsItem.nodup_names (hq : q.AliasesMade) (hs : s.aliases = q.aliases)
    {item : SelectItem} {outputs : List Output} (h : s.ListsItem item outputs)
    (hnames : ∀ c, item.node = .object c → ∀ components, s.model.components c.type = .ok components →
      ∀ k ∈ components, ∀ type, .attribute "" type ∉ k.allFields) :
    (outputs.map Output.name).Nodup := by
  cases h with
  | expr => exact List.nodup_singleton _
  | @object c a base refs hbase hlists hgroup =>
    obtain ⟨n, rfl, _⟩ := Scope.exists_madeAlias hq hs hbase
    obtain ⟨components, hcomponents, hstored⟩ := hlists.mem_iff
    -- the objects stand under the alias alone, which no column does
    have hempty : "" ∉ refs.map ColumnRef.column := by
      rw [hstored]
      exact not_storedIn_empty (hnames c rfl components hcomponents)
    have hcolumns : ("" :: refs.map ColumnRef.column).Nodup :=
      List.nodup_cons.2 ⟨hempty, hlists.ascending.nodup⟩
    have hinj : Function.Injective fun column => some (madeAlias n ++ column) :=
      fun column column' h => (madeAlias_append_inj (Option.some.inj h)).2
    have hmap : (("" :: refs.map ColumnRef.column).map fun column =>
        some (madeAlias n ++ column)).Nodup :=
      hcolumns.map hinj
    simpa [Output.name, text_ofAlias_madeAlias, Function.comp_def] using hmap

end

/-- A derived table lists the selected items one after another: an expression under its alias, and a
class as its objects and its columns, which are those that the class is grouped by. If the query
makes up its aliases and selects no class twice, and if no attribute has the empty name, all columns
are named and no two names are the same. -/
theorem compile_derivedColumns {m : Model} {p : Platform} {seek : Option Seek} {q : Query}
    (hq : q.Generated) (honce : (q.selectedClasses.map ClassNode.id).Nodup)
    (hnames : ∀ c ∈ q.selectedClasses, ∀ components, m.components c.type = .ok components →
      ∀ k ∈ components, ∀ type, .attribute "" type ∉ k.allFields)
    {st : Statement} (h : (compile m p .derived seek q).outcome = .ok st) :
    ∃ entered, (enter (.ofQuery m p q) q.sources).outcome = .ok entered ∧
      let s := (Scope.ofQuery m p q).enteredWith entered
      (∃ parts, List.Forall₂ s.ListsItem q.select parts ∧ st.columns = parts.flatten) ∧
      (∃ groups, List.Forall₂ (fun n terms => s.groupTerms n = .ok terms) q.groupBy groups ∧
        st.groupBy = groups.flatten) ∧
      (∀ o ∈ st.columns, o.name.isSome) ∧
      (st.columns.map Output.name).Nodup := by
  obtain ⟨entered, conditions, links, _, hentered, _, _, hst⟩ := compile_eq_ok_iff.1 h
  obtain ⟨order, columns, groupBy, horder, hcolumns, hgroupBy, rfl⟩ := assemble_eq_ok_iff.1 hst
  obtain rfl := Except.ok.inj horder
  obtain ⟨parts, hparts, hcolumns⟩ := Except.bind_eq_ok.1 hcolumns
  cases hcolumns
  obtain ⟨groups, hgroups, hgroupBy⟩ := Except.bind_eq_ok.1 hgroupBy
  cases hgroupBy
  have hlisted := (Except.mapM_eq_ok_iff.1 hparts).imp fun item outputs => listsItem_of_itemColumns
  have hcolumns : parts.flatten ++ Ordering.none.columns = parts.flatten := List.append_nil _
  refine ⟨entered, hentered, ⟨parts, hlisted, hcolumns⟩,
    ⟨groups, Except.mapM_eq_ok_iff.1 hgroups, rfl⟩, ?_⟩
  rw [hcolumns]
  have hmade := hq.aliasesMade
  constructor
  · intro o ho
    obtain ⟨outputs, houtputs, ho⟩ := List.mem_flatten.1 ho
    obtain ⟨item, hitem, hlists⟩ := hlisted.exists_of_mem_right houtputs
    obtain ⟨n, _, hname⟩ := hlists.exists_name hmade rfl hitem
    obtain ⟨rest, hrest⟩ := hname o ho
    rw [hrest]
    rfl
  · refine List.nodup_map_flatten_of_forall₂ hlisted (fun item hitem outputs hlists => ?_) ?_
    · refine hlists.nodup_names hmade rfl fun c hc => hnames c ?_
      exact List.mem_filterMap.2 ⟨item, hitem, by rw [hc]; rfl⟩
    · refine (Query.pairwise_itemAlias hq honce).imp_of_mem fun {i j} hi hj hapart => ?_
      intro outputs outputs' hlists hlists' o ho o' ho' hsame
      obtain ⟨n, halias, hstart⟩ := hlists.exists_name hmade rfl hi
      obtain ⟨n', halias', hstart'⟩ := hlists'.exists_name hmade rfl hj
      obtain ⟨rest, hrest⟩ := hstart o ho
      obtain ⟨rest', hrest'⟩ := hstart' o' ho'
      -- the names start with the aliases of both items, so these are the same
      rw [hrest, hrest'] at hsame
      obtain ⟨rfl, _⟩ := madeAlias_append_inj (Option.some.inj hsame)
      exact hapart _ halias halias'

end Sql

namespace Sample

/-- Bookings and stays of guests, and vouchers that have a guest by name. -/
def hotelDecls : List ClassDecl :=
  [⟨"Booking", [], [.attribute "guestId" .integer, .attribute "order" .string]⟩,
    ⟨"Guest", [], [.collection "stays" "Stay" (some "guest") none]⟩,
    ⟨"Stay", [], [.reference "guest" "Guest" (some "stays")]⟩,
    ⟨"Voucher", [], [.attribute "guest" .string]⟩]

lemma isSome_build_hotel : (Model.build ⟨0⟩ "hotel" hotelDecls).toOption.isSome := by
  decide +kernel

/-- The model of the hotel. -/
def hotel : Model :=
  (Model.build ⟨0⟩ "hotel" hotelDecls).toOption.get isSome_build_hotel

lemma accepted_hotel : hotel.Accepted :=
  Model.accepted_get isSome_build_hotel

/-- No attribute of the hotel has the empty name. -/
lemma named_hotel {t : ClassType} {components : List PersistentClass}
    (h : hotel.components t = .ok components) :
    ∀ k ∈ components, ∀ type, .attribute "" type ∉ k.allFields := by
  have hall : ∀ k ∈ hotel.classes.values, ∀ f ∈ k.allFields, f.name ≠ "" := by decide +kernel
  intro k hk type hmem
  obtain ⟨name, hclass⟩ := Model.exists_class_of_mem_components h hk
  exact hall k (List.mem_map_of_mem (SortedMap.get?_eq_some_iff.1 hclass)) _ hmem rfl

/-- Stays that are bookings. -/
def bookedStay : ClassNode :=
  ⟨⟨1⟩, ⟨["Booking", "Stay"], List.pairwise_pair.2 (by decide), List.cons_ne_nil _ _⟩⟩

/-- The booked stays with what was ordered. -/
def orders : Query :=
  [.addSource (.object bookedStay), .addSelect (.object bookedStay),
    .addSelect (.expr (.column ⟨bookedStay.id, false, "order", none, .string⟩)),
    .addGroupBy (.object bookedStay)].foldl Edit.apply (.empty ⟨2⟩)

/-- Stays that are vouchers. -/
def freeStay : ClassNode :=
  ⟨⟨1⟩, ⟨["Stay", "Voucher"], List.pairwise_pair.2 (by decide), List.cons_ne_nil _ _⟩⟩

/-- The stays that are vouchers. -/
def freeStays : Query :=
  [.addSource (.object freeStay), .addSelect (.object freeStay)].foldl Edit.apply (.empty ⟨2⟩)

end Sample

/-- The guest of a stay and that of a booking share a column, and the orders are listed among the
columns of the class and by themselves. -/
theorem compile_derivedColumns_orders :
    Sample.orders.Generated ∧ (Sample.orders.selectedClasses.map ClassNode.id).Nodup ∧
    (∀ c ∈ Sample.orders.selectedClasses, ∀ components,
      Sample.hotel.components c.type = .ok components →
      ∀ k ∈ components, ∀ type, .attribute "" type ∉ k.allFields) ∧
    ∃ st, (Sql.compile Sample.hotel .postgreSQL .derived none Sample.orders).outcome = .ok st ∧
      st.columns.map Sql.Output.text = ["a1_.OBJECT AS a1_", "a1_.guestId AS a1_guestId",
        "a1_.id AS a1_id", "a1_.intermine_order AS a1_intermine_order",
        "a1_.intermine_order AS a2_"] ∧
      (st.columns.map Sql.Output.name).Nodup := by
  have hgenerated : Sample.orders.Generated := Query.Generated.edits (.empty _) (by decide)
  have honce : (Sample.orders.selectedClasses.map ClassNode.id).Nodup := by decide
  have hnames : ∀ c ∈ Sample.orders.selectedClasses, ∀ components,
      Sample.hotel.components c.type = .ok components →
      ∀ k ∈ components, ∀ type, .attribute "" type ∉ k.allFields :=
    fun c _ components => Sample.named_hotel
  have hcompiled : (Sql.compile Sample.hotel .postgreSQL .derived none
      Sample.orders).outcome.toOption.map (·.columns.map Sql.Output.text) =
      some ["a1_.OBJECT AS a1_", "a1_.guestId AS a1_guestId", "a1_.id AS a1_id",
        "a1_.intermine_order AS a1_intermine_order", "a1_.intermine_order AS a2_"] := by
    decide +kernel
  obtain ⟨st, hst, htexts⟩ := Except.exists_of_toOption hcompiled
  obtain ⟨_, _, _, _, _, hnodup⟩ := Sql.compile_derivedColumns hgenerated honce hnames hst
  exact ⟨hgenerated, honce, hnames, st, hst, htexts, hnodup⟩

/-- The guest that a voucher has by name is not listed, as the stays come first and have a field of
that name. -/
theorem derived_column_missing :
    Sample.hotel.Accepted ∧ Sample.freeStays.Generated ∧
    (Sample.freeStays.selectedClasses.map ClassNode.id).Nodup ∧
    (∀ c ∈ Sample.freeStays.selectedClasses, ∀ components,
      Sample.hotel.components c.type = .ok components →
      ∀ k ∈ components, ∀ type, .attribute "" type ∉ k.allFields) ∧
    (∃ components, Sample.hotel.components Sample.freeStay.type = .ok components ∧
      ∃ voucher ∈ components, ∃ f ∈ voucher.allFields, f.column? = some "guest") ∧
    ∃ st, (Sql.compile Sample.hotel .postgreSQL .derived none Sample.freeStays).outcome = .ok st ∧
      st.columns.map Sql.Output.text =
        ["a1_.OBJECT AS a1_", "a1_.guestId AS a1_guestId", "a1_.id AS a1_id"] := by
  have hvoucher : (Sample.hotel.components Sample.freeStay.type).toOption.map (fun components =>
      decide (∃ voucher ∈ components, ∃ f ∈ voucher.allFields, f.column? = some "guest")) =
      some true := by
    decide +kernel
  have hcompiled : (Sql.compile Sample.hotel .postgreSQL .derived none
      Sample.freeStays).outcome.toOption.map (·.columns.map Sql.Output.text) =
      some ["a1_.OBJECT AS a1_", "a1_.guestId AS a1_guestId", "a1_.id AS a1_id"] := by
    decide +kernel
  obtain ⟨components, hcomponents, hfield⟩ := Except.exists_of_toOption hvoucher
  obtain ⟨st, hst, htexts⟩ := Except.exists_of_toOption hcompiled
  exact ⟨Sample.accepted_hotel, Query.Generated.edits (.empty _) (by decide), by decide,
    fun c _ components => Sample.named_hotel,
    ⟨components, hcomponents, of_decide_eq_true hfield⟩, st, hst, htexts⟩

end ObjectQuery
