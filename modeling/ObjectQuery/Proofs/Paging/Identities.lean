import Mathlib
import ObjectQuery.Proofs.Paging.Session
import ObjectQuery.Proofs.Sql.Scoping
import ObjectQuery.Proofs.Sql.TwoRuns

/-!
# Identities in statements

No statement shows the identity of anything. A query whose identities are replaced, without one
taking the place of another, has the same statements, and fails for the same reason, in which only
identities differ (`masked`). The same holds for a copy of a query, and for all pages of a query
that is built and paged by the same actions at a later time, when sources and queries get other
identities (`identities_masked`).
-/

namespace ObjectQuery

open Except (Agree)

/-- The misuse with the identities in it blotted out. -/
def Misuse.masked : Misuse → Misuse
  | .noAlias _ _ => .noAlias ⟨0⟩ ⟨0⟩
  | .notASource _ _ => .notASource ⟨0⟩ ⟨0⟩
  | m => m

/-- The failure with the identities in it blotted out. -/
def Failure.masked : Failure → Failure
  | .misuse m => .misuse m.masked
  | e => e

/-- The failures are the same up to identities. -/
def Failure.SameMasked (e e' : Failure) : Prop :=
  e'.masked = e.masked

def Action.rename (f : NodeId → NodeId) : Action → Action
  | .edit e => .edit (e.rename f)
  | .page g start limit => .page g start limit
  | .register g start value => .register g start value

namespace Query

lemma copy_edit (e : Edit) (q : Query) (id : NodeId) :
    (e.apply q).copy id = e.apply (q.copy id) := by
  cases e with
  | addSelect n =>
    cases n with
    | object c =>
      have halias : (q.copy id).alias? c.id = q.alias? c.id := rfl
      simp only [Edit.apply, addSelect, halias]
      cases q.alias? c.id <;> rfl
    | expr e => rfl
  | addSelectAs n aliasName => cases n <;> rfl
  | _ => rfl

lemma sortKey_rename (f : NodeId → NodeId) (n : Node) :
    sortKey (n.rename f) = (sortKey n).rename f := by
  cases n <;> rfl

/-- The key of a renamed query is the renamed key, whatever identity the query has itself. -/
lemma seekKey?_rename (f : NodeId → NodeId) (q : Query) (id : NodeId) :
    ((q.rename f).copy id).seekKey? = q.seekKey?.map (Expr.rename f) := by
  have hvalue : ((fun n : Node => !n.isValue) ∘ Node.rename f) = fun n => !n.isValue :=
    funext fun n => congrArg (!·) (n.isValue_rename f)
  have hkey : (sortKey ∘ Node.rename f) = (Expr.rename f ∘ sortKey) := funext (sortKey_rename f)
  rw [rename_eq]
  show ((Sql.Ordering.nodes (q.orderBy.map (Node.rename f))
    (q.select.map (SelectItem.rename f))).find? fun n => !n.isValue).map sortKey = _
  rw [Sql.Ordering.nodes_rename, List.find?_map, seekKey?, Option.map_map, Option.map_map, hvalue,
    hkey]

end Query

section

variable {f : NodeId → NodeId} (hf : Function.Injective f)

include hf

/-- Blotting out identities leaves nothing that tells a renamed failure from the one it was. -/
lemma renaming_masked : Sql.Renaming f Failure.SameMasked where
  injective := hf
  refl _ := rfl
  stands _ _ := ⟨rfl, rfl⟩

/-- The renamed query has the same statement or fails for the same reason, whatever identity it has
itself. -/
lemma agree_masked (m : Model) (p : Platform) (shape : Shape) (seek : Option Sql.Seek) (q : Query)
    (id : NodeId) : Agree Failure.SameMasked Eq (Sql.compile m p shape seek q).outcome
      (Sql.compile m p shape (seek.map (Sql.Seek.rename f)) ((q.rename f).copy id)).outcome :=
  Sql.agree_compile (renaming_masked hf) (fun _ => ⟨rfl, rfl⟩) (fun _ _ => .refl p _ _)
    fun _ _ => .refl p _ _

end

namespace OffsetCache

variable {α : Type} {E : Failure → Failure → Prop} {x y : Traced α}

/-- Pages do not depend on how a statement is come by. -/
lemma agree_serve (c : OffsetCache α) (key : CacheKey) (start : Nat) (limit : Option Nat)
    (h : Agree E Eq x.outcome y.outcome) :
    (c.serve key start limit y).1 = (c.serve key start limit x).1 ∧
    Agree E Eq (c.serve key start limit x).2.outcome (c.serve key start limit y).2.outcome := by
  obtain ⟨events, x⟩ := x
  obtain ⟨events', y⟩ := y
  unfold serve
  obtain ⟨u, _⟩ := c.underKey key
  cases hfloor : u.entries.floor? start with
  | some e =>
    simp only [hfloor, true_and]
    exact .ok rfl
  | none =>
    simp only [hfloor]
    cases h with
    | ok hab => exact ⟨congrArg (u.keep 0) hab.symm, .ok (congrArg (Page.mk · limit start) hab)⟩
    | error he => exact ⟨rfl, .error he⟩

lemma agree_register (c : OffsetCache α) (key : CacheKey) (start tolerance : Nat)
    (text : α → String) (h : Agree E Eq x.outcome y.outcome) :
    (c.register key start tolerance text y).1 = (c.register key start tolerance text x).1 := by
  obtain ⟨events, x⟩ := x
  obtain ⟨events', y⟩ := y
  unfold register
  obtain ⟨u, _⟩ := c.underKey key
  split
  · rfl
  · dsimp only
    split
    · rfl
    · cases h with
      | ok hab => exact congrArg (u.keep start) hab.symm
      | error he => rfl

end OffsetCache

/-- The one query is the other renamed, under any identity, and both have the same statements. -/
inductive PagedQuery.Twin (f : NodeId → NodeId) : PagedQuery → PagedQuery → Prop where
  | intro (query : Query) (id : NodeId) {cache cache' : OffsetCache Sql.Statement} :
    cache' = cache →
    Twin f ⟨query, cache⟩ ⟨(query.rename f).copy id, cache'⟩

namespace PagedQuery.Twin

variable {f : NodeId → NodeId} {q q' : PagedQuery}

section

variable (hf : Function.Injective f)

include hf

/-- Twins have the same pages, and serving one leaves them twins. -/
lemma page (h : Twin f q q') (g : Generator) (start : Nat) (limit : Option Nat) :
    Twin f (g.page q start limit).1 (g.page q' start limit).1 ∧
    Agree Failure.SameMasked Eq (g.page q start limit).2.outcome
      (g.page q' start limit).2.outcome := by
  obtain ⟨query, id, hcache⟩ := h
  subst hcache
  obtain ⟨hcache, hpage⟩ := OffsetCache.agree_serve _ g.key start limit
    (agree_masked hf g.model g.platform .whole none query id)
  exact ⟨.intro query id hcache, hpage⟩

lemma register (h : Twin f q q') (g : Generator) (start : Nat) (value : Value) :
    Twin f (g.register q start value).1 (g.register q' start value).1 := by
  obtain @⟨query, id, _, cache, hcache⟩ := h
  subst hcache
  have hkey := query.seekKey?_rename f id
  cases hseek : query.seekKey? with
  | none =>
    rw [hseek] at hkey
    simp only [Generator.register, hkey, hseek, Option.map_none]
    exact .intro query id rfl
  | some key =>
    rw [hseek] at hkey
    -- both register the start behind the same key, up to its identities
    have hcache := OffsetCache.agree_register cache g.key start g.tolerance Sql.Statement.text
      (agree_masked hf g.model g.platform .whole (some ⟨key, value⟩) query id)
    simp only [Generator.register, hkey, hseek, Option.map_some]
    exact .intro query id hcache

/-- An action on a query and the renamed action on its twin leave twins. -/
lemma action (h : Twin f q q') (a : Action) : Twin f (a.run q) ((a.rename f).run q') := by
  cases a with
  | edit e =>
    obtain ⟨query, id, _⟩ := h
    have hedit : (e.rename f).apply ((query.rename f).copy id) =
        ((e.apply query).rename f).copy id := by
      rw [← Query.copy_edit, query.rename_edit hf]
    show PagedQuery.Twin f (.ofQuery _) (.ofQuery ((e.rename f).apply ((query.rename f).copy id)))
    rw [hedit]
    exact .intro _ id rfl
  | page g start limit => exact (h.page hf g start limit).1
  | register g start value => exact h.register hf g start value

lemma session (h : Twin f q q') (actions : Session) :
    Twin f (Session.run q actions) (Session.run q' (actions.map (Action.rename f))) := by
  induction actions generalizing q q' with
  | nil => exact h
  | cons a actions ih => exact ih (h.action hf a)

end

end PagedQuery.Twin

/-- If no two identities are replaced by one, a query with its identities replaced throughout has
the same statement, or fails for the same reason up to identities, in any shape and from any start.
So does a copy of a query. And a query that the same actions build and page once more, with other
identities, has the same pages. -/
theorem identities_masked {f : NodeId → NodeId} (hf : Function.Injective f) :
    (∀ m p shape seek q,
      (Sql.compile m p shape (seek.map (Sql.Seek.rename f)) (q.rename f)).outcome.mapError
          Failure.masked =
        (Sql.compile m p shape seek q).outcome.mapError Failure.masked) ∧
    (∀ m p shape seek q id,
      (Sql.compile m p shape seek (q.copy id)).outcome.mapError Failure.masked =
        (Sql.compile m p shape seek q).outcome.mapError Failure.masked) ∧
    ∀ (id id' : NodeId) (actions : Session) (g : Generator) start limit,
      (g.page (Session.run (.ofQuery (.empty id')) (actions.map (Action.rename f))) start
          limit).2.outcome.mapError Failure.masked =
        (g.page (Session.run (.ofQuery (.empty id)) actions) start limit).2.outcome.mapError
          Failure.masked := by
  refine ⟨fun m p shape seek q => ?_, fun m p shape seek q id => ?_,
    fun id id' actions g start limit => ?_⟩
  · have h := agree_masked hf m p shape seek q (f q.id)
    rw [q.copy_rename] at h
    exact h.mapError_eq
  · -- a copy is the query renamed by the identity, under an identity of its own
    have h := agree_masked Function.injective_id m p shape seek q id
    rw [q.rename_id, Option.map_congr fun start _ => start.rename_id, Option.map_id'] at h
    exact h.mapError_eq
  · have hempty : PagedQuery.Twin f (.ofQuery (.empty id)) (.ofQuery (.empty id')) :=
      .intro (.empty id) id' rfl
    exact ((hempty.session hf actions).page hf g start limit).2.mapError_eq

namespace Sample

/-- The identity in place of one if a hundred sources and queries were made before. -/
def later (n : NodeId) : NodeId :=
  ⟨n.index + 100⟩

lemma injective_later : Function.Injective later := by
  rintro ⟨i⟩ ⟨j⟩ h
  cases Nat.add_right_cancel (NodeId.mk.inj h)
  rfl

end Sample

/-- The workers have the same statement if their query is made later. -/
theorem identities_masked_layered :
    Function.Injective Sample.later ∧ (Sample.layered.rename Sample.later).id = ⟨106⟩ ∧
    ∃ st, (Sql.compile Sample.company .postgreSQL .whole none Sample.layered).outcome = .ok st ∧
      (Sql.compile Sample.company .postgreSQL .whole none
        (Sample.layered.rename Sample.later)).outcome = .ok st := by
  obtain ⟨st, hst, _⟩ := Sample.exists_layered
  have hmasked := (identities_masked Sample.injective_later).1 Sample.company .postgreSQL .whole
    none Sample.layered
  rw [hst] at hmasked
  exact ⟨Sample.injective_later, rfl, st, hst, Except.eq_ok_of_mapError hmasked⟩

end ObjectQuery
