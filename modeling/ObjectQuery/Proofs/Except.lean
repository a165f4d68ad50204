import Mathlib

/-!
# Computations that can fail

Reading the success of a computation back into the success of its steps: of a sequence, of a map
over a list and of a fold over a list. A computation fails only for reasons of a kind if its steps
do (`Except.FailsOnly`), and two computations agree if their steps do (`Except.Agree`).
-/

namespace List.Forall₂

variable {α β : Type} {R : α → β → Prop} {as : List α} {bs : List β}

/-- In lists that are related element by element, every element has a partner. -/
lemma exists_of_mem_right (h : Forall₂ R as bs) {b : β} (hb : b ∈ bs) : ∃ a ∈ as, R a b := by
  induction h with
  | nil => cases hb
  | @cons a b' as bs hab _ ih =>
    rcases mem_cons.1 hb with rfl | hb
    · exact ⟨a, mem_cons_self, hab⟩
    · obtain ⟨a', ha', hb⟩ := ih hb
      exact ⟨a', mem_cons_of_mem a ha', hb⟩

lemma exists_of_mem_left (h : Forall₂ R as bs) {a : α} (ha : a ∈ as) : ∃ b ∈ bs, R a b :=
  h.flip.exists_of_mem_right ha

end List.Forall₂

/-- A look-up that succeeds finds an entry. -/
lemma List.mem_of_lookup_eq_some {α β : Type} [BEq α] [LawfulBEq α] {entries : List (α × β)}
    {a : α} {b : β} (h : entries.lookup a = some b) : (a, b) ∈ entries := by
  obtain ⟨before, after, hsplit, _⟩ := List.lookup_eq_some_iff.1 h
  rw [hsplit]
  exact List.mem_append_right before List.mem_cons_self

/-- A look-up among pairs whose second parts are mapped. -/
lemma List.lookup_map_snd {α β γ : Type} [BEq α] (f : β → γ) (entries : List (α × β)) (a : α) :
    (entries.map fun e => (e.1, f e.2)).lookup a = (entries.lookup a).map f := by
  induction entries with
  | nil => rfl
  | cons e entries ih =>
    rw [List.map_cons, List.lookup_cons, List.lookup_cons, ih]
    split <;> rfl

namespace Except

variable {ε α β γ : Type}

/-- A sequence succeeds if both of its parts do. -/
lemma bind_eq_ok {x : Except ε α} {f : α → Except ε β} {b : β} :
    x >>= f = .ok b ↔ ∃ a, x = .ok a ∧ f a = .ok b := by
  cases x with
  | ok a => exact ⟨fun h => ⟨a, rfl, h⟩, fun ⟨a', h, hf⟩ => by cases h; exact hf⟩
  | error e => exact ⟨nofun, fun ⟨_, h, _⟩ => by cases h⟩

/-- A view of the result shows that there is one. -/
lemma exists_of_toOption {x : Except ε α} {f : α → β} {b : β} (h : x.toOption.map f = some b) :
    ∃ a, x = .ok a ∧ f a = b := by
  cases x with
  | ok a => exact ⟨a, rfl, Option.some.inj h⟩
  | error e => cases h

lemma exists_of_toOption_bind {x : Except ε α} {f : α → Option β} {b : β}
    (h : x.toOption.bind f = some b) : ∃ a, x = .ok a ∧ f a = some b := by
  cases x with
  | ok a => exact ⟨a, rfl, h⟩
  | error e => cases h

lemma exists_of_isSome_toOption {x : Except ε α} (h : x.toOption.isSome) : ∃ a, x = .ok a := by
  cases x with
  | ok a => exact ⟨a, rfl⟩
  | error e => cases h

/-- What is done to the failures alone leaves the results. -/
lemma eq_ok_of_mapError {x : Except ε α} {f : ε → γ} {a : α} (h : x.mapError f = .ok a) :
    x = .ok a := by
  cases x with
  | ok b => exact congrArg Except.ok (Except.ok.inj h)
  | error e => cases h

/-- A map over a list succeeds if it does on every element. -/
lemma mapM_eq_ok_iff {f : α → Except ε β} {as : List α} {bs : List β} :
    as.mapM f = .ok bs ↔ List.Forall₂ (fun a b => f a = .ok b) as bs := by
  induction as generalizing bs with
  | nil =>
    rw [List.mapM_nil, List.forall₂_nil_left_iff]
    exact ⟨fun h => by cases h; rfl, fun h => by rw [h]; rfl⟩
  | cons a as ih =>
    rw [List.mapM_cons, bind_eq_ok, List.forall₂_cons_left_iff]
    constructor
    · rintro ⟨b, hb, h⟩
      obtain ⟨bs', hbs, h⟩ := bind_eq_ok.1 h
      cases h
      exact ⟨b, bs', hb, ih.1 hbs, rfl⟩
    · rintro ⟨b, bs', hb, hbs, rfl⟩
      exact ⟨b, hb, bind_eq_ok.2 ⟨bs', ih.2 hbs, rfl⟩⟩

/-- A check of a list succeeds if it does for every element. -/
lemma forM_eq_ok_iff {f : α → Except ε Unit} {as : List α} :
    as.forM f = .ok () ↔ ∀ a ∈ as, f a = .ok () := by
  induction as with
  | nil => exact ⟨fun _ => List.forall_mem_nil _, fun _ => rfl⟩
  | cons a as ih =>
    rw [List.forall_mem_cons, ← ih]
    show (f a >>= fun _ => as.forM f) = _ ↔ _
    rw [bind_eq_ok]
    exact ⟨fun ⟨_, ha, has⟩ => ⟨ha, has⟩, fun ⟨ha, has⟩ => ⟨(), ha, has⟩⟩

/-- A fold over a list keeps what each of its steps keeps. -/
lemma foldlM_invariant {f : β → α → Except ε β} {as : List α} (P : β → Prop)
    (step : ∀ a ∈ as, ∀ b c, P b → f b a = .ok c → P c) {b c : β} (hb : P b)
    (h : as.foldlM f b = .ok c) : P c := by
  induction as generalizing b with
  | nil =>
    cases h
    exact hb
  | cons a as ih =>
    rw [List.foldlM_cons] at h
    obtain ⟨b', hb', h⟩ := bind_eq_ok.1 h
    have hPb' := step a List.mem_cons_self b b' hb hb'
    exact ih (fun a' ha' => step a' (List.mem_cons_of_mem _ ha')) hPb' h

/-- A fold over a list brings about for each element what the step at the element brings about and
the other steps keep. -/
lemma foldlM_forall {f : β → α → Except ε β} {as : List α} (Q : α → β → Prop)
    (make : ∀ a ∈ as, ∀ b c, f b a = .ok c → Q a c)
    (keep : ∀ a a' b c, Q a b → f b a' = .ok c → Q a c) {b c : β}
    (h : as.foldlM f b = .ok c) : ∀ a ∈ as, Q a c := by
  induction as generalizing b with
  | nil => exact List.forall_mem_nil _
  | cons a as ih =>
    rw [List.foldlM_cons] at h
    obtain ⟨b', hb', h⟩ := bind_eq_ok.1 h
    refine List.forall_mem_cons.2 ⟨?_, ?_⟩
    · have hmade := make a List.mem_cons_self b b' hb'
      exact foldlM_invariant (Q a) (fun a' _ b c => keep a a' b c) hmade h
    · exact ih (fun a' ha' => make a' (List.mem_cons_of_mem a ha')) h

lemma foldlM_congr {f g : β → α → Except ε β} {as : List α} (h : ∀ a ∈ as, ∀ b, f b a = g b a)
    (b : β) : as.foldlM f b = as.foldlM g b := by
  induction as generalizing b with
  | nil => rfl
  | cons a as ih =>
    rw [List.foldlM_cons, List.foldlM_cons, h a List.mem_cons_self]
    congr 1
    funext b'
    exact ih (fun a' ha' => h a' (List.mem_cons_of_mem a ha')) b'

/-- The computation succeeds or fails for a reason of a kind. -/
def FailsOnly (P : ε → Prop) (x : Except ε α) : Prop :=
  ∀ e, x = .error e → P e

namespace FailsOnly

variable {P : ε → Prop} {x : Except ε α} {a : α}

lemma of_ok (h : x = .ok a) : FailsOnly P x :=
  fun e he => by cases h.symm.trans he

lemma ok_or_error (h : FailsOnly P x) : (∃ a, x = .ok a) ∨ ∃ e, x = .error e ∧ P e := by
  cases x with
  | ok a => exact .inl ⟨a, rfl⟩
  | error e => exact .inr ⟨e, rfl, h e rfl⟩

lemma ok : FailsOnly P (.ok a : Except ε α) :=
  of_ok rfl

lemma error {e : ε} (h : P e) : FailsOnly P (.error e : Except ε α) :=
  fun e' he => by cases he; exact h

/-- A sequence fails for reasons of a kind if both of its parts do. -/
lemma bind {f : α → Except ε β} (hx : FailsOnly P x) (hf : ∀ a, x = .ok a → FailsOnly P (f a)) :
    FailsOnly P (x >>= f) := by
  cases x with
  | ok a => exact hf a rfl
  | error e => exact .error (hx e rfl)

lemma bind_of_ok {f : α → Except ε β} (hx : x = .ok a) (hf : FailsOnly P (f a)) :
    FailsOnly P (x >>= f) :=
  bind (.of_ok hx) fun b hb => by
    obtain rfl := Except.ok.inj (hx.symm.trans hb)
    exact hf

lemma mapM {f : α → Except ε β} {as : List α} (h : ∀ a ∈ as, FailsOnly P (f a)) :
    FailsOnly P (as.mapM f) := by
  induction as with
  | nil => exact ok
  | cons a as ih =>
    rw [List.mapM_cons]
    refine (h a List.mem_cons_self).bind fun b _ => ?_
    exact (ih fun a' ha' => h a' (List.mem_cons_of_mem a ha')).bind fun bs _ => ok

lemma forM {f : α → Except ε Unit} {as : List α} (h : ∀ a ∈ as, FailsOnly P (f a)) :
    FailsOnly P (as.forM f) := by
  induction as with
  | nil => exact ok
  | cons a as ih =>
    show FailsOnly P (f a >>= fun _ => as.forM f)
    refine (h a List.mem_cons_self).bind fun _ _ => ?_
    exact ih fun a' ha' => h a' (List.mem_cons_of_mem a ha')

lemma foldlM {f : β → α → Except ε β} {as : List α} {b : β}
    (h : ∀ a ∈ as, ∀ b, FailsOnly P (f b a)) : FailsOnly P (as.foldlM f b) := by
  induction as generalizing b with
  | nil => exact ok
  | cons a as ih =>
    rw [List.foldlM_cons]
    refine (h a List.mem_cons_self b).bind fun b' _ => ?_
    exact ih fun a' ha' => h a' (List.mem_cons_of_mem a ha')

end FailsOnly

/-- Two computations have related results or fail for related reasons. -/
inductive Agree (E : ε → ε → Prop) (R : α → β → Prop) : Except ε α → Except ε β → Prop where
  | ok {a : α} {b : β} :
    R a b →
    Agree E R (.ok a) (.ok b)
  | error {e e' : ε} :
    E e e' →
    Agree E R (.error e) (.error e')

namespace Agree

variable {δ : Type} {E : ε → ε → Prop} {R : α → β → Prop} {S : γ → δ → Prop}

lemma refl (hE : ∀ e, E e e) (x : Except ε α) : Agree E Eq x x := by
  cases x with
  | ok a => exact .ok rfl
  | error e => exact .error (hE e)

/-- Sequences agree if their first parts do, and the second ones after related results. -/
lemma bind {x : Except ε α} {y : Except ε β} {f : α → Except ε γ} {g : β → Except ε δ}
    (h : Agree E R x y) (hfg : ∀ a b, R a b → Agree E S (f a) (g b)) :
    Agree E S (x >>= f) (y >>= g) := by
  cases h with
  | ok hab => exact hfg _ _ hab
  | error he => exact .error he

lemma bind_eq {x y : Except ε α} {f : α → Except ε γ} {g : α → Except ε δ} (h : Agree E Eq x y)
    (hfg : ∀ a, Agree E S (f a) (g a)) : Agree E S (x >>= f) (y >>= g) :=
  h.bind fun a _ hab => hab ▸ hfg a

/-- Maps over two lists agree if they do on elements in the same place. -/
lemma mapM {f : α → Except ε γ} {g : β → Except ε γ} {as : List α} {bs : List β}
    (h : List.Forall₂ (fun a b => Agree E Eq (f a) (g b)) as bs) :
    Agree E Eq (as.mapM f) (bs.mapM g) := by
  induction h with
  | nil => exact .ok rfl
  | cons hab _ ih =>
    rw [List.mapM_cons, List.mapM_cons]
    exact hab.bind_eq fun c => ih.bind_eq fun cs => .ok rfl

/-- Folds over a list and over its image agree if their steps do at every element. -/
lemma foldlM {f : γ → α → Except ε γ} {g : δ → β → Except ε δ} {k : α → β} {as : List α}
    (h : ∀ a ∈ as, ∀ c d, S c d → Agree E S (f c a) (g d (k a))) {c : γ} {d : δ} (hcd : S c d) :
    Agree E S (as.foldlM f c) ((as.map k).foldlM g d) := by
  induction as generalizing c d with
  | nil => exact .ok hcd
  | cons a as ih =>
    obtain ⟨ha, has⟩ := List.forall_mem_cons.1 h
    rw [List.map_cons, List.foldlM_cons, List.foldlM_cons]
    exact (ha c d hcd).bind fun _ _ hcd => ih has hcd

lemma eq {x y : Except ε α} (h : Agree Eq Eq x y) : x = y := by
  cases h with
  | ok hab => rw [hab]
  | error he => rw [he]

lemma mapError_eq {x y : Except ε α} {k : ε → γ} (h : Agree (fun e e' => k e' = k e) Eq x y) :
    y.mapError k = x.mapError k := by
  cases h with
  | ok hab => rw [hab]
  | error he => exact congrArg Except.error he

end Agree

end Except
