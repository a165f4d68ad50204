import ObjectQuery.Failure
import ObjectQuery.Platform

/-!
# Traces

Compiling a query and serving its pages report what they do. A traced computation has an outcome and
the events up to it, in order, also if it fails.
-/

namespace ObjectQuery

/-- The form a query is compiled into. -/
inductive Shape where
  /-- A statement of its own: objects with their identity, all columns named, and ordered. -/
  | whole
  /-- A source of another statement: objects with all their columns, each named. -/
  | derived
  /-- The operand of a membership test: objects as their identity, nothing named. -/
  | identities
  /-- Objects with all their columns, nothing named. -/
  | columns
deriving DecidableEq

namespace Shape

/-- The name of the shape. -/
def text : Shape → String
  | .whole => "normal"
  | .derived => "subquery_from"
  | .identities => "id_only"
  | .columns => "no_aliases_all_fields"

end Shape

/-- What compiled statements depend on besides the query. -/
structure CacheKey where
  platform : Platform
  model : ModelId
deriving DecidableEq

namespace CacheKey

/-- The text of a key. -/
def text (k : CacheKey) : String :=
  "CacheKey \x7b platform: " ++ k.platform.properName ++ ", model: " ++ k.model.text ++ " \x7d"

end CacheKey

/-- How important an event is. -/
inductive Level where
  | debug
  | info
  | warn
  | error
deriving DecidableEq

namespace Level

/-- The name of the level. -/
def text : Level → String
  | .debug => "DEBUG"
  | .info => "INFO"
  | .warn => "WARN"
  | .error => "ERROR"

end Level

/-- What a computation reports. -/
inductive Event where
  /-- A query was compiled. -/
  | compiled (query : NodeId) (shape : Shape) (sql : String)
  /-- Statements compiled under another key were dropped. -/
  | discarded (count : Nat) (key : Option CacheKey)
  /-- A page was served from the statement at an offset. -/
  | served (start offset : Nat)
  /-- Offset 0 is kept for the plain statement. -/
  | zeroOffset
  /-- An offset is near enough to one with a statement. -/
  | nearOffset (start tolerance offset : Nat)
  /-- A statement was kept for an offset. -/
  | created (start : Nat) (sql : String)
  /-- The query has nothing to order by. -/
  | unordered (start : Nat) (query : NodeId)
  /-- No statement could be compiled for an offset. -/
  | notRegistered (start : Nat) (query : NodeId) (failure : Failure)
deriving DecidableEq

namespace Event

/-- How important the event is. -/
def level : Event → Level
  | .compiled .. | .discarded .. | .served .. | .zeroOffset | .nearOffset .. => .debug
  | .created .. => .info
  | .unordered .. => .warn
  | .notRegistered _ _ failure => if failure.isModeling then .warn else .error

/-- The text of an optional key. -/
def keyText : Option CacheKey → String
  | none => "None"
  | some k => "Some(" ++ k.text ++ ")"

/-- The text of the event. -/
def message : Event → String
  | .compiled query shape sql =>
    "Translated query " ++ query.text ++ " as " ++ shape.text ++ ": " ++ sql
  | .discarded count key =>
    "Discarding " ++ toString count ++ " cached offsets compiled for " ++ keyText key
  | .served start offset =>
    "Serving offset " ++ toString start ++ " from cache entry at offset " ++ toString offset
  | .zeroOffset => "Not registering offset 0"
  | .nearOffset start tolerance offset =>
    "Offset " ++ toString start ++ " is within " ++ toString tolerance ++
      " rows of cached offset " ++ toString offset
  | .created start sql =>
    "Created cache entry for offset " ++ toString start ++ ", sql = " ++ sql
  | .unordered start query =>
    "Not registering offset " ++ toString start ++ " for query " ++ query.text ++
      ": nothing to order by"
  | .notRegistered start query failure =>
    "Error while registering offset " ++ toString start ++ " for query " ++ query.text ++ ": " ++
      failure.message

/-- The level and the text of the event. -/
def text (e : Event) : String :=
  e.level.text ++ " " ++ e.message

end Event

/-- The events of a computation and how it ended. -/
structure Traced (α : Type) where
  events : List Event
  outcome : Except Failure α

namespace Traced

variable {α β : Type}

/-- Continues with the result, unless there is none. -/
def bind (x : Traced α) (f : α → Traced β) : Traced β :=
  match x.outcome with
  | .ok a => ⟨x.events ++ (f a).events, (f a).outcome⟩
  | .error e => ⟨x.events, .error e⟩

instance : Monad Traced where
  pure a := ⟨[], .ok a⟩
  bind := bind

instance : MonadLift (Except Failure) Traced :=
  ⟨fun x => ⟨[], x⟩⟩

/-- Fails without an event. -/
def fail (e : Failure) : Traced α :=
  ⟨[], .error e⟩

/-- Reports an event. -/
def report (e : Event) : Traced Unit :=
  ⟨[e], .ok ()⟩

/-- The outcome of a sequence is the sequence of the outcomes. -/
@[simp] theorem outcome_bind (x : Traced α) (f : α → Traced β) :
    (x >>= f).outcome = x.outcome >>= fun a => (f a).outcome := by
  show (bind x f).outcome = _
  cases h : x.outcome <;> simp [bind, h, Bind.bind, Except.bind]

@[simp] theorem outcome_pure (a : α) : (pure a : Traced α).outcome = .ok a := rfl

@[simp] theorem outcome_report (e : Event) : (report e).outcome = .ok () := rfl

@[simp] theorem outcome_fail (e : Failure) : (fail e : Traced α).outcome = .error e := rfl

@[simp] theorem outcome_liftM (x : Except Failure α) : (liftM x : Traced α).outcome = x := rfl

/-- Continuing with the bare result changes nothing. -/
theorem bind_ok (x : Traced α) : bind x (fun a => ⟨[], .ok a⟩) = x := by
  obtain ⟨es, o⟩ := x
  cases o <;> simp [bind]

/-- A bare result only starts what follows. -/
theorem ok_bind (a : α) (f : α → Traced β) : bind ⟨[], .ok a⟩ f = f a := by
  simp [bind]

/-- Continuations compose. -/
theorem bind_bind {γ : Type} (x : Traced α) (f : α → Traced β) (g : β → Traced γ) :
    bind (bind x f) g = bind x fun a => bind (f a) g := by
  obtain ⟨es, o⟩ := x
  cases o with
  | error e => simp [bind]
  | ok a => cases h : (f a).outcome <;> simp [bind, h]

instance : LawfulMonad Traced :=
  LawfulMonad.mk' Traced bind_ok ok_bind bind_bind

end Traced

end ObjectQuery
