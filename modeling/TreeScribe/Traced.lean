import TreeScribe.Failure
import TreeScribe.Span

/-!
# Traced computations

Translating reports events on the way.  The result keeps them in order, whether it succeeds or
fails.  Main statements: what comes behind a success adds its events (`bind_of_ok`), and nothing
comes behind a failure (`bind_of_error`).
-/

namespace TreeScribe

/-- What is reported on the way. -/
inductive Event
  | translating (path parser : String)
  | unknownSyntax (kind : Kind) (span : Span)
  | translated (path : String) (unknown : Nat)
  | configLoaded (path : String)
deriving DecidableEq, Repr

/-- The line of the log that an event writes. -/
def Event.line : Event → String
  | .translating path parser => "DEBUG Translating " ++ path ++ " with the " ++ parser ++ " parser"
  | .unknownSyntax kind span =>
    "TRACE Rendering unknown syntax kind=" ++ kind.name ++ " start=" ++ toString span.start
  | .translated path unknown =>
    "DEBUG Translated " ++ path ++ " (" ++ toString unknown ++ " unknown syntax nodes)"
  | .configLoaded path => "DEBUG Loaded config from " ++ path

/-- The events of a computation in order, and how it ended. -/
structure Traced (α : Type) where
  events : List Event
  outcome : Except TranslateError α

namespace Traced

variable {α β : Type}

/-- A computation that fails without an event. -/
def fail (e : TranslateError) : Traced α := ⟨[], .error e⟩

/-- A computation that reports one event. -/
def report (e : Event) : Traced Unit := ⟨[e], .ok ()⟩

/-- A computation that ends like `outcome`, without an event. -/
def ofExcept (outcome : Except TranslateError α) : Traced α := ⟨[], outcome⟩

/-- Goes on with the value of `x`.  If `x` fails, its events are all there is. -/
def bind (x : Traced α) (f : α → Traced β) : Traced β :=
  match x.outcome with
  | .error e => ⟨x.events, .error e⟩
  | .ok a => ⟨x.events ++ (f a).events, (f a).outcome⟩

instance : Monad Traced where
  pure a := ⟨[], .ok a⟩
  bind := bind

@[simp] theorem events_pure (a : α) : (pure a : Traced α).events = [] := rfl

@[simp] theorem outcome_pure (a : α) : (pure a : Traced α).outcome = .ok a := rfl

theorem bind_eq (x : Traced α) (f : α → Traced β) : x >>= f = x.bind f := rfl

theorem bind_of_ok {x : Traced α} {a : α} (h : x.outcome = .ok a) (f : α → Traced β) :
    x >>= f = ⟨x.events ++ (f a).events, (f a).outcome⟩ := by
  rw [bind_eq, bind, h]

theorem bind_of_error {x : Traced α} {e : TranslateError} (h : x.outcome = .error e)
    (f : α → Traced β) : x >>= f = ⟨x.events, .error e⟩ := by
  rw [bind_eq, bind, h]

end Traced

end TreeScribe
