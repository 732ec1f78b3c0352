import PageObject.Fault
import PageObject.NamedType

namespace PageObject

inductive Event.Level where
  | debug
  | trace
deriving DecidableEq, Repr

def Event.Level.name : Event.Level → String
  | .debug => "DEBUG"
  | .trace => "TRACE"

inductive Event where
  | readRootSelector (strategy : Strategy)
  | addedParameter (owner parameter : String)
  | builtAccessor (method : String) (parameterCount : Nat) (returnType : NamedType)
  | skippedElement (element : String) (code : Nat)
  | compiledPage (methodCount diagnosticCount : Nat)
deriving DecidableEq, Repr

namespace Event

def level : Event → Level
  | .readRootSelector .. | .addedParameter .. => .trace
  | .builtAccessor .. | .skippedElement .. | .compiledPage .. => .debug

def message : Event → String
  | .readRootSelector .. => "parsed root selector"
  | .addedParameter .. => "added method parameter"
  | .builtAccessor .. => "built element accessor"
  | .skippedElement .. => "skipped element declaration"
  | .compiledPage .. => "compiled page object"

def details : Event → List (String × String)
  | .readRootSelector strategy => [("kind", strategy.property)]
  | .addedParameter owner parameter => [("owner", owner), ("parameter", parameter)]
  | .builtAccessor method parameterCount returnType =>
    [("method", method), ("parameters", toString parameterCount),
      ("return_type", returnType.displayName)]
  | .skippedElement element code => [("element", element), ("code", toString code)]
  | .compiledPage methodCount diagnosticCount =>
    [("methods", toString methodCount), ("diagnostics", toString diagnosticCount)]

end Event

structure Logged (α : Type) where
  value : α
  events : List Event

namespace Logged

variable {α β : Type}

instance : Monad Logged where
  pure value := ⟨value, []⟩
  bind x f := ⟨(f x.value).value, x.events ++ (f x.value).events⟩

def note (event : Event) : Logged Unit := ⟨(), [event]⟩

@[simp] theorem value_pure (x : α) : (pure x : Logged α).value = x := rfl

@[simp] theorem events_pure (x : α) : (pure x : Logged α).events = [] := rfl

@[simp] theorem value_bind (x : Logged α) (f : α → Logged β) :
    (x >>= f).value = (f x.value).value := rfl

@[simp] theorem events_bind (x : Logged α) (f : α → Logged β) :
    (x >>= f).events = x.events ++ (f x.value).events := rfl

end Logged

/-- A computation that may fail and keeps its events when it does. -/
abbrev Attempt (α : Type) := ExceptT Fault Logged α

namespace Attempt

variable {α β : Type}

def ofExcept (result : Except Fault α) : Attempt α := ExceptT.mk ⟨result, []⟩

instance : MonadLift (Except Fault) (ExceptT Fault Logged) := ⟨ofExcept⟩

def note (event : Event) : Attempt Unit := ExceptT.lift (Logged.note event)

def outcome (attempt : Attempt α) : Except Fault α := attempt.run.value

def events (attempt : Attempt α) : List Event := attempt.run.events

@[simp] theorem outcome_pure (x : α) : outcome (pure x) = .ok x := rfl

@[simp] theorem outcome_ofExcept (result : Except Fault α) :
    outcome (ofExcept result) = result := rfl

@[simp] theorem outcome_liftM (result : Except Fault α) :
    outcome (liftM result : Attempt α) = result := rfl

@[simp] theorem outcome_throw (fault : Fault) : outcome (throw fault : Attempt α) = .error fault := rfl

@[simp] theorem outcome_bind (x : Attempt α) (f : α → Attempt β) :
    outcome (x >>= f) = outcome x >>= fun a => outcome (f a) := by
  show (ExceptT.bindCont f x.run.value).value = Except.bind x.run.value _
  cases x.run.value <;> rfl

@[simp] theorem outcome_map (f : α → β) (x : Attempt α) : outcome (f <$> x) = (outcome x).map f := by
  show outcome (x >>= fun a => pure (f a)) = _
  rw [outcome_bind]
  cases outcome x <;> rfl

section Events

variable {x : Attempt α} {f : α → Attempt β} {a : α}

theorem events_bind_of_ok (h : x.outcome = .ok a) : (x >>= f).events = x.events ++ (f a).events := by
  show x.run.events ++ (ExceptT.bindCont f x.run.value).events = _
  unfold outcome at h
  rw [h]
  rfl

theorem events_liftM_bind {result : Except Fault α} (h : result = .ok a) :
    ((liftM result : Attempt α) >>= f).events = (f a).events :=
  events_bind_of_ok (x := liftM result) h

theorem events_map (g : α → β) (h : x.outcome = .ok a) : (g <$> x).events = x.events := by
  show (x >>= fun a => pure (g a)).events = _
  rw [events_bind_of_ok h]
  exact List.append_nil _

theorem events_lift (logged : Logged α) : events (ExceptT.lift logged) = logged.events :=
  List.append_nil _

end Events

end Attempt

end PageObject
