import PageObject.Fault

namespace PageObject

theorem exists_of_bind_eq_ok {ε α β : Type} {x : Except ε α} {f : α → Except ε β} {b : β}
    (h : x >>= f = .ok b) : ∃ a, x = .ok a ∧ f a = .ok b := by
  cases x with
  | error e => cases h
  | ok a => exact ⟨a, rfl, h⟩

namespace Property

def fields (value : Json) (context property : String) : Except Fault Json.Fields :=
  match value with
  | .object fields => .ok fields
  | _ => .error ⟨FaultCode.wrongShape, [context, property, "an object"]⟩

def string? (fields : Json.Fields) (key context : String) : Except Fault (Option String) :=
  match fields.value? key with
  | none => .ok none
  | some (.string text) => .ok (some text)
  | some _ => .error ⟨FaultCode.wrongShape, [context, key, "a string"]⟩

def string (fields : Json.Fields) (key context : String) : Except Fault String := do
  match ← string? fields key context with
  | none => .error ⟨FaultCode.missingProperty, [context, key]⟩
  | some text =>
    if text = "" then .error ⟨FaultCode.emptyString, [context, key]⟩ else .ok text

def flag (fields : Json.Fields) (key context : String) : Except Fault Bool :=
  match fields.value? key with
  | none => .ok false
  | some (.bool value) => .ok value
  | some _ => .error ⟨FaultCode.wrongShape, [context, key, "a boolean"]⟩

def items (fields : Json.Fields) (key context : String) : Except Fault (List Json) :=
  match fields.value? key with
  | none => .ok []
  | some (.array items) => .ok items
  | some _ => .error ⟨FaultCode.wrongShape, [context, key, "an array"]⟩

/-- A value whose key has to be there, even if the value is `null`. -/
def value (fields : Json.Fields) (key context : String) : Except Fault Json :=
  match fields.get? key with
  | none => .error ⟨FaultCode.missingProperty, [context, key]⟩
  | some value => .ok value

end Property

end PageObject
