import PageObject.Parameter
import PageObject.Property
import PageObject.Reference

namespace PageObject.Argument

def declaredType (name context : String) : Except Fault ParameterType :=
  match ParameterType.ofName? name with
  | some type => .ok type
  | none => .error ⟨FaultCode.unsupportedType, [context, name, ParameterType.supported]⟩

def property (index : Nat) : String := s!"args[{index}]"

/-- Reads a literal argument. A declared type has to be the one that the value has; without a name
it is called by its text. -/
def readLiteral (fields : Json.Fields) (value : Json) (context : String) (registry : Registry) :
    Except Fault Parameter := do
  let type ← match ParameterType.ofLiteral? value with
    | some type => pure type
    | none => throw ⟨FaultCode.unsupportedType, [context, value.kindName, ParameterType.supported]⟩
  if let some declared ← Property.string? fields "type" context then
    let declared ← declaredType declared context
    if declared ≠ type then
      throw ⟨FaultCode.wrongShape, [context, "value", "a " ++ declared.name ++ " literal"]⟩
  let name ← Property.string? fields "name" context
  return { name := name.getD value.text, type := registry.typeOf type, literal := some value }

def readNamed (fields : Json.Fields) (context : String) (registry : Registry) :
    Except Fault Parameter := do
  let name ← Property.string fields "name" context
  let typeName ← Property.string fields "type" context
  let type ← declaredType typeName context
  return { name, type := registry.typeOf type }

def read (value : Json) (index : Nat) (context : String) (registry : Registry) :
    Except Fault Parameter := do
  let fields ← Property.fields value context (property index)
  let ownContext := context ++ " " ++ property index
  match fields.get? "value" with
  | some literal => readLiteral fields literal ownContext registry
  | none => readNamed fields ownContext registry

def readFrom (context : String) (registry : Registry) (index : Nat) :
    List Json → Except Fault (List Parameter)
  | [] => .ok []
  | value :: rest => do
    let parameter ← read value index context registry
    return parameter :: (← readFrom context registry (index + 1) rest)

def readAll (values : List Json) (context : String) (registry : Registry) :
    Except Fault (List Parameter) :=
  readFrom context registry 0 values

end PageObject.Argument
