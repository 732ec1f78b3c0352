import PageObject.Json.Basic

namespace PageObject

inductive ParameterType where
  | string
  | number
  | boolean
  | locator
deriving DecidableEq, Repr

namespace ParameterType

def all : List ParameterType := [.string, .number, .boolean, .locator]

def name : ParameterType → String
  | .string => "string"
  | .number => "number"
  | .boolean => "boolean"
  | .locator => "locator"

def ofName? (name : String) : Option ParameterType := all.find? fun type => type.name = name

def supported : String := ", ".intercalate (all.map name)

def ofLiteral? : Json → Option ParameterType
  | .string _ => some .string
  | .number (.int _) => some .number
  | .bool _ => some .boolean
  | _ => none

theorem ofName?_name (type : ParameterType) : ofName? type.name = some type := by
  cases type <;> decide

theorem name_of_ofName? {name : String} {type : ParameterType} (h : ofName? name = some type) :
    type.name = name := by
  simpa using List.find?_some h

theorem name_injective : Function.Injective name := by
  intro type other same
  have found := ofName?_name type
  rw [same, ofName?_name] at found
  exact (Option.some.inj found).symm

end ParameterType

end PageObject
