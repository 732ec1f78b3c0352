import PageObject.Json.Printer
import PageObject.NamedType

namespace PageObject

/-- An argument of a call: the parameter of that name, or a literal value written in its place. -/
structure Parameter where
  name : String
  type : NamedType
  literal : Option Json := none
deriving Repr

namespace Parameter

def isLiteral (parameter : Parameter) : Bool := parameter.literal.isSome

def argumentText (parameter : Parameter) : String :=
  match parameter.literal with
  | some value => value.text
  | none => parameter.name

def declaration (parameter : Parameter) : String :=
  parameter.type.displayName ++ " " ++ parameter.name

end Parameter

def argumentList (parameters : List Parameter) : String :=
  ", ".intercalate (parameters.map Parameter.argumentText)

end PageObject
