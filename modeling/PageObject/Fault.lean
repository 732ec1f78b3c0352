import PageObject.Matcher
import PageObject.Selector.Strategy

namespace PageObject

namespace FaultCode

abbrev emptyString : Nat := 1000
abbrev missingProperty : Nat := 1001
abbrev noSelector : Nat := 1002
abbrev severalSelectors : Nat := 1003
abbrev placeholderCount : Nat := 1004
abbrev placeholderType : Nat := 1005
abbrev parameterConflict : Nat := 1006
abbrev unknownMatcher : Nat := 1007
abbrev matcherCount : Nat := 1008
abbrev unsupportedType : Nat := 1009
abbrev wrongShape : Nat := 1010
abbrev duplicateAccessor : Nat := 1011
abbrev filterOfSingle : Nat := 1012
abbrev invalidReference : Nat := 1013
abbrev nestingNotAllowed : Nat := 1014
abbrev unsupportedProperty : Nat := 1015
abbrev matcherType : Nat := 1016
abbrev invalidElementName : Nat := 1017
abbrev invalidMethodName : Nat := 1018

end FaultCode

/-- What is wrong with a page or a part of it: a code, and the arguments of the message in order.
Nothing ties the number of the arguments to the code. -/
structure Fault where
  code : Nat
  args : List String
deriving DecidableEq, Repr

def Fault.text (fault : Fault) : String :=
  "compilation error " ++ toString fault.code ++ ": [" ++ ", ".intercalate fault.args ++ "]"

inductive NestingBar where
  | returnsList
  | hasPageObjectType
deriving DecidableEq, Repr

def NestingBar.text : NestingBar → String
  | .returnsList => "element returns a list"
  | .hasPageObjectType => "element has a page object type"

def actualTypeName : Option ParameterType → String
  | some type => type.name
  | none => "unknown"

def pageContext : String := "page object"

end PageObject
