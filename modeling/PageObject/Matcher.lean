import PageObject.ParameterType

namespace PageObject

inductive Matcher where
  | isTrue
  | isFalse
  | notNull
  | stringEquals
  | stringContains
deriving DecidableEq, Repr

namespace Matcher

def all : List Matcher := [.isTrue, .isFalse, .notNull, .stringEquals, .stringContains]

def name : Matcher → String
  | .isTrue => "isTrue"
  | .isFalse => "isFalse"
  | .notNull => "notNull"
  | .stringEquals => "stringEquals"
  | .stringContains => "stringContains"

def ofName? (name : String) : Option Matcher := all.find? fun matcher => matcher.name = name

def supported : String := ", ".intercalate (all.map name)

def argumentType? : Matcher → Option ParameterType
  | .isTrue | .isFalse | .notNull => none
  | .stringEquals | .stringContains => some .string

def arity (matcher : Matcher) : Nat := matcher.argumentType?.toList.length

def resultType : Matcher → String
  | .isTrue | .isFalse => "Boolean"
  | .notNull => "Object"
  | .stringEquals | .stringContains => "String"

def condition (operand arguments : String) : Matcher → String
  | .isTrue => "Boolean.TRUE.equals(" ++ operand ++ ")"
  | .isFalse => "Boolean.FALSE.equals(" ++ operand ++ ")"
  | .notNull => operand ++ " != null"
  | .stringEquals => operand ++ " != null && " ++ operand ++ ".equals(" ++ arguments ++ ")"
  | .stringContains => operand ++ " != null && " ++ operand ++ ".contains(" ++ arguments ++ ")"

theorem ofName?_name (matcher : Matcher) : ofName? matcher.name = some matcher := by
  cases matcher <;> decide

theorem name_of_ofName? {name : String} {matcher : Matcher} (h : ofName? name = some matcher) :
    matcher.name = name := by
  simpa using List.find?_some h

end Matcher

end PageObject
