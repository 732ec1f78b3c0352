import PageObject.Fault
import PageObject.Parameter
import PageObject.Registry

namespace PageObject

inductive Placeholder where
  | string
  | number
deriving DecidableEq, Repr

namespace Placeholder

def type : Placeholder → ParameterType
  | .string => .string
  | .number => .number

def deleteEscapes : List Char → List Char
  | '%' :: '%' :: rest => deleteEscapes rest
  | c :: rest => c :: deleteEscapes rest
  | [] => []

def findAll : List Char → List Placeholder
  | '%' :: 's' :: rest => .string :: findAll rest
  | '%' :: 'd' :: rest => .number :: findAll rest
  | _ :: rest => findAll rest
  | [] => []

/-- The placeholders of an expression, in order. Two percent signs write one and start none. -/
def ofExpression (expression : String) : List Placeholder :=
  findAll (deleteEscapes expression.toList)

def check (expression : String) (args : List Parameter) (context : String) (registry : Registry) :
    Except Fault Unit :=
  let placeholders := ofExpression expression
  if placeholders.length ≠ args.length then
    .error ⟨FaultCode.placeholderCount,
      [context, expression, toString placeholders.length, toString args.length]⟩
  else
    let misfit? := (placeholders.zip args).find? fun (placeholder, argument) =>
      registry.parameterType? argument.type ≠ some placeholder.type
    match misfit? with
    | some (placeholder, argument) =>
      .error ⟨FaultCode.placeholderType,
        [context, argument.name, actualTypeName (registry.parameterType? argument.type),
          placeholder.type.name]⟩
    | none => .ok ()

end Placeholder

end PageObject
